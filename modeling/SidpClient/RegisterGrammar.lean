import Mathlib.Data.List.Forall2
import SidpClient.CheckedArithmetic
import SidpClient.QuietPrograms

/-! The register list of WRITE_REGISTERS: its grammar, and the two walkers over it. -/
namespace SidpClient
open LittleEndian Interactive CheckedArithmetic

/-- A register entry as a host may write it. -/
structure WireRegister where
  id : UInt16
  value : List UInt8
  nonempty : 1 ≤ value.length
  fits : value.length < 256

namespace WireRegister

/-- The prefix with flags 0, and the value. -/
def bytes (r : WireRegister) : List UInt8 :=
  le16 r.id ++ [UInt8.ofNat r.value.length, RegisterFlag.none] ++ r.value

def size (r : WireRegister) : ℕ := registerValueSize + r.value.length

/-- An entry for the PC, of four bytes. -/
def isPc (r : WireRegister) : Bool := r.id == armRegPc && r.value.length == 4

end WireRegister

/-- The walk of `op_write_registers` with every addition and subtraction checked; `std::size_t` has
at least 32 bits. -/
def checkedRegisterList (blob : List UInt8) : ℕ → ℕ → Checked (Option ℕ)
  | 0, offset => return some offset
  | count + 1, offset => do
    let left ← subChecked blob.length offset
    if left < registerValueSize then
      return none
    else
      let valueSize := getU8 blob (offset + 2)
      let flags := getU8 blob (offset + 3)
      let offset ← addChecked 32 offset registerValueSize
      if valueSize = 0 ∨ flags ≠ RegisterFlag.none then
        return none
      else
        let left ← subChecked blob.length offset
        if valueSize.toNat > left then
          return none
        else
          let next ← addChecked 32 offset valueSize.toNat
          checkedRegisterList blob count next

/-- What a walker's entry tells of a register: its bytes lie whole within the list. -/
structure SeesRegister (list : List UInt8) (entry : RegisterEntry) (r : WireRegister) : Prop where
  id : entry.registerId = r.id
  valueSize : entry.valueSize.toNat = r.value.length
  flags : entry.flags = RegisterFlag.none
  value : slice list (entry.offset + registerValueSize) r.value.length = r.value
  inside : entry.offset + entry.size ≤ list.length

variable {list rest : List UInt8} {r : WireRegister} {rs : List WireRegister} {count offset : ℕ}

/-! One entry. -/

theorem WireRegister.bytes_length (r : WireRegister) : r.bytes.length = r.size := by
  rw [bytes, size, registerValueSize, List.length_append, List.length_append, le16_length]
  rfl

/-- The size byte of an entry says how long its value is. -/
theorem WireRegister.valueSize (r : WireRegister) :
    (UInt8.ofNat r.value.length).toNat = r.value.length := by
  rw [UInt8.toNat_ofNat']
  exact Nat.mod_eq_of_lt r.fits

/-- The bytes found where a list goes on with an entry. -/
structure EntryAt (list : List UInt8) (offset : ℕ) (r : WireRegister) : Prop where
  room : offset + r.size ≤ list.length
  id : getU16 list offset = r.id
  valueSize : (getU8 list (offset + 2)).toNat = r.value.length
  flags : getU8 list (offset + 3) = RegisterFlag.none
  value : slice list (offset + registerValueSize) r.value.length = r.value

theorem entryAt_of_drop (hd : list.drop offset = r.bytes ++ rest) : EntryAt list offset r := by
  have hlen := r.bytes_length
  have hsize : r.size = 4 + r.value.length := rfl
  have hid : slice r.bytes 0 2 = le16 r.id := by
    simp [slice, WireRegister.bytes, List.take_left']
  have hvalue : slice r.bytes 4 r.value.length = r.value := by
    have hfront : (le16 r.id ++ [UInt8.ofNat r.value.length, RegisterFlag.none]).length = 4 := by
      simp
    rw [slice, WireRegister.bytes, List.drop_left' hfront, List.take_length]
  constructor
  · have hl := congrArg List.length hd
    rw [List.length_drop, List.length_append, hlen] at hl
    omega
  · have hs := slice_of_drop hd (i := 0) (n := 2) (by omega)
    rw [getU16, show offset = offset + 0 from rfl, hs, hid, ofNat_leNat_le16]
  · rw [getU8_of_drop hd (by omega), ← r.valueSize]
    simp [getU8, WireRegister.bytes, le16_length]
  · rw [getU8_of_drop hd (by omega)]
    simp [getU8, WireRegister.bytes, List.getElem?_append]
  · have hs := slice_of_drop hd (i := 4) (n := r.value.length) (by omega)
    rw [registerValueSize, hs, hvalue]

/-- An entry the checks of the walk accept is one of the grammar. -/
theorem drop_of_accepted {valueSize : ℕ} (hsize : (getU8 list (offset + 2)).toNat = valueSize)
    (hne : getU8 list (offset + 2) ≠ 0) (hflags : getU8 list (offset + 3) = RegisterFlag.none)
    (hroom : offset + registerValueSize + valueSize ≤ list.length) :
    ∃ r : WireRegister, r.size = registerValueSize + valueSize ∧
      list.drop offset = r.bytes ++ list.drop (offset + registerValueSize + valueSize) := by
  rw [registerValueSize] at *
  have hlen := slice_length list (offset + 4) valueSize (by omega)
  have hlt : valueSize < 256 := hsize ▸ (getU8 list (offset + 2)).toNat_lt
  have hpos : 1 ≤ valueSize := by
    by_contra hz
    apply hne
    apply UInt8.toNat_inj.mp
    rw [hsize]
    show valueSize = 0
    omega
  let r : WireRegister :=
    ⟨getU16 list offset, slice list (offset + 4) valueSize, by omega, by omega⟩
  have hbyte : UInt8.ofNat (slice list (offset + 4) valueSize).length = getU8 list
      (offset + 2) := by
    rw [hlen, ← hsize, UInt8.ofNat_toNat]
  refine ⟨r, by rw [WireRegister.size, hlen]; rfl, ?_⟩
  calc list.drop offset
      = slice list offset 2 ++ (slice list (offset + 2) 1 ++ (slice list (offset + 2 + 1) 1 ++
          (slice list (offset + 2 + 1 + 1) valueSize ++
            list.drop (offset + 2 + 1 + 1 + valueSize)))) := by
        rw [← drop_eq_slice_append, ← drop_eq_slice_append, ← drop_eq_slice_append,
          ← drop_eq_slice_append]
    _ = r.bytes ++ list.drop (offset + 4 + valueSize) := by
        rw [slice_one list (offset + 2) (by omega), slice_one list (offset + 2 + 1) (by omega),
          ← le16_getU16 list offset (by omega), WireRegister.bytes, hbyte, ← hflags]
        simp [r]

/-! The walk of `op_write_registers`. -/

/-- The walk reaches the end of the list exactly if the list is that many entries. -/
theorem walkRegisterList_iff (list : List UInt8) (count offset : ℕ)
    (hoffset : offset ≤ list.length) :
    walkRegisterList list count offset = some list.length ↔
      ∃ rs : List WireRegister, rs.length = count ∧
        list.drop offset = rs.flatMap WireRegister.bytes := by
  -- induction on the entries still to come, at whatever offset the walk stands
  induction count generalizing offset with
  | zero =>
    rw [walkRegisterList, Option.some.injEq]
    constructor
    · intro hend
      exact ⟨[], rfl, by rw [hend, List.drop_length]; rfl⟩
    · intro ⟨rs, hnone, hrest⟩
      rw [List.length_eq_zero_iff.mp hnone, List.flatMap_nil, List.drop_eq_nil_iff] at hrest
      omega
  | succ count ih =>
    constructor
    · intro hwalk
      rw [walkRegisterList] at hwalk
      split at hwalk
      · exact absurd hwalk (by simp)
      · rename_i hhead
        simp only at hwalk
        split at hwalk
        · exact absurd hwalk (by simp)
        · rename_i hentry
          simp only [not_or, not_lt, ne_eq, not_not, gt_iff_lt] at hentry
          obtain ⟨hne, hflags, hvalue⟩ := hentry
          rw [registerValueSize] at hhead hvalue hwalk
          have hroom : offset + 4 + (getU8 list (offset + 2)).toNat ≤ list.length := by omega
          obtain ⟨r, -, hr⟩ := drop_of_accepted rfl hne hflags hroom
          obtain ⟨rs, hcount, hrs⟩ := (ih _ hroom).mp hwalk
          exact ⟨r :: rs, by rw [List.length_cons, hcount],
            by rw [List.flatMap_cons, ← hrs]; exact hr⟩
    · intro ⟨rs, hcount, hrs⟩
      cases rs with
      | nil => exact absurd hcount (by simp)
      | cons r rs =>
        rw [List.flatMap_cons] at hrs
        have at_r := entryAt_of_drop hrs
        have hroom := at_r.room
        have hne : getU8 list (offset + 2) ≠ 0 := by
          intro hz
          have hsize := at_r.valueSize
          have hpos := r.nonempty
          rw [hz] at hsize
          change 0 = r.value.length at hsize
          omega
        rw [WireRegister.size, registerValueSize] at hroom
        have hhead : ¬list.length - offset < registerValueSize := by
          rw [registerValueSize]
          omega
        have hentry : ¬(getU8 list (offset + 2) = 0 ∨ getU8 list (offset + 3) ≠ RegisterFlag.none ∨
            (getU8 list (offset + 2)).toNat > list.length - (offset + registerValueSize)) := by
          rw [at_r.valueSize, registerValueSize]
          rintro (hz | hf | hv)
          · exact hne hz
          · exact hf at_r.flags
          · omega
        rw [walkRegisterList, if_neg hhead]
        simp only
        rw [if_neg hentry, at_r.valueSize, ih _ (by rw [registerValueSize]; omega)]
        refine ⟨rs, by simpa using hcount, ?_⟩
        have hnext := congrArg (List.drop r.bytes.length) hrs
        rwa [List.drop_left, List.drop_drop, r.bytes_length, WireRegister.size,
          ← add_assoc] at hnext

/-- No operation of the walk wraps. -/
theorem checkedRegisterList_ok (list : List UInt8) (short : list.length < 2 ^ 32) (count offset : ℕ)
    (hoffset : offset ≤ list.length) :
    checkedRegisterList list count offset = .ok (walkRegisterList list count offset) := by
  induction count generalizing offset with
  | zero => rfl
  | succ count ih =>
    rw [checkedRegisterList, walkRegisterList, subChecked_ok hoffset, ok_bind]
    by_cases hhead : list.length - offset < registerValueSize
    · rw [if_pos hhead, if_pos hhead, pure_eq_ok]
    · have hroom : offset + registerValueSize ≤ list.length := by omega
      rw [if_neg hhead, if_neg hhead, addChecked_ok (by omega)]
      simp only [ok_bind]
      by_cases hentry : getU8 list (offset + 2) = 0 ∨ getU8 list (offset + 3) ≠ RegisterFlag.none
      · rw [if_pos hentry, if_pos (or_assoc.mp (Or.inl hentry)), pure_eq_ok]
      · rw [if_neg hentry, subChecked_ok hroom, ok_bind]
        by_cases hvalue : (getU8 list (offset + 2)).toNat > list.length -
          (offset + registerValueSize)
        · rw [if_pos hvalue, if_pos (or_assoc.mp (Or.inr hvalue)), pure_eq_ok]
        · have hnext : addChecked 32 (offset + registerValueSize) (getU8 list (offset + 2)).toNat =
              .ok (offset + registerValueSize + (getU8 list (offset + 2)).toNat) :=
                addChecked_ok (by omega)
          rw [if_neg hvalue, if_neg fun refused => (or_assoc.mpr refused).elim hentry hvalue, hnext,
            ok_bind]
          exact ih _ (by omega)

/-! The walk of `update_step_over_after_register_write`. -/

theorem registerEntryAt_of_entry (at_r : EntryAt list offset r) :
    SeesRegister list (registerEntryAt (getU8 list) offset) r := by
  have hroom := at_r.room
  have hsize : r.size = 4 + r.value.length := rfl
  have hread := Buffer.read_getU8 list offset 2 (by omega)
  constructor
  · rw [registerEntryAt, hread, ← at_r.id, getU16, getU16]
    simp only [slice, List.drop_zero, List.take_take, Nat.min_self]
  · exact at_r.valueSize
  · exact at_r.flags
  · exact at_r.value
  · rw [RegisterEntry.size, registerEntryAt, at_r.valueSize]
    exact hroom

/-- On a list of the grammar the second walker sees the same entries and reads within the list. -/
theorem registerEntriesFrom_sees (list : List UInt8) (rs : List WireRegister) (fuel offset : ℕ)
    (hfuel : list.length ≤ offset + fuel) (hrs : list.drop offset = rs.flatMap WireRegister.bytes) :
    List.Forall₂ (SeesRegister list)
      (registerEntriesFrom (getU8 list) list.length fuel offset) rs := by
  induction fuel generalizing offset rs with
  | zero =>
    cases rs with
    | nil => exact .nil
    | cons r rs =>
      have hroom := (entryAt_of_drop (hrs.trans List.flatMap_cons)).room
      have hsize : r.size = 4 + r.value.length := rfl
      omega
  | succ fuel ih =>
    cases rs with
    | nil =>
      have hend : ¬offset + registerValueSize ≤ list.length := by
        rw [List.flatMap_nil, List.drop_eq_nil_iff] at hrs
        rw [registerValueSize]
        omega
      rw [registerEntriesFrom, if_neg hend]
      exact .nil
    | cons r rs =>
      rw [List.flatMap_cons] at hrs
      have at_r := entryAt_of_drop hrs
      have sees := registerEntryAt_of_entry at_r
      have hroom := at_r.room
      have hsize : r.size = 4 + r.value.length := rfl
      have hentry : (registerEntryAt (getU8 list) offset).size = r.size := by
        rw [RegisterEntry.size, sees.valueSize]
        rfl
      have hhead : offset + registerValueSize ≤ list.length := by
        rw [registerValueSize]
        omega
      have hwhole : ¬offset + (registerEntryAt (getU8 list) offset).size > list.length := by
        rw [hentry]
        omega
      rw [registerEntriesFrom, if_pos hhead]
      simp only
      rw [if_neg hwhole, hentry]
      refine .cons sees (ih rs _ (by omega) ?_)
      have hnext := congrArg (List.drop r.bytes.length) hrs
      rwa [List.drop_left, List.drop_drop, r.bytes_length] at hnext

theorem registerEntries_sees (hrs : list = rs.flatMap WireRegister.bytes) :
    List.Forall₂ (SeesRegister list) (registerEntries (getU8 list) list.length) rs :=
  registerEntriesFrom_sees list rs list.length 0 (by omega) (by rwa [List.drop_zero])

/-- Two walkers that see the same entries find the same first one. -/
theorem find_related {α β : Type} {R : α → β → Prop} {p : α → Bool} {q : β → Bool}
    (hpq : ∀ x y, R x y → p x = q y) {xs : List α} {ys : List β} (h : List.Forall₂ R xs ys) :
    Option.Rel R (xs.find? p) (ys.find? q) := by
  induction h with
  | nil => exact .none
  | @cons x y xs ys hxy _ ih =>
    rw [List.find?_cons, List.find?_cons, hpq x y hxy]
    cases q y with
    | true => exact .some hxy
    | false => exact ih

theorem SeesRegister.isPc {entry : RegisterEntry} (sees : SeesRegister list entry r) :
    (entry.registerId == armRegPc && entry.valueSize == 4) = r.isPc := by
  have hsize : (entry.valueSize == 4) = (r.value.length == 4) := by
    rw [← sees.valueSize, Bool.eq_iff_iff, beq_iff_eq, beq_iff_eq, ← UInt8.toNat_inj]
    rfl
  rw [WireRegister.isPc, sees.id, hsize]

/-- The PC the second walker reads is the number the entry carries. -/
theorem SeesRegister.pc {entry : RegisterEntry} (sees : SeesRegister list entry r)
    (isPc : r.isPc = true) :
    (getU32 list (entry.offset + registerValueSize)).toUInt64.toNat = leNat r.value := by
  have hlen : r.value.length = 4 := by
    rw [WireRegister.isPc, Bool.and_eq_true] at isPc
    exact eq_of_beq isPc.2
  have hvalue := sees.value
  have hlt := leNat_lt r.value
  rw [hlen] at hvalue hlt
  rw [getU32, hvalue, UInt32.toNat_toUInt64, UInt32.toNat_ofNat']
  exact Nat.mod_eq_of_lt hlt

/-- A written list redirects a step-over at an address: its first PC entry has another value. -/
def Redirects (rs : List WireRegister) (address : UInt64) : Prop :=
  ∃ r, rs.find? WireRegister.isPc = some r ∧ leNat r.value ≠ address.toNat

/-- The second walker cancels a pending step-over exactly for a list that redirects it, and changes
nothing else. -/
theorem updateStepOver_exact (s : Session) (hrs : list = rs.flatMap WireRegister.bytes)
    (pending : s.swStepOverPending = true) :
    (Redirects rs s.swStepOverAddress ∧ updateStepOverAfterRegisterWrite list rs.length s =
        { s with swStepOverPending := false, swStepOverAddress := 0 }) ∨
      (¬Redirects rs s.swStepOverAddress ∧ updateStepOverAfterRegisterWrite list
        rs.length s = s) := by
  have sees := registerEntries_sees hrs
  have found := find_related (R := SeesRegister list) (fun _ _ seen => seen.isPc) sees
  have hall : (registerEntries (fun i => getU8 list i) list.length).take rs.length =
      registerEntries (getU8 list) list.length := List.take_of_length_le sees.length_eq.le
  have hpending : ¬(!s.swStepOverPending) = true := by simp [pending]
  rw [updateStepOverAfterRegisterWrite, if_neg hpending, hall, Redirects]
  simp only
  generalize (registerEntries (getU8 list) list.length).find? _ = hit at found ⊢
  cases hfind : rs.find? WireRegister.isPc with
  | none =>
    rw [hfind] at found
    cases found
    exact Or.inr ⟨by simp, rfl⟩
  | some r =>
    rw [hfind] at found
    cases found with
    | @some entry _ seen =>
      have hpc := seen.pc (List.find?_some hfind)
      by_cases hsame : leNat r.value = s.swStepOverAddress.toNat
      · have heq := UInt64.toNat_inj.mp (hpc.trans hsame)
        refine Or.inr ⟨?_, if_neg (not_not.mpr heq)⟩
        rintro ⟨r', hr', hne⟩
        cases hr'
        exact hne hsame
      · have hne : (getU32 list (entry.offset + registerValueSize)).toUInt64 ≠
            s.swStepOverAddress := by
          intro heq
          rw [heq] at hpc
          exact hsame hpc.symm
        exact Or.inl ⟨⟨r, rfl, hsame⟩, if_pos hne⟩

/-! The request. -/

/-- The register list of a WRITE_REGISTERS payload. -/
def registerList (payload : List UInt8) : List UInt8 := payload.drop writeRegistersRequestSize

/-- A payload that asks for one core, and for at least one register in a list of the grammar. -/
structure WriteGrammar (payload : List UInt8) (rs : List WireRegister) : Prop where
  core : (RegistersRequest.parse payload).coreId = 0
  some : 1 ≤ (RegistersRequest.parse payload).registerCount.toNat
  count : rs.length = (RegistersRequest.parse payload).registerCount.toNat
  list : registerList payload = rs.flatMap WireRegister.bytes

section
variable {s : Session} {h : SessionHistory} {payload message : List UInt8}

theorem checkWriteRegisters_grammar (hsize : writeRegistersRequestSize ≤ payload.length)
    (hstop : (RegistersRequest.parse payload).stopId = s.stopId) :
    (checkWriteRegisters s payload = .ok (RegistersRequest.parse payload) ∧
        ∃ rs, WriteGrammar payload rs) ∨
      (checkWriteRegisters s payload = .error .invalidArgument ∧ ¬∃ rs,
        WriteGrammar payload rs) := by
  have hshort : ¬payload.length < writeRegistersRequestSize := by omega
  have hwalk := walkRegisterList_iff (registerList payload)
    (RegistersRequest.parse payload).registerCount.toNat 0 (Nat.zero_le _)
  rw [List.drop_zero] at hwalk
  have hzero : (RegistersRequest.parse payload).registerCount = 0 ↔
      ¬1 ≤ (RegistersRequest.parse payload).registerCount.toNat := by
    rw [← UInt16.toNat_inj]
    show _ = 0 ↔ _
    omega
  have hrefused : ((RegistersRequest.parse payload).coreId ≠ 0 ∨
      (RegistersRequest.parse payload).registerCount = 0 ∨
      walkRegisterList (registerList payload) (RegistersRequest.parse payload).registerCount.toNat
        0 ≠
        some (registerList payload).length) ↔ ¬∃ rs, WriteGrammar payload rs := by
    rw [ne_eq, ne_eq, hwalk, hzero]
    constructor
    · rintro refused ⟨rs, hrs⟩
      rcases refused with core | none | malformed
      · exact core hrs.core
      · exact none hrs.some
      · exact malformed ⟨rs, hrs.count, hrs.list⟩
    · intro hgrammar
      by_contra accepted
      simp only [not_or, not_not] at accepted
      obtain ⟨core, some, rs, count, list⟩ := accepted
      exact hgrammar ⟨rs, core, some, count, list⟩
  simp only [checkWriteRegisters, bind, Except.bind, pure, Except.pure, throw, throwThe,
    MonadExceptOf.throw, if_neg hshort, hstop, ne_eq, not_true, if_false]
  by_cases hgrammar : ∃ rs, WriteGrammar payload rs
  · exact Or.inl ⟨if_neg fun refused => hrefused.mp refused hgrammar, hgrammar⟩
  · exact Or.inr ⟨if_pos (hrefused.mpr hgrammar), hgrammar⟩

/-- The session behind a written list: the step-over is cancelled if the list redirects it. -/
def WrittenBack (s s' : Session) (rs : List WireRegister) : Prop :=
  s.swStepOverPending = true → (s'.swStepOverPending = false ↔ Redirects rs s.swStepOverAddress) ∧
    (s'.swStepOverPending = true → s'.swStepOverAddress = s.swStepOverAddress)

theorem writtenBack_framed {rs : List WireRegister}
    (hrs : registerList payload = rs.flatMap WireRegister.bytes) (b : Buffer)
    (n : ℕ) (dead : Bool) :
    WrittenBack s
      ((updateStepOverAfterRegisterWrite (registerList payload) rs.length s).framed b n dead)
      rs := by
  intro pending
  rcases updateStepOver_exact s hrs pending with ⟨redirects, updated⟩ | ⟨kept, updated⟩
  · rw [updated]
    exact ⟨⟨fun _ => redirects, fun _ => rfl⟩, fun still => absurd still Bool.false_ne_true⟩
  · rw [updated]
    refine ⟨⟨fun cancelled => ?_, fun redirects => absurd redirects kept⟩, fun _ => rfl⟩
    exact absurd (pending.symm.trans cancelled) (by decide)

/-- For every halted session, every backend and every WRITE_REGISTERS with the current stop
identifier: over a live transport the backend gets exactly the bytes of a well-formed list, in one
call, and a list that is not well formed is answered INVALID_ARGUMENT without one; over a dead one
the request is dropped. No operation of the walk wraps, the second walk sees the same entries and
reads only inside the list, and after a write that succeeds it cancels a pending step-over exactly
if the first PC entry of four bytes has another value. -/
theorem write_registers_exact (halted : s.state = .halted)
    (valid : ValidRequest message)
    (op : requestOp (MsgHeader.parse message).opcode = some .writeRegisters)
    (size : writeRegistersRequestSize ≤ (message.drop headerSize).length)
    (stop : (RegistersRequest.parse (message.drop headerSize)).stopId = s.stopId) :
    let payload := message.drop headerSize
    let list := registerList payload
    (s.transportDead = false → (handleRequest message).wp s h fun _ s' h' =>
      (∀ rs, WriteGrammar payload rs → ∃ a evs,
        h' = h ++ ⟨.call s (.writeRegs list), a⟩ :: evs ∧ calls evs = [] ∧
          (a.code = .ok → WrittenBack s s' rs)) ∧
      ((¬∃ rs, WriteGrammar payload rs) → ∃ b f accepted,
        h' = h ++ [⟨.offer f, accepted⟩] ∧ s' = s.framed b 16 (!accepted) ∧
          ResponseFrame Opcode.writeRegisters (MsgHeader.parse message).requestId
            .invalidArgument f)) ∧
      (s.transportDead = true → (handleRequest message).wp s h fun _ s' h' => s' = s ∧ h' = h) ∧
      checkedRegisterList list (RegistersRequest.parse payload).registerCount.toNat 0 =
        .ok (walkRegisterList list (RegistersRequest.parse payload).registerCount.toNat 0) ∧
      ∀ rs, WriteGrammar payload rs →
        List.Forall₂ (SeesRegister list)
          ((registerEntries (getU8 list) list.length).take
            (RegistersRequest.parse payload).registerCount.toNat) rs := by
  intro payload list
  have short : list.length < 2 ^ 32 := by
    have bound := valid.size.2
    have frame : maxFrameSize = 8192 := rfl
    have inside : list.length ≤ message.length := by
      simp only [list, registerList, payload, List.length_drop]
      omega
    omega
  refine ⟨fun alive => ?_, handleRequest_dropped, checkedRegisterList_ok list short _ 0
    (Nat.zero_le _), fun rs hrs => ?_⟩
  · apply handleRequest_op op
    · intro silent
      exact absurd silent (by simp [alive, valid])
    · intro _ _ _ _ gate
      rw [halted] at gate
      exact absurd gate (by simp [gateTable, gateColumn, GateType.refusal])
    · intro _ _ _
      simp only [dispatch, opWriteRegisters, Action.wp_bind, getSession_wp]
      -- the walk accepts what the grammar derives, and nothing else
      rcases checkWriteRegisters_grammar size stop with ⟨accepted, hgrammar⟩ | ⟨refused, hgrammar⟩
      · rw [accepted]
        simp only [Action.wp_bind, Action.wp_ite, Action.wp_pure, backend_wp, updateSession_wp]
        intro a
        constructor
        · intro failed
          apply sendBackendFailure_uncalled
          intro s' evs uncalled
          refine ⟨fun rs _ => ⟨a, evs, (List.append_cons ..).symm, uncalled, fun ok =>
            absurd ok failed⟩, fun none => absurd hgrammar none⟩
        · intro _
          apply respond_wp
          intro b dead evs sent
          refine ⟨fun rs hrs => ⟨a, evs, (List.append_cons ..).symm, sent.calls_nil, fun _ => ?_⟩,
            fun none => absurd hgrammar none⟩
          rw [← hrs.count]
          exact writtenBack_framed hrs.list b 16 dead
      · rw [refused]
        apply respond_wp
        intro b dead evs sent
        rcases sent with ⟨gone, -, -⟩ | ⟨-, f, taken, frame, rfl, rfl⟩
        · exact absurd (alive.symm.trans gone) Bool.false_ne_true
        · exact ⟨fun rs hrs => absurd ⟨rs, hrs⟩ hgrammar, fun _ => ⟨b, f, taken, rfl, rfl, frame⟩⟩
  · rw [← hrs.count]
    have sees := registerEntries_sees hrs.list
    rwa [List.take_of_length_le sees.length_eq.le]

end

/-- A session that stopped once, with a step-over pending. -/
def steppingOver : Session :=
  { state := .halted, stopId := 1, swStepOverPending := true, swStepOverAddress := 0x20000000 }

/-- Its host moves the PC. -/
def writePcRequest : List UInt8 :=
  requestMessage .writeRegisters 5 ([1, 0, 0, 0, 0, 0, 1, 0] ++ pcEntryBytes 0x20000100)

def movedPc : WireRegister := ⟨armRegPc, le32 0x20000100, by decide, by decide⟩

theorem moved_pc_written :
    (handleRequest writePcRequest).wp steppingOver [] fun _ s' h' => ∃ a evs,
      h' = ⟨.call steppingOver (.writeRegs (pcEntryBytes 0x20000100)), a⟩ :: evs ∧ calls evs = [] ∧
        (a.code = .ok → s'.swStepOverPending = false) := by
  have exactly := (@write_registers_exact steppingOver [] writePcRequest rfl
    ⟨by decide, by decide, by decide, by decide⟩ (by decide) (by decide) (by decide)).1 rfl
  apply Action.wp_mono exactly
  intro _ s' evs accepted
  obtain ⟨a, evs', history, uncalled, written⟩ :=
    accepted.1 [movedPc] ⟨by decide, by decide, by decide, by decide⟩
  refine ⟨a, evs', history, uncalled, fun ok => ?_⟩
  have moved : Redirects [movedPc] steppingOver.swStepOverAddress := ⟨movedPc, rfl, by decide⟩
  exact ((written ok) rfl).1.mpr moved

end SidpClient
