import SidpClient.SessionUpdates

/-! No patch and no ownership of the target is forgotten. -/
namespace SidpClient
open LittleEndian Interactive

/-! What a history says about patches. -/

/-- The bytes a read call has put into a buffer of zeros. -/
def received (data : List UInt8) (size : ℕ) : List UInt8 :=
  (List.range size).map fun i => (data.take size).getD i 0

/-- The write puts the program's own bytes over the patch at its address. -/
def PutsBack (program : Buffer) (address : UInt64) (bytes : List UInt8) : Prop :=
  bkptPatch.length ≤ bytes.length ∧ bytes = program.read address.toNat bytes.length

instance (program : Buffer) (address : UInt64) (bytes : List UInt8) :
    Decidable (PutsBack program address bytes) := inferInstanceAs (Decidable (_ ∧ _))

/-- A patch is off the ledger when a write with ESP_OK has put the instruction back. -/
def patchedCall (program : Buffer) (ledger : List UInt64) (c : Call) (a : Answer) : List UInt64 :=
  match c with
  | .writeMem .patch address _ _ => address :: ledger
  | .writeMem .restore address bytes _ =>
    if a.code = .ok ∧ PutsBack program address bytes then ledger.filter (· ≠ address) else ledger
  | _ => ledger

def programCall (program : Buffer) (c : Call) (a : Answer) : Buffer :=
  match c with
  | .readMem .original address size _ =>
    if a.code = .ok then program.write address.toNat (received a.data size) else program
  | .writeMem (.request _ data) address _ _ =>
    if a.code = .ok then program.write address.toNat data else program
  | _ => program

/-- The program beside the addresses of the patches in it. -/
structure Ledger where
  program : Buffer := Buffer.zero
  patched : List UInt64 := []

def ledgerStep (ledger : Ledger) : SessionEvent → Ledger
  | ⟨.call _ c, a⟩ =>
    { program := programCall ledger.program c a
      patched := patchedCall ledger.program ledger.patched c a }
  | ⟨.offer _, _⟩ => ledger

def ledger (h : SessionHistory) : Ledger := view ledgerStep {} h

/-- The instruction bytes as they were read before their patch, changed since only by the
WRITE_MEMORY requests that were carried out. -/
def program (h : SessionHistory) : Buffer := (ledger h).program

/-- The addresses a patch was attempted at whose original was not written back with ESP_OK since. -/
def patched (h : SessionHistory) : List UInt64 := (ledger h).patched

section
variable {h : SessionHistory} {s : Session} {c : Call} {a : Answer} {f : List UInt8}
  {accepted : Bool}

@[simp] theorem patched_call :
    patched (h ++ [⟨.call s c, a⟩]) = patchedCall (program h) (patched h) c a :=
  congrArg Ledger.patched view_concat

@[simp] theorem patched_offer : patched (h ++ [⟨.offer f, accepted⟩]) = patched h :=
  congrArg Ledger.patched view_concat

@[simp] theorem program_call : program (h ++ [⟨.call s c, a⟩]) = programCall (program h) c a :=
  congrArg Ledger.program view_concat

@[simp] theorem program_offer : program (h ++ [⟨.offer f, accepted⟩]) = program h :=
  congrArg Ledger.program view_concat

end

/-! The table invariant. -/

/-- The shadow table is right about the target: every patch that may stand is held by an entry,
with the bytes it hides. Inside a restoring loop one entry may be there twice. -/
structure Shadowed (s : Session) (h : SessionHistory) : Prop where
  owns : ownsTarget h = s.attached
  free : s.attached = false → s.swTable = []
  room : s.swTable.length ≤ maxSoftwareBreakpoints
  placed : ∀ entry ∈ s.swTable, entry.Placed
  patchable : ∀ entry ∈ s.swTable, Patchable s.regions entry.address entry.instructionSize.toNat
  mapped : s.swTable ≠ [] → advertisedMap h = some s.regions
  apart : ∀ k ∈ s.swTable.map SwBp.key, ∀ k' ∈ s.swTable.map SwBp.key, k = k' ∨ KeysApart k k'
  held : ∀ address ∈ patched h, ∃ entry ∈ s.swTable, entry.installed = true ∧
    entry.address = address
  saved : ∀ entry ∈ s.swTable, ∀ x, entry.Covers x → entry.savedAt x = program h x

variable {policy : Policy} {s s' : Session} {h h' : SessionHistory} {table : List SwBp}

theorem shadowed_fresh : Shadowed {} [] :=
  ⟨rfl, fun _ => rfl, Nat.zero_le _, by simp, by simp, by simp, by simp,
    fun _ hm => absurd hm List.not_mem_nil, by simp⟩

/-- A move that leaves the table and the views it is about. -/
theorem Shadowed.frame (hs : Shadowed s h) (attached : s'.attached = s.attached)
    (regions : s'.regions = s.regions) (swTable : s'.swTable = s.swTable)
    (owns : ownsTarget h' = ownsTarget h) (patches : patched h' ⊆ patched h)
    (map : s.swTable ≠ [] → advertisedMap h' = some s.regions)
    (bytes : ∀ entry ∈ s.swTable, ∀ x, entry.Covers x → program h' x = program h x) :
    Shadowed s' h' := by
  refine ⟨by rw [owns, attached, hs.owns], ?_, ?_, ?_, ?_, ?_, ?_, ?_, ?_⟩ <;>
    rw [swTable]
  · rw [attached]
    exact hs.free
  · exact hs.room
  · exact hs.placed
  · rw [regions]
    exact hs.patchable
  · rw [regions]
    exact map
  · exact hs.apart
  · exact fun address ha => hs.held address (patches ha)
  · intro entry hm x hx
    rw [bytes entry hm x hx]
    exact hs.saved entry hm x hx

theorem Shadowed.session (hs : Shadowed s h) (attached : s'.attached = s.attached)
    (regions : s'.regions = s.regions) (swTable : s'.swTable = s.swTable) : Shadowed s' h :=
  hs.frame attached regions swTable rfl (List.Subset.refl _) hs.mapped fun _ _ _ _ => rfl

theorem Shadowed.offer (hs : Shadowed s h) {f : List UInt8} {accepted : Bool}
    (attached : s'.attached = s.attached) (regions : s'.regions = s.regions)
    (swTable : s'.swTable = s.swTable)
    (map : advertisedBy f = none ∨ advertisedBy f = some s.regions) :
    Shadowed s' (h ++ [⟨.offer f, accepted⟩]) := by
  refine hs.frame attached regions swTable ownsTarget_offer
    (by rw [patched_offer]; exact List.Subset.refl _)
    (fun hne => ?_) fun _ _ _ _ => by rw [program_offer]
  rw [advertisedMap_offer]
  rcases map with hn | hm
  · rw [hn]
    exact hs.mapped hne
  · rw [hm]
    rfl

/-! Table operations. -/

theorem mem_modify_cases {index : ℕ} {f : SwBp → SwBp} {entry : SwBp}
    (hm : entry ∈ table.modify index f) : ∃ old ∈ table, entry = old ∨ entry = f old := by
  obtain ⟨i, get⟩ := List.mem_iff_getElem?.mp hm
  rcases getElem?_modify_cases get with ⟨-, hold⟩ | ⟨-, old, hold, rfl⟩
  · exact ⟨entry, List.mem_of_getElem? hold, Or.inl rfl⟩
  · exact ⟨old, List.mem_of_getElem? hold, Or.inr rfl⟩

/-- Changing the mark of one entry. -/
theorem Shadowed.mark (hs : Shadowed s h) (index : ℕ) {f : SwBp → SwBp}
    (hf : f = SwBp.install ∨ f = SwBp.uninstall)
    (held : ∀ address ∈ patched h,
      ∃ entry ∈ s.swTable.modify index f, entry.installed = true ∧ entry.address = address) :
    Shadowed (s.withTable (s.swTable.modify index f)) h := by
  have same (entry : SwBp) : (f entry).address = entry.address ∧
      (f entry).instructionSize = entry.instructionSize ∧ (f entry).original = entry.original := by
    rcases hf with rfl | rfl <;> exact ⟨rfl, rfl, rfl⟩
  have keys : (s.swTable.modify index f).map SwBp.key = s.swTable.map SwBp.key := by
    apply map_key_modify
    rcases hf with rfl | rfl <;> exact fun _ => rfl
  refine ⟨hs.owns, fun hd => ?_, ?_, fun entry hm => ?_, fun entry hm => ?_, fun hne => ?_, ?_,
    held, fun entry hm x hx => ?_⟩
  · rw [Session.withTable_swTable, hs.free hd]
    exact List.modify_nil ..
  · rw [Session.withTable_swTable, List.length_modify]
    exact hs.room
  · obtain ⟨old, hold, rfl | rfl⟩ := mem_modify_cases hm
    · exact hs.placed _ hold
    · obtain ⟨ha, hsize, ho⟩ := same old
      have hp := hs.placed old hold
      constructor
      · rw [hsize]
        exact hp.size
      · rw [ha, hsize]
        exact hp.bound
      · rw [ho]
        exact hp.saved
  · obtain ⟨old, hold, rfl | rfl⟩ := mem_modify_cases hm
    · exact hs.patchable _ hold
    · obtain ⟨ha, hsize, -⟩ := same old
      rw [ha, hsize]
      exact hs.patchable old hold
  · refine hs.mapped fun he => hne ?_
    rw [Session.withTable_swTable, he]
    exact List.modify_nil ..
  · rw [Session.withTable_swTable, keys]
    exact hs.apart
  · obtain ⟨old, hold, rfl | rfl⟩ := mem_modify_cases hm
    · exact hs.saved _ hold x hx
    · obtain ⟨ha, hsize, ho⟩ := same old
      rw [SwBp.Covers, ha, hsize] at hx
      rw [SwBp.savedAt, ha, ho]
      exact hs.saved old hold x hx

theorem Shadowed.install (hs : Shadowed s h) (index : ℕ) :
    Shadowed (s.withTable (s.swTable.modify index SwBp.install)) h := by
  refine hs.mark index (Or.inl rfl) fun address ha => ?_
  obtain ⟨entry, hm, inst, rfl⟩ := hs.held address ha
  obtain ⟨i, get⟩ := List.mem_iff_getElem?.mp hm
  by_cases hi : index = i
  · refine ⟨entry.install, List.mem_of_getElem? (i := i) ?_, rfl, rfl⟩
    rw [List.getElem?_modify, get]
    simp [hi]
  · refine ⟨entry, List.mem_of_getElem? (i := i) ?_, inst, rfl⟩
    rw [List.getElem?_modify, get]
    simp [hi]

theorem Shadowed.issues {s₁ : Session} (hs : Shadowed s h) (hi : Issues s s₁) : Shadowed s₁ h := by
  rcases hi with rfl | ⟨index, rfl⟩
  · exact hs
  · exact hs.install index

/-- Entries move or leave, but none that holds a patch is lost. -/
theorem Shadowed.compact (hs : Shadowed s h) (inside : ∀ entry ∈ table, entry ∈ s.swTable)
    (keeps : ∀ entry ∈ s.swTable, entry.installed = true → entry ∈ table)
    (shorter : table.length ≤ s.swTable.length) : Shadowed (s.withTable table) h := by
  have none (he : s.swTable = []) : table = [] := by
    apply List.eq_nil_iff_forall_not_mem.mpr
    intro entry hm
    have old := inside entry hm
    rw [he] at old
    exact absurd old List.not_mem_nil
  have keys : table.map SwBp.key ⊆ s.swTable.map SwBp.key := List.map_subset _ inside
  refine ⟨hs.owns, fun hd => none (hs.free hd), shorter.trans hs.room, fun e hm =>
    hs.placed e (inside e hm), fun e hm => hs.patchable e (inside e hm), fun hne =>
      hs.mapped fun he => hne (none he),
    fun k hk k' hk' => hs.apart k (keys hk) k' (keys hk'), fun address ha => ?_,
    fun e hm => hs.saved e (inside e hm)⟩
  obtain ⟨e, hm, inst, haddr⟩ := hs.held address ha
  exact ⟨e, keeps e hm inst, inst, haddr⟩

/-- What an entry has saved puts the instruction back. -/
theorem Shadowed.putsBack (hs : Shadowed s h) {entry : SwBp} (hm : entry ∈ s.swTable) :
    PutsBack (program h) entry.address entry.originalBytes := by
  have placed := hs.placed entry hm
  have two := placed.two_le
  have four := placed.le_four
  have saved := placed.saved
  have length : entry.originalBytes.length = entry.instructionSize.toNat := by
    rw [SwBp.originalBytes, List.length_take]
    omega
  refine ⟨length.symm ▸ two, List.ext_getElem (Buffer.read_length ..).symm fun i hi hi' => ?_⟩
  rw [length] at hi
  have covers : entry.Covers (entry.address.toNat + i) := ⟨by omega, by omega⟩
  have byte := hs.saved entry hm _ covers
  rw [SwBp.savedAt, Nat.add_sub_cancel_left, List.getD_eq_getElem?_getD,
    List.getElem?_eq_getElem (by omega), Option.getD_some] at byte
  rw [Buffer.read_getElem, ← byte]
  exact List.getElem_take

/-- A restoring write that returned ESP_OK. -/
theorem Shadowed.restore (hs : Shadowed s h) {index : ℕ} {entry : SwBp} {a : Answer}
    (get : s.swTable[index]? = some entry) (ok : a.code = .ok) :
    Shadowed (s.withTable (s.swTable.modify index SwBp.uninstall))
      (h ++ [⟨.call s (.writeMem .restore entry.address entry.originalBytes MemWidth.default),
        a⟩]) := by
  have hpatched : patched (h ++ [⟨.call s (.writeMem .restore entry.address entry.originalBytes
      MemWidth.default), a⟩]) = (patched h).filter (· ≠ entry.address) := by
    rw [patched_call, patchedCall, if_pos ⟨ok, hs.putsBack (List.mem_of_getElem? get)⟩]
  have hs' : Shadowed s (h ++ [⟨.call s (.writeMem .restore entry.address entry.originalBytes
      MemWidth.default), a⟩]) := by
    refine hs.frame rfl rfl rfl ownsTarget_call (fun address ha => ?_)
      (fun hne => advertisedMap_call.trans (hs.mapped hne)) fun _ _ _ _ => by rw [program_call]; rfl
    rw [hpatched] at ha
    exact List.mem_of_mem_filter ha
  refine hs'.mark index (Or.inr rfl) fun address ha => ?_
  rw [hpatched, List.mem_filter] at ha
  obtain ⟨ha, hne⟩ := ha
  obtain ⟨e, hm, inst, rfl⟩ := hs.held address ha
  obtain ⟨i, hget⟩ := List.mem_iff_getElem?.mp hm
  have hi : index ≠ i := by
    rintro rfl
    obtain rfl := Option.some.inj (hget.symm.trans get)
    simp at hne
  refine ⟨e, List.mem_of_getElem? (i := i) ?_, inst, rfl⟩
  rw [List.getElem?_modify, hget]
  simp [hi]

/-- A patch attempt, whatever its result is. -/
theorem Shadowed.arm (hs : Shadowed s h) {index : ℕ} {entry : SwBp} {a : Answer}
    (get : s.swTable[index]? = some entry) :
    Shadowed (s.withTable (s.swTable.modify index SwBp.install))
      (h ++ [⟨.call (s.withTable (s.swTable.modify index SwBp.install))
        (.writeMem .patch entry.address bkptPatch MemWidth.default), a⟩]) := by
  have hi := hs.install index
  refine ⟨?_, hi.free, hi.room, hi.placed, hi.patchable,
    fun hne => advertisedMap_call.trans (hi.mapped hne), hi.apart, fun address ha => ?_,
    fun e hm x hx => ?_⟩
  · rw [ownsTarget_call]
    exact hi.owns
  · rw [patched_call] at ha
    rcases List.mem_cons.mp ha with rfl | ha
    · refine ⟨entry.install, List.mem_of_getElem? (i := index) ?_, rfl, rfl⟩
      rw [Session.withTable_swTable, List.getElem?_modify, get]
      simp
    · exact hi.held address ha
  · rw [program_call]
    exact hi.saved e hm x hx

theorem received_length (data : List UInt8) (size : ℕ) : (received data size).length = size := by
  simp [received]

theorem Buffer.write_apply (b : Buffer) (offset : ℕ) (bytes : List UInt8) (i : ℕ) :
    b.write offset bytes i =
      if Within i offset bytes.length then bytes.getD (i - offset) 0 else b i := rfl

/-- What a recorded entry has saved is what was read. -/
theorem recorded_savedAt {entry : BpEntry} {data : List UInt8} {x : ℕ}
    (size : entry.instructionSize = 2 ∨ entry.instructionSize = 4)
    (hx : (entry.recorded data).Covers x) :
    (entry.recorded data).savedAt x =
      (received data entry.instructionSize.toNat).getD (x - entry.address.toNat) 0 := by
  obtain ⟨hlow, hhigh⟩ := hx
  obtain ⟨j, rfl⟩ := Nat.exists_eq_add_of_le hlow
  have hj : j < entry.instructionSize.toNat := Nat.lt_of_add_lt_add_left hhigh
  have h4 : j < 4 := by
    rcases size with hs | hs <;> rw [hs] at hj <;> simp at hj <;> omega
  simp only [SwBp.savedAt, BpEntry.recorded, Nat.add_sub_cancel_left, received,
    List.getD_eq_getElem?_getD]
  rw [List.getElem?_eq_getElem (by simpa using h4), Buffer.read_getElem, Option.getD_some, zero_add,
    Buffer.write_apply]
  simp only [List.getElem?_map, List.getElem?_range hj, Option.map_some, Option.getD_some, Within,
    Nat.zero_le, zero_add, true_and, Nat.sub_zero]
  split
  · rfl
  · rename_i hn
    rw [List.getElem?_eq_none (not_lt.mp hn)]
    rfl

theorem KeysApart.not_covers {entry entry' : SwBp} (hk : KeysApart entry.key entry'.key) {x : ℕ}
    (hx : entry.Covers x) : ¬entry'.Covers x := by
  rintro ⟨hl, hr⟩
  obtain ⟨hl', hr'⟩ := hx
  simp only [KeysApart, SwBp.key] at hk
  omega

/-- A read that is clear of the table. -/
theorem keysApart_of_clear {prior : SwBp} {address : UInt64} {size : ℕ} (hp : prior.Placed)
    (hb : address.toNat + size < 2 ^ 64)
    (hn : ¬(address < prior.stop ∧ prior.address < address + UInt64.ofNat size)) :
    prior.address.toNat + prior.instructionSize.toNat ≤ address.toNat ∨
      address.toNat + size ≤ prior.address.toNat := by
  rw [UInt64.lt_iff_toNat_lt, UInt64.lt_iff_toNat_lt, hp.stop_toNat, toNat_add_ofNat hb] at hn
  omega

theorem Shadowed.record (hs : Shadowed s h) {entry : BpEntry} {a : Answer}
    (allowed : CallAllowed s h
      (.readMem .original entry.address entry.instructionSize.toNat MemWidth.default))
    (size : entry.instructionSize = 2 ∨ entry.instructionSize = 4) (ok : a.code = .ok)
    (room : s.swTable.length ≠ maxSoftwareBreakpoints) :
    Shadowed (s.withTable (s.swTable ++ [entry.recorded a.data]))
      (h ++ [⟨.call s (.readMem .original entry.address entry.instructionSize.toNat
        MemWidth.default), a⟩]) := by
  obtain ⟨attached, map, patchable, clear⟩ := allowed
  have bound := patchable.bound
  -- the overlap check keeps the new entry off every recorded one
  have apart {prior : SwBp} (hm : prior ∈ s.swTable) :=
    keysApart_of_clear (hs.placed prior hm) bound
    (clear prior hm)
  have hprogram : program (h ++ [⟨.call s (.readMem .original entry.address
      entry.instructionSize.toNat MemWidth.default), a⟩]) =
      (program h).write entry.address.toNat (received a.data entry.instructionSize.toNat) := by
    rw [program_call, programCall, if_pos ok]
  have split {e : SwBp} (hm : e ∈ s.swTable ++ [entry.recorded a.data]) :
      e ∈ s.swTable ∨ e = entry.recorded a.data := by
    rcases List.mem_append.mp hm with hm | hm
    · exact Or.inl hm
    · exact Or.inr (List.mem_singleton.mp hm)
  refine ⟨?_, fun hd => absurd (attached.symm.trans hd) (by decide), ?_, fun e hm => ?_,
    fun e hm => ?_, fun _ => ?_, ?_, fun address ha => ?_, fun e hm x hx => ?_⟩
  · rw [ownsTarget_call]
    exact hs.owns
  · have hroom := hs.room
    rw [Session.withTable_swTable, List.length_append, List.length_singleton]
    omega
  · rcases split hm with hm | rfl
    · exact hs.placed e hm
    · exact ⟨size, bound, Buffer.read_length _ _ _⟩
  · rcases split hm with hm | rfl
    · exact hs.patchable e hm
    · exact patchable
  · rw [advertisedMap_call]
    exact map
  · intro k hk k' hk'
    obtain ⟨e, hm, rfl⟩ := List.mem_map.mp hk
    obtain ⟨e', hm', rfl⟩ := List.mem_map.mp hk'
    rcases split hm with hm | rfl
    · rcases split hm' with hm' | rfl
      · exact hs.apart _ (List.mem_map_of_mem hm) _ (List.mem_map_of_mem hm')
      · exact Or.inr (apart hm)
    · rcases split hm' with hm' | rfl
      · exact Or.inr (apart hm').symm
      · exact Or.inl rfl
  · rw [patched_call] at ha
    obtain ⟨e, hm, inst, haddr⟩ := hs.held address ha
    exact ⟨e, List.mem_append_left _ hm, inst, haddr⟩
  · -- the bytes read are the program's there, and elsewhere the ledger is as before
    rw [hprogram, Buffer.write_apply, received_length]
    rcases split hm with hm | rfl
    · rw [if_neg, hs.saved e hm x hx]
      have := apart hm
      obtain ⟨hl, hr⟩ := hx
      simp only [Within]
      omega
    · exact (recorded_savedAt size hx).trans (if_pos hx).symm

theorem absorb_placed {entry : SwBp} (hp : entry.Placed) (address : UInt64) (data : List UInt8) :
    (entry.absorb address data).Placed := by
  obtain ⟨-, ha, hsize, ho⟩ := entry.absorb_fields address data
  constructor
  · rw [hsize]
    exact hp.size
  · rw [ha, hsize]
    exact hp.bound
  · rw [ho]
    exact hp.saved

theorem absorb_covers (entry : SwBp) (address : UInt64) (data : List UInt8) (x : ℕ) :
    (entry.absorb address data).Covers x ↔ entry.Covers x := by
  obtain ⟨-, ha, hsize, -⟩ := entry.absorb_fields address data
  rw [SwBp.Covers, SwBp.Covers, ha, hsize]

/-- A WRITE_MEMORY that was carried out. -/
theorem Shadowed.write (hs : Shadowed s h) {flags : UInt16} {data : List UInt8} {address : UInt64}
    {width : UInt8} {a : Answer}
    (allowed : CallAllowed s h
      (.writeMem (.request flags data) address (writeImage s.swTable address data) width))
    (armed : ∀ entry ∈ s.swTable, entry.installed = true) (ok : a.code = .ok) :
    Shadowed (s.withTable (swBpWriteOverlap s.swTable address data))
      (h ++ [⟨.call s (.writeMem (.request flags data) address
        (writeImage s.swTable address data) width), a⟩]) := by
  obtain ⟨-, map, region, -, covers, -⟩ := allowed
  rw [writeImage_length] at covers
  have bound : address.toNat + data.length < 2 ^ 64 := lt_of_le_of_lt covers.stop covers.bound
  have hprogram : program (h ++ [⟨.call s (.writeMem (.request flags data) address
      (writeImage s.swTable address data) width), a⟩]) = (program h).write address.toNat data := by
    rw [program_call, programCall, if_pos ok]
  refine ⟨?_, fun hd => ?_, ?_, fun e hm => ?_, fun e hm => ?_, fun _ => ?_, ?_, fun x hx => ?_,
    fun e hm x hx => ?_⟩
  · rw [ownsTarget_call]
    exact hs.owns
  · rw [Session.withTable_swTable, hs.free hd]
    rfl
  · rw [Session.withTable_swTable, swBpWriteOverlap, List.length_map]
    exact hs.room
  · obtain ⟨old, hold, rfl⟩ := List.mem_map.mp hm
    exact absorb_placed (hs.placed old hold) address data
  · obtain ⟨old, hold, rfl⟩ := List.mem_map.mp hm
    obtain ⟨-, ha, hsize, -⟩ := old.absorb_fields address data
    rw [ha, hsize]
    exact hs.patchable old hold
  · rw [advertisedMap_call]
    exact map
  · rw [Session.withTable_swTable, swBpWriteOverlap, List.map_map,
      show SwBp.key ∘ (fun entry : SwBp => entry.absorb address data) = SwBp.key from
        funext fun entry => absorb_key entry address data]
    exact hs.apart
  · rw [patched_call] at hx
    obtain ⟨e, hm, inst, haddr⟩ := hs.held x hx
    refine ⟨e.absorb address data, List.mem_map_of_mem hm, ?_, ?_⟩
    · rw [SwBp.absorb_installed]
      exact inst
    · rw [(e.absorb_fields address data).2.1]
      exact haddr
  · obtain ⟨old, hold, rfl⟩ := List.mem_map.mp hm
    rw [absorb_covers] at hx
    rw [hprogram, Buffer.write_apply,
      SwBp.absorb_savedAt (hs.placed old hold) bound (armed old hold) hx, hs.saved old hold x hx]

/-! Every move keeps the table right. -/

/-- A call that settles nothing. -/
theorem Shadowed.plain (hs : Shadowed s h) {c : Call} {a : Answer} (allowed : CallAllowed s h c)
    (plain : ¬c.Settles a) : Shadowed s (h ++ [⟨.call s c, a⟩]) := by
  have done (owns : ownsCall (ownsTarget h) c a = ownsTarget h)
      (patches : patchedCall (program h) (patched h) c a = patched h)
      (map : advertisedCall (advertisedMap h) c a = advertisedMap h)
      (bytes : ∀ entry ∈ s.swTable, ∀ x, entry.Covers x →
        programCall (program h) c a x = program h x) :
      Shadowed s (h ++ [⟨.call s c, a⟩]) := by
    refine hs.frame rfl rfl rfl (ownsTarget_call.trans owns) ?_
      (fun hne => (advertisedMap_call.trans map).trans (hs.mapped hne)) fun entry hm x hx => ?_
    · rw [patched_call, patches]
      exact List.Subset.refl _
    · rw [program_call]
      exact bytes entry hm x hx
  cases c with
  | attach params => exact done (if_neg plain) rfl (if_neg plain) fun _ _ _ _ => rfl
  | detach action => exact done (if_neg plain) rfl rfl fun _ _ _ _ => rfl
  | readMem access address size width =>
    cases access with
    | original =>
      refine done rfl rfl rfl fun entry hm x hx => ?_
      obtain ⟨-, -, patchable, clear⟩ := allowed
      have apart := keysApart_of_clear (hs.placed entry hm) patchable.bound (clear entry hm)
      rw [programCall]
      split
      · rw [Buffer.write_apply, received_length, if_neg]
        obtain ⟨hl, hr⟩ := hx
        simp only [Within]
        omega
      · rfl
    | _ => exact done rfl rfl rfl fun _ _ _ _ => rfl
  | writeMem access address bytes width =>
    cases access with
    | request flags data =>
      have same : programCall (program h) (.writeMem (.request flags data) address bytes width) a =
          program h := if_neg plain
      exact done rfl rfl rfl fun _ _ x _ => congrFun same x
    | patch => exact absurd trivial plain
    | restore => exact done rfl (if_neg fun both => plain both.1) rfl fun _ _ _ _ => rfl
    | _ => exact done rfl rfl rfl fun _ _ _ _ => rfl
  | _ => exact done rfl rfl rfl fun _ _ _ _ => rfl

theorem Shadowed.step (hm : Move policy (s, h) (s', h')) (hs : Shadowed s h) : Shadowed s' h' := by
  cases hm with
  | keep same => exact hs.session same.attached same.regions same.swTable
  | halt _ _ _ entered => exact hs.session entered.attached entered.regions entered.swTable
  | run _ _ _ _ same => exact hs.session same.attached same.regions same.swTable
  | hangUp | abandon => exact hs.session rfl rfl rfl
  | compact table inside keeps shorter => exact hs.compact inside keeps shorter
  | advertise _ map => exact hs.offer rfl rfl rfl (Or.inr map)
  | respond _ _ map => exact hs.offer rfl rfl rfl (Or.inl map)
  | report _ _ _ frame => exact hs.offer rfl rfl rfl (Or.inl frame.header.event_not_advertised)
  | lose _ _ attached regions swTable offered =>
    rcases offered with ⟨-, -, rfl⟩ | ⟨-, f, accepted, hf, -, rfl⟩
    · rw [List.append_nil]
      exact hs.session attached regions swTable
    · exact hs.offer attached regions swTable (Or.inl hf.header.event_not_advertised)
  | call c a allowed plain => exact hs.plain allowed plain
  | resume action address a attached =>
    exact hs.frame rfl rfl rfl ownsTarget_call (by rw [patched_call]; exact List.Subset.refl _)
      (fun hne => advertisedMap_call.trans (hs.mapped hne)) fun _ _ _ _ => by rw [program_call]; rfl
  | attach params a info regions free state ok =>
    refine ⟨?_, fun hd => absurd hd (by simp [Session.attachedWith]), Nat.zero_le _, nofun, nofun,
      fun hne => absurd rfl hne, fun k hk => absurd hk List.not_mem_nil,
        fun address ha => ?_, nofun⟩
    · rw [ownsTarget_call, ownsCall, if_pos ok]
      rfl
    · rw [patched_call] at ha
      obtain ⟨entry, hm, -⟩ := hs.held address ha
      rw [hs.free free] at hm
      exact absurd hm List.not_mem_nil
  | detach action a _ allowed ok =>
    obtain ⟨attached, -, clean⟩ := allowed
    have clean' : s.detachedState.swTable = [] := clean
    refine ⟨?_, fun _ => clean', ?_, ?_, ?_, fun hne => absurd clean' hne, ?_,
      fun address ha => ?_, ?_⟩
    · rw [ownsTarget_call, ownsCall, if_pos ok]
      rfl
    · exact hs.room
    · exact hs.placed
    · exact hs.patchable
    · exact hs.apart
    · rw [patched_call] at ha
      exact hs.held address ha
    · intro entry hm
      rw [clean'] at hm
      exact absurd hm List.not_mem_nil
  | arm index entry a _ _ get => exact hs.arm get
  | restore index entry a _ _ get _ ok => exact hs.restore get ok
  | record entry a allowed size ok room => exact hs.record allowed size ok room
  | write flags data address width a allowed armed ok => exact hs.write allowed armed ok

/-! The claim about every run. -/

/-- What the shadow table and the ownership flag say about the target. While a restoring loop runs
an entry it could not restore may be in the table twice, otherwise none overlap. -/
structure Remembered (s : Session) (h : SessionHistory) : Prop where
  held : ∀ address ∈ patched h, ∃ entry ∈ s.swTable, entry.installed = true ∧
    entry.address = address ∧ ∀ x, entry.Covers x → entry.savedAt x = program h x
  room : s.swTable.length ≤ 32
  apart : ∀ entry ∈ s.swTable, ∀ entry' ∈ s.swTable,
    entry.key = entry'.key ∨ ∀ x, entry.Covers x → ¬entry'.Covers x
  owns : s.attached = ownsTarget h
  free : s.attached = false → patched h = []

theorem Shadowed.patched_nil (hs : Shadowed s h) (clean : s.swTable = []) : patched h = [] := by
  refine List.eq_nil_iff_forall_not_mem.mpr fun address ha => ?_
  obtain ⟨entry, hm, -⟩ := hs.held address ha
  rw [clean] at hm
  exact absurd hm List.not_mem_nil

theorem Shadowed.remembered (hs : Shadowed s h) : Remembered s h := by
  refine ⟨fun address ha => ?_, hs.room, fun entry hm entry' hm' => ?_, hs.owns.symm,
    fun hd => hs.patched_nil (hs.free hd)⟩
  · obtain ⟨entry, hm, inst, haddr⟩ := hs.held address ha
    exact ⟨entry, hm, inst, haddr, hs.saved entry hm⟩
  · apply (hs.apart _ (List.mem_map_of_mem hm) _ (List.mem_map_of_mem hm')).imp id
    exact fun apart _ hx => apart.not_covers hx

theorem Spaced.disjoint (hs : Spaced table) :
    table.Pairwise fun entry entry' => ∀ x, entry.Covers x → ¬entry'.Covers x :=
  (List.pairwise_map.mp hs.apart).imp fun apart _ hx => KeysApart.not_covers apart hx

/-- A session that was cleaned up has no more to do with its backend. -/
theorem released_quiet {h₀ : SessionHistory} (i : Input)
    (hp : s.attached = false ∧ s.transportDead = true ∧ calls h = calls h₀) :
    (handle i).wp s h fun _ s' h' =>
      s'.attached = false ∧ s'.transportDead = true ∧ calls h' = calls h₀ := by
  obtain ⟨free, dead, same⟩ := hp
  cases i with
  | request message =>
    simp only [handle, handleRequest, Action.wp_bind, getSession_wp, Action.wp_ite, Action.wp_pure]
    exact ⟨fun _ => ⟨free, dead, same⟩, fun hn => absurd (Or.inl dead) hn⟩
  | poll =>
    simp only [handle, handlePoll, Action.wp_bind, getSession_wp, Action.wp_ite, Action.wp_pure]
    exact ⟨fun _ => ⟨free, dead, same⟩, fun hn => absurd (Or.inl dead) hn⟩
  | disconnect =>
    simp only [handle, handleDisconnect, Action.wp_bind, updateSession_wp, getSession_wp,
      Action.wp_ite, Action.wp_pure, Bool.not_eq_true', Bool.not_eq_false]
    exact ⟨fun _ => ⟨free, trivial, same⟩, fun ha => absurd (free.symm.trans ha) (by decide)⟩

/-- In every run, at every backend call and between any two inputs: each patch that may stand is
held by an installed entry with the instruction it hides, and the session knows whether it owns the
target. Between inputs no two entries of the table overlap, and a cleanup that reports success has
ended all contact with the backend. -/
theorem nothing_forgotten {T : Type} (env : SessionEnvironment T) (t₀ : T) (inputs : List Input) :
    let w := playSession env (freshWorld t₀) inputs
    let r := w.perform env (handle .disconnect)
    Remembered w.state w.history ∧
      (w.state.swTable.Pairwise fun entry entry' => ∀ x, entry.Covers x → ¬entry'.Covers x) ∧
      EveryCall (fun s h c => Remembered s h ∧ ∀ params, c = .attach params → s.attached = false)
        w.history ∧
      (r.1 = true ↔ r.2.1.state.attached = false) ∧
      (r.1 = true → ∀ inputs', calls (playSession env r.2.1 inputs').history =
        calls r.2.1.history) := by
  intro w r
  obtain ⟨shadowed, every⟩ := run_everyCall (P := Shadowed)
    (E := fun s h c => Remembered s h ∧ ∀ params, c = .attach params → s.attached = false)
    env t₀ inputs shadowed_fresh (fun _ _ _ _ _ hm hs => hs.step hm)
    fun s s₁ h c hs hi allowed => ⟨(hs.issues hi).remembered, fun params hc => by
      subst hc
      exact allowed⟩
  have ready := (run_invariant (P := fun _ _ => True) env t₀ inputs trivial
    fun _ _ _ _ _ _ _ => trivial).2
  obtain ⟨-, -, -, -, ended⟩ := World.perform_wp (m := handleDisconnect) (w := w)
    (handleDisconnect_handled ready)
  refine ⟨shadowed.remembered, (run_spaced env t₀ inputs).disjoint, every, ended.result,
    fun hr inputs' => ?_⟩
  exact (World.play_invariant (fun s h i hp => released_quiet i hp) inputs'
    ⟨ended.result.mp hr, ended.dead, rfl⟩).2.2

end SidpClient
