import SidpClient.CheckedArithmetic
import SidpClient.StopSnapshots

/-! The stack snapshot as arithmetic of natural numbers: which stack pointer, which region, and
which window of it is read. -/
namespace SidpClient
open LittleEndian Interactive CheckedArithmetic

/-! What a snapshot should read. -/

/-- Where the entries of a register blob start. -/
inductive EntryStart (blob : Buffer) (size : ℕ) : ℕ → Prop where
  | first : EntryStart blob size 0
  | next {offset : ℕ} (start : EntryStart blob size offset)
      (prefixed : offset + registerValueSize ≤ size)
      (whole : offset + (registerEntryAt blob offset).size ≤ size) :
      EntryStart blob size (offset + (registerEntryAt blob offset).size)

/-- A whole, available stack pointer of four bytes. -/
structure SpEntry (blob : Buffer) (size offset : ℕ) : Prop where
  start : EntryStart blob size offset
  whole : offset + registerValueSize + 4 ≤ size
  id : (registerEntryAt blob offset).registerId = armRegSp
  valueSize : (registerEntryAt blob offset).valueSize = 4
  available : (registerEntryAt blob offset).flags &&& RegisterFlag.unavailable = 0

structure FirstSpEntry (blob : Buffer) (size offset : ℕ) :
    Prop extends SpEntry blob size offset where
  least : ∀ other, SpEntry blob size other → offset ≤ other

/-- The number an entry carries. -/
def spValue (blob : Buffer) (offset : ℕ) : ℕ := leNat (blob.read (offset + registerValueSize) 4)

/-- A readable RAM region that does not wrap and has the stack pointer inside. -/
structure StackRam (sp : ℕ) (region : MemoryRegion) : Prop where
  type : region.type = MemoryType.ram
  readable : region.has MemFlag.read = true
  bound : region.start.toNat + region.length.toNat < 2 ^ 64
  above : region.start.toNat ≤ sp
  below : sp < region.start.toNat + region.length.toNat

/-- The first such region of the map. -/
def FirstStackRam (regions : List MemoryRegion) (sp : ℕ) (region : MemoryRegion) : Prop :=
  StackRam sp region ∧ ∃ before after, regions = before ++ region :: after ∧
    ∀ other ∈ before, ¬StackRam sp other

/-- The window `[SP - 64, SP + 512)` within a region, with its start floored at 0. -/
def windowStart (region : MemoryRegion) (sp : ℕ) : ℕ := max (sp - 64) region.start.toNat

def windowStop (region : MemoryRegion) (sp : ℕ) : ℕ :=
  min (sp + 512) (region.start.toNat + region.length.toNat)

/-- The bytes of it the frame has room for. -/
def windowSize (region : MemoryRegion) (sp registersSize : ℕ) : ℕ :=
  min (windowStop region sp - windowStart region sp) (snapshotBlobCapacity - registersSize)

/-- What the blob and the map say a snapshot should read. -/
structure StackChosen (s : Session) (offset : ℕ) (region : MemoryRegion) : Prop where
  entry : FirstSpEntry s.pendingRegisters s.pendingRegistersSize offset
  region : FirstStackRam s.regions (spValue s.pendingRegisters offset) region

/-! The source with every addition and subtraction checked. -/

/-- The loop over the blob; `std::size_t` has at least 32 bits. -/
def checkedWalk (wanted : RegisterEntry → Bool) (blob : Buffer) (size : ℕ) :
    ℕ → ℕ → Checked (Option RegisterEntry)
  | 0, _ => return none
  | fuel + 1, offset => do
    let head ← addChecked 32 offset registerValueSize
    if head ≤ size then
      let entry := registerEntryAt blob offset
      let entrySize ← addChecked 32 registerValueSize entry.valueSize.toNat
      let last ← addChecked 32 offset entrySize
      if last > size then
        return none
      else if wanted entry then
        return some entry
      else
        let next ← addChecked 32 offset entrySize
        checkedWalk wanted blob size fuel next
    else
      return none

/-- The loop over the candidate regions. -/
def checkedRegion (sp : ℕ) : List MemoryRegion → Checked (Option MemoryRegion)
  | [] => return none
  | candidate :: rest => do
    if candidate.type ≠ MemoryType.ram ∨ candidate.has MemFlag.read = false then
      checkedRegion sp rest
    else
      let room ← subChecked uint64Max.toNat candidate.length.toNat
      if candidate.start.toNat > room then
        checkedRegion sp rest
      else if sp ≥ candidate.start.toNat then
        let stop ← addChecked 64 candidate.start.toNat candidate.length.toNat
        if sp < stop then
          return some candidate
        else
          checkedRegion sp rest
      else
        checkedRegion sp rest

/-- The start of the window; a stack pointer below the margin clamps to 0. -/
def checkedStart (sp : ℕ) : Checked ℕ :=
  if sp > stackSnapshotBelow.toNat then subChecked sp stackSnapshotBelow.toNat else return 0

/-- The window in the region found. -/
def checkedWindow (region : MemoryRegion) (sp registersSize : ℕ) : Checked (Option (ℕ × ℕ)) := do
  let regionEnd ← addChecked 64 region.start.toNat region.length.toNat
  let start ← checkedStart sp
  let stop ← addChecked 64 sp stackSnapshotAbove.toNat
  let start := if start < region.start.toNat then region.start.toNat else start
  let stop := if stop > regionEnd then regionEnd else stop
  if stop ≤ start then
    return none
  else
    let size ← subChecked stop start
    let payload ← subChecked maxFrameSize headerSize
    let room ← subChecked payload stoppedEventSize
    let capacity ← subChecked room registersSize
    return some (start, if size > capacity then capacity else size)

/-- `capture_stack_snapshot` up to its read: where it starts and how long it is. -/
def checkedSnapshot (s : Session) : Checked (Option (ℕ × ℕ)) := do
  let isSp (entry : RegisterEntry) : Bool :=
    entry.registerId == armRegSp && entry.valueSize == 4 && entry.flags &&&
      RegisterFlag.unavailable == 0
  match ← checkedWalk isSp s.pendingRegisters s.pendingRegistersSize
    (s.pendingRegistersSize + 1) 0 with
  | none => return none
  | some entry =>
    let sp := getU32 (s.pendingRegisters.read (entry.offset + registerValueSize) 4) 0
    match ← checkedRegion sp.toNat s.regions with
    | none => return none
    | some region => checkedWindow region sp.toNat s.pendingRegistersSize

variable {blob : Buffer} {size offset : ℕ} {region : MemoryRegion} {regions : List MemoryRegion}

/-! The entry found. -/

/-- A whole entry at a start is the next one the walk yields. -/
theorem registerEntriesFrom_succ {fuel : ℕ} (hhead : offset + registerValueSize ≤ size)
    (whole : offset + (registerEntryAt blob offset).size ≤ size) :
    registerEntriesFrom blob size (fuel + 1) offset =
      registerEntryAt blob offset ::
        registerEntriesFrom blob size fuel (offset + (registerEntryAt blob offset).size) := by
  have hwhole : ¬offset + (registerEntryAt blob offset).size > size := by omega
  rw [registerEntriesFrom, if_pos hhead]
  exact if_neg hwhole

/-- The walk passes every start, with only earlier entries in front. -/
theorem registerEntries_split (hs : EntryStart blob size offset) :
    ∃ fuel before, size ≤ offset + fuel ∧
      registerEntries blob size = before ++ registerEntriesFrom blob size fuel offset ∧
      ∀ entry ∈ before, entry.offset < offset := by
  induction hs with
  | first => exact ⟨size, [], by omega, rfl, fun _ hm => absurd hm List.not_mem_nil⟩
  | @next offset _ hhead whole ih =>
    obtain ⟨fuel, before, hfuel, hsplit, hbefore⟩ := ih
    have hentry : 4 ≤ (registerEntryAt blob offset).size := Nat.le_add_right _ _
    rw [registerValueSize] at hhead
    cases fuel with
    | zero => omega
    | succ fuel =>
      rw [registerEntriesFrom_succ hhead whole] at hsplit
      refine ⟨fuel, before ++ [registerEntryAt blob offset], by omega, by simp [hsplit], ?_⟩
      intro entry hm
      rcases List.mem_append.mp hm with hm | hm
      · have hlt := hbefore entry hm
        omega
      · rw [List.mem_singleton.mp hm]
        show offset < _
        omega

/-- What the walk yields are whole entries at starts. -/
theorem mem_registerEntriesFrom {fuel : ℕ} {entry : RegisterEntry}
    (hs : EntryStart blob size offset) (hm : entry ∈ registerEntriesFrom blob size fuel offset) :
    EntryStart blob size entry.offset ∧ entry = registerEntryAt blob entry.offset ∧
      entry.offset + entry.size ≤ size := by
  induction fuel generalizing offset with
  | zero => exact absurd hm List.not_mem_nil
  | succ fuel ih =>
    rw [registerEntriesFrom] at hm
    split at hm
    · rename_i hhead
      simp only at hm
      split at hm
      · exact absurd hm List.not_mem_nil
      · rename_i hwhole
        have whole : offset + (registerEntryAt blob offset).size ≤ size := by omega
        cases hm with
        | head => exact ⟨hs, rfl, whole⟩
        | tail _ hm => exact ih (.next hs hhead whole) hm
    · exact absurd hm List.not_mem_nil

theorem SpEntry.size_eq (sp : SpEntry blob size offset) :
    (registerEntryAt blob offset).size = registerValueSize + 4 := by
  rw [RegisterEntry.size, sp.valueSize]
  rfl

/-- What `find` looks for at a start. -/
theorem SpEntry.wanted (sp : SpEntry blob size offset) :
    ((registerEntryAt blob offset).registerId == armRegSp && (registerEntryAt blob offset).valueSize
      == 4 && (registerEntryAt blob offset).flags &&& RegisterFlag.unavailable == 0) = true := by
  simp [sp.id, sp.valueSize, sp.available]

/-- An entry for the stack pointer is met no later than at its offset. -/
theorem SpEntry.found (sp : SpEntry blob size offset) :
    ∃ entry, findRegister blob size armRegSp = some entry ∧ entry.offset ≤ offset := by
  obtain ⟨fuel, before, hfuel, hsplit, hbefore⟩ := registerEntries_split sp.start
  have hwhole := sp.whole
  have hentry := sp.size_eq
  rw [registerValueSize] at hwhole hentry
  cases fuel with
  | zero => omega
  | succ fuel =>
    rw [registerEntriesFrom_succ (by rw [registerValueSize]; omega) (by omega)] at hsplit
    rw [findRegister, hsplit, List.find?_append]
    cases hfirst : before.find? fun entry =>
        entry.registerId == armRegSp && entry.valueSize == 4 &&
          entry.flags &&& RegisterFlag.unavailable == 0 with
    | some entry =>
      have hlt := hbefore entry (List.mem_of_find?_eq_some hfirst)
      exact ⟨entry, rfl, hlt.le⟩
    | none =>
      refine ⟨registerEntryAt blob offset, ?_, Nat.le_refl _⟩
      rw [Option.none_or, List.find?_cons, sp.wanted]

theorem spEntry_of_found {entry : RegisterEntry}
    (hf : findRegister blob size armRegSp = some entry) :
    SpEntry blob size entry.offset := by
  obtain ⟨start, same, whole⟩ := mem_registerEntriesFrom .first (List.mem_of_find?_eq_some hf)
  have wanted := List.find?_some hf
  simp only [Bool.and_eq_true, beq_iff_eq] at wanted
  obtain ⟨⟨id, valueSize⟩, available⟩ := wanted
  rw [RegisterEntry.size, valueSize] at whole
  exact ⟨start, by rw [add_assoc]; exact whole, same ▸ id, same ▸ valueSize, same ▸ available⟩

/-- The entry the walk finds is the first of the blob. -/
theorem firstSpEntry_of_found {entry : RegisterEntry}
    (hf : findRegister blob size armRegSp = some entry) : FirstSpEntry blob size entry.offset := by
  refine ⟨spEntry_of_found hf, fun other sp => ?_⟩
  obtain ⟨first, hfirst, hle⟩ := sp.found
  rw [hf] at hfirst
  cases hfirst
  exact hle

theorem FirstSpEntry.found (sp : FirstSpEntry blob size offset) :
    ∃ entry, findRegister blob size armRegSp = some entry ∧ entry.offset = offset := by
  obtain ⟨entry, hf, hle⟩ := sp.toSpEntry.found
  have hge := sp.least entry.offset (spEntry_of_found hf)
  exact ⟨entry, hf, Nat.le_antisymm hle hge⟩

/-! The region found. -/

/-- The test of the source on a candidate region. -/
theorem stackRam_iff (region : MemoryRegion) (sp : UInt32) :
    (region.type == MemoryType.ram && region.has MemFlag.read &&
      !(region.start > uint64Max - region.length) &&
      (sp.toUInt64 ≥ region.start && sp.toUInt64 < region.start + region.length)) = true ↔
        StackRam sp.toNat region := by
  have wraps := exceeds_iff region.start region.length
  simp only [Bool.and_eq_true, beq_iff_eq, Bool.not_eq_true', decide_eq_false_iff_not,
    decide_eq_true_eq]
  constructor
  · rintro ⟨⟨⟨type, readable⟩, unwrapped⟩, above, below⟩
    have bound := not_not.mp fun wrapped => unwrapped (wraps.mpr wrapped)
    rw [ge_iff_le, UInt64.le_iff_toNat_le, UInt32.toNat_toUInt64] at above
    rw [UInt64.lt_iff_toNat_lt, UInt32.toNat_toUInt64, toNat_add_of_lt bound] at below
    exact ⟨type, readable, bound, above, below⟩
  · rintro ⟨type, readable, bound, above, below⟩
    refine ⟨⟨⟨type, readable⟩, fun wrapped => wraps.mp wrapped bound⟩, ?_, ?_⟩
    · rw [ge_iff_le, UInt64.le_iff_toNat_le, UInt32.toNat_toUInt64]
      exact above
    · rw [UInt64.lt_iff_toNat_lt, UInt32.toNat_toUInt64, toNat_add_of_lt bound]
      exact below

theorem stackRegion_iff (regions : List MemoryRegion) (sp : UInt32) (region : MemoryRegion) :
    stackRegion regions sp = some region ↔ FirstStackRam regions sp.toNat region := by
  rw [stackRegion, List.find?_eq_some_iff_append, FirstStackRam, stackRam_iff]
  constructor
  · rintro ⟨ram, before, after, hsplit, hbefore⟩
    refine ⟨ram, before, after, hsplit, fun other hm hram => ?_⟩
    have hne := hbefore other hm
    rw [(stackRam_iff other sp).mpr hram] at hne
    exact absurd hne (by decide)
  · rintro ⟨ram, before, after, hsplit, hbefore⟩
    refine ⟨ram, before, after, hsplit, fun other hm => ?_⟩
    rw [Bool.not_eq_true', Bool.eq_false_iff]
    exact fun hram => hbefore other hm ((stackRam_iff other sp).mp hram)

/-! The window read. -/

theorem toNat_window_start (sp : UInt32) :
    (if sp > stackSnapshotBelow then sp.toUInt64 - stackSnapshotBelow.toUInt64 else 0).toNat =
      sp.toNat - 64 := by
  split
  · rename_i hgt
    have hlt : 64 < sp.toNat := UInt32.lt_iff_toNat_lt.mp hgt
    have hle : stackSnapshotBelow.toUInt64 ≤ sp.toUInt64 := by
      rw [UInt64.le_iff_toNat_le, UInt32.toNat_toUInt64, UInt32.toNat_toUInt64]
      exact hlt.le
    rw [UInt64.toNat_sub_of_le _ _ hle, UInt32.toNat_toUInt64]
    rfl
  · rename_i hgt
    have hle : sp.toNat ≤ 64 := UInt32.le_iff_toNat_le.mp (UInt32.not_lt.mp hgt)
    rw [Nat.sub_eq_zero_of_le hle]
    rfl

theorem toNat_window_stop (sp : UInt32) :
    (sp.toUInt64 + stackSnapshotAbove.toUInt64).toNat = sp.toNat + 512 := by
  have hsp := sp.toNat_lt
  have habove : stackSnapshotAbove.toUInt64.toNat = 512 := rfl
  rw [UInt64.toNat_add, UInt32.toNat_toUInt64, habove]
  exact Nat.mod_eq_of_lt (by omega)

/-- With the stack pointer inside the region nothing of the window is lost, and it is not empty. -/
theorem stackWindow_exact {sp : UInt32} (ram : StackRam sp.toNat region) (registersSize : ℕ) :
    ∃ start, stackWindow region sp registersSize =
        some (start, windowSize region sp.toNat registersSize) ∧
      start.toNat = windowStart region sp.toNat := by
  have hstart := toNat_window_start sp
  have hstop := toNat_window_stop sp
  have hend := toNat_add_of_lt ram.bound
  have habove := ram.above
  have hbelow := ram.below
  unfold stackWindow
  extract_lets regionEnd start₀ stop₀ start₁ stop₁ size capacity
  change start₀.toNat = sp.toNat - 64 at hstart
  change stop₀.toNat = sp.toNat + 512 at hstop
  change regionEnd.toNat = region.start.toNat + region.length.toNat at hend
  have hclampedStart : start₁.toNat = windowStart region sp.toNat := by
    show (if start₀ < region.start then region.start else start₀).toNat = _
    rw [windowStart]
    split
    · rename_i hlt
      rw [UInt64.lt_iff_toNat_lt] at hlt
      omega
    · rename_i hle
      rw [UInt64.lt_iff_toNat_lt] at hle
      omega
  have hclampedStop : stop₁.toNat = windowStop region sp.toNat := by
    show (if stop₀ > regionEnd then regionEnd else stop₀).toNat = _
    rw [windowStop]
    split
    · rename_i hgt
      rw [gt_iff_lt, UInt64.lt_iff_toNat_lt] at hgt
      omega
    · rename_i hle
      rw [gt_iff_lt, UInt64.lt_iff_toNat_lt] at hle
      omega
  have hlt : windowStart region sp.toNat < windowStop region sp.toNat := by
    rw [windowStart, windowStop]
    omega
  have hopen : ¬stop₁ ≤ start₁ := by
    rw [UInt64.le_iff_toNat_le, hclampedStart, hclampedStop]
    omega
  have hsize : size = windowStop region sp.toNat - windowStart region sp.toNat := by
    show (stop₁ - start₁).toNat = _
    have hle : start₁ ≤ stop₁ := by
      rw [UInt64.le_iff_toNat_le, hclampedStart, hclampedStop]
      exact hlt.le
    rw [UInt64.toNat_sub_of_le _ _ hle, hclampedStart, hclampedStop]
  have hcut : (if size > capacity then capacity else size) = windowSize region sp.toNat
      registersSize := by
    rw [windowSize, ← hsize]
    show _ = min size capacity
    split
    · rename_i hgt
      exact (Nat.min_eq_right hgt.le).symm
    · rename_i hle
      exact (Nat.min_eq_left (Nat.le_of_not_lt hle)).symm
  refine ⟨start₁, ?_, hclampedStart⟩
  rw [if_neg hopen, hcut]

section
variable {s : Session} {h : SessionHistory}

/-- The number the source reads at an entry. -/
theorem toNat_sp (blob : Buffer) (offset : ℕ) :
    (getU32 (blob.read (offset + registerValueSize) 4) 0).toNat = spValue blob offset := by
  have hlen : (blob.read (offset + registerValueSize) 4).length = 4 := Buffer.read_length _ _ _
  have hlt := leNat_lt (blob.read (offset + registerValueSize) 4)
  have hall : slice (blob.read (offset + registerValueSize) 4) 0 4 =
      blob.read (offset + registerValueSize) 4 := by
    rw [slice, List.drop_zero, List.take_of_length_le hlen.le]
  rw [hlen] at hlt
  rw [getU32, hall, spValue, UInt32.toNat_ofNat']
  exact Nat.mod_eq_of_lt hlt

theorem stackSnapshot_of_chosen (chosen : StackChosen s offset region) :
    ∃ start, stackSnapshot s = some (start,
        windowSize region (spValue s.pendingRegisters offset) s.pendingRegistersSize) ∧
      start.toNat = windowStart region (spValue s.pendingRegisters offset) := by
  obtain ⟨entry, found, rfl⟩ := chosen.entry.found
  have hregion := chosen.region
  rw [← toNat_sp] at hregion ⊢
  have hfirst := (stackRegion_iff _ _ _).mpr hregion
  obtain ⟨start, hwindow, hstart⟩ := stackWindow_exact hregion.1 s.pendingRegistersSize
  refine ⟨start, ?_, hstart⟩
  simp only [stackSnapshot, bind, found, Option.bind_some, hfirst, hwindow]

theorem chosen_of_stackSnapshot {window : UInt64 × ℕ} (hw : stackSnapshot s = some window) :
    ∃ offset region, StackChosen s offset region := by
  obtain ⟨entry, found, hw⟩ := Option.bind_eq_some_iff.mp hw
  obtain ⟨region, hregion, -⟩ := Option.bind_eq_some_iff.mp hw
  have hfirst := (stackRegion_iff _ _ _).mp hregion
  rw [toNat_sp] at hfirst
  exact ⟨entry.offset, region, firstSpEntry_of_found found, hfirst⟩

/-! No operation wraps. -/

/-- The walk stops at the first entry wanted, and none of its sums wraps. -/
theorem checkedWalk_ok (wanted : RegisterEntry → Bool) (blob : Buffer) {fuel : ℕ}
    (hsize : size ≤ snapshotBlobCapacity) (hoffset : offset ≤ size) (hfuel : size ≤ offset + fuel) :
    checkedWalk wanted blob size (fuel + 1) offset = .ok
      ((registerEntriesFrom blob size fuel offset).find? wanted) := by
  have hcapacity : snapshotBlobCapacity = 8144 := rfl
  have hstep : registerValueSize = 4 := rfl
  have hhead : addChecked 32 offset registerValueSize = .ok (offset + registerValueSize) :=
    addChecked_ok (by omega)
  induction fuel generalizing offset with
  | zero =>
    have hlast : ¬offset + registerValueSize ≤ size := by omega
    rw [checkedWalk, hhead, ok_bind, if_neg hlast]
    rfl
  | succ fuel ih =>
    rw [checkedWalk, hhead, ok_bind]
    by_cases hprefix : offset + registerValueSize ≤ size
    · have hvalue := (registerEntryAt blob offset).valueSize.toNat_lt
      have hentry : (registerEntryAt blob offset).size =
          registerValueSize + (registerEntryAt blob offset).valueSize.toNat := rfl
      have hwhole : addChecked 32 registerValueSize (registerEntryAt blob offset).valueSize.toNat =
          .ok (registerEntryAt blob offset).size := addChecked_ok (by omega)
      have hnext : addChecked 32 offset (registerEntryAt blob offset).size =
          .ok (offset + (registerEntryAt blob offset).size) := addChecked_ok (by omega)
      rw [if_pos hprefix]
      simp only
      rw [hwhole, ok_bind, hnext, ok_bind]
      by_cases hcut : offset + (registerEntryAt blob offset).size > size
      · rw [if_pos hcut, registerEntriesFrom, if_pos hprefix]
        simp only [if_pos hcut, List.find?_nil, pure_eq_ok]
      · rw [if_neg hcut, registerEntriesFrom_succ hprefix (by omega), List.find?_cons]
        cases wanted (registerEntryAt blob offset) with
        | true => rfl
        | false => exact ih (by omega) (by omega) (addChecked_ok (by omega))
    · rw [if_neg hprefix, registerEntriesFrom, if_neg hprefix]
      rfl

theorem checkedRegion_ok (regions : List MemoryRegion) (sp : UInt32) :
    checkedRegion sp.toNat regions = .ok (stackRegion regions sp) := by
  induction regions with
  | nil => rfl
  | cons candidate rest ih =>
    have hlen := candidate.length.toNat_lt
    have hmax : uint64Max.toNat = 2 ^ 64 - 1 := rfl
    have hram := stackRam_iff candidate sp
    have hroom : subChecked uint64Max.toNat candidate.length.toNat =
        .ok (uint64Max.toNat - candidate.length.toNat) := subChecked_ok (by omega)
    have skipped (hn : ¬StackRam sp.toNat candidate) :
        (.ok (stackRegion rest sp) : Checked (Option MemoryRegion)) = .ok
        (stackRegion (candidate :: rest) sp) := by
      rw [stackRegion, stackRegion, List.find?_cons, Bool.eq_false_iff.mpr
        (fun met => hn (hram.mp met))]
    have taken (hr : StackRam sp.toNat candidate) :
        (.ok (some candidate) : Checked (Option MemoryRegion)) = .ok
        (stackRegion (candidate :: rest) sp) := by
      rw [stackRegion, List.find?_cons, hram.mpr hr]
    rw [checkedRegion, ih]
    by_cases hkind : candidate.type ≠ MemoryType.ram ∨ candidate.has MemFlag.read = false
    · rw [if_pos hkind]
      apply skipped
      intro ram
      rcases hkind with hkind | hkind
      · exact hkind ram.type
      · exact absurd (ram.readable.symm.trans hkind) (by decide)
    rw [if_neg hkind, hroom, ok_bind]
    obtain ⟨hkind, hread⟩ := not_or.mp hkind
    by_cases hwraps : candidate.start.toNat > uint64Max.toNat - candidate.length.toNat
    · rw [if_pos hwraps]
      apply skipped
      intro ram
      have hbound := ram.bound
      omega
    have hbound : candidate.start.toNat + candidate.length.toNat < 2 ^ 64 := by omega
    rw [if_neg hwraps, addChecked_ok hbound, ok_bind]
    by_cases habove : sp.toNat ≥ candidate.start.toNat
    · rw [if_pos habove]
      by_cases hbelow : sp.toNat < candidate.start.toNat + candidate.length.toNat
      · rw [if_pos hbelow]
        exact taken ⟨not_not.mp hkind, by simpa using hread, hbound, habove, hbelow⟩
      · rw [if_neg hbelow]
        exact skipped fun ram => hbelow ram.below
    · rw [if_neg habove]
      exact skipped fun ram => habove ram.above

theorem checkedWindow_ok {sp registersSize : ℕ} (ram : StackRam sp region) (hsp : sp < 2 ^ 32)
    (hsize : registersSize ≤ snapshotBlobCapacity) :
    checkedWindow region sp registersSize =
      .ok (some (windowStart region sp, windowSize region sp registersSize)) := by
  have hbelow : stackSnapshotBelow.toNat = 64 := rfl
  have habove : stackSnapshotAbove.toNat = 512 := rfl
  have hstart : checkedStart sp = .ok (sp - 64) := by
    rw [checkedStart]
    split
    · rw [subChecked_ok (by omega), hbelow]
    · rw [Nat.sub_eq_zero_of_le (by omega), pure_eq_ok]
  have hlow : (if sp - 64 < region.start.toNat then region.start.toNat else sp - 64) =
      windowStart region sp := by
    rw [windowStart]
    split <;> omega
  have hhigh : (if sp + 512 > region.start.toNat + region.length.toNat
      then region.start.toNat + region.length.toNat else sp + 512) = windowStop region sp := by
    rw [windowStop]
    split <;> omega
  have hopen : windowStart region sp < windowStop region sp := by
    have hfirst := ram.above
    have hlast := ram.below
    rw [windowStart, windowStop]
    omega
  have hpayload : subChecked maxFrameSize headerSize = .ok (maxFrameSize - headerSize) := rfl
  have hroom : subChecked (maxFrameSize - headerSize) stoppedEventSize = .ok snapshotBlobCapacity :=
    rfl
  have hcut :
      (if windowStop region sp - windowStart region sp > snapshotBlobCapacity - registersSize
      then snapshotBlobCapacity - registersSize else windowStop region sp - windowStart region sp) =
        windowSize region sp registersSize := by
    rw [windowSize]
    split <;> omega
  rw [checkedWindow, addChecked_ok ram.bound, ok_bind, hstart, ok_bind, habove,
    addChecked_ok (by omega), ok_bind]
  simp only
  rw [hlow, hhigh, if_neg (by omega), subChecked_ok hopen.le, ok_bind, hpayload, ok_bind, hroom,
    ok_bind, subChecked_ok hsize, ok_bind, hcut, pure_eq_ok]

/-- Nothing wraps on the way to the window. -/
theorem checkedSnapshot_ok (hsize : s.pendingRegistersSize ≤ snapshotBlobCapacity) :
    checkedSnapshot s = .ok ((stackSnapshot s).map fun window => (window.1.toNat, window.2)) := by
  rw [checkedSnapshot]
  simp only
  rw [checkedWalk_ok _ _ hsize (Nat.zero_le _) (by omega), ok_bind, stackSnapshot]
  change (match findRegister s.pendingRegisters s.pendingRegistersSize armRegSp with
    | none => return none
    | some entry => _) = _
  cases findRegister s.pendingRegisters s.pendingRegistersSize armRegSp with
  | none => rfl
  | some entry =>
    simp only [bind, Option.bind_some]
    generalize getU32 (s.pendingRegisters.read (entry.offset + registerValueSize) 4) 0 = sp
    have hregion := checkedRegion_ok s.regions sp
    cases hfirst : stackRegion s.regions sp with
    | none =>
      rw [hfirst] at hregion
      rw [hregion]
      rfl
    | some region =>
      rw [hfirst] at hregion
      have ram := ((stackRegion_iff _ _ _).mp hfirst).1
      obtain ⟨start, hwindow, hstart⟩ := stackWindow_exact ram s.pendingRegistersSize
      have hchecked := checkedWindow_ok ram sp.toNat_lt hsize
      rw [hregion, Option.bind_some, hwindow, Option.map_some, hstart]
      exact hchecked

/-! The snapshot. -/

/-- The window lies in the region and fits the frame and its length field. -/
theorem windowSize_fits (registersSize sp : ℕ) (region : MemoryRegion) :
    windowSize region sp registersSize ≤ snapshotBlobCapacity - registersSize ∧
      windowSize region sp registersSize < 2 ^ 16 := by
  have hcapacity : snapshotBlobCapacity = 8144 := rfl
  have hle : windowSize region sp registersSize ≤ snapshotBlobCapacity - registersSize :=
    Nat.min_le_right _ _
  exact ⟨hle, by omega⟩

/-- The stack snapshot is the exact clipped window: memory is read exactly if the blob has an
available stack pointer inside a readable RAM region that does not wrap; then one range is read, the
window in the first such region cut to the room behind the registers, and recorded if the read
succeeds; otherwise nothing is recorded. With every operation checked the source computes that
range, so none wraps, and what is read fits 16 bits and the frame. -/
theorem stack_snapshot_exact (fits : s.pendingRegistersSize ≤ snapshotBlobCapacity)
    (empty : s.pendingStackAddress = 0 ∧ s.pendingStackSize = 0) :
    (captureStackSnapshot.wp s h fun _ s' h' =>
      (∀ offset region, StackChosen s offset region →
        let sp := spValue s.pendingRegisters offset
        let size := windowSize region sp s.pendingRegistersSize
        ∃ start a, start.toNat = windowStart region sp ∧ checkedSnapshot s = .ok
          (some (start.toNat, size)) ∧
          h' = h ++ [⟨.call s (.readMem .stack start size MemWidth.default), a⟩] ∧
          if a.code = .ok then s'.pendingStackAddress = start ∧ s'.pendingStackSize = size
          else s'.pendingStackAddress = 0 ∧ s'.pendingStackSize = 0) ∧
      ((¬∃ offset region, StackChosen s offset region) → checkedSnapshot s = .ok none ∧
        h' = h ∧ s' = s)) ∧
    ∀ region sp, windowSize region sp s.pendingRegistersSize < 2 ^ 16 ∧
      headerSize + stoppedEventSize + s.pendingRegistersSize +
        windowSize region sp s.pendingRegistersSize ≤ maxFrameSize := by
  have computed := checkedSnapshot_ok fits
  refine ⟨captureStackSnapshot_wp ?_ ?_, fun region sp => ?_⟩
  · intro skipped
    rw [skipped] at computed
    refine ⟨fun offset region chosen => ?_, fun _ => ⟨computed, rfl, rfl⟩⟩
    obtain ⟨start, hw, -⟩ := stackSnapshot_of_chosen chosen
    exact absurd (hw.symm.trans skipped) (by simp)
  · intro start size a hw
    refine ⟨fun offset region chosen => ?_, fun none => absurd (chosen_of_stackSnapshot hw) none⟩
    obtain ⟨start', hw', hstart⟩ := stackSnapshot_of_chosen chosen
    obtain ⟨rfl, rfl⟩ := Prod.mk.inj (Option.some.inj (hw.symm.trans hw'))
    rw [hw] at computed
    refine ⟨start, a, hstart, computed, rfl, ?_⟩
    rw [Session.withStack]
    split
    · exact ⟨rfl, rfl⟩
    · exact empty
  · obtain ⟨room, short⟩ := windowSize_fits s.pendingRegistersSize sp region
    have hcapacity : snapshotBlobCapacity = 8144 := rfl
    have hframe : maxFrameSize = 8192 := rfl
    have hheader : headerSize + stoppedEventSize = 48 := rfl
    exact ⟨short, by omega⟩

/-- `enter_halted` takes the snapshot with these premises. -/
theorem snapshot_premises (s : Session) (stop : StopDetect) (a : Answer)
    (fits : a.outSize ≤ snapshotBlobCapacity) :
    ((s.stopRecorded stop).withRegisters a).pendingRegistersSize ≤ snapshotBlobCapacity ∧
      ((s.stopRecorded stop).withRegisters a).pendingStackAddress = 0 ∧
      ((s.stopRecorded stop).withRegisters a).pendingStackSize = 0 := ⟨fits, rfl, rfl⟩

end

/-- RAM with the stack pointer 16 bytes below its end. -/
def stackRam : MemoryRegion := ⟨0x20000000, 0x1000, MemoryType.ram, MemFlag.read⟩

def stackedSession : Session :=
  { regions := [stackRam]
    pendingRegisters :=
      Buffer.zero.write 0 (le16 armRegSp ++ [4, RegisterFlag.none] ++ le32 0x20000FF0)
    pendingRegistersSize := 8 }

theorem stacked_chosen : StackChosen stackedSession 0 stackRam := by
  have found : findRegister stackedSession.pendingRegisters stackedSession.pendingRegistersSize
      armRegSp = some ⟨0, armRegSp, 4, RegisterFlag.none⟩ := by decide +kernel
  have value : spValue stackedSession.pendingRegisters 0 = 0x20000FF0 := by decide +kernel
  refine ⟨firstSpEntry_of_found found, ?_⟩
  rw [value]
  exact ⟨⟨rfl, by decide, by decide, by decide, by decide⟩, [], [], rfl, by simp⟩

theorem stacked_window_read :
    captureStackSnapshot.wp stackedSession [] fun _ _ h' => ∃ start a, start.toNat = 0x20000FB0 ∧
      h' = [⟨.call stackedSession (.readMem .stack start 80 MemWidth.default), a⟩] := by
  have exactly := (stack_snapshot_exact (s := stackedSession) (h := []) (by decide) ⟨rfl, rfl⟩).1
  apply Action.wp_mono exactly
  intro _ s' evs taken
  obtain ⟨start, a, hstart, -, read, -⟩ := taken.1 0 stackRam stacked_chosen
  have low : windowStart stackRam (spValue stackedSession.pendingRegisters 0) = 0x20000FB0 := by
    decide +kernel
  have length : windowSize stackRam (spValue stackedSession.pendingRegisters 0)
      stackedSession.pendingRegistersSize = 80 := by decide +kernel
  rw [length] at read
  exact ⟨start, a, hstart.trans low, read⟩

end SidpClient
