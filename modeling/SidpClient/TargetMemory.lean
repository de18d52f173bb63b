import SidpClient.PatchLedger

/-! Target memory beside a reference memory that is never patched. -/
namespace SidpClient
open LittleEndian Interactive

/-! What may happen to both memories. -/

/-- The program stores bytes, the same ones in both memories, but not inside the instructions of
the guarded table entries. -/
def Stores (guarded : SwBp → Prop) (table : List SwBp) (mem ref mem' ref' : Buffer) : Prop :=
  ∀ x, (mem' x = mem x ∧ ref' x = ref x) ∨
    (mem' x = ref' x ∧ ∀ entry ∈ table, guarded entry → ¬entry.Covers x)

/-- Each byte of a write that failed is the old or the new one. -/
def MayWrite (mem mem' : Buffer) (offset : ℕ) (bytes : List UInt8) : Prop :=
  ∀ x, mem' x = mem x ∨ mem' x = mem.write offset bytes x

/-- What one call does to target memory, and to a reference that only WRITE_MEMORY changes. -/
def CallEffect (c : Call) (a : Answer) (mem ref mem' ref' : Buffer) : Prop :=
  match c with
  | .readMem _ address size _ =>
    (a.code = .ok → a.data.take size = mem.read address.toNat size) ∧ mem' = mem ∧ ref' = ref
  | .writeMem (.request _ data) address bytes _ =>
    if a.code = .ok then
      mem' = mem.write address.toNat bytes ∧ ref' = ref.write address.toNat data
    else mem' = mem ∧ ref' = ref
  | .writeMem _ address bytes _ =>
    (if a.code = .ok then mem' = mem.write address.toNat bytes
      else MayWrite mem mem' address.toNat bytes) ∧ ref' = ref
  | _ => mem' = mem ∧ ref' = ref

/-- Every pair of memories a history can lead to. The program stores before a call, outside the
guarded entries of the table the session then has. -/
inductive MemoryRun (guarded : SwBp → Prop) : SessionHistory → Buffer → Buffer → Prop
  | start (memory : Buffer) : MemoryRun guarded [] memory memory
  | offer {h mem ref} (f : List UInt8) (accepted : Bool) (run : MemoryRun guarded h mem ref) :
      MemoryRun guarded (h ++ [⟨.offer f, accepted⟩]) mem ref
  | call {h mem ref mem₁ ref₁ mem' ref'} (s : Session) (c : Call) (a : Answer)
      (run : MemoryRun guarded h mem ref) (stores : Stores guarded s.swTable mem ref mem₁ ref₁)
      (effect : CallEffect c a mem₁ ref₁ mem' ref') :
      MemoryRun guarded (h ++ [⟨.call s c, a⟩]) mem' ref'

variable {guarded : SwBp → Prop} {policy : Policy} {s s' : Session} {h h' : SessionHistory}
  {table : List SwBp} {mem ref mem' ref' : Buffer} {c : Call} {a : Answer} {f : List UInt8}
  {accepted : Bool}

theorem MemoryRun.of_offer (run : MemoryRun guarded (h ++ [⟨.offer f, accepted⟩]) mem ref) :
    MemoryRun guarded h mem ref := by
  generalize hh : h ++ [⟨.offer f, accepted⟩] = h' at run
  cases run with
  | start => exact absurd hh (by simp)
  | offer f' accepted' run =>
    obtain ⟨rfl, -⟩ := List.append_inj' hh rfl
    exact run
  | call s c a run stores effect =>
    obtain ⟨-, he⟩ := List.append_inj' hh rfl
    exact absurd he (by simp)

theorem MemoryRun.of_call (run : MemoryRun guarded (h ++ [⟨.call s c, a⟩]) mem' ref') :
    ∃ mem ref mem₁ ref₁, MemoryRun guarded h mem ref ∧
      Stores guarded s.swTable mem ref mem₁ ref₁ ∧ CallEffect c a mem₁ ref₁ mem' ref' := by
  generalize hh : h ++ [⟨.call s c, a⟩] = h' at run
  cases run with
  | start => exact absurd hh (by simp)
  | offer f' accepted' run =>
    obtain ⟨-, he⟩ := List.append_inj' hh rfl
    exact absurd he (by simp)
  | call s c a run stores effect =>
    obtain ⟨rfl, he⟩ := List.append_inj' hh rfl
    cases he
    exact ⟨_, _, _, _, run, stores, effect⟩

/-! The table is right about both memories. -/

/-- Only standing patches hide the reference, and their entries have saved what they hide. -/
structure Mirrored (table : List SwBp) (mem ref : Buffer) : Prop where
  clear : ∀ x, (∀ entry ∈ table, entry.installed = true → ¬entry.Patches x) → mem x = ref x
  saved : ∀ entry ∈ table, ∀ x, entry.Covers x → entry.savedAt x = ref x

/-- In every run of memory beside the history. -/
def Mirrors (s : Session) (h : SessionHistory) : Prop :=
  ∀ mem ref, MemoryRun (fun _ => True) h mem ref → Mirrored s.swTable mem ref

theorem mirrored_nil : Mirrored [] mem ref ↔ mem = ref := by
  constructor
  · intro hm
    funext x
    exact hm.clear x (by simp)
  · intro he
    exact ⟨fun x _ => congrFun he x, by simp⟩

/-- The program stores outside every instruction of the table. -/
theorem Mirrored.stores (hm : Mirrored table mem ref)
    (hs : Stores (fun _ => True) table mem ref mem' ref') : Mirrored table mem' ref' := by
  constructor
  · intro x free
    rcases hs x with ⟨hmem, href⟩ | ⟨same, -⟩
    · rw [hmem, href, hm.clear x free]
    · exact same
  · intro entry he x covers
    rcases hs x with ⟨-, href⟩ | ⟨-, apart⟩
    · rw [href, hm.saved entry he x covers]
    · exact absurd covers (apart entry he trivial)

/-- More patches may stand. -/
theorem Mirrored.install (hm : Mirrored table mem ref) (index : ℕ) :
    Mirrored (table.modify index SwBp.install) mem ref := by
  constructor
  · intro x free
    apply hm.clear
    intro entry he inst
    obtain ⟨i, get⟩ := List.mem_iff_getElem?.mp he
    by_cases hi : index = i
    · apply free entry.install _ rfl
      apply List.mem_of_getElem? (i := i)
      rw [List.getElem?_modify, get]
      simp [hi]
    · apply free entry _ inst
      apply List.mem_of_getElem? (i := i)
      rw [List.getElem?_modify, get]
      simp [hi]
  · intro entry he x covers
    obtain ⟨old, hold, rfl | rfl⟩ := mem_modify_cases he
    · exact hm.saved _ hold x covers
    · exact hm.saved old hold x covers

theorem Mirrored.compact {left : List SwBp} (hm : Mirrored table mem ref)
    (inside : ∀ entry ∈ left, entry ∈ table)
    (keeps : ∀ entry ∈ table, entry.installed = true → entry ∈ left) : Mirrored left mem ref := by
  constructor
  · intro x free
    apply hm.clear
    intro entry he inst
    exact free entry (keeps entry he inst) inst
  · intro entry he
    exact hm.saved entry (inside entry he)

/-! Writes of the session. -/

/-- The saved bytes written back. -/
theorem SwBp.Placed.restore_apply {entry : SwBp} (hp : entry.Placed) (mem : Buffer) (x : ℕ) :
    mem.write entry.address.toNat entry.originalBytes x =
      if entry.Covers x then entry.savedAt x else mem x := by
  have length : entry.originalBytes.length = entry.instructionSize.toNat := by
    have h4 := hp.le_four
    rw [SwBp.originalBytes, List.length_take, hp.saved]
    omega
  rw [Buffer.write_apply, length]
  by_cases covers : entry.Covers x
  · obtain ⟨low, high⟩ := covers
    have inside : x - entry.address.toNat < entry.instructionSize.toNat := by omega
    rw [if_pos ⟨low, high⟩, if_pos (show entry.Covers x from ⟨low, high⟩), SwBp.originalBytes,
      SwBp.savedAt, List.getD_eq_getElem?_getD, List.getD_eq_getElem?_getD,
      List.getElem?_take_of_lt inside]
  · rw [if_neg (show ¬Within x _ _ from covers), if_neg covers]

/-- A restoring write that may have failed only brings back reference bytes. -/
theorem Mirrored.mayRestore (hm : Mirrored table mem ref) {entry : SwBp} (he : entry ∈ table)
    (hp : entry.Placed) (hw : MayWrite mem mem' entry.address.toNat entry.originalBytes) :
    Mirrored table mem' ref := by
  refine ⟨fun x free => ?_, hm.saved⟩
  rcases hw x with old | new
  · rw [old, hm.clear x free]
  · rw [new, hp.restore_apply]
    split
    · exact hm.saved entry he x (by assumption)
    · exact hm.clear x free

/-- A restoring write with ESP_OK leaves no patch of its entry. -/
theorem Mirrored.restore (hm : Mirrored table mem ref) {index : ℕ} {entry : SwBp}
    (get : table[index]? = some entry) (hp : entry.Placed) :
    Mirrored (table.modify index SwBp.uninstall)
      (mem.write entry.address.toNat entry.originalBytes) ref := by
  constructor
  · intro x free
    rw [hp.restore_apply]
    by_cases covers : entry.Covers x
    · rw [if_pos covers]
      exact hm.saved entry (List.mem_of_getElem? get) x covers
    · rw [if_neg covers]
      apply hm.clear
      intro e he inst patches
      obtain ⟨i, hget⟩ := List.mem_iff_getElem?.mp he
      by_cases hi : index = i
      · subst hi
        obtain rfl := Option.some.inj (hget.symm.trans get)
        exact covers (patches.covers hp)
      · apply free e _ inst patches
        apply List.mem_of_getElem? (i := i)
        rw [List.getElem?_modify, hget]
        simp [hi]
  · intro e he x covers
    obtain ⟨old, hold, rfl | rfl⟩ := mem_modify_cases he
    · exact hm.saved _ hold x covers
    · exact hm.saved old hold x covers

/-- A patch changes nothing but the halfword of an installed entry. -/
theorem Mirrored.patch (hm : Mirrored table mem ref) {entry : SwBp} (he : entry ∈ table)
    (inst : entry.installed = true)
    (hw : MayWrite mem mem' entry.address.toNat bkptPatch) : Mirrored table mem' ref := by
  refine ⟨fun x free => ?_, hm.saved⟩
  rcases hw x with old | new
  · rw [old, hm.clear x free]
  · have outside : ¬Within x entry.address.toNat bkptPatch.length := free entry he inst
    rw [new, Buffer.write_apply, if_neg outside, hm.clear x free]

/-- An instruction that was read where no patch stands. -/
theorem Mirrored.record (hm : Mirrored table mem ref) {entry : BpEntry} {data : List UInt8}
    (size : entry.instructionSize = 2 ∨ entry.instructionSize = 4)
    (read : data.take entry.instructionSize.toNat =
      mem.read entry.address.toNat entry.instructionSize.toNat)
    (apart : ∀ prior ∈ table, ∀ x, (entry.recorded data).Covers x → ¬prior.Covers x)
    (placed : ∀ prior ∈ table, prior.Placed) :
    Mirrored (table ++ [entry.recorded data]) mem ref := by
  constructor
  · intro x free
    exact hm.clear x fun e he => free e (List.mem_append_left _ he)
  · intro e he x covers
    rcases List.mem_append.mp he with he | he
    · exact hm.saved e he x covers
    · obtain rfl := List.mem_singleton.mp he
      have unpatched : mem x = ref x := by
        apply hm.clear
        intro prior hp _ patches
        exact apart prior hp x covers (patches.covers (placed prior hp))
      rw [recorded_savedAt size covers, ← unpatched]
      obtain ⟨low, high⟩ := covers
      obtain ⟨j, rfl⟩ := Nat.exists_eq_add_of_le low
      have hj : j < entry.instructionSize.toNat := Nat.lt_of_add_lt_add_left high
      have length : j < (mem.read entry.address.toNat entry.instructionSize.toNat).length := by
        rwa [Buffer.read_length]
      show (received data entry.instructionSize.toNat).getD
        (entry.address.toNat + j - entry.address.toNat) 0 = mem (entry.address.toNat + j)
      rw [Nat.add_sub_cancel_left, received, read, List.getD_eq_getElem?_getD, List.getElem?_map,
        List.getElem?_range hj, Option.map_some, Option.getD_some, List.getD_eq_getElem?_getD,
        List.getElem?_eq_getElem length, Buffer.read_getElem]
      rfl

/-- A WRITE_MEMORY that was carried out keeps the patches in memory and what they hide in the
table. -/
theorem Mirrored.write (hm : Mirrored table mem ref) {address : UInt64} {data : List UInt8}
    (bound : address.toNat + data.length < 2 ^ 64) (placed : ∀ entry ∈ table, entry.Placed)
    (armed : ∀ entry ∈ table, entry.installed = true) :
    Mirrored (swBpWriteOverlap table address data)
      (mem.write address.toNat (writeImage table address data)) (ref.write address.toNat data) := by
  constructor
  · intro x free
    have free' : ∀ entry ∈ table, entry.installed = true → ¬entry.Patches x := by
      intro entry he inst patches
      apply free (entry.absorb address data) (List.mem_map_of_mem he)
      · rw [SwBp.absorb_installed]
        exact inst
      · rw [SwBp.Patches, (entry.absorb_fields address data).2.1]
        exact patches
    rw [Buffer.write_apply, Buffer.write_apply, writeImage_length]
    by_cases inside : Within x address.toNat data.length
    · obtain ⟨low, high⟩ := inside
      obtain ⟨i, rfl⟩ := Nat.exists_eq_add_of_le low
      have image := writeImage_getElem? bound placed i free'
      rw [if_pos ⟨low, high⟩, if_pos ⟨low, high⟩, Nat.add_sub_cancel_left,
        List.getD_eq_getElem?_getD, List.getD_eq_getElem?_getD, image]
    · rw [if_neg inside, if_neg inside, hm.clear x free']
  · intro e he x covers
    obtain ⟨old, hold, rfl⟩ := List.mem_map.mp he
    rw [absorb_covers] at covers
    rw [SwBp.absorb_savedAt (placed old hold) bound (armed old hold) covers,
      hm.saved old hold x covers, Buffer.write_apply]

/-! Every move keeps the table right. -/

/-- A call that settles nothing. -/
theorem Mirrored.plain (hm : Mirrored s.swTable mem ref) (hs : Shadowed s h)
    (allowed : CallAllowed s h c) (plain : ¬c.Settles a)
    (effect : CallEffect c a mem ref mem' ref') :
    Mirrored s.swTable mem' ref' := by
  have quiet (same : mem' = mem ∧ ref' = ref) : Mirrored s.swTable mem' ref' := by
    rw [same.1, same.2]
    exact hm
  cases c with
  | readMem access address size width => exact quiet effect.2
  | writeMem access address bytes width =>
    obtain ⟨-, write⟩ := allowed
    cases access with
    | request flags data =>
      have failed : ¬a.code = .ok := plain
      rw [CallEffect, if_neg failed] at effect
      exact quiet effect
    | patch => exact absurd trivial plain
    | restore =>
      have failed : ¬a.code = .ok := plain
      obtain ⟨may, rfl⟩ := effect
      rw [if_neg failed] at may
      obtain ⟨-, entry, he, -, rfl, rfl⟩ := write
      exact hm.mayRestore he (hs.placed entry he) may
    | original => exact absurd write id
    | stack => exact absurd write id
  | _ => exact quiet effect

theorem Mirrors.step (hm : Move policy (s, h) (s', h')) (hs : Shadowed s h)
    (mirrors : Mirrors s h) :
    Mirrors s' h' := by
  have offered (f : List UInt8) (accepted : Bool) (table : s'.swTable = s.swTable) :
      Mirrors s' (h ++ [⟨.offer f, accepted⟩]) := by
    intro mem ref run
    rw [table]
    exact mirrors mem ref run.of_offer
  cases hm with
  | keep same =>
    intro mem ref run
    rw [same.swTable]
    exact mirrors mem ref run
  | halt _ _ _ entered =>
    intro mem ref run
    rw [entered.swTable]
    exact mirrors mem ref run
  | run _ _ _ _ same =>
    intro mem ref run
    rw [same.swTable]
    exact mirrors mem ref run
  | hangUp | abandon => exact mirrors
  | compact table inside keeps =>
    intro mem ref run
    exact (mirrors mem ref run).compact inside keeps
  | advertise => exact offered _ _ rfl
  | respond => exact offered _ _ rfl
  | report => exact offered _ _ rfl
  | lose _ _ _ _ swTable sent =>
    rcases sent with ⟨-, -, rfl⟩ | ⟨-, f, accepted, -, -, rfl⟩
    · intro mem ref run
      rw [List.append_nil] at run
      rw [swTable]
      exact mirrors mem ref run
    · exact offered f accepted swTable
  | call c a allowed plain =>
    -- the target's own stores before a call reach both memories alike
    intro mem ref run
    obtain ⟨_, _, _, _, run₀, stores, effect⟩ := run.of_call
    exact ((mirrors _ _ run₀).stores stores).plain hs allowed plain effect
  | resume action address a =>
    intro mem ref run
    obtain ⟨_, _, _, _, run₀, stores, rfl, rfl⟩ := run.of_call
    exact (mirrors _ _ run₀).stores stores
  | attach params a info regions free =>
    -- a session that owns no target holds no patch
    intro mem ref run
    obtain ⟨_, _, _, _, run₀, stores, rfl, rfl⟩ := run.of_call
    have same := (mirrors _ _ run₀).stores stores
    rw [hs.free free] at same
    exact same
  | detach action a =>
    intro mem ref run
    obtain ⟨_, _, _, _, run₀, stores, rfl, rfl⟩ := run.of_call
    exact (mirrors _ _ run₀).stores stores
  | arm index entry a attached halted get =>
    intro mem ref run
    obtain ⟨_, _, mem₁, _, run₀, stores, write, rfl⟩ := run.of_call
    have installed := ((mirrors _ _ run₀).install index).stores stores
    have he : entry.install ∈ s.swTable.modify index SwBp.install := by
      apply List.mem_of_getElem? (i := index)
      rw [List.getElem?_modify, get]
      simp
    apply installed.patch he rfl
    intro x
    split at write
    · exact Or.inr (congrFun write x)
    · exact write x
  | restore index entry a attached halted get installed ok =>
    intro mem ref run
    obtain ⟨_, _, mem₁, _, run₀, stores, write, rfl⟩ := run.of_call
    rw [if_pos ok] at write
    rw [write]
    have placed := hs.placed entry (List.mem_of_getElem? get)
    exact ((mirrors _ _ run₀).stores stores).restore get placed
  | record entry a allowed size ok room =>
    intro mem ref run
    obtain ⟨_, _, mem₁, _, run₀, stores, ⟨read, rfl, rfl⟩⟩ := run.of_call
    obtain ⟨-, -, patchable, clear⟩ := allowed
    apply ((mirrors _ _ run₀).stores stores).record size (read ok) _ hs.placed
    -- the saved bytes are those just read, since no entry before covers them
    intro prior hp x covers covers'
    have apart := keysApart_of_clear (hs.placed prior hp) patchable.bound (clear prior hp)
    obtain ⟨low, high⟩ := covers
    obtain ⟨low', high'⟩ := covers'
    simp only [BpEntry.recorded] at low high
    omega
  | write flags data address width a allowed armed ok =>
    intro mem ref run
    obtain ⟨_, _, mem₁, ref₁, run₀, stores, effect⟩ := run.of_call
    rw [CallEffect, if_pos ok] at effect
    obtain ⟨rfl, rfl⟩ := effect
    obtain ⟨-, -, region, -, covers, -⟩ := allowed
    rw [writeImage_length] at covers
    have bound : address.toNat + data.length < 2 ^ 64 := lt_of_le_of_lt covers.stop covers.bound
    exact ((mirrors _ _ run₀).stores stores).write bound hs.placed armed

theorem mirrors_fresh : Mirrors {} [] := by
  intro mem ref run
  generalize hh : ([] : SessionHistory) = h at run
  cases run with
  | start memory => exact mirrored_nil.mpr rfl
  | offer f accepted run => exact absurd hh (by simp)
  | call s c a run stores effect => exact absurd hh (by simp)

end SidpClient
