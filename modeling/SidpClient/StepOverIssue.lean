import SidpClient.ReferenceReads
import SidpClient.RunAllOrNothing
import SidpClient.SessionUpdates
import SidpClient.HitStops

/-! The internal step of a RUN: what the target looks like when it is issued, and what is seen of
it. -/
namespace SidpClient
open LittleEndian Interactive

variable {policy : Policy} {c₀ : Config} {fs : List (List UInt8)} {s s' : Session}
  {h h' evs : SessionHistory} {A : UInt64} {requestId : UInt32} {payload : List UInt8}

/-! Step-overs start at instructions. -/

/-- Every breakpoint and the pending step-over are at an even address. -/
def AlignedHits (s : Session) : Prop :=
  (∀ entry ∈ s.swTable, entry.address &&& 1 = 0) ∧ s.swStepOverAddress &&& 1 = 0

theorem swBpFindInstalled_found {table : List SwBp} {address : UInt64} {bp : SwBp}
    (found : swBpFindInstalled table address = some bp) : bp ∈ table ∧ bp.address = address := by
  rw [swBpFindInstalled] at found
  cases index : swBpFindByAddress table address with
  | none =>
    rw [index] at found
    exact absurd found (by simp)
  | some i =>
    simp only [index, Option.filter_eq_some_iff] at found
    have get := found.1
    obtain ⟨hlt, here, -⟩ := List.findIdx?_eq_some_iff_getElem.mp index
    rw [List.getElem?_eq_getElem hlt] at get
    have same := Option.some.inj get
    rw [same] at here
    exact ⟨List.mem_of_getElem? found.1, by simpa using here⟩

/-- A breakpoint is hit at the PC or two bytes before it. -/
theorem softwareHit_found {table : List SwBp} {stop : StopDetect} {bp : SwBp}
    (found : softwareHit table stop = some bp) :
    bp ∈ table ∧
      (bp.address = stop.pc.toUInt64 ∨ 2 ≤ stop.pc.toUInt64 ∧
      bp.address = stop.pc.toUInt64 - 2) := by
  rw [softwareHit] at found
  split at found
  · rw [swBpFindByHaltPc] at found
    split at found
    · rename_i first
      split at first
      · rename_i low
        have behind := swBpFindInstalled_found (first.trans found)
        exact ⟨behind.1, Or.inr ⟨low, behind.2⟩⟩
      · exact absurd first (by simp)
    · have on := swBpFindInstalled_found found
      exact ⟨on.1, Or.inl on.2⟩
  · exact absurd found (by simp)

theorem softwareHit_mem {table : List SwBp} {stop : StopDetect} {bp : SwBp}
    (found : softwareHit table stop = some bp) : bp ∈ table := (softwareHit_found found).1

theorem classifyStop_hits {stop : StopDetect} {address : UInt64}
    (asked : (classifyStop s stop).stepOver = some address) :
    ∃ entry, softwareHit s.swTable stop = some entry ∧ entry.address = address := by
  rw [classifyStop_stepOver] at asked
  split at asked
  · exact Option.map_eq_some_iff.mp asked
  · exact absurd asked (by simp)

/-- A stop asks for a step over a breakpoint of the table. -/
theorem classifyStop_asks {stop : StopDetect} {address : UInt64}
    (asked : (classifyStop s stop).stepOver = some address) :
    ∃ entry ∈ s.swTable, entry.address = address := by
  obtain ⟨entry, found, same⟩ := classifyStop_hits asked
  exact ⟨entry, softwareHit_mem found, same⟩

/-- The step-over moves only to a breakpoint that was hit. -/
theorem Update.stepOver (update : Update Redirect s s') :
    s'.swStepOverAddress = s.swStepOverAddress ∨ s'.swStepOverAddress = 0 ∨ ∃ stop bp,
      softwareHit s.swTable stop = some bp ∧ s'.swStepOverAddress = bp.address := by
  cases update with
  | special redirect =>
    cases redirect with
    | clear clears =>
      cases clears with
      | untrack => exact Or.inl rfl
      | forget => exact Or.inr (Or.inl rfl)
    | attach | reset => exact Or.inr (Or.inl rfl)
    | name | run | resume => exact Or.inl rfl
  | other same =>
    simp only [Session.control, Prod.mk.injEq] at same
    exact Or.inl same.2.2.1.2
  | next stop =>
    right
    cases asked : (classifyStop s stop).stepOver with
    | none => exact Or.inl (congrArg (·.getD 0) asked)
    | some place =>
      obtain ⟨entry, found, same⟩ := classifyStop_hits asked
      exact Or.inr ⟨stop, entry, found, (congrArg (·.getD 0) asked).trans same.symm⟩
  | lose | halt => exact Or.inl rfl
  | release | stepped => exact Or.inr (Or.inl rfl)
  | hit stop bp found => exact Or.inr (Or.inr ⟨stop, bp, found, rfl⟩)
  | mark | restore | record | absorb => exact Or.inl rfl

theorem AlignedHits.step (update : Update Redirect s s') (ha : AlignedHits s) : AlignedHits s' := by
  obtain ⟨table, address⟩ := ha
  have address' : s'.swStepOverAddress &&& 1 = 0 := by
    rcases update.stepOver with same | cleared | ⟨stop, bp, found, same⟩
    · rw [same]
      exact address
    · rw [cleared]
      decide
    · rw [same]
      exact table bp (softwareHit_mem found)
  refine ⟨?_, address'⟩
  cases update with
  | special redirect =>
    cases redirect with
    | clear clears => cases clears <;> exact table
    | attach => exact fun _ hm => absurd hm (by simp [Session.attachedWith])
    | reset | name | run | resume => exact table
  | other same =>
    simp only [Session.control, Prod.mk.injEq] at same
    rw [same.2.2.2]
    exact table
  | next | lose | halt | release | hit | stepped => exact table
  | mark index f hf =>
    intro entry hm
    obtain ⟨old, hold, rfl | rfl⟩ := mem_modify_cases hm
    · exact table _ hold
    · rcases hf with rfl | rfl
      · exact table old hold
      · exact table old hold
  | restore left keys =>
    intro entry hm
    obtain ⟨old, hold, same⟩ := List.mem_map.mp (keys.subset (List.mem_map_of_mem hm))
    rw [show entry.address = old.address from congrArg (fun key => key.2.1) same.symm]
    exact table old hold
  | record entry bytes recordable clear =>
    intro e hm
    rcases List.mem_append.mp hm with hm | hm
    · exact table e hm
    · rw [List.mem_singleton.mp hm]
      exact recordable.aligned
  | absorb place data =>
    intro entry hm
    obtain ⟨old, hold, rfl⟩ := List.mem_map.mp hm
    rw [(old.absorb_fields place data).2.1]
    exact table old hold

/-- The pending step-over is at an address the PC can hold. -/
def NarrowHit (s : Session) : Prop := s.swStepOverAddress.toUInt32.toUInt64 = s.swStepOverAddress

/-- Of an address that the PC can hold its low bits are the whole. -/
theorem NarrowHit.unique (hn : NarrowHit s) (hn' : NarrowHit s')
    (same : s'.swStepOverAddress.toUInt32 = s.swStepOverAddress.toUInt32) :
    s'.swStepOverAddress = s.swStepOverAddress := by
  rw [← hn', same, hn]

theorem NarrowHit.step (update : Update Redirect s s') (hn : NarrowHit s) : NarrowHit s' := by
  rw [NarrowHit]
  rcases update.stepOver with same | cleared | ⟨stop, bp, found, same⟩
  · rw [same]
    exact hn
  · rw [cleared]
    decide
  · rw [same]
    have bound := stop.pc.toNat_lt
    rcases (softwareHit_found found).2 with on | ⟨low, behind⟩
    · rw [on]
      simp
    · rw [behind]
      apply UInt64.toNat_inj.mp
      have least : 2 ≤ stop.pc.toNat := by simpa using UInt64.le_iff_toNat_le.mp low
      have less : (stop.pc.toUInt64 - 2).toNat = stop.pc.toNat - 2 := by
        rw [UInt64.toNat_sub_of_le _ _ low]
        simp
      simp only [UInt32.toNat_toUInt64, UInt64.toNat_toUInt32, less]
      omega

theorem even_of_and_one {address : UInt64} (aligned : address &&& 1 = 0) :
    address.toNat % 2 = 0 := by
  have bits := congrArg UInt64.toNat aligned
  rw [UInt64.toNat_and] at bits
  have one : (1 : UInt64).toNat = 1 := rfl
  rw [one, Nat.and_one_is_mod] at bits
  exact bits

/-! The internal step in a history. -/

/-- A `resume` with a step-over still pending. -/
def internalStep : SessionEvent → Bool
  | ⟨.call s (.resume _ _), _⟩ => s.swStepOverPending
  | _ => false

def stepSeenCall (seen : Option StopDetect) (s : Session) (c : Call) (a : Answer) :
    Option StopDetect :=
  match c with
  | .resume _ _ => none
  | .pollHalted =>
    if s.swStepOverPending = true ∧ a.code = .ok ∧ a.stop.halted = true then some a.stop else seen
  | _ => seen

def stepSeenStep (seen : Option StopDetect) : SessionEvent → Option StopDetect
  | ⟨.call s c, a⟩ => stepSeenCall seen s c a
  | ⟨.offer _, _⟩ => seen

/-- The observation that confirmed the internal step, if the target was not resumed after it. -/
def stepSeen (h : SessionHistory) : Option StopDetect := view stepSeenStep none h

@[simp] theorem stepSeen_call {c : Call} {a : Answer} :
    stepSeen (h ++ [⟨.call s c, a⟩]) = stepSeenCall (stepSeen h) s c a := view_concat

@[simp] theorem stepSeen_offer {f : List UInt8} {accepted : Bool} :
    stepSeen (h ++ [⟨.offer f, accepted⟩]) = stepSeen h := view_concat

/-! Nothing of it in calm programs. -/

/-- How often the target was stepped internally. -/
def stepCount (h : SessionHistory) : ℕ := h.countP internalStep

def isResume : SessionEvent → Bool
  | ⟨.call _ (.resume _ _), _⟩ => true
  | _ => false

/-- How often the target was resumed, internally or for the client. -/
def resumeCount (h : SessionHistory) : ℕ := h.countP isResume

theorem resumeCount_append (h evs : SessionHistory) :
    resumeCount (h ++ evs) = resumeCount h + resumeCount evs :=
  List.countP_append

theorem isResume_of_internal {ev : SessionEvent} (stepped : internalStep ev = true) :
    isResume ev = true := by
  obtain ⟨e, reply⟩ := ev
  cases e with
  | offer f => exact absurd stepped (by simp [internalStep])
  | call s c =>
    cases c with
    | resume => rfl
    | _ => exact absurd stepped (by simp [internalStep])

theorem Calm.resumeCount (k : Calm h h') : resumeCount h' = resumeCount h := by
  obtain ⟨evs, rfl, calm⟩ := k
  have none : evs.countP isResume = 0 := by
    apply List.countP_eq_zero.mpr
    intro ev hm resumed
    obtain ⟨e, reply⟩ := ev
    cases e with
    | offer f => exact absurd resumed (by simp [isResume])
    | call s c =>
      have routine := calm s c reply hm
      cases c with
      | resume => exact absurd routine (by simp [Call.routine])
      | _ => exact absurd resumed (by simp [isResume])
  rw [resumeCount_append, SidpClient.resumeCount, SidpClient.resumeCount, none, Nat.add_zero]

theorem Calm.stepCount (k : Calm h h') : stepCount h' = stepCount h := by
  have resumes := k.resumeCount
  obtain ⟨evs, rfl, -⟩ := k
  have none : SidpClient.resumeCount evs = 0 := by
    rw [resumeCount_append] at resumes
    omega
  have fewer : evs.countP internalStep ≤ SidpClient.resumeCount evs :=
    List.countP_mono_left fun _ _ => isResume_of_internal
  rw [SidpClient.stepCount, SidpClient.stepCount, List.countP_append]
  omega

theorem stepCount_resume {action : UInt8} {address : UInt64} {a : Answer} :
    stepCount (h ++ [⟨.call s (.resume action address), a⟩]) =
      stepCount h + if s.swStepOverPending then 1 else 0 := by
  rw [stepCount, List.countP_append, List.countP_singleton]
  rfl

theorem resumeCount_resume {action : UInt8} {address : UInt64} {a : Answer} :
    resumeCount (h ++ [⟨.call s (.resume action address), a⟩]) = resumeCount h + 1 := by
  rw [resumeCount_append]
  rfl

/-- The target was resumed once, and that for an internal step. -/
structure SteppedSince (h h' : SessionHistory) : Prop where
  steps : stepCount h' = stepCount h + 1
  resumes : resumeCount h' = resumeCount h + 1

theorem SteppedSince.calm {h'' : SessionHistory} (hs : SteppedSince h h') (k : Calm h' h'') :
    SteppedSince h h'' :=
  ⟨k.stepCount.trans hs.steps, k.resumeCount.trans hs.resumes⟩

theorem Calm.stepped {h'' : SessionHistory} (k : Calm h h') (hs : SteppedSince h' h'') :
    SteppedSince h h'' :=
  ⟨hs.steps.trans (congrArg (· + 1) k.stepCount), hs.resumes.trans (congrArg (· + 1) k.resumeCount)⟩

theorem SnapshotTaken.stepSeen (taken : SnapshotTaken s s' evs) :
    stepSeen (h ++ evs) = stepSeen h := by
  apply view_append_of_blind
  intro ev hm last
  obtain ⟨s₁, c, a, rfl, moves⟩ := taken.reads ev hm
  cases c with
  | readRegs | writeRegs | readMem | writeMem => rfl
  | _ => exact absurd moves Bool.false_ne_true

/-! What stands at the address. -/

/-- No patch can stand in the `n` bytes at the address, and they are those of a memory that is never
patched, if the program keeps out of the instructions of the shadow table. -/
structure OriginalAt (A : UInt64) (n : ℕ) (h : SessionHistory) : Prop where
  clear : ∀ p ∈ patched h, p.toNat + 2 ≤ A.toNat ∨ A.toNat + n ≤ p.toNat
  memory : ∀ mem ref, MemoryRun (fun _ => True) h mem ref →
    ∀ x, A.toNat ≤ x → x < A.toNat + n → mem x = ref x

/-- A breakpoint starts in the middle of the instruction. -/
def MidInstruction (A : UInt64) (n : ℕ) (entries : List BpEntry) : Prop :=
  n = 4 ∧ ∃ entry ∈ entries, entry.address.toNat = A.toNat + 2

/-- The addresses of a table are those of the breakpoints it was made from. -/
theorem mem_addresses_of_keys {table : List SwBp} {entries : List BpEntry}
    (keys : table.map SwBp.key = entries.map BpEntry.key) (address : UInt64) :
    (∃ entry ∈ table, entry.address = address) ↔ ∃ entry ∈ entries, entry.address = address := by
  have same : table.map SwBp.address = entries.map BpEntry.address := by
    have second := congrArg (List.map fun key => key.2.1) keys
    simp only [List.map_map] at second
    exact second
  rw [← List.mem_map, ← List.mem_map, same]

theorem originalAt_iff {entries : List BpEntry} {n : ℕ} (size : n = 2 ∨ n = 4)
    (shadowed : Shadowed s h) (mirrors : Mirrors s h) (even : A.toNat % 2 = 0)
    (aligned : ∀ entry ∈ entries, entry.address &&& 1 = 0)
    (keys : s.swTable.map SwBp.key = entries.map BpEntry.key)
    (off : ∀ entry ∈ s.swTable, entry.address = A → entry.installed = false)
    (stands : ∀ entry ∈ s.swTable, entry.address ≠ A → entry.address ∈ standing h) :
    OriginalAt A n h ↔ ¬MidInstruction A n entries := by
  constructor
  · rintro original ⟨four, e, he, behind⟩
    obtain ⟨entry, hm, same⟩ := (mem_addresses_of_keys keys e.address).mpr ⟨e, he, rfl⟩
    have other : entry.address ≠ A := by
      intro equal
      rw [← same, equal] at behind
      omega
    have clear := original.clear entry.address (standing_subset_patched h (stands entry hm other))
    rw [same] at clear
    omega
  · intro outside
    have apart (entry : SwBp) (hm : entry ∈ s.swTable) (installed : entry.installed = true) :
        entry.address.toNat + 2 ≤ A.toNat ∨ A.toNat + n ≤ entry.address.toNat := by
      obtain ⟨e, he, same⟩ := (mem_addresses_of_keys keys entry.address).mp ⟨entry, hm, rfl⟩
      have evenEntry := even_of_and_one (aligned e he)
      rw [same] at evenEntry
      have other : entry.address.toNat ≠ A.toNat := by
        intro equal
        have cleared := off entry hm (UInt64.toNat_inj.mp equal)
        exact absurd (installed.symm.trans cleared) (by decide)
      have ahead : n = 4 → entry.address.toNat ≠ A.toNat + 2 := by
        intro four behind
        exact outside ⟨four, e, he, by rw [same, behind]⟩
      omega
    constructor
    · intro p hp
      obtain ⟨entry, hm, installed, rfl⟩ := shadowed.held p hp
      exact apart entry hm installed
    · intro mem ref run x low high
      apply (mirrors mem ref run).clear
      intro entry hm installed patches
      have far := apart entry hm installed
      have inside : entry.address.toNat ≤ x ∧ x < entry.address.toNat + 2 := patches
      omega

/-! The internal step is issued over the original instruction. -/

/-- How an internal step is issued over an address, with these breakpoints in the table. -/
structure IssuedAt (A : UInt64) (entries : List BpEntry) (action : UInt8) (address : UInt64)
    (h : SessionHistory) :
    Prop where
  single : action = RunAction.singleStep
  nowhere : address = 0
  written : ∃ h₁ s₁ a, h = h₁ ++ [⟨.call s₁ (.writeRegs (pcEntryBytes A.toUInt32)), a⟩] ∧
    a.code = .ok
  original : ∀ n, n = 2 ∨ n = 4 → (OriginalAt A n h ↔ ¬MidInstruction A n entries)

/-- From the history `h₀` on every internal step is issued so. -/
def StepIssue (A : UInt64) (entries : List BpEntry) (h₀ : SessionHistory) (s : Session)
    (h : SessionHistory) (c : Call) : Prop :=
  h₀ <+: h → ∀ action address, c = .resume action address → s.swStepOverPending = true →
    IssuedAt A entries action address h

theorem stepIssue_of_routine {entries : List BpEntry} {h₀ : SessionHistory} {c : Call}
    (hc : c.routine = true) :
    StepIssue A entries h₀ s h c := by
  rintro - action address rfl
  exact absurd hc (by simp [Call.routine])

theorem stepIssue_start (A : UInt64) (entries : List BpEntry) (h₀ : SessionHistory) :
    EveryCall (StepIssue A entries h₀) h₀ := by
  intro h s c a h' he later
  have length := later.length_le
  rw [he, List.length_append, List.length_cons] at length
  omega

theorem Calm.stepIssue {entries : List BpEntry} {h₀ : SessionHistory} (k : Calm h h')
    (hall : EveryCall (StepIssue A entries h₀) h) : EveryCall (StepIssue A entries h₀) h' :=
  k.everyCall (fun _ _ _ => stepIssue_of_routine) hall

theorem swBpRestoreFound_clears (bp : Option ℕ) :
    (swBpRestoreFound bp).wp s h fun ok s' h' => ok = true → ∀ index, bp = some index →
    ∀ entry, s.swTable[index]? = some entry → entry.installed = true →
      (∀ entry', s'.swTable[index]? = some entry' → entry'.installed = false) ∧
      entry.address ∉ standing h' := by
  cases bp with
  | none => exact fun _ index hf => absurd hf (by simp)
  | some index =>
    simp only [swBpRestoreFound, swBpRestoreOne, Action.wp_bind, getSession_wp]
    cases get : s.swTable[index]? with
    | none =>
      intro _ i hi entry he
      obtain rfl := Option.some.inj hi
      rw [get] at he
      exact absurd he (by simp)
    | some entry =>
      simp only [Action.wp_ite, Action.wp_bind, Action.wp_pure, backend_wp, updateTable_wp]
      constructor
      · intro off _ i hi e he installed
        obtain rfl := Option.some.inj hi
        obtain rfl := Option.some.inj (get.symm.trans he)
        exact absurd off (by simp [installed])
      · intro _ a
        constructor
        · intro ok _ i hi e he _
          obtain rfl := Option.some.inj hi
          obtain rfl := Option.some.inj (get.symm.trans he)
          constructor
          · intro e' he'
            have modified : (s.swTable.modify index SwBp.uninstall)[index]? = some e' := he'
            rw [List.getElem?_modify, get] at modified
            simp only [if_true, Option.map_eq_map, Option.map_some, Option.some.injEq] at modified
            rw [← modified]
            rfl
          · rw [standing_call, standingCall]
            intro hm
            exact absurd rfl (of_decide_eq_true (List.mem_filter.mp hm).2)
        · intro failed ok
          exact absurd (of_decide_eq_true ok) failed

theorem swBpInstallFound_sees (bp : Option ℕ) : (swBpInstallFound bp).wp s h fun ok _ h' =>
    stepSeen h' = stepSeen h ∧
      (ok = false → (∃ index, bp = some index) ∧ standing h' ⊆ standing h) := by
  cases bp with
  | none => exact ⟨rfl, fun hf => absurd hf (by simp)⟩
  | some index =>
    simp only [swBpInstallFound, swBpInstallOne, Action.wp_bind, updateTable_wp, getSession_wp]
    cases (s.withTable (s.swTable.modify index SwBp.install)).swTable[index]? with
    | none => exact ⟨rfl, fun _ => ⟨⟨index, rfl⟩, List.Subset.refl _⟩⟩
    | some entry =>
      simp only [Action.wp_bind, backend_wp, Action.wp_pure]
      intro a
      refine ⟨stepSeen_call, fun failed => ⟨⟨index, rfl⟩, ?_⟩⟩
      rw [standing_call, standingCall, if_neg (of_decide_eq_false failed)]
      exact List.filter_subset_self _

/-- Behind the restore the patch at the step-over's address is not in. -/
theorem down_at_step {s₁ : Session} {bp : Option ℕ} (hbp : swBpFindByAddress s.swTable A = bp)
    (spaced : Spaced s.swTable) (keys : s₁.swTable.map SwBp.key = s.swTable.map SwBp.key)
    (cleared : ∀ index, bp = some index → ∀ entry, s.swTable[index]? = some entry →
      ∀ entry', s₁.swTable[index]? = some entry' → entry'.installed = false) :
    ∀ entry ∈ s₁.swTable, entry.address = A → entry.installed = false := by
  intro entry hm same
  obtain ⟨i, get⟩ := List.mem_iff_getElem?.mp hm
  have place := addresses_of_keys keys i
  rw [get] at place
  cases bp with
  | none =>
    obtain ⟨old, hold, address⟩ := Option.map_eq_some_iff.mp place.symm
    have other := List.findIdx?_eq_none_iff.mp hbp old (List.mem_of_getElem? hold)
    exact absurd (address.trans same) (by simpa using other)
  | some index =>
    obtain ⟨hlt, hp, -⟩ := List.findIdx?_eq_some_iff_getElem.mp hbp
    have found := List.getElem?_eq_getElem hlt
    have place := addresses_of_keys keys index
    rw [found] at place
    obtain ⟨new, hnew, address⟩ := Option.map_eq_some_iff.mp place
    -- no two entries share an address, so the one found is the one restored
    have at₁ : new.address = A := address.trans (by simpa using hp)
    have spaced₁ : Spaced s₁.swTable := spaced.of_keys (keys ▸ List.Sublist.refl _)
    rw [spaced₁.address_unique hm (List.mem_of_getElem? hnew) (same.trans at₁.symm)]
    exact cleared index rfl _ found new hnew

/-- Behind the restore every other patch stands. -/
theorem standing_beside {s₁ : Session} {h₁ : SessionHistory} {bp : Option ℕ}
    (hbp : swBpFindByAddress s.swTable A = bp)
    (keys : s₁.swTable.map SwBp.key = s.swTable.map SwBp.key)
    (stands : ∀ entry ∈ s.swTable, entry.address ∈ standing h)
    (kept : ∀ address ∈ standing h, address ∈ standing h₁ ∨
      ∃ index entry, bp = some index ∧ s.swTable[index]? = some entry ∧ entry.address = address) :
    ∀ entry ∈ s₁.swTable, entry.address ≠ A → entry.address ∈ standing h₁ := by
  intro entry hm other
  obtain ⟨i, get⟩ := List.mem_iff_getElem?.mp hm
  have old : PatchStands s₁.swTable i h :=
    PatchStands.of_keys keys fun e he => stands e (List.mem_of_getElem? he)
  rcases kept entry.address (old entry get) with stays | ⟨index, e, hi, hget, same⟩
  · exact stays
  · rw [hi] at hbp
    obtain ⟨hlt, hp, -⟩ := List.findIdx?_eq_some_iff_getElem.mp hbp
    rw [List.getElem?_eq_getElem hlt] at hget
    obtain rfl := Option.some.inj hget
    exact absurd (same.symm.trans (by simpa using hp)) other

theorem executeStepOver_issues {entries : List BpEntry} {h₀ : SessionHistory} (action : UInt8)
    (ht : Trace policy c₀ s h fs) (he : Engaged s h) (known : HaltKnown h)
    (start : Shadowed c₀.1 c₀.2 ∧ Mirrors c₀.1 c₀.2) (spaced : Spaced s.swTable)
    (pending : s.swStepOverPending = true) (even : s.swStepOverAddress.toNat % 2 = 0)
    (aligned : ∀ entry ∈ entries, entry.address &&& 1 = 0)
    (keys : s.swTable.map SwBp.key = entries.map BpEntry.key)
    (stands : ∀ entry ∈ s.swTable, entry.address ∈ standing h)
    (every : EveryCall (StepIssue s.swStepOverAddress entries h₀) h) :
    (executeStepOver action).wp s h fun outcome s' h' =>
      EveryCall (StepIssue s.swStepOverAddress entries h₀) h' ∧
        (outcome = .failed → Quiet s h s' h') ∧
        (outcome ≠ .failed → SteppedSince h h') ∧ outcome ≠ .notNeeded := by
  simp only [executeStepOver, Action.wp_bind, getSession_wp, Action.wp_ite, Action.wp_pure]
  refine ⟨fun idle => absurd idle (by simp [pending]), fun _ => ?_⟩
  generalize hbp : swBpFindByAddress s.swTable s.swStepOverAddress = bp
  have traced : (swBpRestoreFound bp).wp s h fun _ s' h' => Trace policy c₀ s' h' fs ∧ Keeps h h' :=
    swBpRestoreFound_trace ht he.attached known
      (fun index hi => (List.findIdx?_eq_some_iff_getElem.mp (hbp.trans hi)).1) he.armed
      fun _ _ _ ht' k' _ _ _ => ⟨ht', k'⟩
  apply Action.wp_mono (Action.wp_and (Action.wp_and (swBpRestoreFound_quiet bp)
    (swBpRestoreFound_stands bp))
    (Action.wp_and (swBpRestoreFound_clears bp) traced))
  intro ok s₁ evs₁ restored
  obtain ⟨⟨quiet₁, keys₁, kept⟩, cleared, ht₁, k₁⟩ := restored
  generalize h ++ evs₁ = h₁ at quiet₁ kept cleared ht₁ k₁
  have every₁ := quiet₁.history.calm.stepIssue every
  refine ⟨fun _ => ⟨every₁, fun _ => quiet₁, fun hf => absurd rfl hf, by simp⟩, fun hok => ?_⟩
  simp only [writeCurrentPc, Action.wp_bind, backend_wp, Action.wp_pure]
  intro a
  have attached₁ : s₁.attached = true := by
    rw [quiet₁.session]
    exact he.attached
  have pending₁ : s₁.swStepOverPending = true := by
    rw [quiet₁.session]
    exact pending
  have ht₂ := ht₁.call (c := .writeRegs (pcEntryBytes s.swStepOverAddress.toUInt32)) a
    ⟨attached₁, known.keeps k₁⟩ id
  have every₂ := every₁.call (a := a) (s := s₁)
      (c := .writeRegs (pcEntryBytes s.swStepOverAddress.toUInt32))
    (stepIssue_of_routine rfl)
  have quiet₂ :
      Quiet s h s₁
      (h₁ ++ [⟨.call s₁ (.writeRegs (pcEntryBytes s.swStepOverAddress.toUInt32)), a⟩]) :=
    quiet₁.call rfl
  constructor
  · intro _
    apply Action.wp_mono (swBpInstallFound_quiet bp)
    intro _ s₃ _ again
    exact ⟨again.history.calm.stepIssue every₂, fun _ => quiet₂.trans again,
      fun hf => absurd rfl hf, by simp⟩
  intro written step
  have off := down_at_step hbp spaced keys₁ fun index hi entry get =>
    (cleared (by simpa using hok) index hi entry get (he.armed _ (List.mem_of_getElem? get))).1
  have stands₁ := standing_beside hbp keys₁ stands kept
  -- issued with the PC written, its patch out and all others in
  have every₃ := every₂.call (a := step) (s := s₁) (c := .resume RunAction.singleStep 0) (by
    rintro - action' address he -
    cases he
    refine ⟨rfl, rfl, ⟨h₁, s₁, a, rfl, by simpa using written⟩, fun n size => ?_⟩
    obtain ⟨shadowed, mirrors⟩ := mirrors_of_moves ht₂.moves start.1 start.2
    exact originalAt_iff size shadowed mirrors even aligned (keys₁.trans keys) off
      fun entry hm other => by
      rw [standing_call]
      exact stands₁ entry hm other)
  have count₃ :
      SteppedSince h (h₁ ++ [⟨.call s₁ (.writeRegs (pcEntryBytes s.swStepOverAddress.toUInt32)),
      a⟩] ++ [⟨.call s₁ (.resume RunAction.singleStep 0), step⟩]) := by
    apply quiet₂.history.calm.stepped
    constructor
    · rw [stepCount_resume, pending₁]
      rfl
    · exact resumeCount_resume
  refine ⟨fun _ => ⟨every₃, fun hf => absurd hf (by simp), fun _ => count₃, by simp⟩, fun _ => ?_⟩
  apply Action.wp_mono (pollStepHalted_polled 100)
  intro r s₄ evs₄ polled
  obtain ⟨polled, rfl⟩ := polled
  have every₄ := polled.quiet.calm.stepIssue every₃
  have count₄ := count₃.calm polled.quiet.calm
  cases r with
  | error reason => exact ⟨every₄, fun hf => absurd hf (by simp), fun _ => count₄, by simp⟩
  | ok stop =>
    simp only [Action.wp_bind, updateSession_wp, Action.wp_ite, Action.wp_pure]
    apply Action.wp_mono (swBpInstallFound_quiet bp)
    intro _ s₅ _ again
    have every₅ := again.history.calm.stepIssue every₄
    have count₅ := count₄.calm again.history.calm
    exact ⟨fun _ => ⟨every₅, fun hf => absurd hf (by simp), fun _ => count₅, by simp⟩, fun _ =>
      ⟨fun _ => ⟨every₅, fun hf => absurd hf (by simp), fun _ => count₅, by simp⟩, fun _ =>
        ⟨fun _ => ⟨every₅, fun hf => absurd hf (by simp), fun _ => count₅, by simp⟩,
          fun _ => ⟨every₅, fun hf => absurd hf (by simp), fun _ => count₅, by simp⟩⟩⟩⟩

/-! What is seen of the internal step. -/

theorem pollStepHalted_sees (n : ℕ) (pending : s.swStepOverPending = true)
    (unseen : stepSeen h = none) :
    (pollStepHalted n).wp s h fun r _ h' => (∀ stop, r = .ok stop → stepSeen h' = some stop) ∧
      ∀ reason, r = .error reason → stepSeen h' = none := by
  induction n generalizing h with
  | zero => exact ⟨fun _ hf => absurd hf (by simp), fun _ _ => unseen⟩
  | succ n ih =>
    simp only [pollStepHalted, Action.wp_bind, backend_wp, Action.wp_ite, Action.wp_pure]
    intro a
    constructor
    · intro failed
      refine ⟨fun _ hf => absurd hf (by simp), fun _ _ => ?_⟩
      have missed : stepSeen (h ++ [⟨.call s .pollHalted, a⟩]) = stepSeen h :=
        stepSeen_call.trans (if_neg fun seen => failed seen.2.1)
      exact missed.trans unseen
    · intro ok
      constructor
      · intro halted
        refine ⟨fun stop same => ?_, fun _ hf => absurd hf (by simp)⟩
        obtain rfl := Except.ok.inj same
        exact stepSeen_call.trans (if_pos ⟨pending, not_not.mp ok, halted⟩)
      · intro running
        apply ih
        have missed : stepSeen (h ++ [⟨.call s .pollHalted, a⟩]) = stepSeen h :=
          stepSeen_call.trans (if_neg fun seen => running seen.2.2)
        exact missed.trans unseen

/-- What the internal step ends in once its halt was seen. -/
inductive StepEnd (A : UInt64) (stop : StopDetect) (outcome : StepOver) (h : SessionHistory) : Prop
  | real (same : outcome = .stoppedReal stop) (kind : isRealStop stop = true)
  | clean (same : outcome = .stoppedStep stop ∨ outcome = .stepped) (kind : isRealStop stop = false)
  | disarmed (reason : TargetLostReason) (same : outcome = .failedLost reason)
      (down : A ∉ standing h)

/-- A step that is reported as a stop is reported as the stop that was seen. -/
theorem StepEnd.reported {stop stop' : StopDetect} {outcome : StepOver}
    (ends : StepEnd A stop' outcome h)
    (same : outcome = .stoppedReal stop ∨ outcome = .stoppedStep stop) : stop' = stop := by
  cases ends with
  | real which =>
    rcases same with rfl | rfl
    · cases which
      rfl
    · cases which
  | clean which =>
    rcases same with rfl | rfl
    · rcases which with which | which <;> cases which
    · rcases which with which | which
      · cases which
        rfl
      · cases which
  | disarmed _ which => rcases same with rfl | rfl <;> cases which

theorem executeStepOver_sees (action : UInt8) (pending : s.swStepOverPending = true)
    (armed : ∀ entry ∈ s.swTable, entry.installed = true) :
    (executeStepOver action).wp s h fun outcome s' h' =>
      outcome ≠ .failed → ∀ stop, stepSeen h' = some stop →
        s'.swStepOverPending = false ∧ StepEnd s.swStepOverAddress stop outcome h' := by
  have hbp (index : ℕ) (hf : swBpFindByAddress s.swTable s.swStepOverAddress = some index) :=
    List.findIdx?_eq_some_iff_getElem.mp hf
  simp only [executeStepOver, Action.wp_bind, getSession_wp, Action.wp_ite, Action.wp_pure]
  refine ⟨fun idle => absurd idle (by simp [pending]), fun _ => ?_⟩
  generalize swBpFindByAddress s.swTable s.swStepOverAddress = bp at hbp ⊢
  apply Action.wp_mono (Action.wp_and (swBpRestoreFound_quiet bp) (swBpRestoreFound_clears bp))
  intro ok s₁ evs₁ restored
  obtain ⟨quiet₁, cleared⟩ := restored
  generalize h ++ evs₁ = h₁ at quiet₁ cleared
  refine ⟨fun _ hf => absurd rfl hf, fun hok => ?_⟩
  simp only [writeCurrentPc, Action.wp_bind, backend_wp, Action.wp_pure]
  intro a
  constructor
  · intro _
    exact Action.wp_from fun _ _ _ hf => absurd rfl hf
  intro _ step
  have pending₁ : s₁.swStepOverPending = true := by
    rw [quiet₁.session]
    exact pending
  -- only a poll behind the step sees it
  have unseen :
      stepSeen (h₁ ++ [⟨.call s₁ (.writeRegs (pcEntryBytes s.swStepOverAddress.toUInt32)), a⟩] ++
      [⟨.call s₁ (.resume RunAction.singleStep 0), step⟩]) = none := by
    rw [stepSeen_call]
    rfl
  refine ⟨fun _ _ stop seen => absurd (unseen.symm.trans seen) (by simp), fun _ => ?_⟩
  apply Action.wp_mono (Action.wp_and (pollStepHalted_polled 100)
    (pollStepHalted_sees 100 pending₁ unseen))
  intro r s₄ evs₄ polled
  obtain ⟨⟨polled, rfl⟩, observed, missed⟩ := polled
  have kept₄ := polled.view (f := standing) fun _ _ => standing_call
  cases r with
  | error reason => exact fun _ stop seen => absurd ((missed reason rfl).symm.trans seen) (by simp)
  | ok stop =>
    have seen₄ := observed stop rfl
    simp only [Action.wp_bind, updateSession_wp, Action.wp_ite, Action.wp_pure]
    apply Action.wp_mono (Action.wp_and (swBpInstallFound_quiet bp) (swBpInstallFound_sees bp))
    intro ok' s₅ evs₅ installed
    obtain ⟨quiet₅, seen₅, failed⟩ := installed
    generalize _ ++ evs₅ = h₅ at quiet₅ seen₅ failed ⊢
    have taken (stop' : StopDetect) (seen : stepSeen h₅ = some stop') : stop' = stop :=
      Option.some.inj (seen.symm.trans (seen₅.trans seen₄))
    have idle : s₅.swStepOverPending = false := by
      rw [quiet₅.session]
      rfl
    constructor
    · intro hok' _ stop' seen
      obtain ⟨⟨index, hi⟩, fewer⟩ := failed (by simpa using hok')
      obtain ⟨hlt, hp, -⟩ := hbp index hi
      have down := (cleared (by simpa using hok) index hi _ (List.getElem?_eq_getElem hlt)
        (armed _ (List.getElem_mem hlt))).2
      refine ⟨idle, .disarmed _ rfl fun hm => down ?_⟩
      have before := fewer hm
      rw [kept₄, standing_call, standing_call] at before
      have same : s.swTable[index].address = s.swStepOverAddress := by simpa using hp
      rw [same]
      exact before
    · intro _
      constructor
      · intro real _ stop' seen
        rw [taken stop' seen]
        exact ⟨idle, .real rfl real⟩
      · intro clean
        have kind := Bool.eq_false_of_not_eq_true clean
        constructor
        · intro _ _ stop' seen
          rw [taken stop' seen]
          exact ⟨idle, .clean (Or.inl rfl) kind⟩
        · intro _ _ stop' seen
          rw [taken stop' seen]
          exact ⟨idle, .clean (Or.inr rfl) kind⟩

end SidpClient
