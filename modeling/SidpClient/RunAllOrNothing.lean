import SidpClient.PatchLedger
import SidpClient.QuietPrograms
import Mathlib.Data.List.Induction

/-! RUN is all or nothing. -/
namespace SidpClient
open LittleEndian Interactive

variable {policy : Policy} {s s' : Session} {h h' : SessionHistory} {requestId : UInt32}
  {payload : List UInt8}

/-! Which patches surely stand. -/

def standingCall (ledger : List UInt64) (c : Call) (a : Answer) : List UInt64 :=
  match c with
  | .writeMem .patch address _ _ =>
    if a.code = .ok then address :: ledger else ledger.filter (· ≠ address)
  | .writeMem .restore address _ _ => ledger.filter (· ≠ address)
  | _ => ledger

def standingStep (ledger : List UInt64) : SessionEvent → List UInt64
  | ⟨.call _ c, a⟩ => standingCall ledger c a
  | ⟨.offer _, _⟩ => ledger

/-- The addresses whose last patch or restoring write was a patch, with ESP_OK. -/
def standing (h : SessionHistory) : List UInt64 := view standingStep [] h

@[simp] theorem standing_call {c : Call} {a : Answer} :
    standing (h ++ [⟨.call s c, a⟩]) = standingCall (standing h) c a := view_concat

@[simp] theorem standing_offer {f : List UInt8} {accepted : Bool} :
    standing (h ++ [⟨.offer f, accepted⟩]) = standing h := view_concat

/-- A patch that stands is in the ledger of patches. -/
theorem standing_subset_patched (h : SessionHistory) : standing h ⊆ patched h := by
  induction h using List.reverseRecOn with
  | nil => exact List.Subset.refl _
  | append_singleton h ev ih =>
    obtain ⟨e, reply⟩ := ev
    cases e with
    | offer f =>
      rw [standing_offer, patched_offer]
      exact ih
    | call s c =>
      rw [standing_call, patched_call]
      intro address hm
      cases c with
      | writeMem access place bytes width =>
        cases access with
        | patch =>
          simp only [standingCall] at hm
          split at hm
          · exact List.cons_subset_cons _ ih hm
          · exact List.mem_cons_of_mem _ (ih (List.mem_of_mem_filter hm))
        | restore =>
          obtain ⟨old, apart⟩ := List.mem_filter.mp hm
          simp only [patchedCall]
          split
          · exact List.mem_filter.mpr ⟨ih old, apart⟩
          · exact ih old
        | _ => exact ih hm
      | _ => exact ih hm

/-- From the history `h₀` on, a `resume` with no step-over pending finds every patch of the table
standing. -/
def ResumedArmed (h₀ : SessionHistory) (s : Session) (h : SessionHistory) (c : Call) : Prop :=
  h₀ <+: h → ∀ action address, c = .resume action address → s.swStepOverPending = false →
    ∀ entry ∈ s.swTable, entry.address ∈ standing h

variable {h₀ : SessionHistory}

theorem resumedArmed_of_routine {c : Call} (hc : c.routine = true) : ResumedArmed h₀ s h c := by
  rintro - action address rfl
  exact absurd hc Bool.false_ne_true

theorem resumedArmed_start (h₀ : SessionHistory) : EveryCall (ResumedArmed h₀) h₀ := by
  intro h₁ s c a h₂ he later
  have length := later.length_le
  rw [he, List.length_append, List.length_cons] at length
  omega

theorem Calm.resumedArmed (k : Calm h h') (hall : EveryCall (ResumedArmed h₀) h) :
    EveryCall (ResumedArmed h₀) h' :=
  k.everyCall (fun _ _ _ hc => resumedArmed_of_routine hc) hall

/-! The installation patches every entry. -/

/-- The patch of the entry at an index. -/
def PatchStands (table : List SwBp) (index : ℕ) (h : SessionHistory) : Prop :=
  ∀ entry, table[index]? = some entry → entry.address ∈ standing h

theorem swBpInstallOne_stands (index : ℕ) : (swBpInstallOne index).wp s h fun ok s' h' =>
    s'.swTable.map SwBp.key = s.swTable.map SwBp.key ∧
      (ok = true → standing h ⊆ standing h' ∧ PatchStands s.swTable index h') := by
  have keys := map_key_modify s.swTable index SwBp.install fun _ => rfl
  cases get : s.swTable[index]? with
  | none =>
    have get' : (s.swTable.modify index SwBp.install)[index]? = none := by
      rw [List.getElem?_modify, get]
      rfl
    simp only [swBpInstallOne, Action.wp_bind, updateTable_wp, Session.withTable_swTable,
      getSession_wp, get', Action.wp_pure]
    exact ⟨keys, fun hf => absurd hf (by decide)⟩
  | some entry =>
    have get' : (s.swTable.modify index SwBp.install)[index]? = some entry.install := by
      rw [List.getElem?_modify, get]
      simp
    simp only [swBpInstallOne, Action.wp_bind, updateTable_wp, Session.withTable_swTable,
      getSession_wp, get', backend_wp, Action.wp_pure, decide_eq_true_eq]
    intro a
    refine ⟨keys, fun ok => ?_⟩
    have stands : standing (h ++ [⟨.call (s.withTable (s.swTable.modify index SwBp.install))
        (.writeMem .patch entry.install.address bkptPatch MemWidth.default), a⟩]) =
        entry.address :: standing h := by
      rw [standing_call, standingCall, if_pos ok]
      rfl
    constructor
    · rw [stands]
      exact List.subset_cons_self _ _
    · intro e he
      obtain rfl := Option.some.inj (get.symm.trans he)
      rw [stands]
      exact List.mem_cons_self

theorem addresses_of_keys {table table' : List SwBp}
    (keys : table'.map SwBp.key = table.map SwBp.key) (index : ℕ) :
    (table'[index]?).map SwBp.address = (table[index]?).map SwBp.address := by
  have same := congrArg (fun l => (l[index]?).map fun key => key.2.1) keys
  simp only [List.getElem?_map, Option.map_map] at same
  exact same

theorem PatchStands.of_keys {table table' : List SwBp} {index : ℕ}
    (keys : table'.map SwBp.key = table.map SwBp.key) (hp : PatchStands table index h) :
    PatchStands table' index h := by
  intro entry get
  have same := addresses_of_keys keys index
  rw [get] at same
  obtain ⟨old, hold, he⟩ := Option.map_eq_some_iff.mp same.symm
  rw [← he]
  exact hp old hold

theorem swBpInstallFrom_stands (n index : ℕ) : (swBpInstallFrom index n).wp s h fun status s' h' =>
    status = .ok → s'.swTable.map SwBp.key = s.swTable.map SwBp.key ∧ standing h ⊆ standing h' ∧
      ∀ i, index ≤ i → i < index + n → PatchStands s.swTable i h' := by
  induction n generalizing s h index with
  | zero => exact fun _ => ⟨rfl, List.Subset.refl _, fun i low high => by omega⟩
  | succ n ih =>
    simp only [swBpInstallFrom, Action.wp_bind, Action.wp_ite, Action.wp_pure]
    apply Action.wp_mono (swBpInstallOne_stands index)
    intro ok s₁ evs first
    obtain ⟨keys, stands⟩ := first
    constructor
    · intro _
      apply Action.wp_mono swBpRestoreAll_quiet
      intro _ _ _ _ hf
      exact absurd hf (by decide)
    · intro hok
      obtain ⟨grows, this⟩ := stands (by simpa using hok)
      apply Action.wp_mono (ih (index + 1))
      intro status s₂ evs' rest hs
      obtain ⟨keys', grows', others⟩ := rest hs
      refine ⟨keys'.trans keys, fun _ hm => grows' (grows hm), fun i low high => ?_⟩
      by_cases hi : i = index
      · rw [hi]
        exact fun entry get => grows' (this entry get)
      · exact (others i (by omega) (by omega)).of_keys keys.symm

/-- After a complete installation every patch of the table stands. -/
theorem swBpApply_stands (entries : List BpEntry) : (swBpApply entries).wp s h fun status s' h' =>
    status = .ok → ∀ entry ∈ s'.swTable, entry.address ∈ standing h' := by
  simp only [swBpApply, Action.wp_bind, Action.wp_ite, Action.wp_pure, getSession_wp]
  apply Action.wp_mono swBpRestoreAll_quiet
  intro _ s₁ _ _
  refine ⟨fun _ hf => absurd hf (by decide), fun _ => ?_⟩
  apply Action.wp_mono (swBpRecord_quiet entries)
  intro recorded s₂ _ _
  refine ⟨fun hne ok => absurd ok hne, fun _ => ?_⟩
  apply Action.wp_mono (swBpInstallFrom_stands _ _)
  intro status s₃ evs installed ok entry hm
  obtain ⟨keys, -, stands⟩ := installed ok
  obtain ⟨i, get⟩ := List.mem_iff_getElem?.mp hm
  have hi : i < s₂.swTable.length := by
    have length := congrArg List.length keys
    simp only [List.length_map] at length
    rw [← length]
    exact (List.getElem?_eq_some_iff.mp get).1
  exact (stands i (Nat.zero_le i) (by omega)).of_keys keys entry get

theorem installRun_stands (plan : RunPlan) : (installRun plan).wp s h fun failure s' h' =>
    failure = none → ∀ entry ∈ s'.swTable, entry.address ∈ standing h' := by
  simp only [installRun, Action.wp_bind, Action.wp_ite, Action.wp_pure, backend_wp,
    updateSession_wp]
  apply Action.wp_mono (swBpApply_stands _)
  intro status s₁ _ stands
  refine ⟨fun _ hf => absurd hf (by simp), fun hok a₁ =>
    ⟨fun _ hf => absurd hf (by simp), fun _ a₂ => ⟨fun _ hf => absurd hf (by simp), fun _ a₃ =>
      ⟨fun _ hf => absurd hf (by simp), fun _ _ => ?_⟩⟩⟩⟩
  simp only [standing_call, standingCall]
  exact stands (not_not.mp hok)

/-! The internal step takes one patch away and puts it back. -/

theorem swBpRestoreFound_stands (bp : Option ℕ) :
    (swBpRestoreFound bp).wp s h fun _ s' h' => s'.swTable.map SwBp.key = s.swTable.map SwBp.key ∧
      ∀ address ∈ standing h, address ∈ standing h' ∨ ∃ index entry, bp = some index ∧
        s.swTable[index]? = some entry ∧ entry.address = address := by
  cases bp with
  | none => exact ⟨rfl, fun address hm => Or.inl hm⟩
  | some index =>
    simp only [swBpRestoreFound, swBpRestoreOne, Action.wp_bind, getSession_wp]
    cases get : s.swTable[index]? with
    | none => exact ⟨rfl, fun address hm => Or.inl hm⟩
    | some entry =>
      simp only [Action.wp_ite, Action.wp_bind, Action.wp_pure, backend_wp, updateTable_wp]
      refine ⟨fun _ => ⟨trivial, fun address hm => Or.inl hm⟩, fun _ a => ?_⟩
      have kept (address : UInt64) (hm : address ∈ standing h) :
          address ∈ standing (h ++ [⟨.call s (.writeMem .restore entry.address entry.originalBytes
            MemWidth.default), a⟩]) ∨ ∃ i e, some index = some i ∧ s.swTable[i]? = some e ∧
              e.address = address := by
        by_cases same : entry.address = address
        · exact Or.inr ⟨index, entry, rfl, get, same⟩
        · left
          rw [standing_call, standingCall]
          exact List.mem_filter.mpr ⟨hm, by simpa using Ne.symm same⟩
      exact ⟨fun _ => ⟨map_key_modify _ _ _ fun _ => rfl, kept⟩, fun _ => ⟨trivial, kept⟩⟩

theorem swBpInstallFound_stands (bp : Option ℕ) :
    (swBpInstallFound bp).wp s h fun ok s' h' => s'.swTable.map SwBp.key = s.swTable.map SwBp.key ∧
      (ok = true → standing h ⊆ standing h' ∧
        ∀ index, bp = some index → PatchStands s.swTable index h') := by
  cases bp with
  | none => exact ⟨rfl, fun _ => ⟨List.Subset.refl _, fun index hf => absurd hf (by simp)⟩⟩
  | some index =>
    apply Action.wp_mono (swBpInstallOne_stands index)
    intro ok s' evs first
    refine ⟨first.1, fun hok => ⟨(first.2 hok).1, fun i hi => ?_⟩⟩
    obtain rfl := Option.some.inj hi
    exact (first.2 hok).2

/-- Around the internal step: nothing else is resumed, and its patch is back where it goes on. -/
theorem executeStepOver_stands (action : UInt8) (every : EveryCall (ResumedArmed h₀) h)
    (stands : ∀ entry ∈ s.swTable, entry.address ∈ standing h) :
    (executeStepOver action).wp s h fun outcome s' h' => EveryCall (ResumedArmed h₀) h' ∧
      (outcome = .notNeeded ∨ (∃ stop, outcome.Completed stop) →
        ∀ entry ∈ s'.swTable, entry.address ∈ standing h') := by
  simp only [executeStepOver, Action.wp_bind, getSession_wp, Action.wp_ite, Action.wp_pure]
  refine ⟨fun _ => ⟨every, fun _ => stands⟩, fun pending => ?_⟩
  generalize swBpFindByAddress s.swTable s.swStepOverAddress = bp
  apply Action.wp_mono (Action.wp_and (swBpRestoreFound_quiet bp) (swBpRestoreFound_stands bp))
  intro ok s₁ evs₁ restored
  obtain ⟨quiet₁, keys₁, kept⟩ := restored
  generalize h ++ evs₁ = h₁ at quiet₁ kept
  have every₁ := quiet₁.history.calm.resumedArmed every
  refine ⟨fun _ => ⟨every₁, fun hf => absurd hf (by simp [StepOver.Completed])⟩, fun _ => ?_⟩
  simp only [writeCurrentPc, Action.wp_bind, backend_wp, Action.wp_pure]
  intro a
  have every₂ : EveryCall (ResumedArmed h₀) (h₁ ++ [⟨.call s₁
      (.writeRegs (pcEntryBytes s.swStepOverAddress.toUInt32)), a⟩]) :=
    every₁.call (resumedArmed_of_routine rfl)
  constructor
  · intro _
    apply Action.wp_mono (swBpInstallFound_quiet bp)
    intro _ s₃ _ quiet₃
    exact ⟨quiet₃.history.calm.resumedArmed every₂, fun hf =>
      absurd hf (by simp [StepOver.Completed])⟩
  intro _ step
  have pending₁ : s₁.swStepOverPending = true := by
    rw [quiet₁.session]
    exact Bool.eq_false_or_eq_true s.swStepOverPending |>.resolve_right (by simpa using pending)
  have every₃ := every₂.call (a := step) (c := .resume RunAction.singleStep 0) (s := s₁)
    fun _ _ _ _ hn => absurd (pending₁.symm.trans hn) (by decide)
  refine ⟨fun _ => ⟨every₃, fun hf => absurd hf (by simp [StepOver.Completed])⟩, fun _ => ?_⟩
  apply Action.wp_mono (pollStepHalted_polled 100)
  intro r s₄ evs₄ polled
  obtain ⟨polled, rfl⟩ := polled
  have every₄ := polled.quiet.calm.resumedArmed every₃
  have kept₄ := polled.view (f := standing) fun _ _ => standing_call
  cases r with
  | error reason => exact ⟨every₄, fun hf => absurd hf (by simp [StepOver.Completed])⟩
  | ok stop =>
    simp only [Action.wp_bind, updateSession_wp, Action.wp_ite, Action.wp_pure]
    apply Action.wp_mono (Action.wp_and (swBpInstallFound_quiet bp) (swBpInstallFound_stands bp))
    intro ok' s₅ evs₅ installed
    obtain ⟨quiet₅, keys₅, armed⟩ := installed
    generalize _ ++ evs₅ = h₅ at quiet₅ armed ⊢
    have every₅ := quiet₅.history.calm.resumedArmed every₄
    refine ⟨fun _ => ⟨every₅, fun hf => absurd hf (by simp [StepOver.Completed])⟩, fun hok => ?_⟩
    obtain ⟨grows, back⟩ := armed (by simpa using hok)
    have keys : s₅.swTable.map SwBp.key = s.swTable.map SwBp.key := keys₅.trans keys₁
    have again : ∀ entry ∈ s₅.swTable, entry.address ∈ standing h₅ := by
      intro entry hm
      obtain ⟨i, get⟩ := List.mem_iff_getElem?.mp hm
      have old : PatchStands s₅.swTable i h :=
        PatchStands.of_keys keys fun e he => stands e (List.mem_of_getElem? he)
      rcases kept entry.address (old entry get) with stays | ⟨index, e, hi, he, same⟩
      · apply grows
        rw [kept₄, standing_call, standing_call]
        exact stays
      · -- the entry under the step, or one at the same address
        rw [← same]
        exact (back index hi).of_keys keys₁.symm e he
    exact ⟨fun _ => ⟨every₅, fun _ => again⟩, fun _ => ⟨fun _ => ⟨every₅, fun _ => again⟩,
      fun _ => ⟨every₅, fun _ => again⟩⟩⟩

theorem resumeRun_stands (req : RunRequest) (every : EveryCall (ResumedArmed h₀) h)
    (stands : ∀ entry ∈ s.swTable, entry.address ∈ standing h) :
    (resumeRun requestId req).wp s h fun _ _ h' => EveryCall (ResumedArmed h₀) h' := by
  simp only [resumeRun, Action.wp_bind, backend_wp, Action.wp_ite, Action.wp_pure, updateSession_wp]
  intro a
  have every₁ := every.call (a := a) (c := .resume req.action req.runToAddress) (s := s)
    fun _ _ _ _ _ => stands
  constructor
  · intro _
    apply Action.wp_mono (respond_calm _ _ _)
    intro _ _ _ answered
    apply Action.wp_mono (enterLost_calm _)
    intro _ _ _ lost
    exact (answered.trans lost).resumedArmed every₁
  · intro _
    apply Action.wp_mono (respond_calm _ _ _)
    intro _ _ _ answered
    apply Action.wp_mono pollStop_calm
    intro _ _ _ polled
    exact (answered.trans polled).resumedArmed every₁

/-- The user's `resume` of a RUN finds every patch standing. -/
theorem opRun_stands (requestId : UInt32) (payload : List UInt8) :
    (opRun requestId payload).wp s h fun _ _ h' => EveryCall (ResumedArmed h) h' := by
  have start := resumedArmed_start h
  simp only [opRun, Action.wp_bind, getSession_wp]
  cases checkRun s payload with
  | error status =>
    apply Action.wp_mono (respond_calm _ _ _)
    intro _ _ _ answered
    exact answered.resumedArmed start
  | ok plan =>
    simp only [Action.wp_bind]
    apply Action.wp_mono (Action.wp_and (installRun_quiet plan) (installRun_stands plan))
    intro failure s₁ evs₁ installed
    obtain ⟨⟨quiet₁, -⟩, stands₁⟩ := installed
    generalize h ++ evs₁ = h₁ at quiet₁ stands₁ ⊢
    have every₁ := quiet₁.calm.resumedArmed start
    cases failure with
    | some status =>
      apply Action.wp_mono (failRun_calm _ _)
      intro _ _ _ failed
      exact failed.resumedArmed every₁
    | none =>
      simp only [Action.wp_bind]
      apply Action.wp_mono (executeStepOver_stands plan.request.action every₁ (stands₁ rfl))
      intro outcome s₂ evs₂ stepped
      obtain ⟨every₂, stands₂⟩ := stepped
      generalize h₁ ++ evs₂ = h₂ at every₂ stands₂ ⊢
      cases outcome with
      | notNeeded => exact resumeRun_stands _ every₂ (stands₂ (Or.inl rfl))
      | stepped => exact resumeRun_stands _ every₂ (stands₂ (Or.inr ⟨{}, Or.inr (Or.inr rfl)⟩))
      | stoppedStep stop =>
        apply Action.wp_mono (reportStep_calm _ _ _)
        intro _ _ _ reported
        exact reported.resumedArmed every₂
      | stoppedReal stop =>
        apply Action.wp_mono (reportStep_calm _ _ _)
        intro _ _ _ reported
        exact reported.resumedArmed every₂
      | failed =>
        simp only [Action.wp_bind, Action.wp_ite]
        apply Action.wp_mono rollbackRunConfig_quiet
        intro _ _ _ rolled
        constructor
        · intro _
          apply Action.wp_mono (respond_calm _ _ _)
          intro _ _ _ answered
          exact (rolled.1.calm.trans answered).resumedArmed every₂
        · intro _
          apply Action.wp_mono (respond_calm _ _ _)
          intro _ _ _ answered
          apply Action.wp_mono (enterLost_calm _)
          intro _ _ _ lost
          exact ((rolled.1.calm.trans answered).trans lost).resumedArmed every₂
      | failedLost reason =>
        simp only [Action.wp_bind]
        apply Action.wp_mono (respond_calm _ _ _)
        intro _ _ _ answered
        apply Action.wp_mono (enterLost_calm _)
        intro _ _ _ lost
        exact (answered.trans lost).resumedArmed every₂

/-! How a RUN ends. -/

/-- The request was answered, and not with STATUS_OK. -/
def Refused (opcode : UInt16) (requestId : UInt32) (fs : List (List UInt8)) : Prop :=
  ∃ status, status ≠ .ok ∧ AnsweredWith opcode requestId status fs

inductive RunEnd where
  | invalid | rolledBack | lost | accepted
deriving DecidableEq, Repr

/-- What each end means for the session, its calls and its answer. -/
def RunEnd.Holds (ending : RunEnd) (s : Session) (h : SessionHistory) (requestId : UInt32)
    (s' : Session) (h' : SessionHistory) (fs : List (List UInt8)) : Prop :=
  match ending with
  | .invalid => Refused Opcode.run requestId fs ∧ calls h' = calls h ∧
      ∃ b n dead, s' = s.framed b n dead
  | .rolledBack => Refused Opcode.run requestId fs ∧ (calls h).length < (calls h').length ∧
      s'.state = .halted ∧ s'.stopId = s.stopId ∧ s'.swStepOverPending = s.swStepOverPending ∧
      s'.swStepOverAddress = s.swStepOverAddress ∧ s'.swTable = [] ∧ patched h' = [] ∧
      runConfig h' = clearedConfig
  | .lost => Refused Opcode.run requestId fs ∧ s'.state = .lost
  | .accepted => AnsweredWith Opcode.run requestId .ok fs

theorem Refused.not_accepted {opcode : UInt16} {fs : List (List UInt8)}
    (hr : Refused opcode requestId fs) : ¬AnsweredWith opcode requestId .ok fs := by
  obtain ⟨status, error, f, events, rfl, hf, -⟩ := hr
  rintro ⟨f', events', he, hf', -⟩
  obtain ⟨rfl, -⟩ := List.cons.inj he
  exact error (Status.value_injective (hf.status.symm.trans hf'.status))

/-- No two ends hold of one RUN. -/
theorem RunEnd.unique {ending ending' : RunEnd} {fs : List (List UInt8)}
    (halted : s.state = .halted) (he : ending.Holds s h requestId s' h' fs)
    (he' : ending'.Holds s h requestId s' h' fs) :
    ending = ending' := by
  have grew : ¬(calls h' = calls h ∧ (calls h).length < (calls h').length) := by
    rintro ⟨same, more⟩
    rw [same] at more
    exact lt_irrefl _ more
  have stays : ¬((∃ b n dead, s' = s.framed b n dead) ∧ s'.state = .lost) := by
    rintro ⟨⟨b, n, dead, rfl⟩, lost⟩
    exact absurd (halted.symm.trans lost) (by decide)
  have halts : ¬(s'.state = .halted ∧ s'.state = .lost) := by
    rintro ⟨still, lost⟩
    exact absurd (still.symm.trans lost) (by decide)
  cases ending with
  | invalid =>
    cases ending' with
    | invalid => rfl
    | rolledBack => exact absurd ⟨he.2.1, he'.2.1⟩ grew
    | lost => exact absurd ⟨he.2.2, he'.2⟩ stays
    | accepted => exact absurd he' he.1.not_accepted
  | rolledBack =>
    cases ending' with
    | invalid => exact absurd ⟨he'.2.1, he.2.1⟩ grew
    | rolledBack => rfl
    | lost => exact absurd ⟨he.2.2.1, he'.2⟩ halts
    | accepted => exact absurd he' he.1.not_accepted
  | lost =>
    cases ending' with
    | invalid => exact absurd ⟨he'.2.2, he.2⟩ stays
    | rolledBack => exact absurd ⟨he'.2.2.1, he.2⟩ halts
    | lost => rfl
    | accepted => exact absurd he' he.1.not_accepted
  | accepted =>
    cases ending' with
    | invalid => exact absurd he he'.1.not_accepted
    | rolledBack => exact absurd he he'.1.not_accepted
    | lost => exact absurd he he'.1.not_accepted
    | accepted => rfl

theorem RunOutcome.ending {fs : List (List UInt8)} (ho : RunOutcome s h requestId s' h' fs)
    (shadowed : Shadowed s' h') : ∃ ending : RunEnd, ending.Holds s h requestId s' h' fs := by
  cases ho with
  | refused status error answered quiet same =>
    exact ⟨.invalid, ⟨status, error, answered⟩, quiet, same⟩
  | rolledBack status error answered called state stopId pending address clean cleared =>
    exact ⟨.rolledBack, ⟨status, error, answered⟩, called, state, stopId, pending, address, clean,
      shadowed.patched_nil clean, cleared⟩
  | lost status error answered state => exact ⟨.lost, ⟨status, error, answered⟩, state⟩
  | accepted answered => exact ⟨.accepted, answered⟩

/-- The target is configured as a RUN asks for: its patches stand and no others may, and the last
comparators, watchpoints and vector catch set are its own. -/
structure Configured (plan : RunPlan) (h : SessionHistory) : Prop where
  stand : ∀ address, address ∈ standing h ↔ ∃ entry ∈ plan.swEntries, entry.address = address
  may : ∀ address, address ∈ patched h ↔ ∃ entry ∈ plan.swEntries, entry.address = address
  config : runConfig h = ⟨some plan.hwEntries, some plan.wpEntries,
    some plan.request.vectorCatchMask⟩

theorem InPlace.configured {plan : RunPlan} (hp : InPlace plan s h) (shadowed : Shadowed s h)
    (stands : ∀ entry ∈ s.swTable, entry.address ∈ standing h) : Configured plan h := by
  obtain ⟨keys, -, config⟩ := hp
  have requested (address : UInt64) : (∃ entry ∈ s.swTable, entry.address = address) ↔
      ∃ entry ∈ plan.swEntries, entry.address = address := by
    have same : s.swTable.map SwBp.address = plan.swEntries.map BpEntry.address := by
      have second := congrArg (List.map fun key => key.2.1) keys
      simp only [List.map_map] at second
      exact second
    rw [← List.mem_map, ← List.mem_map, same]
  have upper (address : UInt64) (hm : address ∈ patched h) :
      ∃ entry ∈ plan.swEntries, entry.address = address := by
    obtain ⟨entry, he, -, same⟩ := shadowed.held address hm
    exact (requested address).mp ⟨entry, he, same⟩
  have lower (address : UInt64) (hm : ∃ entry ∈ plan.swEntries, entry.address = address) :
      address ∈ standing h := by
    obtain ⟨entry, he, rfl⟩ := (requested address).mpr hm
    exact stands entry he
  exact ⟨fun address => ⟨fun hm => upper address (standing_subset_patched h hm), lower address⟩,
    fun address => ⟨upper address, fun hm => standing_subset_patched h (lower address hm)⟩, config⟩

/-- The user's `resume`, the one with no step-over pending, is the requested one on a configured
target. -/
def ResumesAsRequested (s : Session) (payload : List UInt8) (h evs : SessionHistory) : Prop :=
  ∀ h₁ s₁ action address a h₂, evs = h₁ ++ ⟨.call s₁ (.resume action address), a⟩ :: h₂ →
    s₁.swStepOverPending = false → ∃ plan, checkRun s payload = .ok plan ∧
      plan.request.action = action ∧ plan.request.runToAddress = address ∧ Configured plan (h ++ h₁)

/-- For every halted session a run reaches and every RUN request: over a live transport it ends in
exactly one of four ways, and the user's `resume` only meets a target configured as requested. Over
a dead one it is dropped. -/
theorem run_all_or_nothing {T : Type} (env : SessionEnvironment T) (t₀ : T) (inputs : List Input)
    (message : List UInt8)
    (halted : (playSession env (freshWorld t₀) inputs).state.state = .halted)
    (valid : ValidRequest message)
    (op : requestOp (MsgHeader.parse message).opcode = some .run) :
    let w := playSession env (freshWorld t₀) inputs
    let r := w.perform env (handleRequest message)
    (w.state.transportDead = false →
      (∃! ending : RunEnd, ending.Holds w.state w.history (MsgHeader.parse message).requestId
        r.2.1.state r.2.1.history (offered r.2.2)) ∧
      ResumesAsRequested w.state (message.drop headerSize) w.history r.2.2) ∧
    (w.state.transportDead = true → r.2.1.state = w.state ∧ r.2.1.history = w.history) := by
  intro w r
  refine ⟨fun alive => ?_, fun dead => World.perform_wp (handleRequest_dropped dead)⟩
  obtain ⟨shadowed, ready⟩ := run_invariant (P := Shadowed) env t₀ inputs shadowed_fresh
    fun _ _ _ _ _ hm hs => hs.step hm
  have handled : Handled (requestPolicy (w.state, w.history) (some .run) (message.drop headerSize))
        (w.state, w.history) (RunOutcome w.state w.history (MsgHeader.parse message).requestId)
        r.2.1.state r.2.1.history ∧ EveryCall (ResumedArmed w.history) r.2.1.history := by
    apply World.perform_wp (m := handleRequest message) (w := w)
      (Q := fun _ s' h' => Handled (requestPolicy (w.state, w.history) (some .run)
        (message.drop headerSize)) (w.state, w.history)
        (RunOutcome w.state w.history (MsgHeader.parse message).requestId) s' h' ∧
          EveryCall (ResumedArmed w.history) h')
    apply handleRequest_op op
    · intro ignored
      rcases ignored with dead | invalid
      · exact absurd (alive.symm.trans dead) (by decide)
      · exact absurd valid invalid
    · intro status _ _ _ gate
      rw [show w.state.state = .halted from halted] at gate
      exact absurd gate (by simp [gateTable, gateColumn, GateType.refusal])
    · intro _ _ _
      apply Action.wp_and _ (opRun_stands _ _)
      exact opRun_handled ready halted alive fun plan hcheck s₁ h₁ inPlace =>
        ⟨rfl, plan, hcheck, rfl, rfl, inPlace⟩
  obtain ⟨⟨fs, trace, -, outcome⟩, armed⟩ := handled
  have frames : fs = offered r.2.2 := by
    have whole := trace.frames
    rw [World.perform_history, offered_append] at whole
    exact (List.append_cancel_left whole).symm
  subst frames
  -- every call of the handler was issued on a table that holds all patches
  have issued := trace.moves.invariant (P := fun s h => Shadowed s h ∧ EveryCall (fun s₁ h₁ c =>
      w.history <+: h₁ → Shadowed s₁ h₁ ∧ ∀ action address, c = .resume action address →
        s₁.swStepOverPending = true ∨ (requestPolicy (w.state, w.history) (some .run)
          (message.drop headerSize)).resume action address s₁ h₁) h)
    (fun s h s' h' move hp => ⟨hp.1.step move, move.everyCall hp.2 fun s₁ c hi issued _ =>
      ⟨hp.1.issues hi, issued.planned⟩⟩)
    ⟨shadowed, fun h₁ s c a h₂ he later => by
      have length := later.length_le
      rw [he, List.length_append, List.length_cons] at length
      omega⟩
  obtain ⟨shadowed', every⟩ := issued
  constructor
  · obtain ⟨ending, holds⟩ := outcome.ending shadowed'
    exact ⟨ending, holds, fun other holds' => RunEnd.unique halted holds' holds⟩
  · intro h₁ s₁ action address a h₂ he pending
    -- the resume the claim asks about is one of those calls
    have split : r.2.1.history = (w.history ++ h₁) ++ ⟨.call s₁ (.resume action address), a⟩ ::
        h₂ := by
      rw [World.perform_history, List.append_assoc]
      exact congrArg (w.history ++ ·) he
    have later : w.history <+: w.history ++ h₁ := List.prefix_append _ _
    obtain ⟨shadowed₁, planned⟩ := every _ _ _ _ _ split later
    have stands := armed _ _ _ _ _ split later action address rfl pending
    rcases planned action address rfl with internal | ⟨-, plan, hcheck, haction, haddress, inPlace⟩
    · exact absurd (pending.symm.trans internal) (by decide)
    · exact ⟨plan, hcheck, haction, haddress, inPlace.configured shadowed₁ stands⟩

/-! A client attaches to a target that halts, and sends a first RUN. -/

def attachedRun : List Input := [.request (requestMessage .attach 1 [0, 0, 0, 0, 0, 1, 0, 0])]

/-- The backend halts the target, but cannot set comparators. -/
def attachedAnswers : List Answer :=
  [{ info := debugTarget }, { stop := { halted := true } }, { data := [0x11, 0x22] }, {},
    { code := .fail }]

def attachedWorld : SessionWorld (List Answer) :=
  playSession scripted (freshWorld attachedAnswers) attachedRun

def firstRun : List UInt8 :=
  runMessage 2 1 RunAction.continueRun 0 [softwareBreakpoint 1 0x20000100]

theorem run_rolled_back :
    let r := attachedWorld.perform scripted (handleRequest firstRun)
    (∃! ending : RunEnd, ending.Holds attachedWorld.state attachedWorld.history
      (MsgHeader.parse firstRun).requestId r.2.1.state r.2.1.history (offered r.2.2)) ∧
    ResumesAsRequested attachedWorld.state (firstRun.drop headerSize) attachedWorld.history
      r.2.2 := by
  have valid : ValidRequest firstRun := ⟨by decide, by decide, by decide, by decide⟩
  have alive : attachedWorld.state.transportDead = false := by decide +kernel
  unfold attachedWorld at alive ⊢
  exact (run_all_or_nothing scripted attachedAnswers attachedRun firstRun (by decide +kernel) valid
    (by decide)).1 alive

end SidpClient
