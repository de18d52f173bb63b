import SidpClient.HitNames

/-! A RUN over a hit: its internal step is taken at most once, over the original instruction, and
when the hit is still pending after it. -/
namespace SidpClient
open LittleEndian Interactive

variable {s s' : Session} {h h' evs : SessionHistory} {A : UInt64} {requestId : UInt32}
  {payload : List UInt8} {stop : StopDetect} {entries : List BpEntry}

/-! The stop behind the step. -/

/-- The stop reads as a hit of the breakpoint that was stepped over. -/
structure Rehit (entries : List BpEntry) (A : UInt64) (stop : StopDetect) :
    Prop extends Uncaught stop where
  comparator : stop.comparatorMatch = false
  bkpt : stop.dfsr &&& Dfsr.bkpt ≠ 0
  there : ∃ e ∈ entries, e.address = A
  place : stop.pc.toUInt64 = A + 2 ∨ (stop.pc.toUInt64 = A ∧ ∀ e ∈ entries, e.address + 2 ≠ A)

theorem classifyStop_rehits (hs : Shadowed s h) (spaced : Spaced s.swTable)
    (armed : ∀ entry ∈ s.swTable, entry.installed = true)
    (keys : s.swTable.map SwBp.key = entries.map BpEntry.key) :
    (classifyStop s stop).stepOver = some A ↔ Rehit entries A stop := by
  have there := mem_addresses_of_keys keys A
  have ahead : (∀ other ∈ s.swTable, other.address + 2 ≠ A) ↔ ∀ e ∈ entries, e.address + 2 ≠ A := by
    constructor
    · intro apart e he behind
      obtain ⟨entry, hm, same⟩ := (mem_addresses_of_keys keys e.address).mpr ⟨e, he, rfl⟩
      exact apart entry hm (by rw [same, behind])
    · intro apart entry hm behind
      obtain ⟨e, he, same⟩ := (mem_addresses_of_keys keys entry.address).mp ⟨entry, hm, rfl⟩
      exact apart e he (by rw [same, behind])
  rw [classifyStop_stepOver]
  constructor
  · intro asked
    split at asked
    · rename_i uncaught
      obtain ⟨entry, found, rfl⟩ := Option.map_eq_some_iff.mp asked
      rw [softwareHit] at found
      split at found
      · rename_i bkpt
        have conditions : stop.comparatorMatch = false ∧ stop.dfsr &&& Dfsr.bkpt ≠ 0 := by
          simpa using bkpt
        obtain ⟨hm, place⟩ := (swBpFindByHaltPc_iff hs spaced armed).mp found
        refine ⟨⟨uncaught.1, uncaught.2.1,
          uncaught.2.2⟩, by simpa using conditions.1, conditions.2, there.mp ⟨entry, hm, rfl⟩, ?_⟩
        rcases place with behind | ⟨on, apart⟩
        · exact Or.inl behind.symm
        · right
          rw [← on] at apart
          exact ⟨on.symm, ahead.mp apart⟩
      · exact absurd found (by simp)
    · exact absurd asked (by simp)
  · intro hit
    obtain ⟨entry, hm, same⟩ := there.mpr hit.there
    have found : softwareHit s.swTable stop = some entry := by
      rw [softwareHit, if_pos (by simp [hit.comparator, hit.bkpt])]
      apply (swBpFindByHaltPc_iff hs spaced armed).mpr
      refine ⟨hm, ?_⟩
      rcases hit.place with behind | ⟨on, apart⟩
      · exact Or.inl (by rw [same, behind])
      · right
        rw [on]
        exact ⟨same, ahead.mpr apart⟩
    rw [if_pos ⟨hit.lockup, hit.watchpoint, hit.trap⟩, found, Option.map_some, same]

/-! What the report of the step leaves. -/

/-- Neither what was seen of the step nor the patches that stand are affected. -/
def Tells (h h' : SessionHistory) : Prop := stepSeen h' = stepSeen h ∧ standing h' = standing h

theorem Tells.trans {h'' : SessionHistory} (ht : Tells h h') (ht' : Tells h' h'') : Tells h h'' :=
  ⟨ht'.1.trans ht.1, ht'.2.trans ht.2⟩

theorem Offered.tells {P : List UInt8 → Prop} {dead : Bool} (ho : Offered s P dead evs) :
    Tells h (h ++ evs) := by
  rcases ho with ⟨-, -, rfl⟩ | ⟨-, f, accepted, -, -, rfl⟩
  · rw [List.append_nil]
    exact ⟨rfl, rfl⟩
  · exact ⟨stepSeen_offer, standing_offer⟩

theorem SnapshotTaken.tells (taken : SnapshotTaken s s' evs) : Tells h (h ++ evs) := by
  refine ⟨taken.stepSeen, ?_⟩
  cases taken with
  | none => rw [List.append_nil]
  | unread | registers => exact standing_call
  | stack =>
    rw [List.append_cons]
    exact standing_call.trans standing_call

/-- The session holds what the stop was classified as. -/
structure Recalls (s : Session) (stop : StopDetect) (s' : Session) : Prop where
  pending : s'.swStepOverPending = (classifyStop s stop).stepOver.isSome
  address : s'.swStepOverAddress = (classifyStop s stop).stepOver.getD 0
  state : s'.state = .halted ∨ s'.state = .lost

theorem Recalls.pending_at_iff (hr : Recalls s stop s') :
    (s'.swStepOverPending = true ∧ s'.swStepOverAddress = A) ↔
    (classifyStop s stop).stepOver = some A := by
  rw [hr.pending, hr.address]
  cases (classifyStop s stop).stepOver with
  | none => simp
  | some place => simp

theorem enterHalted_recalls (stop : StopDetect) (live : s.state ≠ .lost) :
    (enterHalted stop).wp s h fun _ s' h' =>
      Recalls s stop s' ∧ Tells h h' ∧ (s'.state = .halted → SnapshotFits s') := by
  apply enterHalted_wp
  · exact fun lost => absurd lost live
  · intro _ _ b dead evs sent
    exact ⟨⟨rfl, rfl, Or.inr rfl⟩, sent.tells, fun hf => absurd hf (by simp [Session.framed])⟩
  · intro _ _ s₁ evs taken
    refine ⟨?_, taken.tells, fun _ => taken.fits ⟨rfl, rfl⟩⟩
    rw [taken.frame]
    exact ⟨rfl, rfl, Or.inl rfl⟩

theorem Recalls.emit {s₁ : Session} (hr : Recalls s stop s₁)
    (fits : s₁.state = .halted → SnapshotFits s₁) :
    emitPendingStopped.wp s₁ h fun _ s' h' => Recalls s stop s' ∧ Tells h h' := by
  simp only [emitPendingStopped, Action.wp_bind, getSession_wp, Action.wp_ite, Action.wp_pure]
  refine ⟨fun _ => ⟨hr, rfl, rfl⟩, fun unreported => ?_⟩
  have halted : s₁.state = .halted := not_not.mp (not_or.mp unreported).2
  apply sendStopped_wp (fits halted)
  intro b n dead evs sent
  exact ⟨⟨hr.pending, hr.address, hr.state⟩, sent.tells⟩

theorem reportStep_recalls (stop : StopDetect) (userStep : Bool) (live : s.state ≠ .lost) :
    (reportStep requestId stop userStep).wp s h fun _ s' h' => Recalls s stop s' ∧ Tells h h' := by
  simp only [reportStep, Action.wp_bind, Action.wp_ite, updateSession_wp]
  apply respond_wp
  intro b dead evs answered
  have told := answered.tells (h := h)
  apply Action.wp_mono (enterHalted_recalls (s := s.framed b 16 dead) stop live)
  intro _ s₁ _ entered
  obtain ⟨recalls, tells, fits⟩ := entered
  have told₁ := told.trans tells
  have recalls₁ : Recalls s stop s₁ := ⟨recalls.pending, recalls.address, recalls.state⟩
  constructor
  · intro _
    have named : Recalls s stop { s₁ with pendingReason := .singleStep } :=
      ⟨recalls.pending, recalls.address, recalls.state⟩
    apply Action.wp_mono (named.emit fits)
    intro _ _ _ emitted
    exact ⟨emitted.1, told₁.trans emitted.2⟩
  · intro _
    apply Action.wp_mono (recalls₁.emit fits)
    intro _ _ _ emitted
    exact ⟨emitted.1, told₁.trans emitted.2⟩

theorem respond_tells (status : Status) :
    (respond Opcode.run requestId status).wp s h fun _ s' h' => Tells h h' ∧ ∃ b dead,
    s' = s.framed b 16 dead := by
  apply respond_wp
  intro b dead evs sent
  exact ⟨sent.tells, b, dead, rfl⟩

theorem enterLost_tells (reason : TargetLostReason) : (enterLost reason).wp s h fun _ s' h' =>
    s'.swStepOverPending = s.swStepOverPending ∧ s'.swStepOverAddress = s.swStepOverAddress ∧
      s'.state = .lost ∧ Tells h h' := by
  apply enterLost_wp
  · exact fun lost => ⟨rfl, rfl, lost, rfl, rfl⟩
  · exact fun _ _ _ _ sent => ⟨rfl, rfl, rfl, sent.tells⟩

/-- The report of the step reads its stop against the table with the patch back in it. -/
theorem reportStep_confirms (userStep : Bool) (live : s.state ≠ .lost) (shadowed : Shadowed s h)
    (spaced : Spaced s.swTable) (armed : ∀ entry ∈ s.swTable, entry.installed = true)
    (keys : s.swTable.map SwBp.key = entries.map BpEntry.key)
    (stand : ∀ entry ∈ s.swTable, entry.address ∈ standing h) :
    (reportStep requestId stop userStep).wp s h fun _ s' h' =>
      Calm h h' ∧ stepSeen h' = stepSeen h ∧ (s'.state = .halted ∨ s'.state = .lost) ∧
        ((s'.swStepOverPending = true ∧ s'.swStepOverAddress = A) ↔
          Rehit entries A stop ∧ A ∈ standing h') := by
  apply Action.wp_mono (Action.wp_and (reportStep_calm _ _ _)
    (reportStep_recalls stop userStep live))
  intro _ s' _ told
  obtain ⟨calm, recalls, tells⟩ := told
  refine ⟨calm, tells.1, recalls.state, ?_⟩
  rw [recalls.pending_at_iff, classifyStop_rehits shadowed spaced armed keys, tells.2]
  constructor
  · intro hit
    refine ⟨hit, ?_⟩
    obtain ⟨entry, hm, there⟩ := (mem_addresses_of_keys keys A).mpr hit.there
    rw [← there]
    exact stand entry hm
  · intro hit
    exact hit.1

/-! A whole RUN. -/

/-- Nothing since a history is answered with STATUS_OK. -/
def Unanswered (h h' : SessionHistory) : Prop := ∃ evs, h' = h ++ evs ∧ Declines evs

theorem Unanswered.trans {h'' : SessionHistory} (hu : Unanswered h h') (hu' : Unanswered h' h'') :
    Unanswered h h'' := by
  obtain ⟨evs, rfl, declines⟩ := hu
  obtain ⟨evs', rfl, declines'⟩ := hu'
  exact ⟨evs ++ evs', List.append_assoc _ _ _, declines.append declines'⟩

theorem QuietHistory.unanswered (q : QuietHistory h h') : Unanswered h h' := by
  have same := q.offered
  obtain ⟨evs, rfl, -⟩ := q
  exact ⟨evs, rfl, declines_of_silent same⟩

/-- The internal step was not issued: the step-over is still pending, and the RUN not accepted. -/
structure Withheld (s : Session) (h : SessionHistory) (s' : Session) (h' : SessionHistory) :
    Prop where
  calm : Calm h h'
  unanswered : Unanswered h h'
  pending : s'.swStepOverPending = s.swStepOverPending
  address : s'.swStepOverAddress = s.swStepOverAddress

theorem Withheld.refl (s : Session) (h : SessionHistory) : Withheld s h s h := by
  refine ⟨Calm.refl h, ⟨[], (List.append_nil h).symm, ?_⟩, rfl, rfl⟩
  intro f offered
  exact absurd offered List.not_mem_nil

theorem QuietHistory.withheld (q : QuietHistory h h')
    (pending : s'.swStepOverPending = s.swStepOverPending)
    (address : s'.swStepOverAddress = s.swStepOverAddress) : Withheld s h s' h' :=
  ⟨q.calm, q.unanswered, pending, address⟩

section
variable {s₁ : Session} {h₁ : SessionHistory}

theorem Withheld.respond {opcode : UInt16} (status : Status) (hw : Withheld s h s₁ h₁)
    (error : status ≠ .ok) :
    (respond opcode requestId status).wp s₁ h₁ fun _ s' h' => Withheld s h s' h' := by
  apply Action.wp_mono (Action.wp_and (respond_calm opcode requestId status)
    (respond_declines (Q := fun _ s' h' => Unanswered h₁ h' ∧ ∃ b dead,
      s' = s₁.framed b 16 dead) error
      fun b dead evs declines => ⟨⟨evs, rfl, declines⟩, b, dead, rfl⟩))
  intro _ s' _ answered
  obtain ⟨calm, declined, b, dead, rfl⟩ := answered
  exact ⟨hw.calm.trans calm, hw.unanswered.trans declined, hw.pending, hw.address⟩

theorem Withheld.lose (hw : Withheld s h s₁ h₁) (reason : TargetLostReason) :
    (enterLost reason).wp s₁ h₁ fun _ s' h' => Withheld s h s' h' := by
  apply Action.wp_mono (Action.wp_and (Action.wp_and (enterLost_calm reason)
    (enterLost_tells reason))
    (enterLost_declines (Q := fun _ _ h' => Unanswered h₁ h') fun _ evs declines =>
      ⟨evs, rfl, declines⟩))
  intro _ _ _ lost
  obtain ⟨⟨calm, pending, address, -, -⟩, declined⟩ := lost
  exact ⟨hw.calm.trans calm, hw.unanswered.trans declined, pending.trans hw.pending,
    address.trans hw.address⟩

theorem Withheld.rollback (hw : Withheld s h s₁ h₁) :
    rollbackRunConfig.wp s₁ h₁ fun _ s' h' => Withheld s h s' h' := by
  apply Action.wp_mono rollbackRunConfig_quiet
  intro _ s' _ rolled
  obtain ⟨quiet, same⟩ := rolled
  refine ⟨hw.calm.trans quiet.calm, hw.unanswered.trans quiet.unanswered, ?_, ?_⟩
  · rw [same]
    exact hw.pending
  · rw [same]
    exact hw.address

end

/-- The step-over that is pending is that of a halt seen behind the `n`-th resume. -/
def AskedBehind (n : ℕ) (s' : Session) (h' : SessionHistory) : Prop :=
  ∃ h₁ s₁ a h₂, h' = h₁ ++ ⟨.call s₁ .pollHalted, a⟩ :: h₂ ∧ n ≤ resumeCount h₁ ∧ a.code = .ok ∧
    a.stop.halted = true ∧ (classifyStop s₁ a.stop).stepOver = some s'.swStepOverAddress

/-- What a RUN with a step-over pending at `A` does about it. -/
structure RunSteps (entries : List BpEntry) (A : UInt64) (s : Session) (h : SessionHistory)
    (s' : Session) (h' : SessionHistory) : Prop where
  once : stepCount h' ≤ stepCount h + 1
  withheld : stepCount h' = stepCount h → Withheld s h s' h'
  confirmed : stepCount h' = stepCount h + 1 → ∀ stop, stepSeen h' = some stop →
    (s'.state = .halted ∨ s'.state = .lost) ∧
      ((s'.swStepOverPending = true ∧ s'.swStepOverAddress = A) ↔
        Rehit entries A stop ∧ A ∈ standing h')
  resumed : resumeCount h + 1 < resumeCount h' → s'.swStepOverPending = true →
    AskedBehind (resumeCount h + 2) s' h'

/-- The RUN that issued no internal step. -/
theorem Withheld.runSteps (hw : Withheld s h s' h') :
    EveryCall (StepIssue A entries h) h' ∧ RunSteps entries A s h s' h' := by
  have same := hw.calm.stepCount
  have resumes := hw.calm.resumeCount
  refine ⟨hw.calm.stepIssue (stepIssue_start _ _ _), ?_⟩
  constructor
  · omega
  · intro _
    exact hw
  · intro more
    omega
  · intro more
    omega

/-- The RUN that issued one and resumed no further. -/
theorem SteppedSince.runSteps (since : SteppedSince h h')
    (confirmed : ∀ stop, stepSeen h' = some stop → (s'.state = .halted ∨ s'.state = .lost) ∧
      ((s'.swStepOverPending = true ∧ s'.swStepOverAddress = A) ↔
        Rehit entries A stop ∧ A ∈ standing h')) : RunSteps entries A s h s' h' := by
  have steps := since.steps
  have resumes := since.resumes
  constructor
  · omega
  · intro same
    omega
  · intro _
    exact confirmed
  · intro more
    omega

/-- A poll with no step-over pending sees no internal step, and what it leaves pending it saw. -/
theorem pollStop_unseen (idle : s.swStepOverPending = false) (live : s.state ≠ .lost)
    (unseen : stepSeen h = none) :
    pollStop.wp s h fun _ s' h' => stepSeen h' = none ∧
      (s'.swStepOverPending = true → AskedBehind (resumeCount h) s' h') := by
  simp only [pollStop, Action.wp_bind, backend_wp, Action.wp_ite, Action.wp_pure]
  intro a
  have kept : stepSeen (h ++ [⟨.call s .pollHalted, a⟩]) = stepSeen h :=
    stepSeen_call.trans (if_neg fun seen => absurd (idle.symm.trans seen.1) Bool.false_ne_true)
  have missed : stepSeen (h ++ [⟨.call s .pollHalted, a⟩]) = none := kept.trans unseen
  constructor
  · intro _
    apply Action.wp_mono (enterLost_tells _)
    intro _ _ _ lost
    obtain ⟨pending, -, -, tells⟩ := lost
    exact ⟨tells.1.trans missed, fun asks =>
      absurd (asks.symm.trans (pending.trans idle)) (by decide)⟩
  intro answered
  refine ⟨fun halted => ?_, fun _ => ⟨missed, fun asks =>
    absurd (asks.symm.trans idle) (by decide)⟩⟩
  apply Action.wp_mono (enterHalted_recalls _ live)
  intro _ _ evs₁ entered
  obtain ⟨recalls, tells, fits⟩ := entered
  apply Action.wp_mono (recalls.emit fits)
  intro _ s' evs₂ emitted
  obtain ⟨recalls, told⟩ := emitted
  refine ⟨(tells.trans told).1.trans missed, fun asks =>
    ⟨h, s, a, evs₁ ++ evs₂, ?_, Nat.le_refl _, ?_, halted, ?_⟩⟩
  · simp only [List.append_assoc, List.cons_append, List.nil_append]
  · exact not_not.mp answered
  · exact recalls.pending_at_iff.mp ⟨asks, rfl⟩

/-- The user's resume is no internal step, and nothing is seen of one behind it. -/
theorem resumeRun_steps {h₀ : SessionHistory} (req : RunRequest)
    (idle : s.swStepOverPending = false) (every : EveryCall (StepIssue A entries h₀) h) :
    (resumeRun requestId req).wp s h fun _ s' h' =>
      EveryCall (StepIssue A entries h₀) h' ∧ stepCount h' = stepCount h ∧ stepSeen h' = none ∧
        (s'.swStepOverPending = true → AskedBehind (resumeCount h + 1) s' h') := by
  simp only [resumeRun, Action.wp_bind, backend_wp, Action.wp_ite, Action.wp_pure, updateSession_wp]
  intro a
  have issued := every.call (a := a) (s := s) (c := .resume req.action req.runToAddress)
    fun _ _ _ _ pending => absurd (idle.symm.trans pending) Bool.false_ne_true
  have count : stepCount (h ++ [⟨.call s (.resume req.action req.runToAddress), a⟩]) =
      stepCount h := by
    rw [stepCount_resume, idle]
    rfl
  have resumes : resumeCount (h ++ [⟨.call s (.resume req.action req.runToAddress), a⟩]) =
      resumeCount h + 1 :=
    resumeCount_resume
  have unseen : stepSeen (h ++ [⟨.call s (.resume req.action req.runToAddress), a⟩]) = none :=
    stepSeen_call
  constructor
  · intro _
    apply Action.wp_mono (Action.wp_and (respond_calm _ _ _) (respond_tells _))
    intro _ s₁ _ answered
    obtain ⟨answered, told, b, dead, rfl⟩ := answered
    apply Action.wp_mono (Action.wp_and (enterLost_calm _) (enterLost_tells _))
    intro _ _ _ lost
    obtain ⟨lost, pending, -, -, tells⟩ := lost
    have calm := answered.trans lost
    exact ⟨calm.stepIssue issued, calm.stepCount.trans count, tells.1.trans (told.1.trans unseen),
      fun asks => absurd (asks.symm.trans (pending.trans idle)) (by decide)⟩
  · intro _
    apply Action.wp_mono (Action.wp_and (respond_calm _ _ _) (respond_tells _))
    intro _ s₁ _ answered
    obtain ⟨answered, tells, b, dead, rfl⟩ := answered
    refine Action.wp_mono (Action.wp_and pollStop_calm (pollStop_unseen ?_ ?_ ?_)) ?_
    · exact idle
    · simp [Session.framed]
    · exact tells.1.trans unseen
    intro _ _ _ polled
    obtain ⟨polled, missed, asked⟩ := polled
    rw [answered.resumeCount, resumes] at asked
    have calm := answered.trans polled
    exact ⟨calm.stepIssue issued, calm.stepCount.trans count, missed, asked⟩

/-- A RUN from a halted session with a step-over pending. -/
theorem opRun_steps {plan : RunPlan} (hcheck : checkRun s payload = .ok plan) (ready : Ready s h)
    (start : Shadowed s h ∧ Mirrors s h) (spaced : Spaced s.swTable) (aligned : AlignedHits s)
    (halted : s.state = .halted) (alive : s.transportDead = false)
    (pending : s.swStepOverPending = true) :
    (opRun requestId payload).wp s h fun _ s' h' =>
      EveryCall (StepIssue s.swStepOverAddress plan.swEntries h) h' ∧
        RunSteps plan.swEntries s.swStepOverAddress s h s' h' := by
  have hu : Underway s h s h := ⟨ready, halted, alive, rfl, rfl, rfl, rfl, List.prefix_rfl⟩
  have entries := (checkRun_ok hcheck).2.2
  have placed : (installRun plan).wp s h fun failure s₁ h₁ =>
      (∀ status, failure = some status → status ≠ .ok) ∧ (failure = none →
        Trace (requestPolicy (s, h) (some .run) payload) (s, h) s₁ h₁ [] ∧ Underway s h s₁ h₁ ∧
          InPlace plan s₁ h₁) := by
    apply installRun_trace Trace.start hu (fun entry he => (entries entry he).1)
    · exact fun status _ _ error _ _ => ⟨fun _ same => (Option.some.inj same) ▸ error, fun hf =>
        absurd hf (by simp)⟩
    · exact fun s₁ h₁ ht₁ hu₁ inPlace => ⟨fun _ hf => absurd hf (by simp), fun _ =>
        ⟨ht₁, hu₁, inPlace⟩⟩
  have spacedAfter : (installRun plan).wp s h fun _ s₁ _ => Spaced s₁.swTable :=
    (installRun_updating (recordable_of_checked hcheck)).keeps (P := fun s₁ => Spaced s₁.swTable)
      (fun _ _ => Spaced.step) spaced
  simp only [opRun, Action.wp_bind, getSession_wp, hcheck]
  apply Action.wp_mono (Action.wp_and (Action.wp_and (Action.wp_and (installRun_quiet plan)
    (installRun_stands plan)) spacedAfter) placed)
  intro failure s₁ evs installed
  obtain ⟨⟨⟨⟨quiet₁, same₁⟩, stands₁⟩, spaced₁⟩, failed, placed⟩ := installed
  have pending₁ : s₁.swStepOverPending = s.swStepOverPending := by
    rw [same₁]
    rfl
  have address₁ : s₁.swStepOverAddress = s.swStepOverAddress := by
    rw [same₁]
    rfl
  have withheld₁ : Withheld s h s₁ (h ++ evs) := quiet₁.withheld pending₁ address₁
  have every₁ := quiet₁.calm.stepIssue (stepIssue_start s₁.swStepOverAddress plan.swEntries h)
  cases failure with
  | some status =>
    have error := failed status rfl
    simp only [failRun, Action.wp_bind, Action.wp_ite, Action.wp_pure]
    apply Action.wp_mono withheld₁.rollback
    intro ok _ _ rolled
    apply Action.wp_mono (rolled.respond (if ok then status else .swdError)
      (by split <;> simp [error]))
    intro _ _ _ answered
    refine ⟨fun _ => ?_, fun _ => answered.runSteps⟩
    apply Action.wp_mono (answered.lose _)
    intro _ _ _ lost
    exact lost.runSteps
  | none =>
    obtain ⟨ht₁, hu₁, inPlace⟩ := placed rfl
    simp only [Action.wp_bind]
    apply Action.wp_mono (Action.wp_and (Action.wp_and
      (executeStepOver_issues plan.request.action ht₁ hu₁.engaged hu₁.known start spaced₁
        (pending₁.trans pending)
        (address₁ ▸ even_of_and_one aligned.2) (fun entry he => (entries entry he).2) inPlace.1
        (stands₁ rfl) every₁)
      (executeStepOver_steps plan.request.action ht₁ hu₁.engaged hu₁.known))
      (Action.wp_and (executeStepOver_sees plan.request.action (pending₁.trans pending)
        hu₁.engaged.armed)
        (executeStepOver_stands plan.request.action (resumedArmed_start (h ++ evs)) (stands₁ rfl))))
    intro outcome s₂ evs₂ step
    obtain ⟨⟨⟨every₂, unissued, issued, needed⟩, -, reported, stepped⟩, sees, -, stands₂⟩ := step
    rw [address₁] at every₂ sees
    have report (stop : StopDetect) (userStep : Bool)
        (same : outcome = .stoppedReal stop ∨ outcome = .stoppedStep stop) :
        (reportStep requestId stop userStep).wp s₂ (h ++ evs ++ evs₂) fun _ s' h' =>
          EveryCall (StepIssue s.swStepOverAddress plan.swEntries h) h' ∧
            RunSteps plan.swEntries s.swStepOverAddress s h s' h' := by
      obtain ⟨ht₂, completed⟩ := reported stop same
      have unfailed : outcome ≠ .failed := by rcases same with rfl | rfl <;> simp
      have shadowed := (mirrors_of_moves ht₂.moves start.1 start.2).1
      have spaced₂ : Spaced s₂.swTable := spaced₁.of_keys (completed.keys ▸ List.Sublist.refl _)
      have stand : ∀ entry ∈ s₂.swTable, entry.address ∈ standing (h ++ evs ++ evs₂) :=
        stands₂ (Or.inr ⟨stop, same.imp_right Or.inl⟩)
      have live : s₂.state ≠ .lost := by
        rw [completed.state, hu₁.state]
        decide
      apply Action.wp_mono (reportStep_confirms userStep live shadowed spaced₂
        completed.engaged.armed (completed.keys.trans inPlace.1) stand)
      intro _ s' evs₃ told
      obtain ⟨calm, unchanged, confirmed⟩ := told
      refine ⟨calm.stepIssue every₂, ((quiet₁.calm.stepped (issued unfailed)).calm calm).runSteps ?_⟩
      intro stop' seen
      obtain ⟨-, ends⟩ := sees unfailed stop' (unchanged.symm.trans seen)
      rw [ends.reported same]
      exact confirmed
    cases outcome with
    | notNeeded => exact absurd rfl needed
    | stepped =>
      obtain ⟨stop, completed⟩ := stepped rfl
      apply Action.wp_mono (resumeRun_steps plan.request completed.pending every₂)
      intro _ _ _ resumed
      obtain ⟨every₃, count, unseen, asked⟩ := resumed
      have since := quiet₁.calm.stepped (issued (by simp))
      rw [since.resumes] at asked
      have steps := count.trans since.steps
      refine ⟨every₃, by omega, fun same => by omega, fun _ stop seen => ?_, fun _ => asked⟩
      rw [unseen] at seen
      exact absurd seen (by simp)
    | stoppedStep stop => exact report stop true (Or.inr rfl)
    | stoppedReal stop => exact report stop false (Or.inl rfl)
    | failedLost reason =>
      simp only [Action.wp_bind]
      apply Action.wp_mono (Action.wp_and (respond_calm _ _ _) (respond_tells _))
      intro _ s₃ _ answered
      obtain ⟨answered, told, b, dead, rfl⟩ := answered
      apply Action.wp_mono (Action.wp_and (enterLost_calm _) (enterLost_tells _))
      intro _ s' _ lost
      obtain ⟨lost, pending', -, state, tells⟩ := lost
      have calm := answered.trans lost
      refine ⟨calm.stepIssue every₂, ((quiet₁.calm.stepped (issued (by simp))).calm calm).runSteps ?_⟩
      intro stop seen
      have all := told.trans tells
      obtain ⟨idle, ends⟩ := sees (by simp) stop (all.1.symm.trans seen)
      rw [all.2]
      refine ⟨Or.inr state, fun again => absurd (again.1.symm.trans (pending'.trans idle))
        (by decide), fun hit => ?_⟩
      cases ends with
      | real which => exact absurd which (by simp)
      | clean which => exact absurd which (by simp)
      | disarmed _ _ down => exact absurd hit.2 down
    | failed =>
      have quiet₂ := unissued rfl
      have flags : s₂.swStepOverPending = s₁.swStepOverPending ∧
          s₂.swStepOverAddress = s₁.swStepOverAddress := by
        rw [quiet₂.session]
        exact ⟨rfl, rfl⟩
      have withheld₂ : Withheld s h s₂ (h ++ evs ++ evs₂) :=
        (quiet₁.trans quiet₂.history).withheld (flags.1.trans pending₁) (flags.2.trans address₁)
      simp only [Action.wp_bind, Action.wp_ite]
      apply Action.wp_mono withheld₂.rollback
      intro _ _ _ rolled
      constructor
      · intro _
        apply Action.wp_mono (rolled.respond _ (by decide))
        intro _ _ _ answered
        exact answered.runSteps
      · intro _
        apply Action.wp_mono (rolled.respond _ (by decide))
        intro _ _ _ answered
        apply Action.wp_mono (answered.lose _)
        intro _ _ _ lost
        exact lost.runSteps

/-- A RUN request over a pending hit, whichever state it meets. -/
theorem handle_runSteps {message : List UInt8} {plan : RunPlan}
    (op : requestOp (MsgHeader.parse message).opcode = some .run)
    (hcheck : checkRun s (message.drop headerSize) = .ok plan) (ready : Ready s h)
    (start : Shadowed s h ∧ Mirrors s h) (spaced : Spaced s.swTable) (aligned : AlignedHits s)
    (pending : s.swStepOverPending = true) :
    (handle (.request message)).wp s h fun _ s' h' =>
      EveryCall (StepIssue s.swStepOverAddress plan.swEntries h) h' ∧
        RunSteps plan.swEntries s.swStepOverAddress s h s' h' := by
  have still := Withheld.refl s h
  simp only [handle, Action.wp_bind, Action.wp_pure]
  apply handleRequest_op op
  · intro _
    exact still.runSteps
  · intro status error _ _ _
    apply Action.wp_mono (still.respond status error)
    intro _ _ _ refused
    exact refused.runSteps
  · intro alive _ gate
    have halted : s.state = .halted := by
      cases state : s.state with
      | halted => rfl
      | running | detached | lost =>
        rw [state] at gate
        exact absurd gate (by simp [gateTable, gateColumn, GateType.refusal])
    exact opRun_steps hcheck ready start spaced aligned halted alive pending

end SidpClient
