import SidpClient.StopReports
import SidpClient.LostTerminal
import SidpClient.DetachPaths

/-! A run is tracked until it stops, so that every later poll calls its stop what the first
would. -/
namespace SidpClient
open LittleEndian Interactive

variable {s s' : Session} {h h' : SessionHistory} {req : RunRequest} {ids : List UInt32}
  {requestId : UInt32} {payload message : List UInt8}

/-- The session only makes updates that every request makes. -/
abbrev Plainly {α : Type} (m : SessionM α) : Prop := Updating (fun _ _ => False) m

/-- While it runs, a session tracks the request. -/
def Tracking (req : RunRequest) (ids : List UInt32) (s : Session) : Prop :=
  s.state = .running → Tracks req ids s

theorem tracking_of_unmoved (unmoved : s.state ≠ .running) : Tracking req ids s :=
  fun running => absurd running unmoved

theorem Tracking.step (update : Update (fun _ _ => False) s s') (tracking : Tracking req ids s) :
    Tracking req ids s' := by
  cases update with
  | special never => exact never.elim
  | other same =>
    simp only [Session.control, Prod.mk.injEq] at same
    obtain ⟨⟨state, action, active, address⟩, named, -⟩ := same
    intro running
    have before := tracking (state.symm.trans running)
    exact ⟨action.trans before.action, active.trans before.active, address.trans before.address,
      named.trans before.named⟩
  | lose | halt | release =>
    exact tracking_of_unmoved (by simp [Session.stoppedWith, Session.detachedState])
  | next | hit | stepped | mark | restore | record | absorb =>
    intro running
    have before := tracking running
    exact ⟨before.action, before.active, before.address, before.named⟩

/-- A target that does not run is not let run by these updates. -/
theorem unmoved_step (update : Update Clears s s') (unmoved : s.state ≠ .running) :
    s'.state ≠ .running := by
  cases update with
  | special clears => cases clears <;> exact unmoved
  | other same =>
    simp only [Session.control, Prod.mk.injEq] at same
    rw [same.1.1]
    exact unmoved
  | lose | halt | release => simp [Session.stoppedWith, Session.detachedState]
  | next | hit | stepped | mark | restore | record | absorb => exact unmoved

theorem Plainly.tracking {α : Type} {m : SessionM α} (hm : Plainly m)
    (tracking : Tracking req ids s) :
    m.wp s h fun _ s' _ => Tracking req ids s' := hm.keeps (fun _ _ => Tracking.step) tracking

theorem unmoved_tracking {α : Type} {m : SessionM α} (hm : Updating Clears m)
    (unmoved : s.state ≠ .running) :
    m.wp s h fun _ s' _ => Tracking req ids s' := by
  apply Action.wp_mono (hm.keeps (fun _ _ => unmoved_step) unmoved)
  intro _ _ _ still
  exact tracking_of_unmoved still

/-! RUN starts the tracking. -/

theorem resumeRun_tracking (halted : s.state = .halted) (named : s.hwBreakpointIds = ids) :
    (resumeRun requestId req).wp s h fun _ s' _ => Tracking req ids s' := by
  have unmoved : Tracking req ids s := tracking_of_unmoved (by simp [halted])
  simp only [resumeRun, Action.wp_bind, backend_wp, Action.wp_ite, Action.wp_pure, updateSession_wp]
  intro a
  constructor
  · intro _
    apply Action.wp_mono (Plainly.tracking (respond_updating _ _ _) unmoved)
    intro _ _ _ tracking
    exact Plainly.tracking (enterLost_updating _) tracking
  · intro _
    apply Action.wp_mono (Plainly.tracking (respond_updating _ _ _) _)
    · intro _ _ _ tracking
      exact Plainly.tracking pollStop_updating tracking
    · exact fun _ => ⟨rfl, rfl, rfl, named⟩

theorem opRun_tracking {plan : RunPlan} (hcheck : checkRun s payload = .ok plan)
    (halted : s.state = .halted) :
    (opRun requestId payload).wp s h fun _ s' _ =>
      Tracking plan.request (plan.hwEntries.map (·.breakpointId)) s' := by
  simp only [opRun, Action.wp_bind, getSession_wp, hcheck]
  apply Action.wp_mono (Action.wp_and (installRun_quiet plan) (installRun_named plan))
  intro failure s₁ evs installed
  obtain ⟨⟨-, same⟩, named⟩ := installed
  have halted₁ : s₁.state = .halted := by rw [same]; exact halted
  cases failure with
  | some status =>
    exact unmoved_tracking (failRun_updating .untrack _ _) (by simp [halted₁])
  | none =>
    simp only [Action.wp_bind]
    apply Action.wp_mono (executeStepOver_observes plan.request.action (Unreported.start _))
    intro outcome s₂ _ step
    have halted₂ := step.state.trans halted₁
    have unmoved : s₂.state ≠ .running := by simp [halted₂]
    have named₂ := step.named.trans (named rfl)
    cases outcome with
    | notNeeded => exact resumeRun_tracking halted₂ named₂
    | stepped => exact resumeRun_tracking halted₂ named₂
    | stoppedStep stop => exact unmoved_tracking (reportStep_updating _ _ _) unmoved
    | stoppedReal stop => exact unmoved_tracking (reportStep_updating _ _ _) unmoved
    | failed =>
      exact unmoved_tracking (.bind (rollbackRunConfig_updating .untrack) fun _ =>
        .ite (respond_updating _ _ _) (.bind (respond_updating _ _ _) fun _ =>
          enterLost_updating _)) unmoved
    | failedLost reason =>
      exact unmoved_tracking (.bind (respond_updating _ _ _) fun _ => enterLost_updating _) unmoved

/-! Every input keeps it, but for a reset. -/

theorem enterHalted_unmoved (stop : StopDetect) :
    (enterHalted stop).wp s h fun _ s' _ => s'.state ≠ .running := by
  apply enterHalted_wp
  · intro lost
    simp [lost]
  · intro _ _ b dead evs _
    simp [Session.framed]
  · intro _ _ s₁ evs taken
    rw [taken.frame]
    simp [Session.stopRecorded, Session.stoppedWith]

/-- What comes before a reset halts the target, or fails. -/
theorem prepareReset_tracking (opcode : UInt16) (tracking : Tracking req ids s) :
    (prepareReset opcode requestId).wp s h fun ok s' _ =>
      Tracking req ids s' ∧ (ok = true → s'.state ≠ .running) := by
  have clear (s₁ : Session) (h₁ : SessionHistory) (unmoved : s₁.state ≠ .running) :
      (do
        if !(← rollbackRunConfig) then
          respond opcode requestId .swdError
          enterLost .swdFault
          return false
        return true : SessionM Bool).wp s₁ h₁ fun ok s' _ =>
          Tracking req ids s' ∧ (ok = true → s'.state ≠ .running) := by
    have tail : Updating Clears (do
        if !(← rollbackRunConfig) then
          respond opcode requestId .swdError
          enterLost .swdFault
          return false
        return true) :=
      .bind (rollbackRunConfig_updating .untrack) fun _ =>
        .ite (.bind (respond_updating _ _ _) fun _ => .bind (enterLost_updating _)
          fun _ => .pure _) (.pure _)
    apply Action.wp_mono (tail.keeps (fun _ _ => unmoved_step) unmoved)
    intro _ _ _ still
    exact ⟨tracking_of_unmoved still, fun _ => still⟩
  rw [prepareReset, Action.wp_bind, getSession_wp, Action.wp_ite]
  refine ⟨fun _ => ?_, fun halted => clear s h ?_⟩
  · rw [Action.wp_bind, backend_wp]
    intro a
    rw [Action.wp_ite]
    constructor
    · intro _
      rw [Action.wp_bind]
      apply Action.wp_mono (Plainly.tracking (sendBackendFailure_updating _ _ _ _) tracking)
      intro _ _ _ kept
      exact ⟨kept, fun hf => absurd hf Bool.false_ne_true⟩
    · intro _
      rw [Action.wp_bind]
      apply Action.wp_mono (enterHalted_unmoved _)
      intro _ s₁ _ unmoved
      exact clear s₁ _ unmoved
  · rw [not_not.mp halted]
    decide

theorem opResetHalt_tracking (tracking : Tracking req ids s) :
    (opResetHalt requestId payload).wp s h fun _ s' _ => Tracking req ids s' := by
  rw [opResetHalt, Action.wp_bind, getSession_wp]
  cases checkReset s Cap.resetHalt payload with
  | error status => exact Plainly.tracking (respond_updating _ _ _) tracking
  | ok kind =>
    dsimp only
    rw [Action.wp_bind]
    apply Action.wp_mono (prepareReset_tracking _ tracking)
    intro ok s₁ _ prepared
    rw [Action.wp_ite]
    refine ⟨fun _ => prepared.1, fun hok => unmoved_tracking ?_ (prepared.2 (by simpa using hok))⟩
    exact .bind (backend_updating _) fun _ => .ite (.bind (resetFailed_updating _ _ _)
      fun _ => .pure _)
      (.bind (updateSession_updating fun s => .special (.forget s)) fun _ =>
        .bind (enterHalted_updating _) fun _ => .bind (updateOther_updating fun _ => rfl) fun _ =>
          .bind (respond_updating _ _ _) fun _ => emitPendingStopped_updating)

/-- A RESET_RUN ends the run only through a confirmed reset. -/
theorem opResetRun_tracking (tracking : Tracking req ids s) :
    (opResetRun requestId payload).wp s h fun _ s' h' =>
      (confirmations h').resets = (confirmations h).resets → Tracking req ids s' := by
  rw [opResetRun, Action.wp_bind, getSession_wp]
  cases checkReset s Cap.resetRun payload with
  | error status =>
    apply Action.wp_mono (Plainly.tracking (respond_updating _ _ _) tracking)
    intro _ _ _ kept _
    exact kept
  | ok kind =>
    dsimp only
    rw [Action.wp_bind]
    apply Action.wp_mono (Action.wp_and (prepareReset_tracking _ tracking) (prepareReset_calm _ _))
    intro ok s₁ evs prepared
    obtain ⟨⟨kept, unmoved⟩, calm⟩ := prepared
    rw [Action.wp_ite]
    refine ⟨fun _ _ => kept, fun hok => ?_⟩
    rw [Action.wp_bind, backend_wp]
    intro a
    rw [Action.wp_ite]
    constructor
    · intro _
      rw [Action.wp_bind]
      apply Action.wp_mono (unmoved_tracking (resetFailed_updating _ _ _)
        (unmoved (by simpa using hok)))
      intro _ _ _ failed _
      exact failed
    · intro ok
      rw [Action.wp_bind, updateSession_wp]
      apply Action.wp_mono (respond_calm _ _ _)
      intro _ s₂ _ answered same
      have counted : (confirmations (h ++ evs ++ [⟨.call s₁ (.reset kind false), a⟩])).resets =
          (confirmations (h ++ evs)).resets + 1 := by
        rw [confirmations_call, confirmationsCall, if_pos (not_not.mp ok)]
      rw [answered.resets, counted, calm.resets] at same
      omega

theorem handle_tracking (running : s.state = .running) (tracking : Tracking req ids s) (i : Input) :
    (handle i).wp s h fun _ s' h' =>
      (confirmations h').resets = (confirmations h).resets → Tracking req ids s' := by
  have plain {α : Type} {m : SessionM α} (hm : Plainly m) : m.wp s h fun _ s' h' =>
      (confirmations h').resets = (confirmations h).resets → Tracking req ids s' := by
    apply Action.wp_mono (Plainly.tracking hm tracking)
    intro _ _ _ kept _
    exact kept
  cases i with
  | poll => exact plain (.bind handlePoll_updating fun _ => .pure _)
  | disconnect => exact plain handleDisconnect_updating
  | request message =>
    simp only [handle, Action.wp_bind, Action.wp_pure]
    cases hop : requestOp (MsgHeader.parse message).opcode with
    | none =>
      apply plain
      simp only [handleRequest, hop]
      exact .bind getSession_updating fun _ => .ite (.pure _) (.ite (.pure _) (.ite (.pure _)
        (respond_updating _ _ _)))
    | some op =>
      apply handleRequest_op hop
      · exact fun _ _ => tracking
      · exact fun _ _ _ _ _ => plain (respond_updating _ _ _)
      intro _ _ gate
      rw [running] at gate
      cases op with
      | detach => exact plain (opDetach_updating _ _)
      | getState => exact plain (opGetState_updating _ _)
      | readMemory => exact plain (opReadMemory_updating _ _)
      | writeMemory => exact plain (opWriteMemory_updating _ _)
      | halt => exact plain (opHalt_updating _ _)
      | resetRun => exact opResetRun_tracking tracking
      | resetHalt =>
        apply Action.wp_mono (opResetHalt_tracking tracking)
        intro _ _ _ kept _
        exact kept
      | attach | readRegisters | writeRegisters | run =>
        exact absurd gate (by simp [gateTable, gateColumn, GateType.refusal])

/-! Whole runs. -/

/-- Outside a run nothing waits for an address. -/
def IdleHalt (s : Session) : Prop := s.state = .halted → s.runToActive = false

theorem IdleHalt.step (update : Update Redirect s s') (idle : IdleHalt s) : IdleHalt s' := by
  cases update with
  | special redirect =>
    cases redirect with
    | clear clears => cases clears <;> exact fun _ => rfl
    | name => exact idle
    | attach => exact fun _ => rfl
    | run | resume | reset => exact fun halted => absurd halted (by simp)
  | other same =>
    simp only [Session.control, Prod.mk.injEq] at same
    obtain ⟨⟨state, -, active, -⟩, -⟩ := same
    exact fun halted => active.trans (idle (state.symm.trans halted))
  | lose | release => exact fun halted => absurd halted (by simp [Session.detachedState])
  | halt => exact fun _ => rfl
  | next | hit | stepped | mark | restore | record | absorb => exact idle

/-- From a world on the target has run: the session never waited in another state, and no reset was
confirmed. -/
def KeptRunning {T : Type} (env : SessionEnvironment T) (w : SessionWorld T)
    (later : List Input) : Prop :=
  ∀ p, p <+: later → (playSession env w p).state.state = .running ∧
    (confirmations (playSession env w p).history).resets = (confirmations w.history).resets

theorem KeptRunning.tracks {T : Type} {env : SessionEnvironment T} {w : SessionWorld T}
    {later : List Input} (ran : KeptRunning env w later) (tracking : Tracking req ids w.state) :
    Tracks req ids (playSession env w later).state := by
  induction later generalizing w with
  | nil => exact tracking (ran [] List.prefix_rfl).1
  | cons i later ih =>
    have start := (ran [] (List.nil_prefix)).1
    have next := ran [i] (by simp)
    have kept : (confirmations (w.step env handle i).history).resets =
        (confirmations w.history).resets → Tracking req ids (w.step env handle i).state :=
        World.perform_wp (handle_tracking start tracking i)
    apply ih _ (kept next.2)
    intro p hp
    have more := ran (i :: p) (List.cons_prefix_cons.mpr ⟨rfl, hp⟩)
    exact ⟨more.1, more.2.trans next.2.symm⟩

/-- Every STOPPED frame of these events is about the last observation before it, as `P` says. -/
def ReportsOf (h evs : SessionHistory) (P : Observation → List UInt8 → Prop) : Prop :=
  ∀ e₁ f accepted e₂, evs = e₁ ++ ⟨.offer f, accepted⟩ :: e₂ → isStopped f = true →
    ∃ seen, observation (h ++ e₁) = some seen ∧ P seen f

theorem ReportsSince.of {C : Observation → StopClass → Prop} {evs : SessionHistory}
    {P : Observation → List UInt8 → Prop} (hr : ReportsSince h C (h ++ evs))
    (hP : ∀ seen hit f, C seen hit → Carries f hit → P seen f) : ReportsOf h evs P := by
  intro e₁ f accepted e₂ he stopped
  have split : h ++ evs = (h ++ e₁) ++ ⟨.offer f, accepted⟩ :: e₂ := by rw [he, List.append_assoc]
  obtain ⟨seen, hit, observed, carries, allowed⟩ :=
    hr _ _ _ _ split (List.prefix_append _ _) stopped
  exact ⟨seen, observed, hP seen hit f allowed carries⟩

/-- For every halted session a run reaches and every valid RUN: a stop that RUN or a later poll
reports is called what the request, the tables and the observation make of it, if and only if it is
not one of the two that an internal step misreads. Only the internal step polls in HALTED. -/
theorem stops_agree_iff {T : Type} (env : SessionEnvironment T) (t₀ : T) (inputs : List Input)
    (message : List UInt8) (plan : RunPlan)
    (halted : (playSession env (freshWorld t₀) inputs).state.state = .halted)
    (op : requestOp (MsgHeader.parse message).opcode = some .run)
    (hcheck : checkRun (playSession env (freshWorld t₀) inputs).state
      (message.drop headerSize) = .ok plan) :
    let w := playSession env (freshWorld t₀) inputs
    let r := (w.perform env (handleRequest message)).2
    let ids := plan.hwEntries.map (·.breakpointId)
    (ReportsOf w.history r.2 fun seen f =>
      Carries f (runClass plan.request ids r.1.state.swTable seen.stop) ↔
        ¬(seen.state = .halted ∧ Misread plan.request seen.stop)) ∧
    (∀ later, KeptRunning env r.1 later →
      let v := playSession env r.1 later
      let p := (v.perform env handlePoll).2
      ReportsOf v.history p.2 fun seen f =>
        Carries f (runClass plan.request ids p.1.state.swTable seen.stop)) ∧
    (plan.request.action = RunAction.toAddress → ∀ table stop, ReachedAddress plan.request stop →
      runClass plan.request ids table stop = { reason := .runToAddress }) := by
  intro w r ids
  have idle : w.state.runToActive = false :=
    run_kept (P := IdleHalt) env t₀ inputs (fun _ => rfl) (fun _ _ => IdleHalt.step) halted
  have handled : ReportsSince w.history (RunReport plan.request ids r.1.state.swTable) r.1.history ∧
      Tracking plan.request ids r.1.state := by
    apply World.perform_wp (m := handleRequest message) (w := w) (Q := fun _ s' h' =>
      ReportsSince w.history (RunReport plan.request ids s'.swTable) h' ∧
        Tracking plan.request ids s')
    have unmoved : w.state.state ≠ .running := by
      rw [show w.state.state = .halted from halted]
      decide
    apply handleRequest_op op
    · intro _
      exact ⟨(Unreported.start w.history).reports, tracking_of_unmoved unmoved⟩
    · intro _ _ _ _ gate
      rw [show w.state.state = .halted from halted] at gate
      exact absurd gate (by simp [gateTable, gateColumn, GateType.refusal])
    · intro _ _ _
      exact Action.wp_and (opRun_reports hcheck halted idle) (opRun_tracking hcheck halted)
  obtain ⟨reports, tracking⟩ := handled
  refine ⟨reports.of fun seen hit f report carries => carries.iff.trans report, fun later ran => ?_,
    fun toAddress table stop reached => runClass_reached toAddress reached⟩
  intro v p
  have tracks : Tracks plan.request ids v.state := ran.tracks tracking
  have polled : ReportsSince v.history (fun seen hit =>
      SameReport hit (runClass plan.request ids p.1.state.swTable seen.stop)) p.1.history := by
    apply World.perform_wp (m := handlePoll) (w := v) (Q := fun _ s' h' => ReportsSince v.history
      (fun seen hit => SameReport hit (runClass plan.request ids s'.swTable seen.stop)) h')
    have silent := Unreported.start v.history
    simp only [handlePoll, Action.wp_bind, getSession_wp, Action.wp_ite, Action.wp_pure]
    refine ⟨fun _ => silent.reports, fun _ => ?_⟩
    apply Action.wp_mono (pollStop_reports tracks silent)
    intro _ _ _ reported
    exact reported.mono fun seen hit report => report.2
  exact polled.of fun seen hit f same carries => carries.iff.mpr same

/-! The client of the breakpoint goes on to an address two instructions behind it, and the
comparator there stops the internal step. -/

def reachedStop : StopDetect :=
  { halted := true, dfsr := Dfsr.bkpt, pc := 0x20000104, comparatorMatch := true }

def reachedAnswers : List Answer :=
  hitAnswers ++ ([{}, {}, {}, {}, {}, {}, { stop := reachedStop }] : List Answer)

def runToMessage : List UInt8 := runMessage 3 2 RunAction.toAddress 0x20000104 []

/-- The session is halted and accepts that request. -/
theorem reached_accepts :
    (playSession scripted (freshWorld reachedAnswers) hitRun).state.state = .halted ∧
      ∃ plan, checkRun (playSession scripted (freshWorld reachedAnswers) hitRun).state
        (runToMessage.drop headerSize) = .ok plan := by
  have accepts : (playSession scripted (freshWorld reachedAnswers) hitRun).state.state = .halted ∧
      (checkRun (playSession scripted (freshWorld reachedAnswers) hitRun).state
        (runToMessage.drop headerSize)).toBool = true := by decide +kernel
  refine ⟨accepts.1, ?_⟩
  cases hcheck : checkRun (playSession scripted (freshWorld reachedAnswers) hitRun).state
      (runToMessage.drop headerSize) with
  | error status =>
    rw [hcheck] at accepts
    exact absurd accepts.2 (by simp [Except.toBool])
  | ok plan => exact ⟨plan, rfl⟩

theorem reached_agrees : ∃ plan : RunPlan,
    let w := playSession scripted (freshWorld reachedAnswers) hitRun
    let r := (w.perform scripted (handleRequest runToMessage)).2
    let ids := plan.hwEntries.map (·.breakpointId)
    (ReportsOf w.history r.2 fun seen f =>
      Carries f (runClass plan.request ids r.1.state.swTable seen.stop) ↔
        ¬(seen.state = .halted ∧ Misread plan.request seen.stop)) ∧
    (∀ later, KeptRunning scripted r.1 later →
      let v := playSession scripted r.1 later
      let p := (v.perform scripted handlePoll).2
      ReportsOf v.history p.2 fun seen f =>
        Carries f (runClass plan.request ids p.1.state.swTable seen.stop)) ∧
    (plan.request.action = RunAction.toAddress → ∀ table stop, ReachedAddress plan.request stop →
      runClass plan.request ids table stop = { reason := .runToAddress }) := by
  obtain ⟨halted, plan, hcheck⟩ := reached_accepts
  exact ⟨plan, stops_agree_iff scripted reachedAnswers hitRun runToMessage plan halted
    (by decide) hcheck⟩

/-- The frame of the last event, if that is an offer. -/
def lastOffered (h : SessionHistory) : Option (List UInt8) :=
  match h.getLast? with
  | some ⟨.offer f, _⟩ => some f
  | _ => none

theorem ReportsOf.last {evs : SessionHistory} {P : Observation → List UInt8 → Prop} {f : List UInt8}
    (hr : ReportsOf h evs P) (hlast : lastOffered evs = some f) (stopped : isStopped f = true) :
    ∃ seen, observation (h ++ evs) = some seen ∧ P seen f := by
  rcases List.eq_nil_or_concat' evs with rfl | ⟨e₁, ⟨e, reply⟩, rfl⟩
  · exact absurd hlast (by simp [lastOffered])
  · rw [lastOffered, List.getLast?_concat] at hlast
    cases e with
    | call s c => exact absurd hlast (by simp)
    | offer g =>
      obtain rfl := Option.some.inj hlast
      rw [← List.append_assoc, observation_offer]
      exact hr e₁ g reply [] rfl stopped

/-- The internal step reports it as a breakpoint, where any other poll reports the end of the
run. -/
theorem step_misreads_address :
    let w := playSession scripted (freshWorld reachedAnswers) hitRun
    let r := (w.perform scripted (handleRequest runToMessage)).2
    w.state.state = .halted ∧ ∃ plan, checkRun w.state (runToMessage.drop headerSize) = .ok plan ∧
      plan.request.action = RunAction.toAddress ∧ ReachedAddress plan.request reachedStop ∧
      ¬ReportsOf w.history r.2 fun seen f => Carries f
        (runClass plan.request (plan.hwEntries.map (·.breakpointId)) r.1.state.swTable
          seen.stop) := by
  obtain ⟨halted, plan, hcheck⟩ := reached_accepts
  have request := (checkRun_ok hcheck).1
  have toAddress : plan.request.action = RunAction.toAddress := by
    rw [request]
    decide
  have reached : ReachedAddress plan.request reachedStop := by
    rw [request]
    exact ⟨rfl, rfl, by decide, rfl, by decide⟩
  refine ⟨halted, plan, hcheck, toAddress, reached, fun reports => ?_⟩
  have run :
      ((lastOffered ((playSession scripted (freshWorld reachedAnswers) hitRun).perform scripted
        (handleRequest runToMessage)).2.2).map fun f => (isStopped f, stoppedFrameReason f)) =
          some (true, StopReason.breakpoint.value) ∧
      observation ((playSession scripted (freshWorld reachedAnswers) hitRun).perform scripted
        (handleRequest runToMessage)).2.1.history = some ⟨.halted, reachedStop⟩ := by decide +kernel
  obtain ⟨f, hlast, hf⟩ := Option.map_eq_some_iff.mp run.1
  obtain ⟨stopped, reason⟩ := Prod.mk.inj hf
  obtain ⟨seen, observed, carries⟩ := reports.last hlast stopped
  obtain rfl := Option.some.inj (run.2.symm.trans observed)
  have called := carries.reason
  rw [reason, runClass_reached toAddress reached] at called
  exact absurd called (by decide)

end SidpClient
