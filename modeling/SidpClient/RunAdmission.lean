import SidpClient.RunGrammar
import SidpClient.ShadowPrograms

/-! A RUN asks the backend for nothing but what its configuration says, and for nothing at all if it
is refused. -/
namespace SidpClient
open LittleEndian Interactive

namespace RunConfiguration

/-- What the backend may be asked for. Besides this configuration there is the cleared one, and the
internal step over a breakpoint. -/
def Asks (cfg : RunConfiguration) : Call → Prop
  | .applyBreakpoints entries => entries = cfg.plan.hwEntries ∨ entries = []
  | .applyWatchpoints entries => entries = cfg.plan.wpEntries ∨ entries = []
  | .setVectorCatch mask => mask = cfg.vectorCatchMask ∨ mask = 0
  | .resume action address =>
    (action = cfg.action ∧ address = cfg.runToAddress) ∨
    (action = RunAction.singleStep ∧ address = 0)
  | .attach _ | .detach _ | .reset _ _ | .halt _ => False
  | _ => True

/-- Since `h₀` it was asked for no more than that. -/
def AskedSince (cfg : RunConfiguration) (h₀ : SessionHistory) (_ : Session)
    (h : SessionHistory) : Prop :=
  ∃ evs, h = h₀ ++ evs ∧ ∀ s c a, ⟨.call s c, a⟩ ∈ evs → cfg.Asks c

variable {cfg : RunConfiguration} {s s' : Session} {h h₀ evs : SessionHistory} {c : Call} {α : Type}

/-! The parts of `op_run`. -/

abbrev Asking (cfg : RunConfiguration) (h₀ : SessionHistory) (m : SessionM α) : Prop :=
  m.Preserves (cfg.AskedSince h₀)

theorem AskedSince.call (asked : cfg.AskedSince h₀ s h) {a : Answer} {s₁ : Session}
    (asks : cfg.Asks c) :
    cfg.AskedSince h₀ s' (h ++ [⟨.call s₁ c, a⟩]) := by
  obtain ⟨evs, rfl, all⟩ := asked
  refine ⟨evs ++ [⟨.call s₁ c, a⟩], List.append_assoc .., fun s₂ c₂ a₂ hm => ?_⟩
  rcases List.mem_append.mp hm with hm | hm
  · exact all s₂ c₂ a₂ hm
  · cases List.mem_singleton.mp hm
    exact asks

theorem AskedSince.offered {P : List UInt8 → Prop} {dead : Bool} (asked : cfg.AskedSince h₀ s h)
    (offered : Offered s' P dead evs) : cfg.AskedSince h₀ s (h ++ evs) := by
  rcases offered with ⟨-, -, rfl⟩ | ⟨-, f, accepted, -, -, rfl⟩
  · rw [List.append_nil]
    exact asked
  · obtain ⟨evs, rfl, all⟩ := asked
    refine ⟨evs ++ [⟨.offer f, accepted⟩], List.append_assoc .., fun s₂ c₂ a₂ hm => ?_⟩
    rcases List.mem_append.mp hm with hm | hm
    · exact all s₂ c₂ a₂ hm
    · cases List.mem_singleton.mp hm

theorem asks_undisturbed : Undisturbed (cfg.AskedSince h₀) := by
  refine ⟨fun _ _ _ asked => asked, fun s h s₁ c a shadows asked => asked.call ?_⟩
  cases c with
  | readMem | writeMem => exact trivial
  | _ => exact absurd shadows (by simp [Call.shadows])

theorem backend_asking (asks : cfg.Asks c) :
    Asking cfg h₀ (backend c) := .ask fun _ _ _ asked => asked.call asks

theorem updateSession_asking (f : Session → Session) :
    Asking cfg h₀ (updateSession f) := .modify fun _ _ asked => asked

theorem respond_asking (opcode : UInt16) (requestId : UInt32) (status : Status) :
    Asking cfg h₀ (respond opcode requestId status) := by
  intro s h asked
  apply respond_wp
  intro b dead evs sent
  exact asked.offered sent

theorem enterLost_asking (reason : TargetLostReason) : Asking cfg h₀ (enterLost reason) := by
  intro s h asked
  apply enterLost_wp
  · exact fun _ => asked
  · intro _ b dead evs sent
    exact asked.offered sent

theorem captureSnapshot_asking : Asking cfg h₀ captureSnapshot := by
  have stack : Asking cfg h₀ captureStackSnapshot := by
    apply getSession_preserves
    intro s
    cases findRegister s.pendingRegisters s.pendingRegistersSize armRegSp with
    | none => exact .pure _
    | some entry =>
      dsimp only
      split
      · exact .pure _
      · split
        · exact .pure _
        · exact .bind (backend_asking trivial) fun _ => .bind (updateSession_asking _)
            fun _ => .ite (fun _ => .pure _)
            fun _ => updateSession_asking _
  exact getSession_preserves fun _ => .ite (fun _ => .bind (backend_asking trivial) fun _ =>
    .bind (updateSession_asking _) fun _ =>
      .ite (fun _ => .bind (updateSession_asking _) fun _ => stack)
      fun _ => .pure _) fun _ => .pure _

theorem enterHalted_asking (stop : StopDetect) : Asking cfg h₀ (enterHalted stop) :=
  getSession_preserves fun _ => .ite (fun _ => .pure _) fun _ => .bind (updateSession_asking _)
    fun _ => .ite (fun _ => .bind (enterLost_asking _) fun _ => .pure _)
      fun _ => .bind (updateSession_asking _) fun _ => captureSnapshot_asking

theorem emitPendingStopped_asking : Asking cfg h₀ emitPendingStopped := by
  have sent : Asking cfg h₀ sendStopped := by
    intro s h asked
    by_cases fits : SnapshotFits s
    · apply sendStopped_wp fits
      intro b n dead evs sent
      exact asked.offered sent
    · simp only [sendStopped, Action.wp_bind, getSession_wp, beginFrame_wp]
      refine ⟨fun _ => asked, fun small => absurd ?_ fits⟩
      simp only [SnapshotFits, snapshotBlobCapacity, stoppedEventSize, maxFrameSize,
        headerSize] at small ⊢
      omega
  exact getSession_preserves fun _ => .ite (fun _ => .pure _) fun _ => .bind sent fun _ =>
    updateSession_asking _

theorem pollStop_asking : Asking cfg h₀ pollStop :=
  .bind (backend_asking trivial) fun _ => .ite (fun _ => enterLost_asking _) fun _ =>
    .ite (fun _ => .bind (enterHalted_asking _) fun _ => emitPendingStopped_asking) fun _ => .pure _

theorem rollbackRunConfig_asking : Asking cfg h₀ rollbackRunConfig :=
  .bind asks_undisturbed.restoreAll fun _ => .bind (backend_asking (Or.inr rfl)) fun _ =>
    .bind (backend_asking (Or.inr rfl)) fun _ => .bind (backend_asking (Or.inr rfl)) fun _ =>
      .bind (updateSession_asking _) fun _ => .pure _

theorem installRun_asking : Asking cfg h₀ (installRun cfg.plan) :=
  .bind (asks_undisturbed.apply _) fun _ => .ite (fun _ => .pure _) fun _ =>
    .bind (backend_asking (Or.inl rfl)) fun _ => .ite (fun _ => .pure _) fun _ =>
    .bind (updateSession_asking _) fun _ => .bind (backend_asking (Or.inl rfl)) fun _ =>
      .ite (fun _ => .pure _) fun _ => .bind (backend_asking (Or.inl rfl))
        fun _ => .ite (fun _ => .pure _) fun _ => .pure _

theorem executeStepOver_asking (action : UInt8) : Asking cfg h₀ (executeStepOver action) := by
  have poll (n : ℕ) : Asking cfg h₀ (pollStepHalted n) := by
    induction n with
    | zero => exact .pure _
    | succ n ih =>
      exact .bind (backend_asking trivial) fun _ => .ite (fun _ => .pure _)
        fun _ => .ite (fun _ => .pure _) fun _ => ih
  have write (pc : UInt32) : Asking cfg h₀ (writeCurrentPc pc) := .bind (backend_asking trivial)
      fun _ => .pure _
  have arm (bp : Option ℕ) : Asking cfg h₀ (swBpInstallFound bp) := asks_undisturbed.installFound bp
  apply getSession_preserves
  intro s
  apply Action.Preserves.ite (fun _ => .pure _)
  intro _
  apply Action.Preserves.bind (asks_undisturbed.restoreFound _)
  intro _
  apply Action.Preserves.ite (fun _ => .pure _)
  intro _
  apply Action.Preserves.bind (write _)
  intro _
  apply Action.Preserves.ite (fun _ => .bind (arm _) fun _ => .pure _)
  intro _
  apply Action.Preserves.bind (backend_asking (show cfg.Asks (.resume RunAction.singleStep 0)
    from Or.inr ⟨rfl, rfl⟩))
  intro _
  apply Action.Preserves.ite (fun _ => .pure _)
  intro _
  apply Action.Preserves.bind (poll _)
  intro outcome
  cases outcome with
  | error reason => exact .pure _
  | ok stop =>
    exact .bind (updateSession_asking _) fun _ => .bind (arm _) fun _ => .ite (fun _ => .pure _)
      fun _ => .ite (fun _ => .pure _) fun _ => .ite (fun _ => .pure _) fun _ => .pure _

theorem failRun_asking (requestId : UInt32) (status : Status) :
    Asking cfg h₀ (failRun requestId status) :=
  .bind rollbackRunConfig_asking fun _ => .bind (respond_asking _ _ _)
    fun _ => .ite (fun _ => enterLost_asking _)
    fun _ => .pure _

theorem resumeRun_asking (requestId : UInt32) :
    Asking cfg h₀ (resumeRun requestId cfg.plan.request) :=
  .bind (backend_asking (Or.inl ⟨rfl, rfl⟩)) fun _ => .ite
    (fun _ => .bind (respond_asking _ _ _) fun _ => .bind (enterLost_asking _) fun _ => .pure _)
      fun _ => .bind (updateSession_asking _) fun _ => .bind (respond_asking _ _ _)
        fun _ => pollStop_asking

theorem reportStep_asking (requestId : UInt32) (stop : StopDetect) (userStep : Bool) :
    Asking cfg h₀ (reportStep requestId stop userStep) := by
  apply Action.Preserves.bind (respond_asking _ _ _)
  intro _
  apply Action.Preserves.bind (enterHalted_asking _)
  intro _
  exact .ite (fun _ => .bind (updateSession_asking _) fun _ => emitPendingStopped_asking) fun _ =>
    emitPendingStopped_asking

/-- What follows the checks of `op_run`. -/
theorem opRun_asking {payload : List UInt8} (requestId : UInt32)
    (accepted : checkRun s payload = .ok cfg.plan) (asked : cfg.AskedSince h₀ s h) :
    (opRun requestId payload).wp s h fun _ => cfg.AskedSince h₀ := by
  simp only [opRun, Action.wp_bind, getSession_wp]
  rw [accepted]
  refine Action.Preserves.bind installRun_asking (fun failure => ?_) s h asked
  cases failure with
  | some status => exact failRun_asking _ _
  | none =>
    refine .bind (executeStepOver_asking _) fun outcome => ?_
    cases outcome with
    | failed =>
      exact .bind rollbackRunConfig_asking fun _ => .ite (fun _ => respond_asking _ _ _) fun _ =>
        .bind (respond_asking _ _ _) fun _ => enterLost_asking _
    | failedLost reason => exact .bind (respond_asking _ _ _) fun _ => enterLost_asking _
    | stoppedStep stop => exact reportStep_asking _ _ _
    | stoppedReal stop => exact reportStep_asking _ _ _
    | notNeeded => exact resumeRun_asking _
    | stepped => exact resumeRun_asking _

end RunConfiguration

/-! Both outcomes. -/

variable {s : Session} {h h' h'' : SessionHistory} {payload message : List UInt8}
  {requestId : UInt32} {α : Type}

/-- The breakpoints of the target were set, or cleared. -/
def Reached (h h' : SessionHistory) : Prop :=
  ∃ evs, h' = h ++ evs ∧ ∃ s entries a, (⟨.call s (.applyBreakpoints entries), a⟩ :
    SessionEvent) ∈ evs

theorem Reached.call {s₁ : Session} {entries : List BpEntry} {a : Answer} (evs : SessionHistory) :
    Reached h (h ++ evs ++ [⟨.call s₁ (.applyBreakpoints entries), a⟩]) :=
  ⟨evs ++ [⟨.call s₁ (.applyBreakpoints entries), a⟩], List.append_assoc .., s₁, entries, a,
    List.mem_append_right _ List.mem_cons_self⟩

theorem Reached.later {m : SessionM α} (reached : Reached h h') :
    m.wp s h' fun _ _ => Reached h := by
  apply Action.wp_from
  intro _ _ evs
  obtain ⟨before, rfl, s₁, entries, a, hm⟩ := reached
  exact ⟨before ++ evs, List.append_assoc .., s₁, entries, a, List.mem_append_left _ hm⟩

theorem rollbackRunConfig_reaches (evs : SessionHistory) :
    rollbackRunConfig.wp s (h ++ evs) fun _ _ => Reached h := by
  rw [rollbackRunConfig, Action.wp_bind]
  apply Action.wp_from
  intro restored s₁ more
  rw [Action.wp_bind, backend_wp]
  intro a
  rw [List.append_assoc h]
  exact (Reached.call _).later

theorem opRun_reaches {plan : RunPlan} (accepted : checkRun s payload = .ok plan) :
    (opRun requestId payload).wp s h fun _ _ => Reached h := by
  simp only [opRun, Action.wp_bind, getSession_wp]
  rw [accepted]
  have installed : (installRun plan).wp s h fun failure _ h' =>
      (∃ evs, h' = h ++ evs) ∧ (failure = none → Reached h h') := by
    rw [installRun, Action.wp_bind]
    apply Action.wp_from
    intro applied s₁ evs
    rw [Action.wp_ite]
    refine ⟨fun _ => ⟨⟨evs, rfl⟩, fun none => absurd none (by simp)⟩, fun _ => ?_⟩
    rw [Action.wp_bind, backend_wp]
    intro a
    apply Action.wp_mono (Reached.call evs).later
    intro _ _ more reached
    have grown := reached
    obtain ⟨evs', heq, -⟩ := grown
    exact ⟨⟨evs', heq⟩, fun _ => reached⟩
  simp only [Action.wp_bind]
  apply Action.wp_mono installed
  rintro failure s₁ _ ⟨⟨evs, heq⟩, reached⟩
  cases failure with
  | none => exact (reached rfl).later
  | some status =>
    rw [heq]
    dsimp only
    rw [failRun, Action.wp_bind]
    apply Action.wp_mono (rollbackRunConfig_reaches evs)
    intro restored s₂ _ done
    exact done.later

/-- For every halted session with a live transport, every backend and every RUN: if the payload
encodes a configuration that fits the session, the target's breakpoints are set or cleared, and the
backend is asked for nothing else than that configuration, clearing it, and the step over a
breakpoint. Any other payload is refused, and the backend is not asked for anything. -/
theorem run_admission (halted : s.state = .halted) (alive : s.transportDead = false)
    (valid : ValidRequest message) (op : requestOp (MsgHeader.parse message).opcode = some .run) :
    (handleRequest message).wp s h fun _ s' h' =>
      (∀ cfg : RunConfiguration, cfg.Valid s → message.drop headerSize = cfg.bytes →
        cfg.AskedSince h s' h' ∧ Reached h h') ∧
      ((¬∃ cfg : RunConfiguration, cfg.Valid s ∧ message.drop headerSize = cfg.bytes) →
        OnlyRefused Opcode.run (MsgHeader.parse message).requestId s h s' h') := by
  apply handleRequest_op op
  · intro silent
    exact absurd silent (by simp [alive, valid])
  · intro _ _ _ _ gate
    rw [halted] at gate
    exact absurd gate (by simp [gateTable, gateColumn, GateType.refusal])
  · intro _ _ _
    cases hcheck : checkRun s (message.drop headerSize) with
    | error status =>
      have refused : ¬∃ cfg : RunConfiguration, cfg.Valid s ∧
          message.drop headerSize = cfg.bytes := by
        rintro ⟨cfg, fits, bytes⟩
        rw [checkRun_iff.mpr ⟨cfg, fits, bytes, rfl⟩] at hcheck
        exact absurd hcheck (by simp)
      have error : status ≠ .ok := checkRun_refuses s _ status hcheck
      simp only [dispatch, opRun, Action.wp_bind, getSession_wp]
      rw [hcheck]
      apply Action.wp_mono (respond_refused error alive)
      intro _ s' _ done
      exact ⟨fun cfg fits bytes => absurd ⟨cfg, fits, bytes⟩ refused, fun _ => done⟩
    | ok plan =>
      obtain ⟨cfg, fits, bytes, rfl⟩ := checkRun_iff.mp hcheck
      have start : cfg.AskedSince h s h :=
        ⟨[], (List.append_nil h).symm, fun _ _ _ hm => absurd hm List.not_mem_nil⟩
      apply Action.wp_mono (Action.wp_and (RunConfiguration.opRun_asking _ hcheck start)
        (opRun_reaches hcheck))
      intro _ s' _ done
      refine ⟨fun cfg' fits' bytes' => ?_, fun refused => absurd ⟨cfg, fits, bytes⟩ refused⟩
      have same : cfg' = cfg := RunConfiguration.bytes_injective fits'.countable fits.countable
          (bytes'.symm.trans bytes)
      rw [same]
      exact done

/-- A session that stopped once. -/
def stoppedOnce : Session :=
  { state := .halted, stopId := 1, capabilities := Cap.softwareBp ||| Cap.watchpoint,
    hardwareWatchpointLimit := 1, regions := parseMap debugTarget.memoryRegions }

/-- One breakpoint and one watchpoint. -/
def watchedRun : RunConfiguration where
  stopId := 1
  coreId := 0
  action := RunAction.continueRun
  flags := 0
  vectorCatchMask := 0
  runToAddress := 0
  breakpoints := [⟨7, 0x20000100, BreakpointKind.software, 2, 1, 0⟩]
  watchpoints := [⟨⟨9, 0x20000200, WatchAccess.write, 4, 1⟩, 0⟩]

theorem watchedRun_valid : watchedRun.Valid stoppedOnce := by
  have breakpoint : ∀ bp ∈ watchedRun.breakpoints, bp.Valid stoppedOnce := by
    intro bp hm
    rw [List.mem_singleton.mp hm]
    exact ⟨by decide, by decide, by decide, Or.inr ⟨by decide, Or.inl rfl, by decide +kernel⟩⟩
  have watchpoint : ∀ w ∈ watchedRun.watchpoints, w.watchpoint.Valid := by
    intro w hm
    rw [List.mem_singleton.mp hm]
    exact ⟨by decide, by decide, Or.inr (Or.inl rfl), Or.inr (Or.inr rfl), by decide⟩
  constructor
  · exact ⟨rfl, rfl, Or.inl rfl, by decide, fun aimed => absurd aimed (by decide),
      fun single => absurd single (by decide), by decide⟩
  · exact ⟨breakpoint, by decide, fun some => absurd rfl some, by decide, fun _ => by decide,
      by decide, fun aimed => absurd aimed (by decide), watchpoint, fun _ => by decide, by decide,
      by decide⟩

/-- Its RUN goes through. -/
theorem watched_run_admitted :
    (handleRequest (requestMessage .run 5 watchedRun.bytes)).wp stoppedOnce [] fun _ s' h' =>
      watchedRun.AskedSince [] s' h' ∧ Reached [] h' := by
  have admission := @run_admission stoppedOnce [] (requestMessage .run 5 watchedRun.bytes) rfl rfl
    ⟨by decide, by decide, by decide, by decide⟩ (by decide)
  apply Action.wp_mono admission
  intro _ _ _ done
  exact done.1 watchedRun watchedRun_valid rfl

end SidpClient
