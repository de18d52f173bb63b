import SidpClient.CallGuards
import SidpClient.ShadowBytes

/-! Which fields the session updates, one update at a time, whatever it is answered. -/
namespace SidpClient
open LittleEndian Interactive

/-- The fields that say what the target is doing and why it stops. -/
def Session.control (s : Session) :
    (TargetState × UInt8 × Bool × UInt64) × List UInt32 × (Bool × UInt64) × List SwBp :=
  ((s.state, s.runningAction, s.runToActive, s.activeRunToAddress), s.hwBreakpointIds,
    (s.swStepOverPending, s.swStepOverAddress), s.swTable)

/-- What the checks of a RUN have shown of a software breakpoint it asks for. -/
structure BpEntry.Recordable (entry : BpEntry) : Prop where
  aligned : entry.address &&& 1 = 0
  sized : 2 ≤ entry.instructionSize.toNat
  bound : entry.address.toNat + entry.instructionSize.toNat < 2 ^ 64

/-- One update of these fields. `special` are those only some requests make. A restoring loop is one
update: what its turns do to the table on the way is left out. -/
inductive Update (special : Session → Session → Prop) : Session → Session → Prop
  | special {s s'} (hs : special s s') : Update special s s'
  | other {s s'} (same : s'.control = s.control) : Update special s s'
  | lose (s : Session) : Update special s { s with state := .lost }
  | next (s : Session) (stop : StopDetect) : Update special s (s.nextStop (classifyStop s stop))
  | halt (s : Session) (stop : StopDetect) (hit : StopClass) :
      Update special s (s.stoppedWith stop hit)
  | release (s : Session) : Update special s s.detachedState
  | hit (s : Session) (stop : StopDetect) (bp : SwBp)
      (found : softwareHit s.swTable stop = some bp) :
      Update special s { s with swStepOverPending := true, swStepOverAddress := bp.address }
  | stepped (s : Session) :
      Update special s { s with swStepOverPending := false, swStepOverAddress := 0 }
  | mark (s : Session) (index : ℕ) (f : SwBp → SwBp) (hf : f = SwBp.install ∨ f = SwBp.uninstall) :
      Update special s (s.withTable (s.swTable.modify index f))
  | restore (s : Session) (left : List SwBp)
      (keys : (left.map SwBp.key).Sublist (s.swTable.map SwBp.key)) :
      Update special s (s.withTable left)
  | record (s : Session) (entry : BpEntry) (bytes : List UInt8) (recordable : entry.Recordable)
      (clear : s.swTable.any (intervalsOverlap entry) = false) :
      Update special s (s.withTable (s.swTable ++ [entry.recorded bytes]))
  | absorb (s : Session) (address : UInt64) (data : List UInt8) :
      Update special s (s.withTable (swBpWriteOverlap s.swTable address data))

variable {special : Session → Session → Prop} {s s' : Session} {h : SessionHistory} {α : Type}

/-- The session only makes such updates. -/
abbrev Updating (special : Session → Session → Prop) (m : SessionM α) : Prop :=
  m.Within (Update special)

/-! Rules. -/

theorem getSession_updating : Updating special getSession := .get

theorem backend_updating (c : Call) : Updating special (backend c) := fun _ _ _ => .refl

theorem txSink_updating (f : List UInt8) : Updating special (txSink f) := fun _ _ _ => .refl

theorem updateSession_updating {f : Session → Session} (hf : ∀ s, Update special s (f s)) :
    Updating special (updateSession f) := .modify hf

/-- An update of other fields. -/
theorem updateOther_updating {f : Session → Session}
    (hf : ∀ s, (f s).control = s.control) :
    Updating special (updateSession f) := .modify fun s => .other (hf s)

/-! Frames. -/

theorem writePayload_updating (offset : ℕ) (bytes : List UInt8) :
    Updating special (writePayload offset bytes) := updateOther_updating fun _ => rfl

theorem beginFrame_updating (kind : UInt8) (opcode : UInt16) (requestId : UInt32) (size : ℕ) :
    Updating special (beginFrame kind opcode requestId size) :=
  .ite (.pure _) (.bind (updateOther_updating fun _ => rfl) fun _ => .pure _)

theorem finishFrame_updating : Updating special finishFrame := by
  apply Action.Within.bind getSession_updating
  intro s
  apply Action.Within.ite (.pure _)
  cases Crc32.calculateMessage (s.scratch.read 0 s.txFrameSize) with
  | none => exact .bind (updateOther_updating fun _ => rfl) fun _ => .pure _
  | some crc =>
    exact .bind (updateOther_updating fun _ => rfl) fun _ => .bind (txSink_updating _) fun _ =>
      .ite (.bind (updateOther_updating fun _ => rfl) fun _ => .pure _) (.pure _)

theorem respond_updating (opcode : UInt16) (requestId : UInt32) (status : Status) :
    Updating special (respond opcode requestId status) := by
  have sent : Updating special (sendResponse opcode requestId status []) :=
    .bind (beginFrame_updating _ _ _ _) fun _ => .ite (.pure _)
      (.bind (writePayload_updating _ _) fun _ =>
        .ite (.bind (writePayload_updating _ _) fun _ => finishFrame_updating) finishFrame_updating)
  exact .bind sent fun _ => .pure _

theorem emitPendingStopped_updating : Updating special emitPendingStopped := by
  have sent : Updating special sendStopped :=
    .bind getSession_updating fun _ => .bind (beginFrame_updating _ _ _ _) fun _ => .ite (.pure _)
      (.bind (writePayload_updating _ _) fun _ => .bind (writePayload_updating _ _) fun _ =>
        .bind (writePayload_updating _ _) fun _ => .bind finishFrame_updating fun _ =>
          .bind (updateOther_updating fun _ => rfl) fun _ => .pure _)
  exact .bind getSession_updating fun _ => .ite (.pure _) (.bind sent fun _ => .pure _)

theorem enterLost_updating (reason : TargetLostReason) : Updating special (enterLost reason) := by
  have sent : Updating special (sendTargetLost reason) :=
    .bind (beginFrame_updating _ _ _ _) fun _ => .ite (.pure _)
      (.bind (writePayload_updating _ _) fun _ => .bind (writePayload_updating _ _) fun _ =>
        finishFrame_updating)
  exact .bind getSession_updating fun _ => .ite (.pure _)
    (.bind (updateSession_updating .lose) fun _ => .bind sent fun _ => .pure _)

theorem sendBackendFailure_updating (opcode : UInt16) (requestId : UInt32) (result : EspErr)
    (fallback : Status) : Updating special (sendBackendFailure opcode requestId result fallback) :=
  .ite (.bind (respond_updating _ _ _) fun _ => .bind (enterLost_updating _) fun _ => .pure _)
    (respond_updating _ _ _)

/-! The shadow table. -/

theorem swBpInstallOne_updating (index : ℕ) : Updating special (swBpInstallOne index) := by
  apply Action.Within.bind (updateSession_updating fun s => .mark s index _ (Or.inl rfl))
  intro _
  apply Action.Within.bind getSession_updating
  intro s
  cases s.swTable[index]? with
  | none => exact .pure _
  | some entry => exact .bind (backend_updating _) fun _ => .pure _

theorem swBpRestoreOne_updating (index : ℕ) : Updating special (swBpRestoreOne index) := by
  apply Action.Within.bind getSession_updating
  intro s
  cases s.swTable[index]? with
  | none => exact .pure _
  | some entry =>
    have unmark : Updating special (updateTable (·.modify index SwBp.uninstall)) :=
      updateSession_updating fun s => .mark s index _ (Or.inr rfl)
    exact .ite (.pure _) (.bind (backend_updating _) fun _ =>
      .ite (.bind unmark fun _ => .pure _) (.pure _))

theorem swBpRestoreAll_updating : Updating special swBpRestoreAll := by
  intro s h
  apply Action.wp_mono swBpRestoreAll_restored
  intro ok s' _ left
  obtain ⟨table, rfl, restored⟩ := left
  exact .single (.restore s table restored.keys)

theorem swBpRecord_updating (entries : List BpEntry)
    (recordable : ∀ entry ∈ entries, entry.Recordable) : Updating special (swBpRecord entries) := by
  induction entries with
  | nil => exact .pure _
  | cons entry entries ih =>
    have rest := ih fun e he => recordable e (List.mem_cons_of_mem _ he)
    apply Action.Within.get_bind
    intro s h
    have undo : Updating special swBpRestoreAll := swBpRestoreAll_updating
    simp only [Action.wp_ite, Action.wp_bind, Action.wp_pure, backend_wp, updateTable_wp]
    refine ⟨fun _ => undo s h, fun _ => ⟨fun _ => undo s h, fun clear a => ?_⟩⟩
    refine ⟨fun _ => undo s _, fun _ => ⟨fun _ => undo s _, fun _ => ?_⟩⟩
    -- the overlap check was made on this very table
    have record : Update special s (s.withTable (s.swTable ++ [entry.recorded a.data])) :=
      .record s entry a.data (recordable entry List.mem_cons_self)
        (Bool.eq_false_of_not_eq_true clear)
    apply Action.wp_mono (rest _ _)
    intro _ _ _ recorded
    exact .head record recorded

theorem swBpInstallFrom_updating (n index : ℕ) : Updating special (swBpInstallFrom index n) := by
  induction n generalizing index with
  | zero => exact .pure _
  | succ n ih =>
    exact .bind (swBpInstallOne_updating index) fun _ =>
      .ite (.bind swBpRestoreAll_updating fun _ => .pure _) (ih (index + 1))

theorem swBpApply_updating (entries : List BpEntry)
    (recordable : ∀ entry ∈ entries, entry.Recordable) :
    Updating special (swBpApply entries) :=
  .bind swBpRestoreAll_updating fun _ => .ite (.pure _)
    (.bind (swBpRecord_updating entries recordable) fun _ => .ite (.pure _)
      (.bind getSession_updating fun _ => swBpInstallFrom_updating _ _))

theorem rollbackRunConfig_updating (untrack : ∀ s : Session, special s s.clearRunTracking) :
    Updating special rollbackRunConfig :=
  .bind swBpRestoreAll_updating fun _ => .bind (backend_updating _) fun _ =>
    .bind (backend_updating _) fun _ => .bind (backend_updating _) fun _ =>
      .bind (updateSession_updating fun s => .special (untrack s)) fun _ => .pure _

theorem failRun_updating (untrack : ∀ s : Session, special s s.clearRunTracking)
    (requestId : UInt32) (status : Status) : Updating special (failRun requestId status) :=
  .bind (rollbackRunConfig_updating untrack) fun _ => .bind (respond_updating _ _ _) fun _ =>
    .ite (enterLost_updating _) (.pure _)

theorem swBpRestoreFound_updating (bp : Option ℕ) : Updating special (swBpRestoreFound bp) := by
  cases bp with
  | none => exact .pure _
  | some index => exact swBpRestoreOne_updating index

theorem swBpInstallFound_updating (bp : Option ℕ) : Updating special (swBpInstallFound bp) := by
  cases bp with
  | none => exact .pure _
  | some index => exact swBpInstallOne_updating index

theorem writeCurrentPc_updating (pc : UInt32) : Updating special (writeCurrentPc pc) :=
  .bind (backend_updating _) fun _ => .pure _

theorem pollStepHalted_updating (n : ℕ) : Updating special (pollStepHalted n) := by
  induction n with
  | zero => exact .pure _
  | succ n ih =>
    exact .bind (backend_updating _) fun _ => .ite (.pure _) (.ite (.pure _) ih)

theorem executeStepOver_updating (action : UInt8) : Updating special (executeStepOver action) := by
  apply Action.Within.bind getSession_updating
  intro s
  apply Action.Within.ite (.pure _)
  apply Action.Within.bind (swBpRestoreFound_updating _)
  intro _
  apply Action.Within.ite (.pure _)
  apply Action.Within.bind (writeCurrentPc_updating _)
  intro _
  apply Action.Within.ite (.bind (swBpInstallFound_updating _) fun _ => .pure _)
  apply Action.Within.bind (backend_updating _)
  intro _
  apply Action.Within.ite (.pure _)
  apply Action.Within.bind (pollStepHalted_updating _)
  intro r
  cases r with
  | error reason => exact .pure _
  | ok stop =>
    exact .bind (updateSession_updating .stepped) fun _ =>
      .bind (swBpInstallFound_updating _) fun _ => .ite (.pure _) (.ite (.pure _)
        (.ite (.pure _) (.pure _)))

/-! Stops. -/

theorem captureSnapshot_updating : Updating special captureSnapshot := by
  have stack : Updating special captureStackSnapshot := by
    apply Action.Within.bind getSession_updating
    intro s
    split
    · exact .pure _
    · dsimp only
      split
      · exact .pure _
      · split
        · exact .pure _
        · exact .bind (backend_updating _) fun _ => .bind (updateOther_updating fun _ => rfl)
            fun _ => .ite (.pure _) (updateOther_updating fun _ => rfl)
  exact .bind getSession_updating fun _ =>
    .ite (.bind (backend_updating _) fun _ => .bind (updateOther_updating fun _ => rfl) fun _ =>
      .ite (.bind (updateOther_updating fun _ => rfl) fun _ => stack) (.pure _)) (.pure _)

theorem enterHalted_updating (stop : StopDetect) : Updating special (enterHalted stop) := by
  apply Action.Within.get_bind
  intro s h
  simp only [Action.wp_ite, Action.wp_bind, Action.wp_pure, updateSession_wp]
  refine ⟨fun _ => .refl, fun _ => ⟨fun _ => ?_, fun _ => ?_⟩⟩
  · apply Action.wp_mono (enterLost_updating .timeout _ _)
    intro _ _ _ lost
    exact .head (.next s stop) lost
  · apply Action.wp_mono (captureSnapshot_updating _ _)
    intro _ _ _ captured
    exact .head (.next s stop) (.head (.halt _ stop _) captured)

theorem pollStop_updating : Updating special pollStop :=
  .bind (backend_updating _) fun _ => .ite (enterLost_updating _)
    (.ite (.bind (enterHalted_updating _) fun _ => emitPendingStopped_updating) (.pure _))

theorem reportStep_updating (requestId : UInt32) (stop : StopDetect) (userStep : Bool) :
    Updating special (reportStep requestId stop userStep) :=
  .bind (respond_updating _ _ _) fun _ => .bind (enterHalted_updating _) fun _ =>
    .ite (.bind (updateOther_updating fun _ => rfl) fun _ => emitPendingStopped_updating)
      emitPendingStopped_updating

/-! Handlers. -/

/-- The run configuration is forgotten. -/
inductive Clears : Session → Session → Prop
  | untrack (s : Session) : Clears s s.clearRunTracking
  | forget (s : Session) : Clears s s.clearDebugState.clearRunTracking

/-- What only ATTACH, RUN and the resets do. -/
inductive Redirect : Session → Session → Prop
  | clear {s s' : Session} (clears : Clears s s') : Redirect s s'
  | name (s : Session) (ids : List UInt32) : Redirect s { s with hwBreakpointIds := ids }
  | attach (s : Session) (info : AttachInfo) : Redirect s (s.attachedWith info)
  | run (s : Session) : Redirect s { s with state := .running }
  | resume (s : Session) (req : RunRequest) : Redirect s
      { s with
        runningAction := req.action
        runToActive := req.action == RunAction.toAddress
        activeRunToAddress := if req.action = RunAction.toAddress then req.runToAddress else 0
        state := .running }
  | reset (s : Session) : Redirect s { s.clearDebugState.clearRunTracking with state := .running }

theorem handleDisconnect_updating : Updating special handleDisconnect := by
  have lose :
      Updating special (do updateSession fun s => { s with state := .lost }; return false) :=
    .bind (updateSession_updating .lose) fun _ => .pure _
  exact .bind (updateOther_updating fun _ => rfl) fun _ => .bind getSession_updating
    fun _ => .ite (.pure _)
    (.bind (backend_updating _) fun _ => .ite lose (.bind swBpRestoreAll_updating fun _ =>
      .ite lose (.bind (backend_updating _) fun _ => .ite lose
        (.bind (updateSession_updating .release) fun _ => .pure _))))

theorem haltAfterAttach_updating : Updating Redirect haltAfterAttach := by
  have run : Updating Redirect (updateSession fun s => { s with state := .running }) :=
    updateSession_updating fun s => .special (.run s)
  exact .bind (backend_updating _) fun _ => .ite (.bind (enterLost_updating _) fun _ => .pure _)
    (.ite (.bind (enterHalted_updating _) fun _ => emitPendingStopped_updating)
      (.bind (backend_updating _) fun _ =>
        .ite (.bind (enterHalted_updating _) fun _ => emitPendingStopped_updating)
          (.ite (.bind (enterLost_updating _) fun _ => .pure _) (.bind run fun _ => .pure _))))

theorem opAttach_updating (requestId : UInt32) (payload : List UInt8) :
    Updating Redirect (opAttach requestId payload) := by
  have refuse (status : Status) :
      Updating Redirect (do respond Opcode.attach requestId status; return) :=
    .bind (respond_updating _ _ _) fun _ => .pure _
  have abandon : Updating Redirect
      (do respond Opcode.attach requestId .error; let _ ← handleDisconnect; return) :=
    .bind (respond_updating _ _ _) fun _ => .bind handleDisconnect_updating fun _ => .pure _
  have run : Updating Redirect (updateSession fun s => { s with state := .running }) :=
    updateSession_updating fun s => .special (.run s)
  exact .bind getSession_updating fun _ => .ite (refuse _) (.ite (refuse _)
    (.bind (backend_updating _) fun _ => .ite (.bind (sendBackendFailure_updating _ _ _ _)
      fun _ => .pure _)
      (.bind (updateSession_updating fun s => .special (.attach s _)) fun _ => .ite abandon
        (.bind (updateOther_updating fun _ => rfl) fun _ => .bind (beginFrame_updating _ _ _ _)
          fun _ => .ite abandon
          (.bind (writePayload_updating _ _) fun _ => .bind (writePayload_updating _ _) fun _ =>
            .bind finishFrame_updating fun _ => .ite (.pure _)
              (.ite haltAfterAttach_updating run))))))

theorem haltForDetach_updating (requestId : UInt32) :
    Updating special (haltForDetach requestId) := by
  apply Action.Within.get_bind
  intro s h
  simp only [Action.wp_ite, Action.wp_bind, Action.wp_pure, backend_wp]
  refine ⟨fun _ => .refl, fun _ a => ⟨fun _ => ?_, fun _ => ?_⟩⟩
  · exact sendBackendFailure_updating _ _ _ _ _ _
  · cases found : softwareHit s.swTable a.stop with
    | none => exact .refl
    | some bp => exact .single (.hit s a.stop bp found)

theorem opDetach_updating (requestId : UInt32) (payload : List UInt8) :
    Updating special (opDetach requestId payload) := by
  have refuse : Updating special (do respond Opcode.detach requestId .swdError; return) :=
    .bind (respond_updating _ _ _) fun _ => .pure _
  have release (action : UInt8) : Updating special (releaseTarget requestId action) :=
    .bind swBpRestoreAll_updating fun _ => .ite refuse (.bind (backend_updating _) fun _ =>
      .ite refuse (.bind (respond_updating _ _ _) fun _ => updateSession_updating .release))
  rw [opDetach]
  split
  · exact respond_updating _ _ _
  · exact .bind (haltForDetach_updating _) fun _ => .ite (.pure _)
      (.bind getSession_updating fun _ => .ite (.bind (writeCurrentPc_updating _) fun _ =>
        .ite refuse (release _)) (release _))

theorem opGetState_updating (requestId : UInt32) (payload : List UInt8) :
    Updating special (opGetState requestId payload) :=
  .ite (.bind (respond_updating _ _ _) fun _ => .pure _)
    (.bind (beginFrame_updating _ _ _ _) fun _ => .ite (.pure _)
      (.bind getSession_updating fun _ => .bind (writePayload_updating _ _) fun _ =>
        .bind finishFrame_updating fun _ => .pure _))

theorem opReadMemory_updating (requestId : UInt32) (payload : List UInt8) :
    Updating special (opReadMemory requestId payload) := by
  apply Action.Within.bind getSession_updating
  intro s
  split
  · exact respond_updating _ _ _
  · exact .bind (beginFrame_updating _ _ _ _) fun _ => .ite (.pure _)
      (.bind (backend_updating _) fun _ => .bind (writePayload_updating _ _) fun _ =>
        .ite (.bind (sendBackendFailure_updating _ _ _ _) fun _ => .pure _)
          (.bind getSession_updating fun _ => .bind (writePayload_updating _ _) fun _ =>
            .bind (writePayload_updating _ _) fun _ => .bind finishFrame_updating fun _ => .pure _))

theorem opWriteMemory_updating (requestId : UInt32) (payload : List UInt8) :
    Updating special (opWriteMemory requestId payload) := by
  apply Action.Within.bind getSession_updating
  intro s
  split
  · exact respond_updating _ _ _
  · exact .bind (updateOther_updating fun _ => rfl) fun _ => .bind (backend_updating _) fun _ =>
      .ite (.bind (sendBackendFailure_updating _ _ _ _) fun _ => .pure _)
        (.bind (updateSession_updating fun s => .absorb s _ _) fun _ => respond_updating _ _ _)

theorem opReadRegisters_updating (requestId : UInt32) (payload : List UInt8) :
    Updating special (opReadRegisters requestId payload) := by
  apply Action.Within.bind getSession_updating
  intro s
  split
  · exact respond_updating _ _ _
  · exact .bind (beginFrame_updating _ _ _ _) fun _ =>
      .ite (.bind (respond_updating _ _ _) fun _ => .pure _)
        (.bind (backend_updating _) fun _ => .bind (writePayload_updating _ _) fun _ =>
          .ite (.bind (sendBackendFailure_updating _ _ _ _) fun _ => .pure _)
            (.ite (.bind (respond_updating _ _ _) fun _ => .pure _)
              (.bind (updateOther_updating fun _ => rfl) fun _ => .bind getSession_updating fun _ =>
                .bind (writePayload_updating _ _) fun _ => .bind finishFrame_updating
                  fun _ => .pure _)))

/-- Writing a PC keeps the step-over or cancels it. -/
theorem updateStepOver_cases (data : List UInt8) (count : ℕ) (s : Session) :
    updateStepOverAfterRegisterWrite data count s = s ∨
      updateStepOverAfterRegisterWrite data count s =
        { s with swStepOverPending := false, swStepOverAddress := 0 } := by
  unfold updateStepOverAfterRegisterWrite
  split
  · exact Or.inl rfl
  · dsimp only
    split
    · split
      · exact Or.inr rfl
      · exact Or.inl rfl
    · exact Or.inl rfl

theorem opWriteRegisters_updating (requestId : UInt32) (payload : List UInt8) :
    Updating special (opWriteRegisters requestId payload) := by
  have cancel (data : List UInt8) (count : ℕ) :
      Updating special (updateSession (updateStepOverAfterRegisterWrite data count)) := by
    apply updateSession_updating
    intro s
    rcases updateStepOver_cases data count s with same | cancelled
    · exact .other (congrArg Session.control same)
    · rw [cancelled]
      exact .stepped s
  apply Action.Within.bind getSession_updating
  intro s
  split
  · exact respond_updating _ _ _
  · exact .bind (backend_updating _) fun _ =>
      .ite (.bind (sendBackendFailure_updating _ _ _ _) fun _ => .pure _)
        (.bind (cancel _ _) fun _ => respond_updating _ _ _)

/-- Every software breakpoint of a RUN that passed its checks. -/
theorem recordable_of_checked {payload : List UInt8} {plan : RunPlan}
    (hcheck : checkRun s payload = .ok plan) : ∀ entry ∈ plan.swEntries, entry.Recordable := by
  intro entry he
  obtain ⟨⟨size, patchable⟩, aligned⟩ := (checkRun_ok hcheck).2.2 entry he
  refine ⟨aligned, ?_, patchable.bound⟩
  rcases size with hs | hs <;> simp [hs]

theorem installRun_updating {plan : RunPlan}
    (recordable : ∀ entry ∈ plan.swEntries, entry.Recordable) :
    Updating Redirect (installRun plan) :=
  .bind (swBpApply_updating _ recordable) fun _ => .ite (.pure _)
    (.bind (backend_updating _) fun _ => .ite (.pure _)
      (.bind (updateSession_updating fun s => .special (.name s _)) fun _ =>
        .bind (backend_updating _) fun _ => .ite (.pure _) (.bind (backend_updating _)
          fun _ => .ite (.pure _) (.pure _))))

theorem resumeRun_updating (requestId : UInt32) (req : RunRequest) :
    Updating Redirect (resumeRun requestId req) :=
  .bind (backend_updating _) fun _ =>
    .ite (.bind (respond_updating _ _ _) fun _ => .bind (enterLost_updating _) fun _ => .pure _)
      (.bind (updateSession_updating fun s => .special (.resume s req)) fun _ =>
        .bind (respond_updating _ _ _) fun _ => pollStop_updating)

theorem opRun_updating (requestId : UInt32) (payload : List UInt8) :
    Updating Redirect (opRun requestId payload) := by
  apply Action.Within.bind getSession_updating
  intro s
  cases hcheck : checkRun s payload with
  | error status => exact respond_updating _ _ _
  | ok plan =>
    apply Action.Within.bind (installRun_updating (recordable_of_checked hcheck))
    intro failure
    cases failure with
    | some status => exact failRun_updating (fun s => .clear (.untrack s)) _ _
    | none =>
      apply Action.Within.bind (executeStepOver_updating _)
      intro outcome
      cases outcome with
      | notNeeded => exact resumeRun_updating _ _
      | stepped => exact resumeRun_updating _ _
      | stoppedStep stop => exact reportStep_updating _ _ _
      | stoppedReal stop => exact reportStep_updating _ _ _
      | failed =>
        exact .bind (rollbackRunConfig_updating fun s => .clear (.untrack s))
          fun _ => .ite (respond_updating _ _ _)
          (.bind (respond_updating _ _ _) fun _ => enterLost_updating _)
      | failedLost reason => exact .bind (respond_updating _ _ _) fun _ => enterLost_updating _

theorem opHalt_updating (requestId : UInt32) (payload : List UInt8) :
    Updating special (opHalt requestId payload) :=
  .ite (.bind (respond_updating _ _ _) fun _ => .pure _)
    (.bind getSession_updating fun _ => .ite (.bind (respond_updating _ _ _) fun _ => .pure _)
      (.ite (.bind (respond_updating _ _ _) fun _ => .bind emitPendingStopped_updating
        fun _ => .pure _)
        (.bind (backend_updating _) fun _ =>
          .ite (.bind (sendBackendFailure_updating _ _ _ _) fun _ => .pure _)
            (.bind (enterHalted_updating _) fun _ => .bind (respond_updating _ _ _) fun _ =>
              emitPendingStopped_updating))))

theorem prepareReset_updating (untrack : ∀ s : Session, special s s.clearRunTracking)
    (opcode : UInt16) (requestId : UInt32) : Updating special (prepareReset opcode requestId) := by
  have clear : Updating special (do
      if !(← rollbackRunConfig) then
        respond opcode requestId .swdError
        enterLost .swdFault
        return false
      return true) :=
    .bind (rollbackRunConfig_updating untrack) fun _ =>
      .ite (.bind (respond_updating _ _ _) fun _ => .bind (enterLost_updating _)
        fun _ => .pure _) (.pure _)
  exact .bind getSession_updating fun _ => .ite (.bind (backend_updating _) fun _ =>
    .ite (.bind (sendBackendFailure_updating _ _ _ _) fun _ => .pure _)
      (.bind (enterHalted_updating _) fun _ => clear)) clear

theorem resetFailed_updating (opcode : UInt16) (requestId : UInt32) (result : EspErr) :
    Updating special (resetFailed opcode requestId result) :=
  .bind (respond_updating _ _ _) fun _ => enterLost_updating _

theorem opResetHalt_updating (requestId : UInt32) (payload : List UInt8) :
    Updating Redirect (opResetHalt requestId payload) := by
  apply Action.Within.bind getSession_updating
  intro s
  split
  · exact respond_updating _ _ _
  · exact .bind (prepareReset_updating (fun s => .clear (.untrack s)) _ _) fun _ => .ite (.pure _)
      (.bind (backend_updating _) fun _ => .ite (.bind (resetFailed_updating _ _ _)
        fun _ => .pure _)
        (.bind (updateSession_updating fun s => .special (.clear (.forget s))) fun _ =>
          .bind (enterHalted_updating _) fun _ => .bind (updateOther_updating fun _ => rfl) fun _ =>
            .bind (respond_updating _ _ _) fun _ => emitPendingStopped_updating))

theorem opResetRun_updating (requestId : UInt32) (payload : List UInt8) :
    Updating Redirect (opResetRun requestId payload) := by
  apply Action.Within.bind getSession_updating
  intro s
  split
  · exact respond_updating _ _ _
  · exact .bind (prepareReset_updating (fun s => .clear (.untrack s)) _ _) fun _ => .ite (.pure _)
      (.bind (backend_updating _) fun _ => .ite (.bind (resetFailed_updating _ _ _)
        fun _ => .pure _)
        (.bind (updateSession_updating fun s => .special (.reset s)) fun _ =>
          respond_updating _ _ _))

theorem handlePoll_updating : Updating special handlePoll :=
  .bind getSession_updating fun _ => .ite (.pure _) pollStop_updating

theorem dispatch_updating (op : RequestOp) (requestId : UInt32) (payload : List UInt8) :
    Updating Redirect (dispatch op requestId payload) := by
  cases op with
  | attach => exact opAttach_updating _ _
  | detach => exact opDetach_updating _ _
  | getState => exact opGetState_updating _ _
  | readMemory => exact opReadMemory_updating _ _
  | writeMemory => exact opWriteMemory_updating _ _
  | readRegisters => exact opReadRegisters_updating _ _
  | writeRegisters => exact opWriteRegisters_updating _ _
  | run => exact opRun_updating _ _
  | halt => exact opHalt_updating _ _
  | resetHalt => exact opResetHalt_updating _ _
  | resetRun => exact opResetRun_updating _ _

theorem handleRequest_updating (message : List UInt8) :
    Updating Redirect (handleRequest message) := by
  apply Action.Within.bind getSession_updating
  intro s
  apply Action.Within.ite (.pure _)
  apply Action.Within.ite (.pure _)
  apply Action.Within.ite (.pure _)
  split
  · exact respond_updating _ _ _
  · split
    · exact respond_updating _ _ _
    · exact dispatch_updating _ _ _

theorem handle_updating (i : Input) : Updating Redirect (handle i) := by
  cases i with
  | request message => exact .bind (handleRequest_updating message) fun _ => .pure _
  | poll => exact .bind handlePoll_updating fun _ => .pure _
  | disconnect => exact handleDisconnect_updating

theorem absorb_key (entry : SwBp) (address : UInt64) (data : List UInt8) :
    (entry.absorb address data).key = entry.key := by
  obtain ⟨hid, ha, hsize, -⟩ := entry.absorb_fields address data
  rw [SwBp.key, SwBp.key, hid, ha, hsize]

theorem Spaced.step (update : Update Redirect s s') (hs : Spaced s.swTable) :
    Spaced s'.swTable := by
  have same {table : List SwBp} (keys : table.map SwBp.key = s.swTable.map SwBp.key) :
      Spaced table :=
    hs.of_keys (keys ▸ List.Sublist.refl _)
  cases update with
  | special redirect =>
    cases redirect with
    | clear clears => cases clears <;> exact hs
    | attach => exact spaced_nil
    | reset | name | run | resume => exact hs
  | other kept =>
    simp only [Session.control, Prod.mk.injEq] at kept
    rw [kept.2.2.2]
    exact hs
  | lose | next | halt | release | hit | stepped => exact hs
  | mark index f hf =>
    apply same
    apply map_key_modify
    rcases hf with rfl | rfl <;> exact fun _ => rfl
  | restore left keys => exact hs.of_keys keys
  | record entry bytes recordable clear => exact hs.append recordable.sized recordable.bound clear
  | absorb address data =>
    apply same
    rw [Session.withTable_swTable, swBpWriteOverlap, List.map_map]
    exact congrArg (List.map · s.swTable) (funext fun entry => absorb_key entry address data)

/-- What every update keeps holds along every run. -/
theorem run_kept {T : Type} {P : Session → Prop} (env : SessionEnvironment T) (t₀ : T)
    (inputs : List Input) (start : P {}) (keep : ∀ s s', Update Redirect s s' → P s → P s') :
    P (playSession env (freshWorld t₀) inputs).state := by
  apply World.play_invariant (P := fun s _ => P s) _ inputs start
  intro s h i hp
  exact (handle_updating i).keeps keep hp

theorem run_spaced {T : Type} (env : SessionEnvironment T) (t₀ : T) (inputs : List Input) :
    Spaced (playSession env (freshWorld t₀) inputs).state.swTable :=
  run_kept env t₀ inputs spaced_nil fun _ _ => Spaced.step

end SidpClient
