import SidpClient.StepOverOnce

/-! After the internal step: until the target is resumed again, no RUN and no DETACH puts the PC
back on the breakpoint that was stepped over. -/
namespace SidpClient
open LittleEndian Interactive

variable {s s' : Session} {h h' evs : SessionHistory} {A : UInt64} {requestId : UInt32}
  {payload : List UInt8} {P : List SwBp → Prop} {α : Type}

/-- No step-over is pending that would put the PC on the address. Where the target may run without a
RUN, no breakpoint is left that could ask for one. -/
structure Consumed (A : UInt64) (s : Session) : Prop where
  elsewhere : s.swStepOverPending = true → s.swStepOverAddress.toUInt32 ≠ A.toUInt32
  clean : s.state = .running ∨ s.state = .detached → s.swTable = []

/-- Only the PC is written, and to other values than the address. -/
def Elsewhere (A : UInt64) : Effect → Prop
  | .call _ c => ∀ bytes, c = .writeRegs bytes → ∃ pc : UInt32,
      pc ≠ A.toUInt32 ∧ bytes = pcEntryBytes pc
  | .offer _ => True

/-- The step-over stays consumed, and so does what holds of the shadow table. -/
abbrev Consuming (A : UInt64) (P : List SwBp → Prop) (m : SessionM α) : Prop :=
  m.Guarded (fun s => Consumed A s ∧ P s.swTable) (Elsewhere A)

/-! Rules. -/

/-- The fields it is about. -/
def Session.rewind (s : Session) : TargetState × Bool × UInt64 × List SwBp :=
  (s.state, s.swStepOverPending, s.swStepOverAddress, s.swTable)

theorem Consumed.keep (hc : Consumed A s) (same : s'.rewind = s.rewind) : Consumed A s' := by
  simp only [Session.rewind, Prod.mk.injEq] at same
  obtain ⟨state, pending, address, table⟩ := same
  constructor
  · rw [pending, address]
    exact hc.elsewhere
  · rw [state, table]
    exact hc.clean

theorem getSession_consuming {f : Session → SessionM α}
    (hf : ∀ s, Consumed A s ∧ P s.swTable → Consuming A P (f s)) :
    Consuming A P (getSession >>= f) := .get_bind hf

theorem backend_consuming {c : Call} (hc : ∀ bytes, c ≠ .writeRegs bytes) :
    Consuming A P (backend c) :=
  .ask fun _ _ bytes same => absurd same (hc bytes)

theorem updateOther_consuming {f : Session → Session}
    (hf : ∀ s, (f s).rewind = s.rewind) : Consuming A P (updateSession f) := by
  apply Action.Guarded.modify
  intro s hs
  have table : (f s).swTable = s.swTable := congrArg (fun fields => fields.2.2.2) (hf s)
  exact ⟨hs.1.keep (hf s), table ▸ hs.2⟩

/-- The target is lost, or halted. -/
theorem updateStill_consuming {f : Session → Session}
    (still : ∀ s, (f s).state = .lost ∨ (f s).state = .halted)
    (hf : ∀ s, ((f s).swStepOverPending, (f s).swStepOverAddress, (f s).swTable) =
      (s.swStepOverPending, s.swStepOverAddress, s.swTable)) :
    Consuming A P (updateSession f) := by
  apply Action.Guarded.modify
  intro s hs
  obtain ⟨pending, address, table⟩ := by simpa only [Prod.mk.injEq] using hf s
  refine ⟨⟨?_, fun runs => ?_⟩, table ▸ hs.2⟩
  · rw [pending, address]
    exact hs.1.elsewhere
  · rcases still s with state | state <;> rw [state] at runs <;> exact absurd runs (by decide)

theorem updateTable_consuming {f : List SwBp → List SwBp} (hf : f [] = [])
    (keeps : ∀ table, P table → P (f table)) :
    Consuming A P (updateTable f) := by
  apply Action.Guarded.modify
  intro s hs
  refine ⟨⟨hs.1.elsewhere, fun runs => ?_⟩, keeps _ hs.2⟩
  change f s.swTable = []
  rw [hs.1.clean runs, hf]

/-! Frames. -/

theorem respond_consuming (opcode : UInt16) (requestId : UInt32) (status : Status) :
    Consuming A P (respond opcode requestId status) := by
  intro s h hs
  apply respond_wp
  intro b dead evs sent
  refine ⟨⟨hs.1.keep rfl, hs.2⟩, evs, rfl, fun ev hm => ?_⟩
  rcases sent with ⟨-, -, rfl⟩ | ⟨-, f, accepted, -, -, rfl⟩
  · exact absurd hm List.not_mem_nil
  · rw [List.mem_singleton.mp hm]
    trivial

theorem writePayload_consuming (offset : ℕ) (bytes : List UInt8) :
    Consuming A P (writePayload offset bytes) :=
  updateOther_consuming fun _ => rfl

theorem beginFrame_consuming (kind : UInt8) (opcode : UInt16) (requestId : UInt32) (size : ℕ) :
    Consuming A P (beginFrame kind opcode requestId size) :=
  .ite (fun _ => .pure _) fun _ => .bind (updateOther_consuming fun _ => rfl) fun _ => .pure _

theorem finishFrame_consuming : Consuming A P finishFrame := by
  apply getSession_consuming
  intro s _
  apply Action.Guarded.ite (fun _ => .pure _)
  intro _
  have send (f : List UInt8) : Consuming A P (txSink f) := .ask fun _ _ => trivial
  cases Crc32.calculateMessage (s.scratch.read 0 s.txFrameSize) with
  | none => exact .bind (updateOther_consuming fun _ => rfl) fun _ => .pure _
  | some crc =>
    exact .bind (updateOther_consuming fun _ => rfl) fun _ => .bind (send _) fun _ =>
      .ite (fun _ => .bind (updateOther_consuming fun _ => rfl) fun _ => .pure _) fun _ => .pure _

theorem emitPendingStopped_consuming : Consuming A P emitPendingStopped := by
  have sent : Consuming A P sendStopped :=
    getSession_consuming fun _ _ => .bind (beginFrame_consuming _ _ _ _)
      fun _ => .ite (fun _ => .pure _)
      fun _ => .bind (writePayload_consuming _ _) fun _ => .bind (writePayload_consuming _ _)
        fun _ => .bind (writePayload_consuming _ _) fun _ => .bind finishFrame_consuming fun _ =>
          .bind (updateOther_consuming fun _ => rfl) fun _ => .pure _
  exact getSession_consuming fun _ _ => .ite (fun _ => .pure _) fun _ => .bind sent fun _ => .pure _

theorem enterLost_consuming (reason : TargetLostReason) : Consuming A P (enterLost reason) := by
  have sent : Consuming A P (sendTargetLost reason) :=
    .bind (beginFrame_consuming _ _ _ _) fun _ => .ite (fun _ => .pure _) fun _ =>
      .bind (writePayload_consuming _ _) fun _ => .bind (writePayload_consuming _ _) fun _ =>
        finishFrame_consuming
  exact getSession_consuming fun _ _ => .ite (fun _ => .pure _) fun _ =>
    .bind (updateStill_consuming (fun _ => Or.inl rfl) fun _ => rfl) fun _ => .bind sent
      fun _ => .pure _

theorem sendBackendFailure_consuming (opcode : UInt16) (requestId : UInt32) (result : EspErr)
    (fallback : Status) :
    Consuming A P (sendBackendFailure opcode requestId result fallback) :=
  .ite (fun _ => .bind (respond_consuming _ _ _) fun _ => .bind (enterLost_consuming _)
    fun _ => .pure _)
    fun _ => respond_consuming _ _ _

/-! Stops. -/

theorem captureSnapshot_consuming : Consuming A P captureSnapshot := by
  have stack : Consuming A P captureStackSnapshot := by
    apply getSession_consuming
    intro s _
    split
    · exact .pure _
    · dsimp only
      split
      · exact .pure _
      · split
        · exact .pure _
        · exact .bind (backend_consuming (by simp)) fun _ =>
            .bind (updateOther_consuming fun _ => rfl) fun _ => .ite (fun _ => .pure _) fun _ =>
            updateOther_consuming fun _ => rfl
  exact getSession_consuming fun _ _ =>
    .ite (fun _ => .bind (backend_consuming (by simp)) fun _ =>
      .bind (updateOther_consuming fun _ => rfl) fun _ =>
      .ite (fun _ => .bind (updateOther_consuming fun _ => rfl) fun _ => stack) fun _ => .pure _)
      fun _ => .pure _

/-- With no breakpoint in the table no stop asks for a step-over. -/
theorem enterHalted_consuming (stop : StopDetect) :
    Consuming A (IsTable []) (enterHalted stop) := by
  apply getSession_consuming
  intro s hs
  apply Action.Guarded.ite (fun _ => .pure _)
  intro _
  have unasked : (classifyStop s stop).stepOver = none := by
    cases asked : (classifyStop s stop).stepOver with
    | none => rfl
    | some address =>
      obtain ⟨entry, hm, -⟩ := classifyStop_asks asked
      rw [show s.swTable = [] from hs.2] at hm
      exact absurd hm List.not_mem_nil
  have next : Consuming A (IsTable []) (updateSession (·.nextStop (classifyStop s stop))) := by
    refine .modify fun s₁ hs₁ => ⟨⟨fun asks => ?_, hs₁.1.clean⟩, hs₁.2⟩
    have hsome : (classifyStop s stop).stepOver.isSome = true := asks
    rw [unasked] at hsome
    exact absurd hsome (by decide)
  exact .bind next fun _ => .ite (fun _ => .bind (enterLost_consuming _) fun _ => .pure _) fun _ =>
    .bind (updateStill_consuming (fun _ => Or.inr rfl) fun _ => rfl) fun _ =>
      captureSnapshot_consuming

theorem pollStop_consuming : Consuming A (IsTable []) pollStop :=
  .bind (backend_consuming (by simp)) fun _ => .ite (fun _ => enterLost_consuming _) fun _ =>
    .ite (fun _ => .bind (enterHalted_consuming _) fun _ => emitPendingStopped_consuming)
      fun _ => .pure _

/-! The shadow table. -/

theorem swBpRestoreOne_consuming (index : ℕ)
    (marks : ∀ table, P table → P (table.modify index SwBp.uninstall)) :
    Consuming A P (swBpRestoreOne index) := by
  apply getSession_consuming
  intro s _
  cases s.swTable[index]? with
  | none => exact .pure _
  | some entry =>
    exact .ite (fun _ => .pure _) fun _ => .bind (backend_consuming (by simp)) fun _ =>
      .ite (fun _ => .bind (updateTable_consuming (List.modify_nil _ _) marks) fun _ => .pure _)
        fun _ => .pure _

theorem swBpRestoreTurn_consuming (kept : Bool × ℕ) (index : ℕ) :
    Consuming A AnyTable (swBpRestoreTurn kept index) :=
  .bind (swBpRestoreOne_consuming index fun _ _ => trivial) fun _ => .ite (fun _ => .pure _)
    fun _ => .bind (updateTable_consuming (moveDown_nil _ _) fun _ _ => trivial) fun _ => .pure _

theorem swBpRestoreAll_consuming : Consuming A AnyTable swBpRestoreAll :=
  getSession_consuming fun _ _ => .bind (.foldFrom swBpRestoreTurn_consuming _ _ _) fun _ =>
    .bind (updateTable_consuming List.take_nil fun _ _ => trivial) fun _ => .pure _

theorem swBpRestoreAll_empties :
    swBpRestoreAll.wp s h fun ok s' _ => ok = true → s'.swTable = [] := by
  apply Action.wp_mono swBpRestoreAll_restored
  intro ok s' _ left
  obtain ⟨table, rfl, restored⟩ := left
  exact restored.empty

theorem rollbackRunConfig_consuming : Consuming A AnyTable rollbackRunConfig :=
  .bind swBpRestoreAll_consuming fun _ => .bind (backend_consuming (by simp)) fun _ =>
    .bind (backend_consuming (by simp)) fun _ => .bind (backend_consuming (by simp)) fun _ =>
      .bind (updateOther_consuming fun _ => rfl) fun _ => .pure _

theorem rollbackRunConfig_empties :
    rollbackRunConfig.wp s h fun ok s' _ => ok = true → s'.swTable = [] := by
  simp only [rollbackRunConfig, Action.wp_bind, backend_wp, updateSession_wp, Action.wp_pure]
  apply Action.wp_mono swBpRestoreAll_empties
  intro restored s₁ _ empties _ _ _ ok
  exact empties (of_decide_eq_true ok).2.2.2

/-- What a program that is `Consuming` leaves. -/
abbrev Spared (A : UInt64) (h : SessionHistory) (s' : Session) (h' : SessionHistory) : Prop :=
  (Consumed A s' ∧ AnyTable s'.swTable) ∧ ∃ evs, h' = h ++ evs ∧ ∀ ev ∈ evs, Elsewhere A ev.1

/-- As `Consuming`, from an empty table only. -/
def Ending (A : UInt64) (m : SessionM α) : Prop :=
  ∀ s h, Consumed A s ∧ IsTable [] s.swTable → m.wp s h fun _ s' h' => Spared A h s' h'

theorem Consuming.ending {m : SessionM α} (hm : Consuming A AnyTable m) : Ending A m :=
  fun s h hs => hm s h ⟨hs.1, trivial⟩

theorem Consuming.ending_of_empty {m : SessionM α} (hm : Consuming A (IsTable []) m) : Ending A m :=
  fun s h hs => Action.wp_mono (hm s h hs) fun _ _ _ done => ⟨⟨done.1.1, trivial⟩, done.2⟩

theorem Ending.bind {β : Type} {m : SessionM β} {f : β → SessionM α}
    (hm : Consuming A (IsTable []) m) (hf : ∀ b, Ending A (f b)) : Ending A (m >>= f) := by
  intro s h hs
  rw [Action.wp_bind]
  apply Action.wp_mono (hm s h hs)
  intro b s₁ evs first
  obtain ⟨hs₁, evs₁, he, elsewhere⟩ := first
  rw [he]
  apply Action.wp_mono (hf b s₁ (h ++ evs₁) hs₁)
  intro _ _ _ rest
  obtain ⟨hs₂, evs₂, he₂, elsewhere₂⟩ := rest
  refine ⟨hs₂, evs₁ ++ evs₂, by rw [he₂, List.append_assoc], fun ev hm => ?_⟩
  rcases List.mem_append.mp hm with hm | hm
  · exact elsewhere ev hm
  · exact elsewhere₂ ev hm

theorem Ending.ite {c : Prop} [Decidable c] {m m' : SessionM α} (hm : c → Ending A m)
    (hm' : ¬c → Ending A m') :
    Ending A (if c then m else m') := by
  split
  · rename_i yes
    exact hm yes
  · rename_i no
    exact hm' no

/-- What follows a clean-up finds an empty table if it succeeded. -/
theorem emptied_spared {cleanUp : SessionM Bool} {m : Bool → SessionM α}
    (hc : cleanUp.wp s h fun _ s' h' => Spared A h s' h')
    (empties : cleanUp.wp s h fun ok s' _ => ok = true → s'.swTable = [])
    (failed : Consuming A AnyTable (m false)) (done : Ending A (m true)) :
    (cleanUp >>= m).wp s h fun _ s' h' => Spared A h s' h' := by
  rw [Action.wp_bind]
  apply Action.wp_mono (Action.wp_and hc empties)
  intro ok s₁ evs cleaned
  obtain ⟨⟨kept, evs₁, he, elsewhere⟩, table⟩ := cleaned
  rw [he]
  cases ok with
  | false => exact failed.after kept elsewhere
  | true =>
    apply Action.wp_mono (done s₁ (h ++ evs₁) ⟨kept.1, table rfl⟩)
    intro _ _ _ rest
    obtain ⟨kept₂, evs₂, he₂, elsewhere₂⟩ := rest
    refine ⟨kept₂, evs₁ ++ evs₂, by rw [he₂, List.append_assoc], fun ev hm => ?_⟩
    rcases List.mem_append.mp hm with hm | hm
    · exact elsewhere ev hm
    · exact elsewhere₂ ev hm

theorem emptied_consuming {cleanUp : SessionM Bool} {m : Bool → SessionM α}
    (hc : Consuming A AnyTable cleanUp)
    (empties : ∀ s h, cleanUp.wp s h fun ok s' _ => ok = true → s'.swTable = [])
    (failed : Consuming A AnyTable (m false)) (done : Consuming A (IsTable []) (m true)) :
    Consuming A AnyTable (cleanUp >>= m) :=
  fun s h hs => emptied_spared (hc s h hs) (empties s h) failed done.ending_of_empty

theorem detachedState_consuming :
    Consuming A (IsTable []) (updateSession Session.detachedState) := by
  apply Action.Guarded.modify
  intro s hs
  exact ⟨⟨fun pending => absurd pending (by simp [Session.detachedState, Session.clearDebugState,
    Session.clearRunTracking]), fun _ => hs.2⟩, hs.2⟩

/-! Requests. -/

theorem opGetState_consuming (requestId : UInt32) (payload : List UInt8) :
    Consuming A P (opGetState requestId payload) :=
  .ite (fun _ => .bind (respond_consuming _ _ _) fun _ => .pure _) fun _ =>
    .bind (beginFrame_consuming _ _ _ _) fun _ => .ite (fun _ => .pure _) fun _ =>
      getSession_consuming fun _ _ => .bind (writePayload_consuming _ _) fun _ =>
        .bind finishFrame_consuming fun _ => .pure _

theorem opReadMemory_consuming (requestId : UInt32) (payload : List UInt8) :
    Consuming A P (opReadMemory requestId payload) := by
  apply getSession_consuming
  intro s _
  split
  · exact respond_consuming _ _ _
  · exact .bind (beginFrame_consuming _ _ _ _) fun _ => .ite (fun _ => .pure _) fun _ =>
      .bind (backend_consuming (by simp)) fun _ => .bind (writePayload_consuming _ _) fun _ =>
        .ite (fun _ => .bind (sendBackendFailure_consuming _ _ _ _) fun _ => .pure _) fun _ =>
          getSession_consuming fun _ _ => .bind (writePayload_consuming _ _) fun _ =>
            .bind (writePayload_consuming _ _) fun _ => .bind finishFrame_consuming fun _ => .pure _

theorem opWriteMemory_consuming (requestId : UInt32) (payload : List UInt8) :
    Consuming A AnyTable (opWriteMemory requestId payload) := by
  apply getSession_consuming
  intro s _
  split
  · exact respond_consuming _ _ _
  · exact .bind (updateOther_consuming fun _ => rfl) fun _ => .bind (backend_consuming (by simp))
      fun _ => .ite (fun _ => .bind (sendBackendFailure_consuming _ _ _ _) fun _ => .pure _)
        fun _ => .bind (updateTable_consuming rfl fun _ _ => trivial) fun _ =>
          respond_consuming _ _ _

theorem opReadRegisters_consuming (requestId : UInt32) (payload : List UInt8) :
    Consuming A P (opReadRegisters requestId payload) := by
  apply getSession_consuming
  intro s _
  split
  · exact respond_consuming _ _ _
  · exact .bind (beginFrame_consuming _ _ _ _) fun _ =>
      .ite (fun _ => .bind (respond_consuming _ _ _) fun _ => .pure _) fun _ =>
        .bind (backend_consuming (by simp)) fun _ => .bind (writePayload_consuming _ _) fun _ =>
          .ite (fun _ => .bind (sendBackendFailure_consuming _ _ _ _) fun _ => .pure _) fun _ =>
            .ite (fun _ => .bind (respond_consuming _ _ _) fun _ => .pure _) fun _ =>
              .bind (updateOther_consuming fun _ => rfl) fun _ => getSession_consuming fun _ _ =>
                .bind (writePayload_consuming _ _) fun _ => .bind finishFrame_consuming
                  fun _ => .pure _

/-- A request may write any PC itself, and may drop the step-over. -/
theorem opWriteRegisters_consumed (hc : Consumed A s) :
    (opWriteRegisters requestId payload).wp s h fun _ s' _ => Consumed A s' := by
  have cancelled (data : List UInt8) (count : ℕ) :
      Consumed A (updateStepOverAfterRegisterWrite data count s) := by
    rcases updateStepOver_cases data count s with same | cancelled
    · rw [same]
      exact hc
    · rw [cancelled]
      exact ⟨fun pending => absurd pending (by simp), hc.clean⟩
  have kept {s₁ : Session} {h₁ : SessionHistory} {m : SessionM Unit} (hm : Consuming A AnyTable m)
      (hc₁ : Consumed A s₁) : m.wp s₁ h₁ fun _ s' _ => Consumed A s' :=
    Action.wp_mono (hm s₁ h₁ ⟨hc₁, trivial⟩) fun _ _ _ done => done.1.1
  simp only [opWriteRegisters, Action.wp_bind, getSession_wp]
  cases checkWriteRegisters s payload with
  | error status => exact kept (respond_consuming _ _ _) hc
  | ok req =>
    simp only [Action.wp_bind, backend_wp, Action.wp_ite, Action.wp_pure, updateSession_wp]
    intro a
    exact ⟨fun _ => kept (sendBackendFailure_consuming _ _ _ _) hc, fun _ =>
      kept (respond_consuming _ _ _) (cancelled _ _)⟩

theorem releaseTarget_consuming (action : UInt8) :
    Consuming A AnyTable (releaseTarget requestId action) := by
  have refuse {Q : List SwBp → Prop} :
      Consuming A Q (do respond Opcode.detach requestId .swdError; return) :=
    .bind (respond_consuming _ _ _) fun _ => .pure _
  apply emptied_consuming swBpRestoreAll_consuming fun _ _ => swBpRestoreAll_empties
  · exact refuse
  · exact .bind (backend_consuming (by simp)) fun _ => .ite (fun _ => refuse) fun _ =>
      .bind (respond_consuming _ _ _) fun _ => detachedState_consuming

theorem haltForDetach_consuming : Consuming A AnyTable (haltForDetach requestId) := by
  apply getSession_consuming
  intro s hs
  apply Action.Guarded.ite (fun _ => .pure _)
  intro running
  apply Action.Guarded.bind (backend_consuming (by simp))
  intro a
  apply Action.Guarded.ite (fun _ => .bind (sendBackendFailure_consuming _ _ _ _) fun _ => .pure _)
  intro _
  cases found : softwareHit s.swTable a.stop with
  | none => exact .pure _
  | some bp =>
    have hm := softwareHit_mem found
    rw [hs.1.clean (Or.inl (not_not.mp running))] at hm
    exact absurd hm List.not_mem_nil

/-- DETACH leaves the PC at a breakpoint that is still to be stepped over, and no other. -/
theorem opDetach_consuming (requestId : UInt32) (payload : List UInt8) :
    Consuming A AnyTable (opDetach requestId payload) := by
  have refuse : Consuming A AnyTable (do respond Opcode.detach requestId .swdError; return) :=
    .bind (respond_consuming _ _ _) fun _ => .pure _
  have write {s : Session} (hc : Consumed A s) (pending : s.swStepOverPending = true) :
      Consuming A AnyTable (writeCurrentPc s.swStepOverAddress.toUInt32) := by
    refine .bind (.ask fun _ _ bytes same => ?_) fun _ => .pure _
    cases same
    exact ⟨_, hc.elsewhere pending, rfl⟩
  rw [opDetach]
  split
  · exact respond_consuming _ _ _
  · exact .bind haltForDetach_consuming fun _ => .ite (fun _ => .pure _) fun _ =>
      getSession_consuming fun _ hs => .ite (fun pending => .bind (write hs.1 pending) fun _ =>
        .ite (fun _ => refuse) fun _ => releaseTarget_consuming _) fun _ =>
          releaseTarget_consuming _

theorem handleDisconnect_consuming : Consuming A AnyTable handleDisconnect := by
  have lose {Q : List SwBp → Prop} :
      Consuming A Q (do updateSession fun s => { s with state := .lost }; return false) :=
    .bind (updateStill_consuming (fun _ => Or.inl rfl) fun _ => rfl) fun _ => .pure _
  refine .bind (updateOther_consuming fun _ => rfl) fun _ => getSession_consuming
    fun _ _ => .ite (fun _ => .pure _) fun _ => .bind (backend_consuming (by simp))
      fun _ => .ite (fun _ => lose) fun _ => emptied_consuming swBpRestoreAll_consuming
        (fun _ _ => swBpRestoreAll_empties) lose ?_
  exact .bind (backend_consuming (by simp)) fun _ => .ite (fun _ => lose) fun _ =>
    .bind detachedState_consuming fun _ => .pure _

/-! Attaching, and what halts the target. -/

/-- The target runs, and may be halted by a breakpoint only if one is in the table. -/
theorem running_consuming :
    Consuming A (IsTable []) (updateSession fun s => { s with state := .running }) :=
  .modify fun _ hs => ⟨⟨hs.1.elsewhere, fun _ => hs.2⟩, hs.2⟩

theorem haltAfterAttach_consuming : Consuming A (IsTable []) haltAfterAttach := by
  refine .bind (backend_consuming (by simp)) fun polled =>
    .ite (fun _ => .bind (enterLost_consuming _) fun _ => .pure _) fun _ => ?_
  refine .ite (fun _ => .bind (enterHalted_consuming _) fun _ => emitPendingStopped_consuming)
    fun _ => .bind (backend_consuming (by simp)) fun _ => ?_
  exact .ite (fun _ => .bind (enterHalted_consuming _) fun _ => emitPendingStopped_consuming)
    fun _ => .ite (fun _ => .bind (enterLost_consuming _) fun _ => .pure _)
      fun _ => .bind running_consuming fun _ => .pure _

/-- An attach starts with an empty table. -/
theorem attachedWith_ending {m : SessionM α} (info : AttachInfo) (hm : Ending A m) :
    Consuming A AnyTable (updateSession (·.attachedWith info) >>= fun _ => m) := by
  intro s h _
  exact hm _ h
    ⟨⟨fun pending => absurd pending (by simp [Session.attachedWith, Session.clearDebugState,
    Session.clearRunTracking]), fun _ => rfl⟩, rfl⟩

theorem opAttach_consuming (requestId : UInt32) (payload : List UInt8) :
    Consuming A AnyTable (opAttach requestId payload) := by
  have giveUp : Consuming A AnyTable (do
      respond Opcode.attach requestId .error
      let _ ← handleDisconnect
      return) :=
    .bind (respond_consuming _ _ _) fun _ => .bind handleDisconnect_consuming fun _ => .pure _
  refine getSession_consuming fun _ _ => .ite (fun _ => .bind (respond_consuming _ _ _)
    fun _ => .pure _) fun _ => .ite (fun _ => .bind (respond_consuming _ _ _) fun _ => .pure _)
      fun _ => .bind (backend_consuming (by simp))
      fun answer => .ite (fun _ => .bind (sendBackendFailure_consuming _ _ _ _) fun _ => .pure _)
        fun _ => ?_
  apply attachedWith_ending
  refine .ite (fun _ => giveUp.ending) fun _ => .bind (updateOther_consuming fun _ => rfl) fun _ =>
    .bind (beginFrame_consuming _ _ _ _) fun _ => .ite (fun _ => giveUp.ending) fun _ => ?_
  apply Consuming.ending_of_empty
  exact .bind (writePayload_consuming _ _) fun _ => .bind (writePayload_consuming _ _) fun _ =>
    .bind finishFrame_consuming fun _ => .ite (fun _ => .pure _) fun _ =>
      .ite (fun _ => haltAfterAttach_consuming) fun _ => running_consuming

theorem handlePoll_consuming : Consuming A AnyTable handlePoll := by
  intro s h hs
  simp only [handlePoll, Action.wp_bind, getSession_wp, Action.wp_ite, Action.wp_pure]
  constructor
  · exact fun _ => ⟨hs, [], (List.append_nil h).symm, fun _ hm => absurd hm List.not_mem_nil⟩
  · intro polls
    have running : s.state = .running := by
      by_contra idle
      exact polls (Or.inr (Or.inl idle))
    exact pollStop_consuming.ending_of_empty s h ⟨hs.1, hs.1.clean (Or.inl running)⟩

/-- A halted target stays as it is, a running one has no breakpoint left. -/
theorem Consumed.empty_of_live (hc : Consumed A s) (live : s.state = .running ∨ s.state = .halted)
    (unhalted : s.state ≠ .halted) : s.swTable = [] :=
  hc.clean (Or.inl (live.resolve_right unhalted))

theorem opHalt_spared (hc : Consumed A s) (live : s.state = .running ∨ s.state = .halted) :
    (opHalt requestId payload).wp s h fun _ s' h' => Spared A h s' h' := by
  have halt : Consuming A (IsTable []) (do
      let answer ← backend (.halt haltTimeoutMs)
      if answer.code ≠ .ok then
        sendBackendFailure Opcode.halt requestId answer.code .timeout
        return
      enterHalted answer.stop
      respond Opcode.halt requestId .ok
      emitPendingStopped) :=
    .bind (backend_consuming (by simp)) fun _ =>
      .ite (fun _ => .bind (sendBackendFailure_consuming _ _ _ _) fun _ => .pure _) fun _ =>
        .bind (enterHalted_consuming _) fun _ => .bind (respond_consuming _ _ _) fun _ =>
          emitPendingStopped_consuming
  have answer {Q : List SwBp → Prop} (status : Status) :
      Consuming A Q (do respond Opcode.halt requestId status; return) :=
    .bind (respond_consuming _ _ _) fun _ => .pure _
  have again :
      Consuming A AnyTable (do respond Opcode.halt requestId .ok; emitPendingStopped; return) :=
    .bind (respond_consuming _ _ _) fun _ => .bind emitPendingStopped_consuming fun _ => .pure _
  rw [opHalt, Action.wp_ite]
  refine ⟨fun _ => answer _ s h ⟨hc, trivial⟩, fun _ => ?_⟩
  rw [Action.wp_bind, getSession_wp, Action.wp_ite]
  refine ⟨fun _ => answer _ s h ⟨hc, trivial⟩, fun unreported => ?_⟩
  rw [Action.wp_ite]
  refine ⟨fun _ => again s h ⟨hc, trivial⟩, fun reported => ?_⟩
  have unhalted : s.state ≠ .halted := by
    intro halted
    cases told : s.stopReported with
    | true => exact unreported ⟨halted, told⟩
    | false => exact reported ⟨halted, by simp [told]⟩
  exact halt.ending_of_empty s h ⟨hc, hc.empty_of_live live unhalted⟩

theorem prepareReset_spared (opcode : UInt16) (hc : Consumed A s)
    (live : s.state = .running ∨ s.state = .halted) :
    (prepareReset opcode requestId).wp s h fun _ s' h' => Spared A h s' h' := by
  have clear : Consuming A AnyTable (do
      if !(← rollbackRunConfig) then
        respond opcode requestId .swdError
        enterLost .swdFault
        return false
      return true) :=
    .bind rollbackRunConfig_consuming fun _ => .ite (fun _ => .bind (respond_consuming _ _ _)
      fun _ => .bind (enterLost_consuming _) fun _ => .pure _) fun _ => .pure _
  rw [prepareReset, Action.wp_bind, getSession_wp, Action.wp_ite]
  refine ⟨fun unhalted => ?_, fun _ => clear s h ⟨hc, trivial⟩⟩
  have halt : Ending A (do
      let answer ← backend (.halt haltTimeoutMs)
      if answer.code ≠ .ok ∨ !answer.stop.halted then
        sendBackendFailure opcode requestId (if answer.code = .ok then .timeout else
          answer.code) .timeout
        return false
      enterHalted answer.stop
      if !(← rollbackRunConfig) then
        respond opcode requestId .swdError
        enterLost .swdFault
        return false
      return true) := by
    refine .bind (backend_consuming (by simp)) fun _ => .ite (fun _ => ?_) fun _ =>
      .bind (enterHalted_consuming _) fun _ => clear.ending
    exact Consuming.ending (.bind (sendBackendFailure_consuming _ _ _ _) fun _ => .pure _)
  exact halt s h ⟨hc, hc.empty_of_live live unhalted⟩

/-- What comes before a reset takes every breakpoint out, or fails. -/
theorem prepareReset_empties (opcode : UInt16) :
    (prepareReset opcode requestId).wp s h fun ok s' _ => ok = true → s'.swTable = [] := by
  have clear (s₁ : Session) (h₁ : SessionHistory) : (do
      if !(← rollbackRunConfig) then
        respond opcode requestId .swdError
        enterLost .swdFault
        return false
      return true : SessionM Bool).wp s₁ h₁ fun ok s' _ => ok = true → s'.swTable = [] := by
    simp only [Action.wp_bind, Action.wp_ite, Action.wp_pure]
    apply Action.wp_mono rollbackRunConfig_empties
    intro ok s₂ _ empties
    refine ⟨fun _ => ?_, fun hok _ => empties (by simpa using hok)⟩
    exact Action.wp_from fun _ _ _ => Action.wp_from fun _ _ _ hf => absurd hf (by decide)
  rw [prepareReset, Action.wp_bind, getSession_wp, Action.wp_ite]
  refine ⟨fun _ => ?_, fun _ => clear s h⟩
  rw [Action.wp_bind, backend_wp]
  intro a
  rw [Action.wp_ite]
  constructor
  · intro _
    rw [Action.wp_bind]
    exact Action.wp_from fun _ _ _ hf => absurd hf Bool.false_ne_true
  · intro _
    rw [Action.wp_bind]
    exact Action.wp_from fun _ s₁ _ => clear s₁ _

theorem resetFailed_consuming (opcode : UInt16) (result : EspErr) :
    Consuming A P (resetFailed opcode requestId result) :=
  .bind (respond_consuming _ _ _) fun _ => enterLost_consuming _

theorem clearedRun_consuming :
    Consuming A (IsTable []) (updateSession fun s => s.clearDebugState.clearRunTracking) := by
  apply Action.Guarded.modify
  intro s hs
  exact ⟨⟨fun pending => absurd pending (by simp [Session.clearDebugState,
    Session.clearRunTracking]), fun _ => hs.2⟩, hs.2⟩

theorem opResetHalt_spared (hc : Consumed A s) (live : s.state = .running ∨ s.state = .halted) :
    (opResetHalt requestId payload).wp s h fun _ s' h' => Spared A h s' h' := by
  rw [opResetHalt, Action.wp_bind, getSession_wp]
  cases checkReset s Cap.resetHalt payload with
  | error status => exact respond_consuming _ _ _ s h ⟨hc, trivial⟩
  | ok kind =>
    apply emptied_spared (prepareReset_spared _ hc live) (prepareReset_empties _)
    · exact .pure _
    · apply Consuming.ending_of_empty
      exact .bind (backend_consuming (by simp)) fun _ =>
        .ite (fun _ => .bind (resetFailed_consuming _ _) fun _ => .pure _)
          fun _ => .bind clearedRun_consuming fun _ => .bind (enterHalted_consuming _)
            fun _ => .bind (updateOther_consuming fun _ => rfl) fun _ =>
              .bind (respond_consuming _ _ _) fun _ => emitPendingStopped_consuming

theorem opResetRun_spared (hc : Consumed A s) (live : s.state = .running ∨ s.state = .halted) :
    (opResetRun requestId payload).wp s h fun _ s' h' => Spared A h s' h' := by
  rw [opResetRun, Action.wp_bind, getSession_wp]
  cases checkReset s Cap.resetRun payload with
  | error status => exact respond_consuming _ _ _ s h ⟨hc, trivial⟩
  | ok kind =>
    have runs : Consuming A (IsTable [])
        (updateSession fun s => { s.clearDebugState.clearRunTracking with state := .running }) :=
      .modify fun _ hs => ⟨⟨fun pending => absurd pending (by simp [Session.clearDebugState,
        Session.clearRunTracking]), fun _ => hs.2⟩, hs.2⟩
    apply emptied_spared (prepareReset_spared _ hc live) (prepareReset_empties _)
    · exact .pure _
    · apply Consuming.ending_of_empty
      exact .bind (backend_consuming (by simp)) fun _ =>
        .ite (fun _ => .bind (resetFailed_consuming _ _) fun _ => .pure _) fun _ => .bind runs
          fun _ => respond_consuming _ _ _

/-! RUN. -/

/-- Until the target is resumed after `h₀`, the PC is not written back to the address. -/
def WritesElsewhere (A : UInt64) (h₀ : SessionHistory) (s : Session) (h : SessionHistory)
    (c : Call) : Prop :=
  h₀ <+: h → resumeCount h = resumeCount h₀ → Elsewhere A (.call s c)

/-- `Consumed` until the target is resumed after `h₀`. -/
structure Spent (A : UInt64) (h₀ : SessionHistory) (s : Session) (h : SessionHistory) : Prop where
  left : resumeCount h = resumeCount h₀ → Consumed A s
  spares : EveryCall (WritesElsewhere A h₀) h

variable {h₀ : SessionHistory}

theorem writesElsewhere_start (A : UInt64) (h₀ : SessionHistory) :
    EveryCall (WritesElsewhere A h₀) h₀ := by
  intro h s c a h' he later
  have length := later.length_le
  rw [he, List.length_append, List.length_cons] at length
  omega

theorem EveryCall.append_of {E : Session → SessionHistory → Call → Prop} (every : EveryCall E h)
    (hE : ∀ e₁ s c a, (⟨.call s c, a⟩ : SessionEvent) ∈ evs → E s (h ++ e₁) c) :
    EveryCall E (h ++ evs) := by
  induction evs using List.reverseRecOn with
  | nil => rwa [List.append_nil]
  | append_singleton evs ev ih =>
    rw [← List.append_assoc]
    apply EveryCall.concat (ih fun e₁ s c a hm => hE e₁ s c a (List.mem_append_left _ hm))
    rintro s c a rfl
    exact hE evs s c a (by simp)

theorem EveryCall.elsewhere (every : EveryCall (WritesElsewhere A h₀) h)
    (elsewhere : ∀ ev ∈ evs, Elsewhere A ev.1) :
    EveryCall (WritesElsewhere A h₀) (h ++ evs) :=
  every.append_of fun _ _ _ _ hm _ _ => elsewhere _ hm

theorem Spared.spent (kept : Spared A h s' h') (every : EveryCall (WritesElsewhere A h₀) h) :
    Spent A h₀ s' h' := by
  obtain ⟨⟨consumed, -⟩, evs, rfl, elsewhere⟩ := kept
  exact ⟨fun _ => consumed, every.elsewhere elsewhere⟩

/-- Once the target has been resumed nothing is said of what comes. -/
theorem spent_of_resumed (every : EveryCall (WritesElsewhere A h₀) h)
    (resumed : resumeCount h₀ < resumeCount h) :
    Spent A h₀ s' (h ++ evs) := by
  constructor
  · intro same
    rw [resumeCount_append] at same
    omega
  · apply every.append_of
    intro e₁ _ _ _ _ _ same
    rw [resumeCount_append] at same
    omega

theorem resumed_spends {m : Answer → SessionM α} {action : UInt8} {address : UInt64}
    (every : EveryCall (WritesElsewhere A h₀) h) (later : resumeCount h₀ ≤ resumeCount h) :
    (backend (.resume action address) >>= m).wp s h fun _ s' h' =>
      Spent A h₀ s' h' ∧ resumeCount h₀ < resumeCount h' := by
  rw [Action.wp_bind, backend_wp]
  intro a
  have asked : EveryCall (WritesElsewhere A h₀) (h ++ [⟨.call s (.resume action address), a⟩]) :=
    every.call fun _ _ bytes same => absurd same (by simp)
  have more : resumeCount h₀ < resumeCount (h ++ [⟨.call s (.resume action address), a⟩]) := by
    rw [resumeCount_append]
    show resumeCount h₀ < resumeCount h + 1
    omega
  apply Action.wp_from
  intro _ s' evs
  refine ⟨spent_of_resumed asked more, ?_⟩
  rw [resumeCount_append]
  omega

/-- A program that does not write the PC to the address. -/
abbrev Sparing (A : UInt64) (m : SessionM α) : Prop := m.Guarded (fun _ => True) (Elsewhere A)

theorem backend_sparing {c : Call} (hc : ∀ bytes, c ≠ .writeRegs bytes) : Sparing A (backend c) :=
  .ask fun _ _ bytes same => absurd same (hc bytes)

theorem getSession_sparing {f : Session → SessionM α} (hf : ∀ s, Sparing A (f s)) :
    Sparing A (getSession >>= f) :=
  .get_bind fun s _ => hf s

theorem updateSession_sparing (f : Session → Session) :
    Sparing A (updateSession f) := .modify fun _ _ => trivial

theorem swBpInstallOne_sparing (index : ℕ) : Sparing A (swBpInstallOne index) := by
  apply Action.Guarded.bind (updateSession_sparing _)
  intro _
  apply getSession_sparing
  intro s
  cases s.swTable[index]? with
  | none => exact .pure _
  | some entry => exact .bind (backend_sparing (by simp)) fun _ => .pure _

theorem swBpRestoreOne_sparing (index : ℕ) : Sparing A (swBpRestoreOne index) := by
  apply getSession_sparing
  intro s
  cases s.swTable[index]? with
  | none => exact .pure _
  | some entry =>
    exact .ite (fun _ => .pure _) fun _ => .bind (backend_sparing (by simp)) fun _ =>
      .ite (fun _ => .bind (updateSession_sparing _) fun _ => .pure _) fun _ => .pure _

theorem swBpRestoreAll_sparing : Sparing A swBpRestoreAll := by
  have turn (kept : Bool × ℕ) (index : ℕ) : Sparing A (swBpRestoreTurn kept index) :=
    .bind (swBpRestoreOne_sparing index) fun _ => .ite (fun _ => .pure _) fun _ =>
      .bind (updateSession_sparing _) fun _ => .pure _
  exact getSession_sparing fun _ => .bind (.foldFrom turn _ _ _) fun _ =>
    .bind (updateSession_sparing _) fun _ => .pure _

theorem swBpApply_sparing (entries : List BpEntry) : Sparing A (swBpApply entries) := by
  have undo (status : Status) : Sparing A (do let _ ← swBpRestoreAll; return status) :=
    .bind swBpRestoreAll_sparing fun _ => .pure _
  have record (entries : List BpEntry) : Sparing A (swBpRecord entries) := by
    induction entries with
    | nil => exact .pure _
    | cons entry entries ih =>
      exact getSession_sparing fun _ => .ite (fun _ => undo _) fun _ => .ite (fun _ => undo _)
        fun _ => .bind (backend_sparing (by simp)) fun _ => .ite (fun _ => undo _)
          fun _ => .ite (fun _ => undo _) fun _ => .bind (updateSession_sparing _) fun _ => ih
  have install (n index : ℕ) : Sparing A (swBpInstallFrom index n) := by
    induction n generalizing index with
    | zero => exact .pure _
    | succ n ih =>
      exact .bind (swBpInstallOne_sparing index) fun _ => .ite (fun _ => undo _)
        fun _ => ih (index + 1)
  exact .bind swBpRestoreAll_sparing fun _ => .ite (fun _ => .pure _) fun _ =>
    .bind (record entries) fun _ => .ite (fun _ => .pure _) fun _ =>
    getSession_sparing fun _ => install _ _

theorem installRun_sparing (plan : RunPlan) : Sparing A (installRun plan) :=
  .bind (swBpApply_sparing _) fun _ => .ite (fun _ => .pure _) fun _ =>
    .bind (backend_sparing (by simp)) fun _ => .ite (fun _ => .pure _) fun _ =>
    .bind (updateSession_sparing _) fun _ => .bind (backend_sparing (by simp)) fun _ =>
      .ite (fun _ => .pure _) fun _ => .bind (backend_sparing (by simp)) fun _ =>
        .ite (fun _ => .pure _) fun _ => .pure _

/-- In a halted session only the pending step-over counts. -/
theorem Consumed.of_halted (hc : Consumed A s)
    (pending : s'.swStepOverPending = s.swStepOverPending)
    (address : s'.swStepOverAddress = s.swStepOverAddress) (halted : s'.state = .halted) :
    Consumed A s' := by
  constructor
  · rw [pending, address]
    exact hc.elsewhere
  · rw [halted]
    exact fun runs => absurd runs (by decide)

theorem swBpRestoreFound_sparing (bp : Option ℕ) : Sparing A (swBpRestoreFound bp) := by
  cases bp with
  | none => exact .pure _
  | some index => exact swBpRestoreOne_sparing index

theorem swBpInstallFound_sparing (bp : Option ℕ) : Sparing A (swBpInstallFound bp) := by
  cases bp with
  | none => exact .pure _
  | some index => exact swBpInstallOne_sparing index

/-- What a quiet program leaves of a halted session. -/
theorem Sparing.quiet {m : SessionM α} (hm : Sparing A m) (quiet : m.wp s h fun _ => Quiet s h)
    (hc : Consumed A s) (halted : s.state = .halted) :
    m.wp s h fun _ s' h' => Spared A h s' h' ∧ s'.state = .halted ∧
      s'.swStepOverAddress = s.swStepOverAddress := by
  apply Action.wp_mono (Action.wp_and (hm s h trivial) quiet)
  intro _ s' _ done
  obtain ⟨⟨-, elsewhere⟩, quiet⟩ := done
  have fields : s'.swStepOverPending = s.swStepOverPending ∧
      s'.swStepOverAddress = s.swStepOverAddress ∧ s'.state = s.state := by
    rw [quiet.session]
    exact ⟨rfl, rfl, rfl⟩
  obtain ⟨pending, address, state⟩ := fields
  exact ⟨⟨⟨hc.of_halted pending address (state.trans halted), trivial⟩, elsewhere⟩,
    state.trans halted, address⟩

theorem Spared.later (kept : Spared A h s' h') : resumeCount h ≤ resumeCount h' := by
  obtain ⟨-, evs, rfl, -⟩ := kept
  rw [resumeCount_append]
  omega

/-- The internal step may put the PC to another address, and then resumes the target. -/
theorem executeStepOver_spent (action : UInt8) (hc : Consumed A s) (halted : s.state = .halted)
    (every : EveryCall (WritesElsewhere A h₀) h) (later : resumeCount h₀ ≤ resumeCount h) :
    (executeStepOver action).wp s h fun outcome s' h' => Spent A h₀ s' h' ∧
      (Consumed A s' ∧ (outcome = .notNeeded ∨ outcome = .failed) ∧
        resumeCount h₀ ≤ resumeCount h' ∨ resumeCount h₀ < resumeCount h') := by
  rw [executeStepOver, Action.wp_bind, getSession_wp, Action.wp_ite]
  refine ⟨fun _ => ⟨⟨fun _ => hc, every⟩, Or.inl ⟨hc, Or.inl rfl, later⟩⟩, fun asks => ?_⟩
  have pending : s.swStepOverPending = true := by simpa using asks
  generalize swBpFindByAddress s.swTable s.swStepOverAddress = bp
  rw [Action.wp_bind]
  apply Action.wp_mono ((swBpRestoreFound_sparing bp).quiet (swBpRestoreFound_quiet bp) hc halted)
  intro ok s₁ evs₁ restored
  obtain ⟨kept₁, halted₁, -⟩ := restored
  have spent₁ := kept₁.spent every
  have later₁ := later.trans kept₁.later
  have failed {s₂ : Session} {h₂ : SessionHistory} (spent : Spent A h₀ s₂ h₂)
      (consumed : Consumed A s₂)
      (later₂ : resumeCount h₀ ≤ resumeCount h₂) : Spent A h₀ s₂ h₂ ∧
      (Consumed A s₂ ∧ (StepOver.failed = .notNeeded ∨ StepOver.failed = .failed) ∧
        resumeCount h₀ ≤ resumeCount h₂ ∨ resumeCount h₀ < resumeCount h₂) :=
    ⟨spent, Or.inl ⟨consumed, Or.inr rfl, later₂⟩⟩
  rw [Action.wp_ite]
  refine ⟨fun _ => failed spent₁ kept₁.1.1 later₁, fun _ => ?_⟩
  simp only [writeCurrentPc, Action.wp_bind, backend_wp, Action.wp_pure]
  intro a
  have every₂ : EveryCall (WritesElsewhere A h₀) (h ++ evs₁ ++ [⟨.call s₁
      (.writeRegs (pcEntryBytes s.swStepOverAddress.toUInt32)), a⟩]) := by
    apply spent₁.spares.call
    intro _ _ bytes same
    cases same
    exact ⟨_, hc.elsewhere pending, rfl⟩
  have later₂ : resumeCount h₀ ≤ resumeCount (h ++ evs₁ ++ [⟨.call s₁
      (.writeRegs (pcEntryBytes s.swStepOverAddress.toUInt32)), a⟩]) := by
    rw [resumeCount_append]
    exact later₁.trans (Nat.le_add_right _ _)
  rw [Action.wp_ite]
  constructor
  · intro _
    rw [Action.wp_bind]
    apply Action.wp_mono ((swBpInstallFound_sparing bp).quiet (swBpInstallFound_quiet bp)
      kept₁.1.1 halted₁)
    intro _ s₃ _ again
    exact failed (again.1.spent every₂) again.1.1.1 (later₂.trans again.1.later)
  · intro _
    apply Action.wp_mono (resumed_spends every₂ later₂)
    intro _ _ _ resumed
    exact ⟨resumed.1, Or.inr resumed.2⟩

/-- RUN puts the PC to the address of no breakpoint that was stepped over before. -/
theorem opRun_spent (hc : Consumed A s) (halted : s.state = .halted) :
    (opRun requestId payload).wp s h fun _ s' h' => Spent A h s' h' := by
  have every := writesElsewhere_start A h
  rw [opRun, Action.wp_bind, getSession_wp]
  cases checkRun s payload with
  | error status =>
    apply Action.wp_mono (respond_consuming (P := AnyTable) _ _ _ s h ⟨hc, trivial⟩)
    intro _ _ _ answered
    exact Spared.spent answered every
  | ok plan =>
    simp only
    rw [Action.wp_bind]
    apply Action.wp_mono (Action.wp_and (installRun_sparing plan s h trivial)
      (installRun_quiet plan))
    intro failure s₁ evs installed
    obtain ⟨⟨-, elsewhere⟩, -, same⟩ := installed
    have fields : s₁.swStepOverPending = s.swStepOverPending ∧
        s₁.swStepOverAddress = s.swStepOverAddress ∧ s₁.state = s.state := by
      rw [same]
      exact ⟨rfl, rfl, rfl⟩
    have halted₁ := fields.2.2.trans halted
    have kept₁ : Spared A h s₁ (h ++ evs) :=
      ⟨⟨hc.of_halted fields.1 fields.2.1 halted₁, trivial⟩, elsewhere⟩
    have every₁ := (kept₁.spent every).spares
    -- what follows without a resume
    have rest {m : SessionM Unit} {s₂ : Session} {h₂ : SessionHistory} (hm : Consuming A AnyTable m)
        (hc₂ : Consumed A s₂) (every₂ : EveryCall (WritesElsewhere A h) h₂) :
        m.wp s₂ h₂ fun _ s' h' => Spent A h s' h' := by
      apply Action.wp_mono (hm s₂ h₂ ⟨hc₂, trivial⟩)
      intro _ _ _ done
      exact Spared.spent done every₂
    cases failure with
    | some status =>
      exact rest (.bind rollbackRunConfig_consuming fun _ => .bind (respond_consuming _ _ _)
        fun _ => .ite (fun _ => enterLost_consuming _) fun _ => .pure _) kept₁.1.1 every₁
    | none =>
      simp only
      rw [Action.wp_bind]
      apply Action.wp_mono (executeStepOver_spent plan.request.action kept₁.1.1 halted₁
        every₁ kept₁.later)
      intro outcome s₂ evs₂ stepped
      obtain ⟨spent, ⟨consumed, unresumed, later⟩ | resumed⟩ := stepped
      · rcases unresumed with rfl | rfl
        · apply Action.wp_mono (resumed_spends spent.spares later)
          intro _ _ _ done
          exact done.1
        · exact rest (.bind rollbackRunConfig_consuming fun _ => .ite
            (fun _ => respond_consuming _ _ _) fun _ => .bind (respond_consuming _ _ _) fun _ =>
            enterLost_consuming _) consumed spent.spares
      · apply Action.wp_from
        intro _ s' evs₃
        exact spent_of_resumed spent.spares resumed

/-! Any input. -/

/-- No input makes a step-over at the address pending again without a resume. -/
theorem handle_consumed (hc : Consumed A s) (i : Input) :
    (handle i).wp s h fun _ s' h' => resumeCount h' = resumeCount h → Consumed A s' := by
  have kept {β : Type} {m : SessionM β} (hm : m.wp s h fun _ s' h' => Spared A h s' h') :
      m.wp s h fun _ s' h' => resumeCount h' = resumeCount h → Consumed A s' := by
    apply Action.wp_mono hm
    intro _ _ _ done _
    exact done.1.1
  have keeps {β : Type} {m : SessionM β} (hm : Consuming A AnyTable m) :
      m.wp s h fun _ s' h' => resumeCount h' = resumeCount h → Consumed A s' :=
        kept (hm s h ⟨hc, trivial⟩)
  cases i with
  | poll => exact keeps (.bind handlePoll_consuming fun _ => .pure _)
  | disconnect => exact keeps handleDisconnect_consuming
  | request message =>
    simp only [handle, Action.wp_bind, Action.wp_pure]
    cases hop : requestOp (MsgHeader.parse message).opcode with
    | none =>
      apply keeps
      simp only [handleRequest, hop]
      exact getSession_consuming fun _ _ => .ite (fun _ => .pure _) fun _ => .ite (fun _ => .pure _)
        fun _ => .ite (fun _ => .pure _) fun _ => respond_consuming _ _ _
    | some op =>
      apply handleRequest_op hop
      · exact fun _ _ => hc
      · exact fun _ _ _ _ _ => keeps (respond_consuming _ _ _)
      intro _ _ gate
      -- what can stop or resume the target passes its gate on a live one
      have live (halts : op = .halt ∨ op = .resetHalt ∨ op = .resetRun ∨ op = .run) :
          s.state = .running ∨ s.state = .halted := by
        cases state : s.state with
        | running => exact Or.inl rfl
        | halted => exact Or.inr rfl
        | detached | lost =>
          rw [state] at gate
          rcases halts with rfl | rfl | rfl | rfl <;>
            exact absurd gate (by simp [gateTable, gateColumn, GateType.refusal])
      cases op with
      | attach => exact keeps (opAttach_consuming _ _)
      | detach => exact keeps (opDetach_consuming _ _)
      | getState => exact keeps (opGetState_consuming _ _)
      | readMemory => exact keeps (opReadMemory_consuming _ _)
      | writeMemory => exact keeps (opWriteMemory_consuming _ _)
      | readRegisters => exact keeps (opReadRegisters_consuming _ _)
      | writeRegisters =>
        apply Action.wp_mono (opWriteRegisters_consumed hc)
        intro _ _ _ consumed _
        exact consumed
      | run =>
        have halted : s.state = .halted := by
          rcases live (by simp) with running | halted
          · rw [running] at gate
            exact absurd gate (by simp [gateTable, gateColumn, GateType.refusal])
          · exact halted
        apply Action.wp_mono (opRun_spent hc halted)
        intro _ _ _ spent
        exact spent.left
      | halt => exact kept (opHalt_spared hc (live (by simp)))
      | resetHalt => exact kept (opResetHalt_spared hc (live (by simp)))
      | resetRun => exact kept (opResetRun_spared hc (live (by simp)))

/-- A RUN or a DETACH writes the PC back to the address only after a resume. -/
theorem handle_writes_elsewhere (hc : Consumed A s) {message : List UInt8} {op : RequestOp}
    (hop : requestOp (MsgHeader.parse message).opcode = some op)
    (leaves : op = .run ∨ op = .detach) :
    (handle (.request message)).wp s h fun _ _ h' => EveryCall (WritesElsewhere A h) h' := by
  have every := writesElsewhere_start A h
  have kept {β : Type} {m : SessionM β} (hm : Consuming A AnyTable m) :
      m.wp s h fun _ _ h' => EveryCall (WritesElsewhere A h) h' := by
    apply Action.wp_mono (hm s h ⟨hc, trivial⟩)
    intro _ _ _ done
    exact (Spared.spent done every).spares
  simp only [handle, Action.wp_bind, Action.wp_pure]
  apply handleRequest_op hop
  · exact fun _ => every
  · exact fun _ _ _ _ _ => kept (respond_consuming _ _ _)
  intro _ _ gate
  rcases leaves with rfl | rfl
  · have halted : s.state = .halted := by
      cases state : s.state with
      | halted => rfl
      | running | detached | lost =>
        rw [state] at gate
        exact absurd gate (by simp [gateTable, gateColumn, GateType.refusal])
    apply Action.wp_mono (opRun_spent hc halted)
    intro _ _ _ spent
    exact spent.spares
  · exact kept (opDetach_consuming _ _)

/-- From a world on, until the target is resumed: no step-over is pending at the address, and no RUN
and no DETACH writes the PC to it. -/
def NeverRewound (A : UInt64) {T : Type} (env : SessionEnvironment T) (w : SessionWorld T) : Prop :=
  ∀ later, resumeCount (playSession env w later).history = resumeCount w.history →
    Consumed A (playSession env w later).state ∧ ∀ message op,
      requestOp (MsgHeader.parse message).opcode = some op → op = .run ∨ op = .detach →
        EveryCall (WritesElsewhere A (playSession env w later).history)
          (playSession env w (later ++ [.request message])).history

theorem NeverRewound.here {T : Type} {env : SessionEnvironment T} {w : SessionWorld T}
    (never : NeverRewound A env w) :
    Consumed A w.state := (never [] rfl).1

theorem resumeCount_play {T : Type} {env : SessionEnvironment T} {w : SessionWorld T}
    (later : List Input) :
    resumeCount w.history ≤ resumeCount (playSession env w later).history := by
  induction later generalizing w with
  | nil => exact Nat.le_refl _
  | cons i later ih =>
    have first : resumeCount w.history ≤ resumeCount (w.step env handle i).history := by
      rw [World.step, World.perform_history, resumeCount_append]
      omega
    exact first.trans ih

theorem Consumed.never_rewound {T : Type} {env : SessionEnvironment T} {w : SessionWorld T}
    (hc : Consumed A w.state) :
    NeverRewound A env w := by
  have stays (later : List Input) (same : resumeCount (playSession env w later).history =
      resumeCount w.history) :
      Consumed A (playSession env w later).state := by
    induction later using List.reverseRecOn with
    | nil => exact hc
    | append_singleton later i ih =>
      have after : playSession env w (later ++ [i]) = (playSession env w later).step env handle i :=
        World.play_append later [i]
      rw [after] at same ⊢
      have start : resumeCount w.history ≤ resumeCount (playSession env w later).history :=
        resumeCount_play later
      have grows : resumeCount (playSession env w later).history ≤
          resumeCount ((playSession env w later).step env handle i).history := resumeCount_play [i]
      have before : resumeCount (playSession env w later).history = resumeCount w.history := by
        omega
      have kept : resumeCount ((playSession env w later).step env handle i).history =
          resumeCount (playSession env w later).history → _ :=
            World.perform_wp (handle_consumed (ih before) i)
      apply kept
      omega
  intro later same
  refine ⟨stays later same, fun message op hop leaves => ?_⟩
  have after : playSession env w (later ++ [.request message]) =
      (playSession env w later).step env handle (.request message) :=
      World.play_append later [.request message]
  rw [after]
  exact World.perform_wp (handle_writes_elsewhere (stays later same) hop leaves)

/-! The whole of a RUN over a hit. -/

/-- A RUN with a step-over pending at `A`, where an instruction of `n` bytes stands, steps over it
once. -/
structure SteppedOnce {T : Type} (n : ℕ) (A : UInt64) (env : SessionEnvironment T)
    (w w' : SessionWorld T) : Prop where
  once : stepCount w'.history ≤ stepCount w.history + 1
  issued : ∀ h s action address a h',
    w'.history = h ++ ⟨.call s (.resume action address), a⟩ :: h' → w.history <+: h →
      s.swStepOverPending = true → action = RunAction.singleStep ∧
        (∃ h₁ s₁ a₁, h = h₁ ++ [⟨.call s₁ (.writeRegs (pcEntryBytes A.toUInt32)), a₁⟩] ∧
          a₁.code = .ok) ∧
        OriginalAt A n h
  consumed : stepCount w'.history = stepCount w.history + 1 → ∀ stop,
    stepSeen w'.history = some stop → NeverRewound A env w'
  -- the client's resume behind the step: what is pending then, a later halt has asked for
  resumed : resumeCount w.history + 1 < resumeCount w'.history → w'.state.swStepOverPending = true →
    AskedBehind (resumeCount w.history + 2) w'.state w'.history
  kept : stepCount w'.history = stepCount w.history →
    w'.state.swStepOverPending = true ∧ w'.state.swStepOverAddress = A

/-- Of the internal steps of a RUN there is one in its events. -/
theorem exists_internalStep (more : stepCount (h ++ evs) = stepCount h + 1) :
    ∃ e₁ s action address a e₂, evs = e₁ ++ ⟨.call s (.resume action address), a⟩ :: e₂ ∧
      s.swStepOverPending = true := by
  have some : 0 < evs.countP internalStep := by
    rw [stepCount, stepCount, List.countP_append] at more
    omega
  obtain ⟨⟨e, reply⟩, hm, stepped⟩ := List.countP_pos_iff.mp some
  obtain ⟨e₁, e₂, rfl⟩ := List.append_of_mem hm
  cases e with
  | offer f => exact absurd stepped Bool.false_ne_true
  | call s c =>
    cases c with
    | resume action address => exact ⟨e₁, s, action, address, reply, e₂, rfl, stepped⟩
    | _ => exact absurd stepped Bool.false_ne_true

/-- For every session a run reaches with a step-over pending at `A`, and every RUN it accepts: the
instruction is stepped over once if and only if no breakpoint of the request starts in the middle of
it, where the step is issued, and the stop that confirms the step does not read as a hit at `A`
whose patch is back. -/
theorem stepped_once_iff {T : Type} (env : SessionEnvironment T) (t₀ : T) (inputs : List Input)
    (message : List UInt8) (plan : RunPlan) (n : ℕ) (size : n = 2 ∨ n = 4)
    (op : requestOp (MsgHeader.parse message).opcode = some .run)
    (pending : (playSession env (freshWorld t₀) inputs).state.swStepOverPending = true)
    (hcheck : checkRun (playSession env (freshWorld t₀) inputs).state
      (message.drop headerSize) = .ok plan) :
    let w := playSession env (freshWorld t₀) inputs
    let w' := playSession env (freshWorld t₀) (inputs ++ [.request message])
    let A := w.state.swStepOverAddress
    SteppedOnce n A env w w' ↔ (stepCount w'.history = stepCount w.history + 1 →
      ¬MidInstruction A n plan.swEntries ∧
        ∀ stop, stepSeen w'.history = some stop →
          ¬(Rehit plan.swEntries A stop ∧ A ∈ standing w'.history)) := by
  intro w w' A
  have step : w' = w.step env handle (.request message) :=
    World.play_append inputs [.request message]
  have aligned : AlignedHits w.state := run_kept env t₀ inputs ⟨by simp, by decide⟩ fun _ _ =>
      AlignedHits.step
  have narrow (sofar : List Input) : NarrowHit (playSession env (freshWorld t₀) sofar).state :=
    run_kept env t₀ sofar rfl fun _ _ => NarrowHit.step
  have spaced : Spaced w.state.swTable := run_spaced env t₀ inputs
  obtain ⟨start, ready⟩ := memory_invariant env t₀ inputs
  have handled : EveryCall (StepIssue A plan.swEntries w.history) w'.history ∧
      RunSteps plan.swEntries A w.state w.history w'.state w'.history := by
    rw [step]
    apply World.perform_wp (m := handle (.request message)) (w := w) (Q := fun _ s' h' =>
      EveryCall (StepIssue A plan.swEntries w.history) h' ∧ RunSteps plan.swEntries A w.state
        w.history s' h')
    exact handle_runSteps op hcheck ready start spaced aligned pending
  obtain ⟨issues, steps⟩ := handled
  constructor
  · -- both defects contradict the claim: a step that starts inside an instruction, a hit met again
    intro claim more
    constructor
    · have history : w'.history = w.history ++ (w.perform env (handle (.request message))).2.2 := by
        rw [step]
        rfl
      rw [history] at more
      obtain ⟨e₁, s, action, address, a, e₂, he, stepping⟩ := exists_internalStep more
      rw [he, ← List.append_assoc] at history
      have original := (claim.issued _ _ _ _ _ _ history (List.prefix_append _ _) stepping).2.2
      have issued := issues _ _ _ _ _ history (List.prefix_append _ _) _ _ rfl stepping
      exact (issued.original n size).mp original
    · intro stop seen hit
      obtain ⟨again, same⟩ := (steps.confirmed more stop seen).2.mpr hit
      have consumed := (claim.consumed more stop seen).here
      exact consumed.elsewhere again (congrArg UInt64.toUInt32 same)
  · -- without them each part of the claim is a lemma
    intro sound
    refine ⟨steps.once, ?_, ?_, steps.resumed, ?_⟩
    · intro h s action address a h' he later stepping
      have issued := issues h s _ a h' he later action address rfl stepping
      have more : stepCount w'.history = stepCount w.history + 1 := by
        obtain ⟨rest, rfl⟩ := later
        have once := steps.once
        have counts : stepCount w'.history = stepCount w.history + stepCount
            rest + (stepCount h' + 1) := by
          rw [he]
          simp only [stepCount, List.countP_append, List.countP_cons, internalStep,
            stepping, if_true]
        omega
      exact ⟨issued.single, issued.written, (issued.original n size).mpr (sound more).1⟩
    · intro more stop seen
      obtain ⟨state, again⟩ := steps.confirmed more stop seen
      apply Consumed.never_rewound
      constructor
      · intro asks same
        have there : w'.state.swStepOverAddress = A := (narrow inputs).unique (narrow _) same
        exact (sound more).2 stop seen (again.mp ⟨asks, there⟩)
      · intro runs
        rcases state with state | state <;> rw [state] at runs <;> exact absurd runs (by decide)
    · intro same
      have withheld := steps.withheld same
      exact ⟨withheld.pending.trans pending, withheld.address⟩

/-! The target still reports the breakpoint it halted on before the step. -/

def rehitRun (requestId stopId : UInt32) : List UInt8 :=
  runMessage requestId stopId RunAction.continueRun 0 [softwareBreakpoint 1 0x20000100]

def rehitStop : StopDetect :=
  { halted := true, dfsr := Dfsr.halted ||| Dfsr.bkpt, pc := 0x20000102 }

/-- The answers to an attach that halts, and to two RUNs that each end on the breakpoint. -/
def rehitAnswers : List Answer :=
  [{ info := debugTarget }, { stop := { halted := true } }, { data := [0x11, 0x22] }, {}, {}, {},
    {}, {}, { stop := rehitStop }, {}, { data := [0x11, 0x22] }, {}, {}, {}, {}, {}, {}, {},
    { stop := rehitStop }, {}]

def rehitInputs : List Input := attachedRun ++ [.request (rehitRun 2 1)]

def rehitWorld : SessionWorld (List Answer) :=
  playSession scripted (freshWorld rehitAnswers) rehitInputs

def rehitAgain : SessionWorld (List Answer) :=
  playSession scripted (freshWorld rehitAnswers) (rehitInputs ++ [.request (rehitRun 3 2)])

theorem rehit_accepts : rehitWorld.state.swStepOverPending = true ∧
    ∃ plan, checkRun rehitWorld.state ((rehitRun 3 2).drop headerSize) = .ok plan := by
  have accepts : rehitWorld.state.swStepOverPending = true ∧
      (checkRun rehitWorld.state ((rehitRun 3 2).drop headerSize)).toBool = true := by
      decide +kernel
  refine ⟨accepts.1, ?_⟩
  cases hcheck : checkRun rehitWorld.state ((rehitRun 3 2).drop headerSize) with
  | error status =>
    rw [hcheck] at accepts
    exact absurd accepts.2 (by simp [Except.toBool])
  | ok plan => exact ⟨plan, rfl⟩

/-- The instruction was executed, and is to be stepped over again. -/
theorem rehit_not_stepped_once : ¬∀ (env : SessionEnvironment (List Answer)) (answers : List Answer)
    (inputs : List Input) (message : List UInt8) (plan : RunPlan) (n : ℕ), n = 2 ∨ n = 4 →
    requestOp (MsgHeader.parse message).opcode = some .run →
    (playSession env (freshWorld answers) inputs).state.swStepOverPending = true →
    checkRun (playSession env (freshWorld answers) inputs).state
      (message.drop headerSize) = .ok plan →
    SteppedOnce n (playSession env (freshWorld answers) inputs).state.swStepOverAddress env
      (playSession env (freshWorld answers) inputs)
      (playSession env (freshWorld answers) (inputs ++ [.request message])) := by
  intro claim
  obtain ⟨pending, plan, hcheck⟩ := rehit_accepts
  have once := claim scripted rehitAnswers rehitInputs (rehitRun 3 2) plan 2 (Or.inl rfl)
      (by decide) pending hcheck
  have before : stepCount rehitWorld.history = 0 ∧ rehitWorld.state.swStepOverAddress =
      0x20000100 := by decide +kernel
  have more : stepCount rehitAgain.history = 1 := by decide +kernel
  have seen : stepSeen rehitAgain.history = some rehitStop := by decide +kernel
  have again : rehitAgain.state.swStepOverPending = true ∧
      rehitAgain.state.swStepOverAddress = 0x20000100 := by
    decide +kernel
  have grown : stepCount rehitAgain.history = stepCount rehitWorld.history + 1 := by
    rw [more, before.1]
  have consumed := (once.consumed grown rehitStop seen).here
  exact consumed.elsewhere again.1 (congrArg UInt64.toUInt32 (again.2.trans before.2.symm))

/-! A target whose step is seen with a watchpoint. -/

def watchedStop : StopDetect := { halted := true, dfsr := Dfsr.dwtTrap, pc := 0x20000102 }

def watchedAnswers : List Answer :=
  [{ info := debugTarget }, { stop := { halted := true } }, { data := [0x11, 0x22] }, {}, {}, {},
    {}, {}, { stop := rehitStop }, {}, { data := [0x11, 0x22] }, {}, {}, {}, {}, {}, {}, {},
    { stop := watchedStop }, {}]

def watchedWorld : SessionWorld (List Answer) :=
  playSession scripted (freshWorld watchedAnswers) rehitInputs

def watchedAgain : SessionWorld (List Answer) :=
  playSession scripted (freshWorld watchedAnswers) (rehitInputs ++ [.request (rehitRun 3 2)])

/-- The instruction is stepped over, and not again. -/
theorem watched_stepped_once : stepCount watchedAgain.history = 1 ∧
    SteppedOnce 2 watchedWorld.state.swStepOverAddress scripted watchedWorld watchedAgain := by
  have start : watchedWorld.state.swStepOverPending = true ∧
      (checkRun watchedWorld.state ((rehitRun 3 2).drop headerSize)).toBool = true := by
      decide +kernel
  have more : stepCount watchedAgain.history = 1 := by decide +kernel
  have seen : stepSeen watchedAgain.history = some watchedStop := by decide +kernel
  refine ⟨more, ?_⟩
  cases hcheck : checkRun watchedWorld.state ((rehitRun 3 2).drop headerSize) with
  | error status =>
    rw [hcheck] at start
    exact absurd start.2 (by simp [Except.toBool])
  | ok plan =>
    apply (stepped_once_iff scripted watchedAnswers rehitInputs (rehitRun 3 2) plan 2
      (Or.inl rfl) (by decide)
      start.1 hcheck).mpr
    intro _
    refine ⟨fun mid => absurd mid.1 (by decide), fun stop seen' hit => ?_⟩
    obtain rfl := Option.some.inj (seen.symm.trans seen')
    exact absurd hit.1.trap (by decide)

end SidpClient
