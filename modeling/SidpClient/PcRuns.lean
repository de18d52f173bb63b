import SidpClient.PcRegisters

/-! The PC reported to the peer is the PC the target goes on from, in every run of the session. -/
namespace SidpClient
open LittleEndian Interactive

variable {s s' : Session} {h h' evs : SessionHistory} {f : List UInt8} {a : Answer}
  {opcode : UInt16} {requestId : UInt32} {status : Status} {payload : List UInt8} {op : RequestOp}

/-! Frames a handler builds itself. -/

theorem finishFrame_agreeing {b : Buffer} {n : ℕ} (ha : Agreed s h) (hn : isValidMessageSize n)
    (header : ∀ crc, HasHeader (sealedFrame b n crc) MsgKind.response opcode requestId)
    (other : opcode ≠ Opcode.readRegisters ∧ opcode ≠ Opcode.writeRegisters) :
    finishFrame.wp { s with scratch := b, txFrameSize := n } h fun _ => Agreed := by
  apply finishFrame_offered (s := s) (P := fun f => HasHeader f MsgKind.response opcode requestId)
    hn header
  intro b' dead evs sent
  exact ha.offered sent fun f hf => hf.plain other.1 other.2

theorem opGetState_agreeing : Agreeing (opGetState requestId payload) := by
  intro s h ha
  simp only [opGetState, Action.wp_bind, Action.wp_ite, Action.wp_pure, beginFrame_wp,
    getSession_wp, writePayload_wp]
  refine ⟨fun _ => refuse_agreeing (by decide) s h ha, fun _ =>
    ⟨fun big => absurd big (by decide), fun _ =>
      ⟨fun began => absurd began (by decide), fun _ => ?_⟩⟩⟩
  apply finishFrame_agreeing (s := s) ha (by decide)
  · intro crc
    exact sealedFrame_hasHeader crc (by decide) (read_header_payload (read_headerBytes _ _ _ _))
  · exact ⟨by decide, by decide⟩

theorem opReadMemory_agreeing : Agreeing (opReadMemory requestId payload) := by
  intro s h ha
  simp only [opReadMemory, Action.wp_bind, getSession_wp]
  cases hcheck : checkReadMemory s payload with
  | error status => exact refuse_agreeing (checkReadMemory_refuses s payload status hcheck) s h ha
  | ok req =>
    obtain ⟨-, -, size, -⟩ := checkReadMemory_ok hcheck
    simp only [Action.wp_bind, Action.wp_ite, Action.wp_pure, beginFrame_wp, backend_wp,
      writePayload_wp, getSession_wp]
    refine ⟨fun big => ?_, fun _ => ⟨fun began => absurd began (by decide), fun _ a =>
      ⟨fun _ => ?_, fun _ => ?_⟩⟩⟩
    · simp only [maxFrameSize, headerSize, readMemoryResponseSize] at big size
      omega
    · exact sendBackendFailure_agreeing (by decide) _ _ ((ha.free rfl).same rfl rfl rfl)
    · apply finishFrame_agreeing (s := s) (ha.free rfl)
      · simp only [isValidMessageSize, maxFrameSize, headerSize, readMemoryResponseSize] at size ⊢
        omega
      · intro crc
        exact sealedFrame_hasHeader crc (by simp only [headerSize]; omega) (read_header_payload
          (read_header_payload (read_header_payload (read_headerBytes _ _ _ _))))
      · exact ⟨by decide, by decide⟩

theorem opWriteMemory_agreeing : Agreeing (opWriteMemory requestId payload) := by
  apply getSession_preserves
  intro s
  cases hcheck : checkWriteMemory s payload with
  | error status => exact refuse_agreeing (checkWriteMemory_refuses s payload status hcheck)
  | ok req =>
    exact .bind (updateOther_agreeing (fun _ => rfl) (fun _ => rfl) fun _ => rfl) fun _ =>
      .bind (backend_agreeing rfl) fun _ =>
        .ite (fun _ => .bind (sendBackendFailure_agreeing (by decide)) fun _ => .pure _) fun _ =>
          .bind (updateOther_agreeing (fun _ => rfl) (fun _ => rfl) fun _ => rfl) fun _ =>
            respond_agreeing fun _ => ⟨by decide, by decide⟩

/-! ATTACH. -/

theorem haltAfterAttach_agreed (hu : Untold h) : haltAfterAttach.wp s h fun _ => Agreed := by
  simp only [haltAfterAttach, Action.wp_bind, backend_wp, Action.wp_ite, Action.wp_pure,
    updateSession_wp]
  intro polled
  refine ⟨fun _ => (enterLost_withholds _).agreed hu.call, fun _ =>
    ⟨fun _ => ?_, fun _ halted => ⟨fun _ => ?_, fun _ =>
      ⟨fun _ => (enterLost_withholds _).agreed hu.call.call, fun _ => hu.call.call.agreed⟩⟩⟩⟩
  · apply Action.wp_mono (enterHalted_arrives hu.call polled.stop)
    intro _ _ _ arrived
    exact emitPendingStopped_agreed arrived
  · apply Action.wp_mono (enterHalted_arrives hu.call.call halted.stop)
    intro _ _ _ arrived
    exact emitPendingStopped_agreed arrived

theorem opAttach_agreed (hu : Untold h) : (opAttach requestId payload).wp s h fun _ => Agreed := by
  have reject (s' : Session) (h' : SessionHistory) (hu' : Untold h') :
      (respond Opcode.attach requestId .error).wp s' h' fun _ s₁ h₁ =>
      handleDisconnect.wp s₁ h₁ fun _ => Agreed := by
    apply Action.wp_mono (refuse_withholds (by decide) s' h' hu')
    intro _ s₁ evs₁ refused
    exact handleDisconnect_withholds.agreed refused
  simp only [opAttach, Action.wp_bind, Action.wp_ite, getSession_wp, backend_wp, updateSession_wp,
    Action.wp_pure, beginFrame_wp, writePayload_wp]
  refine ⟨fun _ => (refuse_withholds (by decide)).agreed hu, fun _ =>
    ⟨fun _ => (refuse_withholds (by decide)).agreed hu, fun _ a => ?_⟩⟩
  have called :
      Untold (h ++ [⟨.call s (.attach ⟨getU8 payload 4 != 0, getU8 payload 5 != 0⟩), a⟩]) := hu.call
  generalize normalizeAttachInfo a.info = info
  refine ⟨fun _ => (sendBackendFailure_withholds (by decide)).agreed called, fun _ =>
    ⟨fun _ => reject _ _ called, fun _ =>
      ⟨fun _ => ⟨fun _ => reject _ _ called, fun began => absurd began (by decide)⟩, fun small =>
      ⟨fun began => absurd began (by decide), fun _ => ?_⟩⟩⟩⟩
  apply finishFrame_offered
    (s := { s.attachedWith info with regions := parseMap info.memoryRegions })
    (P := fun f => HasHeader f MsgKind.response Opcode.attach requestId)
  · simp only [isValidMessageSize, maxFrameSize, headerSize] at small ⊢
    omega
  · intro crc
    exact sealedFrame_hasHeader crc (by simp only [headerSize]; omega) (read_header_payload
      (read_header_payload (read_headerBytes _ _ _ _)))
  · intro b dead evs sent
    have untold := called.offered sent fun f hf => hf.plain (by decide) (by decide)
    exact ⟨fun _ => untold.agreed, fun _ => ⟨fun _ => haltAfterAttach_agreed untold,
      fun _ => untold.agreed⟩⟩

/-! DETACH and a closed transport. -/

/-- The session agrees with the peer, and so does the target. -/
abbrev Settled (s : Session) (h : SessionHistory) : Prop := Agreed s h ∧ Here h

theorem settled_undisturbed : Undisturbed Settled := by
  refine ⟨fun s h _ settled => ⟨settled.1.same rfl rfl rfl, settled.2⟩,
    fun s h s₁ c a shadows settled => ?_⟩
  have free := Call.free_of_shadows shadows
  refine ⟨settled.1.free free, fun faithful p told => ?_⟩
  have same := pcStep_free (s := s₁) (a := a) (v := pcView h) free
  rw [pcView_concat, same.2] at told
  rw [pcView_concat, same.1]
  exact settled.2 faithful.before p told

theorem releaseTarget_agreed {action : UInt8} (settled : Settled s h) :
    (releaseTarget requestId action).wp s h fun _ => Agreed := by
  simp only [releaseTarget, Action.wp_bind, Action.wp_ite, Action.wp_pure, backend_wp,
    updateSession_wp]
  apply Action.wp_mono (settled_undisturbed.restoreAll s h settled)
  intro _ s₁ evs₁ restored
  refine ⟨fun _ => refuse_agreeing (by decide) s₁ _ restored.1, fun _ a =>
    ⟨fun failed => ?_, fun done => ?_⟩⟩
  · have kept : Agreed s₁ (h ++ evs₁ ++ [⟨.call s₁ (.detach action), a⟩]) :=
      restored.1.failed failed (Or.inr ⟨_, rfl⟩) fun faithful _ => restored.2 faithful
    exact refuse_agreeing (by decide) s₁ _ kept
  have left : Untold (h ++ evs₁ ++ [⟨.call s₁ (.detach action), a⟩]) :=
    restored.1.truthful.moved (by rw [pcStep, if_pos (not_not.mp done)]) fun faithful _ =>
      restored.2 faithful
  apply Action.wp_mono (respond_withholds (fun _ => ⟨by decide, by decide⟩) s₁ _ left)
  intro _ s₂ evs₂ untold
  exact untold.agreed

theorem haltForDetach_withholds : Withholds (haltForDetach requestId) := by
  apply getSession_withholds
  intro s
  refine .ite (fun _ => .pure _) fun _ => .bind (backend_withholds _) fun a =>
    .ite (fun _ => .bind (sendBackendFailure_withholds (by decide)) fun _ => .pure _) fun _ => ?_
  cases softwareHit s.swTable a.stop with
  | none => exact .pure _
  | some bp => exact .bind (updateSession_withholds _) fun _ => .pure _

theorem opDetach_agreed (ha : Agreed s h) (live : s.state = .halted ∨ s.state = .running) :
    (opDetach requestId payload).wp s h fun _ => Agreed := by
  simp only [opDetach]
  cases hcheck : checkDetach payload with
  | error status => exact refuse_agreeing (checkDetach_refuses payload status hcheck) s h ha
  | ok action =>
    simp only [Action.wp_bind, Action.wp_ite, Action.wp_pure, getSession_wp]
    rcases live with state | state
    · simp only [haltForDetach, Action.wp_bind, getSession_wp, Action.wp_ite, Action.wp_pure]
      refine ⟨fun _ => ⟨fun failed => absurd failed (by decide), fun _ =>
        ⟨fun pending => ?_, fun idle => ?_⟩⟩, fun running =>
        absurd state (by rw [not_not.mp running]; decide)⟩
      · apply Action.wp_mono (writeCurrentPc_agreed ha state pending)
        intro ok s₁ evs₁ written
        obtain ⟨rfl, agreed, here⟩ := written
        exact ⟨fun _ => refuse_agreeing (by decide) s₁ _ agreed, fun done =>
          releaseTarget_agreed ⟨agreed, here (by simpa using done)⟩⟩
      · exact releaseTarget_agreed ⟨ha, ha.here state (by simpa using idle)⟩
    · have untold : Untold h := ⟨ha.truthful, ha.away (Or.inl state)⟩
      apply Action.wp_mono (haltForDetach_withholds s h untold)
      intro _ s₁ evs₁ halted
      have release (s' : Session) (h' : SessionHistory) (hu : Untold h') :
          (releaseTarget requestId action).wp s' h' fun _ => Agreed :=
          releaseTarget_agreed ⟨hu.agreed, hu.here⟩
      refine ⟨fun _ => halted.agreed, fun _ => ⟨fun _ => ?_, fun _ => release s₁ _ halted⟩⟩
      apply Action.wp_mono (writeCurrentPc_quiet (s := s₁) (h := h ++ evs₁)
        s₁.swStepOverAddress.toUInt32)
      intro _ s₂ evs₂ written
      have rewound := halted.quiet written.history
      exact ⟨fun _ => (refuse_withholds (by decide)).agreed rewound, fun _ => release s₂ _ rewound⟩

theorem handleDisconnect_agreed (ha : Agreed s h) : handleDisconnect.wp s h fun _ => Agreed := by
  simp only [handleDisconnect, Action.wp_bind, updateSession_wp, getSession_wp, Action.wp_ite,
    Action.wp_pure, backend_wp]
  have closed : Agreed { s with transportDead := true } h := ha.same rfl rfl rfl
  refine ⟨fun _ => closed, fun _ a => ⟨fun _ => (closed.free rfl).truthful.lost rfl, fun _ => ?_⟩⟩
  apply Action.wp_mono (Agreeing.quiet agreed_undisturbed.restoreAll swBpRestoreAll_quiet
    (closed.free rfl))
  intro _ s₁ evs₁ restored
  obtain ⟨ha₁, -, -, -, dead⟩ := restored
  have closed₁ : s₁.transportDead = true := dead
  refine ⟨fun _ => ha₁.truthful.lost rfl, fun _ b => ?_⟩
  -- without a transport nothing is promised of where the target is left
  have sound (evs : SessionHistory) : PcSound evs ⟨.call s₁ (.detach DetachAction.keepHalted), b⟩ :=
    fun live => absurd (closed₁.symm.trans live) (by decide)
  have kept {h' : SessionHistory} (ha : Agreed s₁ h') (failed : b.code ≠ .ok) :
      Agreed s₁ (h' ++ [⟨.call s₁ (.detach DetachAction.keepHalted), b⟩]) :=
    ha.failed failed (Or.inr ⟨_, rfl⟩) fun _ => sound _
  have left {h' : SessionHistory} (ha : Agreed s₁ h') (done : b.code = .ok) :
      Untold (h' ++ [⟨.call s₁ (.detach DetachAction.keepHalted), b⟩]) :=
    ha.truthful.moved (by rw [pcStep, if_pos done]) fun _ => sound _
  constructor
  · intro failed
    exact (kept ha₁ failed).truthful.lost rfl
  · intro done
    exact (left ha₁ (not_not.mp done)).agreed

/-! HALT and the resets. -/

theorem opHalt_agreed (ready : Ready s h) (alive : s.transportDead = false) (ha : Agreed s h)
    (live : s.state = .halted ∨ s.state = .running) :
    (opHalt requestId payload).wp s h fun _ => Agreed := by
  simp only [opHalt, Action.wp_bind, Action.wp_ite, Action.wp_pure, getSession_wp, backend_wp]
  refine ⟨fun _ => refuse_agreeing (by decide) s h ha, fun _ =>
    ⟨fun _ => refuse_agreeing (by decide) s h ha, fun unreported =>
      ⟨fun pending => ?_, fun unhalted a => ?_⟩⟩⟩
  · exact absurd ⟨pending.1, (ready.reported pending.1 alive).1⟩ unreported
  have state : s.state = .running := by
    rcases live with hs | hs
    · cases reported : s.stopReported with
      | true => exact absurd ⟨hs, reported⟩ unreported
      | false => exact absurd ⟨hs, by rw [reported]; rfl⟩ unhalted
    · exact hs
  have untold : Untold h := ⟨ha.truthful, ha.away (Or.inl state)⟩
  refine ⟨fun _ => (sendBackendFailure_withholds (by decide)).agreed untold.call, fun _ => ?_⟩
  apply Action.wp_mono (enterHalted_arrives untold.call a.stop)
  intro _ s₁ evs₁ arrived
  apply arrived.respond fun _ => ⟨by decide, by decide⟩
  intro b dead evs₂ arrived₂
  exact emitPendingStopped_agreed arrived₂

theorem enterHalted_withholds (stop : StopDetect) : Withholds (enterHalted stop) :=
  fun _ _ hu => Action.wp_mono (enterHalted_arrives hu stop) fun _ _ _ arrived => arrived.before

theorem prepareReset_agreed (ha : Agreed s h) (live : s.state = .halted ∨ s.state = .running) :
    (prepareReset opcode requestId).wp s h fun _ => Agreed := by
  have rollback : Agreeing (do
      if !(← rollbackRunConfig) then
        respond opcode requestId .swdError
        enterLost .swdFault
        return false
      return true) :=
    .bind rollbackRunConfig_agreeing fun _ => .ite (fun _ => .bind (refuse_agreeing (by decide))
      fun _ => .bind (enterLost_agreeing _) fun _ => .pure _) fun _ => .pure _
  simp only [prepareReset, Action.wp_bind, getSession_wp, Action.wp_ite, Action.wp_pure, backend_wp]
  simp only [Action.Preserves, Action.wp_bind, Action.wp_ite, Action.wp_pure] at rollback
  refine ⟨fun unhalted a => ?_, fun _ => rollback s h ha⟩
  have state : s.state = .running := live.resolve_left unhalted
  have untold : Untold h := ⟨ha.truthful, ha.away (Or.inl state)⟩
  refine ⟨fun _ => ?_, fun _ => ?_⟩
  · have refused : sendBackendFailure opcode requestId
        (if a.code = .ok then .timeout else a.code) .timeout
      |>.wp s (h ++ [⟨.call s (.halt haltTimeoutMs), a⟩]) fun _ => Agreed :=
      (sendBackendFailure_withholds (by decide)).agreed untold.call
    exact refused
  · apply Action.wp_mono (enterHalted_withholds a.stop s _ untold.call)
    intro _ s₁ evs₁ halted
    exact rollback s₁ _ halted.agreed

theorem resetFailed_withholds {result : EspErr} :
    Withholds (resetFailed opcode requestId result) := by
  refine .bind (refuse_withholds ?_) fun _ => enterLost_withholds _
  split <;> decide

theorem opResetHalt_agreed (ha : Agreed s h) (live : s.state = .halted ∨ s.state = .running) :
    (opResetHalt requestId payload).wp s h fun _ => Agreed := by
  simp only [opResetHalt, Action.wp_bind, getSession_wp]
  cases hcheck : checkReset s Cap.resetHalt payload with
  | error status =>
    exact refuse_agreeing (checkReset_refuses s payload Cap.resetHalt status hcheck) s h ha
  | ok kind =>
    simp only [Action.wp_bind, Action.wp_ite, Action.wp_pure, backend_wp, updateSession_wp]
    apply Action.wp_mono (prepareReset_agreed ha live)
    intro _ s₁ evs₁ prepared
    refine ⟨fun _ => prepared, fun _ a => ?_⟩
    have moved : Untold (h ++ evs₁ ++ [⟨.call s₁ (.reset kind true), a⟩]) :=
      prepared.truthful.moved rfl fun _ => trivial
    refine ⟨fun _ => resetFailed_withholds.agreed moved, fun _ => ?_⟩
    apply Action.wp_mono (enterHalted_arrives moved a.stop)
    intro _ s₂ evs₂ arrived
    have named : Arrived { s₂ with pendingReason := .reset }
        (h ++ evs₁ ++ [⟨.call s₁ (.reset kind true), a⟩] ++ evs₂) :=
      ⟨arrived.before, arrived.fits, arrived.pc⟩
    apply named.respond fun _ => ⟨by decide, by decide⟩
    intro b dead evs₃ arrived₃
    exact emitPendingStopped_agreed arrived₃

theorem opResetRun_agreed (ha : Agreed s h) (live : s.state = .halted ∨ s.state = .running) :
    (opResetRun requestId payload).wp s h fun _ => Agreed := by
  simp only [opResetRun, Action.wp_bind, getSession_wp]
  cases hcheck : checkReset s Cap.resetRun payload with
  | error status =>
    exact refuse_agreeing (checkReset_refuses s payload Cap.resetRun status hcheck) s h ha
  | ok kind =>
    simp only [Action.wp_bind, Action.wp_ite, Action.wp_pure, backend_wp, updateSession_wp]
    apply Action.wp_mono (prepareReset_agreed ha live)
    intro _ s₁ evs₁ prepared
    refine ⟨fun _ => prepared, fun _ a => ?_⟩
    have moved : Untold (h ++ evs₁ ++ [⟨.call s₁ (.reset kind false), a⟩]) :=
      prepared.truthful.moved rfl fun _ => trivial
    exact ⟨fun _ => resetFailed_withholds.agreed moved, fun _ =>
      (respond_withholds fun _ => ⟨by decide, by decide⟩).agreed moved⟩

/-! Runs. -/

theorem dispatch_agreed (ready : Ready s h) (alive : s.transportDead = false) (ha : Agreed s h)
    (gate : (gateTable s.state (gateColumn op)).refusal = none) :
    (dispatch op requestId payload).wp s h fun _ => Agreed := by
  have live (other : op ≠ .attach ∧ op ≠ .getState) := live_of_gate gate other
  cases op with
  | attach => exact opAttach_agreed ⟨ha.truthful, ha.away (Or.inr (detached_of_gate gate))⟩
  | detach => exact opDetach_agreed ha (live ⟨by decide, by decide⟩)
  | getState => exact opGetState_agreeing s h ha
  | readMemory => exact opReadMemory_agreeing s h ha
  | writeMemory => exact opWriteMemory_agreeing s h ha
  | readRegisters => exact opReadRegisters_agreed ha (halted_of_gate gate (Or.inr (Or.inl rfl)))
  | writeRegisters =>
    exact opWriteRegisters_agreed ha (halted_of_gate gate (Or.inr (Or.inr rfl))) alive
  | run => exact opRun_agreed ha (halted_of_gate gate (Or.inl rfl))
  | halt => exact opHalt_agreed ready alive ha (live ⟨by decide, by decide⟩)
  | resetHalt => exact opResetHalt_agreed ha (live ⟨by decide, by decide⟩)
  | resetRun => exact opResetRun_agreed ha (live ⟨by decide, by decide⟩)

theorem handleRequest_agreed (ready : Ready s h) (ha : Agreed s h) (message : List UInt8) :
    (handleRequest message).wp s h fun _ => Agreed := by
  simp only [handleRequest, Action.wp_bind, getSession_wp, Action.wp_ite, Action.wp_pure]
  refine ⟨fun _ => ha, fun valid => ⟨fun _ => ha, fun _ => ⟨fun _ => ha, fun _ => ?_⟩⟩⟩
  have alive : s.transportDead = false := Bool.eq_false_of_not_eq_true fun dead =>
      valid (Or.inl dead)
  cases requestOp (MsgHeader.parse message).opcode with
  | none =>
    apply refuse_agreeing _ s h ha
    split <;> decide
  | some op =>
    cases gate : (gateTable s.state (gateColumn op)).refusal with
    | some status =>
      simp only [gate]
      exact refuse_agreeing (refusal_not_ok gate) s h ha
    | none =>
      simp only [gate]
      exact dispatch_agreed ready alive ha gate

theorem handle_agreed (ready : Ready s h) (ha : Agreed s h) (i : Input) :
    (handle i).wp s h fun _ => Agreed := by
  cases i with
  | request message =>
    simp only [handle, Action.wp_bind, Action.wp_pure]
    exact handleRequest_agreed ready ha message
  | poll =>
    simp only [handle, handlePoll, Action.wp_bind, getSession_wp, Action.wp_ite, Action.wp_pure]
    refine ⟨fun _ => ha, fun polls => ?_⟩
    have state : s.state = .running := by
      by_contra other
      exact polls (Or.inr (Or.inl other))
    exact pollStop_agreed ⟨ha.truthful, ha.away (Or.inl state)⟩
  | disconnect => exact handleDisconnect_agreed ha

theorem run_agreed {T : Type} (env : SessionEnvironment T) (t₀ : T) (inputs : List Input) :
    Agreed (playSession env (freshWorld t₀) inputs).state
      (playSession env (freshWorld t₀) inputs).history := by
  have kept : Agreed (playSession env (freshWorld t₀) inputs).state
      (playSession env (freshWorld t₀) inputs).history ∧
      Ready (playSession env (freshWorld t₀) inputs).state
      (playSession env (freshWorld t₀) inputs).history := by
    apply World.play_invariant (P := fun s h => Agreed s h ∧ Ready s h) _ inputs
    · refine ⟨⟨fun _ => EveryEvent.nil, fun halted => ?_, fun _ => rfl⟩, ready_fresh⟩
      have detached : (freshWorld t₀).state.state = .detached := rfl
      exact absurd (detached.symm.trans halted) (by decide)
    intro s h i both
    apply Action.wp_mono (Action.wp_and (handle_agreed both.2 both.1 i) (handle_moves i both.2))
    intro _ s' evs ended
    exact ⟨ended.1, ended.2.2⟩
  exact kept.1

/-! A target with a PC. -/

/-- `pc` is where the target is halted, if it is: successful register reads show it and successful
register writes set it, once at most; and nothing but a register write, an attach, a detach that
succeeds, a reset and a resume changes it. -/
structure RegisterContract {T : Type} (env : SessionEnvironment T) (pc : T → Option UInt32) :
    Prop where
  read : ∀ t s ids capacity, (env t (.call s (.readRegs ids capacity))).1.code = .ok →
    (env t (.call s (.readRegs ids capacity))).1.outSize ≤ capacity →
      (env t (.call s (.readRegs ids capacity))).1.outSize ≤
      (env t (.call s (.readRegs ids capacity))).1.data.length ∧
        ∀ p, reportedPc (getU8 (env t (.call s (.readRegs ids capacity))).1.data)
          (env t (.call s (.readRegs ids capacity))).1.outSize = some p →
            pc (env t (.call s (.readRegs ids capacity))).2 = some p
  rejects : ∀ t s data, (env t (.call s (.writeRegs data))).1.code = .ok → setsPcOnce data = true
  write : ∀ t s data p, (env t (.call s (.writeRegs data))).1.code = .ok → setsPcOnce data = true →
    (writtenPc data).or (pc t) = some p → pc (env t (.call s (.writeRegs data))).2 = some p
  detach : ∀ t s action p, (env t (.call s (.detach action))).1.code ≠ .ok → pc t = some p →
    pc (env t (.call s (.detach action))).2 = some p
  call : ∀ t s c p, c.routine = true → (∀ data, c ≠ .writeRegs data) → pc t = some p →
    pc (env t (.call s c)).2 = some p
  offer : ∀ t f p, pc t = some p → pc (env t (.offer f)).2 = some p

/-- Nor does a register write that fails. -/
structure KeepsPc {T : Type} (env : SessionEnvironment T) (pc : T → Option UInt32) : Prop
    extends RegisterContract env pc where
  failed : ∀ t s data p, (env t (.call s (.writeRegs data))).1.code ≠ .ok → pc t = some p →
    pc (env t (.call s (.writeRegs data))).2 = some p

/-- In a run the target is where the peer was last told or has written it, whenever it is resumed
and when a DETACH leaves it; what READ_REGISTERS shows is the same; and between inputs it is where
the session goes on: at a pending step-over's breakpoint, and else where the target is. -/
structure PcExecutes {T : Type} (env : SessionEnvironment T) (pc : T → Option UInt32) (t₀ : T)
    (w : SessionWorld T) : Prop where
  resumed : ∀ h s action address a rest,
    w.history = h ++ ⟨.call s (.resume action address), a⟩ :: rest →
      ∀ p, (pcView h).told = some p → pc (World.outsideAfter env t₀ h) = some p
  left : ∀ h s action a rest,
    w.history = h ++ ⟨.call s (.detach action), a⟩ :: rest → s.transportDead = false →
      ∀ p, (pcView h).told = some p → pc (World.outsideAfter env t₀ h) = some p
  read : ∀ h f accepted rest, w.history = h ++ ⟨.offer f, accepted⟩ :: rest →
    isAccepted Opcode.readRegisters f = true →
      ∀ p q, registersFramePc f = some p → (pcView h).told = some q → p = q
  halted : w.state.state = .halted → ∀ p, (pcView w.history).told = some p →
    w.state.At (pc w.outside) p

section
variable {T : Type} {env : SessionEnvironment T} {pc : T → Option UInt32}

/-- What a history shows of the PC is so, and every read showed it. -/
structure Shows (pc : T → Option UInt32) (t : T) (h : SessionHistory) : Prop where
  faithful : Faithful h
  actual : ∀ p, (pcView h).actual = some p → pc t = some p

theorem KeepsPc.readRegs (keeps : KeepsPc env pc) {t : T} {ids : List UInt16} {capacity : ℕ}
    (shows : Shows pc t h) :
    Shows pc (env t (.call s (.readRegs ids capacity))).2
      (h ++ [⟨.call s (.readRegs ids capacity),
        (env t (.call s (.readRegs ids capacity))).1⟩]) := by
  have stays (q : UInt32) (known : (pcView h).actual = some q) :
      pc (env t (.call s (.readRegs ids capacity))).2 = some q :=
    keeps.call t s _ q rfl (fun _ => nofun) (shows.actual q known)
  have read := keeps.read t s ids capacity
  constructor
  · apply shows.faithful.concat
    intro ok fits
    obtain ⟨given, shown⟩ := read ok fits
    exact ⟨given, fun p q reported known => Option.some.inj
      ((shown p reported).symm.trans (stays q known))⟩
  · intro p
    rw [pcView_concat]
    simp only [pcStep]
    split
    · rename_i done
      cases reported : reportedPc (getU8 (env t (.call s (.readRegs ids capacity))).1.data)
          (env t (.call s (.readRegs ids capacity))).1.outSize with
      | none => exact stays p
      | some q =>
        intro same
        cases same
        exact (read done.1 done.2).2 _ reported
    · exact stays p

theorem KeepsPc.shows (keeps : KeepsPc env pc) {t : T} (shows : Shows pc t h) (e : Effect) :
    Shows pc (env t e).2 (h ++ [⟨e, (env t e).1⟩]) := by
  cases e with
  | offer f =>
    refine ⟨shows.faithful.concat trivial, fun p known => ?_⟩
    rw [actual_offer] at known
    exact keeps.offer t f p (shows.actual p known)
  | call s c =>
    cases c with
    | readRegs ids capacity => exact keeps.readRegs shows
    | writeRegs data =>
      refine ⟨shows.faithful.concat trivial, fun p known => ?_⟩
      rw [pcView_concat] at known
      simp only [pcStep] at known
      split at known
      · rename_i ok
        apply keeps.write t s data p ok (keeps.rejects t s data ok)
        cases written : writtenPc data with
        | none =>
          rw [written] at known
          exact shows.actual p known
        | some q =>
          rw [written] at known
          exact known
      · rename_i failed
        exact keeps.failed t s data p failed (shows.actual p known)
    | detach action =>
      refine ⟨shows.faithful.concat trivial, fun p known => ?_⟩
      rw [pcView_concat] at known
      simp only [pcStep] at known
      split at known
      · exact absurd known (by simp)
      · rename_i failed
        exact keeps.detach t s action p failed (shows.actual p known)
    | attach | reset | resume =>
      refine ⟨shows.faithful.concat trivial, fun p known => ?_⟩
      rw [pcView_concat] at known
      exact absurd known (by simp [pcStep, Call.routine])
    | _ =>
      refine ⟨shows.faithful.concat trivial, fun p known => ?_⟩
      rw [pcView_concat] at known
      exact keeps.call t s _ p rfl (fun _ => by simp) (shows.actual p known)

/-- On every target with a PC, whatever it answers else: wherever the peer was last told the target
is, by a STOPPED, a READ_REGISTERS or its own WRITE_REGISTERS, the target is there when it is next
resumed or left, and no READ_REGISTERS says otherwise. -/
theorem reported_pc_executes (keeps : KeepsPc env pc) (t₀ : T) (inputs : List Input) :
    PcExecutes env pc t₀ (playSession env (freshWorld t₀) inputs) := by
  have start : Shows pc t₀ [] := ⟨EveryEvent.nil, fun p known =>
      absurd known (by simp [pcView, view])⟩
  obtain ⟨outside, moments⟩ := World.play_moments (P := Shows pc) (w := freshWorld t₀) rfl
    (fun t h e shows => keeps.shows shows e) inputs start
  have shown : Shows pc (playSession env (freshWorld t₀) inputs).outside
      (playSession env (freshWorld t₀) inputs).history := by
    have last := moments _ [] (List.append_nil _).symm
    rw [← outside] at last
    exact last
  have agreed := run_agreed env t₀ inputs
  have sound := agreed.truthful shown.faithful
  constructor
  · intro h s action address a rest split p told
    exact (moments h _ split).actual p (sound h _ rest split p told)
  · intro h s action a rest split alive p told
    exact (moments h _ split).actual p (sound h _ rest split alive p told)
  · intro h f accepted rest split read
    exact sound h _ rest split read
  · intro halted p told
    have next := agreed.halted halted shown.faithful p told
    exact ⟨next.1, fun idle => shown.actual p (next.2 idle)⟩

end

/-! A target that halts two bytes behind a breakpoint, and steps four. -/

def stepping : SessionEnvironment UInt32
  | pc, .call _ (.attach _) => ({ info := { debugTarget with
      capabilities := debugTarget.capabilities ||| Cap.stopSnapshot } }, pc)
  | pc, .call _ (.readRegs _ _) => ({ data := pcEntryBytes pc, outSize := 8 }, pc)
  | pc, .call _ (.writeRegs data) =>
    if setsPcOnce data then ({}, (writtenPc data).getD pc) else ({ code := .other }, pc)
  | pc, .call _ (.readMem _ _ size _) => ({ data := List.replicate size 0 }, pc)
  | pc, .call _ (.resume action _) =>
      ({}, if action = RunAction.singleStep then pc + 4 else 0x20000102)
  | pc, .call _ _ =>
    ({ stop := { halted := true, pc := pc, dfsr := if pc = 0x20000102 then Dfsr.bkpt else
      Dfsr.halted } }, pc)
  | pc, .offer _ => (true, pc)

theorem reportedPc_pcEntryBytes (pc : UInt32) :
    reportedPc (getU8 (pcEntryBytes pc)) 8 = some pc := by
  have entries : registerEntries (getU8 (pcEntryBytes pc)) 8 =
      [⟨0, armRegPc, 4, RegisterFlag.none⟩] := rfl
  have value : Buffer.read (getU8 (pcEntryBytes pc)) 4 4 = le32 pc := by
    rw [Buffer.read_getU8 _ _ _ (by simp [pcEntryBytes])]
    rfl
  rw [reportedPc, findRegister, entries, List.find?_cons_of_pos (by decide),
    Option.map_some, registerValue]
  simp only [registerValueSize, Nat.zero_add, value]
  exact congrArg some (ofNat_leNat_le32 pc)

theorem stepping_writes (pc : UInt32) (s : Session) (data : List UInt8)
    (once : setsPcOnce data = true) :
    stepping pc (.call s (.writeRegs data)) = ({}, (writtenPc data).getD pc) := if_pos once

theorem stepping_refuses (pc : UInt32) (s : Session) (data : List UInt8)
    (twice : ¬setsPcOnce data = true) :
    stepping pc (.call s (.writeRegs data)) = ({ code := .other }, pc) := if_neg twice

theorem stepping_keepsPc : KeepsPc stepping some where
  read := by
    intro t s ids capacity _ _
    refine ⟨by simp [stepping, pcEntryBytes], fun p reported => ?_⟩
    exact (reportedPc_pcEntryBytes t).symm.trans reported
  rejects := by
    intro t s data ok
    by_contra twice
    rw [stepping_refuses t s data twice] at ok
    exact absurd ok (by simp)
  write := by
    intro t s data p _ once written
    rw [stepping_writes t s data once]
    cases shown : writtenPc data with
    | none =>
      rw [shown] at written
      exact written
    | some q =>
      rw [shown] at written
      exact written
  detach := by
    intro t s action p _ known
    exact known
  call := by
    intro t s c p routine other known
    cases c with
    | writeRegs data => exact absurd rfl (other data)
    | attach | detach | reset | resume => exact absurd routine (by simp [Call.routine])
    | _ => exact known
  offer := fun _ _ _ known => known
  failed := by
    intro t s data p failed known
    by_cases once : setsPcOnce data = true
    · rw [stepping_writes t s data once] at failed
      exact absurd rfl failed
    · rw [stepping_refuses t s data once]
      exact known

def Call.resumes : Call → Bool
  | .resume _ _ => true
  | _ => false

/-- A breakpoint is hit, read and stepped over: the target is resumed three times, and only from
where the peer was told it is. -/
theorem breakpoint_pc_executes :
    let w :=
      playSession stepping (freshWorld 0)
      [.request (requestMessage .attach 1 [0, 0, 0, 0, 0, 1, 0, 0]), .request
        (runMessage 2 1 RunAction.continueRun 0 [softwareBreakpoint 7 0x20000100]),
      .request (requestMessage .readRegisters 3 [2, 0, 0, 0, 0, 0, 1, 0, 15, 0]),
      .request (runMessage 4 2 RunAction.continueRun 0 [softwareBreakpoint 7 0x20000100])]
    ((calls w.history).map Prod.fst).countP Call.resumes = 3 ∧ PcExecutes stepping some 0 w := by
  intro w
  have count : ((calls w.history).map Prod.fst).countP Call.resumes = 3 := by decide +kernel
  exact ⟨count, reported_pc_executes stepping_keepsPc 0 _⟩

/-! A target whose register write moves the PC and then fails. -/

def hasty : SessionEnvironment UInt32
  | pc, .call _ (.writeRegs data) => ({ code := .timeout }, (writtenPc data).getD pc)
  | pc, e => stepping pc e

theorem hasty_contract : RegisterContract hasty some where
  read := stepping_keepsPc.read
  rejects := by
    intro t s data ok
    exact absurd ok (by simp [hasty])
  write := by
    intro t s data p ok
    exact absurd ok (by simp [hasty])
  detach := stepping_keepsPc.detach
  call := by
    intro t s c p routine other known
    cases c with
    | writeRegs data => exact absurd rfl (other data)
    | attach | detach | reset | resume => exact absurd routine (by simp [Call.routine])
    | _ => exact known
  offer := fun _ _ _ known => known

/-- The PC in a response to READ_REGISTERS that ends a history, with the one the peer was told
before. -/
def lastRead (h : SessionHistory) : Option UInt32 × Option UInt32 :=
  match h.getLast? with
  | some ⟨.offer f, _⟩ =>
    if isAccepted Opcode.readRegisters f then (registersFramePc f,
      (pcView h.dropLast).told) else (none, none)
  | _ => (none, none)

theorem PcExecutes.lastRead {T : Type} {env : SessionEnvironment T} {pc : T → Option UInt32}
    {t₀ : T} {w : SessionWorld T} {p q : UInt32} (executes : PcExecutes env pc t₀ w)
    (last : lastRead w.history = (some p, some q)) : p = q := by
  have read := executes.read
  generalize w.history = h at last read
  cases h using List.reverseRecOn with
  | nil => exact absurd last (by simp [SidpClient.lastRead])
  | append_singleton h ev =>
    obtain ⟨e, reply⟩ := ev
    cases e with
    | call s c => exact absurd last (by simp [SidpClient.lastRead])
    | offer f =>
      simp only [SidpClient.lastRead, List.getLast?_concat, List.dropLast_concat] at last
      split at last
      · rename_i accepted
        simp only [Prod.mk.injEq] at last
        exact read h f reply [] rfl accepted p q last.1 last.2
      · exact absurd last (by simp)

/-- The peer is told PC 0 in the STOPPED, its own write of another fails, and it reads that one. -/
theorem hasty_write_misreports : ¬∀ (env : SessionEnvironment UInt32) (pc : UInt32 → Option UInt32),
    RegisterContract env pc → ∀ (t₀ : UInt32) (inputs : List Input),
      PcExecutes env pc t₀ (playSession env (freshWorld t₀) inputs) := by
  intro claim
  have executes := claim hasty some hasty_contract 0
    [.request (requestMessage .attach 1 [0, 0, 0, 0, 0, 1, 0, 0]),
      .request (requestMessage .writeRegisters 2
        ([1, 0, 0, 0, 0, 0, 1, 0] ++ pcEntryBytes 0x20000100)),
      .request (requestMessage .readRegisters 3 [1, 0, 0, 0, 0, 0, 1, 0, 15, 0])]
  have last : lastRead (playSession hasty (freshWorld 0)
      [.request (requestMessage .attach 1 [0, 0, 0, 0, 0, 1, 0, 0]),
        .request (requestMessage .writeRegisters 2
          ([1, 0, 0, 0, 0, 0, 1, 0] ++ pcEntryBytes 0x20000100)),
        .request (requestMessage .readRegisters 3 [1, 0, 0, 0, 0, 0, 1, 0, 15, 0])]).history =
          (some 0x20000100, some 0) := by decide +kernel
  exact absurd (executes.lastRead last) (by decide)

end SidpClient
