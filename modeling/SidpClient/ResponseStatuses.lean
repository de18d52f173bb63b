import SidpClient.LostTerminal

/-! Which responses put the blame on missing resources: only those of a check, or of a backend call
that failed. -/
namespace SidpClient
open LittleEndian Interactive

def Status.blamesResources : Status → Bool
  | .unsupported | .noBreakpointSlot | .noWatchpointSlot => true
  | _ => false

/-- The check refuses with no such status. -/
abbrev Spares {β : Type} (x : Except Status β) : Prop := RefusesWith (·.blamesResources = false) x

/-- A frame that is no response with such a status. -/
def PoliteFrame (f : List UInt8) : Prop :=
  isResponse f = true → ∀ status : Status, status.blamesResources = true →
    frameStatus f ≠ status.value

def PoliteEffect : Effect → Prop
  | .call _ _ => True
  | .offer f => PoliteFrame f

/-- The history goes on with polite frames. -/
def PoliteHistory (h h' : SessionHistory) : Prop :=
  ∃ evs, h' = h ++ evs ∧ ∀ ev ∈ evs, PoliteEffect ev.1

/-- An action that never blames resources. -/
abbrev Polite {α : Type} (m : SessionM α) : Prop := m.Guarded (fun _ => True) PoliteEffect

variable {s : Session} {h h' h'' evs : SessionHistory} {α : Type} {requestId : UInt32}
  {payload : List UInt8}

/-! Rules. -/

theorem PoliteHistory.refl (h : SessionHistory) : PoliteHistory h h :=
  ⟨[], (List.append_nil h).symm, fun _ hm => absurd hm List.not_mem_nil⟩

theorem PoliteHistory.trans (p : PoliteHistory h h') (p' : PoliteHistory h' h'') :
    PoliteHistory h h'' := by
  obtain ⟨evs, rfl, polite⟩ := p
  obtain ⟨evs', rfl, polite'⟩ := p'
  refine ⟨evs ++ evs', List.append_assoc h evs evs', fun ev hm => ?_⟩
  rcases List.mem_append.mp hm with hm | hm
  · exact polite ev hm
  · exact polite' ev hm

theorem PoliteHistory.call {c : Call} {a : Answer} : PoliteHistory h (h ++ [⟨.call s c, a⟩]) := by
  refine ⟨_, rfl, fun ev hm => ?_⟩
  rw [List.mem_singleton.mp hm]
  trivial

theorem Offered.polite {P : List UInt8 → Prop} {dead : Bool} (ho : Offered s P dead evs)
    (hP : ∀ f, P f → PoliteFrame f) : PoliteHistory h (h ++ evs) := by
  refine ⟨evs, rfl, fun ev hm => ?_⟩
  rcases ho with ⟨-, -, rfl⟩ | ⟨-, f, accepted, hf, -, rfl⟩
  · exact absurd hm List.not_mem_nil
  · rw [List.mem_singleton.mp hm]
    exact hP f hf

theorem QuietHistory.polite (q : QuietHistory h h') : PoliteHistory h h' := by
  obtain ⟨evs, rfl, quiet⟩ := q
  refine ⟨evs, rfl, fun ev hm => ?_⟩
  have hev := quiet ev hm
  obtain ⟨e, reply⟩ := ev
  cases e with
  | call s c => trivial
  | offer f => exact absurd hev id

theorem Polite.of_history {m : SessionM α} (hm : ∀ s h, m.wp s h fun _ _ h' => PoliteHistory h h') :
    Polite m := fun s h _ => Action.wp_mono (hm s h) fun _ _ _ done => ⟨trivial, done⟩

theorem Polite.history {m : SessionM α} (hm : Polite m) :
    m.wp s h fun _ _ h' => PoliteHistory h h' :=
  Action.wp_mono (hm s h trivial) fun _ _ _ done => done.2

/-- What comes after a polite history. -/
theorem Polite.after {m : SessionM α} (hm : Polite m) (p : PoliteHistory h h') :
    m.wp s h' fun _ _ h'' => PoliteHistory h h'' :=
  Action.wp_mono hm.history fun _ _ _ done => p.trans done

theorem Polite.of_quiet {m : SessionM α} (hm : ∀ s h, m.wp s h fun _ _ h' => QuietHistory h h') :
    Polite m :=
  Polite.of_history fun s h => Action.wp_mono (hm s h) fun _ _ _ done => done.polite

theorem getSession_polite {f : Session → SessionM α} (hf : ∀ s, Polite (f s)) :
    Polite (getSession >>= f) := .get_bind fun s _ => hf s

theorem updateSession_polite (f : Session → Session) : Polite (updateSession f) :=
  .modify fun _ _ => trivial

theorem backend_polite (c : Call) : Polite (backend c) := .ask fun _ _ => trivial

/-! Frames. -/

section
variable {f : List UInt8} {opcode : UInt16} {status : Status}

theorem politeFrame_of_status (status : Status) (hstatus : frameStatus f = status.value)
    (hs : status.blamesResources = false) : PoliteFrame f := by
  intro _ other blames same
  rw [Status.value_injective (hstatus.symm.trans same)] at hs
  exact absurd (hs.symm.trans blames) (by decide)

theorem ResponseFrame.polite (hf : ResponseFrame opcode requestId status f)
    (hs : status.blamesResources = false) : PoliteFrame f := politeFrame_of_status _ hf.status hs

theorem HasHeader.polite_event (hf : HasHeader f MsgKind.event opcode requestId) :
    PoliteFrame f := by
  intro response
  rw [isResponse, frameKind, hf.kind] at response
  exact absurd response (by decide)

theorem respond_polite (opcode : UInt16) (requestId : UInt32) (status : Status)
    (hs : status.blamesResources = false) : Polite (respond opcode requestId status) := by
  apply Polite.of_history
  intro s h
  apply respond_wp
  intro b dead evs sent
  exact sent.polite fun f hf => hf.polite hs

theorem enterLost_polite (reason : TargetLostReason) : Polite (enterLost reason) := by
  apply Polite.of_history
  intro s h
  apply enterLost_wp
  · exact fun _ => .refl h
  · intro _ b dead evs sent
    exact sent.polite fun f hf => hf.header.polite_event

theorem emitPendingStopped_polite : Polite emitPendingStopped := by
  have sent : Polite sendStopped := by
    apply Polite.of_history
    intro s h
    by_cases fits : SnapshotFits s
    · apply sendStopped_wp fits
      intro b n dead evs sent
      exact sent.polite fun f hf => hf.header.polite_event
    · simp only [sendStopped, Action.wp_bind, getSession_wp, beginFrame_wp]
      refine ⟨fun _ => PoliteHistory.refl h, fun small => absurd ?_ fits⟩
      simp only [SnapshotFits, snapshotBlobCapacity, stoppedEventSize, maxFrameSize,
        headerSize] at small ⊢
      omega
  exact getSession_polite fun _ => .ite (fun _ => .pure _) fun _ => .bind sent fun _ => .pure _

theorem sendBackendFailure_polite (opcode : UInt16) (requestId : UInt32) (result : EspErr)
    (fallback : Status) (hs : fallback.blamesResources = false) :
    Polite (sendBackendFailure opcode requestId result fallback) := by
  refine .ite (fun _ => .bind (respond_polite _ _ _ rfl) fun _ => .bind (enterLost_polite _)
    fun _ => .pure _)
    fun _ => respond_polite _ _ _ ?_
  split
  · rfl
  · exact hs

/-- The status of a frame whose payload starts with it. -/
theorem sealedFrame_status {b : Buffer} {n : ℕ} (crc : UInt32) (status : Status) (rest : List UInt8)
    (hn : 16 ≤ n) :
    frameStatus
      (sealedFrame (b.write (headerSize + 0) (le32 status.value ++ rest)) n crc) =
      status.value := by
  have h4 : (le32 status.value).length = 4 := le32_length _
  have field : (b.write (headerSize + 0) (le32 status.value ++ rest)).read headerSize 4 =
      le32 status.value := by
    have inside := Buffer.read_write_inside b (headerSize + 0) (le32 status.value ++ rest) 0
        4 (by simp [h4])
    rw [slice, List.drop_zero, List.take_left' h4] at inside
    exact inside
  rw [frameStatus, getU32, sealedFrame_slice _ _ _ _ _ (by simp only [headerSize]; omega)
    (by decide), field, ofNat_leNat_le32]

end

/-! The parts of the handlers. -/

theorem swBpRestoreAll_polite : Polite swBpRestoreAll :=
  .of_quiet fun _ _ => Action.wp_mono swBpRestoreAll_quiet fun _ _ _ done => done.history

theorem rollbackRunConfig_polite : Polite rollbackRunConfig :=
  .of_quiet fun _ _ => Action.wp_mono rollbackRunConfig_quiet fun _ _ _ done => done.1

theorem failRun_polite (requestId : UInt32) (status : Status)
    (hs : status.blamesResources = false) :
    Polite (failRun requestId status) := by
  apply Action.Guarded.bind rollbackRunConfig_polite
  intro restored
  have answer : Polite (respond Opcode.run requestId (if restored then status else .swdError)) := by
    apply respond_polite
    split
    · exact hs
    · rfl
  exact .bind answer fun _ => .ite (fun _ => enterLost_polite _) fun _ => .pure _

theorem executeStepOver_polite (action : UInt8) : Polite (executeStepOver action) := by
  have restore (bp : Option ℕ) : Polite (swBpRestoreFound bp) :=
    .of_quiet fun _ _ => Action.wp_mono (swBpRestoreFound_quiet bp) fun _ _ _ done => done.history
  have install (bp : Option ℕ) : Polite (swBpInstallFound bp) :=
    .of_quiet fun _ _ => Action.wp_mono (swBpInstallFound_quiet bp) fun _ _ _ done => done.history
  have write (pc : UInt32) : Polite (writeCurrentPc pc) :=
    .of_quiet fun _ _ => Action.wp_mono (writeCurrentPc_quiet pc) fun _ _ _ done => done.history
  have poll : Polite (pollStepHalted 100) :=
    .of_quiet fun _ _ => Action.wp_mono (pollStepHalted_polled 100) fun _ _ _ done => done.1.quiet
  apply getSession_polite
  intro s
  apply Action.Guarded.ite (fun _ => .pure _)
  intro _
  apply Action.Guarded.bind (restore _)
  intro _
  apply Action.Guarded.ite (fun _ => .pure _)
  intro _
  apply Action.Guarded.bind (write _)
  intro _
  apply Action.Guarded.ite (fun _ => .bind (install _) fun _ => .pure _)
  intro _
  apply Action.Guarded.bind (backend_polite _)
  intro _
  apply Action.Guarded.ite (fun _ => .pure _)
  intro _
  apply Action.Guarded.bind poll
  intro outcome
  cases outcome with
  | error reason => exact .pure _
  | ok stop =>
    exact .bind (updateSession_polite _) fun _ => .bind (install _) fun _ => .ite (fun _ => .pure _)
      fun _ => .ite (fun _ => .pure _) fun _ => .ite (fun _ => .pure _) fun _ => .pure _

theorem enterHalted_polite (stop : StopDetect) : Polite (enterHalted stop) := by
  have capture : Polite captureSnapshot := .of_quiet fun _ _ => captureSnapshot_quiet
  exact getSession_polite fun _ => .ite (fun _ => .pure _) fun _ => .bind (updateSession_polite _)
    fun _ => .ite (fun _ => .bind (enterLost_polite _) fun _ => .pure _) fun _ =>
      .bind (updateSession_polite _) fun _ => capture

theorem pollStop_polite : Polite pollStop :=
  .bind (backend_polite _) fun _ => .ite (fun _ => enterLost_polite _) fun _ =>
    .ite (fun _ => .bind (enterHalted_polite _) fun _ => emitPendingStopped_polite) fun _ => .pure _

theorem handleDisconnect_polite : Polite handleDisconnect := by
  have lose : Polite (do updateSession fun s => { s with state := .lost }; return false) :=
    .bind (updateSession_polite _) fun _ => .pure _
  exact .bind (updateSession_polite _) fun _ => getSession_polite fun _ => .ite (fun _ => .pure _)
    fun _ => .bind (backend_polite _) fun _ => .ite (fun _ => lose)
      fun _ => .bind swBpRestoreAll_polite fun _ => .ite (fun _ => lose)
        fun _ => .bind (backend_polite _) fun _ => .ite (fun _ => lose) fun _ =>
        .bind (updateSession_polite _) fun _ => .pure _

theorem haltAfterAttach_polite : Polite haltAfterAttach :=
  .bind (backend_polite _) fun _ => .ite (fun _ => .bind (enterLost_polite _) fun _ => .pure _)
    fun _ => .ite (fun _ => .bind (enterHalted_polite _) fun _ => emitPendingStopped_polite)
      fun _ => .bind (backend_polite _) fun _ => .ite
        (fun _ => .bind (enterHalted_polite _) fun _ => emitPendingStopped_polite) fun _ =>
          .ite (fun _ => .bind (enterLost_polite _) fun _ => .pure _) fun _ =>
            .bind (updateSession_polite _) fun _ => .pure _

/-! The handlers. -/

theorem opAttach_polite (requestId : UInt32) (payload : List UInt8) :
    Polite (opAttach requestId payload) := by
  have refuse (status : Status) (hs : status.blamesResources = false) :
      Polite (do respond Opcode.attach requestId status; return) :=
    .bind (respond_polite _ _ _ hs) fun _ => .pure _
  have reject :
      Polite (do respond Opcode.attach requestId .error; let _ ← handleDisconnect; return) :=
    .bind (respond_polite _ _ _ rfl) fun _ => .bind handleDisconnect_polite fun _ => .pure _
  apply getSession_polite
  intro s
  refine .ite (fun _ => refuse _ rfl) fun _ => .ite (fun _ => refuse _ rfl) fun _ =>
    .bind (backend_polite _) fun a =>
      .ite (fun _ => .bind (sendBackendFailure_polite _ _ _ _ rfl) fun _ => .pure _) fun _ =>
        .bind (updateSession_polite _) fun _ => .ite (fun _ => reject) fun _ =>
          .bind (updateSession_polite _) fun _ => Polite.of_history fun s h => ?_
  generalize normalizeAttachInfo a.info = info
  rw [Action.wp_bind, beginFrame_wp]
  refine ⟨fun _ => reject.history, fun small => ?_⟩
  simp only [Bool.not_true, Bool.false_eq_true, if_false, Action.wp_bind, writePayload_wp]
  have fits :
      isValidMessageSize (headerSize + (attachResponseSize + info.memoryRegions.length)) := by
    simp only [isValidMessageSize, maxFrameSize, headerSize] at small ⊢
    omega
  refine finishFrame_offered (s := s) (b := attachBuffer s.scratch requestId info)
    (P := PoliteFrame) fits
    (fun crc => ?_) fun b dead evs sent => ?_
  · have frame := attachBuffer_frame s.scratch requestId info crc
    have advertised := frame.map
    rw [advertisedBy] at advertised
    split at advertised
    · rename_i response
      exact politeFrame_of_status _ response.2.2 rfl
    · exact absurd advertised (by simp)
  · have polite : PoliteHistory h (h ++ evs) := sent.polite fun _ hf => hf
    cases dead with
    | true => exact polite
    | false =>
      simp only [Bool.not_false, Bool.not_true, Bool.false_eq_true, if_false, Action.wp_ite]
      exact ⟨fun _ => haltAfterAttach_polite.after polite, fun _ =>
        (updateSession_polite _).after polite⟩

theorem opDetach_polite (requestId : UInt32) (payload : List UInt8) :
    Polite (opDetach requestId payload) := by
  have refuse : Polite (do respond Opcode.detach requestId .swdError; return) :=
    .bind (respond_polite _ _ _ rfl) fun _ => .pure _
  have release (action : UInt8) : Polite (releaseTarget requestId action) :=
    .bind swBpRestoreAll_polite fun _ => .ite (fun _ => refuse) fun _ => .bind (backend_polite _)
      fun _ => .ite (fun _ => refuse) fun _ => .bind (respond_polite _ _ _ rfl) fun _ =>
        updateSession_polite _
  have halt : Polite (haltForDetach requestId) := by
    refine getSession_polite fun s => .ite (fun _ => .pure _) fun _ => .bind (backend_polite _)
      fun a => .ite (fun _ => .bind (sendBackendFailure_polite _ _ _ _ rfl) fun _ => .pure _)
        fun _ => ?_
    cases softwareHit s.swTable a.stop with
    | none => exact .pure _
    | some bp => exact .bind (updateSession_polite _) fun _ => .pure _
  have write (pc : UInt32) : Polite (writeCurrentPc pc) :=
    .of_quiet fun _ _ => Action.wp_mono (writeCurrentPc_quiet pc) fun _ _ _ done => done.history
  have spares : Spares (checkDetach payload) := by simp [checkDetach, Status.blamesResources]
  cases hcheck : checkDetach payload with
  | error status =>
    rw [opDetach, hcheck]
    exact respond_polite _ _ _ (spares status hcheck)
  | ok action =>
    rw [opDetach, hcheck]
    exact .bind halt fun _ => .ite (fun _ => .pure _) fun _ => getSession_polite fun _ =>
      .ite (fun _ => .bind (write _) fun _ => .ite (fun _ => refuse) fun _ => release _)
        fun _ => release _

theorem opGetState_polite (requestId : UInt32) (payload : List UInt8) :
    Polite (opGetState requestId payload) := by
  refine .ite (fun _ => .bind (respond_polite _ _ _ rfl) fun _ => .pure _) fun _ =>
    Polite.of_history fun s h => ?_
  simp only [Action.wp_bind, beginFrame_wp, Action.wp_ite, Action.wp_pure, getSession_wp,
    writePayload_wp]
  refine ⟨fun hn => absurd hn (by decide), fun _ => ⟨fun hf => absurd hf (by decide), fun _ => ?_⟩⟩
  refine finishFrame_offered (s := s) (P := PoliteFrame) (by decide) (fun crc => ?_)
    fun b dead evs sent => sent.polite fun _ hf => hf
  refine politeFrame_of_status .ok ?_ rfl
  rw [getStateResponseBytes, List.append_assoc]
  exact sealedFrame_status crc .ok _ (by decide)

theorem opReadRegisters_polite (requestId : UInt32) (payload : List UInt8) :
    Polite (opReadRegisters requestId payload) := by
  apply getSession_polite
  intro s
  have spares : Spares (checkReadRegisters s payload) := by
    simp [checkReadRegisters, Status.blamesResources]
  cases hcheck : checkReadRegisters s payload with
  | error status => exact respond_polite _ _ _ (spares status hcheck)
  | ok req =>
    apply Polite.of_history
    intro s h
    simp only [Action.wp_bind, beginFrame_wp, Action.wp_ite, Action.wp_pure, getSession_wp,
      writePayload_wp, backend_wp, updateSession_wp]
    refine ⟨fun hn => absurd hn (by decide), fun _ => ⟨fun hf => absurd hf (by decide), fun _ a =>
      ⟨fun _ => ?_, fun _ => ⟨fun _ => ?_, fun fits => ?_⟩⟩⟩⟩
    · exact (sendBackendFailure_polite _ _ _ _ rfl).after .call
    · exact (respond_polite _ _ _ rfl).after .call
    · simp only [registerBlobCapacity, maxFrameSize, headerSize, readRegistersResponseSize] at fits
      refine finishFrame_offered (s := s) (P := PoliteFrame) ?_ (fun crc => ?_)
        fun b dead evs sent => PoliteHistory.call.trans (sent.polite fun _ hf => hf)
      · simp only [isValidMessageSize, maxFrameSize, headerSize, readRegistersResponseSize]
        omega
      · refine politeFrame_of_status .ok ?_ rfl
        rw [List.append_assoc, List.append_assoc]
        refine sealedFrame_status crc .ok _ ?_
        simp only [headerSize, readRegistersResponseSize]
        omega

theorem opWriteRegisters_polite (requestId : UInt32) (payload : List UInt8) :
    Polite (opWriteRegisters requestId payload) := by
  apply getSession_polite
  intro s
  have spares : Spares (checkWriteRegisters s payload) := by
    simp [checkWriteRegisters, Status.blamesResources]
  cases hcheck : checkWriteRegisters s payload with
  | error status => exact respond_polite _ _ _ (spares status hcheck)
  | ok req =>
    exact .bind (backend_polite _) fun _ =>
      .ite (fun _ => .bind (sendBackendFailure_polite _ _ _ _ rfl) fun _ => .pure _) fun _ =>
        .bind (updateSession_polite _) fun _ => respond_polite _ _ _ rfl

theorem opHalt_polite (requestId : UInt32) (payload : List UInt8) :
    Polite (opHalt requestId payload) :=
  .ite (fun _ => .bind (respond_polite _ _ _ rfl) fun _ => .pure _) fun _ =>
    getSession_polite fun _ => .ite (fun _ => .bind (respond_polite _ _ _ rfl) fun _ => .pure _)
      fun _ => .ite (fun _ => .bind (respond_polite _ _ _ rfl) fun _ =>
        .bind emitPendingStopped_polite fun _ => .pure _)
        fun _ => .bind (backend_polite _) fun _ =>
          .ite (fun _ => .bind (sendBackendFailure_polite _ _ _ _ rfl) fun _ => .pure _) fun _ =>
            .bind (enterHalted_polite _) fun _ => .bind (respond_polite _ _ _ rfl) fun _ =>
              emitPendingStopped_polite

/-! The handlers whose checks may blame resources, where they do not. -/

theorem opReadMemory_polite {requestId : UInt32} (spares : Spares (checkReadMemory s payload)) :
    (opReadMemory requestId payload).wp s h fun _ _ h' => PoliteHistory h h' := by
  rw [opReadMemory, Action.wp_bind, getSession_wp]
  cases hcheck : checkReadMemory s payload with
  | error status => exact (respond_polite _ _ _ (spares status hcheck)).history
  | ok req =>
    obtain ⟨-, -, hsize, -⟩ := checkReadMemory_ok hcheck
    simp only [maxFrameSize, headerSize, readMemoryResponseSize] at hsize
    simp only [Action.wp_bind, Action.wp_ite, Action.wp_pure, beginFrame_wp, backend_wp,
      writePayload_wp, getSession_wp]
    refine ⟨fun _ => ⟨fun _ => PoliteHistory.refl h, fun hf => absurd rfl hf⟩, fun _ =>
      ⟨fun hf => absurd hf (by decide), fun _ a => ⟨fun _ => ?_, fun _ => ?_⟩⟩⟩
    · exact (sendBackendFailure_polite _ _ _ _ rfl).after .call
    · refine finishFrame_offered (s := s) (P := PoliteFrame) ?_ (fun crc => ?_)
        fun b dead evs sent => PoliteHistory.call.trans (sent.polite fun _ hf => hf)
      · simp only [isValidMessageSize, maxFrameSize, headerSize, readMemoryResponseSize]
        omega
      · refine politeFrame_of_status .ok ?_ rfl
        rw [List.append_assoc]
        refine sealedFrame_status crc .ok _ ?_
        simp only [headerSize, readMemoryResponseSize]
        omega

theorem opWriteMemory_polite {requestId : UInt32} (spares : Spares (checkWriteMemory s payload)) :
    (opWriteMemory requestId payload).wp s h fun _ _ h' => PoliteHistory h h' := by
  rw [opWriteMemory, Action.wp_bind, getSession_wp]
  cases hcheck : checkWriteMemory s payload with
  | error status => exact (respond_polite _ _ _ (spares status hcheck)).history
  | ok req =>
    exact Polite.history (.bind (updateSession_polite _) fun _ => .bind (backend_polite _) fun _ =>
      .ite (fun _ => .bind (sendBackendFailure_polite _ _ _ _ rfl) fun _ => .pure _) fun _ =>
        .bind (updateSession_polite _) fun _ => respond_polite _ _ _ rfl)

theorem prepareReset_polite (opcode : UInt16) (requestId : UInt32) :
    Polite (prepareReset opcode requestId) := by
  have clear : Polite (do
      if !(← rollbackRunConfig) then
        respond opcode requestId .swdError
        enterLost .swdFault
        return false
      return true) :=
    .bind rollbackRunConfig_polite fun _ => .ite (fun _ => .bind (respond_polite _ _ _ rfl) fun _ =>
      .bind (enterLost_polite _) fun _ => .pure _) fun _ => .pure _
  exact getSession_polite fun _ => .ite (fun _ => .bind (backend_polite _) fun _ =>
    .ite (fun _ => .bind (sendBackendFailure_polite _ _ _ _ rfl) fun _ => .pure _) fun _ =>
      .bind (enterHalted_polite _) fun _ => clear) fun _ => clear

theorem resetFailed_polite (opcode : UInt16) (requestId : UInt32) (result : EspErr) :
    Polite (resetFailed opcode requestId result) := by
  refine .bind (respond_polite _ _ _ ?_) fun _ => enterLost_polite _
  split
  · rfl
  · rfl

theorem opResetHalt_polite {requestId : UInt32}
    (spares : Spares (checkReset s Cap.resetHalt payload)) :
    (opResetHalt requestId payload).wp s h fun _ _ h' => PoliteHistory h h' := by
  rw [opResetHalt, Action.wp_bind, getSession_wp]
  cases hcheck : checkReset s Cap.resetHalt payload with
  | error status => exact (respond_polite _ _ _ (spares status hcheck)).history
  | ok kind =>
    exact Polite.history (.bind (prepareReset_polite _ _) fun _ => .ite (fun _ => .pure _) fun _ =>
      .bind (backend_polite _) fun _ => .ite (fun _ => .bind (resetFailed_polite _ _ _)
        fun _ => .pure _) fun _ => .bind (updateSession_polite _) fun _ =>
          .bind (enterHalted_polite _) fun _ => .bind (updateSession_polite _)
          fun _ => .bind (respond_polite _ _ _ rfl) fun _ =>
            emitPendingStopped_polite)

theorem opResetRun_polite {requestId : UInt32}
    (spares : Spares (checkReset s Cap.resetRun payload)) :
    (opResetRun requestId payload).wp s h fun _ _ h' => PoliteHistory h h' := by
  rw [opResetRun, Action.wp_bind, getSession_wp]
  cases hcheck : checkReset s Cap.resetRun payload with
  | error status => exact (respond_polite _ _ _ (spares status hcheck)).history
  | ok kind =>
    exact Polite.history (.bind (prepareReset_polite _ _) fun _ => .ite (fun _ => .pure _) fun _ =>
      .bind (backend_polite _) fun _ => .ite (fun _ => .bind (resetFailed_polite _ _ _)
        fun _ => .pure _) fun _ => .bind (updateSession_polite _) fun _ => respond_polite _ _ _ rfl)

end SidpClient
