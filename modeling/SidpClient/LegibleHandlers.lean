import SidpClient.LegibleFrames
import SidpClient.ReservedBytes

/-! Every handler offers whole and backed frames only, and so does every run of the session. -/
namespace SidpClient
open LittleEndian Interactive

variable {o : Occasion} {s s' : Session} {h h' evs : SessionHistory} {requestId : UInt32}
  {payload : List UInt8}

theorem running_away : TargetState.running ≠ .halted := by decide
theorem lost_away : TargetState.lost ≠ .halted := by decide
theorem detached_away : TargetState.detached ≠ .halted := by decide

/-! ATTACH, DETACH and GET_STATE. -/

theorem detachedState_legible : Legibly o (updateSession Session.detachedState) :=
  leave_legible (fun _ _ hp => hp.emptied rfl rfl rfl rfl rfl) fun _ => detached_away

theorem running_legible : Legibly o (updateSession fun s => { s with state := .running }) :=
  leave_legible (fun _ _ hp => hp.same rfl) fun _ => running_away

theorem handleDisconnect_legible : Legibly o handleDisconnect := by
  have lose : Legibly o (do updateSession fun s => { s with state := .lost }; return false) :=
    .bind (leave_legible (fun _ _ hp => hp.same rfl) fun _ => lost_away) fun _ => .pure _
  exact .bind (updateOther_legible (fun _ => rfl) (fun _ => rfl) fun _ => id) fun _ =>
    getSession_legible fun _ => .ite (fun _ => .pure _) fun _ => .bind (backend_legible rfl)
      fun _ => .ite (fun _ => lose) fun _ => .bind legible_undisturbed.restoreAll
        fun _ => .ite (fun _ => lose) fun _ => .bind (backend_legible rfl)
          fun _ => .ite (fun _ => lose) fun _ => .bind detachedState_legible fun _ => .pure _

theorem haltAfterAttach_legible : Legibly o haltAfterAttach :=
  .bind (backend_legible rfl) fun _ => .ite (fun _ => .bind (enterLost_legible _) fun _ => .pure _)
    fun _ => .ite (fun _ => .bind (enterHalted_legible _) fun _ => emitPendingStopped_legible)
      fun _ => .bind (backend_legible rfl) fun _ =>
        .ite (fun _ => .bind (enterHalted_legible _) fun _ => emitPendingStopped_legible) fun _ =>
          .ite (fun _ => .bind (enterLost_legible _) fun _ => .pure _) fun _ =>
            .bind running_legible fun _ => .pure _

theorem attached_payload (requestId : UInt32) (info : AttachInfo) :
    (Report.attached requestId info).payload = attachResponseBytes info ++ info.memoryRegions := by
  simp [Report.payload, attachResponseBytes]

theorem opAttach_legible (named : requestId ≠ 0) (payload : List UInt8) (hl : Legible o s h)
    (detached : s.state = .detached) : (opAttach requestId payload).wp s h fun _ => Legible o := by
  have away : s.state ≠ .halted := by
    rw [detached]
    exact detached_away
  have refuse (status : Status) (refused : status ≠ .ok) :
      Legibly o (do respond Opcode.attach requestId status; return) :=
    .bind (refuse_legible named refused) fun _ => .pure _
  have reject :
      Legibly o (do respond Opcode.attach requestId .error; let _ ← handleDisconnect; return) :=
    .bind (refuse_legible named (by decide)) fun _ => .bind handleDisconnect_legible
      fun _ => .pure _
  have fail (result : EspErr) :
      Legibly o (do sendBackendFailure Opcode.attach requestId result .swdError; return) :=
    .bind (sendBackendFailure_legible named (by decide)) fun _ => .pure _
  apply Action.wp_bind.mpr
  rw [getSession_wp, Action.wp_ite]
  refine ⟨fun _ => refuse _ (by decide) s h hl, fun _ => ?_⟩
  rw [Action.wp_ite]
  refine ⟨fun _ => refuse _ (by decide) s h hl, fun _ => ?_⟩
  rw [Action.wp_bind, backend_wp]
  intro a
  rw [Action.wp_ite]
  refine ⟨fun _ => fail _ s _ (hl.attach away), fun ok => ?_⟩
  have code : a.code = .ok := not_not.mp ok
  have reported (params : AttachParams) :
      lastAttach (h ++ [⟨.call s (.attach params), a⟩]) = some ⟨a.info, none⟩ := by
    rw [lastAttach, view_concat, lastAttachStep, lastAttachCall, if_pos code]
  have taken (params : AttachParams) (regions : List MemoryRegion) :
      Legible o { s.attachedWith (normalizeAttachInfo a.info) with regions := regions }
        (h ++ [⟨.call s (.attach params), a⟩]) :=
    (hl.attached away).session fun hp => hp.same rfl rfl id
  -- attached from here on: a malformed map goes through the disconnect path
  dsimp only
  rw [Action.wp_bind, updateSession_wp, Action.wp_ite]
  refine ⟨fun _ => reject _ _ (taken _ []), fun formed => ?_⟩
  rw [Action.wp_bind, updateSession_wp, Action.wp_bind, beginFrame_wp]
  refine ⟨fun _ => ?_, fun small => ?_⟩
  · rw [Action.wp_ite]
    exact ⟨fun _ => reject _ _ (taken _ _), fun began => absurd rfl began⟩
  rw [Action.wp_ite]
  refine ⟨fun began => absurd began (by decide), fun _ => ?_⟩
  rw [Action.wp_bind, writePayload_wp, Action.wp_bind, writePayload_wp, Action.wp_bind]
  have backed (params : AttachParams) : Backed o.input (h ++ [⟨.call s (.attach params), a⟩])
      (Report.attached requestId (normalizeAttachInfo a.info)) := ⟨a.info, reported params, rfl⟩
  generalize normalizeAttachInfo a.info = info at formed small taken backed ⊢
  have rows : info.memoryRegions.length % memoryRegionSize = 0 := by
    simp only [wellFormedMap, Bool.not_eq_true', Bool.not_eq_false, Bool.and_eq_true,
      beq_iff_eq] at formed
    exact formed.1
  have total : (Report.attached requestId info).payload.length = attachResponseSize +
      info.memoryRegions.length := by
    rw [attached_payload, List.length_append, attachResponseBytes_length]
    rfl
  have written (c : Buffer) : (c.write (headerSize + 0) (attachResponseBytes info)).write
      (headerSize + attachResponseSize) info.memoryRegions =
        c.write headerSize (Report.attached requestId info).payload := by
    rw [attached_payload, Buffer.write_append, attachResponseBytes_length]
    rfl
  have fits : (Report.attached requestId info).Fits := by
    refine ⟨?_, fun _ => named, rows⟩
    rw [total]
    simp only [headerSize, maxFrameSize] at small ⊢
    omega
  apply Action.wp_mono (finishFrame_legible (taken _ _) (begun_within _ _ _)
    (read_headerBytes _ _ _ _) (written _)
    (by rw [total]) fits (backed _))
  intro sent s₁ evs legible
  rw [Action.wp_ite]
  refine ⟨fun _ => legible, fun _ => ?_⟩
  rw [Action.wp_ite]
  refine ⟨fun _ => haltAfterAttach_legible s₁ _ legible, fun _ => ?_⟩
  exact running_legible s₁ _ legible

theorem opDetach_legible (named : requestId ≠ 0) (payload : List UInt8) :
    Legibly o (opDetach requestId payload) := by
  have refuse : Legibly o (do respond Opcode.detach requestId .swdError; return) :=
    .bind (refuse_legible named (by decide)) fun _ => .pure _
  have release (action : UInt8) : Legibly o (releaseTarget requestId action) :=
    .bind legible_undisturbed.restoreAll fun _ => .ite (fun _ => refuse)
      fun _ => .bind (backend_legible rfl)
      fun _ => .ite (fun _ => refuse) fun _ => .bind (respond_legible named fun _ => rfl) fun _ =>
        detachedState_legible
  have halt : Legibly o (haltForDetach requestId) := by
    refine getSession_legible fun s => .ite (fun _ => .pure _) fun _ => .bind (backend_legible rfl)
      fun a => .ite (fun _ => .bind (sendBackendFailure_legible named (by decide)) fun _ => .pure _)
        fun _ => ?_
    cases softwareHit s.swTable a.stop with
    | none => exact .pure _
    | some bp =>
      exact .bind (updateOther_legible (fun _ => rfl) (fun _ => rfl) fun _ => id) fun _ => .pure _
  cases hcheck : checkDetach payload with
  | error status =>
    rw [opDetach, hcheck]
    exact respond_legible named fun _ => rfl
  | ok action =>
    rw [opDetach, hcheck]
    exact .bind halt fun _ => .ite (fun _ => .pure _) fun _ => getSession_legible fun _ =>
      .ite (fun _ => .bind (writeCurrentPc_legible _) fun _ => .ite (fun _ => refuse)
        fun _ => release _)
        fun _ => release _

theorem opGetState_legible (named : requestId ≠ 0) (payload : List UInt8) :
    Legibly o (opGetState requestId payload) := by
  refine .ite (fun _ => .bind (refuse_legible named (by decide)) fun _ => .pure _) fun _ => ?_
  intro s h hl
  simp only [Action.wp_bind, beginFrame_wp, Action.wp_ite, Action.wp_pure, getSession_wp,
    writePayload_wp]
  refine ⟨fun hn => absurd hn (by decide), fun _ => ⟨fun hf => absurd hf (by decide), fun _ => ?_⟩⟩
  have bytes : (Report.state requestId s.state (if s.state = .halted then s.stopId else 0)).payload
      = getStateResponseBytes s := by simp [Report.payload, getStateResponseBytes]
  have written (c : Buffer) : c.write (headerSize + 0) (getStateResponseBytes s) =
      c.write headerSize (Report.state requestId s.state
        (if s.state = .halted then s.stopId else 0)).payload := by
    rw [bytes]
    rfl
  apply finishFrame_legible (s := s) hl (begun_within _ _ _) (read_headerBytes _ _ _ _) (written _)
  · simp [Report.payload, headerSize, getStateResponseSize]
  · refine ⟨?_, fun _ => named, trivial⟩
    simp [Report.payload, headerSize, maxFrameSize]
  · trivial

/-! Memory and registers. -/

/-- The request being handled. -/
def Occasion.Asks (o : Occasion) (requestId : UInt32) (payload : List UInt8) : Prop :=
  ∃ message, o.input = .request message ∧ (MsgHeader.parse message).requestId = requestId ∧
    message.drop headerSize = payload

theorem opReadMemory_legible (named : requestId ≠ 0) (payload : List UInt8)
    (asked : o.Asks requestId payload) :
    Legibly o (opReadMemory requestId payload) := by
  apply getSession_legible
  intro s
  cases hcheck : checkReadMemory s payload with
  | error status => exact refuse_legible named (checkReadMemory_refuses s payload status hcheck)
  | ok req =>
    obtain ⟨parsed, -, room, -⟩ := checkReadMemory_ok hcheck
    intro s h hl
    simp only [Action.wp_bind, beginFrame_wp, Action.wp_ite, Action.wp_pure, backend_wp,
      writePayload_wp, getSession_wp]
    refine ⟨fun _ => ⟨fun _ => hl, fun hf => absurd rfl hf⟩, fun small =>
      ⟨fun hf => absurd hf (by decide), fun _ a => ?_⟩⟩
    have few := List.length_take_le req.length.toNat a.data
    have within (i : ℕ) (hi : maxFrameSize ≤ i) :
        (s.scratch.write 0 (headerBytes MsgKind.response Opcode.readMemory requestId)).write
          (headerSize + readMemoryResponseSize) (a.data.take req.length.toNat) i = s.scratch i := by
      rw [write_within _ hi]
      · exact begun_within _ _ _ i hi
      · simp only [headerSize, maxFrameSize, readMemoryResponseSize] at room ⊢
        omega
    refine ⟨fun _ => ?_, fun ok => ?_⟩
    · apply sendBackendFailure_legible named (by decide)
      apply (hl.call rfl).buffered within
      simp only [headerSize, maxFrameSize, readMemoryResponseSize] at room ⊢
      omega
    generalize hc :
      (s.scratch.write 0 (headerBytes MsgKind.response Opcode.readMemory requestId)).write
      (headerSize + readMemoryResponseSize) (a.data.take req.length.toNat) = c at within
    generalize hdata : swBpSubstituteRead s.swTable req.address
      (c.read (headerSize + readMemoryResponseSize) req.length.toNat) = data
    have size : data.length = req.length.toNat := by
      rw [← hdata, swBpSubstituteRead_length, Buffer.read_length]
    have length : UInt32.ofNat data.length = req.length := by rw [size, UInt32.ofNat_toNat]
    have bytes : (Report.memory requestId req.address data).payload =
        (le32 Status.ok.value ++ le64 req.address ++ le32 req.length) ++ data := by
      simp [Report.payload, length]
    have front : (le32 Status.ok.value ++ le64 req.address ++ le32 req.length).length =
        readMemoryResponseSize := by
      simp [readMemoryResponseSize]
    have total : (Report.memory requestId req.address data).payload.length =
        readMemoryResponseSize + req.length.toNat := by
      rw [bytes, List.length_append, front, size]
    have head : c.read 0 8 = headerBytes MsgKind.response Opcode.readMemory requestId := by
      rw [← hc, Buffer.read_write_of_disjoint _ _ _ _ _ (Or.inl (by decide))]
      exact read_headerBytes _ _ _ _
    -- a full answer is what the frame holds
    have given (all : req.length.toNat ≤ a.data.length) :
        c.read (headerSize + readMemoryResponseSize) req.length.toNat =
          a.data.take req.length.toNat := by
      have whole : (a.data.take req.length.toNat).length = req.length.toNat := by
        rw [List.length_take]
        exact Nat.min_eq_left all
      have written := Buffer.read_write_self
        (s.scratch.write 0 (headerBytes MsgKind.response Opcode.readMemory requestId))
        (headerSize + readMemoryResponseSize) (a.data.take req.length.toNat)
      rwa [whole, hc] at written
    -- the call just made answers the request that is handled
    have backed {s₁ : Session} {access : Access} {width : UInt8} (table : s₁.swTable = s.swTable) :
        Backed o.input (h ++ [⟨.call s₁ (.readMem access req.address req.length.toNat width), a⟩])
          (Report.memory requestId req.address data) := by
      obtain ⟨message, handled, same, body⟩ := asked
      have request : MemoryRequest.parse (message.drop headerSize) = req := by rw [body, parsed]
      refine ⟨message, handled, same, by rw [request], by rw [request, size], ?_⟩
      rw [size]
      refine ⟨h, s₁, access, width, a, rfl, not_not.mp ok, fun all => ?_⟩
      rw [table, ← given all]
      exact hdata.symm
    generalize le32 Status.ok.value ++ le64 req.address ++ le32 req.length = fixed at bytes front ⊢
    -- the data stands in the frame before what precedes it
    have written : (c.write (headerSize + readMemoryResponseSize) data).write
        (headerSize + 0) fixed = c.write headerSize
        (Report.memory requestId req.address data).payload := by
      rw [bytes, Buffer.write_append, front, Buffer.write_comm]
      · rfl
      · right
        rw [front]
        rfl
    apply finishFrame_legible (s := s) (r := .memory requestId req.address data)
      (hl.call rfl) within head written
    · rw [total]
    · refine ⟨?_, fun _ => named, trivial⟩
      rw [total]
      simp only [headerSize, maxFrameSize, readMemoryResponseSize] at room ⊢
      omega
    · exact backed rfl

theorem opWriteMemory_legible (named : requestId ≠ 0) (short : payload.length ≤ maxFrameSize) :
    Legibly o (opWriteMemory requestId payload) := by
  apply getSession_legible
  intro s
  cases hcheck : checkWriteMemory s payload with
  | error status => exact respond_legible named fun _ => rfl
  | ok req =>
    -- the image of the write is as long as its data
    have image : Legibly o (updateSession fun t => { t with
        scratch := t.scratch.write 0 (writeImage s.swTable req.address
          (payload.drop writeMemoryRequestSize)) }) := by
      intro t h hl
      have few :
          0 + (writeImage s.swTable req.address (payload.drop writeMemoryRequestSize)).length ≤
          maxFrameSize := by
        rw [writeImage_length, List.length_drop]
        omega
      apply legible_of_trusted
      intro trusted
      exact hl.buffered (fun i hi => write_within few hi) (hl trusted).1.confined.frame
    exact .bind image fun _ => .bind (backend_legible rfl) fun _ =>
      .ite (fun _ => .bind (sendBackendFailure_legible named (by decide)) fun _ => .pure _) fun _ =>
        .bind (updateOther_legible (fun _ => rfl) (fun _ => rfl) fun _ => id) fun _ =>
          respond_legible named fun _ => rfl

/-- The head of a READ_REGISTERS response goes in front of a whole blob. -/
theorem finishRegisters_legible {c : Buffer} {size : ℕ} (named : requestId ≠ 0) (hl : Legible o s h)
    (within : ∀ i, maxFrameSize ≤ i → c i = s.scratch i)
    (head : c.read 0 8 = headerBytes MsgKind.response Opcode.readRegisters requestId)
    (tiles : Tiles (fun i => c (headerSize + readRegistersResponseSize + i)) size)
    (room : size ≤ registerBlobCapacity)
    (backed : ∀ values, registerBytes values = c.read (headerSize + readRegistersResponseSize)
      size → Backed o.input h (Report.registers requestId s.stopId values)) :
    finishFrame.wp
      { s with
        scratch :=
          c.write (headerSize + 0) (le32 Status.ok.value ++ le32 s.stopId ++ le16 (UInt16.ofNat
          (registerEntries (fun i => c (headerSize + readRegistersResponseSize + i))
            size).length) ++ le16 0)
        txFrameSize := headerSize + readRegistersResponseSize + size } h fun _ => Legible o := by
  obtain ⟨values, count, read⟩ := tiles.values
  have blob : c.read (headerSize + readRegistersResponseSize) size = registerBytes values := by
    rw [← read]
    simp [Buffer.read]
  have length : (registerBytes values).length = size := by
    rw [← blob]
    exact Buffer.read_length _ _ _
  rw [← count]
  generalize hfixed : le32 Status.ok.value ++ le32 s.stopId ++ le16
    (UInt16.ofNat values.length) ++ le16 0 = fixed
  have front : fixed.length = readRegistersResponseSize := by
    rw [← hfixed]
    simp [readRegistersResponseSize]
  have bytes : (Report.registers requestId s.stopId values).payload = fixed ++
      registerBytes values := by
    have zero : le16 0 = List.replicate 2 0 := by decide
    rw [← hfixed]
    simp [Report.payload, zero]
  have total : (Report.registers requestId s.stopId values).payload.length =
      readRegistersResponseSize + size := by
    rw [bytes, List.length_append, front, length]
  -- the blob already stands where the payload wants it
  have written : c.write (headerSize + 0) fixed =
      c.write headerSize (Report.registers requestId s.stopId values).payload := by
    have behind : (c.write headerSize fixed).read (headerSize + fixed.length) size =
        c.read (headerSize + fixed.length) size :=
          Buffer.read_write_of_disjoint _ _ _ _ _ (Or.inr le_rfl)
    have kept := Buffer.write_read (c.write headerSize fixed) (headerSize + fixed.length) size
    rw [behind, front, blob] at kept
    rw [bytes, Buffer.write_append, front, kept]
    rfl
  apply finishFrame_legible (s := s) (r := .registers requestId s.stopId values) hl
    within head written
  · rw [total]
    exact Nat.add_assoc _ _ _
  · refine ⟨?_, fun _ => named, trivial⟩
    rw [total]
    simp only [registerBlobCapacity, headerSize, maxFrameSize, readRegistersResponseSize] at room ⊢
    omega
  · exact backed values blob.symm

theorem opReadRegisters_legible (named : requestId ≠ 0) (payload : List UInt8) :
    Legibly o (opReadRegisters requestId payload) := by
  apply getSession_legible
  intro s
  cases hcheck : checkReadRegisters s payload with
  | error status => exact refuse_legible named (checkReadRegisters_refuses s payload status hcheck)
  | ok req =>
    intro s h hl
    simp only [Action.wp_bind, beginFrame_wp, Action.wp_ite, Action.wp_pure, backend_wp,
      writePayload_wp, getSession_wp, updateSession_wp]
    refine ⟨fun big => absurd big (by decide), fun _ =>
      ⟨fun began => absurd began (by decide), fun _ a => ?_⟩⟩
    have few := List.length_take_le registerBlobCapacity a.data
    have within (i : ℕ) (hi : maxFrameSize ≤ i) :
        (s.scratch.write 0 (headerBytes MsgKind.response Opcode.readRegisters requestId)).write
          (headerSize + readRegistersResponseSize) (a.data.take registerBlobCapacity)
          i = s.scratch i := by
      rw [write_within _ hi]
      · exact begun_within _ _ _ i hi
      · simp only [registerBlobCapacity, headerSize, maxFrameSize,
          readRegistersResponseSize] at few ⊢
        omega
    have called (s₁ : Session) (ids : List UInt16) :
        Legible o s (h ++ [⟨.call s₁ (.readRegs ids registerBlobCapacity), a⟩]) := hl.call rfl
    have refused (s₁ : Session) (ids : List UInt16) : Legible o
        (s.framed
          ((s.scratch.write 0 (headerBytes MsgKind.response Opcode.readRegisters requestId)).write
          (headerSize + readRegistersResponseSize) (a.data.take registerBlobCapacity))
          (headerSize + (maxFrameSize - headerSize)) s.transportDead)
        (h ++ [⟨.call s₁ (.readRegs ids registerBlobCapacity), a⟩]) :=
        (called s₁ ids).buffered within (by decide)
    refine ⟨fun _ => sendBackendFailure_legible named (by decide) _ _ (refused _ _),
      fun ok => ⟨fun _ => refuse_legible named (by decide) _ _ (refused _ _), fun room => ?_⟩⟩
    have code : a.code = .ok := not_not.mp ok
    have fits : a.outSize ≤ registerBlobCapacity := not_lt.mp room
    apply legible_of_trusted
    intro trusted
    obtain ⟨given, tiles⟩ := trusted _ (List.mem_append_right _ List.mem_cons_self) code fits
    refine finishRegisters_legible (s := s) named (called _ _) ?_ ?_ ?_ fits ?_
    · intro i hi
      have behind : headerSize + readRegistersResponseSize + a.outSize ≤ i := by
        simp only [registerBlobCapacity, headerSize, maxFrameSize,
          readRegistersResponseSize] at fits hi ⊢
        omega
      exact (normalizePc_within _ _ behind).trans (within i hi)
    · exact normalizePcInRegisterBlob_read_header (by decide)
        (read_header_payload (read_headerBytes _ _ _ _))
    · exact (tiles.written _ fits given).normalized _
    · intro values read
      refine ⟨h, _, _, a, rfl, code, rfl, ?_⟩
      rw [read]
      exact normalizedBlob_written _ _ fits given

theorem opWriteRegisters_legible (named : requestId ≠ 0) (payload : List UInt8) :
    Legibly o (opWriteRegisters requestId payload) := by
  have cancel (data : List UInt8) (count : ℕ) :
      Legibly o (updateSession (updateStepOverAfterRegisterWrite data count)) := by
    intro s h hl
    rcases updateStepOver_cases data count s with same | cancelled
    · rw [updateSession_wp, same]
      exact hl
    · rw [updateSession_wp, cancelled]
      exact hl.session fun hp => hp.same rfl rfl id
  apply getSession_legible
  intro s
  cases hcheck : checkWriteRegisters s payload with
  | error status => exact respond_legible named fun _ => rfl
  | ok req =>
    exact .bind (backend_legible rfl) fun _ =>
      .ite (fun _ => .bind (sendBackendFailure_legible named (by decide)) fun _ => .pure _) fun _ =>
        .bind (cancel _ _) fun _ => respond_legible named fun _ => rfl

/-! Run control. -/

theorem opRun_legible (named : requestId ≠ 0) (payload : List UInt8) :
    Legibly o (opRun requestId payload) := by
  apply getSession_legible
  intro s
  cases hcheck : checkRun s payload with
  | error status => exact respond_legible named fun _ => rfl
  | ok plan =>
    apply Action.Preserves.bind (installRun_legible plan)
    intro failure
    cases failure with
    | some status => exact failRun_legible named status
    | none =>
      apply Action.Preserves.bind (executeStepOver_legible _)
      intro outcome
      cases outcome with
      | notNeeded => exact resumeRun_legible named _
      | stepped => exact resumeRun_legible named _
      | stoppedStep stop => exact reportStep_legible named _ _
      | stoppedReal stop => exact reportStep_legible named _ _
      | failed =>
        exact .bind rollbackRunConfig_legible fun _ => .ite (fun _ =>
          respond_legible named fun _ => rfl) fun _ => .bind (respond_legible named fun _ => rfl)
            fun _ => enterLost_legible _
      | failedLost reason =>
        exact .bind (respond_legible named fun _ => rfl) fun _ => enterLost_legible _

theorem opHalt_legible (named : requestId ≠ 0) (payload : List UInt8) :
    Legibly o (opHalt requestId payload) := by
  have answer (status : Status) : Legibly o (respond Opcode.halt requestId status) :=
    respond_legible named fun _ => rfl
  exact .ite (fun _ => .bind (answer _) fun _ => .pure _) fun _ => getSession_legible fun _ =>
    .ite (fun _ => .bind (answer _) fun _ => .pure _) fun _ =>
      .ite (fun _ => .bind (answer _) fun _ => .bind emitPendingStopped_legible fun _ => .pure _)
        fun _ => .bind (backend_legible rfl) fun _ =>
          .ite (fun _ => .bind (sendBackendFailure_legible named (by decide)) fun _ => .pure _)
            fun _ => .bind (enterHalted_legible _) fun _ => .bind (answer _) fun _ =>
              emitPendingStopped_legible

theorem prepareReset_legible (opcode : UInt16) (named : requestId ≠ 0) :
    Legibly o (prepareReset opcode requestId) := by
  have clear : Legibly o (do
      if !(← rollbackRunConfig) then
        respond opcode requestId .swdError
        enterLost .swdFault
        return false
      return true) :=
    .bind rollbackRunConfig_legible fun _ => .ite (fun _ => .bind (refuse_legible named (by decide))
      fun _ => .bind (enterLost_legible _) fun _ => .pure _) fun _ => .pure _
  exact getSession_legible fun _ => .ite (fun _ => .bind (backend_legible rfl) fun _ =>
    .ite (fun _ => .bind (sendBackendFailure_legible named (by decide)) fun _ => .pure _) fun _ =>
      .bind (enterHalted_legible _) fun _ => clear) fun _ => clear

theorem resetFailed_legible (opcode : UInt16) (named : requestId ≠ 0) (result : EspErr) :
    Legibly o (resetFailed opcode requestId result) := by
  refine .bind (refuse_legible named ?_) fun _ => enterLost_legible _
  split <;> decide

/-- A reset clears the stop of the halt before it, and takes in its own. -/
theorem resetHalted_legible (stop : StopDetect) {next : Unit → SessionM Unit}
    (hnext : ∀ u, Legibly o (next u)) :
    Legibly o
      (updateSession (fun s => s.clearDebugState.clearRunTracking) >>= fun _ =>
      enterHalted stop >>= next) := by
  intro s h hl
  rw [Action.wp_bind, updateSession_wp, Action.wp_bind]
  have cleared : Poised o s.clearDebugState.clearRunTracking h :=
    hl.poised.session fun hp => hp.emptied rfl rfl rfl rfl rfl
  apply Action.wp_mono (cleared.halts stop)
  intro u s' evs halted
  exact hnext u s' _ halted

theorem opResetHalt_legible (named : requestId ≠ 0) (payload : List UInt8) :
    Legibly o (opResetHalt requestId payload) := by
  apply getSession_legible
  intro s
  cases hcheck : checkReset s Cap.resetHalt payload with
  | error status => exact respond_legible named fun _ => rfl
  | ok kind =>
    exact .bind (prepareReset_legible _ named) fun _ => .ite (fun _ => .pure _) fun _ =>
      .bind (backend_legible rfl) fun a => .ite (fun _ => .bind (resetFailed_legible _ named _)
        fun _ => .pure _)
        fun _ => resetHalted_legible a.stop fun _ =>
          .bind (updateOther_legible (fun _ => rfl) (fun _ => rfl) fun _ => id) fun _ =>
            .bind (respond_legible named fun _ => rfl) fun _ => emitPendingStopped_legible

theorem opResetRun_legible (named : requestId ≠ 0) (payload : List UInt8) :
    Legibly o (opResetRun requestId payload) := by
  have resumed :
      Legibly o (updateSession fun s =>
      { s.clearDebugState.clearRunTracking with state := .running }) :=
    leave_legible (fun _ _ hp => hp.emptied rfl rfl rfl rfl rfl) fun _ => running_away
  apply getSession_legible
  intro s
  cases hcheck : checkReset s Cap.resetRun payload with
  | error status => exact respond_legible named fun _ => rfl
  | ok kind =>
    exact .bind (prepareReset_legible _ named) fun _ => .ite (fun _ => .pure _) fun _ =>
      .bind (backend_legible rfl) fun _ => .ite (fun _ => .bind (resetFailed_legible _ named _)
        fun _ => .pure _)
        fun _ => .bind resumed fun _ => respond_legible named fun _ => rfl

/-! The run. -/

theorem dispatch_legible (op : RequestOp) (named : requestId ≠ 0)
    (short : payload.length ≤ maxFrameSize) (asked : o.Asks requestId payload) (hl : Legible o s h)
    (gate : (gateTable s.state (gateColumn op)).refusal = none) :
    (dispatch op requestId payload).wp s h fun _ => Legible o := by
  cases op with
  | attach =>
    apply opAttach_legible named payload hl
    cases state : s.state with
    | detached => rfl
    | _ =>
      rw [state] at gate
      exact absurd gate (by decide)
  | detach => exact opDetach_legible named payload s h hl
  | getState => exact opGetState_legible named payload s h hl
  | readMemory => exact opReadMemory_legible named payload asked s h hl
  | writeMemory => exact opWriteMemory_legible named short s h hl
  | readRegisters => exact opReadRegisters_legible named payload s h hl
  | writeRegisters => exact opWriteRegisters_legible named payload s h hl
  | run => exact opRun_legible named payload s h hl
  | halt => exact opHalt_legible named payload s h hl
  | resetHalt => exact opResetHalt_legible named payload s h hl
  | resetRun => exact opResetRun_legible named payload s h hl

theorem handleRequest_legible {message : List UInt8} (handled : o.input = .request message) :
    Legibly o (handleRequest message) := by
  intro s h hl
  apply Action.wp_bind.mpr
  rw [getSession_wp, Action.wp_ite]
  refine ⟨fun _ => hl, fun valid => ?_⟩
  rw [Action.wp_ite]
  refine ⟨fun _ => hl, fun _ => ?_⟩
  rw [Action.wp_ite]
  refine ⟨fun _ => hl, fun request => ?_⟩
  have named : (MsgHeader.parse message).requestId ≠ 0 := fun zero => request (Or.inr zero)
  have size : isValidMessageSize message.length := not_not.mp fun bad => valid (Or.inr bad)
  have short : (message.drop headerSize).length ≤ maxFrameSize := by
    rw [List.length_drop]
    have bound := size.2
    omega
  have asked : o.Asks (MsgHeader.parse message).requestId (message.drop headerSize) :=
    ⟨message, handled, rfl, rfl⟩
  dsimp only
  cases requestOp (MsgHeader.parse message).opcode with
  | none =>
    apply refuse_legible named _ s h hl
    split <;> decide
  | some op =>
    dsimp only
    cases gate : (gateTable s.state (gateColumn op)).refusal with
    | some status => exact refuse_legible named (refusal_not_ok gate) s h hl
    | none => exact dispatch_legible op named short asked hl gate

theorem handle_legible (o : Occasion) : Legibly o (handle o.input) := by
  cases handled : o.input with
  | request message => exact .bind (handleRequest_legible handled) fun _ => .pure _
  | poll => exact .bind (getSession_legible fun _ => .ite (fun _ => .pure _) fun _ =>
      pollStop_legible) fun _ => .pure _
  | disconnect => exact handleDisconnect_legible

/-- A frame a peer can rely on: of a valid size, version and CRC, that of the one report it reads
from it, and what that report says is backed. -/
structure Reliable (i : Input) (h : SessionHistory) (f : List UInt8) (r : Report) : Prop where
  size : isValidMessageSize f.length
  version : getU8 f 0 = protocolVersion
  crc : Crc32.verifyMessageCrc f = true
  read : readFrame f = some r
  fits : r.Fits
  whole : f = r.frame
  backed : Backed i h r
  padding : ∀ reason padding, r = .lost reason padding →
    padding = List.replicate 3 0 ∨ WrapsInReset h

/-- The frame was offered while an input of the run was handled, and is a reliable one. -/
def Explained {T : Type} (env : SessionEnvironment T) (w : SessionWorld T) (inputs : List Input)
    (h : SessionHistory) (f : List UInt8) : Prop :=
  ∃ before i after r, inputs = before ++ i :: after ∧ (playSession env w before).history <+: h ∧
    h.length < (playSession env w (before ++ [i])).history.length ∧ Reliable i h f r

/-- A session whose two buffers hold anything. -/
def bufferedWorld {T : Type} (scratch registers : Buffer) (t₀ : T) : SessionWorld T :=
  ⟨{ scratch, pendingRegisters := registers }, t₀, []⟩

theorem getU8_frame (r : Report) : getU8 r.frame 0 = protocolVersion := rfl

theorem isTargetLost_frame {reason : TargetLostReason} {padding : List UInt8} :
    isTargetLost (Report.lost reason padding).frame = true := by
  have kind : frameKind (Report.lost reason padding).frame = MsgKind.event := rfl
  have opcode : frameOpcode (Report.lost reason padding).frame = Opcode.targetLost := getU16_at rfl
  rw [isTargetLost, SidpClient.isEvent, kind, opcode]
  decide

theorem slice_lost {reason : TargetLostReason} {padding : List UInt8} (size : padding.length = 3) :
    slice (Report.lost reason padding).frame 13 3 = padding := by
  have body : (Report.lost reason padding).frame.drop 12 = (reason.value :: padding) ++
      List.replicate 4 0 := by
    rw [Report.frame, sealMessage, ← List.append_assoc]
    exact List.drop_left' (by simp)
  have inside : 1 + 3 ≤ (reason.value :: padding).length := by
    rw [List.length_cons, size]
  have front : slice (reason.value :: padding) 1 3 = padding := by
    rw [slice, List.drop_one, List.tail_cons, ← size, List.take_length]
  exact (slice_of_drop body inside).trans front

/-- A frame that has its report is reliable, once its reserved bytes are known. -/
theorem Report.Fits.reliable {r : Report} {i : Input} {f : List UInt8} (fits : r.Fits)
    (whole : f = r.frame) (backed : Backed i h r) (blank : BlankLoss h f) : Reliable i h f r := by
  subst whole
  have length : r.frame.length = headerSize + r.payload.length := sealMessage_length _ _ _ _
  refine ⟨?_, getU8_frame r, verify_sealMessage fits.size, Report.readFrame_frame fits, fits,
    rfl, backed, ?_⟩
  · rw [length]
    exact ⟨Nat.le_add_right _ _, fits.size⟩
  · rintro reason padding rfl
    have zero := blank isTargetLost_frame
    rwa [slice_lost fits.consistent] at zero

section
variable {T : Type} {env : SessionEnvironment T} {w : SessionWorld T} {inputs : List Input}
  {f : List UInt8}

theorem Explained.later {i : Input} (explained : Explained env w inputs h f) :
    Explained env w (inputs ++ [i]) h f := by
  obtain ⟨before, j, after, r, rfl, behind, within, reliable⟩ := explained
  exact ⟨before, j, after ++ [i], r, by simp, behind, within, reliable⟩

/-- Between two inputs: the next stop can be shown, and every frame so far is explained. -/
structure Sighted (env : SessionEnvironment T) (scratch registers : Buffer) (t₀ : T)
    (inputs : List Input) (w : SessionWorld T) : Prop where
  presentable : ∀ i past, Presentable ⟨i, past, scratch, registers⟩ w.state w.history
  explained : EveryOffer (Explained env (bufferedWorld scratch registers t₀) inputs) w.history

theorem sighted_start (env : SessionEnvironment T) (scratch registers : Buffer) (t₀ : T) :
    Sighted env scratch registers t₀ [] (bufferedWorld scratch registers t₀) := by
  have confined : Confined scratch registers (bufferedWorld scratch registers t₀).state :=
    ⟨fun _ _ => rfl, fun _ _ => rfl, Nat.zero_le _, Nat.zero_le _⟩
  refine ⟨fun i past => ?_, EveryOffer.nil⟩
  have receptive : Receptive ⟨i, past, scratch, registers⟩
      (bufferedWorld scratch registers t₀).state [] :=
    ⟨confined, tiles_empty _, fun _ => rfl⟩
  exact receptive.presentable detached_away

/-- One input offers explained frames, and leaves a stop that can be shown. -/
theorem Sighted.step {scratch registers : Buffer} {t₀ : T} {i : Input}
    (hw : playSession env (bufferedWorld scratch registers t₀) inputs = w)
    (sighted : Sighted env scratch registers t₀ inputs w)
    (trusted : Trusted (w.step env handle i).history)
    (blank : EveryOffer BlankLoss (w.step env handle i).history) :
    Sighted env scratch registers t₀ (inputs ++ [i]) (w.step env handle i) := by
  have next : playSession env (bufferedWorld scratch registers t₀) (inputs ++ [i]) =
      w.step env handle i := by
    rw [playSession, World.play_append, ← hw]
    rfl
  have start : Legible ⟨i, w.history, scratch, registers⟩ w.state w.history :=
    fun _ => ⟨sighted.presentable i w.history, EveryOffer.start _⟩
  have legible : Legible ⟨i, w.history, scratch, registers⟩ (w.step env handle i).state
      (w.step env handle i).history :=
    World.perform_wp (handle_legible _ w.state w.history start)
  obtain ⟨presentable, accounted⟩ := legible trusted
  constructor
  · exact fun j past => ⟨⟨presentable.confined, presentable.tiles, presentable.unsupported⟩,
      presentable.shown⟩
  · have earlier : EveryOffer (Explained env (bufferedWorld scratch registers t₀)
        (inputs ++ [i])) w.history :=
      sighted.explained.mono fun _ _ explained => explained.later
    have later : w.history <+: (w.step env handle i).history := List.prefix_append _ _
    apply earlier.extend later
    intro h₁ f accepted h₂ he behind
    obtain ⟨r, fits, whole, backed⟩ := accounted h₁ f accepted h₂ he behind
    have within : h₁.length < (w.step env handle i).history.length := by
      rw [he, List.length_append, List.length_cons]
      omega
    refine ⟨inputs, i, [], r, rfl, ?_, ?_, fits.reliable whole backed (blank h₁ f accepted h₂ he)⟩
    · rw [hw]
      exact behind
    · rw [next]
      exact within

theorem sighted_run (env : SessionEnvironment T) (scratch registers : Buffer) (t₀ : T)
    (inputs : List Input)
    (trusted : Trusted (playSession env (bufferedWorld scratch registers t₀) inputs).history) :
    Sighted env scratch registers t₀ inputs
      (playSession env (bufferedWorld scratch registers t₀) inputs) := by
  induction inputs using List.reverseRecOn with
  | nil => exact sighted_start env scratch registers t₀
  | append_singleton inputs i ih =>
    have next : playSession env (bufferedWorld scratch registers t₀) (inputs ++ [i]) =
        (playSession env (bufferedWorld scratch registers t₀) inputs).step env handle i :=
        World.play_append inputs [i]
    have blank := lost_blank env (bufferedWorld scratch registers t₀) rfl rfl (inputs ++ [i])
    rw [next] at trusted blank ⊢
    have before : Trusted (playSession env (bufferedWorld scratch registers t₀) inputs).history :=
      Trusted.before trusted
    exact (ih before).step rfl trusted blank

end

/-- In a run whose register reads were well formed, every frame offered to the sink is one that says
something, a peer that checks every byte reads from it just that, and nothing was written behind the
buffers. -/
theorem frames_legible {T : Type} (env : SessionEnvironment T) (t₀ : T) (scratch registers : Buffer)
    (inputs : List Input)
    (trusted : ∀ ev ∈ (playSession env (bufferedWorld scratch registers t₀) inputs).history,
      WellFormedRead ev) :
    EveryOffer (Explained env (bufferedWorld scratch registers t₀) inputs)
        (playSession env (bufferedWorld scratch registers t₀) inputs).history ∧
      Confined scratch registers
        (playSession env (bufferedWorld scratch registers t₀) inputs).state := by
  have sighted := sighted_run env scratch registers t₀ inputs trusted
  exact ⟨sighted.explained, (sighted.presentable .poll []).confined⟩

/-! A target that halts when asked and reports one register. -/

def oneRegister : SessionEnvironment Unit
  | _, .call _ (.attach _) => ({ info := { capabilities := Cap.stopSnapshot } }, ())
  | _, .call _ (.readRegs _ _) => ({ data := pcEntryBytes 0x20000100, outSize := 8 }, ())
  | _, .call _ _ => ({ stop := { halted := true } }, ())
  | _, .offer _ => (true, ())

theorem oneRegister_wellFormed (t : Unit) (e : Effect) :
    WellFormedRead ⟨e, (oneRegister t e).1⟩ := by
  cases e with
  | offer f => trivial
  | call s c =>
    cases c with
    | readRegs ids capacity =>
      intro _ _
      have given : 8 ≤ (pcEntryBytes 0x20000100).length := by decide
      have tiles : Tiles (getU8 (pcEntryBytes 0x20000100)) 8 := by decide +kernel
      exact ⟨given, tiles⟩
    | _ => trivial

def stoppedInputs : List Input :=
  [.request (requestMessage .attach 1 [0, 0, 0, 0, 0, 1, 0, 0]),
    .request (requestMessage .readRegisters 2 [1, 0, 0, 0, 0, 0, 1, 0, 15, 0]), .request
      (requestMessage .getState 3 [])]

/-- An attach with its STOPPED event, a register read and a state request over used buffers: four
frames, each explained. -/
theorem four_frames_legible :
    let w := bufferedWorld (fun _ => 0xA5) (fun _ => 0x5A) ()
    (offered (playSession oneRegister w stoppedInputs).history).length = 4 ∧
      EveryOffer (Explained oneRegister w stoppedInputs)
        (playSession oneRegister w stoppedInputs).history ∧ Confined (fun _ => 0xA5) (fun _ => 0x5A)
        (playSession oneRegister w stoppedInputs).state := by
  intro w
  have count : (offered (playSession oneRegister w stoppedInputs).history).length = 4 := by
    decide +kernel
  have trusted : ∀ ev ∈ (playSession oneRegister w stoppedInputs).history, WellFormedRead ev :=
    World.play_replies oneRegister_wellFormed _ fun _ hm => absurd hm List.not_mem_nil
  exact ⟨count, frames_legible oneRegister () _ _ stoppedInputs trusted⟩

/-! Reserved bytes of a memory map. -/

/-- The regions of an ATTACH response have their reserved bytes zero. -/
def RegionsReserved (f : List UInt8) : Prop :=
  isAccepted Opcode.attach f = true → ∀ i < (getU16 f (headerSize + 28)).toNat,
    slice f (headerSize + attachResponseSize + i * memoryRegionSize + 18) 2 = List.replicate 2 0

instance : DecidablePred RegionsReserved :=
  fun f => inferInstanceAs (Decidable (isAccepted Opcode.attach f = true → _))

/-- A backend whose one region has a reserved byte set. -/
def markedMap : SessionEnvironment Unit
  | _, .call _ (.attach _) =>
    ({ info := { memoryRegions := le64 0x20000000 ++ le64 0x1000 ++ [MemoryType.ram, 3, 1, 0] } },
      ())
  | _, .call _ _ => ({}, ())
  | _, .offer _ => (true, ())

/-- The map of the backend is passed on as it is, so not every reserved field is zero. -/
theorem marked_region_forwarded :
    ¬∀ (env : SessionEnvironment Unit) (inputs : List Input),
      (∀ ev ∈ (playSession env (freshWorld ()) inputs).history, WellFormedRead ev) →
        ∀ f ∈ offered (playSession env (freshWorld ()) inputs).history, RegionsReserved f := by
  intro claim
  have trusted (t : Unit) (e : Effect) : WellFormedRead ⟨e, (markedMap t e).1⟩ := by
    cases e with
    | offer f => trivial
    | call s c =>
      cases c with
      | readRegs ids capacity =>
        intro _ _
        exact ⟨Nat.zero_le _, tiles_empty _⟩
      | _ => trivial
  have zero := claim markedMap [.request (requestMessage .attach 1 [0, 0, 0, 0, 0, 0, 0, 0])]
    (World.play_replies trusted _ fun _ hm => absurd hm List.not_mem_nil)
  revert zero
  decide +kernel

end SidpClient
