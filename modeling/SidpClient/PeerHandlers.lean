import SidpClient.PeerView
import SidpClient.ResponseStatuses

/-! Every handler keeps the peer and the session together. -/
namespace SidpClient
open LittleEndian Interactive

variable {s s' : Session} {h h' : SessionHistory} {p p' : Peer} {op : RequestOp} {opcode : UInt16}
  {requestId : UInt32} {status : Status} {payload : List UInt8}

/-! The disconnect cleanup. -/

/-- Nobody listens any more. -/
theorem Abreast.dead (fits : SnapshotFits s) (known : heard h = some p)
    (dead : s.transportDead = true) : Abreast s h :=
  ⟨fits, p, known, fun alive => absurd (dead.symm.trans alive) (by decide)⟩

theorem handleDisconnect_abreast (fits : SnapshotFits s) (known : heard h = some p) :
    handleDisconnect.wp s h fun _ => Abreast := by
  simp only [handleDisconnect, Action.wp_bind, updateSession_wp, getSession_wp, Action.wp_ite,
    Action.wp_pure, backend_wp]
  refine ⟨fun _ => .dead fits known rfl, fun _ a =>
    ⟨fun _ => .dead fits (heard_call.trans known) rfl, fun _ => ?_⟩⟩
  apply Action.wp_mono swBpRestoreAll_quiet
  intro _ s₁ h₁ quiet
  have m := quiet.unheard
  have fits₁ : SnapshotFits s₁ := m.fits fits
  have known₁ := m.heard.trans (heard_call.trans known)
  refine ⟨fun _ => .dead fits₁ known₁ m.dead, fun _ a₁ =>
    ⟨fun _ => .dead fits₁ (heard_call.trans known₁) m.dead, fun _ => ?_⟩⟩
  exact .dead (fits_detachedState s₁) (heard_call.trans known₁) m.dead

/-! ATTACH. -/

theorem haltAfterAttach_abreast {n : UInt32} (hp : Hears (.running n) s h) (state : s.state ≠ .lost)
    (upTo : n ≤ s.stopId) : haltAfterAttach.wp s h fun _ => Abreast := by
  have lose (h' : SessionHistory) (hp' : Hears (.running n) s h') (reason : TargetLostReason) :
      (enterLost reason).wp s h' fun _ => Abreast :=
    enterLost_hears hp' (fun lost => absurd lost state) fun _ => rfl
  simp only [haltAfterAttach, Action.wp_bind, backend_wp, Action.wp_ite, Action.wp_pure,
    updateSession_wp]
  intro a
  have polled : Unheard s h s (h ++ [⟨.call s .pollHalted, a⟩]) := (Unheard.refl s h).call
  refine ⟨fun _ => lose _ (polled.hears hp) _, fun _ => ⟨fun _ => ?_, fun _ a₁ => ?_⟩⟩
  · exact reportStop_abreast (polled.hears hp) state upTo
  have halted :
      Unheard s h s (h ++ [⟨.call s .pollHalted, a⟩] ++ [⟨.call s (.halt haltTimeoutMs), a₁⟩]) :=
    polled.call
  have hp₁ := halted.hears hp
  refine ⟨fun _ => reportStop_abreast hp₁ state upTo, fun _ => ⟨fun _ => lose _ hp₁ _, fun _ => ?_⟩⟩
  have running : Hears (.running n) { s with state := .running }
      (h ++ [⟨.call s .pollHalted, a⟩] ++ [⟨.call s (.halt haltTimeoutMs), a₁⟩]) :=
      ⟨hp₁.fits, hp₁.heard⟩
  exact running.abreast ⟨rfl, upTo⟩

theorem rejectAttach_abreast (hp : Hears p s h) (refused : status ≠ .ok) :
    (respond opcode requestId status).wp s h fun _ s' h' =>
    handleDisconnect.wp s' h' fun _ => Abreast := by
  apply refuse_hears hp refused
  intro b dead h' hp'
  obtain ⟨q, known, -⟩ := hp'.heard
  exact handleDisconnect_abreast hp'.fits known

theorem AttachFrame.hear {regions : List MemoryRegion} {f : List UInt8}
    (hf : AttachFrame requestId regions f) :
    Peer.detached.hear f = some (.running 0) := by
  obtain ⟨response, opened, -⟩ := hf.response
  have ok : frameStatus f = Status.ok.value := by
    have map := hf.map
    rw [advertisedBy] at map
    split at map
    · rename_i carried
      exact carried.2.2
    · exact absurd map (by simp)
  apply (Peer.hear_response response opened ok ?_).trans (by rfl)
  intro _ op hop
  have named := opcode_of_requestOp hop
  cases op with
  | attach => rfl
  | _ => exact absurd named (by decide)

theorem opAttach_abreast (hp : Hears .detached s h) (state : s.state = .detached) :
    (opAttach requestId payload).wp s h fun _ => Abreast := by
  have follows : Peer.detached.Follows s := state
  simp only [opAttach, Action.wp_bind, Action.wp_ite, getSession_wp, backend_wp, updateSession_wp,
    Action.wp_pure, beginFrame_wp, writePayload_wp]
  refine ⟨fun _ => refuse_abreast hp follows (by decide), fun _ =>
    ⟨fun _ => refuse_abreast hp follows (by decide), fun _ a => ?_⟩⟩
  have called :
      Unheard s h s (h ++ [⟨.call s (.attach ⟨getU8 payload 4 != 0, getU8 payload 5 != 0⟩), a⟩]) :=
    (Unheard.refl s h).call
  have hp₁ := called.hears hp
  generalize normalizeAttachInfo a.info = info
  refine ⟨fun _ => sendBackendFailure_abreast hp₁ follows (by decide), fun _ =>
    ⟨fun _ => ?_, fun _ => ⟨fun _ => ⟨fun _ => ?_, fun began => absurd began (by decide)⟩,
      fun small => ⟨fun began => absurd began (by decide), fun _ => ?_⟩⟩⟩⟩
  · exact rejectAttach_abreast (p := .detached) ⟨Nat.zero_le _, hp₁.heard⟩ (by decide)
  · exact rejectAttach_abreast (p := .detached) ⟨Nat.zero_le _, hp₁.heard⟩ (by decide)
  · have attached :
        Hears .detached { s.attachedWith info with regions := parseMap info.memoryRegions }
        (h ++ [⟨.call s (.attach ⟨getU8 payload 4 != 0, getU8 payload 5 != 0⟩), a⟩]) :=
      ⟨Nat.zero_le _, hp₁.heard⟩
    apply finishFrame_offered
      (s := { s.attachedWith info with regions := parseMap info.memoryRegions })
      (P := AttachFrame requestId (parseMap info.memoryRegions))
    · simp only [isValidMessageSize, maxFrameSize, headerSize] at small ⊢
      omega
    · intro crc
      exact attachBuffer_frame s.scratch requestId info crc
    intro b dead evs ho
    have told :=
      ho.hears (b := b) (n := headerSize + (attachResponseSize + info.memoryRegions.length))
      attached
      attached.fits fun f hf => hf.hear
    have unlost : s.state ≠ .lost := by
      rw [state]
      decide
    refine ⟨fun unsent => ?_, fun _ => ⟨fun _ => ?_, fun _ => ?_⟩⟩
    · obtain ⟨q, known, -⟩ := told.heard
      have closed : dead = true := by simpa using unsent
      exact .dead told.fits known closed
    · exact haltAfterAttach_abreast told unlost (UInt32.zero_le)
    · have running : Hears (.running 0) { Session.framed { s.attachedWith info with
          regions := parseMap info.memoryRegions } b
          (headerSize + (attachResponseSize + info.memoryRegions.length))
          dead with state := .running } _ :=
        ⟨told.fits, told.heard⟩
      exact running.abreast ⟨rfl, UInt32.zero_le⟩

/-! DETACH. -/

theorem Peer.Follows.framed {b : Buffer} {n : ℕ} {dead : Bool} (hf : p.Follows s) :
    p.Follows (s.framed b n dead) := by
  cases p <;> exact hf

/-- Only the step-over and the table have changed. -/
theorem haltForDetach_abreast {Q : Bool → Session → SessionHistory → Prop} (hp : Hears p s h)
    (follows : p.Follows s) (hfail : ∀ s' h', Abreast s' h' → Q false s' h')
    (hQ : ∀ s' h', Unheard s h s' h' → Q true s' h') :
    (haltForDetach requestId).wp s h Q := by
  simp only [haltForDetach, Action.wp_bind, getSession_wp, Action.wp_ite,
    Action.wp_pure, backend_wp]
  refine ⟨fun _ => hQ s h (Unheard.refl s h), fun _ a => ?_⟩
  have called : Unheard s h s (h ++ [⟨.call s (.halt haltTimeoutMs), a⟩]) := (Unheard.refl s h).call
  constructor
  · intro _
    apply Action.wp_mono (sendBackendFailure_abreast (called.hears hp) follows (by decide))
    intro _ s' evs ended
    exact hfail s' _ ended
  · intro _
    cases softwareHit s.swTable a.stop with
    | none => exact hQ _ _ called
    | some bp => exact hQ _ _ (called.keep (by rfl))

theorem releaseTarget_abreast {action : UInt8} (hp : Hears p s h) (follows : p.Follows s)
    (live : s.state = .halted ∨ s.state = .running) :
    (releaseTarget requestId action).wp s h fun _ => Abreast := by
  simp only [releaseTarget, Action.wp_bind, Action.wp_ite, backend_wp, updateSession_wp]
  apply Action.wp_mono swBpRestoreAll_quiet
  intro _ s₁ h₁ quiet
  have m := quiet.unheard
  constructor
  · intro _
    exact refuse_abreast (m.hears hp) (m.follows follows) (by decide)
  intro _ a
  have called : Unheard s h s₁ (h ++ h₁ ++ [⟨.call s₁ (.detach action), a⟩]) := m.call
  constructor
  · intro _
    exact refuse_abreast (called.hears hp) (called.follows follows) (by decide)
  intro _
  have served : p.answers Opcode.detach .ok = some .detached := by
    cases p with
    | running n => rfl
    | halted n => rfl
    | detached => exact absurd live (by rw [show s.state = .detached from follows]; decide)
    | lost => exact absurd live (by rw [show s.state = .lost from follows]; decide)
  apply respond_hears (called.hears hp) _ served fun _ => by decide
  intro b dead h' told
  have released : Hears .detached (s₁.framed b 16 dead).detachedState h' :=
    ⟨Nat.zero_le _, told.heard⟩
  exact released.abreast rfl

theorem opDetach_abreast (hp : Hears p s h) (follows : p.Follows s)
    (live : s.state = .halted ∨ s.state = .running) :
    (opDetach requestId payload).wp s h fun _ => Abreast := by
  simp only [opDetach]
  cases hcheck : checkDetach payload with
  | error status => exact refuse_abreast hp follows (checkDetach_refuses payload status hcheck)
  | ok action =>
    simp only [Action.wp_bind, Action.wp_ite, Action.wp_pure, getSession_wp]
    apply haltForDetach_abreast hp follows
    · intro s' h' ended
      exact ⟨fun _ => ended, fun failed => absurd rfl failed⟩
    intro s₁ h₁ m
    have live₁ : s₁.state = .halted ∨ s₁.state = .running := by
      rw [m.state]
      exact live
    refine ⟨fun failed => absurd failed (by decide), fun _ => ⟨fun _ => ?_, fun _ =>
      releaseTarget_abreast (m.hears hp) (m.follows follows) live₁⟩⟩
    apply Action.wp_mono (writeCurrentPc_quiet _)
    intro _ s₂ h₂ quiet
    have m₂ := m.trans quiet.unheard
    have live₂ : s₂.state = .halted ∨ s₂.state = .running := by
      rw [m₂.state]
      exact live
    exact ⟨fun _ => refuse_abreast (m₂.hears hp) (m₂.follows follows) (by decide), fun _ =>
      releaseTarget_abreast (m₂.hears hp) (m₂.follows follows) live₂⟩

/-! Responses with a payload. -/

/-- A field of a payload that is written in one piece. -/
theorem sealedFrame_field (b : Buffer) {bytes : List UInt8} {n : ℕ} (crc : UInt32) (i k : ℕ)
    (hi : i + k ≤ bytes.length) (hn : headerSize + i + k ≤ n) :
    slice (sealedFrame (b.write (headerSize + 0) bytes) n crc)
      (headerSize + i) k = slice bytes i k := by
  rw [sealedFrame_slice _ _ _ _ _ hn (Or.inr (by simp only [headerSize]; omega))]
  exact Buffer.read_write_inside b (headerSize + 0) bytes i k hi

/-- A number of a payload that is written in one piece. -/
theorem sealedFrame_getU32 (b : Buffer) (before after : List UInt8) {n : ℕ} (crc v : UInt32)
    (hn : headerSize + before.length + 4 ≤ n) :
    getU32 (sealedFrame (b.write (headerSize + 0) (before ++ (le32 v ++ after))) n crc)
      (headerSize + before.length) = v := by
  have size : (le32 v).length = 4 := le32_length v
  have field : slice (before ++ (le32 v ++ after)) before.length 4 = le32 v := by
    rw [slice, List.drop_left, List.take_left' size]
  rw [getU32, sealedFrame_field b crc before.length 4 (by simp) hn, field, ofNat_leNat_le32]

/-- A served request whose payload starts with STATUS_OK and agrees with the peer. -/
theorem finishServed_abreast (op : RequestOp) {b : Buffer} {bytes : List UInt8} {n : ℕ}
    (hp : Hears p s h) (follows : p.Follows s) (hn : isValidMessageSize n) (size : 16 ≤ n)
    (header : b.read 0 8 = headerBytes MsgKind.response op.opcode requestId)
    (serves : p.serve op = some p)
    (agree : ∀ crc, p.agrees op
      (sealedFrame (b.write (headerSize + 0) (le32 Status.ok.value ++ bytes)) n crc) = true) :
    finishFrame.wp
      { s with
        scratch := b.write (headerSize + 0) (le32 Status.ok.value ++ bytes)
        txFrameSize := n } h fun _ => Abreast := by
  apply finishFrame_offered (P := fun f => p.hear f = some p) hn
  · intro crc
    have front : (b.write (headerSize + 0) (le32 Status.ok.value ++ bytes)).read 0 8 =
        headerBytes MsgKind.response op.opcode requestId := read_header_payload header
    have framed := sealedFrame_hasHeader crc (by omega : 8 ≤ n) front
    obtain ⟨response, opened, -⟩ := framed.isResponseTo
    have ok := sealedFrame_status (b := b) crc Status.ok bytes size
    apply (Peer.hear_response response opened ok ?_).trans
    · have known : p.answers op.opcode .ok = (requestOp op.opcode).bind p.serve := if_pos rfl
      rw [known, requestOp_opcode]
      exact serves
    intro _ op' hop
    rw [requestOp_opcode] at hop
    rw [← Option.some.inj hop]
    exact agree crc
  · intro b' dead evs ho
    have told : Hears p (s.framed b' n dead) (h ++ evs) := ho.hears hp hp.fits fun f hf => hf
    exact told.abreast follows.framed

theorem opGetState_abreast (hp : Hears p s h) (follows : p.Follows s) :
    (opGetState requestId payload).wp s h fun _ => Abreast := by
  simp only [opGetState, Action.wp_bind, Action.wp_ite, Action.wp_pure, beginFrame_wp,
    getSession_wp, writePayload_wp]
  refine ⟨fun _ => refuse_abreast hp follows (by decide), fun _ =>
    ⟨fun big => absurd big (by decide), fun _ =>
      ⟨fun began => absurd began (by decide), fun _ => ?_⟩⟩⟩
  have serves : p.serve .getState = some p := by cases p <;> rfl
  have bytes : getStateResponseBytes s = le32 Status.ok.value ++ ([s.state.value, 0, 0, 0] ++
      le32 (if s.state = .halted then s.stopId else 0)) := List.append_assoc _ _ _
  have known : p.state = s.state ∧ p.stopId = if s.state = .halted then s.stopId else 0 := by
    cases p with
    | detached => exact ⟨follows.symm, by rw [show s.state = .detached from follows]; rfl⟩
    | lost => exact ⟨follows.symm, by rw [show s.state = .lost from follows]; rfl⟩
    | running n => exact ⟨follows.1.symm, by rw [follows.1]; rfl⟩
    | halted n => exact ⟨follows.1.symm, by rw [follows.1]; exact follows.2⟩
  have agree (b : Buffer) (crc : UInt32) : p.agrees .getState
      (sealedFrame (b.write (headerSize + 0) (getStateResponseBytes s))
        (headerSize + getStateResponseSize) crc) = true := by
    have size : (le32 Status.ok.value ++ [s.state.value, 0, 0, 0]).length = 8 := by simp
    have state : getU8 (sealedFrame (b.write (headerSize + 0) (getStateResponseBytes s))
        (headerSize + getStateResponseSize) crc) 16 = s.state.value := by
      rw [sealedFrame_getU8 _ _ _ _ (by decide) (by decide)]
      simp [getStateResponseBytes, Buffer.write, headerSize, le32, leBytes]
    have stop := sealedFrame_getU32 b (le32 Status.ok.value ++ [s.state.value, 0, 0, 0]) []
      (n := headerSize + getStateResponseSize) crc (if s.state = .halted then s.stopId else 0)
      (by rw [size]; decide)
    rw [List.append_nil, size] at stop
    rw [Peer.agrees, state, known.1, known.2]
    simp only [beq_self_eq_true, Bool.true_and, beq_iff_eq]
    exact stop
  rw [bytes] at agree
  have sent (b : Buffer)
      (header : b.read 0 8 = headerBytes MsgKind.response Opcode.getState requestId) :=
    finishServed_abreast .getState hp follows (by decide : isValidMessageSize 24) (by decide) header
      serves (agree b)
  rw [← bytes] at sent
  exact sent _ (read_headerBytes _ _ _ _)

/-! Memory and registers. -/

/-- The peer has seen the target halted or running. -/
theorem Peer.Follows.live (hf : p.Follows s) (live : s.state = .halted ∨ s.state = .running) :
    (∃ n, p = .halted n) ∨ ∃ n, p = .running n := by
  cases p with
  | halted n => exact Or.inl ⟨n, rfl⟩
  | running n => exact Or.inr ⟨n, rfl⟩
  | detached => exact absurd live (by rw [show s.state = .detached from hf]; decide)
  | lost => exact absurd live (by rw [show s.state = .lost from hf]; decide)

theorem Hears.call (hp : Hears p s h) {s₁ : Session} {c : Call} {a : Answer} :
    Hears p s (h ++ [⟨.call s₁ c, a⟩]) := (Unheard.refl s h).call.hears hp

theorem Hears.called (hp : Hears p s h) {b : Buffer} {n : ℕ} {s₁ : Session}
    {c : Call} {a : Answer} :
    Hears p (s.framed b n s.transportDead) (h ++ [⟨.call s₁ c, a⟩]) := ⟨hp.fits, hp.call.heard⟩

theorem opReadMemory_abreast (hp : Hears p s h) (follows : p.Follows s)
    (live : s.state = .halted ∨ s.state = .running) :
    (opReadMemory requestId payload).wp s h fun _ => Abreast := by
  simp only [opReadMemory, Action.wp_bind, getSession_wp]
  cases hcheck : checkReadMemory s payload with
  | error status =>
    exact refuse_abreast hp follows (checkReadMemory_refuses s payload status hcheck)
  | ok req =>
    obtain ⟨-, -, size, -⟩ := checkReadMemory_ok hcheck
    simp only [Action.wp_bind, Action.wp_ite, Action.wp_pure, beginFrame_wp, backend_wp,
      writePayload_wp, getSession_wp]
    refine ⟨fun big => ?_, fun _ => ⟨fun began => absurd began (by decide), fun _ a => ?_⟩⟩
    · simp only [maxFrameSize, headerSize, readMemoryResponseSize] at big size
      omega
    constructor
    · intro _
      exact sendBackendFailure_abreast hp.called follows.framed (by decide)
    intro _
    have serves : p.serve .readMemory = some p := by
      rcases follows.live live with ⟨n, rfl⟩ | ⟨n, rfl⟩ <;> rfl
    rw [List.append_assoc]
    refine finishServed_abreast (s := s) .readMemory hp.call follows ?_ ?_
      (read_header_payload (read_header_payload (read_headerBytes _ _ _ _))) serves fun _ => rfl
    · simp only [isValidMessageSize, maxFrameSize, headerSize, readMemoryResponseSize] at size ⊢
      omega
    · simp only [headerSize, readMemoryResponseSize]
      omega

theorem opWriteMemory_abreast (hp : Hears p s h) (follows : p.Follows s)
    (live : s.state = .halted ∨ s.state = .running) :
    (opWriteMemory requestId payload).wp s h fun _ => Abreast := by
  simp only [opWriteMemory, Action.wp_bind, getSession_wp]
  cases hcheck : checkWriteMemory s payload with
  | error status =>
    exact refuse_abreast hp follows (checkWriteMemory_refuses s payload status hcheck)
  | ok req =>
    simp only [Action.wp_bind, Action.wp_ite, backend_wp, updateSession_wp]
    intro a
    constructor
    · intro _
      exact sendBackendFailure_abreast hp.called follows.framed (by decide)
    intro _
    have served : p.answers Opcode.writeMemory .ok = some p := by
      rcases follows.live live with ⟨n, rfl⟩ | ⟨n, rfl⟩ <;> rfl
    generalize s.scratch.write 0 (writeImage s.swTable req.address
      (payload.drop writeMemoryRequestSize)) = image
    generalize swBpWriteOverlap s.swTable req.address (payload.drop writeMemoryRequestSize) = table
    have written (h' : SessionHistory) (hp' : Hears p s h') :
        Hears p { s with scratch := image, swTable := table } h' := ⟨hp'.fits, hp'.heard⟩
    have absorbed : p.Follows { s with scratch := image, swTable := table } := by
      rcases follows.live live with ⟨n, rfl⟩ | ⟨n, rfl⟩ <;> exact follows
    apply respond_hears (written _ hp.call) _ served fun _ => by decide
    intro b dead h' told
    exact told.abreast absorbed.framed

theorem opReadRegisters_abreast (hp : Hears p s h) (follows : p.Follows s)
    (state : s.state = .halted) :
    (opReadRegisters requestId payload).wp s h fun _ => Abreast := by
  simp only [opReadRegisters, Action.wp_bind, getSession_wp]
  cases hcheck : checkReadRegisters s payload with
  | error status =>
    exact refuse_abreast hp follows (checkReadRegisters_refuses s payload status hcheck)
  | ok req =>
    simp only [Action.wp_bind, Action.wp_ite, Action.wp_pure, beginFrame_wp, backend_wp,
      writePayload_wp, getSession_wp, updateSession_wp]
    refine ⟨fun big => absurd big (by decide), fun _ =>
      ⟨fun began => absurd began (by decide), fun _ a => ?_⟩⟩
    refine ⟨fun _ => sendBackendFailure_abreast hp.called follows.framed (by decide),
      fun _ => ⟨fun _ => refuse_abreast hp.called follows.framed (by decide),
        fun fit => ?_⟩⟩
    obtain ⟨n, rfl⟩ : ∃ n, p = .halted n := by
      rcases follows.live (Or.inl state) with known | ⟨n, rfl⟩
      · exact known
      · exact absurd (follows.1.symm.trans state) (by decide)
    have current : n = s.stopId := follows.2
    rw [List.append_assoc, List.append_assoc]
    refine finishServed_abreast (s := s) .readRegisters hp.call follows ?_ ?_
      (normalizePcInRegisterBlob_read_header (by decide)
        (read_header_payload (read_headerBytes _ _ _ _))) rfl
      fun crc => ?_
    · simp only [isValidMessageSize, registerBlobCapacity, maxFrameSize, headerSize,
        readRegistersResponseSize] at fit ⊢
      omega
    · simp only [headerSize, readRegistersResponseSize]
      omega
    · have size : (le32 Status.ok.value).length = 4 := le32_length _
      rw [Peer.agrees, beq_iff_eq, Peer.halted.injEq, current]
      apply Eq.symm
      apply sealedFrame_getU32
      rw [size]
      simp only [headerSize, readRegistersResponseSize]
      omega

theorem opWriteRegisters_abreast (hp : Hears p s h) (follows : p.Follows s)
    (state : s.state = .halted) :
    (opWriteRegisters requestId payload).wp s h fun _ => Abreast := by
  simp only [opWriteRegisters, Action.wp_bind, getSession_wp]
  cases hcheck : checkWriteRegisters s payload with
  | error status =>
    exact refuse_abreast hp follows (checkWriteRegisters_refuses s payload status hcheck)
  | ok req =>
    simp only [Action.wp_bind, Action.wp_ite, Action.wp_pure, backend_wp, updateSession_wp]
    intro a
    have called :
        Unheard s h s (h ++ [⟨.call s (.writeRegs (payload.drop writeRegistersRequestSize)), a⟩]) :=
      (Unheard.refl s h).call
    refine ⟨fun _ => sendBackendFailure_abreast (called.hears hp) follows (by decide), fun _ => ?_⟩
    have served : p.answers Opcode.writeRegisters .ok = some p := by
      rcases follows.live (Or.inl state) with ⟨n, rfl⟩ | ⟨n, rfl⟩
      · rfl
      · exact absurd (follows.1.symm.trans state) (by decide)
    have written :
        Unheard s h (updateStepOverAfterRegisterWrite (payload.drop writeRegistersRequestSize)
        req.registerCount.toNat s)
          (h ++ [⟨.call s (.writeRegs (payload.drop writeRegistersRequestSize)), a⟩]) := by
      rcases updateStepOverAfterRegisterWrite_cases (payload.drop writeRegistersRequestSize)
        req.registerCount.toNat s with same | same
      · rw [same]
        exact called
      · rw [same]
        exact called.keep (by rfl)
    apply respond_hears (written.hears hp) _ served fun _ => by decide
    intro b dead h' told
    exact told.abreast (written.follows follows).framed

/-! RUN. -/

/-- The answer to a RUN that has failed, after its rollback. -/
theorem failRun_abreast (hp : Hears p s h) (follows : p.Follows s) (refused : status ≠ .ok) :
    (failRun requestId status).wp s h fun _ => Abreast := by
  simp only [failRun, Action.wp_bind, Action.wp_ite, Action.wp_pure]
  apply Action.wp_mono rollbackRunConfig_unheard
  intro restored s₁ h₁ m
  apply refuse_hears (m.hears hp)
  · split
    · exact refused
    · decide
  intro b dead h' told
  have framed : p.Follows (s₁.framed b 16 dead) := (m.follows follows).framed
  exact ⟨fun _ => loseTarget_abreast told framed, fun _ => told.abreast framed⟩

theorem loseRun_abreast {reason : TargetLostReason} (hp : Hears p s h) (follows : p.Follows s)
    (refused : status ≠ .ok) :
    (respond opcode requestId status).wp s h fun _ s' h' =>
    (enterLost reason).wp s' h' fun _ => Abreast := by
  apply refuse_hears hp refused
  intro b dead h' told
  exact loseTarget_abreast told follows.framed

theorem reportStep_abreast {stop : StopDetect} {userStep : Bool} {n : UInt32}
    (hp : Hears (.halted n) s h) (follows : (Peer.halted n).Follows s) :
    (reportStep requestId stop userStep).wp s h fun _ => Abreast := by
  simp only [reportStep, Action.wp_bind, Action.wp_ite, updateSession_wp]
  apply respond_hears hp (.running n) (by rfl) fun _ => by decide
  intro b dead h₁ told
  have state : (s.framed b 16 dead).state ≠ .lost := by
    rw [show (s.framed b 16 dead).state = .halted from follows.1]
    decide
  apply enterHalted_hears told state (p := .running n) (UInt32.le_of_eq follows.2)
  · intro s' h' lost _ told'
    have gone (t : Session) (same : t.state = s'.state) (ht : Hears .lost t h') :
        emitPendingStopped.wp t h' fun _ => Abreast := by
      have state' := same.trans lost
      apply emitPendingStopped_idle (Or.inr (by rw [state']; decide))
      exact ht.abreast state'
    exact ⟨fun _ => gone _ rfl ⟨told'.fits, told'.heard⟩, fun _ => gone s' rfl told'⟩
  · intro s' h' inHand
    have stepped : StopInHand (.running n) { s' with pendingReason := .singleStep } h' :=
      ⟨⟨inHand.fits, inHand.heard⟩, inHand.state, inHand.unreported, inHand.behind⟩
    exact ⟨fun _ => emitPendingStopped_hears stepped, fun _ => emitPendingStopped_hears inHand⟩

theorem resumeRun_abreast {req : RunRequest} {n : UInt32} (hp : Hears (.halted n) s h)
    (follows : (Peer.halted n).Follows s) : (resumeRun requestId req).wp s h fun _ => Abreast := by
  simp only [resumeRun, Action.wp_bind, Action.wp_ite, backend_wp, updateSession_wp]
  intro a
  refine ⟨fun _ => loseRun_abreast hp.call follows (by decide), fun _ => ?_⟩
  generalize (if req.action = RunAction.toAddress then req.runToAddress else 0) = target
  have running : Hears (.halted n) { s with
      runningAction := req.action, runToActive := req.action == RunAction.toAddress,
      activeRunToAddress := target, state := .running }
      (h ++ [⟨.call s (.resume req.action req.runToAddress), a⟩]) := ⟨hp.fits, hp.call.heard⟩
  apply respond_hears running (.running n) (by rfl) fun _ => by decide
  intro b dead h' told
  exact pollStop_abreast told rfl (UInt32.le_of_eq follows.2)

theorem opRun_abreast (hp : Hears p s h) (follows : p.Follows s) (state : s.state = .halted) :
    (opRun requestId payload).wp s h fun _ => Abreast := by
  obtain ⟨n, rfl⟩ : ∃ n, p = .halted n := by
    rcases follows.live (Or.inl state) with known | ⟨n, rfl⟩
    · exact known
    · exact absurd (follows.1.symm.trans state) (by decide)
  simp only [opRun, Action.wp_bind, getSession_wp]
  cases hcheck : checkRun s payload with
  | error status => exact refuse_abreast hp follows (checkRun_refuses s payload status hcheck)
  | ok plan =>
    simp only [Action.wp_bind]
    apply Action.wp_mono (Action.wp_and (installRun_unheard plan) (installRun_refuses plan))
    intro failure s₁ h₁ installed
    obtain ⟨m₁, refuses⟩ := installed
    cases failure with
    | some status => exact failRun_abreast (m₁.hears hp) (m₁.follows follows) (refuses status rfl)
    | none =>
      simp only [Action.wp_bind]
      apply Action.wp_mono (executeStepOver_unheard _)
      intro outcome s₂ h₂ m
      have m₂ := m₁.trans m
      have hp₂ := m₂.hears hp
      have follows₂ := m₂.follows follows
      cases outcome with
      | notNeeded => exact resumeRun_abreast hp₂ follows₂
      | stepped => exact resumeRun_abreast hp₂ follows₂
      | stoppedStep stop => exact reportStep_abreast hp₂ follows₂
      | stoppedReal stop => exact reportStep_abreast hp₂ follows₂
      | failedLost reason =>
        simp only [Action.wp_bind]
        exact loseRun_abreast hp₂ follows₂ (by decide)
      | failed =>
        simp only [Action.wp_bind, Action.wp_ite]
        apply Action.wp_mono rollbackRunConfig_unheard
        intro _ s₃ h₃ rolled
        have hp₃ := rolled.hears hp₂
        have follows₃ := rolled.follows follows₂
        exact ⟨fun _ => refuse_abreast hp₃ follows₃ (by decide), fun _ =>
          loseRun_abreast hp₃ follows₃ (by decide)⟩

/-! HALT and the resets. -/

theorem opHalt_abreast (ready : Ready s h) (alive : s.transportDead = false) (hp : Hears p s h)
    (follows : p.Follows s) (live : s.state = .halted ∨ s.state = .running) :
    (opHalt requestId payload).wp s h fun _ => Abreast := by
  simp only [opHalt, Action.wp_bind, Action.wp_ite, Action.wp_pure, getSession_wp, backend_wp]
  refine ⟨fun _ => refuse_abreast hp follows (by decide), fun _ =>
    ⟨fun _ => refuse_abreast hp follows (by decide), fun unreported =>
      ⟨fun pending => ?_, fun unhalted a => ?_⟩⟩⟩
  · exact absurd ⟨pending.1, (ready.reported pending.1 alive).1⟩ unreported
  have state : s.state = .running := by
    rcases live with hs | hs
    · cases reported : s.stopReported with
      | true => exact absurd ⟨hs, reported⟩ unreported
      | false => exact absurd ⟨hs, by rw [reported]; rfl⟩ unhalted
    · exact hs
  obtain ⟨n, rfl⟩ : ∃ n, p = .running n := by
    rcases follows.live (Or.inr state) with ⟨n, rfl⟩ | known
    · exact absurd (follows.1.symm.trans state) (by decide)
    · exact known
  refine ⟨fun _ => sendBackendFailure_abreast hp.call follows (by decide), fun _ => ?_⟩
  apply enterHalted_hears hp.call (by rw [state]; decide) follows.2
  · intro s' h' lost _ hp'
    apply respond_hears hp' .lost (by rfl) fun _ => by decide
    intro b dead h'' told
    have gone : (s'.framed b 16 dead).state = .lost := lost
    apply emitPendingStopped_idle (Or.inr (by rw [gone]; decide))
    exact told.abreast gone
  · intro s' h' inHand
    apply respond_hears inHand.toHears (.running n) (by rfl) fun _ => by decide
    intro b dead h'' told
    exact emitPendingStopped_hears ⟨told, inHand.state, inHand.unreported, inHand.behind⟩

/-- The target is halted for a reset, or was lost to its last generation. -/
structure ResetInHand (p : Peer) (s : Session) (h : SessionHistory) : Prop extends Hears p s h where
  phase : (s.state = .halted ∧ p.UpTo s.stopId) ∨ (s.state = .lost ∧ p = .lost)

theorem ResetInHand.call (hr : ResetInHand p s h) {s₁ : Session} {c : Call} {a : Answer} :
    ResetInHand p s (h ++ [⟨.call s₁ c, a⟩]) := ⟨hr.toHears.call, hr.phase⟩

theorem Unheard.resetInHand (m : Unheard s h s' h') (hr : ResetInHand p s h) :
    ResetInHand p s' h' := by
  refine ⟨m.hears hr.toHears, ?_⟩
  rw [m.state, m.stopId]
  exact hr.phase

theorem ResetInHand.lose_abreast {reason : TargetLostReason} (hr : ResetInHand p s h)
    (refused : status ≠ .ok) :
    (respond opcode requestId status).wp s h fun _ s' h' =>
    (enterLost reason).wp s' h' fun _ => Abreast := by
  apply refuse_hears hr.toHears refused
  intro b dead h' told
  apply enterLost_hears told
  · intro lost
    rcases hr.phase with ⟨halted, -⟩ | ⟨-, known⟩
    · exact absurd (lost.symm.trans halted) (by decide)
    · exact known
  · intro live
    rcases hr.phase with ⟨-, upTo⟩ | ⟨lost, -⟩
    · exact upTo.lose
    · exact absurd lost live

theorem resetFailed_abreast {result : EspErr} (hr : ResetInHand p s h) :
    (resetFailed opcode requestId result).wp s h fun _ => Abreast := by
  simp only [resetFailed, Action.wp_bind]
  apply hr.lose_abreast
  split <;> decide

theorem prepareReset_abreast {Q : Bool → Session → SessionHistory → Prop} (hp : Hears p s h)
    (follows : p.Follows s) (live : s.state = .halted ∨ s.state = .running)
    (hfail : ∀ s' h', Abreast s' h' → Q false s' h')
    (hQ : ∀ p' s' h', ResetInHand p' s' h' → Q true s' h') :
    (prepareReset opcode requestId).wp s h Q := by
  have rollback (p' : Peer) (s' : Session) (h' : SessionHistory) (hr : ResetInHand p' s' h') :
      rollbackRunConfig.wp s' h' fun restored s₁ h₁ =>
        (!restored → (respond opcode requestId .swdError).wp s₁ h₁ fun _ s₂ h₂ =>
          (enterLost .swdFault).wp s₂ h₂ fun _ => Q false) ∧ (¬!restored → Q true s₁ h₁) := by
    apply Action.wp_mono rollbackRunConfig_unheard
    intro _ s₁ h₁ m
    have hr₁ := m.resetInHand hr
    refine ⟨fun _ => ?_, fun _ => hQ p' s₁ _ hr₁⟩
    apply Action.wp_mono (hr₁.lose_abreast (by decide))
    intro _ s₂ h₂ losing
    apply Action.wp_mono losing
    intro _ s₃ h₃ ended
    exact hfail s₃ _ ended
  simp only [prepareReset, Action.wp_bind, getSession_wp, Action.wp_ite, Action.wp_pure, backend_wp]
  refine ⟨fun unhalted a => ⟨fun _ => ?_, fun _ => ?_⟩, fun halted => ?_⟩
  · apply Action.wp_mono (sendBackendFailure_abreast hp.call follows (by decide))
    intro _ s' h' ended
    exact hfail s' _ ended
  · have state : s.state ≠ .lost := by
      rcases live with hs | hs <;> rw [hs] <;> decide
    apply enterHalted_hears hp.call state (follows.upTo live)
    · intro s' h' lost _ hp'
      exact rollback .lost s' h' ⟨hp', Or.inr ⟨lost, rfl⟩⟩
    · intro s' h' inHand
      exact rollback p s' h' ⟨inHand.toHears, Or.inl ⟨inHand.state, inHand.behind.upTo⟩⟩
  · exact rollback p s h ⟨hp, Or.inl ⟨not_not.mp halted, follows.upTo live⟩⟩

theorem opResetHalt_abreast (hp : Hears p s h) (follows : p.Follows s)
    (live : s.state = .halted ∨ s.state = .running) :
    (opResetHalt requestId payload).wp s h fun _ => Abreast := by
  simp only [opResetHalt, Action.wp_bind, getSession_wp]
  cases hcheck : checkReset s Cap.resetHalt payload with
  | error status =>
    exact refuse_abreast hp follows (checkReset_refuses s payload Cap.resetHalt status hcheck)
  | ok kind =>
    simp only [Action.wp_bind, Action.wp_ite, Action.wp_pure, backend_wp, updateSession_wp]
    apply prepareReset_abreast hp follows live
    · intro s' h' ended
      exact ⟨fun _ => ended, fun failed => absurd rfl failed⟩
    intro p₁ s₁ h₁ hr
    refine ⟨fun failed => absurd failed (by decide), fun _ a =>
      ⟨fun _ => resetFailed_abreast hr.call, fun _ => ?_⟩⟩
    have cleared (t : Session) (state : t.state = s₁.state) (stopId : t.stopId = s₁.stopId)
        (dead : t.transportDead = s₁.transportDead) (fits : SnapshotFits t) :
        ResetInHand p₁ t (h₁ ++ [⟨.call s₁ (.reset kind true), a⟩]) := by
      obtain ⟨q, known, same⟩ := hr.call.heard
      refine ⟨⟨fits, q, known, fun alive => same (dead.symm.trans alive)⟩, ?_⟩
      rw [state, stopId]
      exact hr.phase
    have hr₁ := cleared s₁.clearDebugState.clearRunTracking rfl rfl rfl (Nat.zero_le _)
    -- a stop the peer has not heard of, named by a reset
    have report (n : UInt32) (s' : Session) (h' : SessionHistory) (inHand : StopInHand p₁ s' h')
        (serves : p₁.answers Opcode.resetHalt .ok = some (.running n)) (behind : n < s'.stopId) :
        (respond Opcode.resetHalt requestId .ok).wp { s' with pendingReason := .reset } h'
          fun _ s₂ h₂ => emitPendingStopped.wp s₂ h₂ fun _ => Abreast := by
      have named : Hears p₁ { s' with pendingReason := .reset } h' := ⟨inHand.fits, inHand.heard⟩
      apply respond_hears named _ serves fun _ => by decide
      intro b dead h₂ told
      exact emitPendingStopped_hears ⟨told, inHand.state, inHand.unreported, behind⟩
    -- TARGET_LOST has been sent, and the response follows it
    have gone (s' : Session) (h' : SessionHistory) (lost : s'.state = .lost)
        (hp' : Hears .lost s' h') :
        (respond Opcode.resetHalt requestId .ok).wp { s' with pendingReason := .reset } h'
          fun _ s₂ h₂ => emitPendingStopped.wp s₂ h₂ fun _ => Abreast := by
      have named : Hears .lost { s' with pendingReason := .reset } h' := ⟨hp'.fits, hp'.heard⟩
      apply respond_hears named .lost (by rfl) fun _ => by decide
      intro b dead h₂ told
      have state : (Session.framed { s' with pendingReason := .reset } b 16 dead).state = .lost :=
        lost
      apply emitPendingStopped_idle (Or.inr (by rw [state]; decide))
      exact told.abreast state
    rcases hr₁.phase with ⟨halted, upTo⟩ | ⟨lost, rfl⟩
    · apply enterHalted_hears hr₁.toHears (by rw [halted]; decide) upTo
      · intro s' h' lost _ hp'
        exact gone s' h' lost hp'
      · intro s' h' inHand
        have behind := inHand.behind
        cases p₁ with
        | running n => exact report n s' h' inHand rfl behind
        | halted n => exact report n s' h' inHand rfl behind
        | detached => exact behind.elim
        | lost => exact behind.elim
    · simp only [enterHalted, Action.wp_bind, getSession_wp, Action.wp_ite, Action.wp_pure,
        updateSession_wp]
      exact ⟨fun _ => gone _ _ lost hr₁.toHears, fun live => absurd lost live⟩

theorem opResetRun_abreast (hp : Hears p s h) (follows : p.Follows s)
    (live : s.state = .halted ∨ s.state = .running) :
    (opResetRun requestId payload).wp s h fun _ => Abreast := by
  simp only [opResetRun, Action.wp_bind, getSession_wp]
  cases hcheck : checkReset s Cap.resetRun payload with
  | error status =>
    exact refuse_abreast hp follows (checkReset_refuses s payload Cap.resetRun status hcheck)
  | ok kind =>
    simp only [Action.wp_bind, Action.wp_ite, Action.wp_pure, backend_wp, updateSession_wp]
    apply prepareReset_abreast hp follows live
    · intro s' h' ended
      exact ⟨fun _ => ended, fun failed => absurd rfl failed⟩
    intro p₁ s₁ h₁ hr
    refine ⟨fun failed => absurd failed (by decide), fun _ a =>
      ⟨fun _ => resetFailed_abreast hr.call, fun _ => ?_⟩⟩
    have running : Hears p₁ { s₁.clearDebugState.clearRunTracking with state := .running }
        (h₁ ++ [⟨.call s₁ (.reset kind false), a⟩]) := ⟨Nat.zero_le _, hr.toHears.call.heard⟩
    have serves : ∃ n, p₁.answers Opcode.resetRun .ok = some (.running n) ∧ n ≤ s₁.stopId := by
      rcases hr.phase with ⟨-, upTo⟩ | ⟨-, rfl⟩
      · cases p₁ with
        | running n => exact ⟨n, rfl, upTo⟩
        | halted n => exact ⟨n, rfl, upTo⟩
        | detached => exact upTo.elim
        | lost => exact upTo.elim
      · exact ⟨0, rfl, UInt32.zero_le⟩
    obtain ⟨n, served, upTo⟩ := serves
    apply respond_hears running _ served fun _ => by decide
    intro b dead h' told
    exact told.abreast ⟨rfl, upTo⟩

/-! Runs. -/

theorem dispatch_abreast (ready : Ready s h) (alive : s.transportDead = false) (hp : Hears p s h)
    (follows : p.Follows s) (gate : (gateTable s.state (gateColumn op)).refusal = none) :
    (dispatch op requestId payload).wp s h fun _ => Abreast := by
  have live (other : op ≠ .attach ∧ op ≠ .getState) := live_of_gate gate other
  cases op with
  | attach =>
    have state := detached_of_gate gate
    have known : p = .detached := by
      cases p with
      | detached => rfl
      | lost => exact absurd (state.symm.trans follows) (by decide)
      | running n => exact absurd (state.symm.trans follows.1) (by decide)
      | halted n => exact absurd (state.symm.trans follows.1) (by decide)
    subst known
    exact opAttach_abreast hp state
  | detach => exact opDetach_abreast hp follows (live ⟨by decide, by decide⟩)
  | getState => exact opGetState_abreast hp follows
  | readMemory => exact opReadMemory_abreast hp follows (live ⟨by decide, by decide⟩)
  | writeMemory => exact opWriteMemory_abreast hp follows (live ⟨by decide, by decide⟩)
  | readRegisters =>
    exact opReadRegisters_abreast hp follows (halted_of_gate gate (Or.inr (Or.inl rfl)))
  | writeRegisters =>
    exact opWriteRegisters_abreast hp follows (halted_of_gate gate (Or.inr (Or.inr rfl)))
  | run => exact opRun_abreast hp follows (halted_of_gate gate (Or.inl rfl))
  | halt => exact opHalt_abreast ready alive hp follows (live ⟨by decide, by decide⟩)
  | resetHalt => exact opResetHalt_abreast hp follows (live ⟨by decide, by decide⟩)
  | resetRun => exact opResetRun_abreast hp follows (live ⟨by decide, by decide⟩)

theorem handleRequest_abreast (ready : Ready s h) (ha : Abreast s h) (message : List UInt8) :
    (handleRequest message).wp s h fun _ => Abreast := by
  simp only [handleRequest, Action.wp_bind, getSession_wp, Action.wp_ite, Action.wp_pure]
  refine ⟨fun _ => ha, fun valid => ⟨fun _ => ha, fun _ => ⟨fun _ => ha, fun _ => ?_⟩⟩⟩
  have alive : s.transportDead = false := Bool.eq_false_of_not_eq_true fun dead =>
      valid (Or.inl dead)
  obtain ⟨p, known, following⟩ := ha.follows
  have follows := following alive
  have hp : Hears p s h := ⟨ha.fits, p, known, fun _ => rfl⟩
  cases requestOp (MsgHeader.parse message).opcode with
  | none =>
    apply refuse_abreast hp follows
    split <;> decide
  | some op =>
    cases gate : (gateTable s.state (gateColumn op)).refusal with
    | some status =>
      simp only [gate]
      exact refuse_abreast hp follows (refusal_not_ok gate)
    | none =>
      simp only [gate]
      exact dispatch_abreast ready alive hp follows gate

theorem handle_abreast (ready : Ready s h) (ha : Abreast s h) (i : Input) :
    (handle i).wp s h fun _ => Abreast := by
  cases i with
  | request message =>
    simp only [handle, Action.wp_bind, Action.wp_pure]
    exact handleRequest_abreast ready ha message
  | poll =>
    simp only [handle, handlePoll, Action.wp_bind, getSession_wp, Action.wp_ite, Action.wp_pure]
    refine ⟨fun _ => ha, fun polls => ?_⟩
    have alive : s.transportDead = false := Bool.eq_false_of_not_eq_true fun dead =>
        polls (Or.inl dead)
    have state : s.state = .running := by
      by_contra other
      exact polls (Or.inr (Or.inl other))
    obtain ⟨p, known, following⟩ := ha.follows
    have follows := following alive
    rcases follows.live (Or.inr state) with ⟨n, rfl⟩ | ⟨n, rfl⟩
    · exact absurd (follows.1.symm.trans state) (by decide)
    · exact pollStop_abreast ⟨ha.fits, .running n, known, fun _ => rfl⟩ state follows.2
  | disconnect =>
    obtain ⟨p, known, -⟩ := ha.follows
    exact handleDisconnect_abreast ha.fits known

/-- In every run, whatever the backend answers, the frames the sink took are a word of the peer's
protocol, and as long as the sink has taken all of them they lead the peer to the state and the stop
the session is in. -/
theorem peer_follows {T : Type} (env : SessionEnvironment T) (t₀ : T) (inputs : List Input) :
    ∃ p, heard (playSession env (freshWorld t₀) inputs).history = some p ∧
      ((playSession env (freshWorld t₀) inputs).state.transportDead = false →
        p.Follows (playSession env (freshWorld t₀) inputs).state) := by
  have kept : Abreast (playSession env (freshWorld t₀) inputs).state
      (playSession env (freshWorld t₀) inputs).history ∧
      Ready (playSession env (freshWorld t₀) inputs).state
      (playSession env (freshWorld t₀) inputs).history := by
    apply World.play_invariant (P := fun s h => Abreast s h ∧ Ready s h) _ inputs
    · exact ⟨⟨Nat.zero_le _, .detached, rfl, fun _ => rfl⟩, ready_fresh⟩
    intro s h i both
    apply Action.wp_mono (Action.wp_and (handle_abreast both.2 both.1 i) (handle_moves i both.2))
    intro _ s' evs ended
    exact ⟨ended.1, ended.2.2⟩
  exact kept.1.follows

end SidpClient
