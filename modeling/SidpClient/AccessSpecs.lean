import SidpClient.RunSpecs
import SidpClient.ShadowBytes

/-! What GET_STATE and the memory and register requests do. -/
namespace SidpClient
open LittleEndian Interactive

variable {policy : Policy} {c₀ : Config} {s : Session} {h : SessionHistory}
  {opcode : UInt16} {requestId : UInt32} {payload : List UInt8}

/-- A handler that answers its request once, before any event. -/
def Replies (policy : Policy) (c₀ : Config) (opcode : UInt16) (requestId : UInt32) :
    Session → SessionHistory → Prop :=
  Handled policy c₀ fun _ _ fs => ResponseFirst opcode requestId fs

theorem respond_replies {status : Status} (ht : Trace policy c₀ s h []) (ready : Ready s h)
    (alive : s.transportDead = false) (hnot : opcode ≠ Opcode.attach ∨ status ≠ .ok) :
    (respond opcode requestId status).wp s h fun _ => Replies policy c₀ opcode requestId := by
  refine respond_trace ht hnot fun b dead h₁ fs₁ ht₁ hd => ?_
  exact ⟨fs₁, ht₁, ready.framed hd.keeps.toKeepsHalt hd.live hd.latched,
    hd.sent.responseFirst alive fun f hf => hf.header.isResponseTo⟩

theorem sendBackendFailure_replies {result : EspErr} {fallback : Status}
    (ht : Trace policy c₀ s h []) (ready : Ready s h) (alive : s.transportDead = false)
    (hne : fallback ≠ .ok) :
    (sendBackendFailure opcode requestId result fallback).wp s h fun _ =>
      Replies policy c₀ opcode requestId :=
  sendBackendFailure_ready ht ready hne alive fun _ _ fs' ht' ready' _ first =>
    ⟨fs', ht', ready', first⟩

theorem Trace.reframed {fs : List (List UInt8)} {b : Buffer} {n : ℕ} (ht : Trace policy c₀ s h fs) :
    Trace policy c₀ (s.framed b n s.transportDead) h fs := ht.keep (SameCore.of_framed s b n)

/-- A call that reads into the frame buffer, between two states of that buffer. -/
theorem Trace.callFramed {p : Policy} (b b' : Buffer) (n n' : ℕ) {c : Call} (a : Answer)
    (allowed : CallAllowed s h c) (plain : ¬c.Settles a) :
    Trace p (s, h) (s.framed b' n' s.transportDead)
      (h ++ [⟨.call (s.framed b n s.transportDead) c, a⟩]) [] := by
  have allowed' : CallAllowed (s.framed b n s.transportDead) h c := by
    cases c <;> exact allowed
  exact (Trace.start.reframed.call a allowed' plain).reframed

theorem Ready.reframed {h' : SessionHistory} {b : Buffer} {n : ℕ} (ready : Ready s h)
    (k : KeepsHalt h h') : Ready (s.framed b n s.transportDead) h' :=
  ready.framed k (fun hl hd => k.rejected (hl hd)) id

/-- A response assembled in the frame buffer. -/
theorem finishFrame_replies {b : Buffer} {n : ℕ} (ht : Trace policy c₀ s h []) (ready : Ready s h)
    (alive : s.transportDead = false) (hn : isValidMessageSize n)
    (header : b.read 0 8 = headerBytes MsgKind.response opcode requestId)
    (hop : opcode ≠ Opcode.attach) :
    finishFrame.wp { s with scratch := b, txFrameSize := n } h fun _ =>
      Replies policy c₀ opcode requestId := by
  refine finishFrame_offered (P := fun f => HasHeader f MsgKind.response opcode requestId) hn
    (fun crc => sealedFrame_hasHeader crc (by have := hn.1; simp only [headerSize] at this; omega)
      header)
    fun b' dead evs ho => ?_
  obtain ⟨fs', ht', hd⟩ := ht.respond (b := b') (n := n) ho fun f hf =>
    ⟨hf.isResponseTo.1, hf.not_advertised hop⟩
  exact ⟨fs', ht', ready.framed hd.keeps.toKeepsHalt hd.live hd.latched,
    hd.sent.responseFirst alive fun f hf => hf.isResponseTo⟩

theorem read_header_payload {b : Buffer} {kind : UInt8} {offset : ℕ} {bytes : List UInt8}
    (header : b.read 0 8 = headerBytes kind opcode requestId) :
    (b.write (headerSize + offset) bytes).read 0 8 = headerBytes kind opcode requestId := by
  rw [Buffer.read_write_of_disjoint _ _ _ _ _ (Or.inl (by simp only [headerSize]; omega)), header]

theorem opGetState_replies (ready : Ready s h) (alive : s.transportDead = false) :
    (opGetState requestId payload).wp s h fun _ =>
      Replies policy (s, h) Opcode.getState requestId := by
  simp only [opGetState, Action.wp_bind, Action.wp_ite, Action.wp_pure, beginFrame_wp,
    getSession_wp, writePayload_wp]
  refine ⟨fun _ => respond_replies Trace.start ready alive (Or.inl (by decide)), fun _ =>
    ⟨fun hn => absurd hn (by decide), fun _ => ⟨fun hf => (by simp at hf), fun _ => ?_⟩⟩⟩
  refine finishFrame_replies (s := s) Trace.start ready alive (by decide)
    (read_header_payload (read_headerBytes _ _ _ _)) (by decide)

/-! Memory. -/

theorem opReadMemory_replies (ready : Ready s h) (he : Engaged s h)
    (alive : s.transportDead = false) :
    (opReadMemory requestId payload).wp s h fun _ =>
      Replies policy (s, h) Opcode.readMemory requestId := by
  simp only [opReadMemory, Action.wp_bind, getSession_wp]
  cases hcheck : checkReadMemory s payload with
  | error status =>
    exact respond_replies Trace.start ready alive (Or.inl (by decide))
  | ok req =>
    obtain ⟨-, -, hsize, hmap⟩ := checkReadMemory_ok hcheck
    simp only [Action.wp_bind, Action.wp_ite, Action.wp_pure, beginFrame_wp, backend_wp,
      writePayload_wp, getSession_wp]
    refine ⟨fun hn => ?_, fun _ => ⟨fun hf => (by simp at hf), fun _ a => ?_⟩⟩
    · simp only [maxFrameSize, headerSize, readMemoryResponseSize] at hn hsize
      omega
    have k (s₁ : Session) : Keeps h (h ++ [⟨.call s₁ (.readMem (.request req.flags []) req.address
      req.length.toNat req.accessWidth), a⟩]) := keeps_movesData rfl
    have ht (b b' : Buffer) (n n' : ℕ) := Trace.callFramed (p := policy) b b' n n'
      (c := .readMem (.request req.flags []) req.address req.length.toNat req.accessWidth) a
      (show CallAllowed s h _ from ⟨he.attached, he.mapped, validateMemoryAccess_ok hmap⟩) id
    refine ⟨fun _ => ?_, fun _ => ?_⟩
    · exact sendBackendFailure_replies (ht _ _ _ _) (ready.reframed (k _).toKeepsHalt) alive
        (by decide)
    · refine finishFrame_replies (ht _ s.scratch _ s.txFrameSize)
        (ready.reframed (k _).toKeepsHalt) alive ?_
        (read_header_payload (read_header_payload (read_header_payload (read_headerBytes _ _ _ _))))
        (by decide)
      simp only [isValidMessageSize, maxFrameSize, headerSize, readMemoryResponseSize] at hsize ⊢
      omega

theorem opWriteMemory_replies (ready : Ready s h) (he : Engaged s h)
    (alive : s.transportDead = false) :
    (opWriteMemory requestId payload).wp s h fun _ =>
      Replies policy (s, h) Opcode.writeMemory requestId := by
  simp only [opWriteMemory, Action.wp_bind, getSession_wp]
  cases hcheck : checkWriteMemory s payload with
  | error status =>
    exact respond_replies Trace.start ready alive (Or.inl (by decide))
  | ok req =>
    obtain ⟨-, -, hlength, hmap⟩ := checkWriteMemory_ok hcheck
    simp only [Action.wp_bind, Action.wp_ite, backend_wp, updateSession_wp]
    intro a
    generalize hdata : payload.drop writeMemoryRequestSize = data at hlength ⊢
    have hcovered := validateMemoryAccess_ok hmap
    rw [← hlength, ← writeImage_length s.swTable req.address data] at hcovered
    have allowed : CallAllowed (s.framed (s.scratch.write 0 (writeImage s.swTable req.address data))
        s.txFrameSize s.transportDead) h (.writeMem (.request req.flags data) req.address
          (writeImage s.swTable req.address data) req.accessWidth) :=
      ⟨he.attached, he.mapped, hcovered⟩
    have k (s₁ : Session) :
        Keeps h (h ++ [⟨.call s₁ (.writeMem (.request req.flags data) req.address
      (writeImage s.swTable req.address data) req.accessWidth), a⟩]) := keeps_movesData rfl
    refine ⟨fun fail => ?_, fun ok => ?_⟩
    · exact sendBackendFailure_replies ((Trace.reframed Trace.start).call a allowed fail)
        (ready.reframed (k _).toKeepsHalt) alive (by decide)
    · have ht := (Trace.reframed (Trace.start (p := policy) (s := s) (h := h))).settle
        (.write req.flags data req.address req.accessWidth a allowed he.armed (by simpa using ok))
      refine respond_replies ht ?_ alive (Or.inl (by decide))
      refine ready.transfer rfl (fun entry hm => ?_) (k _).toKeepsHalt
      obtain ⟨old, hold, rfl⟩ := List.mem_map.mp hm
      rw [SwBp.absorb_installed]
      exact he.armed old hold

/-! Registers. -/

theorem normalizePcInRegisterBlob_read_header {buffer : Buffer} {base size : ℕ} {bytes : List UInt8}
    (hbase : 8 ≤ base) (header : buffer.read 0 8 = bytes) :
    (normalizePcInRegisterBlob s buffer base size).read 0 8 = bytes := by
  unfold normalizePcInRegisterBlob
  split
  · exact header
  · split
    · rw [Buffer.read_write_of_disjoint _ _ _ _ _ (Or.inl (by omega)), header]
    · exact header

theorem opReadRegisters_replies (ready : Ready s h) (state : s.state = .halted)
    (alive : s.transportDead = false) :
    (opReadRegisters requestId payload).wp s h fun _ =>
      Replies policy (s, h) Opcode.readRegisters requestId := by
  simp only [opReadRegisters, Action.wp_bind, getSession_wp]
  cases hcheck : checkReadRegisters s payload with
  | error status =>
    exact respond_replies Trace.start ready alive (Or.inl (by decide))
  | ok req =>
    have he := ready.engaged (Or.inl state)
    simp only [Action.wp_bind, Action.wp_ite, Action.wp_pure, beginFrame_wp, backend_wp,
      writePayload_wp, getSession_wp, updateSession_wp]
    refine ⟨fun hn => absurd hn (by decide), fun _ => ⟨fun hf => (by simp at hf), fun _ a => ?_⟩⟩
    have k (s₁ : Session) : Keeps h (h ++ [⟨.call s₁ (.readRegs
      (registerIds payload req.registerCount.toNat) registerBlobCapacity), a⟩]) :=
      keeps_movesData rfl
    have ht (b b' : Buffer) (n n' : ℕ) := Trace.callFramed (p := policy) b b' n n'
      (c := .readRegs (registerIds payload req.registerCount.toNat) registerBlobCapacity) a
      (show CallAllowed s h _ from ⟨he.attached, ready.known state alive⟩) id
    refine ⟨fun _ => ?_, fun _ => ⟨fun _ => ?_, fun fit => ?_⟩⟩
    · exact sendBackendFailure_replies (ht _ _ _ _) (ready.reframed (k _).toKeepsHalt) alive
        (by decide)
    · exact respond_replies (ht _ _ _ _) (ready.reframed (k _).toKeepsHalt) alive
        (Or.inl (by decide))
    · refine finishFrame_replies (ht _ s.scratch _ s.txFrameSize)
        (ready.reframed (k _).toKeepsHalt) alive ?_
        (read_header_payload (normalizePcInRegisterBlob_read_header (by decide) (read_header_payload
          (read_headerBytes _ _ _ _)))) (by decide)
      simp only [isValidMessageSize, registerBlobCapacity, maxFrameSize, headerSize,
        readRegistersResponseSize] at fit ⊢
      omega

/-- A register write decides about the step-over only. -/
theorem updateStepOverAfterRegisterWrite_cases (data : List UInt8) (count : ℕ) (s : Session) :
    updateStepOverAfterRegisterWrite data count s = s ∨
      updateStepOverAfterRegisterWrite data count s =
        { s with swStepOverPending := false, swStepOverAddress := 0 } := by
  simp only [updateStepOverAfterRegisterWrite]
  split
  · exact Or.inl rfl
  · split
    · split
      · exact Or.inr rfl
      · exact Or.inl rfl
    · exact Or.inl rfl

theorem opWriteRegisters_replies (ready : Ready s h) (state : s.state = .halted)
    (alive : s.transportDead = false) :
    (opWriteRegisters requestId payload).wp s h fun _ =>
      Replies policy (s, h) Opcode.writeRegisters requestId := by
  simp only [opWriteRegisters, Action.wp_bind, getSession_wp]
  cases hcheck : checkWriteRegisters s payload with
  | error status =>
    exact respond_replies Trace.start ready alive (Or.inl (by decide))
  | ok req =>
    have he := ready.engaged (Or.inl state)
    simp only [Action.wp_bind, Action.wp_ite, Action.wp_pure, backend_wp, updateSession_wp]
    intro a
    have ht₁ := (Trace.start (p := policy) (s := s)).call
      (c := .writeRegs (payload.drop writeRegistersRequestSize)) a
      ⟨he.attached, ready.known state alive⟩ id
    have k : Keeps h (h ++ [⟨.call s (.writeRegs (payload.drop writeRegistersRequestSize)), a⟩]) :=
      keeps_movesData rfl
    refine ⟨fun _ => ?_, fun _ => ?_⟩
    · exact sendBackendFailure_replies ht₁ (ready.keeps k.toKeepsHalt) alive (by decide)
    · rcases updateStepOverAfterRegisterWrite_cases (payload.drop writeRegistersRequestSize)
        req.registerCount.toNat s with hs | hs <;> rw [hs]
      · exact respond_replies ht₁ (ready.keeps k.toKeepsHalt) alive (Or.inl (by decide))
      · exact respond_replies (ht₁.keep (sameCore_of_rfl rfl))
          (ready.transfer rfl he.armed k.toKeepsHalt) alive (Or.inl (by decide))

end SidpClient
