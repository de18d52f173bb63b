import SidpClient.PcHandlers
import SidpClient.RegisterGrammar

/-! READ_REGISTERS and WRITE_REGISTERS keep the peer's PC the session's. -/
namespace SidpClient
open LittleEndian Interactive

variable {s s' s₁ : Session} {h h' evs : SessionHistory} {f : List UInt8} {a : Answer}
  {requestId : UInt32} {status : Status} {payload data : List UInt8} {v : PcView}

/-! READ_REGISTERS. -/

/-- A known PC stays the one the target has. -/
theorem Agreed.read {ids : List UInt16} {capacity : ℕ} (ha : Agreed s h) :
    Agreed s (h ++ [⟨.call s₁ (.readRegs ids capacity), a⟩]) := by
  have told : (pcView (h ++ [⟨.call s₁ (.readRegs ids capacity), a⟩])).told = (pcView h).told := by
    rw [pcView_concat]
    simp only [pcStep]
    split <;> rfl
  refine ⟨ha.truthful.concat fun _ => trivial, fun halted faithful p reported => ?_, fun away => ?_⟩
  · rw [told] at reported
    have known := ha.halted halted faithful.before p reported
    refine ⟨known.1, fun idle => ?_⟩
    have actual := known.2 idle
    rw [pcView_concat]
    simp only [pcStep]
    split
    · rename_i shown
      cases read : reportedPc (getU8 a.data) a.outSize with
      | none => exact actual
      | some q =>
        rw [← (faithful.last shown.1 shown.2).2 q p read actual]
        rfl
    · exact actual
  · rw [told]
    exact ha.away away

theorem tells_read {opcode : UInt16} (hf : HasHeader f MsgKind.response opcode requestId)
    (read : opcode = Opcode.readRegisters) :
    v.tells f = (registersFramePc f).or v.told ∨ v.tells f = v.told := by
  have named : frameOpcode f = Opcode.readRegisters := hf.opcode.trans read
  have unwritten : isAccepted Opcode.writeRegisters f = false := by
    have other : (Opcode.readRegisters == Opcode.writeRegisters) = false := by decide
    rw [isAccepted, named, other, Bool.and_false, Bool.false_and]
  rw [PcView.tells, isStopped_of_response hf.isResponseTo.1, unwritten]
  simp only [Bool.false_eq_true, if_false]
  split
  · exact Or.inl rfl
  · exact Or.inr rfl

/-- A response to READ_REGISTERS tells the peer no other PC than it has been told, and the one the
session goes on from. -/
theorem Agreed.shown {ids : List UInt16} {capacity : ℕ} {accepted : Bool} (ha : Agreed s h)
    (state : s.state = .halted) (ok : a.code = .ok) (fits : a.outSize ≤ capacity)
    (hf : HasHeader f MsgKind.response Opcode.readRegisters requestId)
    (pc : a.outSize ≤ a.data.length → registersFramePc f = s.reports a) :
    Agreed s (h ++ [⟨.call s₁ (.readRegs ids capacity), a⟩] ++ [⟨.offer f, accepted⟩]) := by
  have read : Agreed s (h ++ [⟨.call s₁ (.readRegs ids capacity), a⟩]) := ha.read
  have next (faithful : Faithful (h ++ [⟨.call s₁ (.readRegs ids capacity), a⟩])) (p : UInt32)
      (reported : registersFramePc f = some p) :
      s.At (pcView (h ++ [⟨.call s₁ (.readRegs ids capacity), a⟩])).actual p := by
    obtain ⟨given, -⟩ := faithful.last ok fits
    rw [pcView_concat]
    exact at_reports ok fits ((pc given).symm.trans reported)
  refine ⟨read.truthful.concat fun faithful _ p q reported told => ?_,
    fun halted faithful p reported => ?_, fun away => ?_⟩
  · have here := next faithful p reported
    have there := read.halted state faithful q told
    cases pending : s.swStepOverPending with
    | true => exact (here.1 pending).trans (there.1 pending).symm
    | false => exact Option.some.inj ((here.2 pending).symm.trans (there.2 pending))
  · rw [actual_offer]
    rw [pcView_concat] at reported
    change PcView.tells _ f = some p at reported
    rcases tells_read (v := pcView (h ++ [⟨.call s₁ (.readRegs ids capacity), a⟩])) hf
      rfl with told | same
    · rw [told] at reported
      cases shown : registersFramePc f with
      | none =>
        rw [shown] at reported
        exact read.halted halted faithful.before p reported
      | some q =>
        rw [shown] at reported
        cases reported
        exact next faithful.before _ shown
    · rw [same] at reported
      exact read.halted halted faithful.before p reported
  · rcases away with away | away
    · exact absurd (state.symm.trans away) (by decide)
    · exact absurd (state.symm.trans away) (by decide)

/-- The response carries the blob the backend gave, with the PC of a pending step-over. -/
theorem registersFrame_pc {b : Buffer} {bytes : List UInt8} (given : a.outSize ≤ a.data.length)
    (fits : a.outSize ≤ registerBlobCapacity) (front : bytes.length = readRegistersResponseSize)
    (crc : UInt32) :
    registersFramePc (sealedFrame ((normalizePcInRegisterBlob s
      (b.write (headerSize + readRegistersResponseSize) (a.data.take registerBlobCapacity))
        (headerSize + readRegistersResponseSize) a.outSize).write (headerSize + 0) bytes)
      (headerSize + readRegistersResponseSize + a.outSize) crc) = s.reports a := by
  have size (b : Buffer) :
      (sealedFrame b (headerSize + readRegistersResponseSize + a.outSize) crc).length -
      (headerSize + readRegistersResponseSize) = a.outSize := by
    rw [sealedFrame_length, Nat.add_sub_cancel_left]
  rw [registersFramePc, size, Session.reports, ← reportedPc_received b _ given fits,
    ← reportedPc_normalized]
  apply reportedPc_congr
  intro i hi
  rw [sealedFrame_getU8 _ _ _ _ (by omega)
    (Or.inr (by simp only [headerSize, readRegistersResponseSize]; omega)),
    Buffer.write_apply_of_not_mem]
  rw [front]
  omega

theorem opReadRegisters_agreed (ha : Agreed s h) (state : s.state = .halted) :
    (opReadRegisters requestId payload).wp s h fun _ => Agreed := by
  simp only [opReadRegisters, Action.wp_bind, getSession_wp]
  cases hcheck : checkReadRegisters s payload with
  | error status =>
    exact refuse_agreeing (checkReadRegisters_refuses s payload status hcheck) s h ha
  | ok req =>
    simp only [Action.wp_bind, Action.wp_ite, Action.wp_pure, beginFrame_wp, backend_wp,
      writePayload_wp, getSession_wp, updateSession_wp]
    refine ⟨fun big => absurd big (by decide), fun _ =>
      ⟨fun began => absurd began (by decide), fun _ a => ?_⟩⟩
    refine ⟨fun _ => sendBackendFailure_agreeing (by decide) _ _ (ha.read.same rfl rfl rfl),
      fun ok => ⟨fun _ => refuse_agreeing (by decide) _ _ (ha.read.same rfl rfl rfl),
        fun room => ?_⟩⟩
    have fits : a.outSize ≤ registerBlobCapacity := not_lt.mp room
    rw [List.append_assoc, List.append_assoc]
    apply finishFrame_offered (s := s) (P := fun f => HasHeader f MsgKind.response
      Opcode.readRegisters requestId ∧ (a.outSize ≤ a.data.length →
        registersFramePc f = s.reports a))
    · simp only [isValidMessageSize, registerBlobCapacity, maxFrameSize, headerSize,
        readRegistersResponseSize] at fits ⊢
      omega
    · intro crc
      refine ⟨sealedFrame_hasHeader crc (by simp only [headerSize]; omega) (read_header_payload
        (normalizePcInRegisterBlob_read_header (by decide)
          (read_header_payload (read_headerBytes _ _ _ _)))),
        fun given => ?_⟩
      exact registersFrame_pc (s := s) given fits (by simp [readRegistersResponseSize]) crc
    · intro b dead evs sent
      rcases sent with ⟨-, -, rfl⟩ | ⟨-, f, accepted, hf, -, rfl⟩
      · rw [List.append_nil]
        exact ha.read.same rfl rfl rfl
      · exact (ha.shown state (not_not.mp ok) fits hf.1 hf.2).same rfl rfl rfl

/-! WRITE_REGISTERS. -/

/-- A walk over a list of the grammar decides by the PC the list writes. -/
theorem updateStepOver_writtenPc {count : ℕ}
    (whole : (registerEntries (getU8 data) data.length).length ≤ count) :
    (s.swStepOverPending = false ∧ updateStepOverAfterRegisterWrite data count s = s) ∨
      (s.swStepOverPending = true ∧ (∃ pc, writtenPc data = some pc) ∧
        updateStepOverAfterRegisterWrite data count
          s = { s with swStepOverPending := false, swStepOverAddress := 0 }) ∨
      (s.swStepOverPending = true ∧ (∀ pc, writtenPc data = some pc →
        pc = s.swStepOverAddress.toUInt32) ∧
          updateStepOverAfterRegisterWrite data count s = s) := by
  have all : (registerEntries (fun i => getU8 data i) data.length).take count =
      registerEntries (getU8 data) data.length := List.take_of_length_le whole
  cases pending : s.swStepOverPending with
  | false => exact Or.inl ⟨rfl, by rw [updateStepOverAfterRegisterWrite, pending]; rfl⟩
  | true =>
    right
    have walks : ¬(!s.swStepOverPending) = true := by simp [pending]
    rw [updateStepOverAfterRegisterWrite, if_neg walks, all, writtenPc]
    dsimp only
    cases (registerEntries (getU8 data) data.length).find? fun entry =>
        entry.registerId == armRegPc && entry.valueSize == 4 with
    | none => exact Or.inr ⟨rfl, fun pc written => absurd written (by simp), rfl⟩
    | some entry =>
      by_cases other : (getU32 data (entry.offset + registerValueSize)).toUInt64 ≠
        s.swStepOverAddress
      · exact Or.inl ⟨rfl, ⟨_, rfl⟩, if_pos other⟩
      · refine Or.inr ⟨rfl, fun pc written => ?_, if_neg other⟩
        rw [← Option.some.inj written, ← not_not.mp other, UInt32.toUInt32_toUInt64]

theorem tells_write {opcode : UInt16} (hf : ResponseFrame opcode requestId .ok f)
    (write : opcode = Opcode.writeRegisters) : v.tells f = v.written.or v.told := by
  have named : frameOpcode f = Opcode.writeRegisters := hf.header.opcode.trans write
  have told : frameStatus f = Status.ok.value := hf.status
  have response : isResponse f = true := hf.header.isResponseTo.1
  have read : (frameOpcode f == Opcode.readRegisters) = false := by
    rw [named]
    decide
  rw [PcView.tells, isStopped_of_response response, isAccepted, read, isAccepted,
    response, told, named]
  simp only [Bool.and_false, Bool.false_and, Bool.true_and, beq_self_eq_true, Bool.false_eq_true,
    if_false, if_true]

theorem pcSound_write {opcode : UInt16} {accepted : Bool}
    (hf : HasHeader f MsgKind.response opcode requestId) (write : opcode = Opcode.writeRegisters) :
    PcSound h ⟨.offer f, accepted⟩ := by
  have named : frameOpcode f = Opcode.writeRegisters := hf.opcode.trans write
  intro read
  rw [isAccepted, named] at read
  exact absurd read (by simp [Opcode.writeRegisters, Opcode.readRegisters])

/-- The answer to a register write tells the peer the PC it has written, which is where the session
goes on. -/
theorem Agreed.written {count : ℕ} (ha : Agreed s h) (state : s.state = .halted)
    (alive : s.transportDead = false) (ok : a.code = .ok)
    (whole : (registerEntries (getU8 data) data.length).length ≤ count) :
    (respond Opcode.writeRegisters requestId .ok).wp (updateStepOverAfterRegisterWrite data count s)
      (h ++ [⟨.call s₁ (.writeRegs data), a⟩]) fun _ => Agreed := by
  have fields : (updateStepOverAfterRegisterWrite data count s).state = s.state ∧
      (updateStepOverAfterRegisterWrite data count s).transportDead = s.transportDead := by
    rcases updateStepOver_cases data count s with same | cancelled
    · rw [same]
      exact ⟨rfl, rfl⟩
    · rw [cancelled]
      exact ⟨rfl, rfl⟩
  have seen : pcView (h ++ [⟨.call s₁ (.writeRegs data), a⟩]) = { pcView h with
      actual := (writtenPc data).or (pcView h).actual, written := writtenPc data } := by
    rw [pcView_concat, pcStep, if_pos ok]
  apply respond_wp
  intro b dead evs sent
  rcases sent with ⟨gone, -, -⟩ | ⟨-, f, accepted, hf, -, rfl⟩
  · exact absurd ((fields.2.trans alive).symm.trans gone) (by decide)
  have told : (pcView (h ++ [⟨.call s₁ (.writeRegs data), a⟩] ++ [⟨.offer f, accepted⟩])).told =
      (writtenPc data).or (pcView h).told := by
    rw [pcView_concat]
    show PcView.tells _ f = _
    rw [tells_write hf rfl, seen]
  have before : Truthful (h ++ [⟨.call s₁ (.writeRegs data), a⟩]) :=
    ha.truthful.concat fun _ => trivial
  refine ⟨before.concat fun _ => pcSound_write hf.header rfl, fun _ faithful p reported =>
    ?_, fun away => ?_⟩
  · rw [told] at reported
    rw [actual_offer, seen]
    cases written : writtenPc data with
    | some pc =>
      rw [written] at reported
      cases reported
      refine ⟨fun pending => ?_, fun _ => rfl⟩
      change (updateStepOverAfterRegisterWrite data count s).swStepOverPending = true at pending
      show p = (updateStepOverAfterRegisterWrite data count s).swStepOverAddress.toUInt32
      rcases updateStepOver_writtenPc whole with ⟨idle, same⟩ | ⟨-, -, cancelled⟩ | ⟨-, stays, same⟩
      · rw [same] at pending
        exact absurd (pending.symm.trans idle) (by decide)
      · rw [cancelled] at pending
        exact absurd pending Bool.false_ne_true
      · rw [same]
        exact stays p written
    | none =>
      rw [written] at reported
      have known := ha.halted state faithful.before.before p reported
      rcases updateStepOver_writtenPc whole with ⟨-, same⟩ | ⟨-, ⟨pc, changed⟩, -⟩ | ⟨-, -, same⟩
      · rw [same]
        exact known
      · exact absurd (written.symm.trans changed) (by simp)
      · rw [same]
        exact known
  · have live : (updateStepOverAfterRegisterWrite data count s).state = .halted :=
      fields.1.trans state
    rcases away with away | away
    · exact absurd (live.symm.trans away) (by decide)
    · exact absurd (live.symm.trans away) (by decide)

theorem checkWriteRegisters_lists {req : RegistersRequest}
    (hc : checkWriteRegisters s payload = .ok req) :
    ∃ rs, WriteGrammar payload rs ∧ req = RegistersRequest.parse payload := by
  obtain ⟨same, stop⟩ := checkWriteRegisters_ok hc
  have size : writeRegistersRequestSize ≤ payload.length := by
    by_contra short
    have refused : checkWriteRegisters s payload = .error .invalidArgument :=
      if_pos (not_le.mp short)
    rw [refused] at hc
    exact nomatch hc
  rw [same] at stop
  rcases checkWriteRegisters_grammar size stop with ⟨-, rs, grammar⟩ | ⟨refused, -⟩
  · exact ⟨rs, grammar, same⟩
  · rw [refused] at hc
    exact nomatch hc

theorem opWriteRegisters_agreed (ha : Agreed s h) (state : s.state = .halted)
    (alive : s.transportDead = false) :
    (opWriteRegisters requestId payload).wp s h fun _ => Agreed := by
  simp only [opWriteRegisters, Action.wp_bind, getSession_wp]
  cases hcheck : checkWriteRegisters s payload with
  | error status =>
    exact refuse_agreeing (checkWriteRegisters_refuses s payload status hcheck) s h ha
  | ok req =>
    simp only [Action.wp_bind, Action.wp_ite, Action.wp_pure, backend_wp, updateSession_wp]
    intro a
    constructor
    · intro failed
      have kept :
          Agreed s (h ++ [⟨.call s (.writeRegs (payload.drop writeRegistersRequestSize)), a⟩]) :=
        ha.failed failed (Or.inl ⟨_, rfl⟩) fun _ => trivial
      exact sendBackendFailure_agreeing (by decide) s _ kept
    · intro done
      obtain ⟨rs, grammar, rfl⟩ := checkWriteRegisters_lists hcheck
      apply ha.written state alive (not_not.mp done)
      rw [← grammar.count]
      exact (registerEntries_sees grammar.list).length_eq.le

end SidpClient
