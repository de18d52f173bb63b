import SidpClient.HitReports
import SidpClient.TargetWrites
import SidpClient.ShadowPrograms

/-! What a history shows of the PC of a halted target, and what the peer has been told of it. -/
namespace SidpClient
open LittleEndian Interactive

/-- A register list with one PC at most, of four bytes. -/
def setsPcOnce (data : List UInt8) : Bool :=
  let pcs := (registerEntries (getU8 data) data.length).filter (·.registerId == armRegPc)
  pcs.length ≤ 1 && pcs.all (·.valueSize == 4)

/-- The PC the target is known to have, from reads and writes since it last moved; the PC the peer
was told or has written; and the PC of the register write the session has just made. -/
structure PcView where
  actual : Option UInt32 := none
  told : Option UInt32 := none
  written : Option UInt32 := none
deriving DecidableEq

/-- The PC of the entries behind the fixed part of a READ_REGISTERS response. -/
def registersFramePc (f : List UInt8) : Option UInt32 :=
  reportedPc (fun i => getU8 f (headerSize + readRegistersResponseSize + i))
    (f.length - (headerSize + readRegistersResponseSize))

/-- What the peer knows of the PC after a frame. -/
def PcView.tells (v : PcView) (f : List UInt8) : Option UInt32 :=
  if isStopped f then (stoppedFramePc f).or v.told
  else if isAccepted Opcode.readRegisters f then (registersFramePc f).or v.told
  else if isAccepted Opcode.writeRegisters f then v.written.or v.told
  else v.told

/-- A register write and a detach that fail leave the PC as it was. -/
def pcStep (v : PcView) : SessionEvent → PcView
  | ⟨.call _ (.readRegs _ capacity), a⟩ =>
    if a.code = .ok ∧ a.outSize ≤ capacity then
      { v with actual := (reportedPc (getU8 a.data) a.outSize).or v.actual, written := none }
    else { v with written := none }
  | ⟨.call _ (.writeRegs data), a⟩ =>
    if a.code = .ok then
      { v with actual := (writtenPc data).or v.actual, written := writtenPc data }
    else { v with written := none }
  | ⟨.call _ (.detach _), a⟩ => if a.code = .ok then {} else { v with written := none }
  | ⟨.call _ c, _⟩ => if c.routine then { v with written := none } else {}
  | ⟨.offer f, _⟩ => { v with told := v.tells f, written := none }

def pcView (h : SessionHistory) : PcView := view pcStep {} h

/-- A successful register read filled what it says it read, and a PC in it is the one the target is
known to have. -/
def FaithfulRead (h : SessionHistory) : SessionEvent → Prop
  | ⟨.call _ (.readRegs _ capacity), a⟩ =>
    a.code = .ok → a.outSize ≤ capacity → a.outSize ≤ a.data.length ∧
      ∀ p q, reportedPc (getU8 a.data) a.outSize = some p → (pcView h).actual = some q → p = q
  | _ => True

abbrev Faithful (h : SessionHistory) : Prop := EveryEvent FaithfulRead h

/-- The target is resumed where the peer was told it is, and left there by a DETACH; and no two
responses to READ_REGISTERS disagree. -/
def PcSound (h : SessionHistory) : SessionEvent → Prop
  | ⟨.call _ (.resume _ _), _⟩ => ∀ p, (pcView h).told = some p → (pcView h).actual = some p
  | ⟨.call s (.detach _), _⟩ =>
    s.transportDead = false → ∀ p, (pcView h).told = some p → (pcView h).actual = some p
  | ⟨.offer f, _⟩ => isAccepted Opcode.readRegisters f = true →
    ∀ p q, registersFramePc f = some p → (pcView h).told = some q → p = q
  | _ => True

variable {s s' : Session} {h h' evs : SessionHistory} {f : List UInt8} {accepted : Bool} {c : Call}
  {a : Answer} {opcode : UInt16} {requestId : UInt32} {status : Status} {v : PcView}

theorem pcView_concat (ev : SessionEvent) : pcView (h ++ [ev]) = pcStep (pcView h) ev := view_concat

/-! Calls. -/

/-- A call that neither moves the target nor reads or writes its registers. -/
def Call.free : Call → Bool
  | .readRegs _ _ | .writeRegs _ => false
  | c => c.routine

theorem Call.free_of_shadows (shadows : c.shadows = true) : c.free = true := by
  cases c with
  | readMem | writeMem => rfl
  | _ => exact absurd shadows (by simp [Call.shadows])

theorem pcStep_free (free : c.free = true) :
    (pcStep v ⟨.call s c, a⟩).actual = v.actual ∧ (pcStep v ⟨.call s c, a⟩).told = v.told := by
  cases c with
  | readRegs | writeRegs | attach | detach | reset | resume => exact nomatch free
  | _ => exact ⟨rfl, rfl⟩

theorem pcSound_free (free : c.free = true) : PcSound h ⟨.call s c, a⟩ := by
  cases c with
  | readRegs | writeRegs | attach | detach | reset | resume => exact nomatch free
  | _ => trivial

/-- No call tells the peer anything. -/
theorem pcStep_told (v : PcView) (s : Session) (c : Call) (a : Answer) :
    (pcStep v ⟨.call s c, a⟩).told = v.told ∨ (pcStep v ⟨.call s c, a⟩).told = none := by
  cases c with
  | readRegs | writeRegs =>
    left
    simp only [pcStep]
    split <;> rfl
  | detach =>
    simp only [pcStep]
    split
    · exact Or.inr rfl
    · exact Or.inl rfl
  | attach | reset | resume => exact Or.inr rfl
  | _ => exact Or.inl rfl

/-- A write or a detach that failed changes nothing. -/
theorem pcStep_failed (failed : a.code ≠ .ok)
    (kind : (∃ data, c = .writeRegs data) ∨ ∃ action, c = .detach action) :
    (pcStep v ⟨.call s c, a⟩).actual = v.actual ∧ (pcStep v ⟨.call s c, a⟩).told = v.told := by
  rcases kind with ⟨data, rfl⟩ | ⟨action, rfl⟩
  · rw [pcStep, if_neg failed]
    exact ⟨rfl, rfl⟩
  · rw [pcStep, if_neg failed]
    exact ⟨rfl, rfl⟩

/-! Frames. -/

/-- A frame that tells nothing of the PC. -/
def Plain (f : List UInt8) : Prop :=
  isStopped f = false ∧ isAccepted Opcode.readRegisters f = false ∧
    isAccepted Opcode.writeRegisters f = false

theorem tells_plain (plain : Plain f) (v : PcView) : v.tells f = v.told := by
  obtain ⟨stop, read, write⟩ := plain
  rw [PcView.tells, stop, read, write]
  rfl

theorem HasHeader.plain (hf : HasHeader f MsgKind.response opcode requestId)
    (read : opcode ≠ Opcode.readRegisters) (write : opcode ≠ Opcode.writeRegisters) : Plain f := by
  have named : frameOpcode f = opcode := hf.opcode
  refine ⟨isStopped_of_response hf.isResponseTo.1, ?_, ?_⟩
  · simp [isAccepted, named, read]
  · simp [isAccepted, named, write]

theorem HasHeader.plain_lost (hf : HasHeader f MsgKind.event Opcode.targetLost 0) : Plain f := by
  have kind : frameKind f = MsgKind.event := hf.kind
  have named : frameOpcode f = Opcode.targetLost := hf.opcode
  refine ⟨?_, ?_, ?_⟩
  · have other : (Opcode.targetLost == Opcode.stopped) = false := by decide
    rw [isStopped, named, other, Bool.and_false]
  · rw [isAccepted, isResponse, kind]
    rfl
  · rw [isAccepted, isResponse, kind]
    rfl

theorem ResponseFrame.plain (hf : ResponseFrame opcode requestId status f)
    (refused : status = .ok → opcode ≠ Opcode.readRegisters ∧ opcode ≠ Opcode.writeRegisters) :
    Plain f := by
  by_cases ok : status = .ok
  · exact hf.header.plain (refused ok).1 (refused ok).2
  · have told : frameStatus f = status.value := hf.status
    have other : (frameStatus f == Status.ok.value) = false := by
      rw [told, beq_eq_false_iff_ne]
      exact fun same => ok (Status.value_injective same)
    refine ⟨isStopped_of_response hf.header.isResponseTo.1, ?_, ?_⟩
    · rw [isAccepted, other, Bool.and_false]
    · rw [isAccepted, other, Bool.and_false]

theorem pcSound_plain (plain : Plain f) : PcSound h ⟨.offer f, accepted⟩ :=
  fun read => absurd (plain.2.1.symm.trans read) Bool.false_ne_true

end SidpClient
