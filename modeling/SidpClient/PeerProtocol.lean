import SidpClient.QuietPrograms

/-! The other end of the connection: what a peer that only reads the frames makes of them, and which
frames it refuses to have been sent. -/
namespace SidpClient
open LittleEndian Interactive

/-- What the peer takes the target for. While it runs, the last stop it was told of. -/
inductive Peer where
  | detached
  | running (last : UInt32)
  | halted (stopId : UInt32)
  | lost
deriving DecidableEq, Repr

namespace Peer

def state : Peer → TargetState
  | .detached => .detached
  | .running _ => .running
  | .halted _ => .halted
  | .lost => .lost

def stopId : Peer → UInt32
  | .halted n => n
  | _ => 0

/-- A request was served with STATUS_OK. LOST can only be left by the reset that used up the last
stop. -/
def serve : Peer → RequestOp → Option Peer
  | .detached, .attach => some (.running 0)
  | .running _, .detach => some .detached
  | .halted _, .detach => some .detached
  | .halted n, .run => some (.running n)
  | .running n, .halt => some (.running n)
  | .running n, .resetHalt => some (.running n)
  | .halted n, .resetHalt => some (.running n)
  | .running n, .resetRun => some (.running n)
  | .halted n, .resetRun => some (.running n)
  | .lost, .halt => some .lost
  | .lost, .resetHalt => some .lost
  | .lost, .resetRun => some (.running 0)
  | .halted n, .readRegisters => some (.halted n)
  | .halted n, .writeRegisters => some (.halted n)
  | .running n, .readMemory => some (.running n)
  | .halted n, .readMemory => some (.halted n)
  | .running n, .writeMemory => some (.running n)
  | .halted n, .writeMemory => some (.halted n)
  | p, .getState => some p
  | _, _ => none

/-- A stop is news, and only of a target that was let run. -/
def stop : Peer → UInt32 → Option Peer
  | .running n, id => if n < id then some (.halted id) else none
  | _, _ => none

def lose : Peer → Option Peer
  | .lost => none
  | _ => some .lost

/-- What a response says of the target is what the peer holds true already. -/
def agrees (p : Peer) (op : RequestOp) (f : List UInt8) : Bool :=
  match op with
  | .getState => getU8 f 16 == p.state.value && getU32 f 20 == p.stopId
  | .readRegisters => p == .halted (getU32 f 16)
  | _ => true

def hear (p : Peer) (f : List UInt8) : Option Peer :=
  if isStopped f then p.stop (stoppedFrameId f)
  else if isTargetLost f then p.lose
  else if !isResponse f then none
  else if frameStatus f = Status.ok.value then
    match requestOp (frameOpcode f) with
    | some op => if p.agrees op f then p.serve op else none
    | none => none
  else some p

/-- The session is where the peer takes it to be. -/
def Follows : Peer → Session → Prop
  | .detached, s => s.state = .detached
  | .running n, s => s.state = .running ∧ n ≤ s.stopId
  | .halted n, s => s.state = .halted ∧ n = s.stopId
  | .lost, s => s.state = .lost

/-- The peer knows of an earlier stop than `k` only. -/
def Behind : Peer → UInt32 → Prop
  | .running n, k => n < k
  | .halted n, k => n < k
  | _, _ => False

def UpTo : Peer → UInt32 → Prop
  | .running n, k => n ≤ k
  | .halted n, k => n ≤ k
  | _, _ => False

end Peer

def hearStep (p : Option Peer) : SessionEvent → Option Peer
  | ⟨.call _ _, _⟩ => p
  | ⟨.offer f, accepted⟩ => if accepted then p.bind (·.hear f) else p

/-- What the peer makes of the frames the sink took, or that it refused one of them. -/
def heard (h : SessionHistory) : Option Peer := view hearStep (some .detached) h

variable {s s' : Session} {h h' : SessionHistory} {p p' : Peer} {f : List UInt8}
  {opcode : UInt16} {requestId : UInt32} {status : Status}

@[simp] theorem heard_call {c : Call} {a : Answer} :
    heard (h ++ [⟨.call s c, a⟩]) = heard h := view_concat

@[simp] theorem heard_offer {accepted : Bool} :
    heard (h ++ [⟨.offer f, accepted⟩]) = if accepted then (heard h).bind
      (·.hear f) else heard h := view_concat

theorem QuietHistory.heard (q : QuietHistory h h') : heard h' = heard h := by
  obtain ⟨evs, rfl, quiet⟩ := q
  apply view_append_of_blind
  intro ev hm p
  obtain ⟨e, reply⟩ := ev
  cases e with
  | call s c => rfl
  | offer f => exact absurd (quiet _ hm) id

namespace Peer

theorem Follows.upTo (hf : p.Follows s) (live : s.state = .halted ∨ s.state = .running) :
    p.UpTo s.stopId := by
  cases p with
  | detached | lost =>
    have state := hf
    rcases live with hs | hs <;> exact absurd (state.symm.trans hs) (by decide)
  | running n => exact hf.2
  | halted n =>
    have known : n = s.stopId := hf.2
    rw [known]
    exact UInt32.le_refl s.stopId

theorem UpTo.behind {k : UInt32} (hp : p.UpTo k) (next : k + 1 ≠ 0) : p.Behind (k + 1) := by
  have grows : k < k + 1 := by
    rw [UInt32.lt_iff_toNat_lt, UInt32.toNat_add]
    have small := k.toNat_lt
    have wraps : k.toNat + (1 : UInt32).toNat ≠ 2 ^ 32 := by
      intro full
      apply next
      apply UInt32.toNat_inj.mp
      rw [UInt32.toNat_add, full]
      rfl
    simp only [UInt32.reduceToNat] at wraps ⊢
    omega
  cases p with
  | detached | lost => exact hp
  | running n => exact UInt32.lt_of_le_of_lt hp grows
  | halted n => exact UInt32.lt_of_le_of_lt hp grows

theorem Behind.upTo {k : UInt32} (hp : p.Behind k) : p.UpTo k := by
  cases p with
  | detached | lost => exact hp
  | running n => exact UInt32.le_of_lt hp
  | halted n => exact UInt32.le_of_lt hp

theorem UpTo.lose {k : UInt32} (hp : p.UpTo k) : p.lose = some .lost := by
  cases p with
  | detached | lost => exact hp.elim
  | running n => rfl
  | halted n => rfl

theorem Follows.lose (hf : p.Follows s) (state : s.state ≠ .lost) : p.lose = some .lost := by
  cases p with
  | lost => exact absurd hf state
  | detached => rfl
  | running n => rfl
  | halted n => rfl

/-- What the peer expects of each response but those that carry news of the target. -/
def answers (p : Peer) (opcode : UInt16) (status : Status) : Option Peer :=
  if status = .ok then (requestOp opcode).bind p.serve else some p

theorem hear_response (response : isResponse f = true) (opened : frameOpcode f = opcode)
    (read : frameStatus f = status.value)
    (agree : status = .ok → ∀ op, requestOp opcode = some op → p.agrees op f = true) :
    p.hear f = p.answers opcode status := by
  have stopped : isStopped f = false := isStopped_of_response response
  have lost : isTargetLost f = false := isTargetLost_of_response response
  rw [hear, stopped, lost, response, read, opened, answers]
  by_cases ok : status = .ok
  · rw [ok]
    cases hop : requestOp opcode with
    | none => rfl
    | some op =>
      have fits := agree ok op hop
      simp [fits]
  · have other : status.value ≠ Status.ok.value := fun same => ok (Status.value_injective same)
    simp [ok, other]

theorem hear_lost {reason : TargetLostReason} (hf : LostFrame reason f) : p.hear f = p.lose := by
  rw [hear, hf.not_stopped, hf.isTargetLost]
  rfl

theorem hear_stopped (hf : StoppedFrame s f) : p.hear f = p.stop s.stopId := by
  have named : stoppedFrameId f = s.stopId := hf.stopId
  rw [hear, hf.isStopped, named]
  rfl

end Peer

end SidpClient
