import SidpClient.FifoLedger
import SidpClient.MessageCrc

/-! The packet queues under the CDC and WebSocket transports, once `create_queues` has made them.
Every operation takes the queue mutex; `dead`, `connected` and `epoch` are also read without it. -/
namespace SidpClient
open Fifo

def maxLogFrameSize : ℕ := headerSize + 4 + 1024

structure PacketQueue where
  dead : Bool := true
  connected : Bool := false
  epoch : UInt32 := 0
  linkSerial : UInt64 := 0
  acceptedLinkSerial : UInt64 := 0
  ringBuffer : List (List UInt8) := []
  txRing : List (List UInt8) := []
  logRing : List (List UInt8) := []
  rxBorrowed : ℕ := 0
  txPending : ℕ := 0
  txBusy : Bool := false
  txDropped : UInt32 := 0

/-- A write of the mutex holder. Others see the state between two of them. -/
inductive QueueWrite where
  | storeConnected (up : Bool)
  | incrementLinkSerial
  | storeDead (value : Bool)
  | incrementEpoch
  | drainRingBuffer | drainTxRing | drainLogRing
  | clearTxPending
  | resetWireBuffers
  | acceptLinkSerial
  | countDropped
  | clearTxBusy
deriving DecidableEq

namespace PacketQueue

def perform (q : PacketQueue) : QueueWrite → PacketQueue
  | .storeConnected up => { q with connected := up }
  | .incrementLinkSerial => { q with linkSerial := q.linkSerial + 1 }
  | .storeDead value => { q with dead := value }
  | .incrementEpoch => { q with epoch := q.epoch + 1 }
  | .drainRingBuffer => { q with ringBuffer := [] }
  | .drainTxRing => { q with txRing := [] }
  | .drainLogRing => { q with logRing := [] }
  | .clearTxPending => { q with txPending := 0 }
  | .resetWireBuffers => q
  | .acceptLinkSerial => { q with acceptedLinkSerial := q.linkSerial }
  | .countDropped => { q with txDropped := q.txDropped + 1 }
  | .clearTxBusy => { q with txBusy := false }

def linkIsConnected (q : PacketQueue) (physicalLinkOpen : Bool) : Bool :=
  q.connected && physicalLinkOpen

def isOpen (q : PacketQueue) (physicalLinkOpen : Bool) : Bool :=
  !q.dead && q.linkIsConnected physicalLinkOpen

def needsDisconnect (q : PacketQueue) (physicalLinkOpen : Bool) : Bool :=
  !q.isOpen physicalLinkOpen

/-- What `begin_session` tests. -/
def mayBegin (q : PacketQueue) (physicalLinkOpen : Bool) : Bool :=
  q.dead && q.linkIsConnected physicalLinkOpen && q.linkSerial != q.acceptedLinkSerial &&
    !q.txBusy && q.rxBorrowed == 0

end PacketQueue

/-! The critical sections as the writes they make. -/

def closeLocked : List QueueWrite :=
  [.storeDead true, .incrementEpoch, .drainRingBuffer, .drainTxRing, .drainLogRing,
    .clearTxPending]

def linkChanged (up : Bool) : List QueueWrite :=
  .storeConnected up :: ((if up then [.incrementLinkSerial] else []) ++ closeLocked)

/-- `begin_session` after its test. -/
def acceptSession : List QueueWrite :=
  closeLocked ++ [.resetWireBuffers, .acceptLinkSerial, .storeDead false]

/-- The second section of `service_tx`. -/
def finishTx (sent : Bool) : List QueueWrite :=
  (if sent then [] else .countDropped :: closeLocked) ++ [.clearTxBusy]

/-- `enqueue` when the ring has no room. -/
def refuseFrame (log : Bool) : List QueueWrite :=
  .countDropped :: if log then [] else closeLocked

/-- What `deliver_packet` tests before it takes the mutex. -/
def validPacket (data : List UInt8) : Bool :=
  isValidMessageSize data.length && Crc32.verifyMessageCrc data

/-- What `enqueue` tests before it takes the mutex. -/
def validFrame (log : Bool) (message : List UInt8) : Bool :=
  headerSize ≤ message.length && message.length ≤ (if log then maxLogFrameSize else maxFrameSize) &&
    (!log || (MsgHeader.parse message).kind == MsgKind.logStream)

/-! The system: the queues, the tasks that use them, and what they have done so far. -/

/-- An epoch an RX callback holds. -/
structure EpochSample where
  epoch : UInt32
  /-- the changes of the epoch when it was sampled -/
  changes : ℕ
  /-- the session that had begun last -/
  session : ℕ
deriving DecidableEq

/-- Where the TX task is. -/
inductive TxTask where
  | idle
  | sending (log : Bool) (frame : List UInt8)
  | returned (sent : Bool)
deriving DecidableEq

/-- What happened from one `begin_session` that succeeded to the next. -/
structure SessionLog where
  number : ℕ := 0
  linkUps : ℕ := 0
  packets : Ledger (List UInt8) := {}
  /-- the epochs the packets were delivered with -/
  samples : List EpochSample := []
  control : Ledger (List UInt8) := {}
  logs : Ledger (List UInt8) := {}

structure QueueSystem where
  queue : PacketQueue := {}
  /-- the writes the mutex holder still has to make -/
  holder : List QueueWrite := []
  physicalLinkOpen : Bool := false
  txTask : TxTask := .idle
  /-- the buffers `start_read` returned and `end_read` has not taken back -/
  borrowed : List (List UInt8) := []
  samples : List EpochSample := []
  /-- the changes of the epoch so far -/
  changes : ℕ := 0
  current : SessionLog := {}
  past : List SessionLog := []

/-- The steps that interleave. `room` is whether the ring takes another item. -/
inductive QueueStep where
  | physicalLink (up : Bool)
  | receiveEpoch
  | write
  | linkChanged (up : Bool)
  | beginSession
  | closeSession
  | deliverPacket (data : List UInt8) (received : EpochSample) (room : Bool)
  | startRead
  | endRead (buffer : List UInt8)
  | enqueue (message : List UInt8) (log : Bool) (room : Bool)
  | serviceTx
  | frameSent (sent : Bool)
  | serviceTxEnd
deriving DecidableEq

namespace QueueSystem

def isOpen (s : QueueSystem) : Bool := s.queue.isOpen s.physicalLinkOpen

def needsDisconnect (s : QueueSystem) : Bool := s.queue.needsDisconnect s.physicalLinkOpen

def begins (s : QueueSystem) : Bool := s.queue.mayBegin s.physicalLinkOpen

/-- A section that needs the mutex. -/
def lock (s : QueueSystem) (t : QueueSystem) : Option QueueSystem :=
  if s.holder = [] then some t else none

def beginSession (s : QueueSystem) : QueueSystem :=
  if s.begins then
    { s with holder := acceptSession, past := s.current :: s.past
             current := { number := s.current.number + 1 } }
  else s

def deliverPacket (s : QueueSystem) (data : List UInt8) (received : EpochSample) (room : Bool) :
    QueueSystem :=
  -- a packet of an earlier session is dropped
  if !s.isOpen || received.epoch != s.queue.epoch then s
  -- another version, or no room, ends the session
  else if (MsgHeader.parse data).version != protocolVersion || !room then
    { s with holder := closeLocked }
  else
    { s with
      queue := { s.queue with ringBuffer := s.queue.ringBuffer ++ [data] }
      current := { s.current with
        packets := s.current.packets.add data, samples := s.current.samples ++ [received] } }

/-- One turn of the loop of `start_read`. -/
def startRead (s : QueueSystem) : QueueSystem :=
  if !s.isOpen then s
  else match s.queue.ringBuffer with
    | [] => s
    | packet :: packets =>
      { s with
        queue := { s.queue with ringBuffer := packets, rxBorrowed := s.queue.rxBorrowed + 1 }
        borrowed := packet :: s.borrowed
        current := { s.current with packets := s.current.packets.remove packet } }

def endRead (s : QueueSystem) (buffer : List UInt8) : QueueSystem :=
  { s with queue := { s.queue with rxBorrowed := s.queue.rxBorrowed - 1 }
           borrowed := s.borrowed.erase buffer }

def enqueue (s : QueueSystem) (message : List UInt8) (log room : Bool) : QueueSystem :=
  if !s.isOpen then s
  else if !room then { s with holder := refuseFrame log }
  else if log then
    { s with
      queue := { s.queue with logRing := s.queue.logRing ++ [message]
                              txPending := s.queue.txPending + 1 }
      current := { s.current with logs := s.current.logs.add message } }
  else
    { s with
      queue := { s.queue with txRing := s.queue.txRing ++ [message]
                              txPending := s.queue.txPending + 1 }
      current := { s.current with control := s.current.control.add message } }

/-- The first section of `service_tx`. -/
def serviceTx (s : QueueSystem) : QueueSystem :=
  if !s.isOpen || s.queue.txBusy then s
  else match s.queue.txRing with
    | frame :: frames =>
      { s with
        queue := { s.queue with txRing := frames, txPending := s.queue.txPending - 1
                                txBusy := true }
        txTask := .sending false frame
        current := { s.current with control := s.current.control.remove frame } }
    -- a log goes out when no control frame waits
    | [] => match s.queue.logRing with
      | frame :: frames =>
        { s with
          queue := { s.queue with logRing := frames, txPending := s.queue.txPending - 1
                                  txBusy := true }
          txTask := .sending true frame
          current := { s.current with logs := s.current.logs.remove frame } }
      | [] => s

/-- A step, where it can be taken. -/
def step (s : QueueSystem) : QueueStep → Option QueueSystem
  | .physicalLink up => some { s with physicalLinkOpen := up }
  | .receiveEpoch =>
    some { s with samples := ⟨s.queue.epoch, s.changes, s.current.number⟩ :: s.samples }
  -- the mutex holder's next write: anything unlocked may come between two of them
  | .write => match s.holder with
    | [] => none
    | w :: ws =>
      some { s with queue := s.queue.perform w, holder := ws
                    changes := if w = .incrementEpoch then s.changes + 1 else s.changes }
  | .linkChanged up =>
    s.lock { s with
      holder := linkChanged up
      current := { s.current with
        linkUps := if up then s.current.linkUps + 1 else s.current.linkUps } }
  | .beginSession => s.lock s.beginSession
  | .closeSession => s.lock { s with holder := closeLocked }
  | .deliverPacket data received room =>
    if received ∈ s.samples then
      if validPacket data then s.lock (s.deliverPacket data received room) else some s
    else none
  | .startRead => s.lock s.startRead
  | .endRead buffer => if buffer ∈ s.borrowed then s.lock (s.endRead buffer) else none
  | .enqueue message log room =>
    if validFrame log message then s.lock (s.enqueue message log room) else some s
  | .serviceTx => if s.txTask = .idle then s.lock s.serviceTx else none
  -- the frame is delivered outside the mutex
  | .frameSent sent => match s.txTask with
    | .sending _ _ => some { s with txTask := .returned sent }
    | _ => none
  | .serviceTxEnd => match s.txTask with
    | .returned sent => s.lock { s with holder := finishTx sent, txTask := .idle }
    | _ => none

/-- A list of steps taken one after the other. -/
def play (s : QueueSystem) : List QueueStep → Option QueueSystem
  | [] => some s
  | a :: as => (s.step a).bind (·.play as)

/-- What a step can do, and when. -/
inductive Moved (s : QueueSystem) : QueueStep → QueueSystem → Prop
  | refused {a : QueueStep} : Moved s a s
  | physicalLink {up : Bool} : Moved s (.physicalLink up) { s with physicalLinkOpen := up }
  | sampled : Moved s .receiveEpoch
      { s with samples := ⟨s.queue.epoch, s.changes, s.current.number⟩ :: s.samples }
  | written {w : QueueWrite} {ws : List QueueWrite} (held : s.holder = w :: ws) : Moved s .write
      { s with queue := s.queue.perform w, holder := ws
               changes := if w = .incrementEpoch then s.changes + 1 else s.changes }
  | linkChanged {up : Bool} (free : s.holder = []) : Moved s (.linkChanged up)
      { s with
        holder := SidpClient.linkChanged up
        current := { s.current with
          linkUps := if up then s.current.linkUps + 1 else s.current.linkUps } }
  | begun (free : s.holder = []) (may : s.begins = true) : Moved s .beginSession
      { s with holder := acceptSession, past := s.current :: s.past
               current := { number := s.current.number + 1 } }
  | closing {a : QueueStep} {ws : List QueueWrite} (free : s.holder = [])
      (closes : ws ∈ [closeLocked, refuseFrame true, refuseFrame false]) :
      Moved s a { s with holder := ws }
  | queued {data : List UInt8} {received : EpochSample} {room : Bool} (free : s.holder = [])
      (opened : s.isOpen = true) (sampled : received ∈ s.samples)
      (epoch : received.epoch = s.queue.epoch) (valid : validPacket data = true)
      (version : (MsgHeader.parse data).version = protocolVersion) :
      Moved s (.deliverPacket data received room)
        { s with
          queue := { s.queue with ringBuffer := s.queue.ringBuffer ++ [data] }
          current := { s.current with
            packets := s.current.packets.add data, samples := s.current.samples ++ [received] } }
  | read {packet : List UInt8} {packets : List (List UInt8)} (free : s.holder = [])
      (opened : s.isOpen = true) (waiting : s.queue.ringBuffer = packet :: packets) :
      Moved s .startRead
        { s with
          queue := { s.queue with ringBuffer := packets, rxBorrowed := s.queue.rxBorrowed + 1 }
          borrowed := packet :: s.borrowed
          current := { s.current with packets := s.current.packets.remove packet } }
  | ended {buffer : List UInt8} (free : s.holder = []) (borrowed : buffer ∈ s.borrowed) :
      Moved s (.endRead buffer) (s.endRead buffer)
  | enqueuedLog {message : List UInt8} {room : Bool} (free : s.holder = [])
      (opened : s.isOpen = true) : Moved s (.enqueue message true room)
        { s with
          queue := { s.queue with logRing := s.queue.logRing ++ [message]
                                  txPending := s.queue.txPending + 1 }
          current := { s.current with logs := s.current.logs.add message } }
  | enqueuedControl {message : List UInt8} {room : Bool} (free : s.holder = [])
      (opened : s.isOpen = true) : Moved s (.enqueue message false room)
        { s with
          queue := { s.queue with txRing := s.queue.txRing ++ [message]
                                  txPending := s.queue.txPending + 1 }
          current := { s.current with control := s.current.control.add message } }
  | sendsControl {frame : List UInt8} {frames : List (List UInt8)} (free : s.holder = [])
      (opened : s.isOpen = true) (idle : s.txTask = .idle)
      (waiting : s.queue.txRing = frame :: frames) : Moved s .serviceTx
        { s with
          queue := { s.queue with txRing := frames, txPending := s.queue.txPending - 1
                                  txBusy := true }
          txTask := .sending false frame
          current := { s.current with control := s.current.control.remove frame } }
  | sendsLog {frame : List UInt8} {frames : List (List UInt8)} (free : s.holder = [])
      (opened : s.isOpen = true) (idle : s.txTask = .idle) (control : s.queue.txRing = [])
      (waiting : s.queue.logRing = frame :: frames) : Moved s .serviceTx
        { s with
          queue := { s.queue with logRing := frames, txPending := s.queue.txPending - 1
                                  txBusy := true }
          txTask := .sending true frame
          current := { s.current with logs := s.current.logs.remove frame } }
  | frameSent {log sent : Bool} {frame : List UInt8} (task : s.txTask = .sending log frame) :
      Moved s (.frameSent sent) { s with txTask := .returned sent }
  | finished {sent : Bool} (free : s.holder = []) (task : s.txTask = .returned sent) :
      Moved s .serviceTxEnd { s with holder := finishTx sent, txTask := .idle }

variable {s t : QueueSystem} {a : QueueStep}

theorem isOpen_iff : s.isOpen = true ↔
    s.queue.dead = false ∧ s.queue.connected = true ∧ s.physicalLinkOpen = true := by
  simp [isOpen, PacketQueue.isOpen, PacketQueue.linkIsConnected]

theorem lock_some {t u : QueueSystem} : s.lock t = some u ↔ s.holder = [] ∧ t = u := by
  rw [lock]
  split <;> simp_all

theorem step_moved (h : s.step a = some t) : Moved s a t := by
  -- one case per entry point, one split per early return of it
  cases a with
  | physicalLink up =>
    obtain rfl := Option.some.inj h
    exact .physicalLink
  | receiveEpoch =>
    obtain rfl := Option.some.inj h
    exact .sampled
  | write =>
    rw [step] at h
    split at h
    · exact absurd h (by simp)
    · rename_i w ws held
      obtain rfl := Option.some.inj h
      exact .written held
  | linkChanged up =>
    obtain ⟨free, rfl⟩ := lock_some.mp h
    exact .linkChanged free
  | beginSession =>
    obtain ⟨free, rfl⟩ := lock_some.mp h
    rw [beginSession]
    split
    · exact .begun free (by assumption)
    · exact .refused
  | closeSession =>
    obtain ⟨free, rfl⟩ := lock_some.mp h
    exact .closing free (by simp)
  | deliverPacket data received room =>
    rw [step] at h
    split at h
    · rename_i sampled
      split at h
      · rename_i valid
        obtain ⟨free, rfl⟩ := lock_some.mp h
        rw [deliverPacket]
        split
        · exact .refused
        · rename_i current
          rw [Bool.not_eq_true, Bool.or_eq_false_iff, bne_eq_false_iff_eq] at current
          split
          · exact .closing free (by simp)
          · rename_i fits
            rw [Bool.not_eq_true, Bool.or_eq_false_iff, bne_eq_false_iff_eq] at fits
            exact .queued free (by simpa using current.1) sampled current.2 valid fits.1
      · obtain rfl := Option.some.inj h
        exact .refused
    · exact absurd h (by simp)
  | startRead =>
    obtain ⟨free, rfl⟩ := lock_some.mp h
    rw [startRead]
    split
    · exact .refused
    · rename_i opened
      split
      · exact .refused
      · rename_i packet packets waiting
        exact .read free (by simpa using opened) waiting
  | endRead buffer =>
    rw [step] at h
    split at h
    · obtain ⟨free, rfl⟩ := lock_some.mp h
      exact .ended free (by assumption)
    · exact absurd h (by simp)
  | enqueue message log room =>
    rw [step] at h
    split at h
    · obtain ⟨free, rfl⟩ := lock_some.mp h
      rw [enqueue]
      split
      · exact .refused
      · rename_i opened
        have opened : s.isOpen = true := by simpa using opened
        split
        · refine .closing free ?_
          cases log <;> simp
        · cases log with
          | true => exact .enqueuedLog free opened
          | false => exact .enqueuedControl free opened
    · obtain rfl := Option.some.inj h
      exact .refused
  | serviceTx =>
    rw [step] at h
    split at h
    · rename_i idle
      obtain ⟨free, rfl⟩ := lock_some.mp h
      rw [serviceTx]
      split
      · exact .refused
      · rename_i opened
        have opened : s.isOpen = true := by
          rw [Bool.not_eq_true, Bool.or_eq_false_iff] at opened
          simpa using opened.1
        split
        · rename_i frame frames waiting
          exact .sendsControl free opened idle waiting
        · rename_i control
          split
          · rename_i frame frames waiting
            exact .sendsLog free opened idle control waiting
          · exact .refused
    · exact absurd h (by simp)
  | frameSent sent =>
    rw [step] at h
    split at h
    · rename_i log frame task
      obtain rfl := Option.some.inj h
      exact .frameSent task
    · exact absurd h (by simp)
  | serviceTxEnd =>
    rw [step] at h
    split at h
    · rename_i sent task
      obtain ⟨free, rfl⟩ := lock_some.mp h
      exact .finished free task
    · exact absurd h (by simp)

end QueueSystem

end SidpClient
