import SidpClient.InteractiveProgram
import SidpClient.SlipTransport

/-! The send side of the CDC transport: what of a frame reaches the driver, and when a send ends. -/
namespace SidpClient
open Interactive

/-- `esp_err_t`, as far as `map_esp_error` distinguishes its values. -/
inductive CdcError where
  | ok | fail | invalidArg | noMem | timeout | notFinished | invalidState | other
deriving DecidableEq, Repr

def mapEspError : CdcError → CdcError
  | .invalidArg => .invalidArg
  | .noMem => .noMem
  | .timeout => .timeout
  | .notFinished => .notFinished
  | .invalidState => .invalidState
  | _ => .fail

/-- What a send asks: `is_open` of the other tasks, the timer for microseconds, and the driver. -/
inductive CdcCall where
  | isOpen
  | espTimerGetTime
  | writeQueue (bytes : List UInt8)
  | writeFlush (ticks : ℕ)
  | writeClear

/-- The driver takes no more bytes than it is offered. -/
abbrev CdcCall.Reply : CdcCall → Type
  | .isOpen => Bool
  | .espTimerGetTime => ℕ
  | .writeQueue bytes => Fin (bytes.length + 1)
  | .writeFlush _ => CdcError
  | .writeClear => Unit

abbrev CdcHistory := History CdcCall CdcCall.Reply

/-- The staging buffer, of `MAX_ENCODED_FRAME_SIZE` bytes. -/
structure CdcOutput where
  txBuffer : List UInt8 := List.replicate maxEncodedFrameSize 0
  txSize : ℕ := 0
  txOffset : ℕ := 0
  room : txBuffer.length = maxEncodedFrameSize := by simp

namespace CdcOutput

def appendTxByte (o : CdcOutput) (byte : UInt8) : CdcOutput where
  txBuffer := o.txBuffer.set o.txSize byte
  txSize := o.txSize + 1
  txOffset := o.txOffset
  room := (List.length_set ..).trans o.room

def appendEscapedTxByte (o : CdcOutput) (byte : UInt8) : CdcOutput :=
  if byte = Slip.frameEnd then (o.appendTxByte Slip.esc).appendTxByte Slip.escEnd
  else if byte = Slip.esc then (o.appendTxByte Slip.esc).appendTxByte Slip.escEsc
  else o.appendTxByte byte

/-- `encode_message` -/
def encode (o : CdcOutput) (message : List UInt8) : CdcOutput :=
  (message.foldl appendEscapedTxByte
    ({ o with txSize := 0, txOffset := 0 }.appendTxByte Slip.frameEnd)).appendTxByte Slip.frameEnd

/-- The bytes that are still to be queued. -/
def pending (o : CdcOutput) : List UInt8 :=
  (o.txBuffer.drop o.txOffset).take (o.txSize - o.txOffset)

def advance (o : CdcOutput) (queued : ℕ) : CdcOutput := { o with txOffset := o.txOffset + queued }

def clear (o : CdcOutput) : CdcOutput := { o with txSize := 0, txOffset := 0 }

/-- No byte is staged. -/
def Cleared (o : CdcOutput) : Prop := o.txSize = 0 ∧ o.txOffset = 0

end CdcOutput

abbrev CdcM := Action CdcOutput CdcCall CdcCall.Reply

def cdcIsOpen : CdcM Bool := Action.ask CdcCall.isOpen
def espTimerGetTime : CdcM ℕ := Action.ask CdcCall.espTimerGetTime
def cdcWriteQueue (bytes : List UInt8) : CdcM (Fin (bytes.length + 1)) :=
  Action.ask (CdcCall.writeQueue bytes)
def cdcWriteFlush (ticks : ℕ) : CdcM CdcError := Action.ask (CdcCall.writeFlush ticks)
def cdcWriteClear : CdcM Unit := Action.ask CdcCall.writeClear

def waitForever : UInt32 := 0xFFFFFFFF
def txSendTimeoutMs : UInt32 := 5000
def logSendTimeoutMs : UInt32 := 20
def flushWaitSliceMs : UInt32 := 10

structure Deadline where
  startedAt : UInt32
  timeoutMs : UInt32

/-- `now_ms`, of what the timer says. -/
def msOf (time : ℕ) : UInt32 := .ofNat (time / 1000)

def nowMs : CdcM UInt32 := do
  let time ← espTimerGetTime
  return msOf time

/-- What is left of the time at a moment, with the difference of the two moments taken
modulo 2^32. -/
def Deadline.remaining (d : Deadline) (now : UInt32) : UInt32 :=
  if now - d.startedAt < d.timeoutMs then d.timeoutMs - (now - d.startedAt) else 0

def remainingTimeout (d : Deadline) : CdcM UInt32 :=
  if d.timeoutMs = waitForever then return waitForever
  else do
    let now ← nowMs
    return d.remaining now

section Send

-- `configTICK_RATE_HZ`
variable (tickRateHz : ℕ)

/-- `timeout_to_ticks`, with a tick count of 32 bits. -/
def timeoutToTicks (timeoutMs : UInt32) : ℕ :=
  if timeoutMs = waitForever then 2 ^ 32 - 1
  else min ((timeoutMs.toNat * tickRateHz + 999) / 1000) (2 ^ 32 - 2)

def flushCdcOnce (d : Deadline) : CdcM CdcError := do
  let opened ← cdcIsOpen
  if !opened then return .invalidState
  else
    let remainingMs ← remainingTimeout d
    let waitMs :=
      if remainingMs = waitForever ∨ remainingMs > flushWaitSliceMs then flushWaitSliceMs
      else remainingMs
    let result ← cdcWriteFlush (timeoutToTicks tickRateHz waitMs)
    if result = .ok then return .ok
    else
      let opened ← cdcIsOpen
      if !opened then return .invalidState
      else if result ≠ .timeout ∧ result ≠ .notFinished then return mapEspError result
      else if d.timeoutMs ≠ waitForever then
        let remainingMs ← remainingTimeout d
        return if remainingMs = 0 then .timeout else .notFinished
      else return .notFinished

/-- The test at the head of the first loop: `!is_open() || remaining_timeout(deadline) == 0`. -/
def sendAborts (d : Deadline) : CdcM Bool := do
  let opened ← cdcIsOpen
  if !opened then return true
  else
    let remainingMs ← remainingTimeout d
    return remainingMs = 0

def abandonFrame : CdcM (Option Bool) := do
  Action.modify CdcOutput.clear
  return some false

/-- A turn of the first loop. It ends the loop with `true` once all bytes are queued, and with
`false` where `deliver_tx_frame` returns. -/
def queueTurn (d : Deadline) : CdcM (Option Bool) := do
  let o ← Action.get
  if ¬o.txOffset < o.txSize then return some true
  else
    let aborts ← sendAborts d
    if aborts then abandonFrame
    else
      let queued ← cdcWriteQueue o.pending
      if queued.val ≠ 0 then
        Action.modify (·.advance queued.val)
        return none
      else
        let flushResult ← flushCdcOnce tickRateHz d
        if flushResult = .invalidState then abandonFrame
        else if flushResult ≠ .ok ∧ flushResult ≠ .notFinished then abandonFrame
        else return none

/-- A turn of the second loop, which drains the driver. -/
def drainTurn (d : Deadline) : CdcM (Option Bool) := do
  let flushResult ← flushCdcOnce tickRateHz d
  if flushResult = .notFinished then return none
  else
    Action.modify CdcOutput.clear
    return some (flushResult = .ok)

/-- The body of `deliver_tx_frame` while `clear_on_exit` lives. -/
def sendFrame (fuel : ℕ) (frame : List UInt8) (log : Bool) : CdcM (Option Bool) := do
  Action.modify (·.encode frame)
  let startedAt ← nowMs
  let d : Deadline := ⟨startedAt, if log then logSendTimeoutMs else txSendTimeoutMs⟩
  let queued ← Action.loop (queueTurn tickRateHz d) fuel
  if queued = some true then Action.loop (drainTurn tickRateHz d) fuel
  else return queued

/-- `deliver_tx_frame`, or `none` where a loop is still running after `fuel` turns; the driver is
not cleared then, as in the middle of the source's loop. -/
def deliverTxFrame (fuel : ℕ) (frame : List UInt8) (log : Bool) : CdcM (Option Bool) := do
  let opened ← cdcIsOpen
  if !opened then return some false
  else
    let sent ← sendFrame tickRateHz fuel frame log
    match sent with
    | none => return none
    | some sent =>
      cdcWriteClear
      return some sent

/-- Frames sent one after the other, or `none` where one of them is still being sent. -/
def deliverTxFrames (fuel : ℕ) : List (List UInt8 × Bool) → CdcM (Option (List Bool))
  | [] => return some []
  | (frame, log) :: frames => do
    let sent ← deliverTxFrame tickRateHz fuel frame log
    match sent with
    | none => return none
    | some sent =>
      let rest ← deliverTxFrames fuel frames
      return rest.map (sent :: ·)

end Send

/-! The staging buffer. -/

namespace CdcOutput
variable {o : CdcOutput}

/-- The bytes that are staged. -/
def staged (o : CdcOutput) : List UInt8 := o.txBuffer.take o.txSize

theorem staged_appendTxByte (byte : UInt8) (fits : o.txSize < maxEncodedFrameSize) :
    (o.appendTxByte byte).staged = o.staged ++ [byte] := by
  have hlen : o.txSize < o.txBuffer.length := by rw [o.room]; exact fits
  rw [staged, appendTxByte, List.take_add_one, List.take_set_of_le le_rfl,
    List.getElem?_set_self hlen]
  rfl

theorem staged_appendEscapedTxByte (byte : UInt8)
    (fits : o.txSize + (escapedByte byte).length ≤ maxEncodedFrameSize) :
    (o.appendEscapedTxByte byte).staged = o.staged ++ escapedByte byte ∧
      (o.appendEscapedTxByte byte).txSize = o.txSize + (escapedByte byte).length := by
  have hpair (b c : UInt8) (hfit : o.txSize + 2 ≤ maxEncodedFrameSize) :
      ((o.appendTxByte b).appendTxByte c).staged = o.staged ++ [b, c] := by
    have hfirst : o.txSize < maxEncodedFrameSize := by omega
    have hsecond : (o.appendTxByte b).txSize < maxEncodedFrameSize := hfit
    rw [staged_appendTxByte c hsecond, staged_appendTxByte b hfirst, List.append_assoc]
    rfl
  rw [escapedByte] at fits ⊢
  rw [appendEscapedTxByte]
  split at fits
  · rename_i hend
    rw [if_pos hend, if_pos hend]
    exact ⟨hpair _ _ fits, rfl⟩
  · rename_i hend
    rw [if_neg hend, if_neg hend]
    split at fits
    · rename_i hesc
      rw [if_pos hesc, if_pos hesc]
      exact ⟨hpair _ _ fits, rfl⟩
    · rename_i hesc
      rw [if_neg hesc, if_neg hesc]
      exact ⟨staged_appendTxByte byte fits, rfl⟩

theorem staged_escaped (message : List UInt8)
    (fits : o.txSize + (message.flatMap escapedByte).length ≤ maxEncodedFrameSize) :
    (message.foldl appendEscapedTxByte o).staged = o.staged ++ message.flatMap escapedByte ∧
      (message.foldl appendEscapedTxByte o).txSize =
        o.txSize + (message.flatMap escapedByte).length := by
  induction message generalizing o with
  | nil => simp
  | cons byte message ih =>
    rw [List.flatMap_cons, List.length_append] at fits
    have hbyte := staged_appendEscapedTxByte (o := o) byte (by omega)
    have hrest := ih (o := o.appendEscapedTxByte byte) (by omega)
    rw [List.foldl_cons, hrest.1, hrest.2, hbyte.1, hbyte.2, List.flatMap_cons,
      List.append_assoc, List.length_append, Nat.add_assoc]
    exact ⟨rfl, rfl⟩

@[simp] theorem appendEscapedTxByte_txOffset (byte : UInt8) :
    (o.appendEscapedTxByte byte).txOffset = o.txOffset := by
  rw [appendEscapedTxByte]
  split
  · rfl
  · split <;> rfl

theorem escaped_txOffset (message : List UInt8) :
    (message.foldl appendEscapedTxByte o).txOffset = o.txOffset := by
  induction message generalizing o with
  | nil => rfl
  | cons byte message ih => rw [List.foldl_cons, ih, appendEscapedTxByte_txOffset]

/-- The staging buffer holds the encoding of the frame. -/
theorem encode_staged (message : List UInt8) (fits : message.length ≤ maxFrameSize) :
    (o.encode message).staged = encodeMessage message ∧
      (o.encode message).txSize = (encodeMessage message).length ∧
      (o.encode message).txOffset = 0 := by
  let start := { o with txSize := 0, txOffset := 0 }.appendTxByte Slip.frameEnd
  let body := message.foldl appendEscapedTxByte start
  have hlen : (message.flatMap escapedByte).length + 2 ≤ maxEncodedFrameSize := by
    have h := encodeMessage_length_le message
    rw [encodeMessage, List.length_cons, List.length_append, List.length_singleton] at h
    rw [maxEncodedFrameSize]
    omega
  have hstart : start.staged = [Slip.frameEnd] := by
    have hbytes := staged_appendTxByte (o := { o with txSize := 0, txOffset := 0 }) Slip.frameEnd
      (by simp [maxEncodedFrameSize])
    exact hbytes
  have hsize : start.txSize = 1 := rfl
  have hbody := staged_escaped (o := start) message (by omega)
  have hfits : body.txSize < maxEncodedFrameSize := by
    rw [hbody.2, hsize]
    omega
  have hlast := staged_appendTxByte (o := body) Slip.frameEnd hfits
  refine ⟨?_, ?_, ?_⟩
  · change (body.appendTxByte Slip.frameEnd).staged = _
    rw [hlast, hbody.1, hstart]
    rfl
  · change body.txSize + 1 = _
    rw [hbody.2, hsize, encodeMessage, List.length_cons, List.length_append, List.length_singleton]
    omega
  · exact escaped_txOffset message

end CdcOutput

/-! What a history shows of the driver and of the clock. -/

/-- The bytes the driver accepts, in order. -/
def acceptedBytes : CdcHistory → List UInt8
  | [] => []
  | ⟨.writeQueue bytes, queued⟩ :: h => bytes.take queued.val ++ acceptedBytes h
  | ⟨.isOpen, _⟩ :: h => acceptedBytes h
  | ⟨.espTimerGetTime, _⟩ :: h => acceptedBytes h
  | ⟨.writeFlush _, _⟩ :: h => acceptedBytes h
  | ⟨.writeClear, _⟩ :: h => acceptedBytes h

/-- What the timer says, in order. -/
def readings : CdcHistory → List ℕ
  | [] => []
  | ⟨.espTimerGetTime, time⟩ :: h => time :: readings h
  | ⟨.isOpen, _⟩ :: h => readings h
  | ⟨.writeQueue _, _⟩ :: h => readings h
  | ⟨.writeFlush _, _⟩ :: h => readings h
  | ⟨.writeClear, _⟩ :: h => readings h

@[simp] theorem acceptedBytes_append (h h' : CdcHistory) :
    acceptedBytes (h ++ h') = acceptedBytes h ++ acceptedBytes h' := by
  induction h with
  | nil => rfl
  | cons ev h ih =>
    obtain ⟨e, r⟩ := ev
    cases e with
    | writeQueue bytes =>
      rw [List.cons_append, acceptedBytes, acceptedBytes, ih, List.append_assoc]
    | _ => exact ih

@[simp] theorem readings_append (h h' : CdcHistory) :
    readings (h ++ h') = readings h ++ readings h' := by
  induction h with
  | nil => rfl
  | cons ev h ih =>
    obtain ⟨e, r⟩ := ev
    cases e with
    | espTimerGetTime => exact congrArg (r :: ·) ih
    | _ => exact ih

section Specs
variable {tickRateHz fuel : ℕ} {d : Deadline} {o : CdcOutput} {h : CdcHistory}

/-- What `flush_cdc_once` does that its callers rely on. -/
structure FlushEvents (d : Deadline) (result : CdcError) (evs : CdcHistory) : Prop where
  accepted : acceptedBytes evs = []
  ok : result = .ok → (readings evs).length = 1 ∧
    ∃ before ticks, evs = before ++ [⟨.writeFlush ticks, .ok⟩]
  retry : result = .notFinished → ∃ t₁ t₂, readings evs = [t₁, t₂] ∧ d.remaining (msOf t₂) ≠ 0

theorem mapEspError_other {result : CdcError} (hok : result ≠ .ok) :
    mapEspError result ≠ .ok ∧ (result ≠ .notFinished → mapEspError result ≠ .notFinished) := by
  cases result <;> simp_all [mapEspError]

theorem flushCdcOnce_wp (timed : d.timeoutMs ≠ waitForever) :
    (flushCdcOnce tickRateHz d).wp o h fun result o' h' =>
      o' = o ∧ ∃ evs, h' = h ++ evs ∧ FlushEvents d result evs := by
  simp only [flushCdcOnce, remainingTimeout, nowMs, cdcIsOpen, espTimerGetTime, cdcWriteFlush,
    timed, if_false, Action.wp_bind, Action.wp_ask, Action.wp_ite, Action.wp_pure,
      List.append_assoc,
    List.cons_append, List.nil_append, true_and, ne_eq, not_false_eq_true]
  intro opened
  constructor
  · intro _
    exact ⟨_, rfl, rfl, fun hr => absurd hr (by simp), fun hr => absurd hr (by simp)⟩
  intro _ t₁ result
  constructor
  · intro hok
    subst hok
    exact ⟨_, rfl, rfl, fun _ => ⟨rfl, [_, _], _, rfl⟩, fun hr => absurd hr (by simp)⟩
  intro hok opened
  constructor
  · intro _
    exact ⟨_, rfl, rfl, fun hr => absurd hr (by simp), fun hr => absurd hr (by simp)⟩
  intro _
  constructor
  · intro hother
    have hmapped := mapEspError_other hok
    exact ⟨_, rfl, rfl, fun hr => absurd hr hmapped.1, fun hr => absurd hr (hmapped.2 hother.2)⟩
  intro _
  refine ⟨fun _ t₂ => ?_, fun hforever => absurd trivial hforever⟩
  refine ⟨_, rfl, rfl, fun hr => ?_, fun hr => ⟨t₁, t₂, rfl, fun hzero => ?_⟩⟩
  · split at hr <;> exact absurd hr (by simp)
  · rw [if_pos hzero] at hr
    exact absurd hr (by simp)

/-- What a turn of the first loop does. -/
structure QueueTurn (d : Deadline) (o : CdcOutput) (result : Option Bool) (o' : CdcOutput)
    (evs : CdcHistory) : Prop where
  queued : result = some true → o' = o ∧ evs = [] ∧ o.txSize ≤ o.txOffset
  abandoned : result = some false → o'.Cleared ∧ acceptedBytes evs = []
  again : result = none → ∃ queued ≤ o.pending.length,
    o' = o.advance queued ∧ acceptedBytes evs = o.pending.take queued
  waited : result = none → ∃ t rest, readings evs = t :: rest ∧ d.remaining (msOf t) ≠ 0 ∧
    (rest = [] ∨ (∃ t₁, rest = [t₁]) ∨ ∃ t₁ t₂, rest = [t₁, t₂] ∧ d.remaining (msOf t₂) ≠ 0)

theorem queueTurn_wp (timed : d.timeoutMs ≠ waitForever) :
    (queueTurn tickRateHz d).wp o h fun result o' h' =>
      ∃ evs, h' = h ++ evs ∧ QueueTurn d o result o' evs := by
  -- every abandoned turn clears the driver's queue
  have hclear (evs : CdcHistory) (hevs : acceptedBytes evs = []) :
      QueueTurn d o (some false) o.clear evs :=
    ⟨fun hr => absurd hr (by simp), fun _ => ⟨⟨rfl, rfl⟩, hevs⟩, fun hr => absurd hr (by simp),
      fun hr => absurd hr (by simp)⟩
  simp only [queueTurn, sendAborts, abandonFrame, remainingTimeout, nowMs, cdcIsOpen,
    espTimerGetTime, cdcWriteQueue, timed, if_false, Action.wp_bind, Action.wp_get, Action.wp_ask,
    Action.wp_ite, Action.wp_pure, Action.wp_modify, List.append_assoc, List.cons_append,
    List.nil_append, decide_eq_true_eq]
  constructor
  · intro hdone
    exact ⟨[], (List.append_nil h).symm, fun _ => ⟨rfl, rfl, by omega⟩,
      fun hr => absurd hr (by simp), fun hr => absurd hr (by simp), fun hr => absurd hr (by simp)⟩
  intro _ opened
  constructor
  · intro _
    exact ⟨fun _ => ⟨_, rfl, hclear _ rfl⟩, fun hopen => absurd trivial hopen⟩
  intro _ t
  refine ⟨fun _ => ⟨_, rfl, hclear _ rfl⟩, fun hleft queued => ⟨fun _ => ?_, fun hnone => ?_⟩⟩
  · have hle : queued.val ≤ o.pending.length := Nat.le_of_lt_succ queued.isLt
    refine ⟨_, rfl, fun hr => absurd hr (by simp), fun hr => absurd hr (by simp),
      fun _ => ⟨queued.val, hle, rfl, ?_⟩, fun _ => ⟨t, [], rfl, hleft, .inl rfl⟩⟩
    exact List.append_nil _
  · -- a full driver queue is flushed once before the next turn
    apply Action.wp_mono (flushCdcOnce_wp timed)
    rintro result o last ⟨rfl, evs, heq, flush⟩
    obtain rfl := List.append_cancel_left heq
    have hzero : queued.val = 0 := by simpa using hnone
    have hbytes : (o.pending.take queued.val ++ []) ++ acceptedBytes last = [] := by
      rw [hzero, flush.accepted]
      rfl
    have hturn : ∃ evs, h ++ [⟨CdcCall.isOpen, opened⟩, ⟨CdcCall.espTimerGetTime, t⟩,
        ⟨CdcCall.writeQueue o.pending, queued⟩] ++ last = h ++ evs ∧
        QueueTurn d o (some false) o.clear evs := by
      refine ⟨_, List.append_assoc .., hclear _ ?_⟩
      rw [acceptedBytes_append]
      exact hbytes
    refine ⟨fun _ => hturn, fun _ => ⟨fun _ => hturn, fun hresult => ?_⟩⟩
    refine ⟨_, List.append_assoc .., fun hr => absurd hr (by simp), fun hr => absurd hr (by simp),
      fun _ => ⟨0, Nat.zero_le _, rfl, ?_⟩, fun _ => ?_⟩
    · rw [acceptedBytes_append]
      exact hbytes
    · -- the flush read the clock once and was done, or twice and time was left
      by_cases hok : result = .ok
      · obtain ⟨t₁, ht₁⟩ := List.length_eq_one_iff.mp (flush.ok hok).1
        refine ⟨t, [t₁], ?_, hleft, .inr (.inl ⟨t₁, rfl⟩)⟩
        rw [readings_append, ht₁]
        rfl
      · have hretry : result = .notFinished := by
          by_contra hother
          exact hresult ⟨hok, hother⟩
        obtain ⟨t₁, t₂, ht, hagain⟩ := flush.retry hretry
        refine ⟨t, [t₁, t₂], ?_, hleft, .inr (.inr ⟨t₁, t₂, rfl, hagain⟩)⟩
        rw [readings_append, ht]
        rfl

/-- What a turn of the second loop does. -/
structure DrainTurn (d : Deadline) (result : Option Bool) (o' : CdcOutput) (evs : CdcHistory) :
    Prop where
  accepted : acceptedBytes evs = []
  cleared : result ≠ none → o'.Cleared
  sent : result = some true → ∃ before ticks, evs = before ++ [⟨.writeFlush ticks, .ok⟩]
  waited : result = none → ∃ t₁ t₂, readings evs = [t₁, t₂] ∧ d.remaining (msOf t₂) ≠ 0

theorem drainTurn_wp (timed : d.timeoutMs ≠ waitForever) :
    (drainTurn tickRateHz d).wp o h fun result o' h' =>
      ∃ evs, h' = h ++ evs ∧ DrainTurn d result o' evs := by
  rw [drainTurn, Action.wp_bind]
  apply Action.wp_mono (flushCdcOnce_wp timed)
  rintro result _ _ ⟨rfl, evs, heq, flush⟩
  simp only [Action.wp_ite, Action.wp_bind, Action.wp_modify, Action.wp_pure]
  refine ⟨fun hretry => ⟨evs, heq, flush.accepted, fun hr => absurd rfl hr,
    fun hr => absurd hr (by simp), fun _ => flush.retry hretry⟩, fun _ => ?_⟩
  refine ⟨evs, heq, flush.accepted, fun _ => ⟨rfl, rfl⟩, fun hr => ?_, fun hr =>
    absurd hr (by simp)⟩
  have hok : result = .ok := by simpa using hr
  exact (flush.ok hok).2

/-! The driver accepts the encoding from its start, without gaps. -/

/-- Bytes of the encoding of a frame are accepted since `h`, and the rest is staged. -/
structure Sending (frame : List UInt8) (h : CdcHistory) (o : CdcOutput) (h' : CdcHistory) :
    Prop where
  staged : o.staged = encodeMessage frame
  size : o.txSize = (encodeMessage frame).length
  within : o.txOffset ≤ o.txSize
  accepted : acceptedBytes h' = acceptedBytes h ++ (encodeMessage frame).take o.txOffset

variable {frame : List UInt8} {log : Bool} {h₀ : CdcHistory}

theorem Sending.pending (sending : Sending frame h₀ o h) :
    o.pending = (encodeMessage frame).drop o.txOffset := by
  rw [CdcOutput.pending, ← sending.staged, CdcOutput.staged, List.drop_take]

/-- The driver takes the first bytes of what is pending. -/
theorem Sending.advance {queued : ℕ} {evs : CdcHistory} (sending : Sending frame h₀ o h)
    (hle : queued ≤ o.pending.length) (hevs : acceptedBytes evs = o.pending.take queued) :
    Sending frame h₀ (o.advance queued) (h ++ evs) where
  staged := sending.staged
  size := sending.size
  within := by
    have hsize := sending.size
    have hwithin := sending.within
    rw [sending.pending, List.length_drop] at hle
    change o.txOffset + queued ≤ o.txSize
    omega
  accepted := by
    rw [acceptedBytes_append, sending.accepted, hevs, sending.pending, List.append_assoc]
    exact congrArg _ List.take_add.symm

/-- A send was abandoned: nothing is staged. -/
def Abandoned (frame : List UInt8) (h : CdcHistory) (o : CdcOutput) (h' : CdcHistory) : Prop :=
  o.Cleared ∧ ∃ n, acceptedBytes h' = acceptedBytes h ++ (encodeMessage frame).take n

/-- What the first loop ends with. -/
structure QueueEnd (frame : List UInt8) (h : CdcHistory) (result : Bool) (o : CdcOutput)
    (h' : CdcHistory) : Prop where
  queued : result = true → Sending frame h o h' ∧ o.txSize ≤ o.txOffset
  abandoned : result = false → Abandoned frame h o h'

theorem queueLoop_sends (timed : d.timeoutMs ≠ waitForever) (sending : Sending frame h₀ o h) :
    (Action.loop (queueTurn tickRateHz d) fuel).wp o h fun result o' h' =>
      (∀ b, result = some b → QueueEnd frame h₀ b o' h') ∧
        (result = none → Sending frame h₀ o' h') := by
  refine Action.wp_loop (I := fun _ o' h' => Sending frame h₀ o' h')
    (Q := fun b o' h' => QueueEnd frame h₀ b o' h') ?_ sending
  intro _ o h sending
  apply Action.wp_mono (queueTurn_wp timed)
  rintro result o' _ ⟨evs, heq, turn⟩
  rw [heq]
  refine ⟨fun b hb => ?_, fun hnone => ?_⟩
  · cases b with
    | true =>
      obtain ⟨rfl, rfl, hdone⟩ := turn.queued hb
      rw [List.append_nil]
      exact ⟨fun _ => ⟨sending, hdone⟩, fun hfalse => absurd hfalse (by simp)⟩
    | false =>
      obtain ⟨hcleared, hevs⟩ := turn.abandoned hb
      refine ⟨fun htrue => absurd htrue (by simp), fun _ => ⟨hcleared, o.txOffset, ?_⟩⟩
      rw [acceptedBytes_append, hevs, List.append_nil]
      exact sending.accepted
  · obtain ⟨queued, hle, rfl, hevs⟩ := turn.again hnone
    exact sending.advance hle hevs

/-- The whole encoding is accepted. -/
theorem Sending.whole (sending : Sending frame h₀ o h) (hdone : o.txSize ≤ o.txOffset) :
    acceptedBytes h = acceptedBytes h₀ ++ encodeMessage frame := by
  have hall : (encodeMessage frame).take o.txOffset = encodeMessage frame := by
    apply List.take_of_length_le
    rw [← sending.size]
    exact hdone
  rw [sending.accepted, hall]

/-- What the second loop ends with. -/
structure Drained (frame : List UInt8) (h : CdcHistory) (result : Option Bool) (o : CdcOutput)
    (h' : CdcHistory) : Prop where
  accepted : acceptedBytes h' = acceptedBytes h ++ encodeMessage frame
  cleared : result ≠ none → o.Cleared
  sent : result = some true → ∃ before ticks, h' = before ++ [⟨.writeFlush ticks, .ok⟩]

theorem drainLoop_sends (timed : d.timeoutMs ≠ waitForever)
    (whole : acceptedBytes h = acceptedBytes h₀ ++ encodeMessage frame) :
    (Action.loop (drainTurn tickRateHz d) fuel).wp o h fun result o' h' =>
      (∀ b, result = some b → Drained frame h₀ (some b) o' h') ∧
        (result = none → acceptedBytes h' = acceptedBytes h₀ ++ encodeMessage frame) := by
  refine Action.wp_loop (I := fun _ _ h' => acceptedBytes h' = acceptedBytes
    h₀ ++ encodeMessage frame)
    (Q := fun b o' h' => Drained frame h₀ (some b) o' h') ?_ whole
  intro _ o h whole
  apply Action.wp_mono (drainTurn_wp timed)
  rintro result o' _ ⟨evs, heq, turn⟩
  have haccepted : acceptedBytes (h ++ evs) = acceptedBytes h₀ ++ encodeMessage frame := by
    rw [acceptedBytes_append, turn.accepted, List.append_nil]
    exact whole
  rw [heq]
  refine ⟨fun b hb => ⟨haccepted, fun hsome => turn.cleared (hb ▸ hsome), fun htrue => ?_⟩,
    fun _ => haccepted⟩
  obtain ⟨before, ticks, rfl⟩ := turn.sent (hb.trans htrue)
  exact ⟨h ++ before, ticks, (List.append_assoc ..).symm⟩

/-- What a send ends with, before the driver's buffer is cleared. -/
structure SendEnd (frame : List UInt8) (h : CdcHistory) (result : Option Bool) (o : CdcOutput)
    (h' : CdcHistory) : Prop where
  accepted : ∃ n, acceptedBytes h' = acceptedBytes h ++ (encodeMessage frame).take n
  cleared : result ≠ none → o.Cleared
  sent : result = some true → acceptedBytes h' = acceptedBytes h ++ encodeMessage frame ∧
    ∃ before ticks, h' = before ++ [⟨.writeFlush ticks, .ok⟩]

theorem SendEnd.unsent {result : Option Bool} (hunsent : result ≠ some true)
    (hcleared : result ≠ none → o.Cleared)
    (haccepted : ∃ n, acceptedBytes h = acceptedBytes h₀ ++ (encodeMessage frame).take n) :
    SendEnd frame h₀ result o h :=
  ⟨haccepted, hcleared, fun hsent => absurd hsent hunsent⟩

theorem timed_deadline (log : Bool) :
    (if log then logSendTimeoutMs else txSendTimeoutMs) ≠ waitForever := by
  cases log <;> decide

theorem sendFrame_sends (fits : frame.length ≤ maxFrameSize) :
    (sendFrame tickRateHz fuel frame log).wp o h fun result o' h' =>
      SendEnd frame h result o' h' := by
  simp only [sendFrame, nowMs, espTimerGetTime, Action.wp_bind, Action.wp_modify, Action.wp_ask,
    Action.wp_ite, Action.wp_pure]
  intro time
  obtain ⟨hstaged, hsize, hoffset⟩ := CdcOutput.encode_staged (o := o) frame fits
  have hnow : acceptedBytes (h ++ [⟨.espTimerGetTime, time⟩]) = acceptedBytes h := by
    rw [acceptedBytes_append]
    exact List.append_nil _
  have hsending : Sending frame h (o.encode frame) (h ++ [⟨.espTimerGetTime, time⟩]) := by
    refine ⟨hstaged, hsize, by omega, ?_⟩
    rw [hnow, hoffset]
    exact (List.append_nil _).symm
  apply Action.wp_mono (queueLoop_sends (timed_deadline log) hsending)
  intro result o₁ evs queue
  constructor
  · intro hqueued
    obtain ⟨sending, hdone⟩ := (queue.1 true hqueued).queued rfl
    have hwhole := sending.whole hdone
    have htake : ∃ n, acceptedBytes h ++ encodeMessage frame =
        acceptedBytes h ++ (encodeMessage frame).take n :=
      ⟨_, congrArg _ (List.take_length).symm⟩
    apply Action.wp_mono (drainLoop_sends (timed_deadline log) hwhole)
    intro sent o₂ evs' drain
    cases sent with
    | none =>
      have haccepted := drain.2 rfl
      exact .unsent (by simp) (fun hsome => absurd rfl hsome) (haccepted ▸ htake)
    | some b =>
      have drained := drain.1 b rfl
      exact ⟨drained.accepted ▸ htake, drained.cleared, fun hsent =>
        ⟨drained.accepted, drained.sent hsent⟩⟩
  · intro hnot
    cases result with
    | none => exact .unsent hnot (fun hsome => absurd rfl hsome) ⟨_, (queue.2 rfl).accepted⟩
    | some b =>
      have hfalse : b = false := by simpa using hnot
      have habandoned := (queue.1 b rfl).abandoned hfalse
      exact .unsent hnot (fun _ => habandoned.1) habandoned.2

/-- What `deliver_tx_frame` did: the events `evs`, the staging buffer after it and its result. -/
structure CdcSend (frame : List UInt8) (result : Option Bool) (o : CdcOutput)
    (evs : CdcHistory) : Prop where
  accepted : acceptedBytes evs <+: encodeMessage frame
  cleared : result ≠ none → o.Cleared
  sent : result = some true → ∃ before ticks,
    evs = before ++ [⟨.writeFlush ticks, .ok⟩, ⟨.writeClear, ()⟩] ∧
      acceptedBytes before = encodeMessage frame

theorem deliverTxFrame_delivers (fits : frame.length ≤ maxFrameSize) (clear : o.Cleared) :
    (deliverTxFrame tickRateHz fuel frame log).wp o h fun result o' h' =>
      ∃ evs, h' = h ++ evs ∧ CdcSend frame result o' evs := by
  simp only [deliverTxFrame, cdcIsOpen, cdcWriteClear, Action.wp_bind, Action.wp_ask,
    Action.wp_ite, Action.wp_pure]
  intro opened
  refine ⟨fun _ => ⟨_, rfl, List.nil_prefix, fun _ => clear, fun hsent => absurd hsent (by simp)⟩,
    fun _ => ?_⟩
  apply Action.wp_mono (sendFrame_sends fits)
  intro result o' evs send
  have hsince (bytes : List UInt8) (hbytes : acceptedBytes (h ++ [⟨.isOpen, opened⟩] ++ evs) =
      acceptedBytes (h ++ [⟨.isOpen, opened⟩]) ++ bytes) : acceptedBytes evs = bytes := by
    rw [acceptedBytes_append] at hbytes
    exact List.append_cancel_left hbytes
  have hpart : acceptedBytes evs <+: encodeMessage frame := by
    obtain ⟨n, hn⟩ := send.accepted
    rw [hsince _ hn]
    exact List.take_prefix n _
  cases result with
  | none =>
    refine ⟨⟨.isOpen, opened⟩ ::
      evs, by simp, hpart, fun hnone => absurd rfl hnone, fun hsent => absurd hsent (by simp)⟩
  | some result =>
    simp only [Action.wp_bind, Action.wp_ask, Action.wp_pure]
    intro r
    have hall : acceptedBytes (⟨.isOpen, opened⟩ :: (evs ++ [⟨.writeClear, r⟩])) =
        acceptedBytes evs := by
      rw [acceptedBytes, acceptedBytes_append]
      exact List.append_nil _
    refine ⟨⟨.isOpen, opened⟩ :: (evs ++ [⟨.writeClear, r⟩]), by simp, ?_, send.cleared, ?_⟩
    · rw [hall]
      exact hpart
    · intro hsent
      obtain ⟨hn, before, ticks, hlast⟩ := send.sent hsent
      have hwhole := hsince _ hn
      obtain hnil | ⟨init, ev, rfl⟩ := List.eq_nil_or_concat evs
      · rw [hnil, encodeMessage] at hwhole
        exact absurd hwhole (by simp [acceptedBytes])
      · rw [List.concat_eq_append] at hlast hwhole ⊢
        rw [← List.append_assoc] at hlast
        have hev : [ev] = [⟨.writeFlush ticks, .ok⟩] := (List.append_inj' hlast rfl).2
        rw [hev] at hwhole ⊢
        refine ⟨⟨.isOpen, opened⟩ :: init, ticks, by simp, ?_⟩
        rw [acceptedBytes_append] at hwhole
        exact (List.append_nil _).symm.trans hwhole

/-! The loops end once the deadline has passed on three readings in a row. -/

/-- A timer that keeps advancing. The source compares 32-bit millisecond counts, so a task that is
not scheduled for half of their range could take a deadline that passed for one to come: no two
readings are 2^30 ms (twelve days) apart. -/
structure Advancing (clock : ℕ → ℕ) : Prop where
  monotone : Monotone clock
  unbounded : ∀ time, ∃ k, time ≤ clock k
  gaps : ∀ k, clock (k + 1) / 1000 ≤ clock k / 1000 + 2 ^ 30

/-- The timer says what the clock says. -/
def OnTime (clock : ℕ → ℕ) (h : CdcHistory) : Prop :=
  ∀ k time, (readings h)[k]? = some time → time = clock k

variable {clock : ℕ → ℕ} {evs : CdcHistory}

theorem OnTime.before (onTime : OnTime clock (h ++ evs)) : OnTime clock h := by
  intro k time hk
  apply onTime k
  have hlt : k < (readings h).length := (List.getElem?_eq_some_iff.mp hk).1
  rw [readings_append, List.getElem?_append_left hlt]
  exact hk

theorem OnTime.reading {k time : ℕ} (onTime : OnTime clock (h ++ evs))
    (hk : (readings evs)[k]? = some time) : time = clock ((readings h).length + k) := by
  apply onTime
  rw [readings_append, List.getElem?_append_right (Nat.le_add_right _ _), Nat.add_sub_cancel_left]
  exact hk

/-- Moments less than 2^32 ms apart have their difference modulo 2^32. -/
theorem msOf_sub {start time : ℕ} (hle : start / 1000 ≤ time / 1000)
    (hlt : time / 1000 - start / 1000 < 2 ^ 32) :
    (msOf time - msOf start).toNat = time / 1000 - start / 1000 := by
  rw [msOf, msOf, UInt32.toNat_sub, UInt32.toNat_ofNat', UInt32.toNat_ofNat']
  omega

theorem Advancing.gaps_add (advancing : Advancing clock) (k j : ℕ) :
    clock (k + j) / 1000 ≤ clock k / 1000 + j * 2 ^ 30 := by
  induction j with
  | zero => simp
  | succ j ih =>
    have hgap := advancing.gaps (k + j)
    rw [← Nat.add_assoc]
    omega

/-- Three readings in a row find no time left. -/
theorem Advancing.expires (advancing : Advancing clock) (start : ℕ) {timeoutMs : UInt32}
    (positive : 0 < timeoutMs) (short : timeoutMs.toNat < 2 ^ 30) :
    ∃ m, start < m ∧ ∀ j ≤ 2, (⟨msOf (clock start), timeoutMs⟩ : Deadline).remaining
      (msOf (clock (m + j))) = 0 := by
  have hpositive : 0 < timeoutMs.toNat := UInt32.lt_iff_toNat_lt.mp positive
  have hexpires : ∃ k, clock start / 1000 + timeoutMs.toNat ≤ clock k / 1000 := by
    obtain ⟨k, hk⟩ := advancing.unbounded ((clock start / 1000 + timeoutMs.toNat) * 1000)
    exact ⟨k, (Nat.le_div_iff_mul_le (by omega)).mpr hk⟩
  have hfirst := Nat.find_spec hexpires
  have hstart : start < Nat.find hexpires := by
    by_contra hle
    have hmono := advancing.monotone (Nat.le_of_not_lt hle)
    have hms : clock (Nat.find hexpires) / 1000 ≤ clock start / 1000 := Nat.div_le_div_right hmono
    omega
  refine ⟨Nat.find hexpires, hstart, fun j hj => ?_⟩
  have hbefore := Nat.find_min hexpires (m := Nat.find hexpires - 1) (by omega)
  have hgap := advancing.gaps_add (Nat.find hexpires - 1) (j + 1)
  have hindex : Nat.find hexpires - 1 + (j + 1) = Nat.find hexpires + j := by omega
  rw [hindex] at hgap
  have hlater : clock (Nat.find hexpires) / 1000 ≤ clock (Nat.find hexpires + j) / 1000 :=
    Nat.div_le_div_right (advancing.monotone (Nat.le_add_right _ _))
  have helapsed : (msOf (clock (Nat.find hexpires + j)) - msOf (clock start)).toNat =
      clock (Nat.find hexpires + j) / 1000 - clock start / 1000 := msOf_sub (by omega) (by omega)
  rw [Deadline.remaining, if_neg]
  rw [UInt32.lt_iff_toNat_lt, helapsed]
  change ¬_ < timeoutMs.toNat
  omega

/-- Three readings in a row find no time left, the first of them at `m`. -/
def Expires (d : Deadline) (clock : ℕ → ℕ) (m : ℕ) : Prop :=
  ∀ j ≤ 2, d.remaining (msOf (clock (m + j))) = 0

variable {m : ℕ}

theorem Expires.reading {k : ℕ} (expires : Expires d clock m)
    (hleft : d.remaining (msOf (clock k)) ≠ 0) (hk : k ≤ m + 2) : k < m := by
  by_contra hle
  apply hleft
  have hzero := expires (k - m) (by omega)
  have hindex : m + (k - m) = k := by omega
  rw [hindex] at hzero
  exact hzero

/-- No more than these readings have been taken, and there is fuel for the rest of them. -/
def ReadingsLeft (clock : ℕ → ℕ) (m fuel : ℕ) (h : CdcHistory) : Prop :=
  OnTime clock h → (readings h).length ≤ m + 1 ∧ m + 2 ≤ (readings h).length + fuel

theorem queueLoop_ends (timed : d.timeoutMs ≠ waitForever) (expires : Expires d clock m)
    (within : ReadingsLeft clock m fuel h) :
    (Action.loop (queueTurn tickRateHz d) fuel).wp o h fun result _ h' =>
      (∀ b, result = some b → b = true → OnTime clock h' → (readings h').length ≤ m + 1) ∧
        (result = none → ReadingsLeft clock m 0 h') := by
  refine Action.wp_loop (I := fun fuel _ h' => ReadingsLeft clock m fuel h')
    (Q := fun b _ h' => b = true → OnTime clock h' → (readings h').length ≤ m + 1) ?_ within
  intro fuel o h within
  apply Action.wp_mono (queueTurn_wp timed)
  rintro result o' _ ⟨evs, heq, turn⟩
  rw [heq]
  refine ⟨fun b hb htrue onTime => ?_, fun hnone onTime => ?_⟩
  · obtain ⟨-, rfl, -⟩ := turn.queued (htrue ▸ hb)
    rw [List.append_nil] at onTime ⊢
    exact (within onTime).1
  · obtain ⟨hcount, hfuel⟩ := within onTime.before
    obtain ⟨t, rest, hreadings, hleft, hrest⟩ := turn.waited hnone
    have hread : (readings evs)[0]? = some t := by rw [hreadings]; rfl
    have ht : t = clock (readings h).length := onTime.reading hread
    have hfirst : (readings h).length < m := expires.reading (ht ▸ hleft) (by omega)
    rw [readings_append, hreadings, List.length_append]
    obtain rfl | ⟨t₁, rfl⟩ | ⟨t₁, t₂, rfl, hagain⟩ := hrest
    · simp only [List.length_singleton]
      omega
    · simp only [List.length_cons, List.length_nil]
      omega
    · have hread₂ : (readings evs)[2]? = some t₂ := by rw [hreadings]; rfl
      have ht₂ : t₂ = clock ((readings h).length + 2) := onTime.reading hread₂
      have hlast : (readings h).length + 2 < m := expires.reading (ht₂ ▸ hagain) (by omega)
      simp only [List.length_cons, List.length_nil]
      omega

theorem drainLoop_ends (timed : d.timeoutMs ≠ waitForever) (expires : Expires d clock m)
    (within : ReadingsLeft clock m fuel h) :
    (Action.loop (drainTurn tickRateHz d) fuel).wp o h fun result _ h' =>
      result = none → ReadingsLeft clock m 0 h' := by
  have hloop : (Action.loop (drainTurn tickRateHz d) fuel).wp o h fun result _ h' =>
      (∀ b, result = some b → True) ∧ (result = none → ReadingsLeft clock m 0 h') := by
    refine Action.wp_loop (I := fun fuel _ h' => ReadingsLeft clock m fuel h')
      (Q := fun _ _ _ => True)
      ?_ within
    intro fuel o h within
    apply Action.wp_mono (drainTurn_wp timed)
    rintro result o' _ ⟨evs, heq, turn⟩
    rw [heq]
    refine ⟨fun _ _ => trivial, fun hnone onTime => ?_⟩
    obtain ⟨hcount, hfuel⟩ := within onTime.before
    obtain ⟨t₁, t₂, hreadings, hagain⟩ := turn.waited hnone
    have hread : (readings evs)[1]? = some t₂ := by rw [hreadings]; rfl
    have ht₂ : t₂ = clock ((readings h).length + 1) := onTime.reading hread
    have hlast : (readings h).length + 1 < m := expires.reading (ht₂ ▸ hagain) (by omega)
    rw [readings_append, hreadings, List.length_append]
    simp only [List.length_cons, List.length_nil]
    omega
  exact Action.wp_mono hloop fun _ _ _ done => done.2

/-- A send that starts after `start` readings ends. -/
theorem sendFrame_ends (expires : Expires ⟨msOf (clock (readings h).length),
      if log then logSendTimeoutMs else txSendTimeoutMs⟩ clock m)
    (hstart : (readings h).length < m) (enough : m + 2 ≤ fuel) :
    (sendFrame tickRateHz fuel frame log).wp o h fun result _ h' =>
      OnTime clock h' → result ≠ none := by
  simp only [sendFrame, nowMs, espTimerGetTime, Action.wp_bind, Action.wp_modify, Action.wp_ask,
    Action.wp_ite, Action.wp_pure]
  intro time
  by_cases htime : time = clock (readings h).length
  · subst htime
    have hcount : (readings (h ++ [⟨.espTimerGetTime, clock (readings h).length⟩])).length =
        (readings h).length + 1 := by
      rw [readings_append, List.length_append]
      rfl
    have hwithin :
        ReadingsLeft clock m fuel (h ++ [⟨.espTimerGetTime, clock (readings h).length⟩]) := by
      intro _
      rw [hcount]
      omega
    apply Action.wp_mono (queueLoop_ends (timed_deadline log) expires hwithin)
    intro result o₁ evs queue
    constructor
    · intro hqueued
      have hdrain : ReadingsLeft clock m fuel
          (h ++ [⟨.espTimerGetTime, clock (readings h).length⟩] ++ evs) := by
        intro onTime
        have hle := queue.1 true hqueued rfl onTime
        omega
      apply Action.wp_mono (drainLoop_ends (timed_deadline log) expires hdrain)
      intro result _ _ done onTime hnone
      obtain ⟨hle, hge⟩ := done hnone onTime
      omega
    · intro _ onTime hnone
      obtain ⟨hle, hge⟩ := queue.2 hnone onTime
      omega
  · -- the timer does not say what the clock says
    have hlate (evs : CdcHistory) : ¬OnTime clock (h ++ [⟨.espTimerGetTime, time⟩] ++ evs) := by
      intro onTime
      have hread : (readings [⟨.espTimerGetTime, time⟩])[0]? = some time := rfl
      exact htime (onTime.before.reading hread)
    apply Action.wp_from
    intro result o₁ evs
    constructor
    · intro _
      apply Action.wp_from
      intro _ _ evs' onTime
      exact absurd onTime.before (hlate evs)
    · intro _ onTime
      exact absurd onTime (hlate evs)

variable (tickRateHz) in
/-- While the clock advances, enough turns end a send. -/
theorem deliverTxFrame_ends (advancing : Advancing clock) (h : CdcHistory) (log : Bool) :
    ∃ enough, ∀ fuel ≥ enough, ∀ frame o,
      (deliverTxFrame tickRateHz fuel frame log).wp o h fun result _ h' =>
        OnTime clock h' → result ≠ none := by
  have hpositive : 0 < (if log then logSendTimeoutMs else txSendTimeoutMs) := by
    cases log <;> decide
  have hshort : (if log then logSendTimeoutMs else txSendTimeoutMs).toNat < 2 ^ 30 := by
    cases log <;> decide
  obtain ⟨m, hm, expires⟩ := advancing.expires (readings h).length hpositive hshort
  refine ⟨m + 2, fun fuel hfuel frame o => ?_⟩
  simp only [deliverTxFrame, cdcIsOpen, cdcWriteClear, Action.wp_bind, Action.wp_ask,
    Action.wp_ite, Action.wp_pure]
  intro opened
  refine ⟨fun _ _ => by simp, fun _ => ?_⟩
  have hcount : readings (h ++ [⟨.isOpen, opened⟩]) = readings h := by
    rw [readings_append]
    exact List.append_nil _
  rw [← hcount] at expires hm
  have hends : (sendFrame tickRateHz fuel frame log).wp o (h ++ [⟨.isOpen, opened⟩])
      fun result _ h' => OnTime clock h' → result ≠ none := sendFrame_ends expires hm hfuel
  apply Action.wp_mono hends
  intro result _ _ done
  cases result with
  | none => exact done
  | some result =>
    simp only [Action.wp_bind, Action.wp_ask, Action.wp_pure]
    exact fun _ _ => by simp

/-- A send that returns leaves nothing staged, whatever it was given. -/
theorem deliverTxFrames_cleared (frames : List (List UInt8 × Bool)) (clear : o.Cleared)
    (fits : ∀ f ∈ frames, f.1.length ≤ maxFrameSize) :
    (deliverTxFrames tickRateHz fuel frames).wp o h fun sent o' _ => sent ≠ none → o'.Cleared := by
  induction frames generalizing o h with
  | nil =>
    rw [deliverTxFrames, Action.wp_pure]
    exact fun _ => clear
  | cons f frames ih =>
    obtain ⟨frame, log⟩ := f
    rw [deliverTxFrames, Action.wp_bind]
    apply Action.wp_mono (deliverTxFrame_delivers (fits _ List.mem_cons_self) clear)
    rintro result o₁ _ ⟨evs, -, delivery⟩
    cases result with
    | none =>
      rw [Action.wp_pure]
      exact fun hsome => absurd rfl hsome
    | some sent =>
      have hclear := delivery.cleared (by simp)
      rw [Action.wp_bind]
      apply Action.wp_mono (ih hclear fun f hf => fits f (List.mem_cons_of_mem _ hf))
      intro rest o₂ _ hrest
      rw [Action.wp_pure]
      intro hsome
      apply hrest
      rintro rfl
      exact hsome rfl

theorem acceptedBytes_before {before : CdcHistory} (hbefore : before <+: evs) :
    acceptedBytes before <+: acceptedBytes evs := by
  obtain ⟨rest, rfl⟩ := hbefore
  rw [acceptedBytes_append]
  exact List.prefix_append _ _

end Specs

/-- After any sends that returned, whatever the other tasks, the clock and the driver answer, at
every moment of a send the driver has accepted a prefix of the encoding of the frame. The send
returns true only after the driver accepted all of it and a last flush was `ESP_OK`, and however
it returns, nothing is staged. While the clock advances, by at most 2^30 ms from one reading to
the next, it returns. -/
theorem cdc_send_exact (tickRateHz fuel₀ : ℕ) (earlier : List (List UInt8 × Bool))
    (fits₀ : ∀ f ∈ earlier, f.1.length ≤ maxFrameSize) (frame : List UInt8) (log : Bool)
    (fits : frame.length ≤ maxFrameSize) :
    (deliverTxFrames tickRateHz fuel₀ earlier).wp {} [] fun sent o h => sent ≠ none →
      (∀ fuel, (deliverTxFrame tickRateHz fuel frame log).wp o h fun result o' h' =>
        ∃ evs, h' = h ++ evs ∧
          (∀ before, before <+: evs → acceptedBytes before <+: encodeMessage frame) ∧
          (result = some true → ∃ before ticks,
            evs = before ++ [⟨.writeFlush ticks, .ok⟩, ⟨.writeClear, ()⟩] ∧
              acceptedBytes before = encodeMessage frame) ∧
          (result ≠ none → o'.txSize = 0 ∧ o'.txOffset = 0)) ∧
      ∀ clock, Advancing clock → ∃ enough, ∀ fuel ≥ enough,
        (deliverTxFrame tickRateHz fuel frame log).wp o h fun result _ h' =>
          OnTime clock h' → result ≠ none := by
  have hfresh : ({} : CdcOutput).Cleared := ⟨rfl, rfl⟩
  apply Action.wp_mono (deliverTxFrames_cleared earlier hfresh fits₀)
  intro sent o h hcleared hsent
  have clear := hcleared hsent
  constructor
  · intro fuel
    apply Action.wp_mono (deliverTxFrame_delivers fits clear)
    rintro result o' _ ⟨evs, heq, delivery⟩
    refine ⟨evs, heq, fun before hbefore => ?_, delivery.sent, delivery.cleared⟩
    exact (acceptedBytes_before hbefore).trans delivery.accepted
  · intro clock advancing
    obtain ⟨enough, hends⟩ := deliverTxFrame_ends tickRateHz advancing _ log
    exact ⟨enough, fun fuel hfuel => hends fuel hfuel frame o⟩

/-- A driver that takes three bytes at a time, with a link that stays up and a reading each
millisecond. -/
def steadyDriver : Environment ℕ CdcCall CdcCall.Reply
  | k, .isOpen => (true, k)
  | k, .espTimerGetTime => (1000 * k, k + 1)
  | k, .writeQueue bytes => (⟨min 3 bytes.length, by omega⟩, k)
  | k, .writeFlush _ => (.ok, k)
  | k, .writeClear => ((), k)

theorem steady_clock_advances : Advancing fun k => 1000 * k where
  monotone _ _ hle := Nat.mul_le_mul_left 1000 hle
  unbounded time := ⟨time, by omega⟩
  gaps k := by omega

/-- A frame with an END byte is escaped and sent whole. -/
theorem escaped_frame_sent :
    (∃ before ticks, ((deliverTxFrame 100 10 [0xC0, 1] false {}).run steadyDriver 0).2 =
        before ++ [⟨.writeFlush ticks, .ok⟩, ⟨.writeClear, ()⟩] ∧
      acceptedBytes before = [0xC0, 0xDB, 0xDC, 1, 0xC0]) ∧
    ∃ enough, ∀ fuel ≥ enough, (deliverTxFrame 100 fuel [0xC0, 1] false).wp {} [] fun result _ h' =>
      OnTime (fun k => 1000 * k) h' → result ≠ none := by
  have hsend := cdc_send_exact 100 10 [] (by simp) [0xC0, 1] false (by decide)
  rw [deliverTxFrames, Action.wp_pure] at hsend
  obtain ⟨hall, hends⟩ := hsend (by simp)
  constructor
  · have hrun : ((deliverTxFrame 100 10 [0xC0, 1] false {}).run steadyDriver 0).1.1.1 = some
        true := by
      decide +kernel
    obtain ⟨evs, heq, -, hsent, -⟩ := Program.wp_run steadyDriver _ [] 0 (hall 10)
    obtain ⟨before, ticks, hevs, haccepted⟩ := hsent hrun
    exact ⟨before, ticks, (heq.trans (List.nil_append _)).trans hevs, haccepted⟩
  · exact hends _ steady_clock_advances

end SidpClient
