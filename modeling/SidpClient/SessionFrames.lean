import SidpClient.SessionState

/-! Frame assembly in the scratch buffer and the frames every handler sends. -/
namespace SidpClient
open LittleEndian

/-- Writes bytes of the frame payload, which starts behind the header. -/
def writePayload (offset : ℕ) (bytes : List UInt8) : SessionM Unit :=
  updateSession fun s => { s with scratch := s.scratch.write (headerSize + offset) bytes }

def headerBytes (kind : UInt8) (opcode : UInt16) (requestId : UInt32) : List UInt8 :=
  [protocolVersion, kind] ++ le16 opcode ++ le32 requestId

/-- `begin_frame`; false where the source returns a null pointer. -/
def beginFrame (kind : UInt8) (opcode : UInt16) (requestId : UInt32) (payloadSize : ℕ) :
    SessionM Bool := do
  if payloadSize > maxFrameSize - headerSize then
    return false
  updateSession fun s =>
    { s with
      txFrameSize := headerSize + payloadSize
      scratch := s.scratch.write 0 (headerBytes kind opcode requestId) }
  return true

/-- `finish_frame` with `set_message_crc` on the frame in the scratch buffer. -/
def finishFrame : SessionM Bool := do
  let s ← getSession
  if s.transportDead then
    return false
  match Crc32.calculateMessage (s.scratch.read 0 s.txFrameSize) with
  | none =>
    updateSession fun s => { s with transportDead := true }
    return false
  | some crc =>
    let scratch := s.scratch.write Crc32.crcOffset (le32 crc)
    updateSession fun s => { s with scratch := scratch }
    let accepted ← txSink (scratch.read 0 s.txFrameSize)
    if !accepted then
      updateSession fun s => { s with transportDead := true }
      return false
    return true

def sendResponse (opcode : UInt16) (requestId : UInt32) (status : Status) (payload : List UInt8) :
    SessionM Bool := do
  if !(← beginFrame MsgKind.response opcode requestId (responsePrefixSize + payload.length)) then
    return false
  writePayload 0 (le32 status.value)
  if payload ≠ [] then
    writePayload responsePrefixSize payload
  finishFrame

/-- A response that is only its status, as every caller sends it. -/
def respond (opcode : UInt16) (requestId : UInt32) (status : Status) : SessionM Unit := do
  let _ ← sendResponse opcode requestId status []

def stoppedEventBytes (s : Session) : List UInt8 :=
  le32 s.stopId ++ le16 0 ++ [s.pendingReason.value, 0] ++ le32 s.pendingDetail ++
    le32 s.pendingBreakpointId ++ le64 s.pendingWatchpointAddress ++
    le16 (UInt16.ofNat (registerEntries s.pendingRegisters s.pendingRegistersSize).length) ++
    le16 (UInt16.ofNat s.pendingStackSize) ++ le64 s.pendingStackAddress

def sendStopped : SessionM Bool := do
  let s ← getSession
  if !(← beginFrame MsgKind.event Opcode.stopped 0
      (stoppedEventSize + s.pendingRegistersSize + s.pendingStackSize)) then
    return false
  writePayload 0 (stoppedEventBytes s)
  writePayload stoppedEventSize (s.pendingRegisters.read 0 s.pendingRegistersSize)
  writePayload (stoppedEventSize + s.pendingRegistersSize)
    (s.pendingRegisters.read s.pendingRegistersSize s.pendingStackSize)
  let reported ← finishFrame
  updateSession fun s => { s with stopReported := reported }
  return reported

/-- `send_target_lost`. The three reserved bytes of the event are not written. -/
def sendTargetLost (reason : TargetLostReason) : SessionM Bool := do
  if !(← beginFrame MsgKind.event Opcode.targetLost 0 targetLostEventSize) then
    return false
  writePayload 0 [reason.value]
  writePayload 4 (le32 0)
  finishFrame

def enterLost (reason : TargetLostReason) : SessionM Unit := do
  let s ← getSession
  if s.state = .lost then
    return
  updateSession fun s => { s with state := .lost }
  let _ ← sendTargetLost reason

def emitPendingStopped : SessionM Unit := do
  let s ← getSession
  if s.stopReported ∨ s.state ≠ .halted then
    return
  let _ ← sendStopped

def sendBackendFailure (opcode : UInt16) (requestId : UInt32) (result : EspErr)
    (fallback : Status) : SessionM Unit := do
  if result = .fail then
    respond opcode requestId .targetLost
    enterLost .swdFault
    return
  respond opcode requestId (if result = .timeout then .timeout else fallback)

/-- The reason a failed observation or resume gives to TARGET_LOST. -/
def lostReason (result : EspErr) : TargetLostReason :=
  if result = .timeout then .timeout else .swdFault

end SidpClient
