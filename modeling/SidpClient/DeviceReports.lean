import SidpClient.FieldReaders
import SidpClient.MessageCrc
import SidpClient.BackendInterface

/-! The frames of `sidp_defs.hpp` that go to the peer, as what they say, and how a peer reads
them. -/
namespace SidpClient
open LittleEndian

/-- One `register_value_t` with its value. -/
structure RegisterValue where
  id : UInt16
  flags : UInt8
  value : List UInt8
  bounded : value.length < 256

def RegisterValue.bytes (v : RegisterValue) : List UInt8 :=
  le16 v.id ++ [UInt8.ofNat v.value.length, v.flags] ++ v.value

def registerBytes (values : List RegisterValue) : List UInt8 := values.flatMap RegisterValue.bytes

/-- The fixed part of a STOPPED event. -/
structure StopReport where
  stopId : UInt32
  reason : StopReason
  detail : UInt32
  breakpointId : UInt32
  watchpointAddress : UInt64
  stackAddress : UInt64

/-- What a frame to the peer says. A response that carries nothing but its status is an answer. -/
inductive Report where
  | answer (opcode : UInt16) (requestId : UInt32) (status : Status)
  | attached (requestId : UInt32) (info : AttachInfo)
  | state (requestId : UInt32) (target : TargetState) (stopId : UInt32)
  | memory (requestId : UInt32) (address : UInt64) (data : List UInt8)
  | registers (requestId stopId : UInt32) (values : List RegisterValue)
  | stopped (stop : StopReport) (values : List RegisterValue) (stack : List UInt8)
  | lost (reason : TargetLostReason) (padding : List UInt8)

/-- The requests whose STATUS_OK response has a payload of its own. -/
def carriesPayload (opcode : UInt16) : Bool :=
  opcode == Opcode.attach || opcode == Opcode.getState || opcode == Opcode.readMemory ||
    opcode == Opcode.readRegisters

namespace Report

def kind : Report → UInt8
  | .stopped _ _ _ | .lost _ _ => MsgKind.event
  | _ => MsgKind.response

def opcode : Report → UInt16
  | .answer opcode _ _ => opcode
  | .attached _ _ => Opcode.attach
  | .state _ _ _ => Opcode.getState
  | .memory _ _ _ => Opcode.readMemory
  | .registers _ _ _ => Opcode.readRegisters
  | .stopped _ _ _ => Opcode.stopped
  | .lost _ _ => Opcode.targetLost

def requestId : Report → UInt32
  | .answer _ requestId _ => requestId
  | .attached requestId _ => requestId
  | .state requestId _ _ => requestId
  | .memory requestId _ _ => requestId
  | .registers requestId _ _ => requestId
  | .stopped _ _ _ => 0
  | .lost _ _ => 0

def payload : Report → List UInt8
  | .answer _ _ status => le32 status.value
  | .attached _ info =>
    le32 Status.ok.value ++
      (info.architecture :: info.profile :: info.addressWidth :: List.replicate 1 0 ++
      (le32 info.capabilities ++ (le32 info.targetId ++
        (le32 info.cpuId ++ (le32 info.supportedVectorCatchMask ++
          (le16 info.hardwareBreakpoints ++ (le16 info.hardwareWatchpoints ++
            (le16 (UInt16.ofNat (info.memoryRegions.length / memoryRegionSize)) ++
            (le16 info.maxMemoryTransfer ++ info.memoryRegions)))))))))
  | .state _ target stopId =>
      le32 Status.ok.value ++ (target.value :: List.replicate 3 0 ++ le32 stopId)
  | .memory _ address data =>
    le32 Status.ok.value ++ (le64 address ++ (le32 (UInt32.ofNat data.length) ++ data))
  | .registers _ stopId values =>
    le32 Status.ok.value ++ (le32 stopId ++ (le16 (UInt16.ofNat values.length) ++
      (List.replicate 2 0 ++ registerBytes values)))
  | .stopped stop values stack =>
    le32 stop.stopId ++
      (List.replicate 2 0 ++ (stop.reason.value :: List.replicate 1 0 ++ (le32 stop.detail ++
      (le32 stop.breakpointId ++ (le64 stop.watchpointAddress ++
        (le16 (UInt16.ofNat values.length) ++ (le16 (UInt16.ofNat stack.length) ++
          (le64 stop.stackAddress ++ (registerBytes values ++ stack)))))))))
  | .lost reason padding => reason.value :: padding ++ List.replicate 4 0

end Report

/-- A message around a payload, with the CRC that belongs to it. -/
def sealMessage (kind : UInt8) (opcode : UInt16) (requestId : UInt32) (payload : List UInt8) :
    List UInt8 :=
  let head := [protocolVersion, kind] ++ le16 opcode ++ le32 requestId
  head ++ (le32 (Crc32.messageCrc (head ++ (List.replicate 4 0 ++ payload))) ++ payload)

namespace Report

def frame (r : Report) : List UInt8 := sealMessage r.kind r.opcode r.requestId r.payload

/-- No answer stands for a payload, and what is counted or reserved has its size. -/
def Consistent : Report → Prop
  | .answer opcode _ status => status = .ok → carriesPayload opcode = false
  | .attached _ info => info.memoryRegions.length % memoryRegionSize = 0
  | .lost _ padding => padding.length = 3
  | _ => True

/-- What has to hold of a report for its frame to say it: it has the size of a frame, a response
names its request, and it is consistent. -/
structure Fits (r : Report) : Prop where
  size : headerSize + r.payload.length ≤ maxFrameSize
  named : r.kind = MsgKind.response → r.requestId ≠ 0
  consistent : r.Consistent

end Report

/-! Reading. -/

/-- The value behind a number on the wire. -/
def ofValue {α β : Type} [BEq β] (value : α → β) (all : List α) (number : β) : Option α :=
  all.find? fun a => value a == number

def Status.all : List Status :=
  [.ok, .error, .invalidArgument, .unsupported, .busy, .timeout, .targetRunning, .targetHalted,
    .targetLost,
    .staleStop, .swdError, .addressError, .noBreakpointSlot, .noWatchpointSlot, .alignmentError]

def TargetState.all : List TargetState := [.detached, .halted, .running, .lost]

def StopReason.all : List StopReason :=
  [.unknown, .breakpoint, .watchpoint, .singleStep, .userHalt, .vectorCatch, .fault, .reset,
    .lockup, .runToAddress]

def TargetLostReason.all : List TargetLostReason := [.swdFault, .timeout]

def readRegister : Reader RegisterValue := fun bytes => do
  let (id, rest) ← readU16 bytes
  let (size, rest) ← readU8 rest
  let (flags, rest) ← readU8 rest
  let (value, rest) ← readBytes size.toNat rest
  if bounded : value.length < 256 then return (⟨id, flags, value, bounded⟩, rest) else none

/-- The end of a payload. -/
def finished {α : Type} (a : α) (rest : List UInt8) : Option α := if rest = [] then some a else none

def readAttached (requestId : UInt32) (bytes : List UInt8) : Option Report := do
  let (architecture, rest) ← readU8 bytes
  let (profile, rest) ← readU8 rest
  let (addressWidth, rest) ← readU8 rest
  let (_, rest) ← readZeros 1 rest
  let (capabilities, rest) ← readU32 rest
  let (targetId, rest) ← readU32 rest
  let (cpuId, rest) ← readU32 rest
  let (vectors, rest) ← readU32 rest
  let (breakpoints, rest) ← readU16 rest
  let (watchpoints, rest) ← readU16 rest
  let (count, rest) ← readU16 rest
  let (transfer, rest) ← readU16 rest
  let (regions, rest) ← readBytes (count.toNat * memoryRegionSize) rest
  finished
    (.attached requestId ⟨architecture, profile, addressWidth, capabilities, targetId, cpuId,
    vectors, breakpoints, watchpoints, transfer, regions⟩) rest

def readState (requestId : UInt32) (bytes : List UInt8) : Option Report := do
  let (number, rest) ← readU8 bytes
  let (_, rest) ← readZeros 3 rest
  let (stopId, rest) ← readU32 rest
  let state ← ofValue TargetState.value TargetState.all number
  finished (.state requestId state stopId) rest

def readMemoryData (requestId : UInt32) (bytes : List UInt8) : Option Report := do
  let (address, rest) ← readU64 bytes
  let (length, rest) ← readU32 rest
  let (data, rest) ← readBytes length.toNat rest
  finished (.memory requestId address data) rest

def readRegisterValues (requestId : UInt32) (bytes : List UInt8) : Option Report := do
  let (stopId, rest) ← readU32 bytes
  let (count, rest) ← readU16 rest
  let (_, rest) ← readZeros 2 rest
  let (values, rest) ← readMany readRegister count.toNat rest
  finished (.registers requestId stopId values) rest

def readStopped (bytes : List UInt8) : Option Report := do
  let (stopId, rest) ← readU32 bytes
  let (_, rest) ← readZeros 2 rest
  let (number, rest) ← readU8 rest
  let (_, rest) ← readZeros 1 rest
  let (detail, rest) ← readU32 rest
  let (breakpointId, rest) ← readU32 rest
  let (watchpointAddress, rest) ← readU64 rest
  let (count, rest) ← readU16 rest
  let (length, rest) ← readU16 rest
  let (stackAddress, rest) ← readU64 rest
  let (values, rest) ← readMany readRegister count.toNat rest
  let (stack, rest) ← readBytes length.toNat rest
  let reason ← ofValue StopReason.value StopReason.all number
  finished
    (.stopped ⟨stopId, reason, detail, breakpointId, watchpointAddress, stackAddress⟩ values stack)
    rest

def readLost (bytes : List UInt8) : Option Report := do
  let (number, rest) ← readU8 bytes
  let (padding, rest) ← readBytes 3 rest
  let (_, rest) ← readZeros 4 rest
  let reason ← ofValue TargetLostReason.value TargetLostReason.all number
  finished (.lost reason padding) rest

def readResponse (opcode : UInt16) (requestId : UInt32) (bytes : List UInt8) : Option Report := do
  let (number, rest) ← readU32 bytes
  let status ← ofValue Status.value Status.all number
  if status = .ok ∧ opcode = Opcode.attach then readAttached requestId rest
  else if status = .ok ∧ opcode = Opcode.getState then readState requestId rest
  else if status = .ok ∧ opcode = Opcode.readMemory then readMemoryData requestId rest
  else if status = .ok ∧ opcode = Opcode.readRegisters then readRegisterValues requestId rest
  else finished (.answer opcode requestId status) rest

def readEvent (opcode : UInt16) (bytes : List UInt8) : Option Report :=
  if opcode = Opcode.stopped then readStopped bytes
  else if opcode = Opcode.targetLost then readLost bytes
  else none

/-- How a peer reads a frame: size, version and CRC first, then the kind, and every field to the
last byte. -/
def readFrame (f : List UInt8) : Option Report := do
  if !Crc32.verifyMessageCrc f then none else
  let (version, rest) ← readU8 f
  let (kind, rest) ← readU8 rest
  let (opcode, rest) ← readU16 rest
  let (requestId, rest) ← readU32 rest
  let (_, rest) ← readU32 rest
  if version ≠ protocolVersion then none
  else if kind = MsgKind.response ∧ requestId ≠ 0 then readResponse opcode requestId rest
  else if kind = MsgKind.event ∧ requestId = 0 then readEvent opcode rest
  else none

/-! Every frame is read as what it says. -/

@[simp] theorem Status.ofValue_value (status : Status) :
    ofValue Status.value Status.all status.value = some status := by
  cases status <;> rfl

@[simp] theorem TargetState.ofValue_value (state : TargetState) :
    ofValue TargetState.value TargetState.all state.value = some state := by
  cases state <;> rfl

@[simp] theorem StopReason.ofValue_value (reason : StopReason) :
    ofValue StopReason.value StopReason.all reason.value = some reason := by
  cases reason <;> rfl

@[simp] theorem TargetLostReason.ofValue_value (reason : TargetLostReason) :
    ofValue TargetLostReason.value TargetLostReason.all reason.value = some reason := by
  cases reason <;> rfl

@[simp] theorem readRegister_bytes (v : RegisterValue) (rest : List UInt8) :
    readRegister (v.bytes ++ rest) = some (v, rest) := by
  have size : (UInt8.ofNat v.value.length).toNat = v.value.length := by
    rw [UInt8.toNat_ofNat']
    exact Nat.mod_eq_of_lt v.bounded
  have shape : v.bytes ++ rest = le16 v.id ++ (UInt8.ofNat v.value.length :: v.flags ::
      (v.value ++ rest)) := by
    simp [RegisterValue.bytes]
  simp [readRegister, shape, size, v.bounded]

theorem registerBytes_read (values : List RegisterValue) (rest : List UInt8) :
    readMany readRegister values.length (registerBytes values ++ rest) = some (values, rest) :=
  readMany_flatMap rest readRegister_bytes values

theorem length_le_registerBytes (values : List RegisterValue) :
    values.length ≤ (registerBytes values).length := by
  induction values with
  | nil => exact Nat.zero_le _
  | cons v values ih =>
    have head : 1 ≤ v.bytes.length := by
      simp only [RegisterValue.bytes, List.length_append, le16_length]
      omega
    have split : (registerBytes (v :: values)).length = v.bytes.length +
        (registerBytes values).length := by
      rw [registerBytes, List.flatMap_cons, List.length_append]
      rfl
    rw [split, List.length_cons]
    omega

theorem finished_nil {α : Type} (a : α) : finished a [] = some a := rfl

/-! The envelope. -/

/-- The CRC neither reads its own field nor depends on it. -/
theorem messageCrc_field (head field field' payload : List UInt8) (hhead : head.length = 8)
    (hfield : field.length = 4) (hfield' : field'.length = 4) :
    Crc32.messageCrc (head ++ (field ++ payload)) = Crc32.messageCrc
      (head ++ (field' ++ payload)) := by
  have front (bytes : List UInt8) : (head ++ bytes).take Crc32.crcOffset = head :=
    List.take_left' hhead
  have back (bytes : List UInt8) (hbytes : bytes.length = 4) :
      (head ++ (bytes ++ payload)).drop headerSize = payload := by
    rw [← List.append_assoc]
    apply List.drop_left'
    rw [List.length_append, hhead, hbytes]
    rfl
  rw [Crc32.messageCrc, Crc32.messageCrc, front, front, back field hfield, back field' hfield']

theorem sealMessage_length (kind : UInt8) (opcode : UInt16) (requestId : UInt32)
    (payload : List UInt8) :
    (sealMessage kind opcode requestId payload).length = headerSize + payload.length := by
  simp [sealMessage, headerSize]
  omega

theorem verify_sealMessage {kind : UInt8} {opcode : UInt16} {requestId : UInt32}
    {payload : List UInt8} (size : headerSize + payload.length ≤ maxFrameSize) :
    Crc32.verifyMessageCrc (sealMessage kind opcode requestId payload) = true := by
  have valid : isValidMessageSize (sealMessage kind opcode requestId payload).length := by
    rw [sealMessage_length]
    exact ⟨by omega, size⟩
  have hhead : ([protocolVersion, kind] ++ le16 opcode ++ le32 requestId).length = 8 := by simp
  rw [Crc32.verifyMessageCrc, Crc32.calculateMessage, if_pos valid]
  have stored : getU32 (sealMessage kind opcode requestId payload) Crc32.crcOffset =
      Crc32.messageCrc ([protocolVersion, kind] ++ le16 opcode ++ le32 requestId ++
        (List.replicate 4 0 ++ payload)) := by
    have field (v : UInt32) : slice ([protocolVersion, kind] ++ le16 opcode ++ le32 requestId ++
        (le32 v ++ payload)) Crc32.crcOffset 4 = le32 v := by
      rw [slice, Crc32.crcOffset, List.drop_left' hhead, List.take_left' (le32_length v)]
    rw [getU32, sealMessage, field, ofNat_leNat_le32]
  rw [stored]
  apply beq_iff_eq.mpr
  exact messageCrc_field _ _ _ _ hhead (by simp) (le32_length _)

/-- The payload of a sealed message is read by its kind. -/
theorem readFrame_sealMessage {kind : UInt8} {opcode : UInt16} {requestId : UInt32}
    {payload : List UInt8} (size : headerSize + payload.length ≤ maxFrameSize) :
    readFrame (sealMessage kind opcode requestId payload) =
      if kind = MsgKind.response ∧ requestId ≠ 0 then readResponse opcode requestId payload
      else if kind = MsgKind.event ∧ requestId = 0 then readEvent opcode payload
      else none := by
  have verified : Crc32.verifyMessageCrc (sealMessage kind opcode requestId payload) = true :=
    verify_sealMessage size
  rw [readFrame, verified]
  simp [sealMessage]

/-! What each payload says. -/

/-- One field read, and on with the rest. -/
theorem read_then {α β : Type} {x : Option (α × List UInt8)} {a : α} {rest : List UInt8}
    {f : α × List UInt8 → Option β} (hx : x = some (a, rest)) : (x >>= f) = f (a, rest) := by
  rw [hx]
  rfl

theorem toNat_ofNat16 {n : ℕ} (hn : n < 2 ^ 16) : (UInt16.ofNat n).toNat = n := by
  rw [UInt16.toNat_ofNat']
  exact Nat.mod_eq_of_lt hn

theorem toNat_ofNat32 {n : ℕ} (hn : n < 2 ^ 32) : (UInt32.ofNat n).toNat = n := by
  rw [UInt32.toNat_ofNat']
  exact Nat.mod_eq_of_lt hn

theorem readResponse_status (opcode : UInt16) (requestId : UInt32) (status : Status)
    (rest : List UInt8) :
    readResponse opcode requestId (le32 status.value ++ rest) =
      if status = .ok ∧ opcode = Opcode.attach then readAttached requestId rest
      else if status = .ok ∧ opcode = Opcode.getState then readState requestId rest
      else if status = .ok ∧ opcode = Opcode.readMemory then readMemoryData requestId rest
      else if status = .ok ∧ opcode = Opcode.readRegisters then readRegisterValues requestId rest
      else finished (.answer opcode requestId status) rest := by
  simp [readResponse]

theorem readResponse_answer {opcode : UInt16} {requestId : UInt32} {status : Status}
    (bare : status = .ok → carriesPayload opcode = false) :
    readResponse opcode requestId (le32 status.value) = some (.answer opcode requestId status) := by
  have plain (other : UInt16) (carries : carriesPayload other = true) :
      ¬(status = .ok ∧ opcode = other) := by
    intro both
    have none := bare both.1
    rw [both.2, carries] at none
    exact absurd none (by decide)
  have shape : le32 status.value = le32 status.value ++ [] := (List.append_nil _).symm
  rw [shape, readResponse_status, if_neg (plain _ (by decide)), if_neg (plain _ (by decide)),
    if_neg (plain _ (by decide)), if_neg (plain _ (by decide)), finished_nil]

theorem readAttached_payload (requestId : UInt32) {info : AttachInfo}
    (rows : info.memoryRegions.length % memoryRegionSize = 0)
    (small : info.memoryRegions.length < 2 ^ 16) :
    readResponse Opcode.attach requestId (Report.attached requestId info).payload = some
      (.attached requestId info) := by
  have count : (UInt16.ofNat (info.memoryRegions.length / memoryRegionSize)).toNat *
      memoryRegionSize = info.memoryRegions.length := by
    rw [toNat_ofNat16 (lt_of_le_of_lt (Nat.div_le_self _ _) small)]
    exact Nat.div_mul_cancel (Nat.dvd_of_mod_eq_zero rows)
  have regions : readBytes info.memoryRegions.length info.memoryRegions = some
      (info.memoryRegions, []) := by
    have read := readBytes_append [] info.memoryRegions
    rwa [List.append_nil] at read
  rw [Report.payload, readResponse_status, if_pos ⟨rfl, rfl⟩]
  rw [readAttached]
  apply (read_then (readU8_cons _ _)).trans
  apply (read_then (readU8_cons _ _)).trans
  apply (read_then (readU8_cons _ _)).trans
  apply (read_then (readZeros_replicate _ 1)).trans
  apply (read_then (readU32_le32 _ _)).trans
  apply (read_then (readU32_le32 _ _)).trans
  apply (read_then (readU32_le32 _ _)).trans
  apply (read_then (readU32_le32 _ _)).trans
  apply (read_then (readU16_le16 _ _)).trans
  apply (read_then (readU16_le16 _ _)).trans
  apply (read_then (readU16_le16 _ _)).trans
  apply (read_then (readU16_le16 _ _)).trans
  rw [count]
  exact (read_then regions).trans (finished_nil _)

theorem readState_payload (requestId : UInt32) (state : TargetState) (stopId : UInt32) :
    readResponse Opcode.getState requestId (Report.state requestId state stopId).payload =
      some (.state requestId state stopId) := by
  rw [Report.payload, readResponse_status, if_neg (by decide), if_pos ⟨rfl, rfl⟩]
  have last : readU32 (le32 stopId) = some (stopId, []) := by
    have read := readU32_le32 [] stopId
    rwa [List.append_nil] at read
  simp only [readState, List.cons_append, readU8_cons, readZeros_replicate, Option.bind_eq_bind,
    Option.bind_some, last, TargetState.ofValue_value, finished_nil]

theorem readMemory_payload (requestId : UInt32) (address : UInt64) {data : List UInt8}
    (small : data.length < 2 ^ 32) :
    readResponse Opcode.readMemory requestId (Report.memory requestId address data).payload =
      some (.memory requestId address data) := by
  rw [Report.payload, readResponse_status, if_neg (by decide), if_neg (by decide),
    if_pos ⟨rfl, rfl⟩]
  have bytes : readBytes data.length data = some (data, []) := by
    have read := readBytes_append [] data
    rwa [List.append_nil] at read
  simp only [readMemoryData, readU64_le64, readU32_le32, Option.bind_eq_bind, Option.bind_some,
    toNat_ofNat32 small, bytes, finished_nil]

theorem readRegisters_payload (requestId stopId : UInt32) {values : List RegisterValue}
    (small : values.length < 2 ^ 16) :
    readResponse Opcode.readRegisters requestId (Report.registers requestId stopId values).payload =
      some (.registers requestId stopId values) := by
  rw [Report.payload, readResponse_status, if_neg (by decide), if_neg (by decide),
    if_neg (by decide), if_pos ⟨rfl, rfl⟩]
  have read : readMany readRegister values.length (registerBytes values) = some (values, []) := by
    have read := registerBytes_read values []
    rwa [List.append_nil] at read
  simp only [readRegisterValues, readU32_le32, readU16_le16, readZeros_replicate,
    Option.bind_eq_bind, Option.bind_some, toNat_ofNat16 small, read, finished_nil]

theorem readStopped_payload (stop : StopReport) {values : List RegisterValue} {stack : List UInt8}
    (fewer : values.length < 2 ^ 16) (shorter : stack.length < 2 ^ 16) :
    readStopped (Report.stopped stop values stack).payload = some (.stopped stop values stack) := by
  have read := registerBytes_read values stack
  have bytes : readBytes stack.length stack = some (stack, []) := by
    have read := readBytes_append [] stack
    rwa [List.append_nil] at read
  rw [Report.payload, readStopped]
  apply (read_then (readU32_le32 _ _)).trans
  apply (read_then (readZeros_replicate _ 2)).trans
  apply (read_then (readU8_cons _ _)).trans
  apply (read_then (readZeros_replicate _ 1)).trans
  apply (read_then (readU32_le32 _ _)).trans
  apply (read_then (readU32_le32 _ _)).trans
  apply (read_then (readU64_le64 _ _)).trans
  apply (read_then (readU16_le16 _ _)).trans
  apply (read_then (readU16_le16 _ _)).trans
  apply (read_then (readU64_le64 _ _)).trans
  rw [toNat_ofNat16 fewer, toNat_ofNat16 shorter]
  apply (read_then read).trans
  apply (read_then bytes).trans
  rw [StopReason.ofValue_value]
  exact finished_nil _

theorem readLost_payload (reason : TargetLostReason) {padding : List UInt8}
    (padded : padding.length = 3) :
    readLost (Report.lost reason padding).payload = some (.lost reason padding) := by
  have bytes : readBytes 3 (padding ++ List.replicate 4 0) = some (padding,
      List.replicate 4 0) := by
    rw [← padded]
    exact readBytes_append _ padding
  have zeros : readZeros 4 (List.replicate 4 0) = some ((), []) := by
    have read := readZeros_replicate [] 4
    rwa [List.append_nil] at read
  simp only [Report.payload, readLost, List.cons_append, readU8_cons, Option.bind_eq_bind,
    Option.bind_some, bytes, zeros, TargetLostReason.ofValue_value, finished_nil]

/-- A frame that fits is read as the report it was made of. -/
theorem Report.readFrame_frame {r : Report} (fits : r.Fits) : readFrame r.frame = some r := by
  have size := fits.size
  rw [Report.frame, readFrame_sealMessage size]
  have response (kind : r.kind = MsgKind.response) : r.kind = MsgKind.response ∧ r.requestId ≠ 0 :=
    ⟨kind, fits.named kind⟩
  simp only [maxFrameSize, headerSize] at size
  cases r with
  | answer opcode requestId status =>
    rw [if_pos (response rfl)]
    exact readResponse_answer fits.consistent
  | attached requestId info =>
    rw [if_pos (response rfl)]
    apply readAttached_payload requestId fits.consistent
    simp only [Report.payload, List.length_append, List.length_cons] at size
    omega
  | state requestId target stopId =>
    rw [if_pos (response rfl)]
    exact readState_payload requestId target stopId
  | memory requestId address data =>
    rw [if_pos (response rfl)]
    apply readMemory_payload
    simp only [Report.payload, List.length_append] at size
    omega
  | registers requestId stopId values =>
    rw [if_pos (response rfl)]
    apply readRegisters_payload
    have count := length_le_registerBytes values
    simp only [Report.payload, List.length_append] at size
    omega
  | stopped stop values stack =>
    rw [if_neg (fun both => absurd both.1 (by decide : MsgKind.event ≠ MsgKind.response)),
      if_pos ⟨rfl, rfl⟩]
    have count := length_le_registerBytes values
    simp only [Report.payload, List.length_append, List.length_cons] at size
    exact readStopped_payload stop (by omega) (by omega)
  | lost reason padding =>
    rw [if_neg (fun both => absurd both.1 (by decide : MsgKind.event ≠ MsgKind.response)),
      if_pos ⟨rfl, rfl⟩]
    exact readLost_payload reason fits.consistent

end SidpClient
