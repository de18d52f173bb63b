import SidpClient.BackendInterface
import SidpClient.MessageCrc

/-! The fields of `sidp_session` after a successful `init()`, its gating table, and the checks
that only read fields. -/
namespace SidpClient
open LittleEndian

def maxSoftwareBreakpoints : ℕ := 32
def maxHardwareBreakpoints : ℕ := 16
def maxHardwareWatchpoints : ℕ := 16
def defaultMaxMemoryTransfer : UInt32 := 4096
def maxMemoryTransferLimit : ℕ := maxFrameSize - headerSize - writeMemoryRequestSize
def maxMemoryRegions : ℕ := 64
def stackSnapshotBelow : UInt32 := 64
def stackSnapshotAbove : UInt32 := 512
def haltTimeoutMs : ℕ := 3000
def snapshotBlobCapacity : ℕ := maxFrameSize - headerSize - stoppedEventSize

/-- One entry of the software breakpoint shadow table. -/
structure SwBp where
  id : UInt32
  address : UInt64
  instructionSize : UInt8
  installed : Bool
  original : List UInt8
deriving DecidableEq, Repr

/-- The first `sw_count`, `hw_count` and `region_count` elements of the session's arrays are
lists; what lies behind a count is never read. -/
structure Session where
  state : TargetState := .detached
  stopId : UInt32 := 0
  stopReported : Bool := false
  attached : Bool := false
  transportDead : Bool := false
  capabilities : UInt32 := 0
  supportedVectorCatch : UInt32 := 0
  hardwareBreakpointLimit : UInt16 := 0
  hardwareWatchpointLimit : UInt16 := 0
  maxMemoryTransfer : UInt32 := defaultMaxMemoryTransfer
  runningAction : UInt8 := RunAction.continueRun
  runToActive : Bool := false
  activeRunToAddress : UInt64 := 0
  hwBreakpointIds : List UInt32 := []
  swStepOverPending : Bool := false
  swStepOverAddress : UInt64 := 0
  scratch : Buffer := Buffer.zero
  txFrameSize : ℕ := 0
  pendingReason : StopReason := .unknown
  pendingDetail : UInt32 := 0
  pendingBreakpointId : UInt32 := 0
  pendingWatchpointAddress : UInt64 := 0
  pendingRegisters : Buffer := Buffer.zero
  pendingRegistersSize : ℕ := 0
  pendingStackAddress : UInt64 := 0
  pendingStackSize : ℕ := 0
  regions : List MemoryRegion := []
  swTable : List SwBp := []

/-! Backend calls and frames offered to the sink are the session's questions to its environment.
The session as it stands at a call is part of the record of that call. -/

inductive Effect where
  | call (session : Session) (c : Call)
  | offer (frame : List UInt8)

abbrev Reply : Effect → Type
  | .call _ _ => Answer
  | .offer _ => Bool

abbrev SessionEvent := Interactive.Event Effect Reply
abbrev SessionHistory := Interactive.History Effect Reply
abbrev SessionM := Interactive.Action Session Effect Reply
abbrev SessionEnvironment (T : Type) := Interactive.Environment T Effect Reply
abbrev SessionWorld (T : Type) := Interactive.World Session T Effect Reply

def getSession : SessionM Session := Interactive.Action.get

def updateSession (f : Session → Session) : SessionM Unit := Interactive.Action.modify f

/-- One method call on the backend. -/
def backend (c : Call) : SessionM Answer := fun s => .ask (.call s c) fun a => .done (a, s)

/-- One call of `tx_sink`; the reply is whether the sink accepts the frame. -/
def txSink (frame : List UInt8) : SessionM Bool :=
  fun s => .ask (.offer frame) fun b => .done (b, s)

/-! The gate of section 7.1. -/

inductive GateType where
  | allow | attachBusy | detachedError | runningDeny | lost
deriving DecidableEq, Repr

inductive GateColumn where
  | attach | detach | getState | readMem | writeMem | readRegs | writeRegs | run | halt | reset
deriving DecidableEq, Repr

/-- The opcodes `handle_request` dispatches on. -/
inductive RequestOp where
  | attach | detach | getState | readMemory | writeMemory | readRegisters | writeRegisters
  | run | halt | resetHalt | resetRun
deriving DecidableEq, Repr

def RequestOp.opcode : RequestOp → UInt16
  | .attach => Opcode.attach
  | .detach => Opcode.detach
  | .getState => Opcode.getState
  | .readMemory => Opcode.readMemory
  | .writeMemory => Opcode.writeMemory
  | .readRegisters => Opcode.readRegisters
  | .writeRegisters => Opcode.writeRegisters
  | .run => Opcode.run
  | .halt => Opcode.halt
  | .resetHalt => Opcode.resetHalt
  | .resetRun => Opcode.resetRun

def requestOps : List RequestOp :=
  [.attach, .detach, .getState, .readMemory, .writeMemory, .readRegisters, .writeRegisters,
    .run, .halt, .resetHalt, .resetRun]

/-- The `switch` over `header.opcode`; `none` is its default. -/
def requestOp (opcode : UInt16) : Option RequestOp :=
  requestOps.find? fun op => op.opcode == opcode

def gateColumn : RequestOp → GateColumn
  | .attach => .attach
  | .detach => .detach
  | .getState => .getState
  | .readMemory => .readMem
  | .writeMemory => .writeMem
  | .readRegisters => .readRegs
  | .writeRegisters => .writeRegs
  | .run => .run
  | .halt => .halt
  | .resetHalt => .reset
  | .resetRun => .reset

def gateTable : TargetState → GateColumn → GateType
  | .detached, .attach => .allow
  | .detached, .getState => .allow
  | .detached, _ => .detachedError
  | .halted, .attach => .attachBusy
  | .halted, _ => .allow
  | .running, .attach => .attachBusy
  | .running, .readRegs => .runningDeny
  | .running, .writeRegs => .runningDeny
  | .running, .run => .runningDeny
  | .running, _ => .allow
  | .lost, .getState => .allow
  | .lost, _ => .lost

theorem requestOp_opcode (op : RequestOp) : requestOp op.opcode = some op := by
  cases op <;> decide

theorem opcode_of_requestOp {opcode : UInt16} {op : RequestOp} (h : requestOp opcode = some op) :
    opcode = op.opcode := by
  have hf := List.find?_some h
  exact (by simpa using hf : op.opcode = opcode).symm

/-! Field updates the source groups in helpers. -/

namespace Session

def hasCapability (s : Session) (cap : UInt32) : Bool := s.capabilities &&& cap != 0

def clearDebugState (s : Session) : Session :=
  { s with
    stopReported := false, pendingReason := .unknown, pendingDetail := 0,
    pendingBreakpointId := 0, pendingWatchpointAddress := 0, pendingRegistersSize := 0,
    pendingStackSize := 0, pendingStackAddress := 0, swStepOverPending := false,
    swStepOverAddress := 0 }

def clearRunTracking (s : Session) : Session :=
  { s with
    runningAction := RunAction.continueRun, runToActive := false, activeRunToAddress := 0,
    hwBreakpointIds := [] }

end Session

/-! Memory access validation (section 9). Comparisons are those of unsigned 64-bit numbers. -/

def uint64Max : UInt64 := 0xFFFFFFFFFFFFFFFF

/-- The candidates a request can lie in: regions that do not wrap and contain the whole range. -/
def MemoryRegion.contains (region : MemoryRegion) (address size : UInt64) : Bool :=
  !(region.start > uint64Max - region.length) &&
    (address ≥ region.start && address + size ≤ region.start + region.length)

def MemoryRegion.has (region : MemoryRegion) (flag : UInt8) : Bool := region.flags &&& flag != 0

def isExplicitWidth (width : UInt8) : Bool :=
  width == MemWidth.width8 || width == MemWidth.width16 || width == MemWidth.width32

def validateMemoryAccess (regions : List MemoryRegion) (address : UInt64) (length : UInt32)
    (flags : UInt16) (width : UInt8) (isWrite : Bool) : Status :=
  if length = 0 ∨ address > uint64Max - length.toUInt64 then .addressError
  else
    match regions.find? (·.contains address length.toUInt64) with
    | none => .addressError
    | some region =>
      if region.type = MemoryType.flash ∧ isWrite then .unsupported
      else if !region.has (if isWrite then MemFlag.write else MemFlag.read) then .addressError
      else if region.type = MemoryType.mmio then
        if flags &&& MemAccess.allowMmio = 0 then .addressError
        else if !isExplicitWidth width then .invalidArgument
        else if length ≠ width.toUInt32 then .invalidArgument
        else if address % width.toUInt64 ≠ 0 then .alignmentError
        else .ok
      else if width ≠ MemWidth.default then
        if !isExplicitWidth width then .invalidArgument
        else if address % width.toUInt64 ≠ 0 ∨ length % width.toUInt32 ≠ 0 then .alignmentError
        else .ok
      else .ok

def MemoryRegion.executable (region : MemoryRegion) (requireWritable : Bool) : Bool :=
  region.has MemFlag.execute &&
    (!requireWritable ||
      (region.type == MemoryType.ram && region.has MemFlag.read && region.has MemFlag.write))

def isExecutableRange (regions : List MemoryRegion) (address size : UInt64)
    (requireWritable : Bool) : Bool :=
  if size = 0 ∨ address > uint64Max - size then false
  else regions.any fun region =>
    region.contains address size && region.executable requireWritable

/-! The shadow table. -/

namespace SwBp

def stop (entry : SwBp) : UInt64 := entry.address + entry.instructionSize.toUInt64

def install (entry : SwBp) : SwBp := { entry with installed := true }

def uninstall (entry : SwBp) : SwBp := { entry with installed := false }

/-- The saved bytes a restoring write sends. -/
def originalBytes (entry : SwBp) : List UInt8 := entry.original.take entry.instructionSize.toNat

end SwBp

def bkptPatch : List UInt8 := [0x00, 0xBE]

/-- Bytes from `address` on, where those inside `[start, stop)` are replaced by `bytes`. -/
def overlay (address : UInt64) (data : List UInt8) (start stop : UInt64) (bytes : List UInt8) :
    List UInt8 :=
  if stop ≤ address ∨ address + UInt64.ofNat data.length ≤ start then data
  else data.mapIdx fun offset byte =>
    let absolute := address + UInt64.ofNat offset
    if absolute ≥ start ∧ absolute < stop then bytes.getD (absolute - start).toNat byte else byte

/-- `sw_bp_substitute_read`: what a reader may see of bytes read from the target. -/
def swBpSubstituteRead (table : List SwBp) (address : UInt64) (data : List UInt8) : List UInt8 :=
  table.foldl (fun data entry =>
    if entry.installed then overlay address data entry.address entry.stop entry.original
    else data) data

/-- The image `op_write_memory` sends: installed patches keep their first halfword. -/
def writeImage (table : List SwBp) (address : UInt64) (data : List UInt8) : List UInt8 :=
  table.foldl (fun image entry =>
    if entry.installed then overlay address image entry.address (entry.address + 2) bkptPatch
    else image) data

/-- `sw_bp_write_overlap` on one entry: written bytes inside its interval become its original. -/
def SwBp.absorb (entry : SwBp) (address : UInt64) (data : List UInt8) : SwBp :=
  if !entry.installed then entry
  else if entry.stop ≤ address ∨ address + UInt64.ofNat data.length ≤ entry.address then entry
  else
    { entry with
      original := (List.range data.length).foldl (fun original offset =>
        let absolute := address + UInt64.ofNat offset
        if absolute ≥ entry.address ∧ absolute < entry.stop then
          original.set (absolute - entry.address).toNat (data.getD offset 0)
        else original) entry.original }

def swBpWriteOverlap (table : List SwBp) (address : UInt64) (data : List UInt8) : List SwBp :=
  table.map fun entry => entry.absorb address data

def swBpFindByAddress (table : List SwBp) (address : UInt64) : Option ℕ :=
  table.findIdx? fun entry => entry.address == address

/-- `sw_bp_find_by_address` as far as an installed entry is wanted. -/
def swBpFindInstalled (table : List SwBp) (address : UInt64) : Option SwBp :=
  match swBpFindByAddress table address with
  | some index => table[index]?.filter (·.installed)
  | none => none

def swBpFindByHaltPc (table : List SwBp) (pc : UInt64) : Option SwBp :=
  match (if pc ≥ 2 then swBpFindInstalled table (pc - 2) else none) with
  | some entry => some entry
  | none => swBpFindInstalled table pc

end SidpClient
