import SidpClient.LittleEndianBuffer

/-! Constants, enumerations and wire layouts of `sidp_defs.hpp`. A field the peer fills may hold
any value of its underlying type, so such an enumeration is that integer type with named values;
one only the session fills is an inductive type. -/
namespace SidpClient
open LittleEndian

def protocolVersion : UInt8 := 1
def maxFrameSize : ℕ := 8192
def headerSize : ℕ := 12

namespace MsgKind
def request : UInt8 := 1
def response : UInt8 := 2
def event : UInt8 := 3
def logStream : UInt8 := 4
end MsgKind

namespace Opcode
def attach : UInt16 := 0x0001
def detach : UInt16 := 0x0002
def getState : UInt16 := 0x0003
def readMemory : UInt16 := 0x0010
def writeMemory : UInt16 := 0x0012
def readRegisters : UInt16 := 0x0013
def writeRegisters : UInt16 := 0x0014
def run : UInt16 := 0x0020
def halt : UInt16 := 0x0021
def resetHalt : UInt16 := 0x0022
def resetRun : UInt16 := 0x0023
def stopped : UInt16 := 0x0080
def targetLost : UInt16 := 0x0081
end Opcode

/-- `status_t`, as far as the session answers it. -/
inductive Status where
  | ok | error | invalidArgument | unsupported | busy | timeout
  | targetRunning | targetHalted | targetLost | staleStop
  | swdError | addressError | noBreakpointSlot | noWatchpointSlot | alignmentError
deriving DecidableEq, Repr

def Status.value : Status → UInt32
  | .ok => 0 | .error => 1 | .invalidArgument => 2 | .unsupported => 3 | .busy => 4 | .timeout => 5
  | .targetRunning => 10 | .targetHalted => 11 | .targetLost => 12 | .staleStop => 13
  | .swdError => 20 | .addressError => 21 | .noBreakpointSlot => 22 | .noWatchpointSlot => 23
  | .alignmentError => 24

theorem Status.value_injective : Function.Injective Status.value := by
  intro a b h
  cases a <;> cases b <;> first | rfl | exact absurd h (by decide)

namespace Cap
def stopSnapshot : UInt32 := 0x0001
def softwareBp : UInt32 := 0x0004
def hardwareBp : UInt32 := 0x0008
def watchpoint : UInt32 := 0x0010
def singleStep : UInt32 := 0x0020
def resetHalt : UInt32 := 0x0040
def fpu : UInt32 := 0x0200
def resetSystem : UInt32 := 0x0400
def resetNrst : UInt32 := 0x0800
def resetRun : UInt32 := 0x1000
end Cap

namespace MemoryType
def ram : UInt8 := 1
def flash : UInt8 := 2
def mmio : UInt8 := 3
end MemoryType

namespace MemFlag
def read : UInt8 := 0x01
def write : UInt8 := 0x02
def execute : UInt8 := 0x04
end MemFlag

inductive TargetState where
  | detached | halted | running | lost
deriving DecidableEq, Repr

def TargetState.value : TargetState → UInt8
  | .detached => 0 | .halted => 1 | .running => 2 | .lost => 3

namespace RegisterFlag
def none : UInt8 := 0
def unavailable : UInt8 := 1
end RegisterFlag

def armRegSp : UInt16 := 0x000D
def armRegPc : UInt16 := 0x000F

namespace MemAccess
def requireHalted : UInt16 := 0x0001
def allowRunning : UInt16 := 0x0002
def allowMmio : UInt16 := 0x0004
end MemAccess

namespace MemWidth
def default : UInt8 := 0
def width8 : UInt8 := 1
def width16 : UInt8 := 2
def width32 : UInt8 := 4
end MemWidth

namespace BreakpointKind
def hardware : UInt8 := 1
def software : UInt8 := 2
end BreakpointKind

namespace WatchAccess
def read : UInt8 := 1
def write : UInt8 := 2
def readWrite : UInt8 := 3
end WatchAccess

namespace RunAction
def continueRun : UInt8 := 1
def singleStep : UInt8 := 2
def toAddress : UInt8 := 3
end RunAction

namespace ResetKind
def system : UInt8 := 1
def nrst : UInt8 := 2
end ResetKind

namespace DetachAction
def keepHalted : UInt8 := 1
def resume : UInt8 := 2
end DetachAction

inductive StopReason where
  | unknown | breakpoint | watchpoint | singleStep | userHalt | vectorCatch | fault | reset
  | lockup | runToAddress
deriving DecidableEq, Repr

def StopReason.value : StopReason → UInt8
  | .unknown => 0 | .breakpoint => 1 | .watchpoint => 2 | .singleStep => 3 | .userHalt => 4
  | .vectorCatch => 5 | .fault => 6 | .reset => 7 | .lockup => 8 | .runToAddress => 9

/-- `target_lost_reason_t`, as far as the session sends it. -/
inductive TargetLostReason where
  | swdFault | timeout
deriving DecidableEq, Repr

def TargetLostReason.value : TargetLostReason → UInt8
  | .swdFault => 1 | .timeout => 4

/-! Sizes of the fixed wire structures. -/

def responsePrefixSize : ℕ := 4
def memoryRegionSize : ℕ := 20
def attachRequestSize : ℕ := 8
def attachResponseSize : ℕ := 32
def getStateResponseSize : ℕ := 12
def registerValueSize : ℕ := 4
def readRegistersRequestSize : ℕ := 8
def readRegistersResponseSize : ℕ := 12
def writeRegistersRequestSize : ℕ := 8
def readMemoryRequestSize : ℕ := 20
def readMemoryResponseSize : ℕ := 16
def writeMemoryRequestSize : ℕ := 20
def breakpointSize : ℕ := 16
def watchpointSize : ℕ := 16
def runRequestSize : ℕ := 24
def resetRequestSize : ℕ := 4
def detachRequestSize : ℕ := 4
def stoppedEventSize : ℕ := 36
def targetLostEventSize : ℕ := 8

structure MsgHeader where
  version : UInt8
  kind : UInt8
  opcode : UInt16
  requestId : UInt32

def MsgHeader.parse (message : List UInt8) : MsgHeader where
  version := getU8 message 0
  kind := getU8 message 1
  opcode := getU16 message 2
  requestId := getU32 message 4

structure MemoryRegion where
  start : UInt64
  length : UInt64
  type : UInt8
  flags : UInt8
deriving DecidableEq, Repr

def MemoryRegion.parse (bytes : List UInt8) : MemoryRegion where
  start := getU64 bytes 0
  length := getU64 bytes 8
  type := getU8 bytes 16
  flags := getU8 bytes 17

/-- `read_memory_request_t`, which is also the prefix of `write_memory_request_t`. -/
structure MemoryRequest where
  stopId : UInt32
  address : UInt64
  length : UInt32
  flags : UInt16
  accessWidth : UInt8
deriving DecidableEq, Repr

def MemoryRequest.parse (payload : List UInt8) : MemoryRequest where
  stopId := getU32 payload 0
  address := getU64 payload 4
  length := getU32 payload 12
  flags := getU16 payload 16
  accessWidth := getU8 payload 18

/-- Prefix shared by `read_registers_request_t` and `write_registers_request_t`. -/
structure RegistersRequest where
  stopId : UInt32
  coreId : UInt16
  registerCount : UInt16
deriving DecidableEq, Repr

def RegistersRequest.parse (payload : List UInt8) : RegistersRequest where
  stopId := getU32 payload 0
  coreId := getU16 payload 4
  registerCount := getU16 payload 6

structure RunRequest where
  stopId : UInt32
  coreId : UInt16
  action : UInt8
  vectorCatchMask : UInt32
  runToAddress : UInt64
  breakpointCount : UInt16
  watchpointCount : UInt16
deriving DecidableEq, Repr

def RunRequest.parse (payload : List UInt8) : RunRequest where
  stopId := getU32 payload 0
  coreId := getU16 payload 4
  action := getU8 payload 6
  vectorCatchMask := getU32 payload 8
  runToAddress := getU64 payload 12
  breakpointCount := getU16 payload 20
  watchpointCount := getU16 payload 22

structure Breakpoint where
  breakpointId : UInt32
  address : UInt64
  kind : UInt8
  instructionSize : UInt8
  enabled : UInt8
  temporary : UInt8
deriving DecidableEq, Repr

def Breakpoint.parse (bytes : List UInt8) : Breakpoint where
  breakpointId := getU32 bytes 0
  address := getU64 bytes 4
  kind := getU8 bytes 12
  instructionSize := getU8 bytes 13
  enabled := getU8 bytes 14
  temporary := getU8 bytes 15

structure Watchpoint where
  watchpointId : UInt32
  address : UInt64
  access : UInt8
  size : UInt8
  enabled : UInt8
deriving DecidableEq, Repr

def Watchpoint.parse (bytes : List UInt8) : Watchpoint where
  watchpointId := getU32 bytes 0
  address := getU64 bytes 4
  access := getU8 bytes 12
  size := getU8 bytes 13
  enabled := getU8 bytes 14

/-- `count` consecutive structures of `size` bytes each. -/
def parseTable {α : Type} (parse : List UInt8 → α) (size : ℕ) (bytes : List UInt8) (count : ℕ) :
    List α :=
  (List.range count).map fun index => parse (slice bytes (index * size) size)

/-- One `register_value_t` entry of a register blob, at its offset. -/
structure RegisterEntry where
  offset : ℕ
  registerId : UInt16
  valueSize : UInt8
  flags : UInt8
deriving DecidableEq, Repr

def RegisterEntry.size (entry : RegisterEntry) : ℕ := registerValueSize + entry.valueSize.toNat

def registerEntryAt (blob : Buffer) (offset : ℕ) : RegisterEntry where
  offset := offset
  registerId := getU16 (blob.read offset 2) 0
  valueSize := blob (offset + 2)
  flags := blob (offset + 3)

/-- The walk all register-blob loops make: whole entries from `offset` on, up to the first one
that does not fit `size`. An entry has at least four bytes, so `fuel = size` reaches the end. -/
def registerEntriesFrom (blob : Buffer) (size : ℕ) : ℕ → ℕ → List RegisterEntry
  | 0, _ => []
  | fuel + 1, offset =>
    if offset + registerValueSize ≤ size then
      let entry := registerEntryAt blob offset
      if offset + entry.size > size then []
      else entry :: registerEntriesFrom blob size fuel (offset + entry.size)
    else []

def registerEntries (blob : Buffer) (size : ℕ) : List RegisterEntry :=
  registerEntriesFrom blob size size 0

end SidpClient
