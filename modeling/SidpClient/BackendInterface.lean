import SidpClient.InteractiveProgram
import SidpClient.WireDefinitions

/-! `target_backend_t`: the calls the session makes on the hardware target and what it reads from
them. A label says for which purpose memory is accessed; no modelled function reads it. -/
namespace SidpClient

/-- `esp_err_t`, as far as the session distinguishes its values. -/
inductive EspErr where
  | ok | fail | timeout | other
deriving DecidableEq, Repr

structure AttachParams where
  connectUnderReset : Bool
  haltAfterAttach : Bool
deriving DecidableEq, Repr

structure AttachInfo where
  architecture : UInt8 := 1
  profile : UInt8 := 3
  addressWidth : UInt8 := 32
  capabilities : UInt32 := 0
  targetId : UInt32 := 0
  cpuId : UInt32 := 0
  supportedVectorCatchMask : UInt32 := 0
  hardwareBreakpoints : UInt16 := 0
  hardwareWatchpoints : UInt16 := 0
  maxMemoryTransfer : UInt16 := 0
  memoryRegions : List UInt8 := []
deriving DecidableEq

structure StopDetect where
  halted : Bool := false
  dfsr : UInt32 := 0
  lockup : Bool := false
  pc : UInt32 := 0
  comparatorMatch : Bool := false
  comparatorIndex : UInt8 := 0
  watchpointMatch : Bool := false
  watchpointAddress : UInt64 := 0
  fault : Bool := false
deriving DecidableEq, Repr

structure BpEntry where
  breakpointId : UInt32
  address : UInt64
  kind : UInt8
  instructionSize : UInt8
  temporary : UInt8
deriving DecidableEq, Repr

structure WpEntry where
  watchpointId : UInt32
  address : UInt64
  access : UInt8
  size : UInt8
deriving DecidableEq, Repr

/-- Why the session accesses target memory: for a request with these flags (and, when it writes,
these bytes), to save an instruction, to patch it, to put it back, or for a stack snapshot. -/
inductive Access where
  | request (flags : UInt16) (data : List UInt8)
  | original
  | patch
  | restore
  | stack
deriving DecidableEq, Repr

inductive Call where
  | attach (params : AttachParams)
  | detach (action : UInt8)
  | reset (kind : UInt8) (haltAfter : Bool)
  | pollHalted
  | halt (timeoutMs : ℕ)
  | resume (action : UInt8) (address : UInt64)
  | readRegs (ids : List UInt16) (capacity : ℕ)
  | writeRegs (data : List UInt8)
  | readMem (access : Access) (address : UInt64) (size : ℕ) (width : UInt8)
  | writeMem (access : Access) (address : UInt64) (data : List UInt8) (width : UInt8)
  | applyBreakpoints (entries : List BpEntry)
  | applyWatchpoints (entries : List WpEntry)
  | setVectorCatch (mask : UInt32)
deriving DecidableEq, Repr

/-- What a call gives back: its result and the out-parameters the called method has. -/
structure Answer where
  code : EspErr := .ok
  stop : StopDetect := {}
  data : List UInt8 := []
  outSize : ℕ := 0
  info : AttachInfo := {}
deriving DecidableEq

end SidpClient
