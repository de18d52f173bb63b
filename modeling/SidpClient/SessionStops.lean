import SidpClient.SessionBreakpoints

/-! The stop pipeline: classification of a stop, its generation and its snapshot. -/
namespace SidpClient
open LittleEndian

namespace Dfsr
def halted : UInt32 := 0x1
def bkpt : UInt32 := 0x2
def dwtTrap : UInt32 := 0x4
def vCatch : UInt32 := 0x8
end Dfsr

structure StopClass where
  reason : StopReason
  breakpointId : UInt32 := 0
  watchpointAddress : UInt64 := 0
  stepOver : Option UInt64 := none

/-- The software breakpoint whose patch a stop observation names, if any. -/
def softwareHit (table : List SwBp) (stop : StopDetect) : Option SwBp :=
  if !stop.comparatorMatch && stop.dfsr &&& Dfsr.bkpt != 0 then
    swBpFindByHaltPc table stop.pc.toUInt64
  else none

/-- The priority chain of `enter_halted`. -/
def classifyStop (s : Session) (stop : StopDetect) : StopClass :=
  if stop.lockup then { reason := .lockup }
  else if stop.watchpointMatch ∨ stop.dfsr &&& Dfsr.dwtTrap ≠ 0 then
    { reason := .watchpoint, watchpointAddress := stop.watchpointAddress }
  else if s.runToActive ∧ stop.comparatorMatch ∧ stop.pc.toUInt64 = s.activeRunToAddress then
    { reason := .runToAddress }
  -- a BKPT was executed: the table says whether it is a patch of this session
  else if !stop.comparatorMatch ∧ stop.dfsr &&& Dfsr.bkpt ≠ 0 then
    match softwareHit s.swTable stop with
    | some sw => { reason := .breakpoint, breakpointId := sw.id, stepOver := some sw.address }
    | none => { reason := .breakpoint }
  -- a comparator is named by its place among the installed ones
  else if stop.comparatorMatch ∨ stop.dfsr &&& Dfsr.bkpt ≠ 0 then
    { reason := .breakpoint
      breakpointId :=
        if stop.comparatorMatch then (s.hwBreakpointIds[stop.comparatorIndex.toNat]?).getD 0 else
          0 }
  else if stop.fault then { reason := .fault }
  else if stop.dfsr &&& Dfsr.vCatch ≠ 0 then { reason := .vectorCatch }
  else if stop.dfsr &&& Dfsr.halted ≠ 0 ∧ s.runningAction = RunAction.singleStep then
    { reason := .singleStep }
  else { reason := .userHalt }

/-- The bytes of an available 4-byte register of the blob, with its offset. -/
def findRegister (blob : Buffer) (size : ℕ) (id : UInt16) : Option RegisterEntry :=
  (registerEntries blob size).find? fun entry =>
    entry.registerId == id && entry.valueSize == 4 && entry.flags &&& RegisterFlag.unavailable == 0

/-- `normalize_pc_in_register_blob` on a blob that starts at an offset of the buffer. -/
def normalizePcInRegisterBlob (s : Session) (buffer : Buffer) (base size : ℕ) : Buffer :=
  if !s.swStepOverPending then buffer
  else
    match findRegister (fun i => buffer (base + i)) size armRegPc with
    | some entry =>
      buffer.write (base + entry.offset + registerValueSize) (le32 s.swStepOverAddress.toUInt32)
    | none => buffer

/-- The readable RAM region a stack snapshot is clipped to. -/
def stackRegion (regions : List MemoryRegion) (sp : UInt32) : Option MemoryRegion :=
  regions.find? fun candidate =>
    candidate.type == MemoryType.ram && candidate.has MemFlag.read &&
      -- a region whose end would wrap is passed over
      !(candidate.start > uint64Max - candidate.length) &&
      (sp.toUInt64 ≥ candidate.start && sp.toUInt64 < candidate.start + candidate.length)

/-- Start and size of the window `[SP - 64, SP + 512)`, clipped to the region and to the bytes the
frame has left behind the registers. -/
def stackWindow (region : MemoryRegion) (sp : UInt32) (registersSize : ℕ) : Option (UInt64 × ℕ) :=
  let regionEnd := region.start + region.length
  -- an SP below the margin clamps to 0
  let start := if sp > stackSnapshotBelow then sp.toUInt64 - stackSnapshotBelow.toUInt64 else 0
  let stop := sp.toUInt64 + stackSnapshotAbove.toUInt64
  let start := if start < region.start then region.start else start
  let stop := if stop > regionEnd then regionEnd else stop
  if stop ≤ start then none
  else
    let size := (stop - start).toNat
    let capacity := snapshotBlobCapacity - registersSize
    some (start, if size > capacity then capacity else size)

def captureStackSnapshot : SessionM Unit := do
  let s ← getSession
  match findRegister s.pendingRegisters s.pendingRegistersSize armRegSp with
  | none => return
  | some entry =>
    let sp := getU32 (s.pendingRegisters.read (entry.offset + registerValueSize) 4) 0
    match stackRegion s.regions sp with
    | none => return
    | some region =>
      match stackWindow region sp s.pendingRegistersSize with
      | none => return
      | some (start, size) =>
        let answer ← backend (.readMem .stack start size MemWidth.default)
        -- the backend writes behind the registers, whatever it then returns
        updateSession fun s =>
          { s with
            pendingRegisters :=
              s.pendingRegisters.write s.pendingRegistersSize (answer.data.take size) }
        if answer.code ≠ .ok then
          return
        updateSession fun s => { s with pendingStackAddress := start, pendingStackSize := size }

/-- The register and stack part of `enter_halted`. -/
def captureSnapshot : SessionM Unit := do
  let s ← getSession
  if s.hasCapability Cap.stopSnapshot then
    let answer ← backend (.readRegs [] snapshotBlobCapacity)
    updateSession fun s =>
      { s with
        pendingRegisters := s.pendingRegisters.write 0 (answer.data.take snapshotBlobCapacity) }
    if answer.code = .ok ∧ answer.outSize ≤ snapshotBlobCapacity then
      updateSession fun s =>
        { s with
          pendingRegistersSize := answer.outSize
          pendingRegisters := normalizePcInRegisterBlob s s.pendingRegisters 0 answer.outSize }
      captureStackSnapshot

/-- The step-over a stop asks for, and its generation. -/
def Session.nextStop (s : Session) (hit : StopClass) : Session :=
  { s with
    swStepOverPending := hit.stepOver.isSome
    swStepOverAddress := hit.stepOver.getD 0
    stopId := s.stopId + 1 }

/-- The pending report of a stop, before its snapshot. -/
def Session.stoppedWith (s : Session) (stop : StopDetect) (hit : StopClass) : Session :=
  { s with
    state := .halted, stopReported := false, pendingReason := hit.reason,
    pendingDetail := stop.dfsr, pendingBreakpointId := hit.breakpointId,
    pendingWatchpointAddress := hit.watchpointAddress, pendingRegistersSize := 0,
    pendingStackSize := 0, pendingStackAddress := 0, runningAction := RunAction.continueRun,
    runToActive := false, activeRunToAddress := 0 }

def enterHalted (stop : StopDetect) : SessionM Unit := do
  let s ← getSession
  if s.state = .lost then
    return
  let hit := classifyStop s stop
  updateSession (·.nextStop hit)
  if s.stopId + 1 = 0 then
    enterLost .timeout -- generation wrap
    return
  updateSession (·.stoppedWith stop hit)
  captureSnapshot

/-- The observation tail of RUN and of a poll: a failed poll loses the target, a halt is
reported. -/
def pollStop : SessionM Unit := do
  let answer ← backend .pollHalted
  if answer.code ≠ .ok then
    enterLost (lostReason answer.code)
  else if answer.stop.halted then
    enterHalted answer.stop
    emitPendingStopped

end SidpClient
