import SidpClient.SessionStops

/-! The request handlers, the poll, the disconnect cleanup and the dispatch. Each handler first
decides from its payload and the session's fields whether it acts, in the order of the source. -/
namespace SidpClient
open LittleEndian

/-! ATTACH, DETACH and GET_STATE. -/

def handledCapabilities : UInt32 :=
  Cap.stopSnapshot ||| Cap.softwareBp ||| Cap.hardwareBp ||| Cap.watchpoint ||| Cap.singleStep |||
    Cap.resetHalt ||| Cap.resetSystem ||| Cap.resetNrst ||| Cap.resetRun ||| Cap.fpu

/-- `caps &= ~cap` when the capability is set and its resource is missing. -/
def stripUnless (cap : UInt32) (usable : Bool) (caps : UInt32) : UInt32 :=
  if caps &&& cap ≠ 0 ∧ !usable then caps &&& ~~~cap else caps

def normalizeAttachInfo (info : AttachInfo) : AttachInfo :=
  let caps := info.capabilities &&& handledCapabilities
  let hwBp := if info.hardwareBreakpoints > UInt16.ofNat maxHardwareBreakpoints then
    UInt16.ofNat maxHardwareBreakpoints else info.hardwareBreakpoints
  let hwWp := if info.hardwareWatchpoints > UInt16.ofNat maxHardwareWatchpoints then
    UInt16.ofNat maxHardwareWatchpoints else info.hardwareWatchpoints
  let caps := stripUnless Cap.hardwareBp (hwBp ≠ 0) caps
  let caps := stripUnless Cap.watchpoint (hwWp ≠ 0) caps
  let hwBp := if caps &&& Cap.hardwareBp = 0 then 0 else hwBp
  let hwWp := if caps &&& Cap.watchpoint = 0 then 0 else hwWp
  let caps := stripUnless Cap.softwareBp (caps &&& Cap.singleStep ≠ 0) caps
  let resetMethods := Cap.resetSystem ||| Cap.resetNrst
  let caps := stripUnless Cap.resetHalt (caps &&& resetMethods ≠ 0) caps
  let caps := stripUnless Cap.resetRun (caps &&& resetMethods ≠ 0) caps
  let maxXfer := if info.maxMemoryTransfer = 0 then defaultMaxMemoryTransfer.toUInt16
    else info.maxMemoryTransfer
  let maxXfer := if maxXfer > UInt16.ofNat maxMemoryTransferLimit then
    UInt16.ofNat maxMemoryTransferLimit else maxXfer
  { info with
    capabilities := caps
    hardwareBreakpoints := hwBp
    hardwareWatchpoints := hwWp
    maxMemoryTransfer := maxXfer }

/-- The fields `op_attach` sets from a normalized report before it copies the memory map. -/
def Session.attachedWith (s : Session) (info : AttachInfo) : Session :=
  { s.clearDebugState.clearRunTracking with
    attached := true
    capabilities := info.capabilities
    hardwareBreakpointLimit := info.hardwareBreakpoints
    hardwareWatchpointLimit := info.hardwareWatchpoints
    maxMemoryTransfer := info.maxMemoryTransfer.toUInt32
    supportedVectorCatch := info.supportedVectorCatchMask
    stopId := 0
    swTable := []
    regions := [] }

/-- The fields a completed detach leaves. -/
def Session.detachedState (s : Session) : Session :=
  { s.clearDebugState.clearRunTracking with attached := false, state := .detached, stopId := 0 }

def handleDisconnect : SessionM Bool := do
  updateSession fun s => { s with transportDead := true }
  let s ← getSession
  if !s.attached then
    return true
  let answer ← backend (.halt haltTimeoutMs)
  if answer.code ≠ .ok ∨ !answer.stop.halted then
    updateSession fun s => { s with state := .lost }
    return false
  if !(← swBpRestoreAll) then
    updateSession fun s => { s with state := .lost }
    return false
  let detached ← backend (.detach DetachAction.keepHalted)
  if detached.code ≠ .ok then
    updateSession fun s => { s with state := .lost }
    return false
  updateSession Session.detachedState
  return true

def wellFormedMap (blob : List UInt8) : Bool :=
  blob.length % memoryRegionSize == 0 && blob.length / memoryRegionSize ≤ maxMemoryRegions

def parseMap (blob : List UInt8) : List MemoryRegion :=
  parseTable MemoryRegion.parse memoryRegionSize blob (blob.length / memoryRegionSize)

def attachResponseBytes (info : AttachInfo) : List UInt8 :=
  le32 Status.ok.value ++ [info.architecture, info.profile, info.addressWidth, 0] ++
    le32 info.capabilities ++ le32 info.targetId ++ le32 info.cpuId ++
    le32 info.supportedVectorCatchMask ++ le16 info.hardwareBreakpoints ++
    le16 info.hardwareWatchpoints ++
    le16 (UInt16.ofNat (info.memoryRegions.length / memoryRegionSize)) ++ le16
      info.maxMemoryTransfer

/-- The halt snapshot behind an ATTACH response. -/
def haltAfterAttach : SessionM Unit := do
  let polled ← backend .pollHalted
  if polled.code ≠ .ok then
    enterLost (lostReason polled.code)
    return
  if polled.stop.halted then
    enterHalted polled.stop
  else
    let halted ← backend (.halt haltTimeoutMs)
    if halted.code = .ok then
      enterHalted halted.stop
    else
      if halted.code = .fail then
        enterLost .swdFault
        return
      -- Halt not confirmed: keep polling instead of guessing.
      updateSession fun s => { s with state := .running }
      return
  emitPendingStopped

def opAttach (requestId : UInt32) (payload : List UInt8) : SessionM Unit := do
  let s ← getSession
  if s.attached then
    respond Opcode.attach requestId .busy
    return
  if payload.length ≠ attachRequestSize then
    respond Opcode.attach requestId .invalidArgument
    return
  let params : AttachParams := ⟨getU8 payload 4 != 0, getU8 payload 5 != 0⟩
  let answer ← backend (.attach params)
  if answer.code ≠ .ok then
    sendBackendFailure Opcode.attach requestId answer.code .swdError
    return
  let info := normalizeAttachInfo answer.info
  -- the target is owned from here on: what fails below goes through the disconnect path
  updateSession (·.attachedWith info)
  if !wellFormedMap info.memoryRegions then
    respond Opcode.attach requestId .error
    let _ ← handleDisconnect
    return
  updateSession fun s => { s with regions := parseMap info.memoryRegions }
  if !(← beginFrame MsgKind.response Opcode.attach requestId
      (attachResponseSize + info.memoryRegions.length)) then
    respond Opcode.attach requestId .error
    let _ ← handleDisconnect
    return
  writePayload 0 (attachResponseBytes info)
  writePayload attachResponseSize info.memoryRegions
  if !(← finishFrame) then
    return
  if params.haltAfterAttach then
    haltAfterAttach
  else
    updateSession fun s => { s with state := .running }

/-- The internal halt of DETACH from RUNNING, which is not reported. False when it failed. -/
def haltForDetach (requestId : UInt32) : SessionM Bool := do
  let s ← getSession
  if s.state ≠ .running then
    return true
  let answer ← backend (.halt haltTimeoutMs)
  if answer.code ≠ .ok then
    sendBackendFailure Opcode.detach requestId answer.code .timeout
    return false
  -- A breakpoint may have halted the target before the next poll.
  if let some bp := softwareHit s.swTable answer.stop then
    updateSession fun s => { s with swStepOverPending := true, swStepOverAddress := bp.address }
  return true

def checkDetach (payload : List UInt8) : Except Status UInt8 := do
  if payload.length ≠ detachRequestSize then
    throw .invalidArgument
  let action := getU8 payload 0
  if action ≠ DetachAction.keepHalted ∧ action ≠ DetachAction.resume then
    throw .invalidArgument
  return action

/-- The end of DETACH: no patch is left, and the backend lets go of the target. -/
def releaseTarget (requestId : UInt32) (action : UInt8) : SessionM Unit := do
  if !(← swBpRestoreAll) then
    respond Opcode.detach requestId .swdError
    return
  let answer ← backend (.detach action)
  if answer.code ≠ .ok then
    respond Opcode.detach requestId .swdError
    return
  respond Opcode.detach requestId .ok
  updateSession Session.detachedState

def opDetach (requestId : UInt32) (payload : List UInt8) : SessionM Unit := do
  match checkDetach payload with
  | .error status => respond Opcode.detach requestId status
  | .ok action =>
    if !(← haltForDetach requestId) then
      return
    -- Both final actions must leave PC at the original instruction, not past its patch.
    let s ← getSession
    if s.swStepOverPending then
      if !(← writeCurrentPc s.swStepOverAddress.toUInt32) then
        respond Opcode.detach requestId .swdError
        return
    releaseTarget requestId action

def getStateResponseBytes (s : Session) : List UInt8 :=
  le32 Status.ok.value ++ [s.state.value, 0, 0, 0] ++
    le32 (if s.state = .halted then s.stopId else 0)

def opGetState (requestId : UInt32) (payload : List UInt8) : SessionM Unit := do
  if payload ≠ [] then
    respond Opcode.getState requestId .invalidArgument
    return
  if !(← beginFrame MsgKind.response Opcode.getState requestId getStateResponseSize) then
    return
  let s ← getSession
  writePayload 0 (getStateResponseBytes s)
  let _ ← finishFrame

/-! Memory. -/

/-- The state checks READ_MEMORY and WRITE_MEMORY share. -/
def checkStopMode (s : Session) (req : MemoryRequest) : Except Status Unit := do
  if req.flags &&& MemAccess.requireHalted ≠ 0 then
    if s.state ≠ .halted then
      throw (if s.state = .running then .targetRunning else .targetLost)
    if req.stopId ≠ s.stopId then
      throw .staleStop
  else if req.stopId ≠ 0 then
    throw .invalidArgument

def bothOrNeitherMode (flags : UInt16) : Bool :=
  (flags &&& MemAccess.requireHalted != 0) == (flags &&& MemAccess.allowRunning != 0)

def checkReadMemory (s : Session) (payload : List UInt8) : Except Status MemoryRequest := do
  if payload.length ≠ readMemoryRequestSize then
    throw .invalidArgument
  let req := MemoryRequest.parse payload
  if bothOrNeitherMode req.flags then
    throw .invalidArgument
  checkStopMode s req
  if req.length = 0 ∨ req.length > s.maxMemoryTransfer ∨
      req.length.toNat > maxFrameSize - headerSize - readMemoryResponseSize then
    throw .invalidArgument
  let mapStatus :=
    validateMemoryAccess s.regions req.address req.length req.flags req.accessWidth false
  if mapStatus ≠ .ok then
    throw mapStatus
  return req

def opReadMemory (requestId : UInt32) (payload : List UInt8) : SessionM Unit := do
  let s ← getSession
  match checkReadMemory s payload with
  | .error status => respond Opcode.readMemory requestId status
  | .ok req =>
    let size := req.length.toNat
    if !(← beginFrame MsgKind.response Opcode.readMemory requestId
        (readMemoryResponseSize + size)) then
      return
    -- The backend reads straight into the frame.
    let answer ← backend (.readMem (.request req.flags []) req.address size req.accessWidth)
    writePayload readMemoryResponseSize (answer.data.take size)
    if answer.code ≠ .ok then
      sendBackendFailure Opcode.readMemory requestId answer.code .addressError
      return
    let s ← getSession
    writePayload readMemoryResponseSize (swBpSubstituteRead s.swTable req.address
      (s.scratch.read (headerSize + readMemoryResponseSize) size))
    writePayload 0 (le32 Status.ok.value ++ le64 req.address ++ le32 req.length)
    let _ ← finishFrame

def checkWriteMemory (s : Session) (payload : List UInt8) : Except Status MemoryRequest := do
  if payload.length < writeMemoryRequestSize then
    throw .invalidArgument
  let req := MemoryRequest.parse payload
  if bothOrNeitherMode req.flags ∨ payload.length - writeMemoryRequestSize ≠ req.length.toNat then
    throw .invalidArgument
  checkStopMode s req
  if req.length = 0 ∨ req.length > s.maxMemoryTransfer then
    throw .invalidArgument
  let mapStatus :=
    validateMemoryAccess s.regions req.address req.length req.flags req.accessWidth true
  if mapStatus ≠ .ok then
    throw mapStatus
  return req

def opWriteMemory (requestId : UInt32) (payload : List UInt8) : SessionM Unit := do
  let s ← getSession
  match checkWriteMemory s payload with
  | .error status => respond Opcode.writeMemory requestId status
  | .ok req =>
    let data := payload.drop writeMemoryRequestSize
    let image := writeImage s.swTable req.address data
    -- The image is built in the frame buffer, before any response is.
    updateSession fun s => { s with scratch := s.scratch.write 0 image }
    let answer ← backend (.writeMem (.request req.flags data) req.address image req.accessWidth)
    if answer.code ≠ .ok then
      sendBackendFailure Opcode.writeMemory requestId answer.code .addressError
      return
    updateSession fun s => { s with swTable := swBpWriteOverlap s.swTable req.address data }
    respond Opcode.writeMemory requestId .ok

/-! Registers. -/

def maxRegisterIds : ℕ := 64
def registerBlobCapacity : ℕ := maxFrameSize - headerSize - readRegistersResponseSize

def checkReadRegisters (s : Session) (payload : List UInt8) : Except Status RegistersRequest := do
  if payload.length < readRegistersRequestSize then
    throw .invalidArgument
  let req := RegistersRequest.parse payload
  if req.coreId ≠ 0 then
    throw .invalidArgument
  if payload.length ≠ readRegistersRequestSize + req.registerCount.toNat * 2 then
    throw .invalidArgument
  if req.stopId ≠ s.stopId then
    throw .staleStop
  if req.registerCount.toNat > maxRegisterIds then
    throw .invalidArgument
  return req

def registerIds (payload : List UInt8) (count : ℕ) : List UInt16 :=
  (List.range count).map fun index => getU16 payload (readRegistersRequestSize + index * 2)

def opReadRegisters (requestId : UInt32) (payload : List UInt8) : SessionM Unit := do
  let s ← getSession
  match checkReadRegisters s payload with
  | .error status => respond Opcode.readRegisters requestId status
  | .ok req =>
    -- the largest frame is begun, and cut once the size of the blob is known
    if !(← beginFrame MsgKind.response Opcode.readRegisters requestId
        (maxFrameSize - headerSize)) then
      respond Opcode.readRegisters requestId .swdError
      return
    let ids := registerIds payload req.registerCount.toNat
    let answer ← backend (.readRegs ids registerBlobCapacity)
    writePayload readRegistersResponseSize (answer.data.take registerBlobCapacity)
    if answer.code ≠ .ok then
      sendBackendFailure Opcode.readRegisters requestId answer.code .swdError
      return
    if answer.outSize > registerBlobCapacity then
      respond Opcode.readRegisters requestId .swdError
      return
    let blobStart := headerSize + readRegistersResponseSize
    updateSession fun s =>
      { s with
        scratch := normalizePcInRegisterBlob s s.scratch blobStart answer.outSize
        txFrameSize := headerSize + readRegistersResponseSize + answer.outSize }
    let s ← getSession
    let entries := registerEntries (fun i => s.scratch (blobStart + i)) answer.outSize
    writePayload 0 (le32 Status.ok.value ++ le32 s.stopId ++
      le16 (UInt16.ofNat entries.length) ++ le16 0)
    let _ ← finishFrame

/-- The validation walk of `op_write_registers`: the offset behind `count` whole entries. -/
def walkRegisterList (blob : List UInt8) : ℕ → ℕ → Option ℕ
  | 0, offset => some offset
  | count + 1, offset =>
    if blob.length - offset < registerValueSize then none
    else
      let valueSize := getU8 blob (offset + 2)
      let flags := getU8 blob (offset + 3)
      let offset := offset + registerValueSize
      if valueSize = 0 ∨ flags ≠ RegisterFlag.none ∨
        valueSize.toNat > blob.length - offset then none
      else walkRegisterList blob count (offset + valueSize.toNat)

def checkWriteRegisters (s : Session) (payload : List UInt8) : Except Status RegistersRequest := do
  if payload.length < writeRegistersRequestSize then
    throw .invalidArgument
  let req := RegistersRequest.parse payload
  if req.stopId ≠ s.stopId then
    throw .staleStop
  let blob := payload.drop writeRegistersRequestSize
  if req.coreId ≠ 0 ∨ req.registerCount = 0 ∨
      walkRegisterList blob req.registerCount.toNat 0 ≠ some blob.length then
    throw .invalidArgument
  return req

/-- `update_step_over_after_register_write`: a PC written elsewhere cancels the step-over. -/
def updateStepOverAfterRegisterWrite (data : List UInt8) (count : ℕ) (s : Session) : Session :=
  if !s.swStepOverPending then s
  else
    let entries := (registerEntries (fun i => getU8 data i) data.length).take count
    -- the first PC entry decides
    match entries.find? fun entry => entry.registerId == armRegPc && entry.valueSize == 4 with
    | some entry =>
      if (getU32 data (entry.offset + registerValueSize)).toUInt64 ≠ s.swStepOverAddress then
        { s with swStepOverPending := false, swStepOverAddress := 0 }
      else s
    | none => s

def opWriteRegisters (requestId : UInt32) (payload : List UInt8) : SessionM Unit := do
  let s ← getSession
  match checkWriteRegisters s payload with
  | .error status => respond Opcode.writeRegisters requestId status
  | .ok req =>
    let blob := payload.drop writeRegistersRequestSize
    let answer ← backend (.writeRegs blob)
    if answer.code ≠ .ok then
      sendBackendFailure Opcode.writeRegisters requestId answer.code .swdError
      return
    updateSession (updateStepOverAfterRegisterWrite blob req.registerCount.toNat)
    respond Opcode.writeRegisters requestId .ok

/-! Run control. -/

/-- What a valid RUN request asks for. -/
structure RunPlan where
  request : RunRequest
  hwEntries : List BpEntry
  swEntries : List BpEntry
  wpEntries : List WpEntry

def Breakpoint.entry (bp : Breakpoint) : BpEntry :=
  ⟨bp.breakpointId, bp.address, bp.kind, bp.instructionSize, bp.temporary⟩

/-- One turn of the breakpoint loop of `op_run` over the entries collected so far. -/
def collectBreakpoint (s : Session) (collected : List BpEntry × List BpEntry) (bp : Breakpoint) :
    Except Status (List BpEntry × List BpEntry) := do
  let (hwEntries, swEntries) := collected
  if bp.breakpointId = 0 ∨ bp.enabled ≠ 1 ∨
      (bp.kind ≠ BreakpointKind.hardware ∧ bp.kind ≠ BreakpointKind.software) then
    throw .invalidArgument
  if bp.kind = BreakpointKind.software then
    if !s.hasCapability Cap.softwareBp then
      throw .noBreakpointSlot
    if (bp.instructionSize ≠ 2 ∧ bp.instructionSize ≠ 4) ∨ bp.address &&& 1 ≠ 0 ∨
        !isExecutableRange s.regions bp.address bp.instructionSize.toUInt64 true then
      throw .invalidArgument
    if swEntries.length = maxSoftwareBreakpoints then
      throw .noBreakpointSlot
    return (hwEntries, swEntries ++ [bp.entry])
  else
    if !s.hasCapability Cap.hardwareBp ∨ s.hardwareBreakpointLimit = 0 then
      throw .noBreakpointSlot
    if bp.instructionSize ≠ 0 ∨ bp.address &&& 1 ≠ 0 ∨
        !isExecutableRange s.regions bp.address 2 false then
      throw .invalidArgument
    if hwEntries.length ≥ s.hardwareBreakpointLimit.toNat then
      throw .noBreakpointSlot
    return (hwEntries ++ [bp.entry], swEntries)

def collectWatchpoint (wp : Watchpoint) : Except Status WpEntry := do
  if wp.watchpointId = 0 ∨ wp.enabled ≠ 1 ∨
      (wp.access ≠ WatchAccess.read ∧ wp.access ≠ WatchAccess.write ∧
        wp.access ≠ WatchAccess.readWrite) ∨
      (wp.size ≠ 1 ∧ wp.size ≠ 2 ∧ wp.size ≠ 4) then
    throw .invalidArgument
  if wp.address % wp.size.toUInt64 ≠ 0 then
    throw .alignmentError
  return ⟨wp.watchpointId, wp.address, wp.access, wp.size⟩

/-- The fixed part of a RUN request. -/
def checkRunRequest (s : Session) (payload : List UInt8) : Except Status RunRequest := do
  if payload.length < runRequestSize then
    throw .invalidArgument
  let req := RunRequest.parse payload
  if req.coreId ≠ 0 then
    throw .invalidArgument
  if req.stopId ≠ s.stopId then
    throw .staleStop
  if (req.action ≠ RunAction.continueRun ∧ req.action ≠ RunAction.singleStep ∧
        req.action ≠ RunAction.toAddress) ∨
      (req.action ≠ RunAction.toAddress ∧ req.runToAddress ≠ 0) ∨
      (req.action = RunAction.toAddress ∧ req.runToAddress = 0) then
    throw .invalidArgument
  if req.action = RunAction.toAddress ∧ (req.runToAddress &&& 1 ≠ 0 ∨
      !isExecutableRange s.regions req.runToAddress 2 false) then
    throw .addressError
  if req.action = RunAction.singleStep ∧ !s.hasCapability Cap.singleStep then
    throw .unsupported
  if req.vectorCatchMask &&& ~~~s.supportedVectorCatch ≠ 0 then
    throw .unsupported
  if payload.length ≠ runRequestSize + req.breakpointCount.toNat * breakpointSize +
      req.watchpointCount.toNat * watchpointSize then
    throw .invalidArgument
  if req.breakpointCount.toNat > maxHardwareBreakpoints + maxSoftwareBreakpoints then
    throw .noBreakpointSlot
  if req.watchpointCount.toNat > maxHardwareWatchpoints then
    throw .noWatchpointSlot
  return req

/-- RUN_TO_ADDRESS needs one comparator, or a requested one at the same address. -/
def checkRunToSlot (s : Session) (req : RunRequest) (hwEntries : List BpEntry) :
    Except Status Unit := do
  if req.action = RunAction.toAddress then
    if !s.hasCapability Cap.hardwareBp then
      throw .noBreakpointSlot
    if !(hwEntries.any fun entry => entry.address == req.runToAddress) ∧
        hwEntries.length ≥ s.hardwareBreakpointLimit.toNat then
      throw .noBreakpointSlot

def checkRun (s : Session) (payload : List UInt8) : Except Status RunPlan := do
  let req ← checkRunRequest s payload
  let bps := parseTable Breakpoint.parse breakpointSize (payload.drop runRequestSize)
    req.breakpointCount.toNat
  let (hwEntries, swEntries) ← bps.foldlM (collectBreakpoint s) ([], [])
  checkRunToSlot s req hwEntries
  if req.watchpointCount ≠ 0 ∧ !s.hasCapability Cap.watchpoint then
    throw .noWatchpointSlot
  if req.watchpointCount > s.hardwareWatchpointLimit then
    throw .noWatchpointSlot
  let wps := parseTable Watchpoint.parse watchpointSize
    (payload.drop (runRequestSize + req.breakpointCount.toNat * breakpointSize))
    req.watchpointCount.toNat
  let wpEntries ← wps.mapM collectWatchpoint
  return ⟨req, hwEntries, swEntries, wpEntries⟩

/-- The all-or-nothing installation. `some status` is the failure it is answered with. -/
def installRun (plan : RunPlan) : SessionM (Option Status) := do
  let swResult ← swBpApply plan.swEntries
  if swResult ≠ .ok then
    return some swResult
  let breakpoints ← backend (.applyBreakpoints plan.hwEntries)
  if breakpoints.code ≠ .ok then
    return some .noBreakpointSlot
  updateSession fun s => { s with hwBreakpointIds := plan.hwEntries.map (·.breakpointId) }
  let watchpoints ← backend (.applyWatchpoints plan.wpEntries)
  if watchpoints.code ≠ .ok then
    return some .noWatchpointSlot
  let vectors ← backend (.setVectorCatch plan.request.vectorCatchMask)
  if vectors.code ≠ .ok then
    return some .unsupported
  return none

/-- The user-visible resume and the one poll behind its response. -/
def resumeRun (requestId : UInt32) (req : RunRequest) : SessionM Unit := do
  let resumed ← backend (.resume req.action req.runToAddress)
  if resumed.code ≠ .ok then
    -- A failed acknowledgement does not prove that resume did not happen.
    respond Opcode.run requestId .targetLost
    enterLost (lostReason resumed.code)
    return
  updateSession fun s =>
    { s with
      runningAction := req.action
      runToActive := req.action == RunAction.toAddress
      activeRunToAddress := if req.action = RunAction.toAddress then req.runToAddress else 0
      state := .running }
  respond Opcode.run requestId .ok
  pollStop

/-- The report of an internal step that is the outcome of the RUN. -/
def reportStep (requestId : UInt32) (stop : StopDetect) (userStep : Bool) : SessionM Unit := do
  respond Opcode.run requestId .ok
  enterHalted stop
  if userStep then
    updateSession fun s => { s with pendingReason := .singleStep }
  emitPendingStopped

def opRun (requestId : UInt32) (payload : List UInt8) : SessionM Unit := do
  let s ← getSession
  match checkRun s payload with
  | .error status => respond Opcode.run requestId status
  | .ok plan =>
    match ← installRun plan with
    | some status => failRun requestId status
    | none =>
      match ← executeStepOver plan.request.action with
      -- nothing was resumed, so the configuration is taken back
      | .failed =>
        if ← rollbackRunConfig then
          respond Opcode.run requestId .swdError
        else
          respond Opcode.run requestId .swdError
          enterLost .swdFault
      -- the step may have been taken: the target is given up
      | .failedLost reason =>
        respond Opcode.run requestId .targetLost
        enterLost reason
      | .stoppedStep stop => reportStep requestId stop true
      | .stoppedReal stop => reportStep requestId stop false
      | .notNeeded => resumeRun requestId plan.request
      | .stepped => resumeRun requestId plan.request

def opHalt (requestId : UInt32) (payload : List UInt8) : SessionM Unit := do
  if payload ≠ [] then
    respond Opcode.halt requestId .invalidArgument
    return
  let s ← getSession
  if s.state = .halted ∧ s.stopReported then
    respond Opcode.halt requestId .targetHalted
    return
  -- the report of this halt is still owed
  if s.state = .halted ∧ !s.stopReported then
    respond Opcode.halt requestId .ok
    emitPendingStopped
    return
  let answer ← backend (.halt haltTimeoutMs)
  if answer.code ≠ .ok then
    sendBackendFailure Opcode.halt requestId answer.code .timeout
    return
  enterHalted answer.stop
  respond Opcode.halt requestId .ok
  emitPendingStopped

def prepareReset (opcode : UInt16) (requestId : UInt32) : SessionM Bool := do
  let s ← getSession
  if s.state ≠ .halted then
    let answer ← backend (.halt haltTimeoutMs)
    if answer.code ≠ .ok ∨ !answer.stop.halted then
      sendBackendFailure opcode requestId
        (if answer.code = .ok then .timeout else answer.code) .timeout
      return false
    enterHalted answer.stop
  -- also after a wrap has ended the session
  if !(← rollbackRunConfig) then
    respond opcode requestId .swdError
    enterLost .swdFault
    return false
  return true

/-- The checks both reset requests make, against their own capability bit. -/
def checkReset (s : Session) (cap : UInt32) (payload : List UInt8) : Except Status UInt8 := do
  if payload.length ≠ resetRequestSize then
    throw .invalidArgument
  let kind := getU8 payload 0
  if kind ≠ ResetKind.system ∧ kind ≠ ResetKind.nrst then
    throw .invalidArgument
  if !s.hasCapability cap ∨ (kind = ResetKind.system ∧ !s.hasCapability Cap.resetSystem) ∨
      (kind = ResetKind.nrst ∧ !s.hasCapability Cap.resetNrst) then
    throw .unsupported
  return kind

def resetFailed (opcode : UInt16) (requestId : UInt32) (result : EspErr) : SessionM Unit := do
  respond opcode requestId (if result = .timeout then .timeout else .swdError)
  enterLost (lostReason result)

def opResetHalt (requestId : UInt32) (payload : List UInt8) : SessionM Unit := do
  let s ← getSession
  match checkReset s Cap.resetHalt payload with
  | .error status => respond Opcode.resetHalt requestId status
  | .ok kind =>
    if !(← prepareReset Opcode.resetHalt requestId) then
      return
    let answer ← backend (.reset kind true)
    if answer.code ≠ .ok then
      resetFailed Opcode.resetHalt requestId answer.code
      return
    updateSession fun s => s.clearDebugState.clearRunTracking
    enterHalted answer.stop
    -- the stop is named by the reset, whatever it was classified as
    updateSession fun s => { s with pendingReason := .reset }
    respond Opcode.resetHalt requestId .ok
    emitPendingStopped

def opResetRun (requestId : UInt32) (payload : List UInt8) : SessionM Unit := do
  let s ← getSession
  match checkReset s Cap.resetRun payload with
  | .error status => respond Opcode.resetRun requestId status
  | .ok kind =>
    if !(← prepareReset Opcode.resetRun requestId) then
      return
    let answer ← backend (.reset kind false)
    if answer.code ≠ .ok then
      resetFailed Opcode.resetRun requestId answer.code
      return
    updateSession fun s => { s.clearDebugState.clearRunTracking with state := .running }
    respond Opcode.resetRun requestId .ok

def handlePoll : SessionM Unit := do
  let s ← getSession
  if s.transportDead ∨ s.state ≠ .running ∨ !s.attached then
    return
  pollStop

/-! Dispatch. -/

def dispatch (op : RequestOp) (requestId : UInt32) (payload : List UInt8) : SessionM Unit :=
  match op with
  | .attach => opAttach requestId payload
  | .detach => opDetach requestId payload
  | .getState => opGetState requestId payload
  | .readMemory => opReadMemory requestId payload
  | .writeMemory => opWriteMemory requestId payload
  | .readRegisters => opReadRegisters requestId payload
  | .writeRegisters => opWriteRegisters requestId payload
  | .run => opRun requestId payload
  | .halt => opHalt requestId payload
  | .resetHalt => opResetHalt requestId payload
  | .resetRun => opResetRun requestId payload

/-- The answer of a gate that does not let a request through. -/
def GateType.refusal : GateType → Option Status
  | .allow => none
  | .attachBusy => some .busy
  | .detachedError => some .error
  | .runningDeny => some .targetRunning
  | .lost => some .targetLost

def handleRequest (message : List UInt8) : SessionM Unit := do
  let s ← getSession
  -- what is no request of this protocol is dropped without an answer
  if s.transportDead ∨ ¬isValidMessageSize message.length then
    return
  let header := MsgHeader.parse message
  if header.version ≠ protocolVersion then
    return
  if header.kind ≠ MsgKind.request ∨ header.requestId = 0 then
    return
  let payload := message.drop headerSize
  match requestOp header.opcode with
  | none =>
    respond header.opcode header.requestId (if s.state = .lost then .targetLost else .unsupported)
  | some op =>
    match (gateTable s.state (gateColumn op)).refusal with
    | some status => respond header.opcode header.requestId status
    | none => dispatch op header.requestId payload

/-! The session as a reactive system. -/

inductive Input where
  | request (message : List UInt8)
  | poll
  | disconnect

/-- One entry into the session. The result says what `handle_disconnect` returned. -/
def handle : Input → SessionM Bool
  | .request message => do
    handleRequest message
    return false
  | .poll => do
    handlePoll
    return false
  | .disconnect => handleDisconnect

/-- A run of the session from a world. -/
def playSession {T : Type} (env : SessionEnvironment T) (w : SessionWorld T) (inputs : List Input) :
    SessionWorld T :=
  Interactive.World.play env handle w inputs

/-- A constructed and initialised session next to an environment in state `t₀`. -/
def freshWorld {T : Type} (t₀ : T) : SessionWorld T := ⟨{}, t₀, []⟩

end SidpClient
