import SidpClient.SessionFrames

/-! The software breakpoint shadow table, run configuration rollback and the step-over. -/
namespace SidpClient
open LittleEndian

def updateTable (f : List SwBp → List SwBp) : SessionM Unit :=
  updateSession fun s => { s with swTable := f s.swTable }

/-- `sw_bp_install_one` on the entry at an index. The entry counts as installed before the write:
a failed write may still have changed target memory. -/
def swBpInstallOne (index : ℕ) : SessionM Bool := do
  updateTable (·.modify index SwBp.install)
  let s ← getSession
  match s.swTable[index]? with
  | none => return false
  | some entry =>
    let answer ← backend (.writeMem .patch entry.address bkptPatch MemWidth.default)
    return answer.code = .ok

/-- `sw_bp_restore_one` on the entry at an index. -/
def swBpRestoreOne (index : ℕ) : SessionM Bool := do
  let s ← getSession
  match s.swTable[index]? with
  | none => return true
  | some entry =>
    if !entry.installed then
      return true
    let answer ← backend (.writeMem .restore entry.address entry.originalBytes MemWidth.default)
    if answer.code = .ok then
      updateTable (·.modify index SwBp.uninstall)
    return answer.code = .ok

/-- `sw_table[remaining] = sw_table[index]`, where the two differ. -/
def moveDown (remaining index : ℕ) (table : List SwBp) : List SwBp :=
  if remaining = index then table
  else match table[index]? with
    | none => table
    | some entry => table.set remaining entry

/-- One turn of the loop in `sw_bp_restore_all`, with `all_restored` and `remaining`. A restored
entry stays where it is; one that could not be restored is copied down over those before it. -/
def swBpRestoreTurn (kept : Bool × ℕ) (index : ℕ) : SessionM (Bool × ℕ) := do
  if ← swBpRestoreOne index then
    return kept
  else
    updateTable (moveDown kept.2 index)
    return (false, kept.2 + 1)

def swBpRestoreAll : SessionM Bool := do
  let s ← getSession
  let kept ← Interactive.Action.foldFrom swBpRestoreTurn (true, 0) 0 s.swTable.length
  updateTable (·.take kept.2)
  return kept.1

def intervalsOverlap (entry : BpEntry) (prior : SwBp) : Bool :=
  entry.address < prior.stop && prior.address < entry.address + entry.instructionSize.toUInt64

/-- The slot of a requested breakpoint whose instruction read as these bytes. The four bytes of
`original` start as zeros. -/
def BpEntry.recorded (entry : BpEntry) (bytes : List UInt8) : SwBp where
  id := entry.breakpointId
  address := entry.address
  instructionSize := entry.instructionSize
  installed := false
  original := (Buffer.zero.write 0 (bytes.take entry.instructionSize.toNat)).read 0 4

/-- Stage 1 of `sw_bp_apply`: read and remember every original instruction. -/
def swBpRecord : List BpEntry → SessionM Status
  | [] => return .ok
  | entry :: entries => do
    let s ← getSession
    if s.swTable.length = maxSoftwareBreakpoints then
      let _ ← swBpRestoreAll
      return .invalidArgument
    -- the intervals of two entries must not overlap
    if s.swTable.any (intervalsOverlap entry) then
      let _ ← swBpRestoreAll
      return .invalidArgument
    let answer ← backend
      (.readMem .original entry.address entry.instructionSize.toNat MemWidth.default)
    if answer.code ≠ .ok then
      let _ ← swBpRestoreAll
      return .swdError
    let slot := entry.recorded answer.data
    -- a BKPT that is there already is never taken for the original
    if entry.instructionSize ≥ 2 ∧ slot.original.take 2 = bkptPatch then
      let _ ← swBpRestoreAll
      return .invalidArgument
    updateTable (· ++ [slot])
    swBpRecord entries

/-- Stage 2 of `sw_bp_apply`: write the patches of the `n` entries from an index on. -/
def swBpInstallFrom (index : ℕ) : ℕ → SessionM Status
  | 0 => return .ok
  | n + 1 => do
    if !(← swBpInstallOne index) then
      let _ ← swBpRestoreAll
      return .swdError
    swBpInstallFrom (index + 1) n

def swBpApply (entries : List BpEntry) : SessionM Status := do
  if !(← swBpRestoreAll) then
    return .swdError
  let recorded ← swBpRecord entries
  if recorded ≠ .ok then
    return recorded
  let s ← getSession
  swBpInstallFrom 0 s.swTable.length

def rollbackRunConfig : SessionM Bool := do
  let restored ← swBpRestoreAll
  -- every call is made, whatever those before it returned
  let breakpoints ← backend (.applyBreakpoints [])
  let watchpoints ← backend (.applyWatchpoints [])
  let vectors ← backend (.setVectorCatch 0)
  updateSession Session.clearRunTracking
  return vectors.code = .ok ∧ watchpoints.code = .ok ∧ breakpoints.code = .ok ∧ restored

def failRun (requestId : UInt32) (status : Status) : SessionM Unit := do
  let restored ← rollbackRunConfig
  respond Opcode.run requestId (if restored then status else .swdError)
  if !restored then
    enterLost .swdFault

def pcEntryBytes (pc : UInt32) : List UInt8 := le16 armRegPc ++ [4, RegisterFlag.none] ++ le32 pc

def writeCurrentPc (pc : UInt32) : SessionM Bool := do
  let answer ← backend (.writeRegs (pcEntryBytes pc))
  return answer.code = .ok

inductive StepOver where
  | notNeeded
  | stepped
  | stoppedStep (stop : StopDetect)
  | stoppedReal (stop : StopDetect)
  | failed
  | failedLost (reason : TargetLostReason)

/-- The poll loop behind the internal step: a halted observation, or why there is none. -/
def pollStepHalted : ℕ → SessionM (Except TargetLostReason StopDetect)
  | 0 => return .error .timeout
  | n + 1 => do
    let answer ← backend .pollHalted
    if answer.code ≠ .ok then
      return .error (lostReason answer.code)
    if answer.stop.halted then
      return .ok answer.stop
    pollStepHalted n

/-- A clean step only sets the step, halt and external bits. -/
def isRealStop (stop : StopDetect) : Bool :=
  stop.lockup || stop.fault || stop.watchpointMatch || stop.comparatorMatch ||
    stop.dfsr &&& 0x0000000E != 0

/-- Disarms the breakpoint under the step, if there is one. -/
def swBpRestoreFound (bp : Option ℕ) : SessionM Bool :=
  match bp with
  | none => return true
  | some index => swBpRestoreOne index

/-- Arms the breakpoint under the step again. -/
def swBpInstallFound (bp : Option ℕ) : SessionM Bool :=
  match bp with
  | none => return true
  | some index => swBpInstallOne index

def executeStepOver (action : UInt8) : SessionM StepOver := do
  let s ← getSession
  if !s.swStepOverPending then
    return .notNeeded
  let bp := swBpFindByAddress s.swTable s.swStepOverAddress
  if !(← swBpRestoreFound bp) then
    return .failed
  if !(← writeCurrentPc s.swStepOverAddress.toUInt32) then
    -- nothing has been resumed yet: the patch goes back in
    let _ ← swBpInstallFound bp
    return .failed
  let step ← backend (.resume RunAction.singleStep 0)
  if step.code ≠ .ok then
    return .failedLost (lostReason step.code)
  match ← pollStepHalted 100 with
  | .error reason => return .failedLost reason
  | .ok stop =>
    -- The instruction has executed: no rewind may stay pending, even if re-arming fails.
    updateSession fun s => { s with swStepOverPending := false, swStepOverAddress := 0 }
    if !(← swBpInstallFound bp) then
      return .failedLost .swdFault
    if isRealStop stop then
      return .stoppedReal stop
    if action = RunAction.singleStep then
      return .stoppedStep stop
    return .stepped

end SidpClient
