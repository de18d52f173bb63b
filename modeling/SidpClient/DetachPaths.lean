import SidpClient.TargetWrites

/-! Three ways to let go of a target: DETACH at once, DETACH behind a poll, and the disconnect
cleanup. When they leave the same PC and the same memory. -/
namespace SidpClient
open LittleEndian Interactive

variable {s : Session} {h h' : SessionHistory} {table : List SwBp}
  {address address' : Option UInt64}

theorem Target.after_eq (target : Target)
    (hw : targetWrites h = pcWrite address ++ restoreWrites table) :
    target.after h = ⟨(address.map (·.toUInt32)).getD target.pc, restored target.memory table⟩ := by
  rw [Target.after, hw, List.foldl_append, apply_pcWrite, apply_restoreWrites]

theorem pcWrites_eq (hw : targetWrites h = pcWrite address ++ restoreWrites table) :
    pcWrites h = (address.map (·.toUInt32)).toList := by
  have none_restored : (restoreWrites table).filterMap Call.writtenPc = [] := by
    rw [restoreWrites, List.filterMap_map]
    exact List.filterMap_eq_nil_iff.mpr fun _ _ => rfl
  rw [pcWrites, hw, List.filterMap_append, none_restored, List.append_nil]
  cases address with
  | none => rfl
  | some address => simp [pcWrite, Call.writtenPc, writtenPc_pcEntryBytes]

/-- Runs of the session from a state, as inputs of `playSession`. -/
def writesFrom {T : Type} (env : SessionEnvironment T) (s : Session) (t : T) (inputs : List Input) :
    SessionHistory :=
  (playSession env ⟨s, t, []⟩ inputs).history

/-- The same PCs are written, and PC and memory end the same, whether or not a poll comes before
the request. -/
def PollIrrelevant {T : Type} (env : SessionEnvironment T) (s : Session) (t : T) (target : Target)
    (message : List UInt8) : Prop :=
  let direct := writesFrom env s t [.request message]
  let polled := writesFrom env s t [.poll, .request message]
  pcWrites direct = pcWrites polled ∧ target.after direct = target.after polled

/-- Both paths see the same logical PC: no other cause hides a software breakpoint from
`enter_halted`, and without one no older PC is still pending. -/
def SameLogicalPc (s : Session) (stop : StopDetect) : Prop :=
  match softwareHit s.swTable stop with
  | some _ => stop.lockup = false ∧ stop.watchpointMatch = false ∧ stop.dfsr &&& Dfsr.dwtTrap = 0
  | none => s.swStepOverPending = false

instance (s : Session) (stop : StopDetect) : Decidable (SameLogicalPc s stop) := by
  unfold SameLogicalPc
  cases softwareHit s.swTable stop with
  | some _ => exact inferInstanceAs (Decidable (_ ∧ _))
  | none => exact inferInstanceAs (Decidable (_ = _))

theorem sameLogicalPc_iff (s : Session) (stop : StopDetect) :
    SameLogicalPc s stop ↔
      (s.directPc stop).map (·.toUInt32) = (classifyStop s stop).stepOver.map (·.toUInt32) := by
  rw [classifyStop_stepOver, SameLogicalPc, Session.directPc]
  cases softwareHit s.swTable stop with
  | some sw => split_ifs with cause <;> simp [cause]
  | none =>
    cases pending : s.swStepOverPending with
    | true => simp [Session.pendingPc, pending]
    | false => simp [Session.pendingPc, pending]

section
variable {T : Type} {env : SessionEnvironment T} {stop : StopDetect} {t : T} {message : List UInt8}

/-- What is proved of the first handler of a run holds of what the rest of the run starts from. -/
theorem playSession_cons {w : SessionWorld T} {i : Input} {is : List Input}
    {P : SessionWorld T → Prop}
    (hr : (handle i).runs env w.state w.outside w.history fun _ s' t' h' =>
      P (playSession env ⟨s', t', h'⟩ is)) :
    P (playSession env w (i :: is)) := hr

/-- DETACH over a live transport. -/
theorem detach_writes (ob : Obliging env stop) (request : DetachRequest message)
    (alive : s.transportDead = false) (live : s.state = .halted ∨ s.state = .running) :
    targetWrites (writesFrom env s t [.request message]) =
      pcWrite (s.leavingPc stop) ++ restoreWrites s.swTable := by
  apply playSession_cons (P := fun w => targetWrites w.history = _)
  apply request_runs
  apply handleRequest_detach ob request alive live
  intro s' t' h' hw
  exact hw

/-- What a poll leaves that saw the stop: a session in LOST where the stop generations wrap, else a
halted one, with a dead transport where the sink turned the report down. -/
theorem poll_leaves (ob : Obliging env stop) (halted : stop.halted = true)
    (alive : s.transportDead = false) (state : s.state = .running) (attached : s.attached = true) :
    let w := playSession env ⟨s, t, []⟩ [.poll]
    targetWrites w.history = [] ∧ (s.stopId + 1 = 0 → w.state.state = .lost) ∧
      (s.stopId + 1 ≠ 0 → w.state.state = .halted ∧
        (Rejected w.history ↔ w.state.transportDead = true) ∧
        w.state.pendingPc = (classifyStop s stop).stepOver ∧ w.state.swTable = s.swTable) := by
  apply playSession_cons (P := fun w => targetWrites w.history = [] ∧
    (s.stopId + 1 = 0 → w.state.state = .lost) ∧ (s.stopId + 1 ≠ 0 → w.state.state = .halted ∧
      (Rejected w.history ↔ w.state.transportDead = true) ∧
      w.state.pendingPc = (classifyStop s stop).stepOver ∧ w.state.swTable = s.swTable))
  apply poll_runs
  apply handlePoll_obliging ob halted alive state attached
  · intro wrap s₁ t₁ h₁ writes lost
    exact ⟨writes, fun _ => lost, fun next => absurd wrap next⟩
  · intro next s₁ t₁ h₁ writes state₁ taken pending table
    have untaken : ¬Rejected [] := by simp [Rejected]
    exact ⟨writes, fun wrap => absurd wrap next,
      fun _ => ⟨state₁, taken.trans (or_iff_right untaken), pending, table⟩⟩

/-- DETACH behind a poll that saw the stop: lost with the session or with the transport, or
handled. -/
theorem polled_detach_writes (ob : Obliging env stop) (halted : stop.halted = true)
    (request : DetachRequest message) (alive : s.transportDead = false) (state : s.state = .running)
    (attached : s.attached = true) :
    (s.stopId + 1 = 0 ∨ Rejected (writesFrom env s t [.poll]) →
      targetWrites (writesFrom env s t [.poll, .request message]) = []) ∧
    (s.stopId + 1 ≠ 0 → ¬Rejected (writesFrom env s t [.poll]) →
      targetWrites (writesFrom env s t [.poll, .request message]) =
        pcWrite (classifyStop s stop).stepOver ++ restoreWrites s.swTable) := by
  obtain ⟨writes, wrapped, entered⟩ := poll_leaves (t := t) ob halted alive state attached
  have behind : writesFrom env s t [.poll, .request message] =
      (playSession env (playSession env ⟨s, t, []⟩ [.poll]) [.request message]).history := rfl
  have polled : writesFrom env s t [.poll] = (playSession env ⟨s, t, []⟩ [.poll]).history := rfl
  rw [behind, polled]
  generalize playSession env ⟨s, t, []⟩ [.poll] = w at writes wrapped entered ⊢
  constructor
  · intro missed
    apply playSession_cons (P := fun w => targetWrites w.history = [])
    apply request_runs
    by_cases wrap : s.stopId + 1 = 0
    · apply handleRequest_detach_lost request (wrapped wrap)
      intro s' t' h' hw
      exact hw.trans writes
    · have dead := (entered wrap).2.1.mp (missed.resolve_left wrap)
      exact handleRequest_dead dead writes
  · intro next taken
    obtain ⟨state₁, rejected, pending, table⟩ := entered next
    have alive₁ : w.state.transportDead = false :=
      Bool.eq_false_of_not_eq_true fun dead => taken (rejected.mpr dead)
    apply playSession_cons (P := fun w => targetWrites w.history = _)
    apply request_runs
    apply handleRequest_detach ob request alive₁ (Or.inl state₁)
    intro s' t' h' hw
    have leaving : w.state.leavingPc stop = w.state.pendingPc := by
      rw [Session.leavingPc, if_neg (by simp [state₁])]
    rw [← pending, ← table, ← leaving]
    exact hw.trans (congrArg (· ++ _ ++ _) writes)

/-- The disconnect cleanup. -/
theorem disconnect_writes (ob : Obliging env stop) (halted : stop.halted = true)
    (attached : s.attached = true) :
    targetWrites (writesFrom env s t [.disconnect]) = restoreWrites s.swTable := by
  apply playSession_cons (P := fun w => targetWrites w.history = _)
  apply handleDisconnect_obliging ob halted attached
  intro b s' t' h' hw
  exact hw

/-- Over a dead transport neither a request nor a poll does anything. -/
theorem dead_writes (env : SessionEnvironment T) (t : T) (message : List UInt8)
    (dead : s.transportDead = true) :
    targetWrites (writesFrom env s t [.request message]) = [] ∧
      targetWrites (writesFrom env s t [.poll, .request message]) = [] := by
  have request (t₁ : T) : targetWrites (writesFrom env s t₁ [.request message]) = [] := by
    apply playSession_cons (P := fun w => targetWrites w.history = _)
    apply request_runs
    exact handleRequest_dead dead rfl
  refine ⟨request t, ?_⟩
  apply playSession_cons (P := fun w => targetWrites w.history = _)
  apply poll_runs
  simp only [handlePoll, Action.runs_bind, getSession_runs, Action.runs_ite, Action.runs_pure]
  exact ⟨fun _ => request t, fun hn => absurd (Or.inl dead) hn⟩

end

/-- DETACH has no PC to write, and no patch that shows in memory. -/
structure NothingToLeave (s : Session) (stop : StopDetect) (target : Target) : Prop where
  unhit : softwareHit s.swTable stop = none
  idle : s.swStepOverPending = false
  clean : restored target.memory s.swTable = target.memory

/-- A state in which a poll before the request changes nothing. The request behind the poll is lost
where the stop generations wrap, and where the sink turns the report of the poll down. -/
structure PollAgrees {T : Type} (env : SessionEnvironment T) (s : Session) (t : T)
    (stop : StopDetect) (target : Target) : Prop where
  lost : s.stopId + 1 = 0 ∨ Rejected (writesFrom env s t [.poll]) → NothingToLeave s stop target
  handled : s.stopId + 1 ≠ 0 → ¬Rejected (writesFrom env s t [.poll]) → SameLogicalPc s stop

theorem directPc_eq_none (s : Session) (stop : StopDetect) :
    s.directPc stop = none ↔ softwareHit s.swTable stop = none ∧ s.swStepOverPending = false := by
  rw [Session.directPc]
  cases softwareHit s.swTable stop with
  | some sw => simp
  | none =>
    cases pending : s.swStepOverPending with
    | true => simp [Session.pendingPc, pending]
    | false => simp [Session.pendingPc, pending]

theorem nothingToLeave_iff (s : Session) (stop : StopDetect) (target : Target) :
    NothingToLeave s stop target ↔
      s.directPc stop = none ∧ restored target.memory s.swTable = target.memory := by
  rw [directPc_eq_none]
  exact ⟨fun hn => ⟨⟨hn.unhit, hn.idle⟩, hn.clean⟩, fun hn => ⟨hn.1.1, hn.1.2, hn.2⟩⟩

/-- For every running session a run reaches, every stop, every target and every sink, with a backend
that succeeds: a poll in front of DETACH makes no difference if and only if the transport is dead,
or the report of the poll gets through and no other cause hides the software breakpoint from
`enter_halted` and no older PC is pending, or the request behind the poll is lost and had nothing to
leave. -/
theorem poll_irrelevant_iff {T₀ T : Type} (env₀ : SessionEnvironment T₀) (t₀ : T₀)
    (inputs : List Input) (env : SessionEnvironment T) (t : T) (stop : StopDetect) (target : Target)
    (message : List UInt8)
    (running : (playSession env₀ (freshWorld t₀) inputs).state.state = .running)
    (ob : Obliging env stop) (halted : stop.halted = true) (request : DetachRequest message) :
    let s := (playSession env₀ (freshWorld t₀) inputs).state
    PollIrrelevant env s t target message ↔
      s.transportDead = true ∨ PollAgrees env s t stop target := by
  intro s
  have ready := (run_invariant (P := fun _ _ => True) env₀ t₀ inputs trivial
    fun _ _ _ _ _ _ _ => trivial).2
  have attached : s.attached = true := (ready.engaged (Or.inr running)).attached
  by_cases dead : s.transportDead = true
  · obtain ⟨direct, polled⟩ := dead_writes env t message dead
    refine ⟨fun _ => Or.inl dead, fun _ => ⟨?_, ?_⟩⟩
    · rw [pcWrites, pcWrites, direct, polled]
    · rw [Target.after, Target.after, direct, polled]
  have alive : s.transportDead = false := Bool.eq_false_of_not_eq_true dead
  have direct := detach_writes (t := t) ob request alive (Or.inr running)
  have polled := polled_detach_writes (t := t) ob halted request alive running attached
  have leaving : s.leavingPc stop = s.directPc stop := if_pos running
  rw [leaving] at direct
  rw [or_iff_right dead, PollIrrelevant, pcWrites_eq direct, target.after_eq direct]
  obtain ⟨missed, reached⟩ := polled
  by_cases lost : s.stopId + 1 = 0 ∨ Rejected (writesFrom env s t [.poll])
  · have agrees : PollAgrees env s t stop target ↔ NothingToLeave s stop target :=
      ⟨fun hp => hp.lost lost, fun hn => ⟨fun _ => hn, fun next taken =>
        absurd lost (not_or.mpr ⟨next, taken⟩)⟩⟩
    rw [agrees, pcWrites, Target.after, missed lost, nothingToLeave_iff]
    cases s.directPc stop with
    | none => simp [Target.ext_iff]
    | some address => simp
  · obtain ⟨next, taken⟩ := not_or.mp lost
    have agrees : PollAgrees env s t stop target ↔ SameLogicalPc s stop :=
      ⟨fun hp => hp.handled next taken, fun hs => ⟨fun hl => absurd hl lost, fun _ _ => hs⟩⟩
    rw [agrees, pcWrites_eq (reached next taken), target.after_eq (reached next taken),
      sameLogicalPc_iff]
    constructor
    · intro hs
      apply Option.ext
      intro pc
      rw [← Option.mem_toList, hs.1, Option.mem_toList]
    · intro hs
      rw [hs]
      exact ⟨rfl, rfl⟩

/-- The disconnect cleanup leaves the PC and the memory that a DETACH leaves. -/
def LeavesAlike {T : Type} (env : SessionEnvironment T) (s : Session) (t : T) (target : Target)
    (message : List UInt8) : Prop :=
  target.after (writesFrom env s t [.disconnect]) =
    target.after (writesFrom env s t [.request message])

/-- A state in which the cleanup, which never writes a PC, leaves what DETACH leaves. Over a dead
transport DETACH does nothing. -/
def CleanupAgrees (s : Session) (stop : StopDetect) (target : Target) : Prop :=
  if s.transportDead then restored target.memory s.swTable = target.memory
  else ∀ address, s.leavingPc stop = some address → address.toUInt32 = target.pc

/-- For every halted or running session a run reaches, every stop and every target, with a backend
that succeeds: the disconnect cleanup leaves the memory and the PC that DETACH with KEEP_HALTED
leaves if and only if there is no logical PC to write, or the raw PC is that PC already. -/
theorem leaves_alike_iff {T₀ T : Type} (env₀ : SessionEnvironment T₀) (t₀ : T₀)
    (inputs : List Input) (env : SessionEnvironment T) (t : T) (stop : StopDetect) (target : Target)
    (message : List UInt8)
    (live : (playSession env₀ (freshWorld t₀) inputs).state.state = .halted ∨
      (playSession env₀ (freshWorld t₀) inputs).state.state = .running)
    (ob : Obliging env stop) (halted : stop.halted = true) (valid : ValidRequest message)
    (op : requestOp (MsgHeader.parse message).opcode = some .detach)
    (keep : checkDetach (message.drop headerSize) = .ok DetachAction.keepHalted) :
    let s := (playSession env₀ (freshWorld t₀) inputs).state
    LeavesAlike env s t target message ↔ CleanupAgrees s stop target := by
  intro s
  have ready := (run_invariant (P := fun _ _ => True) env₀ t₀ inputs trivial
    fun _ _ _ _ _ _ _ => trivial).2
  have attached : s.attached = true := (ready.engaged live).attached
  have request : DetachRequest message := ⟨valid, op, _, keep⟩
  have cleanup : targetWrites (writesFrom env s t [.disconnect]) =
      pcWrite none ++ restoreWrites s.swTable := disconnect_writes ob halted attached
  rw [LeavesAlike, CleanupAgrees, target.after_eq cleanup]
  by_cases dead : s.transportDead = true
  · have direct := (dead_writes env t message dead).1
    rw [if_pos dead, Target.after, direct]
    simp [Target.ext_iff]
  · have alive : s.transportDead = false := Bool.eq_false_of_not_eq_true dead
    have direct := detach_writes (t := t) ob request alive live
    rw [if_neg dead, target.after_eq direct]
    cases s.leavingPc stop with
    | none => simp
    | some address =>
      have same : target.pc = address.toUInt32 ↔ address.toUInt32 = target.pc := eq_comm
      simpa using same

/-! A client attaches, and runs the target with a software breakpoint at `0x20000100`. -/

def breakpointRun : List Input :=
  [.request (requestMessage .attach 1 [0, 0, 0, 0, 0, 1, 0, 0]),
    .request (runMessage 2 1 RunAction.continueRun 0 [softwareBreakpoint 1 0x20000100])]

/-- The backend's answers, the last of which is the poll behind RUN. -/
def breakpointAnswers : List Answer :=
  [{ info := debugTarget }, { stop := { halted := true } }, { data := [0x11, 0x22] }, {}, {}, {},
    {}, {}, {}]

/-- The session those inputs lead to. -/
def breakpointSession : Session :=
  (playSession scripted (freshWorld breakpointAnswers) breakpointRun).state

def detachMessage : List UInt8 := requestMessage .detach 3 [DetachAction.keepHalted, 0, 0, 0]

/-- A backend that always succeeds and reports one stop, with a sink that takes every frame. -/
def obliging (stop : StopDetect) : SessionEnvironment Unit
  | _, .call _ _ => ({ stop := stop }, ())
  | _, .offer _ => (true, ())

theorem obliging_ob (stop : StopDetect) : Obliging (obliging stop) stop :=
  ⟨fun _ _ _ => rfl, fun _ _ _ => rfl, fun _ _ => rfl⟩

theorem detachMessage_request : DetachRequest detachMessage :=
  ⟨⟨by decide, by decide, by decide, by decide⟩, by decide, DetachAction.keepHalted, by rfl⟩

theorem breakpointSession_running : breakpointSession.state = .running := by decide +kernel

/-- The target stopped past the patch. -/
def pastPatch : Target := ⟨0x20000102, Buffer.zero⟩

def breakpointStop : StopDetect := { halted := true, dfsr := Dfsr.bkpt, pc := 0x20000102 }

/-- The same stop with a watchpoint trap beside the breakpoint. -/
def trappedStop : StopDetect := { breakpointStop with dfsr := Dfsr.bkpt ||| Dfsr.dwtTrap }

/-- A plain breakpoint hit is the same on both paths. -/
theorem poll_irrelevant_breakpoint :
    PollIrrelevant (obliging breakpointStop) breakpointSession () pastPatch detachMessage ↔
      breakpointSession.transportDead = true ∨
        PollAgrees (obliging breakpointStop) breakpointSession () breakpointStop pastPatch :=
  poll_irrelevant_iff scripted breakpointAnswers breakpointRun (obliging breakpointStop) ()
    breakpointStop pastPatch detachMessage breakpointSession_running (obliging_ob _) rfl
    detachMessage_request

/-- With a watchpoint trap beside the breakpoint the poll forgets the PC that DETACH writes. -/
theorem poll_moves_pc :
    breakpointSession.state = .running ∧
      ¬PollIrrelevant (obliging trappedStop) breakpointSession () pastPatch detachMessage := by
  refine ⟨breakpointSession_running, fun hp => ?_⟩
  have direct : pcWrites (writesFrom (obliging trappedStop) breakpointSession ()
      [.request detachMessage]) = [0x20000100] := by decide +kernel
  have polled : pcWrites (writesFrom (obliging trappedStop) breakpointSession ()
      [.poll, .request detachMessage]) = [] := by decide +kernel
  have same := hp.1
  rw [direct, polled] at same
  exact absurd same (by decide)

/-! The next poll sees the breakpoint. -/

def hitRun : List Input := breakpointRun ++ [.poll]

def hitAnswers : List Answer := breakpointAnswers ++ [{ stop := breakpointStop }]

def hitSession : Session := (playSession scripted (freshWorld hitAnswers) hitRun).state

theorem hitSession_halted :
    hitSession.state = .halted ∧ hitSession.pendingPc = some 0x20000100 := by decide +kernel

/-- At the raw PC the logical one, nothing is lost. -/
theorem leaves_alike_at_address :
    LeavesAlike (obliging breakpointStop) hitSession () ⟨0x20000100, Buffer.zero⟩ detachMessage ↔
      CleanupAgrees hitSession breakpointStop ⟨0x20000100, Buffer.zero⟩ :=
  leaves_alike_iff scripted hitAnswers hitRun (obliging breakpointStop) () breakpointStop
    ⟨0x20000100, Buffer.zero⟩ detachMessage (Or.inl hitSession_halted.1) (obliging_ob _) rfl
    detachMessage_request.valid detachMessage_request.op rfl

/-- Halted by the breakpoint, the cleanup leaves the PC behind the patch. -/
theorem cleanup_leaves_raw_pc :
    hitSession.state = .halted ∧ hitSession.pendingPc = some 0x20000100 ∧
      ¬LeavesAlike (obliging breakpointStop) hitSession () pastPatch detachMessage := by
  refine ⟨hitSession_halted.1, hitSession_halted.2, fun alike => ?_⟩
  have cleanup : (pastPatch.after (writesFrom (obliging breakpointStop) hitSession ()
      [.disconnect])).pc = 0x20000102 := by decide +kernel
  have detach : (pastPatch.after (writesFrom (obliging breakpointStop) hitSession ()
      [.request detachMessage])).pc = 0x20000100 := by decide +kernel
  rw [alike, detach] at cleanup
  exact absurd cleanup (by decide)

end SidpClient
