import SidpClient.CallGuards

/-! What DETACH and the disconnect cleanup write to a halted target while the backend succeeds. -/
namespace SidpClient
open LittleEndian Interactive

/-! The target as far as its program sees it. -/

def Call.writesTarget : Call → Bool
  | .writeRegs _ => true
  | .writeMem _ _ _ _ => true
  | _ => false

/-- The writes of a history, in order. -/
def targetWrites (h : SessionHistory) : List Call :=
  ((calls h).map Prod.fst).filter Call.writesTarget

@[ext]
structure Target where
  pc : UInt32
  memory : Buffer

/-- The PC a register write carries. -/
def writtenPc (data : List UInt8) : Option UInt32 :=
  ((registerEntries (getU8 data) data.length).find? fun entry =>
    entry.registerId == armRegPc && entry.valueSize == 4).map fun entry =>
      getU32 data (entry.offset + registerValueSize)

def Target.apply (target : Target) : Call → Target
  | .writeRegs data => { target with pc := (writtenPc data).getD target.pc }
  | .writeMem _ address data _ => { target with memory := target.memory.write address.toNat data }
  | _ => target

/-- The target after the writes of a history, each of which succeeded. -/
def Target.after (target : Target) (h : SessionHistory) : Target :=
  (targetWrites h).foldl Target.apply target

def Call.writtenPc : Call → Option UInt32
  | .writeRegs data => SidpClient.writtenPc data
  | _ => none

/-- The PCs written in a history. -/
def pcWrites (h : SessionHistory) : List UInt32 := (targetWrites h).filterMap Call.writtenPc

/-! What the session means to write. -/

/-- The PC of a pending step-over. -/
def Session.pendingPc (s : Session) : Option UInt64 :=
  if s.swStepOverPending then some s.swStepOverAddress else none

/-- The PC `op_detach` leaves when it halts a running target itself. -/
def Session.directPc (s : Session) (stop : StopDetect) : Option UInt64 :=
  match softwareHit s.swTable stop with
  | some bp => some bp.address
  | none => s.pendingPc

/-- The PC DETACH leaves, if it writes one. -/
def Session.leavingPc (s : Session) (stop : StopDetect) : Option UInt64 :=
  if s.state = .running then s.directPc stop else s.pendingPc

def pcWrite : Option UInt64 → List Call
  | some address => [.writeRegs (pcEntryBytes address.toUInt32)]
  | none => []

def restoreWrite (entry : SwBp) : Call :=
  .writeMem .restore entry.address entry.originalBytes MemWidth.default

def restoreWrites (table : List SwBp) : List Call :=
  (table.filter (·.installed)).map restoreWrite

/-- Memory with the original instructions of a table. -/
def restored (memory : Buffer) (table : List SwBp) : Buffer :=
  (table.filter (·.installed)).foldl
    (fun memory entry => memory.write entry.address.toNat entry.originalBytes) memory

variable {s s₁ : Session} {h : SessionHistory} {c : Call} {a : Answer} {f : List UInt8}
  {accepted : Bool}

theorem targetWrites_append (h evs : SessionHistory) :
    targetWrites (h ++ evs) = targetWrites h ++ targetWrites evs := by
  simp [targetWrites, calls_append]

@[simp] theorem targetWrites_call :
    targetWrites (h ++ [⟨.call s c, a⟩]) =
      targetWrites h ++ if c.writesTarget then [c] else [] := by
  rw [targetWrites_append]
  cases hw : c.writesTarget with
  | true => simp [targetWrites, calls, hw]
  | false => simp [targetWrites, calls, hw]

@[simp] theorem targetWrites_offer :
    targetWrites (h ++ [⟨.offer f, accepted⟩]) = targetWrites h := by
  rw [targetWrites_append]
  exact List.append_nil _

theorem writtenPc_pcEntryBytes (pc : UInt32) : writtenPc (pcEntryBytes pc) = some pc := by
  have entries : registerEntries (getU8 (pcEntryBytes pc)) (pcEntryBytes pc).length =
      [⟨0, armRegPc, 4, RegisterFlag.none⟩] := rfl
  have value : getU32 (pcEntryBytes pc) (0 + registerValueSize) = pc := ofNat_leNat_le32 pc
  rw [writtenPc, entries, List.find?_cons_of_pos (by decide), Option.map_some]
  exact congrArg some value

theorem apply_pcWrite (target : Target) (address : Option UInt64) :
    (pcWrite address).foldl Target.apply target =
      { target with pc := (address.map (·.toUInt32)).getD target.pc } := by
  cases address with
  | none => rfl
  | some address =>
    rw [pcWrite, List.foldl_cons, List.foldl_nil, Target.apply, writtenPc_pcEntryBytes]
    rfl

theorem apply_restoreWrites (target : Target) (table : List SwBp) :
    (restoreWrites table).foldl Target.apply target =
      { target with memory := restored target.memory table } := by
  rw [restoreWrites, restored]
  induction table.filter (·.installed) generalizing target with
  | nil => rfl
  | cons entry entries ih =>
    rw [List.map_cons, List.foldl_cons, List.foldl_cons, ih]
    rfl

/-! Runs against a backend that succeeds and reports one stop. -/

/-- Every backend call succeeds, and the target is seen halted by one stop. Of the sink nothing is
said. -/
structure Obliging {T : Type} (env : SessionEnvironment T) (stop : StopDetect) : Prop where
  call : ∀ t s c, (env t (.call s c)).1.code = .ok
  halt : ∀ t s timeout, (env t (.call s (.halt timeout))).1.stop = stop
  poll : ∀ t s, (env t (.call s .pollHalted)).1.stop = stop

section
variable {T : Type} {env : SessionEnvironment T} {stop : StopDetect} {t : T}

@[simp] theorem updateTable_runs {f : List SwBp → List SwBp}
    {Q : Unit → Session → T → SessionHistory → Prop} :
    (updateTable f).runs env s t h Q ↔ Q () (s.withTable (f s.swTable)) t h := updateSession_runs

/-- One turn of the restoring loop: the entry is written back, if it holds a patch. -/
theorem swBpRestoreTurn_obliging {kept : Bool × ℕ} {index : ℕ} {entry : SwBp}
    {Q : Bool × ℕ → Session → T → SessionHistory → Prop} (ob : Obliging env stop)
    (get : s.swTable[index]? = some entry)
    (hQ : ∀ t' h', targetWrites h' = targetWrites h ++ restoreWrites [entry] →
      Q kept (s.withTable (s.swTable.modify index SwBp.uninstall)) t' h') :
    (swBpRestoreTurn kept index).runs env s t h Q := by
  simp only [swBpRestoreTurn, swBpRestoreOne, Action.runs_bind, getSession_runs, get,
    Action.runs_ite, Action.runs_pure, backend_runs, ob.call, updateTable_runs]
  refine ⟨fun out => ⟨fun _ => ?_, fun hf => absurd trivial hf⟩, fun inst =>
    ⟨fun _ => ⟨fun _ => ?_, fun hf => absurd rfl hf⟩, fun hf => absurd trivial hf⟩⟩
  · have hout : entry.installed = false := by simpa using out
    have same := hQ t h (by rw [restoreWrites, List.filter_cons_of_neg (by simp [hout])]; simp)
    rw [modify_uninstall get hout] at same
    exact same
  · have hinst : entry.installed = true := by simpa using inst
    apply hQ
    rw [targetWrites_call, restoreWrites, List.filter_cons_of_pos hinst]
    rfl

/-- The loop of `sw_bp_restore_all` writes back every patch, in the order of the table, and keeps no
entry. -/
theorem swBpRestoreAll_obliging {Q : Bool → Session → T → SessionHistory → Prop}
    (ob : Obliging env stop)
    (hQ : ∀ t' h', targetWrites h' = targetWrites h ++ restoreWrites s.swTable →
      Q true (s.withTable []) t' h') :
    swBpRestoreAll.runs env s t h Q := by
  simp only [swBpRestoreAll, Action.runs_bind, getSession_runs, updateTable_runs, Action.runs_pure]
  let Turned (kept : Bool × ℕ) (index : ℕ) (s' : Session) (_ : T) (h' : SessionHistory) : Prop :=
    kept = (true, 0) ∧ ∃ table, s' = s.withTable table ∧
      (∀ i, index ≤ i → table[i]? = s.swTable[i]?) ∧
      targetWrites h' = targetWrites h ++ restoreWrites (s.swTable.take index)
  have start : Turned (true, 0) 0 s t h :=
    ⟨rfl, s.swTable, rfl, fun _ _ => rfl, (List.append_nil _).symm⟩
  apply Action.runs_mono (Action.runs_foldFrom (fun kept index s₁ t₁ h₁ hlt hI => ?_)
    (Nat.zero_add _) start)
  · intro kept s' t' evs hI
    obtain ⟨rfl, table, rfl, -, writes⟩ := hI
    rw [List.take_length] at writes
    exact hQ t' _ writes
  · obtain ⟨rfl, table, rfl, ahead, writes⟩ := hI
    have get : table[index]? = some s.swTable[index] :=
      (ahead index le_rfl).trans (List.getElem?_eq_getElem hlt)
    apply swBpRestoreTurn_obliging ob get
    intro t₂ h₂ writes₂
    refine ⟨rfl, table.modify index SwBp.uninstall, rfl, fun i hi => ?_, ?_⟩
    · rw [← ahead i (by omega)]
      exact List.getElem?_modify_ne _ _ (by omega)
    · rw [writes₂, writes, List.append_assoc, List.take_succ_eq_append_getElem hlt, restoreWrites,
        restoreWrites, restoreWrites, List.filter_append, List.map_append]

theorem targetWrites_offered {P : List UInt8 → Prop} {dead : Bool} {evs : SessionHistory}
    (ho : Offered s P dead evs) : targetWrites (h ++ evs) = targetWrites h := by
  rcases ho with ⟨-, -, rfl⟩ | ⟨-, f, accepted, -, -, rfl⟩
  · rw [List.append_nil]
  · exact targetWrites_offer

/-- A response writes nothing to the target. -/
theorem respond_unwriting {opcode : UInt16} {requestId : UInt32} {status : Status}
    {Q : Unit → Session → T → SessionHistory → Prop}
    (hQ : ∀ b dead t' h', targetWrites h' = targetWrites h → Q () (s.framed b 16 dead) t' h') :
    (respond opcode requestId status).runs env s t h Q := by
  apply Action.runs_of_wp
  apply respond_wp
  intro b dead evs ho evs' _ _
  exact hQ b dead _ _ (targetWrites_offered ho)

theorem writeCurrentPc_obliging {pc : UInt32} {Q : Bool → Session → T → SessionHistory → Prop}
    (ob : Obliging env stop)
    (hQ : ∀ t' h', targetWrites h' = targetWrites h ++ [.writeRegs (pcEntryBytes pc)] →
      Q true s t' h') :
    (writeCurrentPc pc).runs env s t h Q := by
  simp only [writeCurrentPc, Action.runs_bind, backend_runs, Action.runs_pure, ob.call, decide_true]
  exact hQ _ _ targetWrites_call

theorem releaseTarget_obliging {requestId : UInt32} {action : UInt8}
    {Q : Unit → Session → T → SessionHistory → Prop} (ob : Obliging env stop)
    (hQ : ∀ s' t' h', targetWrites h' = targetWrites h ++ restoreWrites s.swTable → Q () s' t' h') :
    (releaseTarget requestId action).runs env s t h Q := by
  simp only [releaseTarget, Action.runs_bind]
  apply swBpRestoreAll_obliging ob
  intro t₁ h₁ hw₁
  simp only [Bool.not_true, Bool.false_eq_true, if_false, Action.runs_bind, backend_runs, ob.call,
    ne_eq, not_true_eq_false, updateSession_runs]
  apply respond_unwriting
  intro b dead t₂ h₂ hw₂
  apply hQ
  rw [hw₂, targetWrites_call, hw₁, if_neg (by simp [Call.writesTarget]), List.append_nil]

end

/-! Taking the snapshot of a stop only reads. -/

/-- Between two histories nothing was written to the target, and the sink turned down no frame. -/
structure Unwritten (h h' : SessionHistory) : Prop where
  writes : targetWrites h' = targetWrites h
  taken : Rejected h' ↔ Rejected h

theorem Unwritten.refl (h : SessionHistory) : Unwritten h h := ⟨rfl, Iff.rfl⟩

theorem rejected_call : Rejected (h ++ [⟨.call s c, a⟩]) ↔ Rejected h := by
  simp [Rejected]

theorem rejected_offer :
    Rejected (h ++ [⟨.offer f, accepted⟩]) ↔ Rejected h ∨ accepted = false := by
  simp [Rejected, exists_or]

theorem Unwritten.trans {h' h'' : SessionHistory} (first : Unwritten h h')
    (rest : Unwritten h' h'') :
    Unwritten h h'' := ⟨rest.writes.trans first.writes, rest.taken.trans first.taken⟩

theorem Unwritten.call {h' : SessionHistory} (same : Unwritten h h') (hc : c.writesTarget = false) :
    Unwritten h (h' ++ [⟨.call s c, a⟩]) := by
  refine ⟨?_, rejected_call.trans same.taken⟩
  rw [targetWrites_call, hc, same.writes]
  exact List.append_nil _

/-- The session with another snapshot of registers and stack. -/
def Session.withSnapshot (s : Session) (registers : Buffer) (registersSize : ℕ)
    (stackAddress : UInt64) (stackSize : ℕ) : Session :=
  { s with
    pendingRegisters := registers, pendingRegistersSize := registersSize,
    pendingStackAddress := stackAddress, pendingStackSize := stackSize }

/-- Two sessions that differ in the snapshot only. -/
def SameButSnapshot (s s' : Session) : Prop := ∃ registers n address m,
  s' = s.withSnapshot registers n address m

theorem SameButSnapshot.refl (s : Session) : SameButSnapshot s s := ⟨_, _, _, _, rfl⟩

theorem captureStackSnapshot_reads (fits : s.pendingRegistersSize ≤ snapshotBlobCapacity)
    (empty : s.pendingStackSize = 0) :
    captureStackSnapshot.wp s h fun _ s' h' =>
      Unwritten h h' ∧ SameButSnapshot s s' ∧ SnapshotFits s' := by
  have hsame : Unwritten h h ∧ SameButSnapshot s s ∧ SnapshotFits s :=
    ⟨Unwritten.refl h, SameButSnapshot.refl s, by rwa [SnapshotFits, empty, Nat.add_zero]⟩
  simp only [captureStackSnapshot, Action.wp_bind, getSession_wp]
  cases findRegister s.pendingRegisters s.pendingRegistersSize armRegSp with
  | none => exact hsame
  | some entry =>
    simp only
    generalize getU32 (s.pendingRegisters.read (entry.offset + registerValueSize) 4) 0 = sp
    cases hregion : stackRegion s.regions sp with
    | none => exact hsame
    | some region =>
      simp only
      cases hwindow : stackWindow region sp s.pendingRegistersSize with
      | none => exact hsame
      | some window =>
        obtain ⟨start, size⟩ := window
        have hsize := (stackWindow_some (stackRegion_some hregion).2.2.2 hwindow).2
        simp only [Action.wp_bind, backend_wp, updateSession_wp, Action.wp_ite, Action.wp_pure]
        intro a
        refine ⟨fun _ => ⟨(Unwritten.refl h).call rfl, ⟨_, _, _, _, rfl⟩, ?_⟩,
          fun _ => ⟨(Unwritten.refl h).call rfl, ⟨_, _, _, _, rfl⟩, ?_⟩⟩
        · show s.pendingRegistersSize + s.pendingStackSize ≤ _
          omega
        · show s.pendingRegistersSize + size ≤ _
          omega

theorem captureSnapshot_reads (empty : s.pendingRegistersSize = 0 ∧ s.pendingStackSize = 0) :
    captureSnapshot.wp s h fun _ s' h' =>
      Unwritten h h' ∧ SameButSnapshot s s' ∧ SnapshotFits s' := by
  obtain ⟨hregs, hstack⟩ := empty
  have fits : s.pendingRegistersSize + s.pendingStackSize ≤ snapshotBlobCapacity := by
    rw [hregs, hstack]
    exact Nat.zero_le _
  simp only [captureSnapshot, Action.wp_bind, getSession_wp, Action.wp_ite, Action.wp_pure,
    backend_wp, updateSession_wp]
  have asked (a : Answer) : Unwritten h
      (h ++ [⟨.call s (.readRegs [] snapshotBlobCapacity), a⟩]) :=
    (Unwritten.refl h).call rfl
  refine ⟨fun _ a => ⟨fun hok => ?_, fun _ => ?_⟩,
    fun _ => ⟨Unwritten.refl h, SameButSnapshot.refl s, fits⟩⟩
  · refine Action.wp_mono (captureStackSnapshot_reads (by exact hok.2) (by exact hstack)) ?_
    intro _ s' evs hr
    obtain ⟨same, ⟨registers, n, address, m, rfl⟩, fits'⟩ := hr
    exact ⟨(asked a).trans same, ⟨registers, n, address, m, rfl⟩, fits'⟩
  · exact ⟨asked a, ⟨_, _, _, _, rfl⟩, fits⟩

/-- The session that has entered a stop, before its snapshot. -/
def Session.entered (s : Session) (stop : StopDetect) : Session :=
  (s.nextStop (classifyStop s stop)).stoppedWith stop (classifyStop s stop)

theorem enterHalted_reads {stop : StopDetect} (live : s.state ≠ .lost) (next : s.stopId + 1 ≠ 0) :
    (enterHalted stop).wp s h fun _ s' h' =>
      Unwritten h h' ∧ SameButSnapshot (s.entered stop) s' ∧ SnapshotFits s' := by
  simp only [enterHalted, Action.wp_bind, getSession_wp, Action.wp_ite, Action.wp_pure,
    updateSession_wp]
  exact ⟨fun hl => absurd hl live, fun _ => ⟨fun wrap => absurd wrap next, fun _ =>
    captureSnapshot_reads ⟨rfl, rfl⟩⟩⟩

/-- A wrapped generation ends the session without a write. -/
theorem enterHalted_wrapped {stop : StopDetect} (live : s.state ≠ .lost) (wrap : s.stopId + 1 = 0) :
    (enterHalted stop).wp s h fun _ s' h' => targetWrites h' = targetWrites h ∧
    s'.state = .lost := by
  simp only [enterHalted, Action.wp_bind, getSession_wp, Action.wp_ite, Action.wp_pure,
    updateSession_wp]
  refine ⟨fun hl => absurd hl live, fun _ => ⟨fun _ => ?_, fun next => absurd wrap next⟩⟩
  apply enterLost_wp
  · intro hl
    exact absurd hl live
  · intro _ b dead evs ho
    exact ⟨targetWrites_offered ho, rfl⟩

section
variable {T : Type} {env : SessionEnvironment T} {stop : StopDetect} {t : T}

/-- Reporting a stop over a live transport writes nothing, and the transport dies where the sink
turns the report down. -/
theorem emitPendingStopped_unwriting {Q : Unit → Session → T → SessionHistory → Prop}
    (alive : s.transportDead = false) (fits : SnapshotFits s) (state : s.state = .halted)
    (unreported : s.stopReported = false)
    (hQ : ∀ b n dead t' h', targetWrites h' = targetWrites h →
      (Rejected h' ↔ Rejected h ∨ dead = true) →
      Q () ({ s with stopReported := !dead }.framed b n dead) t' h') :
    emitPendingStopped.runs env s t h Q := by
  apply Action.runs_of_wp
  simp only [emitPendingStopped, Action.wp_bind, getSession_wp, Action.wp_ite, Action.wp_pure]
  refine ⟨fun hr => absurd hr (by simp [unreported, state]), fun _ => ?_⟩
  apply sendStopped_wp fits
  intro b n dead evs ho evs' _ _
  refine hQ b n dead _ _ (targetWrites_offered ho) ?_
  rcases ho with ⟨hd, -⟩ | ⟨-, f, accepted, -, rfl, rfl⟩
  · exact absurd (alive.symm.trans hd) Bool.false_ne_true
  · rw [rejected_offer, Bool.not_eq_true']

/-- What a poll of a running target leaves when it sees a stop. A report that the sink turns down
leaves a dead transport. -/
theorem handlePoll_obliging {Q : Unit → Session → T → SessionHistory → Prop}
    (ob : Obliging env stop) (halted : stop.halted = true) (alive : s.transportDead = false)
    (state : s.state = .running) (attached : s.attached = true)
    (hwrap : s.stopId + 1 = 0 → ∀ s' t' h', targetWrites h' = targetWrites h → s'.state = .lost →
      Q () s' t' h')
    (hnext : s.stopId + 1 ≠ 0 → ∀ s' t' h', targetWrites h' = targetWrites h → s'.state = .halted →
      (Rejected h' ↔ Rejected h ∨ s'.transportDead = true) →
      s'.pendingPc = (classifyStop s stop).stepOver → s'.swTable = s.swTable → Q () s' t' h') :
    handlePoll.runs env s t h Q := by
  have live : s.state ≠ .lost := by simp [state]
  have idle : ¬(s.transportDead = true ∨ s.state ≠ .running ∨ (!s.attached) = true) := by
    simp [alive, state, attached]
  simp only [handlePoll, pollStop, Action.runs_bind, getSession_runs, Action.runs_ite,
    Action.runs_pure, backend_runs, ob.call, ob.poll, halted]
  refine ⟨fun hi => absurd hi idle, fun _ => ⟨fun hf => absurd rfl hf, fun _ =>
    ⟨fun _ => ?_, fun hf => absurd trivial hf⟩⟩⟩
  by_cases wrap : s.stopId + 1 = 0
  · apply Action.runs_of_wp
    apply Action.wp_mono (enterHalted_wrapped live wrap)
    intro _ s₁ evs hr _ he answered
    obtain ⟨hw, lost⟩ := hr
    simp only [emitPendingStopped, Action.runs_bind, getSession_runs, Action.runs_ite,
      Action.runs_pure]
    refine ⟨fun _ => hwrap wrap _ _ _ ?_ lost, fun hn => absurd (Or.inr (by simp [lost])) hn⟩
    rw [hw, targetWrites_call]
    exact List.append_nil _
  · apply Action.runs_of_wp
    apply Action.wp_mono (enterHalted_reads live wrap)
    intro _ s₁ evs hr _ he answered
    obtain ⟨same, ⟨registers, n, address, m, rfl⟩, fits⟩ := hr
    have asked := ((Unwritten.refl h).call (s := s) (c := .pollHalted)
      (a := (env t (.call s .pollHalted)).1) rfl).trans same
    refine emitPendingStopped_unwriting (by exact alive) fits rfl rfl ?_
    intro b n' dead t₂ h₂ hw₂ taken
    refine hnext wrap _ t₂ h₂ (hw₂.trans asked.writes) (by rfl) ?_ ?_ (by rfl)
    · rw [taken, asked.taken]
      rfl
    · -- the pending step-over is the one the classification found
      show (if (classifyStop s stop).stepOver.isSome then
        some ((classifyStop s stop).stepOver.getD 0) else none) = _
      cases (classifyStop s stop).stepOver with
      | none => rfl
      | some address => rfl

theorem haltForDetach_obliging {requestId : UInt32} {Q : Bool → Session → T → SessionHistory → Prop}
    (ob : Obliging env stop)
    (hQ : ∀ s' t' h', targetWrites h' = targetWrites h → s'.pendingPc = s.leavingPc stop →
      s'.swTable = s.swTable → Q true s' t' h') :
    (haltForDetach requestId).runs env s t h Q := by
  simp only [haltForDetach, Action.runs_bind, getSession_runs, Action.runs_ite, Action.runs_pure,
    backend_runs, ob.call, ob.halt]
  have leaving : s.leavingPc stop = if s.state = .running then s.directPc stop else s.pendingPc :=
    rfl
  have direct : s.directPc stop = match softwareHit s.swTable stop with
    | some bp => some bp.address
    | none => s.pendingPc := rfl
  refine ⟨fun idle => ?_, fun running => ⟨fun hf => absurd rfl hf, fun _ => ?_⟩⟩
  · rw [if_neg idle] at leaving
    exact hQ s t h rfl leaving.symm rfl
  · rw [if_pos (not_not.mp running)] at leaving
    have asked : targetWrites (h ++ [⟨.call s (.halt haltTimeoutMs),
        (env t (.call s (.halt haltTimeoutMs))).1⟩]) = targetWrites h := by
      rw [targetWrites_call]
      exact List.append_nil _
    cases hit : softwareHit s.swTable stop with
    | none =>
      rw [hit] at direct
      simp only [Action.runs_pure]
      exact hQ _ _ _ asked (leaving.trans direct).symm rfl
    | some bp =>
      rw [hit] at direct
      simp only [Action.runs_bind, updateSession_runs, Action.runs_pure]
      exact hQ _ _ _ asked (leaving.trans direct).symm rfl

/-- What DETACH writes: the logical PC, if there is one, and the original instructions. -/
theorem opDetach_obliging {requestId : UInt32} {payload : List UInt8} {action : UInt8}
    {Q : Unit → Session → T → SessionHistory → Prop} (ob : Obliging env stop)
    (valid : checkDetach payload = .ok action)
    (hQ : ∀ s' t' h', targetWrites h' =
      targetWrites h ++ pcWrite (s.leavingPc stop) ++ restoreWrites s.swTable → Q () s' t' h') :
    (opDetach requestId payload).runs env s t h Q := by
  simp only [opDetach, valid, Action.runs_bind]
  apply haltForDetach_obliging ob
  intro s₁ t₁ h₁ hw₁ pc table
  rw [← pc, ← table, ← hw₁] at hQ
  simp only [Bool.not_true, Bool.false_eq_true, if_false, Action.runs_bind, getSession_runs,
    Action.runs_ite]
  refine ⟨fun pending => ?_, fun idle => ?_⟩
  · apply writeCurrentPc_obliging ob
    intro t₂ h₂ hw₂
    refine ⟨fun hf => absurd hf (by decide), fun _ => ?_⟩
    apply releaseTarget_obliging ob
    intro s' t' h' hw
    apply hQ
    rw [hw, hw₂, Session.pendingPc, if_pos pending]
    rfl
  · apply releaseTarget_obliging ob
    intro s' t' h' hw
    apply hQ
    rw [hw, Session.pendingPc, if_neg idle, pcWrite, List.append_nil]

/-- The disconnect cleanup writes the original instructions and no register. -/
theorem handleDisconnect_obliging {Q : Bool → Session → T → SessionHistory → Prop}
    (ob : Obliging env stop) (halted : stop.halted = true) (attached : s.attached = true)
    (hQ : ∀ b s' t' h', targetWrites h' = targetWrites h ++ restoreWrites s.swTable →
      Q b s' t' h') :
    handleDisconnect.runs env s t h Q := by
  simp only [handleDisconnect, Action.runs_bind, getSession_runs, updateSession_runs,
    Action.runs_ite, Action.runs_pure, backend_runs, ob.call, ob.halt, halted, attached]
  refine ⟨fun hf => absurd hf (by decide), fun _ => ⟨fun hf => absurd hf (by decide), fun _ => ?_⟩⟩
  refine swBpRestoreAll_obliging ob ?_
  intro t₁ h₁ hw₁
  refine ⟨fun hf => absurd hf (by decide), fun _ => ⟨fun hf => absurd rfl hf, fun _ => ?_⟩⟩
  apply hQ
  rw [targetWrites_call, hw₁, targetWrites_call]
  simp [Call.writesTarget]

/-- A DETACH request that the session handles. -/
structure DetachRequest (message : List UInt8) : Prop where
  valid : ValidRequest message
  op : requestOp (MsgHeader.parse message).opcode = some .detach
  action : ∃ action, checkDetach (message.drop headerSize) = .ok action

/-- A handled DETACH. -/
theorem handleRequest_detach {message : List UInt8} {Q : Unit → Session → T → SessionHistory → Prop}
    (ob : Obliging env stop) (request : DetachRequest message) (alive : s.transportDead = false)
    (live : s.state = .halted ∨ s.state = .running)
    (hQ : ∀ s' t' h', targetWrites h' =
      targetWrites h ++ pcWrite (s.leavingPc stop) ++ restoreWrites s.swTable → Q () s' t' h') :
    (handleRequest message).runs env s t h Q := by
  obtain ⟨action, valid⟩ := request.action
  apply handleRequest_runs .detach alive request.valid request.op
  · rcases live with state | state
    · rw [state]
      rfl
    · rw [state]
      rfl
  · exact opDetach_obliging ob valid hQ

/-- In LOST a DETACH is refused. -/
theorem handleRequest_detach_lost {message : List UInt8}
    {Q : Unit → Session → T → SessionHistory → Prop} (request : DetachRequest message)
    (lost : s.state = .lost) (hQ : ∀ s' t' h', targetWrites h' = targetWrites h → Q () s' t' h') :
    (handleRequest message).runs env s t h Q := by
  apply Action.runs_of_wp
  simp only [handleRequest, Action.wp_bind, getSession_wp, Action.wp_ite, Action.wp_pure,
    request.op, lost, gateTable, gateColumn, GateType.refusal]
  have same : ∀ evs, h = h ++ evs → World.Answered env t evs →
      Q () s (World.outsideAfter env t evs) h := fun evs _ _ => hQ _ _ _ rfl
  refine ⟨fun _ => same, fun _ => ⟨fun _ => same, fun _ => ⟨fun _ => same, fun _ => ?_⟩⟩⟩
  apply respond_wp
  intro b dead evs ho evs' _ _
  exact hQ _ _ _ (targetWrites_offered ho)

end

end SidpClient
