import SidpClient.PcView
import SidpClient.ResponseStatuses

/-! The PC the peer was told is the one the session works with, between inputs and within them. -/
namespace SidpClient
open LittleEndian Interactive

/-- The next instruction is at `p`: of a pending step-over the breakpoint, and else where the target
is. -/
def Session.At (s : Session) (actual : Option UInt32) (p : UInt32) : Prop :=
  (s.swStepOverPending = true → p = s.swStepOverAddress.toUInt32) ∧
    (s.swStepOverPending = false → actual = some p)

/-- So far the target was resumed and left as the peer was told. -/
abbrev Truthful (h : SessionHistory) : Prop := Faithful h → EveryEvent PcSound h

/-- The peer was told nothing of the PC since the target last moved. -/
structure Untold (h : SessionHistory) : Prop where
  truthful : Truthful h
  untold : (pcView h).told = none

/-- In a halted session the next instruction is where the peer was told; elsewhere it was told
nothing. -/
structure Agreed (s : Session) (h : SessionHistory) : Prop where
  truthful : Truthful h
  halted : s.state = .halted → Faithful h → ∀ p, (pcView h).told = some p → s.At (pcView h).actual p
  away : s.state = .running ∨ s.state = .detached → (pcView h).told = none

/-- A halt the peer has not been told of, with the PC its registers report. -/
structure Arrived (s : Session) (h : SessionHistory) : Prop where
  before : Untold h
  fits : s.state = .halted → SnapshotFits s
  pc : s.state = .halted → Faithful h → ∀ p,
    reportedPc s.pendingRegisters s.pendingRegistersSize = some p → s.At (pcView h).actual p

variable {s s' : Session} {h h' evs : SessionHistory} {f : List UInt8} {c : Call} {a : Answer}
  {dead : Bool} {opcode : UInt16} {requestId : UInt32} {status : Status} {α : Type}
  {payload : List UInt8}

/-! One event. -/

theorem Truthful.concat {ev : SessionEvent} (ht : Truthful h) (hev : Faithful h → PcSound h ev) :
    Truthful (h ++ [ev]) := by
  intro faithful
  have before := faithful.before
  exact (ht before).concat (hev before)

theorem Untold.agreed (hu : Untold h) : Agreed s h := by
  refine ⟨hu.truthful, fun _ _ p told => ?_, fun _ => hu.untold⟩
  rw [hu.untold] at told
  exact nomatch told

theorem Untold.call (hu : Untold h) : Untold (h ++ [⟨.call s c, a⟩]) := by
  constructor
  · apply hu.truthful.concat
    intro _
    have nothing : ∀ p, (pcView h).told = some p → (pcView h).actual = some p := by
      intro p told
      rw [hu.untold] at told
      exact nomatch told
    cases c with
    | resume => exact nothing
    | detach => exact fun _ => nothing
    | _ => trivial
  · rw [pcView_concat]
    rcases pcStep_told (pcView h) s c a with same | gone
    · rw [same]
      exact hu.untold
    · exact gone

theorem Untold.offer {accepted : Bool} (hu : Untold h) (plain : Plain f) :
    Untold (h ++ [⟨.offer f, accepted⟩]) := by
  constructor
  · exact hu.truthful.concat fun _ => pcSound_plain plain
  · rw [pcView_concat]
    exact (tells_plain plain (pcView h)).trans hu.untold

theorem Untold.offered {P : List UInt8 → Prop} (hu : Untold h) (ho : Offered s P dead evs)
    (hP : ∀ f, P f → Plain f) :
    Untold (h ++ evs) := by
  rcases ho with ⟨-, -, rfl⟩ | ⟨-, f, accepted, hf, -, rfl⟩
  · rw [List.append_nil]
    exact hu
  · exact hu.offer (hP f hf)

theorem Untold.quiet (hu : Untold h) (q : QuietHistory h h') : Untold h' := by
  obtain ⟨evs, rfl, quiet⟩ := q
  induction evs generalizing h with
  | nil =>
    rw [List.append_nil]
    exact hu
  | cons ev evs ih =>
    obtain ⟨e, reply⟩ := ev
    have first := quiet _ List.mem_cons_self
    cases e with
    | offer f => exact absurd first id
    | call s c =>
      rw [List.append_cons]
      exact ih hu.call fun ev hm => quiet ev (List.mem_cons_of_mem _ hm)

/-! Programs that tell the peer nothing of the PC. -/

/-- Told nothing before, the peer is told nothing by the program. -/
abbrev Withholds (m : SessionM α) : Prop := m.Preserves fun _ h => Untold h

theorem withholds_of_quiet {m : SessionM α} (hm : ∀ s h, m.wp s h fun _ _ h' => QuietHistory h h') :
    Withholds m :=
  fun s h hu => Action.wp_mono (hm s h) fun _ _ _ q => hu.quiet q

theorem Withholds.agreed {m : SessionM α} (hm : Withholds m) (hu : Untold h) :
    m.wp s h fun _ => Agreed :=
  Action.wp_mono (hm s h hu) fun _ _ _ untold => untold.agreed

theorem getSession_withholds {f : Session → SessionM α} (hf : ∀ s, Withholds (f s)) :
    Withholds (getSession >>= f) :=
  .get_bind hf

theorem updateSession_withholds (f : Session → Session) :
    Withholds (updateSession f) := .modify fun _ _ hu => hu

theorem backend_withholds (c : Call) : Withholds (backend c) := .ask fun _ _ _ hu => hu.call

theorem respond_withholds
    (refused : status = .ok → opcode ≠ Opcode.readRegisters ∧ opcode ≠ Opcode.writeRegisters) :
    Withholds (respond opcode requestId status) := by
  intro s h hu
  apply respond_wp
  intro b dead evs sent
  exact hu.offered sent fun f hf => hf.plain refused

theorem enterLost_withholds (reason : TargetLostReason) : Withholds (enterLost reason) := by
  intro s h hu
  apply enterLost_wp
  · exact fun _ => hu
  · intro _ b dead evs sent
    exact hu.offered sent fun f hf => hf.header.plain_lost

/-- A response that is no acceptance of a register request. -/
theorem refuse_withholds (error : status ≠ .ok) : Withholds (respond opcode requestId status) :=
  respond_withholds fun ok => absurd ok error

theorem sendBackendFailure_withholds {result : EspErr} {fallback : Status}
    (error : fallback ≠ .ok) :
    Withholds (sendBackendFailure opcode requestId result fallback) := by
  refine .ite (fun _ => .bind (refuse_withholds (by decide)) fun _ => .bind (enterLost_withholds _)
    fun _ => .pure _)
    fun _ => refuse_withholds ?_
  split
  · decide
  · exact error

theorem swBpRestoreAll_withholds : Withholds swBpRestoreAll :=
  withholds_of_quiet fun _ _ => Action.wp_mono swBpRestoreAll_quiet fun _ _ _ done => done.history

theorem handleDisconnect_withholds : Withholds handleDisconnect := by
  have lose : Withholds (do updateSession fun s => { s with state := .lost }; return false) :=
    .bind (updateSession_withholds _) fun _ => .pure _
  exact .bind (updateSession_withholds _) fun _ => getSession_withholds
    fun _ => .ite (fun _ => .pure _) fun _ => .bind (backend_withholds _)
      fun _ => .ite (fun _ => lose) fun _ => .bind swBpRestoreAll_withholds fun _ =>
      .ite (fun _ => lose) fun _ => .bind (backend_withholds _) fun _ => .ite (fun _ => lose)
        fun _ => .bind (updateSession_withholds _) fun _ => .pure _

/-! A halt and its report. -/

theorem Untold.arrived (hu : Untold h) (elsewhere : s.state ≠ .halted) : Arrived s h :=
  ⟨hu, fun halted => absurd halted elsewhere, fun halted => absurd halted elsewhere⟩

theorem reportedPc_nothing (blob : Buffer) : reportedPc blob 0 = none := rfl

/-- The PC a session reports of a register read. -/
def Session.reports (s : Session) (a : Answer) : Option UInt32 :=
  (reportedPc (getU8 a.data) a.outSize).map fun pc => if s.swStepOverPending then
  s.swStepOverAddress.toUInt32 else pc

theorem reportedPc_received (b : Buffer) (base : ℕ) {capacity : ℕ}
    (given : a.outSize ≤ a.data.length) (fits : a.outSize ≤ capacity) :
    reportedPc (fun i => b.write base (a.data.take capacity) (base + i)) a.outSize =
      reportedPc (getU8 a.data) a.outSize := by
  apply reportedPc_congr
  intro i hi
  have inside : base ≤ base + i ∧ base + i < base + (a.data.take capacity).length := by
    rw [List.length_take]
    omega
  have taken : i < capacity := by omega
  simp only [Buffer.write, if_pos inside, Nat.add_sub_cancel_left, getU8,
    List.getD_eq_getElem?_getD, List.getElem?_take, if_pos taken]

/-- The next instruction is where the session reports it after a read. -/
theorem at_reports {s₁ : Session} {ids : List UInt16} {capacity : ℕ} {v : PcView} {p : UInt32}
    (ok : a.code = .ok) (fits : a.outSize ≤ capacity) (reported : s.reports a = some p) :
    s.At (pcStep v ⟨.call s₁ (.readRegs ids capacity), a⟩).actual p := by
  obtain ⟨pc, read, shown⟩ := Option.map_eq_some_iff.mp reported
  constructor
  · intro pending
    rw [← shown, if_pos pending]
  · intro idle
    rw [if_neg (by simp [idle])] at shown
    rw [pcStep, if_pos ⟨ok, fits⟩, read, ← shown]
    rfl

/-- A snapshot with a PC was taken in a register read that showed where the target is. -/
theorem SnapshotTaken.arrived (taken : SnapshotTaken s s' evs) (empty : s.pendingRegistersSize = 0)
    (faithful : Faithful (h ++ evs)) {p : UInt32}
    (reported : reportedPc s'.pendingRegisters s'.pendingRegistersSize = some p) :
    s'.At (pcView (h ++ evs)).actual p := by
  have next : s'.At = s.At := by
    funext actual pc
    rw [Session.At, Session.At, taken.frame]
  have shown (a : Answer) (ok : a.code = .ok) (fits : a.outSize ≤ snapshotBlobCapacity)
      (faithful : Faithful (h ++ [readRegistersEvent s a]))
      (reported : reportedPc (s.withRegisters a).pendingRegisters a.outSize = some p) :
      s.At (pcView (h ++ [readRegistersEvent s a])).actual p := by
    obtain ⟨given, -⟩ := faithful.last ok fits
    have blob := reportedPc_received s.pendingRegisters 0 given fits
    have whole := reportedPc_normalized s (s.received a).pendingRegisters 0 a.outSize
    simp only [Nat.zero_add] at blob whole
    rw [pcView_concat]
    apply at_reports ok fits
    rw [Session.reports, ← blob, ← reported]
    exact whole.symm
  rw [next]
  cases taken with
  | none =>
    rw [empty, reportedPc_nothing] at reported
    exact nomatch reported
  | unread a failed =>
    rw [show (s.received a).pendingRegistersSize = 0 from empty, reportedPc_nothing] at reported
    exact nomatch reported
  | registers a ok fits window => exact shown a ok fits faithful reported
  | stack a ok fits start size window b =>
    have same : ((s.withRegisters a).withStack start size b).pendingRegistersSize = a.outSize := by
      simp only [Session.withStack]
      split <;> rfl
    -- the stack goes behind the registers
    have behind : reportedPc ((s.withRegisters a).withStack start size b).pendingRegisters a.outSize
        = reportedPc (s.withRegisters a).pendingRegisters a.outSize := by
      apply reportedPc_congr
      intro i hi
      simp only [Session.withStack]
      split
      · exact Buffer.write_apply_of_not_mem _ _ _ _ (Or.inl hi)
      · exact Buffer.write_apply_of_not_mem _ _ _ _ (Or.inl hi)
    rw [same, behind] at reported
    rw [List.append_cons] at faithful ⊢
    have read := shown a ok fits faithful.before reported
    have stack : (pcStep (pcView (h ++ [readRegistersEvent s a]))
        ⟨.call (s.withRegisters a) (.readMem .stack start size MemWidth.default), b⟩).actual =
          (pcView (h ++ [readRegistersEvent s a])).actual := (pcStep_free rfl).1
    rw [pcView_concat, stack]
    exact read

theorem enterHalted_arrives (hu : Untold h) (stop : StopDetect) :
    (enterHalted stop).wp s h fun _ => Arrived := by
  apply enterHalted_wp
  · intro lost
    exact hu.arrived (by rw [lost]; decide)
  · intro _ _ b dead evs sent
    have told : Untold (h ++ evs) := hu.offered sent fun f hf => hf.header.plain_lost
    exact told.arrived (by simp [Session.framed])
  · intro _ _ s' evs taken
    exact ⟨hu.quiet taken.quiet, fun _ => taken.fits ⟨rfl, rfl⟩,
      fun _ faithful p reported => taken.arrived rfl faithful reported⟩

theorem actual_offer {accepted : Bool} :
    (pcView (h ++ [⟨.offer f, accepted⟩])).actual = (pcView h).actual := by
  rw [pcView_concat]
  rfl

theorem actual_offered {P : List UInt8 → Prop} (ho : Offered s P dead evs) :
    (pcView (h ++ evs)).actual = (pcView h).actual := by
  rcases ho with ⟨-, -, rfl⟩ | ⟨-, f, accepted, -, -, rfl⟩
  · rw [List.append_nil]
  · exact actual_offer

theorem Arrived.respond {Q : Unit → Session → SessionHistory → Prop} (ha : Arrived s h)
    (refused : status = .ok → opcode ≠ Opcode.readRegisters ∧ opcode ≠ Opcode.writeRegisters)
    (hQ : ∀ b dead evs, Arrived (s.framed b 16 dead) (h ++ evs) →
      Q () (s.framed b 16 dead) (h ++ evs)) :
    (respond opcode requestId status).wp s h Q := by
  apply respond_wp
  intro b dead evs sent
  apply hQ
  refine ⟨ha.before.offered sent fun f hf => hf.plain refused, ha.fits,
    fun halted faithful p reported => ?_⟩
  rw [actual_offered sent]
  exact ha.pc halted faithful.before p reported

/-- The report of a halt tells the peer where the target is. -/
theorem emitPendingStopped_agreed (ha : Arrived s h) :
    emitPendingStopped.wp s h fun _ => Agreed := by
  simp only [emitPendingStopped, Action.wp_bind, getSession_wp, Action.wp_ite, Action.wp_pure]
  refine ⟨fun _ => ha.before.agreed, fun unreported => ?_⟩
  have halted : s.state = .halted := not_not.mp fun other => unreported (Or.inr other)
  apply sendStopped_wp (ha.fits halted)
  intro b n dead evs sent
  rcases sent with ⟨-, -, rfl⟩ | ⟨-, f, accepted, hf, -, rfl⟩
  · rw [List.append_nil]
    exact ha.before.agreed
  · have stopped : isStopped f = true := hf.isStopped
    have read : isAccepted Opcode.readRegisters f = false := by
      have kind : frameKind f = MsgKind.event := hf.header.kind
      rw [isAccepted, isResponse, kind]
      rfl
    have told : (pcView (h ++ [⟨.offer f, accepted⟩])).told =
        reportedPc s.pendingRegisters s.pendingRegistersSize := by
      rw [pcView_concat, ← hf.pc (ha.fits halted)]
      show (pcView h).tells f = _
      rw [PcView.tells, if_pos stopped, ha.before.untold, Option.or_none]
    refine ⟨ha.before.truthful.concat fun _ accepted =>
      absurd (read.symm.trans accepted) Bool.false_ne_true, fun _ faithful p reported =>
        ?_, fun away => ?_⟩
    · rw [told] at reported
      rw [actual_offer]
      exact ha.pc halted faithful.before p reported
    · rcases away with away | away
      · exact absurd (halted.symm.trans away) (by decide)
      · exact absurd (halted.symm.trans away) (by decide)

theorem reportHalt_agreed (hu : Untold h) (stop : StopDetect) :
    (do enterHalted stop; emitPendingStopped : SessionM Unit).wp s h fun _ => Agreed := by
  rw [Action.wp_bind]
  apply Action.wp_mono (enterHalted_arrives hu stop)
  intro _ s' evs arrived
  exact emitPendingStopped_agreed arrived

theorem pollStop_agreed (hu : Untold h) : pollStop.wp s h fun _ => Agreed := by
  simp only [pollStop, Action.wp_bind, backend_wp, Action.wp_ite, Action.wp_pure]
  intro a
  refine ⟨fun _ => (enterLost_withholds _).agreed hu.call, fun _ =>
    ⟨fun _ => ?_, fun _ => hu.call.agreed⟩⟩
  · have reported := reportHalt_agreed (s := s) (hu.call (s := s) (c := .pollHalted)
        (a := a)) a.stop
    rw [Action.wp_bind] at reported
    exact reported

theorem reportStep_agreed (hu : Untold h) (stop : StopDetect) (userStep : Bool) :
    (reportStep requestId stop userStep).wp s h fun _ => Agreed := by
  simp only [reportStep, Action.wp_bind, Action.wp_ite, updateSession_wp]
  apply Action.wp_mono (respond_withholds (fun _ => ⟨by decide, by decide⟩) s h hu)
  intro _ s₁ _ told
  apply Action.wp_mono (enterHalted_arrives told stop)
  intro _ s₂ _ arrived
  exact ⟨fun _ => emitPendingStopped_agreed ⟨arrived.before, arrived.fits, arrived.pc⟩,
    fun _ => emitPendingStopped_agreed arrived⟩

end SidpClient
