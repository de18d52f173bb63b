import SidpClient.CallGuards

/-! The parts of the handlers that send no frame and keep the target where it is. -/
namespace SidpClient
open LittleEndian Interactive

variable {s s' s'' : Session} {h h' h'' : SessionHistory}

/-- A call that neither lets the target run nor resets, takes or leaves it. -/
def Call.routine : Call → Bool
  | .attach _ | .detach _ | .reset _ _ | .resume _ _ => false
  | _ => true

/-- A routine backend call. -/
def QuietEvent : SessionEvent → Prop
  | ⟨.call _ c, _⟩ => c.routine = true
  | ⟨.offer _, _⟩ => False

/-- The history goes on with such calls only. -/
def QuietHistory (h h' : SessionHistory) : Prop :=
  ∃ evs, h' = h ++ evs ∧ ∀ ev ∈ evs, QuietEvent ev

theorem QuietHistory.refl (h : SessionHistory) : QuietHistory h h :=
  ⟨[], (List.append_nil h).symm, fun _ hm => absurd hm List.not_mem_nil⟩

theorem QuietHistory.trans (q : QuietHistory h h') (q' : QuietHistory h' h'') :
    QuietHistory h h'' := by
  obtain ⟨evs, rfl, quiet⟩ := q
  obtain ⟨evs', rfl, quiet'⟩ := q'
  refine ⟨evs ++ evs', List.append_assoc h evs evs', fun ev hm => ?_⟩
  rcases List.mem_append.mp hm with hm | hm
  · exact quiet ev hm
  · exact quiet' ev hm

theorem QuietHistory.call (q : QuietHistory h h') {c : Call} {a : Answer}
    (hc : c.routine = true) :
    QuietHistory h (h' ++ [⟨.call s c, a⟩]) := by
  apply q.trans
  refine ⟨_, rfl, fun ev hm => ?_⟩
  rw [List.mem_singleton.mp hm]
  exact hc

theorem QuietHistory.offered (q : QuietHistory h h') : offered h' = offered h := by
  obtain ⟨evs, rfl, quiet⟩ := q
  have none : SidpClient.offered evs = [] := by
    induction evs with
    | nil => rfl
    | cons ev evs ih =>
      obtain ⟨e, reply⟩ := ev
      cases e with
      | offer f => exact absurd (quiet _ List.mem_cons_self) id
      | call s c =>
        rw [show (⟨.call s c, reply⟩ : SessionEvent) :: evs = [⟨.call s c, reply⟩] ++ evs from rfl,
          offered_append, ih fun ev hm => quiet ev (List.mem_cons_of_mem _ hm)]
        rfl
  rw [offered_append, none, List.append_nil]

/-- The history goes on with routine calls and frames. -/
def Calm (h h' : SessionHistory) : Prop :=
  ∃ evs, h' = h ++ evs ∧ ∀ s c a, (⟨.call s c, a⟩ : SessionEvent) ∈ evs → c.routine = true

theorem Calm.refl (h : SessionHistory) : Calm h h :=
  ⟨[], (List.append_nil h).symm, fun _ _ _ hm => absurd hm List.not_mem_nil⟩

theorem Calm.trans (k : Calm h h') (k' : Calm h' h'') : Calm h h'' := by
  obtain ⟨evs, rfl, calm⟩ := k
  obtain ⟨evs', rfl, calm'⟩ := k'
  refine ⟨evs ++ evs', List.append_assoc h evs evs', fun s c a hm => ?_⟩
  rcases List.mem_append.mp hm with hm | hm
  · exact calm s c a hm
  · exact calm' s c a hm

theorem Calm.offer (f : List UInt8) (accepted : Bool) : Calm h (h ++ [⟨.offer f, accepted⟩]) := by
  refine ⟨_, rfl, fun s c a hm => ?_⟩
  exact absurd (List.mem_singleton.mp hm) (by simp)

theorem QuietHistory.calm (q : QuietHistory h h') : Calm h h' := by
  obtain ⟨evs, rfl, quiet⟩ := q
  exact ⟨evs, rfl, fun s c a hm => quiet _ hm⟩

/-- A property of every call that asks nothing of routine ones. -/
theorem Calm.everyCall {E : Session → SessionHistory → Call → Prop} (k : Calm h h')
    (hE : ∀ s h c, c.routine = true → E s h c) (hall : EveryCall E h) : EveryCall E h' := by
  obtain ⟨evs, rfl, calm⟩ := k
  induction evs generalizing h with
  | nil =>
    rw [List.append_nil]
    exact hall
  | cons ev evs ih =>
    rw [List.append_cons]
    apply ih _ fun s c a hm => calm s c a (List.mem_cons_of_mem _ hm)
    refine hall.concat fun s c a he => hE _ _ _ (calm s c a ?_)
    rw [he]
    exact List.mem_cons_self

/-- Only the shadow table has changed. -/
structure Quiet (s : Session) (h : SessionHistory) (s' : Session) (h' : SessionHistory) : Prop where
  history : QuietHistory h h'
  session : s' = s.withTable s'.swTable

theorem Quiet.refl (s : Session) (h : SessionHistory) : Quiet s h s h := ⟨.refl h, rfl⟩

theorem Quiet.trans (q : Quiet s h s' h') (q' : Quiet s' h' s'' h'') : Quiet s h s'' h'' := by
  refine ⟨q.history.trans q'.history, ?_⟩
  have first := q.session
  have second := q'.session
  generalize s'.swTable = table at first
  generalize s''.swTable = table' at second
  rw [second, first]
  rfl

theorem Quiet.call (q : Quiet s h s' h') {s₁ : Session} {c : Call} {a : Answer}
    (hc : c.routine = true) :
    Quiet s h s' (h' ++ [⟨.call s₁ c, a⟩]) := ⟨q.history.call hc, q.session⟩

theorem Quiet.table (q : Quiet s h s' h') (table : List SwBp) :
    Quiet s h (s'.withTable table) h' := by
  refine ⟨q.history, ?_⟩
  have first := q.session
  generalize s'.swTable = old at first
  rw [first]
  rfl

theorem swBpRestoreOne_quiet (index : ℕ) :
    (swBpRestoreOne index).wp s h fun _ => Quiet s h := by
  simp only [swBpRestoreOne, Action.wp_bind, getSession_wp]
  cases s.swTable[index]? with
  | none => exact Quiet.refl s h
  | some entry =>
    simp only [Action.wp_ite, Action.wp_bind, Action.wp_pure, backend_wp, updateTable_wp]
    refine ⟨fun _ => Quiet.refl s h, fun _ a => ?_⟩
    have called : Quiet s h s (h ++ [⟨.call s
        (.writeMem .restore entry.address entry.originalBytes MemWidth.default), a⟩]) :=
      (Quiet.refl s h).call rfl
    exact ⟨fun _ => called.table _, fun _ => called⟩

theorem swBpRestoreTurn_quiet (kept : Bool × ℕ) (index : ℕ) :
    (swBpRestoreTurn kept index).wp s h fun _ => Quiet s h := by
  simp only [swBpRestoreTurn, Action.wp_bind, Action.wp_ite, Action.wp_pure, updateTable_wp]
  apply Action.wp_mono (swBpRestoreOne_quiet index)
  intro _ _ _ first
  exact ⟨fun _ => first, fun _ => first.table _⟩

theorem swBpRestoreAll_quiet : swBpRestoreAll.wp s h fun _ => Quiet s h := by
  simp only [swBpRestoreAll, Action.wp_bind, getSession_wp, Action.wp_pure, updateTable_wp]
  have turn (kept : Bool × ℕ) (index : ℕ) (s₁ : Session) (h₁ : SessionHistory)
      (_ : index < s.swTable.length) (before : Quiet s h s₁ h₁) :
      (swBpRestoreTurn kept index).wp s₁ h₁ fun _ => Quiet s h := by
    apply Action.wp_mono (swBpRestoreTurn_quiet kept index)
    intro _ _ _ rest
    exact before.trans rest
  apply Action.wp_mono (Action.wp_foldFrom (I := fun _ _ => Quiet s h) turn (Nat.zero_add _)
    (Quiet.refl s h))
  intro _ _ _ turns
  exact turns.table _

theorem swBpInstallOne_quiet (index : ℕ) :
    (swBpInstallOne index).wp s h fun _ => Quiet s h := by
  simp only [swBpInstallOne, Action.wp_bind, updateTable_wp, getSession_wp]
  have marked := (Quiet.refl s h).table (s.swTable.modify index SwBp.install)
  cases (s.withTable (s.swTable.modify index SwBp.install)).swTable[index]? with
  | none => exact marked
  | some entry =>
    simp only [Action.wp_bind, backend_wp, Action.wp_pure]
    exact fun a => marked.call rfl

theorem swBpRecord_quiet (entries : List BpEntry) :
    (swBpRecord entries).wp s h fun _ => Quiet s h := by
  induction entries generalizing s h with
  | nil => exact Quiet.refl s h
  | cons entry entries ih =>
    simp only [swBpRecord, Action.wp_bind, getSession_wp, Action.wp_ite, Action.wp_pure, backend_wp,
      updateTable_wp]
    have called (a : Answer) : Quiet s h s (h ++ [⟨.call s (.readMem .original entry.address
        entry.instructionSize.toNat MemWidth.default), a⟩]) := (Quiet.refl s h).call rfl
    have undo (a : Answer) : swBpRestoreAll.wp s (h ++ [⟨.call s (.readMem .original entry.address
        entry.instructionSize.toNat MemWidth.default), a⟩]) fun _ s' h' => Quiet s h s' h' := by
      apply Action.wp_mono swBpRestoreAll_quiet
      intro _ _ _ rest
      exact (called a).trans rest
    refine ⟨fun _ => swBpRestoreAll_quiet, fun _ => ⟨fun _ => swBpRestoreAll_quiet, fun _ a =>
      ⟨fun _ => undo a, fun _ => ⟨fun _ => undo a, fun _ => ?_⟩⟩⟩⟩
    apply Action.wp_mono ih
    intro _ _ _ rest
    exact ((called a).table _).trans rest

theorem swBpInstallFrom_quiet (n index : ℕ) :
    (swBpInstallFrom index n).wp s h fun _ => Quiet s h := by
  induction n generalizing s h index with
  | zero => exact Quiet.refl s h
  | succ n ih =>
    simp only [swBpInstallFrom, Action.wp_bind, Action.wp_ite, Action.wp_pure]
    apply Action.wp_mono (swBpInstallOne_quiet index)
    intro _ s₁ _ first
    constructor
    · intro _
      apply Action.wp_mono swBpRestoreAll_quiet
      intro _ _ _ rest
      exact first.trans rest
    · intro _
      apply Action.wp_mono (ih (index + 1))
      intro _ _ _ rest
      exact first.trans rest

theorem swBpApply_quiet (entries : List BpEntry) :
    (swBpApply entries).wp s h fun _ => Quiet s h := by
  simp only [swBpApply, Action.wp_bind, Action.wp_ite, Action.wp_pure, getSession_wp]
  apply Action.wp_mono swBpRestoreAll_quiet
  intro _ s₁ _ first
  refine ⟨fun _ => first, fun _ => ?_⟩
  apply Action.wp_mono (swBpRecord_quiet entries)
  intro _ s₂ _ second
  refine ⟨fun _ => first.trans second, fun _ => ?_⟩
  apply Action.wp_mono (swBpInstallFrom_quiet _ _)
  intro _ _ _ rest
  exact (first.trans second).trans rest

theorem swBpRestoreFound_quiet (bp : Option ℕ) :
    (swBpRestoreFound bp).wp s h fun _ => Quiet s h := by
  cases bp with
  | none => exact Quiet.refl s h
  | some index => exact swBpRestoreOne_quiet index

theorem swBpInstallFound_quiet (bp : Option ℕ) :
    (swBpInstallFound bp).wp s h fun _ => Quiet s h := by
  cases bp with
  | none => exact Quiet.refl s h
  | some index => exact swBpInstallOne_quiet index

theorem writeCurrentPc_quiet (pc : UInt32) : (writeCurrentPc pc).wp s h fun _ => Quiet s h := by
  simp only [writeCurrentPc, Action.wp_bind, backend_wp, Action.wp_pure]
  exact fun a => (Quiet.refl s h).call rfl

/-- The history goes on with polls only. -/
def Polled (s : Session) (h h' : SessionHistory) : Prop :=
  ∃ answers : List Answer, h' = h ++ answers.map fun a => ⟨.call s .pollHalted, a⟩

theorem Polled.quiet (p : Polled s h h') : QuietHistory h h' := by
  obtain ⟨answers, rfl⟩ := p
  refine ⟨_, rfl, fun ev hm => ?_⟩
  obtain ⟨a, -, rfl⟩ := List.mem_map.mp hm
  exact rfl

/-- What a poll does not touch is as it was. -/
theorem Polled.view {α : Type} {f : SessionHistory → α} (p : Polled s h h')
    (hf : ∀ h a, f (h ++ [⟨.call s .pollHalted, a⟩]) = f h) : f h' = f h := by
  obtain ⟨answers, rfl⟩ := p
  induction answers generalizing h with
  | nil => rw [List.map_nil, List.append_nil]
  | cons a answers ih =>
    rw [List.map_cons, List.append_cons, ih]
    exact hf h a

theorem pollStepHalted_polled (n : ℕ) :
    (pollStepHalted n).wp s h fun _ s' h' => Polled s h h' ∧ s' = s := by
  induction n generalizing h with
  | zero => exact ⟨⟨[], (List.append_nil h).symm⟩, rfl⟩
  | succ n ih =>
    simp only [pollStepHalted, Action.wp_bind, backend_wp, Action.wp_ite, Action.wp_pure]
    intro a
    have once : Polled s h (h ++ [⟨.call s .pollHalted, a⟩]) := ⟨[a], rfl⟩
    refine ⟨fun _ => ⟨once, trivial⟩, fun _ => ⟨fun _ => ⟨once, trivial⟩, fun _ => ?_⟩⟩
    apply Action.wp_mono ih
    intro _ _ _ rest
    obtain ⟨⟨answers, he⟩, same⟩ := rest
    exact ⟨⟨a :: answers, by rw [he, List.map_cons, ← List.append_cons]⟩, same⟩

/-- The rollback also forgets what the target was run for. -/
theorem rollbackRunConfig_quiet : rollbackRunConfig.wp s h fun _ s' h' =>
    QuietHistory h h' ∧ s' = (s.withTable s'.swTable).clearRunTracking := by
  simp only [rollbackRunConfig, Action.wp_bind, backend_wp, updateSession_wp, Action.wp_pure]
  apply Action.wp_mono swBpRestoreAll_quiet
  intro _ s₁ _ first a₁ a₂ a₃
  refine ⟨((first.history.call (by rfl)).call (by rfl)).call rfl, ?_⟩
  exact congrArg Session.clearRunTracking first.session

/-- The installation also names the hardware breakpoints. -/
theorem installRun_quiet (plan : RunPlan) : (installRun plan).wp s h fun _ s' h' =>
    QuietHistory h h' ∧
      s' = { s.withTable s'.swTable with hwBreakpointIds := s'.hwBreakpointIds } := by
  simp only [installRun, Action.wp_bind, Action.wp_ite, Action.wp_pure, backend_wp,
    updateSession_wp]
  apply Action.wp_mono (swBpApply_quiet _)
  intro _ s₁ _ first
  have named (ids : List UInt32) : { s₁ with hwBreakpointIds := ids } =
      { s.withTable s₁.swTable with hwBreakpointIds := ids } :=
    congrArg (fun s : Session => { s with hwBreakpointIds := ids }) first.session
  have same : s₁ = { s.withTable s₁.swTable with hwBreakpointIds := s₁.hwBreakpointIds } :=
    named s₁.hwBreakpointIds
  refine ⟨fun _ => ⟨first.history, same⟩, fun _ a₁ => ⟨fun _ => ⟨first.history.call rfl, same⟩,
    fun _ a₂ => ⟨fun _ => ?_, fun _ a₃ => ⟨fun _ => ?_, fun _ => ?_⟩⟩⟩⟩
  · exact ⟨(first.history.call (by rfl)).call rfl, named _⟩
  · exact ⟨((first.history.call (by rfl)).call (by rfl)).call rfl, named _⟩
  · exact ⟨((first.history.call (by rfl)).call (by rfl)).call rfl, named _⟩

/-- A failed installation is never answered with STATUS_OK. -/
theorem installRun_refuses (plan : RunPlan) :
    (installRun plan).wp s h fun failure _ _ => ∀ status, failure = some status → status ≠ .ok := by
  simp only [installRun, Action.wp_bind, Action.wp_ite, Action.wp_pure, backend_wp,
    updateSession_wp]
  apply Action.wp_from
  intro recorded s₁ h₁
  refine ⟨fun failed status same => ?_, fun _ a₁ => ⟨fun _ status same => ?_, fun _ a₂ =>
    ⟨fun _ status same => ?_, fun _ a₃ => ⟨fun _ status same => ?_, fun _ status same =>
      absurd same (by simp)⟩⟩⟩⟩
  · rw [← Option.some.inj same]
    exact failed
  all_goals
    rw [← Option.some.inj same]
    decide

/-! Answers and reports. -/

theorem Offered.calm {P : List UInt8 → Prop} {dead : Bool} {evs : SessionHistory}
    (ho : Offered s P dead evs) : Calm h (h ++ evs) := by
  rcases ho with ⟨-, -, rfl⟩ | ⟨-, f, accepted, -, -, rfl⟩
  · rw [List.append_nil]
    exact Calm.refl h
  · exact Calm.offer f accepted

theorem respond_calm (opcode : UInt16) (requestId : UInt32) (status : Status) :
    (respond opcode requestId status).wp s h fun _ _ => Calm h := by
  apply respond_wp
  intro b dead evs ho
  exact ho.calm

theorem enterLost_calm (reason : TargetLostReason) :
    (enterLost reason).wp s h fun _ _ => Calm h := by
  apply enterLost_wp
  · intro _
    exact Calm.refl h
  · intro _ b dead evs ho
    exact ho.calm

theorem sendBackendFailure_calm (opcode : UInt16) (requestId : UInt32) (result : EspErr)
    (fallback : Status) :
    (sendBackendFailure opcode requestId result fallback).wp s h fun _ _ => Calm h := by
  simp only [sendBackendFailure, Action.wp_bind, Action.wp_ite, Action.wp_pure]
  refine ⟨fun _ => ?_, fun _ => respond_calm _ _ _⟩
  apply Action.wp_mono (respond_calm _ _ _)
  intro _ _ _ first
  apply Action.wp_mono (enterLost_calm _)
  intro _ _ _ rest
  exact first.trans rest

theorem sendBackendFailure_uncalled {opcode : UInt16} {requestId : UInt32} {result : EspErr}
    {fallback : Status} {Q : Unit → Session → SessionHistory → Prop}
    (hQ : ∀ s' evs, calls evs = [] → Q () s' (h ++ evs)) :
    (sendBackendFailure opcode requestId result fallback).wp s h Q := by
  simp only [sendBackendFailure, Action.wp_bind, Action.wp_ite, Action.wp_pure]
  constructor
  · intro _
    apply respond_wp
    intro b dead evs sent
    apply enterLost_wp
    · intro _
      exact hQ _ evs sent.calls_nil
    · intro _ b' dead' evs' lost
      rw [List.append_assoc]
      apply hQ
      rw [calls_append, sent.calls_nil, lost.calls_nil]
      rfl
  · intro _
    apply respond_wp
    intro b dead evs sent
    exact hQ _ evs sent.calls_nil

theorem captureSnapshot_quiet : captureSnapshot.wp s h fun _ _ => QuietHistory h := by
  simp only [captureSnapshot, captureStackSnapshot, Action.wp_bind, getSession_wp, Action.wp_ite,
    Action.wp_pure, backend_wp, updateSession_wp]
  refine ⟨fun _ a => ?_, fun _ => QuietHistory.refl h⟩
  have read : QuietHistory h (h ++ [⟨.call s (.readRegs [] snapshotBlobCapacity), a⟩]) :=
    (QuietHistory.refl h).call rfl
  refine ⟨fun _ => ?_, fun _ => read⟩
  split
  · exact read
  · split
    · exact read
    · split
      · exact read
      · simp only [Action.wp_bind, backend_wp, updateSession_wp, Action.wp_ite, Action.wp_pure]
        exact fun a' => ⟨fun _ => read.call rfl, fun _ => read.call rfl⟩

theorem enterHalted_calm (stop : StopDetect) : (enterHalted stop).wp s h fun _ _ => Calm h := by
  simp only [enterHalted, Action.wp_bind, getSession_wp, Action.wp_ite, Action.wp_pure,
    updateSession_wp]
  refine ⟨fun _ => Calm.refl h, fun _ => ⟨fun _ => enterLost_calm _, fun _ => ?_⟩⟩
  apply Action.wp_mono captureSnapshot_quiet
  intro _ _ _ quiet
  exact quiet.calm

theorem emitPendingStopped_calm : emitPendingStopped.wp s h fun _ _ => Calm h := by
  simp only [emitPendingStopped, sendStopped, Action.wp_bind, getSession_wp, Action.wp_ite,
    Action.wp_pure, beginFrame_wp, writePayload_wp, updateSession_wp]
  refine ⟨fun _ => Calm.refl h, fun _ => ⟨fun _ => ⟨fun _ => Calm.refl h, fun hf => absurd rfl hf⟩,
    fun small => ⟨fun hf => absurd hf (by decide), fun _ => ?_⟩⟩⟩
  apply finishFrame_wp
  · simp only [maxFrameSize, headerSize] at small
    simp only [isValidMessageSize, headerSize, maxFrameSize]
    omega
  · intro _
    exact Calm.refl h
  · intro _ crc accepted
    exact Calm.offer _ _

theorem pollStop_calm : pollStop.wp s h fun _ _ => Calm h := by
  simp only [pollStop, Action.wp_bind, backend_wp, Action.wp_ite, Action.wp_pure]
  intro a
  have polled : Calm h (h ++ [⟨.call s .pollHalted, a⟩]) :=
    ((QuietHistory.refl h).call (by rfl)).calm
  refine ⟨fun _ => ?_, fun _ => ⟨fun _ => ?_, fun _ => polled⟩⟩
  · apply Action.wp_mono (enterLost_calm _)
    intro _ _ _ rest
    exact polled.trans rest
  · apply Action.wp_mono (enterHalted_calm _)
    intro _ _ _ entered
    apply Action.wp_mono emitPendingStopped_calm
    intro _ _ _ rest
    exact (polled.trans entered).trans rest

theorem reportStep_calm (requestId : UInt32) (stop : StopDetect) (userStep : Bool) :
    (reportStep requestId stop userStep).wp s h fun _ _ => Calm h := by
  simp only [reportStep, Action.wp_bind, Action.wp_ite, updateSession_wp]
  apply Action.wp_mono (respond_calm _ _ _)
  intro _ _ _ first
  apply Action.wp_mono (enterHalted_calm _)
  intro _ s' _ entered
  have emit (s' : Session) (evs : SessionHistory) (before : Calm h evs) :
      emitPendingStopped.wp s' evs fun _ _ => Calm h := by
    apply Action.wp_mono emitPendingStopped_calm
    intro _ _ _ rest
    exact before.trans rest
  exact ⟨fun _ => emit _ _ (first.trans entered), fun _ => emit _ _ (first.trans entered)⟩

theorem failRun_calm (requestId : UInt32) (status : Status) :
    (failRun requestId status).wp s h fun _ _ => Calm h := by
  simp only [failRun, Action.wp_bind, Action.wp_ite, Action.wp_pure]
  apply Action.wp_mono rollbackRunConfig_quiet
  intro _ _ _ rolled
  apply Action.wp_mono (respond_calm _ _ _)
  intro _ _ _ answered
  refine ⟨fun _ => ?_, fun _ => rolled.1.calm.trans answered⟩
  apply Action.wp_mono (enterLost_calm _)
  intro _ _ _ rest
  exact (rolled.1.calm.trans answered).trans rest

end SidpClient
