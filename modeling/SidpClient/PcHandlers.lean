import SidpClient.PcAgreement

/-! Every handler works with the PC the peer was told, and so does every run of the session. -/
namespace SidpClient
open LittleEndian Interactive

variable {s s' : Session} {h h' evs : SessionHistory} {f : List UInt8} {c : Call} {a : Answer}
  {dead : Bool} {opcode : UInt16} {requestId : UInt32} {status : Status} {α : Type}
  {payload : List UInt8}

/-! Programs that neither move the target nor touch its registers. -/

abbrev Agreeing (m : SessionM α) : Prop := m.Preserves Agreed

theorem Agreed.same (ha : Agreed s h) (state : s'.state = s.state)
    (pending : s'.swStepOverPending = s.swStepOverPending)
    (address : s'.swStepOverAddress = s.swStepOverAddress) : Agreed s' h := by
  refine ⟨ha.truthful, fun halted faithful p told => ?_, fun away => ?_⟩
  · rw [Session.At, pending, address]
    exact ha.halted (state ▸ halted) faithful p told
  · rw [state] at away
    exact ha.away away

theorem Truthful.lost (ht : Truthful h) (state : s.state = .lost) : Agreed s h := by
  refine ⟨ht, fun halted => ?_, fun away => ?_⟩
  · exact absurd (state.symm.trans halted) (by decide)
  · rw [state] at away
    rcases away with away | away
    · exact nomatch away
    · exact nomatch away

theorem Agreed.free {s₁ : Session} (ha : Agreed s h) (free : c.free = true) :
    Agreed s (h ++ [⟨.call s₁ c, a⟩]) := by
  have same := pcStep_free (s := s₁) (a := a) (v := pcView h) free
  refine ⟨ha.truthful.concat fun _ => pcSound_free free, fun halted faithful p told =>
    ?_, fun away => ?_⟩
  · rw [pcView_concat, same.2] at told
    rw [pcView_concat, same.1]
    exact ha.halted halted faithful.before p told
  · rw [pcView_concat, same.2]
    exact ha.away away

theorem Agreed.offer {accepted : Bool} (ha : Agreed s h) (plain : Plain f) :
    Agreed s (h ++ [⟨.offer f, accepted⟩]) := by
  have same : (pcView (h ++ [⟨.offer f, accepted⟩])).told = (pcView h).told := by
    rw [pcView_concat]
    exact tells_plain plain (pcView h)
  refine ⟨ha.truthful.concat fun _ => pcSound_plain plain, fun halted faithful p told =>
    ?_, fun away => ?_⟩
  · rw [actual_offer]
    rw [same] at told
    exact ha.halted halted faithful.before p told
  · rw [same]
    exact ha.away away

theorem Agreed.offered {P : List UInt8 → Prop} {b : Buffer} {n : ℕ} (ha : Agreed s h)
    (ho : Offered s P dead evs) (hP : ∀ f, P f → Plain f) :
    Agreed (s.framed b n dead) (h ++ evs) := by
  rcases ho with ⟨-, -, rfl⟩ | ⟨-, f, accepted, hf, -, rfl⟩
  · rw [List.append_nil]
    exact ha.same rfl rfl rfl
  · exact (ha.offer (hP f hf)).same rfl rfl rfl

theorem updateOther_agreeing {f : Session → Session} (state : ∀ s, (f s).state = s.state)
    (pending : ∀ s, (f s).swStepOverPending = s.swStepOverPending)
    (address : ∀ s, (f s).swStepOverAddress = s.swStepOverAddress) : Agreeing (updateSession f) :=
  .modify fun s _ ha => ha.same (state s) (pending s) (address s)

theorem backend_agreeing (free : c.free = true) :
    Agreeing (backend c) := .ask fun _ _ _ ha => ha.free free

theorem respond_agreeing
    (refused : status = .ok → opcode ≠ Opcode.readRegisters ∧ opcode ≠ Opcode.writeRegisters) :
    Agreeing (respond opcode requestId status) := by
  intro s h ha
  apply respond_wp
  intro b dead evs sent
  exact ha.offered sent fun f hf => hf.plain refused

theorem refuse_agreeing (error : status ≠ .ok) : Agreeing (respond opcode requestId status) :=
  respond_agreeing fun ok => absurd ok error

theorem enterLost_agreeing (reason : TargetLostReason) : Agreeing (enterLost reason) := by
  intro s h ha
  apply enterLost_wp
  · exact fun _ => ha
  · intro _ b dead evs sent
    have lost : Agreed { s with state := .lost } h := ha.truthful.lost rfl
    exact lost.offered (s := { s with state := .lost }) sent fun f hf => hf.header.plain_lost

theorem sendBackendFailure_agreeing {result : EspErr} {fallback : Status} (error : fallback ≠ .ok) :
    Agreeing (sendBackendFailure opcode requestId result fallback) := by
  refine .ite (fun _ => .bind (refuse_agreeing (by decide)) fun _ => .bind (enterLost_agreeing _)
    fun _ => .pure _)
    fun _ => refuse_agreeing ?_
  split
  · decide
  · exact error

/-! The shadow table. -/

theorem agreed_undisturbed : Undisturbed Agreed :=
  ⟨fun _ _ _ ha => ha.same rfl rfl rfl, fun _ _ _ _ _ shadows ha =>
    ha.free (Call.free_of_shadows shadows)⟩

theorem installRun_agreeing (plan : RunPlan) : Agreeing (installRun plan) :=
  .bind (agreed_undisturbed.apply _) fun _ => .ite (fun _ => .pure _) fun _ =>
    .bind (backend_agreeing rfl) fun _ => .ite (fun _ => .pure _) fun _ =>
    .bind (updateOther_agreeing (fun _ => rfl) (fun _ => rfl) fun _ => rfl) fun _ =>
      .bind (backend_agreeing rfl) fun _ => .ite (fun _ => .pure _) fun _ =>
        .bind (backend_agreeing rfl) fun _ => .ite (fun _ => .pure _) fun _ => .pure _

theorem rollbackRunConfig_agreeing : Agreeing rollbackRunConfig :=
  .bind agreed_undisturbed.restoreAll fun _ => .bind (backend_agreeing rfl)
    fun _ => .bind (backend_agreeing rfl)
    fun _ => .bind (backend_agreeing rfl) fun _ =>
      .bind (updateOther_agreeing (fun _ => rfl) (fun _ => rfl) fun _ => rfl) fun _ => .pure _

/-- What a quiet program leaves of a halted session. -/
theorem Agreeing.quiet {m : SessionM α} (hm : Agreeing m) (quiet : m.wp s h fun _ => Quiet s h)
    (ha : Agreed s h) :
    m.wp s h fun _ s' h' => Agreed s' h' ∧ s'.state = s.state ∧
      s'.swStepOverPending = s.swStepOverPending ∧ s'.swStepOverAddress = s.swStepOverAddress ∧
        s'.transportDead = s.transportDead := by
  apply Action.wp_mono (Action.wp_and (hm s h ha) quiet)
  intro _ s' _ done
  refine ⟨done.1, ?_⟩
  rw [done.2.session]
  exact ⟨rfl, rfl, rfl, rfl⟩

/-! The target moves. -/

/-- The target is where the peer was told. -/
abbrev Here (h : SessionHistory) : Prop :=
  Faithful h → ∀ p, (pcView h).told = some p → (pcView h).actual = some p

theorem Untold.here (hu : Untold h) : Here h := by
  intro _ p told
  rw [hu.untold] at told
  exact nomatch told

theorem Agreed.here (ha : Agreed s h) (halted : s.state = .halted)
    (idle : s.swStepOverPending = false) : Here h :=
  fun faithful p told => (ha.halted halted faithful p told).2 idle

theorem Truthful.moved {s₁ : Session} (ht : Truthful h)
    (gone : (pcStep (pcView h) ⟨.call s₁ c, a⟩).told = none)
    (sound : Faithful h → PcSound h ⟨.call s₁ c, a⟩) : Untold (h ++ [⟨.call s₁ c, a⟩]) := by
  refine ⟨ht.concat sound, ?_⟩
  rw [pcView_concat]
  exact gone

theorem Truthful.resumed {s₁ : Session} {action : UInt8} {address : UInt64} (ht : Truthful h)
    (here : Here h) :
    Untold (h ++ [⟨.call s₁ (.resume action address), a⟩]) := ht.moved rfl here

theorem pcStep_writeCurrentPc {v : PcView} (pc : UInt32) (ok : a.code = .ok) :
    (pcStep v ⟨.call s (.writeRegs (pcEntryBytes pc)), a⟩).actual = some pc := by
  rw [pcStep, if_pos ok, writtenPc_pcEntryBytes]
  rfl

/-- A register write or a detach that fails changes nothing the session and the peer agree on. -/
theorem Agreed.failed {s₁ : Session} (ha : Agreed s h) (failed : a.code ≠ .ok)
    (kind : (∃ data, c = .writeRegs data) ∨ ∃ action, c = .detach action)
    (sound : Faithful h → PcSound h ⟨.call s₁ c, a⟩) : Agreed s (h ++ [⟨.call s₁ c, a⟩]) := by
  have same := pcStep_failed (s := s₁) (v := pcView h) failed kind
  refine ⟨ha.truthful.concat sound, fun halted faithful p told => ?_, fun away => ?_⟩
  · rw [pcView_concat, same.2] at told
    rw [pcView_concat, same.1]
    exact ha.halted halted faithful.before p told
  · rw [pcView_concat, same.2]
    exact ha.away away

theorem pcStep_writeRegs_told {v : PcView} {data : List UInt8} :
    (pcStep v ⟨.call s (.writeRegs data), a⟩).told = v.told := by
  simp only [pcStep]
  split <;> rfl

/-- The PC of a pending step-over is written back. -/
theorem writeCurrentPc_agreed (ha : Agreed s h) (state : s.state = .halted)
    (pending : s.swStepOverPending = true) :
    (writeCurrentPc s.swStepOverAddress.toUInt32).wp s h fun ok s' h' => s' = s ∧ Agreed s h' ∧
      (ok = true → Here h') := by
  simp only [writeCurrentPc, Action.wp_bind, backend_wp, Action.wp_pure]
  intro a
  have told :
      (pcView (h ++ [⟨.call s (.writeRegs (pcEntryBytes s.swStepOverAddress.toUInt32)), a⟩])).told =
      (pcView h).told := by
    rw [pcView_concat]
    exact pcStep_writeRegs_told
  have next (faithful : Faithful h) (p : UInt32) (reported : (pcView h).told = some p) :
      p = s.swStepOverAddress.toUInt32 := (ha.halted state faithful p reported).1 pending
  refine ⟨trivial, ⟨ha.truthful.concat fun _ => trivial, fun _ faithful p reported =>
    ⟨fun _ => ?_, fun idle => ?_⟩, fun away => ?_⟩, fun ok faithful p reported => ?_⟩
  · rw [told] at reported
    exact next faithful.before p reported
  · exact absurd (pending.symm.trans idle) (by decide)
  · rw [told]
    exact ha.away away
  · rw [told] at reported
    rw [next faithful.before p reported, pcView_concat]
    exact pcStep_writeCurrentPc _ (by simpa using ok)

theorem pollStepHalted_withholds (n : ℕ) : Withholds (pollStepHalted n) :=
  withholds_of_quiet fun _ _ => Action.wp_mono (pollStepHalted_polled n)
    fun _ _ _ polled => polled.1.quiet

theorem swBpInstallFound_withholds (bp : Option ℕ) : Withholds (swBpInstallFound bp) :=
  withholds_of_quiet fun _ _ => Action.wp_mono (swBpInstallFound_quiet bp)
    fun _ _ _ quiet => quiet.history

/-- Either the step-over has not moved the target, or the peer has been told nothing since it
did. -/
inductive SteppedOver (outcome : StepOver) (s : Session) (h : SessionHistory) : Prop
  | idle (same : outcome = .notNeeded) (truthful : Truthful h) (here : Here h)
  | failed (same : outcome = .failed) (agreed : Agreed s h)
  | moved (other : outcome ≠ .notNeeded ∧ outcome ≠ .failed) (untold : Untold h)

theorem executeStepOver_agreed (ha : Agreed s h) (state : s.state = .halted) (action : UInt8) :
    (executeStepOver action).wp s h SteppedOver := by
  simp only [executeStepOver, Action.wp_bind, getSession_wp, Action.wp_ite, Action.wp_pure]
  refine ⟨fun idle => .idle rfl ha.truthful (ha.here state (by simpa using idle)),
    fun pending => ?_⟩
  apply Action.wp_mono (Agreeing.quiet (agreed_undisturbed.restoreFound _)
    (swBpRestoreFound_quiet _) ha)
  intro _ s₁ evs₁ restored
  obtain ⟨ha₁, state₁, pending₁, address, -⟩ := restored
  refine ⟨fun _ => .failed rfl ha₁, fun _ => ?_⟩
  rw [← address]
  apply Action.wp_mono (writeCurrentPc_agreed ha₁ (state₁.trans state)
    (pending₁.trans (by simpa using pending)))
  intro ok s₂ evs₂ written
  obtain ⟨rfl, ha₂, here⟩ := written
  constructor
  · intro _
    apply Action.wp_mono (agreed_undisturbed.installFound _ _ _ ha₂)
    intro _ s₃ evs₃ ha₃
    exact .failed rfl ha₃
  intro done step
  have stepped :
      Untold (h ++ evs₁ ++ evs₂ ++ [⟨.call s₂ (.resume RunAction.singleStep 0), step⟩]) :=
    ha₂.truthful.resumed (here (by simpa using done))
  constructor
  · intro _
    exact .moved (by simp) stepped
  intro _
  apply Action.wp_mono (pollStepHalted_withholds 100 _ _ stepped)
  intro r s₃ evs₃ polled
  cases r with
  | error reason => exact .moved (by simp) polled
  | ok stop =>
    simp only [Action.wp_bind, updateSession_wp, Action.wp_ite, Action.wp_pure]
    apply Action.wp_mono (swBpInstallFound_withholds _ _ _ polled)
    intro _ s₄ evs₄ installed
    exact ⟨fun _ => .moved (by simp) installed, fun _ => ⟨fun _ => .moved (by simp) installed,
      fun _ => ⟨fun _ => .moved (by simp) installed, fun _ => .moved (by simp) installed⟩⟩⟩

/-! RUN. -/

theorem resumeRun_agreed (ht : Truthful h) (here : Here h) (req : RunRequest) :
    (resumeRun requestId req).wp s h fun _ => Agreed := by
  simp only [resumeRun, Action.wp_bind, backend_wp, Action.wp_ite, updateSession_wp]
  intro a
  have resumed : Untold (h ++ [⟨.call s (.resume req.action req.runToAddress), a⟩]) :=
    ht.resumed here
  constructor
  · intro _
    apply Action.wp_mono (refuse_withholds (by decide) _ _ resumed)
    intro _ s₁ evs₁ refused
    exact (enterLost_withholds _).agreed refused
  · intro _
    apply Action.wp_mono (respond_withholds (fun _ => ⟨by decide, by decide⟩) _ _ resumed)
    intro _ s₁ evs₁ told
    exact pollStop_agreed told

theorem failRun_agreeing (error : status ≠ .ok) : Agreeing (failRun requestId status) := by
  apply Action.Preserves.bind rollbackRunConfig_agreeing
  intro restored
  refine .bind (refuse_agreeing ?_) fun _ => .ite (fun _ => enterLost_agreeing _) fun _ => .pure _
  split
  · exact error
  · decide

theorem opRun_agreed (ha : Agreed s h) (state : s.state = .halted) :
    (opRun requestId payload).wp s h fun _ => Agreed := by
  simp only [opRun, Action.wp_bind, getSession_wp]
  cases hcheck : checkRun s payload with
  | error status => exact refuse_agreeing (checkRun_refuses s payload status hcheck) s h ha
  | ok plan =>
    simp only [Action.wp_bind]
    apply Action.wp_mono (Action.wp_and (Action.wp_and (installRun_agreeing plan s h ha)
      (installRun_quiet plan))
      (installRun_refuses plan))
    intro failure s₁ evs₁ installed
    obtain ⟨⟨ha₁, -, session⟩, refused⟩ := installed
    have state₁ : s₁.state = .halted := by
      rw [session]
      exact state
    cases failure with
    | some status => exact failRun_agreeing (refused status rfl) s₁ _ ha₁
    | none =>
      simp only [Action.wp_bind]
      apply Action.wp_mono (executeStepOver_agreed ha₁ state₁ plan.request.action)
      intro outcome s₂ evs₂ stepped
      cases stepped with
      | idle same truthful here =>
        rw [same]
        exact resumeRun_agreed truthful here plan.request
      | moved other told =>
        cases outcome with
        | notNeeded => exact absurd rfl other.1
        | failed => exact absurd rfl other.2
        | stepped => exact resumeRun_agreed told.truthful told.here plan.request
        | stoppedStep stop => exact reportStep_agreed told stop true
        | stoppedReal stop => exact reportStep_agreed told stop false
        | failedLost reason =>
          simp only [Action.wp_bind]
          apply Action.wp_mono (refuse_withholds (by decide) _ _ told)
          intro _ s₃ evs₃ refused
          exact (enterLost_withholds _).agreed refused
      | failed same agreed =>
        rw [same]
        have rolledBack : Agreeing (do
            if ← rollbackRunConfig then respond Opcode.run requestId .swdError
            else
              respond Opcode.run requestId .swdError
              enterLost .swdFault) :=
          .bind rollbackRunConfig_agreeing fun _ => .ite (fun _ => refuse_agreeing (by decide))
            fun _ => .bind (refuse_agreeing (by decide)) fun _ => enterLost_agreeing _
        exact rolledBack s₂ _ agreed

end SidpClient
