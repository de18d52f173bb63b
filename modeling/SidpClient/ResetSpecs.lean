import SidpClient.OwnershipSpecs

/-! What HALT and the two resets do, and when TARGET_LOST overtakes their response. -/
namespace SidpClient
open LittleEndian Interactive

variable {policy : Policy} {c₀ : Config} {s s' : Session} {h h' : SessionHistory}
  {fs : List (List UInt8)} {requestId : UInt32} {payload : List UInt8} {op : RequestOp}

/-- The next stop of a running target exhausts its generations. -/
def Wrapping (s : Session) : Prop := s.state = .running ∧ s.stopId + 1 = 0

/-- The request meets the end of its generations before it is answered, given what the backend
confirmed before and after it. -/
def Wraps (op : RequestOp) (s : Session) (n n' : Confirmations) : Prop :=
  match op with
  | .halt => Wrapping s ∧ n.halts < n'.halts
  | .resetRun => Wrapping s ∧ n.confirmedHalts < n'.confirmedHalts
  | .resetHalt => (Wrapping s ∧ n.confirmedHalts < n'.confirmedHalts) ∨
      (n.resets < n'.resets ∧ ((s.state = .halted ∧ s.stopId + 1 = 0) ∨
        (s.state = .running ∧ s.stopId + 1 + 1 = 0)))
  | _ => False

/-- An event comes first. -/
def EventLed (fs : List (List UInt8)) : Prop := ∃ e rest, fs = e :: rest ∧ IsEvent e

theorem EventLed.append {fs' : List (List UInt8)} (he : EventLed fs) : EventLed (fs ++ fs') := by
  obtain ⟨e, rest, rfl, hev⟩ := he
  exact ⟨e, rest ++ fs', rfl, hev⟩

theorem EventLed.not_responseFirst {opcode : UInt16} (he : EventLed fs) :
    ¬ResponseFirst opcode requestId fs := by
  obtain ⟨e, rest, rfl, hev, -⟩ := he
  rintro ⟨f, events, hfs, ⟨hresponse, -⟩, -⟩
  obtain ⟨rfl, -⟩ := List.cons.inj hfs
  have hk : frameKind e = MsgKind.response := by simpa [isResponse] using hresponse
  simp [isEvent, hk, MsgKind.response, MsgKind.event] at hev

/-- One response and then events, unless a generation wraps. -/
def Replied (op : RequestOp) (requestId : UInt32) (s : Session) (h : SessionHistory) (_ : Session)
    (h' : SessionHistory) (fs : List (List UInt8)) : Prop :=
  (¬Wraps op s (confirmations h) (confirmations h') ∧ ResponseFirst op.opcode requestId fs) ∨
    (Wraps op s (confirmations h) (confirmations h') ∧ EventLed fs)

theorem not_wraps_refl (op : RequestOp) (s : Session) (n : Confirmations) : ¬Wraps op s n n := by
  cases op <;> simp [Wraps]

/-- An answer without a confirmed halt or reset. -/
theorem Replied.of_quiet (confirmed : confirmations h' = confirmations h)
    (first : ResponseFirst op.opcode requestId fs) : Replied op requestId s h s' h' fs :=
  Or.inl ⟨by rw [confirmed]; exact not_wraps_refl op s _, first⟩

theorem opHalt_replied (ready : Ready s h) (he : Engaged s h)
    (live : s.state = .halted ∨ s.state = .running) (alive : s.transportDead = false) :
    (opHalt requestId payload).wp s h fun _ =>
      Handled policy (s, h) (Replied .halt requestId s h) := by
  have refuse (status : Status) : (respond Opcode.halt requestId status).wp s h fun _ =>
      Handled policy (s, h) (Replied .halt requestId s h) := by
    refine respond_trace (Trace.start (p := policy)) (Or.inl (by decide))
      fun b dead h₁ fs₁ ht₁ hd => ?_
    exact ⟨fs₁, ht₁, ready.framed hd.keeps.toKeepsHalt hd.live hd.latched,
      .of_quiet hd.keeps.confirmed (hd.sent.responseFirst alive fun f hf => hf.header.isResponseTo)⟩
  simp only [opHalt, Action.wp_bind, Action.wp_ite, Action.wp_pure, getSession_wp, backend_wp]
  refine ⟨fun _ => refuse _, fun _ => ⟨fun _ => refuse _, fun unreported =>
    ⟨fun pending => ?_, fun notHalted a => ?_⟩⟩⟩
  · exact absurd ⟨pending.1, (ready.reported pending.1 alive).1⟩ unreported
  have state : s.state = .running := live.resolve_left fun hs => by
    cases hr : s.stopReported with
    | true => exact unreported ⟨hs, hr⟩
    | false => exact notHalted ⟨hs, by simp [hr]⟩
  have ht₁ := (Trace.start (p := policy) (s := s) (h := h)).call (c := .halt haltTimeoutMs) a
    he.attached id
  have he₁ : Engaged s (h ++ [⟨.call s (.halt haltTimeoutMs), a⟩]) :=
    he.append advertisedMap_call fun hr => hr.append _
  refine ⟨fun fail => ?_, fun ok => ?_⟩
  · refine sendBackendFailure_ready ht₁ (Ready.of_running he₁ state) (by decide) alive
      fun s' h' fs' ht' ready' k first => ⟨fs', ht', ready', .of_quiet (k.confirmed.trans ?_) first⟩
    simp only [confirmations_call, confirmationsCall]
    rw [if_neg fail]
  have ok := not_not.mp ok
  have counted : (confirmations h).halts <
      (confirmations (h ++ [⟨.call s (.halt haltTimeoutMs), a⟩])).halts := by
    simp only [confirmations_call, confirmationsCall]
    rw [if_pos ok]
    exact Nat.lt_succ_self _
  refine enterHalted_trace ht₁ he₁.toActive (haltKnown_halt _ _ _ ok) (by simp [state])
    (SameTarget.refl s)
    rfl rfl he.fits (fun wrap s₂ h₂ fs₂ ht₂ hl => ?_) fun next s₂ h₂ ht₂ entered fits₂ k₂ => ?_
  · refine respond_trace ht₂ (Or.inl (by decide)) fun b dead h₃ fs₃ ht₃ hd => ?_
    refine emitPendingStopped_idle (Or.inr (by simp [Session.framed, hl.state])) ?_
    refine ⟨_, ht₃, Ready.of_lost hl.state hl.fits, Or.inr ⟨⟨⟨state, wrap⟩, ?_⟩, ?_⟩⟩
    · rw [hd.keeps.confirmed, hl.delivery.keeps.confirmed]
      exact counted
    · rcases hl.delivery.sent with ⟨hdead, -⟩ | ⟨-, f, hf, rfl⟩
      · exact absurd (alive.symm.trans hdead) (by decide)
      · exact ⟨f, _, rfl, hf.header.isEvent⟩
  · have alive₂ : s₂.transportDead = false := entered.transportDead.trans alive
    refine respond_trace ht₂ (Or.inl (by decide)) fun b dead h₃ fs₃ ht₃ hd => ?_
    refine emitPendingStopped_ready ht₃
      ((entered.engaged he₁ fits₂ k₂.toKeepsHalt).framed hd.keeps.map
      hd.live) entered.state entered.unreported (hd.keeps.halt.trans
        (k₂.halt.trans (haltKnown_halt _ _ _ ok)))
      fun s' h' fs' ht' ready' hev => ⟨_, ht', ready', Or.inl ⟨fun hw => next hw.1.2, ?_⟩⟩
    exact (hd.sent.responseFirst alive₂ fun f hf => hf.header.isResponseTo).append hev

/-! The resets. -/

/-- Where a reset stands behind its internal halt: halted with nothing sent yet, or lost to the
last generation with TARGET_LOST sent. -/
structure ResetPhase (s₀ : Session) (h₀ : SessionHistory) (s : Session) (h : SessionHistory)
    (fs : List (List UInt8)) : Prop where
  resets : (confirmations h).resets = (confirmations h₀).resets
  halts : s₀.state = .running → (confirmations h₀).confirmedHalts < (confirmations h).confirmedHalts
  phase : (¬Wrapping s₀ ∧ s.state = .halted ∧ s.transportDead = false ∧ fs = [] ∧
      ((s₀.state = .halted ∧ s.stopId = s₀.stopId) ∨
        (s₀.state = .running ∧ s.stopId = s₀.stopId + 1))) ∨
    (Wrapping s₀ ∧ s.state = .lost ∧ EventLed fs)

/-- A reset whose target is halted and free of the session's configuration. -/
structure Prepared (s₀ : Session) (h₀ : SessionHistory) (s : Session) (h : SessionHistory)
    (fs : List (List UInt8)) : Prop extends Engaged s h, ResetPhase s₀ h₀ s h fs where
  known : HaltKnown h
  clean : s.swTable = []
  cleared : runConfig h = clearedConfig

section
variable {s₀ : Session} {h₀ : SessionHistory}

theorem ResetPhase.keeps (hp : ResetPhase s₀ h₀ s h fs)
    (confirmed : confirmations h' = confirmations h) (state : s'.state = s.state)
    (dead : s'.transportDead = s.transportDead) (stopId : s'.stopId = s.stopId) :
    ResetPhase s₀ h₀ s' h' fs := by
  refine ⟨by rw [confirmed, hp.resets], by rw [confirmed]; exact hp.halts, ?_⟩
  rw [state, dead, stopId]
  exact hp.phase

/-- An error answer ends a reset without a further halt or reset. -/
theorem ResetPhase.replied {fs' : List (List UInt8)} (hp : ResetPhase s₀ h₀ s h fs)
    (hop : op = .resetHalt ∨ op = .resetRun) (confirmed : confirmations h' = confirmations h)
    (first : s.transportDead = false → ResponseFirst op.opcode requestId fs') :
    Replied op requestId s₀ h₀ s' h' (fs ++ fs') := by
  rw [Replied, confirmed]
  rcases hp.phase with ⟨next, -, alive, rfl, -⟩ | ⟨wrap, -, led⟩
  · refine Or.inl ⟨fun hw => ?_, first alive⟩
    rcases hop with rfl | rfl
    · rcases hw with hw | hw
      · exact next hw.1
      · exact absurd hw.1 (by rw [hp.resets]; exact lt_irrefl _)
    · exact next hw.1
  · refine Or.inr ⟨?_, led.append⟩
    rcases hop with rfl | rfl
    · exact Or.inl ⟨wrap, hp.halts wrap.1⟩
    · exact ⟨wrap, hp.halts wrap.1⟩

/-- A reset that gives up on the target. -/
theorem ResetPhase.abort {status : Status} {reason : TargetLostReason}
    {Q : Unit → Session → SessionHistory → Prop} (hp : ResetPhase s₀ h₀ s h fs)
    (hop : op = .resetHalt ∨ op = .resetRun) (ht : Trace policy (s₀, h₀) s h fs)
    (fits : SnapshotFits s) (error : status ≠ .ok)
    (hQ : ∀ s' h', Handled policy (s₀, h₀) (Replied op requestId s₀ h₀) s' h' → Q () s' h') :
    (respond op.opcode requestId status).wp s h fun _ s' h' => (enterLost reason).wp s' h' Q := by
  refine respond_trace ht (Or.inr error) fun b dead h₁ fs₁ ht₁ hd => ?_
  refine enterLost_keeps ht₁ fits fun s₂ h₂ fs₂ ht₂ ready _ k hev => hQ _ _ ⟨_, ht₂, ready, ?_⟩
  rw [List.append_assoc]
  exact hp.replied hop (k.confirmed.trans hd.keeps.confirmed) fun alive =>
    (hd.sent.responseFirst alive fun f hf => hf.header.isResponseTo).append hev

theorem prepareReset_trace (op : RequestOp) {Q : Bool → Session → SessionHistory → Prop}
    (hop : op = .resetHalt ∨ op = .resetRun) (ready : Ready s h) (he : Engaged s h)
    (live : s.state = .halted ∨ s.state = .running) (alive : s.transportDead = false)
    (hfail : ∀ s' h', Handled policy (s, h) (Replied op requestId s h) s' h' → Q false s' h')
    (hQ : ∀ s' h' fs', Trace policy (s, h) s' h' fs' → Prepared s h s' h' fs' → Q true s' h') :
    (prepareReset op.opcode requestId).wp s h Q := by
  simp only [prepareReset, Action.wp_bind, Action.wp_ite, Action.wp_pure, getSession_wp, backend_wp]
  -- the rollback is the last step on every path that goes on
  have clear (s₁ : Session) (h₁ : SessionHistory) (fs₁ : List (List UInt8))
      (ht₁ : Trace policy (s, h) s₁ h₁ fs₁) (he₁ : Engaged s₁ h₁) (known : HaltKnown h₁)
      (hp : ResetPhase s h s₁ h₁ fs₁) :
      rollbackRunConfig.wp s₁ h₁ fun ok s' h' =>
        ((!ok) = true → (respond op.opcode requestId .swdError).wp s' h' fun _ s' h' =>
          (enterLost .swdFault).wp s' h' fun _ s' h' => Q false s' h') ∧
        (¬(!ok) = true → Q true s' h') := by
    refine rollbackRunConfig_trace ht₁ he₁.attached known fun ok table h₂ ht₂ k₂ hclear hall _ => ?_
    have hp₂ : ResetPhase s h (s₁.withTable table).clearRunTracking h₂ fs₁ :=
      hp.keeps k₂.confirmed rfl rfl rfl
    refine ⟨fun _ => hp₂.abort hop ht₂ he₁.fits (by decide) hfail, fun hok => ?_⟩
    obtain ⟨clean, cleared⟩ := hclear (by simpa using hok)
    have he₂ : Engaged (s₁.withTable table).clearRunTracking h₂ :=
      ⟨⟨he₁.attached, k₂.map.trans he₁.mapped, fun hd => k₂.rejected (he₁.live hd)⟩, hall, he₁.fits⟩
    exact hQ _ _ _ ht₂ ⟨he₂, hp₂, k₂.known known, clean, cleared⟩
  refine ⟨fun hn a => ⟨fun fail => ?_, fun confirmed => ?_⟩, fun hs => ?_⟩
  · have state : s.state = .running := live.resolve_left hn
    have ht₁ := (Trace.start (p := policy) (s := s) (h := h)).call (c := .halt haltTimeoutMs) a
      he.attached id
    have he₁ : Engaged s (h ++ [⟨.call s (.halt haltTimeoutMs), a⟩]) :=
      he.append advertisedMap_call fun hr => hr.append _
    refine sendBackendFailure_ready ht₁ (Ready.of_running he₁ state) (by decide) alive
      fun s' h' fs' ht' ready' k first => hfail _ _ ⟨fs', ht', ready', Or.inl ⟨fun hw => ?_, first⟩⟩
    -- nothing wraps on a halt that was not confirmed
    have unconfirmed : (confirmations h').confirmedHalts = (confirmations h).confirmedHalts ∧
        (confirmations h').resets = (confirmations h).resets := by
      rw [k.confirmed, confirmations_call]
      simp only [confirmationsCall]
      split
      · have hn : a.stop.halted = false := by
          rcases fail with hf | hf
          · exact absurd (by assumption) hf
          · simpa using hf
        simp [hn]
      · simp
    rcases hop with rfl | rfl <;> simp [Wraps, unconfirmed] at hw
  · have state : s.state = .running := live.resolve_left hn
    obtain ⟨ok, halted⟩ : a.code = .ok ∧ a.stop.halted = true := by simpa using confirmed
    have ht₁ := (Trace.start (p := policy) (s := s) (h := h)).call (c := .halt haltTimeoutMs) a
      he.attached id
    have he₁ : Engaged s (h ++ [⟨.call s (.halt haltTimeoutMs), a⟩]) :=
      he.append advertisedMap_call fun hr => hr.append _
    have counted : confirmations (h ++ [⟨.call s (.halt haltTimeoutMs), a⟩]) =
        { confirmations h with
          halts := (confirmations h).halts + 1
          confirmedHalts := (confirmations h).confirmedHalts + 1 } := by
      simp only [confirmations_call, confirmationsCall, ok, halted, if_true]
    refine enterHalted_trace ht₁ he₁.toActive (haltKnown_halt _ _ _ ok) (by simp [state])
      (SameTarget.refl s)
      rfl rfl he.fits (fun wrap s₂ h₂ fs₂ ht₂ hl => ?_) fun next s₂ h₂ ht₂ entered fits₂ k₂ => ?_
    · have k₂ := hl.delivery.keeps
      have he₂ : Engaged s₂ h₂ :=
        ⟨he₁.toActive.of_keeps hl.attached hl.regions k₂.map (hl.delivery.live he₁.live),
          by rw [hl.swTable]; exact he₁.armed, hl.fits⟩
      refine clear s₂ h₂ _ ht₂ he₂ (HaltKnown.keeps ⟨_, haltKnown_halt _ _ _ ok⟩ k₂)
        ⟨by rw [k₂.confirmed, counted], fun _ => ?_, Or.inr ⟨⟨state, wrap⟩, hl.state, ?_⟩⟩
      · rw [k₂.confirmed, counted]
        exact Nat.lt_succ_self _
      · rcases hl.delivery.sent with ⟨hdead, -⟩ | ⟨-, f, hf, rfl⟩
        · exact absurd (alive.symm.trans hdead) (by decide)
        · exact ⟨f, _, rfl, hf.header.isEvent⟩
    · refine clear s₂ h₂ _ ht₂ (entered.engaged he₁ fits₂ k₂.toKeepsHalt)
        (HaltKnown.keeps ⟨_, haltKnown_halt _ _ _ ok⟩ k₂)
        ⟨by rw [k₂.confirmed, counted], fun _ => ?_, Or.inl ⟨fun hw => next hw.2, entered.state,
          entered.transportDead.trans alive, rfl, Or.inr ⟨state, entered.stopId⟩⟩⟩
      rw [k₂.confirmed, counted]
      exact Nat.lt_succ_self _
  · have state : s.state = .halted := not_not.mp hs
    refine clear s h [] Trace.start he (ready.known state alive)
      ⟨rfl, ?_, Or.inl ⟨?_, state, alive, rfl, Or.inl ⟨state, rfl⟩⟩⟩
    · simp [state]
    · simp [Wrapping, state]

theorem resetFailed_handled (op : RequestOp) {result : EspErr} (hp : ResetPhase s₀ h₀ s h fs)
    (hop : op = .resetHalt ∨ op = .resetRun) (ht : Trace policy (s₀, h₀) s h fs)
    (fits : SnapshotFits s) :
    (resetFailed op.opcode requestId result).wp s h fun _ =>
      Handled policy (s₀, h₀) (Replied op requestId s₀ h₀) := by
  simp only [resetFailed, Action.wp_bind]
  refine hp.abort hop ht fits ?_ fun _ _ hr => hr
  split <;> decide

/-- A reset the backend did not confirm. -/
theorem ResetPhase.unconfirmed {kind : UInt8} {haltAfter : Bool} {a : Answer}
    (hp : ResetPhase s₀ h₀ s h fs) (fail : a.code ≠ .ok) :
    ResetPhase s₀ h₀ s (h ++ [⟨.call s (.reset kind haltAfter), a⟩]) fs := by
  refine hp.keeps ?_ rfl rfl rfl
  simp only [confirmations_call, confirmationsCall]
  rw [if_neg fail]

/-- What a refused check answers. -/
theorem refuseReset_handled (op : RequestOp) {status : Status} (ready : Ready s h)
    (alive : s.transportDead = false) (hop : op ≠ .attach) :
    (respond op.opcode requestId status).wp s h fun _ =>
      Handled policy (s, h) (Replied op requestId s h) := by
  refine respond_trace (Trace.start (p := policy)) (Or.inl ?_) fun b dead h₁ fs₁ ht₁ hd => ?_
  · cases op <;> first | decide | exact absurd rfl hop
  · exact ⟨fs₁, ht₁, ready.framed hd.keeps.toKeepsHalt hd.live hd.latched,
      .of_quiet hd.keeps.confirmed (hd.sent.responseFirst alive fun f hf => hf.header.isResponseTo)⟩

theorem opResetRun_replied (ready : Ready s h) (he : Engaged s h)
    (live : s.state = .halted ∨ s.state = .running) (alive : s.transportDead = false)
    (leave : ∀ h', Wrapping s → (confirmations h).resets < (confirmations h').resets →
      policy.leave h') :
    (opResetRun requestId payload).wp s h fun _ =>
      Handled policy (s, h) (Replied .resetRun requestId s h) := by
  simp only [opResetRun, Action.wp_bind, getSession_wp]
  cases checkReset s Cap.resetRun payload with
  | error status => exact refuseReset_handled .resetRun ready alive (by decide)
  | ok kind =>
    simp only [Action.wp_bind, Action.wp_ite, Action.wp_pure, backend_wp, updateSession_wp]
    refine prepareReset_trace .resetRun (Or.inr rfl) ready he live alive
      (fun s' h' hr => ⟨fun _ => hr, fun hf => absurd rfl hf⟩)
      fun s₁ h₁ fs₁ ht₁ hp => ⟨fun hf => (by simp at hf), fun _ a => ?_⟩
    have ht₂ := ht₁.call (c := .reset kind false) a ⟨hp.attached, hp.known, hp.clean, hp.cleared⟩ id
    refine ⟨fun fail => resetFailed_handled .resetRun (hp.toResetPhase.unconfirmed fail)
      (Or.inr rfl) ht₂ hp.fits, fun ok => ?_⟩
    have counted : confirmations (h₁ ++ [⟨.call s₁ (.reset kind false), a⟩]) =
        { confirmations h₁ with resets := (confirmations h₁).resets + 1 } := by
      simp only [confirmations_call, confirmationsCall]
      rw [if_pos (not_not.mp ok)]
    have he₂ : Engaged s₁ (h₁ ++ [⟨.call s₁ (.reset kind false), a⟩]) :=
      hp.toEngaged.append advertisedMap_call fun hr => hr.append _
    have ht₃ := ht₂.step (t := { s₁.clearDebugState.clearRunTracking with state := .running })
      (.run ?_ he₂.toActive rfl rfl ⟨rfl, rfl, rfl, rfl⟩)
    · refine respond_trace ht₃ (Or.inl (by decide)) fun b dead h₃ fs₃ ht₄ hd => ?_
      refine ⟨_, ht₄, Ready.of_running
        (Engaged.framed (s := { s₁.clearDebugState.clearRunTracking with
        state := .running }) ⟨⟨he₂.attached, he₂.mapped, he₂.live⟩, he₂.armed,
          Nat.zero_le _⟩ hd.keeps.map
        hd.live) rfl, ?_⟩
      have confirmed : (confirmations h₃).confirmedHalts = (confirmations h₁).confirmedHalts := by
        rw [hd.keeps.confirmed, counted]
      rcases hp.phase with ⟨next, -, alive₁, rfl, -⟩ | ⟨wrap, -, led⟩
      · exact Or.inl ⟨fun hw => next hw.1, hd.sent.responseFirst alive₁ fun f hf =>
          hf.header.isResponseTo⟩
      · refine Or.inr ⟨⟨wrap, ?_⟩, led.append⟩
        rw [confirmed]
        exact hp.halts wrap.1
    · rcases hp.phase with ⟨-, state, -⟩ | ⟨wrap, -⟩
      · exact Or.inl (by simp [state])
      · refine Or.inr (leave _ wrap ?_)
        rw [counted, ← hp.resets]
        exact Nat.lt_succ_self _

/-- The positive answer of a RESET_HALT whose generation wrapped. -/
theorem respondWrapped_handled (ht : Trace policy (s₀, h₀) s h fs) (state : s.state = .lost)
    (fits : SnapshotFits s) (led : EventLed fs)
    (wraps : Wraps .resetHalt s₀ (confirmations h₀) (confirmations h)) :
    (respond Opcode.resetHalt requestId .ok).wp s h fun _ s' h' =>
      emitPendingStopped.wp s' h' fun _ =>
        Handled policy (s₀, h₀) (Replied .resetHalt requestId s₀ h₀) := by
  refine respond_trace ht (Or.inl (by decide)) fun b dead h₁ fs₁ ht₁ hd => ?_
  refine emitPendingStopped_idle (Or.inr (by simp [Session.framed, state])) ?_
  refine ⟨_, ht₁, Ready.of_lost state fits, Or.inr ⟨?_, led.append⟩⟩
  rw [hd.keeps.confirmed]
  exact wraps

theorem opResetHalt_replied (ready : Ready s h) (he : Engaged s h)
    (live : s.state = .halted ∨ s.state = .running) (alive : s.transportDead = false) :
    (opResetHalt requestId payload).wp s h fun _ =>
      Handled policy (s, h) (Replied .resetHalt requestId s h) := by
  simp only [opResetHalt, Action.wp_bind, getSession_wp]
  cases checkReset s Cap.resetHalt payload with
  | error status => exact refuseReset_handled .resetHalt ready alive (by decide)
  | ok kind =>
    simp only [Action.wp_bind, Action.wp_ite, Action.wp_pure, backend_wp, updateSession_wp]
    refine prepareReset_trace .resetHalt (Or.inl rfl) ready he live alive
      (fun s' h' hr => ⟨fun _ => hr, fun hf => absurd rfl hf⟩)
      fun s₁ h₁ fs₁ ht₁ hp => ⟨fun hf => (by simp at hf), fun _ a => ?_⟩
    have ht₂ := ht₁.call (c := .reset kind true) a ⟨hp.attached, hp.known, hp.clean, hp.cleared⟩ id
    refine ⟨fun fail => resetFailed_handled .resetHalt (hp.toResetPhase.unconfirmed fail)
      (Or.inl rfl) ht₂ hp.fits, fun ok => ?_⟩
    have counted : confirmations (h₁ ++ [⟨.call s₁ (.reset kind true), a⟩]) =
        { confirmations h₁ with resets := (confirmations h₁).resets + 1 } := by
      simp only [confirmations_call, confirmationsCall]
      rw [if_pos (not_not.mp ok)]
    have seen : haltView (h₁ ++ [⟨.call s₁ (.reset kind true), a⟩]) = some ⟨a.stop, []⟩ := by
      simp only [haltView_call, haltViewCall]
      rw [if_pos ⟨not_not.mp ok, trivial⟩]
    have he₂ : Engaged s₁ (h₁ ++ [⟨.call s₁ (.reset kind true), a⟩]) :=
      hp.toEngaged.append advertisedMap_call fun hr => hr.append _
    have reset : (confirmations h).resets < (confirmations h₁).resets + 1 := by
      rw [hp.resets]
      exact Nat.lt_succ_self _
    -- the halt before the reset may itself have ended the generations
    rcases hp.phase with ⟨next, state, alive₁, rfl, stopId⟩ | ⟨wrap, state, led⟩
    · refine enterHalted_trace ht₂ he₂.toActive seen (by simp [state]) ⟨rfl, rfl, rfl, rfl⟩
        rfl rfl (Nat.zero_le _) (fun wrap s₂ h₂ fs₂ ht₃ hl => ?_)
          fun next₂ s₂ h₂ ht₃ entered fits₂ k₂ => ?_
      · have ht₄ := ht₃.keep (t := { s₂ with pendingReason := .reset }) (sameCore_of_rfl rfl)
        refine respondWrapped_handled ht₄ hl.state hl.fits ?_ (Or.inr ⟨?_, ?_⟩)
        · rcases hl.delivery.sent with ⟨hdead, -⟩ | ⟨-, f, hf, rfl⟩
          · exact absurd (alive₁.symm.trans hdead) (by decide)
          · exact ⟨f, [], rfl, hf.header.isEvent⟩
        · rw [hl.delivery.keeps.confirmed, counted]
          exact reset
        · exact stopId.imp (fun hs => ⟨hs.1, by rw [← hs.2]; exact wrap⟩)
            fun hs => ⟨hs.1, by rw [← hs.2]; exact wrap⟩
      · have ht₄ := ht₃.keep (t := { s₂ with pendingReason := .reset }) (sameCore_of_rfl rfl)
        have entered' : StopEntered s₁ { s₂ with pendingReason := .reset } a.stop :=
          entered.of_core (sameCore_of_rfl rfl)
        refine respond_trace ht₄ (Or.inl (by decide)) fun b dead h₃ fs₃ ht₅ hd => ?_
        refine emitPendingStopped_ready ht₅ ((entered'.engaged he₂ fits₂ k₂.toKeepsHalt).framed
          hd.keeps.map hd.live) entered'.state entered'.unreported
          (hd.keeps.halt.trans (k₂.halt.trans seen))
          fun s' h' fs' ht' ready' hev => ⟨_, ht', ready', Or.inl ⟨fun hw => ?_, ?_⟩⟩
        · rcases hw with hw | ⟨-, hw⟩
          · exact next hw.1
          · rcases stopId with ⟨hs, he⟩ | ⟨hs, he⟩
            · rcases hw with hw | hw
              · exact next₂ (he ▸ hw.2)
              · exact absurd (hs.symm.trans hw.1) (by decide)
            · rcases hw with hw | hw
              · exact absurd (hs.symm.trans hw.1) (by decide)
              · exact next₂ (he ▸ hw.2)
        · exact (hd.sent.responseFirst (entered'.transportDead.trans alive₁) fun f hf =>
            hf.header.isResponseTo).append hev
    · have ht₃ :=
        ht₂.keep (t := { s₁.clearDebugState.clearRunTracking with pendingReason := .reset })
        ⟨⟨rfl, rfl, rfl, rfl⟩, rfl, rfl, fun hs => absurd (state.symm.trans hs) (by decide)⟩
      have lost : s₁.clearDebugState.clearRunTracking.state = .lost := state
      simp only [enterHalted, Action.wp_bind, getSession_wp, Action.wp_ite, Action.wp_pure]
      refine ⟨fun _ => ?_, fun hn => absurd lost hn⟩
      refine respondWrapped_handled ht₃ state (Nat.zero_le _) led (Or.inl ⟨wrap, ?_⟩)
      rw [counted]
      exact hp.halts wrap.1

end

end SidpClient
