import SidpClient.PeerProtocol

/-! A peer that hears every frame is never told what it refuses, and always knows where the session
is. -/
namespace SidpClient
open LittleEndian Interactive

variable {s s' : Session} {h h' : SessionHistory} {p p' : Peer} {opcode : UInt16}
  {requestId : UInt32} {status : Status}

/-- The peer has refused nothing, and is at `p` as long as the transport lives. -/
structure Hears (p : Peer) (s : Session) (h : SessionHistory) : Prop where
  fits : SnapshotFits s
  heard : ∃ q, heard h = some q ∧ (s.transportDead = false → q = p)

/-- What holds between two inputs. -/
structure Abreast (s : Session) (h : SessionHistory) : Prop where
  fits : SnapshotFits s
  follows : ∃ p, heard h = some p ∧ (s.transportDead = false → p.Follows s)

theorem Hears.abreast (hp : Hears p s h) (follows : p.Follows s) : Abreast s h := by
  obtain ⟨q, known, same⟩ := hp.heard
  refine ⟨hp.fits, q, known, fun alive => ?_⟩
  rw [same alive]
  exact follows

/-- Nothing that the peer could hear, and nothing it knows about has changed. -/
structure Unheard (s : Session) (h : SessionHistory) (s' : Session) (h' : SessionHistory) :
    Prop where
  heard : SidpClient.heard h' = SidpClient.heard h
  state : s'.state = s.state
  stopId : s'.stopId = s.stopId
  reported : s'.stopReported = s.stopReported
  dead : s'.transportDead = s.transportDead
  fits : SnapshotFits s → SnapshotFits s'

theorem Unheard.refl (s : Session) (h : SessionHistory) : Unheard s h s h :=
  ⟨rfl, rfl, rfl, rfl, rfl, id⟩

theorem Unheard.trans {s'' : Session} {h'' : SessionHistory} (m : Unheard s h s' h')
    (m' : Unheard s' h' s'' h'') :
    Unheard s h s'' h'' :=
  ⟨m'.heard.trans m.heard, m'.state.trans m.state, m'.stopId.trans m.stopId,
    m'.reported.trans m.reported, m'.dead.trans m.dead, fun fits => m'.fits (m.fits fits)⟩

theorem Unheard.call (m : Unheard s h s' h') {s₁ : Session} {c : Call} {a : Answer} :
    Unheard s h s' (h' ++ [⟨.call s₁ c, a⟩]) :=
  ⟨heard_call.trans m.heard, m.state, m.stopId, m.reported, m.dead, m.fits⟩

/-- An update of nothing the peer knows about. -/
theorem Unheard.keep {t : Session} (m : Unheard s h s' h')
    (same : (t.state, t.stopId, t.stopReported, t.transportDead, t.pendingRegistersSize,
      t.pendingStackSize) = (s'.state, s'.stopId, s'.stopReported, s'.transportDead,
        s'.pendingRegistersSize, s'.pendingStackSize)) :
    Unheard s h t h' := by
  simp only [Prod.mk.injEq] at same
  obtain ⟨state, stopId, reported, dead, registers, stack⟩ := same
  refine m.trans ⟨rfl, state, stopId, reported, dead, fun fits => ?_⟩
  rw [SnapshotFits, registers, stack]
  exact fits

theorem Unheard.hears (m : Unheard s h s' h') (hp : Hears p s h) : Hears p s' h' := by
  obtain ⟨q, known, same⟩ := hp.heard
  exact ⟨m.fits hp.fits, q, m.heard.trans known, fun alive => same (m.dead.symm.trans alive)⟩

theorem Unheard.follows (m : Unheard s h s' h') (hp : p.Follows s) : p.Follows s' := by
  cases p with
  | detached => exact m.state.trans hp
  | lost => exact m.state.trans hp
  | running n =>
    rw [Peer.Follows, m.state, m.stopId]
    exact hp
  | halted n =>
    rw [Peer.Follows, m.state, m.stopId]
    exact hp

theorem QuietHistory.unheard (q : QuietHistory h h') (s : Session) :
    Unheard s h s h' := ⟨q.heard, rfl, rfl, rfl, rfl, id⟩

theorem Quiet.unheard (q : Quiet s h s' h') : Unheard s h s' h' := by
  have same := q.session
  generalize s'.swTable = table at same
  subst same
  exact ⟨q.history.heard, rfl, rfl, rfl, rfl, id⟩

theorem rollbackRunConfig_unheard : rollbackRunConfig.wp s h fun _ => Unheard s h := by
  apply Action.wp_mono rollbackRunConfig_quiet
  intro _ s' h' rolled
  obtain ⟨quiet, same⟩ := rolled
  generalize s'.swTable = table at same
  subst same
  exact ⟨quiet.heard, rfl, rfl, rfl, rfl, id⟩

theorem installRun_unheard (plan : RunPlan) : (installRun plan).wp s h fun _ => Unheard s h := by
  apply Action.wp_mono (installRun_quiet plan)
  intro _ s' h' installed
  obtain ⟨quiet, same⟩ := installed
  generalize s'.swTable = table at same
  generalize s'.hwBreakpointIds = ids at same
  subst same
  exact ⟨quiet.heard, rfl, rfl, rfl, rfl, id⟩

theorem executeStepOver_unheard (action : UInt8) :
    (executeStepOver action).wp s h fun _ => Unheard s h := by
  simp only [executeStepOver, Action.wp_bind, getSession_wp, Action.wp_ite,
    Action.wp_pure, backend_wp]
  refine ⟨fun _ => Unheard.refl s h, fun _ => ?_⟩
  generalize swBpFindByAddress s.swTable s.swStepOverAddress = bp
  apply Action.wp_mono (swBpRestoreFound_quiet bp)
  intro _ s₁ h₁ restored
  have m₁ := restored.unheard
  refine ⟨fun _ => m₁, fun _ => ?_⟩
  apply Action.wp_mono (writeCurrentPc_quiet _)
  intro _ s₂ h₂ written
  have m₂ := m₁.trans written.unheard
  constructor
  · intro _
    apply Action.wp_mono (swBpInstallFound_quiet bp)
    intro _ _ _ installed
    exact m₂.trans installed.unheard
  intro _ a
  refine ⟨fun _ => m₂.call, fun _ => ?_⟩
  apply Action.wp_mono (pollStepHalted_polled 100)
  intro observed s₃ h₃ polled
  obtain ⟨polls, rfl⟩ := polled
  have m₃ := m₂.call.trans (polls.quiet.unheard s₃)
  cases observed with
  | error reason => exact m₃
  | ok stop =>
    simp only [Action.wp_bind, updateSession_wp, Action.wp_ite, Action.wp_pure]
    have m₄ := m₃.keep (t := { s₃ with swStepOverPending := false, swStepOverAddress := 0 })
        (by rfl)
    apply Action.wp_mono (swBpInstallFound_quiet bp)
    intro _ _ _ installed
    have m₅ := m₄.trans installed.unheard
    exact ⟨fun _ => m₅, fun _ => ⟨fun _ => m₅, fun _ => ⟨fun _ => m₅, fun _ => m₅⟩⟩⟩

/-! Frames. -/

/-- One frame more, which the peer accepts. -/
theorem Offered.hears {P : List UInt8 → Prop} {b : Buffer} {n : ℕ} {dead : Bool}
    {evs : SessionHistory} (ho : Offered s P dead evs) (hp : Hears p s h) (fits : SnapshotFits s')
    (hear : ∀ f, P f → p.hear f = some p') : Hears p' (s'.framed b n dead) (h ++ evs) := by
  obtain ⟨q, known, same⟩ := hp.heard
  rcases ho with ⟨-, rfl, rfl⟩ | ⟨before, f, accepted, hf, rfl, rfl⟩
  · refine ⟨fits, q, ?_, fun alive => Bool.noConfusion alive⟩
    rw [List.append_nil]
    exact known
  · cases accepted with
    | false => exact ⟨fits, q, heard_offer.trans known, fun alive => Bool.noConfusion alive⟩
    | true =>
      refine ⟨fits, p', ?_, fun _ => rfl⟩
      rw [heard_offer, if_pos rfl, known, same before]
      exact hear f hf

theorem respond_hears {Q : Unit → Session → SessionHistory → Prop} (hp : Hears p s h) (p' : Peer)
    (answer : p.answers opcode status = some p')
    (news : status = .ok → opcode ≠ Opcode.getState ∧ opcode ≠ Opcode.readRegisters)
    (hQ : ∀ b dead h', Hears p' (s.framed b 16 dead) h' → Q () (s.framed b 16 dead) h') :
    (respond opcode requestId status).wp s h Q := by
  apply respond_wp
  intro b dead evs ho
  apply hQ
  apply ho.hears hp hp.fits
  intro f hf
  rw [Peer.hear_response hf.header.isResponseTo.1 hf.header.opcode hf.status, answer]
  intro ok op hop
  obtain ⟨notState, notRegisters⟩ := news ok
  have named := opcode_of_requestOp hop
  cases op with
  | getState => exact absurd named notState
  | readRegisters => exact absurd named notRegisters
  | _ => rfl

/-- A refused request tells nothing. -/
theorem refuse_hears {Q : Unit → Session → SessionHistory → Prop} (hp : Hears p s h)
    (refused : status ≠ .ok)
    (hQ : ∀ b dead h', Hears p (s.framed b 16 dead) h' → Q () (s.framed b 16 dead) h') :
    (respond opcode requestId status).wp s h Q :=
  respond_hears hp p (if_neg refused) (fun ok => absurd ok refused) hQ

theorem refuse_abreast (hp : Hears p s h) (follows : p.Follows s) (refused : status ≠ .ok) :
    (respond opcode requestId status).wp s h fun _ => Abreast := by
  apply refuse_hears hp refused
  intro b dead h' hp'
  apply hp'.abreast
  cases p <;> exact follows

theorem enterLost_hears {reason : TargetLostReason} (hp : Hears p s h)
    (lost : s.state = .lost → p = .lost) (live : s.state ≠ .lost → p.lose = some .lost) :
    (enterLost reason).wp s h fun _ => Abreast := by
  apply enterLost_wp
  · intro state
    apply hp.abreast
    rw [lost state]
    exact state
  · intro state b dead evs ho
    have fits : SnapshotFits { s with state := .lost } := hp.fits
    have hp' : Hears .lost ({ s with state := .lost }.framed b 20 dead) (h ++ evs) := by
      apply ho.hears hp fits
      intro f hf
      rw [Peer.hear_lost hf]
      exact live state
    exact hp'.abreast rfl

theorem Peer.Follows.lost_of (hf : p.Follows s) (state : s.state = .lost) : p = .lost := by
  cases p with
  | lost => rfl
  | detached => exact absurd (hf.symm.trans state) (by decide)
  | running n => exact absurd (hf.1.symm.trans state) (by decide)
  | halted n => exact absurd (hf.1.symm.trans state) (by decide)

/-- Losing the target, wherever the peer has followed. -/
theorem loseTarget_abreast {reason : TargetLostReason} (hp : Hears p s h) (follows : p.Follows s) :
    (enterLost reason).wp s h fun _ => Abreast :=
  enterLost_hears hp follows.lost_of follows.lose

theorem sendBackendFailure_abreast {result : EspErr} {fallback : Status} (hp : Hears p s h)
    (follows : p.Follows s) (refused : fallback ≠ .ok) :
    (sendBackendFailure opcode requestId result fallback).wp s h fun _ => Abreast := by
  simp only [sendBackendFailure, Action.wp_bind, Action.wp_ite, Action.wp_pure]
  constructor
  · intro _
    apply refuse_hears hp (by decide)
    intro b dead h' hp'
    exact loseTarget_abreast hp' (by cases p <;> exact follows)
  · intro _
    apply refuse_abreast hp follows
    split
    · decide
    · exact refused

/-! The stop pipeline. -/

theorem captureStackSnapshot_unheard (small : s.pendingRegistersSize ≤ snapshotBlobCapacity) :
    captureStackSnapshot.wp s h fun _ => Unheard s h := by
  have start := Unheard.refl s h
  simp only [captureStackSnapshot, Action.wp_bind, getSession_wp]
  cases findRegister s.pendingRegisters s.pendingRegistersSize armRegSp with
  | none => exact start
  | some entry =>
    simp only
    generalize getU32 (s.pendingRegisters.read (entry.offset + registerValueSize) 4) 0 = sp
    cases hregion : stackRegion s.regions sp with
    | none => exact start
    | some region =>
      have wraps := (stackRegion_some hregion).2.2.2
      simp only
      cases hwindow : stackWindow region sp s.pendingRegistersSize with
      | none => exact start
      | some window =>
        obtain ⟨address, size⟩ := window
        have room := (stackWindow_some wraps hwindow).2
        simp only [Action.wp_bind, backend_wp, updateSession_wp, Action.wp_ite, Action.wp_pure]
        intro a
        constructor
        · intro _
          exact start.call.keep (by rfl)
        · intro _
          refine start.call.trans ⟨rfl, rfl, rfl, rfl, rfl, fun _ => ?_⟩
          have sum : s.pendingRegistersSize + size ≤ snapshotBlobCapacity := by omega
          exact sum

theorem captureSnapshot_unheard (empty : s.pendingStackSize = 0) :
    captureSnapshot.wp s h fun _ => Unheard s h := by
  have start := Unheard.refl s h
  simp only [captureSnapshot, Action.wp_bind, getSession_wp, Action.wp_ite, Action.wp_pure,
    backend_wp, updateSession_wp]
  refine ⟨fun _ a => ⟨fun read => ?_, fun _ => ?_⟩, fun _ => start⟩
  · apply Action.wp_mono (captureStackSnapshot_unheard read.2)
    intro _ s₁ h₁ m
    have called : Unheard s h s (h ++ [⟨.call s (.readRegs [] snapshotBlobCapacity), a⟩]) :=
      start.call
    have sum : a.outSize + s.pendingStackSize ≤ snapshotBlobCapacity := by
      rw [empty]
      exact read.2
    apply called.trans
    apply Unheard.trans _ m
    exact ⟨rfl, rfl, rfl, rfl, rfl, fun _ => sum⟩
  · exact start.call.keep (by rfl)

/-- A stop in hand: halted with a generation the peer has not heard of, or lost at the last
generation. -/
structure StopInHand (p : Peer) (s : Session) (h : SessionHistory) : Prop extends Hears p s h where
  state : s.state = .halted
  unreported : s.stopReported = false
  behind : p.Behind s.stopId

theorem enterHalted_hears {stop : StopDetect} {Q : Unit → Session → SessionHistory → Prop}
    (hp : Hears p s h) (state : s.state ≠ .lost) (upTo : p.UpTo s.stopId)
    (hlost : ∀ s' h', s'.state = .lost → s'.stopId = 0 → Hears .lost s' h' → Q () s' h')
    (hhalt : ∀ s' h', StopInHand p s' h' → Q () s' h') : (enterHalted stop).wp s h Q := by
  simp only [enterHalted, Action.wp_bind, getSession_wp, Action.wp_ite, Action.wp_pure,
    updateSession_wp]
  refine ⟨fun lost => absurd lost state, fun _ => ⟨fun wrap => ?_, fun next => ?_⟩⟩
  · apply enterLost_wp
    · intro lost
      exact absurd lost state
    intro _ b dead evs ho
    have numbered : Hears p (s.nextStop (classifyStop s stop)) h := ⟨hp.fits, hp.heard⟩
    have fits : SnapshotFits { s.nextStop (classifyStop s stop) with state := .lost } := hp.fits
    apply hlost _ _ (by rfl) wrap
    apply ho.hears numbered fits
    intro f hf
    rw [Peer.hear_lost hf]
    exact upTo.lose
  · apply Action.wp_mono (captureSnapshot_unheard (by rfl))
    intro _ s' h' m
    apply hhalt
    refine ⟨m.hears ⟨Nat.zero_le _, hp.heard⟩, m.state, m.reported, ?_⟩
    rw [m.stopId]
    exact upTo.behind next

theorem emitPendingStopped_hears {n : UInt32} (hp : StopInHand (.running n) s h) :
    emitPendingStopped.wp s h fun _ => Abreast := by
  simp only [emitPendingStopped, Action.wp_bind, getSession_wp, Action.wp_ite, Action.wp_pure]
  have due : ¬(s.stopReported = true ∨ s.state ≠ .halted) := by
    rw [hp.state, hp.unreported]
    decide
  refine ⟨fun idle => absurd idle due, fun _ => ?_⟩
  apply sendStopped_wp hp.fits
  intro b size dead evs ho
  have fits : SnapshotFits { s with stopReported := !dead } := hp.fits
  have told : Hears (.halted s.stopId) ({ s with stopReported := !dead }.framed b size dead)
      (h ++ evs) := by
    apply ho.hears hp.toHears fits
    intro f hf
    rw [Peer.hear_stopped hf]
    exact if_pos hp.behind
  exact told.abreast ⟨hp.state, rfl⟩

/-- A stop that is reported at once. -/
theorem reportStop_abreast {stop : StopDetect} {n : UInt32} (hp : Hears (.running n) s h)
    (state : s.state ≠ .lost) (upTo : n ≤ s.stopId) :
    (enterHalted stop).wp s h fun _ s' h' => emitPendingStopped.wp s' h' fun _ => Abreast := by
  apply enterHalted_hears hp state upTo
  · intro s' h' lost _ hp'
    apply emitPendingStopped_idle (Or.inr (by rw [lost]; decide))
    exact hp'.abreast lost
  · intro s' h' inHand
    exact emitPendingStopped_hears inHand

theorem pollStop_abreast {n : UInt32} (hp : Hears (.running n) s h) (state : s.state = .running)
    (upTo : n ≤ s.stopId) : pollStop.wp s h fun _ => Abreast := by
  simp only [pollStop, Action.wp_bind, backend_wp, Action.wp_ite, Action.wp_pure]
  intro a
  have m : Unheard s h s (h ++ [⟨.call s .pollHalted, a⟩]) := (Unheard.refl s h).call
  have polled := m.hears hp
  have follows : (Peer.running n).Follows s := ⟨state, upTo⟩
  refine ⟨fun _ => loseTarget_abreast polled follows, fun _ =>
    ⟨fun _ => ?_, fun _ => polled.abreast follows⟩⟩
  exact reportStop_abreast polled (by rw [state]; decide) upTo

end SidpClient
