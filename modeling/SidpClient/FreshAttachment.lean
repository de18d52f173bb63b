import SidpClient.HiddenHandlers
import SidpClient.AttachReports
import SidpClient.SinkRejection

/-! Nothing leaks from one attachment to the next: a session that was attached and let go of its
target goes on as a new one does. -/
namespace SidpClient
open LittleEndian Interactive

/-- Nothing but the hidden fields and the latch is left of what the session did. -/
def Session.Released (s : Session) : Prop :=
  ∃ x dead, s = ({ transportDead := dead } : Session).hiding x

def Owned (s : Session) : Prop := s.attached = true

/-- The target is held. In DETACHED it is held only for a cleanup that has to be repeated. -/
def Held (s : Session) : Prop := s.attached = true ∧ (s.state = .detached → s.transportDead = true)

/-- The target is not held, and the session is as new or has lost it. -/
def Free (s : Session) : Prop := s.attached = false ∧ (s.state = .detached → s.Released)

/-- Two sessions between two inputs that no peer can tell apart. -/
def Related (s s' : Session) : Prop :=
  Alike Held StatusField s s' ∨ Alike Free (fun _ => False) s s'

variable {K : Session → Prop} {D : ℕ → Prop} {s s' : Session} {h : SessionHistory} {α : Type}
  {requestId : UInt32} {payload : List UInt8}

theorem engages_owned : Engages Owned :=
  ⟨fun _ hs => hs, fun _ hs _ => hs, fun _ _ hs attached _ _ => attached.trans hs⟩

theorem engages_held : Engages Held := by
  refine ⟨fun _ hs => hs.1, fun _ attached live => ⟨attached, fun hd => absurd hd live⟩, ?_⟩
  intro s s' hs attached state latched
  refine ⟨attached.trans hs.1, fun hd => latched (hs.2 ?_)⟩
  rw [← state]
  exact hd

theorem framed_free : Framed Free := by
  intro s b n dead _ hs
  refine ⟨hs.1, fun hd => ?_⟩
  obtain ⟨x, old, rfl⟩ := hs.2 hd
  exact ⟨{ x with scratch := b, txFrameSize := n }, dead, rfl⟩

theorem released_detachedState (clean : s.swTable = []) : s.detachedState.Released := by
  refine ⟨s.hidden, s.transportDead, ?_⟩
  have kept : s.detachedState = { s.detachedState with swTable := s.swTable } := rfl
  rw [kept, clean]
  rfl

/-- A session that lets go of a clean target. -/
theorem Alike.detached (ha : Alike K D s s') (clean : s.swTable = []) :
    Related s.detachedState s'.detachedState := by
  obtain ⟨x, rfl, hx⟩ := ha
  exact Or.inr ⟨x, rfl, ⟨rfl, fun _ => released_detachedState clean⟩, fun attached =>
    absurd attached Bool.false_ne_true, fun _ hf => hf.elim, fun i hi =>
      absurd hi (Nat.not_lt_zero i)⟩

theorem Alike.free (ha : Alike Free D s s') : Related s s' := Or.inr (ha.mono fun _ hf => hf.elim)

/-! Letting go. -/

theorem haltForDetach_veiled (eng : Engages K) (requestId : UInt32) :
    Veiled K StatusField (haltForDetach requestId) := by
  apply getSession_veiled (fun _ _ => rfl)
  intro s _
  apply Action.Keeping.ite (fun _ => .pure _)
  intro _
  apply Action.Keeping.bind (backend_veiled _)
  intro a
  apply Action.Keeping.ite (fun _ => .bind (sendBackendFailure_veiled eng _ _ _ _) fun _ => .pure _)
  intro _
  cases softwareHit s.swTable a.stop with
  | none => exact .pure _
  | some bp =>
    have asked : Veiled K StatusField
        (updateSession fun s =>
          { s with swStepOverPending := true, swStepOverAddress := bp.address }) :=
      updateSame_veiled eng ⟨fun _ _ => rfl, fun _ => rfl, fun _ => rfl, fun _ =>
        le_rfl⟩ fun _ => rfl
    exact .bind asked fun _ => .pure _

theorem releaseTarget_paired (ha : Alike Held StatusField s s') (action : UInt8) :
    (releaseTarget requestId action).paired outsider
    (releaseTarget requestId action) s s' fun _ => Related := by
  have refuse (t t' : Session) (ht : Alike Held StatusField t t') :
      (respond Opcode.detach requestId .swdError >>= fun _ => pure ()).paired outsider
        (respond Opcode.detach requestId .swdError >>= fun _ => pure ()) t t' fun _ => Related := by
    apply Action.paired_bind
    apply respond_paired engages_held.framed ht
    intro u u' hu _
    exact Action.paired_pure (Or.inl hu)
  apply Action.paired_bind
  apply Action.paired_mono (Action.paired_and (h := []) (swBpRestoreAll_veiled engages_held s s' ha)
    swBpRestoreAll_empties)
  intro restored t t' both
  obtain ⟨empties, ht⟩ := both
  apply Action.paired_ite
  · intro _
    exact refuse t t' ht
  intro done
  have clean : t.swTable = [] := empties (by simpa using done)
  apply Action.paired_bind
  apply backend_paired
  intro a _
  apply Action.paired_ite
  · intro _
    exact refuse t t' ht
  intro _
  apply Action.paired_bind
  apply respond_paired engages_held.framed ht
  intro u u' hu framed
  obtain ⟨b, n, dead, rfl⟩ := framed
  apply Action.paired_modify
  exact hu.detached clean

theorem opDetach_paired (ha : Alike Held StatusField s s') (requestId : UInt32)
    (payload : List UInt8) :
    (opDetach requestId payload).paired outsider
    (opDetach requestId payload) s s' fun _ => Related := by
  rw [opDetach]
  cases checkDetach payload with
  | error status =>
    apply Action.paired_mono (respond_veiled engages_held _ _ _ s s' ha)
    intro _ t t' ht
    exact Or.inl ht
  | ok action =>
    apply Action.paired_bind
    apply Action.paired_mono (haltForDetach_veiled engages_held requestId s s' ha)
    intro halted t t' ht
    apply Action.paired_ite
    · intro _
      exact Action.paired_pure (Or.inl ht)
    intro _
    apply Action.paired_get
    have fields : t'.swStepOverPending = t.swStepOverPending ∧
        t'.swStepOverAddress = t.swStepOverAddress := by
      obtain ⟨x, rfl, -⟩ := ht
      exact ⟨rfl, rfl⟩
    rw [fields.1, fields.2]
    apply Action.paired_ite
    · intro _
      apply Action.paired_bind
      apply Action.paired_mono (writeCurrentPc_veiled _ t t' ht)
      intro written u u' hu
      apply Action.paired_ite
      · intro _
        apply Action.paired_bind
        apply respond_paired engages_held.framed hu
        intro v v' hv _
        exact Action.paired_pure (Or.inl hv)
      · intro _
        exact releaseTarget_paired hu action
    · intro _
      exact releaseTarget_paired ht action

/-- The cleanup of a held target. -/
theorem handleDisconnect_paired (ha : Alike Owned StatusField s s') :
    handleDisconnect.paired outsider handleDisconnect s s' fun _ => Related := by
  have lose (t t' : Session) (ht : Alike Owned StatusField t t') :
      (updateSession (fun s => { s with state := .lost }) >>= fun _ => pure false).paired outsider
        (updateSession (fun s => { s with state := .lost }) >>= fun _ => pure false) t t'
        fun _ => Related := by
    apply Action.paired_bind
    apply Action.paired_modify
    apply Action.paired_pure
    obtain ⟨x, rfl, hx⟩ := ht
    exact Or.inl ⟨x, rfl, engages_held.lost t hx.lasting, hx.served, hx.written, hx.pending⟩
  apply Action.paired_bind
  apply Action.paired_modify
  have dead : Alike Owned StatusField { s with transportDead := true }
      { s' with transportDead := true } := by
    obtain ⟨x, rfl, hx⟩ := ha
    exact ⟨x, rfl, hx.lasting, hx.served, hx.written, hx.pending⟩
  generalize ({ s with transportDead := true } : Session) = t₀ at dead ⊢
  generalize ({ s' with transportDead := true } : Session) = t₀' at dead ⊢
  have attached : t₀.attached = true := dead.lasting
  have attached' : t₀'.attached = t₀.attached := by
    obtain ⟨x, rfl, -⟩ := dead
    rfl
  apply Action.paired_get
  rw [attached', attached, if_neg (by decide)]
  apply Action.paired_bind
  apply backend_paired
  intro a _
  apply Action.paired_ite
  · intro _
    exact lose _ _ dead
  intro _
  apply Action.paired_bind
  apply Action.paired_mono (Action.paired_and (h := [])
    (swBpRestoreAll_veiled engages_owned _ _ dead)
    swBpRestoreAll_empties)
  intro restored t t' both
  obtain ⟨empties, ht⟩ := both
  apply Action.paired_ite
  · intro _
    exact lose _ _ ht
  intro done
  have clean : t.swTable = [] := empties (by simpa using done)
  apply Action.paired_bind
  apply backend_paired
  intro b _
  apply Action.paired_ite
  · intro _
    exact lose _ _ ht
  intro _
  apply Action.paired_bind
  apply Action.paired_modify
  exact Action.paired_pure (ht.detached clean)

/-! ATTACH. -/

/-- A frame that was not taken leaves the transport dead. -/
theorem finishFrame_dead :
    finishFrame.wp s h fun sent t _ => sent = false → t.transportDead = true := by
  apply Action.wp_bind.mpr
  rw [getSession_wp, Action.wp_ite]
  refine ⟨fun dead _ => dead, fun _ => ?_⟩
  cases Crc32.calculateMessage (s.scratch.read 0 s.txFrameSize) with
  | none =>
    intro _
    rfl
  | some crc =>
    simp only [Action.wp_bind, updateSession_wp, txSink_wp, Action.wp_ite, Action.wp_pure]
    intro accepted
    exact ⟨fun _ _ => trivial, fun taken refused => absurd refused (by decide)⟩

/-- Whatever the target does behind the response, it stays held. -/
theorem haltAfterAttach_paired (ha : Alike Owned StatusField s s') (live : s.state ≠ .lost) :
    haltAfterAttach.paired outsider haltAfterAttach s s' fun _ => Alike Held StatusField := by
  have lose (reason : TargetLostReason) : (enterLost reason >>= fun _ => pure ()).paired outsider
      (enterLost reason >>= fun _ => pure ()) s s' fun _ => Alike Held StatusField := by
    apply Action.paired_bind
    apply Action.paired_mono (enterLost_paired engages_held.framed (fun s hs =>
      engages_held.lost s hs)
      (fun s hs lost => ⟨hs, fun hd => absurd (lost.symm.trans hd) (by decide)⟩) ha reason)
    intro _ t t' ht
    exact Action.paired_pure ht
  have stops (stop : StopDetect) :
      (enterHalted stop >>= fun _ => emitPendingStopped).paired outsider
      (enterHalted stop >>= fun _ => emitPendingStopped) s s' fun _ => Alike Held StatusField := by
    apply Action.paired_bind
    apply Action.paired_mono (enterHalted_paired engages_owned engages_held ha live stop)
    intro _ t t' ht
    exact emitPendingStopped_veiled engages_held t t' ht
  apply Action.paired_bind
  apply backend_paired
  intro polled _
  apply Action.paired_ite
  · intro _
    exact lose _
  intro _
  apply Action.paired_ite
  · intro _
    exact stops _
  intro _
  apply Action.paired_bind
  apply backend_paired
  intro halted _
  apply Action.paired_ite
  · intro _
    exact stops _
  intro _
  apply Action.paired_ite
  · intro _
    exact lose _
  intro _
  apply Action.paired_bind
  apply Action.paired_modify
  apply Action.paired_pure
  obtain ⟨x, rfl, hx⟩ := ha
  exact ⟨x, rfl, ⟨hx.lasting, fun hd => absurd hd (by decide : TargetState.running ≠ .detached)⟩,
    hx.served, hx.written, hx.pending⟩

theorem rejectAttach_paired (ha : Alike Owned D s s') (requestId : UInt32) :
    (respond Opcode.attach requestId .error >>= fun _ => handleDisconnect >>= fun _ =>
      pure ()).paired outsider
      (respond Opcode.attach requestId .error >>= fun _ => handleDisconnect >>=
        fun _ => pure ()) s s'
      fun _ => Related := by
  apply Action.paired_bind
  apply respond_paired engages_owned.framed ha
  intro t t' ht _
  apply Action.paired_bind
  apply Action.paired_mono (handleDisconnect_paired ht)
  intro _ u u' hu
  exact Action.paired_pure hu

/-- ATTACH writes all that was different. -/
theorem opAttach_paired (ha : Alike Free D s s') (state : s.state = .detached) (requestId : UInt32)
    (payload : List UInt8) :
    (opAttach requestId payload).paired outsider
    (opAttach requestId payload) s s' fun _ => Related := by
  have refuse (status : Status) : (respond Opcode.attach requestId status >>= fun _ =>
      pure ()).paired outsider
      (respond Opcode.attach requestId status >>= fun _ => pure ()) s s' fun _ => Related := by
    apply Action.paired_bind
    apply respond_paired framed_free ha
    intro t t' ht _
    exact Action.paired_pure ht.free
  have free : s'.attached = s.attached := by
    obtain ⟨x, rfl, -⟩ := ha
    rfl
  apply Action.paired_get
  rw [free]
  apply Action.paired_ite
  · intro _
    exact refuse _
  intro _
  apply Action.paired_ite
  · intro _
    exact refuse _
  intro _
  apply Action.paired_bind
  apply backend_paired
  intro a _
  apply Action.paired_ite
  · intro _
    apply Action.paired_bind
    apply Action.paired_ite
    · intro _
      apply Action.paired_bind
      apply respond_paired framed_free ha
      intro t t' ht _
      apply Action.paired_bind
      have lost (s : Session) (hs : Free s) : Free { s with state := .lost } :=
        ⟨hs.1, fun hd => absurd hd (by decide : TargetState.lost ≠ .detached)⟩
      apply Action.paired_mono (enterLost_paired framed_free lost (fun _ hs _ => hs) ht .swdFault)
      intro _ u u' hu
      exact Action.paired_pure (Action.paired_pure hu.free)
    · intro _
      apply respond_paired framed_free ha
      intro t t' ht _
      exact Action.paired_pure ht.free
  intro _
  -- the record that both backends report decides what both sessions hold
  generalize normalizeAttachInfo a.info = info
  apply Action.paired_bind
  apply Action.paired_modify
  have fresh (regions : List MemoryRegion) : Alike Owned (fun _ => False)
      { s.attachedWith info with regions := regions }
      { s'.attachedWith info with regions := regions } := by
    obtain ⟨x, rfl, -⟩ := ha
    exact ⟨⟨x.scratch, x.txFrameSize, x.pendingRegisters, (s.attachedWith info).resources, regions⟩,
      rfl, rfl, fun _ => ⟨rfl, rfl⟩, fun _ hf => hf.elim, fun i hi => absurd hi (Nat.not_lt_zero i)⟩
  apply Action.paired_ite
  · intro _
    exact rejectAttach_paired (fresh []) requestId
  intro _
  apply Action.paired_bind
  apply Action.paired_modify
  apply Action.paired_bind
  apply beginFrame_paired engages_owned.framed (fresh (parseMap info.memoryRegions))
  · intro _
    exact rejectAttach_paired (fresh _) requestId
  intro t t' hb begun
  rw [if_neg (by decide)]
  apply Action.paired_bind
  apply writePayload_paired engages_owned.framed hb
  intro t₁ t₁' hb₁ wrote₁
  apply Action.paired_bind
  apply writePayload_paired engages_owned.framed hb₁
  intro t₂ t₂' hb₂ wrote₂
  have state₂ : t₂.state = .detached := by
    rw [wrote₂, wrote₁, begun]
    exact state
  apply Action.paired_bind
  apply Action.paired_mono (Action.paired_and (h := [])
    (Q := fun _ u u' => Alike Owned StatusField u u' ∧ u.state = .detached) ?_ finishFrame_dead)
  · intro sent u u' both
    obtain ⟨latched, hu, state₃⟩ := both
    apply Action.paired_ite
    · intro unsent
      have dead := latched (by simpa using unsent)
      exact Action.paired_pure (Or.inl (hu.with ⟨hu.lasting, fun _ => dead⟩))
    intro _
    apply Action.paired_ite
    · intro _
      apply Action.paired_mono (haltAfterAttach_paired hu (by rw [state₃]; decide))
      intro _ v v' hv
      exact Or.inl hv
    · intro _
      apply Action.paired_modify
      obtain ⟨x, rfl, hx⟩ := hu
      exact Or.inl ⟨x, rfl, ⟨hx.lasting, fun hd =>
        absurd hd (by decide : TargetState.running ≠ .detached)⟩, hx.served, hx.written, hx.pending⟩
  · apply finishFrame_paired engages_owned.framed hb₂
    · intro i hi hc
      rw [attachResponseBytes_length]
      simp only [headerSize, attachResponseSize] at hi ⊢
      omega
    intro sent u u' hu done
    obtain ⟨b, dead, rfl⟩ := done
    refine ⟨hu.mono fun i hi => ?_, state₂⟩
    obtain ⟨low, high⟩ := hi
    rw [attachResponseBytes_length]
    simp only [attachResponseSize]
    omega

/-! Dispatch. -/

theorem dispatch_paired (ready : Ready s h) (related : Related s s')
    (alive : s.transportDead = false) {op : RequestOp}
    (gate : (gateTable s.state (gateColumn op)).refusal = none) (requestId : UInt32)
    (payload : List UInt8) :
    (dispatch op requestId payload).paired outsider
    (dispatch op requestId payload) s s' fun _ => Related := by
  rcases related with ha | ha
  · have held := ha.lasting
    have serves {m : SessionM Unit} (hm : Veiled Held StatusField m) :
        m.paired outsider m s s' fun _ => Related := by
      apply Action.paired_mono (hm s s' ha)
      intro _ t t' ht
      exact Or.inl ht
    cases op with
    | attach =>
      have detached : s.state = .detached := by
        cases hs : s.state with
        | detached => rfl
        | _ => exact absurd gate (by rw [hs]; decide)
      exact absurd (alive.symm.trans (held.2 detached)) Bool.false_ne_true
    | detach => exact opDetach_paired ha requestId payload
    | getState =>
      apply opGetState_paired engages_held.framed ha
      intro t t' ht _
      exact Or.inl ht
    | readMemory => exact serves (opReadMemory_veiled engages_held _ _)
    | writeMemory => exact serves (opWriteMemory_veiled engages_held _ _)
    | readRegisters => exact serves (opReadRegisters_veiled engages_held _ _)
    | writeRegisters => exact serves (opWriteRegisters_veiled engages_held _ _)
    | run => exact serves (opRun_veiled engages_held _ _)
    | halt => exact serves (opHalt_veiled engages_held _ _)
    | resetHalt => exact serves (opResetHalt_veiled engages_held _ _)
    | resetRun => exact serves (opResetRun_veiled engages_held _ _)
  · -- a target that is not held is neither halted nor running
    have unheld (live : s.state = .halted ∨ s.state = .running) : False :=
      absurd ((ready.engaged live).attached.symm.trans ha.lasting.1) (by decide)
    have gone : s.state = .detached ∨ s.state = .lost := by
      cases hs : s.state with
      | detached => exact Or.inl rfl
      | lost => exact Or.inr rfl
      | halted => exact (unheld (Or.inl hs)).elim
      | running => exact (unheld (Or.inr hs)).elim
    cases op with
    | attach =>
      rcases gone with detached | lost
      · exact opAttach_paired ha detached requestId payload
      · exact absurd gate (by rw [lost]; decide)
    | getState =>
      apply opGetState_paired framed_free ha
      intro t t' ht _
      exact ht.free
    | _ => rcases gone with hs | hs <;> exact absurd gate (by rw [hs]; decide)

theorem Related.respond (related : Related s s') (opcode : UInt16) (requestId : UInt32)
    (status : Status) :
    (SidpClient.respond opcode requestId status).paired outsider
    (SidpClient.respond opcode requestId status) s s'
      fun _ => Related := by
  rcases related with ha | ha
  · apply respond_paired engages_held.framed ha
    intro t t' ht _
    exact Or.inl ht
  · apply respond_paired framed_free ha
    intro t t' ht _
    exact ht.free

theorem Related.hiding (related : Related s s') : ∃ x, s' = s.hiding x := by
  rcases related with ⟨x, same, -⟩ | ⟨x, same, -⟩
  · exact ⟨x, same⟩
  · exact ⟨x, same⟩

theorem handleRequest_paired (ready : Ready s h) (related : Related s s') (message : List UInt8) :
    (handleRequest message).paired outsider (handleRequest message) s s' fun _ => Related := by
  apply Action.paired_get
  have fields : s'.transportDead = s.transportDead ∧ s'.state = s.state := by
    obtain ⟨x, rfl⟩ := related.hiding
    exact ⟨rfl, rfl⟩
  rw [fields.1, fields.2]
  apply Action.paired_ite
  · intro _
    exact Action.paired_pure related
  intro valid
  have alive : s.transportDead = false := Bool.eq_false_of_not_eq_true fun dead =>
      valid (Or.inl dead)
  apply Action.paired_ite
  · intro _
    exact Action.paired_pure related
  intro _
  apply Action.paired_ite
  · intro _
    exact Action.paired_pure related
  intro _
  dsimp only
  cases requestOp (MsgHeader.parse message).opcode with
  | none => exact related.respond _ _ _
  | some op =>
    dsimp only
    cases gate : (gateTable s.state (gateColumn op)).refusal with
    | some status => exact related.respond _ _ _
    | none => exact dispatch_paired ready related alive gate _ _

/-- Whatever comes in, two sessions that no peer can tell apart stay so. -/
theorem handle_paired (ready : Ready s h) (related : Related s s') (i : Input) :
    (handle i).paired outsider (handle i) s s' fun _ => Related := by
  cases i with
  | request message =>
    apply Action.paired_bind
    apply Action.paired_mono (handleRequest_paired ready related message)
    intro _ t t' ht
    exact Action.paired_pure ht
  | poll =>
    have polled : handlePoll.paired outsider handlePoll s s' fun _ => Related := by
      rcases related with ha | ha
      · apply Action.paired_mono (handlePoll_veiled engages_held s s' ha)
        intro _ t t' ht
        exact Or.inl ht
      · have free : s'.attached = s.attached := by
          obtain ⟨x, rfl, -⟩ := ha
          rfl
        apply Action.paired_get
        rw [if_pos (Or.inr (Or.inr (by rw [ha.lasting.1]; rfl))),
          if_pos (Or.inr (Or.inr (by rw [free, ha.lasting.1]; rfl)))]
        exact Action.paired_pure ha.free
    apply Action.paired_bind
    apply Action.paired_mono polled
    intro _ t t' ht
    exact Action.paired_pure ht
  | disconnect =>
    rcases related with ha | ha
    · exact handleDisconnect_paired (ha.with ha.lasting.1)
    · apply Action.paired_bind
      apply Action.paired_modify
      apply Action.paired_get
      obtain ⟨x, rfl, hx⟩ := ha
      have gone : (s.hiding x).attached = false := hx.lasting.1
      dsimp only
      rw [hx.lasting.1, gone]
      apply Action.paired_pure
      refine Or.inr ⟨x, rfl, ⟨rfl, fun hd => ?_⟩,
        fun attached => absurd attached Bool.false_ne_true, hx.written, hx.pending⟩
      obtain ⟨y, dead, rfl⟩ := hx.lasting.2 hd
      exact ⟨y, true, rfl⟩

/-! Runs. -/

/-- A backend script and a sink script, over one state of what is outside. -/
def against {T : Type} (target : T → Call → Answer × T) (sink : T → List UInt8 → Bool × T) :
    SessionEnvironment T
  | t, .call _ c => target t c
  | t, .offer f => sink t f

/-- What a peer and a backend see of an event. -/
def seen : SessionEvent → (Call × Answer) ⊕ (List UInt8 × Bool)
  | ⟨.call _ c, a⟩ => .inl (c, a)
  | ⟨.offer f, accepted⟩ => .inr (f, accepted)

theorem seen_of_answered {h h' : SessionHistory} (same : List.Forall₂ outsider.answered h h') :
    h'.map seen = h.map seen := by
  induction same with
  | nil => rfl
  | @cons ev ev' _ _ one _ ih =>
    obtain ⟨e, r⟩ := ev
    obtain ⟨e', r'⟩ := ev'
    have head : seen ⟨e', r'⟩ = seen ⟨e, r⟩ := by
      cases e with
      | call s c =>
        cases e' with
        | call s' c' =>
          obtain ⟨rfl, rfl, -⟩ := one
          rfl
        | offer f => exact one.elim
      | offer f =>
        cases e' with
        | call s c => exact one.elim
        | offer f' =>
          obtain ⟨rfl, rfl⟩ := one
          rfl
    rw [List.map_cons, List.map_cons, head, ih]

section
variable {T : Type} {target : T → Call → Answer × T} {sink : T → List UInt8 → Bool × T}

theorem outsider_guides (fills : ∀ t (c : Call), c.Filled (target t c).1) :
    outsider.Guides (against target sink) := by
  intro t e e' asked
  cases e with
  | call s c =>
    cases e' with
    | call s' c' =>
      obtain rfl : c' = c := asked
      exact ⟨⟨rfl, rfl, fills t c'⟩, rfl⟩
    | offer f => exact asked.elim
  | offer f =>
    cases e' with
    | call s c => exact asked.elim
    | offer f' =>
      obtain rfl : f' = f := asked
      exact ⟨⟨rfl, rfl⟩, rfl⟩

theorem free_fresh : Free {} := ⟨rfl, fun _ => ⟨({} : Session).hidden, false, rfl⟩⟩

/-- Two worlds whose sessions no peer can tell apart. -/
theorem playSession_paired (sink : T → List UInt8 → Bool × T)
    (fills : ∀ t (c : Call), c.Filled (target t c).1) {w w' : SessionWorld T}
    (ready : Ready w.state w.history) (related : Related w.state w'.state)
    (outside : w'.outside = w.outside) (inputs : List Input) :
    ∃ evs evs', (playSession (against target sink) w inputs).history = w.history ++ evs ∧
      (playSession (against target sink) w' inputs).history = w'.history ++ evs' ∧
      List.Forall₂ outsider.answered evs evs' ∧
      Related (playSession (against target sink) w inputs).state
        (playSession (against target sink) w' inputs).state := by
  apply World.play_paired (outsider_guides fills) (P := Ready) _ _ ready related outside
  · intro s h i hs
    apply Action.wp_mono (handle_moves i hs)
    intro _ _ _ moved
    exact moved.2
  · intro s h s' i hs both
    exact handle_paired hs both i

/-- For every run that ends in DETACHED with nothing to clean up, and for all that may follow: the
session makes the calls and offers the frames of a new session. -/
theorem detached_as_new (fills : ∀ t (c : Call), c.Filled (target t c).1) (t₀ : T)
    (before further : List Input)
    (detached : (playSession (against target sink) (freshWorld t₀) before).state.state = .detached)
    (clean : (playSession (against target sink) (freshWorld t₀) before).state.needsDisconnect =
      false) :
    let w := playSession (against target sink) (freshWorld t₀) before
    (playSession (against target sink) w further).history.map seen =
      w.history.map seen ++
        (playSession (against target sink) (freshWorld w.outside) further).history.map seen := by
  intro w
  have start : Related (freshWorld t₀).state (freshWorld t₀).state :=
    (Alike.refl (D := StatusField) free_fresh).free
  obtain ⟨-, -, -, -, -, reached⟩ := playSession_paired sink fills ready_fresh start rfl before
  have released : w.state.Released := by
    rcases reached with held | free
    · exact absurd (clean.symm.trans (held.lasting.2 detached)) Bool.false_ne_true
    · exact free.lasting.2 detached
  obtain ⟨x, dead, hw⟩ := released
  have alive : dead = false := by
    have latch := congrArg Session.transportDead hw
    exact latch.symm.trans clean
  rw [alive] at hw
  have related : Related (freshWorld w.outside).state w.state :=
    Or.inr ⟨x, hw, free_fresh, fun attached => absurd attached Bool.false_ne_true,
      fun _ hf => hf.elim, fun i hi => absurd hi (Nat.not_lt_zero i)⟩
  obtain ⟨evs, evs', he, he', same, -⟩ :=
    playSession_paired sink fills (w := freshWorld w.outside) ready_fresh related rfl further
  rw [he', he, List.map_append, seen_of_answered same]
  rfl

end

/-! A target that reads zeros and answers every other call with a halt. -/

def zeroed : Unit → Call → Answer × Unit
  | _, .readMem _ _ size _ => ({ data := List.replicate size 0, stop := { halted := true } }, ())
  | _, _ => ({ stop := { halted := true } }, ())

theorem zeroed_filled (t : Unit) (c : Call) : c.Filled (zeroed t c).1 := by
  cases c with
  | readMem _ _ size _ =>
    intro _
    exact (List.length_replicate (a := (0 : UInt8))).ge
  | readRegs _ _ =>
    intro _
    exact Nat.zero_le _
  | _ => trivial

def visit : List Input :=
  [.request (requestMessage .attach 1 [0, 0, 0, 0, 0, 1, 0, 0]),
    .request (requestMessage .detach 2 [DetachAction.keepHalted, 0, 0, 0])]

/-- The second attachment repeats the first, frame by frame. -/
theorem visit_twice :
    let w := playSession (against zeroed fun _ _ => (true, ())) (freshWorld ()) visit
    (playSession (against zeroed fun _ _ => (true, ())) w visit).history.map seen =
      w.history.map seen ++
        (playSession (against zeroed fun _ _ => (true, ())) (freshWorld ())
          visit).history.map seen :=
  detached_as_new zeroed_filled () visit visit (by decide +kernel) (by decide +kernel)

/-! A target whose reads succeed, the first with 64 bytes and all later ones with none. -/

def lazy : Bool → Call → Answer × Bool
  | used, .attach _ => ({ info := debugTarget }, used)
  | used, .readMem _ _ _ _ => ({ data := if used then [] else List.replicate 64 0xAA }, true)
  | used, _ => ({ stop := { halted := true } }, used)

/-- Attach, read 64 bytes of memory, detach. -/
def lazyVisit : List Input :=
  [.request (requestMessage .attach 1 [0, 0, 0, 0, 0, 1, 0, 0]),
    .request (requestMessage .readMemory 2
      (le32 0 ++ le64 0x20000000 ++ le32 64 ++ le16 MemAccess.allowRunning ++
        [MemWidth.default, 0])),
    .request (requestMessage .detach 3 [DetachAction.keepHalted, 0, 0, 0])]

/-- A read that succeeds and writes nothing shows what the frame buffer held: a backend that does
not fill the buffer it is given leaks from one attachment to the next. -/
theorem lazy_read_leaks :
    ¬∀ (target : Bool → Call → Answer × Bool) (sink : Bool → List UInt8 → Bool × Bool)
    (t₀ : Bool) (before further : List Input),
    (playSession (against target sink) (freshWorld t₀) before).state.state = .detached →
    (playSession (against target sink) (freshWorld t₀) before).state.needsDisconnect = false →
    let w := playSession (against target sink) (freshWorld t₀) before
    (playSession (against target sink) w further).history.map seen =
      w.history.map seen ++
        (playSession (against target sink) (freshWorld w.outside) further).history.map seen := by
  intro claim
  have same := claim lazy (fun used _ => (true, used)) false lazyVisit lazyVisit (by decide +kernel)
      (by decide +kernel)
  -- the last byte of the second READ_MEMORY response
  have byte := congrArg (fun evs => ((evs.filterMap Sum.getRight?)[6]?).map fun sent =>
      getU8 sent.1 91) same
  revert byte
  decide +kernel

end SidpClient
