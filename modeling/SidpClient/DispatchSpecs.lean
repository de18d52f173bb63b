import SidpClient.ResetSpecs

/-! What each input does, and what holds along every run of inputs. -/
namespace SidpClient
open LittleEndian Interactive

variable {policy : Policy} {s s' : Session} {h h' : SessionHistory} {fs : List (List UInt8)}
  {requestId : UInt32} {payload message : List UInt8} {op : RequestOp}

/-- What a request may do beyond the ordinary: leave LOST through a wrapped RESET_RUN, and resume
the target for the user once its plan is in place. -/
def requestPolicy (c₀ : Config) (op : Option RequestOp) (payload : List UInt8) : Policy where
  leave h := op = some .resetRun ∧ Wrapping c₀.1 ∧
    (confirmations c₀.2).resets < (confirmations h).resets
  resume action address s h := op = some .run ∧ ∃ plan, checkRun c₀.1 payload = .ok plan ∧
    plan.request.action = action ∧ plan.request.runToAddress = address ∧ InPlace plan s h

def inputPolicy (c₀ : Config) : Input → Policy
  | .request message =>
    requestPolicy c₀ (requestOp (MsgHeader.parse message).opcode) (message.drop headerSize)
  | .poll => ⟨fun _ => False, fun _ _ _ _ => False⟩
  | .disconnect => ⟨fun _ => True, fun _ _ _ _ => False⟩

/-! Dispatch. -/

theorem Handled.mono {c₀ : Config} {P R : Session → SessionHistory → List (List UInt8) → Prop}
    (hh : Handled policy c₀ P s h) (hPR : ∀ fs, P s h fs → R s h fs) : Handled policy c₀ R s h := by
  obtain ⟨fs, ht, ready, hp⟩ := hh
  exact ⟨fs, ht, ready, hPR fs hp⟩

theorem RunOutcome.responseFirst (ho : RunOutcome s h requestId s' h' fs) :
    ResponseFirst Opcode.run requestId fs := by
  cases ho with
  | refused _ _ answered | rolledBack _ _ answered | lost _ _ answered | accepted answered =>
    exact answered.responseFirst

/-- A state whose gate lets an operation through that needs an attachment. -/
theorem live_of_gate (hg : (gateTable s.state (gateColumn op)).refusal = none)
    (hop : op ≠ .attach ∧ op ≠ .getState) : s.state = .halted ∨ s.state = .running := by
  obtain ⟨ha, hs⟩ := hop
  cases hstate : s.state with
  | halted => exact Or.inl rfl
  | running => exact Or.inr rfl
  | detached | lost =>
    rw [hstate] at hg
    cases op <;> first | exact absurd rfl ha | exact absurd rfl hs | exact absurd hg (by decide)

theorem halted_of_gate (hg : (gateTable s.state (gateColumn op)).refusal = none)
    (hop : op = .run ∨ op = .readRegisters ∨ op = .writeRegisters) : s.state = .halted := by
  cases hstate : s.state with
  | halted => rfl
  | detached | running | lost =>
    rw [hstate] at hg
    rcases hop with rfl | rfl | rfl <;> exact absurd hg (by decide)

theorem detached_of_gate (hg : (gateTable s.state (gateColumn .attach)).refusal = none) :
    s.state = .detached := by
  cases hstate : s.state with
  | detached => rfl
  | halted | running | lost =>
    rw [hstate] at hg
    exact absurd hg (by decide)

theorem dispatch_replied (requestId : UInt32) (payload : List UInt8) (ready : Ready s h)
    (alive : s.transportDead = false) (hg : (gateTable s.state (gateColumn op)).refusal = none) :
    (dispatch op requestId payload).wp s h fun _ =>
      Handled (requestPolicy (s, h) (some op) payload) (s, h) (Replied op requestId s h) := by
  have first (hop : ∀ n n', ¬Wraps op s n n') {a : Action Session Effect Reply Unit}
      (hr : a.wp s h fun _ => Replies (requestPolicy (s, h) (some op) payload)
        (s, h) op.opcode requestId) :
      a.wp s h fun _ => Handled (requestPolicy (s, h) (some op) payload) (s, h)
        (Replied op requestId s h) :=
    Action.wp_mono hr fun _ _ _ hh => hh.mono fun fs hf => Or.inl ⟨hop _ _, hf⟩
  have live (hop : op ≠ .attach ∧ op ≠ .getState) := live_of_gate hg hop
  cases op with
  | attach => exact first (fun _ _ => id) (opAttach_replies ready (detached_of_gate hg) alive)
  | detach =>
    have live := live ⟨by decide, by decide⟩
    exact first (fun _ _ => id) (opDetach_replies ready (ready.engaged live) live alive)
  | getState => exact first (fun _ _ => id) (opGetState_replies ready alive)
  | readMemory =>
    exact first (fun _ _ => id)
      (opReadMemory_replies ready (ready.engaged (live ⟨by decide, by decide⟩)) alive)
  | writeMemory =>
    exact first (fun _ _ => id)
      (opWriteMemory_replies ready (ready.engaged (live ⟨by decide, by decide⟩)) alive)
  | readRegisters =>
    exact first (fun _ _ => id)
      (opReadRegisters_replies ready (halted_of_gate hg (Or.inr (Or.inl rfl))) alive)
  | writeRegisters =>
    exact first (fun _ _ => id)
      (opWriteRegisters_replies ready (halted_of_gate hg (Or.inr (Or.inr rfl))) alive)
  | run =>
    refine first (fun _ _ => id) (Action.wp_mono (opRun_handled ready
      (halted_of_gate hg (Or.inl rfl)) alive fun plan hcheck s₁ h₁ inPlace => ?_)
      fun _ _ _ hh => hh.mono fun fs ho => ho.responseFirst)
    exact ⟨rfl, plan, hcheck, rfl, rfl, inPlace⟩
  | halt =>
    have live := live ⟨by decide, by decide⟩
    exact opHalt_replied ready (ready.engaged live) live alive
  | resetHalt =>
    have live := live ⟨by decide, by decide⟩
    exact opResetHalt_replied ready (ready.engaged live) live alive
  | resetRun =>
    have live := live ⟨by decide, by decide⟩
    exact opResetRun_replied ready (ready.engaged live) live alive fun h' wrap reset =>
      ⟨rfl, wrap, reset⟩

/-! Requests. -/

/-- A message the session takes as a request. -/
structure ValidRequest (message : List UInt8) : Prop where
  size : isValidMessageSize message.length
  version : (MsgHeader.parse message).version = protocolVersion
  kind : (MsgHeader.parse message).kind = MsgKind.request
  requestId : (MsgHeader.parse message).requestId ≠ 0

/-- The request meets the end of its generations. -/
def Overtaken (message : List UInt8) (s : Session) (n n' : Confirmations) : Prop :=
  ∃ op, requestOp (MsgHeader.parse message).opcode = some op ∧ Wraps op s n n'

/-- How `handle_request` answers: not at all, with one response and then events, or with an event
first where a generation wraps. -/
inductive Outcome (message : List UInt8) (s : Session) (h : SessionHistory) (s' : Session)
    (h' : SessionHistory) (fs : List (List UInt8)) : Prop
  | ignored (silent : s.transportDead = true ∨ ¬ValidRequest message) (session : s' = s)
      (history : h' = h)
  | answered (alive : s.transportDead = false) (valid : ValidRequest message)
      (next : ¬Overtaken message s (confirmations h) (confirmations h'))
      (first : ResponseFirst (MsgHeader.parse message).opcode
        (MsgHeader.parse message).requestId fs)
  | overtaken (alive : s.transportDead = false) (valid : ValidRequest message)
      (wraps : Overtaken message s (confirmations h) (confirmations h')) (led : EventLed fs)

theorem handleRequest_handled (ready : Ready s h) :
    (handleRequest message).wp s h fun _ =>
      Handled (inputPolicy (s, h) (.request message)) (s, h) (Outcome message s h) := by
  have ignore (silent : s.transportDead = true ∨ ¬ValidRequest message) :
      Handled (inputPolicy (s, h) (.request message)) (s, h) (Outcome message s h) s h :=
    ⟨[], Trace.start, ready, .ignored silent rfl rfl⟩
  simp only [handleRequest, Action.wp_bind, getSession_wp, Action.wp_ite, Action.wp_pure]
  refine ⟨fun hn => ignore (hn.imp id fun hsize hv => hsize hv.size), fun hn =>
    ⟨fun hversion => ignore (Or.inr fun hv => hversion hv.version), fun hversion =>
      ⟨fun hkind => ignore (Or.inr fun hv => ?_), fun hkind => ?_⟩⟩⟩
  · exact hkind.elim (fun hk => hk hv.kind) fun hid => hv.requestId hid
  obtain ⟨hdead, hsize⟩ := not_or.mp hn
  obtain ⟨hkind, hid⟩ := not_or.mp hkind
  have alive : s.transportDead = false := Bool.eq_false_of_not_eq_true hdead
  have valid : ValidRequest message :=
    ⟨not_not.mp hsize, not_not.mp hversion, not_not.mp hkind, hid⟩
  have refuse (status : Status) (error : status ≠ .ok) :
      (respond (MsgHeader.parse message).opcode (MsgHeader.parse message).requestId status).wp s h
        fun _ => Handled (inputPolicy (s, h) (.request message)) (s, h) (Outcome message s h) := by
    refine respond_trace (Trace.start (p := inputPolicy (s, h) (.request message)))
      (Or.inr error) fun b dead h₁ fs₁ ht₁ hd => ?_
    refine ⟨fs₁, ht₁, ready.framed hd.keeps.toKeepsHalt hd.live hd.latched,
      .answered alive valid ?_ (hd.sent.responseFirst alive fun f hf => hf.header.isResponseTo)⟩
    rintro ⟨op, -, hw⟩
    exact not_wraps_refl op s _ (hd.keeps.confirmed ▸ hw)
  cases hop : requestOp (MsgHeader.parse message).opcode with
  | none =>
    refine refuse _ ?_
    split <;> decide
  | some op =>
    dsimp only
    cases hg : (gateTable s.state (gateColumn op)).refusal with
    | some status =>
      refine refuse status ?_
      rintro rfl
      generalize gateTable s.state (gateColumn op) = gate at hg
      cases gate <;> exact absurd hg (by decide)
    | none =>
      have hd := dispatch_replied (MsgHeader.parse message).requestId (message.drop headerSize)
        ready alive hg
      simp only [inputPolicy, hop]
      refine Action.wp_mono hd fun _ s' evs hh => hh.mono fun fs hr => ?_
      rcases hr with ⟨next, first⟩ | ⟨wraps, led⟩
      · rw [← opcode_of_requestOp hop] at first
        refine .answered alive valid ?_ first
        rintro ⟨op', hop', hw⟩
        obtain rfl := Option.some.inj (hop.symm.trans hop')
        exact next hw
      · exact .overtaken alive valid ⟨op, hop, wraps⟩ led

theorem handlePoll_handled (ready : Ready s h) :
    handlePoll.wp s h fun _ => Handled (inputPolicy (s, h) .poll) (s, h)
      fun _ _ fs => ∀ f ∈ fs, IsEvent f := by
  simp only [handlePoll, Action.wp_bind, getSession_wp, Action.wp_ite, Action.wp_pure]
  refine ⟨fun _ => ⟨[], Trace.start, ready, by simp⟩, fun hn => ?_⟩
  have state : s.state = .running := not_not.mp (not_or.mp (not_or.mp hn).2).1
  exact pollStop_ready Trace.start (ready.engaged (Or.inr state)) state
    fun s' h' fs' ht' ready' hev => ⟨fs', ht', ready', hev⟩

theorem handleDisconnect_handled (ready : Ready s h) :
    handleDisconnect.wp s h fun ok => Handled (inputPolicy (s, h) .disconnect) (s, h)
      fun s' _ fs => fs = [] ∧ Disconnected s s' ok :=
  handleDisconnect_trace Trace.start (Or.inr fun _ => trivial) fun _ _ _ ht' hd =>
    ⟨[], ht', hd.ready ready, rfl, hd⟩

/-! Runs. -/

/-- What one input does, whatever it is. -/
theorem handle_moves (i : Input) (ready : Ready s h) :
    (handle i).wp s h fun _ s' h' => Moves (inputPolicy (s, h) i) (s, h)
    (s', h') ∧ Ready s' h' := by
  cases i with
  | request message =>
    simp only [handle, Action.wp_bind, Action.wp_pure]
    apply Action.wp_mono (handleRequest_handled ready)
    intro _ _ _ hh
    obtain ⟨_, ht, ready', _⟩ := hh
    exact ⟨ht.moves, ready'⟩
  | poll =>
    simp only [handle, Action.wp_bind, Action.wp_pure]
    apply Action.wp_mono (handlePoll_handled ready)
    intro _ _ _ hh
    obtain ⟨_, ht, ready', _⟩ := hh
    exact ⟨ht.moves, ready'⟩
  | disconnect =>
    apply Action.wp_mono (handleDisconnect_handled ready)
    intro _ _ _ hh
    obtain ⟨_, ht, ready', _⟩ := hh
    exact ⟨ht.moves, ready'⟩

theorem ready_fresh : Ready {} [] := Ready.of_detached rfl (Nat.zero_le _)

/-- What every move keeps, whatever its input, holds along every run. -/
theorem run_invariant {T : Type} {P : Session → SessionHistory → Prop} (env : SessionEnvironment T)
    (t₀ : T) (inputs : List Input) (start : P {} [])
    (hstep : ∀ policy s h s' h', Move policy (s, h) (s', h') → P s h → P s' h') :
    P (playSession env (freshWorld t₀) inputs).state
      (playSession env (freshWorld t₀) inputs).history ∧ Ready
      (playSession env (freshWorld t₀) inputs).state
        (playSession env (freshWorld t₀) inputs).history := by
  refine World.play_invariant (P := fun s h => P s h ∧ Ready s h) (fun s h i hp => ?_) inputs
    ⟨start, ready_fresh⟩
  apply Action.wp_mono (handle_moves i hp.2)
  intro _ s' evs hh
  exact ⟨hh.1.invariant (hstep _) hp.1, hh.2⟩

end SidpClient
