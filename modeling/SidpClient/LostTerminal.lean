import SidpClient.ResponseOrder
import SidpClient.QuietPrograms

/-! LOST is the end of a connection, but for a RESET_RUN that has used up the stop generations. -/
namespace SidpClient
open LittleEndian Interactive

variable {policy : Policy} {s s' : Session} {h h' evs : SessionHistory} {requestId : UInt32}
  {payload message : List UInt8} {fs : List (List UInt8)}

/-- A request or a poll. -/
def Input.contact : Input → Bool
  | .disconnect => false
  | _ => true

/-! What a lost session does. -/

/-- What a lost session does with an input: no backend call and no report, and an error for every
request but GET_STATE. -/
structure LostAnswer (s : Session) (i : Input) (evs : SessionHistory) : Prop where
  quiet : calls evs = []
  silent : ∀ f ∈ offered evs, isStopped f = false ∧ isTargetLost f = false
  refused : ∀ message, i = .request message → s.transportDead = false → ValidRequest message →
    requestOp (MsgHeader.parse message).opcode ≠ some .getState → ∃ f, offered evs = [f] ∧
      ResponseFrame (MsgHeader.parse message).opcode
        (MsgHeader.parse message).requestId .targetLost f

/-- The session stays lost, whatever is sent to it and however often it is polled. -/
def StaysLost {T : Type} (env : SessionEnvironment T) (w : SessionWorld T) : Prop :=
  ∀ later : List Input, (∀ j ∈ later, j.contact = true) →
    let v := playSession env w later
    v.state.state = .lost ∧
      ∀ j : Input, j.contact = true → LostAnswer v.state j (v.perform env (handle j)).2.2

theorem Offered.all {P : List UInt8 → Prop} {dead : Bool} (ho : Offered s P dead evs) :
    ∀ f ∈ offered evs, P f := by
  rcases ho with ⟨-, -, rfl⟩ | ⟨-, f, accepted, hf, -, rfl⟩
  · exact fun f hm => absurd hm List.not_mem_nil
  · intro g hm
    rw [List.mem_singleton.mp hm]
    exact hf

theorem ResponseFrame.silent {opcode : UInt16} {status : Status} {f : List UInt8}
    (hf : ResponseFrame opcode requestId status f) : isStopped f = false ∧ isTargetLost f = false :=
  ⟨hf.not_stopped, isTargetLost_of_response hf.header.isResponseTo.1⟩

/-- GET_STATE answers with one response in every state. -/
theorem opGetState_silent : (opGetState requestId payload).wp s h fun _ s' h' =>
    s'.state = s.state ∧ ∃ evs, h' = h ++ evs ∧ calls evs = [] ∧
      ∀ f ∈ offered evs, isStopped f = false ∧ isTargetLost f = false := by
  simp only [opGetState, Action.wp_bind, Action.wp_ite, Action.wp_pure, beginFrame_wp,
    getSession_wp, writePayload_wp]
  refine ⟨fun _ => ?_, fun _ => ⟨fun hn => absurd hn (by decide), fun _ =>
    ⟨fun hf => absurd hf (by decide), fun _ => ?_⟩⟩⟩
  · apply respond_wp
    intro b dead evs ho
    exact ⟨rfl, evs, rfl, ho.calls_nil, fun f hm => (ho.all f hm).silent⟩
  · refine finishFrame_offered (s := s) (P := fun f => HasHeader f MsgKind.response Opcode.getState
      requestId) (by decide) (fun crc => sealedFrame_hasHeader crc (by decide) ?_) ?_
    · rw [Buffer.read_write_of_disjoint _ _ _ _ _ (Or.inl (by decide)), read_headerBytes]
    · intro b dead evs ho
      refine ⟨rfl, evs, rfl, ho.calls_nil, fun f hm => ?_⟩
      have header := ho.all f hm
      exact ⟨header.not_stopped (Or.inl (by decide)),
        isTargetLost_of_response header.isResponseTo.1⟩

theorem lost_step {i : Input} (lost : s.state = .lost) (contact : i.contact = true) :
    (handle i).wp s h fun _ s' h' => s'.state = .lost ∧ ∃ evs,
    h' = h ++ evs ∧ LostAnswer s i evs := by
  cases i with
  | disconnect => exact absurd contact (by decide)
  | poll =>
    simp only [handle, handlePoll, Action.wp_bind, getSession_wp, Action.wp_ite, Action.wp_pure]
    refine ⟨fun _ => ⟨lost, [], (List.append_nil h).symm, rfl, by simp [offered], by simp⟩,
      fun hn => ?_⟩
    exact absurd (Or.inr (Or.inl (by simp [lost]))) hn
  | request message =>
    -- no transport, or not a request: nothing is sent
    have ignored (silent : s.transportDead = true ∨ ¬ValidRequest message) :
        s.state = .lost ∧ ∃ evs, h = h ++ evs ∧ LostAnswer s (.request message) evs := by
      refine ⟨lost, [], (List.append_nil h).symm, rfl, by simp [offered], ?_⟩
      rintro m ⟨⟩ alive valid
      rcases silent with dead | invalid
      · exact absurd (alive.symm.trans dead) Bool.false_ne_true
      · exact absurd valid invalid
    -- everything else but GET_STATE is answered TARGET_LOST
    have refused : (respond (MsgHeader.parse message).opcode (MsgHeader.parse message).requestId
        .targetLost).wp s h fun _ s' h' => s'.state = .lost ∧ ∃ evs, h' = h ++ evs ∧
          LostAnswer s (.request message) evs := by
      apply respond_wp
      intro b dead evs ho
      refine ⟨lost, evs, rfl, ho.calls_nil, fun f hm => (ho.all f hm).silent, ?_⟩
      rintro m ⟨⟩ alive - -
      rcases ho with ⟨hd, -⟩ | ⟨-, f, accepted, hf, -, rfl⟩
      · exact absurd (alive.symm.trans hd) Bool.false_ne_true
      · exact ⟨f, rfl, hf⟩
    simp only [handle, Action.wp_bind, Action.wp_pure]
    cases hop : requestOp (MsgHeader.parse message).opcode with
    | none =>
      simp only [handleRequest, Action.wp_bind, getSession_wp, Action.wp_ite, Action.wp_pure, hop,
        if_pos lost]
      refine ⟨fun hn => ignored (hn.imp id fun size valid => size valid.size), fun _ =>
        ⟨fun version => ignored (Or.inr fun valid => version valid.version), fun _ =>
          ⟨fun kind => ignored (Or.inr fun valid => ?_), fun _ => refused⟩⟩⟩
      exact kind.elim (fun hk => hk valid.kind) fun zero => valid.requestId zero
    | some op =>
      apply handleRequest_op hop
      · exact ignored
      · intro status _ _ _ gate
        rw [lost] at gate
        cases op with
        | getState => exact absurd gate (by simp [gateTable, gateColumn, GateType.refusal])
        | _ =>
          obtain rfl : Status.targetLost = status := Option.some.inj gate
          exact refused
      · intro _ _ gate
        rw [lost] at gate
        cases op with
        | getState =>
          apply Action.wp_mono opGetState_silent
          intro _ s' _ answered
          obtain ⟨state, evs, he, quiet, silent⟩ := answered
          refine ⟨state.trans lost, evs, he, quiet, silent, ?_⟩
          rintro m ⟨⟩ _ _ hn
          exact absurd hop hn
        | _ => exact absurd gate (by simp [gateTable, gateColumn, GateType.refusal])

theorem staysLost_of_lost {T : Type} {env : SessionEnvironment T} {w : SessionWorld T}
    (lost : w.state.state = .lost) : StaysLost env w := by
  intro later contacts
  have stays : (playSession env w later).state.state = .lost := by
    induction later generalizing w with
    | nil => exact lost
    | cons i later ih =>
      apply ih _ fun j hj => contacts j (List.mem_cons_of_mem _ hj)
      exact (World.perform_wp (lost_step lost (contacts i List.mem_cons_self))).1
  refine ⟨stays, fun j contact => ?_⟩
  generalize playSession env w later = v at stays
  have answered : ∃ evs, (v.perform env (handle j)).2.1.history = v.history ++ evs ∧
      LostAnswer v.state j evs := (World.perform_wp (lost_step (h := v.history) stays contact)).2
  obtain ⟨evs, he, answer⟩ := answered
  rw [World.perform_history] at he
  rw [List.append_cancel_left he]
  exact answer

/-! How LOST is entered, and how it may be left. -/

/-- TARGET_LOST was sent, or the session has just become lost. -/
def EntersLost {T : Type} (env : SessionEnvironment T) (w : SessionWorld T) (i : Input) : Prop :=
  let r := w.perform env (handle i)
  (∃ f ∈ offered r.2.2, isTargetLost f = true) ∨
    (w.state.state ≠ .lost ∧ r.2.1.state.state = .lost)

/-- Behind a TARGET_LOST there is no report. -/
def LostLast (fs : List (List UInt8)) : Prop :=
  ∀ before f after, fs = before ++ f :: after → isTargetLost f = true →
    ∀ g ∈ after, isStopped g = false ∧ isTargetLost g = false

/-- A RESET_RUN of a running target in its last stop generation, whose reset succeeds. -/
def Revives (s : Session) (i : Input) (asked : List (Call × Answer)) : Prop :=
  match i with
  | .request message => requestOp (MsgHeader.parse message).opcode = some .resetRun ∧
      s.state = .running ∧ s.stopId + 1 = 0 ∧ asked.any resetAnswered = true
  | _ => False

theorem lostLast_nil : LostLast [] := fun before f after he => absurd he (by simp)

theorem LostLast.concat {f : List UInt8} (hl : LostLast fs)
    (hf : (isStopped f = false ∧ isTargetLost f = false) ∨ ∀ g ∈ fs, isTargetLost g = false) :
    LostLast (fs ++ [f]) := by
  intro before g after he lost g' hm
  rcases List.eq_nil_or_concat' after with rfl | ⟨after', last, rfl⟩
  · exact absurd hm List.not_mem_nil
  · rw [← List.cons_append, ← List.append_assoc] at he
    obtain ⟨hfs, hlast⟩ := List.append_inj' he rfl
    obtain rfl := (List.cons.inj hlast).1
    rcases hf with quiet | none
    · rcases List.mem_append.mp hm with hm | hm
      · exact hl before g after' hfs lost g' hm
      · rw [List.mem_singleton.mp hm]
        exact quiet
    · have before_lost : isTargetLost g = false := none g (hfs ▸ by simp)
      exact absurd (before_lost.symm.trans lost) (by decide)

/-- Since the history `h₀`, LOST was left or never entered, or the session is lost and has reported
nothing since it said so. -/
def LostSince (h₀ : SessionHistory) (left : SessionHistory → Prop) (s : Session)
    (h : SessionHistory) : Prop :=
  left h ∨ ∃ fs, offered h = offered h₀ ++ fs ∧ LostLast fs ∧
    ((∃ f ∈ fs, isTargetLost f = true) → s.state = .lost)

theorem LostSince.step {h₀ : SessionHistory} (move : Move policy (s, h) (s', h'))
    (grows : ∀ evs, policy.leave h → policy.leave (h ++ evs))
    (hl : LostSince h₀ policy.leave s h) : LostSince h₀ policy.leave s' h' := by
  rcases hl with left | ⟨fs, frames, last, lost⟩
  · obtain ⟨evs, he⟩ := move.extends
    left
    rw [show h' = h ++ evs from he]
    exact grows evs left
  -- a move that sends nothing and does not leave LOST
  have same (state : s.state = .lost → s'.state = .lost) (quiet : offered h' = offered h) :
      LostSince h₀ policy.leave s' h' :=
    Or.inr ⟨fs, quiet.trans frames, last, fun hf => state (lost hf)⟩
  have called {s₁ : Session} {c : Call} {a : Answer} (state : s.state = .lost → s'.state = .lost)
      (he : h' = h ++ [⟨.call s₁ c, a⟩]) : LostSince h₀ policy.leave s' h' := by
    apply same state
    rw [he, offered_call]
  -- a frame either leaves the state alone or is TARGET_LOST, the last of its kind
  have sent {f : List UInt8} {accepted : Bool} (he : h' = h ++ [⟨.offer f, accepted⟩])
      (hf : (isStopped f = false ∧ isTargetLost f = false ∧ s'.state = s.state) ∨
        (s.state ≠ .lost ∧ (isTargetLost f = true → s'.state = .lost))) :
      LostSince h₀ policy.leave s' h' := by
    right
    refine ⟨fs ++ [f], by rw [he, offered_offer, frames, List.append_assoc], ?_, ?_⟩
    · apply last.concat
      rcases hf with ⟨stopped, target, -⟩ | ⟨alive, -⟩
      · exact Or.inl ⟨stopped, target⟩
      · refine Or.inr fun g hm => Bool.eq_false_of_not_eq_true fun hg => alive (lost ⟨g, hm, hg⟩)
    · rintro ⟨g, hm, hg⟩
      rcases List.mem_append.mp hm with hm | hm
      · rcases hf with ⟨-, -, state⟩ | ⟨alive, -⟩
        · exact state.trans (lost ⟨g, hm, hg⟩)
        · exact absurd (lost ⟨g, hm, hg⟩) alive
      · rw [List.mem_singleton.mp hm] at hg
        rcases hf with ⟨-, target, -⟩ | ⟨-, becomes⟩
        · exact absurd (target.symm.trans hg) (by decide)
        · exact becomes hg
  cases move with
  | keep core => exact same (fun hs => core.state.trans hs) rfl
  | hangUp => exact same id rfl
  | abandon => exact same (fun _ => rfl) rfl
  | compact => exact same id rfl
  | halt state _ _ entered => exact same (fun hs => absurd hs state) rfl
  | run state _ _ _ _ =>
    rcases state with state | left
    · exact same (fun hs => absurd hs state) rfl
    · exact Or.inl left
  | detach action a state =>
    rcases state with state | left
    · exact called (fun hs => absurd hs state) rfl
    · exact Or.inl (grows _ left)
  | attach params a info regions free state =>
    exact called (fun hs => absurd (state.symm.trans hs) (by decide)) rfl
  | call | resume | arm | restore | record | write => exact called id rfl
  | respond _ response =>
    exact sent rfl (Or.inl ⟨isStopped_of_response response, isTargetLost_of_response response, rfl⟩)
  | advertise _ map =>
    have response := isResponse_of_advertised map
    exact sent rfl (Or.inl ⟨isStopped_of_response response, isTargetLost_of_response response, rfl⟩)
  | report _ state _ frame =>
    refine sent rfl (Or.inr ⟨by simp [state], fun hf => ?_⟩)
    exact absurd (frame.not_lost.symm.trans hf) (by decide)
  | lose state becomes _ _ _ offered =>
    rcases offered with ⟨-, -, rfl⟩ | ⟨-, f, accepted, hf, -, rfl⟩
    · rw [List.append_nil]
      exact Or.inr ⟨fs, frames, last, fun _ => becomes⟩
    · exact sent rfl (Or.inr ⟨state, fun _ => becomes⟩)

theorem exists_call_of_mem {c : Call} {a : Answer} (hm : (c, a) ∈ calls evs) :
    ∃ s, (⟨.call s c, a⟩ : SessionEvent) ∈ evs := by
  induction evs with
  | nil => exact absurd hm List.not_mem_nil
  | cons ev evs ih =>
    obtain ⟨e, reply⟩ := ev
    cases e with
    | offer f =>
      obtain ⟨s, hs⟩ := ih hm
      exact ⟨s, List.mem_cons_of_mem _ hs⟩
    | call s c' =>
      rcases List.mem_cons.mp hm with he | hm
      · cases he
        exact ⟨s, List.mem_cons_self⟩
      · obtain ⟨s, hs⟩ := ih hm
        exact ⟨s, List.mem_cons_of_mem _ hs⟩

/-- The resets the backend has confirmed are never fewer. -/
theorem resets_mono (h evs : SessionHistory) :
    (confirmations h).resets ≤ (confirmations (h ++ evs)).resets := by
  rw [confirmations_append]
  exact Nat.le_add_right _ _

theorem Calm.resets (k : Calm h h') : (confirmations h').resets = (confirmations h).resets := by
  obtain ⟨evs, rfl, calm⟩ := k
  rw [confirmations_append]
  have none : (calls evs).countP resetAnswered = 0 := by
    rw [List.countP_eq_zero]
    rintro ⟨c, a⟩ hm
    obtain ⟨s, hs⟩ := exists_call_of_mem hm
    have routine := calm s c a hs
    cases c with
    | reset kind haltAfter => exact absurd routine Bool.false_ne_true
    | _ => exact Bool.false_ne_true
  exact congrArg ((confirmations h).resets + ·) none

/-- Without such a RESET_RUN an input that enters LOST ends in LOST. -/
theorem lostSince_input {T : Type} {env : SessionEnvironment T} {w : SessionWorld T} {i : Input}
    (ready : Ready w.state w.history) (contact : i.contact = true)
    (stays : ¬Revives w.state i (calls (w.perform env (handle i)).2.2)) :
    let r := w.perform env (handle i)
    LostLast (offered r.2.2) ∧
      ((∃ f ∈ offered r.2.2, isTargetLost f = true) → r.2.1.state.state = .lost) := by
  intro r
  have moves : Moves (inputPolicy (w.state, w.history) i) (w.state, w.history)
      (r.2.1.state, r.2.1.history) := (World.perform_wp (w := w) (handle_moves i ready)).1
  have since : LostSince w.history (inputPolicy (w.state, w.history) i).leave r.2.1.state
      r.2.1.history := by
    refine moves.invariant (P := LostSince w.history (inputPolicy (w.state, w.history) i).leave)
      (fun s h s' h' move hl => hl.step move fun evs left => ?_)
      (Or.inr ⟨[], (List.append_nil _).symm, lostLast_nil, fun hf => by simp at hf⟩)
    cases i with
    | disconnect => exact absurd contact (by decide)
    | poll => exact left
    | request message => exact ⟨left.1, left.2.1, left.2.2.trans_le (resets_mono _ _)⟩
  rcases since with left | ⟨fs, frames, last, lost⟩
  · cases i with
    | disconnect => exact absurd contact (by decide)
    | poll => exact absurd left id
    | request message =>
      obtain ⟨op, ⟨running, wrap⟩, more⟩ := left
      rw [World.perform_history, confirmations_append] at more
      exact absurd ⟨op, running, wrap, lt_add_countP_iff.mp more⟩ stays
  · rw [World.perform_history, offered_append] at frames
    rw [List.append_cancel_left frames]
    exact ⟨last, lost⟩

/-! The RESET_RUN that leaves LOST. -/

theorem prepareReset_calm (opcode : UInt16) (requestId : UInt32) :
    (prepareReset opcode requestId).wp s h fun _ _ => Calm h := by
  have clear (s₁ : Session) (h₁ : SessionHistory) (before : Calm h h₁) :
      rollbackRunConfig.wp s₁ h₁ fun ok s' h' =>
        ((!ok) = true → (respond opcode requestId .swdError).wp s' h' fun _ s' h' =>
          (enterLost .swdFault).wp s' h' fun _ _ h' => Calm h h') ∧
        (¬(!ok) = true → Calm h h') := by
    apply Action.wp_mono rollbackRunConfig_quiet
    intro ok s₂ _ rolled
    have cleared := before.trans rolled.1.calm
    refine ⟨fun _ => ?_, fun _ => cleared⟩
    apply Action.wp_mono (respond_calm _ _ _)
    intro _ _ _ answered
    apply Action.wp_mono (enterLost_calm _)
    intro _ _ _ lost
    exact (cleared.trans answered).trans lost
  simp only [prepareReset, Action.wp_bind, getSession_wp, Action.wp_ite, Action.wp_pure, backend_wp]
  refine ⟨fun _ a => ?_, fun _ => clear s h (Calm.refl h)⟩
  have asked : Calm h (h ++ [⟨.call s (.halt haltTimeoutMs), a⟩]) :=
    ((QuietHistory.refl h).call (by rfl)).calm
  constructor
  · intro _
    apply Action.wp_mono (sendBackendFailure_calm _ _ _ _)
    intro _ _ _ failed
    exact asked.trans failed
  · intro _
    apply Action.wp_mono (enterHalted_calm _)
    intro _ s₁ _ entered
    exact clear s₁ _ (asked.trans entered)

/-- A RESET_RUN whose reset succeeds ends in RUNNING. -/
theorem opResetRun_running : (opResetRun requestId payload).wp s h fun _ s' h' =>
    (confirmations h').resets = (confirmations h).resets ∨ s'.state = .running := by
  simp only [opResetRun, Action.wp_bind, getSession_wp]
  cases checkReset s Cap.resetRun payload with
  | error status =>
    apply Action.wp_mono (respond_calm _ _ _)
    intro _ _ _ answered
    exact Or.inl answered.resets
  | ok kind =>
    simp only [Action.wp_bind, Action.wp_ite, Action.wp_pure, backend_wp, updateSession_wp]
    apply Action.wp_mono (prepareReset_calm _ _)
    intro ok s₁ _ prepared
    refine ⟨fun _ => Or.inl prepared.resets, fun _ a => ⟨fun fail => ?_, fun _ => ?_⟩⟩
    · have asked (evs : SessionHistory) : (confirmations (h ++ evs ++ [⟨.call s₁
          (.reset kind false), a⟩])).resets = (confirmations (h ++ evs)).resets := by
        simp only [confirmations_call, confirmationsCall]
        rw [if_neg fail]
      simp only [resetFailed, Action.wp_bind]
      apply Action.wp_mono (respond_calm _ _ _)
      intro _ _ _ answered
      apply Action.wp_mono (enterLost_calm _)
      intro _ _ _ lost
      exact Or.inl (((answered.trans lost).resets.trans (asked _)).trans prepared.resets)
    · apply respond_wp
      intro b dead evs _
      exact Or.inr rfl

/-- For every state a run reaches and every request or poll that enters LOST: the session stays
lost, touches the backend no more, refuses every request but GET_STATE and reports nothing more, if
and only if the input is no RESET_RUN that exhausts the stop generations. -/
theorem lost_terminal_iff {T : Type} (env : SessionEnvironment T) (t₀ : T) (inputs : List Input)
    (i : Input) (contact : i.contact = true)
    (enters : EntersLost env (playSession env (freshWorld t₀) inputs) i) :
    let w := playSession env (freshWorld t₀) inputs
    let r := w.perform env (handle i)
    (StaysLost env r.2.1 ∧ LostLast (offered r.2.2)) ↔ ¬Revives w.state i (calls r.2.2) := by
  intro w r
  have ready : Ready w.state w.history :=
    (run_invariant (P := fun _ _ => True) env t₀ inputs trivial fun _ _ _ _ _ _ _ => trivial).2
  constructor
  · rintro ⟨stays, -⟩ revives
    have lost : r.2.1.state.state = .lost := (stays [] fun j hj => absurd hj List.not_mem_nil).1
    cases i with
    | disconnect => exact absurd contact (by decide)
    | poll => exact revives
    | request message =>
      obtain ⟨hop, running, wrap, reset⟩ := revives
      have outcome : (handle (.request message)).wp w.state w.history fun _ s' h' =>
          (confirmations h').resets = (confirmations w.history).resets ∨ s'.state = .running := by
        simp only [handle, Action.wp_bind, Action.wp_pure]
        apply handleRequest_op hop
        · exact fun _ => Or.inl rfl
        · intro status _ _ _ _
          apply Action.wp_mono (respond_calm _ _ _)
          intro _ _ _ answered
          exact Or.inl answered.resets
        · exact fun _ _ _ => opResetRun_running
      have ends : (confirmations r.2.1.history).resets = (confirmations w.history).resets ∨
          r.2.1.state.state = .running := World.perform_wp outcome
      rcases ends with same | goes
      · rw [World.perform_history, confirmations_append] at same
        have more := lt_add_countP_iff (n := (confirmations w.history).resets).mpr reset
        rw [show (confirmations w.history).resets + (calls r.2.2).countP
          resetAnswered = _ from same]
          at more
        exact lt_irrefl _ more
      · exact absurd (goes.symm.trans lost) (by decide)
  · intro spared
    obtain ⟨last, lost⟩ := lostSince_input ready contact spared
    refine ⟨staysLost_of_lost ?_, last⟩
    rcases enters with sent | ⟨-, becomes⟩
    · exact lost sent
    · exact becomes

/-- A client attaches without a halt; the backend cannot be polled. -/
def lostAnswers : List Answer := [{}, { code := .fail }]

def attachRunning : Input := .request (requestMessage .attach 1 [0, 0, 0, 0, 0, 0, 0, 0])

theorem lost_by_poll :
    let w := playSession scripted (freshWorld lostAnswers) [attachRunning]
    let r := w.perform scripted (handle .poll)
    StaysLost scripted r.2.1 ∧ LostLast (offered r.2.2) :=
  (lost_terminal_iff scripted lostAnswers [attachRunning] .poll rfl
    (Or.inr ⟨by decide +kernel, by decide +kernel⟩)).mpr id

/-- The generation wraps: an entered halt is lost at once. -/
theorem enterHalted_wraps (hp : Parked .running 4294967295 s) {stop : StopDetect}
    {Q : Unit → Session → Unit → SessionHistory → Prop}
    (hQ : ∀ s' f, isTargetLost f = true → Parked .lost 0 s' →
      Q () s' () (h ++ [⟨.offer f, true⟩])) :
    (enterHalted stop).runs steady s () h Q := by
  have next : s.stopId + 1 = 0 := by
    rw [hp.stopId]
    rfl
  simp only [enterHalted, Action.runs_bind, getSession_runs, Action.runs_ite, Action.runs_pure,
    updateSession_runs]
  refine ⟨fun hl => absurd (hp.state.symm.trans hl) (by decide), fun _ => ⟨fun _ => ?_, fun hn =>
    absurd next hn⟩⟩
  apply Action.runs_of_wp
  apply enterLost_wp
  · intro lost
    exact absurd (hp.state.symm.trans lost) (by decide)
  · intro _ b dead evs ho evs' he answered
    rcases ho with ⟨hd, -⟩ | ⟨-, f, accepted, hf, rfl, rfl⟩
    · exact absurd (hp.alive.symm.trans hd) Bool.false_ne_true
    · obtain rfl := List.append_cancel_left he
      have accepts : accepted = true := answered.1
      rw [accepts]
      exact hQ _ f hf.isTargetLost ⟨rfl, next, hp.attached, rfl, hp.table, hp.caps⟩

/-- RESET_RUN in the last generation says TARGET_LOST and lets the target run. -/
theorem resetRun_revives (hp : Parked .running 4294967295 s) :
    (handleRequest resetRunRequest).runs steady s () h fun _ s' _ h' => s'.state = .running ∧
      ∃ f evs, isTargetLost f = true ∧
        h' = h ++ [⟨.call s (.halt haltTimeoutMs), steadyAnswer⟩] ++ [⟨.offer f, true⟩] ++ evs := by
  refine handleRequest_steady .resetRun hp ⟨by decide, by decide, by decide, by decide⟩
    (by decide) rfl ?_
  have hpl : resetRunRequest.drop headerSize = [ResetKind.system, 0, 0, 0] := by decide
  have hcheck := checkReset_parked hp Cap.resetRun (by decide)
  have halts : ¬((steadyAnswer.code ≠ .ok) ∨ (!steadyAnswer.stop.halted) = true) := by decide
  simp only [dispatch, opResetRun, prepareReset, Action.runs_bind, getSession_runs, hpl, hcheck,
    Action.runs_ite, Action.runs_pure, backend_runs, updateSession_runs]
  refine ⟨fun _ => ⟨fun fails => absurd fails halts, fun _ => ?_⟩, fun hs =>
    absurd (by simp [hp.state]) hs⟩
  apply enterHalted_wraps hp
  intro s₁ f hf lost
  -- nothing behind TARGET_LOST asks whether the session is lost
  apply Action.runs_mono (Q := fun ok s' _ _ => ok = true ∧ Parked .lost 0 s')
  · exact rollback_steady lost fun _ _ cleared => ⟨rfl, cleared⟩
  intro ok s₂ _ evs cleared
  refine ⟨fun hn => absurd hn (by simp [cleared.1]), fun _ =>
    ⟨fun hn => absurd hn (by decide), fun _ => ⟨fun hn => absurd rfl hn, fun _ => ?_⟩⟩⟩
  apply Action.runs_mono (Q := fun _ s' _ _ => s'.state = .running)
  · exact respond_steady cleared.2.alive fun _ _ => rfl
  intro _ _ _ evs' running
  have joined (a b c d : SessionHistory) : h ++ a ++ b ++ evs ++ c ++ d =
      h ++ a ++ b ++ (evs ++ c ++ d) := by simp only [List.append_assoc]
  exact ⟨running, f, _, hf, joined _ _ _ _⟩

theorem lost_left_by_reset_of {k : ℕ} (hk : 1 + k = 4294967295) :
    EntersLost steady (playSession steady (freshWorld ()) (generationRun k))
      (.request resetRunRequest) ∧
      ((playSession steady (freshWorld ()) (generationRun k)).perform steady
        (handle (.request resetRunRequest))).2.1.state.state = .running := by
  have hp : Parked .running 4294967295 (playSession steady (freshWorld ())
      (generationRun k)).state := by
    rw [← hk]
    exact generationRun_parked (by omega)
  generalize playSession steady (freshWorld ()) (generationRun k) = w at hp
  have goes : (handle (.request resetRunRequest)).runs steady w.state () w.history
      fun _ s' _ h' => s'.state = .running ∧ ∃ f evs, isTargetLost f = true ∧ h' = w.history ++
        [⟨.call w.state (.halt haltTimeoutMs), steadyAnswer⟩] ++ [⟨.offer f, true⟩] ++ evs := by
    simp only [handle, Action.runs_bind, Action.runs_pure]
    exact resetRun_revives hp
  obtain ⟨running, f, evs, hf, he⟩ := goes
  refine ⟨Or.inl ⟨f, ?_, hf⟩, running⟩
  rw [List.append_assoc, List.append_assoc] at he
  have events := List.append_cancel_left he
  have offers : f ∈ offered ([⟨.call w.state (.halt haltTimeoutMs), steadyAnswer⟩] ++
      ([⟨.offer f, true⟩] ++ evs)) := List.mem_cons_self
  rw [← events] at offers
  exact offers

/-- A session that has sent TARGET_LOST ends the same RESET_RUN in RUNNING. -/
theorem lost_left_by_reset :
    EntersLost steady (playSession steady (freshWorld ()) (generationRun 4294967294))
        (.request resetRunRequest) ∧
      ¬StaysLost steady
        ((playSession steady (freshWorld ()) (generationRun 4294967294)).perform steady
        (handle (.request resetRunRequest))).2.1 := by
  obtain ⟨enters, running⟩ := lost_left_by_reset_of (k := 4294967294) rfl
  refine ⟨enters, fun stays => ?_⟩
  have lost := (stays [] fun _ hm => absurd hm List.not_mem_nil).1
  exact absurd (running.symm.trans lost) (by decide)

end SidpClient
