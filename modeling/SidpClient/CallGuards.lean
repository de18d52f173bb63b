import SidpClient.DispatchSpecs

/-! Facts about every backend call of a run, from what each move guarantees. -/
namespace SidpClient
open LittleEndian Interactive

variable {policy : Policy} {s s' : Session} {h h' : SessionHistory}
  {E : Session → SessionHistory → Call → Prop}

/-- Every call of the history was issued by a session and after a history with property `E`. -/
def EveryCall (E : Session → SessionHistory → Call → Prop) (h : SessionHistory) : Prop :=
  ∀ h₁ s c a h₂, h = h₁ ++ ⟨.call s c, a⟩ :: h₂ → E s h₁ c

theorem EveryCall.nil : EveryCall E [] := fun _ _ _ _ _ he => absurd he (by simp)

theorem EveryCall.concat {ev : SessionEvent} (hall : EveryCall E h)
    (hev : ∀ s c a, ev = ⟨.call s c, a⟩ → E s h c) : EveryCall E (h ++ [ev]) := by
  intro h₁ s c a h₂ he
  rcases List.eq_nil_or_concat' h₂ with rfl | ⟨h₃, last, rfl⟩
  · obtain ⟨rfl, hlast⟩ := List.append_inj' he rfl
    exact hev s c a (List.cons.inj hlast).1
  · rw [← List.cons_append, ← List.append_assoc] at he
    obtain ⟨rfl, -⟩ := List.append_inj' he rfl
    exact hall h₁ s c a h₃ rfl

theorem EveryCall.offer {f : List UInt8} {accepted : Bool} (hall : EveryCall E h) :
    EveryCall E (h ++ [⟨.offer f, accepted⟩]) :=
  hall.concat fun _ _ _ he => nomatch he

theorem EveryCall.call {c : Call} {a : Answer} (hall : EveryCall E h) (he : E s h c) :
    EveryCall E (h ++ [⟨.call s c, a⟩]) := by
  refine hall.concat fun s' c' a' heq => ?_
  cases heq
  exact he

/-- Every frame of the history was offered after a history with property `O`. -/
def EveryOffer (O : SessionHistory → List UInt8 → Prop) (h : SessionHistory) : Prop :=
  ∀ h₁ f accepted h₂, h = h₁ ++ ⟨.offer f, accepted⟩ :: h₂ → O h₁ f

section
variable {O : SessionHistory → List UInt8 → Prop}

theorem EveryOffer.nil : EveryOffer O [] := fun _ _ _ _ he => absurd he (by simp)

theorem EveryOffer.concat {ev : SessionEvent} (hall : EveryOffer O h)
    (hev : ∀ f accepted, ev = ⟨.offer f, accepted⟩ → O h f) : EveryOffer O (h ++ [ev]) := by
  intro h₁ f accepted h₂ he
  rcases List.eq_nil_or_concat' h₂ with rfl | ⟨h₃, last, rfl⟩
  · obtain ⟨rfl, hlast⟩ := List.append_inj' he rfl
    exact hev f accepted (List.cons.inj hlast).1
  · rw [← List.cons_append, ← List.append_assoc] at he
    obtain ⟨rfl, -⟩ := List.append_inj' he rfl
    exact hall h₁ f accepted h₃ rfl

theorem EveryOffer.call {c : Call} {a : Answer} (hall : EveryOffer O h) :
    EveryOffer O (h ++ [⟨.call s c, a⟩]) :=
  hall.concat fun _ _ he => nomatch he

theorem EveryOffer.offer {f : List UInt8} {accepted : Bool} (hall : EveryOffer O h) (ho : O h f) :
    EveryOffer O (h ++ [⟨.offer f, accepted⟩]) := by
  refine hall.concat fun g _ heq => ?_
  cases heq
  exact ho

/-- A property of the frames is not touched where none is offered. -/
theorem EveryOffer.calls {evs : SessionHistory} (hall : EveryOffer O h)
    (hevs : ∀ ev ∈ evs, ∃ s c a, ev = ⟨.call s c, a⟩) : EveryOffer O (h ++ evs) := by
  induction evs generalizing h with
  | nil =>
    rw [List.append_nil]
    exact hall
  | cons ev evs ih =>
    obtain ⟨s, c, a, rfl⟩ := hevs ev List.mem_cons_self
    rw [List.append_cons]
    exact ih hall.call fun ev hm => hevs ev (List.mem_cons_of_mem _ hm)

theorem EveryOffer.mono {O' : SessionHistory → List UInt8 → Prop} (hall : EveryOffer O h)
    (hO : ∀ h f, O h f → O' h f) : EveryOffer O' h :=
  fun h₁ f accepted h₂ he => hO h₁ f (hall h₁ f accepted h₂ he)

/-- Nothing is asked of the frames before a history that all of them follow. -/
theorem EveryOffer.start (h₀ : SessionHistory) : EveryOffer (fun h f => h₀ <+: h → O h f) h₀ := by
  intro h₁ f accepted h₂ he later
  have length := later.length_le
  rw [he, List.length_append, List.length_cons] at length
  omega

/-- What holds of the frames of a history and of those behind it holds of all. -/
theorem EveryOffer.extend (hall : EveryOffer O h) (later : h <+: h')
    (more : EveryOffer (fun h₁ f => h <+: h₁ → O h₁ f) h') : EveryOffer O h' := by
  intro h₁ f accepted h₂ he
  rcases List.prefix_or_prefix_of_prefix later ⟨_, he.symm⟩ with behind | before
  · exact more h₁ f accepted h₂ he behind
  obtain ⟨rest, rfl⟩ := before
  cases rest with
  | nil =>
    rw [List.append_nil] at more
    exact more h₁ f accepted h₂ he List.prefix_rfl
  | cons ev rest =>
    obtain ⟨tail, rfl⟩ := later
    rw [List.append_assoc] at he
    have same := List.append_cancel_left he
    rw [List.cons_append, List.cons.injEq] at same
    exact hall h₁ f accepted rest (by rw [same.1])

end

def callAt (h : SessionHistory) (n : ℕ) : Option Call :=
  match h[n]? with
  | some ⟨.call _ c, _⟩ => some c
  | _ => none

theorem EveryCall.at {n : ℕ} {c : Call} (hall : EveryCall E h) (hc : callAt h n = some c) :
    ∃ s, E s (h.take n) c := by
  rw [callAt] at hc
  split at hc
  · rename_i s c' a get
    obtain rfl := Option.some.inj hc
    have hn : n < h.length := (List.getElem?_eq_some_iff.mp get).1
    have hget : h[n] = ⟨.call s c', a⟩ := (List.getElem?_eq_some_iff.mp get).2
    refine ⟨s, hall (h.take n) s c' a (h.drop (n + 1)) ?_⟩
    rw [← hget, List.getElem_cons_drop, List.take_append_drop]
  · exact absurd hc (by simp)

/-- What is known where a call is issued. -/
structure Issued (policy : Policy) (s : Session) (h : SessionHistory) (c : Call) : Prop where
  allowed : CallAllowed s h c
  planned : ∀ action address, c = .resume action address →
    s.swStepOverPending = true ∨ policy.resume action address s h

theorem issued_of_allowed {c : Call} (allowed : CallAllowed s h c)
    (hc : ∀ action address, c ≠ .resume action address) : Issued policy s h c :=
  ⟨allowed, fun action address he => absurd he (hc action address)⟩

/-- Between two moves the session is the one that issues the call, but for an entry that counts as
installed before its patch is written. -/
def Issues (s s₁ : Session) : Prop :=
  s₁ = s ∨ ∃ index, s₁ = s.withTable (s.swTable.modify index SwBp.install)

theorem Move.everyCall (hm : Move policy (s, h) (s', h')) (hall : EveryCall E h)
    (hE : ∀ s₁ c, Issues s s₁ → Issued policy s₁ h c → E s₁ h c) : EveryCall E h' := by
  cases hm with
  | keep | halt | run | hangUp | abandon | compact => exact hall
  | advertise | respond | report => exact hall.offer
  | lose _ _ _ _ _ offered =>
    rcases offered with ⟨-, -, rfl⟩ | ⟨-, f, accepted, -, -, rfl⟩
    · rwa [List.append_nil]
    · exact hall.offer
  | call c a allowed plain =>
    exact hall.call (hE s c (Or.inl rfl) (issued_of_allowed allowed fun _ _ he =>
      plain (he ▸ trivial)))
  | resume action address a attached planned =>
    refine hall.call (hE s _ (Or.inl rfl) ⟨attached, fun _ _ he => ?_⟩)
    cases he
    exact planned
  | attach params a info regions free =>
    exact hall.call (hE s _ (Or.inl rfl) (issued_of_allowed free fun _ _ => nofun))
  | detach action a _ allowed =>
    exact hall.call (hE s _ (Or.inl rfl) (issued_of_allowed allowed fun _ _ => nofun))
  | arm index entry a attached halted get =>
    refine hall.call (hE _ _ (Or.inr ⟨index, rfl⟩) (issued_of_allowed
      ⟨attached, halted, rfl, entry.install, ?_, rfl, rfl⟩ fun _ _ => nofun))
    refine List.mem_of_getElem? (i := index) ?_
    rw [Session.withTable_swTable, List.getElem?_modify, get]
    simp
  | restore index entry a attached halted get installed =>
    exact hall.call (hE s _ (Or.inl rfl) (issued_of_allowed
      ⟨attached, halted, entry, List.mem_of_getElem? get, installed, rfl, rfl⟩ fun _ _ => nofun))
  | record entry a allowed =>
    exact hall.call (hE s _ (Or.inl rfl) (issued_of_allowed allowed fun _ _ => nofun))
  | write flags data address width a allowed =>
    exact hall.call (hE s _ (Or.inl rfl) (issued_of_allowed allowed fun _ _ => nofun))

/-- An invariant of the moves that also holds wherever a call is issued, along every run. -/
theorem run_everyCall {T : Type} {P : Session → SessionHistory → Prop} (env : SessionEnvironment T)
    (t₀ : T) (inputs : List Input) (start : P {} [])
    (hstep : ∀ policy s h s' h', Move policy (s, h) (s', h') → P s h → P s' h')
    (hE : ∀ s s₁ h c, P s h → Issues s s₁ → CallAllowed s₁ h c → E s₁ h c) :
    P (playSession env (freshWorld t₀) inputs).state
      (playSession env (freshWorld t₀) inputs).history ∧ EveryCall E
      (playSession env (freshWorld t₀) inputs).history :=
  (run_invariant (P := fun s h => P s h ∧ EveryCall E h) env t₀ inputs ⟨start, .nil⟩
    fun policy s h s' h' hm hp => ⟨hstep policy s h s' h' hm hp.1,
      hm.everyCall hp.2 fun s₁ c hi issued => hE s s₁ h c hp.1 hi issued.allowed⟩).1

/-- A request over a dead transport is dropped: nothing is called or offered, and nothing
changes. -/
theorem handleRequest_dropped {message : List UInt8} (dead : s.transportDead = true) :
    (handleRequest message).wp s h fun _ s' h' => s' = s ∧ h' = h := by
  simp only [handleRequest, Action.wp_bind, getSession_wp, Action.wp_ite, Action.wp_pure]
  exact ⟨fun _ => ⟨trivial, trivial⟩, fun served => absurd (Or.inl dead) served⟩

/-- How a request with a known opcode is handled. -/
theorem handleRequest_op {message : List UInt8} {op : RequestOp}
    (hop : requestOp (MsgHeader.parse message).opcode = some op)
    {Q : Unit → Session → SessionHistory → Prop}
    (ignored : s.transportDead = true ∨ ¬ValidRequest message → Q () s h)
    (refused : ∀ status, status ≠ .ok → s.transportDead = false → ValidRequest message →
      (gateTable s.state (gateColumn op)).refusal = some status →
      (respond (MsgHeader.parse message).opcode (MsgHeader.parse message).requestId status).wp s h
      Q)
    (dispatched : s.transportDead = false → ValidRequest message →
      (gateTable s.state (gateColumn op)).refusal = none →
      (dispatch op (MsgHeader.parse message).requestId (message.drop headerSize)).wp s h Q) :
    (handleRequest message).wp s h Q := by
  simp only [handleRequest, Action.wp_bind, getSession_wp, Action.wp_ite, Action.wp_pure, hop]
  refine ⟨fun hn => ignored (hn.imp id fun size valid => size valid.size), fun hn =>
    ⟨fun version => ignored (Or.inr fun valid => version valid.version), fun version =>
      ⟨fun kind => ignored (Or.inr fun valid => ?_), fun kind => ?_⟩⟩⟩
  · exact kind.elim (fun hk => hk valid.kind) fun zero => valid.requestId zero
  · obtain ⟨dead, size⟩ := not_or.mp hn
    obtain ⟨hkind, hid⟩ := not_or.mp kind
    have alive : s.transportDead = false := Bool.eq_false_of_not_eq_true dead
    have valid : ValidRequest message :=
      ⟨not_not.mp size, not_not.mp version, not_not.mp hkind, hid⟩
    cases gate : (gateTable s.state (gateColumn op)).refusal with
    | none => exact dispatched alive valid gate
    | some status =>
      apply refused status _ alive valid gate
      rintro rfl
      generalize gateTable s.state (gateColumn op) = type at gate
      cases type <;> exact absurd gate (by decide)

/-! Runs against one environment. -/

section
variable {T : Type} {env : SessionEnvironment T} {t : T}

@[simp] theorem getSession_runs {Q : Session → Session → T → SessionHistory → Prop} :
    getSession.runs env s t h Q ↔ Q s s t h := Action.runs_get

@[simp] theorem updateSession_runs {f : Session → Session}
    {Q : Unit → Session → T → SessionHistory → Prop} :
    (updateSession f).runs env s t h Q ↔ Q () (f s) t h := Action.runs_modify

@[simp] theorem backend_runs {c : Call} {Q : Answer → Session → T → SessionHistory → Prop} :
    (backend c).runs env s t h Q ↔
      Q (env t (.call s c)).1 s (env t (.call s c)).2 (h ++ [⟨.call s c, (env t (.call s c)).1⟩]) :=
  Iff.rfl

/-- A valid request the gate lets through is dispatched. -/
theorem handleRequest_runs {message : List UInt8} (op : RequestOp)
    {Q : Unit → Session → T → SessionHistory → Prop} (alive : s.transportDead = false)
    (valid : ValidRequest message) (hop : requestOp (MsgHeader.parse message).opcode = some op)
    (gate : (gateTable s.state (gateColumn op)).refusal = none)
    (hd : (dispatch op (MsgHeader.parse message).requestId (message.drop headerSize)).runs env s t
      h Q) : (handleRequest message).runs env s t h Q := by
  simp only [handleRequest, Action.runs_bind, getSession_runs, Action.runs_ite, Action.runs_pure,
    hop, gate]
  refine ⟨fun hn => ?_, fun _ => ⟨fun hv => absurd valid.version hv, fun _ =>
    ⟨fun hk => ?_, fun _ => hd⟩⟩⟩
  · rcases hn with dead | size
    · exact absurd (alive.symm.trans dead) Bool.false_ne_true
    · exact absurd valid.size size
  · rcases hk with kind | id
    · exact absurd valid.kind kind
    · exact absurd id valid.requestId

/-- A request over a dead transport does nothing. -/
theorem handleRequest_dead {message : List UInt8} {Q : Unit → Session → T → SessionHistory → Prop}
    (dead : s.transportDead = true) (hQ : Q () s t h) :
    (handleRequest message).runs env s t h Q := by
  simp only [handleRequest, Action.runs_bind, getSession_runs, Action.runs_ite, Action.runs_pure]
  exact ⟨fun _ => hQ, fun hn => absurd (Or.inl dead) hn⟩

theorem request_runs {message : List UInt8} {Q : Bool → Session → T → SessionHistory → Prop}
    (hr : (handleRequest message).runs env s t h fun _ => Q false) :
    (handle (.request message)).runs env s t h Q := by
  simp only [handle, Action.runs_bind, Action.runs_pure]
  exact hr

theorem poll_runs {Q : Bool → Session → T → SessionHistory → Prop}
    (hr : handlePoll.runs env s t h fun _ => Q false) : (handle .poll).runs env s t h Q := by
  simp only [handle, Action.runs_bind, Action.runs_pure]
  exact hr

end

/-- A backend that gives the answers of a list, and a sink that takes every frame. -/
def scripted : SessionEnvironment (List Answer)
  | answers, .call _ _ => (answers.headD {}, answers.tail)
  | answers, .offer _ => (true, answers)

/-- A well-formed request. The session does not look at the CRC field. -/
def requestMessage (op : RequestOp) (requestId : UInt32) (payload : List UInt8) : List UInt8 :=
  headerBytes MsgKind.request op.opcode requestId ++ le32 0 ++ payload

/-- An enabled software breakpoint on a 2-byte instruction. -/
def softwareBreakpoint (id : UInt32) (address : UInt64) : List UInt8 :=
  le32 id ++ le64 address ++ [BreakpointKind.software, 2, 1, 0]

/-- RUN out of a stop, with no watchpoint. -/
def runMessage (requestId stopId : UInt32) (action : UInt8) (runToAddress : UInt64)
    (breakpoints : List (List UInt8)) : List UInt8 :=
  requestMessage .run requestId (le32 stopId ++ le16 0 ++ [action, 0] ++ le32 0 ++
    le64 runToAddress ++ le16 (UInt16.ofNat breakpoints.length) ++ le16 0 ++ breakpoints.flatten)

/-- What a target with 64 KiB of executable RAM and every kind of breakpoint reports. -/
def debugTarget : AttachInfo where
  capabilities := Cap.softwareBp ||| Cap.hardwareBp ||| Cap.singleStep
  hardwareBreakpoints := 4
  memoryRegions := le64 0x20000000 ++ le64 0x10000 ++ [MemoryType.ram, 7, 0, 0]

end SidpClient
