import SidpClient.RunDivergence
import SidpClient.CallGuards
import SidpClient.TargetWrites

/-! A rejected frame ends the connection: the run against a sink that rejects one frame, beside the
run against a sink that takes them all. -/
namespace SidpClient
open Interactive

/-- `needs_disconnect` -/
def Session.needsDisconnect (s : Session) : Bool := s.transportDead

/-- A backend script next to a sink that decides by the number of the frame. -/
def withSink {T : Type} (backend : T → Call → Answer × T) (sink : ℕ → Bool) :
    SessionEnvironment (T × ℕ)
  | (t, k), .call _ c => ((backend t c).1, ((backend t c).2, k))
  | (t, k), .offer _ => (sink k, (t, k + 1))

/-- The frames offered, each with the answer of the sink. -/
def offers : SessionHistory → List (List UInt8 × Bool)
  | [] => []
  | ⟨.offer f, accepted⟩ :: h => (f, accepted) :: offers h
  | ⟨.call _ _, _⟩ :: h => offers h

theorem offers_append (h h' : SessionHistory) : offers (h ++ h') = offers h ++ offers h' := by
  induction h with
  | nil => rfl
  | cons ev h ih =>
    obtain ⟨e, r⟩ := ev
    cases e with
    | call s c => exact ih
    | offer f => exact congrArg ((f, r) :: ·) ih

theorem offers_fst (h : SessionHistory) : (offers h).map Prod.fst = offered h := by
  induction h with
  | nil => rfl
  | cons ev h ih =>
    obtain ⟨e, r⟩ := ev
    cases e with
    | call s c => exact ih
    | offer f => exact congrArg (f :: ·) ih

theorem offers_of_offered_nil {h : SessionHistory} (none : offered h = []) : offers h = [] := by
  rw [← offers_fst] at none
  exact List.map_eq_nil_iff.mp none

/-! What the sink answers. -/

section
variable {T : Type} {backend : T → Call → Answer × T} {sink sink' : ℕ → Bool} {t : T} {k : ℕ}
  {h : SessionHistory}

theorem withSink_alike (backend : T → Call → Answer × T) (sink sink' : ℕ → Bool) :
    MoveAlike (withSink backend sink) (withSink backend sink') := by
  intro ⟨t, k⟩ e
  cases e with
  | call s c => rfl
  | offer f => rfl

/-- The answers of the sink, in order, are those of its script. -/
theorem offers_snd (answered : World.Answered (withSink backend sink) (t, k) h) :
    (offers h).map Prod.snd = (List.range' k (offered h).length).map sink := by
  induction h generalizing t k with
  | nil => rfl
  | cons ev h ih =>
    obtain ⟨e, r⟩ := ev
    obtain ⟨reply, rest⟩ := answered
    cases e with
    | call s c => exact ih rest
    | offer f =>
      have hrest := ih rest
      simp only [offers, offered, List.map_cons, List.length_cons, List.range'_succ] at hrest ⊢
      rw [hrest, show r = sink k from reply]

/-- The environment counts the frames. -/
theorem outsideAfter_count (backend : T → Call → Answer × T) (sink : ℕ → Bool) (t : T) (k : ℕ)
    (h : SessionHistory) :
    (World.outsideAfter (withSink backend sink) (t, k) h).2 = k + (offered h).length := by
  induction h generalizing t k with
  | nil => rfl
  | cons ev h ih =>
    obtain ⟨e, r⟩ := ev
    rw [World.outsideAfter, List.foldl_cons]
    cases e with
    | call s c => exact ih (backend t c).2 k
    | offer f =>
      have one : k + 1 + (offered h).length = k + ((offered h).length + 1) := by omega
      exact (ih t (k + 1)).trans one

/-- Two histories over one backend part at a frame that only one sink takes. -/
theorem parts_at_offer {h' : SessionHistory} (parts : Parts h h')
    (answered : World.Answered (withSink backend sink) (t, k) h)
    (answered' : World.Answered (withSink backend sink') (t, k) h') :
    ∃ common f rest rest',
      h = common ++ ⟨.offer f, sink (k + (offered common).length)⟩ :: rest ∧
      h' = common ++ ⟨.offer f, sink' (k + (offered common).length)⟩ :: rest' ∧
      sink (k + (offered common).length) ≠ sink' (k + (offered common).length) := by
  obtain ⟨common, e, r, r', rest, rest', hne, rfl, rfl⟩ := parts
  have alike := World.outsideAfter_alike (withSink_alike backend sink sink') (t, k) common
  obtain ⟨-, reply, -⟩ := World.answered_append.mp answered
  obtain ⟨-, reply', -⟩ := World.answered_append.mp answered'
  rw [← alike] at reply'
  have count := outsideAfter_count backend sink t k common
  generalize World.outsideAfter (withSink backend sink) (t, k) common = after at reply reply' count
  obtain ⟨t₁, k₁⟩ := after
  cases e with
  | call s c => exact absurd (reply.trans reply'.symm) hne
  | offer f =>
    change r = sink k₁ at reply
    change r' = sink' k₁ at reply'
    change k₁ = k + (offered common).length at count
    refine ⟨common, f, rest, rest', ?_, ?_, ?_⟩
    · rw [← count, ← reply]
    · rw [← count, ← reply']
    · rw [← count, ← reply, ← reply']
      exact hne

end

/-! After a rejection. -/

/-- What the session keeps to: a rejection latches, and nothing is offered behind one. -/
structure Latched (s : Session) (h : SessionHistory) : Prop where
  dead : Rejected h → s.transportDead = true
  silent : EveryOffer (fun h _ => ¬Rejected h) h

section
variable {policy : Policy} {s s' : Session} {h h' : SessionHistory}

theorem Latched.keep (hl : Latched s h) (live : s'.transportDead = s.transportDead) :
    Latched s' h :=
  ⟨fun hr => live.trans (hl.dead hr), hl.silent⟩

theorem Latched.call {s₁ : Session} {c : Call} {a : Answer} (hl : Latched s h) :
    Latched s (h ++ [⟨.call s₁ c, a⟩]) :=
  ⟨fun hr => hl.dead (rejected_call.mp hr), hl.silent.call⟩

theorem Latched.offer {f : List UInt8} {accepted : Bool} (hl : Latched s h)
    (alive : s.transportDead = false) (live : s'.transportDead = !accepted) :
    Latched s' (h ++ [⟨.offer f, accepted⟩]) := by
  have unrejected : ¬Rejected h := fun hr => Bool.false_ne_true (alive.symm.trans (hl.dead hr))
  refine ⟨fun hr => ?_, hl.silent.offer unrejected⟩
  rw [live, (rejected_offer.mp hr).resolve_left unrejected]
  rfl

theorem Move.latched (hm : Move policy (s, h) (s', h')) (hl : Latched s h) : Latched s' h' := by
  cases hm with
  | keep same => exact hl.keep same.transportDead
  | halt _ _ _ entered => exact hl.keep entered.transportDead
  | run _ _ _ _ same => exact hl.keep same.transportDead
  | compact | abandon => exact hl.keep rfl
  | hangUp => exact ⟨fun _ => rfl, hl.silent⟩
  | advertise alive | respond alive | report alive => exact hl.offer alive rfl
  | lose _ _ _ _ _ offered =>
    rcases offered with ⟨dead, live, rfl⟩ | ⟨alive, f, accepted, -, live, rfl⟩
    · rw [List.append_nil]
      exact hl.keep (live.trans dead.symm)
    · exact hl.offer alive live
  | call | resume | attach | detach | arm | restore | record | write => exact hl.call.keep rfl

theorem run_latched {T : Type} (env : SessionEnvironment T) (t₀ : T) (inputs : List Input) :
    Latched (playSession env (freshWorld t₀) inputs).state
      (playSession env (freshWorld t₀) inputs).history :=
  (run_invariant env t₀ inputs ⟨fun hr => absurd hr (by simp [Rejected]), .nil⟩
    fun _ _ _ _ _ hm hl => hm.latched hl).1

theorem Latched.nothing_behind {f : List UInt8} {rest : SessionHistory}
    (hl : Latched s (h ++ ⟨.offer f, false⟩ :: rest)) : offers rest = [] := by
  apply offers_of_offered_nil
  by_contra some
  -- the first frame behind the rejection would have been offered after it
  have hbehind : ∃ before g accepted after, rest = before ++ ⟨.offer g, accepted⟩ :: after := by
    clear hl
    induction rest with
    | nil => exact absurd rfl some
    | cons ev rest ih =>
      obtain ⟨e, r⟩ := ev
      cases e with
      | offer g => exact ⟨[], g, r, rest, rfl⟩
      | call s c =>
        obtain ⟨before, g, accepted, after, rfl⟩ := ih some
        exact ⟨⟨.call s c, r⟩ :: before, g, accepted, after, rfl⟩
  obtain ⟨before, g, accepted, after, rfl⟩ := hbehind
  have unrejected := hl.silent (h ++ ⟨.offer f, false⟩ :: before) g accepted after (by simp)
  exact unrejected ⟨f, by simp⟩

/-- A session whose frame was rejected takes no more requests and polls. -/
theorem dead_step {T : Type} {env : SessionEnvironment T} {w : SessionWorld T} {i : Input}
    (dead : w.state.transportDead = true) (served : i ≠ .disconnect) : w.step env handle i = w := by
  have stuck : (handle i).runs env w.state w.outside w.history
      fun _ s' t' h' => (⟨s', t', h'⟩ : SessionWorld T) = w := by
    cases i with
    | request message =>
      apply request_runs
      exact handleRequest_dead dead rfl
    | poll =>
      apply poll_runs
      simp only [handlePoll, Action.runs_bind, getSession_runs, Action.runs_ite, Action.runs_pure]
      exact ⟨fun _ => trivial, fun live => absurd (Or.inl dead) live⟩
    | disconnect => exact absurd rfl served
  exact stuck

theorem dead_play {T : Type} {env : SessionEnvironment T} {w : SessionWorld T} {inputs : List Input}
    (dead : w.state.transportDead = true) (served : ∀ i ∈ inputs, i ≠ .disconnect) :
    playSession env w inputs = w := by
  induction inputs with
  | nil => rfl
  | cons i inputs ih =>
    have first : w.step env handle i = w := dead_step dead (served i List.mem_cons_self)
    rw [playSession, World.play_cons, first]
    exact ih fun j hj => served j (List.mem_cons_of_mem _ hj)

/-- The cleanup of a disconnect, with a backend that succeeds. -/
theorem disconnect_cleans {T : Type} {env : SessionEnvironment T} {stop : StopDetect} {t : T}
    (ob : Obliging env stop) (halted : stop.halted = true) :
    handleDisconnect.runs env s t h fun ok s' _ h' =>
      ok = true ∧ s'.attached = false ∧
        (s.attached = true → targetWrites h' = targetWrites h ++ restoreWrites s.swTable) := by
  simp only [handleDisconnect, Action.runs_bind, getSession_runs, updateSession_runs,
    Action.runs_ite, Action.runs_pure, backend_runs, ob.call, ob.halt, halted]
  refine ⟨fun free => ?_, fun owned => ⟨fun hf => absurd hf (by decide), fun _ => ?_⟩⟩
  · have unattached : s.attached = false := by simpa using free
    exact ⟨trivial, unattached, fun attached => absurd (attached.symm.trans unattached) (by decide)⟩
  · apply swBpRestoreAll_obliging ob
    intro t₁ h₁ hw₁
    refine ⟨fun hf => absurd hf (by decide), fun _ => ⟨fun hf => absurd rfl hf, fun _ => ?_⟩⟩
    refine ⟨trivial, rfl, fun _ => ?_⟩
    rw [targetWrites_call, hw₁, targetWrites_call]
    simp [Call.writesTarget]

end

/-- The cleanup that a disconnect can still complete from a session. -/
def CleanupCompletes (s : Session) (h : SessionHistory) : Prop :=
  ∀ (T : Type) (env : SessionEnvironment T) (stop : StopDetect) (t : T), Obliging env stop →
    stop.halted = true →
    let r := World.perform env handleDisconnect ⟨s, t, h⟩
    r.1 = true ∧ r.2.1.state.attached = false ∧
      (s.attached = true → targetWrites r.2.2 = restoreWrites s.swTable)

theorem cleanupCompletes (s : Session) (h : SessionHistory) : CleanupCompletes s h := by
  intro T env stop t ob halted
  have cleans := disconnect_cleans (s := s) (h := h) (t := t) ob halted
  obtain ⟨ok, free, writes⟩ := cleans
  refine ⟨ok, free, fun attached => ?_⟩
  have written := writes attached
  rw [targetWrites_append] at written
  exact List.append_cancel_left written

section
variable {T : Type} (backend : T → Call → Answer × T) (sink : ℕ → Bool) (n : ℕ) (t₀ : T)
  (inputs : List Input)

/-- A run answers as its environment does. -/
theorem played_answered : World.Answered (withSink backend sink) (t₀, 0)
    (playSession (withSink backend sink) (freshWorld (t₀, 0)) inputs).history := by
  have start : World.Answered (withSink backend sink) (t₀, 0)
      (freshWorld (t₀, 0) : SessionWorld (T × ℕ)).history := trivial
  exact (World.play_answered (t₀, 0) inputs start rfl).1

/-- A sink that takes every frame. -/
theorem taken_all {t : T} {k : ℕ} {h : SessionHistory}
    (answered : World.Answered (withSink backend fun _ => true) (t, k) h) :
    offers h = (offered h).map (·, true) := by
  have all : ∀ p ∈ offers h, (p.1, true) = p := by
    intro p hp
    have hsnd : p.2 ∈ (offers h).map Prod.snd := List.mem_map_of_mem hp
    rw [offers_snd answered] at hsnd
    obtain ⟨_, -, accepted⟩ := List.mem_map.mp hsnd
    rw [accepted]
  rw [← offers_fst, List.map_map]
  calc offers h = (offers h).map id := (List.map_id _).symm
    _ = (offers h).map ((·, true) ∘ Prod.fst) := List.map_congr_left fun p hp => (all p hp).symm

/-- The two runs part at the frame the second sink rejects. -/
theorem parts_at_rejection (takes : ∀ k < n, sink k = true) (rejects : sink n = false)
    (more : n < (offered
      (playSession (withSink backend fun _ => true) (freshWorld (t₀, 0)) inputs).history).length) :
    ∃ common f rest rest', (offered common).length = n ∧
      (playSession (withSink backend fun _ => true) (freshWorld (t₀, 0)) inputs).history =
        common ++ ⟨.offer f, true⟩ :: rest ∧
      (playSession (withSink backend sink) (freshWorld (t₀, 0)) inputs).history =
        common ++ ⟨.offer f, false⟩ :: rest' := by
  have answered := played_answered backend (fun _ => true) t₀ inputs
  have answered' := played_answered backend sink t₀ inputs
  have alike := withSink_alike backend (fun _ => true) sink
  have compared : playSession (withSink backend fun _ => true) (freshWorld (t₀, 0)) inputs =
      playSession (withSink backend sink) (freshWorld (t₀, 0)) inputs ∨
    Parts (playSession (withSink backend fun _ => true) (freshWorld (t₀, 0)) inputs).history
      (playSession (withSink backend sink) (freshWorld (t₀, 0)) inputs).history :=
    World.play_or_parts alike (freshWorld (t₀, 0)) inputs
  rcases compared with same | parts
  · -- the second sink would have taken frame `n` too
    have first := offers_snd answered
    have second := offers_snd answered'
    rw [show playSession (withSink backend sink) (freshWorld (t₀, 0)) inputs =
      playSession (withSink backend fun _ => true) (freshWorld (t₀, 0)) inputs from same.symm,
        first,
      List.map_inj_left] at second
    have taken := second n (List.mem_range'.mpr ⟨n, more, by omega⟩)
    exact absurd (taken.trans rejects) (by decide)
  · obtain ⟨common, f, rest, rest', hfirst, hsecond, hne⟩ := parts_at_offer parts answered answered'
    rw [Nat.zero_add] at hsecond hne
    have rejected : sink (offered common).length = false := by
      simpa using hne.symm
    -- every frame of the common part was taken by both sinks
    have early : ∀ k < (offered common).length, sink k = true := by
      intro k hk
      have before := (World.answered_append.mp (hfirst ▸ answered)).1
      have before' := (World.answered_append.mp (hsecond ▸ answered')).1
      have same := (offers_snd before).symm.trans (offers_snd before')
      rw [List.map_inj_left] at same
      exact (same k (List.mem_range'.mpr ⟨k, hk, by omega⟩)).symm
    have count : (offered common).length = n := by
      rcases Nat.lt_trichotomy (offered common).length n with lt | eq | gt
      · exact absurd ((takes _ lt).symm.trans rejected) (by decide)
      · exact eq
      · exact absurd ((early n gt).symm.trans rejects) (by decide)
    rw [rejected] at hsecond
    exact ⟨common, f, rest, rest', count, hfirst, hsecond⟩

/-- For every sequence of requests and polls and every backend script, beside the run against a sink
that takes every frame, and offers more than `n`: the run against a sink that takes `n` frames and
rejects the next has exactly those `n` frames accepted and one rejected, and offers nothing any
more, whatever comes; it asks to be disconnected, and no later request or poll does anything; and
the disconnect cleanup can still complete. -/
theorem rejected_frame_ends_connection (served : ∀ i ∈ inputs, i ≠ .disconnect)
    (takes : ∀ k < n, sink k = true) (rejects : sink n = false)
    (more : n < (offered
      (playSession (withSink backend fun _ => true) (freshWorld (t₀, 0)) inputs).history).length) :
    let first := playSession (withSink backend fun _ => true) (freshWorld (t₀, 0)) inputs
    let run := playSession (withSink backend sink) (freshWorld (t₀, 0))
    (∃ f, (offered first.history)[n]? = some f ∧
      offers (run inputs).history =
        ((offered first.history).take n).map (·, true) ++ [(f, false)]) ∧
    (∀ later, (run (inputs ++ later)).state.needsDisconnect = true ∧
      offers (run (inputs ++ later)).history = offers (run inputs).history) ∧
    (∀ before after, inputs = before ++ after → Rejected (run before).history →
      (run before).state.needsDisconnect = true ∧ run before = run inputs) ∧
    CleanupCompletes (run inputs).state (run inputs).history := by
  intro first run
  obtain ⟨common, f, rest, rest', count, hfirst, hsecond⟩ :=
    parts_at_rejection backend sink n t₀ inputs takes rejects more
  have latched (is : List Input) : Latched (run is).state (run is).history :=
    run_latched (withSink backend sink) (t₀, 0) is
  have rejected : Rejected (run inputs).history :=
    ⟨f, by rw [show (run inputs).history = _ from hsecond]; simp⟩
  -- the latch drops whatever is sent behind the rejection
  have silent : offers rest' = [] := by
    have hl := latched inputs
    rw [show (run inputs).history = _ from hsecond] at hl
    exact hl.nothing_behind
  refine ⟨⟨f, ?_, ?_⟩, fun later => ?_, fun before after split hr => ?_, cleanupCompletes _ _⟩
  · rw [show first.history = _ from hfirst, offered_append, offered,
      List.getElem?_append_right count.le, count, Nat.sub_self]
    rfl
  · have before :=
      (World.answered_append.mp (hfirst ▸ played_answered backend (fun _ => true) t₀ inputs)).1
    have taken := taken_all backend before
    rw [show first.history = _ from hfirst, show (run inputs).history = _ from hsecond,
      offers_append, offered_append, List.take_left' count, taken, offers, silent]
  · have grows : (run inputs).history <+:
        (playSession (withSink backend sink) (run inputs) later).history := World.play_history later
    obtain ⟨evs, hevs⟩ := grows
    have whole : (run (inputs ++ later)).history = common ++ ⟨.offer f, false⟩ ::
        (rest' ++ evs) := by
      rw [show run (inputs ++ later) = playSession (withSink backend sink) (run inputs) later from
        World.play_append inputs later, ← hevs, show (run inputs).history = _ from hsecond]
      simp
    have hl := latched (inputs ++ later)
    rw [whole] at hl
    refine ⟨hl.dead ⟨f, by simp⟩, ?_⟩
    rw [whole, show (run inputs).history = _ from hsecond, offers_append, offers_append, offers,
      offers, hl.nothing_behind, silent]
  · have dead := (latched before).dead hr
    have after_served : ∀ i ∈ after, i ≠ .disconnect := by
      intro i hi
      exact served i (split ▸ List.mem_append_right before hi)
    refine ⟨dead, ?_⟩
    rw [split, show run (before ++ after) = playSession (withSink backend sink)
      (run before) after from
      World.play_append before after]
    exact (dead_play dead after_served).symm

end

/-- The answers of a list, whatever is called. -/
def listedBackend (answers : List Answer) (_ : Call) : Answer × List Answer :=
  (answers.headD {}, answers.tail)

/-- A client attaches with a halt, and polls twice. -/
def attachedPolls : List Input :=
  [.request (requestMessage .attach 1 [0, 0, 0, 0, 0, 1, 0, 0]), .poll, .poll]

/-- The sink takes the response, rejects the STOPPED event and would take any later frame. -/
theorem stopped_event_rejected :
    let run :=
      playSession (withSink listedBackend (· ≠ 1))
      (freshWorld ([{}, { stop := { halted := true } }], 0))
    (∃ f g, offers (run attachedPolls).history = [(f, true), (g, false)]) ∧
      (run attachedPolls).state.needsDisconnect = true ∧
      CleanupCompletes (run attachedPolls).state (run attachedPolls).history := by
  have takes : ∀ k < 1, decide (k ≠ 1) = true := by
    intro k hk
    simp only [decide_eq_true_eq]
    omega
  have more : 1 < (offered (playSession (withSink listedBackend fun _ => true)
      (freshWorld ([{}, { stop := { halted := true } }], 0)) attachedPolls).history).length := by
    decide +kernel
  have served : ∀ i ∈ attachedPolls, i ≠ .disconnect := by simp [attachedPolls]
  obtain ⟨⟨g, -, rejected⟩, later, -, cleanup⟩ :=
    rejected_frame_ends_connection listedBackend (· ≠ 1) 1
    [{}, { stop := { halted := true } }] attachedPolls served takes rfl more
  obtain ⟨f, rest, hf⟩ := List.exists_cons_of_length_pos (Nat.zero_lt_of_lt more)
  rw [hf] at rejected
  have dead := (later []).1
  rw [List.append_nil] at dead
  exact ⟨⟨f, g, rejected⟩, dead, cleanup⟩

end SidpClient
