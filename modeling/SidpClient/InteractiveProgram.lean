import Mathlib.Logic.Relation
import Mathlib.Data.List.Basic

/-! Programs that ask an environment questions and keep a private state. A history lists the
questions asked with the replies given; `wp` quantifies over every possible reply, and a run
against one environment is an instance of it. -/
namespace Interactive

/-- A program that asks questions `e : E` and reads replies of type `R e`. -/
inductive Program (E : Type) (R : E → Type) (α : Type) where
  | done (a : α)
  | ask (e : E) (next : R e → Program E R α)

abbrev Event (E : Type) (R : E → Type) := (e : E) × R e

abbrev History (E : Type) (R : E → Type) := List (Event E R)

/-- A deterministic environment with its own state. A nondeterministic one is covered by
quantifying over all of these. -/
abbrev Environment (T E : Type) (R : E → Type) := T → (e : E) → R e × T

variable {E : Type} {R : E → Type} {α β σ T I : Type}

namespace Program

def bind : Program E R α → (α → Program E R β) → Program E R β
  | .done a, f => f a
  | .ask e next, f => .ask e fun r => (next r).bind f

def run (env : Environment T E R) : Program E R α → T → (α × T) × History E R
  | .done a, t => ((a, t), [])
  | .ask e next, t =>
    let reply := env t e
    let rest := (next reply.1).run env reply.2
    (rest.1, ⟨e, reply.1⟩ :: rest.2)

/-- `Q` holds of the result and of the history it ends with, whatever is replied. -/
def wp : Program E R α → History E R → (α → History E R → Prop) → Prop
  | .done a, h, Q => Q a h
  | .ask e next, h, Q => ∀ r, (next r).wp (h ++ [⟨e, r⟩]) Q

theorem wp_bind (p : Program E R α) (f : α → Program E R β) (h : History E R)
    (Q : β → History E R → Prop) :
    (p.bind f).wp h Q ↔ p.wp h (fun a h' => (f a).wp h' Q) := by
  induction p generalizing h with
  | done a => rfl
  | ask e next ih => exact forall_congr' fun r => ih r _

theorem wp_mono (p : Program E R α) (h : History E R) {Q Q' : α → History E R → Prop}
    (hp : p.wp h Q) (hQ : ∀ a evs, Q a (h ++ evs) → Q' a (h ++ evs)) : p.wp h Q' := by
  induction p generalizing h with
  | done a =>
    have hq := hQ a [] (by rw [List.append_nil]; exact hp)
    rwa [List.append_nil] at hq
  | ask e next ih =>
    intro r
    refine ih r _ (hp r) fun a evs hq => ?_
    rw [List.append_assoc] at hq ⊢
    exact hQ a _ hq

/-- A run only adds to the history. -/
theorem wp_from (p : Program E R α) (h : History E R) {Q : α → History E R → Prop}
    (hQ : ∀ a evs, Q a (h ++ evs)) : p.wp h Q := by
  induction p generalizing h with
  | done a =>
    have hq := hQ a []
    rwa [List.append_nil] at hq
  | ask e next ih =>
    intro r
    apply ih
    intro a evs
    rw [List.append_assoc]
    exact hQ a _

theorem wp_and (p : Program E R α) (h : History E R) {Q Q' : α → History E R → Prop} (hp : p.wp h Q)
    (hp' : p.wp h Q') : p.wp h fun a h' => Q a h' ∧ Q' a h' := by
  induction p generalizing h with
  | done a => exact ⟨hp, hp'⟩
  | ask e next ih => exact fun r => ih r _ (hp r) (hp' r)

/-- Nothing but the environment decides a run, so a run is one of the cases of `wp`. -/
theorem wp_run (env : Environment T E R) (p : Program E R α) (h : History E R) (t : T)
    {Q : α → History E R → Prop} (hp : p.wp h Q) :
    Q (p.run env t).1.1 (h ++ (p.run env t).2) := by
  induction p generalizing h t with
  | done a =>
    rw [run, List.append_nil]
    exact hp
  | ask e next ih =>
    have hr := ih (env t e).1 (h ++ [⟨e, (env t e).1⟩]) (env t e).2 (hp _)
    simpa only [run, List.append_assoc, List.singleton_append] using hr

theorem run_bind (env : Environment T E R) (p : Program E R α) (f : α → Program E R β) (t : T) :
    (p.bind f).run env t =
      (((f (p.run env t).1.1).run env (p.run env t).1.2).1,
        (p.run env t).2 ++ ((f (p.run env t).1.1).run env (p.run env t).1.2).2) := by
  induction p generalizing t with
  | done a => rfl
  | ask e next ih => simp only [bind, run, ih, List.cons_append]

end Program

/-- A program over a private state `σ`. -/
def Action (σ E : Type) (R : E → Type) (α : Type) := σ → Program E R (α × σ)

instance : Monad (Action σ E R) where
  pure a := fun s => .done (a, s)
  bind m f := fun s => (m s).bind fun r => f r.1 r.2

namespace Action

def get : Action σ E R σ := fun s => .done (s, s)

def modify (f : σ → σ) : Action σ E R Unit := fun s => .done ((), f s)

def ask (e : E) : Action σ E R (R e) := fun s => .ask e fun r => .done (r, s)

def wp (m : Action σ E R α) (s : σ) (h : History E R) (Q : α → σ → History E R → Prop) : Prop :=
  (m s).wp h fun r h' => Q r.1 r.2 h'

variable {s : σ} {h : History E R}

@[simp] theorem wp_pure {a : α} {Q : α → σ → History E R → Prop} :
    (pure a : Action σ E R α).wp s h Q ↔ Q a s h := Iff.rfl

@[simp] theorem wp_bind {m : Action σ E R α} {f : α → Action σ E R β}
    {Q : β → σ → History E R → Prop} :
    (m >>= f).wp s h Q ↔ m.wp s h (fun a s' h' => (f a).wp s' h' Q) :=
  Program.wp_bind _ _ _ _

@[simp] theorem wp_get {Q : σ → σ → History E R → Prop} :
    (get : Action σ E R σ).wp s h Q ↔ Q s s h := Iff.rfl

@[simp] theorem wp_modify {f : σ → σ} {Q : Unit → σ → History E R → Prop} :
    (modify f : Action σ E R Unit).wp s h Q ↔ Q () (f s) h := Iff.rfl

@[simp] theorem wp_ask {e : E} {Q : R e → σ → History E R → Prop} :
    (ask e : Action σ E R (R e)).wp s h Q ↔ ∀ r, Q r s (h ++ [⟨e, r⟩]) := Iff.rfl

@[simp] theorem wp_ite {c : Prop} [Decidable c] {m m' : Action σ E R α}
    {Q : α → σ → History E R → Prop} :
    (if c then m else m').wp s h Q ↔ (c → m.wp s h Q) ∧ (¬c → m'.wp s h Q) := by
  split <;> simp_all

theorem wp_mono {m : Action σ E R α} {Q Q' : α → σ → History E R → Prop} (hm : m.wp s h Q)
    (hQ : ∀ a s' evs, Q a s' (h ++ evs) → Q' a s' (h ++ evs)) : m.wp s h Q' :=
  Program.wp_mono _ _ hm fun r evs => hQ r.1 r.2 evs

theorem wp_from {m : Action σ E R α} {Q : α → σ → History E R → Prop}
    (hQ : ∀ a s' evs, Q a s' (h ++ evs)) : m.wp s h Q :=
  Program.wp_from _ _ fun r evs => hQ r.1 r.2 evs

theorem wp_and {m : Action σ E R α} {Q Q' : α → σ → History E R → Prop} (hm : m.wp s h Q)
    (hm' : m.wp s h Q') : m.wp s h fun a s' h' => Q a s' h' ∧ Q' a s' h' :=
  Program.wp_and _ _ hm hm'

/-- Turns of `body` until one of them returns a result, or until the fuel is spent. -/
def loop (body : Action σ E R (Option β)) : ℕ → Action σ E R (Option β)
  | 0 => pure none
  | fuel + 1 => body >>= fun r => match r with
    | some b => pure (some b)
    | none => loop body fuel

/-- An invariant of the turns that knows how much fuel is left. -/
theorem wp_loop {body : Action σ E R (Option β)} {I : ℕ → σ → History E R → Prop}
    {Q : β → σ → History E R → Prop}
    (hbody : ∀ fuel s h, I (fuel + 1) s h → body.wp s h fun r s' h' =>
      (∀ b, r = some b → Q b s' h') ∧ (r = none → I fuel s' h'))
    {fuel : ℕ} (hs : I fuel s h) : (loop body fuel).wp s h fun r s' h' =>
      (∀ b, r = some b → Q b s' h') ∧ (r = none → I 0 s' h') := by
  induction fuel generalizing s h with
  | zero =>
    rw [loop, wp_pure]
    exact ⟨fun _ hb => absurd hb (by simp), fun _ => hs⟩
  | succ fuel ih =>
    rw [loop, wp_bind]
    apply wp_mono (hbody fuel s h hs)
    intro r s' evs turn
    cases r with
    | none => exact ih (turn.2 rfl)
    | some b =>
      rw [wp_pure]
      refine ⟨fun b' hb => ?_, fun hnone => absurd hnone (by simp)⟩
      exact turn.1 b' hb

/-- One turn of `body` for each of the `n` indices from `index` on, with an accumulator. -/
def foldFrom (body : β → ℕ → Action σ E R β) (acc : β) (index : ℕ) : ℕ → Action σ E R β
  | 0 => pure acc
  | n + 1 => body acc index >>= fun acc' => foldFrom body acc' (index + 1) n

/-- An invariant that each turn carries to the next index. -/
theorem wp_foldFrom {body : β → ℕ → Action σ E R β} {I : β → ℕ → σ → History E R → Prop} {stop : ℕ}
    (hbody : ∀ acc index s h, index < stop → I acc index s h →
      (body acc index).wp s h fun acc' s' h' => I acc' (index + 1) s' h')
    {acc : β} {index n : ℕ} (hn : index + n = stop) (hs : I acc index s h) :
    (foldFrom body acc index n).wp s h fun acc' s' h' => I acc' stop s' h' := by
  induction n generalizing acc index s h with
  | zero =>
    obtain rfl : index = stop := by omega
    exact hs
  | succ n ih =>
    rw [foldFrom, wp_bind]
    apply wp_mono (hbody acc index s h (by omega) hs)
    intro acc' s' evs turn
    exact ih (by omega) turn

/-- Whatever is replied, the private state only takes steps of a relation. -/
def Within (step : σ → σ → Prop) (m : Action σ E R α) : Prop :=
  ∀ s h, m.wp s h fun _ s' _ => Relation.ReflTransGen step s s'

namespace Within
variable {step : σ → σ → Prop}

theorem pure (a : α) : (Pure.pure a : Action σ E R α).Within step := fun _ _ => .refl

theorem get : (Action.get : Action σ E R σ).Within step := fun _ _ => .refl

theorem modify {f : σ → σ} (hf : ∀ s, step s (f s)) :
    (Action.modify f : Action σ E R Unit).Within step := fun s _ => .single (hf s)

theorem bind {m : Action σ E R α} {f : α → Action σ E R β} (hm : m.Within step)
    (hf : ∀ a, (f a).Within step) : (m >>= f).Within step := by
  intro s h
  rw [wp_bind]
  apply wp_mono (hm s h)
  intro a s₁ evs first
  apply wp_mono (hf a s₁ _)
  intro _ _ _ rest
  exact first.trans rest

/-- What follows a read of the state may depend on it. -/
theorem get_bind {f : σ → Action σ E R β}
    (hf : ∀ s h, (f s).wp s h fun _ s' _ => Relation.ReflTransGen step s s') :
    (Action.get >>= f).Within step := by
  intro s h
  rw [wp_bind]
  exact hf s h

theorem ite {c : Prop} [Decidable c] {m m' : Action σ E R α} (hm : m.Within step)
    (hm' : m'.Within step) : (if c then m else m').Within step := by
  split
  · exact hm
  · exact hm'

/-- What every step keeps is kept. -/
theorem keeps {P : σ → Prop} {m : Action σ E R α} (hm : m.Within step)
    (hP : ∀ s s', step s s' → P s → P s') (hs : P s) : m.wp s h fun _ s' _ => P s' := by
  apply wp_mono (hm s h)
  intro _ s' _ steps
  induction steps with
  | refl => exact hs
  | tail _ last ih => exact hP _ _ last ih

end Within

/-- From a state with `I`, only questions with `ok` are asked, and `I` holds in the end. -/
def Guarded (I : σ → Prop) (ok : E → Prop) (m : Action σ E R α) : Prop :=
  ∀ s h, I s → m.wp s h fun _ s' h' => I s' ∧ ∃ evs, h' = h ++ evs ∧ ∀ ev ∈ evs, ok ev.1

namespace Guarded
variable {I : σ → Prop} {ok : E → Prop}

theorem pure (a : α) : (Pure.pure a : Action σ E R α).Guarded I ok :=
  fun _ h hs => ⟨hs, [], (List.append_nil h).symm, fun _ hm => absurd hm List.not_mem_nil⟩

theorem modify {f : σ → σ} (hf : ∀ s, I s → I (f s)) :
    (Action.modify f : Action σ E R Unit).Guarded I ok :=
  fun s h hs => ⟨hf s hs, [], (List.append_nil h).symm, fun _ hm => absurd hm List.not_mem_nil⟩

/-- A question of the state it is asked in. -/
theorem ask {e : σ → E} {reply : (s : σ) → R (e s) → α} (he : ∀ s, I s → ok (e s)) :
    Guarded I ok fun s => .ask (e s) fun r => .done (reply s r, s) := by
  intro s h hs r
  refine ⟨hs, [⟨e s, r⟩], rfl, fun ev hm => ?_⟩
  rw [List.mem_singleton.mp hm]
  exact he s hs

theorem bind {m : Action σ E R α} {f : α → Action σ E R β} (hm : m.Guarded I ok)
    (hf : ∀ a, (f a).Guarded I ok) : (m >>= f).Guarded I ok := by
  intro s h hs
  rw [wp_bind]
  apply wp_mono (hm s h hs)
  intro a s₁ _ first
  obtain ⟨hs₁, evs₁, he₁, hok₁⟩ := first
  rw [he₁]
  apply wp_mono (hf a s₁ (h ++ evs₁) hs₁)
  intro _ _ _ rest
  obtain ⟨hs₂, evs₂, he₂, hok₂⟩ := rest
  refine ⟨hs₂, evs₁ ++ evs₂, by rw [he₂, List.append_assoc], fun ev hm => ?_⟩
  rcases List.mem_append.mp hm with hm | hm
  · exact hok₁ ev hm
  · exact hok₂ ev hm

/-- What follows a read of the state may use what holds of it. -/
theorem get_bind {f : σ → Action σ E R β} (hf : ∀ s, I s → (f s).Guarded I ok) :
    (Action.get >>= f).Guarded I ok := by
  intro s h hs
  rw [wp_bind]
  exact hf s hs s h hs

theorem ite {c : Prop} [Decidable c] {m m' : Action σ E R α} (hm : c → m.Guarded I ok)
    (hm' : ¬c → m'.Guarded I ok) : (if c then m else m').Guarded I ok := by
  split
  · rename_i hc
    exact hm hc
  · rename_i hc
    exact hm' hc

theorem foldFrom {body : β → ℕ → Action σ E R β}
    (hbody : ∀ acc index, (body acc index).Guarded I ok) (acc : β) (index n : ℕ) :
    (Action.foldFrom body acc index n).Guarded I ok := by
  induction n generalizing acc index with
  | zero => exact pure _
  | succ n ih => exact bind (hbody acc index) fun acc' => ih acc' (index + 1)

/-- What comes after questions with `ok`. -/
theorem after {m : Action σ E R α} {evs : History E R} (hm : m.Guarded I ok) (hs : I s)
    (hevs : ∀ ev ∈ evs, ok ev.1) : m.wp s (h ++ evs) fun _ s' h' =>
      I s' ∧ ∃ evs', h' = h ++ evs' ∧ ∀ ev ∈ evs', ok ev.1 := by
  apply wp_mono (hm s (h ++ evs) hs)
  intro _ _ _ done
  obtain ⟨hs', rest, he, hok⟩ := done
  refine ⟨hs', evs ++ rest, by rw [he, List.append_assoc], fun ev hm => ?_⟩
  rcases List.mem_append.mp hm with hm | hm
  · exact hevs ev hm
  · exact hok ev hm

end Guarded

/-- `Q` holds of what the run against one environment ends with. -/
def runs (env : Environment T E R) (m : Action σ E R α) (s : σ) (t : T) (h : History E R)
    (Q : α → σ → T → History E R → Prop) : Prop :=
  Q ((m s).run env t).1.1.1 ((m s).run env t).1.1.2 ((m s).run env t).1.2
    (h ++ ((m s).run env t).2)

variable {env : Environment T E R} {t : T}

@[simp] theorem runs_pure {a : α} {Q : α → σ → T → History E R → Prop} :
    (pure a : Action σ E R α).runs env s t h Q ↔ Q a s t h :=
  Iff.of_eq (congrArg (Q a s t) (List.append_nil h))

@[simp] theorem runs_bind {m : Action σ E R α} {f : α → Action σ E R β}
    {Q : β → σ → T → History E R → Prop} :
    (m >>= f).runs env s t h Q ↔
      m.runs env s t h fun a s' t' h' => (f a).runs env s' t' h' Q := by
  have hb : (m >>= f) s = (m s).bind fun r => f r.1 r.2 := rfl
  simp only [runs, hb, Program.run_bind, List.append_assoc]

@[simp] theorem runs_get {Q : σ → σ → T → History E R → Prop} :
    (get : Action σ E R σ).runs env s t h Q ↔ Q s s t h :=
  Iff.of_eq (congrArg (Q s s t) (List.append_nil h))

@[simp] theorem runs_modify {f : σ → σ} {Q : Unit → σ → T → History E R → Prop} :
    (modify f : Action σ E R Unit).runs env s t h Q ↔ Q () (f s) t h :=
  Iff.of_eq (congrArg (Q () (f s) t) (List.append_nil h))

@[simp] theorem runs_ask {e : E} {Q : R e → σ → T → History E R → Prop} :
    (ask e : Action σ E R (R e)).runs env s t h Q ↔
      Q (env t e).1 s (env t e).2 (h ++ [⟨e, (env t e).1⟩]) := Iff.rfl

@[simp] theorem runs_ite {c : Prop} [Decidable c] {m m' : Action σ E R α}
    {Q : α → σ → T → History E R → Prop} :
    (if c then m else m').runs env s t h Q ↔
    (c → m.runs env s t h Q) ∧ (¬c → m'.runs env s t h Q) := by
  split <;> simp_all

end Action

/-! A reactive system answers a list of inputs, each with one action. -/

/-- The state of a reactive system, the state of its environment, and all that happened. -/
structure World (σ T E : Type) (R : E → Type) where
  state : σ
  outside : T
  history : History E R

namespace World

/-- The run of one action from a world: its result, the next world and the new events. -/
def perform (env : Environment T E R) (m : Action σ E R α) (w : World σ T E R) :
    α × World σ T E R × History E R :=
  let r := (m w.state).run env w.outside
  (r.1.1.1, ⟨r.1.1.2, r.1.2, w.history ++ r.2⟩, r.2)

def step (env : Environment T E R) (handler : I → Action σ E R α) (w : World σ T E R) (i : I) :
    World σ T E R :=
  (w.perform env (handler i)).2.1

def play (env : Environment T E R) (handler : I → Action σ E R α) (w : World σ T E R)
    (inputs : List I) : World σ T E R :=
  inputs.foldl (step env handler) w

variable {env : Environment T E R} {handler : I → Action σ E R α} {w : World σ T E R}

@[simp] theorem play_nil : play env handler w [] = w := rfl

@[simp] theorem play_cons (i : I) (is : List I) :
    play env handler w (i :: is) = play env handler (w.step env handler i) is := rfl

theorem play_append (is js : List I) :
    play env handler w (is ++ js) = play env handler (play env handler w is) js :=
  List.foldl_append

theorem perform_history (m : Action σ E R α) :
    (w.perform env m).2.1.history = w.history ++ (w.perform env m).2.2 := rfl

theorem perform_wp {m : Action σ E R α} {Q : α → σ → History E R → Prop}
    (hm : m.wp w.state w.history Q) :
    Q (w.perform env m).1 (w.perform env m).2.1.state (w.perform env m).2.1.history :=
  Program.wp_run env (m w.state) w.history w.outside hm

/-- An invariant that every input keeps, whatever is replied, holds along every run. -/
theorem play_invariant {P : σ → History E R → Prop}
    (hstep : ∀ s h i, P s h → (handler i).wp s h fun _ s' h' => P s' h')
    (is : List I) (hw : P w.state w.history) :
    P (play env handler w is).state (play env handler w is).history := by
  induction is generalizing w with
  | nil => exact hw
  | cons i is ih => exact ih (perform_wp (hstep _ _ i hw))

/-- The state an environment is in after it gave the replies of a history. -/
def outsideAfter (env : Environment T E R) (t : T) (h : History E R) : T :=
  h.foldl (fun t ev => (env t ev.1).2) t

/-- Every reply of the history is the one the environment gives at that point. -/
def Answered (env : Environment T E R) (t : T) : History E R → Prop
  | [] => True
  | ev :: h => ev.2 = (env t ev.1).1 ∧ Answered env (env t ev.1).2 h

theorem answered_append {t : T} {h h' : History E R} :
    Answered env t (h ++ h') ↔ Answered env t h ∧ Answered env (outsideAfter env t h) h' := by
  induction h generalizing t with
  | nil => simp [Answered, outsideAfter]
  | cons ev h ih =>
    simp only [List.cons_append, Answered, ih, outsideAfter, List.foldl_cons, and_assoc]

theorem run_answered (env : Environment T E R) (p : Program E R α) (t : T) :
    Answered env t (p.run env t).2 ∧ outsideAfter env t (p.run env t).2 = (p.run env t).1.2 := by
  induction p generalizing t with
  | done a => exact ⟨trivial, rfl⟩
  | ask e next ih => exact ⟨⟨rfl, (ih _ _).1⟩, (ih _ _).2⟩

/-- One action only records replies its environment gave. -/
theorem perform_answered (m : Action σ E R α) (t₀ : T) (hw : Answered env t₀ w.history)
    (ht : outsideAfter env t₀ w.history = w.outside) :
    Answered env t₀ (w.perform env m).2.1.history ∧
      outsideAfter env t₀ (w.perform env m).2.1.history = (w.perform env m).2.1.outside := by
  have hr := run_answered env (m w.state) w.outside
  rw [← ht] at hr
  constructor
  · rw [perform_history]
    apply answered_append.mpr
    refine ⟨hw, ?_⟩
    rw [perform, ← ht]
    exact hr.1
  · rw [perform_history, outsideAfter, List.foldl_append]
    change outsideAfter env (outsideAfter env t₀ w.history) _ = _
    rw [perform, ← ht]
    exact hr.2

/-- A run only records replies its environment gave. -/
theorem play_answered (t₀ : T) (is : List I) (hw : Answered env t₀ w.history)
    (ht : outsideAfter env t₀ w.history = w.outside) :
    Answered env t₀ (play env handler w is).history ∧
      outsideAfter env t₀ (play env handler w is).history = (play env handler w is).outside := by
  induction is generalizing w with
  | nil => exact ⟨hw, ht⟩
  | cons i is ih =>
    obtain ⟨answered, after⟩ := perform_answered (handler i) t₀ hw ht
    exact ih answered after

end World

/-- A run only adds to the history. -/
theorem Action.runs_from {env : Environment T E R} {m : Action σ E R α} {s : σ} {h : History E R}
    {t : T} {Q : α → σ → T → History E R → Prop} (hQ : ∀ a s' t' evs, Q a s' t' (h ++ evs)) :
    m.runs env s t h Q := hQ _ _ _ _

theorem Action.runs_mono {env : Environment T E R} {m : Action σ E R α} {s : σ} {h : History E R}
    {t : T} {Q Q' : α → σ → T → History E R → Prop} (hm : m.runs env s t h Q)
    (hQ : ∀ a s' t' evs, Q a s' t' (h ++ evs) → Q' a s' t' (h ++ evs)) : m.runs env s t h Q' :=
  hQ _ _ _ _ hm

/-- An invariant that each turn against one environment carries to the next index. -/
theorem Action.runs_foldFrom {env : Environment T E R} {body : β → ℕ → Action σ E R β}
    {I : β → ℕ → σ → T → History E R → Prop} {stop : ℕ}
    (hbody : ∀ acc index s t h, index < stop → I acc index s t h →
      (body acc index).runs env s t h fun acc' s' t' h' => I acc' (index + 1) s' t' h')
    {acc : β} {index n : ℕ} {s : σ} {t : T} {h : History E R} (hn : index + n = stop)
    (hs : I acc index s t h) :
    (foldFrom body acc index n).runs env s t h fun acc' s' t' h' => I acc' stop s' t' h' := by
  induction n generalizing acc index s t h with
  | zero =>
    obtain rfl : index = stop := by omega
    rw [foldFrom, runs_pure]
    exact hs
  | succ n ih =>
    rw [foldFrom, runs_bind]
    apply runs_mono (hbody acc index s t h (by omega) hs)
    intro acc' s' t' evs turn
    exact ih (by omega) turn

/-- A rule for every reply gives one for the replies of an environment. -/
theorem Action.runs_of_wp {env : Environment T E R} {m : Action σ E R α} {s : σ} {h : History E R}
    {t : T} {Q : α → σ → T → History E R → Prop}
    (hm : m.wp s h fun a s' h' => ∀ evs, h' = h ++ evs → World.Answered env t evs →
      Q a s' (World.outsideAfter env t evs) h') : m.runs env s t h Q := by
  have hr := World.run_answered env (m s) t
  have hq := Program.wp_run env (m s) h t hm _ rfl hr.1
  rw [hr.2] at hq
  exact hq

end Interactive
