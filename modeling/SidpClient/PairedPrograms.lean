import SidpClient.InteractiveProgram
import Mathlib.Data.List.Forall2

/-! Two programs side by side: they ask the same questions, as far as an observer can tell, while
the replies they are given look the same to the observer. -/
namespace Interactive

variable {E : Type} {R : E → Type} {α β γ δ σ T I : Type}

/-- What an observer takes for the same: two questions, and two questions with their replies. -/
structure Observer (E : Type) (R : E → Type) where
  asked : E → E → Prop
  answered : Event E R → Event E R → Prop

variable {o : Observer E R}

/-- An environment that answers and moves alike where the observer sees no difference. -/
def Observer.Guides (o : Observer E R) (env : Environment T E R) : Prop :=
  ∀ t e e', o.asked e e' →
    o.answered ⟨e, (env t e).1⟩ ⟨e', (env t e').1⟩ ∧ (env t e').2 = (env t e).2

namespace Program

/-- Both ask the same questions, and `Q` relates what they end with. -/
def paired (o : Observer E R) : Program E R α → Program E R β → (α → β → Prop) → Prop
  | .done a, .done b, Q => Q a b
  | .ask e next, .ask e' next', Q =>
    o.asked e e' ∧ ∀ r r', o.answered ⟨e, r⟩ ⟨e', r'⟩ → (next r).paired o (next' r') Q
  | .done _, .ask _ _, _ => False
  | .ask _ _, .done _, _ => False

theorem paired_bind {p : Program E R α} {p' : Program E R β} {f : α → Program E R γ}
    {f' : β → Program E R δ} {Q : γ → δ → Prop}
    (hp : p.paired o p' fun a b => (f a).paired o (f' b) Q) :
    (p.bind f).paired o (p'.bind f') Q := by
  induction p generalizing p' with
  | done a =>
    cases p' with
    | done b => exact hp
    | ask e' next' => exact hp.elim
  | ask e next ih =>
    cases p' with
    | done b => exact hp.elim
    | ask e' next' => exact ⟨hp.1, fun r r' same => ih r (hp.2 r r' same)⟩

theorem paired_mono {p : Program E R α} {p' : Program E R β} {Q Q' : α → β → Prop}
    (hp : p.paired o p' Q) (hQ : ∀ a b, Q a b → Q' a b) : p.paired o p' Q' := by
  induction p generalizing p' with
  | done a =>
    cases p' with
    | done b => exact hQ a b hp
    | ask e' next' => exact hp.elim
  | ask e next ih =>
    cases p' with
    | done b => exact hp.elim
    | ask e' next' => exact ⟨hp.1, fun r r' same => ih r (hp.2 r r' same)⟩

/-- What is known of one of the programs whatever is replied. -/
theorem paired_and {p : Program E R α} {p' : Program E R β} {P : α → Prop} {Q : α → β → Prop}
    {h : History E R} (hp : p.paired o p' Q) (hw : p.wp h fun a _ => P a) :
    p.paired o p' fun a b => P a ∧ Q a b := by
  induction p generalizing p' h with
  | done a =>
    cases p' with
    | done b => exact ⟨hw, hp⟩
    | ask e' next' => exact hp.elim
  | ask e next ih =>
    cases p' with
    | done b => exact hp.elim
    | ask e' next' => exact ⟨hp.1, fun r r' same => ih r (hp.2 r r' same) (hw r)⟩

/-- Against one environment the runs look the same, and leave the environment in the same state. -/
theorem paired_run {env : Environment T E R} (guides : o.Guides env) {p : Program E R α}
    {p' : Program E R β} {Q : α → β → Prop} (hp : p.paired o p' Q) (t : T) :
    Q (p.run env t).1.1 (p'.run env t).1.1 ∧ (p'.run env t).1.2 = (p.run env t).1.2 ∧
      List.Forall₂ o.answered (p.run env t).2 (p'.run env t).2 := by
  induction p generalizing p' t with
  | done a =>
    cases p' with
    | done b => exact ⟨hp, rfl, .nil⟩
    | ask e' next' => exact hp.elim
  | ask e next ih =>
    cases p' with
    | done b => exact hp.elim
    | ask e' next' =>
      obtain ⟨answered, moved⟩ := guides t e e' hp.1
      have rest := ih (env t e).1 (hp.2 _ _ answered) (env t e).2
      simp only [run, moved]
      exact ⟨rest.1, rest.2.1, .cons answered rest.2.2⟩

end Program

namespace Action

/-- Two actions from two states: the results are the same, and `Q` relates the states. -/
def paired (o : Observer E R) (m m' : Action σ E R α) (s s' : σ) (Q : α → σ → σ → Prop) : Prop :=
  (m s).paired o (m' s') fun r r' => r'.1 = r.1 ∧ Q r.1 r.2 r'.2

variable {m m' : Action σ E R α} {s s' : σ}

theorem paired_pure {a : α} {Q : α → σ → σ → Prop} (hQ : Q a s s') :
    (pure a : Action σ E R α).paired o (pure a) s s' Q := ⟨rfl, hQ⟩

theorem paired_bind {f f' : α → Action σ E R β} {Q : β → σ → σ → Prop}
    (hm : m.paired o m' s s' fun a t t' => (f a).paired o (f' a) t t' Q) :
    (m >>= f).paired o (m' >>= f') s s' Q := by
  apply Program.paired_bind
  apply Program.paired_mono hm
  intro r r' both
  obtain ⟨a, t⟩ := r
  obtain ⟨a', t'⟩ := r'
  obtain ⟨rfl, rest⟩ := both
  exact rest

theorem paired_mono {Q Q' : α → σ → σ → Prop} (hm : m.paired o m' s s' Q)
    (hQ : ∀ a t t', Q a t t' → Q' a t t') : m.paired o m' s s' Q' :=
  Program.paired_mono hm fun _ _ both => ⟨both.1, hQ _ _ _ both.2⟩

theorem paired_and {P : α → σ → Prop} {Q : α → σ → σ → Prop} {h : History E R}
    (hm : m.paired o m' s s' Q) (hw : m.wp s h fun a t _ => P a t) :
    m.paired o m' s s' fun a t t' => P a t ∧ Q a t t' :=
  Program.paired_mono (Program.paired_and hm hw) fun _ _ both => ⟨both.2.1, both.1, both.2.2⟩

theorem paired_get {f f' : σ → Action σ E R β} {Q : β → σ → σ → Prop}
    (hf : (f s).paired o (f' s') s s' Q) : (get >>= f).paired o (get >>= f') s s' Q := hf

theorem paired_modify {f f' : σ → σ} {Q : Unit → σ → σ → Prop} (hQ : Q () (f s) (f' s')) :
    (modify f : Action σ E R Unit).paired o (modify f') s s' Q := ⟨rfl, hQ⟩

theorem paired_ite {c : Prop} [Decidable c] {n n' : Action σ E R α} {Q : α → σ → σ → Prop}
    (hm : c → m.paired o m' s s' Q) (hn : ¬c → n.paired o n' s s' Q) :
    (if c then m else n).paired o (if c then m' else n') s s' Q := by
  split
  · rename_i hc
    exact hm hc
  · rename_i hc
    exact hn hc

/-- One action from two related states: it does the same in both, and they stay related. -/
def Keeping (o : Observer E R) (K : σ → σ → Prop) (m : Action σ E R α) : Prop :=
  ∀ s s', K s s' → m.paired o m s s' fun _ => K

namespace Keeping
variable {K : σ → σ → Prop}

theorem pure (a : α) : (Pure.pure a : Action σ E R α).Keeping o K := fun _ _ hs => ⟨rfl, hs⟩

theorem modify {f : σ → σ} (hf : ∀ s s', K s s' → K (f s) (f s')) :
    (Action.modify f : Action σ E R Unit).Keeping o K := fun s s' hs => ⟨rfl, hf s s' hs⟩

theorem bind {f : α → Action σ E R β} (hm : m.Keeping o K) (hf : ∀ a, (f a).Keeping o K) :
    (m >>= f).Keeping o K :=
  fun s s' hs => paired_bind (paired_mono (hm s s' hs) fun a t t' ht => hf a t t' ht)

/-- What follows a read of the state does the same in two related states. -/
theorem get_bind {f : σ → Action σ E R β}
    (hf : ∀ s s', K s s' → (f s).paired o (f s') s s' fun _ => K) :
    (Action.get >>= f).Keeping o K := hf

theorem ite {c : Prop} [Decidable c] {n : Action σ E R α} (hm : c → m.Keeping o K)
    (hn : ¬c → n.Keeping o K) : (if c then m else n).Keeping o K := by
  split
  · rename_i hc
    exact hm hc
  · rename_i hc
    exact hn hc

theorem foldFrom {body : β → ℕ → Action σ E R β} (hbody : ∀ acc index, (body acc index).Keeping o K)
    (acc : β) (index n : ℕ) : (Action.foldFrom body acc index n).Keeping o K := by
  induction n generalizing acc index with
  | zero => exact pure _
  | succ n ih => exact bind (hbody acc index) fun acc' => ih acc' (index + 1)

end Keeping

end Action

/-- Two runs of a reactive system from related states look the same, whatever the inputs are. The
one run may rest on an invariant of its own. -/
theorem World.play_paired {env : Environment T E R} (guides : o.Guides env)
    {handler : I → Action σ E R α} {P : σ → History E R → Prop} {K : σ → σ → Prop}
    (hP : ∀ s h i, P s h → (handler i).wp s h fun _ s' h' => P s' h')
    (hK : ∀ s h s' i, P s h → K s s' → (handler i).paired o (handler i) s s' fun _ => K)
    {w w' : World σ T E R} (ready : P w.state w.history) (related : K w.state w'.state)
    (outside : w'.outside = w.outside) (is : List I) :
    ∃ evs evs', (play env handler w is).history = w.history ++ evs ∧
      (play env handler w' is).history = w'.history ++ evs' ∧ List.Forall₂ o.answered evs evs' ∧
      K (play env handler w is).state (play env handler w' is).state := by
  induction is generalizing w w' with
  | nil => exact ⟨[], [], (List.append_nil _).symm, (List.append_nil _).symm, .nil, related⟩
  | cons i is ih =>
    have both := Program.paired_run guides (hK _ _ _ i ready related) w.outside
    obtain ⟨⟨-, related'⟩, moved, first⟩ := both
    have ready' : P (w.step env handler i).state (w.step env handler i).history :=
      perform_wp (hP _ _ i ready)
    have related'' : K (w.step env handler i).state (w'.step env handler i).state := by
      rw [step, step, perform, perform, outside]
      exact related'
    have outside' : (w'.step env handler i).outside = (w.step env handler i).outside := by
      rw [step, step, perform, perform, outside]
      exact moved
    obtain ⟨evs, evs', he, he', rest, last⟩ := ih ready' related'' outside'
    refine ⟨((handler i w.state).run env w.outside).2 ++ evs,
      ((handler i w'.state).run env w.outside).2 ++ evs', ?_, ?_, List.rel_append first rest, last⟩
    · rw [play_cons, he, ← List.append_assoc]
      rfl
    · rw [play_cons, he', ← List.append_assoc, ← outside]
      rfl

end Interactive
