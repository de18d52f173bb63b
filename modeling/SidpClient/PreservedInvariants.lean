import SidpClient.InteractiveProgram

/-! Invariants of the state and the history together that every part of a program keeps. -/
namespace Interactive

variable {E : Type} {R : E → Type} {α β σ T I : Type}

/-- Started where `P` holds, the action ends where `P` holds, whatever is replied. -/
def Action.Preserves (P : σ → History E R → Prop) (m : Action σ E R α) : Prop :=
  ∀ s h, P s h → m.wp s h fun _ s' h' => P s' h'

namespace Action.Preserves
variable {P : σ → History E R → Prop}

theorem pure (a : α) : Preserves P (Pure.pure a : Action σ E R α) := fun _ _ hp => hp

theorem modify {f : σ → σ} (hf : ∀ s h, P s h → P (f s) h) :
    Preserves P (Action.modify f : Action σ E R Unit) :=
  fun s h hp => hf s h hp

/-- A question of the state it is asked in. -/
theorem ask {e : σ → E} {reply : (s : σ) → R (e s) → α}
    (he : ∀ s h r, P s h → P s (h ++ [⟨e s, r⟩])) :
    Preserves P fun s => .ask (e s) fun r => .done (reply s r, s) := fun s h hp r => he s h r hp

theorem bind {m : Action σ E R α} {f : α → Action σ E R β} (hm : Preserves P m)
    (hf : ∀ a, Preserves P (f a)) :
    Preserves P (m >>= f) := by
  intro s h hp
  rw [wp_bind]
  apply wp_mono (hm s h hp)
  intro a s' evs first
  exact hf a s' _ first

theorem get_bind {f : σ → Action σ E R β} (hf : ∀ s, Preserves P (f s)) :
    Preserves P (Action.get >>= f) := by
  intro s h hp
  rw [wp_bind]
  exact hf s s h hp

theorem ite {c : Prop} [Decidable c] {m m' : Action σ E R α} (hm : c → Preserves P m)
    (hm' : ¬c → Preserves P m') :
    Preserves P (if c then m else m') := by
  split
  · rename_i hc
    exact hm hc
  · rename_i hc
    exact hm' hc

theorem loop {body : Action σ E R (Option α)} (hbody : Preserves P body) (fuel : ℕ) :
    Preserves P (body.loop fuel) := by
  induction fuel with
  | zero => exact pure _
  | succ fuel ih =>
    apply bind hbody
    intro r
    cases r with
    | some a => exact pure _
    | none => exact ih

theorem foldFrom {body : α → ℕ → Action σ E R α} (hbody : ∀ acc index, Preserves P (body acc index))
    (acc : α) (index n : ℕ) : Preserves P (Action.foldFrom body acc index n) := by
  induction n generalizing acc index with
  | zero => exact pure _
  | succ n ih => exact bind (hbody acc index) fun acc' => ih acc' (index + 1)

/-- What every input preserves holds along every run. -/
theorem play {env : Environment T E R} {handler : I → Action σ E R α} {w : World σ T E R}
    (hstep : ∀ i, Preserves P (handler i)) (is : List I) (hw : P w.state w.history) :
    P (World.play env handler w is).state (World.play env handler w is).history :=
  World.play_invariant (fun s h i hp => hstep i s h hp) is hw

end Action.Preserves

/-- Started where `P` holds, the action ends where `Q` holds, whatever is replied. -/
def Action.Leads (P Q : σ → History E R → Prop) (m : Action σ E R α) : Prop :=
  ∀ s h, P s h → m.wp s h fun _ s' h' => Q s' h'

namespace Action.Leads
variable {P P' Q Q' U : σ → History E R → Prop} {m m' : Action σ E R α}

theorem mono (hm : Leads P Q m) (before : ∀ s h, P' s h → P s h) (after : ∀ s h, Q s h → Q' s h) :
    Leads P' Q' m := by
  intro s h hp
  apply wp_mono (hm s h (before s h hp))
  intro _ s' evs
  exact after s' _

theorem pure (hPQ : ∀ s h, P s h → Q s h) (a : α) : Leads P Q (Pure.pure a : Action σ E R α) :=
  fun s h hp => hPQ s h hp

theorem bind {f : α → Action σ E R β} (hm : Leads P Q m) (hf : ∀ a, Leads Q U (f a)) :
    Leads P U (m >>= f) := by
  intro s h hp
  rw [wp_bind]
  apply wp_mono (hm s h hp)
  intro a s' evs first
  exact hf a s' _ first

/-- The state that was read is the one the rest starts in. -/
theorem get_bind {f : σ → Action σ E R β} (hf : ∀ s, Leads (fun t h => P t h ∧ t = s) Q (f s)) :
    Leads P Q (Action.get >>= f) := by
  intro s h hp
  rw [wp_bind]
  exact hf s s h ⟨hp, rfl⟩

theorem ite {c : Prop} [Decidable c] (hm : c → Leads P Q m) (hm' : ¬c → Leads P Q m') :
    Leads P Q (if c then m else m') := by
  split
  · rename_i hc
    exact hm hc
  · rename_i hc
    exact hm' hc

end Action.Leads

/-- Every event has a property of what came before it. -/
def EveryEvent (P : History E R → Event E R → Prop) (h : History E R) : Prop :=
  ∀ h₁ ev h₂, h = h₁ ++ ev :: h₂ → P h₁ ev

namespace EveryEvent
variable {P : History E R → Event E R → Prop} {h evs : History E R} {ev : Event E R}

theorem nil : EveryEvent P [] := fun _ _ _ he => absurd he (by simp)

theorem concat (hall : EveryEvent P h) (hev : P h ev) : EveryEvent P (h ++ [ev]) := by
  intro h₁ e h₂ he
  rcases List.eq_nil_or_concat' h₂ with rfl | ⟨h₃, last, rfl⟩
  · obtain ⟨rfl, hlast⟩ := List.append_inj' he rfl
    rw [← (List.cons.inj hlast).1]
    exact hev
  · rw [← List.cons_append, ← List.append_assoc] at he
    obtain ⟨rfl, -⟩ := List.append_inj' he rfl
    exact hall h₁ e h₃ rfl

theorem before (hall : EveryEvent P (h ++ evs)) : EveryEvent P h := by
  intro h₁ e h₂ he
  apply hall h₁ e (h₂ ++ evs)
  rw [he, List.append_assoc]
  rfl

theorem last (hall : EveryEvent P (h ++ [ev])) : P h ev := hall h ev [] rfl

end EveryEvent

/-! Invariants of what is outside. -/

section
variable {env : Environment T E R} {P : T → History E R → Prop}

theorem Program.run_outside (hreply : ∀ t h e, P t h → P (env t e).2 (h ++ [⟨e, (env t e).1⟩]))
    (p : Program E R α) {t : T} {h : History E R} (hp : P t h) :
    P (p.run env t).1.2 (h ++ (p.run env t).2) := by
  induction p generalizing t h with
  | done a =>
    rw [Program.run, List.append_nil]
    exact hp
  | ask e next ih =>
    rw [Program.run, List.append_cons]
    exact ih _ (hreply t h e hp)

/-- An invariant that every reply of the environment keeps holds along every run. -/
theorem World.play_outside {handler : I → Action σ E R α} {w : World σ T E R}
    (hreply : ∀ t h e, P t h → P (env t e).2 (h ++ [⟨e, (env t e).1⟩])) (is : List I)
    (hw : P w.outside w.history) :
    P (World.play env handler w is).outside (World.play env handler w is).history := by
  induction is generalizing w with
  | nil => exact hw
  | cons i is ih => exact ih (Program.run_outside hreply _ hw)

/-- What holds of every reply an environment gives holds of every event of a run. -/
theorem World.play_replies {handler : I → Action σ E R α} {w : World σ T E R}
    {fair : Event E R → Prop} (hfair : ∀ t e, fair ⟨e, (env t e).1⟩) (is : List I)
    (hw : ∀ ev ∈ w.history, fair ev) :
    ∀ ev ∈ (World.play env handler w is).history, fair ev := by
  apply World.play_outside (P := fun _ h => ∀ ev ∈ h, fair ev) _ is hw
  intro t h e before ev hm
  rcases List.mem_append.mp hm with hm | hm
  · exact before ev hm
  · rw [List.mem_singleton.mp hm]
    exact hfair t e

theorem World.outsideAfter_concat (t : T) (h : History E R) (ev : Event E R) :
    outsideAfter env t (h ++ [ev]) = (env (outsideAfter env t h) ev.1).2 := by
  rw [outsideAfter, List.foldl_append]
  rfl

/-- An invariant of the environment holds at every moment of a run. -/
theorem World.play_moments {handler : I → Action σ E R α} {w : World σ T E R}
    (fresh : w.history = []) (hreply : ∀ t h e, P t h → P (env t e).2 (h ++ [⟨e, (env t e).1⟩]))
    (is : List I) (hw : P w.outside []) :
    (play env handler w is).outside = outsideAfter env w.outside (play env handler w is).history ∧
      ∀ h evs, (play env handler w is).history = h ++ evs → P (outsideAfter env w.outside h) h := by
  apply play_outside (P := fun t h => t = outsideAfter env w.outside h ∧
    ∀ h₁ h₂, h = h₁ ++ h₂ → P (outsideAfter env w.outside h₁) h₁)
  · intro t h e before
    obtain ⟨same, every⟩ := before
    have next : outsideAfter env w.outside (h ++ [⟨e, (env t e).1⟩]) = (env t e).2 := by
      rw [same]
      exact outsideAfter_concat _ _ _
    constructor
    · exact next.symm
    · intro h₁ h₂ he
      rcases List.eq_nil_or_concat h₂ with rfl | ⟨h₃, last, rfl⟩
      · rw [List.append_nil] at he
        rw [← he, next]
        have whole := every h [] (List.append_nil h).symm
        rw [← same] at whole
        exact hreply t h e whole
      · rw [List.concat_eq_append, ← List.append_assoc] at he
        obtain ⟨rfl, -⟩ := List.append_inj' he rfl
        exact every h₁ h₃ rfl
  · rw [fresh]
    refine ⟨rfl, fun h₁ h₂ he => ?_⟩
    obtain ⟨rfl, -⟩ := List.append_eq_nil_iff.mp he.symm
    exact hw

end

end Interactive
