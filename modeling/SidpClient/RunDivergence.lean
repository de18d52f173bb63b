import SidpClient.InteractiveProgram

/-! Two runs of one program against two environments: they agree, or they part at a question both
ask and get different replies to. -/
namespace Interactive

variable {E : Type} {R : E → Type} {α σ T I : Type}

/-- Two histories that share a beginning and then hold different replies to one question. -/
def Parts (h h' : History E R) : Prop :=
  ∃ common e, ∃ r r' : R e, ∃ rest rest', r ≠ r' ∧ h = common ++ ⟨e, r⟩ :: rest ∧
    h' = common ++ ⟨e, r'⟩ :: rest'

theorem Parts.append {h h' : History E R} (hp : Parts h h') (k k' : History E R) :
    Parts (h ++ k) (h' ++ k') := by
  obtain ⟨common, e, r, r', rest, rest', hne, rfl, rfl⟩ := hp
  exact ⟨common, e, r, r', rest ++ k, rest' ++ k', hne, by simp, by simp⟩

theorem Parts.prepend {h h' : History E R} (hp : Parts h h') (k : History E R) :
    Parts (k ++ h) (k ++ h') := by
  obtain ⟨common, e, r, r', rest, rest', hne, rfl, rfl⟩ := hp
  exact ⟨k ++ common, e, r, r', rest, rest', hne, by simp, by simp⟩

/-- Environments that move alike, whatever they reply. -/
def MoveAlike (env env' : Environment T E R) : Prop := ∀ t e, (env t e).2 = (env' t e).2

variable {env env' : Environment T E R}

theorem Program.run_or_parts (alike : MoveAlike env env') (p : Program E R α) (t : T) :
    p.run env t = p.run env' t ∨ Parts (p.run env t).2 (p.run env' t).2 := by
  induction p generalizing t with
  | done a => exact Or.inl rfl
  | ask e next ih =>
    by_cases hr : (env t e).1 = (env' t e).1
    · rw [run, run, ← hr, ← alike t e]
      -- the same question with the same reply: the rest decides
      rcases ih (env t e).1 (env t e).2 with same | parts
      · rw [same]
        exact Or.inl rfl
      · exact Or.inr (parts.prepend [⟨e, (env t e).1⟩])
    · exact Or.inr ⟨[], e, _, _, _, _, hr, rfl, rfl⟩

/-- What was asked before the environments moved on is known to both. -/
theorem World.outsideAfter_alike (alike : MoveAlike env env') (t : T) (h : History E R) :
    World.outsideAfter env t h = World.outsideAfter env' t h := by
  induction h generalizing t with
  | nil => rfl
  | cons ev h ih =>
    rw [World.outsideAfter, List.foldl_cons, alike t ev.1]
    exact ih (env' t ev.1).2

variable {handler : I → Action σ E R α} {w : World σ T E R}

theorem World.play_history (is : List I) : w.history <+: (World.play env handler w is).history := by
  induction is generalizing w with
  | nil => exact List.prefix_rfl
  | cons i is ih =>
    have first : w.history <+: (w.step env handler i).history := ⟨_, rfl⟩
    exact first.trans ih

theorem World.play_or_parts (alike : MoveAlike env env') (w : World σ T E R) (is : List I) :
    World.play env handler w is = World.play env' handler w is ∨
      Parts (World.play env handler w is).history (World.play env' handler w is).history := by
  induction is generalizing w with
  | nil => exact Or.inl rfl
  | cons i is ih =>
    rcases Program.run_or_parts alike (handler i w.state) w.outside with same | parts
    · have step : w.step env handler i = w.step env' handler i := by
        rw [World.step, World.step, World.perform, World.perform, same]
      rw [World.play_cons, World.play_cons, step]
      exact ih (w.step env' handler i)
    · have later : (w.step env handler i).history <+:
          (World.play env handler (w.step env handler i) is).history := World.play_history is
      have later' : (w.step env' handler i).history <+:
          (World.play env' handler (w.step env' handler i) is).history := World.play_history is
      obtain ⟨k, hk⟩ := later
      obtain ⟨k', hk'⟩ := later'
      rw [World.play_cons, World.play_cons, ← hk, ← hk']
      exact Or.inr ((parts.prepend w.history).append k k')

end Interactive
