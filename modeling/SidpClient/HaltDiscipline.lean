import SidpClient.MemoryMapDiscipline
import Mathlib.Data.List.Induction

/-! The target is halted and clean whenever the session touches it invasively. -/
namespace SidpClient
open LittleEndian Interactive

/-! The backend contract: when the target is halted. -/

/-- Calls that return only when the target is halted. -/
def Call.Confirms : Call → Answer → Prop
  | .halt _, a => a.code = .ok
  | .pollHalted, a => a.code = .ok ∧ a.stop.halted = true
  | .reset _ haltAfter, a => a.code = .ok ∧ haltAfter = true
  | _, _ => False

/-- Calls after which a halted target may run. A detach that fails leaves the target attached for
a retry. -/
def Call.LetsRun : Call → Answer → Prop
  | .resume _ _, _ => True
  | .reset _ _, _ => True
  | .detach _, a => a.code = .ok
  | _, _ => False

/-- The same with any detach, also one that fails. -/
def Call.LetsRunOrDetaches (c : Call) (a : Answer) : Prop :=
  c.LetsRun a ∨ ∃ action, c = .detach action

/-- Every way the target can be halted or run after some calls, when `letsRun` says after which of
them a halted target may run. -/
inductive HaltRun (letsRun : Call → Answer → Prop) : List (Call × Answer) → Bool → Prop
  | start (halted : Bool) : HaltRun letsRun [] halted
  | stops {cs} (running : HaltRun letsRun cs false) : HaltRun letsRun cs true
  | call {cs before} (c : Call) (a : Answer) (after : Bool) (run : HaltRun letsRun cs before)
      (stays : before = true → ¬letsRun c a → after = true)
      (confirmed : c.Confirms a → after = true) :
      HaltRun letsRun (cs ++ [(c, a)]) after

/-- The target is halted after the history, whatever it did on its own. -/
def Halted (letsRun : Call → Answer → Prop) (h : SessionHistory) : Prop :=
  ∀ halted, HaltRun letsRun (calls h) halted → halted = true

variable {s : Session} {h : SessionHistory} {letsRun : Call → Answer → Prop}
  {cs : List (Call × Answer)} {c : Call} {a : Answer}

theorem HaltRun.concat_cases {halted : Bool} (hr : HaltRun letsRun (cs ++ [(c, a)]) halted) :
    halted = true ∨ ∃ before, HaltRun letsRun cs before ∧
      (before = true → ¬letsRun c a → halted = true) ∧ (c.Confirms a → halted = true) := by
  generalize hcs : cs ++ [(c, a)] = cs' at hr
  cases hr with
  | start => exact absurd hcs (by simp)
  | stops => exact Or.inl rfl
  | call c' a' after run stays confirmed =>
    obtain ⟨rfl, hlast⟩ := List.append_inj' hcs rfl
    obtain ⟨rfl, rfl⟩ := Prod.mk.inj (List.cons.inj hlast).1
    exact Or.inr ⟨_, run, stays, confirmed⟩

/-- What a call leaves of the view of the last halt: it confirmed a halt, or it cannot have ended
the one known before. -/
theorem haltViewCall_cases {report report' : Option HaltReport} {r : HaltReport}
    (hv : haltViewCall report c a = report') (hr : report' = some r) :
    c.Confirms a ∨ (report = some r ∧ ¬c.LetsRun a) := by
  subst hr
  cases c with
  | halt timeout =>
    by_cases ok : a.code = .ok
    · exact Or.inl ok
    · rw [haltViewCall, if_neg ok] at hv
      exact Or.inr ⟨hv, id⟩
  | pollHalted =>
    by_cases ok : a.code = .ok ∧ a.stop.halted = true
    · exact Or.inl ok
    · rw [haltViewCall, if_neg ok] at hv
      exact Or.inr ⟨hv, id⟩
  | reset kind haltAfter =>
    by_cases ok : a.code = .ok ∧ haltAfter = true
    · exact Or.inl ok
    · rw [haltViewCall, if_neg ok] at hv
      exact absurd hv (by simp)
  | resume action address => exact absurd hv (by simp [haltViewCall])
  | detach action =>
    by_cases ok : a.code = .ok
    · rw [haltViewCall, if_pos ok] at hv
      exact absurd hv (by simp)
    · rw [haltViewCall, if_neg ok] at hv
      exact Or.inr ⟨hv, ok⟩
  | _ => exact Or.inr ⟨hv, id⟩

/-- A halt the session knows of is one the target is in. -/
theorem HaltKnown.isHalted (hk : HaltKnown h) : Halted Call.LetsRun h := by
  induction h using List.reverseRecOn with
  | nil =>
    obtain ⟨r, hr⟩ := hk
    exact absurd hr (by simp [haltView])
  | append_singleton h ev ih =>
    obtain ⟨r, hr⟩ := hk
    obtain ⟨e, reply⟩ := ev
    cases e with
    | offer f =>
      rw [haltView_offer] at hr
      have known : HaltKnown h := by
        cases hv : haltView h with
        | none => simp [hv] at hr
        | some r' => exact ⟨r', hv⟩
      intro halted run
      rw [calls_offer] at run
      exact ih known halted run
    | call s c =>
      intro halted run
      rw [calls_call] at run
      rw [haltView_call] at hr
      rcases run.concat_cases with done | ⟨before, run', stays, confirmed⟩
      · exact done
      rcases haltViewCall_cases rfl hr with confirms | ⟨hv, keeps⟩
      · exact confirmed confirms
      · exact stays (ih ⟨r, hv⟩ before run') keeps

/-! Which calls need a halted target. -/

/-- Patch and restore writes, register accesses and the run configuration. -/
def Call.Invasive : Call → Prop
  | .writeMem access _ _ _ => access = .patch ∨ access = .restore
  | .readRegs _ _ => True
  | .writeRegs _ => True
  | .applyBreakpoints _ => True
  | .applyWatchpoints _ => True
  | .setVectorCatch _ => True
  | _ => False

/-- What holds where a call is issued: an invasive one meets a halted target, a reset or a detach
moreover one without patches, and a reset one whose run configuration was cleared with ESP_OK. -/
structure Disciplined (letsRun : Call → Answer → Prop) (h : SessionHistory) (c : Call) : Prop where
  invasive : c.Invasive → Halted letsRun h
  detach : ∀ action, c = .detach action → Halted letsRun h ∧ patched h = []
  reset : ∀ kind haltAfter, c = .reset kind haltAfter →
    Halted letsRun h ∧ patched h = [] ∧ runConfig h = clearedConfig

theorem CallAllowed.known (allowed : CallAllowed s h c) (hc : c.Invasive) : HaltKnown h := by
  cases c with
  | writeMem access address bytes width =>
    obtain ⟨-, writes⟩ := allowed
    rcases hc with rfl | rfl <;> exact writes.1
  | readRegs | writeRegs | applyBreakpoints | applyWatchpoints | setVectorCatch => exact allowed.2
  | _ => exact hc.elim

/-- In every run: every patch and restore write, register access and configuration call is issued
while the target is halted, and so is every reset and detach, with no patch left in target memory;
before a reset the comparators, watchpoints and vector catch were cleared. -/
theorem halted_when_touched {T : Type} (env : SessionEnvironment T) (t₀ : T) (inputs : List Input) :
    EveryCall (fun _ h c => Disciplined Call.LetsRun h c)
      (playSession env (freshWorld t₀) inputs).history := by
  refine (run_everyCall (P := Shadowed) (E := fun _ h c => Disciplined Call.LetsRun h c)
    env t₀ inputs shadowed_fresh (fun _ _ _ _ _ hm hs => hs.step hm) ?_).2
  intro s s₁ h c hs hi allowed
  have hs₁ : Shadowed s₁ h := hs.issues hi
  refine ⟨fun hc => (allowed.known hc).isHalted, ?_, ?_⟩
  · rintro action rfl
    obtain ⟨-, known, clean⟩ := allowed
    exact ⟨known.isHalted, hs₁.patched_nil clean⟩
  · rintro kind haltAfter rfl
    obtain ⟨-, known, clean, cleared⟩ := allowed
    exact ⟨known.isHalted, hs₁.patched_nil clean, cleared⟩

/-- Attached and halted, a client asks for DETACH with RESUME and then for registers. -/
def detachThenRead : List Input :=
  [.request (requestMessage .attach 1 [0, 0, 0, 0, 0, 1, 0, 0]),
    .request (requestMessage .detach 2 [DetachAction.resume, 0, 0, 0]),
    .request (requestMessage .readRegisters 3 (le32 1 ++ [0, 0, 0, 0]))]

/-- The backend attaches, reports a halted target and fails the detach. -/
def detachFails : List Answer := [{}, { stop := { halted := true } }, { code := .other }, {}]

/-- A target that starts to run at a DETACH the backend reports as failed is still HALTED to the
session, which then reads its registers. -/
theorem running_after_failed_detach :
    ¬EveryCall (fun _ h c => Disciplined Call.LetsRunOrDetaches h c)
      (playSession scripted (freshWorld detachFails) detachThenRead).history := by
  intro hall
  obtain ⟨s, hd⟩ := hall.at (n := 6) (c := .readRegs [] 8168) (by decide +kernel)
  have sent : calls ((playSession scripted (freshWorld detachFails) detachThenRead).history.take 6)
      = (([] ++ [(.attach ⟨false, true⟩, ({} : Answer))]) ++
        [(.pollHalted, { stop := { halted := true } })]) ++
          [(.detach DetachAction.resume, { code := .other })] := by decide +kernel
  have running : HaltRun Call.LetsRunOrDetaches
      (calls ((playSession scripted (freshWorld detachFails) detachThenRead).history.take 6))
      false := by
    rw [sent]
    refine .call _ _ false (.call _ _ true (.call _ _ true (.start true) ?_ ?_) ?_ ?_) ?_ ?_
    · exact fun _ _ => rfl
    · exact fun _ => rfl
    · exact fun _ _ => rfl
    · exact fun _ => rfl
    · exact fun _ stays => absurd (Or.inr ⟨_, rfl⟩) stays
    · exact fun confirms => confirms.elim
  exact absurd (hd.invasive trivial false running) (by decide)

end SidpClient
