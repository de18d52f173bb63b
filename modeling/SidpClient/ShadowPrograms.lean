import SidpClient.QuietPrograms
import SidpClient.PreservedInvariants

/-! What the programs over the shadow table preserve: they change the table, and make calls to
record, patch and restore instructions. -/
namespace SidpClient
open Interactive

variable {α : Type} {c : Call}

/-- A call that looks after a shadow entry. -/
def Call.shadows : Call → Bool
  | .readMem .original _ _ _ | .writeMem .patch _ _ _ | .writeMem .restore _ _ _ => true
  | _ => false

theorem getSession_preserves {P : Session → SessionHistory → Prop} {f : Session → SessionM α}
    (hf : ∀ s, (f s).Preserves P) : (getSession >>= f).Preserves P := .get_bind hf

/-- What neither the table nor such a call can change. -/
structure Undisturbed (P : Session → SessionHistory → Prop) : Prop where
  table : ∀ s h table, P s h → P (s.withTable table) h
  call : ∀ s h s₁ c a, Call.shadows c = true → P s h → P s (h ++ [⟨.call s₁ c, a⟩])

section
variable {P : Session → SessionHistory → Prop} (hP : Undisturbed P)
include hP

theorem Undisturbed.backend (shadows : c.shadows = true) : (backend c).Preserves P :=
  .ask fun s h a hp => hP.call s h s c a shadows hp

theorem Undisturbed.updateTable (f : List SwBp → List SwBp) : (updateTable f).Preserves P :=
  .modify fun s h hp => hP.table s h (f s.swTable) hp

theorem Undisturbed.installOne (index : ℕ) : (swBpInstallOne index).Preserves P := by
  apply Action.Preserves.bind (hP.updateTable _)
  intro _
  apply getSession_preserves
  intro s
  cases s.swTable[index]? with
  | none => exact .pure _
  | some entry => exact .bind (hP.backend rfl) fun _ => .pure _

theorem Undisturbed.restoreOne (index : ℕ) : (swBpRestoreOne index).Preserves P := by
  apply getSession_preserves
  intro s
  cases s.swTable[index]? with
  | none => exact .pure _
  | some entry =>
    exact .ite (fun _ => .pure _) fun _ => .bind (hP.backend rfl) fun _ =>
      .ite (fun _ => .bind (hP.updateTable _) fun _ => .pure _) fun _ => .pure _

theorem Undisturbed.restoreAll : swBpRestoreAll.Preserves P := by
  have turn (kept : Bool × ℕ) (index : ℕ) : (swBpRestoreTurn kept index).Preserves P :=
    .bind (hP.restoreOne index) fun _ => .ite (fun _ => .pure _) fun _ =>
      .bind (hP.updateTable _) fun _ => .pure _
  exact getSession_preserves fun _ => .bind (.foldFrom turn _ _ _) fun _ =>
    .bind (hP.updateTable _) fun _ => .pure _

theorem Undisturbed.apply (entries : List BpEntry) : (swBpApply entries).Preserves P := by
  have undo (status : Status) :
      (do let _ ← swBpRestoreAll; return status : SessionM Status).Preserves P :=
    .bind hP.restoreAll fun _ => .pure _
  have record (entries : List BpEntry) : (swBpRecord entries).Preserves P := by
    induction entries with
    | nil => exact .pure _
    | cons entry entries ih =>
      exact getSession_preserves fun _ => .ite (fun _ => undo _) fun _ => .ite (fun _ => undo _)
        fun _ => .bind (hP.backend rfl) fun _ => .ite (fun _ => undo _)
          fun _ => .ite (fun _ => undo _) fun _ => .bind (hP.updateTable _) fun _ => ih
  have install (n index : ℕ) : (swBpInstallFrom index n).Preserves P := by
    induction n generalizing index with
    | zero => exact .pure _
    | succ n ih =>
      exact .bind (hP.installOne index) fun _ => .ite (fun _ => undo _) fun _ => ih (index + 1)
  exact .bind hP.restoreAll fun _ => .ite (fun _ => .pure _) fun _ => .bind (record entries)
    fun _ => .ite (fun _ => .pure _) fun _ => getSession_preserves fun _ => install _ _

theorem Undisturbed.restoreFound (bp : Option ℕ) : (swBpRestoreFound bp).Preserves P := by
  cases bp with
  | none => exact .pure _
  | some index => exact hP.restoreOne index

theorem Undisturbed.installFound (bp : Option ℕ) : (swBpInstallFound bp).Preserves P := by
  cases bp with
  | none => exact .pure _
  | some index => exact hP.installOne index

end

end SidpClient
