import Mathlib.Data.List.Basic

/-! What went into and came out of a queue, and the queue in between. -/
namespace Fifo

/-- The items ever put into a queue and the items ever taken out of it, oldest first. -/
structure Ledger (α : Type) where
  put : List α := []
  took : List α := []

namespace Ledger
variable {α : Type} {l : Ledger α} {queue : List α} {a : α}

/-- The items put but not yet taken are those waiting. -/
def Waits (l : Ledger α) (queue : List α) : Prop := l.took ++ queue = l.put

/-- The items taken are the first ones put, in order. -/
def InOrder (l : Ledger α) : Prop := l.took <+: l.put

def add (l : Ledger α) (a : α) : Ledger α := { l with put := l.put ++ [a] }
def remove (l : Ledger α) (a : α) : Ledger α := { l with took := l.took ++ [a] }

theorem waits_nil : Waits ({} : Ledger α) [] := rfl

theorem inOrder_nil : InOrder ({} : Ledger α) := List.prefix_rfl

theorem Waits.inOrder (h : l.Waits queue) : l.InOrder := ⟨queue, h⟩

theorem Waits.add (h : l.Waits queue) (a : α) : (l.add a).Waits (queue ++ [a]) := by
  have happend : l.took ++ queue ++ [a] = l.put ++ [a] := by rw [h]
  rwa [List.append_assoc] at happend

theorem Waits.remove (h : l.Waits (a :: queue)) : (l.remove a).Waits queue := by
  have happend : l.took ++ [a] ++ queue = l.took ++ (a :: queue) := by
    rw [List.append_assoc, List.singleton_append]
  exact happend.trans h

end Ledger

end Fifo
