import Mathlib.Algebra.Group.Nat.Defs

/-! Unsigned machine arithmetic that stops at the first operation that would wrap: a computation
that yields a value in it makes the same operations on machine words without a wrap. -/
namespace CheckedArithmetic

/-- An addition in words of so many bits, or a subtraction. -/
inductive Wrap where
  | add (bits a b : ℕ)
  | sub (a b : ℕ)
deriving DecidableEq, Repr

/-- The result of a computation, or the first operation of it that wraps. -/
abbrev Checked (α : Type) := Except Wrap α

def addChecked (bits a b : ℕ) : Checked ℕ :=
  if a + b < 2 ^ bits then .ok (a + b) else .error (.add bits a b)

def subChecked (a b : ℕ) : Checked ℕ :=
  if b ≤ a then .ok (a - b) else .error (.sub a b)

variable {α β : Type} {bits a b : ℕ}

theorem addChecked_ok (bound : a + b < 2 ^ bits) : addChecked bits a b = .ok (a + b) := if_pos bound

theorem subChecked_ok (enough : b ≤ a) : subChecked a b = .ok (a - b) := if_pos enough

@[simp] theorem ok_bind (x : α) (f : α → Checked β) : ((.ok x : Checked α) >>= f) = f x := rfl

@[simp] theorem pure_eq_ok (x : α) : (pure x : Checked α) = .ok x := rfl

end CheckedArithmetic
