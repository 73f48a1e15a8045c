import Mathlib.Algebra.Order.Ring.Int
import Mathlib.Order.Lattice
import Mathlib.Tactic.Ring

/-!
# Signed machine integers, with overflow

A computation over signed machine integers has a value only while every intermediate
result is in range. `checked` is one such operation: its exact result, or nothing.
-/
namespace CheckedIntegers

/-- The range of a signed machine integer. -/
def Fits (bits : Nat) (v : Int) : Prop := -2 ^ (bits - 1) ≤ v ∧ v < 2 ^ (bits - 1)

instance (bits : Nat) (v : Int) : Decidable (Fits bits v) :=
  inferInstanceAs (Decidable (_ ∧ _))

/-- The exact result of an operation, `none` on overflow. -/
def checked (bits : Nat) (v : Int) : Option Int := if Fits bits v then some v else none

variable {bits : Nat} {v w : Int}

theorem fits_32 : Fits 32 v ↔ -2147483648 ≤ v ∧ v ≤ 2147483647 := by
  unfold Fits
  omega

theorem fits_64 : Fits 64 v ↔ -9223372036854775808 ≤ v ∧ v ≤ 9223372036854775807 := by
  unfold Fits
  omega

theorem checked_of_fits (h : Fits bits v) : checked bits v = some v := if_pos h

theorem checked_of_not_fits (h : ¬ Fits bits v) : checked bits v = none := if_neg h

/-- A computation goes on with the exact result, or ends. -/
theorem checked_bind {α : Type} (f : Int → Option α) :
    (checked bits v).bind f = if Fits bits v then f v else none := by
  by_cases h : Fits bits v
  · rw [checked_of_fits h, if_pos h, Option.bind_some]
  · rw [checked_of_not_fits h, if_neg h, Option.bind_none]

@[simp] theorem checked_eq_some : checked bits v = some w ↔ Fits bits v ∧ v = w := by
  simp [checked]

@[simp] theorem checked_eq_none : checked bits v = none ↔ ¬ Fits bits v := by
  simp [checked]

end CheckedIntegers
