import Mathlib.Data.Finset.Basic
import Mathlib.Data.List.Infix

/-!
# Presses, releases and what they leave held

A stream of transitions presses and releases keys. It is balanced when it never releases a
key that is not held at that point.
-/
namespace HeldTransitions

universe u

/-- A key goes down, or up when `release` is set. -/
structure Transition (K : Type u) where
  key : K
  release : Bool := false
  deriving DecidableEq

variable {K : Type u} [DecidableEq K]

/-- The held keys after one more transition. -/
def apply (held : Finset K) (t : Transition K) : Finset K :=
  if t.release then held.erase t.key else insert t.key held

/-- The keys held after the stream. -/
def heldAfter (ts : List (Transition K)) : Finset K := ts.foldl apply ∅

/-- Every release in the stream is of a key held before it. -/
def Balanced (ts : List (Transition K)) : Prop :=
  ∀ before t, before ++ [t] <+: ts → t.release = true → t.key ∈ heldAfter before

@[simp] theorem heldAfter_nil : heldAfter ([] : List (Transition K)) = ∅ := rfl

theorem balanced_nil : Balanced ([] : List (Transition K)) := by
  intro before t hprefix
  simp at hprefix

/-- One more transition keeps the balance if it releases only what is held. -/
theorem Balanced.snoc {ts : List (Transition K)} {t : Transition K} (h : Balanced ts)
    (ht : t.release = true → t.key ∈ heldAfter ts) : Balanced (ts ++ [t]) := by
  intro before last hprefix hrelease
  rcases List.prefix_concat_iff.mp hprefix with heq | hbefore
  · obtain ⟨rfl, rfl⟩ := List.append_singleton_inj.mp heq
    exact ht hrelease
  · exact h before last hbefore hrelease

end HeldTransitions
