import Mathlib.Order.Basic

/-!
# Loops that nothing bounds

The body of a loop is run again and again: a turn faults, goes on in a new state or ends the
loop with a result. A loop terminates if some number of turns brings it to a result.
-/
namespace LoopTurns

universe u v

inductive Turn (State : Type u) (Result : Type v)
  | fault
  | again (s : State)
  | done (r : Result)
  deriving DecidableEq

variable {State : Type u} {Result : Type v} {body : State → Turn State Result} {s : State}
  {r : Result} {n k : Nat}

/-- What the loop has come to after so many turns. -/
def after (body : State → Turn State Result) : Nat → State → Turn State Result
  | 0, s => .again s
  | turns + 1, s =>
    match body s with
    | .fault => .fault
    | .again s' => after body turns s'
    | .done r => .done r

/-- A loop that has ended stays as it is. -/
theorem after_mono (h : after body n s = .done r) (hk : n ≤ k) : after body k s = .done r := by
  induction n generalizing s k with
  | zero => cases h
  | succ n ih =>
    obtain ⟨k, rfl⟩ : ∃ m, k = m + 1 := ⟨k - 1, by omega⟩
    rw [after] at h ⊢
    cases hbody : body s with
    | fault => simp [hbody] at h
    | again s' =>
      simp only [hbody] at h ⊢
      exact ih h (by omega)
    | done r' => simpa [hbody] using h

/-- What the turns do to an invariant and a variant: none of them faults, the variant falls
until the loop ends with a result of the given kind. -/
structure Descends (body : State → Turn State Result) (invariant : State → Prop)
    (variant : State → Nat) (post : Result → Prop) : Prop where
  sound : ∀ s, invariant s → body s ≠ .fault
  again : ∀ s s', invariant s → body s = .again s' → invariant s' ∧ variant s' < variant s
  done : ∀ s r, invariant s → body s = .done r → post r

/-- The variant bounds the number of turns. -/
theorem Descends.ends {invariant : State → Prop} {variant : State → Nat} {post : Result → Prop}
    (h : Descends body invariant variant post) (hs : invariant s) :
    ∃ r, after body (variant s + 1) s = .done r ∧ post r := by
  induction hn : variant s using Nat.strongRecOn generalizing s with
  | ind n ih =>
    rw [after]
    cases hbody : body s with
    | fault => exact absurd hbody (h.sound s hs)
    | again s' =>
      obtain ⟨hs', hless⟩ := h.again s s' hs hbody
      obtain ⟨r, hends, hpost⟩ := ih (variant s') (by omega) hs' rfl
      exact ⟨r, after_mono hends (by omega), hpost⟩
    | done r => exact ⟨r, rfl, h.done s r hs hbody⟩

end LoopTurns
