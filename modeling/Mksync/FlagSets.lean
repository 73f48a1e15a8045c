import Mathlib.Tactic.SplitIfs

/-!
# Sets of flags in a word

A set of flags is a word, each flag one of its bits. A flag is tested by `and`, put in by `or`
and taken out by `and` with its complement.
-/
namespace FlagSets

variable {w i : Nat} {flags mask : BitVec w}

/-- The word has exactly one bit set, the one at the index. -/
structure IsFlag (i : Nat) (mask : BitVec w) : Prop where
  lt : i < w
  eq : mask = BitVec.twoPow w i

theorem IsFlag.getLsbD (h : IsFlag i mask) (j : Nat) : mask.getLsbD j = decide (i = j) := by
  rw [h.eq, BitVec.getLsbD_twoPow]
  simp [h.lt]

/-- To test a flag is to read its bit. -/
theorem IsFlag.and_ne_zero (h : IsFlag i mask) : flags &&& mask ≠ 0 ↔ flags.getLsbD i = true := by
  have hnonzero : BitVec.twoPow w i ≠ 0 := by
    intro hzero
    have hbit := congrArg (BitVec.getLsbD · i) hzero
    simp [h.lt] at hbit
  rw [h.eq, BitVec.and_twoPow]
  split_ifs with hset
  · exact ⟨fun _ => hset, fun _ => hnonzero⟩
  · exact ⟨fun hne => absurd rfl hne, fun hbit => absurd hbit hset⟩

theorem IsFlag.getLsbD_or (h : IsFlag i mask) (flags : BitVec w) (j : Nat) :
    (flags ||| mask).getLsbD j = (flags.getLsbD j || decide (i = j)) := by
  rw [BitVec.getLsbD_or, h.getLsbD]

theorem IsFlag.getLsbD_and_not (h : IsFlag i mask) (flags : BitVec w) (j : Nat) :
    (flags &&& ~~~mask).getLsbD j = (flags.getLsbD j && !decide (i = j)) := by
  rw [BitVec.getLsbD_and, BitVec.getLsbD_not, h.getLsbD]
  by_cases hj : j < w
  · simp [hj]
  · simp [BitVec.getLsbD_of_ge flags j (Nat.le_of_not_lt hj)]

end FlagSets
