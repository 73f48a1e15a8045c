import Mathlib.Algebra.Order.Floor.Ring
import Mathlib.Data.Rat.Floor
import Mathlib.Tactic.Linarith
import Mathlib.Tactic.FieldSimp

/-!
# Rescaling an integer between two spans

`rescale s t p` is `p * t / s` rounded to the nearest integer, halves upward. A position of
a span goes to a position of the other span. Going there and back is exact when the other
span is at least as long, and costs at most half a step of each span when it is shorter.
-/
namespace Rescaling

def rescale (s t p : Int) : Int := (2 * (p * t) + s) / (2 * s)

variable {s t p : Int}

/-- The defining bounds of the rounded quotient. -/
theorem rescale_bounds (hs : 0 < s) :
    2 * s * rescale s t p ≤ 2 * (p * t) + s ∧ 2 * (p * t) + s < 2 * s * rescale s t p + 2 * s := by
  have hspos : 0 < 2 * s := by omega
  have hdiv := Int.mul_ediv_add_emod (2 * (p * t) + s) (2 * s)
  have hnonneg := Int.emod_nonneg (2 * (p * t) + s) hspos.ne'
  have hlt := Int.emod_lt_of_pos (2 * (p * t) + s) hspos
  unfold rescale
  omega

/-- A position of the source span goes to a position of the target span. -/
theorem rescale_mem (hs : 0 < s) (ht : 0 ≤ t) (hp : 0 ≤ p) (hps : p ≤ s) :
    0 ≤ rescale s t p ∧ rescale s t p ≤ t := by
  have hpt : 0 ≤ p * t := mul_nonneg hp ht
  have hst : p * t ≤ s * t := mul_le_mul_of_nonneg_right hps ht
  constructor
  · exact Int.ediv_nonneg (by omega) (by omega)
  · apply Int.le_of_lt_add_one
    rw [rescale, Int.ediv_lt_iff_lt_mul (by omega)]
    calc 2 * (p * t) + s ≤ 2 * (s * t) + s := by omega
      _ < 2 * (s * t) + 2 * s := by omega
      _ = (t + 1) * (2 * s) := by ring

/-- The order of positions is kept. -/
theorem rescale_mono {p' : Int} (hs : 0 < s) (ht : 0 ≤ t) (h : p ≤ p') :
    rescale s t p ≤ rescale s t p' := by
  have hscaled : p * t ≤ p' * t := mul_le_mul_of_nonneg_right h ht
  unfold rescale
  apply Int.ediv_le_ediv (by omega)
  omega

/-- The first position goes to the first one. -/
theorem rescale_zero (hs : 0 < s) : rescale s t 0 = 0 := by
  unfold rescale
  rw [zero_mul, mul_zero, zero_add]
  exact Int.ediv_eq_zero_of_lt (by omega) (by omega)

/-- The last position goes to the last one. -/
theorem rescale_span (hs : 0 < s) : rescale s t s = t := by
  have hhalf : s / (2 * s) = 0 := Int.ediv_eq_zero_of_lt (by omega) (by omega)
  calc rescale s t s = (s + 2 * s * t) / (2 * s) := by
        unfold rescale
        congr 1
        ring
    _ = s / (2 * s) + t := Int.add_mul_ediv_left s t (by omega)
    _ = t := by rw [hhalf, zero_add]

/-- Rounding back: the deviation, measured on the twice refined product grid. -/
theorem rescale_rescale_deviation (hs : 0 < s) (ht : 0 < t) :
    -(s + t) ≤ 2 * t * (rescale t s (rescale s t p) - p) ∧
      2 * t * (rescale t s (rescale s t p) - p) ≤ s + t := by
  generalize hq : rescale s t p = q
  have hthere := rescale_bounds (t := t) (p := p) hs
  rw [hq] at hthere
  have hback := rescale_bounds (t := s) (p := q) ht
  have hcomm : 2 * s * q = 2 * (q * s) := by ring
  have hexpand : 2 * t * (rescale t s q - p) = 2 * t * rescale t s q - 2 * (p * t) := by ring
  omega

/-- There and back is exact when the target span is not shorter. -/
theorem rescale_rescale (hs : 0 < s) (hst : s ≤ t) : rescale t s (rescale s t p) = p := by
  rcases Int.lt_or_eq_of_le hst with hlt | rfl
  · -- the deviation is a multiple of `2 * t`, and `s + t` is less than that
    have hdeviation := rescale_rescale_deviation (p := p) hs (hs.trans hlt)
    have hupper : 2 * t * (rescale t s (rescale s t p) - p) < 2 * t * 1 := by omega
    have hlower : 2 * t * (-1) < 2 * t * (rescale t s (rescale s t p) - p) := by omega
    have hlt_one := lt_of_mul_lt_mul_left hupper (by omega)
    have hgt_neg := lt_of_mul_lt_mul_left hlower (by omega)
    omega
  · have hself : ∀ x, rescale s s x = x := by
      intro x
      have hbounds := rescale_bounds (t := s) (p := x) hs
      have hcomm : 2 * (x * s) = 2 * s * x := by ring
      have hupper : 2 * s * rescale s s x < 2 * s * (x + 1) := by rw [mul_add]; omega
      have hlower : 2 * s * x < 2 * s * (rescale s s x + 1) := by rw [mul_add]; omega
      have hlt := lt_of_mul_lt_mul_left hupper (by omega)
      have hgt := lt_of_mul_lt_mul_left hlower (by omega)
      omega
    rw [hself, hself]

/-- There and back through a shorter span. -/
theorem abs_rescale_rescale_sub_le (hs : 0 < s) (ht : 0 < t) :
    |((rescale t s (rescale s t p) - p : Int) : ℚ)| ≤ s / (2 * t) + 1 / 2 := by
  have htq : (0 : ℚ) < t := by exact_mod_cast ht
  have hdeviation := rescale_rescale_deviation (p := p) hs ht
  have hlower : (-(s + t) : ℚ) ≤ 2 * t * ((rescale t s (rescale s t p) - p : Int) : ℚ) := by
    exact_mod_cast hdeviation.1
  have hupper : 2 * t * ((rescale t s (rescale s t p) - p : Int) : ℚ) ≤ (s + t : ℚ) := by
    exact_mod_cast hdeviation.2
  have hbound : (s : ℚ) / (2 * t) + 1 / 2 = (s + t) / (2 * t) := by
    field_simp
  rw [hbound, abs_le, ← neg_div, div_le_iff₀ (by linarith), le_div_iff₀ (by linarith)]
  constructor <;> linarith

end Rescaling
