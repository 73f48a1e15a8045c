import Mathlib.Algebra.Order.Ring.Abs
import Mathlib.Order.Bounds.Basic
import Mathlib.Tactic.Linarith

/-!
# Rectangles of pixels

The pixels of a rect are half open on both axes, its closed area has the right and the
bottom edge too. Both have a nearest point to any point of the plane.
-/
namespace PixelRects

/-- The squared Euclidean distance. -/
def distanceSq (p q : Int × Int) : Int := (p.1 - q.1) ^ 2 + (p.2 - q.2) ^ 2

/-- The value of a span that is nearest to a value. -/
def nearest (lo hi v : Int) : Int := max lo (min v hi)

theorem nearest_mem (lo hi v : Int) (h : lo ≤ hi) :
    lo ≤ nearest lo hi v ∧ nearest lo hi v ≤ hi := by
  unfold nearest
  omega

theorem sq_sub_nearest_le {lo hi w : Int} (v : Int) (h : lo ≤ w) (h' : w ≤ hi) :
    (v - nearest lo hi v) ^ 2 ≤ (v - w) ^ 2 := by
  rw [sq_le_sq, Int.abs_eq_natAbs, Int.abs_eq_natAbs, nearest]
  omega

structure Rect where
  x : Int
  y : Int
  width : Int
  height : Int
  deriving DecidableEq, Repr

namespace Rect

variable {rect : Rect} {p q : Int × Int}

def pixels (rect : Rect) : Set (Int × Int) :=
  {p | rect.x ≤ p.1 ∧ p.1 < rect.x + rect.width ∧ rect.y ≤ p.2 ∧ p.2 < rect.y + rect.height}

@[simp] theorem mem_pixels : p ∈ rect.pixels ↔
    rect.x ≤ p.1 ∧ p.1 < rect.x + rect.width ∧ rect.y ≤ p.2 ∧ p.2 < rect.y + rect.height :=
  Iff.rfl

instance (p : Int × Int) (rect : Rect) : Decidable (p ∈ rect.pixels) :=
  inferInstanceAs (Decidable (_ ∧ _))

/-- The squared distance to the closed area. -/
def closedDistance (rect : Rect) (p : Int × Int) : Int :=
  distanceSq p (nearest rect.x (rect.x + rect.width) p.1, nearest rect.y (rect.y + rect.height) p.2)

/-- The squared distance to the pixels. -/
def pixelDistance (rect : Rect) (p : Int × Int) : Int :=
  distanceSq p (nearest rect.x (rect.x + rect.width - 1) p.1,
    nearest rect.y (rect.y + rect.height - 1) p.2)

/-- A rect that is not empty has a nearest pixel. -/
theorem isLeast_pixelDistance (hwidth : 0 < rect.width) (hheight : 0 < rect.height)
    (p : Int × Int) : IsLeast (distanceSq p '' rect.pixels) (rect.pixelDistance p) := by
  have hx := nearest_mem rect.x (rect.x + rect.width - 1) p.1 (by omega)
  have hy := nearest_mem rect.y (rect.y + rect.height - 1) p.2 (by omega)
  constructor
  · refine ⟨_, ?_, rfl⟩
    simp only [mem_pixels]
    omega
  · rintro _ ⟨q, ⟨hleft, hright, htop, hbottom⟩, rfl⟩
    exact add_le_add (sq_sub_nearest_le _ hleft (by omega)) (sq_sub_nearest_le _ htop (by omega))

end Rect
end PixelRects
