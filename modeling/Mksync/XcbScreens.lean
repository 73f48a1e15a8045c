import Mksync.InputEvents
import Mksync.ScreenTopology
import Mksync.CheckedIntegers
import Mksync.PixelRects
import Mathlib.Data.Int.ConditionallyCompleteOrder
import Mathlib.Data.List.MinMax
import Mathlib.Order.CompletePartialOrder

/-!
# Screen lookup on X11

A point of the root window belongs to the monitor that contains it, or to the nearest one.
The loop compares the distances to the closed rects, while a monitor contains only the
pixels of the half-open one.
-/
namespace Mksync
namespace XcbPlatform

open CheckedIntegers PixelRects

structure XcbScreen where
  index : Nat := 0
  screen : ScreenInfo
  deriving DecidableEq, Repr

def XcbScreen.rect (screen : XcbScreen) : Rect :=
  ⟨screen.screen.x, screen.screen.y, screen.screen.width, screen.screen.height⟩

/-- The squared distance to the rect with the given right and bottom edge. -/
def squaredDistance (info : ScreenInfo) (right bottom x y : Int) : Option Int := do
  let clampedX := clamp x info.x right
  let clampedY := clamp y info.y bottom
  let deltaX ← checked 64 (x - clampedX)
  let deltaY ← checked 64 (y - clampedY)
  let squareX ← checked 64 (deltaX * deltaX)
  let squareY ← checked 64 (deltaY * deltaY)
  checked 64 (squareX + squareY)

/-- The loop of `globalToScreen`. Each turn computes both edges, in the test or after it. -/
def bestScreen (x y : Int) : List XcbScreen → XcbScreen → Int → Option XcbScreen
  | [], best, _ => some best
  | screen :: rest, best, bestDistance => do
    let info := screen.screen
    let right ← checked 32 (info.x + info.width)
    let bottom ← checked 32 (info.y + info.height)
    if info.x ≤ x ∧ info.y ≤ y ∧ x < right ∧ y < bottom then some screen
    else
      let distance ← squaredDistance info right bottom x y
      if distance < bestDistance then bestScreen x y rest screen distance
      else bestScreen x y rest best bestDistance

/-- `none` where the arithmetic overflows. -/
def globalToScreen (mScreens : List XcbScreen) (x y : Int32) : Option (Nat × Int × Int) :=
  match mScreens with
  | [] => some (0, x.toInt, y.toInt)
  | front :: rest => do
    let best ← bestScreen x.toInt y.toInt (front :: rest) front 9223372036854775807
    let localX ← checked 32 (x.toInt - best.screen.x)
    let localY ← checked 32 (y.toInt - best.screen.y)
    return (best.index, localX, localY)

/-- `none` where the arithmetic overflows, inside it `std::nullopt` for an index without a
screen. -/
def localToGlobal (mScreens : List XcbScreen) (screenIndex : Nat) (x y : Int) :
    Option (Option (Int × Int)) :=
  match mScreens[screenIndex]? with
  | none => some none
  | some screen => do
    let globalX ← checked 32 (screen.screen.x + x)
    let globalY ← checked 32 (screen.screen.y + y)
    return some (globalX, globalY)

/-- A rect of the X11 protocol: signed 16-bit origin, unsigned 16-bit size, not empty. -/
structure IsX11Rect (info : ScreenInfo) : Prop where
  x : -32768 ≤ info.x ∧ info.x ≤ 32767
  y : -32768 ≤ info.y ∧ info.y ≤ 32767
  width : 1 ≤ info.width ∧ info.width ≤ 65535
  height : 1 ≤ info.height ∧ info.height ≤ 65535

/-- The monitors of a display. -/
structure Monitors where
  mScreens : List XcbScreen
  ne_nil : mScreens ≠ []
  isX11Rect : ∀ screen ∈ mScreens, IsX11Rect screen.screen
  index_eq : ∀ (index : Nat) (screen : XcbScreen), mScreens[index]? = some screen →
    screen.index = index
  disjoint : mScreens.Pairwise fun a b => Disjoint a.rect.pixels b.rect.pixels

/-- The nearest pixel of the screen is at least as near as all pixels of the others. -/
def Nearest (mScreens : List XcbScreen) (screen : XcbScreen) (p : Int × Int) : Prop :=
  ∃ pixel ∈ screen.rect.pixels, ∀ other ∈ mScreens, ∀ pixel' ∈ other.rect.pixels,
    distanceSq p pixel ≤ distanceSq p pixel'

/-! ### One turn of the loop -/

variable {screen best : XcbScreen} {rest mScreens : List XcbScreen} {x y : Int32}

theorem clamp_eq_nearest {v lo hi : Int} (h : lo ≤ hi) : clamp v lo hi = nearest lo hi v := by
  unfold clamp nearest
  split_ifs <;> omega

theorem nearest_iff (hrects : ∀ screen ∈ mScreens, IsX11Rect screen.screen)
    (hmem : screen ∈ mScreens) (p : Int × Int) : Nearest mScreens screen p ↔
      ∀ other ∈ mScreens, screen.rect.pixelDistance p ≤ other.rect.pixelDistance p := by
  have hleast : ∀ other ∈ mScreens,
      IsLeast (distanceSq p '' other.rect.pixels) (other.rect.pixelDistance p) := by
    intro other hother
    have hrect := hrects other hother
    exact Rect.isLeast_pixelDistance (by have := hrect.width; simp only [XcbScreen.rect]; omega)
      (by have := hrect.height; simp only [XcbScreen.rect]; omega) p
  constructor
  · rintro ⟨pixel, hpixel, hmin⟩ other hother
    obtain ⟨pixel', hpixel', heq⟩ := (hleast other hother).1
    calc screen.rect.pixelDistance p ≤ distanceSq p pixel :=
          (hleast screen hmem).2 ⟨pixel, hpixel, rfl⟩
      _ ≤ distanceSq p pixel' := hmin other hother pixel' hpixel'
      _ = other.rect.pixelDistance p := heq
  · intro hmin
    obtain ⟨pixel, hpixel, heq⟩ := (hleast screen hmem).1
    refine ⟨pixel, hpixel, ?_⟩
    intro other hother pixel' hpixel'
    calc distanceSq p pixel = screen.rect.pixelDistance p := heq
      _ ≤ other.rect.pixelDistance p := hmin other hother
      _ ≤ distanceSq p pixel' := (hleast other hother).2 ⟨pixel', hpixel', rfl⟩

/-- What one axis contributes fits. -/
theorem fits_square (delta : Int) (h : -2200000000 ≤ delta) (h' : delta ≤ 2200000000) :
    Fits 64 delta ∧ Fits 64 (delta * delta) := by
  have hsquare : delta * delta ≤ 2200000000 * 2200000000 := by
    rw [← Int.natAbs_mul_self]
    have habs : delta.natAbs ≤ 2200000000 := by omega
    exact_mod_cast Nat.mul_le_mul habs habs
  have hnonneg := mul_self_nonneg delta
  rw [fits_64, fits_64]
  omega

/-- The squares fit, only their sum may not. -/
theorem squaredDistance_eq (h : IsX11Rect screen.screen) (x y : Int32) :
    squaredDistance screen.screen (screen.screen.x + screen.screen.width)
      (screen.screen.y + screen.screen.height) x.toInt y.toInt =
      checked 64 (screen.rect.closedDistance (x.toInt, y.toInt)) := by
  obtain ⟨hinfoX, hinfoY, hwidth, hheight⟩ := h
  have hx := fits_32.mp ⟨x.le_toInt, x.toInt_lt⟩
  have hy := fits_32.mp ⟨y.le_toInt, y.toInt_lt⟩
  have hmemX := nearest_mem screen.screen.x (screen.screen.x + screen.screen.width) x.toInt
    (by omega)
  have hmemY := nearest_mem screen.screen.y (screen.screen.y + screen.screen.height) y.toInt
    (by omega)
  obtain ⟨hdeltaX, hsquareX⟩ := fits_square (x.toInt - nearest screen.screen.x
    (screen.screen.x + screen.screen.width) x.toInt) (by omega) (by omega)
  obtain ⟨hdeltaY, hsquareY⟩ := fits_square (y.toInt - nearest screen.screen.y
    (screen.screen.y + screen.screen.height) y.toInt) (by omega) (by omega)
  rw [squaredDistance, clamp_eq_nearest (by omega), clamp_eq_nearest (by omega)]
  simp only [checked_of_fits hdeltaX, checked_of_fits hdeltaY, checked_of_fits hsquareX,
    checked_of_fits hsquareY, Option.bind_eq_bind, Option.bind_some, Rect.closedDistance,
    distanceSq, XcbScreen.rect, pow_two]

theorem bestScreen_cons (h : IsX11Rect screen.screen) (x y : Int32) (bestDistance : Int) :
    bestScreen x.toInt y.toInt (screen :: rest) best bestDistance =
      if (x.toInt, y.toInt) ∈ screen.rect.pixels then some screen
      else (checked 64 (screen.rect.closedDistance (x.toInt, y.toInt))).bind fun distance =>
        if distance < bestDistance then bestScreen x.toInt y.toInt rest screen distance
        else bestScreen x.toInt y.toInt rest best bestDistance := by
  have hright : Fits 32 (screen.screen.x + screen.screen.width) := by
    have hinfo := h.x
    have hwidth := h.width
    rw [fits_32]
    omega
  have hbottom : Fits 32 (screen.screen.y + screen.screen.height) := by
    have hinfo := h.y
    have hheight := h.height
    rw [fits_32]
    omega
  have hin : (screen.screen.x ≤ x.toInt ∧ screen.screen.y ≤ y.toInt ∧
      x.toInt < screen.screen.x + screen.screen.width ∧
      y.toInt < screen.screen.y + screen.screen.height) ↔
        (x.toInt, y.toInt) ∈ screen.rect.pixels := by
    simp only [Rect.mem_pixels, XcbScreen.rect]
    tauto
  rw [bestScreen]
  simp only [checked_of_fits hright, checked_of_fits hbottom, Option.bind_eq_bind,
    Option.bind_some, squaredDistance_eq h, hin]

/-! ### The loop -/

/-- A point of a monitor is near enough for the arithmetic. -/
theorem fits_closedDistance (h : IsX11Rect screen.screen) {x y : Int}
    (hx : -32768 ≤ x ∧ x ≤ 98302) (hy : -32768 ≤ y ∧ y ≤ 98302) :
    Fits 64 (screen.rect.closedDistance (x, y)) ∧ Fits 32 (x - screen.screen.x) ∧
      Fits 32 (y - screen.screen.y) := by
  obtain ⟨hinfoX, hinfoY, hwidth, hheight⟩ := h
  have hmemX := nearest_mem screen.screen.x (screen.screen.x + screen.screen.width) x (by omega)
  have hmemY := nearest_mem screen.screen.y (screen.screen.y + screen.screen.height) y (by omega)
  have hsquare : ∀ delta : Int, -131071 ≤ delta → delta ≤ 131071 →
      0 ≤ delta ^ 2 ∧ delta ^ 2 ≤ 131071 ^ 2 := fun delta hlower hupper =>
    ⟨sq_nonneg delta, sq_le_sq' hlower hupper⟩
  obtain ⟨hlowerX, hupperX⟩ := hsquare (x - nearest screen.screen.x
    (screen.screen.x + screen.screen.width) x) (by omega) (by omega)
  obtain ⟨hlowerY, hupperY⟩ := hsquare (y - nearest screen.screen.y
    (screen.screen.y + screen.screen.height) y) (by omega) (by omega)
  refine ⟨?_, ?_, ?_⟩
  · simp only [fits_64, Rect.closedDistance, distanceSq, XcbScreen.rect]
    omega
  · rw [fits_32]
    omega
  · rw [fits_32]
    omega

/-- The coordinates of a point of a monitor. -/
theorem bounds_of_mem (h : IsX11Rect screen.screen) {p : Int × Int}
    (hin : p ∈ screen.rect.pixels) :
    (-32768 ≤ p.1 ∧ p.1 ≤ 98302) ∧ -32768 ≤ p.2 ∧ p.2 ≤ 98302 := by
  obtain ⟨hinfoX, hinfoY, hwidth, hheight⟩ := h
  simp only [Rect.mem_pixels, XcbScreen.rect] at hin
  omega

/-- The monitor that contains the point is found, wherever it stands in the list. -/
theorem bestScreen_inside (hrects : ∀ screen ∈ mScreens, IsX11Rect screen.screen)
    (hdisjoint : mScreens.Pairwise fun a b => Disjoint a.rect.pixels b.rect.pixels)
    (hmem : screen ∈ mScreens) (hin : (x.toInt, y.toInt) ∈ screen.rect.pixels)
    (best : XcbScreen) (bestDistance : Int) :
    bestScreen x.toInt y.toInt mScreens best bestDistance = some screen := by
  obtain ⟨hx, hy⟩ := bounds_of_mem (hrects screen hmem) hin
  induction mScreens generalizing best bestDistance with
  | nil => cases hmem
  | cons first rest ih =>
    obtain ⟨hfirst, hrest⟩ := List.forall_mem_cons.mp hrects
    obtain ⟨hapart, hpairwise⟩ := List.pairwise_cons.mp hdisjoint
    rw [bestScreen_cons hfirst]
    rcases List.mem_cons.mp hmem with rfl | hlater
    · exact if_pos hin
    · have hout : (x.toInt, y.toInt) ∉ first.rect.pixels := fun hboth =>
        Set.disjoint_left.mp (hapart screen hlater) hboth hin
      rw [if_neg hout, checked_of_fits (fits_closedDistance hfirst hx hy).1, Option.bind_some]
      split <;> exact ih hrest hpairwise hlater _ _

/-- Outside all monitors the loop leaves the first one that is nearest by its closed rect. -/
theorem bestScreen_outside (hrects : ∀ screen ∈ rest, IsX11Rect screen.screen)
    (hout : ∀ screen ∈ rest, (x.toInt, y.toInt) ∉ screen.rect.pixels) :
    bestScreen x.toInt y.toInt rest best (best.rect.closedDistance (x.toInt, y.toInt)) =
        some screen ↔
      (∀ other ∈ rest, Fits 64 (other.rect.closedDistance (x.toInt, y.toInt))) ∧
        (best :: rest).argmin (fun other => other.rect.closedDistance (x.toInt, y.toInt)) =
          some screen := by
  induction rest generalizing best with
  | nil => simp [bestScreen]
  | cons first rest ih =>
    obtain ⟨hfirst, hrest⟩ := List.forall_mem_cons.mp hrects
    obtain ⟨houtFirst, houtRest⟩ := List.forall_mem_cons.mp hout
    have hargmin : (best :: first :: rest).argmin
        (fun other => other.rect.closedDistance (x.toInt, y.toInt)) =
        if first.rect.closedDistance (x.toInt, y.toInt) <
            best.rect.closedDistance (x.toInt, y.toInt) then
          (first :: rest).argmin fun other => other.rect.closedDistance (x.toInt, y.toInt)
        else (best :: rest).argmin fun other => other.rect.closedDistance (x.toInt, y.toInt) := by
      simp only [List.argmin, List.foldl_cons, List.argAux]
      split <;> rfl
    rw [bestScreen_cons hfirst, if_neg houtFirst, List.forall_mem_cons, hargmin]
    by_cases hfits : Fits 64 (first.rect.closedDistance (x.toInt, y.toInt))
    · rw [checked_of_fits hfits, Option.bind_some]
      split
      · rw [ih hrest houtRest]
        tauto
      · rw [ih hrest houtRest]
        tauto
    · rw [checked_eq_none.mpr hfits]
      simp [hfits]

/-! ### The lookup -/

/-- Outside all monitors no squared distance overflows, and the first nearest of the closed
rects has a nearest pixel, and its origin within reach. -/
def EdgesAgree (mScreens : List XcbScreen) (x y : Int) : Prop :=
  (∀ screen ∈ mScreens, Fits 64 (screen.rect.closedDistance (x, y))) ∧
    ∀ screen, mScreens.argmin (fun other => other.rect.closedDistance (x, y)) = some screen →
      (∀ other ∈ mScreens, screen.rect.pixelDistance (x, y) ≤ other.rect.pixelDistance (x, y)) ∧
        Fits 32 (x - screen.screen.x) ∧ Fits 32 (y - screen.screen.y)

/-- The point is looked up as the monitor that contains it or else as a nearest one, relative
to its origin, and comes back from there. -/
def LooksUp (mScreens : List XcbScreen) (x y : Int32) : Prop :=
  ∃ screen ∈ mScreens,
    globalToScreen mScreens x y =
      some (screen.index, x.toInt - screen.screen.x, y.toInt - screen.screen.y) ∧
    ((x.toInt, y.toInt) ∈ screen.rect.pixels ∨
      (∀ other ∈ mScreens, (x.toInt, y.toInt) ∉ other.rect.pixels) ∧
        Nearest mScreens screen (x.toInt, y.toInt)) ∧
    localToGlobal mScreens screen.index (x.toInt - screen.screen.x)
      (y.toInt - screen.screen.y) = some (some (x.toInt, y.toInt))

namespace Monitors

variable {monitors : Monitors}

theorem globalToScreen_inside (hmem : screen ∈ monitors.mScreens)
    (hin : (x.toInt, y.toInt) ∈ screen.rect.pixels) :
    globalToScreen monitors.mScreens x y =
      some (screen.index, x.toInt - screen.screen.x, y.toInt - screen.screen.y) := by
  have hrect := monitors.isX11Rect screen hmem
  obtain ⟨hx, hy⟩ := bounds_of_mem hrect hin
  obtain ⟨_, hlocalX, hlocalY⟩ := fits_closedDistance hrect hx hy
  unfold globalToScreen
  split
  · next heq => exact absurd heq monitors.ne_nil
  · next front rest heq =>
    have hloop := bestScreen_inside monitors.isX11Rect monitors.disjoint hmem hin front
      9223372036854775807
    rw [heq] at hloop
    simp [hloop, checked_of_fits hlocalX, checked_of_fits hlocalY]

theorem globalToScreen_outside
    (hout : ∀ screen ∈ monitors.mScreens, (x.toInt, y.toInt) ∉ screen.rect.pixels)
    (found : Nat × Int × Int) :
    globalToScreen monitors.mScreens x y = some found ↔
      (∀ screen ∈ monitors.mScreens, Fits 64 (screen.rect.closedDistance (x.toInt, y.toInt))) ∧
        ∃ screen, monitors.mScreens.argmin
            (fun other => other.rect.closedDistance (x.toInt, y.toInt)) = some screen ∧
          Fits 32 (x.toInt - screen.screen.x) ∧ Fits 32 (y.toInt - screen.screen.y) ∧
          (screen.index, x.toInt - screen.screen.x, y.toInt - screen.screen.y) = found := by
  have hrects := monitors.isX11Rect
  unfold globalToScreen
  split
  · next heq => exact absurd heq monitors.ne_nil
  · next front rest heq =>
    rw [heq] at hout hrects ⊢
    obtain ⟨hfront, hrest⟩ := List.forall_mem_cons.mp hrects
    obtain ⟨houtFront, houtRest⟩ := List.forall_mem_cons.mp hout
    -- the first turn leaves the first monitor with its own distance
    have hfirst : bestScreen x.toInt y.toInt (front :: rest) front 9223372036854775807 =
        (checked 64 (front.rect.closedDistance (x.toInt, y.toInt))).bind fun distance =>
          bestScreen x.toInt y.toInt rest front distance := by
      rw [bestScreen_cons hfront, if_neg houtFront]
      by_cases hfits : Fits 64 (front.rect.closedDistance (x.toInt, y.toInt))
      · rw [checked_of_fits hfits, Option.bind_some, Option.bind_some]
        split
        · rfl
        · have hmax : front.rect.closedDistance (x.toInt, y.toInt) = 9223372036854775807 := by
            rw [fits_64] at hfits
            omega
          rw [hmax]
      · rw [checked_eq_none.mpr hfits, Option.bind_none, Option.bind_none]
    simp only [hfirst, List.forall_mem_cons, Option.bind_eq_bind, Option.bind_eq_some_iff,
      checked_eq_some, Option.pure_def, Option.some.injEq]
    constructor
    · rintro ⟨screen, ⟨_, ⟨hfits, rfl⟩, hloop⟩, _, ⟨hlocalX, rfl⟩, _, ⟨hlocalY, rfl⟩, rfl⟩
      obtain ⟨hall, hargmin⟩ := (bestScreen_outside hrest houtRest).mp hloop
      exact ⟨⟨hfits, hall⟩, screen, hargmin, hlocalX, hlocalY, rfl⟩
    · rintro ⟨⟨hfits, hall⟩, screen, hargmin, hlocalX, hlocalY, rfl⟩
      exact ⟨screen, ⟨_, ⟨hfits, rfl⟩, (bestScreen_outside hrest houtRest).mpr ⟨hall, hargmin⟩⟩,
        _, ⟨hlocalX, rfl⟩, _, ⟨hlocalY, rfl⟩, rfl⟩

/-- The index tells the monitors apart. -/
theorem eq_of_index_eq {other : XcbScreen} (hmem : screen ∈ monitors.mScreens)
    (hother : other ∈ monitors.mScreens) (h : screen.index = other.index) : screen = other := by
  obtain ⟨index, hindex⟩ := List.mem_iff_getElem?.mp hmem
  obtain ⟨index', hindex'⟩ := List.mem_iff_getElem?.mp hother
  rw [monitors.index_eq index screen hindex, monitors.index_eq index' other hindex'] at h
  subst h
  exact Option.some.inj (hindex.symm.trans hindex')

/-- A local point comes back as the point that it was made from. -/
theorem localToGlobal_sub (hmem : screen ∈ monitors.mScreens) (x y : Int32) :
    localToGlobal monitors.mScreens screen.index (x.toInt - screen.screen.x)
      (y.toInt - screen.screen.y) = some (some (x.toInt, y.toInt)) := by
  obtain ⟨index, hindex⟩ := List.mem_iff_getElem?.mp hmem
  obtain rfl := monitors.index_eq index screen hindex
  have hx : Fits 32 x.toInt := ⟨x.le_toInt, x.toInt_lt⟩
  have hy : Fits 32 y.toInt := ⟨y.le_toInt, y.toInt_lt⟩
  simp [localToGlobal, hindex, checked_of_fits hx, checked_of_fits hy]

/-- The lookup is right for the points of the monitors, and for those in between exactly where
the closed rects and their pixels agree about the nearest one. -/
theorem looksUp_iff_edgesAgree (monitors : Monitors) (x y : Int32) :
    LooksUp monitors.mScreens x y ↔
      (∃ screen ∈ monitors.mScreens, (x.toInt, y.toInt) ∈ screen.rect.pixels) ∨
        EdgesAgree monitors.mScreens x.toInt y.toInt := by
  by_cases hin : ∃ screen ∈ monitors.mScreens, (x.toInt, y.toInt) ∈ screen.rect.pixels
  · obtain ⟨screen, hmem, hpixel⟩ := hin
    have hlooksUp : LooksUp monitors.mScreens x y :=
      ⟨screen, hmem, globalToScreen_inside hmem hpixel, .inl hpixel, localToGlobal_sub hmem x y⟩
    exact ⟨fun _ => .inl ⟨screen, hmem, hpixel⟩, fun _ => hlooksUp⟩
  · have hout : ∀ screen ∈ monitors.mScreens, (x.toInt, y.toInt) ∉ screen.rect.pixels :=
      fun screen hmem hpixel => hin ⟨screen, hmem, hpixel⟩
    rw [or_iff_right hin]
    constructor
    · rintro ⟨screen, hmem, hfound, hplace, _⟩
      obtain ⟨hall, best, hargmin, hlocalX, hlocalY, heq⟩ :=
        (globalToScreen_outside hout _).mp hfound
      obtain rfl := monitors.eq_of_index_eq (List.argmin_mem hargmin) hmem (congrArg Prod.fst heq)
      obtain ⟨_, hnearest⟩ := hplace.resolve_left (hout best hmem)
      refine ⟨hall, fun screen hscreen => ?_⟩
      obtain rfl := Option.some.inj (hargmin.symm.trans hscreen)
      exact ⟨(nearest_iff monitors.isX11Rect hmem _).mp hnearest, hlocalX, hlocalY⟩
    · rintro ⟨hall, hagree⟩
      obtain ⟨screen, hargmin⟩ := Option.ne_none_iff_exists'.mp
        (mt (List.argmin_eq_none (f := fun other : XcbScreen =>
          other.rect.closedDistance (x.toInt, y.toInt))).mp monitors.ne_nil)
      obtain ⟨hmin, hlocalX, hlocalY⟩ := hagree screen hargmin
      have hmem := List.argmin_mem hargmin
      exact ⟨screen, hmem,
        (globalToScreen_outside hout _).mpr ⟨hall, screen, hargmin, hlocalX, hlocalY, rfl⟩,
        .inr ⟨hout, (nearest_iff monitors.isX11Rect hmem _).mpr hmin⟩, localToGlobal_sub hmem x y⟩

end Monitors

/-- Two monitors with a gap of ten pixels. -/
def gapMonitors : Monitors where
  mScreens := [⟨0, { x := 0, y := 0, width := 100, height := 100 }⟩,
    ⟨1, { x := 110, y := 0, width := 100, height := 100 }⟩]
  ne_nil := by simp
  isX11Rect := by
    simp only [List.forall_mem_cons, List.not_mem_nil, false_implies, implies_true, and_true]
    constructor <;> constructor <;> decide
  index_eq := by
    intro index screen h
    match index with
    | 0 | 1 => simp at h; rw [← h]
    | n + 2 => simp at h
  disjoint := by
    simp only [List.pairwise_cons, List.mem_singleton, forall_eq, List.not_mem_nil, false_implies,
      implies_true, List.Pairwise.nil, and_true, Set.disjoint_left, Rect.mem_pixels, XcbScreen.rect]
    omega

/-- The point between them is six pixels from the first one and five from the second, but the
closed rects are five away both. -/
theorem globalToScreen_gap : ¬ LooksUp gapMonitors.mScreens 105 50 := by
  rintro ⟨screen, hmem, hfound, hplace, _⟩
  have hfirst : globalToScreen gapMonitors.mScreens 105 50 = some (0, 105, 50) := by decide
  rw [hfirst] at hfound
  simp only [gapMonitors, List.mem_cons, List.not_mem_nil, or_false] at hmem
  rcases hmem with rfl | rfl
  · rcases hplace with hin | ⟨_, pixel, hpixel, hnearest⟩
    · revert hin
      decide
    · have hsecond := hnearest ⟨1, { x := 110, y := 0, width := 100, height := 100 }⟩
        (by simp [gapMonitors]) (110, 50) (by decide)
      have hedge : pixel.1 < 0 + 100 := hpixel.2.1
      have hpoint : (105 : Int32).toInt = 105 ∧ (50 : Int32).toInt = 50 := by decide
      simp only [distanceSq, hpoint] at hsecond
      nlinarith [sq_nonneg (50 - pixel.2)]
  · simp at hfound

end XcbPlatform
end Mksync
