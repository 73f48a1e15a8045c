import Mksync.InputEvents
import Mksync.ScreenTopology
import Mksync.CheckedIntegers
import Mksync.NearestInteger
import Mksync.PixelRects
import Mathlib.Order.CompletePartialOrder

/-!
# Absolute positions on Wayland

The injector hands the compositor a position in the box around all outputs, as unsigned
32-bit coordinates together with the size of the box. The arithmetic is checked here: a
computation that leaves the type the source computes in has no value.
-/
namespace Mksync
namespace WaylandPlatform

open CheckedIntegers

/-! ### The outputs as screens -/

def WL_OUTPUT_TRANSFORM_90 : Int32 := 1
def WL_OUTPUT_TRANSFORM_270 : Int32 := 3
def WL_OUTPUT_TRANSFORM_FLIPPED_90 : Int32 := 5
def WL_OUTPUT_TRANSFORM_FLIPPED_270 : Int32 := 7

/-- What the compositor announced of an output. -/
structure Output where
  fallbackX : Int32 := 0
  fallbackY : Int32 := 0
  physicalWidthMm : Int32 := 0
  modeWidth : Int32 := 0
  modeHeight : Int32 := 0
  scale : Int32 := 1
  transform : Int32 := 0
  logicalX : Int32 := 0
  logicalY : Int32 := 0
  logicalWidth : Int32 := 0
  logicalHeight : Int32 := 0
  hasLogicalPosition : Bool := false
  hasLogicalSize : Bool := false
  make : String := ""
  model : String := ""
  name : String := ""
  deriving DecidableEq

def Output.rotated (output : Output) : Bool :=
  output.transform = WL_OUTPUT_TRANSFORM_90 || output.transform = WL_OUTPUT_TRANSFORM_270 ||
    output.transform = WL_OUTPUT_TRANSFORM_FLIPPED_90 ||
    output.transform = WL_OUTPUT_TRANSFORM_FLIPPED_270

/-- The logical size, or the mode as it is rotated and scaled. -/
def Output.size (output : Output) : Int × Int :=
  if output.hasLogicalSize then (output.logicalWidth.toInt, output.logicalHeight.toInt)
  else
    let width := if output.rotated then output.modeHeight else output.modeWidth
    let height := if output.rotated then output.modeWidth else output.modeHeight
    let scale := max 1 output.scale.toInt
    (width.toInt.tdiv scale, height.toInt.tdiv scale)

def Output.screenName (output : Output) (index : Nat) : String :=
  if output.name ≠ "" then output.name
  else
    let name :=
      if output.model = "" then output.make
      else if output.make = "" then output.model
      else output.make ++ " " ++ output.model
    if name = "" then s!"wayland-output-{index}" else name

/-- The resolution, which is only shown. The code divides doubles, this exact rationals: they
round differently where the quotient is a half, as for 5130 pixels on 108 mm. -/
def Output.dpi (output : Output) : Int :=
  if 0 < output.physicalWidthMm ∧ 0 < output.modeWidth then
    (NearestInteger.lround
      (output.modeWidth.toInt * (254 / 10) / output.physicalWidthMm.toInt)).bmod (2 ^ 32)
  else 72

def screenInfo (output : Output) (index : Nat) : ScreenInfo where
  x := if output.hasLogicalPosition then output.logicalX.toInt else output.fallbackX.toInt
  y := if output.hasLogicalPosition then output.logicalY.toInt else output.fallbackY.toInt
  width := max 1 output.size.1
  height := max 1 output.size.2
  dpi := output.dpi
  name := output.screenName index
  primary := index == 0

def screens (mOutputs : List Output) : List ScreenInfo :=
  mOutputs.zipIdx.map fun (output, index) => screenInfo output index

/-- An `int32` rect that has a pixel. -/
structure IsRect (screen : ScreenInfo) : Prop where
  x : Fits 32 screen.x
  y : Fits 32 screen.y
  width_pos : 1 ≤ screen.width
  width : Fits 32 screen.width
  height_pos : 1 ≤ screen.height
  height : Fits 32 screen.height

theorem fits_toInt (v : Int32) : Fits 32 v.toInt := ⟨v.le_toInt, v.toInt_lt⟩

/-- A division by a positive scale does not leave the range. -/
theorem fits_tdiv (v : Int32) {scale : Int} (h : 1 ≤ scale) : Fits 32 (v.toInt.tdiv scale) := by
  have hv := fits_32.mp (fits_toInt v)
  have habs := Int.natAbs_tdiv_le_natAbs v.toInt scale
  rw [fits_32]
  rcases Int.lt_or_le v.toInt 0 with hneg | hpos
  · have hflip : 0 ≤ (-v.toInt).tdiv scale := Int.tdiv_nonneg (by omega) (by omega)
    rw [Int.neg_tdiv] at hflip
    omega
  · omega

theorem fits_size (output : Output) : Fits 32 output.size.1 ∧ Fits 32 output.size.2 := by
  unfold Output.size
  split_ifs
  · exact ⟨fits_toInt _, fits_toInt _⟩
  all_goals exact ⟨fits_tdiv _ (le_max_left _ _), fits_tdiv _ (le_max_left _ _)⟩

theorem isRect_screenInfo (output : Output) (index : Nat) : IsRect (screenInfo output index) := by
  obtain ⟨hwidth, hheight⟩ := fits_size output
  rw [fits_32] at hwidth hheight
  refine ⟨?_, ?_, le_max_left _ _, ?_, le_max_left _ _, ?_⟩
  · unfold screenInfo
    split <;> exact fits_toInt _
  · unfold screenInfo
    split <;> exact fits_toInt _
  · simp only [screenInfo, fits_32]
    omega
  · simp only [screenInfo, fits_32]
    omega

theorem isRect_of_mem {mOutputs : List Output} {screen : ScreenInfo}
    (h : screen ∈ screens mOutputs) : IsRect screen := by
  obtain ⟨⟨output, index⟩, _, rfl⟩ := List.mem_map.mp h
  exact isRect_screenInfo output index

/-! ### The position in the box -/

structure AbsolutePosition where
  x : Int := 0
  y : Int := 0
  width : Int := 1
  height : Int := 1
  deriving DecidableEq, Repr

def UINT32_MAX : Int := 4294967295

/-- `static_cast<uint32_t>`. -/
def toUInt32 (v : Int) : Int := v % 4294967296

/-- The accumulators of the loop over the screens. -/
structure Bounds where
  minX : Int := 2147483647
  minY : Int := 2147483647
  maxX : Int := -2147483648
  maxY : Int := -2147483648

def Bounds.cover (bounds : Bounds) (screen : ScreenInfo) : Option Bounds := do
  let right ← checked 64 (screen.x + screen.width)
  let bottom ← checked 64 (screen.y + screen.height)
  return {
    minX := min bounds.minX screen.x
    minY := min bounds.minY screen.y
    maxX := max bounds.maxX right
    maxY := max bounds.maxY bottom }

/-- One axis of the position: the coordinate in the box, and the length of the box. -/
def axisPosition (origin size minimum maximum coordinate : Int) : Option (Int × Int) := do
  let last ← checked 32 (size - 1)
  let inside := clamp coordinate 0 (max 0 last)
  let position ← checked 64 (origin + inside)
  let global ← checked 64 (position - minimum)
  let extent ← checked 64 (maximum - minimum)
  let length := clamp extent 1 UINT32_MAX
  let lastPosition ← checked 64 (length - 1)
  return (toUInt32 (clamp global 0 lastPosition), toUInt32 length)

/-- `none` where the arithmetic overflows, inside it `std::nullopt` for an index without a
screen. -/
def absolutePosition (mOutputs : List Output) (screenIndex : Nat) (x y : Int32) :
    Option (Option AbsolutePosition) :=
  let allScreens := screens mOutputs
  match allScreens[screenIndex]? with
  | none => some none
  | some screen => do
    let bounds ← allScreens.foldlM Bounds.cover {}
    let (globalX, width) ←
      axisPosition screen.x screen.width bounds.minX bounds.maxX x.toInt
    let (globalY, height) ←
      axisPosition screen.y screen.height bounds.minY bounds.maxY y.toInt
    return some { x := globalX, y := globalY, width, height }

/-! ### The bounding box -/

/-- The values of a coordinate over the screens. -/
def values (coordinate : ScreenInfo → Int) (screens : List ScreenInfo) : Set Int :=
  {v | ∃ screen ∈ screens, coordinate screen = v}

/-- The least box around the screens. -/
structure IsBoundingBox (screens : List ScreenInfo) (box : Bounds) : Prop where
  minX : IsLeast (values (·.x) screens) box.minX
  minY : IsLeast (values (·.y) screens) box.minY
  maxX : IsGreatest (values (fun screen => screen.x + screen.width) screens) box.maxX
  maxY : IsGreatest (values (fun screen => screen.y + screen.height) screens) box.maxY

/-- The box has unsigned 32-bit lengths. -/
def Bounds.FitsUInt32 (box : Bounds) : Prop :=
  box.maxX - box.minX ≤ UINT32_MAX ∧ box.maxY - box.minY ≤ UINT32_MAX

section Fold

/-- A minimum folded in is as good as the two values. -/
theorem isLeast_insert_min {α : Type} [LinearOrder α] {first second least : α} {rest : Set α}
    (h : IsLeast (insert (min first second) rest) least) :
    IsLeast (insert first (insert second rest)) least := by
  obtain ⟨hmem, hbound⟩ := h
  simp only [lowerBounds_insert, Set.mem_inter_iff, Set.mem_Iic, le_min_iff] at hbound
  obtain ⟨⟨hfirst, hsecond⟩, hrest⟩ := hbound
  refine ⟨?_, by simpa using ⟨hfirst, hsecond, hrest⟩⟩
  rcases hmem with rfl | hmem
  · rcases min_choice first second with heq | heq <;> rw [heq]
    · exact .inl rfl
    · exact .inr (.inl rfl)
  · exact .inr (.inr hmem)

theorem isGreatest_insert_max {α : Type} [LinearOrder α] {first second greatest : α}
    {rest : Set α} (h : IsGreatest (insert (max first second) rest) greatest) :
    IsGreatest (insert first (insert second rest)) greatest :=
  isLeast_insert_min (α := αᵒᵈ) h

/-- A start value that is no better than any of the values drops out. -/
theorem isLeast_of_insert {α : Type} [LinearOrder α] {first least : α} {rest : Set α}
    (h : IsLeast (insert first rest) least) (hne : rest.Nonempty)
    (hfirst : ∀ v ∈ rest, v ≤ first) : IsLeast rest least := by
  obtain ⟨hmem, hbound⟩ := h
  refine ⟨?_, fun v hv => hbound (.inr hv)⟩
  rcases hmem with rfl | hmem
  · obtain ⟨v, hv⟩ := hne
    rwa [le_antisymm (hbound (.inr hv)) (hfirst v hv)]
  · exact hmem

theorem isGreatest_of_insert {α : Type} [LinearOrder α] {first greatest : α} {rest : Set α}
    (h : IsGreatest (insert first rest) greatest) (hne : rest.Nonempty)
    (hfirst : ∀ v ∈ rest, first ≤ v) : IsGreatest rest greatest :=
  isLeast_of_insert (α := αᵒᵈ) h hne hfirst

theorem values_cons {coordinate : ScreenInfo → Int} {screen : ScreenInfo}
    {rest : List ScreenInfo} : values coordinate (screen :: rest) =
      insert (coordinate screen) (values coordinate rest) := by
  ext v
  simp [values, eq_comm]

end Fold

variable {allScreens : List ScreenInfo} {screen : ScreenInfo} {bounds box : Bounds}

theorem cover_eq_some (h : IsRect screen) : bounds.cover screen = some
    { minX := min bounds.minX screen.x
      minY := min bounds.minY screen.y
      maxX := max bounds.maxX (screen.x + screen.width)
      maxY := max bounds.maxY (screen.y + screen.height) } := by
  have hx := fits_32.mp h.x
  have hy := fits_32.mp h.y
  have hwidth := fits_32.mp h.width
  have hheight := fits_32.mp h.height
  have hright : Fits 64 (screen.x + screen.width) := by
    rw [fits_64]
    omega
  have hbottom : Fits 64 (screen.y + screen.height) := by
    rw [fits_64]
    omega
  simp [Bounds.cover, checked_of_fits hright, checked_of_fits hbottom]

/-- The loop does not overflow, and leaves the box around the start values and the screens. -/
theorem foldlM_cover (bounds : Bounds) (h : ∀ screen ∈ allScreens, IsRect screen) :
    ∃ box, allScreens.foldlM Bounds.cover bounds = some box ∧
      IsLeast (insert bounds.minX (values (·.x) allScreens)) box.minX ∧
      IsLeast (insert bounds.minY (values (·.y) allScreens)) box.minY ∧
      IsGreatest (insert bounds.maxX
        (values (fun screen => screen.x + screen.width) allScreens)) box.maxX ∧
      IsGreatest (insert bounds.maxY
        (values (fun screen => screen.y + screen.height) allScreens)) box.maxY := by
  induction allScreens generalizing bounds with
  | nil => exact ⟨bounds, rfl, by simp [values], by simp [values], by simp [values],
      by simp [values]⟩
  | cons screen rest ih =>
    obtain ⟨hscreen, hrest⟩ := List.forall_mem_cons.mp h
    obtain ⟨box, hloop, hminX, hminY, hmaxX, hmaxY⟩ := ih _ hrest
    refine ⟨box, ?_, ?_, ?_, ?_, ?_⟩
    · rw [List.foldlM_cons, cover_eq_some hscreen]
      exact hloop
    · rw [values_cons]
      exact isLeast_insert_min hminX
    · rw [values_cons]
      exact isLeast_insert_min hminY
    · rw [values_cons]
      exact isGreatest_insert_max hmaxX
    · rw [values_cons]
      exact isGreatest_insert_max hmaxY

theorem foldlM_isBoundingBox (hne : allScreens ≠ []) (h : ∀ screen ∈ allScreens, IsRect screen) :
    ∃ box, allScreens.foldlM Bounds.cover {} = some box ∧ IsBoundingBox allScreens box := by
  obtain ⟨box, hloop, hminX, hminY, hmaxX, hmaxY⟩ := foldlM_cover {} h
  obtain ⟨first, hfirst⟩ := List.exists_mem_of_ne_nil allScreens hne
  have hvalues : ∀ coordinate, (values coordinate allScreens).Nonempty :=
    fun coordinate => ⟨_, first, hfirst, rfl⟩
  refine ⟨box, hloop, isLeast_of_insert hminX (hvalues _) ?_,
    isLeast_of_insert hminY (hvalues _) ?_, isGreatest_of_insert hmaxX (hvalues _) ?_,
    isGreatest_of_insert hmaxY (hvalues _) ?_⟩
  all_goals
    rintro v ⟨screen, hscreen, rfl⟩
    obtain ⟨hx, hy, hwidthPos, hwidth, hheightPos, hheight⟩ := h screen hscreen
    rw [fits_32] at hx hy hwidth hheight
    simp only
    omega

namespace IsBoundingBox

theorem contains (h : IsBoundingBox allScreens box) (hscreen : screen ∈ allScreens) :
    box.minX ≤ screen.x ∧ screen.x + screen.width ≤ box.maxX ∧ box.minY ≤ screen.y ∧
      screen.y + screen.height ≤ box.maxY :=
  ⟨h.minX.2 ⟨screen, hscreen, rfl⟩, h.maxX.2 ⟨screen, hscreen, rfl⟩,
    h.minY.2 ⟨screen, hscreen, rfl⟩, h.maxY.2 ⟨screen, hscreen, rfl⟩⟩

/-- Each side is a side of one of the screens. -/
theorem sides (h : IsBoundingBox allScreens box) (hrects : ∀ screen ∈ allScreens, IsRect screen) :
    Fits 32 box.minX ∧ box.maxX ≤ 2 ^ 32 ∧ Fits 32 box.minY ∧ box.maxY ≤ 2 ^ 32 := by
  obtain ⟨left, hleft, hminX⟩ := h.minX.1
  obtain ⟨right, hright, hmaxX⟩ := h.maxX.1
  obtain ⟨top, htop, hminY⟩ := h.minY.1
  obtain ⟨bottom, hbottom, hmaxY⟩ := h.maxY.1
  rw [← hminX, ← hmaxX, ← hminY, ← hmaxY]
  have hx := fits_32.mp (hrects right hright).x
  have hwidth := fits_32.mp (hrects right hright).width
  have hy := fits_32.mp (hrects bottom hbottom).y
  have hheight := fits_32.mp (hrects bottom hbottom).height
  refine ⟨(hrects left hleft).x, ?_, (hrects top htop).y, ?_⟩ <;> simp only <;> omega

end IsBoundingBox

/-! ### What the compositor receives -/

theorem clamp_inside (coordinate : Int) {size : Int} (h : 1 ≤ size) :
    0 ≤ clamp coordinate 0 (size - 1) ∧ clamp coordinate 0 (size - 1) ≤ size - 1 :=
  clamp_mem (by omega)

/-- One axis inside any box that the loop can leave: no overflow, a position inside the box,
and the exact one unless the box is too long. -/
theorem axisPosition_spec {origin size minimum maximum : Int} (coordinate : Int)
    (horigin : Fits 32 origin) (hpos : 1 ≤ size) (hsize : Fits 32 size)
    (hminimum : Fits 32 minimum) (hle : minimum ≤ origin) (hge : origin + size ≤ maximum)
    (hmaximum : maximum ≤ 2 ^ 32) :
    axisPosition origin size minimum maximum coordinate = some
      (min (origin + clamp coordinate 0 (size - 1) - minimum)
        (min (maximum - minimum) UINT32_MAX - 1), min (maximum - minimum) UINT32_MAX) := by
  have hinside := clamp_inside coordinate hpos
  rw [fits_32] at horigin hsize hminimum
  have hlast : Fits 32 (size - 1) := by
    rw [fits_32]
    omega
  have hmax : max 0 (size - 1) = size - 1 := by omega
  have hposition : Fits 64 (origin + clamp coordinate 0 (size - 1)) := by
    rw [fits_64]
    omega
  have hglobal : Fits 64 (origin + clamp coordinate 0 (size - 1) - minimum) := by
    rw [fits_64]
    omega
  have hextent : Fits 64 (maximum - minimum) := by
    rw [fits_64]
    omega
  have hlength : clamp (maximum - minimum) 1 UINT32_MAX = min (maximum - minimum) UINT32_MAX := by
    unfold clamp UINT32_MAX
    split_ifs <;> omega
  have hlastPosition : Fits 64 (min (maximum - minimum) UINT32_MAX - 1) := by
    rw [fits_64, UINT32_MAX]
    omega
  have hclamped : clamp (origin + clamp coordinate 0 (size - 1) - minimum) 0
      (min (maximum - minimum) UINT32_MAX - 1) =
        min (origin + clamp coordinate 0 (size - 1) - minimum)
          (min (maximum - minimum) UINT32_MAX - 1) := by
    unfold UINT32_MAX
    rw [clamp]
    split_ifs <;> omega
  simp only [axisPosition, checked_of_fits hlast, hmax, checked_of_fits hposition,
    checked_of_fits hglobal, checked_of_fits hextent, hlength, checked_of_fits hlastPosition,
    hclamped, Option.bind_eq_bind, Option.bind_some, Option.pure_def, Option.some.injEq,
    Prod.mk.injEq]
  unfold toUInt32 UINT32_MAX
  omega

/-- Where a screen lies on the desktop. -/
def rectOf (screen : ScreenInfo) : PixelRects.Rect :=
  ⟨screen.x, screen.y, screen.width, screen.height⟩

/-- The position is a pixel of a box with unsigned 32-bit lengths. -/
structure AbsolutePosition.InBox (position : AbsolutePosition) : Prop where
  x : 0 ≤ position.x ∧ position.x < position.width
  y : 0 ≤ position.y ∧ position.y < position.height
  width : position.width ≤ UINT32_MAX
  height : position.height ≤ UINT32_MAX

/-- The position of a point of the screen in the box, the point clamped into the screen. -/
def exactPosition (box : Bounds) (screen : ScreenInfo) (x y : Int) : AbsolutePosition where
  x := screen.x + clamp x 0 (screen.width - 1) - box.minX
  y := screen.y + clamp y 0 (screen.height - 1) - box.minY
  width := box.maxX - box.minX
  height := box.maxY - box.minY

/-- The position cut to unsigned 32-bit lengths. -/
def AbsolutePosition.cut (position : AbsolutePosition) : AbsolutePosition where
  x := min position.x (min position.width UINT32_MAX - 1)
  y := min position.y (min position.height UINT32_MAX - 1)
  width := min position.width UINT32_MAX
  height := min position.height UINT32_MAX

theorem exactPosition_of_mem {x y : Int}
    (h : (screen.x + x, screen.y + y) ∈ (rectOf screen).pixels) :
    exactPosition box screen x y =
      ⟨screen.x + x - box.minX, screen.y + y - box.minY, box.maxX - box.minX,
        box.maxY - box.minY⟩ := by
  simp only [PixelRects.Rect.mem_pixels, rectOf] at h
  have hx : clamp x 0 (screen.width - 1) = x := by
    unfold clamp
    split_ifs <;> omega
  have hy : clamp y 0 (screen.height - 1) = y := by
    unfold clamp
    split_ifs <;> omega
  rw [exactPosition, hx, hy]

/-- The exact position lies in the box. -/
theorem exactPosition_mem (hbox : IsBoundingBox allScreens box) (hmem : screen ∈ allScreens)
    (hrect : IsRect screen) (x y : Int) :
    (0 ≤ (exactPosition box screen x y).x ∧
        (exactPosition box screen x y).x < (exactPosition box screen x y).width) ∧
      0 ≤ (exactPosition box screen x y).y ∧
        (exactPosition box screen x y).y < (exactPosition box screen x y).height := by
  obtain ⟨hminX, hmaxX, hminY, hmaxY⟩ := hbox.contains hmem
  have hwidth := hrect.width_pos
  have hheight := hrect.height_pos
  have hclampX := clamp_inside x hwidth
  have hclampY := clamp_inside y hheight
  simp only [exactPosition]
  omega

/-- The position of a valid index is the exact one, cut. -/
theorem absolutePosition_eq {mOutputs : List Output} {screenIndex : Nat} {screen : ScreenInfo}
    (hloop : (screens mOutputs).foldlM Bounds.cover {} = some box)
    (hbox : IsBoundingBox (screens mOutputs) box)
    (hscreen : (screens mOutputs)[screenIndex]? = some screen) (x y : Int32) :
    absolutePosition mOutputs screenIndex x y =
      some (some (exactPosition box screen x.toInt y.toInt).cut) := by
  have hmem := List.mem_of_getElem? hscreen
  have hrect := isRect_of_mem hmem
  obtain ⟨hminX, hmaxX, hminY, hmaxY⟩ := hbox.contains hmem
  obtain ⟨hleft, hright, htop, hbottom⟩ := hbox.sides fun _ => isRect_of_mem
  have haxisX := axisPosition_spec x.toInt hrect.x hrect.width_pos hrect.width hleft hminX hmaxX
    hright
  have haxisY := axisPosition_spec y.toInt hrect.y hrect.height_pos hrect.height htop hminY hmaxY
    hbottom
  simp only [absolutePosition, hscreen, hloop, Option.bind_eq_bind, Option.bind_some, haxisX,
    haxisY, Option.pure_def, AbsolutePosition.cut, exactPosition]

/-- A cut position is a pixel of an unsigned 32-bit box, and the position itself where the
bounding box is one. -/
theorem absolutePosition_spec {mOutputs : List Output} {screenIndex : Nat} {screen : ScreenInfo}
    (hloop : (screens mOutputs).foldlM Bounds.cover {} = some box)
    (hbox : IsBoundingBox (screens mOutputs) box)
    (hscreen : (screens mOutputs)[screenIndex]? = some screen) (x y : Int32) :
    ∃ position, absolutePosition mOutputs screenIndex x y = some (some position) ∧
      position.InBox ∧
      (box.FitsUInt32 → position = exactPosition box screen x.toInt y.toInt) := by
  have hmem := List.mem_of_getElem? hscreen
  obtain ⟨hx, hy⟩ := exactPosition_mem hbox hmem (isRect_of_mem hmem) x.toInt y.toInt
  refine ⟨_, absolutePosition_eq hloop hbox hscreen x y, ?_, ?_⟩
  · constructor <;> simp only [AbsolutePosition.cut, UINT32_MAX] <;> omega
  · rintro ⟨hfitsX, hfitsY⟩
    have hwidth : min (box.maxX - box.minX) UINT32_MAX = box.maxX - box.minX := min_eq_left hfitsX
    have hheight : min (box.maxY - box.minY) UINT32_MAX = box.maxY - box.minY := min_eq_left hfitsY
    simp only [exactPosition] at hx hy
    simp only [AbsolutePosition.cut, exactPosition, hwidth, hheight, AbsolutePosition.mk.injEq,
      and_true]
    omega

/-- On any desktop the position is computed without overflow, and is a pixel of an unsigned
32-bit box. Where the bounding box of the outputs has unsigned 32-bit lengths, it is that box
and the exact position in it, so that the pixels of disjoint outputs stay apart. -/
theorem absolute_injection_exact (mOutputs : List Output) (hne : mOutputs ≠ []) :
    ∃ box, IsBoundingBox (screens mOutputs) box ∧
      (∀ screenIndex screen, (screens mOutputs)[screenIndex]? = some screen → ∀ x y : Int32,
        ∃ position, absolutePosition mOutputs screenIndex x y = some (some position) ∧
          position.InBox ∧
          (box.FitsUInt32 → position = exactPosition box screen x.toInt y.toInt)) ∧
      (box.FitsUInt32 → ∀ index index' screen screen',
        (screens mOutputs)[index]? = some screen → (screens mOutputs)[index']? = some screen' →
        Disjoint (rectOf screen).pixels (rectOf screen').pixels → ∀ x y x' y' : Int32,
        (screen.x + x.toInt, screen.y + y.toInt) ∈ (rectOf screen).pixels →
        (screen'.x + x'.toInt, screen'.y + y'.toInt) ∈ (rectOf screen').pixels →
        absolutePosition mOutputs index x y ≠ absolutePosition mOutputs index' x' y') := by
  have hscreens : screens mOutputs ≠ [] := by
    simpa [screens] using hne
  obtain ⟨box, hloop, hbox⟩ := foldlM_isBoundingBox hscreens fun _ => isRect_of_mem
  refine ⟨box, hbox, fun _ _ hscreen => absolutePosition_spec hloop hbox hscreen, ?_⟩
  intro hfits index index' screen screen' hscreen hscreen' hdisjoint x y x' y' hin hin' heq
  obtain ⟨position, hposition, _, hexact⟩ := absolutePosition_spec hloop hbox hscreen x y
  obtain ⟨position', hposition', _, hexact'⟩ := absolutePosition_spec hloop hbox hscreen' x' y'
  rw [hposition, hposition', hexact hfits, hexact' hfits, exactPosition_of_mem hin,
    exactPosition_of_mem hin'] at heq
  simp only [Option.some.injEq, AbsolutePosition.mk.injEq] at heq
  have hx : screen'.x + x'.toInt = screen.x + x.toInt := by omega
  have hy : screen'.y + y'.toInt = screen.y + y.toInt := by omega
  rw [hx, hy] at hin'
  exact Set.disjoint_left.mp hdisjoint hin hin'

/-- A monitor to the left of the one at the origin. -/
def leftAndOrigin : List Output :=
  [{ logicalX := -1280, logicalY := 40, logicalWidth := 1280, logicalHeight := 1024,
     hasLogicalPosition := true, hasLogicalSize := true },
   { modeWidth := 3840, modeHeight := 2160, scale := 2 }]

theorem absolute_injection_exact_leftAndOrigin :
    ∃ position, absolutePosition leftAndOrigin 0 (-3) 7 = some (some position) ∧
      position.InBox := by
  obtain ⟨_, _, hinject, _⟩ := absolute_injection_exact leftAndOrigin (by decide)
  obtain ⟨position, hposition, hbox, _⟩ := hinject 0 _ rfl (-3) 7
  exact ⟨position, hposition, hbox⟩

example : absolutePosition leftAndOrigin 0 (-3) 7 = some (some ⟨0, 47, 3200, 1080⟩) := by
  decide

end WaylandPlatform
end Mksync
