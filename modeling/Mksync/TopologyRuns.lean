import Mksync.ScreenTopology
import Mksync.Rescaling

/-!
# Histories of the screen grid

Whatever screens were added, refused and removed, screens and cells stay inverse to each
other, so that adjacency is symmetric. A crossing followed by the crossing back returns to
the border it left through, at the same pixel up to the rounding of the shorter screen.
-/
namespace Mksync
namespace ScreenTopology

/-! ### Adding and removing in any order -/

inductive Edit
  | addScreen (screen : TopologyScreen)
  | removeOwner (ownerId : String)
  deriving DecidableEq

/-- A refused screen leaves the topology as it is. -/
def edit (t : ScreenTopology) : Edit → ScreenTopology
  | .addScreen screen => (t.addScreen screen).toOption.getD t
  | .removeOwner ownerId => t.removeOwner ownerId

/-- The topology after a history of edits. -/
def edited (edits : List Edit) : ScreenTopology := edits.foldl edit empty

theorem WellFormed.edit {t : ScreenTopology} (h : t.WellFormed) (e : Edit) :
    (t.edit e).WellFormed := by
  cases e with
  | removeOwner ownerId => exact h.removeOwner ownerId
  | addScreen screen =>
    cases hadd : t.addScreen screen with
    | error _ => simpa [ScreenTopology.edit, hadd, Except.toOption] using h
    | ok t' => simpa [ScreenTopology.edit, hadd, Except.toOption] using h.addScreen hadd

theorem wellFormed_edited (edits : List Edit) : (edited edits).WellFormed :=
  edits.foldlRecOn _ wellFormed_empty fun _ h e _ => h.edit e

theorem WellFormed.cell_inj {t : ScreenTopology} (h : t.WellFormed) {key key' : ScreenKey}
    {screen screen' : TopologyScreen} (hs : t.findScreen key = some screen)
    (hs' : t.findScreen key' = some screen') (hcell : screen.cell = screen'.cell) : key = key' := by
  have hc := (h.cells screen.cell key).mpr ⟨screen, hs, rfl⟩
  have hc' := (h.cells screen.cell key').mpr ⟨screen', hs', hcell.symm⟩
  exact Option.some.inj (hc.symm.trans hc')

/-- A screen is accepted if its rect is positive and neither its key nor its cell is there. -/
theorem exists_addScreen_iff {t : ScreenTopology} {screen : TopologyScreen} :
    (∃ t', t.addScreen screen = .ok t') ↔
      (0 < screen.info.width ∧ 0 < screen.info.height) ∧ t.findScreen screen.key = none ∧
        t.mCells.find? screen.cell = none := by
  simp only [addScreen_eq_ok, exists_and_left, exists_eq, and_true, OrderedMap.contains_eq_false,
    isValidRect, Bool.and_eq_true, decide_eq_true_eq, gt_iff_lt]
  rfl

theorem find?_cells_addScreen {t t' : ScreenTopology} {screen : TopologyScreen}
    (h : t.addScreen screen = .ok t') (cell : GridPosition) :
    t'.mCells.find? cell = if cell = screen.cell then some screen.key else t.mCells.find? cell := by
  obtain ⟨_, _, hcell, rfl⟩ := addScreen_eq_ok.mp h
  exact OrderedMap.find?_emplace hcell

/-- The cells that go with an owner are the cells of the owner's screens. -/
theorem WellFormed.find?_cells_removeOwner {t : ScreenTopology} (h : t.WellFormed)
    (ownerId : String) (cell : GridPosition) (key : ScreenKey) :
    (t.removeOwner ownerId).mCells.find? cell = some key ↔
      t.mCells.find? cell = some key ∧ key.ownerId ≠ ownerId := by
  rw [ScreenTopology.find?_cells_removeOwner]
  constructor
  · rintro ⟨hcell, hkept⟩
    obtain ⟨screen, hscreen, heq⟩ := (h.cells cell key).mp hcell
    exact ⟨hcell, fun howner => hkept key screen hscreen howner heq⟩
  · rintro ⟨hcell, howner⟩
    refine ⟨hcell, fun k screen hscreen hk heq => howner ?_⟩
    have hkey := (h.cells cell k).mpr ⟨screen, hscreen, heq⟩
    rw [hcell] at hkey
    cases hkey
    exact hk

theorem WellFormed.mapEntryPoint_eq_error [EntryScaling] {t : ScreenTopology} (h : t.WellFormed)
    {point : ScreenPoint} {e : Edge} {error : TopologyError}
    (hregistered : (t.findScreen point.key).isSome)
    (herror : t.mapEntryPoint point e = .error error) : error = .missingNeighbor := by
  obtain ⟨source, hsource⟩ := Option.isSome_iff_exists.mp hregistered
  unfold ScreenTopology.mapEntryPoint at herror
  rw [hsource] at herror
  cases hneighbor : t.findNeighbor point.key e with
  | none =>
    simp only [hneighbor, Except.error.injEq] at herror
    exact herror.symm
  | some key =>
    -- a cell only names registered screens
    have hcell : t.mCells.find? (neighborCell source.cell e) = some key := by
      simpa [findNeighbor, hsource] using hneighbor
    obtain ⟨target, htarget, _⟩ := (h.cells _ _).mp hcell
    simp [hneighbor, htarget] at herror

/-- The representation invariant of every topology that edits build from the empty one, and
what the operations do to it. -/
theorem edited_inverse [EntryScaling] (edits : List Edit) :
    let t := edited edits
    (∀ key cell, t.mCells.find? cell = some key ↔
      ∃ screen, t.mScreens.find? key = some screen ∧ screen.key = key ∧ screen.cell = cell) ∧
    (∀ key key' screen screen', t.mScreens.find? key = some screen →
      t.mScreens.find? key' = some screen' → screen.cell = screen'.cell → key = key') ∧
    (∀ key screen, t.mScreens.find? key = some screen →
      screen.key = key ∧ 0 < screen.info.width ∧ 0 < screen.info.height) ∧
    (∀ screen, ((∃ t', t.addScreen screen = .ok t') ↔
      (0 < screen.info.width ∧ 0 < screen.info.height) ∧ t.mScreens.find? screen.key = none ∧
        t.mCells.find? screen.cell = none)) ∧
    (∀ screen t', t.addScreen screen = .ok t' → t.edit (.addScreen screen) = t' ∧
      (∀ key, t'.mScreens.find? key =
        if key = screen.key then some screen else t.mScreens.find? key) ∧
      (∀ cell, t'.mCells.find? cell =
        if cell = screen.cell then some screen.key else t.mCells.find? cell)) ∧
    (∀ screen error, t.addScreen screen = .error error → t.edit (.addScreen screen) = t) ∧
    (∀ ownerId key, (t.removeOwner ownerId).mScreens.find? key =
      if key.ownerId = ownerId then none else t.mScreens.find? key) ∧
    (∀ ownerId cell key, (t.removeOwner ownerId).mCells.find? cell = some key ↔
      t.mCells.find? cell = some key ∧ key.ownerId ≠ ownerId) ∧
    (∀ point e error, (t.mScreens.find? point.key).isSome →
      t.mapEntryPoint point e = .error error → error = .missingNeighbor) := by
  intro t
  have h : t.WellFormed := wellFormed_edited edits
  refine ⟨?_, ?_, ?_, ?_, ?_, ?_, ?_, ?_, ?_⟩
  · intro key cell
    constructor
    · intro hcell
      obtain ⟨screen, hscreen, heq⟩ := (h.cells cell key).mp hcell
      exact ⟨screen, hscreen, h.keyed key screen hscreen, heq⟩
    · rintro ⟨screen, hscreen, _, heq⟩
      exact (h.cells cell key).mpr ⟨screen, hscreen, heq⟩
  · intro key key' screen screen' hs hs' hcell
    exact h.cell_inj hs hs' hcell
  · intro key screen hs
    exact ⟨h.keyed key screen hs, h.rects key screen hs⟩
  · intro screen
    exact exists_addScreen_iff
  · intro screen t' hadd
    refine ⟨by simp [ScreenTopology.edit, hadd, Except.toOption], ?_, ?_⟩
    · exact findScreen_addScreen hadd
    · exact find?_cells_addScreen hadd
  · intro screen error hadd
    simp [ScreenTopology.edit, hadd, Except.toOption]
  · exact fun ownerId key => findScreen_removeOwner t ownerId key
  · exact fun ownerId cell key => h.find?_cells_removeOwner ownerId cell key
  · intro point e error hregistered herror
    exact h.mapEntryPoint_eq_error hregistered herror

/-! ### There and back -/

end ScreenTopology

def Edge.opposite : Edge → Edge
  | .left => .right
  | .right => .left
  | .top => .bottom
  | .bottom => .top

/-- The extent along the borders `e` and `e.opposite`. -/
def ScreenInfo.extentAlong (info : ScreenInfo) : Edge → Int
  | .left | .right => info.height
  | .top | .bottom => info.width

/-- The coordinate along the borders `e` and `e.opposite`. -/
def ScreenPoint.along (point : ScreenPoint) : Edge → Int
  | .left | .right => point.y
  | .top | .bottom => point.x

/-- A pixel of the screen at its border `e`. -/
def ScreenInfo.OnBorder (info : ScreenInfo) (e : Edge) (x y : Int) : Prop :=
  info.Contains x y ∧
    match e with
    | .left => x = 0
    | .right => x = info.width - 1
    | .top => y = 0
    | .bottom => y = info.height - 1

theorem Edge.opposite_opposite (e : Edge) : e.opposite.opposite = e := by
  cases e <;> rfl

theorem ScreenInfo.extentAlong_opposite (info : ScreenInfo) (e : Edge) :
    info.extentAlong e.opposite = info.extentAlong e := by
  cases e <;> rfl

theorem ScreenPoint.along_opposite (point : ScreenPoint) (e : Edge) :
    point.along e.opposite = point.along e := by
  cases e <;> rfl

theorem ScreenInfo.Contains.along {info : ScreenInfo} {point : ScreenPoint}
    (h : info.Contains point.x point.y) (e : Edge) :
    0 ≤ point.along e ∧ point.along e < info.extentAlong e := by
  obtain ⟨hx, hxw, hy, hyh⟩ := h
  cases e with
  | left => exact ⟨hy, hyh⟩
  | right => exact ⟨hy, hyh⟩
  | top => exact ⟨hx, hxw⟩
  | bottom => exact ⟨hx, hxw⟩

namespace ScreenTopology

theorem neighborCell_opposite (cell : GridPosition) (e : Edge) :
    neighborCell (neighborCell cell e) e.opposite = cell := by
  cases e <;> simp [neighborCell, Edge.opposite]

/-- A neighbour is a screen on the next cell. -/
theorem WellFormed.findNeighbor_eq_some {t : ScreenTopology} (h : t.WellFormed)
    {a b : ScreenKey} {e : Edge} : t.findNeighbor a e = some b ↔
      ∃ source target, t.findScreen a = some source ∧ t.findScreen b = some target ∧
        target.cell = neighborCell source.cell e := by
  unfold findNeighbor
  cases ha : t.findScreen a with
  | none => simp
  | some source => simp [h.cells]

/-- Neighbours are each other's neighbours. -/
theorem WellFormed.findNeighbor_opposite {t : ScreenTopology} (h : t.WellFormed)
    {a b : ScreenKey} {e : Edge} (hb : t.findNeighbor a e = some b) :
    t.findNeighbor b e.opposite = some a := by
  obtain ⟨source, target, hsource, htarget, hcell⟩ := h.findNeighbor_eq_some.mp hb
  refine h.findNeighbor_eq_some.mpr ⟨target, source, htarget, hsource, ?_⟩
  rw [hcell, neighborCell_opposite]

section Crossing

variable [EntryScaling]

theorem entryPoint_key {source target : ScreenInfo} {targetKey : ScreenKey} {point : ScreenPoint}
    (e : Edge) : (entryPoint source target targetKey point e).key = targetKey := by
  cases e <;> rfl

/-- Only the coordinate along the border is rescaled. -/
theorem entryPoint_along {source target : ScreenInfo} {targetKey : ScreenKey}
    {point : ScreenPoint} (e : Edge) : (entryPoint source target targetKey point e).along e =
      entryCoordinate (point.along e) (source.extentAlong e) (target.extentAlong e) := by
  cases e <;> rfl

/-- Crossing and coming back are two rescalings of the coordinate along the border. -/
theorem entryPoint_back_along {source target : ScreenInfo} {sourceKey targetKey : ScreenKey}
    {point : ScreenPoint} (e : Edge) :
    (entryPoint target source sourceKey (entryPoint source target targetKey point e)
      e.opposite).along e =
      entryCoordinate (entryCoordinate (point.along e) (source.extentAlong e)
        (target.extentAlong e)) (target.extentAlong e) (source.extentAlong e) := by
  rw [← ScreenPoint.along_opposite, entryPoint_along, ScreenPoint.along_opposite, entryPoint_along,
    ScreenInfo.extentAlong_opposite, ScreenInfo.extentAlong_opposite]

/-- A crossing enters at the border opposite to the one it leaves through. -/
theorem entryPoint_onBorder {source target : ScreenInfo} {targetKey : ScreenKey}
    {point : ScreenPoint} {e : Edge} (hw : 0 < target.width) (hh : 0 < target.height) :
    target.OnBorder e.opposite (entryPoint source target targetKey point e).x
      (entryPoint source target targetKey point e).y := by
  refine ⟨entryPoint_contains hw hh, ?_⟩
  cases e <;> rfl

end Crossing

/-- Inside its extent a pixel is rescaled between the spans, and no clamp takes effect. -/
theorem entryCoordinate_eq_rescale {source sourceExtent targetExtent : Int}
    (hsource : 1 < sourceExtent) (htarget : 1 < targetExtent) (hmem : 0 ≤ source)
    (hlt : source < sourceExtent) : entryCoordinate source sourceExtent targetExtent =
      Rescaling.rescale (sourceExtent - 1) (targetExtent - 1) source := by
  have hextents : ¬ (sourceExtent ≤ 1 ∨ targetExtent ≤ 1) := by omega
  have hclamped : clamp source 0 (sourceExtent - 1) = source := by
    unfold clamp
    split_ifs <;> omega
  have hrange := Rescaling.rescale_mem (s := sourceExtent - 1) (t := targetExtent - 1)
    (p := source) (by omega) (by omega) hmem (by omega)
  have hmapped : clamp (Rescaling.rescale (sourceExtent - 1) (targetExtent - 1) source) 0
      (targetExtent - 1) = Rescaling.rescale (sourceExtent - 1) (targetExtent - 1) source := by
    unfold clamp
    split_ifs <;> omega
  simp only [entryCoordinate, if_neg hextents, hclamped]
  exact hmapped

theorem entryCoordinate_there_and_back {source sourceExtent targetExtent : Int}
    (hmem : 0 ≤ source) (hlt : source < sourceExtent) (hle : sourceExtent ≤ targetExtent) :
    entryCoordinate (entryCoordinate source sourceExtent targetExtent) targetExtent sourceExtent =
      source := by
  by_cases hone : sourceExtent ≤ 1
  · -- a single pixel
    have hzero : source = 0 := by omega
    simp [entryCoordinate, hone, hzero]
  · have hback : 0 ≤ entryCoordinate source sourceExtent targetExtent ∧
        entryCoordinate source sourceExtent targetExtent < targetExtent :=
      entryCoordinate_mem source sourceExtent (by omega)
    rw [entryCoordinate_eq_rescale (by omega) (by omega) hback.1 hback.2,
      entryCoordinate_eq_rescale (by omega) (by omega) hmem hlt]
    exact Rescaling.rescale_rescale (by omega) (by omega)

theorem abs_entryCoordinate_there_and_back_sub_le {source S T : Int} (hmem : 0 ≤ source)
    (hlt : source < S + 1) (hT : 1 ≤ T) (hTS : T < S) :
    |((entryCoordinate (entryCoordinate source (S + 1) (T + 1)) (T + 1) (S + 1) - source : Int) :
      ℚ)| ≤ S / (2 * T) + 1 / 2 := by
  have hback : 0 ≤ entryCoordinate source (S + 1) (T + 1) ∧
      entryCoordinate source (S + 1) (T + 1) < T + 1 :=
    entryCoordinate_mem source (S + 1) (by omega)
  rw [entryCoordinate_eq_rescale (by omega) (by omega) hback.1 hback.2,
    entryCoordinate_eq_rescale (by omega) (by omega) hmem hlt]
  simp only [Int.add_sub_cancel]
  exact Rescaling.abs_rescale_rescale_sub_le (by omega) (by omega)

/-- Crossing from `a` into its neighbour `b` and back returns to `a`'s border, at the same
pixel if `b` is at least as long there, and within the rounding otherwise. -/
theorem there_and_back (edits : List Edit) {a b : ScreenKey} {screen : TopologyScreen} {e : Edge}
    {p : ScreenPoint} (ha : (edited edits).findScreen a = some screen)
    (hb : (edited edits).findNeighbor a e = some b) (hkey : p.key = a)
    (hp : screen.info.Contains p.x p.y) :
    ∃ other q r, (edited edits).findScreen b = some other ∧
      (edited edits).findNeighbor b e.opposite = some a ∧
      (edited edits).mapEntryPoint p e = .ok q ∧ q.key = b ∧ other.info.Contains q.x q.y ∧
      (edited edits).mapEntryPoint q e.opposite = .ok r ∧ r.key = a ∧
      screen.info.OnBorder e r.x r.y ∧
      (screen.info.extentAlong e ≤ other.info.extentAlong e → r.along e = p.along e) ∧
      (∀ S T, screen.info.extentAlong e = S + 1 → other.info.extentAlong e = T + 1 → 1 ≤ T →
        T < S → |((r.along e - p.along e : Int) : ℚ)| ≤ S / (2 * T) + 1 / 2) := by
  have h : (edited edits).WellFormed := wellFormed_edited edits
  generalize edited edits = t at ha hb h ⊢
  subst hkey
  have hback := h.findNeighbor_opposite hb
  obtain ⟨_, other, _, hother, _⟩ := h.findNeighbor_eq_some.mp hb
  have hrect := h.rects _ _ ha
  have hrect' := h.rects _ _ hother
  -- the pixel on `b`, and the pixel on `a` after the return
  let q := entryPoint screen.info other.info b p e
  let r := entryPoint other.info screen.info p.key q e.opposite
  have hqkey : q.key = b := entryPoint_key e
  have hq : t.mapEntryPoint p e = .ok q :=
    mapEntryPoint_eq_ok.mpr ⟨screen, other, b, ha, hb, hother, rfl⟩
  have hr : t.mapEntryPoint q e.opposite = .ok r :=
    mapEntryPoint_eq_ok.mpr ⟨other, screen, p.key, by rw [hqkey]; exact hother,
      by rw [hqkey]; exact hback, ha, rfl⟩
  have hborder : screen.info.OnBorder e.opposite.opposite r.x r.y :=
    entryPoint_onBorder hrect.1 hrect.2
  rw [Edge.opposite_opposite] at hborder
  have hralong : r.along e = entryCoordinate (entryCoordinate (p.along e)
      (screen.info.extentAlong e) (other.info.extentAlong e)) (other.info.extentAlong e)
      (screen.info.extentAlong e) := entryPoint_back_along e
  have hmem := hp.along e
  refine ⟨other, q, r, hother, hback, hq, hqkey, entryPoint_contains hrect'.1 hrect'.2, hr,
    entryPoint_key _, hborder, ?_, ?_⟩
  · intro hle
    rw [hralong]
    exact entryCoordinate_there_and_back hmem.1 hmem.2 hle
  · intro S T hS hT hT1 hTS
    rw [hralong, hS, hT]
    exact abs_entryCoordinate_there_and_back_sub_le hmem.1 (by omega) hT1 hTS

/-- A large screen with a smaller one to its right. -/
def sideBySide : List Edit :=
  [.addScreen ⟨⟨"desk", 0⟩, ⟨0, 0⟩, { width := 1920, height := 1080 }, true⟩,
    .addScreen ⟨⟨"side", 0⟩, ⟨1, 0⟩, { width := 1280, height := 720 }, false⟩]

theorem there_and_back_sideBySide :
    ∃ q r, (edited sideBySide).mapEntryPoint ⟨⟨"desk", 0⟩, 1919, 541⟩ .right = .ok q ∧
      (edited sideBySide).mapEntryPoint q .left = .ok r ∧
      r.key = ⟨"desk", 0⟩ ∧ r.x = 1919 ∧
      |((r.y - 541 : Int) : ℚ)| ≤ (1079 : Int) / (2 * (719 : Int)) + 1 / 2 := by
  have ha : (edited sideBySide).findScreen ⟨"desk", 0⟩ =
      some ⟨⟨"desk", 0⟩, ⟨0, 0⟩, { width := 1920, height := 1080 }, true⟩ := by decide +kernel
  have hb : (edited sideBySide).findNeighbor ⟨"desk", 0⟩ .right = some ⟨"side", 0⟩ := by
    decide +kernel
  have hother : (edited sideBySide).findScreen ⟨"side", 0⟩ =
      some ⟨⟨"side", 0⟩, ⟨1, 0⟩, { width := 1280, height := 720 }, false⟩ := by decide +kernel
  obtain ⟨other, q, r, hfound, _, hq, _, _, hr, hkey, hborder, _, hdeviation⟩ :=
    there_and_back sideBySide (p := ⟨⟨"desk", 0⟩, 1919, 541⟩) ha hb rfl (by decide)
  rw [hother] at hfound
  cases hfound
  exact ⟨q, r, hq, hr, hkey, hborder.2, hdeviation 1079 719 rfl rfl (by omega) (by omega)⟩

end ScreenTopology
end Mksync
