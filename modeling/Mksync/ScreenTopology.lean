import Mksync.InputEvents
import Mksync.OrderedContainers
import Mathlib.Data.Prod.Lex
import Mathlib.Data.String.Basic
import Mathlib.Data.Int.Order.Basic

/-!
# The screen grid

Square cells answer adjacency only. The real monitor rects are used when the cursor
crosses from one screen into its neighbour. The `int32` coordinates are integers here;
what stays inside their range is a matter of separate bounds.
-/
namespace Mksync

inductive TopologyError
  | invalidScreenRect | duplicateScreen | cellOccupied | unknownScreen | missingNeighbor
  deriving DecidableEq, Repr

inductive Edge
  | left | right | top | bottom
  deriving DecidableEq, Repr

/-- A cell of the grid, not a pixel coordinate. -/
structure GridPosition where
  x : Int := 0
  y : Int := 0
  deriving Repr

instance : LinearOrder GridPosition :=
  LinearOrder.lift' (fun c => toLex (c.x, c.y)) (by rintro ⟨x, y⟩ ⟨x', y'⟩ h; simpa using h)

/-- The owner is the peer's machine id, or its endpoint when it sends none. -/
structure ScreenKey where
  ownerId : String
  screenIndex : Nat := 0
  deriving Repr

instance : LinearOrder ScreenKey :=
  LinearOrder.lift' (fun k => toLex (k.ownerId, k.screenIndex))
    (by rintro ⟨o, i⟩ ⟨o', i'⟩ h; simpa using h)

theorem ScreenKey.ne_of_screenIndex_ne {ownerId : String} {i j : Nat} (h : i ≠ j) :
    (⟨ownerId, i⟩ : ScreenKey) ≠ ⟨ownerId, j⟩ :=
  fun heq => h (congrArg ScreenKey.screenIndex heq)

structure TopologyScreen where
  key : ScreenKey
  cell : GridPosition
  info : ScreenInfo
  isLocal : Bool := false
  deriving DecidableEq, Repr

/-- A real pixel on the screen of the key. -/
structure ScreenPoint where
  key : ScreenKey
  x : Int := 0
  y : Int := 0
  deriving DecidableEq, Repr

def isValidRect (info : ScreenInfo) : Bool := info.width > 0 && info.height > 0

def neighborCell (cell : GridPosition) : Edge → GridPosition
  | .left => { cell with x := cell.x - 1 }
  | .right => { cell with x := cell.x + 1 }
  | .top => { cell with y := cell.y - 1 }
  | .bottom => { cell with y := cell.y + 1 }

/-- `std::clamp`. -/
def clamp (v lo hi : Int) : Int := if v < lo then lo else if hi < v then hi else v

theorem clamp_mem {v lo hi : Int} (h : lo ≤ hi) : lo ≤ clamp v lo hi ∧ clamp v lo hi ≤ hi := by
  unfold clamp
  split_ifs <;> omega

/-- The floating-point part of `entryCoordinate`: `lround (a * b / c)` over doubles. -/
class EntryScaling where
  lround : Int → Int → Int → Int

/-- The quotient read as an exact rational, rounded half away from zero. -/
instance exactScaling : EntryScaling where
  lround a b c := (2 * (a * b) + c) / (2 * c)

def entryCoordinate [EntryScaling] (source sourceExtent targetExtent : Int) : Int :=
  if sourceExtent ≤ 1 ∨ targetExtent ≤ 1 then 0
  else
    let sourceSpan := sourceExtent - 1
    let targetSpan := targetExtent - 1
    let clamped := clamp source 0 sourceSpan
    let mapped := EntryScaling.lround clamped targetSpan sourceSpan
    clamp mapped 0 targetSpan

/-- However the quotient rounds, the entry coordinate is a pixel of the target extent. -/
theorem entryCoordinate_mem [EntryScaling] (source sourceExtent : Int) {targetExtent : Int}
    (h : 0 < targetExtent) :
    0 ≤ entryCoordinate source sourceExtent targetExtent ∧
      entryCoordinate source sourceExtent targetExtent < targetExtent := by
  have hspan : (0 : Int) ≤ targetExtent - 1 := by omega
  have hclamp := clamp_mem (v := EntryScaling.lround (clamp source 0 (sourceExtent - 1))
    (targetExtent - 1) (sourceExtent - 1)) hspan
  simp only [entryCoordinate]
  split <;> omega

structure ScreenTopology where
  mScreens : OrderedMap ScreenKey TopologyScreen
  mCells : OrderedMap GridPosition ScreenKey
  deriving DecidableEq

namespace ScreenTopology

def empty : ScreenTopology := ⟨.empty, .empty⟩

def addScreen (t : ScreenTopology) (screen : TopologyScreen) :
    Except TopologyError ScreenTopology :=
  if !isValidRect screen.info then .error .invalidScreenRect
  else if t.mScreens.contains screen.key then .error .duplicateScreen
  else if t.mCells.contains screen.cell then .error .cellOccupied
  else .ok {
    mScreens := t.mScreens.emplace screen.key screen
    mCells := t.mCells.emplace screen.cell screen.key }

/-- The erasing loop: each screen of the owner goes together with its cell. -/
def removeOwner (t : ScreenTopology) (ownerId : String) : ScreenTopology where
  mScreens := t.mScreens.filter (fun key _ => key.ownerId ≠ ownerId)
  mCells := (t.mScreens.entries.filter (fun e => e.1.ownerId = ownerId)).foldl
    (fun cells e => cells.erase e.2.cell) t.mCells

def findScreen (t : ScreenTopology) (key : ScreenKey) : Option TopologyScreen :=
  t.mScreens.find? key

def screens (t : ScreenTopology) : List TopologyScreen := t.mScreens.values

def findNeighbor (t : ScreenTopology) (key : ScreenKey) (edge : Edge) : Option ScreenKey :=
  match t.findScreen key with
  | none => none
  | some screen => t.mCells.find? (neighborCell screen.cell edge)

/-- The exact border already means "try to cross". -/
def hitEdge (t : ScreenTopology) (point : ScreenPoint) : Option Edge :=
  match t.findScreen point.key with
  | none => none
  | some screen =>
    if point.x ≤ 0 then some .left
    else if point.x ≥ screen.info.width - 1 then some .right
    else if point.y ≤ 0 then some .top
    else if point.y ≥ screen.info.height - 1 then some .bottom
    else none

section Crossing

variable [EntryScaling]

/-- The pixel of the target rect at which a crossing enters. -/
def entryPoint (sourceInfo targetInfo : ScreenInfo) (targetKey : ScreenKey) (point : ScreenPoint) :
    Edge → ScreenPoint
  | .left => ⟨targetKey, targetInfo.width - 1,
      entryCoordinate point.y sourceInfo.height targetInfo.height⟩
  | .right => ⟨targetKey, 0, entryCoordinate point.y sourceInfo.height targetInfo.height⟩
  | .top => ⟨targetKey, entryCoordinate point.x sourceInfo.width targetInfo.width,
      targetInfo.height - 1⟩
  | .bottom => ⟨targetKey, entryCoordinate point.x sourceInfo.width targetInfo.width, 0⟩

def mapEntryPoint (t : ScreenTopology) (point : ScreenPoint) (edge : Edge) :
    Except TopologyError ScreenPoint :=
  match t.findScreen point.key with
  | none => .error .unknownScreen
  | some source =>
    match t.findNeighbor point.key edge with
    | none => .error .missingNeighbor
    | some targetKey =>
      match t.findScreen targetKey with
      | none => .error .unknownScreen
      | some target => .ok (entryPoint source.info target.info targetKey point edge)

end Crossing

/-! ### What the operations do to lookups -/

theorem addScreen_eq_ok {t t' : ScreenTopology} {screen : TopologyScreen} :
    t.addScreen screen = .ok t' ↔
      isValidRect screen.info = true ∧ t.mScreens.contains screen.key = false ∧
        t.mCells.contains screen.cell = false ∧
        t' = ⟨t.mScreens.emplace screen.key screen, t.mCells.emplace screen.cell screen.key⟩ := by
  unfold addScreen
  cases isValidRect screen.info <;> cases t.mScreens.contains screen.key <;>
    cases t.mCells.contains screen.cell <;> simp [eq_comm]

theorem findScreen_addScreen {t t' : ScreenTopology} {screen : TopologyScreen}
    (h : t.addScreen screen = .ok t') (key : ScreenKey) :
    t'.findScreen key = if key = screen.key then some screen else t.findScreen key := by
  obtain ⟨_, hkey, _, rfl⟩ := addScreen_eq_ok.mp h
  exact OrderedMap.find?_emplace hkey

theorem findScreen_addScreen_self {t t' : ScreenTopology} {screen : TopologyScreen}
    (h : t.addScreen screen = .ok t') : t.findScreen screen.key = none :=
  OrderedMap.contains_eq_false.mp (addScreen_eq_ok.mp h).2.1

theorem findScreen_removeOwner (t : ScreenTopology) (ownerId : String) (key : ScreenKey) :
    (t.removeOwner ownerId).findScreen key =
      if key.ownerId = ownerId then none else t.findScreen key := by
  unfold findScreen removeOwner
  rw [OrderedMap.find?_filter]
  by_cases h : key.ownerId = ownerId
  · simp [h]
  · cases t.mScreens.find? key <;> simp [h]

/-- Every screen is stored under its own key, the cells are the inverse of the screens
and only positive rects are stored. -/
structure WellFormed (t : ScreenTopology) : Prop where
  keyed : ∀ key screen, t.findScreen key = some screen → screen.key = key
  cells : ∀ cell key, t.mCells.find? cell = some key ↔
    ∃ screen, t.findScreen key = some screen ∧ screen.cell = cell
  rects : ∀ key screen, t.findScreen key = some screen →
    0 < screen.info.width ∧ 0 < screen.info.height

theorem wellFormed_empty : empty.WellFormed := by
  have hscreens : ∀ key, empty.findScreen key = none := fun _ => rfl
  have hcells : ∀ cell, empty.mCells.find? cell = none := fun _ => rfl
  refine ⟨?_, ?_, ?_⟩
  · simp [hscreens]
  · simp [hscreens, hcells]
  · simp [hscreens]

theorem WellFormed.mem_screens {t : ScreenTopology} (h : t.WellFormed) {screen : TopologyScreen} :
    screen ∈ t.screens ↔ t.findScreen screen.key = some screen := by
  rw [screens, OrderedMap.mem_values]
  constructor
  · rintro ⟨key, hkey⟩
    have heq : screen.key = key := h.keyed key screen hkey
    rw [heq]
    exact hkey
  · exact fun hfind => ⟨screen.key, hfind⟩

theorem WellFormed.addScreen {t t' : ScreenTopology} {screen : TopologyScreen} (h : t.WellFormed)
    (hadd : t.addScreen screen = .ok t') : t'.WellFormed := by
  have hfind := findScreen_addScreen hadd
  have hkey := findScreen_addScreen_self hadd
  obtain ⟨hvalid, _, hcell, rfl⟩ := addScreen_eq_ok.mp hadd
  refine ⟨?_, ?_, ?_⟩
  · intro key s hs
    rw [hfind] at hs
    split_ifs at hs with heq
    · cases hs
      exact heq.symm
    · exact h.keyed key s hs
  · intro cell key
    simp only [hfind, OrderedMap.find?_emplace hcell]
    have hfree : t.mCells.find? screen.cell = none := OrderedMap.contains_eq_false.mp hcell
    by_cases hc : cell = screen.cell <;> by_cases hk : key = screen.key
    · simp [hc, hk]
    · simp only [hc, hk, if_true, if_false, Option.some.injEq]
      refine ⟨fun heq => absurd heq.symm hk, fun hs => ?_⟩
      simpa [hfree] using (h.cells screen.cell key).mpr hs
    · simp only [hc, hk, if_true, if_false, Option.some.injEq]
      refine ⟨fun hs => ?_, fun ⟨s, hs, heq⟩ => absurd (hs ▸ heq.symm) hc⟩
      obtain ⟨s, hs, _⟩ := (h.cells cell screen.key).mp hs
      simp [hkey] at hs
    · simpa only [hc, hk, if_false] using h.cells cell key
  · intro key s hs
    rw [hfind] at hs
    split_ifs at hs with heq
    · cases hs
      simpa [isValidRect] using hvalid
    · exact h.rects key s hs

private theorem find?_eraseCells (gone : List (ScreenKey × TopologyScreen))
    (cells : OrderedMap GridPosition ScreenKey) (cell : GridPosition) (key : ScreenKey) :
    (gone.foldl (fun cells e => cells.erase e.2.cell) cells).find? cell = some key ↔
      cells.find? cell = some key ∧ ∀ e ∈ gone, e.2.cell ≠ cell := by
  induction gone generalizing cells with
  | nil => simp
  | cons e gone ih =>
    rw [List.foldl_cons, ih, OrderedMap.find?_erase]
    by_cases he : cell = e.2.cell
    · simp [he]
    · simp [he, Ne.symm he]

/-- A cell survives unless a screen of the owner stood on it. -/
theorem find?_cells_removeOwner (t : ScreenTopology) (ownerId : String) (cell : GridPosition)
    (key : ScreenKey) :
    (t.removeOwner ownerId).mCells.find? cell = some key ↔
      t.mCells.find? cell = some key ∧
        ∀ k s, t.findScreen k = some s → k.ownerId = ownerId → s.cell ≠ cell := by
  rw [removeOwner, find?_eraseCells]
  simp [findScreen, OrderedMap.find?_eq_some]

theorem WellFormed.removeOwner {t : ScreenTopology} (h : t.WellFormed) (ownerId : String) :
    (t.removeOwner ownerId).WellFormed := by
  have hfind := findScreen_removeOwner t ownerId
  refine ⟨?_, ?_, ?_⟩
  · intro key s hs
    rw [hfind] at hs
    split_ifs at hs
    exact h.keyed key s hs
  · intro cell key
    rw [find?_cells_removeOwner, hfind]
    constructor
    · rintro ⟨hc, hkept⟩
      obtain ⟨s, hs, hcell⟩ := (h.cells cell key).mp hc
      have hne : key.ownerId ≠ ownerId := fun ho => hkept key s hs ho hcell
      exact ⟨s, by simpa [hne] using hs, hcell⟩
    · rintro ⟨s, hs, hcell⟩
      split_ifs at hs with hne
      have hc := (h.cells cell key).mpr ⟨s, hs, hcell⟩
      refine ⟨hc, fun k s' hs' ho hcell' => hne ?_⟩
      -- the cell has one screen only, so `k` would be the surviving key
      have hk := hc.symm.trans ((h.cells cell k).mpr ⟨s', hs', hcell'⟩)
      cases hk
      exact ho
  · intro key s hs
    rw [hfind] at hs
    split_ifs at hs
    exact h.rects key s hs

/-! ### Crossing into a neighbour -/

section Crossing

variable [EntryScaling]

theorem entryPoint_contains {source target : ScreenInfo} {targetKey : ScreenKey}
    {point : ScreenPoint} {edge : Edge} (hw : 0 < target.width) (hh : 0 < target.height) :
    target.Contains (entryPoint source target targetKey point edge).x
      (entryPoint source target targetKey point edge).y := by
  have hx := entryCoordinate_mem point.x source.width hw
  have hy := entryCoordinate_mem point.y source.height hh
  cases edge <;> simp only [entryPoint, ScreenInfo.Contains] <;> omega

theorem mapEntryPoint_eq_ok {t : ScreenTopology} {point q : ScreenPoint} {edge : Edge} :
    t.mapEntryPoint point edge = .ok q ↔
      ∃ source target key, t.findScreen point.key = some source ∧
        t.findNeighbor point.key edge = some key ∧ t.findScreen key = some target ∧
        entryPoint source.info target.info key point edge = q := by
  unfold mapEntryPoint
  cases t.findScreen point.key with
  | none => simp
  | some source =>
    cases t.findNeighbor point.key edge with
    | none => simp
    | some key => cases ht : t.findScreen key <;> simp [ht]

/-- A crossing lands on a pixel of a registered screen. -/
theorem WellFormed.mapEntryPoint {t : ScreenTopology} (h : t.WellFormed) {point q : ScreenPoint}
    {edge : Edge} (hq : t.mapEntryPoint point edge = .ok q) :
    ∃ target, t.findScreen q.key = some target ∧ target.info.Contains q.x q.y := by
  obtain ⟨source, target, key, _, _, htarget, rfl⟩ := mapEntryPoint_eq_ok.mp hq
  have hrect := h.rects key target htarget
  refine ⟨target, ?_, entryPoint_contains hrect.1 hrect.2⟩
  cases edge <;> exact htarget

end Crossing

end ScreenTopology
end Mksync
