import Mksync.CheckedIntegers
import Mksync.EdgeCrossing
import Mksync.ActiveUnderCursor

/-!
# Overflow in the routing

The grid and the router compute in `int32`. Here the computation is checked: it has no value
where an operation overflows, and the one of the router otherwise.
-/
namespace Mksync

open CheckedIntegers TransitionRuns

/-! ### The checked computation -/

namespace Checked

open ServerInputRouter

def neighborCell (cell : GridPosition) : Edge → Option GridPosition
  | .left => do
    let x ← checked 32 (cell.x - 1)
    return { cell with x }
  | .right => do
    let x ← checked 32 (cell.x + 1)
    return { cell with x }
  | .top => do
    let y ← checked 32 (cell.y - 1)
    return { cell with y }
  | .bottom => do
    let y ← checked 32 (cell.y + 1)
    return { cell with y }

/-- The product and the quotient are doubles. -/
def entryCoordinate [EntryScaling] (source sourceExtent targetExtent : Int) : Option Int :=
  if sourceExtent ≤ 1 ∨ targetExtent ≤ 1 then some 0
  else do
    let sourceSpan ← checked 32 (sourceExtent - 1)
    let targetSpan ← checked 32 (targetExtent - 1)
    let clamped := clamp source 0 sourceSpan
    let mapped := EntryScaling.lround clamped targetSpan sourceSpan
    return clamp mapped 0 targetSpan

def findNeighbor (t : ScreenTopology) (key : ScreenKey) (edge : Edge) :
    Option (Option ScreenKey) :=
  match t.findScreen key with
  | none => some none
  | some screen => do
    let cell ← neighborCell screen.cell edge
    return t.mCells.find? cell

def hitEdge (t : ScreenTopology) (point : ScreenPoint) : Option (Option Edge) :=
  match t.findScreen point.key with
  | none => some none
  | some screen =>
    if point.x ≤ 0 then some (some .left)
    else do
      let right ← checked 32 (screen.info.width - 1)
      if point.x ≥ right then some (some .right)
      else if point.y ≤ 0 then some (some .top)
      else do
        let bottom ← checked 32 (screen.info.height - 1)
        if point.y ≥ bottom then some (some .bottom) else some none

section Crossing

variable [EntryScaling]

def entryPoint (sourceInfo targetInfo : ScreenInfo) (targetKey : ScreenKey) (point : ScreenPoint) :
    Edge → Option ScreenPoint
  | .left => do
    let x ← checked 32 (targetInfo.width - 1)
    let y ← entryCoordinate point.y sourceInfo.height targetInfo.height
    return ⟨targetKey, x, y⟩
  | .right => do
    let y ← entryCoordinate point.y sourceInfo.height targetInfo.height
    return ⟨targetKey, 0, y⟩
  | .top => do
    let x ← entryCoordinate point.x sourceInfo.width targetInfo.width
    let y ← checked 32 (targetInfo.height - 1)
    return ⟨targetKey, x, y⟩
  | .bottom => do
    let x ← entryCoordinate point.x sourceInfo.width targetInfo.width
    return ⟨targetKey, x, 0⟩

def mapEntryPoint (t : ScreenTopology) (point : ScreenPoint) (edge : Edge) :
    Option (Except TopologyError ScreenPoint) :=
  match t.findScreen point.key with
  | none => some (.error .unknownScreen)
  | some source => do
    match ← findNeighbor t point.key edge with
    | none => some (.error .missingNeighbor)
    | some targetKey =>
      match t.findScreen targetKey with
      | none => some (.error .unknownScreen)
      | some target => do
        let target ← entryPoint source.info target.info targetKey point edge
        return .ok target

def crossingTarget (t : ScreenTopology) (point : ScreenPoint) : Option (Option ScreenPoint) := do
  match ← hitEdge t point with
  | none => some none
  | some edge =>
    match ← mapEntryPoint t point edge with
    | .error _ => some none
    | .ok target => some (some target)

end Crossing

/-! ### The router -/

section Router

variable {E C : Type} [Endpoint E] [InputCapture C]

def moveDelta (router : ServerInputRouter E C) (event : MouseMoveEvent) : Option (Int × Int) :=
  if event.deltaX = 0 ∧ event.deltaY = 0 then
    match router.mLastLocalMouse with
    | some last => do
      let deltaX ← checked 32 (event.x - last.x)
      let deltaY ← checked 32 (event.y - last.y)
      return (deltaX, deltaY)
    | none => some (0, 0)
  else some (event.deltaX, event.deltaY)

def nextPoint (cursor : ScreenPoint) (delta : Int × Int) : Option ScreenPoint := do
  let x ← checked 32 (cursor.x + delta.1)
  let y ← checked 32 (cursor.y + delta.2)
  return { cursor with x, y }

def clampToScreen (info : ScreenInfo) (point : ScreenPoint) : Option ScreenPoint := do
  let maxX ← checked 32 (info.width - 1)
  let maxY ← checked 32 (info.height - 1)
  return { point with x := clamp point.x 0 (max 0 maxX), y := clamp point.y 0 (max 0 maxY) }

variable [EntryScaling] (screens : ServerScreenStore E)

def handleRemoteMouseMove (event : MouseMoveEvent) (router : ServerInputRouter E C) :
    Option (ServerInputRouter E C) :=
  match router.activeScreen screens with
  | none => some router
  | some active =>
    if active.isLocal then some router
    else do
      let delta ← moveDelta router event
      if delta = (0, 0) then some (router.sampledRemote active event)
      else do
        let next ← nextPoint (router.virtualCursor active) delta
        match ← crossingTarget screens.mTopology next with
        | some target =>
          some ((router.sampledRemote active event).switchActiveScreen screens target)
        | none =>
          let point ← clampToScreen active.info next
          return ({ router.sampledRemote active event with
            mActivePoint := some point }.queueInputForScreen active (moveTo point)).2

def handleMouseMove (event : MouseMoveEvent) (router : ServerInputRouter E C) :
    Option (ServerInputRouter E C) :=
  match router.activeScreen screens with
  | none => some router
  | some active =>
    if !active.isLocal then handleRemoteMouseMove screens event router
    else
      let point := localPoint active event
      match (router.sampledLocal active event).suppressPendingLocalWarp point with
      | (true, router) => some router
      | (false, router) => do
        match ← crossingTarget screens.mTopology point with
        | none => some router
        | some target => some (router.switchActiveScreen screens target)

/-- Of the events only moves are computed with. -/
def handleInputEvent (event : InputEvent) (router : ServerInputRouter E C) :
    Option (ServerInputRouter E C) :=
  match event with
  | .mouseMove move => handleMouseMove screens move router
  | event => some (router.handleInputEvent screens event)

end Router

/-! ### Where it overflows -/

/-- The coordinate that the neighbour across the edge has instead of the cell's. -/
def beyond (cell : GridPosition) : Edge → Int
  | .left => cell.x - 1
  | .right => cell.x + 1
  | .top => cell.y - 1
  | .bottom => cell.y + 1

/-- The grid goes on across the edge of the screen. -/
def OnGrid (t : ScreenTopology) (key : ScreenKey) (edge : Edge) : Prop :=
  ∀ screen ∈ t.findScreen key, Fits 32 (beyond screen.cell edge)

instance (t : ScreenTopology) (key : ScreenKey) (edge : Edge) : Decidable (OnGrid t key edge) :=
  inferInstanceAs (Decidable (∀ screen ∈ t.findScreen key, _))

/-- Of the borders that the point touches the edge is the one tried first. -/
def FirstTouched (info : ScreenInfo) (edge : Edge) (point : ScreenPoint) : Prop :=
  info.Touches edge point ∧ ∀ edge', edge'.rank < edge.rank → ¬ info.Touches edge' point

/-- The grid goes on across the border that the point touches. -/
def StaysOnGrid (t : ScreenTopology) (point : ScreenPoint) : Prop :=
  ∀ screen ∈ t.findScreen point.key, ∀ edge, FirstTouched screen.info edge point →
    Fits 32 (beyond screen.cell edge)

/-- A positive rect of `int32` size. -/
structure Sized (info : ScreenInfo) : Prop where
  width : 0 < info.width ∧ info.width ≤ 2147483647
  height : 0 < info.height ∧ info.height ≤ 2147483647

theorem neighborCell_eq (cell : GridPosition) (edge : Edge) :
    neighborCell cell edge =
      if Fits 32 (beyond cell edge) then some (Mksync.neighborCell cell edge) else none := by
  cases edge <;> exact checked_bind _

theorem onGrid_iff {t : ScreenTopology} {key : ScreenKey} {screen : TopologyScreen}
    (h : t.findScreen key = some screen) (edge : Edge) :
    OnGrid t key edge ↔ Fits 32 (beyond screen.cell edge) := by
  simp [OnGrid, h]

theorem staysOnGrid_iff (t : ScreenTopology) (point : ScreenPoint) :
    StaysOnGrid t point ↔ ∀ edge ∈ t.hitEdge point, OnGrid t point.key edge := by
  unfold StaysOnGrid
  cases hfind : t.findScreen point.key with
  | none => simp [ScreenTopology.hitEdge, hfind]
  | some screen =>
    simp only [Option.mem_def, Option.some.injEq, forall_eq', onGrid_iff hfind,
      ScreenTopology.hitEdge_eq_some hfind, FirstTouched]

instance (t : ScreenTopology) (point : ScreenPoint) : Decidable (StaysOnGrid t point) :=
  decidable_of_iff _ (staysOnGrid_iff t point).symm

theorem findNeighbor_eq (t : ScreenTopology) (key : ScreenKey) (edge : Edge) :
    findNeighbor t key edge =
      if OnGrid t key edge then some (t.findNeighbor key edge) else none := by
  unfold findNeighbor ScreenTopology.findNeighbor
  cases hfind : t.findScreen key with
  | none => simp [OnGrid, hfind]
  | some screen =>
    simp only [neighborCell_eq, onGrid_iff hfind]
    split_ifs <;> rfl

theorem checked_pred {n : Int} (hpos : 0 < n) (hmax : n ≤ 2147483647) :
    checked 32 (n - 1) = some (n - 1) := by
  apply checked_of_fits
  rw [fits_32]
  omega

section Sized

variable [EntryScaling] {t : ScreenTopology}
  (hsized : ∀ key screen, t.findScreen key = some screen → Sized screen.info)

include hsized

omit [EntryScaling] in
theorem hitEdge_eq (point : ScreenPoint) : hitEdge t point = some (t.hitEdge point) := by
  unfold hitEdge ScreenTopology.hitEdge
  cases hfind : t.findScreen point.key with
  | none => rfl
  | some screen =>
    obtain ⟨⟨hw, hw'⟩, hh, hh'⟩ := hsized _ _ hfind
    simp only [checked_pred hw hw', checked_pred hh hh', Option.bind_eq_bind, Option.bind_some]
    split_ifs <;> rfl

omit hsized in
theorem entryCoordinate_eq (source : Int) {sourceExtent targetExtent : Int}
    (hsource : sourceExtent ≤ 2147483647) (htarget : targetExtent ≤ 2147483647) :
    entryCoordinate source sourceExtent targetExtent =
      some (Mksync.entryCoordinate source sourceExtent targetExtent) := by
  unfold entryCoordinate Mksync.entryCoordinate
  split_ifs with hthin
  · rfl
  · rw [checked_pred (by omega) hsource, checked_pred (by omega) htarget]
    rfl

omit hsized in
theorem entryPoint_eq {source target : ScreenInfo} (hsource : Sized source)
    (htarget : Sized target) (key : ScreenKey) (point : ScreenPoint) (edge : Edge) :
    entryPoint source target key point edge =
      some (ScreenTopology.entryPoint source target key point edge) := by
  have hx := entryCoordinate_eq point.x hsource.width.2 htarget.width.2
  have hy := entryCoordinate_eq point.y hsource.height.2 htarget.height.2
  cases edge <;>
    simp only [entryPoint, hx, hy, checked_pred htarget.width.1 htarget.width.2,
      checked_pred htarget.height.1 htarget.height.2] <;> rfl

theorem mapEntryPoint_eq (point : ScreenPoint) (edge : Edge) :
    mapEntryPoint t point edge =
      if OnGrid t point.key edge then some (t.mapEntryPoint point edge) else none := by
  unfold mapEntryPoint ScreenTopology.mapEntryPoint
  cases hsource : t.findScreen point.key with
  | none => simp [OnGrid, hsource]
  | some source =>
    simp only [findNeighbor_eq]
    split_ifs
    · cases t.findNeighbor point.key edge with
      | none => rfl
      | some key =>
        cases htarget : t.findScreen key with
        | none => simp [htarget]
        | some target =>
          simp [htarget, entryPoint_eq (hsized _ _ hsource) (hsized _ _ htarget)]
    · rfl

theorem crossingTarget_eq {E : Type} [Endpoint E] {screens : ServerScreenStore E}
    (hscreens : screens.mTopology = t) (point : ScreenPoint) : crossingTarget t point =
      if StaysOnGrid t point then some (ServerInputRouter.crossingTarget screens point)
      else none := by
  unfold crossingTarget ServerInputRouter.crossingTarget
  rw [hitEdge_eq hsized, hscreens]
  cases hedge : t.hitEdge point with
  | none => simp [staysOnGrid_iff, hedge]
  | some edge =>
    have hstays : StaysOnGrid t point ↔ OnGrid t point.key edge := by
      simp [staysOnGrid_iff, hedge]
    simp only [Option.bind_eq_bind, Option.bind_some, mapEntryPoint_eq hsized, hstays]
    split_ifs
    · cases t.mapEntryPoint point edge <;> rfl
    · rfl

end Sized

/-! ### The router's cursor -/

/-- The coordinates and deltas of a captured move. -/
@[mk_iff] structure Small (move : MouseMoveEvent) : Prop where
  x : -32767 ≤ move.x ∧ move.x ≤ 32767
  y : -32767 ≤ move.y ∧ move.y ≤ 32767
  deltaX : -32767 ≤ move.deltaX ∧ move.deltaX ≤ 32767
  deltaY : -32767 ≤ move.deltaY ∧ move.deltaY ≤ 32767

instance (move : MouseMoveEvent) : Decidable (Small move) :=
  decidable_of_iff _ (small_iff move).symm

/-- A pixel of a local sample or of a screen of `int32` size. -/
structure Pixel (point : ScreenPoint) : Prop where
  x : -32767 ≤ point.x ∧ point.x ≤ 2147483646
  y : -32767 ≤ point.y ∧ point.y ≤ 2147483646

/-- What the router remembers is in range. -/
structure Remembers {E C : Type} [Endpoint E] (router : ServerInputRouter E C) : Prop where
  point : ∀ point ∈ router.mActivePoint, Pixel point
  last : ∀ move ∈ router.mLastLocalMouse, Small move

section Move

variable {E C : Type} [Endpoint E] {router : ServerInputRouter E C} {move : MouseMoveEvent}

theorem moveDelta_eq (h : Remembers router) (hmove : Small move) :
    moveDelta router move = some (router.moveDelta move) := by
  unfold moveDelta ServerInputRouter.moveDelta
  cases hlast : router.mLastLocalMouse with
  | none => split_ifs <;> rfl
  | some last =>
    obtain ⟨hx, hy, _, _⟩ := h.last last hlast
    obtain ⟨hx', hy', _, _⟩ := hmove
    have hdeltaX : Fits 32 (move.x - last.x) := by
      rw [fits_32]
      omega
    have hdeltaY : Fits 32 (move.y - last.y) := by
      rw [fits_32]
      omega
    simp only [checked_of_fits hdeltaX, checked_of_fits hdeltaY]
    split_ifs <;> rfl

theorem moveDelta_bounds (h : Remembers router) (hmove : Small move) :
    (-65534 ≤ (router.moveDelta move).1 ∧ (router.moveDelta move).1 ≤ 65534) ∧
      -65534 ≤ (router.moveDelta move).2 ∧ (router.moveDelta move).2 ≤ 65534 := by
  obtain ⟨hx, hy, hdx, hdy⟩ := hmove
  unfold ServerInputRouter.moveDelta
  split_ifs
  · cases hlast : router.mLastLocalMouse with
    | none => simp
    | some last =>
      obtain ⟨hx', hy', _, _⟩ := h.last last hlast
      dsimp only
      omega
  · omega

theorem pixel_virtualCursor (h : Remembers router) (active : VirtualScreen E) :
    Pixel (router.virtualCursor active) := by
  have hzero : Pixel ⟨active.key, 0, 0⟩ := ⟨by simp, by simp⟩
  unfold ServerInputRouter.virtualCursor
  cases hpoint : router.mActivePoint with
  | none => exact hzero
  | some point =>
    dsimp only
    split_ifs
    · exact hzero
    · exact h.point point hpoint

/-- The sum of cursor and delta can overflow at the upper end only. -/
theorem nextPoint_eq (h : Remembers router) (hmove : Small move) (active : VirtualScreen E) :
    nextPoint (router.virtualCursor active) (router.moveDelta move) =
      if (router.nextPoint active move).x ≤ 2147483647 ∧
        (router.nextPoint active move).y ≤ 2147483647 then some (router.nextPoint active move)
      else none := by
  obtain ⟨hx, hy⟩ := pixel_virtualCursor h active
  obtain ⟨hdx, hdy⟩ := moveDelta_bounds h hmove
  have hfitsX : Fits 32 (router.nextPoint active move).x ↔
      (router.nextPoint active move).x ≤ 2147483647 := by
    simp only [ServerInputRouter.nextPoint, fits_32]
    omega
  have hfitsY : Fits 32 (router.nextPoint active move).y ↔
      (router.nextPoint active move).y ≤ 2147483647 := by
    simp only [ServerInputRouter.nextPoint, fits_32]
    omega
  calc nextPoint (router.virtualCursor active) (router.moveDelta move)
      = if Fits 32 (router.nextPoint active move).x then
          if Fits 32 (router.nextPoint active move).y then some (router.nextPoint active move)
          else none
        else none := by
        simp only [nextPoint, Option.bind_eq_bind, checked_bind]
        rfl
    _ = _ := by
        simp only [← ite_and, hfitsX, hfitsY]

end Move

/-! ### One captured event -/

section Event

variable {E C : Type} [Endpoint E] [InputCapture C]

/-- A move that is routed without overflow: where it makes the cursor touch an edge the grid goes
on across that edge, and the remote cursor and the delta add up to an `int32`. -/
def InRange (screens : ServerScreenStore E) (router : ServerInputRouter E C)
    (move : MouseMoveEvent) : Prop :=
  ∀ active ∈ router.activeScreen screens,
    if active.isLocal then
      router.mPendingLocalWarp ≠ some (localPoint active move) →
        StaysOnGrid screens.mTopology (localPoint active move)
    else
      router.moveDelta move ≠ (0, 0) →
        ((router.nextPoint active move).x ≤ 2147483647 ∧
          (router.nextPoint active move).y ≤ 2147483647) ∧
        StaysOnGrid screens.mTopology (router.nextPoint active move)

omit [InputCapture C] in
instance (screens : ServerScreenStore E) (router : ServerInputRouter E C)
    (move : MouseMoveEvent) : Decidable (InRange screens router move) :=
  inferInstanceAs (Decidable (∀ active ∈ router.activeScreen screens, _))

omit [InputCapture C] in
theorem inRange_iff {screens : ServerScreenStore E} {router : ServerInputRouter E C}
    {active : VirtualScreen E} (h : router.activeScreen screens = some active)
    (move : MouseMoveEvent) : InRange screens router move ↔
      if active.isLocal then
        router.mPendingLocalWarp ≠ some (localPoint active move) →
          StaysOnGrid screens.mTopology (localPoint active move)
      else
        router.moveDelta move ≠ (0, 0) →
          ((router.nextPoint active move).x ≤ 2147483647 ∧
            (router.nextPoint active move).y ≤ 2147483647) ∧
          StaysOnGrid screens.mTopology (router.nextPoint active move) := by
  simp [InRange, h]

theorem clampToScreen_eq {info : ScreenInfo} (h : Sized info) (point : ScreenPoint) :
    clampToScreen info point = some (ServerInputRouter.clampToScreen info point) := by
  unfold clampToScreen
  rw [checked_pred h.width.1 h.width.2, checked_pred h.height.1 h.height.2]
  rfl

variable [EntryScaling] {screens : ServerScreenStore E} {router : ServerInputRouter E C}
  {move : MouseMoveEvent} {active : VirtualScreen E}
  (hsized : ∀ key screen, screens.mTopology.findScreen key = some screen → Sized screen.info)
  (hrouter : Remembers router) (hmove : Small move)
  (hactive : router.activeScreen screens = some active)

include hsized hrouter hmove hactive

theorem handleRemoteMouseMove_eq (hinfo : Sized active.info) (remote : active.isLocal = false) :
    handleRemoteMouseMove screens move router =
      if InRange screens router move then some (router.handleRemoteMouseMove screens move)
      else none := by
  unfold handleRemoteMouseMove ServerInputRouter.handleRemoteMouseMove
  simp only [inRange_iff hactive, hactive, remote, moveDelta_eq hrouter hmove,
    Option.bind_eq_bind, Option.bind_some, Bool.false_eq_true, if_false]
  by_cases hzero : router.moveDelta move = (0, 0)
  · simp [hzero]
  · simp only [if_neg hzero, nextPoint_eq hrouter hmove]
    by_cases hnext : (router.nextPoint active move).x ≤ 2147483647 ∧
        (router.nextPoint active move).y ≤ 2147483647
    · simp only [if_pos hnext, Option.bind_some, crossingTarget_eq hsized rfl]
      by_cases hgrid : StaysOnGrid screens.mTopology (router.nextPoint active move)
      · rw [if_pos hgrid, if_pos fun _ => ⟨hnext, hgrid⟩, Option.bind_some]
        cases ServerInputRouter.crossingTarget screens (router.nextPoint active move) with
        | some target => rfl
        | none =>
          rw [clampToScreen_eq hinfo]
          rfl
      · rw [if_neg hgrid, if_neg fun h => hgrid (h hzero).2, Option.bind_none]
    · rw [if_neg hnext, if_neg fun h => hnext (h hzero).1, Option.bind_none]

/-- The checked router computes what the router does as long as the move is in range, and
overflows on all others. -/
theorem handleMouseMove_eq (hinfo : Sized active.info) :
    handleMouseMove screens move router =
      if InRange screens router move then some (router.handleInputEvent screens (.mouseMove move))
      else none := by
  unfold handleMouseMove
  cases hlocal : active.isLocal with
  | false =>
    have hplain : router.handleInputEvent screens (.mouseMove move) =
        router.handleRemoteMouseMove screens move := by
      simp [ServerInputRouter.handleInputEvent, hactive, hlocal, tryHandleLocalHotkey, isF12Press]
    rw [hplain, ← handleRemoteMouseMove_eq hsized hrouter hmove hactive hinfo hlocal]
    simp [hactive, hlocal]
  | true =>
    have hplain : router.handleInputEvent screens (.mouseMove move) =
        router.handleMouseMove screens move := by
      simp [ServerInputRouter.handleInputEvent, hactive, hlocal, tryHandleLocalHotkey, isF12Press]
    rw [hplain]
    unfold ServerInputRouter.handleMouseMove
    simp only [inRange_iff hactive, hactive, hlocal, if_true, Bool.not_true, Bool.false_eq_true,
      if_false]
    by_cases hecho : router.mPendingLocalWarp = some (localPoint active move)
    · have hsuppress : (router.sampledLocal active move).suppressPendingLocalWarp
          (localPoint active move) =
            (true, { router.sampledLocal active move with mPendingLocalWarp := none }) :=
        if_pos hecho
      rw [hsuppress, if_pos fun h => absurd hecho h]
    · have hsuppress : (router.sampledLocal active move).suppressPendingLocalWarp
          (localPoint active move) = (false, router.sampledLocal active move) := if_neg hecho
      simp only [hsuppress, crossingTarget_eq hsized rfl]
      by_cases hgrid : StaysOnGrid screens.mTopology (localPoint active move)
      · rw [if_pos hgrid, if_pos fun _ => hgrid]
        cases ServerInputRouter.crossingTarget screens (localPoint active move) <;> rfl
      · rw [if_neg hgrid, if_neg fun h => hgrid (h hecho)]
        rfl

end Event

/-! ### What the router remembers stays in range -/

section Remembering

variable {E C : Type} [Endpoint E] {screens screens' : ServerScreenStore E}
  {router router' : ServerInputRouter E C}

theorem Remembers.congr (h : Remembers router) (hpoint : router'.mActivePoint = router.mActivePoint)
    (hlast : router'.mLastLocalMouse = router.mLastLocalMouse) : Remembers router' := by
  refine ⟨?_, ?_⟩
  · rw [hpoint]
    exact h.point
  · rw [hlast]
    exact h.last

theorem Remembers.sampledRemote (h : Remembers router) {move : MouseMoveEvent} (hmove : Small move)
    (active : VirtualScreen E) : Remembers (router.sampledRemote active move) := by
  refine ⟨?_, ?_⟩
  · rintro _ ⟨⟩
    exact pixel_virtualCursor h active
  · rintro _ ⟨⟩
    exact hmove

omit [Endpoint E] in
theorem pixel_localPoint {move : MouseMoveEvent} (hmove : Small move) (active : VirtualScreen E) :
    Pixel (localPoint active move) := by
  obtain ⟨hx, hy, _, _⟩ := hmove
  refine ⟨?_, ?_⟩
  · simp only [localPoint]
    omega
  · simp only [localPoint]
    omega

theorem remembers_sampledLocal (router : ServerInputRouter E C) {move : MouseMoveEvent}
    (hmove : Small move) (active : VirtualScreen E) :
    Remembers (router.sampledLocal active move) := by
  refine ⟨?_, ?_⟩
  · rintro _ ⟨⟩
    exact pixel_localPoint hmove active
  · rintro _ ⟨⟩
    exact hmove

theorem pixel_clampToScreen {info : ScreenInfo} (h : Sized info) (point : ScreenPoint) :
    Pixel (ServerInputRouter.clampToScreen info point) := by
  have hx := clamp_mem (v := point.x) (le_max_left 0 (info.width - 1))
  have hy := clamp_mem (v := point.y) (le_max_left 0 (info.height - 1))
  obtain ⟨hw, hh⟩ := h
  refine ⟨?_, ?_⟩
  · simp only [ServerInputRouter.clampToScreen]
    omega
  · simp only [ServerInputRouter.clampToScreen]
    omega

/-- An entry point is a pixel of a screen of `int32` size. -/
theorem pixel_crossingTarget [EntryScaling] (hwell : screens.mTopology.WellFormed)
    (hsized : ∀ key screen, screens.mTopology.findScreen key = some screen → Sized screen.info)
    {point target : ScreenPoint}
    (h : ServerInputRouter.crossingTarget screens point = some target) : Pixel target := by
  obtain ⟨edge, _, hmap⟩ := crossingTarget_eq_some.mp h
  obtain ⟨screen, hscreen, hx, hx', hy, hy'⟩ := hwell.mapEntryPoint hmap
  obtain ⟨hw, hh⟩ := hsized _ _ hscreen
  exact ⟨by omega, by omega⟩

variable [InputCapture C]

/-- A switch forgets no sample, and its point is the one switched to or the one before. -/
theorem Remembers.switchActiveScreen (h : Remembers router) {point : ScreenPoint}
    (hpoint : Pixel point) : Remembers (router.switchActiveScreen screens point) := by
  have hset : ∀ address, Remembers ({ router with
      mActiveScreen := some address
      mActivePoint := some point }.updateCaptureRemoteControl screens) := by
    intro address
    refine ⟨?_, ?_⟩
    · rw [updateCaptureRemoteControl_mActivePoint]
      rintro _ ⟨⟩
      exact hpoint
    · rw [updateCaptureRemoteControl_mLastLocalMouse]
      exact h.last
  rcases switchActiveScreen_cases screens point router with
    ⟨_, heq⟩ | ⟨node, _, ⟨_, heq⟩ | ⟨_, heq⟩⟩
  · rwa [heq]
  · rw [heq]
    exact (hset node.address).congr (by simp [enterRemoteScreen]) (by simp [enterRemoteScreen])
  · rw [heq]
    exact (hset node.address).congr (by simp) (by simp)

theorem remembers_activateFirstLocalScreen (screens : ServerScreenStore E)
    (router : ServerInputRouter E C) : Remembers (router.activateFirstLocalScreen screens) := by
  unfold activateFirstLocalScreen
  cases screens.firstLocalScreen with
  | none => exact ⟨by simp, by simp⟩
  | some node =>
    refine ⟨?_, by simp⟩
    rw [updateCaptureRemoteControl_mActivePoint]
    rintro _ ⟨⟩
    exact ⟨by simp, by simp⟩

end Remembering

end Checked

namespace ServerInputRouter

open Checked

variable {E C : Type} [Endpoint E] [InputCapture C] {screens screens' : ServerScreenStore E}
  {router router' : ServerInputRouter E C}

/-- Handling a move of the given range keeps what is remembered in range. -/
theorem Handled.remembers [EntryScaling] {event : InputEvent}
    (h : Handled screens router event router') (hwell : screens.mTopology.WellFormed)
    (hsized : ∀ key screen, screens.mTopology.findScreen key = some screen → Sized screen.info)
    (hactive : ∀ active, router.activeScreen screens = some active → Sized active.info)
    (hmove : ∀ move, event = .mouseMove move → Small move) (hrouter : Remembers router) :
    Remembers router' := by
  cases h with
  | idle | home => exact hrouter
  | failSafe => exact remembers_activateFirstLocalScreen screens router
  | forwarded => exact hrouter.congr (by simp) (by simp)
  | rested => exact hrouter.sampledRemote (hmove _ rfl) _
  | crossed active _ _ crossing =>
    exact (hrouter.sampledRemote (hmove _ rfl) _).switchActiveScreen
      (pixel_crossingTarget hwell hsized crossing)
  | @clamped move screen active =>
    refine ⟨?_, ?_⟩
    · rw [queueInputForScreen_mActivePoint]
      rintro _ ⟨⟩
      exact pixel_clampToScreen (hactive screen active) _
    · rw [queueInputForScreen_mLastLocalMouse]
      rintro _ ⟨⟩
      exact hmove move rfl
  | echoed => exact (remembers_sampledLocal router (hmove _ rfl) _).congr rfl rfl
  | stayed => exact remembers_sampledLocal router (hmove _ rfl) _
  | left active _ _ crossing =>
    exact (remembers_sampledLocal router (hmove _ rfl) _).switchActiveScreen
      (pixel_crossingTarget hwell hsized crossing)

theorem Rehomed.remembers (h : Rehomed screens screens' router router')
    (hrouter : Remembers router) : Remembers router' := by
  cases h with
  | kept => exact hrouter
  | cleared | woken => exact remembers_activateFirstLocalScreen _ _
  | preferred => exact hrouter.switchActiveScreen ⟨by simp, by simp⟩

end ServerInputRouter

/-! ### The stored screens -/

namespace ServerScreenStore

open Checked

variable {E : Type} [Endpoint E] {store : ServerScreenStore E}

/-- The extents are `int32`. -/
def ExtentsFit (info : ScreenInfo) : Prop := info.width ≤ 2147483647 ∧ info.height ≤ 2147483647

instance (info : ScreenInfo) : Decidable (ExtentsFit info) :=
  inferInstanceAs (Decidable (_ ∧ _))

def ScreensSized (store : ServerScreenStore E) : Prop :=
  ∀ node ∈ store.mScreens.nodes, Sized node.value.info

/-- Only a positive rect is stored. -/
theorem ScreensSized.addScreen (h : store.ScreensSized) (endpoint : E) (key : ScreenKey)
    (cell : GridPosition) {info : ScreenInfo} (hinfo : ExtentsFit info) (isLocal : Bool) :
    (store.addScreen endpoint key cell info isLocal).ScreensSized := by
  rcases addScreen_cases store endpoint key cell info isLocal with
    heq | ⟨topology, hadd, _, hscreens, _⟩
  · rwa [heq]
  · have hrect : 0 < info.width ∧ 0 < info.height := by
      simpa [isValidRect] using (ScreenTopology.addScreen_eq_ok.mp hadd).1
    intro node hnode
    rw [hscreens] at hnode
    rcases OrderedMultimap.mem_nodes_emplace.mp hnode with rfl | hnode
    · exact ⟨⟨hrect.1, hinfo.1⟩, hrect.2, hinfo.2⟩
    · exact h node hnode

theorem ScreensSized.eraseEndpoint (h : store.ScreensSized) (endpoint : E) :
    (store.eraseEndpoint endpoint).ScreensSized :=
  fun node hnode => h node (OrderedMultimap.mem_nodes_eraseKey.mp hnode).1

theorem ScreensSized.replaced (h : store.ScreensSized) (endpoint : E) (ownerId : String)
    {screens : List ScreenInfo} (hscreens : ∀ info ∈ screens, ExtentsFit info) (isLocal : Bool) :
    ((store.eraseEndpoint endpoint).registerScreens endpoint ownerId screens
      isLocal).ScreensSized :=
  registerScreens_induction_of_mem screens
    (fun _ _ _ info hinfo hs => hs.addScreen _ _ _ (hscreens info hinfo) _)
    (h.eraseEndpoint endpoint)

/-- The topology has views of the stored screens only. -/
theorem ScreensSized.findScreen (h : store.ScreensSized) (hg : store.Grounded) (key : ScreenKey)
    (screen : TopologyScreen) (hfind : store.mTopology.findScreen key = some screen) :
    Sized screen.info := by
  obtain ⟨node, hnode, rfl, _⟩ := hg.viewed key screen hfind
  exact h node hnode

theorem ScreensSized.active {C : Type} (h : store.ScreensSized) {router : ServerInputRouter E C}
    {active : VirtualScreen E} (hactive : router.activeScreen store = some active) :
    Sized active.info := by
  obtain ⟨address, _, hderef⟩ := Option.bind_eq_some_iff.mp hactive
  obtain ⟨node, hnode, _, rfl⟩ := OrderedMultimap.deref_eq_some.mp hderef
  exact h node hnode

end ServerScreenStore

/-! ### Every run -/

namespace Host

open ServerInputRouter ServerScreenStore Checked

variable {E C : Type} [Endpoint E] [InputCapture C] [EntryScaling] {host host' : Host E C}

/-- The screens that an action hands to the server. -/
def reportedScreens : Action E C → List ScreenInfo
  | .registerLocal screens => screens
  | .receive _ (.screens report) => report.screens
  | _ => []

/-- The screens and the moves from outside have the ranges of their sources. -/
structure Bounded (host : Host E C) (a : Action E C) (_ : Host E C) : Prop where
  screens : ∀ info ∈ reportedScreens a, ExtentsFit info
  moves : ∀ move ∈ capturedMove a, Small move

omit [EntryScaling] in
theorem bounded_iff (host : Host E C) (a : Action E C) (host' : Host E C) :
    Bounded host a host' ↔
      (∀ info ∈ reportedScreens a, ExtentsFit info) ∧ ∀ move ∈ capturedMove a, Small move :=
  ⟨fun h => ⟨h.screens, h.moves⟩, fun h => ⟨h.1, h.2⟩⟩

omit [EntryScaling] in
instance (host : Host E C) (a : Action E C) (host' : Host E C) : Decidable (Bounded host a host') :=
  decidable_of_iff _ (bounded_iff host a host').symm

/-- The captured event is handled without overflow. -/
def NoOverflow (host : Host E C) (a : Action E C) (_ : Host E C) : Prop :=
  ∀ event, a = .captured event →
    (Checked.handleInputEvent host.server.mScreens event host.server.mInput).isSome

def MovesInRange (host : Host E C) (a : Action E C) (_ : Host E C) : Prop :=
  ∀ move ∈ capturedMove a, InRange host.server.mScreens host.server.mInput move

/-- What every state of a run with bounded screens and moves keeps. -/
structure Ranged (host : Host E C) : Prop where
  grounded : host.server.mScreens.Grounded
  pointer : PointerValid host.server.mScreens host.server.mInput
  sized : host.server.mScreens.ScreensSized
  remembers : Remembers host.server.mInput

theorem ranged_start (server : E) (config : AppConfig) (configPath : String) (capture : C) :
    Ranged (start server config configPath capture) := by
  have hrun : Run step unguarded (start server config configPath capture) [] _ := .refl _
  refine ⟨grounded_init config configPath, run_pointerValid hrun, ?_, ?_⟩
  · exact fun _ hnode => absurd hnode List.not_mem_nil
  · exact ⟨by simp [start, Server.start, setCapture, ServerInputRouter.init],
      by simp [start, Server.start, setCapture, ServerInputRouter.init]⟩

theorem Ranged.step {a : Action E C} (h : Ranged host) (hbounded : Bounded host a host')
    (hs : Stepped host a host') : Ranged host' := by
  obtain ⟨hgrounded, hpointer, hsized, hremembers⟩ := h
  have hgrounded' := hs.storeStep.grounded hgrounded
  have hpointer' := pointerValid_step hpointer hs
  suffices hnext : host'.server.mScreens.ScreensSized ∧ Remembers host'.server.mInput from
    ⟨hgrounded', hpointer', hnext.1, hnext.2⟩
  cases hs with
  | registerLocal | reported =>
    exact ⟨hsized.replaced _ _ hbounded.screens _,
      (Server.registerScreens_rehomed hpointer _ _ _ _).remembers hremembers⟩
  | captured event =>
    refine ⟨hsized, (handleInputEvent_handled host.server.mScreens host.server.mInput
      event).remembers hgrounded.wellFormed (hsized.findScreen hgrounded)
        (fun _ => hsized.active) (fun move hmove => ?_) hremembers⟩
    exact hbounded.moves move (by rw [hmove]; rfl)
  | @rejected endpoint | @dropped endpoint | @closed endpoint =>
    refine ⟨?_, ((Server.removeEndpointScreens_rehomed hpointer _).remembers hremembers).congr
      rfl rfl⟩
    have hstore : (host.closeSession endpoint).server.mScreens =
        (host.server.mScreens.eraseEndpoint endpoint).forgetOwner endpoint :=
      Server.onClosed_mScreens _ _
    rw [hstore]
    exact hsized.eraseEndpoint endpoint
  | signal | accepted | greeted | ignored | published | delivered | broke | hungUp =>
    exact ⟨hsized, hremembers.congr rfl rfl⟩

/-- An event overflows exactly if it is a move out of range. -/
theorem Ranged.noOverflow_iff {a : Action E C} (h : Ranged host)
    (hbounded : Bounded host a host') : NoOverflow host a host' ↔ MovesInRange host a host' := by
  cases hmove : capturedMove a with
  | none =>
    refine iff_of_true ?_ (by simp [MovesInRange, hmove])
    rintro event rfl
    cases event with
    | mouseMove => simp [capturedMove] at hmove
    | _ => rfl
  | some move =>
    obtain rfl : a = .captured (.mouseMove move) := by
      cases a with
      | captured event => rw [(capturedMove_captured event move).mp hmove]
      | _ => cases hmove
    have hguard : MovesInRange host (.captured (.mouseMove move)) host' ↔
        InRange host.server.mScreens host.server.mInput move := by
      simp [MovesInRange, capturedMove]
    have hresult : NoOverflow host (.captured (.mouseMove move)) host' ↔
        (Checked.handleMouseMove host.server.mScreens move host.server.mInput).isSome := by
      simp [NoOverflow, Checked.handleInputEvent]
    rw [hguard, hresult]
    cases hactive : host.server.mInput.activeScreen host.server.mScreens with
    | none => simp [Checked.handleMouseMove, InRange, hactive]
    | some active =>
      rw [Checked.handleMouseMove_eq (h.sized.findScreen h.grounded) h.remembers
        (hbounded.moves move rfl) hactive (h.sized.active hactive)]
      split_ifs with hrange
      · simp [hrange]
      · simp [hrange]

/-- In every run in which the reported extents are `int32` and the captured coordinates and
deltas are small, whatever the layout config, the routing does not overflow if and only if every
move is in range: where it makes the cursor touch an edge, the cell across that edge is on the
grid, and the remote cursor and the delta add up to an `int32`. -/
theorem no_overflow_iff_movesInRange (server : E) (config : AppConfig) (configPath : String)
    (capture : C) (as : List (Action E C)) (host : Host E C) :
    Run step (fun s a t => Bounded s a t ∧ NoOverflow s a t)
        (start server config configPath capture) as host ↔
      Run step (fun s a t => Bounded s a t ∧ MovesInRange s a t)
        (start server config configPath capture) as host := by
  refine Run.guard_iff Ranged (ranged_start server config configPath capture) ?_ ?_
  · exact fun _ _ _ hs hguard hnext => hs.step hguard.1 (step_stepped hnext)
  · intro s a t hs _
    exact and_congr_right fun hbounded => hs.noOverflow_iff hbounded

end Host

/-! ### Two runs that overflow -/

namespace Host

open Checked

/-- The layout config has the screen of the desk in the last column of the grid. -/
def lastColumnDesk : DeskHost :=
  .start (loopback 24800)
    { machineId := "desk", screens := [⟨"desk", 0, ⟨2147483647, 0⟩⟩] } "" {}

def tallMonitor : ScreenInfo := { width := 800, height := 2147483647 }

def tallGuest : List DeskAction :=
  .registerLocal [deskMonitor] :: connect 1001 "guest" [tallMonitor] ++
    [.captured (.mouseMove { x := 1919, y := 1079 })]

/-- The bounded actions lead to a state in which the bounded move overflows. -/
def Overflows (start : DeskHost) (actions : List DeskAction) (move : MouseMoveEvent) : Prop :=
  ∃ host, Run step Bounded start actions host ∧ Small move ∧
    Checked.handleInputEvent host.server.mScreens (.mouseMove move) host.server.mInput = none

theorem overflows_of_execute {start : DeskHost} {actions : List DeskAction} {move : MouseMoveEvent}
    (hmove : Small move)
    (h : (execute step (fun s a t => decide (Bounded s a t)) start actions).any
      (fun host : DeskHost => (Checked.handleInputEvent host.server.mScreens (.mouseMove move)
        host.server.mInput).isNone) = true) : Overflows start actions move := by
  obtain ⟨host, hrun, hnone⟩ := exists_run_of_execute step _ start actions _
    (fun _ _ _ hcheck => of_decide_eq_true hcheck) h
  exact ⟨host, hrun, hmove, Option.isNone_iff_eq_none.mp hnone⟩

/-- A move to the right border overflows in the last column of the grid, and a move over the
lowest pixels of a guest's screen does when the screen is as high as its report allows. -/
theorem routing_overflows :
    Overflows lastColumnDesk [.registerLocal [deskMonitor]] { x := 1919, y := 500 } ∧
      Overflows deskHost tallGuest { x := 1919, y := 1079, deltaX := 5, deltaY := 5 } :=
  ⟨overflows_of_execute (by decide) (by decide +kernel),
    overflows_of_execute (by decide) (by decide +kernel)⟩

end Host
end Mksync
