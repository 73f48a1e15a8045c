import Mksync.ScreenAgreement
import Mksync.TopologyRuns

/-!
# Where registered screens are placed

The four placement rules and the repair come down to one assignment: a persisted cell if it
is free, the origin for the anchor, the next free cell otherwise. All of them choose a free
cell, except that the anchor is put at the origin without a look at who stands there.
-/
namespace Mksync
namespace ServerScreenStore

variable {E : Type} [Endpoint E] {store : ServerScreenStore E}

/-- A screen of the topology stands on the cell. -/
def Occupied (store : ServerScreenStore E) (cell : GridPosition) : Prop :=
  ∃ screen ∈ store.mTopology.screens, screen.cell = cell

instance (store : ServerScreenStore E) (cell : GridPosition) : Decidable (store.Occupied cell) :=
  inferInstanceAs (Decidable (∃ screen ∈ _, _))

theorem occupied_iff_find?_cells (h : store.mTopology.WellFormed) {cell : GridPosition} :
    store.Occupied cell ↔ store.mTopology.mCells.find? cell ≠ none := by
  rw [Option.ne_none_iff_exists']
  constructor
  · rintro ⟨screen, hscreen, rfl⟩
    exact ⟨screen.key, (h.cells _ _).mpr ⟨screen, h.mem_screens.mp hscreen, rfl⟩⟩
  · rintro ⟨key, hkey⟩
    obtain ⟨screen, hscreen, hcell⟩ := (h.cells _ _).mp hkey
    refine ⟨screen, h.mem_screens.mpr ?_, hcell⟩
    rw [h.keyed key screen hscreen]
    exact hscreen

/-! ### The scan for a free cell -/

/-- The screens in the row from the cell on. -/
def ahead (screens : List TopologyScreen) (cell : GridPosition) : Nat :=
  screens.countP fun screen => screen.cell.y = cell.y ∧ cell.x ≤ screen.cell.x

theorem ahead_succ (screens : List TopologyScreen) (x y : Int) :
    ahead screens ⟨x, y⟩ =
      ahead screens ⟨x + 1, y⟩ + screens.countP fun screen => screen.cell = ⟨x, y⟩ := by
  unfold ahead
  induction screens with
  | nil => rfl
  | cons screen rest ih =>
    have hcell : screen.cell = ⟨x, y⟩ ↔ screen.cell.x = x ∧ screen.cell.y = y := by
      cases screen.cell
      rw [GridPosition.mk.injEq]
    simp only [List.countP_cons, decide_eq_true_eq, hcell] at ih ⊢
    rw [ih]
    split_ifs <;> omega

/-- The screen on a taken cell is not ahead of the next one. -/
theorem ahead_lt {screens : List TopologyScreen} {x y : Int}
    (h : ∃ screen ∈ screens, screen.cell = ⟨x, y⟩) :
    ahead screens ⟨x + 1, y⟩ < ahead screens ⟨x, y⟩ := by
  have htaken : 0 < screens.countP fun screen => screen.cell = ⟨x, y⟩ := by
    apply List.countP_pos_iff.mpr
    simpa using h
  have hsucc := ahead_succ screens x y
  omega

theorem ahead_le (screens : List TopologyScreen) (cell : GridPosition) :
    ahead screens cell ≤ screens.length :=
  List.countP_le_length

/-- With more probes than screens ahead the scan finds the first free cell to the right. -/
theorem freeCellFrom_spec (screens : List TopologyScreen) {probes : Nat} (x : Int)
    (h : ahead screens ⟨x, 0⟩ < probes) :
    ∃ n : Nat, freeCellFrom screens probes x = ⟨x + n, 0⟩ ∧
      (¬ ∃ screen ∈ screens, screen.cell = ⟨x + n, 0⟩) ∧
      ∀ i < n, ∃ screen ∈ screens, screen.cell = ⟨x + i, 0⟩ := by
  induction probes generalizing x with
  | zero => simp at h
  | succ probes ih =>
    by_cases htaken : ∃ screen ∈ screens, screen.cell = ⟨x, 0⟩
    · have hless := ahead_lt htaken
      obtain ⟨n, heq, hfree, hbefore⟩ := ih (x + 1) (by omega)
      have hshift : ∀ i : Nat, x + ((i + 1 : Nat) : Int) = x + 1 + i := by
        intro i
        omega
      refine ⟨n + 1, ?_, ?_, ?_⟩
      · rw [freeCellFrom, if_pos (by simpa using htaken), heq, hshift]
      · rwa [hshift]
      · intro i hi
        cases i with
        | zero => simpa using htaken
        | succ i =>
          rw [hshift]
          exact hbefore i (by omega)
    · refine ⟨0, ?_, ?_, by simp⟩
      · rw [freeCellFrom, if_neg (by simpa using htaken)]
        simp
      · simpa using htaken

theorem freeCellFrom_free (screens : List TopologyScreen) (x : Int) :
    ∃ n : Nat, freeCellFrom screens (screens.length + 1) x = ⟨x + n, 0⟩ ∧
      (¬ ∃ screen ∈ screens, screen.cell = ⟨x + n, 0⟩) ∧
      ∀ i < n, ∃ screen ∈ screens, screen.cell = ⟨x + i, 0⟩ :=
  freeCellFrom_spec screens x (Nat.lt_succ_of_le (ahead_le screens ⟨x, 0⟩))

/-- The scan depends on which cells are taken only. -/
theorem freeCellFrom_congr {screens screens' : List TopologyScreen} (x : Int)
    (h : ∀ cell, (∃ screen ∈ screens, screen.cell = cell) ↔
      ∃ screen ∈ screens', screen.cell = cell) :
    freeCellFrom screens (screens.length + 1) x =
      freeCellFrom screens' (screens'.length + 1) x := by
  obtain ⟨n, heq, hfree, hbefore⟩ := freeCellFrom_free screens x
  obtain ⟨n', heq', hfree', hbefore'⟩ := freeCellFrom_free screens' x
  have hsame : n = n' := by
    rcases Nat.lt_trichotomy n n' with hlt | hsame | hgt
    · exact absurd ((h _).mpr (hbefore' n hlt)) hfree
    · exact hsame
    · exact absurd ((h _).mp (hbefore n' hgt)) hfree'
  rw [heq, heq', hsame]

theorem nextFreeCell_spec (store : ServerScreenStore E) (startX : Int) :
    ∃ n : Nat, store.nextFreeCell startX = ⟨startX + n, 0⟩ ∧
      ¬ store.Occupied ⟨startX + n, 0⟩ ∧ ∀ i < n, store.Occupied ⟨startX + i, 0⟩ :=
  freeCellFrom_free store.mTopology.screens startX

theorem not_occupied_nextFreeCell (startX : Int) :
    ¬ store.Occupied (store.nextFreeCell startX) := by
  obtain ⟨n, heq, hfree, _⟩ := store.nextFreeCell_spec startX
  rw [heq]
  exact hfree

/-- Automatic cells lie to the right of the origin. -/
theorem nextFreeCell_one_ne_origin : store.nextFreeCell 1 ≠ ⟨0, 0⟩ := by
  obtain ⟨n, heq, _⟩ := store.nextFreeCell_spec 1
  rw [heq]
  intro horigin
  simp only [GridPosition.mk.injEq] at horigin
  omega

/-! ### The assignment -/

/-- The cell a screen is offered, `anchor` being the list index that defaults to the origin. -/
def assignedCell (store : ServerScreenStore E) (anchor : Option Nat) (key : ScreenKey) :
    GridPosition :=
  match store.configuredCell key with
  | some configured => if store.Occupied configured then store.nextFreeCell 1 else configured
  | none => if anchor = some key.screenIndex then ⟨0, 0⟩ else store.nextFreeCell 1

/-- The anchor has no persisted cell, and somebody stands at the origin. -/
def AnchorTaken (store : ServerScreenStore E) (anchor : Option Nat) (key : ScreenKey) : Prop :=
  store.configuredCell key = none ∧ anchor = some key.screenIndex ∧ store.Occupied ⟨0, 0⟩

theorem occupied_assignedCell {anchor : Option Nat} {key : ScreenKey} :
    store.Occupied (store.assignedCell anchor key) ↔ store.AnchorTaken anchor key := by
  unfold assignedCell AnchorTaken
  cases hconfigured : store.configuredCell key with
  | some configured =>
    by_cases hoccupied : store.Occupied configured
    · simp [hoccupied, not_occupied_nextFreeCell]
    · simp [hoccupied]
  | none =>
    by_cases hanchor : anchor = some key.screenIndex
    · simp [hanchor]
    · simp [hanchor, not_occupied_nextFreeCell]

/-- Everybody but the anchor is offered a free cell. -/
theorem not_occupied_assignedCell {anchor : Option Nat} {key : ScreenKey}
    (h : anchor ≠ some key.screenIndex) : ¬ store.Occupied (store.assignedCell anchor key) := by
  rw [occupied_assignedCell]
  exact fun htaken => h htaken.2.1

/-- Only a persisted cell or the anchor's default is the origin. -/
theorem assignedCell_eq_origin {anchor : Option Nat} {key : ScreenKey}
    (h : anchor ≠ some key.screenIndex) : store.assignedCell anchor key = ⟨0, 0⟩ ↔
      store.configuredCell key = some ⟨0, 0⟩ ∧ ¬ store.Occupied ⟨0, 0⟩ := by
  unfold assignedCell
  cases hconfigured : store.configuredCell key with
  | none => simp [h, nextFreeCell_one_ne_origin]
  | some configured =>
    by_cases hoccupied : store.Occupied configured
    · simp only [hoccupied, if_true, nextFreeCell_one_ne_origin, Option.some.injEq, false_iff]
      rintro ⟨rfl, hfree⟩
      exact hfree hoccupied
    · simp only [hoccupied, if_false, Option.some.injEq]
      constructor
      · rintro rfl
        exact ⟨rfl, hoccupied⟩
      · exact fun hcell => hcell.1

/-- The registration loop with its cells assigned. -/
def registerAssigned (endpoint : E) (ownerId : String) (anchor : Option Nat) (isLocal : Bool) :
    Nat → List ScreenInfo → ServerScreenStore E → ServerScreenStore E
  | _, [], store => store
  | index, info :: rest, store =>
    registerAssigned endpoint ownerId anchor isLocal (index + 1) rest
      (store.addScreen endpoint ⟨ownerId, index⟩ (store.assignedCell anchor ⟨ownerId, index⟩) info
        isLocal)

/-- The list index whose screen is the anchor of the default layout. -/
def anchorIndex (screens : List ScreenInfo) (isLocal : Bool) : Option Nat :=
  if isLocal then some (primaryIndex screens) else none

theorem primaryIndex_le {screens : List ScreenInfo} {index : Nat} {info : ScreenInfo}
    (h : screens[index]? = some info) (hprimary : info.primary = true) :
    primaryIndex screens ≤ index := by
  unfold primaryIndex
  cases hfind : screens.findIdx? (·.primary) with
  | none =>
    have hnone := List.findIdx?_eq_none_iff.mp hfind info (List.mem_of_getElem? h)
    simp [hprimary] at hnone
  | some first =>
    obtain ⟨_, _, hbefore⟩ := List.findIdx?_eq_some_iff_getElem.mp hfind
    by_contra hlt
    simp only [Option.getD_some, not_le] at hlt
    obtain ⟨hindex, rfl⟩ := List.getElem?_eq_some_iff.mp h
    exact hbefore index hlt hprimary

/-- While the flag says whether the anchor has had its turn, the rules choose the assigned
cell and keep the flag. -/
theorem placement_eq (store : ServerScreenStore E) (key : ScreenKey) {info : ScreenInfo}
    {primaryIndex : Nat} {isLocal primaryRegistered : Bool}
    (hprimary : info.primary = true → primaryIndex ≤ key.screenIndex)
    (hflag : primaryRegistered = (isLocal && decide (primaryIndex < key.screenIndex))) :
    let placed := store.placement key info primaryIndex isLocal primaryRegistered
    store.chosenCell placed.1 placed.2.1 =
        store.assignedCell (if isLocal then some primaryIndex else none) key ∧
      placed.2.2 = (isLocal && decide (primaryIndex < key.screenIndex + 1)) := by
  have hrepair : ∀ cell persisted, store.chosenCell cell persisted =
      if persisted = true ∧ store.Occupied cell then store.nextFreeCell 1 else cell := by
    intro cell persisted
    have hoccupied : store.mTopology.screens.any (·.cell = cell) = true ↔ store.Occupied cell := by
      simp [Occupied]
    simp only [chosenCell, Bool.and_eq_true, hoccupied]
  subst hflag
  unfold placement assignedCell
  cases hconfigured : store.configuredCell key with
  | some configured =>
    refine ⟨by simp [hrepair], ?_⟩
    cases isLocal with
    | false => rfl
    | true =>
      cases hinfo : info.primary with
      | false =>
        simp only [Bool.true_and, Bool.false_or, beq_eq_decide, ← Bool.decide_or]
        apply decide_eq_decide.mpr
        omega
      | true =>
        have hle := hprimary hinfo
        simp only [Bool.true_and, Bool.true_or, Bool.or_true, true_eq_decide_iff]
        omega
  | none =>
    cases isLocal with
    | false => simp [hrepair]
    | true =>
      rcases Nat.lt_trichotomy primaryIndex key.screenIndex with hlt | heq | hgt
      · simp [hrepair, hlt, hlt.ne, Nat.lt_succ_of_lt hlt]
      · simp [hrepair, heq]
      · have hinfo : info.primary = false := by
          by_contra hinfo
          have hle := hprimary (by simpa using hinfo)
          omega
        have hnot : ¬ primaryIndex < key.screenIndex := by omega
        have hnot' : ¬ primaryIndex < key.screenIndex + 1 := by omega
        simp [hrepair, hinfo, hnot, hnot', hgt.ne, hgt.ne']

theorem registerScreens_eq_registerAssigned (endpoint : E) (ownerId : String)
    (screens : List ScreenInfo) (isLocal : Bool) :
    store.registerScreens endpoint ownerId screens isLocal =
      registerAssigned endpoint ownerId (anchorIndex screens isLocal) isLocal 0 screens store := by
  have loop : ∀ (primary index : Nat) (rest : List ScreenInfo) (store : ServerScreenStore E),
      (∀ i info, rest[i]? = some info → info.primary = true → primary ≤ index + i) →
      registerFrom endpoint ownerId primary isLocal index
          (isLocal && decide (primary < index)) rest store =
        registerAssigned endpoint ownerId (if isLocal then some primary else none) isLocal index
          rest store := by
    intro primary index rest
    induction rest generalizing index with
    | nil => exact fun _ _ => rfl
    | cons info rest ih =>
      intro store hprimary
      have hplaced := placement_eq store ⟨ownerId, index⟩ (hprimary 0 info rfl)
        (Eq.refl (isLocal && decide (primary < index)))
      simp only [registerFrom, registerAssigned]
      rw [hplaced.1, hplaced.2]
      apply ih
      intro i info' hi hinfo
      have hle := hprimary (i + 1) info' hi hinfo
      omega
  have hstart := loop (primaryIndex screens) 0 screens store fun i info hi hinfo => by
    have hle := primaryIndex_le hi hinfo
    omega
  simpa [registerScreens, anchorIndex] using hstart

/-! ### One registration -/

section Registration

variable {endpoint : E} {ownerId : String} {key key' : ScreenKey} {cell : GridPosition}
  {info : ScreenInfo} {anchor : Option Nat} {isLocal : Bool} {index : Nat}
  {screens rest : List ScreenInfo}

/-- A screen is accepted on a free cell under a free key. -/
theorem addScreen_accepted (isLocal : Bool) (h : store.mTopology.WellFormed)
    (hrect : isValidRect info = true) (hkey : store.mTopology.findScreen key = none)
    (hcell : ¬ store.Occupied cell) :
    ∃ topology, store.mTopology.addScreen ⟨key, cell, info, isLocal⟩ = .ok topology := by
  rw [occupied_iff_find?_cells h, not_not] at hcell
  refine ⟨_, ScreenTopology.addScreen_eq_ok.mpr ⟨hrect, ?_, ?_, rfl⟩⟩
  · exact OrderedMap.contains_eq_false.mpr hkey
  · exact OrderedMap.contains_eq_false.mpr hcell

/-- A screen is refused on a taken cell, and a screen without a positive rect is refused. -/
theorem addScreen_refused (h : store.mTopology.WellFormed)
    (hrefused : isValidRect info = true → store.Occupied cell) :
    store.addScreen endpoint key cell info isLocal = store := by
  unfold addScreen
  cases hadd : store.mTopology.addScreen ⟨key, cell, info, isLocal⟩ with
  | error _ => rfl
  | ok topology =>
    obtain ⟨hrect, _, hcell, _⟩ := ScreenTopology.addScreen_eq_ok.mp hadd
    have hoccupied := (occupied_iff_find?_cells h).mp (hrefused hrect)
    exact absurd (OrderedMap.contains_eq_false.mp hcell) hoccupied

theorem findScreen_addScreen_of_ne (h : key' ≠ key) :
    (store.addScreen endpoint key cell info isLocal).mTopology.findScreen key' =
      store.mTopology.findScreen key' := by
  rcases addScreen_cases store endpoint key cell info isLocal with heq | ⟨_, hadd, htopology, _⟩
  · rw [heq]
  · rw [htopology, ScreenTopology.findScreen_addScreen hadd, if_neg h]

theorem configuredCell_addScreen_of_ne (h : key' ≠ key) :
    (store.addScreen endpoint key cell info isLocal).configuredCell key' =
      store.configuredCell key' := by
  have hkey : ¬ (key.ownerId = key'.ownerId ∧ key.screenIndex = key'.screenIndex) := by
    rintro ⟨howner, hindex⟩
    obtain ⟨_, _⟩ := key
    obtain ⟨_, _⟩ := key'
    simp_all
  unfold addScreen
  split
  · rfl
  · simp [configuredCell, rememberScreenLayout, findScreenLayout_upsertScreenLayout, hkey]

/-- The screen stands in the topology and in the store, under its key, on a cell of its own. -/
def Placed (store : ServerScreenStore E) (endpoint : E) (key : ScreenKey) : Prop :=
  ∃ node ∈ store.mScreens.nodes, node.key = endpoint ∧ node.value.key = key ∧
    store.mTopology.findScreen key = some node.value.toTopologyScreen ∧
    ∀ other ∈ store.mTopology.screens, other.cell = node.value.cell → other.key = key

/-- What one accepted registration leaves behind. -/
theorem addScreen_placed (endpoint : E) {topology : ScreenTopology}
    (hadd : store.mTopology.addScreen ⟨key, cell, info, isLocal⟩ = .ok topology) :
    ∃ node ∈ (store.addScreen endpoint key cell info isLocal).mScreens.nodes,
      node.key = endpoint ∧ node.value.toTopologyScreen = ⟨key, cell, info, isLocal⟩ ∧
      (store.addScreen endpoint key cell info isLocal).mTopology.findScreen key =
        some node.value.toTopologyScreen ∧
      (store.addScreen endpoint key cell info isLocal).configuredCell key = some cell := by
  refine ⟨⟨store.mScreens.nextAddress, endpoint, ⟨endpoint, key, cell, isLocal, info⟩⟩, ?_, rfl,
    rfl, ?_, ?_⟩
  · simp [addScreen, hadd, rememberScreenLayout]
  · have hfind := ScreenTopology.findScreen_addScreen hadd key
    simpa [addScreen, hadd, rememberScreenLayout, VirtualScreen.toTopologyScreen] using hfind
  · simp [addScreen, hadd, rememberScreenLayout, configuredCell,
      findScreenLayout_upsertScreenLayout]

/-! ### The whole list -/

theorem registerAssigned_append (screens rest : List ScreenInfo) :
    registerAssigned endpoint ownerId anchor isLocal index (screens ++ rest) store =
      registerAssigned endpoint ownerId anchor isLocal (index + screens.length) rest
        (registerAssigned endpoint ownerId anchor isLocal index screens store) := by
  induction screens generalizing index store with
  | nil => rfl
  | cons info screens ih =>
    rw [List.cons_append, registerAssigned, ih, List.length_cons, Nat.add_right_comm,
      Nat.add_assoc]
    rfl

theorem registerAssigned_induction {P : ServerScreenStore E → Prop}
    (hadd : ∀ store i cell info, index ≤ i → i < index + screens.length → P store →
      P (store.addScreen endpoint ⟨ownerId, i⟩ cell info isLocal)) (h : P store) :
    P (registerAssigned endpoint ownerId anchor isLocal index screens store) := by
  induction screens generalizing index store with
  | nil => exact h
  | cons info screens ih =>
    apply ih
    · intro s i c info' hle hlt hs
      exact hadd s i c info' (by omega) (by simp only [List.length_cons]; omega) hs
    · exact hadd store index _ info le_rfl (by simp) h

theorem wellFormed_addScreen (h : store.mTopology.WellFormed) :
    (store.addScreen endpoint key cell info isLocal).mTopology.WellFormed := by
  rcases addScreen_cases store endpoint key cell info isLocal with heq | ⟨_, hadd, htopology, _⟩
  · rwa [heq]
  · rw [htopology]
    exact h.addScreen hadd

theorem wellFormed_registerAssigned (h : store.mTopology.WellFormed) :
    (registerAssigned endpoint ownerId anchor isLocal index screens
      store).mTopology.WellFormed :=
  registerAssigned_induction (P := fun s => s.mTopology.WellFormed)
    (fun _ _ _ _ _ _ hs => wellFormed_addScreen hs) h

/-- The list concerns the keys of its own indices only. -/
theorem findScreen_registerAssigned_of_ne
    (h : ∀ i, index ≤ i → i < index + screens.length → key ≠ ⟨ownerId, i⟩) :
    (registerAssigned endpoint ownerId anchor isLocal index screens
      store).mTopology.findScreen key = store.mTopology.findScreen key :=
  registerAssigned_induction (P := fun s => s.mTopology.findScreen key =
    store.mTopology.findScreen key)
    (fun _ _ _ _ hle hlt hs => (findScreen_addScreen_of_ne (h _ hle hlt)).trans hs) rfl

theorem configuredCell_registerAssigned_of_ne
    (h : ∀ i, index ≤ i → i < index + screens.length → key ≠ ⟨ownerId, i⟩) :
    (registerAssigned endpoint ownerId anchor isLocal index screens store).configuredCell key =
      store.configuredCell key :=
  registerAssigned_induction (P := fun s => s.configuredCell key = store.configuredCell key)
    (fun _ _ _ _ hle hlt hs => (configuredCell_addScreen_of_ne (h _ hle hlt)).trans hs) rfl

/-- What stands in the topology and in the store stays there. -/
theorem findScreen_registerAssigned_of_some {screen : TopologyScreen}
    (h : store.mTopology.findScreen key = some screen) :
    (registerAssigned endpoint ownerId anchor isLocal index screens
      store).mTopology.findScreen key = some screen := by
  refine registerAssigned_induction (P := fun s => s.mTopology.findScreen key = some screen) ?_ h
  intro s i c info' _ _ hs
  rcases addScreen_cases s endpoint ⟨ownerId, i⟩ c info' isLocal with heq | ⟨_, hadd, htopology, _⟩
  · rwa [heq]
  · rw [htopology, ScreenTopology.findScreen_addScreen hadd, if_neg, hs]
    rintro rfl
    simp [ScreenTopology.findScreen_addScreen_self hadd] at hs

theorem mem_nodes_registerAssigned_of_mem {node : ScreenNode E} (h : node ∈ store.mScreens.nodes) :
    node ∈ (registerAssigned endpoint ownerId anchor isLocal index screens store).mScreens.nodes :=
  registerAssigned_induction (P := fun s => node ∈ s.mScreens.nodes)
    (fun _ _ _ _ _ _ hs => mem_nodes_addScreen_of_mem hs) h

theorem occupied_addScreen (h : store.mTopology.WellFormed)
    (hkey : store.mTopology.findScreen key = none) (hcell : ¬ store.Occupied cell)
    {other : GridPosition} :
    (store.addScreen endpoint key cell info isLocal).Occupied other ↔
      store.Occupied other ∨ (isValidRect info = true ∧ cell = other) := by
  rw [occupied_iff_find?_cells (wellFormed_addScreen h), occupied_iff_find?_cells h]
  cases hrect : isValidRect info with
  | false =>
    rw [addScreen_refused h (by simp [hrect])]
    simp
  | true =>
    obtain ⟨topology, hadd⟩ := addScreen_accepted isLocal h hrect hkey hcell
    have htopology : (store.addScreen endpoint key cell info isLocal).mTopology = topology := by
      simp [addScreen, hadd, rememberScreenLayout]
    rw [htopology, ScreenTopology.find?_cells_addScreen hadd]
    by_cases heq : other = cell
    · simp [heq]
    · simp [heq, Ne.symm heq]

/-- Screens that are not the anchor come to the origin by a persisted cell only. -/
theorem occupied_origin_registerAssigned (h : store.mTopology.WellFormed)
    (hkeys : ∀ i, store.mTopology.findScreen ⟨ownerId, index + i⟩ = none)
    (hanchor : ∀ i < screens.length, anchor ≠ some (index + i)) :
    (registerAssigned endpoint ownerId anchor isLocal index screens store).Occupied ⟨0, 0⟩ ↔
      store.Occupied ⟨0, 0⟩ ∨ ∃ i info, screens[i]? = some info ∧ isValidRect info = true ∧
        store.configuredCell ⟨ownerId, index + i⟩ = some ⟨0, 0⟩ := by
  induction screens generalizing index store with
  | nil => simp [registerAssigned]
  | cons info screens ih =>
    have hfirst : anchor ≠ some (⟨ownerId, index⟩ : ScreenKey).screenIndex :=
      hanchor 0 (by simp)
    have hfree : ¬ store.Occupied (store.assignedCell anchor ⟨ownerId, index⟩) :=
      not_occupied_assignedCell hfirst
    have hne : ∀ i, (⟨ownerId, index + 1 + i⟩ : ScreenKey) ≠ ⟨ownerId, index⟩ := by
      intro i
      exact ScreenKey.ne_of_screenIndex_ne (by omega)
    have hconfigured : ∀ i, (store.addScreen endpoint ⟨ownerId, index⟩
        (store.assignedCell anchor ⟨ownerId, index⟩) info isLocal).configuredCell
          ⟨ownerId, index + 1 + i⟩ = store.configuredCell ⟨ownerId, index + (i + 1)⟩ := by
      intro i
      rw [configuredCell_addScreen_of_ne (hne i), Nat.add_assoc, Nat.add_comm 1]
    have hkey : store.mTopology.findScreen ⟨ownerId, index⟩ = none := hkeys 0
    rw [registerAssigned, ih (wellFormed_addScreen h), occupied_addScreen h hkey hfree,
      assignedCell_eq_origin hfirst]
    · simp only [hconfigured]
      constructor
      · rintro ((hbefore | ⟨hrect, hcell, _⟩) | ⟨i, info', hi, hrect, hcell⟩)
        · exact .inl hbefore
        · exact .inr ⟨0, info, rfl, hrect, hcell⟩
        · exact .inr ⟨i + 1, info', hi, hrect, hcell⟩
      · rintro (hbefore | ⟨i, info', hi, hrect, hcell⟩)
        · exact .inl (.inl hbefore)
        · cases i with
          | zero =>
            cases hi
            by_cases hbefore : store.Occupied ⟨0, 0⟩
            · exact .inl (.inl hbefore)
            · exact .inl (.inr ⟨hrect, hcell, hbefore⟩)
          | succ i => exact .inr ⟨i, info', hi, hrect, hcell⟩
    · intro i
      rw [findScreen_addScreen_of_ne (hne i), Nat.add_assoc, Nat.add_comm 1]
      exact hkeys (i + 1)
    · intro i hi
      rw [Nat.add_assoc, Nat.add_comm 1]
      exact hanchor (i + 1) (by simp only [List.length_cons]; omega)

/-- A screen of the list is placed unless it is the anchor and finds the origin taken. -/
theorem placed_registerAssigned_iff (h : store.mTopology.WellFormed)
    (hkeys : ∀ i, store.mTopology.findScreen ⟨ownerId, i⟩ = none)
    (hget : screens[index]? = some info) (hrect : isValidRect info = true) :
    (registerAssigned endpoint ownerId anchor isLocal 0 screens store).Placed endpoint
        ⟨ownerId, index⟩ ↔
      ¬ (registerAssigned endpoint ownerId anchor isLocal 0 (screens.take index)
        store).AnchorTaken anchor ⟨ownerId, index⟩ := by
  obtain ⟨hindex, rfl⟩ := List.getElem?_eq_some_iff.mp hget
  have hsplit : screens = screens.take index ++ screens[index] :: screens.drop (index + 1) := by
    rw [List.getElem_cons_drop, List.take_append_drop]
  have hlength : 0 + (screens.take index).length = index := by
    simp only [List.length_take]
    omega
  generalize hbefore : registerAssigned endpoint ownerId anchor isLocal 0 (screens.take index)
    store = before
  have hwellFormed : before.mTopology.WellFormed := hbefore ▸ wellFormed_registerAssigned h
  have hkey : before.mTopology.findScreen ⟨ownerId, index⟩ = none := by
    rw [← hbefore, findScreen_registerAssigned_of_ne, hkeys]
    intro i _ hi
    exact ScreenKey.ne_of_screenIndex_ne (by omega)
  -- the list up to the screen, the screen, and the rest of the list
  have hloop : registerAssigned endpoint ownerId anchor isLocal 0 screens store =
      registerAssigned endpoint ownerId anchor isLocal (index + 1) (screens.drop (index + 1))
        (before.addScreen endpoint ⟨ownerId, index⟩ (before.assignedCell anchor ⟨ownerId, index⟩)
          screens[index] isLocal) := by
    conv_lhs => rw [hsplit, registerAssigned_append, hbefore, hlength, registerAssigned]
  have hlater : ∀ i, index + 1 ≤ i → i < index + 1 + (screens.drop (index + 1)).length →
      (⟨ownerId, index⟩ : ScreenKey) ≠ ⟨ownerId, i⟩ := by
    intro i hi _
    exact ScreenKey.ne_of_screenIndex_ne (by omega)
  rw [hloop]
  constructor
  · rintro ⟨node, _, _, _, hfind, _⟩ htaken
    rw [findScreen_registerAssigned_of_ne hlater,
      addScreen_refused hwellFormed fun _ => occupied_assignedCell.mpr htaken, hkey] at hfind
    cases hfind
  · intro htaken
    rw [← occupied_assignedCell] at htaken
    obtain ⟨topology, hadd⟩ :=
      addScreen_accepted isLocal hwellFormed hrect hkey htaken
    obtain ⟨node, hnode, hendpoint, hview, hfind, _⟩ := addScreen_placed endpoint hadd
    have hnodeKey : node.value.key = ⟨ownerId, index⟩ := congrArg TopologyScreen.key hview
    have hadded : (before.addScreen endpoint ⟨ownerId, index⟩
        (before.assignedCell anchor ⟨ownerId, index⟩) screens[index]
          isLocal).mTopology.WellFormed :=
      wellFormed_addScreen hwellFormed
    generalize before.addScreen endpoint ⟨ownerId, index⟩
      (before.assignedCell anchor ⟨ownerId, index⟩) screens[index] isLocal = added
      at hnode hfind hadded ⊢
    refine ⟨node, mem_nodes_registerAssigned_of_mem hnode, hendpoint, hnodeKey,
      findScreen_registerAssigned_of_some hfind, ?_⟩
    intro other hother hcell
    have hfinal : (registerAssigned endpoint ownerId anchor isLocal (index + 1)
        (screens.drop (index + 1)) added).mTopology.WellFormed :=
      wellFormed_registerAssigned hadded
    exact hfinal.cell_inj (hfinal.mem_screens.mp hother) (findScreen_registerAssigned_of_some hfind)
      hcell

/-- The origin is left to the anchor: if the anchor has a positive rect and no persisted
cell, no screen of the topology stands at the origin and none before it in the list has the
origin as its persisted cell. -/
def AnchorFree (store : ServerScreenStore E) (ownerId : String) (screens : List ScreenInfo)
    (isLocal : Bool) : Prop :=
  ∀ index info, anchorIndex screens isLocal = some index → screens[index]? = some info →
    isValidRect info = true → store.configuredCell ⟨ownerId, index⟩ = none →
    ¬ store.Occupied ⟨0, 0⟩ ∧ ∀ i < index, ∀ info', screens[i]? = some info' →
      isValidRect info' = true → store.configuredCell ⟨ownerId, i⟩ ≠ some ⟨0, 0⟩

theorem findScreen_eq_none_of_owner (h : store.mTopology.WellFormed)
    (howner : ∀ screen ∈ store.mTopology.screens, screen.key.ownerId ≠ ownerId) (i : Nat) :
    store.mTopology.findScreen ⟨ownerId, i⟩ = none := by
  by_contra hfound
  obtain ⟨screen, hscreen⟩ := Option.ne_none_iff_exists'.mp hfound
  have hkey := h.keyed _ _ hscreen
  refine howner screen (h.mem_screens.mpr ?_) (by rw [hkey])
  rw [hkey]
  exact hscreen

/-- At its turn a screen finds its own persisted cell, and the origin as the list left it. -/
theorem placed_registerScreens_turn (h : store.mTopology.WellFormed)
    (hkeys : ∀ i, store.mTopology.findScreen ⟨ownerId, i⟩ = none)
    (hget : screens[index]? = some info) (hrect : isValidRect info = true) :
    (store.registerScreens endpoint ownerId screens isLocal).Placed endpoint ⟨ownerId, index⟩ ↔
      (anchorIndex screens isLocal = some index → store.configuredCell ⟨ownerId, index⟩ = none →
        ¬ store.Occupied ⟨0, 0⟩ ∧ ∀ i < index, ∀ info', screens[i]? = some info' →
          isValidRect info' = true → store.configuredCell ⟨ownerId, i⟩ ≠ some ⟨0, 0⟩) := by
  have hindex := (List.getElem?_eq_some_iff.mp hget).1
  have hlength : (screens.take index).length = index := by
    simp only [List.length_take]
    omega
  rw [registerScreens_eq_registerAssigned, placed_registerAssigned_iff h hkeys hget hrect,
    AnchorTaken, configuredCell_registerAssigned_of_ne]
  · by_cases hanchor : anchorIndex screens isLocal = some index
    · rw [occupied_origin_registerAssigned h (fun i => hkeys (0 + i))]
      · simp only [hanchor, true_and, true_implies, not_and, not_or, not_exists, Nat.zero_add]
        refine forall_congr' fun _ => and_congr_right fun _ => ⟨?_, ?_⟩
        · intro hlist i hi info' hget' hrect'
          apply hlist i info' _ hrect'
          rw [List.getElem?_take_of_lt hi]
          exact hget'
        · intro hlist i info' hget' hrect'
          have hi := (List.getElem?_eq_some_iff.mp hget').1
          rw [hlength] at hi
          apply hlist i hi info' _ hrect'
          rwa [List.getElem?_take_of_lt hi] at hget'
      · intro i hi heq
        rw [hanchor, Option.some.injEq] at heq
        omega
    · simp [hanchor]
  · intro i _ hi
    exact ScreenKey.ne_of_screenIndex_ne (by omega)

theorem placed_registerScreens_iff (h : store.mTopology.WellFormed)
    (howner : ∀ screen ∈ store.mTopology.screens, screen.key.ownerId ≠ ownerId) :
    (∀ index info, screens[index]? = some info → isValidRect info = true →
      (store.registerScreens endpoint ownerId screens isLocal).Placed endpoint ⟨ownerId, index⟩) ↔
      store.AnchorFree ownerId screens isLocal := by
  have hkeys := findScreen_eq_none_of_owner h howner
  constructor
  · intro hplaced index info hanchor hget hrect
    exact (placed_registerScreens_turn h hkeys hget hrect).mp (hplaced index info hget hrect)
      hanchor
  · intro hfree index info hget hrect
    exact (placed_registerScreens_turn h hkeys hget hrect).mpr fun hanchor =>
      hfree index info hanchor hget hrect

end Registration

/-! ### From every reachable store -/

/-- The operations that change a store. -/
inductive Operation (E : Type)
  | registerScreens (endpoint : E) (ownerId : String) (screens : List ScreenInfo) (isLocal : Bool)
  | removeScreen (endpoint : E) (activeScreen : Option Nat)
  | rememberOwner (endpoint : E) (ownerId : String)
  | forgetOwner (endpoint : E)

def perform (store : ServerScreenStore E) : Operation E → ServerScreenStore E
  | .registerScreens endpoint ownerId screens isLocal =>
    store.registerScreens endpoint ownerId screens isLocal
  | .removeScreen endpoint activeScreen => (store.removeScreen endpoint activeScreen).2
  | .rememberOwner endpoint ownerId => store.rememberOwner endpoint ownerId
  | .forgetOwner endpoint => store.forgetOwner endpoint

def Reachable (store : ServerScreenStore E) : Prop :=
  ∃ (config : AppConfig) (configPath : String) (operations : List (Operation E)),
    store = operations.foldl perform (init config configPath)

theorem Grounded.perform (h : store.Grounded) (operation : Operation E) :
    (store.perform operation).Grounded := by
  cases operation with
  | registerScreens endpoint ownerId screens isLocal =>
    exact h.registerScreens endpoint ownerId screens isLocal
  | removeScreen endpoint activeScreen => exact h.eraseEndpoint endpoint
  | rememberOwner | forgetOwner => exact ⟨h.wellFormed, h.routed, h.viewed⟩

theorem Reachable.grounded (h : store.Reachable) : store.Grounded := by
  obtain ⟨config, configPath, operations, rfl⟩ := h
  exact operations.foldlRecOn _ (grounded_init config configPath)
    fun _ hs operation _ => hs.perform operation

/-- Every reported screen with a positive rect is placed exactly when the origin is left to
the anchor. -/
theorem reported_screens_placed_iff (h : store.Reachable) (endpoint : E) (ownerId : String)
    (howner : ∀ screen ∈ store.mTopology.screens, screen.key.ownerId ≠ ownerId)
    (screens : List ScreenInfo) (isLocal : Bool) :
    (∀ index info, screens[index]? = some info → 0 < info.width → 0 < info.height →
      (store.registerScreens endpoint ownerId screens isLocal).Placed endpoint ⟨ownerId, index⟩) ↔
      store.AnchorFree ownerId screens isLocal := by
  have hplaced : (∀ index info, screens[index]? = some info → isValidRect info = true →
      (store.registerScreens endpoint ownerId screens isLocal).Placed endpoint ⟨ownerId, index⟩) ↔
        store.AnchorFree ownerId screens isLocal :=
    placed_registerScreens_iff h.grounded.wellFormed howner
  rw [← hplaced]
  simp [isValidRect]

/-- A desk whose only monitor was remembered at the origin. -/
def oneMonitorDesk : ServerScreenStore IPv4Endpoint :=
  .init { machineId := "desk", screens := [⟨"desk", 0, ⟨0, 0⟩⟩] } ""

theorem reported_screens_placed_side :
    (oneMonitorDesk.registerScreens (loopback 24800) "desk" [deskMonitor, sideMonitor]
      true).Placed (loopback 24800) ⟨"desk", 1⟩ := by
  have hreachable : oneMonitorDesk.Reachable := ⟨_, _, [], rfl⟩
  refine (reported_screens_placed_iff hreachable (loopback 24800) "desk" (by decide)
    [deskMonitor, sideMonitor] true).mpr ?_ 1 sideMonitor rfl (by decide) (by decide)
  intro anchor info hanchor _ _ hconfigured
  have hanchor : some 0 = some anchor := hanchor
  cases hanchor
  have hpersisted : oneMonitorDesk.configuredCell ⟨"desk", 0⟩ = some ⟨0, 0⟩ := by decide
  rw [hpersisted] at hconfigured
  cases hconfigured

/-- A new monitor becomes the primary one, behind the old one in the list: the old one has
the origin, and the new one is dropped. -/
theorem new_primary_dropped :
    oneMonitorDesk.Reachable ∧ oneMonitorDesk.mTopology.screens = [] ∧
      [sideMonitor, deskMonitor][1]? = some deskMonitor ∧
      0 < deskMonitor.width ∧ 0 < deskMonitor.height ∧
      ¬ (oneMonitorDesk.registerScreens (loopback 24800) "desk" [sideMonitor, deskMonitor]
        true).Placed (loopback 24800) ⟨"desk", 1⟩ := by
  refine ⟨⟨_, _, [], rfl⟩, rfl, rfl, by decide, by decide, ?_⟩
  rintro ⟨node, _, _, _, hfind, _⟩
  have hnone : (oneMonitorDesk.registerScreens (loopback 24800) "desk" [sideMonitor, deskMonitor]
      true).mTopology.findScreen ⟨"desk", 1⟩ = none := by decide +kernel
  rw [hnone] at hfind
  cases hfind

end ServerScreenStore
end Mksync
