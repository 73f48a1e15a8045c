import Mksync.LayoutStability
import Mksync.RememberedLayout
import Mksync.SessionIsolation

/-!
# Reporting again

A report takes the endpoint's screens down and seats the list anew. A screen that was
registered before finds its cell remembered, and keeps it unless an entry in front of it that
was not registered is seated there first.
-/
namespace Mksync

open TransitionRuns

namespace ScreenTopology

/-- The screens decide which cells are taken. -/
theorem WellFormed.ext {t t' : ScreenTopology} (h : t.WellFormed) (h' : t'.WellFormed)
    (hscreens : ∀ key, t.findScreen key = t'.findScreen key) : t = t' := by
  have hmap : t.mScreens = t'.mScreens := OrderedMap.ext_find? hscreens
  have hcells : t.mCells = t'.mCells := by
    apply OrderedMap.ext_find?
    intro cell
    apply Option.ext
    intro key
    rw [h.cells, h'.cells, hscreens]
  cases t
  cases t'
  cases hmap
  cases hcells
  rfl

end ScreenTopology

namespace ServerScreenStore

variable {E : Type} [Endpoint E] {before store store' : ServerScreenStore E} {endpoint : E}
  {ownerId : String} {key : ScreenKey} {cell : GridPosition} {index : Nat} {info : ScreenInfo}
  {screens : List ScreenInfo} {taken : List TopologyScreen}

/-- The screen of the key, if both states have one, stands where it stood. -/
def Keeps (before store : ServerScreenStore E) (key : ScreenKey) : Prop :=
  ∀ cell ∈ before.cellOf key, ∀ cell' ∈ store.cellOf key, cell' = cell

/-- The cell of a key while the `taken` screens stand: the remembered one if it is free, the
next free one otherwise. -/
def seat (store : ServerScreenStore E) (key : ScreenKey) (taken : List TopologyScreen) :
    GridPosition :=
  match store.configuredCell key with
  | some configured =>
    if ∃ screen ∈ taken, screen.cell = configured then freeCellFrom taken (taken.length + 1) 1
    else configured
  | none => freeCellFrom taken (taken.length + 1) 1

/-- The cells to which the list returns, `index` being the list index of its first entry. -/
def returningCells (store : ServerScreenStore E) (ownerId : String) :
    Nat → List ScreenInfo → List GridPosition
  | _, [] => []
  | index, info :: rest =>
    (if isValidRect info then (store.cellOf ⟨ownerId, index⟩).toList else []) ++
      store.returningCells ownerId (index + 1) rest

/-- No entry that was not registered is seated on a cell to which an entry behind it
returns. -/
def Undisturbed (store : ServerScreenStore E) (ownerId : String) :
    Nat → List ScreenInfo → List TopologyScreen → Prop
  | _, [], _ => True
  | index, info :: rest, taken =>
    if isValidRect info then
      (store.cellOf ⟨ownerId, index⟩ = none →
        store.seat ⟨ownerId, index⟩ taken ∉ store.returningCells ownerId (index + 1) rest) ∧
      store.Undisturbed ownerId (index + 1) rest
        (⟨⟨ownerId, index⟩, store.seat ⟨ownerId, index⟩ taken, info, false⟩ :: taken)
    else store.Undisturbed ownerId (index + 1) rest taken

instance decidableUndisturbed (store : ServerScreenStore E) (ownerId : String) :
    ∀ index screens taken, Decidable (store.Undisturbed ownerId index screens taken)
  | _, [], _ => .isTrue trivial
  | index, info :: rest, _ =>
    have := decidableUndisturbed store ownerId (index + 1) rest
    inferInstanceAs (Decidable (if isValidRect info then _ else _))

theorem mem_returningCells : cell ∈ store.returningCells ownerId index screens ↔
    ∃ i info, screens[i]? = some info ∧ isValidRect info = true ∧
      store.cellOf ⟨ownerId, index + i⟩ = some cell := by
  induction screens generalizing index with
  | nil => simp [returningCells]
  | cons first rest ih =>
    have hfirst : cell ∈ (if isValidRect first then (store.cellOf ⟨ownerId, index⟩).toList
        else []) ↔ isValidRect first = true ∧ store.cellOf ⟨ownerId, index⟩ = some cell := by
      by_cases hrect : isValidRect first = true
      · simp [hrect]
      · simp [hrect]
    rw [returningCells, List.mem_append, hfirst, ih]
    constructor
    · rintro (⟨hrect, hcell⟩ | ⟨i, info, hinfo, hrect, hcell⟩)
      · exact ⟨0, first, rfl, hrect, hcell⟩
      · refine ⟨i + 1, info, hinfo, hrect, ?_⟩
        rwa [← Nat.add_assoc, Nat.add_right_comm]
    · rintro ⟨i, info, hinfo, hrect, hcell⟩
      cases i with
      | zero =>
        cases hinfo
        exact .inl ⟨hrect, hcell⟩
      | succ i =>
        refine .inr ⟨i, info, hinfo, hrect, ?_⟩
        rwa [Nat.add_right_comm, Nat.add_assoc]

/-! ### The seats of a list -/

theorem assignedCell_eq_seat (hconfigured : store.configuredCell key = before.configuredCell key)
    (htaken : ∀ cell, store.Occupied cell ↔ ∃ screen ∈ taken, screen.cell = cell) :
    store.assignedCell none key = before.seat key taken := by
  have hnext : store.nextFreeCell 1 = freeCellFrom taken (taken.length + 1) 1 :=
    freeCellFrom_congr 1 htaken
  unfold assignedCell seat
  rw [hconfigured, hnext]
  cases before.configuredCell key with
  | none => simp
  | some configured => simp only [htaken configured]

/-- A screen returns to its remembered cell while that is free. -/
theorem seat_of_free (h : store.configuredCell key = some cell)
    (hfree : ¬ ∃ screen ∈ taken, screen.cell = cell) : store.seat key taken = cell := by
  unfold seat
  simp only [h, if_neg hfree]

theorem forall_keeps_succ : (∀ i, index ≤ i → before.Keeps store ⟨ownerId, i⟩) ↔
    before.Keeps store ⟨ownerId, index⟩ ∧
      ∀ i, index + 1 ≤ i → before.Keeps store ⟨ownerId, i⟩ := by
  constructor
  · exact fun h => ⟨h index le_rfl, fun i hi => h i (by omega)⟩
  · rintro ⟨hindex, hrest⟩ i hi
    rcases Nat.eq_or_lt_of_le hi with rfl | hlt
    · exact hindex
    · exact hrest i hlt

/-- What the registration of a list has to do with the states around it: the topology stands
on the `taken` cells, none of the keys to come is registered, each of them has the
remembered cell of before, and nobody stands on a cell to which the list returns. -/
structure Seating (before store : ServerScreenStore E) (ownerId : String) (index : Nat)
    (screens : List ScreenInfo) (taken : List TopologyScreen) : Prop where
  wellFormed : store.mTopology.WellFormed
  keys : ∀ i, store.mTopology.findScreen ⟨ownerId, index + i⟩ = none
  configured : ∀ i, store.configuredCell ⟨ownerId, index + i⟩ =
    before.configuredCell ⟨ownerId, index + i⟩
  occupied : ∀ cell, store.Occupied cell ↔ ∃ screen ∈ taken, screen.cell = cell
  free : ∀ cell ∈ before.returningCells ownerId index screens, ¬ store.Occupied cell

namespace Seating

theorem assignedCell_eq (h : Seating before store ownerId index screens taken) :
    store.assignedCell none ⟨ownerId, index⟩ = before.seat ⟨ownerId, index⟩ taken :=
  assignedCell_eq_seat (h.configured 0) h.occupied

/-- An entry without a positive rect is passed over. -/
theorem refused (h : Seating before store ownerId index (info :: screens) taken)
    (hrect : ¬ isValidRect info = true) :
    Seating before store ownerId (index + 1) screens taken := by
  have hshift : ∀ i, index + 1 + i = index + (i + 1) := by
    intro i
    omega
  refine ⟨h.wellFormed, ?_, ?_, h.occupied, ?_⟩
  · intro i
    rw [hshift]
    exact h.keys (i + 1)
  · intro i
    rw [hshift]
    exact h.configured (i + 1)
  · intro cell hcell
    exact h.free cell (by simpa [returningCells, hrect] using hcell)

/-- An entry with a positive rect takes its seat. -/
theorem accepted (h : Seating before store ownerId index (info :: screens) taken)
    (hrect : isValidRect info = true) (endpoint : E)
    (hleft : before.seat ⟨ownerId, index⟩ taken ∉
      before.returningCells ownerId (index + 1) screens) :
    Seating before (store.addScreen endpoint ⟨ownerId, index⟩
        (store.assignedCell none ⟨ownerId, index⟩) info false) ownerId (index + 1) screens
      (⟨⟨ownerId, index⟩, before.seat ⟨ownerId, index⟩ taken, info, false⟩ :: taken) := by
  have hkey : store.mTopology.findScreen ⟨ownerId, index⟩ = none := h.keys 0
  have hfree : ¬ store.Occupied (store.assignedCell none ⟨ownerId, index⟩) :=
    not_occupied_assignedCell (by simp)
  have hoccupied : ∀ cell, (store.addScreen endpoint ⟨ownerId, index⟩
      (store.assignedCell none ⟨ownerId, index⟩) info false).Occupied cell ↔
        store.Occupied cell ∨ before.seat ⟨ownerId, index⟩ taken = cell := by
    intro cell
    rw [occupied_addScreen h.wellFormed hkey hfree, h.assignedCell_eq]
    simp [hrect]
  refine ⟨wellFormed_addScreen h.wellFormed, findScreen_addScreen_later h.keys, ?_, ?_, ?_⟩
  · intro i
    have hshift : index + 1 + i = index + (i + 1) := by omega
    rw [configuredCell_addScreen_of_ne, hshift]
    · exact h.configured (i + 1)
    · exact ScreenKey.ne_of_screenIndex_ne (by omega)
  · intro cell
    rw [hoccupied, h.occupied]
    simp [or_comm]
  · intro cell hcell
    rw [hoccupied]
    rintro (hstands | rfl)
    · exact h.free cell (by simp [returningCells, hcell]) hstands
    · exact hleft hcell

end Seating

theorem Remembered.configuredCell (h : store.Remembered) (hcell : store.cellOf key = some cell) :
    store.configuredCell key = some cell := by
  obtain ⟨screen, hscreen, rfl⟩ := Option.map_eq_some_iff.mp hcell
  exact h key screen hscreen

/-- What stood on different cells returns to different cells. -/
theorem not_mem_returningCells (h : store.mTopology.WellFormed)
    (hcell : store.cellOf ⟨ownerId, index⟩ = some cell) :
    cell ∉ store.returningCells ownerId (index + 1) screens := by
  intro hmem
  obtain ⟨i, _, _, _, hlater⟩ := mem_returningCells.mp hmem
  have hkey := congrArg ScreenKey.screenIndex (cellOf_inj h hcell hlater)
  simp only at hkey
  omega

/-- A cell that was taken in front of the screen that returns to it is not left to it. -/
theorem not_keeps_of_settled (h : store.mTopology.WellFormed)
    (hkeys : ∀ i, store.mTopology.findScreen ⟨ownerId, index + 1 + i⟩ = none)
    (hsettled : (registerAssigned endpoint ownerId none false (index + 1) screens store).Settled
      ownerId index cell)
    (hreturns : cell ∈ before.returningCells ownerId (index + 1) screens) :
    ¬ ∀ i, index + 1 ≤ i → before.Keeps
      (registerAssigned endpoint ownerId none false (index + 1) screens store) ⟨ownerId, i⟩ := by
  intro hkeeps
  obtain ⟨i, info, hinfo, hrect, hreturns⟩ := mem_returningCells.mp hreturns
  obtain ⟨new, hnew⟩ : ∃ new, (registerAssigned endpoint ownerId none false (index + 1) screens
      store).Settled ownerId (index + 1 + i) new :=
    exists_settled_registerAssigned h hkeys hinfo hrect
  have hsame : new = cell := hkeeps (index + 1 + i) (by omega) cell hreturns new hnew.1
  have hkey := cellOf_inj (wellFormed_registerAssigned h) hsettled.1 (hsame ▸ hnew.1)
  have hindex : index = index + 1 + i := congrArg ScreenKey.screenIndex hkey
  omega

/-- The list keeps the places of before if and only if it is seated undisturbed. -/
theorem keeps_registerAssigned_iff (endpoint : E) (hbefore : before.mTopology.WellFormed)
    (hremembered : before.Remembered) (h : Seating before store ownerId index screens taken) :
    (∀ i, index ≤ i → before.Keeps
      (registerAssigned endpoint ownerId none false index screens store) ⟨ownerId, i⟩) ↔
      before.Undisturbed ownerId index screens taken := by
  induction screens generalizing index store taken with
  | nil =>
    refine iff_of_true ?_ trivial
    intro i hi cell _ cell' hcell'
    obtain ⟨j, rfl⟩ := Nat.exists_eq_add_of_le hi
    have hsome : store.cellOf ⟨ownerId, index + j⟩ = some cell' := hcell'
    simp [cellOf, h.keys j] at hsome
  | cons info rest ih =>
    have hkey : store.mTopology.findScreen ⟨ownerId, index⟩ = none := h.keys 0
    rw [forall_keeps_succ, registerAssigned, Undisturbed]
    by_cases hrect : isValidRect info = true
    · have hsettled : (registerAssigned endpoint ownerId none false (index + 1) rest
          (store.addScreen endpoint ⟨ownerId, index⟩ (store.assignedCell none ⟨ownerId, index⟩)
            info false)).Settled ownerId index (before.seat ⟨ownerId, index⟩ taken) := by
        rw [← h.assignedCell_eq]
        exact (addScreen_settled endpoint false h.wellFormed hrect hkey).registerAssigned
          (Nat.lt_succ_self index) none
      rw [if_pos hrect]
      cases hcell : before.cellOf ⟨ownerId, index⟩ with
      | some cell =>
        have hfree : ¬ store.Occupied cell := h.free cell (by simp [returningCells, hrect, hcell])
        have hseat : before.seat ⟨ownerId, index⟩ taken = cell :=
          seat_of_free (hremembered.configuredCell hcell) (by rwa [← h.occupied])
        have hleft : before.seat ⟨ownerId, index⟩ taken ∉
            before.returningCells ownerId (index + 1) rest := by
          rw [hseat]
          exact not_mem_returningCells hbefore hcell
        rw [ih (h.accepted hrect endpoint hleft)]
        refine and_congr_left fun _ => iff_of_true ?_ (by simp)
        intro old hold new hnew
        cases hcell.symm.trans hold
        cases hsettled.1.symm.trans hnew
        exact hseat
      | none =>
        have hkept : before.Keeps (registerAssigned endpoint ownerId none false (index + 1) rest
            (store.addScreen endpoint ⟨ownerId, index⟩ (store.assignedCell none ⟨ownerId, index⟩)
              info false)) ⟨ownerId, index⟩ := by
          intro old hold
          cases hcell.symm.trans hold
        by_cases hleft : before.seat ⟨ownerId, index⟩ taken ∉
            before.returningCells ownerId (index + 1) rest
        · rw [ih (h.accepted hrect endpoint hleft)]
          exact and_congr_left fun _ => iff_of_true hkept fun _ => hleft
        · -- the entry behind would have to stand on the cell of this one
          have hmoved := not_keeps_of_settled (wellFormed_addScreen h.wellFormed)
            (findScreen_addScreen_later h.keys) hsettled (not_not.mp hleft)
          exact iff_of_false (fun hkeeps => hmoved hkeeps.2)
            (fun hundisturbed => hleft (hundisturbed.1 rfl))
    · rw [if_neg hrect, addScreen_refused h.wellFormed (fun hvalid => absurd hvalid hrect),
        ih (h.refused hrect)]
      refine and_iff_right ?_
      intro cell _ cell' hcell'
      have hnone : (registerAssigned endpoint ownerId none false (index + 1) rest
          store).mTopology.findScreen ⟨ownerId, index⟩ = none := by
        rw [findScreen_registerAssigned_of_ne, hkey]
        intro i _ _
        exact ScreenKey.ne_of_screenIndex_ne (by omega)
      simp [cellOf, hnone] at hcell'

/-! ### The same list twice -/

theorem upsertLayouts_of_find? {layout : ScreenLayoutConfig} (layouts : List ScreenLayoutConfig)
    (h : (layouts.find? fun current => current.ownerId = layout.ownerId &&
      current.screenIndex = layout.screenIndex).map (·.cell) = some layout.cell) :
    upsertLayouts layout layouts = layouts := by
  induction layouts with
  | nil => simp at h
  | cons current rest ih =>
    rw [upsertLayouts]
    by_cases hkey : current.ownerId = layout.ownerId ∧ current.screenIndex = layout.screenIndex
    · have hcell : current.cell = layout.cell := by simpa [hkey] using h
      have hsame : layout = current := by
        cases layout
        cases current
        simp_all
      rw [if_pos hkey, hsame]
    · rw [if_neg hkey, ih]
      simpa [List.find?_cons, hkey] using h

/-- To remember a cell again changes nothing. -/
theorem upsertScreenLayout_of_find {config : AppConfig}
    (h : findScreenLayout config key.ownerId key.screenIndex = some cell) :
    upsertScreenLayout config ⟨key.ownerId, key.screenIndex, cell⟩ = config := by
  have hlayouts : upsertLayouts ⟨key.ownerId, key.screenIndex, cell⟩ config.screens =
      config.screens := upsertLayouts_of_find? config.screens h
  rw [upsertScreenLayout, hlayouts]

theorem addScreen_mTopology_congr {store store' : ServerScreenStore E}
    (h : store'.mTopology = store.mTopology) (endpoint : E) (key : ScreenKey)
    (cell : GridPosition) (info : ScreenInfo) (isLocal : Bool) :
    (store'.addScreen endpoint key cell info isLocal).mTopology =
      (store.addScreen endpoint key cell info isLocal).mTopology := by
  unfold addScreen
  rw [h]
  split
  · exact h
  · simp [rememberScreenLayout]

theorem addScreen_mConfig_of_configuredCell (h : store.configuredCell key = some cell) :
    (store.addScreen endpoint key cell info false).mConfig = store.mConfig := by
  unfold addScreen
  split
  · rfl
  · simp [rememberScreenLayout, upsertScreenLayout_of_find h]

/-- On the same topology, and with the cells that the list settled on remembered, the list
settles there again. -/
theorem registerAssigned_again {store' : ServerScreenStore E} (h : store.mTopology.WellFormed)
    (hkeys : ∀ i, store.mTopology.findScreen ⟨ownerId, index + i⟩ = none)
    (htopology : store'.mTopology = store.mTopology)
    (hconfigured : ∀ i, store'.configuredCell ⟨ownerId, index + i⟩ =
      (registerAssigned endpoint ownerId none false index screens store).configuredCell
        ⟨ownerId, index + i⟩) :
    (registerAssigned endpoint ownerId none false index screens store').mTopology =
        (registerAssigned endpoint ownerId none false index screens store).mTopology ∧
      (registerAssigned endpoint ownerId none false index screens store').mConfig =
        store'.mConfig := by
  induction screens generalizing index store store' with
  | nil => exact ⟨htopology, rfl⟩
  | cons info rest ih =>
    have hshift : ∀ i, index + 1 + i = index + (i + 1) := by
      intro i
      omega
    have hkey : store.mTopology.findScreen ⟨ownerId, index⟩ = none := hkeys 0
    by_cases hrect : isValidRect info = true
    · have hfree : ¬ store.Occupied (store.assignedCell none ⟨ownerId, index⟩) :=
        not_occupied_assignedCell (by simp)
      have hremembered : store'.configuredCell ⟨ownerId, index⟩ =
          some (store.assignedCell none ⟨ownerId, index⟩) :=
        (hconfigured 0).trans ((addScreen_settled endpoint false h hrect hkey).registerAssigned
          (Nat.lt_succ_self index) none).2
      have hcell : store'.assignedCell none ⟨ownerId, index⟩ =
          store.assignedCell none ⟨ownerId, index⟩ := by
        rw [assignedCell, hremembered]
        exact if_neg (by rwa [Occupied, htopology])
      obtain ⟨htopology', hconfig'⟩ := ih (wellFormed_addScreen h)
        (findScreen_addScreen_later hkeys)
        (addScreen_mTopology_congr htopology endpoint ⟨ownerId, index⟩
          (store.assignedCell none ⟨ownerId, index⟩) info false) (fun i => by
            rw [configuredCell_addScreen_of_ne (ScreenKey.ne_of_screenIndex_ne (by omega)), hshift]
            exact hconfigured (i + 1))
      rw [registerAssigned, hcell]
      refine ⟨htopology', hconfig'.trans ?_⟩
      exact addScreen_mConfig_of_configuredCell hremembered
    · have hrefused : ∀ s : ServerScreenStore E, s.mTopology.WellFormed →
          s.addScreen endpoint ⟨ownerId, index⟩ (s.assignedCell none ⟨ownerId, index⟩) info false =
            s := fun s hs => addScreen_refused hs (fun hvalid => absurd hvalid hrect)
      rw [registerAssigned, hrefused store h] at hconfigured
      rw [registerAssigned, registerAssigned, hrefused store h, hrefused store' (htopology ▸ h)]
      apply ih h _ htopology
      · intro i
        rw [hshift]
        exact hconfigured (i + 1)
      · intro i
        rw [hshift]
        exact hkeys (i + 1)

/-! ### A whole report -/

/-- The endpoint's screens are the screens of the owner id. -/
def Owns (store : ServerScreenStore E) (endpoint : E) (ownerId : String) : Prop :=
  ∀ node ∈ store.mScreens.nodes, node.key = endpoint ↔ node.value.key.ownerId = ownerId

/-- The screens of the other owner ids. -/
def otherScreens (store : ServerScreenStore E) (ownerId : String) : List TopologyScreen :=
  store.mTopology.screens.filter fun screen => screen.key.ownerId ≠ ownerId

/-- The endpoint's screens are replaced by the screens of the list. -/
def replaced (store : ServerScreenStore E) (endpoint : E) (ownerId : String)
    (screens : List ScreenInfo) : ServerScreenStore E :=
  (store.eraseEndpoint endpoint).registerScreens endpoint ownerId screens false

theorem Owns.findScreen_eraseEndpoint (howns : store.Owns endpoint ownerId) (h : store.Grounded)
    (key : ScreenKey) : (store.eraseEndpoint endpoint).mTopology.findScreen key =
      if key.ownerId = ownerId then none else store.mTopology.findScreen key := by
  rw [ServerScreenStore.findScreen_eraseEndpoint]
  cases hfind : store.mTopology.findScreen key with
  | none => simp
  | some screen =>
    obtain ⟨node, hnode, hview, _⟩ := h.viewed key screen hfind
    have hkey : node.value.key = key := h.key_eq (hview ▸ hfind)
    have hiff : key.ownerId ∈ store.ownerIds endpoint ↔ key.ownerId = ownerId := by
      rw [mem_ownerIds]
      constructor
      · rintro ⟨other, hother, hendpoint, howner⟩
        rw [← howner]
        exact (howns other hother).mp hendpoint
      · intro howner
        exact ⟨node, hnode, (howns node hnode).mpr (by rw [hkey, howner]), by rw [hkey]⟩
    simp only [hiff]

theorem Owns.replaced (howns : store.Owns endpoint ownerId) (screens : List ScreenInfo) :
    (store.replaced endpoint ownerId screens).Owns endpoint ownerId := by
  intro node hnode
  rcases mem_nodes_registerScreens screens hnode with hold | ⟨hendpoint, _, howner, _⟩
  · exact howns node (OrderedMultimap.mem_nodes_eraseKey.mp hold).1
  · exact iff_of_true hendpoint howner

/-- With the endpoint's screens down the list can be seated among the other screens. -/
theorem Owns.seating (howns : store.Owns endpoint ownerId) (h : store.Grounded)
    (screens : List ScreenInfo) : Seating store (store.eraseEndpoint endpoint) ownerId 0 screens
      (store.otherScreens ownerId) := by
  have hwell := h.wellFormed
  have hwell' := (h.eraseEndpoint endpoint).wellFormed
  have hoccupied : ∀ cell, (store.eraseEndpoint endpoint).Occupied cell ↔
      ∃ screen ∈ store.otherScreens ownerId, screen.cell = cell := by
    intro cell
    refine exists_congr fun screen => and_congr_left fun _ => ?_
    rw [hwell'.mem_screens, howns.findScreen_eraseEndpoint h, otherScreens, List.mem_filter,
      hwell.mem_screens]
    by_cases howner : screen.key.ownerId = ownerId
    · simp [howner]
    · simp [howner]
  refine ⟨hwell', ?_, fun _ => rfl, hoccupied, ?_⟩
  · intro i
    rw [howns.findScreen_eraseEndpoint h, if_pos rfl]
  · intro cell hcell hstands
    obtain ⟨i, _, _, _, hold⟩ := mem_returningCells.mp hcell
    obtain ⟨screen, hscreen, rfl⟩ := (hoccupied cell).mp hstands
    obtain ⟨hscreen, howner⟩ := List.mem_filter.mp hscreen
    have hstood : store.cellOf screen.key = some screen.cell := by
      rw [cellOf, hwell.mem_screens.mp hscreen]
      rfl
    have hkey := cellOf_inj hwell hstood hold
    simp [hkey] at howner

theorem replaced_eq_registerAssigned (store : ServerScreenStore E) :
    store.replaced endpoint ownerId screens =
      registerAssigned endpoint ownerId none false 0 screens (store.eraseEndpoint endpoint) :=
  registerScreens_eq_registerAssigned endpoint ownerId screens false

/-- The report is about the keys of its owner id. -/
theorem Owns.findScreen_replaced_of_ne (howns : store.Owns endpoint ownerId) (h : store.Grounded)
    (howner : key.ownerId ≠ ownerId) (screens : List ScreenInfo) :
    (store.replaced endpoint ownerId screens).mTopology.findScreen key =
      store.mTopology.findScreen key := by
  rw [replaced_eq_registerAssigned, findScreen_registerAssigned_of_ne,
    howns.findScreen_eraseEndpoint h, if_neg howner]
  rintro i _ _ rfl
  exact howner rfl

/-- The screens registered before and after the report stand where they stood if and only if
the list is seated undisturbed. -/
theorem Owns.keeps_replaced_iff (howns : store.Owns endpoint ownerId) (h : store.Grounded)
    (hremembered : store.Remembered) (screens : List ScreenInfo) :
    (∀ key, store.Keeps (store.replaced endpoint ownerId screens) key) ↔
      store.Undisturbed ownerId 0 screens (store.otherScreens ownerId) := by
  rw [← keeps_registerAssigned_iff endpoint h.wellFormed hremembered (howns.seating h screens),
    ← replaced_eq_registerAssigned]
  refine ⟨fun hkeeps i _ => hkeeps ⟨ownerId, i⟩, fun hkeeps key => ?_⟩
  by_cases howner : key.ownerId = ownerId
  · obtain ⟨_, index⟩ := key
    cases howner
    exact hkeeps index (Nat.zero_le index)
  · intro cell hcell cell' hcell'
    have hsame : store.cellOf key = some cell' := by
      rw [cellOf, ← howns.findScreen_replaced_of_ne h howner screens]
      exact hcell'
    exact Option.some.inj (hsame.symm.trans hcell)

/-- The second report of a list finds the others' screens and the cells remembered as the
first one left them. -/
theorem Owns.replaced_again (howns : store.Owns endpoint ownerId) (h : store.Grounded)
    (screens : List ScreenInfo) :
    ((store.replaced endpoint ownerId screens).replaced endpoint ownerId screens).mTopology =
        (store.replaced endpoint ownerId screens).mTopology ∧
      ((store.replaced endpoint ownerId screens).replaced endpoint ownerId screens).mConfig =
        (store.replaced endpoint ownerId screens).mConfig := by
  have herase := h.eraseEndpoint endpoint
  have hgrounded : (store.replaced endpoint ownerId screens).Grounded :=
    herase.registerScreens endpoint ownerId screens false
  have htopology : ((store.replaced endpoint ownerId screens).eraseEndpoint endpoint).mTopology =
      (store.eraseEndpoint endpoint).mTopology := by
    apply (hgrounded.eraseEndpoint endpoint).wellFormed.ext herase.wellFormed
    intro key
    rw [(howns.replaced screens).findScreen_eraseEndpoint hgrounded,
      howns.findScreen_eraseEndpoint h]
    split_ifs with howner
    · rfl
    · exact howns.findScreen_replaced_of_ne h howner screens
  have hfirst : store.replaced endpoint ownerId screens = _ := replaced_eq_registerAssigned store
  have hagain := registerAssigned_again herase.wellFormed (howns.seating h screens).keys htopology
    (fun i => congrArg (fun s => s.configuredCell ⟨ownerId, 0 + i⟩) hfirst)
  rw [← replaced_eq_registerAssigned (store.replaced endpoint ownerId screens), ← hfirst] at hagain
  exact hagain

theorem StoreStep.remembered_cells {dropped : Option E} (hs : StoreStep store dropped store')
    (h : store.Remembered) : store'.Remembered := by
  cases hs with
  | kept | remembered => exact h
  | replaced endpoint ownerId screens isLocal =>
    exact (h.eraseEndpoint endpoint).registerScreens endpoint ownerId screens isLocal
  | closed endpoint => exact h.eraseEndpoint endpoint

end ServerScreenStore

namespace Host

variable {E C : Type} [Endpoint E] [InputCapture C] {host host' : Host E C} {endpoint : E}
  {owner : String} {report : ScreensMessage}

theorem run_remembered [EntryScaling] {guard : Host E C → Action E C → Host E C → Prop}
    {server : E} {config : AppConfig} {configPath : String} {capture : C}
    {as : List (Action E C)} (h : Run step guard (start server config configPath capture) as host) :
    host.server.mScreens.Remembered :=
  h.invariant (fun t => t.server.mScreens.Remembered)
    (fun _ _ _ hs _ hnext => (step_stepped hnext).storeStep.remembered_cells hs)
    (ServerScreenStore.remembered_init config configPath)

omit [InputCapture C] in
/-- The screens of an admitted connection have its owner id. -/
theorem Owned.owns (h : Owned host) (howner : host.admittedOwner endpoint = some owner)
    (hsole : ∀ node ∈ host.server.mScreens.mScreens.nodes, node.value.key.ownerId = owner →
      node.key = endpoint) (hremote : endpoint ≠ host.server.mEndpoint) :
    host.server.mScreens.Owns endpoint owner := by
  intro node hnode
  refine ⟨?_, hsole node hnode⟩
  rintro rfl
  rcases h.nodes node hnode with ⟨hlocal, _⟩ | ⟨_, _, hadmitted⟩
  · exact absurd hlocal hremote
  · exact Option.some.inj (hadmitted.symm.trans howner)

omit [InputCapture C] in
theorem admittedOwner_ne_mEndpoint (h : SessionsValid host)
    (howner : host.admittedOwner endpoint = some owner) : endpoint ≠ host.server.mEndpoint := by
  rintro rfl
  simp [admittedOwner, h.remote] at howner

/-- The connection that has reported reports once more. -/
theorem Stepped.step_report_again [EntryScaling]
    (hs : Stepped host (.receive endpoint (.screens report)) host')
    (howner : host.admittedOwner endpoint = some owner) (next : ScreensMessage) :
    ∃ host'', host'.step (.receive endpoint (.screens next)) = some host'' := by
  cases hs with
  | rejected live phase => simp [admittedOwner_of_live live, phase] at howner
  | ignored _ _ noScreens => exact absurd rfl (noScreens report)
  | reported live phase => simp [step, withServer, withSession, phase]

/-- A report leaves the other endpoints as they are. -/
theorem Stepped.report_unchanged [EntryScaling]
    (hs : Stepped host (.receive endpoint (.screens report)) host')
    (hgrounded : host.server.mScreens.Grounded)
    (howner : host.admittedOwner endpoint = some owner)
    (howns : host.server.mScreens.Owns endpoint owner) {other : E} (hne : other ≠ endpoint) :
    Unchanged host host' other := by
  have hserver := hs.report_server howner
  refine (unchanged_iff_of_eraseEndpoint hgrounded (hs.storeStep.grounded hgrounded) hne ?_
    (fun screen => ?_) ?_ ?_).mpr ?_
  · rw [hserver]
    exact ServerScreenStore.equalRange_registerScreens hne owner report.screens false
  · rw [hserver]
    exact ServerScreenStore.registeredThrough_registerScreens hne owner report.screens false
  · rw [hserver, Server.registerScreens_false_mSenders]
  · rw [hserver, Server.registerScreens_mScreens,
      ServerScreenStore.registerScreens_mEndpointOwners]
    rfl
  · -- the owner id of a screen of the other endpoint is not the reporting one
    rintro screen ⟨hscreen, hregistrar⟩ hmem
    obtain ⟨node, hnode, rfl, hnodeRegistrar⟩ := hgrounded.viewed _ _ hscreen
    obtain ⟨own, hown, hendpoint, hid⟩ := ServerScreenStore.mem_ownerIds.mp hmem
    have hid : node.value.key.ownerId = owner :=
      hid.symm.trans ((howns own hown).mp hendpoint)
    have hkey : node.key = endpoint := (howns node hnode).mpr hid
    exact hne (Option.some.inj (hregistrar.symm.trans (hnodeRegistrar.trans (by rw [hkey]))))

/-- In every reachable state a report of a connection whose owner id no other endpoint's
screen has leaves the other endpoints unchanged, and the same report once more leaves topology
and configuration as they are. The screens registered before and after the report stand where
they stood if and only if no entry that was not registered is seated on a cell to which an
entry behind it returns. -/
theorem cells_kept_iff_undisturbed [EntryScaling] {server : E} {config : AppConfig}
    {configPath : String} {capture : C} {as : List (Action E C)}
    (hreach : Run step unguarded (start server config configPath capture) as host)
    (howner : host.admittedOwner endpoint = some owner)
    (hsole : ∀ node ∈ host.server.mScreens.mScreens.nodes, node.value.key.ownerId = owner →
      node.key = endpoint)
    (hstep : host.step (.receive endpoint (.screens report)) = some host') :
    (∀ other, other ≠ endpoint → Unchanged host host' other) ∧
    (∃ host'', host'.step (.receive endpoint (.screens report)) = some host'' ∧
      host''.server.mScreens.mTopology = host'.server.mScreens.mTopology ∧
      host''.server.mScreens.mConfig = host'.server.mScreens.mConfig) ∧
    ((∀ key, host.server.mScreens.Keeps host'.server.mScreens key) ↔
      host.server.mScreens.Undisturbed owner 0 report.screens
        (host.server.mScreens.otherScreens owner)) := by
  have hgrounded := run_grounded hreach
  have howned := run_owned hreach
  have hs := step_stepped hstep
  have howns := howned.2.owns howner hsole (admittedOwner_ne_mEndpoint howned.1 howner)
  have hreplaced : host'.server.mScreens =
      host.server.mScreens.replaced endpoint owner report.screens := hs.report_mScreens howner
  refine ⟨fun other hne => hs.report_unchanged hgrounded howner howns hne, ?_, ?_⟩
  · obtain ⟨host'', hagain⟩ := hs.step_report_again howner report
    have hreplaced' : host''.server.mScreens =
        host'.server.mScreens.replaced endpoint owner report.screens :=
      (step_stepped hagain).report_mScreens (hs.report_admittedOwner howner)
    refine ⟨host'', hagain, ?_⟩
    rw [hreplaced', hreplaced]
    exact howns.replaced_again hgrounded report.screens
  · rw [hreplaced]
    exact howns.keeps_replaced_iff hgrounded (run_remembered hreach) report.screens

/-! ### A guest that reports again -/

/-- A monitor that is switched off. -/
def darkMonitor : ScreenInfo := {}

def guestReporting (screens : List ScreenInfo) : List DeskAction :=
  .registerLocal [deskMonitor] :: connect 1001 "m" screens

/-- The guest has reported a list, and reports another one. -/
def guestReportsAgain (screens screens' : List ScreenInfo) (test : DeskHost → DeskHost → Bool) :
    Bool :=
  (execute step (fun _ _ _ => true) deskHost (guestReporting screens)).any fun host =>
    decide (host.admittedOwner (loopback 1001) = some "m") &&
    decide (∀ node ∈ host.server.mScreens.mScreens.nodes, node.value.key.ownerId = "m" →
      node.key = loopback 1001) &&
    (host.step (.receive (loopback 1001) (.screens ⟨screens'⟩))).any fun host' => test host host'

theorem guestReportsAgain_run {screens screens' : List ScreenInfo}
    {test : DeskHost → DeskHost → Bool} (h : guestReportsAgain screens screens' test = true) :
    ∃ host host' : DeskHost, Run step unguarded deskHost (guestReporting screens) host ∧
      host.admittedOwner (loopback 1001) = some "m" ∧
      (∀ node ∈ host.server.mScreens.mScreens.nodes, node.value.key.ownerId = "m" →
        node.key = loopback 1001) ∧
      host.step (.receive (loopback 1001) (.screens ⟨screens'⟩)) = some host' ∧
      test host host' = true := by
  obtain ⟨host, hrun, h⟩ := exists_run_of_execute step _ deskHost _ _ (fun _ _ _ _ => trivial) h
  simp only [Bool.and_eq_true, decide_eq_true_eq, Option.any_eq_true] at h
  obtain ⟨⟨howner, hsole⟩, host', hstep, htest⟩ := h
  exact ⟨host, host', hrun, howner, hsole, hstep, htest⟩

/-- A new monitor at the end of the list: the first one stays. -/
theorem cells_kept_iff_undisturbed_appended : ∃ host host' : DeskHost,
    Run step unguarded deskHost (guestReporting [sideMonitor]) host ∧
    host.step (.receive (loopback 1001) (.screens ⟨[sideMonitor, sideMonitor]⟩)) = some host' ∧
    ∀ key, host.server.mScreens.Keeps host'.server.mScreens key := by
  have hreport : guestReportsAgain [sideMonitor] [sideMonitor, sideMonitor] (fun host _ =>
      decide (host.server.mScreens.Undisturbed "m" 0 [sideMonitor, sideMonitor]
        (host.server.mScreens.otherScreens "m"))) = true := by decide +kernel
  obtain ⟨host, host', hrun, howner, hsole, hstep, htest⟩ := guestReportsAgain_run hreport
  exact ⟨host, host', hrun, hstep,
    (cells_kept_iff_undisturbed hrun howner hsole hstep).2.2.mpr (of_decide_eq_true htest)⟩

/-- The middle one of three monitors is switched on: it takes the cell of the third. -/
theorem cell_lost_to_lit_monitor : ∃ host host' : DeskHost,
    Run step unguarded deskHost (guestReporting [sideMonitor, darkMonitor, sideMonitor]) host ∧
    host.admittedOwner (loopback 1001) = some "m" ∧
    (∀ node ∈ host.server.mScreens.mScreens.nodes, node.value.key.ownerId = "m" →
      node.key = loopback 1001) ∧
    host.step (.receive (loopback 1001)
      (.screens ⟨[sideMonitor, sideMonitor, sideMonitor]⟩)) = some host' ∧
    host.server.mScreens.cellOf ⟨"m", 2⟩ = some ⟨2, 0⟩ ∧
    host'.server.mScreens.cellOf ⟨"m", 2⟩ = some ⟨3, 0⟩ := by
  have hreport : guestReportsAgain [sideMonitor, darkMonitor, sideMonitor]
      [sideMonitor, sideMonitor, sideMonitor] (fun host host' =>
        decide (host.server.mScreens.cellOf ⟨"m", 2⟩ = some ⟨2, 0⟩ ∧
          host'.server.mScreens.cellOf ⟨"m", 2⟩ = some ⟨3, 0⟩)) = true := by decide +kernel
  obtain ⟨host, host', hrun, howner, hsole, hstep, htest⟩ := guestReportsAgain_run hreport
  exact ⟨host, host', hrun, howner, hsole, hstep, of_decide_eq_true htest⟩

end Host
end Mksync
