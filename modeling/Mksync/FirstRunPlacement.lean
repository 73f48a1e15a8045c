import Mksync.LayoutStability

/-!
# The first run

Without a persisted cell only two rules are left: the anchor goes to the origin, everybody
else to the next free cell. So the screens stand in one row without gaps, the anchor first
and the others in the order in which they were registered.
-/
namespace Mksync
namespace ServerScreenStore

variable {E : Type} [Endpoint E] {store : ServerScreenStore E} {endpoint : E} {ownerId : String}
  {anchor : Option ScreenKey} {row : List ScreenKey} {key : ScreenKey} {info : ScreenInfo}
  {index : Nat} {screens : List ScreenInfo}

/-- On the origin stands the anchor if there is one yet, to the right of it the row, and
nothing else is registered. -/
structure Packed (store : ServerScreenStore E) (anchor : Option ScreenKey)
    (row : List ScreenKey) : Prop where
  wellFormed : store.mTopology.WellFormed
  cells : ∀ key cell, store.cellOf key = some cell ↔
    (anchor = some key ∧ cell = ⟨0, 0⟩) ∨ ∃ n : Nat, row[n]? = some key ∧ cell = ⟨n + 1, 0⟩

/-- Nothing is registered or remembered under the keys from the index on. -/
def Fresh (store : ServerScreenStore E) (ownerId : String) (index : Nat) : Prop :=
  ∀ i, store.mTopology.findScreen ⟨ownerId, index + i⟩ = none ∧
    store.configuredCell ⟨ownerId, index + i⟩ = none

theorem occupied_iff_cellOf (h : store.mTopology.WellFormed) {cell : GridPosition} :
    store.Occupied cell ↔ ∃ key, store.cellOf key = some cell := by
  constructor
  · rintro ⟨screen, hscreen, rfl⟩
    exact ⟨screen.key, by rw [cellOf, h.mem_screens.mp hscreen]; rfl⟩
  · rintro ⟨key, hkey⟩
    obtain ⟨screen, hscreen, rfl⟩ := Option.map_eq_some_iff.mp hkey
    refine ⟨screen, h.mem_screens.mpr ?_, rfl⟩
    rw [h.keyed key screen hscreen]
    exact hscreen

/-- A registration under a new key on a free cell adds one entry. -/
theorem cellOf_addScreen (isLocal : Bool) (h : store.mTopology.WellFormed)
    (hrect : isValidRect info = true) (hkey : store.mTopology.findScreen key = none)
    {cell : GridPosition} (hcell : ¬ store.Occupied cell) (key' : ScreenKey)
    (cell' : GridPosition) :
    (store.addScreen endpoint key cell info isLocal).cellOf key' = some cell' ↔
      store.cellOf key' = some cell' ∨ (key = key' ∧ cell = cell') := by
  by_cases heq : key' = key
  · subst heq
    obtain ⟨topology, hadd⟩ := addScreen_accepted isLocal h hrect hkey hcell
    obtain ⟨node, _, _, hview, hfind, _⟩ := addScreen_placed endpoint hadd
    rw [cellOf, hfind, hview, cellOf, hkey]
    simp
  · rw [cellOf, findScreen_addScreen_of_ne heq, ← cellOf]
    simp [Ne.symm heq]

namespace Packed

theorem occupied_iff (h : Packed store anchor row) (n : Nat) :
    store.Occupied ⟨(n : Int) + 1, 0⟩ ↔ n < row.length := by
  rw [occupied_iff_cellOf h.wellFormed]
  constructor
  · rintro ⟨key, hkey⟩
    rcases (h.cells _ _).mp hkey with ⟨_, horigin⟩ | ⟨m, hm, hcell⟩
    · simp only [GridPosition.mk.injEq] at horigin
      omega
    · simp only [GridPosition.mk.injEq] at hcell
      have hlt := (List.getElem?_eq_some_iff.mp hm).1
      omega
  · intro hlt
    exact ⟨row[n], (h.cells _ _).mpr (.inr ⟨n, List.getElem?_eq_getElem hlt, rfl⟩)⟩

/-- The next free cell is the one behind the row. -/
theorem nextFreeCell (h : Packed store anchor row) :
    store.nextFreeCell 1 = ⟨(row.length : Int) + 1, 0⟩ := by
  obtain ⟨n, heq, hfree, hbefore⟩ := store.nextFreeCell_spec 1
  have hshift : ∀ i : Nat, (⟨1 + (i : Int), 0⟩ : GridPosition) = ⟨(i : Int) + 1, 0⟩ := by
    intro i
    rw [Int.add_comm]
  simp only [hshift, h.occupied_iff] at heq hfree hbefore
  have hlength : n = row.length := by
    rcases Nat.lt_trichotomy n row.length with hlt | hlength | hgt
    · exact absurd hlt hfree
    · exact hlength
    · exact absurd (hbefore _ hgt) (Nat.lt_irrefl _)
  rw [heq, hlength]

/-- A new screen joins the row. -/
theorem join (h : Packed store anchor row) (endpoint : E) (isLocal : Bool)
    (hrect : isValidRect info = true) (hkey : store.mTopology.findScreen key = none) :
    Packed (store.addScreen endpoint key (store.nextFreeCell 1) info isLocal) anchor
      (row ++ [key]) := by
  refine ⟨wellFormed_addScreen h.wellFormed, ?_⟩
  intro key' cell
  rw [cellOf_addScreen isLocal h.wellFormed hrect hkey (not_occupied_nextFreeCell 1), h.cells,
    h.nextFreeCell, or_assoc]
  refine or_congr_right ?_
  constructor
  · rintro (⟨n, hn, rfl⟩ | ⟨rfl, rfl⟩)
    · have hlt := (List.getElem?_eq_some_iff.mp hn).1
      exact ⟨n, by rwa [List.getElem?_append_left hlt], rfl⟩
    · exact ⟨row.length, by simp, rfl⟩
  · rintro ⟨n, hn, rfl⟩
    rw [List.getElem?_append] at hn
    split_ifs at hn with hlt
    · exact .inl ⟨n, hn, rfl⟩
    · obtain ⟨hlast, hkey'⟩ := List.getElem?_eq_some_iff.mp hn
      simp only [List.length_singleton] at hlast
      have hlength : n = row.length := by omega
      exact .inr ⟨by simpa using hkey', by rw [hlength]⟩

/-- The anchor takes the origin. -/
theorem settle (h : Packed store none row) (endpoint : E) (isLocal : Bool)
    (hrect : isValidRect info = true) (hkey : store.mTopology.findScreen key = none) :
    Packed (store.addScreen endpoint key ⟨0, 0⟩ info isLocal) (some key) row := by
  have hfree : ¬ store.Occupied ⟨0, 0⟩ := by
    rw [occupied_iff_cellOf h.wellFormed]
    rintro ⟨other, hother⟩
    rcases (h.cells _ _).mp hother with ⟨hanchor, _⟩ | ⟨n, _, hcell⟩
    · cases hanchor
    · simp only [GridPosition.mk.injEq] at hcell
      omega
  refine ⟨wellFormed_addScreen h.wellFormed, ?_⟩
  intro key' cell
  rw [cellOf_addScreen isLocal h.wellFormed hrect hkey hfree, h.cells, Option.some.injEq,
    or_comm, eq_comm (a := cell)]
  simp

end Packed

/-! ### Keys that are new -/

namespace Fresh

theorem addScreen (h : Fresh store ownerId index) (endpoint : E) (cell : GridPosition)
    (isLocal : Bool) :
    Fresh (store.addScreen endpoint ⟨ownerId, index⟩ cell info isLocal) ownerId (index + 1) := by
  intro i
  have hne : (⟨ownerId, index + 1 + i⟩ : ScreenKey) ≠ ⟨ownerId, index⟩ :=
    ScreenKey.ne_of_screenIndex_ne (by omega)
  rw [findScreen_addScreen_of_ne hne, configuredCell_addScreen_of_ne hne, Nat.add_assoc]
  exact h (1 + i)

/-- The screens of another owner leave the keys new. -/
theorem registerAssigned {other : String} (h : Fresh store ownerId index) (hne : ownerId ≠ other)
    (anchor : Option Nat) (isLocal : Bool) (first : Nat) :
    Fresh (registerAssigned endpoint other anchor isLocal first screens store) ownerId index := by
  intro i
  have hkey : ∀ j, first ≤ j → j < first + screens.length →
      (⟨ownerId, index + i⟩ : ScreenKey) ≠ ⟨other, j⟩ := by
    intro j _ _ heq
    exact hne (congrArg ScreenKey.ownerId heq)
  rw [findScreen_registerAssigned_of_ne hkey, configuredCell_registerAssigned_of_ne hkey]
  exact h i

end Fresh

/-! ### A whole list -/

/-- The keys of the list indices from the first on, without the anchor's. -/
def rowKeys (ownerId : String) (anchor : Option Nat) (first length : Nat) : List ScreenKey :=
  ((List.range' first length).filter fun index => anchor ≠ some index).map fun index =>
    ⟨ownerId, index⟩

/-- The anchor after the list: the list has it, or the one before stays. -/
def anchorAfter (before : Option ScreenKey) (ownerId : String) (anchor : Option Nat)
    (first length : Nat) : Option ScreenKey :=
  match anchor with
  | some index => if first ≤ index ∧ index < first + length then some ⟨ownerId, index⟩ else before
  | none => before

/-- A list under new keys fills the row in list order, but for the anchor. -/
theorem Packed.registerAssigned {before : Option ScreenKey} (h : Packed store before row)
    (endpoint : E) (hfresh : Fresh store ownerId index)
    (hrects : ∀ info ∈ screens, isValidRect info = true) (isLocal : Bool) (anchor : Option Nat)
    (hanchor : ∀ i, anchor = some i → index ≤ i → before = none) :
    Packed (registerAssigned endpoint ownerId anchor isLocal index screens store)
      (anchorAfter before ownerId anchor index screens.length)
      (row ++ rowKeys ownerId anchor index screens.length) := by
  induction screens generalizing index store before row with
  | nil =>
    have hafter : anchorAfter before ownerId anchor index 0 = before := by
      unfold anchorAfter
      cases anchor with
      | none => rfl
      | some i => exact if_neg (by omega)
    rw [List.length_nil, hafter]
    simpa [ServerScreenStore.registerAssigned, rowKeys] using h
  | cons info rest ih =>
    obtain ⟨hrect, hrest⟩ := List.forall_mem_cons.mp hrects
    have hkey : store.mTopology.findScreen ⟨ownerId, index⟩ = none := (hfresh 0).1
    have hconfigured : store.configuredCell ⟨ownerId, index⟩ = none := (hfresh 0).2
    rw [ServerScreenStore.registerAssigned]
    by_cases heq : anchor = some index
    · subst heq
      have hcell : store.assignedCell (some index) ⟨ownerId, index⟩ = ⟨0, 0⟩ := by
        rw [assignedCell, hconfigured]
        exact if_pos rfl
      obtain rfl := hanchor index rfl le_rfl
      rw [hcell]
      have hloop := ih (h.settle endpoint isLocal hrect hkey)
        (hfresh.addScreen endpoint ⟨0, 0⟩ isLocal) hrest
        (fun i hi hle => by
          rw [Option.some.injEq] at hi
          omega)
      have hafter : anchorAfter (some ⟨ownerId, index⟩) ownerId (some index) (index + 1)
          rest.length = anchorAfter none ownerId (some index) index (info :: rest).length := by
        simp [anchorAfter]
      have hrow : rowKeys ownerId (some index) (index + 1) rest.length =
          rowKeys ownerId (some index) index (info :: rest).length := by
        simp [rowKeys, List.range'_succ]
      rwa [hafter, hrow] at hloop
    · have hcell : store.assignedCell anchor ⟨ownerId, index⟩ = store.nextFreeCell 1 := by
        rw [assignedCell, hconfigured]
        exact if_neg heq
      rw [hcell]
      have hloop := ih (h.join endpoint isLocal hrect hkey)
        (hfresh.addScreen endpoint _ isLocal) hrest
        (fun i hi hle => hanchor i hi (by omega))
      have hafter : anchorAfter before ownerId anchor (index + 1) rest.length =
          anchorAfter before ownerId anchor index (info :: rest).length := by
        unfold anchorAfter
        cases anchor with
        | none => rfl
        | some i =>
          have hne : i ≠ index := fun hi => heq (congrArg some hi)
          simp only [List.length_cons]
          congr 1
          apply propext
          omega
      have hrow : [(⟨ownerId, index⟩ : ScreenKey)] ++ rowKeys ownerId anchor (index + 1)
          rest.length = rowKeys ownerId anchor index (info :: rest).length := by
        simp [rowKeys, List.range'_succ, heq]
      rwa [hafter, List.append_assoc, hrow] at hloop

/-! ### The first run -/

/-- A remote machine and the screens that it reports. -/
structure Guest (E : Type) where
  endpoint : E
  ownerId : String
  screens : List ScreenInfo

def registerGuest (store : ServerScreenStore E) (guest : Guest E) : ServerScreenStore E :=
  store.registerScreens guest.endpoint guest.ownerId guest.screens false

def Guest.keys (guest : Guest E) : List ScreenKey :=
  (List.range guest.screens.length).map fun index => ⟨guest.ownerId, index⟩

/-- The local screens but for the anchor, in list order. -/
def localKeys (ownerId : String) (screens : List ScreenInfo) : List ScreenKey :=
  ((List.range screens.length).filter (· ≠ primaryIndex screens)).map fun index => ⟨ownerId, index⟩

/-- The row of the first run: the anchor, the other local screens, and the screens of the
guests in the order of their registration. -/
def firstRow (ownerId : String) (screens : List ScreenInfo) (guests : List (Guest E)) :
    List ScreenKey :=
  ⟨ownerId, primaryIndex screens⟩ :: (localKeys ownerId screens ++ guests.flatMap (·.keys))

theorem primaryIndex_lt (h : screens ≠ []) : primaryIndex screens < screens.length := by
  unfold primaryIndex
  cases hfind : screens.findIdx? (·.primary) with
  | none => exact List.length_pos_iff.mpr h
  | some first =>
    obtain ⟨hlt, _⟩ := List.findIdx?_eq_some_iff_getElem.mp hfind
    exact hlt

theorem packed_init {config : AppConfig} (configPath : String) :
    Packed (init config configPath : ServerScreenStore E) none [] := by
  refine ⟨ScreenTopology.wellFormed_empty, ?_⟩
  simp [cellOf, init, ScreenTopology.empty, ScreenTopology.findScreen]

theorem fresh_init {config : AppConfig} (configPath : String) (h : config.screens = [])
    (ownerId : String) : Fresh (init config configPath : ServerScreenStore E) ownerId 0 := by
  intro i
  simp [init, configuredCell, findScreenLayout, h, ScreenTopology.empty, ScreenTopology.findScreen]

/-- The local screens: the anchor on the origin, the others to the right of it. -/
theorem Packed.registerLocal (h : Packed store none []) (hfresh : Fresh store ownerId 0)
    (hne : screens ≠ []) (hrects : ∀ info ∈ screens, isValidRect info = true) :
    Packed (store.registerScreens endpoint ownerId screens true)
      (some ⟨ownerId, primaryIndex screens⟩) (localKeys ownerId screens) := by
  have hlt := primaryIndex_lt hne
  have hloop := h.registerAssigned endpoint hfresh hrects true
    (some (primaryIndex screens)) fun _ _ _ => rfl
  have hafter : anchorAfter none ownerId (some (primaryIndex screens)) 0 screens.length =
      some ⟨ownerId, primaryIndex screens⟩ := by
    simp [anchorAfter, hlt]
  have hrow : [] ++ rowKeys ownerId (some (primaryIndex screens)) 0 screens.length =
      localKeys ownerId screens := by
    simp [rowKeys, localKeys, List.range_eq_range', eq_comm]
  rw [hafter, hrow] at hloop
  rwa [registerScreens_eq_registerAssigned, anchorIndex, if_pos rfl]

/-- A guest's screens stand behind the row. -/
theorem Packed.registerGuest {guest : Guest E} (h : Packed store anchor row)
    (hfresh : Fresh store guest.ownerId 0)
    (hrects : ∀ info ∈ guest.screens, isValidRect info = true) :
    Packed (store.registerGuest guest) anchor (row ++ guest.keys) := by
  have hloop := h.registerAssigned guest.endpoint hfresh hrects false none (by simp)
  have hrow : rowKeys guest.ownerId none 0 guest.screens.length = guest.keys := by
    simp [rowKeys, Guest.keys, List.range_eq_range']
  rw [hrow] at hloop
  rwa [ServerScreenStore.registerGuest, registerScreens_eq_registerAssigned, anchorIndex,
    if_neg Bool.false_ne_true]

theorem Packed.registerGuests (guests : List (Guest E)) (h : Packed store anchor row)
    (hnodup : (guests.map (·.ownerId)).Nodup)
    (hfresh : ∀ guest ∈ guests, Fresh store guest.ownerId 0)
    (hrects : ∀ guest ∈ guests, ∀ info ∈ guest.screens, isValidRect info = true) :
    Packed (guests.foldl ServerScreenStore.registerGuest store) anchor
      (row ++ guests.flatMap (·.keys)) := by
  induction guests generalizing store row with
  | nil => simpa using h
  | cons guest rest ih =>
    obtain ⟨hguest, hrest⟩ := List.forall_mem_cons.mp hfresh
    obtain ⟨hrect, hrectsRest⟩ := List.forall_mem_cons.mp hrects
    rw [List.map_cons, List.nodup_cons] at hnodup
    have hlater : ∀ other ∈ rest, Fresh (store.registerGuest guest) other.ownerId 0 := by
      intro other hother
      rw [ServerScreenStore.registerGuest, registerScreens_eq_registerAssigned]
      apply (hrest other hother).registerAssigned
      intro heq
      exact hnodup.1 (List.mem_map.mpr ⟨other, hother, heq⟩)
    have hloop := ih (h.registerGuest hguest hrect) hnodup.2 hlater hrectsRest
    rwa [List.append_assoc] at hloop

/-- From an empty store and an empty layout the screens stand in one row from the origin on,
without gaps: the first primary local screen, or the first one without a primary, then the
other local screens in list order, then the screens of the guests in the order in which they
were registered. -/
theorem first_run_row {config : AppConfig} (configPath : String) (hempty : config.screens = [])
    (endpoint : E) (ownerId : String) {screens : List ScreenInfo} (hne : screens ≠ [])
    (hrects : ∀ info ∈ screens, 0 < info.width ∧ 0 < info.height) (guests : List (Guest E))
    (hfresh : (ownerId :: guests.map (·.ownerId)).Nodup)
    (hguests : ∀ guest ∈ guests, ∀ info ∈ guest.screens, 0 < info.width ∧ 0 < info.height)
    (key : ScreenKey) (cell : GridPosition) :
    (guests.foldl registerGuest
      ((init config configPath).registerScreens endpoint ownerId screens true)).cellOf key =
        some cell ↔
      ∃ n : Nat, (firstRow ownerId screens guests)[n]? = some key ∧ cell = ⟨n, 0⟩ := by
  have hvalid : ∀ info : ScreenInfo,
      0 < info.width ∧ 0 < info.height → isValidRect info = true := by
    intro info
    simp [isValidRect]
  have hlocal : Packed ((init config configPath).registerScreens endpoint ownerId screens
      true) _ _ :=
    (packed_init configPath).registerLocal (fresh_init configPath hempty ownerId) hne
      fun info hinfo => hvalid info (hrects info hinfo)
  obtain ⟨howner, hnodup⟩ := List.nodup_cons.mp hfresh
  have hlater : ∀ guest ∈ guests, Fresh
      ((init config configPath).registerScreens endpoint ownerId screens true) guest.ownerId 0 := by
    intro guest hguest
    rw [registerScreens_eq_registerAssigned]
    apply (fresh_init configPath hempty guest.ownerId).registerAssigned
    intro heq
    exact howner (List.mem_map.mpr ⟨guest, hguest, heq⟩)
  have hrow := hlocal.registerGuests guests hnodup hlater fun guest hguest info hinfo =>
    hvalid info (hguests guest hguest info hinfo)
  rw [hrow.cells, firstRow]
  constructor
  · rintro (⟨hanchor, rfl⟩ | ⟨n, hn, rfl⟩)
    · exact ⟨0, by simpa using hanchor, rfl⟩
    · exact ⟨n + 1, by simpa using hn, rfl⟩
  · rintro ⟨n, hn, rfl⟩
    cases n with
    | zero => exact .inl ⟨by simpa using hn, rfl⟩
    | succ n => exact .inr ⟨n, by simpa using hn, rfl⟩

/-- Two monitors with the primary one last, and a guest. -/
theorem first_run_row_guest :
    ([⟨loopback 1001, "m", [sideMonitor]⟩].foldl registerGuest
      ((init { machineId := "desk" } "").registerScreens (loopback 24800) "desk"
        [sideMonitor, deskMonitor] true)).cellOf ⟨"m", 0⟩ = some ⟨2, 0⟩ :=
  (first_run_row "" rfl (loopback 24800) "desk" (by simp) (by decide)
    [⟨loopback 1001, "m", [sideMonitor]⟩] (by decide) (by decide) _ _).mpr ⟨2, rfl, rfl⟩

end ServerScreenStore
end Mksync
