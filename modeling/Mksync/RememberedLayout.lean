import Mksync.ScreenPlacement

/-!
# The remembered layout is the live layout

The configuration is a list with first-match lookup and replacement in place. Whatever
duplicates it starts with, each screen of the topology stands on the cell the layout
remembers for it, and nothing but an accepted registration changes an entry.
-/
namespace Mksync
namespace ServerScreenStore

variable {E : Type} [Endpoint E] {store : ServerScreenStore E} {endpoint : E} {key : ScreenKey}
  {cell : GridPosition} {info : ScreenInfo} {isLocal : Bool} {ownerId : String}
  {screens : List ScreenInfo}

/-- Every screen of the topology stands on its remembered cell. -/
def Remembered (store : ServerScreenStore E) : Prop :=
  ∀ key screen, store.mTopology.findScreen key = some screen →
    store.configuredCell key = some screen.cell

theorem remembered_init (config : AppConfig) (configPath : String) :
    (init config configPath : ServerScreenStore E).Remembered :=
  fun _ _ hfind => by cases hfind

/-! ### One registration -/

theorem addScreen_of_error {error : TopologyError}
    (h : store.mTopology.addScreen ⟨key, cell, info, isLocal⟩ = .error error) :
    store.addScreen endpoint key cell info isLocal = store := by
  simp [addScreen, h]

theorem Remembered.addScreen (h : store.Remembered) (endpoint : E) (key : ScreenKey)
    (cell : GridPosition) (info : ScreenInfo) (isLocal : Bool) :
    (store.addScreen endpoint key cell info isLocal).Remembered := by
  cases hadd : store.mTopology.addScreen ⟨key, cell, info, isLocal⟩ with
  | error _ => rwa [addScreen_of_error hadd]
  | ok topology =>
    intro k screen hk
    by_cases hkey : k = key
    · obtain ⟨node, _, _, hview, hfind, hconfigured⟩ := addScreen_placed endpoint hadd
      rw [hkey, hfind, hview] at hk
      cases hk
      rw [hkey, hconfigured]
    · rw [findScreen_addScreen_of_ne hkey] at hk
      rw [configuredCell_addScreen_of_ne hkey]
      exact h k screen hk

/-- The entries of the other keys, duplicates included. -/
def otherLayouts (config : AppConfig) (key : ScreenKey) : List ScreenLayoutConfig :=
  config.screens.filter fun layout =>
    ¬ (layout.ownerId = key.ownerId ∧ layout.screenIndex = key.screenIndex)

theorem otherLayouts_upsertScreenLayout (config : AppConfig) (key : ScreenKey)
    (cell : GridPosition) :
    otherLayouts (upsertScreenLayout config ⟨key.ownerId, key.screenIndex, cell⟩) key =
      otherLayouts config key := by
  unfold otherLayouts upsertScreenLayout
  induction config.screens with
  | nil => simp [upsertLayouts]
  | cons current rest ih =>
    by_cases hcurrent : current.ownerId = key.ownerId ∧ current.screenIndex = key.screenIndex
    · simp [upsertLayouts, hcurrent]
    · simp only [upsertLayouts, if_neg hcurrent, List.filter_cons, ih]

theorem otherLayouts_addScreen :
    otherLayouts (store.addScreen endpoint key cell info isLocal).mConfig key =
      otherLayouts store.mConfig key := by
  unfold addScreen
  split
  · rfl
  · simp [rememberScreenLayout, otherLayouts_upsertScreenLayout]

/-! ### A whole report -/

theorem Remembered.registerScreens (h : store.Remembered) (endpoint : E) (ownerId : String)
    (screens : List ScreenInfo) (isLocal : Bool) :
    (store.registerScreens endpoint ownerId screens isLocal).Remembered :=
  registerScreens_induction screens (fun _ _ _ _ hs => hs.addScreen _ _ _ _ _) h

theorem Remembered.eraseEndpoint (h : store.Remembered) (endpoint : E) :
    (store.eraseEndpoint endpoint).Remembered := by
  intro key screen hkey
  rw [findScreen_eraseEndpoint] at hkey
  split_ifs at hkey
  exact h key screen hkey

/-- A key that a report leaves out of the topology has the entry it had before: it is not in
the report, or its screen was refused. -/
theorem configuredCell_registerScreens_of_absent
    (habsent : (store.registerScreens endpoint ownerId screens isLocal).mTopology.findScreen key =
      none) :
    (store.registerScreens endpoint ownerId screens isLocal).configuredCell key =
      store.configuredCell key := by
  revert habsent
  refine registerScreens_induction (P := fun s => s.mTopology.findScreen key = none →
    s.configuredCell key = store.configuredCell key) screens ?_ (fun _ => rfl)
  intro s index cell info hs habsent
  by_cases hkey : key = ⟨ownerId, index⟩
  · -- an accepted screen would be found under the key
    subst hkey
    cases hadd : s.mTopology.addScreen ⟨⟨ownerId, index⟩, cell, info, isLocal⟩ with
    | error _ =>
      rw [addScreen_of_error hadd] at habsent ⊢
      exact hs habsent
    | ok topology =>
      obtain ⟨node, _, _, _, hfind, _⟩ := addScreen_placed endpoint hadd
      rw [hfind] at habsent
      cases habsent
  · rw [findScreen_addScreen_of_ne hkey] at habsent
    rw [configuredCell_addScreen_of_ne hkey]
    exact hs habsent

theorem configuredCell_registerScreens_of_unreported
    (h : ∀ index < screens.length, key ≠ ⟨ownerId, index⟩) :
    (store.registerScreens endpoint ownerId screens isLocal).configuredCell key =
      store.configuredCell key := by
  rw [registerScreens_eq_registerAssigned, configuredCell_registerAssigned_of_ne]
  intro index _ hindex
  exact h index (by omega)

/-! ### Every run -/

/-- One turn of a registration, on whatever cell it was offered, or a whole operation. -/
inductive LayoutChange (E : Type)
  | addScreen (endpoint : E) (key : ScreenKey) (cell : GridPosition) (info : ScreenInfo)
      (isLocal : Bool)
  | operation (operation : Operation E)

def change (store : ServerScreenStore E) : LayoutChange E → ServerScreenStore E
  | .addScreen endpoint key cell info isLocal => store.addScreen endpoint key cell info isLocal
  | .operation operation => store.perform operation

theorem Remembered.change (h : store.Remembered) (c : LayoutChange E) :
    (store.change c).Remembered := by
  cases c with
  | addScreen endpoint key cell info isLocal => exact h.addScreen endpoint key cell info isLocal
  | operation operation =>
    cases operation with
    | registerScreens endpoint ownerId screens isLocal =>
      exact h.registerScreens endpoint ownerId screens isLocal
    | removeScreen endpoint activeScreen => exact h.eraseEndpoint endpoint
    | rememberOwner endpoint ownerId => exact h
    | forgetOwner endpoint => exact h

theorem Grounded.change (h : store.Grounded) (c : LayoutChange E) : (store.change c).Grounded := by
  cases c with
  | addScreen endpoint key cell info isLocal => exact h.addScreen endpoint key cell info isLocal
  | operation operation => exact h.perform operation

/-- In every state of every run, also in the middle of a report, each screen of the topology
stands on its remembered cell. A refused screen, a removal and the owner records leave the
configuration as it is, and an accepted screen changes the entry of its own key only. -/
theorem remembered_layout (config : AppConfig) (configPath : String)
    (changes : List (LayoutChange E)) :
    let store : ServerScreenStore E := changes.foldl change (init config configPath)
    (∀ screen ∈ store.mTopology.screens,
      findScreenLayout store.mConfig screen.key.ownerId screen.key.screenIndex =
        some screen.cell) ∧
    (∀ endpoint key cell info isLocal error,
      store.mTopology.addScreen ⟨key, cell, info, isLocal⟩ = .error error →
      (store.addScreen endpoint key cell info isLocal).mConfig = store.mConfig) ∧
    (∀ endpoint activeScreen,
      (store.removeScreen endpoint activeScreen).2.mConfig = store.mConfig) ∧
    (∀ endpoint ownerId, (store.rememberOwner endpoint ownerId).mConfig = store.mConfig ∧
      (store.forgetOwner endpoint).mConfig = store.mConfig) ∧
    (∀ endpoint key cell info isLocal,
      otherLayouts (store.addScreen endpoint key cell info isLocal).mConfig key =
        otherLayouts store.mConfig key ∧
      ∀ other, other ≠ key →
        findScreenLayout (store.addScreen endpoint key cell info isLocal).mConfig other.ownerId
          other.screenIndex = findScreenLayout store.mConfig other.ownerId other.screenIndex) ∧
    (∀ endpoint ownerId screens isLocal key,
      (∀ index < screens.length, key ≠ ⟨ownerId, index⟩) ∨
        (store.registerScreens endpoint ownerId screens isLocal).mTopology.findScreen key =
          none →
      findScreenLayout (store.registerScreens endpoint ownerId screens isLocal).mConfig
        key.ownerId key.screenIndex =
        findScreenLayout store.mConfig key.ownerId key.screenIndex) := by
  intro store
  have hremembered : store.Remembered := changes.foldlRecOn _
    (remembered_init config configPath) fun _ hs c _ => hs.change c
  have hgrounded : store.Grounded := changes.foldlRecOn _
    (grounded_init config configPath) fun _ hs c _ => hs.change c
  refine ⟨?_, ?_, fun _ _ => rfl, fun _ _ => ⟨rfl, rfl⟩, ?_, ?_⟩
  · intro screen hscreen
    exact hremembered screen.key screen (hgrounded.wellFormed.mem_screens.mp hscreen)
  · intro endpoint key cell info isLocal error herror
    rw [addScreen_of_error herror]
  · intro endpoint key cell info isLocal
    exact ⟨otherLayouts_addScreen, fun other hother => configuredCell_addScreen_of_ne hother⟩
  · rintro endpoint ownerId screens isLocal key (hunreported | habsent)
    · exact configuredCell_registerScreens_of_unreported hunreported
    · exact configuredCell_registerScreens_of_absent habsent

end ServerScreenStore
end Mksync
