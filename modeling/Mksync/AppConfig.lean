import Mksync.ScreenTopology

/-! # The persisted configuration: machine id, screen layout and trusted clients -/
namespace Mksync

structure ScreenLayoutConfig where
  ownerId : String
  screenIndex : Nat := 0
  cell : GridPosition := {}
  deriving DecidableEq, Repr

structure TrustedClientConfig where
  machineId : String
  name : String
  deriving DecidableEq, Repr

structure AppConfig where
  version : Nat := 1
  machineId : String := ""
  screens : List ScreenLayoutConfig := []
  trustedClients : List TrustedClientConfig := []
  deriving DecidableEq, Repr

def findScreenLayout (config : AppConfig) (ownerId : String) (screenIndex : Nat) :
    Option GridPosition :=
  (config.screens.find? fun layout =>
    layout.ownerId = ownerId && layout.screenIndex = screenIndex).map (·.cell)

/-- The first entry of the key is replaced in place, a new key goes to the end. -/
def upsertLayouts (layout : ScreenLayoutConfig) : List ScreenLayoutConfig → List ScreenLayoutConfig
  | [] => [layout]
  | current :: rest =>
    if current.ownerId = layout.ownerId ∧ current.screenIndex = layout.screenIndex then
      layout :: rest
    else current :: upsertLayouts layout rest

def upsertScreenLayout (config : AppConfig) (layout : ScreenLayoutConfig) : AppConfig :=
  { config with screens := upsertLayouts layout config.screens }

@[simp] theorem upsertScreenLayout_trustedClients (config : AppConfig)
    (layout : ScreenLayoutConfig) :
    (upsertScreenLayout config layout).trustedClients = config.trustedClients := rfl

@[simp] theorem upsertScreenLayout_machineId (config : AppConfig) (layout : ScreenLayoutConfig) :
    (upsertScreenLayout config layout).machineId = config.machineId := rfl

private theorem find?_upsertLayouts_self (layout : ScreenLayoutConfig)
    (layouts : List ScreenLayoutConfig) :
    (upsertLayouts layout layouts).find? (fun current => current.ownerId = layout.ownerId &&
      current.screenIndex = layout.screenIndex) = some layout := by
  induction layouts with
  | nil => simp [upsertLayouts]
  | cons current rest ih =>
    rw [upsertLayouts]
    split_ifs with hcurrent
    · simp
    · rw [List.find?_cons_of_neg (by simpa using hcurrent), ih]

private theorem find?_upsertLayouts_of_not {layout : ScreenLayoutConfig}
    {p : ScreenLayoutConfig → Bool} (hp : ∀ other, other.ownerId = layout.ownerId →
      other.screenIndex = layout.screenIndex → ¬ p other = true)
    (layouts : List ScreenLayoutConfig) :
    (upsertLayouts layout layouts).find? p = layouts.find? p := by
  have hlayout := hp layout rfl rfl
  induction layouts with
  | nil => rw [upsertLayouts, List.find?_cons_of_neg hlayout]
  | cons current rest ih =>
    rw [upsertLayouts]
    split_ifs with hcurrent
    · rw [List.find?_cons_of_neg hlayout, List.find?_cons_of_neg (hp current hcurrent.1 hcurrent.2)]
    · rw [List.find?_cons, List.find?_cons, ih]

/-- Remembering a layout changes what is found under its own key only. -/
theorem findScreenLayout_upsertScreenLayout (config : AppConfig) (layout : ScreenLayoutConfig)
    (ownerId : String) (screenIndex : Nat) :
    findScreenLayout (upsertScreenLayout config layout) ownerId screenIndex =
      if layout.ownerId = ownerId ∧ layout.screenIndex = screenIndex then some layout.cell
      else findScreenLayout config ownerId screenIndex := by
  unfold findScreenLayout upsertScreenLayout
  split_ifs with hkey
  · obtain ⟨rfl, rfl⟩ := hkey
    rw [find?_upsertLayouts_self, Option.map_some]
  · rw [find?_upsertLayouts_of_not]
    intro other howner hindex hother
    have hother : other.ownerId = ownerId ∧ other.screenIndex = screenIndex := by
      simpa using hother
    exact hkey ⟨howner.symm.trans hother.1, hindex.symm.trans hother.2⟩

/-- An empty list trusts everyone; otherwise a nonempty machine id or a nonempty name has
to be listed. -/
def isTrustedClient (config : AppConfig) (machineId name : String) : Bool :=
  if config.trustedClients.isEmpty then true
  else config.trustedClients.any fun client =>
    (machineId != "" && client.machineId == machineId) || (name != "" && client.name == name)

/-- Trust reads the list of trusted clients and nothing else of the configuration. -/
theorem isTrustedClient_congr {config config' : AppConfig}
    (h : config.trustedClients = config'.trustedClients) (machineId name : String) :
    isTrustedClient config machineId name = isTrustedClient config' machineId name := by
  simp [isTrustedClient, h]

end Mksync
