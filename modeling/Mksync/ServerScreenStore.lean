import Mksync.AppConfig

/-!
# The server's screen store

Routes live in a multimap by endpoint, cells in the topology by owner id. A pointer to a
stored screen is the address of its multimap node.
-/
namespace Mksync

/-- What the server uses of an IP endpoint: the order of its maps and its printed form. -/
class Endpoint (E : Type) extends LinearOrder E where
  format : E → String

structure IPv4Endpoint where
  host : UInt32
  port : UInt16
  deriving Repr

instance : LinearOrder IPv4Endpoint :=
  LinearOrder.lift' (fun e => toLex (e.host.toNat, e.port.toNat)) (by
    rintro ⟨host, port⟩ ⟨host', port'⟩ h
    simpa [UInt32.toNat_inj, UInt16.toNat_inj] using h)

instance : Endpoint IPv4Endpoint where
  format e :=
    let host := e.host.toNat
    s!"{host / 2 ^ 24}.{host / 2 ^ 16 % 256}.{host / 2 ^ 8 % 256}.{host % 256}:{e.port.toNat}"

/-- `127.0.0.1` with the given port. -/
def loopback (port : UInt16) : IPv4Endpoint := ⟨0x7f000001, port⟩

/-- One screen of the routing tables. -/
structure VirtualScreen (E : Type) where
  endpoint : E
  key : ScreenKey
  cell : GridPosition
  isLocal : Bool := false
  info : ScreenInfo
  deriving DecidableEq

/-- The topology's view of a routed screen. -/
def VirtualScreen.toTopologyScreen {E : Type} (screen : VirtualScreen E) : TopologyScreen :=
  ⟨screen.key, screen.cell, screen.info, screen.isLocal⟩

/-- A stored screen together with its address. -/
abbrev ScreenNode (E : Type) := MultimapNode E (VirtualScreen E)

structure ServerScreenStore (E : Type) [LinearOrder E] where
  mConfig : AppConfig
  mConfigPath : String
  mScreens : OrderedMultimap E (VirtualScreen E)
  mTopology : ScreenTopology
  mEndpointOwners : OrderedMap E String
  /-- The contents handed to `saveConfig`, oldest first; a failed save is only logged. -/
  saved : List AppConfig
  /-- History: the endpoint through which each key was last registered. Read by no function. -/
  registrar : OrderedMap ScreenKey E

namespace ServerScreenStore

variable {E : Type} [Endpoint E]

def init (config : AppConfig) (configPath : String) : ServerScreenStore E :=
  ⟨config, configPath, .empty, .empty, .empty, [], .empty⟩

/-! ### Layout persistence and automatic placement -/

def configuredCell (store : ServerScreenStore E) (key : ScreenKey) : Option GridPosition :=
  findScreenLayout store.mConfig key.ownerId key.screenIndex

def saveConfigIfNeeded (store : ServerScreenStore E) : ServerScreenStore E :=
  if store.mConfigPath = "" then store else { store with saved := store.saved ++ [store.mConfig] }

def rememberScreenLayout (store : ServerScreenStore E) (key : ScreenKey) (cell : GridPosition) :
    ServerScreenStore E :=
  { store with
    mConfig := upsertScreenLayout store.mConfig ⟨key.ownerId, key.screenIndex, cell⟩ }
  |>.saveConfigIfNeeded

/-- The scan to the right. Each occupied probe is another screen of the topology, so one
more probe than there are screens finds a free cell. -/
def freeCellFrom (screens : List TopologyScreen) : Nat → Int → GridPosition
  | 0, x => ⟨x, 0⟩
  | probes + 1, x =>
    if screens.any (·.cell = ⟨x, 0⟩) then freeCellFrom screens probes (x + 1) else ⟨x, 0⟩

def nextFreeCell (store : ServerScreenStore E) (startX : Int) : GridPosition :=
  freeCellFrom store.mTopology.screens (store.mTopology.screens.length + 1) startX

/-! ### Register and remove -/

/-- The topology decides first: a rejected screen gets no route and no layout entry. -/
def addScreen (store : ServerScreenStore E) (endpoint : E) (key : ScreenKey) (cell : GridPosition)
    (info : ScreenInfo) (isLocal : Bool) : ServerScreenStore E :=
  match store.mTopology.addScreen ⟨key, cell, info, isLocal⟩ with
  | .error _ => store
  | .ok topology =>
    { store with
      mTopology := topology
      mScreens := store.mScreens.emplace endpoint ⟨endpoint, key, cell, isLocal, info⟩
      registrar := store.registrar.insertOrAssign key endpoint }
    |>.rememberScreenLayout key cell

/-- The index of the first screen flagged primary, `0` when none is. -/
def primaryIndex (screens : List ScreenInfo) : Nat := (screens.findIdx? (·.primary)).getD 0

/-- The cell the placement rules choose, whether it was a persisted one, and whether the
primary screen counts as registered afterwards. -/
def placement (store : ServerScreenStore E) (key : ScreenKey) (info : ScreenInfo)
    (primaryIndex : Nat) (isLocal primaryRegistered : Bool) : GridPosition × Bool × Bool :=
  match store.configuredCell key with
  | some configured =>
    (configured, true,
      primaryRegistered || (isLocal && (info.primary || key.screenIndex == primaryIndex)))
  | none =>
    if isLocal && info.primary && !primaryRegistered then (⟨0, 0⟩, false, true)
    else if isLocal && key.screenIndex == primaryIndex && !primaryRegistered then
      (⟨0, 0⟩, false, true)
    else (store.nextFreeCell 1, false, primaryRegistered)

/-- A persisted cell that is taken is repaired, an automatic one is not. -/
def chosenCell (store : ServerScreenStore E) (cell : GridPosition) (usedPersistedCell : Bool) :
    GridPosition :=
  let cellOccupied := store.mTopology.screens.any (·.cell = cell)
  if usedPersistedCell && cellOccupied then store.nextFreeCell 1 else cell

/-- The registration loop from a list index on. -/
def registerFrom (endpoint : E) (ownerId : String) (primaryIndex : Nat) (isLocal : Bool) :
    Nat → Bool → List ScreenInfo → ServerScreenStore E → ServerScreenStore E
  | _, _, [], store => store
  | index, primaryRegistered, info :: rest, store =>
    let key : ScreenKey := ⟨ownerId, index⟩
    let (cell, usedPersistedCell, primaryRegistered) :=
      store.placement key info primaryIndex isLocal primaryRegistered
    let cell := store.chosenCell cell usedPersistedCell
    registerFrom endpoint ownerId primaryIndex isLocal (index + 1) primaryRegistered rest
      (store.addScreen endpoint key cell info isLocal)

def registerScreens (store : ServerScreenStore E) (endpoint : E) (ownerId : String)
    (screens : List ScreenInfo) (isLocal : Bool) : ServerScreenStore E :=
  registerFrom endpoint ownerId (primaryIndex screens) isLocal 0 false screens store

/-- The owner ids of the endpoint's screens, each once, in the order they are met. -/
def ownerIds (store : ServerScreenStore E) (endpoint : E) : List String :=
  (store.mScreens.equalRange endpoint).foldl
    (fun ids node => if node.value.key.ownerId ∈ ids then ids else ids ++ [node.value.key.ownerId])
    []

/-- The store without the endpoint's screens. The topology loses every screen that has the
owner id of one of them. -/
def eraseEndpoint (store : ServerScreenStore E) (endpoint : E) : ServerScreenStore E :=
  { store with
    mScreens := store.mScreens.eraseKey endpoint
    mTopology := (store.ownerIds endpoint).foldl ScreenTopology.removeOwner store.mTopology }

/-- Remove all screens of the endpoint. The flag says whether the active screen was one of
them; the pointer dangles then. -/
def removeScreen (store : ServerScreenStore E) (endpoint : E) (activeScreen : Option Nat) :
    Bool × ServerScreenStore E :=
  ((store.mScreens.equalRange endpoint).any (some ·.address = activeScreen),
    store.eraseEndpoint endpoint)

/-! ### Lookup and owners -/

def findScreen (store : ServerScreenStore E) (key : ScreenKey) : Option (ScreenNode E) :=
  store.mScreens.nodes.find? (·.value.key = key)

/-- The scan of `firstLocalScreen`: a primary local screen ends it. -/
def selectLocal : Option (ScreenNode E) → List (ScreenNode E) → Option (ScreenNode E)
  | selected, [] => selected
  | selected, node :: rest =>
    if !node.value.isLocal then selectLocal selected rest
    else if node.value.info.primary then some node
    else selectLocal (if selected.isNone then some node else selected) rest

def firstLocalScreen (store : ServerScreenStore E) : Option (ScreenNode E) :=
  selectLocal none store.mScreens.nodes

def rememberOwner (store : ServerScreenStore E) (endpoint : E) (ownerId : String) :
    ServerScreenStore E :=
  { store with mEndpointOwners := store.mEndpointOwners.insertOrAssign endpoint ownerId }

def forgetOwner (store : ServerScreenStore E) (endpoint : E) : ServerScreenStore E :=
  { store with mEndpointOwners := store.mEndpointOwners.erase endpoint }

def ownerIdFromEndpoint (endpoint : E) : String := Endpoint.format endpoint

def defaultOwnerId (store : ServerScreenStore E) (endpoint : E) (isLocal : Bool) : String :=
  if isLocal && store.mConfig.machineId != "" then store.mConfig.machineId
  else
    match store.mEndpointOwners.find? endpoint with
    | some owner => if owner = "" then ownerIdFromEndpoint endpoint else owner
    | none => ownerIdFromEndpoint endpoint

/-! ### What the operations do -/

section Operations

variable {store : ServerScreenStore E} {endpoint : E} {key : ScreenKey} {cell : GridPosition}
  {info : ScreenInfo} {isLocal : Bool} {ownerId : String}

/-- Saving touches the file only. -/
theorem saveConfigIfNeeded_eq : store.saveConfigIfNeeded = { store with
    saved := if store.mConfigPath = "" then store.saved else store.saved ++ [store.mConfig] } := by
  unfold saveConfigIfNeeded
  split_ifs <;> rfl

@[simp] theorem saveConfigIfNeeded_mConfig :
    store.saveConfigIfNeeded.mConfig = store.mConfig := by
  rw [saveConfigIfNeeded_eq]

@[simp] theorem saveConfigIfNeeded_mScreens :
    store.saveConfigIfNeeded.mScreens = store.mScreens := by
  rw [saveConfigIfNeeded_eq]

@[simp] theorem saveConfigIfNeeded_mTopology :
    store.saveConfigIfNeeded.mTopology = store.mTopology := by
  rw [saveConfigIfNeeded_eq]

@[simp] theorem saveConfigIfNeeded_mEndpointOwners :
    store.saveConfigIfNeeded.mEndpointOwners = store.mEndpointOwners := by
  rw [saveConfigIfNeeded_eq]

@[simp] theorem saveConfigIfNeeded_registrar :
    store.saveConfigIfNeeded.registrar = store.registrar := by
  rw [saveConfigIfNeeded_eq]

/-- A registration is rejected by the topology and changes nothing, or it enters both
containers and the remembered layout. -/
theorem addScreen_cases (store : ServerScreenStore E) (endpoint : E) (key : ScreenKey)
    (cell : GridPosition) (info : ScreenInfo) (isLocal : Bool) :
    store.addScreen endpoint key cell info isLocal = store ∨
      ∃ topology, store.mTopology.addScreen ⟨key, cell, info, isLocal⟩ = .ok topology ∧
        (store.addScreen endpoint key cell info isLocal).mTopology = topology ∧
        (store.addScreen endpoint key cell info isLocal).mScreens =
          store.mScreens.emplace endpoint ⟨endpoint, key, cell, isLocal, info⟩ ∧
        (store.addScreen endpoint key cell info isLocal).registrar =
          store.registrar.insertOrAssign key endpoint := by
  unfold addScreen
  cases h : store.mTopology.addScreen ⟨key, cell, info, isLocal⟩ with
  | error e => exact .inl rfl
  | ok topology => exact .inr ⟨topology, rfl, by simp [rememberScreenLayout]⟩

@[simp] theorem addScreen_mEndpointOwners :
    (store.addScreen endpoint key cell info isLocal).mEndpointOwners = store.mEndpointOwners := by
  unfold addScreen
  split <;> simp [rememberScreenLayout]

@[simp] theorem addScreen_trustedClients :
    (store.addScreen endpoint key cell info isLocal).mConfig.trustedClients =
      store.mConfig.trustedClients := by
  unfold addScreen
  split <;> simp [rememberScreenLayout]

@[simp] theorem addScreen_machineId :
    (store.addScreen endpoint key cell info isLocal).mConfig.machineId =
      store.mConfig.machineId := by
  unfold addScreen
  split <;> simp [rememberScreenLayout]

/-- What every single registration of the owner's screens preserves, the loop preserves. -/
theorem registerFrom_induction_of_mem {P : ServerScreenStore E → Prop} {primaryIndex index : Nat}
    {primaryRegistered : Bool} (screens : List ScreenInfo)
    (hadd : ∀ store index cell, ∀ info ∈ screens, P store →
      P (store.addScreen endpoint ⟨ownerId, index⟩ cell info isLocal)) (h : P store) :
    P (registerFrom endpoint ownerId primaryIndex isLocal index primaryRegistered screens
      store) := by
  induction screens generalizing index primaryRegistered store with
  | nil => exact h
  | cons info rest ih =>
    apply ih
    · exact fun store index cell other hother =>
        hadd store index cell other (List.mem_cons_of_mem _ hother)
    · exact hadd _ _ _ info List.mem_cons_self h

theorem registerFrom_induction {P : ServerScreenStore E → Prop} {primaryIndex index : Nat}
    {primaryRegistered : Bool} (screens : List ScreenInfo)
    (hadd : ∀ store index cell info, P store →
      P (store.addScreen endpoint ⟨ownerId, index⟩ cell info isLocal)) (h : P store) :
    P (registerFrom endpoint ownerId primaryIndex isLocal index primaryRegistered screens store) :=
  registerFrom_induction_of_mem screens (fun _ _ _ _ _ => hadd _ _ _ _) h

theorem registerScreens_induction_of_mem {P : ServerScreenStore E → Prop}
    (screens : List ScreenInfo) (hadd : ∀ store index cell, ∀ info ∈ screens, P store →
      P (store.addScreen endpoint ⟨ownerId, index⟩ cell info isLocal))
    (h : P store) : P (store.registerScreens endpoint ownerId screens isLocal) :=
  registerFrom_induction_of_mem screens hadd h

theorem registerScreens_induction {P : ServerScreenStore E → Prop} (screens : List ScreenInfo)
    (hadd : ∀ store index cell info, P store →
      P (store.addScreen endpoint ⟨ownerId, index⟩ cell info isLocal))
    (h : P store) : P (store.registerScreens endpoint ownerId screens isLocal) :=
  registerFrom_induction screens hadd h

@[simp] theorem registerScreens_mEndpointOwners (screens : List ScreenInfo) :
    (store.registerScreens endpoint ownerId screens isLocal).mEndpointOwners =
      store.mEndpointOwners :=
  registerScreens_induction (P := fun s => s.mEndpointOwners = store.mEndpointOwners) screens
    (fun _ _ _ _ h => addScreen_mEndpointOwners.trans h) rfl

@[simp] theorem registerScreens_trustedClients (screens : List ScreenInfo) :
    (store.registerScreens endpoint ownerId screens isLocal).mConfig.trustedClients =
      store.mConfig.trustedClients :=
  registerScreens_induction
    (P := fun s => s.mConfig.trustedClients = store.mConfig.trustedClients) screens
    (fun _ _ _ _ h => addScreen_trustedClients.trans h) rfl

@[simp] theorem registerScreens_machineId (screens : List ScreenInfo) :
    (store.registerScreens endpoint ownerId screens isLocal).mConfig.machineId =
      store.mConfig.machineId :=
  registerScreens_induction (P := fun s => s.mConfig.machineId = store.mConfig.machineId) screens
    (fun _ _ _ _ h => addScreen_machineId.trans h) rfl

/-- A node after a registration is an old one or one of the endpoint's own new screens. -/
theorem mem_nodes_registerScreens {node : ScreenNode E} (screens : List ScreenInfo)
    (h : node ∈ (store.registerScreens endpoint ownerId screens isLocal).mScreens.nodes) :
    node ∈ store.mScreens.nodes ∨ (node.key = endpoint ∧ node.value.endpoint = endpoint ∧
      node.value.key.ownerId = ownerId ∧ node.value.isLocal = isLocal) := by
  revert h
  refine registerScreens_induction (P := fun s => node ∈ s.mScreens.nodes →
    node ∈ store.mScreens.nodes ∨ (node.key = endpoint ∧ node.value.endpoint = endpoint ∧
      node.value.key.ownerId = ownerId ∧ node.value.isLocal = isLocal)) screens ?_ .inl
  intro s index cell info hs hmem
  rcases addScreen_cases s endpoint ⟨ownerId, index⟩ cell info isLocal with heq | ⟨_, _, _, heq, _⟩
  · exact hs (heq ▸ hmem)
  · rw [heq, OrderedMultimap.mem_nodes_emplace] at hmem
    rcases hmem with rfl | hmem
    · exact .inr ⟨rfl, rfl, rfl, rfl⟩
    · exact hs hmem

/-- Registering for an endpoint keeps the stored screens where they are. -/
theorem mem_nodes_addScreen_of_mem {node : ScreenNode E} (h : node ∈ store.mScreens.nodes) :
    node ∈ (store.addScreen endpoint key cell info isLocal).mScreens.nodes := by
  rcases addScreen_cases store endpoint key cell info isLocal with heq | ⟨_, _, _, heq, _⟩
  · rwa [heq]
  · rw [heq]
    exact OrderedMultimap.mem_nodes_emplace.mpr (.inr h)

theorem mem_nodes_registerScreens_of_mem {node : ScreenNode E} (screens : List ScreenInfo)
    (h : node ∈ store.mScreens.nodes) :
    node ∈ (store.registerScreens endpoint ownerId screens isLocal).mScreens.nodes :=
  registerScreens_induction (P := fun s => node ∈ s.mScreens.nodes) screens
    (fun _ _ _ _ hs => mem_nodes_addScreen_of_mem hs) h

/-- On an empty grid the first screen with a positive rect is accepted. -/
theorem exists_node_registerScreens {screens : List ScreenInfo}
    (hempty : store.mTopology = .empty) (hvalid : ∃ info ∈ screens, isValidRect info = true) :
    ∃ node ∈ (store.registerScreens endpoint ownerId screens isLocal).mScreens.nodes,
      node.value.isLocal = isLocal := by
  have loop : ∀ primaryIndex index primaryRegistered (store : ServerScreenStore E),
      store.mTopology = .empty → ∃ node ∈ (registerFrom endpoint ownerId primaryIndex isLocal index
        primaryRegistered screens store).mScreens.nodes, node.value.isLocal = isLocal := by
    intro primaryIndex
    induction screens with
    | nil => simp at hvalid
    | cons info rest ih =>
      intro index primaryRegistered store hempty
      simp only [registerFrom]
      generalize store.placement ⟨ownerId, index⟩ info primaryIndex isLocal primaryRegistered =
        placed
      generalize store.chosenCell placed.1 placed.2.1 = cell
      cases hrect : isValidRect info with
      | false =>
        have hsame : store.addScreen endpoint ⟨ownerId, index⟩ cell info isLocal = store := by
          simp [addScreen, ScreenTopology.addScreen, hrect]
        rw [hsame]
        refine ih ?_ _ _ store hempty
        obtain ⟨valid, hmem, hvalid⟩ := hvalid
        rcases List.mem_cons.mp hmem with rfl | hmem
        · simp [hrect] at hvalid
        · exact ⟨valid, hmem, hvalid⟩
      | true =>
        have hadded : ∃ node ∈ (store.addScreen endpoint ⟨ownerId, index⟩ cell info
            isLocal).mScreens.nodes, node.value.isLocal = isLocal := by
          simp [addScreen, ScreenTopology.addScreen, hrect, hempty, ScreenTopology.empty,
            OrderedMap.contains, rememberScreenLayout]
        obtain ⟨node, hnode, hlocal⟩ := hadded
        exact ⟨node, registerFrom_induction (P := fun s => node ∈ s.mScreens.nodes) rest
          (fun _ _ _ _ hs => mem_nodes_addScreen_of_mem hs) hnode, hlocal⟩
  exact loop _ 0 false store hempty

@[simp] theorem mem_ownerIds {owner : String} : owner ∈ store.ownerIds endpoint ↔
    ∃ node ∈ store.mScreens.nodes, node.key = endpoint ∧ node.value.key.ownerId = owner := by
  have general : ∀ (nodes : List (ScreenNode E)) (ids : List String),
      owner ∈ nodes.foldl (fun ids node => if node.value.key.ownerId ∈ ids then ids
        else ids ++ [node.value.key.ownerId]) ids ↔
      owner ∈ ids ∨ ∃ node ∈ nodes, node.value.key.ownerId = owner := by
    intro nodes
    induction nodes with
    | nil => simp
    | cons node nodes ih =>
      intro ids
      rw [List.foldl_cons, ih]
      by_cases hmem : node.value.key.ownerId ∈ ids
      · rw [if_pos hmem]
        constructor
        · rintro (h | ⟨n, hn, h⟩)
          · exact .inl h
          · exact .inr ⟨n, List.mem_cons_of_mem _ hn, h⟩
        · rintro (h | ⟨n, hn, h⟩)
          · exact .inl h
          · rcases List.mem_cons.mp hn with rfl | hn
            · exact .inl (h ▸ hmem)
            · exact .inr ⟨n, hn, h⟩
      · simp [hmem, or_assoc, eq_comm]
  rw [ownerIds, general]
  simp [and_assoc]

theorem findScreen_foldl_removeOwner (owners : List String) (topology : ScreenTopology)
    (key : ScreenKey) :
    (owners.foldl ScreenTopology.removeOwner topology).findScreen key =
      if key.ownerId ∈ owners then none else topology.findScreen key := by
  induction owners generalizing topology with
  | nil => simp
  | cons owner owners ih =>
    rw [List.foldl_cons, ih, ScreenTopology.findScreen_removeOwner]
    by_cases h : key.ownerId ∈ owners <;> by_cases ho : key.ownerId = owner <;> simp [h, ho]

/-- Removing an endpoint removes from the topology every screen under one of its owner ids. -/
theorem findScreen_eraseEndpoint (key : ScreenKey) :
    (store.eraseEndpoint endpoint).mTopology.findScreen key =
      if key.ownerId ∈ store.ownerIds endpoint then none
      else store.mTopology.findScreen key :=
  findScreen_foldl_removeOwner _ _ _

theorem wellFormed_eraseEndpoint (h : store.mTopology.WellFormed) :
    (store.eraseEndpoint endpoint).mTopology.WellFormed :=
  (store.ownerIds endpoint).foldlRecOn _ h fun _ ht owner _ => ht.removeOwner owner

/-- The active screen is reported as removed exactly when it belonged to the endpoint. -/
theorem removeScreen_activeRemoved {node : ScreenNode E} (h : node ∈ store.mScreens.nodes) :
    (store.removeScreen endpoint (some node.address)).1 = true ↔ node.key = endpoint := by
  simp only [removeScreen, List.any_eq_true, decide_eq_true_eq, Option.some.injEq,
    OrderedMultimap.mem_equalRange]
  constructor
  · rintro ⟨n, ⟨hn, hkey⟩, haddr⟩
    have heq : some n = some node := (OrderedMultimap.node?_eq_some.mpr ⟨hn, rfl⟩).symm.trans
      (OrderedMultimap.node?_eq_some.mpr ⟨h, haddr.symm⟩)
    cases heq
    exact hkey
  · exact fun hkey => ⟨node, ⟨h, hkey⟩, rfl⟩

theorem removeScreen_none : (store.removeScreen endpoint none).1 = false := by
  simp [removeScreen]

theorem findScreen_eq_some {node : ScreenNode E} (h : store.findScreen key = some node) :
    node ∈ store.mScreens.nodes ∧ node.value.key = key :=
  ⟨List.mem_of_find?_eq_some h, by simpa using List.find?_some h⟩

omit [Endpoint E] in
theorem selectLocal_spec {selected : Option (ScreenNode E)} {nodes : List (ScreenNode E)}
    {node : ScreenNode E} (h : selectLocal selected nodes = some node) :
    selected = some node ∨ (node ∈ nodes ∧ node.value.isLocal = true) := by
  induction nodes generalizing selected with
  | nil => exact .inl h
  | cons n rest ih =>
    simp only [selectLocal] at h
    split_ifs at h with hlocal hprimary hnone
    · exact (ih h).imp_right fun ⟨hmem, hl⟩ => ⟨List.mem_cons_of_mem _ hmem, hl⟩
    · cases h
      exact .inr ⟨List.mem_cons_self, by simpa using hlocal⟩
    · rcases ih h with heq | ⟨hmem, hl⟩
      · cases heq
        exact .inr ⟨List.mem_cons_self, by simpa using hlocal⟩
      · exact .inr ⟨List.mem_cons_of_mem _ hmem, hl⟩
    · exact (ih h).imp_right fun ⟨hmem, hl⟩ => ⟨List.mem_cons_of_mem _ hmem, hl⟩

omit [Endpoint E] in
theorem selectLocal_eq_none {selected : Option (ScreenNode E)} {nodes : List (ScreenNode E)} :
    selectLocal selected nodes = none ↔
      selected = none ∧ ∀ node ∈ nodes, node.value.isLocal = false := by
  induction nodes generalizing selected with
  | nil => simp [selectLocal]
  | cons n rest ih =>
    cases hl : n.value.isLocal with
    | false => simp [selectLocal, ih, hl]
    | true =>
      cases hp : n.value.info.primary <;> cases selected <;> simp [selectLocal, ih, hl, hp]

omit [Endpoint E] in
/-- A primary local screen ends the scan, so one is chosen if there is any. -/
theorem selectLocal_primary {selected : Option (ScreenNode E)} {nodes : List (ScreenNode E)}
    {node : ScreenNode E} (h : selectLocal selected nodes = some node)
    (hprimary : ∃ n ∈ nodes, n.value.isLocal = true ∧ n.value.info.primary = true) :
    node.value.info.primary = true := by
  induction nodes generalizing selected with
  | nil =>
    obtain ⟨n, hn, _⟩ := hprimary
    cases hn
  | cons n rest ih =>
    have hrest : ¬ (n.value.isLocal = true ∧ n.value.info.primary = true) →
        ∃ n ∈ rest, n.value.isLocal = true ∧ n.value.info.primary = true := by
      intro hno
      obtain ⟨other, hother, hboth⟩ := hprimary
      rcases List.mem_cons.mp hother with rfl | hother
      · exact absurd hboth hno
      · exact ⟨other, hother, hboth⟩
    simp only [selectLocal] at h
    split_ifs at h with hremote hchosen hnone
    · exact ih h (hrest fun hboth => by simp [hboth.1] at hremote)
    · cases h
      exact hchosen
    · exact ih h (hrest fun hboth => hchosen hboth.2)
    · exact ih h (hrest fun hboth => hchosen hboth.2)

theorem firstLocalScreen_primary {node : ScreenNode E} (h : store.firstLocalScreen = some node)
    (hprimary : ∃ n ∈ store.mScreens.nodes,
      n.value.isLocal = true ∧ n.value.info.primary = true) : node.value.info.primary = true :=
  selectLocal_primary h hprimary

theorem firstLocalScreen_spec {node : ScreenNode E} (h : store.firstLocalScreen = some node) :
    node ∈ store.mScreens.nodes ∧ node.value.isLocal = true := by
  rcases selectLocal_spec h with hcon | hspec
  · cases hcon
  · exact hspec

theorem firstLocalScreen_isSome {node : ScreenNode E} (h : node ∈ store.mScreens.nodes)
    (hlocal : node.value.isLocal = true) : ∃ n, store.firstLocalScreen = some n := by
  cases hf : store.firstLocalScreen with
  | some n => exact ⟨n, rfl⟩
  | none =>
    have hnone := (selectLocal_eq_none.mp hf).2 node h
    simp [hlocal] at hnone

end Operations

end ServerScreenStore
end Mksync
