import Mksync.ServerSteps

/-!
# Store and topology hold the same screens

The store drops an endpoint's screens by endpoint, the topology by owner id. The two agree
as long as the owner ids of a dropped endpoint are its own.
-/
namespace Mksync

open TransitionRuns

namespace ServerScreenStore

variable {E : Type} [Endpoint E] {store store' : ServerScreenStore E} {endpoint : E}

/-! ### What every store keeps -/

/-- Every screen stands under its own endpoint, and every topology screen is the view of the
screen that was last registered under its key. -/
structure Grounded (store : ServerScreenStore E) : Prop where
  wellFormed : store.mTopology.WellFormed
  routed : ∀ node ∈ store.mScreens.nodes, node.value.endpoint = node.key
  viewed : ∀ key screen, store.mTopology.findScreen key = some screen →
    ∃ node ∈ store.mScreens.nodes, node.value.toTopologyScreen = screen ∧
      store.registrar.find? key = some node.key

theorem grounded_init (config : AppConfig) (configPath : String) :
    (init config configPath : ServerScreenStore E).Grounded :=
  ⟨ScreenTopology.wellFormed_empty, fun _ hnode => absurd hnode List.not_mem_nil,
    fun _ _ hfind => by cases hfind⟩

/-- The node behind a topology screen has the topology's key. -/
theorem Grounded.key_eq (h : store.Grounded) {key : ScreenKey} {node : ScreenNode E}
    (hfind : store.mTopology.findScreen key = some node.value.toTopologyScreen) :
    node.value.key = key :=
  h.wellFormed.keyed key _ hfind

theorem Grounded.addScreen (h : store.Grounded) (endpoint : E) (key : ScreenKey)
    (cell : GridPosition) (info : ScreenInfo) (isLocal : Bool) :
    (store.addScreen endpoint key cell info isLocal).Grounded := by
  rcases addScreen_cases store endpoint key cell info isLocal with
    heq | ⟨topology, hadd, htopology, hscreens, hregistrar⟩
  · rwa [heq]
  · refine ⟨?_, ?_, ?_⟩
    · rw [htopology]
      exact h.wellFormed.addScreen hadd
    · intro node hnode
      rw [hscreens] at hnode
      rcases OrderedMultimap.mem_nodes_emplace.mp hnode with rfl | hnode
      · rfl
      · exact h.routed node hnode
    · intro k screen hk
      rw [htopology, ScreenTopology.findScreen_addScreen hadd] at hk
      rw [hscreens, hregistrar]
      split_ifs at hk with heq
      · cases hk
        exact ⟨_, OrderedMultimap.mem_nodes_emplace.mpr (.inl rfl), rfl, by simp [heq]⟩
      · obtain ⟨node, hnode, hview, hreg⟩ := h.viewed k screen hk
        exact ⟨node, OrderedMultimap.mem_nodes_emplace.mpr (.inr hnode), hview,
          by simpa [heq] using hreg⟩

theorem Grounded.registerScreens (h : store.Grounded) (endpoint : E) (ownerId : String)
    (screens : List ScreenInfo) (isLocal : Bool) :
    (store.registerScreens endpoint ownerId screens isLocal).Grounded :=
  registerScreens_induction screens (fun _ _ _ _ hs => hs.addScreen _ _ _ _ _) h

theorem Grounded.eraseEndpoint (h : store.Grounded) (endpoint : E) :
    (store.eraseEndpoint endpoint).Grounded := by
  refine ⟨wellFormed_eraseEndpoint h.wellFormed, ?_, ?_⟩
  · exact fun node hnode => h.routed node (OrderedMultimap.mem_nodes_eraseKey.mp hnode).1
  · intro key screen hkey
    rw [findScreen_eraseEndpoint] at hkey
    split_ifs at hkey with howner
    obtain ⟨node, hnode, rfl, hreg⟩ := h.viewed key screen hkey
    -- the endpoint's own screens are not in the topology any more
    have hne : node.key ≠ endpoint := fun heq =>
      howner (mem_ownerIds.mpr ⟨node, hnode, heq, by rw [h.key_eq hkey]⟩)
    exact ⟨node, OrderedMultimap.mem_nodes_eraseKey.mpr ⟨hnode, hne⟩, rfl, hreg⟩

theorem StoreStep.grounded {dropped : Option E} (h : StoreStep store dropped store')
    (hstore : store.Grounded) : store'.Grounded := by
  cases h with
  | kept => exact hstore
  | remembered => exact ⟨hstore.wellFormed, hstore.routed, hstore.viewed⟩
  | replaced endpoint ownerId screens isLocal =>
    exact (hstore.eraseEndpoint endpoint).registerScreens endpoint ownerId screens isLocal
  | closed endpoint =>
    have herase := hstore.eraseEndpoint endpoint
    exact ⟨herase.wellFormed, herase.routed, herase.viewed⟩

/-! ### Agreement -/

/-- The topology's views of the stored screens. -/
def views (store : ServerScreenStore E) : List TopologyScreen :=
  store.mScreens.values.map VirtualScreen.toTopologyScreen

theorem mem_views {screen : TopologyScreen} : screen ∈ store.views ↔
    ∃ node ∈ store.mScreens.nodes, node.value.toTopologyScreen = screen := by
  simp [views, OrderedMultimap.values]

/-- Both containers hold the same screens, and no key is stored twice. -/
structure Agree (store : ServerScreenStore E) : Prop where
  screens : ∀ screen, screen ∈ store.mTopology.screens ↔ screen ∈ store.views
  keys : (store.mScreens.values.map VirtualScreen.key).Nodup

/-- No other endpoint has a screen with the owner id of one of the endpoint's screens. -/
def SoleOwner (store : ServerScreenStore E) (endpoint : E) : Prop :=
  ∀ node ∈ store.mScreens.nodes, node.value.key.ownerId ∈ store.ownerIds endpoint →
    node.key = endpoint

instance (store : ServerScreenStore E) (endpoint : E) : Decidable (store.SoleOwner endpoint) :=
  inferInstanceAs (Decidable (∀ node ∈ _, _))

theorem agree_init (config : AppConfig) (configPath : String) :
    (init config configPath : ServerScreenStore E).Agree :=
  ⟨fun _ => by simp [init, views, OrderedMultimap.values, OrderedMultimap.empty,
    ScreenTopology.screens, ScreenTopology.empty, OrderedMap.values, OrderedMap.empty], .nil⟩

/-- A stored screen is found in the topology under its key. -/
theorem Agree.findScreen (h : store.Agree) (hg : store.Grounded) {node : ScreenNode E}
    (hnode : node ∈ store.mScreens.nodes) :
    store.mTopology.findScreen node.value.key = some node.value.toTopologyScreen :=
  hg.wellFormed.mem_screens.mp ((h.screens _).mpr (mem_views.mpr ⟨node, hnode, rfl⟩))

theorem Agree.addScreen (h : store.Agree) (hg : store.Grounded) (endpoint : E) (key : ScreenKey)
    (cell : GridPosition) (info : ScreenInfo) (isLocal : Bool) :
    (store.addScreen endpoint key cell info isLocal).Agree := by
  have hg' := hg.addScreen endpoint key cell info isLocal
  rcases addScreen_cases store endpoint key cell info isLocal with
    heq | ⟨topology, hadd, htopology, hscreens, _⟩
  · rwa [heq]
  · have hfresh : ∀ node ∈ store.mScreens.nodes, node.value.key ≠ key := fun node hnode heq => by
      have hfind := h.findScreen hg hnode
      rw [heq, ScreenTopology.findScreen_addScreen_self hadd] at hfind
      cases hfind
    refine ⟨fun screen => ?_, ?_⟩
    · rw [hg'.wellFormed.mem_screens, mem_views, htopology, hscreens,
        ScreenTopology.findScreen_addScreen hadd]
      simp only [OrderedMultimap.mem_nodes_emplace, exists_eq_or_imp]
      by_cases hkey : screen.key = key
      · simp only [hkey, if_true, Option.some.injEq]
        refine ⟨.inl, fun hor => hor.resolve_right ?_⟩
        rintro ⟨node, hnode, rfl⟩
        exact hfresh node hnode hkey
      · rw [if_neg hkey, ← hg.wellFormed.mem_screens, h.screens, mem_views]
        refine ⟨.inr, fun hor => hor.resolve_left ?_⟩
        rintro rfl
        exact hkey rfl
    · rw [hscreens]
      refine ((OrderedMultimap.values_emplace_perm.map _).nodup_iff).mpr ?_
      refine List.nodup_cons.mpr ⟨fun hmem => ?_, h.keys⟩
      obtain ⟨screen, hscreen, hkey⟩ := List.mem_map.mp hmem
      obtain ⟨node, hnode, rfl⟩ := OrderedMultimap.mem_values.mp hscreen
      exact hfresh node hnode hkey

theorem Agree.registerScreens (h : store.Agree) (hg : store.Grounded) (endpoint : E)
    (ownerId : String) (screens : List ScreenInfo) (isLocal : Bool) :
    (store.registerScreens endpoint ownerId screens isLocal).Agree :=
  (registerScreens_induction (P := fun s => s.Grounded ∧ s.Agree) screens
    (fun _ _ _ _ hs => ⟨hs.1.addScreen _ _ _ _ _, hs.2.addScreen hs.1 _ _ _ _ _⟩) ⟨hg, h⟩).2

theorem Agree.eraseEndpoint (h : store.Agree) (hg : store.Grounded)
    (hsole : store.SoleOwner endpoint) : (store.eraseEndpoint endpoint).Agree := by
  refine ⟨fun screen => ?_, ?_⟩
  · rw [(hg.eraseEndpoint endpoint).wellFormed.mem_screens, findScreen_eraseEndpoint, mem_views]
    constructor
    · intro hfind
      split_ifs at hfind with howner
      obtain ⟨node, hnode, rfl⟩ := mem_views.mp
        ((h.screens screen).mp (hg.wellFormed.mem_screens.mpr hfind))
      refine ⟨node, OrderedMultimap.mem_nodes_eraseKey.mpr ⟨hnode, fun heq => howner ?_⟩, rfl⟩
      exact mem_ownerIds.mpr ⟨node, hnode, heq, rfl⟩
    · rintro ⟨node, hnode, rfl⟩
      obtain ⟨hnode, hne⟩ := OrderedMultimap.mem_nodes_eraseKey.mp hnode
      exact (if_neg fun howner => hne (hsole node hnode howner)).trans (h.findScreen hg hnode)
  · exact h.keys.sublist ((List.filter_sublist.map _).map _)

/-! ### A shared owner id breaks it -/

/-- A stored screen whose key the topology lost, or that is stored under its key twice. -/
def Stray (store : ServerScreenStore E) (node : ScreenNode E) : Prop :=
  node ∈ store.mScreens.nodes ∧ (store.mTopology.findScreen node.value.key = none ∨
    ∃ other ∈ store.mScreens.nodes, other ≠ node ∧ other.value.key = node.value.key)

/-- Under agreement a key belongs to one stored screen. -/
theorem Agree.eq_of_key (h : store.Agree) {node other : ScreenNode E}
    (hnode : node ∈ store.mScreens.nodes) (hother : other ∈ store.mScreens.nodes)
    (hkey : other.value.key = node.value.key) : other = node := by
  have hnodup : (store.mScreens.nodes.map fun n => n.value.key).Nodup := by
    simpa [OrderedMultimap.values, Function.comp_def] using h.keys
  exact List.inj_on_of_nodup_map hnodup hother hnode hkey

theorem Stray.not_agree {node : ScreenNode E} (h : store.Stray node) (hg : store.Grounded) :
    ¬ store.Agree := by
  intro hagree
  obtain ⟨hnode, hlost | ⟨other, hother, hne, hkey⟩⟩ := h
  · rw [hagree.findScreen hg hnode] at hlost
    cases hlost
  · exact hne (hagree.eq_of_key hnode hother hkey)

theorem Stray.addScreen {node : ScreenNode E} (h : store.Stray node) (endpoint : E)
    (key : ScreenKey) (cell : GridPosition) (info : ScreenInfo) (isLocal : Bool) :
    (store.addScreen endpoint key cell info isLocal).Stray node := by
  rcases addScreen_cases store endpoint key cell info isLocal with
    heq | ⟨topology, hadd, htopology, hscreens, _⟩
  · rwa [heq]
  · obtain ⟨hnode, hstray⟩ := h
    rw [Stray, htopology, hscreens, ScreenTopology.findScreen_addScreen hadd]
    refine ⟨OrderedMultimap.mem_nodes_emplace.mpr (.inr hnode), ?_⟩
    rcases hstray with hlost | ⟨other, hother, hne, hkey⟩
    · by_cases heq : node.value.key = key
      · -- the key is free in the topology, so it is registered a second time
        refine .inr ⟨_, OrderedMultimap.mem_nodes_emplace.mpr (.inl rfl), ?_, heq.symm⟩
        rintro rfl
        exact absurd (store.mScreens.fresh _ hnode) (lt_irrefl _)
      · exact .inl (by simpa [heq] using hlost)
    · exact .inr ⟨other, OrderedMultimap.mem_nodes_emplace.mpr (.inr hother), hne, hkey⟩

theorem stray_of_not_soleOwner (h : ¬ store.SoleOwner endpoint) :
    ∃ node, (store.eraseEndpoint endpoint).Stray node := by
  simp only [SoleOwner, not_forall] at h
  obtain ⟨node, hnode, howner, hne⟩ := h
  refine ⟨node, OrderedMultimap.mem_nodes_eraseKey.mpr ⟨hnode, hne⟩, .inl ?_⟩
  rw [findScreen_eraseEndpoint, if_pos howner]

theorem Agree.eraseEndpoint_iff (h : store.Agree) (hg : store.Grounded) (endpoint : E) :
    (store.eraseEndpoint endpoint).Agree ↔ store.SoleOwner endpoint := by
  refine ⟨fun hagree => ?_, h.eraseEndpoint hg⟩
  by_contra hshared
  obtain ⟨node, hstray⟩ := stray_of_not_soleOwner hshared
  exact hstray.not_agree (hg.eraseEndpoint endpoint) hagree

/-- No registration repairs what the removal broke. -/
theorem Agree.replaced_iff (h : store.Agree) (hg : store.Grounded) (endpoint : E)
    (ownerId : String) (screens : List ScreenInfo) (isLocal : Bool) :
    ((store.eraseEndpoint endpoint).registerScreens endpoint ownerId screens isLocal).Agree ↔
      store.SoleOwner endpoint := by
  have hg' := hg.eraseEndpoint endpoint
  refine ⟨fun hagree => ?_, fun hsole => (h.eraseEndpoint hg hsole).registerScreens hg' _ _ _ _⟩
  by_contra hshared
  obtain ⟨node, hstray⟩ := stray_of_not_soleOwner hshared
  have hkept : ((store.eraseEndpoint endpoint).registerScreens endpoint ownerId screens
      isLocal).Stray node :=
    registerScreens_induction (P := fun s => s.Stray node) screens
      (fun _ _ _ _ hs => hs.addScreen _ _ _ _ _) hstray
  exact hkept.not_agree (hg'.registerScreens _ _ _ _) hagree

/-- A step keeps the agreement exactly if the owner ids of the endpoint it drops are its own. -/
theorem StoreStep.agree_iff {dropped : Option E} (hstep : StoreStep store dropped store')
    (h : store.Agree) (hg : store.Grounded) :
    store'.Agree ↔ ∀ endpoint, dropped = some endpoint → store.SoleOwner endpoint := by
  cases hstep with
  | kept => exact ⟨fun _ => nofun, fun _ => h⟩
  | remembered => exact ⟨fun _ => nofun, fun _ => ⟨h.screens, h.keys⟩⟩
  | replaced endpoint ownerId screens isLocal =>
    rw [h.replaced_iff hg]
    exact ⟨fun hsole _ heq => by cases heq; exact hsole, fun hall => hall endpoint rfl⟩
  | closed endpoint =>
    have hforget : ((store.eraseEndpoint endpoint).forgetOwner endpoint).Agree ↔
        (store.eraseEndpoint endpoint).Agree :=
      ⟨fun ha => ⟨ha.screens, ha.keys⟩, fun ha => ⟨ha.screens, ha.keys⟩⟩
    rw [hforget, h.eraseEndpoint_iff hg]
    exact ⟨fun hsole _ heq => by cases heq; exact hsole, fun hall => hall endpoint rfl⟩

end ServerScreenStore

namespace Host

variable {E C : Type} [Endpoint E] [InputCapture C]

theorem run_grounded [EntryScaling] {guard : Host E C → Action E C → Host E C → Prop}
    {endpoint : E} {config : AppConfig} {configPath : String} {capture : C}
    {as : List (Action E C)} {host : Host E C}
    (h : Run step guard (start endpoint config configPath capture) as host) :
    host.server.mScreens.Grounded :=
  h.invariant (fun host => host.server.mScreens.Grounded)
    (fun _ _ _ hs _ hnext => (step_stepped hnext).storeStep.grounded hs)
    (ServerScreenStore.grounded_init config configPath)

/-- The step drops only screens whose owner ids no other endpoint uses. -/
def DropsSoleOwner (host : Host E C) (a : Action E C) (_ : Host E C) : Prop :=
  ∀ endpoint, host.droppedEndpoint a = some endpoint → host.server.mScreens.SoleOwner endpoint

/-- In every run, the containers agree after each step if and only if each step drops only
screens whose owner ids no other endpoint uses. They agree at the start. -/
theorem store_topology_agree_iff_soleOwner [EntryScaling] (endpoint : E) (config : AppConfig)
    (configPath : String) (capture : C) :
    (start endpoint config configPath capture).server.mScreens.Agree ∧
    ∀ (as : List (Action E C)) (host : Host E C),
      Run step DropsSoleOwner (start endpoint config configPath capture) as host ↔
      Run step (fun _ _ after => after.server.mScreens.Agree)
        (start endpoint config configPath capture) as host := by
  have hinit := ServerScreenStore.agree_init (E := E) config configPath
  refine ⟨hinit, fun as host => ?_⟩
  refine Run.guard_iff (fun host => host.server.mScreens.Grounded ∧ host.server.mScreens.Agree)
    ⟨ServerScreenStore.grounded_init config configPath, hinit⟩ ?_ ?_
  · intro s a t hs hok hnext
    have hstore := (step_stepped hnext).storeStep
    exact ⟨hstore.grounded hs.1, (hstore.agree_iff hs.2 hs.1).mpr hok⟩
  · intro s a t hs hnext
    exact ((step_stepped hnext).storeStep.agree_iff hs.2 hs.1).symm

/-- Two clients send the same machine id and the first one leaves: the topology loses the
screen that the other one still has in the store. -/
theorem store_topology_disagree_twins : ∃ host,
    Run step unguarded deskHost (firstOfTwoBreaks "m" "m" ++ [.close (loopback 1001)]) host ∧
    ¬ host.server.mScreens.Agree := by
  obtain ⟨host, hrun, hlost⟩ := exists_run_of_execute step (fun _ _ _ => true) deskHost
    (firstOfTwoBreaks "m" "m" ++ [.close (loopback 1001)])
    (fun host => decide (∃ screen ∈ host.server.mScreens.views,
      screen ∉ host.server.mScreens.mTopology.screens))
    (fun _ _ _ _ => trivial) (by decide +kernel)
  obtain ⟨screen, hview, hno⟩ := of_decide_eq_true hlost
  exact ⟨host, hrun, fun hagree => hno ((hagree.screens screen).mpr hview)⟩

end Host
end Mksync
