import Mksync.ServerSessions

/-!
# The active pointer never dangles

The router keeps the address of a node the server and the store erase. Every operation
leaves the pointer null or at a stored node, whatever the capture does.
-/
namespace Mksync

open TransitionRuns

namespace ServerInputRouter

variable {E C : Type} [Endpoint E] {screens screens' : ServerScreenStore E}
  {router router' : ServerInputRouter E C} {node : ScreenNode E}

/-- The active pointer is null or denotes a stored screen. -/
def PointerValid (screens : ServerScreenStore E) (router : ServerInputRouter E C) : Prop :=
  ∀ address, router.mActiveScreen = some address →
    ∃ node ∈ screens.mScreens.nodes, node.address = address

theorem activeScreen_of_mem (hnode : node ∈ screens.mScreens.nodes)
    (h : router.mActiveScreen = some node.address) :
    router.activeScreen screens = some node.value := by
  simp [activeScreen, h, OrderedMultimap.deref_of_mem hnode]

/-- A valid pointer that is not null reads the screen of its node. -/
theorem PointerValid.active_cases (h : PointerValid screens router) :
    (router.mActiveScreen = none ∧ router.activeScreen screens = none) ∨
    ∃ node ∈ screens.mScreens.nodes, router.mActiveScreen = some node.address ∧
      router.activeScreen screens = some node.value := by
  cases hactive : router.mActiveScreen with
  | none => exact .inl ⟨rfl, by simp [activeScreen, hactive]⟩
  | some address =>
    obtain ⟨node, hnode, rfl⟩ := h address hactive
    exact .inr ⟨node, hnode, rfl, activeScreen_of_mem hnode hactive⟩

theorem PointerValid.congr (h : PointerValid screens router)
    (hactive : router'.mActiveScreen = router.mActiveScreen) : PointerValid screens router' :=
  fun address haddress => h address (hactive ▸ haddress)

variable [InputCapture C]

theorem PointerValid.switchActiveScreen (h : PointerValid screens router) (point : ScreenPoint) :
    PointerValid screens (router.switchActiveScreen screens point) := by
  rcases switchActiveScreen_cases screens point router with
    ⟨_, heq⟩ | ⟨node, hfind, ⟨_, heq⟩ | ⟨_, heq⟩⟩
  · rwa [heq]
  · rw [heq]
    intro address haddress
    exact ⟨node, (ServerScreenStore.findScreen_eq_some hfind).1,
      by simpa [enterRemoteScreen] using haddress⟩
  · rw [heq]
    intro address haddress
    exact ⟨node, (ServerScreenStore.findScreen_eq_some hfind).1, by simpa using haddress⟩

section Remote

variable {point : ScreenPoint}

theorem switchActiveScreen_remote (hfind : screens.findScreen point.key = some node)
    (hremote : node.value.isLocal = false) :
    router.switchActiveScreen screens point = enterRemoteScreen node.value point ({ router with
      mActiveScreen := some node.address
      mActivePoint := some point }.updateCaptureRemoteControl screens) := by
  simp [switchActiveScreen, hfind, hremote]

/-- The screen is active, and the capture was asked for remote mode whatever it answered. -/
theorem switchActiveScreen_remote_active (router : ServerInputRouter E C)
    (hfind : screens.findScreen point.key = some node)
    (hremote : node.value.isLocal = false) :
    (router.switchActiveScreen screens point).activeScreen screens = some node.value ∧
    (router.switchActiveScreen screens point).mActivePoint = some point ∧
    (router.switchActiveScreen screens point).mCapture = router.mCapture.map fun capture =>
      (InputCapture.setRemoteControlActive true capture).2 := by
  have hderef := OrderedMultimap.deref_of_mem (ServerScreenStore.findScreen_eq_some hfind).1
  rw [switchActiveScreen_remote hfind hremote]
  refine ⟨?_, ?_, ?_⟩
  · simp [enterRemoteScreen, activeScreen, hderef]
  · simp [enterRemoteScreen]
  · simp [enterRemoteScreen, remoteActive, activeScreen, hderef, hremote]

/-- A switch to a stored screen puts the pointer and the point there. -/
theorem switchActiveScreen_found (router : ServerInputRouter E C)
    (hfind : screens.findScreen point.key = some node) :
    (router.switchActiveScreen screens point).activeScreen screens = some node.value ∧
      (router.switchActiveScreen screens point).mActivePoint = some point := by
  rcases switchActiveScreen_cases screens point router with
    ⟨hnone, _⟩ | ⟨found, hfound, ⟨hremote, _⟩ | ⟨_, heq⟩⟩
  · simp [hnone] at hfind
  · obtain rfl := Option.some.inj (hfound.symm.trans hfind)
    have hswitched := switchActiveScreen_remote_active router hfind hremote
    exact ⟨hswitched.1, hswitched.2.1⟩
  · obtain rfl := Option.some.inj (hfound.symm.trans hfind)
    rw [heq]
    exact ⟨activeScreen_of_mem (ServerScreenStore.findScreen_eq_some hfind).1 (by simp), by simp⟩

/-- A switch to a local screen enqueues nothing. -/
theorem switchActiveScreen_local_mSenders (router : ServerInputRouter E C)
    (hfind : screens.findScreen point.key = some node) (hlocal : node.value.isLocal = true) :
    (router.switchActiveScreen screens point).mSenders = router.mSenders := by
  simp [switchActiveScreen, hfind, hlocal]

end Remote

/-- The first local screen becomes active, at its origin; without one the pointer is null. -/
theorem activateFirstLocalScreen_cases (screens : ServerScreenStore E)
    (router : ServerInputRouter E C) :
    (screens.firstLocalScreen = none ∧
      (router.activateFirstLocalScreen screens).mActiveScreen = none) ∨
    ∃ node ∈ screens.mScreens.nodes, screens.firstLocalScreen = some node ∧
      node.value.isLocal = true ∧
      (router.activateFirstLocalScreen screens).mActiveScreen = some node.address := by
  unfold activateFirstLocalScreen
  cases hfirst : screens.firstLocalScreen with
  | none => exact .inl ⟨rfl, by simp⟩
  | some node =>
    obtain ⟨hnode, hlocal⟩ := ServerScreenStore.firstLocalScreen_spec hfirst
    exact .inr ⟨node, hnode, rfl, hlocal, by simp⟩

theorem pointerValid_activateFirstLocalScreen (screens : ServerScreenStore E)
    (router : ServerInputRouter E C) :
    PointerValid screens (router.activateFirstLocalScreen screens) := by
  rcases activateFirstLocalScreen_cases screens router with
    ⟨_, hnull⟩ | ⟨node, hnode, _, _, hactive⟩
  · simp [PointerValid, hnull]
  · intro address haddress
    exact ⟨node, hnode, Option.some.inj (hactive.symm.trans haddress)⟩

/-- After an activation no remote screen is active. -/
theorem remoteActive_activateFirstLocalScreen (screens : ServerScreenStore E)
    (router : ServerInputRouter E C) :
    (router.activateFirstLocalScreen screens).remoteActive screens = false := by
  rcases activateFirstLocalScreen_cases screens router with
    ⟨_, hnull⟩ | ⟨node, hnode, _, hlocal, hactive⟩
  · simp [remoteActive, activeScreen, hnull]
  · simp [remoteActive_of_active (activeScreen_of_mem hnode hactive), hlocal]

/-- The capture is told that no remote screen is active. -/
theorem activateFirstLocalScreen_mCapture (screens : ServerScreenStore E)
    (router : ServerInputRouter E C) :
    (router.activateFirstLocalScreen screens).mCapture = router.mCapture.map fun capture =>
      (InputCapture.setRemoteControlActive false capture).2 := by
  unfold activateFirstLocalScreen
  cases hfirst : screens.firstLocalScreen with
  | none => simp [remoteActive, activeScreen]
  | some node =>
    obtain ⟨hnode, hlocal⟩ := ServerScreenStore.firstLocalScreen_spec hfirst
    have hderef := OrderedMultimap.deref_of_mem hnode
    simp [remoteActive, activeScreen, hderef, hlocal]

theorem Handled.pointerValid [EntryScaling] {event : InputEvent}
    (h : Handled screens router event router') (hvalid : PointerValid screens router) :
    PointerValid screens router' := by
  cases h with
  | idle | home => exact hvalid
  | failSafe => exact pointerValid_activateFirstLocalScreen screens router
  | forwarded => exact hvalid.congr (by simp)
  | rested | echoed | stayed => exact hvalid.congr rfl
  | clamped => exact hvalid.congr (by simp [sampledRemote])
  | @crossed move screen =>
    have hsampled : PointerValid screens (router.sampledRemote screen move) := hvalid.congr rfl
    exact hsampled.switchActiveScreen _
  | @left move screen =>
    have hsampled : PointerValid screens (router.sampledLocal screen move) := hvalid.congr rfl
    exact hsampled.switchActiveScreen _

/-- What becomes of the router when the screens of an endpoint go and others come. -/
inductive Rehomed (screens screens' : ServerScreenStore E) (router : ServerInputRouter E C) :
    ServerInputRouter E C → Prop
  | kept (valid : PointerValid screens' router)
      (same : router.activeScreen screens' = router.activeScreen screens) :
      Rehomed screens screens' router router
  | cleared (between : ServerScreenStore E) : Rehomed screens screens' router
      ((router.clearActiveState between).activateFirstLocalScreen screens')
  | woken (idle : router.mActiveScreen = none) :
      Rehomed screens screens' router (router.activateFirstLocalScreen screens')
  | preferred {node : ScreenNode E} (valid : PointerValid screens' router)
      (same : router.activeScreen screens' = router.activeScreen screens)
      (first : screens'.firstLocalScreen = some node) :
      Rehomed screens screens' router
        (router.switchActiveScreen screens' ⟨node.value.key, 0, 0⟩)

theorem Rehomed.pointerValid (h : Rehomed screens screens' router router') :
    PointerValid screens' router' := by
  cases h with
  | kept valid => exact valid
  | cleared | woken => exact pointerValid_activateFirstLocalScreen _ _
  | preferred valid => exact valid.switchActiveScreen _

omit [InputCapture C] in
/-- The pointer outlives a removal that does not report it. -/
theorem PointerValid.of_not_removed {endpoint : E} (h : PointerValid screens router)
    (hkeep : ∀ node ∈ screens.mScreens.nodes, node.key ≠ endpoint →
      node ∈ screens'.mScreens.nodes)
    (hflag : (screens.removeScreen endpoint router.mActiveScreen).1 ≠ true) :
    PointerValid screens' router ∧
      router.activeScreen screens' = router.activeScreen screens := by
  rcases h.active_cases with ⟨hnull, hnone⟩ | ⟨node, hnode, hactive, hscreen⟩
  · exact ⟨by simp [PointerValid, hnull], by simp [activeScreen, hnull]⟩
  · have hne : node.key ≠ endpoint := fun hkey => by
      rw [hactive] at hflag
      exact hflag ((ServerScreenStore.removeScreen_activeRemoved hnode).mpr hkey)
    have hnode' := hkeep node hnode hne
    refine ⟨fun address haddress => ⟨node, hnode', ?_⟩, ?_⟩
    · exact Option.some.inj (hactive.symm.trans haddress)
    · rw [hscreen, activeScreen_of_mem hnode' hactive]

end ServerInputRouter

namespace Server

open ServerInputRouter

variable {E C : Type} [Endpoint E] [InputCapture C] {server : Server E C}

theorem registerScreens_rehomed (h : PointerValid server.mScreens server.mInput) (endpoint : E)
    (ownerId : String) (screens : List ScreenInfo) (isLocal : Bool) :
    Rehomed server.mScreens (server.registerScreens endpoint ownerId screens isLocal).mScreens
      server.mInput (server.registerScreens endpoint ownerId screens isLocal).mInput := by
  have hkeep : ∀ node ∈ server.mScreens.mScreens.nodes, node.key ≠ endpoint →
      node ∈ (server.registerScreens endpoint ownerId screens isLocal).mScreens.mScreens.nodes :=
    fun node hnode hne => ServerScreenStore.mem_nodes_registerScreens_of_mem screens
      (OrderedMultimap.mem_nodes_eraseKey.mpr ⟨hnode, hne⟩)
  simp only [registerScreens]
  by_cases hgone : (server.mScreens.removeScreen endpoint server.mInput.mActiveScreen).1 = true
  · rw [if_pos hgone, ensureActiveLocalScreen, if_pos (by simp)]
    exact .cleared _
  · obtain ⟨hvalid, hsame⟩ := h.of_not_removed hkeep hgone
    rw [if_neg hgone, ensureActiveLocalScreen]
    split_ifs with hnull hprefer
    · exact .woken (by simpa using hnull)
    · split
      next node hfirst => exact .preferred hvalid hsame hfirst
      next => exact .kept hvalid hsame
    · exact .kept hvalid hsame

theorem removeEndpointScreens_rehomed (h : PointerValid server.mScreens server.mInput)
    (endpoint : E) :
    Rehomed server.mScreens (server.removeEndpointScreens endpoint).mScreens server.mInput
      (server.removeEndpointScreens endpoint).mInput := by
  have hkeep : ∀ node ∈ server.mScreens.mScreens.nodes, node.key ≠ endpoint →
      node ∈ (server.mScreens.removeScreen endpoint
        server.mInput.mActiveScreen).2.mScreens.nodes :=
    fun node hnode hne => OrderedMultimap.mem_nodes_eraseKey.mpr ⟨hnode, hne⟩
  simp only [removeEndpointScreens]
  split_ifs with hgone
  · rw [ensureActiveLocalScreen, if_pos (by simp)]
    exact .cleared _
  · obtain ⟨hvalid, hsame⟩ := h.of_not_removed hkeep hgone
    exact .kept hvalid hsame

end Server

namespace Host

open ServerInputRouter

variable {E C : Type} [Endpoint E] [InputCapture C] [EntryScaling] {host host' : Host E C}

theorem pointerValid_step {a : Action E C}
    (h : PointerValid host.server.mScreens host.server.mInput) (hs : Stepped host a host') :
    PointerValid host'.server.mScreens host'.server.mInput := by
  cases hs with
  | registerLocal | reported =>
    exact (Server.registerScreens_rehomed h _ _ _ _).pointerValid
  | captured event => exact (handleInputEvent_handled _ _ event).pointerValid h
  | rejected | dropped | closed =>
    exact (Server.removeEndpointScreens_rehomed h _).pointerValid.congr rfl
  | signal | accepted | greeted | ignored | published | delivered | broke | hungUp =>
    exact h.congr rfl

/-- No run ever leaves the pointer at an erased node. -/
theorem run_pointerValid {guard : Host E C → Action E C → Host E C → Prop}
    {endpoint : E} {config : AppConfig} {configPath : String} {capture : C}
    {as : List (Action E C)}
    (h : Run step guard (start endpoint config configPath capture) as host) :
    PointerValid host.server.mScreens host.server.mInput := by
  refine h.invariant (fun host => PointerValid host.server.mScreens host.server.mInput)
    (fun _ _ _ hs _ hnext => pointerValid_step hs (step_stepped hnext)) ?_
  intro address haddress
  simp [start, Server.start, ServerInputRouter.setCapture, ServerInputRouter.init] at haddress

end Host
end Mksync
