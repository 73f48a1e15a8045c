import Mksync.PortalInputCapture

/-!
# The ways home

A captured input has to be released on every way home. A router step settles it when a remote
screen stays active, or when it goes home by a switch that can place the local cursor.
-/
namespace Mksync

open TransitionRuns

namespace ServerInputRouter

variable {E : Type} [Endpoint E] {screens : ServerScreenStore E}
  {router router' : ServerInputRouter E PortalInputCapture} {point : ScreenPoint}

/-- A switch leaves the capture for a remote screen, or it goes home and can release. -/
def switchSettles (screens : ServerScreenStore E)
    (router : ServerInputRouter E PortalInputCapture) (point : ScreenPoint) : Bool :=
  match screens.findScreen point.key with
  | none => router.remoteActive screens
  | some node => !node.value.isLocal || router.places point

/-- The event keeps or makes a remote screen active, or it crosses to a local screen whose
pixel can be placed. -/
def eventSettles [EntryScaling] (screens : ServerScreenStore E)
    (router : ServerInputRouter E PortalInputCapture) (event : InputEvent) : Bool :=
  match router.activeScreen screens with
  | none => false
  | some screen =>
    if screen.isLocal then
      -- only a move off the screen makes up for the activation
      match event with
      | .mouseMove move =>
        if router.mPendingLocalWarp = some (localPoint screen move) then false
        else (crossingTarget screens (localPoint screen move)).any
          (router.switchSettles screens ·)
      | _ => false
    else
      match event with
      | .mouseMove move =>
        router.moveDelta move = (0, 0) ||
          (crossingTarget screens (router.nextPoint screen move)).all
            (router.switchSettles screens ·)
      | event => !isF12Press event

theorem heldForRemote_of_remote {screen : VirtualScreen E}
    (hactive : router.activeScreen screens = some screen) (hremote : screen.isLocal = false)
    (hsame : router'.mActiveScreen = router.mActiveScreen) : HeldForRemote screens router' := by
  have hscreen : router'.activeScreen screens = some screen := by
    rw [activeScreen, hsame, ← activeScreen, hactive]
  simp [HeldForRemote, remoteActive_of_active hscreen, hremote]

/-- A captured input stays captured at home when the capture is not told. -/
theorem not_heldForRemote_of_local {screen : VirtualScreen E} (hheld : router.captured = true)
    (hactive : router.activeScreen screens = some screen) (hlocal : screen.isLocal = true)
    (hsame : router'.mActiveScreen = router.mActiveScreen)
    (hcapture : router'.mCapture = router.mCapture) : ¬ HeldForRemote screens router' := by
  have hscreen : router'.activeScreen screens = some screen := by
    rw [activeScreen, hsame, ← activeScreen, hactive]
  have hcaptured : router'.captured = true := by rw [captured, hcapture, ← captured, hheld]
  simp [HeldForRemote, hcaptured, remoteActive_of_active hscreen, hlocal]

theorem heldForRemote_switchActiveScreen (hheld : router.captured = true) :
    HeldForRemote screens (router.switchActiveScreen screens point) ↔
      router.switchSettles screens point = true := by
  rcases switchActiveScreen_cases screens point router with
    ⟨hfind, heq⟩ | ⟨node, hfind, hcase⟩
  · simp [heq, switchSettles, hfind, HeldForRemote, hheld]
  have hderef := OrderedMultimap.deref_of_mem (ServerScreenStore.findScreen_eq_some hfind).1
  rcases hcase with ⟨hremote, heq⟩ | ⟨hlocal, heq⟩
  · have hactive : (router.switchActiveScreen screens point).remoteActive screens = true := by
      simp [heq, enterRemoteScreen, remoteActive, activeScreen, hderef, hremote]
    simp [switchSettles, hfind, hremote, HeldForRemote, hactive]
  · rw [updateCaptureRemoteControl_portal] at heq
    have hcaptured : (router.switchActiveScreen screens point).captured =
        (router.captured && !router.places point) := by
      rw [heq]
      exact captured_moveLocalCursorToActivePoint (by simp [activeScreen, hderef]) hlocal rfl
    have hactive : (router.switchActiveScreen screens point).remoteActive screens = false := by
      simp [heq, remoteActive, activeScreen, hderef, hlocal]
    simp [switchSettles, hfind, hlocal, HeldForRemote, hactive, hcaptured, hheld]

/-- The fail-safe and the loss of the active screen come home without a release. -/
theorem not_heldForRemote_activateFirstLocalScreen (hheld : router.captured = true) :
    ¬ HeldForRemote screens (router.activateFirstLocalScreen screens) := by
  simp [HeldForRemote, hheld, remoteActive_activateFirstLocalScreen]

theorem Handled.heldForRemote_iff [EntryScaling] {event : InputEvent}
    (h : Handled screens router event router') (hheld : router.captured = true) :
    HeldForRemote screens router' ↔ router.eventSettles screens event = true := by
  cases h with
  | idle active => simp [eventSettles, active, HeldForRemote, hheld, remoteActive]
  | home _ active isLocal noMove =>
    refine iff_of_false (not_heldForRemote_of_local hheld active isLocal rfl rfl) ?_
    cases event with
    | mouseMove move => exact absurd rfl (noMove move)
    | _ => simp [eventSettles, active, isLocal]
  | failSafe active remote f12 =>
    refine iff_of_false (not_heldForRemote_activateFirstLocalScreen hheld) ?_
    cases event with
    | mouseMove move => cases f12
    | _ => simp [eventSettles, active, remote, f12]
  | forwarded active remote noF12 noMove =>
    refine iff_of_true (heldForRemote_of_remote active remote (by simp)) ?_
    cases event with
    | mouseMove move => exact absurd rfl (noMove move)
    | _ => simp [eventSettles, active, remote, noF12]
  | rested active remote delta =>
    exact iff_of_true (heldForRemote_of_remote active remote rfl)
      (by simp [eventSettles, active, remote, delta])
  | @crossed move screen target active remote delta crossing =>
    have hsampled : (router.sampledRemote screen move).captured = true := hheld
    have hsettles : (router.sampledRemote screen move).switchSettles screens target =
      router.switchSettles screens target := rfl
    rw [heldForRemote_switchActiveScreen hsampled, hsettles]
    simp [eventSettles, active, remote, delta, crossing]
  | clamped active remote delta noCrossing =>
    exact iff_of_true (heldForRemote_of_remote active remote (by simp [sampledRemote]))
      (by simp [eventSettles, active, remote, noCrossing])
  | echoed active isLocal echo =>
    exact iff_of_false (not_heldForRemote_of_local hheld active isLocal rfl rfl)
      (by simp [eventSettles, active, isLocal, echo])
  | stayed active isLocal noEcho noCrossing =>
    exact iff_of_false (not_heldForRemote_of_local hheld active isLocal rfl rfl)
      (by simp [eventSettles, active, isLocal, noCrossing])
  | @left move screen target active isLocal noEcho crossing =>
    have hsampled : (router.sampledLocal screen move).captured = true := hheld
    have hsettles : (router.sampledLocal screen move).switchSettles screens target =
      router.switchSettles screens target := rfl
    rw [heldForRemote_switchActiveScreen hsampled, hsettles]
    simp [eventSettles, active, isLocal, noEcho, crossing]

/-- An active screen is kept, unless local screens are preferred and there is one. -/
def ensureSettles (screens : ServerScreenStore E)
    (router : ServerInputRouter E PortalInputCapture) (preferLocalPrimary : Bool) : Bool :=
  match if preferLocalPrimary then screens.firstLocalScreen else none with
  | none => router.remoteActive screens
  | some first => router.switchSettles screens ⟨first.value.key, 0, 0⟩

theorem not_heldForRemote_ensureActiveLocalScreen (hheld : router.captured = true)
    (hnull : router.mActiveScreen = none) (preferLocalPrimary : Bool) :
    ¬ HeldForRemote screens (router.ensureActiveLocalScreen screens preferLocalPrimary) := by
  rw [ensureActiveLocalScreen, hnull]
  exact not_heldForRemote_activateFirstLocalScreen hheld

theorem heldForRemote_ensureActiveLocalScreen (hheld : router.captured = true)
    (hactive : router.mActiveScreen ≠ none) (preferLocalPrimary : Bool) :
    HeldForRemote screens (router.ensureActiveLocalScreen screens preferLocalPrimary) ↔
      router.ensureSettles screens preferLocalPrimary = true := by
  have hkept : HeldForRemote screens router ↔ router.remoteActive screens = true := by
    simp [HeldForRemote, hheld]
  have hsome : router.mActiveScreen.isNone ≠ true := by simpa using hactive
  rw [ensureActiveLocalScreen, if_neg hsome]
  cases preferLocalPrimary with
  | false => exact hkept
  | true =>
    cases hfirst : screens.firstLocalScreen with
    | none => simpa [ensureSettles, hfirst] using hkept
    | some first => simpa [ensureSettles, hfirst] using heldForRemote_switchActiveScreen hheld

end ServerInputRouter

namespace Server

open ServerInputRouter

variable {E : Type} [Endpoint E] {server : Server E PortalInputCapture} {endpoint : E}

/-- The node behind the active pointer. -/
def activeNode (server : Server E PortalInputCapture) : Option (ScreenNode E) :=
  server.mInput.mActiveScreen.bind server.mScreens.mScreens.node?

/-- The active screen is not one of the endpoint's. -/
def keepsActive (server : Server E PortalInputCapture) (endpoint : E) : Bool :=
  server.activeNode.any (·.key ≠ endpoint)

theorem activeNode_of_mem {node : ScreenNode E} (hnode : node ∈ server.mScreens.mScreens.nodes)
    (hactive : server.mInput.mActiveScreen = some node.address) :
    server.activeNode = some node := by
  simp [activeNode, hactive, OrderedMultimap.node?_eq_some, hnode]

/-- An active screen that is kept is as remote as it was. -/
theorem remoteActive_of_keepsActive (h : PointerValid server.mScreens server.mInput)
    {after : ServerScreenStore E} (hkeep : ∀ node ∈ server.mScreens.mScreens.nodes,
      node.key ≠ endpoint → node ∈ after.mScreens.nodes) :
    (server.keepsActive endpoint && server.mInput.remoteActive after) =
      (server.keepsActive endpoint && server.mInput.remoteActive server.mScreens) := by
  rcases h.active_cases with ⟨hnull, _⟩ | ⟨node, hnode, hactive, hscreen⟩
  · simp [keepsActive, activeNode, hnull]
  · by_cases hkey : node.key = endpoint
    · simp [keepsActive, activeNode_of_mem hnode hactive, hkey]
    · rw [remoteActive_of_active (activeScreen_of_mem (hkeep node hnode hkey) hactive),
        remoteActive_of_active hscreen]

/-- When an endpoint's screens go, the active screen is null, lost or kept. -/
theorem removed_cases (h : PointerValid server.mScreens server.mInput) (endpoint : E) :
    (server.activeNode = none ∧ server.mInput.mActiveScreen = none) ∨
    (∃ node, server.activeNode = some node ∧ node.key = endpoint ∧
      (server.mScreens.removeScreen endpoint server.mInput.mActiveScreen).1 = true) ∨
    ∃ node ∈ server.mScreens.mScreens.nodes, server.activeNode = some node ∧ node.key ≠ endpoint ∧
      server.mInput.mActiveScreen = some node.address ∧
      (server.mScreens.removeScreen endpoint server.mInput.mActiveScreen).1 = false := by
  rcases h.active_cases with ⟨hnull, _⟩ | ⟨node, hnode, hactive, _⟩
  · exact .inl ⟨by simp [activeNode, hnull], hnull⟩
  · have hflag : (server.mScreens.removeScreen endpoint server.mInput.mActiveScreen).1 = true ↔
        node.key = endpoint := by
      rw [hactive]
      exact ServerScreenStore.removeScreen_activeRemoved hnode
    have hfound := activeNode_of_mem hnode hactive
    by_cases hkey : node.key = endpoint
    · exact .inr (.inl ⟨node, hfound, hkey, hflag.mpr hkey⟩)
    · exact .inr (.inr ⟨node, hnode, hfound, hkey, hactive, by simpa using mt hflag.mp hkey⟩)

theorem captured_of_registerScreens {ownerId : String} {screens : List ScreenInfo}
    {isLocal : Bool}
    (h : (server.registerScreens endpoint ownerId screens isLocal).mInput.captured = true) :
    server.mInput.captured = true := by
  simp only [registerScreens] at h
  have hbefore := captured_of_ensureActiveLocalScreen h
  split_ifs at hbefore
  · simpa using hbefore
  · exact hbefore

theorem captured_of_onClosed (h : (server.onClosed endpoint).mInput.captured = true) :
    server.mInput.captured = true := by
  have hremoved : (server.removeEndpointScreens endpoint).mInput.captured = true := h
  simp only [removeEndpointScreens] at hremoved
  split_ifs at hremoved
  · simpa using captured_of_ensureActiveLocalScreen hremoved
  · exact hremoved

theorem heldForRemote_registerScreens (h : PointerValid server.mScreens server.mInput)
    (hheld : server.mInput.captured = true) (endpoint : E) (ownerId : String)
    (screens : List ScreenInfo) (isLocal : Bool) :
    HeldForRemote (server.registerScreens endpoint ownerId screens isLocal).mScreens
        (server.registerScreens endpoint ownerId screens isLocal).mInput ↔
      (server.keepsActive endpoint && server.mInput.ensureSettles
        (server.registerScreens endpoint ownerId screens isLocal).mScreens isLocal) = true := by
  generalize hafter : (server.registerScreens endpoint ownerId screens isLocal).mScreens = after
  have hinput : (server.registerScreens endpoint ownerId screens isLocal).mInput =
      (if (server.mScreens.removeScreen endpoint server.mInput.mActiveScreen).1 = true then
        server.mInput.clearActiveState (server.mScreens.eraseEndpoint endpoint)
      else server.mInput).ensureActiveLocalScreen after isLocal := by rw [← hafter]; rfl
  rw [hinput]
  rcases removed_cases h endpoint with
    ⟨hnone, hnull⟩ | ⟨node, hfound, hkey, hflag⟩ | ⟨node, hnode, hfound, hkey, hactive, hflag⟩
  · rw [hnull, ServerScreenStore.removeScreen_none, if_neg Bool.false_ne_true]
    exact iff_of_false (not_heldForRemote_ensureActiveLocalScreen hheld hnull _)
      (by simp [keepsActive, hnone])
  · rw [hflag, if_pos rfl]
    exact iff_of_false
      (not_heldForRemote_ensureActiveLocalScreen (by simpa using hheld) (by simp) _)
      (by simp [keepsActive, hfound, hkey])
  · rw [hflag, if_neg Bool.false_ne_true,
      heldForRemote_ensureActiveLocalScreen hheld (by simp [hactive])]
    simp [keepsActive, hfound, hkey]

theorem heldForRemote_onClosed (h : PointerValid server.mScreens server.mInput)
    (hheld : server.mInput.captured = true) (endpoint : E) :
    HeldForRemote (server.onClosed endpoint).mScreens (server.onClosed endpoint).mInput ↔
      (server.keepsActive endpoint && server.mInput.remoteActive server.mScreens) = true := by
  have hinput :
      HeldForRemote (server.onClosed endpoint).mScreens (server.onClosed endpoint).mInput ↔
      HeldForRemote (server.mScreens.eraseEndpoint endpoint)
        (server.removeEndpointScreens endpoint).mInput := by
    rw [← removeEndpointScreens_mScreens]
    exact Iff.rfl
  rw [hinput]
  simp only [removeEndpointScreens]
  rcases removed_cases h endpoint with
    ⟨hnone, hnull⟩ | ⟨node, hfound, hkey, hflag⟩ | ⟨node, hnode, hfound, hkey, hactive, hflag⟩
  · rw [hnull, ServerScreenStore.removeScreen_none, if_neg Bool.false_ne_true]
    simp [keepsActive, hnone, HeldForRemote, hheld, remoteActive, activeScreen, hnull]
  · rw [hflag, if_pos rfl]
    exact iff_of_false
      (not_heldForRemote_ensureActiveLocalScreen (by simpa using hheld) (by simp) _)
      (by simp [keepsActive, hfound, hkey])
  · have hkeep : ∀ node ∈ server.mScreens.mScreens.nodes, node.key ≠ endpoint →
        node ∈ (server.mScreens.eraseEndpoint endpoint).mScreens.nodes :=
      fun node hnode hne => OrderedMultimap.mem_nodes_eraseKey.mpr ⟨hnode, hne⟩
    rw [hflag, if_neg Bool.false_ne_true, ← remoteActive_of_keepsActive h hkeep]
    simp [keepsActive, hfound, hkey, HeldForRemote, hheld]

end Server

namespace Host

open ServerInputRouter

variable {E : Type} [Endpoint E] {host host' : Host E PortalInputCapture}

/-- The router takes part in the step. -/
def routes (host : Host E PortalInputCapture) (a : Action E PortalInputCapture) : Bool :=
  match a with
  | .captured _ => true
  | a => (host.droppedEndpoint a).isSome

/-- Once the router is done, the input is captured for a remote screen only. -/
def HeldAfter (host : Host E PortalInputCapture) (a : Action E PortalInputCapture)
    (host' : Host E PortalInputCapture) : Prop :=
  host.routes a = true → HeldForRemote host'.server.mScreens host'.server.mInput

/-- What a step has to meet when the input is captured: it keeps a remote screen active, or
it goes home by a switch that can release. -/
def Homeward [EntryScaling] (host : Host E PortalInputCapture) :
    Action E PortalInputCapture → Prop
  | .captured event => host.server.mInput.eventSettles host.server.mScreens event = true
  | .registerLocal screens => (host.server.keepsActive host.server.mEndpoint &&
      host.server.mInput.ensureSettles (host.server.registerLocalScreens screens).mScreens
        true) = true
  | a => ∀ endpoint ∈ host.droppedEndpoint a, (host.server.keepsActive endpoint &&
      host.server.mInput.remoteActive host.server.mScreens) = true

def Settles [EntryScaling] (host : Host E PortalInputCapture) (a : Action E PortalInputCapture)
    (_ : Host E PortalInputCapture) : Prop :=
  host.server.mInput.captured = true → host.Homeward a

/-- A router step leaves the input captured only if it was captured before. -/
theorem Stepped.captured_of [EntryScaling] {a : Action E PortalInputCapture}
    (hs : Stepped host a host') (hroutes : host.routes a = true)
    (h : host'.server.mInput.captured = true) : host.server.mInput.captured = true := by
  cases hs with
  | captured event => exact (handleInputEvent_handled _ _ event).captured_of h
  | registerLocal | reported => exact Server.captured_of_registerScreens h
  | rejected | dropped | closed => exact Server.captured_of_onClosed h
  | signal => cases hroutes
  | accepted | greeted | ignored | published | delivered | broke | hungUp => exact h

/-- The steps that only replace or remove a peer's screens. -/
theorem heldAfter_iff_of_dropped [EntryScaling] {a : Action E PortalInputCapture}
    (hvalid : PointerValid host.server.mScreens host.server.mInput) (hs : Stepped host a host')
    (hheld : host.server.mInput.captured = true)
    (hroutes : host.routes a = (host.droppedEndpoint a).isSome)
    (hpeer : ∀ screens, a ≠ .registerLocal screens) :
    HeldAfter host a host' ↔ ∀ endpoint ∈ host.droppedEndpoint a,
      (host.server.keepsActive endpoint &&
        host.server.mInput.remoteActive host.server.mScreens) = true := by
  rw [HeldAfter, hroutes]
  rcases hs.dropped_cases with ⟨hdrop, _⟩ |
    ⟨endpoint, ownerId, screens, isLocal, hdrop, hserver, hown, _⟩ | ⟨endpoint, hdrop, hserver⟩
  · simp [hdrop]
  · cases isLocal with
    | true => exact absurd (hown rfl) (hpeer screens)
    | false =>
      have hkeep : ∀ node ∈ host.server.mScreens.mScreens.nodes, node.key ≠ endpoint →
          node ∈ (host.server.registerScreens endpoint ownerId screens
            false).mScreens.mScreens.nodes :=
        fun node hnode hne => ServerScreenStore.mem_nodes_registerScreens_of_mem screens
          (OrderedMultimap.mem_nodes_eraseKey.mpr ⟨hnode, hne⟩)
      have hregistered := Server.heldForRemote_registerScreens hvalid hheld endpoint ownerId
        screens false
      have hsame := Server.remoteActive_of_keepsActive hvalid hkeep
      simp only [ensureSettles, Bool.false_eq_true, if_false, hsame] at hregistered
      simpa [hdrop, hserver] using hregistered
  · have hclosed := Server.heldForRemote_onClosed hvalid hheld endpoint
    simpa [hdrop, hserver] using hclosed

theorem heldAfter_iff_settles [EntryScaling] {a : Action E PortalInputCapture}
    (hvalid : PointerValid host.server.mScreens host.server.mInput) (hs : Stepped host a host') :
    HeldAfter host a host' ↔ Settles host a host' := by
  by_cases hheld : host.server.mInput.captured = true
  · rw [Settles, forall_prop_of_true hheld]
    cases a with
    | captured event =>
      cases hs
      have hhandled := handleInputEvent_handled host.server.mScreens host.server.mInput event
      rw [HeldAfter, forall_prop_of_true (by rfl)]
      exact hhandled.heldForRemote_iff hheld
    | registerLocal screens =>
      cases hs
      rw [HeldAfter, forall_prop_of_true (by rfl)]
      exact Server.heldForRemote_registerScreens hvalid hheld _ _ _ _
    | _ => exact heldAfter_iff_of_dropped hvalid hs hheld rfl nofun
  · refine iff_of_true (fun hroutes hafter => ?_) fun hbefore => absurd hbefore hheld
    exact absurd (hs.captured_of hroutes hafter) hheld

/-- Along every run the input is captured for remote screens only if and only if every router
step under a captured input settles it. -/
theorem portal_held_iff_settles [EntryScaling] {endpoint : E} {config : AppConfig}
    {configPath : String} {capture : PortalInputCapture}
    {as : List (Action E PortalInputCapture)} :
    Run step HeldAfter (start endpoint config configPath capture) as host ↔
      Run step Settles (start endpoint config configPath capture) as host := by
  refine Run.guard_iff (fun host => PointerValid host.server.mScreens host.server.mInput) ?_ ?_ ?_
  · exact run_pointerValid (.refl _ : Run step unguarded _ [] _)
  · intro s a t hvalid _ hnext
    exact pointerValid_step hvalid (step_stepped hnext)
  · intro s a t hvalid hnext
    exact heldAfter_iff_settles hvalid (step_stepped hnext)

/-- A guest connects, the pointer reaches a barrier and crosses, then F12 is pressed. -/
def barrierThenF12 : List (Action IPv4Endpoint PortalInputCapture) :=
  [.registerLocal [deskMonitor], .accept (loopback 1001),
    .receive (loopback 1001) (.hello { machineId := "m" }), .publish (loopback 1001),
    .receive (loopback 1001) (.screens ⟨[sideMonitor]⟩), .signal (.activated 1 (some (1919, 500))),
    .captured (.mouseMove { x := 1919, y := 500 }), .captured (.key { key := .f12 })]

/-- The fail-safe goes home and leaves the user's input captured. -/
theorem portal_held_at_home : ∃ host : Host IPv4Endpoint PortalInputCapture,
    Run step unguarded (start (loopback 24800) { machineId := "desk" } ""
      { mScreens := [deskMonitor] }) barrierThenF12 host ∧
    host.server.mInput.activeScreenKey host.server.mScreens = some ⟨"desk", 0⟩ ∧
    ¬ HeldForRemote host.server.mScreens host.server.mInput := by
  obtain ⟨host, hrun, hp⟩ := exists_run_of_execute step (fun _ _ _ => true)
    (start (loopback 24800) { machineId := "desk" } "" { mScreens := [deskMonitor] } :
      Host IPv4Endpoint PortalInputCapture) barrierThenF12
    (fun host => decide (
      host.server.mInput.activeScreenKey host.server.mScreens = some ⟨"desk", 0⟩ ∧
      host.server.mInput.captured = true ∧
      host.server.mInput.remoteActive host.server.mScreens = false))
    (fun _ _ _ _ => trivial) (by decide +kernel)
  obtain ⟨hhome, hcaptured, hlocal⟩ := of_decide_eq_true hp
  exact ⟨host, hrun, hhome, fun hheld => by simp [hheld hcaptured] at hlocal⟩

end Host
end Mksync
