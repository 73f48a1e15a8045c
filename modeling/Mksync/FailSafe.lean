import Mksync.RouterWellFormed

/-!
# The fail-safe

A pressed F12 takes control home from a remote screen. At home nothing that is captured
reaches a client, whatever clients come and go, until the mouse crosses a border into a
remote screen.
-/
namespace Mksync

open TransitionRuns ServerInputRouter

namespace ServerInputRouter

variable {E C : Type} [Endpoint E] {screens screens' : ServerScreenStore E}
  {router router' : ServerInputRouter E C} {event : InputEvent}

/-- A sample on a local screen, no echo of a warp, at a border that maps onto a remote
screen. -/
def CrossesAway [EntryScaling] (screens : ServerScreenStore E) (router : ServerInputRouter E C)
    (event : InputEvent) : Prop :=
  ∃ move active target node, event = .mouseMove move ∧
    router.activeScreen screens = some active ∧ active.isLocal = true ∧
    router.mPendingLocalWarp ≠ some (localPoint active move) ∧
    crossingTarget screens (localPoint active move) = some target ∧
    screens.findScreen target.key = some node ∧ node.value.isLocal = false

/-- No remote screen is active. -/
def AtHome (screens : ServerScreenStore E) (router : ServerInputRouter E C) : Prop :=
  router.remoteActive screens = false

theorem AtHome.isLocal (h : AtHome screens router) {screen : VirtualScreen E}
    (hactive : router.activeScreen screens = some screen) : screen.isLocal = true := by
  have hmode := remoteActive_of_active hactive
  rw [h] at hmode
  simpa using hmode

theorem AtHome.congr (h : AtHome screens router)
    (hactive : router'.activeScreen screens' = router.activeScreen screens) :
    AtHome screens' router' := by
  unfold AtHome remoteActive
  rw [hactive]
  exact h

theorem atHome_of_null (h : router.mActiveScreen = none) : AtHome screens router := by
  simp [AtHome, remoteActive, activeScreen, h]

variable [InputCapture C]

theorem AtHome.ensureActiveLocalScreen (h : AtHome screens router) :
    AtHome screens (router.ensureActiveLocalScreen screens false) := by
  rw [ensureActiveLocalScreen_false]
  split_ifs
  · exact remoteActive_activateFirstLocalScreen screens router
  · exact h

/-- Screens of an endpoint go and others come: what is active stays, or the pointer is
cleared. -/
theorem AtHome.of_removed {endpoint : E} (h : AtHome screens router)
    (hvalid : PointerValid screens router) (between : ServerScreenStore E)
    (hkeep : ∀ node ∈ screens.mScreens.nodes, node.key ≠ endpoint →
      node ∈ screens'.mScreens.nodes) :
    AtHome screens' (if (screens.removeScreen endpoint router.mActiveScreen).1 then
      router.clearActiveState between else router) := by
  split_ifs with hremoved
  · exact atHome_of_null (clearActiveState_mActiveScreen between router)
  · exact h.congr (hvalid.of_not_removed hkeep hremoved).2

/-- At home an event is enqueued for nobody and control stays at home, unless it crosses
away. -/
theorem Handled.atHome [EntryScaling] (h : Handled screens router event router')
    (hhome : AtHome screens router) (hstay : ¬ CrossesAway screens router event) :
    router'.mSenders = router.mSenders ∧ AtHome screens router' := by
  cases h with
  | idle | home => exact ⟨rfl, hhome⟩
  | failSafe active remote | forwarded active remote | rested active remote
  | crossed active remote | clamped active remote =>
    rw [hhome.isLocal active] at remote
    cases remote
  | echoed | stayed => exact ⟨rfl, hhome.congr rfl⟩
  | @left move screen target active isLocal noEcho crossing =>
    have hsampled : AtHome screens (router.sampledLocal screen move) := hhome.congr rfl
    cases hfind : screens.findScreen target.key with
    | none =>
      rw [switchActiveScreen_of_absent hfind]
      exact ⟨rfl, hsampled⟩
    | some node =>
      have hlocal : node.value.isLocal = true := by
        by_contra hremote
        exact hstay ⟨move, screen, target, node, rfl, active, isLocal, noEcho, crossing, hfind,
          by simpa using hremote⟩
      refine ⟨switchActiveScreen_local_mSenders _ hfind hlocal, ?_⟩
      unfold AtHome
      rw [remoteActive_of_active (switchActiveScreen_found _ hfind).1, hlocal]
      rfl

/-- What the fail-safe does. -/
theorem handleInputEvent_failSafe [EntryScaling] (hf12 : isF12Press event = true)
    (hremote : router.remoteActive screens = true) :
    router.handleInputEvent screens event = router.activateFirstLocalScreen screens := by
  simp [handleInputEvent, tryHandleLocalHotkey, hf12, hremote]

end ServerInputRouter

namespace Server

variable {E C : Type} [Endpoint E] [InputCapture C] {server : Server E C} {endpoint : E}

theorem atHome_registerScreens (h : AtHome server.mScreens server.mInput)
    (hvalid : PointerValid server.mScreens server.mInput) (ownerId : String)
    (screens : List ScreenInfo) :
    AtHome (server.registerScreens endpoint ownerId screens false).mScreens
      (server.registerScreens endpoint ownerId screens false).mInput := by
  have hkeep : ∀ node ∈ server.mScreens.mScreens.nodes, node.key ≠ endpoint →
      node ∈ (server.registerScreens endpoint ownerId screens false).mScreens.mScreens.nodes :=
    fun node hnode hne => ServerScreenStore.mem_nodes_registerScreens_of_mem screens
      (OrderedMultimap.mem_nodes_eraseKey.mpr ⟨hnode, hne⟩)
  exact (h.of_removed hvalid _ hkeep).ensureActiveLocalScreen

theorem atHome_onClosed (h : AtHome server.mScreens server.mInput)
    (hvalid : PointerValid server.mScreens server.mInput) :
    AtHome (server.onClosed endpoint).mScreens (server.onClosed endpoint).mInput := by
  have hkeep : ∀ node ∈ server.mScreens.mScreens.nodes, node.key ≠ endpoint →
      node ∈ (server.mScreens.eraseEndpoint endpoint).mScreens.nodes :=
    fun node hnode hne => OrderedMultimap.mem_nodes_eraseKey.mpr ⟨hnode, hne⟩
  have hremoved := h.of_removed hvalid (server.mScreens.eraseEndpoint endpoint) hkeep
  have hinput : AtHome (server.mScreens.eraseEndpoint endpoint)
      (server.removeEndpointScreens endpoint).mInput := by
    unfold removeEndpointScreens
    dsimp only
    split_ifs at hremoved ⊢ with hflag
    · exact hremoved.ensureActiveLocalScreen
    · exact hremoved
  rw [onClosed_mScreens]
  exact hinput.congr rfl

end Server

namespace Host

section Serving

variable {E C : Type} [Endpoint E] [InputCapture C] [EntryScaling]

/-- After the startup, and no captured sample crosses to a remote screen. -/
def StaysHome (host : Host E C) (a : Action E C) (host' : Host E C) : Prop :=
  Serving host a host' ∧
    ∀ event, a = .captured event → ¬ CrossesAway host.server.mScreens host.server.mInput event

/-- What keeps control at home. -/
theorem atHome_step {host host' : Host E C} {a : Action E C}
    (h : AtHome host.server.mScreens host.server.mInput)
    (hvalid : PointerValid host.server.mScreens host.server.mInput)
    (hstays : StaysHome host a host') (hs : Stepped host a host') :
    AtHome host'.server.mScreens host'.server.mInput := by
  cases hs with
  | registerLocal screens => exact absurd rfl (hstays.1 screens)
  | captured event =>
    have hhandled := handleInputEvent_handled host.server.mScreens host.server.mInput event
    exact (hhandled.atHome h (hstays.2 event rfl)).2
  | rejected | dropped | closed => exact Server.atHome_onClosed h hvalid
  | reported => exact Server.atHome_registerScreens h hvalid _ _
  | signal | accepted | greeted | ignored | published | delivered | broke | hungUp =>
    exact h.congr rfl

/-- From home, control is at home in every state of a run that does not cross away. -/
theorem run_atHome {host host' : Host E C} {as : List (Action E C)}
    (h : AtHome host.server.mScreens host.server.mInput)
    (hvalid : PointerValid host.server.mScreens host.server.mInput)
    (hrun : Run step StaysHome host as host') :
    AtHome host'.server.mScreens host'.server.mInput := by
  have hboth : AtHome host'.server.mScreens host'.server.mInput ∧
      PointerValid host'.server.mScreens host'.server.mInput := by
    refine hrun.invariant (fun host => AtHome host.server.mScreens host.server.mInput ∧
      PointerValid host.server.mScreens host.server.mInput) ?_ ⟨h, hvalid⟩
    intro s a t hs hstays hnext
    have hstepped := step_stepped hnext
    exact ⟨atHome_step hs.1 hs.2 hstays hstepped, pointerValid_step hs.2 hstepped⟩
  exact hboth.1

/-- F12 pressed while a remote screen is active makes a local screen active, a primary one if
there is any, tells the capture, and enqueues nothing; and no event captured later is
enqueued for any client until a sample on a local screen crosses to a remote one. -/
theorem f12_takes_control_home {endpoint : E} {config : AppConfig} {configPath : String}
    {capture : C} {screens : List ScreenInfo} {as : List (Action E (CaptureLog C))}
    {host pressed : Host E (CaptureLog C)} {event : InputEvent}
    (hvalid : ∃ info ∈ screens, isValidRect info = true)
    (h : Run step Serving (started endpoint config configPath ⟨capture, []⟩ screens) as host)
    (hremote : host.server.mInput.remoteActive host.server.mScreens = true)
    (hf12 : isF12Press event = true) (hstep : host.step (.captured event) = some pressed) :
    (∃ node ∈ pressed.server.mScreens.mScreens.nodes,
      pressed.server.mInput.mActiveScreen = some node.address ∧ node.value.isLocal = true ∧
      ((∃ other ∈ pressed.server.mScreens.mScreens.nodes,
        other.value.isLocal = true ∧ other.value.info.primary = true) →
        node.value.info.primary = true)) ∧
    (∃ log log', host.server.mInput.mCapture = some log ∧
      pressed.server.mInput.mCapture = some log' ∧ log'.modes = log.modes ++ [false]) ∧
    pressed.server.mInput.mSenders = host.server.mInput.mSenders ∧
    ∀ bs later, Run step StaysHome pressed bs later →
      ∀ event', ¬ CrossesAway later.server.mScreens later.server.mInput event' →
      ∀ next, later.step (.captured event') = some next →
        next.server.mInput.mSenders = later.server.mInput.mSenders := by
  have hformed := run_wellFormed hvalid h
  obtain ⟨log, hlog⟩ := hformed.mode.capture
  have hinput : pressed.server.mInput =
      host.server.mInput.activateFirstLocalScreen host.server.mScreens := by
    cases hstep
    exact handleInputEvent_failSafe hf12 hremote
  have hstore : pressed.server.mScreens = host.server.mScreens := by
    cases hstep
    rfl
  rw [hinput, hstore]
  refine ⟨?_, ?_, activateFirstLocalScreen_mSenders _ _, ?_⟩
  · obtain ⟨own, hown, hlocal⟩ := hformed.exists_local
    rcases activateFirstLocalScreen_cases host.server.mScreens host.server.mInput with
      ⟨hnone, _⟩ | ⟨node, hnode, hfirst, hisLocal, hactive⟩
    · obtain ⟨first, hfirst⟩ := ServerScreenStore.firstLocalScreen_isSome hown hlocal
      rw [hnone] at hfirst
      cases hfirst
    · exact ⟨node, hnode, hactive, hisLocal, ServerScreenStore.firstLocalScreen_primary hfirst⟩
  · rw [activateFirstLocalScreen_mCapture, hlog]
    exact ⟨log, _, rfl, rfl, rfl⟩
  · intro bs later hrun event' hstay next hnext
    have hhome : AtHome pressed.server.mScreens pressed.server.mInput := by
      rw [hinput, hstore]
      exact remoteActive_activateFirstLocalScreen _ _
    have hpointer : PointerValid pressed.server.mScreens pressed.server.mInput := by
      rw [hinput, hstore]
      exact pointerValid_activateFirstLocalScreen _ _
    have hlater := run_atHome hhome hpointer hrun
    cases hnext
    exact ((handleInputEvent_handled later.server.mScreens later.server.mInput event').atHome
      hlater hstay).1

end Serving

/-- A guest comes and the cursor crosses to its screen. -/
def crossing : List (Action IPv4Endpoint (CaptureLog MockInputCapture)) :=
  [.accept (loopback 1001), .receive (loopback 1001) (.hello { machineId := "m" }),
    .publish (loopback 1001), .receive (loopback 1001) (.screens ⟨[sideMonitor]⟩),
    .captured (.mouseMove { x := 1919, y := 500 })]

theorem f12_takes_control_home_guest :
    ∃ host pressed : Host IPv4Endpoint (CaptureLog MockInputCapture),
    Run step Serving (started (loopback 24800) {} "" ⟨{}, []⟩ [deskMonitor]) crossing host ∧
    host.server.mInput.remoteActive host.server.mScreens = true ∧
    host.step (.captured (.key { key := .f12 })) = some pressed ∧
    pressed.server.mInput.mSenders = host.server.mInput.mSenders ∧
    ∀ bs later, Run step StaysHome pressed bs later →
      ∀ event', ¬ CrossesAway later.server.mScreens later.server.mInput event' →
      ∀ next, later.step (.captured event') = some next →
        next.server.mInput.mSenders = later.server.mInput.mSenders := by
  obtain ⟨host, hrun, hremote⟩ := exists_run_of_execute step
    (fun host a host' => decide (Serving host a host'))
    (started (loopback 24800) {} "" (⟨{}, []⟩ : CaptureLog MockInputCapture) [deskMonitor]) crossing
    (fun host => host.server.mInput.remoteActive host.server.mScreens)
    (fun _ _ _ hcheck => of_decide_eq_true hcheck) (by decide +kernel)
  have hf12 : isF12Press (.key { key := .f12 }) = true := rfl
  have hhome := f12_takes_control_home ⟨deskMonitor, by decide, by decide⟩ hrun hremote hf12 rfl
  exact ⟨host, _, hrun, hremote, rfl, hhome.2.2⟩

end Host
end Mksync
