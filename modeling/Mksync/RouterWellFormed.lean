import Mksync.ActivePointer

/-!
# The active pointer and the capture mode

Between two steps the active pointer denotes a stored screen, and the mode last asked of the
capture says whether that screen is remote. The server, the store and the router keep this
up together: remove, clear, register, ensure.
-/
namespace Mksync

open TransitionRuns

/-- A capture together with the modes it was asked for, oldest first. -/
structure CaptureLog (C : Type) where
  inner : C
  modes : List Bool := []

instance {C : Type} [InputCapture C] : InputCapture (CaptureLog C) where
  Signal := InputCapture.Signal C
  onSignal signal log := { log with inner := InputCapture.onSignal signal log.inner }
  setRemoteControlActive active log :=
    let result := InputCapture.setRemoteControlActive active log.inner
    (result.1, ⟨result.2, log.modes ++ [active]⟩)
  moveLocalCursor screenIndex x y log :=
    let result := InputCapture.moveLocalCursor screenIndex x y log.inner
    (result.1, { log with inner := result.2 })

namespace ServerInputRouter

variable {E C : Type} [Endpoint E] {screens screens' : ServerScreenStore E}
  {router router' : ServerInputRouter E (CaptureLog C)}

/-- The mode last asked of the capture is that of the active screen. -/
def ModeTold (screens : ServerScreenStore E) (router : ServerInputRouter E (CaptureLog C)) : Prop :=
  ∃ log, router.mCapture = some log ∧ log.modes.getLast? = some (router.remoteActive screens)

theorem ModeTold.capture (h : ModeTold screens router) : ∃ log, router.mCapture = some log :=
  h.imp fun _ hlog => hlog.1

/-- The mode is that of the screen the pointer reads. -/
theorem ModeTold.congr (h : ModeTold screens router)
    (hactive : router'.activeScreen screens' = router.activeScreen screens)
    (hcapture : router'.mCapture = router.mCapture) : ModeTold screens' router' := by
  obtain ⟨log, hlog, hmode⟩ := h
  exact ⟨log, hcapture.trans hlog, by rw [hmode, remoteActive, remoteActive, hactive]⟩

variable [InputCapture C]

/-- The update of the capture tells it the mode, whatever it was told before. -/
theorem modeTold_updateCaptureRemoteControl {log : CaptureLog C}
    (hlog : router.mCapture = some log) :
    ModeTold screens (router.updateCaptureRemoteControl screens) := by
  have hsame : (router.updateCaptureRemoteControl screens).remoteActive screens =
      router.remoteActive screens := by
    rw [remoteActive, remoteActive, updateCaptureRemoteControl_activeScreen]
  refine ⟨(InputCapture.setRemoteControlActive (router.remoteActive screens) log).2, ?_, ?_⟩
  · simp [hlog]
  · rw [hsame]
    simp [InputCapture.setRemoteControlActive]

/-- A warp of the local cursor is not a mode. -/
theorem modeTold_moveLocalCursor (h : ModeTold screens router) :
    ModeTold screens (router.moveLocalCursorToActivePoint screens) := by
  rcases moveLocalCursorToActivePoint_cases screens router with
    heq | ⟨capture, active, point, hcapture, _, _, _, heq⟩
  · rwa [heq]
  · obtain ⟨log, hlog, hmode⟩ := h
    obtain rfl : capture = log := Option.some.inj (hcapture.symm.trans hlog)
    exact ⟨_, by rw [heq], by rw [heq]; exact hmode⟩

theorem ModeTold.switchActiveScreen (h : ModeTold screens router) (point : ScreenPoint) :
    ModeTold screens (router.switchActiveScreen screens point) := by
  obtain ⟨log, hlog⟩ := h.capture
  rcases switchActiveScreen_cases screens point router with
    ⟨_, heq⟩ | ⟨node, _, hcase⟩
  · rwa [heq]
  · have htold : ModeTold screens ({ router with
        mActiveScreen := some node.address
        mActivePoint := some point }.updateCaptureRemoteControl screens) :=
      modeTold_updateCaptureRemoteControl hlog
    rcases hcase with ⟨_, heq⟩ | ⟨_, heq⟩
    · rw [heq]
      exact htold.congr (by simp [enterRemoteScreen, activeScreen]) (by simp [enterRemoteScreen])
    · rw [heq]
      exact modeTold_moveLocalCursor htold

theorem modeTold_activateFirstLocalScreen {log : CaptureLog C}
    (hlog : router.mCapture = some log) :
    ModeTold screens (router.activateFirstLocalScreen screens) := by
  unfold activateFirstLocalScreen
  split <;> exact modeTold_updateCaptureRemoteControl hlog

/-- Whatever an event does, the capture knows the mode. -/
theorem Handled.modeTold [EntryScaling] {event : InputEvent}
    (h : Handled screens router event router') (hmode : ModeTold screens router) :
    ModeTold screens router' := by
  obtain ⟨log, hlog⟩ := hmode.capture
  cases h with
  | idle | home => exact hmode
  | failSafe => exact modeTold_activateFirstLocalScreen hlog
  | forwarded => exact hmode.congr (by simp [activeScreen]) (by simp)
  | rested | echoed | stayed => exact hmode.congr rfl rfl
  | clamped => exact hmode.congr (by simp [sampledRemote, activeScreen]) (by simp [sampledRemote])
  | @crossed move screen =>
    have hsampled : ModeTold screens (router.sampledRemote screen move) := hmode.congr rfl rfl
    exact hsampled.switchActiveScreen _
  | @left move screen =>
    have hsampled : ModeTold screens (router.sampledLocal screen move) := hmode.congr rfl rfl
    exact hsampled.switchActiveScreen _

theorem Rehomed.modeTold (h : Rehomed screens screens' router router')
    (hmode : ModeTold screens router) : ModeTold screens' router' := by
  obtain ⟨log, hlog⟩ := hmode.capture
  cases h with
  | kept _ same => exact hmode.congr same rfl
  | cleared between =>
    obtain ⟨log', hlog'⟩ : ∃ log, (router.clearActiveState between).mCapture = some log := by
      simp [clearActiveState, hlog]
    exact modeTold_activateFirstLocalScreen hlog'
  | woken => exact modeTold_activateFirstLocalScreen hlog
  | preferred _ same =>
    have hsame : ModeTold screens' router := hmode.congr same rfl
    exact hsame.switchActiveScreen _

/-! ### The pointer is not null -/

theorem isSome_switchActiveScreen (h : router.mActiveScreen.isSome) (point : ScreenPoint) :
    (router.switchActiveScreen screens point).mActiveScreen.isSome := by
  rcases switchActiveScreen_cases screens point router with
    ⟨_, heq⟩ | ⟨node, _, ⟨_, heq⟩ | ⟨_, heq⟩⟩
  · rwa [heq]
  · simp [heq, enterRemoteScreen]
  · simp [heq]

theorem isSome_activateFirstLocalScreen
    (hlocal : ∃ node ∈ screens.mScreens.nodes, node.value.isLocal = true) :
    (router.activateFirstLocalScreen screens).mActiveScreen.isSome := by
  obtain ⟨node, hnode, hisLocal⟩ := hlocal
  obtain ⟨first, hfirst⟩ := ServerScreenStore.firstLocalScreen_isSome hnode hisLocal
  simp [activateFirstLocalScreen, hfirst]

theorem Handled.isSome [EntryScaling] {event : InputEvent}
    (h : Handled screens router event router')
    (hlocal : ∃ node ∈ screens.mScreens.nodes, node.value.isLocal = true)
    (hsome : router.mActiveScreen.isSome) : router'.mActiveScreen.isSome := by
  cases h with
  | idle | home | rested | echoed | stayed => exact hsome
  | failSafe => exact isSome_activateFirstLocalScreen hlocal
  | forwarded => simpa using hsome
  | clamped => simpa [sampledRemote] using hsome
  | @crossed move screen =>
    have hsampled : (router.sampledRemote screen move).mActiveScreen.isSome := hsome
    exact isSome_switchActiveScreen hsampled _
  | @left move screen =>
    have hsampled : (router.sampledLocal screen move).mActiveScreen.isSome := hsome
    exact isSome_switchActiveScreen hsampled _

theorem Rehomed.isSome (h : Rehomed screens screens' router router')
    (hlocal : ∃ node ∈ screens'.mScreens.nodes, node.value.isLocal = true)
    (hsome : router.mActiveScreen.isSome) : router'.mActiveScreen.isSome := by
  cases h with
  | kept => exact hsome
  | cleared | woken => exact isSome_activateFirstLocalScreen hlocal
  | preferred => exact isSome_switchActiveScreen hsome _

end ServerInputRouter

namespace Server

open ServerInputRouter

variable {E C : Type} [Endpoint E] [InputCapture C] {server : Server E (CaptureLog C)}
  {endpoint : E}

/-- What a run keeps once the local screens are registered. -/
structure WellFormed (server : Server E (CaptureLog C)) : Prop where
  own : ∃ node ∈ server.mScreens.mScreens.nodes, node.key = server.mEndpoint ∧
    node.value.isLocal = true
  pointer : PointerValid server.mScreens server.mInput
  active : server.mInput.mActiveScreen.isSome
  mode : ModeTold server.mScreens server.mInput

omit [InputCapture C] in
theorem WellFormed.exists_local (h : WellFormed server) :
    ∃ node ∈ server.mScreens.mScreens.nodes, node.value.isLocal = true :=
  h.own.imp fun _ hown => ⟨hown.1, hown.2.2⟩

/-- The screens of a remote endpoint go and others come. -/
theorem WellFormed.rehomed (h : WellFormed server) (hne : endpoint ≠ server.mEndpoint)
    {store : ServerScreenStore E} {input : ServerInputRouter E (CaptureLog C)}
    (hkeep : ∀ node ∈ server.mScreens.mScreens.nodes, node.key ≠ endpoint →
      node ∈ store.mScreens.nodes)
    (hinput : Rehomed server.mScreens store server.mInput input) :
    WellFormed { server with mScreens := store, mInput := input } := by
  obtain ⟨own, hown, hkey, hlocal⟩ := h.own
  have hstay : own ∈ store.mScreens.nodes := hkeep own hown (by rw [hkey]; exact hne.symm)
  exact ⟨⟨own, hstay, hkey, hlocal⟩, hinput.pointerValid,
    hinput.isSome ⟨own, hstay, hlocal⟩ h.active, hinput.modeTold h.mode⟩

theorem WellFormed.registerScreens (h : WellFormed server) (hne : endpoint ≠ server.mEndpoint)
    (ownerId : String) (screens : List ScreenInfo) :
    WellFormed (server.registerScreens endpoint ownerId screens false) :=
  h.rehomed hne (fun _ hnode hkey => ServerScreenStore.mem_nodes_registerScreens_of_mem screens
    (OrderedMultimap.mem_nodes_eraseKey.mpr ⟨hnode, hkey⟩))
    (registerScreens_rehomed h.pointer endpoint ownerId screens false)

theorem WellFormed.onClosed (h : WellFormed server) (hne : endpoint ≠ server.mEndpoint) :
    WellFormed (server.onClosed endpoint) := by
  have hrehomed := removeEndpointScreens_rehomed h.pointer endpoint
  rw [removeEndpointScreens_mScreens] at hrehomed
  have hremoved := h.rehomed hne (fun _ hnode hkey =>
    OrderedMultimap.mem_nodes_eraseKey.mpr ⟨hnode, hkey⟩) hrehomed
  refine ⟨?_, ?_, hremoved.active, ?_⟩
  · rw [onClosed_mScreens, onClosed_mEndpoint]
    exact hremoved.own
  · rw [onClosed_mScreens]
    exact hremoved.pointer.congr rfl
  · rw [onClosed_mScreens]
    exact hremoved.mode.congr rfl rfl

theorem WellFormed.handleInputEvent [EntryScaling] (h : WellFormed server) (event : InputEvent) :
    WellFormed (server.handleInputEvent event) := by
  have hhandled := handleInputEvent_handled server.mScreens server.mInput event
  exact ⟨h.own, hhandled.pointerValid h.pointer, hhandled.isSome h.exists_local h.active,
    hhandled.modeTold h.mode⟩

/-- The startup registration of a screen with a positive rect. -/
theorem wellFormed_started (endpoint : E) (config : AppConfig) (configPath : String)
    (capture : C) {screens : List ScreenInfo} (hvalid : ∃ info ∈ screens, isValidRect info = true) :
    WellFormed (registerLocalScreens screens
      (start endpoint config configPath (⟨capture, []⟩ : CaptureLog C))) := by
  let server : Server E (CaptureLog C) := start endpoint config configPath ⟨capture, []⟩
  have hidle : server.mInput.mActiveScreen = none := by
    simp [server, start, setCapture, ServerInputRouter.init]
  have hlog : ∃ log, server.mInput.mCapture = some log := by
    simp [server, start, setCapture, ServerInputRouter.init]
  obtain ⟨log, hlog⟩ := hlog
  let store := (server.mScreens.eraseEndpoint endpoint).registerScreens endpoint
    server.localOwnerId screens true
  obtain ⟨node, hnode, hlocal⟩ : ∃ node ∈ store.mScreens.nodes, node.value.isLocal = true :=
    ServerScreenStore.exists_node_registerScreens rfl hvalid
  have hkey : node.key = endpoint := by
    rcases ServerScreenStore.mem_nodes_registerScreens screens hnode with hold | ⟨hkey, _⟩
    · exact absurd hold List.not_mem_nil
    · exact hkey
  have hinput : (registerLocalScreens screens server).mInput =
      server.mInput.activateFirstLocalScreen store := by
    have hflag : (server.mScreens.removeScreen endpoint server.mInput.mActiveScreen).1 = false := by
      rw [hidle]
      exact ServerScreenStore.removeScreen_none
    have hregister : (registerLocalScreens screens server).mInput =
        (if (server.mScreens.removeScreen endpoint server.mInput.mActiveScreen).1 = true then
          server.mInput.clearActiveState (server.mScreens.eraseEndpoint endpoint)
        else server.mInput).ensureActiveLocalScreen store true := rfl
    rw [hregister, hflag, if_neg Bool.false_ne_true, ensureActiveLocalScreen, hidle]
    rfl
  exact ⟨⟨node, hnode, hkey, hlocal⟩,
    hinput ▸ pointerValid_activateFirstLocalScreen store server.mInput,
    hinput ▸ isSome_activateFirstLocalScreen ⟨node, hnode, hlocal⟩,
    hinput ▸ modeTold_activateFirstLocalScreen hlog⟩

end Server

namespace Host

open ServerInputRouter

variable {E C : Type} [Endpoint E] [InputCapture C]

/-- The host once the server's own screens are registered. -/
def started (endpoint : E) (config : AppConfig) (configPath : String) (capture : C)
    (screens : List ScreenInfo) : Host E C :=
  (start endpoint config configPath capture).withServer (Server.registerLocalScreens screens)

/-- After the startup the server's own screens are not registered again. -/
def Serving (_ : Host E C) (a : Action E C) (_ : Host E C) : Prop :=
  ∀ screens, a ≠ .registerLocal screens

instance : ∀ (host : Host E C) (a : Action E C) (host' : Host E C),
    Decidable (Serving host a host')
  | _, .registerLocal screens, _ => .isFalse fun h => h screens rfl
  | _, .captured _, _ | _, .signal _, _ | _, .accept _, _ | _, .receive _ _, _
  | _, .publish _, _ | _, .deliver _, _ | _, .fail _, _ | _, .close _, _ => .isTrue nofun

theorem wellFormed_step [EntryScaling] {host host' : Host E (CaptureLog C)}
    {a : Action E (CaptureLog C)} (hvalid : SessionsValid host) (h : host.server.WellFormed)
    (hserving : Serving host a host') (hs : Stepped host a host') : host'.server.WellFormed := by
  cases hs with
  | registerLocal screens => exact absurd rfl (hserving screens)
  | captured event => exact h.handleInputEvent event
  | signal signal =>
    obtain ⟨log, hlog, hmode⟩ := h.mode
    have hcapture : (host.server.onSignal signal).mInput.mCapture =
        some { log with inner := InputCapture.onSignal signal log.inner } := by
      rw [Server.onSignal, hlog]
      rfl
    exact ⟨h.own, h.pointer.congr rfl, h.active, ⟨_, hcapture, hmode⟩⟩
  | rejected live | dropped live | closed live => exact h.onClosed (hvalid.ne_endpoint live)
  | reported live => exact h.registerScreens (hvalid.ne_endpoint live) _ _
  | accepted | greeted | ignored | published | delivered | broke | hungUp =>
    exact ⟨h.own, h.pointer.congr rfl, h.active, h.mode.congr rfl rfl⟩

theorem run_wellFormed [EntryScaling] {endpoint : E} {config : AppConfig} {configPath : String}
    {capture : C} {screens : List ScreenInfo} {as : List (Action E (CaptureLog C))}
    {host : Host E (CaptureLog C)} (hvalid : ∃ info ∈ screens, isValidRect info = true)
    (h : Run step Serving (started endpoint config configPath ⟨capture, []⟩ screens) as host) :
    host.server.WellFormed := by
  have hstarted := run_owned (Run.one (a := .registerLocal screens) rfl trivial : Run step
     unguarded (start endpoint config configPath (⟨capture, []⟩ : CaptureLog C)) _ _)
  have hboth : SessionsValid host ∧ host.server.WellFormed := by
    refine h.invariant (fun host => SessionsValid host ∧ host.server.WellFormed) ?_
      ⟨hstarted.1, Server.wellFormed_started endpoint config configPath capture hvalid⟩
    intro s a t hs hserving hnext
    have hstepped := step_stepped hnext
    exact ⟨hs.1.step hstepped, wellFormed_step hs.1 hs.2 hserving hstepped⟩
  exact hboth.2

/-- In every state of a serving host whose startup registered a screen, the active pointer
denotes a stored screen, and the last mode asked of the capture is whether it is remote. -/
theorem router_pointer_and_mode [EntryScaling] {endpoint : E} {config : AppConfig}
    {configPath : String} {capture : C} {screens : List ScreenInfo}
    {as : List (Action E (CaptureLog C))} {host : Host E (CaptureLog C)}
    (hvalid : ∃ info ∈ screens, isValidRect info = true)
    (h : Run step Serving (started endpoint config configPath ⟨capture, []⟩ screens) as host) :
    ∃ node ∈ host.server.mScreens.mScreens.nodes,
      host.server.mInput.mActiveScreen = some node.address ∧
      ∃ log, host.server.mInput.mCapture = some log ∧
        log.modes.getLast? = some (!node.value.isLocal) := by
  have hformed := run_wellFormed hvalid h
  obtain ⟨log, hlog, hmode⟩ := hformed.mode
  rcases hformed.pointer.active_cases with ⟨hnull, _⟩ | ⟨node, hnode, hactive, hscreen⟩
  · have hsome := hformed.active
    simp [hnull] at hsome
  · exact ⟨node, hnode, hactive, log, hlog, by rw [hmode, remoteActive_of_active hscreen]⟩

/-- A guest comes, the cursor crosses to its screen and the guest leaves. -/
def visit : List (Action IPv4Endpoint (CaptureLog MockInputCapture)) :=
  [.accept (loopback 1001), .receive (loopback 1001) (.hello { machineId := "m" }),
    .publish (loopback 1001), .receive (loopback 1001) (.screens ⟨[sideMonitor]⟩),
    .captured (.mouseMove { x := 1919, y := 500 }), .fail (loopback 1001),
    .close (loopback 1001)]

theorem router_pointer_and_mode_visit : ∃ host : Host IPv4Endpoint (CaptureLog MockInputCapture),
    Run step Serving (started (loopback 24800) {} "" ⟨{}, []⟩ [deskMonitor]) visit host ∧
    ∃ node ∈ host.server.mScreens.mScreens.nodes,
      host.server.mInput.mActiveScreen = some node.address ∧
      ∃ log, host.server.mInput.mCapture = some log ∧
        log.modes.getLast? = some (!node.value.isLocal) := by
  obtain ⟨host, hrun, -⟩ := exists_run_of_execute step
    (fun host a host' => decide (Serving host a host'))
    (started (loopback 24800) {} "" (⟨{}, []⟩ : CaptureLog MockInputCapture) [deskMonitor]) visit
    (fun _ => true) (fun _ _ _ hcheck => of_decide_eq_true hcheck) (by decide +kernel)
  exact ⟨host, hrun, router_pointer_and_mode ⟨deskMonitor, by decide, by decide⟩ hrun⟩

end Host
end Mksync
