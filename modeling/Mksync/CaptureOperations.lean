import Mksync.RouterWellFormed

/-!
# What the server does to its capture

Whatever happens to the server and its router, the capture changes by its own operations only.
What each operation keeps is therefore kept by every run of the host.
-/
namespace Mksync

open TransitionRuns

namespace InputCapture

/-- What the calls of the router keep of a capture, whatever they answer. -/
structure KeptByCalls {C : Type} [InputCapture C] (P : C → Prop) : Prop where
  setRemoteControlActive : ∀ (active : Bool) (capture : C), P capture →
    P (InputCapture.setRemoteControlActive active capture).2
  moveLocalCursor : ∀ (screenIndex : Nat) (x y : Int) (capture : C), P capture →
    P (InputCapture.moveLocalCursor screenIndex x y capture).2

/-- What every operation of a capture keeps. -/
structure Keeps {C : Type} [InputCapture C] (P : C → Prop) : Prop extends KeptByCalls P where
  onSignal : ∀ (signal : Signal C) (capture : C), P capture →
    P (InputCapture.onSignal signal capture)

/-- A capture whose release does not fail: once it is told to, it is released, and stays so
until it is told otherwise. -/
structure Releases {C : Type} [InputCapture C] (I released : C → Prop) : Prop where
  keeps : Keeps I
  signal : ∀ (signal : Signal C) (capture : C), I capture → released capture →
    released (InputCapture.onSignal signal capture)
  release : ∀ capture : C, I capture →
    released (InputCapture.setRemoteControlActive false capture).2
  moved : ∀ (screenIndex : Nat) (x y : Int) (capture : C), I capture → released capture →
    released (InputCapture.moveLocalCursor screenIndex x y capture).2

/-- Beside its log such a capture is released where it was last told to be. -/
theorem Releases.keeps_log {C : Type} [InputCapture C] {I released : C → Prop}
    (h : Releases I released) : Keeps fun log : CaptureLog C =>
      I log.inner ∧ (log.modes.getLast? = some false → released log.inner) := by
  refine ⟨⟨?_, ?_⟩, ?_⟩
  rotate_right
  · rintro signal log ⟨hinner, hreleased⟩
    exact ⟨h.keeps.onSignal signal log.inner hinner,
      fun htold => h.signal signal log.inner hinner (hreleased htold)⟩
  · rintro active log ⟨hinner, -⟩
    refine ⟨h.keeps.setRemoteControlActive active log.inner hinner, fun htold => ?_⟩
    have hlast : (log.modes ++ [active]).getLast? = some false := htold
    rw [List.getLast?_concat] at hlast
    obtain rfl := Option.some.inj hlast
    exact h.release log.inner hinner
  · rintro screenIndex x y log ⟨hinner, hreleased⟩
    exact ⟨h.keeps.moveLocalCursor screenIndex x y log.inner hinner,
      fun htold => h.moved screenIndex x y log.inner hinner (hreleased htold)⟩

end InputCapture

namespace ServerInputRouter

variable {E C : Type} [Endpoint E] {P : C → Prop} {screens screens' : ServerScreenStore E}
  {router router' : ServerInputRouter E C}

def CaptureSatisfies (P : C → Prop) (router : ServerInputRouter E C) : Prop :=
  ∀ capture, router.mCapture = some capture → P capture

theorem CaptureSatisfies.congr (h : CaptureSatisfies P router)
    (hcapture : router'.mCapture = router.mCapture) : CaptureSatisfies P router' := by
  intro capture hcaptured
  rw [hcapture] at hcaptured
  exact h capture hcaptured

variable [InputCapture C]

theorem CaptureSatisfies.updateCaptureRemoteControl (h : CaptureSatisfies P router)
    (keeps : InputCapture.KeptByCalls P) :
    CaptureSatisfies P (router.updateCaptureRemoteControl screens) := by
  intro capture hcaptured
  rw [updateCaptureRemoteControl_mCapture, Option.map_eq_some_iff] at hcaptured
  obtain ⟨before, hbefore, rfl⟩ := hcaptured
  exact keeps.setRemoteControlActive _ before (h before hbefore)

theorem CaptureSatisfies.moveLocalCursorToActivePoint (h : CaptureSatisfies P router)
    (keeps : InputCapture.KeptByCalls P) :
    CaptureSatisfies P (router.moveLocalCursorToActivePoint screens) := by
  rcases moveLocalCursorToActivePoint_cases screens router with
    heq | ⟨before, active, point, hbefore, _, _, _, heq⟩
  · rwa [heq]
  · intro capture hcaptured
    rw [heq] at hcaptured
    obtain rfl := Option.some.inj hcaptured
    exact keeps.moveLocalCursor _ _ _ before (h before hbefore)

theorem CaptureSatisfies.switchActiveScreen (h : CaptureSatisfies P router)
    (keeps : InputCapture.KeptByCalls P) (point : ScreenPoint) :
    CaptureSatisfies P (router.switchActiveScreen screens point) := by
  rcases switchActiveScreen_cases screens point router with
    ⟨_, heq⟩ | ⟨node, _, hcase⟩
  · rwa [heq]
  · have hpointed : CaptureSatisfies P { router with
        mActiveScreen := some node.address
        mActivePoint := some point } := h.congr rfl
    have htold : CaptureSatisfies P ({ router with
        mActiveScreen := some node.address
        mActivePoint := some point }.updateCaptureRemoteControl screens) :=
      hpointed.updateCaptureRemoteControl keeps
    rcases hcase with ⟨_, heq⟩ | ⟨_, heq⟩
    · rw [heq]
      exact htold.congr (by simp [enterRemoteScreen])
    · rw [heq]
      exact htold.moveLocalCursorToActivePoint keeps

theorem CaptureSatisfies.activateFirstLocalScreen (h : CaptureSatisfies P router)
    (keeps : InputCapture.KeptByCalls P) :
    CaptureSatisfies P (router.activateFirstLocalScreen screens) := by
  intro capture hcaptured
  rw [activateFirstLocalScreen_mCapture, Option.map_eq_some_iff] at hcaptured
  obtain ⟨before, hbefore, rfl⟩ := hcaptured
  exact keeps.setRemoteControlActive false before (h before hbefore)

theorem CaptureSatisfies.clearActiveState (h : CaptureSatisfies P router)
    (keeps : InputCapture.KeptByCalls P) :
    CaptureSatisfies P (router.clearActiveState screens) := by
  rw [ServerInputRouter.clearActiveState]
  have hcleared : CaptureSatisfies P { router with
      mActiveScreen := none
      mActivePoint := none
      mLastLocalMouse := none
      mPendingLocalWarp := none } := h.congr rfl
  exact hcleared.updateCaptureRemoteControl keeps

theorem Handled.captureSatisfies [EntryScaling] {event : InputEvent}
    (h : Handled screens router event router') (hcapture : CaptureSatisfies P router)
    (keeps : InputCapture.KeptByCalls P) : CaptureSatisfies P router' := by
  cases h with
  | idle | home => exact hcapture
  | failSafe => exact hcapture.activateFirstLocalScreen keeps
  | forwarded => exact hcapture.congr (by simp)
  | rested | echoed | stayed => exact hcapture.congr rfl
  | clamped => exact hcapture.congr (by simp [sampledRemote])
  | @crossed move screen =>
    have hsampled : CaptureSatisfies P (router.sampledRemote screen move) := hcapture.congr rfl
    exact hsampled.switchActiveScreen keeps _
  | @left move screen =>
    have hsampled : CaptureSatisfies P (router.sampledLocal screen move) := hcapture.congr rfl
    exact hsampled.switchActiveScreen keeps _

theorem Rehomed.captureSatisfies (h : Rehomed screens screens' router router')
    (hcapture : CaptureSatisfies P router) (keeps : InputCapture.KeptByCalls P) :
    CaptureSatisfies P router' := by
  cases h with
  | kept => exact hcapture
  | cleared => exact (hcapture.clearActiveState keeps).activateFirstLocalScreen keeps
  | woken => exact hcapture.activateFirstLocalScreen keeps
  | preferred => exact hcapture.switchActiveScreen keeps _

end ServerInputRouter

namespace Host

open ServerInputRouter

variable {E C : Type} [Endpoint E] [InputCapture C] [EntryScaling] {P : C → Prop}
  {host host' : Host E C}

theorem captureSatisfies_step {a : Action E C}
    (hpointer : PointerValid host.server.mScreens host.server.mInput)
    (hcapture : CaptureSatisfies P host.server.mInput) (keeps : InputCapture.KeptByCalls P)
    (hsignal : ∀ signal, a = .signal signal → ∀ capture, P capture →
      P (InputCapture.onSignal signal capture))
    (hs : Stepped host a host') : CaptureSatisfies P host'.server.mInput := by
  cases hs with
  | registerLocal | reported =>
    exact (Server.registerScreens_rehomed hpointer _ _ _ _).captureSatisfies hcapture keeps
  | captured event => exact (handleInputEvent_handled _ _ event).captureSatisfies hcapture keeps
  | rejected | dropped | closed =>
    exact ((Server.removeEndpointScreens_rehomed hpointer _).captureSatisfies hcapture
      keeps).congr rfl
  | signal signal =>
    intro capture hcaptured
    have hmap : host.server.mInput.mCapture.map (InputCapture.onSignal signal) = some capture :=
      hcaptured
    rw [Option.map_eq_some_iff] at hmap
    obtain ⟨before, hbefore, rfl⟩ := hmap
    exact hsignal signal rfl before (hcapture before hbefore)
  | accepted | greeted | ignored | published | delivered | broke | hungUp =>
    exact hcapture.congr rfl

omit [EntryScaling] in
/-- The capture is told at once that the desk is where the input goes. -/
theorem captureSatisfies_start {endpoint : E} {config : AppConfig} {configPath : String}
    {capture : C} (keeps : InputCapture.KeptByCalls P) (hcapture : P capture) :
    CaptureSatisfies P (start endpoint config configPath capture).server.mInput := by
  have hheld : CaptureSatisfies P { (ServerInputRouter.init : ServerInputRouter E C) with
      mCapture := some capture } := by
    intro held hheld
    obtain rfl := Option.some.inj hheld
    exact hcapture
  exact hheld.updateCaptureRemoteControl keeps

/-- In every state of every run the capture is as its operations keep it. -/
theorem run_captureSatisfies {guard : Host E C → Action E C → Host E C → Prop}
    {endpoint : E} {config : AppConfig} {configPath : String} {capture : C}
    {as : List (Action E C)} (keeps : InputCapture.Keeps P) (hcapture : P capture)
    (h : Run step guard (start endpoint config configPath capture) as host) :
    CaptureSatisfies P host.server.mInput := by
  have hboth : PointerValid host.server.mScreens host.server.mInput ∧
      CaptureSatisfies P host.server.mInput := by
    refine h.invariant (fun host => PointerValid host.server.mScreens host.server.mInput ∧
      CaptureSatisfies P host.server.mInput) ?_ ⟨?_, ?_⟩
    · intro s a t hs _ hnext
      have hstepped := step_stepped hnext
      exact ⟨pointerValid_step hs.1 hstepped, captureSatisfies_step hs.1 hs.2 keeps.toKeptByCalls
        (fun signal _ => keeps.onSignal signal) hstepped⟩
    · intro address haddress
      simp [start, Server.start, ServerInputRouter.setCapture, ServerInputRouter.init] at haddress
    · exact captureSatisfies_start keeps.toKeptByCalls hcapture
  exact hboth.2

/-- In every state of a serving host such a capture is released where a local screen is
active. -/
theorem run_released {I released : C → Prop} (hreleases : InputCapture.Releases I released)
    {endpoint : E} {config : AppConfig} {configPath : String} {capture : C}
    {screens : List ScreenInfo} {as : List (Action E (CaptureLog C))}
    {host : Host E (CaptureLog C)} (hcapture : I capture)
    (hvalid : ∃ info ∈ screens, isValidRect info = true)
    (h : Run step Serving (started endpoint config configPath ⟨capture, []⟩ screens) as host) :
    ∃ log node, host.server.mInput.mCapture = some log ∧
      node ∈ host.server.mScreens.mScreens.nodes ∧
      host.server.mInput.mActiveScreen = some node.address ∧
      I log.inner ∧ (node.value.isLocal = true → released log.inner) := by
  have hformed := run_wellFormed hvalid h
  have hwhole : Run step unguarded (start endpoint config configPath (⟨capture, []⟩ : CaptureLog C))
      ([.registerLocal screens] ++ as) host :=
    (Run.one (a := .registerLocal screens) rfl trivial).trans h.forget
  have hsatisfies := run_captureSatisfies hreleases.keeps_log
    (⟨hcapture, fun htold => absurd htold (by simp)⟩) hwhole
  obtain ⟨log, hlog, hmode⟩ := hformed.mode
  obtain ⟨hinner, hreleased⟩ := hsatisfies log hlog
  rcases hformed.pointer.active_cases with ⟨hnull, _⟩ | ⟨node, hnode, hactive, hscreen⟩
  · have hsome := hformed.active
    simp [hnull] at hsome
  · refine ⟨log, node, hlog, hnode, hactive, hinner, fun hlocal => hreleased ?_⟩
    rw [hmode, remoteActive_of_active hscreen, hlocal]
    rfl

end Host
end Mksync
