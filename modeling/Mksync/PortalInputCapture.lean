import Mksync.ActivePointer

/-!
# The portal capture

The portal captures the input from an activation on until it is released. Asking for the mode
is a no-op in this backend: it relies on the router to move the local cursor on every way
home.
-/
namespace Mksync

/-- The `PortalInputCapture`, its `CaptureState` and the zones of its platform. Positions are
the finite doubles. -/
structure PortalInputCapture where
  mSession : Bool := true
  mScreens : List ScreenInfo := []
  globalX : Rat := 0
  globalY : Rat := 0
  activationId : UInt32 := 0
  active : Bool := false
  /-- The `ReleaseAt` calls sent to the portal. -/
  releasedAt : List (UInt32 × Int × Int) := []
  deriving DecidableEq

namespace PortalInputCapture

/-- What the portal and libei report. -/
inductive PortalSignal
  | activated (activationId : UInt32) (position : Option (Rat × Rat))
  | deactivated (activationId : UInt32)
  | disabled
  | zonesChanged (screens : List ScreenInfo)
  | pointerMotion (dx dy : Rat)
  | pointerMotionAbsolute (x y : Rat)

def onSignal (signal : PortalSignal) (capture : PortalInputCapture) : PortalInputCapture :=
  match signal with
  | .activated activationId none => { capture with activationId, active := true }
  | .activated activationId (some (x, y)) =>
    { capture with activationId, active := true, globalX := x, globalY := y }
  | .deactivated activationId =>
    if capture.activationId = activationId then
      { capture with activationId := 0, active := false }
    else capture
  | .disabled => { capture with activationId := 0, active := false }
  | .zonesChanged screens =>
    if screens.isEmpty then capture else { capture with mScreens := screens }
  | .pointerMotion dx dy =>
    { capture with globalX := capture.globalX + dx, globalY := capture.globalY + dy }
  | .pointerMotionAbsolute x y => { capture with globalX := x, globalY := y }

def localToGlobal (capture : PortalInputCapture) (screenIndex : Nat) (x y : Int) :
    Option (Int × Int) :=
  match capture.mScreens[screenIndex]? with
  | none => none
  | some screen =>
    some (screen.x + clamp x 0 (screen.width - 1), screen.y + clamp y 0 (screen.height - 1))

/-- It fails without a session and does nothing else. -/
def setRemoteControlActive (_ : Bool) (capture : PortalInputCapture) :
    Bool × PortalInputCapture :=
  (capture.mSession, capture)

def moveLocalCursor (screenIndex : Nat) (x y : Int) (capture : PortalInputCapture) :
    Bool × PortalInputCapture :=
  if !capture.mSession then (false, capture)
  else
    match capture.localToGlobal screenIndex x y with
    | none => (false, capture)
    | some position =>
      (true, { capture with
        globalX := position.1
        globalY := position.2
        active := false
        activationId := 0
        releasedAt :=
          if capture.activationId = 0 then capture.releasedAt
          else capture.releasedAt ++ [(capture.activationId, position)] })

instance : InputCapture PortalInputCapture where
  Signal := PortalSignal
  onSignal := onSignal
  setRemoteControlActive := setRemoteControlActive
  moveLocalCursor := moveLocalCursor

/-- The session is live and the pixel lies in one of the zones. -/
def places (capture : PortalInputCapture) (point : ScreenPoint) : Bool :=
  capture.mSession && (capture.localToGlobal point.key.screenIndex point.x point.y).isSome

theorem activationId_moveLocalCursor (capture : PortalInputCapture) (point : ScreenPoint) :
    (capture.moveLocalCursor point.key.screenIndex point.x point.y).2.activationId =
      if capture.places point then 0 else capture.activationId := by
  unfold moveLocalCursor places
  cases capture.mSession with
  | false => rfl
  | true => cases capture.localToGlobal point.key.screenIndex point.x point.y <;> rfl

end PortalInputCapture

namespace ServerInputRouter

variable {E : Type} [Endpoint E] {screens : ServerScreenStore E}
  {router router' : ServerInputRouter E PortalInputCapture} {point : ScreenPoint}

/-- The user's input is captured. -/
def captured (router : ServerInputRouter E PortalInputCapture) : Bool :=
  router.mCapture.any (·.activationId ≠ 0)

/-- The input is captured for a remote screen only. -/
def HeldForRemote (screens : ServerScreenStore E)
    (router : ServerInputRouter E PortalInputCapture) : Prop :=
  router.captured = true → router.remoteActive screens = true

def places (router : ServerInputRouter E PortalInputCapture) (point : ScreenPoint) : Bool :=
  router.mCapture.all (·.places point)

@[simp] theorem updateCaptureRemoteControl_portal :
    router.updateCaptureRemoteControl screens = router := by
  unfold updateCaptureRemoteControl
  cases router with
  | mk senders capture => cases capture <;> rfl

/-- Warping the cursor to a local screen releases the input if the pixel can be placed. -/
theorem captured_moveLocalCursorToActivePoint {screen : VirtualScreen E}
    (hactive : router.activeScreen screens = some screen) (hlocal : screen.isLocal = true)
    (hpoint : router.mActivePoint = some point) :
    (router.moveLocalCursorToActivePoint screens).captured =
      (router.captured && !router.places point) := by
  unfold moveLocalCursorToActivePoint
  cases hcapture : router.mCapture with
  | none => simp [captured, hcapture]
  | some capture =>
    have hid := capture.activationId_moveLocalCursor point
    simp only [hactive, hpoint, hlocal, InputCapture.moveLocalCursor, Bool.not_true,
      Bool.false_eq_true, if_false, captured, places, hcapture]
    cases hplaces : capture.places point <;>
      cases hmove : capture.moveLocalCursor point.key.screenIndex point.x point.y with
      | mk ok moved => cases ok <;> simp_all

/-! ### The router captures nothing by itself -/

theorem captured_of_switchActiveScreen
    (h : (router.switchActiveScreen screens point).captured = true) : router.captured = true := by
  rcases switchActiveScreen_cases screens point router with
    ⟨_, heq⟩ | ⟨node, hfind, ⟨_, heq⟩ | ⟨hlocal, heq⟩⟩
  · rwa [heq] at h
  · simpa [heq, enterRemoteScreen, captured] using h
  · have hderef := OrderedMultimap.deref_of_mem (ServerScreenStore.findScreen_eq_some hfind).1
    rw [heq, updateCaptureRemoteControl_portal, captured_moveLocalCursorToActivePoint
      (by simp [activeScreen, hderef]) hlocal rfl, Bool.and_eq_true] at h
    exact h.1

@[simp] theorem captured_activateFirstLocalScreen :
    (router.activateFirstLocalScreen screens).captured = router.captured := by
  unfold activateFirstLocalScreen
  split <;> simp [captured]

@[simp] theorem captured_clearActiveState :
    (router.clearActiveState screens).captured = router.captured := by
  simp [clearActiveState, captured]

theorem captured_of_ensureActiveLocalScreen {preferLocalPrimary : Bool}
    (h : (router.ensureActiveLocalScreen screens preferLocalPrimary).captured = true) :
    router.captured = true := by
  unfold ensureActiveLocalScreen at h
  split_ifs at h
  · simpa using h
  · split at h
    · exact captured_of_switchActiveScreen h
    · exact h
  · exact h

theorem Handled.captured_of [EntryScaling] {event : InputEvent}
    (h : Handled screens router event router') (hheld : router'.captured = true) :
    router.captured = true := by
  cases h with
  | idle | home | rested | echoed | stayed => exact hheld
  | failSafe => simpa using hheld
  | forwarded => simpa [captured] using hheld
  | clamped => simpa [captured, sampledRemote] using hheld
  | @crossed move screen =>
    have hsampled : (router.sampledRemote screen move).captured = true :=
      captured_of_switchActiveScreen hheld
    exact hsampled
  | @left move screen =>
    have hsampled : (router.sampledLocal screen move).captured = true :=
      captured_of_switchActiveScreen hheld
    exact hsampled

end ServerInputRouter
end Mksync
