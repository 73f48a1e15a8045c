import Mksync.ServerInputRouter
import Mksync.Win32Key

/-!
# The Win32 capture

The low-level hooks run on the platform's UI thread. They translate what they see in the mode
of that moment and append it to a bounded channel, which the server reads. A call of the
server waits for the UI thread, and hooks may run before its turn.
-/
namespace Mksync

/-- `POINT`, a pixel of the desktop. -/
structure DesktopPoint where
  x : Int := 0
  y : Int := 0
  deriving DecidableEq, Repr

/-- The `rcMonitor` of a monitor, by its upper left corner. -/
structure Win32Monitor where
  left : Int := 0
  top : Int := 0
  deriving DecidableEq, Repr

inductive MouseMessage
  | mouseMove | lButtonUp | rButtonUp | mButtonUp | xButtonUp | lButtonDown | rButtonDown
  | mButtonDown | xButtonDown | mouseWheel | mouseHWheel | other
  deriving DecidableEq, Repr

/-- `MSLLHOOKSTRUCT`, with the monitor that `MonitorFromPoint` names for the point. -/
structure MouseHook where
  pt : DesktopPoint
  /-- The signed high word of `mouseData`. -/
  mouseData : Int := 0
  injected : Bool := false
  monitor : Nat := 0
  deriving DecidableEq, Repr

/-- XBUTTON1 and XBUTTON2 are not modelled in `MouseButton`. -/
def mouseButtonFromMessage : MouseMessage → MouseButton
  | .lButtonUp | .lButtonDown => .left
  | .rButtonUp | .rButtonDown => .right
  | .mButtonUp | .mButtonDown => .middle
  | _ => .none

def isMouseButtonRelease : MouseMessage → Bool
  | .lButtonUp | .rButtonUp | .mButtonUp | .xButtonUp => true
  | _ => false

/-- What the UI thread is called for by the system: the two hooks, with the answer of
`MapVirtualKey` for a key, and a new enumeration of the monitors. -/
inductive UiMessage
  | mouse (wp : MouseMessage) (info : MouseHook)
  | keyboard (call : HookCall) (mapVirtualKey : UInt32) (injected : Bool)
  | displayChange (monitors : List Win32Monitor)
  deriving DecidableEq, Repr

/-- What the system does for one call to the UI thread: the messages that come before it,
whether the call could be posted, and what `GetCursorPos` and `SetCursorPos` answer. -/
structure UiCall where
  messages : List UiMessage := []
  posted : Bool := true
  cursorPos : Option DesktopPoint := some {}
  setCursorPos : Bool := true
  deriving DecidableEq, Repr

structure Sampled where
  event : InputEvent
  /-- History: remote mode was on when the event was sampled. Read by no function. -/
  remote : Bool
  deriving DecidableEq, Repr

/-- The capture between `initialize` and `shutdown`. -/
structure Win32InputCapture where
  mQueue : List Sampled := []
  mDroppedEvents : Nat := 0
  mRemoteControlActive : Bool := false
  mCursorHidden : Bool := false
  mHasRemoteAnchor : Bool := false
  mHasLastMouseGlobal : Bool := false
  mRemoteAnchor : DesktopPoint := {}
  mLastMouseGlobal : DesktopPoint := {}
  mMonitors : List Win32Monitor := []
  /-- What the system will do for the calls to come. -/
  upcoming : List UiCall := []
  deriving DecidableEq

namespace Win32InputCapture

def capacity : Nat := 512

def globalToMonitor (capture : Win32InputCapture) (info : MouseHook) :
    Option (Nat × DesktopPoint) :=
  match capture.mMonitors[info.monitor]? with
  | none => none
  | some monitor => some (info.monitor, ⟨info.pt.x - monitor.left, info.pt.y - monitor.top⟩)

def localToGlobal (capture : Win32InputCapture) (screenIndex : Nat) (x y : Int) :
    Option DesktopPoint :=
  match capture.mMonitors[screenIndex]? with
  | none => none
  | some monitor => some ⟨monitor.left + x, monitor.top + y⟩

/-! ### The hooks -/

def tryEnqueue (event : Sampled) (capture : Win32InputCapture) : Win32InputCapture :=
  if capture.mQueue.length < capacity then { capture with mQueue := capture.mQueue ++ [event] }
  else { capture with mDroppedEvents := capture.mDroppedEvents + 1 }

/-- The movement since the last sample; in remote mode the distance from the anchor. -/
def mouseDelta (capture : Win32InputCapture) (pt : DesktopPoint) : Int × Int :=
  if capture.mRemoteControlActive && capture.mHasRemoteAnchor then
    (pt.x - capture.mRemoteAnchor.x, pt.y - capture.mRemoteAnchor.y)
  else if capture.mHasLastMouseGlobal then
    (pt.x - capture.mLastMouseGlobal.x, pt.y - capture.mLastMouseGlobal.y)
  else (0, 0)

def translateMouseEvent (wp : MouseMessage) (info : MouseHook) (capture : Win32InputCapture) :
    Option InputEvent × Win32InputCapture :=
  match capture.globalToMonitor info with
  | none => (none, capture)
  | some (screenIndex, point) =>
    match wp with
    | .mouseMove =>
      let delta := capture.mouseDelta info.pt
      if (capture.mRemoteControlActive && capture.mHasRemoteAnchor) ∧ delta = (0, 0) then
        (none, capture)
      else
        (some (.mouseMove ⟨point.x, point.y, screenIndex, delta.1, delta.2⟩),
          { capture with mLastMouseGlobal := info.pt, mHasLastMouseGlobal := true })
    | .mouseWheel => (some (.mouseWheel ⟨point.x, point.y, 0, info.mouseData⟩), capture)
    | .mouseHWheel => (some (.mouseWheel ⟨point.x, point.y, info.mouseData, 0⟩), capture)
    | .other => (none, capture)
    | button =>
      if mouseButtonFromMessage button = .none then (none, capture)
      else (some (.mouseButton ⟨point.x, point.y, screenIndex, mouseButtonFromMessage button,
        isMouseButtonRelease button⟩), capture)

/-- The hook goes by the mode at its own time: it keeps the mode beside the event. -/
def enqueueTranslated (remote : Bool) (translated : Option InputEvent × Win32InputCapture) :
    Win32InputCapture :=
  match translated.1 with
  | none => translated.2
  | some event => translated.2.tryEnqueue ⟨event, remote⟩

/-- The re-centering moves that the hook itself causes in remote mode are ignored. -/
def mouseHookProc (wp : MouseMessage) (info : MouseHook) (capture : Win32InputCapture) :
    Win32InputCapture :=
  let remote := capture.mRemoteControlActive
  if remote && info.injected then capture
  else enqueueTranslated remote (capture.translateMouseEvent wp info)

def keyboardHookProc (call : HookCall) (mapVirtualKey : UInt32) (injected : Bool)
    (capture : Win32InputCapture) : Win32InputCapture :=
  let remote := capture.mRemoteControlActive
  if remote && injected then capture
  else enqueueTranslated remote
    ((translateKeyboardEvent (fun _ => mapVirtualKey) call).map .key, capture)

def onMessage (capture : Win32InputCapture) : UiMessage → Win32InputCapture
  | .mouse wp info => capture.mouseHookProc wp info
  | .keyboard call mapVirtualKey injected => capture.keyboardHookProc call mapVirtualKey injected
  | .displayChange monitors => { capture with mMonitors := monitors }

/-! ### Calls to the UI thread -/

def nextCall (capture : Win32InputCapture) : UiCall := capture.upcoming.headD {}

/-- The capture when the next call has its turn on the UI thread. -/
def beforeCall (capture : Win32InputCapture) : Win32InputCapture :=
  capture.nextCall.messages.foldl onMessage { capture with upcoming := capture.upcoming.tail }

/-- The cursor is pinned where it stands. A failed `SetCursorPos` is only logged. -/
def beginRemoteControl (cursorPos : Option DesktopPoint) (capture : Win32InputCapture) :
    Bool × Win32InputCapture :=
  match cursorPos with
  | none => (false, capture)
  | some cursor => (true, { capture with
      mRemoteAnchor := cursor
      mHasRemoteAnchor := true
      mLastMouseGlobal := cursor
      mHasLastMouseGlobal := true
      mCursorHidden := true
      mRemoteControlActive := true })

def endRemoteControl (capture : Win32InputCapture) : Win32InputCapture :=
  { capture with
    mRemoteControlActive := false
    mHasRemoteAnchor := false
    mCursorHidden := false }

def setRemoteControlActive (active : Bool) (capture : Win32InputCapture) :
    Bool × Win32InputCapture :=
  let call := capture.nextCall
  let capture := capture.beforeCall
  if !call.posted then (false, capture)
  else if active = capture.mRemoteControlActive then (true, capture)
  else if active then capture.beginRemoteControl call.cursorPos
  else (true, capture.endRemoteControl)

def moveLocalCursor (screenIndex : Nat) (x y : Int) (capture : Win32InputCapture) :
    Bool × Win32InputCapture :=
  let call := capture.nextCall
  let capture := capture.beforeCall
  if !call.posted then (false, capture)
  else
    match capture.localToGlobal screenIndex x y with
    | none => (false, capture)
    | some point =>
      if !call.setCursorPos then (false, capture)
      else (true, { capture with mLastMouseGlobal := point, mHasLastMouseGlobal := true })

/-- What happens on the UI thread between two calls. -/
inductive Signal
  | message (message : UiMessage)
  | schedule (upcoming : List UiCall)

def onSignal : Signal → Win32InputCapture → Win32InputCapture
  | .message message, capture => capture.onMessage message
  | .schedule upcoming, capture => { capture with upcoming }

instance : InputCapture Win32InputCapture where
  Signal := Signal
  onSignal := onSignal
  setRemoteControlActive := setRemoteControlActive
  moveLocalCursor := moveLocalCursor

/-! ### The capture in local mode -/

/-- A move that was sampled as a distance from the anchor. -/
def isRemoteMove : Sampled → Bool
  | ⟨.mouseMove _, remote⟩ => remote
  | _ => false

/-- Remote mode is off, and no move of it is left in the channel. -/
def AtHome (capture : Win32InputCapture) : Prop :=
  capture.mRemoteControlActive = false ∧ ∀ sampled ∈ capture.mQueue, isRemoteMove sampled = false

/-- When the next call has its turn no move of remote mode is in the channel, and the call is
posted. -/
def Drained (capture : Win32InputCapture) : Prop :=
  capture.nextCall.posted = true ∧
    ∀ sampled ∈ capture.beforeCall.mQueue, isRemoteMove sampled = false

instance (capture : Win32InputCapture) : Decidable capture.AtHome :=
  inferInstanceAs (Decidable (_ ∧ _))

instance (capture : Win32InputCapture) : Decidable capture.Drained :=
  inferInstanceAs (Decidable (_ ∧ _))

variable {capture : Win32InputCapture}

theorem translateMouseEvent_snd (wp : MouseMessage) (info : MouseHook) :
    (capture.translateMouseEvent wp info).2.mQueue = capture.mQueue ∧
      (capture.translateMouseEvent wp info).2.mRemoteControlActive =
        capture.mRemoteControlActive := by
  unfold translateMouseEvent
  cases capture.globalToMonitor info with
  | none => exact ⟨rfl, rfl⟩
  | some found =>
    cases wp with
    | mouseWheel | mouseHWheel | other => exact ⟨rfl, rfl⟩
    | _ =>
      dsimp only
      split_ifs <;> exact ⟨rfl, rfl⟩

theorem AtHome.tryEnqueue (h : capture.AtHome) {sampled : Sampled}
    (hsampled : isRemoteMove sampled = false) : (capture.tryEnqueue sampled).AtHome := by
  unfold Win32InputCapture.tryEnqueue
  split_ifs
  · refine ⟨h.1, ?_⟩
    intro other hother
    rcases List.mem_append.mp hother with hold | hnew
    · exact h.2 other hold
    · rw [List.mem_singleton.mp hnew]
      exact hsampled
  · exact h

theorem isRemoteMove_local (event : InputEvent) : isRemoteMove ⟨event, false⟩ = false := by
  cases event <;> rfl

theorem AtHome.enqueueTranslated {translated : Option InputEvent × Win32InputCapture}
    (h : translated.2.AtHome) : (enqueueTranslated false translated).AtHome := by
  unfold Win32InputCapture.enqueueTranslated
  cases translated.1 with
  | none => exact h
  | some event => exact h.tryEnqueue (isRemoteMove_local event)

/-- What the UI thread samples in local mode is no move of remote mode. -/
theorem AtHome.onMessage (h : capture.AtHome) (message : UiMessage) :
    (capture.onMessage message).AtHome := by
  cases message with
  | mouse wp info =>
    obtain ⟨hqueue, hmode⟩ := capture.translateMouseEvent_snd wp info
    have htranslated : (capture.translateMouseEvent wp info).2.AtHome := by
      rw [AtHome, hqueue, hmode]
      exact h
    simp only [Win32InputCapture.onMessage, mouseHookProc, h.1, Bool.false_and,
      Bool.false_eq_true, if_false]
    exact htranslated.enqueueTranslated
  | keyboard call mapVirtualKey injected =>
    simp only [Win32InputCapture.onMessage, keyboardHookProc, h.1, Bool.false_and,
      Bool.false_eq_true, if_false]
    exact AtHome.enqueueTranslated h
  | displayChange monitors => exact h

theorem AtHome.beforeCall (h : capture.AtHome) : capture.beforeCall.AtHome :=
  capture.nextCall.messages.foldlRecOn _ h fun _ hs message _ => hs.onMessage message

theorem AtHome.onSignal (h : capture.AtHome) (signal : Signal) :
    (onSignal signal capture).AtHome := by
  cases signal with
  | message message => exact h.onMessage message
  | schedule upcoming => exact h

theorem AtHome.moveLocalCursor (h : capture.AtHome) (screenIndex : Nat) (x y : Int) :
    (capture.moveLocalCursor screenIndex x y).2.AtHome := by
  have hbefore := h.beforeCall
  unfold Win32InputCapture.moveLocalCursor
  dsimp only
  cases capture.beforeCall.localToGlobal screenIndex x y with
  | none => split_ifs <;> exact hbefore
  | some point => split_ifs <;> exact hbefore

/-- Local mode is asked for once more, whether the call is posted or not. -/
theorem AtHome.setRemoteControlActive (h : capture.AtHome) :
    (capture.setRemoteControlActive false).2.AtHome := by
  have hbefore := h.beforeCall
  unfold Win32InputCapture.setRemoteControlActive
  simp only [hbefore.1, if_true]
  split_ifs <;> exact hbefore

/-- The call that turns remote mode off leaves a drained channel as it is. -/
theorem Drained.setRemoteControlActive (h : capture.Drained) :
    (capture.setRemoteControlActive false).2.AtHome := by
  unfold Win32InputCapture.setRemoteControlActive
  simp only [h.1, Bool.not_true, Bool.false_eq_true, if_false]
  cases hmode : capture.beforeCall.mRemoteControlActive with
  | false => exact ⟨hmode, h.2⟩
  | true => exact ⟨rfl, h.2⟩

end Win32InputCapture
end Mksync
