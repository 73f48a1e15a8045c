import Mksync.RpcMessages
import Mksync.ServerScreenStore

/-!
# The server's input router

Captured events are handled against the screen store, which the router only reads. The
active screen is a pointer into the store's multimap: reading through it finds the node
at the address, and nothing when the node was erased.
-/
namespace Mksync

/-- A platform's capture. `Signal` is what the platform itself does to it between the
router's calls; a call answers whether it succeeded. -/
class InputCapture (C : Type) where
  Signal : Type
  onSignal : Signal → C → C
  setRemoteControlActive : Bool → C → Bool × C
  moveLocalCursor : Nat → Int → Int → C → Bool × C

/-- The capture of the tests: it accepts every call and keeps the last ones. -/
structure MockInputCapture where
  mRemoteControlActive : Bool := false
  mLastCursorMove : Option (Nat × Int × Int) := none
  deriving DecidableEq

instance : InputCapture MockInputCapture where
  Signal := Empty
  onSignal := nofun
  setRemoteControlActive active capture := (true, { capture with mRemoteControlActive := active })
  moveLocalCursor screenIndex x y capture :=
    (true, { capture with mLastCursorMove := some (screenIndex, x, y) })

/-- The bounded channel to a session's write loop: what the loop has taken so far and what
still waits. It is closed when the loop's receiver is gone. -/
structure Channel where
  taken : List RpcMessage := []
  queue : List RpcMessage := []
  closed : Bool := false
  deriving DecidableEq

namespace Channel

def capacity : Nat := 10

/-- Everything successfully enqueued, in order. -/
def enqueued (channel : Channel) : List RpcMessage := channel.taken ++ channel.queue

def accepts (channel : Channel) : Bool := !channel.closed && channel.queue.length < capacity

def trySend (channel : Channel) (message : RpcMessage) : Option Channel :=
  if channel.accepts then some { channel with queue := channel.queue ++ [message] } else none

/-- The write loop takes the oldest message. -/
def recv (channel : Channel) : Option Channel :=
  match channel.queue with
  | [] => none
  | message :: rest => some { channel with taken := channel.taken ++ [message], queue := rest }

theorem enqueued_recv {channel channel' : Channel} (h : channel.recv = some channel') :
    channel'.enqueued = channel.enqueued := by
  unfold recv at h
  cases hq : channel.queue with
  | nil => simp [hq] at h
  | cons message rest =>
    simp only [hq, Option.some.injEq] at h
    subst h
    simp [enqueued, hq]

/-- More waits, and nothing more was taken. -/
def Extends (channel channel' : Channel) : Prop :=
  channel'.taken = channel.taken ∧ channel.queue <+: channel'.queue

theorem Extends.refl (channel : Channel) : channel.Extends channel := ⟨rfl, List.prefix_rfl⟩

theorem Extends.enqueued {channel channel' : Channel} (h : channel.Extends channel') :
    channel.enqueued <+: channel'.enqueued := by
  unfold Channel.enqueued
  rw [h.1]
  exact (List.prefix_append_right_inj _).mpr h.2

end Channel

abbrev ClientSenders (E : Type) [LinearOrder E] := OrderedMap E Channel

/-- The router and the senders it refers to. `mActiveScreen` is a node address. -/
structure ServerInputRouter (E C : Type) [LinearOrder E] where
  mSenders : ClientSenders E
  mCapture : Option C
  mActiveScreen : Option Nat
  mActivePoint : Option ScreenPoint
  mLastLocalMouse : Option MouseMoveEvent
  mPendingLocalWarp : Option ScreenPoint

namespace ServerInputRouter

variable {E C : Type} [Endpoint E] [InputCapture C]

def init : ServerInputRouter E C := ⟨.empty, none, none, none, none, none⟩

variable (screens : ServerScreenStore E)

/-- The screen behind the active pointer. -/
def activeScreen (router : ServerInputRouter E C) : Option (VirtualScreen E) :=
  router.mActiveScreen.bind screens.mScreens.deref

def activeScreenKey (router : ServerInputRouter E C) : Option ScreenKey :=
  (router.activeScreen screens).map (·.key)

/-- The mode the capture is asked for: a screen is active and it is remote. -/
def remoteActive (router : ServerInputRouter E C) : Bool :=
  (router.activeScreen screens).any (!·.isLocal)

/-! ### Capture and queues -/

def updateCaptureRemoteControl (router : ServerInputRouter E C) : ServerInputRouter E C :=
  match router.mCapture with
  | none => router
  | some capture =>
    -- a failed call is only logged
    let result := InputCapture.setRemoteControlActive (router.remoteActive screens) capture
    { router with mCapture := some result.2 }

def setCapture (router : ServerInputRouter E C) (capture : Option C) : ServerInputRouter E C :=
  { router with mCapture := capture }.updateCaptureRemoteControl screens

def moveLocalCursorToActivePoint (router : ServerInputRouter E C) : ServerInputRouter E C :=
  match router.mCapture, router.activeScreen screens, router.mActivePoint with
  | some capture, some active, some point =>
    if !active.isLocal then router
    else
      match InputCapture.moveLocalCursor point.key.screenIndex point.x point.y capture with
      | (false, capture) => { router with mCapture := some capture }
      | (true, capture) =>
        { router with mCapture := some capture, mPendingLocalWarp := some point }
  | _, _, _ => router

/-- Enqueue an event for the screen's client. A missing, full or closed sender drops it. -/
def queueInputForScreen (screen : VirtualScreen E) (event : InputEvent)
    (router : ServerInputRouter E C) : Bool × ServerInputRouter E C :=
  if screen.isLocal then (false, router)
  else
    match router.mSenders.find? screen.endpoint with
    | none => (false, router)
    | some sender =>
      match sender.trySend (.input ⟨event⟩) with
      | none => (false, router)
      | some sender =>
        (true, { router with mSenders := router.mSenders.insertOrAssign screen.endpoint sender })

/-- An absolute move of the remote cursor. -/
def moveTo (point : ScreenPoint) : InputEvent :=
  .mouseMove { x := point.x, y := point.y, screenIndex := point.key.screenIndex }

/-! ### The active screen -/

def clearActiveState (router : ServerInputRouter E C) : ServerInputRouter E C :=
  { router with
    mActiveScreen := none
    mActivePoint := none
    mLastLocalMouse := none
    mPendingLocalWarp := none }.updateCaptureRemoteControl screens

def activateFirstLocalScreen (router : ServerInputRouter E C) : ServerInputRouter E C :=
  match screens.firstLocalScreen with
  | none =>
    { router with
      mActiveScreen := none
      mActivePoint := none
      mLastLocalMouse := none
      mPendingLocalWarp := none }.updateCaptureRemoteControl screens
  | some node =>
    { router with
      mActiveScreen := some node.address
      mActivePoint := some ⟨node.value.key, 0, 0⟩
      mLastLocalMouse := none
      mPendingLocalWarp := none }.updateCaptureRemoteControl screens

/-- The remote half of a switch: the pending warp is dropped and the entry pixel queued. -/
def enterRemoteScreen (screen : VirtualScreen E) (point : ScreenPoint)
    (router : ServerInputRouter E C) : ServerInputRouter E C :=
  ({ router with mPendingLocalWarp := none }.queueInputForScreen screen (moveTo point)).2

def switchActiveScreen (point : ScreenPoint) (router : ServerInputRouter E C) :
    ServerInputRouter E C :=
  match screens.findScreen point.key with
  | none => router
  | some node =>
    let router := { router with
      mActiveScreen := some node.address
      mActivePoint := some point }.updateCaptureRemoteControl screens
    if !node.value.isLocal then router.enterRemoteScreen node.value point
    else router.moveLocalCursorToActivePoint screens

def ensureActiveLocalScreen (preferLocalPrimary : Bool) (router : ServerInputRouter E C) :
    ServerInputRouter E C :=
  if router.mActiveScreen.isNone then router.activateFirstLocalScreen screens
  else if preferLocalPrimary then
    match screens.firstLocalScreen with
    | some node => router.switchActiveScreen screens ⟨node.value.key, 0, 0⟩
    | none => router
  else router

/-! ### Events -/

def isF12Press : InputEvent → Bool
  | .key event => !event.release && event.key = .f12
  | _ => false

/-- The fail-safe: a pressed F12 is consumed, and takes control home from a remote screen. -/
def tryHandleLocalHotkey (event : InputEvent) (router : ServerInputRouter E C) :
    Bool × ServerInputRouter E C :=
  if !isF12Press event then (false, router)
  else if router.remoteActive screens then (true, router.activateFirstLocalScreen screens)
  else (true, router)

def eventAtActivePoint (router : ServerInputRouter E C) (event : InputEvent) : InputEvent :=
  match router.activeScreen screens, router.mActivePoint with
  | some active, some point =>
    if point.key ≠ active.key then event
    else
      match event with
      | .mouseButton button => .mouseButton { button with
          x := point.x, y := point.y, screenIndex := point.key.screenIndex }
      | .mouseWheel wheel => .mouseWheel { wheel with x := point.x, y := point.y }
      | .mouseMove move => .mouseMove move
      | .key key => .key key
  | _, _ => event

def suppressPendingLocalWarp (point : ScreenPoint) (router : ServerInputRouter E C) :
    Bool × ServerInputRouter E C :=
  if router.mPendingLocalWarp = some point then
    (true, { router with mPendingLocalWarp := none })
  else (false, router)

variable [EntryScaling]

/-- The virtual cursor, put at the origin when it is not on the active screen. -/
def virtualCursor (router : ServerInputRouter E C) (active : VirtualScreen E) : ScreenPoint :=
  match router.mActivePoint with
  | some point => if point.key ≠ active.key then ⟨active.key, 0, 0⟩ else point
  | none => ⟨active.key, 0, 0⟩

/-- Raw motion when the backend has it, else the difference of the absolute samples. -/
def moveDelta (router : ServerInputRouter E C) (event : MouseMoveEvent) : Int × Int :=
  if event.deltaX = 0 ∧ event.deltaY = 0 then
    match router.mLastLocalMouse with
    | some last => (event.x - last.x, event.y - last.y)
    | none => (0, 0)
  else (event.deltaX, event.deltaY)

/-- The screen and pixel the topology maps a border point to, if there is one. -/
def crossingTarget (point : ScreenPoint) : Option ScreenPoint :=
  match screens.mTopology.hitEdge point with
  | none => none
  | some edge =>
    match screens.mTopology.mapEntryPoint point edge with
    | .error _ => none
    | .ok target => some target

def clampToScreen (info : ScreenInfo) (point : ScreenPoint) : ScreenPoint :=
  { point with
    x := clamp point.x 0 (max 0 (info.width - 1))
    y := clamp point.y 0 (max 0 (info.height - 1)) }

/-- The router once it has taken up a sample for the remote screen. -/
def sampledRemote (router : ServerInputRouter E C) (active : VirtualScreen E)
    (event : MouseMoveEvent) : ServerInputRouter E C :=
  { router with
    mActivePoint := some (router.virtualCursor active)
    mLastLocalMouse := some event }

/-- Where the virtual cursor would go, before crossing or clamping. -/
def nextPoint (router : ServerInputRouter E C) (active : VirtualScreen E)
    (event : MouseMoveEvent) : ScreenPoint :=
  let cursor := router.virtualCursor active
  let delta := router.moveDelta event
  { cursor with x := cursor.x + delta.1, y := cursor.y + delta.2 }

def handleRemoteMouseMove (event : MouseMoveEvent) (router : ServerInputRouter E C) :
    ServerInputRouter E C :=
  match router.activeScreen screens with
  | none => router
  | some active =>
    if active.isLocal then router
    else if router.moveDelta event = (0, 0) then router.sampledRemote active event
    else
      -- crossing is tried before clamping, so an overshoot moves into the neighbour
      match crossingTarget screens (router.nextPoint active event) with
      | some target => (router.sampledRemote active event).switchActiveScreen screens target
      | none =>
        let point := clampToScreen active.info (router.nextPoint active event)
        ({ router.sampledRemote active event with mActivePoint := some point }.queueInputForScreen
          active (moveTo point)).2

/-- The pixel of a local sample, which may be on another local monitor than the active one. -/
def localPoint (active : VirtualScreen E) (event : MouseMoveEvent) : ScreenPoint :=
  ⟨⟨active.key.ownerId, event.screenIndex⟩, event.x, event.y⟩

def sampledLocal (router : ServerInputRouter E C) (active : VirtualScreen E)
    (event : MouseMoveEvent) : ServerInputRouter E C :=
  { router with mLastLocalMouse := some event, mActivePoint := some (localPoint active event) }

def handleMouseMove (event : MouseMoveEvent) (router : ServerInputRouter E C) :
    ServerInputRouter E C :=
  match router.activeScreen screens with
  | none => router
  | some active =>
    if !active.isLocal then router.handleRemoteMouseMove screens event
    else
      let point := localPoint active event
      match (router.sampledLocal active event).suppressPendingLocalWarp point with
      | (true, router) => router
      | (false, router) =>
        match crossingTarget screens point with
        | none => router
        | some target => router.switchActiveScreen screens target

def handleInputEvent (event : InputEvent) (router : ServerInputRouter E C) :
    ServerInputRouter E C :=
  match router.tryHandleLocalHotkey screens event with
  | (true, router) => router
  | (false, router) =>
    match router.activeScreen screens with
    | some active =>
      if !active.isLocal then
        match event with
        | .mouseMove move => router.handleRemoteMouseMove screens move
        | event => (router.queueInputForScreen active (router.eventAtActivePoint screens event)).2
      else
        match event with
        | .mouseMove move => router.handleMouseMove screens move
        | _ => router
    | none =>
      match event with
      | .mouseMove move => router.handleMouseMove screens move
      | _ => router

end ServerInputRouter
end Mksync
