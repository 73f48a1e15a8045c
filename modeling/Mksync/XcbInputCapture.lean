import Mksync.ServerInputRouter
import Mksync.XcbConnection
import Mksync.XcbKeySyms
import Mksync.XcbScreens

/-!
# The X11 capture

In remote mode the capture grabs the pointer and, where it can, the keyboard for an invisible
window of its own, under a cursor without pixels. It remembers in its fields what it took, and
reads the events of its connection by asking the server for what they do not tell.
-/
namespace Mksync

def grabStatusError : GrabStatus → XcbErrc
  | .alreadyGrabbed | .frozen => .deviceOrResourceBusy
  | .invalidTime | .notViewable => .invalidArgument
  | .success | .unknown => .ioError

/-- What the platform found out when it was created. -/
structure XcbDisplay where
  mScreens : List XcbPlatform.XcbScreen := []
  mRawEventsDuringGrab : Bool := true

/-- The events of the connection that the capture tells apart. -/
inductive XEvent
  | error
  | mappingNotify (symbols : Xcb.KeySymbols)
  | motionNotify (rootX rootY : Int16)
  | button (detail : UInt8) (release : Bool) (rootX rootY : Int16)
  | key (detail : UInt8) (release : Bool)
  /-- The valuator mask and the values of its axes, each rounded by `std::lround`. -/
  | rawMotion (mask : List Bool) (values : List Int)
  | rawButton (detail : UInt32) (release : Bool)
  | rawKey (detail : UInt32) (release : Bool)
  | other

structure XcbInputCapture (S : Type) where
  mPlatform : XcbDisplay := {}
  mConnection : Option (XcbConnection S) := none
  mKeySymbols : Option Xcb.KeySymbols := none
  mHiddenCursor : Option Nat := none
  mGrabWindow : Option Nat := none
  mRemoteControlActive : Bool := false
  mPointerGrabbed : Bool := false
  mKeyboardGrabbed : Bool := false
  mLastCorePointer : Option (Int × Int) := none
  mPoller : Bool := false

/-- What comes of a new connection: the server behind it, which holds nothing for it yet, its
keyboard and a poller. -/
structure XcbOpening (S : Type) [XServer S] where
  connect : Except XcbErrc S
  keySymbols : Option Xcb.KeySymbols
  poller : Bool := true
  fresh : ∀ server, connect = .ok server → XServer.held server = {}

/-- A server that grants everything, with the pointer at a point. -/
def GrantingXServer.opening (symbols : Xcb.KeySymbols) (rootX rootY : Int16) :
    XcbOpening GrantingXServer where
  connect := .ok { rootX, rootY }
  keySymbols := some symbols
  fresh server hserver := by
    obtain rfl := Except.ok.inj hserver
    rfl

namespace XcbInputCapture

variable {S : Type} [XServer S]

/-! ### Requests -/

def onConnection {α : Type} (absent : α) (f : XcbConnection S → α × XcbConnection S)
    (capture : XcbInputCapture S) : α × XcbInputCapture S :=
  ((capture.mConnection.map fun connection => (f connection).1).getD absent,
    { capture with mConnection := capture.mConnection.map fun connection => (f connection).2 })

def ask (request : XRequest) (capture : XcbInputCapture S) : Option XReply × XcbInputCapture S :=
  capture.onConnection none (·.ask request)

def check (request : XRequest) (capture : XcbInputCapture S) :
    Except XcbErrc Unit × XcbInputCapture S :=
  capture.onConnection (.error .notConnected) (·.check request)

def flush (capture : XcbInputCapture S) : Except XcbErrc Unit × XcbInputCapture S :=
  capture.onConnection (.error .notConnected) (·.flush)

def queue (request : XRequest) (capture : XcbInputCapture S) : XcbInputCapture S :=
  (capture.onConnection () fun connection => ((), connection.queue request)).2

def generateId (capture : XcbInputCapture S) : Nat × XcbInputCapture S :=
  capture.onConnection 0 fun connection => (connection.nextId, connection.generateId)

/-! ### The grabs -/

/-- The cursor is not asked for where the rectangle could not be drawn. What it was drawn with
goes in any case. -/
def createHiddenCursor (pixmap gc : Nat) (capture : XcbInputCapture S) :
    Except XcbErrc Nat × XcbInputCapture S :=
  let (drawn, capture) := capture.check (.polyFillRectangle pixmap gc)
  let (cursor, capture) := capture.generateId
  let (result, capture) := match drawn with
    | .error error => (Except.error error, capture)
    | .ok () => capture.check (.createCursor cursor pixmap)
  let capture := (capture.queue (.freeGC gc)).queue (.freePixmap pixmap)
  match result with
  | .error error => (.error error, capture)
  | .ok () => (.ok cursor, { capture with mHiddenCursor := some cursor })

def ensureHiddenCursor (capture : XcbInputCapture S) : Except XcbErrc Nat × XcbInputCapture S :=
  match capture.mHiddenCursor with
  | some cursor => (.ok cursor, capture)
  | none =>
    let (pixmap, capture) := capture.generateId
    match capture.check (.createPixmap pixmap) with
    | (.error error, capture) => (.error error, capture)
    | (.ok (), capture) =>
      let (gc, capture) := capture.generateId
      match capture.check (.createGC gc pixmap) with
      | (.error error, capture) => (.error error, capture.queue (.freePixmap pixmap))
      | (.ok (), capture) => capture.createHiddenCursor pixmap gc

def destroyGrabWindow (capture : XcbInputCapture S) : XcbInputCapture S :=
  match capture.mGrabWindow with
  | none => capture
  | some window => { capture.queue (.destroyWindow window) with mGrabWindow := none }

def ensureGrabWindow (capture : XcbInputCapture S) : Except XcbErrc Nat × XcbInputCapture S :=
  match capture.mGrabWindow with
  | some window => (.ok window, capture)
  | none =>
    let (window, capture) := capture.generateId
    match capture.check (.createWindow window) with
    | (.error error, capture) => (.error error, capture)
    | (.ok (), capture) =>
      match capture.check (.mapWindow window) with
      | (.error error, capture) => (.error error, capture.queue (.destroyWindow window))
      | (.ok (), capture) => (.ok window, { capture with mGrabWindow := some window })

def releaseKeyboard (capture : XcbInputCapture S) : XcbInputCapture S :=
  if capture.mKeyboardGrabbed then
    { capture.queue .ungrabKeyboard with mKeyboardGrabbed := false }
  else capture

def releasePointer (capture : XcbInputCapture S) : XcbInputCapture S :=
  if capture.mPointerGrabbed then
    { capture.queue .ungrabPointer with mPointerGrabbed := false }
  else capture

/-- Whether the flush succeeds is not looked at. -/
def releaseRemoteControl (capture : XcbInputCapture S) : XcbInputCapture S :=
  match capture.mConnection with
  | none => capture
  | some _ =>
    let capture := { capture.releaseKeyboard.releasePointer.destroyGrabWindow with
      mLastCorePointer := none }
    if capture.mRemoteControlActive then (flush { capture with mRemoteControlActive := false }).2
    else capture

/-- Nothing where the pointer is on another X screen. -/
def queryPointer (capture : XcbInputCapture S) : Option (Int16 × Int16) × XcbInputCapture S :=
  let (reply, capture) := capture.ask .queryPointer
  match reply with
  | some (.pointer true rootX rootY) => (some (rootX, rootY), capture)
  | _ => (none, capture)

/-- Without the keyboard the local keys may leak, which is only logged. -/
def grabKeyboard (window : Nat) (capture : XcbInputCapture S) : XcbInputCapture S :=
  let (reply, capture) := capture.ask (.grabKeyboard window)
  if reply = some (.grab .success) then { capture with mKeyboardGrabbed := true } else capture

/-- `acquireRemoteControl` once the server granted the pointer. -/
def enterRemoteControl (window : Nat) (capture : XcbInputCapture S) :
    Except XcbErrc Unit × XcbInputCapture S :=
  let capture := grabKeyboard window { capture with mPointerGrabbed := true }
  let (pointer, capture) := queryPointer { capture with mRemoteControlActive := true }
  let capture := { capture with
    mLastCorePointer := pointer.map fun (pointer : Int16 × Int16) =>
      (pointer.1.toInt, pointer.2.toInt) }
  match capture.flush with
  | (.error error, capture) => (.error error, capture.releaseRemoteControl)
  | (.ok (), capture) => (.ok (), capture)

def acquireRemoteControl (capture : XcbInputCapture S) :
    Except XcbErrc Unit × XcbInputCapture S :=
  match capture.ensureHiddenCursor with
  | (.error error, capture) => (.error error, capture)
  | (.ok cursor, capture) =>
    match capture.ensureGrabWindow with
    | (.error error, capture) => (.error error, capture)
    | (.ok window, capture) =>
      match capture.ask (.grabPointer window cursor) with
      | (some (.grab .success), capture) => capture.enterRemoteControl window
      | (some (.grab status), capture) =>
        (.error (grabStatusError status), capture.destroyGrabWindow)
      | (_, capture) => (.error .ioError, capture.destroyGrabWindow)

def setRemoteControlActive (active : Bool) (capture : XcbInputCapture S) :
    Except XcbErrc Unit × XcbInputCapture S :=
  match capture.mConnection with
  | none => (.error .notConnected, capture)
  | some _ =>
    if active = capture.mRemoteControlActive then (.ok (), capture)
    else if !active then (.ok (), capture.releaseRemoteControl)
    else capture.acquireRemoteControl

def coordinateFits (value : Int) : Bool := -32768 ≤ value && value ≤ 32767

/-- A sum beyond `int32` does not fit either. -/
def moveLocalCursor (screenIndex : Nat) (x y : Int) (capture : XcbInputCapture S) :
    Except XcbErrc Unit × XcbInputCapture S :=
  match capture.mConnection with
  | none => (.error .notConnected, capture)
  | some _ =>
    match (XcbPlatform.localToGlobal capture.mPlatform.mScreens screenIndex x y).join with
    | none => (.error .invalidArgument, capture)
    | some global =>
      if !coordinateFits global.1 || !coordinateFits global.2 then
        (.error .invalidArgument, capture)
      else
        match capture.check (.warpPointer global.1 global.2) with
        | (.error error, capture) => (.error error, capture)
        | (.ok (), capture) => flush { capture with mLastCorePointer := some global }

/-! ### Start and end -/

def releaseConnection (capture : XcbInputCapture S) : XcbInputCapture S :=
  match capture.mConnection with
  | none => capture
  | some _ =>
    let capture := capture.releaseRemoteControl
    match capture.mHiddenCursor with
    | none => capture
    | some cursor => { capture.queue (.freeCursor cursor) with mHiddenCursor := none }

def closeConnection (capture : XcbInputCapture S) : XcbInputCapture S :=
  { releaseConnection { capture with mPoller := false } with
    mKeySymbols := none
    mConnection := none }

def selectRawInput (capture : XcbInputCapture S) : Except XcbErrc Unit × XcbInputCapture S :=
  match capture.check .selectEvents with
  | (.error error, capture) => (.error error, capture)
  | (.ok (), capture) => capture.flush

/-- `initialize`. -/
def initializeCapture (opening : XcbOpening S) (capture : XcbInputCapture S) :
    Except XcbErrc Unit × XcbInputCapture S :=
  let capture := capture.closeConnection
  match opening.connect with
  | .error error => (.error error, capture)
  | .ok server =>
    match selectRawInput { capture with mConnection := some { server } } with
    | (.error error, capture) => (.error error, capture.closeConnection)
    | (.ok (), capture) =>
      match opening.keySymbols with
      | none => (.error .notEnoughMemory, capture.closeConnection)
      | some symbols =>
        let capture := { capture with mKeySymbols := some symbols }
        if !opening.poller then (.error .ioError, capture)
        else (.ok (), { capture with mPoller := true })

def shutdown (capture : XcbInputCapture S) : XcbInputCapture S := capture.closeConnection

/-! ### Events -/

def globalToScreen (capture : XcbInputCapture S) (rootX rootY : Int16) :
    Option (Nat × Int × Int) :=
  XcbPlatform.globalToScreen capture.mPlatform.mScreens rootX.toInt32 rootY.toInt32

/-- The values are indexed among the axes whose bit is set. -/
def rawMotionLoop (values : List Int) : List Bool → Nat → Nat → Int × Int → Int × Int
  | [], _, _, delta => delta
  | false :: mask, axis, valueIndex, delta =>
    rawMotionLoop values mask (axis + 1) valueIndex delta
  | true :: mask, axis, valueIndex, delta =>
    let value := values.getD valueIndex 0
    rawMotionLoop values mask (axis + 1) (valueIndex + 1)
      (if axis = 0 then (value, delta.2) else if axis = 1 then (delta.1, value) else delta)

def rawMotionDelta (mask : List Bool) (values : List Int) : Int × Int :=
  rawMotionLoop values mask 0 0 (0, 0)

def translateCoreMouseMove (rootX rootY : Int16) (capture : XcbInputCapture S) :
    Option InputEvent × XcbInputCapture S :=
  let delta := match capture.mLastCorePointer with
    | none => (0, 0)
    | some last => (rootX.toInt - last.1, rootY.toInt - last.2)
  ((capture.globalToScreen rootX rootY).map fun found =>
      .mouseMove ⟨found.2.1, found.2.2, found.1, delta.1, delta.2⟩,
    { capture with mLastCorePointer := some (rootX.toInt, rootY.toInt) })

def screenLocalPoint (rootPoint : Option (Int16 × Int16)) (capture : XcbInputCapture S) :
    Option (Nat × Int × Int) × XcbInputCapture S :=
  let (pointer, capture) := match rootPoint with
    | some rootPoint => (some rootPoint, capture)
    | none => capture.queryPointer
  (pointer.bind fun (rootX, rootY) => capture.globalToScreen rootX rootY, capture)

/-- The buttons 4 to 7 scroll by their press. -/
def buttonEvent (detail : UInt32) (release : Bool) (screenIndex : Nat) (x y : Int) :
    Option InputEvent :=
  if 1 ≤ detail ∧ detail ≤ 3 then
    let button :=
      if detail = 1 then MouseButton.left
      else if detail = 2 then .middle
      else .right
    some (.mouseButton ⟨x, y, screenIndex, button, release⟩)
  else if 4 ≤ detail ∧ detail ≤ 7 ∧ release = false then
    some (.mouseWheel {
      x := x
      y := y
      deltaX := if detail = 6 then -120 else if detail = 7 then 120 else 0
      deltaY := if detail = 4 then 120 else if detail = 5 then -120 else 0 })
  else none

def translateButton (detail : UInt32) (release : Bool) (rootPoint : Option (Int16 × Int16))
    (capture : XcbInputCapture S) : Option InputEvent × XcbInputCapture S :=
  let (pointer, capture) := capture.screenLocalPoint rootPoint
  (pointer.bind fun (screenIndex, x, y) => buttonEvent detail release screenIndex x y, capture)

/-- One of the keys with the keysym is down. The list of its keys ends at the first zero. -/
def pressed (symbols : Xcb.KeySymbols) (keys : List UInt8) (keySym : UInt32) : Bool :=
  ((symbols.keyCodes keySym).takeWhile (· ≠ 0)).any (· ∈ keys)

/-- The modifier of each keysym, in the order of the source. -/
def modifierKeySyms : List (UInt32 × KeyModifier) :=
  [(Xcb.XK_Control_L, ⟨0x01⟩), (Xcb.XK_Control_R, ⟨0x10⟩), (Xcb.XK_Shift_L, ⟨0x02⟩),
   (Xcb.XK_Shift_R, ⟨0x20⟩), (Xcb.XK_Alt_L, ⟨0x04⟩), (Xcb.XK_Alt_R, ⟨0x40⟩),
   (Xcb.XK_Super_L, ⟨0x08⟩), (Xcb.XK_Super_R, ⟨0x80⟩)]

def modifiersOf (symbols : Xcb.KeySymbols) (keys : List UInt8) : KeyModifier :=
  modifierKeySyms.foldl (fun modifiers row =>
    if pressed symbols keys row.1 then ⟨modifiers.flags ||| row.2.flags⟩ else modifiers) .none

def currentModifiers (symbols : Xcb.KeySymbols) (capture : XcbInputCapture S) :
    KeyModifier × XcbInputCapture S :=
  let (reply, capture) := capture.ask .queryKeymap
  match reply with
  | some (.keymap keys) => (modifiersOf symbols keys, capture)
  | _ => (.none, capture)

/-- The keymap may lag the event: the flag of its own modifier is forced. -/
def keyEvent (symbols : Xcb.KeySymbols) (keyCode : UInt8) (release : Bool)
    (modifiers : KeyModifier) : KeyEvent :=
  let key := Xcb.translateKeySym (symbols.keySym keyCode)
  let modifier := keyModifierFor key
  let modifiers : KeyModifier :=
    if modifier ≠ .none then
      if release then ⟨modifiers.flags &&& ~~~modifier.flags⟩
      else ⟨modifiers.flags ||| modifier.flags⟩
    else modifiers
  { key := key
    modifiers := modifiers
    nativeCode := keyCode.toNat
    isRepeat := false
    release := release }

def translateKey (keyCode : UInt8) (release : Bool) (capture : XcbInputCapture S) :
    Option InputEvent × XcbInputCapture S :=
  match capture.mKeySymbols with
  | none => (none, capture)
  | some symbols =>
    let (modifiers, capture) := capture.currentModifiers symbols
    (some (.key (keyEvent symbols keyCode release modifiers)), capture)

def translateCoreEvent (event : XEvent) (capture : XcbInputCapture S) :
    Option InputEvent × XcbInputCapture S :=
  match event with
  | .motionNotify rootX rootY => capture.translateCoreMouseMove rootX rootY
  | .button detail release rootX rootY =>
    capture.translateButton detail.toUInt32 release (some (rootX, rootY))
  | .key detail release => capture.translateKey detail release
  | _ => (none, capture)

def translateRawEvent (event : XEvent) (capture : XcbInputCapture S) :
    Option InputEvent × XcbInputCapture S :=
  match event with
  | .rawMotion mask values =>
    let (pointer, capture) := capture.queryPointer
    let delta := rawMotionDelta mask values
    ((pointer.bind fun (rootX, rootY) => capture.globalToScreen rootX rootY).map fun found =>
      .mouseMove ⟨found.2.1, found.2.2, found.1, delta.1, delta.2⟩, capture)
  | .rawButton detail release => capture.translateButton detail release none
  | .rawKey detail release =>
    if detail > 255 then (none, capture) else capture.translateKey detail.toUInt8 release
  | _ => (none, capture)

/-- Core events are only translated in remote mode, and where the server keeps the raw ones
back during a grab. -/
def translateInput (event : XEvent) (capture : XcbInputCapture S) :
    Option InputEvent × XcbInputCapture S :=
  if capture.mRemoteControlActive && !capture.mPlatform.mRawEventsDuringGrab then
    match capture.translateCoreEvent event with
    | (some core, capture) => (some core, capture)
    | (none, capture) => capture.translateRawEvent event
  else capture.translateRawEvent event

def translateEvent (event : XEvent) (capture : XcbInputCapture S) :
    Option InputEvent × XcbInputCapture S :=
  match event with
  | .error => (none, capture)
  | .mappingNotify symbols =>
    (none, { capture with mKeySymbols := capture.mKeySymbols.map fun _ => symbols })
  | event => capture.translateInput event

/-- What happens to the capture between two calls: libxcb writes out a part of its buffer, the
connection is lost, or an event is read. -/
inductive Signal
  | write (count : Nat)
  | lose (error : ConnectionError)
  | event (event : XEvent)

def onSignal (signal : Signal) (capture : XcbInputCapture S) : XcbInputCapture S :=
  match signal with
  | .write count => (capture.onConnection () fun connection => ((), connection.write count)).2
  | .lose error => (capture.onConnection () fun connection => ((), connection.lose error)).2
  | .event event => (capture.translateEvent event).2

instance : InputCapture (XcbInputCapture S) where
  Signal := Signal
  onSignal := onSignal
  setRemoteControlActive active capture :=
    let result := capture.setRemoteControlActive active
    (result.1.isOk, result.2)
  moveLocalCursor screenIndex x y capture :=
    let result := capture.moveLocalCursor screenIndex x y
    (result.1.isOk, result.2)

end XcbInputCapture
end Mksync
