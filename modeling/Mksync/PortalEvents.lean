import Mksync.PortalInputCapture
import Mksync.EvdevKeymap
import Mksync.NearestInteger

/-!
# The events of the portal capture

libei reports in the plane of all zones, the capture queues events with a pixel of one zone.
-/
namespace Mksync

open NearestInteger

/-- libei's events. -/
inductive EiEvent
  | pointerMotion (dx dy : Rat)
  | pointerMotionAbsolute (x y : Rat)
  | button (button : UInt32) (isPress : Bool)
  | scrollDiscrete (dx dy : Int)
  | scrollDelta (dx dy : Rat)
  | keyboardKey (key : UInt32) (isPress : Bool)
  | disconnect
  deriving DecidableEq

namespace PortalPlatform

/-- `static_cast<int32_t>` of a wider integer. -/
def toInt32 (v : Int) : Int := v.bmod (2 ^ 32)

structure LocalPoint where
  screenIndex : Nat := 0
  x : Int := 0
  y : Int := 0
  deriving DecidableEq, Repr

/-- `std::clamp` on doubles. -/
def clampDouble (v lo hi : Rat) : Rat := if v < lo then lo else if hi < v then hi else v

/-- The square of the distance to the nearest pixel: it compares as `std::hypot` does. -/
def distance (screen : ScreenInfo) (x y : Rat) : Rat :=
  let localX := clampDouble x screen.x (screen.x + screen.width - 1)
  let localY := clampDouble y screen.y (screen.y + screen.height - 1)
  (x - localX) ^ 2 + (y - localY) ^ 2

/-- The second loop of `globalToLocal`. The distance is `none` as long as it is the greatest
double. -/
def bestIndex (x y : Rat) : List (ScreenInfo × Nat) → Nat → Option Rat → Nat
  | [], best, _ => best
  | (screen, index) :: rest, best, bestDistance =>
    if bestDistance.all (distance screen x y < ·) then
      bestIndex x y rest index (some (distance screen x y))
    else bestIndex x y rest best bestDistance

def contains (screen : ScreenInfo) (x y : Rat) : Bool :=
  screen.x ≤ x && screen.y ≤ y && x < screen.x + screen.width && y < screen.y + screen.height

/-- A point outside all zones belongs to the nearest one and is clamped to it. -/
def globalToLocal (mScreens : List ScreenInfo) (x y : Rat) : Option LocalPoint :=
  match mScreens.zipIdx.find? fun entry => contains entry.1 x y with
  | some (screen, index) => some ⟨index, ⌊x - screen.x⌋, ⌊y - screen.y⌋⟩
  | none =>
    let index := bestIndex x y mScreens.zipIdx 0 none
    mScreens[index]?.map fun screen =>
      ⟨index, clamp (toInt32 (lround x) - screen.x) 0 (screen.width - 1),
        clamp (toInt32 (lround y) - screen.y) 0 (screen.height - 1)⟩

theorem bestIndex_lt {mScreens : List ScreenInfo} (x y : Rat) (rest : List (ScreenInfo × Nat))
    (hrest : ∀ entry ∈ rest, entry.2 < mScreens.length) (best : Nat)
    (hbest : best < mScreens.length) (bestDistance : Option Rat) :
    bestIndex x y rest best bestDistance < mScreens.length := by
  induction rest generalizing best bestDistance with
  | nil => exact hbest
  | cons entry rest ih =>
    have hrest' : ∀ other ∈ rest, other.2 < mScreens.length :=
      fun other hother => hrest other (List.mem_cons_of_mem _ hother)
    rw [bestIndex]
    split_ifs
    · exact ih hrest' _ (hrest entry List.mem_cons_self) _
    · exact ih hrest' _ hbest _

/-- With a zone every point has a pixel. -/
theorem globalToLocal_isSome {mScreens : List ScreenInfo} (h : mScreens ≠ []) (x y : Rat) :
    (globalToLocal mScreens x y).isSome = true := by
  unfold globalToLocal
  split
  · rfl
  · have hlt := bestIndex_lt x y mScreens.zipIdx (fun entry hentry => by
      simpa using List.snd_lt_of_mem_zipIdx hentry) 0 (List.length_pos_iff.mpr h) none
    simp [List.getElem?_eq_getElem hlt]

end PortalPlatform

open PortalPlatform

/-! ### The capture and its queue -/

/-- The capture with its queue: what its `CaptureState` holds besides the position and the
activation. -/
structure PortalEventCapture extends PortalInputCapture where
  events : List InputEvent := []
  modifiers : KeyModifier := .none
  closed : Bool := false
  deriving DecidableEq

def BTN_LEFT : UInt32 := 0x110
def BTN_RIGHT : UInt32 := 0x111
def BTN_MIDDLE : UInt32 := 0x112

def pointerButton (button : UInt32) : MouseButton :=
  if button = BTN_LEFT then .left
  else if button = BTN_RIGHT then .right
  else if button = BTN_MIDDLE then .middle
  else .none

namespace PortalEventCapture

def queue (event : InputEvent) (capture : PortalEventCapture) : PortalEventCapture :=
  { capture with events := capture.events ++ [event] }

def pointerPoint (capture : PortalEventCapture) : Option LocalPoint :=
  globalToLocal capture.mScreens capture.globalX capture.globalY

/-- Queue an event at the pointer, if there is a zone. -/
def queueAtPointer (event : LocalPoint → InputEvent) (capture : PortalEventCapture) :
    PortalEventCapture :=
  match capture.pointerPoint with
  | none => capture
  | some point => capture.queue (event point)

/-- What the signal does to the position and the activation. -/
def onPortalSignal (signal : PortalInputCapture.PortalSignal) (capture : PortalEventCapture) :
    PortalEventCapture :=
  { capture with
    toPortalInputCapture := PortalInputCapture.onSignal signal capture.toPortalInputCapture }

/-- The modifiers with the one of the key put in or taken out, if it is a modifier. -/
def modifiersAfter (key : Key) (release : Bool) (modifiers : KeyModifier) : KeyModifier :=
  let modifier := keyModifierFor key
  if modifier ≠ .none then
    if release then ⟨modifiers.flags &&& ~~~modifier.flags⟩
    else ⟨modifiers.flags ||| modifier.flags⟩
  else modifiers

def processEiEvent (event : EiEvent) (capture : PortalEventCapture) : PortalEventCapture :=
  match event with
  | .pointerMotion dx dy =>
    (capture.onPortalSignal (.pointerMotion dx dy)).queueAtPointer fun point =>
      .mouseMove {
        x := point.x
        y := point.y
        screenIndex := point.screenIndex
        deltaX := toInt32 (lround dx)
        deltaY := toInt32 (lround dy) }
  | .pointerMotionAbsolute x y =>
    (capture.onPortalSignal (.pointerMotionAbsolute x y)).queueAtPointer fun point =>
      .mouseMove { x := point.x, y := point.y, screenIndex := point.screenIndex }
  | .button button isPress =>
    let button := pointerButton button
    if button = .none then capture
    else
      capture.queueAtPointer fun point =>
        .mouseButton {
          x := point.x
          y := point.y
          screenIndex := point.screenIndex
          button := button
          release := !isPress }
  | .scrollDiscrete dx dy =>
    capture.queueAtPointer fun point =>
      .mouseWheel { x := point.x, y := point.y, deltaX := dx, deltaY := -dy }
  | .scrollDelta dx dy =>
    capture.queueAtPointer fun point =>
      .mouseWheel {
        x := point.x
        y := point.y
        deltaX := toInt32 (lround (dx * 12))
        deltaY := toInt32 (lround (-dy * 12)) }
  | .keyboardKey native isPress =>
    let key := Wayland.keyFromEvdev native
    if key = .none then capture
    else
      let modifiers := modifiersAfter key (!isPress) capture.modifiers
      { capture with modifiers }.queue (.key {
        key := key
        modifiers := modifiers
        nativeCode := native.toNat
        isRepeat := false
        release := !isPress })
  | .disconnect => { capture with closed := true }

/-- `nextEvent` returns the oldest event. -/
def nextEvent (capture : PortalEventCapture) : Option (InputEvent × PortalEventCapture) :=
  match capture.events with
  | [] => none
  | event :: rest => some (event, { capture with events := rest })

/-- What the portal and libei report. -/
inductive Signal
  | activated (activationId : UInt32) (position : Option (Rat × Rat))
  | deactivated (activationId : UInt32)
  | disabled
  | zonesChanged (screens : List ScreenInfo)
  | libei (event : EiEvent)
  deriving DecidableEq

def onSignal (signal : Signal) (capture : PortalEventCapture) : PortalEventCapture :=
  match signal with
  | .activated activationId position => capture.onPortalSignal (.activated activationId position)
  | .deactivated activationId => capture.onPortalSignal (.deactivated activationId)
  | .disabled => capture.onPortalSignal .disabled
  | .zonesChanged screens => capture.onPortalSignal (.zonesChanged screens)
  | .libei event => capture.processEiEvent event

def moveLocalCursor (screenIndex : Nat) (x y : Int) (capture : PortalEventCapture) :
    Bool × PortalEventCapture :=
  let result := capture.toPortalInputCapture.moveLocalCursor screenIndex x y
  (result.1, { capture with toPortalInputCapture := result.2 })

/-- It fails without a session and does nothing else. -/
def setRemoteControlActive (_ : Bool) (capture : PortalEventCapture) :
    Bool × PortalEventCapture :=
  (capture.mSession, capture)

instance : InputCapture PortalEventCapture where
  Signal := Signal
  onSignal := onSignal
  setRemoteControlActive := setRemoteControlActive
  moveLocalCursor := moveLocalCursor

/-! ### Without its queue it is the portal capture -/

/-- The part of a signal that concerns the position and the activation. -/
def Signal.portal? : Signal → Option PortalInputCapture.PortalSignal
  | .activated activationId position => some (.activated activationId position)
  | .deactivated activationId => some (.deactivated activationId)
  | .disabled => some .disabled
  | .zonesChanged screens => some (.zonesChanged screens)
  | .libei (.pointerMotion dx dy) => some (.pointerMotion dx dy)
  | .libei (.pointerMotionAbsolute x y) => some (.pointerMotionAbsolute x y)
  | .libei _ => none

variable {capture : PortalEventCapture}

@[simp] theorem toPortalInputCapture_queueAtPointer (event : LocalPoint → InputEvent) :
    (capture.queueAtPointer event).toPortalInputCapture = capture.toPortalInputCapture := by
  unfold queueAtPointer
  split <;> rfl

@[simp] theorem modifiers_queueAtPointer (event : LocalPoint → InputEvent) :
    (capture.queueAtPointer event).modifiers = capture.modifiers := by
  unfold queueAtPointer
  split <;> rfl

theorem toPortalInputCapture_onSignal (signal : Signal) :
    (capture.onSignal signal).toPortalInputCapture =
      match signal.portal? with
      | none => capture.toPortalInputCapture
      | some signal => PortalInputCapture.onSignal signal capture.toPortalInputCapture := by
  cases signal with
  | activated | deactivated | disabled | zonesChanged => rfl
  | libei event =>
    cases event with
    | pointerMotion | pointerMotionAbsolute => exact toPortalInputCapture_queueAtPointer _
    | scrollDiscrete | scrollDelta => exact toPortalInputCapture_queueAtPointer _
    | disconnect => rfl
    | button button =>
      simp only [onSignal, processEiEvent, Signal.portal?]
      split_ifs
      · rfl
      · exact toPortalInputCapture_queueAtPointer _
    | keyboardKey =>
      simp only [onSignal, processEiEvent, Signal.portal?]
      split_ifs <;> rfl

/-! ### The keys in the queue -/

theorem nextEvent_eq_some {event : InputEvent} {capture' : PortalEventCapture}
    (h : capture.nextEvent = some (event, capture')) :
    capture.events = event :: capture'.events ∧ capture'.modifiers = capture.modifiers ∧
      capture'.toPortalInputCapture = capture.toPortalInputCapture := by
  unfold nextEvent at h
  cases hevents : capture.events with
  | nil => simp [hevents] at h
  | cons front rest =>
    simp only [hevents, Option.some.injEq, Prod.mk.injEq] at h
    obtain ⟨rfl, rfl⟩ := h
    exact ⟨rfl, rfl, rfl⟩

theorem events_queueAtPointer_ne {f : LocalPoint → InputEvent} {event : KeyEvent}
    (hf : ∀ point, f point ≠ .key event) (capture : PortalEventCapture) :
    (capture.queueAtPointer f).events ≠ capture.events ++ [.key event] := by
  unfold queueAtPointer
  split
  · simp
  · simpa [queue] using hf _

/-- A key event is queued for a key of libei that is mapped, with the modifiers after it. -/
theorem queued_key {signal : Signal} {event : KeyEvent}
    (h : (capture.onSignal signal).events = capture.events ++ [.key event]) :
    ∃ native isPress, signal = .libei (.keyboardKey native isPress) ∧
      Wayland.keyFromEvdev native ≠ .none ∧
      event.modifiers = (capture.onSignal signal).modifiers := by
  cases signal with
  | activated | deactivated | disabled | zonesChanged =>
    simp [onSignal, onPortalSignal] at h
  | libei libei =>
    cases libei with
    | pointerMotion dx dy =>
      exact absurd h (events_queueAtPointer_ne (fun _ => InputEvent.noConfusion)
        (capture.onPortalSignal (.pointerMotion dx dy)))
    | pointerMotionAbsolute x y =>
      exact absurd h (events_queueAtPointer_ne (fun _ => InputEvent.noConfusion)
        (capture.onPortalSignal (.pointerMotionAbsolute x y)))
    | scrollDiscrete | scrollDelta =>
      exact absurd h (events_queueAtPointer_ne (fun _ => InputEvent.noConfusion) capture)
    | disconnect => simp [onSignal, processEiEvent] at h
    | button button =>
      simp only [onSignal, processEiEvent] at h
      split_ifs at h
      · simp at h
      · exact absurd h (events_queueAtPointer_ne (fun _ => InputEvent.noConfusion) capture)
    | keyboardKey native isPress =>
      refine ⟨native, isPress, rfl, ?_⟩
      simp only [onSignal, processEiEvent] at h ⊢
      split_ifs at h with hnone
      · simp at h
      · have hevent := InputEvent.key.inj (List.singleton_inj.mp (List.append_cancel_left h))
        rw [if_neg hnone]
        exact ⟨hnone, hevent ▸ rfl⟩

end PortalEventCapture
end Mksync
