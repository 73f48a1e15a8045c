import Mksync.ServerRuns

/-!
# Typing at home

Keys, buttons and the wheel belong to the active screen. While that is a local one they are
the local user's: the router takes no notice of them, so that nothing it does later depends
on what was typed.
-/
namespace Mksync

open TransitionRuns

/-- A call of the router to the platform's capture. -/
inductive CaptureCall
  | setRemoteControlActive (active : Bool)
  | moveLocalCursor (screenIndex : Nat) (x y : Int)
  deriving DecidableEq

/-- A capture together with the calls made to it, oldest first. -/
structure CallLog (C : Type) where
  inner : C
  calls : List CaptureCall := []
  deriving DecidableEq

instance {C : Type} [InputCapture C] : InputCapture (CallLog C) where
  Signal := InputCapture.Signal C
  onSignal signal log := { log with inner := InputCapture.onSignal signal log.inner }
  setRemoteControlActive active log :=
    let result := InputCapture.setRemoteControlActive active log.inner
    (result.1, ⟨result.2, log.calls ++ [.setRemoteControlActive active]⟩)
  moveLocalCursor screenIndex x y log :=
    let result := InputCapture.moveLocalCursor screenIndex x y log.inner
    (result.1, ⟨result.2, log.calls ++ [.moveLocalCursor screenIndex x y]⟩)

/-- Everything but the movement of the mouse. -/
def InputEvent.isTyping : InputEvent → Bool
  | .key _ | .mouseButton _ | .mouseWheel _ => true
  | .mouseMove _ => false

namespace ServerInputRouter

section Typing

variable {E C : Type} [Endpoint E] [InputCapture C] [EntryScaling]
  {screens : ServerScreenStore E} {router : ServerInputRouter E C} {event : InputEvent}

/-- The events are handled one after another. -/
def handleInputEvents (screens : ServerScreenStore E) (router : ServerInputRouter E C)
    (events : List InputEvent) : ServerInputRouter E C :=
  events.foldl (fun router event => router.handleInputEvent screens event) router

/-- A key, a button or the wheel while the active screen is local or absent. -/
def localTyping (screens : ServerScreenStore E) (router : ServerInputRouter E C)
    (event : InputEvent) : Bool :=
  event.isTyping && !router.remoteActive screens

/-- The events without those that are local typing where they are handled. -/
def withoutLocalTyping (screens : ServerScreenStore E) (router : ServerInputRouter E C)
    (events : List InputEvent) : List InputEvent :=
  unstuttered (fun router event => router.handleInputEvent screens event) (localTyping screens)
    router events

theorem handleInputEvents_append (before after : List InputEvent) :
    router.handleInputEvents screens (before ++ after) =
      (router.handleInputEvents screens before).handleInputEvents screens after :=
  List.foldl_append

/-- Local typing leaves the router as it is. -/
theorem handleInputEvent_of_localTyping (h : localTyping screens router event = true) :
    router.handleInputEvent screens event = router := by
  unfold localTyping at h
  obtain ⟨htyping, haway⟩ := Bool.and_eq_true_iff.mp h
  have hhome : ∀ screen, router.activeScreen screens = some screen → screen.isLocal = true := by
    intro screen hactive
    rw [remoteActive_of_active hactive] at haway
    simpa using haway
  have hnoMove : ∀ move, event ≠ .mouseMove move := by
    rintro move rfl
    cases htyping
  have hhandled := handleInputEvent_handled screens router event
  generalize router.handleInputEvent screens event = router' at hhandled
  cases hhandled with
  | idle | home => rfl
  | failSafe active remote | forwarded active remote | rested active remote
  | crossed active remote | clamped active remote =>
    rw [hhome _ active] at remote
    cases remote
  | echoed | stayed | left => exact absurd rfl (hnoMove _)

/-- Events that differ in local typing only fill the queues, call the capture and leave the
router alike; and a key that is handled at home is enqueued for nobody, then or later. -/
theorem local_typing_leaves_no_trace (screens : ServerScreenStore E)
    (router : ServerInputRouter E (CallLog C)) {events events' : List InputEvent}
    (h : router.withoutLocalTyping screens events = router.withoutLocalTyping screens events') :
    ((∀ endpoint, ((router.handleInputEvents screens events).mSenders.find? endpoint).map
          Channel.enqueued =
        ((router.handleInputEvents screens events').mSenders.find? endpoint).map
          Channel.enqueued) ∧
      (router.handleInputEvents screens events).mCapture.map CallLog.calls =
        (router.handleInputEvents screens events').mCapture.map CallLog.calls ∧
      router.handleInputEvents screens events = router.handleInputEvents screens events') ∧
    ∀ before key after, events = before ++ .key key :: after →
      (router.handleInputEvents screens before).remoteActive screens = false →
      (router.handleInputEvents screens (before ++ [.key key])).mSenders =
        (router.handleInputEvents screens before).mSenders ∧
      router.handleInputEvents screens events =
        router.handleInputEvents screens (before ++ after) := by
  have hsame : router.handleInputEvents screens events =
      router.handleInputEvents screens events' :=
    foldl_eq_of_unstuttered_eq (fun _ _ => handleInputEvent_of_localTyping) h
  refine ⟨⟨fun endpoint => by rw [hsame], by rw [hsame], hsame⟩, ?_⟩
  rintro before key after rfl hhome
  have htyping :
      localTyping screens (router.handleInputEvents screens before) (.key key) = true := by
    unfold localTyping
    rw [hhome]
    rfl
  have hkey := handleInputEvent_of_localTyping htyping
  constructor
  · rw [handleInputEvents_append]
    exact congrArg mSenders hkey
  · rw [handleInputEvents_append, handleInputEvents_append]
    exact congrArg (fun router => router.handleInputEvents screens after) hkey

end Typing

/-! ### A visit with and without typing at home -/

/-- One local screen and a guest to the right of it. -/
def deskAndGuest : Server IPv4Endpoint (CallLog MockInputCapture) :=
  (Server.start (loopback 24800) { machineId := "desk" } "" ⟨{}, []⟩).registerLocalScreens
    [deskMonitor]
  |>.setSenders (OrderedMap.empty.insertOrAssign (loopback 1001) {})
  |>.registerScreens (loopback 1001) "m" [sideMonitor] false

def crossToGuest : InputEvent := .mouseMove { x := 1919, y := 500 }

/-- Typing at home, a key for the guest, the fail-safe, and typing at home again. -/
theorem local_typing_leaves_no_trace_visit :
    deskAndGuest.mInput.handleInputEvents deskAndGuest.mScreens
        [.key { key := .a }, .mouseWheel { deltaY := 1 }, crossToGuest, .key { key := .a },
          .key { key := .f12 }, .key { key := .f12 }, .mouseButton { button := .left }] =
      deskAndGuest.mInput.handleInputEvents deskAndGuest.mScreens
        [crossToGuest, .key { key := .a }, .key { key := .f12 }] :=
  (local_typing_leaves_no_trace deskAndGuest.mScreens deskAndGuest.mInput (by decide +kernel)).1.2.2

end ServerInputRouter
end Mksync
