import Mksync.AbsoluteSamples
import Mksync.CheckedIntegers
import Mksync.PortalEvents
import Mathlib.Algebra.Order.Group.Unbundled.Abs
import Mathlib.Algebra.BigOperators.Group.List.Basic
import Mathlib.Algebra.Group.Prod

/-!
# Relative motion through the portal

The capture rounds each motion by itself, and the router moves the remote cursor by what was
rounded. Where both deltas round to zero it falls back to the difference of two pixels, which
follows the exact position only as long as that position is inside a zone.
-/
namespace Mksync

open TransitionRuns PortalPlatform NearestInteger CheckedIntegers

/-! ### What the router makes of a motion -/

abbrev Motion := Rat × Rat

namespace Motion

/-- The deltas of the event. -/
def rounded (motion : Motion) : Int × Int :=
  (toInt32 (lround motion.1), toInt32 (lround motion.2))

/-- The pixel of a position, relative to its zone. -/
def localPoint (zones : List ScreenInfo) (position : Rat × Rat) : LocalPoint :=
  (globalToLocal zones position.1 position.2).getD {}

def pixelAt (zones : List ScreenInfo) (position : Rat × Rat) : Int × Int :=
  ((localPoint zones position).x, (localPoint zones position).y)

/-- The event of a motion that leads to the position. -/
def event (zones : List ScreenInfo) (position : Rat × Rat) (motion : Motion) : MouseMoveEvent where
  x := (localPoint zones position).x
  y := (localPoint zones position).y
  screenIndex := (localPoint zones position).screenIndex
  deltaX := motion.rounded.1
  deltaY := motion.rounded.2

/-- The rounded deltas or, where both are zero, the way from the last pixel to the one of the
position. -/
def reading (zones : List ScreenInfo) (last : Option (Int × Int)) (position : Rat × Rat)
    (motion : Motion) : Int × Int :=
  if motion.rounded = (0, 0) then
    match last with
    | none => (0, 0)
    | some last => pixelAt zones position - last
  else motion.rounded

/-- How far the reading is ahead of the motion. -/
def lead (zones : List ScreenInfo) (last : Option (Int × Int)) (position : Rat × Rat)
    (motion : Motion) : Rat × Rat :=
  ((reading zones last position motion).1 - motion.1,
    (reading zones last position motion).2 - motion.2)

/-- The events of motions that start at the position. -/
def events (zones : List ScreenInfo) : Rat × Rat → List Motion → List MouseMoveEvent
  | _, [] => []
  | position, motion :: rest =>
    motion.event zones (position + motion) :: events zones (position + motion) rest

/-- The leads of motions that start at the position, added up. -/
def drift (zones : List ScreenInfo) : Option (Int × Int) → Rat × Rat → List Motion → Rat × Rat
  | _, _, [] => 0
  | last, position, motion :: rest =>
    motion.lead zones last (position + motion) +
      drift zones (some (pixelAt zones (position + motion))) (position + motion) rest

/-- The last pixel after the motions. -/
def lastPixel (zones : List ScreenInfo) (last : Option (Int × Int)) (position : Rat × Rat)
    (motions : List Motion) : Option (Int × Int) :=
  if motions = [] then last else some (pixelAt zones (position + motions.sum))

variable {zones : List ScreenInfo} {last : Option (Int × Int)} {position : Rat × Rat}

theorem events_append (position : Rat × Rat) (done rest : List Motion) :
    events zones position (done ++ rest) =
      events zones position done ++ events zones (position + done.sum) rest := by
  induction done generalizing position with
  | nil => simp [events]
  | cons motion done ih =>
    rw [List.cons_append, events, ih, events, List.cons_append, List.sum_cons, add_assoc]

theorem drift_concat (last : Option (Int × Int)) (position : Rat × Rat) (done : List Motion)
    (motion : Motion) : drift zones last position (done ++ [motion]) =
      drift zones last position done + motion.lead zones (lastPixel zones last position done)
        (position + done.sum + motion) := by
  induction done generalizing last position with
  | nil => simp [drift, lastPixel]
  | cons first done ih =>
    have hlast : lastPixel zones (some (pixelAt zones (position + first))) (position + first) done =
        lastPixel zones last position (first :: done) := by
      unfold lastPixel
      cases done with
      | nil => simp
      | cons => simp [add_assoc]
    have hposition : position + first + done.sum = position + (first + done.sum) := add_assoc _ _ _
    rw [List.cons_append, drift, ih, drift, hlast, List.sum_cons, hposition]
    exact (add_assoc _ _ _).symm

end Motion

namespace PortalEventCapture

variable {capture : PortalEventCapture}

/-- The queue holds the events of the motions, which led from the position to where the capture
is now. -/
structure Awaits (capture : PortalEventCapture) (position : Rat × Rat) (motions : List Motion) :
    Prop where
  events : capture.events = (Motion.events capture.mScreens position motions).map .mouseMove
  reached : (capture.globalX, capture.globalY) = position + motions.sum

/-- With a zone every motion becomes an event. -/
theorem processEiEvent_pointerMotion (hzones : capture.mScreens ≠ []) (motion : Motion) :
    capture.processEiEvent (.pointerMotion motion.1 motion.2) = { capture with
      globalX := capture.globalX + motion.1
      globalY := capture.globalY + motion.2
      events := capture.events ++ [.mouseMove
        (motion.event capture.mScreens ((capture.globalX, capture.globalY) + motion))] } := by
  obtain ⟨point, hpoint⟩ := Option.isSome_iff_exists.mp (globalToLocal_isSome hzones
    (capture.globalX + motion.1) (capture.globalY + motion.2))
  have hmoved : (capture.onPortalSignal (.pointerMotion motion.1 motion.2)).pointerPoint =
      some point := hpoint
  have hlocal : Motion.localPoint capture.mScreens
      ((capture.globalX, capture.globalY) + motion) = point := by
    rw [Motion.localPoint, Prod.fst_add, Prod.snd_add, hpoint]
    rfl
  rw [processEiEvent, queueAtPointer, hmoved, Motion.event, hlocal]
  rfl

theorem Awaits.pointerMotion {position : Rat × Rat} {motions : List Motion}
    (h : capture.Awaits position motions) (hzones : capture.mScreens ≠ []) (motion : Motion) :
    (capture.processEiEvent (.pointerMotion motion.1 motion.2)).Awaits position
      (motions ++ [motion]) := by
  rw [processEiEvent_pointerMotion hzones]
  refine ⟨?_, ?_⟩
  · simp only [h.events, h.reached, Motion.events_append, Motion.events, List.map_append,
      List.map_cons, List.map_nil]
  · rw [List.sum_append, List.sum_singleton, ← add_assoc, ← h.reached]
    rfl

/-- The next event is the one of the first motion waited for. -/
theorem Awaits.nextEvent {position : Rat × Rat} {motions : List Motion} {event : InputEvent}
    {capture' : PortalEventCapture} (h : capture.Awaits position motions)
    (hnext : capture.nextEvent = some (event, capture')) :
    ∃ motion rest, motions = motion :: rest ∧
      event = .mouseMove (motion.event capture.mScreens (position + motion)) ∧
      capture'.mScreens = capture.mScreens ∧ capture'.Awaits (position + motion) rest := by
  obtain ⟨hevents, _, hsame⟩ := nextEvent_eq_some hnext
  have hscreens : capture'.mScreens = capture.mScreens := by rw [hsame]
  cases motions with
  | nil => simp [h.events, Motion.events] at hevents
  | cons motion rest =>
    rw [h.events, Motion.events, List.map_cons, List.cons.injEq] at hevents
    refine ⟨motion, rest, rfl, hevents.1.symm, hscreens, ?_, ?_⟩
    · rw [← hevents.2, hscreens]
    · rw [hsame, h.reached, List.sum_cons, add_assoc]

end PortalEventCapture

/-! ### The server behind the portal -/

namespace PortalHost

open ServerInputRouter

variable {E : Type} [Endpoint E]

/-- The server's input comes out of the capture's queue: `next` is a turn of its input loop. -/
inductive Action (E : Type)
  | host (action : Mksync.Action E PortalEventCapture)
  | next

abbrev State (E : Type) [LinearOrder E] := Host E PortalEventCapture

def withCapture (host : State E) (capture : PortalEventCapture) : State E :=
  host.withServer fun server =>
    { server with mInput := { server.mInput with mCapture := some capture } }

/-- The oldest event, and the host without it. -/
def taken (host : State E) : Option (InputEvent × State E) := do
  let capture ← host.server.mInput.mCapture
  let (event, capture) ← capture.nextEvent
  return (event, withCapture host capture)

variable [EntryScaling]

def step (host : State E) : Action E → Option (State E)
  | .host (.captured _) => none
  | .host action => host.step action
  | .next => do
    let (event, host) ← taken host
    host.step (.captured event)

omit [EntryScaling] in
theorem taken_eq_some {host before : State E} {event : InputEvent}
    (h : taken host = some (event, before)) : ∃ capture capture',
    host.server.mInput.mCapture = some capture ∧ capture.nextEvent = some (event, capture') ∧
      before = withCapture host capture' := by
  obtain ⟨capture, hcapture, hrest⟩ := Option.bind_eq_some_iff.mp h
  obtain ⟨⟨first, capture'⟩, hnext, hpair⟩ := Option.bind_eq_some_iff.mp hrest
  obtain ⟨rfl, rfl⟩ := Prod.mk.inj (Option.some.inj hpair)
  exact ⟨capture, capture', hcapture, hnext, rfl⟩

theorem step_next {host host' : State E} (h : step host .next = some host') :
    ∃ event before, taken host = some (event, before) ∧
      before.step (.captured event) = some host' := by
  obtain ⟨⟨event, before⟩, htaken, hstep⟩ := Option.bind_eq_some_iff.mp h
  exact ⟨event, before, htaken, hstep⟩

/-- A move that is taken neither crosses a border nor is clamped. -/
def MovesFreely (host : State E) : Action E → State E → Prop
  | .host _, _ => True
  | .next, host' => ∀ turn ∈ taken host, Host.MovesFreely turn.2 (.captured turn.1) host'

instance (host : State E) (a : Action E) (host' : State E) : Decidable (MovesFreely host a host') :=
  match a with
  | .host _ => isTrue trivial
  | .next => inferInstanceAs (Decidable (∀ turn ∈ taken host, _))

/-- libei reports a motion, or the server takes an event. -/
inductive Turn
  | reported (motion : Motion)
  | next
  deriving DecidableEq

def Turn.action : Turn → Action E
  | .reported motion =>
    .host (.signal (PortalEventCapture.Signal.libei (.pointerMotion motion.1 motion.2)))
  | .next => .next

def Turn.motion? : Turn → Option Motion
  | .reported motion => some motion
  | .next => none

/-- The motions whose events were taken, of those waiting at first and those of the turns. -/
def handled (pending : List Motion) (turns : List Turn) : List Motion :=
  (pending ++ turns.filterMap Turn.motion?).take (turns.count .next)

def lastSamplePixel (host : State E) : Option (Int × Int) :=
  host.server.mInput.mLastLocalMouse.map fun move => (move.x, move.y)

omit [EntryScaling] in
theorem moveDelta_event (router : ServerInputRouter E PortalEventCapture)
    (zones : List ScreenInfo) (position : Rat × Rat) (motion : Motion) :
    router.moveDelta (motion.event zones position) =
      motion.reading zones (router.mLastLocalMouse.map fun move => (move.x, move.y)) position := by
  have hzero : motion.rounded = (0, 0) ↔ motion.rounded.1 = 0 ∧ motion.rounded.2 = 0 := Prod.ext_iff
  unfold moveDelta Motion.reading
  simp only [Motion.event, hzero]
  cases router.mLastLocalMouse <;> rfl

section Following

variable {zones : List ScreenInfo} {last : Option (Int × Int)} {position : Rat × Rat}
  {origin : ScreenPoint} {screen : VirtualScreen E} {done rest : List Motion}
  {host host' : State E}

/-- The remote cursor has followed the motions that are done, the others wait in the queue. -/
structure Following (zones : List ScreenInfo) (last : Option (Int × Int)) (position : Rat × Rat)
    (origin : ScreenPoint) (screen : VirtualScreen E) (done rest : List Motion) (host : State E) :
    Prop where
  active : host.server.mInput.activeScreen host.server.mScreens = some screen
  point : ∃ point, host.server.mInput.mActivePoint = some point ∧ point.key = screen.key ∧
    (((point.x - origin.x : Int) : Rat), ((point.y - origin.y : Int) : Rat)) =
      done.sum + Motion.drift zones last position done
  sampled : lastSamplePixel host = Motion.lastPixel zones last position done
  waiting : ∃ capture, host.server.mInput.mCapture = some capture ∧ capture.mScreens = zones ∧
    capture.Awaits (position + done.sum) rest

theorem Following.reported (h : Following zones last position origin screen done rest host)
    (hzones : zones ≠ []) {motion : Motion}
    (hstep : step host (Turn.reported motion).action = some host') :
    Following zones last position origin screen done (rest ++ [motion]) host' := by
  obtain ⟨capture, hcapture, rfl, hawaits⟩ := h.waiting
  have hserver : host.withServer (Server.onSignal
      (PortalEventCapture.Signal.libei (.pointerMotion motion.1 motion.2))) = host' :=
    Option.some.inj hstep
  have hmoved : host'.server.mInput.mCapture =
      some (capture.processEiEvent (.pointerMotion motion.1 motion.2)) := by
    rw [← hserver]
    simp only [Host.withServer, Server.onSignal, hcapture]
    rfl
  subst hserver
  refine ⟨h.active, h.point, h.sampled, _, hmoved, ?_, hawaits.pointerMotion hzones motion⟩
  rw [PortalEventCapture.processEiEvent_pointerMotion hzones]

theorem Following.next (h : Following zones last position origin screen done rest host)
    (remote : screen.isLocal = false) (hfree : MovesFreely host .next host')
    (hstep : step host .next = some host') : ∃ motion rest', rest = motion :: rest' ∧
      Following zones last position origin screen (done ++ [motion]) rest' host' := by
  obtain ⟨capture, hcapture, rfl, hawaits⟩ := h.waiting
  obtain ⟨point, hpoint, hkey, hmoved⟩ := h.point
  obtain ⟨event, before, htaken, hhandled⟩ := step_next hstep
  obtain ⟨capture₁, capture', hcapture₁, hnext, rfl⟩ := taken_eq_some htaken
  obtain rfl := Option.some.inj (hcapture.symm.trans hcapture₁)
  obtain ⟨motion, rest', rfl, rfl, hscreens, hrest⟩ := hawaits.nextEvent hnext
  refine ⟨motion, rest', rfl, ?_⟩
  have hunobstructed := hfree _ htaken _ rfl
  obtain rfl : (withCapture host capture').withServer (Server.handleInputEvent _) = host' :=
    Option.some.inj hhandled
  obtain ⟨hactive, hsampled, hkept, hat⟩ := (handleInputEvent_handled host.server.mScreens
    (withCapture host capture').server.mInput _).unobstructed h.active remote hpoint hkey
      hunobstructed
  have hreading : (withCapture host capture').server.mInput.moveDelta
      (motion.event capture.mScreens (position + done.sum + motion)) =
        motion.reading capture.mScreens (Motion.lastPixel capture.mScreens last position done)
          (position + done.sum + motion) := by
    rw [moveDelta_event, ← h.sampled]
    rfl
  rw [hreading] at hat
  refine ⟨hactive, ⟨_, hat, hkey, ?_⟩, ?_, capture', hkept, hscreens, ?_⟩
  · rw [List.sum_append, List.sum_singleton, Motion.drift_concat]
    obtain ⟨hx, hy⟩ := Prod.ext_iff.mp hmoved
    simp only [Prod.fst_add, Prod.snd_add] at hx hy
    push_cast at hx hy ⊢
    apply Prod.ext
    · simp only [Motion.lead, Prod.fst_add]
      linarith
    · simp only [Motion.lead, Prod.snd_add]
      linarith
  · rw [lastSamplePixel, Motion.lastPixel, if_neg (by simp), List.sum_append, List.sum_singleton,
      ← add_assoc]
    exact congrArg (Option.map _) hsampled
  · rw [List.sum_append, List.sum_singleton, ← add_assoc]
    exact hrest

/-- After any turns the motions are those the cursor has followed and those that wait. -/
theorem Following.run {pending : List Motion}
    (h : Following zones last position origin screen [] pending host) (hzones : zones ≠ [])
    (remote : screen.isLocal = false) {turns : List Turn}
    (hrun : Run step MovesFreely host (turns.map Turn.action) host') :
    ∃ done rest, pending ++ turns.filterMap Turn.motion? = done ++ rest ∧
      done.length = turns.count .next ∧
      Following zones last position origin screen done rest host' := by
  induction turns using List.reverseRecOn generalizing host' with
  | nil =>
    obtain rfl := hrun.of_nil
    exact ⟨[], pending, by simp, rfl, h⟩
  | append_singleton turns turn ih =>
    rw [List.map_append] at hrun
    obtain ⟨before, hbefore, hstep, hfree⟩ := hrun.of_concat
    obtain ⟨done, rest, hsplit, hcount, hfollowing⟩ := ih hbefore
    cases turn with
    | reported motion =>
      refine ⟨done, rest ++ [motion], ?_, ?_, hfollowing.reported hzones hstep⟩
      · rw [List.filterMap_append, ← List.append_assoc, hsplit, List.append_assoc]
        rfl
      · simpa using hcount
    | next =>
      obtain ⟨motion, rest', rfl, hnext⟩ := hfollowing.next remote hfree hstep
      have hnone : [Turn.next].filterMap Turn.motion? = [] := rfl
      refine ⟨done ++ [motion], rest', ?_, ?_, hnext⟩
      · rw [List.filterMap_append, hnone, List.append_nil, hsplit, List.append_assoc]
        rfl
      · simpa using hcount

/-- The motions that were handled are the ones the cursor has followed. -/
theorem Following.handled_run {pending : List Motion}
    (h : Following zones last position origin screen [] pending host) (hzones : zones ≠ [])
    (remote : screen.isLocal = false) {turns : List Turn}
    (hrun : Run step MovesFreely host (turns.map Turn.action) host') :
    ∃ rest, Following zones last position origin screen (handled pending turns) rest host' := by
  obtain ⟨done, rest, hsplit, hcount, hfollowing⟩ := h.run hzones remote hrun
  have hdone : handled pending turns = done := by
    rw [handled, hsplit, ← hcount, List.take_left]
  exact ⟨rest, hdone ▸ hfollowing⟩

end Following

/-! ### From any reachable state -/

section Runs

variable {server : E} {config : AppConfig} {configPath : String}
  {capture fresh : PortalEventCapture} {as : List (Action E)} {host host' : State E}
  {screen : VirtualScreen E} {position : Rat × Rat} {pending : List Motion} {turns : List Turn}

/-- Between the steps: the pointer is valid, and the point is on the active remote screen. -/
structure Placed (host : State E) : Prop where
  pointer : PointerValid host.server.mScreens host.server.mInput
  point : PointOnRemote host.server.mScreens host.server.mInput

theorem Placed.stepped {action : Mksync.Action E PortalEventCapture} (h : Placed host)
    (hs : host.Stepped action host') : Placed host' :=
  ⟨Host.pointerValid_step h.pointer hs, hs.pointOnRemote h.pointer h.point⟩

theorem Placed.step {a : Action E} (h : Placed host) (hstep : step host a = some host') :
    Placed host' := by
  cases a with
  | next =>
    obtain ⟨event, before, htaken, hhandled⟩ := step_next hstep
    obtain ⟨_, capture', _, _, rfl⟩ := taken_eq_some htaken
    have htaken : Placed (withCapture host capture') := ⟨h.pointer.congr rfl, h.point.congr rfl rfl⟩
    exact htaken.stepped (Host.step_stepped hhandled)
  | host action =>
    have hnext : host.step action = some host' := by
      cases action with
      | captured => cases hstep
      | _ => exact hstep
    exact h.stepped (Host.step_stepped hnext)

theorem run_placed {guard : State E → Action E → State E → Prop}
    (h : Run PortalHost.step guard (Host.start server config configPath fresh) as host) :
    Placed host := by
  have hstart : Run Host.step unguarded (Host.start server config configPath fresh) [] _ := .refl _
  apply h.invariant Placed (fun _ _ _ hs _ hnext => hs.step hnext)
  exact ⟨Host.run_pointerValid hstart, Host.pointOnRemote_start server config configPath fresh⟩

omit [EntryScaling] in
theorem following_start {point : ScreenPoint}
    (active : host.server.mInput.activeScreen host.server.mScreens = some screen)
    (hpoint : host.server.mInput.mActivePoint = some point) (hkey : point.key = screen.key)
    (hcapture : host.server.mInput.mCapture = some capture)
    (hpending : capture.Awaits position pending) :
    Following capture.mScreens (lastSamplePixel host) position point screen [] pending host := by
  refine ⟨active, ⟨point, hpoint, hkey, ?_⟩, rfl, capture, hcapture, rfl, ?_⟩
  · simp [Motion.drift]
  · simpa using hpending

/-- The displacement is within one pixel of what libei reported, on both axes. -/
def Conserved (point point' : ScreenPoint) (motions : List Motion) : Prop :=
  |((point'.x - point.x : Int) : Rat) - motions.sum.1| < 1 ∧
    |((point'.y - point.y : Int) : Rat) - motions.sum.2| < 1

/-- The displacement of the cursor is the sum of the motions handled and their leads. -/
theorem displacement_eq
    (hreach : Run PortalHost.step unguarded (Host.start server config configPath fresh) as host)
    (active : host.server.mInput.activeScreen host.server.mScreens = some screen)
    (remote : screen.isLocal = false) (hcapture : host.server.mInput.mCapture = some capture)
    (hzones : capture.mScreens ≠ []) (hpending : capture.Awaits position pending)
    (hrun : Run PortalHost.step MovesFreely host (turns.map Turn.action) host') :
    ∃ point point', host.server.mInput.mActivePoint = some point ∧
      host'.server.mInput.mActivePoint = some point' ∧
      (((point'.x - point.x : Int) : Rat), ((point'.y - point.y : Int) : Rat)) =
        (handled pending turns).sum + Motion.drift capture.mScreens (lastSamplePixel host) position
          (handled pending turns) := by
  obtain ⟨point, hpoint, hkey⟩ := (run_placed hreach).point screen active remote
  obtain ⟨_, hfollowing⟩ := (following_start active hpoint hkey hcapture hpending).handled_run
    hzones remote hrun
  obtain ⟨point', hpoint', _, hmoved⟩ := hfollowing.point
  exact ⟨point, point', hpoint, hpoint', hmoved⟩

/-- From any reachable state with a remote screen active, over any turns in which libei reports
motions and the server takes their events without crossing or clamping: the displacement of the
remote cursor is within one pixel of the motions handled if and only if their readings lead by
less than one pixel. -/
theorem relative_motion_conserved_iff
    (hreach : Run PortalHost.step unguarded (Host.start server config configPath fresh) as host)
    (active : host.server.mInput.activeScreen host.server.mScreens = some screen)
    (remote : screen.isLocal = false) (hcapture : host.server.mInput.mCapture = some capture)
    (hzones : capture.mScreens ≠ []) (hpending : capture.Awaits position pending)
    (hrun : Run PortalHost.step MovesFreely host (turns.map Turn.action) host') :
    ∃ point point', host.server.mInput.mActivePoint = some point ∧
      host'.server.mInput.mActivePoint = some point' ∧
      (Conserved point point' (handled pending turns) ↔
        |(Motion.drift capture.mScreens (lastSamplePixel host) position
            (handled pending turns)).1| < 1 ∧
        |(Motion.drift capture.mScreens (lastSamplePixel host) position
            (handled pending turns)).2| < 1) := by
  obtain ⟨point, point', hpoint, hpoint', hmoved⟩ := displacement_eq hreach active remote hcapture
    hzones hpending hrun
  obtain ⟨hx, hy⟩ := Prod.ext_iff.mp hmoved
  refine ⟨point, point', hpoint, hpoint', ?_⟩
  simp only [Prod.fst_add, Prod.snd_add] at hx hy
  rw [Conserved, hx, hy, add_sub_cancel_left, add_sub_cancel_left]

end Runs

end PortalHost

/-! ### A slow hand -/

namespace PortalHost

/-- A server behind the portal with one monitor. -/
def portalDesk : State IPv4Endpoint :=
  .start (loopback 24800) { machineId := "desk" } "" { mScreens := [deskMonitor] }

/-- A guest to the right of the monitor. The portal is activated at the border, and the cursor
enters the guest's screen. -/
def guestEntered : List (Action IPv4Endpoint) :=
  [.host (.registerLocal [deskMonitor]), .host (.accept (loopback 1001)),
   .host (.receive (loopback 1001) (.hello { machineId := "m" })),
   .host (.publish (loopback 1001)), .host (.receive (loopback 1001) (.screens ⟨[sideMonitor]⟩)),
   .host (.signal (PortalEventCapture.Signal.activated 1 (some (1919, 500)))),
   .host (.signal (PortalEventCapture.Signal.libei (.pointerMotionAbsolute 1919 500))), .next]

/-- The remote screen is active, and the capture is at its last sample with an empty queue. -/
def entered (host : State IPv4Endpoint) : Bool :=
  (host.server.mInput.activeScreen host.server.mScreens).any (!·.isLocal) &&
  decide (lastSamplePixel host = some (1919, 500)) &&
  host.server.mInput.mCapture.any fun capture : PortalEventCapture =>
    decide (capture.mScreens = [deskMonitor] ∧ capture.events = [] ∧
      (capture.globalX, capture.globalY) = (1919, 500))

theorem entered_spec {host : State IPv4Endpoint} (h : entered host = true) :
    ∃ screen capture, host.server.mInput.activeScreen host.server.mScreens = some screen ∧
      screen.isLocal = false ∧ lastSamplePixel host = some (1919, 500) ∧
      host.server.mInput.mCapture = some capture ∧ capture.mScreens = [deskMonitor] ∧
      capture.Awaits (1919, 500) [] := by
  simp only [entered, Bool.and_eq_true, decide_eq_true_eq, Option.any_eq_true,
    Bool.not_eq_true'] at h
  obtain ⟨⟨⟨screen, active, remote⟩, hlast⟩, capture, hcapture, hscreens, hevents, hat⟩ := h
  refine ⟨screen, capture, active, remote, hlast, hcapture, hscreens, hevents, ?_⟩
  rw [hat, List.sum_nil, add_zero]

/-- Each motion is reported and its event taken. -/
def turnsOf (motions : List Motion) : List Turn :=
  motions.flatMap fun motion => [.reported motion, .next]

/-- The guest's screen is entered, and the motions move the cursor freely to a state that passes
the test. -/
def movesFreelyTo (motions : List Motion) (test : State IPv4Endpoint → State IPv4Endpoint → Bool) :
    Bool :=
  (execute step (fun _ _ _ => true) portalDesk guestEntered).any fun host =>
    entered host && (execute step (fun host a host' => decide (MovesFreely host a host')) host
      ((turnsOf motions).map Turn.action)).any (test host)

theorem exists_run_of_movesFreelyTo (motions : List Motion)
    (test : State IPv4Endpoint → State IPv4Endpoint → Bool)
    (h : movesFreelyTo motions test = true) :
    ∃ host host' : State IPv4Endpoint, Run step unguarded portalDesk guestEntered host ∧
      entered host = true ∧ Run step MovesFreely host ((turnsOf motions).map Turn.action) host' ∧
      test host host' = true := by
  obtain ⟨host, hrun, hp⟩ := exists_run_of_execute step (fun _ _ _ => true) portalDesk
    guestEntered _ (fun _ _ _ _ => trivial) h
  rw [Bool.and_eq_true, Option.any_eq_true] at hp
  obtain ⟨hentered, host', hmoves, htest⟩ := hp
  exact ⟨host, host', hrun, hentered,
    execute_run (fun _ _ _ hcheck => of_decide_eq_true hcheck) hmoves, htest⟩

/-- Two motions by whole pixels. -/
theorem relative_motion_conserved_iff_whole : ∃ host host' : State IPv4Endpoint, ∃ point point',
    host.server.mInput.mActivePoint = some point ∧
    host'.server.mInput.mActivePoint = some point' ∧ Conserved point point' [(5, 1), (7, -3)] := by
  obtain ⟨host, host', hrun, hentered, hmoves, _⟩ := exists_run_of_movesFreelyTo
    [(5, 1), (7, -3)] (fun _ _ => true) (by decide +kernel)
  obtain ⟨screen, capture, active, remote, hlast, hcapture, hscreens, hawaits⟩ :=
    entered_spec hentered
  obtain ⟨point, point', hpoint, hpoint', hiff⟩ := relative_motion_conserved_iff hrun active remote
    hcapture (by simp [hscreens]) hawaits hmoves
  refine ⟨host, host', point, point', hpoint, hpoint', hiff.mpr ?_⟩
  rw [hlast, hscreens]
  decide +kernel

/-- The cursor is three pixels further to the right. -/
def threeRight (host host' : State IPv4Endpoint) : Bool :=
  host.server.mInput.mActivePoint.any fun point : ScreenPoint =>
    host'.server.mInput.mActivePoint.any fun point' : ScreenPoint =>
      decide (point'.x - point.x = 3 ∧ point'.y - point.y = 0)

/-- Three motions by three fifths of a pixel move the cursor by three pixels. -/
theorem slow_motion_not_conserved : ∃ host host' : State IPv4Endpoint, ∃ screen point point',
    Run step unguarded portalDesk guestEntered host ∧
    host.server.mInput.activeScreen host.server.mScreens = some screen ∧
    screen.isLocal = false ∧
    Run step MovesFreely host ((turnsOf (List.replicate 3 (3 / 5, 0))).map Turn.action) host' ∧
    host.server.mInput.mActivePoint = some point ∧
    host'.server.mInput.mActivePoint = some point' ∧
    ¬ Conserved point point' (List.replicate 3 (3 / 5, 0)) := by
  obtain ⟨host, host', hrun, hentered, hmoves, hright⟩ := exists_run_of_movesFreelyTo
    (List.replicate 3 (3 / 5, 0)) threeRight (by decide +kernel)
  obtain ⟨screen, _, active, remote, _⟩ := entered_spec hentered
  simp only [threeRight, Option.any_eq_true, decide_eq_true_eq] at hright
  obtain ⟨point, hpoint, point', hpoint', hx, hy⟩ := hright
  refine ⟨host, host', screen, point, point', hrun, active, remote, hmoves, hpoint, hpoint', ?_⟩
  rw [Conserved, hx, hy]
  decide +kernel

end PortalHost
end Mksync
