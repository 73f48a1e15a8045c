import Mksync.ActiveUnderCursor
import Mathlib.Data.List.Induction

/-!
# Absolute samples and the remote cursor

Without raw motion the remote cursor follows the difference of two samples, each relative to
the monitor it was taken on. The differences telescope, so over any number of samples only
the origins of the first and the last monitor matter.
-/
namespace Mksync

open TransitionRuns

namespace ServerScreenStore

variable {E : Type} [Endpoint E]

/-- The local screen with the screen index. -/
def localScreen (store : ServerScreenStore E) (screenIndex : Nat) : Option (VirtualScreen E) :=
  (store.mScreens.nodes.find? fun node =>
    node.value.isLocal && node.value.key.screenIndex = screenIndex).map (·.value)

/-- The desktop origin of the local screen, `(0, 0)` if there is none. -/
def desktopOrigin (store : ServerScreenStore E) (screenIndex : Nat) : Int × Int :=
  ((store.localScreen screenIndex).map fun screen => (screen.info.x, screen.info.y)).getD (0, 0)

/-- Where a sample lies on the desktop. -/
def desktopPosition (store : ServerScreenStore E) (move : MouseMoveEvent) : Int × Int :=
  store.desktopOrigin move.screenIndex + (move.x, move.y)

end ServerScreenStore

namespace ServerInputRouter

variable {E C : Type} [Endpoint E] {screens screens' : ServerScreenStore E}
  {router router' : ServerInputRouter E C} {screen : VirtualScreen E}

/-! ### The active point of a remote screen -/

/-- While a remote screen is active, the active point is on it. -/
def PointOnRemote (screens : ServerScreenStore E) (router : ServerInputRouter E C) : Prop :=
  ∀ screen, router.activeScreen screens = some screen → screen.isLocal = false →
    ∃ point, router.mActivePoint = some point ∧ point.key = screen.key

theorem PointOnRemote.congr (h : PointOnRemote screens router)
    (hactive : router'.activeScreen screens' = router.activeScreen screens)
    (hpoint : router'.mActivePoint = router.mActivePoint) : PointOnRemote screens' router' := by
  unfold PointOnRemote
  rw [hactive, hpoint]
  exact h

theorem pointOnRemote_of_local (h : router.remoteActive screens = false) :
    PointOnRemote screens router := by
  intro screen hscreen hremote
  simp [remoteActive_of_active hscreen, hremote] at h

theorem pointOnRemote_of_active (h : router.activeScreen screens = some screen)
    (hlocal : screen.isLocal = true) : PointOnRemote screens router := by
  apply pointOnRemote_of_local
  rw [remoteActive_of_active h, hlocal]
  rfl

theorem pointOnRemote_of_point {point : ScreenPoint}
    (hactive : router.activeScreen screens = some screen)
    (hpoint : router.mActivePoint = some point) (hkey : point.key = screen.key) :
    PointOnRemote screens router := by
  intro found hfound _
  obtain rfl := Option.some.inj (hactive.symm.trans hfound)
  exact ⟨point, hpoint, hkey⟩

variable [InputCapture C]

theorem PointOnRemote.switchActiveScreen (h : PointOnRemote screens router)
    (point : ScreenPoint) : PointOnRemote screens (router.switchActiveScreen screens point) := by
  cases hfind : screens.findScreen point.key with
  | none =>
    rwa [switchActiveScreen_of_absent hfind]
  | some node =>
    obtain ⟨hactive, hpoint⟩ := switchActiveScreen_found router hfind
    exact pointOnRemote_of_point hactive hpoint (ServerScreenStore.findScreen_eq_some hfind).2.symm

theorem Rehomed.pointOnRemote (h : Rehomed screens screens' router router')
    (hpoint : PointOnRemote screens router) : PointOnRemote screens' router' := by
  cases h with
  | kept _ same => exact hpoint.congr same rfl
  | cleared | woken => exact pointOnRemote_of_local (remoteActive_activateFirstLocalScreen _ _)
  | preferred _ same => exact (hpoint.congr same rfl).switchActiveScreen _

section Events

variable [EntryScaling]

theorem Handled.pointOnRemote {event : InputEvent} (h : Handled screens router event router')
    (hpoint : PointOnRemote screens router) : PointOnRemote screens router' := by
  cases h with
  | idle | home => exact hpoint
  | failSafe => exact pointOnRemote_of_local (remoteActive_activateFirstLocalScreen _ _)
  | forwarded => exact hpoint.congr (by simp [activeScreen]) (by simp)
  | @rested move screen active =>
    have hactive : (router.sampledRemote screen move).activeScreen screens = some screen := active
    exact pointOnRemote_of_point hactive rfl (virtualCursor_key screen router)
  | @crossed move screen target active =>
    have hactive : (router.sampledRemote screen move).activeScreen screens = some screen := active
    exact (pointOnRemote_of_point hactive rfl
      (virtualCursor_key screen router)).switchActiveScreen target
  | @clamped move screen active =>
    exact pointOnRemote_of_point (by simpa [activeScreen, sampledRemote] using active)
      (queueInputForScreen_mActivePoint _ _ _) (virtualCursor_key screen router)
  | @echoed move screen active isLocal =>
    have hactive : ({ router.sampledLocal screen move with
      mPendingLocalWarp := none } : ServerInputRouter E C).activeScreen screens = some screen :=
        active
    exact pointOnRemote_of_active hactive isLocal
  | @stayed move screen active isLocal =>
    have hactive : (router.sampledLocal screen move).activeScreen screens = some screen := active
    exact pointOnRemote_of_active hactive isLocal
  | @left move screen target active isLocal =>
    have hactive : (router.sampledLocal screen move).activeScreen screens = some screen := active
    exact (pointOnRemote_of_active hactive isLocal).switchActiveScreen target

/-! ### One sample -/

/-- A move that changes the remote cursor neither crosses a border nor is clamped. -/
def Unobstructed (screens : ServerScreenStore E) (router : ServerInputRouter E C)
    (move : MouseMoveEvent) : Prop :=
  ∀ screen ∈ router.activeScreen screens, router.moveDelta move ≠ (0, 0) →
    crossingTarget screens (router.nextPoint screen move) = none ∧
      clampToScreen screen.info (router.nextPoint screen move) = router.nextPoint screen move

omit [InputCapture C] in
instance (screens : ServerScreenStore E) (router : ServerInputRouter E C)
    (move : MouseMoveEvent) : Decidable (Unobstructed screens router move) :=
  inferInstanceAs (Decidable (∀ screen ∈ router.activeScreen screens, _))

/-- A move that is not obstructed moves the remote cursor by its delta. -/
theorem Handled.unobstructed {move : MouseMoveEvent} {point : ScreenPoint}
    (h : Handled screens router (.mouseMove move) router')
    (active : router.activeScreen screens = some screen) (remote : screen.isLocal = false)
    (hpoint : router.mActivePoint = some point) (hkey : point.key = screen.key)
    (hfree : Unobstructed screens router move) :
    router'.activeScreen screens = some screen ∧ router'.mLastLocalMouse = some move ∧
      router'.mCapture = router.mCapture ∧
      router'.mActivePoint = some { point with
        x := point.x + (router.moveDelta move).1, y := point.y + (router.moveDelta move).2 } := by
  have hcursor : router.virtualCursor screen = point := by simp [virtualCursor, hpoint, hkey]
  rcases h.remoteMove active remote with
    ⟨hzero, rfl⟩ | ⟨hmoved, target, crossing, _⟩ | ⟨hmoved, _, rfl⟩
  · refine ⟨active, rfl, rfl, ?_⟩
    simp [sampledRemote, hcursor, hzero]
  · have hnone := (hfree screen active hmoved).1
    simp [hnone] at crossing
  · refine ⟨by simpa [activeScreen, sampledRemote] using active, ?_, ?_, ?_⟩
    · rcases queueInputForScreen_cases screen
        (moveTo (clampToScreen screen.info (router.nextPoint screen move)))
        { router.sampledRemote screen move with
          mActivePoint := some (clampToScreen screen.info (router.nextPoint screen move)) } with
        ⟨heq, _⟩ | ⟨_, _, _, _, heq⟩ <;> rw [heq] <;> rfl
    · rw [queueInputForScreen_mCapture]
      rfl
    · rw [queueInputForScreen_mActivePoint, (hfree screen active hmoved).2, nextPoint, hcursor]

/-- An absolute sample moves the remote cursor by its difference to the last one. -/
theorem Handled.absolute {move last : MouseMoveEvent} {point : ScreenPoint}
    (h : Handled screens router (.mouseMove move) router')
    (active : router.activeScreen screens = some screen) (remote : screen.isLocal = false)
    (hpoint : router.mActivePoint = some point) (hkey : point.key = screen.key)
    (hlast : router.mLastLocalMouse = some last) (hx : move.deltaX = 0) (hy : move.deltaY = 0)
    (hfree : Unobstructed screens router move) :
    router'.activeScreen screens = some screen ∧ router'.mLastLocalMouse = some move ∧
      router'.mActivePoint =
        some { point with x := point.x + (move.x - last.x), y := point.y + (move.y - last.y) } := by
  have hdelta : router.moveDelta move = (move.x - last.x, move.y - last.y) := by
    simp [moveDelta, hx, hy, hlast]
  obtain ⟨hactive, hsampled, _, hmoved⟩ := h.unobstructed active remote hpoint hkey hfree
  rw [hdelta] at hmoved
  exact ⟨hactive, hsampled, hmoved⟩

end Events

end ServerInputRouter

namespace Host

open ServerInputRouter

variable {E C : Type} [Endpoint E] [InputCapture C] {host host' : Host E C}

theorem Stepped.pointOnRemote [EntryScaling] {a : Action E C} (hs : Stepped host a host')
    (hvalid : PointerValid host.server.mScreens host.server.mInput)
    (hpoint : PointOnRemote host.server.mScreens host.server.mInput) :
    PointOnRemote host'.server.mScreens host'.server.mInput := by
  cases hs with
  | captured event => exact (handleInputEvent_handled _ _ event).pointOnRemote hpoint
  | registerLocal | reported =>
    exact (Server.registerScreens_rehomed hvalid _ _ _ _).pointOnRemote hpoint
  | rejected | dropped | closed =>
    exact ((Server.removeEndpointScreens_rehomed hvalid _).pointOnRemote hpoint).congr rfl rfl
  | signal | accepted | greeted | ignored | published | delivered | broke | hungUp =>
    exact hpoint.congr rfl rfl

theorem pointOnRemote_start (endpoint : E) (config : AppConfig) (configPath : String)
    (capture : C) : PointOnRemote (start endpoint config configPath capture).server.mScreens
      (start endpoint config configPath capture).server.mInput := by
  apply pointOnRemote_of_local
  simp [start, Server.start, setCapture, ServerInputRouter.init, remoteActive, activeScreen]

theorem run_pointOnRemote [EntryScaling] {guard : Host E C → Action E C → Host E C → Prop}
    {endpoint : E} {config : AppConfig} {configPath : String} {capture : C}
    {as : List (Action E C)}
    (h : Run step guard (start endpoint config configPath capture) as host) :
    PointOnRemote host.server.mScreens host.server.mInput := by
  have hstart : Run step unguarded (start endpoint config configPath capture) [] _ := .refl _
  refine (h.invariant (fun host => PointerValid host.server.mScreens host.server.mInput ∧
    PointOnRemote host.server.mScreens host.server.mInput) ?_
    ⟨run_pointerValid hstart, pointOnRemote_start endpoint config configPath capture⟩).2
  intro s a t hs _ hnext
  have hstepped := step_stepped hnext
  exact ⟨pointerValid_step hs.1 hstepped, hstepped.pointOnRemote hs.1 hs.2⟩

/-- A captured move neither crosses a border nor is clamped. -/
def MovesFreely [EntryScaling] (host : Host E C) (a : Action E C) (_ : Host E C) : Prop :=
  ∀ move ∈ capturedMove a, Unobstructed host.server.mScreens host.server.mInput move

instance [EntryScaling] (host : Host E C) (a : Action E C) (host' : Host E C) :
    Decidable (MovesFreely host a host') :=
  inferInstanceAs (Decidable (∀ move ∈ capturedMove a, _))

def sample (move : MouseMoveEvent) : Action E C := .captured (.mouseMove move)

/-- The last one of some samples, `first` if there is none. -/
def lastSample (first : MouseMoveEvent) (moves : List MouseMoveEvent) : MouseMoveEvent :=
  moves.getLast?.getD first

/-- Over any number of absolute samples the remote cursor moves by the difference of the last
one to the first. -/
theorem run_absolute [EntryScaling] {screen : VirtualScreen E} {point : ScreenPoint}
    {first : MouseMoveEvent}
    (active : host.server.mInput.activeScreen host.server.mScreens = some screen)
    (remote : screen.isLocal = false) (hpoint : host.server.mInput.mActivePoint = some point)
    (hkey : point.key = screen.key) (hfirst : host.server.mInput.mLastLocalMouse = some first)
    (moves : List MouseMoveEvent)
    (habsolute : ∀ move ∈ moves, move.deltaX = 0 ∧ move.deltaY = 0)
    (h : Run step MovesFreely host (moves.map sample) host') :
    host'.server.mScreens = host.server.mScreens ∧
    host'.server.mInput.activeScreen host'.server.mScreens = some screen ∧
    host'.server.mInput.mLastLocalMouse = some (lastSample first moves) ∧
    host'.server.mInput.mActivePoint = some { point with
      x := point.x + ((lastSample first moves).x - first.x)
      y := point.y + ((lastSample first moves).y - first.y) } := by
  induction moves using List.reverseRecOn generalizing host' with
  | nil =>
    obtain rfl := h.of_nil
    simp [lastSample, active, hfirst, hpoint]
  | append_singleton moves move ih =>
    rw [List.map_append] at h
    obtain ⟨before, hrun, hnext, hfree⟩ := h.of_concat
    obtain ⟨hscreens, hactive, hlast, hat⟩ := ih
      (fun m hm => habsolute m (List.mem_append_left _ hm)) hrun
    obtain ⟨hx, hy⟩ := habsolute move (by simp)
    obtain rfl : before.withServer (Server.handleInputEvent (.mouseMove move)) = host' := by
      simpa [step, sample] using hnext
    have hmoved := (handleInputEvent_handled before.server.mScreens before.server.mInput
      (.mouseMove move)).absolute hactive remote hat hkey hlast hx hy (hfree move rfl)
    have hlastSample : lastSample first (moves ++ [move]) = move := by simp [lastSample]
    rw [hlastSample]
    refine ⟨hscreens, hmoved.1, hmoved.2.1, hmoved.2.2.trans ?_⟩
    congr 2 <;> dsimp only <;> omega

/-- Over absolute samples, from any reachable state with a remote screen active, the active
point moves by the difference between the desktop positions of the last sample and of the one
before the first if and only if these two were taken on screens with one desktop origin. -/
theorem absolute_displacement_iff_same_origin [EntryScaling] {server : E} {config : AppConfig}
    {configPath : String} {capture : C} {as : List (Action E C)} {screen : VirtualScreen E}
    {first : MouseMoveEvent} {moves : List MouseMoveEvent}
    (hreach : Run step unguarded (start server config configPath capture) as host)
    (active : host.server.mInput.activeScreen host.server.mScreens = some screen)
    (remote : screen.isLocal = false)
    (hfirst : host.server.mInput.mLastLocalMouse = some first)
    (habsolute : ∀ move ∈ moves, move.deltaX = 0 ∧ move.deltaY = 0)
    (hrun : Run step MovesFreely host (moves.map sample) host') :
    ∃ point point', host.server.mInput.mActivePoint = some point ∧
      host'.server.mInput.mActivePoint = some point' ∧
      ((point'.x - point.x, point'.y - point.y) =
          host.server.mScreens.desktopPosition (lastSample first moves) -
            host.server.mScreens.desktopPosition first ↔
        host.server.mScreens.desktopOrigin (lastSample first moves).screenIndex =
          host.server.mScreens.desktopOrigin first.screenIndex) := by
  obtain ⟨point, hpoint, hkey⟩ := run_pointOnRemote hreach screen active remote
  obtain ⟨_, _, _, hat⟩ :=
    run_absolute active remote hpoint hkey hfirst moves habsolute hrun
  refine ⟨point, _, hpoint, hat, ?_⟩
  simp only [ServerScreenStore.desktopPosition, Prod.ext_iff, Prod.fst_sub, Prod.snd_sub,
    Prod.fst_add, Prod.snd_add]
  constructor <;> rintro ⟨hx, hy⟩ <;> constructor <;> omega

/-- Two monitors next to each other, and a guest to the right of both. The cursor leaves the
second monitor for the guest's screen. -/
def guestBesideTwo : List DeskAction :=
  .registerLocal [deskMonitor, { sideMonitor with x := 1920 }] ::
    connect 1001 "m" [sideMonitor] ++
    [.captured (.mouseMove { x := 1279, y := 500, screenIndex := 1 })]

/-- A sample that the guest's screen has room for. -/
def sampleOnFirst : MouseMoveEvent := { x := 1900, y := 600 }

/-- After the actions a remote screen is active with the last sample, the further samples move
the cursor freely, and the test holds of the states before and after them. -/
def movesFreelyAfter (as : List DeskAction) (first : MouseMoveEvent) (moves : List MouseMoveEvent)
    (test : DeskHost → DeskHost → Bool) : Bool :=
  (execute step (fun _ _ _ => true) deskHost as).any fun host =>
    (host.server.mInput.activeScreen host.server.mScreens).any (!·.isLocal) &&
    decide (host.server.mInput.mLastLocalMouse = some first) &&
    (execute step (fun host a host' => decide (MovesFreely host a host')) host
      (moves.map sample)).any (test host)

theorem exists_run_of_movesFreelyAfter (as : List DeskAction) (first : MouseMoveEvent)
    (moves : List MouseMoveEvent) (test : DeskHost → DeskHost → Bool)
    (h : movesFreelyAfter as first moves test = true) :
    ∃ host host' : DeskHost, ∃ screen, Run step unguarded deskHost as host ∧
      host.server.mInput.activeScreen host.server.mScreens = some screen ∧
      screen.isLocal = false ∧ host.server.mInput.mLastLocalMouse = some first ∧
      Run step MovesFreely host (moves.map sample) host' ∧ test host host' = true := by
  obtain ⟨host, hrun, hp⟩ := exists_run_of_execute step (fun _ _ _ => true) deskHost as _
    (fun _ _ _ _ => trivial) h
  simp only [Bool.and_eq_true, decide_eq_true_eq, Option.any_eq_true, Bool.not_eq_true'] at hp
  obtain ⟨⟨⟨screen, active, remote⟩, hfirst⟩, host', hmoves, htest⟩ := hp
  exact ⟨host, host', screen, hrun, active, remote, hfirst,
    execute_run (fun _ _ _ hcheck => of_decide_eq_true hcheck) hmoves, htest⟩

/-- Two samples on the first monitor. -/
theorem absolute_displacement_iff_same_origin_first : ∃ host host' : DeskHost, ∃ point point',
    host.server.mInput.mActivePoint = some point ∧
    host'.server.mInput.mActivePoint = some point' ∧
    (point'.x - point.x, point'.y - point.y) =
      host.server.mScreens.desktopPosition { x := 1910, y := 620 } -
        host.server.mScreens.desktopPosition sampleOnFirst := by
  obtain ⟨host, host', screen, hrun, active, remote, hfirst, hmoves, _⟩ :=
    exists_run_of_movesFreelyAfter (guestBesideTwo ++ [sample sampleOnFirst]) sampleOnFirst
      [{ x := 1910, y := 620 }] (fun _ _ => true) (by decide +kernel)
  obtain ⟨point, point', hpoint, hpoint', hiff⟩ := absolute_displacement_iff_same_origin hrun
    active remote hfirst (by simp) hmoves
  exact ⟨host, host', point, point', hpoint, hpoint', hiff.mpr rfl⟩

/-- The cursor moved to the right, and the hand to the left. -/
def leapsRight (host host' : DeskHost) : Bool :=
  host.server.mInput.mActivePoint.any fun point : ScreenPoint =>
    host'.server.mInput.mActivePoint.any fun point' : ScreenPoint =>
      decide (point'.x - point.x = 621 ∧
        (host.server.mScreens.desktopPosition sampleOnFirst -
          host.server.mScreens.desktopPosition { x := 1279, y := 500, screenIndex := 1 }).1 = -1299)

/-- A sample on the first monitor after one on the second: the cursor follows the pixels. -/
theorem absolute_sample_on_other_monitor : ∃ host host' : DeskHost, ∃ screen point point',
    Run step unguarded deskHost guestBesideTwo host ∧
    host.server.mInput.activeScreen host.server.mScreens = some screen ∧
    screen.isLocal = false ∧
    host.server.mInput.mLastLocalMouse = some { x := 1279, y := 500, screenIndex := 1 } ∧
    Run step MovesFreely host ([sampleOnFirst].map sample) host' ∧
    host.server.mInput.mActivePoint = some point ∧
    host'.server.mInput.mActivePoint = some point' ∧
    point'.x - point.x = 621 ∧
    (host.server.mScreens.desktopPosition sampleOnFirst -
      host.server.mScreens.desktopPosition { x := 1279, y := 500, screenIndex := 1 }).1 =
        -1299 := by
  obtain ⟨host, host', screen, hrun, active, remote, hfirst, hmoves, hleap⟩ :=
    exists_run_of_movesFreelyAfter guestBesideTwo { x := 1279, y := 500, screenIndex := 1 }
      [sampleOnFirst] leapsRight (by decide +kernel)
  simp only [leapsRight, Option.any_eq_true, decide_eq_true_eq] at hleap
  obtain ⟨point, hpoint, point', hpoint', hmoved, htrue⟩ := hleap
  exact ⟨host, host', screen, point, point', hrun, active, remote, hfirst, hmoves, hpoint,
    hpoint', hmoved, htrue⟩

end Host
end Mksync
