import Mksync.ActivePointer

/-!
# The active screen and the active point

The point is the pixel position on the active screen. The router keeps the two together
except for a local sample: the point takes the sample's screen index, the active screen
stays.
-/
namespace Mksync

open TransitionRuns

namespace ServerInputRouter

variable {E C : Type} [Endpoint E] {screens screens' : ServerScreenStore E}
  {router router' : ServerInputRouter E C}

/-- If there is an active point, its screen is the active one. -/
def PointOnActive (screens : ServerScreenStore E) (router : ServerInputRouter E C) : Prop :=
  ∀ point ∈ router.mActivePoint, router.activeScreenKey screens = some point.key

instance (screens : ServerScreenStore E) (router : ServerInputRouter E C) :
    Decidable (PointOnActive screens router) :=
  inferInstanceAs (Decidable (∀ point ∈ router.mActivePoint, _))

theorem activeScreenKey_of_active {screen : VirtualScreen E}
    (h : router.activeScreen screens = some screen) :
    router.activeScreenKey screens = some screen.key := by
  simp [activeScreenKey, h]

theorem pointOnActive_of_point {point : ScreenPoint} (h : router.mActivePoint = some point) :
    PointOnActive screens router ↔ router.activeScreenKey screens = some point.key := by
  simp [PointOnActive, h]

theorem PointOnActive.congr (h : PointOnActive screens router)
    (hactive : router'.activeScreen screens' = router.activeScreen screens)
    (hpoint : router'.mActivePoint = router.mActivePoint) : PointOnActive screens' router' := by
  unfold PointOnActive activeScreenKey
  rw [hactive, hpoint]
  exact h

/-- The point of a sample is on the active screen if the sample has its screen index. -/
theorem pointOnActive_sampled {screen : VirtualScreen E} {move : MouseMoveEvent}
    (hactive : router.activeScreen screens = some screen)
    (hpoint : router.mActivePoint = some (localPoint screen move)) :
    PointOnActive screens router ↔ move.screenIndex = screen.key.screenIndex := by
  rw [pointOnActive_of_point hpoint, activeScreenKey_of_active hactive, Option.some.injEq]
  constructor
  · exact fun hkey => (congrArg ScreenKey.screenIndex hkey).symm
  · intro hindex
    simp [localPoint, hindex]

variable [InputCapture C]

theorem pointOnActive_activateFirstLocalScreen (screens : ServerScreenStore E)
    (router : ServerInputRouter E C) :
    PointOnActive screens (router.activateFirstLocalScreen screens) := by
  unfold activateFirstLocalScreen
  cases hfirst : screens.firstLocalScreen with
  | none => simp [PointOnActive]
  | some node =>
    have hnode := (ServerScreenStore.firstLocalScreen_spec hfirst).1
    refine (pointOnActive_of_point (updateCaptureRemoteControl_mActivePoint _ _)).mpr ?_
    exact activeScreenKey_of_active (activeScreen_of_mem hnode (by simp))

theorem pointOnActive_switchActiveScreen (router : ServerInputRouter E C) {point : ScreenPoint}
    {node : ScreenNode E} (hfind : screens.findScreen point.key = some node) :
    PointOnActive screens (router.switchActiveScreen screens point) := by
  obtain ⟨hactive, hpoint⟩ := switchActiveScreen_found router hfind
  rw [pointOnActive_of_point hpoint, activeScreenKey_of_active hactive,
    (ServerScreenStore.findScreen_eq_some hfind).2]

theorem PointOnActive.switchActiveScreen (h : PointOnActive screens router)
    (point : ScreenPoint) : PointOnActive screens (router.switchActiveScreen screens point) := by
  cases hfind : screens.findScreen point.key with
  | none =>
    rwa [switchActiveScreen_of_absent hfind]
  | some node => exact pointOnActive_switchActiveScreen router hfind

/-- Screens that go and come keep point and active screen together. -/
theorem Rehomed.pointOnActive (h : Rehomed screens screens' router router')
    (hpoint : PointOnActive screens router) : PointOnActive screens' router' := by
  cases h with
  | kept _ same => exact hpoint.congr same rfl
  | cleared | woken => exact pointOnActive_activateFirstLocalScreen _ _
  | preferred _ same first => exact (hpoint.congr same rfl).switchActiveScreen _

/-! ### Samples -/

section Samples

variable [EntryScaling]

/-- A sample while a local screen is active has its screen index, or crosses from where it is
into a stored screen without being taken for the echo of a warp. -/
def SampledInPlace (screens : ServerScreenStore E) (router : ServerInputRouter E C)
    (move : MouseMoveEvent) : Prop :=
  ∀ screen ∈ router.activeScreen screens, screen.isLocal = true →
    move.screenIndex = screen.key.screenIndex ∨
    (router.mPendingLocalWarp ≠ some (localPoint screen move) ∧
      ∃ target ∈ crossingTarget screens (localPoint screen move),
        (screens.findScreen target.key).isSome)

omit [InputCapture C] in
theorem sampledInPlace_of_remote {screen : VirtualScreen E} (move : MouseMoveEvent)
    (active : router.activeScreen screens = some screen) (remote : screen.isLocal = false) :
    SampledInPlace screens router move := by
  intro other hother hlocal
  obtain rfl := Option.some.inj (active.symm.trans hother)
  simp [remote] at hlocal

omit [InputCapture C] in
theorem sampledInPlace_of_local {screen : VirtualScreen E} (move : MouseMoveEvent)
    (active : router.activeScreen screens = some screen) (isLocal : screen.isLocal = true) :
    SampledInPlace screens router move ↔ move.screenIndex = screen.key.screenIndex ∨
      (router.mPendingLocalWarp ≠ some (localPoint screen move) ∧
        ∃ target ∈ crossingTarget screens (localPoint screen move),
          (screens.findScreen target.key).isSome) := by
  simp [SampledInPlace, active, isLocal]

omit [InputCapture C] [EntryScaling] in
theorem pointOnActive_sampledRemote {screen : VirtualScreen E} (move : MouseMoveEvent)
    (active : router.activeScreen screens = some screen) :
    PointOnActive screens (router.sampledRemote screen move) := by
  have hactive : (router.sampledRemote screen move).activeScreen screens = some screen := active
  refine (pointOnActive_of_point rfl).mpr ?_
  rw [activeScreenKey_of_active hactive, virtualCursor_key]

/-- Handling an event keeps point and active screen together exactly if a sample is taken in
place. -/
theorem Handled.pointOnActive_iff {event : InputEvent} (h : Handled screens router event router')
    (hpoint : PointOnActive screens router) : PointOnActive screens router' ↔
      ∀ move, event = .mouseMove move → SampledInPlace screens router move := by
  cases h with
  | idle active =>
    refine ⟨fun _ move _ screen hscreen => ?_, fun _ => hpoint⟩
    simp [active] at hscreen
  | home _ _ _ noMove =>
    exact ⟨fun _ move hmove => absurd hmove (noMove move), fun _ => hpoint⟩
  | failSafe _ _ f12 =>
    refine ⟨?_, fun _ => pointOnActive_activateFirstLocalScreen screens router⟩
    rintro _ move rfl
    simp [isF12Press] at f12
  | forwarded _ _ _ noMove =>
    refine ⟨fun _ move hmove => absurd hmove (noMove move), fun _ => ?_⟩
    exact hpoint.congr (by simp [activeScreen]) (by simp)
  | @rested move screen active remote =>
    simp only [InputEvent.mouseMove.injEq, forall_eq']
    exact iff_of_true (pointOnActive_sampledRemote move active)
      (sampledInPlace_of_remote move active remote)
  | @crossed move screen target active remote =>
    simp only [InputEvent.mouseMove.injEq, forall_eq']
    exact iff_of_true ((pointOnActive_sampledRemote move active).switchActiveScreen target)
      (sampledInPlace_of_remote move active remote)
  | @clamped move screen active remote =>
    simp only [InputEvent.mouseMove.injEq, forall_eq']
    refine iff_of_true ?_ (sampledInPlace_of_remote move active remote)
    refine (pointOnActive_of_point (queueInputForScreen_mActivePoint _ _ _)).mpr ?_
    rw [activeScreenKey_of_active (by simpa [activeScreen, sampledRemote] using active),
      clampToScreen, nextPoint, virtualCursor_key]
  | @echoed move screen active isLocal echo =>
    have hactive : ({ router.sampledLocal screen move with
      mPendingLocalWarp := none } : ServerInputRouter E C).activeScreen screens = some screen :=
        active
    simp only [InputEvent.mouseMove.injEq, forall_eq']
    rw [pointOnActive_sampled hactive rfl, sampledInPlace_of_local move active isLocal]
    simp [echo]
  | @stayed move screen active isLocal _ noCrossing =>
    have hactive : (router.sampledLocal screen move).activeScreen screens = some screen := active
    simp only [InputEvent.mouseMove.injEq, forall_eq']
    rw [pointOnActive_sampled hactive rfl, sampledInPlace_of_local move active isLocal]
    simp [noCrossing]
  | @left move screen target active isLocal noEcho crossing =>
    have hactive : (router.sampledLocal screen move).activeScreen screens = some screen := active
    simp only [InputEvent.mouseMove.injEq, forall_eq']
    rw [sampledInPlace_of_local move active isLocal]
    cases hfind : screens.findScreen target.key with
    | none =>
      rw [switchActiveScreen_of_absent hfind, pointOnActive_sampled hactive rfl]
      simp [crossing, hfind]
    | some node =>
      refine iff_of_true (pointOnActive_switchActiveScreen _ hfind) (.inr ⟨noEcho, target, ?_, ?_⟩)
      · exact crossing
      · rw [hfind]
        rfl

/-- A sample in place names its own screen, or the screen that it crosses to. -/
theorem Handled.activeScreenKey_sampled {screen : VirtualScreen E} {move : MouseMoveEvent}
    (h : Handled screens router (.mouseMove move) router') (hpoint : PointOnActive screens router')
    (active : router.activeScreen screens = some screen) (isLocal : screen.isLocal = true) :
    router'.activeScreenKey screens = some ⟨screen.key.ownerId, move.screenIndex⟩ ∨
      ∃ target ∈ crossingTarget screens (localPoint screen move),
        router'.activeScreenKey screens = some target.key := by
  rcases h.localMove active isLocal with
    ⟨_, rfl⟩ | ⟨_, _, rfl⟩ | ⟨_, target, crossing, rfl⟩
  · exact .inl (hpoint _ rfl)
  · exact .inl (hpoint _ rfl)
  · cases hfind : screens.findScreen target.key with
    | none =>
      rw [switchActiveScreen_of_absent hfind] at hpoint ⊢
      exact .inl (hpoint _ rfl)
    | some node =>
      exact .inr ⟨target, crossing, hpoint _ (switchActiveScreen_found _ hfind).2⟩

end Samples

end ServerInputRouter

namespace Host

open ServerInputRouter

variable {E C : Type} [Endpoint E] [InputCapture C] {host host' : Host E C}

/-- The mouse sample that an action hands to the router. -/
def capturedMove : Action E C → Option MouseMoveEvent
  | .captured (.mouseMove move) => some move
  | _ => none

omit [Endpoint E] in
theorem capturedMove_captured (event : InputEvent) (move : MouseMoveEvent) :
    capturedMove (.captured event : Action E C) = some move ↔ event = .mouseMove move := by
  cases event <;> simp [capturedMove]

/-- Every captured sample is taken in place. -/
def SamplesInPlace [EntryScaling] (host : Host E C) (a : Action E C) (_ : Host E C) : Prop :=
  ∀ move ∈ capturedMove a, SampledInPlace host.server.mScreens host.server.mInput move

theorem Stepped.pointOnActive_iff [EntryScaling] {a : Action E C} (hs : Stepped host a host')
    (hpointer : PointerValid host.server.mScreens host.server.mInput)
    (hpoint : PointOnActive host.server.mScreens host.server.mInput) :
    PointOnActive host'.server.mScreens host'.server.mInput ↔ SamplesInPlace host a host' := by
  cases hs with
  | captured event =>
    have hiff := (handleInputEvent_handled host.server.mScreens host.server.mInput
      event).pointOnActive_iff hpoint
    simp only [SamplesInPlace, Option.mem_def, capturedMove_captured]
    exact hiff
  | registerLocal | reported =>
    exact iff_of_true ((Server.registerScreens_rehomed hpointer _ _ _ _).pointOnActive hpoint)
      nofun
  | rejected | dropped | closed =>
    refine iff_of_true ?_ nofun
    exact ((Server.removeEndpointScreens_rehomed hpointer _).pointOnActive hpoint).congr rfl rfl
  | signal | accepted | greeted | ignored | published | delivered | broke | hungUp =>
    exact iff_of_true (hpoint.congr rfl rfl) nofun

/-- What carries the statement through a run whose samples are in place. -/
def UnderCursor (host : Host E C) : Prop :=
  PointerValid host.server.mScreens host.server.mInput ∧
    PointOnActive host.server.mScreens host.server.mInput

/-- In every run, the active point is on the active screen after each step if and only if each
sample is taken in place. It is so at the start, and a sample in place while a local screen is
active makes the screen it is on the active one, or the screen it crosses to. -/
theorem active_under_cursor_iff_samplesInPlace [EntryScaling] (server : E) (config : AppConfig)
    (configPath : String) (capture : C) :
    PointOnActive (start server config configPath capture).server.mScreens
      (start server config configPath capture).server.mInput ∧
    ∀ (as : List (Action E C)) (host : Host E C),
      (Run step SamplesInPlace (start server config configPath capture) as host ↔
        Run step (fun _ _ after => PointOnActive after.server.mScreens after.server.mInput)
          (start server config configPath capture) as host) ∧
      (Run step SamplesInPlace (start server config configPath capture) as host →
        ∀ screen move host',
          host.server.mInput.activeScreen host.server.mScreens = some screen →
          screen.isLocal = true → host.step (.captured (.mouseMove move)) = some host' →
          SampledInPlace host.server.mScreens host.server.mInput move →
          host'.server.mInput.activeScreenKey host'.server.mScreens =
              some ⟨screen.key.ownerId, move.screenIndex⟩ ∨
            ∃ target ∈ crossingTarget host.server.mScreens (localPoint screen move),
              host'.server.mInput.activeScreenKey host'.server.mScreens = some target.key) := by
  have hstart : PointOnActive (start server config configPath capture).server.mScreens
      (start server config configPath capture).server.mInput := by
    intro point hpoint
    simp [start, Server.start, setCapture, ServerInputRouter.init] at hpoint
  have hinit : UnderCursor (start server config configPath capture) := by
    have hrun : Run step unguarded (start server config configPath capture) [] _ := .refl _
    exact ⟨run_pointerValid hrun, hstart⟩
  have hkeep : ∀ (s : Host E C) a t, UnderCursor s → SamplesInPlace s a t → step s a = some t →
      UnderCursor t := by
    intro s a t hs hsamples hnext
    have hstepped := step_stepped hnext
    exact ⟨pointerValid_step hs.1 hstepped,
      (hstepped.pointOnActive_iff hs.1 hs.2).mpr hsamples⟩
  refine ⟨hstart, fun as host => ⟨?_, ?_⟩⟩
  · refine Run.guard_iff UnderCursor hinit hkeep ?_
    intro s a t hs hnext
    exact ((step_stepped hnext).pointOnActive_iff hs.1 hs.2).symm
  · intro hrun screen move host' active isLocal hstep hsample
    have hpoint := (hrun.invariant UnderCursor hkeep hinit).2
    obtain rfl : host.withServer (Server.handleInputEvent (.mouseMove move)) = host' := by
      simpa [step] using hstep
    have hhandled := handleInputEvent_handled host.server.mScreens host.server.mInput
      (.mouseMove move)
    refine hhandled.activeScreenKey_sampled ((hhandled.pointOnActive_iff hpoint).mpr ?_) active
      isLocal
    rintro _ ⟨⟩
    exact hsample

/-- A sample in the middle of the second monitor: the first one stays active. -/
theorem active_elsewhere : ∃ host : DeskHost,
    Run step unguarded deskHost [.registerLocal [deskMonitor, sideMonitor],
      .captured (.mouseMove { x := 600, y := 500, screenIndex := 1 })] host ∧
    ¬ PointOnActive host.server.mScreens host.server.mInput := by
  obtain ⟨host, hrun, hp⟩ := exists_run_of_execute step (fun _ _ _ => true) deskHost
    [.registerLocal [deskMonitor, sideMonitor],
      .captured (.mouseMove { x := 600, y := 500, screenIndex := 1 })]
    (fun host : DeskHost => !decide (PointOnActive host.server.mScreens host.server.mInput))
    (fun _ _ _ _ => trivial) (by decide +kernel)
  exact ⟨host, hrun, by simpa using hp⟩

end Host
end Mksync
