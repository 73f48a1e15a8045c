import Mksync.ScreenAgreement
import Mksync.ActivePointer

/-!
# Warps of the local cursor and their echoes

Coming home the router warps the local cursor and waits for the sample that the warp itself
produces, to drop it. The sample is recognized by its exact place; it may come late, so other
samples in between are handled and the wait goes on.
-/
namespace Mksync

open TransitionRuns ServerInputRouter

/-- A capture together with the targets of the warps that succeeded, oldest first. -/
structure WarpLog (C : Type) where
  inner : C
  warps : List (Nat × Int × Int) := []
  deriving DecidableEq

instance {C : Type} [InputCapture C] : InputCapture (WarpLog C) where
  Signal := InputCapture.Signal C
  onSignal signal log := { log with inner := InputCapture.onSignal signal log.inner }
  setRemoteControlActive active log :=
    let result := InputCapture.setRemoteControlActive active log.inner
    (result.1, { log with inner := result.2 })
  moveLocalCursor screenIndex x y log :=
    let result := InputCapture.moveLocalCursor screenIndex x y log.inner
    (result.1, ⟨result.2, if result.1 then log.warps ++ [(screenIndex, x, y)] else log.warps⟩)

namespace ServerInputRouter

variable {E C : Type} [Endpoint E] {screens : ServerScreenStore E}
  {router router' router'' : ServerInputRouter E (WarpLog C)}

def warps (router : ServerInputRouter E (WarpLog C)) : List (Nat × Int × Int) :=
  (router.mCapture.map WarpLog.warps).getD []

/-- The arguments of the warp to a point. -/
def warpTarget (point : ScreenPoint) : Nat × Int × Int := (point.key.screenIndex, point.x, point.y)

/-- What a change of the router does about warps: nothing, or it stops waiting for an echo, or
it warps and waits. -/
inductive Rearmed (router router' : ServerInputRouter E (WarpLog C)) : Prop
  | kept (pending : router'.mPendingLocalWarp = router.mPendingLocalWarp)
      (warps : router'.warps = router.warps)
  | cleared (pending : router'.mPendingLocalWarp = none) (warps : router'.warps = router.warps)
  | warped (point : ScreenPoint) (pending : router'.mPendingLocalWarp = some point)
      (warps : router'.warps = router.warps ++ [warpTarget point])

namespace Rearmed

theorem refl (router : ServerInputRouter E (WarpLog C)) : Rearmed router router := .kept rfl rfl

/-- A change that does nothing about warps, and another one. -/
theorem after_kept (h : Rearmed router' router'')
    (hpending : router'.mPendingLocalWarp = router.mPendingLocalWarp)
    (hwarps : router'.warps = router.warps) : Rearmed router router'' := by
  cases h with
  | kept pending warps => exact .kept (pending.trans hpending) (warps.trans hwarps)
  | cleared pending warps => exact .cleared pending (warps.trans hwarps)
  | warped point pending warps => exact .warped point pending (by rw [warps, hwarps])

theorem after_cleared (h : Rearmed router' router'')
    (hpending : router'.mPendingLocalWarp = none) (hwarps : router'.warps = router.warps) :
    Rearmed router router'' := by
  cases h with
  | kept pending warps => exact .cleared (pending.trans hpending) (warps.trans hwarps)
  | cleared pending warps => exact .cleared pending (warps.trans hwarps)
  | warped point pending warps => exact .warped point pending (by rw [warps, hwarps])

end Rearmed

theorem rearmed_queueInputForScreen (screen : VirtualScreen E) (event : InputEvent)
    (router : ServerInputRouter E (WarpLog C)) :
    Rearmed router (router.queueInputForScreen screen event).2 := by
  rcases queueInputForScreen_cases screen event router with ⟨heq, _⟩ | ⟨_, _, _, _, heq⟩ <;>
    rw [heq] <;> exact .kept rfl rfl

variable [InputCapture C]

/-- Asking for a mode is no warp. -/
@[simp] theorem updateCaptureRemoteControl_warps :
    (router.updateCaptureRemoteControl screens).warps = router.warps := by
  rw [updateCaptureRemoteControl_eq]
  cases hcapture : router.mCapture <;> simp [warps, InputCapture.setRemoteControlActive, hcapture]

@[simp] theorem updateCaptureRemoteControl_mPendingLocalWarp :
    (router.updateCaptureRemoteControl screens).mPendingLocalWarp = router.mPendingLocalWarp := by
  rw [updateCaptureRemoteControl_eq]

theorem rearmed_moveLocalCursorToActivePoint :
    Rearmed router (router.moveLocalCursorToActivePoint screens) := by
  rcases moveLocalCursorToActivePoint_cases screens router with
    heq | ⟨capture, active, point, hcapture, _, _, _, heq⟩
  · rw [heq]
    exact .refl router
  · rw [heq]
    cases hresult :
      (InputCapture.moveLocalCursor point.key.screenIndex point.x point.y capture).1 with
    | false =>
      refine .kept rfl ?_
      have hinner : (InputCapture.moveLocalCursor point.key.screenIndex point.x point.y
        capture.inner).1 = false := hresult
      simp [warps, hcapture, InputCapture.moveLocalCursor, hinner]
    | true =>
      refine .warped point rfl ?_
      have hinner : (InputCapture.moveLocalCursor point.key.screenIndex point.x point.y
        capture.inner).1 = true := hresult
      simp [warps, hcapture, InputCapture.moveLocalCursor, hinner, warpTarget]

@[simp] theorem clearActiveState_warps :
    (router.clearActiveState screens).warps = router.warps := by
  rw [clearActiveState, updateCaptureRemoteControl_warps]
  rfl

theorem rearmed_activateFirstLocalScreen :
    Rearmed router (router.activateFirstLocalScreen screens) := by
  unfold activateFirstLocalScreen
  split
  all_goals
    exact .cleared (by simp) (by rw [updateCaptureRemoteControl_warps]; rfl)

/-- Entering a remote screen ends the wait, coming to a local one warps. -/
theorem rearmed_switchActiveScreen (screens : ServerScreenStore E) (point : ScreenPoint)
    (router : ServerInputRouter E (WarpLog C)) :
    Rearmed router (router.switchActiveScreen screens point) := by
  rcases switchActiveScreen_cases screens point router with
    ⟨_, heq⟩ | ⟨node, _, ⟨_, heq⟩ | ⟨_, heq⟩⟩
  · rw [heq]
    exact .refl router
  · rw [heq]
    exact .after_cleared (rearmed_queueInputForScreen node.value (moveTo point) _) rfl
      updateCaptureRemoteControl_warps
  · rw [heq]
    exact .after_kept rearmed_moveLocalCursorToActivePoint
      updateCaptureRemoteControl_mPendingLocalWarp updateCaptureRemoteControl_warps

theorem rearmed_ensureActiveLocalScreen (preferLocalPrimary : Bool) :
    Rearmed router (router.ensureActiveLocalScreen screens preferLocalPrimary) := by
  unfold ensureActiveLocalScreen
  split_ifs
  · exact rearmed_activateFirstLocalScreen
  · split
    · exact rearmed_switchActiveScreen screens _ router
    · exact .refl router
  · exact .refl router

theorem Handled.rearmed [EntryScaling] {event : InputEvent}
    (h : Handled screens router event router') : Rearmed router router' := by
  cases h with
  | idle | home | rested | stayed => exact .kept rfl rfl
  | failSafe => exact rearmed_activateFirstLocalScreen
  | forwarded => exact rearmed_queueInputForScreen _ _ _
  | clamped => exact .after_kept (rearmed_queueInputForScreen _ _ _) rfl rfl
  | crossed | left => exact .after_kept (rearmed_switchActiveScreen _ _ _) rfl rfl
  | echoed => exact .cleared rfl rfl

/-! ### Dropped samples -/

/-- A sample that is handled at home. -/
def localSample (screens : ServerScreenStore E) (router : ServerInputRouter E C) :
    InputEvent → Bool
  | .mouseMove _ => (router.activeScreen screens).any (·.isLocal)
  | _ => false

/-- A sample at home that is taken for the echo of the warp. -/
def drops (screens : ServerScreenStore E) (router : ServerInputRouter E C) : InputEvent → Bool
  | .mouseMove move =>
    match router.activeScreen screens with
    | some active => active.isLocal &&
        ((router.sampledLocal active move).suppressPendingLocalWarp (localPoint active move)).1
    | none => false
  | _ => false

omit [InputCapture C] in
theorem drops_iff {router : ServerInputRouter E C} {event : InputEvent} :
    router.drops screens event = true ↔ ∃ move active, event = .mouseMove move ∧
      router.activeScreen screens = some active ∧ active.isLocal = true ∧
      router.mPendingLocalWarp = some (localPoint active move) := by
  cases event with
  | mouseMove move =>
    cases hactive : router.activeScreen screens with
    | none => simp [drops, hactive]
    | some active =>
      have hpending : (router.sampledLocal active move).mPendingLocalWarp =
        router.mPendingLocalWarp := rfl
      by_cases hwarp : router.mPendingLocalWarp = some (localPoint active move) <;>
        simp [drops, hactive, suppressPendingLocalWarp, hpending, hwarp]
  | key | mouseButton | mouseWheel => simp [drops]

/-- A dropped sample ends the wait. -/
theorem mPendingLocalWarp_of_drops [EntryScaling] {router : ServerInputRouter E C}
    {event : InputEvent} (h : router.drops screens event = true) :
    (router.handleInputEvent screens event).mPendingLocalWarp = none := by
  obtain ⟨move, active, rfl, hactive, hlocal, hwarp⟩ := drops_iff.mp h
  rcases (handleInputEvent_handled screens router (.mouseMove move)).localMove hactive hlocal with
    ⟨_, heq⟩ | ⟨hne, _⟩ | ⟨hne, _⟩
  · rw [heq]
  · exact absurd hwarp hne
  · exact absurd hwarp hne

/-- A sample at home that is not dropped, at an edge with a remote neighbour, makes that one
active. -/
theorem activeScreen_of_not_drops [EntryScaling] {router : ServerInputRouter E C}
    {active : VirtualScreen E} {move : MouseMoveEvent} {edge : Edge} {key : ScreenKey}
    {node : ScreenNode E} (hwellFormed : screens.mTopology.WellFormed)
    (hactive : router.activeScreen screens = some active) (hlocal : active.isLocal = true)
    (hkeep : router.drops screens (.mouseMove move) = false)
    (hedge : screens.mTopology.hitEdge (localPoint active move) = some edge)
    (hneighbor : screens.mTopology.findNeighbor (localPoint active move).key edge = some key)
    (hfind : screens.findScreen key = some node) :
    (router.handleInputEvent screens (.mouseMove move)).activeScreen screens = some node.value := by
  have hwarp : router.mPendingLocalWarp ≠ some (localPoint active move) := by
    intro hpending
    have hdrops := drops_iff.mpr ⟨move, active, rfl, hactive, hlocal, hpending⟩
    rw [hkeep] at hdrops
    cases hdrops
  obtain ⟨source, hsource⟩ : ∃ source,
      screens.mTopology.findScreen (localPoint active move).key = some source := by
    unfold ScreenTopology.hitEdge at hedge
    split at hedge
    · cases hedge
    · next source hsource => exact ⟨source, hsource⟩
  have hcell : screens.mTopology.mCells.find? (neighborCell source.cell edge) = some key := by
    rwa [ScreenTopology.findNeighbor, hsource] at hneighbor
  obtain ⟨target, htarget, _⟩ := (hwellFormed.cells _ key).mp hcell
  have hmap := ScreenTopology.mapEntryPoint_eq_ok.mpr
    ⟨source, target, key, hsource, hneighbor, htarget, rfl⟩
  have hcrossing : crossingTarget screens (localPoint active move) = some
      (ScreenTopology.entryPoint source.info target.info key (localPoint active move) edge) := by
    rw [crossingTarget, hedge]
    simp only [hmap]
  have hkey : (ScreenTopology.entryPoint source.info target.info key (localPoint active move)
      edge).key = key := by
    cases edge <;> rfl
  rcases (handleInputEvent_handled screens router (.mouseMove move)).localMove hactive hlocal with
    ⟨hpending, _⟩ | ⟨_, hnone, _⟩ | ⟨_, found, hfound, heq⟩
  · exact absurd hpending hwarp
  · cases hcrossing.symm.trans hnone
  · obtain rfl := Option.some.inj (hcrossing.symm.trans hfound)
    rw [heq]
    exact (switchActiveScreen_found _ (hkey.symm ▸ hfind)).1

end ServerInputRouter

namespace Server

variable {E C : Type} [Endpoint E] [InputCapture C] {server : Server E (WarpLog C)}

theorem rearmed_registerScreens (endpoint : E) (ownerId : String) (screens : List ScreenInfo)
    (isLocal : Bool) :
    Rearmed server.mInput (server.registerScreens endpoint ownerId screens isLocal).mInput := by
  simp only [registerScreens]
  split_ifs
  · exact .after_cleared (rearmed_ensureActiveLocalScreen isLocal) (by simp [clearActiveState])
      clearActiveState_warps
  · exact rearmed_ensureActiveLocalScreen isLocal

theorem rearmed_onClosed (endpoint : E) :
    Rearmed server.mInput (server.onClosed endpoint).mInput := by
  have hremoved : Rearmed server.mInput (server.removeEndpointScreens endpoint).mInput := by
    simp only [removeEndpointScreens]
    split_ifs
    · exact .after_cleared (rearmed_ensureActiveLocalScreen false) (by simp [clearActiveState])
        clearActiveState_warps
    · exact .refl _
  cases hremoved with
  | kept pending warps => exact .kept pending warps
  | cleared pending warps => exact .cleared pending warps
  | warped point pending warps => exact .warped point pending warps

end Server

namespace Host

section Runs

variable {E C : Type} [Endpoint E] [InputCapture C] [EntryScaling]

/-- Every step of the host. -/
theorem Stepped.rearmed {host host' : Host E (WarpLog C)} {a : Action E (WarpLog C)}
    (h : Stepped host a host') : Rearmed host.server.mInput host'.server.mInput := by
  cases h with
  | registerLocal screens => exact Server.rearmed_registerScreens _ _ screens true
  | captured event => exact (handleInputEvent_handled _ host.server.mInput event).rearmed
  | signal signal =>
    refine .kept rfl ?_
    simp only [withServer, Server.onSignal, warps, Option.map_map]
    rfl
  | rejected | dropped | closed => exact Server.rearmed_onClosed _
  | reported => exact Server.rearmed_registerScreens _ _ _ false
  | accepted | greeted | ignored | published | delivered | broke | hungUp => exact .kept rfl rfl

/-! ### The history of a run -/

/-- What has happened since the last warp that succeeded. -/
structure SinceWarp where
  /-- Its target. -/
  target : Option (Nat × Int × Int) := none
  /-- The samples handled at home since then. -/
  samples : Nat := 0
  /-- Those of them that were dropped. -/
  dropped : Nat := 0
  deriving DecidableEq

def recordWarp (host : Host E (WarpLog C)) (a : Action E (WarpLog C)) (host' : Host E (WarpLog C))
    (past : SinceWarp) : SinceWarp :=
  if host'.server.mInput.warps ≠ host.server.mInput.warps then
    ⟨host'.server.mInput.warps.getLast?, 0, 0⟩
  else
    match a with
    | .captured event =>
      if host.server.mInput.localSample host.server.mScreens event then
        { past with
          samples := past.samples + 1
          dropped := past.dropped +
            if host.server.mInput.drops host.server.mScreens event then 1 else 0 }
      else past
    | _ => past

/-- The history of the actions from a host on. -/
def sinceWarp (host : Host E (WarpLog C)) (as : List (Action E (WarpLog C))) : SinceWarp :=
  history step recordWarp host as {}

/-- The router waits for the echo of the last warp, and nothing has been dropped since. -/
def Awaits (host : Host E (WarpLog C)) (past : SinceWarp) : Prop :=
  ∀ point, host.server.mInput.mPendingLocalWarp = some point →
    past.target = some (warpTarget point) ∧ past.dropped = 0

theorem Awaits.step {host host' : Host E (WarpLog C)} {a : Action E (WarpLog C)}
    {past : SinceWarp} (h : Awaits host past) (hstep : Stepped host a host') :
    Awaits host' (recordWarp host a host' past) := by
  intro point hpending
  unfold recordWarp
  cases hstep.rearmed with
  | cleared pending => cases pending.symm.trans hpending
  | warped found pending warps =>
    obtain rfl := Option.some.inj (pending.symm.trans hpending)
    rw [if_pos (by simp [warps])]
    exact ⟨by simp [warps], rfl⟩
  | kept pending warps =>
    rw [if_neg (by simp [warps])]
    obtain ⟨htarget, hdropped⟩ := h point (pending.symm.trans hpending)
    split
    · next event =>
      split_ifs with hsample hdrops
      · -- a dropped sample would have ended the wait
        cases hstep with
        | captured =>
          have hnone := mPendingLocalWarp_of_drops hdrops
          cases hnone.symm.trans hpending
      · exact ⟨htarget, hdropped⟩
      · exact ⟨htarget, hdropped⟩
    · exact ⟨htarget, hdropped⟩

theorem run_awaits {endpoint : E} {config : AppConfig} {configPath : String} {capture : C}
    {as : List (Action E (WarpLog C))} {host : Host E (WarpLog C)}
    (h : Run step unguarded (start endpoint config configPath ⟨capture, []⟩) as host) :
    Awaits host (sinceWarp (start endpoint config configPath ⟨capture, []⟩) as) := by
  refine h.history_invariant Awaits ?_ ?_
  · exact fun _ _ _ _ hawaits _ hnext => hawaits.step (step_stepped hnext)
  · intro point hpending
    simp [start, Server.start, setCapture, ServerInputRouter.init] at hpending

/-- A sample at home is dropped only on the exact target of the last warp that succeeded, and
only once for each warp. Any other one at an edge with a registered neighbour makes that
neighbour active. -/
theorem only_echoes_dropped {endpoint : E} {config : AppConfig} {configPath : String} {capture : C}
    {as : List (Action E (WarpLog C))} {host host' : Host E (WarpLog C)} {move : MouseMoveEvent}
    (h : Run step unguarded (start endpoint config configPath ⟨capture, []⟩) as host)
    (hstep : host.step (.captured (.mouseMove move)) = some host') :
    (host.server.mInput.drops host.server.mScreens (.mouseMove move) = true →
      (sinceWarp (start endpoint config configPath ⟨capture, []⟩) as).target =
        some (move.screenIndex, move.x, move.y) ∧
      (sinceWarp (start endpoint config configPath ⟨capture, []⟩) as).dropped = 0) ∧
    (host.server.mInput.drops host.server.mScreens (.mouseMove move) = false →
      ∀ active edge key node, host.server.mInput.activeScreen host.server.mScreens = some active →
        active.isLocal = true →
        host.server.mScreens.mTopology.hitEdge (localPoint active move) = some edge →
        host.server.mScreens.mTopology.findNeighbor (localPoint active move).key edge = some key →
        host.server.mScreens.findScreen key = some node →
        host'.server.mInput.activeScreen host'.server.mScreens = some node.value) := by
  constructor
  · intro hdrops
    obtain ⟨_, active, heq, _, _, hwarp⟩ := drops_iff.mp hdrops
    obtain rfl := InputEvent.mouseMove.inj heq
    exact run_awaits h _ hwarp
  · intro hkeep active edge key node hactive hlocal hedge hneighbor hfind
    obtain rfl : host.withServer (Server.handleInputEvent (.mouseMove move)) = host' := by
      simpa [step] using hstep
    exact activeScreen_of_not_drops (run_grounded h).wellFormed hactive hlocal hkeep hedge
      hneighbor hfind

end Runs

def warpedDesk : Host IPv4Endpoint (WarpLog MockInputCapture) :=
  start (loopback 24800) { machineId := "desk" } "" ⟨{}, []⟩

/-- The cursor crosses to a guest and comes home, and the first sample at home is not at the
edge any more. -/
def homecoming : List (Action IPv4Endpoint (WarpLog MockInputCapture)) :=
  [.registerLocal [deskMonitor], .accept (loopback 1001),
    .receive (loopback 1001) (.hello { machineId := "m" }), .publish (loopback 1001),
    .receive (loopback 1001) (.screens ⟨[sideMonitor]⟩),
    .captured (.mouseMove { x := 1919, y := 500 }), .captured (.mouseMove { x := 1900, y := 500 }),
    .captured (.mouseMove { x := 1890, y := 500 })]

theorem only_echoes_dropped_homecoming : ∃ host, Run step unguarded warpedDesk homecoming host ∧
    (sinceWarp warpedDesk homecoming).target = some (0, 1919, 500) ∧
    (sinceWarp warpedDesk homecoming).dropped = 0 := by
  obtain ⟨host, hrun, hdrops⟩ := exists_run_of_execute step (fun _ _ _ => true) warpedDesk
    homecoming (fun host => host.server.mInput.drops host.server.mScreens
      (.mouseMove { x := 1919, y := 500 })) (fun _ _ _ _ => trivial) (by decide +kernel)
  exact ⟨host, hrun, (only_echoes_dropped hrun rfl).1 hdrops⟩

/-- The next sample lies on the target of the warp. It is the second one since the warp, it is
at the edge to the guest, and it is dropped. -/
theorem late_sample_dropped : ∃ host, Run step unguarded warpedDesk homecoming host ∧
    host.server.mInput.drops host.server.mScreens (.mouseMove { x := 1919, y := 500 }) = true ∧
    host.server.mScreens.mTopology.hitEdge ⟨⟨"desk", 0⟩, 1919, 500⟩ = some .right ∧
    (sinceWarp warpedDesk homecoming).samples = 1 := by
  obtain ⟨host, hrun, hp⟩ := exists_run_of_execute step (fun _ _ _ => true) warpedDesk homecoming
    (fun host => decide (host.server.mInput.drops host.server.mScreens
        (.mouseMove { x := 1919, y := 500 }) = true ∧
      host.server.mScreens.mTopology.hitEdge ⟨⟨"desk", 0⟩, 1919, 500⟩ = some .right))
    (fun _ _ _ _ => trivial) (by decide +kernel)
  obtain ⟨hdrops, hedge⟩ := of_decide_eq_true hp
  exact ⟨host, hrun, hdrops, hedge, by decide +kernel⟩

end Host

end Mksync
