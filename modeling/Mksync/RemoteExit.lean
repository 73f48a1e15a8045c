import Mksync.EdgeCrossing
import Mksync.RemoteCursor

/-!
# How a remote screen is left

The border counts as hit by a cursor that stands on it. A remote screen is left by moving
across a border, or from a border on which the cursor already stands by a movement that does
not take it off, as after an entry there.
-/
namespace Mksync

open TransitionRuns

/-- The component of a movement that points out of the border. -/
def Edge.outward : Edge → Int × Int → Int
  | .left, delta => -delta.1
  | .right, delta => delta.1
  | .top, delta => -delta.2
  | .bottom, delta => delta.2

/-- A movement that ends on or beyond a border points across it or began there. -/
theorem ScreenInfo.Touches.before {info : ScreenInfo} {e : Edge} {point : ScreenPoint}
    {delta : Int × Int}
    (h : info.Touches e { point with x := point.x + delta.1, y := point.y + delta.2 }) :
    0 < e.outward delta ∨ info.Touches e point := by
  cases e <;> simp only [ScreenInfo.Touches, Edge.outward] at h ⊢ <;> omega

/-- From a pixel of the screen it is on the border itself that a movement without a component
across it ends. -/
theorem ScreenInfo.Touches.before_inside {info : ScreenInfo} {e : Edge} {point : ScreenPoint}
    {delta : Int × Int} (hinside : info.Contains point.x point.y)
    (h : info.Touches e { point with x := point.x + delta.1, y := point.y + delta.2 }) :
    0 < e.outward delta ∨ (e.outward delta = 0 ∧ info.OnBorder e point.x point.y) := by
  have hcontains := hinside
  obtain ⟨hx, hxw, hy, hyh⟩ := hinside
  cases e <;> simp only [ScreenInfo.Touches, Edge.outward, ScreenInfo.OnBorder] at h ⊢ <;>
    refine (lt_or_ge 0 _).imp id fun hle => ⟨?_, hcontains, ?_⟩ <;> omega

theorem neighborCell_injective {cell : GridPosition} {e e' : Edge}
    (h : neighborCell cell e = neighborCell cell e') : e = e' := by
  cases e <;> cases e' <;> simp [neighborCell] at h ⊢ <;> omega

/-- A neighbour lies across one edge only. -/
theorem ScreenTopology.WellFormed.edge_unique {t : ScreenTopology} (h : t.WellFormed)
    {a b : ScreenKey} {e e' : Edge} (hb : t.findNeighbor a e = some b)
    (hb' : t.findNeighbor a e' = some b) : e = e' := by
  obtain ⟨source, target, hsource, htarget, hcell⟩ := h.findNeighbor_eq_some.mp hb
  obtain ⟨source', target', hsource', htarget', hcell'⟩ := h.findNeighbor_eq_some.mp hb'
  rw [hsource] at hsource'
  rw [htarget] at htarget'
  cases hsource'
  cases htarget'
  exact neighborCell_injective (hcell.symm.trans hcell')

theorem ScreenTopology.WellFormed.findNeighbor_ne_self {t : ScreenTopology} (h : t.WellFormed)
    {a : ScreenKey} {e : Edge} : t.findNeighbor a e ≠ some a := by
  intro ha
  obtain ⟨source, target, hsource, htarget, hcell⟩ := h.findNeighbor_eq_some.mp ha
  rw [hsource] at htarget
  cases htarget
  have hx := congrArg GridPosition.x hcell
  have hy := congrArg GridPosition.y hcell
  cases e <;> simp only [neighborCell] at hx hy <;> omega

namespace ServerInputRouter

variable {E C : Type} [Endpoint E] {screens : ServerScreenStore E}
  {router router' : ServerInputRouter E C} {screen : VirtualScreen E} {move : MouseMoveEvent}

/-- The handlers decide by the topology alone. -/
theorem crossingTarget_eq_crossing [EntryScaling] (screens : ServerScreenStore E)
    (point : ScreenPoint) : crossingTarget screens point = screens.mTopology.crossing point := by
  apply Option.ext
  intro target
  rw [crossingTarget_eq_some, ScreenTopology.crossing_eq_some]

variable [InputCapture C] [EntryScaling]

/-- A move leaves a remote screen active, or the next point crosses into the screen that is
active afterwards. -/
theorem Handled.remote_active_cases (h : Handled screens router (.mouseMove move) router')
    (active : router.activeScreen screens = some screen) (remote : screen.isLocal = false) :
    router'.activeScreen screens = some screen ∨
    ∃ target node, crossingTarget screens (router.nextPoint screen move) = some target ∧
      screens.findScreen target.key = some node ∧
      router'.activeScreen screens = some node.value := by
  rcases h.remoteMove active remote with
    ⟨_, rfl⟩ | ⟨_, target, crossing, rfl⟩ | ⟨_, _, rfl⟩
  · exact .inl active
  · cases hfind : screens.findScreen target.key with
    | none =>
      rw [switchActiveScreen_of_absent hfind]
      exact .inl active
    | some node =>
      exact .inr ⟨target, node, crossing, hfind, (switchActiveScreen_found _ hfind).1⟩
  · refine .inl ?_
    simpa [activeScreen, sampledRemote] using active

/-- A screen that becomes active lies across a border that the next point touches. -/
theorem Handled.left_across (h : Handled screens router (.mouseMove move) router')
    (hg : screens.Grounded) (active : router.activeScreen screens = some screen)
    (remote : screen.isLocal = false) :
    router'.activeScreen screens = some screen ∨
    ∃ e source next, screens.mTopology.findScreen screen.key = some source ∧
      screens.mTopology.findNeighbor screen.key e = some next.key ∧
      router'.activeScreen screens = some next ∧
      source.info.Touches e (router.nextPoint screen move) := by
  refine (h.remote_active_cases active remote).imp_right ?_
  rintro ⟨target, node, hcrossing, hfind, hactive⟩
  have hkey : (router.nextPoint screen move).key = screen.key := virtualCursor_key screen router
  rw [crossingTarget_eq_crossing] at hcrossing
  obtain ⟨source, hsource⟩ : ∃ source, screens.mTopology.findScreen screen.key = some source := by
    obtain ⟨e, _, hmap⟩ := ScreenTopology.crossing_eq_some.mp hcrossing
    obtain ⟨source, _, _, hsource, _⟩ := ScreenTopology.mapEntryPoint_eq_ok.mp hmap
    exact ⟨source, hkey ▸ hsource⟩
  obtain ⟨e, _, htouches, _, hneighbor, _⟩ :=
    hg.wellFormed.crossing (hkey.symm ▸ hsource) hcrossing
  refine ⟨e, source, node.value, hsource, ?_, hactive, htouches⟩
  rw [(ServerScreenStore.findScreen_eq_some hfind).2, ← hkey, hneighbor]

end ServerInputRouter

namespace Host

open ServerInputRouter

variable {E C : Type} [Endpoint E] [InputCapture C] {host host' : Host E C}

omit [InputCapture C] in
/-- Without shared owner ids the topology's screen of the active key is the active screen. -/
theorem Confining.findScreen_active {screen : VirtualScreen E} (h : Confining host)
    (active : host.server.mInput.activeScreen host.server.mScreens = some screen) :
    host.server.mScreens.mTopology.findScreen screen.key = some screen.toTopologyScreen := by
  rcases h.pointer.active_cases with ⟨_, hnone⟩ | ⟨node, hnode, _, hsome⟩
  · simp [hnone] at active
  · obtain rfl := Option.some.inj (hsome.symm.trans active)
    exact h.agree.findScreen h.grounded hnode

/-- In every reachable state, a move leaves a remote screen only for a neighbour, and across
the edge to it: the movement points across the edge, or the cursor stood on or beyond that
border already. Without shared owner ids a movement that does not point across the edge has
no component across it, and the cursor stood on the border. -/
theorem remote_exit_across [EntryScaling] {server : E} {config : AppConfig} {configPath : String}
    {capture : C} {as : List (Action E C)} {screen : VirtualScreen E} {move : MouseMoveEvent}
    (hreach : Run step unguarded (start server config configPath capture) as host)
    (active : host.server.mInput.activeScreen host.server.mScreens = some screen)
    (remote : screen.isLocal = false)
    (hstep : host.step (.captured (.mouseMove move)) = some host') :
    (host'.server.mInput.activeScreen host'.server.mScreens = some screen ∨
      ∃ e next, host.server.mScreens.mTopology.findNeighbor screen.key e = some next.key ∧
        host'.server.mInput.activeScreen host'.server.mScreens = some next) ∧
    ∀ e next, host.server.mScreens.mTopology.findNeighbor screen.key e = some next.key →
      host'.server.mInput.activeScreen host'.server.mScreens = some next →
      (∃ source, host.server.mScreens.mTopology.findScreen screen.key = some source ∧
        (0 < e.outward (host.server.mInput.moveDelta move) ∨
          source.info.Touches e (host.server.mInput.virtualCursor screen))) ∧
      (Run step (fun _ _ after => after.OwnersDistinct) (start server config configPath capture)
          as host →
        0 < e.outward (host.server.mInput.moveDelta move) ∨
        (e.outward (host.server.mInput.moveDelta move) = 0 ∧ ∃ point,
          host.server.mInput.mActivePoint = some point ∧ point.key = screen.key ∧
          screen.info.OnBorder e point.x point.y)) := by
  have hgrounded := run_grounded hreach
  obtain rfl : host.withServer (Server.handleInputEvent (.mouseMove move)) = host' := by
    simpa [step] using hstep
  have hleft := (handleInputEvent_handled host.server.mScreens host.server.mInput
    (.mouseMove move)).left_across hgrounded active remote
  refine ⟨hleft.imp_right ?_, ?_⟩
  · rintro ⟨e, _, next, _, hneighbor, hactive, _⟩
    exact ⟨e, next, hneighbor, hactive⟩
  · intro e next hneighbor hactive
    obtain ⟨source, hsource, htouches⟩ : ∃ source,
        host.server.mScreens.mTopology.findScreen screen.key = some source ∧
        source.info.Touches e (host.server.mInput.nextPoint screen move) := by
      rcases hleft with hstayed | ⟨e', source, next', hsource, hneighbor', hactive', htouches⟩
      · obtain rfl := Option.some.inj (hstayed.symm.trans hactive)
        exact absurd hneighbor hgrounded.wellFormed.findNeighbor_ne_self
      · obtain rfl := Option.some.inj (hactive'.symm.trans hactive)
        obtain rfl := hgrounded.wellFormed.edge_unique hneighbor hneighbor'
        exact ⟨source, hsource, htouches⟩
    refine ⟨⟨source, hsource, htouches.before⟩, fun hrun => ?_⟩
    have hconfining := run_confining hrun
    obtain ⟨point, hpoint, hkey, hinside⟩ := hconfining.inside screen active remote
    have hsame := hsource.symm.trans (hconfining.findScreen_active active)
    cases hsame
    rw [nextPoint, virtualCursor_of_inside hpoint hkey] at htouches
    refine (htouches.before_inside hinside).imp_right ?_
    rintro ⟨hzero, hborder⟩
    exact ⟨hzero, point, hpoint, hkey, hborder⟩

/-- The cursor crosses to a guest's screen, and enters on its left border. -/
def guestEntered : List DeskAction :=
  .registerLocal [deskMonitor] :: connect 1001 "m" [sideMonitor] ++
    [.captured (.mouseMove { x := 1919, y := 500 })]

/-- The move leaves the remote screen for the neighbour across its left border. -/
def leavesLeft (move : MouseMoveEvent) (host : DeskHost) : Bool :=
  (host.server.mInput.activeScreen host.server.mScreens).any fun screen =>
    !screen.isLocal &&
    (host.step (.captured (.mouseMove move))).any fun host' : DeskHost =>
      (host'.server.mInput.activeScreen host'.server.mScreens).any fun next =>
        decide (host.server.mScreens.mTopology.findNeighbor screen.key .left = some next.key)

theorem guestEntered_leaves (move : MouseMoveEvent)
    (h : (execute step (fun _ _ after => decide (OwnersDistinct after)) deskHost
      guestEntered).any (leavesLeft move) = true) :
    ∃ host host' : DeskHost, ∃ screen next,
      Run step (fun _ _ after => after.OwnersDistinct) deskHost guestEntered host ∧
      host.server.mInput.activeScreen host.server.mScreens = some screen ∧
      screen.isLocal = false ∧ host.step (.captured (.mouseMove move)) = some host' ∧
      host.server.mScreens.mTopology.findNeighbor screen.key .left = some next.key ∧
      host'.server.mInput.activeScreen host'.server.mScreens = some next := by
  obtain ⟨host, hrun, hp⟩ := exists_run_of_execute step
    (fun _ _ after => decide (OwnersDistinct after)) deskHost guestEntered (leavesLeft move)
    (fun _ _ _ hcheck => of_decide_eq_true hcheck) h
  simp only [leavesLeft, Bool.and_eq_true, Option.any_eq_true, decide_eq_true_eq,
    Bool.not_eq_true'] at hp
  obtain ⟨screen, active, remote, host', hstep, next, hactive, hneighbor⟩ := hp
  exact ⟨host, host', screen, next, hrun, active, remote, hstep, hneighbor, hactive⟩

/-- Moving back to the left leaves the guest's screen across its left border. -/
theorem remote_exit_across_guest : ∃ host host' : DeskHost, ∃ screen next,
    host.step (.captured (.mouseMove { deltaX := -1, deltaY := 5 })) = some host' ∧
    host.server.mInput.activeScreen host.server.mScreens = some screen ∧
    host'.server.mInput.activeScreen host'.server.mScreens = some next ∧
    (0 < Edge.left.outward (host.server.mInput.moveDelta { deltaX := -1, deltaY := 5 }) ∨
      (Edge.left.outward (host.server.mInput.moveDelta { deltaX := -1, deltaY := 5 }) = 0 ∧
        ∃ point, host.server.mInput.mActivePoint = some point ∧ point.key = screen.key ∧
          screen.info.OnBorder .left point.x point.y)) := by
  obtain ⟨host, host', screen, next, hrun, active, remote, hstep, hneighbor, hactive⟩ :=
    guestEntered_leaves { deltaX := -1, deltaY := 5 } (by decide +kernel)
  exact ⟨host, host', screen, next, hstep, active, hactive,
    ((remote_exit_across hrun.forget active remote hstep).2 .left next hneighbor hactive).2 hrun⟩

/-- A movement along the border just entered goes back across it. -/
theorem parallel_movement_leaves : ∃ host host' : DeskHost, ∃ screen next,
    Run step (fun _ _ after => after.OwnersDistinct) deskHost guestEntered host ∧
    host.server.mInput.activeScreen host.server.mScreens = some screen ∧
    screen.isLocal = false ∧
    host.step (.captured (.mouseMove { deltaX := 0, deltaY := 5 })) = some host' ∧
    host.server.mScreens.mTopology.findNeighbor screen.key .left = some next.key ∧
    host'.server.mInput.activeScreen host'.server.mScreens = some next ∧
    ¬ (host.server.mInput.moveDelta { deltaX := 0, deltaY := 5 }).1 < 0 := by
  obtain ⟨host, host', screen, next, hrun, active, remote, hstep, hneighbor, hactive⟩ :=
    guestEntered_leaves { deltaX := 0, deltaY := 5 } (by decide +kernel)
  exact ⟨host, host', screen, next, hrun, active, remote, hstep, hneighbor, hactive,
    by simp [moveDelta]⟩

end Host
end Mksync
