import Mksync.ActivePointer

/-!
# The remote cursor stays on the active screen

The virtual cursor comes from an entry mapping, from a delta with a clamp, or is the default
point. As long as owner ids are not shared it is a pixel of the active remote screen, and
what is enqueued goes to that screen's client and carries its pixels.
-/
namespace Mksync

open TransitionRuns

namespace Host

variable {E C : Type} [Endpoint E] {host host' : Host E C}

/-- No connection shares its owner id with another one or with the server. -/
def OwnersDistinct (host : Host E C) : Prop :=
  (∀ e e' owner, host.admittedOwner e = some owner → host.admittedOwner e' = some owner → e = e') ∧
  ∀ e, host.admittedOwner e ≠ some (ownOwnerId host.server)

theorem mem_entries_of_admitted {e : E} {owner : String} (h : host.admittedOwner e = some owner) :
    ∃ entry ∈ host.sessions.entries, entry.1 = e := by
  cases live : host.sessions.find? e with
  | none => simp [admittedOwner, live] at h
  | some session => exact ⟨(e, session), OrderedMap.find?_eq_some.mp live, rfl⟩

/-- Only the endpoints that have a session need to be compared. -/
theorem ownersDistinct_iff : host.OwnersDistinct ↔
    ∀ p ∈ host.sessions.entries, host.admittedOwner p.1 ≠ some (ownOwnerId host.server) ∧
      ∀ q ∈ host.sessions.entries, ∀ owner ∈ host.admittedOwner p.1,
        host.admittedOwner q.1 = some owner → p.1 = q.1 := by
  constructor
  · exact fun h p _ => ⟨h.2 p.1, fun q _ owner howner hq => h.1 p.1 q.1 owner howner hq⟩
  · intro h
    refine ⟨fun e e' owner he he' => ?_, fun e he => ?_⟩
    · obtain ⟨p, hp, rfl⟩ := mem_entries_of_admitted he
      obtain ⟨q, hq, rfl⟩ := mem_entries_of_admitted he'
      exact (h p hp).2 q hq owner he he'
    · obtain ⟨p, hp, rfl⟩ := mem_entries_of_admitted he
      exact (h p hp).1 he

instance (host : Host E C) : Decidable host.OwnersDistinct :=
  decidable_of_iff _ ownersDistinct_iff.symm

theorem Owned.soleOwner (h : Owned host) (hdistinct : host.OwnersDistinct) (endpoint : E) :
    host.server.mScreens.SoleOwner endpoint := by
  intro node hnode howner
  obtain ⟨other, hother, hkey, hid⟩ := ServerScreenStore.mem_ownerIds.mp howner
  rcases h.nodes node hnode with ⟨hself, _, hown⟩ | ⟨_, _, hadmitted⟩ <;>
    rcases h.nodes other hother with ⟨hself', _, hown'⟩ | ⟨_, _, hadmitted'⟩
  · rw [hself, ← hkey, hself']
  · exact absurd (hadmitted'.trans (by rw [hid, hown])) (hdistinct.2 other.key)
  · exact absurd (hadmitted.trans (by rw [← hid, hown'])) (hdistinct.2 node.key)
  · rw [← hkey]
    exact hdistinct.1 _ _ _ hadmitted (hadmitted'.trans (by rw [hid]))

end Host

namespace ServerInputRouter

variable {E C : Type} [Endpoint E] {screens screens' : ServerScreenStore E}
  {router router' : ServerInputRouter E C}

/-- If the active screen is remote, the virtual cursor is one of its pixels. -/
def CursorInside (screens : ServerScreenStore E) (router : ServerInputRouter E C) : Prop :=
  ∀ screen, router.activeScreen screens = some screen → screen.isLocal = false →
    ∃ point, router.mActivePoint = some point ∧ point.key = screen.key ∧
      screen.info.Contains point.x point.y

/-- An input event for the screen, with the cursor at the point. -/
def Confined (screen : VirtualScreen E) (point : ScreenPoint) : InputEvent → Prop
  | .key _ => True
  | .mouseMove move =>
    move.screenIndex = screen.key.screenIndex ∧ screen.info.Contains move.x move.y
  | .mouseButton button => button.screenIndex = screen.key.screenIndex ∧
      screen.info.Contains button.x button.y ∧ button.x = point.x ∧ button.y = point.y
  | .mouseWheel wheel => wheel.x = point.x ∧ wheel.y = point.y

theorem CursorInside.congr (h : CursorInside screens router)
    (hactive : router'.activeScreen screens' = router.activeScreen screens)
    (hpoint : router'.mActivePoint = router.mActivePoint) : CursorInside screens' router' := by
  unfold CursorInside
  rw [hactive, hpoint]
  exact h

theorem cursorInside_of_local (h : router.remoteActive screens = false) :
    CursorInside screens router := by
  intro screen hscreen hremote
  simp [remoteActive_of_active hscreen, hremote] at h

theorem cursorInside_of_mem {node : ScreenNode E} {point : ScreenPoint}
    (hactive : router.activeScreen screens = some node.value)
    (hpoint : router.mActivePoint = some point) (hkey : point.key = node.value.key)
    (hinside : node.value.info.Contains point.x point.y) : CursorInside screens router := by
  intro screen hscreen _
  obtain rfl : node.value = screen := Option.some.inj (hactive.symm.trans hscreen)
  exact ⟨point, hpoint, hkey, hinside⟩

/-- With the cursor inside, the sampled virtual cursor is the one before. -/
theorem virtualCursor_of_inside {screen : VirtualScreen E} {point : ScreenPoint}
    (hpoint : router.mActivePoint = some point) (hkey : point.key = screen.key) :
    router.virtualCursor screen = point := by
  simp [virtualCursor, hpoint, hkey]

/-- A point clamped to a screen of positive size is one of its pixels. -/
theorem clampToScreen_contains {info : ScreenInfo} (hw : 0 < info.width) (hh : 0 < info.height)
    (point : ScreenPoint) :
    info.Contains (clampToScreen info point).x (clampToScreen info point).y := by
  have hx := clamp_mem (v := point.x) (le_max_left 0 (info.width - 1))
  have hy := clamp_mem (v := point.y) (le_max_left 0 (info.height - 1))
  have hmaxw : max 0 (info.width - 1) = info.width - 1 := max_eq_right (by omega)
  have hmaxh : max 0 (info.height - 1) = info.height - 1 := max_eq_right (by omega)
  rw [hmaxw] at hx
  rw [hmaxh] at hy
  simp only [clampToScreen, ScreenInfo.Contains, hmaxw, hmaxh]
  omega

/-- A crossing lands on a pixel of the screen the store has under the target's key. -/
theorem crossingTarget_contains [EntryScaling] (hagree : screens.Agree) (hg : screens.Grounded)
    {point target : ScreenPoint} (h : crossingTarget screens point = some target)
    {node : ScreenNode E} (hfind : screens.findScreen target.key = some node) :
    node.value.info.Contains target.x target.y := by
  obtain ⟨edge, _, hmap⟩ := crossingTarget_eq_some.mp h
  obtain ⟨screen, hscreen, hinside⟩ := hg.wellFormed.mapEntryPoint hmap
  obtain ⟨hnode, hkey⟩ := ServerScreenStore.findScreen_eq_some hfind
  have hsame := hagree.findScreen hg hnode
  rw [hkey, hscreen] at hsame
  obtain rfl := Option.some.inj hsame
  exact hinside

theorem CursorInside.sampledRemote (h : CursorInside screens router) {screen : VirtualScreen E}
    (hactive : router.activeScreen screens = some screen) (hremote : screen.isLocal = false)
    (move : MouseMoveEvent) : CursorInside screens (router.sampledRemote screen move) := by
  obtain ⟨point, hpoint, hkey, hinside⟩ := h screen hactive hremote
  refine h.congr rfl ?_
  simp [ServerInputRouter.sampledRemote, virtualCursor_of_inside hpoint hkey, hpoint]

/-- The clamped point of a remote move is a pixel of the active screen. -/
theorem clamped_contains (hagree : screens.Agree) (hg : screens.Grounded)
    (hpointer : PointerValid screens router) {screen : VirtualScreen E}
    (hactive : router.activeScreen screens = some screen) (point : ScreenPoint) :
    screen.info.Contains (clampToScreen screen.info point).x
      (clampToScreen screen.info point).y := by
  rcases hpointer.active_cases with ⟨_, hnone⟩ | ⟨node, hnode, _, hscreen⟩
  · simp [hactive] at hnone
  · obtain rfl : screen = node.value := Option.some.inj (hactive.symm.trans hscreen)
    have hrect := hg.wellFormed.rects _ _ (hagree.findScreen hg hnode)
    exact clampToScreen_contains hrect.1 hrect.2 point

variable [InputCapture C]

theorem CursorInside.switchActiveScreen (h : CursorInside screens router) {point : ScreenPoint}
    (hentry : ∀ node, screens.findScreen point.key = some node → node.value.isLocal = false →
      node.value.info.Contains point.x point.y) :
    CursorInside screens (router.switchActiveScreen screens point) := by
  cases hfind : screens.findScreen point.key with
  | none => rwa [switchActiveScreen_of_absent hfind]
  | some node =>
    obtain ⟨hactive, hpoint⟩ := switchActiveScreen_found router hfind
    cases hlocal : node.value.isLocal with
    | false =>
      exact cursorInside_of_mem hactive hpoint (ServerScreenStore.findScreen_eq_some hfind).2.symm
        (hentry node hfind hlocal)
    | true =>
      refine cursorInside_of_local ?_
      rw [remoteActive_of_active hactive, hlocal]
      rfl

/-- Handling an event keeps the cursor inside. -/
theorem Handled.cursorInside [EntryScaling] {event : InputEvent}
    (h : Handled screens router event router')
    (hagree : screens.Agree) (hg : screens.Grounded) (hpointer : PointerValid screens router)
    (hinside : CursorInside screens router) : CursorInside screens router' := by
  cases h with
  | idle | home => exact hinside
  | failSafe => exact cursorInside_of_local (remoteActive_activateFirstLocalScreen screens router)
  | forwarded => exact hinside.congr (by simp [activeScreen]) (by simp)
  | rested active remote => exact hinside.sampledRemote active remote _
  | crossed active remote _ crossing =>
    exact (hinside.sampledRemote active remote _).switchActiveScreen fun node hfind _ =>
      crossingTarget_contains hagree hg crossing hfind
  | @clamped move screen active remote =>
    obtain ⟨point, hpoint, hkey, _⟩ := hinside screen active remote
    intro found hfound _
    have hsame : router.activeScreen screens = some found := by
      simpa [activeScreen, ServerInputRouter.sampledRemote] using hfound
    obtain rfl : screen = found := Option.some.inj (active.symm.trans hsame)
    refine ⟨_, by simp; rfl, ?_, clamped_contains hagree hg hpointer active _⟩
    simp [clampToScreen, nextPoint, virtualCursor_of_inside hpoint hkey, hkey]
  | @echoed move screen active isLocal =>
    refine cursorInside_of_local ?_
    have hactive : ({ router.sampledLocal screen move with
      mPendingLocalWarp := none } : ServerInputRouter E C).activeScreen screens = some screen :=
        active
    rw [remoteActive_of_active hactive, isLocal]
    rfl
  | @stayed move screen active isLocal =>
    refine cursorInside_of_local ?_
    have hactive : (router.sampledLocal screen move).activeScreen screens = some screen := active
    rw [remoteActive_of_active hactive, isLocal]
    rfl
  | @left move screen target active isLocal _ crossing =>
    have hactive : (router.sampledLocal screen move).activeScreen screens = some screen := active
    have hlocal : CursorInside screens (router.sampledLocal screen move) := by
      refine cursorInside_of_local ?_
      rw [remoteActive_of_active hactive, isLocal]
      rfl
    exact hlocal.switchActiveScreen fun node hfind _ =>
      crossingTarget_contains hagree hg crossing hfind

/-- Screens that go and come keep the cursor inside. -/
theorem Rehomed.cursorInside (h : Rehomed screens screens' router router')
    (hagree' : screens'.Agree) (hinside : CursorInside screens router) :
    CursorInside screens' router' := by
  cases h with
  | kept _ same => exact hinside.congr same rfl
  | cleared | woken => exact cursorInside_of_local (remoteActive_activateFirstLocalScreen _ _)
  | @preferred node _ same first =>
    refine CursorInside.switchActiveScreen (hinside.congr same rfl) fun found hfound hremote => ?_
    -- the first local screen is the only one under its key
    obtain ⟨hnode, hlocal⟩ := ServerScreenStore.firstLocalScreen_spec first
    obtain ⟨hmem, hkey⟩ := ServerScreenStore.findScreen_eq_some hfound
    obtain rfl := hagree'.eq_of_key hnode hmem hkey
    simp [hlocal] at hremote

/-! ### What is enqueued -/

omit [InputCapture C] in
/-- A button or wheel event is put at the virtual cursor. -/
theorem confined_eventAtActivePoint {screen : VirtualScreen E} {point : ScreenPoint}
    (hactive : router.activeScreen screens = some screen)
    (hpoint : router.mActivePoint = some point) (hkey : point.key = screen.key)
    (hinside : screen.info.Contains point.x point.y) {event : InputEvent}
    (hmove : ∀ move, event ≠ .mouseMove move) :
    Confined screen point (router.eventAtActivePoint screens event) := by
  cases event with
  | key => simp [eventAtActivePoint, hactive, hpoint, hkey, Confined]
  | mouseMove move => exact absurd rfl (hmove move)
  | mouseButton => simp [eventAtActivePoint, hactive, hpoint, hkey, Confined, hinside]
  | mouseWheel => simp [eventAtActivePoint, hactive, hpoint, hkey, Confined]

/-- What a router enqueued is confined to the screen that is active then. -/
def SentConfined (screens : ServerScreenStore E) (before after : ServerInputRouter E C) : Prop :=
  ∃ out, Sent before.mSenders out after.mSenders ∧
    ∀ endpoint event, out = some (endpoint, event) → ∃ screen point,
      after.activeScreen screens = some screen ∧ screen.isLocal = false ∧
      endpoint = screen.endpoint ∧ after.mActivePoint = some point ∧ Confined screen point event

omit [InputCapture C] in
theorem sentConfined_nothing (h : router'.mSenders = router.mSenders) :
    SentConfined screens router router' :=
  ⟨none, by rw [h]; exact .nothing, nofun⟩

theorem sentConfined_switchActiveScreen (router : ServerInputRouter E C) {point : ScreenPoint}
    (hentry : ∀ node, screens.findScreen point.key = some node → node.value.isLocal = false →
      node.value.info.Contains point.x point.y) :
    SentConfined screens router (router.switchActiveScreen screens point) := by
  obtain ⟨out, hsent, hout⟩ := switchActiveScreen_sent screens point router
  refine ⟨out, hsent, ?_⟩
  rintro endpoint event rfl
  obtain ⟨node, hfind, hremote, heq⟩ := hout _ rfl
  obtain ⟨rfl, rfl⟩ := Prod.mk.inj heq
  obtain ⟨hactive, hpoint, _⟩ := switchActiveScreen_remote_active router hfind hremote
  have hkey := (ServerScreenStore.findScreen_eq_some hfind).2
  refine ⟨node.value, point, hactive, hremote, rfl, hpoint, ?_⟩
  exact ⟨by simp [hkey], hentry node hfind hremote⟩

theorem Handled.sentConfined [EntryScaling] {event : InputEvent}
    (h : Handled screens router event router') (hagree : screens.Agree) (hg : screens.Grounded)
    (hpointer : PointerValid screens router) (hinside : CursorInside screens router) :
    SentConfined screens router router' := by
  cases h with
  | idle | home | rested | echoed | stayed => exact sentConfined_nothing rfl
  | failSafe => exact sentConfined_nothing (by simp)
  | @forwarded event screen active remote noF12 noMove =>
    obtain ⟨point, hpoint, hkey, hcontains⟩ := hinside screen active remote
    obtain ⟨out, hsent, hout⟩ := queueInputForScreen_sent screen
      (router.eventAtActivePoint screens event) router
    refine ⟨out, hsent, ?_⟩
    rintro endpoint sent rfl
    obtain ⟨rfl, rfl⟩ := Prod.mk.inj (hout _ rfl)
    exact ⟨screen, point, by simpa [activeScreen] using active, remote, rfl, by simpa using hpoint,
      confined_eventAtActivePoint active hpoint hkey hcontains noMove⟩
  | @crossed move screen target active remote delta crossing =>
    exact sentConfined_switchActiveScreen (router.sampledRemote screen move)
      fun node hfind _ => crossingTarget_contains hagree hg crossing hfind
  | @clamped move screen active remote =>
    obtain ⟨point, hpoint, hkey, _⟩ := hinside screen active remote
    obtain ⟨out, hsent, hout⟩ := queueInputForScreen_sent screen
      (moveTo (clampToScreen screen.info (router.nextPoint screen move)))
      { router.sampledRemote screen move with
        mActivePoint := some (clampToScreen screen.info (router.nextPoint screen move)) }
    refine ⟨out, hsent, ?_⟩
    rintro endpoint sent rfl
    obtain ⟨rfl, rfl⟩ := Prod.mk.inj (hout _ rfl)
    refine ⟨screen, clampToScreen screen.info (router.nextPoint screen move), ?_, remote, rfl,
      by simp, ?_, clamped_contains hagree hg hpointer active _⟩
    · simpa [activeScreen, ServerInputRouter.sampledRemote] using active
    · simp [clampToScreen, nextPoint, virtualCursor_of_inside hpoint hkey, hkey]
  | @left move screen target active isLocal noEcho crossing =>
    exact sentConfined_switchActiveScreen (router.sampledLocal screen move)
      fun node hfind _ => crossingTarget_contains hagree hg crossing hfind

end ServerInputRouter

namespace Host

open ServerInputRouter

variable {E C : Type} [Endpoint E] [InputCapture C] {host host' : Host E C}

/-- What every state of a run with distinct owners keeps. -/
structure Confining (host : Host E C) : Prop where
  grounded : host.server.mScreens.Grounded
  valid : SessionsValid host
  owned : Owned host
  distinct : host.OwnersDistinct
  pointer : PointerValid host.server.mScreens host.server.mInput
  agree : host.server.mScreens.Agree
  inside : CursorInside host.server.mScreens host.server.mInput

theorem Confining.step [EntryScaling] {a : Action E C} (h : Confining host)
    (hs : Stepped host a host')
    (hdistinct : host'.OwnersDistinct) : Confining host' := by
  have hagree : host'.server.mScreens.Agree := (hs.storeStep.agree_iff h.agree h.grounded).mpr
    fun endpoint _ => h.owned.soleOwner h.distinct endpoint
  refine ⟨hs.storeStep.grounded h.grounded, h.valid.step hs, h.owned.step h.valid hs, hdistinct,
    pointerValid_step h.pointer hs, hagree, ?_⟩
  cases hs with
  | registerLocal | reported =>
    exact (Server.registerScreens_rehomed h.pointer _ _ _ _).cursorInside hagree h.inside
  | captured event =>
    exact (handleInputEvent_handled _ _ event).cursorInside h.agree h.grounded h.pointer h.inside
  | @rejected endpoint | @dropped endpoint | @closed endpoint =>
    have herased : (host.server.removeEndpointScreens endpoint).mScreens.Agree := by
      rw [Server.removeEndpointScreens_mScreens]
      exact (h.agree.eraseEndpoint h.grounded (h.owned.soleOwner h.distinct endpoint))
    have hinside := (Server.removeEndpointScreens_rehomed h.pointer endpoint).cursorInside herased
      h.inside
    exact hinside.congr rfl rfl
  | signal | accepted | greeted | ignored | published | delivered | broke | hungUp =>
    exact h.inside.congr rfl rfl

theorem run_confining [EntryScaling] {endpoint : E} {config : AppConfig} {configPath : String}
    {capture : C} {as : List (Action E C)}
    (h : Run step (fun _ _ after => after.OwnersDistinct)
      (start endpoint config configPath capture) as host) : Confining host := by
  have hstart : Confining (start endpoint config configPath capture) := by
    have hstart : Run step unguarded (start endpoint config configPath capture) [] _ := .refl _
    refine ⟨run_grounded hstart, (run_owned hstart).1, (run_owned hstart).2,
      ⟨fun _ _ _ he => (nomatch he), fun _ he => (nomatch he)⟩, run_pointerValid hstart,
      ServerScreenStore.agree_init config configPath, fun screen hscreen => ?_⟩
    simp [start, Server.start, setCapture, ServerInputRouter.init, activeScreen] at hscreen
  exact h.invariant Confining
    (fun _ _ _ hs hdistinct hnext => hs.step (step_stepped hnext) hdistinct) hstart

/-- In a run whose connections never share an owner id: while a remote screen is active the
virtual cursor is one of its pixels, and an input message enqueued for a captured event goes
to the endpoint of the active screen and carries pixels of it. -/
theorem remote_cursor_confined [EntryScaling] {endpoint : E} {config : AppConfig}
    {configPath : String}
    {capture : C} {as : List (Action E C)}
    (h : Run step (fun _ _ after => after.OwnersDistinct)
      (start endpoint config configPath capture) as host) :
    CursorInside host.server.mScreens host.server.mInput ∧
    ∀ event host', host.step (.captured event) = some host' →
      SentConfined host'.server.mScreens host.server.mInput host'.server.mInput := by
  have hconfining := run_confining h
  refine ⟨hconfining.inside, fun event host' hstep => ?_⟩
  obtain rfl : host.withServer (Server.handleInputEvent event) = host' := by
    simpa [step] using hstep
  exact (handleInputEvent_handled _ _ event).sentConfined hconfining.agree hconfining.grounded
    hconfining.pointer hconfining.inside

/-- The cursor crosses to a guest's screen, moves there and clicks. -/
def guestClick : List DeskAction :=
  .registerLocal [deskMonitor] :: connect 1001 "m" [sideMonitor] ++
    [.captured (.mouseMove { x := 1919, y := 500 }),
      .captured (.mouseMove { deltaX := 5000, deltaY := 30 }),
      .captured (.mouseButton { button := .left })]

theorem remote_cursor_confined_guestClick : ∃ host : DeskHost,
    Run step (fun _ _ after => after.OwnersDistinct) deskHost guestClick host ∧
    host.server.mInput.remoteActive host.server.mScreens = true ∧
    CursorInside host.server.mScreens host.server.mInput := by
  obtain ⟨host, hrun, hremote⟩ := exists_run_of_execute step
    (fun _ _ after => decide (OwnersDistinct after)) deskHost guestClick
    (fun host : DeskHost => host.server.mInput.remoteActive host.server.mScreens)
    (fun _ _ _ hcheck => of_decide_eq_true hcheck) (by decide +kernel)
  exact ⟨host, hrun, hremote, (remote_cursor_confined hrun).1⟩

end Host
end Mksync
