import Mksync.ServerInputRouter

/-!
# What one captured event does to the router

Every outcome of `handleInputEvent` is one constructor of `Handled`. The invariants of the
router are proved by cases on it and never unfold the handlers again.
-/
namespace Mksync.ServerInputRouter

variable {E C : Type} [Endpoint E]

/-- An event is dropped, or it is appended to the queue of the screen's endpoint. -/
theorem queueInputForScreen_cases (screen : VirtualScreen E) (event : InputEvent)
    (router : ServerInputRouter E C) :
    (router.queueInputForScreen screen event = (false, router) ∧
      (screen.isLocal = false → ∀ sender, router.mSenders.find? screen.endpoint = some sender →
        sender.accepts = false)) ∨
    ∃ sender, screen.isLocal = false ∧ router.mSenders.find? screen.endpoint = some sender ∧
      sender.accepts = true ∧
      router.queueInputForScreen screen event = (true, { router with
        mSenders := router.mSenders.insertOrAssign screen.endpoint
          { sender with queue := sender.queue ++ [.input ⟨event⟩] } }) := by
  unfold queueInputForScreen
  cases hl : screen.isLocal with
  | true => simp
  | false =>
    cases hs : router.mSenders.find? screen.endpoint with
    | none => simp
    | some sender => cases ha : sender.accepts <;> simp [Channel.trySend, ha]

section QueueFields

variable (screen : VirtualScreen E) (event : InputEvent) (router : ServerInputRouter E C)

@[simp] theorem queueInputForScreen_mCapture :
    (router.queueInputForScreen screen event).2.mCapture = router.mCapture := by
  rcases queueInputForScreen_cases screen event router with ⟨h, _⟩ | ⟨_, _, _, _, h⟩ <;> rw [h]

@[simp] theorem queueInputForScreen_mActiveScreen :
    (router.queueInputForScreen screen event).2.mActiveScreen = router.mActiveScreen := by
  rcases queueInputForScreen_cases screen event router with ⟨h, _⟩ | ⟨_, _, _, _, h⟩ <;> rw [h]

@[simp] theorem queueInputForScreen_mActivePoint :
    (router.queueInputForScreen screen event).2.mActivePoint = router.mActivePoint := by
  rcases queueInputForScreen_cases screen event router with ⟨h, _⟩ | ⟨_, _, _, _, h⟩ <;> rw [h]

@[simp] theorem queueInputForScreen_mLastLocalMouse :
    (router.queueInputForScreen screen event).2.mLastLocalMouse = router.mLastLocalMouse := by
  rcases queueInputForScreen_cases screen event router with ⟨h, _⟩ | ⟨_, _, _, _, h⟩ <;> rw [h]

end QueueFields

/-- A call of the router enqueues at most one input message. -/
inductive Sent (senders : ClientSenders E) : Option (E × InputEvent) → ClientSenders E → Prop
  | nothing : Sent senders none senders
  | input {endpoint : E} {sender : Channel} (event : InputEvent)
      (live : senders.find? endpoint = some sender) (accepts : sender.accepts = true) :
      Sent senders (some (endpoint, event)) (senders.insertOrAssign endpoint
        { sender with queue := sender.queue ++ [.input ⟨event⟩] })

/-- No sender appears or disappears. -/
theorem Sent.isSome_find? {senders senders' : ClientSenders E} {out : Option (E × InputEvent)}
    (h : Sent senders out senders') (endpoint : E) :
    (senders'.find? endpoint).isSome = (senders.find? endpoint).isSome := by
  cases h with
  | nothing => rfl
  | @input e sender event live accepts =>
    rw [OrderedMap.find?_insertOrAssign]
    split_ifs with heq
    · simp [heq, live]
    · rfl

/-- What is enqueued comes behind what waits. -/
theorem Sent.extends {senders senders' : ClientSenders E} {out : Option (E × InputEvent)}
    (h : Sent senders out senders') (endpoint : E) :
    Option.Rel Channel.Extends (senders.find? endpoint) (senders'.find? endpoint) := by
  cases h with
  | nothing => exact senders.rel_find?_self Channel.Extends.refl endpoint
  | @input target sender event live accepts =>
    refine OrderedMap.rel_find?_insertOrAssign Channel.Extends.refl live ?_ endpoint
    exact ⟨rfl, List.prefix_append _ _⟩

theorem queueInputForScreen_sent (screen : VirtualScreen E) (event : InputEvent)
    (router : ServerInputRouter E C) :
    ∃ out, Sent router.mSenders out (router.queueInputForScreen screen event).2.mSenders ∧
      ∀ o ∈ out, o = (screen.endpoint, event) := by
  rcases queueInputForScreen_cases screen event router with
    ⟨heq, _⟩ | ⟨sender, _, live, accepts, heq⟩
  · exact ⟨none, by rw [heq]; exact .nothing, nofun⟩
  · exact ⟨some (screen.endpoint, event), by rw [heq]; exact .input event live accepts,
      by simp⟩

variable {screens : ServerScreenStore E} {router : ServerInputRouter E C}

theorem remoteActive_of_active {screen : VirtualScreen E}
    (h : router.activeScreen screens = some screen) :
    router.remoteActive screens = !screen.isLocal := by
  simp [remoteActive, h]

variable [InputCapture C]

section Fields

variable (screens : ServerScreenStore E) (router : ServerInputRouter E C)

/-- Asking for the mode touches the capture only. -/
theorem updateCaptureRemoteControl_eq : router.updateCaptureRemoteControl screens = { router with
    mCapture := router.mCapture.map fun capture =>
      (InputCapture.setRemoteControlActive (router.remoteActive screens) capture).2 } := by
  unfold updateCaptureRemoteControl
  cases router with
  | mk senders capture => cases capture <;> rfl

@[simp] theorem updateCaptureRemoteControl_mSenders :
    (router.updateCaptureRemoteControl screens).mSenders = router.mSenders := by
  rw [updateCaptureRemoteControl_eq]

@[simp] theorem updateCaptureRemoteControl_mActiveScreen :
    (router.updateCaptureRemoteControl screens).mActiveScreen = router.mActiveScreen := by
  rw [updateCaptureRemoteControl_eq]

@[simp] theorem updateCaptureRemoteControl_mActivePoint :
    (router.updateCaptureRemoteControl screens).mActivePoint = router.mActivePoint := by
  rw [updateCaptureRemoteControl_eq]

@[simp] theorem updateCaptureRemoteControl_mLastLocalMouse :
    (router.updateCaptureRemoteControl screens).mLastLocalMouse = router.mLastLocalMouse := by
  rw [updateCaptureRemoteControl_eq]

@[simp] theorem updateCaptureRemoteControl_activeScreen :
    (router.updateCaptureRemoteControl screens).activeScreen screens =
      router.activeScreen screens := by
  rw [updateCaptureRemoteControl_eq, activeScreen, activeScreen]

@[simp] theorem updateCaptureRemoteControl_mCapture :
    (router.updateCaptureRemoteControl screens).mCapture = router.mCapture.map fun capture =>
      (InputCapture.setRemoteControlActive (router.remoteActive screens) capture).2 := by
  rw [updateCaptureRemoteControl_eq]

@[simp] theorem clearActiveState_mSenders :
    (router.clearActiveState screens).mSenders = router.mSenders := by
  simp [clearActiveState]

@[simp] theorem clearActiveState_mActiveScreen :
    (router.clearActiveState screens).mActiveScreen = none := by
  simp [clearActiveState]

@[simp] theorem activateFirstLocalScreen_mSenders :
    (router.activateFirstLocalScreen screens).mSenders = router.mSenders := by
  unfold activateFirstLocalScreen
  split <;> simp

/-- After a remote peer's change a local screen is activated only if none is active. -/
theorem ensureActiveLocalScreen_false : router.ensureActiveLocalScreen screens false =
    if router.mActiveScreen.isNone then router.activateFirstLocalScreen screens else router := by
  simp [ensureActiveLocalScreen]

@[simp] theorem ensureActiveLocalScreen_false_mSenders :
    (router.ensureActiveLocalScreen screens false).mSenders = router.mSenders := by
  rw [ensureActiveLocalScreen_false]
  split <;> simp

/-- Warping the local cursor touches the capture and the pending warp only. -/
theorem moveLocalCursorToActivePoint_cases :
    router.moveLocalCursorToActivePoint screens = router ∨
      ∃ capture active point, router.mCapture = some capture ∧
        router.activeScreen screens = some active ∧ active.isLocal = true ∧
        router.mActivePoint = some point ∧
        router.moveLocalCursorToActivePoint screens = { router with
          mCapture := some (InputCapture.moveLocalCursor point.key.screenIndex point.x point.y
            capture).2
          mPendingLocalWarp := if (InputCapture.moveLocalCursor point.key.screenIndex point.x
            point.y capture).1 then some point else router.mPendingLocalWarp } := by
  unfold moveLocalCursorToActivePoint
  split
  next capture active point hc ha hp =>
    cases hl : active.isLocal with
    | false => exact .inl rfl
    | true =>
      refine .inr ⟨capture, active, point, hc, ha, hl, hp, ?_⟩
      cases InputCapture.moveLocalCursor point.key.screenIndex point.x point.y capture with
      | mk ok capture => cases ok <;> rfl
  next => exact .inl rfl

@[simp] theorem moveLocalCursorToActivePoint_mSenders :
    (router.moveLocalCursorToActivePoint screens).mSenders = router.mSenders := by
  rcases moveLocalCursorToActivePoint_cases screens router with h | ⟨_, _, _, _, _, _, _, h⟩ <;>
    rw [h]

@[simp] theorem moveLocalCursorToActivePoint_mActiveScreen :
    (router.moveLocalCursorToActivePoint screens).mActiveScreen = router.mActiveScreen := by
  rcases moveLocalCursorToActivePoint_cases screens router with h | ⟨_, _, _, _, _, _, _, h⟩ <;>
    rw [h]

@[simp] theorem moveLocalCursorToActivePoint_mActivePoint :
    (router.moveLocalCursorToActivePoint screens).mActivePoint = router.mActivePoint := by
  rcases moveLocalCursorToActivePoint_cases screens router with h | ⟨_, _, _, _, _, _, _, h⟩ <;>
    rw [h]

@[simp] theorem moveLocalCursorToActivePoint_mLastLocalMouse :
    (router.moveLocalCursorToActivePoint screens).mLastLocalMouse = router.mLastLocalMouse := by
  rcases moveLocalCursorToActivePoint_cases screens router with h | ⟨_, _, _, _, _, _, _, h⟩ <;>
    rw [h]

end Fields

/-! ### Switching the active screen -/

/-- A switch to an unregistered key does nothing; otherwise the screen found is remote and
entered, or local and the cursor is warped to it. -/
theorem switchActiveScreen_cases (screens : ServerScreenStore E) (point : ScreenPoint)
    (router : ServerInputRouter E C) :
    (screens.findScreen point.key = none ∧ router.switchActiveScreen screens point = router) ∨
    ∃ node, screens.findScreen point.key = some node ∧
      ((node.value.isLocal = false ∧ router.switchActiveScreen screens point =
        enterRemoteScreen node.value point ({ router with
          mActiveScreen := some node.address
          mActivePoint := some point }.updateCaptureRemoteControl screens)) ∨
      (node.value.isLocal = true ∧ router.switchActiveScreen screens point =
        moveLocalCursorToActivePoint screens ({ router with
          mActiveScreen := some node.address
          mActivePoint := some point }.updateCaptureRemoteControl screens))) := by
  unfold switchActiveScreen
  cases hf : screens.findScreen point.key with
  | none => exact .inl ⟨rfl, rfl⟩
  | some node =>
    refine .inr ⟨node, rfl, ?_⟩
    cases hl : node.value.isLocal with
    | false => exact .inl ⟨rfl, by simp [hl]⟩
    | true => exact .inr ⟨rfl, by simp [hl]⟩

/-- A switch to a screen that is not stored does nothing. -/
theorem switchActiveScreen_of_absent {screens : ServerScreenStore E} {point : ScreenPoint}
    (h : screens.findScreen point.key = none) (router : ServerInputRouter E C) :
    router.switchActiveScreen screens point = router := by
  rcases switchActiveScreen_cases screens point router with ⟨_, heq⟩ | ⟨node, hfind, _⟩
  · exact heq
  · cases h.symm.trans hfind

/-- A switch enqueues nothing but the entry pixel, for the screen switched to. -/
theorem switchActiveScreen_sent (screens : ServerScreenStore E) (point : ScreenPoint)
    (router : ServerInputRouter E C) :
    ∃ out, Sent router.mSenders out (router.switchActiveScreen screens point).mSenders ∧
      ∀ o ∈ out, ∃ node, screens.findScreen point.key = some node ∧
        node.value.isLocal = false ∧ o = (node.value.endpoint, moveTo point) := by
  rcases switchActiveScreen_cases screens point router with
    ⟨_, heq⟩ | ⟨node, hfind, ⟨hremote, heq⟩ | ⟨_, heq⟩⟩
  · exact ⟨none, by rw [heq]; exact .nothing, nofun⟩
  · obtain ⟨out, hsent, hout⟩ := queueInputForScreen_sent node.value (moveTo point)
      { { router with
          mActiveScreen := some node.address
          mActivePoint := some point }.updateCaptureRemoteControl screens with
        mPendingLocalWarp := none }
    rw [updateCaptureRemoteControl_mSenders] at hsent
    exact ⟨out, by rw [heq]; exact hsent, fun o ho => ⟨node, hfind, hremote, hout o ho⟩⟩
  · refine ⟨none, ?_, nofun⟩
    rw [heq, moveLocalCursorToActivePoint_mSenders, updateCaptureRemoteControl_mSenders]
    exact .nothing

/-- Choosing an active screen enqueues nothing but moves. -/
theorem ensureActiveLocalScreen_sent (screens : ServerScreenStore E) (preferLocalPrimary : Bool)
    (router : ServerInputRouter E C) :
    ∃ out, Sent router.mSenders out
        (router.ensureActiveLocalScreen screens preferLocalPrimary).mSenders ∧
      ∀ o ∈ out, ∃ point, o.2 = moveTo point := by
  unfold ensureActiveLocalScreen
  split_ifs
  · exact ⟨none, by rw [activateFirstLocalScreen_mSenders]; exact .nothing, nofun⟩
  · cases screens.firstLocalScreen with
    | none => exact ⟨none, .nothing, nofun⟩
    | some node =>
      obtain ⟨out, hsent, hout⟩ := switchActiveScreen_sent screens ⟨node.value.key, 0, 0⟩ router
      refine ⟨out, hsent, fun o ho => ?_⟩
      obtain ⟨_, _, _, rfl⟩ := hout o ho
      exact ⟨_, rfl⟩
  · exact ⟨none, .nothing, nofun⟩

section Events

omit [InputCapture C] in
/-- The virtual cursor is on the active screen, whatever the active point was. -/
theorem virtualCursor_key (screen : VirtualScreen E) (router : ServerInputRouter E C) :
    (router.virtualCursor screen).key = screen.key := by
  unfold virtualCursor
  cases router.mActivePoint with
  | none => rfl
  | some point =>
    by_cases hkey : point.key = screen.key
    · simp [hkey]
    · simp [hkey]

variable [EntryScaling]

omit [InputCapture C] in
/-- A crossing goes through the border that is hit, to the entry behind it. -/
theorem crossingTarget_eq_some {point target : ScreenPoint} :
    crossingTarget screens point = some target ↔ ∃ edge,
      screens.mTopology.hitEdge point = some edge ∧
        screens.mTopology.mapEntryPoint point edge = .ok target := by
  unfold crossingTarget
  cases screens.mTopology.hitEdge point with
  | none => simp
  | some edge => cases hmap : screens.mTopology.mapEntryPoint point edge <;> simp [hmap]

/-- What handling one event does, by the screen that is active and the event. -/
inductive Handled (screens : ServerScreenStore E) (router : ServerInputRouter E C) :
    InputEvent → ServerInputRouter E C → Prop
  | idle {event : InputEvent} (active : router.activeScreen screens = none) :
      Handled screens router event router
  | home (event : InputEvent) {screen : VirtualScreen E}
      (active : router.activeScreen screens = some screen) (isLocal : screen.isLocal = true)
      (noMove : ∀ move, event ≠ .mouseMove move) : Handled screens router event router
  | failSafe {event : InputEvent} {screen : VirtualScreen E}
      (active : router.activeScreen screens = some screen) (remote : screen.isLocal = false)
      (f12 : isF12Press event = true) :
      Handled screens router event (router.activateFirstLocalScreen screens)
  | forwarded {event : InputEvent} {screen : VirtualScreen E}
      (active : router.activeScreen screens = some screen) (remote : screen.isLocal = false)
      (noF12 : isF12Press event = false) (noMove : ∀ move, event ≠ .mouseMove move) :
      Handled screens router event
        (router.queueInputForScreen screen (router.eventAtActivePoint screens event)).2
  | rested {move : MouseMoveEvent} {screen : VirtualScreen E}
      (active : router.activeScreen screens = some screen) (remote : screen.isLocal = false)
      (delta : router.moveDelta move = (0, 0)) :
      Handled screens router (.mouseMove move) (router.sampledRemote screen move)
  | crossed {move : MouseMoveEvent} {screen : VirtualScreen E} {target : ScreenPoint}
      (active : router.activeScreen screens = some screen) (remote : screen.isLocal = false)
      (delta : router.moveDelta move ≠ (0, 0))
      (crossing : crossingTarget screens (router.nextPoint screen move) = some target) :
      Handled screens router (.mouseMove move)
        ((router.sampledRemote screen move).switchActiveScreen screens target)
  | clamped {move : MouseMoveEvent} {screen : VirtualScreen E}
      (active : router.activeScreen screens = some screen) (remote : screen.isLocal = false)
      (delta : router.moveDelta move ≠ (0, 0))
      (noCrossing : crossingTarget screens (router.nextPoint screen move) = none) :
      Handled screens router (.mouseMove move)
        (queueInputForScreen screen
          (moveTo (clampToScreen screen.info (router.nextPoint screen move)))
          { router.sampledRemote screen move with
            mActivePoint := some (clampToScreen screen.info (router.nextPoint screen move)) }).2
  | echoed {move : MouseMoveEvent} {screen : VirtualScreen E}
      (active : router.activeScreen screens = some screen) (isLocal : screen.isLocal = true)
      (echo : router.mPendingLocalWarp = some (localPoint screen move)) :
      Handled screens router (.mouseMove move)
        { router.sampledLocal screen move with mPendingLocalWarp := none }
  | stayed {move : MouseMoveEvent} {screen : VirtualScreen E}
      (active : router.activeScreen screens = some screen) (isLocal : screen.isLocal = true)
      (noEcho : router.mPendingLocalWarp ≠ some (localPoint screen move))
      (noCrossing : crossingTarget screens (localPoint screen move) = none) :
      Handled screens router (.mouseMove move) (router.sampledLocal screen move)
  | left {move : MouseMoveEvent} {screen : VirtualScreen E} {target : ScreenPoint}
      (active : router.activeScreen screens = some screen) (isLocal : screen.isLocal = true)
      (noEcho : router.mPendingLocalWarp ≠ some (localPoint screen move))
      (crossing : crossingTarget screens (localPoint screen move) = some target) :
      Handled screens router (.mouseMove move)
        ((router.sampledLocal screen move).switchActiveScreen screens target)

theorem handleRemoteMouseMove_handled {screen : VirtualScreen E} (move : MouseMoveEvent)
    (h : router.activeScreen screens = some screen) (hremote : screen.isLocal = false) :
    Handled screens router (.mouseMove move) (router.handleRemoteMouseMove screens move) := by
  unfold handleRemoteMouseMove
  simp only [h, hremote, Bool.false_eq_true, if_false]
  by_cases hd : router.moveDelta move = (0, 0)
  · rw [if_pos hd]
    exact .rested h hremote hd
  · rw [if_neg hd]
    cases hc : crossingTarget screens (router.nextPoint screen move) with
    | some target => exact .crossed h hremote hd hc
    | none => exact .clamped h hremote hd hc

theorem handleMouseMove_handled {screen : VirtualScreen E} (move : MouseMoveEvent)
    (h : router.activeScreen screens = some screen) (hlocal : screen.isLocal = true) :
    Handled screens router (.mouseMove move) (router.handleMouseMove screens move) := by
  unfold handleMouseMove suppressPendingLocalWarp
  simp only [h, hlocal, Bool.not_true, Bool.false_eq_true, if_false]
  by_cases hw : (router.sampledLocal screen move).mPendingLocalWarp = some (localPoint screen move)
  · simp only [if_pos hw]
    exact .echoed h hlocal hw
  · simp only [if_neg hw]
    cases hc : crossingTarget screens (localPoint screen move) with
    | none => exact .stayed h hlocal hw hc
    | some target => exact .left h hlocal hw hc

/-- Handling an event is one of the outcomes of `Handled`. -/
theorem handleInputEvent_handled (screens : ServerScreenStore E)
    (router : ServerInputRouter E C) (event : InputEvent) :
    Handled screens router event (router.handleInputEvent screens event) := by
  unfold handleInputEvent tryHandleLocalHotkey
  cases ha : router.activeScreen screens with
  | none =>
    have hr : router.remoteActive screens = false := by simp [remoteActive, ha]
    simp only [hr]
    cases hf : isF12Press event <;> cases event <;>
      simpa [ha, handleMouseMove] using Handled.idle ha
  | some screen =>
    simp only [remoteActive_of_active ha]
    cases hl : screen.isLocal <;> cases hf : isF12Press event
    · cases event with
      | mouseMove move => simpa [ha, hl] using handleRemoteMouseMove_handled move ha hl
      | _ => simpa [ha, hl] using Handled.forwarded ha hl hf (by simp)
    · simpa using Handled.failSafe ha hl hf
    · cases event with
      | mouseMove move => simpa [ha, hl] using handleMouseMove_handled move ha hl
      | _ => simpa [ha, hl] using Handled.home _ ha hl (by simp)
    · cases event with
      | mouseMove move => simp [isF12Press] at hf
      | _ => simpa using Handled.home _ ha hl (by simp)

/-- A move while a remote screen is active. -/
theorem Handled.remoteMove {screen : VirtualScreen E} {move : MouseMoveEvent}
    {router' : ServerInputRouter E C} (h : Handled screens router (.mouseMove move) router')
    (active : router.activeScreen screens = some screen) (remote : screen.isLocal = false) :
    (router.moveDelta move = (0, 0) ∧ router' = router.sampledRemote screen move) ∨
    (router.moveDelta move ≠ (0, 0) ∧ ∃ target,
      crossingTarget screens (router.nextPoint screen move) = some target ∧
      router' = (router.sampledRemote screen move).switchActiveScreen screens target) ∨
    (router.moveDelta move ≠ (0, 0) ∧
      crossingTarget screens (router.nextPoint screen move) = none ∧
      router' = (queueInputForScreen screen
        (moveTo (clampToScreen screen.info (router.nextPoint screen move)))
        { router.sampledRemote screen move with
          mActivePoint :=
            some (clampToScreen screen.info (router.nextPoint screen move)) }).2) := by
  cases h with
  | idle idle => simp [idle] at active
  | home _ _ _ noMove | forwarded _ _ _ noMove => exact absurd rfl (noMove move)
  | failSafe _ _ f12 => simp [isF12Press] at f12
  | rested other _ delta =>
    obtain rfl := Option.some.inj (other.symm.trans active)
    exact .inl ⟨delta, rfl⟩
  | crossed other _ delta crossing =>
    obtain rfl := Option.some.inj (other.symm.trans active)
    exact .inr (.inl ⟨delta, _, crossing, rfl⟩)
  | clamped other _ delta noCrossing =>
    obtain rfl := Option.some.inj (other.symm.trans active)
    exact .inr (.inr ⟨delta, noCrossing, rfl⟩)
  | echoed other isLocal | stayed other isLocal | left other isLocal =>
    obtain rfl := Option.some.inj (other.symm.trans active)
    simp [remote] at isLocal

/-- A move while a local screen is active. -/
theorem Handled.localMove {screen : VirtualScreen E} {move : MouseMoveEvent}
    {router' : ServerInputRouter E C} (h : Handled screens router (.mouseMove move) router')
    (active : router.activeScreen screens = some screen) (isLocal : screen.isLocal = true) :
    (router.mPendingLocalWarp = some (localPoint screen move) ∧
      router' = { router.sampledLocal screen move with mPendingLocalWarp := none }) ∨
    (router.mPendingLocalWarp ≠ some (localPoint screen move) ∧
      crossingTarget screens (localPoint screen move) = none ∧
      router' = router.sampledLocal screen move) ∨
    (router.mPendingLocalWarp ≠ some (localPoint screen move) ∧ ∃ target,
      crossingTarget screens (localPoint screen move) = some target ∧
      router' = (router.sampledLocal screen move).switchActiveScreen screens target) := by
  cases h with
  | idle idle => simp [idle] at active
  | home _ _ _ noMove | forwarded _ _ _ noMove => exact absurd rfl (noMove move)
  | failSafe _ _ f12 => simp [isF12Press] at f12
  | rested other remote | crossed other remote | clamped other remote =>
    obtain rfl := Option.some.inj (other.symm.trans active)
    simp [remote] at isLocal
  | echoed other _ echo =>
    obtain rfl := Option.some.inj (other.symm.trans active)
    exact .inl ⟨echo, rfl⟩
  | stayed other _ noEcho noCrossing =>
    obtain rfl := Option.some.inj (other.symm.trans active)
    exact .inr (.inl ⟨noEcho, noCrossing, rfl⟩)
  | left other _ noEcho crossing =>
    obtain rfl := Option.some.inj (other.symm.trans active)
    exact .inr (.inr ⟨noEcho, _, crossing, rfl⟩)

/-- Handling an event enqueues at most one input message. -/
theorem Handled.sent {event : InputEvent} {router' : ServerInputRouter E C}
    (h : Handled screens router event router') :
    ∃ out, Sent router.mSenders out router'.mSenders := by
  cases h with
  | idle | home | rested | echoed | stayed => exact ⟨none, .nothing⟩
  | failSafe => exact ⟨none, by rw [activateFirstLocalScreen_mSenders]; exact .nothing⟩
  | @forwarded _ screen =>
    exact (queueInputForScreen_sent screen _ router).imp fun _ hout => hout.1
  | @clamped move screen =>
    exact (queueInputForScreen_sent screen _ { router.sampledRemote screen move with
      mActivePoint := some (clampToScreen screen.info (router.nextPoint screen move)) }).imp
        fun _ hout => hout.1
  | @crossed move screen =>
    exact (switchActiveScreen_sent screens _ (router.sampledRemote screen move)).imp
      fun _ hout => hout.1
  | @left move screen =>
    exact (switchActiveScreen_sent screens _ (router.sampledLocal screen move)).imp
      fun _ hout => hout.1

end Events

end Mksync.ServerInputRouter
