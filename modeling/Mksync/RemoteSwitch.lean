import Mksync.RouterWellFormed

/-!
# Switching to a remote screen

The switch makes the screen active first and asks the capture and the sender afterwards.
Both may refuse; a refusal is logged and nothing is taken back.
-/
namespace Mksync

open TransitionRuns ServerInputRouter

namespace ServerInputRouter

variable {E C : Type} [Endpoint E] [InputCapture C] {screens : ServerScreenStore E}
  {router : ServerInputRouter E C} {node : ScreenNode E} {point : ScreenPoint}

/-- The entry pixel is queued exactly if the client's sender takes it. -/
theorem switchActiveScreen_remote_senders (router : ServerInputRouter E C)
    (hfind : screens.findScreen point.key = some node)
    (hremote : node.value.isLocal = false) :
    (∀ sender, router.mSenders.find? node.value.endpoint = some sender → sender.accepts = true →
      (router.switchActiveScreen screens point).mSenders =
        router.mSenders.insertOrAssign node.value.endpoint
          { sender with queue := sender.queue ++ [.input ⟨moveTo point⟩] }) ∧
    ((∀ sender, router.mSenders.find? node.value.endpoint = some sender →
      sender.accepts = false) →
      (router.switchActiveScreen screens point).mSenders = router.mSenders) := by
  rw [switchActiveScreen_remote hfind hremote, enterRemoteScreen]
  rcases queueInputForScreen_cases node.value (moveTo point)
    { { router with
        mActiveScreen := some node.address
        mActivePoint := some point }.updateCaptureRemoteControl screens with
      mPendingLocalWarp := none } with ⟨heq, hrefused⟩ | ⟨found, _, hfound, haccepts, heq⟩
  · rw [heq]
    simp only [updateCaptureRemoteControl_mSenders] at hrefused ⊢
    exact ⟨fun sender hsender hyes => by simp [hrefused hremote sender hsender] at hyes,
      fun _ => trivial⟩
  · rw [heq]
    simp only [updateCaptureRemoteControl_mSenders] at hfound ⊢
    refine ⟨fun sender hsender _ => ?_, fun hno => by simp [hno found hfound] at haccepts⟩
    obtain rfl : found = sender := Option.some.inj (hfound.symm.trans hsender)
    rfl

end ServerInputRouter

namespace Host

variable {E C : Type} [Endpoint E] [InputCapture C] {host host' : Host E C}

/-- A move at a local border that maps onto a remote screen switches to it whatever the
capture and the sender answer: the screen is active at the entry pixel, the capture was
asked for remote mode, and the entry move is queued if and only if the sender takes it. -/
theorem remote_switch_unconditional [EntryScaling] {screen : VirtualScreen E}
    {move : MouseMoveEvent} {target : ScreenPoint} {node : ScreenNode E}
    (hactive : host.server.mInput.activeScreen host.server.mScreens = some screen)
    (hlocal : screen.isLocal = true)
    (hecho : host.server.mInput.mPendingLocalWarp ≠ some (localPoint screen move))
    (hcross : crossingTarget host.server.mScreens (localPoint screen move) = some target)
    (hfind : host.server.mScreens.findScreen target.key = some node)
    (hremote : node.value.isLocal = false)
    (hstep : host.step (.captured (.mouseMove move)) = some host') :
    host'.server.mInput.activeScreen host'.server.mScreens = some node.value ∧
    host'.server.mInput.mActivePoint = some target ∧
    host'.server.mInput.mCapture = host.server.mInput.mCapture.map (fun capture =>
      (InputCapture.setRemoteControlActive true capture).2) ∧
    (∀ sender, host.server.mInput.mSenders.find? node.value.endpoint = some sender →
      sender.accepts = true → host'.server.mInput.mSenders =
        host.server.mInput.mSenders.insertOrAssign node.value.endpoint
          { sender with queue := sender.queue ++ [.input ⟨moveTo target⟩] }) ∧
    ((∀ sender, host.server.mInput.mSenders.find? node.value.endpoint = some sender →
      sender.accepts = false) →
      host'.server.mInput.mSenders = host.server.mInput.mSenders) := by
  have hswitch : host.server.mInput.handleInputEvent host.server.mScreens (.mouseMove move) =
      (host.server.mInput.sampledLocal screen move).switchActiveScreen host.server.mScreens
        target := by
    rcases (handleInputEvent_handled host.server.mScreens host.server.mInput
      (.mouseMove move)).localMove hactive hlocal with
      ⟨hwarp, _⟩ | ⟨_, hnone, _⟩ | ⟨_, found, hfound, heq⟩
    · exact absurd hwarp hecho
    · simp [hcross] at hnone
    · obtain rfl := Option.some.inj (hcross.symm.trans hfound)
      exact heq
  obtain rfl : host.withServer (Server.handleInputEvent (.mouseMove move)) = host' := by
    simpa [step] using hstep
  have hinput : (host.withServer (Server.handleInputEvent (.mouseMove move))).server.mInput =
      (host.server.mInput.sampledLocal screen move).switchActiveScreen host.server.mScreens
        target := hswitch
  rw [hinput]
  obtain ⟨hscreen, hpoint, hcapture⟩ := switchActiveScreen_remote_active
    (host.server.mInput.sampledLocal screen move) hfind hremote
  obtain ⟨hqueued, hdropped⟩ := switchActiveScreen_remote_senders
    (host.server.mInput.sampledLocal screen move) hfind hremote
  exact ⟨hscreen, hpoint, hcapture, hqueued, hdropped⟩

/-- The guest's screen stands to the right of the desk. -/
def guestNode : ScreenNode IPv4Endpoint :=
  ⟨1, loopback 1001, loopback 1001, ⟨"m", 0⟩, ⟨1, 0⟩, false, sideMonitor⟩

def deskScreen : VirtualScreen IPv4Endpoint :=
  ⟨loopback 24800, ⟨"desk", 0⟩, ⟨0, 0⟩, true, deskMonitor⟩

theorem remote_switch_guest : ∃ host host' : DeskHost,
    Run step unguarded deskHost (.registerLocal [deskMonitor] :: connect 1001 "m" [sideMonitor])
      host ∧
    host.step (.captured (.mouseMove { x := 1919, y := 500 })) = some host' ∧
    host'.server.mInput.activeScreen host'.server.mScreens = some guestNode.value ∧
    host'.server.mInput.mActivePoint = some ⟨⟨"m", 0⟩, 0, 474⟩ := by
  obtain ⟨host, hrun, hp⟩ := exists_run_of_execute step (fun _ _ _ => true) deskHost
    (.registerLocal [deskMonitor] :: connect 1001 "m" [sideMonitor])
    (fun host : DeskHost => decide (
      host.server.mInput.activeScreen host.server.mScreens = some deskScreen ∧
      host.server.mInput.mPendingLocalWarp = none ∧
      crossingTarget host.server.mScreens (localPoint deskScreen { x := 1919, y := 500 }) =
        some ⟨⟨"m", 0⟩, 0, 474⟩ ∧
      host.server.mScreens.findScreen ⟨"m", 0⟩ = some guestNode))
    (fun _ _ _ _ => trivial) (by decide +kernel)
  obtain ⟨hactive, hwarp, hcross, hfind⟩ := of_decide_eq_true hp
  have hswitched := remote_switch_unconditional hactive rfl (by simp [hwarp]) hcross hfind rfl rfl
  exact ⟨host, _, hrun, rfl, hswitched.1, hswitched.2.1⟩

/-- The guest's connection is broken already, so its queue is closed: the entry move is lost
and the guest's screen is active all the same. -/
theorem remote_switch_keeps_refused : ∃ host host' : DeskHost,
    Run step unguarded deskHost (.registerLocal [deskMonitor] ::
      connect 1001 "m" [sideMonitor] ++ [.fail (loopback 1001)]) host ∧
    host.step (.captured (.mouseMove { x := 1919, y := 500 })) = some host' ∧
    host'.server.mInput.mSenders = host.server.mInput.mSenders ∧
    host.server.mInput.activeScreenKey host.server.mScreens = some ⟨"desk", 0⟩ ∧
    host'.server.mInput.activeScreenKey host'.server.mScreens = some ⟨"m", 0⟩ := by
  obtain ⟨host, hrun, hp⟩ := exists_run_of_execute step (fun _ _ _ => true) deskHost
    (.registerLocal [deskMonitor] :: connect 1001 "m" [sideMonitor] ++ [.fail (loopback 1001)])
    (fun host : DeskHost =>
      let host' := host.withServer (Server.handleInputEvent (.mouseMove { x := 1919, y := 500 }))
      decide (host'.server.mInput.mSenders = host.server.mInput.mSenders ∧
        host.server.mInput.activeScreenKey host.server.mScreens = some ⟨"desk", 0⟩ ∧
        host'.server.mInput.activeScreenKey host'.server.mScreens = some ⟨"m", 0⟩))
    (fun _ _ _ _ => trivial) (by decide +kernel)
  exact ⟨host, _, hrun, rfl, of_decide_eq_true hp⟩

end Host

end Mksync
