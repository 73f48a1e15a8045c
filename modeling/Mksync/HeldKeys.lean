import Mksync.ClientReadLoop
import Mksync.HeldTransitions
import Mksync.ServerSessions

/-!
# Keys and buttons held on a client

The router passes presses and releases through to the client of the active screen and keeps
no account of them. What a client holds is what was captured while its screen was active.
-/
namespace Mksync

open TransitionRuns HeldTransitions Client

/-- What an event does beside moving the cursor: all but its address. -/
inductive Deed
  | button (button : MouseButton) (release : Bool)
  | wheel (deltaX deltaY : Int)
  | key (event : KeyEvent)
  deriving DecidableEq

def InputEvent.deed? : InputEvent → Option Deed
  | .mouseMove _ => none
  | .mouseButton event => some (.button event.button event.release)
  | .mouseWheel event => some (.wheel event.deltaX event.deltaY)
  | .key event => some (.key event)

/-- The deeds among the messages, in their order. -/
def deeds (messages : List RpcMessage) : List Deed := (inputs messages).filterMap InputEvent.deed?

theorem deeds_snoc_input (messages : List RpcMessage) (event : InputEvent) :
    deeds (messages ++ [.input ⟨event⟩]) = deeds messages ++ event.deed?.toList := by
  cases h : event.deed? <;> simp [deeds, inputs, h]

/-- What can be held down. -/
inductive InputKey (K : Type)
  | key (key : K)
  | button (button : MouseButton)
  deriving DecidableEq

section Transitions

variable {K : Type} (keyOf : KeyEvent → K)

/-- The press or release a deed is, if it is one. Which key an event is of, `keyOf` says. -/
def Deed.transition? : Deed → Option (Transition (InputKey K))
  | .key event => some ⟨.key (keyOf event), event.release⟩
  | .button which release => some ⟨.button which, release⟩
  | .wheel _ _ => none

def transitions (done : List Deed) : List (Transition (InputKey K)) :=
  done.filterMap (Deed.transition? keyOf)

theorem transitions_snoc (done : List Deed) (deed : Deed) :
    transitions keyOf (done ++ [deed]) =
      transitions keyOf done ++ (deed.transition? keyOf).toList := by
  cases h : deed.transition? keyOf <;> simp [transitions, h]

end Transitions

/-- A key by its usage and its native code. Where there is no usage the code tells it apart. -/
def physicalKey (event : KeyEvent) : Key × Nat := (event.key, event.nativeCode)

namespace ServerInputRouter

variable {E C : Type} [Endpoint E] {screens : ServerScreenStore E}
  {router router' : ServerInputRouter E C}

/-- The endpoint of the active screen, if that is remote. -/
def activeEndpoint (screens : ServerScreenStore E) (router : ServerInputRouter E C) : Option E :=
  match router.activeScreen screens with
  | none => none
  | some screen => if screen.isLocal then none else some screen.endpoint

/-- The deed of a captured event and the client it is enqueued for: the active one, unless its
queue refuses or the event is a pressed F12. -/
def routed (screens : ServerScreenStore E) (router : ServerInputRouter E C) (event : InputEvent) :
    Option (E × Deed) :=
  match router.activeScreen screens with
  | none => none
  | some screen =>
    if screen.isLocal || isF12Press event then none
    else
      match router.mSenders.find? screen.endpoint with
      | none => none
      | some sender => if sender.accepts then event.deed?.map (screen.endpoint, ·) else none

/-- The endpoint's share of what is routed. -/
def shareOf (out : Option (E × Deed)) (endpoint : E) : List Deed :=
  match out with
  | none => []
  | some (target, deed) => if endpoint = target then [deed] else []

theorem deed?_eventAtActivePoint (event : InputEvent) :
    (router.eventAtActivePoint screens event).deed? = event.deed? := by
  unfold eventAtActivePoint
  split
  · split_ifs
    · rfl
    · cases event <;> rfl
  · rfl

theorem routed_of_local {screen : VirtualScreen E} {event : InputEvent}
    (hactive : router.activeScreen screens = some screen) (hlocal : screen.isLocal = true) :
    router.routed screens event = none := by
  simp [routed, hactive, hlocal]

theorem routed_of_move {event : InputEvent} (h : event.deed? = none) :
    router.routed screens event = none := by
  unfold routed
  split
  · rfl
  · split_ifs
    · rfl
    · split <;> simp [h]

/-- The senders after a call, with the deeds it added for each endpoint. -/
def Added (before after : ClientSenders E) (added : E → List Deed) : Prop :=
  ∀ endpoint sender', after.find? endpoint = some sender' →
    ∃ sender, before.find? endpoint = some sender ∧
      deeds sender'.enqueued = deeds sender.enqueued ++ added endpoint

theorem added_refl (senders : ClientSenders E) : Added senders senders fun _ => [] :=
  fun _ sender' h => ⟨sender', h, by simp⟩

/-- An enqueued event adds its deed for its endpoint. -/
theorem Sent.added {senders senders' : ClientSenders E} {out : Option (E × InputEvent)}
    (h : Sent senders out senders') :
    Added senders senders' fun endpoint =>
      match out with
      | none => []
      | some (target, event) => if endpoint = target then event.deed?.toList else [] := by
  cases h with
  | nothing => exact added_refl senders
  | @input target sender event live accepts =>
    intro endpoint sender' hfind
    rw [OrderedMap.find?_insertOrAssign] at hfind
    split_ifs at hfind with heq
    · obtain rfl := Option.some.inj hfind
      refine ⟨sender, heq ▸ live, ?_⟩
      have henqueued : (Channel.mk sender.taken (sender.queue ++ [.input ⟨event⟩])
          sender.closed).enqueued = sender.enqueued ++ [.input ⟨event⟩] := by
        simp [Channel.enqueued]
      simp only [heq, if_true, henqueued, deeds_snoc_input]
    · exact ⟨sender', hfind, by simp [heq]⟩

/-- Moves are no deeds. -/
theorem Sent.added_moves {senders senders' : ClientSenders E} {out : Option (E × InputEvent)}
    (h : Sent senders out senders')
    (hmove : ∀ o ∈ out, o.2.deed? = none) : Added senders senders' fun _ => [] := by
  intro endpoint sender' hfind
  obtain ⟨sender, hsender, hadded⟩ := h.added endpoint sender' hfind
  refine ⟨sender, hsender, ?_⟩
  cases out with
  | none => simpa using hadded
  | some o => simpa [hmove o rfl] using hadded

@[simp] theorem shareOf_none (endpoint : E) : shareOf none endpoint = [] := rfl

theorem shareOf_cases (out : Option (E × Deed)) (endpoint : E) :
    shareOf out endpoint = [] ∨
      ∃ deed, out = some (endpoint, deed) ∧ shareOf out endpoint = [deed] := by
  cases out with
  | none => exact .inl rfl
  | some out =>
    obtain ⟨target, deed⟩ := out
    by_cases heq : endpoint = target
    · exact .inr ⟨deed, by rw [heq], by simp [shareOf, heq]⟩
    · exact .inl (by simp [shareOf, heq])

/-- What is routed goes to the active endpoint. -/
theorem activeEndpoint_of_routed {event : InputEvent} {out : E × Deed}
    (h : router.routed screens event = some out) : router.activeEndpoint screens = some out.1 := by
  unfold routed at h
  cases hactive : router.activeScreen screens with
  | none => simp [hactive] at h
  | some screen =>
    simp only [hactive] at h
    split_ifs at h with hhome
    have hremote : screen.isLocal = false := by
      cases hlocal : screen.isLocal
      · rfl
      · simp [hlocal] at hhome
    cases hsender : router.mSenders.find? screen.endpoint with
    | none => simp [hsender] at h
    | some sender =>
      simp only [hsender] at h
      split_ifs at h
      obtain ⟨t, _, rfl⟩ := Option.map_eq_some_iff.mp h
      simp [activeEndpoint, hactive, hremote]

variable [InputCapture C]

/-- Handling an event adds to each client's deeds exactly what is routed to it. -/
theorem Handled.added [EntryScaling] {event : InputEvent}
    (h : Handled screens router event router') :
    Added router.mSenders router'.mSenders (shareOf (router.routed screens event)) := by
  cases h with
  | idle active =>
    rw [show router.routed screens _ = none by simp [routed, active]]
    exact added_refl _
  | home _ active isLocal =>
    rw [routed_of_local active isLocal]
    exact added_refl _
  | failSafe active _ f12 =>
    rw [show router.routed screens _ = none by simp [routed, active, f12],
      activateFirstLocalScreen_mSenders]
    exact added_refl _
  | rested | echoed | stayed =>
    rw [routed_of_move rfl]
    exact added_refl _
  | @crossed move screen target =>
    obtain ⟨out, hsent, hout⟩ := switchActiveScreen_sent screens target
      (router.sampledRemote screen move)
    rw [routed_of_move rfl]
    refine hsent.added_moves fun o ho => ?_
    obtain ⟨_, _, _, rfl⟩ := hout o ho
    rfl
  | @left move screen target =>
    obtain ⟨out, hsent, hout⟩ := switchActiveScreen_sent screens target
      (router.sampledLocal screen move)
    rw [routed_of_move rfl]
    refine hsent.added_moves fun o ho => ?_
    obtain ⟨_, _, _, rfl⟩ := hout o ho
    rfl
  | @clamped move screen =>
    obtain ⟨out, hsent, hout⟩ := queueInputForScreen_sent screen
      (moveTo (clampToScreen screen.info (router.nextPoint screen move)))
      { router.sampledRemote screen move with
        mActivePoint := some (clampToScreen screen.info (router.nextPoint screen move)) }
    rw [routed_of_move rfl]
    exact hsent.added_moves fun o ho => by rw [hout o ho]; rfl
  | @forwarded event screen active remote noF12 =>
    rcases queueInputForScreen_cases screen (router.eventAtActivePoint screens event) router with
      ⟨heq, hrefused⟩ | ⟨sender, _, live, accepts, heq⟩
    · have hnone : router.routed screens event = none := by
        cases hsender : router.mSenders.find? screen.endpoint with
        | none => simp [routed, active, remote, noF12, hsender]
        | some sender =>
          simp [routed, active, remote, noF12, hsender, hrefused remote sender hsender]
      rw [heq, hnone]
      exact added_refl _
    · rw [heq]
      have hsent := (Sent.input (router.eventAtActivePoint screens event) live accepts).added
      intro endpoint sender' hfind
      obtain ⟨before, hbefore, hadded⟩ := hsent endpoint sender' hfind
      refine ⟨before, hbefore, hadded.trans ?_⟩
      simp only [deed?_eventAtActivePoint, shareOf, routed, active, remote, noF12, live, accepts]
      cases event.deed? <;> simp

/-- An event that is routed leaves the active screen where it is. -/
theorem Handled.activeEndpoint_of_routed [EntryScaling] {event : InputEvent}
    {out : E × Deed} (h : Handled screens router event router')
    (hrouted : router.routed screens event = some out) :
    router'.activeEndpoint screens = router.activeEndpoint screens := by
  cases h with
  | idle | home => rfl
  | failSafe active _ f12 => simp [routed, active, f12] at hrouted
  | rested | echoed | stayed | crossed | left | clamped =>
    rw [routed_of_move rfl] at hrouted
    cases hrouted
  | forwarded => simp [activeEndpoint, activeScreen]

end ServerInputRouter

namespace Host

open ServerInputRouter

variable {E C : Type} [Endpoint E] [InputCapture C] {host host' : Host E C}

/-- What a step routes, and for whom. -/
def routed (host : Host E C) : Action E C → Option (E × Deed)
  | .captured event => host.server.mInput.routed host.server.mScreens event
  | _ => none

def activeEndpoint (host : Host E C) : Option E :=
  host.server.mInput.activeEndpoint host.server.mScreens

/-- A sender after a step is a fresh one, or it carries what it carried and what is routed. -/
theorem Stepped.added [EntryScaling] {a : Action E C} (h : Stepped host a host') {endpoint : E}
    {sender' : Channel} (hfind : host'.server.mInput.mSenders.find? endpoint = some sender') :
    (a = .publish endpoint ∧ sender' = {}) ∨
    (a ≠ .publish endpoint ∧ ∃ sender, host.server.mInput.mSenders.find? endpoint = some sender ∧
      deeds sender'.enqueued = deeds sender.enqueued ++ shareOf (host.routed a) endpoint) := by
  cases h with
  | registerLocal | reported =>
    obtain ⟨out, hsent, hmove⟩ := Server.registerScreens_sent host.server _ _ _ _
    refine .inr ⟨nofun, hsent.added_moves (fun o ho => ?_) endpoint sender' hfind⟩
    obtain ⟨point, hpoint⟩ := hmove o ho
    rw [hpoint]
    rfl
  | captured event =>
    have hhandled := handleInputEvent_handled host.server.mScreens host.server.mInput event
    exact .inr ⟨nofun, hhandled.added endpoint sender' hfind⟩
  | signal | accepted | greeted | ignored | broke =>
    exact .inr ⟨nofun, added_refl _ endpoint _ hfind⟩
  | rejected | dropped | closed =>
    have herased : (host.server.onClosed _).mInput.mSenders.find? endpoint = some sender' := hfind
    rw [Server.onClosed_mSenders, OrderedMap.find?_erase] at herased
    split_ifs at herased
    exact .inr ⟨nofun, added_refl _ endpoint _ herased⟩
  | @published target =>
    have hinsert : (host.server.mInput.mSenders.insertOrAssign target {}).find? endpoint =
      some sender' := hfind
    rw [OrderedMap.find?_insertOrAssign] at hinsert
    split_ifs at hinsert with heq
    · exact .inl ⟨by rw [heq], (Option.some.inj hinsert).symm⟩
    · exact .inr ⟨fun hcon => heq (by cases hcon; rfl), added_refl _ endpoint _ hinsert⟩
  | @delivered target _ sender taken _ _ live hrecv =>
    have hinsert : (host.server.mInput.mSenders.insertOrAssign target taken).find? endpoint =
      some sender' := hfind
    rw [OrderedMap.find?_insertOrAssign] at hinsert
    split_ifs at hinsert with heq
    · obtain rfl := Option.some.inj hinsert
      exact .inr ⟨nofun, sender, heq ▸ live, by simp [Channel.enqueued_recv hrecv, routed]⟩
    · exact .inr ⟨nofun, added_refl _ endpoint _ hinsert⟩
  | @hungUp target _ sender _ _ live =>
    have hinsert : (host.server.mInput.mSenders.insertOrAssign target
      { sender with closed := true }).find? endpoint = some sender' := hfind
    rw [OrderedMap.find?_insertOrAssign] at hinsert
    split_ifs at hinsert with heq
    · obtain rfl := Option.some.inj hinsert
      exact .inr ⟨nofun, sender, heq ▸ live, by simp [Channel.enqueued, routed]⟩
    · exact .inr ⟨nofun, added_refl _ endpoint _ hinsert⟩

/-- The deeds enqueued for the client since its sender was published. -/
def transcript (host : Host E C) (endpoint : E) : List Deed :=
  match host.server.mInput.mSenders.find? endpoint with
  | none => []
  | some sender => deeds sender.enqueued

/-- The transcript is empty, or it has grown by the client's share. -/
theorem Stepped.transcript_cases [EntryScaling] {a : Action E C} (h : Stepped host a host')
    (endpoint : E) : host'.transcript endpoint = [] ∨
      host'.server.mInput.mSenders.contains endpoint = true ∧
      host'.transcript endpoint = host.transcript endpoint ++ shareOf (host.routed a) endpoint := by
  cases hfind : host'.server.mInput.mSenders.find? endpoint with
  | none => exact .inl (by simp [transcript, hfind])
  | some sender' =>
    rcases h.added hfind with ⟨_, rfl⟩ | ⟨_, sender, hsender, hadded⟩
    · exact .inl (by simp [transcript, hfind, Channel.enqueued, deeds, inputs])
    · exact .inr ⟨by simp [OrderedMap.contains, hfind],
        by simp [transcript, hfind, hsender, hadded]⟩

/-- What has been routed to each client since its sender was published. -/
def recordRouted (host : Host E C) (a : Action E C) (_ : Host E C)
    (past : E → List Deed) : E → List Deed :=
  match a with
  | .publish fresh => fun endpoint => if endpoint = fresh then [] else past endpoint
  | a => fun endpoint => past endpoint ++ shareOf (host.routed a) endpoint

theorem Stepped.recordRouted [EntryScaling] {a : Action E C} (h : Stepped host a host')
    {past : E → List Deed}
    (hpast : ∀ endpoint sender, host.server.mInput.mSenders.find? endpoint = some sender →
      deeds sender.enqueued = past endpoint) (endpoint : E) (sender' : Channel)
    (hfind : host'.server.mInput.mSenders.find? endpoint = some sender') :
    deeds sender'.enqueued = host.recordRouted a host' past endpoint := by
  rcases h.added hfind with ⟨rfl, rfl⟩ | ⟨hother, sender, hsender, hadded⟩
  · simp [Host.recordRouted, Channel.enqueued, deeds, inputs]
  · rw [hadded, hpast endpoint sender hsender]
    cases a with
    | publish fresh =>
      have hne : endpoint ≠ fresh := fun heq => hother (by rw [heq])
      simp [Host.recordRouted, routed, hne]
    | _ => rfl

section Held

variable {K : Type} [DecidableEq K] (keyOf : KeyEvent → K)

/-- What the client holds after the deeds enqueued for it. -/
def held (host : Host E C) (endpoint : E) : Finset (InputKey K) :=
  heldAfter (transitions keyOf (host.transcript endpoint))

/-- A release is routed only for what the client holds, and control moves off a client that
stays connected only when it holds nothing. -/
def ReleasedFirst (host : Host E C) (a : Action E C) (host' : Host E C) : Prop :=
  (∀ out ∈ host.routed a, ∀ t ∈ out.2.transition? keyOf, t.release = true →
    t.key ∈ host.held keyOf out.1) ∧
  ∀ endpoint ∈ host.activeEndpoint, host'.activeEndpoint ≠ some endpoint →
    host'.server.mInput.mSenders.contains endpoint = true → host.held keyOf endpoint = ∅

instance (host host' : Host E C) (a : Action E C) : Decidable (ReleasedFirst keyOf host a host') :=
  inferInstanceAs (Decidable ((∀ out ∈ host.routed a, _) ∧ ∀ endpoint ∈ host.activeEndpoint, _))

/-- Each client's transitions are balanced, and nothing is held where control is not. -/
def Released (host : Host E C) : Prop :=
  ∀ endpoint, Balanced (transitions keyOf (host.transcript endpoint)) ∧
    (host.activeEndpoint ≠ some endpoint → host.held keyOf endpoint = ∅)

variable {keyOf}

omit [InputCapture C] in
theorem released_of_transcript_nil (keyOf : KeyEvent → K) {endpoint : E}
    (h : host.transcript endpoint = []) :
    Balanced (transitions keyOf (host.transcript endpoint)) ∧ host.held keyOf endpoint = ∅ := by
  rw [held, h]
  exact ⟨balanced_nil, heldAfter_nil⟩

/-- What is routed leaves control where it was. -/
theorem activeEndpoint_of_routed [EntryScaling] {a : Action E C} {out : E × Deed}
    (hs : Stepped host a host') (hrouted : host.routed a = some out) :
    host'.activeEndpoint = some out.1 := by
  cases a with
  | captured event =>
    have hhandled := handleInputEvent_handled host.server.mScreens host.server.mInput event
    have hstay := hhandled.activeEndpoint_of_routed hrouted
    cases hs
    exact hstay.trans (ServerInputRouter.activeEndpoint_of_routed hrouted)
  | _ => cases hrouted

theorem Released.step [EntryScaling] {a : Action E C} (h : Released keyOf host)
    (hguard : ReleasedFirst keyOf host a host') (hs : Stepped host a host') :
    Released keyOf host' := by
  intro endpoint
  rcases hs.transcript_cases endpoint with hnil | ⟨hconnected, happend⟩
  · obtain ⟨hbalanced, hheld⟩ := released_of_transcript_nil keyOf hnil
    exact ⟨hbalanced, fun _ => hheld⟩
  rcases shareOf_cases (host.routed a) endpoint with hshare | ⟨deed, hrouted, hshare⟩
  · rw [hshare, List.append_nil] at happend
    rw [held, happend]
    refine ⟨(h endpoint).1, fun hoff => ?_⟩
    by_cases hactive : host.activeEndpoint = some endpoint
    · exact hguard.2 endpoint hactive hoff hconnected
    · exact (h endpoint).2 hactive
  · refine ⟨?_, fun hoff => absurd (activeEndpoint_of_routed hs hrouted) hoff⟩
    rw [happend, hshare, transitions_snoc]
    cases htransition : deed.transition? keyOf with
    | none => simpa using (h endpoint).1
    | some t => exact (h endpoint).1.snoc (hguard.1 _ hrouted t htransition)

/-- The clicks, turns of the wheel and keys enqueued for a connected client are, each as it was
and in their order, the captured ones routed to it since its sender was published. Whatever is
taken for the same key, the presses and releases are balanced, and nothing stays held where
control is not, in every run that releases first. -/
theorem held_keys_follow_capture [EntryScaling] {endpoint : E} {config : AppConfig}
    {configPath : String} {capture : C} {as : List (Action E C)} {host : Host E C} :
    (Run step unguarded (start endpoint config configPath capture) as host →
      ∀ client sender, host.server.mInput.mSenders.find? client = some sender →
        deeds sender.enqueued = history step recordRouted
          (start endpoint config configPath capture) as (fun _ => []) client) ∧
    ∀ {K : Type} [DecidableEq K] (keyOf : KeyEvent → K),
      Run step (ReleasedFirst keyOf) (start endpoint config configPath capture) as host →
        Released keyOf host := by
  constructor
  · intro h
    have hnone : ∀ client sender,
        (start endpoint config configPath capture).server.mInput.mSenders.find? client =
          some sender → deeds sender.enqueued = [] := by
      intro client sender hfind
      simp [start, Server.start, setCapture, ServerInputRouter.init] at hfind
    exact h.history_invariant (fun host (past : E → List Deed) =>
      ∀ client sender, host.server.mInput.mSenders.find? client = some sender →
        deeds sender.enqueued = past client)
      (fun _ _ _ _ hpast _ hnext => (step_stepped hnext).recordRouted hpast) hnone
  · intro K _ keyOf h
    refine h.invariant (Released keyOf) ?_ fun client => ?_
    · intro s a t hs hguard hnext
      exact hs.step hguard (step_stepped hnext)
    have hnil : (start endpoint config configPath capture).transcript client = [] := by
      simp [transcript, start, Server.start, setCapture, ServerInputRouter.init]
    obtain ⟨hbalanced, hheld⟩ := released_of_transcript_nil keyOf hnil
    exact ⟨hbalanced, fun _ => hheld⟩

end Held

/-- The guest's screen is active and the events are captured. -/
def atGuest (events : List InputEvent) : List DeskAction :=
  .registerLocal [deskMonitor] :: connect 1001 "m" [sideMonitor] ++
    .captured (.mouseMove { x := 1919, y := 500 }) :: events.map .captured

/-- A key of which only the native code is known. -/
def unnamed (nativeCode : Nat) (release : Bool) : InputEvent := .key { nativeCode, release }

def pressA : InputEvent := .key { key := .a, nativeCode := 38 }
def releaseA : InputEvent := .key { key := .a, nativeCode := 38, release := true }
def pressF12 : InputEvent := .key { key := .f12 }

def typed : List InputEvent :=
  [unnamed 240 false, pressA, releaseA, unnamed 240 true, pressF12]

theorem held_keys_follow_capture_typing : ∃ host : DeskHost,
    Run step (ReleasedFirst physicalKey) deskHost (atGuest typed) host ∧
    Released physicalKey host ∧ host.activeEndpoint = none ∧
    (∀ client sender, host.server.mInput.mSenders.find? client = some sender →
      deeds sender.enqueued = history step recordRouted deskHost (atGuest typed) (fun _ => [])
        client) ∧
    host.transcript (loopback 1001) =
      ([unnamed 240 false, pressA, releaseA, unnamed 240 true]).filterMap InputEvent.deed? := by
  obtain ⟨host, hrun, hp⟩ := exists_run_of_execute step
    (fun host a host' => decide (ReleasedFirst physicalKey host a host')) deskHost
    (atGuest typed)
    (fun host : DeskHost => decide (host.activeEndpoint = none ∧
      host.transcript (loopback 1001) =
        ([unnamed 240 false, pressA, releaseA, unnamed 240 true]).filterMap InputEvent.deed?))
    (fun _ _ _ hcheck => of_decide_eq_true hcheck) (by decide +kernel)
  obtain ⟨hhome, htyped⟩ := of_decide_eq_true hp
  exact ⟨host, hrun, held_keys_follow_capture.2 physicalKey hrun, hhome,
    held_keys_follow_capture.1 hrun.forget, htyped⟩

/-- F12 takes control home while a key is held; a key pressed at home is released at the
guest. -/
theorem held_keys_cross : (∃ host : DeskHost,
      Run step unguarded deskHost (atGuest [pressA, pressF12]) host ∧
      host.activeEndpoint = none ∧ (host.sessions.find? (loopback 1001)).isSome = true ∧
      InputKey.key (Key.a, 38) ∈ host.held physicalKey (loopback 1001)) ∧
    ∃ host : DeskHost, Run step unguarded deskHost (atGuest [releaseA]) host ∧
      ¬ Balanced (transitions physicalKey (host.transcript (loopback 1001))) := by
  constructor
  · obtain ⟨host, hrun, hp⟩ := exists_run_of_execute step (fun _ _ _ => true) deskHost
      (atGuest [pressA, pressF12])
      (fun host : DeskHost => decide (host.activeEndpoint = none ∧
        (host.sessions.find? (loopback 1001)).isSome = true ∧
        InputKey.key (Key.a, 38) ∈ host.held physicalKey (loopback 1001)))
      (fun _ _ _ _ => trivial) (by decide +kernel)
    exact ⟨host, hrun, of_decide_eq_true hp⟩
  · obtain ⟨host, hrun, hp⟩ := exists_run_of_execute step (fun _ _ _ => true) deskHost
      (atGuest [releaseA])
      (fun host : DeskHost => decide (transitions physicalKey (host.transcript (loopback 1001)) =
        [⟨.key (.a, 38), true⟩]))
      (fun _ _ _ _ => trivial) (by decide +kernel)
    refine ⟨host, hrun, fun hbalanced => ?_⟩
    have hprefix : [] ++ [⟨.key (.a, 38), true⟩] <+:
        transitions physicalKey (host.transcript (loopback 1001)) := by
      rw [of_decide_eq_true hp]
      exact List.prefix_refl _
    exact absurd (hbalanced [] _ hprefix rfl) (by simp)

end Host
end Mksync
