import Mksync.ServerRuns

/-!
# What one step of the host does

`Stepped` lists the outcomes of an enabled action, and `StoreStep` what they mean for the
screen store alone.
-/
namespace Mksync

open TransitionRuns

namespace ServerScreenStore

variable {E : Type} [Endpoint E]

/-- What a step can do to the store, with the endpoint whose screens it drops. -/
inductive StoreStep (store : ServerScreenStore E) : Option E → ServerScreenStore E → Prop
  | kept : StoreStep store none store
  | remembered (endpoint : E) (ownerId : String) :
      StoreStep store none (store.rememberOwner endpoint ownerId)
  | replaced (endpoint : E) (ownerId : String) (screens : List ScreenInfo) (isLocal : Bool) :
      StoreStep store (some endpoint)
        ((store.eraseEndpoint endpoint).registerScreens endpoint ownerId screens isLocal)
  | closed (endpoint : E) :
      StoreStep store (some endpoint) ((store.eraseEndpoint endpoint).forgetOwner endpoint)

/-- No step changes the list of trusted clients or the machine id. -/
theorem StoreStep.config {store store' : ServerScreenStore E} {dropped : Option E}
    (h : StoreStep store dropped store') :
    store'.mConfig.trustedClients = store.mConfig.trustedClients ∧
      store'.mConfig.machineId = store.mConfig.machineId := by
  cases h with
  | kept | remembered | closed => exact ⟨rfl, rfl⟩
  | replaced =>
    rw [registerScreens_trustedClients, registerScreens_machineId]
    exact ⟨rfl, rfl⟩

theorem forgetOwner_rememberOwner (store : ServerScreenStore E) (endpoint : E) (ownerId : String) :
    (store.rememberOwner endpoint ownerId).forgetOwner endpoint = store.forgetOwner endpoint := by
  simp [forgetOwner, rememberOwner]

end ServerScreenStore

namespace Server

open ServerInputRouter

variable {E C : Type} [Endpoint E] [InputCapture C] (server : Server E C) (endpoint : E)

@[simp] theorem registerScreens_mScreens (ownerId : String) (screens : List ScreenInfo)
    (isLocal : Bool) : (server.registerScreens endpoint ownerId screens isLocal).mScreens =
      (server.mScreens.eraseEndpoint endpoint).registerScreens endpoint ownerId screens isLocal :=
  rfl

@[simp] theorem removeEndpointScreens_mScreens :
    (server.removeEndpointScreens endpoint).mScreens = server.mScreens.eraseEndpoint endpoint := by
  simp only [removeEndpointScreens]
  split <;> rfl

@[simp] theorem removeEndpointScreens_mEndpoint :
    (server.removeEndpointScreens endpoint).mEndpoint = server.mEndpoint := by
  simp only [removeEndpointScreens]
  split <;> rfl

@[simp] theorem onClosed_mScreens : (server.onClosed endpoint).mScreens =
    (server.mScreens.eraseEndpoint endpoint).forgetOwner endpoint := by
  simp [onClosed, setSenders]

@[simp] theorem onClosed_mEndpoint :
    (server.onClosed endpoint).mEndpoint = server.mEndpoint := by
  simp [onClosed, setSenders]

/-- Registering screens enqueues nothing but moves. -/
theorem registerScreens_sent (ownerId : String) (screens : List ScreenInfo) (isLocal : Bool) :
    ∃ out, Sent server.mInput.mSenders out
        (server.registerScreens endpoint ownerId screens isLocal).mInput.mSenders ∧
      ∀ o ∈ out, ∃ point, o.2 = moveTo point := by
  obtain ⟨out, hsent, hmove⟩ := ensureActiveLocalScreen_sent
    (server.registerScreens endpoint ownerId screens isLocal).mScreens isLocal
    (if (server.mScreens.removeScreen endpoint server.mInput.mActiveScreen).1 = true then
      server.mInput.clearActiveState
        (server.mScreens.removeScreen endpoint server.mInput.mActiveScreen).2
    else server.mInput)
  have hsenders : (if (server.mScreens.removeScreen endpoint server.mInput.mActiveScreen).1 = true
      then server.mInput.clearActiveState
        (server.mScreens.removeScreen endpoint server.mInput.mActiveScreen).2
      else server.mInput).mSenders = server.mInput.mSenders := by
    split <;> simp
  exact ⟨out, hsenders ▸ hsent, hmove⟩

@[simp] theorem registerScreens_false_mSenders (ownerId : String) (screens : List ScreenInfo) :
    (server.registerScreens endpoint ownerId screens false).mInput.mSenders =
      server.mInput.mSenders := by
  simp only [registerScreens, ServerInputRouter.ensureActiveLocalScreen_false_mSenders]
  split <;> simp

@[simp] theorem removeEndpointScreens_mSenders :
    (server.removeEndpointScreens endpoint).mInput.mSenders = server.mInput.mSenders := by
  simp only [removeEndpointScreens]
  split <;> simp

@[simp] theorem onClosed_mSenders :
    (server.onClosed endpoint).mInput.mSenders = server.mInput.mSenders.erase endpoint := by
  simp [onClosed, setSenders]

/-- The owner recorded for a connection that is cleaned up is forgotten with it. -/
theorem onClosed_rememberOwner (ownerId : String) :
    (server.rememberOwner endpoint ownerId).onClosed endpoint = server.onClosed endpoint := by
  have hinput : ((server.rememberOwner endpoint ownerId).removeEndpointScreens endpoint).mInput =
      (server.removeEndpointScreens endpoint).mInput := by
    have hflag : ((server.mScreens.rememberOwner endpoint ownerId).removeScreen endpoint
        server.mInput.mActiveScreen).1 =
      (server.mScreens.removeScreen endpoint server.mInput.mActiveScreen).1 := rfl
    simp only [removeEndpointScreens, rememberOwner, hflag]
    cases (server.mScreens.removeScreen endpoint server.mInput.mActiveScreen).1 <;> rfl
  refine Server.ext (by simp [rememberOwner]) ?_ (by simp only [onClosed, setSenders, hinput])
  rw [onClosed_mScreens, onClosed_mScreens]
  exact ServerScreenStore.forgetOwner_rememberOwner (server.mScreens.eraseEndpoint endpoint) _ _

end Server

namespace Host

variable {E C : Type} [Endpoint E] [InputCapture C]

/-- What an enabled action does. -/
inductive Stepped [EntryScaling] (host : Host E C) : Action E C → Host E C → Prop
  | registerLocal (screens : List ScreenInfo) :
      Stepped host (.registerLocal screens)
        (host.withServer (Server.registerLocalScreens screens))
  | captured (event : InputEvent) :
      Stepped host (.captured event) (host.withServer (Server.handleInputEvent event))
  | signal (signal : InputCapture.Signal C) :
      Stepped host (.signal signal) (host.withServer (Server.onSignal signal))
  | accepted {endpoint : E} (remote : endpoint ≠ host.server.mEndpoint)
      (fresh : host.sessions.find? endpoint = none) :
      Stepped host (.accept endpoint) (host.withSession endpoint {})
  | greeted {endpoint : E} {session : ServerSession} {hello : HelloMessage}
      (live : host.sessions.find? endpoint = some session) (phase : session.phase = .handshake)
      (trusted : isTrustedClient host.server.mScreens.mConfig hello.machineId hello.name = true) :
      Stepped host (.receive endpoint (.hello hello))
        ((host.withServer (Server.rememberOwner endpoint
          (helloOwnerId endpoint hello))).withSession endpoint { session with
          phase := .running
          mMachineId := hello.machineId
          mOwnerId := helloOwnerId endpoint hello
          mName := hello.name
          received := session.received ++ [.hello hello] })
  | rejected {endpoint : E} {session : ServerSession} {message : RpcMessage}
      (live : host.sessions.find? endpoint = some session) (phase : session.phase = .handshake)
      (untrusted : ∀ hello, message = .hello hello →
        isTrustedClient host.server.mScreens.mConfig hello.machineId hello.name = false) :
      Stepped host (.receive endpoint message) (host.closeSession endpoint)
  | reported {endpoint : E} {session : ServerSession} {report : ScreensMessage}
      (live : host.sessions.find? endpoint = some session) (phase : session.phase = .running) :
      Stepped host (.receive endpoint (.screens report))
        ((host.withSession endpoint
          { session with received := session.received ++ [.screens report] }).withServer
          (Server.registerScreens endpoint session.mOwnerId report.screens false))
  | ignored {endpoint : E} {session : ServerSession} {message : RpcMessage}
      (live : host.sessions.find? endpoint = some session) (phase : session.phase = .running)
      (noScreens : ∀ report, message ≠ .screens report) :
      Stepped host (.receive endpoint message) (host.withSession endpoint
        { session with received := session.received ++ [message] })
  | published {endpoint : E} {session : ServerSession}
      (live : host.sessions.find? endpoint = some session) (phase : session.phase = .running)
      (silent : session.writing = false) :
      Stepped host (.publish endpoint)
        ((host.withSession endpoint { session with writing := true }).withServer
          (Server.setSenders (host.server.mInput.mSenders.insertOrAssign endpoint {})))
  | delivered {endpoint : E} {session : ServerSession} {sender sender' : Channel}
      (live : host.sessions.find? endpoint = some session) (phase : session.phase = .running)
      (sends : host.server.mInput.mSenders.find? endpoint = some sender)
      (taken : sender.recv = some sender') :
      Stepped host (.deliver endpoint) (host.withServer
        (Server.setSenders (host.server.mInput.mSenders.insertOrAssign endpoint sender')))
  | dropped {endpoint : E} {session : ServerSession}
      (live : host.sessions.find? endpoint = some session) (phase : session.phase = .handshake) :
      Stepped host (.fail endpoint) (host.closeSession endpoint)
  | broke {endpoint : E} {session : ServerSession}
      (live : host.sessions.find? endpoint = some session) (phase : session.phase = .running)
      (mute : host.server.mInput.mSenders.find? endpoint = none) :
      Stepped host (.fail endpoint) (host.withSession endpoint { session with phase := .closing })
  | hungUp {endpoint : E} {session : ServerSession} {sender : Channel}
      (live : host.sessions.find? endpoint = some session) (phase : session.phase = .running)
      (sends : host.server.mInput.mSenders.find? endpoint = some sender) :
      Stepped host (.fail endpoint)
        ((host.withSession endpoint { session with phase := .closing }).withServer
          (Server.setSenders
            (host.server.mInput.mSenders.insertOrAssign endpoint { sender with closed := true })))
  | closed {endpoint : E} {session : ServerSession}
      (live : host.sessions.find? endpoint = some session) (phase : session.phase = .closing) :
      Stepped host (.close endpoint) (host.closeSession endpoint)

theorem handshake_stepped [EntryScaling] {host : Host E C} {endpoint : E} {session : ServerSession}
    (message : RpcMessage) (live : host.sessions.find? endpoint = some session)
    (phase : session.phase = .handshake) :
    Stepped host (.receive endpoint message) (host.handshake endpoint session message) := by
  cases message with
  | hello hello =>
    have hconfig : (host.withServer (Server.rememberOwner endpoint
        (helloOwnerId endpoint hello))).server.mScreens.mConfig = host.server.mScreens.mConfig :=
      rfl
    simp only [handshake, hconfig]
    cases ht : isTrustedClient host.server.mScreens.mConfig hello.machineId hello.name with
    | true => exact .greeted live phase ht
    | false =>
      have hclose : (host.withServer (Server.rememberOwner endpoint
          (helloOwnerId endpoint hello))).closeSession endpoint = host.closeSession endpoint := by
        simp [closeSession, withServer, Server.onClosed_rememberOwner]
      simp only [hclose, Bool.false_eq_true, if_false]
      exact .rejected live phase (by simp [ht])
  | _ => exact .rejected live phase (by simp)

/-- An enabled step has one of the outcomes of `Stepped`. -/
theorem step_stepped [EntryScaling] {host host' : Host E C} {a : Action E C}
    (h : host.step a = some host') :
    Stepped host a host' := by
  cases a with
  | registerLocal screens =>
    cases h
    exact .registerLocal screens
  | captured event =>
    cases h
    exact .captured event
  | signal signal =>
    cases h
    exact .signal signal
  | accept endpoint =>
    simp only [step] at h
    split_ifs at h with hno
    cases h
    obtain ⟨hremote, hfresh⟩ := not_or.mp hno
    exact .accepted hremote (by simpa [OrderedMap.contains] using hfresh)
  | receive endpoint message =>
    cases live : host.sessions.find? endpoint with
    | none => simp [step, live] at h
    | some session =>
      cases phase : session.phase with
      | handshake =>
        obtain rfl : host.handshake endpoint session message = host' := by
          simpa [step, live, phase] using h
        exact handshake_stepped message live phase
      | running =>
        obtain rfl : host.readLoop endpoint session message = host' := by
          simpa [step, live, phase] using h
        cases message with
        | screens report => exact .reported live phase
        | _ => exact .ignored live phase (by simp)
      | closing => simp [step, live, phase] at h
  | publish endpoint =>
    cases live : host.sessions.find? endpoint with
    | none => simp [step, live] at h
    | some session =>
      simp only [step, live] at h
      split_ifs at h with hphase
      cases h
      exact .published live hphase.1 hphase.2
  | deliver endpoint =>
    cases live : host.sessions.find? endpoint with
    | none => simp [step, live] at h
    | some session =>
      cases sends : host.server.mInput.mSenders.find? endpoint with
      | none => simp [step, live, sends] at h
      | some sender =>
        simp only [step, live, sends] at h
        split_ifs at h with phase
        cases taken : sender.recv with
        | none => simp [taken] at h
        | some sender' =>
          simp only [taken, Option.some.injEq] at h
          subst h
          exact .delivered live phase sends taken
  | fail endpoint =>
    cases live : host.sessions.find? endpoint with
    | none => simp [step, live] at h
    | some session =>
      simp only [step, live, failSession] at h
      cases phase : session.phase with
      | handshake =>
        simp only [phase, Option.some.injEq] at h
        subst h
        exact .dropped live phase
      | running =>
        cases sends : host.server.mInput.mSenders.find? endpoint with
        | none =>
          simp only [phase, withSession, sends, Option.some.injEq] at h
          subst h
          exact .broke live phase sends
        | some sender =>
          simp only [phase, withSession, sends, Option.some.injEq] at h
          subst h
          exact .hungUp live phase sends
      | closing => simp [phase] at h
  | close endpoint =>
    cases live : host.sessions.find? endpoint with
    | none => simp [step, live] at h
    | some session =>
      simp only [step, live] at h
      split_ifs at h with phase
      cases h
      exact .closed live phase

theorem Stepped.mEndpoint [EntryScaling] {host host' : Host E C} {a : Action E C}
    (h : Stepped host a host') : host'.server.mEndpoint = host.server.mEndpoint := by
  cases h with
  | rejected | dropped | closed => exact Server.onClosed_mEndpoint _ _
  | _ => rfl

/-! ### The screen store -/

def handshaking (host : Host E C) (endpoint : E) : Bool :=
  (host.sessions.find? endpoint).any (·.phase = .handshake)

/-- The handshake accepts a trusted Hello and nothing else. -/
def admits (host : Host E C) : RpcMessage → Bool
  | .hello hello => isTrustedClient host.server.mScreens.mConfig hello.machineId hello.name
  | _ => false

/-- The endpoint whose screens an enabled action drops, if only to register new ones. -/
def droppedEndpoint (host : Host E C) : Action E C → Option E
  | .registerLocal _ => some host.server.mEndpoint
  | .receive endpoint message =>
    if host.handshaking endpoint then if host.admits message then none else some endpoint
    else match message with
      | .screens _ => some endpoint
      | _ => none
  | .fail endpoint => if host.handshaking endpoint then some endpoint else none
  | .close endpoint => some endpoint
  | _ => none

omit [InputCapture C] in
theorem handshaking_eq {host : Host E C} {endpoint : E} {session : ServerSession}
    (live : host.sessions.find? endpoint = some session) :
    host.handshaking endpoint = decide (session.phase = .handshake) := by
  simp [handshaking, live]

/-- A step drops no endpoint, or it replaces the endpoint's screens, or it removes them with
the session. -/
theorem Stepped.dropped_cases [EntryScaling] {host host' : Host E C} {a : Action E C}
    (h : Stepped host a host') :
    (host.droppedEndpoint a = none ∧ (host'.server.mScreens = host.server.mScreens ∨
      ∃ endpoint ownerId,
        host'.server.mScreens = host.server.mScreens.rememberOwner endpoint ownerId)) ∨
    (∃ endpoint ownerId screens isLocal, host.droppedEndpoint a = some endpoint ∧
      host'.server = host.server.registerScreens endpoint ownerId screens isLocal ∧
      (isLocal = true → a = .registerLocal screens) ∧
      (isLocal = false → ∃ session, a = .receive endpoint (.screens ⟨screens⟩) ∧
        host.sessions.find? endpoint = some session ∧ session.phase = .running ∧
        session.mOwnerId = ownerId)) ∨
    (∃ endpoint, host.droppedEndpoint a = some endpoint ∧
      host'.server = host.server.onClosed endpoint) := by
  cases h with
  | registerLocal screens =>
    exact .inr (.inl ⟨_, _, screens, true, rfl, rfl, fun _ => rfl, nofun⟩)
  | captured | signal | accepted | published | delivered => exact .inl ⟨rfl, .inl rfl⟩
  | @greeted endpoint _ hello live phase trusted =>
    refine .inl ⟨?_, .inr ⟨_, _, rfl⟩⟩
    simp [droppedEndpoint, handshaking_eq live, phase, admits, trusted]
  | @rejected endpoint _ message live phase untrusted =>
    have hreject : host.admits message = false := by
      cases message with
      | hello hello => exact untrusted hello rfl
      | _ => rfl
    refine .inr (.inr ⟨endpoint, ?_, rfl⟩)
    simp [droppedEndpoint, handshaking_eq live, phase, hreject]
  | @reported endpoint session report live phase =>
    refine .inr (.inl ⟨endpoint, session.mOwnerId, report.screens, false, ?_, rfl, nofun,
      fun _ => ⟨session, rfl, live, phase, rfl⟩⟩)
    simp [droppedEndpoint, handshaking_eq live, phase]
  | @ignored endpoint _ message live phase noScreens =>
    refine .inl ⟨?_, .inl rfl⟩
    cases message with
    | screens report => exact absurd rfl (noScreens report)
    | _ => simp [droppedEndpoint, handshaking_eq live, phase]
  | @dropped endpoint _ live phase =>
    refine .inr (.inr ⟨endpoint, ?_, rfl⟩)
    simp [droppedEndpoint, handshaking_eq live, phase]
  | @broke endpoint _ live phase | @hungUp endpoint _ _ live phase =>
    refine .inl ⟨?_, .inl rfl⟩
    simp [droppedEndpoint, handshaking_eq live, phase]
  | @closed endpoint => exact .inr (.inr ⟨endpoint, rfl, rfl⟩)

theorem Stepped.storeStep [EntryScaling] {host host' : Host E C} {a : Action E C}
    (h : Stepped host a host') :
    ServerScreenStore.StoreStep host.server.mScreens (host.droppedEndpoint a)
      host'.server.mScreens := by
  rcases h.dropped_cases with ⟨hdrop, hkept | ⟨_, _, hkept⟩⟩ |
    ⟨_, _, _, _, hdrop, hserver, _⟩ | ⟨_, hdrop, hserver⟩
  · rw [hdrop, hkept]
    exact .kept
  · rw [hdrop, hkept]
    exact .remembered _ _
  · rw [hdrop, hserver]
    exact .replaced _ _ _ _
  · rw [hdrop, hserver, Server.onClosed_mScreens]
    exact .closed _

/-! ### One session and its sender -/

/-- The write loop has been started in both, or in neither. -/
def SameWriting (session session' : ServerSession) : Prop := session'.writing = session.writing

theorem sameWriting_refl (session : ServerSession) : SameWriting session session := rfl

/-- The session and the sender of an endpoint before and after a step. -/
inductive PeerStep (endpoint : E) : Action E C → Option ServerSession → Option Channel →
    Option ServerSession → Option Channel → Prop
  | accepted {sender : Option Channel} :
      PeerStep endpoint (.accept endpoint) none sender (some {}) sender
  | published {session : ServerSession} {sender : Option Channel}
      (silent : session.writing = false) :
      PeerStep endpoint (.publish endpoint) (some session) sender
        (some { session with writing := true }) (some {})
  | delivered {session : ServerSession} {sender sender' : Channel}
      (taken : sender.recv = some sender') :
      PeerStep endpoint (.deliver endpoint) (some session) (some sender) (some session)
        (some sender')
  | closed {a : Action E C} {session : Option ServerSession} {sender : Option Channel} :
      PeerStep endpoint a session sender none none
  | kept {a : Action E C} {session session' : Option ServerSession}
      {sender sender' : Option Channel}
      (writing : Option.Rel SameWriting session session')
      (extended : Option.Rel Channel.Extends sender sender') :
      PeerStep endpoint a session sender session' sender'

omit [InputCapture C] in
theorem rel_self (host : Host E C) (endpoint : E) :
    Option.Rel SameWriting (host.sessions.find? endpoint) (host.sessions.find? endpoint) ∧
    Option.Rel Channel.Extends (host.server.mInput.mSenders.find? endpoint)
      (host.server.mInput.mSenders.find? endpoint) :=
  ⟨OrderedMap.rel_find?_self sameWriting_refl _ _,
    OrderedMap.rel_find?_self Channel.Extends.refl _ _⟩

theorem closeSession_peerStep (host : Host E C) (a : Action E C) (target endpoint : E) :
    PeerStep endpoint a (host.sessions.find? endpoint)
      (host.server.mInput.mSenders.find? endpoint)
      ((host.closeSession target).sessions.find? endpoint)
      ((host.closeSession target).server.mInput.mSenders.find? endpoint) := by
  unfold closeSession
  rw [Server.onClosed_mSenders, OrderedMap.find?_erase, OrderedMap.find?_erase]
  split_ifs
  · exact .closed
  · exact .kept (host.rel_self endpoint).1 (host.rel_self endpoint).2

theorem Stepped.peerStep [EntryScaling] {host host' : Host E C} {a : Action E C}
    (h : Stepped host a host') (endpoint : E) :
    PeerStep endpoint a (host.sessions.find? endpoint)
      (host.server.mInput.mSenders.find? endpoint) (host'.sessions.find? endpoint)
      (host'.server.mInput.mSenders.find? endpoint) := by
  cases h with
  | registerLocal screens =>
    obtain ⟨out, hsent, -⟩ := Server.registerScreens_sent host.server host.server.mEndpoint
      host.server.localOwnerId screens true
    exact .kept (host.rel_self endpoint).1 (hsent.extends endpoint)
  | captured event =>
    obtain ⟨out, hsent⟩ := (ServerInputRouter.handleInputEvent_handled host.server.mScreens
      host.server.mInput event).sent
    exact .kept (host.rel_self endpoint).1 (hsent.extends endpoint)
  | signal => exact .kept (host.rel_self endpoint).1 (host.rel_self endpoint).2
  | @accepted target remote fresh =>
    change PeerStep _ _ _ _ ((host.sessions.insertOrAssign target {}).find? endpoint) _
    rw [OrderedMap.find?_insertOrAssign]
    split_ifs with heq
    · rw [heq, fresh]
      exact .accepted
    · exact .kept (host.rel_self endpoint).1 (host.rel_self endpoint).2
  | greeted live | ignored live | broke live =>
    refine .kept (OrderedMap.rel_find?_insertOrAssign sameWriting_refl live ?_ endpoint)
      (host.rel_self endpoint).2
    rfl
  | @reported target session report live =>
    refine .kept (OrderedMap.rel_find?_insertOrAssign sameWriting_refl live ?_ endpoint) ?_
    · rfl
    have hsenders := Server.registerScreens_false_mSenders host.server target session.mOwnerId
      report.screens
    change Option.Rel Channel.Extends _ ((Server.registerScreens target session.mOwnerId
      report.screens false host.server).mInput.mSenders.find? endpoint)
    rw [hsenders]
    exact (host.rel_self endpoint).2
  | rejected | dropped | closed => exact closeSession_peerStep host _ _ endpoint
  | @published target session live phase silent =>
    change PeerStep _ _ _ _
      ((host.sessions.insertOrAssign target { session with writing := true }).find? endpoint)
      ((host.server.mInput.mSenders.insertOrAssign target {}).find? endpoint)
    rw [OrderedMap.find?_insertOrAssign, OrderedMap.find?_insertOrAssign]
    split_ifs with heq
    · rw [heq, live]
      exact .published silent
    · exact .kept (host.rel_self endpoint).1 (host.rel_self endpoint).2
  | @delivered target session sender sender' live phase sends taken =>
    change PeerStep _ _ _ _ (host.sessions.find? endpoint)
      ((host.server.mInput.mSenders.insertOrAssign target sender').find? endpoint)
    rw [OrderedMap.find?_insertOrAssign]
    split_ifs with heq
    · rw [heq, live, sends]
      exact .delivered taken
    · exact .kept (host.rel_self endpoint).1 (host.rel_self endpoint).2
  | @hungUp target session sender live phase sends =>
    refine .kept (OrderedMap.rel_find?_insertOrAssign sameWriting_refl live ?_ endpoint)
      (OrderedMap.rel_find?_insertOrAssign Channel.Extends.refl sends ?_ endpoint)
    · rfl
    · exact ⟨rfl, List.prefix_rfl⟩

end Host
end Mksync
