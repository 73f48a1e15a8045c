import Mksync.ServerSessions
import Mksync.SessionIsolation

/-!
# The trust gate

Nothing of a peer is routed before its first message was a trusted Hello, and the messages
around that Hello have no effect on the topology, on any owner id or on the trust itself.
-/
namespace Mksync

open TransitionRuns

namespace Host

variable {E C : Type} [Endpoint E] {host host' : Host E C} {endpoint : E}

/-- The store or the topology has a screen of the endpoint, or its sender is published. -/
def HasRoute (host : Host E C) (endpoint : E) : Prop :=
  (∃ node ∈ host.server.mScreens.mScreens.nodes, node.value.endpoint = endpoint) ∨
  (∃ screen, host.server.mScreens.RegisteredThrough endpoint screen) ∨
  (host.server.mInput.mSenders.find? endpoint).isSome

/-- The first message received on the connection was a trusted Hello. -/
def FirstHelloTrusted (config : AppConfig) (host : Host E C) (endpoint : E) : Prop :=
  ∃ session hello rest, host.sessions.find? endpoint = some session ∧
    session.received = .hello hello :: rest ∧
    isTrustedClient config hello.machineId hello.name = true

/-- A message in place of a trusted Hello, or a Hello after the handshake. -/
def Powerless (host : Host E C) (endpoint : E) (message : RpcMessage) : Prop :=
  if host.handshaking endpoint then host.admits message = false
  else ∃ hello, message = .hello hello

theorem SessionsValid.firstHelloTrusted (h : SessionsValid host)
    (hadmitted : (host.admittedOwner endpoint).isSome) :
    FirstHelloTrusted host.server.mScreens.mConfig host endpoint := by
  unfold admittedOwner at hadmitted
  cases live : host.sessions.find? endpoint with
  | none => simp [live] at hadmitted
  | some session =>
    have phase : session.phase ≠ .handshake := by
      intro phase
      simp [live, phase] at hadmitted
    obtain ⟨hello, rest, hreceived, htrusted, _⟩ := (h.valid endpoint session live).2 phase
    exact ⟨session, hello, rest, live, hreceived, htrusted⟩

/-- Everything routed for a remote endpoint belongs to an admitted connection. -/
theorem Owned.admitted_of_hasRoute (h : Owned host) (hgrounded : host.server.mScreens.Grounded)
    (hne : endpoint ≠ host.server.mEndpoint) (hroute : host.HasRoute endpoint) :
    (host.admittedOwner endpoint).isSome := by
  have hnodes : ∀ node ∈ host.server.mScreens.mScreens.nodes, node.key = endpoint →
      (host.admittedOwner endpoint).isSome := by
    rintro node hnode rfl
    rcases h.nodes node hnode with ⟨hlocal, _⟩ | ⟨_, _, howner⟩
    · exact absurd hlocal hne
    · simp [howner]
  rcases hroute with ⟨node, hnode, hkey⟩ | ⟨screen, hscreen, hreg⟩ | hsender
  · exact hnodes node hnode ((hgrounded.routed node hnode).symm.trans hkey)
  · obtain ⟨node, hnode, _, hnodeReg⟩ := hgrounded.viewed _ _ hscreen
    exact hnodes node hnode (Option.some.inj (hnodeReg.symm.trans hreg))
  · exact h.senders endpoint hsender

/-- An endpoint without an admitted connection has no screens to forget. -/
theorem Owned.ownerIds_eq_nil (h : Owned host) (hne : endpoint ≠ host.server.mEndpoint)
    (hnone : host.admittedOwner endpoint = none) :
    host.server.mScreens.ownerIds endpoint = [] := by
  rw [List.eq_nil_iff_forall_not_mem]
  intro owner howner
  obtain ⟨node, hnode, rfl, _⟩ := ServerScreenStore.mem_ownerIds.mp howner
  rcases h.nodes node hnode with ⟨hlocal, _⟩ | ⟨_, _, hadmitted⟩
  · exact hne hlocal
  · simp [hnone] at hadmitted

variable [InputCapture C]

/-- A handshake that ends without an admission leaves the topology and the owners alone. -/
theorem closeSession_handshake (hvalid : SessionsValid host) (h : Owned host)
    {session : ServerSession} (live : host.sessions.find? endpoint = some session)
    (phase : session.phase = .handshake) :
    (host.closeSession endpoint).server.mScreens.mTopology = host.server.mScreens.mTopology ∧
    ∀ other, (host.closeSession endpoint).server.mScreens.mEndpointOwners.find? other =
      host.server.mScreens.mEndpointOwners.find? other := by
  have hnone : host.admittedOwner endpoint = none := by simp [admittedOwner_of_live live, phase]
  have hnil := h.ownerIds_eq_nil (hvalid.ne_endpoint live) hnone
  have hscreens : (host.closeSession endpoint).server.mScreens =
      (host.server.mScreens.eraseEndpoint endpoint).forgetOwner endpoint :=
    Server.onClosed_mScreens _ _
  rw [hscreens]
  refine ⟨by simp [ServerScreenStore.forgetOwner, ServerScreenStore.eraseEndpoint, hnil], ?_⟩
  intro other
  simp only [ServerScreenStore.forgetOwner, ServerScreenStore.eraseEndpoint,
    OrderedMap.find?_erase]
  split_ifs with heq
  · rw [eq_comm, Option.eq_none_iff_forall_ne_some, heq]
    exact fun ownerId hfind => by simp [h.owners _ _ hfind] at hnone
  · rfl

/-- In every reachable state only endpoints whose first message was a trusted Hello have a
route, the trust list and the machine id are those of the start, and a powerless message
changes neither the topology nor an owner record nor the owner id of a session. -/
theorem trust_gate [EntryScaling] {endpoint : E} {config : AppConfig} {configPath : String}
    {capture : C} {as : List (Action E C)}
    (h : Run step unguarded (start endpoint config configPath capture) as host) :
    (∀ peer, peer ≠ endpoint → host.HasRoute peer → FirstHelloTrusted config host peer) ∧
    (host.server.mScreens.mConfig.trustedClients = config.trustedClients ∧
      host.server.mScreens.mConfig.machineId = config.machineId) ∧
    ∀ peer message host', host.Powerless peer message →
      host.step (.receive peer message) = some host' →
      host'.server.mScreens.mTopology = host.server.mScreens.mTopology ∧
      (∀ other, host'.server.mScreens.mEndpointOwners.find? other =
        host.server.mScreens.mEndpointOwners.find? other) ∧
      ∀ other session', host'.sessions.find? other = some session' →
        ∃ session, host.sessions.find? other = some session ∧
          session'.mOwnerId = session.mOwnerId := by
  have hgrounded := run_grounded h
  obtain ⟨hvalid, howned⟩ := run_owned h
  have hconst : host.server.mEndpoint = endpoint ∧
      host.server.mScreens.mConfig.trustedClients = config.trustedClients ∧
      host.server.mScreens.mConfig.machineId = config.machineId := by
    refine h.invariant (fun host => host.server.mEndpoint = endpoint ∧
      host.server.mScreens.mConfig.trustedClients = config.trustedClients ∧
      host.server.mScreens.mConfig.machineId = config.machineId) ?_ ⟨rfl, rfl, rfl⟩
    rintro s a t ⟨he, ht, hm⟩ - hnext
    have hstepped := step_stepped hnext
    exact ⟨hstepped.mEndpoint.trans he, hstepped.storeStep.config.1.trans ht,
      hstepped.storeStep.config.2.trans hm⟩
  refine ⟨fun peer hne hroute => ?_, hconst.2, fun peer message host' hpowerless hstep => ?_⟩
  · obtain ⟨session, hello, rest, live, hreceived, htrusted⟩ := hvalid.firstHelloTrusted
      (howned.admitted_of_hasRoute hgrounded (hconst.1 ▸ hne) hroute)
    exact ⟨session, hello, rest, live, hreceived,
      (isTrustedClient_congr hconst.2.1 _ _).symm.trans htrusted⟩
  · generalize ha : (Action.receive peer message : Action E C) = a at hstep
    cases step_stepped hstep with
    | greeted live phase trusted =>
      cases ha
      simp [Powerless, handshaking_eq live, phase, admits, trusted] at hpowerless
    | @rejected _ _ _ live phase untrusted =>
      cases ha
      obtain ⟨htopology, howners⟩ := closeSession_handshake hvalid howned live phase
      refine ⟨htopology, howners, fun other session' hfind => ?_⟩
      exact ⟨session', find?_closeSession hfind, rfl⟩
    | reported live phase =>
      cases ha
      simp [Powerless, handshaking_eq live, phase] at hpowerless
    | ignored live phase =>
      cases ha
      refine ⟨rfl, fun _ => rfl, fun other session' hfind => ?_⟩
      rcases find?_withSession hfind with hold | ⟨rfl, rfl⟩
      · exact ⟨session', hold, rfl⟩
      · exact ⟨_, live, rfl⟩
    | _ => cases ha

/-- Two peers say Hello, `m` is on the list of trusted clients and `x` is not. -/
def guardedDoor : List DeskAction :=
  .registerLocal [deskMonitor] :: connect 1001 "m" [sideMonitor] ++
    [.accept (loopback 1002), .receive (loopback 1002) (.hello { machineId := "x" })]

theorem trust_gate_guardedDoor : ∃ host : DeskHost,
    Run step unguarded (start (loopback 24800)
      { machineId := "desk", trustedClients := [⟨"m", ""⟩] } "" {}) guardedDoor host ∧
    FirstHelloTrusted { machineId := "desk", trustedClients := [⟨"m", ""⟩] } host
      (loopback 1001) := by
  obtain ⟨host, hrun, hsender⟩ := exists_run_of_execute step (fun _ _ _ => true)
    (start (loopback 24800) { machineId := "desk", trustedClients := [⟨"m", ""⟩] } "" {})
    guardedDoor (fun host : DeskHost => (host.server.mInput.mSenders.find? (loopback 1001)).isSome)
    (fun _ _ _ _ => trivial) (by decide +kernel)
  exact ⟨host, hrun, (trust_gate hrun).1 (loopback 1001) (by decide) (.inr (.inr hsender))⟩

end Host
end Mksync
