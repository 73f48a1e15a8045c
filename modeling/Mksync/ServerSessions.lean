import Mksync.ScreenAgreement

/-!
# Connections and what they own

A connection owns screens, a sender and an owner record only after its handshake, and its
handshake is over only after a trusted Hello.
-/
namespace Mksync

open TransitionRuns

namespace Host

variable {E C : Type} [Endpoint E] {host host' : Host E C}

/-- The owner id of a connection whose handshake is over. -/
def admittedOwner (host : Host E C) (endpoint : E) : Option String :=
  match host.sessions.find? endpoint with
  | none => none
  | some session => if session.phase = .handshake then none else some session.mOwnerId

/-- The owner id of the server's own screens, as long as its endpoint has no owner record. -/
def ownOwnerId (server : Server E C) : String :=
  if server.mScreens.mConfig.machineId = "" then
    ServerScreenStore.ownerIdFromEndpoint server.mEndpoint
  else server.mScreens.mConfig.machineId

theorem localOwnerId_eq {server : Server E C}
    (h : server.mScreens.mEndpointOwners.find? server.mEndpoint = none) :
    server.localOwnerId = ownOwnerId server := by
  by_cases hid : server.mScreens.mConfig.machineId = "" <;>
    simp [Server.localOwnerId, ServerScreenStore.defaultOwnerId, ownOwnerId, hid, h]

section Admitted

variable (host) (endpoint other : E) (session : ServerSession)

theorem admittedOwner_withSession : (host.withSession endpoint session).admittedOwner other =
    if other = endpoint then
      if session.phase = .handshake then none else some session.mOwnerId
    else host.admittedOwner other := by
  by_cases h : other = endpoint <;> simp [admittedOwner, withSession, h]

variable {host endpoint session}

theorem admittedOwner_of_live (live : host.sessions.find? endpoint = some session) :
    host.admittedOwner endpoint =
      if session.phase = .handshake then none else some session.mOwnerId := by
  simp [admittedOwner, live]

/-- A session that keeps its owner and is past the handshake stays admitted as it was. -/
theorem admittedOwner_withSession_same {session' : ServerSession}
    (live : host.sessions.find? endpoint = some session) (phase : session.phase ≠ .handshake)
    (phase' : session'.phase ≠ .handshake) (howner : session'.mOwnerId = session.mOwnerId) :
    (host.withSession endpoint session').admittedOwner other = host.admittedOwner other := by
  rw [admittedOwner_withSession]
  split_ifs with heq
  · rw [heq, admittedOwner_of_live live, if_neg phase, howner]
  · rfl

theorem admittedOwner_closeSession [InputCapture C] (host : Host E C) (endpoint other : E) :
    (host.closeSession endpoint).admittedOwner other =
      if other = endpoint then none else host.admittedOwner other := by
  by_cases h : other = endpoint <;> simp [admittedOwner, closeSession, h]

end Admitted

/-! ### Sessions -/

/-- A session in its handshake has received nothing; after it the first message received was a
Hello the list of trusted clients admits, and it has named the owner. -/
def ValidSession (config : AppConfig) (endpoint : E) (session : ServerSession) : Prop :=
  (session.phase = .handshake → session.received = [] ∧ session.writing = false) ∧
  (session.phase ≠ .handshake → ∃ hello rest, session.received = .hello hello :: rest ∧
    isTrustedClient config hello.machineId hello.name = true ∧
    session.mOwnerId = helloOwnerId endpoint hello)

/-- Sessions are valid, and the server is not connected to itself. -/
structure SessionsValid (host : Host E C) : Prop where
  remote : host.sessions.find? host.server.mEndpoint = none
  valid : ∀ endpoint session, host.sessions.find? endpoint = some session →
    ValidSession host.server.mScreens.mConfig endpoint session

theorem ValidSession.congr {config config' : AppConfig} {endpoint : E} {session : ServerSession}
    (htrust : config'.trustedClients = config.trustedClients)
    (h : ValidSession config endpoint session) : ValidSession config' endpoint session := by
  simpa only [ValidSession, isTrustedClient_congr htrust] using h

/-- More messages are appended behind the Hello. -/
theorem ValidSession.received {config : AppConfig} {endpoint : E} {session session' : ServerSession}
    (h : ValidSession config endpoint session) (phase : session.phase ≠ .handshake)
    (phase' : session'.phase ≠ .handshake) (howner : session'.mOwnerId = session.mOwnerId)
    (messages : List RpcMessage) (hreceived : session'.received = session.received ++ messages) :
    ValidSession config endpoint session' := by
  obtain ⟨hello, rest, hfirst, htrusted, hid⟩ := h.2 phase
  refine ⟨fun hcon => absurd hcon phase', fun _ => ⟨hello, rest ++ messages, ?_, htrusted, ?_⟩⟩
  · rw [hreceived, hfirst, List.cons_append]
  · rw [howner, hid]

theorem SessionsValid.of_sessions (h : SessionsValid host)
    (hendpoint : host'.server.mEndpoint = host.server.mEndpoint)
    (htrust : host'.server.mScreens.mConfig.trustedClients =
      host.server.mScreens.mConfig.trustedClients)
    (hsessions : ∀ endpoint session, host'.sessions.find? endpoint = some session →
      host.sessions.find? endpoint = some session ∨
        (endpoint ≠ host.server.mEndpoint ∧
          ValidSession host.server.mScreens.mConfig endpoint session)) : SessionsValid host' := by
  refine ⟨?_, fun endpoint session hfind => ?_⟩
  · rw [Option.eq_none_iff_forall_ne_some, hendpoint]
    intro session hfind
    rcases hsessions _ _ hfind with hold | ⟨hne, _⟩
    · simp [h.remote] at hold
    · exact hne rfl
  · rcases hsessions _ _ hfind with hold | ⟨_, hvalid⟩
    · exact (h.valid endpoint session hold).congr htrust
    · exact hvalid.congr htrust

theorem SessionsValid.ne_endpoint (h : SessionsValid host) {endpoint : E} {session : ServerSession}
    (live : host.sessions.find? endpoint = some session) : endpoint ≠ host.server.mEndpoint := by
  rintro rfl
  simp [h.remote] at live

theorem find?_withSession {endpoint other : E} {session found : ServerSession}
    (h : (host.withSession endpoint session).sessions.find? other = some found) :
    host.sessions.find? other = some found ∨ (other = endpoint ∧ found = session) := by
  rw [withSession, OrderedMap.find?_insertOrAssign] at h
  split_ifs at h with heq
  · cases h
    exact .inr ⟨heq, rfl⟩
  · exact .inl h

theorem find?_closeSession [InputCapture C] {endpoint other : E} {found : ServerSession}
    (h : (host.closeSession endpoint).sessions.find? other = some found) :
    host.sessions.find? other = some found := by
  rw [closeSession, OrderedMap.find?_erase] at h
  split_ifs at h
  exact h

theorem SessionsValid.step [InputCapture C] [EntryScaling] {a : Action E C} (h : SessionsValid host)
    (hs : Stepped host a host') : SessionsValid host' := by
  refine h.of_sessions hs.mEndpoint hs.storeStep.config.1 fun e found hfind => ?_
  cases hs with
  | registerLocal | captured | signal | delivered => exact .inl hfind
  | accepted remote fresh =>
    refine (find?_withSession hfind).imp_right ?_
    rintro ⟨rfl, rfl⟩
    exact ⟨remote, fun _ => ⟨rfl, rfl⟩, fun hcon => absurd rfl hcon⟩
  | greeted live phase trusted =>
    refine (find?_withSession hfind).imp_right ?_
    rintro ⟨rfl, rfl⟩
    refine ⟨h.ne_endpoint live, nofun, fun _ => ⟨_, [], ?_, trusted, rfl⟩⟩
    simp [((h.valid _ _ live).1 phase).1]
  | rejected | dropped | closed => exact .inl (find?_closeSession hfind)
  | @reported _ _ report live phase =>
    refine (find?_withSession hfind).imp_right ?_
    rintro ⟨rfl, rfl⟩
    exact ⟨h.ne_endpoint live, (h.valid _ _ live).received (by simp [phase]) (by simp [phase]) rfl
      [.screens report] rfl⟩
  | @ignored _ _ message live phase =>
    refine (find?_withSession hfind).imp_right ?_
    rintro ⟨rfl, rfl⟩
    exact ⟨h.ne_endpoint live, (h.valid _ _ live).received (by simp [phase]) (by simp [phase]) rfl
      [message] rfl⟩
  | published live phase | broke live phase | hungUp live phase =>
    refine (find?_withSession hfind).imp_right ?_
    rintro ⟨rfl, rfl⟩
    exact ⟨h.ne_endpoint live, (h.valid _ _ live).received (by simp [phase]) (by simp [phase]) rfl
      [] (by simp)⟩

/-! ### Ownership -/

/-- A stored screen is one of the server's own, or one of an admitted connection's. -/
def OwnedNode (host : Host E C) (node : ScreenNode E) : Prop :=
  (node.key = host.server.mEndpoint ∧ node.value.isLocal = true ∧
    node.value.key.ownerId = ownOwnerId host.server) ∨
  (node.key ≠ host.server.mEndpoint ∧ node.value.isLocal = false ∧
    host.admittedOwner node.key = some node.value.key.ownerId)

/-- Screens, senders and owner records of other endpoints belong to admitted connections. -/
structure Owned (host : Host E C) : Prop where
  nodes : ∀ node ∈ host.server.mScreens.mScreens.nodes, host.OwnedNode node
  senders : ∀ endpoint, (host.server.mInput.mSenders.find? endpoint).isSome →
    (host.admittedOwner endpoint).isSome
  owners : ∀ endpoint ownerId, host.server.mScreens.mEndpointOwners.find? endpoint = some ownerId →
    host.admittedOwner endpoint = some ownerId

theorem OwnedNode.congr {node : ScreenNode E} (h : host.OwnedNode node)
    (hendpoint : host'.server.mEndpoint = host.server.mEndpoint)
    (hmachine : host'.server.mScreens.mConfig.machineId = host.server.mScreens.mConfig.machineId)
    (hadmitted : host.admittedOwner node.key = some node.value.key.ownerId →
      host'.admittedOwner node.key = some node.value.key.ownerId) : host'.OwnedNode node := by
  have hown : ownOwnerId host'.server = ownOwnerId host.server := by
    rw [ownOwnerId, ownOwnerId, hendpoint, hmachine]
  unfold OwnedNode
  rw [hendpoint, hown]
  exact h.imp_right fun ⟨hne, hremote, howner⟩ => ⟨hne, hremote, hadmitted howner⟩

variable [InputCapture C]

/-- The parts of a step that admits or ends no connection. -/
theorem Owned.of_admitted [EntryScaling] {a : Action E C} (h : Owned host)
    (hs : Stepped host a host')
    (hadmitted : ∀ endpoint, host'.admittedOwner endpoint = host.admittedOwner endpoint)
    (hnodes : ∀ node ∈ host'.server.mScreens.mScreens.nodes,
      node ∈ host.server.mScreens.mScreens.nodes ∨ host.OwnedNode node)
    (hsenders : ∀ endpoint, (host'.server.mInput.mSenders.find? endpoint).isSome →
      (host.server.mInput.mSenders.find? endpoint).isSome ∨ (host.admittedOwner endpoint).isSome)
    (howners : host'.server.mScreens.mEndpointOwners = host.server.mScreens.mEndpointOwners) :
    Owned host' := by
  refine ⟨fun node hnode => ?_, fun e hsome => ?_, fun e ownerId hfind => ?_⟩
  · have hold : host.OwnedNode node := (hnodes node hnode).elim (h.nodes node) id
    exact hold.congr hs.mEndpoint hs.storeStep.config.2 fun howner => (hadmitted _).trans howner
  · rw [hadmitted]
    exact (hsenders e hsome).elim (h.senders e) id
  · rw [hadmitted]
    exact h.owners e ownerId (howners ▸ hfind)

/-- A connection that ends takes its screens, its sender and its owner record along. -/
theorem Owned.closeSession (h : Owned host) (endpoint : E) :
    Owned (host.closeSession endpoint) := by
  have hserver : (host.closeSession endpoint).server = host.server.onClosed endpoint := rfl
  refine ⟨fun node hnode => ?_, fun e hsome => ?_, fun e ownerId hfind => ?_⟩
  · rw [hserver, Server.onClosed_mScreens] at hnode
    obtain ⟨hnode, hne⟩ := OrderedMultimap.mem_nodes_eraseKey.mp hnode
    refine (h.nodes node hnode).congr ?_ ?_ fun howner => ?_
    · rw [hserver, Server.onClosed_mEndpoint]
    · rw [hserver, Server.onClosed_mScreens]
      rfl
    · rw [admittedOwner_closeSession, if_neg hne, howner]
  · rw [hserver, Server.onClosed_mSenders, OrderedMap.find?_erase] at hsome
    split_ifs at hsome with hne
    · simp at hsome
    · rw [admittedOwner_closeSession, if_neg hne]
      exact h.senders e hsome
  · rw [hserver, Server.onClosed_mScreens] at hfind
    simp only [ServerScreenStore.forgetOwner, ServerScreenStore.eraseEndpoint,
      OrderedMap.find?_erase] at hfind
    split_ifs at hfind with hne
    rw [admittedOwner_closeSession, if_neg hne]
    exact h.owners e ownerId hfind

theorem Owned.step [EntryScaling] {a : Action E C} (hvalid : SessionsValid host) (h : Owned host)
    (hs : Stepped host a host') : Owned host' := by
  have hown : host.admittedOwner host.server.mEndpoint = none := by
    simp [admittedOwner, hvalid.remote]
  cases hs' : hs with
  | registerLocal screens =>
    refine h.of_admitted hs (fun _ => rfl) (fun node hnode => ?_) (fun e hsome => .inl ?_) ?_
    · rcases ServerScreenStore.mem_nodes_registerScreens screens hnode with
        hold | ⟨hkey, _, howner, hlocal⟩
      · exact .inl (OrderedMultimap.mem_nodes_eraseKey.mp hold).1
      · refine .inr (.inl ⟨hkey, hlocal, howner.trans (localOwnerId_eq ?_)⟩)
        rw [Option.eq_none_iff_forall_ne_some]
        exact fun ownerId hfind => by simp [h.owners _ ownerId hfind] at hown
    · obtain ⟨out, hsent, _⟩ := Server.registerScreens_sent host.server _ _ _ _
      exact (hsent.isSome_find? e).symm.trans hsome
    · exact ServerScreenStore.registerScreens_mEndpointOwners _
  | captured event =>
    refine h.of_admitted hs (fun _ => rfl) (fun _ hnode => .inl hnode) (fun e hsome => .inl ?_) rfl
    obtain ⟨out, hsent⟩ := (ServerInputRouter.handleInputEvent_handled host.server.mScreens
      host.server.mInput event).sent
    exact (hsent.isSome_find? e).symm.trans hsome
  | signal => exact h.of_admitted hs (fun _ => rfl) (fun _ => .inl) (fun _ => .inl) rfl
  | @accepted endpoint remote fresh =>
    refine h.of_admitted hs (fun e => ?_) (fun _ => .inl) (fun _ => .inl) rfl
    rw [admittedOwner_withSession]
    by_cases heq : e = endpoint
    · simp [heq, admittedOwner, fresh]
    · rw [if_neg heq]
  | @greeted endpoint session hello live phase trusted =>
    have hnone : host.admittedOwner endpoint = none := by simp [admittedOwner_of_live live, phase]
    refine ⟨fun node hnode => (h.nodes node hnode).congr rfl rfl fun howner => ?_,
      fun e hsome => ?_, fun e ownerId hfind => ?_⟩
    · rw [admittedOwner_withSession]
      split_ifs with heq hcon
      · simp [← heq, howner] at hnone
      · simp [← heq, howner] at hnone
      · exact howner
    · rw [admittedOwner_withSession]
      split_ifs with heq hcon
      · cases hcon
      · rfl
      · exact h.senders e hsome
    · rw [admittedOwner_withSession]
      have hfind' : (host.server.mScreens.mEndpointOwners.insertOrAssign endpoint
        (helloOwnerId endpoint hello)).find? e = some ownerId := hfind
      rw [OrderedMap.find?_insertOrAssign] at hfind'
      split_ifs at hfind' ⊢ with heq hcon
      · cases hcon
      · exact hfind'
      · exact h.owners e ownerId hfind'
  | rejected | dropped | closed => exact h.closeSession _
  | @reported endpoint session report live phase =>
    refine h.of_admitted hs
      (fun e => admittedOwner_withSession_same e live (by simp [phase]) (by simp [phase]) rfl)
      (fun node hnode => ?_) (fun e hsome => .inl ?_) ?_
    · rcases ServerScreenStore.mem_nodes_registerScreens report.screens hnode with
        hold | ⟨hkey, _, howner, hlocal⟩
      · exact .inl (OrderedMultimap.mem_nodes_eraseKey.mp hold).1
      · refine .inr (.inr ⟨hkey ▸ hvalid.ne_endpoint live, hlocal, ?_⟩)
        rw [hkey, howner, admittedOwner_of_live live, if_neg (by simp [phase])]
    · obtain ⟨out, hsent, _⟩ := Server.registerScreens_sent host.server _ _ _ _
      exact (hsent.isSome_find? e).symm.trans hsome
    · exact ServerScreenStore.registerScreens_mEndpointOwners _
  | ignored live phase =>
    exact h.of_admitted hs
      (fun e => admittedOwner_withSession_same e live (by simp [phase]) (by simp [phase]) rfl)
      (fun _ => .inl) (fun _ => .inl) rfl
  | broke live phase =>
    exact h.of_admitted hs
      (fun e => admittedOwner_withSession_same e live (by simp [phase]) (by simp) rfl)
      (fun _ => .inl) (fun _ => .inl) rfl
  | @published endpoint session live phase | @hungUp endpoint session _ live phase =>
    refine h.of_admitted hs
      (fun e => admittedOwner_withSession_same e live (by simp [phase]) (by simp [phase]) rfl)
      (fun _ => .inl) (fun e hsome => ?_) rfl
    by_cases heq : e = endpoint
    · exact .inr (by simp [heq, admittedOwner_of_live live, phase])
    · exact .inl (by simpa [withServer, Server.setSenders, heq] using hsome)
  | @delivered endpoint session _ _ live phase =>
    refine h.of_admitted hs (fun _ => rfl) (fun _ => .inl) (fun e hsome => ?_) rfl
    by_cases heq : e = endpoint
    · exact .inr (by simp [heq, admittedOwner_of_live live, phase])
    · exact .inl (by simpa [withServer, Server.setSenders, heq] using hsome)

/-- Every run keeps both invariants. -/
theorem run_owned [EntryScaling] {guard : Host E C → Action E C → Host E C → Prop}
    {endpoint : E} {config : AppConfig} {configPath : String} {capture : C}
    {as : List (Action E C)}
    (h : Run step guard (start endpoint config configPath capture) as host) :
    SessionsValid host ∧ Owned host := by
  refine h.invariant (fun host => SessionsValid host ∧ Owned host)
    (fun s a t hs _ hnext =>
      ⟨hs.1.step (step_stepped hnext), hs.2.step hs.1 (step_stepped hnext)⟩) ?_
  refine ⟨⟨rfl, fun _ _ hfind => by cases hfind⟩, ⟨fun node hnode => ?_, fun e hsome => ?_, ?_⟩⟩
  · exact absurd hnode List.not_mem_nil
  · simp [start, Server.start, ServerInputRouter.setCapture, ServerInputRouter.init] at hsome
  · exact fun _ _ hfind => by cases hfind

end Host
end Mksync
