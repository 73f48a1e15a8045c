import Mksync.ClientConnections
import Mksync.RemoteCursor

/-!
# The screens a client reported

A session hears what its client sent, in order, and the screens stored for an endpoint are
those of its client's report. What is enqueued for a client is a pixel of a screen that the
client itself reported, after its injector was initialized.
-/
namespace Mksync

open TransitionRuns ByteFrames RpcTransport ServerInputRouter

/-! ### What a step does to one session -/

namespace Host

variable {E C : Type} [Endpoint E] [InputCapture C]

/-- Nothing more was received. -/
def SameReceived (session session' : ServerSession) : Prop := session'.received = session.received

theorem sameReceived_refl (session : ServerSession) : SameReceived session session := rfl

/-- What a session has received, before and after a step. -/
inductive Hears (endpoint : E) : Action E C → Option ServerSession → Option ServerSession → Prop
  | gone {a : Action E C} {session : Option ServerSession} : Hears endpoint a session none
  | accepted : Hears endpoint (.accept endpoint) none (some {})
  | heard {session session' : ServerSession} {message : RpcMessage}
      (received : session'.received = session.received ++ [message]) :
      Hears endpoint (.receive endpoint message) (some session) (some session')
  | kept {a : Action E C} {session session' : Option ServerSession}
      (received : Option.Rel SameReceived session session')
      (noMessage : ∀ message, a ≠ .receive endpoint message) (noAccept : a ≠ .accept endpoint) :
      Hears endpoint a session session'

omit [InputCapture C] in
theorem received_self (host : Host E C) (endpoint : E) :
    Option.Rel SameReceived (host.sessions.find? endpoint) (host.sessions.find? endpoint) :=
  OrderedMap.rel_find?_self sameReceived_refl _ _

/-- A session that receives a message, and all the others. -/
theorem hears_insertOrAssign {host : Host E C} {endpoint target : E}
    {session session' : ServerSession} {message : RpcMessage}
    (live : host.sessions.find? target = some session)
    (hreceived : session'.received = session.received ++ [message]) :
    Hears (C := C) endpoint (.receive target message) (host.sessions.find? endpoint)
      ((host.sessions.insertOrAssign target session').find? endpoint) := by
  rw [OrderedMap.find?_insertOrAssign]
  split_ifs with heq
  · rw [heq, live]
    exact .heard hreceived
  · refine .kept (host.received_self endpoint) (fun other hcon => heq ?_) nofun
    cases hcon
    rfl

theorem Stepped.hears [EntryScaling] {host host' : Host E C} {a : Action E C}
    (h : Stepped host a host') (endpoint : E) :
    Hears endpoint a (host.sessions.find? endpoint) (host'.sessions.find? endpoint) := by
  cases h with
  | registerLocal | captured | signal | delivered =>
    exact .kept (host.received_self endpoint) nofun nofun
  | @accepted target remote fresh =>
    change Hears _ _ _ ((host.sessions.insertOrAssign target {}).find? endpoint)
    rw [OrderedMap.find?_insertOrAssign]
    split_ifs with heq
    · rw [heq, fresh]
      exact .accepted
    · refine .kept (host.received_self endpoint) nofun fun hcon => heq ?_
      cases hcon
      rfl
  | greeted live | reported live | ignored live => exact hears_insertOrAssign live rfl
  | @rejected target _ message =>
    change Hears _ _ _ ((host.sessions.erase target).find? endpoint)
    rw [OrderedMap.find?_erase]
    split_ifs with heq
    · exact .gone
    · refine .kept (host.received_self endpoint) (fun other hcon => heq ?_) nofun
      cases hcon
      rfl
  | @dropped target | @closed target =>
    change Hears _ _ _ ((host.sessions.erase target).find? endpoint)
    rw [OrderedMap.find?_erase]
    split_ifs with heq
    · exact .gone
    · exact .kept (host.received_self endpoint) nofun nofun
  | published live | broke live | hungUp live =>
    refine .kept (OrderedMap.rel_find?_insertOrAssign sameReceived_refl live ?_ endpoint)
      nofun nofun
    rfl

end Host

namespace ServerScreenStore

variable {E : Type} [Endpoint E] {store : ServerScreenStore E} {endpoint : E} {ownerId : String}
  {isLocal : Bool} {node : ScreenNode E}

/-- A registered screen has its place in the list as its index. -/
theorem mem_nodes_registerFrom {primaryIndex index : Nat} {primaryRegistered : Bool}
    {screens : List ScreenInfo}
    (h : node ∈ (registerFrom endpoint ownerId primaryIndex isLocal index
      primaryRegistered screens store).mScreens.nodes) :
    node ∈ store.mScreens.nodes ∨ (node.key = endpoint ∧ ∃ i,
      node.value.key.screenIndex = index + i ∧ screens[i]? = some node.value.info) := by
  induction screens generalizing index primaryRegistered store with
  | nil => exact .inl h
  | cons info rest ih =>
    simp only [registerFrom] at h
    rcases ih h with hstore | ⟨hkey, i, hindex, hinfo⟩
    · rcases addScreen_cases store endpoint ⟨ownerId, index⟩ _ info isLocal with
        heq | ⟨_, _, _, heq, _⟩
      · exact .inl (heq ▸ hstore)
      · rw [heq, OrderedMultimap.mem_nodes_emplace] at hstore
        rcases hstore with rfl | hstore
        · exact .inr ⟨rfl, 0, rfl, rfl⟩
        · exact .inl hstore
    · exact .inr ⟨hkey, i + 1, by omega, by simpa using hinfo⟩

theorem screens_of_mem_nodes_registerScreens {screens : List ScreenInfo}
    (h : node ∈ (store.registerScreens endpoint ownerId screens isLocal).mScreens.nodes) :
    node ∈ store.mScreens.nodes ∨ (node.key = endpoint ∧
      screens[node.value.key.screenIndex]? = some node.value.info) := by
  rcases mem_nodes_registerFrom h with hstore | ⟨hkey, i, hindex, hinfo⟩
  · exact .inl hstore
  · rw [Nat.zero_add] at hindex
    exact .inr ⟨hkey, by rwa [hindex]⟩

end ServerScreenStore

namespace Host

variable {E C : Type} [Endpoint E] [InputCapture C] [EntryScaling]

/-- A screen that is stored after a step was stored before it, is the server's own, or is one
of a report that the step received. -/
theorem Stepped.mem_nodes {host host' : Host E C} {a : Action E C} (h : Stepped host a host')
    {node : ScreenNode E} (hnode : node ∈ host'.server.mScreens.mScreens.nodes) :
    node ∈ host.server.mScreens.mScreens.nodes ∨ node.value.isLocal = true ∨
      ∃ report : ScreensMessage, a = .receive node.key (.screens report) ∧
        report.screens[node.value.key.screenIndex]? = some node.value.info := by
  rcases h.dropped_cases with ⟨-, hkept | ⟨_, _, hkept⟩⟩ |
    ⟨endpoint, ownerId, screens, isLocal, -, hserver, -, hremote⟩ | ⟨endpoint, -, hserver⟩
  · exact .inl (hkept ▸ hnode)
  · rw [hkept] at hnode
    exact .inl hnode
  · rw [hserver, Server.registerScreens_mScreens] at hnode
    cases isLocal with
    | true =>
      rcases ServerScreenStore.mem_nodes_registerScreens screens hnode with hold | ⟨_, _, _, hlocal⟩
      · exact .inl (OrderedMultimap.mem_nodes_eraseKey.mp hold).1
      · exact .inr (.inl hlocal)
    | false =>
      rcases ServerScreenStore.screens_of_mem_nodes_registerScreens hnode with hold | ⟨hkey, hinfo⟩
      · exact .inl (OrderedMultimap.mem_nodes_eraseKey.mp hold).1
      · obtain ⟨session, ha, -⟩ := hremote rfl
        exact .inr (.inr ⟨⟨screens⟩, by rw [hkey]; exact ha, hinfo⟩)
  · rw [hserver, Server.onClosed_mScreens] at hnode
    exact .inl (OrderedMultimap.mem_nodes_eraseKey.mp hnode).1

end Host

namespace Network

variable {E C I : Type} [Endpoint E] [InputCapture C] [InputInjector I] [EntryScaling]
  {codec : RpcCodec} {network network' : Network E C I}

/-- What an action of the network is to its host. -/
def hostAction : Action E C I → Option (Mksync.Action E C)
  | .host a => some a
  | .connect endpoint _ => some (.accept endpoint)
  | .deliver endpoint => some (.deliver endpoint)
  | _ => none

theorem step_hostStepped {b : Action E C I} (h : network.step codec b = some network')
    {a : Mksync.Action E C} (ha : hostAction b = some a) :
    Host.Stepped network.host a network'.host ∧ ∀ endpoint, network'.accepted endpoint =
      observed (network'.host.server.mInput.mSenders.find? endpoint)
        (network.accepted endpoint) := by
  cases b with
  | host b =>
    cases ha
    obtain ⟨-, -, hstep⟩ := step_host h
    obtain ⟨host, hstepped, rfl⟩ := hostStep_eq_some hstep
    exact ⟨hstepped, fun _ => rfl⟩
  | connect endpoint injector =>
    cases ha
    unfold Network.step at h
    dsimp only at h
    split_ifs at h
    obtain ⟨between, hhost, rfl⟩ := Option.map_eq_some_iff.mp h
    obtain ⟨host, hstepped, rfl⟩ := hostStep_eq_some hhost
    exact ⟨hstepped, fun _ => rfl⟩
  | deliver endpoint =>
    cases ha
    unfold Network.step at h
    dsimp only at h
    split at h
    next link message _ _ =>
      split_ifs at h
      obtain ⟨between, hhost, rfl⟩ := Option.map_eq_some_iff.mp h
      obtain ⟨host, hstepped, rfl⟩ := hostStep_eq_some hhost
      exact ⟨hstepped, fun _ => rfl⟩
    next => cases h
  | transmit | arrive | read | inject | stop => cases ha

theorem step_hostKept {b : Action E C I} (h : network.step codec b = some network')
    (hb : hostAction b = none) :
    network'.host = network.host ∧ network'.accepted = network.accepted := by
  have hlink : ∀ endpoint f, network.linkStep endpoint f = some network' →
      network'.host = network.host ∧ network'.accepted = network.accepted := by
    intro endpoint f hstep
    unfold Network.linkStep at hstep
    split at hstep
    next => cases hstep
    next link _ =>
      obtain ⟨link', _, rfl⟩ := Option.map_eq_some_iff.mp hstep
      exact ⟨rfl, rfl⟩
  cases b with
  | host | connect | deliver => cases hb
  | transmit endpoint count =>
    unfold Network.step at h
    dsimp only at h
    split_ifs at h
    exact hlink _ _ h
  | arrive | read | inject | stop => exact hlink _ _ h

end Network

/-! ### What a session and its client know of each other -/

/-- The session has received what its client sent first, and the rest is on the way. -/
structure Dialogue (codec : RpcCodec) (session : Option ServerSession)
    (client : Option ClientProcess) : Prop where
  known : session ≠ none → client ≠ none
  staged : ∀ c, client = some c → c.Staged
  carried : ∀ c, client = some c → ∃ read, c.Carried codec read ∧
    ∀ s, session = some s → s.received = read

namespace Dialogue

variable {codec : RpcCodec} {session session' : Option ServerSession}
  {client : Option ClientProcess}

theorem none (codec : RpcCodec) : Dialogue codec none none := ⟨by simp, by simp, by simp⟩

/-- A client that has just connected. -/
theorem connected (codec : RpcCodec) (hello : HelloMessage) :
    Dialogue codec (some {}) (some { hello }) := by
  refine ⟨fun _ => nofun, ?_, ?_⟩
  · rintro _ ⟨⟩
    exact ⟨fun _ => rfl, nofun, nofun, nofun, fun hnone => absurd rfl hnone⟩
  · rintro _ ⟨⟩
    refine ⟨[], ⟨[], rfl, rfl, nofun⟩, ?_⟩
    rintro _ ⟨⟩
    rfl

theorem advanced {c c' : ClientProcess} (h : Dialogue codec session (some c))
    (hadvances : c.Advances codec c') : Dialogue codec session (some c') := by
  refine ⟨fun _ => nofun, ?_, ?_⟩
  · rintro _ ⟨⟩
    exact hadvances.staged (h.staged c rfl)
  · rintro _ ⟨⟩
    obtain ⟨read, hcarried, hreceived⟩ := h.carried c rfl
    exact ⟨read, hadvances.carried read (h.staged c rfl) hcarried, hreceived⟩

section Sessions

variable {E C : Type} [Endpoint E] [InputCapture C] {endpoint : E} {a : Action E C}

omit [Endpoint E] in
/-- Steps by which the session receives nothing. -/
theorem hears (h : Dialogue codec session client) (hhears : Host.Hears endpoint a session session')
    (hmessage : ∀ message, a ≠ .receive endpoint message) (haccept : a ≠ .accept endpoint) :
    Dialogue codec session' client := by
  cases hhears with
  | gone =>
    refine ⟨fun hsome => absurd rfl hsome, h.staged, fun c hc => ?_⟩
    obtain ⟨read, hcarried, -⟩ := h.carried c hc
    exact ⟨read, hcarried, nofun⟩
  | accepted => exact absurd rfl haccept
  | heard => exact absurd rfl (hmessage _)
  | kept received =>
    cases received with
    | none => exact h
    | some hsame =>
      refine ⟨fun _ => h.known nofun, h.staged, fun c hc => ?_⟩
      obtain ⟨read, hcarried, hreceived⟩ := h.carried c hc
      refine ⟨read, hcarried, ?_⟩
      rintro _ ⟨⟩
      exact hsame.trans (hreceived _ rfl)

omit [Endpoint E] in
/-- The session reads a message that its client sent. -/
theorem received {c : ClientProcess} {message : RpcMessage} {rest : Chunks}
    (hinverse : codec.Inverse) (h : Dialogue codec session (some c)) (hlive : session ≠ .none)
    (hread : readMessage codec [c.inbox] = (.ok message, rest))
    (hhears : Host.Hears endpoint (.receive endpoint message : Action E C) session session') :
    Dialogue codec session' (some { c with inbox := rest.flatten }) := by
  obtain ⟨read, hcarried, hreceived⟩ := h.carried c rfl
  have hstaged := h.staged c rfl
  refine ⟨fun _ => nofun, ?_, ?_⟩
  · rintro _ ⟨⟩
    exact ⟨hstaged.connected, hstaged.greeted, hstaged.serving, hstaged.initialized,
      hstaged.reported⟩
  · rintro _ ⟨⟩
    refine ⟨read ++ [message], hcarried.read hinverse hread, ?_⟩
    cases hhears with
    | gone => exact nofun
    | heard hheard =>
      rintro _ ⟨⟩
      rw [hheard, hreceived _ rfl]
    | kept _ noMessage => exact absurd rfl (noMessage message)

end Sessions

end Dialogue

namespace ClientProcess

/-- A report that was sent is the client's report. -/
theorem report_of_mem_sent {client : ClientProcess} {report : ScreensMessage}
    (h : .screens report ∈ client.sent) : client.report = some report.screens := by
  unfold sent at h
  cases hreport : client.report with
  | none => simp [hreport] at h
  | some screens =>
    simp only [hreport, Option.map_some, Option.toList_some, List.mem_append,
      List.mem_singleton, RpcMessage.screens.injEq] at h
    rcases h with h | rfl
    · split_ifs at h <;> simp at h
    · rfl

end ClientProcess

namespace ClientNetwork

section Runs

variable {E C I : Type} [Endpoint E] [InputCapture C] [InputInjector I] [EntryScaling]
  {codec : RpcCodec} {state state' : ClientNetwork E C I}

/-- The screens that the client at the endpoint has reported, once its injector was
initialized. -/
def Reported (state : ClientNetwork E C I) (endpoint : E) (screens : List ScreenInfo) : Prop :=
  ∃ client, state.clients.find? endpoint = some client ∧ client.initialized = true ∧
    client.report = some screens

/-- Every session talks with its client, and the store has the screens of the reports. -/
structure Conversing (codec : RpcCodec) (state : ClientNetwork E C I) : Prop where
  dialogue : ∀ endpoint, Dialogue codec (state.network.host.sessions.find? endpoint)
    (state.clients.find? endpoint)
  stored : ∀ node ∈ state.network.host.server.mScreens.mScreens.nodes, node.value.isLocal = false →
    ∃ screens, state.Reported node.key screens ∧
      screens[node.value.key.screenIndex]? = some node.value.info

omit [InputCapture C] [InputInjector I] [EntryScaling] in
/-- One of the clients goes on, and keeps its report. -/
theorem Reported.insertOrAssign {endpoint target : E} {screens : List ScreenInfo}
    {client client' : ClientProcess} (h : state.Reported endpoint screens)
    (hlive : state.clients.find? target = some client)
    (hinitialized : client.initialized = true → client'.initialized = true)
    (hreport : ∀ screens, client.report = some screens → client'.report = some screens)
    (hclients : state'.clients = state.clients.insertOrAssign target client') :
    state'.Reported endpoint screens := by
  obtain ⟨found, hfound, hinit, hscreens⟩ := h
  unfold Reported
  rw [hclients, OrderedMap.find?_insertOrAssign]
  split_ifs with heq
  · rw [heq, hlive] at hfound
    cases hfound
    exact ⟨client', rfl, hinitialized hinit, hreport screens hscreens⟩
  · exact ⟨found, hfound, hinit, hscreens⟩

/-- A report stays. -/
theorem Stepped.reported (hs : Stepped codec state state') {endpoint : E}
    {screens : List ScreenInfo} (h : state.Reported endpoint screens) :
    state'.Reported endpoint screens := by
  cases hs with
  | network => exact h
  | @connected target _ _ hello fresh =>
    obtain ⟨found, hfound, hinit, hscreens⟩ := h
    refine ⟨found, ?_, hinit, hscreens⟩
    dsimp only
    rw [OrderedMap.find?_insertOrAssign, if_neg, hfound]
    rintro rfl
    cases hfound.symm.trans fresh
  | advanced live advances | quit _ live advances =>
    exact h.insertOrAssign live advances.initialized advances.report rfl
  | received live =>
    refine h.insertOrAssign live ?_ ?_ rfl
    · exact id
    · exact fun _ => id

omit [InputInjector I] [EntryScaling] in
theorem conversing_start (codec : RpcCodec) (endpoint : E) (config : AppConfig)
    (configPath : String) (capture : C) :
    Conversing codec (start endpoint config configPath capture : ClientNetwork E C I) :=
  ⟨fun _ => .none codec, fun _ hnode => absurd hnode List.not_mem_nil⟩

omit [InputCapture C] [InputInjector I] [EntryScaling] in
/-- A report that the session at the endpoint just received is the client's. -/
theorem reported_of_received {endpoint : E} {client : ClientProcess} {report : ScreensMessage}
    {rest : Chunks} (hinverse : codec.Inverse) (h : Conversing codec state)
    (live : state.clients.find? endpoint = some client)
    (read : readMessage codec [client.inbox] = (.ok (.screens report), rest)) :
    state.Reported endpoint report.screens := by
  obtain ⟨before, hcarried, -⟩ := (h.dialogue endpoint).carried client live
  obtain ⟨flying, hsent, -⟩ := hcarried.read hinverse read
  have hmem : .screens report ∈ client.sent := by
    change client.sent = _ at hsent
    rw [hsent]
    simp
  have hreport := ClientProcess.report_of_mem_sent hmem
  have hstaged := (h.dialogue endpoint).staged client live
  exact ⟨client, live, hstaged.reported (by simp [hreport]), hreport⟩

/-- What a permitted action is to the host. -/
theorem not_received {b : Network.Action E C I} {network : Network E C I}
    {a : Mksync.Action E C} (permitted : state.permits b)
    (next : state.network.step codec b = some network) (ha : Network.hostAction b = some a) :
    (∀ endpoint message, a ≠ .receive endpoint message) ∧ ∀ endpoint, a ≠ .accept endpoint := by
  cases b with
  | host b =>
    cases ha
    refine ⟨fun endpoint message hcon => ?_, (Network.step_host next).1⟩
    rw [hcon] at permitted
    cases permitted
  | connect => cases permitted
  | deliver =>
    cases ha
    exact ⟨nofun, nofun⟩
  | transmit | arrive | read | inject | stop => cases ha

theorem Conversing.dialogue_step (hinverse : codec.Inverse) (h : Conversing codec state)
    (hs : Stepped codec state state') (endpoint : E) :
    Dialogue codec (state'.network.host.sessions.find? endpoint)
      (state'.clients.find? endpoint) := by
  have hdialogue := h.dialogue endpoint
  cases hs with
  | @network b network permitted next =>
    dsimp only
    cases ha : Network.hostAction b with
    | none =>
      rw [(Network.step_hostKept next ha).1]
      exact hdialogue
    | some a =>
      obtain ⟨hmessage, haccept⟩ := not_received permitted next ha
      exact hdialogue.hears ((Network.step_hostStepped next ha).1.hears endpoint)
        (hmessage endpoint) (haccept endpoint)
  | @connected target injector network hello fresh next =>
    have hstepped := (Network.step_hostStepped next rfl).1
    dsimp only
    rw [OrderedMap.find?_insertOrAssign]
    split_ifs with heq
    · have hsession : network.host.sessions.find? target = some {} := by
        generalize network.host = host at hstepped
        cases hstepped
        simp [Host.withSession]
      rw [heq, hsession]
      exact .connected codec hello
    · apply hdialogue.hears (hstepped.hears endpoint)
      · intro message hcon
        cases hcon
      · intro hcon
        cases hcon
        exact heq rfl
  | @advanced target client client' live advances =>
    dsimp only
    rw [OrderedMap.find?_insertOrAssign]
    split_ifs with heq
    · rw [heq, live] at hdialogue
      rw [heq]
      exact hdialogue.advanced advances
    · exact hdialogue
  | @received target client message rest network live read next =>
    have hstepped := (Network.step_hostStepped next rfl).1
    dsimp only
    rw [OrderedMap.find?_insertOrAssign]
    split_ifs with heq
    · rw [heq, live] at hdialogue
      rw [heq]
      have hlive : state.network.host.sessions.find? target ≠ none := by
        generalize network.host = host at hstepped
        cases hstepped with
        | greeted live | rejected live | reported live | ignored live =>
          rw [live]
          exact Option.some_ne_none _
      exact hdialogue.received hinverse hlive read (hstepped.hears target)
    · apply hdialogue.hears (hstepped.hears endpoint)
      · intro message hcon
        cases hcon
        exact heq rfl
      · intro hcon
        cases hcon
  | @quit target client client' network next live advances =>
    dsimp only
    rw [(Network.step_hostKept next rfl).1, OrderedMap.find?_insertOrAssign]
    split_ifs with heq
    · rw [heq, live] at hdialogue
      rw [heq]
      exact hdialogue.advanced advances
    · exact hdialogue

/-- The host's part in a step: none, or a step in which what is received was sent. -/
theorem Stepped.host_cases (hs : Stepped codec state state') :
    (state'.network.host = state.network.host ∧
      state'.network.accepted = state.network.accepted) ∨
    ∃ a, Host.Stepped state.network.host a state'.network.host ∧
      (∀ endpoint, state'.network.accepted endpoint =
        Network.observed (state'.network.host.server.mInput.mSenders.find? endpoint)
          (state.network.accepted endpoint)) ∧
      ∀ endpoint message, a = .receive endpoint message → ∃ client rest,
        state.clients.find? endpoint = some client ∧
        readMessage codec [client.inbox] = (.ok message, rest) := by
  cases hs with
  | @network b network permitted next =>
    cases ha : Network.hostAction b with
    | none => exact .inl (Network.step_hostKept next ha)
    | some a =>
      obtain ⟨hstepped, haccepted⟩ := Network.step_hostStepped next ha
      exact .inr ⟨a, hstepped, haccepted, fun endpoint message hcon =>
        absurd hcon ((not_received permitted next ha).1 endpoint message)⟩
  | connected hello fresh next =>
    obtain ⟨hstepped, haccepted⟩ := Network.step_hostStepped next rfl
    exact .inr ⟨_, hstepped, haccepted, nofun⟩
  | advanced => exact .inl ⟨rfl, rfl⟩
  | received live read next =>
    obtain ⟨hstepped, haccepted⟩ := Network.step_hostStepped next rfl
    refine .inr ⟨_, hstepped, haccepted, ?_⟩
    rintro _ _ ⟨⟩
    exact ⟨_, _, live, read⟩
  | quit next => exact .inl (Network.step_hostKept next rfl)

theorem Conversing.step (hinverse : codec.Inverse) (h : Conversing codec state)
    (hs : Stepped codec state state') : Conversing codec state' := by
  refine ⟨h.dialogue_step hinverse hs, fun node hnode hremote => ?_⟩
  have hkept : node ∈ state.network.host.server.mScreens.mScreens.nodes →
      ∃ screens, state'.Reported node.key screens ∧
        screens[node.value.key.screenIndex]? = some node.value.info := by
    intro hold
    obtain ⟨screens, hreported, hinfo⟩ := h.stored node hold hremote
    exact ⟨screens, hs.reported hreported, hinfo⟩
  rcases hs.host_cases with ⟨hsame, -⟩ | ⟨a, hstepped, -, hsent⟩
  · exact hkept (hsame ▸ hnode)
  · rcases hstepped.mem_nodes hnode with hold | hlocal | ⟨report, ha, hinfo⟩
    · exact hkept hold
    · rw [hremote] at hlocal
      cases hlocal
    · obtain ⟨client, rest, live, read⟩ := hsent _ _ ha
      exact ⟨report.screens, hs.reported (reported_of_received hinverse h live read), hinfo⟩

theorem run_conversing (hinverse : codec.Inverse) {as : List (Action E C I)}
    {guard : ClientNetwork E C I → Action E C I → ClientNetwork E C I → Prop} {endpoint : E}
    {config : AppConfig} {configPath : String} {capture : C}
    (h : Run (step codec) guard (start endpoint config configPath capture) as state) :
    Conversing codec state :=
  h.invariant (Conversing codec) (fun _ _ _ hs _ hnext => hs.step hinverse (step_stepped hnext))
    (conversing_start codec endpoint config configPath capture)

/-- Whatever is interleaved, a session has received what its client sent first, and every
screen that is stored for a client has its place and its rectangle in the report that the
client sent with its injector initialized. -/
theorem server_sees_what_was_reported (hinverse : codec.Inverse) {as : List (Action E C I)}
    {endpoint : E} {config : AppConfig} {configPath : String} {capture : C}
    (h : Run (step codec) unguarded (start endpoint config configPath capture) as state) :
    (∀ peer session, state.network.host.sessions.find? peer = some session →
      ∃ client, state.clients.find? peer = some client ∧ session.received <+: client.sent) ∧
    ∀ node ∈ state.network.host.server.mScreens.mScreens.nodes, node.value.isLocal = false →
      ∃ screens, state.Reported node.key screens ∧
        screens[node.value.key.screenIndex]? = some node.value.info := by
  have hconversing := run_conversing hinverse h
  refine ⟨fun peer session live => ?_, hconversing.stored⟩
  have hdialogue := hconversing.dialogue peer
  rw [live] at hdialogue
  obtain ⟨client, hclient⟩ := Option.ne_none_iff_exists'.mp (hdialogue.known nofun)
  obtain ⟨read, ⟨flying, hsent, -⟩, hreceived⟩ := hdialogue.carried client hclient
  refine ⟨client, hclient, flying, ?_⟩
  rw [hreceived session rfl, hsent]

end Runs

/-! ### A guest and its report -/

/-- A codec that knows the texts of a guest's messages and of the entry move. -/
def guestCodec : RpcCodec where
  hello := knowing { machineId := "m" } "\x7b\"version\":0,\"machineId\":\"m\",\"name\":\"\"\x7d"
  screens := knowing ⟨[sideMonitor]⟩ ("\x7b\"screens\":[\x7b\"x\":0,\"y\":0,\"width\":1280," ++
    "\"height\":1024,\"dpi\":72,\"name\":\"\",\"primary\":false\x7d]\x7d")
  input := Network.entryCodec.input
  ping := ⟨fun _ => none, fun _ => none⟩
  pong := ⟨fun _ => none, fun _ => none⟩
  error := ⟨fun _ => none, fun _ => none⟩

theorem guestCodec_inverse : guestCodec.Inverse where
  hello := knowing_inverse _ _
  screens := knowing_inverse _ _
  input := knowing_inverse _ _
  ping := nofun
  pong := nofun
  error := nofun

/-- A guest connects and reports its screen in two pieces. -/
def guestReported : List (Action IPv4Endpoint MockInputCapture ScriptedInjector) :=
  [.network (.host (.registerLocal [deskMonitor])),
    .connect (loopback 1001) { machineId := "m" } {},
    .greet (loopback 1001), .upload (loopback 1001) 200, .land (loopback 1001) 200,
    .receive (loopback 1001), .network (.host (.publish (loopback 1001))),
    .initializeInjector (loopback 1001) true, .handleWrite (loopback 1001) [sideMonitor],
    .upload (loopback 1001) 30, .land (loopback 1001) 20, .upload (loopback 1001) 300,
    .land (loopback 1001) 300, .receive (loopback 1001)]

/-- The cursor crosses to the screen of the guest. -/
def guestEntered : List (Action IPv4Endpoint MockInputCapture ScriptedInjector) :=
  guestReported ++ [.network (.host (.captured (.mouseMove { x := 1919, y := 500 }))),
    .network (.deliver (loopback 1001)), .network (.transmit (loopback 1001) 200),
    .network (.arrive (loopback 1001) 200), .network (.read (loopback 1001)),
    .network (.inject (loopback 1001))]

theorem server_sees_what_was_reported_guest :
    ∃ state : ClientNetwork IPv4Endpoint MockInputCapture ScriptedInjector,
      Run (step guestCodec) unguarded (start (loopback 24800) { machineId := "desk" } "" {})
        guestReported state ∧
      ∃ node ∈ state.network.host.server.mScreens.mScreens.nodes, node.value.isLocal = false ∧
        ∃ screens, state.Reported node.key screens ∧
          screens[node.value.key.screenIndex]? = some node.value.info := by
  obtain ⟨state, hrun, hp⟩ := exists_run_of_execute (step guestCodec) (fun _ _ _ => true)
    (start (loopback 24800) { machineId := "desk" } "" {}) guestReported
    (fun state => state.network.host.server.mScreens.mScreens.nodes.any (!·.value.isLocal))
    (fun _ _ _ _ => trivial) (by decide +kernel)
  obtain ⟨node, hnode, hremote⟩ := List.any_eq_true.mp hp
  have hlocal : node.value.isLocal = false := by simpa using hremote
  exact ⟨state, hrun, node, hnode, hlocal,
    (server_sees_what_was_reported guestCodec_inverse hrun).2 node hnode hlocal⟩

end ClientNetwork

end Mksync
