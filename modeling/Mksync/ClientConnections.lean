import Mksync.InputDelivery

/-!
# The clients and what they send

A client says Hello, initializes its injector and reports its screens, while the server reads
what has arrived. The network of the sessions and injectors is the one of the server, with the
messages its sessions receive taken from what the clients sent.
-/
namespace Mksync

open TransitionRuns ByteFrames RpcTransport

/-- How far a client's `run` has come. -/
inductive ClientStage
  /-- The stream is connected. -/
  | connected
  /-- Hello is handed to the stream. -/
  | greeted
  /-- The injector is initialized, the read and the write loop run. -/
  | serving
  | ended
  deriving DecidableEq, Repr

/-- A client as far as it sends, and the bytes between it and its session. -/
structure ClientProcess where
  hello : HelloMessage
  stage : ClientStage := .connected
  /-- The screens that the write loop has reported. -/
  report : Option (List ScreenInfo) := none
  /-- What is left of the frame that is being written. -/
  outgoing : Bytes := []
  /-- The bytes on the way. -/
  wire : Bytes := []
  inbox : Bytes := []
  /-- History: Hello was handed to the stream. -/
  introduced : Bool := false
  /-- History: the initialization of the injector succeeded. -/
  initialized : Bool := false

namespace ClientProcess

/-- Hello is the first message. -/
def greet (codec : RpcCodec) (client : ClientProcess) : Option ClientProcess :=
  if client.stage = .connected then
    match writeMessage codec (.hello client.hello) client.outgoing with
    | (.ok (), bytes) =>
      some { client with stage := .greeted, outgoing := bytes, introduced := true }
    | (.error _, bytes) => some { client with stage := .ended, outgoing := bytes }
  else none

/-- The injector is initialized after Hello is written. A failure ends the client. -/
def initializeInjector (success : Bool) (client : ClientProcess) : Option ClientProcess :=
  if client.stage = .greeted ∧ client.outgoing = [] then
    if success then some { client with stage := .serving, initialized := true }
    else some { client with stage := .ended }
  else none

/-- The write loop reports the screens, once. -/
def handleWrite (codec : RpcCodec) (screens : List ScreenInfo) (client : ClientProcess) :
    Option ClientProcess :=
  if client.stage = .serving ∧ client.report = none then
    match writeMessage codec (.screens ⟨screens⟩) client.outgoing with
    | (.ok (), bytes) => some { client with report := some screens, outgoing := bytes }
    | (.error _, bytes) => some { client with stage := .ended, outgoing := bytes }
  else none

/-- The connection takes some bytes of the frame. -/
def upload (count : Nat) (client : ClientProcess) : Option ClientProcess :=
  if client.stage = .ended then none
  else some { client with
    wire := client.wire ++ client.outgoing.take count
    outgoing := client.outgoing.drop count }

/-- Some bytes arrive at the session. -/
def land (count : Nat) (client : ClientProcess) : Option ClientProcess :=
  some { client with
    inbox := client.inbox ++ client.wire.take count
    wire := client.wire.drop count }

def quit (client : ClientProcess) : Option ClientProcess := some { client with stage := .ended }

/-- The messages handed to the stream. -/
def sent (client : ClientProcess) : List RpcMessage :=
  (if client.introduced then [.hello client.hello] else []) ++
    (client.report.map fun screens => .screens ⟨screens⟩).toList

/-- The bytes that the session has not read. -/
def unread (client : ClientProcess) : Bytes := client.inbox ++ (client.wire ++ client.outgoing)

/-- The stages come in their order. -/
structure Staged (client : ClientProcess) : Prop where
  connected : client.stage = .connected → client.introduced = false
  greeted : client.stage = .greeted → client.introduced = true
  serving : client.stage = .serving → client.initialized = true
  initialized : client.initialized = true → client.introduced = true
  reported : client.report ≠ none → client.initialized = true

/-- What the session has read comes first in what was sent, and the rest is on the way. -/
def Carried (codec : RpcCodec) (client : ClientProcess) (read : List RpcMessage) : Prop :=
  ∃ flying, client.sent = read ++ flying ∧ client.unread = writeMessages codec flying [] ∧
    ∀ message ∈ flying, fits codec message = true

/-- The client's own side of a step. -/
structure Advances (codec : RpcCodec) (client client' : ClientProcess) : Prop where
  hello : client'.hello = client.hello
  staged : client.Staged → client'.Staged
  carried : ∀ read, client.Staged → client.Carried codec read → client'.Carried codec read
  initialized : client.initialized = true → client'.initialized = true
  report : ∀ screens, client.report = some screens → client'.report = some screens

variable {codec : RpcCodec} {client client' : ClientProcess}

/-- A message that is handed over comes behind what is on the way. -/
theorem Carried.wrote {read : List RpcMessage} {message : RpcMessage} {bytes : Bytes}
    (h : client.Carried codec read)
    (hwrite : writeMessage codec message client.outgoing = (.ok (), bytes))
    (hsent : client'.sent = client.sent ++ [message])
    (hunread : client'.unread = client.inbox ++ (client.wire ++ bytes)) :
    client'.Carried codec read := by
  obtain ⟨flying, hflying, hbytes, hfits⟩ := h
  refine ⟨flying ++ [message], by rw [hsent, hflying, List.append_assoc], ?_, ?_⟩
  · have happend := writeMessage_append codec message client.outgoing
    rw [hwrite] at happend
    dsimp only at happend
    rw [writeMessages_snoc, writeMessage_append, ← hbytes, hunread, happend]
    simp only [unread, List.append_assoc]
  · intro other hother
    rcases List.mem_append.mp hother with hother | hother
    · exact hfits other hother
    · rw [List.mem_singleton.mp hother]
      rcases writeMessage_cases codec message client.outgoing with ⟨hok, -⟩ | ⟨-, error, hfails⟩
      · exact hok
      · cases hwrite.symm.trans hfails

/-- What moves no message carries the same ones. -/
theorem Carried.moved {read : List RpcMessage} (h : client.Carried codec read)
    (hsent : client'.sent = client.sent) (hunread : client'.unread = client.unread) :
    client'.Carried codec read := by
  unfold Carried
  rw [hsent, hunread]
  exact h

theorem writeMessage_error {message : RpcMessage} {error : RpcError} {stream bytes : Bytes}
    (h : writeMessage codec message stream = (.error error, bytes)) : bytes = stream := by
  rcases writeMessage_cases codec message stream with ⟨-, frame, -, hok⟩ | ⟨-, error, hfails⟩
  · cases h.symm.trans hok
  · exact (Prod.mk.inj (h.symm.trans hfails)).2

theorem advances_greet (h : client.greet codec = some client') :
    client.Advances codec client' := by
  unfold greet at h
  split_ifs at h with hstage
  split at h
  next bytes hwrite =>
    cases h
    refine ⟨rfl, fun hs => ⟨nofun, fun _ => rfl, nofun, fun _ => rfl, hs.reported⟩, ?_,
      id, fun _ => id⟩
    intro read hs hcarried
    have hsilent : client.introduced = false := hs.connected hstage
    have hnone : client.report = none := by
      by_contra hsome
      rw [hs.initialized (hs.reported hsome)] at hsilent
      cases hsilent
    refine hcarried.wrote hwrite ?_ rfl
    simp [sent, hsilent, hnone]
  next error bytes hwrite =>
    cases h
    obtain rfl := writeMessage_error hwrite
    exact ⟨rfl, fun hs => ⟨nofun, nofun, nofun, hs.initialized, hs.reported⟩,
      fun read _ hcarried => hcarried.moved rfl rfl, id, fun _ => id⟩

theorem advances_initializeInjector {success : Bool}
    (h : client.initializeInjector success = some client') :
    client.Advances codec client' := by
  unfold initializeInjector at h
  split_ifs at h with hready hsuccess
  · cases h
    refine ⟨rfl, fun hs => ⟨nofun, nofun, fun _ => rfl, fun _ => hs.greeted hready.1,
      fun _ => rfl⟩, fun read _ hcarried => hcarried.moved rfl rfl, fun _ => rfl, fun _ => id⟩
  · cases h
    exact ⟨rfl, fun hs => ⟨nofun, nofun, nofun, hs.initialized, hs.reported⟩,
      fun read _ hcarried => hcarried.moved rfl rfl, id, fun _ => id⟩

theorem advances_handleWrite {screens : List ScreenInfo}
    (h : client.handleWrite codec screens = some client') : client.Advances codec client' := by
  unfold handleWrite at h
  split_ifs at h with hready
  obtain ⟨hstage, hnone⟩ := hready
  split at h
  next bytes hwrite =>
    cases h
    refine ⟨rfl, fun hs => ⟨hs.connected, hs.greeted, hs.serving, hs.initialized,
      fun _ => hs.serving hstage⟩, ?_, id, fun _ hsome => nomatch hnone.symm.trans hsome⟩
    intro read hs hcarried
    refine hcarried.wrote hwrite ?_ rfl
    simp [sent, hs.initialized (hs.serving hstage), hnone]
  next error bytes hwrite =>
    cases h
    obtain rfl := writeMessage_error hwrite
    exact ⟨rfl, fun hs => ⟨nofun, nofun, nofun, hs.initialized, hs.reported⟩,
      fun read _ hcarried => hcarried.moved rfl rfl, id, fun _ => id⟩

theorem advances_upload {count : Nat} (h : client.upload count = some client') :
    client.Advances codec client' := by
  unfold upload at h
  split_ifs at h
  cases h
  refine ⟨rfl, fun hs => ⟨hs.connected, hs.greeted, hs.serving, hs.initialized, hs.reported⟩,
    fun read _ hcarried => hcarried.moved rfl ?_, id, fun _ => id⟩
  unfold unread
  rw [List.append_assoc, List.take_append_drop]

theorem advances_land {count : Nat} (h : client.land count = some client') :
    client.Advances codec client' := by
  cases h
  refine ⟨rfl, fun hs => ⟨hs.connected, hs.greeted, hs.serving, hs.initialized, hs.reported⟩,
    fun read _ hcarried => hcarried.moved rfl ?_, id, fun _ => id⟩
  unfold unread
  dsimp only
  rw [List.append_assoc, ← List.append_assoc _ _ client.outgoing, List.take_append_drop]

theorem advances_quit (h : client.quit = some client') : client.Advances codec client' := by
  cases h
  exact ⟨rfl, fun hs => ⟨nofun, nofun, nofun, hs.initialized, hs.reported⟩,
    fun read _ hcarried => hcarried.moved rfl rfl, id, fun _ => id⟩

/-- The session reads the first of the messages that are on the way. -/
theorem Carried.read {read : List RpcMessage} {message : RpcMessage} {rest : Chunks}
    (hinverse : codec.Inverse) (h : client.Carried codec read)
    (hread : readMessage codec [client.inbox] = (.ok message, rest)) :
    { client with inbox := rest.flatten }.Carried codec (read ++ [message]) := by
  obtain ⟨flying, hsent, hbytes, hfits⟩ := h
  have hwhole : [writeMessages codec flying []].flatten =
      [client.inbox].flatten ++ (client.wire ++ client.outgoing) := by
    simp [← hbytes, unread]
  obtain ⟨later, hlater, hbehind⟩ := readMessage_more hread nofun hwhole
  cases flying with
  | nil =>
    have hnothing : readMessage codec [writeMessages codec [] []] = (.error .unexpectedEof, []) :=
      readMessage_truncated codec (.header (by simp [writeMessages]))
    cases hlater.symm.trans hnothing
  | cons first flying =>
    obtain ⟨tail, hfirst, htail⟩ := readMessage_written hinverse
      (hfits first List.mem_cons_self) (List.flatten_singleton)
    obtain ⟨hsame, rfl⟩ := Prod.mk.inj (hlater.symm.trans hfirst)
    obtain rfl : message = first := Except.ok.inj hsame
    refine ⟨flying, ?_, hbehind.symm.trans htail, ?_⟩
    · change client.sent = _
      rw [hsent, List.append_assoc, List.singleton_append]
    · exact fun other hother => hfits other (List.mem_cons_of_mem _ hother)

end ClientProcess

/-- The server with its sessions and connections, and the clients at the other ends. -/
structure ClientNetwork (E C I : Type) [LinearOrder E] where
  network : Network E C I
  clients : OrderedMap E ClientProcess

namespace ClientNetwork

/-- The network's own actions, and those of the clients. -/
inductive Action (E C I : Type) [InputCapture C]
  | network (a : Network.Action E C I)
  | connect (endpoint : E) (hello : HelloMessage) (injector : I)
  | greet (endpoint : E)
  | initializeInjector (endpoint : E) (success : Bool)
  | handleWrite (endpoint : E) (screens : List ScreenInfo)
  | upload (endpoint : E) (count : Nat)
  | land (endpoint : E) (count : Nat)
  /-- The session reads a message that has arrived whole. -/
  | receive (endpoint : E)
  | quit (endpoint : E)

section Steps

variable {E C I : Type} [Endpoint E] [InputCapture C] [InputInjector I]

def start (endpoint : E) (config : AppConfig) (configPath : String) (capture : C) :
    ClientNetwork E C I :=
  ⟨.start endpoint config configPath capture, .empty⟩

def serving (state : ClientNetwork E C I) (endpoint : E) : Bool :=
  (state.clients.find? endpoint).any (·.stage = .serving)

/-- The client's read loop has not ended, which would cancel its write loop. -/
def reading (state : ClientNetwork E C I) (endpoint : E) : Bool :=
  (state.network.links.find? endpoint).any (·.reading)

/-- What a session receives comes from its client, and a client reads while it serves. -/
def permits (state : ClientNetwork E C I) : Network.Action E C I → Bool
  | .host (.receive _ _) => false
  | .connect _ _ => false
  | .read endpoint => state.serving endpoint
  | .inject endpoint => state.serving endpoint
  | .stop _ => false
  | _ => true

def clientStep (state : ClientNetwork E C I) (endpoint : E)
    (f : ClientProcess → Option ClientProcess) : Option (ClientNetwork E C I) :=
  match state.clients.find? endpoint with
  | none => none
  | some client => (f client).map fun client =>
      { state with clients := state.clients.insertOrAssign endpoint client }

def step [EntryScaling] (codec : RpcCodec) (state : ClientNetwork E C I) :
    Action E C I → Option (ClientNetwork E C I)
  | .network a =>
    if state.permits a then
      (state.network.step codec a).map fun network => { state with network }
    else none
  | .connect endpoint hello injector =>
    if state.clients.contains endpoint then none
    else (state.network.step codec (.connect endpoint injector)).map fun network =>
      ⟨network, state.clients.insertOrAssign endpoint { hello }⟩
  | .greet endpoint => state.clientStep endpoint (·.greet codec)
  | .initializeInjector endpoint success =>
    state.clientStep endpoint (·.initializeInjector success)
  | .handleWrite endpoint screens =>
    if state.reading endpoint then state.clientStep endpoint (·.handleWrite codec screens)
    else none
  | .upload endpoint count =>
    if state.reading endpoint then state.clientStep endpoint (·.upload count) else none
  | .land endpoint count => state.clientStep endpoint (·.land count)
  | .receive endpoint =>
    match state.clients.find? endpoint with
    | none => none
    | some client =>
      match readMessage codec [client.inbox] with
      | (.ok message, rest) =>
        (state.network.step codec (.host (.receive endpoint message))).map fun network =>
          ⟨network, state.clients.insertOrAssign endpoint
            { client with inbox := rest.flatten }⟩
      -- what cannot be read ends the session
      | (.error _, _) => none
  | .quit endpoint =>
    match state.network.step codec (.stop endpoint) with
    | none => none
    | some network => { state with network }.clientStep endpoint (·.quit)

/-- What an enabled action does. -/
inductive Stepped [EntryScaling] (codec : RpcCodec) (state : ClientNetwork E C I) :
    ClientNetwork E C I → Prop
  | network {a : Network.Action E C I} {network : Network E C I} (permitted : state.permits a)
      (next : state.network.step codec a = some network) :
      Stepped codec state { state with network }
  | connected {endpoint : E} {injector : I} {network : Network E C I} (hello : HelloMessage)
      (fresh : state.clients.find? endpoint = none)
      (next : state.network.step codec (.connect endpoint injector) = some network) :
      Stepped codec state ⟨network, state.clients.insertOrAssign endpoint { hello }⟩
  | advanced {endpoint : E} {client client' : ClientProcess}
      (live : state.clients.find? endpoint = some client)
      (advances : client.Advances codec client') :
      Stepped codec state { state with clients := state.clients.insertOrAssign endpoint client' }
  | received {endpoint : E} {client : ClientProcess} {message : RpcMessage} {rest : Chunks}
      {network : Network E C I} (live : state.clients.find? endpoint = some client)
      (read : readMessage codec [client.inbox] = (.ok message, rest))
      (next : state.network.step codec (.host (.receive endpoint message)) = some network) :
      Stepped codec state
        ⟨network, state.clients.insertOrAssign endpoint { client with inbox := rest.flatten }⟩
  | quit {endpoint : E} {client client' : ClientProcess} {network : Network E C I}
      (next : state.network.step codec (.stop endpoint) = some network)
      (live : state.clients.find? endpoint = some client)
      (advances : client.Advances codec client') :
      Stepped codec state ⟨network, state.clients.insertOrAssign endpoint client'⟩

variable {codec : RpcCodec} {state state' : ClientNetwork E C I}

omit [InputCapture C] [InputInjector I] in
theorem clientStep_eq_some {endpoint : E} {f : ClientProcess → Option ClientProcess}
    (h : state.clientStep endpoint f = some state') : ∃ client client',
      state.clients.find? endpoint = some client ∧ f client = some client' ∧
      state' = { state with clients := state.clients.insertOrAssign endpoint client' } := by
  unfold clientStep at h
  split at h
  next => cases h
  next client live =>
    obtain ⟨client', hf, rfl⟩ := Option.map_eq_some_iff.mp h
    exact ⟨client, client', live, hf, rfl⟩

/-- A step of one client alone. -/
theorem stepped_of_clientStep [EntryScaling] {endpoint : E}
    {f : ClientProcess → Option ClientProcess}
    (hf : ∀ client client', f client = some client' → client.Advances codec client')
    (h : state.clientStep endpoint f = some state') : Stepped codec state state' := by
  obtain ⟨client, client', live, hclient, rfl⟩ := clientStep_eq_some h
  exact .advanced live (hf client client' hclient)

theorem step_stepped [EntryScaling] {a : Action E C I} (h : state.step codec a = some state') :
    Stepped codec state state' := by
  cases a with
  | network a =>
    simp only [step] at h
    split_ifs at h with hpermits
    obtain ⟨network, hnext, rfl⟩ := Option.map_eq_some_iff.mp h
    exact .network hpermits hnext
  | connect endpoint hello injector =>
    simp only [step] at h
    split_ifs at h with hknown
    obtain ⟨network, hnext, rfl⟩ := Option.map_eq_some_iff.mp h
    exact .connected hello (OrderedMap.contains_eq_false.mp (Bool.eq_false_iff.mpr hknown)) hnext
  | greet endpoint =>
    exact stepped_of_clientStep (fun _ _ => ClientProcess.advances_greet) h
  | initializeInjector endpoint success =>
    exact stepped_of_clientStep (fun _ _ => ClientProcess.advances_initializeInjector) h
  | handleWrite endpoint screens =>
    simp only [step] at h
    split_ifs at h
    exact stepped_of_clientStep (fun _ _ => ClientProcess.advances_handleWrite) h
  | upload endpoint count =>
    simp only [step] at h
    split_ifs at h
    exact stepped_of_clientStep (fun _ _ => ClientProcess.advances_upload) h
  | land endpoint count =>
    exact stepped_of_clientStep (fun _ _ => ClientProcess.advances_land) h
  | receive endpoint =>
    simp only [step] at h
    split at h
    next => cases h
    next client live =>
      split at h
      next message rest hread =>
        obtain ⟨network, hnext, rfl⟩ := Option.map_eq_some_iff.mp h
        exact .received live hread hnext
      next => cases h
  | quit endpoint =>
    simp only [step] at h
    split at h
    next => cases h
    next network hnext =>
      obtain ⟨client, client', live, hclient, rfl⟩ := clientStep_eq_some h
      exact .quit hnext live (ClientProcess.advances_quit hclient)

/-- The clients are one way in which the messages of the sessions come about. -/
theorem Stepped.network_step [EntryScaling] (h : Stepped codec state state') :
    state'.network = state.network ∨ ∃ a, state.network.step codec a = some state'.network := by
  cases h with
  | advanced => exact .inl rfl
  | network _ next | connected _ _ next | received _ _ next | quit next => exact .inr ⟨_, next⟩

end Steps

end ClientNetwork

end Mksync
