import Mksync.RouterSteps
import Mksync.TransitionRuns

/-!
# Runs of the server

The host is the server together with its accepted connections. One action is what a
coroutine does between two suspensions: a captured event, a message read, a message taken
by a write loop, a connection accepted, failed or cleaned up. Any order of actions that are
enabled is a run.
-/
namespace Mksync

open TransitionRuns

/-- The server's own state. `mEndpoint` is the endpoint its listener is bound to. -/
@[ext] structure Server (E C : Type) [LinearOrder E] where
  mEndpoint : E
  mScreens : ServerScreenStore E
  mInput : ServerInputRouter E C

namespace Server

variable {E C : Type} [Endpoint E] [InputCapture C]

/-- `run` up to the registration of the local screens. -/
def start (endpoint : E) (config : AppConfig) (configPath : String) (capture : C) : Server E C :=
  let screens := ServerScreenStore.init config configPath
  ⟨endpoint, screens, ServerInputRouter.init.setCapture screens (some capture)⟩

/-- Full replacement for the endpoint: drop the old screens, then add the new set. -/
def registerScreens (endpoint : E) (ownerId : String) (screens : List ScreenInfo) (isLocal : Bool)
    (server : Server E C) : Server E C :=
  let removed := server.mScreens.removeScreen endpoint server.mInput.mActiveScreen
  let input := if removed.1 then server.mInput.clearActiveState removed.2 else server.mInput
  let store := removed.2.registerScreens endpoint ownerId screens isLocal
  { server with mScreens := store, mInput := input.ensureActiveLocalScreen store isLocal }

/-- The owner id under which the server registers its own screens. -/
def localOwnerId (server : Server E C) : String :=
  server.mScreens.defaultOwnerId server.mEndpoint true

def registerLocalScreens (screens : List ScreenInfo) (server : Server E C) : Server E C :=
  server.registerScreens server.mEndpoint server.localOwnerId screens true

def removeEndpointScreens (endpoint : E) (server : Server E C) : Server E C :=
  let removed := server.mScreens.removeScreen endpoint server.mInput.mActiveScreen
  if removed.1 then
    let input := server.mInput.clearActiveState removed.2
    { server with mScreens := removed.2, mInput := input.ensureActiveLocalScreen removed.2 false }
  else { server with mScreens := removed.2 }

def setSenders (senders : ClientSenders E) (server : Server E C) : Server E C :=
  { server with mInput := { server.mInput with mSenders := senders } }

def rememberOwner (endpoint : E) (ownerId : String) (server : Server E C) : Server E C :=
  { server with mScreens := server.mScreens.rememberOwner endpoint ownerId }

/-- The platform does something to the capture, the router takes no part in it. -/
def onSignal (signal : InputCapture.Signal C) (server : Server E C) : Server E C :=
  { server with mInput := { server.mInput with
      mCapture := server.mInput.mCapture.map (InputCapture.onSignal signal) } }

/-- The cleanup after a session, whatever ended it. -/
def onClosed (endpoint : E) (server : Server E C) : Server E C :=
  let server := server.removeEndpointScreens endpoint
  let server := server.setSenders (server.mInput.mSenders.erase endpoint)
  { server with mScreens := server.mScreens.forgetOwner endpoint }

variable [EntryScaling]

def handleInputEvent (event : InputEvent) (server : Server E C) : Server E C :=
  { server with mInput := server.mInput.handleInputEvent server.mScreens event }

end Server

/-- `closing` is the shutdown of the transport, after one of the loops has ended. -/
inductive SessionPhase
  | handshake | running | closing
  deriving DecidableEq, Repr

structure ServerSession where
  phase : SessionPhase := .handshake
  mMachineId : String := ""
  mOwnerId : String := ""
  mName : String := ""
  /-- The write loop has published its sender. -/
  writing : Bool := false
  /-- History: every message received on the connection. Read by no function. -/
  received : List RpcMessage := []
  deriving DecidableEq

/-- The server and its connections, by the peer's endpoint. -/
structure Host (E C : Type) [LinearOrder E] where
  server : Server E C
  sessions : OrderedMap E ServerSession

inductive Action (E C : Type) [InputCapture C]
  /-- The screens of the server's own platform, at startup. -/
  | registerLocal (screens : List ScreenInfo)
  | captured (event : InputEvent)
  | signal (signal : InputCapture.Signal C)
  | accept (endpoint : E)
  | receive (endpoint : E) (message : RpcMessage)
  /-- The write loop starts. -/
  | publish (endpoint : E)
  /-- The write loop takes a message and writes it. -/
  | deliver (endpoint : E)
  /-- The connection breaks, or its task is cancelled. -/
  | fail (endpoint : E)
  /-- The shutdown after the loops is over. -/
  | close (endpoint : E)

namespace Host

variable {E C : Type} [Endpoint E] [InputCapture C]

def start (endpoint : E) (config : AppConfig) (configPath : String) (capture : C) : Host E C :=
  ⟨.start endpoint config configPath capture, .empty⟩

def withServer (host : Host E C) (f : Server E C → Server E C) : Host E C :=
  { host with server := f host.server }

def withSession (host : Host E C) (endpoint : E) (session : ServerSession) : Host E C :=
  { host with sessions := host.sessions.insertOrAssign endpoint session }

/-- The session's guard runs the cleanup and the session is gone. -/
def closeSession (host : Host E C) (endpoint : E) : Host E C :=
  ⟨host.server.onClosed endpoint, host.sessions.erase endpoint⟩

/-- The owner id a Hello on the connection stands for. -/
def helloOwnerId (endpoint : E) (hello : HelloMessage) : String :=
  if hello.machineId = "" then ServerScreenStore.ownerIdFromEndpoint endpoint else hello.machineId

/-- The first message: the owner is remembered before the trust check. -/
def handshake (host : Host E C) (endpoint : E) (session : ServerSession) (message : RpcMessage) :
    Host E C :=
  match message with
  | .hello hello =>
    let ownerId := helloOwnerId endpoint hello
    let host := host.withServer (Server.rememberOwner endpoint ownerId)
    if isTrustedClient host.server.mScreens.mConfig hello.machineId hello.name then
      host.withSession endpoint { session with
        phase := .running
        mMachineId := hello.machineId
        mOwnerId := ownerId
        mName := hello.name
        received := session.received ++ [message] }
    else host.closeSession endpoint
  | _ => host.closeSession endpoint

/-- One turn of the read loop: screens are reported, everything else is only traced. -/
def readLoop (host : Host E C) (endpoint : E) (session : ServerSession) (message : RpcMessage) :
    Host E C :=
  let host := host.withSession endpoint
    { session with received := session.received ++ [message] }
  match message with
  | .screens report => host.withServer
      (Server.registerScreens endpoint session.mOwnerId report.screens false)
  | _ => host

/-- The failure of a session: a handshake cleans up at once, the loops shut down first. The
receiver of the write loop's channel goes with the loop. -/
def failSession (host : Host E C) (endpoint : E) (session : ServerSession) :
    Option (Host E C) :=
  match session.phase with
  | .handshake => some (host.closeSession endpoint)
  | .closing => none
  | .running =>
    let host := host.withSession endpoint { session with phase := .closing }
    match host.server.mInput.mSenders.find? endpoint with
    | none => some host
    | some sender => some (host.withServer (Server.setSenders
        (host.server.mInput.mSenders.insertOrAssign endpoint { sender with closed := true })))

variable [EntryScaling]

def step (host : Host E C) : Action E C → Option (Host E C)
  | .registerLocal screens => some (host.withServer (Server.registerLocalScreens screens))
  | .captured event => some (host.withServer (Server.handleInputEvent event))
  | .signal signal => some (host.withServer (Server.onSignal signal))
  | .accept endpoint =>
    if endpoint = host.server.mEndpoint ∨ host.sessions.contains endpoint then none
    else some (host.withSession endpoint {})
  | .receive endpoint message =>
    match host.sessions.find? endpoint with
    | none => none
    | some session =>
      match session.phase with
      | .handshake => some (host.handshake endpoint session message)
      | .running => some (host.readLoop endpoint session message)
      | .closing => none
  | .publish endpoint =>
    match host.sessions.find? endpoint with
    | none => none
    | some session =>
      if session.phase = .running ∧ session.writing = false then
        let host := host.withSession endpoint { session with writing := true }
        some (host.withServer (Server.setSenders
          (host.server.mInput.mSenders.insertOrAssign endpoint {})))
      else none
  | .deliver endpoint =>
    match host.sessions.find? endpoint, host.server.mInput.mSenders.find? endpoint with
    | some session, some sender =>
      if session.phase = .running then
        match sender.recv with
        | none => none
        | some sender => some (host.withServer (Server.setSenders
            (host.server.mInput.mSenders.insertOrAssign endpoint sender)))
      else none
    | _, _ => none
  | .fail endpoint =>
    match host.sessions.find? endpoint with
    | none => none
    | some session => host.failSession endpoint session
  | .close endpoint =>
    match host.sessions.find? endpoint with
    | none => none
    | some session => if session.phase = .closing then some (host.closeSession endpoint) else none

end Host

/-! ### Runs at one desk -/

abbrev DeskAction := Action IPv4Endpoint MockInputCapture

abbrev DeskHost := Host IPv4Endpoint MockInputCapture

def deskMonitor : ScreenInfo := { width := 1920, height := 1080, primary := true }

def sideMonitor : ScreenInfo := { width := 1280, height := 1024 }

/-- A server with machine id `desk`, before its local screens are registered. -/
def deskHost : DeskHost :=
  .start (loopback 24800) { machineId := "desk" } "" {}

/-- A client on the port connects, says Hello and reports its screens. -/
def connect (port : UInt16) (machineId : String) (screens : List ScreenInfo) : List DeskAction :=
  [.accept (loopback port), .receive (loopback port) (.hello { machineId }),
    .publish (loopback port), .receive (loopback port) (.screens ⟨screens⟩)]

/-- Two clients are connected and the connection of the first breaks. -/
def firstOfTwoBreaks (machineId machineId' : String) : List DeskAction :=
  .registerLocal [deskMonitor] :: connect 1001 machineId [sideMonitor] ++
    connect 1002 machineId' [sideMonitor, sideMonitor] ++ [.fail (loopback 1001)]

end Mksync
