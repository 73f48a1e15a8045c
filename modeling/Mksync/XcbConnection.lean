import Mksync.BufferedRequests

/-!
# Connections to an X server

The X server is a parameter. It answers the requests of the connection, which libxcb buffers,
and what is assumed of it is what an accepted, a refused and a releasing request do to the
things that it holds for the connection.
-/
namespace Mksync

open BufferedRequests

/-- The `std::errc` of the backend. -/
inductive XcbErrc
  | invalidArgument | ioError | deviceOrResourceBusy | notEnoughMemory | notConnected
  | operationNotSupported | connectionRefused | protocolNotSupported | messageSize | noSuchDevice
  deriving DecidableEq, Repr

/-- The errors of `xcb_connection_has_error`. -/
inductive ConnectionError
  | failed | extNotSupported | memInsufficient | reqLenExceed | parseErr | invalidScreen
  | fdPassingFailed
  deriving DecidableEq, Repr

def connectionError : ConnectionError → XcbErrc
  | .failed => .connectionRefused
  | .extNotSupported => .protocolNotSupported
  | .memInsufficient => .notEnoughMemory
  | .reqLenExceed => .messageSize
  | .parseErr => .invalidArgument
  | .invalidScreen => .noSuchDevice
  | .fdPassingFailed => .ioError

/-! ### Requests and answers -/

/-- The requests of a capture, with the ids of the client. -/
inductive XRequest
  | selectEvents
  | createPixmap (pixmap : Nat)
  | freePixmap (pixmap : Nat)
  | createGC (gc pixmap : Nat)
  | freeGC (gc : Nat)
  | polyFillRectangle (pixmap gc : Nat)
  | createCursor (cursor pixmap : Nat)
  | freeCursor (cursor : Nat)
  | createWindow (window : Nat)
  | mapWindow (window : Nat)
  | destroyWindow (window : Nat)
  | grabPointer (window cursor : Nat)
  | ungrabPointer
  | grabKeyboard (window : Nat)
  | ungrabKeyboard
  | queryPointer
  | queryKeymap
  | warpPointer (x y : Int)
  deriving DecidableEq, Repr

inductive GrabStatus
  | success | alreadyGrabbed | invalidTime | notViewable | frozen | unknown
  deriving DecidableEq, Repr

/-- What comes back for a request: an X error, nothing, or the reply of its kind. -/
inductive XReply
  | error
  | done
  | grab (status : GrabStatus)
  | pointer (sameScreen : Bool) (rootX rootY : Int16)
  | keymap (keys : List UInt8)
  deriving DecidableEq, Repr

def XRequest.isGrab : XRequest → Bool
  | .grabPointer _ _ | .grabKeyboard _ => true
  | _ => false

/-- A grab is accepted by its status. -/
def XReply.accepts (request : XRequest) (reply : XReply) : Bool :=
  if request.isGrab then reply = .grab .success else reply ≠ .error

/-! ### What the server holds -/

structure PointerGrab where
  window : Nat
  cursor : Nat
  deriving DecidableEq, Repr

/-- What the server holds for one connection, by the ids of the client. -/
structure Holdings where
  pixmaps : List Nat := []
  gcs : List Nat := []
  cursors : List Nat := []
  windows : List Nat := []
  pointerGrab : Option PointerGrab := none
  keyboardGrab : Option Nat := none
  deriving DecidableEq, Repr

/-- What an accepted request does. A grab ends with its window. -/
def XRequest.effect (request : XRequest) (held : Holdings) : Holdings :=
  match request with
  | .createPixmap pixmap => { held with pixmaps := pixmap :: held.pixmaps }
  | .freePixmap pixmap => { held with pixmaps := held.pixmaps.erase pixmap }
  | .createGC gc _ => { held with gcs := gc :: held.gcs }
  | .freeGC gc => { held with gcs := held.gcs.erase gc }
  | .createCursor cursor _ => { held with cursors := cursor :: held.cursors }
  | .freeCursor cursor => { held with cursors := held.cursors.erase cursor }
  | .createWindow window => { held with windows := window :: held.windows }
  | .destroyWindow window => { held with
      windows := held.windows.erase window
      pointerGrab := held.pointerGrab.filter (·.window ≠ window)
      keyboardGrab := held.keyboardGrab.filter (· ≠ window) }
  | .grabPointer window cursor => { held with pointerGrab := some ⟨window, cursor⟩ }
  | .ungrabPointer => { held with pointerGrab := none }
  | .grabKeyboard window => { held with keyboardGrab := some window }
  | .ungrabKeyboard => { held with keyboardGrab := none }
  | .selectEvents | .polyFillRectangle _ _ | .mapWindow _ | .queryPointer | .queryKeymap
  | .warpPointer _ _ => held

/-- What the server holds after its reply, if there was one. -/
def XRequest.outcome (request : XRequest) (reply : Option XReply) (held : Holdings) : Holdings :=
  if reply.any (·.accepts request) then request.effect held else held

/-- A grab that is not granted does nothing. -/
theorem XRequest.outcome_of_not_granted {request : XRequest} {reply : Option XReply}
    (hgrab : request.isGrab = true) (hreply : reply ≠ some (.grab .success)) (held : Holdings) :
    request.outcome reply held = held := by
  cases reply with
  | none => rfl
  | some reply =>
    have hnot : reply ≠ .grab .success := fun heq => hreply (by rw [heq])
    simp [XRequest.outcome, XReply.accepts, hgrab, hnot]

/-- The request gives something back that the server holds. -/
def XRequest.Returns (held : Holdings) : XRequest → Prop
  | .freePixmap pixmap => pixmap ∈ held.pixmaps
  | .freeGC gc => gc ∈ held.gcs
  | .freeCursor cursor => cursor ∈ held.cursors
  | .destroyWindow window => window ∈ held.windows
  | .ungrabPointer | .ungrabKeyboard => True
  | _ => False

/-- An X server as one connection sees it. All that may happen to it meanwhile is in its state. -/
class XServer (S : Type) where
  serve : Serve S XRequest XReply ConnectionError
  held : S → Holdings

/-- The server does what it accepts and nothing else, takes back what it holds, and no other
client takes it away. -/
class LawfulXServer (S : Type) [XServer S] : Prop where
  accepted : ∀ (request : XRequest) (server : S) (reply : XReply) (server' : S),
    XServer.serve request server = (.ok reply, server') → reply.accepts request = true →
      XServer.held server' = request.effect (XServer.held server)
  refused : ∀ (request : XRequest) (server : S) (reply : XReply) (server' : S),
    XServer.serve request server = (.ok reply, server') → reply.accepts request = false →
      XServer.held server' = XServer.held server
  returned : ∀ (request : XRequest) (server : S) (reply : XReply) (server' : S),
    XServer.serve request server = (.ok reply, server') → request.Returns (XServer.held server) →
      reply.accepts request = true

/-! ### The connection -/

structure XcbConnection (S : Type) extends Connection S XRequest ConnectionError where
  generated : Nat := 0

namespace XcbConnection

variable {S : Type} [XServer S]

/-- The next id, which the client makes up by itself. -/
def nextId (connection : XcbConnection S) : Nat := connection.generated + 1

def generateId (connection : XcbConnection S) : XcbConnection S :=
  { connection with generated := connection.nextId }

/-- A request that nobody waits for. -/
def queue (request : XRequest) (connection : XcbConnection S) : XcbConnection S :=
  { connection with toConnection := connection.toConnection.queue request }

/-- libxcb writes out some of its buffer by itself. -/
def write (count : Nat) (connection : XcbConnection S) : XcbConnection S :=
  { connection with toConnection := connection.toConnection.write XServer.serve count }

def lose (error : ConnectionError) (connection : XcbConnection S) : XcbConnection S :=
  { connection with error := some error }

def ask (request : XRequest) (connection : XcbConnection S) : Option XReply × XcbConnection S :=
  let asked := connection.toConnection.ask XServer.serve request
  (asked.1, { connection with toConnection := asked.2 })

/-- Only an X error is one: `xcb_request_check` has none to tell of on a lost connection. -/
def check (request : XRequest) (connection : XcbConnection S) :
    Except XcbErrc Unit × XcbConnection S :=
  let asked := connection.ask request
  (if asked.1 = some .error then .error .ioError else .ok (), asked.2)

def flush (connection : XcbConnection S) : Except XcbErrc Unit × XcbConnection S :=
  let flushed := connection.toConnection.flush XServer.serve
  (match flushed.error with
    | none => .ok ()
    | some error => .error (connectionError error),
    { connection with toConnection := flushed })

/-- Unless the connection is lost, the server holds this once all that is queued is out, and
something with `P` until then. -/
def Settles (P : Holdings → Prop) (held : Holdings) (connection : XcbConnection S) : Prop :=
  BufferedRequests.Settles XServer.serve XServer.held P held connection.toConnection

end XcbConnection

theorem leads_of_returns {S : Type} [XServer S] [LawfulXServer S] {request : XRequest}
    {held : Holdings} (hreturns : request.Returns held) :
    Leads (XServer.serve (S := S)) XServer.held request held (request.effect held) := by
  rintro server reply server' rfl hserved
  have haccepts := LawfulXServer.returned request server reply server' hserved hreturns
  exact LawfulXServer.accepted request server reply server' hserved haccepts

namespace XcbConnection.Settles

variable {S : Type} [XServer S] [LawfulXServer S] {connection : XcbConnection S}
  {P Q : Holdings → Prop} {held : Holdings} {request : XRequest}

theorem queue (h : connection.Settles P held) (hreturns : request.Returns held)
    (hafter : P (request.effect held)) :
    (connection.queue request).Settles P (request.effect held) :=
  BufferedRequests.Settles.queue h (leads_of_returns hreturns) hafter

omit [LawfulXServer S] in
theorem lose (error : ConnectionError) : (connection.lose error).Settles P held :=
  fun hopen => absurd hopen (Option.some_ne_none error)

omit [LawfulXServer S] in
theorem mono (h : connection.Settles P held) (himp : ∀ here, P here → Q here) :
    connection.Settles Q held :=
  BufferedRequests.Settles.mono h himp

omit [LawfulXServer S] in
theorem write (h : connection.Settles P held) (count : Nat) :
    (connection.write count).Settles P held :=
  BufferedRequests.Settles.write h count

omit [LawfulXServer S] in
theorem flush (h : connection.Settles P held) (hheld : Q held) :
    connection.flush.2.Settles Q held :=
  BufferedRequests.Settles.flush h hheld

omit [LawfulXServer S] in
theorem flushed (h : connection.Settles P held) (hopen : connection.flush.2.error = none) :
    connection.flush.2.queued = [] ∧ XServer.held connection.flush.2.server = held :=
  BufferedRequests.Settles.flushed h hopen

/-- A request with a reply did what its reply says. -/
theorem ask (h : connection.Settles P held)
    (hafter : Q (request.outcome (connection.ask request).1 held)) :
    (connection.ask request).2.Settles Q (request.outcome (connection.ask request).1 held) := by
  apply BufferedRequests.Settles.ask h hafter
  rintro server reply server' rfl hreply hserved
  have hasked : (connection.ask request).1 = some reply := hreply
  rw [hasked, XRequest.outcome, Option.any_some]
  cases haccepts : reply.accepts request with
  | true => exact LawfulXServer.accepted request server reply server' hserved haccepts
  | false => exact LawfulXServer.refused request server reply server' hserved haccepts

theorem check_ok (h : connection.Settles P held) (hgrab : request.isGrab = false)
    (haccepted : Q (request.effect held)) (hok : (connection.check request).1 = .ok ()) :
    (connection.check request).2.Settles Q (request.effect held) := by
  apply BufferedRequests.Settles.ask h haccepted
  rintro server reply server' rfl hreply hserved
  have hasked : (connection.ask request).1 = some reply := hreply
  have hnot : reply ≠ .error := by
    rintro rfl
    rw [check, hasked, if_pos rfl] at hok
    cases hok
  have haccepts : reply.accepts request = true := by simp [XReply.accepts, hgrab, hnot]
  exact LawfulXServer.accepted request server reply server' hserved haccepts

theorem check_error {code : XcbErrc} (h : connection.Settles P held)
    (hgrab : request.isGrab = false)
    (hrefused : Q held) (herror : (connection.check request).1 = .error code) :
    (connection.check request).2.Settles Q held := by
  apply BufferedRequests.Settles.ask h hrefused
  rintro server reply server' rfl hreply hserved
  have hasked : (connection.ask request).1 = some reply := hreply
  have hyes : reply = .error := by
    by_contra hnot
    rw [check, hasked, if_neg (by simpa using hnot)] at herror
    cases herror
  have hrefuses : reply.accepts request = false := by simp [XReply.accepts, hgrab, hyes]
  exact LawfulXServer.refused request server reply server' hserved hrefuses

end XcbConnection.Settles

/-! ### A server that grants everything -/

/-- It refuses only to take back what it does not hold. -/
structure GrantingXServer where
  held : Holdings := {}
  rootX : Int16 := 0
  rootY : Int16 := 0

namespace GrantingXServer

instance (held : Holdings) : DecidablePred (XRequest.Returns held)
  | .freePixmap _ | .freeGC _ | .freeCursor _ | .destroyWindow _ =>
    inferInstanceAs (Decidable (_ ∈ _))
  | .ungrabPointer | .ungrabKeyboard => .isTrue trivial
  | .selectEvents | .createPixmap _ | .createGC _ _ | .polyFillRectangle _ _ | .createCursor _ _
  | .createWindow _ | .mapWindow _ | .grabPointer _ _ | .grabKeyboard _ | .queryPointer
  | .queryKeymap | .warpPointer _ _ => .isFalse id

def reply (server : GrantingXServer) : XRequest → XReply
  | .grabPointer _ _ | .grabKeyboard _ => .grab .success
  | .queryPointer => .pointer true server.rootX server.rootY
  | .queryKeymap => .keymap []
  | .freePixmap pixmap =>
    if XRequest.Returns server.held (.freePixmap pixmap) then .done else .error
  | .freeGC gc => if XRequest.Returns server.held (.freeGC gc) then .done else .error
  | .freeCursor cursor =>
    if XRequest.Returns server.held (.freeCursor cursor) then .done else .error
  | .destroyWindow window =>
    if XRequest.Returns server.held (.destroyWindow window) then .done else .error
  | _ => .done

instance : XServer GrantingXServer where
  held := held
  serve request server := (.ok (server.reply request),
    if (server.reply request).accepts request then
      { server with held := request.effect server.held }
    else server)

instance : LawfulXServer GrantingXServer where
  accepted request server reply server' hserved haccepts := by
    obtain ⟨hreply, rfl⟩ := Prod.mk.inj hserved
    obtain rfl := Except.ok.inj hreply
    rw [haccepts]
    rfl
  refused request server reply server' hserved hrefuses := by
    obtain ⟨hreply, rfl⟩ := Prod.mk.inj hserved
    obtain rfl := Except.ok.inj hreply
    rw [hrefuses]
    rfl
  returned request server reply server' hserved hreturns := by
    obtain ⟨hreply, -⟩ := Prod.mk.inj hserved
    obtain rfl := Except.ok.inj hreply
    have hheld : XRequest.Returns server.held request := hreturns
    cases request <;> simp_all [GrantingXServer.reply, XReply.accepts, XRequest.isGrab]

end GrantingXServer
end Mksync
