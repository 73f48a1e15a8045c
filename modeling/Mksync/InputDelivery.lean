import Mksync.ClientReadLoop
import Mksync.ServerSteps

/-!
# From the queues of the router to the injectors of the clients

A connection carries the bytes that the write loop of a session hands over to one client. A
message may be at any stage while anything else happens: enqueued, being written, on the way,
arrived in part, read, injected.
-/
namespace Mksync

open TransitionRuns ByteFrames RpcTransport ServerInputRouter Client

/-- One connection, from the write loop of its session to the client at its other end. -/
structure Link (I : Type) where
  /-- What is left of the frame the write loop is writing. -/
  outgoing : Bytes := []
  /-- A write failed and ended the write loop. -/
  broken : Bool := false
  /-- The bytes on the way. -/
  wire : Bytes := []
  inbox : Bytes := []
  client : Client (InjectorLog I)
  /-- The message that is read and not yet handled. -/
  pending : Option RpcMessage := none
  /-- The client's read loop has not ended. -/
  reading : Bool := true

namespace Link

variable {I : Type}

/-- The client of a new connection, with an injector of its own. -/
def connected (injector : I) : Link I := { client := { injector := ⟨injector, []⟩ } }

/-- The write loop starts to write a message. A failed write ends it. -/
def write (codec : RpcCodec) (message : RpcMessage) (link : Link I) : Link I :=
  match writeMessage codec message link.outgoing with
  | (.ok (), bytes) => { link with outgoing := bytes }
  | (.error _, bytes) => { link with outgoing := bytes, broken := true }

/-- The connection takes some bytes of the frame. -/
def transmit (count : Nat) (link : Link I) : Link I :=
  { link with
    wire := link.wire ++ link.outgoing.take count
    outgoing := link.outgoing.drop count }

/-- Some bytes arrive at the client. -/
def arrive (count : Nat) (link : Link I) : Link I :=
  { link with
    inbox := link.inbox ++ link.wire.take count
    wire := link.wire.drop count }

/-- The client reads a message that has arrived whole; for one that has not it waits. -/
def read (codec : RpcCodec) (link : Link I) : Option (Link I) :=
  if link.reading = true ∧ link.pending = none then
    match readMessage codec [link.inbox] with
    | (.ok message, rest) => some { link with inbox := rest.flatten, pending := some message }
    | (.error .unexpectedEof, _) => none
    | (.error _, rest) => some { link with inbox := rest.flatten, reading := false }
  else none

/-- The client's loop ends, with the connection or on its own. -/
def stop (link : Link I) : Link I := { link with reading := false }

/-- The client handles the message it has read. -/
def inject [InputInjector I] (link : Link I) : Option (Link I) :=
  match link.reading, link.pending with
  | true, some message =>
    match link.client.handleMessage message with
    | (.ok (), client) => some { link with client, pending := none }
    | (.error _, client) => some { link with client, pending := none, reading := false }
  | _, _ => none

/-! ### What a connection carries -/

/-- The messages taken by the write loop: those handled, whose events were passed to the
injector, and, as long as the client reads, the one that is read, those of the bytes that
are still to be read, and at most one that could not be written. -/
def Carries (codec : RpcCodec) (link : Link I) (taken : List RpcMessage) : Prop :=
  ∃ handled rest, taken = handled ++ rest ∧ link.client.injector.passed = inputs handled ∧
    (link.reading = true → ∃ flying lost, rest = link.pending.toList ++ (flying ++ lost) ∧
      link.inbox ++ (link.wire ++ link.outgoing) = writeMessages codec flying [] ∧
      (∀ message ∈ flying, fits codec message = true) ∧ (link.broken = false → lost = []))

section Carries

variable {codec : RpcCodec} {link link' : Link I} {taken : List RpcMessage}

theorem Carries.passed_prefix (h : link.Carries codec taken) :
    link.client.injector.passed <+: inputs taken := by
  obtain ⟨handled, rest, rfl, hpassed, -⟩ := h
  rw [hpassed, inputs_append]
  exact List.prefix_append _ _

theorem carries_connected (codec : RpcCodec) (injector : I) :
    (connected injector).Carries codec [] :=
  ⟨[], [], rfl, rfl, fun _ => ⟨[], [], rfl, rfl, nofun, fun _ => rfl⟩⟩

/-- What is written comes behind what is on the way. -/
theorem Carries.write (h : link.Carries codec taken) (hidle : link.outgoing = [])
    (hwriting : link.broken = false) (message : RpcMessage) :
    (link.write codec message).Carries codec (taken ++ [message]) := by
  obtain ⟨handled, rest, rfl, hpassed, hrest⟩ := h
  unfold Link.write
  rw [hidle]
  rcases writeMessage_cases codec message [] with
    ⟨hfits, frame, _, hwrite⟩ | ⟨_, error, hwrite⟩
  · rw [hwrite]
    refine ⟨handled, rest ++ [message], List.append_assoc _ _ _, hpassed, fun hreading => ?_⟩
    obtain ⟨flying, lost, hrest, hbytes, hflying, hlost⟩ := hrest hreading
    obtain rfl := hlost hwriting
    refine ⟨flying ++ [message], [], ?_, ?_, ?_, fun _ => rfl⟩
    · rw [hrest]
      simp
    · rw [writeMessages_snoc, writeMessage_append, hwrite, ← hbytes, hidle]
      simp
    · intro other hother
      rcases List.mem_append.mp hother with hother | hother
      · exact hflying other hother
      · rw [List.mem_singleton.mp hother]
        exact hfits
  · rw [hwrite]
    refine ⟨handled, rest ++ [message], List.append_assoc _ _ _, hpassed, fun hreading => ?_⟩
    obtain ⟨flying, lost, hrest, hbytes, hflying, hlost⟩ := hrest hreading
    obtain rfl := hlost hwriting
    refine ⟨flying, [message], ?_, ?_, hflying, nofun⟩
    · rw [hrest]
      simp
    · rw [← hbytes, hidle]

/-- Bytes that move on stay in their order. -/
theorem Carries.moved (h : link.Carries codec taken) (hclient : link'.client = link.client)
    (hpending : link'.pending = link.pending) (hreading : link'.reading = link.reading)
    (hbroken : link'.broken = link.broken)
    (hbytes : link'.inbox ++ (link'.wire ++ link'.outgoing) =
      link.inbox ++ (link.wire ++ link.outgoing)) : link'.Carries codec taken := by
  unfold Carries
  rw [hclient, hpending, hreading, hbroken, hbytes]
  exact h

theorem Carries.transmit (h : link.Carries codec taken) (count : Nat) :
    (link.transmit count).Carries codec taken := by
  refine h.moved rfl rfl rfl rfl ?_
  unfold Link.transmit
  rw [List.append_assoc, List.take_append_drop]

theorem Carries.arrive (h : link.Carries codec taken) (count : Nat) :
    (link.arrive count).Carries codec taken := by
  refine h.moved rfl rfl rfl rfl ?_
  unfold Link.arrive
  dsimp only
  rw [List.append_assoc, ← List.append_assoc _ _ link.outgoing, List.take_append_drop]

/-- A client that has ended handles nothing any more. -/
theorem Carries.ended (h : link.Carries codec taken) (hclient : link'.client = link.client)
    (hended : link'.reading = false) : link'.Carries codec taken := by
  obtain ⟨handled, rest, htaken, hpassed, -⟩ := h
  exact ⟨handled, rest, htaken, by rw [hclient, hpassed], by rw [hended]; exact nofun⟩

/-- The client reads the first of the messages on the way. -/
theorem Carries.read (hinverse : codec.Inverse) (h : link.Carries codec taken)
    (hread : link.read codec = some link') : link'.Carries codec taken := by
  unfold Link.read at hread
  split_ifs at hread with hwaits
  obtain ⟨hreading, hpending⟩ := hwaits
  split at hread
  next message rest hmessage =>
    cases hread
    obtain ⟨handled, rest', htaken, hpassed, hrest⟩ := h
    obtain ⟨flying, lost, rfl, hbytes, hflying, hlost⟩ := hrest hreading
    rw [hpending] at htaken
    have hwhole : [writeMessages codec flying []].flatten =
        [link.inbox].flatten ++ (link.wire ++ link.outgoing) := by
      simp [hbytes]
    obtain ⟨later, hlater, hbehind⟩ := readMessage_more hmessage nofun hwhole
    cases flying with
    | nil =>
      have hnothing : readMessage codec [writeMessages codec [] []] = (.error .unexpectedEof, []) :=
        readMessage_truncated codec (.header (by simp [writeMessages]))
      cases hlater.symm.trans hnothing
    | cons first flying =>
      obtain ⟨tail, hfirst, htail⟩ := readMessage_written hinverse
        (hflying first List.mem_cons_self) (List.flatten_singleton)
      obtain ⟨hsame, rfl⟩ := Prod.mk.inj (hlater.symm.trans hfirst)
      obtain rfl : message = first := Except.ok.inj hsame
      refine ⟨handled, message :: (flying ++ lost), htaken, hpassed, fun _ => ?_⟩
      refine ⟨flying, lost, rfl, hbehind.symm.trans htail, ?_, hlost⟩
      exact fun other hother => hflying other (List.mem_cons_of_mem _ hother)
  next => cases hread
  next =>
    cases hread
    exact h.ended rfl rfl

/-- Handling the message passes its event on. -/
theorem Carries.inject [InputInjector I] (h : link.Carries codec taken)
    (hinject : link.inject = some link') : link'.Carries codec taken := by
  unfold Link.inject at hinject
  split at hinject
  next message hreading hpending =>
    obtain ⟨handled, rest, rfl, hpassed, hrest⟩ := h
    obtain ⟨flying, lost, rfl, hbytes, hflying, hlost⟩ := hrest hreading
    have hhandled := handleMessage_passed message link.client
    rw [hpassed, ← inputs_append] at hhandled
    have htaken : handled ++ (link.pending.toList ++ (flying ++ lost)) =
        (handled ++ [message]) ++ (flying ++ lost) := by
      rw [hpending, List.append_assoc]
      rfl
    split at hinject
    next client hclient =>
      cases hinject
      rw [hclient] at hhandled
      exact ⟨handled ++ [message], flying ++ lost, htaken, hhandled,
        fun _ => ⟨flying, lost, rfl, hbytes, hflying, hlost⟩⟩
    next client hclient =>
      cases hinject
      rw [hclient] at hhandled
      exact ⟨handled ++ [message], flying ++ lost, htaken, hhandled, nofun⟩
  next => cases hinject

end Carries

end Link

/-- The server's host and the connections, by the peer's endpoint. A connection outlives its
session, as long as bytes are on the way. -/
structure Network (E C I : Type) [LinearOrder E] where
  host : Host E C
  links : OrderedMap E (Link I)
  /-- History: the messages for which `trySend` succeeded on the sender of the endpoint's
  session, in order. -/
  accepted : E → List RpcMessage

namespace Network

/-- What a host does with an accepted connection and with a taken message has actions of its
own here; all its other actions are as they are. -/
inductive Action (E C I : Type) [InputCapture C]
  | host (a : Mksync.Action E C)
  | connect (endpoint : E) (injector : I)
  | deliver (endpoint : E)
  | transmit (endpoint : E) (count : Nat)
  | arrive (endpoint : E) (count : Nat)
  | read (endpoint : E)
  | inject (endpoint : E)
  | stop (endpoint : E)

variable {E C I : Type} [Endpoint E] [InputCapture C] [InputInjector I]

def start (endpoint : E) (config : AppConfig) (configPath : String) (capture : C) : Network E C I :=
  ⟨.start endpoint config configPath capture, .empty, fun _ => []⟩

/-- A sender that is gone has accepted what it had accepted. -/
def observed (sender : Option Channel) (accepted : List RpcMessage) : List RpcMessage :=
  match sender with
  | some sender => sender.enqueued
  | none => accepted

def withHost (network : Network E C I) (host : Host E C) : Network E C I :=
  { network with
    host := host
    accepted := fun endpoint =>
      observed (host.server.mInput.mSenders.find? endpoint) (network.accepted endpoint) }

def withLink (network : Network E C I) (endpoint : E) (link : Link I) : Network E C I :=
  { network with links := network.links.insertOrAssign endpoint link }

def hostStep [EntryScaling] (network : Network E C I) (a : Mksync.Action E C) :
    Option (Network E C I) :=
  (network.host.step a).map network.withHost

def linkStep (network : Network E C I) (endpoint : E) (f : Link I → Option (Link I)) :
    Option (Network E C I) :=
  match network.links.find? endpoint with
  | none => none
  | some link => (f link).map (network.withLink endpoint)

/-- The session's loops are running. -/
def running (network : Network E C I) (endpoint : E) : Bool :=
  (network.host.sessions.find? endpoint).any (·.phase = .running)

/-- The message the write loop takes next. -/
def oldest (network : Network E C I) (endpoint : E) : Option RpcMessage :=
  (network.host.server.mInput.mSenders.find? endpoint).bind (·.queue.head?)

/-- Every connection has an endpoint of its own, and the write loop takes a message only when
the one before is written. -/
def step [EntryScaling] (codec : RpcCodec) (network : Network E C I) :
    Action E C I → Option (Network E C I)
  | .host (.accept _) => none
  | .host (.deliver _) => none
  | .host a => network.hostStep a
  | .connect endpoint injector =>
    if network.links.contains endpoint then none
    else (network.hostStep (.accept endpoint)).map (·.withLink endpoint (.connected injector))
  | .deliver endpoint =>
    match network.links.find? endpoint, network.oldest endpoint with
    | some link, some message =>
      if link.outgoing = [] ∧ link.broken = false then
        (network.hostStep (.deliver endpoint)).map (·.withLink endpoint (link.write codec message))
      else none
    | _, _ => none
  | .transmit endpoint count =>
    if network.running endpoint then
      network.linkStep endpoint fun link => some (link.transmit count)
    else none
  | .arrive endpoint count => network.linkStep endpoint fun link => some (link.arrive count)
  | .read endpoint => network.linkStep endpoint (Link.read codec)
  | .inject endpoint => network.linkStep endpoint Link.inject
  | .stop endpoint => network.linkStep endpoint fun link => some link.stop

end Network

/-! ### The invariant -/

/-- What holds of an endpoint's session, sender and connection, and of what the sender has
accepted: the connection carries what the write loop has taken, which comes first in what
was accepted. -/
structure PeerOk {I : Type} (codec : RpcCodec) (session : Option ServerSession)
    (sender : Option Channel) (link : Option (Link I)) (accepted : List RpcMessage) : Prop where
  carries : ∀ l, link = some l → ∃ taken, l.Carries codec taken ∧ taken <+: accepted ∧
    ∀ channel, sender = some channel → channel.taken = taken
  enqueued : ∀ channel, sender = some channel → accepted = channel.enqueued
  linked : session ≠ none → link ≠ none
  silent : ∀ s, session = some s → s.writing = false → sender = none ∧ accepted = []
  gone : session = none → sender = none
  fresh : link = none → accepted = []

namespace PeerOk

variable {I : Type} {codec : RpcCodec} {session session' : Option ServerSession}
  {sender sender' : Option Channel} {link : Option (Link I)} {accepted : List RpcMessage}

theorem none (codec : RpcCodec) : PeerOk codec none none (none : Option (Link I)) [] :=
  ⟨by simp, by simp, by simp, by simp, fun _ => rfl, fun _ => rfl⟩

/-- Without a connection there is nothing. -/
theorem of_unlinked (h : PeerOk codec session sender (.none : Option (Link I)) accepted) :
    session = .none ∧ sender = .none ∧ accepted = [] := by
  have hsession : session = .none := by
    by_contra hsome
    exact h.linked hsome rfl
  exact ⟨hsession, h.gone hsession, h.fresh rfl⟩

/-- A connection that carries the same messages. -/
theorem of_carries {l l' : Link I} (h : PeerOk codec session sender (some l) accepted)
    (hcarries : ∀ taken, l.Carries codec taken → l'.Carries codec taken) :
    PeerOk codec session sender (some l') accepted := by
  refine ⟨?_, h.enqueued, fun _ => nofun, h.silent, h.gone, nofun⟩
  rintro _ ⟨⟩
  obtain ⟨taken, hl, hinit, htaken⟩ := h.carries l rfl
  exact ⟨taken, hcarries taken hl, hinit, htaken⟩

section Steps

variable {E C : Type} [InputCapture C] {endpoint : E} {a : Action E C}

/-- The host's own steps keep it, but for those that connect and deliver, and what was
accepted stays accepted. -/
theorem hostStep (h : PeerOk codec session sender link accepted)
    (hstep : Host.PeerStep endpoint a session sender session' sender')
    (hconnect : a ≠ .accept endpoint) (hdeliver : a ≠ .deliver endpoint) :
    PeerOk codec session' sender' link (Network.observed sender' accepted) ∧
      accepted <+: Network.observed sender' accepted := by
  cases hstep with
  | accepted => exact absurd rfl hconnect
  | delivered => exact absurd rfl hdeliver
  | published silent =>
    obtain ⟨-, rfl⟩ := h.silent _ rfl silent
    refine ⟨⟨?_, ?_, fun _ => h.linked nofun, ?_, nofun, fun _ => rfl⟩, List.nil_prefix⟩
    · intro l hl
      obtain ⟨taken, hcarries, hinit, -⟩ := h.carries l hl
      obtain rfl := List.prefix_nil.mp hinit
      refine ⟨[], hcarries, List.nil_prefix, ?_⟩
      rintro _ ⟨⟩
      rfl
    · rintro _ ⟨⟩
      rfl
    · rintro _ ⟨⟩ hwriting
      cases hwriting
  | closed =>
    refine ⟨⟨?_, nofun, fun hnone => absurd rfl hnone, nofun, fun _ => rfl, h.fresh⟩,
      List.prefix_rfl⟩
    intro l hl
    obtain ⟨taken, hcarries, hinit, -⟩ := h.carries l hl
    exact ⟨taken, hcarries, hinit, nofun⟩
  | kept writing extended =>
    cases extended with
    | none =>
      cases writing with
      | none => exact ⟨h, List.prefix_rfl⟩
      | some hsame =>
        refine ⟨⟨h.carries, nofun, fun _ => h.linked nofun, ?_, nofun, h.fresh⟩, List.prefix_rfl⟩
        rintro _ ⟨⟩ hwriting
        exact h.silent _ rfl (hsame.symm.trans hwriting)
    | @some channel channel' hextends =>
      cases writing with
      | none => exact nomatch h.gone rfl
      | some hsame =>
        have hgrows : accepted <+: channel'.enqueued := by
          rw [h.enqueued channel rfl]
          exact hextends.enqueued
        refine ⟨⟨?_, ?_, fun _ => h.linked nofun, ?_, nofun, ?_⟩, hgrows⟩
        · intro l hl
          obtain ⟨taken, hcarries, -, htakes⟩ := h.carries l hl
          obtain rfl := htakes channel rfl
          refine ⟨channel.taken, hcarries, ?_, ?_⟩
          · rw [← hextends.1]
            exact List.prefix_append _ _
          · rintro _ ⟨⟩
            exact hextends.1
        · rintro _ ⟨⟩
          rfl
        · rintro _ ⟨⟩ hwriting
          exact nomatch (h.silent _ rfl (hsame.symm.trans hwriting)).1
        · intro hlink
          exact absurd hlink (h.linked nofun)

/-- A connection with an endpoint of its own starts with nothing. -/
theorem connect (h : PeerOk codec session sender (.none : Option (Link I)) accepted)
    (injector : I) (s : ServerSession) :
    PeerOk codec (some s) sender (some (.connected injector)) (Network.observed sender accepted) ∧
      accepted <+: Network.observed sender accepted := by
  obtain ⟨-, rfl, rfl⟩ := h.of_unlinked
  refine ⟨⟨?_, nofun, fun _ => nofun, fun _ _ _ => ⟨rfl, rfl⟩, nofun, nofun⟩, List.prefix_rfl⟩
  rintro _ ⟨⟩
  exact ⟨[], Link.carries_connected codec injector, List.prefix_rfl, nofun⟩

/-- The write loop takes the oldest message and starts to write it. -/
theorem deliver {s : ServerSession} {channel : Channel} {l : Link I} {message : RpcMessage}
    {rest : List RpcMessage} (h : PeerOk codec (some s) (some channel) (some l) accepted)
    (hqueue : channel.queue = message :: rest) (hidle : l.outgoing = [])
    (hwriting : l.broken = false) {channel' : Channel}
    (hchannel' : channel' = { channel with taken := channel.taken ++ [message], queue := rest }) :
    PeerOk codec (some s) (some channel') (some (l.write codec message))
        (Network.observed (some channel') accepted) ∧
      accepted <+: Network.observed (some channel') accepted := by
  obtain ⟨taken, hcarries, -, htaken⟩ := h.carries l rfl
  obtain rfl := htaken channel rfl
  have hsame : channel'.enqueued = channel.enqueued := by
    rw [hchannel', Channel.enqueued, Channel.enqueued, hqueue]
    simp
  refine ⟨⟨?_, ?_, by simp, ?_, by simp, by simp⟩, ?_⟩
  · rintro _ ⟨⟩
    refine ⟨channel.taken ++ [message], hcarries.write hidle hwriting message, ?_, ?_⟩
    · rw [hchannel']
      exact List.prefix_append _ _
    · rintro _ ⟨⟩
      rw [hchannel']
  · rintro _ ⟨⟩
    rfl
  · intro s' hs' hsilent
    cases (h.silent s' hs' hsilent).1
  · rw [h.enqueued channel rfl, ← hsame]
    exact List.prefix_rfl

end Steps

end PeerOk

namespace Network

section Runs

variable {E C I : Type} [Endpoint E] {codec : RpcCodec} {network network' : Network E C I}

/-- The invariant at every endpoint. -/
def InOrder (codec : RpcCodec) (network : Network E C I) : Prop :=
  ∀ endpoint, PeerOk codec (network.host.sessions.find? endpoint)
    (network.host.server.mInput.mSenders.find? endpoint) (network.links.find? endpoint)
    (network.accepted endpoint)

/-- The invariant holds, and what was accepted stays accepted. -/
def Grown (codec : RpcCodec) (network network' : Network E C I) : Prop :=
  InOrder codec network' ∧ ∀ endpoint, network.accepted endpoint <+: network'.accepted endpoint

/-- A step of one connection. -/
theorem InOrder.linkStep (h : InOrder codec network) {endpoint : E}
    {f : Link I → Option (Link I)}
    (hcarries : ∀ link link' taken, f link = some link' → link.Carries codec taken →
      link'.Carries codec taken)
    (hstep : network.linkStep endpoint f = some network') : Grown codec network network' := by
  unfold Network.linkStep at hstep
  cases hlink : network.links.find? endpoint with
  | none =>
    rw [hlink] at hstep
    cases hstep
  | some link =>
    rw [hlink] at hstep
    obtain ⟨link', hf, rfl⟩ := Option.map_eq_some_iff.mp hstep
    refine ⟨fun other => ?_, fun other => List.prefix_rfl⟩
    have hother := h other
    change PeerOk codec _ _ ((network.links.insertOrAssign endpoint link').find? other) _
    rw [OrderedMap.find?_insertOrAssign]
    split_ifs with heq
    · rw [heq, hlink] at hother
      rw [heq]
      exact hother.of_carries fun taken => hcarries link link' taken hf
    · exact hother

variable [InputCapture C]

theorem inOrder_start (codec : RpcCodec) (endpoint : E) (config : AppConfig) (configPath : String)
    (capture : C) : InOrder codec (start endpoint config configPath capture : Network E C I) :=
  fun _ => .none codec

variable [EntryScaling]

/-- What the host's step did, read off the senders. -/
theorem hostStep_eq_some {a : Mksync.Action E C} (h : network.hostStep a = some network') :
    ∃ host, Host.Stepped network.host a host ∧ network' = network.withHost host := by
  obtain ⟨host, hnext, rfl⟩ := Option.map_eq_some_iff.mp h
  exact ⟨host, Host.step_stepped hnext, rfl⟩

/-- A step that connects or delivers to nobody but the endpoint keeps the other links in
order. -/
theorem InOrder.grown_withLink (h : InOrder codec network) {a : Mksync.Action E C}
    {host : Host E C} {endpoint : E} {link : Link I} (hstepped : Host.Stepped network.host a host)
    (hconnect : ∀ other, other ≠ endpoint → a ≠ .accept other)
    (hdeliver : ∀ other, other ≠ endpoint → a ≠ .deliver other)
    (hown : PeerOk codec (host.sessions.find? endpoint)
        (host.server.mInput.mSenders.find? endpoint) (some link)
        (observed (host.server.mInput.mSenders.find? endpoint) (network.accepted endpoint)) ∧
      network.accepted endpoint <+:
        observed (host.server.mInput.mSenders.find? endpoint) (network.accepted endpoint)) :
    Grown codec network ((network.withHost host).withLink endpoint link) := by
  have hpeer : ∀ other, PeerOk codec (host.sessions.find? other)
      (host.server.mInput.mSenders.find? other)
      ((network.links.insertOrAssign endpoint link).find? other)
      (observed (host.server.mInput.mSenders.find? other) (network.accepted other)) ∧
      network.accepted other <+:
        observed (host.server.mInput.mSenders.find? other) (network.accepted other) := by
    intro other
    rw [OrderedMap.find?_insertOrAssign]
    split_ifs with heq
    · subst heq
      exact hown
    · exact (h other).hostStep (hstepped.peerStep other) (hconnect other heq) (hdeliver other heq)
  exact ⟨fun other => (hpeer other).1, fun other => (hpeer other).2⟩

theorem InOrder.connect (h : InOrder codec network) {endpoint : E} {injector : I}
    (hfresh : network.links.find? endpoint = none)
    (hstep : network.hostStep (.accept endpoint) = some network') :
    Grown codec network (network'.withLink endpoint (.connected injector)) := by
  obtain ⟨host, hstepped, rfl⟩ := hostStep_eq_some hstep
  refine h.grown_withLink hstepped (fun other hne hcon => hne (by cases hcon; rfl)) (by simp) ?_
  have hpeer := h endpoint
  rw [hfresh] at hpeer
  cases hstepped with
  | accepted remote fresh =>
    have hsession : (network.host.withSession endpoint {}).sessions.find? endpoint = some {} := by
      simp [Host.withSession]
    rw [hsession]
    exact hpeer.connect injector {}

theorem InOrder.deliver (h : InOrder codec network) {endpoint : E} {link : Link I}
    {message : RpcMessage} (hlink : network.links.find? endpoint = some link)
    (holdest : network.oldest endpoint = some message) (hidle : link.outgoing = [])
    (hwriting : link.broken = false)
    (hstep : network.hostStep (.deliver endpoint) = some network') :
    Grown codec network (network'.withLink endpoint (link.write codec message)) := by
  obtain ⟨host, hstepped, rfl⟩ := hostStep_eq_some hstep
  refine h.grown_withLink hstepped (by simp) (fun other hne hcon => hne (by cases hcon; rfl)) ?_
  have hpeer := h endpoint
  cases hstepped with
  | @delivered _ session channel channel' live phase sends taken =>
    unfold Network.oldest at holdest
    rw [sends] at holdest
    obtain ⟨rest, hqueue⟩ := List.head?_eq_some_iff.mp holdest
    unfold Channel.recv at taken
    rw [hqueue] at taken
    have hchannel' := (Option.some.inj taken).symm
    have hsender : (network.host.server.mInput.mSenders.insertOrAssign endpoint channel').find?
        endpoint = some channel' := by
      simp
    rw [live, sends, hlink] at hpeer
    change PeerOk codec (network.host.sessions.find? endpoint)
      ((network.host.server.mInput.mSenders.insertOrAssign endpoint channel').find? endpoint) _
        (observed ((network.host.server.mInput.mSenders.insertOrAssign endpoint channel').find?
          endpoint) _) ∧ _ <+: observed
            ((network.host.server.mInput.mSenders.insertOrAssign endpoint channel').find?
              endpoint) _
    rw [hsender, live]
    exact hpeer.deliver hqueue hidle hwriting hchannel'

variable [InputInjector I]

/-- The actions of the host are its own, but for those that connect and deliver. -/
theorem step_host {a : Mksync.Action E C} (h : network.step codec (.host a) = some network') :
    (∀ endpoint, a ≠ .accept endpoint) ∧ (∀ endpoint, a ≠ .deliver endpoint) ∧
      network.hostStep a = some network' := by
  cases a with
  | accept | deliver => cases h
  | _ => exact ⟨nofun, nofun, h⟩

theorem InOrder.step (hinverse : codec.Inverse) (h : InOrder codec network) {a : Action E C I}
    (hstep : network.step codec a = some network') : Grown codec network network' := by
  cases a with
  | host a =>
    obtain ⟨hconnect, hdeliver, hhost⟩ := step_host hstep
    obtain ⟨host, hstepped, rfl⟩ := hostStep_eq_some hhost
    have hpeer := fun endpoint =>
      (h endpoint).hostStep (hstepped.peerStep endpoint) (hconnect endpoint) (hdeliver endpoint)
    exact ⟨fun endpoint => (hpeer endpoint).1, fun endpoint => (hpeer endpoint).2⟩
  | connect endpoint injector =>
    unfold Network.step at hstep
    dsimp only at hstep
    split_ifs at hstep with hcontains
    have hfresh := OrderedMap.contains_eq_false.mp (Bool.eq_false_iff.mpr hcontains)
    obtain ⟨between, hhost, rfl⟩ := Option.map_eq_some_iff.mp hstep
    exact h.connect hfresh hhost
  | deliver endpoint =>
    unfold Network.step at hstep
    dsimp only at hstep
    split at hstep
    next link message hlink holdest =>
      split_ifs at hstep with hready
      obtain ⟨between, hhost, rfl⟩ := Option.map_eq_some_iff.mp hstep
      exact h.deliver hlink holdest hready.1 hready.2 hhost
    next => cases hstep
  | transmit endpoint count =>
    unfold Network.step at hstep
    dsimp only at hstep
    split_ifs at hstep with hrunning
    refine h.linkStep ?_ hstep
    rintro link _ taken ⟨⟩ hcarries
    exact hcarries.transmit count
  | arrive endpoint count =>
    refine h.linkStep ?_ hstep
    rintro link _ taken ⟨⟩ hcarries
    exact hcarries.arrive count
  | read endpoint =>
    refine h.linkStep ?_ hstep
    intro link link' taken hread hcarries
    exact hcarries.read hinverse hread
  | inject endpoint =>
    refine h.linkStep ?_ hstep
    intro link link' taken hinject hcarries
    exact hcarries.inject hinject
  | stop endpoint =>
    refine h.linkStep ?_ hstep
    rintro link _ taken ⟨⟩ hcarries
    exact hcarries.ended rfl rfl

theorem run_inOrder (hinverse : codec.Inverse) {as : List (Action E C I)}
    {guard : Network E C I → Action E C I → Network E C I → Prop} (h : InOrder codec network)
    (hrun : Run (step codec) guard network as network') : Grown codec network network' := by
  refine hrun.invariant (Grown codec network) ?_ ⟨h, fun _ => List.prefix_rfl⟩
  intro s a t hs _ hnext
  have hgrown := hs.1.step hinverse hnext
  exact ⟨hgrown.1, fun endpoint => (hs.2 endpoint).trans (hgrown.2 endpoint)⟩

/-- Whatever is interleaved, the events passed to the injector of a connection are a prefix
of the events that the sender of its session accepted, in their order; and the account of
what was accepted only grows, and is the sender's own as long as there is one. -/
theorem injected_prefix_of_accepted (hinverse : codec.Inverse) {endpoint : E}
    {config : AppConfig} {configPath : String} {capture : C} {as bs : List (Action E C I)}
    (h : Run (step codec) unguarded (start endpoint config configPath capture) as network)
    (hlater : Run (step codec) unguarded network bs network') :
    (∀ peer link, network.links.find? peer = some link →
      link.client.injector.passed <+: inputs (network.accepted peer)) ∧
    (∀ peer channel, network.host.server.mInput.mSenders.find? peer = some channel →
      network.accepted peer = channel.enqueued) ∧
    ∀ peer, network.accepted peer <+: network'.accepted peer := by
  have horder := (run_inOrder hinverse (inOrder_start codec endpoint config configPath capture) h).1
  refine ⟨?_, fun peer => (horder peer).enqueued, (run_inOrder hinverse horder hlater).2⟩
  intro peer link hlink
  obtain ⟨taken, hcarries, hinit, -⟩ := (horder peer).carries link hlink
  exact hcarries.passed_prefix.trans (hinit.filterMap _)

end Runs

/-! ### One event on its way -/

/-- The move to the entry pixel of the guest's screen. -/
def entryMove : InputEvent := moveTo ⟨⟨"m", 0⟩, 0, 474⟩

/-- A codec that knows the text of the entry move. -/
def entryCodec : RpcCodec where
  hello := ⟨fun _ => none, fun _ => none⟩
  screens := ⟨fun _ => none, fun _ => none⟩
  input := knowing ⟨entryMove⟩
    "\x7b\"event\":\x7b\"x\":0,\"y\":474,\"screenIndex\":0,\"deltaX\":0,\"deltaY\":0\x7d\x7d"
  ping := ⟨fun _ => none, fun _ => none⟩
  pong := ⟨fun _ => none, fun _ => none⟩
  error := ⟨fun _ => none, fun _ => none⟩

theorem entryCodec_inverse : entryCodec.Inverse where
  hello := nofun
  screens := nofun
  input := knowing_inverse _ _
  ping := nofun
  pong := nofun
  error := nofun

/-- A guest connects, the cursor crosses to its screen, and the entry move travels in two
pieces. -/
def crossingDelivered : List (Action IPv4Endpoint MockInputCapture ScriptedInjector) :=
  [.host (.registerLocal [deskMonitor]), .connect (loopback 1001) {},
    .host (.receive (loopback 1001) (.hello { machineId := "m" })),
    .host (.publish (loopback 1001)),
    .host (.receive (loopback 1001) (.screens ⟨[sideMonitor]⟩)),
    .host (.captured (.mouseMove { x := 1919, y := 500 })), .deliver (loopback 1001),
    .transmit (loopback 1001) 3, .arrive (loopback 1001) 2, .transmit (loopback 1001) 200,
    .arrive (loopback 1001) 200, .read (loopback 1001), .inject (loopback 1001)]

theorem injected_prefix_of_accepted_entryMove :
    ∃ network : Network IPv4Endpoint MockInputCapture ScriptedInjector,
      Run (step entryCodec) unguarded (start (loopback 24800) { machineId := "desk" } "" {})
        crossingDelivered network ∧
      ∃ link, network.links.find? (loopback 1001) = some link ∧
        link.client.injector.passed = [entryMove] ∧
        [entryMove] <+: inputs (network.accepted (loopback 1001)) := by
  obtain ⟨network, hrun, hp⟩ := exists_run_of_execute (step entryCodec) (fun _ _ _ => true)
    (start (loopback 24800) { machineId := "desk" } "" {}) crossingDelivered
    (fun network => (network.links.find? (loopback 1001)).any fun link =>
      link.client.injector.passed = [entryMove])
    (fun _ _ _ _ => trivial) (by decide +kernel)
  obtain ⟨link, hlink, hpassed⟩ := (Option.any_eq_true _ _).mp hp
  have hinit := (injected_prefix_of_accepted entryCodec_inverse hrun (.refl network)).1 _ _ hlink
  rw [of_decide_eq_true hpassed] at hinit
  exact ⟨network, hrun, link, hlink, of_decide_eq_true hpassed, hinit⟩

end Network

end Mksync
