import Mksync.RpcTransport

/-!
# The client's read loop

The client reads messages until an error ends the loop. Every input message is passed to the
injector of the platform, whose answer may be an error as well.
-/
namespace Mksync

open ByteFrames RpcTransport

/-- A platform's injector. It answers an event with success or an error code. -/
class InputInjector (I : Type) where
  inject : InputEvent → I → Except Nat Unit × I

/-- An injector that answers as it is told, and accepts once it was told everything. -/
structure ScriptedInjector where
  answers : List (Except Nat Unit) := []

instance : InputInjector ScriptedInjector where
  inject _ injector :=
    match injector.answers with
    | [] => (.ok (), injector)
    | answer :: answers => (answer, ⟨answers⟩)

/-- An injector together with the events passed to it, oldest first. -/
structure InjectorLog (I : Type) where
  inner : I
  passed : List InputEvent := []

instance {I : Type} [InputInjector I] : InputInjector (InjectorLog I) where
  inject event log :=
    let (answer, inner) := InputInjector.inject event log.inner
    (answer, ⟨inner, log.passed ++ [event]⟩)

/-- The client's state in its read loop. -/
structure Client (I : Type) where
  injector : I
  mLastInjectedMouseScreen : Option Nat := none

namespace Client

/-- The events of the input messages. -/
def inputs (messages : List RpcMessage) : List InputEvent :=
  messages.filterMap fun
    | .input message => some message.event
    | _ => none

variable {I : Type} [InputInjector I]

/-- Everything but an input message is only traced. -/
def handleMessage (message : RpcMessage) (client : Client I) : Except IoError Unit × Client I :=
  match message with
  | .input ⟨event⟩ =>
    match InputInjector.inject event client.injector with
    | (.error code, injector) => (.error (.platform code), { client with injector })
    | (.ok (), injector) =>
      match event with
      | .mouseMove move =>
        (.ok (), ⟨injector, some move.screenIndex⟩)
      | _ => (.ok (), { client with injector })
  | _ => (.ok (), client)

/-- The loop reads a message and handles it, until one of the two fails. -/
def handleRead (codec : RpcCodec) (chunks : Chunks) (client : Client I) : IoError × Client I :=
  match _h : readMessage codec chunks with
  | (.error error, _) => (error, client)
  | (.ok message, rest) =>
    match client.handleMessage message with
    | (.error error, client) => (error, client)
    | (.ok (), client) => client.handleRead codec rest
termination_by chunks.flatten.length
decreasing_by exact readMessage_length _h

/-- The messages handled one after the other, up to the first failure. -/
def handleMessages : List RpcMessage → Client I → Except IoError Unit × Client I
  | [], client => (.ok (), client)
  | message :: messages, client =>
    match client.handleMessage message with
    | (.error error, client) => (.error error, client)
    | (.ok (), client) => handleMessages messages client

/-- The loop handles what the stream holds, and ends with the stream if that succeeds. -/
theorem handleRead_eq (codec : RpcCodec) (chunks : Chunks) (client : Client I) :
    client.handleRead codec chunks =
      match handleMessages (received codec chunks).1 client with
      | (.error error, client) => (error, client)
      | (.ok (), client) => ((received codec chunks).2, client) := by
  induction chunks using received.induct codec generalizing client with
  | case1 chunks error rest h =>
    rw [received_of_error h, handleRead]
    split
    next heq => cases h.symm.trans heq; rfl
    next heq => cases h.symm.trans heq
  | case2 chunks message rest h ih =>
    rw [received_of_ok h, handleRead]
    split
    next heq => cases h.symm.trans heq
    next heq =>
      cases h.symm.trans heq
      simp only [handleMessages]
      cases client.handleMessage message with
      | mk answer client =>
        cases answer with
        | error error => rfl
        | ok => exact ih client

/-- The injector accepts the events, one after the other. -/
def InjectsAll : I → List InputEvent → Prop
  | _, [] => True
  | injector, event :: events =>
    ∃ after, InputInjector.inject event injector = (.ok (), after) ∧ InjectsAll after events

theorem handleMessage_injected {client : Client (InjectorLog I)} {event : InputEvent} {after : I}
    (h : InputInjector.inject event client.injector.inner = (.ok (), after)) :
    ∃ client' : Client (InjectorLog I),
      client.handleMessage (.input ⟨event⟩) = (.ok (), client') ∧
      client'.injector = ⟨after, client.injector.passed ++ [event]⟩ := by
  cases event <;> simp [handleMessage, InputInjector.inject, h]

theorem handleMessage_refused {client : Client (InjectorLog I)} {event : InputEvent} {code : Nat}
    {after : I} (h : InputInjector.inject event client.injector.inner = (.error code, after)) :
    ∃ client' : Client (InjectorLog I),
      client.handleMessage (.input ⟨event⟩) = (.error (.platform code), client') := by
  cases event <;> simp [handleMessage, InputInjector.inject, h]

@[simp] theorem inputs_append (messages messages' : List RpcMessage) :
    inputs (messages ++ messages') = inputs messages ++ inputs messages' :=
  List.filterMap_append

/-- A message passes its event on, whatever the injector answers. -/
theorem handleMessage_passed (message : RpcMessage) (client : Client (InjectorLog I)) :
    (client.handleMessage message).2.injector.passed =
      client.injector.passed ++ inputs [message] := by
  cases message with
  | input message =>
    obtain ⟨event⟩ := message
    cases hanswer : InputInjector.inject event client.injector.inner with
    | mk answer after =>
      cases answer <;> cases event <;> simp [handleMessage, InputInjector.inject, hanswer, inputs]
  | _ => simp [handleMessage, inputs]

/-- Every event of the messages is passed on if none is refused. -/
theorem handleMessages_injectsAll {messages : List RpcMessage} {client : Client (InjectorLog I)}
    (h : InjectsAll client.injector.inner (inputs messages)) :
    ∃ client', handleMessages messages client = (.ok (), client') ∧
      client'.injector.passed = client.injector.passed ++ inputs messages := by
  induction messages generalizing client with
  | nil => exact ⟨client, rfl, by simp [inputs]⟩
  | cons message messages ih =>
    cases message with
    | input message =>
      obtain ⟨event⟩ := message
      obtain ⟨after, hafter, hrest⟩ := h
      obtain ⟨next, hnext, hinjector⟩ := handleMessage_injected hafter
      have hnextInjects : InjectsAll next.injector.inner (inputs messages) := by
        rw [hinjector]
        exact hrest
      obtain ⟨client', hlater, hpassed⟩ := ih hnextInjects
      refine ⟨client', by simpa [handleMessages, hnext] using hlater, ?_⟩
      rw [hpassed, hinjector]
      simp [inputs]
    | _ => exact ih h

/-- The first refusal ends the loop with the platform's error. -/
theorem handleMessages_refused {messages : List RpcMessage} {client : Client (InjectorLog I)}
    (h : ¬ InjectsAll client.injector.inner (inputs messages)) :
    ∃ code client', handleMessages messages client = (.error (.platform code), client') := by
  induction messages generalizing client with
  | nil => exact absurd trivial h
  | cons message messages ih =>
    cases message with
    | input message =>
      obtain ⟨event⟩ := message
      cases hanswer : InputInjector.inject event client.injector.inner with
      | mk answer after =>
        cases answer with
        | error code =>
          obtain ⟨client', hclient⟩ := handleMessage_refused hanswer
          exact ⟨code, client', by simp [handleMessages, hclient]⟩
        | ok =>
          obtain ⟨next, hnext, hinjector⟩ := handleMessage_injected hanswer
          have hlater : ¬ InjectsAll next.injector.inner (inputs messages) := by
            rw [hinjector]
            exact fun hrest => h ⟨after, hanswer, hrest⟩
          obtain ⟨code, client', hclient⟩ := ih hlater
          exact ⟨code, client', by simpa [handleMessages, hnext] using hclient⟩
    | _ => exact ih h

/-- The loop ends with the stream, and every event of the stream was passed to the injector. -/
def Survives (codec : RpcCodec) (chunks : Chunks) (client : Client (InjectorLog I)) : Prop :=
  (client.handleRead codec chunks).1.isTransport = true ∧
  (client.handleRead codec chunks).2.injector.passed =
    client.injector.passed ++ inputs (received codec chunks).1

/-- The client survives a stream if and only if its injector refuses none of the events. -/
theorem survives_iff_injectsAll (codec : RpcCodec) (chunks : Chunks)
    (client : Client (InjectorLog I)) : Survives codec chunks client ↔
      InjectsAll client.injector.inner (inputs (received codec chunks).1) := by
  rw [Survives, handleRead_eq]
  constructor
  · intro h
    by_contra hrefused
    obtain ⟨code, client', hclient⟩ := handleMessages_refused hrefused
    rw [hclient] at h
    exact absurd h.1 (by simp [IoError.isTransport])
  · intro h
    obtain ⟨client', hclient, hpassed⟩ := handleMessages_injectsAll h
    rw [hclient]
    exact ⟨received_isTransport codec chunks, hpassed⟩

/-- A key the capturing backend has no usage for. -/
def unmappedKey : InputEvent := .key { key := .none, nativeCode := 240 }

def keyCodec : RpcCodec where
  hello := ⟨fun _ => none, fun _ => none⟩
  screens := ⟨fun _ => none, fun _ => none⟩
  input := knowing ⟨unmappedKey⟩ "\x7b\"event\":\x7b\"key\":0,\"nativeCode\":240\x7d\x7d"
  ping := ⟨fun _ => none, fun _ => none⟩
  pong := ⟨fun _ => none, fun _ => none⟩
  error := ⟨fun _ => none, fun _ => none⟩

/-- The server forwards the key twice. -/
def unmappedKeyTwice : Chunks :=
  [writeMessages keyCodec [.input ⟨unmappedKey⟩, .input ⟨unmappedKey⟩] []]

/-- One refused event ends the connection. -/
theorem refused_key_ends_client : ¬ Survives keyCodec unmappedKeyTwice
    { injector := { inner := ({ answers := [.error 22] } : ScriptedInjector) } } := by
  rw [Survives, handleRead]
  have hread : readMessage keyCodec unmappedKeyTwice = (.ok (.input ⟨unmappedKey⟩),
      [writeMessages keyCodec [.input ⟨unmappedKey⟩] []]) := by decide +kernel
  split
  next heq => cases hread.symm.trans heq
  next heq =>
    cases hread.symm.trans heq
    exact fun h => absurd h.1 (by decide)

end Client
end Mksync
