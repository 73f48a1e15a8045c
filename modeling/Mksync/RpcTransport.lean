import Mksync.ByteFrames
import Mksync.RpcMessages

/-!
# Messages on the wire

A message is written as one frame: the size and the id of its payload, then the payload. The
serialization library is a parameter; a payload that does not serialize or does not fit is
not written at all.
-/
namespace Mksync

open ByteFrames

inductive RpcError
  | ok | messageTooLarge | unknownMessageType | protocolError
  deriving DecidableEq, Repr

/-- An error code, by its category. -/
inductive IoError
  | unexpectedEof
  | rpc (error : RpcError)
  | platform (code : Nat)
  deriving DecidableEq, Repr

/-- The stream or its framing failed, not the platform. -/
def IoError.isTransport : IoError → Bool
  | .platform _ => false
  | _ => true

/-- `enum class MessageId : uint16_t`. An id read off the wire need not be one of these. -/
structure MessageId where
  code : UInt16
  deriving DecidableEq, Repr

namespace MessageId

def hello : MessageId := ⟨0⟩
def screens : MessageId := ⟨1⟩
def input : MessageId := ⟨2⟩
def ping : MessageId := ⟨3⟩
def pong : MessageId := ⟨4⟩
def error : MessageId := ⟨0xFFFF⟩

end MessageId

def RpcMessage.id : RpcMessage → MessageId
  | .hello _ => .hello
  | .screens _ => .screens
  | .input _ => .input
  | .ping _ => .ping
  | .pong _ => .pong
  | .error _ => .error

/-- The `Serializer` and `Deserializer` of one payload type. -/
structure PayloadCodec (T : Type) where
  serialize : T → Option Bytes
  deserialize : Bytes → Option T

/-- What was serialized deserializes to itself. -/
def PayloadCodec.Inverse {T : Type} (codec : PayloadCodec T) : Prop :=
  ∀ value bytes, codec.serialize value = some bytes → codec.deserialize bytes = some value

structure RpcCodec where
  hello : PayloadCodec HelloMessage
  screens : PayloadCodec ScreensMessage
  input : PayloadCodec InputMessage
  ping : PayloadCodec PingMessage
  pong : PayloadCodec PongMessage
  error : PayloadCodec ErrorMessage

namespace RpcCodec

structure Inverse (codec : RpcCodec) : Prop where
  hello : codec.hello.Inverse
  screens : codec.screens.Inverse
  input : codec.input.Inverse
  ping : codec.ping.Inverse
  pong : codec.pong.Inverse
  error : codec.error.Inverse

def serialize (codec : RpcCodec) : RpcMessage → Option Bytes
  | .hello message => codec.hello.serialize message
  | .screens message => codec.screens.serialize message
  | .input message => codec.input.serialize message
  | .ping message => codec.ping.serialize message
  | .pong message => codec.pong.serialize message
  | .error message => codec.error.serialize message

end RpcCodec

namespace RpcTransport

/-! ### Writing -/

def writeHeader (size : UInt16) (id : MessageId) (stream : Bytes) : Bytes :=
  stream ++ (u16Be size ++ u16Be id.code)

def writeMessage (codec : RpcCodec) (message : RpcMessage) (stream : Bytes) :
    Except RpcError Unit × Bytes :=
  match codec.serialize message with
  | none => (.error .unknownMessageType, stream)
  | some buffer =>
    if buffer.length > 65535 then (.error .messageTooLarge, stream)
    else (.ok (), writeHeader (UInt16.ofNat buffer.length) message.id stream ++ buffer)

/-- The messages written one after the other, whatever becomes of each. -/
def writeMessages (codec : RpcCodec) (messages : List RpcMessage) (stream : Bytes) : Bytes :=
  messages.foldl (fun stream message => (writeMessage codec message stream).2) stream

/-- The write succeeds: the payload serializes and fits a frame. -/
def fits (codec : RpcCodec) (message : RpcMessage) : Bool :=
  (codec.serialize message).any (·.length ≤ 65535)

/-- The messages that are written. -/
def written (codec : RpcCodec) (messages : List RpcMessage) : List RpcMessage :=
  messages.filter (fits codec)

/-- The frame of a message. -/
def IsFrameOf (codec : RpcCodec) (message : RpcMessage) (frame : Frame) : Prop :=
  frame.id = message.id.code ∧ codec.serialize message = some frame.payload

/-- A write appends the message's frame, or it fails and appends nothing. -/
theorem writeMessage_cases (codec : RpcCodec) (message : RpcMessage) (stream : Bytes) :
    (fits codec message = true ∧ ∃ frame, IsFrameOf codec message frame ∧
      writeMessage codec message stream = (.ok (), stream ++ frame.bytes)) ∨
    (fits codec message = false ∧
      ∃ error, writeMessage codec message stream = (.error error, stream)) := by
  cases hserialize : codec.serialize message with
  | none => exact .inr ⟨by simp [fits, hserialize], _, by simp [writeMessage, hserialize]; rfl⟩
  | some buffer =>
    by_cases hlarge : buffer.length > 65535
    · refine .inr ⟨by simp [fits, hserialize]; omega, .messageTooLarge, ?_⟩
      simp [writeMessage, hserialize, hlarge]
    · let frame : Frame := ⟨message.id.code, buffer, by omega⟩
      refine .inl ⟨by simp [fits, hserialize]; omega, frame, ⟨rfl, hserialize⟩, ?_⟩
      simp [writeMessage, hserialize, hlarge, writeHeader, frame, Frame.bytes, Frame.size]

theorem writeMessage_append (codec : RpcCodec) (message : RpcMessage) (stream : Bytes) :
    (writeMessage codec message stream).2 = stream ++ (writeMessage codec message []).2 := by
  unfold writeMessage
  split
  · simp
  · split_ifs <;> simp [writeHeader]

theorem writeMessages_append (codec : RpcCodec) (messages : List RpcMessage) (stream : Bytes) :
    writeMessages codec messages stream = stream ++ writeMessages codec messages [] := by
  induction messages generalizing stream with
  | nil => simp [writeMessages]
  | cons message messages ih =>
    have hnext (stream : Bytes) : writeMessages codec (message :: messages) stream =
      writeMessages codec messages (writeMessage codec message stream).2 := rfl
    rw [hnext, hnext, ih, writeMessage_append, ih (writeMessage codec message []).2,
      List.append_assoc]

/-- The first message of a series is written first. -/
theorem writeMessages_cons (codec : RpcCodec) (message : RpcMessage) (messages : List RpcMessage) :
    writeMessages codec (message :: messages) [] =
      (writeMessage codec message []).2 ++ writeMessages codec messages [] :=
  writeMessages_append codec messages (writeMessage codec message []).2

theorem writeMessages_snoc (codec : RpcCodec) (messages : List RpcMessage) (message : RpcMessage) :
    writeMessages codec (messages ++ [message]) [] =
      (writeMessage codec message (writeMessages codec messages [])).2 := by
  simp [writeMessages]

/-! ### Reading -/

def readHeader (chunks : Chunks) : Except IoError (UInt16 × MessageId) × Chunks :=
  match readU16Be chunks with
  | (none, rest) => (.error .unexpectedEof, rest)
  | (some size, rest) =>
    match readU16Be rest with
    | (none, rest) => (.error .unexpectedEof, rest)
    | (some id, rest) => (.ok (size, ⟨id⟩), rest)

def parser {T : Type} (codec : PayloadCodec T) (buffer : Bytes) : Except RpcError T :=
  match codec.deserialize buffer with
  | none => .error .unknownMessageType
  | some result => .ok result

/-- The alternatives of the variant are tried in their order. -/
def findById (codec : RpcCodec) (targetId : MessageId) (buffer : Bytes) :
    Except RpcError RpcMessage :=
  if targetId = .hello then (parser codec.hello buffer).map .hello
  else if targetId = .screens then (parser codec.screens buffer).map .screens
  else if targetId = .input then (parser codec.input buffer).map .input
  else if targetId = .ping then (parser codec.ping buffer).map .ping
  else if targetId = .pong then (parser codec.pong buffer).map .pong
  else if targetId = .error then (parser codec.error buffer).map .error
  else .error .unknownMessageType

def readMessage (codec : RpcCodec) (chunks : Chunks) : Except IoError RpcMessage × Chunks :=
  match readHeader chunks with
  | (.error error, rest) => (.error error, rest)
  | (.ok (size, id), rest) =>
    match readAll size.toNat rest with
    | (none, rest) => (.error .unexpectedEof, rest)
    | (some buffer, rest) => ((findById codec id buffer).mapError .rpc, rest)

/-- So many calls in a row, whatever each returns. -/
def readMessages (codec : RpcCodec) : Nat → Chunks → List (Except IoError RpcMessage) × Chunks
  | 0, chunks => ([], chunks)
  | n + 1, chunks =>
    let (message, rest) := readMessage codec chunks
    let (messages, rest) := readMessages codec n rest
    (message :: messages, rest)

/-- A whole frame is consumed, whatever its payload is. -/
theorem readMessage_frame (codec : RpcCodec) {chunks : Chunks} {frame : Frame} {tail : Bytes}
    (h : chunks.flatten = frame.bytes ++ tail) :
    ∃ rest, readMessage codec chunks =
        ((findById codec ⟨frame.id⟩ frame.payload).mapError .rpc, rest) ∧
      rest.flatten = tail := by
  rw [Frame.bytes, List.append_assoc, List.append_assoc] at h
  obtain ⟨afterSize, hsize, h⟩ := readU16Be_append h
  obtain ⟨afterId, hid, h⟩ := readU16Be_append h
  obtain ⟨rest, hpayload, htail⟩ := readAll_append h
  rw [← frame.toNat_size] at hpayload
  exact ⟨rest, by simp [readMessage, readHeader, hsize, hid, hpayload], htail⟩

/-- A stream that ends inside a frame is read to its end. -/
theorem readMessage_truncated (codec : RpcCodec) {chunks : Chunks} (h : Truncated chunks.flatten) :
    readMessage codec chunks = (.error .unexpectedEof, []) := by
  generalize hbytes : chunks.flatten = bytes at h
  cases h with
  | header short =>
    by_cases hsize : bytes.length < 2
    · rw [← hbytes] at hsize
      simp [readMessage, readHeader, readU16Be_short hsize]
    · have hfront : bytes = u16Be (ofU16Be (bytes.take 2)) ++ bytes.drop 2 := by
        rw [u16Be_ofU16Be (by rw [List.length_take]; omega), List.take_append_drop]
      obtain ⟨afterSize, hread, hrest⟩ := readU16Be_append (hbytes.trans hfront)
      have hid : afterSize.flatten.length < 2 := by
        rw [hrest, List.length_drop]
        omega
      simp [readMessage, readHeader, hread, readU16Be_short hid]
  | payload size id short =>
    obtain ⟨afterSize, hsize, h⟩ := readU16Be_append hbytes
    obtain ⟨afterId, hid, h⟩ := readU16Be_append h
    rw [← h] at short
    simp [readMessage, readHeader, hsize, hid, readAll_short short]

/-- A message that was read came off the stream. -/
theorem readMessage_length {codec : RpcCodec} {chunks rest : Chunks} {message : RpcMessage}
    (h : readMessage codec chunks = (.ok message, rest)) :
    rest.flatten.length < chunks.flatten.length := by
  rcases frame_or_truncated chunks.flatten with ⟨frame, tail, hframe⟩ | htruncated
  · obtain ⟨after, hafter, htail⟩ := readMessage_frame codec hframe
    obtain rfl : after = rest := (Prod.mk.inj (hafter.symm.trans h)).2
    rw [htail, hframe]
    simp [Frame.bytes]
    omega
  · rw [readMessage_truncated codec htruncated] at h
    cases h

/-- The frame of a message reads back as the message. -/
theorem findById_isFrameOf {codec : RpcCodec} (hinverse : codec.Inverse) {message : RpcMessage}
    {frame : Frame} (h : IsFrameOf codec message frame) :
    findById codec ⟨frame.id⟩ frame.payload = .ok message := by
  obtain ⟨hid, hpayload⟩ := h
  rw [hid]
  cases message with
  | hello => simp [findById, RpcMessage.id, parser, hinverse.hello _ _ hpayload, Except.map]
  | screens => simp [findById, RpcMessage.id, parser, hinverse.screens _ _ hpayload, Except.map,
      MessageId.hello, MessageId.screens]
  | input => simp [findById, RpcMessage.id, parser, hinverse.input _ _ hpayload, Except.map,
      MessageId.hello, MessageId.screens, MessageId.input]
  | ping => simp [findById, RpcMessage.id, parser, hinverse.ping _ _ hpayload, Except.map,
      MessageId.hello, MessageId.screens, MessageId.input, MessageId.ping]
  | pong => simp [findById, RpcMessage.id, parser, hinverse.pong _ _ hpayload, Except.map,
      MessageId.hello, MessageId.screens, MessageId.input, MessageId.ping, MessageId.pong]
  | error => simp [findById, RpcMessage.id, parser, hinverse.error _ _ hpayload, Except.map,
      MessageId.hello, MessageId.screens, MessageId.input, MessageId.ping, MessageId.pong,
      MessageId.error]

/-- At the end of the stream every call reports it. -/
theorem readMessages_nil (codec : RpcCodec) (n : Nat) {chunks : Chunks} (h : chunks.flatten = []) :
    (readMessages codec n chunks).1 = List.replicate n (.error .unexpectedEof) := by
  induction n generalizing chunks with
  | zero => rfl
  | succ n ih =>
    have hread : readMessage codec chunks = (.error .unexpectedEof, []) :=
      readMessage_truncated codec (h ▸ .header (by simp))
    have hlater : (readMessages codec n []).1 = List.replicate n (.error .unexpectedEof) := ih rfl
    simp [readMessages, hread, hlater, List.replicate_succ]

/-- The first of the messages written reads back and leaves the others. -/
theorem readMessage_written {codec : RpcCodec} (hinverse : codec.Inverse) {message : RpcMessage}
    (hfits : fits codec message = true) {messages : List RpcMessage} {chunks : Chunks}
    (h : chunks.flatten = writeMessages codec (message :: messages) []) :
    ∃ rest, readMessage codec chunks = (.ok message, rest) ∧
      rest.flatten = writeMessages codec messages [] := by
  rw [writeMessages_cons] at h
  rcases writeMessage_cases codec message [] with
    ⟨_, frame, hframe, hwrite⟩ | ⟨hno, _⟩
  · rw [hwrite, List.nil_append] at h
    obtain ⟨rest, hread, hrest⟩ := readMessage_frame codec h
    refine ⟨rest, ?_, hrest⟩
    rw [hread, findById_isFrameOf hinverse hframe]
    rfl
  · rw [hno] at hfits
    cases hfits

/-- A message that has arrived whole is read the same whatever arrives behind it. -/
theorem readMessage_more {codec : RpcCodec} {chunks rest longer : Chunks}
    {result : Except IoError RpcMessage} {more : Bytes}
    (h : readMessage codec chunks = (result, rest)) (hresult : result ≠ .error .unexpectedEof)
    (hlonger : longer.flatten = chunks.flatten ++ more) :
    ∃ rest', readMessage codec longer = (result, rest') ∧
      rest'.flatten = rest.flatten ++ more := by
  rcases frame_or_truncated chunks.flatten with ⟨frame, tail, hframe⟩ | htruncated
  · obtain ⟨after, hafter, htail⟩ := readMessage_frame codec hframe
    obtain ⟨hsame, rfl⟩ := Prod.mk.inj (hafter.symm.trans h)
    have hfront : longer.flatten = frame.bytes ++ (tail ++ more) := by
      rw [hlonger, hframe, List.append_assoc]
    obtain ⟨rest', hread, hrest'⟩ := readMessage_frame codec hfront
    exact ⟨rest', by rw [hread, hsame], by rw [hrest', htail]⟩
  · rw [readMessage_truncated codec htruncated] at h
    exact absurd (Prod.mk.inj h).1.symm hresult

/-- What was written reads back in order, wherever the chunks end. -/
theorem readMessages_written {codec : RpcCodec} (hinverse : codec.Inverse)
    (messages : List RpcMessage) (extra : Nat) {chunks : Chunks}
    (h : chunks.flatten = writeMessages codec messages []) :
    (readMessages codec ((written codec messages).length + extra) chunks).1 =
      (written codec messages).map .ok ++ List.replicate extra (.error .unexpectedEof) := by
  induction messages generalizing chunks with
  | nil => simpa [written] using readMessages_nil codec extra h
  | cons message messages ih =>
    by_cases hfits : fits codec message = true
    · obtain ⟨rest, hmessage, hrest⟩ := readMessage_written hinverse hfits h
      have hwritten : written codec (message :: messages) = message :: written codec messages := by
        simp [written, hfits]
      rw [hwritten, List.length_cons, Nat.add_right_comm, List.map_cons, List.cons_append,
        ← ih hrest]
      simp [readMessages, hmessage]
    · rw [writeMessages_cons] at h
      rcases writeMessage_cases codec message [] with ⟨hcon, _⟩ | ⟨_, _, hwrite⟩
      · exact absurd hcon hfits
      · rw [hwrite, List.nil_append] at h
        have hwritten : written codec (message :: messages) = written codec messages := by
          simp [written, hfits]
        rw [hwritten]
        exact ih h

/-- The messages the stream holds up to its first error, and that error. -/
def received (codec : RpcCodec) (chunks : Chunks) : List RpcMessage × IoError :=
  match _h : readMessage codec chunks with
  | (.error error, _) => ([], error)
  | (.ok message, rest) =>
    let later := received codec rest
    (message :: later.1, later.2)
termination_by chunks.flatten.length
decreasing_by exact readMessage_length _h

theorem received_of_error {codec : RpcCodec} {chunks rest : Chunks} {error : IoError}
    (h : readMessage codec chunks = (.error error, rest)) :
    received codec chunks = ([], error) := by
  rw [received]
  split
  next heq => cases h.symm.trans heq; rfl
  next heq => cases h.symm.trans heq

theorem received_of_ok {codec : RpcCodec} {chunks rest : Chunks} {message : RpcMessage}
    (h : readMessage codec chunks = (.ok message, rest)) :
    received codec chunks =
      (message :: (received codec rest).1, (received codec rest).2) := by
  rw [received]
  split
  next heq => cases h.symm.trans heq
  next heq => cases h.symm.trans heq; rfl

/-- What ends the messages is the stream or its framing. -/
theorem received_isTransport (codec : RpcCodec) (chunks : Chunks) :
    (received codec chunks).2.isTransport = true := by
  induction chunks using received.induct codec with
  | case1 chunks error rest h =>
    rw [received_of_error h]
    rcases frame_or_truncated chunks.flatten with ⟨frame, tail, hframe⟩ | htruncated
    · obtain ⟨after, hafter, _⟩ := readMessage_frame codec hframe
      have herror := (Prod.mk.inj (hafter.symm.trans h)).1
      cases hfound : findById codec ⟨frame.id⟩ frame.payload with
      | ok message => simp [hfound, Except.mapError] at herror
      | error found =>
        obtain rfl : IoError.rpc found = error := by simpa [hfound, Except.mapError] using herror
        rfl
    · rw [readMessage_truncated codec htruncated] at h
      cases h
      rfl
  | case2 chunks message rest h ih =>
    rw [received_of_ok h]
    exact ih

/-- Reading inverts writing on every chunking, a failed write writes nothing, and a message
that is refused for its id or its payload is consumed as one frame. -/
theorem framing_round_trip {codec : RpcCodec} (hinverse : codec.Inverse) :
    (∀ messages chunks, chunks.flatten = writeMessages codec messages [] → ∀ extra,
      (readMessages codec ((written codec messages).length + extra) chunks).1 =
        (written codec messages).map .ok ++ List.replicate extra (.error .unexpectedEof)) ∧
    (∀ messages message, message ∈ written codec messages ↔
      message ∈ messages ∧ ∀ stream, (writeMessage codec message stream).1 = .ok ()) ∧
    (∀ message stream error, (writeMessage codec message stream).1 = .error error →
      (writeMessage codec message stream).2 = stream) ∧
    (∀ chunks error rest, readMessage codec chunks = (.error (.rpc error), rest) →
      ∃ frame, chunks.flatten = Frame.bytes frame ++ rest.flatten ∧
        findById codec ⟨frame.id⟩ frame.payload = .error error) := by
  refine ⟨fun messages chunks h extra => readMessages_written hinverse messages extra h, ?_, ?_, ?_⟩
  · intro messages message
    rw [written, List.mem_filter]
    refine and_congr_right fun _ => ⟨fun hfits stream => ?_, fun hok => ?_⟩
    · rcases writeMessage_cases codec message stream with ⟨_, _, _, hwrite⟩ | ⟨hno, _⟩
      · rw [hwrite]
      · rw [hno] at hfits
        cases hfits
    · rcases writeMessage_cases codec message [] with ⟨hfits, _⟩ | ⟨_, _, hwrite⟩
      · exact hfits
      · have := hok []
        rw [hwrite] at this
        cases this
  · intro message stream error herror
    rcases writeMessage_cases codec message stream with ⟨_, _, _, hwrite⟩ | ⟨_, _, hwrite⟩
    · rw [hwrite] at herror
      cases herror
    · rw [hwrite]
  · intro chunks error rest hread
    rcases frame_or_truncated chunks.flatten with ⟨frame, tail, hframe⟩ | htruncated
    · obtain ⟨after, hafter, htail⟩ := readMessage_frame codec hframe
      obtain ⟨hresult, rfl⟩ := Prod.mk.inj (hafter.symm.trans hread)
      refine ⟨frame, htail.symm ▸ hframe, ?_⟩
      cases hfound : findById codec ⟨frame.id⟩ frame.payload with
      | ok message => simp [hfound, Except.mapError] at hresult
      | error found => simpa [hfound, Except.mapError] using hresult
    · rw [readMessage_truncated codec htruncated] at hread
      cases hread

/-- A codec that knows the text of one payload. -/
def knowing {T : Type} [DecidableEq T] (value : T) (text : String) : PayloadCodec T where
  serialize v := if v = value then some (text.toList.map (UInt8.ofNat ·.toNat)) else none
  deserialize bytes := if bytes = text.toList.map (UInt8.ofNat ·.toNat) then some value else none

theorem knowing_inverse {T : Type} [DecidableEq T] (value : T) (text : String) :
    (knowing value text).Inverse := by
  intro v bytes h
  simp only [knowing] at h ⊢
  split_ifs at h with hv
  rw [hv, if_pos (Option.some.inj h).symm]

def greetingCodec : RpcCodec where
  hello := knowing { machineId := "m" } "\x7b\"version\":0,\"machineId\":\"m\",\"name\":\"\"\x7d"
  screens := knowing ⟨[]⟩ "\x7b\"screens\":[]\x7d"
  input := ⟨fun _ => none, fun _ => none⟩
  ping := knowing {} "\x7b\"pad\":0\x7d"
  pong := knowing {} "\x7b\"pad\":0\x7d"
  error := ⟨fun _ => none, fun _ => none⟩

theorem greetingCodec_inverse : greetingCodec.Inverse where
  hello := knowing_inverse _ _
  screens := knowing_inverse _ _
  input := nofun
  ping := knowing_inverse _ _
  pong := knowing_inverse _ _
  error := nofun

/-- A Hello, a message that does not serialize and a Ping. -/
def greeting : List RpcMessage := [.hello { machineId := "m" }, .error ⟨"x"⟩, .ping {}]

/-- The chunks end inside the first header and inside the second. -/
def greetingChunks : Chunks :=
  let bytes := writeMessages greetingCodec greeting []
  [bytes.take 1, (bytes.drop 1).take 44, bytes.drop 45]

theorem framing_round_trip_greeting : (readMessages greetingCodec 3 greetingChunks).1 =
    [.ok (.hello { machineId := "m" }), .ok (.ping {}), .error .unexpectedEof] := by
  have hbytes : greetingChunks.flatten = writeMessages greetingCodec greeting [] := by
    decide +kernel
  exact (framing_round_trip greetingCodec_inverse).1 greeting greetingChunks hbytes 1

end RpcTransport
end Mksync
