import Mathlib.Data.List.Basic

/-!
# Length-prefixed frames on a chunked byte stream

A stream delivers its bytes in chunks of any size and then ends. Reading collects a given
number of bytes across the chunks, so what is read depends on the bytes alone. A frame is a
size and an id, two bytes each with the high byte first, and as many bytes of payload.
-/
namespace ByteFrames

abbrev Bytes := List UInt8

/-- The bytes still to come, in the chunks they arrive in. -/
abbrev Chunks := List Bytes

/-- Read exactly so many bytes; `none` if the stream ends before. -/
def readAll : Nat → Chunks → Option Bytes × Chunks
  | 0, chunks => (some [], chunks)
  | _ + 1, [] => (none, [])
  | n + 1, chunk :: rest =>
    if n < chunk.length then (some (chunk.take (n + 1)), chunk.drop (n + 1) :: rest)
    else
      let later := readAll (n + 1 - chunk.length) rest
      (later.1.map (chunk ++ ·), later.2)

/-- The bytes that were asked for come off the front, wherever the chunks end. -/
theorem readAll_append {chunks : Chunks} {bytes tail : Bytes}
    (h : chunks.flatten = bytes ++ tail) :
    ∃ rest, readAll bytes.length chunks = (some bytes, rest) ∧ rest.flatten = tail := by
  induction chunks generalizing bytes with
  | nil =>
    obtain ⟨rfl, rfl⟩ := List.append_eq_nil_iff.mp h.symm
    exact ⟨[], rfl, rfl⟩
  | cons chunk chunks ih =>
    cases hlength : bytes.length with
    | zero =>
      obtain rfl := List.length_eq_zero_iff.mp hlength
      exact ⟨chunk :: chunks, rfl, h⟩
    | succ n =>
      rw [List.flatten_cons] at h
      by_cases hfits : n < chunk.length
      · refine ⟨chunk.drop (n + 1) :: chunks, ?_, ?_⟩
        · have htake : chunk.take (n + 1) = bytes := by
            have := congrArg (List.take (n + 1)) h
            rwa [List.take_append_of_le_length hfits, ← hlength, List.take_left] at this
          simp [readAll, hfits, htake]
        · have hdrop := congrArg (List.drop (n + 1)) h
          rwa [List.drop_append_of_le_length hfits, ← hlength, List.drop_left] at hdrop
      · obtain ⟨later, rfl⟩ : ∃ later, bytes = chunk ++ later := by
          have hprefix : chunk <+: bytes := List.prefix_of_prefix_length_le
            (h ▸ List.prefix_append chunk _) (List.prefix_append bytes tail) (by omega)
          exact hprefix.imp fun _ heq => heq.symm
        rw [List.append_assoc, List.append_right_inj] at h
        obtain ⟨rest, hread, hrest⟩ := ih h
        refine ⟨rest, ?_, hrest⟩
        have hleft : n + 1 - chunk.length = later.length := by
          rw [← hlength, List.length_append, Nat.add_sub_cancel_left]
        simp [readAll, hfits, hleft, hread]

/-- A stream that is too short is read to its end. -/
theorem readAll_short {n : Nat} {chunks : Chunks} (h : chunks.flatten.length < n) :
    readAll n chunks = (none, []) := by
  induction chunks generalizing n with
  | nil =>
    cases n with
    | zero => simp at h
    | succ n => rfl
  | cons chunk chunks ih =>
    cases n with
    | zero => simp at h
    | succ n =>
      rw [List.flatten_cons, List.length_append] at h
      have hfits : ¬ n < chunk.length := by omega
      have hlater : readAll (n + 1 - chunk.length) chunks = (none, []) := ih (by omega)
      simp [readAll, hfits, hlater]

/-! ### Two bytes, the high one first -/

def u16Be (value : UInt16) : Bytes :=
  [UInt8.ofNat (value.toNat / 256), UInt8.ofNat (value.toNat % 256)]

def ofU16Be : Bytes → UInt16
  | [high, low] => UInt16.ofNat (high.toNat * 256 + low.toNat)
  | _ => 0

@[simp] theorem length_u16Be (value : UInt16) : (u16Be value).length = 2 := rfl

theorem ofU16Be_u16Be (value : UInt16) : ofU16Be (u16Be value) = value := by
  have hhigh : value.toNat / 256 % 256 = value.toNat / 256 := by
    have := value.toNat_lt
    omega
  have hvalue : value.toNat / 256 * 256 + value.toNat % 256 = value.toNat := by omega
  simp [ofU16Be, u16Be, hhigh, hvalue]

theorem u16Be_ofU16Be {bytes : Bytes} (h : bytes.length = 2) : u16Be (ofU16Be bytes) = bytes := by
  obtain ⟨high, low, rfl⟩ := List.length_eq_two.mp h
  have hhigh := high.toNat_lt
  have hlow := low.toNat_lt
  have hvalue : (high.toNat * 256 + low.toNat) % 65536 = high.toNat * 256 + low.toNat := by omega
  have hdiv : (high.toNat * 256 + low.toNat) / 256 = high.toNat := by omega
  have hmod : (high.toNat * 256 + low.toNat) % 256 = low.toNat := by omega
  simp [ofU16Be, u16Be, hvalue, hdiv, hmod]

def readU16Be (chunks : Chunks) : Option UInt16 × Chunks :=
  let (bytes, rest) := readAll 2 chunks
  (bytes.map ofU16Be, rest)

theorem readU16Be_append {chunks : Chunks} {value : UInt16} {tail : Bytes}
    (h : chunks.flatten = u16Be value ++ tail) :
    ∃ rest, readU16Be chunks = (some value, rest) ∧ rest.flatten = tail := by
  obtain ⟨rest, hread, hrest⟩ := readAll_append h
  rw [length_u16Be] at hread
  exact ⟨rest, by simp [readU16Be, hread, ofU16Be_u16Be], hrest⟩

theorem readU16Be_short {chunks : Chunks} (h : chunks.flatten.length < 2) :
    readU16Be chunks = (none, []) := by
  simp [readU16Be, readAll_short h]

/-! ### Frames -/

structure Frame where
  id : UInt16
  payload : Bytes
  fits : payload.length < 65536

namespace Frame

def size (frame : Frame) : UInt16 := UInt16.ofNat frame.payload.length

def bytes (frame : Frame) : Bytes := u16Be frame.size ++ (u16Be frame.id ++ frame.payload)

theorem toNat_size (frame : Frame) : frame.size.toNat = frame.payload.length := by
  simp [size, Nat.mod_eq_of_lt frame.fits]

end Frame

/-- A stream that ends before its first frame does. -/
inductive Truncated : Bytes → Prop
  | header {bytes : Bytes} (short : bytes.length < 4) : Truncated bytes
  | payload (size id : UInt16) {bytes : Bytes} (short : bytes.length < size.toNat) :
      Truncated (u16Be size ++ (u16Be id ++ bytes))

/-- Every stream starts with a whole frame, or it is truncated. -/
theorem frame_or_truncated (bytes : Bytes) :
    (∃ frame tail, bytes = Frame.bytes frame ++ tail) ∨ Truncated bytes := by
  by_cases hheader : bytes.length < 4
  · exact .inr (.header hheader)
  have hsize : u16Be (ofU16Be (bytes.take 2)) = bytes.take 2 :=
    u16Be_ofU16Be (by rw [List.length_take]; omega)
  have hid : u16Be (ofU16Be ((bytes.drop 2).take 2)) = (bytes.drop 2).take 2 :=
    u16Be_ofU16Be (by rw [List.length_take, List.length_drop]; omega)
  have hbytes : bytes = u16Be (ofU16Be (bytes.take 2)) ++
      (u16Be (ofU16Be ((bytes.drop 2).take 2)) ++ (bytes.drop 2).drop 2) := by
    rw [hsize, hid, List.take_append_drop, List.take_append_drop]
  generalize ofU16Be (bytes.take 2) = size at hbytes
  generalize ofU16Be ((bytes.drop 2).take 2) = id at hbytes
  generalize (bytes.drop 2).drop 2 = body at hbytes
  subst hbytes
  by_cases hbody : body.length < size.toNat
  · exact .inr (.payload size id hbody)
  have hlength : (body.take size.toNat).length = size.toNat := by
    rw [List.length_take]
    omega
  let frame : Frame := ⟨id, body.take size.toNat, by rw [hlength]; exact size.toNat_lt⟩
  have hframe : frame.size = size := by
    apply UInt16.toNat_inj.mp
    rw [frame.toNat_size, hlength]
  refine .inl ⟨frame, body.drop size.toNat, ?_⟩
  rw [Frame.bytes, hframe, List.append_assoc, List.append_assoc, List.take_append_drop]

end ByteFrames
