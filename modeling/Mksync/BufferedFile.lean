import Mathlib.Data.List.Basic

/-!
# A buffered output file

Bytes go through a buffer of fixed capacity. Each flush passes the buffer on to the file, or
only a part of it and then fails; what did not get through stays in the buffer. So the file
and the buffer together are always what has been put so far.
-/
namespace BufferedFile

variable {α : Type}

structure FileBuf (α : Type) where
  file : List α := []
  buffer : List α := []
  /-- The flushes so far. -/
  flushes : Nat := 0
  deriving DecidableEq, Repr

/-- What becomes of each flush: `none` is success, otherwise the number of bytes that get
through and the error. -/
abbrev Failures := Nat → Option (Nat × Nat)

def sync (failures : Failures) (buf : FileBuf α) : Option Nat × FileBuf α :=
  match failures buf.flushes with
  | none => (none, ⟨buf.file ++ buf.buffer, [], buf.flushes + 1⟩)
  | some (count, error) =>
    (some error, ⟨buf.file ++ buf.buffer.take count, buf.buffer.drop count, buf.flushes + 1⟩)

/-- A full buffer is flushed before the next byte, the first failure ends the write. -/
def put (failures : Failures) (capacity : Nat) : List α → FileBuf α → Option Nat × FileBuf α
  | [], buf => (none, buf)
  | byte :: rest, buf =>
    if buf.buffer.length < capacity then
      put failures capacity rest { buf with buffer := buf.buffer ++ [byte] }
    else
      match sync failures buf with
      | (some error, buf) => (some error, buf)
      | (none, buf) => put failures capacity rest { buf with buffer := buf.buffer ++ [byte] }

/-- What is left in the buffer is flushed when the file is closed. -/
def close (failures : Failures) (buf : FileBuf α) : Option Nat × FileBuf α :=
  if buf.buffer.isEmpty then (none, buf) else sync failures buf

variable {failures : Failures} {capacity : Nat} {buf : FileBuf α}

/-- A flush loses nothing. -/
theorem sync_append (failures : Failures) (buf : FileBuf α) :
    (sync failures buf).2.file ++ (sync failures buf).2.buffer = buf.file ++ buf.buffer := by
  unfold sync
  split <;> simp

theorem sync_buffer (h : (sync failures buf).1 = none) : (sync failures buf).2.buffer = [] := by
  unfold sync at h ⊢
  split at h
  · rfl
  · cases h

/-- A write puts a first part of the bytes, all of them when it succeeds. -/
theorem put_append (failures : Failures) (capacity : Nat) (data : List α) (buf : FileBuf α) :
    ∃ rest,
    (put failures capacity data buf).2.file ++ (put failures capacity data buf).2.buffer ++ rest =
        buf.file ++ buf.buffer ++ data ∧
      ((put failures capacity data buf).1 = none → rest = []) := by
  induction data generalizing buf with
  | nil => exact ⟨[], by simp [put], fun _ => rfl⟩
  | cons byte data ih =>
    rw [put]
    split_ifs with hroom
    · obtain ⟨rest, hrest, hall⟩ := ih { buf with buffer := buf.buffer ++ [byte] }
      exact ⟨rest, by simpa using hrest, hall⟩
    · have hsync := sync_append failures buf
      cases hresult : sync failures buf with
      | mk error flushed =>
        rw [hresult] at hsync
        simp only at hsync
        cases error with
        | some error => exact ⟨byte :: data, by rw [hsync], by simp⟩
        | none =>
          obtain ⟨rest, hrest, hall⟩ := ih { flushed with buffer := flushed.buffer ++ [byte] }
          refine ⟨rest, ?_, hall⟩
          rw [← hsync]
          simpa using hrest

theorem close_append (failures : Failures) (buf : FileBuf α) :
    (close failures buf).2.file ++ (close failures buf).2.buffer = buf.file ++ buf.buffer := by
  unfold close
  split_ifs
  · rfl
  · exact sync_append failures buf

theorem close_buffer (h : (close failures buf).1 = none) :
    (close failures buf).2.buffer = [] := by
  unfold close at h ⊢
  split_ifs at h ⊢ with hempty
  · exact List.isEmpty_iff.mp hempty
  · exact sync_buffer h

/-- A closed file holds a first part of what the file and the buffer held. -/
theorem close_file (failures : Failures) (buf : FileBuf α) :
    (close failures buf).2.file <+: buf.file ++ buf.buffer :=
  ⟨_, close_append failures buf⟩

/-- When the last flush succeeds it holds all of it. -/
theorem close_file_of_none (h : (close failures buf).1 = none) :
    (close failures buf).2.file = buf.file ++ buf.buffer := by
  have happend := close_append failures buf
  rwa [close_buffer h, List.append_nil] at happend

end BufferedFile
