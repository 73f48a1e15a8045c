import Mksync.SettingsPresenter
import Mksync.ByteFrames
import Mksync.BufferedFile

/-!
# Saving the configuration

The file is emptied when it is opened and then written in place, so an error after that
costs what it held before. The stream is closed after the last check.
-/
namespace Mksync
namespace ConfigFile

open BufferedFile ByteFrames

/-- An error code of the system, or one of the configuration's own. -/
inductive SaveError
  | system (errno : Nat)
  | config (error : ConfigError)
  deriving DecidableEq, Repr

/-- What the system does during one save. -/
structure Disk where
  /-- The error of `create_directories`. -/
  directories : Option Nat := none
  /-- The `errno` of a failed open. -/
  openOutput : Option Nat := none
  flushes : Failures := fun _ => none
  /-- What the stream keeps back before it writes, as the library has it. -/
  capacity : Nat

def streamError (errno : Nat) : SaveError :=
  if errno ≠ 0 then .system errno else .config .ioError

/-- The serializer is a parameter, `none` is its failure. -/
def serializeConfig (serializer : AppConfig → Option Bytes) (config : AppConfig) :
    Except ConfigError Bytes :=
  match serializer config with
  | none => .error .serializeFailed
  | some text => .ok text

/-- From the open on. The stream is closed on every way out. -/
def writeFile (disk : Disk) (text : Bytes) : Except SaveError Unit × Bytes :=
  match put disk.flushes disk.capacity text {} with
  | (some errno, output) => (.error (streamError errno), (close disk.flushes output).2.file)
  | (none, output) => (.ok (), (close disk.flushes output).2.file)

/-- The result, and what the file holds afterwards; `none` is no file. -/
def saveConfig (serializer : AppConfig → Option Bytes) (disk : Disk) (hasParentPath : Bool)
    (previous : Option Bytes) (config : AppConfig) : Except SaveError Unit × Option Bytes :=
  match if hasParentPath then disk.directories else none with
  | some error => (.error (.system error), previous)
  | none =>
    match serializeConfig serializer config with
    | .error error => (.error (.config error), previous)
    | .ok text =>
      match disk.openOutput with
      | some errno => (.error (streamError errno), previous)
      | none =>
        let (result, written) := writeFile disk text
        (result, some written)

/-- All or nothing: the text after a success, and what was there before after an error. -/
def AllOrNothing (previous : Option Bytes) (text : Bytes) :
    Except SaveError Unit × Option Bytes → Prop
  | (.ok _, file) => file = some text
  | (.error _, file) => file = previous

/-! ### What a save leaves -/

variable {serializer : AppConfig → Option Bytes} {disk : Disk} {hasParentPath : Bool}
  {previous : Option Bytes} {config : AppConfig} {text : Bytes}

/-- The directories are there and the file opens. -/
def Disk.Opens (disk : Disk) (hasParentPath : Bool) : Prop :=
  (hasParentPath = true → disk.directories = none) ∧ disk.openOutput = none

/-- The flush that closes the file after the last check. -/
def Disk.closingFlush (disk : Disk) (text : Bytes) : Option Nat :=
  (close disk.flushes (put disk.flushes disk.capacity text {}).2).1

theorem writeFile_prefix (disk : Disk) (text : Bytes) : (writeFile disk text).2 <+: text := by
  obtain ⟨rest, hrest, _⟩ := put_append disk.flushes disk.capacity text {}
  have hclose := close_file disk.flushes (put disk.flushes disk.capacity text {}).2
  have hput : (put disk.flushes disk.capacity text {}).2.file ++
      (put disk.flushes disk.capacity text {}).2.buffer <+: text := ⟨rest, by simpa using hrest⟩
  unfold writeFile
  split
  · next heq =>
    rw [heq] at hclose hput
    exact hclose.trans hput
  · next heq =>
    rw [heq] at hclose hput
    exact hclose.trans hput

theorem writeFile_complete (hok : (writeFile disk text).1 = .ok ())
    (hclosing : disk.closingFlush text = none) : (writeFile disk text).2 = text := by
  obtain ⟨rest, hrest, hall⟩ := put_append disk.flushes disk.capacity text {}
  have hfile := close_file_of_none hclosing
  unfold writeFile at hok ⊢
  split at hok
  · cases hok
  · next heq =>
    rw [heq] at hrest hall hfile
    rw [hall rfl] at hrest
    simp only at hfile ⊢
    rw [hfile]
    simpa using hrest

theorem saveConfig_of_opens (hopens : disk.Opens hasParentPath)
    (htext : serializeConfig serializer config = .ok text) :
    saveConfig serializer disk hasParentPath previous config =
      ((writeFile disk text).1, some (writeFile disk text).2) := by
  obtain ⟨hdirectories, hopen⟩ := hopens
  have hparent : (if hasParentPath = true then disk.directories else none) = none := by
    split_ifs with hpath
    · exact hdirectories hpath
    · rfl
  rw [saveConfig, hparent]
  simp only [htext, hopen]

theorem saveConfig_of_not_opens
    (h : ¬ (disk.Opens hasParentPath ∧ ∃ text, serializeConfig serializer config = .ok text)) :
    ∃ error, saveConfig serializer disk hasParentPath previous config =
      (.error error, previous) := by
  unfold saveConfig
  split
  · exact ⟨_, rfl⟩
  · next hparent =>
    split
    · exact ⟨_, rfl⟩
    · next text htext =>
      split
      · exact ⟨_, rfl⟩
      · next hopen =>
        refine absurd ⟨⟨fun hpath => ?_, hopen⟩, text, htext⟩ h
        rwa [if_pos hpath] at hparent

/-- A save that does not get to open the file leaves it as it was and says so. From then on
the file holds a first part of the new text, all of it after a success whose closing flush
gets through. -/
theorem saved_or_cut (serializer : AppConfig → Option Bytes) (disk : Disk) (hasParentPath : Bool)
    (previous : Option Bytes) (config : AppConfig) :
    (¬ (disk.Opens hasParentPath ∧ ∃ text, serializeConfig serializer config = .ok text) →
      ∃ error, saveConfig serializer disk hasParentPath previous config =
        (.error error, previous)) ∧
    ∀ text, serializeConfig serializer config = .ok text → disk.Opens hasParentPath →
      ∃ result written, saveConfig serializer disk hasParentPath previous config =
          (result, some written) ∧ written <+: text ∧
        (result = .ok () → disk.closingFlush text = none → written = text) := by
  refine ⟨saveConfig_of_not_opens, fun text htext hopens => ?_⟩
  exact ⟨_, _, saveConfig_of_opens hopens htext, writeFile_prefix disk text, writeFile_complete⟩

/-- A disk that takes one more byte. -/
def fullDisk : Disk where
  flushes := fun _ => some (1, 28)
  capacity := 2

/-- The write fails, and of the old file nothing is left. -/
theorem saveConfig_fullDisk : ¬ AllOrNothing (some [1, 2]) [7, 8, 9]
    (saveConfig (fun _ => some [7, 8, 9]) fullDisk false (some [1, 2]) {}) := by
  have hsaved : saveConfig (fun _ => some [7, 8, 9]) fullDisk false (some [1, 2]) {} =
      (.error (.system 28), some [7, 8]) := rfl
  rw [hsaved]
  simp [AllOrNothing]

end ConfigFile
end Mksync
