import Mksync.RpcMessages
import Mksync.SettingsPresenter

/-!
# The machine id of a client

A machine id is generated wherever one is needed and missing. The command line writes the
generated id into the configuration file, the runtime page of the GUI does not: the client
that it starts makes one up, and the next start makes up another one.
-/
namespace Mksync

/-! ### Generated ids -/

/-- What `randomBytes` draws. -/
abbrev RandomBytes := Vector UInt8 16

def digits : Vector Char 16 := #v['0', '1', '2', '3', '4', '5', '6', '7', '8', '9', 'a', 'b', 'c',
  'd', 'e', 'f']

/-- The digit of `value & 0xF`. -/
def digit (value : Nat) : Char := digits.get (Fin.ofNat 16 value)

/-- Two digits for each byte, the high one first. -/
def byteDigits (byte : UInt8) : List Char := [digit (byte.toNat >>> 4), digit byte.toNat]

def generateMachineId (bytes : RandomBytes) : String :=
  "mks-" ++ String.ofList (bytes.toList.flatMap byteDigits)

theorem generateMachineId_ne_empty (bytes : RandomBytes) : generateMachineId bytes ≠ "" := by
  simp [generateMachineId]

theorem digit_inj {value value' : Nat} : digit value = digit value' ↔ value % 16 = value' % 16 := by
  have hinj : ∀ i j : Fin 16, digits.get i = digits.get j → i = j := by decide
  constructor
  · intro h
    simpa [Fin.ofNat, Fin.ext_iff] using hinj _ _ h
  · intro h
    rw [digit, digit, Fin.ofNat, Fin.ofNat]
    simp only [h]

theorem byteDigits_injective : Function.Injective byteDigits := by
  intro byte byte' h
  have hlt := byte.toNat_lt
  have hlt' := byte'.toNat_lt
  simp only [byteDigits, List.cons.injEq, digit_inj, and_true] at h
  apply UInt8.toNat_inj.mp
  omega

theorem flatMap_byteDigits_inj {bytes bytes' : List UInt8}
    (h : bytes.flatMap byteDigits = bytes'.flatMap byteDigits) : bytes = bytes' := by
  induction bytes generalizing bytes' with
  | nil =>
    cases bytes' with
    | nil => rfl
    | cons => simp [byteDigits] at h
  | cons byte rest ih =>
    cases bytes' with
    | nil => simp [byteDigits] at h
    | cons byte' rest' =>
      rw [List.flatMap_cons, List.flatMap_cons] at h
      obtain ⟨hbyte, hrest⟩ := List.append_inj h rfl
      rw [byteDigits_injective hbyte, ih hrest]

/-- Different bytes give different ids. -/
theorem generateMachineId_injective : Function.Injective generateMachineId := by
  intro bytes bytes' h
  have hdigits : bytes.toList.flatMap byteDigits = bytes'.toList.flatMap byteDigits := by
    simpa [generateMachineId, ← String.toList_inj] using h
  exact Vector.toList_inj.mp (flatMap_byteDigits_inj hdigits)

theorem ensureMachineId_of_ne {generated : String} {config : AppConfig}
    (h : config.machineId ≠ "") : ensureMachineId generated config = config := by
  rw [ensureMachineId, if_neg h]

theorem ensureMachineId_machineId_ne (bytes : RandomBytes) (config : AppConfig) :
    (ensureMachineId (generateMachineId bytes) config).machineId ≠ "" := by
  unfold ensureMachineId
  split_ifs with h
  · exact generateMachineId_ne_empty bytes
  · exact h

/-! ### Starting a client -/

/-- What the surroundings of a start answer. -/
structure Surroundings where
  /-- The endpoint text is an address. -/
  endpoint : Bool := true
  /-- A platform backend for screens and injection is found. -/
  backend : Bool := true
  /-- The platform provides an input injector. -/
  injector : Bool := true
  /-- The server accepts the connection. -/
  connected : Bool := true
  hostname : Option String
  deriving DecidableEq

/-- The constructor of the client: a last chance for an id. -/
def clientConfig (generated : String) (config : AppConfig) : AppConfig :=
  ensureMachineId generated config

/-- The run of a client up to its Hello. -/
def helloOf (config : AppConfig) (surroundings : Surroundings) : Option HelloMessage :=
  if ¬ surroundings.injector then none
  else if ¬ surroundings.connected then none
  else
    match surroundings.hostname with
    | none => none
    | some computerName => some ⟨0, config.machineId, computerName⟩

/-- A client of a configuration that is started on the selected backend. -/
def runClient (creating : RandomBytes) (config : AppConfig) (surroundings : Surroundings) :
    Option HelloMessage :=
  if ¬ surroundings.backend then none
  else helloOf (clientConfig (generateMachineId creating) config) surroundings

/-- The client command: the configuration is loaded, and written if the id was missing. -/
def clientCommand (loading creating : RandomBytes) (surroundings : Surroundings)
    (files : ConfigFiles) (configPath : String) : Option HelloMessage × ConfigFiles :=
  if ¬ surroundings.endpoint then (none, files)
  else
    match loadOrCreateConfig (generateMachineId loading) files configPath with
    | .error _ => (none, files)
    | .ok (config, files) => (runClient creating config surroundings, files)

inductive RunState
  | idle | starting | running | stopping
  deriving DecidableEq, Repr

/-- The runtime page of the GUI in client mode. -/
structure RuntimePresenter where
  mState : RunState := .idle
  appConfigPath : String
  deriving DecidableEq

namespace RuntimePresenter

def active (presenter : RuntimePresenter) : Bool := presenter.mState ≠ .idle

/-- The configuration that the service is spawned with. -/
def start (presenter : RuntimePresenter) (surroundings : Surroundings) (files : ConfigFiles) :
    Option AppConfig :=
  if presenter.active then none
  else if ¬ surroundings.endpoint then none
  else if trimmed presenter.appConfigPath = "" then none
  else
    match loadConfig files presenter.appConfigPath with
    | .error _ => none
    | .ok config => some config

/-- The spawned service. -/
def runService (presenter : RuntimePresenter) (creating : RandomBytes)
    (surroundings : Surroundings) (files : ConfigFiles) : Option HelloMessage :=
  match presenter.start surroundings files with
  | none => none
  | some config => runClient creating config surroundings

end RuntimePresenter

/-- One start of a client: the bytes are drawn where an id is missing, and only there. -/
inductive ClientStart
  | commandLine (loading creating : RandomBytes) (surroundings : Surroundings)
  | gui (mState : RunState) (creating : RandomBytes) (surroundings : Surroundings)

namespace ClientStart

def perform (start : ClientStart) (configPath : String) (files : ConfigFiles) :
    Option HelloMessage × ConfigFiles :=
  match start with
  | .commandLine loading creating surroundings =>
    clientCommand loading creating surroundings files configPath
  | .gui mState creating surroundings =>
    (RuntimePresenter.runService ⟨mState, configPath⟩ creating surroundings files, files)

end ClientStart

/-- The Hellos that a sequence of starts on one file sends. -/
def sentHellos (configPath : String) : List ClientStart → ConfigFiles → List HelloMessage
  | [], _ => []
  | start :: rest, files =>
    let (hello, files) := start.perform configPath files
    hello.toList ++ sentHellos configPath rest files

/-! ### What one start sends and writes -/

/-- Nothing in the surroundings keeps the client from its Hello. -/
def Surroundings.ready (surroundings : Surroundings) : Bool :=
  surroundings.endpoint && surroundings.backend && surroundings.injector &&
    surroundings.connected && surroundings.hostname.isSome

/-- The start sends its Hello, if the file can be loaded. -/
def ClientStart.sends (configPath : String) : ClientStart → Bool
  | .commandLine _ _ surroundings => surroundings.ready
  | .gui mState _ surroundings =>
    mState = .idle && trimmed configPath ≠ "" && surroundings.ready

section Starts

variable {configPath : String} {files : ConfigFiles} {config : AppConfig}

theorem runClient_machineId {creating : RandomBytes} {surroundings : Surroundings}
    (hendpoint : surroundings.endpoint = true) :
    (runClient creating config surroundings).map (·.machineId) =
      if surroundings.ready then
        some (ensureMachineId (generateMachineId creating) config).machineId
      else none := by
  unfold runClient helloOf Surroundings.ready clientConfig
  cases surroundings.backend <;> cases surroundings.injector <;> cases surroundings.connected <;>
    cases surroundings.hostname <;> simp [hendpoint]

theorem loadOrCreateConfig_of_loadConfig (generated : String)
    (hload : loadConfig files configPath = .ok config) :
    ∃ files', loadOrCreateConfig generated files configPath =
        .ok (ensureMachineId generated config, files') ∧
      loadConfig files' configPath = .ok (ensureMachineId generated config) := by
  have hexists : files.contains configPath = true := by
    by_contra hmissing
    have hnone := OrderedMap.contains_eq_false.mp (by simpa using hmissing)
    simp [loadConfig, hnone] at hload
  have hversion : (ensureMachineId generated config).version ≠ 0 := by
    have hsame : (ensureMachineId generated config).version = config.version := by
      unfold ensureMachineId
      split_ifs <;> rfl
    rw [hsame]
    unfold loadConfig at hload
    split at hload
    · cases hload
    · split_ifs at hload with hzero
      cases hload
      exact hzero
  by_cases hid : (ensureMachineId generated config).machineId = config.machineId
  · have hsame := ensureMachineId_eq_self hid
    refine ⟨files, ?_, by rw [hload, hsame]⟩
    simp [loadOrCreateConfig, hexists, hload, hid]
  · refine ⟨saveConfig files configPath (ensureMachineId generated config), ?_, ?_⟩
    · simp [loadOrCreateConfig, hexists, hload, hid]
    · simp [loadConfig, find?_saveConfig, hversion]

/-- The GUI leaves the file as it is. -/
theorem perform_gui (mState : RunState) (creating : RandomBytes) (surroundings : Surroundings)
    (hload : loadConfig files configPath = .ok config) :
    ((ClientStart.gui mState creating surroundings).perform configPath files).1.map
        (·.machineId) =
      (if (ClientStart.gui mState creating surroundings).sends configPath then
        some (ensureMachineId (generateMachineId creating) config).machineId
      else none) ∧
    ((ClientStart.gui mState creating surroundings).perform configPath files).2 = files := by
  refine ⟨?_, rfl⟩
  simp only [ClientStart.perform, ClientStart.sends, RuntimePresenter.runService,
    RuntimePresenter.start, RuntimePresenter.active, hload]
  by_cases hidle : mState = .idle
  · cases hendpoint : surroundings.endpoint with
    | false => simp [hidle, hendpoint, Surroundings.ready]
    | true =>
      by_cases hpath : trimmed configPath = ""
      · simp [hidle, hpath]
      · simp [hidle, hpath, runClient_machineId hendpoint]
  · simp [hidle]

/-- The command line leaves a file that has an id. -/
theorem perform_commandLine (loading creating : RandomBytes) {surroundings : Surroundings}
    (hload : loadConfig files configPath = .ok config) (hendpoint : surroundings.endpoint = true) :
    ((ClientStart.commandLine loading creating surroundings).perform configPath files).1.map
        (·.machineId) =
      (if (ClientStart.commandLine loading creating surroundings).sends configPath then
        some (ensureMachineId (generateMachineId loading) config).machineId
      else none) ∧
    loadConfig ((ClientStart.commandLine loading creating surroundings).perform configPath
      files).2 configPath = .ok (ensureMachineId (generateMachineId loading) config) := by
  obtain ⟨files', hcreate, hload'⟩ :=
    loadOrCreateConfig_of_loadConfig (generateMachineId loading) hload
  have hperform : (ClientStart.commandLine loading creating surroundings).perform configPath
      files = (runClient creating (ensureMachineId (generateMachineId loading) config)
        surroundings, files') := by
    simp [ClientStart.perform, clientCommand, hendpoint, hcreate]
  rw [hperform]
  refine ⟨?_, hload'⟩
  rw [runClient_machineId hendpoint, ClientStart.sends,
    ensureMachineId_of_ne (ensureMachineId_machineId_ne loading config)]

theorem perform_commandLine_of_not_endpoint {loading creating : RandomBytes}
    {surroundings : Surroundings} (hendpoint : ¬ surroundings.endpoint = true) :
    (ClientStart.commandLine loading creating surroundings).perform configPath files =
      (none, files) := by
  simp [ClientStart.perform, clientCommand, hendpoint]

/-! ### A sequence of starts -/

/-- The bytes behind the ids of the Hellos, one for each Hello, while the file has no id: the
GUI's own ones, up to the command that writes an id into the file. -/
def drawnBytes (configPath : String) : List ClientStart → List RandomBytes
  | [] => []
  | .gui mState creating surroundings :: rest =>
    (if (ClientStart.gui mState creating surroundings).sends configPath then [creating] else []) ++
      drawnBytes configPath rest
  | .commandLine loading creating surroundings :: rest =>
    if surroundings.endpoint then
      ((ClientStart.commandLine loading creating surroundings :: rest).filter
        (·.sends configPath)).map fun _ => loading
    else drawnBytes configPath rest

theorem toList_machineId (hello : Option HelloMessage) :
    hello.toList.map (·.machineId) = (hello.map (·.machineId)).toList := by
  cases hello <;> rfl

/-- An id in the file is the id of every Hello. -/
theorem sentHellos_of_id (starts : List ClientStart)
    (hload : loadConfig files configPath = .ok config) (hid : config.machineId ≠ "") :
    (sentHellos configPath starts files).map (·.machineId) =
      (starts.filter (·.sends configPath)).map fun _ => config.machineId := by
  induction starts generalizing files with
  | nil => rfl
  | cons start rest ih =>
    have hperform : (start.perform configPath files).1.map (·.machineId) =
        (if start.sends configPath then some config.machineId else none) ∧
        loadConfig (start.perform configPath files).2 configPath = .ok config := by
      cases start with
      | gui mState creating surroundings =>
        obtain ⟨hello, hfiles⟩ := perform_gui mState creating surroundings hload
        rw [ensureMachineId_of_ne hid] at hello
        exact ⟨hello, hfiles ▸ hload⟩
      | commandLine loading creating surroundings =>
        by_cases hendpoint : surroundings.endpoint = true
        · have hspec := perform_commandLine loading creating hload hendpoint
          rwa [ensureMachineId_of_ne hid] at hspec
        · rw [perform_commandLine_of_not_endpoint hendpoint]
          exact ⟨by simp [ClientStart.sends, Surroundings.ready, hendpoint], hload⟩
    rw [sentHellos, List.map_append, toList_machineId, hperform.1, ih hperform.2,
      List.filter_cons]
    split_ifs <;> rfl

theorem sentHellos_same_id (starts : List ClientStart)
    (hload : loadConfig files configPath = .ok config) (hid : config.machineId ≠ "") :
    ∃ id, id ≠ "" ∧ ∀ hello ∈ sentHellos configPath starts files, hello.machineId = id := by
  refine ⟨config.machineId, hid, ?_⟩
  have hids := sentHellos_of_id starts hload hid
  intro hello hhello
  have hmem : hello.machineId ∈ (starts.filter (·.sends configPath)).map
      fun _ => config.machineId := hids ▸ List.mem_map_of_mem hhello
  obtain ⟨_, _, hsame⟩ := List.mem_map.mp hmem
  exact hsame.symm

/-- Without an id in the file the Hellos carry what was drawn for them. -/
theorem sentHellos_of_empty (starts : List ClientStart)
    (hload : loadConfig files configPath = .ok config) (hid : config.machineId = "") :
    (sentHellos configPath starts files).map (·.machineId) =
      (drawnBytes configPath starts).map generateMachineId := by
  have hgenerated : ∀ generated, (ensureMachineId generated config).machineId = generated := by
    intro generated
    rw [ensureMachineId, if_pos hid]
  induction starts with
  | nil => rfl
  | cons start rest ih =>
    cases start with
    | gui mState creating surroundings =>
      obtain ⟨hello, hfiles⟩ := perform_gui mState creating surroundings hload
      rw [hgenerated] at hello
      rw [sentHellos, drawnBytes, List.map_append, toList_machineId, hello, hfiles, ih,
        List.map_append]
      split_ifs <;> rfl
    | commandLine loading creating surroundings =>
      by_cases hendpoint : surroundings.endpoint = true
      · obtain ⟨hello, hload'⟩ := perform_commandLine loading creating hload hendpoint
        rw [sentHellos, drawnBytes, if_pos hendpoint, List.map_append, toList_machineId, hello,
          sentHellos_of_id rest hload' (ensureMachineId_machineId_ne loading config), hgenerated,
          List.filter_cons, List.map_map]
        split_ifs <;> rfl
      · rw [sentHellos, drawnBytes, if_neg hendpoint,
          perform_commandLine_of_not_endpoint hendpoint]
        exact ih

/-- On a file that loads, all Hellos carry one id that is not empty if and only if the file
has an id, or the same bytes were drawn for all of them. -/
theorem hellos_identical_iff (starts : List ClientStart)
    (hload : loadConfig files configPath = .ok config) :
    (∃ id, id ≠ "" ∧ ∀ hello ∈ sentHellos configPath starts files, hello.machineId = id) ↔
      config.machineId ≠ "" ∨ ∀ bytes ∈ drawnBytes configPath starts,
        ∀ bytes' ∈ drawnBytes configPath starts, bytes = bytes' := by
  by_cases hid : config.machineId = ""
  · have hids : ∀ id : String, (∀ hello ∈ sentHellos configPath starts files,
        hello.machineId = id) ↔
          ∀ bytes ∈ drawnBytes configPath starts, generateMachineId bytes = id := by
      intro id
      rw [← List.forall_mem_map (P := (· = id)), sentHellos_of_empty starts hload hid,
        List.forall_mem_map]
    simp only [hids, hid, ne_eq, not_true, false_or]
    constructor
    · rintro ⟨id, _, hsame⟩ bytes hbytes bytes' hbytes'
      exact generateMachineId_injective ((hsame bytes hbytes).trans (hsame bytes' hbytes').symm)
    · intro hsame
      cases hdrawn : drawnBytes configPath starts with
      | nil => exact ⟨"mks-", by decide, fun _ hbytes => absurd hbytes List.not_mem_nil⟩
      | cons first rest =>
        rw [hdrawn] at hsame
        refine ⟨generateMachineId first, generateMachineId_ne_empty first, ?_⟩
        intro bytes hbytes
        rw [hsame bytes hbytes first List.mem_cons_self]
  · exact iff_of_true (sentHellos_same_id starts hload hid) (.inl hid)

end Starts

/-! ### Two starts -/

def noIdFiles : ConfigFiles := saveConfig .empty "mksync.json" {}

def laptop : Surroundings := { hostname := some "laptop" }

/-- The id that the first start draws is lost, and the second one draws another. -/
theorem gui_starts_two_ids : loadConfig noIdFiles "mksync.json" = .ok {} ∧
    ¬ ∃ id, id ≠ "" ∧ ∀ hello ∈ sentHellos "mksync.json"
      [.gui .idle (Vector.replicate 16 0) laptop, .gui .idle (Vector.replicate 16 1) laptop]
      noIdFiles, hello.machineId = id := by
  refine ⟨by decide +kernel, ?_⟩
  rintro ⟨id, _, hsame⟩
  have hsent : sentHellos "mksync.json" [.gui .idle (Vector.replicate 16 0) laptop,
      .gui .idle (Vector.replicate 16 1) laptop] noIdFiles =
        [⟨0, "mks-00000000000000000000000000000000", "laptop"⟩,
          ⟨0, "mks-01010101010101010101010101010101", "laptop"⟩] := by decide +kernel
  rw [hsent] at hsame
  have h := hsame _ List.mem_cons_self
  have h' := hsame _ (List.mem_cons_of_mem _ List.mem_cons_self)
  rw [← h] at h'
  exact absurd h' (by decide)

/-- The command line is used first: its id is in the file when the window is opened. -/
theorem hellos_identical_command_first : ∃ id, id ≠ "" ∧ ∀ hello ∈ sentHellos "mksync.json"
    [.commandLine (Vector.replicate 16 0) (Vector.replicate 16 0) laptop,
      .gui .idle (Vector.replicate 16 1) laptop] noIdFiles, hello.machineId = id := by
  have hload : loadConfig noIdFiles "mksync.json" = .ok {} := by decide +kernel
  have hdrawn : drawnBytes "mksync.json" [.commandLine (Vector.replicate 16 0)
      (Vector.replicate 16 0) laptop, .gui .idle (Vector.replicate 16 1) laptop] =
        List.replicate 2 (Vector.replicate 16 0) := rfl
  refine (hellos_identical_iff _ hload).mpr (.inr ?_)
  rw [hdrawn]
  intro bytes hbytes bytes' hbytes'
  exact (List.eq_of_mem_replicate hbytes).trans (List.eq_of_mem_replicate hbytes').symm

end Mksync
