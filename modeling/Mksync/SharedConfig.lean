import Mksync.SettingsPresenter
import Mksync.ServerScreenStore
import Mksync.TransitionRuns

/-!
# One configuration file with two copies

The settings page and the screen store of a server each keep a copy of the whole
configuration, and each of them writes the whole file. An update survives as long as every
writer's copy agrees with the file on everything but the writer's own update.
-/
namespace Mksync
open TransitionRuns

/-- The cell that a configuration has for a screen. -/
def AppConfig.cellFor (config : AppConfig) (key : ScreenKey) : Option GridPosition :=
  findScreenLayout config key.ownerId key.screenIndex

theorem AppConfig.cellFor_upsertScreenLayout (config : AppConfig) (key other : ScreenKey)
    (cell : GridPosition) :
    (upsertScreenLayout config ⟨key.ownerId, key.screenIndex, cell⟩).cellFor other =
      if other = key then some cell else config.cellFor other := by
  have hkey : (key.ownerId = other.ownerId ∧ key.screenIndex = other.screenIndex) ↔
      other = key := by
    cases key
    cases other
    rw [ScreenKey.mk.injEq, eq_comm, @eq_comm Nat]
  unfold cellFor
  rw [findScreenLayout_upsertScreenLayout]
  simp only [hkey]

inductive SettingsEdit
  | addScreen (ownerId : String) (screenIndex x y : Int)
  | moveScreen (row x y : Int)
  | removeScreen (row : Int)
  | addTrustedClient (machineId name : String)
  | removeTrustedClient (row : Int)

namespace SettingsPresenter

def edited (presenter : SettingsPresenter) : SettingsEdit → SettingsPresenter
  | .addScreen ownerId screenIndex x y => presenter.addScreen ownerId screenIndex x y
  | .moveScreen row x y => presenter.moveScreen row x y
  | .removeScreen row => presenter.removeScreen row
  | .addTrustedClient machineId name => presenter.addTrustedClient machineId name
  | .removeTrustedClient row => presenter.removeTrustedClient row

/-- An edit leaves the path as it is. -/
theorem edited_mPath (presenter : SettingsPresenter) (edit : SettingsEdit) :
    (presenter.edited edit).mModel.mPath = presenter.mModel.mPath := by
  cases edit with
  | addScreen ownerId screenIndex x y =>
    simp only [edited, addScreen]
    split_ifs <;> rfl
  | moveScreen row x y =>
    simp only [edited, moveScreen]
    split
    · rfl
    · split_ifs <;> rfl
  | removeScreen row =>
    simp only [edited, removeScreen]
    split <;> rfl
  | addTrustedClient machineId name =>
    simp only [edited, addTrustedClient]
    split_ifs <;> rfl
  | removeTrustedClient row =>
    simp only [edited, removeTrustedClient]
    split <;> rfl

theorem save_eq {presenter : SettingsPresenter} (h : presenter.mModel.mPath ≠ "")
    (files : ConfigFiles) : (presenter.save files).1.mModel = presenter.mModel ∧
      (presenter.save files).2 = saveConfig files presenter.mModel.mPath presenter.config := by
  unfold save SettingsModel.save
  rw [if_neg h]
  exact ⟨rfl, rfl⟩

/-- The screen in a row of the layout. -/
def rowKey (presenter : SettingsPresenter) (row : Int) : Option ScreenKey :=
  ((rowIndex row presenter.config.screens.length).bind (presenter.config.screens[·]?)).map
    fun screen => ⟨screen.ownerId, screen.screenIndex⟩

/-- The layout entry that an accepted edit is about. -/
def editedKey (presenter : SettingsPresenter) (edit : SettingsEdit) : Option ScreenKey :=
  if (presenter.edited edit).mHasError then none
  else
    match edit with
    | .addScreen ownerId screenIndex _ _ => some ⟨trimmed ownerId, screenIndex.toNat⟩
    | .moveScreen row _ _ => presenter.rowKey row
    | .removeScreen row => presenter.rowKey row
    | .addTrustedClient _ _ => none
    | .removeTrustedClient _ => none

end SettingsPresenter

/-- The file, the settings page and a server on it. The history records what the updates
ought to leave in the file. -/
structure SharedConfig (E : Type) [Endpoint E] where
  files : ConfigFiles
  settings : SettingsPresenter
  server : ServerScreenStore E
  /-- History: the trusted clients of the last save, those first loaded before there is one. -/
  savedTrust : List TrustedClientConfig
  /-- History: the entries edited since the last save or load. -/
  pending : List ScreenKey
  /-- History: what either side last wrote for an entry, what was first loaded before. -/
  lastWritten : ScreenKey → Option GridPosition

namespace SharedConfig

variable {E : Type} [Endpoint E]

inductive Action (E : Type)
  | edit (edit : SettingsEdit)
  | save
  | load (generated pathText : String)
  | start
  | addScreen (endpoint : E) (key : ScreenKey) (cell : GridPosition) (info : ScreenInfo)
      (isLocal : Bool)
  | removeScreen (endpoint : E)

/-- What the store handed to `saveConfig` since `before`, written in order. -/
def writeSaved (before after : ServerScreenStore E) (files : ConfigFiles) : ConfigFiles :=
  (after.saved.drop before.saved.length).foldl
    (fun files config => saveConfig files after.mConfigPath config) files

/-- Whether the topology takes the screen. -/
def accepts (store : ServerScreenStore E) (key : ScreenKey) (cell : GridPosition)
    (info : ScreenInfo) (isLocal : Bool) : Bool :=
  (store.mTopology.addScreen ⟨key, cell, info, isLocal⟩).isOk

/-- One action of either side. The page loads the shared file only, and a server starts on
what `loadConfig` gives. -/
def step (s : SharedConfig E) : Action E → Option (SharedConfig E)
  | .edit edit => some { s with
      settings := s.settings.edited edit
      pending := s.pending ++ (s.settings.editedKey edit).toList }
  | .save =>
    let (settings, files) := s.settings.save s.files
    some { s with
      settings := settings
      files := files
      savedTrust := s.settings.config.trustedClients
      pending := []
      lastWritten := fun key =>
        if key ∈ s.pending then s.settings.config.cellFor key else s.lastWritten key }
  | .load generated pathText =>
    if trimmed pathText = s.server.mConfigPath then
      let (settings, files) := s.settings.loadConfigPath generated s.files pathText
      some { s with
        settings := settings
        files := files
        pending := if settings.mHasError then s.pending else [] }
    else none
  | .start =>
    match loadConfig s.files s.server.mConfigPath with
    | .error _ => none
    | .ok config => some { s with server := .init config s.server.mConfigPath }
  | .addScreen endpoint key cell info isLocal =>
    let server := s.server.addScreen endpoint key cell info isLocal
    some { s with
      server := server
      files := writeSaved s.server server s.files
      lastWritten := if accepts s.server key cell info isLocal then
        Function.update s.lastWritten key (some cell) else s.lastWritten }
  | .removeScreen endpoint => some { s with server := (s.server.removeScreen endpoint none).2 }

/-- The page loads or creates the file and a server starts on it. -/
def opened (generated : String) (files : ConfigFiles) (pathText : String) :
    Option (SharedConfig E) :=
  let (settings, files) :=
    ({ mModel := ⟨{}, ""⟩ } : SettingsPresenter).loadConfigPath generated files pathText
  if settings.mHasError then none
  else
    match loadConfig files settings.mModel.mPath with
    | .error _ => none
    | .ok config => some ⟨files, settings, .init config settings.mModel.mPath,
        config.trustedClients, [], config.cellFor⟩

/-- The contents of the shared file. -/
def file (s : SharedConfig E) : AppConfig := (s.files.find? s.server.mConfigPath).getD {}

/-- The file has the trusted clients of the last save, and for every layout entry what
either side last wrote for it. -/
def UpdatesKept (s : SharedConfig E) : Prop :=
  s.file.trustedClients = s.savedTrust ∧ ∀ key, s.file.cellFor key = s.lastWritten key

/-- A side that writes has an up-to-date copy of everything that it does not update: the
page of the entries that were not edited, the server of the trusted clients and of the
entries of all other screens. -/
def UpToDate (s : SharedConfig E) : Action E → Prop
  | .save => ∀ key ∉ s.pending, s.settings.config.cellFor key = s.file.cellFor key
  | .addScreen _ key cell info isLocal => accepts s.server key cell info isLocal = true →
      s.server.mConfig.trustedClients = s.file.trustedClients ∧
      ∀ other ≠ key, s.server.mConfig.cellFor other = s.file.cellFor other
  | _ => True

/-! ### What a step leaves in the file -/

/-- Both sides work on one file. -/
def OnOneFile (s : SharedConfig E) : Prop :=
  s.settings.mModel.mPath = s.server.mConfigPath ∧ s.server.mConfigPath ≠ ""

section Steps

variable {s t : SharedConfig E} {a : Action E} {store : ServerScreenStore E} {key : ScreenKey}
  {cell : GridPosition} {info : ScreenInfo} {isLocal : Bool}

theorem addScreen_of_not_accepts (endpoint : E) (h : ¬ accepts store key cell info isLocal = true) :
    store.addScreen endpoint key cell info isLocal = store := by
  unfold ServerScreenStore.addScreen
  unfold accepts at h
  cases htopology : store.mTopology.addScreen ⟨key, cell, info, isLocal⟩ with
  | error error => rfl
  | ok topology =>
    rw [htopology] at h
    exact absurd rfl h

/-- An accepted screen is remembered in the store's copy, and the whole copy is written. -/
theorem addScreen_of_accepts (endpoint : E) (h : accepts store key cell info isLocal = true)
    (hpath : store.mConfigPath ≠ "") :
    let after := store.addScreen endpoint key cell info isLocal
    after.mConfigPath = store.mConfigPath ∧
      after.mConfig = upsertScreenLayout store.mConfig ⟨key.ownerId, key.screenIndex, cell⟩ ∧
      after.saved = store.saved ++ [after.mConfig] := by
  unfold ServerScreenStore.addScreen
  unfold accepts at h
  cases htopology : store.mTopology.addScreen ⟨key, cell, info, isLocal⟩ with
  | error error =>
    rw [htopology] at h
    cases h
  | ok topology =>
    simp [ServerScreenStore.rememberScreenLayout, ServerScreenStore.saveConfigIfNeeded, hpath]

theorem mConfigPath_addScreen (endpoint : E) :
    (store.addScreen endpoint key cell info isLocal).mConfigPath = store.mConfigPath := by
  unfold ServerScreenStore.addScreen
  split
  · rfl
  · simp [ServerScreenStore.rememberScreenLayout, ServerScreenStore.saveConfigIfNeeded_eq]

theorem writeSaved_self (files : ConfigFiles) : writeSaved store store files = files := by
  simp [writeSaved]

theorem writeSaved_of_accepts (endpoint : E) (files : ConfigFiles)
    (h : accepts store key cell info isLocal = true) (hpath : store.mConfigPath ≠ "") :
    writeSaved store (store.addScreen endpoint key cell info isLocal) files =
      saveConfig files store.mConfigPath
        (upsertScreenLayout store.mConfig ⟨key.ownerId, key.screenIndex, cell⟩) := by
  obtain ⟨hsame, hconfig, hsaved⟩ := addScreen_of_accepts endpoint h hpath
  rw [writeSaved, hsaved, hsame, hconfig]
  simp

/-! What each action leaves behind: the paths, what is remembered of the updates, and the file. -/

theorem step_save (hone : s.OnOneFile) (hstep : s.step .save = some t) :
    t.OnOneFile ∧ t.file = s.settings.config ∧
      t.savedTrust = s.settings.config.trustedClients ∧ t.lastWritten = fun key =>
        if key ∈ s.pending then s.settings.config.cellFor key else s.lastWritten key := by
  obtain ⟨hsame, hpath⟩ := hone
  obtain ⟨hmodel, hfiles⟩ := SettingsPresenter.save_eq (hsame ▸ hpath) s.files
  unfold step at hstep
  cases hsave : s.settings.save s.files with
  | mk settings files =>
    rw [hsave] at hmodel hfiles
    simp only [hsave, Option.some.injEq] at hstep
    subst hstep
    refine ⟨⟨(congrArg SettingsModel.mPath hmodel).trans hsame, hpath⟩, ?_, rfl, rfl⟩
    unfold file
    dsimp only at hfiles ⊢
    rw [hfiles, hsame, find?_saveConfig]
    rfl

/-- Loading creates the file or gives it a machine id. -/
theorem step_load {generated pathText : String} (hone : s.OnOneFile)
    (hstep : s.step (.load generated pathText) = some t) :
    t.OnOneFile ∧ t.savedTrust = s.savedTrust ∧ t.lastWritten = s.lastWritten ∧
      t.file.screens = s.file.screens ∧ t.file.trustedClients = s.file.trustedClients := by
  obtain ⟨hsame, hpath⟩ := hone
  unfold step at hstep
  dsimp only at hstep
  by_cases htext : trimmed pathText = s.server.mConfigPath
  · rw [if_pos htext] at hstep
    obtain rfl := Option.some.inj hstep
    unfold OnOneFile file
    dsimp only
    rcases s.settings.loadConfigPath_cases generated s.files pathText with
      ⟨_, hmodel, hfiles⟩ | ⟨config, files, _, hload, _, hmodel, hfiles⟩
    · rw [hmodel, hfiles]
      exact ⟨⟨hsame, hpath⟩, rfl, rfl, rfl, rfl⟩
    · rw [hmodel, hfiles]
      rw [htext] at hload
      obtain ⟨hfind, hscreens, htrust⟩ := loadOrCreateConfig_ok hload
      rw [hfind]
      exact ⟨⟨htext, hpath⟩, rfl, rfl, hscreens, htrust⟩
  · rw [if_neg htext] at hstep
    cases hstep

theorem step_start (hstep : s.step .start = some t) :
    ∃ config, t = { s with server := .init config s.server.mConfigPath } := by
  unfold step at hstep
  cases hload : loadConfig s.files s.server.mConfigPath with
  | error error =>
    rw [hload] at hstep
    cases hstep
  | ok config =>
    rw [hload] at hstep
    exact ⟨config, (Option.some.inj hstep).symm⟩

theorem step_addScreen {endpoint : E} (hone : s.OnOneFile)
    (hstep : s.step (.addScreen endpoint key cell info isLocal) = some t) :
    t.OnOneFile ∧ t.savedTrust = s.savedTrust ∧
      (accepts s.server key cell info isLocal = true →
        t.file = upsertScreenLayout s.server.mConfig ⟨key.ownerId, key.screenIndex, cell⟩ ∧
          t.lastWritten = Function.update s.lastWritten key (some cell)) ∧
      (¬ accepts s.server key cell info isLocal = true →
        t.file = s.file ∧ t.lastWritten = s.lastWritten) := by
  obtain ⟨hsame, hpath⟩ := hone
  have hkeep : (s.server.addScreen endpoint key cell info isLocal).mConfigPath =
      s.server.mConfigPath := mConfigPath_addScreen endpoint
  obtain rfl := Option.some.inj hstep
  unfold OnOneFile file
  dsimp only
  rw [hkeep]
  refine ⟨⟨hsame, hpath⟩, rfl, ?_, ?_⟩
  · intro haccepts
    rw [writeSaved_of_accepts endpoint s.files haccepts hpath, find?_saveConfig, if_pos haccepts]
    exact ⟨rfl, rfl⟩
  · intro haccepts
    rw [addScreen_of_not_accepts endpoint haccepts, writeSaved_self, if_neg haccepts]
    exact ⟨rfl, rfl⟩

/-- No step leaves the file. -/
theorem step_onOneFile (h : s.OnOneFile) (hstep : s.step a = some t) : t.OnOneFile := by
  cases a with
  | edit edit =>
    obtain rfl := Option.some.inj hstep
    exact ⟨(SettingsPresenter.edited_mPath _ _).trans h.1, h.2⟩
  | save => exact (step_save h hstep).1
  | load generated pathText => exact (step_load h hstep).1
  | start =>
    obtain ⟨config, rfl⟩ := step_start hstep
    exact h
  | addScreen endpoint key cell info isLocal => exact (step_addScreen h hstep).1
  | removeScreen endpoint =>
    obtain rfl := Option.some.inj hstep
    exact h

/-- Steps that are no updates leave the layout and the trusted clients of the file alone. -/
theorem updatesKept_of_same (h : s.UpdatesKept) (htrust : t.savedTrust = s.savedTrust)
    (hwritten : t.lastWritten = s.lastWritten)
    (hfile : t.file.screens = s.file.screens ∧ t.file.trustedClients = s.file.trustedClients) :
    t.UpdatesKept := by
  refine ⟨?_, ?_⟩
  · rw [hfile.2, htrust]
    exact h.1
  · intro key
    have hcell : t.file.cellFor key = s.file.cellFor key := by
      unfold AppConfig.cellFor findScreenLayout
      rw [hfile.1]
    rw [hcell, hwritten]
    exact h.2 key

/-- A step keeps the updates exactly when a side that writes has an up-to-date copy. -/
theorem updatesKept_step (hone : s.OnOneFile) (h : s.UpdatesKept) (hstep : s.step a = some t) :
    t.UpdatesKept ↔ s.UpToDate a := by
  cases a with
  | edit edit =>
    obtain rfl := Option.some.inj hstep
    exact iff_of_true (updatesKept_of_same h rfl rfl ⟨rfl, rfl⟩) trivial
  | save =>
    obtain ⟨-, hfile, htrust, hwritten⟩ := step_save hone hstep
    unfold UpdatesKept UpToDate
    rw [hfile, htrust, hwritten]
    simp only [true_and]
    constructor
    · intro hkept key hkey
      rw [hkept key, if_neg hkey]
      exact (h.2 key).symm
    · intro hcopy key
      split_ifs with hkey
      · rfl
      · rw [hcopy key hkey]
        exact h.2 key
  | load generated pathText =>
    obtain ⟨-, htrust, hwritten, hfile⟩ := step_load hone hstep
    exact iff_of_true (updatesKept_of_same h htrust hwritten hfile) trivial
  | start =>
    obtain ⟨config, rfl⟩ := step_start hstep
    exact iff_of_true (updatesKept_of_same h rfl rfl ⟨rfl, rfl⟩) trivial
  | addScreen endpoint key cell info isLocal =>
    obtain ⟨-, htrust, haccepted, hrefused⟩ := step_addScreen hone hstep
    by_cases haccepts : accepts s.server key cell info isLocal = true
    · obtain ⟨hfile, hwritten⟩ := haccepted haccepts
      unfold UpdatesKept UpToDate
      rw [hfile, htrust, hwritten, upsertScreenLayout_trustedClients, ← h.1]
      simp only [AppConfig.cellFor_upsertScreenLayout, Function.update_apply]
      constructor
      · intro hkept _
        refine ⟨hkept.1, ?_⟩
        intro other hother
        have hcell := hkept.2 other
        rw [if_neg hother, if_neg hother, ← h.2 other] at hcell
        exact hcell
      · intro hcopy
        obtain ⟨htrust, hcells⟩ := hcopy haccepts
        refine ⟨htrust, ?_⟩
        intro other
        split_ifs with hother
        · rfl
        · rw [hcells other hother]
          exact h.2 other
    · obtain ⟨hfile, hwritten⟩ := hrefused haccepts
      refine iff_of_true (updatesKept_of_same h htrust hwritten ?_)
        fun hcon => absurd hcon haccepts
      rw [hfile]
      exact ⟨rfl, rfl⟩
  | removeScreen endpoint =>
    obtain rfl := Option.some.inj hstep
    exact iff_of_true (updatesKept_of_same h rfl rfl ⟨rfl, rfl⟩) trivial

/-- Page and server start on one file, and nothing is lost yet. -/
theorem opened_spec {generated pathText : String} {files : ConfigFiles}
    (h : opened generated files pathText = some s) : s.OnOneFile ∧ s.UpdatesKept := by
  unfold opened at h
  have hcases :=
    SettingsPresenter.loadConfigPath_cases { mModel := ⟨{}, ""⟩ } generated files pathText
  cases hpage : ({ mModel := ⟨{}, ""⟩ } : SettingsPresenter).loadConfigPath generated files
    pathText with
  | mk settings files' =>
    simp only [hpage] at h hcases
    rcases hcases with ⟨herror, _, _⟩ | ⟨config, _, hpath, hread, hok, hmodel, rfl⟩
    · rw [if_pos herror] at h
      cases h
    · rw [hok, if_neg Bool.false_ne_true, hmodel] at h
      obtain ⟨hfind, -, -⟩ := loadOrCreateConfig_ok hread
      cases hload : loadConfig files' (trimmed pathText) with
      | error error =>
        rw [hload] at h
        cases h
      | ok loaded =>
        have hloaded : loaded = config := by
          unfold loadConfig at hload
          rw [hfind] at hload
          dsimp only at hload
          split_ifs at hload
          cases hload
          rfl
        rw [hload] at h
        cases h
        refine ⟨⟨congrArg SettingsModel.mPath hmodel, hpath⟩, ?_⟩
        have hfile : (files'.find? (trimmed pathText)).getD {} = loaded := by
          rw [hfind, hloaded]
          rfl
        exact ⟨congrArg AppConfig.trustedClients hfile, fun key =>
          congrArg (AppConfig.cellFor · key) hfile⟩

/-- From page and server on one file, a run loses no update in any state it reaches exactly
when each side that writes has, at that moment, an up-to-date copy of what it does not
update. -/
theorem updates_kept_iff_up_to_date {generated pathText : String} {files : ConfigFiles}
    (hopened : opened generated files pathText = some s) (actions : List (Action E))
    (t : SharedConfig E) : s.UpdatesKept ∧
      (Run step (fun _ _ after => after.UpdatesKept) s actions t ↔
        Run step (fun before a _ => before.UpToDate a) s actions t) := by
  obtain ⟨hone, hkept⟩ := opened_spec hopened
  refine ⟨hkept, Run.guard_iff (fun s => s.OnOneFile ∧ s.UpdatesKept) ⟨hone, hkept⟩ ?_ ?_⟩
  · intro s a t hs hafter hstep
    exact ⟨step_onOneFile hs.1 hstep, hafter⟩
  · intro s a t hs hstep
    exact updatesKept_step hs.1 hs.2 hstep

end Steps

/-! ### A revoked client -/

/-- Whole copies of the layout and of the trusted clients are compared. -/
def WholeCopy (s : SharedConfig E) : Action E → Prop
  | .save => s.settings.config.screens = s.file.screens
  | .addScreen _ _ _ _ _ => s.server.mConfig.trustedClients = s.file.trustedClients ∧
      s.server.mConfig.screens = s.file.screens
  | _ => True

instance (s : SharedConfig E) (a : Action E) : Decidable (s.WholeCopy a) :=
  match a with
  | .save => inferInstanceAs (Decidable (_ = _))
  | .addScreen _ _ _ _ _ => inferInstanceAs (Decidable (_ ∧ _))
  | .edit _ | .load _ _ | .start | .removeScreen _ => inferInstanceAs (Decidable True)

theorem WholeCopy.upToDate {s : SharedConfig E} {a : Action E} (h : s.WholeCopy a) :
    s.UpToDate a := by
  have hcells : ∀ config : AppConfig, config.screens = s.file.screens →
      ∀ key, config.cellFor key = s.file.cellFor key := by
    intro config hscreens key
    unfold AppConfig.cellFor findScreenLayout
    rw [hscreens]
  cases a with
  | save => exact fun key _ => hcells _ h key
  | addScreen endpoint key cell info isLocal =>
    exact fun _ => ⟨h.1, fun other _ => hcells _ h.2 other⟩
  | _ => exact trivial

/-- A file that trusts `guest` and `friend`. -/
def trustingFiles : ConfigFiles :=
  OrderedMap.empty.insertOrAssign "mksync.json"
    { machineId := "desk", trustedClients := [⟨"guest", ""⟩, ⟨"friend", ""⟩] }

/-- The page revokes the guest and saves. -/
def revokeGuest : List (Action IPv4Endpoint) :=
  [.edit (.removeTrustedClient 0), .save]

/-- The server registers its own monitor. -/
def registerMonitor : Action IPv4Endpoint :=
  .addScreen (loopback 24800) ⟨"desk", 0⟩ ⟨0, 0⟩ { width := 1920, height := 1080 } true

/-- A server that starts on the saved file keeps the revocation. -/
theorem updates_kept_restarted : ∃ s t : SharedConfig IPv4Endpoint,
    opened "" trustingFiles "mksync.json" = some s ∧
    Run step (fun _ _ after => after.UpdatesKept) s (revokeGuest ++ [.start, registerMonitor])
      t := by
  obtain ⟨s, hopened, h⟩ : ∃ s : SharedConfig IPv4Endpoint,
      opened "" trustingFiles "mksync.json" = some s ∧
        (execute step (fun s a _ => decide (s.WholeCopy a)) s
          (revokeGuest ++ [.start, registerMonitor])).isSome = true := by
    have hany : ((opened "" trustingFiles "mksync.json" : Option (SharedConfig IPv4Endpoint)).any
        fun s => (execute step (fun s a _ => decide (s.WholeCopy a)) s
          (revokeGuest ++ [.start, registerMonitor])).isSome) = true := by decide +kernel
    simpa [Option.any_eq_true] using hany
  obtain ⟨t, ht⟩ := Option.isSome_iff_exists.mp h
  have hrun : Run step (fun before a _ => before.UpToDate a) s _ t :=
    execute_run (fun _ _ _ hcopy => (of_decide_eq_true hcopy).upToDate) ht
  exact ⟨s, t, hopened, (updates_kept_iff_up_to_date hopened _ t).2.mpr hrun⟩

/-- A running server that registers a screen brings the revoked guest back. -/
theorem revoked_client_returns : ∃ s t : SharedConfig IPv4Endpoint,
    opened "" trustingFiles "mksync.json" = some s ∧
    Run step unguarded s (revokeGuest ++ [registerMonitor]) t ∧
    ¬ t.UpdatesKept ∧
    isTrustedClient { trustedClients := t.savedTrust } "guest" "" = false ∧
    isTrustedClient t.file "guest" "" = true := by
  obtain ⟨s, hopened, h⟩ : ∃ s : SharedConfig IPv4Endpoint,
      opened "" trustingFiles "mksync.json" = some s ∧
        (execute step (fun _ _ _ => true) s (revokeGuest ++ [registerMonitor])).any
          (fun t => isTrustedClient { trustedClients := t.savedTrust } "guest" "" = false ∧
            isTrustedClient t.file "guest" "" = true) = true := by
    have hany : ((opened "" trustingFiles "mksync.json" : Option (SharedConfig IPv4Endpoint)).any
        fun s => (execute step (fun _ _ _ => true) s (revokeGuest ++ [registerMonitor])).any
          (fun t => isTrustedClient { trustedClients := t.savedTrust } "guest" "" = false ∧
            isTrustedClient t.file "guest" "" = true)) = true := by decide +kernel
    simpa [Option.any_eq_true] using hany
  obtain ⟨t, hrun, ht⟩ := exists_run_of_execute step _ s _ _ (fun _ _ _ _ => trivial) h
  obtain ⟨hrevoked, hback⟩ := of_decide_eq_true ht
  refine ⟨s, t, hopened, hrun, ?_, hrevoked, hback⟩
  rintro ⟨htrust, -⟩
  have hsame : isTrustedClient t.file "guest" "" =
      isTrustedClient { trustedClients := t.savedTrust } "guest" "" :=
    isTrustedClient_congr htrust "guest" ""
  rw [hrevoked, hback] at hsame
  cases hsame

end SharedConfig
end Mksync
