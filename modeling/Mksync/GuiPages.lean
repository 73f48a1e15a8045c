import Mksync.GuiRuns
import Mksync.SharedConfig
import Mathlib.Data.List.DropRight

/-!
# The two pages and the file they name

The settings page edits a copy of the file of its path, and the runtime page starts services on
the file of its command. Either page tells the other one by a signal when its path changes, and
the runtime page makes the settings page load the file that its command names.
-/
namespace Mksync

/-! ### Trimmed texts -/

theorem trimmed_toList (text : String) :
    (trimmed text).toList = (text.toList.dropWhile isSpace).rdropWhile isSpace := by
  simp [trimmed, List.rdropWhile]

/-- What is trimmed at its start stays so when its end is trimmed. -/
theorem dropWhile_rdropWhile_dropWhile {α : Type} (p : α → Bool) (l : List α) :
    ((l.dropWhile p).rdropWhile p).dropWhile p = (l.dropWhile p).rdropWhile p := by
  rw [List.dropWhile_eq_self_iff]
  intro hpos
  have hstart := List.rdropWhile_prefix p (l.dropWhile p)
  have hlong : 0 < (l.dropWhile p).length := hpos.trans_le hstart.length_le
  have hhead : ((l.dropWhile p).rdropWhile p)[0] = (l.dropWhile p)[0] :=
    hstart.getElem hpos
  rw [hhead]
  exact List.dropWhile_eq_self_iff.mp (List.dropWhile_idempotent p l) hlong

@[simp] theorem trimmed_trimmed (text : String) : trimmed (trimmed text) = trimmed text := by
  rw [← String.toList_inj, trimmed_toList, trimmed_toList, dropWhile_rdropWhile_dropWhile,
    List.rdropWhile_idempotent]

namespace Gui

open TransitionRuns

variable {P E : Type}

/-- The presenters of the two pages and the configuration files. -/
structure Pages (P E : Type) where
  settings : SettingsPresenter
  app : Application P E
  files : ConfigFiles

namespace Pages

/-! ### The signals -/

def runtimePath (pages : Pages P E) : String := pages.app.presenter.appConfigPath

def settingsPath (pages : Pages P E) : String := pages.settings.mModel.mPath

/-- `configPathChanged` of the settings: the path is handed to the runtime page, and that makes
its `appConfigPathChanged` go off or not. -/
def configPathChanged (pages : Pages P E) : Pages P E × Bool :=
  let (presenter, emitted) := pages.app.presenter.setAppConfigPath pages.settingsPath
  ({ pages with app := pages.app.setPresenter presenter }, emitted)

def showLoaded (pages : Pages P E) : Pages P E :=
  { pages with settings := pages.settings.showSuccess s!"已载入 {pages.settings.mModel.mPath}" }

/-- `SettingsPresenter::loadConfigPath`: it publishes what was loaded, and where that makes
`appConfigPathChanged` go off, the settings page loads the path of the command. There is no
result where loads are nested deeper than that. A machine id is drawn for each load. -/
def loadWithin : Nat → (Nat → String) → String → Pages P E → Option (Pages P E)
  | 0, _, _, _ => none
  | depth + 1, ids, pathText, pages =>
    let path := trimmed pathText
    if path = "" then
      some { pages with settings :=
        pages.settings.showValidationError "屏幕配置文件路径不能为空。" }
    else
      match SettingsModel.loadOrCreate (ids 0) pages.files path with
      | .error error =>
        some { pages with settings := pages.settings.showError "无法载入屏幕配置" error }
      | .ok (model, files) =>
        let loaded := { pages with settings := { pages.settings with mModel := model }, files }
        match configPathChanged loaded with
        | (told, false) => some told.showLoaded
        | (told, true) =>
          (loadWithin depth (fun n => ids (n + 1)) told.runtimePath told).map showLoaded

/-! ### The cascade of the signals -/

section Cascade

variable {pages pages' : Pages P E} {ids : Nat → String}

/-- Both pages name one file. -/
def Agreed (pages : Pages P E) : Prop := pages.runtimePath = trimmed pages.settingsPath

instance (pages : Pages P E) : Decidable pages.Agreed := inferInstanceAs (Decidable (_ = _))

/-- A load without signals. -/
def loaded (generated : String) (pathText : String) (pages : Pages P E) : Pages P E :=
  { pages with
    settings := (pages.settings.loadConfigPath generated pages.files pathText).1
    files := (pages.settings.loadConfigPath generated pages.files pathText).2 }

/-- The runtime page is told a path. -/
def told (path : String) (pages : Pages P E) : Pages P E :=
  { pages with app := pages.app.setPresenter (pages.app.presenter.setAppConfigPath path).1 }

@[simp] theorem told_files (path : String) (pages : Pages P E) :
    (pages.told path).files = pages.files := rfl

@[simp] theorem told_settings (path : String) (pages : Pages P E) :
    (pages.told path).settings = pages.settings := rfl

theorem told_runtimePath (path : String) (pages : Pages P E) :
    (pages.told path).runtimePath = trimmed path := by
  change (pages.app.presenter.setAppConfigPath path).1.appConfigPath = trimmed path
  unfold RuntimePresenter.setAppConfigPath
  dsimp only
  split_ifs with hsame
  · exact hsame
  · rfl

/-- Pages that agree have nothing to tell. -/
theorem configPathChanged_agreed (h : pages.Agreed) : pages.configPathChanged = (pages, false) := by
  have hsame : pages.app.presenter.setAppConfigPath pages.settingsPath =
      (pages.app.presenter, false) := by
    rw [RuntimePresenter.setAppConfigPath]
    exact if_pos h
  rw [configPathChanged, hsame]
  rfl

theorem configPathChanged_not_agreed (h : ¬ pages.Agreed) :
    pages.configPathChanged = (pages.told pages.settingsPath, true) := by
  have hset : pages.app.presenter.setAppConfigPath pages.settingsPath =
      (pages.app.presenter.setCommon { pages.app.presenter.mCommand.common with
        configPath := trimmed pages.settingsPath }, true) := by
    rw [RuntimePresenter.setAppConfigPath]
    exact if_neg h
  rw [configPathChanged, told, hset]

theorem loadOrCreate_mPath {generated path : String} {files files' : ConfigFiles}
    {model : SettingsModel}
    (h : SettingsModel.loadOrCreate generated files path = .ok (model, files')) :
    model.mPath = path := by
  unfold SettingsModel.loadOrCreate at h
  cases hload : loadOrCreateConfig generated files path with
  | error error => simp [hload] at h
  | ok result =>
    rw [hload] at h
    cases h
    rfl

/-- A load of the path that the command names emits nothing. -/
theorem loadWithin_settled {pathText : String} (h : pages.runtimePath = trimmed pathText)
    (depth : Nat) :
    loadWithin (depth + 1) ids pathText pages = some (pages.loaded (ids 0) pathText) := by
  unfold loadWithin loaded SettingsPresenter.loadConfigPath
  dsimp only
  split_ifs with hpath
  · rfl
  · cases hload : SettingsModel.loadOrCreate (ids 0) pages.files (trimmed pathText) with
    | error error => rfl
    | ok result =>
      obtain ⟨model, files⟩ := result
      have hmodel := loadOrCreate_mPath hload
      have hagreed : Agreed { pages with
          settings := { pages.settings with mModel := model }, files } := by
        change pages.runtimePath = trimmed model.mPath
        rw [hmodel, trimmed_trimmed, h]
      dsimp only
      rw [configPathChanged_agreed hagreed]
      rfl

/-- The load that a load sets off is the last one. -/
theorem exists_loadWithin (ids : Nat → String) (pathText : String) (pages : Pages P E) :
    ∃ after, ∀ depth, loadWithin (depth + 2) ids pathText pages = some after := by
  by_cases hpath : trimmed pathText = ""
  · exact ⟨_, fun depth => by rw [loadWithin, if_pos hpath]⟩
  cases hload : SettingsModel.loadOrCreate (ids 0) pages.files (trimmed pathText) with
  | error error => exact ⟨_, fun depth => by rw [loadWithin, if_neg hpath, hload]⟩
  | ok result =>
    obtain ⟨model, files⟩ := result
    have hfirst : ∀ depth, loadWithin (depth + 2) ids pathText pages =
        match configPathChanged { pages with
            settings := { pages.settings with mModel := model }, files } with
        | (told, false) => some told.showLoaded
        | (told, true) =>
          (loadWithin (depth + 1) (fun n => ids (n + 1)) told.runtimePath told).map showLoaded :=
      fun depth => by rw [loadWithin, if_neg hpath, hload]
    generalize ({ pages with
      settings := { pages.settings with mModel := model }, files } : Pages P E) = first at hfirst
    by_cases h : first.Agreed
    · exact ⟨first.showLoaded, fun depth => by rw [hfirst, configPathChanged_agreed h]⟩
    · have htold := told_runtimePath first.settingsPath first
      refine ⟨((first.told first.settingsPath).loaded (ids 1)
        (first.told first.settingsPath).runtimePath).showLoaded, fun depth => ?_⟩
      rw [hfirst, configPathChanged_not_agreed h]
      dsimp only
      rw [loadWithin_settled (by rw [htold, trimmed_trimmed]), Option.map_some]

end Cascade

def loadConfigPath (ids : Nat → String) (pathText : String) (pages : Pages P E) : Pages P E :=
  (loadWithin 2 ids pathText pages).get (by
    obtain ⟨after, hafter⟩ := exists_loadWithin ids pathText pages
    rw [hafter 0]
    rfl)

/-- The cascade of the signals ends: a load sets off one more at most, and that one none. -/
theorem loadWithin_depth (depth : Nat) (ids : Nat → String) (pathText : String)
    (pages : Pages P E) :
    loadWithin (depth + 2) ids pathText pages = some (loadConfigPath ids pathText pages) := by
  obtain ⟨after, hafter⟩ := exists_loadWithin ids pathText pages
  rw [hafter depth, ← hafter 0, loadConfigPath, Option.some_get]

theorem loadConfigPath_eq {ids : Nat → String} {pathText : String} {pages after : Pages P E}
    (h : loadWithin 2 ids pathText pages = some after) :
    loadConfigPath ids pathText pages = after := by
  unfold loadConfigPath
  exact Option.get_of_eq_some _ h

/-- The signals of a published copy; a machine id is drawn for each load they set off. -/
def publishConfig (ids : Nat → String) (pages : Pages P E) : Pages P E :=
  match pages.configPathChanged with
  | (told, false) => told
  | (told, true) => loadConfigPath ids told.runtimePath told

def setModel (pages : Pages P E) (mModel : SettingsModel) : Pages P E :=
  { pages with settings := { pages.settings with mModel } }

/-- The copy is published, and then the message is shown. -/
def publishWith (ids : Nat → String) (message : String → String) (pages : Pages P E) :
    Pages P E :=
  let published := pages.publishConfig ids
  { published with
    settings := published.settings.showSuccess (message published.settings.mModel.mPath) }

/-! ### The actions -/

def edit (ids : Nat → String) (edit : SettingsEdit) (pages : Pages P E) : Pages P E :=
  let settings := pages.settings.edited edit
  if settings.mHasError then { pages with settings }
  else publishWith ids (fun _ => settings.mStatusMessage) { pages with settings }

def createNew (ids : Nat → String) (pages : Pages P E) : Pages P E :=
  (pages.setModel ⟨ensureMachineId (ids 0) {}, ""⟩).publishWith (fun n => ids (n + 1))
    fun _ => "已创建新配置。选择“另存为”以写入文件。"

def importConfig (ids : Nat → String) (path : Option String) (pages : Pages P E) : Pages P E :=
  match path with
  | none =>
    { pages with settings := pages.settings.showValidationError "只能导入本地配置文件。" }
  | some path =>
    match loadConfig pages.files path with
    | .error error => { pages with settings := pages.settings.showError "导入失败" error }
    | .ok config =>
      (pages.setModel ⟨ensureMachineId (ids 0) config, path⟩).publishWith
        (fun n => ids (n + 1)) fun path => s!"已导入 {path}"

def save (ids : Nat → String) (pages : Pages P E) : Pages P E :=
  match pages.settings.mModel.save pages.files with
  | .error _ =>
    { pages with settings :=
        pages.settings.showValidationError "此配置尚未指定文件。请选择“另存为”。" }
  | .ok files => publishWith ids (fun path => s!"已保存到 {path}") { pages with files }

def saveAs (ids : Nat → String) (path : Option String) (pages : Pages P E) : Pages P E :=
  match path with
  | none => { pages with settings := pages.settings.showValidationError "请选择本地保存位置。" }
  | some path =>
    let saved := { pages with
      files := saveConfig pages.files path pages.settings.mModel.mConfig }
    (saved.setModel ⟨pages.settings.mModel.mConfig, path⟩).publishWith ids
      fun path => s!"已保存到 {path}"

/-- The runtime page emits `appConfigPathChanged`. -/
def emitsAppConfigPath (presenter : RuntimePresenter) : Action P → Bool
  | .setSelectedMode mode => (presenter.setSelectedMode mode).2
  | .setAppConfigPath path => (presenter.setAppConfigPath path).2
  | .createStartupConfig => presenter.createStartupConfig.2
  | .importStartupConfig path imported => (presenter.importStartupConfig path imported).2
  | _ => false

/-- A start reads the files as they are. -/
def withFiles (files : ConfigFiles) : Action P → Action P
  | .start _ => .start files
  | action => action

def runtime (toolkit : Toolkit E) (ids : Nat → String) (action : Action P)
    (pages : Pages P E) : Option (Pages P E) :=
  let action := withFiles pages.files action
  match pages.app.step toolkit action with
  | none => none
  | some app =>
    let told := { pages with app }
    if emitsAppConfigPath pages.app.presenter action then
      some (loadConfigPath ids app.presenter.appConfigPath told)
    else some told

end Pages

inductive PagesAction (P : Type)
  | edit (edit : SettingsEdit)
  | createNew
  | importConfig (path : Option String)
  | save
  | saveAs (path : Option String)
  | runtime (action : Action P)

namespace Pages

/-- An action, with the machine ids that are drawn meanwhile. -/
def step (toolkit : Toolkit E) (pages : Pages P E) :
    (Nat → String) × PagesAction P → Option (Pages P E)
  | (ids, .edit edit) => some (pages.edit ids edit)
  | (ids, .createNew) => some (pages.createNew ids)
  | (ids, .importConfig path) => some (pages.importConfig ids path)
  | (ids, .save) => some (pages.save ids)
  | (ids, .saveAs path) => some (pages.saveAs ids path)
  | (ids, .runtime action) => pages.runtime toolkit ids action

/-- `main`: the default file is loaded. -/
def opened (ids : Nat → String) (files : ConfigFiles) : Pages P E :=
  loadConfigPath (fun n => ids (n + 1)) "mksync.json"
    { settings := { mModel := ⟨ensureMachineId (ids 0) {}, ""⟩
                    mStatusMessage := "新配置已就绪；保存后即可供命令行版本使用。" }
      app := Application.launched
      files }

end Pages

namespace Pages

variable {toolkit : Toolkit E} {pages pages' : Pages P E} {ids : Nat → String}

/-! ### What a load leaves -/

/-- The file of the path can be loaded or created. -/
def Loads (files : ConfigFiles) (path : String) : Prop :=
  path ≠ "" ∧ ∀ config ∈ files.find? path, config.version ≠ 0

instance (files : ConfigFiles) (path : String) : Decidable (Loads files path) :=
  inferInstanceAs (Decidable (_ ∧ ∀ config ∈ files.find? path, _))

/-- The configuration that a load of the path comes to. -/
def configOf (generated : String) (files : ConfigFiles) (path : String) : AppConfig :=
  ensureMachineId generated ((files.find? path).getD {})

theorem loadOrCreateConfig_loads {files : ConfigFiles} {path : String} (h : Loads files path)
    (generated : String) : ∃ files', loadOrCreateConfig generated files path =
      .ok (configOf generated files path, files') := by
  unfold loadOrCreateConfig loadConfig configOf
  cases hfile : files.find? path with
  | none =>
    have hmissing : files.contains path = false := OrderedMap.contains_eq_false.mpr hfile
    rw [hmissing]
    exact ⟨_, rfl⟩
  | some config =>
    have hexists : files.contains path = true := by
      rw [OrderedMap.contains, hfile]
      rfl
    rw [hexists, if_pos rfl]
    dsimp only
    rw [if_neg (h.2 config hfile)]
    dsimp only
    split_ifs
    · exact ⟨_, rfl⟩
    · exact ⟨_, rfl⟩

theorem loadOrCreateConfig_not_loads {files : ConfigFiles} {path : String}
    (h : ¬ Loads files path) (hpath : path ≠ "") (generated : String) :
    ∃ error, loadOrCreateConfig generated files path = .error error := by
  have hzero : ∃ config, files.find? path = some config ∧ config.version = 0 := by
    simpa [Loads, hpath] using h
  obtain ⟨config, hfile, hversion⟩ := hzero
  refine ⟨.invalidConfig, ?_⟩
  have hexists : files.contains path = true := by
    rw [OrderedMap.contains, hfile]
    rfl
  simp [loadOrCreateConfig, loadConfig, hexists, hfile, hversion]

theorem loaded_loads (pages : Pages P E) (generated pathText : String)
    (h : Loads pages.files (trimmed pathText)) :
    (pages.loaded generated pathText).settings.mModel =
      ⟨configOf generated pages.files (trimmed pathText), trimmed pathText⟩ := by
  obtain ⟨files', hload⟩ := loadOrCreateConfig_loads h generated
  simp [loaded, SettingsPresenter.loadConfigPath, SettingsModel.loadOrCreate, h.1, hload,
    SettingsPresenter.showSuccess]

theorem loaded_not_loads (pages : Pages P E) (generated pathText : String)
    (h : ¬ Loads pages.files (trimmed pathText)) :
    (pages.loaded generated pathText).settings.mModel = pages.settings.mModel ∧
      (pages.loaded generated pathText).files = pages.files := by
  by_cases hpath : trimmed pathText = ""
  · simp [loaded, SettingsPresenter.loadConfigPath, hpath,
      SettingsPresenter.showValidationError]
  · obtain ⟨error, hload⟩ := loadOrCreateConfig_not_loads h hpath generated
    simp [loaded, SettingsPresenter.loadConfigPath, SettingsModel.loadOrCreate, hpath, hload,
      SettingsPresenter.showError]

theorem publishConfig_agreed (h : pages.Agreed) : pages.publishConfig ids = pages := by
  rw [publishConfig, configPathChanged_agreed h]

theorem publishConfig_not_agreed (h : ¬ pages.Agreed) : pages.publishConfig ids =
    (pages.told pages.settingsPath).loaded (ids 0) (trimmed pages.settingsPath) := by
  have htold := told_runtimePath pages.settingsPath pages
  rw [publishConfig, configPathChanged_not_agreed h]
  dsimp only
  rw [htold]
  exact loadConfigPath_eq (loadWithin_settled (by rw [htold, trimmed_trimmed]) 1)

theorem publishWith_mModel (pages : Pages P E) (ids : Nat → String)
    (message : String → String) :
    (pages.publishWith ids message).settings.mModel =
      (pages.publishConfig ids).settings.mModel := by
  rw [publishWith, SettingsPresenter.showSuccess]

/-- On pages that agree an edit is an edit of the copy alone. -/
theorem edit_agreed (h : pages.Agreed) (ids : Nat → String) (edit : SettingsEdit) :
    pages.edit ids edit = { pages with settings := pages.settings.edited edit } := by
  unfold Pages.edit
  dsimp only
  split_ifs with herror
  · rfl
  · have hagreed : Agreed { pages with settings := pages.settings.edited edit } := by
      change pages.runtimePath = trimmed (pages.settings.edited edit).mModel.mPath
      rw [SettingsPresenter.edited_mPath]
      exact h
    have hshown : (pages.settings.edited edit).showSuccess
        (pages.settings.edited edit).mStatusMessage = pages.settings.edited edit := by
      rw [SettingsPresenter.showSuccess, ← Bool.eq_false_of_not_eq_true herror]
    rw [publishWith, publishConfig_agreed hagreed]
    dsimp only
    rw [hshown]

/-- On pages that do not agree the file that the settings page names replaces the copy, the
edit included. -/
theorem edit_not_agreed (h : ¬ pages.Agreed) (ids : Nat → String) (edit : SettingsEdit)
    (haccepted : (pages.settings.edited edit).mHasError = false) :
    (pages.edit ids edit).settings.config =
      if Loads pages.files (trimmed pages.settingsPath) then
        configOf (ids 0) pages.files (trimmed pages.settingsPath)
      else (pages.settings.edited edit).config := by
  have hnot : ¬ Agreed { pages with settings := pages.settings.edited edit } := by
    intro hagreed
    apply h
    have hpath : pages.runtimePath = trimmed (pages.settings.edited edit).mModel.mPath := hagreed
    rwa [SettingsPresenter.edited_mPath] at hpath
  have hpublished : (pages.edit ids edit).settings.mModel =
      (publishConfig ids
        { pages with settings := pages.settings.edited edit }).settings.mModel := by
    unfold Pages.edit
    dsimp only
    rw [if_neg (by simp [haccepted]), publishWith_mModel]
  have hpath : settingsPath { pages with settings := pages.settings.edited edit } =
      pages.settingsPath := SettingsPresenter.edited_mPath _ _
  rw [SettingsPresenter.config, hpublished, publishConfig_not_agreed hnot, hpath]
  generalize htold : told pages.settingsPath
    { pages with settings := pages.settings.edited edit } = telling
  have hfiles : telling.files = pages.files := by rw [← htold, told_files]
  have hsettings : telling.settings = pages.settings.edited edit := by rw [← htold, told_settings]
  rw [← hfiles]
  split_ifs with hloads
  · rw [← trimmed_trimmed] at hloads
    rw [loaded_loads _ _ _ hloads, trimmed_trimmed]
  · rw [← trimmed_trimmed] at hloads
    rw [(loaded_not_loads _ _ _ hloads).1, hsettings]
    rfl

/-- No file is loaded over the edit: it is refused, both pages name one file, or the file that
the settings page names cannot be loaded. -/
def Undisturbed (pages : Pages P E) (edit : SettingsEdit) : Prop :=
  (pages.settings.edited edit).mHasError = true ∨ pages.Agreed ∨
    ¬ Loads pages.files (trimmed pages.settingsPath)

instance (pages : Pages P E) (edit : SettingsEdit) : Decidable (pages.Undisturbed edit) :=
  inferInstanceAs (Decidable (_ ∨ _))

theorem edit_mHasError (pages : Pages P E) (ids : Nat → String) (edit : SettingsEdit) :
    (pages.edit ids edit).settings.mHasError = (pages.settings.edited edit).mHasError := by
  unfold Pages.edit
  dsimp only
  split_ifs with hrefused
  · rfl
  · exact (Bool.eq_false_of_not_eq_true hrefused).symm

/-- Such an edit is an edit of the copy. -/
theorem edit_undisturbed {edit : SettingsEdit} (h : pages.Undisturbed edit) (ids : Nat → String) :
    (pages.edit ids edit).settings.config = (pages.settings.edited edit).config := by
  by_cases hagreed : pages.Agreed
  · rw [edit_agreed hagreed]
  cases hrefused : (pages.settings.edited edit).mHasError with
  | true =>
    unfold Pages.edit
    dsimp only
    rw [if_pos hrefused]
  | false =>
    rcases h with hyes | hyes | hloads
    · rw [hrefused] at hyes
      cases hyes
    · exact absurd hyes hagreed
    · rw [edit_not_agreed hagreed ids edit hrefused, if_neg hloads]

theorem loadConfigPath_not_loads (ids : Nat → String) {pathText : String}
    (hloads : ¬ Loads pages.files (trimmed pathText)) :
    (loadConfigPath ids pathText pages).settings.mModel = pages.settings.mModel ∧
      (loadConfigPath ids pathText pages).app = pages.app ∧
      (loadConfigPath ids pathText pages).files = pages.files := by
  by_cases hpath : trimmed pathText = ""
  · rw [loadConfigPath_eq (by rw [loadWithin, if_pos hpath])]
    exact ⟨rfl, rfl, rfl⟩
  · obtain ⟨error, hload⟩ := loadOrCreateConfig_not_loads hloads hpath (ids 0)
    rw [loadConfigPath_eq (by rw [loadWithin, if_neg hpath, SettingsModel.loadOrCreate, hload])]
    exact ⟨rfl, rfl, rfl⟩

end Pages

/-! ### Every run of the pages -/

namespace RuntimePresenter

variable {presenter presenter' : RuntimePresenter} {service : Service P E}

end RuntimePresenter

namespace Pages

variable {toolkit : Toolkit E} {pages pages' : Pages P E}
  {actions : List ((Nat → String) × PagesAction P)}

def fixedIds (_ : Nat) : String := "mks-00"

def rightFiles : ConfigFiles :=
  saveConfig .empty "right.json" { machineId := "mks-01", screens := [⟨"mks-01", 0, ⟨0, 0⟩⟩] }

def openedPages : Pages Nat String := opened fixedIds rightFiles

/-- Startup parameters are imported that name a broken file. -/
def brokenPages : Pages Nat String :=
  ((opened fixedIds (saveConfig .empty "broken.json" { version := 0 })).runtime
    Application.plainToolkit fixedIds (.importStartupConfig (some "start.toml")
      (.ok (.service { common := { configPath := "broken.json" } })))).getD openedPages

end Pages
end Gui
end Mksync
