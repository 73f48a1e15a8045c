import Mksync.AppConfig

/-!
# The settings of the GUI

The model owns a copy of the whole configuration and the path it was loaded from. The
presenter edits the copy; only a save writes the file.
-/
namespace Mksync

/-- The contents of the configuration files by path, as `loadConfig` reads them back. -/
abbrev ConfigFiles := OrderedMap String AppConfig

inductive ConfigError
  | invalidConfig | serializeFailed | deserializeFailed | ioError
  deriving DecidableEq, Repr

/-- An error's message is the name of its enumerator. -/
def ConfigError.message : ConfigError → String
  | .invalidConfig => "InvalidConfig"
  | .serializeFailed => "SerializeFailed"
  | .deserializeFailed => "DeserializeFailed"
  | .ioError => "IoError"

/-- A generated id is taken only when there is none yet. -/
def ensureMachineId (generated : String) (config : AppConfig) : AppConfig :=
  if config.machineId = "" then { config with machineId := generated } else config

def loadConfig (files : ConfigFiles) (path : String) : Except ConfigError AppConfig :=
  match files.find? path with
  | none => .error .ioError
  | some config => if config.version = 0 then .error .invalidConfig else .ok config

/-- Writes that succeed, as an assignment of the whole file. -/
def saveConfig (files : ConfigFiles) (path : String) (config : AppConfig) : ConfigFiles :=
  files.insertOrAssign path config

def loadOrCreateConfig (generated : String) (files : ConfigFiles) (path : String) :
    Except ConfigError (AppConfig × ConfigFiles) :=
  if files.contains path then
    match loadConfig files path with
    | .error error => .error error
    | .ok config =>
      let ensured := ensureMachineId generated config
      if ensured.machineId ≠ config.machineId then .ok (ensured, saveConfig files path ensured)
      else .ok (ensured, files)
  else
    let config := ensureMachineId generated {}
    .ok (config, saveConfig files path config)

@[simp] theorem ensureMachineId_screens (generated : String) (config : AppConfig) :
    (ensureMachineId generated config).screens = config.screens := by
  unfold ensureMachineId
  split_ifs <;> rfl

@[simp] theorem ensureMachineId_trustedClients (generated : String) (config : AppConfig) :
    (ensureMachineId generated config).trustedClients = config.trustedClients := by
  unfold ensureMachineId
  split_ifs <;> rfl

theorem ensureMachineId_eq_self {generated : String} {config : AppConfig}
    (h : (ensureMachineId generated config).machineId = config.machineId) :
    ensureMachineId generated config = config := by
  unfold ensureMachineId at h ⊢
  split_ifs at h ⊢ with hempty
  · obtain rfl : generated = config.machineId := h
    rfl
  · rfl

theorem find?_saveConfig (files : ConfigFiles) (path : String) (config : AppConfig) :
    (saveConfig files path config).find? path = some config := by
  simp [saveConfig]

/-- What is loaded is in the file afterwards, with the screens and the trusted clients that
the file had before; a file that does not exist has none. -/
theorem loadOrCreateConfig_ok {generated path : String} {files files' : ConfigFiles}
    {config : AppConfig} (h : loadOrCreateConfig generated files path = .ok (config, files')) :
    files'.find? path = some config ∧
      config.screens = ((files.find? path).getD {}).screens ∧
      config.trustedClients = ((files.find? path).getD {}).trustedClients := by
  unfold loadOrCreateConfig at h
  split_ifs at h with hexists
  · unfold loadConfig at h
    cases hfile : files.find? path with
    | none =>
      rw [OrderedMap.contains, hfile] at hexists
      cases hexists
    | some found =>
      rw [hfile] at h
      dsimp only at h
      by_cases hversion : found.version = 0
      · rw [if_pos hversion] at h
        cases h
      · rw [if_neg hversion] at h
        dsimp only at h
        by_cases hid : (ensureMachineId generated found).machineId ≠ found.machineId
        · rw [if_pos hid] at h
          cases h
          exact ⟨find?_saveConfig _ _ _, ensureMachineId_screens _ _,
            ensureMachineId_trustedClients _ _⟩
        · have hsame : ensureMachineId generated found = found :=
            ensureMachineId_eq_self (not_not.mp hid)
          rw [if_neg hid, hsame] at h
          cases h
          exact ⟨hfile, rfl, rfl⟩
  · have hfile : files.find? path = none := OrderedMap.contains_eq_false.mp (by simpa using hexists)
    cases h
    rw [hfile]
    exact ⟨find?_saveConfig _ _ _, ensureMachineId_screens _ _, ensureMachineId_trustedClients _ _⟩

structure SettingsModel where
  mConfig : AppConfig
  mPath : String
  deriving DecidableEq

namespace SettingsModel

def loadOrCreate (generated : String) (files : ConfigFiles) (path : String) :
    Except ConfigError (SettingsModel × ConfigFiles) :=
  match loadOrCreateConfig generated files path with
  | .error error => .error error
  | .ok (config, files) => .ok (⟨config, path⟩, files)

def save (model : SettingsModel) (files : ConfigFiles) : Except ConfigError ConfigFiles :=
  if model.mPath = "" then .error .invalidConfig
  else .ok (saveConfig files model.mPath model.mConfig)

end SettingsModel

/-- `QChar::isSpace`. -/
def isSpace (c : Char) : Bool :=
  (0x09 ≤ c.toNat && c.toNat ≤ 0x0d) || c.toNat == 0x20 || c.toNat == 0x85 || c.toNat == 0xa0 ||
    c.toNat == 0x1680 || (0x2000 ≤ c.toNat && c.toNat ≤ 0x200a) || c.toNat == 0x2028 ||
    c.toNat == 0x2029 || c.toNat == 0x202f || c.toNat == 0x205f || c.toNat == 0x3000

/-- `QString::trimmed`. -/
def trimmed (text : String) : String :=
  String.ofList ((text.toList.dropWhile isSpace).reverse.dropWhile isSpace).reverse

structure SettingsPresenter where
  mModel : SettingsModel
  mStatusMessage : String := ""
  mHasError : Bool := false
  deriving DecidableEq

namespace SettingsPresenter

def config (presenter : SettingsPresenter) : AppConfig := presenter.mModel.mConfig

def setConfig (presenter : SettingsPresenter) (config : AppConfig) : SettingsPresenter :=
  { presenter with mModel := { presenter.mModel with mConfig := config } }

def showSuccess (presenter : SettingsPresenter) (message : String) : SettingsPresenter :=
  { presenter with mStatusMessage := message, mHasError := false }

def showValidationError (presenter : SettingsPresenter) (message : String) : SettingsPresenter :=
  { presenter with mStatusMessage := message, mHasError := true }

def showError (presenter : SettingsPresenter) (action : String) (error : ConfigError) :
    SettingsPresenter :=
  { presenter with mStatusMessage := s!"{action}：{error.message}", mHasError := true }

/-- `row` as an index of a list of the given length, if it is one. -/
def rowIndex (row : Int) (length : Nat) : Option Nat :=
  if row < 0 ∨ row.toNat ≥ length then none else some row.toNat

/-- Rows other than the ignored one are compared. -/
def cellIsOccupied (presenter : SettingsPresenter) (x y : Int) (ignoredRow : Option Nat) : Bool :=
  presenter.config.screens.zipIdx.any fun (screen, row) =>
    some row ≠ ignoredRow && screen.cell = ⟨x, y⟩

/-! ### The edits

What an edit does to the presenter alone. `publishConfig` only emits signals; an application that
connects them to another presenter adds what they set off between the edit and its message.
-/

def addScreen (presenter : SettingsPresenter) (ownerId : String) (screenIndex x y : Int) :
    SettingsPresenter :=
  let trimmedOwnerId := trimmed ownerId
  if trimmedOwnerId = "" then presenter.showValidationError "设备 ID 不能为空。"
  else if screenIndex < 0 then presenter.showValidationError "屏幕编号不能为负数。"
  else
    let existingRow := presenter.config.screens.findIdx? fun screen =>
      screen.ownerId = trimmedOwnerId && screen.screenIndex = screenIndex.toNat
    if presenter.cellIsOccupied x y existingRow then
      presenter.showValidationError "该网格坐标已经被其他屏幕占用。"
    else
      (presenter.setConfig (upsertScreenLayout presenter.config
        ⟨trimmedOwnerId, screenIndex.toNat, ⟨x, y⟩⟩)).showSuccess "屏幕布局已更新。"

def moveScreen (presenter : SettingsPresenter) (row x y : Int) : SettingsPresenter :=
  match rowIndex row presenter.config.screens.length with
  | none => presenter.showValidationError "找不到要移动的屏幕。"
  | some row =>
    if presenter.cellIsOccupied x y (some row) then
      presenter.showValidationError "该网格坐标已经被其他屏幕占用。"
    else
      (presenter.setConfig { presenter.config with
        screens := presenter.config.screens.modify row fun screen =>
          { screen with cell := ⟨x, y⟩ } }).showSuccess "屏幕位置已更新；记得保存配置。"

def removeScreen (presenter : SettingsPresenter) (row : Int) : SettingsPresenter :=
  match rowIndex row presenter.config.screens.length with
  | none => presenter.showValidationError "找不到要移除的屏幕。"
  | some row =>
    (presenter.setConfig { presenter.config with
      screens := presenter.config.screens.eraseIdx row }).showSuccess "已移除屏幕布局。"

def addTrustedClient (presenter : SettingsPresenter) (machineId name : String) :
    SettingsPresenter :=
  let trimmedMachineId := trimmed machineId
  let trimmedName := trimmed name
  if trimmedMachineId = "" ∧ trimmedName = "" then
    presenter.showValidationError "请输入设备 ID 或显示名称。"
  else
    (presenter.setConfig { presenter.config with
      trustedClients := presenter.config.trustedClients ++ [⟨trimmedMachineId, trimmedName⟩] })
    |>.showSuccess "已添加可信设备。"

def removeTrustedClient (presenter : SettingsPresenter) (row : Int) : SettingsPresenter :=
  match rowIndex row presenter.config.trustedClients.length with
  | none => presenter.showValidationError "找不到要移除的可信设备。"
  | some row =>
    (presenter.setConfig { presenter.config with
      trustedClients := presenter.config.trustedClients.eraseIdx row })
    |>.showSuccess "已移除可信设备。"

/-! ### Loading and saving -/

/-- A failed load keeps the copy and the path. -/
def loadConfigPath (presenter : SettingsPresenter) (generated : String) (files : ConfigFiles)
    (pathText : String) : SettingsPresenter × ConfigFiles :=
  let path := trimmed pathText
  if path = "" then (presenter.showValidationError "屏幕配置文件路径不能为空。", files)
  else
    match SettingsModel.loadOrCreate generated files path with
    | .error error => (presenter.showError "无法载入屏幕配置" error, files)
    | .ok (model, files) =>
      ({ presenter with mModel := model }.showSuccess s!"已载入 {model.mPath}", files)

/-- A save without a path changes no file. -/
def save (presenter : SettingsPresenter) (files : ConfigFiles) :
    SettingsPresenter × ConfigFiles :=
  match presenter.mModel.save files with
  | .error _ =>
    (presenter.showValidationError "此配置尚未指定文件。请选择“另存为”。", files)
  | .ok files => (presenter.showSuccess s!"已保存到 {presenter.mModel.mPath}", files)

/-! ### What the edits do -/

theorem rowIndex_eq_some {row : Int} {length index : Nat} :
    rowIndex row length = some index ↔ row = index ∧ index < length := by
  unfold rowIndex
  split_ifs with h
  · simp only [false_iff]
    omega
  · simp only [Option.some.injEq]
    omega

theorem rowIndex_eq_none {row : Int} {length : Nat} :
    rowIndex row length = none ↔ row < 0 ∨ (length : Int) ≤ row := by
  unfold rowIndex
  split_ifs with h
  · simp only [true_iff]
    omega
  · simp only [false_iff]
    omega

/-- A load is refused and changes no file, or the copy is what the file of the path has. -/
theorem loadConfigPath_cases (presenter : SettingsPresenter) (generated : String)
    (files : ConfigFiles) (pathText : String) :
    ((presenter.loadConfigPath generated files pathText).1.mHasError = true ∧
      (presenter.loadConfigPath generated files pathText).1.mModel = presenter.mModel ∧
      (presenter.loadConfigPath generated files pathText).2 = files) ∨
    ∃ config files', trimmed pathText ≠ "" ∧
      loadOrCreateConfig generated files (trimmed pathText) = .ok (config, files') ∧
      (presenter.loadConfigPath generated files pathText).1.mHasError = false ∧
      (presenter.loadConfigPath generated files pathText).1.mModel = ⟨config, trimmed pathText⟩ ∧
      (presenter.loadConfigPath generated files pathText).2 = files' := by
  unfold loadConfigPath SettingsModel.loadOrCreate
  by_cases hpath : trimmed pathText = ""
  · rw [if_pos hpath]
    exact .inl ⟨rfl, rfl, rfl⟩
  · rw [if_neg hpath]
    cases hload : loadOrCreateConfig generated files (trimmed pathText) with
    | error error => exact .inl ⟨rfl, rfl, rfl⟩
    | ok loaded => exact .inr ⟨loaded.1, loaded.2, hpath, rfl, rfl, rfl, rfl⟩

/-- A removal takes one row out of the list, or there is no such row. -/
theorem removeTrustedClient_cases (presenter : SettingsPresenter) (row : Int) :
    (presenter.removeTrustedClient row).config.trustedClients =
        presenter.config.trustedClients ∧
      (row < 0 ∨ (presenter.config.trustedClients.length : Int) ≤ row) ∨
    ∃ index < presenter.config.trustedClients.length, row = index ∧
      (presenter.removeTrustedClient row).config.trustedClients =
        presenter.config.trustedClients.eraseIdx index := by
  unfold removeTrustedClient
  cases h : rowIndex row presenter.config.trustedClients.length with
  | none => exact .inl ⟨rfl, rowIndex_eq_none.mp h⟩
  | some index =>
    have hindex := rowIndex_eq_some.mp h
    exact .inr ⟨index, hindex.2, hindex.1, rfl⟩

end SettingsPresenter
end Mksync
