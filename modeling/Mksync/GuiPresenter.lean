import Mksync.BackendSelection
import Mksync.ClientIdentity
import Mksync.TransitionRuns
import Mathlib.Data.List.DropRight

/-!
# The service that the GUI runs

The runtime page keeps the startup command, spawns the service as a coroutine and follows it
through its states. Everything on the page can be used between two resumptions of the coroutine.
-/
namespace Mksync.Gui

open TransitionRuns

/-! ### The startup command -/

inductive RunMode
  | serverMode | clientMode
  deriving DecidableEq, Repr

/-- Every value but that of `ClientMode` means the server. -/
def RunMode.ofInt (mode : Int) : RunMode := if mode = 1 then .clientMode else .serverMode

def RunMode.requirement : RunMode → BackendRequirement
  | .serverMode => .capture
  | .clientMode => .injection

/-- `BackendRequirement::Screens | requirement`. -/
def RunMode.requirements (mode : RunMode) : BackendRequirement :=
  ⟨BackendRequirement.screens.flags ||| mode.requirement.flags⟩

structure CommonConfig where
  configPath : String := "mksync.json"
  logLevel : String := "info"
  backend : String := ""
  deriving DecidableEq, Repr

/-- A `ServerCommand` or a `ClientCommand`, by the mode. -/
structure ServiceCommand where
  mode : RunMode := .serverMode
  endpoint : String := "0.0.0.0:1234"
  common : CommonConfig := {}
  deriving DecidableEq, Repr

/-- The command without the path of the configuration. -/
def ServiceCommand.withoutPath (command : ServiceCommand) : ServiceCommand :=
  { command with common := { command.common with configPath := "" } }

inductive CliCommand
  | service (command : ServiceCommand)
  | checkPlatform (backend : String)
  | backend (list checked : Bool)
  deriving DecidableEq, Repr

/-- What Qt and the transport make of a text. -/
structure Toolkit (E : Type) where
  /-- `QString::toLower`. -/
  toLower : String → String
  /-- `QFileInfo::absoluteFilePath`. -/
  absoluteFilePath : String → String
  /-- `ilias::IPEndpoint::fromString`. -/
  fromString : String → Option E

inductive LogLevel
  | trace | info | warn | err | critical | off
  deriving DecidableEq, Repr

def parseLogLevel (toLower : String → String) (text : String) : LogLevel :=
  let normalized := toLower (trimmed text)
  if normalized = "trace" then .trace
  else if normalized = "warn" then .warn
  else if normalized = "error" then .err
  else if normalized = "critical" then .critical
  else if normalized = "off" then .off
  else .info

/-- The message of an error code of the generic category. -/
def errcMessage : Errc → String
  | .noSuchDevice => "No such device"
  | .operationNotSupported => "Operation not supported"

/-! ### The log -/

def codeUnits (c : Char) : List UInt16 :=
  if c.val < 0x10000 then [c.val.toUInt16]
  else
    let rest := c.val - 0x10000
    [(0xd800 : UInt16) + (rest >>> 10).toUInt16, (0xdc00 : UInt16) + (rest &&& 0x3ff).toUInt16]

/-- The code units that the size of a `QString` counts. -/
def utf16 (text : String) : List UInt16 := text.toList.flatMap codeUnits

def kMaximumLogLength : Nat := 64 * 1024

/-! ### The presenter -/

/-- The fields about the course of a service. -/
structure ServiceCourse where
  /-- Every start makes a new stop source. -/
  mStopSource : Nat := 0
  mState : RunState := .idle
  mRunError : String := ""
  mActiveBackendName : String := ""
  mActiveScreenTimer : Bool := false
  /-- The start whose server is pointed to. -/
  mRunningServer : Option Nat := none
  mActiveScreenOwnerId : String := ""
  mActiveScreenIndex : Int := -1
  mStopping : Bool := false
  mCompletedNormally : Bool := false
  mQuitWhenStopped : Bool := false
  /-- The stop sources that have been asked to stop. -/
  stopRequests : List Nat := []
  /-- Calls of `QCoreApplication::quit`. -/
  quits : Nat := 0
  deriving DecidableEq

structure RuntimePresenter extends ServiceCourse where
  mCommand : ServiceCommand := {}
  mStartupConfigPath : String := ""
  mStartupStatusMessage : String := "启动参数已就绪，可导出为命令行兼容的 TOML 文件。"
  mHasStartupError : Bool := false
  mStatusTitle : String := "未运行"
  mStatusDetail : String := "选择运行模式并启动 mksync。"
  mLogText : List UInt16 := []
  mBackendCheckText : String := "尚未检查后端能力。"
  mBackendChecking : Bool := false
  /-- History: what was appended to the log since it was last cleared. -/
  logged : List UInt16 := []
  deriving DecidableEq

namespace RuntimePresenter

def active (presenter : RuntimePresenter) : Bool := presenter.mState ≠ .idle

def endpoint (presenter : RuntimePresenter) : String := presenter.mCommand.endpoint

def logLevel (presenter : RuntimePresenter) : String := presenter.mCommand.common.logLevel

def appConfigPath (presenter : RuntimePresenter) : String := presenter.mCommand.common.configPath

def backendOptions {P : Type} (registry : BackendRegistry P) : List String :=
  "auto" :: registry.registeredBackends.map (·.descriptor.name)

def setCommon (presenter : RuntimePresenter) (common : CommonConfig) : RuntimePresenter :=
  { presenter with mCommand := { presenter.mCommand with common := common } }

def setStatus (presenter : RuntimePresenter) (title detail : String) : RuntimePresenter :=
  { presenter with mStatusTitle := title, mStatusDetail := detail }

def appendLog (presenter : RuntimePresenter) (text : String) : RuntimePresenter :=
  let mLogText := presenter.mLogText ++ utf16 text
  { presenter with
    mLogText :=
      if mLogText.length > kMaximumLogLength then
        mLogText.drop (mLogText.length - kMaximumLogLength)
      else mLogText
    logged := presenter.logged ++ utf16 text }

def clearedLog (presenter : RuntimePresenter) : RuntimePresenter :=
  { presenter with mLogText := [], logged := [] }

def showStartupSuccess (presenter : RuntimePresenter) (message : String) : RuntimePresenter :=
  { presenter with mStartupStatusMessage := message, mHasStartupError := false }

def showStartupValidationError (presenter : RuntimePresenter) (message : String) :
    RuntimePresenter :=
  { presenter with mStartupStatusMessage := message, mHasStartupError := true }

def showStartupError (presenter : RuntimePresenter) (action message : String) :
    RuntimePresenter :=
  presenter.showStartupValidationError s!"{action}：{message}"

/-! The pages set the command. The flag tells that `appConfigPathChanged` is emitted. -/

def setSelectedMode (presenter : RuntimePresenter) (mode : Int) : RuntimePresenter × Bool :=
  let nextMode := RunMode.ofInt mode
  if presenter.mCommand.mode = nextMode ∨ presenter.active then (presenter, false)
  else ({ presenter with mCommand := { presenter.mCommand with mode := nextMode } }, true)

def setEndpoint (presenter : RuntimePresenter) (endpointText : String) : RuntimePresenter :=
  let text := trimmed endpointText
  if text = "" ∨ presenter.endpoint = text ∨ presenter.active then presenter
  else { presenter with mCommand := { presenter.mCommand with endpoint := text } }

def setLogLevel (toLower : String → String) (presenter : RuntimePresenter) (level : String) :
    RuntimePresenter :=
  let normalized := toLower (trimmed level)
  if normalized ∉ ["trace", "info", "warn", "error", "critical", "off"] ∨
      presenter.logLevel = normalized ∨ presenter.active then presenter
  else presenter.setCommon { presenter.mCommand.common with logLevel := normalized }

def setSelectedBackend {P : Type} (toLower : String → String) (registry : BackendRegistry P)
    (presenter : RuntimePresenter) (backend : String) : RuntimePresenter :=
  if presenter.active then presenter
  else
    let normalized := toLower (trimmed backend)
    let value := if normalized = "auto" then "" else normalized
    if value ≠ "" ∧ value ∉ backendOptions registry then presenter
    else presenter.setCommon { presenter.mCommand.common with backend := value }

/-- The path alone can be set while a service runs. -/
def setAppConfigPath (presenter : RuntimePresenter) (path : String) : RuntimePresenter × Bool :=
  let normalized := trimmed path
  if presenter.appConfigPath = normalized then (presenter, false)
  else (presenter.setCommon { presenter.mCommand.common with configPath := normalized }, true)

def createStartupConfig (presenter : RuntimePresenter) : RuntimePresenter × Bool :=
  if presenter.active then (presenter, false)
  else
    ({ presenter with mCommand := {}, mStartupConfigPath := "" }.showStartupSuccess
      "已创建新的服务端启动参数。选择“导出…”以写入 TOML 文件。", true)

/-- The path is that of a local file, and what is imported from it is the command or the
message of an error. -/
def importStartupConfig (presenter : RuntimePresenter) (path : Option String)
    (imported : Except String CliCommand) : RuntimePresenter × Bool :=
  if presenter.active then
    (presenter.showStartupValidationError "请先停止正在运行的服务，再导入启动参数。", false)
  else
    match path with
    | none => (presenter.showStartupValidationError "只能导入本地 TOML 文件。", false)
    | some path =>
      match imported with
      | .error message => (presenter.showStartupError "导入启动参数失败" message, false)
      | .ok (.service command) =>
        ({ presenter with mCommand := command, mStartupConfigPath := path }.showStartupSuccess
          s!"已导入 {path}", true)
      | .ok _ =>
        (presenter.showStartupValidationError "GUI 只能载入 server 或 client 启动参数。", false)

def saveStartupConfig (presenter : RuntimePresenter) (saved : Except String Unit) :
    RuntimePresenter :=
  if presenter.mStartupConfigPath = "" then
    presenter.showStartupValidationError "启动参数尚未指定文件。请选择“导出…”。"
  else
    match saved with
    | .error message => presenter.showStartupError "导出启动参数失败" message
    | .ok () => presenter.showStartupSuccess s!"已导出到 {presenter.mStartupConfigPath}"

def saveStartupConfigAs (presenter : RuntimePresenter) (path : Option String)
    (saved : Except String Unit) : RuntimePresenter :=
  match path with
  | none => presenter.showStartupValidationError "请选择本地 TOML 保存位置。"
  | some path =>
    match saved with
    | .error message => presenter.showStartupError "导出启动参数失败" message
    | .ok () =>
      { presenter with mStartupConfigPath := path }.showStartupSuccess s!"已导出到 {path}"

def stop (presenter : RuntimePresenter) : RuntimePresenter :=
  if ¬ presenter.active ∨ presenter.mStopping then presenter
  else
    let stopping := { presenter with mStopping := true, mState := .stopping }
    let logged := (stopping.setStatus "正在停止" "正在安全关闭键鼠同步服务…").appendLog
      "[GUI] 已请求停止。\n"
    { logged with stopRequests := logged.stopRequests ++ [logged.mStopSource] }

def clearLog (presenter : RuntimePresenter) : RuntimePresenter :=
  if presenter.mLogText = [] then presenter else presenter.clearedLog

def quitApplication (presenter : RuntimePresenter) : RuntimePresenter :=
  if ¬ presenter.active then { presenter with quits := presenter.quits + 1 }
  else { presenter with mQuitWhenStopped := true }.stop

/-- The conversion of the index to `int`. -/
def screenIndexValue (screenIndex : Nat) : Int := Int.bmod screenIndex (2 ^ 32)

/-- The key is what the running server answers. -/
def refreshActiveScreen (presenter : RuntimePresenter) (key : Option ScreenKey) :
    RuntimePresenter :=
  match presenter.mRunningServer, key with
  | some _, some key =>
    { presenter with
      mActiveScreenOwnerId := key.ownerId
      mActiveScreenIndex := screenIndexValue key.screenIndex }
  | _, _ => { presenter with mActiveScreenOwnerId := "", mActiveScreenIndex := -1 }

def clearRunningServer (presenter : RuntimePresenter) : RuntimePresenter :=
  { presenter with mActiveScreenTimer := false, mRunningServer := none }.refreshActiveScreen none

/-- The status that a run ends with. -/
def showEnd (presenter : RuntimePresenter) : RuntimePresenter :=
  if presenter.mStopping then
    (presenter.appendLog "[GUI] mksync 已停止。\n").setStatus "已停止" "键鼠同步服务已安全关闭。"
  else if presenter.mRunError ≠ "" then
    (presenter.appendLog s!"[GUI] 运行失败：{presenter.mRunError}\n").setStatus "运行失败"
      presenter.mRunError
  else if presenter.mCompletedNormally then
    (presenter.appendLog "[GUI] 服务已退出。\n").setStatus "服务已退出" "mksync 已结束运行。"
  else presenter.setStatus "已停止" "键鼠同步服务已结束。"

def finishRun (presenter : RuntimePresenter) : RuntimePresenter :=
  let ended :=
    { presenter.showEnd with mStopping := false, mState := .idle, mActiveBackendName := "" }
  if ended.mQuitWhenStopped then { ended with quits := ended.quits + 1 } else ended

end RuntimePresenter

/-! ### The backend checks -/

structure CheckedBackend (P : Type) where
  descriptor : BackendDescriptor P
  check : BackendCheck

def checkBackends {P : Type} (registry : BackendRegistry P) : List (CheckedBackend P) :=
  registry.registeredBackends.map fun backend =>
    ⟨backend.descriptor, registry.checkBackend backend.descriptor.name⟩

def mark (check : BackendFeatureCheck) : String := if check.supported then "✓" else "✗"

def checkLines {P : Type} (backend : CheckedBackend P) : List String :=
  let check := backend.check
  let available := if check.available then "可连接" else "不可用"
  [s!"{backend.descriptor.name} · {backend.descriptor.displayName} · {available}",
    s!"  屏幕 {mark check.screens}  捕获 {mark check.capture}  注入 {mark check.injection}",
    s!"  {check.detail}"] ++
  (if ¬ check.capture.supported ∧ check.capture.detail ≠ "" then
    [s!"  捕获：{check.capture.detail}"] else []) ++
  (if ¬ check.injection.supported ∧ check.injection.detail ≠ "" then
    [s!"  注入：{check.injection.detail}"] else [])

/-! ### The service -/

/-- Where the coroutine of a service waits. -/
inductive ServicePoint (P : Type)
  | spawned
  /-- In `selectBackend`, with its arguments. -/
  | selecting (backend : String) (requirements : BackendRequirement)
  /-- In the `run` of the server or the client, or for the stop source. -/
  | serving (mode : RunMode) (selection : PlatformSelection P) (token : Nat)

structure Service (P E : Type) where
  run : Nat
  endpoint : E
  config : AppConfig
  configPath : String
  point : ServicePoint P := .spawned
  /-- History: the command that the service was started with. -/
  command : ServiceCommand

/-- The GUI: the page, the coroutines it has spawned and the level of the logger. -/
structure Application (P E : Type) where
  presenter : RuntimePresenter := {}
  services : List (Service P E) := []
  checks : Nat := 0
  level : LogLevel := .info

/-- What a service is resumed with. -/
inductive Resumption (P : Type)
  | begun
  /-- The registry is what the backends answer by now. -/
  | selected (registry : BackendRegistry P)
  | canceled
  | completed (result : Except String Unit)
  | threw (what : String)

variable {P E : Type}

namespace RuntimePresenter

def start (toolkit : Toolkit E) (files : ConfigFiles) (presenter : RuntimePresenter) :
    RuntimePresenter × Option (Service P E) :=
  if presenter.active then (presenter, none)
  else
    match toolkit.fromString presenter.endpoint with
    | none => (presenter.setStatus "无法启动" "请输入有效的 IP 地址和端口。", none)
    | some endpoint =>
      if trimmed presenter.appConfigPath = "" then
        (presenter.setStatus "无法启动" "当前配置尚未保存，请先保存配置文件。", none)
      else
        let path := toolkit.absoluteFilePath presenter.appConfigPath
        match loadConfig files path with
        | .error error => (presenter.setStatus "无法读取配置" error.message, none)
        | .ok config =>
          let run := presenter.mStopSource + 1
          let starting := { presenter.clearedLog with
            mStopping := false
            mCompletedNormally := false
            mStopSource := run
            mRunError := ""
            mState := .starting }
          let shown := starting.setStatus "正在启动" (match presenter.mCommand.mode with
            | .serverMode => s!"正在准备监听 {presenter.endpoint}"
            | .clientMode => s!"正在连接 {presenter.endpoint}")
          let level := presenter.logLevel
          (shown.appendLog (match presenter.mCommand.mode with
            | .serverMode => s!"[GUI] 以服务端模式启动，监听 {presenter.endpoint}，日志等级 {level}\n"
            | .clientMode => s!"[GUI] 以客户端模式启动，连接 {presenter.endpoint}，日志等级 {level}\n"),
            some { run, endpoint, config, configPath := path, command := presenter.mCommand })

/-- The selection is made: the state is set to running, whatever it was. -/
def enterService (presenter : RuntimePresenter) (selection : PlatformSelection P) :
    RuntimePresenter :=
  let running := { presenter with
    mActiveBackendName := selection.descriptor.displayName
    mState := .running }
  let shown := match presenter.mCommand.mode with
    | .serverMode => running.setStatus "服务端运行中" s!"正在监听 {presenter.endpoint}"
    | .clientMode => running.setStatus "客户端运行中" s!"已连接到 {presenter.endpoint}"
  shown.appendLog "[GUI] 输入后端已初始化。\n"

/-- A server is pointed to while it runs. A new server has no active screen. -/
def enterServer (presenter : RuntimePresenter) (run : Nat) : RuntimePresenter :=
  { presenter with mRunningServer := some run, mActiveScreenTimer := true }.refreshActiveScreen
    none

/-- The body until it waits again, `none` where it has ended. -/
def runServiceBody (presenter : RuntimePresenter) (service : Service P E) :
    Resumption P → Option (RuntimePresenter × Option (Service P E))
  | .begun =>
    match service.point with
    | .spawned =>
      let point : ServicePoint P :=
        .selecting presenter.mCommand.common.backend presenter.mCommand.mode.requirements
      some (presenter, some { service with point })
    | _ => none
  | .selected registry =>
    match service.point with
    | .selecting backend requirements =>
      match registry.selectBackend backend requirements with
      | .error error =>
        let mRunError := s!"没有满足当前运行模式的可用输入后端：{errcMessage error}"
        some ({ presenter with mRunError }, none)
      | .ok selection =>
        let entered := presenter.enterService selection
        let point : ServicePoint P :=
          .serving presenter.mCommand.mode selection presenter.mStopSource
        match presenter.mCommand.mode with
        | .serverMode => some (entered.enterServer service.run, some { service with point })
        | .clientMode => some (entered, some { service with point })
    | _ => none
  | .canceled =>
    match service.point with
    | .serving _ _ token =>
      if token ∈ presenter.stopRequests then
        some ({ presenter with mStopping := true }.clearRunningServer, none)
      else none
    | _ => none
  | .completed result =>
    match service.point with
    | .serving .. =>
      let completed := { presenter with mCompletedNormally := true }
      match result with
      | .ok () => some (completed.clearRunningServer, none)
      | .error message => some ({ completed with mRunError := message }.clearRunningServer, none)
    | _ => none
  | .threw what =>
    match service.point with
    | .spawned => none
    | _ => some ({ presenter with mRunError := what }.clearRunningServer, none)

/-- The end of the body finishes the run. -/
def runService (presenter : RuntimePresenter) (service : Service P E)
    (resumption : Resumption P) : Option (RuntimePresenter × Option (Service P E)) :=
  match presenter.runServiceBody service resumption with
  | none => none
  | some (presenter, none) => some (presenter.finishRun, none)
  | some (presenter, some service) => some (presenter, some service)

end RuntimePresenter

/-! ### The application -/

inductive Action (P : Type)
  | setSelectedMode (mode : Int)
  | setEndpoint (endpoint : String)
  | setLogLevel (level : String)
  | setSelectedBackend (registry : BackendRegistry P) (backend : String)
  | setAppConfigPath (path : String)
  | createStartupConfig
  | importStartupConfig (path : Option String) (imported : Except String CliCommand)
  | saveStartupConfig (saved : Except String Unit)
  | saveStartupConfigAs (path : Option String) (saved : Except String Unit)
  | start (files : ConfigFiles)
  | stop
  | clearLog
  | refreshBackendChecks
  | quitApplication
  /-- A message of the logger arrives through the event queue. -/
  | logMessage (text : String)
  /-- The timer of the active screen, with what a running server answers. -/
  | timeout (key : Option ScreenKey)
  /-- A service goes on. -/
  | resume (index : Nat) (resumption : Resumption P)
  /-- The checks of the backends come to their end. -/
  | checked (registry : BackendRegistry P)

namespace Application

def setPresenter (app : Application P E) (presenter : RuntimePresenter) : Application P E :=
  { app with presenter }

def refreshBackendChecks (app : Application P E) : Application P E :=
  if app.presenter.mBackendChecking then app
  else { app with
    presenter := { app.presenter with
      mBackendChecking := true
      mBackendCheckText := "正在检查已注册的后端…" }
    checks := app.checks + 1 }

def runBackendChecks (registry : BackendRegistry P) (app : Application P E) :
    Option (Application P E) :=
  if app.checks = 0 then none
  else
    let mBackendCheckText := "\n".intercalate ((checkBackends registry).flatMap checkLines)
    some { app with
      presenter := { app.presenter with mBackendChecking := false, mBackendCheckText }
      checks := app.checks - 1 }

def start (toolkit : Toolkit E) (files : ConfigFiles) (app : Application P E) :
    Application P E :=
  let (presenter, service) := app.presenter.start toolkit files
  { app with presenter, services := app.services ++ service.toList }

/-- The level is set when a service begins. -/
def resume (toolkit : Toolkit E) (index : Nat) (resumption : Resumption P)
    (app : Application P E) : Option (Application P E) :=
  match app.services[index]? with
  | none => none
  | some service =>
    match app.presenter.runService service resumption with
    | none => none
    | some (presenter, service') =>
      let services := match service' with
        | some service' => app.services.set index service'
        | none => app.services.eraseIdx index
      let level := match resumption with
        | .begun => parseLogLevel toolkit.toLower app.presenter.logLevel
        | _ => app.level
      some { app with presenter, services, level }

def step (toolkit : Toolkit E) (app : Application P E) : Action P → Option (Application P E)
  | .setSelectedMode mode => some (app.setPresenter (app.presenter.setSelectedMode mode).1)
  | .setEndpoint endpoint => some (app.setPresenter (app.presenter.setEndpoint endpoint))
  | .setLogLevel level =>
    some (app.setPresenter (app.presenter.setLogLevel toolkit.toLower level))
  | .setSelectedBackend registry backend =>
    some (app.setPresenter (app.presenter.setSelectedBackend toolkit.toLower registry backend))
  | .setAppConfigPath path => some (app.setPresenter (app.presenter.setAppConfigPath path).1)
  | .createStartupConfig => some (app.setPresenter app.presenter.createStartupConfig.1)
  | .importStartupConfig path imported =>
    some (app.setPresenter (app.presenter.importStartupConfig path imported).1)
  | .saveStartupConfig saved => some (app.setPresenter (app.presenter.saveStartupConfig saved))
  | .saveStartupConfigAs path saved =>
    some (app.setPresenter (app.presenter.saveStartupConfigAs path saved))
  | .start files => some (app.start toolkit files)
  | .stop => some (app.setPresenter app.presenter.stop)
  | .clearLog => some (app.setPresenter app.presenter.clearLog)
  | .refreshBackendChecks => some app.refreshBackendChecks
  | .quitApplication => some (app.setPresenter app.presenter.quitApplication)
  | .logMessage text => some (app.setPresenter (app.presenter.appendLog text))
  | .timeout key =>
    if app.presenter.mActiveScreenTimer then
      some (app.setPresenter (app.presenter.refreshActiveScreen key))
    else none
  | .resume index resumption => app.resume toolkit index resumption
  | .checked registry => app.runBackendChecks registry

/-- The constructor of the presenter starts the first check. -/
def launched : Application P E := ({} : Application P E).refreshBackendChecks

end Application

/-! ### What the page leaves alone -/

/-- What is cut off in between would have been cut off in the end. -/
theorem rtake_append_rtake {α : Type} (n : Nat) (l l' : List α) :
    (l.rtake n ++ l').rtake n = (l ++ l').rtake n := by
  unfold List.rtake
  by_cases h : l.length ≤ n
  · rw [Nat.sub_eq_zero_of_le h, List.drop_zero]
  · have hlength : (l.drop (l.length - n) ++ l').length - n = l'.length := by
      simp only [List.length_append, List.length_drop]
      omega
    have hsplit : (l ++ l').length - n = l.length - n + l'.length := by
      rw [List.length_append]
      omega
    have hdrop : (l ++ l').drop (l.length - n) = l.drop (l.length - n) ++ l' :=
      List.drop_append_of_le_length (by omega)
    rw [hlength, hsplit, ← List.drop_drop, hdrop]

/-- The log is the end of what was appended, as far as it may be long. -/
def RuntimePresenter.Logged (presenter : RuntimePresenter) : Prop :=
  presenter.mLogText = presenter.logged.rtake kMaximumLogLength

/-- The course of the service stays as it is, and while a service runs the command as well, up
to the path of the configuration. -/
structure Edits (presenter presenter' : RuntimePresenter) : Prop where
  course : presenter'.toServiceCourse = presenter.toServiceCourse
  frozen : presenter.active = true → presenter'.mCommand.withoutPath =
    presenter.mCommand.withoutPath
  log : presenter.Logged → presenter'.Logged

namespace RuntimePresenter

variable (presenter : RuntimePresenter) {presenter' : RuntimePresenter}
  {toLower : String → String}

theorem edits_refl : Edits presenter presenter := ⟨rfl, fun _ => rfl, fun h => h⟩

theorem edits_of_idle {presenter : RuntimePresenter} (hidle : ¬ presenter.active = true)
    (hcourse : presenter'.toServiceCourse = presenter.toServiceCourse)
    (hlog : presenter.Logged → presenter'.Logged) : Edits presenter presenter' :=
  ⟨hcourse, fun hactive => absurd hactive hidle, hlog⟩

theorem clearedLog_logged : presenter.clearedLog.Logged := by
  simp [Logged, clearedLog]

theorem Logged.appendLog {presenter : RuntimePresenter} (h : presenter.Logged) (text : String) :
    (presenter.appendLog text).Logged := by
  have htext : (presenter.appendLog text).mLogText =
      (presenter.mLogText ++ utf16 text).rtake kMaximumLogLength := by
    unfold RuntimePresenter.appendLog List.rtake
    dsimp only
    split_ifs with hlong
    · rfl
    · rw [Nat.sub_eq_zero_of_le (Nat.not_lt.mp hlong), List.drop_zero]
  rw [Logged, htext, h]
  exact rtake_append_rtake kMaximumLogLength presenter.logged (utf16 text)

theorem setSelectedMode_edits (mode : Int) :
    Edits presenter (presenter.setSelectedMode mode).1 := by
  unfold setSelectedMode
  by_cases h : presenter.mCommand.mode = RunMode.ofInt mode ∨ presenter.active
  · rw [if_pos h]
    exact edits_refl presenter
  · rw [if_neg h]
    exact edits_of_idle (fun hactive => h (.inr hactive)) rfl fun h => h

theorem setEndpoint_edits (text : String) : Edits presenter (presenter.setEndpoint text) := by
  unfold setEndpoint
  dsimp only
  split_ifs with h
  · exact edits_refl presenter
  · exact edits_of_idle (fun hactive => h (.inr (.inr hactive))) rfl fun h => h

theorem setLogLevel_edits (level : String) :
    Edits presenter (presenter.setLogLevel toLower level) := by
  unfold setLogLevel
  dsimp only
  split_ifs with h
  · exact edits_refl presenter
  · exact edits_of_idle (fun hactive => h (.inr (.inr hactive))) rfl fun h => h

theorem setSelectedBackend_edits (registry : BackendRegistry P) (backend : String) :
    Edits presenter (presenter.setSelectedBackend toLower registry backend) := by
  unfold setSelectedBackend
  by_cases hactive : presenter.active = true
  · rw [if_pos hactive]
    exact edits_refl presenter
  · rw [if_neg hactive]
    dsimp only
    split_ifs <;> exact edits_of_idle hactive rfl fun h => h

theorem setAppConfigPath_edits (path : String) :
    Edits presenter (presenter.setAppConfigPath path).1 := by
  unfold setAppConfigPath
  dsimp only
  split_ifs
  · exact edits_refl presenter
  · exact ⟨rfl, fun _ => rfl, fun h => h⟩

theorem createStartupConfig_edits : Edits presenter presenter.createStartupConfig.1 := by
  unfold createStartupConfig
  split_ifs with hactive
  · exact edits_refl presenter
  · exact edits_of_idle hactive rfl fun h => h

theorem importStartupConfig_edits (path : Option String) (imported : Except String CliCommand) :
    Edits presenter (presenter.importStartupConfig path imported).1 := by
  unfold importStartupConfig
  split_ifs with hactive
  · exact ⟨rfl, fun _ => rfl, fun h => h⟩
  · cases path with
    | none => exact edits_of_idle hactive rfl fun h => h
    | some path =>
      cases imported with
      | error message => exact edits_of_idle hactive rfl fun h => h
      | ok command => cases command <;> exact edits_of_idle hactive rfl fun h => h

theorem saveStartupConfig_edits (saved : Except String Unit) :
    Edits presenter (presenter.saveStartupConfig saved) := by
  unfold saveStartupConfig
  split_ifs
  · exact ⟨rfl, fun _ => rfl, fun h => h⟩
  · cases saved <;> exact ⟨rfl, fun _ => rfl, fun h => h⟩

theorem saveStartupConfigAs_edits (path : Option String) (saved : Except String Unit) :
    Edits presenter (presenter.saveStartupConfigAs path saved) := by
  unfold saveStartupConfigAs
  cases path with
  | none => exact ⟨rfl, fun _ => rfl, fun h => h⟩
  | some path => cases saved <;> exact ⟨rfl, fun _ => rfl, fun h => h⟩

theorem clearLog_edits : Edits presenter presenter.clearLog := by
  unfold clearLog
  split_ifs
  · exact edits_refl presenter
  · exact ⟨rfl, fun _ => rfl, fun _ => clearedLog_logged presenter⟩

end RuntimePresenter

end Mksync.Gui
