import Mksync.GuiPresenter

/-!
# What a service of the GUI leaves on the page

The page of a service follows it from the start to the end: while the service is on its way to a
backend, while it serves, and when it has ended.
-/
namespace Mksync.Gui

variable {P E : Type}

/-! ### The course of a service -/

namespace ServiceCourse

/-- Nothing of a service is left. -/
structure Resting (course : ServiceCourse) : Prop where
  state : course.mState = .idle
  stopping : course.mStopping = false
  backend : course.mActiveBackendName = ""
  timer : course.mActiveScreenTimer = false
  server : course.mRunningServer = none
  owner : course.mActiveScreenOwnerId = ""
  index : course.mActiveScreenIndex = -1

/-- A service is on its way to a backend. -/
structure Waiting (course : ServiceCourse) : Prop where
  state : course.mState = if course.mStopping then .stopping else .starting
  backend : course.mActiveBackendName = ""
  timer : course.mActiveScreenTimer = false
  server : course.mRunningServer = none
  owner : course.mActiveScreenOwnerId = ""
  index : course.mActiveScreenIndex = -1

/-- A service runs on a backend. The state may say running although a stop is requested. -/
structure Serving (course : ServiceCourse) (mode : RunMode) (displayName : String) : Prop where
  state : course.mState = .running ∨ course.mState = .stopping ∧ course.mStopping = true
  backend : course.mActiveBackendName = displayName
  timer : course.mActiveScreenTimer = decide (mode = .serverMode)
  server : course.mRunningServer = if mode = .serverMode then some course.mStopSource else none
  owner : mode = .clientMode → course.mActiveScreenOwnerId = ""
  index : mode = .clientMode → course.mActiveScreenIndex = -1

end ServiceCourse

/-- The selection is what the command asks for. -/
structure ServiceCommand.Selects (command : ServiceCommand) (selection : PlatformSelection P) :
    Prop where
  supports : selection.check.supports command.mode.requirements = true
  named : command.common.backend = "" ∨ command.common.backend = "auto" ∨
    selection.descriptor.name = command.common.backend
  displayName : selection.descriptor.displayName ≠ ""

/-- The course of the presenter fits the point where the service waits. -/
def Service.Fits (service : Service P E) (course : ServiceCourse) : Prop :=
  match service.point with
  | .spawned => course.Waiting
  | .selecting backend requirements => course.Waiting ∧
      backend = service.command.common.backend ∧ requirements = service.command.mode.requirements
  | .serving mode selection token => course.Serving mode selection.descriptor.displayName ∧
      mode = service.command.mode ∧ token = course.mStopSource ∧ service.command.Selects selection

/-- The page is the one of this service. -/
structure Service.Conducts (toolkit : Toolkit E) (service : Service P E)
    (presenter : RuntimePresenter) : Prop where
  run : service.run = presenter.mStopSource
  stopping : presenter.mStopping = true ↔ presenter.mStopSource ∈ presenter.stopRequests
  error : presenter.mRunError = ""
  completed : presenter.mCompletedNormally = false
  command : presenter.mCommand.withoutPath = service.command.withoutPath
  endpoint : toolkit.fromString service.command.endpoint = some service.endpoint
  path : trimmed service.command.common.configPath ≠ "" ∧
    service.configPath = toolkit.absoluteFilePath service.command.common.configPath
  fits : service.Fits presenter.toServiceCourse

/-- There is no service and nothing of one on the page, or one service that the page conducts. -/
structure Application.Coherent (toolkit : Toolkit E) (app : Application P E) : Prop where
  requests : ∀ request ∈ app.presenter.stopRequests, request ≤ app.presenter.mStopSource
  service : app.services = [] ∧ app.presenter.Resting ∨
    ∃ service, app.services = [service] ∧ service.Conducts toolkit app.presenter

theorem ServiceCommand.withoutPath_eq {command command' : ServiceCommand} :
    command.withoutPath = command'.withoutPath ↔ command.mode = command'.mode ∧
      command.endpoint = command'.endpoint ∧
      command.common.logLevel = command'.common.logLevel ∧
      command.common.backend = command'.common.backend := by
  simp [withoutPath]

theorem selects_of_selectBackend {registry : BackendRegistry P} {command : ServiceCommand}
    {selection : PlatformSelection P}
    (h : registry.selectBackend command.common.backend command.mode.requirements =
      .ok selection) : command.Selects selection := by
  have hdisplay : ∀ descriptor ∈ registry.descriptors.map (·.descriptor),
      descriptor.displayName ≠ "" := by
    intro descriptor hdescriptor
    obtain ⟨backend, _, rfl⟩ := List.mem_map.mp hdescriptor
    exact backend.complete.2.1
  by_cases hauto : command.common.backend = "" ∨ command.common.backend = "auto"
  · have hleast := BackendRegistry.selectAmong_registered registry command.mode.requirements
    rw [BackendRegistry.selectBackend, if_pos hauto] at h
    rw [h] at hleast
    obtain ⟨descriptor, hmem, ⟨_, hsupports, _, rfl⟩, _⟩ := hleast
    exact ⟨hsupports, hauto.imp_right .inl, hdisplay _ hmem⟩
  · have hnamed := BackendRegistry.selectBackend_named (fun h => hauto (.inl h))
      (fun h => hauto (.inr h)) registry command.mode.requirements
    rw [h] at hnamed
    obtain ⟨descriptor, hmem, hname, _, hsupports, _, rfl⟩ := hnamed
    exact ⟨hsupports, .inr (.inr hname), hdisplay _ hmem⟩

namespace RuntimePresenter

variable {presenter presenter' : RuntimePresenter} {toolkit : Toolkit E}
  {service service' : Service P E}

theorem active_eq_true : presenter.active = true ↔ presenter.mState ≠ .idle := by
  simp [active]

@[simp] theorem showEnd_course : presenter.showEnd.toServiceCourse = presenter.toServiceCourse := by
  unfold showEnd
  split_ifs <;> rfl

/-- The service has ended, and the application quits if that was asked for. -/
theorem finishRun_course : presenter.finishRun.toServiceCourse =
    { presenter.toServiceCourse with
      mStopping := false
      mState := .idle
      mActiveBackendName := ""
      quits := presenter.quits + if presenter.mQuitWhenStopped then 1 else 0 } := by
  rw [← presenter.showEnd_course]
  unfold finishRun
  dsimp only
  split_ifs <;> rfl

/-- What is left on the page does not matter, once the running server is cleared. -/
theorem finishRun_clearRunningServer : presenter.clearRunningServer.finishRun.Resting := by
  rw [finishRun_course]
  exact ⟨rfl, rfl, rfl, rfl, rfl, rfl, rfl⟩

theorem finishRun_waiting (h : presenter.Waiting) : presenter.finishRun.Resting := by
  rw [finishRun_course]
  exact ⟨rfl, rfl, rfl, h.timer, h.server, h.owner, h.index⟩

theorem enterService_course (presenter : RuntimePresenter) (selection : PlatformSelection P) :
    (presenter.enterService selection).toServiceCourse =
      { presenter.toServiceCourse with
        mActiveBackendName := selection.descriptor.displayName
        mState := .running } := by
  unfold enterService
  cases presenter.mCommand.mode <;> rfl

theorem enterServer_course (presenter : RuntimePresenter) (selection : PlatformSelection P)
    (run : Nat) :
    ((presenter.enterService selection).enterServer run).toServiceCourse =
      { presenter.toServiceCourse with
        mActiveBackendName := selection.descriptor.displayName
        mState := .running
        mActiveScreenTimer := true
        mRunningServer := some run
        mActiveScreenOwnerId := ""
        mActiveScreenIndex := -1 } := by
  unfold enterService
  cases presenter.mCommand.mode <;> rfl

@[simp] theorem enterService_command (selection : PlatformSelection P) :
    (presenter.enterService selection).mCommand = presenter.mCommand := by
  unfold enterService
  cases h : presenter.mCommand.mode <;> exact rfl

/-- What is shown without a running server is no screen. -/
theorem refreshActiveScreen_eq (presenter : RuntimePresenter) (key : Option ScreenKey) :
    ∃ owner index, presenter.refreshActiveScreen key =
        { presenter with mActiveScreenOwnerId := owner, mActiveScreenIndex := index } ∧
      (presenter.mRunningServer = none → owner = "" ∧ index = -1) := by
  cases hserver : presenter.mRunningServer with
  | none => exact ⟨"", -1, by simp [refreshActiveScreen, hserver], fun _ => ⟨rfl, rfl⟩⟩
  | some run =>
    cases key with
    | none => exact ⟨"", -1, by simp [refreshActiveScreen, hserver], by simp⟩
    | some key =>
      exact ⟨key.ownerId, screenIndexValue key.screenIndex,
        by simp [refreshActiveScreen, hserver], by simp⟩

theorem enterService_logged (selection : PlatformSelection P) (h : presenter.Logged) :
    (presenter.enterService selection).Logged := by
  unfold enterService
  cases presenter.mCommand.mode <;> exact h.appendLog _

theorem finishRun_logged (h : presenter.Logged) : presenter.finishRun.Logged := by
  have hshown : presenter.showEnd.Logged := by
    unfold showEnd
    split_ifs
    · exact h.appendLog _
    · exact h.appendLog _
    · exact h.appendLog _
    · exact h
  unfold finishRun
  dsimp only
  split_ifs <;> exact hshown

theorem setStatus_edits (title detail : String) :
    Edits presenter (presenter.setStatus title detail) :=
  ⟨rfl, fun _ => rfl, fun h => h⟩

/-- A start is refused, or spawns a service of the command. -/
theorem start_cases (toolkit : Toolkit E) (files : ConfigFiles) (presenter : RuntimePresenter) :
    (Edits presenter (presenter.start (P := P) toolkit files).1 ∧
      (presenter.start (P := P) toolkit files).2 = none) ∨
    ∃ endpoint config, ¬ presenter.active ∧
      toolkit.fromString presenter.endpoint = some endpoint ∧
      trimmed presenter.appConfigPath ≠ "" ∧
      loadConfig files (toolkit.absoluteFilePath presenter.appConfigPath) = .ok config ∧
      (presenter.start (P := P) toolkit files).2 =
        some ⟨presenter.mStopSource + 1, endpoint, config,
          toolkit.absoluteFilePath presenter.appConfigPath, .spawned, presenter.mCommand⟩ ∧
      (presenter.start (P := P) toolkit files).1.toServiceCourse =
        { presenter.toServiceCourse with
          mStopping := false
          mCompletedNormally := false
          mStopSource := presenter.mStopSource + 1
          mRunError := ""
          mState := .starting } ∧
      (presenter.start (P := P) toolkit files).1.mCommand = presenter.mCommand ∧
      (presenter.start (P := P) toolkit files).1.Logged := by
  unfold start
  by_cases hactive : presenter.active = true
  · rw [if_pos hactive]
    exact .inl ⟨edits_refl presenter, rfl⟩
  rw [if_neg hactive]
  cases hendpoint : toolkit.fromString presenter.endpoint with
  | none => exact .inl ⟨setStatus_edits _ _, rfl⟩
  | some endpoint =>
    dsimp only
    by_cases hpath : trimmed presenter.appConfigPath = ""
    · rw [if_pos hpath]
      exact .inl ⟨setStatus_edits _ _, rfl⟩
    · rw [if_neg hpath]
      cases hload : loadConfig files (toolkit.absoluteFilePath presenter.appConfigPath) with
      | error error => exact .inl ⟨setStatus_edits _ _, rfl⟩
      | ok config =>
        refine .inr ⟨endpoint, config, hactive, rfl, hpath, rfl, rfl, rfl, rfl, ?_⟩
        exact Logged.appendLog (clearedLog_logged presenter) _

/-- The page of which only the starts of clients are followed: on an absolute path it starts when
this page does, with the same configuration. -/
theorem start_config (toolkit : Toolkit E) (files : ConfigFiles) (presenter : RuntimePresenter)
    {surroundings : Surroundings}
    (hendpoint : surroundings.endpoint = (toolkit.fromString presenter.endpoint).isSome)
    (habsolute : toolkit.absoluteFilePath presenter.appConfigPath = presenter.appConfigPath) :
    (presenter.start (P := P) toolkit files).2.map (·.config) =
      Mksync.RuntimePresenter.start ⟨presenter.mState, presenter.appConfigPath⟩ surroundings
        files := by
  have hsame : Mksync.RuntimePresenter.active ⟨presenter.mState, presenter.appConfigPath⟩ =
      presenter.active := rfl
  rw [start, Mksync.RuntimePresenter.start, hsame, hendpoint, habsolute]
  by_cases hactive : presenter.active = true
  · rw [if_pos hactive, if_pos hactive]
    rfl
  rw [if_neg hactive, if_neg hactive]
  cases toolkit.fromString presenter.endpoint with
  | none => rfl
  | some endpoint =>
    rw [if_neg (by simp)]
    dsimp only
    split_ifs
    · rfl
    · cases loadConfig files presenter.appConfigPath <;> rfl

theorem stop_cases (presenter : RuntimePresenter) :
    (presenter.stop = presenter ∧ (¬ presenter.active ∨ presenter.mStopping)) ∨
    presenter.active ∧ presenter.mStopping = false ∧
      presenter.stop.toServiceCourse =
        { presenter.toServiceCourse with
          mStopping := true
          mState := .stopping
          stopRequests := presenter.stopRequests ++ [presenter.mStopSource] } ∧
      presenter.stop.mCommand = presenter.mCommand ∧
      (presenter.Logged → presenter.stop.Logged) := by
  unfold stop
  by_cases h : ¬ presenter.active ∨ presenter.mStopping
  · rw [if_pos h]
    exact .inl ⟨rfl, h⟩
  · rw [if_neg h]
    obtain ⟨hactive, hstopping⟩ := not_or.mp h
    exact .inr ⟨by simpa using hactive, by simpa using hstopping, rfl, rfl,
      fun h => h.appendLog _⟩

/-- What the body of a service can do when it is resumed. -/
inductive BodyStep (presenter : RuntimePresenter) (service : Service P E) :
    Resumption P → RuntimePresenter → Option (Service P E) → Prop
  | begun (point : service.point = .spawned) :
    BodyStep presenter service .begun presenter (some { service with
      point := .selecting presenter.mCommand.common.backend presenter.mCommand.mode.requirements })
  | unselected {registry : BackendRegistry P} {backend : String}
    {requirements : BackendRequirement} {error : Errc}
    (point : service.point = .selecting backend requirements)
    (selected : registry.selectBackend backend requirements = .error error) :
    BodyStep presenter service (.selected registry)
      { presenter with
        mRunError := s!"没有满足当前运行模式的可用输入后端：{errcMessage error}" } none
  | entered {registry : BackendRegistry P} {backend : String} {requirements : BackendRequirement}
    {selection : PlatformSelection P} {shown : RuntimePresenter}
    (point : service.point = .selecting backend requirements)
    (selected : registry.selectBackend backend requirements = .ok selection)
    (command : shown.mCommand = presenter.mCommand)
    (course : shown.toServiceCourse = { presenter.toServiceCourse with
      mActiveBackendName := selection.descriptor.displayName
      mState := .running
      mActiveScreenTimer := shown.mActiveScreenTimer
      mRunningServer := shown.mRunningServer
      mActiveScreenOwnerId := shown.mActiveScreenOwnerId
      mActiveScreenIndex := shown.mActiveScreenIndex })
    (serving : service.run = presenter.mStopSource → presenter.Waiting →
      shown.Serving presenter.mCommand.mode selection.descriptor.displayName)
    (log : presenter.Logged → shown.Logged) :
    BodyStep presenter service (.selected registry) shown (some { service with
      point := .serving presenter.mCommand.mode selection presenter.mStopSource })
  | canceled {mode : RunMode} {selection : PlatformSelection P} {token : Nat}
    (point : service.point = .serving mode selection token)
    (requested : token ∈ presenter.stopRequests) :
    BodyStep presenter service .canceled
      { presenter with mStopping := true }.clearRunningServer none
  | completed {mode : RunMode} {selection : PlatformSelection P} {token : Nat}
    {result : Except String Unit} {error : String}
    (point : service.point = .serving mode selection token)
    (told : error = match result with
      | .ok () => presenter.mRunError
      | .error message => message) :
    BodyStep presenter service (.completed result)
      { presenter with mCompletedNormally := true, mRunError := error }.clearRunningServer none
  | threw {what : String} (point : service.point ≠ .spawned) :
    BodyStep presenter service (.threw what)
      { presenter with mRunError := what }.clearRunningServer none

/-- A body that is resumed makes one of its steps. -/
theorem runServiceBody_step {resumption : Resumption P} {next : Option (Service P E)}
    (h : presenter.runServiceBody service resumption = some (presenter', next)) :
    BodyStep presenter service resumption presenter' next := by
  cases resumption with
  | begun =>
    cases hpoint : service.point with
    | spawned =>
      simp only [runServiceBody, hpoint, Option.some.injEq, Prod.mk.injEq] at h
      obtain ⟨rfl, rfl⟩ := h
      exact .begun hpoint
    | selecting => simp [runServiceBody, hpoint] at h
    | serving => simp [runServiceBody, hpoint] at h
  | selected registry =>
    cases hpoint : service.point with
    | spawned => simp [runServiceBody, hpoint] at h
    | serving => simp [runServiceBody, hpoint] at h
    | selecting backend requirements =>
      cases hselect : registry.selectBackend backend requirements with
      | error error =>
        simp only [runServiceBody, hpoint, hselect, Option.some.injEq, Prod.mk.injEq] at h
        obtain ⟨rfl, rfl⟩ := h
        exact .unselected hpoint hselect
      | ok selection =>
        cases hmode : presenter.mCommand.mode with
        | serverMode =>
          have hcourse := presenter.enterServer_course selection service.run
          simp only [runServiceBody, hpoint, hselect, hmode, Option.some.injEq,
            Prod.mk.injEq] at h
          obtain ⟨rfl, rfl⟩ := h
          rw [← hmode]
          refine .entered hpoint hselect (enterService_command selection) ?_ ?_
            (enterService_logged selection)
          · rw [hcourse]
          · intro hrun _
            rw [hcourse, hmode, hrun]
            exact ⟨.inl rfl, rfl, rfl, rfl, RunMode.noConfusion, RunMode.noConfusion⟩
        | clientMode =>
          have hcourse := presenter.enterService_course selection
          simp only [runServiceBody, hpoint, hselect, hmode, Option.some.injEq,
            Prod.mk.injEq] at h
          obtain ⟨rfl, rfl⟩ := h
          rw [← hmode]
          refine .entered hpoint hselect (enterService_command selection) ?_ ?_
            (enterService_logged selection)
          · rw [hcourse]
          · intro _ hwaiting
            rw [hcourse, hmode]
            exact ⟨.inl rfl, rfl, hwaiting.timer, hwaiting.server, fun _ => hwaiting.owner,
              fun _ => hwaiting.index⟩
  | canceled =>
    cases hpoint : service.point with
    | spawned => simp [runServiceBody, hpoint] at h
    | selecting => simp [runServiceBody, hpoint] at h
    | serving mode selection token =>
      simp only [runServiceBody, hpoint] at h
      split_ifs at h with htoken
      simp only [Option.some.injEq, Prod.mk.injEq] at h
      obtain ⟨rfl, rfl⟩ := h
      exact .canceled hpoint htoken
  | completed result =>
    cases hpoint : service.point with
    | spawned => simp [runServiceBody, hpoint] at h
    | selecting => simp [runServiceBody, hpoint] at h
    | serving mode selection token =>
      cases result with
      | ok =>
        simp only [runServiceBody, hpoint, Option.some.injEq, Prod.mk.injEq] at h
        obtain ⟨rfl, rfl⟩ := h
        exact .completed hpoint rfl
      | error message =>
        simp only [runServiceBody, hpoint, Option.some.injEq, Prod.mk.injEq] at h
        obtain ⟨rfl, rfl⟩ := h
        exact .completed hpoint rfl
  | threw what =>
    have hthrew : service.point ≠ .spawned →
        some ({ presenter with mRunError := what }.clearRunningServer, none) =
          some (presenter', next) → BodyStep presenter service (.threw what) presenter' next := by
      intro hpoint hsome
      simp only [Option.some.injEq, Prod.mk.injEq] at hsome
      obtain ⟨rfl, rfl⟩ := hsome
      exact .threw hpoint
    cases hpoint : service.point with
    | spawned => simp [runServiceBody, hpoint] at h
    | selecting =>
      simp only [runServiceBody, hpoint] at h
      exact hthrew (by simp [hpoint]) h
    | serving =>
      simp only [runServiceBody, hpoint] at h
      exact hthrew (by simp [hpoint]) h

/-- The end of the body is the end of the run. -/
theorem runService_cases {resumption : Resumption P} {next : Option (Service P E)}
    (h : presenter.runService service resumption = some (presenter', next)) :
    (∃ ending, BodyStep presenter service resumption ending none ∧ next = none ∧
      presenter' = ending.finishRun) ∨
    ∃ service', next = some service' ∧
      BodyStep presenter service resumption presenter' (some service') := by
  unfold runService at h
  cases hbody : presenter.runServiceBody service resumption with
  | none => simp [hbody] at h
  | some result =>
    obtain ⟨shown, service'⟩ := result
    have hstep := runServiceBody_step hbody
    rw [hbody] at h
    cases service' with
    | none =>
      simp only [Option.some.injEq, Prod.mk.injEq] at h
      exact .inl ⟨shown, hstep, h.2.symm, h.1.symm⟩
    | some service' =>
      simp only [Option.some.injEq, Prod.mk.injEq] at h
      obtain ⟨rfl, rfl⟩ := h
      exact .inr ⟨service', rfl, hstep⟩

/-- The body leaves the stop sources and the quitting alone. -/
theorem BodyStep.sources {resumption : Resumption P} {next : Option (Service P E)}
    (h : BodyStep presenter service resumption presenter' next) :
    presenter'.mStopSource = presenter.mStopSource ∧
      presenter'.stopRequests = presenter.stopRequests ∧
      presenter'.mQuitWhenStopped = presenter.mQuitWhenStopped ∧
      presenter'.quits = presenter.quits := by
  cases h with
  | entered point selected command course serving log =>
    rw [course]
    exact ⟨rfl, rfl, rfl, rfl⟩
  | begun => exact ⟨rfl, rfl, rfl, rfl⟩
  | unselected => exact ⟨rfl, rfl, rfl, rfl⟩
  | canceled => exact ⟨rfl, rfl, rfl, rfl⟩
  | completed => exact ⟨rfl, rfl, rfl, rfl⟩
  | threw => exact ⟨rfl, rfl, rfl, rfl⟩

theorem stop_quits (presenter : RuntimePresenter) : presenter.stop.quits = presenter.quits := by
  rcases presenter.stop_cases with ⟨hsame, _⟩ | ⟨_, _, hcourse, _, _⟩
  · rw [hsame]
  · rw [hcourse]

theorem runService_logged {resumption : Resumption P} {next : Option (Service P E)}
    (h : presenter.runService service resumption = some (presenter', next))
    (hlog : presenter.Logged) : presenter'.Logged := by
  have hbody : ∀ {shown : RuntimePresenter} {service' : Option (Service P E)},
      BodyStep presenter service resumption shown service' → shown.Logged := by
    intro shown service' hstep
    cases hstep with
    | entered point selected command course serving log => exact log hlog
    | begun => exact hlog
    | unselected => exact hlog
    | canceled => exact hlog
    | completed => exact hlog
    | threw => exact hlog
  rcases runService_cases h with ⟨ending, hstep, _, rfl⟩ | ⟨service', _, hstep⟩
  · exact finishRun_logged (hbody hstep)
  · exact hbody hstep

theorem quitApplication_logged (h : presenter.Logged) : presenter.quitApplication.Logged := by
  unfold quitApplication
  by_cases hactive : ¬ presenter.active = true
  · rw [if_pos hactive]
    exact h
  · rw [if_neg hactive]
    rcases RuntimePresenter.stop_cases { presenter with mQuitWhenStopped := true } with
      ⟨hsame, _⟩ | ⟨_, _, _, _, hlog⟩
    · rw [hsame]
      exact h
    · exact hlog h

end RuntimePresenter

/-! ### The steps of a service -/

namespace Service

variable {presenter presenter' : RuntimePresenter} {toolkit : Toolkit E}
  {service : Service P E}

/-- A change of the course that keeps what a waiting service and a serving one need. -/
theorem Fits.of_course {course course' : ServiceCourse} (h : service.Fits course)
    (hwaiting : course.Waiting → course'.Waiting)
    (hserving : ∀ mode displayName, course.Serving mode displayName →
      course'.Serving mode displayName)
    (hsource : course'.mStopSource = course.mStopSource) : service.Fits course' := by
  unfold Fits at h ⊢
  cases hpoint : service.point with
  | spawned =>
    rw [hpoint] at h
    exact hwaiting h
  | selecting backend requirements =>
    rw [hpoint] at h
    exact ⟨hwaiting h.1, h.2⟩
  | serving mode selection token =>
    rw [hpoint] at h
    obtain ⟨hcourse, hmode, htoken, hselects⟩ := h
    exact ⟨hserving _ _ hcourse, hmode, htoken.trans hsource.symm, hselects⟩

theorem Conducts.active (h : service.Conducts toolkit presenter) : presenter.active = true := by
  rw [RuntimePresenter.active_eq_true]
  have hfits := h.fits
  unfold Fits at hfits
  have hwaiting : presenter.Waiting → presenter.mState ≠ .idle := by
    intro hwaiting
    rw [hwaiting.state]
    split_ifs <;> exact RunState.noConfusion
  cases hpoint : service.point with
  | spawned =>
    rw [hpoint] at hfits
    exact hwaiting hfits
  | selecting backend requirements =>
    rw [hpoint] at hfits
    exact hwaiting hfits.1
  | serving mode selection token =>
    rw [hpoint] at hfits
    rcases hfits.1.state with hstate | ⟨hstate, _⟩ <;> simp [hstate]

theorem Conducts.edits (h : service.Conducts toolkit presenter)
    (hedits : Edits presenter presenter') : service.Conducts toolkit presenter' := by
  have hcourse := hedits.course
  have hcommand := hedits.frozen h.active
  constructor
  · rw [hcourse]
    exact h.run
  · rw [hcourse]
    exact h.stopping
  · rw [hcourse]
    exact h.error
  · rw [hcourse]
    exact h.completed
  · exact hcommand.trans h.command
  · exact h.endpoint
  · exact h.path
  · rw [hcourse]
    exact h.fits

/-- A stop leaves the service where it is. -/
theorem Conducts.stop (h : service.Conducts toolkit presenter) :
    service.Conducts toolkit presenter.stop := by
  rcases presenter.stop_cases with ⟨hsame, _⟩ | ⟨_, _, hcourse, hcommand, _⟩
  · rw [hsame]
    exact h
  · constructor
    · rw [hcourse]
      exact h.run
    · rw [hcourse]
      simp
    · rw [hcourse]
      exact h.error
    · rw [hcourse]
      exact h.completed
    · rw [hcommand]
      exact h.command
    · exact h.endpoint
    · exact h.path
    · rw [hcourse]
      apply h.fits.of_course
      · intro hwaiting
        exact ⟨rfl, hwaiting.backend, hwaiting.timer, hwaiting.server, hwaiting.owner,
          hwaiting.index⟩
      · intro mode displayName hserving
        exact ⟨.inr ⟨rfl, rfl⟩, hserving.backend, hserving.timer, hserving.server,
          hserving.owner, hserving.index⟩
      · rfl

theorem Conducts.quitWhenStopped (h : service.Conducts toolkit presenter) :
    service.Conducts toolkit { presenter with mQuitWhenStopped := true } := by
  refine ⟨h.run, h.stopping, h.error, h.completed, h.command, h.endpoint, h.path, ?_⟩
  apply h.fits.of_course
  · intro hwaiting
    exact ⟨hwaiting.state, hwaiting.backend, hwaiting.timer, hwaiting.server, hwaiting.owner,
      hwaiting.index⟩
  · intro mode displayName hserving
    exact ⟨hserving.state, hserving.backend, hserving.timer, hserving.server, hserving.owner,
      hserving.index⟩
  · rfl

/-- Only a serving server is asked for its active screen. -/
theorem Conducts.refreshActiveScreen (h : service.Conducts toolkit presenter)
    (key : Option ScreenKey) : service.Conducts toolkit (presenter.refreshActiveScreen key) := by
  obtain ⟨owner, index, hshown, hnone⟩ := presenter.refreshActiveScreen_eq key
  rw [hshown]
  refine ⟨h.run, h.stopping, h.error, h.completed, h.command, h.endpoint, h.path, ?_⟩
  apply h.fits.of_course
  · intro hwaiting
    obtain ⟨howner, hindex⟩ := hnone hwaiting.server
    exact ⟨hwaiting.state, hwaiting.backend, hwaiting.timer, hwaiting.server, howner, hindex⟩
  · intro mode displayName hserving
    have hclient : mode = .clientMode → presenter.mRunningServer = none := by
      intro hmode
      rw [hserving.server, hmode]
      rfl
    exact ⟨hserving.state, hserving.backend, hserving.timer, hserving.server,
      fun hmode => (hnone (hclient hmode)).1, fun hmode => (hnone (hclient hmode)).2⟩
  · rfl

/-- A service that goes on stays the one that the page conducts. -/
theorem Conducts.goes_on (h : service.Conducts toolkit presenter) {resumption : Resumption P}
    (hstep : presenter.BodyStep service resumption presenter' (some service')) :
    service'.Conducts toolkit presenter' := by
  have hfits := h.fits
  have hsame := ServiceCommand.withoutPath_eq.mp h.command
  unfold Fits at hfits
  cases hstep with
  | begun point =>
    rw [point] at hfits
    refine ⟨h.run, h.stopping, h.error, h.completed, h.command, h.endpoint, h.path, hfits,
      hsame.2.2.2, ?_⟩
    rw [hsame.1]
  | @entered registry backend requirements selection _ point selected command course serving _ =>
    rw [point] at hfits
    obtain ⟨hwaiting, rfl, rfl⟩ := hfits
    constructor
    · rw [course]
      exact h.run
    · rw [course]
      exact h.stopping
    · rw [course]
      exact h.error
    · rw [course]
      exact h.completed
    · rw [command]
      exact h.command
    · exact h.endpoint
    · exact h.path
    · refine ⟨serving h.run hwaiting, hsame.1, ?_, selects_of_selectBackend selected⟩
      rw [course]

/-- A service that ends leaves nothing of it. -/
theorem Conducts.ends (h : service.Conducts toolkit presenter) {resumption : Resumption P}
    {ending : RuntimePresenter}
    (hstep : presenter.BodyStep service resumption ending none) : ending.finishRun.Resting := by
  have hfits := h.fits
  unfold Fits at hfits
  cases hstep with
  | unselected point selected =>
    rw [point] at hfits
    have hwaiting := hfits.1
    apply RuntimePresenter.finishRun_waiting
    exact ⟨hwaiting.state, hwaiting.backend, hwaiting.timer, hwaiting.server, hwaiting.owner,
      hwaiting.index⟩
  | canceled => exact RuntimePresenter.finishRun_clearRunningServer
  | completed => exact RuntimePresenter.finishRun_clearRunningServer
  | threw => exact RuntimePresenter.finishRun_clearRunningServer

/-- The error that the service ends with, if there is one. -/
def endError (service : Service P E) : Resumption P → String
  | .selected registry =>
    match service.point with
    | .selecting backend requirements =>
      match registry.selectBackend backend requirements with
      | .error error => s!"没有满足当前运行模式的可用输入后端：{errcMessage error}"
      | .ok _ => ""
    | _ => ""
  | .completed (.error message) => message
  | .threw what => what
  | _ => ""

def completes : Resumption P → Bool
  | .completed _ => true
  | _ => false

/-- What the status says at the end of a run. -/
def endStatus (stopRequested : Bool) (error : String) (completed : Bool) : String × String :=
  if stopRequested then ("已停止", "键鼠同步服务已安全关闭。")
  else if error ≠ "" then ("运行失败", error)
  else if completed then ("服务已退出", "mksync 已结束运行。")
  else ("已停止", "键鼠同步服务已结束。")

theorem finishRun_status (ending : RuntimePresenter) :
    (ending.finishRun.mStatusTitle, ending.finishRun.mStatusDetail) =
      endStatus ending.mStopping ending.mRunError ending.mCompletedNormally := by
  have hfinish : (ending.finishRun.mStatusTitle, ending.finishRun.mStatusDetail) =
      (ending.showEnd.mStatusTitle, ending.showEnd.mStatusDetail) := by
    unfold RuntimePresenter.finishRun
    dsimp only
    split_ifs <;> rfl
  rw [hfinish]
  unfold RuntimePresenter.showEnd endStatus
  split_ifs <;> rfl

/-- Earlier runs leave nothing for the end of this one. -/
theorem Conducts.endStatus_eq (h : service.Conducts toolkit presenter) {resumption : Resumption P}
    {ending : RuntimePresenter} (hstep : presenter.BodyStep service resumption ending none) :
    (ending.finishRun.mStatusTitle, ending.finishRun.mStatusDetail) =
      endStatus (decide (service.run ∈ presenter.stopRequests)) (service.endError resumption)
        (completes resumption) := by
  have hstopping : presenter.mStopping = decide (service.run ∈ presenter.stopRequests) := by
    rw [Bool.eq_iff_iff, h.stopping, h.run, decide_eq_true_iff]
  rw [finishRun_status, ← hstopping]
  cases hstep with
  | unselected point selected =>
    rw [endError, point]
    dsimp only
    rw [selected]
    change endStatus _ _ presenter.mCompletedNormally = endStatus _ _ false
    rw [h.completed]
  | @canceled mode selection token point requested =>
    have hfits := h.fits
    unfold Fits at hfits
    rw [point] at hfits
    obtain ⟨_, _, rfl, _⟩ := hfits
    rw [h.stopping.mpr requested]
    rfl
  | @completed mode selection token result error point told =>
    cases result with
    | ok =>
      dsimp only at told
      rw [told, h.error]
      rfl
    | error message =>
      dsimp only at told
      rw [told]
      rfl
  | @threw what point =>
    change endStatus presenter.mStopping what presenter.mCompletedNormally = _
    rw [h.completed]
    rfl

end Service

end Mksync.Gui
