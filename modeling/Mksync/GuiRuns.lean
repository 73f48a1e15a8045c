import Mksync.GuiService

/-!
# The runs of the GUI

Whatever is done on the pages while a service goes on, the page conducts the one service there
is.
-/
namespace Mksync.Gui

open TransitionRuns

variable {P E : Type}

/-! ### The runs of the application -/

namespace Application

variable {toolkit : Toolkit E} {app app' : Application P E} {actions : List (Action P)}

/-- Apart from a start, a stop, a timeout and a service that goes on, the page is only edited. -/
theorem step_cases {action : Action P} (h : step toolkit app action = some app') :
    (Edits app.presenter app'.presenter ∧ app'.services = app.services) ∨
    (∃ files, action = .start files ∧ app' = app.start toolkit files) ∨
    (action = .stop ∧ app' = app.setPresenter app.presenter.stop) ∨
    (action = .quitApplication ∧ app' = app.setPresenter app.presenter.quitApplication) ∨
    (∃ key, app.presenter.mActiveScreenTimer ∧
      app' = app.setPresenter (app.presenter.refreshActiveScreen key)) ∨
    ∃ index resumption, action = .resume index resumption ∧
      app.resume toolkit index resumption = some app' := by
  have hedited : ∀ presenter, Edits app.presenter presenter →
      some (app.setPresenter presenter) = some app' →
      Edits app.presenter app'.presenter ∧ app'.services = app.services := by
    intro presenter hedits happ
    obtain rfl := Option.some.inj happ
    exact ⟨hedits, rfl⟩
  cases action with
  | setSelectedMode mode =>
    exact .inl (hedited _ (RuntimePresenter.setSelectedMode_edits _ mode) h)
  | setEndpoint endpoint =>
    exact .inl (hedited _ (RuntimePresenter.setEndpoint_edits _ endpoint) h)
  | setLogLevel level =>
    exact .inl (hedited _ (RuntimePresenter.setLogLevel_edits _ level) h)
  | setSelectedBackend registry backend =>
    exact .inl (hedited _ (RuntimePresenter.setSelectedBackend_edits _ registry backend) h)
  | setAppConfigPath path =>
    exact .inl (hedited _ (RuntimePresenter.setAppConfigPath_edits _ path) h)
  | createStartupConfig =>
    exact .inl (hedited _ (RuntimePresenter.createStartupConfig_edits _) h)
  | importStartupConfig path imported =>
    exact .inl (hedited _ (RuntimePresenter.importStartupConfig_edits _ path imported) h)
  | saveStartupConfig saved =>
    exact .inl (hedited _ (RuntimePresenter.saveStartupConfig_edits _ saved) h)
  | saveStartupConfigAs path saved =>
    exact .inl (hedited _ (RuntimePresenter.saveStartupConfigAs_edits _ path saved) h)
  | clearLog => exact .inl (hedited _ (RuntimePresenter.clearLog_edits _) h)
  | logMessage text =>
    exact .inl (hedited (app.presenter.appendLog text)
      ⟨rfl, fun _ => rfl, fun hlog => hlog.appendLog text⟩ h)
  | refreshBackendChecks =>
    obtain rfl := Option.some.inj h
    unfold Application.refreshBackendChecks
    split_ifs
    · exact .inl ⟨RuntimePresenter.edits_refl _, rfl⟩
    · exact .inl ⟨⟨rfl, fun _ => rfl, fun h => h⟩, rfl⟩
  | checked registry =>
    simp only [step, runBackendChecks] at h
    split_ifs at h
    obtain rfl := Option.some.inj h
    exact .inl ⟨⟨rfl, fun _ => rfl, fun h => h⟩, rfl⟩
  | start files =>
    obtain rfl := Option.some.inj h
    exact .inr (.inl ⟨files, rfl, rfl⟩)
  | stop =>
    obtain rfl := Option.some.inj h
    exact .inr (.inr (.inl ⟨rfl, rfl⟩))
  | quitApplication =>
    obtain rfl := Option.some.inj h
    exact .inr (.inr (.inr (.inl ⟨rfl, rfl⟩)))
  | timeout key =>
    simp only [step] at h
    split_ifs at h with htimer
    obtain rfl := Option.some.inj h
    exact .inr (.inr (.inr (.inr (.inl ⟨key, htimer, rfl⟩))))
  | resume index resumption =>
    exact .inr (.inr (.inr (.inr (.inr ⟨index, resumption, rfl, h⟩))))

theorem resume_eq_some {index : Nat} {resumption : Resumption P}
    (h : app.resume toolkit index resumption = some app') :
    ∃ (service : Service P E) (next : Option (Service P E)),
      app.presenter.runService service resumption = some (app'.presenter, next) := by
  unfold resume at h
  cases hservice : app.services[index]? with
  | none => simp [hservice] at h
  | some service =>
    rw [hservice] at h
    dsimp only at h
    cases hresume : app.presenter.runService service resumption with
    | none => simp [hresume] at h
    | some result =>
      rw [hresume] at h
      obtain rfl := Option.some.inj h
      exact ⟨service, result.2, hresume⟩

/-- With one service there is one that can go on. -/
theorem resume_cases {service : Service P E} {index : Nat} {resumption : Resumption P}
    (hservices : app.services = [service])
    (h : app.resume toolkit index resumption = some app') :
    ∃ next, app.presenter.runService service resumption = some (app'.presenter, next) ∧
      app'.services = next.toList := by
  unfold resume at h
  rw [hservices] at h
  cases index with
  | succ index => simp at h
  | zero =>
    simp only [List.getElem?_cons_zero] at h
    cases hresume : app.presenter.runService service resumption with
    | none => simp [hresume] at h
    | some result =>
      obtain ⟨presenter, next⟩ := result
      rw [hresume] at h
      obtain rfl := Option.some.inj h
      refine ⟨next, rfl, ?_⟩
      cases next <;> rfl

theorem resume_of_nil {index : Nat} {resumption : Resumption P} (hservices : app.services = []) :
    app.resume toolkit index resumption = none := by
  simp [resume, hservices]

theorem launched_coherent : (launched : Application P E).Coherent toolkit :=
  ⟨fun _ hrequest => absurd hrequest List.not_mem_nil,
    .inl ⟨rfl, rfl, rfl, rfl, rfl, rfl, rfl, rfl⟩⟩

theorem Coherent.edits (h : app.Coherent toolkit) (hedits : Edits app.presenter app'.presenter)
    (hservices : app'.services = app.services) : app'.Coherent toolkit := by
  constructor
  · rw [hedits.course]
    exact h.requests
  · rw [hservices]
    rcases h.service with ⟨hnone, hresting⟩ | ⟨service, hone, hconducts⟩
    · rw [hedits.course]
      exact .inl ⟨hnone, hresting⟩
    · exact .inr ⟨service, hone, hconducts.edits hedits⟩

theorem Coherent.idle (h : app.Coherent toolkit) (hidle : ¬ app.presenter.active) :
    app.services = [] ∧ app.presenter.Resting := by
  rcases h.service with hresting | ⟨service, _, hconducts⟩
  · exact hresting
  · exact absurd hconducts.active hidle

theorem Coherent.active (h : app.Coherent toolkit) (hactive : app.presenter.active) :
    ∃ service, app.services = [service] ∧ service.Conducts toolkit app.presenter := by
  rcases h.service with ⟨_, hresting⟩ | hconducts
  · exact absurd hresting.state (RuntimePresenter.active_eq_true.mp hactive)
  · exact hconducts

theorem start_services (toolkit : Toolkit E) (app : Application P E) (files : ConfigFiles) :
    (app.start toolkit files).services =
      app.services ++ (app.presenter.start toolkit files).2.toList := rfl

theorem start_presenter (toolkit : Toolkit E) (app : Application P E) (files : ConfigFiles) :
    (app.start toolkit files).presenter = (app.presenter.start (P := P) toolkit files).1 := rfl

theorem Coherent.start (h : app.Coherent toolkit) (files : ConfigFiles) :
    (app.start toolkit files).Coherent toolkit := by
  have hpresenter := start_presenter toolkit app files
  have hservices := start_services toolkit app files
  rcases RuntimePresenter.start_cases (P := P) toolkit files app.presenter with
    ⟨hedits, hrefused⟩ |
    ⟨endpoint, config, hidle, hendpoint, hpath, _, hservice, hcourse, hcommand, _⟩
  · rw [hrefused] at hservices
    exact h.edits hedits (by simpa using hservices)
  · obtain ⟨hnone, hresting⟩ := h.idle hidle
    have hfresh : app.presenter.mStopSource + 1 ∉ app.presenter.stopRequests := fun hrequest =>
      absurd (h.requests _ hrequest) (by omega)
    rw [hnone, hservice] at hservices
    constructor
    · rw [hpresenter, hcourse]
      intro request hrequest
      exact Nat.le_succ_of_le (h.requests request hrequest)
    · refine .inr ⟨_, hservices, ?_⟩
      rw [hpresenter]
      constructor
      · rw [hcourse]
      · rw [hcourse]
        simpa using hfresh
      · rw [hcourse]
      · rw [hcourse]
      · rw [hcommand]
      · exact hendpoint
      · exact ⟨hpath, rfl⟩
      · rw [hcourse]
        exact ⟨rfl, hresting.backend, hresting.timer, hresting.server, hresting.owner,
          hresting.index⟩

theorem Coherent.stop (h : app.Coherent toolkit) :
    (app.setPresenter app.presenter.stop).Coherent toolkit := by
  rcases app.presenter.stop_cases with ⟨hsame, _⟩ | ⟨hactive, _, hcourse, _, _⟩
  · rw [hsame]
    exact h
  · obtain ⟨service, hone, hconducts⟩ := h.active hactive
    refine ⟨?_, .inr ⟨service, hone, hconducts.stop⟩⟩
    intro request hrequest
    change request ≤ app.presenter.stop.mStopSource
    change request ∈ app.presenter.stop.stopRequests at hrequest
    rw [hcourse] at hrequest ⊢
    rcases List.mem_append.mp hrequest with hbefore | hnow
    · exact h.requests request hbefore
    · exact Nat.le_of_eq (List.mem_singleton.mp hnow)

theorem Coherent.quitApplication (h : app.Coherent toolkit) :
    (app.setPresenter app.presenter.quitApplication).Coherent toolkit := by
  unfold RuntimePresenter.quitApplication
  by_cases hactive : app.presenter.active = true
  · rw [if_neg (by simpa using hactive)]
    obtain ⟨service, hone, hconducts⟩ := h.active hactive
    have hwhen : (app.setPresenter { app.presenter with mQuitWhenStopped := true }).Coherent
        toolkit := ⟨h.requests, .inr ⟨service, hone, hconducts.quitWhenStopped⟩⟩
    exact hwhen.stop
  · rw [if_pos hactive]
    obtain ⟨hnone, hresting⟩ := h.idle hactive
    exact ⟨h.requests, .inl ⟨hnone, hresting.state, hresting.stopping, hresting.backend,
      hresting.timer, hresting.server, hresting.owner, hresting.index⟩⟩

theorem Coherent.timeout (h : app.Coherent toolkit) (htimer : app.presenter.mActiveScreenTimer)
    (key : Option ScreenKey) :
    (app.setPresenter (app.presenter.refreshActiveScreen key)).Coherent toolkit := by
  rcases h.service with ⟨_, hresting⟩ | ⟨service, hone, hconducts⟩
  · rw [hresting.timer] at htimer
    cases htimer
  · refine ⟨?_, .inr ⟨service, hone, hconducts.refreshActiveScreen key⟩⟩
    obtain ⟨owner, index, hshown, _⟩ := app.presenter.refreshActiveScreen_eq key
    rw [hshown]
    exact h.requests

theorem Coherent.resume (h : app.Coherent toolkit) {index : Nat} {resumption : Resumption P}
    (hresume : app.resume toolkit index resumption = some app') : app'.Coherent toolkit := by
  rcases h.service with ⟨hnone, _⟩ | ⟨service, hone, hconducts⟩
  · cases (resume_of_nil hnone).symm.trans hresume
  · obtain ⟨next, hnext, hservices⟩ := resume_cases hone hresume
    rcases RuntimePresenter.runService_cases hnext with
      ⟨ending, hstep, rfl, hfinish⟩ | ⟨service', rfl, hstep⟩
    · refine ⟨?_, .inl ⟨hservices, hfinish ▸ hconducts.ends hstep⟩⟩
      obtain ⟨hsource, hrequests, _⟩ := hstep.sources
      rw [hfinish, RuntimePresenter.finishRun_course]
      dsimp only
      rw [hsource, hrequests]
      exact h.requests
    · refine ⟨?_, .inr ⟨service', hservices, hconducts.goes_on hstep⟩⟩
      obtain ⟨hsource, hrequests, _⟩ := hstep.sources
      rw [hsource, hrequests]
      exact h.requests

theorem step_coherent (h : app.Coherent toolkit) {action : Action P}
    (hstep : step toolkit app action = some app') : app'.Coherent toolkit := by
  rcases step_cases hstep with ⟨hedits, hservices⟩ | ⟨files, _, rfl⟩ | ⟨_, rfl⟩ | ⟨_, rfl⟩ |
    ⟨key, htimer, rfl⟩ | ⟨index, resumption, _, hresume⟩
  · exact h.edits hedits hservices
  · exact h.start files
  · exact h.stop
  · exact h.quitApplication
  · exact h.timeout htimer key
  · exact h.resume hresume

/-- In every run the page conducts the one service there is, or there is none. -/
theorem run_coherent (h : Run (step toolkit) unguarded launched actions app) :
    app.Coherent toolkit :=
  h.invariant _ (fun _ _ _ hcoherent _ hstep => step_coherent hcoherent hstep) launched_coherent

/-- The application is quit only when no service is left. -/
theorem Coherent.quits (h : app.Coherent toolkit) {action : Action P}
    (hstep : step toolkit app action = some app')
    (hquits : app'.presenter.quits ≠ app.presenter.quits) : app'.services = [] := by
  rcases step_cases hstep with ⟨hedits, _⟩ | ⟨files, _, rfl⟩ | ⟨_, rfl⟩ | ⟨_, rfl⟩ |
    ⟨key, _, rfl⟩ | ⟨index, resumption, _, hresume⟩
  · exact absurd (by rw [hedits.course]) hquits
  · refine absurd ?_ hquits
    rw [start_presenter]
    rcases RuntimePresenter.start_cases (P := P) toolkit files app.presenter with
      ⟨hedits, _⟩ | ⟨_, _, _, _, _, _, _, hcourse, _, _⟩
    · rw [hedits.course]
    · rw [hcourse]
  · exact absurd app.presenter.stop_quits hquits
  · by_cases hactive : app.presenter.active = true
    · refine absurd ?_ hquits
      change app.presenter.quitApplication.quits = _
      unfold RuntimePresenter.quitApplication
      rw [if_neg (by simpa using hactive), RuntimePresenter.stop_quits]
    · exact (h.idle hactive).1
  · refine absurd ?_ hquits
    obtain ⟨owner, index, hshown, _⟩ := app.presenter.refreshActiveScreen_eq key
    change (app.presenter.refreshActiveScreen key).quits = _
    rw [hshown]
  · rcases h.service with ⟨hnone, _⟩ | ⟨service, hone, _⟩
    · cases (resume_of_nil hnone).symm.trans hresume
    · obtain ⟨next, hnext, hservices⟩ := resume_cases hone hresume
      rcases RuntimePresenter.runService_cases hnext with
        ⟨_, _, rfl, _⟩ | ⟨service', _, hbody⟩
      · exact hservices
      · exact absurd hbody.sources.2.2.2 hquits

/-- In every run there is at most one service, the page is active as long as there is one, and
what the page shows of it is there: a server that is pointed to is that of the service, and its
active screen is shown while it is pointed to. The application is quit when no service is
left. -/
theorem one_service_at_a_time (hrun : Run (step toolkit) unguarded launched actions app) :
    app.services.length ≤ 1 ∧
    (app.presenter.active = true ↔ app.services ≠ []) ∧
    (∀ run, app.presenter.mRunningServer = some run → ∃ service ∈ app.services,
      service.run = run ∧ ∃ selection, service.point = .serving .serverMode selection run) ∧
    app.presenter.mActiveScreenTimer = app.presenter.mRunningServer.isSome ∧
    (app.presenter.mRunningServer = none → app.presenter.mActiveScreenOwnerId = "" ∧
      app.presenter.mActiveScreenIndex = -1) ∧
    ∀ action app', step toolkit app action = some app' →
      app'.presenter.quits ≠ app.presenter.quits → app'.services = [] := by
  have hcoherent := run_coherent hrun
  suffices hpage : app.services.length ≤ 1 ∧
      (app.presenter.active = true ↔ app.services ≠ []) ∧
      (∀ run, app.presenter.mRunningServer = some run → ∃ service ∈ app.services,
        service.run = run ∧ ∃ selection, service.point = .serving .serverMode selection run) ∧
      app.presenter.mActiveScreenTimer = app.presenter.mRunningServer.isSome ∧
      (app.presenter.mRunningServer = none → app.presenter.mActiveScreenOwnerId = "" ∧
        app.presenter.mActiveScreenIndex = -1) by
    obtain ⟨hone, hactive, hserver, htimer, hscreen⟩ := hpage
    exact ⟨hone, hactive, hserver, htimer, hscreen, fun _ _ hstep => hcoherent.quits hstep⟩
  rcases hcoherent.service with ⟨hnone, hresting⟩ | ⟨service, hone, hconducts⟩
  · rw [hnone, hresting.server, hresting.timer]
    refine ⟨by simp, ?_, ?_, rfl, fun _ => ⟨hresting.owner, hresting.index⟩⟩
    · simp [RuntimePresenter.active_eq_true, hresting.state]
    · intro run hrun
      cases hrun
  · rw [hone]
    refine ⟨by simp, by simp [hconducts.active], ?_⟩
    have hfits := hconducts.fits
    unfold Service.Fits at hfits
    have hwaiting : app.presenter.Waiting →
        (∀ run, app.presenter.mRunningServer = some run → ∃ other ∈ [service],
          other.run = run ∧ ∃ selection, other.point = .serving .serverMode selection run) ∧
        app.presenter.mActiveScreenTimer = app.presenter.mRunningServer.isSome ∧
        (app.presenter.mRunningServer = none → app.presenter.mActiveScreenOwnerId = "" ∧
          app.presenter.mActiveScreenIndex = -1) := by
      intro hwaiting
      rw [hwaiting.server, hwaiting.timer]
      refine ⟨?_, rfl, fun _ => ⟨hwaiting.owner, hwaiting.index⟩⟩
      intro run hrun
      cases hrun
    cases hpoint : service.point with
    | spawned =>
      rw [hpoint] at hfits
      exact hwaiting hfits
    | selecting backend requirements =>
      rw [hpoint] at hfits
      exact hwaiting hfits.1
    | serving mode selection token =>
      rw [hpoint] at hfits
      obtain ⟨hserving, _, rfl, _⟩ := hfits
      rw [hserving.server, hserving.timer]
      cases mode with
      | serverMode =>
        refine ⟨?_, rfl, fun h => by cases h⟩
        intro run hrun
        cases hrun
        exact ⟨service, List.mem_singleton_self _, hconducts.run, selection, hpoint⟩
      | clientMode =>
        refine ⟨?_, rfl, fun _ => ⟨hserving.owner rfl, hserving.index rfl⟩⟩
        intro run hrun
        cases hrun

/-- A service that runs does so on a backend for the mode it was started in, at the endpoint
and with the configuration it was started with, whatever has been done on the pages since. -/
theorem serves_what_was_started (hrun : Run (step toolkit) unguarded launched actions app)
    {service : Service P E} (hmem : service ∈ app.services) {mode : RunMode}
    {selection : PlatformSelection P} {token : Nat}
    (hpoint : service.point = .serving mode selection token) :
    mode = service.command.mode ∧
    toolkit.fromString service.command.endpoint = some service.endpoint ∧
    service.configPath = toolkit.absoluteFilePath service.command.common.configPath ∧
    selection.check.supports mode.requirements = true ∧
    (service.command.common.backend = "" ∨ service.command.common.backend = "auto" ∨
      selection.descriptor.name = service.command.common.backend) ∧
    app.presenter.mActiveBackendName = selection.descriptor.displayName ∧
    app.presenter.mCommand.withoutPath = service.command.withoutPath := by
  rcases (run_coherent hrun).service with ⟨hnone, _⟩ | ⟨one, hone, hconducts⟩
  · rw [hnone] at hmem
    cases hmem
  · obtain rfl : service = one := by simpa [hone] using hmem
    have hfits := hconducts.fits
    unfold Service.Fits at hfits
    rw [hpoint] at hfits
    obtain ⟨hserving, rfl, _, hselects⟩ := hfits
    exact ⟨rfl, hconducts.endpoint, hconducts.path.2, hselects.supports, hselects.named,
      hserving.backend, hconducts.command⟩

/-- The status at the end of a run tells of this run alone: that it was stopped if a stop was
requested in it, else the error it ended with, else that it completed. The application is quit if
that was asked for. -/
theorem end_tells_of_this_run (hrun : Run (step toolkit) unguarded launched actions app)
    {index : Nat} {resumption : Resumption P}
    (hstep : step toolkit app (.resume index resumption) = some app')
    (hend : app'.services = []) : ∃ service, app.services = [service] ∧
      (app'.presenter.mStatusTitle, app'.presenter.mStatusDetail) =
        Service.endStatus (decide (service.run ∈ app.presenter.stopRequests))
          (service.endError resumption) (Service.completes resumption) ∧
      app'.presenter.active = false ∧
      app'.presenter.quits =
        app.presenter.quits + if app.presenter.mQuitWhenStopped then 1 else 0 := by
  have hresume : app.resume toolkit index resumption = some app' := hstep
  rcases (run_coherent hrun).service with ⟨hnone, _⟩ | ⟨service, hone, hconducts⟩
  · cases (resume_of_nil hnone).symm.trans hresume
  · obtain ⟨next, hnext, hservices⟩ := resume_cases hone hresume
    rcases RuntimePresenter.runService_cases hnext with
      ⟨ending, hbody, rfl, hfinish⟩ | ⟨service', rfl, _⟩
    · obtain ⟨_, _, hwhen, hquits⟩ := hbody.sources
      refine ⟨service, hone, by rw [hfinish, hconducts.endStatus_eq hbody], ?_, ?_⟩
      · rw [hfinish, ← Bool.not_eq_true, RuntimePresenter.active_eq_true,
          RuntimePresenter.finishRun_course]
        simp
      · rw [hfinish, RuntimePresenter.finishRun_course]
        dsimp only
        rw [hwhen, hquits]
    · rw [hservices] at hend
      cases hend

/-- In every run the log is the end of what was appended since it was last cleared. -/
theorem run_logged (hrun : Run (step toolkit) unguarded launched actions app) :
    app.presenter.Logged := by
  refine hrun.invariant (fun app => app.presenter.Logged) ?_ (List.rtake_nil _).symm
  intro app action app' hlog _ hstep
  rcases step_cases hstep with ⟨hedits, _⟩ | ⟨files, _, rfl⟩ | ⟨_, rfl⟩ | ⟨_, rfl⟩ |
    ⟨key, _, rfl⟩ | ⟨index, resumption, _, hresume⟩
  · exact hedits.log hlog
  · rw [start_presenter]
    rcases RuntimePresenter.start_cases (P := P) toolkit files app.presenter with
      ⟨hedits, _⟩ | ⟨_, _, _, _, _, _, _, _, _, hstarted⟩
    · exact hedits.log hlog
    · exact hstarted
  · rcases app.presenter.stop_cases with ⟨hsame, _⟩ | ⟨_, _, _, _, hstopped⟩
    · rw [hsame]
      exact hlog
    · exact hstopped hlog
  · exact RuntimePresenter.quitApplication_logged hlog
  · obtain ⟨owner, index, hshown, _⟩ := app.presenter.refreshActiveScreen_eq key
    rw [hshown]
    exact hlog
  · obtain ⟨service, next, hnext⟩ := resume_eq_some hresume
    exact RuntimePresenter.runService_logged hnext hlog

/-! ### A run that is stopped -/

def plainToolkit : Toolkit String := ⟨String.toLower, ("/" ++ ·), some⟩

/-- The state after the actions, if all of them can be taken. -/
def reached (actions : List (Action Nat)) : Application Nat String :=
  (execute (step plainToolkit) (fun _ _ _ => true) launched actions).getD launched

theorem reached_run {actions : List (Action Nat)}
    (h : (execute (step plainToolkit) (fun _ _ _ => true) launched actions).isSome = true) :
    Run (step plainToolkit) unguarded launched actions (reached actions) := by
  obtain ⟨app, happ⟩ := Option.isSome_iff_exists.mp h
  have hreached : reached actions = app := by rw [reached, happ, Option.getD_some]
  rw [hreached]
  exact execute_run (fun _ _ _ _ => trivial) happ

/-- A server is started and runs, with a screen that has the cursor. -/
def servingActions : List (Action Nat) :=
  [.start (saveConfig .empty "/mksync.json" {}), .resume 0 .begun,
    .resume 0 (.selected (BackendRegistry.registerAll [BackendRegistry.completeBackend])),
    .timeout (some ⟨"left", 1⟩)]

def servesAsServer (service : Service Nat String) : Bool :=
  match service.point with
  | .serving .serverMode _ 1 => true
  | _ => false

theorem one_service_at_a_time_serving :
    (reached servingActions).presenter.mActiveScreenOwnerId = "left" ∧
      ∃ service ∈ (reached servingActions).services, service.run = 1 ∧
        ∃ selection, service.point = .serving .serverMode selection 1 :=
  ⟨by decide +kernel,
    (one_service_at_a_time (reached_run (by decide +kernel))).2.2.1 1 (by decide +kernel)⟩

theorem serves_what_was_started_serving : ∃ service ∈ (reached servingActions).services,
    ∃ selection, service.point = .serving .serverMode selection 1 ∧
      selection.check.supports RunMode.serverMode.requirements = true := by
  have hserves : (reached servingActions).services.any servesAsServer = true := by
    decide +kernel
  obtain ⟨service, hmem, hserver⟩ := List.any_eq_true.mp hserves
  unfold servesAsServer at hserver
  split at hserver
  · next selection hpoint =>
    have hserved := serves_what_was_started (reached_run (by decide +kernel)) hmem hpoint
    exact ⟨service, hmem, selection, hpoint, hserved.2.2.2.1⟩
  · cases hserver

/-- The window is closed while the server runs. -/
theorem end_tells_of_this_run_closed : ∃ app', step plainToolkit
    (reached (servingActions ++ [.quitApplication])) (.resume 0 .canceled) = some app' ∧
    app'.presenter.mStatusDetail = "键鼠同步服务已安全关闭。" ∧ app'.presenter.quits = 1 := by
  have hsome : (step plainToolkit (reached (servingActions ++ [.quitApplication]))
      (.resume 0 .canceled)).any (fun app' => app'.services.isEmpty) = true := by decide +kernel
  obtain ⟨app', hstep, hend⟩ := (Option.any_eq_true _ _).mp hsome
  obtain ⟨service, hservices, hstatus, _, hquits⟩ :=
    end_tells_of_this_run (reached_run (by decide +kernel)) hstep (List.isEmpty_iff.mp hend)
  have hrequested : (reached (servingActions ++ [.quitApplication])).services.all (fun service =>
      decide (service.run ∈
        (reached (servingActions ++ [.quitApplication])).presenter.stopRequests)) = true := by
    decide +kernel
  have hwhen : (reached (servingActions ++ [.quitApplication])).presenter.mQuitWhenStopped = true ∧
      (reached (servingActions ++ [.quitApplication])).presenter.quits = 0 := by decide +kernel
  rw [hservices] at hrequested
  simp only [List.all_cons, List.all_nil, Bool.and_true] at hrequested
  rw [hrequested] at hstatus
  refine ⟨app', hstep, congrArg Prod.snd hstatus, ?_⟩
  rw [hquits, hwhen.1, hwhen.2]
  rfl

end Application
end Mksync.Gui
