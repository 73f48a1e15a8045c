import Mksync.ScreenAgreement

/-!
# What a session leaves untouched

A report or the end of a session changes nothing of another endpoint, unless a screen
registered through that endpoint has the owner id of one of the session's screens: the
topology forgets by owner id.
-/
namespace Mksync

open TransitionRuns

namespace ServerScreenStore

variable {E : Type} [Endpoint E] {store : ServerScreenStore E} {endpoint other : E}

/-- The topology holds the screen and the endpoint is the one that registered it. -/
def RegisteredThrough (store : ServerScreenStore E) (endpoint : E) (screen : TopologyScreen) :
    Prop :=
  store.mTopology.findScreen screen.key = some screen ∧
    store.registrar.find? screen.key = some endpoint

instance (store : ServerScreenStore E) (endpoint : E) (screen : TopologyScreen) :
    Decidable (store.RegisteredThrough endpoint screen) :=
  inferInstanceAs (Decidable (_ ∧ _))

/-- No screen registered through another endpoint has an owner id of the endpoint's screens. -/
def OwnersUnshared (store : ServerScreenStore E) (endpoint : E) : Prop :=
  ∀ other, other ≠ endpoint → ∀ screen, store.RegisteredThrough other screen →
    screen.key.ownerId ∉ store.ownerIds endpoint

theorem ownersUnshared_iff : store.OwnersUnshared endpoint ↔
    ∀ screen ∈ store.mTopology.screens, ∀ other ∈ store.registrar.find? screen.key,
      other ≠ endpoint → store.RegisteredThrough other screen →
      screen.key.ownerId ∉ store.ownerIds endpoint := by
  constructor
  · exact fun h screen _ other _ hne hscreen => h other hne screen hscreen
  · exact fun h other hne screen hscreen =>
      h screen (OrderedMap.mem_values.mpr ⟨_, hscreen.1⟩) other hscreen.2 hne hscreen

instance (store : ServerScreenStore E) (endpoint : E) :
    Decidable (store.OwnersUnshared endpoint) :=
  decidable_of_iff _ ownersUnshared_iff.symm

theorem registeredThrough_addScreen (hne : other ≠ endpoint) {key : ScreenKey}
    {cell : GridPosition} {info : ScreenInfo} {isLocal : Bool} {screen : TopologyScreen} :
    (store.addScreen endpoint key cell info isLocal).RegisteredThrough other screen ↔
      store.RegisteredThrough other screen := by
  rcases addScreen_cases store endpoint key cell info isLocal with
    heq | ⟨topology, hadd, htopology, _, hregistrar⟩
  · rw [heq]
  · rw [RegisteredThrough, RegisteredThrough, htopology, hregistrar,
      ScreenTopology.findScreen_addScreen hadd, OrderedMap.find?_insertOrAssign]
    by_cases hkey : screen.key = key
    · have hfree := ScreenTopology.findScreen_addScreen_self hadd
      simp only [hkey, if_true, Option.some.injEq]
      exact ⟨fun h => absurd h.2 (Ne.symm hne), fun h => by simp [hfree] at h⟩
    · simp [hkey]

theorem registeredThrough_registerScreens (hne : other ≠ endpoint) (ownerId : String)
    (screens : List ScreenInfo) (isLocal : Bool) {screen : TopologyScreen} :
    (store.registerScreens endpoint ownerId screens isLocal).RegisteredThrough other screen ↔
      store.RegisteredThrough other screen :=
  registerScreens_induction
    (P := fun s => s.RegisteredThrough other screen ↔ store.RegisteredThrough other screen) screens
    (fun _ _ _ _ hs => (registeredThrough_addScreen hne).trans hs) Iff.rfl

theorem registeredThrough_eraseEndpoint {screen : TopologyScreen} :
    (store.eraseEndpoint endpoint).RegisteredThrough other screen ↔
      store.RegisteredThrough other screen ∧ screen.key.ownerId ∉ store.ownerIds endpoint := by
  rw [RegisteredThrough, findScreen_eraseEndpoint]
  by_cases howner : screen.key.ownerId ∈ store.ownerIds endpoint
  · simp [howner]
  · simp [howner, RegisteredThrough, eraseEndpoint]

theorem equalRange_registerScreens (hne : other ≠ endpoint) (ownerId : String)
    (screens : List ScreenInfo) (isLocal : Bool) :
    (store.registerScreens endpoint ownerId screens isLocal).mScreens.equalRange other =
      store.mScreens.equalRange other := by
  refine registerScreens_induction
    (P := fun s => s.mScreens.equalRange other = store.mScreens.equalRange other) screens ?_ rfl
  intro s index cell info hs
  rcases addScreen_cases s endpoint ⟨ownerId, index⟩ cell info isLocal with
    heq | ⟨_, _, _, hscreens, _⟩
  · rw [heq, hs]
  · rw [hscreens, OrderedMultimap.equalRange_emplace_of_ne hne, hs]

/-- Whose cells the topology holds follows from whose screens it holds. -/
theorem Grounded.cell_iff (h : store.Grounded) {cell : GridPosition} {key : ScreenKey} :
    (store.mTopology.mCells.find? cell = some key ∧ store.registrar.find? key = some endpoint) ↔
      ∃ screen, store.RegisteredThrough endpoint screen ∧ screen.key = key ∧
        screen.cell = cell := by
  rw [h.wellFormed.cells]
  constructor
  · rintro ⟨⟨screen, hscreen, hcell⟩, hreg⟩
    obtain rfl := h.wellFormed.keyed key screen hscreen
    exact ⟨screen, ⟨hscreen, hreg⟩, rfl, hcell⟩
  · rintro ⟨screen, ⟨hscreen, hreg⟩, rfl, hcell⟩
    exact ⟨⟨screen, hscreen, hcell⟩, hreg⟩

end ServerScreenStore

namespace Host

variable {E C : Type} [Endpoint E] [InputCapture C] {host host' : Host E C} {endpoint other : E}

/-- Nothing of the endpoint differs between the two states. -/
structure Unchanged (host host' : Host E C) (endpoint : E) : Prop where
  screens : host'.server.mScreens.mScreens.equalRange endpoint =
    host.server.mScreens.mScreens.equalRange endpoint
  topology : ∀ screen, host'.server.mScreens.RegisteredThrough endpoint screen ↔
    host.server.mScreens.RegisteredThrough endpoint screen
  cells : ∀ cell key,
    (host'.server.mScreens.mTopology.mCells.find? cell = some key ∧
      host'.server.mScreens.registrar.find? key = some endpoint) ↔
    (host.server.mScreens.mTopology.mCells.find? cell = some key ∧
      host.server.mScreens.registrar.find? key = some endpoint)
  sender : host'.server.mInput.mSenders.find? endpoint =
    host.server.mInput.mSenders.find? endpoint
  owner : host'.server.mScreens.mEndpointOwners.find? endpoint =
    host.server.mScreens.mEndpointOwners.find? endpoint

omit [InputCapture C] in
/-- Registering and erasing for one endpoint touches the others' part of the store only
through the owner ids of the topology. -/
theorem unchanged_iff_of_eraseEndpoint (hgrounded : host.server.mScreens.Grounded)
    (hgrounded' : host'.server.mScreens.Grounded) (hne : other ≠ endpoint)
    (hscreens : host'.server.mScreens.mScreens.equalRange other =
      (host.server.mScreens.eraseEndpoint endpoint).mScreens.equalRange other)
    (htopology : ∀ screen, host'.server.mScreens.RegisteredThrough other screen ↔
      (host.server.mScreens.eraseEndpoint endpoint).RegisteredThrough other screen)
    (hsender : host'.server.mInput.mSenders.find? other =
      host.server.mInput.mSenders.find? other)
    (howner : host'.server.mScreens.mEndpointOwners.find? other =
      host.server.mScreens.mEndpointOwners.find? other) :
    Unchanged host host' other ↔ ∀ screen, host.server.mScreens.RegisteredThrough other screen →
      screen.key.ownerId ∉ host.server.mScreens.ownerIds endpoint := by
  have hiff : ∀ screen, host'.server.mScreens.RegisteredThrough other screen ↔
      host.server.mScreens.RegisteredThrough other screen ∧
        screen.key.ownerId ∉ host.server.mScreens.ownerIds endpoint := fun screen =>
    (htopology screen).trans ServerScreenStore.registeredThrough_eraseEndpoint
  constructor
  · exact fun h screen hscreen => ((hiff screen).mp ((h.topology screen).mpr hscreen)).2
  · intro hunshared
    have hsame : ∀ screen, host'.server.mScreens.RegisteredThrough other screen ↔
        host.server.mScreens.RegisteredThrough other screen := fun screen =>
      (hiff screen).trans (and_iff_left_of_imp (hunshared screen))
    refine ⟨?_, hsame, fun cell key => ?_, hsender, howner⟩
    · exact hscreens.trans (OrderedMultimap.equalRange_eraseKey_of_ne hne)
    · rw [hgrounded'.cell_iff, hgrounded.cell_iff]
      exact exists_congr fun screen => and_congr_left fun _ => hsame screen

/-- In every reachable state, a report of a session or its end leaves every other endpoint
unchanged if and only if no screen registered through another endpoint has the owner id of
one of the session's screens. -/
theorem session_isolated_iff_ownersUnshared [EntryScaling] {server : E} {config : AppConfig}
    {configPath : String} {capture : C} {as : List (Action E C)} {a : Action E C}
    (hreach : Run step unguarded (start server config configPath capture) as host)
    (hstep : host.step a = some host') (hlocal : ∀ screens, a ≠ .registerLocal screens)
    (hdrop : host.droppedEndpoint a = some endpoint) :
    (∀ other, other ≠ endpoint → Unchanged host host' other) ↔
      host.server.mScreens.OwnersUnshared endpoint := by
  have hgrounded := run_grounded hreach
  have hgrounded' := (step_stepped hstep).storeStep.grounded hgrounded
  refine forall_congr' fun other => forall_congr' fun hne => ?_
  rcases (step_stepped hstep).dropped_cases with ⟨hnone, _⟩ |
    ⟨e, ownerId, screens, isLocal, hsome, hserver, hreport, _⟩ | ⟨e, hsome, hserver⟩
  · simp [hdrop] at hnone
  · obtain rfl : endpoint = e := Option.some.inj (hdrop.symm.trans hsome)
    cases isLocal with
    | true => exact absurd (hreport rfl) (hlocal screens)
    | false =>
      refine unchanged_iff_of_eraseEndpoint hgrounded hgrounded' hne ?_ (fun screen => ?_) ?_ ?_
      · rw [hserver]
        exact ServerScreenStore.equalRange_registerScreens hne ownerId screens false
      · rw [hserver]
        exact ServerScreenStore.registeredThrough_registerScreens hne ownerId screens false
      · rw [hserver, Server.registerScreens_false_mSenders]
      · rw [hserver, Server.registerScreens_mScreens,
          ServerScreenStore.registerScreens_mEndpointOwners]
        rfl
  · obtain rfl : endpoint = e := Option.some.inj (hdrop.symm.trans hsome)
    refine unchanged_iff_of_eraseEndpoint hgrounded hgrounded' hne ?_ (fun screen => ?_) ?_ ?_
    · rw [hserver, Server.onClosed_mScreens]
      rfl
    · rw [hserver, Server.onClosed_mScreens]
      rfl
    · rw [hserver, Server.onClosed_mSenders, OrderedMap.find?_erase, if_neg hne]
    · rw [hserver, Server.onClosed_mScreens]
      simp [ServerScreenStore.forgetOwner, ServerScreenStore.eraseEndpoint, hne]

/-- Two clients with machine ids of their own: the other one does not notice the end. -/
theorem session_isolated_guests : ∃ host host',
    Run step unguarded deskHost (firstOfTwoBreaks "m" "n") host ∧
    host.step (.close (loopback 1001)) = some host' ∧
    ∀ other, other ≠ loopback 1001 → Unchanged host host' other := by
  obtain ⟨host, hrun, hp⟩ := exists_run_of_execute step (fun _ _ _ => true) deskHost
    (firstOfTwoBreaks "m" "n")
    (fun host => (host.step (.close (loopback 1001))).isSome &&
      decide (host.server.mScreens.OwnersUnshared (loopback 1001)))
    (fun _ _ _ _ => trivial) (by decide +kernel)
  obtain ⟨hsome, hunshared⟩ := Bool.and_eq_true_iff.mp hp
  obtain ⟨host', hstep⟩ := Option.isSome_iff_exists.mp hsome
  exact ⟨host, host', hrun, hstep, (session_isolated_iff_ownersUnshared hrun hstep nofun rfl).mpr
    (of_decide_eq_true hunshared)⟩

/-- Two clients with one machine id: the end of the first session takes a screen of the
second out of the topology. -/
theorem session_not_isolated_twins : ∃ host host',
    Run step unguarded deskHost (firstOfTwoBreaks "m" "m") host ∧
    host.step (.close (loopback 1001)) = some host' ∧
    ¬ Unchanged host host' (loopback 1002) := by
  obtain ⟨host, hrun, hp⟩ := exists_run_of_execute step (fun _ _ _ => true) deskHost
    (firstOfTwoBreaks "m" "m")
    (fun host : DeskHost => (host.step (.close (loopback 1001))).any fun host' : DeskHost =>
      decide (∃ screen ∈ host.server.mScreens.mTopology.screens,
        host.server.mScreens.RegisteredThrough (loopback 1002) screen ∧
        ¬ host'.server.mScreens.RegisteredThrough (loopback 1002) screen))
    (fun _ _ _ _ => trivial) (by decide +kernel)
  obtain ⟨host', hstep, screen, _, hbefore, hafter⟩ :
      ∃ host', host.step (.close (loopback 1001)) = some host' ∧
        ∃ screen ∈ host.server.mScreens.mTopology.screens,
          host.server.mScreens.RegisteredThrough (loopback 1002) screen ∧
          ¬ host'.server.mScreens.RegisteredThrough (loopback 1002) screen := by
    simpa only [Option.any_eq_true, decide_eq_true_eq] using hp
  exact ⟨host, host', hrun, hstep, fun h => hafter ((h.topology screen).mpr hbefore)⟩

end Host
end Mksync
