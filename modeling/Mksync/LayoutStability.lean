import Mksync.RemoteCursor
import Mksync.RouterWellFormed
import Mksync.ScreenPlacement

/-!
# Coming back to the same cells

The layout remembers the cells of an owner that is away, the topology does not reserve them.
An owner that returns with the same screens gets its cells back exactly when nobody stands
on them at that time.
-/
namespace Mksync

open TransitionRuns

namespace ServerScreenStore

variable {E : Type} [Endpoint E] {store : ServerScreenStore E} {endpoint : E} {ownerId : String}
  {isLocal : Bool} {index : Nat} {screens : List ScreenInfo}

/-- The cell on which the screen of the key stands. -/
def cellOf (store : ServerScreenStore E) (key : ScreenKey) : Option GridPosition :=
  (store.mTopology.findScreen key).map (·.cell)

theorem cellOf_inj (h : store.mTopology.WellFormed) {key key' : ScreenKey} {cell : GridPosition}
    (hkey : store.cellOf key = some cell) (hkey' : store.cellOf key' = some cell) : key = key' := by
  obtain ⟨screen, hscreen, rfl⟩ := Option.map_eq_some_iff.mp hkey
  obtain ⟨screen', hscreen', hcell⟩ := Option.map_eq_some_iff.mp hkey'
  exact h.cell_inj hscreen hscreen' hcell.symm

/-- The screen of the list index stands on the cell, and the layout says so. -/
def Settled (store : ServerScreenStore E) (ownerId : String) (index : Nat) (cell : GridPosition) :
    Prop :=
  store.cellOf ⟨ownerId, index⟩ = some cell ∧ store.configuredCell ⟨ownerId, index⟩ = some cell

instance (store : ServerScreenStore E) (ownerId : String) (index : Nat) (cell : GridPosition) :
    Decidable (store.Settled ownerId index cell) :=
  inferInstanceAs (Decidable (_ ∧ _))

/-! ### Registering the screens of a remote owner -/

/-- Without an anchor a screen with a positive rect settles on the cell it is offered. -/
theorem addScreen_settled (endpoint : E) (isLocal : Bool) (h : store.mTopology.WellFormed)
    {info : ScreenInfo} (hrect : isValidRect info = true)
    (hkey : store.mTopology.findScreen ⟨ownerId, index⟩ = none) :
    (store.addScreen endpoint ⟨ownerId, index⟩ (store.assignedCell none ⟨ownerId, index⟩) info
      isLocal).Settled ownerId index (store.assignedCell none ⟨ownerId, index⟩) := by
  have hfree : ¬ store.Occupied (store.assignedCell none ⟨ownerId, index⟩) :=
    not_occupied_assignedCell (by simp)
  obtain ⟨topology, hadd⟩ := addScreen_accepted isLocal h hrect hkey hfree
  obtain ⟨node, _, _, hview, hfind, hconfigured⟩ := addScreen_placed endpoint hadd
  refine ⟨?_, hconfigured⟩
  rw [cellOf, hfind, hview]
  rfl

/-- What has settled is not moved by the rest of the list. -/
theorem Settled.registerAssigned {store : ServerScreenStore E} {cell : GridPosition} {rest : Nat}
    (h : store.Settled ownerId index cell) (hlt : index < rest) (anchor : Option Nat) :
    (registerAssigned endpoint ownerId anchor isLocal rest screens store).Settled ownerId index
      cell := by
  have hne : ∀ i, rest ≤ i → i < rest + screens.length →
      (⟨ownerId, index⟩ : ScreenKey) ≠ ⟨ownerId, i⟩ := by
    intro i hi _
    exact ScreenKey.ne_of_screenIndex_ne (by omega)
  refine ⟨?_, ?_⟩
  · rw [cellOf, findScreen_registerAssigned_of_ne hne]
    exact h.1
  · rw [configuredCell_registerAssigned_of_ne hne]
    exact h.2

theorem findScreen_addScreen_later {info : ScreenInfo} {cell : GridPosition}
    (hkeys : ∀ i, store.mTopology.findScreen ⟨ownerId, index + i⟩ = none) (i : Nat) :
    (store.addScreen endpoint ⟨ownerId, index⟩ cell info isLocal).mTopology.findScreen
      ⟨ownerId, index + 1 + i⟩ = none := by
  rw [findScreen_addScreen_of_ne, Nat.add_assoc, Nat.add_comm 1]
  · exact hkeys (i + 1)
  · exact ScreenKey.ne_of_screenIndex_ne (by omega)

/-- Every screen of the list with a positive rect settles somewhere. -/
theorem exists_settled_registerAssigned (h : store.mTopology.WellFormed)
    (hkeys : ∀ i, store.mTopology.findScreen ⟨ownerId, index + i⟩ = none) {i : Nat}
    {info : ScreenInfo} (hinfo : screens[i]? = some info) (hrect : isValidRect info = true) :
    ∃ cell, (registerAssigned endpoint ownerId none isLocal index screens store).Settled ownerId
      (index + i) cell := by
  induction screens generalizing index store i with
  | nil => cases hinfo
  | cons first screens ih =>
    cases i with
    | zero =>
      cases hinfo
      have hfirst := addScreen_settled endpoint isLocal h hrect (hkeys 0)
      exact ⟨_, hfirst.registerAssigned (Nat.lt_succ_self index) none⟩
    | succ i =>
      have hshift : index + (i + 1) = index + 1 + i := by omega
      rw [registerAssigned, hshift]
      exact ih (wellFormed_addScreen h) (findScreen_addScreen_later hkeys) hinfo

/-- Screens with distinct free persisted cells settle there. -/
theorem settled_registerAssigned (h : store.mTopology.WellFormed)
    (hkeys : ∀ i, store.mTopology.findScreen ⟨ownerId, index + i⟩ = none)
    (hrects : ∀ info ∈ screens, isValidRect info = true) {cells : Nat → GridPosition}
    (hconfigured : ∀ i < screens.length,
      store.configuredCell ⟨ownerId, index + i⟩ = some (cells (index + i)))
    (hdistinct : ∀ i < screens.length, ∀ j < screens.length,
      cells (index + i) = cells (index + j) → i = j)
    (hfree : ∀ i < screens.length, ¬ store.Occupied (cells (index + i)))
    (i : Nat) (hi : i < screens.length) :
    (registerAssigned endpoint ownerId none isLocal index screens store).Settled ownerId
      (index + i) (cells (index + i)) := by
  induction screens generalizing index store i with
  | nil => simp at hi
  | cons info screens ih =>
    obtain ⟨hrect, hrects⟩ := List.forall_mem_cons.mp hrects
    have hkey : store.mTopology.findScreen ⟨ownerId, index⟩ = none := hkeys 0
    have hcell : store.assignedCell none ⟨ownerId, index⟩ = cells index := by
      have hpersisted : store.configuredCell ⟨ownerId, index⟩ = some (cells index) :=
        hconfigured 0 (by simp)
      have hoccupied : ¬ store.Occupied (cells index) := hfree 0 (by simp)
      rw [assignedCell, hpersisted]
      simp only [if_neg hoccupied]
    have hfirst := addScreen_settled endpoint isLocal h hrect hkey
    cases i with
    | zero =>
      rw [hcell] at hfirst
      rw [registerAssigned, hcell]
      exact hfirst.registerAssigned (Nat.lt_succ_self index) none
    | succ i =>
      have hshift : ∀ j, index + (j + 1) = index + 1 + j := by
        intro j
        omega
      rw [registerAssigned, hshift i]
      apply ih (wellFormed_addScreen h) (findScreen_addScreen_later hkeys) hrects
      · intro j hj
        rw [configuredCell_addScreen_of_ne, ← hshift j]
        · exact hconfigured (j + 1) (by simpa using hj)
        · exact ScreenKey.ne_of_screenIndex_ne (by omega)
      · intro j hj k hk heq
        have hsame := hdistinct (j + 1) (by simpa using hj) (k + 1) (by simpa using hk)
          (by rw [hshift j, hshift k]; exact heq)
        omega
      · intro j hj
        have hoccupied : ¬ store.Occupied (cells index) := hfree 0 (by simp)
        rw [hcell, occupied_addScreen h hkey hoccupied, ← hshift j]
        rintro (hbefore | ⟨_, heq⟩)
        · exact hfree (j + 1) (by simpa using hj) hbefore
        · have hsame := hdistinct 0 (by simp) (j + 1) (by simpa using hj) heq
          omega
      · simpa using hi

/-- The screens of an owner that has none settle on their persisted cells exactly when
nobody stands there. -/
theorem settled_registerScreens_iff (endpoint : E) (h : store.mTopology.WellFormed)
    (howner : ∀ i, store.mTopology.findScreen ⟨ownerId, i⟩ = none)
    (hrects : ∀ info ∈ screens, isValidRect info = true) {cells : Nat → GridPosition}
    (hconfigured : ∀ i < screens.length, store.configuredCell ⟨ownerId, i⟩ = some (cells i))
    (hdistinct : ∀ i < screens.length, ∀ j < screens.length, cells i = cells j → i = j) :
    (∀ i < screens.length, (store.registerScreens endpoint ownerId screens false).Settled ownerId i
      (cells i)) ↔ ∀ i < screens.length, ¬ store.Occupied (cells i) := by
  rw [registerScreens_eq_registerAssigned]
  have hanchor : anchorIndex screens false = none := rfl
  have hzero : ∀ i, 0 + i = i := Nat.zero_add
  rw [hanchor]
  constructor
  · rintro hsettled i hi ⟨screen, hscreen, hcell⟩
    -- the screen in the way would still stand there
    have hfound := h.mem_screens.mp hscreen
    have hstays : (registerAssigned endpoint ownerId none false 0 screens
        store).mTopology.findScreen screen.key = some screen :=
      findScreen_registerAssigned_of_some hfound
    have hkey := cellOf_inj (wellFormed_registerAssigned h) (hsettled i hi).1
      (by rw [cellOf, hstays, ← hcell]; rfl)
    rw [← hkey, howner] at hfound
    cases hfound
  · intro hfree i hi
    have hsettled : (registerAssigned endpoint ownerId none false 0 screens store).Settled ownerId
        (0 + i) (cells (0 + i)) := by
      apply settled_registerAssigned h _ hrects _ _ _ i hi
      · simpa only [hzero] using howner
      · simpa only [hzero] using hconfigured
      · simpa only [hzero] using hdistinct
      · simpa only [hzero] using hfree
    simpa only [hzero] using hsettled

theorem configuredCell_registerScreens_of_ne {key : ScreenKey} (h : key.ownerId ≠ ownerId) :
    (store.registerScreens endpoint ownerId screens isLocal).configuredCell key =
      store.configuredCell key := by
  rw [registerScreens_eq_registerAssigned, configuredCell_registerAssigned_of_ne]
  rintro i _ _ rfl
  exact h rfl

end ServerScreenStore

namespace Host

variable {E C : Type} [Endpoint E] [InputCapture C] {host host' : Host E C} {endpoint : E}
  {owner : String}

/-! ### An owner that is away -/

/-- The server's own screens stay, and each connection has an owner id of its own. -/
def DistinctServing (host : Host E C) (a : Action E C) (host' : Host E C) : Prop :=
  Serving host a host' ∧ host'.OwnersDistinct

instance (host : Host E C) (a : Action E C) (host' : Host E C) :
    Decidable (DistinctServing host a host') := inferInstanceAs (Decidable (_ ∧ _))

/-- The owner whose report is read. -/
def reportingOwner (host : Host E C) : Action E C → Option String
  | .receive endpoint (.screens _) => host.admittedOwner endpoint
  | _ => none

/-- The other owners do what they like. -/
def Quiet (owner : String) (host : Host E C) (a : Action E C) (host' : Host E C) : Prop :=
  DistinctServing host a host' ∧ host.reportingOwner a ≠ some owner

instance (owner : String) (host : Host E C) (a : Action E C) (host' : Host E C) :
    Decidable (Quiet owner host a host') := inferInstanceAs (Decidable (_ ∧ _))

/-- What tells the screens of the owners apart in every state of such a run. -/
structure Apart (host : Host E C) : Prop where
  grounded : host.server.mScreens.Grounded
  valid : SessionsValid host
  owned : Owned host
  distinct : host.OwnersDistinct

theorem Apart.step [EntryScaling] {a : Action E C} (h : Apart host) (hs : Stepped host a host')
    (hdistinct : host'.OwnersDistinct) : Apart host' :=
  ⟨hs.storeStep.grounded h.grounded, h.valid.step hs, h.owned.step h.valid hs, hdistinct⟩

theorem apart_started [EntryScaling] (endpoint : E) (config : AppConfig) (configPath : String)
    (capture : C) (screens : List ScreenInfo) :
    Apart (started endpoint config configPath capture screens) := by
  have hrun : Run step unguarded (start endpoint config configPath capture)
      [.registerLocal screens] (started endpoint config configPath capture screens) :=
    Run.one rfl trivial
  refine ⟨run_grounded hrun, (run_owned hrun).1, (run_owned hrun).2, ?_⟩
  exact ⟨fun _ _ _ he => (nomatch he), fun _ he => (nomatch he)⟩

omit [InputCapture C] in
/-- The screens of a connection's owner stand under the connection's endpoint. -/
theorem Apart.key_eq (h : Apart host) (howner : host.admittedOwner endpoint = some owner)
    {node : ScreenNode E} (hnode : node ∈ host.server.mScreens.mScreens.nodes)
    (hid : node.value.key.ownerId = owner) : node.key = endpoint := by
  rcases h.owned.nodes node hnode with ⟨_, _, hown⟩ | ⟨_, _, hadmitted⟩
  · exact absurd (howner.trans (by rw [← hid, hown])) (h.distinct.2 endpoint)
  · exact h.distinct.1 _ _ _ hadmitted (howner.trans (by rw [hid]))

/-- Without stored screens the owner has none in the topology. -/
theorem findScreen_eq_none_of_nodes {store : ServerScreenStore E} (h : store.Grounded)
    (hnone : ∀ node ∈ store.mScreens.nodes, node.value.key.ownerId ≠ owner) (index : Nat) :
    store.mTopology.findScreen ⟨owner, index⟩ = none := by
  by_contra hfound
  obtain ⟨screen, hscreen⟩ := Option.ne_none_iff_exists'.mp hfound
  obtain ⟨node, hnode, rfl, _⟩ := h.viewed _ _ hscreen
  exact hnone node hnode (by rw [h.key_eq hscreen])

theorem Stepped.report_server [EntryScaling] {report : ScreensMessage}
    (hs : Stepped host (.receive endpoint (.screens report)) host')
    (howner : host.admittedOwner endpoint = some owner) :
    host'.server = host.server.registerScreens endpoint owner report.screens false := by
  cases hs with
  | rejected live phase => simp [admittedOwner_of_live live, phase] at howner
  | ignored _ _ noScreens => exact absurd rfl (noScreens report)
  | @reported _ session _ live phase =>
    have heq : session.mOwnerId = owner := by
      simpa [admittedOwner_of_live live, phase] using howner
    rw [← heq]
    rfl

/-- A report replaces the screens of the connection by the reported ones. -/
theorem Stepped.report_mScreens [EntryScaling] {report : ScreensMessage}
    (hs : Stepped host (.receive endpoint (.screens report)) host')
    (howner : host.admittedOwner endpoint = some owner) :
    host'.server.mScreens =
      (host.server.mScreens.eraseEndpoint endpoint).registerScreens endpoint owner report.screens
        false := by
  rw [hs.report_server howner, Server.registerScreens_mScreens]

theorem Stepped.report_admittedOwner [EntryScaling] {report : ScreensMessage}
    (hs : Stepped host (.receive endpoint (.screens report)) host')
    (howner : host.admittedOwner endpoint = some owner) :
    host'.admittedOwner endpoint = some owner := by
  cases hs with
  | rejected live phase => simp [admittedOwner_of_live live, phase] at howner
  | ignored _ _ noScreens => exact absurd rfl (noScreens report)
  | reported live phase =>
    rw [← howner]
    exact admittedOwner_withSession_same endpoint live (by simp [phase]) (by simp [phase]) rfl

/-- A quiet step leaves the remembered cells of the owner, registers none of its screens and
takes those of the dropped endpoint away. -/
theorem Stepped.quiet [EntryScaling] {a : Action E C} (hs : Stepped host a host')
    (hquiet : Quiet owner host a host') :
    (∀ index, host'.server.mScreens.configuredCell ⟨owner, index⟩ =
      host.server.mScreens.configuredCell ⟨owner, index⟩) ∧
    ∀ node ∈ host'.server.mScreens.mScreens.nodes, node.value.key.ownerId = owner →
      node ∈ host.server.mScreens.mScreens.nodes ∧ host.droppedEndpoint a ≠ some node.key := by
  rcases hs.dropped_cases with ⟨hdrop, hkept⟩ |
    ⟨e, ownerId, screens, isLocal, hdrop, hserver, hown, hreport⟩ | ⟨e, hdrop, hserver⟩
  · have hsame : host'.server.mScreens.mScreens = host.server.mScreens.mScreens ∧
        host'.server.mScreens.mConfig = host.server.mScreens.mConfig := by
      rcases hkept with hkept | ⟨_, _, hkept⟩ <;> rw [hkept] <;> exact ⟨rfl, rfl⟩
    refine ⟨fun index => ?_, fun node hnode _ => ⟨hsame.1 ▸ hnode, by simp [hdrop]⟩⟩
    rw [ServerScreenStore.configuredCell, hsame.2]
    rfl
  · have hne : ownerId ≠ owner := by
      cases isLocal with
      | true => exact absurd (hown rfl) (hquiet.1.1 screens)
      | false =>
        obtain ⟨session, rfl, live, phase, rfl⟩ := hreport rfl
        have hother := hquiet.2
        simp only [reportingOwner, admittedOwner_of_live live, phase, reduceCtorEq,
          if_false] at hother
        exact fun heq => hother (by rw [heq])
    rw [hserver, Server.registerScreens_mScreens]
    refine ⟨fun index => ?_, fun node hnode hid => ?_⟩
    · exact ServerScreenStore.configuredCell_registerScreens_of_ne hne.symm
    · rcases ServerScreenStore.mem_nodes_registerScreens screens hnode with hold | ⟨_, _, hnew, _⟩
      · obtain ⟨hold, hkey⟩ := OrderedMultimap.mem_nodes_eraseKey.mp hold
        exact ⟨hold, by rw [hdrop]; simpa using hkey.symm⟩
      · exact absurd (hnew.symm.trans hid) hne
  · rw [hserver, Server.onClosed_mScreens]
    refine ⟨fun _ => rfl, fun node hnode _ => ?_⟩
    obtain ⟨hold, hkey⟩ := OrderedMultimap.mem_nodes_eraseKey.mp hnode
    exact ⟨hold, by rw [hdrop]; simpa using hkey.symm⟩

/-- Along quiet steps the layout keeps the owner's cells, and no screen of the owner comes. -/
theorem run_quiet [EntryScaling] {as : List (Action E C)} (h : Run step (Quiet owner) host as host')
    (hapart : Apart host) : Apart host' ∧
    (∀ index, host'.server.mScreens.configuredCell ⟨owner, index⟩ =
      host.server.mScreens.configuredCell ⟨owner, index⟩) ∧
    ∀ node ∈ host'.server.mScreens.mScreens.nodes, node.value.key.ownerId = owner →
      node ∈ host.server.mScreens.mScreens.nodes := by
  refine h.invariant (fun t => Apart t ∧ (∀ index, t.server.mScreens.configuredCell ⟨owner, index⟩ =
      host.server.mScreens.configuredCell ⟨owner, index⟩) ∧
    ∀ node ∈ t.server.mScreens.mScreens.nodes, node.value.key.ownerId = owner →
      node ∈ host.server.mScreens.mScreens.nodes) ?_
    ⟨hapart, fun _ => rfl, fun _ hnode _ => hnode⟩
  rintro s a t ⟨hs, hconfigured, hnodes⟩ hquiet hnext
  have hstepped := step_stepped hnext
  have hstep := hstepped.quiet hquiet
  refine ⟨hs.step hstepped hquiet.1.2, ?_, ?_⟩
  · intro index
    rw [hstep.1, hconfigured]
  · intro node hnode hid
    exact hnodes node (hstep.2 node hnode hid).1 hid

/-! ### Leaving and coming back -/

/-- In a run from `start` the owner reports its screens on `endpoint`, its connection ends
and, whatever others do meanwhile, it reports the same screens on `endpoint'`. -/
structure Reconnection [EntryScaling] (start : Host E C) (owner : String) (report : ScreensMessage)
    (endpoint endpoint' : E) (placed away restored : Host E C) : Prop where
  positive : ∀ info ∈ report.screens, isValidRect info = true
  placing : ∃ as before, Run step DistinctServing start as before ∧
    before.admittedOwner endpoint = some owner ∧
    before.step (.receive endpoint (.screens report)) = some placed ∧
    DistinctServing before (.receive endpoint (.screens report)) placed
  leaving : ∃ as leaves a left bs, Run step (Quiet owner) placed as leaves ∧
    leaves.droppedEndpoint a = some endpoint ∧ leaves.step a = some left ∧
    Quiet owner leaves a left ∧ Run step (Quiet owner) left bs away
  returning : away.admittedOwner endpoint' = some owner ∧
    away.step (.receive endpoint' (.screens report)) = some restored

/-- No screen stands on a cell remembered for one of the first screens of the owner. -/
def RememberedFree (store : ServerScreenStore E) (owner : String) (length : Nat) : Prop :=
  ∀ index < length, ∀ cell ∈ store.configuredCell ⟨owner, index⟩, ¬ store.Occupied cell

instance (store : ServerScreenStore E) (owner : String) (length : Nat) :
    Decidable (RememberedFree store owner length) :=
  inferInstanceAs (Decidable (∀ index < length, ∀ cell ∈ _, _))

omit [InputCapture C] in
/-- A report on its owner's connection starts without screens of the owner. -/
theorem Apart.findScreen_eraseEndpoint (h : Apart host)
    (howner : host.admittedOwner endpoint = some owner) (index : Nat) :
    (host.server.mScreens.eraseEndpoint endpoint).mTopology.findScreen ⟨owner, index⟩ = none := by
  apply findScreen_eq_none_of_nodes (h.grounded.eraseEndpoint endpoint)
  intro node hnode hid
  obtain ⟨hnode, hkey⟩ := OrderedMultimap.mem_nodes_eraseKey.mp hnode
  exact hkey (h.key_eq howner hnode hid)

omit [InputCapture C] in
/-- While the owner has no screens, nothing is erased for its new connection. -/
theorem Apart.eraseEndpoint_mTopology (h : Apart host)
    (howner : host.admittedOwner endpoint = some owner)
    (habsent : ∀ node ∈ host.server.mScreens.mScreens.nodes, node.value.key.ownerId ≠ owner) :
    (host.server.mScreens.eraseEndpoint endpoint).mTopology = host.server.mScreens.mTopology := by
  have hrange : host.server.mScreens.mScreens.equalRange endpoint = [] := by
    apply List.eq_nil_iff_forall_not_mem.mpr
    intro node hmem
    obtain ⟨hnode, rfl⟩ := OrderedMultimap.mem_equalRange.mp hmem
    rcases h.owned.nodes node hnode with ⟨hlocal, _⟩ | ⟨_, _, hadmitted⟩
    · simp [admittedOwner, hlocal, h.valid.remote] at howner
    · exact habsent node hnode (Option.some.inj (hadmitted.symm.trans howner))
  simp [ServerScreenStore.eraseEndpoint, ServerScreenStore.ownerIds, hrange]

/-- The reported screens settle. -/
theorem Apart.report_settled [EntryScaling] {report : ScreensMessage} (h : Apart host)
    (howner : host.admittedOwner endpoint = some owner)
    (hpositive : ∀ info ∈ report.screens, isValidRect info = true)
    (hs : Stepped host (.receive endpoint (.screens report)) host') :
    ∀ index < report.screens.length, ∃ cell,
      host'.server.mScreens.Settled owner index cell := by
  intro index hindex
  rw [hs.report_mScreens howner, ServerScreenStore.registerScreens_eq_registerAssigned]
  have hsettled : ∃ cell, (ServerScreenStore.registerAssigned endpoint owner none false 0
      report.screens (host.server.mScreens.eraseEndpoint endpoint)).Settled owner (0 + index)
        cell :=
    ServerScreenStore.exists_settled_registerAssigned
      (h.grounded.eraseEndpoint endpoint).wellFormed
      (fun i => h.findScreen_eraseEndpoint howner (0 + i)) (List.getElem?_eq_getElem hindex)
      (hpositive _ (List.getElem_mem hindex))
  rwa [Nat.zero_add] at hsettled

/-- At first the screens settle. While the owner is away its cells are remembered, and none
of its screens is stored. -/
theorem Reconnection.away_spec [EntryScaling] {start placed away restored : Host E C}
    {report : ScreensMessage} {endpoint' : E}
    (h : Reconnection start owner report endpoint endpoint' placed away restored)
    (hstart : Apart start) : Apart placed ∧ Apart away ∧
      (∀ index < report.screens.length, ∃ cell,
        placed.server.mScreens.Settled owner index cell) ∧
      (∀ index, away.server.mScreens.configuredCell ⟨owner, index⟩ =
        placed.server.mScreens.configuredCell ⟨owner, index⟩) ∧
      ∀ node ∈ away.server.mScreens.mScreens.nodes, node.value.key.ownerId ≠ owner := by
  obtain ⟨as, before, hbefore, howner, hreport, hguard⟩ := h.placing
  obtain ⟨bs, leaves, a, left, cs, hstay, hdrop, hleave, hquiet, haway⟩ := h.leaving
  have hreport := step_stepped hreport
  have hleave := step_stepped hleave
  have hbefore : Apart before := hbefore.invariant Apart
    (fun s a t hs hguard hnext => hs.step (step_stepped hnext) hguard.2) hstart
  have hplaced : Apart placed := hbefore.step hreport hguard.2
  obtain ⟨hleaves, hconfigured, hnodes⟩ := run_quiet hstay hplaced
  have hleft := hleave.quiet hquiet
  obtain ⟨haway, hconfigured', hnodes'⟩ := run_quiet haway (hleaves.step hleave hquiet.1.2)
  refine ⟨hplaced, haway, hbefore.report_settled howner h.positive hreport, ?_, ?_⟩
  · intro index
    rw [hconfigured', hleft.1, hconfigured]
  · -- its screens stood under the endpoint that was dropped
    intro node hnode hid
    obtain ⟨hstood, hkept⟩ := hleft.2 node (hnodes' node hnode hid) hid
    have hkey := hplaced.key_eq (hreport.report_admittedOwner howner) (hnodes node hstood hid) hid
    exact hkept (by rw [hdrop, hkey])

/-- When an owner leaves and returns with the same screens, they were placed at first, and
they are registered on the same cells and remembered there exactly when nobody stands on the
remembered cells at its return. -/
theorem cells_restored_iff_free [EntryScaling] {server : E} {config : AppConfig}
    {configPath : String} {capture : C} {screens : List ScreenInfo} {report : ScreensMessage}
    {endpoint endpoint' : E} {placed away restored : Host E C}
    (h : Reconnection (started server config configPath capture screens) owner report endpoint
      endpoint' placed away restored) :
    (∀ index < report.screens.length, ∃ cell,
      placed.server.mScreens.Settled owner index cell) ∧
    ((∀ index < report.screens.length, ∃ cell, placed.server.mScreens.cellOf ⟨owner, index⟩ =
        some cell ∧ restored.server.mScreens.Settled owner index cell) ↔
      RememberedFree away.server.mScreens owner report.screens.length) := by
  obtain ⟨howner', hreport'⟩ := h.returning
  have hreport' := step_stepped hreport'
  obtain ⟨hplacedApart, hawayApart, hplaced, hmemory, habsent⟩ :=
    h.away_spec (apart_started server config configPath capture screens)
  refine ⟨hplaced, ?_⟩
  let cells (index : Nat) : GridPosition :=
    (placed.server.mScreens.cellOf ⟨owner, index⟩).getD ⟨0, 0⟩
  have hcells : ∀ index < report.screens.length,
      placed.server.mScreens.Settled owner index (cells index) := by
    intro index hindex
    obtain ⟨cell, hcell⟩ := hplaced index hindex
    have heq : cells index = cell := by simp [cells, hcell.1]
    rwa [heq]
  have hremembered : ∀ index < report.screens.length,
      away.server.mScreens.configuredCell ⟨owner, index⟩ = some (cells index) := by
    intro index hindex
    rw [hmemory]
    exact (hcells index hindex).2
  have htopology := hawayApart.eraseEndpoint_mTopology howner' habsent
  have hiff := ServerScreenStore.settled_registerScreens_iff endpoint'
    (hawayApart.grounded.eraseEndpoint endpoint').wellFormed
    (hawayApart.findScreen_eraseEndpoint howner') h.positive hremembered (by
      intro i hi j hj heq
      have hkey := ServerScreenStore.cellOf_inj hplacedApart.grounded.wellFormed
        (hcells i hi).1 (heq ▸ (hcells j hj).1)
      exact congrArg ScreenKey.screenIndex hkey)
  rw [← hreport'.report_mScreens howner'] at hiff
  have hoccupied : ∀ cell, (away.server.mScreens.eraseEndpoint endpoint').Occupied cell ↔
      away.server.mScreens.Occupied cell := by
    intro cell
    rw [ServerScreenStore.Occupied, htopology]
    rfl
  constructor
  · intro hrestored index hindex cell hcell
    have hsettled : ∀ i < report.screens.length,
        restored.server.mScreens.Settled owner i (cells i) := by
      intro i hi
      obtain ⟨c, hc, hsettled⟩ := hrestored i hi
      rw [(hcells i hi).1] at hc
      cases hc
      exact hsettled
    have hcell := hcell.symm.trans (hremembered index hindex)
    cases hcell
    rw [← hoccupied]
    exact hiff.mp hsettled index hindex
  · intro hfree index hindex
    refine ⟨cells index, (hcells index hindex).1, hiff.mpr ?_ index hindex⟩
    intro i hi
    rw [hoccupied]
    exact hfree i hi _ (hremembered i hi)

/-! ### A guest that comes back -/

def guestArrives (port : UInt16) : List DeskAction :=
  [.accept (loopback port), .receive (loopback port) (.hello { machineId := "m" })]

def guestReport : ScreensMessage := ⟨[sideMonitor]⟩

def deskServing : DeskHost :=
  started (loopback 24800) { machineId := "desk" } "" {} [deskMonitor]

/-- The guest reports a screen, leaves, others act, and the guest reports the screen again;
`test` looks at the three states of the reconnection. -/
def guestReturns (others : List DeskAction) (test : DeskHost → DeskHost → DeskHost → Bool) : Bool :=
  (execute step (fun host a host' => decide (DistinctServing host a host')) deskServing
      (guestArrives 1001)).any fun before =>
    decide (before.admittedOwner (loopback 1001) = some "m") &&
    (before.step (.receive (loopback 1001) (.screens guestReport))).any fun placed =>
      decide (DistinctServing before (.receive (loopback 1001) (.screens guestReport)) placed) &&
      (execute step (fun host a host' => decide (Quiet "m" host a host')) placed
          [.fail (loopback 1001)]).any fun leaves =>
        decide (leaves.droppedEndpoint (.close (loopback 1001)) = some (loopback 1001)) &&
        (leaves.step (.close (loopback 1001))).any fun left =>
          decide (Quiet "m" leaves (.close (loopback 1001)) left) &&
          (execute step (fun host a host' => decide (Quiet "m" host a host')) left
              (others ++ guestArrives 1003)).any fun away =>
            decide (away.admittedOwner (loopback 1003) = some "m") &&
            (away.step (.receive (loopback 1003) (.screens guestReport))).any fun restored =>
              test placed away restored

theorem guestReturns_reconnection (others : List DeskAction)
    (test : DeskHost → DeskHost → DeskHost → Bool) (h : guestReturns others test = true) :
    ∃ placed away restored, Reconnection deskServing "m" guestReport (loopback 1001)
      (loopback 1003) placed away restored ∧ test placed away restored = true := by
  obtain ⟨before, hbefore, h⟩ := exists_run_of_execute step _ deskServing _ _
    (fun _ _ _ hcheck => of_decide_eq_true hcheck) h
  simp only [Bool.and_eq_true, decide_eq_true_eq, Option.any_eq_true] at h
  obtain ⟨howner, placed, hplaced, hguard, leaves, hleaves, hdrop, left, hleft, hquiet, away, haway,
    howner', restored, hrestored, htest⟩ := h
  have hstay : Run step (Quiet "m") placed [.fail (loopback 1001)] leaves :=
    execute_run (fun _ _ _ hcheck => of_decide_eq_true hcheck) hleaves
  have hgone : Run step (Quiet "m") left (others ++ guestArrives 1003) away :=
    execute_run (fun _ _ _ hcheck => of_decide_eq_true hcheck) haway
  exact ⟨placed, away, restored, ⟨by decide, ⟨_, before, hbefore, howner, hplaced, hguard⟩,
    ⟨_, leaves, _, left, _, hstay, hdrop, hleft, hquiet, hgone⟩, howner', hrestored⟩, htest⟩

/-- Nobody else comes, and the guest's screen is where it was. -/
theorem cells_restored_iff_free_guest : ∃ placed away restored,
    Reconnection deskServing "m" guestReport (loopback 1001) (loopback 1003) placed away
      restored ∧
    ∃ cell, placed.server.mScreens.cellOf ⟨"m", 0⟩ = some cell ∧
      restored.server.mScreens.Settled "m" 0 cell := by
  obtain ⟨placed, away, restored, hreconnection, hfree⟩ := guestReturns_reconnection []
    (fun _ away _ => decide (RememberedFree away.server.mScreens "m" 1)) (by decide +kernel)
  exact ⟨placed, away, restored, hreconnection,
    (cells_restored_iff_free hreconnection).2.mpr (of_decide_eq_true hfree) 0 (by decide)⟩

/-- A second guest comes while the first is away, and takes its cell for good. -/
theorem cells_taken_by_other : ∃ placed away restored,
    Reconnection deskServing "m" guestReport (loopback 1001) (loopback 1003) placed away
      restored ∧
    placed.server.mScreens.Settled "m" 0 ⟨1, 0⟩ ∧
    restored.server.mScreens.Settled "m" 0 ⟨2, 0⟩ := by
  obtain ⟨placed, away, restored, hreconnection, htaken⟩ := guestReturns_reconnection
    (connect 1002 "n" [sideMonitor])
    (fun placed _ restored => decide (placed.server.mScreens.Settled "m" 0 ⟨1, 0⟩ ∧
      restored.server.mScreens.Settled "m" 0 ⟨2, 0⟩)) (by decide +kernel)
  exact ⟨placed, away, restored, hreconnection, of_decide_eq_true htaken⟩

end Host
end Mksync
