import Mksync.ActivePointer
import Mksync.SessionIsolation

/-!
# What a closed session leaves behind

A session ends in its handshake or after its loops, and whatever came before, the end is the
one cleanup callback. It leaves the remembered layout and nothing else of the endpoint.
-/
namespace Mksync

open TransitionRuns

namespace Host

variable {E C : Type} [Endpoint E] [InputCapture C] {host host' : Host E C} {endpoint : E}
  {session : ServerSession}

/-- Nothing of the endpoint is in the state after, and the layout is the one before. -/
structure NothingLeft (host host' : Host E C) (endpoint : E) : Prop where
  screens : ∀ node ∈ host'.server.mScreens.mScreens.nodes,
    node.key ≠ endpoint ∧ node.value.endpoint ≠ endpoint
  sender : host'.server.mInput.mSenders.find? endpoint = none
  owner : host'.server.mScreens.mEndpointOwners.find? endpoint = none
  topology : ∀ screen, ¬ host'.server.mScreens.RegisteredThrough endpoint screen
  pointer : ∀ node ∈ host.server.mScreens.mScreens.nodes, node.key = endpoint →
    host'.server.mInput.mActiveScreen ≠ some node.address
  active : ∀ screen, host'.server.mInput.activeScreen host'.server.mScreens = some screen →
    screen.endpoint ≠ endpoint
  layout : host'.server.mScreens.mConfig.screens = host.server.mScreens.mConfig.screens

/-- However a live session comes to its end, the end is the cleanup. -/
theorem Stepped.eq_closeSession [EntryScaling] {a : Action E C} (hs : Stepped host a host')
    (live : host.sessions.find? endpoint = some session)
    (hgone : host'.sessions.find? endpoint = none) : host' = host.closeSession endpoint := by
  have hkept : ∀ e s, (host.withSession e s).sessions.find? endpoint ≠ none := by
    intro e s
    rw [withSession, OrderedMap.find?_insertOrAssign]
    split_ifs
    · simp
    · simp [live]
  have hother : ∀ e, (host.closeSession e).sessions.find? endpoint = none → e = endpoint := by
    intro e he
    rw [closeSession, OrderedMap.find?_erase, live] at he
    by_contra hne
    simp [Ne.symm hne] at he
  cases hs with
  | registerLocal | captured | signal | delivered =>
    have hgone : host.sessions.find? endpoint = none := hgone
    simp [live] at hgone
  | accepted | greeted | reported | ignored | published | broke | hungUp =>
    exact absurd hgone (hkept _ _)
  | rejected | dropped | closed => rw [hother _ hgone]

omit [InputCapture C] in
/-- Without stored screens of the endpoint the topology has none that came through it. -/
theorem not_registeredThrough {store : ServerScreenStore E} (h : store.Grounded)
    (hnone : ∀ node ∈ store.mScreens.nodes, node.key ≠ endpoint) (screen : TopologyScreen) :
    ¬ store.RegisteredThrough endpoint screen := by
  rintro ⟨hfind, hregistrar⟩
  obtain ⟨node, hnode, _, hkey⟩ := h.viewed _ _ hfind
  rw [hregistrar] at hkey
  exact hnone node hnode (Option.some.inj hkey).symm

/-- In every run, a step that ends a session leaves nothing of its endpoint behind, and the
layout as it was. -/
theorem closed_session_leaves_nothing [EntryScaling] {server : E} {config : AppConfig}
    {configPath : String} {capture : C} {as : List (Action E C)} {a : Action E C}
    (hreach : Run step unguarded (start server config configPath capture) as host)
    (live : host.sessions.find? endpoint = some session) (hstep : host.step a = some host')
    (hgone : host'.sessions.find? endpoint = none) : NothingLeft host host' endpoint := by
  have hs := step_stepped hstep
  have hgrounded' := hs.storeStep.grounded (run_grounded hreach)
  have hpointer' := pointerValid_step (run_pointerValid hreach) hs
  have hserver : host'.server = host.server.onClosed endpoint := by
    rw [hs.eq_closeSession live hgone]
    rfl
  have hstore : host'.server.mScreens =
      (host.server.mScreens.eraseEndpoint endpoint).forgetOwner endpoint := by
    rw [hserver, Server.onClosed_mScreens]
  have hnodes : ∀ node ∈ host'.server.mScreens.mScreens.nodes,
      node ∈ host.server.mScreens.mScreens.nodes ∧ node.key ≠ endpoint := by
    intro node hnode
    rw [hstore] at hnode
    exact OrderedMultimap.mem_nodes_eraseKey.mp hnode
  refine ⟨?_, ?_, ?_, ?_, ?_, ?_, ?_⟩
  · intro node hnode
    have hkey := (hnodes node hnode).2
    exact ⟨hkey, by rwa [hgrounded'.routed node hnode]⟩
  · rw [hserver, Server.onClosed_mSenders, OrderedMap.find?_erase, if_pos rfl]
  · rw [hstore]
    simp [ServerScreenStore.forgetOwner]
  · exact not_registeredThrough hgrounded' fun node hnode => (hnodes node hnode).2
  · -- the pointer denotes a node that stayed, and addresses are not shared
    intro node hnode hkey hactive
    obtain ⟨kept, hkept, haddress⟩ := hpointer' _ hactive
    have hsame := List.inj_on_of_nodup_map host.server.mScreens.mScreens.distinct
      (hnodes kept hkept).1 hnode haddress
    exact (hnodes kept hkept).2 (by rw [hsame, hkey])
  · intro screen hscreen
    rcases hpointer'.active_cases with ⟨_, hnone⟩ | ⟨node, hnode, _, hsome⟩
    · simp [hnone] at hscreen
    · obtain rfl := Option.some.inj (hsome.symm.trans hscreen)
      rw [hgrounded'.routed node hnode]
      exact (hnodes node hnode).2
  · rw [hstore]
    rfl

/-- The cursor is on the guest's screen when the guest's connection is over. -/
def guestLeavesWhileActive : List DeskAction :=
  .registerLocal [deskMonitor] :: connect 1001 "m" [sideMonitor] ++
    [.captured (.mouseMove { x := 1919, y := 500 }), .fail (loopback 1001)]

theorem closed_session_leaves_nothing_guest : ∃ host host',
    Run step unguarded deskHost guestLeavesWhileActive host ∧
    host.server.mInput.remoteActive host.server.mScreens = true ∧
    host.step (.close (loopback 1001)) = some host' ∧
    NothingLeft host host' (loopback 1001) := by
  obtain ⟨host, hrun, hp⟩ := exists_run_of_execute step (fun _ _ _ => true) deskHost
    guestLeavesWhileActive
    (fun host : DeskHost => host.server.mInput.remoteActive host.server.mScreens &&
      (host.sessions.find? (loopback 1001)).isSome &&
      (host.step (.close (loopback 1001))).any fun host' : DeskHost =>
        (host'.sessions.find? (loopback 1001)).isNone)
    (fun _ _ _ _ => trivial) (by decide +kernel)
  simp only [Bool.and_eq_true, Option.any_eq_true, Option.isNone_iff_eq_none] at hp
  obtain ⟨⟨hremote, hlive⟩, host', hstep, hgone⟩ := hp
  obtain ⟨session, live⟩ := Option.isSome_iff_exists.mp hlive
  exact ⟨host, host', hrun, hremote, hstep, closed_session_leaves_nothing hrun live hstep hgone⟩

end Host
end Mksync
