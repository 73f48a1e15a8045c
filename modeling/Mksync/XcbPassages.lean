import Mksync.XcbStrokes

/-!
# From the X server of the server to those of the clients

The server's capture reads its connection, the router forwards, the connections carry, and the
injectors ask their X servers. Whatever fails on the way and whatever the X servers answer, the
clients ask for the buttons, the turns of the wheel and the keys that the server's X server told
of.
-/
namespace Mksync

open TransitionRuns

/-! ### From event to deed -/

namespace XcbDesks

section Passages

variable {E S : Type}

/-- An event of the server's X server, what it was taken for, and the client to which that was
passed on. -/
structure Passage (E : Type) where
  peer : E
  event : XEvent
  deed : Deed

/-- Moves alone are left out. -/
theorem report_deeds (events : List InputEvent) :
    ((events.filterMap InputEvent.deed?).map Deed.report).Sublist
      (events.map InputEvent.report) := by
  induction events with
  | nil => exact .slnil
  | cons event rest ih =>
    cases event with
    | mouseMove move => exact ih.cons _
    | mouseButton event => exact ih.cons_cons _
    | mouseWheel event => exact ih.cons_cons _
    | key event => exact ih.cons_cons _

/-- Deeds whose reports are among those of the events each come from one of them. -/
theorem exists_passages {log : List (E × Deed)} {received : List XEvent} {rawDuringGrab : Bool}
    (h : (log.map fun entry => entry.2.report).Sublist
      (received.filterMap (·.pending rawDuringGrab))) :
    ∃ passages : List (Passage E),
      (passages.map fun passage => (passage.peer, passage.deed)) = log ∧
      (passages.map Passage.event).Sublist received ∧
      ∀ passage ∈ passages, passage.event.pending rawDuringGrab = some passage.deed.report := by
  induction received generalizing log with
  | nil =>
    obtain rfl := List.map_eq_nil_iff.mp (List.sublist_nil.mp h)
    exact ⟨[], rfl, .slnil, fun passage hmem => absurd hmem List.not_mem_nil⟩
  | cons event rest ih =>
    cases hpending : event.pending rawDuringGrab with
    | none =>
      rw [List.filterMap_cons_none hpending] at h
      obtain ⟨passages, hlog, hevents, hreports⟩ := ih h
      exact ⟨passages, hlog, hevents.cons event, hreports⟩
    | some report =>
      rw [List.filterMap_cons_some hpending] at h
      cases log with
      | nil => exact ⟨[], rfl, List.nil_sublist _, fun passage hmem => absurd hmem List.not_mem_nil⟩
      | cons entry log =>
        by_cases hsame : entry.2.report = report
        · have hrest : (log.map fun entry => entry.2.report).Sublist
              (rest.filterMap (·.pending rawDuringGrab)) := by
            rw [List.map_cons, hsame] at h
            exact List.cons_sublist_cons.mp h
          obtain ⟨passages, rfl, hevents, hreports⟩ := ih hrest
          refine ⟨⟨entry.1, event, entry.2⟩ :: passages, rfl, hevents.cons_cons event, ?_⟩
          intro passage hmem
          rcases List.mem_cons.mp hmem with rfl | hlater
          · exact hpending.trans (congrArg some hsame.symm)
          · exact hreports passage hlater
        · have hskip : ((entry :: log).map fun entry => entry.2.report).Sublist
              (rest.filterMap (·.pending rawDuringGrab)) := by
            cases h with
            | cons _ h => exact h
            | cons_cons _ h => exact absurd rfl hsame
          obtain ⟨passages, hlog, hevents, hreports⟩ := ih hskip
          exact ⟨passages, hlog, hevents.cons event, hreports⟩

/-- The passages to one client. -/
def passagesTo [DecidableEq E] (peer : E) (passages : List (Passage E)) : List (Passage E) :=
  passages.filter fun passage => passage.peer = peer

theorem shareFor_eq [DecidableEq E] {peer : E} {passages : List (Passage E)} :
    shareFor peer (passages.map fun passage => (passage.peer, passage.deed)) =
      (passagesTo peer passages).map Passage.deed := by
  rw [shareFor, List.filter_map, List.map_map]
  rfl

/-- A wheel that was told of turns by one detent. -/
theorem wheel_of_pending {event : XEvent} {rawDuringGrab : Bool} {deltaX deltaY : Int}
    (h : event.pending rawDuringGrab = some (.wheel deltaX deltaY)) :
    deltaX.natAbs ≤ 120 ∧ deltaY.natAbs ≤ 120 := by
  have hbutton : ∀ detail release, buttonReport detail release = some (.wheel deltaX deltaY) →
      deltaX.natAbs ≤ 120 ∧ deltaY.natAbs ≤ 120 := by
    intro detail release hreport
    rw [buttonReport] at hreport
    split_ifs at hreport <;> cases hreport <;> decide
  have hreport := XEvent.report_of_pending h
  cases event with
  | button detail release rootX rootY => exact hbutton _ _ hreport
  | rawButton detail release => exact hbutton _ _ hreport
  | rawKey detail release =>
    rw [XEvent.report] at hreport
    split_ifs at hreport
    cases hreport
  | _ => cases hreport

/-- What the desk captured is what was told of, and every key of it is known. -/
theorem deeds_of_watched {desk : XcbDesk S} (hwatched : desk.Watched) {log : List (E × Deed)}
    (hlog : (log.map Prod.snd).Sublist (desk.captured.filterMap InputEvent.deed?)) :
    (log.map fun entry => entry.2.report).Sublist
        (desk.received.filterMap (·.pending desk.rawDuringGrab)) ∧
      ∀ entry ∈ log, ∃ event : InputEvent, XcbInputCapture.Keyed desk.mappings event ∧
        event.deed? = some entry.2 := by
  refine ⟨?_, fun entry hentry => ?_⟩
  · rw [← Function.comp_def Deed.report Prod.snd, ← List.map_map]
    exact ((hlog.map _).trans (report_deeds _)).trans
      ((List.sublist_append_left _ _).trans hwatched.received)
  · obtain ⟨event, hmem, hdeed⟩ := List.mem_filterMap.mp
      (hlog.subset (List.mem_map_of_mem (f := Prod.snd) hentry))
    exact ⟨event, hwatched.keyed event hmem, hdeed⟩

/-- So no wheel passed on is out of range. -/
theorem wheelInRange_of_passages {passages : List (Passage E)} {rawDuringGrab : Bool}
    {event : InputEvent} (hreports : ∀ passage ∈ passages,
      passage.event.pending rawDuringGrab = some passage.deed.report)
    (hdeed : ∀ deed, event.deed? = some deed → deed ∈ passages.map Passage.deed) :
    XcbInputInjector.WheelInRange event := by
  cases event with
  | mouseWheel event =>
    obtain ⟨passage, hmem, hsame⟩ := List.mem_map.mp (hdeed _ rfl)
    have hreport := hreports passage hmem
    rw [hsame] at hreport
    obtain ⟨hdeltaX, hdeltaY⟩ := wheel_of_pending hreport
    constructor <;> omega
  | _ => trivial

end Passages
end XcbDesks

namespace Link

variable {link link' : Link XcbInputInjector}

/-- The injector is what the events passed to it have made of a new one. -/
def Injected (link : Link XcbInputInjector) : Prop :=
  ∃ fresh : XcbInputInjector, fresh.sent = [] ∧
    link.client.injector.inner = XcbInputInjector.injectAll link.client.injector.passed fresh

theorem Injected.inject (h : link.Injected) (hinject : link.inject = some link') :
    link'.Injected := by
  have hpassed : ∀ event, ∃ fresh : XcbInputInjector, fresh.sent = [] ∧
      (InputInjector.inject event link.client.injector).2.inner = XcbInputInjector.injectAll
        (InputInjector.inject event link.client.injector).2.passed fresh := by
    intro event
    obtain ⟨fresh, hsent, hinner⟩ := h
    refine ⟨fresh, hsent, ?_⟩
    show (InputInjector.inject event link.client.injector.inner).2 =
      XcbInputInjector.injectAll (link.client.injector.passed ++ [event]) fresh
    rw [XcbInputInjector.injectAll_snoc, ← hinner, XcbInputInjector.inject_snd]
  rw [Link.inject] at hinject
  split at hinject
  next message _ _ =>
    cases message with
    | input message =>
      have hevent := hpassed message.event
      simp only [Client.handleMessage] at hinject
      rcases hresult : InputInjector.inject message.event link.client.injector with
        ⟨code | _, after⟩
      · rw [hresult] at hinject hevent
        obtain rfl := Option.some.inj hinject
        exact hevent
      · rw [hresult] at hinject hevent
        cases hmove : message.event <;> simp only [hmove] at hinject <;>
          obtain rfl := Option.some.inj hinject <;> exact hevent
    | _ =>
      obtain rfl := Option.some.inj hinject
      exact h
  next => cases hinject

end Link

namespace Network

variable {E C I : Type} [Endpoint E] [InputCapture C] [InputInjector I] [EntryScaling]
  {codec : RpcCodec} {network network' : Network E C I} {a : Action E C I}

omit [InputCapture C] [InputInjector I] [EntryScaling] in
theorem find?_withLink {endpoint peer : E} {link link' : Link I}
    (h : (network.withLink endpoint link).links.find? peer = some link') :
    peer = endpoint ∧ link' = link ∨ network.links.find? peer = some link' := by
  rw [withLink, OrderedMap.find?_insertOrAssign] at h
  split_ifs at h with heq
  · exact .inl ⟨heq, (Option.some.inj h).symm⟩
  · exact .inr h

omit [InputCapture C] [EntryScaling] in
/-- What a step of one link does to the client of any. -/
theorem linkStep_links {endpoint : E} {f : Link I → Option (Link I)}
    (hstep : network.linkStep endpoint f = some network')
    (hf : ∀ link after, f link = some after →
      after.client = link.client ∨ link.inject = some after)
    {peer : E} {link' : Link I} (hlink : network'.links.find? peer = some link') :
    ∃ link, network.links.find? peer = some link ∧
      (link'.client = link.client ∨ link.inject = some link') := by
  rw [linkStep] at hstep
  split at hstep
  next => cases hstep
  next link hfind =>
    obtain ⟨after, hafter, rfl⟩ := Option.map_eq_some_iff.mp hstep
    rcases find?_withLink hlink with ⟨rfl, rfl⟩ | hbefore
    · exact ⟨link, hfind, hf link link' hafter⟩
    · exact ⟨link', hbefore, .inl rfl⟩

/-- After a step a client is a new one, has handled a message, or is the one before. -/
theorem step_links (hstep : network.step codec a = some network') {peer : E} {link' : Link I}
    (hlink : network'.links.find? peer = some link') :
    (∃ injector, a = .connect peer injector ∧ link' = .connected injector) ∨
    ∃ link, network.links.find? peer = some link ∧
      (link'.client = link.client ∨ link.inject = some link') := by
  cases a with
  | host b =>
    obtain ⟨-, -, hhost⟩ := step_host hstep
    obtain ⟨host, -, rfl⟩ := hostStep_eq_some hhost
    exact .inr ⟨link', hlink, .inl rfl⟩
  | connect endpoint injector =>
    rw [Network.step] at hstep
    split_ifs at hstep
    obtain ⟨between, hhost, rfl⟩ := Option.map_eq_some_iff.mp hstep
    obtain ⟨host, -, rfl⟩ := hostStep_eq_some hhost
    rcases find?_withLink hlink with ⟨rfl, rfl⟩ | hbefore
    · exact .inl ⟨injector, rfl, rfl⟩
    · exact .inr ⟨link', hbefore, .inl rfl⟩
  | deliver endpoint =>
    rw [Network.step] at hstep
    split at hstep
    next link message hfind _ =>
      split_ifs at hstep
      obtain ⟨between, hhost, rfl⟩ := Option.map_eq_some_iff.mp hstep
      obtain ⟨host, -, rfl⟩ := hostStep_eq_some hhost
      rcases find?_withLink hlink with ⟨rfl, rfl⟩ | hbefore
      · refine .inr ⟨link, hfind, .inl ?_⟩
        rw [Link.write]
        split <;> rfl
      · exact .inr ⟨link', hbefore, .inl rfl⟩
    next => cases hstep
  | transmit endpoint count =>
    rw [Network.step] at hstep
    split_ifs at hstep
    refine .inr (linkStep_links hstep ?_ hlink)
    intro link after hafter
    obtain rfl := Option.some.inj hafter
    exact .inl rfl
  | arrive endpoint count =>
    refine .inr (linkStep_links hstep ?_ hlink)
    intro link after hafter
    obtain rfl := Option.some.inj hafter
    exact .inl rfl
  | read endpoint =>
    refine .inr (linkStep_links hstep ?_ hlink)
    intro link after hafter
    rw [Link.read] at hafter
    split_ifs at hafter
    split at hafter
    · obtain rfl := Option.some.inj hafter
      exact .inl rfl
    · cases hafter
    · obtain rfl := Option.some.inj hafter
      exact .inl rfl
  | inject endpoint =>
    exact .inr (linkStep_links hstep (fun link after hafter => .inr hafter) hlink)
  | stop endpoint =>
    refine .inr (linkStep_links hstep ?_ hlink)
    intro link after hafter
    obtain rfl := Option.some.inj hafter
    exact .inl rfl

/-- What the calls of the router keep of the capture, and what the signal of the step keeps if
it is one, holds after the step. -/
theorem captureSatisfies_step {P : C → Prop}
    (hpointer : ServerInputRouter.PointerValid network.host.server.mScreens
      network.host.server.mInput)
    (hcapture : ServerInputRouter.CaptureSatisfies P network.host.server.mInput)
    (keeps : InputCapture.KeptByCalls P)
    (hsignal : ∀ signal, hostAction a = some (.signal signal) → ∀ capture, P capture →
      P (InputCapture.onSignal signal capture))
    (hstep : network.step codec a = some network') :
    ServerInputRouter.PointerValid network'.host.server.mScreens network'.host.server.mInput ∧
      ServerInputRouter.CaptureSatisfies P network'.host.server.mInput := by
  cases haction : hostAction a with
  | none =>
    obtain ⟨hhost, -⟩ := step_hostKept hstep haction
    rw [hhost]
    exact ⟨hpointer, hcapture⟩
  | some b =>
    obtain ⟨hstepped, -⟩ := step_hostStepped hstep haction
    refine ⟨Host.pointerValid_step hpointer hstepped,
      Host.captureSatisfies_step hpointer hcapture keeps (fun signal heq => ?_) hstepped⟩
    exact hsignal signal (haction.trans (congrArg some heq))

end Network

/-! ### The whole way -/

namespace XcbDesks

open ServerInputRouter Network

section Runs

variable {E S : Type} [Endpoint E] [XServer S]

/-- `read` is a turn of the server's input loop. -/
inductive Action (E S : Type) [XServer S]
  | network (action : Network.Action E (XcbDesk S) XcbInputInjector)
  | read

abbrev State (E S : Type) [LinearOrder E] [XServer S] := Network E (XcbDesk S) XcbInputInjector

/-- What the input loop does belongs to `read`. -/
def isReading : Network.Action E (XcbDesk S) XcbInputInjector → Bool
  | .host (.captured _) => true
  | .host (.signal XcbDesk.Signal.read) => true
  | _ => false

/-- A new client has an injector that sent nothing yet. -/
def Opens : Network.Action E (XcbDesk S) XcbInputInjector → Prop
  | .connect _ injector => injector.sent = []
  | _ => True

def Opening (_ : State E S) : Action E S → State E S → Prop
  | .network action, _ => Opens action
  | .read, _ => True

variable [EntryScaling]

def step (codec : RpcCodec) (state : State E S) : Action E S → Option (State E S)
  | .network action => if isReading action then none else Network.step codec state action
  | .read => do
    let desk ← state.host.server.mInput.mCapture
    let found ← desk.next
    let state ← Network.step codec state (.host (.signal XcbDesk.Signal.read))
    match found with
    | none => some state
    | some event => Network.step codec state (.host (.captured event))

/-- What a run of the network has made of the desk and of the clients. -/
structure Tallied (codec : RpcCodec) (start : State E S)
    (as : List (Network.Action E (XcbDesk S) XcbInputInjector)) (state : State E S) : Prop where
  run : Run (Network.step codec) unguarded start as state
  pointer : PointerValid state.host.server.mScreens state.host.server.mInput
  watched : CaptureSatisfies XcbDesk.Watched state.host.server.mInput
  injected : ∀ peer link, state.links.find? peer = some link → link.Injected

variable {codec : RpcCodec} {start state state' : State E S}
  {as : List (Network.Action E (XcbDesk S) XcbInputInjector)}

omit [EntryScaling] in
theorem keeps_captured (P : List InputEvent → Prop) :
    InputCapture.KeptByCalls fun desk : XcbDesk S => P desk.captured :=
  ⟨fun _ _ h => h, fun _ _ _ _ h => h⟩

theorem Tallied.network_step (h : Tallied codec start as state)
    {a : Network.Action E (XcbDesk S) XcbInputInjector}
    (hopens : Opens a) (hstep : Network.step codec state a = some state') :
    Tallied codec start (as ++ [a]) state' := by
  obtain ⟨hpointer, hwatched⟩ := captureSatisfies_step h.pointer h.watched
    XcbDesk.keeps_watched.toKeptByCalls (fun signal _ => XcbDesk.keeps_watched.onSignal signal)
    hstep
  refine ⟨h.run.tail hstep trivial, hpointer, hwatched, ?_⟩
  intro peer link' hlink
  rcases step_links hstep hlink with ⟨injector, rfl, rfl⟩ | ⟨link, hbefore, hclient⟩
  · exact ⟨injector, hopens, rfl⟩
  · have hinjected := h.injected peer link hbefore
    rcases hclient with hsame | hinject
    · rw [Link.Injected, hsame]
      exact hinjected
    · exact hinjected.inject hinject

/-- What the desk captured is what the input loop handled. -/
def Handled (as : List (Network.Action E (XcbDesk S) XcbInputInjector))
    (state : State E S) : Prop :=
  CaptureSatisfies (fun desk => capturedDeeds as = desk.captured.filterMap InputEvent.deed?)
    state.host.server.mInput

/-- Another action captures nothing. -/
theorem Handled.network_step (h : Handled as state) (hpointer : PointerValid
      state.host.server.mScreens state.host.server.mInput)
    {a : Network.Action E (XcbDesk S) XcbInputInjector} (hreading : isReading a = false)
    (hstep : Network.step codec state a = some state') : Handled (as ++ [a]) state' := by
  have hnone : (hostAction a).bind Host.capturedDeed? = none := by
    cases a with
    | host b =>
      cases b with
      | captured event => cases hreading
      | _ => rfl
    | _ => rfl
  have hsame : capturedDeeds (as ++ [a]) = capturedDeeds as := by
    rw [capturedDeeds_concat, hnone]
    exact List.append_nil _
  rw [Handled, hsame]
  refine (captureSatisfies_step hpointer h (keeps_captured fun captured => capturedDeeds as =
    captured.filterMap InputEvent.deed?) ?_ hstep).2
  intro signal haction desk hdesk
  have hcaptured : (InputCapture.onSignal signal desk).captured = desk.captured := by
    cases a with
    | host b =>
      cases Option.some.inj haction
      cases signal with
      | read => cases hreading
      | _ => rfl
    | _ => cases haction
  rw [hcaptured]
  exact hdesk

/-- A turn of the input loop handles what it reads. -/
theorem Tallied.read (h : Tallied codec start as state) (hhandled : Handled as state)
    (hstep : step codec state .read = some state') :
    ∃ bs, Tallied codec start bs state' ∧ Handled bs state' := by
  obtain ⟨desk, hdesk, hrest⟩ := Option.bind_eq_some_iff.mp hstep
  obtain ⟨found, hfound, hrest⟩ := Option.bind_eq_some_iff.mp hrest
  obtain ⟨between, hbetween, hlast⟩ := Option.bind_eq_some_iff.mp hrest
  have htallied := h.network_step (a := .host (.signal XcbDesk.Signal.read)) trivial hbetween
  obtain ⟨hstepped, -⟩ := step_hostStepped hbetween rfl
  have hafter : between.host.server.mInput.mCapture = some (XcbDesk.onSignal .read desk) := by
    generalize between.host = host at hstepped
    cases hstepped
    show state.host.server.mInput.mCapture.map _ = _
    rw [hdesk]
    rfl
  have hcaptured := XcbDesk.captured_read hfound
  have hbefore : capturedDeeds as = desk.captured.filterMap InputEvent.deed? := hhandled desk hdesk
  have hnothing : capturedDeeds (as ++ [.host (.signal XcbDesk.Signal.read)]) =
      capturedDeeds as := by
    rw [capturedDeeds_concat]
    exact List.append_nil _
  cases found with
  | none =>
    obtain rfl := Option.some.inj hlast
    refine ⟨_, htallied, fun other hother => ?_⟩
    obtain rfl := Option.some.inj (hafter.symm.trans hother)
    rw [hnothing, hbefore, hcaptured]
    simp
  | some event =>
    refine ⟨_, htallied.network_step (a := .host (.captured event)) trivial hlast, ?_⟩
    refine (captureSatisfies_step htallied.pointer ?_ (keeps_captured fun captured =>
      capturedDeeds ((as ++ [.host (.signal XcbDesk.Signal.read)]) ++ [.host (.captured event)]) =
        captured.filterMap InputEvent.deed?) (fun signal heq => by cases heq) hlast).2
    intro other hother
    obtain rfl := Option.some.inj (hafter.symm.trans hother)
    rw [capturedDeeds_concat, hnothing, hbefore, hcaptured, List.filterMap_append]
    show _ ++ event.deed?.toList = _
    cases hdeed : event.deed? <;> simp [hdeed]

theorem run_tallied {actions : List (Action E S)} (hpointer : PointerValid
      start.host.server.mScreens start.host.server.mInput)
    (hwatched : CaptureSatisfies XcbDesk.Watched start.host.server.mInput)
    (hnothing : CaptureSatisfies (fun desk => desk.captured = []) start.host.server.mInput)
    (hlinks : ∀ peer, start.links.find? peer = none)
    (h : Run (step codec) Opening start actions state) :
    ∃ as, Tallied codec start as state ∧ Handled as state := by
  refine h.invariant (fun state => ∃ as, Tallied codec start as state ∧ Handled as state) ?_
    ⟨[], ⟨.refl _, hpointer, hwatched, fun peer link hlink => ?_⟩, fun desk hdesk => ?_⟩
  · rintro before a after ⟨as, htallied, hhandled⟩ hopening hstep
    cases a with
    | network a =>
      rw [step] at hstep
      split_ifs at hstep with hreading
      exact ⟨as ++ [a], htallied.network_step hopening hstep,
        hhandled.network_step htallied.pointer (by simpa using hreading) hstep⟩
    | read => exact htallied.read hhandled hstep
  · rw [hlinks peer] at hlink
    cases hlink
  · show [] = desk.captured.filterMap InputEvent.deed?
    rw [hnothing desk hdesk]
    rfl

/-- A run from the start of the server. -/
theorem run_tallied_start {endpoint : E} {config : AppConfig} {configPath : String}
    {capture : XcbInputCapture S} {actions : List (Action E S)}
    (h : Run (step codec) Opening
      (Network.start endpoint config configPath (XcbDesk.watching capture)) actions state) :
    ∃ as, Tallied codec (Network.start endpoint config configPath (XcbDesk.watching capture)) as
      state ∧ Handled as state := by
  refine run_tallied (Host.run_pointerValid (.refl _ : Run Host.step unguarded _ [] _))
    ?_ ?_ (fun peer => rfl) h
  · exact Host.captureSatisfies_start XcbDesk.keeps_watched.toKeptByCalls
      (XcbDesk.watched_watching capture)
  · exact Host.captureSatisfies_start (keeps_captured (· = [])) rfl

/-- In every run, whatever the X servers send and answer: each event that the server's X server
tells its capture of is passed to one client at most, once and in its order, and the X server of
a client takes nothing beside moves of the pointer but the strokes of those passed to it. Where
all keyboards are one and plain, these are the buttons and the keys of the events themselves. -/
theorem strokes_are_the_servers (hinverse : codec.Inverse) {endpoint : E} {config : AppConfig}
    {configPath : String} {capture : XcbInputCapture S} {actions : List (Action E S)}
    (h : Run (step codec) Opening
      (Network.start endpoint config configPath (XcbDesk.watching capture)) actions state)
    {desk : XcbDesk S} (hdesk : state.host.server.mInput.mCapture = some desk) :
    ∃ passages : List (Passage E),
      (passages.map Passage.event).Sublist desk.received ∧
      (∀ passage ∈ passages,
        passage.event.pending desk.rawDuringGrab = some passage.deed.report) ∧
      ∀ peer link symbols, state.links.find? peer = some link →
        link.client.injector.inner.mConnection = some symbols →
        link.client.injector.inner.strokes.Sublist
            ((passagesTo peer passages).flatMap fun passage => passage.deed.strokes symbols) ∧
          (desk.mappings ⊆ [symbols] → symbols.Plain →
            link.client.injector.inner.strokes.Sublist
              ((passagesTo peer passages).flatMap fun passage => passage.event.strokes)) := by
  obtain ⟨as, htallied, hhandled⟩ := run_tallied_start h
  obtain ⟨horder, log, hlog, haccepted⟩ := run_forwarded hinverse htallied.run
  rw [hhandled desk hdesk] at hlog
  obtain ⟨hreported, hknown⟩ := deeds_of_watched (htallied.watched desk hdesk) hlog
  obtain ⟨passages, rfl, hevents, hreports⟩ := exists_passages hreported
  refine ⟨passages, hevents, hreports, fun peer link symbols hlink hconnected => ?_⟩
  have hshare : link.client.injector.inner.strokes.Sublist
      ((passagesTo peer passages).flatMap fun passage => passage.deed.strokes symbols) := by
    obtain ⟨taken, hcarries, hinit, -⟩ := (horder peer).carries link hlink
    obtain ⟨fresh, hnew, hinner⟩ := htallied.injected peer link hlink
    obtain ⟨sent, hafter⟩ :=
      XcbInputInjector.exists_sent_injectAll link.client.injector.passed fresh
    have hfresh : fresh.mConnection = some symbols := by
      rw [hinner, hafter] at hconnected
      exact hconnected
    have hpassed : (link.client.injector.passed.filterMap InputEvent.deed?) <+:
        (passagesTo peer passages).map Passage.deed := by
      rw [← shareFor_eq, ← haccepted peer]
      exact (hcarries.passed_prefix.trans (hinit.filterMap _)).filterMap _
    have hrange : ∀ event ∈ link.client.injector.passed,
        XcbInputInjector.WheelInRange event := by
      intro event hmem
      apply wheelInRange_of_passages
        fun passage hpassage => hreports passage (List.mem_of_mem_filter hpassage)
      exact fun deed hdeed => hpassed.subset (List.mem_filterMap.mpr ⟨event, hmem, hdeed⟩)
    rw [hinner, ← List.flatMap_map]
    exact (XcbInputInjector.strokes_injectAll hnew hfresh hrange).trans
      (hpassed.flatMap _).sublist
  refine ⟨hshare, fun halike hplain => hshare.trans ?_⟩
  apply List.Sublist.flatMap_right
  intro passage hmem
  have hpassage := List.mem_of_mem_filter hmem
  obtain ⟨event, hkeyed, hdeed⟩ := hknown _ (List.mem_map_of_mem hpassage)
  exact Deed.strokes_of_plain hplain (hkeyed.mono halike) hdeed
    (XEvent.report_of_pending (hreports passage hpassage))

instance : DecidablePred (Opens : Network.Action E (XcbDesk S) XcbInputInjector → Prop)
  | .connect _ injector => inferInstanceAs (Decidable (injector.sent = []))
  | .host _ | .deliver _ | .transmit _ _ | .arrive _ _ | .read _ | .inject _ | .stop _ =>
    inferInstanceAs (Decidable True)

instance (state : State E S) (action : Action E S) (state' : State E S) :
    Decidable (Opening state action state') :=
  match action with
  | .network action => inferInstanceAs (Decidable (Opens action))
  | .read => inferInstanceAs (Decidable True)

end Runs

/-! ### A click from desk to desk -/

/-- The pointer is at the right border of the desk. -/
def deskCapture : XcbInputCapture GrantingXServer :=
  (XcbInputCapture.initializeCapture (GrantingXServer.opening XcbSeat.plainKeyboard 1919 500)
    { mPlatform := { mScreens := [⟨0, deskMonitor⟩] } }).2

def guestInjector : XcbInputInjector where
  mPlatform := { mScreens := [⟨0, sideMonitor⟩] }
  mConnection := some XcbSeat.plainKeyboard
  answers _ _ := none

/-- A message on its way from the server to the display of the guest. -/
def passOn : List (Action IPv4Endpoint GrantingXServer) :=
  [.network (.deliver (loopback 1001)), .network (.transmit (loopback 1001) 200),
    .network (.arrive (loopback 1001) 200), .network (.read (loopback 1001)),
    .network (.inject (loopback 1001))]

/-- A guest connects, the cursor crosses to its screen, and the left button goes down there. -/
def crossedAndClicked : List (Action IPv4Endpoint GrantingXServer) :=
  [.network (.host (.registerLocal [deskMonitor])),
    .network (.connect (loopback 1001) guestInjector),
    .network (.host (.receive (loopback 1001) (.hello { machineId := "m" }))),
    .network (.host (.publish (loopback 1001))),
    .network (.host (.receive (loopback 1001) (.screens ⟨[sideMonitor]⟩))),
    .network (.host (.signal (XcbDesk.Signal.arrives (.rawMotion [true, true] [4, 2])))),
    .read, .network (.host (.signal (XcbDesk.Signal.arrives (.rawButton 1 false)))),
    .read] ++ passOn ++ passOn

theorem strokes_are_the_servers_click :
    ∃ (state : State IPv4Endpoint GrantingXServer) (desk : XcbDesk GrantingXServer)
      (link : Link XcbInputInjector),
      Run (step clickCodec) Opening
        (Network.start (loopback 24800) { machineId := "desk" } "" (XcbDesk.watching deskCapture))
        crossedAndClicked state ∧
      state.host.server.mInput.mCapture = some desk ∧
      state.links.find? (loopback 1001) = some link ∧
      link.client.injector.inner.strokes = [.core (.buttonPress 1)] ∧
      ∃ passages : List (Passage IPv4Endpoint),
        (passages.map Passage.event).Sublist desk.received ∧
        ∀ symbols, link.client.injector.inner.mConnection = some symbols →
          desk.mappings ⊆ [symbols] → symbols.Plain →
          link.client.injector.inner.strokes.Sublist ((passagesTo (loopback 1001) passages).flatMap
            fun passage => passage.event.strokes) := by
  obtain ⟨state, hrun, hp⟩ := exists_run_of_execute (step clickCodec)
    (fun state action state' => decide (Opening state action state'))
    (Network.start (loopback 24800) { machineId := "desk" } "" (XcbDesk.watching deskCapture))
    crossedAndClicked
    (fun state => state.host.server.mInput.mCapture.isSome &&
      (state.links.find? (loopback 1001)).any fun link =>
        link.client.injector.inner.strokes = [.core (.buttonPress 1)])
    (fun _ _ _ hcheck => of_decide_eq_true hcheck) (by decide +kernel)
  obtain ⟨hsome, hany⟩ := (Bool.and_eq_true _ _).mp hp
  obtain ⟨desk, hdesk⟩ := Option.isSome_iff_exists.mp hsome
  obtain ⟨link, hlink, hstrokes⟩ := (Option.any_eq_true _ _).mp hany
  obtain ⟨passages, hevents, -, hall⟩ := strokes_are_the_servers clickCodec_inverse hrun hdesk
  refine ⟨state, desk, link, hrun, hdesk, hlink, of_decide_eq_true hstrokes, passages, hevents, ?_⟩
  intro symbols hconnected halike hplain
  exact (hall (loopback 1001) link symbols hlink hconnected).2 halike hplain

end XcbDesks
end Mksync
