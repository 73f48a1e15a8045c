import Mksync.ReportedScreens

/-!
# What is addressed to a client

With owner ids that are not shared, what the router enqueues for a client is a pixel of a
screen the client reported, and so is what the client's injector gets.
-/
namespace Mksync

open TransitionRuns ServerInputRouter Client

/-- The event names a pixel of one of the screens, if it names any. -/
def OnScreens (screens : List ScreenInfo) : InputEvent → Prop
  | .key _ => True
  | .mouseMove move => ∃ info, screens[move.screenIndex]? = some info ∧ info.Contains move.x move.y
  | .mouseButton button =>
    ∃ info, screens[button.screenIndex]? = some info ∧ info.Contains button.x button.y
  | .mouseWheel wheel => ∃ info ∈ screens, info.Contains wheel.x wheel.y

theorem onScreens_of_confined {E : Type} {screens : List ScreenInfo} {screen : VirtualScreen E}
    {point : ScreenPoint} {event : InputEvent}
    (hscreen : screens[screen.key.screenIndex]? = some screen.info)
    (hpoint : screen.info.Contains point.x point.y) (h : Confined screen point event) :
    OnScreens screens event := by
  cases event with
  | key => trivial
  | mouseMove move =>
    obtain ⟨hindex, hcontains⟩ := h
    exact ⟨screen.info, by rw [hindex, hscreen], hcontains⟩
  | mouseButton button =>
    obtain ⟨hindex, hcontains, -⟩ := h
    exact ⟨screen.info, by rw [hindex, hscreen], hcontains⟩
  | mouseWheel wheel =>
    obtain ⟨hx, hy⟩ := h
    exact ⟨screen.info, List.mem_of_getElem? hscreen, by rw [hx, hy]; exact hpoint⟩

namespace ServerInputRouter

variable {E C : Type} [Endpoint E] [InputCapture C] {screens screens' : ServerScreenStore E}
  {router router' : ServerInputRouter E C}

/-- Screens that come and go put nothing into a queue. -/
theorem Rehomed.mSenders (h : Rehomed screens screens' router router') (hagree : screens'.Agree) :
    router'.mSenders = router.mSenders := by
  cases h with
  | kept => rfl
  | cleared | woken => simp
  | @preferred node _ same first =>
    obtain ⟨hnode, hlocal⟩ := ServerScreenStore.firstLocalScreen_spec first
    cases hfind : screens'.findScreen node.value.key with
    | none =>
      have habsent : screens'.findScreen (⟨node.value.key, 0, 0⟩ : ScreenPoint).key = none := hfind
      rw [switchActiveScreen_of_absent habsent]
    | some found =>
      obtain ⟨hmem, hkey⟩ := ServerScreenStore.findScreen_eq_some hfind
      obtain rfl := hagree.eq_of_key hnode hmem hkey
      exact switchActiveScreen_local_mSenders _ hfind hlocal

end ServerInputRouter

namespace Host

variable {E C : Type} [Endpoint E] [InputCapture C] [EntryScaling] {host host' : Host E C}

omit [EntryScaling] in
/-- A sender whose messages are known, and the others. -/
theorem mem_enqueued_insertOrAssign {senders : ClientSenders E} {target endpoint : E}
    {channel channel' : Channel} {message : RpcMessage} {P : Prop}
    (hfind : (senders.insertOrAssign target channel).find? endpoint = some channel')
    (hmessage : message ∈ channel'.enqueued)
    (htarget : endpoint = target → message ∈ channel.enqueued →
      (∃ sender, senders.find? target = some sender ∧ message ∈ sender.enqueued) ∨ P) :
    (∃ sender, senders.find? endpoint = some sender ∧ message ∈ sender.enqueued) ∨ P := by
  rw [OrderedMap.find?_insertOrAssign] at hfind
  split_ifs at hfind with heq
  · cases hfind
    rw [heq]
    exact htarget heq hmessage
  · exact .inl ⟨channel', hfind, hmessage⟩

/-- What a step enqueues is confined to the remote screen that is active after it. -/
theorem Stepped.enqueued {a : Action E C} (h : Stepped host a host') (hbefore : Confining host)
    (hafter : Confining host') {endpoint : E} {channel' : Channel}
    (hsender : host'.server.mInput.mSenders.find? endpoint = some channel')
    {message : RpcMessage} (hmessage : message ∈ channel'.enqueued) :
    (∃ channel, host.server.mInput.mSenders.find? endpoint = some channel ∧
      message ∈ channel.enqueued) ∨
    ∃ event screen point, message = .input ⟨event⟩ ∧
      host'.server.mInput.activeScreen host'.server.mScreens = some screen ∧
      screen.isLocal = false ∧ endpoint = screen.endpoint ∧
      screen.info.Contains point.x point.y ∧ Confined screen point event := by
  cases h with
  | registerLocal screens =>
    have hsame := (Server.registerScreens_rehomed hbefore.pointer host.server.mEndpoint
      host.server.localOwnerId screens true).mSenders hafter.agree
    exact .inl ⟨channel', hsame ▸ hsender, hmessage⟩
  | captured event =>
    obtain ⟨out, hsent, hout⟩ := (handleInputEvent_handled host.server.mScreens
      host.server.mInput event).sentConfined hbefore.agree hbefore.grounded hbefore.pointer
      hbefore.inside
    change (host.server.mInput.handleInputEvent host.server.mScreens event).mSenders.find?
      endpoint = some channel' at hsender
    generalize hsenders : (host.server.mInput.handleInputEvent host.server.mScreens
      event).mSenders = senders at hsent hsender
    cases hsent with
    | nothing => exact .inl ⟨channel', hsender, hmessage⟩
    | @input target sender sent live accepts =>
      refine mem_enqueued_insertOrAssign hsender hmessage fun heq hmem => ?_
      simp only [Channel.enqueued, ← List.append_assoc, List.mem_append,
        List.mem_singleton] at hmem
      rcases hmem with hold | rfl
      · exact .inl ⟨sender, live, by simpa [Channel.enqueued] using hold⟩
      · obtain ⟨screen, point, hactive, hremote, htarget, hpoint, hconfined⟩ := hout _ _ rfl
        obtain ⟨inside, hinside, -, hcontains⟩ := hafter.inside screen hactive hremote
        obtain rfl : point = inside := Option.some.inj (hpoint.symm.trans hinside)
        exact .inr ⟨sent, screen, point, rfl, hactive, hremote, heq.trans htarget, hcontains,
          hconfined⟩
  | signal | accepted | greeted | ignored | broke => exact .inl ⟨channel', hsender, hmessage⟩
  | @reported target session report live phase =>
    have hsame := Server.registerScreens_false_mSenders host.server target session.mOwnerId
      report.screens
    exact .inl ⟨channel', hsame ▸ hsender, hmessage⟩
  | @rejected target | @dropped target | @closed target =>
    change (host.server.onClosed target).mInput.mSenders.find? endpoint = some channel' at hsender
    rw [Server.onClosed_mSenders, OrderedMap.find?_erase] at hsender
    split_ifs at hsender
    exact .inl ⟨channel', hsender, hmessage⟩
  | published =>
    refine mem_enqueued_insertOrAssign hsender hmessage fun _ hmem => ?_
    simp [Channel.enqueued] at hmem
  | @delivered target session sender sender' live phase sends taken =>
    refine mem_enqueued_insertOrAssign hsender hmessage fun _ hmem => ?_
    rw [Channel.enqueued_recv taken] at hmem
    exact .inl ⟨sender, sends, hmem⟩
  | @hungUp target session sender live phase sends =>
    exact mem_enqueued_insertOrAssign hsender hmessage fun _ hmem => .inl ⟨sender, sends, hmem⟩

end Host

namespace Client

theorem mem_inputs {messages : List RpcMessage} {event : InputEvent} :
    event ∈ inputs messages ↔ .input ⟨event⟩ ∈ messages := by
  unfold inputs
  rw [List.mem_filterMap]
  constructor
  · rintro ⟨message, hmem, hevent⟩
    cases message with
    | input message =>
      cases hevent
      exact hmem
    | _ => cases hevent
  · exact fun hmem => ⟨_, hmem, rfl⟩

end Client

namespace ClientNetwork

section Runs

variable {E C I : Type} [Endpoint E] [InputCapture C] [InputInjector I] [EntryScaling]
  {codec : RpcCodec} {state state' : ClientNetwork E C I}

/-- What keeps the input at the screens the clients reported. -/
structure Addressing (codec : RpcCodec) (state : ClientNetwork E C I) : Prop where
  order : Network.InOrder codec state.network
  confining : Host.Confining state.network.host
  conversing : Conversing codec state
  addressed : ∀ endpoint, ∀ event ∈ inputs (state.network.accepted endpoint),
    ∃ screens, state.Reported endpoint screens ∧ OnScreens screens event

omit [InputInjector I] in
theorem addressing_start (codec : RpcCodec) (endpoint : E) (config : AppConfig)
    (configPath : String) (capture : C) :
    Addressing codec (start endpoint config configPath capture : ClientNetwork E C I) :=
  ⟨Network.inOrder_start codec endpoint config configPath capture,
    Host.run_confining (.refl _), conversing_start codec endpoint config configPath capture, nofun⟩

omit [InputCapture C] [InputInjector I] [EntryScaling] in
/-- The screen of an active remote screen is one of its client's report. -/
theorem Conversing.active (h : Conversing codec state)
    (hconfining : Host.Confining state.network.host) {screen : VirtualScreen E}
    (hactive : state.network.host.server.mInput.activeScreen state.network.host.server.mScreens =
      some screen) (hremote : screen.isLocal = false) :
    ∃ screens, state.Reported screen.endpoint screens ∧
      screens[screen.key.screenIndex]? = some screen.info := by
  rcases hconfining.pointer.active_cases with ⟨-, hnone⟩ | ⟨node, hnode, -, hscreen⟩
  · cases hnone.symm.trans hactive
  · obtain rfl := Option.some.inj (hscreen.symm.trans hactive)
    rw [hconfining.grounded.routed node hnode]
    exact h.stored node hnode hremote

theorem Addressing.step (hinverse : codec.Inverse) (h : Addressing codec state)
    {a : Action E C I} (hstep : state.step codec a = some state')
    (hdistinct : state'.network.host.OwnersDistinct) : Addressing codec state' := by
  have hs := step_stepped hstep
  have hconversing := h.conversing.step hinverse hs
  have horder : Network.InOrder codec state'.network := by
    rcases hs.network_step with hsame | ⟨b, hb⟩
    · rw [hsame]
      exact h.order
    · exact (h.order.step hinverse hb).1
  have hold : ∀ endpoint, ∀ event ∈ inputs (state.network.accepted endpoint),
      ∃ screens, state'.Reported endpoint screens ∧ OnScreens screens event := by
    intro endpoint event hevent
    obtain ⟨screens, hreported, honscreens⟩ := h.addressed endpoint event hevent
    exact ⟨screens, hs.reported hreported, honscreens⟩
  rcases hs.host_cases with ⟨hhost, haccepted⟩ | ⟨b, hstepped, haccepted, -⟩
  · refine ⟨horder, by rw [hhost]; exact h.confining, hconversing, ?_⟩
    rw [haccepted]
    exact hold
  · have hconfining := h.confining.step hstepped hdistinct
    refine ⟨horder, hconfining, hconversing, fun endpoint event hevent => ?_⟩
    rw [haccepted] at hevent
    cases hsender : state'.network.host.server.mInput.mSenders.find? endpoint with
    | none =>
      rw [hsender] at hevent
      exact hold endpoint event hevent
    | some channel' =>
      rw [hsender] at hevent
      rcases hstepped.enqueued h.confining hconfining hsender (mem_inputs.mp hevent) with
        ⟨channel, hchannel, hmem⟩ | ⟨sent, screen, point, hsent, hactive, hremote, rfl, hpoint,
          hconfined⟩
      · refine hold endpoint event (mem_inputs.mpr ?_)
        rw [(h.order endpoint).enqueued channel hchannel]
        exact hmem
      · cases hsent
        obtain ⟨screens, hreported, hscreen⟩ := hconversing.active hconfining hactive hremote
        exact ⟨screens, hreported, onScreens_of_confined hscreen hpoint hconfined⟩

theorem run_addressing (hinverse : codec.Inverse) {as : List (Action E C I)} {endpoint : E}
    {config : AppConfig} {configPath : String} {capture : C}
    (h : Run (step codec) (fun _ _ after => after.network.host.OwnersDistinct)
      (start endpoint config configPath capture) as state) : Addressing codec state :=
  h.invariant (Addressing codec)
    (fun _ _ _ hs hdistinct hnext => hs.step hinverse hnext hdistinct)
    (addressing_start codec endpoint config configPath capture)

/-- In a run whose connections never share an owner id, every event that is accepted for a
client, and so every event that its injector gets, names a pixel of a screen which that client
reported after its injector was initialized. -/
theorem input_on_reported_screens (hinverse : codec.Inverse) {as : List (Action E C I)}
    {endpoint : E} {config : AppConfig} {configPath : String} {capture : C}
    (h : Run (step codec) (fun _ _ after => after.network.host.OwnersDistinct)
      (start endpoint config configPath capture) as state) (peer : E) :
    (∀ event ∈ inputs (state.network.accepted peer),
      ∃ screens, state.Reported peer screens ∧ OnScreens screens event) ∧
    ∀ link, state.network.links.find? peer = some link →
      ∀ event ∈ link.client.injector.passed,
        ∃ screens, state.Reported peer screens ∧ OnScreens screens event := by
  have haddressing := run_addressing hinverse h
  refine ⟨haddressing.addressed peer, fun link hlink event hevent => ?_⟩
  obtain ⟨taken, hcarries, htaken, -⟩ := (haddressing.order peer).carries link hlink
  have htotal := hcarries.passed_prefix.trans (htaken.filterMap _)
  exact haddressing.addressed peer event (htotal.subset hevent)

end Runs

/-- The entry move of the guest. -/
theorem input_on_reported_screens_guestEntered :
    ∃ state : ClientNetwork IPv4Endpoint MockInputCapture ScriptedInjector,
      Run (step guestCodec) (fun _ _ after => after.network.host.OwnersDistinct)
        (start (loopback 24800) { machineId := "desk" } "" {}) guestEntered state ∧
      ∃ link, state.network.links.find? (loopback 1001) = some link ∧
        link.client.injector.passed = [Network.entryMove] ∧
        ∀ event ∈ link.client.injector.passed,
          ∃ screens, state.Reported (loopback 1001) screens ∧ OnScreens screens event := by
  obtain ⟨state, hrun, hp⟩ := exists_run_of_execute (step guestCodec)
    (fun _ _ after => decide after.network.host.OwnersDistinct)
    (start (loopback 24800) { machineId := "desk" } "" {}) guestEntered
    (fun state => (state.network.links.find? (loopback 1001)).any fun link =>
      link.client.injector.passed = [Network.entryMove])
    (fun _ _ _ hcheck => of_decide_eq_true hcheck) (by decide +kernel)
  obtain ⟨link, hlink, hpassed⟩ := (Option.any_eq_true _ _).mp hp
  exact ⟨state, hrun, link, hlink, of_decide_eq_true hpassed,
    (input_on_reported_screens guestCodec_inverse hrun (loopback 1001)).2 link hlink⟩

end ClientNetwork

end Mksync
