import Mksync.HeldKeys
import Mksync.ReportedScreens

/-!
# What of the captured input reaches the clients

Besides moving the cursor an event clicks, scrolls or types. The router sends such an event to
one client or to none, under an address of its own, and nothing of the kind comes from
elsewhere.
-/
namespace Mksync

open TransitionRuns Client

/-- The endpoint's part of what is sent. -/
def shareFor {E : Type} [DecidableEq E] (endpoint : E) (log : List (E × Deed)) : List Deed :=
  (log.filter fun entry => entry.1 = endpoint).map Prod.snd

section Shares

variable {E : Type} [DecidableEq E]

@[simp] theorem shareFor_nil (endpoint : E) : shareFor endpoint [] = [] := rfl

theorem shareFor_append (endpoint : E) (log later : List (E × Deed)) :
    shareFor endpoint (log ++ later) = shareFor endpoint log ++ shareFor endpoint later := by
  rw [shareFor, List.filter_append, List.map_append]
  rfl

end Shares

namespace ServerInputRouter

variable {E C : Type} [Endpoint E] {screens : ServerScreenStore E}
  {router router' : ServerInputRouter E C} {event : InputEvent} {out : E × Deed}

/-- What is routed once is a log of one entry. -/
theorem shareFor_toList (endpoint : E) (out : Option (E × Deed)) :
    shareFor endpoint out.toList = shareOf out endpoint := by
  cases out with
  | none => rfl
  | some entry =>
    by_cases heq : endpoint = entry.1
    · simp [shareFor, shareOf, heq]
    · simp [shareFor, shareOf, heq, Ne.symm heq]

theorem routed_eq_some (h : router.routed screens event = some out) :
    ∃ screen sender, router.activeScreen screens = some screen ∧ screen.isLocal = false ∧
      isF12Press event = false ∧ router.mSenders.find? screen.endpoint = some sender ∧
      sender.accepts = true ∧ event.deed? = some out.2 ∧ out.1 = screen.endpoint := by
  rw [routed] at h
  cases hactive : router.activeScreen screens with
  | none =>
    rw [hactive] at h
    cases h
  | some screen =>
    simp only [hactive] at h
    split_ifs at h with hhome
    rw [Bool.or_eq_true, not_or, Bool.not_eq_true, Bool.not_eq_true] at hhome
    cases hsender : router.mSenders.find? screen.endpoint with
    | none =>
      rw [hsender] at h
      cases h
    | some sender =>
      simp only [hsender] at h
      split_ifs at h with haccepts
      obtain ⟨deed, hdeed, rfl⟩ := Option.map_eq_some_iff.mp h
      exact ⟨screen, sender, rfl, hhome.1, hhome.2, hsender, haccepts, hdeed, rfl⟩

/-- The client to which an event is routed is there afterwards. -/
theorem Handled.live_of_routed [InputCapture C] [EntryScaling]
    (h : Handled screens router event router') (hrouted : router.routed screens event = some out) :
    (router'.mSenders.find? out.1).isSome := by
  obtain ⟨screen, sender, hactive, hremote, hkey, hsender, haccepts, hdeed, hout⟩ :=
    routed_eq_some hrouted
  cases h with
  | idle active =>
    rw [active] at hactive
    cases hactive
  | home _ active isLocal =>
    obtain rfl := Option.some.inj (active.symm.trans hactive)
    rw [hremote] at isLocal
    cases isLocal
  | failSafe _ _ f12 =>
    rw [hkey] at f12
    cases f12
  | rested | echoed | stayed | crossed | left | clamped => cases hdeed
  | @forwarded event screen active remote noF12 =>
    obtain rfl := Option.some.inj (active.symm.trans hactive)
    rcases queueInputForScreen_cases screen (router.eventAtActivePoint screens event) router with
      ⟨heq, -⟩ | ⟨sender, -, live, accepts, heq⟩
    · rw [heq, hout, hsender]
      rfl
    · rw [heq, hout]
      simp [OrderedMap.find?_insertOrAssign]

end ServerInputRouter

namespace Host

open ServerInputRouter

variable {E C : Type} [Endpoint E] [InputCapture C] {host host' : Host E C}

/-- The deed that an action captures. -/
def capturedDeed? : Action E C → Option Deed
  | .captured event => event.deed?
  | _ => none

/-- Only what is captured is routed. -/
theorem routed_sublist (host : Host E C) (a : Action E C) :
    ((host.routed a).toList.map Prod.snd).Sublist (capturedDeed? a).toList := by
  cases hrouted : host.routed a with
  | none => exact List.nil_sublist _
  | some out =>
    cases a with
    | captured event =>
      obtain ⟨_, _, -, -, -, -, -, hdeed, -⟩ := routed_eq_some hrouted
      rw [show capturedDeed? (.captured event : Action E C) = some out.2 from hdeed]
      exact .refl _
    | _ => cases hrouted

theorem Stepped.live_of_routed [EntryScaling] {a : Action E C}
    (h : Stepped host a host') {out : E × Deed} (hrouted : host.routed a = some out) :
    (host'.server.mInput.mSenders.find? out.1).isSome := by
  cases a with
  | captured event =>
    have hhandled := handleInputEvent_handled host.server.mScreens host.server.mInput event
    cases h
    exact hhandled.live_of_routed hrouted
  | _ => cases hrouted

end Host

namespace Network

open ServerInputRouter

section Runs

variable {E C I : Type} [Endpoint E] [InputCapture C] [InputInjector I] [EntryScaling]
  {codec : RpcCodec} {network network' : Network E C I} {captured : List Deed}

/-- The deeds that the actions captured, in their order. -/
def capturedDeeds (as : List (Action E C I)) : List Deed :=
  as.filterMap fun a => (hostAction a).bind Host.capturedDeed?

omit [Endpoint E] [InputInjector I] [EntryScaling] in
theorem capturedDeeds_concat (as : List (Action E C I)) (a : Action E C I) :
    capturedDeeds (as ++ [a]) =
      capturedDeeds as ++ ((hostAction a).bind Host.capturedDeed?).toList := by
  rw [capturedDeeds, List.filterMap_append]
  cases hdeed : (hostAction a).bind Host.capturedDeed? <;> simp [capturedDeeds, hdeed]

/-- Every deed that was accepted for a client was captured, and no other client has it. -/
def Forwarded (captured : List Deed) (network : Network E C I) : Prop :=
  ∃ log : List (E × Deed), (log.map Prod.snd).Sublist captured ∧
    ∀ endpoint, deeds (network.accepted endpoint) = shareFor endpoint log

theorem Forwarded.step (h : Forwarded captured network) (horder : InOrder codec network)
    (hinverse : codec.Inverse) {a : Action E C I} (hstep : network.step codec a = some network') :
    Forwarded (captured ++ ((hostAction a).bind Host.capturedDeed?).toList) network' := by
  obtain ⟨log, hlog, haccepted⟩ := h
  have hgrown := (horder.step hinverse hstep).2
  cases haction : hostAction a with
  | none =>
    obtain ⟨-, hsame⟩ := step_hostKept hstep haction
    refine ⟨log, by simpa using hlog, fun endpoint => ?_⟩
    rw [hsame]
    exact haccepted endpoint
  | some b =>
    obtain ⟨hstepped, hobserved⟩ := step_hostStepped hstep haction
    refine ⟨log ++ (network.host.routed b).toList, ?_, fun endpoint => ?_⟩
    · rw [List.map_append]
      exact hlog.append (network.host.routed_sublist b)
    rw [shareFor_append, shareFor_toList, ← haccepted endpoint, hobserved endpoint]
    cases hfind : network'.host.server.mInput.mSenders.find? endpoint with
    | none =>
      have hnone : shareOf (network.host.routed b) endpoint = [] := by
        rcases shareOf_cases (network.host.routed b) endpoint with hnil | ⟨deed, hrouted, -⟩
        · exact hnil
        · have hlive := hstepped.live_of_routed hrouted
          rw [hfind] at hlive
          cases hlive
      rw [hnone, List.append_nil]
      rfl
    | some sender' =>
      rcases hstepped.added hfind with ⟨rfl, rfl⟩ | ⟨-, sender, hsender, hadded⟩
      · have hbefore := hgrown endpoint
        rw [hobserved endpoint, hfind] at hbefore
        have hnil : network.accepted endpoint = [] := List.prefix_nil.mp hbefore
        have hrouted : network.host.routed (.publish endpoint) = none := rfl
        rw [hnil, hrouted]
        rfl
      · rw [(horder endpoint).enqueued sender hsender]
        exact hadded

theorem run_forwarded (hinverse : codec.Inverse) {endpoint : E} {config : AppConfig}
    {configPath : String} {capture : C} {as : List (Action E C I)}
    {guard : Network E C I → Action E C I → Network E C I → Prop}
    (h : Run (step codec) guard (start endpoint config configPath capture) as network) :
    InOrder codec network ∧ Forwarded (capturedDeeds as) network := by
  generalize hstart : (start endpoint config configPath capture : Network E C I) = first at h
  induction h with
  | refl =>
    subst hstart
    exact ⟨inOrder_start codec endpoint config configPath capture, [], .slnil, fun _ => rfl⟩
  | @tail before after as a run next ok ih =>
    obtain ⟨horder, hforwarded⟩ := ih
    refine ⟨(horder.step hinverse next).1, ?_⟩
    rw [capturedDeeds_concat]
    exact hforwarded.step horder hinverse next

/-- In every run the clicks, turns of the wheel and keys that reached the injectors of the
clients are captured ones: each was passed to one client at most, once, and in the order of
the captures. -/
theorem passed_to_one_client (hinverse : codec.Inverse) {endpoint : E} {config : AppConfig}
    {configPath : String} {capture : C} {as : List (Action E C I)}
    (h : Run (step codec) unguarded (start endpoint config configPath capture) as network) :
    ∃ log : List (E × Deed), (log.map Prod.snd).Sublist (capturedDeeds as) ∧
      ∀ peer link, network.links.find? peer = some link →
        link.client.injector.passed.filterMap InputEvent.deed? <+: shareFor peer log := by
  obtain ⟨horder, log, hlog, haccepted⟩ := run_forwarded hinverse h
  refine ⟨log, hlog, fun peer link hlink => ?_⟩
  obtain ⟨taken, hcarries, hinit, -⟩ := (horder peer).carries link hlink
  rw [← haccepted peer]
  exact (hcarries.passed_prefix.trans (hinit.filterMap _)).filterMap _

end Runs

/-! ### A click on its way -/

/-- The click on the entry pixel of the guest's screen. -/
def entryClick : InputEvent := .mouseButton { y := 474, button := .left }

/-- The one codec for what it serializes, and the other for the rest. -/
def orElse {T : Type} (first second : PayloadCodec T) : PayloadCodec T where
  serialize value := first.serialize value <|> second.serialize value
  deserialize bytes := first.deserialize bytes <|> second.deserialize bytes

theorem orElse_inverse {T : Type} {first second : PayloadCodec T} (hfirst : first.Inverse)
    (hsecond : second.Inverse) (hapart : ∀ value bytes, second.serialize value = some bytes →
      first.deserialize bytes = none) : (orElse first second).Inverse := by
  intro value bytes h
  simp only [orElse] at h ⊢
  cases hone : first.serialize value with
  | some text =>
    rw [hone] at h
    obtain rfl : text = bytes := Option.some.inj h
    rw [hfirst value text hone]
    rfl
  | none =>
    rw [hone] at h
    have htwo : second.serialize value = some bytes := h
    rw [hapart value bytes htwo, hsecond value bytes htwo]
    rfl

/-- A codec that knows the texts of the entry move and of the click. -/
def clickCodec : RpcCodec where
  hello := ⟨fun _ => none, fun _ => none⟩
  screens := ⟨fun _ => none, fun _ => none⟩
  input := orElse entryCodec.input (RpcTransport.knowing ⟨entryClick⟩
    "\x7b\"event\":\x7b\"x\":0,\"y\":474,\"screenIndex\":0,\"button\":1\x7d\x7d")
  ping := ⟨fun _ => none, fun _ => none⟩
  pong := ⟨fun _ => none, fun _ => none⟩
  error := ⟨fun _ => none, fun _ => none⟩

theorem clickCodec_inverse : clickCodec.Inverse where
  hello := nofun
  screens := nofun
  input := by
    refine orElse_inverse (RpcTransport.knowing_inverse _ _) (RpcTransport.knowing_inverse _ _) ?_
    intro message bytes h
    simp only [RpcTransport.knowing] at h
    split_ifs at h
    obtain rfl := Option.some.inj h
    decide +kernel
  ping := nofun
  pong := nofun
  error := nofun

/-- After the entry move the guest gets a click. -/
def clickDelivered : List (Action IPv4Endpoint MockInputCapture ScriptedInjector) :=
  crossingDelivered ++ [.host (.captured (.mouseButton { x := 5, y := 5, button := .left })),
    .deliver (loopback 1001), .transmit (loopback 1001) 200, .arrive (loopback 1001) 200,
    .read (loopback 1001), .inject (loopback 1001)]

theorem passed_to_one_client_click :
    ∃ network : Network IPv4Endpoint MockInputCapture ScriptedInjector,
      Run (step clickCodec) unguarded (start (loopback 24800) { machineId := "desk" } "" {})
        clickDelivered network ∧
      (∃ link, network.links.find? (loopback 1001) = some link ∧
        link.client.injector.passed = [entryMove, entryClick]) ∧
      ∃ log : List (IPv4Endpoint × Deed),
        (log.map Prod.snd).Sublist (capturedDeeds clickDelivered) ∧
        ∀ peer link, network.links.find? peer = some link →
          link.client.injector.passed.filterMap InputEvent.deed? <+: shareFor peer log := by
  obtain ⟨network, hrun, hp⟩ := exists_run_of_execute (step clickCodec) (fun _ _ _ => true)
    (start (loopback 24800) { machineId := "desk" } "" {}) clickDelivered
    (fun network => (network.links.find? (loopback 1001)).any fun link =>
      link.client.injector.passed = [entryMove, entryClick])
    (fun _ _ _ _ => trivial) (by decide +kernel)
  obtain ⟨link, hlink, hpassed⟩ := (Option.any_eq_true _ _).mp hp
  exact ⟨network, hrun, ⟨link, hlink, of_decide_eq_true hpassed⟩,
    passed_to_one_client clickCodec_inverse hrun⟩

end Network
end Mksync
