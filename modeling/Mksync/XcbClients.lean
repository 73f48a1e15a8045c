import Mksync.AddressedInput
import Mksync.XcbInputInjector

/-!
# Clients on X11

A client on X11 ends with the first event that its injector refuses. The mouse events that
reach it name pixels of the monitors it reported, so the injector has a place for each.
-/
namespace Mksync

open TransitionRuns Client

namespace XcbInputInjector

variable {injector : XcbInputInjector} {symbols : Xcb.KeySymbols}

/-- A mouse event that names a button if it is a click. -/
def Playable : InputEvent → Prop
  | .key _ => False
  | .mouseButton event => event.button ≠ .none
  | .mouseMove _ | .mouseWheel _ => True

instance : DecidablePred Playable
  | .key _ => .isFalse id
  | .mouseButton event => inferInstanceAs (Decidable (event.button ≠ .none))
  | .mouseMove _ | .mouseWheel _ => .isTrue trivial

/-- A mouse event on one of the monitors is not refused by the injector itself. -/
theorem program_error {display : XcbDisplay} {event : InputEvent}
    (haddressable : ∀ screen ∈ display.mScreens, Addressable screen.screen)
    (hon : OnScreens (display.mScreens.map (·.screen)) event) (hplayable : Playable event) :
    (program display symbols event).error = none := by
  have hplace : ∀ screenIndex x y info,
      (display.mScreens.map (·.screen))[screenIndex]? = some info → info.Contains x y →
      place display screenIndex x y = some (info.x + x, info.y + y) := by
    intro screenIndex x y info hscreen hcontains
    have hmem := List.mem_of_getElem? hscreen
    obtain ⟨screen, hscreens, rfl⟩ := List.mem_map.mp hmem
    exact place_of_contains hscreen (haddressable screen hscreens) hcontains
  cases event with
  | key event => exact absurd hplayable id
  | mouseMove event =>
    obtain ⟨info, hscreen, hcontains⟩ := hon
    rw [program, moveProgram, hplace _ _ _ info hscreen hcontains]
  | mouseButton event =>
    obtain ⟨info, hscreen, hcontains⟩ := hon
    obtain ⟨button, hbutton⟩ : ∃ button, buttonFor event.button = some button := by
      rcases event with ⟨x, y, screenIndex, button, release⟩
      cases button with
      | none => exact absurd rfl hplayable
      | left => exact ⟨1, rfl⟩
      | right => exact ⟨3, rfl⟩
      | middle => exact ⟨2, rfl⟩
    simp only [program, moveProgram, hplace _ _ _ info hscreen hcontains, hbutton]
  | mouseWheel event => rfl

end XcbInputInjector

namespace ClientNetwork

open XcbInputInjector

section Runs

variable {E C : Type} [Endpoint E] [InputCapture C] [EntryScaling] {codec : RpcCodec}
  {state : ClientNetwork E C XcbInputInjector}

/-- In a run whose connections never share an owner id, no mouse event that is playable (a click
names a button) ends a client on X11, as long as its report is the platform's monitors, these lie
within the coordinates of the protocol and the X server accepts what it is asked for. -/
theorem mouse_input_ends_no_client (hinverse : codec.Inverse)
    {as : List (Action E C XcbInputInjector)} {endpoint : E} {config : AppConfig}
    {configPath : String} {capture : C}
    (h : Run (step codec) (fun _ _ after => after.network.host.OwnersDistinct)
      (start endpoint config configPath capture) as state)
    {peer : E} {link link' : Link XcbInputInjector} {event : InputEvent}
    (hlink : state.network.links.find? peer = some link)
    (hreport : ∀ screens, state.Reported peer screens →
      screens = link.client.injector.inner.mPlatform.mScreens.map (·.screen))
    (haddressable : ∀ screen ∈ link.client.injector.inner.mPlatform.mScreens,
      Addressable screen.screen)
    (hconnected : link.client.injector.inner.mConnection.isSome)
    (haccepts : Accepts link.client.injector.inner event)
    (hpending : link.pending = some (.input ⟨event⟩)) (hplayable : Playable event)
    (hinject : link.inject = some link') : link'.reading = true := by
  have haddressing := run_addressing hinverse h
  have hreading : link.reading = true := by
    rw [Link.inject] at hinject
    split at hinject
    next hreads _ => exact hreads
    next => cases hinject
  obtain ⟨taken, hcarries, htaken, -⟩ := (haddressing.order peer).carries link hlink
  obtain ⟨handled, rest, rfl, -, hrest⟩ := hcarries
  obtain ⟨flying, lost, rfl, -⟩ := hrest hreading
  have hmem : event ∈ inputs (state.network.accepted peer) := by
    apply mem_inputs.mpr
    apply htaken.subset
    simp [hpending]
  obtain ⟨screens, hreported, hon⟩ := haddressing.addressed peer event hmem
  obtain rfl := hreport screens hreported
  obtain ⟨symbols, hsymbols⟩ := Option.isSome_iff_exists.mp hconnected
  have hanswer : (link.client.injector.inner.inject event).1 = none := by
    rw [inject_of_accepts hsymbols haccepts]
    exact program_error haddressable hon hplayable
  have hok : InputInjector.inject event link.client.injector.inner =
      (.ok (), (link.client.injector.inner.inject event).2) := by
    simp only [InputInjector.inject]
    rcases hresult : link.client.injector.inner.inject event with ⟨answer, after⟩
    rw [hresult] at hanswer
    obtain rfl : answer = none := hanswer
    rfl
  obtain ⟨client', hclient, -⟩ := handleMessage_injected hok
  rw [Link.inject, hreading, hpending] at hinject
  simp only [hclient, Option.some.injEq] at hinject
  rw [← hinject]

end Runs

/-- A guest on X11 with one monitor. -/
def guestInjector : XcbInputInjector where
  mPlatform := { mScreens := [⟨0, sideMonitor⟩] }
  mConnection := some ⟨fun _ => 0, fun _ => []⟩
  answers _ _ := none

/-- The guest reports its monitor, the cursor crosses to it, and the guest reads the move. -/
def guestReads : List (Action IPv4Endpoint MockInputCapture XcbInputInjector) :=
  [.network (.host (.registerLocal [deskMonitor])),
    .connect (loopback 1001) { machineId := "m" } guestInjector,
    .greet (loopback 1001), .upload (loopback 1001) 200, .land (loopback 1001) 200,
    .receive (loopback 1001), .network (.host (.publish (loopback 1001))),
    .initializeInjector (loopback 1001) true, .handleWrite (loopback 1001) [sideMonitor],
    .upload (loopback 1001) 300, .land (loopback 1001) 300, .receive (loopback 1001),
    .network (.host (.captured (.mouseMove { x := 1919, y := 500 }))),
    .network (.deliver (loopback 1001)), .network (.transmit (loopback 1001) 200),
    .network (.arrive (loopback 1001) 200), .network (.read (loopback 1001))]

/-- What is tested of the guest's connection. -/
def readyToMove (state : ClientNetwork IPv4Endpoint MockInputCapture XcbInputInjector) : Bool :=
  (state.network.links.find? (loopback 1001)).any fun link =>
    (state.clients.find? (loopback 1001)).all (·.report = some [sideMonitor]) &&
    (link.client.injector.inner.mPlatform.mScreens = [⟨0, sideMonitor⟩] &&
    (link.client.injector.inner.mConnection.isSome &&
    ((RequestSequences.perform link.client.injector.inner.answers
      (moveProgram link.client.injector.inner.mPlatform 0 0 474).requests
        link.client.injector.inner.sent).1 = none &&
    (link.pending = some (.input ⟨Network.entryMove⟩) && link.inject.isSome))))

theorem mouse_input_ends_no_client_guest :
    ∃ (state : ClientNetwork IPv4Endpoint MockInputCapture XcbInputInjector)
      (link link' : Link XcbInputInjector),
      Run (step guestCodec) (fun _ _ after => after.network.host.OwnersDistinct)
        (start (loopback 24800) { machineId := "desk" } "" {}) guestReads state ∧
      state.network.links.find? (loopback 1001) = some link ∧
      link.pending = some (.input ⟨Network.entryMove⟩) ∧ link.inject = some link' ∧
      link'.reading = true := by
  obtain ⟨state, hrun, hp⟩ := exists_run_of_execute (step guestCodec)
    (fun _ _ after => decide after.network.host.OwnersDistinct)
    (start (loopback 24800) { machineId := "desk" } "" {}) guestReads readyToMove
    (fun _ _ _ hcheck => of_decide_eq_true hcheck) (by decide +kernel)
  obtain ⟨link, hlink, hready⟩ := (Option.any_eq_true _ _).mp hp
  simp only [Bool.and_eq_true, decide_eq_true_eq] at hready
  obtain ⟨hreport, hscreens, hconnected, haccepts, hpending, hinject⟩ := hready
  obtain ⟨link', hlink'⟩ := Option.isSome_iff_exists.mp hinject
  have hasked : Accepts link.client.injector.inner Network.entryMove := fun _ _ => haccepts
  refine ⟨state, link, link', hrun, hlink, hpending, hlink',
    mouse_input_ends_no_client guestCodec_inverse hrun hlink ?_ ?_ hconnected hasked hpending
      trivial hlink'⟩
  · rintro screens ⟨client, hclient, -, hreported⟩
    rw [hclient] at hreport
    have hsame : client.report = some [sideMonitor] := of_decide_eq_true hreport
    obtain rfl := Option.some.inj (hreported.symm.trans hsame)
    rw [hscreens]
    rfl
  · rw [hscreens]
    intro screen hmem
    obtain rfl := List.mem_singleton.mp hmem
    constructor <;> decide

end ClientNetwork
end Mksync
