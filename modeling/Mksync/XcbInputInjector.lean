import Mksync.ClientReadLoop
import Mksync.RequestSequences
import Mksync.XcbInputCapture
import Mksync.XcbWheel
import Mathlib.Algebra.Order.Floor.Div

/-!
# Injection on X11

The injector plays each event by fake input of the XTEST extension: it moves the pointer to
the pixel of a click before the click, and turns a scroll into clicks of the wheel. Each
function returns at the first request that the server refuses.
-/
namespace Mksync

open RequestSequences

/-- The value of the `std::errc` on Linux. -/
def XcbErrc.value : XcbErrc → Nat
  | .ioError => 5
  | .notEnoughMemory => 12
  | .deviceOrResourceBusy => 16
  | .noSuchDevice => 19
  | .invalidArgument => 22
  | .messageSize => 90
  | .protocolNotSupported => 93
  | .operationNotSupported => 95
  | .notConnected => 107
  | .connectionRefused => 111

/-- A request of the injector, or the flush that follows them. -/
inductive FakeInput
  | motion (x y : Int)
  | core (request : XcbInputInjector.Request)
  | key (keyCode : UInt8) (release : Bool)
  deriving DecidableEq, Repr

/-- What the server does for a new connection. -/
structure XTestServer where
  connect : Except XcbErrc Unit := .ok ()
  /-- The extension is there and tells its version. -/
  extension : Bool := true
  keySymbols : Option Xcb.KeySymbols
  /-- The answers of the connection. -/
  answers : Answers FakeInput XcbErrc

structure XcbInputInjector where
  mPlatform : XcbDisplay
  /-- The keyboard mapping of the connection; both are there or none. -/
  mConnection : Option Xcb.KeySymbols := none
  answers : Answers FakeInput XcbErrc
  /-- What was sent on the connection. -/
  sent : List FakeInput := []

namespace XcbInputInjector

def closeConnection (injector : XcbInputInjector) : XcbInputInjector :=
  { injector with mConnection := none }

def initializeInjector (server : XTestServer) (injector : XcbInputInjector) :
    Except XcbErrc Unit × XcbInputInjector :=
  let injector := injector.closeConnection
  match server.connect with
  | .error error => (.error error, injector)
  | .ok () =>
    if !server.extension then (.error .operationNotSupported, injector)
    else
      match server.keySymbols with
      | none => (.error .notEnoughMemory, injector)
      | some symbols =>
        (.ok (), { injector with
          mConnection := some symbols
          answers := server.answers
          sent := [] })

def buttonFor : MouseButton → Option Nat
  | .left => some 1
  | .middle => some 2
  | .right => some 3
  | .none => none

def send (next : FakeInput) (injector : XcbInputInjector) : Option XcbErrc × XcbInputInjector :=
  (injector.answers injector.sent next, { injector with sent := injector.sent ++ [next] })

/-- The pixel on the root window, where the protocol can name it. -/
def place (display : XcbDisplay) (screenIndex : Nat) (x y : Int) : Option (Int × Int) :=
  match (XcbPlatform.localToGlobal display.mScreens screenIndex x y).join with
  | none => none
  | some global =>
    if XcbInputCapture.coordinateFits global.1 && XcbInputCapture.coordinateFits global.2 then
      some global
    else none

/-- Where the pointer really is afterwards is only logged. -/
def moveCursor (screenIndex : Nat) (x y : Int) (injector : XcbInputInjector) :
    Option XcbErrc × XcbInputInjector :=
  match place injector.mPlatform screenIndex x y with
  | none => (some .invalidArgument, injector)
  | some global =>
    match injector.send (.motion global.1 global.2) with
    | (some error, injector) => (some error, injector)
    | (none, injector) => injector.send (.core .flush)

def injectButton (event : MouseButtonEvent) (injector : XcbInputInjector) :
    Option XcbErrc × XcbInputInjector :=
  match injector.moveCursor event.screenIndex event.x event.y with
  | (some error, injector) => (some error, injector)
  | (none, injector) =>
    match buttonFor event.button with
    | none => (some .invalidArgument, injector)
    | some button =>
      match injector.send (.core (if event.release then .buttonRelease button
        else .buttonPress button)) with
      | (some error, injector) => (some error, injector)
      | (none, injector) => injector.send (.core .flush)

def injectScroll (event : MouseWheelEvent) (injector : XcbInputInjector) :
    Option XcbErrc × XcbInputInjector :=
  let result := injectWheel
    (fun more next => injector.answers (injector.sent ++ more.map .core) (.core next)) event []
  (result.1, { injector with sent := injector.sent ++ result.2.map .core })

def injectKey (symbols : Xcb.KeySymbols) (event : KeyEvent) (injector : XcbInputInjector) :
    Option XcbErrc × XcbInputInjector :=
  match Xcb.keyCodeFor symbols event with
  | none => (some .invalidArgument, injector)
  | some keyCode =>
    match injector.send (.key keyCode event.release) with
    | (some error, injector) => (some error, injector)
    | (none, injector) => injector.send (.core .flush)

def injectOne (symbols : Xcb.KeySymbols) (event : InputEvent) (injector : XcbInputInjector) :
    Option XcbErrc × XcbInputInjector :=
  match event with
  | .mouseMove event => injector.moveCursor event.screenIndex event.x event.y
  | .mouseButton event => injector.injectButton event
  | .mouseWheel event => injector.injectScroll event
  | .key event => injector.injectKey symbols event

def inject (event : InputEvent) (injector : XcbInputInjector) :
    Option XcbErrc × XcbInputInjector :=
  match injector.mConnection with
  | none => (some .notConnected, injector)
  | some symbols => injector.injectOne symbols event

instance : InputInjector XcbInputInjector where
  inject event injector :=
    match injector.inject event with
    | (some error, injector) => (.error error.value, injector)
    | (none, injector) => (.ok (), injector)

/-! ### An event as a program -/

/-- The requests that an event asks for, and the error that comes after them. -/
structure Program where
  requests : List FakeInput := []
  error : Option XcbErrc := none

def moveProgram (display : XcbDisplay) (screenIndex : Nat) (x y : Int) : Program :=
  match place display screenIndex x y with
  | none => { error := some .invalidArgument }
  | some global => { requests := [.motion global.1 global.2, .core .flush] }

def program (display : XcbDisplay) (symbols : Xcb.KeySymbols) : InputEvent → Program
  | .mouseMove event => moveProgram display event.screenIndex event.x event.y
  | .mouseButton event =>
    let moved := moveProgram display event.screenIndex event.x event.y
    match moved.error, buttonFor event.button with
    | some _, _ => moved
    | none, none => { moved with error := some .invalidArgument }
    | none, some button => { requests := moved.requests ++
        [.core (if event.release then .buttonRelease button else .buttonPress button),
          .core .flush] }
  | .mouseWheel event => { requests := (axisRequests .vertical event.deltaY ++
      axisRequests .horizontal event.deltaX).map .core }
  | .key event =>
    match Xcb.keyCodeFor symbols event with
    | none => { error := some .invalidArgument }
    | some keyCode => { requests := [.key keyCode event.release, .core .flush] }

/-- The requests are made up to the first refusal, then the error is returned. -/
def Runs (program : Program) (injector : XcbInputInjector)
    (result : Option XcbErrc × XcbInputInjector) : Prop :=
  result.1 = ((perform injector.answers program.requests injector.sent).1 <|> program.error) ∧
    result.2 = { injector with
      sent := (perform injector.answers program.requests injector.sent).2 }

variable {injector : XcbInputInjector}

/-- Two requests in a row. -/
theorem perform_pair (first second : FakeInput) :
    (match injector.send first with
      | (some error, injector) => (some error, injector)
      | (none, injector) => injector.send second) =
      ((perform injector.answers [first, second] injector.sent).1, { injector with
        sent := (perform injector.answers [first, second] injector.sent).2 }) := by
  simp only [perform_cons, perform_nil, send]
  cases injector.answers injector.sent first with
  | some error => rfl
  | none =>
    simp only []
    cases injector.answers (injector.sent ++ [first]) second <;> rfl

theorem runs_move (screenIndex : Nat) (x y : Int) :
    Runs (moveProgram injector.mPlatform screenIndex x y) injector
      (injector.moveCursor screenIndex x y) := by
  rw [moveProgram, moveCursor]
  cases hplace : place injector.mPlatform screenIndex x y with
  | none => exact ⟨rfl, rfl⟩
  | some global =>
    simp only [perform_pair]
    exact ⟨by simp, rfl⟩

theorem moveCursor_of_place {screenIndex : Nat} {x y : Int} {global : Int × Int}
    (hplace : place injector.mPlatform screenIndex x y = some global) :
    injector.moveCursor screenIndex x y =
      ((perform injector.answers [.motion global.1 global.2, .core .flush] injector.sent).1,
        { injector with
          sent := (perform injector.answers [.motion global.1 global.2, .core .flush]
            injector.sent).2 }) := by
  rw [moveCursor, hplace]
  exact perform_pair _ _

/-- The click comes behind the move to its pixel. -/
theorem runs_button (event : MouseButtonEvent) (symbols : Xcb.KeySymbols) :
    Runs (program injector.mPlatform symbols (.mouseButton event)) injector
      (injector.injectButton event) := by
  rw [injectButton, program]
  cases hplace : place injector.mPlatform event.screenIndex event.x event.y with
  | none =>
    simp only [moveCursor, moveProgram, hplace]
    exact ⟨rfl, rfl⟩
  | some global =>
    rw [moveCursor_of_place hplace]
    simp only [moveProgram, hplace]
    rcases hmoved : perform injector.answers [.motion global.1 global.2, .core .flush]
      injector.sent with ⟨_ | error, sent⟩
    · cases hbutton : buttonFor event.button with
      | none => simp [Runs, hmoved]
      | some button =>
        simp only [perform_pair]
        rw [Runs, perform_append, hmoved]
        exact ⟨by simp, rfl⟩
    · cases hbutton : buttonFor event.button with
      | none => simp [Runs, hmoved]
      | some button =>
        simp only []
        rw [Runs, perform_append, hmoved]
        exact ⟨rfl, rfl⟩

/-! ### The wheel as a program -/

variable {ε : Type}

theorem fakeButtonClick_eq_perform (answers : RequestSequences.Answers Request ε)
    (button count : Nat) (sent : List Request) :
    fakeButtonClick answers button count sent =
      perform answers (clickRequests button count) sent := by
  induction count generalizing sent with
  | zero =>
    simp only [fakeButtonClick, clickRequests, request, List.replicate_zero, List.flatten_nil,
      List.nil_append, perform_cons, perform_nil]
    cases answers sent .flush <;> rfl
  | succ count ih =>
    have hrequests : clickRequests button (count + 1) =
        .buttonPress button :: .buttonRelease button :: clickRequests button count := rfl
    rw [hrequests, perform_cons, perform_cons]
    simp only [fakeButtonClick, fakeButton, request, if_true, Bool.false_eq_true, if_false]
    cases answers sent (.buttonPress button) with
    | some error => rfl
    | none =>
      simp only []
      cases answers (sent ++ [.buttonPress button]) (.buttonRelease button) with
      | some error => rfl
      | none => exact ih _

theorem injectWheel_eq_perform (answers : RequestSequences.Answers Request ε)
    (event : MouseWheelEvent) (sent : List Request) :
    injectWheel answers event sent = perform answers
      (axisRequests .vertical event.deltaY ++ axisRequests .horizontal event.deltaX) sent := by
  have hvertical : injectVertical answers event sent =
      perform answers (axisRequests .vertical event.deltaY) sent := by
    rw [injectVertical, axisRequests]
    split_ifs
    · exact fakeButtonClick_eq_perform answers _ _ sent
    · exact fakeButtonClick_eq_perform answers _ _ sent
    · rfl
  have hhorizontal : ∀ sent, injectHorizontal answers event sent =
      perform answers (axisRequests .horizontal event.deltaX) sent := by
    intro sent
    rw [injectHorizontal, axisRequests]
    split_ifs
    · omega
    · exact fakeButtonClick_eq_perform answers _ _ sent
    · exact fakeButtonClick_eq_perform answers _ _ sent
    · rfl
  rw [injectWheel, hvertical, perform_append]
  rcases perform answers (axisRequests .vertical event.deltaY) sent with ⟨_ | error, after⟩
  · exact hhorizontal after
  · rfl

theorem runs_scroll (event : MouseWheelEvent) (symbols : Xcb.KeySymbols) :
    Runs (program injector.mPlatform symbols (.mouseWheel event)) injector
      (injector.injectScroll event) := by
  have hmapped := perform_map injector.answers FakeInput.core
    (axisRequests .vertical event.deltaY ++ axisRequests .horizontal event.deltaX) []
    injector.sent
  rw [List.map_nil, List.append_nil] at hmapped
  rw [injectScroll, injectWheel_eq_perform, program, Runs, hmapped]
  exact ⟨by simp, rfl⟩

theorem runs_key (event : KeyEvent) (symbols : Xcb.KeySymbols) :
    Runs (program injector.mPlatform symbols (.key event)) injector
      (injector.injectKey symbols event) := by
  rw [injectKey, program]
  cases hcode : Xcb.keyCodeFor symbols event with
  | none => exact ⟨rfl, rfl⟩
  | some keyCode =>
    simp only [perform_pair]
    exact ⟨by simp, rfl⟩

theorem runs_injectOne (symbols : Xcb.KeySymbols) (event : InputEvent)
    (injector : XcbInputInjector) : Runs (program injector.mPlatform symbols event) injector
      (injector.injectOne symbols event) := by
  cases event with
  | mouseMove event => exact runs_move event.screenIndex event.x event.y
  | mouseButton event => exact runs_button event symbols
  | mouseWheel event => exact runs_scroll event symbols
  | key event => exact runs_key event symbols

/-! ### What an event asks of the server -/

def withoutFlushes (requests : List FakeInput) : List FakeInput :=
  requests.filter (· ≠ .core .flush)

/-- The detents of a delta, one that is only begun among them. -/
def detents (delta : Int) : Nat := delta.natAbs ⌈/⌉ 120

/-- A press and a release for each detent. -/
def turns (axis : Axis) (delta : Int) : List FakeInput :=
  let button := if 0 < delta then axis.positive else axis.negative
  (List.replicate (detents delta)
    [FakeInput.core (.buttonPress button), .core (.buttonRelease button)]).flatten

/-- What an event asks for: the pointer to its own pixel and the one button there, a turn of the
wheel for each detent, the key of the client's keyboard. -/
def asked (display : XcbDisplay) (symbols : Xcb.KeySymbols) : InputEvent → List FakeInput
  | .mouseMove event =>
    (place display event.screenIndex event.x event.y).toList.map fun (x, y) => .motion x y
  | .mouseButton event =>
    match place display event.screenIndex event.x event.y with
    | none => []
    | some (x, y) => .motion x y :: (buttonFor event.button).toList.map fun button =>
        .core (if event.release then .buttonRelease button else .buttonPress button)
  | .mouseWheel event => turns .vertical event.deltaY ++ turns .horizontal event.deltaX
  | .key event => (Xcb.keyCodeFor symbols event).toList.map fun keyCode =>
      .key keyCode event.release

/-- The deltas of a wheel are `int32`, and not the least one, which has no magnitude. -/
def WheelInRange : InputEvent → Prop
  | .mouseWheel event => InRange event
  | .mouseMove _ | .mouseButton _ | .key _ => True

theorem wheelClickCount_eq_detents {delta : Int} (h : delta.natAbs ≤ 2147483647)
    (hne : delta ≠ 0) : wheelClickCount delta = detents delta := by
  have hsmall : (delta.natAbs + 119) % 4294967296 = delta.natAbs + 119 := by omega
  simp only [wheelClickCount, hsmall, detents, Nat.ceilDiv_eq_add_pred_div]
  omega

theorem withoutFlushes_clickRequests (button count : Nat) :
    withoutFlushes ((clickRequests button count).map .core) = (List.replicate count
      [FakeInput.core (.buttonPress button), .core (.buttonRelease button)]).flatten := by
  induction count with
  | zero => rfl
  | succ count ih =>
    have hrequests : clickRequests button (count + 1) =
        .buttonPress button :: .buttonRelease button :: clickRequests button count := rfl
    have hturn : withoutFlushes ((clickRequests button (count + 1)).map .core) =
        .core (.buttonPress button) :: .core (.buttonRelease button) ::
          withoutFlushes ((clickRequests button count).map .core) := by
      rw [hrequests]
      rfl
    rw [hturn, ih]
    rfl

theorem withoutFlushes_axisRequests (axis : Axis) {delta : Int} (h : delta.natAbs ≤ 2147483647) :
    withoutFlushes ((axisRequests axis delta).map .core) = turns axis delta := by
  rw [axisRequests, turns]
  split_ifs with hup hdown
  · rw [withoutFlushes_clickRequests, wheelClickCount_eq_detents h (by omega)]
  · rw [withoutFlushes_clickRequests, wheelClickCount_eq_detents h (by omega)]
  · obtain rfl : delta = 0 := by omega
    rfl

/-- Beside the flushes an event's requests are what it asks for. -/
theorem withoutFlushes_program (display : XcbDisplay) (symbols : Xcb.KeySymbols)
    {event : InputEvent} (h : WheelInRange event) :
    withoutFlushes (program display symbols event).requests = asked display symbols event := by
  cases event with
  | mouseMove event =>
    rw [program, moveProgram, asked]
    cases place display event.screenIndex event.x event.y <;> rfl
  | mouseButton event =>
    rw [program, moveProgram, asked]
    cases place display event.screenIndex event.x event.y with
    | none => rfl
    | some global =>
      rcases event with ⟨x, y, screenIndex, button, release⟩
      cases button <;> cases release <;> rfl
  | mouseWheel event =>
    have hvertical := withoutFlushes_axisRequests .vertical h.deltaY
    have hhorizontal := withoutFlushes_axisRequests .horizontal h.deltaX
    rw [program, asked, List.map_append, withoutFlushes, List.filter_append, ← hvertical,
      ← hhorizontal]
    rfl
  | key event =>
    rw [program, asked]
    cases Xcb.keyCodeFor symbols event <;> rfl

/-! ### A sequence of events -/

/-- The events one after the other, each injected whatever became of the ones before. -/
def injectAll (events : List InputEvent) (injector : XcbInputInjector) : XcbInputInjector :=
  events.foldl (fun injector event => (injector.inject event).2) injector

/-- What the injector answers to each. -/
def answered : List InputEvent → XcbInputInjector → List (InputEvent × Option XcbErrc)
  | [], _ => []
  | event :: rest, injector =>
    (event, (injector.inject event).1) :: answered rest (injector.inject event).2

/-- What the server took of what was sent. -/
def taken (injector : XcbInputInjector) : List FakeInput :=
  withoutFlushes (accepted injector.answers [] injector.sent)

/-- A part of what the event asks for, from its start, and all of it where the answer is success. -/
def Part (display : XcbDisplay) (symbols : Xcb.KeySymbols) (part : List FakeInput)
    (answer : InputEvent × Option XcbErrc) : Prop :=
  part <+: asked display symbols answer.1 ∧
    (answer.2 = none → part = asked display symbols answer.1)

variable {symbols : Xcb.KeySymbols}

/-- Of an event a first part is taken, and the whole where it is answered with success. -/
theorem inject_spec (hconnected : injector.mConnection = some symbols) {event : InputEvent}
    (hrange : WheelInRange event) :
    ∃ made, (injector.inject event).2 = { injector with sent := injector.sent ++ made } ∧
      Part injector.mPlatform symbols
        (withoutFlushes (accepted injector.answers injector.sent made))
        (event, (injector.inject event).1) := by
  obtain ⟨hanswer, hafter⟩ := runs_injectOne symbols event injector
  obtain ⟨made, hmade, hprefixed, hwhole⟩ := perform_spec injector.answers
    (program injector.mPlatform symbols event).requests injector.sent
  have hinject : injector.inject event = injector.injectOne symbols event := by
    rw [inject, hconnected]
  refine ⟨made, by rw [hinject, hafter, hmade], ?_, fun hok => ?_⟩
  · rw [← withoutFlushes_program injector.mPlatform symbols hrange]
    exact hprefixed.filter _
  · have hnone : (perform injector.answers (program injector.mPlatform symbols event).requests
        injector.sent).1 = none := by
      rw [hinject, hanswer] at hok
      cases hperformed : (perform injector.answers (program injector.mPlatform symbols
          event).requests injector.sent).1 with
      | none => rfl
      | some error =>
        rw [hperformed] at hok
        cases hok
    rw [hwhole hnone]
    exact withoutFlushes_program injector.mPlatform symbols hrange

theorem injectAll_spec (hconnected : injector.mConnection = some symbols)
    {events : List InputEvent} (hrange : ∀ event ∈ events, WheelInRange event) :
    ∃ made parts, (injectAll events injector).sent = injector.sent ++ made ∧
      (injectAll events injector).answers = injector.answers ∧
      withoutFlushes (accepted injector.answers injector.sent made) = parts.flatten ∧
      List.Forall₂ (Part injector.mPlatform symbols) parts (answered events injector) := by
  induction events generalizing injector with
  | nil => exact ⟨[], [], (List.append_nil _).symm, rfl, rfl, .nil⟩
  | cons event rest ih =>
    obtain ⟨hevent, hrest⟩ := List.forall_mem_cons.mp hrange
    obtain ⟨made, hafter, hpart⟩ := inject_spec hconnected hevent
    have hstill : (injector.inject event).2.mConnection = some symbols := by
      rw [hafter]
      exact hconnected
    obtain ⟨more, parts, hsent, hanswers, htaken, hparts⟩ := ih hstill hrest
    rw [hafter] at hsent hanswers htaken
    refine ⟨made ++ more, _ :: parts, ?_, ?_, ?_, .cons hpart ?_⟩
    · rw [injectAll, List.foldl_cons, ← injectAll, hafter, hsent, List.append_assoc]
    · rw [injectAll, List.foldl_cons, ← injectAll, hafter, hanswers]
    · rw [accepted_append, withoutFlushes, List.filter_append, List.flatten_cons, ← htaken]
      rfl
    · have hplatform : (injector.inject event).2.mPlatform = injector.mPlatform := by rw [hafter]
      rw [hplatform] at hparts
      exact hparts

theorem initializeInjector_eq_ok {server : XTestServer}
    (hok : (injector.initializeInjector server).1 = .ok ()) :
    ∃ symbols, server.keySymbols = some symbols ∧
      (injector.initializeInjector server).2 = { injector with
        mConnection := some symbols
        answers := server.answers
        sent := [] } := by
  revert hok
  rw [initializeInjector]
  split
  · intro hok
    cases hok
  · split_ifs
    · intro hok
      cases hok
    · split
      · intro hok
        cases hok
      next symbols hsymbols => exact fun _ => ⟨symbols, hsymbols, rfl⟩

/-- Whatever events come after a start and whatever the server refuses, what the server takes
is, event by event and in their order, the first part of what the event asks for, and all of it
where the injector answers with success. Nothing is clicked twice or at another place than the
event's own pixel, and the wheel turns once for each detent. -/
theorem taken_injectAll {server : XTestServer}
    (hok : (injector.initializeInjector server).1 = .ok ()) {events : List InputEvent}
    (hrange : ∀ event ∈ events, WheelInRange event) :
    ∃ symbols parts, server.keySymbols = some symbols ∧
      (injectAll events (injector.initializeInjector server).2).taken = parts.flatten ∧
      List.Forall₂ (Part injector.mPlatform symbols) parts
        (answered events (injector.initializeInjector server).2) := by
  obtain ⟨symbols, hsymbols, hstarted⟩ := initializeInjector_eq_ok hok
  rw [hstarted]
  have hconnected : { injector with
    mConnection := some symbols, answers := server.answers, sent := [] }.mConnection =
      some symbols := rfl
  obtain ⟨made, parts, hsent, hanswers, htaken, hparts⟩ := injectAll_spec hconnected hrange
  refine ⟨symbols, parts, hsymbols, ?_, hparts⟩
  rw [taken, hsent, hanswers]
  exact htaken

def wideDisplay : XcbDisplay :=
  { mScreens := [⟨0, { width := 1920, height := 1080 }⟩,
      ⟨1, { x := 1920, width := 1280, height := 1024 }⟩] }

/-- It refuses its third request. -/
def refusingThird : XTestServer where
  keySymbols := some ⟨fun _ => 0, fun _ => []⟩
  answers sent _ := if sent.length = 2 then some .ioError else none

/-- The press of a click, whose pixel is on the second screen, is refused. -/
def clickAndTurn : List InputEvent :=
  [.mouseButton { x := 5, y := 6, screenIndex := 1, button := .left },
    .mouseWheel { deltaY := 121 }]

theorem taken_injectAll_refusingThird :
    let started := (initializeInjector refusingThird
      { mPlatform := wideDisplay, answers := refusingThird.answers }).2
    (injectAll clickAndTurn started).taken = [.motion 1925 6, .core (.buttonPress 4),
      .core (.buttonRelease 4), .core (.buttonPress 4), .core (.buttonRelease 4)] ∧
    ∃ symbols parts, refusingThird.keySymbols = some symbols ∧
      (injectAll clickAndTurn started).taken = parts.flatten ∧
      List.Forall₂ (Part wideDisplay symbols) parts (answered clickAndTurn started) := by
  refine ⟨by decide +kernel, taken_injectAll (by decide +kernel) ?_⟩
  intro event hmem
  rcases List.mem_pair.mp hmem with rfl | rfl
  · trivial
  · constructor <;> decide

/-! ### What is refused -/

/-- A monitor within the coordinates of the protocol. -/
structure Addressable (info : ScreenInfo) : Prop where
  x : -32768 ≤ info.x
  y : -32768 ≤ info.y
  right : info.x + info.width ≤ 32768
  bottom : info.y + info.height ≤ 32768

theorem place_of_contains {display : XcbDisplay} {screenIndex : Nat} {x y : Int}
    {info : ScreenInfo} (hscreen : (display.mScreens.map (·.screen))[screenIndex]? = some info)
    (haddressable : Addressable info) (hcontains : info.Contains x y) :
    place display screenIndex x y = some (info.x + x, info.y + y) := by
  obtain ⟨hleft, hright, htop, hbottom⟩ := hcontains
  have hx := haddressable.x
  have hy := haddressable.y
  have hwidth := haddressable.right
  have hheight := haddressable.bottom
  rw [List.getElem?_map, Option.map_eq_some_iff] at hscreen
  obtain ⟨screen, hscreen, rfl⟩ := hscreen
  have hfitsX : CheckedIntegers.Fits 32 (screen.screen.x + x) := by
    rw [CheckedIntegers.fits_32]
    omega
  have hfitsY : CheckedIntegers.Fits 32 (screen.screen.y + y) := by
    rw [CheckedIntegers.fits_32]
    omega
  have hglobal : XcbPlatform.localToGlobal display.mScreens screenIndex x y =
      some (some (screen.screen.x + x, screen.screen.y + y)) := by
    rw [XcbPlatform.localToGlobal, hscreen]
    simp only [CheckedIntegers.checked_of_fits hfitsX, CheckedIntegers.checked_of_fits hfitsY]
    rfl
  rw [place, hglobal]
  simp only [Option.join_some, XcbInputCapture.coordinateFits, Bool.and_eq_true,
    decide_eq_true_eq]
  rw [if_pos (by omega)]

/-- The server accepts what the event asks for. -/
def Accepts (injector : XcbInputInjector) (event : InputEvent) : Prop :=
  ∀ symbols, injector.mConnection = some symbols →
    (perform injector.answers (program injector.mPlatform symbols event).requests
      injector.sent).1 = none

/-- Where the server accepts it, an event is refused by the injector itself or not at all. -/
theorem inject_of_accepts (hconnected : injector.mConnection = some symbols) {event : InputEvent}
    (haccepts : Accepts injector event) :
    (injector.inject event).1 = (program injector.mPlatform symbols event).error := by
  obtain ⟨hanswer, -⟩ := runs_injectOne symbols event injector
  have hinject : injector.inject event = injector.injectOne symbols event := by
    rw [inject, hconnected]
  rw [hinject, hanswer, haccepts symbols hconnected]
  rfl

end XcbInputInjector
end Mksync
