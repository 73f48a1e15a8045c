import Mksync.TransitionRuns
import Mksync.XcbSessions

/-!
# Captured once on X11

Outside a grab the X server reports the devices by raw events. During a grab it sends core
events as well, and an older server keeps the raw ones back. The capture reads one of the two:
whatever the server sends, each event that it is to read is captured once.
-/
namespace Mksync

open TransitionRuns

/-- What a captured event says of the devices, without the place and the modifiers, which are
read from the server later. -/
inductive Report
  | motion
  | button (button : MouseButton) (release : Bool)
  | wheel (deltaX deltaY : Int)
  | key (nativeCode : Nat) (release : Bool)
  deriving DecidableEq, Repr

def InputEvent.report : InputEvent → Report
  | .mouseMove _ => .motion
  | .mouseButton event => .button event.button event.release
  | .mouseWheel event => .wheel event.deltaX event.deltaY
  | .key event => .key event.nativeCode event.release

/-- Three buttons are told apart, four scroll by their press, and the others are not known. -/
def buttonReport (detail : UInt32) (release : Bool) : Option Report :=
  if detail = 1 then some (.button .left release)
  else if detail = 2 then some (.button .middle release)
  else if detail = 3 then some (.button .right release)
  else if release then none
  else if detail = 4 then some (.wheel 0 120)
  else if detail = 5 then some (.wheel 0 (-120))
  else if detail = 6 then some (.wheel (-120) 0)
  else if detail = 7 then some (.wheel 120 0)
  else none

namespace XEvent

def isCore : XEvent → Bool
  | motionNotify .. | button .. | key .. => true
  | _ => false

/-- The place of the event is asked for. -/
def asksPointer : XEvent → Bool
  | rawMotion .. | rawButton .. => true
  | _ => false

def report : XEvent → Option Report
  | motionNotify .. | rawMotion .. => some .motion
  | button detail release _ _ => buttonReport detail.toUInt32 release
  | rawButton detail release => buttonReport detail release
  | key detail release => some (.key detail.toNat release)
  | rawKey detail release => if detail > 255 then none else some (.key detail.toUInt8.toNat release)
  | error | mappingNotify _ | other => none

/-- What an event is to be taken for: where the raw ones come during a grab, the core ones are
not read. -/
def pending (rawDuringGrab : Bool) (event : XEvent) : Option Report :=
  if event.isCore && rawDuringGrab then none else event.report

theorem filterMap_pending_cons (rawDuringGrab : Bool) (event : XEvent) (queue : List XEvent) :
    (event :: queue).filterMap (·.pending rawDuringGrab) =
      (event.pending rawDuringGrab).toList ++ queue.filterMap (·.pending rawDuringGrab) := by
  cases hpending : event.pending rawDuringGrab <;> simp [hpending]

end XEvent

/-- The capture with the events that wait in its connection. -/
structure XcbSeat (S : Type) where
  capture : XcbInputCapture S
  queue : List XEvent := []
  /-- History: what the server sent. Read by no function. -/
  received : List XEvent := []
  /-- History: what the capture returned. Read by no function. -/
  captured : List InputEvent := []

namespace XcbSeat

variable {S : Type} [XServer S]

/-- The server sends what it likes. -/
inductive Action
  | arrives (event : XEvent)
  | write (count : Nat)
  | lose (error : ConnectionError)
  | setRemoteControlActive (active : Bool)
  | moveLocalCursor (screenIndex : Nat) (x y : Int)
  | read

def rawDuringGrab (seat : XcbSeat S) : Bool := seat.capture.mPlatform.mRawEventsDuringGrab

def arrives (event : XEvent) (seat : XcbSeat S) : XcbSeat S :=
  { seat with
    queue := seat.queue ++ [event]
    received := seat.received ++ [event] }

/-- The events of a lost connection are not handed out. -/
def stands (seat : XcbSeat S) : Bool :=
  seat.capture.mConnection.any fun connection => connection.error.isNone

/-- `nextEvent` takes the oldest event and goes on while it translates to none. -/
def read (seat : XcbSeat S) : Option (XcbSeat S) :=
  match seat.queue with
  | [] => none
  | event :: queue =>
    if !seat.stands then none
    else
      let translated := seat.capture.translateEvent event
      some { seat with
        capture := translated.2
        queue := queue
        captured := seat.captured ++ translated.1.toList }

def step (seat : XcbSeat S) : Action → Option (XcbSeat S)
  | .arrives event => some (seat.arrives event)
  | .write count => some { seat with
      capture := XcbInputCapture.onSignal (.write count) seat.capture }
  | .lose error => some { seat with
      capture := XcbInputCapture.onSignal (.lose error) seat.capture }
  | .setRemoteControlActive active => some { seat with
      capture := (seat.capture.setRemoteControlActive active).2 }
  | .moveLocalCursor screenIndex x y => some { seat with
      capture := (seat.capture.moveLocalCursor screenIndex x y).2 }
  | .read => seat.read

/-- The server tells the place of a read event that does not name it, and a core event of an
older server is read while the mode is on that it was sent for. -/
def Attended (seat : XcbSeat S) : Action → XcbSeat S → Prop
  | .read, _ => ∀ event ∈ seat.queue.head?,
      (event.asksPointer = true → seat.capture.queryPointer.1.isSome = true) ∧
      (event.isCore = true →
        seat.rawDuringGrab = true ∨ seat.capture.mRemoteControlActive = true)
  | _, _ => True

instance : ∀ (seat : XcbSeat S) (a : Action) (seat' : XcbSeat S), Decidable (Attended seat a seat')
  | seat, .read, _ => inferInstanceAs (Decidable (∀ event ∈ seat.queue.head?, _ ∧ _))
  | _, .arrives _, _ | _, .write _, _ | _, .lose _, _ | _, .setRemoteControlActive _, _
  | _, .moveLocalCursor .., _ => .isTrue trivial

end XcbSeat

/-! ### The place of an event -/

namespace XcbPlatform

variable {mScreens : List XcbScreen}

theorem exists_bestScreen (hrects : ∀ screen ∈ mScreens, IsX11Rect screen.screen) {x y : Int32}
    (hx : -32768 ≤ x.toInt ∧ x.toInt ≤ 98302) (hy : -32768 ≤ y.toInt ∧ y.toInt ≤ 98302)
    (best : XcbScreen) (bestDistance : Int) :
    ∃ screen ∈ best :: mScreens,
      bestScreen x.toInt y.toInt mScreens best bestDistance = some screen := by
  induction mScreens generalizing best bestDistance with
  | nil => exact ⟨best, List.mem_cons_self, rfl⟩
  | cons first rest ih =>
    obtain ⟨hfirst, hrest⟩ := List.forall_mem_cons.mp hrects
    have hfits := (fits_closedDistance hfirst hx hy).1
    rw [bestScreen_cons hfirst, CheckedIntegers.checked_of_fits hfits, Option.bind_some]
    split_ifs
    · exact ⟨first, by simp, rfl⟩
    · obtain ⟨screen, hmem, hscreen⟩ := ih hrest first _
      exact ⟨screen, List.mem_cons_of_mem best hmem, hscreen⟩
    · obtain ⟨screen, hmem, hscreen⟩ := ih hrest best bestDistance
      refine ⟨screen, ?_, hscreen⟩
      rcases List.mem_cons.mp hmem with rfl | hlater
      · exact List.mem_cons_self
      · exact List.mem_cons_of_mem best (List.mem_cons_of_mem first hlater)

/-- A point of the protocol has a place. -/
theorem globalToScreen_isSome (hrects : ∀ screen ∈ mScreens, IsX11Rect screen.screen)
    (x y : Int16) : (globalToScreen mScreens x.toInt32 y.toInt32).isSome := by
  have hx := x.le_toInt
  have hx' := x.toInt_lt
  have hy := y.le_toInt
  have hy' := y.toInt_lt
  cases mScreens with
  | nil => rfl
  | cons front rest =>
    obtain ⟨screen, hmem, hscreen⟩ := exists_bestScreen (x := x.toInt32) (y := y.toInt32) hrects
      (by rw [Int16.toInt_toInt32]; omega) (by rw [Int16.toInt_toInt32]; omega) front
      9223372036854775807
    have hscreens : screen ∈ front :: rest := by
      rcases List.mem_cons.mp hmem with rfl | hlater
      · exact List.mem_cons_self
      · exact hlater
    obtain ⟨-, hlocalX, hlocalY⟩ := fits_closedDistance (hrects screen hscreens)
      (x := x.toInt32.toInt) (y := y.toInt32.toInt) (by rw [Int16.toInt_toInt32]; omega)
      (by rw [Int16.toInt_toInt32]; omega)
    rw [globalToScreen]
    simp only [hscreen, CheckedIntegers.checked_of_fits hlocalX,
      CheckedIntegers.checked_of_fits hlocalY, Option.bind_eq_bind, Option.bind_some]
    rfl

end XcbPlatform

namespace XcbInputCapture

variable {S : Type} [XServer S] {capture capture' : XcbInputCapture S} {event : XEvent}

/-! ### What a read event is taken for -/

/-- What the capture needs to translate at all: its keyboard mapping, and monitors as the
protocol has them. -/
structure Translating (capture : XcbInputCapture S) : Prop where
  symbols : capture.mKeySymbols.isSome = true
  rects : ∀ screen ∈ capture.mPlatform.mScreens, XcbPlatform.IsX11Rect screen.screen

omit [XServer S] in
theorem Translating.of_session (h : Translating capture)
    (hsession : capture'.session = capture.session) : Translating capture' := by
  obtain ⟨hplatform, hsymbols⟩ := Prod.mk.inj hsession
  constructor
  · rw [hsymbols]
    exact h.symbols
  · rw [hplatform]
    exact h.rects

omit [XServer S] in
theorem Translating.exists_place (h : Translating capture) (x y : Int16) :
    ∃ place, capture.globalToScreen x y = some place :=
  Option.isSome_iff_exists.mp (XcbPlatform.globalToScreen_isSome h.rects x y)

/-- A button is taken for what it is, wherever the pointer is. -/
theorem buttonEvent_report (detail : UInt32) (release : Bool) (screenIndex : Nat) (x y : Int) :
    (buttonEvent detail release screenIndex x y).map InputEvent.report =
      buttonReport detail release := by
  have hthree : 1 ≤ detail ∧ detail ≤ 3 ↔ detail = 1 ∨ detail = 2 ∨ detail = 3 := by
    simp only [UInt32.le_iff_toNat_le, ← UInt32.toNat_inj]
    simp
    omega
  have hfour : 4 ≤ detail ∧ detail ≤ 7 ↔
      detail = 4 ∨ detail = 5 ∨ detail = 6 ∨ detail = 7 := by
    simp only [UInt32.le_iff_toNat_le, ← UInt32.toNat_inj]
    simp
    omega
  simp only [buttonEvent, hthree]
  rcases em (detail = 1 ∨ detail = 2 ∨ detail = 3) with hbutton | hbutton
  · rw [if_pos hbutton]
    rcases hbutton with rfl | rfl | rfl <;> rfl
  · obtain ⟨hone, htwo, hthird⟩ : detail ≠ 1 ∧ detail ≠ 2 ∧ detail ≠ 3 := by tauto
    rw [if_neg hbutton, buttonReport, if_neg hone, if_neg htwo, if_neg hthird]
    rcases em (detail = 4 ∨ detail = 5 ∨ detail = 6 ∨ detail = 7) with hwheel | hwheel
    · rcases hwheel with rfl | rfl | rfl | rfl <;> cases release <;> rfl
    · obtain ⟨hup, hdown, hleft, hright⟩ :
          detail ≠ 4 ∧ detail ≠ 5 ∧ detail ≠ 6 ∧ detail ≠ 7 := by tauto
      rw [if_neg (by tauto), if_neg hup, if_neg hdown, if_neg hleft, if_neg hright, ite_self]
      rfl

/-- A button is placed by its event or by the server. -/
theorem Translating.translateButton_report (h : Translating capture) {detail : UInt32}
    {release : Bool} {rootPoint : Option (Int16 × Int16)}
    (hpointer : rootPoint = none → capture.queryPointer.1.isSome = true) :
    (capture.translateButton detail release rootPoint).1.map InputEvent.report =
      buttonReport detail release := by
  have hplace : ∃ place, (capture.screenLocalPoint rootPoint).1 = some place := by
    cases rootPoint with
    | some point => exact h.exists_place point.1 point.2
    | none =>
      obtain ⟨point, hpoint⟩ := Option.isSome_iff_exists.mp (hpointer rfl)
      have hlater := h.of_session (session_queryPointer capture)
      obtain ⟨place, hplace⟩ := hlater.exists_place point.1 point.2
      refine ⟨place, ?_⟩
      simp only [screenLocalPoint, hpoint, Option.bind_some]
      exact hplace
  obtain ⟨⟨screenIndex, x, y⟩, hplace⟩ := hplace
  simp only [translateButton, hplace, Option.bind_some]
  exact buttonEvent_report detail release screenIndex x y

theorem Translating.translateKey_report (h : Translating capture) (keyCode : UInt8)
    (release : Bool) : (capture.translateKey keyCode release).1.map InputEvent.report =
      some (.key keyCode.toNat release) := by
  obtain ⟨symbols, hsymbols⟩ := Option.isSome_iff_exists.mp h.symbols
  rw [translateKey, hsymbols]
  rfl

theorem translateRawEvent_of_isCore (hcore : event.isCore = true) (capture : XcbInputCapture S) :
    capture.translateRawEvent event = (none, capture) := by
  cases event with
  | motionNotify rootX rootY => rfl
  | button detail release rootX rootY => rfl
  | key detail release => rfl
  | _ => cases hcore

theorem translateCoreEvent_of_not_isCore (hcore : event.isCore = false)
    (capture : XcbInputCapture S) : capture.translateCoreEvent event = (none, capture) := by
  cases event with
  | motionNotify rootX rootY => cases hcore
  | button detail release rootX rootY => cases hcore
  | key detail release => cases hcore
  | _ => rfl

theorem Translating.translateRawEvent_report (h : Translating capture)
    (hcore : event.isCore = false)
    (hpointer : event.asksPointer = true → capture.queryPointer.1.isSome = true) :
    (capture.translateRawEvent event).1.map InputEvent.report = event.report := by
  cases event with
  | rawMotion mask values =>
    obtain ⟨point, hpoint⟩ := Option.isSome_iff_exists.mp (hpointer rfl)
    have hlater := h.of_session (session_queryPointer capture)
    obtain ⟨place, hplace⟩ := hlater.exists_place point.1 point.2
    simp only [translateRawEvent, hpoint, Option.bind_some, hplace]
    rfl
  | rawButton detail release => exact h.translateButton_report fun _ => hpointer rfl
  | rawKey detail release =>
    have hkey := h.translateKey_report detail.toUInt8 release
    rw [translateRawEvent, XEvent.report]
    split_ifs
    · rfl
    · exact hkey
  | motionNotify rootX rootY => cases hcore
  | button detail release rootX rootY => cases hcore
  | key detail release => cases hcore
  | _ => rfl

theorem Translating.translateCoreEvent_report (h : Translating capture)
    (hcore : event.isCore = true) :
    (capture.translateCoreEvent event).1.map InputEvent.report = event.report := by
  cases event with
  | motionNotify rootX rootY =>
    obtain ⟨place, hplace⟩ := h.exists_place rootX rootY
    simp only [translateCoreEvent, translateCoreMouseMove, hplace]
    rfl
  | button detail release rootX rootY => exact h.translateButton_report fun hnone => by cases hnone
  | key detail release => exact h.translateKey_report detail release
  | _ => cases hcore

/-- A read event is taken for what it waited for. -/
theorem Translating.translateEvent_report (h : Translating capture)
    (hpointer : event.asksPointer = true → capture.queryPointer.1.isSome = true)
    (hmode : event.isCore = true →
      capture.mPlatform.mRawEventsDuringGrab = true ∨ capture.mRemoteControlActive = true) :
    (capture.translateEvent event).1.map InputEvent.report =
      event.pending capture.mPlatform.mRawEventsDuringGrab := by
  have hinput : (capture.translateInput event).1.map InputEvent.report =
      event.pending capture.mPlatform.mRawEventsDuringGrab := by
    rw [translateInput, XEvent.pending]
    cases hcore : event.isCore with
    | false =>
      have hraw := h.translateRawEvent_report hcore hpointer
      rw [translateCoreEvent_of_not_isCore hcore, Bool.false_and, if_neg Bool.false_ne_true]
      split_ifs
      · exact hraw
      · exact hraw
    | true =>
      rw [translateRawEvent_of_isCore hcore, Bool.true_and]
      cases hduring : capture.mPlatform.mRawEventsDuringGrab with
      | true => simp
      | false =>
        have hactive : capture.mRemoteControlActive = true := by
          rcases hmode hcore with hraw | hactive
          · exact absurd (hduring.symm.trans hraw) (by simp)
          · exact hactive
        have hreport := h.translateCoreEvent_report hcore
        simp only [hactive, Bool.not_false, Bool.and_self, if_true, Bool.false_eq_true, if_false]
        rcases hresult : capture.translateCoreEvent event with ⟨_ | core, after⟩
        · -- what is no report by its core event is none by a raw one either
          rw [hresult] at hreport
          dsimp only
          rw [translateRawEvent_of_isCore hcore]
          exact hreport
        · rw [hresult] at hreport
          exact hreport
  cases event with
  | error => rfl
  | mappingNotify symbols => rfl
  | _ => exact hinput

end XcbInputCapture

namespace XcbSeat

open XcbInputCapture

variable {S : Type} [XServer S] {seat seat' : XcbSeat S} {a : Action}

/-- What was captured with what waits is what was sent. -/
structure Intact (seat : XcbSeat S) : Prop where
  translating : Translating seat.capture
  once : seat.captured.map InputEvent.report ++
      seat.queue.filterMap (·.pending seat.rawDuringGrab) =
    seat.received.filterMap (·.pending seat.rawDuringGrab)

omit [XServer S] in
theorem Intact.arrives (h : Intact seat) (event : XEvent) : Intact (seat.arrives event) := by
  refine ⟨h.translating, ?_⟩
  show seat.captured.map InputEvent.report ++
      (seat.queue ++ [event]).filterMap (·.pending seat.rawDuringGrab) =
    (seat.received ++ [event]).filterMap (·.pending seat.rawDuringGrab)
  rw [List.filterMap_append, List.filterMap_append, ← List.append_assoc, h.once]

omit [XServer S] in
/-- A call keeps what waits. -/
theorem Intact.called (h : Intact seat) {capture : XcbInputCapture S}
    (hsession : capture.session = seat.capture.session) : Intact { seat with capture } := by
  have hplatform : capture.mPlatform = seat.capture.mPlatform := (Prod.mk.inj hsession).1
  refine ⟨h.translating.of_session hsession, ?_⟩
  rw [rawDuringGrab, hplatform]
  exact h.once

theorem Intact.read (h : Intact seat) (hattended : Attended seat .read seat')
    (hread : seat.read = some seat') : Intact seat' := by
  rw [XcbSeat.read] at hread
  split at hread
  · cases hread
  next event queue hqueue =>
    split_ifs at hread
    obtain rfl := Option.some.inj hread
    obtain ⟨hpointer, hmode⟩ := hattended event (by rw [hqueue]; rfl)
    have hreport := h.translating.translateEvent_report hpointer hmode
    obtain ⟨hplatform, hsymbols⟩ := translateEvent_session event seat.capture
    have honce := h.once
    rw [hqueue, XEvent.filterMap_pending_cons] at honce
    refine ⟨⟨hsymbols.trans h.translating.symbols, ?_⟩, ?_⟩
    · rw [hplatform]
      exact h.translating.rects
    · rw [rawDuringGrab, hplatform, ← rawDuringGrab]
      rw [← honce, List.map_append, List.append_assoc]
      have htaken : (seat.capture.translateEvent event).1.toList.map InputEvent.report =
          (event.pending seat.rawDuringGrab).toList := by
        rw [rawDuringGrab, ← hreport]
        cases (seat.capture.translateEvent event).1 <;> rfl
      rw [htaken]

theorem Intact.step (h : Intact seat) (hattended : Attended seat a seat')
    (hs : step seat a = some seat') : Intact seat' := by
  cases a with
  | arrives event =>
    obtain rfl := Option.some.inj hs
    exact h.arrives event
  | write count =>
    obtain rfl := Option.some.inj hs
    exact h.called (session_onConnection () _ seat.capture)
  | lose error =>
    obtain rfl := Option.some.inj hs
    exact h.called (session_onConnection () _ seat.capture)
  | setRemoteControlActive active =>
    obtain rfl := Option.some.inj hs
    exact h.called (session_setRemoteControlActive active seat.capture)
  | moveLocalCursor screenIndex x y =>
    obtain rfl := Option.some.inj hs
    exact h.called (session_moveLocalCursor screenIndex x y seat.capture)
  | read => exact h.read hattended hs

/-- What a successful start leaves. -/
theorem intact_initialized {capture : XcbInputCapture S} {opening : XcbOpening S}
    (hrects : ∀ screen ∈ capture.mPlatform.mScreens, XcbPlatform.IsX11Rect screen.screen)
    (hok : (capture.initializeCapture opening).1 = .ok ()) :
    Intact { capture := (capture.initializeCapture opening).2 } := by
  refine ⟨?_, rfl⟩
  have hclosed := platform_closeConnection capture
  show Translating (capture.initializeCapture opening).2
  revert hok
  rw [initializeCapture]
  dsimp only
  split
  · intro hok
    cases hok
  next server _ =>
    have hselected := platform_selectRawInput
      { capture.closeConnection with mConnection := some { server } }
    split
    · intro hok
      cases hok
    next selected hselect =>
      rw [hselect] at hselected
      have hplatform : selected.mPlatform = capture.mPlatform := hselected.trans hclosed
      split
      · intro hok
        cases hok
      · split_ifs
        · intro hok
          cases hok
        · rw [← hplatform] at hrects
          exact fun _ => ⟨rfl, hrects⟩

/-- In every run, whatever the server sends and answers and whenever the mode changes: what was
captured, followed by what the waiting events are to be taken for, is what the server sent. No
event is captured twice, lost or out of order, whether its server sends raw events during a grab
or not. -/
theorem captured_once {capture : XcbInputCapture S} {opening : XcbOpening S} {as : List Action}
    (hrects : ∀ screen ∈ capture.mPlatform.mScreens, XcbPlatform.IsX11Rect screen.screen)
    (hok : (capture.initializeCapture opening).1 = .ok ())
    (h : Run step Attended { capture := (capture.initializeCapture opening).2 } as seat) :
    seat.captured.map InputEvent.report ++ seat.queue.filterMap (·.pending seat.rawDuringGrab) =
      seat.received.filterMap (·.pending seat.rawDuringGrab) := by
  have hintact : Intact seat := by
    refine h.invariant Intact ?_ (intact_initialized hrects hok)
    intro before a after hbefore hattended hnext
    exact hbefore.step hattended hnext
  exact hintact.once

def plainKeyboard : Xcb.KeySymbols := ⟨fun _ => Xcb.XK_a, fun _ => []⟩

def keyboardOpening : XcbOpening GrantingXServer := GrantingXServer.opening plainKeyboard 0 0

def olderCapture : XcbInputCapture GrantingXServer :=
  { mPlatform := { mRawEventsDuringGrab := false } }

/-- On an older server: a key at home, then a click and a turn of the wheel in remote mode. -/
def typedAndClicked : List Action :=
  [.arrives (.rawKey 38 false), .read, .setRemoteControlActive true,
    .arrives (.motionNotify 4 2), .arrives (.button 1 false 4 2), .arrives (.key 38 true),
    .arrives (.button 5 false 4 2), .arrives .other, .read, .read, .read, .read, .read,
    .setRemoteControlActive false]

theorem captured_once_older : ∃ seat : XcbSeat GrantingXServer,
    Run step Attended { capture := (olderCapture.initializeCapture keyboardOpening).2 }
      typedAndClicked seat ∧
    seat.captured.map InputEvent.report =
      [.key 38 false, .motion, .button .left false, .key 38 true, .wheel 0 (-120)] ∧
    seat.captured.map InputEvent.report ++ seat.queue.filterMap (·.pending seat.rawDuringGrab) =
      seat.received.filterMap (·.pending seat.rawDuringGrab) := by
  obtain ⟨seat, hrun, hcaptured⟩ := exists_run_of_execute step
    (fun seat a seat' => decide (Attended seat a seat'))
    { capture := (olderCapture.initializeCapture keyboardOpening).2 } typedAndClicked
    (fun seat => seat.captured.map InputEvent.report =
      [.key 38 false, .motion, .button .left false, .key 38 true, .wheel 0 (-120)])
    (fun _ _ _ hcheck => of_decide_eq_true hcheck) (by decide +kernel)
  refine ⟨seat, hrun, of_decide_eq_true hcaptured, ?_⟩
  exact captured_once (by simp [olderCapture]) (by decide +kernel) hrun

end XcbSeat
end Mksync
