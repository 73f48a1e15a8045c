import Mksync.ForwardedInput
import Mksync.XcbDesks
import Mksync.XcbInputInjector

/-!
# The strokes of a client on X11

What the X server of a client takes beside moves of the pointer, and what an event of the
server's X server comes to there.
-/
namespace Mksync

/-! ### The clients' injectors -/

namespace XcbInputInjector

theorem inject_snd (event : InputEvent) (injector : XcbInputInjector) :
    (InputInjector.inject event injector).2 = (injector.inject event).2 := by
  simp only [InputInjector.inject]
  rcases injector.inject event with ⟨_ | error, after⟩ <;> rfl

theorem injectAll_snoc (events : List InputEvent) (event : InputEvent)
    (injector : XcbInputInjector) :
    injectAll (events ++ [event]) injector = ((injectAll events injector).inject event).2 := by
  rw [injectAll, List.foldl_concat]
  rfl

/-- Only what was sent changes. -/
theorem exists_sent_inject (event : InputEvent) (injector : XcbInputInjector) :
    ∃ sent, (injector.inject event).2 = { injector with sent } := by
  rw [inject]
  split
  · exact ⟨injector.sent, rfl⟩
  next symbols _ => exact ⟨_, (runs_injectOne symbols event injector).2⟩

theorem exists_sent_injectAll (events : List InputEvent) (injector : XcbInputInjector) :
    ∃ sent, injectAll events injector = { injector with sent } := by
  induction events generalizing injector with
  | nil => exact ⟨injector.sent, rfl⟩
  | cons event rest ih =>
    obtain ⟨sent, hsent⟩ := exists_sent_inject event injector
    obtain ⟨later, hlater⟩ := ih (injector.inject event).2
    refine ⟨later, ?_⟩
    rw [injectAll, List.foldl_cons, ← injectAll, hlater, hsent]

end XcbInputInjector

/-! ### Strokes -/

/-- The button or the key of a request, if it is one of those. -/
def FakeInput.isStroke : FakeInput → Bool
  | .motion _ _ | .core .flush => false
  | .core (.buttonPress _) | .core (.buttonRelease _) | .key _ _ => true

/-- What the X server of a client took beside moves of the pointer. -/
def XcbInputInjector.strokes (injector : XcbInputInjector) : List FakeInput :=
  injector.taken.filter FakeInput.isStroke

def buttonStroke (button : Nat) (release : Bool) : FakeInput :=
  .core (if release then .buttonRelease button else .buttonPress button)

/-- The buttons 1 to 3 are passed on, 4 to 7 are a press and a release for each press. -/
def buttonStrokes (detail : UInt32) (release : Bool) : List FakeInput :=
  if detail = 1 ∨ detail = 2 ∨ detail = 3 then [buttonStroke detail.toNat release]
  else if 4 ≤ detail ∧ detail ≤ 7 ∧ release = false then
    [buttonStroke detail.toNat false, buttonStroke detail.toNat true]
  else []

/-- An event of the server as strokes of the same buttons and keys. -/
def XEvent.strokes : XEvent → List FakeInput
  | button detail release _ _ => buttonStrokes detail.toUInt32 release
  | rawButton detail release => buttonStrokes detail release
  | key detail release => [.key detail release]
  | rawKey detail release => if detail > 255 then [] else [.key detail.toUInt8 release]
  | error | mappingNotify _ | motionNotify _ _ | rawMotion _ _ | other => []

open XcbInputInjector in
/-- What a deed comes to at an X server with such a keyboard. -/
def Deed.strokes (symbols : Xcb.KeySymbols) : Deed → List FakeInput
  | .button which release => (buttonFor which).toList.map (buttonStroke · release)
  | .wheel deltaX deltaY => turns .vertical deltaY ++ turns .horizontal deltaX
  | .key event => (Xcb.keyCodeFor symbols event).toList.map (.key · event.release)

def Deed.report : Deed → Report
  | .button which release => .button which release
  | .wheel deltaX deltaY => .wheel deltaX deltaY
  | .key event => .key event.nativeCode event.release

namespace XcbInputInjector

theorem strokes_turns (axis : Axis) (delta : Int) :
    (turns axis delta).filter FakeInput.isStroke = turns axis delta := by
  apply List.filter_eq_self.mpr
  intro request hmem
  obtain ⟨turn, hturn, hrequest⟩ := List.mem_flatten.mp hmem
  obtain rfl := List.eq_of_mem_replicate hturn
  rcases List.mem_pair.mp hrequest with rfl | rfl <;> rfl

/-- The strokes that an event asks for are those of its deed. -/
theorem strokes_asked (display : XcbDisplay) (symbols : Xcb.KeySymbols) (event : InputEvent) :
    ((asked display symbols event).filter FakeInput.isStroke).Sublist
      (event.deed?.toList.flatMap (Deed.strokes symbols)) := by
  cases event with
  | mouseMove event =>
    rw [asked]
    cases place display event.screenIndex event.x event.y <;> exact .refl _
  | mouseButton event =>
    rw [asked]
    cases place display event.screenIndex event.x event.y with
    | none => exact List.nil_sublist _
    | some global =>
      rcases event with ⟨x, y, screenIndex, button, release⟩
      cases button <;> cases release <;> exact .refl _
  | mouseWheel event =>
    rw [asked, List.filter_append, strokes_turns, strokes_turns]
    simp [InputEvent.deed?, Deed.strokes]
  | key event =>
    rw [asked]
    cases hcode : Xcb.keyCodeFor symbols event <;>
      simp [InputEvent.deed?, Deed.strokes, hcode, FakeInput.isStroke]

/-- So are those of the parts of many. -/
theorem strokes_parts {display : XcbDisplay} {symbols : Xcb.KeySymbols}
    {events : List InputEvent} {injector : XcbInputInjector} {parts : List (List FakeInput)}
    (h : List.Forall₂ (Part display symbols) parts (answered events injector)) :
    (parts.flatten.filter FakeInput.isStroke).Sublist
      ((events.filterMap InputEvent.deed?).flatMap (Deed.strokes symbols)) := by
  induction events generalizing injector parts with
  | nil =>
    cases h
    exact .slnil
  | cons event rest ih =>
    cases h with
    | cons hpart hparts =>
      have hsplit : ((event :: rest).filterMap InputEvent.deed?).flatMap (Deed.strokes symbols) =
          event.deed?.toList.flatMap (Deed.strokes symbols) ++
            (rest.filterMap InputEvent.deed?).flatMap (Deed.strokes symbols) := by
        cases hdeed : event.deed? <;> simp [hdeed]
      rw [List.flatten_cons, List.filter_append, hsplit]
      have hfirst := (hpart.1.filter FakeInput.isStroke).sublist
      exact (hfirst.trans (strokes_asked display symbols event)).append (ih hparts)

/-- What the X server of an injector took is part of the deeds passed to the injector. -/
theorem strokes_injectAll {fresh : XcbInputInjector} (hnew : fresh.sent = [])
    {symbols : Xcb.KeySymbols} (hconnected : fresh.mConnection = some symbols)
    {events : List InputEvent} (hrange : ∀ event ∈ events, WheelInRange event) :
    (strokes (injectAll events fresh)).Sublist
      ((events.filterMap InputEvent.deed?).flatMap (Deed.strokes symbols)) := by
  obtain ⟨made, parts, hsent, hanswers, htaken, hparts⟩ := injectAll_spec hconnected hrange
  rw [hnew] at hsent htaken
  rw [strokes, taken, hanswers, hsent, List.nil_append, htaken]
  exact strokes_parts hparts

end XcbInputInjector

theorem Deed.report_eq_button {deed : Deed} {which : MouseButton} {release : Bool} :
    .button which release = deed.report ↔ deed = .button which release := by
  cases deed <;> simp [Deed.report, eq_comm]

theorem Deed.report_eq_wheel {deed : Deed} {deltaX deltaY : Int} :
    .wheel deltaX deltaY = deed.report ↔ deed = .wheel deltaX deltaY := by
  cases deed <;> simp [Deed.report, eq_comm]

/-- A button that was told of comes to its own strokes. -/
theorem strokes_of_buttonReport {detail : UInt32} {release : Bool} {deed : Deed}
    (h : buttonReport detail release = some deed.report) (symbols : Xcb.KeySymbols) :
    deed.strokes symbols = buttonStrokes detail release := by
  rw [buttonReport] at h
  split_ifs at h with hleft hmiddle hright hrelease hup hdown hscrollLeft hscrollRight
  · obtain rfl := Deed.report_eq_button.mp (Option.some.inj h)
    rw [hleft]
    rfl
  · obtain rfl := Deed.report_eq_button.mp (Option.some.inj h)
    rw [hmiddle]
    rfl
  · obtain rfl := Deed.report_eq_button.mp (Option.some.inj h)
    rw [hright]
    rfl
  all_goals
    obtain rfl := Deed.report_eq_wheel.mp (Option.some.inj h)
    rw [Bool.eq_false_of_not_eq_true hrelease]
  · rw [hup]
    rfl
  · rw [hdown]
    rfl
  · rw [hscrollLeft]
    rfl
  · rw [hscrollRight]
    rfl

/-- On equal and plain keyboards a deed comes to the strokes that were told of. -/
theorem Deed.strokes_of_plain {symbols : Xcb.KeySymbols} (hplain : symbols.Plain)
    {found : InputEvent} (hkeyed : XcbInputCapture.Keyed [symbols] found) {deed : Deed}
    (hdeed : found.deed? = some deed) {event : XEvent} (hreport : event.report = some deed.report) :
    (deed.strokes symbols).Sublist event.strokes := by
  have hkey : ∀ (keyCode : UInt8) (release : Bool), .key keyCode.toNat release = deed.report →
      (deed.strokes symbols).Sublist [.key keyCode release] := by
    intro keyCode release hsame
    cases found with
    | mouseMove event => cases hdeed
    | mouseButton event =>
      obtain rfl := Option.some.inj hdeed
      cases hsame
    | mouseWheel event =>
      obtain rfl := Option.some.inj hdeed
      cases hsame
    | key event =>
      obtain rfl := Option.some.inj hdeed
      obtain ⟨known, hmem, keyCode', hnative, hkey⟩ := hkeyed
      obtain rfl := List.mem_singleton.mp hmem
      obtain ⟨hcode, rfl⟩ : keyCode.toNat = event.nativeCode ∧ release = event.release := by
        simpa [Deed.report] using hsame
      obtain rfl : keyCode = keyCode' := UInt8.toNat_inj.mp (hcode.trans hnative)
      rw [Deed.strokes, Xcb.keyCodeFor_of_plain hplain hkey hnative]
      split_ifs
      · exact List.nil_sublist _
      · exact .refl _
  cases event with
  | button detail release rootX rootY =>
    rw [strokes_of_buttonReport hreport symbols]
    exact .refl _
  | rawButton detail release =>
    rw [strokes_of_buttonReport hreport symbols]
    exact .refl _
  | key detail release => exact hkey detail release (Option.some.inj hreport)
  | rawKey detail release =>
    rw [XEvent.report] at hreport
    rw [XEvent.strokes]
    split_ifs at hreport ⊢
    exact hkey detail.toUInt8 release (Option.some.inj hreport)
  | motionNotify rootX rootY => cases deed <;> cases hreport
  | rawMotion mask values => cases deed <;> cases hreport
  | _ => cases hreport

/-- Where the raw events count, no core one does. -/
theorem XEvent.report_of_pending {event : XEvent} {rawDuringGrab : Bool} {report : Report}
    (h : event.pending rawDuringGrab = some report) : event.report = some report := by
  rw [XEvent.pending] at h
  split_ifs at h
  exact h

end Mksync
