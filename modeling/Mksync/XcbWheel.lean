import Mksync.InputEvents
import Mathlib.Algebra.BigOperators.Group.List.Basic
import Mathlib.Algebra.Order.Group.Unbundled.Abs
import Mathlib.Algebra.BigOperators.Group.List.Lemmas
import Mathlib.Algebra.Order.Ring.Int
import Mathlib.Tactic.Ring

/-!
# Scrolling on X11

The core protocol scrolls by clicks of the buttons 4 to 7, a whole notch each. The injector
turns each event into clicks by itself and rounds away from zero, so what the rounding adds
is never given back.
-/
namespace Mksync
namespace XcbInputInjector

variable {ε : Type}

inductive Request
  | buttonPress (button : Nat)
  | buttonRelease (button : Nat)
  | flush
  deriving DecidableEq, Repr

/-- The server's answer to a request after the ones already sent, `none` is success. -/
abbrev Answers (ε : Type) := List Request → Request → Option ε

/-- The state of the connection is what was sent on it. -/
def request (answers : Answers ε) (next : Request) (sent : List Request) :
    Option ε × List Request :=
  (answers sent next, sent ++ [next])

def fakeButton (answers : Answers ε) (button : Nat) (press : Bool) :
    List Request → Option ε × List Request :=
  request answers (if press then .buttonPress button else .buttonRelease button)

def fakeButtonClick (answers : Answers ε) (button : Nat) :
    Nat → List Request → Option ε × List Request
  | 0, sent => request answers .flush sent
  | count + 1, sent =>
    match fakeButton answers button true sent with
    | (some error, sent) => (some error, sent)
    | (none, sent) =>
      match fakeButton answers button false sent with
      | (some error, sent) => (some error, sent)
      | (none, sent) => fakeButtonClick answers button count sent

/-- In `uint32_t`; the magnitude is `std::abs`, which the least `int32` does not have. -/
def wheelClickCount (delta : Int) : Nat :=
  let magnitude := delta.natAbs
  max 1 ((magnitude + 119) % 4294967296 / 120)

/-- The vertical part of `injectOne (MouseWheelEvent)`. -/
def injectVertical (answers : Answers ε) (event : MouseWheelEvent) (sent : List Request) :
    Option ε × List Request :=
  if event.deltaY > 0 then fakeButtonClick answers 4 (wheelClickCount event.deltaY) sent
  else if event.deltaY < 0 then fakeButtonClick answers 5 (wheelClickCount event.deltaY) sent
  else (none, sent)

def injectHorizontal (answers : Answers ε) (event : MouseWheelEvent) (sent : List Request) :
    Option ε × List Request :=
  if event.deltaX < 0 then fakeButtonClick answers 6 (wheelClickCount event.deltaX) sent
  else if event.deltaX > 0 then fakeButtonClick answers 7 (wheelClickCount event.deltaX) sent
  else (none, sent)

def injectWheel (answers : Answers ε) (event : MouseWheelEvent) (sent : List Request) :
    Option ε × List Request :=
  match injectVertical answers event sent with
  | (some error, sent) => (some error, sent)
  | (none, sent) => injectHorizontal answers event sent

/-- The requests of a sequence of events, each injected whatever became of the ones before. -/
def injectWheels (answers : Answers ε) (events : List MouseWheelEvent) (sent : List Request) :
    List Request :=
  events.foldl (fun sent event => (injectWheel answers event sent).2) sent

/-! ### The two axes -/

inductive Axis
  | vertical | horizontal
  deriving DecidableEq, Repr

namespace Axis

def delta : Axis → MouseWheelEvent → Int
  | vertical, event => event.deltaY
  | horizontal, event => event.deltaX

/-- The button that scrolls towards positive deltas. -/
def positive : Axis → Nat
  | vertical => 4
  | horizontal => 7

def negative : Axis → Nat
  | vertical => 5
  | horizontal => 6

end Axis

/-- The clicks of a button: each is pressed once. -/
def clicks (button : Nat) (sent : List Request) : Nat := sent.count (.buttonPress button)

/-- The clicks towards positive without the ones towards negative. -/
def netClicks (axis : Axis) (sent : List Request) : Int :=
  clicks axis.positive sent - clicks axis.negative sent

/-- What a delta lacks to the next whole notch away from zero. -/
def excess (delta : Int) : Int :=
  if delta < 0 then -(delta % 120) else -delta % 120

/-- Any `int32` but the least one, which has no magnitude. -/
structure InRange (event : MouseWheelEvent) : Prop where
  deltaX : event.deltaX.natAbs ≤ 2147483647
  deltaY : event.deltaY.natAbs ≤ 2147483647

/-- The whole notches of one delta. -/
theorem wheelClickCount_eq {delta : Int} (h : delta.natAbs ≤ 2147483647) (hne : delta ≠ 0) :
    (120 * wheelClickCount delta : Int) = delta.natAbs + (excess delta).natAbs := by
  have hsmall : (delta.natAbs + 119) % 4294967296 = delta.natAbs + 119 := by omega
  simp only [wheelClickCount, hsmall, excess]
  split_ifs <;> omega

/-! ### What one event sends -/

@[simp] theorem clicks_append (button : Nat) (sent more : List Request) :
    clicks button (sent ++ more) = clicks button sent + clicks button more :=
  List.count_append

@[simp] theorem netClicks_append (axis : Axis) (sent more : List Request) :
    netClicks axis (sent ++ more) = netClicks axis sent + netClicks axis more := by
  simp only [netClicks, clicks_append]
  omega

/-- All requests succeed. -/
def Succeeds (answers : Answers ε) : Prop := ∀ sent next, answers sent next = none

/-- The requests of `fakeButtonClick`. -/
def clickRequests (button count : Nat) : List Request :=
  (List.replicate count [.buttonPress button, .buttonRelease button]).flatten ++ [.flush]

/-- The requests of one axis. -/
def axisRequests (axis : Axis) (delta : Int) : List Request :=
  if delta > 0 then clickRequests axis.positive (wheelClickCount delta)
  else if delta < 0 then clickRequests axis.negative (wheelClickCount delta)
  else []

theorem fakeButtonClick_eq {answers : Answers ε} (h : Succeeds answers) (button count : Nat)
    (sent : List Request) :
    fakeButtonClick answers button count sent = (none, sent ++ clickRequests button count) := by
  induction count generalizing sent with
  | zero => simp [fakeButtonClick, request, h sent, clickRequests]
  | succ count ih =>
    simp [fakeButtonClick, fakeButton, request, h _ _, ih, clickRequests, List.replicate_succ]

theorem injectWheel_eq {answers : Answers ε} (h : Succeeds answers) (event : MouseWheelEvent)
    (sent : List Request) :
    injectWheel answers event sent = (none, sent ++ (axisRequests .vertical event.deltaY ++
      axisRequests .horizontal event.deltaX)) := by
  have hvertical : injectVertical answers event sent =
      (none, sent ++ axisRequests .vertical event.deltaY) := by
    unfold injectVertical axisRequests
    split_ifs <;> simp [fakeButtonClick_eq h, Axis.positive, Axis.negative]
  have hhorizontal : ∀ sent, injectHorizontal answers event sent =
      (none, sent ++ axisRequests .horizontal event.deltaX) := by
    intro sent
    unfold injectHorizontal axisRequests
    split_ifs <;> first
      | omega
      | simp [fakeButtonClick_eq h, Axis.positive, Axis.negative]
  simp only [injectWheel, hvertical, hhorizontal, List.append_assoc]

theorem clicks_clickRequests (button other count : Nat) :
    clicks button (clickRequests other count) = if other = button then count else 0 := by
  have hpair : List.count (Request.buttonPress button)
      [.buttonPress other, .buttonRelease other] = if other = button then 1 else 0 := by
    simp [List.count_cons]
  rw [clicks, clickRequests, List.count_append, List.count_flatten, List.map_replicate, hpair,
    List.sum_replicate]
  split_ifs <;> simp

/-- The buttons of an axis scroll no other one. -/
theorem netClicks_positive (axis other : Axis) (count : Nat) :
    netClicks axis (clickRequests other.positive count) =
      if other = axis then (count : Int) else 0 := by
  simp only [netClicks, clicks_clickRequests]
  cases axis <;> cases other <;> simp [Axis.positive, Axis.negative]

theorem netClicks_negative (axis other : Axis) (count : Nat) :
    netClicks axis (clickRequests other.negative count) =
      if other = axis then -(count : Int) else 0 := by
  simp only [netClicks, clicks_clickRequests]
  cases axis <;> cases other <;> simp [Axis.positive, Axis.negative]

theorem netClicks_axisRequests (axis other : Axis) {delta : Int}
    (h : delta.natAbs ≤ 2147483647) :
    120 * netClicks axis (axisRequests other delta) =
      if other = axis then delta + excess delta else 0 := by
  unfold axisRequests
  split_ifs with hpositive hsame hnegative hsame hsame
  · have hcount := wheelClickCount_eq h (by omega)
    rw [netClicks_positive, if_pos hsame, hcount, excess, if_neg (by omega)]
    omega
  · rw [netClicks_positive, if_neg hsame, mul_zero]
  · have hcount := wheelClickCount_eq h (by omega)
    rw [netClicks_negative, if_pos hsame, mul_neg, hcount, excess, if_pos hnegative]
    omega
  · rw [netClicks_negative, if_neg hsame, mul_zero]
  · obtain rfl : delta = 0 := by omega
    simp [netClicks, clicks, excess]
  · simp [netClicks, clicks]

/-- One event scrolls each axis by its delta and the excess. -/
theorem netClicks_injectWheel {answers : Answers ε} (h : Succeeds answers)
    {event : MouseWheelEvent} (hrange : InRange event) (axis : Axis) (sent : List Request) :
    120 * netClicks axis (injectWheel answers event sent).2 =
      120 * netClicks axis sent + (axis.delta event + excess (axis.delta event)) := by
  have hvertical := netClicks_axisRequests axis .vertical hrange.deltaY
  have hhorizontal := netClicks_axisRequests axis .horizontal hrange.deltaX
  rw [injectWheel_eq h, netClicks_append, netClicks_append, mul_add, mul_add, hvertical,
    hhorizontal]
  cases axis <;> simp [Axis.delta]

/-! ### A sequence of events -/

/-- The sum of the deltas on one axis. -/
def total (axis : Axis) (events : List MouseWheelEvent) : Int := (events.map axis.delta).sum

/-- What the deltas lack to whole notches, with the sign of each. -/
def totalExcess (axis : Axis) (events : List MouseWheelEvent) : Int :=
  (events.map fun event => excess (axis.delta event)).sum

theorem netClicks_injectWheels {answers : Answers ε} (h : Succeeds answers)
    {events : List MouseWheelEvent} (hrange : ∀ event ∈ events, InRange event) (axis : Axis)
    (sent : List Request) :
    120 * netClicks axis (injectWheels answers events sent) =
      120 * netClicks axis sent + (total axis events + totalExcess axis events) := by
  induction events generalizing sent with
  | nil => simp [injectWheels, total, totalExcess]
  | cons event rest ih =>
    obtain ⟨hevent, hrest⟩ := List.forall_mem_cons.mp hrange
    have hstep := netClicks_injectWheel h hevent axis sent
    have hloop := ih hrest (injectWheel answers event sent).2
    rw [hstep] at hloop
    simp only [total, totalExcess, List.map_cons, List.sum_cons] at hloop ⊢
    rw [injectWheels, List.foldl_cons, ← injectWheels, hloop]
    ring

/-- The clicks follow the deltas within a notch exactly as long as what the deltas lack to
whole notches does not add up to one. -/
theorem scroll_conserved_iff {answers : Answers ε} (h : Succeeds answers)
    {events : List MouseWheelEvent} (hrange : ∀ event ∈ events, InRange event) :
    (∀ axis, |120 * netClicks axis (injectWheels answers events []) - total axis events| < 120) ↔
      ∀ axis, |totalExcess axis events| < 120 := by
  refine forall_congr' fun axis => ?_
  rw [netClicks_injectWheels h hrange]
  have hnone : netClicks axis [] = 0 := by simp [netClicks, clicks]
  rw [hnone, mul_zero, zero_add, add_sub_cancel_left]

/-- Whole notches are scrolled exactly. -/
example : wheelClickCount 240 = 2 ∧ excess 240 = 0 := by decide

/-- Two steps of a high-resolution wheel, an eighth of a notch each. -/
def fineSteps : List MouseWheelEvent := [{ deltaY := 15 }, { deltaY := 15 }]

theorem scroll_conserved_iff_fineSteps :
    (∀ axis, |120 * netClicks axis (injectWheels (ε := Unit) (fun _ _ => none) fineSteps []) -
      total axis fineSteps| < 120) ↔ ∀ axis, |totalExcess axis fineSteps| < 120 :=
  scroll_conserved_iff (fun _ _ => rfl) (by
    simp only [fineSteps, List.forall_mem_cons, List.not_mem_nil, false_implies, implies_true,
      and_true]
    constructor <;> constructor <;> decide)

/-- They are two clicks, for a quarter of a notch. -/
theorem injectWheels_fineSteps :
    ¬ ∀ axis, |120 * netClicks axis (injectWheels (ε := Unit) (fun _ _ => none) fineSteps []) -
      total axis fineSteps| < 120 := by
  intro h
  have hvertical := h .vertical
  revert hvertical
  decide

end XcbInputInjector
end Mksync
