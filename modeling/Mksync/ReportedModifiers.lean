import Mksync.PortalEvents
import Mksync.FlagSets
import Mksync.TransitionRuns

/-!
# The modifiers of captured keys

The capture keeps the set of modifiers over its whole life, while the keys that change it are
delivered during an activation only. A modifier that is let go in between stays in the set.
-/
namespace Mksync

open TransitionRuns FlagSets

namespace KeyModifier

def has (modifiers modifier : KeyModifier) : Bool := modifiers.flags &&& modifier.flags ≠ 0

end KeyModifier

def IsModifier (key : Key) : Prop := keyModifierFor key ≠ .none

instance (key : Key) : Decidable (IsModifier key) := inferInstanceAs (Decidable (_ ≠ _))

/-! ### Modifiers as flags -/

variable {key other : Key}

def modifierKeys : List Key :=
  [.leftCtrl, .leftShift, .leftAlt, .leftMeta, .rightCtrl, .rightShift, .rightAlt, .rightMeta]

theorem mem_modifierKeys (h : IsModifier key) : key ∈ modifierKeys := by
  by_contra hnot
  simp only [modifierKeys, List.mem_cons, List.not_mem_nil, or_false, not_or] at hnot
  apply h
  simp [keyModifierFor, hnot]

/-- The bits follow the usages of the modifiers. -/
def modifierBit (key : Key) : Nat := key.code.toNat - Key.leftCtrl.code.toNat

theorem isFlag_keyModifierFor (h : IsModifier key) :
    IsFlag (modifierBit key) (keyModifierFor key).flags.toBitVec := by
  have hflags : ∀ key ∈ modifierKeys, modifierBit key < 8 ∧
      (keyModifierFor key).flags.toBitVec = BitVec.twoPow 8 (modifierBit key) := by decide
  obtain ⟨hlt, heq⟩ := hflags key (mem_modifierKeys h)
  exact ⟨hlt, heq⟩

theorem modifierBit_inj (hkey : IsModifier key) (hother : IsModifier other)
    (h : modifierBit key = modifierBit other) : key = other := by
  have hinj : ∀ a ∈ modifierKeys, ∀ b ∈ modifierKeys, modifierBit a = modifierBit b → a = b := by
    decide
  exact hinj key (mem_modifierKeys hkey) other (mem_modifierKeys hother) h

theorem has_iff (h : IsModifier key) (modifiers : KeyModifier) :
    modifiers.has (keyModifierFor key) = true ↔
      modifiers.flags.toBitVec.getLsbD (modifierBit key) = true := by
  rw [← (isFlag_keyModifierFor h).and_ne_zero, KeyModifier.has, decide_eq_true_eq, ne_eq, ne_eq,
    ← UInt8.toBitVec_inj, UInt8.toBitVec_and]
  rfl

open PortalEventCapture in
/-- A transition of a key decides the key's own modifier and leaves the others alone. -/
theorem has_modifiersAfter (hother : IsModifier other) (release : Bool)
    (modifiers : KeyModifier) :
    (modifiersAfter key release modifiers).has (keyModifierFor other) = true ↔
      if other = key then release = false else modifiers.has (keyModifierFor other) = true := by
  by_cases hkey : IsModifier key
  · have hbits : modifierBit key = modifierBit other ↔ other = key :=
      ⟨fun heq => (modifierBit_inj hkey hother heq).symm, fun heq => heq ▸ rfl⟩
    have hflag := isFlag_keyModifierFor hkey
    have hafter : modifiersAfter key release modifiers =
        if release then ⟨modifiers.flags &&& ~~~(keyModifierFor key).flags⟩
        else ⟨modifiers.flags ||| (keyModifierFor key).flags⟩ := if_pos hkey
    rw [has_iff hother, has_iff hother, hafter]
    cases release with
    | false =>
      simp only [Bool.false_eq_true, if_false, UInt8.toBitVec_or, hflag.getLsbD_or, hbits]
      by_cases hsame : other = key <;> simp [hsame]
    | true =>
      simp only [if_true, UInt8.toBitVec_and, UInt8.toBitVec_not, hflag.getLsbD_and_not, hbits]
      by_cases hsame : other = key <;> simp [hsame]
  · have hne : other ≠ key := fun heq => hkey (heq ▸ hother)
    have hafter : modifiersAfter key release modifiers = modifiers := if_neg hkey
    rw [hafter, if_neg hne]

/-! ### The capture next to the keys that were delivered -/

namespace PortalModifiers

/-- The capture, and the transitions of keys that libei delivered to it, the last one first. -/
structure State where
  capture : PortalEventCapture
  /-- Since the current activation began. -/
  current : List (Key × Bool) := []
  /-- In the activations before it. -/
  earlier : List (Key × Bool) := []

inductive Action
  | signal (signal : PortalEventCapture.Signal)
  | moveLocalCursor (screenIndex : Nat) (x y : Int)
  | nextEvent

/-- The bookkeeping of a signal. Keys are recorded whenever they come: that libei sends them
during an activation only is not needed. -/
def record (signal : PortalEventCapture.Signal) (s : State) : State :=
  match signal with
  | .activated _ _ => { s with current := [], earlier := s.current ++ s.earlier }
  | .libei (.keyboardKey native isPress) =>
    { s with current := (Wayland.keyFromEvdev native, isPress) :: s.current }
  | _ => s

def step (s : State) : Action → Option State
  | .signal signal => some { record signal s with capture := s.capture.onSignal signal }
  | .moveLocalCursor screenIndex x y =>
    some { s with capture := (s.capture.moveLocalCursor screenIndex x y).2 }
  | .nextEvent => s.capture.nextEvent.map fun taken => { s with capture := taken.2 }

/-- Pressed, and not released, since the current activation began. -/
def State.Held (s : State) (key : Key) : Prop := s.current.lookup key = some true

instance (s : State) (key : Key) : Decidable (s.Held key) := inferInstanceAs (Decidable (_ = _))

/-- Last seen pressed, in an earlier activation. -/
def State.Stale (s : State) (key : Key) : Prop :=
  s.current.lookup key = none ∧ s.earlier.lookup key = some true

/-- The step queues the key event. -/
def Queues (s s' : State) (event : KeyEvent) : Prop :=
  s'.capture.events = s.capture.events ++ [.key event]

/-- The modifiers of a key event that is queued are the ones that are held. -/
def ReportsHeld (s : State) (_ : Action) (s' : State) : Prop :=
  ∀ event, Queues s s' event → ∀ key, IsModifier key →
    (event.modifiers.has (keyModifierFor key) = true ↔ s'.Held key)

/-- No modifier is stale when libei delivers a key that the capture knows. -/
def NoneStale (_ : State) (a : Action) (s' : State) : Prop :=
  ∀ native isPress, a = .signal (.libei (.keyboardKey native isPress)) →
    Wayland.keyFromEvdev native ≠ .none → ∀ key, IsModifier key → ¬ s'.Stale key

/-- The capture's modifiers are the ones last seen pressed in any activation. -/
def Tracks (s : State) : Prop :=
  ∀ key, IsModifier key → (s.capture.modifiers.has (keyModifierFor key) = true ↔
    (s.current ++ s.earlier).lookup key = some true)

variable {s s' : State}

theorem held_or_stale_iff (key : Key) :
    (s.current ++ s.earlier).lookup key = some true ↔ s.Held key ∨ s.Stale key := by
  rw [List.lookup_append, State.Held, State.Stale]
  cases s.current.lookup key <;> simp

theorem Tracks.congr (h : Tracks s) (hmodifiers : s'.capture.modifiers = s.capture.modifiers)
    (hrecorded : s'.current ++ s'.earlier = s.current ++ s.earlier) : Tracks s' := by
  unfold Tracks
  rw [hmodifiers, hrecorded]
  exact h

/-! ### One step -/

open PortalEventCapture in
theorem modifiers_keyboardKey (capture : PortalEventCapture) (native : UInt32) (isPress : Bool) :
    (capture.processEiEvent (.keyboardKey native isPress)).modifiers =
      modifiersAfter (Wayland.keyFromEvdev native) (!isPress) capture.modifiers := by
  simp only [processEiEvent]
  split_ifs with hnone
  · rw [hnone]
    rfl
  · rfl

theorem Tracks.keyboardKey (h : Tracks s) (native : UInt32) (isPress : Bool)
    (hstep : step s (.signal (.libei (.keyboardKey native isPress))) = some s') : Tracks s' := by
  obtain rfl := Option.some.inj hstep
  intro other hother
  have hmodifiers := modifiers_keyboardKey s.capture native isPress
  have hlookup : ((Wayland.keyFromEvdev native, isPress) :: (s.current ++ s.earlier)).lookup other =
      if other = Wayland.keyFromEvdev native then some isPress
      else (s.current ++ s.earlier).lookup other := by
    rw [List.lookup_cons]
    by_cases hsame : other = Wayland.keyFromEvdev native
    · rw [if_pos hsame, hsame, beq_self_eq_true]
    · rw [if_neg hsame, beq_eq_false_iff_ne.mpr hsame]
  simp only [record, PortalEventCapture.onSignal, List.cons_append, hlookup, hmodifiers,
    has_modifiersAfter hother]
  split_ifs
  · simp
  · exact h other hother

theorem Tracks.after {a : Action} (h : Tracks s) (hstep : step s a = some s') : Tracks s' := by
  cases a with
  | moveLocalCursor =>
    obtain rfl := Option.some.inj hstep
    exact h.congr rfl rfl
  | nextEvent =>
    obtain ⟨⟨event, capture⟩, htaken, rfl⟩ := Option.map_eq_some_iff.mp hstep
    exact h.congr (PortalEventCapture.nextEvent_eq_some htaken).2.1 rfl
  | signal signal =>
    cases signal with
    | deactivated | disabled | zonesChanged =>
      obtain rfl := Option.some.inj hstep
      exact h.congr rfl rfl
    | activated =>
      obtain rfl := Option.some.inj hstep
      exact h.congr rfl (List.nil_append _)
    | libei event =>
      cases event with
      | keyboardKey native isPress => exact h.keyboardKey native isPress hstep
      | disconnect =>
        obtain rfl := Option.some.inj hstep
        exact h.congr rfl rfl
      | pointerMotion | pointerMotionAbsolute | scrollDiscrete | scrollDelta =>
        obtain rfl := Option.some.inj hstep
        exact h.congr (PortalEventCapture.modifiers_queueAtPointer _) rfl
      | button button =>
        obtain rfl := Option.some.inj hstep
        refine h.congr ?_ rfl
        simp only [PortalEventCapture.onSignal, PortalEventCapture.processEiEvent]
        split_ifs
        · rfl
        · exact PortalEventCapture.modifiers_queueAtPointer _

theorem Queues.keyboardKey {a : Action} {event : KeyEvent} (h : Queues s s' event)
    (hstep : step s a = some s') :
    ∃ native isPress, a = .signal (.libei (.keyboardKey native isPress)) ∧
      Wayland.keyFromEvdev native ≠ .none ∧ event.modifiers = s'.capture.modifiers := by
  cases a with
  | signal signal =>
    obtain rfl := Option.some.inj hstep
    obtain ⟨native, isPress, rfl, hmapped, hmodifiers⟩ := PortalEventCapture.queued_key h
    exact ⟨native, isPress, rfl, hmapped, hmodifiers⟩
  | moveLocalCursor =>
    obtain rfl := Option.some.inj hstep
    simp [Queues, PortalEventCapture.moveLocalCursor] at h
  | nextEvent =>
    obtain ⟨⟨taken, capture⟩, htaken, rfl⟩ := Option.map_eq_some_iff.mp hstep
    have hlength := congrArg List.length h
    simp [(PortalEventCapture.nextEvent_eq_some htaken).1] at hlength
    omega

theorem exists_queues_keyboardKey {native : UInt32} {isPress : Bool}
    (hmapped : Wayland.keyFromEvdev native ≠ .none)
    (hstep : step s (.signal (.libei (.keyboardKey native isPress))) = some s') :
    ∃ event, Queues s s' event ∧ event.modifiers = s'.capture.modifiers := by
  obtain rfl := Option.some.inj hstep
  apply Exists.intro
  simp only [Queues, PortalEventCapture.onSignal, PortalEventCapture.processEiEvent]
  rw [if_neg hmapped]
  exact ⟨rfl, rfl⟩

/-- Where the capture tracks the keys, it reports the held ones unless one is stale. -/
theorem Tracks.reportsHeld_iff {a : Action} (h : Tracks s) (hstep : step s a = some s') :
    ReportsHeld s a s' ↔ NoneStale s a s' := by
  have hafter := h.after hstep
  constructor
  · rintro hreports native isPress rfl hmapped key hkey hstale
    obtain ⟨event, hqueues, hmodifiers⟩ := exists_queues_keyboardKey hmapped hstep
    have hheld : s'.Held key := by
      rw [← hreports event hqueues key hkey, hmodifiers, hafter key hkey, held_or_stale_iff]
      exact .inr hstale
    rw [State.Held, hstale.1] at hheld
    cases hheld
  · intro hnone event hqueues key hkey
    obtain ⟨native, isPress, rfl, hmapped, hmodifiers⟩ := hqueues.keyboardKey hstep
    rw [hmodifiers, hafter key hkey, held_or_stale_iff]
    exact or_iff_left (hnone native isPress rfl hmapped key hkey)

/-! ### Whole runs -/

/-- A capture that has just been initialized. -/
def start (mSession : Bool) (mScreens : List ScreenInfo) : State where
  capture := { mSession, mScreens }

theorem tracks_start (mSession : Bool) (mScreens : List ScreenInfo) :
    Tracks (start mSession mScreens) := by
  intro key hkey
  rw [has_iff hkey]
  simp [start, KeyModifier.none]

/-- In every run the modifiers of each key event queued are the modifier keys held in the
current activation if and only if, whenever a key is delivered, no modifier key was last seen
pressed in an activation before. -/
theorem reported_held_iff_none_stale {mSession : Bool} {mScreens : List ScreenInfo}
    {as : List Action} {s : State} : Run step ReportsHeld (start mSession mScreens) as s ↔
      Run step NoneStale (start mSession mScreens) as s :=
  Run.guard_iff Tracks (tracks_start mSession mScreens) (fun _ _ _ h _ hstep => h.after hstep)
    (fun _ _ _ h hstep => h.reportsHeld_iff hstep)

/-- Ctrl is pressed in one activation, and let go before the next. -/
def ctrlAcross : List Action :=
  [.signal (.activated 1 none), .signal (.libei (.keyboardKey Wayland.KEY_LEFTCTRL true)),
   .signal (.deactivated 1), .signal (.activated 2 none)]

def pressA : Action := .signal (.libei (.keyboardKey Wayland.KEY_A true))

def ctrlA : KeyEvent := { key := .a, modifiers := keyModifierFor .leftCtrl, nativeCode := 30 }

theorem keyFromEvdev_leftCtrl : Wayland.keyFromEvdev Wayland.KEY_LEFTCTRL = .leftCtrl :=
  Wayland.keyFromEvdev_of_unshared (by decide +kernel) (by decide +kernel)

/-- The press of A is queued as Ctrl+A, although Ctrl is not held. -/
def pressesCtrlA (s : State) : Bool :=
  (step s pressA).any fun s' =>
    decide (s'.capture.events = s.capture.events ++ [.key ctrlA] ∧ ¬ s'.Held .leftCtrl)

theorem ctrlAcross_reports_ctrlA : ∃ s s', Run step unguarded (start true []) ctrlAcross s ∧
    step s pressA = some s' ∧ Queues s s' ctrlA ∧ ¬ s'.Held .leftCtrl ∧
    ¬ ReportsHeld s pressA s' := by
  obtain ⟨s, hrun, hpress⟩ := exists_run_of_execute step (fun _ _ _ => true) (start true [])
    ctrlAcross pressesCtrlA (fun _ _ _ _ => trivial) (by
      simp only [ctrlAcross, execute, step, record, PortalEventCapture.onSignal,
        PortalEventCapture.processEiEvent, keyFromEvdev_leftCtrl]
      decide +kernel)
  simp only [pressesCtrlA, Option.any_eq_true, decide_eq_true_eq] at hpress
  obtain ⟨s', hstep, hqueues, hheld⟩ := hpress
  refine ⟨s, s', hrun, hstep, hqueues, hheld, ?_⟩
  intro hreports
  exact hheld ((hreports ctrlA hqueues .leftCtrl (by decide)).mp rfl)

end PortalModifiers
end Mksync
