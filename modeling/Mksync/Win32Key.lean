import Mksync.InputEvents
import Mathlib.Data.List.Basic

/-!
# Key translation on Windows

Capture turns a virtual key into a `Key`, injection turns a `Key` back into a virtual key
and falls back to the native code. The switches of both are tables of their rows here, in
the order of the source. `MapVirtualKeyW` and the keyboard state belong to the system.
-/
namespace Mksync

namespace Key

def z : Key := ⟨0x1d⟩
def digit1 : Key := ⟨0x1e⟩
def digit9 : Key := ⟨0x26⟩
def digit0 : Key := ⟨0x27⟩
def enter : Key := ⟨0x28⟩
def esc : Key := ⟨0x29⟩
def backspace : Key := ⟨0x2a⟩
def tab : Key := ⟨0x2b⟩
def space : Key := ⟨0x2c⟩
def minus : Key := ⟨0x2d⟩
def equal : Key := ⟨0x2e⟩
def leftBrace : Key := ⟨0x2f⟩
def rightBrace : Key := ⟨0x30⟩
def backslash : Key := ⟨0x31⟩
def semicolon : Key := ⟨0x33⟩
def apostrophe : Key := ⟨0x34⟩
def grave : Key := ⟨0x35⟩
def comma : Key := ⟨0x36⟩
def dot : Key := ⟨0x37⟩
def slash : Key := ⟨0x38⟩
def capsLock : Key := ⟨0x39⟩
def f1 : Key := ⟨0x3a⟩
def f2 : Key := ⟨0x3b⟩
def f3 : Key := ⟨0x3c⟩
def f4 : Key := ⟨0x3d⟩
def f5 : Key := ⟨0x3e⟩
def f6 : Key := ⟨0x3f⟩
def f7 : Key := ⟨0x40⟩
def f8 : Key := ⟨0x41⟩
def f9 : Key := ⟨0x42⟩
def f10 : Key := ⟨0x43⟩
def f11 : Key := ⟨0x44⟩
def sysRq : Key := ⟨0x46⟩
def scrollLock : Key := ⟨0x47⟩
def pause : Key := ⟨0x48⟩
def insert : Key := ⟨0x49⟩
def home : Key := ⟨0x4a⟩
def pageUp : Key := ⟨0x4b⟩
def delete : Key := ⟨0x4c⟩
def end' : Key := ⟨0x4d⟩
def pageDown : Key := ⟨0x4e⟩
def right : Key := ⟨0x4f⟩
def left : Key := ⟨0x50⟩
def down : Key := ⟨0x51⟩
def up : Key := ⟨0x52⟩
def numLock : Key := ⟨0x53⟩
def keypadSlash : Key := ⟨0x54⟩
def keypadAsterisk : Key := ⟨0x55⟩
def keypadMinus : Key := ⟨0x56⟩
def keypadPlus : Key := ⟨0x57⟩
def keypadEnter : Key := ⟨0x58⟩
def keypad1 : Key := ⟨0x59⟩
def keypad2 : Key := ⟨0x5a⟩
def keypad3 : Key := ⟨0x5b⟩
def keypad4 : Key := ⟨0x5c⟩
def keypad5 : Key := ⟨0x5d⟩
def keypad6 : Key := ⟨0x5e⟩
def keypad7 : Key := ⟨0x5f⟩
def keypad8 : Key := ⟨0x60⟩
def keypad9 : Key := ⟨0x61⟩
def keypad0 : Key := ⟨0x62⟩
def keypadDot : Key := ⟨0x63⟩
def f13 : Key := ⟨0x68⟩
def f24 : Key := ⟨0x73⟩
def mute : Key := ⟨0x7f⟩
def volumeUp : Key := ⟨0x80⟩
def volumeDown : Key := ⟨0x81⟩
def leftCtrl : Key := ⟨0xe0⟩
def leftShift : Key := ⟨0xe1⟩
def leftAlt : Key := ⟨0xe2⟩
def leftMeta : Key := ⟨0xe3⟩
def rightCtrl : Key := ⟨0xe4⟩
def rightShift : Key := ⟨0xe5⟩
def rightAlt : Key := ⟨0xe6⟩
def rightMeta : Key := ⟨0xe7⟩
def mediaPlayPause : Key := ⟨0xe8⟩
def mediaStopCd : Key := ⟨0xe9⟩
def mediaPreviousSong : Key := ⟨0xea⟩
def mediaNextSong : Key := ⟨0xeb⟩
def mediaVolumeUp : Key := ⟨0xed⟩
def mediaVolumeDown : Key := ⟨0xee⟩
def mediaMute : Key := ⟨0xef⟩

end Key

/-! ### The virtual keys of `Windows.h` -/

def vkBack : UInt16 := 0x08
def vkTab : UInt16 := 0x09
def vkReturn : UInt16 := 0x0d
def vkShift : UInt16 := 0x10
def vkControl : UInt16 := 0x11
def vkMenu : UInt16 := 0x12
def vkPause : UInt16 := 0x13
def vkCapital : UInt16 := 0x14
def vkEscape : UInt16 := 0x1b
def vkSpace : UInt16 := 0x20
def vkPrior : UInt16 := 0x21
def vkNext : UInt16 := 0x22
def vkEnd : UInt16 := 0x23
def vkHome : UInt16 := 0x24
def vkLeft : UInt16 := 0x25
def vkUp : UInt16 := 0x26
def vkRight : UInt16 := 0x27
def vkDown : UInt16 := 0x28
def vkSnapshot : UInt16 := 0x2c
def vkInsert : UInt16 := 0x2d
def vkDelete : UInt16 := 0x2e
def vkLwin : UInt16 := 0x5b
def vkRwin : UInt16 := 0x5c
def vkNumpad0 : UInt16 := 0x60
def vkNumpad1 : UInt16 := 0x61
def vkNumpad2 : UInt16 := 0x62
def vkNumpad3 : UInt16 := 0x63
def vkNumpad4 : UInt16 := 0x64
def vkNumpad5 : UInt16 := 0x65
def vkNumpad6 : UInt16 := 0x66
def vkNumpad7 : UInt16 := 0x67
def vkNumpad8 : UInt16 := 0x68
def vkNumpad9 : UInt16 := 0x69
def vkMultiply : UInt16 := 0x6a
def vkAdd : UInt16 := 0x6b
def vkSubtract : UInt16 := 0x6d
def vkDecimal : UInt16 := 0x6e
def vkDivide : UInt16 := 0x6f
def vkF1 : UInt16 := 0x70
def vkF2 : UInt16 := 0x71
def vkF3 : UInt16 := 0x72
def vkF4 : UInt16 := 0x73
def vkF5 : UInt16 := 0x74
def vkF6 : UInt16 := 0x75
def vkF7 : UInt16 := 0x76
def vkF8 : UInt16 := 0x77
def vkF9 : UInt16 := 0x78
def vkF10 : UInt16 := 0x79
def vkF11 : UInt16 := 0x7a
def vkF12 : UInt16 := 0x7b
def vkF13 : UInt16 := 0x7c
def vkNumlock : UInt16 := 0x90
def vkScroll : UInt16 := 0x91
def vkLshift : UInt16 := 0xa0
def vkRshift : UInt16 := 0xa1
def vkLcontrol : UInt16 := 0xa2
def vkRcontrol : UInt16 := 0xa3
def vkLmenu : UInt16 := 0xa4
def vkRmenu : UInt16 := 0xa5
def vkVolumeMute : UInt16 := 0xad
def vkVolumeDown : UInt16 := 0xae
def vkVolumeUp : UInt16 := 0xaf
def vkMediaNextTrack : UInt16 := 0xb0
def vkMediaPrevTrack : UInt16 := 0xb1
def vkMediaStop : UInt16 := 0xb2
def vkMediaPlayPause : UInt16 := 0xb3
def vkOem1 : UInt16 := 0xba
def vkOemPlus : UInt16 := 0xbb
def vkOemComma : UInt16 := 0xbc
def vkOemMinus : UInt16 := 0xbd
def vkOemPeriod : UInt16 := 0xbe
def vkOem2 : UInt16 := 0xbf
def vkOem3 : UInt16 := 0xc0
def vkOem4 : UInt16 := 0xdb
def vkOem5 : UInt16 := 0xdc
def vkOem6 : UInt16 := 0xdd
def vkOem7 : UInt16 := 0xde

structure Win32Key where
  virtualKey : UInt16 := 0
  extended : Bool := false
  deriving DecidableEq, Repr

/-- What the low-level hook reports of a key. -/
structure KeyboardHook where
  vkCode : UInt32
  scanCode : UInt32
  deriving DecidableEq, Repr

/-- Generic modifiers are told apart by their scan code. -/
def normalizeVirtualKey (mapVirtualKey : UInt32 → UInt32) (info : KeyboardHook) : UInt32 :=
  if info.vkCode = vkShift.toUInt32 ∨ info.vkCode = vkControl.toUInt32 ∨
      info.vkCode = vkMenu.toUInt32 then
    mapVirtualKey info.scanCode
  else info.vkCode

def keyModifierFor (key : Key) : KeyModifier :=
  if key = .leftCtrl then ⟨0x01⟩
  else if key = .rightCtrl then ⟨0x10⟩
  else if key = .leftShift then ⟨0x02⟩
  else if key = .rightShift then ⟨0x20⟩
  else if key = .leftAlt then ⟨0x04⟩
  else if key = .rightAlt then ⟨0x40⟩
  else if key = .leftMeta then ⟨0x08⟩
  else if key = .rightMeta then ⟨0x80⟩
  else .none

def isExtendedKey (key : Key) : Bool :=
  key ∈ [Key.rightCtrl, .rightAlt, .insert, .delete, .home, .end', .pageUp, .pageDown, .right,
    .left, .down, .up, .keypadSlash, .keypadEnter]

/-- The cases of the switch in `virtualKeyToKey`. -/
def virtualKeyCases : List (UInt16 × Key) :=
  [(vkReturn, .enter), (vkEscape, .esc), (vkBack, .backspace), (vkTab, .tab), (vkSpace, .space),
   (vkOemMinus, .minus), (vkOemPlus, .equal), (vkOem4, .leftBrace), (vkOem6, .rightBrace),
   (vkOem5, .backslash), (vkOem1, .semicolon), (vkOem7, .apostrophe), (vkOem3, .grave),
   (vkOemComma, .comma), (vkOemPeriod, .dot), (vkOem2, .slash), (vkCapital, .capsLock),
   (vkF1, .f1), (vkF2, .f2), (vkF3, .f3), (vkF4, .f4), (vkF5, .f5), (vkF6, .f6), (vkF7, .f7),
   (vkF8, .f8), (vkF9, .f9), (vkF10, .f10), (vkF11, .f11), (vkF12, .f12), (vkSnapshot, .sysRq),
   (vkScroll, .scrollLock), (vkPause, .pause), (vkInsert, .insert), (vkHome, .home),
   (vkPrior, .pageUp), (vkDelete, .delete), (vkEnd, .end'), (vkNext, .pageDown),
   (vkRight, .right), (vkLeft, .left), (vkDown, .down), (vkUp, .up), (vkNumlock, .numLock),
   (vkDivide, .keypadSlash), (vkMultiply, .keypadAsterisk), (vkSubtract, .keypadMinus),
   (vkAdd, .keypadPlus), (vkNumpad0, .keypad0), (vkNumpad1, .keypad1), (vkNumpad2, .keypad2),
   (vkNumpad3, .keypad3), (vkNumpad4, .keypad4), (vkNumpad5, .keypad5), (vkNumpad6, .keypad6),
   (vkNumpad7, .keypad7), (vkNumpad8, .keypad8), (vkNumpad9, .keypad9), (vkDecimal, .keypadDot),
   (vkLcontrol, .leftCtrl), (vkRcontrol, .rightCtrl), (vkLshift, .leftShift),
   (vkRshift, .rightShift), (vkLmenu, .leftAlt), (vkRmenu, .rightAlt), (vkLwin, .leftMeta),
   (vkRwin, .rightMeta)]

def virtualKeyToKey (vkCode : UInt32) : Key :=
  if 'A'.val ≤ vkCode ∧ vkCode ≤ 'Z'.val then ⟨Key.a.code + (vkCode - 'A'.val)⟩
  else if '0'.val ≤ vkCode ∧ vkCode ≤ '9'.val then ⟨Key.digit0.code + (vkCode - '0'.val)⟩
  else ((virtualKeyCases.find? fun row => row.1.toUInt32 = vkCode).map (·.2)).getD .none

/-- The cases of the switch in `keyToWin32`. -/
def keyCases : List (Key × UInt16) :=
  [(.digit0, '0'.val.toUInt16), (.enter, vkReturn), (.esc, vkEscape), (.backspace, vkBack),
   (.tab, vkTab), (.space, vkSpace), (.minus, vkOemMinus), (.equal, vkOemPlus),
   (.leftBrace, vkOem4), (.rightBrace, vkOem6), (.backslash, vkOem5), (.semicolon, vkOem1),
   (.apostrophe, vkOem7), (.grave, vkOem3), (.comma, vkOemComma), (.dot, vkOemPeriod),
   (.slash, vkOem2), (.capsLock, vkCapital), (.sysRq, vkSnapshot), (.scrollLock, vkScroll),
   (.pause, vkPause), (.insert, vkInsert), (.home, vkHome), (.pageUp, vkPrior),
   (.delete, vkDelete), (.end', vkEnd), (.pageDown, vkNext), (.right, vkRight), (.left, vkLeft),
   (.down, vkDown), (.up, vkUp), (.numLock, vkNumlock), (.keypadSlash, vkDivide),
   (.keypadAsterisk, vkMultiply), (.keypadMinus, vkSubtract), (.keypadPlus, vkAdd),
   (.keypadEnter, vkReturn), (.keypad0, vkNumpad0), (.keypadDot, vkDecimal),
   (.leftCtrl, vkLcontrol), (.leftShift, vkLshift), (.leftAlt, vkLmenu), (.leftMeta, vkLwin),
   (.rightCtrl, vkRcontrol), (.rightShift, vkRshift), (.rightAlt, vkRmenu), (.rightMeta, vkRwin),
   (.volumeUp, vkVolumeUp), (.mediaVolumeUp, vkVolumeUp), (.volumeDown, vkVolumeDown),
   (.mediaVolumeDown, vkVolumeDown), (.mute, vkVolumeMute), (.mediaMute, vkVolumeMute),
   (.mediaPlayPause, vkMediaPlayPause), (.mediaStopCd, vkMediaStop),
   (.mediaPreviousSong, vkMediaPrevTrack), (.mediaNextSong, vkMediaNextTrack)]

/-- The virtual key of a range of keys that follow each other as their virtual keys do. -/
def inKeyRange (first last : Key) (virtualKey : UInt16) (key : Key) : Option Win32Key :=
  if first.code ≤ key.code ∧ key.code ≤ last.code then
    some { virtualKey := virtualKey + (key.code - first.code).toUInt16 }
  else none

def keyToWin32 (key : Key) (nativeCode : Nat) : Option Win32Key :=
  inKeyRange .a .z 'A'.val.toUInt16 key <|> inKeyRange .digit1 .digit9 '1'.val.toUInt16 key <|>
    inKeyRange .f1 .f12 vkF1 key <|> inKeyRange .f13 .f24 vkF13 key <|>
    inKeyRange .keypad1 .keypad9 vkNumpad1 key <|>
    match keyCases.find? fun row => row.1 = key with
    | some row => some ⟨row.2, isExtendedKey key⟩
    | none =>
      if nativeCode = 0 ∨ nativeCode > 0xffff then none
      else some ⟨.ofNat nativeCode, isExtendedKey key⟩

inductive KeyMessage
  | keyDown | sysKeyDown | keyUp | sysKeyUp | other
  deriving DecidableEq, Repr

/-- One call of the hook, with the modifiers the system reports at that time. -/
structure HookCall where
  wp : KeyMessage
  info : KeyboardHook
  currentModifiers : KeyModifier := .none
  deriving DecidableEq, Repr

def HookCall.isPress (call : HookCall) : Bool := call.wp = .keyDown ∨ call.wp = .sysKeyDown

def HookCall.isRelease (call : HookCall) : Bool := call.wp = .keyUp ∨ call.wp = .sysKeyUp

/-- The state of the system may lag the event: the bit of its own modifier is forced. -/
def translateKeyboardEvent (mapVirtualKey : UInt32 → UInt32) (call : HookCall) : Option KeyEvent :=
  if !call.isPress && !call.isRelease then none
  else
    let vkCode := normalizeVirtualKey mapVirtualKey call.info
    let key := virtualKeyToKey vkCode
    let modifier := keyModifierFor key
    let modifiers : KeyModifier :=
      if modifier ≠ .none then
        if call.isPress then ⟨call.currentModifiers.flags ||| modifier.flags⟩
        else ⟨call.currentModifiers.flags &&& ~~~modifier.flags⟩
      else call.currentModifiers
    some {
      key := key
      modifiers := modifiers
      nativeCode := vkCode.toNat
      isRepeat := false
      release := call.isRelease }

/-- The keyboard part of an `INPUT`. -/
structure KeyboardInput where
  wVk : UInt16
  keyUp : Bool
  extended : Bool
  deriving DecidableEq, Repr

/-- The input that is sent, `none` for `invalid_argument`. -/
def injectOne (event : KeyEvent) : Option KeyboardInput :=
  (keyToWin32 event.key event.nativeCode).map fun key =>
    ⟨key.virtualKey, event.release, key.extended⟩

/-! ### Capture on one machine, injection on another -/

/-- The digits `1` to `9`. Capture counts them on from the usage of `0`, the last digit. -/
def IsDigit1To9 (vkCode : UInt32) : Prop := '1'.val ≤ vkCode ∧ vkCode ≤ '9'.val

instance (vkCode : UInt32) : Decidable (IsDigit1To9 vkCode) := inferInstanceAs (Decidable (_ ∧ _))

/-- Every named virtual key is a byte. -/
theorem virtualKeyToKey_of_ge {vkCode : UInt32} (h : 256 ≤ vkCode.toNat) :
    virtualKeyToKey vkCode = .none := by
  have hbytes : ∀ row ∈ virtualKeyCases, row.1.toNat < 256 := by decide
  have hcases : (virtualKeyCases.find? fun row => row.1.toUInt32 = vkCode) = none := by
    apply List.find?_eq_none.mpr
    intro row hrow heq
    have hrow := hbytes row hrow
    have heq : row.1.toUInt32 = vkCode := by simpa using heq
    rw [← heq, UInt16.toNat_toUInt32] at h
    omega
  have hletter : ¬ ('A'.val ≤ vkCode ∧ vkCode ≤ 'Z'.val) := by
    rintro ⟨-, hle⟩
    have hle : vkCode.toNat ≤ 90 := UInt32.le_iff_toNat_le.mp hle
    omega
  have hdigit : ¬ ('0'.val ≤ vkCode ∧ vkCode ≤ '9'.val) := by
    rintro ⟨-, hle⟩
    have hle : vkCode.toNat ≤ 57 := UInt32.le_iff_toNat_le.mp hle
    omega
  rw [virtualKeyToKey, if_neg hletter, if_neg hdigit, hcases]
  rfl

/-- No key is injected as its native code. -/
theorem keyToWin32_none {nativeCode : Nat} (hpos : 0 < nativeCode) (hle : nativeCode ≤ 0xffff) :
    keyToWin32 .none nativeCode = some ⟨.ofNat nativeCode, false⟩ := by
  have hcode : ¬ (nativeCode = 0 ∨ nativeCode > 0xffff) := by omega
  have hcases : keyCases.find? (fun row => row.1 = .none) = none := by decide
  have hkey : keyToWin32 .none nativeCode =
      match keyCases.find? (fun row => row.1 = .none) with
      | some row => some ⟨row.2, isExtendedKey .none⟩
      | none =>
        if nativeCode = 0 ∨ nativeCode > 0xffff then none
        else some ⟨.ofNat nativeCode, isExtendedKey .none⟩ := rfl
  rw [hkey, hcases]
  simp only [if_neg hcode]
  rfl

/-- A virtual key comes back as itself unless it is one of the digits `1` to `9`. -/
theorem keyToWin32_virtualKeyToKey {vkCode : UInt32} (hpos : 0 < vkCode.toNat)
    (hle : vkCode.toNat ≤ 0xffff) :
    (keyToWin32 (virtualKeyToKey vkCode) vkCode.toNat).map (·.virtualKey.toUInt32) = some vkCode ↔
      ¬ IsDigit1To9 vkCode := by
  by_cases hbyte : vkCode.toNat < 256
  · -- the two tables disagree on the nine digits only
    have hbytes : ∀ code < 256, code ≠ 0 →
        ((keyToWin32 (virtualKeyToKey (.ofNat code)) code).map (·.virtualKey.toUInt32) =
          some (.ofNat code) ↔ ¬ IsDigit1To9 (.ofNat code)) := by
      decide +kernel
    have hcode := hbytes vkCode.toNat hbyte (by omega)
    simpa only [UInt32.ofNat_toNat] using hcode
  · have hnone : virtualKeyToKey vkCode = .none := virtualKeyToKey_of_ge (by omega)
    have hdigit : ¬ IsDigit1To9 vkCode := by
      rintro ⟨-, h⟩
      have h : vkCode.toNat ≤ 57 := UInt32.le_iff_toNat_le.mp h
      omega
    have hword : (UInt16.ofNat vkCode.toNat).toUInt32 = vkCode := by
      apply UInt32.toNat_inj.mp
      rw [UInt16.toNat_toUInt32, UInt16.toNat_ofNat']
      omega
    rw [hnone, keyToWin32_none hpos hle, Option.map_some]
    simp only [hword, hdigit, not_false_eq_true]

section Machines

variable (mapVirtualKey : UInt32 → UInt32)

/-- The virtual key and the direction of a transition, as captured. -/
def captured (call : HookCall) : UInt32 × Bool :=
  (normalizeVirtualKey mapVirtualKey call.info, call.isRelease)

/-- The virtual key and the direction of a transition, as injected. -/
def injected (event : KeyEvent) : Option (UInt32 × Bool) :=
  (injectOne event).map fun input => (input.wVk.toUInt32, input.keyUp)

/-- A press or release is translated to its key, with the virtual key as the native code. -/
theorem translateKeyboardEvent_of_transition {call : HookCall} (h : call.wp ≠ .other) :
    ∃ event, translateKeyboardEvent mapVirtualKey call = some event ∧
      event.key = virtualKeyToKey (normalizeVirtualKey mapVirtualKey call.info) ∧
      event.nativeCode = (normalizeVirtualKey mapVirtualKey call.info).toNat ∧
      event.release = call.isRelease := by
  have hkey : (!call.isPress && !call.isRelease) = false := by
    cases hwp : call.wp <;> simp_all [HookCall.isPress, HookCall.isRelease]
  rw [translateKeyboardEvent, hkey]
  exact ⟨_, rfl, rfl, rfl, rfl⟩

variable {mapVirtualKey}

theorem injected_translate {call : HookCall} (h : call.wp ≠ .other)
    (hpos : 0 < (captured mapVirtualKey call).1.toNat)
    (hle : (captured mapVirtualKey call).1.toNat ≤ 0xffff) :
    (translateKeyboardEvent mapVirtualKey call).bind injected =
        some (captured mapVirtualKey call) ↔
      ¬ IsDigit1To9 (captured mapVirtualKey call).1 := by
  obtain ⟨event, hevent, hkey, hnative, hrelease⟩ :=
    translateKeyboardEvent_of_transition mapVirtualKey h
  have hround := keyToWin32_virtualKeyToKey hpos hle
  rw [← hround, hevent, Option.bind_some, injected, injectOne, hkey, hnative, hrelease]
  simp only [captured]
  cases keyToWin32 (virtualKeyToKey (normalizeVirtualKey mapVirtualKey call.info))
      (normalizeVirtualKey mapVirtualKey call.info).toNat with
  | none => simp
  | some key => simp

/-- Along every sequence of transitions, what is injected on the other machine is what was
captured exactly when none of them is of a digit `1` to `9`. -/
theorem injected_eq_captured_iff (mapVirtualKey : UInt32 → UInt32) (calls : List HookCall)
    (hcalls : ∀ call ∈ calls, call.wp ≠ .other ∧ 0 < (captured mapVirtualKey call).1.toNat ∧
      (captured mapVirtualKey call).1.toNat ≤ 0xffff) :
    (calls.filterMap (translateKeyboardEvent mapVirtualKey)).map injected =
        calls.map (some ∘ captured mapVirtualKey) ↔
      ∀ call ∈ calls, ¬ IsDigit1To9 (captured mapVirtualKey call).1 := by
  induction calls with
  | nil => simp
  | cons call calls ih =>
    obtain ⟨hcall, hcalls⟩ := List.forall_mem_cons.mp hcalls
    obtain ⟨hwp, hpos, hle⟩ := hcall
    obtain ⟨event, hevent, -⟩ :=
      translateKeyboardEvent_of_transition mapVirtualKey hwp
    have hone := injected_translate hwp hpos hle
    rw [hevent, Option.bind_some] at hone
    rw [List.filterMap_cons_some hevent, List.map_cons, List.map_cons, List.cons.injEq, ih hcalls,
      List.forall_mem_cons, ← hone]
    rfl

end Machines

/-- A press and a release of `A`, and a media key that has no `Key`. -/
def typedA : List HookCall := [⟨.keyDown, ⟨'A'.val, 0x1e⟩, .none⟩, ⟨.keyUp, ⟨'A'.val, 0x1e⟩, .none⟩,
  ⟨.keyDown, ⟨0xb3, 0⟩, .none⟩]

theorem injected_eq_captured_typedA :
    (∀ call ∈ typedA, call.wp ≠ .other ∧ 0 < (captured id call).1.toNat ∧
      (captured id call).1.toNat ≤ 0xffff) ∧
    ((typedA.filterMap (translateKeyboardEvent id)).map injected =
        typedA.map (some ∘ captured id) ↔
      ∀ call ∈ typedA, ¬ IsDigit1To9 (captured id call).1) :=
  ⟨by decide, injected_eq_captured_iff id typedA (by decide)⟩

/-- The digit `1` is injected as Return. -/
theorem injected_digit1_return :
    ([⟨.keyDown, ⟨'1'.val, 0x02⟩, .none⟩].filterMap (translateKeyboardEvent id)).map injected =
        [some (vkReturn.toUInt32, false)] ∧
      ([⟨.keyDown, ⟨'1'.val, 0x02⟩, .none⟩].map (some ∘ captured id)) =
        [some ('1'.val, false)] ∧
      vkReturn.toUInt32 ≠ '1'.val := by
  decide

end Mksync
