import Mksync.InputEvents
import Mksync.Win32Key
import Mathlib.Data.List.Basic

/-!
# Key translation on Linux

libei reports the codes of `linux/input-event-codes.h`. The reverse map is derived from the
map by a search through the usages, so that the two tables cannot drift apart.
-/
namespace Mksync

namespace Key

def b : Key := ⟨0x05⟩
def c : Key := ⟨0x06⟩
def d : Key := ⟨0x07⟩
def e : Key := ⟨0x08⟩
def f : Key := ⟨0x09⟩
def g : Key := ⟨0x0a⟩
def h : Key := ⟨0x0b⟩
def i : Key := ⟨0x0c⟩
def j : Key := ⟨0x0d⟩
def k : Key := ⟨0x0e⟩
def l : Key := ⟨0x0f⟩
def m : Key := ⟨0x10⟩
def n : Key := ⟨0x11⟩
def o : Key := ⟨0x12⟩
def p : Key := ⟨0x13⟩
def q : Key := ⟨0x14⟩
def r : Key := ⟨0x15⟩
def s : Key := ⟨0x16⟩
def t : Key := ⟨0x17⟩
def u : Key := ⟨0x18⟩
def v : Key := ⟨0x19⟩
def w : Key := ⟨0x1a⟩
def x : Key := ⟨0x1b⟩
def y : Key := ⟨0x1c⟩
def digit2 : Key := ⟨0x1f⟩
def digit3 : Key := ⟨0x20⟩
def digit4 : Key := ⟨0x21⟩
def digit5 : Key := ⟨0x22⟩
def digit6 : Key := ⟨0x23⟩
def digit7 : Key := ⟨0x24⟩
def digit8 : Key := ⟨0x25⟩
def hashTilde : Key := ⟨0x32⟩
def f14 : Key := ⟨0x69⟩
def f15 : Key := ⟨0x6a⟩
def f16 : Key := ⟨0x6b⟩
def f17 : Key := ⟨0x6c⟩
def f18 : Key := ⟨0x6d⟩
def f19 : Key := ⟨0x6e⟩
def f20 : Key := ⟨0x6f⟩
def f21 : Key := ⟨0x70⟩
def f22 : Key := ⟨0x71⟩
def f23 : Key := ⟨0x72⟩
def key102nd : Key := ⟨0x64⟩
def compose : Key := ⟨0x65⟩
def power : Key := ⟨0x66⟩
def keypadEqual : Key := ⟨0x67⟩
def keypadComma : Key := ⟨0x85⟩
def open' : Key := ⟨0x74⟩
def help : Key := ⟨0x75⟩
def props : Key := ⟨0x76⟩
def front : Key := ⟨0x77⟩
def stop : Key := ⟨0x78⟩
def again : Key := ⟨0x79⟩
def undo : Key := ⟨0x7a⟩
def cut : Key := ⟨0x7b⟩
def copy : Key := ⟨0x7c⟩
def paste : Key := ⟨0x7d⟩
def find : Key := ⟨0x7e⟩
def ro : Key := ⟨0x87⟩
def katakanaHiragana : Key := ⟨0x88⟩
def yen : Key := ⟨0x89⟩
def henkan : Key := ⟨0x8a⟩
def muhenkan : Key := ⟨0x8b⟩
def keypadJpComma : Key := ⟨0x8c⟩
def hangeul : Key := ⟨0x90⟩
def hanja : Key := ⟨0x91⟩
def katakana : Key := ⟨0x92⟩
def hiragana : Key := ⟨0x93⟩
def zenkakuHankaku : Key := ⟨0x94⟩
def mediaEjectCd : Key := ⟨0xec⟩
def mediaWww : Key := ⟨0xf0⟩
def mediaBack : Key := ⟨0xf1⟩
def mediaForward : Key := ⟨0xf2⟩
def mediaStop : Key := ⟨0xf3⟩
def mediaFind : Key := ⟨0xf4⟩
def mediaScrollUp : Key := ⟨0xf5⟩
def mediaScrollDown : Key := ⟨0xf6⟩
def mediaEdit : Key := ⟨0xf7⟩
def mediaSleep : Key := ⟨0xf8⟩
def mediaCoffee : Key := ⟨0xf9⟩
def mediaRefresh : Key := ⟨0xfa⟩
def mediaCalc : Key := ⟨0xfb⟩

end Key

namespace Wayland

/-! ### The codes of `linux/input-event-codes.h` -/

def KEY_A : UInt32 := 30
def KEY_B : UInt32 := 48
def KEY_C : UInt32 := 46
def KEY_D : UInt32 := 32
def KEY_E : UInt32 := 18
def KEY_F : UInt32 := 33
def KEY_G : UInt32 := 34
def KEY_H : UInt32 := 35
def KEY_I : UInt32 := 23
def KEY_J : UInt32 := 36
def KEY_K : UInt32 := 37
def KEY_L : UInt32 := 38
def KEY_M : UInt32 := 50
def KEY_N : UInt32 := 49
def KEY_O : UInt32 := 24
def KEY_P : UInt32 := 25
def KEY_Q : UInt32 := 16
def KEY_R : UInt32 := 19
def KEY_S : UInt32 := 31
def KEY_T : UInt32 := 20
def KEY_U : UInt32 := 22
def KEY_V : UInt32 := 47
def KEY_W : UInt32 := 17
def KEY_X : UInt32 := 45
def KEY_Y : UInt32 := 21
def KEY_Z : UInt32 := 44
def KEY_1 : UInt32 := 2
def KEY_2 : UInt32 := 3
def KEY_3 : UInt32 := 4
def KEY_4 : UInt32 := 5
def KEY_5 : UInt32 := 6
def KEY_6 : UInt32 := 7
def KEY_7 : UInt32 := 8
def KEY_8 : UInt32 := 9
def KEY_9 : UInt32 := 10
def KEY_0 : UInt32 := 11
def KEY_ENTER : UInt32 := 28
def KEY_ESC : UInt32 := 1
def KEY_BACKSPACE : UInt32 := 14
def KEY_TAB : UInt32 := 15
def KEY_SPACE : UInt32 := 57
def KEY_MINUS : UInt32 := 12
def KEY_EQUAL : UInt32 := 13
def KEY_LEFTBRACE : UInt32 := 26
def KEY_RIGHTBRACE : UInt32 := 27
def KEY_BACKSLASH : UInt32 := 43
def KEY_102ND : UInt32 := 86
def KEY_SEMICOLON : UInt32 := 39
def KEY_APOSTROPHE : UInt32 := 40
def KEY_GRAVE : UInt32 := 41
def KEY_COMMA : UInt32 := 51
def KEY_DOT : UInt32 := 52
def KEY_SLASH : UInt32 := 53
def KEY_CAPSLOCK : UInt32 := 58
def KEY_F1 : UInt32 := 59
def KEY_F2 : UInt32 := 60
def KEY_F3 : UInt32 := 61
def KEY_F4 : UInt32 := 62
def KEY_F5 : UInt32 := 63
def KEY_F6 : UInt32 := 64
def KEY_F7 : UInt32 := 65
def KEY_F8 : UInt32 := 66
def KEY_F9 : UInt32 := 67
def KEY_F10 : UInt32 := 68
def KEY_F11 : UInt32 := 87
def KEY_F12 : UInt32 := 88
def KEY_F13 : UInt32 := 183
def KEY_F14 : UInt32 := 184
def KEY_F15 : UInt32 := 185
def KEY_F16 : UInt32 := 186
def KEY_F17 : UInt32 := 187
def KEY_F18 : UInt32 := 188
def KEY_F19 : UInt32 := 189
def KEY_F20 : UInt32 := 190
def KEY_F21 : UInt32 := 191
def KEY_F22 : UInt32 := 192
def KEY_F23 : UInt32 := 193
def KEY_F24 : UInt32 := 194
def KEY_SYSRQ : UInt32 := 99
def KEY_SCROLLLOCK : UInt32 := 70
def KEY_PAUSE : UInt32 := 119
def KEY_INSERT : UInt32 := 110
def KEY_HOME : UInt32 := 102
def KEY_PAGEUP : UInt32 := 104
def KEY_DELETE : UInt32 := 111
def KEY_END : UInt32 := 107
def KEY_PAGEDOWN : UInt32 := 109
def KEY_RIGHT : UInt32 := 106
def KEY_LEFT : UInt32 := 105
def KEY_DOWN : UInt32 := 108
def KEY_UP : UInt32 := 103
def KEY_NUMLOCK : UInt32 := 69
def KEY_KPSLASH : UInt32 := 98
def KEY_KPASTERISK : UInt32 := 55
def KEY_KPMINUS : UInt32 := 74
def KEY_KPPLUS : UInt32 := 78
def KEY_KPENTER : UInt32 := 96
def KEY_KP1 : UInt32 := 79
def KEY_KP2 : UInt32 := 80
def KEY_KP3 : UInt32 := 81
def KEY_KP4 : UInt32 := 75
def KEY_KP5 : UInt32 := 76
def KEY_KP6 : UInt32 := 77
def KEY_KP7 : UInt32 := 71
def KEY_KP8 : UInt32 := 72
def KEY_KP9 : UInt32 := 73
def KEY_KP0 : UInt32 := 82
def KEY_KPDOT : UInt32 := 83
def KEY_COMPOSE : UInt32 := 127
def KEY_POWER : UInt32 := 116
def KEY_KPEQUAL : UInt32 := 117
def KEY_KPCOMMA : UInt32 := 121
def KEY_OPEN : UInt32 := 134
def KEY_HELP : UInt32 := 138
def KEY_PROPS : UInt32 := 130
def KEY_FRONT : UInt32 := 132
def KEY_STOP : UInt32 := 128
def KEY_AGAIN : UInt32 := 129
def KEY_UNDO : UInt32 := 131
def KEY_CUT : UInt32 := 137
def KEY_COPY : UInt32 := 133
def KEY_PASTE : UInt32 := 135
def KEY_FIND : UInt32 := 136
def KEY_RO : UInt32 := 89
def KEY_KATAKANAHIRAGANA : UInt32 := 93
def KEY_YEN : UInt32 := 124
def KEY_HENKAN : UInt32 := 92
def KEY_MUHENKAN : UInt32 := 94
def KEY_KPJPCOMMA : UInt32 := 95
def KEY_HANGEUL : UInt32 := 122
def KEY_HANJA : UInt32 := 123
def KEY_KATAKANA : UInt32 := 90
def KEY_HIRAGANA : UInt32 := 91
def KEY_ZENKAKUHANKAKU : UInt32 := 85
def KEY_LEFTCTRL : UInt32 := 29
def KEY_RIGHTCTRL : UInt32 := 97
def KEY_LEFTSHIFT : UInt32 := 42
def KEY_RIGHTSHIFT : UInt32 := 54
def KEY_LEFTALT : UInt32 := 56
def KEY_RIGHTALT : UInt32 := 100
def KEY_LEFTMETA : UInt32 := 125
def KEY_RIGHTMETA : UInt32 := 126
def KEY_MUTE : UInt32 := 113
def KEY_VOLUMEUP : UInt32 := 115
def KEY_VOLUMEDOWN : UInt32 := 114
def KEY_PLAYPAUSE : UInt32 := 164
def KEY_STOPCD : UInt32 := 166
def KEY_PREVIOUSSONG : UInt32 := 165
def KEY_NEXTSONG : UInt32 := 163
def KEY_EJECTCD : UInt32 := 161
def KEY_WWW : UInt32 := 150
def KEY_BACK : UInt32 := 158
def KEY_FORWARD : UInt32 := 159
def KEY_SCROLLUP : UInt32 := 177
def KEY_SCROLLDOWN : UInt32 := 178
def KEY_EDIT : UInt32 := 176
def KEY_SLEEP : UInt32 := 142
def KEY_COFFEE : UInt32 := 152
def KEY_REFRESH : UInt32 := 173
def KEY_CALC : UInt32 := 140

/-- The cases of the switch in `evdevKeyCode`. -/
def evdevCases : List (Key × UInt32) :=
  [(.a, KEY_A), (.b, KEY_B), (.c, KEY_C), (.d, KEY_D), (.e, KEY_E), (.f, KEY_F), (.g, KEY_G),
   (.h, KEY_H), (.i, KEY_I), (.j, KEY_J), (.k, KEY_K), (.l, KEY_L), (.m, KEY_M), (.n, KEY_N),
   (.o, KEY_O), (.p, KEY_P), (.q, KEY_Q), (.r, KEY_R), (.s, KEY_S), (.t, KEY_T), (.u, KEY_U),
   (.v, KEY_V), (.w, KEY_W), (.x, KEY_X), (.y, KEY_Y), (.z, KEY_Z), (.digit1, KEY_1),
   (.digit2, KEY_2), (.digit3, KEY_3), (.digit4, KEY_4), (.digit5, KEY_5), (.digit6, KEY_6),
   (.digit7, KEY_7), (.digit8, KEY_8), (.digit9, KEY_9), (.digit0, KEY_0), (.enter, KEY_ENTER),
   (.esc, KEY_ESC), (.backspace, KEY_BACKSPACE), (.tab, KEY_TAB), (.space, KEY_SPACE),
   (.minus, KEY_MINUS), (.equal, KEY_EQUAL), (.leftBrace, KEY_LEFTBRACE),
   (.rightBrace, KEY_RIGHTBRACE), (.backslash, KEY_BACKSLASH), (.hashTilde, KEY_102ND),
   (.semicolon, KEY_SEMICOLON), (.apostrophe, KEY_APOSTROPHE), (.grave, KEY_GRAVE),
   (.comma, KEY_COMMA), (.dot, KEY_DOT), (.slash, KEY_SLASH), (.capsLock, KEY_CAPSLOCK),
   (.f1, KEY_F1), (.f2, KEY_F2), (.f3, KEY_F3), (.f4, KEY_F4), (.f5, KEY_F5), (.f6, KEY_F6),
   (.f7, KEY_F7), (.f8, KEY_F8), (.f9, KEY_F9), (.f10, KEY_F10), (.f11, KEY_F11), (.f12, KEY_F12),
   (.f13, KEY_F13), (.f14, KEY_F14), (.f15, KEY_F15), (.f16, KEY_F16), (.f17, KEY_F17),
   (.f18, KEY_F18), (.f19, KEY_F19), (.f20, KEY_F20), (.f21, KEY_F21), (.f22, KEY_F22),
   (.f23, KEY_F23), (.f24, KEY_F24), (.sysRq, KEY_SYSRQ), (.scrollLock, KEY_SCROLLLOCK),
   (.pause, KEY_PAUSE), (.insert, KEY_INSERT), (.home, KEY_HOME), (.pageUp, KEY_PAGEUP),
   (.delete, KEY_DELETE), (.end', KEY_END), (.pageDown, KEY_PAGEDOWN), (.right, KEY_RIGHT),
   (.left, KEY_LEFT), (.down, KEY_DOWN), (.up, KEY_UP), (.numLock, KEY_NUMLOCK),
   (.keypadSlash, KEY_KPSLASH), (.keypadAsterisk, KEY_KPASTERISK), (.keypadMinus, KEY_KPMINUS),
   (.keypadPlus, KEY_KPPLUS), (.keypadEnter, KEY_KPENTER), (.keypad1, KEY_KP1), (.keypad2, KEY_KP2),
   (.keypad3, KEY_KP3), (.keypad4, KEY_KP4), (.keypad5, KEY_KP5), (.keypad6, KEY_KP6),
   (.keypad7, KEY_KP7), (.keypad8, KEY_KP8), (.keypad9, KEY_KP9), (.keypad0, KEY_KP0),
   (.keypadDot, KEY_KPDOT), (.key102nd, KEY_102ND), (.compose, KEY_COMPOSE), (.power, KEY_POWER),
   (.keypadEqual, KEY_KPEQUAL), (.keypadComma, KEY_KPCOMMA), (.open', KEY_OPEN), (.help, KEY_HELP),
   (.props, KEY_PROPS), (.front, KEY_FRONT), (.stop, KEY_STOP), (.again, KEY_AGAIN),
   (.undo, KEY_UNDO), (.cut, KEY_CUT), (.copy, KEY_COPY), (.paste, KEY_PASTE), (.find, KEY_FIND),
   (.ro, KEY_RO), (.katakanaHiragana, KEY_KATAKANAHIRAGANA), (.yen, KEY_YEN), (.henkan, KEY_HENKAN),
   (.muhenkan, KEY_MUHENKAN), (.keypadJpComma, KEY_KPJPCOMMA), (.hangeul, KEY_HANGEUL),
   (.hanja, KEY_HANJA), (.katakana, KEY_KATAKANA), (.hiragana, KEY_HIRAGANA),
   (.zenkakuHankaku, KEY_ZENKAKUHANKAKU), (.leftCtrl, KEY_LEFTCTRL), (.rightCtrl, KEY_RIGHTCTRL),
   (.leftShift, KEY_LEFTSHIFT), (.rightShift, KEY_RIGHTSHIFT), (.leftAlt, KEY_LEFTALT),
   (.rightAlt, KEY_RIGHTALT), (.leftMeta, KEY_LEFTMETA), (.rightMeta, KEY_RIGHTMETA),
   (.mute, KEY_MUTE), (.mediaMute, KEY_MUTE), (.volumeUp, KEY_VOLUMEUP),
   (.mediaVolumeUp, KEY_VOLUMEUP), (.volumeDown, KEY_VOLUMEDOWN),
   (.mediaVolumeDown, KEY_VOLUMEDOWN), (.mediaPlayPause, KEY_PLAYPAUSE), (.mediaStopCd, KEY_STOPCD),
   (.mediaPreviousSong, KEY_PREVIOUSSONG), (.mediaNextSong, KEY_NEXTSONG),
   (.mediaEjectCd, KEY_EJECTCD), (.mediaWww, KEY_WWW), (.mediaBack, KEY_BACK),
   (.mediaForward, KEY_FORWARD), (.mediaStop, KEY_STOP), (.mediaFind, KEY_FIND),
   (.mediaScrollUp, KEY_SCROLLUP), (.mediaScrollDown, KEY_SCROLLDOWN), (.mediaEdit, KEY_EDIT),
   (.mediaSleep, KEY_SLEEP), (.mediaCoffee, KEY_COFFEE), (.mediaRefresh, KEY_REFRESH),
   (.mediaCalc, KEY_CALC)]

def evdevKeyCode (key : Key) : Option UInt32 :=
  (evdevCases.find? fun row => row.1 = key).map (·.2)

/-- The usages up to the last one, in the order of the search. -/
def usages : List Key :=
  (List.range (Key.mediaCalc.code.toNat + 1)).map fun usage => ⟨.ofNat usage⟩

def keyFromEvdev (keyCode : UInt32) : Key :=
  (usages.find? fun key => evdevKeyCode key = some keyCode).getD .none

/-! ### The reverse map -/

variable {key : Key} {keyCode : UInt32}

theorem mem_usages (h : key.code ≤ Key.mediaCalc.code) : key ∈ usages := by
  rw [usages, List.mem_map]
  refine ⟨key.code.toNat, ?_, by simp⟩
  rw [List.mem_range, Nat.lt_succ_iff]
  exact UInt32.le_iff_toNat_le.mp h

theorem mem_evdevCases (h : evdevKeyCode key = some keyCode) : (key, keyCode) ∈ evdevCases := by
  obtain ⟨row, hfind, hcode⟩ := Option.map_eq_some_iff.mp h
  have hkey : row.1 = key := by simpa using List.find?_some hfind
  rw [← hkey, ← hcode]
  exact List.mem_of_find?_eq_some hfind

/-- Every mapped key is one that the search visits. -/
theorem mem_usages_of_evdevKeyCode (h : evdevKeyCode key = some keyCode) : key ∈ usages := by
  have hcases : ∀ row ∈ evdevCases, row.1.code ≤ Key.mediaCalc.code := by
    decide +kernel
  exact mem_usages (hcases _ (mem_evdevCases h))

/-- A code that some key has is captured as a key with this code: what is typed on one Linux
machine is typed on another, although keys with one code are not told apart. -/
theorem evdevKeyCode_keyFromEvdev (h : evdevKeyCode key = some keyCode) :
    evdevKeyCode (keyFromEvdev keyCode) = some keyCode := by
  unfold keyFromEvdev
  cases hfind : usages.find? fun key => evdevKeyCode key = some keyCode with
  | none =>
    have habsent := List.find?_eq_none.mp hfind key (mem_usages_of_evdevKeyCode h)
    simp [h] at habsent
  | some first => simpa using List.find?_some hfind

/-- A key whose code is its own is captured as itself. -/
theorem keyFromEvdev_of_unshared (h : evdevKeyCode key = some keyCode)
    (hunshared : ∀ row ∈ evdevCases, row.2 = keyCode → row.1 = key) :
    keyFromEvdev keyCode = key :=
  hunshared _ (mem_evdevCases (evdevKeyCode_keyFromEvdev h)) rfl

end Wayland
end Mksync
