import Mksync.EvdevKeymap

/-!
# Key translation on X11

Capture turns the keysym of a key into a `Key`, injection turns a `Key` back into a keysym and
presses the first key that carries it. Both switches are tables of their rows here, in the
order of the source.
-/
namespace Mksync
namespace Xcb

/-! ### The keysyms of `X11/keysym.h` and `X11/XF86keysym.h` -/

def XK_BackSpace : UInt32 := 0xff08
def XK_Tab : UInt32 := 0xff09
def XK_Return : UInt32 := 0xff0d
def XK_Pause : UInt32 := 0xff13
def XK_Scroll_Lock : UInt32 := 0xff14
def XK_Escape : UInt32 := 0xff1b
def XK_Home : UInt32 := 0xff50
def XK_Left : UInt32 := 0xff51
def XK_Up : UInt32 := 0xff52
def XK_Right : UInt32 := 0xff53
def XK_Down : UInt32 := 0xff54
def XK_Page_Up : UInt32 := 0xff55
def XK_Page_Down : UInt32 := 0xff56
def XK_End : UInt32 := 0xff57
def XK_Print : UInt32 := 0xff61
def XK_Insert : UInt32 := 0xff63
def XK_Num_Lock : UInt32 := 0xff7f
def XK_KP_Enter : UInt32 := 0xff8d
def XK_KP_Multiply : UInt32 := 0xffaa
def XK_KP_Add : UInt32 := 0xffab
def XK_KP_Subtract : UInt32 := 0xffad
def XK_KP_Decimal : UInt32 := 0xffae
def XK_KP_Divide : UInt32 := 0xffaf
def XK_KP_0 : UInt32 := 0xffb0
def XK_KP_1 : UInt32 := 0xffb1
def XK_KP_2 : UInt32 := 0xffb2
def XK_KP_3 : UInt32 := 0xffb3
def XK_KP_4 : UInt32 := 0xffb4
def XK_KP_5 : UInt32 := 0xffb5
def XK_KP_6 : UInt32 := 0xffb6
def XK_KP_7 : UInt32 := 0xffb7
def XK_KP_8 : UInt32 := 0xffb8
def XK_KP_9 : UInt32 := 0xffb9
def XK_F1 : UInt32 := 0xffbe
def XK_F2 : UInt32 := 0xffbf
def XK_F3 : UInt32 := 0xffc0
def XK_F4 : UInt32 := 0xffc1
def XK_F5 : UInt32 := 0xffc2
def XK_F6 : UInt32 := 0xffc3
def XK_F7 : UInt32 := 0xffc4
def XK_F8 : UInt32 := 0xffc5
def XK_F9 : UInt32 := 0xffc6
def XK_F10 : UInt32 := 0xffc7
def XK_F11 : UInt32 := 0xffc8
def XK_F12 : UInt32 := 0xffc9
def XK_F13 : UInt32 := 0xffca
def XK_Shift_L : UInt32 := 0xffe1
def XK_Shift_R : UInt32 := 0xffe2
def XK_Control_L : UInt32 := 0xffe3
def XK_Control_R : UInt32 := 0xffe4
def XK_Caps_Lock : UInt32 := 0xffe5
def XK_Alt_L : UInt32 := 0xffe9
def XK_Alt_R : UInt32 := 0xffea
def XK_Super_L : UInt32 := 0xffeb
def XK_Super_R : UInt32 := 0xffec
def XK_Delete : UInt32 := 0xffff
def XK_space : UInt32 := 0x20
def XK_apostrophe : UInt32 := 0x27
def XK_comma : UInt32 := 0x2c
def XK_minus : UInt32 := 0x2d
def XK_period : UInt32 := 0x2e
def XK_slash : UInt32 := 0x2f
def XK_0 : UInt32 := 0x30
def XK_1 : UInt32 := 0x31
def XK_9 : UInt32 := 0x39
def XK_semicolon : UInt32 := 0x3b
def XK_equal : UInt32 := 0x3d
def XK_A : UInt32 := 0x41
def XK_Z : UInt32 := 0x5a
def XK_bracketleft : UInt32 := 0x5b
def XK_backslash : UInt32 := 0x5c
def XK_bracketright : UInt32 := 0x5d
def XK_grave : UInt32 := 0x60
def XK_a : UInt32 := 0x61
def XK_z : UInt32 := 0x7a
def XF86XK_AudioLowerVolume : UInt32 := 0x1008ff11
def XF86XK_AudioMute : UInt32 := 0x1008ff12
def XF86XK_AudioRaiseVolume : UInt32 := 0x1008ff13
def XF86XK_AudioPlay : UInt32 := 0x1008ff14
def XF86XK_AudioStop : UInt32 := 0x1008ff15
def XF86XK_AudioPrev : UInt32 := 0x1008ff16
def XF86XK_AudioNext : UInt32 := 0x1008ff17

/-- The cases of the switch in `translateKeySym`. -/
def keySymCases : List (UInt32 × Key) :=
  [(XK_0, .digit0), (XK_Return, .enter), (XK_KP_Enter, .keypadEnter), (XK_Escape, .esc),
   (XK_BackSpace, .backspace), (XK_Tab, .tab), (XK_space, .space), (XK_minus, .minus),
   (XK_equal, .equal), (XK_bracketleft, .leftBrace), (XK_bracketright, .rightBrace),
   (XK_backslash, .backslash), (XK_semicolon, .semicolon), (XK_apostrophe, .apostrophe),
   (XK_grave, .grave), (XK_comma, .comma), (XK_period, .dot), (XK_slash, .slash),
   (XK_Caps_Lock, .capsLock), (XK_F1, .f1), (XK_F2, .f2), (XK_F3, .f3), (XK_F4, .f4),
   (XK_F5, .f5), (XK_F6, .f6), (XK_F7, .f7), (XK_F8, .f8), (XK_F9, .f9), (XK_F10, .f10),
   (XK_F11, .f11), (XK_F12, .f12), (XK_Print, .sysRq), (XK_Scroll_Lock, .scrollLock),
   (XK_Pause, .pause), (XK_Insert, .insert), (XK_Home, .home), (XK_Page_Up, .pageUp),
   (XK_Delete, .delete), (XK_End, .end'), (XK_Page_Down, .pageDown), (XK_Right, .right),
   (XK_Left, .left), (XK_Down, .down), (XK_Up, .up), (XK_Num_Lock, .numLock),
   (XK_KP_Divide, .keypadSlash), (XK_KP_Multiply, .keypadAsterisk),
   (XK_KP_Subtract, .keypadMinus), (XK_KP_Add, .keypadPlus), (XK_KP_0, .keypad0),
   (XK_KP_1, .keypad1), (XK_KP_2, .keypad2), (XK_KP_3, .keypad3), (XK_KP_4, .keypad4),
   (XK_KP_5, .keypad5), (XK_KP_6, .keypad6), (XK_KP_7, .keypad7), (XK_KP_8, .keypad8),
   (XK_KP_9, .keypad9), (XK_KP_Decimal, .keypadDot), (XK_Control_L, .leftCtrl),
   (XK_Control_R, .rightCtrl), (XK_Shift_L, .leftShift), (XK_Shift_R, .rightShift),
   (XK_Alt_L, .leftAlt), (XK_Alt_R, .rightAlt), (XK_Super_L, .leftMeta),
   (XK_Super_R, .rightMeta)]

/-- Keysyms that follow each other as their keys do. -/
def inKeySymRange (first last : UInt32) (key : Key) (keySym : UInt32) : Option Key :=
  if first ≤ keySym ∧ keySym ≤ last then some ⟨key.code + (keySym - first)⟩ else none

def translateKeySym (keySym : UInt32) : Key :=
  (inKeySymRange XK_a XK_z .a keySym <|> inKeySymRange XK_A XK_Z .a keySym <|>
    inKeySymRange XK_1 XK_9 .digit1 keySym <|>
    (keySymCases.find? fun row => row.1 = keySym).map (·.2)).getD .none

/-- The cases of the switch in `keySymFor`. -/
def keyCases : List (Key × UInt32) :=
  [(.digit0, XK_0), (.enter, XK_Return), (.keypadEnter, XK_KP_Enter), (.esc, XK_Escape),
   (.backspace, XK_BackSpace), (.tab, XK_Tab), (.space, XK_space), (.minus, XK_minus),
   (.equal, XK_equal), (.leftBrace, XK_bracketleft), (.rightBrace, XK_bracketright),
   (.backslash, XK_backslash), (.semicolon, XK_semicolon), (.apostrophe, XK_apostrophe),
   (.grave, XK_grave), (.comma, XK_comma), (.dot, XK_period), (.slash, XK_slash),
   (.capsLock, XK_Caps_Lock), (.sysRq, XK_Print), (.scrollLock, XK_Scroll_Lock),
   (.pause, XK_Pause), (.insert, XK_Insert), (.home, XK_Home), (.pageUp, XK_Page_Up),
   (.delete, XK_Delete), (.end', XK_End), (.pageDown, XK_Page_Down), (.right, XK_Right),
   (.left, XK_Left), (.down, XK_Down), (.up, XK_Up), (.numLock, XK_Num_Lock),
   (.keypadSlash, XK_KP_Divide), (.keypadAsterisk, XK_KP_Multiply),
   (.keypadMinus, XK_KP_Subtract), (.keypadPlus, XK_KP_Add), (.keypad0, XK_KP_0),
   (.keypadDot, XK_KP_Decimal), (.leftCtrl, XK_Control_L), (.rightCtrl, XK_Control_R),
   (.leftShift, XK_Shift_L), (.rightShift, XK_Shift_R), (.leftAlt, XK_Alt_L),
   (.rightAlt, XK_Alt_R), (.leftMeta, XK_Super_L), (.rightMeta, XK_Super_R),
   (.volumeUp, XF86XK_AudioRaiseVolume), (.mediaVolumeUp, XF86XK_AudioRaiseVolume),
   (.volumeDown, XF86XK_AudioLowerVolume), (.mediaVolumeDown, XF86XK_AudioLowerVolume),
   (.mute, XF86XK_AudioMute), (.mediaMute, XF86XK_AudioMute),
   (.mediaPlayPause, XF86XK_AudioPlay), (.mediaStopCd, XF86XK_AudioStop),
   (.mediaStop, XF86XK_AudioStop), (.mediaPreviousSong, XF86XK_AudioPrev),
   (.mediaNextSong, XF86XK_AudioNext)]

/-- Keys that follow each other as their keysyms do. -/
def inKeyRange (first last : Key) (keySym : UInt32) (key : Key) : Option UInt32 :=
  if first.code ≤ key.code ∧ key.code ≤ last.code then some (keySym + (key.code - first.code))
  else none

def keySymFor (key : Key) : Option UInt32 :=
  inKeyRange .a .z XK_a key <|> inKeyRange .digit1 .digit9 XK_1 key <|>
    inKeyRange .f1 .f12 XK_F1 key <|> inKeyRange .f13 .f24 XK_F13 key <|>
    inKeyRange .keypad1 .keypad9 XK_KP_1 key <|>
    (keyCases.find? fun row => row.1 = key).map (·.2)

/-- The keyboard mapping of a display: the keysym of the first column of a key, and the keys
that carry a keysym. -/
structure KeySymbols where
  keySym : UInt8 → UInt32
  keyCodes : UInt32 → List UInt8

/-- The first key that carries the keysym, or else the native code. -/
def keyCodeFor (symbols : KeySymbols) (event : KeyEvent) : Option UInt8 :=
  let native := if 0 < event.nativeCode ∧ event.nativeCode ≤ 255 then
    some (UInt8.ofNat event.nativeCode) else none
  match keySymFor event.key with
  | none => native
  | some keySym =>
    match symbols.keyCodes keySym with
    | [] => native
    | keyCode :: _ => if keyCode ≠ 0 then some keyCode else native

/-! ### There and back -/

/-- The keysym a key is looked up by: capital letters by their small ones. -/
def folded (keySym : UInt32) : UInt32 :=
  if XK_A ≤ keySym ∧ keySym ≤ XK_Z then keySym - XK_A + XK_a else keySym

theorem inKeySymRange_eq_some {first last keySym : UInt32} {key found : Key}
    (h : inKeySymRange first last key keySym = some found) :
    first ≤ keySym ∧ keySym ≤ last ∧ found = ⟨key.code + (keySym - first)⟩ := by
  rw [inKeySymRange] at h
  split_ifs at h with hrange
  exact ⟨hrange.1, hrange.2, (Option.some.inj h).symm⟩

/-- No code of a range runs over. -/
theorem toNat_code_add {first last keySym : UInt32} {low high : Key} (hfirst : first ≤ keySym)
    (hlast : keySym ≤ last)
    (hspan : low.code.toNat + (last.toNat - first.toNat) ≤ high.code.toNat) :
    (low.code + (keySym - first)).toNat = low.code.toNat + (keySym.toNat - first.toNat) := by
  have hhigh := high.code.toNat_lt
  have hoffset := UInt32.toNat_sub_of_le keySym first hfirst
  rw [UInt32.le_iff_toNat_le] at hlast
  rw [UInt32.toNat_add]
  omega

/-- A key that was found in a range of keysyms is found in the range of the keys. -/
theorem inKeyRange_of_keySym {first last keySym base : UInt32} {low high : Key}
    (hfirst : first ≤ keySym) (hlast : keySym ≤ last)
    (hspan : low.code.toNat + (last.toNat - first.toNat) ≤ high.code.toNat) :
    inKeyRange low high base ⟨low.code + (keySym - first)⟩ = some (base + (keySym - first)) := by
  have hcode := toNat_code_add hfirst hlast hspan
  have hback : low.code + (keySym - first) - low.code = keySym - first := by
    rw [UInt32.add_comm, UInt32.add_sub_cancel]
  rw [UInt32.le_iff_toNat_le] at hlast
  rw [inKeyRange, if_pos, hback]
  simp only [UInt32.le_iff_toNat_le, hcode]
  omega

theorem keySymFor_of_mem {row : UInt32 × Key} (hmem : row ∈ keySymCases) :
    keySymFor row.2 = some (folded row.1) := by
  revert row
  decide

/-- A key that a keysym was translated to is looked up by the same keysym. -/
theorem keySymFor_translateKeySym {keySym : UInt32} (h : translateKeySym keySym ≠ .none) :
    keySymFor (translateKeySym keySym) = some (folded keySym) := by
  cases hsmall : inKeySymRange XK_a XK_z .a keySym with
  | some key =>
    obtain ⟨hfirst, hlast, rfl⟩ := inKeySymRange_eq_some hsmall
    have hkey : translateKeySym keySym = ⟨Key.a.code + (keySym - XK_a)⟩ := by
      rw [translateKeySym, hsmall]
      rfl
    have hfound : inKeyRange .a .z XK_a ⟨Key.a.code + (keySym - XK_a)⟩ =
        some (XK_a + (keySym - XK_a)) := inKeyRange_of_keySym hfirst hlast (by decide)
    have hfold : folded keySym = keySym := by
      rw [folded, if_neg]
      rintro ⟨-, hcapital⟩
      exact absurd (UInt32.le_trans hfirst hcapital) (by decide)
    rw [hkey, keySymFor, hfound, hfold, UInt32.add_comm, UInt32.sub_add_cancel]
    rfl
  | none =>
  cases hcapital : inKeySymRange XK_A XK_Z .a keySym with
  | some key =>
    obtain ⟨hfirst, hlast, rfl⟩ := inKeySymRange_eq_some hcapital
    have hkey : translateKeySym keySym = ⟨Key.a.code + (keySym - XK_A)⟩ := by
      rw [translateKeySym, hsmall, hcapital]
      rfl
    have hfound : inKeyRange .a .z XK_a ⟨Key.a.code + (keySym - XK_A)⟩ =
        some (XK_a + (keySym - XK_A)) := inKeyRange_of_keySym hfirst hlast (by decide)
    rw [hkey, keySymFor, hfound, folded, if_pos ⟨hfirst, hlast⟩, UInt32.add_comm]
    rfl
  | none =>
  cases hdigit : inKeySymRange XK_1 XK_9 .digit1 keySym with
  | some key =>
    obtain ⟨hfirst, hlast, rfl⟩ := inKeySymRange_eq_some hdigit
    have hkey : translateKeySym keySym = ⟨Key.digit1.code + (keySym - XK_1)⟩ := by
      rw [translateKeySym, hsmall, hcapital, hdigit]
      rfl
    have hspan : Key.digit1.code.toNat + (XK_9.toNat - XK_1.toNat) ≤ Key.digit9.code.toNat := by
      decide
    have hcode := toNat_code_add hfirst hlast hspan
    have hletter : inKeyRange .a .z XK_a ⟨Key.digit1.code + (keySym - XK_1)⟩ = none := by
      rw [inKeyRange, if_neg]
      rintro ⟨-, hz⟩
      have hlate : Key.z.code.toNat < Key.digit1.code.toNat := by decide
      rw [UInt32.le_iff_toNat_le, hcode] at hz
      omega
    have hfound : inKeyRange .digit1 .digit9 XK_1 ⟨Key.digit1.code + (keySym - XK_1)⟩ =
        some (XK_1 + (keySym - XK_1)) := inKeyRange_of_keySym hfirst hlast (by decide)
    have hfold : folded keySym = keySym := by
      rw [folded, if_neg]
      rintro ⟨hletter, -⟩
      exact absurd (UInt32.le_trans hletter hlast) (by decide)
    rw [hkey, keySymFor, hletter, hfound, hfold, UInt32.add_comm, UInt32.sub_add_cancel]
    rfl
  | none =>
  cases hrow : keySymCases.find? fun row => row.1 = keySym with
  | none =>
    refine absurd ?_ h
    rw [translateKeySym, hsmall, hcapital, hdigit, hrow]
    rfl
  | some row =>
    have hkey : translateKeySym keySym = row.2 := by
      rw [translateKeySym, hsmall, hcapital, hdigit, hrow]
      rfl
    obtain rfl : row.1 = keySym := by simpa using List.find?_some hrow
    rw [hkey]
    exact keySymFor_of_mem (List.mem_of_find?_eq_some hrow)

/-- On such a keyboard the keysym of a key is found on that key first, if it is found. -/
def KeySymbols.Plain (symbols : KeySymbols) : Prop :=
  ∀ keyCode, ∀ found ∈ (symbols.keyCodes (folded (symbols.keySym keyCode))).head?,
    found = keyCode

/-- A key that was captured on a plain keyboard is the same key when it is injected there. -/
theorem keyCodeFor_of_plain {symbols : KeySymbols} (h : symbols.Plain) {event : KeyEvent}
    {keyCode : UInt8} (hkey : event.key = translateKeySym (symbols.keySym keyCode))
    (hnative : event.nativeCode = keyCode.toNat) :
    keyCodeFor symbols event = if keyCode = 0 then none else some keyCode := by
  have hsmall := keyCode.toNat_lt
  have hpositive : 0 < keyCode.toNat ↔ keyCode ≠ 0 := by
    rw [Nat.pos_iff_ne_zero, ne_eq, ne_eq, ← UInt8.toNat_inj]
    rfl
  have hfallback : (if 0 < event.nativeCode ∧ event.nativeCode ≤ 255 then
      some (UInt8.ofNat event.nativeCode) else none) =
        if keyCode = 0 then none else some keyCode := by
    rw [hnative]
    by_cases hzero : keyCode = 0
    · rw [if_neg fun hnative => hpositive.mp hnative.1 hzero, if_pos hzero]
    · rw [if_pos ⟨hpositive.mpr hzero, by omega⟩, if_neg hzero, UInt8.ofNat_toNat]
  rw [keyCodeFor]
  simp only [hfallback]
  by_cases hnone : translateKeySym (symbols.keySym keyCode) = .none
  · rw [hkey, hnone]
    rfl
  · rw [hkey, keySymFor_translateKeySym hnone]
    have hfirst := h keyCode
    simp only []
    cases hcodes : symbols.keyCodes (folded (symbols.keySym keyCode)) with
    | nil => rfl
    | cons found rest =>
      rw [hcodes] at hfirst
      obtain rfl := hfirst found rfl
      by_cases hzero : found = 0 <;> simp [hzero]

end Xcb
end Mksync
