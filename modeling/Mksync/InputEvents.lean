import Mathlib.Logic.Basic

/-! # Input events, keys and screen geometry -/
namespace Mksync

inductive MouseButton
  | none | left | right | middle
  deriving DecidableEq, Repr

/-- `enum class Key : uint32_t`, a USB HID usage. A value read off the wire need not be
one of the named usages. -/
structure Key where
  code : UInt32
  deriving DecidableEq, Repr

namespace Key

/-- No key: what a backend reports for a native code outside its table. -/
def none : Key := ⟨0x00⟩
def a : Key := ⟨0x04⟩
def f12 : Key := ⟨0x45⟩

end Key

/-- `enum class KeyModifier : uint8_t`, a set of flags. -/
structure KeyModifier where
  flags : UInt8
  deriving DecidableEq, Repr

def KeyModifier.none : KeyModifier := ⟨0x00⟩

structure MouseMoveEvent where
  x : Int := 0
  y : Int := 0
  screenIndex : Nat := 0
  /-- Relative movement, zero when the backend has no raw motion. -/
  deltaX : Int := 0
  deltaY : Int := 0
  deriving DecidableEq, Repr

structure MouseButtonEvent where
  x : Int := 0
  y : Int := 0
  screenIndex : Nat := 0
  button : MouseButton := .none
  release : Bool := false
  deriving DecidableEq, Repr

structure MouseWheelEvent where
  x : Int := 0
  y : Int := 0
  deltaX : Int := 0
  deltaY : Int := 0
  deriving DecidableEq, Repr

structure KeyEvent where
  key : Key := .none
  modifiers : KeyModifier := .none
  nativeCode : Nat := 0
  isRepeat : Bool := false
  release : Bool := false
  deriving DecidableEq, Repr

/-- The event of capture and injector. -/
inductive InputEvent
  | key (event : KeyEvent)
  | mouseButton (event : MouseButtonEvent)
  | mouseMove (event : MouseMoveEvent)
  | mouseWheel (event : MouseWheelEvent)
  deriving DecidableEq, Repr

structure ScreenInfo where
  x : Int := 0
  y : Int := 0
  width : Int := 0
  height : Int := 0
  dpi : Int := 72
  name : String := ""
  primary : Bool := false
  deriving DecidableEq, Repr

/-- A pixel of the screen, relative to its own origin. -/
def ScreenInfo.Contains (info : ScreenInfo) (x y : Int) : Prop :=
  0 ≤ x ∧ x < info.width ∧ 0 ≤ y ∧ y < info.height

instance (info : ScreenInfo) (x y : Int) : Decidable (info.Contains x y) :=
  inferInstanceAs (Decidable (_ ∧ _))

end Mksync
