import Mksync.InputEvents

/-! # The messages between client and server -/
namespace Mksync

structure HelloMessage where
  version : UInt16 := 0
  machineId : String := ""
  name : String := ""
  deriving DecidableEq, Repr

structure ScreensMessage where
  screens : List ScreenInfo
  deriving DecidableEq, Repr

structure InputMessage where
  event : InputEvent
  deriving DecidableEq, Repr

structure PingMessage where
  pad : UInt32 := 0
  deriving DecidableEq, Repr

structure PongMessage where
  pad : UInt32 := 0
  deriving DecidableEq, Repr

structure ErrorMessage where
  message : String
  deriving DecidableEq, Repr

inductive RpcMessage
  | hello (message : HelloMessage)
  | screens (message : ScreensMessage)
  | input (message : InputMessage)
  | ping (message : PingMessage)
  | pong (message : PongMessage)
  | error (message : ErrorMessage)
  deriving DecidableEq, Repr

end Mksync
