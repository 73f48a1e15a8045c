import Mksync.AbsoluteSamples
import Mksync.AddressedInput
import Mksync.BackendSelection
import Mksync.CaptureOperations
import Mksync.ClientIdentity
import Mksync.ConfigFile
import Mksync.FailSafe
import Mksync.FirstRunPlacement
import Mksync.ForwardedInput
import Mksync.FreeCellSearch
import Mksync.GuiPages
import Mksync.HeldKeys
import Mksync.InputDelivery
import Mksync.LayoutEditing
import Mksync.LayoutStability
import Mksync.LocalTyping
import Mksync.LocalWarps
import Mksync.PortalWaysHome
import Mksync.RelativeMotion
import Mksync.RememberedLayout
import Mksync.RemoteExit
import Mksync.RemoteSwitch
import Mksync.RepeatedReports
import Mksync.ReportedModifiers
import Mksync.RequestSequences
import Mksync.RoutingOverflow
import Mksync.SampledModes
import Mksync.SessionCleanup
import Mksync.SharedConfig
import Mksync.TrustGate
import Mksync.TrustRevocation
import Mksync.WaylandOutputs
import Mksync.Win32Key
import Mksync.XcbClients
import Mksync.XcbDesks
import Mksync.XcbEventStream
import Mksync.XcbGrabs
import Mksync.XcbInputCapture
import Mksync.XcbInputInjector
import Mksync.XcbKeySyms
import Mksync.XcbPassages
import Mksync.XcbScreens
import Mksync.XcbWheel
