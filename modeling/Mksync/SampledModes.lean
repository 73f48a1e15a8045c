import Mksync.ActivePointer
import Mksync.Win32InputCapture

/-!
# Events in the mode they were sampled in

The hooks sample in the mode of their moment, the router interprets in the mode of its own,
and a queued event does not say which one it was sampled in. The two agree for the moves of
remote mode as long as control comes home over an empty channel.
-/
namespace Mksync

open TransitionRuns

namespace ServerInputRouter

variable {E C : Type} [Endpoint E] [InputCapture C] {screens screens' : ServerScreenStore E}
  {router router' : ServerInputRouter E C} {P : C → Prop}

/-- The capture is `P` once local mode is asked for, and already while no remote screen is
active. -/
def TurnsHome (P : C → Prop) (screens : ServerScreenStore E) (router : ServerInputRouter E C) :
    Prop :=
  ∀ capture ∈ router.mCapture, P (InputCapture.setRemoteControlActive false capture).2 ∧
    (router.remoteActive screens = false → P capture)

theorem TurnsHome.congr (h : TurnsHome P screens router)
    (hactive : router'.activeScreen screens' = router.activeScreen screens)
    (hcapture : router'.mCapture = router.mCapture) : TurnsHome P screens' router' := by
  intro capture hmem
  rw [hcapture] at hmem
  rw [remoteActive, hactive]
  exact h capture hmem

/-- What a router that asks for local mode leaves. -/
theorem TurnsHome.asked (h : TurnsHome P screens router)
    (hcapture : router'.mCapture =
      router.mCapture.map fun capture => (InputCapture.setRemoteControlActive false capture).2) :
    ∀ capture ∈ router'.mCapture, P capture := by
  intro capture hmem
  rw [hcapture] at hmem
  obtain ⟨before, hbefore, rfl⟩ := Option.map_eq_some_iff.mp hmem
  exact (h before hbefore).1

theorem clearActiveState_mCapture (screens : ServerScreenStore E)
    (router : ServerInputRouter E C) :
    (router.clearActiveState screens).mCapture =
      router.mCapture.map fun capture =>
        (InputCapture.setRemoteControlActive false capture).2 := by
  simp [clearActiveState, remoteActive, activeScreen]

section Kept

variable (hmove : ∀ screenIndex x y (capture : C), P capture →
  P (InputCapture.moveLocalCursor screenIndex x y capture).2)

include hmove

/-- A switch that leaves no remote screen active has asked for local mode, if it did anything. -/
theorem TurnsHome.switchActiveScreen (h : TurnsHome P screens router) (point : ScreenPoint)
    (hoff : (router.switchActiveScreen screens point).remoteActive screens = false) :
    ∀ capture ∈ (router.switchActiveScreen screens point).mCapture, P capture := by
  rcases switchActiveScreen_cases screens point router with
    ⟨_, heq⟩ | ⟨node, hfind, ⟨hremote, _⟩ | ⟨hlocal, heq⟩⟩
  · rw [heq] at hoff ⊢
    exact fun capture hmem => (h capture hmem).2 hoff
  · have hactive := (switchActiveScreen_remote_active router hfind hremote).1
    simp [remoteActive_of_active hactive, hremote] at hoff
  · have hderef := OrderedMultimap.deref_of_mem (ServerScreenStore.findScreen_eq_some hfind).1
    have hasked : ∀ capture ∈ ({ router with
        mActiveScreen := some node.address
        mActivePoint := some point }.updateCaptureRemoteControl screens).mCapture, P capture :=
      h.asked (by simp [remoteActive, activeScreen, hderef, hlocal])
    rw [heq]
    rcases moveLocalCursorToActivePoint_cases screens ({ router with
        mActiveScreen := some node.address
        mActivePoint := some point }.updateCaptureRemoteControl screens) with
      hstay | ⟨capture, _, _, hcapture, _, _, _, hwarp⟩
    · rwa [hstay]
    · rw [hwarp]
      intro warped hwarped
      cases hwarped
      exact hmove _ _ _ _ (hasked capture hcapture)

theorem Handled.turnsHome [EntryScaling] {event : InputEvent}
    (h : Handled screens router event router') (hhome : TurnsHome P screens router)
    (hoff : router'.remoteActive screens = false) : ∀ capture ∈ router'.mCapture, P capture := by
  -- handlers that keep the active screen do not touch the capture
  have hkept : router'.activeScreen screens = router.activeScreen screens →
      router'.mCapture = router.mCapture → ∀ capture ∈ router'.mCapture, P capture :=
    fun hactive hcapture capture hmem => (hhome.congr hactive hcapture capture hmem).2 hoff
  cases h with
  | idle | home => exact hkept rfl rfl
  | failSafe => exact hhome.asked (activateFirstLocalScreen_mCapture screens router)
  | forwarded => exact hkept (by simp [activeScreen]) (by simp)
  | rested | echoed | stayed => exact hkept rfl rfl
  | clamped => exact hkept (by simp [sampledRemote, activeScreen]) (by simp [sampledRemote])
  | @crossed move screen =>
    have hsampled : TurnsHome P screens (router.sampledRemote screen move) := hhome.congr rfl rfl
    exact hsampled.switchActiveScreen hmove _ hoff
  | @left move screen =>
    have hsampled : TurnsHome P screens (router.sampledLocal screen move) := hhome.congr rfl rfl
    exact hsampled.switchActiveScreen hmove _ hoff

variable (hset : ∀ capture : C, P capture →
  P (InputCapture.setRemoteControlActive false capture).2)

include hset

theorem Rehomed.turnsHome (h : Rehomed screens screens' router router')
    (hhome : TurnsHome P screens router) (hoff : router'.remoteActive screens' = false) :
    ∀ capture ∈ router'.mCapture, P capture := by
  cases h with
  | kept _ same => exact fun capture hmem => (hhome.congr same rfl capture hmem).2 hoff
  | cleared between =>
    have hcleared := hhome.asked (clearActiveState_mCapture between router)
    have hagain : TurnsHome P screens (router.clearActiveState between) :=
      fun capture hmem => ⟨hset capture (hcleared capture hmem), fun _ => hcleared capture hmem⟩
    exact hagain.asked (activateFirstLocalScreen_mCapture _ _)
  | woken => exact hhome.asked (activateFirstLocalScreen_mCapture _ _)
  | preferred _ same =>
    have hsame : TurnsHome P screens' router := hhome.congr same rfl
    exact hsame.switchActiveScreen hmove _ hoff

end Kept
end ServerInputRouter

namespace Host

open ServerInputRouter

section TurnsHome

variable {E C : Type} [Endpoint E] [InputCapture C] {host host' : Host E C} {P : C → Prop}

/-- A remote screen is active. -/
def remote (host : Host E C) : Bool := host.server.mInput.remoteActive host.server.mScreens

/-- A step after which no remote screen is active leaves a `P` capture, unless the platform
takes it. -/
theorem Stepped.turnsHome [EntryScaling] {a : Action E C} (hs : Stepped host a host')
    (hmove : ∀ screenIndex x y (capture : C), P capture →
      P (InputCapture.moveLocalCursor screenIndex x y capture).2)
    (hset : ∀ capture : C, P capture → P (InputCapture.setRemoteControlActive false capture).2)
    (hvalid : PointerValid host.server.mScreens host.server.mInput)
    (hhome : TurnsHome P host.server.mScreens host.server.mInput)
    (hsignal : ∀ signal, a ≠ .signal signal) (hoff : host'.remote = false) :
    ∀ capture ∈ host'.server.mInput.mCapture, P capture := by
  cases hs with
  | registerLocal | reported =>
    exact (Server.registerScreens_rehomed hvalid _ _ _ _).turnsHome hmove hset hhome hoff
  | captured event =>
    exact (handleInputEvent_handled _ _ event).turnsHome hmove hhome hoff
  | signal signal => exact absurd rfl (hsignal signal)
  | @rejected endpoint | @dropped endpoint | @closed endpoint =>
    have hremoved :=
      (Server.removeEndpointScreens_rehomed hvalid endpoint).turnsHome hmove hset hhome
    exact hremoved hoff
  | accepted | greeted | ignored | published | delivered | broke | hungUp =>
    exact fun capture hmem => (hhome capture hmem).2 hoff

end TurnsHome
end Host

/-! ### The server on Win32 -/

namespace Win32Host

open ServerInputRouter Win32InputCapture

variable {E : Type} [Endpoint E]

/-- The server's input comes out of the capture's channel: `next` is a turn of its input loop.
The messages of the UI thread are signals. -/
inductive Action (E : Type)
  | host (action : Mksync.Action E Win32InputCapture)
  | next

abbrev State (E : Type) [LinearOrder E] := Host E Win32InputCapture

/-- The oldest event of the channel. -/
def head (host : State E) : Option Sampled :=
  host.server.mInput.mCapture.bind (·.mQueue.head?)

/-- `nextEvent` takes the oldest event, and reports and forgets the dropped ones. -/
def nextEvent (host : State E) : State E :=
  host.withServer fun server => { server with mInput := { server.mInput with
    mCapture := server.mInput.mCapture.map fun capture =>
      { capture with mQueue := capture.mQueue.tail, mDroppedEvents := 0 } } }

/-- The host at the time the action is handled. -/
def handling (host : State E) : Action E → State E
  | .host _ => host
  | .next => nextEvent host

variable [EntryScaling]

def step (host : State E) : Action E → Option (State E)
  | .host (.captured _) => none
  | .host action => host.step action
  | .next =>
    match head host with
    | none => none
    | some sampled => (nextEvent host).step (.captured sampled.event)

/-- No move that was sampled in remote mode is handled as a position of the local cursor. -/
def HandledInMode (host : State E) (a : Action E) (_ : State E) : Prop :=
  a = .next → ∀ sampled ∈ head host, isRemoteMove sampled = true →
    ∀ screen ∈ host.server.mInput.activeScreen host.server.mScreens, screen.isLocal = false

/-- A step that takes control home is handled over a channel without moves of remote mode. -/
def ComesHomeDrained (host : State E) (a : Action E) (host' : State E) : Prop :=
  host.remote = true → host'.remote = false →
    ∀ capture ∈ (handling host a).server.mInput.mCapture, capture.Drained

/-- Between the steps: the pointer is valid, and without a remote screen the capture is at
home. -/
structure Settled (host : State E) : Prop where
  pointer : PointerValid host.server.mScreens host.server.mInput
  atHome : host.remote = false → ∀ capture ∈ host.server.mInput.mCapture, capture.AtHome

omit [EntryScaling] in
/-- To take an event from the channel adds none to it. -/
theorem Settled.handling {host : State E} (h : Settled host) (a : Action E) :
    Settled (handling host a) := by
  cases a with
  | host => exact h
  | next =>
    refine ⟨h.pointer.congr rfl, ?_⟩
    intro hoff capture hmem
    obtain ⟨before, hbefore, rfl⟩ := Option.map_eq_some_iff.mp hmem
    have hhome := h.atHome hoff before hbefore
    exact ⟨hhome.1, fun sampled hsampled => hhome.2 sampled (List.mem_of_mem_tail hsampled)⟩

/-- An action is one of the host's, taken where it is handled. -/
theorem step_stepped {host host' : State E} {a : Action E} (h : step host a = some host') :
    ∃ action, (∀ signal, action = .signal signal → a = .host (.signal signal)) ∧
      (handling host a).Stepped action host' := by
  cases a with
  | next =>
    cases hhead : head host with
    | none => simp [step, hhead] at h
    | some sampled =>
      have hnext : (nextEvent host).step (.captured sampled.event) = some host' := by
        simpa [step, hhead] using h
      exact ⟨.captured sampled.event, nofun, Host.step_stepped hnext⟩
  | host action =>
    have hnext : host.step action = some host' := by
      cases action with
      | captured event => cases h
      | _ => exact h
    exact ⟨action, fun _ heq => heq ▸ rfl, Host.step_stepped hnext⟩

/-- A step that takes control home over a drained channel leaves a settled host. -/
theorem Settled.step {host host' : State E} {a : Action E} (h : Settled host)
    (hdrained : ComesHomeDrained host a host') (hstep : step host a = some host') :
    Settled host' := by
  obtain ⟨action, hsignal, hs⟩ := step_stepped hstep
  have hhandling := h.handling a
  refine ⟨Host.pointerValid_step hhandling.pointer hs, ?_⟩
  intro hoff
  have hremote : (Win32Host.handling host a).remote = host.remote := by
    cases a <;> rfl
  by_cases hplatform : ∃ signal, action = .signal signal
  · obtain ⟨signal, rfl⟩ := hplatform
    cases hs with
    | signal =>
      have hbefore := hhandling.atHome hoff
      intro capture hmem
      obtain ⟨before, hmember, rfl⟩ := Option.map_eq_some_iff.mp hmem
      exact (hbefore before hmember).onSignal signal
  · have hhome : TurnsHome Win32InputCapture.AtHome (Win32Host.handling host a).server.mScreens
        (Win32Host.handling host a).server.mInput := by
      intro capture hmem
      refine ⟨?_, fun hstays => hhandling.atHome hstays capture hmem⟩
      cases hbefore : host.remote with
      | false =>
        exact (hhandling.atHome (hremote.trans hbefore) capture hmem).setRemoteControlActive
      | true => exact (hdrained hbefore hoff capture hmem).setRemoteControlActive
    exact hs.turnsHome (fun screenIndex x y capture hcapture =>
      hcapture.moveLocalCursor screenIndex x y) (fun _ hcapture => hcapture.setRemoteControlActive)
      hhandling.pointer hhome (fun signal heq => hplatform ⟨signal, heq⟩) hoff

omit [EntryScaling] in
/-- On a settled host a move of remote mode is handled as one. -/
theorem Settled.handledInMode {host : State E} (h : Settled host) (a : Action E)
    (host' : State E) : HandledInMode host a host' := by
  rintro rfl sampled hhead hmove screen hactive
  by_contra hlocal
  have hoff : host.remote = false := by
    rw [Host.remote, remoteActive_of_active hactive]
    simpa using hlocal
  obtain ⟨capture, hcapture, hfirst⟩ := Option.bind_eq_some_iff.mp hhead
  have hhome := (h.atHome hoff capture hcapture).2 sampled (List.mem_of_mem_head? hfirst)
  rw [hmove] at hhome
  cases hhome

/-- The server with a capture whose hooks have just been installed. -/
def start (endpoint : E) (config : AppConfig) (configPath : String)
    (monitors : List Win32Monitor) (upcoming : List UiCall) : State E :=
  .start endpoint config configPath { mMonitors := monitors, upcoming := upcoming }

omit [EntryScaling] in
theorem settled_start (endpoint : E) (config : AppConfig) (configPath : String)
    (monitors : List Win32Monitor) (upcoming : List UiCall) :
    Settled (start endpoint config configPath monitors upcoming) := by
  have hfresh : AtHome { mMonitors := monitors, upcoming := upcoming } := ⟨rfl, nofun⟩
  refine ⟨?_, fun _ capture hmem => ?_⟩
  · intro address haddress
    simp [start, Host.start, Server.start, ServerInputRouter.setCapture,
      ServerInputRouter.init] at haddress
  · have hasked : capture = (InputCapture.setRemoteControlActive false
        ({ mMonitors := monitors, upcoming := upcoming } : Win32InputCapture)).2 := by
      simpa [start, Host.start, Server.start, ServerInputRouter.setCapture,
        ServerInputRouter.init, remoteActive, activeScreen, eq_comm] using hmem
    rw [hasked]
    exact hfresh.setRemoteControlActive

/-- In every interleaving of the UI thread with the server in which control comes home over a
drained channel, no move that was sampled as a distance from the anchor is handled as a
position of the local cursor. -/
theorem handled_in_sampled_mode {endpoint : E} {config : AppConfig} {configPath : String}
    {monitors : List Win32Monitor} {upcoming : List UiCall} {as : List (Action E)}
    {host : State E}
    (h : Run step ComesHomeDrained (start endpoint config configPath monitors upcoming) as host) :
    Run step HandledInMode (start endpoint config configPath monitors upcoming) as host :=
  h.strengthen Settled (fun _ _ _ hs hdrained hnext => hs.step hdrained hnext)
    (fun _ a t hs _ _ => hs.handledInMode a t)
    (settled_start endpoint config configPath monitors upcoming)

end Win32Host

/-! ### A crossing and the way back -/

namespace Win32Host

open Win32InputCapture

def deskStart : State IPv4Endpoint := start (loopback 24800) { machineId := "desk" } "" [{}] []

/-- The guest comes, and the cursor crosses the right edge of the desk's monitor to the
guest's screen; it is pinned where it left. -/
def crossing : List (Action IPv4Endpoint) :=
  [.host (.registerLocal [deskMonitor]), .host (.accept (loopback 1001)),
    .host (.receive (loopback 1001) (.hello { machineId := "m" })),
    .host (.publish (loopback 1001)),
    .host (.receive (loopback 1001) (.screens ⟨[sideMonitor]⟩)),
    .host (.signal (.message (.mouse .mouseMove { pt := ⟨1919, 500⟩ }))),
    .host (.signal (.schedule [{ cursorPos := some ⟨1919, 500⟩ }])), .next]

/-- The user moves the pinned cursor to the left. -/
def pullBack : Action IPv4Endpoint :=
  .host (.signal (.message (.mouse .mouseMove { pt := ⟨1819, 500⟩ })))

instance (host : State IPv4Endpoint) (a : Action IPv4Endpoint) (host' : State IPv4Endpoint) :
    Decidable (ComesHomeDrained host a host') :=
  inferInstanceAs (Decidable (_ → _ → ∀ capture ∈ _, _))

/-- One move takes the cursor home. -/
theorem handled_in_sampled_mode_slow : ∃ host, host.remote = false ∧
    Run step HandledInMode deskStart (crossing ++ [pullBack, .next]) host := by
  obtain ⟨host, hrun, hhome⟩ := exists_run_of_execute step
    (fun host a host' => decide (ComesHomeDrained host a host')) deskStart
    (crossing ++ [pullBack, .next]) (fun host => !host.remote)
    (fun _ _ _ hcheck => of_decide_eq_true hcheck) (by decide +kernel)
  exact ⟨host, by simpa using hhome, handled_in_sampled_mode hrun⟩

/-- The first of two moves takes the cursor home, and the second is handled there. -/
theorem fast_move_handled_as_local : ∃ host host' sampled screen,
    Run step unguarded deskStart (crossing ++ [pullBack, pullBack, .next]) host ∧
    step host .next = some host' ∧ head host = some sampled ∧ isRemoteMove sampled = true ∧
    host.server.mInput.activeScreen host.server.mScreens = some screen ∧ screen.isLocal = true ∧
    host'.server.mInput.mActivePoint = some ⟨⟨"desk", 0⟩, 1819, 500⟩ := by
  obtain ⟨host, hrun, htest⟩ := exists_run_of_execute step (fun _ _ _ => true) deskStart
    (crossing ++ [pullBack, pullBack, .next])
    (fun host : State IPv4Endpoint => (step host .next).any fun host' : State IPv4Endpoint =>
      (head host).any fun sampled : Sampled =>
        (host.server.mInput.activeScreen host.server.mScreens).any
          fun screen : VirtualScreen IPv4Endpoint => isRemoteMove sampled && screen.isLocal &&
            decide (host'.server.mInput.mActivePoint = some ⟨⟨"desk", 0⟩, 1819, 500⟩))
    (fun _ _ _ _ => trivial) (by decide +kernel)
  simp only [Option.any_eq_true, Bool.and_eq_true, decide_eq_true_eq] at htest
  obtain ⟨host', hnext, sampled, hhead, screen, hactive, ⟨hmove, hlocal⟩, hpoint⟩ := htest
  exact ⟨host, host', sampled, screen, hrun, hnext, hhead, hmove, hactive, hlocal, hpoint⟩

end Win32Host
end Mksync
