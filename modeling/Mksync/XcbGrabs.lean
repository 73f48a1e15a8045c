import Mksync.CaptureOperations
import Mksync.XcbHoldings

/-!
# The grabs of the X11 capture

Between two calls the capture is released or it grabs, whatever the server answered to it. The
server's grabs are those that the capture remembers however much of what is queued has gone out,
and all that it holds once everything has.
-/
namespace Mksync
namespace XcbInputCapture

variable {S : Type} [XServer S] {capture capture' after : XcbInputCapture S}
  {held : Holdings} {window cursor : Nat}

section Calls

variable [LawfulXServer S]

/-! ### The calls -/

/-- Replies were read, or what is queued went out: the capture has what it had. -/
structure Reads (capture capture' : XcbInputCapture S) : Prop where
  same : capture' = { capture with
    mConnection := capture'.mConnection
    mLastCorePointer := capture'.mLastCorePointer }
  open' : capture'.mConnection = none ↔ capture.mConnection = none
  holds : ∀ P held, P held → capture.Holds P held → capture'.Holds P held

namespace Reads

omit [LawfulXServer S] in
theorem of_connection (hsame : capture' = { capture with
      mConnection := capture.mConnection
      mLastCorePointer := capture'.mLastCorePointer }) : Reads capture capture' := by
  have hconnection : capture'.mConnection = capture.mConnection := by rw [hsame]
  refine ⟨?_, by rw [hconnection], fun P held _ hholds => hholds.congr hconnection⟩
  rw [hconnection]
  exact hsame

omit [LawfulXServer S] in
theorem refl (capture : XcbInputCapture S) : Reads capture capture := of_connection rfl

omit [LawfulXServer S] in
theorem trans (h : Reads capture capture') (h' : Reads capture' after) : Reads capture after := by
  refine ⟨?_, h'.open'.trans h.open', fun P held hheld hholds =>
    h'.holds P held hheld (h.holds P held hheld hholds)⟩
  rw [h'.same, h.same]

omit [LawfulXServer S] in
theorem flush (h : Reads capture capture') : Reads capture capture'.flush.2 := by
  have hopen : capture'.flush.2.mConnection = none ↔ capture'.mConnection = none :=
    Option.map_eq_none_iff
  refine h.trans ⟨rfl, hopen, fun P held hheld hholds => ?_⟩
  exact ((Asked.refl hholds).flush hheld).holds

theorem query (h : Reads capture capture') (request : XRequest)
    (hquery : ∀ held, request.effect held = held) : Reads capture (capture'.ask request).2 := by
  have hopen : (capture'.ask request).2.mConnection = none ↔ capture'.mConnection = none :=
    Option.map_eq_none_iff
  refine h.trans ⟨rfl, hopen, fun P held hheld hholds => ?_⟩
  have hsame : request.outcome (capture'.ask request).1 held = held := by
    rw [XRequest.outcome, hquery, ite_self]
  have hasked := (Asked.refl hholds).ask (Q := P) request (by rw [hsame]; exact hheld)
  rw [hsame] at hasked
  exact hasked.holds

end Reads

theorem reads_queryPointer (capture : XcbInputCapture S) :
    Reads capture capture.queryPointer.2 := by
  have hquery := (Reads.refl capture).query .queryPointer fun _ => rfl
  rw [queryPointer]
  split
  next reply asked hasked =>
    rw [hasked] at hquery
    split
    · exact hquery
    · exact hquery

omit [LawfulXServer S] in
theorem Idle.of_reads (h : Idle capture) (hreads : Reads capture capture') : Idle capture' := by
  rw [hreads.same]
  exact ⟨h.active, h.pointer, h.keyboard⟩

omit [LawfulXServer S] in
theorem Released.of_reads (h : Released capture) (hreads : Reads capture capture') :
    Released capture' := by
  have hcursor : capture'.mHiddenCursor = capture.mHiddenCursor := by rw [hreads.same]
  have hwindow : capture'.mGrabWindow = capture.mGrabWindow := by rw [hreads.same]
  refine ⟨h.idle.of_reads hreads, hwindow.trans h.window, ?_, fun hnone => ?_⟩
  · rw [hcursor]
    exact hreads.holds _ _ ⟨rfl, rfl⟩ h.holds
  · rw [hcursor]
    exact h.closed (hreads.open'.mp hnone)

omit [LawfulXServer S] in
theorem Grabs.of_reads (h : Grabs window cursor capture) (hreads : Reads capture capture') :
    Grabs window cursor capture' := by
  have hkeyboard : capture'.mKeyboardGrabbed = capture.mKeyboardGrabbed := by rw [hreads.same]
  have hholds := hreads.holds _ _ rfl h.holds
  rw [← hkeyboard] at hholds
  have hsame := hreads.same
  refine ⟨?_, ?_, ?_, ?_, hholds, fun hnone => h.open' (hreads.open'.mp hnone)⟩
  · exact (congrArg mRemoteControlActive hsame).trans h.active
  · exact (congrArg mPointerGrabbed hsame).trans h.pointer
  · exact (congrArg mGrabWindow hsame).trans h.window_eq
  · exact (congrArg mHiddenCursor hsame).trans h.cursor_eq

/-! ### The calls -/

/-- The server granted the pointer. The keyboard may stay with the others, and a failed flush
gives the pointer back. -/
theorem post_enterRemoteControl (hidle : Idle capture)
    (hwindow : capture.mGrabWindow = some window) (hcursor : capture.mHiddenCursor = some cursor)
    (hopen : capture.mConnection ≠ none)
    (hholds : capture.Holds (grabHoldings window cursor false = ·)
      (grabHoldings window cursor false)) :
    Post (fun _ after => Grabs window cursor after) Released
      (capture.enterRemoteControl window) := by
  have hpointer : Holds (grabHoldings window cursor false = ·) (grabHoldings window cursor false)
    { capture with mPointerGrabbed := true } := hholds.congr rfl
  have hkeyboard := (Asked.refl hpointer).ask (.grabKeyboard window) rfl
  have hgrabs : Grabs window cursor { grabKeyboard window { capture with mPointerGrabbed := true }
      with mRemoteControlActive := true } := by
    rw [grabKeyboard]
    rcases hasked : ask (.grabKeyboard window) { capture with mPointerGrabbed := true } with
      ⟨reply, asked⟩
    rw [hasked] at hkeyboard
    have hsame := hkeyboard.same
    have hopen : asked.mConnection ≠ none := fun hnone => hopen (hkeyboard.open'.mp hnone)
    dsimp only
    by_cases hreply : reply = some (.grab .success)
    · rw [if_pos hreply]
      rw [hreply] at hkeyboard
      refine ⟨rfl, ?_, ?_, ?_, hkeyboard.holds.congr rfl, hopen⟩
      · exact congrArg mPointerGrabbed hsame
      · exact (congrArg mGrabWindow hsame).trans hwindow
      · exact (congrArg mHiddenCursor hsame).trans hcursor
    · rw [if_neg hreply]
      rw [XRequest.outcome_of_not_granted rfl hreply] at hkeyboard
      have hnone : asked.mKeyboardGrabbed = false :=
        (congrArg mKeyboardGrabbed hsame).trans hidle.keyboard
      refine ⟨rfl, ?_, ?_, ?_, ?_, hopen⟩
      · exact congrArg mPointerGrabbed hsame
      · exact (congrArg mGrabWindow hsame).trans hwindow
      · exact (congrArg mHiddenCursor hsame).trans hcursor
      · simp only [hnone]
        exact hkeyboard.holds.congr rfl
  have hqueried := hgrabs.of_reads (reads_queryPointer _)
  rw [XcbInputCapture.enterRemoteControl]
  dsimp only
  generalize queryPointer { grabKeyboard window { capture with mPointerGrabbed := true } with
    mRemoteControlActive := true } = queried at hqueried ⊢
  have hread : Reads queried.2 { queried.2 with
      mLastCorePointer := queried.1.map fun pointer => (pointer.1.toInt, pointer.2.toInt) } :=
    .of_connection rfl
  have hflushed := hqueried.of_reads hread.flush
  rcases hresult : flush { queried.2 with
      mLastCorePointer := queried.1.map fun pointer => (pointer.1.toInt, pointer.2.toInt) } with
    ⟨code | _, flushed⟩
  · rw [hresult] at hflushed
    exact hflushed.releaseRemoteControl
  · rw [hresult] at hflushed
    exact hflushed

/-- The pointer is granted. -/
theorem Windowed.enterRemoteControl (h : Windowed window cursor capture)
    (hasked : capture.ask (.grabPointer window cursor) = (some (.grab .success), after)) :
    Post (fun _ after => Grabs window cursor after) Released (after.enterRemoteControl window) := by
  have hpointer := (Asked.refl h.holds).ask (Q := (grabHoldings window cursor false = ·))
    (.grabPointer window cursor)
  rw [hasked] at hpointer
  have hgrabbed := hpointer rfl
  exact post_enterRemoteControl (h.idle.of_same hgrabbed.same)
    ((congrArg mGrabWindow hgrabbed.same).trans h.window_eq)
    ((congrArg mHiddenCursor hgrabbed.same).trans h.cursor_eq)
    (fun hnone => h.open' (hgrabbed.open'.mp hnone)) hgrabbed.holds

/-- The pointer is not granted, and the window goes again. -/
theorem Windowed.giveUp {reply : Option XReply} (h : Windowed window cursor capture)
    (hasked : capture.ask (.grabPointer window cursor) = (reply, after))
    (hreply : reply ≠ some (.grab .success)) : Released after.destroyGrabWindow := by
  have hpointer := (Asked.refl h.holds).ask (Q := Ungrabbed) (.grabPointer window cursor)
  rw [hasked, XRequest.outcome_of_not_granted rfl hreply] at hpointer
  exact (h.of_asked (hpointer ⟨rfl, rfl⟩)).destroyGrabWindow

theorem Released.acquireRemoteControl (h : Released capture) (hopen : capture.mConnection ≠ none) :
    Post (fun _ after => ∃ window cursor, Grabs window cursor after) Released
      capture.acquireRemoteControl := by
  have hcursor := h.ensureHiddenCursor hopen
  rw [XcbInputCapture.acquireRemoteControl]
  rcases hensured : capture.ensureHiddenCursor with ⟨code | cursor, drawn⟩
  · rw [hensured] at hcursor
    exact hcursor
  rw [hensured] at hcursor
  obtain ⟨hdrawn, hcached, hopen⟩ := hcursor
  have hwindow := hdrawn.ensureGrabWindow hcached hopen
  dsimp only
  rcases hmapped : drawn.ensureGrabWindow with ⟨code | window, mapped⟩
  · rw [hmapped] at hwindow
    exact hwindow
  rw [hmapped] at hwindow
  have hwindowed : Windowed window cursor mapped := hwindow
  dsimp only
  rcases hasked : mapped.ask (.grabPointer window cursor) with ⟨reply, asked⟩
  by_cases hreply : reply = some (.grab .success)
  · rw [hreply] at hasked ⊢
    have hentered := hwindowed.enterRemoteControl hasked
    dsimp only
    rcases hresult : asked.enterRemoteControl window with ⟨code | _, after⟩
    · rw [hresult] at hentered
      exact hentered
    · rw [hresult] at hentered
      exact ⟨window, cursor, hentered⟩
  · have hreleased := hwindowed.giveUp hasked hreply
    split
    next heq => exact absurd (Prod.mk.inj heq).1 hreply
    next heq =>
      obtain rfl := (Prod.mk.inj heq).2
      exact hreleased
    next heq =>
      obtain rfl := (Prod.mk.inj heq).2
      exact hreleased

/-- A call that succeeds leaves the mode it was asked for, one that fails leaves nothing
grabbed. -/
theorem Accounted.setRemoteControlActive (h : Accounted capture) (active : Bool) :
    Post (fun _ after => Accounted after ∧ after.mRemoteControlActive = active)
      (fun after => Released after) (capture.setRemoteControlActive active) := by
  rw [XcbInputCapture.setRemoteControlActive]
  cases hconnection : capture.mConnection with
  | none =>
    cases h with
    | released h => exact h
    | grabs window cursor h => exact absurd hconnection h.open'
  | some connection =>
    have hopen : capture.mConnection ≠ none := by simp [hconnection]
    dsimp only
    split_ifs with hsame hoff
    · exact ⟨h, hsame.symm⟩
    · have hreleased := h.releaseRemoteControl
      have hactive : active = false := by simpa using hoff
      exact ⟨.released hreleased, hreleased.idle.active.trans hactive.symm⟩
    · have hactive : active = true := by simpa using hoff
      cases h with
      | grabs window cursor h => exact absurd (hactive.trans h.active.symm) hsame
      | released h =>
        have hacquired := h.acquireRemoteControl hopen
        rcases hresult : capture.acquireRemoteControl with ⟨code | _, after⟩
        · rw [hresult] at hacquired
          exact hacquired
        · rw [hresult] at hacquired
          obtain ⟨window, cursor, hgrabs⟩ := hacquired
          exact ⟨.grabs window cursor hgrabs, hgrabs.active.trans hactive.symm⟩

omit [LawfulXServer S] in
theorem Accounted.of_reads (h : Accounted capture) (hreads : Reads capture capture') :
    Accounted capture' ∧ capture'.mRemoteControlActive = capture.mRemoteControlActive := by
  refine ⟨?_, by rw [hreads.same]⟩
  cases h with
  | released h => exact .released (h.of_reads hreads)
  | grabs window cursor h => exact .grabs window cursor (h.of_reads hreads)

/-- A warp changes nothing that is held. -/
theorem reads_moveLocalCursor (screenIndex : Nat) (x y : Int) (capture : XcbInputCapture S) :
    Reads capture (capture.moveLocalCursor screenIndex x y).2 := by
  rw [moveLocalCursor]
  split
  · exact .refl capture
  split
  · exact .refl capture
  next global _ =>
    split_ifs
    · exact .refl capture
    · have hwarped := (Reads.refl capture).query (.warpPointer global.1 global.2) fun _ => rfl
      have hsame : (capture.check (.warpPointer global.1 global.2)).2 =
          (capture.ask (.warpPointer global.1 global.2)).2 := rfl
      rw [← hsame] at hwarped
      rcases hchecked : capture.check (.warpPointer global.1 global.2) with ⟨code | _, warped⟩
      · rw [hchecked] at hwarped
        exact hwarped
      · rw [hchecked] at hwarped
        have hmoved : Reads warped { warped with mLastCorePointer := some global } :=
          .of_connection rfl
        exact (hwarped.trans hmoved).flush

/-! ### Events -/

theorem reads_screenLocalPoint (rootPoint : Option (Int16 × Int16))
    (capture : XcbInputCapture S) : Reads capture (capture.screenLocalPoint rootPoint).2 := by
  cases rootPoint with
  | none => exact reads_queryPointer capture
  | some point => exact .refl capture

theorem reads_translateButton (detail : UInt32) (release : Bool)
    (rootPoint : Option (Int16 × Int16)) (capture : XcbInputCapture S) :
    Reads capture (capture.translateButton detail release rootPoint).2 :=
  reads_screenLocalPoint rootPoint capture

theorem reads_translateKey (keyCode : UInt8) (release : Bool) (capture : XcbInputCapture S) :
    Reads capture (capture.translateKey keyCode release).2 := by
  rw [translateKey]
  split
  · exact .refl capture
  · have hquery := (Reads.refl capture).query .queryKeymap fun _ => rfl
    rw [currentModifiers]
    rcases hasked : capture.ask .queryKeymap with ⟨reply, asked⟩
    rw [hasked] at hquery
    cases reply with
    | none => exact hquery
    | some reply => cases reply <;> exact hquery

theorem reads_translateCoreEvent (event : XEvent) (capture : XcbInputCapture S) :
    Reads capture (capture.translateCoreEvent event).2 := by
  cases event with
  | motionNotify rootX rootY => exact .of_connection rfl
  | button detail release rootX rootY => exact reads_translateButton _ _ _ capture
  | key detail release => exact reads_translateKey detail release capture
  | _ => exact .refl capture

theorem reads_translateRawEvent (event : XEvent) (capture : XcbInputCapture S) :
    Reads capture (capture.translateRawEvent event).2 := by
  cases event with
  | rawMotion mask values => exact reads_queryPointer capture
  | rawButton detail release => exact reads_translateButton detail release none capture
  | rawKey detail release =>
    rw [translateRawEvent]
    split_ifs
    · exact .refl capture
    · exact reads_translateKey _ release capture
  | _ => exact .refl capture

theorem reads_translateInput (event : XEvent) (capture : XcbInputCapture S) :
    Reads capture (capture.translateInput event).2 := by
  have hcore := reads_translateCoreEvent event capture
  rw [translateInput]
  split_ifs
  · rcases hresult : capture.translateCoreEvent event with ⟨_ | core, after⟩
    · rw [hresult] at hcore
      exact hcore.trans (reads_translateRawEvent event after)
    · rw [hresult] at hcore
      exact hcore
  · exact reads_translateRawEvent event capture

/-- An event is read, beside that a new keyboard mapping is taken over. -/
theorem reads_translateEvent (event : XEvent) (capture : XcbInputCapture S) :
    ∃ symbols, symbols.isSome = capture.mKeySymbols.isSome ∧
      Reads { capture with mKeySymbols := symbols } (capture.translateEvent event).2 := by
  have hinput : ∃ symbols, symbols.isSome = capture.mKeySymbols.isSome ∧
      Reads { capture with mKeySymbols := symbols } (capture.translateInput event).2 :=
    ⟨capture.mKeySymbols, rfl, reads_translateInput event capture⟩
  cases event with
  | error => exact ⟨capture.mKeySymbols, rfl, .refl capture⟩
  | mappingNotify symbols => exact ⟨_, Option.isSome_map, .refl _⟩
  | _ => exact hinput

omit [LawfulXServer S] in
/-- What the capture reads with is no part of what is held for it. -/
theorem Accounted.with_symbols (h : Accounted capture) (symbols : Option Xcb.KeySymbols)
    (poller : Bool) : Accounted { capture with mKeySymbols := symbols, mPoller := poller } := by
  cases h with
  | released h =>
    exact .released ⟨⟨h.idle.active, h.idle.pointer, h.idle.keyboard⟩, h.window,
      h.holds.congr rfl, h.closed⟩
  | grabs window cursor h =>
    exact .grabs window cursor ⟨h.active, h.pointer, h.window_eq, h.cursor_eq,
      h.holds.congr rfl, h.open'⟩

theorem Accounted.onSignal (h : Accounted capture) (signal : Signal) :
    Accounted (onSignal signal capture) ∧
      (onSignal signal capture).mRemoteControlActive = capture.mRemoteControlActive := by
  cases signal with
  | write count =>
    refine h.of_reads ⟨rfl, Option.map_eq_none_iff, fun P held _ hholds => ?_⟩
    exact ((Asked.refl hholds).onConnection fun _ _ hsettles => hsettles.write count).holds
  | lose error =>
    refine h.of_reads ⟨rfl, Option.map_eq_none_iff, fun P held _ hholds => ?_⟩
    exact ((Asked.refl hholds).onConnection fun _ _ _ => .lose error).holds
  | event event =>
    obtain ⟨symbols, -, hreads⟩ := reads_translateEvent event capture
    exact (h.with_symbols symbols capture.mPoller).of_reads hreads

/-! ### Start and end -/

/-- The capture has no connection and remembers nothing of one. -/
structure Closed (capture : XcbInputCapture S) : Prop where
  idle : Idle capture
  window : capture.mGrabWindow = none
  cursor : capture.mHiddenCursor = none
  connection : capture.mConnection = none

omit [LawfulXServer S] in
theorem Closed.released (h : Closed capture) : Released capture := by
  refine ⟨h.idle, h.window, ?_, fun _ => h.cursor⟩
  intro connection hsome
  rw [h.connection] at hsome
  exact absurd hsome (Option.some_ne_none connection).symm

theorem Accounted.releaseConnection (h : Accounted capture) :
    Idle capture.releaseConnection ∧ capture.releaseConnection.mGrabWindow = none ∧
      capture.releaseConnection.mHiddenCursor = none := by
  have hreleased := h.releaseRemoteControl
  rw [XcbInputCapture.releaseConnection]
  cases hconnection : capture.mConnection with
  | none =>
    cases h with
    | released h => exact ⟨h.idle, h.window, h.closed hconnection⟩
    | grabs window cursor h => exact absurd hconnection h.open'
  | some connection =>
    dsimp only
    split
    next hcursor => exact ⟨hreleased.idle, hreleased.window, hcursor⟩
    next cursor hcursor =>
      exact ⟨⟨hreleased.idle.active, hreleased.idle.pointer, hreleased.idle.keyboard⟩,
        hreleased.window, rfl⟩

theorem Accounted.closeConnection (h : Accounted capture) : Closed capture.closeConnection := by
  have hquiet := h.with_symbols capture.mKeySymbols false
  obtain ⟨hidle, hwindow, hcursor⟩ := hquiet.releaseConnection
  exact ⟨⟨hidle.active, hidle.pointer, hidle.keyboard⟩, hwindow, hcursor, rfl⟩

omit [LawfulXServer S] in
/-- The new connection holds nothing yet. -/
theorem Closed.connected (h : Closed capture) {server : S} (hfresh : XServer.held server = {}) :
    Released { capture with mConnection := some { server } } := by
  refine ⟨⟨h.idle.active, h.idle.pointer, h.idle.keyboard⟩, h.window, ?_, fun _ => h.cursor⟩
  intro connection hsome _
  obtain rfl := Option.some.inj hsome
  rw [h.cursor]
  simp only [hfresh]
  exact .nil ⟨rfl, rfl⟩

theorem reads_selectRawInput (capture : XcbInputCapture S) :
    Reads capture capture.selectRawInput.2 := by
  have hselected := (Reads.refl capture).query .selectEvents fun _ => rfl
  have hsame : (capture.check .selectEvents).2 = (capture.ask .selectEvents).2 := rfl
  rw [← hsame] at hselected
  rw [selectRawInput]
  rcases hchecked : capture.check .selectEvents with ⟨code | _, selected⟩
  · rw [hchecked] at hselected
    exact hselected
  · rw [hchecked] at hselected
    exact Reads.flush hselected

theorem Accounted.initializeCapture (h : Accounted capture) (opening : XcbOpening S) :
    Released (capture.initializeCapture opening).2 := by
  have hclosed := h.closeConnection
  rw [XcbInputCapture.initializeCapture]
  dsimp only
  cases hconnect : opening.connect with
  | error error => exact hclosed.released
  | ok server =>
    have hconnected := hclosed.connected (opening.fresh server hconnect)
    have hselected := hconnected.of_reads (reads_selectRawInput _)
    have hagain := fun capture (h : Released (S := S) capture) =>
      (Accounted.released h).closeConnection.released
    dsimp only
    rcases hselect : selectRawInput { capture.closeConnection with mConnection := some { server } }
      with ⟨code | _, selected⟩
    · rw [hselect] at hselected
      exact hagain _ hselected
    · rw [hselect] at hselected
      cases opening.keySymbols with
      | none => exact hagain _ hselected
      | some symbols =>
        have hready : ∀ poller, Released { selected with
            mKeySymbols := some symbols
            mPoller := poller } := fun poller =>
          ⟨⟨hselected.idle.active, hselected.idle.pointer, hselected.idle.keyboard⟩,
            hselected.window, hselected.holds.congr rfl, hselected.closed⟩
        dsimp only
        split_ifs
        · exact hready _
        · exact hready _

/-! ### Every run -/

/-- What is done with a capture. -/
inductive Operation (S : Type) [XServer S]
  | initializeCapture (opening : XcbOpening S)
  | shutdown
  | setRemoteControlActive (active : Bool)
  | moveLocalCursor (screenIndex : Nat) (x y : Int)
  | signal (signal : Signal)

def operate (capture : XcbInputCapture S) : Operation S → XcbInputCapture S
  | .initializeCapture opening => (capture.initializeCapture opening).2
  | .shutdown => capture.shutdown
  | .setRemoteControlActive active => (capture.setRemoteControlActive active).2
  | .moveLocalCursor screenIndex x y => (capture.moveLocalCursor screenIndex x y).2
  | .signal signal => onSignal signal capture

theorem Accounted.operate (h : Accounted capture) (operation : Operation S) :
    Accounted (capture.operate operation) := by
  cases operation with
  | initializeCapture opening => exact .released (h.initializeCapture opening)
  | shutdown => exact .released h.closeConnection.released
  | setRemoteControlActive active =>
    have hcall := h.setRemoteControlActive active
    rw [XcbInputCapture.operate]
    rcases hresult : capture.setRemoteControlActive active with ⟨code | _, after⟩
    · rw [hresult] at hcall
      exact .released hcall
    · rw [hresult] at hcall
      exact hcall.1
  | moveLocalCursor screenIndex x y =>
    exact (h.of_reads (reads_moveLocalCursor screenIndex x y capture)).1
  | signal signal => exact (h.onSignal signal).1

theorem accounted_run (mPlatform : XcbDisplay) (operations : List (Operation S)) :
    Accounted (operations.foldl XcbInputCapture.operate { mPlatform }) := by
  have hclosed : Closed ({ mPlatform } : XcbInputCapture S) := ⟨⟨rfl, rfl, rfl⟩, rfl, rfl, rfl⟩
  have hnew : Accounted ({ mPlatform } : XcbInputCapture S) := .released hclosed.released
  generalize ({ mPlatform } : XcbInputCapture S) = capture at hnew
  induction operations generalizing capture with
  | nil => exact hnew
  | cons operation rest ih => exact ih _ (hnew.operate operation)

/-- The grabs are there in remote mode only, the keyboard's where the capture has it. -/
structure GrabsAsRemembered (capture : XcbInputCapture S) (held : Holdings) : Prop where
  pointer : held.pointerGrab.isSome = capture.mRemoteControlActive
  keyboard : held.keyboardGrab.isSome = (capture.mRemoteControlActive && capture.mKeyboardGrabbed)

/-- So are the cursor and the window, and nothing is left of what the cursor was drawn with. -/
structure HeldAsRemembered (capture : XcbInputCapture S) (held : Holdings) : Prop
    extends GrabsAsRemembered capture held where
  pixmaps : held.pixmaps = []
  gcs : held.gcs = []
  cursors : held.cursors = capture.mHiddenCursor.toList
  windows : held.windows = capture.mGrabWindow.toList
  window : capture.mGrabWindow.isSome = capture.mRemoteControlActive

omit [LawfulXServer S] in
theorem Accounted.heldAsRemembered (h : Accounted capture) {connection : XcbConnection S}
    (hsome : capture.mConnection = some connection) (hopen : connection.flush.2.error = none) :
    HeldAsRemembered capture (XServer.held connection.flush.2.server) := by
  cases h with
  | released h =>
    obtain ⟨-, hheld⟩ := (h.holds connection hsome).flushed hopen
    rw [hheld]
    refine ⟨⟨?_, ?_⟩, ?_, ?_, ?_, ?_, ?_⟩ <;> simp [h.window, h.idle.active]
  | grabs window cursor h =>
    obtain ⟨-, hheld⟩ := (h.holds connection hsome).flushed hopen
    rw [hheld]
    refine ⟨⟨?_, ?_⟩, ?_, ?_, ?_, ?_, ?_⟩ <;>
      simp [grabHoldings, h.window_eq, h.cursor_eq, h.active]
    split_ifs with hkeyboard <;> simp [hkeyboard]

omit [LawfulXServer S] in
theorem Accounted.grabsAsRemembered (h : Accounted capture) {connection : XcbConnection S}
    (hsome : capture.mConnection = some connection) (count : Nat)
    (hopen : (connection.write count).error = none) :
    GrabsAsRemembered capture (XServer.held (connection.write count).server) := by
  cases h with
  | released h =>
    obtain ⟨hpointer, hkeyboard⟩ := ((h.holds connection hsome).write count hopen).now
    constructor
    · rw [hpointer, h.idle.active]
      rfl
    · rw [hkeyboard, h.idle.active]
      rfl
  | grabs window cursor h =>
    have hnow := ((h.holds connection hsome).write count hopen).now
    rw [← hnow]
    constructor <;> simp [grabHoldings, h.active]
    split_ifs with hkeyboard <;> simp [hkeyboard]

/-- Whatever was done with a capture and whatever the server answered, on a connection that
stands: the server's grabs are those that the capture remembers, however much of what is queued
has gone out, and all that it holds once everything has. The next call for a mode ends in that
mode or fails and leaves nothing grabbed and no window remembered. -/
theorem held_as_remembered (mPlatform : XcbDisplay) (operations : List (Operation S)) :
    let capture : XcbInputCapture S := operations.foldl XcbInputCapture.operate { mPlatform }
    (∀ connection, capture.mConnection = some connection →
      (connection.flush.2.error = none →
        HeldAsRemembered capture (XServer.held connection.flush.2.server)) ∧
      ∀ count, (connection.write count).error = none →
        GrabsAsRemembered capture (XServer.held (connection.write count).server)) ∧
    ∀ active, Post (fun _ after => after.mRemoteControlActive = active)
      (fun after => after.mRemoteControlActive = false ∧ after.mGrabWindow = none)
      (capture.setRemoteControlActive active) := by
  intro capture
  have haccounted : Accounted capture := accounted_run mPlatform operations
  refine ⟨fun connection hsome => ⟨haccounted.heldAsRemembered hsome,
    haccounted.grabsAsRemembered hsome⟩, ?_⟩
  intro active
  have hcall := haccounted.setRemoteControlActive active
  rcases hresult : capture.setRemoteControlActive active with ⟨code | _, after⟩
  · rw [hresult] at hcall
    exact ⟨hcall.idle.active, hcall.window⟩
  · rw [hresult] at hcall
    exact hcall.2

def grantingOpening : XcbOpening GrantingXServer :=
  GrantingXServer.opening ⟨fun _ => 0, fun _ => []⟩ 0 0

/-- A capture in remote mode. -/
def grantedCapture : XcbInputCapture GrantingXServer :=
  [.initializeCapture grantingOpening, .setRemoteControlActive true].foldl operate {}

theorem held_as_remembered_granted :
    grantedCapture.mGrabWindow = some 4 ∧ grantedCapture.mKeyboardGrabbed = true ∧
    ∀ connection, grantedCapture.mConnection = some connection →
      (connection.flush.2.error = none →
        HeldAsRemembered grantedCapture (XServer.held connection.flush.2.server)) ∧
      ∀ count, (connection.write count).error = none →
        GrabsAsRemembered grantedCapture (XServer.held (connection.write count).server) := by
  refine ⟨by decide +kernel, by decide +kernel, ?_⟩
  exact (held_as_remembered {} [.initializeCapture grantingOpening,
    .setRemoteControlActive true]).1

/-! ### The server on X11 -/

omit [LawfulXServer S] in
/-- Without remote mode nothing is grabbed: no event ends that, only a call. -/
theorem Accounted.released_of_inactive (h : Accounted capture)
    (hactive : capture.mRemoteControlActive = false) : Released capture := by
  cases h with
  | released h => exact h
  | grabs window cursor h => exact absurd (h.active.symm.trans hactive) (by simp)

theorem releases : InputCapture.Releases (C := XcbInputCapture S) Accounted Released := by
  refine ⟨⟨⟨?_, ?_⟩, ?_⟩, ?_, ?_, ?_⟩
  · exact fun active capture h => h.operate (.setRemoteControlActive active)
  · exact fun screenIndex x y capture h => h.operate (.moveLocalCursor screenIndex x y)
  · exact fun signal capture h => (h.onSignal signal).1
  · intro signal capture h hreleased
    obtain ⟨hafter, hsame⟩ := h.onSignal signal
    exact hafter.released_of_inactive (hsame.trans hreleased.idle.active)
  · intro capture h
    have hcall := h.setRemoteControlActive false
    show Released (capture.setRemoteControlActive false).2
    rcases hresult : capture.setRemoteControlActive false with ⟨code | _, after⟩
    · rw [hresult] at hcall
      exact hcall
    · rw [hresult] at hcall
      exact hcall.1.released_of_inactive hcall.2
  · exact fun screenIndex x y capture _ hreleased =>
      hreleased.of_reads (reads_moveLocalCursor screenIndex x y capture)

end Calls
end XcbInputCapture

namespace Host

open TransitionRuns XcbInputCapture

section Runs

variable {E S : Type} [Endpoint E] [EntryScaling] [XServer S] [LawfulXServer S] {endpoint : E}
  {config : AppConfig} {configPath : String} {mPlatform : XcbDisplay} {opening : XcbOpening S}
  {screens : List ScreenInfo} {as : List (Action E (CaptureLog (XcbInputCapture S)))}
  {host : Host E (CaptureLog (XcbInputCapture S))}

/-- In every state of a server on X11 whose connection stands, the X server holds for the capture
what that remembers, and while a local screen is active it has no grab and, once what is queued
has gone out, no window: the input of the machine is its own. -/
theorem home_is_not_grabbed (hvalid : ∃ info ∈ screens, isValidRect info = true)
    (h : Run step Serving (started endpoint config configPath
      ⟨(initializeCapture opening { mPlatform }).2, []⟩ screens) as host) :
    ∃ log node, host.server.mInput.mCapture = some log ∧
      node ∈ host.server.mScreens.mScreens.nodes ∧
      host.server.mInput.mActiveScreen = some node.address ∧
      ∀ connection, log.inner.mConnection = some connection →
        (connection.flush.2.error = none →
          HeldAsRemembered log.inner (XServer.held connection.flush.2.server) ∧
          (node.value.isLocal = true → (XServer.held connection.flush.2.server).windows = [])) ∧
        ∀ count, (connection.write count).error = none →
          GrabsAsRemembered log.inner (XServer.held (connection.write count).server) ∧
          (node.value.isLocal = true →
            Ungrabbed (XServer.held (connection.write count).server)) := by
  have hstarted := accounted_run mPlatform [.initializeCapture opening]
  obtain ⟨log, node, hlog, hnode, hactive, haccounted, hreleased⟩ :=
    run_released releases hstarted hvalid h
  refine ⟨log, node, hlog, hnode, hactive, fun connection hsome => ⟨fun hopen => ⟨?_, ?_⟩,
    fun count hopen => ⟨?_, ?_⟩⟩⟩
  · exact haccounted.heldAsRemembered hsome hopen
  · intro hlocal
    obtain ⟨-, hheld⟩ := ((hreleased hlocal).holds connection hsome).flushed hopen
    rw [hheld]
  · exact haccounted.grabsAsRemembered hsome count hopen
  · exact fun hlocal => (((hreleased hlocal).holds connection hsome).write count hopen).now

end Runs

/-- A guest comes and the cursor crosses to its screen, then F12 takes it home. -/
def crossAndReturn : List (Action IPv4Endpoint (CaptureLog (XcbInputCapture GrantingXServer))) :=
  [.accept (loopback 1001), .receive (loopback 1001) (.hello { machineId := "m" }),
    .publish (loopback 1001), .receive (loopback 1001) (.screens ⟨[sideMonitor]⟩),
    .captured (.mouseMove { x := 1919, y := 500 }), .captured (.key { key := .f12 })]

theorem home_is_not_grabbed_again :
    ∃ (host : Host IPv4Endpoint (CaptureLog (XcbInputCapture GrantingXServer)))
      (log : CaptureLog (XcbInputCapture GrantingXServer)),
      Run step Serving (started (loopback 24800) {} ""
        ⟨(initializeCapture grantingOpening {}).2, []⟩ [deskMonitor]) crossAndReturn host ∧
      host.server.mInput.mCapture = some log ∧ log.modes = [false, false, true, false] ∧
      log.inner.mHiddenCursor = some 3 ∧
      ∀ connection, log.inner.mConnection = some connection →
        ∀ count, (connection.write count).error = none →
          GrabsAsRemembered log.inner (XServer.held (connection.write count).server) := by
  obtain ⟨host, hrun, hp⟩ := exists_run_of_execute step
    (fun host a host' => decide (Serving host a host'))
    (started (loopback 24800) {} "" (⟨(initializeCapture grantingOpening {}).2, []⟩ :
      CaptureLog (XcbInputCapture GrantingXServer)) [deskMonitor]) crossAndReturn
    (fun host => host.server.mInput.mCapture.any fun log =>
      log.modes = [false, false, true, false] && log.inner.mHiddenCursor = some 3)
    (fun _ _ _ hcheck => of_decide_eq_true hcheck) (by decide +kernel)
  obtain ⟨log, node, hlog, -, -, hheld⟩ :=
    home_is_not_grabbed ⟨deskMonitor, by decide, by decide⟩ hrun
  rw [hlog, Option.any_some, Bool.and_eq_true, decide_eq_true_eq, decide_eq_true_eq] at hp
  exact ⟨host, log, hrun, hlog, hp.1, hp.2, fun connection hsome count hopen =>
    ((hheld connection hsome).2 count hopen).1⟩

end Host
end Mksync
