import Mksync.XcbInputCapture

/-!
# What an X server holds for the capture

The capture is released, has its window, or grabs. Each request leads from one of these states
to what the server then comes to hold, and whatever is answered, a step that fails gives back
what the ones before it took.
-/
namespace Mksync
namespace XcbInputCapture

variable {S : Type} [XServer S] {capture capture' after : XcbInputCapture S}
  {P Q : Holdings → Prop} {held : Holdings} {window cursor : Nat}

/-! ### What the server holds -/

/-- On an open connection the server comes to hold this, over states with `P`. -/
def Holds (P : Holdings → Prop) (held : Holdings) (capture : XcbInputCapture S) : Prop :=
  ∀ connection, capture.mConnection = some connection → connection.Settles P held

theorem Holds.congr (h : capture.Holds P held)
    (hconnection : capture'.mConnection = capture.mConnection) : capture'.Holds P held := by
  intro connection hsome
  rw [hconnection] at hsome
  exact h connection hsome

theorem Holds.mono (h : capture.Holds P held) (himp : ∀ here, P here → Q here) :
    capture.Holds Q held :=
  fun connection hsome => (h connection hsome).mono himp

/-- The connection was used, and nothing else happened. -/
structure Asked (P : Holdings → Prop) (held : Holdings) (capture capture' : XcbInputCapture S) :
    Prop where
  same : capture' = { capture with mConnection := capture'.mConnection }
  open' : capture'.mConnection = none ↔ capture.mConnection = none
  holds : capture'.Holds P held

/-- What a call leaves behind where it succeeds, and where it fails. -/
def Post {α : Type} (succeeds : α → XcbInputCapture S → Prop)
    (fails : XcbInputCapture S → Prop) : Except XcbErrc α × XcbInputCapture S → Prop
  | (.ok value, capture) => succeeds value capture
  | (.error _, capture) => fails capture

namespace Asked

theorem refl (h : capture.Holds P held) : Asked P held capture capture := ⟨rfl, Iff.rfl, h⟩

theorem onConnection {α : Type} {absent : α} {f : XcbConnection S → α × XcbConnection S}
    {here : Holdings} (h : Asked P here capture capture')
    (hf : ∀ connection, capture'.mConnection = some connection → connection.Settles P here →
      (f connection).2.Settles Q held) :
    Asked Q held capture (capture'.onConnection absent f).2 := by
  refine ⟨?_, ?_, ?_⟩
  · rw [XcbInputCapture.onConnection, h.same]
  · rw [← h.open']
    exact Option.map_eq_none_iff
  · intro connection hsome
    obtain ⟨before, hbefore, rfl⟩ := Option.map_eq_some_iff.mp hsome
    exact hf before hbefore (h.holds before hbefore)

theorem generateId (h : Asked P held capture capture') :
    Asked P held capture capture'.generateId.2 :=
  h.onConnection fun _ _ hsettles => hsettles

section Lawful

variable [LawfulXServer S]

theorem queue (h : Asked P held capture capture') (request : XRequest)
    (hreturns : request.Returns held) (hafter : P (request.effect held)) :
    Asked P (request.effect held) capture (capture'.queue request) :=
  h.onConnection fun _ _ hsettles => hsettles.queue hreturns hafter

/-- A request with a reply did what its reply says. -/
theorem ask (h : Asked P held capture capture') (request : XRequest)
    (hafter : Q (request.outcome (capture'.ask request).1 held)) :
    Asked Q (request.outcome (capture'.ask request).1 held) capture (capture'.ask request).2 := by
  apply h.onConnection
  intro connection hsome hsettles
  have hreply : (capture'.ask request).1 = (connection.ask request).1 := by
    rw [XcbInputCapture.ask, XcbInputCapture.onConnection, hsome]
    rfl
  rw [hreply] at hafter ⊢
  exact hsettles.ask hafter

/-- A checked request is done where no error comes back, or the connection is lost. -/
theorem check (h : Asked P held capture capture') (request : XRequest)
    (hgrab : request.isGrab = false) (haccepted : Q (request.effect held)) (hrefused : Q held) :
    Post (fun _ => Asked Q (request.effect held) capture) (Asked Q held capture)
      (capture'.check request) := by
  have hresult : ∀ connection, capture'.mConnection = some connection →
      (capture'.check request).1 = (connection.check request).1 := by
    intro connection hsome
    rw [XcbInputCapture.check, XcbInputCapture.onConnection, hsome]
    rfl
  rcases hchecked : capture'.check request with ⟨code | _, asked⟩
  · have hasked : Asked Q held capture (capture'.check request).2 :=
      h.onConnection fun connection hsome hsettles =>
        hsettles.check_error hgrab hrefused (by rw [← hresult connection hsome, hchecked])
    rw [hchecked] at hasked
    exact hasked
  · have hasked : Asked Q (request.effect held) capture (capture'.check request).2 :=
      h.onConnection fun connection hsome hsettles =>
        hsettles.check_ok hgrab haccepted (by rw [← hresult connection hsome, hchecked])
    rw [hchecked] at hasked
    exact hasked

end Lawful

theorem flush (h : Asked P held capture capture') (hheld : Q held) :
    Asked Q held capture capture'.flush.2 :=
  h.onConnection fun _ _ hsettles => hsettles.flush hheld

end Asked

/-! ### The states between two calls -/

def Ungrabbed (held : Holdings) : Prop := held.pointerGrab = none ∧ held.keyboardGrab = none

/-- What the server holds in remote mode. -/
def grabHoldings (window cursor : Nat) (keyboard : Bool) : Holdings where
  cursors := [cursor]
  windows := [window]
  pointerGrab := some ⟨window, cursor⟩
  keyboardGrab := if keyboard then some window else none

/-- Nothing is grabbed, and the capture knows. -/
structure Idle (capture : XcbInputCapture S) : Prop where
  active : capture.mRemoteControlActive = false
  pointer : capture.mPointerGrabbed = false
  keyboard : capture.mKeyboardGrabbed = false

/-- The server comes to hold the cursor at most, and no grab meanwhile. -/
structure Released (capture : XcbInputCapture S) : Prop where
  idle : Idle capture
  window : capture.mGrabWindow = none
  holds : capture.Holds Ungrabbed { cursors := capture.mHiddenCursor.toList }
  closed : capture.mConnection = none → capture.mHiddenCursor = none

/-- The grab window is there and nothing is grabbed yet. -/
structure Windowed (window cursor : Nat) (capture : XcbInputCapture S) : Prop where
  idle : Idle capture
  window_eq : capture.mGrabWindow = some window
  cursor_eq : capture.mHiddenCursor = some cursor
  holds : capture.Holds Ungrabbed { cursors := [cursor], windows := [window] }
  open' : capture.mConnection ≠ none

/-- In remote mode the pointer is grabbed, and the keyboard where the capture says so. Nothing
is under way. -/
structure Grabs (window cursor : Nat) (capture : XcbInputCapture S) : Prop where
  active : capture.mRemoteControlActive = true
  pointer : capture.mPointerGrabbed = true
  window_eq : capture.mGrabWindow = some window
  cursor_eq : capture.mHiddenCursor = some cursor
  holds : capture.Holds (grabHoldings window cursor capture.mKeyboardGrabbed = ·)
    (grabHoldings window cursor capture.mKeyboardGrabbed)
  open' : capture.mConnection ≠ none

inductive Accounted (capture : XcbInputCapture S) : Prop
  | released (h : Released capture)
  | grabs (window cursor : Nat) (h : Grabs window cursor capture)

omit [XServer S] in
theorem Idle.of_same (h : Idle capture)
    (hsame : capture' = { capture with mConnection := capture'.mConnection }) : Idle capture' := by
  rw [hsame]
  exact ⟨h.active, h.pointer, h.keyboard⟩

theorem Released.of_asked (h : Released capture)
    (hasked : Asked Ungrabbed { cursors := capture.mHiddenCursor.toList } capture capture') :
    Released capture' := by
  have hcursor : capture'.mHiddenCursor = capture.mHiddenCursor := by rw [hasked.same]
  have hwindow : capture'.mGrabWindow = capture.mGrabWindow := by rw [hasked.same]
  refine ⟨h.idle.of_same hasked.same, hwindow.trans h.window, ?_, ?_⟩
  · rw [hcursor]
    exact hasked.holds
  · intro hnone
    rw [hcursor]
    exact h.closed (hasked.open'.mp hnone)

theorem Windowed.of_asked (h : Windowed window cursor capture)
    (hasked : Asked Ungrabbed { cursors := [cursor], windows := [window] } capture capture') :
    Windowed window cursor capture' where
  idle := h.idle.of_same hasked.same
  window_eq := (congrArg mGrabWindow hasked.same).trans h.window_eq
  cursor_eq := (congrArg mHiddenCursor hasked.same).trans h.cursor_eq
  holds := hasked.holds
  open' hnone := h.open' (hasked.open'.mp hnone)

/-! ### Taking the grabs -/

section Calls

variable [LawfulXServer S]

omit [XServer S] [LawfulXServer S] in
/-- Only a grab grabs. -/
theorem Ungrabbed.effect (h : Ungrabbed held) {request : XRequest}
    (hgrab : request.isGrab = false) : Ungrabbed (request.effect held) := by
  obtain ⟨hpointer, hkeyboard⟩ := h
  cases request with
  | grabPointer window cursor => cases hgrab
  | grabKeyboard window => cases hgrab
  | destroyWindow window => simp [XRequest.effect, Ungrabbed, hpointer, hkeyboard]
  | ungrabPointer => exact ⟨rfl, hkeyboard⟩
  | ungrabKeyboard => exact ⟨hpointer, rfl⟩
  | _ => exact ⟨hpointer, hkeyboard⟩

theorem Asked.attempt (h : Asked Ungrabbed held capture capture') (request : XRequest)
    (hgrab : request.isGrab = false) (hheld : Ungrabbed held) :
    Post (fun _ => Asked Ungrabbed (request.effect held) capture) (Asked Ungrabbed held capture)
      (capture'.check request) :=
  h.check request hgrab (hheld.effect hgrab) hheld

/-- What the cursor was drawn with goes. -/
theorem Asked.freed {pixmap gc : Nat} {cursors : List Nat}
    (h : Asked Ungrabbed { pixmaps := [pixmap], gcs := [gc], cursors } capture capture') :
    Asked Ungrabbed { cursors } capture
      ((capture'.queue (.freeGC gc)).queue (.freePixmap pixmap)) := by
  have hgc := h.queue (.freeGC gc) List.mem_cons_self ⟨rfl, rfl⟩
  have hpixmap := hgc.queue (.freePixmap pixmap) List.mem_cons_self ⟨rfl, rfl⟩
  simpa [XRequest.effect] using hpixmap

theorem Released.createHiddenCursor {pixmap gc : Nat} (h : Released capture)
    (hcursor : capture.mHiddenCursor = none) (hopen : capture.mConnection ≠ none)
    (hasked : Asked Ungrabbed { pixmaps := [pixmap], gcs := [gc] } capture capture') :
    Post (fun cursor after => Released after ∧ after.mHiddenCursor = some cursor ∧
      after.mConnection ≠ none) Released (capture'.createHiddenCursor pixmap gc) := by
  have hfailed : ∀ after : XcbInputCapture S,
      Asked Ungrabbed { pixmaps := [pixmap], gcs := [gc] } capture after →
      Released ((after.queue (.freeGC gc)).queue (.freePixmap pixmap)) := by
    intro after hafter
    apply h.of_asked
    rw [hcursor]
    exact hafter.freed
  have hdrawing := hasked.attempt (.polyFillRectangle pixmap gc) rfl ⟨rfl, rfl⟩
  rw [XcbInputCapture.createHiddenCursor]
  rcases hdrawn : capture'.check (.polyFillRectangle pixmap gc) with ⟨code | _, drawing⟩
  · rw [hdrawn] at hdrawing
    exact hfailed _ hdrawing.generateId
  · rw [hdrawn] at hdrawing
    have hcreating := Asked.attempt (Asked.generateId hdrawing)
      (.createCursor drawing.generateId.1 pixmap) rfl ⟨rfl, rfl⟩
    dsimp only
    rcases hcreated : drawing.generateId.2.check (.createCursor drawing.generateId.1 pixmap) with
      ⟨code | _, created⟩
    · rw [hcreated] at hcreating
      exact hfailed _ hcreating
    · rw [hcreated] at hcreating
      have hfreed := Asked.freed hcreating
      have hidle := h.idle.of_same hfreed.same
      have hstays : ((created.queue (.freeGC gc)).queue (.freePixmap pixmap)).mConnection ≠ none :=
        fun hnone => hopen (hfreed.open'.mp hnone)
      refine ⟨⟨⟨hidle.active, hidle.pointer, hidle.keyboard⟩, ?_, hfreed.holds.congr rfl,
        fun hnone => absurd hnone hstays⟩, rfl, hstays⟩
      exact (congrArg mGrabWindow hfreed.same).trans h.window

theorem Released.ensureHiddenCursor (h : Released capture) (hopen : capture.mConnection ≠ none) :
    Post (fun cursor after => Released after ∧ after.mHiddenCursor = some cursor ∧
      after.mConnection ≠ none) Released capture.ensureHiddenCursor := by
  rw [XcbInputCapture.ensureHiddenCursor]
  cases hcursor : capture.mHiddenCursor with
  | some cursor => exact ⟨h, hcursor, hopen⟩
  | none =>
    have hholds := h.holds
    rw [hcursor] at hholds
    have hpixmap := (Asked.refl hholds).generateId.attempt (.createPixmap capture.generateId.1)
      rfl ⟨rfl, rfl⟩
    dsimp only
    rcases hcreated : capture.generateId.2.check (.createPixmap capture.generateId.1) with
      ⟨code | _, drawable⟩
    · rw [hcreated] at hpixmap
      apply h.of_asked
      rw [hcursor]
      exact hpixmap
    · rw [hcreated] at hpixmap
      have hgc := Asked.attempt (Asked.generateId hpixmap)
        (.createGC drawable.generateId.1 capture.generateId.1) rfl ⟨rfl, rfl⟩
      dsimp only
      rcases hdrawing : drawable.generateId.2.check
        (.createGC drawable.generateId.1 capture.generateId.1) with ⟨code | _, drawing⟩
      · rw [hdrawing] at hgc
        have hfreed := Asked.queue hgc (.freePixmap capture.generateId.1) List.mem_cons_self
          ⟨rfl, rfl⟩
        apply h.of_asked
        rw [hcursor]
        simpa [XRequest.effect] using hfreed
      · rw [hdrawing] at hgc
        exact h.createHiddenCursor hcursor hopen hgc

theorem Windowed.destroyGrabWindow (h : Windowed window cursor capture) :
    Released capture.destroyGrabWindow := by
  have hasked := (Asked.refl h.holds).queue (.destroyWindow window) List.mem_cons_self ⟨rfl, rfl⟩
  have hheld : XRequest.effect (.destroyWindow window)
      { cursors := [cursor], windows := [window] } = { cursors := [cursor] } := by
    simp [XRequest.effect]
  rw [hheld] at hasked
  have hidle := h.idle.of_same hasked.same
  have hcursor : (capture.queue (.destroyWindow window)).mHiddenCursor = some cursor := h.cursor_eq
  rw [XcbInputCapture.destroyGrabWindow, h.window_eq]
  refine ⟨⟨hidle.active, hidle.pointer, hidle.keyboard⟩, rfl, ?_, ?_⟩
  · have hholds : (capture.queue (.destroyWindow window)).Holds Ungrabbed
        { cursors := (capture.queue (.destroyWindow window)).mHiddenCursor.toList } := by
      rw [hcursor]
      exact hasked.holds
    exact hholds.congr rfl
  · intro hnone
    exact absurd (hasked.open'.mp hnone) h.open'

theorem Released.ensureGrabWindow (h : Released capture)
    (hcursor : capture.mHiddenCursor = some cursor) (hopen : capture.mConnection ≠ none) :
    Post (fun window after => Windowed window cursor after) Released capture.ensureGrabWindow := by
  have hfailed : ∀ after : XcbInputCapture S,
      Asked Ungrabbed { cursors := [cursor] } capture after → Released after := by
    intro after hafter
    apply h.of_asked
    rw [hcursor]
    exact hafter
  have hholds := h.holds
  rw [hcursor] at hholds
  have hwindow := (Asked.refl hholds).generateId.attempt (.createWindow capture.generateId.1)
    rfl ⟨rfl, rfl⟩
  rw [XcbInputCapture.ensureGrabWindow, h.window]
  dsimp only
  rcases hcreated : capture.generateId.2.check (.createWindow capture.generateId.1) with
    ⟨code | _, created⟩
  · rw [hcreated] at hwindow
    exact hfailed _ hwindow
  · rw [hcreated] at hwindow
    have hmap := Asked.attempt hwindow (.mapWindow capture.generateId.1) rfl ⟨rfl, rfl⟩
    dsimp only
    rcases hmapped : created.check (.mapWindow capture.generateId.1) with ⟨code | _, mapped⟩
    · rw [hmapped] at hmap
      have hdestroyed := Asked.queue hmap (.destroyWindow capture.generateId.1) List.mem_cons_self
        ⟨rfl, rfl⟩
      apply hfailed
      simpa [XRequest.effect] using hdestroyed
    · rw [hmapped] at hmap
      have hasked : Asked Ungrabbed { cursors := [cursor], windows := [capture.generateId.1] }
        capture mapped := hmap
      have hidle := h.idle.of_same hasked.same
      exact ⟨⟨hidle.active, hidle.pointer, hidle.keyboard⟩, rfl,
        (congrArg mHiddenCursor hasked.same).trans hcursor, hasked.holds.congr rfl,
        fun hnone => hopen (hasked.open'.mp hnone)⟩

/-! ### Giving them back -/

theorem Grabs.releaseKeyboard (h : Grabs window cursor capture) :
    capture.releaseKeyboard = { capture with
        mConnection := capture.releaseKeyboard.mConnection
        mKeyboardGrabbed := false } ∧
      (capture.releaseKeyboard.mConnection = none ↔ capture.mConnection = none) ∧
      capture.releaseKeyboard.Holds (fun _ => True) (grabHoldings window cursor false) := by
  have hgrabs := Asked.refl (h.holds.mono fun _ _ => (trivial : True))
  rw [XcbInputCapture.releaseKeyboard]
  by_cases hkeyboard : capture.mKeyboardGrabbed = true
  · rw [if_pos hkeyboard]
    rw [hkeyboard] at hgrabs
    have hasked := hgrabs.queue .ungrabKeyboard trivial trivial
    exact ⟨rfl, hasked.open', hasked.holds.congr rfl⟩
  · rw [if_neg hkeyboard]
    rw [Bool.eq_false_of_not_eq_true hkeyboard] at hgrabs
    refine ⟨?_, Iff.rfl, hgrabs.holds⟩
    rw [← Bool.eq_false_of_not_eq_true hkeyboard]

/-- The grabs end one after the other, before the window goes, and then all goes out. -/
theorem Grabs.releaseRemoteControl (h : Grabs window cursor capture) :
    Released capture.releaseRemoteControl := by
  obtain ⟨hsame, hopen, hholds⟩ := h.releaseKeyboard
  rw [XcbInputCapture.releaseRemoteControl]
  generalize capture.releaseKeyboard = freed at hsame hopen hholds ⊢
  have hpointer : freed.mPointerGrabbed = true := by rw [hsame]; exact h.pointer
  have hwindow : freed.mGrabWindow = some window := by rw [hsame]; exact h.window_eq
  have hactive : freed.mRemoteControlActive = true := by rw [hsame]; exact h.active
  have hcursor : freed.mHiddenCursor = some cursor := by rw [hsame]; exact h.cursor_eq
  have hkeyboard : freed.mKeyboardGrabbed = false := by rw [hsame]
  have hqueued := ((Asked.refl hholds).queue .ungrabPointer trivial trivial).queue
    (.destroyWindow window) List.mem_cons_self trivial
  have hheld : XRequest.effect (.destroyWindow window) (XRequest.effect .ungrabPointer
      (grabHoldings window cursor false)) = { cursors := [cursor] } := by
    simp [XRequest.effect, grabHoldings]
  rw [hheld] at hqueued
  have hungrabbed : Ungrabbed { cursors := [cursor] } := ⟨rfl, rfl⟩
  have hflushed := hqueued.flush hungrabbed
  cases hconnection : capture.mConnection with
  | none => exact absurd hconnection h.open'
  | some connection =>
    simp only [releasePointer, hpointer, if_true, XcbInputCapture.destroyGrabWindow, queue,
      XcbInputCapture.onConnection, hwindow, hactive]
    refine ⟨⟨rfl, rfl, hkeyboard⟩, rfl, ?_, fun hnone => ?_⟩
    · rw [XcbInputCapture.flush]
      simp only [XcbInputCapture.onConnection, hcursor]
      exact hflushed.holds
    · exact absurd (hopen.mp (hflushed.open'.mp hnone)) h.open'

omit [LawfulXServer S] in
theorem Released.releaseRemoteControl (h : Released capture) :
    Released capture.releaseRemoteControl := by
  rw [XcbInputCapture.releaseRemoteControl]
  cases hconnection : capture.mConnection with
  | none => exact h
  | some connection =>
    have hsame : capture.releaseKeyboard.releasePointer.destroyGrabWindow = capture := by
      rw [XcbInputCapture.releaseKeyboard, h.idle.keyboard, if_neg Bool.false_ne_true,
        releasePointer, h.idle.pointer, if_neg Bool.false_ne_true,
        XcbInputCapture.destroyGrabWindow, h.window]
    simp only [hsame, h.idle.active, Bool.false_eq_true, if_false]
    exact ⟨⟨rfl, h.idle.pointer, h.idle.keyboard⟩, h.window, h.holds.congr rfl, h.closed⟩

theorem Accounted.releaseRemoteControl (h : Accounted capture) :
    Released capture.releaseRemoteControl := by
  cases h with
  | released h => exact h.releaseRemoteControl
  | grabs window cursor h => exact h.releaseRemoteControl

end Calls
end XcbInputCapture
end Mksync
