import Mksync.XcbInputCapture

/-!
# What an X11 capture keeps

Calls and events change the grabs of a capture and its connection. The platform that it
translates with stays, and its keyboard mapping until a new one is announced.
-/
namespace Mksync
namespace XcbInputCapture

variable {S : Type} [XServer S] {capture capture' : XcbInputCapture S}

/-- What a capture translates with. -/
def session (capture : XcbInputCapture S) : XcbDisplay × Option Xcb.KeySymbols :=
  (capture.mPlatform, capture.mKeySymbols)

omit [XServer S] in
@[simp] theorem session_onConnection {α : Type} (absent : α)
    (f : XcbConnection S → α × XcbConnection S) (capture : XcbInputCapture S) :
    (capture.onConnection absent f).2.session = capture.session := rfl

@[simp] theorem session_ask (request : XRequest) (capture : XcbInputCapture S) :
    (capture.ask request).2.session = capture.session := rfl

@[simp] theorem session_check (request : XRequest) (capture : XcbInputCapture S) :
    (capture.check request).2.session = capture.session := rfl

omit [XServer S] in
@[simp] theorem session_queue (request : XRequest) (capture : XcbInputCapture S) :
    (capture.queue request).session = capture.session := rfl

theorem session_of_check {answer : Except XcbErrc Unit} {request : XRequest}
    (h : capture.check request = (answer, capture')) : capture'.session = capture.session := by
  have hsame := session_check request capture
  rw [h] at hsame
  exact hsame

@[simp] theorem session_createHiddenCursor (pixmap gc : Nat) (capture : XcbInputCapture S) :
    (capture.createHiddenCursor pixmap gc).2.session = capture.session := by
  rw [createHiddenCursor]
  rcases hchecked : capture.check (.polyFillRectangle pixmap gc) with ⟨answer, drawn⟩
  have hdrawn := session_of_check hchecked
  cases answer with
  | error code => exact hdrawn
  | ok =>
    dsimp only
    rcases hchecked : drawn.generateId.2.check (.createCursor drawn.generateId.1 pixmap) with
      ⟨answer, created⟩
    have hcreated := session_of_check hchecked
    cases answer with
    | error code => exact hcreated.trans hdrawn
    | ok => exact hcreated.trans hdrawn

@[simp] theorem session_ensureHiddenCursor (capture : XcbInputCapture S) :
    capture.ensureHiddenCursor.2.session = capture.session := by
  rw [ensureHiddenCursor]
  split
  · rfl
  dsimp only
  rcases hchecked : capture.generateId.2.check (.createPixmap capture.generateId.1) with
    ⟨answer, drawable⟩
  have hpixmap := session_of_check hchecked
  cases answer with
  | error code => exact hpixmap
  | ok =>
    dsimp only
    rcases hchecked : drawable.generateId.2.check
      (.createGC drawable.generateId.1 capture.generateId.1) with ⟨answer, drawing⟩
    have hgc := session_of_check hchecked
    cases answer with
    | error code => exact hgc.trans hpixmap
    | ok =>
      have hcreated := session_createHiddenCursor capture.generateId.1 drawable.generateId.1 drawing
      exact hcreated.trans (hgc.trans hpixmap)

omit [XServer S] in
@[simp] theorem session_destroyGrabWindow (capture : XcbInputCapture S) :
    capture.destroyGrabWindow.session = capture.session := by
  rw [destroyGrabWindow]
  split
  · rfl
  next window _ => exact session_queue (.destroyWindow window) capture

@[simp] theorem session_ensureGrabWindow (capture : XcbInputCapture S) :
    capture.ensureGrabWindow.2.session = capture.session := by
  rw [ensureGrabWindow]
  split
  · rfl
  dsimp only
  rcases hchecked : capture.generateId.2.check (.createWindow capture.generateId.1) with
    ⟨answer, created⟩
  have hcreated := session_of_check hchecked
  cases answer with
  | error code => exact hcreated
  | ok =>
    dsimp only
    rcases hchecked : created.check (.mapWindow capture.generateId.1) with ⟨answer, mapped⟩
    have hmapped := session_of_check hchecked
    cases answer with
    | error code => exact hmapped.trans hcreated
    | ok => exact hmapped.trans hcreated

omit [XServer S] in
@[simp] theorem session_releaseKeyboard (capture : XcbInputCapture S) :
    capture.releaseKeyboard.session = capture.session := by
  rw [releaseKeyboard]
  split_ifs
  · exact session_queue .ungrabKeyboard capture
  · rfl

omit [XServer S] in
@[simp] theorem session_releasePointer (capture : XcbInputCapture S) :
    capture.releasePointer.session = capture.session := by
  rw [releasePointer]
  split_ifs
  · exact session_queue .ungrabPointer capture
  · rfl

@[simp] theorem session_releaseRemoteControl (capture : XcbInputCapture S) :
    capture.releaseRemoteControl.session = capture.session := by
  have hfreed : capture.releaseKeyboard.releasePointer.destroyGrabWindow.session =
      capture.session := by simp
  rw [releaseRemoteControl]
  split
  · rfl
  · dsimp only
    split_ifs
    · exact hfreed
    · exact hfreed

@[simp] theorem session_queryPointer (capture : XcbInputCapture S) :
    capture.queryPointer.2.session = capture.session := by
  rw [queryPointer]
  split
  next reply asked hasked =>
    have hsame := session_ask .queryPointer capture
    rw [hasked] at hsame
    split
    · exact hsame
    · exact hsame

@[simp] theorem session_grabKeyboard (window : Nat) (capture : XcbInputCapture S) :
    (grabKeyboard window capture).session = capture.session := by
  have hsame := session_ask (.grabKeyboard window) capture
  rw [grabKeyboard]
  rcases hasked : capture.ask (.grabKeyboard window) with ⟨reply, asked⟩
  rw [hasked] at hsame
  dsimp only
  split_ifs
  · exact hsame
  · exact hsame

theorem session_enterRemoteControl (window : Nat) (capture : XcbInputCapture S) :
    (capture.enterRemoteControl window).2.session = capture.session := by
  have hgrabbed : (grabKeyboard window { capture with mPointerGrabbed := true }).session =
      capture.session := session_grabKeyboard window _
  rw [enterRemoteControl]
  dsimp only
  generalize grabKeyboard window { capture with mPointerGrabbed := true } = grabbed at hgrabbed ⊢
  have hqueried : (queryPointer { grabbed with mRemoteControlActive := true }).2.session =
      capture.session := (session_queryPointer _).trans hgrabbed
  generalize queryPointer { grabbed with mRemoteControlActive := true } = queried at hqueried ⊢
  split
  next code flushed hflushed =>
    have hsame := (congrArg (fun result => result.2.session) hflushed).symm
    exact (session_releaseRemoteControl flushed).trans (hsame.trans hqueried)
  next flushed hflushed =>
    have hsame := (congrArg (fun result => result.2.session) hflushed).symm
    exact hsame.trans hqueried

theorem session_acquireRemoteControl (capture : XcbInputCapture S) :
    capture.acquireRemoteControl.2.session = capture.session := by
  have hcursor := session_ensureHiddenCursor capture
  rw [acquireRemoteControl]
  rcases hensured : capture.ensureHiddenCursor with ⟨code | cursor, drawn⟩
  · rw [hensured] at hcursor
    exact hcursor
  rw [hensured] at hcursor
  have hwindow := (session_ensureGrabWindow drawn).trans hcursor
  dsimp only
  rcases hmapped : drawn.ensureGrabWindow with ⟨code | window, mapped⟩
  · rw [hmapped] at hwindow
    exact hwindow
  rw [hmapped] at hwindow
  have hgrab := (session_ask (.grabPointer window cursor) mapped).trans hwindow
  dsimp only
  rcases hasked : mapped.ask (.grabPointer window cursor) with ⟨reply, asked⟩
  rw [hasked] at hgrab
  have hrefused := (session_destroyGrabWindow asked).trans hgrab
  split
  next heq =>
    obtain rfl := (Prod.mk.inj heq).2
    exact (session_enterRemoteControl window asked).trans hgrab
  next heq =>
    obtain rfl := (Prod.mk.inj heq).2
    exact hrefused
  next heq =>
    obtain rfl := (Prod.mk.inj heq).2
    exact hrefused

theorem session_setRemoteControlActive (active : Bool) (capture : XcbInputCapture S) :
    (capture.setRemoteControlActive active).2.session = capture.session := by
  rw [setRemoteControlActive]
  split
  · rfl
  · split_ifs
    · rfl
    · exact session_releaseRemoteControl capture
    · exact session_acquireRemoteControl capture

theorem session_moveLocalCursor (screenIndex : Nat) (x y : Int) (capture : XcbInputCapture S) :
    (capture.moveLocalCursor screenIndex x y).2.session = capture.session := by
  rw [moveLocalCursor]
  split
  · rfl
  split
  · rfl
  next global _ =>
    split_ifs
    · rfl
    · rcases hchecked : capture.check (.warpPointer global.1 global.2) with ⟨answer, warped⟩
      have hwarped := session_of_check hchecked
      cases answer with
      | error code => exact hwarped
      | ok => exact hwarped

/-! ### What a read event leaves alone -/

theorem session_screenLocalPoint (rootPoint : Option (Int16 × Int16))
    (capture : XcbInputCapture S) :
    (capture.screenLocalPoint rootPoint).2.session = capture.session := by
  cases rootPoint with
  | none => exact session_queryPointer capture
  | some point => rfl

theorem session_translateButton (detail : UInt32) (release : Bool)
    (rootPoint : Option (Int16 × Int16)) (capture : XcbInputCapture S) :
    (capture.translateButton detail release rootPoint).2.session = capture.session :=
  session_screenLocalPoint rootPoint capture

theorem session_translateKey (keyCode : UInt8) (release : Bool) (capture : XcbInputCapture S) :
    (capture.translateKey keyCode release).2.session = capture.session := by
  rw [translateKey]
  split
  · rfl
  next symbols _ =>
    have hasked := session_ask .queryKeymap capture
    rw [currentModifiers]
    rcases hreply : capture.ask .queryKeymap with ⟨reply, asked⟩
    rw [hreply] at hasked
    cases reply with
    | none => exact hasked
    | some reply => cases reply <;> exact hasked

theorem session_translateCoreEvent (event : XEvent) (capture : XcbInputCapture S) :
    (capture.translateCoreEvent event).2.session = capture.session := by
  cases event with
  | button detail release rootX rootY => exact session_translateButton _ _ _ capture
  | key detail release => exact session_translateKey detail release capture
  | _ => rfl

theorem session_translateRawEvent (event : XEvent) (capture : XcbInputCapture S) :
    (capture.translateRawEvent event).2.session = capture.session := by
  cases event with
  | rawMotion mask values => exact session_queryPointer capture
  | rawButton detail release => exact session_translateButton detail release none capture
  | rawKey detail release =>
    rw [translateRawEvent]
    split_ifs
    · rfl
    · exact session_translateKey _ release capture
  | _ => rfl

theorem session_translateInput (event : XEvent) (capture : XcbInputCapture S) :
    (capture.translateInput event).2.session = capture.session := by
  have hcore := session_translateCoreEvent event capture
  rw [translateInput]
  split_ifs
  · rcases hresult : capture.translateCoreEvent event with ⟨_ | core, after⟩
    · rw [hresult] at hcore
      exact (session_translateRawEvent event after).trans hcore
    · rw [hresult] at hcore
      exact hcore
  · exact session_translateRawEvent event capture

/-- A new keyboard mapping takes the place of the one before. -/
theorem translateEvent_session (event : XEvent) (capture : XcbInputCapture S) :
    (capture.translateEvent event).2.mPlatform = capture.mPlatform ∧
      (capture.translateEvent event).2.mKeySymbols.isSome = capture.mKeySymbols.isSome := by
  have hinput := session_translateInput event capture
  have hboth : (capture.translateInput event).2.mPlatform = capture.mPlatform ∧
      (capture.translateInput event).2.mKeySymbols.isSome = capture.mKeySymbols.isSome :=
    ⟨congrArg Prod.fst hinput, congrArg (fun session => session.2.isSome) hinput⟩
  cases event with
  | error => exact ⟨rfl, rfl⟩
  | mappingNotify symbols => exact ⟨rfl, Option.isSome_map⟩
  | _ => exact hboth

/-! ### Start and end -/

theorem platform_closeConnection (capture : XcbInputCapture S) :
    capture.closeConnection.mPlatform = capture.mPlatform := by
  have hreleased : (releaseConnection { capture with mPoller := false }).session =
      capture.session := by
    have hquiet := session_releaseRemoteControl { capture with mPoller := false }
    rw [releaseConnection]
    split
    · rfl
    · dsimp only
      split
      · exact hquiet
      · exact hquiet
  exact (Prod.mk.inj hreleased).1

theorem platform_selectRawInput (capture : XcbInputCapture S) :
    capture.selectRawInput.2.mPlatform = capture.mPlatform := by
  rw [selectRawInput]
  rcases hchecked : capture.check .selectEvents with ⟨answer, selected⟩
  have hselected := (Prod.mk.inj (session_of_check hchecked)).1
  cases answer with
  | error code => exact hselected
  | ok => exact hselected

end XcbInputCapture
end Mksync
