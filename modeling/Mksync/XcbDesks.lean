import Mksync.CaptureOperations
import Mksync.XcbEventStream

/-!
# The desk of a server on X11

The X server sends and answers what it likes, and whoever uses the capture calls and reads it
when he likes. What is captured is what the X server told of, in its order.
-/
namespace Mksync

/-! ### What is captured is what was told -/

namespace XcbInputCapture

variable {S : Type} [XServer S] {capture : XcbInputCapture S} {event : XEvent}
  {found : InputEvent}

theorem report_of_translateButton {detail : UInt32} {release : Bool}
    {rootPoint : Option (Int16 × Int16)}
    (h : (capture.translateButton detail release rootPoint).1 = some found) :
    buttonReport detail release = some found.report := by
  obtain ⟨⟨screenIndex, x, y⟩, -, hbutton⟩ := Option.bind_eq_some_iff.mp h
  have hfound : buttonEvent detail release screenIndex x y = some found := hbutton
  rw [← buttonEvent_report detail release screenIndex x y, hfound]
  rfl

/-- The key of an event was read off one of the mappings. -/
def Keyed (mappings : List Xcb.KeySymbols) : InputEvent → Prop
  | .key event => ∃ symbols ∈ mappings, ∃ keyCode : UInt8, event.nativeCode = keyCode.toNat ∧
      event.key = Xcb.translateKeySym (symbols.keySym keyCode)
  | _ => True

theorem Keyed.mono {mappings more : List Xcb.KeySymbols} (h : Keyed mappings found)
    (hsubset : mappings ⊆ more) : Keyed more found := by
  cases found with
  | key event =>
    obtain ⟨symbols, hmem, hkey⟩ := h
    exact ⟨symbols, hsubset hmem, hkey⟩
  | _ => trivial

theorem translateKey_eq_some {keyCode : UInt8} {release : Bool}
    (h : (capture.translateKey keyCode release).1 = some found) :
    found.report = .key keyCode.toNat release ∧ Keyed capture.mKeySymbols.toList found := by
  rw [translateKey] at h
  split at h
  · cases h
  next symbols hsymbols =>
    cases h
    exact ⟨rfl, symbols, by simp [hsymbols], keyCode, rfl, rfl⟩

/-- No button is a key. -/
theorem keyed_of_translateButton {mappings : List Xcb.KeySymbols} {detail : UInt32}
    {release : Bool} {rootPoint : Option (Int16 × Int16)}
    (h : (capture.translateButton detail release rootPoint).1 = some found) :
    Keyed mappings found := by
  have hreport := report_of_translateButton h
  cases found with
  | key event =>
    rw [buttonReport] at hreport
    split_ifs at hreport <;> cases hreport
  | _ => trivial

theorem translateRawEvent_eq_some (h : (capture.translateRawEvent event).1 = some found) :
    event.isCore = false ∧ event.report = some found.report ∧
      Keyed capture.mKeySymbols.toList found := by
  cases event with
  | rawMotion mask values =>
    obtain ⟨place, -, rfl⟩ := Option.map_eq_some_iff.mp h
    exact ⟨rfl, rfl, trivial⟩
  | rawButton detail release =>
    have hbutton : (capture.translateButton detail release none).1 = some found := h
    exact ⟨rfl, report_of_translateButton hbutton, keyed_of_translateButton hbutton⟩
  | rawKey detail release =>
    rw [translateRawEvent] at h
    split_ifs at h with hlarge
    obtain ⟨hreport, hkeyed⟩ := translateKey_eq_some h
    exact ⟨rfl, by rw [XEvent.report, if_neg hlarge, hreport], hkeyed⟩
  | _ => cases h

theorem translateCoreEvent_eq_some (h : (capture.translateCoreEvent event).1 = some found) :
    event.report = some found.report ∧ Keyed capture.mKeySymbols.toList found := by
  cases event with
  | motionNotify rootX rootY =>
    obtain ⟨place, -, rfl⟩ := Option.map_eq_some_iff.mp h
    exact ⟨rfl, trivial⟩
  | button detail release rootX rootY =>
    have hbutton : (capture.translateButton detail.toUInt32 release (some (rootX, rootY))).1 =
        some found := h
    exact ⟨report_of_translateButton hbutton, keyed_of_translateButton hbutton⟩
  | key detail release =>
    obtain ⟨hreport, hkeyed⟩ := translateKey_eq_some h
    exact ⟨congrArg some hreport.symm, hkeyed⟩
  | _ => cases h

/-- Whatever is captured is what the event was waiting for. -/
theorem translateEvent_eq_some (h : (capture.translateEvent event).1 = some found) :
    event.pending capture.mPlatform.mRawEventsDuringGrab = some found.report ∧
      Keyed capture.mKeySymbols.toList found := by
  have hinput : (capture.translateInput event).1 = some found →
      event.pending capture.mPlatform.mRawEventsDuringGrab = some found.report ∧
        Keyed capture.mKeySymbols.toList found := by
    intro h
    have hraw : ∀ after : XcbInputCapture S, after.session = capture.session →
        (after.translateRawEvent event).1 = some found →
        event.pending capture.mPlatform.mRawEventsDuringGrab = some found.report ∧
          Keyed capture.mKeySymbols.toList found := by
      intro after hsession hfound
      obtain ⟨hcore, hreport, hkeyed⟩ := translateRawEvent_eq_some hfound
      rw [(Prod.mk.inj hsession).2] at hkeyed
      rw [XEvent.pending, hcore]
      exact ⟨hreport, hkeyed⟩
    rw [translateInput] at h
    split_ifs at h with hmode
    · have hsession := session_translateCoreEvent event capture
      rcases hresult : capture.translateCoreEvent event with ⟨_ | core, after⟩
      · rw [hresult] at hsession h
        exact hraw after hsession h
      · rw [hresult] at h
        obtain rfl : core = found := Option.some.inj h
        obtain ⟨hreport, hkeyed⟩ := translateCoreEvent_eq_some (by rw [hresult])
        simp only [Bool.and_eq_true, Bool.not_eq_true'] at hmode
        rw [XEvent.pending, hmode.2, Bool.and_false]
        exact ⟨hreport, hkeyed⟩
    · exact hraw capture rfl h
  cases event with
  | error => cases h
  | mappingNotify symbols => cases h
  | _ => exact hinput h

/-- An event is captured once at most, and as what it was waiting for. -/
theorem reports_translateEvent (event : XEvent) (capture : XcbInputCapture S) :
    ((capture.translateEvent event).1.toList.map InputEvent.report).Sublist
      (event.pending capture.mPlatform.mRawEventsDuringGrab).toList := by
  cases hfound : (capture.translateEvent event).1 with
  | none => exact List.nil_sublist _
  | some found =>
    obtain ⟨hpending, -⟩ := translateEvent_eq_some hfound
    rw [hpending]
    exact .refl _

end XcbInputCapture

namespace XEvent

/-- The keyboard mapping that an event announces. -/
def mapping? : XEvent → Option Xcb.KeySymbols
  | mappingNotify symbols => some symbols
  | _ => none

end XEvent

/-- The mapping in use is the one before, or the one that the event tells of. -/
theorem XcbInputCapture.mKeySymbols_translateEvent {S : Type} [XServer S]
    {capture : XcbInputCapture S} {event : XEvent} {symbols : Xcb.KeySymbols}
    (h : symbols ∈ (capture.translateEvent event).2.mKeySymbols) :
    symbols ∈ capture.mKeySymbols ∨ event.mapping? = some symbols := by
  have hinput : symbols ∈ (capture.translateInput event).2.mKeySymbols →
      symbols ∈ capture.mKeySymbols := by
    have hsession := session_translateInput event capture
    rw [(Prod.mk.inj hsession).2]
    exact id
  cases event with
  | error => exact .inl h
  | mappingNotify announced =>
    obtain ⟨before, -, rfl⟩ := Option.map_eq_some_iff.mp h
    exact .inr rfl
  | _ => exact .inl (hinput h)

/-! ### The desk of the server -/

/-- The X server, the connection and the capture of a server. -/
structure XcbDesk (S : Type) extends XcbSeat S where
  /-- History: the keyboard mappings there were. Read by no function. -/
  mappings : List Xcb.KeySymbols

namespace XcbDesk

open XcbInputCapture

variable {S : Type} [XServer S]

/-- What goes on at the desk between the calls of the router. -/
inductive Signal
  | arrives (event : XEvent)
  | write (count : Nat)
  | lose (error : ConnectionError)
  | read

/-- The oldest waiting event, and what it translates to. -/
def next (desk : XcbDesk S) : Option (Option InputEvent) :=
  if desk.stands then desk.queue.head?.map fun event => (desk.capture.translateEvent event).1
  else none

def onSignal (signal : Signal) (desk : XcbDesk S) : XcbDesk S :=
  match signal with
  | .arrives event => { desk with
      toXcbSeat := desk.toXcbSeat.arrives event
      mappings := desk.mappings ++ event.mapping?.toList }
  | .write count => { desk with
      capture := XcbInputCapture.onSignal (.write count) desk.capture }
  | .lose error => { desk with
      capture := XcbInputCapture.onSignal (.lose error) desk.capture }
  | .read => { desk with toXcbSeat := desk.toXcbSeat.read.getD desk.toXcbSeat }

instance : InputCapture (XcbDesk S) where
  Signal := Signal
  onSignal := onSignal
  setRemoteControlActive active desk :=
    let result := desk.capture.setRemoteControlActive active
    (result.1.isOk, { desk with capture := result.2 })
  moveLocalCursor screenIndex x y desk :=
    let result := desk.capture.moveLocalCursor screenIndex x y
    (result.1.isOk, { desk with capture := result.2 })

/-- A desk at which nothing happened since the capture was started. -/
def watching (capture : XcbInputCapture S) : XcbDesk S :=
  { capture, mappings := capture.mKeySymbols.toList }

/-- Every mapping in use or under way is known, what was captured and what waits is what the
server told of, in its order, and each key was read off a mapping. -/
structure Watched (desk : XcbDesk S) : Prop where
  symbols : ∀ symbols ∈ desk.capture.mKeySymbols, symbols ∈ desk.mappings
  mapping : ∀ event ∈ desk.queue, ∀ symbols ∈ event.mapping?, symbols ∈ desk.mappings
  keyed : ∀ event ∈ desk.captured, Keyed desk.mappings event
  received : (desk.captured.map InputEvent.report ++
    desk.queue.filterMap (·.pending desk.rawDuringGrab)).Sublist
      (desk.received.filterMap (·.pending desk.rawDuringGrab))

omit [XServer S] in
theorem watched_watching (capture : XcbInputCapture S) : Watched (watching capture) where
  symbols _ hmem := Option.mem_toList.mpr hmem
  mapping _ hmem := absurd hmem List.not_mem_nil
  keyed _ hmem := absurd hmem List.not_mem_nil
  received := List.nil_sublist _

variable {desk : XcbDesk S}

omit [XServer S] in
/-- A call leaves alone all but the grab. -/
theorem Watched.called (h : Watched desk) {capture : XcbInputCapture S}
    (hsession : capture.session = desk.capture.session) : Watched { desk with capture } := by
  obtain ⟨hplatform, hsymbols⟩ := Prod.mk.inj hsession
  refine ⟨?_, h.mapping, h.keyed, ?_⟩
  · show ∀ symbols ∈ capture.mKeySymbols, symbols ∈ desk.mappings
    rw [hsymbols]
    exact h.symbols
  · have hduring : ({ desk.toXcbSeat with capture } : XcbSeat S).rawDuringGrab =
        desk.rawDuringGrab := congrArg XcbDisplay.mRawEventsDuringGrab hplatform
    show (desk.captured.map InputEvent.report ++ desk.queue.filterMap (·.pending
      ({ desk.toXcbSeat with capture } : XcbSeat S).rawDuringGrab)).Sublist _
    rw [hduring]
    exact h.received

omit [XServer S] in
theorem Watched.arrives (h : Watched desk) (event : XEvent) : Watched { desk with
    toXcbSeat := desk.toXcbSeat.arrives event
    mappings := desk.mappings ++ event.mapping?.toList } := by
  refine ⟨fun symbols hmem => List.mem_append_left _ (h.symbols symbols hmem), ?_, ?_, ?_⟩
  · intro waiting hmem symbols hsymbols
    rcases List.mem_append.mp hmem with hold | hnew
    · exact List.mem_append_left _ (h.mapping waiting hold symbols hsymbols)
    · obtain rfl := List.mem_singleton.mp hnew
      exact List.mem_append_right _ (Option.mem_toList.mpr hsymbols)
  · exact fun found hmem => (h.keyed found hmem).mono (List.subset_append_left _ _)
  · show (desk.captured.map InputEvent.report ++
        (desk.queue ++ [event]).filterMap (·.pending desk.rawDuringGrab)).Sublist
      ((desk.received ++ [event]).filterMap (·.pending desk.rawDuringGrab))
    rw [List.filterMap_append, List.filterMap_append, ← List.append_assoc]
    exact h.received.append (.refl _)

theorem Watched.read (h : Watched desk) : Watched (onSignal .read desk) := by
  cases hread : desk.toXcbSeat.read with
  | none =>
    rw [onSignal, hread]
    exact h
  | some seat =>
    rw [onSignal, hread]
    rw [XcbSeat.read] at hread
    split at hread
    · cases hread
    next event queue hqueue =>
      split_ifs at hread
      obtain rfl := Option.some.inj hread
      obtain ⟨hplatform, -⟩ := translateEvent_session event desk.capture
      refine ⟨?_, ?_, ?_, ?_⟩
      · intro symbols hmem
        rcases mKeySymbols_translateEvent hmem with hbefore | hannounced
        · exact h.symbols symbols hbefore
        · exact h.mapping event (by simp [hqueue]) symbols hannounced
      · intro waiting hmem
        apply h.mapping waiting
        rw [hqueue]
        exact List.mem_cons_of_mem event hmem
      · intro found hmem
        rcases List.mem_append.mp hmem with hold | hnew
        · exact h.keyed found hold
        · obtain ⟨-, hkeyed⟩ := translateEvent_eq_some (Option.mem_toList.mp hnew)
          exact hkeyed.mono fun symbols hsymbols =>
            h.symbols symbols (Option.mem_toList.mp hsymbols)
      · have htaken := reports_translateEvent event desk.capture
        have hreceived := h.received
        rw [hqueue, XEvent.filterMap_pending_cons] at hreceived
        show ((desk.captured ++ (desk.capture.translateEvent event).1.toList).map
          InputEvent.report ++ queue.filterMap (·.pending
            (desk.capture.translateEvent event).2.mPlatform.mRawEventsDuringGrab)).Sublist
          (desk.received.filterMap (·.pending
            (desk.capture.translateEvent event).2.mPlatform.mRawEventsDuringGrab))
        rw [hplatform, List.map_append, List.append_assoc]
        exact ((List.Sublist.refl _).append (htaken.append (.refl _))).trans hreceived

theorem captured_read {found : Option InputEvent} (h : desk.next = some found) :
    (onSignal .read desk).captured = desk.captured ++ found.toList := by
  rw [next] at h
  split_ifs at h with hstands
  obtain ⟨event, hevent, rfl⟩ := Option.map_eq_some_iff.mp h
  obtain ⟨queue, hqueue⟩ := List.head?_eq_some_iff.mp hevent
  rw [onSignal, XcbSeat.read, hqueue, hstands]
  rfl

theorem keeps_watched : InputCapture.Keeps (Watched (S := S)) := by
  refine ⟨⟨?_, ?_⟩, ?_⟩
  · exact fun active desk h => h.called (session_setRemoteControlActive active desk.capture)
  · exact fun screenIndex x y desk h =>
      h.called (session_moveLocalCursor screenIndex x y desk.capture)
  · intro signal desk h
    show Watched (onSignal signal desk)
    cases signal with
    | arrives event => exact h.arrives event
    | write count => exact h.called (session_onConnection () _ desk.capture)
    | lose error => exact h.called (session_onConnection () _ desk.capture)
    | read => exact h.read

end XcbDesk
end Mksync
