import Mksync.TopologyRuns

/-!
# Crossing a border

A crossing picks the border first and looks for the neighbour afterwards. Where it enters is
a monotone function of where it leaves. At a corner the border that is picked need not be
the one with the neighbour.
-/
namespace Mksync

/-! ### Where a crossing enters -/

theorem clamp_mono {v v' lo hi : Int} (hle : lo ≤ hi) (h : v ≤ v') :
    clamp v lo hi ≤ clamp v' lo hi := by
  unfold clamp
  split_ifs <;> omega

theorem clamp_of_le {v lo hi : Int} (hle : lo ≤ hi) (h : v ≤ lo) : clamp v lo hi = lo := by
  unfold clamp
  split_ifs <;> omega

theorem clamp_of_ge {v lo hi : Int} (hle : lo ≤ hi) (h : hi ≤ v) : clamp v lo hi = hi := by
  unfold clamp
  split_ifs <;> omega

theorem clamp_of_mem {v lo hi : Int} (hlo : lo ≤ v) (hhi : v ≤ hi) : clamp v lo hi = v := by
  unfold clamp
  split_ifs <;> omega

namespace ScreenTopology

section Entry

variable {source source' sourceExtent targetExtent : Int}

/-- Whatever its position, a coordinate is clamped to its extent and then rescaled. -/
theorem entryCoordinate_eq_rescale_clamp (hsource : 1 < sourceExtent)
    (htarget : 1 < targetExtent) : entryCoordinate source sourceExtent targetExtent =
      Rescaling.rescale (sourceExtent - 1) (targetExtent - 1)
        (clamp source 0 (sourceExtent - 1)) := by
  have hmem : 0 ≤ clamp source 0 (sourceExtent - 1) ∧
      clamp source 0 (sourceExtent - 1) ≤ sourceExtent - 1 := clamp_mem (by omega)
  have hclamped : entryCoordinate source sourceExtent targetExtent =
      entryCoordinate (clamp source 0 (sourceExtent - 1)) sourceExtent targetExtent := by
    simp only [entryCoordinate, clamp_of_mem hmem.1 hmem.2]
  rw [hclamped]
  exact entryCoordinate_eq_rescale hsource htarget hmem.1 (by omega)

theorem entryCoordinate_mono (h : source ≤ source') :
    entryCoordinate source sourceExtent targetExtent ≤
      entryCoordinate source' sourceExtent targetExtent := by
  by_cases hextents : sourceExtent ≤ 1 ∨ targetExtent ≤ 1
  · -- on a single pixel there is nothing to choose
    simp [entryCoordinate, hextents]
  · obtain ⟨hsource, htarget⟩ := not_or.mp hextents
    rw [entryCoordinate_eq_rescale_clamp (by omega) (by omega),
      entryCoordinate_eq_rescale_clamp (by omega) (by omega)]
    exact Rescaling.rescale_mono (by omega) (by omega) (clamp_mono (by omega) h)

/-- The first pixel, and everything before it, goes to the first pixel. -/
theorem entryCoordinate_first (hsource : 1 < sourceExtent) (htarget : 1 < targetExtent)
    (h : source ≤ 0) : entryCoordinate source sourceExtent targetExtent = 0 := by
  rw [entryCoordinate_eq_rescale_clamp hsource htarget, clamp_of_le (by omega) h]
  exact Rescaling.rescale_zero (by omega)

/-- The last pixel, and everything after it, goes to the last pixel. -/
theorem entryCoordinate_last (hsource : 1 < sourceExtent) (htarget : 1 < targetExtent)
    (h : sourceExtent - 1 ≤ source) :
    entryCoordinate source sourceExtent targetExtent = targetExtent - 1 := by
  rw [entryCoordinate_eq_rescale_clamp hsource htarget, clamp_of_ge (by omega) h]
  exact Rescaling.rescale_span (by omega)

end Entry

/-- Every crossing into a neighbour enters at a pixel of the border opposite to the one
crossed, in the order of the points it comes from and from end to end. -/
theorem entry_mapping_sound (edits : List Edit) {a b : ScreenKey} {source : TopologyScreen}
    {e : Edge} (ha : (edited edits).findScreen a = some source)
    (hb : (edited edits).findNeighbor a e = some b) :
    ∃ target, (edited edits).findScreen b = some target ∧
      (∀ p : ScreenPoint, p.key = a → ∃ q, (edited edits).mapEntryPoint p e = .ok q ∧ q.key = b ∧
        target.info.Contains q.x q.y ∧ target.info.OnBorder e.opposite q.x q.y ∧
        (1 < source.info.extentAlong e → 1 < target.info.extentAlong e →
          (p.along e ≤ 0 → q.along e = 0) ∧
          (source.info.extentAlong e - 1 ≤ p.along e →
            q.along e = target.info.extentAlong e - 1))) ∧
      ∀ p p' q q' : ScreenPoint, p.key = a → p'.key = a →
        (edited edits).mapEntryPoint p e = .ok q → (edited edits).mapEntryPoint p' e = .ok q' →
        p.along e ≤ p'.along e → q.along e ≤ q'.along e := by
  have h : (edited edits).WellFormed := wellFormed_edited edits
  generalize edited edits = t at ha hb h ⊢
  obtain ⟨_, target, _, htarget, _⟩ := h.findNeighbor_eq_some.mp hb
  have hrect := h.rects _ _ htarget
  have hmap : ∀ p : ScreenPoint, p.key = a →
      t.mapEntryPoint p e = .ok (entryPoint source.info target.info b p e) := by
    rintro p rfl
    exact mapEntryPoint_eq_ok.mpr ⟨source, target, b, ha, hb, htarget, rfl⟩
  refine ⟨target, htarget, ?_, ?_⟩
  · intro p hp
    refine ⟨_, hmap p hp, entryPoint_key e, entryPoint_contains hrect.1 hrect.2,
      entryPoint_onBorder hrect.1 hrect.2, fun hsource hextent => ?_⟩
    rw [entryPoint_along]
    exact ⟨entryCoordinate_first hsource hextent, entryCoordinate_last hsource hextent⟩
  · intro p p' q q' hp hp' hq hq' hle
    obtain rfl := Except.ok.inj ((hmap p hp).symm.trans hq)
    obtain rfl := Except.ok.inj ((hmap p' hp').symm.trans hq')
    rw [entryPoint_along, entryPoint_along]
    exact entryCoordinate_mono hle

/-- From the lower right corner of the large screen to that of the smaller one. -/
theorem entry_mapping_sound_sideBySide : ∃ target q,
    (edited sideBySide).findScreen ⟨"side", 0⟩ = some target ∧
    (edited sideBySide).mapEntryPoint ⟨⟨"desk", 0⟩, 1919, 1200⟩ .right = .ok q ∧
    target.info.OnBorder .left q.x q.y ∧ q.along .right = target.info.extentAlong .right - 1 := by
  have ha : (edited sideBySide).findScreen ⟨"desk", 0⟩ =
      some ⟨⟨"desk", 0⟩, ⟨0, 0⟩, { width := 1920, height := 1080 }, true⟩ := by decide +kernel
  have hb : (edited sideBySide).findNeighbor ⟨"desk", 0⟩ .right = some ⟨"side", 0⟩ := by
    decide +kernel
  have hother : (edited sideBySide).findScreen ⟨"side", 0⟩ =
      some ⟨⟨"side", 0⟩, ⟨1, 0⟩, { width := 1280, height := 720 }, false⟩ := by decide +kernel
  obtain ⟨target, htarget, hentry, _⟩ := entry_mapping_sound sideBySide ha hb
  rw [hother] at htarget
  cases htarget
  obtain ⟨q, hq, _, _, hborder, hends⟩ := hentry ⟨⟨"desk", 0⟩, 1919, 1200⟩ rfl
  exact ⟨_, q, hother, hq, hborder, (hends (by decide) (by decide)).2 (by decide)⟩

/-! ### Which border is crossed -/

end ScreenTopology

/-- The point lies on the border or beyond it. -/
def ScreenInfo.Touches (info : ScreenInfo) (e : Edge) (point : ScreenPoint) : Prop :=
  match e with
  | .left => point.x ≤ 0
  | .right => info.width - 1 ≤ point.x
  | .top => point.y ≤ 0
  | .bottom => info.height - 1 ≤ point.y

instance (info : ScreenInfo) (e : Edge) (point : ScreenPoint) : Decidable (info.Touches e point) :=
  match e with
  | .left | .right | .top | .bottom => inferInstanceAs (Decidable (_ ≤ _))

/-- The place of an edge in the order in which the borders are tried. -/
def Edge.rank : Edge → Nat
  | .left => 0
  | .right => 1
  | .top => 2
  | .bottom => 3

theorem Edge.forall_iff {P : Edge → Prop} :
    (∀ e, P e) ↔ P .left ∧ P .right ∧ P .top ∧ P .bottom := by
  constructor
  · exact fun h => ⟨h .left, h .right, h .top, h .bottom⟩
  · rintro ⟨hleft, hright, htop, hbottom⟩ e
    cases e with
    | left => exact hleft
    | right => exact hright
    | top => exact htop
    | bottom => exact hbottom

namespace ScreenTopology

variable {t : ScreenTopology} {point q : ScreenPoint} {screen : TopologyScreen} {e : Edge}

/-- The border that is hit is the first one touched. -/
theorem hitEdge_eq_some (hscreen : t.findScreen point.key = some screen) :
    t.hitEdge point = some e ↔
      screen.info.Touches e point ∧ ∀ e', e'.rank < e.rank → ¬ screen.info.Touches e' point := by
  simp only [hitEdge, hscreen, Edge.forall_iff]
  cases e <;> simp only [ScreenInfo.Touches, Edge.rank] <;> split_ifs <;> simp <;> omega

section Crossing

variable [EntryScaling]

/-- The decision of both mouse handlers: the border hit, and the entry behind it. -/
def crossing (t : ScreenTopology) (point : ScreenPoint) : Option ScreenPoint :=
  match t.hitEdge point with
  | none => none
  | some edge => (t.mapEntryPoint point edge).toOption

theorem crossing_eq_some : t.crossing point = some q ↔
    ∃ e, t.hitEdge point = some e ∧ t.mapEntryPoint point e = .ok q := by
  unfold crossing
  cases t.hitEdge point with
  | none => simp
  | some edge => cases hmap : t.mapEntryPoint point edge <;> simp [hmap, Except.toOption]

/-- A crossing leaves through a touched border into the neighbour behind it. -/
theorem WellFormed.crossing (h : t.WellFormed) (hscreen : t.findScreen point.key = some screen)
    (hq : t.crossing point = some q) : ∃ e target, screen.info.Touches e point ∧
      (∀ e', e'.rank < e.rank → ¬ screen.info.Touches e' point) ∧
      t.findNeighbor point.key e = some q.key ∧ t.findScreen q.key = some target ∧
      target.info.Contains q.x q.y := by
  obtain ⟨e, hedge, hmap⟩ := crossing_eq_some.mp hq
  obtain ⟨htouches, hfirst⟩ := (hitEdge_eq_some hscreen).mp hedge
  obtain ⟨target, htarget, hinside⟩ := h.mapEntryPoint hmap
  obtain ⟨_, _, key, _, hneighbor, _, rfl⟩ := mapEntryPoint_eq_ok.mp hmap
  rw [entryPoint_key] at htarget ⊢
  exact ⟨e, target, htouches, hfirst, hneighbor, htarget, hinside⟩

/-- A point crosses into a neighbour behind a touched border exactly when the first border it
touches, from left over right and top to bottom, has a neighbour. -/
theorem crosses_iff_first_touched (edits : List Edit) {p : ScreenPoint}
    {screen : TopologyScreen} (hscreen : (edited edits).findScreen p.key = some screen) :
    (∃ q e target, (edited edits).crossing p = some q ∧ screen.info.Touches e p ∧
      (edited edits).findNeighbor p.key e = some q.key ∧
      (edited edits).findScreen q.key = some target ∧ target.info.Contains q.x q.y) ↔
    ∃ e, screen.info.Touches e p ∧ ((edited edits).findNeighbor p.key e).isSome ∧
      ∀ e', e'.rank < e.rank → ¬ screen.info.Touches e' p := by
  have h : (edited edits).WellFormed := wellFormed_edited edits
  generalize edited edits = t at hscreen h ⊢
  constructor
  · rintro ⟨q, _, _, hq, _⟩
    obtain ⟨e, _, htouches, hfirst, hneighbor, _⟩ := h.crossing hscreen hq
    exact ⟨e, htouches, by rw [hneighbor]; rfl, hfirst⟩
  · rintro ⟨e, htouches, hneighbor, hfirst⟩
    obtain ⟨key, hkey⟩ := Option.isSome_iff_exists.mp hneighbor
    obtain ⟨_, target, _, htarget, _⟩ := h.findNeighbor_eq_some.mp hkey
    have hedge := (hitEdge_eq_some hscreen).mpr ⟨htouches, hfirst⟩
    have hq : t.crossing p = some (entryPoint screen.info target.info key p e) :=
      crossing_eq_some.mpr ⟨e, hedge,
        mapEntryPoint_eq_ok.mpr ⟨screen, target, key, hscreen, hkey, htarget, rfl⟩⟩
    obtain ⟨e', target', htouches', _, hrest⟩ := h.crossing hscreen hq
    exact ⟨_, e', target', hq, htouches', hrest⟩

end Crossing

/-- In the middle of its right border the large screen leads to the smaller one. -/
theorem crosses_iff_first_touched_sideBySide : ∃ q e target,
    (edited sideBySide).crossing ⟨⟨"desk", 0⟩, 1919, 540⟩ = some q ∧
    (edited sideBySide).findNeighbor ⟨"desk", 0⟩ e = some q.key ∧
    (edited sideBySide).findScreen q.key = some target ∧ target.info.Contains q.x q.y := by
  have hdesk : (edited sideBySide).findScreen ⟨"desk", 0⟩ =
      some ⟨⟨"desk", 0⟩, ⟨0, 0⟩, { width := 1920, height := 1080 }, true⟩ := by decide +kernel
  have hright : ((edited sideBySide).findNeighbor ⟨"desk", 0⟩ .right).isSome := by
    decide +kernel
  obtain ⟨q, e, target, hq, _, hrest⟩ := (crosses_iff_first_touched sideBySide
    (p := ⟨⟨"desk", 0⟩, 1919, 540⟩) hdesk).mpr
      ⟨.right, by decide, hright, Edge.forall_iff.mpr (by decide)⟩
  exact ⟨q, e, target, hq, hrest⟩

/-- A large screen with another one above it. -/
def stacked : List Edit :=
  [.addScreen ⟨⟨"desk", 0⟩, ⟨0, 0⟩, { width := 1920, height := 1080 }, true⟩,
    .addScreen ⟨⟨"above", 0⟩, ⟨0, -1⟩, { width := 1920, height := 1080 }, false⟩]

/-- The upper left corner touches the left border first, where there is no neighbour, and
does not cross the top border, where there is one. -/
theorem dead_corner : ∃ screen,
    (edited stacked).findScreen ⟨"desk", 0⟩ = some screen ∧
    screen.info.Touches .top ⟨⟨"desk", 0⟩, 0, 0⟩ ∧
    ((edited stacked).findNeighbor ⟨"desk", 0⟩ .top).isSome ∧
    (edited stacked).crossing ⟨⟨"desk", 0⟩, 0, 0⟩ = none := by
  refine ⟨⟨⟨"desk", 0⟩, ⟨0, 0⟩, { width := 1920, height := 1080 }, true⟩, ?_, ?_, ?_, ?_⟩ <;>
    decide +kernel

end ScreenTopology
end Mksync
