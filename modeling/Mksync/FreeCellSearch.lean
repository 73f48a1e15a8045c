import Mksync.CheckedIntegers
import Mksync.LoopTurns
import Mksync.ScreenPlacement
import Mathlib.Order.Bounds.Basic

/-!
# The search for a free cell

The search scans row 0 to the right and has no bound of its own. Each taken cell that it
passes leaves one screen fewer ahead, so the screens bound its probes, and with them how far
its `int32` counter gets.
-/
namespace Mksync
namespace ServerScreenStore

open LoopTurns CheckedIntegers

variable {E : Type} [Endpoint E] {screens : List TopologyScreen} {startX : Int}
  {cell : GridPosition}

/-- One turn of `nextFreeCell`: a free cell is returned, from a taken one the counter moves on. -/
def probe (screens : List TopologyScreen) (cell : GridPosition) :
    Turn GridPosition GridPosition :=
  if screens.any (·.cell = cell) then
    match checked 32 (cell.x + 1) with
    | none => .fault
    | some x => .again { cell with x }
  else .done cell

/-! ### The search -/

/-- The search started at `startX` in row 0 and has passed taken cells only. What is ahead of
it fits in what is left of the columns. -/
structure Searching (screens : List TopologyScreen) (startX : Int) (cell : GridPosition) :
    Prop where
  row : cell.y = 0
  start : startX ≤ cell.x
  passed : ∀ x, startX ≤ x → x < cell.x → ∃ screen ∈ screens, screen.cell = ⟨x, 0⟩
  room : Fits 32 cell.x ∧ Fits 32 (cell.x + ahead screens cell)

/-- The first free column from `startX` on. -/
def FirstFree (screens : List TopologyScreen) (startX : Int) (cell : GridPosition) : Prop :=
  cell.y = 0 ∧ IsLeast {x | startX ≤ x ∧ ¬ ∃ screen ∈ screens, screen.cell = ⟨x, 0⟩} cell.x

theorem probe_of_taken (h : ∃ screen ∈ screens, screen.cell = cell)
    (hfits : Fits 32 (cell.x + 1)) :
    probe screens cell = .again { cell with x := cell.x + 1 } := by
  unfold probe
  rw [if_pos (by simpa using h), checked_of_fits hfits]

theorem probe_of_free (h : ¬ ∃ screen ∈ screens, screen.cell = cell) :
    probe screens cell = .done cell := by
  unfold probe
  rw [if_neg (by simpa using h)]

/-- On a taken cell there is room for the next one. -/
theorem Searching.fits_succ (h : Searching screens startX cell)
    (htaken : ∃ screen ∈ screens, screen.cell = cell) :
    Fits 32 (cell.x + 1) ∧ ahead screens ⟨cell.x + 1, cell.y⟩ < ahead screens cell := by
  have hless : ahead screens ⟨cell.x + 1, cell.y⟩ < ahead screens cell := ahead_lt htaken
  obtain ⟨hx, hroom⟩ := h.room
  rw [fits_32] at hx hroom
  refine ⟨?_, hless⟩
  rw [fits_32]
  omega

theorem Searching.next (h : Searching screens startX cell)
    (htaken : ∃ screen ∈ screens, screen.cell = cell) :
    Searching screens startX { cell with x := cell.x + 1 } := by
  obtain ⟨hfits, hless⟩ := h.fits_succ htaken
  obtain ⟨hx, hroom⟩ := h.room
  refine ⟨h.row, ?_, ?_, hfits, ?_⟩
  · have hstart := h.start
    dsimp only
    omega
  · intro x hstart hx
    dsimp only at hx
    rcases Int.lt_or_eq_of_le (Int.lt_add_one_iff.mp hx) with hlt | rfl
    · exact h.passed x hstart hlt
    · rw [← h.row]
      exact htaken
  · rw [fits_32] at hx hroom ⊢
    dsimp only
    omega

/-- Each probe of the search ends it at the first free cell, or leaves one screen fewer ahead. -/
theorem searching_descends (screens : List TopologyScreen) (startX : Int) :
    Descends (probe screens) (Searching screens startX) (ahead screens)
      (FirstFree screens startX) := by
  refine ⟨?_, ?_, ?_⟩
  · intro cell h
    by_cases htaken : ∃ screen ∈ screens, screen.cell = cell
    · simp [probe_of_taken htaken (h.fits_succ htaken).1]
    · simp [probe_of_free htaken]
  · intro cell next h hnext
    by_cases htaken : ∃ screen ∈ screens, screen.cell = cell
    · obtain ⟨hfits, hless⟩ := h.fits_succ htaken
      rw [probe_of_taken htaken hfits] at hnext
      cases hnext
      exact ⟨h.next htaken, hless⟩
    · rw [probe_of_free htaken] at hnext
      cases hnext
  · intro cell found h hfound
    by_cases htaken : ∃ screen ∈ screens, screen.cell = cell
    · rw [probe_of_taken htaken (h.fits_succ htaken).1] at hfound
      cases hfound
    · rw [probe_of_free htaken] at hfound
      cases hfound
      have hcell : cell = ⟨cell.x, 0⟩ := by rw [← h.row]
      refine ⟨h.row, ⟨h.start, ?_⟩, ?_⟩
      · rwa [← hcell]
      · rintro x ⟨hstart, hfree⟩
        by_contra hx
        exact hfree (h.passed x hstart (by omega))

/-- With more probes than screens left the search comes to the first free cell. -/
theorem search_ends (hstart : Fits 32 startX) (hroom : Fits 32 (startX + screens.length))
    {probes : Nat} (hprobes : screens.length < probes) :
    ∃ x, after (probe screens) probes ⟨startX, 0⟩ = .done ⟨x, 0⟩ ∧
      IsLeast {x | startX ≤ x ∧ ¬ ∃ screen ∈ screens, screen.cell = ⟨x, 0⟩} x := by
  have hahead := ahead_le screens ⟨startX, 0⟩
  have hsearching : Searching screens startX ⟨startX, 0⟩ := by
    refine ⟨rfl, le_rfl, fun x hle hlt => absurd hlt (by dsimp only; omega), hstart, ?_⟩
    rw [fits_32] at hstart hroom ⊢
    dsimp only
    omega
  obtain ⟨⟨x, y⟩, hends, hrow, hfirst⟩ := (searching_descends screens startX).ends hsearching
  obtain rfl : y = 0 := hrow
  exact ⟨x, after_mono hends (by omega), hfirst⟩

theorem isLeast_nextFreeCell (store : ServerScreenStore E) (startX : Int) :
    ∃ x, store.nextFreeCell startX = ⟨x, 0⟩ ∧
      IsLeast {x | startX ≤ x ∧ ¬ store.Occupied ⟨x, 0⟩} x := by
  obtain ⟨n, heq, hfree, hbefore⟩ := store.nextFreeCell_spec startX
  refine ⟨startX + n, heq, ⟨by omega, hfree⟩, ?_⟩
  rintro x ⟨hstart, hx⟩
  by_contra hlt
  obtain ⟨i, rfl⟩ : ∃ i : Nat, x = startX + i := ⟨(x - startX).toNat, by omega⟩
  exact hx (hbefore i (by omega))

/-- For every store, and so for every reachable one: as long as its screens fit between
`startX` and the end of `int32`, the search ends after at most one probe more than there are
screens, no step of its counter overflows, and it returns the first free cell of row 0 from
`startX` on. -/
theorem free_cell_search_ends (store : ServerScreenStore E) (hstart : Fits 32 startX)
    (hroom : Fits 32 (startX + store.mTopology.screens.length)) :
    ∃ x, store.nextFreeCell startX = ⟨x, 0⟩ ∧
      IsLeast {x | startX ≤ x ∧ ¬ store.Occupied ⟨x, 0⟩} x ∧
      ∀ probes > store.mTopology.screens.length,
        after (probe store.mTopology.screens) probes ⟨startX, 0⟩ = .done ⟨x, 0⟩ := by
  obtain ⟨x, heq, hfirst⟩ := store.isLeast_nextFreeCell startX
  refine ⟨x, heq, hfirst, fun probes hprobes => ?_⟩
  obtain ⟨found, hends, hfound⟩ := search_ends hstart hroom hprobes
  rw [hends, hfound.unique hfirst]

/-- The desk of one monitor with the monitor at its remembered place. -/
def registeredDesk : ServerScreenStore IPv4Endpoint :=
  oneMonitorDesk.registerScreens (loopback 24800) "desk" [deskMonitor] true

theorem free_cell_search_ends_desk : ∃ x, registeredDesk.nextFreeCell 0 = ⟨x, 0⟩ ∧
    IsLeast {x | 0 ≤ x ∧ ¬ registeredDesk.Occupied ⟨x, 0⟩} x ∧
    ∀ probes > registeredDesk.mTopology.screens.length,
      after (probe registeredDesk.mTopology.screens) probes ⟨0, 0⟩ = .done ⟨x, 0⟩ :=
  free_cell_search_ends registeredDesk (by decide) (by decide +kernel)

/-- One probe is not enough there. -/
example : after (probe registeredDesk.mTopology.screens) 1 ⟨0, 0⟩ = .again ⟨1, 0⟩ := by
  decide +kernel

end ServerScreenStore
end Mksync
