import Mksync.GuiPages
import Mksync.RememberedLayout
import Mathlib.Data.List.Perm.Basic

/-!
# Editing the layout

The layout is a list, so nothing but its edits keeps two entries from having one key or one
cell. Moving and removing name an entry by its row, adding names it by its key. An accepted
addition or move puts an entry into the place of the one that it names, if there is one, after
its cell was compared with those of all other rows. What is edited is a copy, though: the signals
of an accepted edit may have the file loaded over it.
-/
namespace Mksync

open ServerScreenStore (otherLayouts)

/-! ### Valid layouts -/

def ScreenLayoutConfig.key (layout : ScreenLayoutConfig) : ScreenKey :=
  ⟨layout.ownerId, layout.screenIndex⟩

theorem ScreenLayoutConfig.key_eq_iff {layout : ScreenLayoutConfig} {key : ScreenKey} :
    layout.key = key ↔ layout.ownerId = key.ownerId ∧ layout.screenIndex = key.screenIndex := by
  cases key
  rw [ScreenLayoutConfig.key, ScreenKey.mk.injEq]

/-- No key and no cell stands in two entries. -/
structure ValidLayout (layouts : List ScreenLayoutConfig) : Prop where
  keys : (layouts.map ScreenLayoutConfig.key).Nodup
  cells : (layouts.map ScreenLayoutConfig.cell).Nodup

theorem validLayout_iff (layouts : List ScreenLayoutConfig) : ValidLayout layouts ↔
    (layouts.map ScreenLayoutConfig.key).Nodup ∧ (layouts.map ScreenLayoutConfig.cell).Nodup :=
  ⟨fun h => ⟨h.keys, h.cells⟩, fun h => ⟨h.1, h.2⟩⟩

instance (layouts : List ScreenLayoutConfig) : Decidable (ValidLayout layouts) :=
  decidable_of_iff _ (validLayout_iff layouts).symm

namespace ValidLayout

variable {layouts layouts' : List ScreenLayoutConfig} {layout : ScreenLayoutConfig}

theorem sublist (h : ValidLayout layouts) (hsub : layouts'.Sublist layouts) :
    ValidLayout layouts' :=
  ⟨h.keys.sublist (hsub.map _), h.cells.sublist (hsub.map _)⟩

theorem perm (h : ValidLayout layouts) (hperm : layouts.Perm layouts') : ValidLayout layouts' :=
  ⟨(hperm.map _).nodup h.keys, (hperm.map _).nodup h.cells⟩

/-- An entry with a key and a cell of its own. -/
theorem cons (h : ValidLayout layouts)
    (hnew : ∀ other ∈ layouts, other.key ≠ layout.key ∧ other.cell ≠ layout.cell) :
    ValidLayout (layout :: layouts) := by
  refine ⟨?_, ?_⟩
  · rw [List.map_cons, List.nodup_cons]
    refine ⟨?_, h.keys⟩
    rintro hmem
    obtain ⟨other, hother, hkey⟩ := List.mem_map.mp hmem
    exact (hnew other hother).1 hkey
  · rw [List.map_cons, List.nodup_cons]
    refine ⟨?_, h.cells⟩
    rintro hmem
    obtain ⟨other, hother, hcell⟩ := List.mem_map.mp hmem
    exact (hnew other hother).2 hcell

/-- The rows around an entry have other keys. -/
theorem key_ne {before after : List ScreenLayoutConfig}
    (h : ValidLayout (before ++ layout :: after)) :
    ∀ other ∈ before ++ after, other.key ≠ layout.key := by
  have hkeys := (h.perm List.perm_middle).keys
  rw [List.map_cons, List.nodup_cons] at hkeys
  intro other hother hkey
  exact hkeys.1 (List.mem_map.mpr ⟨other, hother, hkey⟩)

end ValidLayout

/-! ### One entry is placed -/

/-- The entry is put into the place of at most one entry, of the same key, and differs from all
others in key and cell. -/
structure Placed (layouts layouts' : List ScreenLayoutConfig) (layout : ScreenLayoutConfig) :
    Prop where
  split : ∃ before old after, layouts = before ++ (old ++ after) ∧
    layouts' = before ++ layout :: after ∧ (∀ other ∈ old, other.key = layout.key) ∧
    ∀ other ∈ before ++ after, other.key ≠ layout.key ∧ other.cell ≠ layout.cell

namespace Placed

variable {layouts layouts' : List ScreenLayoutConfig} {layout : ScreenLayoutConfig}

theorem valid (h : Placed layouts layouts' layout) (hvalid : ValidLayout layouts) :
    ValidLayout layouts' := by
  obtain ⟨before, old, after, rfl, rfl, _, hother⟩ := h.split
  have hsub : (before ++ after).Sublist (before ++ (old ++ after)) :=
    (List.sublist_append_right old after).append_left before
  exact ((hvalid.sublist hsub).cons hother).perm List.perm_middle.symm

/-- The entries of other keys are the same, in the same order. -/
theorem filter_eq (h : Placed layouts layouts' layout) :
    layouts'.filter (·.key ≠ layout.key) = layouts.filter (·.key ≠ layout.key) := by
  obtain ⟨before, old, after, rfl, rfl, hold, _⟩ := h.split
  have hnone : old.filter (·.key ≠ layout.key) = [] := by
    apply List.filter_eq_nil_iff.mpr
    intro other hother
    simp [hold other hother]
  rw [List.filter_append, List.filter_append, List.filter_append, hnone,
    List.filter_cons_of_neg (by simp), List.nil_append]

theorem find?_eq (h : Placed layouts layouts' layout) :
    layouts'.find? (·.key = layout.key) = some layout := by
  obtain ⟨before, _, after, _, rfl, _, hother⟩ := h.split
  have hbefore : before.find? (·.key = layout.key) = none := by
    apply List.find?_eq_none.mpr
    intro other hmem
    simpa using (hother other (List.mem_append_left _ hmem)).1
  rw [List.find?_append, hbefore, Option.none_or, List.find?_cons_of_pos (by simp)]

end Placed

/-! ### Rows and keys -/

section Rows

variable {layouts : List ScreenLayoutConfig} {layout : ScreenLayoutConfig}

/-- An upsert replaces the first entry of the key, or appends. -/
theorem upsertLayouts_cases (layout : ScreenLayoutConfig) (layouts : List ScreenLayoutConfig) :
    (layouts.findIdx? (fun screen => screen.ownerId = layout.ownerId &&
        screen.screenIndex = layout.screenIndex) = none ∧
      (∀ other ∈ layouts, other.key ≠ layout.key) ∧
      upsertLayouts layout layouts = layouts ++ [layout]) ∨
    ∃ before old after, layouts = before ++ old :: after ∧ old.key = layout.key ∧
      layouts.findIdx? (fun screen => screen.ownerId = layout.ownerId &&
        screen.screenIndex = layout.screenIndex) = some before.length ∧
      upsertLayouts layout layouts = before ++ layout :: after := by
  induction layouts with
  | nil => exact .inl ⟨rfl, by simp, rfl⟩
  | cons current rest ih =>
    have hkey : current.key = layout.key ↔
        current.ownerId = layout.ownerId ∧ current.screenIndex = layout.screenIndex :=
      ScreenLayoutConfig.key_eq_iff
    rw [upsertLayouts, List.findIdx?_cons]
    by_cases hcurrent : current.ownerId = layout.ownerId ∧
        current.screenIndex = layout.screenIndex
    · refine .inr ⟨[], current, rest, rfl, hkey.mpr hcurrent, ?_, ?_⟩
      · simp [hcurrent]
      · rw [if_pos hcurrent, List.nil_append]
    · have hfalse : (decide (current.ownerId = layout.ownerId) &&
          decide (current.screenIndex = layout.screenIndex)) = false := by
        simpa using hcurrent
      rw [if_neg hcurrent, hfalse]
      rcases ih with ⟨hnone, hother, heq⟩ | ⟨before, old, after, hsplit, hold, hfound, heq⟩
      · refine .inl ⟨by simp [hnone], ?_, by rw [heq, List.cons_append]⟩
        intro other hmem
        rcases List.mem_cons.mp hmem with rfl | hmem
        · exact mt hkey.mp hcurrent
        · exact hother other hmem
      · refine .inr ⟨current :: before, old, after, ?_, hold, ?_, ?_⟩
        · rw [hsplit, List.cons_append]
        · simp [hfound]
        · rw [heq, List.cons_append]

/-- The rows that a cell is compared with. -/
def otherRows (ignoredRow : Option Nat) (layouts : List ScreenLayoutConfig) :
    List ScreenLayoutConfig :=
  match ignoredRow with
  | none => layouts
  | some row => layouts.eraseIdx row

end Rows

namespace SettingsPresenter

variable {presenter : SettingsPresenter}

theorem cellIsOccupied_iff {x y : Int} {ignoredRow : Option Nat} :
    presenter.cellIsOccupied x y ignoredRow = true ↔
      ∃ other ∈ otherRows ignoredRow presenter.config.screens, other.cell = ⟨x, y⟩ := by
  have hrow : ∀ other, other ∈ otherRows ignoredRow presenter.config.screens ↔
      ∃ row, presenter.config.screens[row]? = some other ∧ some row ≠ ignoredRow := by
    intro other
    cases ignoredRow with
    | none => simp [otherRows, List.mem_iff_getElem?]
    | some ignored =>
      simp only [otherRows, List.mem_eraseIdx_iff_getElem?, ne_eq, Option.some.injEq]
      exact exists_congr fun row => and_comm
  unfold cellIsOccupied
  simp only [hrow, List.any_eq_true, Bool.and_eq_true, decide_eq_true_eq, Prod.exists,
    List.mk_mem_zipIdx_iff_getElem?]
  constructor
  · rintro ⟨other, row, hget, hne, hcell⟩
    exact ⟨other, ⟨row, hget, hne⟩, hcell⟩
  · rintro ⟨other, ⟨row, hget, hne⟩, hcell⟩
    exact ⟨other, row, hget, hne, hcell⟩

theorem otherRows_split (before after : List ScreenLayoutConfig) (old : ScreenLayoutConfig) :
    otherRows (some before.length) (before ++ old :: after) = before ++ after := by
  rw [otherRows, List.eraseIdx_append_of_length_le le_rfl, Nat.sub_self, List.eraseIdx_cons_zero]

/-! ### The edits -/

/-- An addition is refused, or places the entry of the trimmed id. -/
theorem addScreen_cases (hvalid : ValidLayout presenter.config.screens) (ownerId : String)
    (screenIndex x y : Int) :
    ((presenter.addScreen ownerId screenIndex x y).mHasError = true ∧
      (presenter.addScreen ownerId screenIndex x y).config = presenter.config) ∨
    ((presenter.addScreen ownerId screenIndex x y).mHasError = false ∧ ∃ layouts,
      Placed presenter.config.screens layouts ⟨trimmed ownerId, screenIndex.toNat, ⟨x, y⟩⟩ ∧
      (presenter.addScreen ownerId screenIndex x y).config =
        { presenter.config with screens := layouts }) := by
  unfold addScreen
  by_cases hempty : trimmed ownerId = ""
  · rw [if_pos hempty]
    exact .inl ⟨rfl, rfl⟩
  · rw [if_neg hempty]
    by_cases hnegative : screenIndex < 0
    · rw [if_pos hnegative]
      exact .inl ⟨rfl, rfl⟩
    · rw [if_neg hnegative]
      dsimp only
      split_ifs with hoccupied
      · exact .inl ⟨rfl, rfl⟩
      · refine .inr ⟨rfl, _, ⟨?_⟩, rfl⟩
        rw [cellIsOccupied_iff] at hoccupied
        have hfree := fun other hother hcell => hoccupied ⟨other, hother, hcell⟩
        rcases upsertLayouts_cases ⟨trimmed ownerId, screenIndex.toNat, ⟨x, y⟩⟩
          presenter.config.screens with ⟨hnone, hother, heq⟩ | ⟨before, old, after, hsplit, hold,
            hfound, heq⟩
        · rw [hnone] at hfree
          refine ⟨presenter.config.screens, [], [], by simp, heq, by simp, ?_⟩
          rw [List.append_nil]
          exact fun other hmem => ⟨hother other hmem, hfree other hmem⟩
        · rw [hfound, hsplit, otherRows_split] at hfree
          rw [hsplit] at hvalid
          refine ⟨before, [old], after, hsplit, heq, by simpa using hold, ?_⟩
          intro other hmem
          exact ⟨hold ▸ hvalid.key_ne other hmem, hfree other hmem⟩

/-- A move is refused, or places the entry of the row anew. -/
theorem moveScreen_cases (hvalid : ValidLayout presenter.config.screens) (row x y : Int) :
    ((presenter.moveScreen row x y).mHasError = true ∧
      (presenter.moveScreen row x y).config = presenter.config) ∨
    ((presenter.moveScreen row x y).mHasError = false ∧ ∃ key layouts,
      presenter.rowKey row = some key ∧
      Placed presenter.config.screens layouts ⟨key.ownerId, key.screenIndex, ⟨x, y⟩⟩ ∧
      (presenter.moveScreen row x y).config = { presenter.config with screens := layouts }) := by
  unfold moveScreen
  cases hindex : rowIndex row presenter.config.screens.length with
  | none => exact .inl ⟨rfl, rfl⟩
  | some index =>
    dsimp only
    split_ifs with hoccupied
    · exact .inl ⟨rfl, rfl⟩
    · obtain ⟨before, old, after, hsplit, hlength, hmodify⟩ := List.exists_of_modify
        (fun screen : ScreenLayoutConfig => { screen with cell := ⟨x, y⟩ })
        (rowIndex_eq_some.mp hindex).2
      rw [cellIsOccupied_iff] at hoccupied
      have hfree := fun other hother hcell => hoccupied ⟨other, hother, hcell⟩
      rw [← hlength, hsplit, otherRows_split] at hfree
      have hkey : presenter.rowKey row = some old.key := by
        rw [rowKey, hindex, hsplit, Option.bind_some, ← hlength]
        simp [ScreenLayoutConfig.key]
      refine .inr ⟨rfl, old.key, _, hkey, ⟨before, [old], after, hsplit, hmodify, ?_, ?_⟩, rfl⟩
      · simp [ScreenLayoutConfig.key]
      · rw [hsplit] at hvalid
        exact fun other hmem => ⟨hvalid.key_ne other hmem, hfree other hmem⟩

/-- A removal is refused, or takes one row out. -/
theorem removeScreen_cases (presenter : SettingsPresenter) (row : Int) :
    ((presenter.removeScreen row).mHasError = true ∧
      (presenter.removeScreen row).config = presenter.config) ∨
    ((presenter.removeScreen row).mHasError = false ∧ ∃ index : Nat, row = index ∧
      (presenter.removeScreen row).config = { presenter.config with
        screens := presenter.config.screens.eraseIdx index }) := by
  unfold removeScreen
  cases hindex : rowIndex row presenter.config.screens.length with
  | none => exact .inl ⟨rfl, rfl⟩
  | some index => exact .inr ⟨rfl, index, (rowIndex_eq_some.mp hindex).1, rfl⟩

theorem addTrustedClient_kept (presenter : SettingsPresenter) (machineId name : String) :
    (presenter.addTrustedClient machineId name).config.screens = presenter.config.screens ∧
      ((presenter.addTrustedClient machineId name).mHasError = true →
        (presenter.addTrustedClient machineId name).config = presenter.config) := by
  unfold addTrustedClient
  dsimp only
  split_ifs
  · exact ⟨rfl, fun _ => rfl⟩
  · exact ⟨rfl, nofun⟩

theorem removeTrustedClient_kept (presenter : SettingsPresenter) (row : Int) :
    (presenter.removeTrustedClient row).config.screens = presenter.config.screens ∧
      ((presenter.removeTrustedClient row).mHasError = true →
        (presenter.removeTrustedClient row).config = presenter.config) := by
  unfold removeTrustedClient
  cases rowIndex row presenter.config.trustedClients.length with
  | none => exact ⟨rfl, fun _ => rfl⟩
  | some index => exact ⟨rfl, nofun⟩

/-- One edit, refused or not. -/
theorem validLayout_edited (hvalid : ValidLayout presenter.config.screens) (edit : SettingsEdit) :
    ValidLayout (presenter.edited edit).config.screens ∧
      ((presenter.edited edit).mHasError = true →
        (presenter.edited edit).config = presenter.config) := by
  cases edit with
  | addScreen ownerId screenIndex x y =>
    rcases addScreen_cases hvalid ownerId screenIndex x y with
      ⟨_, heq⟩ | ⟨haccepted, layouts, hplaced, heq⟩
    · rw [edited, heq]
      exact ⟨hvalid, fun _ => rfl⟩
    · rw [edited, heq, haccepted]
      exact ⟨hplaced.valid hvalid, fun h => absurd h Bool.false_ne_true⟩
  | moveScreen row x y =>
    rcases moveScreen_cases hvalid row x y with
      ⟨_, heq⟩ | ⟨haccepted, key, layouts, _, hplaced, heq⟩
    · rw [edited, heq]
      exact ⟨hvalid, fun _ => rfl⟩
    · rw [edited, heq, haccepted]
      exact ⟨hplaced.valid hvalid, fun h => absurd h Bool.false_ne_true⟩
  | removeScreen row =>
    rcases presenter.removeScreen_cases row with ⟨_, heq⟩ | ⟨haccepted, index, _, heq⟩
    · rw [edited, heq]
      exact ⟨hvalid, fun _ => rfl⟩
    · rw [edited, heq, haccepted]
      exact ⟨hvalid.sublist (List.eraseIdx_sublist _ _), fun h => absurd h Bool.false_ne_true⟩
  | addTrustedClient machineId name =>
    obtain ⟨hscreens, hkept⟩ := presenter.addTrustedClient_kept machineId name
    rw [edited, hscreens]
    exact ⟨hvalid, hkept⟩
  | removeTrustedClient row =>
    obtain ⟨hscreens, hkept⟩ := presenter.removeTrustedClient_kept row
    rw [edited, hscreens]
    exact ⟨hvalid, hkept⟩

end SettingsPresenter

/-! ### Every history of edits -/

/-- The key has the cell now. The entries of the other keys and all that is not layout are as
they were. -/
structure Reseated (config config' : AppConfig) (key : ScreenKey) (cell : GridPosition) :
    Prop where
  seated : config'.cellFor key = some cell
  others : otherLayouts config' key = otherLayouts config key
  rest : { config' with screens := config.screens } = config

theorem AppConfig.cellFor_eq (config : AppConfig) (key : ScreenKey) :
    config.cellFor key = (config.screens.find? (·.key = key)).map (·.cell) := by
  simp only [cellFor, findScreenLayout, ScreenLayoutConfig.key_eq_iff, Bool.decide_and]

theorem otherLayouts_eq (config : AppConfig) (key : ScreenKey) :
    otherLayouts config key = config.screens.filter (·.key ≠ key) := by
  simp only [otherLayouts, ne_eq, ScreenLayoutConfig.key_eq_iff]

theorem Placed.reseated {config : AppConfig} {layouts : List ScreenLayoutConfig} {key : ScreenKey}
    {cell : GridPosition} (h : Placed config.screens layouts ⟨key.ownerId, key.screenIndex, cell⟩) :
    Reseated config { config with screens := layouts } key cell := by
  have hfind := h.find?_eq
  have hfilter := h.filter_eq
  refine ⟨?_, ?_, rfl⟩
  · rw [AppConfig.cellFor_eq]
    exact congrArg (Option.map ScreenLayoutConfig.cell) hfind
  · rw [otherLayouts_eq, otherLayouts_eq]
    exact hfilter

/-- What an accepted edit is to make of the configuration: the key that an addition or a move
names gets the requested cell, a removal takes its row out, and the trusted clients are not
layout. -/
def AsAsked (presenter : SettingsPresenter) (config' : AppConfig) : SettingsEdit → Prop
  | .addScreen ownerId screenIndex x y =>
    Reseated presenter.config config' ⟨trimmed ownerId, screenIndex.toNat⟩ ⟨x, y⟩
  | .moveScreen row x y =>
    ∃ key, presenter.rowKey row = some key ∧ Reseated presenter.config config' key ⟨x, y⟩
  | .removeScreen row => ∃ index : Nat, row = index ∧
    config' = { presenter.config with screens := presenter.config.screens.eraseIdx index }
  | .addTrustedClient _ _ => config'.screens = presenter.config.screens
  | .removeTrustedClient _ => config'.screens = presenter.config.screens

theorem SettingsPresenter.edited_asAsked {presenter : SettingsPresenter}
    (hvalid : ValidLayout presenter.config.screens) {edit : SettingsEdit}
    (haccepted : (presenter.edited edit).mHasError = false) :
    AsAsked presenter (presenter.edited edit).config edit := by
  cases edit with
  | addScreen ownerId screenIndex x y =>
    rw [edited] at haccepted ⊢
    rcases addScreen_cases hvalid ownerId screenIndex x y with
      ⟨hrefused, _⟩ | ⟨_, layouts, hplaced, heq⟩
    · rw [hrefused] at haccepted
      cases haccepted
    · rw [heq]
      exact hplaced.reseated
  | moveScreen row x y =>
    rw [edited] at haccepted ⊢
    rcases moveScreen_cases hvalid row x y with
      ⟨hrefused, _⟩ | ⟨_, key, layouts, hkey, hplaced, heq⟩
    · rw [hrefused] at haccepted
      cases haccepted
    · refine ⟨key, hkey, ?_⟩
      rw [heq]
      exact hplaced.reseated
  | removeScreen row =>
    rw [edited] at haccepted ⊢
    rcases presenter.removeScreen_cases row with ⟨hrefused, _⟩ | ⟨_, index, hrow, heq⟩
    · rw [hrefused] at haccepted
      cases haccepted
    · exact ⟨index, hrow, heq⟩
  | addTrustedClient machineId name => exact (presenter.addTrustedClient_kept machineId name).1
  | removeTrustedClient row => exact (presenter.removeTrustedClient_kept row).1

namespace Gui.Pages

open TransitionRuns

variable {P E : Type} {pages pages' : Pages P E} {edits : List ((Nat → String) × SettingsEdit)}

/-- One edit, with the machine ids that are drawn meanwhile. -/
def editStep (pages : Pages P E) (edit : (Nat → String) × SettingsEdit) : Option (Pages P E) :=
  some (pages.edit edit.1 edit.2)

/-- No file is loaded over the edit of the step. -/
def EditUndisturbed (pages : Pages P E) (edit : (Nat → String) × SettingsEdit)
    (_ : Pages P E) : Prop :=
  pages.Undisturbed edit.2

theorem edit_refused {edit : SettingsEdit} {ids : Nat → String}
    (hvalid : ValidLayout pages.settings.config.screens)
    (hrefused : (pages.edit ids edit).settings.mHasError = true) :
    (pages.edit ids edit).settings.config = pages.settings.config := by
  rw [edit_mHasError] at hrefused
  rw [edit_undisturbed (.inl hrefused)]
  exact (SettingsPresenter.validLayout_edited hvalid edit).2 hrefused

/-- In every run of edits, with any arguments, from a valid layout, over none of which a file is
loaded: the layout is valid, an edit that is refused changes nothing, and an accepted one over
which no file is loaded makes what it is asked for and changes no other entry. -/
theorem editing_keeps_layout_valid (hvalid : ValidLayout pages.settings.config.screens)
    (hrun : Run editStep EditUndisturbed pages edits pages') :
    ValidLayout pages'.settings.config.screens ∧
    (∀ ids edit, (pages'.edit ids edit).settings.mHasError = true →
      (pages'.edit ids edit).settings.config = pages'.settings.config) ∧
    ∀ ids edit, pages'.Undisturbed edit → (pages'.edit ids edit).settings.mHasError = false →
      AsAsked pages'.settings (pages'.edit ids edit).settings.config edit := by
  have hkeep : ∀ (pages : Pages P E) (edit : (Nat → String) × SettingsEdit) (pages' : Pages P E),
      ValidLayout pages.settings.config.screens → EditUndisturbed pages edit pages' →
        editStep pages edit = some pages' → ValidLayout pages'.settings.config.screens := by
    intro pages edit pages' hbefore hundisturbed hstep
    obtain rfl := Option.some.inj hstep
    rw [edit_undisturbed hundisturbed]
    exact (SettingsPresenter.validLayout_edited hbefore edit.2).1
  have hnow : ValidLayout pages'.settings.config.screens :=
    hrun.invariant (fun pages => ValidLayout pages.settings.config.screens) hkeep hvalid
  refine ⟨hnow, fun ids edit => edit_refused hnow, ?_⟩
  intro ids edit hundisturbed haccepted
  rw [edit_mHasError] at haccepted
  rw [edit_undisturbed hundisturbed]
  exact SettingsPresenter.edited_asAsked hnow haccepted

/-- The guest's screen is there once. -/
def guestSeated : Pages Nat String := openedPages.edit fixedIds (.addScreen "guest" 0 1 0)

/-- It is added once more, on another cell. -/
theorem editing_keeps_layout_valid_guest : ∃ pages : Pages Nat String,
    Run editStep EditUndisturbed openedPages
      [(fixedIds, .addScreen "guest" 0 1 0), (fixedIds, .addScreen " guest" 0 0 1)] pages ∧
    ValidLayout pages.settings.config.screens ∧
    pages.settings.config.screens = [⟨"guest", 0, ⟨0, 1⟩⟩] := by
  have hvalid : ValidLayout openedPages.settings.config.screens := by decide +kernel
  have hfirst : editStep openedPages (fixedIds, .addScreen "guest" 0 1 0) = some guestSeated := rfl
  have hsecond : editStep guestSeated (fixedIds, .addScreen " guest" 0 0 1) =
      some (guestSeated.edit fixedIds (.addScreen " guest" 0 0 1)) := rfl
  have hrun : Run editStep EditUndisturbed openedPages
      [(fixedIds, .addScreen "guest" 0 1 0), (fixedIds, .addScreen " guest" 0 0 1)]
      (guestSeated.edit fixedIds (.addScreen " guest" 0 0 1)) := by
    apply (Run.one hfirst _).tail hsecond
    · exact .inr (.inl (by decide +kernel))
    · exact .inr (.inl (by decide +kernel))
  exact ⟨_, hrun, (editing_keeps_layout_valid hvalid hrun).1, by decide +kernel⟩

/-- A screen is added and the success shown, and then its key has no cell: the pages named
different files, and the file was loaded over the edit. -/
theorem accepted_edit_lost :
    ValidLayout brokenPages.settings.config.screens ∧
      (brokenPages.edit fixedIds (.addScreen "left" 0 0 0)).settings.mHasError = false ∧
      (brokenPages.edit fixedIds (.addScreen "left" 0 0 0)).settings.config.cellFor ⟨"left", 0⟩ =
        none := by
  decide +kernel

end Gui.Pages
end Mksync
