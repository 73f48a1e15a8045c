import Mksync.GuiPages
import Mathlib.Data.Set.Basic
import Mathlib.Data.List.Infix

/-!
# Removing rows of the trusted clients

The list of trusted clients is an allow-list as long as it has a row. Without one the
development default accepts everyone, so trust is monotone in the rows of nonempty lists
only.
-/
namespace Mksync

/-- The identities, by machine id and name, that a Hello may carry to be accepted. -/
def acceptedIdentities (config : AppConfig) : Set (String × String) :=
  {identity | isTrustedClient config identity.1 identity.2 = true}

theorem mem_acceptedIdentities {config : AppConfig} (h : config.trustedClients ≠ [])
    (machineId name : String) : (machineId, name) ∈ acceptedIdentities config ↔
      ∃ client ∈ config.trustedClients, (machineId ≠ "" ∧ client.machineId = machineId) ∨
        (name ≠ "" ∧ client.name = name) := by
  simp [acceptedIdentities, isTrustedClient, h]

theorem acceptedIdentities_of_nil {config : AppConfig} (h : config.trustedClients = []) :
    acceptedIdentities config = Set.univ := by
  apply Set.eq_univ_of_forall
  intro identity
  simp [acceptedIdentities, isTrustedClient, h]

/-- An identity without machine id and name is never on an allow-list. -/
theorem anonymous_notMem_acceptedIdentities {config : AppConfig}
    (h : config.trustedClients ≠ []) : ("", "") ∉ acceptedIdentities config := by
  rw [mem_acceptedIdentities h]
  rintro ⟨client, -, hmatch⟩
  simp at hmatch

/-- Fewer rows accept fewer identities, as long as there are any. -/
theorem acceptedIdentities_mono {config config' : AppConfig}
    (hsub : config'.trustedClients ⊆ config.trustedClients) (h : config'.trustedClients ≠ []) :
    acceptedIdentities config' ⊆ acceptedIdentities config := by
  have hne : config.trustedClients ≠ [] := by
    rintro hnil
    rw [hnil] at hsub
    exact h (List.subset_nil.mp hsub)
  rintro ⟨machineId, name⟩ hmem
  rw [mem_acceptedIdentities h] at hmem
  rw [mem_acceptedIdentities hne]
  obtain ⟨client, hclient, hmatch⟩ := hmem
  exact ⟨client, hsub hclient, hmatch⟩

namespace SettingsPresenter

variable {presenter : SettingsPresenter}

/-- The row is the only one of the list. -/
def OnlyTrustedRow (presenter : SettingsPresenter) (row : Int) : Prop :=
  row = 0 ∧ presenter.config.trustedClients.length = 1

instance (row : Int) : Decidable (presenter.OnlyTrustedRow row) :=
  inferInstanceAs (Decidable (_ ∧ _))

theorem removeTrustedClient_subset (presenter : SettingsPresenter) (row : Int) :
    (presenter.removeTrustedClient row).config.trustedClients ⊆
      presenter.config.trustedClients := by
  rcases presenter.removeTrustedClient_cases row with ⟨heq, _⟩ | ⟨index, _, _, heq⟩
  · rw [heq]
    exact List.Subset.refl _
  · rw [heq]
    exact (List.eraseIdx_sublist _ _).subset

/-- Only the removal of the only row empties the list. -/
theorem removeTrustedClient_eq_nil {row : Int} :
    (presenter.removeTrustedClient row).config.trustedClients = [] ↔
      presenter.config.trustedClients = [] ∨ presenter.OnlyTrustedRow row := by
  have hlength := fun clients : List TrustedClientConfig => List.length_eq_zero_iff (l := clients)
  rcases presenter.removeTrustedClient_cases row with ⟨heq, hrow⟩ | ⟨index, hindex, hrow, heq⟩
  · have honly : ¬ presenter.OnlyTrustedRow row := by
      rintro ⟨rfl, hone⟩
      omega
    rw [heq]
    simp [honly]
  · rw [heq, ← hlength, ← hlength, List.length_eraseIdx_of_lt hindex, OnlyTrustedRow]
    omega

/-- A removal takes no identity in unless it takes the last row out. -/
theorem acceptedIdentities_removeTrustedClient {row : Int} :
    acceptedIdentities (presenter.removeTrustedClient row).config ⊆
      acceptedIdentities presenter.config ↔ ¬ presenter.OnlyTrustedRow row := by
  by_cases hnil : (presenter.removeTrustedClient row).config.trustedClients = []
  · rcases removeTrustedClient_eq_nil.mp hnil with hbefore | honly
    · -- an empty list stays empty, and everyone was accepted before
      have hrow : ¬ presenter.OnlyTrustedRow row := by
        rintro ⟨_, hone⟩
        simp [hbefore] at hone
      simp [acceptedIdentities_of_nil hbefore, hrow]
    · have hne : presenter.config.trustedClients ≠ [] := by
        intro hbefore
        have hone := honly.2
        simp [hbefore] at hone
      have hanonymous := anonymous_notMem_acceptedIdentities hne
      rw [acceptedIdentities_of_nil hnil]
      simp only [honly, not_true_eq_false, iff_false]
      exact fun hsub => hanonymous (hsub (Set.mem_univ _))
  · have honly : ¬ presenter.OnlyTrustedRow row :=
      fun honly => hnil (removeTrustedClient_eq_nil.mpr (.inr honly))
    simp only [honly, not_false_eq_true, iff_true]
    exact acceptedIdentities_mono (presenter.removeTrustedClient_subset row) hnil

end SettingsPresenter

namespace Gui.Pages

variable {P E : Type} {pages : Pages P E}

/-- The rows are removed one after another, each with the machine ids that are drawn meanwhile. -/
def removals (pages : Pages P E) (rows : List ((Nat → String) × Int)) : Pages P E :=
  rows.foldl (fun pages row => pages.edit row.1 (.removeTrustedClient row.2)) pages

/-- No file is loaded over any of the removals. -/
def RemovalsUndisturbed (pages : Pages P E) (rows : List ((Nat → String) × Int)) : Prop :=
  ∀ before row, before ++ [row] <+: rows →
    (pages.removals before).Undisturbed (.removeTrustedClient row.2)

theorem removals_append (rows rows' : List ((Nat → String) × Int)) :
    pages.removals (rows ++ rows') = (pages.removals rows).removals rows' :=
  List.foldl_append

theorem RemovalsUndisturbed.of_prefix {rows rows' : List ((Nat → String) × Int)}
    (h : pages.RemovalsUndisturbed rows) (hinitial : rows' <+: rows) :
    pages.RemovalsUndisturbed rows' :=
  fun before row hinit => h before row (hinit.trans hinitial)

/-- One more removal leaves what the presenter by itself makes of the copy. -/
theorem RemovalsUndisturbed.config {rows : List ((Nat → String) × Int)}
    {row : (Nat → String) × Int} (h : pages.RemovalsUndisturbed (rows ++ [row])) :
    (pages.removals (rows ++ [row])).settings.config =
      ((pages.removals rows).settings.removeTrustedClient row.2).config := by
  rw [removals_append]
  exact edit_undisturbed (h rows row (List.prefix_refl _)) row.1

/-- While no removal takes the only row, what is accepted at the end was accepted before. -/
theorem acceptedIdentities_removals {first rows : List ((Nat → String) × Int)}
    (hundisturbed : pages.RemovalsUndisturbed (first ++ rows))
    (h : ∀ before row, before ++ [row] <+: rows →
      ¬ (pages.removals (first ++ before)).settings.OnlyTrustedRow row.2) :
    acceptedIdentities (pages.removals (first ++ rows)).settings.config ⊆
      acceptedIdentities (pages.removals first).settings.config := by
  induction rows using List.reverseRecOn with
  | nil => rw [List.append_nil]
  | append_singleton rows row ih =>
    rw [← List.append_assoc] at hundisturbed ⊢
    have hrows := ih (hundisturbed.of_prefix (List.prefix_append _ _))
      fun before row' hinit => h before row' (hinit.trans (List.prefix_append _ _))
    rw [hundisturbed.config]
    exact (SettingsPresenter.acceptedIdentities_removeTrustedClient.mpr
      (h rows row (List.prefix_refl _))).trans hrows

/-- Along every sequence of removals over which no file is loaded, the accepted identities only
shrink exactly when none of the removals takes the only row there is, and one that does accepts
everyone. -/
theorem revoking_shrinks_iff_rows_remain {rows : List ((Nat → String) × Int)}
    (hundisturbed : pages.RemovalsUndisturbed rows) :
    ((∀ before between, before ++ between <+: rows →
        acceptedIdentities (pages.removals (before ++ between)).settings.config ⊆
          acceptedIdentities (pages.removals before).settings.config) ↔
      ∀ before row, before ++ [row] <+: rows →
        ¬ (pages.removals before).settings.OnlyTrustedRow row.2) ∧
    (∀ before row, before ++ [row] <+: rows →
      (pages.removals before).settings.OnlyTrustedRow row.2 →
      acceptedIdentities (pages.removals (before ++ [row])).settings.config = Set.univ) := by
  refine ⟨⟨?_, ?_⟩, ?_⟩
  · intro hshrinks before row hinit
    have hstep := hshrinks before [row] hinit
    rw [(hundisturbed.of_prefix hinit).config] at hstep
    exact SettingsPresenter.acceptedIdentities_removeTrustedClient.mp hstep
  · intro hrows before between hinit
    apply acceptedIdentities_removals (hundisturbed.of_prefix hinit)
    intro before' row hinit'
    apply hrows
    rw [List.append_assoc]
    exact ((List.prefix_append_right_inj before).mpr hinit').trans hinit
  · intro before row hinit honly
    rw [(hundisturbed.of_prefix hinit).config]
    exact acceptedIdentities_of_nil
      (SettingsPresenter.removeTrustedClient_eq_nil.mpr (.inr honly))

/-- The trusted client `guest` is the only one in the file. -/
def guestTrusted : Pages Nat String :=
  opened fixedIds (saveConfig .empty "mksync.json"
    { machineId := "mks-01", trustedClients := [⟨"guest", ""⟩] })

/-- A row that is not there is removed, and then the only one. -/
theorem revoking_shrinks_iff_rows_remain_guest :
    guestTrusted.RemovalsUndisturbed [(fixedIds, 1), (fixedIds, 0)] ∧
      acceptedIdentities (guestTrusted.removals [(fixedIds, 1), (fixedIds, 0)]).settings.config =
        Set.univ := by
  have hundisturbed : guestTrusted.RemovalsUndisturbed [(fixedIds, 1), (fixedIds, 0)] := by
    intro before row hinit
    obtain ⟨after, hsplit⟩ := hinit
    cases before with
    | nil =>
      obtain ⟨rfl, _⟩ := List.cons.inj hsplit
      decide +kernel
    | cons first before =>
      obtain ⟨rfl, hrest⟩ := List.cons.inj hsplit
      cases before with
      | nil =>
        obtain ⟨rfl, _⟩ := List.cons.inj hrest
        decide +kernel
      | cons second before => simp at hrest
  refine ⟨hundisturbed, ?_⟩
  exact (revoking_shrinks_iff_rows_remain hundisturbed).2 [(fixedIds, 1)] (fixedIds, 0)
    (List.prefix_refl _) (by decide +kernel)

/-- Revoking the only trusted client lets a stranger in. -/
theorem revoking_last_trusts_stranger :
    isTrustedClient guestTrusted.settings.config "stranger" "" = false ∧
      isTrustedClient (guestTrusted.edit fixedIds (.removeTrustedClient 0)).settings.config
        "stranger" "" = true := by
  decide +kernel

end Gui.Pages
end Mksync
