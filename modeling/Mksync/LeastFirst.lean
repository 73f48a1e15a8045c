import Mathlib.Data.List.Sort

/-!
# The least value that answers

A list is sorted by a key, and the first element with an answer is taken. With keys that tell
the elements apart, that is the least one with an answer, in whatever order they were listed.
-/
namespace LeastFirst

variable {α β γ : Type} [LinearOrder γ] {key : α → γ} {l l' : List α} {f : α → Option β} {a : α}
  {b : β}

def sorted (key : α → γ) (l : List α) : List α := l.insertionSort fun a b => key a ≤ key b

theorem sorted_perm (key : α → γ) (l : List α) : (sorted key l).Perm l :=
  List.perm_insertionSort _ l

@[simp] theorem mem_sorted : a ∈ sorted key l ↔ a ∈ l := (sorted_perm key l).mem_iff

theorem pairwise_sorted (key : α → γ) (l : List α) :
    (sorted key l).Pairwise fun a b => key a ≤ key b := by
  have htotal : Std.Total fun a b : α => key a ≤ key b := ⟨fun a b => le_total (key a) (key b)⟩
  have htrans : IsTrans α fun a b => key a ≤ key b := ⟨fun _ _ _ => le_trans⟩
  exact List.pairwise_insertionSort _ l

/-- With keys that tell the elements apart, the order of the list does not matter. -/
theorem sorted_eq_of_perm (hkey : ∀ a ∈ l, ∀ b ∈ l, key a = key b → a = b) (h : l.Perm l') :
    sorted key l = sorted key l' := by
  apply List.Perm.eq_of_pairwise _ (pairwise_sorted key l) (pairwise_sorted key l')
    ((sorted_perm key l).trans (h.trans (sorted_perm key l').symm))
  intro a b ha hb hle hge
  rw [mem_sorted] at ha hb
  exact hkey a ha b (h.symm.subset hb) (le_antisymm hle hge)

/-- The element found is the least one with an answer. -/
theorem findSome?_sorted (h : (sorted key l).findSome? f = some b) :
    ∃ a ∈ l, f a = some b ∧ ∀ other ∈ l, f other ≠ none → key a ≤ key other := by
  obtain ⟨before, a, after, hsplit, hanswer, hbefore⟩ := List.findSome?_eq_some_iff.mp h
  have hpairwise := pairwise_sorted key l
  rw [hsplit] at hpairwise
  have ha : a ∈ sorted key l := by simp [hsplit]
  refine ⟨a, mem_sorted.mp ha, hanswer, ?_⟩
  intro other hother hne
  have hsorted : other ∈ sorted key l := mem_sorted.mpr hother
  rw [hsplit, List.mem_append, List.mem_cons] at hsorted
  rcases hsorted with hearlier | rfl | hlater
  · exact absurd (hbefore other hearlier) hne
  · exact le_rfl
  · exact List.rel_of_pairwise_cons (List.pairwise_append.mp hpairwise).2.1 hlater

theorem findSome?_sorted_eq_none :
    (sorted key l).findSome? f = none ↔ ∀ a ∈ l, f a = none := by
  simp [List.findSome?_eq_none_iff]

end LeastFirst
