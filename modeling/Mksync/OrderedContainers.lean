import Mathlib.Data.List.Sort
import Mathlib.Order.Basic

/-!
# Ordered maps and multimaps with stable node addresses

`OrderedMap` is an association list in strictly increasing key order. `OrderedMultimap`
keeps its nodes in weakly increasing key order, newest last among equal keys, and every
node has an address that is never given to another node, so that a pointer to a node is
the node's address and a pointer to an erased node finds nothing.
-/

universe u v

namespace List

/-- Finding by a field that is distinct along the list. -/
theorem find?_field_eq_some {α : Type u} {β : Type v} [DecidableEq β] {f : α → β} {l : List α}
    (h : (l.map f).Nodup) {b : β} {a : α} :
    l.find? (fun x => f x = b) = some a ↔ a ∈ l ∧ f a = b := by
  constructor
  · intro hf
    exact ⟨mem_of_find?_eq_some hf, by simpa using find?_some hf⟩
  · rintro ⟨ha, rfl⟩
    cases hf : l.find? (fun x => f x = f a) with
    | none => exact absurd (find?_eq_none.mp hf a ha) (by simp)
    | some x =>
      have hx : f x = f a := by simpa using find?_some hf
      exact congrArg some (inj_on_of_nodup_map h (mem_of_find?_eq_some hf) ha hx)

end List

/-- An association list in strictly increasing key order. -/
structure OrderedMap (K : Type u) (V : Type v) [LinearOrder K] where
  entries : List (K × V)
  sorted : entries.Pairwise (fun a b => a.1 < b.1)

namespace OrderedMap

variable {K : Type u} {V : Type v} [LinearOrder K] {m : OrderedMap K V} {k k' : K} {v v' : V}

@[ext] theorem ext {m m' : OrderedMap K V} (h : m.entries = m'.entries) : m = m' := by
  cases m; cases m'; cases h; rfl

instance [DecidableEq V] : DecidableEq (OrderedMap K V) := fun m m' =>
  decidable_of_iff (m.entries = m'.entries) ⟨ext, fun h => h ▸ rfl⟩

def empty : OrderedMap K V := ⟨[], .nil⟩

/-- The value under a key. -/
def find? (m : OrderedMap K V) (k : K) : Option V :=
  (m.entries.find? (fun e => e.1 = k)).map Prod.snd

def contains (m : OrderedMap K V) (k : K) : Bool := (m.find? k).isSome

def values (m : OrderedMap K V) : List V := m.entries.map Prod.snd

/-- The entries whose key and value satisfy the predicate. -/
def filter (p : K → V → Bool) (m : OrderedMap K V) : OrderedMap K V :=
  ⟨m.entries.filter (fun e => p e.1 e.2), m.sorted.filter _⟩

def erase (m : OrderedMap K V) (k : K) : OrderedMap K V := m.filter (fun k' _ => k' ≠ k)

theorem pairwise_orderedInsert {l : List (K × V)} (h : l.Pairwise (fun a b => a.1 < b.1))
    (hk : ∀ e ∈ l, e.1 ≠ k) :
    (l.orderedInsert (fun a b => a.1 < b.1) (k, v)).Pairwise (fun a b => a.1 < b.1) := by
  induction l with
  | nil => simp
  | cons e l ih =>
    obtain ⟨he, hl⟩ := List.pairwise_cons.mp h
    by_cases hlt : k < e.1
    · rw [List.orderedInsert_cons_of_le _ l hlt]
      refine List.pairwise_cons.mpr ⟨?_, h⟩
      intro b hb
      rcases List.mem_cons.mp hb with rfl | hb
      · exact hlt
      · exact hlt.trans (he b hb)
    · rw [List.orderedInsert_of_not_le _ l hlt]
      refine List.pairwise_cons.mpr ⟨?_, ih hl fun b hb => hk b (List.mem_cons_of_mem _ hb)⟩
      intro b hb
      rcases (List.mem_orderedInsert _).mp hb with rfl | hb
      · exact lt_of_le_of_ne (not_lt.mp hlt) (hk e List.mem_cons_self)
      · exact he b hb

theorem ne_of_mem_erase (m : OrderedMap K V) (k : K) :
    ∀ e ∈ (m.erase k).entries, e.1 ≠ k := by
  intro e he
  simpa using (List.mem_filter.mp he).2

/-- `operator[]` assignment: the entry of the key is replaced or added. -/
def insertOrAssign (m : OrderedMap K V) (k : K) (v : V) : OrderedMap K V :=
  ⟨(m.erase k).entries.orderedInsert (fun a b => a.1 < b.1) (k, v),
    pairwise_orderedInsert (m.erase k).sorted (m.ne_of_mem_erase k)⟩

/-- `emplace`: the entry is added unless the key is present. -/
def emplace (m : OrderedMap K V) (k : K) (v : V) : OrderedMap K V :=
  if m.contains k then m else m.insertOrAssign k v

/-! ### Lookup and membership -/

theorem nodup_keys (m : OrderedMap K V) : (m.entries.map Prod.fst).Nodup :=
  List.pairwise_map.mpr (m.sorted.imp ne_of_lt)

theorem find?_eq_some : m.find? k = some v ↔ (k, v) ∈ m.entries := by
  simp only [find?, Option.map_eq_some_iff, List.find?_field_eq_some m.nodup_keys]
  constructor
  · rintro ⟨e, ⟨he, rfl⟩, rfl⟩
    exact he
  · intro h
    exact ⟨(k, v), ⟨h, rfl⟩, rfl⟩

theorem mem_values : v ∈ m.values ↔ ∃ k, m.find? k = some v := by
  simp only [values, List.mem_map, find?_eq_some, Prod.exists, exists_eq_right]

@[simp] theorem find?_empty : (empty : OrderedMap K V).find? k = none := rfl

theorem contains_eq_false : m.contains k = false ↔ m.find? k = none := by
  simp [contains]

theorem find?_filter (p : K → V → Bool) :
    (m.filter p).find? k = (m.find? k).filter (p k) := by
  apply Option.ext
  intro v
  rw [find?_eq_some, Option.filter_eq_some_iff, find?_eq_some]
  simp [filter]

@[simp] theorem find?_erase : (m.erase k').find? k = if k = k' then none else m.find? k := by
  rw [erase, find?_filter]
  by_cases h : k = k'
  · simp [h]
  · cases hf : m.find? k <;> simp [h]

@[simp] theorem find?_insertOrAssign :
    (m.insertOrAssign k' v).find? k = if k = k' then some v else m.find? k := by
  apply Option.ext
  intro w
  rw [find?_eq_some]
  simp only [insertOrAssign, List.mem_orderedInsert, ← find?_eq_some, Prod.mk.injEq, find?_erase]
  by_cases h : k = k'
  · simp [h, eq_comm]
  · simp [h]

theorem rel_find?_self {r : V → V → Prop} (hrefl : ∀ v, r v v) (m : OrderedMap K V) (k : K) :
    Option.Rel r (m.find? k) (m.find? k) := by
  cases m.find? k with
  | none => exact .none
  | some v => exact .some (hrefl v)

/-- A replacement is related to what it replaces, everything else to itself. -/
theorem rel_find?_insertOrAssign {r : V → V → Prop} (hrefl : ∀ v, r v v)
    (hold : m.find? k' = some v)
    (h : r v v') (k : K) : Option.Rel r (m.find? k) ((m.insertOrAssign k' v').find? k) := by
  rw [find?_insertOrAssign]
  split_ifs with heq
  · rw [heq, hold]
    exact .some h
  · exact m.rel_find?_self hrefl k

theorem find?_emplace (h : m.contains k' = false) :
    (m.emplace k' v).find? k = if k = k' then some v else m.find? k := by
  simp [emplace, h]

/-- A map is determined by its lookups. -/
theorem ext_find? {m m' : OrderedMap K V} (h : ∀ k, m.find? k = m'.find? k) : m = m' := by
  have hmem : ∀ e, e ∈ m.entries ↔ e ∈ m'.entries := fun e => by
    rw [← find?_eq_some, ← find?_eq_some, h]
  have hnodup : ∀ m : OrderedMap K V, m.entries.Nodup := fun m =>
    m.sorted.imp fun hlt heq => absurd (heq ▸ hlt) (lt_irrefl _)
  refine ext (((List.perm_ext_iff_of_nodup (hnodup m) (hnodup m')).mpr hmem).eq_of_pairwise ?_
    m.sorted m'.sorted)
  exact fun a b _ _ hab hba => absurd (hab.trans hba) (lt_irrefl _)

@[simp] theorem erase_insertOrAssign : (m.insertOrAssign k v).erase k = m.erase k :=
  ext_find? fun k' => by
    by_cases h : k' = k <;> simp [h]

end OrderedMap

/-- A node of a multimap. -/
structure MultimapNode (K : Type u) (V : Type v) where
  address : Nat
  key : K
  value : V
  deriving DecidableEq

/-- Nodes in key order, with the addresses given out so far below `nextAddress`. -/
structure OrderedMultimap (K : Type u) (V : Type v) [LinearOrder K] where
  nodes : List (MultimapNode K V)
  nextAddress : Nat
  sorted : nodes.Pairwise (fun a b => a.key ≤ b.key)
  distinct : (nodes.map MultimapNode.address).Nodup
  fresh : ∀ n ∈ nodes, n.address < nextAddress

namespace OrderedMultimap

variable {K : Type u} {V : Type v} [LinearOrder K] {m : OrderedMultimap K V} {k : K} {v w : V}
  {a : Nat} {n : MultimapNode K V}

def empty : OrderedMultimap K V := ⟨[], 0, .nil, .nil, by simp⟩

def values (m : OrderedMultimap K V) : List V := m.nodes.map MultimapNode.value

/-- The node at an address; an erased node is not found. -/
def node? (m : OrderedMultimap K V) (a : Nat) : Option (MultimapNode K V) :=
  m.nodes.find? (fun n => n.address = a)

/-- The value a pointer to a node denotes. -/
def deref (m : OrderedMultimap K V) (a : Nat) : Option V := (m.node? a).map MultimapNode.value

/-- The nodes of a key, in insertion order. -/
def equalRange (m : OrderedMultimap K V) (k : K) : List (MultimapNode K V) :=
  m.nodes.filter (fun n => n.key = k)

theorem sorted_orderedInsert {l : List (MultimapNode K V)}
    (h : l.Pairwise (fun a b => a.key ≤ b.key)) :
    (l.orderedInsert (fun a b => a.key < b.key) n).Pairwise (fun a b => a.key ≤ b.key) := by
  induction l with
  | nil => simp
  | cons e l ih =>
    obtain ⟨he, hl⟩ := List.pairwise_cons.mp h
    by_cases hlt : n.key < e.key
    · rw [List.orderedInsert_cons_of_le _ l hlt]
      refine List.pairwise_cons.mpr ⟨?_, h⟩
      intro b hb
      rcases List.mem_cons.mp hb with rfl | hb
      · exact hlt.le
      · exact hlt.le.trans (he b hb)
    · rw [List.orderedInsert_of_not_le _ l hlt]
      refine List.pairwise_cons.mpr ⟨?_, ih hl⟩
      intro b hb
      rcases (List.mem_orderedInsert _).mp hb with rfl | hb
      · exact not_lt.mp hlt
      · exact he b hb

/-- `emplace`: a fresh node behind the nodes of its key. -/
def emplace (m : OrderedMultimap K V) (k : K) (v : V) : OrderedMultimap K V where
  nodes := m.nodes.orderedInsert (fun a b => a.key < b.key) ⟨m.nextAddress, k, v⟩
  nextAddress := m.nextAddress + 1
  sorted := sorted_orderedInsert m.sorted
  distinct := by
    have hperm := (List.perm_orderedInsert (fun a b => a.key < b.key)
      (⟨m.nextAddress, k, v⟩ : MultimapNode K V) m.nodes).map MultimapNode.address
    refine hperm.nodup_iff.mpr (List.nodup_cons.mpr ⟨?_, m.distinct⟩)
    intro hmem
    obtain ⟨n, hn, heq⟩ := List.mem_map.mp hmem
    exact absurd (m.fresh n hn) (by simp [heq])
  fresh := by
    intro n hn
    rcases (List.mem_orderedInsert _).mp hn with rfl | hn
    · exact Nat.lt_succ_self _
    · exact Nat.lt_succ_of_lt (m.fresh n hn)

/-- `erase(key)`: all nodes of the key. -/
def eraseKey (m : OrderedMultimap K V) (k : K) : OrderedMultimap K V where
  nodes := m.nodes.filter (fun n => n.key ≠ k)
  nextAddress := m.nextAddress
  sorted := m.sorted.filter _
  distinct := m.distinct.sublist (List.filter_sublist.map _)
  fresh := fun n hn => m.fresh n (List.mem_filter.mp hn).1

@[simp] theorem mem_nodes_emplace :
    n ∈ (m.emplace k v).nodes ↔ n = ⟨m.nextAddress, k, v⟩ ∨ n ∈ m.nodes :=
  List.mem_orderedInsert _

@[simp] theorem mem_nodes_eraseKey : n ∈ (m.eraseKey k).nodes ↔ n ∈ m.nodes ∧ n.key ≠ k := by
  simp [eraseKey]

@[simp] theorem mem_equalRange : n ∈ m.equalRange k ↔ n ∈ m.nodes ∧ n.key = k := by
  simp [equalRange]

theorem mem_values : v ∈ m.values ↔ ∃ n ∈ m.nodes, n.value = v := List.mem_map

theorem values_emplace_perm : (m.emplace k v).values.Perm (v :: m.values) :=
  (List.perm_orderedInsert (fun a b : MultimapNode K V => a.key < b.key)
    ⟨m.nextAddress, k, v⟩ m.nodes).map MultimapNode.value

theorem node?_eq_some : m.node? a = some n ↔ n ∈ m.nodes ∧ n.address = a :=
  List.find?_field_eq_some m.distinct

theorem deref_eq_some : m.deref a = some v ↔ ∃ n ∈ m.nodes, n.address = a ∧ n.value = v := by
  simp only [deref, Option.map_eq_some_iff, node?_eq_some, and_assoc]

theorem deref_of_mem (h : n ∈ m.nodes) : m.deref n.address = some n.value :=
  deref_eq_some.mpr ⟨n, h, rfl, rfl⟩

/-! ### The nodes of the other keys -/

theorem filter_orderedInsert_of_neg {p : MultimapNode K V → Bool} (h : p n = false)
    (l : List (MultimapNode K V)) :
    (l.orderedInsert (fun a b => a.key < b.key) n).filter p = l.filter p := by
  induction l with
  | nil => simp [h]
  | cons e l ih =>
    by_cases hlt : n.key < e.key
    · rw [List.orderedInsert_cons_of_le _ l hlt, List.filter_cons_of_neg (by simp [h])]
    · rw [List.orderedInsert_of_not_le _ l hlt, List.filter_cons, List.filter_cons, ih]

theorem equalRange_emplace_of_ne {k' : K} (h : k' ≠ k) :
    (m.emplace k v).equalRange k' = m.equalRange k' :=
  filter_orderedInsert_of_neg (by simp [Ne.symm h]) m.nodes

theorem equalRange_eraseKey_of_ne {k' : K} (h : k' ≠ k) :
    (m.eraseKey k).equalRange k' = m.equalRange k' := by
  rw [equalRange, eraseKey, List.filter_filter]
  refine List.filter_congr fun n _ => ?_
  by_cases hn : n.key = k'
  · simp [hn, h]
  · simp [hn]

end OrderedMultimap
