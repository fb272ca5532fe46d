import Mathlib.Data.List.Dedup

/-!
# Multimaps as lists of entries

A multimap keeps its entries in order; only the order of the values of one key is meaningful.
-/

/-- Entries of a multimap, in order. -/
abbrev Multimap (Key Value : Type) := List (Key × Value)

namespace Multimap

variable {Key Value : Type} [DecidableEq Key]

/-- The values of a key, in order. -/
def getAll (map : Multimap Key Value) (key : Key) : List Value :=
  (map.filter fun entry => entry.1 = key).map Prod.snd

/-- The keys that have a value, each once. -/
def keys (map : Multimap Key Value) : List Key :=
  (map.map Prod.fst).dedup

/-- Drop all values of a key. -/
def remove (map : Multimap Key Value) (key : Key) : Multimap Key Value :=
  map.filter fun entry => entry.1 ≠ key

/-- Drop all values of several keys. -/
def removeAll (map : Multimap Key Value) (names : List Key) : Multimap Key Value :=
  names.foldl remove map

/-- Replace all values of a key by one value. -/
def insert (map : Multimap Key Value) (key : Key) (value : Value) : Multimap Key Value :=
  remove map key ++ [(key, value)]

theorem getAll_remove (map : Multimap Key Value) (removed key : Key) :
    getAll (remove map removed) key = if key = removed then [] else getAll map key := by
  unfold getAll remove
  rw [List.filter_filter]
  split_ifs with same
  · rw [List.map_eq_nil_iff, List.filter_eq_nil_iff]
    intro entry _
    simp [same]
  · congr 1
    apply List.filter_congr
    intro entry _
    by_cases named : entry.1 = key <;> simp [named, same]

theorem getAll_removeAll (map : Multimap Key Value) (names : List Key) (key : Key) :
    getAll (removeAll map names) key = if key ∈ names then [] else getAll map key := by
  induction names generalizing map with
  | nil => simp [removeAll]
  | cons name names ih =>
      have step : removeAll map (name :: names) = removeAll (remove map name) names := rfl
      rw [step, ih, getAll_remove]
      by_cases same : key = name <;> by_cases member : key ∈ names <;> simp [same, member]

theorem getAll_insert (map : Multimap Key Value) (inserted key : Key) (value : Value) :
    getAll (insert map inserted value) key =
      if key = inserted then [value] else getAll map key := by
  have split : getAll (insert map inserted value) key =
      getAll (remove map inserted) key ++ getAll [(inserted, value)] key := by
    simp [getAll, insert]
  rw [split, getAll_remove]
  split_ifs with same
  · simp [getAll, same]
  · simp [getAll, Ne.symm same]

theorem getAll_of_notMem_keys {map : Multimap Key Value} {key : Key} (absent : key ∉ keys map) :
    getAll map key = [] := by
  unfold getAll
  rw [List.map_eq_nil_iff, List.filter_eq_nil_iff]
  intro entry member
  have listed : entry.1 ∈ keys map := List.mem_dedup.mpr (List.mem_map_of_mem member)
  simpa using fun same : entry.1 = key => absent (same ▸ listed)

/-- The keys are those that have a value. -/
theorem mem_keys_iff {map : Multimap Key Value} {key : Key} :
    key ∈ keys map ↔ getAll map key ≠ [] := by
  constructor
  · intro listed empty
    obtain ⟨entry, member, same⟩ := List.mem_map.mp (List.mem_dedup.mp listed)
    unfold getAll at empty
    rw [List.map_eq_nil_iff, List.filter_eq_nil_iff] at empty
    exact empty entry member (by simpa using same)
  · intro present
    by_contra absent
    exact present (getAll_of_notMem_keys absent)

/-- Dropping the keys that satisfy a predicate. -/
theorem getAll_removeAll_filter_keys (map : Multimap Key Value) (drop : Key → Bool) (key : Key) :
    getAll (removeAll map ((keys map).filter drop)) key =
      if drop key then [] else getAll map key := by
  rw [getAll_removeAll]
  by_cases dropped : drop key <;> by_cases listed : key ∈ keys map
  · simp [dropped, listed]
  · simp [dropped, listed, getAll_of_notMem_keys listed]
  · simp [dropped]
  · simp [dropped]

end Multimap
