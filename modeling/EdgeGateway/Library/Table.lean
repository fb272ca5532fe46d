import Mathlib.Algebra.Ring.Nat
import Mathlib.Data.List.AList

/-!
# Finite tables

Tables with one value for each key, on top of association lists without duplicate keys: bounded
insertion, filtering and the image of a table.
-/

/-- A finite map. -/
abbrev Table (Key Value : Type) := AList fun _ : Key => Value

namespace Table

variable {Key Value Image : Type}

/-- Number of keys. -/
def size (table : Table Key Value) : Nat :=
  table.entries.length

/-- Keep the entries that satisfy a predicate. -/
def retain (table : Table Key Value) (keep : Key → Value → Bool) : Table Key Value :=
  ⟨table.entries.filter fun entry => keep entry.1 entry.2,
    table.nodupKeys.sublist List.filter_sublist⟩

/-- Apply a function to every value. -/
def mapValues (table : Table Key Value) (image : Value → Image) : Table Key Image :=
  ⟨table.entries.map fun entry => ⟨entry.1, image entry.2⟩, by
    have keys :
        (table.entries.map fun entry => (⟨entry.1, image entry.2⟩ : Sigma fun _ => Image)).keys
        = table.entries.keys := by
      simp [List.keys]
    rw [List.NodupKeys, keys]
    exact table.nodupKeys⟩

@[simp] theorem size_empty : size (∅ : Table Key Value) = 0 := rfl

@[simp] theorem size_mapValues (table : Table Key Value) (image : Value → Image) :
    size (table.mapValues image) = size table :=
  List.length_map _

theorem size_retain_le (table : Table Key Value) (keep : Key → Value → Bool) :
    size (table.retain keep) ≤ size table :=
  List.length_filter_le _ _

/-- Filtering that keeps the size keeps the table. -/
theorem retain_eq_of_size {table : Table Key Value} {keep : Key → Value → Bool}
    (same : size (table.retain keep) = size table) : table.retain keep = table :=
  AList.ext (List.filter_eq_self.mpr (List.length_filter_eq_length_iff.mp same))

variable [DecidableEq Key]

theorem mem_iff_lookup {table : Table Key Value} {key : Key} :
    key ∈ table ↔ ∃ value, table.lookup key = some value := by
  rw [← AList.lookup_isSome, Option.isSome_iff_exists]

theorem lookup_eq_some_iff {table : Table Key Value} {key : Key} {value : Value} :
    table.lookup key = some value ↔ (⟨key, value⟩ : Sigma fun _ => Value) ∈ table.entries :=
  AList.mem_lookup_iff

/-- The values of a table are those under its keys. -/
theorem mem_values {table : Table Key Value} {value : Value} :
    value ∈ table.entries.map (fun entry => entry.2) ↔ ∃ key, table.lookup key = some value := by
  simp only [lookup_eq_some_iff, List.mem_map]
  constructor
  · rintro ⟨⟨key, found⟩, member, rfl⟩
    exact ⟨key, member⟩
  · rintro ⟨key, member⟩
    exact ⟨⟨key, value⟩, member, rfl⟩

/-- A filtered table has the values that satisfy the predicate. -/
theorem lookup_retain (table : Table Key Value) (keep : Key → Value → Bool) (key : Key) :
    (table.retain keep).lookup key = (table.lookup key).filter (keep key) := by
  ext value
  rw [lookup_eq_some_iff, Option.filter_eq_some_iff,
    lookup_eq_some_iff]
  exact List.mem_filter

theorem lookup_retain_eq_some {table : Table Key Value} {keep : Key → Value → Bool} {key : Key}
    {value : Value} :
    (table.retain keep).lookup key = some value ↔
      table.lookup key = some value ∧ keep key value = true := by
  rw [lookup_retain, Option.filter_eq_some_iff]

@[simp] theorem lookup_mapValues (table : Table Key Value) (image : Value → Image) (key : Key) :
    (table.mapValues image).lookup key = (table.lookup key).map image := by
  ext value
  simp only [lookup_eq_some_iff, Option.map_eq_some_iff, mapValues, List.mem_map]
  constructor
  · rintro ⟨⟨found, original⟩, member, same⟩
    cases same
    exact ⟨original, member, rfl⟩
  · rintro ⟨original, member, rfl⟩
    exact ⟨⟨key, original⟩, member, rfl⟩

theorem size_insert_of_notMem {table : Table Key Value} {key : Key} (value : Value)
    (absent : key ∉ table) : size (table.insert key value) = size table + 1 := by
  rw [size, AList.entries_insert_of_notMem absent, List.length_cons, ← size]

/-- A fresh key adds one entry to those that were there. -/
theorem lookup_insert_fresh {table : Table Key Value} {key : Key} (fresh : key ∉ table)
    (value : Value) (other : Key) (found : Value) :
    (table.insert key value).lookup other = some found ↔
      table.lookup other = some found ∨ (other = key ∧ found = value) := by
  by_cases same : other = key
  · subst same
    rw [AList.lookup_insert, AList.lookup_eq_none.mpr fresh]
    simp [eq_comm]
  · rw [AList.lookup_insert_ne same]
    simp [same]

theorem size_insert_of_mem {table : Table Key Value} {key : Key} (value : Value)
    (present : key ∈ table) : size (table.insert key value) = size table := by
  have keys : (table.insert key value).keys.length = table.keys.length := by
    rw [AList.keys_insert, List.length_cons,
      List.length_erase_of_mem (AList.mem_keys.mp present)]
    exact Nat.succ_pred_eq_of_pos (List.length_pos_of_mem (AList.mem_keys.mp present))
  simpa [AList.keys, List.keys, size] using keys

theorem size_insert_le (table : Table Key Value) (key : Key) (value : Value) :
    size (table.insert key value) ≤ size table + 1 := by
  by_cases present : key ∈ table
  · rw [size_insert_of_mem value present]
    exact Nat.le_succ _
  · rw [size_insert_of_notMem value present]

/-- An insertion replaces the weight of the old value by that of the new one. -/
theorem sum_insert (weight : Value → Nat) (table : Table Key Value) (key : Key) (value : Value) :
    ((table.insert key value).entries.map fun entry => weight entry.2).sum +
        (table.lookup key).elim 0 weight =
      (table.entries.map fun entry => weight entry.2).sum + weight value := by
  by_cases present : key ∈ table
  · obtain ⟨old, before, behind, _, split, erased⟩ :=
      List.exists_of_kerase (AList.mem_keys.mp present)
    have found : table.lookup key = some old :=
      lookup_eq_some_iff.mpr (split ▸ List.mem_append_right _ List.mem_cons_self)
    rw [found, Option.elim_some, AList.entries_insert, erased, split]
    simp only [List.map_cons, List.map_append, List.sum_cons, List.sum_append]
    omega
  · rw [AList.lookup_eq_none.mpr present, Option.elim_none, AList.entries_insert_of_notMem present,
      List.map_cons, List.sum_cons, Nat.add_zero, Nat.add_comm]

theorem size_erase_le (table : Table Key Value) (key : Key) :
    size (table.erase key) ≤ size table :=
  (List.kerase_sublist key table.entries).length_le

theorem size_erase_of_mem {table : Table Key Value} {key : Key} (present : key ∈ table) :
    size (table.erase key) + 1 = size table := by
  have keys : (table.erase key).keys.length = table.keys.length - 1 := by
    rw [AList.keys_erase, List.length_erase_of_mem (AList.mem_keys.mp present)]
  have some_key : 0 < table.keys.length := List.length_pos_of_mem (AList.mem_keys.mp present)
  simp only [AList.keys, List.keys, List.length_map, size] at keys some_key ⊢
  omega

/-- Erasing several keys takes away their values and nothing else. -/
theorem lookup_foldl_erase (table : Table Key Value) (erased : List Key) (key : Key) :
    (erased.foldl (fun table key => table.erase key) table).lookup key =
      if key ∈ erased then none else table.lookup key := by
  induction erased generalizing table with
  | nil => rw [List.foldl_nil, if_neg List.not_mem_nil]
  | cons first erased ih =>
      rw [List.foldl_cons, ih]
      by_cases later : key ∈ erased
      · rw [if_pos later, if_pos (List.mem_cons_of_mem first later)]
      · by_cases same : key = first
        · rw [if_neg later, same, AList.lookup_erase, if_pos List.mem_cons_self]
        · have kept : key ∉ first :: erased := fun member =>
            (List.mem_cons.mp member).elim same later
          rw [if_neg later, if_neg kept, AList.lookup_erase_ne same]

/-- A table of size zero has no entries. -/
theorem lookup_of_size_zero {table : Table Key Value} (empty : size table = 0) (key : Key) :
    table.lookup key = none := by
  have entries : table.entries = [] := List.length_eq_zero_iff.mp empty
  rw [AList.lookup, entries, List.dlookup_nil]

/-- A table that lacks a key of another, and has no keys of its own, is smaller. -/
theorem size_lt_of_lookup {table larger : Table Key Value} {key : Key} {value : Value}
    (grows : ∀ key value, table.lookup key = some value → larger.lookup key = some value)
    (present : larger.lookup key = some value) (absent : table.lookup key = none) :
    size table < size larger := by
  have subset : table.keys ⊆ larger.keys := by
    intro other member
    obtain ⟨found, lookup⟩ := mem_iff_lookup.mp (AList.mem_keys.mpr member)
    exact AList.mem_keys.mp (mem_iff_lookup.mpr ⟨found, grows _ _ lookup⟩)
  have missing : key ∉ table.keys := fun member =>
    AList.lookup_eq_none.mp absent (AList.mem_keys.mpr member)
  have distinct : (key :: table.keys).Nodup := List.nodup_cons.mpr ⟨missing, table.keys_nodup⟩
  have own : key ∈ larger.keys := AList.mem_keys.mp (mem_iff_lookup.mpr ⟨value, present⟩)
  have fits := (List.subperm_of_subset distinct (List.cons_subset.mpr ⟨own, subset⟩)).length_le
  rw [List.length_cons] at fits
  simpa [AList.keys, List.keys, size] using Nat.lt_of_succ_le fits

/-! ## Tables of tables -/

variable {Inner : Type} [DecidableEq Inner]

/-- The value under an outer and an inner key. -/
def lookupIn (table : Table Key (Table Inner Value)) (outer : Key) (inner : Inner) : Option Value :=
  (table.lookup outer).bind fun entries => entries.lookup inner

/-- Put a value under an outer and an inner key. -/
def insertIn (table : Table Key (Table Inner Value)) (outer : Key) (inner : Inner) (value : Value) :
    Table Key (Table Inner Value) :=
  table.insert outer (((table.lookup outer).getD ∅).insert inner value)

theorem lookupIn_insertIn_same (table : Table Key (Table Inner Value)) (outer : Key)
    (inner : Inner) (value : Value) :
    (table.insertIn outer inner value).lookupIn outer inner = some value := by
  rw [lookupIn, insertIn, AList.lookup_insert]
  exact AList.lookup_insert _

theorem lookupIn_insertIn_other (table : Table Key (Table Inner Value)) {outer other : Key}
    {inner other_inner : Inner} (value : Value) (distinct : (other, other_inner) ≠ (outer, inner)) :
    (table.insertIn outer inner value).lookupIn other other_inner =
      table.lookupIn other other_inner := by
  by_cases same : other = outer
  · subst same
    have inner_distinct : other_inner ≠ inner := by
      rintro rfl
      exact distinct rfl
    rw [lookupIn, insertIn, AList.lookup_insert, Option.bind_some,
      AList.lookup_insert_ne inner_distinct, lookupIn]
    cases table.lookup other with
    | none => rfl
    | some entries => rfl
  · rw [lookupIn, insertIn, AList.lookup_insert_ne same, lookupIn]

end Table
