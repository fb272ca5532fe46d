import Mathlib.Tactic.Common
import Mathlib.Data.List.Infix

/-!
# Splitting lists at a separator

Facts about `List.splitOn` beyond its round trip with `List.intercalate`.
-/

namespace Splitting

variable {α : Type} [DecidableEq α]

/-- No part of a split has the separator. -/
theorem notMem_of_mem_splitOn {separator : α} {items part : List α}
    (member : part ∈ items.splitOn separator) : separator ∉ part := by
  induction items generalizing part with
  | nil =>
      rw [List.splitOn_nil, List.mem_singleton] at member
      simp [member]
  | cons item items ih =>
      rw [List.splitOn_cons_eq_if_modifyHead] at member
      split_ifs at member with same
      · rcases List.mem_cons.mp member with rfl | later
        · exact List.not_mem_nil
        · exact ih later
      · cases split : items.splitOn separator with
        | nil => exact absurd split (List.splitOn_ne_nil separator items)
        | cons first parts =>
            simp only [split, List.modifyHead_cons, List.mem_cons] at ih member
            rcases member with rfl | later
            · rw [List.mem_cons, not_or]
              exact ⟨fun equal => same (beq_iff_eq.mpr equal.symm), ih (.inl rfl)⟩
            · exact ih (.inr later)

/-- A split starts with an empty part and goes on only where the list starts with a separator. -/
theorem head_of_empty_first {separator : α} {items : List α} {parts : List (List α)}
    (split : items.splitOn separator = [] :: parts) (more : parts ≠ []) :
    ∃ rest, items = separator :: rest := by
  cases items with
  | nil =>
      rw [List.splitOn_nil] at split
      exact absurd (List.cons.inj split).2.symm more
  | cons item items =>
      rw [List.splitOn_cons_eq_if_modifyHead] at split
      split_ifs at split with same
      · exact ⟨items, by rw [beq_iff_eq.mp same]⟩
      · cases inner : items.splitOn separator with
        | nil => exact absurd inner (List.splitOn_ne_nil separator items)
        | cons head tail => simp [inner] at split

/-- An empty inner part of a split is a repeated separator. -/
theorem repeated_of_empty_inner {separator : α} {items : List α}
    (empty : [] ∈ (items.splitOn separator).tail.dropLast) :
    [separator, separator] <:+: items := by
  induction items with
  | nil => simp at empty
  | cons item items ih =>
      have extend (inside : [separator, separator] <:+: items) :
          [separator, separator] <:+: item :: items :=
        List.infix_cons inside
      rw [List.splitOn_cons_eq_if_modifyHead] at empty
      cases parts_eq : items.splitOn separator with
      | nil => exact absurd parts_eq (List.splitOn_ne_nil separator items)
      | cons first parts =>
          rw [parts_eq] at ih empty
          split_ifs at empty with same
          · obtain rfl : item = separator := beq_iff_eq.mp same
            cases parts with
            | nil => simp at empty
            | cons second parts =>
                rw [List.tail_cons, List.dropLast_cons_cons, List.mem_cons] at empty
                rcases empty with rfl | inner
                · obtain ⟨rest, rfl⟩ := head_of_empty_first parts_eq (by simp)
                  exact (List.prefix_append [item, item] rest).isInfix
                · exact extend (ih inner)
          · exact extend (ih (by simpa using empty))

/-- A repeated separator is an empty inner part of the split. -/
theorem empty_inner_of_repeated {separator : α} {items : List α}
    (repeated : [separator, separator] <:+: items) :
    [] ∈ (items.splitOn separator).tail.dropLast := by
  induction items with
  | nil => simp at repeated
  | cons item items ih =>
      rw [List.splitOn_cons_eq_if_modifyHead]
      rcases List.infix_cons_iff.mp repeated with first | later
      · obtain ⟨rest, rfl⟩ : ∃ rest, items = separator :: rest := by
          obtain ⟨same, next⟩ := List.cons_prefix_cons.mp first
          obtain ⟨rest, rfl⟩ := next
          exact ⟨rest, rfl⟩
        obtain rfl : separator = item := (List.cons_prefix_cons.mp first).1
        cases inner : rest.splitOn separator with
        | nil => exact absurd inner (List.splitOn_ne_nil separator rest)
        | cons head parts => simp [List.splitOn_cons_eq_if_modifyHead, inner]
      · have inside := ih later
        cases inner : items.splitOn separator with
        | nil => exact absurd inner (List.splitOn_ne_nil separator items)
        | cons head parts =>
            rw [inner, List.tail_cons] at inside
            split_ifs
            · cases parts with
              | nil => cases inside
              | cons second parts =>
                  rw [List.tail_cons, List.dropLast_cons_cons]
                  exact List.mem_cons_of_mem _ inside
            · exact inside

/-- A repeated separator of a joined list is in one of the two lists, or between them. -/
theorem repeated_of_append {separator : α} {left right : List α}
    (repeated : [separator, separator] <:+: left ++ right) :
    [separator, separator] <:+: left ∨ [separator, separator] <:+: right ∨
      (left.getLast? = some separator ∧ right.head? = some separator) := by
  rcases List.infix_append_iff_ne_nil.mp repeated with inside | inside |
    ⟨start, finish, start_ne, finish_ne, split, behind, ahead⟩
  · exact .inl inside
  · exact .inr (.inl inside)
  · obtain ⟨first, start, rfl⟩ := List.exists_cons_of_ne_nil start_ne
    obtain ⟨last, finish, rfl⟩ := List.exists_cons_of_ne_nil finish_ne
    rw [List.cons_append, List.cons.injEq] at split
    obtain ⟨rfl, split⟩ := split
    cases start with
    | nil =>
        obtain ⟨rfl, rfl⟩ := List.cons.inj split
        obtain ⟨before, rfl⟩ := behind
        obtain ⟨after, rfl⟩ := ahead
        exact .inr (.inr ⟨List.getLast?_concat, rfl⟩)
    | cons second start =>
        have length := congrArg List.length split
        simp only [List.length_cons, List.length_nil, List.length_append] at length
        omega

/-- Splitting commutes with a map under which the separator alone becomes the separator. -/
theorem splitOn_map {image : α → α} {separator : α}
    (preserved : ∀ item, image item = separator ↔ item = separator) (items : List α) :
    (items.map image).splitOn separator = (items.splitOn separator).map (List.map image) := by
  induction items with
  | nil => rfl
  | cons item items ih =>
      rw [List.map_cons, List.splitOn_cons_eq_if_modifyHead, List.splitOn_cons_eq_if_modifyHead, ih]
      by_cases same : item = separator
      · have image_same := (preserved item).mpr same
        simp [same, (preserved separator).mpr rfl]
      · have image_other : ¬image item = separator := fun image_same =>
          same ((preserved item).mp image_same)
        cases inner : items.splitOn separator with
        | nil => exact absurd inner (List.splitOn_ne_nil separator items)
        | cons head parts => simp [same, image_other]

/-- Every other item of a list is in a part of its split. -/
theorem exists_part_of_mem {separator item : α} {items : List α} (member : item ∈ items)
    (other : item ≠ separator) : ∃ part ∈ items.splitOn separator, item ∈ part := by
  induction items with
  | nil => cases member
  | cons first items ih =>
      rw [List.splitOn_cons_eq_if_modifyHead]
      cases inner : items.splitOn separator with
      | nil => exact absurd inner (List.splitOn_ne_nil separator items)
      | cons head parts =>
          rw [inner] at ih
          split_ifs with same
          · rcases List.mem_cons.mp member with rfl | member
            · exact absurd (beq_iff_eq.mp same) other
            · obtain ⟨part, present, inside⟩ := ih member
              exact ⟨part, List.mem_cons_of_mem _ present, inside⟩
          · rcases List.mem_cons.mp member with rfl | member
            · exact ⟨item :: head, List.mem_cons_self, List.mem_cons_self⟩
            · obtain ⟨part, present, inside⟩ := ih member
              rcases List.mem_cons.mp present with rfl | present
              · exact ⟨first :: part, List.mem_cons_self, List.mem_cons_of_mem _ inside⟩
              · exact ⟨part, List.mem_cons_of_mem _ present, inside⟩

/-- What stands before the last separator is determined. -/
theorem front_eq_of_last {separator : α} {front other back behind : List α}
    (back_free : separator ∉ back) (behind_free : separator ∉ behind)
    (same : front ++ separator :: back = other ++ separator :: behind) : front = other := by
  have dropped (items rest : List α) (free : separator ∉ rest) :
      (items ++ separator :: rest).reverse.dropWhile (· ≠ separator) =
        separator :: items.reverse := by
    have passed : ∀ item ∈ rest.reverse, decide (item ≠ separator) = true := by
      intro item member
      rw [decide_eq_true_iff]
      rintro rfl
      exact free (List.mem_reverse.mp member)
    rw [List.reverse_append, List.reverse_cons, List.append_assoc,
      List.dropWhile_append_of_pos passed]
    simp
  have fronts := dropped front back back_free
  rw [same, dropped other behind behind_free, List.cons_inj_right, List.reverse_inj] at fronts
  exact fronts.symm

end Splitting
