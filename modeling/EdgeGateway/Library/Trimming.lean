import Mathlib.Data.List.DropRight

/-!
# Trimming lists

Trimming drops the items of one kind from both ends of a list, as far as they reach.
-/

namespace Trimming

variable {α : Type} {blank : α → Bool} {items inner : List α}

/-- Drop the blank items at both ends. -/
def trim (blank : α → Bool) (items : List α) : List α :=
  (items.dropWhile blank).rdropWhile blank

/-- The inner list is what blank items surround, and has none at its own ends. -/
structure Surrounded (blank : α → Bool) (items inner : List α) : Prop where
  split : ∃ front back, items = front ++ inner ++ back ∧
    (∀ item ∈ front, blank item = true) ∧ ∀ item ∈ back, blank item = true
  first : ∀ item ∈ inner.head?, blank item = false
  last : ∀ item ∈ inner.getLast?, blank item = false

theorem surrounded_trim (blank : α → Bool) (items : List α) :
    Surrounded blank items (trim blank items) where
  split := by
    refine ⟨items.takeWhile blank, (items.dropWhile blank).rtakeWhile blank, ?_, ?_, ?_⟩
    · rw [trim, List.append_assoc, List.rdropWhile_append_rtakeWhile,
        List.takeWhile_append_dropWhile]
    · exact fun _ => List.mem_takeWhile_imp
    · exact fun _ => List.mem_rtakeWhile_imp
  first := by
    intro item head
    obtain ⟨rest, inner⟩ := List.head?_eq_some_iff.mp head
    obtain ⟨back, dropped⟩ := List.rdropWhile_prefix blank (l := items.dropWhile blank)
    have unblank := List.head?_dropWhile_not blank items
    rw [trim] at inner
    rw [← dropped, inner] at unblank
    exact unblank
  last := by
    intro item last
    have nonempty : trim blank items ≠ [] := by
      rintro empty
      simp [empty] at last
    have unblank := List.rdropWhile_last_not blank (items.dropWhile blank) nonempty
    rw [List.getLast?_eq_getLast_of_ne_nil nonempty, Option.mem_some_iff] at last
    rw [← last]
    exact Bool.not_eq_true _ |>.mp unblank

/-- Trimming finds the only list that blank items surround. -/
theorem trim_eq_iff : trim blank items = inner ↔ Surrounded blank items inner := by
  constructor
  · rintro rfl
    exact surrounded_trim blank items
  · rintro ⟨⟨front, back, rfl, front_blank, back_blank⟩, first, last⟩
    rw [trim, List.append_assoc, List.dropWhile_append_of_pos front_blank]
    cases inner with
    | nil =>
        rw [List.nil_append, List.dropWhile_eq_nil_iff.mpr back_blank, List.rdropWhile_nil]
    | cons item rest =>
        have kept : ¬blank item = true := by simp [first item rfl]
        have tail : (item :: rest ++ back).rdropWhile blank = (item :: rest).rdropWhile blank := by
          rw [List.rdropWhile, List.reverse_append, List.dropWhile_append_of_pos, List.rdropWhile]
          exact fun item member => back_blank item (List.mem_reverse.mp member)
        rw [List.cons_append, List.dropWhile_cons_of_neg kept, ← List.cons_append, tail,
          List.rdropWhile_eq_self_iff]
        intro nonempty
        simp [last _ (List.getLast_mem_getLast? nonempty)]

end Trimming
