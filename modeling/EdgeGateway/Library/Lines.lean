import EdgeGateway.Library.Splitting
import EdgeGateway.Library.Text
import Mathlib.Data.List.TakeWhile

/-!
# Lines of text

The lines of a text that are left when each has been cleaned and the empty ones have been dropped.
Such records do not depend on how the lines end, and those of two texts in one file are the records
of the one followed by those of the other.
-/

namespace Text

/-- A line without the carriage return at its end. -/
def dropReturn (line : List Char) : List Char :=
  if line.getLast? = some '\r' then line.dropLast else line

/-- The lines of a text without their ends.  What stands behind the last end is a line unless it is
empty, and keeps its carriage return. -/
def lines (text : List Char) : List (List Char) :=
  let parts := text.splitOn '\n'
  parts.dropLast.map dropReturn ++ parts.getLast?.toList.filter (· ≠ [])

/-- The cleaned lines of a text that are not empty. -/
def records (clean : List Char → List Char) (text : List Char) : List (List Char) :=
  ((lines text).map clean).filter (· ≠ [])

/-- Cleaning makes nothing of an empty line and does not mind a carriage return at the end. -/
structure Cleans (clean : List Char → List Char) : Prop where
  nil : clean [] = []
  dropReturn (line : List Char) : clean (dropReturn line) = clean line

section Records

variable {clean : List Char → List Char}

/-- The records of a text are the cleaned parts between its line ends. -/
theorem records_eq (cleans : Cleans clean) (text : List Char) :
    records clean text = ((text.splitOn '\n').map clean).filter (· ≠ []) := by
  have returns (parts : List (List Char)) : (parts.map dropReturn).map clean = parts.map clean := by
    rw [List.map_map]
    exact List.map_congr_left fun part _ => cleans.dropReturn part
  have split := List.dropLast_append_getLast (List.splitOn_ne_nil '\n' text)
  rw [records, lines, List.getLast?_eq_some_getLast (List.splitOn_ne_nil '\n' text),
    List.map_append,
    returns, List.filter_append]
  conv_rhs => rw [← split, List.map_append, List.filter_append]
  congr 1
  by_cases empty : (text.splitOn '\n').getLast (List.splitOn_ne_nil '\n' text) = []
  · simp [empty, cleans.nil]
  · simp [empty]

theorem records_append (cleans : Cleans clean) (front back : List Char) :
    records clean (front ++ '\n' :: back) = records clean front ++ records clean back := by
  rw [records_eq cleans, records_eq cleans, records_eq cleans, List.splitOn_append_cons_self,
    List.map_append, List.filter_append]

end Records

/-! ## Blanks -/

section Blanks

variable {blank : Char}

theorem trim_cons_blank (white : isWhitespace blank = true) (line : List Char) :
    trim (blank :: line) = trim line := by
  rw [trim, List.dropWhile_cons_of_pos white, trim]

theorem trim_append_blank (white : isWhitespace blank = true) (line : List Char) :
    trim (line ++ [blank]) = trim line := by
  rw [trim, trim, List.dropWhile_append]
  split_ifs with empty
  · rw [List.isEmpty_iff.mp empty, List.dropWhile_cons_of_pos white, List.dropWhile_nil]
  · rw [List.reverse_append, List.reverse_singleton, List.singleton_append,
      List.dropWhile_cons_of_pos white]

/-- Trimming takes blanks from both ends. -/
theorem exists_blanks (text : List Char) : ∃ front back, text = front ++ trim text ++ back ∧
    (∀ blank ∈ front, isWhitespace blank = true) ∧ ∀ blank ∈ back, isWhitespace blank = true := by
  refine ⟨text.takeWhile isWhitespace,
    ((text.dropWhile isWhitespace).reverse.takeWhile isWhitespace).reverse, ?_, ?_, ?_⟩
  · rw [trim, List.append_assoc, ← List.reverse_append, List.takeWhile_append_dropWhile,
      List.reverse_reverse, List.takeWhile_append_dropWhile]
  · exact fun _ => List.mem_takeWhile_imp
  · exact fun _ member => List.mem_takeWhile_imp (List.mem_reverse.mp member)

/-- What is no blank survives trimming. -/
theorem mem_trim {character : Char} {text : List Char} (member : character ∈ text)
    (dark : isWhitespace character = false) : character ∈ trim text := by
  obtain ⟨front, back, same, front_white, back_white⟩ := exists_blanks text
  rw [same] at member
  rcases List.mem_append.mp member with member | last
  · rcases List.mem_append.mp member with first | inside
    · rw [front_white character first] at dark
      cases dark
    · exact inside
  · rw [back_white character last] at dark
    cases dark

theorem cleans_trim : Cleans trim := by
  refine ⟨rfl, ?_⟩
  intro line
  rw [dropReturn]
  split_ifs with returns
  · obtain ⟨front, rfl⟩ := List.getLast?_eq_some_iff.mp returns
    rw [List.dropLast_concat, trim_append_blank (by decide)]
  · rfl

theorem records_cons_blank (white : isWhitespace blank = true) (text : List Char) :
    records trim (blank :: text) = records trim text := by
  rw [records_eq cleans_trim, records_eq cleans_trim, List.splitOn_cons_eq_if_modifyHead]
  split_ifs with ends
  · simp [cleans_trim.nil]
  · obtain ⟨first, rest, split⟩ := List.exists_cons_of_ne_nil (List.splitOn_ne_nil '\n' text)
    rw [split, List.modifyHead_cons, List.map_cons, List.map_cons, trim_cons_blank white]

/-- A character that ends no line belongs to the last one. -/
theorem splitOn_append_singleton {separator character : Char} (plain : character ≠ separator)
    (text : List Char) : ∃ front last, text.splitOn separator = front ++ [last] ∧
      (text ++ [character]).splitOn separator = front ++ [last ++ [character]] := by
  induction text with
  | nil =>
      refine ⟨[], [], List.splitOn_nil _, ?_⟩
      exact List.splitOn_eq_singleton (by simpa using plain.symm)
  | cons head text ih =>
      obtain ⟨front, last, split, longer⟩ := ih
      rw [List.cons_append, List.splitOn_cons_eq_if_modifyHead, List.splitOn_cons_eq_if_modifyHead,
        split, longer]
      split_ifs
      · exact ⟨[] :: front, last, rfl, rfl⟩
      · cases front with
        | nil => exact ⟨[], head :: last, rfl, rfl⟩
        | cons first front => exact ⟨(head :: first) :: front, last, rfl, rfl⟩

theorem records_append_blank (white : isWhitespace blank = true) (text : List Char) :
    records trim (text ++ [blank]) = records trim text := by
  by_cases ends : blank = '\n'
  · subst ends
    rw [records_append cleans_trim, List.append_right_eq_self]
    rfl
  · obtain ⟨front, last, split, longer⟩ := splitOn_append_singleton ends text
    rw [records_eq cleans_trim, records_eq cleans_trim, split, longer, List.map_append,
      List.map_append, List.map_singleton, List.map_singleton, trim_append_blank white]

/-- Blanks around a text do not change its trimmed lines. -/
theorem records_trim (text : List Char) : records trim (trim text) = records trim text := by
  obtain ⟨front, back, same, front_white, back_white⟩ := exists_blanks text
  have before (blanks inner : List Char) (white : ∀ blank ∈ blanks, isWhitespace blank = true) :
      records trim (blanks ++ inner) = records trim inner := by
    induction blanks with
    | nil => rfl
    | cons blank blanks ih =>
        rw [List.forall_mem_cons] at white
        rw [List.cons_append, records_cons_blank white.1, ih white.2]
  have behind (blanks inner : List Char) (white : ∀ blank ∈ blanks, isWhitespace blank = true) :
      records trim (inner ++ blanks) = records trim inner := by
    induction blanks generalizing inner with
    | nil => rw [List.append_nil]
    | cons blank blanks ih =>
        rw [List.forall_mem_cons] at white
        rw [List.append_cons, ih _ white.2, records_append_blank white.1]
  conv_rhs => rw [same, behind _ _ back_white, before _ _ front_white]

end Blanks

/-! ## Comments -/

/-- A line up to the mark of a comment, without blanks around it. -/
def uncomment (mark : Char) (line : List Char) : List Char :=
  trim (line.takeWhile (· ≠ mark))

theorem uncomment_of_plain {mark : Char} {line : List Char} (plain : mark ∉ line) :
    uncomment mark line = trim line := by
  have all : line.takeWhile (· ≠ mark) = line := by
    rw [List.takeWhile_eq_self_iff]
    intro character member
    rw [decide_eq_true_iff]
    exact ne_of_mem_of_not_mem member plain
  rw [uncomment, all]

theorem uncomment_append {mark : Char} {front : List Char} (plain : mark ∉ front)
    (comment : List Char) : uncomment mark (front ++ mark :: comment) = trim front := by
  have all : ∀ character ∈ front, decide (character ≠ mark) = true :=
    fun character member => decide_eq_true (ne_of_mem_of_not_mem member plain)
  rw [uncomment, List.takeWhile_append_of_pos all, List.takeWhile_cons_of_neg (by simp),
    List.append_nil]

theorem cleans_uncomment {mark : Char} (ends : mark ≠ '\r') : Cleans (uncomment mark) := by
  refine ⟨rfl, ?_⟩
  intro line
  rw [dropReturn]
  split_ifs with returns
  · obtain ⟨front, rfl⟩ := List.getLast?_eq_some_iff.mp returns
    rw [List.dropLast_concat]
    by_cases marked : mark ∈ front
    · obtain ⟨before, behind, rfl, absent⟩ := List.eq_append_cons_of_mem marked
      rw [List.append_assoc, List.cons_append, uncomment_append absent, uncomment_append absent]
    · have plain : mark ∉ front ++ ['\r'] := by simp [marked, ends]
      rw [uncomment_of_plain marked, uncomment_of_plain plain, trim_append_blank (by decide)]
  · rfl

/-- Where no line has a comment, its records are the trimmed lines. -/
theorem records_uncomment {mark : Char} (ends : mark ≠ '\r') (dark : isWhitespace mark = false)
    {text : List Char} (plain : ∀ record ∈ records trim text, mark ∉ record) :
    records (uncomment mark) text = records trim text := by
  rw [records_eq cleans_trim] at plain ⊢
  rw [records_eq (cleans_uncomment ends)]
  congr 1
  apply List.map_congr_left
  intro part member
  apply uncomment_of_plain
  intro marked
  have kept := mem_trim marked dark
  refine plain (trim part) ?_ kept
  rw [List.mem_filter]
  exact ⟨List.mem_map_of_mem member, decide_eq_true (List.ne_nil_of_mem kept)⟩

end Text
