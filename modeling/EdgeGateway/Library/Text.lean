import Mathlib.Algebra.Ring.Nat
import Mathlib.Data.List.Basic

/-!
# Text as lists of characters

Blanks and control characters are those of Unicode; the case of letters is changed in ASCII only.
-/

namespace Text

/-- The White_Space property of Unicode. -/
def isWhitespace (character : Char) : Bool :=
  let code := character.toNat
  (0x09 ≤ code && code ≤ 0x0D) || code == 0x20 || code == 0x85 || code == 0xA0 || code == 0x1680 ||
    (0x2000 ≤ code && code ≤ 0x200A) || code == 0x2028 || code == 0x2029 || code == 0x202F ||
    code == 0x205F || code == 0x3000

/-- The control characters of Unicode. -/
def isControl (character : Char) : Bool :=
  character.toNat ≤ 0x1F || (0x7F ≤ character.toNat && character.toNat ≤ 0x9F)

/-- Drop blanks at both ends. -/
def trim (text : List Char) : List Char :=
  ((text.dropWhile isWhitespace).reverse.dropWhile isWhitespace).reverse

/-- The text before and after the first separator. -/
def splitOnce (separator : Char) (text : List Char) : Option (List Char × List Char) :=
  if separator ∈ text then
    some (text.takeWhile (· ≠ separator), (text.dropWhile (· ≠ separator)).drop 1)
  else
    none

theorem splitOnce_eq_none {separator : Char} {text : List Char} :
    splitOnce separator text = none ↔ separator ∉ text := by
  by_cases inside : separator ∈ text
  · simp [splitOnce, inside]
  · simp [splitOnce, inside]

theorem splitOnce_append {separator : Char} {front back : List Char} (absent : separator ∉ front) :
    splitOnce separator (front ++ separator :: back) = some (front, back) := by
  have other (character : Char) (member : character ∈ front) :
      decide (character ≠ separator) = true := by
    rw [decide_eq_true_iff]
    rintro rfl
    exact absent member
  rw [splitOnce, if_pos (List.mem_append_right _ List.mem_cons_self),
    List.takeWhile_append_of_pos other, List.dropWhile_append_of_pos other]
  simp

theorem splitOnce_eq_some {separator : Char} {text front back : List Char} :
    splitOnce separator text = some (front, back) ↔
      separator ∉ front ∧ text = front ++ separator :: back := by
  constructor
  · intro split
    have member : separator ∈ text := by
      by_contra absent
      cases (splitOnce_eq_none.mpr absent).symm.trans split
    obtain ⟨before, behind, rfl, absent⟩ := List.eq_append_cons_of_mem member
    rw [splitOnce_append absent] at split
    cases split
    exact ⟨absent, rfl⟩
  · intro both
    obtain ⟨absent, rfl⟩ := both
    exact splitOnce_append absent

/-- The number that decimal digits write, after those of `value`; it stays below `bound`. -/
def readDecimal (bound value : Nat) : List Char → Option Nat
  | [] => some value
  | character :: rest =>
      if character.isDigit ∧ value * 10 + (character.toNat - '0'.toNat) < bound then
        readDecimal bound (value * 10 + (character.toNat - '0'.toNat)) rest
      else
        none

/-- An unsigned number below `bound` that makes up the whole text, with an optional plus sign. -/
def parseUnsigned (bound : Nat) : List Char → Option Nat
  | [] => none
  | ['+'] => none
  | '+' :: digits => readDecimal bound 0 digits
  | digits => readDecimal bound 0 digits

theorem isDigit_of_readDecimal {bound value number : Nat} {text : List Char}
    (read : readDecimal bound value text = some number) {character : Char}
    (member : character ∈ text) : character.isDigit = true := by
  induction text generalizing value with
  | nil => cases member
  | cons first rest ih =>
      rw [readDecimal] at read
      split_ifs at read with digit
      rcases List.mem_cons.mp member with rfl | member
      · exact digit.1
      · exact ih read member

/-- A number is written with digits and perhaps a plus sign. -/
theorem digit_of_parseUnsigned {bound number : Nat} {text : List Char}
    (read : parseUnsigned bound text = some number) {character : Char}
    (member : character ∈ text) : character.isDigit = true ∨ character = '+' := by
  rw [parseUnsigned.eq_def] at read
  split at read
  · cases read
  · cases read
  · rcases List.mem_cons.mp member with rfl | member
    · exact .inr rfl
    · exact .inl (isDigit_of_readDecimal read member)
  · exact .inl (isDigit_of_readDecimal read member)

/-! ## Front and back -/

/-- What stands behind a front. -/
def stripPrefix (front text : String) : Option String :=
  if front.toList <+: text.toList then some (String.ofList (text.toList.drop front.toList.length))
  else none

/-- What stands before a back. -/
def stripSuffix (back text : String) : Option String :=
  if back.toList <:+ text.toList then
    some (String.ofList (text.toList.take (text.toList.length - back.toList.length)))
  else none

theorem stripPrefix_eq_some {front text rest : String} :
    stripPrefix front text = some rest ↔ text = front ++ rest := by
  rw [stripPrefix, ← String.toList_inj, String.toList_append]
  split_ifs with starts
  · obtain ⟨behind, same⟩ := starts
    rw [← same, List.drop_left, Option.some.injEq, List.append_cancel_left_eq, ← String.toList_inj,
      String.toList_ofList]
  · simp only [false_iff]
    exact fun same => starts ⟨rest.toList, same.symm⟩

theorem stripSuffix_eq_some {back text rest : String} :
    stripSuffix back text = some rest ↔ text = rest ++ back := by
  rw [stripSuffix, ← String.toList_inj, String.toList_append]
  split_ifs with ends
  · obtain ⟨before, same⟩ := ends
    rw [← same, List.length_append, Nat.add_sub_cancel, List.take_left, Option.some.injEq,
      List.append_cancel_right_eq, ← String.toList_inj, String.toList_ofList]
  · simp only [false_iff]
    exact fun same => ends ⟨rest.toList, same.symm⟩

end Text
