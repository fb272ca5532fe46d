import EdgeGateway.Library.AsciiCase

/-!
# The case of percent triplets

Two texts that differ in the case of hexadecimal digits only spell the same bytes.  A text in whose
triplets no digit is a letter has one spelling, and so has what starts with it.
-/

namespace TripletCase

/-- Hexadecimal digits of both cases. -/
def isHexDigit (character : Char) : Bool :=
  "0123456789ABCDEF".toList.contains character.toUpper

/-- Write the digits of every triplet as capitals. -/
def upperTriplets : List Char → List Char
  | [] => []
  | '%' :: second :: third :: rest =>
      if isHexDigit second && isHexDigit third then
        '%' :: second.toUpper :: third.toUpper :: upperTriplets rest
      else
        '%' :: upperTriplets (second :: third :: rest)
  | character :: rest => character :: upperTriplets rest

@[simp] theorem isHexDigit_toUpper (character : Char) :
    isHexDigit character.toUpper = isHexDigit character := by
  rw [isHexDigit, AsciiCase.toUpper_toUpper, isHexDigit]

theorem ne_percent_of_isHexDigit {character : Char} (digit : isHexDigit character = true) :
    character ≠ '%' := by
  rintro rfl
  exact absurd digit (by decide)

/-- The text starts with a percent sign and two digits. -/
def StartsTriplet (text : List Char) : Prop :=
  ∃ second third rest, text = '%' :: second :: third :: rest ∧ isHexDigit second = true ∧
    isHexDigit third = true

theorem upperTriplets_triplet {second third : Char} (second_digit : isHexDigit second = true)
    (third_digit : isHexDigit third = true) (rest : List Char) :
    upperTriplets ('%' :: second :: third :: rest) =
      '%' :: second.toUpper :: third.toUpper :: upperTriplets rest := by
  rw [upperTriplets, if_pos (by rw [second_digit, third_digit, Bool.and_self])]

theorem upperTriplets_cons {character : Char} {rest : List Char}
    (plain : ¬StartsTriplet (character :: rest)) :
    upperTriplets (character :: rest) = character :: upperTriplets rest := by
  by_cases long : ∃ second third tail, character = '%' ∧ rest = second :: third :: tail
  · obtain ⟨second, third, tail, rfl, rfl⟩ := long
    rw [upperTriplets, if_neg]
    rw [Bool.and_eq_true]
    exact fun digits => plain ⟨second, third, tail, rfl, digits⟩
  · rw [upperTriplets]
    intro second third tail start split
    exact long ⟨second, third, tail, start, split⟩

theorem not_startsTriplet {character : Char} (plain : character ≠ '%') (rest : List Char) :
    ¬StartsTriplet (character :: rest) := by
  rintro ⟨second, third, tail, split, _⟩
  exact plain (List.cons.inj split).1

/-- The first character stays. -/
theorem head?_upperTriplets (text : List Char) : (upperTriplets text).head? = text.head? := by
  fun_cases upperTriplets text with
  | case1 => rfl
  | case2 => rfl
  | case3 => rfl
  | case4 => rfl

/-- Texts that differ in the case of digits of triplets. -/
inductive Respelled : List Char → List Char → Prop
  | nil : Respelled [] []
  | same (character : Char) {left right : List Char} (rest : Respelled left right) :
      Respelled (character :: left) (character :: right)
  | triplet {second third other_second other_third : Char} {left right : List Char}
      (second_eq : second.toUpper = other_second.toUpper)
      (third_eq : third.toUpper = other_third.toUpper) (rest : Respelled left right) :
      Respelled ('%' :: second :: third :: left) ('%' :: other_second :: other_third :: right)

theorem Respelled.symm {left right : List Char} (respelled : Respelled left right) :
    Respelled right left := by
  induction respelled with
  | nil => exact .nil
  | same character _ ih => exact .same character ih
  | triplet second_eq third_eq _ ih => exact .triplet second_eq.symm third_eq.symm ih

/-- A digit that starts the capital text starts the text itself. -/
theorem eq_cons_of_upperTriplets {text rest : List Char} {digit : Char}
    (hex : isHexDigit digit = true) (upper : upperTriplets text = digit :: rest) :
    ∃ tail, text = digit :: tail ∧ upperTriplets tail = rest := by
  cases text with
  | nil => cases upper
  | cons first tail =>
      have same := congrArg List.head? upper
      rw [head?_upperTriplets, List.head?_cons, List.head?_cons, Option.some_inj] at same
      subst same
      rw [upperTriplets_cons (not_startsTriplet (ne_percent_of_isHexDigit hex) tail)] at upper
      exact ⟨tail, rfl, (List.cons.inj upper).2⟩

/-- A text whose capital text starts with a triplet starts with one. -/
theorem startsTriplet_of_upperTriplets {text rest : List Char} {second third : Char}
    (second_digit : isHexDigit second = true) (third_digit : isHexDigit third = true)
    (upper : upperTriplets text = '%' :: second :: third :: rest) : StartsTriplet text := by
  by_contra plain
  cases text with
  | nil => cases upper
  | cons first tail =>
      rw [upperTriplets_cons plain] at upper
      obtain ⟨rfl, behind⟩ := List.cons.inj upper
      obtain ⟨tail, rfl, further⟩ := eq_cons_of_upperTriplets second_digit behind
      obtain ⟨tail, rfl, _⟩ := eq_cons_of_upperTriplets third_digit further
      exact plain ⟨second, third, tail, rfl, second_digit, third_digit⟩

/-- Texts with the same capital text start with triplets alike. -/
theorem startsTriplet_congr {left right : List Char}
    (same : upperTriplets left = upperTriplets right) (starts : StartsTriplet left) :
    StartsTriplet right := by
  obtain ⟨second, third, rest, rfl, second_digit, third_digit⟩ := starts
  rw [upperTriplets_triplet second_digit third_digit] at same
  exact startsTriplet_of_upperTriplets ((isHexDigit_toUpper second).trans second_digit)
    ((isHexDigit_toUpper third).trans third_digit) same.symm

/-- Texts with the same capital text differ in the case of digits of triplets only. -/
theorem respelled_of_upperTriplets {left right : List Char}
    (same : upperTriplets left = upperTriplets right) : Respelled left right := by
  induction length : left.length using Nat.strong_induction_on generalizing left right with
  | _ size ih =>
      by_cases starts : StartsTriplet left
      · obtain
            ⟨other_second, other_third, other_rest, rfl, other_second_digit, other_third_digit⟩ :=
          startsTriplet_congr same starts
        obtain ⟨second, third, rest, rfl, second_digit, third_digit⟩ := starts
        rw [upperTriplets_triplet second_digit third_digit,
          upperTriplets_triplet other_second_digit other_third_digit] at same
        obtain ⟨_, same⟩ := List.cons.inj same
        obtain ⟨second_eq, same⟩ := List.cons.inj same
        obtain ⟨third_eq, same⟩ := List.cons.inj same
        apply Respelled.triplet second_eq third_eq
        apply ih rest.length _ same rfl
        rw [← length, List.length_cons, List.length_cons, List.length_cons]
        omega
      · have other_starts : ¬StartsTriplet right :=
          fun other => starts (startsTriplet_congr same.symm other)
        cases left with
        | nil =>
            cases right with
            | nil => exact .nil
            | cons other other_rest =>
                rw [upperTriplets_cons other_starts] at same
                cases same
        | cons character rest =>
            cases right with
            | nil =>
                rw [upperTriplets_cons starts] at same
                cases same
            | cons other other_rest =>
                rw [upperTriplets_cons starts, upperTriplets_cons other_starts] at same
                obtain ⟨rfl, behind⟩ := List.cons.inj same
                apply Respelled.same character
                apply ih rest.length _ behind rfl
                rw [← length, List.length_cons]
                omega

/-! ## Texts with one spelling -/

/-- Some triplet of the text has a letter. -/
def Lettered (text : List Char) : Prop :=
  ∃ front second third rest, text = front ++ '%' :: second :: third :: rest ∧
    (second.isAlpha = true ∨ third.isAlpha = true)

/-- Every percent sign of the text has two characters behind it. -/
def Whole (text : List Char) : Prop :=
  ∀ front rest, text = front ++ '%' :: rest → 2 ≤ rest.length

theorem Lettered.append {text : List Char} (front : List Char) (lettered : Lettered text) :
    Lettered (front ++ text) := by
  obtain ⟨before, second, third, rest, rfl, letter⟩ := lettered
  exact ⟨front ++ before, second, third, rest, (List.append_assoc _ _ _).symm, letter⟩

theorem Whole.of_append {front text : List Char} (whole : Whole (front ++ text)) : Whole text := by
  rintro before rest rfl
  exact whole (front ++ before) rest (List.append_assoc _ _ _).symm

/-- A character that is no letter is the only one with its capital. -/
theorem eq_of_toUpper {character other : Char} (plain : ¬character.isAlpha = true)
    (same : character.toUpper = other.toUpper) : character = other := by
  rw [AsciiCase.isAlpha_iff, not_not] at plain
  exact (AsciiCase.toUpper_eq_iff plain).mp same

theorem Respelled.length_eq {left right : List Char} (respelled : Respelled left right) :
    left.length = right.length := by
  induction respelled with
  | nil => rfl
  | same character _ ih => rw [List.length_cons, List.length_cons, ih]
  | triplet _ _ _ ih => simp only [List.length_cons, ih]

/-- A spelling of a text in two parts is one of each part, where no triplet spans both. -/
theorem Respelled.split {text left right : List Char} (respelled : Respelled (text ++ left) right)
    (whole : Whole text) :
    ∃ front rest, right = front ++ rest ∧ Respelled text front ∧ Respelled left rest := by
  generalize joined_eq : text ++ left = joined at respelled
  induction respelled generalizing text with
  | nil =>
      obtain ⟨rfl, rfl⟩ := List.append_eq_nil_iff.mp joined_eq
      exact ⟨[], [], rfl, .nil, .nil⟩
  | @same character joined right respelled ih =>
      cases text with
      | nil =>
          subst joined_eq
          exact ⟨[], character :: right, rfl, .nil, .same character respelled⟩
      | cons first text =>
          obtain ⟨rfl, behind⟩ := List.cons.inj joined_eq
          obtain ⟨front, rest, rfl, own, respelled_rest⟩ :=
            ih (@Whole.of_append [first] _ whole) behind
          exact ⟨first :: front, rest, rfl, .same first own, respelled_rest⟩
  | @triplet second third other_second other_third joined right second_eq third_eq respelled ih =>
      cases text with
      | nil =>
          subst joined_eq
          exact ⟨[], _, rfl, .nil, .triplet second_eq third_eq respelled⟩
      | cons first text =>
          obtain ⟨rfl, behind⟩ := List.cons.inj joined_eq
          -- The text goes on behind its percent sign, and so with the two digits.
          have long := whole [] text rfl
          obtain ⟨own_second, text, rfl⟩ := List.exists_cons_of_length_pos (Nat.zero_lt_of_lt long)
          rw [List.length_cons] at long
          obtain ⟨own_third, text, rfl⟩ :=
            List.exists_cons_of_length_pos (Nat.lt_of_succ_lt_succ long)
          obtain ⟨rfl, further⟩ := List.cons.inj behind
          obtain ⟨rfl, last⟩ := List.cons.inj further
          obtain ⟨front, rest, rfl, own, respelled_rest⟩ :=
            ih (@Whole.of_append ['%', own_second, own_third] _ whole) last
          exact ⟨_, rest, rfl, .triplet second_eq third_eq own, respelled_rest⟩

/-- A text with one spelling is the only one that is spelled like it. -/
theorem Respelled.eq_of_plain {left right : List Char} (respelled : Respelled left right)
    (plain : ¬Lettered left) : left = right := by
  induction respelled with
  | nil => rfl
  | same character _ ih => rw [ih fun lettered => plain (lettered.append [character])]
  | @triplet second third _ _ left _ second_eq third_eq _ ih =>
      have digits : ¬(second.isAlpha = true ∨ third.isAlpha = true) :=
        fun letter => plain ⟨[], second, third, left, rfl, letter⟩
      rw [not_or] at digits
      rw [eq_of_toUpper digits.1 second_eq, eq_of_toUpper digits.2 third_eq,
        ih fun lettered => plain (lettered.append ['%', second, third])]

/-- A text with one spelling starts all spellings of what it starts. -/
theorem Respelled.prefix_of_plain {text left right : List Char}
    (respelled : Respelled (text ++ left) right) (whole : Whole text) (plain : ¬Lettered text) :
    text <+: right := by
  obtain ⟨front, rest, rfl, own, _⟩ := respelled.split whole
  rw [own.eq_of_plain plain]
  exact List.prefix_append front rest

/-- Spellings that start with the same text go on with spellings of one another. -/
theorem Respelled.rest {text left right : List Char}
    (respelled : Respelled (text ++ left) (text ++ right)) (whole : Whole text) :
    Respelled left right := by
  obtain ⟨front, rest, same, own, respelled_rest⟩ := respelled.split whole
  rw [(List.append_inj same own.length_eq).2]
  exact respelled_rest

end TripletCase
