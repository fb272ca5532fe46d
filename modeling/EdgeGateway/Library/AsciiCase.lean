import EdgeGateway.Library.Splitting
import EdgeGateway.Library.Text

/-!
# The case of ASCII letters

Lower case changes capital letters only, so it commutes with everything that treats the two cases
of a letter alike.
-/

namespace AsciiCase

theorem toNat_toLower (character : Char) :
    character.toLower.toNat =
      if 0x41 ≤ character.toNat ∧ character.toNat ≤ 0x5A then character.toNat + 0x20
      else character.toNat := by
  have bounds : ('A'.val ≤ character.val ∧ character.val ≤ 'Z'.val) ↔
      0x41 ≤ character.toNat ∧ character.toNat ≤ 0x5A := by
    rw [UInt32.le_iff_toNat_le, UInt32.le_iff_toNat_le]
    rfl
  unfold Char.toLower
  split_ifs with capital small small
  · change (character.val + ('a'.val - 'A'.val)).toNat = _
    rw [UInt32.toNat_add]
    change (character.toNat + 0x20) % 2 ^ 32 = _
    omega
  · exact absurd (bounds.mp capital) small
  · exact absurd (bounds.mpr small) capital
  · rfl

theorem toNat_toUpper (character : Char) :
    character.toUpper.toNat =
      if 0x61 ≤ character.toNat ∧ character.toNat ≤ 0x7A then character.toNat - 0x20
      else character.toNat := by
  have bounds : ('a'.val ≤ character.val ∧ character.val ≤ 'z'.val) ↔
      0x61 ≤ character.toNat ∧ character.toNat ≤ 0x7A := by
    rw [UInt32.le_iff_toNat_le, UInt32.le_iff_toNat_le]
    rfl
  unfold Char.toUpper
  split_ifs with small capital capital
  · have range := bounds.mp small
    change (character.val + ('A'.val - 'a'.val)).toNat = _
    have shift : ('A'.val - 'a'.val).toNat = 2 ^ 32 - 0x20 := by decide
    rw [UInt32.toNat_add, shift]
    change (character.toNat + (2 ^ 32 - 0x20)) % 2 ^ 32 = _
    omega
  · exact absurd (bounds.mp small) capital
  · exact absurd (bounds.mpr capital) small
  · rfl

@[simp] theorem toLower_toLower (character : Char) :
    character.toLower.toLower = character.toLower := by
  rw [← Char.toNat_inj, toNat_toLower character.toLower, toNat_toLower]
  split_ifs <;> omega

@[simp] theorem toUpper_toUpper (character : Char) :
    character.toUpper.toUpper = character.toUpper := by
  rw [← Char.toNat_inj, toNat_toUpper character.toUpper, toNat_toUpper]
  split_ifs <;> omega

/-- The character has no case. -/
def Caseless (character : Char) : Prop :=
  ¬(0x41 ≤ character.toNat ∧ character.toNat ≤ 0x5A) ∧
    ¬(0x61 ≤ character.toNat ∧ character.toNat ≤ 0x7A)

instance (character : Char) : Decidable (Caseless character) :=
  inferInstanceAs (Decidable (_ ∧ _))

theorem toLower_eq_iff {character other : Char} (caseless : Caseless other) :
    character.toLower = other ↔ character = other := by
  rw [← Char.toNat_inj, ← Char.toNat_inj, toNat_toLower]
  obtain ⟨upper, lower⟩ := caseless
  split_ifs with capital
  · omega
  · rfl

theorem toUpper_eq_iff {character other : Char} (caseless : Caseless other) :
    other.toUpper = character.toUpper ↔ other = character := by
  rw [← Char.toNat_inj, ← Char.toNat_inj, toNat_toUpper, toNat_toUpper]
  obtain ⟨upper, lower⟩ := caseless
  split_ifs <;> omega

theorem isAlpha_iff (character : Char) : character.isAlpha = true ↔ ¬Caseless character := by
  unfold Char.isAlpha Char.isUpper Char.isLower Caseless
  simp only [Bool.or_eq_true, Bool.and_eq_true, decide_eq_true_eq, ge_iff_le,
    UInt32.le_iff_toNat_le]
  rw [not_and_or, not_not, not_not]
  rfl

theorem ascii_toLower (character : Char) :
    character.toLower.toNat < 0x80 ↔ character.toNat < 0x80 := by
  rw [toNat_toLower]
  split_ifs <;> omega

theorem isAlphanum_iff (character : Char) :
    character.isAlphanum = true ↔ (0x41 ≤ character.toNat ∧ character.toNat ≤ 0x5A) ∨
      (0x61 ≤ character.toNat ∧ character.toNat ≤ 0x7A) ∨
      (0x30 ≤ character.toNat ∧ character.toNat ≤ 0x39) := by
  unfold Char.isAlphanum Char.isAlpha Char.isUpper Char.isLower Char.isDigit
  simp only [Bool.or_eq_true, Bool.and_eq_true, decide_eq_true_eq, ge_iff_le,
    UInt32.le_iff_toNat_le]
  exact or_assoc

@[simp] theorem isAlphanum_toLower (character : Char) :
    character.toLower.isAlphanum = character.isAlphanum := by
  rw [Bool.eq_iff_iff, isAlphanum_iff, isAlphanum_iff, toNat_toLower]
  split_ifs <;> omega

theorem isDigit_iff (character : Char) :
    character.isDigit = true ↔ 0x30 ≤ character.toNat ∧ character.toNat ≤ 0x39 := by
  simp only [Char.isDigit, Bool.and_eq_true, decide_eq_true_eq, ge_iff_le, UInt32.le_iff_toNat_le]
  rfl

/-- A digit is the only character with its lower case. -/
theorem eq_of_toLower_digit {character other : Char} (digit : character.isDigit = true)
    (same : character.toLower = other.toLower) : character = other := by
  have range := (isDigit_iff character).mp digit
  have caseless : Caseless character := ⟨by omega, by omega⟩
  have own : character.toLower = character := (toLower_eq_iff caseless).mpr rfl
  exact ((toLower_eq_iff caseless).mp (same.symm.trans own)).symm

/-! ## Texts -/

theorem map_toLower_toLower (text : List Char) :
    (text.map Char.toLower).map Char.toLower = text.map Char.toLower := by
  rw [List.map_map]
  exact List.map_congr_left fun character _ => toLower_toLower character

theorem splitOn_toLower {separator : Char} (caseless : Caseless separator) (text : List Char) :
    (text.map Char.toLower).splitOn separator =
      (text.splitOn separator).map (List.map Char.toLower) :=
  Splitting.splitOn_map (fun _ => toLower_eq_iff caseless) text

theorem splitOnce_toLower {separator : Char} (caseless : Caseless separator) (text : List Char) :
    Text.splitOnce separator (text.map Char.toLower) =
      (Text.splitOnce separator text).map fun parts =>
        (parts.1.map Char.toLower, parts.2.map Char.toLower) := by
  have other (character : Char) :
      decide (character.toLower ≠ separator) = decide (character ≠ separator) :=
    decide_eq_decide.mpr (not_congr (toLower_eq_iff caseless))
  have member : separator ∈ text.map Char.toLower ↔ separator ∈ text := by
    rw [List.mem_map]
    constructor
    · rintro ⟨character, inside, same⟩
      rwa [← (toLower_eq_iff caseless).mp same]
    · exact fun inside => ⟨separator, inside, (toLower_eq_iff caseless).mpr rfl⟩
  rw [Text.splitOnce, Text.splitOnce]
  by_cases inside : separator ∈ text
  · rw [if_pos (member.mpr inside), if_pos inside, Option.map_some, List.takeWhile_map,
      List.dropWhile_map, List.map_drop]
    simp only [Function.comp_def, other]
  · rw [if_neg (fun found => inside (member.mp found)), if_neg inside, Option.map_none]

end AsciiCase
