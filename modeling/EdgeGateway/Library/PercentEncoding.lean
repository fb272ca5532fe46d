import Mathlib.Tactic.Common
import Mathlib.Data.List.Infix

/-!
# Percent-encoded byte strings

A decoder that replaces each complete `%XY` triplet by its byte, and the byte strings in which
every percent sign starts a complete triplet of a permitted value.  On these strings decoding is
a concatenation morphism; when a byte is neither permitted nor written by a digit, decoding cannot
create it, so it commutes with splitting there.
-/

namespace PercentEncoding

/-- The percent sign. -/
def percent : UInt8 := 0x25

/-- Value of an ASCII hexadecimal digit. -/
def hexDigit (byte : UInt8) : Option Nat :=
  if 0x30 ≤ byte ∧ byte ≤ 0x39 then some (byte.toNat - 0x30)
  else if 0x41 ≤ byte ∧ byte ≤ 0x46 then some (byte.toNat - 0x37)
  else if 0x61 ≤ byte ∧ byte ≤ 0x66 then some (byte.toNat - 0x57)
  else none

/-- Byte written by a pair of digit values. -/
def tripletValue (high low : Nat) : UInt8 :=
  UInt8.ofNat (high * 16 + low)

/-- Replace every complete triplet by its byte and keep all other bytes. -/
def percentDecode : List UInt8 → List UInt8
  | [] => []
  | [first] => [first]
  | [first, second] => [first, second]
  | first :: second :: third :: rest =>
      if first = percent then
        match hexDigit second, hexDigit third with
        | some high, some low => tripletValue high low :: percentDecode rest
        | _, _ => first :: percentDecode (second :: third :: rest)
      else
        first :: percentDecode (second :: third :: rest)

/-- Every percent sign starts a complete triplet whose value is permitted. -/
inductive Encoded (permitted : UInt8 → Prop) : List UInt8 → Prop
  | nil : Encoded permitted []
  | raw {byte : UInt8} {rest : List UInt8} (plain : byte ≠ percent)
      (encoded : Encoded permitted rest) : Encoded permitted (byte :: rest)
  | triplet {second third : UInt8} {high low : Nat} {rest : List UInt8}
      (high_eq : hexDigit second = some high) (low_eq : hexDigit third = some low)
      (allowed : permitted (tripletValue high low)) (encoded : Encoded permitted rest) :
      Encoded permitted (percent :: second :: third :: rest)

@[simp] theorem percentDecode_nil : percentDecode [] = [] := by
  rw [percentDecode]

theorem percentDecode_raw {byte : UInt8} (plain : byte ≠ percent) (rest : List UInt8) :
    percentDecode (byte :: rest) = byte :: percentDecode rest := by
  match rest with
  | [] => simp [percentDecode]
  | [_] => simp [percentDecode]
  | _ :: _ :: _ => rw [percentDecode, if_neg plain]

theorem percentDecode_triplet {second third : UInt8} {high low : Nat}
    (high_eq : hexDigit second = some high) (low_eq : hexDigit third = some low)
    (rest : List UInt8) :
    percentDecode (percent :: second :: third :: rest) =
      tripletValue high low :: percentDecode rest := by
  rw [percentDecode, if_pos rfl, high_eq, low_eq]

theorem ascii_of_hexDigit {byte : UInt8} (digit : (hexDigit byte).isSome = true) : byte < 0x80 := by
  simp only [hexDigit, UInt8.le_iff_toNat_le] at digit
  rw [UInt8.lt_iff_toNat_lt]
  split_ifs at digit with decimal upper lower
  · exact Nat.lt_of_le_of_lt decimal.2 (by decide)
  · exact Nat.lt_of_le_of_lt upper.2 (by decide)
  · exact Nat.lt_of_le_of_lt lower.2 (by decide)
  · cases digit

theorem hexDigit_ne_percent {byte : UInt8} {value : Nat} (digit : hexDigit byte = some value) :
    byte ≠ percent := by
  rintro rfl
  simp [hexDigit, percent] at digit

namespace Encoded

variable {permitted : UInt8 → Prop}

theorem append {left right : List UInt8} (leftEncoded : Encoded permitted left)
    (rightEncoded : Encoded permitted right) : Encoded permitted (left ++ right) := by
  induction leftEncoded with
  | nil => exact rightEncoded
  | raw plain _ ih => exact .raw plain ih
  | triplet high_eq low_eq allowed _ ih => exact .triplet high_eq low_eq allowed ih

/-- Joining encoded parts with a plain separator keeps the whole encoded. -/
theorem intercalate {separator : UInt8} (plain : separator ≠ percent)
    {parts : List (List UInt8)} (encoded : ∀ part ∈ parts, Encoded permitted part) :
    Encoded permitted ([separator].intercalate parts) := by
  induction parts with
  | nil => exact .nil
  | cons part parts ih =>
      have first := encoded part (List.mem_cons_self ..)
      have rest := ih fun part member => encoded part (List.mem_cons_of_mem _ member)
      cases parts with
      | nil => simpa using first
      | cons next parts =>
          rw [List.intercalate_cons_cons]
          exact (first.append (.raw plain .nil)).append rest

/-- Every percent sign of an encoded string is followed by two digits. -/
theorem digits_follow {bytes front rest : List UInt8} (encoded : Encoded permitted bytes)
    (split : bytes = front ++ percent :: rest) :
    ∃ second third tail, rest = second :: third :: tail ∧
      (hexDigit second).isSome ∧ (hexDigit third).isSome := by
  induction encoded generalizing front with
  | nil => simp at split
  | raw plain _ ih =>
      cases front with
      | nil => exact absurd (List.cons.inj split).1 plain
      | cons _ front => exact ih (List.cons.inj split).2
  | @triplet second third high low tail high_eq low_eq allowed _ ih =>
      cases front with
      | nil =>
          obtain rfl := (List.cons.inj split).2
          exact ⟨second, third, tail, rfl, by simp [high_eq], by simp [low_eq]⟩
      | cons _ front =>
          -- Neither digit of the triplet is itself a percent sign.
          have plainSecond := hexDigit_ne_percent high_eq
          have plainThird := hexDigit_ne_percent low_eq
          match front with
          | [] => exact absurd (List.cons.inj (List.cons.inj split).2).1 plainSecond
          | [_] =>
              have inner := (List.cons.inj (List.cons.inj split).2).2
              exact absurd (List.cons.inj inner).1 plainThird
          | _ :: _ :: front =>
              exact ih (List.cons.inj (List.cons.inj (List.cons.inj split).2).2).2

/-- A decoded byte was either written plainly or is permitted as a triplet. -/
theorem mem_decode {bytes : List UInt8} (encoded : Encoded permitted bytes) {byte : UInt8}
    (member : byte ∈ percentDecode bytes) :
    (byte ∈ bytes ∧ byte ≠ percent) ∨ permitted byte := by
  induction encoded with
  | nil => simp at member
  | raw plain _ ih =>
      rw [percentDecode_raw plain] at member
      rcases List.mem_cons.mp member with rfl | member
      · exact Or.inl ⟨List.mem_cons_self .., plain⟩
      · rcases ih member with ⟨member, ne⟩ | allowed
        · exact Or.inl ⟨List.mem_cons_of_mem _ member, ne⟩
        · exact Or.inr allowed
  | triplet high_eq low_eq allowed _ ih =>
      rw [percentDecode_triplet high_eq low_eq] at member
      rcases List.mem_cons.mp member with rfl | member
      · exact Or.inr allowed
      · rcases ih member with ⟨member, ne⟩ | allowed
        · exact Or.inl ⟨by simp [member], ne⟩
        · exact Or.inr allowed

/-- Decoding to bytes that no triplet may write changes nothing. -/
theorem decode_eq_self {bytes : List UInt8} (encoded : Encoded permitted bytes)
    (unwritten : ∀ byte ∈ percentDecode bytes, ¬permitted byte) : percentDecode bytes = bytes := by
  induction encoded with
  | nil => rw [percentDecode_nil]
  | raw plain _ ih =>
      rw [percentDecode_raw plain] at unwritten ⊢
      rw [ih fun byte member => unwritten byte (List.mem_cons_of_mem _ member)]
  | triplet high_eq low_eq allowed _ _ =>
      rw [percentDecode_triplet high_eq low_eq] at unwritten
      exact absurd allowed (unwritten _ (List.mem_cons_self ..))

/-- A decoded string without percent signs is its own decoding. -/
theorem decode_decode {bytes : List UInt8} (encoded : Encoded permitted bytes)
    (unescaped : ¬permitted percent) :
    percentDecode (percentDecode bytes) = percentDecode bytes := by
  have plain : ∀ decoded : List UInt8, (∀ byte ∈ decoded, byte ≠ percent) →
      percentDecode decoded = decoded := by
    intro decoded plain
    induction decoded with
    | nil => rw [percentDecode_nil]
    | cons byte decoded ih =>
        rw [percentDecode_raw (plain byte (List.mem_cons_self ..)),
          ih fun byte member => plain byte (List.mem_cons_of_mem _ member)]
  apply plain
  intro byte member
  rcases encoded.mem_decode member with ⟨_, ne⟩ | allowed
  · exact ne
  · rintro rfl
    exact unescaped allowed

/-- Decoding commutes with splitting at a byte that neither triplets nor digits write. -/
theorem splitOn_decode {bytes : List UInt8} (encoded : Encoded permitted bytes)
    {separator : UInt8} (plain : separator ≠ percent) (unwritten : ¬permitted separator)
    (no_digit : hexDigit separator = none) :
    (percentDecode bytes).splitOn separator = (bytes.splitOn separator).map percentDecode := by
  induction encoded with
  | nil => simp
  | @raw byte rest byte_plain _ ih =>
      rw [percentDecode_raw byte_plain, List.splitOn_cons_eq_if_modifyHead,
        List.splitOn_cons_eq_if_modifyHead, ih]
      split_ifs
      · simp
      · cases rest.splitOn separator with
        | nil => rfl
        | cons head tail => simp [percentDecode_raw byte_plain]
  | @triplet second third high low rest high_eq low_eq allowed _ ih =>
      have second_ne : second ≠ separator := by
        rintro rfl
        simp [no_digit] at high_eq
      have third_ne : third ≠ separator := by
        rintro rfl
        simp [no_digit] at low_eq
      have value_ne : tripletValue high low ≠ separator := by
        rintro rfl
        exact unwritten allowed
      rw [percentDecode_triplet high_eq low_eq]
      simp only [List.splitOn_cons_eq_if_modifyHead, beq_iff_eq, second_ne, third_ne, value_ne,
        plain.symm, if_false, ih]
      cases rest.splitOn separator with
      | nil => rfl
      | cons head tail => simp [percentDecode_triplet high_eq low_eq]

end Encoded

end PercentEncoding
