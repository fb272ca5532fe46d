import Mathlib.Tactic.Common

/-!
# Saturating arithmetic on signed integers of sixty-four bits

Sums and differences stop at the two ends of the range, and conversions to and from unsigned
integers fail where the other range ends.
-/

namespace SignedInteger

/-- The integer of the range that is closest. -/
def clamp (value : Int) : Int64 :=
  .ofInt (max (-9223372036854775808) (min value 9223372036854775807))

def saturatingAdd (left right : Int64) : Int64 :=
  clamp (left.toInt + right.toInt)

def saturatingSub (left right : Int64) : Int64 :=
  clamp (left.toInt - right.toInt)

/-- The same number without a sign, unless it is negative. -/
def toUnsigned (value : Int64) : Option UInt64 :=
  if 0 ≤ value.toInt then some (.ofNat value.toInt.toNat) else none

/-- The same number with a sign, unless it is too large. -/
def ofUnsigned (value : UInt64) : Option Int64 :=
  if value.toNat < 9223372036854775808 then some (.ofInt value.toNat) else none

theorem range (value : Int64) :
    -9223372036854775808 ≤ value.toInt ∧ value.toInt ≤ 9223372036854775807 := by
  have low := value.le_toInt
  have high := value.toInt_lt
  omega

theorem toInt_clamp (value : Int) :
    (clamp value).toInt = max (-9223372036854775808) (min value 9223372036854775807) := by
  rw [clamp, Int64.toInt_ofInt_of_le]
  · omega
  · omega

theorem clamp_mono {left right : Int} (le : left ≤ right) : clamp left ≤ clamp right := by
  rw [Int64.le_iff_toInt_le, toInt_clamp, toInt_clamp]
  omega

/-- A conversion that stops at the largest number of the range. -/
theorem getD_ofUnsigned (value : UInt64) :
    (ofUnsigned value).getD Int64.maxValue = clamp value.toNat := by
  apply Int64.toInt.inj
  rw [toInt_clamp, ofUnsigned]
  split_ifs with small
  · rw [Option.getD_some, Int64.toInt_ofInt_of_le]
    · omega
    · omega
    · omega
  · rw [Option.getD_none, Int64.toInt_maxValue]
    omega

/-- A difference shrinks as more is taken away. -/
theorem saturatingSub_anti {value fewer more : Int64} (le : fewer ≤ more) :
    saturatingSub value more ≤ saturatingSub value fewer := by
  rw [Int64.le_iff_toInt_le] at le
  exact clamp_mono (by omega)

/-- A number that is not negative loses nothing with its sign. -/
theorem toUnsigned_of_nonneg (value : Int64) (nonneg : 0 ≤ value.toInt) :
    ∃ unsigned, toUnsigned value = some unsigned ∧ (unsigned.toNat : Int) = value.toInt := by
  have ⟨_, high⟩ := range value
  refine ⟨.ofNat value.toInt.toNat, if_pos nonneg, ?_⟩
  rw [UInt64.toNat_ofNat_of_lt' (by unfold UInt64.size; omega), Int.toNat_of_nonneg nonneg]

/-- A number of the signed range keeps its value with a sign. -/
theorem ofUnsigned_of_lt (value : UInt64) (small : value.toNat < 9223372036854775808) :
    ∃ signed, ofUnsigned value = some signed ∧ signed.toInt = value.toNat := by
  refine ⟨.ofInt value.toNat, if_pos small, ?_⟩
  rw [Int64.toInt_ofInt_of_le]
  · omega
  · omega

end SignedInteger
