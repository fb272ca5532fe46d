import Mathlib.Algebra.Ring.Nat
import Mathlib.Tactic.Common

/-!
# Sixty-four-bit machine arithmetic on naturals

Counters and lengths are naturals; the operations that a program performs on a machine word keep
their overflow behaviour here.
-/

namespace Machine

/-- Number of values of a machine word. -/
def wordSize : Nat := 2 ^ 64

theorem wordSize_pos : 0 < wordSize := by decide

/-- A machine word, as its value. -/
abbrev Word := Fin wordSize

/-- The word of a number, up to whole turns. -/
def Word.ofNat (value : Nat) : Word :=
  ⟨value % wordSize, Nat.mod_lt value wordSize_pos⟩

/-- Addition that fails when the sum does not fit a word. -/
def checkedAdd (left right : Nat) : Option Nat :=
  if left + right < wordSize then some (left + right) else none

/-- Addition that stops at the largest word. -/
def saturatingAdd (left right : Nat) : Nat :=
  min (left + right) (wordSize - 1)

/-- Multiplication that stops at the largest word. -/
def saturatingMul (left right : Nat) : Nat :=
  min (left * right) (wordSize - 1)

/-- Subtraction that fails below zero. -/
def checkedSub (left right : Nat) : Option Nat :=
  if right ≤ left then some (left - right) else none

/-- Addition as a counter performs it on words. -/
def wrappingAdd (left right : Nat) : Nat :=
  (left + right) % wordSize

/-- Subtraction as an unchecked build performs it on words. -/
def wrappingSub (left right : Nat) : Nat :=
  (left + wordSize - right) % wordSize

/-- Addition of words that fails when the sum does not fit a word. -/
def Word.checkedAdd (left : Word) (right : Nat) : Option Word :=
  if fits : right + left.val < wordSize then some ⟨right + left.val, fits⟩ else none

theorem Word.checkedAdd_eq_some {left sum : Word} {right : Nat} :
    left.checkedAdd right = some sum ↔ sum.val = left.val + right := by
  unfold Word.checkedAdd
  split_ifs with fits
  · simp only [Option.some.injEq, Fin.ext_iff]
    omega
  · simp only [false_iff]
    have := sum.isLt
    omega

theorem checkedAdd_eq_some {left right sum : Nat} :
    checkedAdd left right = some sum ↔ sum = left + right ∧ sum < wordSize := by
  unfold checkedAdd
  split_ifs with fits
  · simp only [Option.some.injEq]
    omega
  · simp only [false_iff]
    omega

theorem checkedAdd_eq_none {left right : Nat} :
    checkedAdd left right = none ↔ wordSize ≤ left + right := by
  unfold checkedAdd
  split_ifs with fits
  · simp only [false_iff]
    omega
  · simpa using fits

theorem checkedSub_eq_some {left right difference : Nat} :
    checkedSub left right = some difference ↔ left = right + difference := by
  unfold checkedSub
  split_ifs with fits
  · simp only [Option.some.injEq]
    omega
  · simp only [false_iff]
    omega

/-- A counter holds what has been added to it, up to whole turns. -/
theorem wrappingAdd_mod (left right : Nat) :
    wrappingAdd (left % wordSize) right = (left + right) % wordSize :=
  Nat.mod_add_mod left wordSize right

/-- A counter loses what is subtracted from it, up to whole turns. -/
theorem wrappingSub_mod {left right : Nat} (le : right ≤ left) (fits : right ≤ wordSize) :
    wrappingSub (left % wordSize) right = (left - right) % wordSize := by
  have turns := Nat.mod_add_div left wordSize
  have whole : left % wordSize + wordSize - right + wordSize * (left / wordSize) =
      left - right + wordSize := by omega
  rw [wrappingSub, ← Nat.add_mul_mod_self_left, whole, Nat.add_mod_right]

/-- Saturating additions one after the other stop where the whole sum would. -/
theorem saturatingAdd_min (left right : Nat) :
    saturatingAdd (min left (wordSize - 1)) right = min (left + right) (wordSize - 1) := by
  unfold saturatingAdd
  omega

/-- Without an underflow the unchecked subtraction is the exact one. -/
theorem wrappingSub_of_le {left right : Nat} (le : right ≤ left) (fits : left < wordSize) :
    wrappingSub left right = left - right := by
  unfold wrappingSub
  rw [show left + wordSize - right = left - right + wordSize by omega, Nat.add_mod_right,
    Nat.mod_eq_of_lt (by omega)]

/-! ## Powers of two -/

/-- The logarithm grows by one at each power of two, and nowhere else. -/
theorem log2_succ {value : Nat} (positive : 0 < value) :
    (value + 1).log2 = if (value + 1).isPowerOfTwo then value.log2 + 1 else value.log2 := by
  have nonzero : value ≠ 0 := Nat.pos_iff_ne_zero.mp positive
  have low := Nat.log2_self_le nonzero
  have high : value < 2 ^ (value.log2 + 1) := Nat.lt_log2_self
  split_ifs with power
  · obtain ⟨exponent, next⟩ := power
    have between : value.log2 < exponent := by
      by_contra beyond
      have := Nat.pow_le_pow_right (show 0 < 2 by decide) (Nat.le_of_not_lt beyond)
      omega
    have same := Nat.pow_le_pow_right (show 0 < 2 by decide) between
    rw [Nat.log2_eq_iff (Nat.succ_ne_zero value)]
    have double : 2 ^ (value.log2 + 1 + 1) = 2 ^ (value.log2 + 1) * 2 := Nat.pow_succ ..
    omega
  · rw [Nat.log2_eq_iff (Nat.succ_ne_zero value)]
    have other : value + 1 ≠ 2 ^ (value.log2 + 1) := fun next => power ⟨_, next⟩
    omega

/-- The number of powers of two up to a positive bound. -/
theorem countP_isPowerOfTwo {bound : Nat} (positive : 0 < bound) :
    (List.range bound).countP (fun value => (value + 1).isPowerOfTwo) = bound.log2 + 1 := by
  induction bound with
  | zero => cases positive
  | succ bound ih =>
      rw [List.range_succ, List.countP_append, List.countP_singleton]
      rcases Nat.eq_zero_or_pos bound with rfl | earlier
      · rfl
      · rw [ih earlier, log2_succ earlier]
        by_cases power : (bound + 1).isPowerOfTwo
        · rw [if_pos (decide_eq_true power), if_pos power]
        · rw [if_neg (mt of_decide_eq_true power), if_neg power]

end Machine
