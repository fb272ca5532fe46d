import EdgeGateway.Library.MachineInteger
import Mathlib.Logic.Basic

/-!
# Prefixes of words

The first bits of a word are its most significant ones.  A mask of leading ones compares exactly
the prefixes of two words.
-/

namespace BitPrefix

variable {width length : Nat}

/-- The first bits of two words are the same. -/
def Agree (length : Nat) (left right : BitVec width) : Prop :=
  ∀ index < length, left.getMsbD index = right.getMsbD index

/-- The word has no bit behind its prefix. -/
def Ends (length : Nat) (word : BitVec width) : Prop :=
  ∀ index, length ≤ index → word.getMsbD index = false

/-- The mask has exactly the bits of a prefix. -/
def IsMask (length : Nat) (mask : BitVec width) : Prop :=
  ∀ index < width, mask.getMsbD index = decide (index < length)

theorem isMask_zero : IsMask 0 (0 : BitVec width) := by
  intro index _
  simp

/-- Shifting a word of ones leaves a prefix of ones. -/
theorem isMask_shiftLeft (fits : length ≤ width) :
    IsMask length (BitVec.allOnes width <<< (width - length)) := by
  intro index inside
  rw [BitVec.getMsbD_shiftLeft, BitVec.getMsbD_allOnes]
  congr 1
  rw [eq_iff_iff]
  omega

variable {mask word : BitVec width}

/-- A masked word has the bits of the prefix and no others. -/
theorem IsMask.getMsbD_and (isMask : IsMask length mask) (word : BitVec width) (index : Nat) :
    (word &&& mask).getMsbD index = (decide (index < length) && word.getMsbD index) := by
  rw [BitVec.getMsbD_and]
  by_cases inside : index < width
  · rw [isMask index inside, Bool.and_comm]
  · rw [BitVec.getMsbD_of_ge word index (Nat.le_of_not_lt inside), Bool.false_and, Bool.and_false]

theorem eq_of_getMsbD {left right : BitVec width}
    (same : ∀ index, left.getMsbD index = right.getMsbD index) : left = right :=
  BitVec.eq_of_getMsbD_eq fun index _ => same index

/-- A mask keeps a word exactly when the word has no bit behind the prefix. -/
theorem IsMask.and_eq_self (isMask : IsMask length mask) :
    word &&& mask = word ↔ Ends length word := by
  constructor
  · intro kept index behind
    rw [← kept, isMask.getMsbD_and, decide_eq_false (Nat.not_lt.mpr behind), Bool.false_and]
  · intro ends
    apply eq_of_getMsbD
    intro index
    rw [isMask.getMsbD_and]
    by_cases inside : index < length
    · rw [decide_eq_true inside, Bool.true_and]
    · rw [decide_eq_false inside, Bool.false_and, ends index (Nat.le_of_not_lt inside)]

/-- Masked words are compared by their prefixes. -/
theorem IsMask.and_eq (isMask : IsMask length mask) {network : BitVec width}
    (ends : Ends length network) (word : BitVec width) :
    word &&& mask = network ↔ Agree length word network := by
  constructor
  · intro same index inside
    rw [← same, isMask.getMsbD_and, decide_eq_true inside, Bool.true_and]
  · intro agree
    apply eq_of_getMsbD
    intro index
    rw [isMask.getMsbD_and]
    by_cases inside : index < length
    · rw [decide_eq_true inside, Bool.true_and, agree index inside]
    · rw [decide_eq_false inside, Bool.false_and, ends index (Nat.le_of_not_lt inside)]

/-! ## Shifts that must not overflow -/

/-- A left shift that fails when it shifts the whole word out. -/
def checkedShiftLeft (word : BitVec width) (amount : Nat) : Option (BitVec width) :=
  if amount < width then some (word <<< amount) else none

/-- The mask of a prefix, computed without overflow. -/
def checkedMask (width length : Nat) : Option (BitVec width) :=
  if length = 0 then some 0
  else (Machine.checkedSub width length).bind (checkedShiftLeft (BitVec.allOnes width))

theorem checkedMask_of_pos (positive : length ≠ 0) (fits : length ≤ width) :
    checkedMask width length = some (BitVec.allOnes width <<< (width - length)) := by
  have difference : Machine.checkedSub width length = some (width - length) :=
    Machine.checkedSub_eq_some.mpr (Nat.add_sub_of_le fits).symm
  have short : width - length < width :=
    Nat.sub_lt (Nat.lt_of_lt_of_le (Nat.pos_of_ne_zero positive) fits) (Nat.pos_of_ne_zero positive)
  rw [checkedMask, if_neg positive, difference, Option.bind_some, checkedShiftLeft, if_pos short]

end BitPrefix
