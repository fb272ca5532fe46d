import Mathlib.Algebra.BigOperators.Fin
import Mathlib.Order.Interval.Finset.Fin

/-!
# Dividing a total into equal shares

The first shares take one more each until the remainder is used up.
-/

namespace Shares

/-- The share of one part. -/
def share (total parts part : Nat) : Nat :=
  total / parts + if part < total % parts then 1 else 0

/-- The shares make up the total. -/
theorem sum_share {parts : Nat} (positive : 0 < parts) (total : Nat) :
    ∑ part : Fin parts, share total parts part = total := by
  have small : total % parts ≤ parts := Nat.le_of_lt (Nat.mod_lt total positive)
  have remainder : ∑ part : Fin parts, (if part.val < total % parts then 1 else 0) =
      total % parts := by
    rw [Finset.sum_boole, Fin.card_filter_val_lt, Nat.cast_id, Nat.min_eq_right small]
  simp only [share, Finset.sum_add_distrib, Finset.sum_const, Finset.card_univ, Fintype.card_fin,
    smul_eq_mul, remainder]
  exact Nat.div_add_mod total parts

end Shares
