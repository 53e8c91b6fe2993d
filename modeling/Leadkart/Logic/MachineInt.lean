import Mathlib.Algebra.Group.Int.Defs
import Mathlib.Algebra.Group.Nat.Defs
import Mathlib.Data.Int.Basic

/-!
# Sixty-four-bit arithmetic that does not wrap
-/

namespace Leadkart.MachineInt

variable {a b : Int64}

theorem toInt_add_of_nonneg (ha : 0 ≤ a) (hs : 0 ≤ a + b) : (a + b).toInt = a.toInt + b.toInt := by
  have ha := Int64.le_iff_toInt_le.mp ha
  have hs := Int64.le_iff_toInt_le.mp hs
  have hl := Int64.toInt_lt a
  have hlt := Int64.toInt_lt b
  have hle := Int64.le_toInt b
  rw [Int64.toInt_zero] at ha hs
  rw [Int64.toInt_add, Int.bmod_def] at hs ⊢
  split at hs <;> split <;> omega

theorem add_nonneg_of_fits (ha : 0 ≤ a) (hb : 0 ≤ b)
    (hs : a.toInt + b.toInt < 2 ^ 63) : 0 ≤ a + b := by
  have ha := Int64.le_iff_toInt_le.mp ha
  have hb := Int64.le_iff_toInt_le.mp hb
  rw [Int64.toInt_zero] at ha hb
  rw [Int64.le_iff_toInt_le, Int64.toInt_zero, Int64.toInt_add, Int.bmod_eq_of_le]
  · omega
  · omega
  · omega

theorem toInt_sub_of_le (ha : 0 ≤ a) (hab : a ≤ b) : (b - a).toInt = b.toInt - a.toInt := by
  have ha := Int64.le_iff_toInt_le.mp ha
  have hab := Int64.le_iff_toInt_le.mp hab
  have hlt := Int64.toInt_lt b
  rw [Int64.toInt_zero] at ha
  rw [Int64.toInt_sub, Int.bmod_def]
  split <;> omega

theorem toInt_neg_of_nonneg (ha : 0 ≤ a) : (-a).toInt = -a.toInt := by
  have ha := Int64.le_iff_toInt_le.mp ha
  have hlt := Int64.toInt_lt a
  rw [Int64.toInt_zero] at ha
  rw [Int64.toInt_neg, Int.bmod_def]
  split <;> omega

theorem toInt_succ_iff (a : Int64) : (a + 1).toInt = a.toInt + 1 ↔ a.toInt + 1 < 2 ^ 63 := by
  have hle := Int64.le_toInt a
  constructor
  · intro h
    have hlt := Int64.toInt_lt (a + 1)
    omega
  · intro h
    rw [Int64.toInt_add, Int64.toInt_one, Int.bmod_def]
    split <;> omega

theorem toInt_succ (h : a ≠ Int64.maxValue) : (a + 1).toInt = a.toInt + 1 := by
  have hne : a.toInt ≠ 2 ^ 63 - 1 := by
    intro heq
    exact h (Int64.toInt_inj.mp (heq.trans Int64.toInt_maxValue.symm))
  have hlt := Int64.toInt_lt a
  exact (toInt_succ_iff a).mpr (by omega)

end Leadkart.MachineInt
