import Mathlib.Algebra.Group.Nat.Defs
import Mathlib.Data.List.TakeWhile

/-!
# Printed numbers
-/

namespace Leadkart

/-- `%0wd`, and with width `0` the plain decimal. -/
def pad (w : Nat) (n : Int) : List Char :=
  if n < 0 then '-' :: (Nat.toDigits 10 n.natAbs).leftpad (w - 1) '0'
  else (Nat.toDigits 10 n.natAbs).leftpad w '0'

variable {w n : Nat}

theorem pad_natCast : pad w n = List.replicate (w - (Nat.toDigits 10 n).length) '0' ++
    Nat.toDigits 10 n := by
  simp [pad, List.leftpad, Int.not_lt.mpr (Int.natCast_nonneg n)]

theorem isDigit_pad {c : Char} (h : c ∈ pad w n) : c.isDigit = true := by
  rw [pad_natCast, List.mem_append, List.mem_replicate] at h
  rcases h with ⟨-, rfl⟩ | h
  · rfl
  · exact Nat.isDigit_of_mem_toDigits (by decide) (by decide) h

theorem ofDigitChars_pad : Nat.ofDigitChars 10 (pad w n) 0 = n := by
  rw [pad_natCast, Nat.ofDigitChars_append, Nat.ofDigitChars_replicate_zero, Nat.mul_zero,
    Nat.ofDigitChars_ten_toDigits]

theorem length_pad (hw : 0 < w) (h : n < 10 ^ w) : (pad w n).length = w := by
  have hle := (Nat.length_toDigits_le_iff (by decide : 1 < 10) hw).mpr h
  rw [pad_natCast, List.length_append, List.length_replicate]
  omega

/-- The text before the first separator, and what follows it. -/
theorem append_sep_inj {α : Type} [DecidableEq α] {sep : α} {x x' z z' : List α} (hx : sep ∉ x)
    (hx' : sep ∉ x') (h : x ++ sep :: z = x' ++ sep :: z') : x = x' ∧ z = z' := by
  have hh (y t : List α) (hy : sep ∉ y) : (y ++ sep :: t).takeWhile (· ≠ sep) = y := by
    rw [List.takeWhile_append_of_pos fun a ha => decide_eq_true (ne_of_mem_of_not_mem ha hy)]
    simp
  have hxx : x = x' := by rw [← hh x z hx, h, hh x' z' hx']
  subst hxx
  exact ⟨rfl, by simpa using h⟩

end Leadkart
