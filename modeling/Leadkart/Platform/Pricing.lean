import Leadkart.Logic.MachineInt
import Leadkart.Platform.PlatformLead
import Mathlib.Tactic.Linarith

/-!
# The price of a purchase
-/

namespace Leadkart.PlatformLead

def exactDiscount (shares package : Int) : Int := min 5000 (min 3000 (500 * shares) + max 0 package)

def exactPrice (base shares package : Int) : Int :=
  max 1 (base * (10000 - exactDiscount shares package) / 10000)

def DiscountFits (shares package : Int64) : Prop :=
  500 * shares.toInt < 2 ^ 63 ∧ min 3000 (500 * shares.toInt) + max 0 package.toInt < 2 ^ 63

def PriceFits (base shares package : Int64) : Prop :=
  base.toInt * (10000 - exactDiscount shares.toInt package.toInt) < 2 ^ 63

def price (base shares package : Int64) : Int :=
  (computePurchasePricePaisa base shares.toInt package.toInt).toInt

theorem exactDiscount_bounds {shares : Int} (h : 0 ≤ shares) (package : Int) :
    0 ≤ exactDiscount shares package ∧ exactDiscount shares package ≤ 5000 := by
  unfold exactDiscount
  omega

theorem exactDiscount_mono {shares s package package' : Int} (hs : shares ≤ s)
    (hp : package ≤ package') : exactDiscount shares package ≤ exactDiscount s package' := by
  unfold exactDiscount
  omega

theorem exactPrice_bounds {base shares : Int} (hb : 1 ≤ base) (h : 0 ≤ shares) (package : Int) :
    max 1 (base / 2) ≤ exactPrice base shares package ∧ exactPrice base shares package ≤ base := by
  obtain ⟨hl, hh⟩ := exactDiscount_bounds h package
  unfold exactPrice
  generalize exactDiscount shares package = t at hl hh
  have hha : base * 5000 ≤ base * (10000 - t) := by nlinarith
  have hf : base * (10000 - t) ≤ base * 10000 := by nlinarith
  omega

theorem exactPrice_mono {base b shares s package p : Int} (hb : b ≤ base)
    (hba : 1 ≤ b) (h : 0 ≤ shares) (hs : shares ≤ s) (hp : package ≤ p) :
    exactPrice b s p ≤ exactPrice base shares package := by
  have ht := exactDiscount_mono hs hp
  obtain ⟨-, hh⟩ := exactDiscount_bounds (h.trans hs) p
  unfold exactPrice
  generalize exactDiscount shares package = t at ht
  generalize exactDiscount s p = t' at ht hh
  have hsc : b * (10000 - t') ≤ base * (10000 - t) := by nlinarith
  omega

section

variable {base shares package : Int64}

theorem tdiv_of_nonpos {n : Int} (h : n ≤ 0) : n ≤ n.tdiv 10000 ∧ n.tdiv 10000 ≤ 0 := by
  have hn := Int.neg_tdiv (a := -n) (b := 10000)
  rw [Int.neg_neg, Int.tdiv_eq_ediv_of_nonneg (a := -n) (by omega)] at hn
  omega

theorem toInt_ite_cap (cap a : Int64) :
    (if cap < a then cap else a).toInt = min cap.toInt a.toInt := by
  split
  next h =>
    have h := Int64.lt_iff_toInt_lt.mp h
    omega
  next h =>
    have h := Int64.le_iff_toInt_le.mp (Int64.not_lt.mp h)
    omega

theorem toInt_ite_floor (a : Int64) : (if a < 0 then 0 else a).toInt = max 0 a.toInt := by
  split
  next h =>
    have h := Int64.lt_iff_toInt_lt.mp h
    rw [Int64.toInt_zero] at h ⊢
    omega
  next h =>
    have h := Int64.le_iff_toInt_le.mp (Int64.not_lt.mp h)
    rw [Int64.toInt_zero] at h
    omega

theorem toInt_totalDiscountBps (h : 0 ≤ shares.toInt) (hf : DiscountFits shares package) :
    (totalDiscountBps shares package).toInt = exactDiscount shares.toInt package.toInt := by
  obtain ⟨hv, hs⟩ := hf
  have hm : (shares * volumeDiscountBpsPerShare).toInt = 500 * shares.toInt := by
    rw [Int64.toInt_mul, show volumeDiscountBpsPerShare.toInt = 500 from rfl, Int.bmod_eq_of_le] <;>
      omega
  unfold totalDiscountBps exactDiscount
  simp only [toInt_ite_cap, Int64.toInt_add, toInt_ite_floor, hm,
    show volumeDiscountBpsCap.toInt = 3000 from rfl, show totalDiscountBpsCap.toInt = 5000 from rfl]
  rw [Int.bmod_eq_of_le] <;> omega

theorem price_eq_of_discount (hb : 1 ≤ base.toInt) (h : 0 ≤ shares.toInt)
    (hf : DiscountFits shares package) : price base shares package = max 1 (((base.toInt *
    (10000 - exactDiscount shares.toInt package.toInt)).bmod (2 ^ 64)).tdiv 10000) := by
  have hp : ¬ base ≤ 0 := by
    rw [Int64.le_iff_toInt_le, Int64.toInt_zero]
    omega
  obtain ⟨hl, hh⟩ := exactDiscount_bounds h package.toInt
  have hr : (bpsDenominator - totalDiscountBps shares package).toInt =
      10000 - exactDiscount shares.toInt package.toInt := by
    rw [Int64.toInt_sub, toInt_totalDiscountBps h hf,
      show bpsDenominator.toInt = 10000 from rfl, Int.bmod_eq_of_le] <;> omega
  have hq : (base * (bpsDenominator - totalDiscountBps shares package) / bpsDenominator).toInt =
      ((base.toInt * (10000 - exactDiscount shares.toInt package.toInt)).bmod (2 ^ 64)).tdiv
        10000 := by
    rw [Int64.toInt_div, Int64.toInt_mul, hr, show bpsDenominator.toInt = 10000 from rfl]
    have hle := Int.le_bmod (x := base.toInt *
      (10000 - exactDiscount shares.toInt package.toInt)) (m := 2 ^ 64) (by decide)
    have hlt := Int.bmod_lt (x := base.toInt *
      (10000 - exactDiscount shares.toInt package.toInt)) (m := 2 ^ 64) (by decide)
    generalize (base.toInt * (10000 - exactDiscount shares.toInt package.toInt)).bmod (2 ^ 64) = n
      at hle hlt ⊢
    rcases Int.le_total 0 n with hn | hn
    · rw [Int.tdiv_eq_ediv_of_nonneg hn, Int.bmod_eq_of_le] <;> omega
    · have hq := tdiv_of_nonpos hn
      rw [Int.bmod_eq_of_le] <;> omega
  unfold price computePurchasePricePaisa
  rw [if_neg hp, Int64.ofInt_toInt, Int64.ofInt_toInt]
  dsimp only
  rw [← hq]
  split
  next hlt =>
    have hlt := Int64.lt_iff_toInt_lt.mp hlt
    rw [Int64.toInt_one] at hlt ⊢
    omega
  next hge =>
    have hge := Int64.le_iff_toInt_le.mp (Int64.not_lt.mp hge)
    rw [Int64.toInt_one] at hge
    omega

theorem price_eq_iff (hb : 1 ≤ base.toInt) (h : 0 ≤ shares.toInt)
    (hf : DiscountFits shares package) :
    price base shares package = exactPrice base.toInt shares.toInt package.toInt ↔
    PriceFits base shares package := by
  obtain ⟨-, hh⟩ := exactDiscount_bounds h package.toInt
  rw [price_eq_of_discount hb h hf]
  unfold exactPrice PriceFits
  have hs : 1 ≤ base.toInt * (10000 - exactDiscount shares.toInt package.toInt) := by nlinarith
  generalize base.toInt * (10000 - exactDiscount shares.toInt package.toInt) = n at hs ⊢
  constructor
  · intro heq
    by_contra hbig
    -- the wrapped product is smaller by a multiple of `2 ^ 64`
    obtain ⟨k, hk⟩ : ∃ k, n.bmod (2 ^ 64) = n - 2 ^ 64 * k :=
      ⟨Int.bdiv n (2 ^ 64), by have := Int.bmod_add_bdiv n (2 ^ 64); omega⟩
    have hlt := Int.bmod_lt (x := n) (m := 2 ^ 64) (by decide)
    rcases Int.le_total 0 (n.bmod (2 ^ 64)) with hn | hn
    · rw [Int.tdiv_eq_ediv_of_nonneg hn] at heq
      omega
    · have hq := tdiv_of_nonpos hn
      omega
  · intro hsm
    rw [Int.bmod_eq_of_le (by omega) (by omega), Int.tdiv_eq_ediv_of_nonneg (by omega)]

end

theorem price_law (base shares package : Int64) (hbase : 1 ≤ base.toInt) (h : 0 ≤ shares.toInt)
    (hfits : DiscountFits shares package) :
    (price base shares package = exactPrice base.toInt shares.toInt package.toInt ↔
    PriceFits base shares package) ∧ (PriceFits base shares package →
    max 1 (base.toInt / 2) ≤ price base shares package ∧ price base shares package ≤ base.toInt ∧
    ∀ base' shares' package' : Int64, 1 ≤ base'.toInt → base' ≤ base → shares ≤ shares' →
    package ≤ package' → DiscountFits shares' package' → PriceFits base' shares' package' →
    price base' shares' package' ≤ price base shares package) := by
  have he := price_eq_iff hbase h hfits
  refine ⟨he, fun hpr => ?_⟩
  rw [he.mpr hpr]
  obtain ⟨hl, hh⟩ := exactPrice_bounds hbase h package.toInt
  refine ⟨hl, hh, fun base' shares' package' hbase' hb hs hp hfits' hpr' => ?_⟩
  have hs := Int64.le_iff_toInt_le.mp hs
  rw [(price_eq_iff hbase' (h.trans hs) hfits').mpr hpr']
  exact exactPrice_mono (Int64.le_iff_toInt_le.mp hb) hbase' h hs (Int64.le_iff_toInt_le.mp hp)

theorem price_law_bronze : price 50000 3 0 = exactPrice 50000 3 0 :=
  (price_law 50000 3 0 (by decide) (by decide) ⟨by decide, by decide⟩).1.mpr
    (by unfold PriceFits; decide)

theorem price_overflow : ¬ ∀ base shares package : Int64, 1 ≤ base.toInt → 0 ≤ shares.toInt →
    price base shares package = exactPrice base.toInt shares.toInt package.toInt ∧
    max 1 (base.toInt / 2) ≤ price base shares package := by
  intro h
  exact absurd (h Int64.maxValue 0 0 (by decide) (by decide)).2 (by decide +kernel)

end Leadkart.PlatformLead
