import Mathlib.Algebra.Order.BigOperators.Group.List
import Mathlib.Algebra.Order.Ring.Int
import Leadkart.Common.Tenancy
import Leadkart.Logic.MachineInt

/-!
# Orders and their totals
-/

namespace Leadkart

open List

namespace Quotation

def errInvalid : Sentinel := ⟨.unknown, "", "quotation: invalid"⟩

structure LineItem where
  (productID sku description : String)
  quantity : Int32
  (unitMrpPaise unitSalePaise : Int64)
  gstRateBps : Int32

def LineItem.validate (li : LineItem) : Except Err Unit :=
  if li.productID = "" then .error ⟨errInvalid, "line.product_id required"⟩
  else if li.sku = "" then .error ⟨errInvalid, "line.sku required"⟩
  else if li.quantity ≤ 0 then
    .error ⟨errInvalid, s!"line.quantity must be positive (got {li.quantity})"⟩
  else if li.unitSalePaise ≤ 0 then
    .error ⟨errInvalid, "line.unit_sale_paise must be positive"⟩
  else if 0 < li.unitMrpPaise ∧ li.unitMrpPaise < li.unitSalePaise then
    .error ⟨errInvalid, s!"line.unit_sale_paise ({li.unitSalePaise}) exceeds " ++
      s!"line.unit_mrp_paise ({li.unitMrpPaise})"⟩
  else if li.gstRateBps < 0 ∨ 10000 < li.gstRateBps then
    .error ⟨errInvalid, s!"line.gst_rate_bps must be 0..10000 (got {li.gstRateBps})"⟩
  else .ok ()

def validateItems (invalid : Sentinel) : Nat → List LineItem → Except Err Unit
  | _, [] => .ok ()
  | i, it :: items =>
    match it.validate with
    | .error e => .error ⟨invalid, s!"item[{i}]: " ++ e.sentinel.msg ++ ": " ++ e.detail⟩
    | .ok () => validateItems invalid (i + 1) items

structure LineItem.Sound (li : LineItem) : Prop where
  quantity : 0 < li.quantity.toInt
  unitSalePaise : 0 < li.unitSalePaise.toInt
  rate : 0 ≤ li.gstRateBps.toInt ∧ li.gstRateBps.toInt ≤ 10000

theorem LineItem.sound_of_validate {li : LineItem} (h : li.validate = .ok ()) : li.Sound := by
  simp only [validate, Effect.ite_error_eq_ok, not_or, not_and, Int32.not_le, Int64.not_le,
    Int32.not_lt] at h
  obtain ⟨-, -, hq, hs, -, ⟨hl, hh⟩, -⟩ := h
  exact ⟨Int32.lt_iff_toInt_lt.mp hq, Int64.lt_iff_toInt_lt.mp hs,
    Int32.le_iff_toInt_le.mp hl, Int32.le_iff_toInt_le.mp hh⟩

theorem validate_of_validateItems {invalid : Sentinel} {i : Nat} {items : List LineItem}
    (h : validateItems invalid i items = .ok ()) : ∀ it ∈ items, it.validate = .ok () := by
  induction items generalizing i with
  | nil => exact fun _ hit => nomatch hit
  | cons it items ih =>
    unfold validateItems at h
    split at h
    · cases h
    next hvalid => exact forall_mem_cons.mpr ⟨hvalid, ih h⟩

end Quotation

open Quotation

namespace Order

def errInvalid : Sentinel := ⟨.unknown, "", "order: invalid"⟩
def errInvalidTransition : Sentinel := ⟨.unknown, "", "order: invalid state transition"⟩

inductive State where
  | quotationDraft
  | quotationApproved
  | tokenPaid
  | confirmed
  | packed
  | invoiced
  | dispatched
  | delivered
  | complete
  | cancelled
  deriving DecidableEq

def State.string : State → String
  | quotationDraft => "quotation_draft"
  | quotationApproved => "quotation_approved"
  | tokenPaid => "token_paid"
  | confirmed => "confirmed"
  | packed => "packed"
  | invoiced => "invoiced"
  | dispatched => "dispatched"
  | delivered => "delivered"
  | complete => "complete"
  | cancelled => "cancelled"

inductive Event where
  | created (orderID tenantID approvedQuotationID customerLeadID : String) (grandTotalPaise : Int64)
      (createdAt : Time) (createdByMembershipID : String)
  | advanced (orderID tenantID : String) (priorState newState : State) (transitionedAt : Time)
      (transitionedByMembership : String)
  | cancelled (orderID tenantID : String) (priorState : State) (reason : String)
      (cancelledAt : Time) (cancelledByMembership : String)

structure NewInput where
  (id tenantID approvedQuotationID customerLeadID : String)
  confirmedItems : List LineItem
  createdByMembershipID : String
  now : Time

end Order

structure Order where
  (id tenantID approvedQuotationID customerLeadID : String)
  state : Order.State
  confirmedItems : List LineItem
  (subtotalPaise taxPaise grandTotalPaise : Int64)
  (invoiceID consignmentNoteID : String := "")
  (confirmedAt packedAt invoicedAt dispatchedAt deliveredAt completedAt cancelledAt
    : Option Time := none)
  cancellationReason : String := ""
  createdAt : Time
  createdByMembershipID : String
  events : List Order.Event := []

namespace Order

def lineSubtotal (it : LineItem) : Int64 := it.unitSalePaise * it.quantity.toInt64

def lineTax (it : LineItem) : Int64 := lineSubtotal it * it.gstRateBps.toInt64 / 10000

def computeTotals (items : List LineItem) : Int64 × Int64 × Int64 :=
  let sums := items.foldl (fun acc it => (acc.1 + lineSubtotal it, acc.2 + lineTax it)) (0, 0)
  (sums.1, sums.2, sums.1 + sums.2)

def new (input : NewInput) : Except Err Order :=
  if input.id = "" then .error ⟨errInvalid, "id required"⟩
  else if input.tenantID = "" then .error ⟨errInvalid, "tenant_id required"⟩
  else if input.approvedQuotationID = "" then
    .error ⟨errInvalid, "approved_quotation_id required"⟩
  else if input.customerLeadID = "" then .error ⟨errInvalid, "customer_lead_id required"⟩
  else if input.confirmedItems = [] then
    .error ⟨errInvalid, "confirmed_items must be non-empty"⟩
  else if input.createdByMembershipID = "" then
    .error ⟨errInvalid, "created_by_membership_id required"⟩
  else if input.now.isZero then .error ⟨errInvalid, "now required"⟩
  else do
    validateItems errInvalid 0 input.confirmedItems
    let (subtotal, tax, grand) := computeTotals input.confirmedItems
    return {
      id := input.id
      tenantID := input.tenantID
      approvedQuotationID := input.approvedQuotationID
      customerLeadID := input.customerLeadID
      state := .quotationApproved
      confirmedItems := input.confirmedItems
      subtotalPaise := subtotal
      taxPaise := tax
      grandTotalPaise := grand
      createdAt := input.now
      createdByMembershipID := input.createdByMembershipID
      events := [.created input.id input.tenantID input.approvedQuotationID input.customerLeadID
        grand input.now input.createdByMembershipID] }

variable {input : NewInput}

theorem new_eq_ok {o : Order} (h : new input = .ok o) :
    (∀ it ∈ input.confirmedItems, it.Sound) ∧ input.now ≠ 0 ∧
    (o.subtotalPaise, o.taxPaise, o.grandTotalPaise) = computeTotals input.confirmedItems ∧
    o.state = .quotationApproved := by
  simp only [new, Effect.ite_error_eq_ok] at h
  obtain ⟨-, -, -, -, -, -, hn, h⟩ := h
  obtain ⟨_, hitems, h⟩ := Effect.except_bind_ok h
  cases h
  refine ⟨fun it hit => LineItem.sound_of_validate (validate_of_validateItems hitems it hit), ?_,
    rfl, rfl⟩
  simpa [Time.isZero] using hn

/-! ## Exact totals -/

def exactSubtotal (it : LineItem) : Int := it.unitSalePaise.toInt * it.quantity.toInt

def exactTax (it : LineItem) : Int := exactSubtotal it * it.gstRateBps.toInt / 10000

structure ExactTotals (items : List LineItem) (o : Order) : Prop where
  subtotal : o.subtotalPaise.toInt = (items.map exactSubtotal).sum
  tax : o.taxPaise.toInt = (items.map exactTax).sum
  grandTotal : o.grandTotalPaise.toInt = o.subtotalPaise.toInt + o.taxPaise.toInt
  nonneg : 0 ≤ o.subtotalPaise ∧ 0 ≤ o.taxPaise ∧ 0 ≤ o.grandTotalPaise

theorem lineSubtotal_eq (it : LineItem) : lineSubtotal it = Int64.ofInt (exactSubtotal it) := by
  unfold lineSubtotal exactSubtotal
  rw [Int64.ofInt_mul, Int64.ofInt_toInt, Int64.ofInt_int32ToInt]

theorem tax_of_product {s x : Int} (hs : s < 2 ^ 63) (hx : 0 ≤ x) (hle : x ≤ s * 10000) :
    -s ≤ ((x.bmod (2 ^ 64)).tdiv 10000).bmod (2 ^ 64) ∧
    ((x.bmod (2 ^ 64)).tdiv 10000).bmod (2 ^ 64) ≤ x / 10000 ∧
    (((x.bmod (2 ^ 64)).tdiv 10000).bmod (2 ^ 64) < x / 10000 ↔ 2 ^ 63 ≤ x) := by
  have hl := Int.le_bmod (x := x) (m := 2 ^ 64) (by decide)
  have hh := Int.bmod_lt (x := x) (m := 2 ^ 64) (by decide)
  have hf : x < 2 ^ 63 → x.bmod (2 ^ 64) = x := fun h => Int.bmod_eq_of_le (by omega) (by omega)
  have hw : 2 ^ 63 ≤ x → x.bmod (2 ^ 64) ≤ x - 2 ^ 64 := by
    intro h
    have hm := Int.bmod_def x (2 ^ 64)
    split at hm <;> omega
  generalize x.bmod (2 ^ 64) = w at *
  have hd : w.tdiv 10000 * 10000 ≤ w + 9999 ∧ w - 9999 ≤ w.tdiv 10000 * 10000 ∧
      (0 ≤ w → w.tdiv 10000 = w / 10000) := by
    rw [Int.tdiv_eq_ediv, show Int.sign 10000 = 1 from rfl]
    split <;> omega
  generalize w.tdiv 10000 = t at *
  rw [Int.bmod_eq_of_le (by omega) (by omega)]
  refine ⟨by omega, ?_, ?_, ?_⟩ <;> omega

variable {it : LineItem}

theorem exactSubtotal_pos (h : it.Sound) : 0 < exactSubtotal it :=
  Int.mul_pos h.unitSalePaise h.quantity

theorem product_bounds (h : it.Sound) : 0 ≤ exactSubtotal it * it.gstRateBps.toInt ∧
    exactSubtotal it * it.gstRateBps.toInt ≤ exactSubtotal it * 10000 :=
  ⟨Int.mul_nonneg (Int.le_of_lt (exactSubtotal_pos h)) h.rate.1,
    Int.mul_le_mul_of_nonneg_left h.rate.2 (Int.le_of_lt (exactSubtotal_pos h))⟩

theorem lineTax_bounds (h : it.Sound) (hf : exactSubtotal it < 2 ^ 63) :
    -exactSubtotal it ≤ (lineTax it).toInt ∧ (lineTax it).toInt ≤ exactTax it ∧
    ((lineTax it).toInt < exactTax it ↔ 2 ^ 63 ≤ exactSubtotal it * it.gstRateBps.toInt) := by
  have hpo := exactSubtotal_pos h
  obtain ⟨hp, hb⟩ := product_bounds h
  have hl : (lineSubtotal it).toInt = exactSubtotal it := by
    rw [lineSubtotal_eq]
    exact Int64.toInt_ofInt_of_le (by omega) hf
  unfold lineTax exactTax
  rw [Int64.toInt_div, Int64.toInt_mul, hl, Int32.toInt_toInt64]
  exact tax_of_product hf hp hb

section Sums

variable {items : List LineItem} (hsound : ∀ it ∈ items, it.Sound)

include hsound

theorem exactSum_bounds : 0 ≤ (items.map exactSubtotal).sum ∧ 0 ≤ (items.map exactTax).sum ∧
    ∀ it ∈ items, exactSubtotal it ≤ (items.map exactSubtotal).sum := by
  have hp : ∀ n ∈ items.map exactSubtotal, 0 ≤ n := by
    simpa using fun it hit => Int.le_of_lt (exactSubtotal_pos (hsound it hit))
  have ht : ∀ n ∈ items.map exactTax, 0 ≤ n := by
    simpa [exactTax] using fun it hit =>
      Int.ediv_nonneg (product_bounds (hsound it hit)).1 (by decide : (0 : Int) ≤ 10000)
  exact ⟨sum_nonneg hp, sum_nonneg ht, fun it hit =>
    single_le_sum hp _ (mem_map_of_mem hit)⟩

theorem taxSum_bounds (hf : (items.map exactSubtotal).sum < 2 ^ 63) :
    -(items.map exactSubtotal).sum ≤ (items.map fun it => (lineTax it).toInt).sum ∧
    ((items.map fun it => (lineTax it).toInt).sum ≤ (items.map exactTax).sum) ∧
    ((items.map fun it => (lineTax it).toInt).sum = (items.map exactTax).sum ↔
    ∀ it ∈ items, exactSubtotal it * it.gstRateBps.toInt < 2 ^ 63) := by
  have hl : ∀ it ∈ items, exactSubtotal it < 2 ^ 63 := fun it hit =>
    Int.lt_of_le_of_lt ((exactSum_bounds hsound).2.2 it hit) hf
  have hle : ∀ it ∈ items, (lineTax it).toInt ≤ exactTax it := fun it hit =>
    (lineTax_bounds (hsound it hit) (hl it hit)).2.1
  refine ⟨?_, sum_le_sum hle, fun hs it hit => ?_, fun hp => ?_⟩
  · rw [sum_neg, map_map]
    exact sum_le_sum fun it hit => (lineTax_bounds (hsound it hit) (hl it hit)).1
  · by_contra hw
    have hlt := (lineTax_bounds (hsound it hit) (hl it hit)).2.2.mpr (Int.not_lt.mp hw)
    exact absurd hs (Int.ne_of_lt (sum_lt_sum _ _ hle ⟨it, hit, hlt⟩))
  · refine congrArg List.sum (map_congr_left fun it hit => ?_)
    have hi := (lineTax_bounds (hsound it hit) (hl it hit)).2.2
    have := hle it hit
    have := hp it hit
    omega

end Sums

theorem computeTotals_eq (items : List LineItem) : computeTotals items =
    (Int64.ofInt (items.map exactSubtotal).sum,
    Int64.ofInt (items.map fun it => (lineTax it).toInt).sum,
    Int64.ofInt ((items.map exactSubtotal).sum +
    (items.map fun it => (lineTax it).toInt).sum)) := by
  have hs : ∀ s t : Int64,
      items.foldl (fun acc it => (acc.1 + lineSubtotal it, acc.2 + lineTax it)) (s, t) =
        (s + Int64.ofInt (items.map exactSubtotal).sum,
          t + Int64.ofInt (items.map fun it => (lineTax it).toInt).sum) := by
    induction items with
    | nil => simp
    | cons it items ih =>
      intro s t
      rw [List.foldl_cons, ih]
      simp [Int64.ofInt_add, lineSubtotal_eq, Int64.add_assoc]
  unfold computeTotals
  simp only [hs, Int64.zero_add, Int64.ofInt_add]

theorem totals_exact_iff {o : Order} (h : new input = .ok o) : ExactTotals input.confirmedItems o ↔
    (∀ it ∈ input.confirmedItems, exactSubtotal it * it.gstRateBps.toInt < 2 ^ 63) ∧
    (input.confirmedItems.map exactSubtotal).sum + (input.confirmedItems.map exactTax).sum <
    2 ^ 63 := by
  obtain ⟨hsound, -, hto, -⟩ := new_eq_ok h
  rw [computeTotals_eq, Prod.mk.injEq, Prod.mk.injEq] at hto
  obtain ⟨hsu, hta, hgr⟩ := hto
  obtain ⟨hS, hT, hl⟩ := exactSum_bounds hsound
  have hb := taxSum_bounds hsound
  constructor
  · rintro ⟨hs, ht, hg, -⟩
    have hlt := Int64.toInt_lt o.grandTotalPaise
    have hlt' := Int64.toInt_lt o.subtotalPaise
    obtain ⟨hm, hle, hi⟩ := hb (by omega)
    refine ⟨hi.mp ?_, by omega⟩
    -- what the taxes are short of is less than `2 ^ 64`, so it does not vanish by wrapping
    rw [hta, Int64.toInt_ofInt, show Int64.size = 2 ^ 64 from rfl] at ht
    have hmo := Int.bmod_def (input.confirmedItems.map fun it => (lineTax it).toInt).sum (2 ^ 64)
    split at hmo <;> omega
  · rintro ⟨hp, hg⟩
    rw [(hb (by omega)).2.2.mpr hp] at hta hgr
    have he : ∀ n : Int, 0 ≤ n → n < 2 ^ 63 → (Int64.ofInt n).toInt = n := fun n h0 hlt =>
      Int64.toInt_ofInt_of_le (by omega) hlt
    have hs := he _ hS (by omega)
    have ht := he _ hT (by omega)
    have hsm := he _ (by omega) hg
    rw [← hsu] at hs
    rw [← hta] at ht
    rw [← hgr] at hsm
    refine ⟨hs, ht, by omega, ?_⟩
    simp only [Int64.le_iff_toInt_le, Int64.toInt_zero]
    omega

def sampleInput (unitSalePaise : Int64) : NewInput where
  id := "o1"
  tenantID := "t1"
  approvedQuotationID := "q1"
  customerLeadID := "l1"
  confirmedItems := [⟨"p1", "PARA-500", "Paracetamol", 1000000, 0, unitSalePaise, 1800⟩]
  createdByMembershipID := "m1"
  now := 1

def twoLines : NewInput :=
  { sampleInput 1000 with
    confirmedItems := ⟨"p2", "AMOX-250", "Amoxicillin", 3, 0, 999, 1200⟩ ::
      (sampleInput 1000).confirmedItems }

theorem totals_exact_below : ∃ o, new twoLines = .ok o ∧ ExactTotals twoLines.confirmedItems o :=
  ⟨_, rfl, (totals_exact_iff rfl).mpr ⟨by decide, by decide⟩⟩

theorem totals_wrap : ∃ o, new (sampleInput 10000000000) = .ok o ∧ o.taxPaise = -44674407370955 ∧
    ¬ExactTotals (sampleInput 10000000000).confirmedItems o :=
  ⟨_, rfl, by decide, fun h => absurd h.nonneg.2.1 (by decide)⟩

end Order

end Leadkart
