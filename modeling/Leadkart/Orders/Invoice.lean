import Leadkart.Orders.Order

/-!
# Invoices
-/

namespace Leadkart

open Effect

namespace InvoiceNumber

inductive Kind where
  | invoice
  | creditNote
  | cancellationNote
  deriving DecidableEq

def Kind.string : Kind → String
  | invoice => "invoice"
  | creditNote => "credit_note"
  | cancellationNote => "cancellation_note"

structure Number where
  kind : Option Kind
  financialYear : String
  seq : Int64
  deriving DecidableEq

end InvoiceNumber

open Quotation InvoiceNumber

namespace Invoice

def errInvalid : Sentinel := ⟨.unknown, "", "invoice: invalid"⟩

structure TaxLine where
  hsnCode : String
  gstRateBps : Int32
  (taxableValuePaise taxAmountPaise : Int64)

def TaxLine.validate (tl : TaxLine) : Except Err Unit :=
  if isBlank tl.hsnCode then .error ⟨errInvalid, "tax_line.hsn_code required"⟩
  else if tl.gstRateBps < 0 ∨ 10000 < tl.gstRateBps then
    .error ⟨errInvalid, s!"tax_line.gst_rate_bps must be 0..10000 (got {tl.gstRateBps})"⟩
  else if tl.taxableValuePaise < 0 then
    .error ⟨errInvalid, "tax_line.taxable_value_paise must be >= 0"⟩
  else if tl.taxAmountPaise < 0 then
    .error ⟨errInvalid, "tax_line.tax_amount_paise must be >= 0"⟩
  else .ok ()

def validateTaxLines : Nat → List TaxLine → Except Err Unit
  | _, [] => .ok ()
  | i, tl :: taxLines =>
    match tl.validate with
    | .error e => .error ⟨errInvalid, s!"tax_line[{i}]: " ++ e.sentinel.msg ++ ": " ++ e.detail⟩
    | .ok () => validateTaxLines (i + 1) taxLines

end Invoice

structure Invoice where
  (id tenantID orderID : String)
  number : Number
  lineItems : List LineItem
  taxLines : List Invoice.TaxLine
  (subtotalPaise taxPaise grandTotalPaise : Int64)
  issuedAt : Time
  issuedByMembershipID : String

namespace Invoice

def new (input : Invoice) : Except Err Invoice :=
  if input.id = "" then .error ⟨errInvalid, "id required"⟩
  else if input.tenantID = "" then .error ⟨errInvalid, "tenant_id required"⟩
  else if input.orderID = "" then .error ⟨errInvalid, "order_id required"⟩
  else if input.number.kind = none then
    .error ⟨errInvalid, "invoice_number required (allocate via invoicenumber.Allocator)"⟩
  else if input.number.kind ≠ some .invoice then
    .error ⟨errInvalid, "invoice_number.kind must be " ++ Kind.invoice.string ++ " (got " ++
      stringFromPg (input.number.kind.map Kind.string) ++ ")"⟩
  else if input.lineItems = [] then .error ⟨errInvalid, "line_items must be non-empty"⟩
  else do
    validateItems errInvalid 0 input.lineItems
    validateTaxLines 0 input.taxLines
    if input.subtotalPaise < 0 then .error ⟨errInvalid, "subtotal_paise must be >= 0"⟩
    else if input.taxPaise < 0 then .error ⟨errInvalid, "tax_paise must be >= 0"⟩
    else if input.grandTotalPaise < 0 then .error ⟨errInvalid, "grand_total_paise must be >= 0"⟩
    else if input.grandTotalPaise ≠ input.subtotalPaise + input.taxPaise then
      .error ⟨errInvalid, s!"grand_total_paise ({input.grandTotalPaise}) must equal " ++
        s!"subtotal ({input.subtotalPaise}) + tax ({input.taxPaise})"⟩
    else if input.issuedAt.isZero then .error ⟨errInvalid, "issued_at required"⟩
    else if input.issuedByMembershipID = "" then
      .error ⟨errInvalid, "issued_by_membership_id required"⟩
    else return input

variable {input inv : Invoice}

theorem new_eq_ok (h : new input = .ok inv) :
    inv = input ∧ 0 ≤ input.subtotalPaise ∧ 0 ≤ input.taxPaise ∧ 0 ≤ input.grandTotalPaise ∧
    input.grandTotalPaise = input.subtotalPaise + input.taxPaise := by
  simp only [new, ite_error_eq_ok] at h
  obtain ⟨-, -, -, -, -, -, h⟩ := h
  simp only [except_bind_eq_ok] at h
  obtain ⟨_, _, _, _, h⟩ := h
  simp only [ite_error_eq_ok, Int64.not_lt, not_not] at h
  obtain ⟨hs, ht, hg, hsu, -, -, h⟩ := h
  exact ⟨(Except.ok.inj h).symm, hs, ht, hg, hsu⟩

structure AddsUp (inv : Invoice) : Prop where
  distinct : (inv.taxLines.map fun tl => (tl.hsnCode, tl.gstRateBps)).Nodup
  taxable : (inv.taxLines.map fun tl => tl.taxableValuePaise.toInt).sum = inv.subtotalPaise.toInt
  taxes : (inv.taxLines.map fun tl => tl.taxAmountPaise.toInt).sum = inv.taxPaise.toInt
  items : (inv.lineItems.map fun it => it.unitSalePaise.toInt * it.quantity.toInt).sum =
    inv.subtotalPaise.toInt

structure Consistent (inv : Invoice) : Prop extends AddsUp inv where
  grandTotal : inv.grandTotalPaise.toInt = inv.subtotalPaise.toInt + inv.taxPaise.toInt

/-- `new` checks the lines one by one and never adds them up. -/
theorem new_lines (h : new input = .ok inv) {items : List LineItem} {taxLines : List TaxLine}
    (hne : items ≠ []) (hi : validateItems errInvalid 0 items = .ok ())
    (ht : validateTaxLines 0 taxLines = .ok ()) :
    ∃ inv', new { input with lineItems := items, taxLines } = .ok inv' := by
  simp only [new, ite_error_eq_ok, except_bind_eq_ok] at h
  obtain ⟨h₁, h₂, h₃, h₄, h₅, -, _, -, _, -, h₆, h₇, h₈, h₉, h₁₀, h₁₁, -⟩ := h
  refine ⟨{ input with lineItems := items, taxLines }, ?_⟩
  simp only [new, ite_error_eq_ok, except_bind_eq_ok]
  exact ⟨h₁, h₂, h₃, h₄, h₅, hne, (), hi, (), ht, h₆, h₇, h₈, h₉, h₁₀, h₁₁, rfl⟩

theorem consistent_iff (h : new input = .ok inv) : (inv.Consistent ↔ input.AddsUp) ∧
    ∀ items taxLines, items ≠ [] → validateItems errInvalid 0 items = .ok () →
    validateTaxLines 0 taxLines = .ok () →
    ∃ inv', new { input with lineItems := items, taxLines } = .ok inv' := by
  refine ⟨?_, fun _ _ => new_lines h⟩
  obtain ⟨rfl, hs, ht, hg, hsu⟩ := new_eq_ok h
  refine ⟨Consistent.toAddsUp, fun ha => ⟨ha, ?_⟩⟩
  rw [hsu] at hg ⊢
  exact MachineInt.toInt_add_of_nonneg hs hg

def sampleInvoice (taxLines : List TaxLine) : Invoice where
  id := "i1"
  tenantID := "t1"
  orderID := "o1"
  number := ⟨some .invoice, "2026-27", 1⟩
  lineItems := [⟨"p1", "PARA-500", "Paracetamol", 10, 0, 1000, 1200⟩]
  taxLines := taxLines
  subtotalPaise := 10000
  taxPaise := 1200
  grandTotalPaise := 11200
  issuedAt := 1
  issuedByMembershipID := "m1"

theorem consistent_with_breakdown :
    ∃ inv, new (sampleInvoice [⟨"3004", 1200, 10000, 1200⟩]) = .ok inv ∧ inv.Consistent := by
  have hn : new (sampleInvoice [⟨"3004", 1200, 10000, 1200⟩]) = .ok _ := rfl
  refine ⟨_, hn, (consistent_iff hn).1.mpr ?_⟩
  constructor <;> decide

theorem accepted_without_tax_lines :
    ∃ inv, new (sampleInvoice []) = .ok inv ∧ inv.taxLines = [] ∧ inv.taxPaise = 1200 ∧
    ¬inv.Consistent := ⟨_, rfl, rfl, rfl, fun h => absurd h.taxes (by decide)⟩

end Invoice

end Leadkart
