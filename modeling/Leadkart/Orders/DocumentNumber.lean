import Leadkart.Common.Decimal
import Leadkart.Orders.Invoice

/-!
# Document numbers
-/

namespace Leadkart.InvoiceNumber

def errInvalid : Sentinel := ⟨.unknown, "", "invoicenumber: invalid"⟩

def Kind.displayPrefix : Kind → String
  | invoice => "INV"
  | creditNote => "CDN"
  | cancellationNote => "CN"

def new (k fy : String) (seq : Int64) : Except Err Number :=
  match [Kind.invoice, .creditNote, .cancellationNote].find? fun kind => kind.string = k with
  | none => .error ⟨errInvalid, "kind " ++ k ++ " not in catalogue"⟩
  | some kind =>
    if fy = "" then .error ⟨errInvalid, "financial year required"⟩
    else if seq ≤ 0 then .error ⟨errInvalid, s!"seq must be positive (got {seq})"⟩
    else .ok ⟨some kind, fy, seq⟩

def Number.string (n : Number) : String :=
  match n.kind with
  | none => ""
  | some k => k.displayPrefix ++ "/" ++ n.financialYear ++ "/" ++ .ofList (pad 5 n.seq.toInt)

theorem toList_string (kind : Kind) (fy : String) (seq : Int64) :
    (Number.string ⟨some kind, fy, seq⟩).toList =
    kind.displayPrefix.toList ++ '/' :: (fy.toList ++ '/' :: pad 5 seq.toInt) := by
  simp [Number.string]

variable {k fy : String} {seq : Int64} {n : Number}

theorem new_eq_ok (h : new k fy seq = .ok n) :
    ∃ kind, n = ⟨some kind, fy, seq⟩ ∧ kind.string = k ∧ 0 < seq.toInt := by
  unfold new at h
  split at h
  · cases h
  next kind hk =>
    simp only [Effect.ite_error_eq_ok] at h
    obtain ⟨-, hs, h⟩ := h
    cases h
    have hp := Int64.lt_iff_toInt_lt.mp (Int64.not_le.mp hs)
    exact ⟨kind, rfl, by simpa using List.find?_some hk, hp⟩

/-- No separator stands in front of the first slash or behind the last one, whatever the financial
year is made of. -/
theorem string_injective {k' fy' : String} {seq' : Int64} {n' : Number}
    (h : new k fy seq = .ok n) (h' : new k' fy' seq' = .ok n') (heq : n.string = n'.string) :
    k = k' ∧ fy = fy' ∧ seq = seq' := by
  obtain ⟨kind, rfl, rfl, hs⟩ := new_eq_ok h
  obtain ⟨kind', rfl, rfl, hs'⟩ := new_eq_ok h'
  obtain ⟨m, hm⟩ := Int.eq_ofNat_of_zero_le hs.le
  obtain ⟨m', hm'⟩ := Int.eq_ofNat_of_zero_le hs'.le
  have hse (kind : Kind) : '/' ∉ kind.displayPrefix.toList := by cases kind <;> decide
  have hd (m : Nat) : '/' ∉ (pad 5 m).reverse := fun hme =>
    absurd (isDigit_pad (List.mem_reverse.mp hme)) (by decide)
  have ht := congrArg String.toList heq
  rw [toList_string, toList_string, hm, hm'] at ht
  obtain ⟨hk, hr⟩ := append_sep_inj (hse kind) (hse kind') ht
  -- the last separator is the first one of the text read backwards
  have hb := congrArg List.reverse hr
  simp only [List.reverse_append, List.reverse_cons, List.append_assoc, List.singleton_append] at hb
  obtain ⟨hn, hy⟩ := append_sep_inj (hd m) (hd m') hb
  refine ⟨?_, String.toList_inj.mp (List.reverse_inj.mp hy), Int64.toInt_inj.mp ?_⟩
  · cases kind <;> cases kind' <;> first | rfl | cases hk
  · have hv := congrArg (Nat.ofDigitChars 10 · 0) (List.reverse_inj.mp hn)
    rw [ofDigitChars_pad, ofDigitChars_pad] at hv
    rw [hm, hm', hv]

theorem string_injective_sample : (Number.mk (some .invoice) "a/1" 7).string ≠
    (Number.mk (some .invoice) "a" 17).string := by
  intro heq
  have hf : new "invoice" "a/1" 7 = .ok ⟨some .invoice, "a/1", 7⟩ := by decide
  have hs : new "invoice" "a" 17 = .ok ⟨some .invoice, "a", 17⟩ := by decide
  exact absurd (string_injective hf hs heq).2.1 (by decide)

end Leadkart.InvoiceNumber
