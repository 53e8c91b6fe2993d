import Leadkart.Common.Pattern
import Leadkart.Platform.UnverifiedContact

/-!
# The lead form
-/

namespace Leadkart

open Effect

/-! ## Catalogues -/

def ofText {α : Type} (all : List α) (string : α → String) (raw : String) : Option α :=
  all.find? fun a => string a = raw

namespace BusinessType

def string : BusinessType → String
  | pcd => "PCD"
  | thirdParty => "ThirdParty"

def parse : String → Option BusinessType := ofText [pcd, thirdParty] string

@[simp] theorem parse_string (b : BusinessType) : parse b.string = some b := by
  cases b <;> decide

end BusinessType

namespace MedicineSystem

def string : MedicineSystem → String
  | allopathic => "Allopathic"
  | ayurvedic => "Ayurvedic"

def parse : String → Option MedicineSystem := ofText [allopathic, ayurvedic] string

@[simp] theorem parse_string (m : MedicineSystem) : parse m.string = some m := by
  cases m <;> decide

end MedicineSystem

namespace OrderValue

def string : OrderValue → String
  | below5000 => "Below5000"
  | upto25000 => "Upto25000"
  | upto50000 => "Upto50000"
  | above50000 => "Above50000"

def parse : String → Option OrderValue :=
  ofText [below5000, upto25000, upto50000, above50000] string

@[simp] theorem parse_string (o : OrderValue) : parse o.string = some o := by
  cases o <;> decide

end OrderValue

namespace BuyTimeline

def string : BuyTimeline → String
  | withinWeek => "WithinWeek"
  | within15Days => "Within15Days"
  | withinMonth => "WithinMonth"

def parse : String → Option BuyTimeline := ofText [withinWeek, within15Days, withinMonth] string

@[simp] theorem parse_string (t : BuyTimeline) : parse t.string = some t := by
  cases t <;> decide

end BuyTimeline

namespace LeadForm

def errInvalid : Sentinel := ⟨.unknown, "", "leadform: invalid"⟩

open Pattern in
def mobilePattern : Pattern := [lit '+', lit '9', lit '1'] ++ List.replicate 10 digit

open Pattern in
def pincodePattern : Pattern := List.replicate 6 digit

open Pattern in
def gstPattern : Pattern :=
  List.replicate 2 digit ++ List.replicate 5 upper ++ List.replicate 4 digit ++
    [upper, upperOrDigit, lit 'Z', upperOrDigit]

open Pattern in
def panPattern : Pattern := List.replicate 5 upper ++ List.replicate 4 digit ++ [upper]

structure Input where
  (contactName mobileE164 : String)
  email : String := ""
  (pincode city district state : String)
  street : String := ""
  (hasDrugLicence hasGst : Bool := false)
  gstNumber : String := ""
  hasPan : Bool := false
  panNumber : String := ""
  (businessType medicineSystem : String)
  (productRanges dosageForms : List String := [])
  (orderValue buyTimeline : String)

def invalid (detail : String) : Err := ⟨errInvalid, detail⟩

def require (ok : Bool) (detail : String) : Except Err Unit :=
  if ok then .ok () else .error (invalid detail)

def requireSome {α : Type} (value : Option α) (detail : String) : Except Err α :=
  match value with
  | some a => .ok a
  | none => .error (invalid detail)

def checkNumber (name : String) (has : Bool) (p : Pattern) (raw norm : String) : Except Err Unit :=
  if has then
    require (p.matchString norm)
      ("has_" ++ name ++ "=true but " ++ name ++ "_number " ++ raw ++ " invalid")
  else require (norm = "") ("has_" ++ name ++ "=false but " ++ name ++ "_number supplied")

def cleanStringList (l : List String) : List String := (l.map trimSpace).filter (· ≠ "")

def checkTexts (input : Input) : Except Err Unit := do
  require (!isBlank input.contactName) "contact_name required"
  require (input.contactName.utf8ByteSize ≤ 200) "contact_name too long (max 200)"
  require (mobilePattern.matchString input.mobileE164)
    ("mobile_e164 must match +91XXXXXXXXXX (got " ++ input.mobileE164 ++ ")")
  require (pincodePattern.matchString input.pincode)
    ("pincode must be 6 digits (got " ++ input.pincode ++ ")")
  require (!isBlank input.city) "city required"
  require (!isBlank input.district) "district required"
  require (!isBlank input.state) "state required"

def new (toUpper : String → String) (input : Input) : Except Err LeadForm := do
  checkTexts input
  let businessType ← requireSome (BusinessType.parse input.businessType)
    ("business_type " ++ input.businessType ++ " not in \x7bPCD,ThirdParty\x7d")
  let medicineSystem ← requireSome (MedicineSystem.parse input.medicineSystem)
    ("medicine_system " ++ input.medicineSystem ++ " not in \x7bAllopathic,Ayurvedic\x7d")
  let orderValue ← requireSome (OrderValue.parse input.orderValue)
    ("order_value " ++ input.orderValue ++ " invalid")
  let buyTimeline ← requireSome (BuyTimeline.parse input.buyTimeline)
    ("buy_timeline " ++ input.buyTimeline ++ " invalid")
  let gstNorm := trimSpace (toUpper input.gstNumber)
  checkNumber "gst" input.hasGst gstPattern input.gstNumber gstNorm
  let panNorm := trimSpace (toUpper input.panNumber)
  checkNumber "pan" input.hasPan panPattern input.panNumber panNorm
  return {
    contactName := trimSpace input.contactName
    mobileE164 := input.mobileE164
    email := trimSpace input.email
    pincode := input.pincode
    city := trimSpace input.city
    district := trimSpace input.district
    state := trimSpace input.state
    street := trimSpace input.street
    hasDrugLicence := input.hasDrugLicence
    hasGst := input.hasGst
    gstNumber := gstNorm
    hasPan := input.hasPan
    panNumber := panNorm
    businessType, medicineSystem
    productRanges := cleanStringList input.productRanges
    dosageForms := cleanStringList input.dosageForms
    orderValue, buyTimeline }

theorem require_eq_ok {ok : Bool} {d : String} {u : Unit} : require ok d = .ok u ↔ ok = true := by
  unfold require
  split <;> simp_all

structure Checked (f : LeadForm) : Prop where
  trimmed : trimSpace f.contactName = f.contactName
  named : f.contactName ≠ ""
  short : f.contactName.utf8ByteSize ≤ 200
  mobile : mobilePattern.matchString f.mobileE164 = true
  pincode : pincodePattern.matchString f.pincode = true

variable {input : Input}

theorem checkTexts_eq_ok : checkTexts input = .ok () ↔
    isBlank input.contactName = false ∧ input.contactName.utf8ByteSize ≤ 200 ∧
    mobilePattern.matchString input.mobileE164 = true ∧
    pincodePattern.matchString input.pincode = true ∧ isBlank input.city = false ∧
    isBlank input.district = false ∧ isBlank input.state = false := by
  unfold checkTexts
  simp only [except_bind_eq_ok, require_eq_ok, exists_const, decide_eq_true_iff, Bool.not_eq_true']

theorem new_eq_ok {t : String → String} {f : LeadForm} (h : new t input = .ok f) : Checked f := by
  obtain ⟨_, ht, h⟩ := except_bind_ok h
  simp only [except_bind_eq_ok] at h
  obtain ⟨businessType, -, medicineSystem, -, orderValue, -, buyTimeline, -, _, -, _, -, h⟩ := h
  cases h
  obtain ⟨hname, hl, hm, hp, -⟩ := checkTexts_eq_ok.mp ht
  exact {
    trimmed := trimSpace_trimSpace _
    named := ne_of_beq_false hname
    short := Nat.le_trans (utf8ByteSize_trimSpace_le _) hl
    mobile := hm
    pincode := hp }

end LeadForm

end Leadkart
