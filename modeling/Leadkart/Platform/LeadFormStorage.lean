import Leadkart.Platform.LeadForm

/-!
# Lead forms in the table of contacts
-/

namespace Leadkart

open Effect

namespace UnverifiedContact

structure Columns where
  id : UUID
  (state rejectionReason : String)
  (busyCallbackAt busyCallbackEndAt : Option Time)
  platformLeadID : Option UUID
  (contactName mobileE164 email pincode city district stateGeo street : String)
  (hasDrugLicence hasGst : Bool)
  gstNumber : String
  hasPan : Bool
  (panNumber businessType medicineSystem : String)
  (productRanges dosageForms : Option (List String))
  (orderValue buyTimeline : String)
  createdAt : Time
  createdByMembershipID : UUID
  verifiedAt : Option Time
  verifiedByMembershipID : Option UUID
  rejectedAt : Option Time
  rejectedByMembershipID : Option UUID

structure Columns.Valid (c : Columns) : Prop where
  state : c.state ∈ ["new", "in_call", "verified", "rejected", "busy"]
  contactName : 2 ≤ c.contactName.length ∧ c.contactName.length ≤ 200
  mobileE164 : LeadForm.mobilePattern.matchString c.mobileE164 = true
  pincode : LeadForm.pincodePattern.matchString c.pincode = true
  businessType : c.businessType ∈ ["PCD", "ThirdParty"]
  medicineSystem : c.medicineSystem ∈ ["Allopathic", "Ayurvedic"]
  productRanges : c.productRanges.isSome = true
  dosageForms : c.dosageForms.isSome = true
  orderValue : c.orderValue ∈ ["Below5000", "Upto25000", "Upto50000", "Above50000"]
  buyTimeline : c.buyTimeline ∈ ["WithinWeek", "Within15Days", "WithinMonth"]

def textArray (l : List String) : Option (List String) := if l = [] then none else some l

def insertParams (codec : UuidCodec) (c : UnverifiedContact) (id createdBy : UUID) : Columns where
  id := id
  state := c.state.string
  rejectionReason := c.rejectionReason
  busyCallbackAt := pgTimestamp c.busyCallbackAt
  busyCallbackEndAt := pgTimestamp c.busyCallbackEndAt
  platformLeadID := codec.pgUUIDOptStr c.platformLeadID
  contactName := c.form.contactName
  mobileE164 := c.form.mobileE164
  email := c.form.email
  pincode := c.form.pincode
  city := c.form.city
  district := c.form.district
  stateGeo := c.form.state
  street := c.form.street
  hasDrugLicence := c.form.hasDrugLicence
  hasGst := c.form.hasGst
  gstNumber := c.form.gstNumber
  hasPan := c.form.hasPan
  panNumber := c.form.panNumber
  businessType := c.form.businessType.string
  medicineSystem := c.form.medicineSystem.string
  productRanges := textArray c.form.productRanges
  dosageForms := textArray c.form.dosageForms
  orderValue := c.form.orderValue.string
  buyTimeline := c.form.buyTimeline.string
  createdAt := c.createdAt
  createdByMembershipID := createdBy
  verifiedAt := pgTimestamp c.verifiedAt
  verifiedByMembershipID := codec.pgUUIDOptStr c.verifiedByMembershipID
  rejectedAt := pgTimestamp c.rejectedAt
  rejectedByMembershipID := codec.pgUUIDOptStr c.rejectedByMembershipID

theorem textArray_isSome {l : List String} : (textArray l).isSome = true ↔ l ≠ [] := by
  unfold textArray
  split <;> simp_all

theorem valid_insertParams {co : UuidCodec} {c : UnverifiedContact} (h : c.form.Checked)
    (id cr : UUID) : (c.insertParams co id cr).Valid ↔
    2 ≤ c.form.contactName.length ∧ c.form.productRanges ≠ [] ∧ c.form.dosageForms ≠ [] := by
  constructor
  · intro hvalid
    exact ⟨hvalid.contactName.1, textArray_isSome.mp hvalid.productRanges,
      textArray_isSome.mp hvalid.dosageForms⟩
  · rintro ⟨hname, hr, hf⟩
    have hstate : c.state.string ∈ ["new", "in_call", "verified", "rejected", "busy"] := by
      cases c.state <;> decide
    have hb : c.form.businessType.string ∈ ["PCD", "ThirdParty"] := by
      cases c.form.businessType <;> decide
    have hm : c.form.medicineSystem.string ∈ ["Allopathic", "Ayurvedic"] := by
      cases c.form.medicineSystem <;> decide
    have ho : c.form.orderValue.string ∈ ["Below5000", "Upto25000", "Upto50000", "Above50000"] := by
      cases c.form.orderValue <;> decide
    have ht : c.form.buyTimeline.string ∈ ["WithinWeek", "Within15Days", "WithinMonth"] := by
      cases c.form.buyTimeline <;> decide
    exact
      { state := hstate
        contactName := ⟨hname, (length_le_utf8ByteSize _).trans h.short⟩
        mobileE164 := h.mobile
        pincode := h.pincode
        businessType := hb
        medicineSystem := hm
        productRanges := textArray_isSome.mpr hr
        dosageForms := textArray_isSome.mpr hf
        orderValue := ho
        buyTimeline := ht }

end UnverifiedContact

namespace LeadForm

def input (f : LeadForm) : Input where
  contactName := f.contactName
  mobileE164 := f.mobileE164
  email := f.email
  pincode := f.pincode
  city := f.city
  district := f.district
  state := f.state
  street := f.street
  hasDrugLicence := f.hasDrugLicence
  hasGst := f.hasGst
  gstNumber := f.gstNumber
  hasPan := f.hasPan
  panNumber := f.panNumber
  businessType := f.businessType.string
  medicineSystem := f.medicineSystem.string
  productRanges := f.productRanges
  dosageForms := f.dosageForms
  orderValue := f.orderValue.string
  buyTimeline := f.buyTimeline.string

def KeepsCapitals (toUpper : String → String) : Prop :=
  ∀ s : String, (∀ c ∈ s.toList, Pattern.upperOrDigit c = true) → toUpper s = s

theorem cleanStringList_idem (l : List String) :
    cleanStringList (cleanStringList l) = cleanStringList l := by
  unfold cleanStringList
  rw [List.map_congr_left (g := id), List.map_id, List.filter_filter]
  · simp
  · intro s hs
    obtain ⟨raw, -, rfl⟩ := List.mem_map.mp (List.mem_of_mem_filter hs)
    exact trimSpace_trimSpace raw

theorem capitals_gstPattern : ∀ q ∈ gstPattern, ∀ c, q c = true → Pattern.upperOrDigit c = true := by
  simp [gstPattern, Pattern.upperOrDigit, Pattern.digit, Pattern.upper, Pattern.lit]
  tauto

theorem capitals_panPattern : ∀ q ∈ panPattern, ∀ c, q c = true → Pattern.upperOrDigit c = true := by
  simp [panPattern, Pattern.upperOrDigit, Pattern.digit, Pattern.upper]
  tauto

section Again

variable {toUpper : String → String} {raw : Input} {f : LeadForm}

theorem checkNumber_again (hu : KeepsCapitals toUpper) {p : Pattern} {name text norm : String}
    {has : Bool} (hp : ∀ q ∈ p, ∀ c, q c = true → Pattern.upperOrDigit c = true)
    (ht : trimSpace norm = norm) (h : checkNumber name has p text norm = .ok ()) :
    trimSpace (toUpper norm) = norm ∧ checkNumber name has p norm norm = .ok () := by
  cases has with
  | true =>
    have hf := require_eq_ok.mp h
    rw [hu norm (Pattern.capitals_of_fits hp hf)]
    exact ⟨ht, require_eq_ok.mpr hf⟩
  | false =>
    obtain rfl : norm = "" := of_decide_eq_true (require_eq_ok.mp h)
    rw [hu "" fun c hc => absurd hc List.not_mem_nil]
    exact ⟨ht, rfl⟩

theorem isBlank_trimSpace (s : String) : isBlank (trimSpace s) = isBlank s := by
  unfold isBlank
  rw [trimSpace_trimSpace]

theorem new_input (hu : KeepsCapitals toUpper) (h : new toUpper raw = .ok f) :
    new toUpper f.input = .ok f := by
  obtain ⟨_, ht, h⟩ := except_bind_ok h
  obtain ⟨businessType, -, h⟩ := except_bind_ok h
  simp only [except_bind_eq_ok] at h
  obtain ⟨medicineSystem, -, orderValue, -, buyTimeline, -, _, hgs, _, hpa, h⟩ := h
  cases h
  obtain ⟨hg, hgs⟩ := checkNumber_again hu capitals_gstPattern (trimSpace_trimSpace _) hgs
  obtain ⟨hp, hpa⟩ := checkNumber_again hu capitals_panPattern (trimSpace_trimSpace _) hpa
  obtain ⟨hname, hl, hm, hpi, hc, hd, hstate⟩ := checkTexts_eq_ok.mp ht
  unfold new
  rw [checkTexts_eq_ok.mpr]
  · simp only [input, trimSpace_trimSpace, cleanStringList_idem, BusinessType.parse_string,
      MedicineSystem.parse_string, OrderValue.parse_string, BuyTimeline.parse_string, hg,
      hp, hgs, hpa, requireSome]
    rfl
  · simp only [input, isBlank_trimSpace]
    exact ⟨hname, (utf8ByteSize_trimSpace_le _).trans hl, hm, hpi, hc, hd, hstate⟩

theorem new_insertable_iff (hupper : KeepsCapitals toUpper) (h : new toUpper raw = .ok f) :
    new toUpper f.input = .ok f ∧
    ∀ (codec : UuidCodec) (c : UnverifiedContact) (id createdBy : UUID), c.form = f →
    ((c.insertParams codec id createdBy).Valid ↔
    2 ≤ (trimSpace raw.contactName).length ∧ cleanStringList raw.productRanges ≠ [] ∧
    cleanStringList raw.dosageForms ≠ []) := by
  refine ⟨new_input hupper h, ?_⟩
  rintro codec c id createdBy rfl
  rw [UnverifiedContact.valid_insertParams (new_eq_ok h)]
  simp only [new, except_bind_eq_ok] at h
  obtain ⟨_, -, _, -, _, -, _, -, _, -, _, -, _, -, h⟩ := h
  rw [← Except.ok.inj h]

end Again

def inquiry (contactName : String) : Input where
  contactName := contactName
  mobileE164 := "+919876543210"
  pincode := "160017"
  city := "Chandigarh"
  district := "Chandigarh"
  state := "Chandigarh"
  businessType := "PCD"
  medicineSystem := "Allopathic"
  productRanges := ["Tablets"]
  dosageForms := ["Strip"]
  orderValue := "Upto25000"
  buyTimeline := "WithinWeek"

def inquiryForm (contactName : String) : LeadForm :=
  { UnverifiedContact.sampleForm with
    contactName, productRanges := ["Tablets"], dosageForms := ["Strip"] }

def inquiryContact (contactName : String) : UnverifiedContact where
  id := "x"
  form := inquiryForm contactName
  state := .new
  createdAt := 1
  createdByMembershipID := "x"

theorem inquiry_insertable : ((inquiryContact "Asha").insertParams unaryCodec 0 0).Valid := by
  have hn : new (fun s => s) (inquiry "Asha") = .ok (inquiryForm "Asha") := by decide +kernel
  refine ((new_insertable_iff (fun _ _ => rfl) hn).2 unaryCodec _ 0 0 rfl).mpr ?_
  decide +kernel

theorem oneLetter_not_insertable : ¬ ∀ (raw : Input) (f : LeadForm), new (fun s => s) raw = .ok f →
    ∀ c : UnverifiedContact, c.form = f → (c.insertParams unaryCodec 0 0).Valid := by
  intro h
  have hn : new (fun s => s) (inquiry "A") = .ok (inquiryForm "A") := by decide +kernel
  have hvalid := h _ _ hn (inquiryContact "A") rfl
  exact absurd hvalid.contactName.1 (by decide +kernel)

end LeadForm

end Leadkart
