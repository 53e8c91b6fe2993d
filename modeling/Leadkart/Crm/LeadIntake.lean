import Leadkart.Crm.CrmLeadRepository

/-!
# Intake of a purchased lead
-/

namespace Leadkart.CrmLead

open List UuidCodec

structure LeadSnapshot where
  (contactName mobileE164 email pinCode city district state street : String)
  (hasDrugLicence hasGst : Bool)
  gstNumber : String
  hasPan : Bool
  (panNumber businessType medicineSystem : String)
  (productRanges dosageForms : Option (List String))
  (orderValue buyTimeline : String)

def sliceOf (l : List String) : Option (List String) := if l.isEmpty then none else some l

def snapshotFromForm (f : LeadForm) : LeadSnapshot where
  contactName := f.contactName
  mobileE164 := f.mobileE164
  email := f.email
  pinCode := f.pincode
  city := f.city
  district := f.district
  state := f.state
  street := f.street
  hasDrugLicence := f.hasDrugLicence
  hasGst := f.hasGst
  gstNumber := f.gstNumber
  hasPan := f.hasPan
  panNumber := f.panNumber
  businessType := f.businessType.string
  medicineSystem := f.medicineSystem.string
  productRanges := sliceOf f.productRanges
  dosageForms := sliceOf f.dosageForms
  orderValue := f.orderValue.string
  buyTimeline := f.buyTimeline.string

structure LeadPurchasedV1 where
  (purchaseID tenantID platformLeadID purchasedByMembershipID : String)
  leadSnapshot : LeadSnapshot

def snapshotFromV1 (evt : LeadPurchasedV1) : PurchaseSnapshot where
  purchaseID := evt.purchaseID
  platformLeadID := evt.platformLeadID
  purchasedByMembershipID := evt.purchasedByMembershipID
  contactName := evt.leadSnapshot.contactName
  mobileE164 := evt.leadSnapshot.mobileE164
  email := evt.leadSnapshot.email
  pinCode := evt.leadSnapshot.pinCode
  city := evt.leadSnapshot.city
  district := evt.leadSnapshot.district
  state := evt.leadSnapshot.state
  street := evt.leadSnapshot.street
  hasDrugLicence := evt.leadSnapshot.hasDrugLicence
  hasGst := evt.leadSnapshot.hasGst
  gstNumber := evt.leadSnapshot.gstNumber
  hasPan := evt.leadSnapshot.hasPan
  panNumber := evt.leadSnapshot.panNumber
  businessType := evt.leadSnapshot.businessType
  medicineSystem := evt.leadSnapshot.medicineSystem
  productRanges := evt.leadSnapshot.productRanges
  dosageForms := evt.leadSnapshot.dosageForms
  orderValue := evt.leadSnapshot.orderValue
  buyTimeline := evt.leadSnapshot.buyTimeline

/-! ## The command -/

structure IngestPurchasedLeadCommand where
  (purchaseID tenantID platformLeadID purchasedByMembershipID : String)
  snapshot : PurchaseSnapshot

structure IngestPurchasedLeadResult where
  leadID : String
  alreadyExisted : Bool

structure Draws where
  (lookup insert : Conn)
  leadID : String
  now : Time

def hydrated (cmd : IngestPurchasedLeadCommand) : PurchaseSnapshot :=
  let orElse (a b : String) := if a = "" then b else a
  { cmd.snapshot with
    purchaseID := orElse cmd.snapshot.purchaseID cmd.purchaseID
    platformLeadID := orElse cmd.snapshot.platformLeadID cmd.platformLeadID
    purchasedByMembershipID :=
      orElse cmd.snapshot.purchasedByMembershipID cmd.purchasedByMembershipID }

def commandOf (evt : LeadPurchasedV1) : IngestPurchasedLeadCommand where
  purchaseID := evt.purchaseID
  tenantID := evt.tenantID
  platformLeadID := evt.platformLeadID
  purchasedByMembershipID := evt.purchasedByMembershipID
  snapshot := snapshotFromV1 evt

theorem hydrated_commandOf (evt : LeadPurchasedV1) :
    hydrated (commandOf evt) = snapshotFromV1 evt := by
  have hs : ∀ a : String, (if a = "" then a else a) = a := fun a => ite_self a
  unfold hydrated commandOf
  dsimp only
  rw [show (snapshotFromV1 evt).purchaseID = evt.purchaseID from rfl, hs,
    show (snapshotFromV1 evt).platformLeadID = evt.platformLeadID from rfl, hs,
    show (snapshotFromV1 evt).purchasedByMembershipID = evt.purchasedByMembershipID from rfl, hs]
  rfl

section

variable (codec : UuidCodec)

def createFromPurchase (d : Draws) (cmd : IngestPurchasedLeadCommand) :
    Program codec IngestPurchasedLeadResult := do
  let lead ← Transaction.ofExcept
    ((newFromPurchaseSnapshot codec d.leadID cmd.tenantID (hydrated cmd) d.now).mapError
      (Err.wrap "crm ingest: factory: "))
  (add d.insert lead).mapError (Err.wrap "crm ingest: persist: ")
  return ⟨d.leadID, false⟩

def handleIngest (d : Draws) (cmd : IngestPurchasedLeadCommand) :
    Program codec IngestPurchasedLeadResult :=
  if cmd.purchaseID = "" then Transaction.fail (.foreign "crm ingest: purchase id required")
  else if cmd.tenantID = "" then Transaction.fail (.foreign "crm ingest: tenant id required")
  else do
    let existing ← (getBySourcePurchaseID d.lookup cmd.tenantID cmd.purchaseID).attempt
    match existing with
    | .ok lead => return ⟨lead.id, true⟩
    | .error e =>
      if e.is errNotFound then createFromPurchase codec d cmd
      else Transaction.fail (e.wrap "crm ingest: lookup by purchase id: ")

def ingest (d : Draws) (evt : LeadPurchasedV1) : Program codec IngestPurchasedLeadResult :=
  (handleIngest codec d (commandOf evt)).mapError (Err.wrap "crm subscribers: ingest: ")

end

structure Delivery (codec : UuidCodec) where
  evt : LeadPurchasedV1
  draws : Draws
  (tenant purchase : UUID)
  parse_tenant : codec.parse evt.tenantID = some tenant
  input_tenant : codec.input evt.tenantID = some tenant
  parse_purchase : codec.parse evt.purchaseID = some purchase
  purchase_ne_empty : evt.purchaseID ≠ ""

namespace Delivery

variable {codec : UuidCodec} (d : Delivery codec)

theorem tenant_ne_empty : d.evt.tenantID ≠ "" := ne_empty d.input_tenant

theorem pgUUIDOptStr_purchase : codec.pgUUIDOptStr d.evt.purchaseID = some d.purchase := by
  unfold UuidCodec.pgUUIDOptStr
  rw [if_neg d.purchase_ne_empty, d.parse_purchase]

theorem parseOptionalUUID_purchase (name : String) :
    parseOptionalUUID codec name d.evt.purchaseID = .ok d.purchase := by
  unfold parseOptionalUUID
  rw [if_neg d.purchase_ne_empty]
  exact parseOr_ok d.parse_purchase

def program : Program codec IngestPurchasedLeadResult := ingest codec d.draws d.evt

def leadIn (s : Store codec) : Option Row :=
  s.leads.find? fun r => decide (r.tenantID = d.tenant) && hasPurchase d.purchase r

variable {s : Store codec}

theorem leadIn_eq_none : d.leadIn s = none ↔
    ∀ r ∈ s.leads, ¬ (r.tenantID = d.tenant ∧ r.sourcePurchaseID = some d.purchase) := by
  have hi : ∀ r : Row, (decide (r.tenantID = d.tenant) && hasPurchase d.purchase r) = true ↔
      r.tenantID = d.tenant ∧ r.sourcePurchaseID = some d.purchase := by
    intro r
    rw [Bool.and_eq_true, decide_eq_true_iff]
    exact and_congr_right fun _ => decide_eq_true_iff
  unfold leadIn Table.find?
  rw [List.find?_eq_none]
  exact forall₂_congr fun r _ => not_congr (hi r)

def afterLookup : Except Err CrmLead → Program codec IngestPurchasedLeadResult
  | .ok lead => pure ⟨lead.id, true⟩
  | .error e =>
    if e.is errNotFound then createFromPurchase codec d.draws (commandOf d.evt)
    else Transaction.fail (e.wrap "crm ingest: lookup by purchase id: ")

def lookup (s : Store codec) : Except Err CrmLead :=
  loadByPurchase (d.draws.lookup.tx d.evt.tenantID) d.purchase s

theorem program_eq : d.program = ((Transaction.query d.lookup).attempt >>= d.afterLookup).mapError
    (Err.wrap "crm subscribers: ingest: ") := by
  have hp : (commandOf d.evt).purchaseID ≠ "" := d.purchase_ne_empty
  have ht : (commandOf d.evt).tenantID ≠ "" := d.tenant_ne_empty
  have hpa : codec.parse (commandOf d.evt).purchaseID = some d.purchase := d.parse_purchase
  unfold program ingest handleIngest
  rw [if_neg hp, if_neg ht, getBySourcePurchaseID_eq hpa ht]
  rfl

theorem lookup_eq (s : Store codec) : d.lookup s = match d.leadIn s with
      | some row => rowToLead codec row
      | none => .error ⟨errNotFound, ""⟩ := by
  have hb : Bound codec d.tenant (d.draws.lookup.tx d.evt.tenantID) :=
    bound_tx d.input_tenant d.draws.lookup
  unfold lookup loadByPurchase
  rw [Pg.queryRow_confined hb]
  unfold leadIn
  rcases s.leads.find? fun r => decide (r.tenantID = d.tenant) && hasPurchase d.purchase r with
    _ | row <;> rfl

def factory : Except Err CrmLead :=
  newFromPurchaseSnapshot codec d.draws.leadID d.evt.tenantID (snapshotFromV1 d.evt) d.draws.now

variable {d} {lead : CrmLead}

theorem factory_eq_ok (h : d.factory = .ok lead) :
    ∃ businessType medicineSystem orderValue buyTimeline,
    validateProfile (profileOf (snapshotFromV1 d.evt) businessType medicineSystem orderValue
    buyTimeline) = .ok () ∧ lead = ofProfile d.draws.leadID d.evt.tenantID (snapshotFromV1 d.evt)
    (profileOf (snapshotFromV1 d.evt) businessType medicineSystem orderValue buyTimeline)
    d.draws.now := by
  obtain ⟨_, -, h⟩ := Effect.except_bind_ok h
  simp only [Effect.except_bind_eq_ok] at h
  obtain ⟨businessType, -, medicineSystem, -, orderValue, -, buyTimeline, -, _, hp, h⟩ := h
  split at h
  · cases h
  · exact ⟨businessType, medicineSystem, orderValue, buyTimeline, hp, (Except.ok.inj h).symm⟩

theorem factory_tenantID (h : d.factory = .ok lead) : lead.tenantID = d.evt.tenantID := by
  obtain ⟨_, _, _, _, -, rfl⟩ := factory_eq_ok h
  rfl

theorem program_eq_ok {s' : Store codec} {a : IngestPurchasedLeadResult} (hnone : d.leadIn s = none) :
    d.program.effect.run s = (.ok a, s') ↔
    ∃ lead row s₁, d.factory = .ok lead ∧ rowOf codec lead = .ok row ∧
    insertLeadRow (d.draws.insert.tx lead.tenantID) row s = .ok s₁ ∧
    drainLeadEvents lead s₁ = .ok s' ∧ a = ⟨d.draws.leadID, false⟩ := by
  have hne : d.evt.tenantID ≠ "" := d.tenant_ne_empty
  have hlo : d.lookup s = .error ⟨errNotFound, ""⟩ := by rw [lookup_eq, hnone]
  have hp : d.program.effect.run s = (.ok a, s') ↔
      (createFromPurchase codec d.draws (commandOf d.evt)).effect.run s = (.ok a, s') := by
    rw [program_eq, Transaction.effect_mapError, Effect.mapError_eq_ok, Transaction.effect_bind,
      Transaction.effect_attempt]
    have hfi : ((Transaction.query d.lookup : Program codec _).effect.attempt :
        Effect _ Err _).run s = (.ok (.error ⟨errNotFound, ""⟩), s) :=
      Effect.attempt_query_eq_ok.mpr ⟨hlo, rfl⟩
    rw [Effect.bind_ok hfi]
    rfl
  rw [hp]
  unfold createFromPurchase
  simp only [hydrated_commandOf, Transaction.effect_bind, Transaction.effect_ofExcept,
    Transaction.effect_mapError, Transaction.effect_pure, Effect.bind_eq_ok, Effect.ofExcept_eq_ok,
    Effect.mapError_eq_ok, Effect.pure_eq_ok]
  constructor
  · rintro ⟨lead, _, ⟨hf, rfl⟩, ⟨⟩, _, had, ha, rfl⟩
    have hl : d.factory = .ok lead := Effect.except_mapError_ok hf
    obtain ⟨row, s₁, hrow, hi, hd⟩ := (add_eq_ok (factory_tenantID hl ▸ hne)).mp had
    exact ⟨lead, row, s₁, hl, hrow, hi, hd, ha.symm⟩
  · rintro ⟨lead, row, s₁, hl, hrow, hi, hd, ha⟩
    refine ⟨lead, s, ⟨?_, rfl⟩, (), s', ?_, ha.symm, rfl⟩
    · show d.factory.mapError _ = _
      rw [hl]
      rfl
    · exact (add_eq_ok (factory_tenantID hl ▸ hne)).mpr ⟨row, s₁, hrow, hi, hd⟩

end Delivery

variable {s : String}

theorem isValidIndianMobile_of_match (h : LeadForm.mobilePattern.matchString s = true) :
    isValidIndianMobile s = true := by
  obtain ⟨c, r₁, hs, hp, h₁⟩ := Pattern.fits_cons.mp h
  obtain ⟨_, r₂, rfl, hn, h₂⟩ := Pattern.fits_cons.mp h₁
  obtain ⟨_, r₃, rfl, ho, h₃⟩ := Pattern.fits_cons.mp h₂
  obtain rfl := beq_iff_eq.mp hp
  obtain rfl := beq_iff_eq.mp hn
  obtain rfl := beq_iff_eq.mp ho
  have hd : ∀ c ∈ r₃, Pattern.digit c = true := Pattern.fits_replicate h₃
  have hl : r₃.length = 10 := Pattern.length_of_fits h₃
  have hsi : s.utf8ByteSize = 13 := by
    have ha : ∀ c ∈ s.toList, c.utf8Size = 1 := by
      rw [hs]
      intro c hc
      rcases mem_cons.mp hc with rfl | hc
      · decide
      rcases mem_cons.mp hc with rfl | hc
      · decide
      rcases mem_cons.mp hc with rfl | hc
      · decide
      · exact utf8Size_of_isDigit (hd c hc)
    have hb := utf8ByteSize_ascii ha
    rw [String.ofList_toList, hs] at hb
    rw [hb]
    simp [hl]
  unfold isValidIndianMobile
  rw [hsi, hs]
  exact all_eq_true.mpr hd

theorem pincode_match_iff (h : LeadForm.pincodePattern.matchString s = true) :
    pincodePattern.matchString s = true ↔ s.toList.head? ≠ some '0' := by
  obtain ⟨c, rest, hs, hc, hr⟩ := Pattern.fits_cons.mp h
  unfold Pattern.matchString pincodePattern
  rw [hs]
  show (Pattern.digit c && c != '0' && Pattern.fits _ rest) = true ↔ _
  rw [hc, hr, Bool.and_true, Bool.true_and, bne_iff_ne]
  simp

def formProfile (f : LeadForm) : Profile where
  contactName := f.contactName
  phoneE164 := f.mobileE164
  city := f.city
  district := f.district
  state := f.state
  pincode := f.pincode
  businessType := some f.businessType
  medicineSystem := some f.medicineSystem
  orderValue := some f.orderValue
  buyTimeline := some f.buyTimeline
  hasDrugLicence := f.hasDrugLicence
  hasGst := f.hasGst
  productRanges := sliceOf f.productRanges
  dosageForms := sliceOf f.dosageForms
  extra :=
    { street := f.street, gstNumber := f.gstNumber, panNumber := f.panNumber, hasPan := f.hasPan
      email := f.email }

theorem validateProfile_iff {f : LeadForm} (hf : f.Checked) :
    validateProfile (formProfile f) = .ok () ↔ f.pincode.toList.head? ≠ some '0' := by
  have hl : 0 < f.contactName.utf8ByteSize :=
    Nat.lt_of_lt_of_le (length_pos_of_ne_empty hf.named) (length_le_utf8ByteSize _)
  have hs : ¬ ((f.contactName.utf8ByteSize < contactNameMin ||
      contactNameMax < f.contactName.utf8ByteSize) = true) := by
    have hma := hf.short
    unfold contactNameMin contactNameMax
    rw [Bool.or_eq_true, decide_eq_true_iff, decide_eq_true_iff]
    omega
  have hp : f.pincode ≠ "" := by
    intro he
    have hm := hf.pincode
    rw [he] at hm
    cases hm
  unfold validateProfile formProfile
  rw [hf.trimmed, if_neg hs, isValidIndianMobile_of_match hf.mobile, ← pincode_match_iff hf.pincode]
  cases pincodePattern.matchString f.pincode <;> simp [hp]

namespace Delivery

variable {codec : UuidCodec}

structure Carries (d : Delivery codec) (f : LeadForm) (lid : UUID) : Prop where
  snapshot : d.evt.leadSnapshot = snapshotFromForm f
  tenant : codec.parse (trimSpace d.evt.tenantID) = some d.tenant
  purchase : codec.parse (trimSpace d.evt.purchaseID) = some d.purchase
  buyer : d.evt.purchasedByMembershipID = "" ∨
    ∃ u, codec.parse d.evt.purchasedByMembershipID = some u
  leadID : codec.parse d.draws.leadID = some lid
  now : d.draws.now.isZero = false

def leadOf (d : Delivery codec) (f : LeadForm) : CrmLead :=
  ofProfile d.draws.leadID d.evt.tenantID (snapshotFromV1 d.evt) (formProfile f) d.draws.now

def rowOf (d : Delivery codec) (f : LeadForm) (lid : UUID) : Row :=
  insertParams codec (d.leadOf f) lid d.tenant

variable {d : Delivery codec} {f : LeadForm} {lid : UUID}

theorem ne_empty_of_parse (hc : codec.Lawful) {s : String} {u : UUID}
    (h : codec.parse s = some u) : s ≠ "" := by
  rintro rfl
  exact nomatch hc.parse_empty.symm.trans h

theorem checkIDs_ok (hc : codec.Lawful) (hd : d.Carries f lid) :
    checkIDs codec d.draws.leadID d.evt.tenantID (snapshotFromV1 d.evt) = .ok () := by
  unfold checkIDs
  rw [validateUUIDString_ok (ne_empty_of_parse hc hd.leadID) hd.leadID,
    validateUUIDString_ok (ne_empty_of_parse hc hd.tenant) hd.tenant]
  show (codec.validateUUIDString errInvalid "snapshot purchase id" (trimSpace d.evt.purchaseID) >>=
    fun _ => codec.validateOptionalUUID errInvalid _ d.evt.purchasedByMembershipID) = _
  rw [validateUUIDString_ok (ne_empty_of_parse hc hd.purchase) hd.purchase]
  exact validateOptionalUUID_ok hd.buyer

theorem factory_eq (hc : codec.Lawful) (hd : d.Carries f lid) :
    d.factory = (validateProfile (formProfile f)).map fun _ => d.leadOf f := by
  have hb : parseBusinessType (snapshotFromV1 d.evt).businessType = .ok (some f.businessType) := by
    rw [show (snapshotFromV1 d.evt).businessType = _ from
      congrArg LeadSnapshot.businessType hd.snapshot]
    exact parseBusinessType_string _
  have hm : parseMedicineSystem (snapshotFromV1 d.evt).medicineSystem =
      .ok (some f.medicineSystem) := by
    rw [show (snapshotFromV1 d.evt).medicineSystem = _ from
      congrArg LeadSnapshot.medicineSystem hd.snapshot]
    exact parseMedicineSystem_string _
  have ho : parseOrderValue (snapshotFromV1 d.evt).orderValue = .ok (some f.orderValue) := by
    rw [show (snapshotFromV1 d.evt).orderValue = _ from
      congrArg LeadSnapshot.orderValue hd.snapshot]
    exact parseOrderValue_string _
  have hbu : parseBuyTimeline (snapshotFromV1 d.evt).buyTimeline = .ok (some f.buyTimeline) := by
    rw [show (snapshotFromV1 d.evt).buyTimeline = _ from
      congrArg LeadSnapshot.buyTimeline hd.snapshot]
    exact parseBuyTimeline_string _
  have hp : profileOf (snapshotFromV1 d.evt) (some f.businessType) (some f.medicineSystem)
      (some f.orderValue) (some f.buyTimeline) = formProfile f := by
    unfold profileOf snapshotFromV1
    rw [hd.snapshot]
    rfl
  unfold factory newFromPurchaseSnapshot leadOf
  simp only [checkIDs_ok hc hd, hb, hm, ho, hbu, hp, hd.now, bind,
    Except.bind, Bool.false_eq_true, if_false]
  cases validateProfile (formProfile f) <;> rfl

theorem meets_iff (hf : f.Checked) :
    (crmLeads codec).meets (d.rowOf f lid) = .ok () ↔ f.productRanges ≠ [] ∧ f.dosageForms ≠ [] := by
  have hs : ∀ l : List String, (sliceOf l).isSome = true ↔ l ≠ [] := by
    intro l
    cases l <;> simp [sliceOf]
  have hb : (d.rowOf f lid).businessType ∈ ["", "PCD", "ThirdParty"] := by
    show f.businessType.string ∈ _
    cases f.businessType <;> decide
  have hbu : (d.rowOf f lid).buyTimeline ∈ ["", "WithinWeek", "Within15Days", "WithinMonth"] := by
    show f.buyTimeline.string ∈ _
    cases f.buyTimeline <;> decide
  have hname : 1 ≤ f.contactName.toList.length ∧ f.contactName.toList.length ≤ 200 :=
    ⟨length_pos_of_ne_empty hf.named, Nat.le_trans (length_le_utf8ByteSize _) hf.short⟩
  have hm : (d.rowOf f lid).medicineSystem ∈ ["", "Allopathic", "Ayurvedic"] := by
    show f.medicineSystem.string ∈ _
    cases f.medicineSystem <;> decide
  have ho : (d.rowOf f lid).orderValue ∈
      ["", "Below5000", "Upto25000", "Upto50000", "Above50000"] := by
    show f.orderValue.string ∈ _
    cases f.orderValue <;> decide
  have hst : (d.rowOf f lid).stage ∈
      ["new", "contacted", "interested", "negotiation", "converted", "lost"] := by
    show Stage.new.string ∈ _
    decide
  have ht : (d.rowOf f lid).temperature ∈ ["hot", "warm", "cold", "dead"] := by
    show Temperature.warm.string ∈ _
    decide
  rw [CrmLead.meets_iff]
  constructor
  · rintro ⟨hr, hfo, -⟩
    exact ⟨(hs _).mp hr, (hs _).mp hfo⟩
  · rintro ⟨hr, hfo⟩
    exact ⟨(hs _).mpr hr, (hs _).mpr hfo, hb, hbu, hname, hm, ho,
      hf.mobile, .inr hf.pincode, hst, ht⟩

theorem rowOf_leadOf (hd : d.Carries f lid) :
    CrmLead.rowOf codec (d.leadOf f) = .ok (d.rowOf f lid) := by
  unfold CrmLead.rowOf parseID
  rw [parseOr_ok (show codec.parse (d.leadOf f).id = some lid from hd.leadID),
    parseOr_ok (show codec.parse (d.leadOf f).tenantID = some d.tenant from
      d.parse_tenant)]
  rfl

theorem drain_leadOf (hd : d.Carries f lid) (s : Store codec) :
    ∃ s', drainLeadEvents (d.leadOf f) s = .ok s' ∧ s'.leads = s.leads := by
  obtain ⟨buyer, hb⟩ : ∃ u, parseOptionalUUID codec "created_by_membership_id"
      d.evt.purchasedByMembershipID = .ok u := by
    unfold parseOptionalUUID
    by_cases he : d.evt.purchasedByMembershipID = ""
    · exact ⟨0, if_pos he⟩
    · obtain ⟨u, hu⟩ := hd.buyer.resolve_left he
      rw [if_neg he]
      exact ⟨u, parseOr_ok hu⟩
  have hm : mapDomainEvents codec (d.leadOf f).events =
      .ok [.crmLeadCreatedV1 lid d.tenant d.purchase buyer d.draws.now] := by
    show [Event.created d.draws.leadID d.evt.tenantID d.evt.purchaseID
      d.evt.purchasedByMembershipID d.draws.now].mapM (fromDomainEvent codec) = _
    simp only [mapM_cons, mapM_nil, fromDomainEvent, parseUUID,
      parseOr_ok hd.leadID, parseOr_ok d.parse_tenant,
      parseOptionalUUID_purchase, hb, bind, Except.bind, pure, Except.pure]
  unfold drainLeadEvents parseID
  rw [if_neg (show (d.leadOf f).events ≠ [] from List.cons_ne_nil _ _), hm,
    parseOr_ok (show codec.parse (d.leadOf f).tenantID = some d.tenant from
      d.parse_tenant)]
  exact ⟨_, rfl, rfl⟩

end Delivery

structure Suits (f : LeadForm) : Prop where
  pincode : f.pincode.toList.head? ≠ some '0'
  productRanges : f.productRanges ≠ []
  dosageForms : f.dosageForms ≠ []

def Delivery.Accepted {codec : UuidCodec} (d : Delivery codec) (s : Store codec) : Prop :=
  ∃ a s', d.program.effect.atomic.run s = (.ok a, s') ∧
    ∃ row ∈ s'.leads, row.tenantID = d.tenant ∧ row.sourcePurchaseID = some d.purchase ∧
      (crmLeads codec).meets row = .ok ()

def Delivery.NewTo {codec : UuidCodec} (d : Delivery codec) (lid : UUID) (s : Store codec) : Prop :=
  ∀ r ∈ s.leads, r.id ≠ lid ∧ r.sourcePurchaseID ≠ some d.purchase

theorem accepted_iff {codec : UuidCodec} (hco : codec.Lawful) {f : LeadForm} (hf : f.Checked)
    {d : Delivery codec} {lid : UUID} (hd : d.Carries f lid) {s : Store codec}
    (hn : d.NewTo lid s) : d.Accepted s ↔ Suits f := by
  have hfa := Delivery.factory_eq hco hd
  have hnone : d.leadIn s = none := d.leadIn_eq_none.mpr fun r hr hp => (hn r hr).2 hp.2
  constructor
  · rintro ⟨a, s', hru, -⟩
    obtain ⟨lead, row, s₁, hl, hrow, hi, -, -⟩ :=
      (Delivery.program_eq_ok hnone).mp (Effect.atomic_eq_ok.mp hru)
    rw [hfa] at hl
    rcases hpr : validateProfile (formProfile f) with e | _
    · rw [hpr] at hl
      cases hl
    · rw [hpr] at hl
      cases hl
      obtain rfl := Except.ok.inj ((Delivery.rowOf_leadOf hd).symm.trans hrow)
      obtain ⟨leads, hi, -⟩ := Effect.except_bind_ok hi
      have hpa := SqlRelation.insert_passed (Effect.except_mapError_ok hi)
      obtain ⟨hra, hfo⟩ := (Delivery.meets_iff hf).mp hpa.2.1
      exact ⟨(validateProfile_iff hf).mp hpr, hra, hfo⟩
  · intro hs
    have hpr := (validateProfile_iff hf).mpr hs.pincode
    have hm : (crmLeads codec).meets (d.rowOf f lid) = .ok () :=
      (Delivery.meets_iff hf).mpr ⟨hs.productRanges, hs.dosageForms⟩
    have hpu : (d.rowOf f lid).sourcePurchaseID = some d.purchase := d.pgUUIDOptStr_purchase
    -- Nothing in the store clashes with the row.
    obtain ⟨leads, hle⟩ : ∃ leads, s.leads.insert (d.rowOf f lid) = some leads := by
      refine Option.ne_none_iff_exists'.mp fun hc => ?_
      obtain ⟨q, hq, hc⟩ := Table.insert_eq_none.mp hc
      rcases clash_iff.mp hc with hid | ⟨-, hsa⟩
      · exact (hn q hq).1 hid
      · exact (hn q hq).2 (hsa.trans hpu)
    have hb : Bound codec d.tenant (d.draws.insert.tx (d.leadOf f).tenantID) :=
      bound_tx d.input_tenant d.draws.insert
    have hi : insertLeadRow (d.draws.insert.tx (d.leadOf f).tenantID) (d.rowOf f lid) s =
        .ok { s with leads } := by
      have ho : (d.rowOf f lid).tenantID = d.tenant := rfl
      unfold insertLeadRow
      rw [SqlRelation.insert_ok hb ho hm hle]
      rfl
    obtain ⟨s', hdr, hsa⟩ := Delivery.drain_leadOf hd { s with leads }
    refine ⟨⟨d.draws.leadID, false⟩, s', Effect.atomic_eq_ok.mpr ?_, d.rowOf f lid, ?_, rfl,
      hpu, hm⟩
    · refine (Delivery.program_eq_ok hnone).mpr
        ⟨d.leadOf f, d.rowOf f lid, { s with leads }, ?_, Delivery.rowOf_leadOf hd, hi, hdr, rfl⟩
      rw [hfa, hpr]
      rfl
    · rw [hsa]
      exact (Table.mem_insert hle).mpr (.inr rfl)

theorem ingest_iff {codec : UuidCodec} (hcodec : codec.Lawful) {toUpper : String → String}
    {input : LeadForm.Input} {f : LeadForm} (hform : LeadForm.new toUpper input = .ok f)
    {d : Delivery codec} {lid : UUID} (hd : d.Carries f lid) {s : Store codec}
    (hnew : d.NewTo lid s) : d.Accepted s ↔ Suits f :=
  accepted_iff hcodec (LeadForm.new_eq_ok hform) hd hnew

def formInput (pincode : String) : LeadForm.Input where
  contactName := "Asha"
  mobileE164 := "+919876543210"
  pincode := pincode
  city := "Chandigarh"
  district := "Chandigarh"
  state := "Chandigarh"
  businessType := "PCD"
  medicineSystem := "Allopathic"
  productRanges := ["Tablets"]
  dosageForms := ["Strip"]
  orderValue := "Upto25000"
  buyTimeline := "WithinWeek"

def formOf (pincode : String) : LeadForm :=
  { UnverifiedContact.sampleForm with
    pincode, productRanges := ["Tablets"], dosageForms := ["Strip"] }

def freshConn : Conn := { plan := fun _ _ _ => true }

def firstDelivery (f : LeadForm) : Delivery unaryCodec where
  evt :=
    { purchaseID := "xx", tenantID := "xxx", platformLeadID := "x", purchasedByMembershipID := ""
      leadSnapshot := snapshotFromForm f }
  draws := { lookup := freshConn, insert := freshConn, leadID := "xxxx", now := 10 }
  tenant := 2
  purchase := 1
  parse_tenant := (by decide : unaryCodec.parse "xxx" = some 2)
  input_tenant := (by decide : unaryCodec.input "xxx" = some 2)
  parse_purchase := (by decide : unaryCodec.parse "xx" = some 1)
  purchase_ne_empty := (by decide : "xx" ≠ "")

theorem firstDelivery_carries (f : LeadForm) : (firstDelivery f).Carries f 3 where
  snapshot := rfl
  tenant := (by decide : unaryCodec.parse (trimSpace "xxx") = some 2)
  purchase := (by decide : unaryCodec.parse (trimSpace "xx") = some 1)
  buyer := .inl rfl
  leadID := (by decide : unaryCodec.parse "xxxx" = some 3)
  now := rfl

theorem firstDelivery_new (f : LeadForm) : (firstDelivery f).NewTo 3 {} :=
  fun _ hr => absurd hr not_mem_nil

theorem city_pincode_ingested :
    LeadForm.new String.toUpper (formInput "160017") = .ok (formOf "160017") ∧
    (firstDelivery (formOf "160017")).Accepted {} := by
  have hf : LeadForm.new String.toUpper (formInput "160017") = .ok (formOf "160017") := by
    decide +kernel
  refine ⟨hf, (ingest_iff unaryCodec_lawful hf (firstDelivery_carries _)
    (firstDelivery_new _)).mpr ⟨?_, ?_, ?_⟩⟩
  · decide
  · decide
  · decide

theorem zero_pincode_refused :
    LeadForm.new String.toUpper (formInput "000000") = .ok (formOf "000000") ∧
    ¬ (firstDelivery (formOf "000000")).Accepted {} := by
  have hf : LeadForm.new String.toUpper (formInput "000000") = .ok (formOf "000000") := by
    decide +kernel
  refine ⟨hf, fun ha => ?_⟩
  have hs := (accepted_iff unaryCodec_lawful (LeadForm.new_eq_ok hf)
    (firstDelivery_carries _) (firstDelivery_new _)).mp ha
  exact hs.pincode (by decide)

end Leadkart.CrmLead
