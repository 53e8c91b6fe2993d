import Leadkart.Platform.LeadForm

/-!
# CRM leads
-/

namespace Leadkart

open Effect

namespace CrmLead

def errInvalid : Sentinel := ⟨.invalidInput, "crm_lead", "invalid crm lead"⟩
def errTerminal : Sentinel := ⟨.conflict, "crm_lead", "lead is in a terminal stage"⟩
def errNotFound : Sentinel := ⟨.notFound, "crm_lead", "crm lead not found"⟩

/-! ## Catalogues -/

inductive Stage where
  | new
  | contacted
  | interested
  | negotiation
  | converted
  | lost
  deriving DecidableEq

namespace Stage

def string : Stage → String
  | new => "new"
  | contacted => "contacted"
  | interested => "interested"
  | negotiation => "negotiation"
  | converted => "converted"
  | lost => "lost"

def isTerminal (s : Stage) : Bool := s = converted || s = lost

def all : List Stage := [new, contacted, interested, negotiation, converted, lost]

end Stage

def canAdvance : Stage → Stage → Bool
  | .new, target => target = .contacted
  | .contacted, target => target = .interested
  | .interested, target => target = .negotiation
  | .negotiation, _ | .converted, _ | .lost, _ => false

inductive Temperature where
  | hot
  | warm
  | cold
  | dead
  deriving DecidableEq

namespace Temperature

def string : Temperature → String
  | hot => "hot"
  | warm => "warm"
  | cold => "cold"
  | dead => "dead"

def all : List Temperature := [hot, warm, cold, dead]

end Temperature

def parseStage : String → Except Err Stage := parseEntry errInvalid "stage" Stage.string Stage.all

def parseTemperature : String → Except Err Temperature :=
  parseEntry errInvalid "temperature" Temperature.string Temperature.all

@[simp] theorem parseStage_string (s : Stage) : parseStage s.string = .ok s := by
  cases s <;> decide

theorem parseStage_eq_ok {raw : String} {stage : Stage} (h : parseStage raw = .ok stage) :
    raw = stage.string := parseEntry_eq_ok h

def parseTaxonomy {α : Type} (name entries : String) (parse : String → Option α) (s : String) :
    Except Err (Option α) :=
  if s = "" then .ok none
  else
    match parse s with
    | some a => .ok (some a)
    | none => .error ⟨errInvalid, name ++ " " ++ s ++ " not in \x7b" ++ entries ++ "\x7d"⟩

def parseBusinessType : String → Except Err (Option BusinessType) :=
  parseTaxonomy "business_type" "PCD, ThirdParty" BusinessType.parse

def parseMedicineSystem : String → Except Err (Option MedicineSystem) :=
  parseTaxonomy "medicine_system" "Allopathic, Ayurvedic" MedicineSystem.parse

def parseOrderValue : String → Except Err (Option OrderValue) :=
  parseTaxonomy "order_value" "Below5000, Upto25000, Upto50000, Above50000" OrderValue.parse

def parseBuyTimeline : String → Except Err (Option BuyTimeline) :=
  parseTaxonomy "buy_timeline" "WithinWeek, Within15Days, WithinMonth" BuyTimeline.parse

@[simp] theorem parseBusinessType_string (b : BusinessType) :
    parseBusinessType b.string = .ok (some b) := by
  cases b <;> decide

@[simp] theorem parseMedicineSystem_string (m : MedicineSystem) :
    parseMedicineSystem m.string = .ok (some m) := by
  cases m <;> decide

@[simp] theorem parseOrderValue_string (o : OrderValue) :
    parseOrderValue o.string = .ok (some o) := by
  cases o <;> decide

@[simp] theorem parseBuyTimeline_string (t : BuyTimeline) :
    parseBuyTimeline t.string = .ok (some t) := by
  cases t <;> decide

def textOf {α : Type} (string : α → String) (a : Option α) : String := stringFromPg (a.map string)

structure ExtraProfile where
  (street gstNumber panNumber : String := "")
  hasPan : Bool := false
  (email notes : String := "")
  deriving DecidableEq

structure Profile where
  (contactName phoneE164 : String)
  (city district state pincode : String := "")
  businessType : Option BusinessType := none
  medicineSystem : Option MedicineSystem := none
  orderValue : Option OrderValue := none
  buyTimeline : Option BuyTimeline := none
  (hasDrugLicence hasGst gstVerified : Bool := false)
  (productRanges dosageForms : Option (List String) := none)
  extra : ExtraProfile := {}
  deriving DecidableEq

inductive Event where
  | created (leadID tenantID sourcePurchaseID createdByMembershipID : String) (at_ : Time)
  | assigned (leadID tenantID previousAssignee assigneeMembershipID assignedByMembershipID
      reason : String) (at_ : Time)
  | stageChanged (leadID tenantID : String) (oldStage newStage : Stage)
      (changedByMembershipID reason : String) (at_ : Time)
  | temperatureChanged (leadID tenantID : String) (oldTemperature newTemperature : Temperature)
      (changedByMembershipID : String) (at_ : Time)
  | converted (leadID tenantID convertedByMembershipID : String) (at_ : Time)
  | lost (leadID tenantID lostByMembershipID reason : String) (at_ : Time)
  deriving DecidableEq

end CrmLead

structure CrmLead where
  (id tenantID : String)
  profile : CrmLead.Profile
  stage : CrmLead.Stage
  temperature : CrmLead.Temperature
  (sourcePurchaseID sourcePlatformLeadID assigneeMembershipID : String := "")
  (assignedAt convertedAt : Time := 0)
  convertedByMembershipID : String := ""
  lostAt : Time := 0
  (lostByMembershipID lostReason : String := "")
  createdAt : Time
  createdByMembershipID : String := ""
  events : List CrmLead.Event := []
  deriving DecidableEq

namespace CrmLead

def recordEvent (l : CrmLead) (e : Event) : CrmLead := { l with events := l.events ++ [e] }

structure PurchaseSnapshot where
  (purchaseID platformLeadID purchasedByMembershipID contactName mobileE164 email pinCode city
    district state street : String)
  (hasDrugLicence hasGst : Bool)
  gstNumber : String
  hasPan : Bool
  (panNumber businessType medicineSystem : String)
  (productRanges dosageForms : Option (List String))
  (orderValue buyTimeline : String)

def contactNameMin : Nat := 1
def contactNameMax : Nat := 200
def lostReasonMax : Nat := 1000

open Pattern in
def pincodePattern : Pattern := (fun c => digit c && c != '0') :: List.replicate 5 digit

def isValidIndianMobile (s : String) : Bool :=
  s.utf8ByteSize = 13 &&
    match s.toList with
    | '+' :: '9' :: '1' :: rest => rest.all Pattern.digit
    | _ => false

def validateProfile (p : Profile) : Except Err Unit :=
  let n := (trimSpace p.contactName).utf8ByteSize
  if n < contactNameMin || contactNameMax < n then
    .error ⟨errInvalid, s!"contact_name length {n} not in [1,200]"⟩
  else if !isValidIndianMobile p.phoneE164 then
    .error ⟨errInvalid, "phone_e164 must match ^\\+91[0-9]\x7b10\x7d$, got " ++ p.phoneE164⟩
  else if p.pincode ≠ "" && !pincodePattern.matchString p.pincode then
    .error ⟨errInvalid, "pincode " ++ p.pincode ++ " must match ^[1-9][0-9]\x7b5\x7d$"⟩
  else .ok ()

def profileOf (s : PurchaseSnapshot) (businessType : Option BusinessType)
    (medicineSystem : Option MedicineSystem) (orderValue : Option OrderValue)
    (buyTimeline : Option BuyTimeline) : Profile where
  contactName := s.contactName
  phoneE164 := s.mobileE164
  city := s.city
  district := s.district
  state := s.state
  pincode := s.pinCode
  businessType := businessType
  medicineSystem := medicineSystem
  orderValue := orderValue
  buyTimeline := buyTimeline
  hasDrugLicence := s.hasDrugLicence
  hasGst := s.hasGst
  productRanges := s.productRanges
  dosageForms := s.dosageForms
  extra :=
    { street := s.street, gstNumber := s.gstNumber, panNumber := s.panNumber, hasPan := s.hasPan
      email := s.email }

def ofProfile (id tenantID : String) (s : PurchaseSnapshot) (p : Profile) (now : Time) : CrmLead :=
  recordEvent
    { id, tenantID, profile := p, stage := .new, temperature := .warm
      sourcePurchaseID := s.purchaseID
      sourcePlatformLeadID := s.platformLeadID
      createdAt := now
      createdByMembershipID := s.purchasedByMembershipID }
    (.created id tenantID s.purchaseID s.purchasedByMembershipID now)

def checkIDs (codec : UuidCodec) (id tenantID : String) (s : PurchaseSnapshot) : Except Err Unit := do
  codec.validateUUIDString errInvalid "id" id
  codec.validateUUIDString errInvalid "tenant id" (trimSpace tenantID)
  codec.validateUUIDString errInvalid "snapshot purchase id" (trimSpace s.purchaseID)
  codec.validateOptionalUUID errInvalid "snapshot purchased by membership id"
    s.purchasedByMembershipID

def newFromPurchaseSnapshot (codec : UuidCodec) (id tenantID : String) (s : PurchaseSnapshot)
    (now : Time) : Except Err CrmLead := do
  checkIDs codec id tenantID s
  let businessType ← parseBusinessType s.businessType
  let medicineSystem ← parseMedicineSystem s.medicineSystem
  let orderValue ← parseOrderValue s.orderValue
  let buyTimeline ← parseBuyTimeline s.buyTimeline
  let p := profileOf s businessType medicineSystem orderValue buyTimeline
  validateProfile p
  if now.isZero then .error ⟨errInvalid, "now required"⟩
  else return ofProfile id tenantID s p now

section

variable (codec : UuidCodec)

def validateActor (name actor : String) : Except Err Unit :=
  codec.validateUUIDString errInvalid name (trimSpace actor)

def terminal (l : CrmLead) (what : String) : Err :=
  ⟨errTerminal, "stage=" ++ l.stage.string ++ "; " ++ what ++ " not allowed"⟩

def assign (l : CrmLead) (newAssignee assignedBy reason : String) (now : Time) :
    Except Err CrmLead := do
  validateActor codec "assignee membership id" newAssignee
  validateActor codec "assigned-by membership id" assignedBy
  if l.stage.isTerminal then .error (l.terminal "assignment")
  else if l.assigneeMembershipID = newAssignee then .ok l
  else if now.isZero then .error ⟨errInvalid, "now required"⟩
  else .ok (recordEvent
    { l with assigneeMembershipID := newAssignee, assignedAt := now }
    (.assigned l.id l.tenantID l.assigneeMembershipID newAssignee assignedBy reason now))

def changeStage (l : CrmLead) (newStage : Stage) (changedBy reason : String) (now : Time) :
    Except Err CrmLead :=
  if newStage.isTerminal then
    .error ⟨errInvalid, "use Convert / Lose for terminal transitions"⟩
  else do
    validateActor codec "changed-by membership id" changedBy
    if l.stage.isTerminal then .error (l.terminal "stage change")
    else if l.stage = newStage then .ok l
    else if !canAdvance l.stage newStage then
      .error ⟨errInvalid, "cannot transition " ++ l.stage.string ++ " → " ++ newStage.string⟩
    else if now.isZero then .error ⟨errInvalid, "now required"⟩
    else .ok (recordEvent { l with stage := newStage }
      (.stageChanged l.id l.tenantID l.stage newStage changedBy reason now))

def changeTemperature (l : CrmLead) (newTemp : Temperature) (changedBy : String) (now : Time) :
    Except Err CrmLead := do
  validateActor codec "changed-by membership id" changedBy
  if l.stage.isTerminal then .error (l.terminal "temperature change")
  else if l.temperature = newTemp then .ok l
  else if now.isZero then .error ⟨errInvalid, "now required"⟩
  else .ok (recordEvent { l with temperature := newTemp }
    (.temperatureChanged l.id l.tenantID l.temperature newTemp changedBy now))

def convert (l : CrmLead) (convertedBy : String) (now : Time) : Except Err CrmLead := do
  validateActor codec "converted-by membership id" convertedBy
  if l.stage.isTerminal then .error (l.terminal "conversion")
  else if now.isZero then .error ⟨errInvalid, "now required"⟩
  else .ok (recordEvent
    { l with stage := .converted, convertedAt := now, convertedByMembershipID := convertedBy }
    (.converted l.id l.tenantID convertedBy now))

def lose (l : CrmLead) (lostBy reason : String) (now : Time) : Except Err CrmLead := do
  validateActor codec "lost-by membership id" lostBy
  if isBlank reason then .error ⟨errInvalid, "lose reason required for audit"⟩
  else if lostReasonMax < reason.utf8ByteSize then
    .error ⟨errInvalid, s!"lose reason too long (max 1000, got {reason.utf8ByteSize})"⟩
  else if l.stage.isTerminal then .error (l.terminal "lose")
  else if now.isZero then .error ⟨errInvalid, "now required"⟩
  else .ok (recordEvent
    { l with stage := .lost, lostAt := now, lostByMembershipID := lostBy, lostReason := reason }
    (.lost l.id l.tenantID lostBy reason now))

end

inductive Transition where
  | assign (newAssignee assignedBy reason : String)
  | changeStage (newStage : Stage) (changedBy reason : String)
  | changeTemperature (newTemp : Temperature) (changedBy : String)
  | convert (convertedBy : String)
  | lose (lostBy reason : String)

namespace Transition

def apply (codec : UuidCodec) (t : Transition) (now : Time) (l : CrmLead) : Except Err CrmLead :=
  match t with
  | .assign newAssignee assignedBy reason => l.assign codec newAssignee assignedBy reason now
  | .changeStage newStage changedBy reason => l.changeStage codec newStage changedBy reason now
  | .changeTemperature newTemp changedBy => l.changeTemperature codec newTemp changedBy now
  | .convert convertedBy => l.convert codec convertedBy now
  | .lose lostBy reason => l.lose codec lostBy reason now

def changed (t : Transition) (l l' : CrmLead) : Bool :=
  match t with
  | .assign .. => l'.assigneeMembershipID ≠ l.assigneeMembershipID
  | .changeStage .. => l'.stage ≠ l.stage
  | .changeTemperature .. => l'.temperature ≠ l.temperature
  | .convert .. | .lose .. => true

end Transition

def Event.isOutcome : Event → Bool
  | converted .. | lost .. => true
  | _ => false

def Event.isCreated : Event → Bool
  | created .. => true
  | _ => false

structure Stepped (t : Transition) (l l' : CrmLead) : Prop where
  isOpen : l.stage.isTerminal = false
  id : l'.id = l.id
  tenantID : l'.tenantID = l.tenantID
  recorded : t.changed l l' = true → ∃ e, l'.events = l.events ++ [e] ∧
    e.isOutcome = l'.stage.isTerminal ∧ e.isCreated = false

section

variable {codec : UuidCodec} {l l' : CrmLead} {now : Time} {newAssignee assignedBy reason : String}

theorem assign_eq_ok (h : l.assign codec newAssignee assignedBy reason now = .ok l') :
    l.stage.isTerminal = false ∧ (l.assigneeMembershipID = newAssignee ∧ l' = l ∨
    l.assigneeMembershipID ≠ newAssignee ∧ now.isZero = false ∧
    l' = recordEvent { l with assigneeMembershipID := newAssignee, assignedAt := now }
            (.assigned l.id l.tenantID l.assigneeMembershipID newAssignee assignedBy reason
              now)) := by
  obtain ⟨_, -, h⟩ := except_bind_ok h
  obtain ⟨_, -, h⟩ := except_bind_ok h
  split at h
  · cases h
  next ho =>
    refine ⟨Bool.eq_false_iff.mpr ho, ?_⟩
    split at h
    next hs => exact .inl ⟨hs, (Except.ok.inj h).symm⟩
    next hn =>
      split at h
      · cases h
      next hno => exact .inr ⟨hn, Bool.eq_false_iff.mpr hno, (Except.ok.inj h).symm⟩

theorem stepped_assign (h : l.assign codec newAssignee assignedBy reason now = .ok l') :
    Stepped (.assign newAssignee assignedBy reason) l l' := by
  obtain ⟨ho, ⟨-, rfl⟩ | ⟨-, -, rfl⟩⟩ := assign_eq_ok h
  · exact ⟨ho, rfl, rfl, fun hc => absurd hc (by simp [Transition.changed])⟩
  · exact ⟨ho, rfl, rfl, fun _ => ⟨_, rfl, ho.symm, rfl⟩⟩

variable {changedBy : String}

theorem stepped_changeStage {n : Stage} (h : l.changeStage codec n changedBy reason now = .ok l') :
    Stepped (.changeStage n changedBy reason) l l' := by
  unfold changeStage at h
  split at h
  · cases h
  next hn =>
    obtain ⟨_, -, h⟩ := except_bind_ok h
    split at h
    · cases h
    next ho =>
      have ho : l.stage.isTerminal = false := Bool.eq_false_iff.mpr ho
      split at h
      · cases h
        exact ⟨ho, rfl, rfl, fun hc => absurd hc (by simp [Transition.changed])⟩
      split at h
      · cases h
      split at h
      · cases h
      · cases h
        exact ⟨ho, rfl, rfl, fun _ => ⟨_, rfl, (Bool.eq_false_iff.mpr hn).symm, rfl⟩⟩

theorem stepped_changeTemperature {n : Temperature}
    (h : l.changeTemperature codec n changedBy now = .ok l') :
    Stepped (.changeTemperature n changedBy) l l' := by
  obtain ⟨_, -, h⟩ := except_bind_ok h
  split at h
  · cases h
  next ho =>
    have ho : l.stage.isTerminal = false := Bool.eq_false_iff.mpr ho
    split at h
    · cases h
      exact ⟨ho, rfl, rfl, fun hc => absurd hc (by simp [Transition.changed])⟩
    split at h
    · cases h
    · cases h
      exact ⟨ho, rfl, rfl, fun _ => ⟨_, rfl, ho.symm, rfl⟩⟩

theorem stepped_convert {c : String} (h : l.convert codec c now = .ok l') :
    Stepped (.convert c) l l' := by
  obtain ⟨_, -, h⟩ := except_bind_ok h
  split at h
  · cases h
  next ho =>
    split at h
    · cases h
    · cases h
      exact ⟨Bool.eq_false_iff.mpr ho, rfl, rfl, fun _ => ⟨_, rfl, rfl, rfl⟩⟩

theorem stepped_lose {lo : String} (h : l.lose codec lo reason now = .ok l') :
    Stepped (.lose lo reason) l l' := by
  obtain ⟨_, -, h⟩ := except_bind_ok h
  split at h
  · cases h
  split at h
  · cases h
  split at h
  · cases h
  next ho =>
    split at h
    · cases h
    · cases h
      exact ⟨Bool.eq_false_iff.mpr ho, rfl, rfl, fun _ => ⟨_, rfl, rfl, rfl⟩⟩

theorem Transition.apply_eq_ok {t : Transition} (h : t.apply codec now l = .ok l') :
    Stepped t l l' := by
  cases t with
  | assign newAssignee assignedBy reason => exact stepped_assign h
  | changeStage newStage changedBy reason => exact stepped_changeStage h
  | changeTemperature newTemp changedBy => exact stepped_changeTemperature h
  | convert convertedBy => exact stepped_convert h
  | lose lostBy reason => exact stepped_lose h

end

inductive IntegrationEvent where
  | crmLeadCreatedV1 (leadID tenantID sourcePurchaseID createdByMembershipID : UUID)
      (occurredAt : Time)
  | crmLeadAssignedV1 (leadID tenantID previousAssignee assigneeMembershipID
      assignedByMembershipID : UUID) (occurredAt : Time)
  | crmLeadStageChangedV1 (leadID tenantID : UUID) (oldStage newStage : String)
      (changedByMembershipID : UUID) (reason : String) (occurredAt : Time)
  | crmLeadTemperatureChangedV1 (leadID tenantID : UUID) (oldTemperature newTemperature : String)
      (changedByMembershipID : UUID) (occurredAt : Time)
  | crmLeadConvertedV1 (leadID tenantID convertedByMembershipID : UUID) (occurredAt : Time)
  | crmLeadLostV1 (leadID tenantID lostByMembershipID : UUID) (reason : String) (occurredAt : Time)

section

variable (codec : UuidCodec)

def parseUUID (name raw : String) : Except Err UUID :=
  codec.parseOr ("crm integrationevents: invalid uuid: " ++ name ++ "=") raw

def parseOptionalUUID (name raw : String) : Except Err UUID :=
  if raw = "" then .ok 0 else parseUUID codec name raw

def fromDomainEvent : Event → Except Err IntegrationEvent
  | .created leadID tenantID sourcePurchaseID createdBy at_ => do
    let leadID ← parseUUID codec "lead_id" leadID
    let tenantID ← parseUUID codec "tenant_id" tenantID
    let purchase ← parseOptionalUUID codec "source_purchase_id" sourcePurchaseID
    let createdBy ← parseOptionalUUID codec "created_by_membership_id" createdBy
    return .crmLeadCreatedV1 leadID tenantID purchase createdBy at_
  | .assigned leadID tenantID previous assignee assignedBy _ at_ => do
    let leadID ← parseUUID codec "lead_id" leadID
    let tenantID ← parseUUID codec "tenant_id" tenantID
    let assignee ← parseUUID codec "assignee_membership_id" assignee
    let assignedBy ← parseUUID codec "assigned_by_membership_id" assignedBy
    let previous ← parseOptionalUUID codec "previous_assignee" previous
    return .crmLeadAssignedV1 leadID tenantID previous assignee assignedBy at_
  | .stageChanged leadID tenantID oldStage newStage changedBy reason at_ => do
    let leadID ← parseUUID codec "lead_id" leadID
    let tenantID ← parseUUID codec "tenant_id" tenantID
    let changedBy ← parseUUID codec "changed_by_membership_id" changedBy
    return .crmLeadStageChangedV1 leadID tenantID oldStage.string newStage.string changedBy reason
      at_
  | .temperatureChanged leadID tenantID oldTemperature newTemperature changedBy at_ => do
    let leadID ← parseUUID codec "lead_id" leadID
    let tenantID ← parseUUID codec "tenant_id" tenantID
    let changedBy ← parseUUID codec "changed_by_membership_id" changedBy
    return .crmLeadTemperatureChangedV1 leadID tenantID oldTemperature.string
      newTemperature.string changedBy at_
  | .converted leadID tenantID convertedBy at_ => do
    let leadID ← parseUUID codec "lead_id" leadID
    let tenantID ← parseUUID codec "tenant_id" tenantID
    let convertedBy ← parseUUID codec "converted_by_membership_id" convertedBy
    return .crmLeadConvertedV1 leadID tenantID convertedBy at_
  | .lost leadID tenantID lostBy reason at_ => do
    let leadID ← parseUUID codec "lead_id" leadID
    let tenantID ← parseUUID codec "tenant_id" tenantID
    let lostBy ← parseUUID codec "lost_by_membership_id" lostBy
    return .crmLeadLostV1 leadID tenantID lostBy reason at_

def mapDomainEvents (events : List Event) : Except Err (List IntegrationEvent) :=
  events.mapM (fromDomainEvent codec)

end

def IntegrationEvent.outcomeOf : IntegrationEvent → Option UUID
  | crmLeadConvertedV1 leadID .. | crmLeadLostV1 leadID .. => some leadID
  | _ => none

def IntegrationEvent.createdFrom : IntegrationEvent → Option UUID
  | crmLeadCreatedV1 _ _ sourcePurchaseID _ _ => some sourcePurchaseID
  | _ => none

theorem mapDomainEvents_singleton {codec : UuidCodec} {e : Event} {ms : List IntegrationEvent}
    (h : mapDomainEvents codec [e] = .ok ms) : ∃ m, fromDomainEvent codec e = .ok m ∧ ms = [m] := by
  unfold mapDomainEvents at h
  rw [List.mapM_cons, List.mapM_nil] at h
  obtain ⟨m, hm, h⟩ := except_bind_ok h
  exact ⟨m, hm, (Except.ok.inj h).symm⟩

theorem fromDomainEvent_kind {codec : UuidCodec} {e : Event} {m : IntegrationEvent}
    (h : fromDomainEvent codec e = .ok m) :
    m.outcomeOf.isSome = e.isOutcome ∧ m.createdFrom.isSome = e.isCreated := by
  cases e with
  | created leadID tenantID sourcePurchaseID createdBy at_ =>
    simp only [fromDomainEvent, except_bind_eq_ok] at h
    obtain ⟨_, -, _, -, _, -, _, -, h⟩ := h
    cases h
    exact ⟨rfl, rfl⟩
  | assigned leadID tenantID previous assignee assignedBy reason at_ =>
    simp only [fromDomainEvent, except_bind_eq_ok] at h
    obtain ⟨_, -, _, -, _, -, _, -, _, -, h⟩ := h
    cases h
    exact ⟨rfl, rfl⟩
  | stageChanged | temperatureChanged | converted | lost =>
    simp only [fromDomainEvent, except_bind_eq_ok] at h
    obtain ⟨_, -, _, -, _, -, h⟩ := h
    cases h
    exact ⟨rfl, rfl⟩

end CrmLead

end Leadkart
