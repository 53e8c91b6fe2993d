import Leadkart.Crm.CrmLead
import Leadkart.Logic.Transactions

/-!
# The CRM lead repository
-/

namespace Leadkart.CrmLead

open List Effect Transaction

structure Row where
  (id tenantID : UUID)
  (sourcePurchaseID sourcePlatformLeadID : Option UUID := none)
  (stage temperature contactName phoneE164 : String)
  (city district state pincode businessType medicineSystem orderValue buyTimeline : String := "")
  (hasDrugLicence hasGst gstVerified : Bool := false)
  (productRanges dosageForms : Option (List String))
  extraProfile : ExtraProfile := {}
  assigneeMembershipID : Option UUID := none
  (assignedAt convertedAt : Option Time := none)
  convertedByMembershipID : Option UUID := none
  lostAt : Option Time := none
  lostByMembershipID : Option UUID := none
  lostReason : String := ""
  createdAt : Time
  createdByMembershipID : Option UUID := none
  deriving DecidableEq

def notNull {α : Type} (column : Row → Option α) (r : Row) : Except SqlError Unit :=
  if (column r).isSome then .ok () else .error ⟨.notNullViolation, ""⟩

theorem notNull_eq_ok {α : Type} {c : Row → Option α} {r : Row} :
    notNull c r = .ok () ↔ (c r).isSome = true := by
  unfold notNull
  split <;> simp_all

def pkey : UniqueIndex Row where
  name := "crm_leads_pkey"
  Key := UUID
  key r := some r.id

def uqCrmLeadsSourcePurchase : UniqueIndex Row where
  name := "uq_crm_leads_source_purchase"
  Key := UUID
  key r := r.sourcePurchaseID

def crmLeads (codec : UuidCodec) : SqlRelation Row where
  policies := App.tenantPolicies codec Row.tenantID
  constraints :=
    [notNull Row.productRanges, notNull Row.dosageForms,
      Sql.check "crm_leads_business_type_check" fun r =>
        r.businessType ∈ ["", "PCD", "ThirdParty"],
      Sql.check "crm_leads_buy_timeline_check" fun r =>
        r.buyTimeline ∈ ["", "WithinWeek", "Within15Days", "WithinMonth"],
      Sql.check "crm_leads_contact_name_check" fun r =>
        1 ≤ r.contactName.toList.length && r.contactName.toList.length ≤ 200,
      Sql.check "crm_leads_medicine_system_check" fun r =>
        r.medicineSystem ∈ ["", "Allopathic", "Ayurvedic"],
      Sql.check "crm_leads_order_value_check" fun r =>
        r.orderValue ∈ ["", "Below5000", "Upto25000", "Upto50000", "Above50000"],
      Sql.check "crm_leads_phone_e164_check" fun r =>
        LeadForm.mobilePattern.matchString r.phoneE164,
      Sql.check "crm_leads_pincode_check" fun r =>
        r.pincode = "" || LeadForm.pincodePattern.matchString r.pincode,
      Sql.check "crm_leads_stage_check" fun r =>
        r.stage ∈ ["new", "contacted", "interested", "negotiation", "converted", "lost"],
      Sql.check "crm_leads_temperature_check" fun r =>
        r.temperature ∈ ["hot", "warm", "cold", "dead"]]
  indexes := [pkey, uqCrmLeadsSourcePurchase]

theorem meets_iff {codec : UuidCodec} {r : Row} : (crmLeads codec).meets r = .ok () ↔
    r.productRanges.isSome = true ∧ r.dosageForms.isSome = true ∧
    r.businessType ∈ ["", "PCD", "ThirdParty"] ∧
    r.buyTimeline ∈ ["", "WithinWeek", "Within15Days", "WithinMonth"] ∧
    (1 ≤ r.contactName.toList.length ∧ r.contactName.toList.length ≤ 200) ∧
    r.medicineSystem ∈ ["", "Allopathic", "Ayurvedic"] ∧
    r.orderValue ∈ ["", "Below5000", "Upto25000", "Upto50000", "Above50000"] ∧
    LeadForm.mobilePattern.matchString r.phoneE164 = true ∧
    (r.pincode = "" ∨ LeadForm.pincodePattern.matchString r.pincode = true) ∧
    r.stage ∈ ["new", "contacted", "interested", "negotiation", "converted", "lost"] ∧
    r.temperature ∈ ["hot", "warm", "cold", "dead"] := by
  rw [SqlRelation.meets_eq_ok]
  unfold crmLeads
  simp only [List.forall_mem_cons, List.not_mem_nil, false_implies, implies_true, and_true,
    notNull_eq_ok, Sql.check_eq_ok, decide_eq_true_iff, Bool.and_eq_true, Bool.or_eq_true]

theorem clash_iff {codec : UuidCodec} {a b : Row} : (crmLeads codec).Clash a b ↔
    a.id = b.id ∨ a.sourcePurchaseID ≠ none ∧ a.sourcePurchaseID = b.sourcePurchaseID := by
  simp [SqlRelation.Clash, crmLeads, UniqueIndex.Clash, pkey, uqCrmLeadsSourcePurchase]

structure HistoryRow where
  (id tenantID leadID : UUID)
  previousAssigneeMembershipID : Option UUID
  (assigneeMembershipID assignedByMembershipID : UUID)
  reason : String
  (assignedAt createdAt : Time)
  deriving DecidableEq

def assignmentHistory (codec : UuidCodec) : SqlRelation HistoryRow where
  policies :=
    { select := fun s r => App.ownOrPlatform codec r.tenantID s
      insertCheck := fun s r => App.ownOrPlatform codec r.tenantID s
      updateUsing := fun _ _ => .ok (some false)
      updateCheck := fun _ _ => .ok (some false) }
  constraints := []
  indexes := [{ name := "assignment_history_pkey", Key := UUID, key := fun r => some r.id }]

structure OutboxMessage where
  tenantID : UUID
  event : IntegrationEvent

structure Store (codec : UuidCodec) where
  leads : (crmLeads codec).Rows := {}
  history : (assignmentHistory codec).Rows := {}
  outbox : List OutboxMessage := []

def rowToLead (codec : UuidCodec) (row : Row) : Except Err CrmLead := do
  let stored (name raw : String) (e : Err) : Err :=
    ⟨e.sentinel, "crm lead repo: stored " ++ name ++ " " ++ raw ++ " invalid: " ++ e.detail⟩
  let stage ← (parseStage row.stage).mapError (stored "stage" row.stage)
  let temperature ←
    (parseTemperature row.temperature).mapError (stored "temperature" row.temperature)
  return {
    id := codec.string row.id
    tenantID := codec.string row.tenantID
    profile :=
      { contactName := row.contactName
        phoneE164 := row.phoneE164
        city := row.city
        district := row.district
        state := row.state
        pincode := row.pincode
        businessType := BusinessType.parse row.businessType
        medicineSystem := MedicineSystem.parse row.medicineSystem
        orderValue := OrderValue.parse row.orderValue
        buyTimeline := BuyTimeline.parse row.buyTimeline
        hasDrugLicence := row.hasDrugLicence
        hasGst := row.hasGst
        gstVerified := row.gstVerified
        productRanges := row.productRanges
        dosageForms := row.dosageForms
        extra := row.extraProfile }
    stage, temperature
    sourcePurchaseID := codec.uuidStringIfValid row.sourcePurchaseID
    sourcePlatformLeadID := codec.uuidStringIfValid row.sourcePlatformLeadID
    assigneeMembershipID := codec.uuidStringIfValid row.assigneeMembershipID
    assignedAt := timeFromPg row.assignedAt
    convertedAt := timeFromPg row.convertedAt
    convertedByMembershipID := codec.uuidStringIfValid row.convertedByMembershipID
    lostAt := timeFromPg row.lostAt
    lostByMembershipID := codec.uuidStringIfValid row.lostByMembershipID
    lostReason := row.lostReason
    createdAt := row.createdAt
    createdByMembershipID := codec.uuidStringIfValid row.createdByMembershipID }

def parseID (codec : UuidCodec) (name raw : String) : Except Err UUID :=
  codec.parseOr ("crm lead repo: parse " ++ name ++ " ") raw

def insertParams (codec : UuidCodec) (l : CrmLead) (id tenantID : UUID) : Row where
  id := id
  tenantID := tenantID
  sourcePurchaseID := codec.pgUUIDOptStr l.sourcePurchaseID
  sourcePlatformLeadID := codec.pgUUIDOptStr l.sourcePlatformLeadID
  stage := l.stage.string
  temperature := l.temperature.string
  contactName := l.profile.contactName
  phoneE164 := l.profile.phoneE164
  city := l.profile.city
  district := l.profile.district
  state := l.profile.state
  pincode := l.profile.pincode
  businessType := textOf BusinessType.string l.profile.businessType
  medicineSystem := textOf MedicineSystem.string l.profile.medicineSystem
  orderValue := textOf OrderValue.string l.profile.orderValue
  buyTimeline := textOf BuyTimeline.string l.profile.buyTimeline
  hasDrugLicence := l.profile.hasDrugLicence
  hasGst := l.profile.hasGst
  gstVerified := l.profile.gstVerified
  productRanges := l.profile.productRanges
  dosageForms := l.profile.dosageForms
  extraProfile := l.profile.extra
  assigneeMembershipID := codec.pgUUIDOptStr l.assigneeMembershipID
  assignedAt := pgTimestamp l.assignedAt
  convertedAt := pgTimestamp l.convertedAt
  convertedByMembershipID := codec.pgUUIDOptStr l.convertedByMembershipID
  lostAt := pgTimestamp l.lostAt
  lostByMembershipID := codec.pgUUIDOptStr l.lostByMembershipID
  lostReason := l.lostReason
  createdAt := l.createdAt
  createdByMembershipID := codec.pgUUIDOptStr l.createdByMembershipID

def rowOf (codec : UuidCodec) (l : CrmLead) : Except Err Row := do
  let lid ← parseID codec "id" l.id
  let tid ← parseID codec "tenant id" l.tenantID
  return insertParams codec l lid tid

def updateParams (codec : UuidCodec) (l : CrmLead) (row : Row) : Row :=
  { insertParams codec l row.id row.tenantID with
    sourcePurchaseID := row.sourcePurchaseID
    sourcePlatformLeadID := row.sourcePlatformLeadID
    createdAt := row.createdAt
    createdByMembershipID := row.createdByMembershipID }

abbrev Tx := Pg.Tx Row

abbrev Conn := Pg.Conn Row

section

variable {codec : UuidCodec}

def hasID (id : UUID) (r : Row) : Bool := r.id = id

def hasPurchase (purchaseID : UUID) (r : Row) : Bool := r.sourcePurchaseID = some purchaseID

def loadLead (tx : Tx) (id : String) (s : Store codec) : Except Err CrmLead := do
  let lid ← parseID codec "id" id
  let row ← Pg.queryRow "crm lead repo: get by id: " ⟨errNotFound, ""⟩
    ((crmLeads codec).select tx.settings tx.plan (hasID lid) s.leads)
  rowToLead codec row

def loadByPurchase (tx : Tx) (purchaseID : UUID) (s : Store codec) : Except Err CrmLead := do
  let row ← Pg.queryRow "crm lead repo: get by purchase id: " ⟨errNotFound, ""⟩
    ((crmLeads codec).select tx.settings tx.plan (hasPurchase purchaseID) s.leads)
  rowToLead codec row

def insertLeadRow (tx : Tx) (row : Row) (s : Store codec) : Except Err (Store codec) := do
  let leads ← ((crmLeads codec).insert tx.settings row s.leads).mapError (Pg.wrapped "")
  return { s with leads }

def persistLeadState (tx : Tx) (l : CrmLead) (s : Store codec) : Except Err (Store codec) := do
  let lid ← parseID codec "id" l.id
  let leads ← ((crmLeads codec).update tx.settings tx.plan (hasID lid) (updateParams codec l)
    s.leads).mapError (Pg.wrapped "")
  return { s with leads }

def drainLeadEvents (l : CrmLead) (s : Store codec) : Except Err (Store codec) :=
  if l.events = [] then .ok s
  else do
    let tid ← parseID codec "tenant id" l.tenantID
    let mapped ← (mapDomainEvents codec l.events).mapError fun e =>
      ⟨e.sentinel, "crm lead repo: map events: " ++ e.detail⟩
    return { s with outbox := s.outbox ++ mapped.map (OutboxMessage.mk tid) }

/-! ## The repository -/

inductive Key where
  | lead (id : UUID)
  | purchase (id : UUID)
  | entry (id : UUID)
  deriving DecidableEq

def Row.keys (r : Row) : List Key := .lead r.id :: (r.sourcePurchaseID.map Key.purchase).toList

variable (codec) in
abbrev Program (α : Type) := Transaction Key (Store codec) Err α

variable (codec) in
abbrev Repo (α : Type) := Effect (Store codec) Err α

def onTx {α : Type} (conn : Conn) (tenantID : String) (fn : Tx → Program codec α) :
    Program codec α := do
  let settings ← ofExcept
    (Pg.setTenantOnTxExplicit (Settings.residue conn.history) tenantID)
  fn ⟨settings, conn.plan⟩

variable {conn : Conn}

theorem onTx_eq {α : Type} {tenantID : String} {fn : Tx → Program codec α} (hne : tenantID ≠ "") :
    onTx conn tenantID fn = fn (conn.tx tenantID) := by
  unfold onTx Pg.setTenantOnTxExplicit
  rw [if_neg hne]
  rfl

def addOnTx (tx : Tx) (l : CrmLead) : Program codec Unit := do
  let row ← ofExcept (rowOf codec l)
  write (fun _ => row.keys) (insertLeadRow tx row)
  write (fun _ => []) (drainLeadEvents l)

def add (conn : Conn) (l : CrmLead) : Program codec Unit :=
  onTx conn l.tenantID fun tx => addOnTx tx l

theorem add_eq_ok {l : CrmLead} {s s' : Store codec} (hne : l.tenantID ≠ "") :
    (add conn l).effect.run s = (.ok (), s') ↔
    ∃ row s₁, rowOf codec l = .ok row ∧ insertLeadRow (conn.tx l.tenantID) row s = .ok s₁ ∧
    drainLeadEvents l s₁ = .ok s' := by
  unfold add
  rw [onTx_eq hne]
  unfold addOnTx
  simp only [effect_bind, effect_ofExcept, effect_write, bind_eq_ok, ofExcept_eq_ok, write_eq_ok]
  constructor
  · rintro ⟨row, _, ⟨hrow, rfl⟩, ⟨⟩, s₁, hi, hd⟩
    exact ⟨row, s₁, hrow, write_eq_ok.mp hi, hd⟩
  · rintro ⟨row, s₁, hrow, hi, hd⟩
    exact ⟨row, s, ⟨hrow, rfl⟩, (), s₁, write_eq_ok.mpr hi, hd⟩

def getByID (conn : Conn) (tenantID id : String) : Repo codec CrmLead :=
  Pg.withinTx conn tenantID fun tx => Effect.query (loadLead tx id)

def getBySourcePurchaseID (conn : Conn) (tenantID purchaseID : String) : Program codec CrmLead := do
  let pid ← ofExcept (parseID codec "purchase_id" purchaseID)
  onTx conn tenantID fun tx => Transaction.query (loadByPurchase tx pid)

theorem getBySourcePurchaseID_eq {tenantID p : String} {pid : UUID}
    (hp : codec.parse p = some pid) (hne : tenantID ≠ "") :
    (getBySourcePurchaseID conn tenantID p : Program codec CrmLead) =
    Transaction.query (loadByPurchase (conn.tx tenantID) pid) := by
  unfold getBySourcePurchaseID parseID
  rw [UuidCodec.parseOr_ok hp]
  show onTx conn tenantID (fun tx => Transaction.query (loadByPurchase tx pid)) = _
  rw [onTx_eq hne]

abbrev UpdateFn (γ : Type) := CrmLead → Except Err (Bool × CrmLead × γ)

def hitKeys (l : CrmLead) (s : Store codec) : List Key :=
  (s.leads.rows.filter fun r => codec.parse l.id = some r.id).map fun r => .lead r.id

def persist (tx : Tx) (l : CrmLead) : Program codec Unit := do
  write (hitKeys l) (persistLeadState tx l)
  write (fun _ => []) (drainLeadEvents l)

def persistIf (tx : Tx) (wrote : Bool) (l : CrmLead) : Program codec Unit :=
  if wrote then persist tx l else pure ()

def updateOnTx {γ : Type} (tx : Tx) (id : String) (updateFn : UpdateFn γ) :
    Program codec (Bool × γ) := do
  let l ← Transaction.query (loadLead tx id)
  let r ← ofExcept (updateFn l)
  persistIf tx r.1 r.2.1
  return (r.1, r.2.2)

def updateByID {γ : Type} (conn : Conn) (tenantID id : String) (updateFn : UpdateFn γ) :
    Program codec (Bool × γ) := onTx conn tenantID fun tx => updateOnTx tx id updateFn

structure ListFilter where
  stage : Option Stage := none
  temperature : Option Temperature := none
  (assigneeMembershipID selfFilter city pincode businessType medicineSystem : String := "")
  (productRanges dosageForms : List String := [])
  nameQuery : String := ""

def nullableTextArray (l : List String) : Option (List String) := if l.isEmpty then none else some l

def nameQueryPattern (raw : String) : Option String :=
  if raw = "" then none else some ("%" ++ raw ++ "%")

def containsAll (column : Option (List String)) (values : List String) : Bool :=
  column.any fun c => values.all fun v => v ∈ c

def beforeCursor (r : Row) (createdAt : Time) (id : Option UUID) : Bool :=
  r.createdAt < createdAt || (r.createdAt = createdAt && id.any fun id => r.id < id)

def listed (codec : UuidCodec) (ilike : String → String → Bool) (tenantID : UUID)
    (filter : ListFilter) (cursor : Cursor) (r : Row) : Bool :=
  r.tenantID = tenantID &&
    filter.stage.all (r.stage = ·.string) &&
    filter.temperature.all (r.temperature = ·.string) &&
    (codec.pgUUIDOptStr filter.assigneeMembershipID).all (r.assigneeMembershipID = some ·) &&
    (codec.pgUUIDOptStr filter.selfFilter).all (r.assigneeMembershipID = some ·) &&
    (zeroToNil filter.city).all (r.city = ·) &&
    (zeroToNil filter.pincode).all (r.pincode = ·) &&
    (zeroToNil filter.businessType).all (r.businessType = ·) &&
    (zeroToNil filter.medicineSystem).all (r.medicineSystem = ·) &&
    (nullableTextArray filter.productRanges).all (containsAll r.productRanges) &&
    (nullableTextArray filter.dosageForms).all (containsAll r.dosageForms) &&
    (nameQueryPattern filter.nameQuery).all (ilike r.contactName) &&
    (pgTimestamp cursor.sortValue).all (beforeCursor r · (codec.pgUUIDOptStr cursor.id))

def listedBefore (a b : Row) : Bool :=
  b.createdAt < a.createdAt || (a.createdAt = b.createdAt && b.id ≤ a.id)

def pageOf (codec : UuidCodec) (pageSize : Nat) (rows : List Row) : Except Err (Page CrmLead) := do
  let hasMore := decide (pageSize < rows.length)
  let items ← (rows.take pageSize).mapM (rowToLead codec)
  let next := if hasMore then items.getLast?.map fun last => ⟨last.createdAt, last.id⟩ else none
  return ⟨items, hasMore, next⟩

def listPage (ilike : String → String → Bool) (conn : Conn) (tenantID : String)
    (filter : ListFilter) (cursor : Cursor) (pageSize : Int) : Repo codec (Page CrmLead) := do
  let tid ← ofExcept (parseID codec "tenant id" tenantID)
  let rows ← Pg.withinTx conn tenantID fun tx => Effect.query fun s =>
    match (crmLeads codec).select tx.settings tx.plan (listed codec ilike tid filter cursor)
        s.leads with
    | .error e => .error (Pg.wrapped "crm lead repo: list page: " e)
    | .ok rows => .ok ((rows.mergeSort listedBefore).take (clampPageSize pageSize + 1))
  ofExcept (pageOf codec (clampPageSize pageSize) rows)

end

open SqlRelation

variable {codec : UuidCodec} {tenantID : String} {T : UUID} {s s' : Store codec}

def leadOf (T id : UUID) (s : Store codec) : Option Row :=
  s.leads.find? fun r => decide (r.tenantID = T) && hasID id r

variable {row : Row}

theorem leadOf_ids {id : UUID} (h : leadOf T id s = some row) : row.tenantID = T ∧ row.id = id := by
  have hp := (Table.mem_of_find? h).2
  rw [Bool.and_eq_true, decide_eq_true_iff] at hp
  exact ⟨hp.1, of_decide_eq_true hp.2⟩

def Bound (codec : UuidCodec) (T : UUID) (tx : Tx) : Prop :=
  Confines (crmLeads codec) Row.tenantID T tx.settings

theorem bound_tx (hT : codec.input tenantID = some T) (conn : Conn) :
    Bound codec T (conn.tx tenantID) := 
    App.confines_tenantPolicies rfl hT conn

variable {tx : Tx} {id : String} {lid : UUID} {l : CrmLead}

theorem loadLead_eq (htx : Bound codec T tx) (hid : codec.parse id = some lid) : loadLead tx id s =
      match leadOf T lid s with
      | some row => rowToLead codec row
      | none => .error ⟨errNotFound, ""⟩ := by
  unfold loadLead parseID
  rw [UuidCodec.parseOr_ok hid]
  show (Pg.queryRow _ _ ((crmLeads codec).select tx.settings tx.plan (hasID lid) s.leads) >>=
    fun row => rowToLead codec row) = _
  rw [Pg.queryRow_confined htx]
  unfold leadOf
  rcases s.leads.find? fun r => decide (r.tenantID = T) && hasID lid r with _ | row <;> rfl

theorem loadLead_eq_ok (htx : Bound codec T tx) (hid : codec.parse id = some lid) :
    loadLead tx id s = .ok l ↔ ∃ row, leadOf T lid s = some row ∧ rowToLead codec row = .ok l := by
  rw [loadLead_eq htx hid]
  rcases leadOf T lid s with _ | row <;> simp

theorem persistLeadState_eq_ok (htx : Bound codec T tx) (hid : codec.parse l.id = some lid)
    (h : persistLeadState tx l s = .ok s') :
    leadOf T lid s' = (leadOf T lid s).map (updateParams codec l) ∧ s'.history = s.history ∧
    s'.outbox = s.outbox := by
  unfold persistLeadState parseID at h
  rw [UuidCodec.parseOr_ok hid] at h
  simp only [except_bind_eq_ok] at h
  obtain ⟨_, ⟨⟩, leads, hu, h⟩ := h
  cases h
  have ho : ∀ r, (updateParams codec l r).tenantID = r.tenantID := fun _ => rfl
  exact ⟨update_find? htx ho (fun _ hr => hr) (except_mapError_ok hu), rfl, rfl⟩

theorem drainLeadEvents_eq_ok (h : drainLeadEvents l s = .ok s') :
    ∃ messages, mapDomainEvents codec l.events = .ok (messages.map OutboxMessage.event) ∧
    ∀ u : Store codec, drainLeadEvents l u = .ok { u with outbox := u.outbox ++ messages } := by
  unfold drainLeadEvents at h ⊢
  split at h
  next hn =>
    refine ⟨[], ?_, fun u => ?_⟩
    · rw [hn]
      rfl
    · rw [if_pos hn, append_nil]
  next he =>
    obtain ⟨tid, ht, h⟩ := except_bind_ok h
    obtain ⟨mapped, hm, -⟩ := except_bind_ok h
    refine ⟨mapped.map (OutboxMessage.mk tid), ?_, fun u => ?_⟩
    · rw [except_mapError_ok hm, map_map]
      exact congrArg Except.ok (map_id mapped).symm
    · rw [if_neg he, ht, hm]
      rfl

theorem persistLeadState_rows (h : persistLeadState tx l s = .ok s') :
    s'.outbox = s.outbox ∧ s'.history = s.history ∧
    (∀ q ∈ s'.leads, ∃ r ∈ s.leads, q.keys = r.keys ∧ q.tenantID = r.tenantID ∧
    (q = r ∨ (crmLeads codec).meets q = .ok ())) ∧
    ∀ r ∈ s.leads, ∃ q ∈ s'.leads, q.keys = r.keys := by
  obtain ⟨lid, -, h⟩ := except_bind_ok h
  obtain ⟨leads, hu, h⟩ := except_bind_ok h
  cases h
  obtain ⟨hit, hme, hh⟩ := update_rows (except_mapError_ok hu)
  refine ⟨rfl, rfl, fun q hq => ?_, fun r hr => ?_⟩
  · obtain ⟨r, hr, rfl⟩ := (hme q).mp hq
    refine ⟨r, hr, ?_⟩
    split
    next hm => exact ⟨rfl, rfl, .inr (hh r hm).2.2⟩
    next => exact ⟨rfl, rfl, .inl rfl⟩
  · refine ⟨_, (hme _).mpr ⟨r, hr, rfl⟩, ?_⟩
    split <;> rfl

theorem rowToLead_ok (h : (crmLeads codec).meets row = .ok ()) :
    ∃ l, rowToLead codec row = .ok l := by
  obtain ⟨-, -, -, -, -, -, -, -, -, hs, ht⟩ := meets_iff.mp h
  obtain ⟨stage, hs⟩ : ∃ stage, parseStage row.stage = .ok stage := by
    simp only [mem_cons, not_mem_nil, or_false] at hs
    rcases hs with h | h | h | h | h | h <;> rw [h] <;> exact ⟨_, rfl⟩
  obtain ⟨temperature, ht⟩ : ∃ t, parseTemperature row.temperature = .ok t := by
    simp only [mem_cons, not_mem_nil, or_false] at ht
    rcases ht with h | h | h | h <;> rw [h] <;> exact ⟨_, rfl⟩
  unfold rowToLead
  rw [hs, ht]
  exact ⟨_, rfl⟩

theorem rowToLead_eq_ok (h : rowToLead codec row = .ok l) :
    l.id = codec.string row.id ∧ l.tenantID = codec.string row.tenantID ∧ l.events = [] ∧
    parseStage row.stage = .ok l.stage ∧
    l.assigneeMembershipID = codec.uuidStringIfValid row.assigneeMembershipID := by
  simp only [rowToLead, except_bind_eq_ok] at h
  obtain ⟨stage, hs, temperature, -, h⟩ := h
  cases h
  exact ⟨rfl, rfl, rfl, except_mapError_ok hs, rfl⟩

end Leadkart.CrmLead
