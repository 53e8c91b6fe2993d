import Leadkart.Logic.Transactions
import Leadkart.Platform.LeadCredit
import Leadkart.Platform.PlatformLead

/-!
# The lead marketplace
-/

namespace Leadkart

structure LeadCredit.Row where
  (balance version : Int64)
  (createdAt updatedAt : Time)
  check_balance : 0 ≤ balance

namespace Marketplace

structure PurchaseRow where
  (id leadID tenantID createdByMembershipID : UUID)
  amountPaisa : Int64
  purchasedAt : Time
  check_amount : 0 < amountPaisa

inductive IntegrationEvent where
  | leadCreditAdjustedV1 (tenantID adjustmentID : String) (deltaCredits newBalanceCredits : Int64)
      (reason : String) (adjustedAt : Time) (adjustedByMembershipID : String)
  | leadPurchasedV1 (purchaseID tenantID platformLeadID : String) (purchasedAt : Time)
      (purchasedByMembershipID : String) (amountPaisa : Int64) (leadSnapshot : LeadForm)

structure OutboxMessage where
  tenantID : Option UUID
  event : IntegrationEvent

structure Db where
  credits : UUID → Option LeadCredit.Row
  leads : UUID → Option PlatformLead.Row
  tiers : PlatformLead.Tier → Option PlatformLead.TierConfig
  purchases : List PurchaseRow
  outbox : List OutboxMessage

inductive Key where
  | credit (tenantID : UUID)
  | lead (id : UUID)
  | purchase (id : UUID)
  deriving DecidableEq

namespace Db

def setCredit (db : Db) (tenantID : UUID) (row : LeadCredit.Row) : Db :=
  { db with credits := Function.update db.credits tenantID (some row) }

def setLead (db : Db) (id : UUID) (row : PlatformLead.Row) : Db :=
  { db with leads := Function.update db.leads id (some row) }

def addPurchase (db : Db) (p : PurchaseRow) : Db := { db with purchases := db.purchases ++ [p] }

def publish (db : Db) (messages : List OutboxMessage) : Db :=
  { db with outbox := db.outbox ++ messages }

def purchasesOf (db : Db) (leadID : UUID) : List PurchaseRow :=
  db.purchases.filter fun p => p.leadID = leadID

end Db

abbrev Tx := Transaction Key Db Err

open Transaction

def publishOutbox (tenantID : Option UUID) (events : List IntegrationEvent) : Tx Unit :=
  if events.isEmpty then pure ()
  else statement (fun _ => []) fun _ =>
    .ok ((), fun db => db.publish (events.map (OutboxMessage.mk tenantID)))

def adjustedMessage (adjustmentID : String) (e : LeadCredit.AdjustedEvent) : IntegrationEvent :=
  .leadCreditAdjustedV1 e.tenantID adjustmentID e.delta e.newBalance e.reason e.adjustedAt
    e.adjustedByMembershipID

def leadMessage : PlatformLead.Event → Option IntegrationEvent
  | .verified .. | .purchased .. => none

def wrapError (text : String) (e : Err) : Err := ⟨e.sentinel, text ++ e.detail⟩

section

variable (codec : UuidCodec)

def unmarshalFromDB (tenantID : UUID) (row : LeadCredit.Row) : LeadCredit where
  tenantID := codec.string tenantID
  balance := row.balance
  version := row.version
  createdAt := row.createdAt
  updatedAt := row.updatedAt

def loadCredit (id : String) (db : Db) : Except Err LeadCredit := do
  let tid ← codec.parseOr "lead credit repo: parse tenant id: " id
  match db.credits tid with
  | none => .error ⟨LeadCredit.errNotFound, ""⟩
  | some row => .ok (unmarshalFromDB codec tid row)

def getByTenant (id : String) : Tx LeadCredit := query (loadCredit codec id)

def versionedRow (tid : UUID) (version : Int64) (db : Db) : Option LeadCredit.Row :=
  (db.credits tid).filter fun row => row.version = version

def updateCreditRow (tid : UUID) (l : LeadCredit) (db : Db) : Except Err (Nat × (Db → Db)) :=
  match versionedRow tid l.version db with
  | none => .ok (0, id)
  | some row =>
    if l.version = Int64.maxValue then
      .error (.foreign "lead credit repo: update: 22003 bigint out of range")
    else if hcheck : 0 ≤ l.balance then
      .ok (1, fun db => db.setCredit tid
        { row with
          balance := l.balance
          version := l.version + 1
          updatedAt := l.updatedAt
          check_balance := hcheck })
    else .error (Pg.wrapped "lead credit repo: update: "
      ⟨.checkViolation, "lead_credits_balance_check"⟩)

def insertCreditRow (tid : UUID) (l : LeadCredit) (db : Db) : Except Err (Unit × (Db → Db)) :=
  if hcheck : 0 ≤ l.balance then
    if (db.credits tid).isSome then
      .error (Pg.wrapped "lead credit repo: insert: " ⟨.uniqueViolation, "lead_credits_pkey"⟩)
    else .ok ((), fun db => db.setCredit tid
      { balance := l.balance, version := 1, createdAt := l.createdAt, updatedAt := l.updatedAt
        check_balance := hcheck })
  else .error (Pg.wrapped "lead credit repo: insert: "
    ⟨.checkViolation, "lead_credits_balance_check"⟩)

def upsertWithVersion (adjustmentID : String) (l : LeadCredit) : Tx Unit := do
  let tid ← ofExcept (codec.parseOr "lead credit repo: parse tenant id: " l.tenantID)
  let affected ← statement
    (fun db => ((versionedRow tid l.version db).map fun _ => .credit tid).toList)
    (updateCreditRow tid l)
  if affected = 0 then
    if l.version ≠ 0 then fail ⟨LeadCredit.errConflict, ""⟩
    else
      -- a row that someone else is inserting is waited for
      statement (fun db => if (db.credits tid).isNone then [.credit tid] else [])
        (insertCreditRow tid l)
      publishOutbox (pgUUIDOrNull tid) (l.events.map (adjustedMessage adjustmentID))
  else publishOutbox (pgUUIDOrNull tid) (l.events.map (adjustedMessage adjustmentID))

def rowToPlatformLead (row : PlatformLead.Row) (buyers : List String) : PlatformLead where
  id := codec.string row.id
  sourceContactID := codec.string row.sourceContactID
  form := row.form
  gstVerified := row.gstVerified
  tier := row.tier
  saleLimit := row.saleLimit
  buyers := buyers
  verifiedAt := row.verifiedAt
  verifiedByMembershipID := codec.string row.verifiedByMembershipID
  createdAt := row.createdAt

def findLead (uid : UUID) (db : Db) : Except Err PlatformLead.Row :=
  match db.leads uid with
  | none => .error ⟨PlatformLead.errNotFound, ""⟩
  | some row => .ok row

def getByID (id : String) : Tx PlatformLead := do
  let uid ← ofExcept (codec.parseOr "platform lead repo: parse id " id)
  let row ← query (findLead uid)
  return rowToPlatformLead codec row []

def loadPlatformLeadForUpdate (id : String) : Tx PlatformLead := do
  let uid ← ofExcept (codec.parseOr "platform lead repo: parse id " id)
  let row ← statement (fun db => ((db.leads uid).map fun _ => .lead uid).toList) fun db =>
    (findLead uid db).map fun row => (row, fun db => db)
  let buyers ← query fun db => .ok ((db.purchasesOf uid).map PurchaseRow.tenantID)
  return rowToPlatformLead codec row (buyers.map codec.string)

def updatePlatformLeadRow (l : PlatformLead) : Tx Unit := do
  let uid ← ofExcept (codec.parseOr "platform lead repo: parse id: " l.id)
  statement (fun db => ((db.leads uid).map fun _ => .lead uid).toList) fun db =>
    match db.leads uid with
    | none => .ok ((), id)
    | some row => .ok ((), fun db => db.setLead uid { row with gstVerified := l.gstVerified })

def insertPurchaseRow (pid leadID tenantID membershipID : UUID) (p : LeadPurchase) (db : Db) :
    Except Err (Unit × (Db → Db)) :=
  if hcheck : 0 < p.amountPaisa then
    if db.purchases.any fun r => r.id = pid ∨ r.leadID = leadID ∧ r.tenantID = tenantID then
      .error ⟨PlatformLead.errAlreadyPurchased, ""⟩
    else if (db.leads leadID).isNone then
      .error (Pg.wrapped "platform lead repo: insert purchase: " ⟨.foreignKeyViolation, ""⟩)
    else .ok ((), fun db => db.addPurchase
      { id := pid, leadID, tenantID, createdByMembershipID := membershipID
        amountPaisa := p.amountPaisa, purchasedAt := p.purchasedAt, check_amount := hcheck })
  else .error (Pg.wrapped "platform lead repo: insert purchase: " ⟨.checkViolation, ""⟩)

def insertPendingPurchase (p : LeadPurchase) : Tx Unit := do
  let pid ← ofExcept (codec.parseOr "platform lead repo: parse purchase id: " p.id)
  let leadID ← ofExcept (codec.parseOr "platform lead repo: parse purchase lead id: " p.leadID)
  let tenantID ←
    ofExcept (codec.parseOr "platform lead repo: parse purchase tenant id: " p.tenantID)
  let membershipID ←
    ofExcept (codec.parseOr "platform lead repo: parse purchase membership id: " p.membershipID)
  statement (fun _ => [.purchase pid]) (insertPurchaseRow pid leadID tenantID membershipID p)

def insertPendingPurchases : List LeadPurchase → Tx Unit
  | [] => pure ()
  | p :: ps => do
    insertPendingPurchase codec p
    insertPendingPurchases ps

def updateByID {β : Type} (id : String)
    (updateFn : PlatformLead → Except Err (Bool × PlatformLead × β)) : Tx β := do
  let l ← loadPlatformLeadForUpdate codec id
  let (shouldPersist, l, b) ← ofExcept (updateFn l)
  if shouldPersist then
    updatePlatformLeadRow codec l
    insertPendingPurchases codec l.pendingPurchases
    publishOutbox none (l.events.filterMap leadMessage)
    return b
  else return b

def errTierNotFound : Sentinel := ⟨.unknown, "", "platform tier reader: tier not found"⟩

def getTier (tier : PlatformLead.Tier) : Tx PlatformLead.TierConfig :=
  query fun db =>
    match db.tiers tier with
    | none => .error ⟨errTierNotFound, tier.string⟩
    | some cfg => .ok cfg

def enqueueInTx (tenantID : String) (e : IntegrationEvent) : Tx Unit :=
  publishOutbox ((codec.parse tenantID).bind pgUUIDOrNull) [e]

end

/-! ## Purchases -/

structure PurchaseLeadCommand where
  (platformLeadID purchasingTenantID purchasingMembershipID : String)

def errLeadNotFound : Sentinel := ⟨.unknown, "", "purchase lead: lead not found"⟩
def errLeadSoldOut : Sentinel := ⟨.unknown, "", "purchase lead: lead sold out"⟩
def errLeadAlreadyPurchased : Sentinel :=
  ⟨.unknown, "", "purchase lead: already purchased by tenant"⟩
def errInsufficientCredits : Sentinel := ⟨.unknown, "", "purchase lead: insufficient credits"⟩

def purchaseChargeCredits : Int64 := 1
def purchasePackageDiscountBps : Int := 0
def purchaseMaxRetries : Nat := 3
def topupMaxRetries : Nat := 3

def loadCreditsError (e : Err) : Err :=
  if e.is LeadCredit.errNotFound then ⟨errInsufficientCredits, ""⟩
  else wrapError "load credits: " e

def chargeError (e : Err) : Err :=
  if e.is LeadCredit.errInsufficientBalance then ⟨errInsufficientCredits, ""⟩
  else wrapError "charge credits: " e

def loadLeadError (e : Err) : Err :=
  if e.is PlatformLead.errNotFound then ⟨errLeadNotFound, ""⟩ else wrapError "load lead: " e

def recordError (e : Err) : Err :=
  if e.is PlatformLead.errNotFound then ⟨errLeadNotFound, ""⟩
  else if e.is PlatformLead.errSoldOut then ⟨errLeadSoldOut, ""⟩
  else if e.is PlatformLead.errAlreadyPurchased then ⟨errLeadAlreadyPurchased, ""⟩
  else wrapError "record purchase: " e

structure Draws where
  now : Time
  adjustmentID : String

variable (codec : UuidCodec)

variable (cmd : PurchaseLeadCommand)

def recordBuyer (cfg : PlatformLead.TierConfig) (cmd : PurchaseLeadCommand) (purchaseID : String)
    (now : Time) (l : PlatformLead) : Except Err (Bool × PlatformLead × Int64) := do
  let price := PlatformLead.computePurchasePricePaisa cfg.basePricePaisa l.purchaseCount
    purchasePackageDiscountBps
  let l ← l.recordPurchase codec purchaseID cmd.purchasingTenantID cmd.purchasingMembershipID price
    cfg.defaultSaleLimit now
  return (true, l, price)

def chargeBuyer (d : Draws) : Tx Unit := do
  let credit ← (getByTenant codec cmd.purchasingTenantID).mapError loadCreditsError
  let credit ← ofExcept ((credit.charge purchaseChargeCredits
    ("Marketplace purchase: " ++ cmd.platformLeadID) cmd.purchasingMembershipID d.now).mapError
      chargeError)
  upsertWithVersion codec d.adjustmentID credit

def sellLead (purchaseID : String) (d : Draws) : Tx Int64 := do
  let lead0 ← (getByID codec cmd.platformLeadID).mapError loadLeadError
  let tierCfg ← (getTier lead0.tier).mapError (wrapError ("resolve tier " ++ lead0.tier.string))
  (updateByID codec cmd.platformLeadID (recordBuyer codec tierCfg cmd purchaseID d.now)).mapError
    recordError

def announceSale (purchaseID : String) (d : Draws)
    (chargedPaisa : Int64) : Tx Unit := do
  let lead ← (getByID codec cmd.platformLeadID).mapError (wrapError "reload lead: ")
  (enqueueInTx codec cmd.purchasingTenantID
    (.leadPurchasedV1 purchaseID cmd.purchasingTenantID cmd.platformLeadID d.now
      cmd.purchasingMembershipID chargedPaisa lead.form)).mapError
        (wrapError "enqueue lead-purchased: ")

def runOncePurchase (purchaseID : String) (d : Draws) : Tx Int64 := do
  chargeBuyer codec cmd d
  let chargedPaisa ← sellLead codec cmd purchaseID d
  announceSale codec cmd purchaseID d chargedPaisa
  return chargedPaisa

structure TopupLeadCreditsCommand where
  tenantID : String
  delta : Int64
  (reason adjustedBy : String)

def creditOrNew (cmd : TopupLeadCreditsCommand) (now : Time) :
    Except Err LeadCredit → Except Err LeadCredit
  | .ok credit => .ok credit
  | .error e =>
    if e.is LeadCredit.errNotFound then
      (LeadCredit.newForTenant codec cmd.tenantID now).mapError (wrapError "construct credit row: ")
    else .error (wrapError "load credit: " e)

def runOnceTopup (cmd : TopupLeadCreditsCommand) (d : Draws) : Tx Int64 := do
  let loaded ← (getByTenant codec cmd.tenantID).attempt
  let credit ← ofExcept (creditOrNew codec cmd d.now loaded)
  let credit ← ofExcept ((credit.topup cmd.delta cmd.reason cmd.adjustedBy d.now).mapError
    (wrapError "topup: "))
  upsertWithVersion codec d.adjustmentID credit
  return credit.balance

inductive Execution where
  | topup (d : Nat → Draws) (cmd : TopupLeadCreditsCommand)
  | purchase (d : Nat → Draws) (purchaseID : String) (cmd : PurchaseLeadCommand)

def giveUp (maxRetries : Nat) (text : String) (attempt : Nat) (e : Err) : Option Err :=
  if e.is LeadCredit.errConflict then
    if attempt + 1 < maxRetries then none else some (wrapError text e)
  else some e

def Execution.client : Execution → Transactions.Client Key Db Err Int64
  | topup d cmd =>
    { attempt := fun n =>
        if cmd.delta ≤ 0 then fail (.foreign "topup: delta must be positive")
        else runOnceTopup codec cmd (d n)
      giveUp := giveUp topupMaxRetries "topup: exhausted retries: " }
  | purchase d purchaseID cmd =>
    { attempt := fun n => runOncePurchase codec cmd purchaseID (d n)
      giveUp := giveUp purchaseMaxRetries "purchase lead: exhausted retries: " }

end Marketplace

end Leadkart
