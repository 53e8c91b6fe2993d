import Mathlib.Data.List.AList
import Leadkart.Inventory.Product
import Leadkart.Inventory.StockMovement
import Leadkart.Logic.Transactions

/-!
# The stock ledger
-/

namespace Leadkart.StockLedger

inductive IntegrationEvent where
  | productCreatedV1 (productID tenantIDClaim : UUID) (sku name : String) (createdAt : Time)
      (createdByMembershipID : UUID)
  | productUpdatedV1 (productID tenantIDClaim : UUID) (changedFields : List String)
      (updatedAt : Time) (updatedByMembershipID : UUID)
  | productDeactivatedV1 (productID tenantIDClaim : UUID) (deactivatedAt : Time)
      (deactivatedByMembershipID : UUID)
  | productSoftDeletedV1 (productID tenantIDClaim : UUID) (softDeletedAt : Time)
      (softDeletedByMembershipID : UUID)
  | batchAddedV1 (batchID productID tenantIDClaim : UUID) (batchNumber : String) (expiryDate : Time)
      (quantityOnHand : Int64) (addedAt : Time) (addedByMembershipID : UUID)
  | stockMovementLoggedV1 (movementID batchID productID tenantIDClaim : UUID) (type : String)
      (quantity newQuantityOnHand : Int64) (actorMembershipID : UUID)
      (sourceReference : Option String) (occurredAtUTC : Time)

structure OutboxMessage where
  tenantID : Option UUID
  event : IntegrationEvent

structure Db where
  products : AList fun _ : UUID => Product.Row
  batches : AList fun _ : UUID => Batch.Row
  movements : List StockMovement.Row
  outbox : List OutboxMessage

inductive Key where
  | batch (id : UUID)
  | batchNumber (productID : UUID) (number : String)
  | movement (id : UUID)
  | product (id : UUID)
  | productSKU (tenantID : UUID) (sku : String)
  deriving DecidableEq

namespace Db

variable (db : Db)

def product (id : UUID) : Option Product.Row := db.products.lookup id

def setProduct (id : UUID) (row : Product.Row) : Db :=
  { db with products := db.products.insert id row }

def skuTaken (id tenantID : UUID) (sku : String) : Bool :=
  db.products.entries.any fun e => e.1 ≠ id && !e.2.1.isDeleted && e.2.1.tenantID = tenantID &&
    e.2.1.sku = sku

def batch (id : UUID) : Option Batch.Row := db.batches.lookup id

def setBatch (id : UUID) (row : Batch.Row) : Db :=
  { db with batches := db.batches.insert id row }

def addMovement (m : StockMovement.Row) : Db :=
  { db with movements := db.movements ++ [m] }

def publish (messages : List OutboxMessage) : Db :=
  { db with outbox := db.outbox ++ messages }

def numberTaken (id productID : UUID) (number : String) : Bool :=
  db.batches.entries.any fun e => e.1 ≠ id && !e.2.1.isDeleted && e.2.1.productID = productID &&
    e.2.1.batchNumber = number

def movementsOf (batchID : UUID) : List StockMovement.Row :=
  db.movements.filter fun m => m.1.batchID = batchID

end Db

abbrev Tx := Transaction Key Db Err

open Transaction

def wrapError (text : String) (e : Err) : Err := ⟨e.sentinel, text ++ e.detail⟩

section

variable (codec : UuidCodec)

variable (history : List (List (String × String)))

def writeOutboxEvents (tenantID : UUID) (events : List IntegrationEvent) : Tx Unit :=
  if events.isEmpty then pure ()
  else statement (fun _ => []) fun _ =>
    .ok ((), fun db => db.publish (events.map (OutboxMessage.mk (pgUUIDOrNull tenantID))))

def mustParseUUID (raw : String) : Except Err UUID :=
  codec.parseOr "inventory.integrationevents: malformed UUID " raw

def addedMessage (e : Batch.AddedEvent) : Except Err IntegrationEvent := do
  return .batchAddedV1 (← mustParseUUID codec e.batchID) (← mustParseUUID codec e.productID)
    (← mustParseUUID codec e.tenantID) e.batchNumber e.expiryDate e.quantityOnHand e.occurredAt
    (← mustParseUUID codec e.actorID)

def loggedMessage (e : StockMovement.LoggedEvent) : Except Err IntegrationEvent := do
  return .stockMovementLoggedV1 (← mustParseUUID codec e.movementID)
    (← mustParseUUID codec e.batchID) (← mustParseUUID codec e.productID)
    (← mustParseUUID codec e.tenantID) e.movementType.string e.quantity e.quantityOnHandAfter
    (← mustParseUUID codec e.actorMembershipID) e.sourceReference e.occurredAt

def productMessage : Product.Event → Except Err IntegrationEvent
  | .created productID tenantID actorID sku name _ _ _ _ _ occurredAt => do
    return .productCreatedV1 (← mustParseUUID codec productID) (← mustParseUUID codec tenantID)
      sku name occurredAt (← mustParseUUID codec actorID)
  | .updated productID tenantID actorID changedFields occurredAt => do
    return .productUpdatedV1 (← mustParseUUID codec productID) (← mustParseUUID codec tenantID)
      changedFields occurredAt (← mustParseUUID codec actorID)
  | .deactivated productID tenantID actorID occurredAt => do
    return .productDeactivatedV1 (← mustParseUUID codec productID) (← mustParseUUID codec tenantID)
      occurredAt (← mustParseUUID codec actorID)
  | .softDeleted productID tenantID actorID occurredAt => do
    return .productSoftDeletedV1 (← mustParseUUID codec productID) (← mustParseUUID codec tenantID)
      occurredAt (← mustParseUUID codec actorID)

def drainEvents {β : Type} (message : β → Except Err IntegrationEvent) (tenantID : String)
    (events : List β) : Tx Unit :=
  if events.isEmpty then pure ()
  else do
    let tid ← ofExcept (codec.parseOr "" tenantID)
    let mapped ← ofExcept (events.mapM message)
    writeOutboxEvents tid mapped

def passes (settings : Settings) (text : String) (tenantID : UUID) : Except Err Bool :=
  match App.ownOrPlatform codec tenantID settings with
  | .ok v => .ok (v = some true)
  | .error e => .error (Pg.wrapped text e)

def checkInsert (settings : Settings) (text : String) (tenantID : UUID) : Except Err Unit := do
  if ← passes codec settings text tenantID then return ()
  else throw (Pg.wrapped text ⟨.insufficientPrivilege, ""⟩)

def liveProduct (settings : Settings) (text : String) (pid : UUID) (db : Db) :
    Except Err (Option Product.Row) :=
  match (db.product pid).filter fun row => !row.1.isDeleted with
  | none => .ok none
  | some row => do
    if ← passes codec settings text row.1.tenantID then return some row else return none

def findProduct (settings : Settings) (pid : UUID) (db : Db) : Except Err Product.Row := do
  match ← liveProduct codec settings "product repo: get by id: " pid db with
  | some row => return row
  | none => throw ⟨Product.errNotFound, ""⟩

def loadProduct (settings : Settings) (id : String) : Tx Product := do
  let pid ← ofExcept (codec.parseOr "product repo: parse id " id)
  let row ← query (findProduct codec settings pid)
  return Product.rowToProduct codec pid row.1

def getProduct (tenantID id : String) : Tx Product := do
  let settings ← ofExcept (Pg.setTenantOnTxExplicit (Settings.residue history) tenantID)
  loadProduct codec settings id

def insertProduct (settings : Settings) (pid tid : UUID) (p : Product) (db : Db) :
    Except Err (Unit × (Db → Db)) := do
  checkInsert codec settings "product repo: insert: " tid
  if hvalid : (p.insertParams tid).Valid then
    if (db.product pid).isSome then
      throw (Pg.wrapped "product repo: insert: " ⟨.uniqueViolation, "products_pkey"⟩)
    else if db.skuTaken pid tid p.sku then throw ⟨Product.errSKUTaken, ""⟩
    else return ((), fun db => db.setProduct pid ⟨p.insertParams tid, hvalid⟩)
  else throw (Pg.wrapped "product repo: insert: " ⟨.checkViolation, ""⟩)

def insertProductRow (settings : Settings) (p : Product) : Tx Unit := do
  let pid ← ofExcept (codec.parseOr "product repo: parse id: " p.id)
  let tid ← ofExcept (codec.parseOr "product repo: parse tenant id: " p.tenantID)
  statement
    (fun db => if (db.product pid).isNone then [.product pid, .productSKU tid p.sku] else [])
    (insertProduct codec settings pid tid p)

def addProduct (p : Product) : Tx Unit := do
  let settings ← ofExcept (Pg.setTenantOnTxExplicit (Settings.residue history) p.tenantID)
  insertProductRow codec settings p
  drainEvents codec (productMessage codec) p.tenantID p.events

def softDeleteRow (settings : Settings) (pid : UUID) (p : Product) (db : Db) :
    Except Err (Unit × (Db → Db)) := do
  match ← liveProduct codec settings "product repo: soft delete: " pid db with
  | none => return ((), id)
  | some row =>
    return ((), fun db =>
      db.setProduct pid ⟨p.softDeleteParams row.1, Product.valid_softDeleteParams row.2⟩)

def updateProductRow (settings : Settings) (pid : UUID) (p : Product) (db : Db) :
    Except Err (Unit × (Db → Db)) := do
  match ← liveProduct codec settings "product repo: update: " pid db with
  | none => return ((), id)
  | some row =>
    if hvalid : (p.updateParams row.1).Valid then
      return ((), fun db => db.setProduct pid ⟨p.updateParams row.1, hvalid⟩)
    else throw (Pg.wrapped "product repo: update: " ⟨.checkViolation, ""⟩)

def persistProductState (settings : Settings) (p : Product) : Tx Unit := do
  let pid ← ofExcept (codec.parseOr "product repo: parse id: " p.id)
  statement
    (fun db =>
      match liveProduct codec settings "" pid db with
      | .ok (some _) => [.product pid]
      | _ => [])
    (if p.deleted then softDeleteRow codec settings pid p
      else updateProductRow codec settings pid p)

def updateProductByID (tenantID id : String)
    (updateFn : Product → Except Err (Bool × Product)) : Tx Unit := do
  let settings ← ofExcept (Pg.setTenantOnTxExplicit (Settings.residue history) tenantID)
  let p ← loadProduct codec settings id
  let (shouldPersist, p') ← ofExcept (updateFn p)
  if shouldPersist then
    persistProductState codec settings p'
    drainEvents codec (productMessage codec) p'.tenantID p'.events
  else return ()

def findBatch (settings : Settings) (text : String) (bid : UUID) (db : Db) : Except Err Batch.Row :=
  match (db.batch bid).filter fun row => !row.1.isDeleted with
  | none => .error ⟨Batch.errNotFound, ""⟩
  | some row => do
    if ← passes codec settings text row.1.tenantID then return row
    else throw ⟨Batch.errNotFound, ""⟩

def lockIf {α : Type} (key : Key) : Except Err α → List Key
  | .ok _ => [key]
  | .error _ => []

def lockBatchRowForUpdate (settings : Settings) (id : String) : Tx Unit := do
  let bid ← ofExcept (codec.parseOr "batch repo: parse id " id)
  let found := findBatch codec settings "batch repo: lock for update: " bid
  statement (fun db => lockIf (.batch bid) (found db)) fun db =>
    (found db).map fun _ => ((), fun db => db)

def loadBatch (settings : Settings) (id : String) : Tx Batch := do
  let bid ← ofExcept (codec.parseOr "batch repo: parse id " id)
  let row ← query (findBatch codec settings "batch repo: get by id: " bid)
  return Batch.rowToBatch codec bid row.1

def versionedBatch (settings : Settings) (bid : UUID) (expectedVersion : Int64) (db : Db) :
    Except Err (Option Batch.Row) :=
  match (db.batch bid).filter fun row => row.1.version = expectedVersion with
  | none => .ok none
  | some row => do
    if ← passes codec settings "batch repo: update: " row.1.tenantID then return some row
    else return none

def updateBatchRow (settings : Settings) (bid : UUID) (b : Batch) (expectedVersion : Int64)
    (db : Db) : Except Err (Nat × (Db → Db)) := do
  match ← versionedBatch codec settings bid expectedVersion db with
  | none => return (0, id)
  | some row =>
    if hvalid : (b.updateParams row.1).Valid then
      if !b.deleted && db.numberTaken bid row.1.productID b.batchNumber then
        throw (Pg.wrapped "batch repo: update: "
          ⟨.uniqueViolation, "uq_batches_product_number_live"⟩)
      else return (1, fun db => db.setBatch bid ⟨b.updateParams row.1, hvalid⟩)
    else throw (Pg.wrapped "batch repo: update: " ⟨.checkViolation, ""⟩)

def persistBatchState (settings : Settings) (b : Batch) (expectedVersion : Int64) : Tx Nat := do
  let bid ← ofExcept (codec.parseOr "batch repo: parse id: " b.id)
  statement
    (fun db =>
      match versionedBatch codec settings bid expectedVersion db with
      | .ok (some _) => [.batch bid]
      | _ => [])
    (updateBatchRow codec settings bid b expectedVersion)

def updateOnTx (settings : Settings) (id : String)
    (updateFn : Batch → Except Err (Bool × Batch)) : Tx Batch := do
  lockBatchRowForUpdate codec settings id
  let b ← loadBatch codec settings id
  let (shouldPersist, b') ← ofExcept (updateFn b)
  if shouldPersist then
    let rowsAffected ← persistBatchState codec settings b' b.version
    if rowsAffected = 0 then fail ⟨Batch.errConcurrencyConflict, ""⟩
    else
      drainEvents codec (addedMessage codec) b'.tenantID b'.events
      return b'
  else return b'

def insertBatch (settings : Settings) (bid pid tid : UUID) (b : Batch) (db : Db) :
    Except Err (Unit × (Db → Db)) := do
  checkInsert codec settings "batch repo: insert: " tid
  match b.insertParams pid tid with
  | none => throw (Pg.wrapped "batch repo: insert: " ⟨.notNullViolation, ""⟩)
  | some c =>
    if hvalid : c.Valid then
      if (db.batch bid).isSome then
        throw (Pg.wrapped "batch repo: insert: " ⟨.uniqueViolation, "batches_pkey"⟩)
      else if db.numberTaken bid pid c.batchNumber then throw ⟨Batch.errBatchNumberTaken, ""⟩
      else if !(db.product pid).any fun row => row.1.tenantID = tid then
        throw ⟨Product.errNotFound, ""⟩
      else return ((), fun db => db.setBatch bid ⟨c, hvalid⟩)
    else throw (Pg.wrapped "batch repo: insert: " ⟨.checkViolation, ""⟩)

def insertBatchRow (settings : Settings) (b : Batch) : Tx Unit := do
  let bid ← ofExcept (codec.parseOr "batch repo: parse id: " b.id)
  let pid ← ofExcept (codec.parseOr "batch repo: parse product_id: " b.productID)
  let tid ← ofExcept (codec.parseOr "batch repo: parse tenant_id: " b.tenantID)
  -- another INSERT of the id, or of the number, is waited for
  statement
    (fun db => if (db.batch bid).isNone then [.batch bid, .batchNumber pid b.batchNumber] else [])
    (insertBatch codec settings bid pid tid b)

def addBatchOnTx (settings : Settings) (b : Batch) : Tx Unit := do
  insertBatchRow codec settings b
  drainEvents codec (addedMessage codec) b.tenantID b.events

def Db.inStock (db : Db) (pid : UUID) : List Batch.Row :=
  (db.batches.entries.map Sigma.snd).filter fun row =>
    row.1.productID = pid && !row.1.isDeleted && 0 < row.1.quantityOnHand

def anyLiveWithStockForProduct
    (tenantID productID : String) : Tx Bool := do
  let pid ← ofExcept (codec.parseOr "batch repo: parse product id: " productID)
  let settings ← ofExcept (Pg.setTenantOnTxExplicit (Settings.residue history) tenantID)
  query fun db => (db.inStock pid).anyM fun row =>
    passes codec settings "batch repo: any live with stock: " row.1.tenantID

def insertMovement (settings : Settings) (c : StockMovement.Columns) (db : Db) :
    Except Err (Unit × (Db → Db)) := do
  checkInsert codec settings "" c.tenantID
  if hvalid : c.Valid then
    if db.movements.any fun m => m.1.id = c.id then
      throw (Pg.wrapped "" ⟨.uniqueViolation, "stock_movements_pkey"⟩)
    else if !(db.batch c.batchID).any fun row => row.1.tenantID = c.tenantID then
      throw (Pg.wrapped "" ⟨.foreignKeyViolation, "fk_movements_batch_same_tenant"⟩)
    else return ((), fun db => db.addMovement ⟨c, hvalid⟩)
  else throw (Pg.wrapped "" ⟨.checkViolation, ""⟩)

def movementParams (m : StockMovement) : Except Err StockMovement.Columns := do
  let id ← codec.parseOr "stock movement repo: parse id: " m.id
  let batchID ← codec.parseOr "stock movement repo: parse batch_id: " m.batchID
  let productID ← codec.parseOr "stock movement repo: parse product_id: " m.productID
  let tenantID ← codec.parseOr "stock movement repo: parse tenant_id: " m.tenantID
  let actorMembershipID ←
    codec.parseOr "stock movement repo: parse actor_membership_id: " m.actorMembershipID
  return {
    id, batchID, productID, tenantID, actorMembershipID
    movementType := m.movementType
    quantity := m.quantity
    quantityOnHandAfter := m.quantityOnHandAfter
    reason := m.reason
    sourceReference := m.sourceReference
    occurredAt := m.occurredAt }

def insertMovementRow (settings : Settings) (m : StockMovement) : Tx Unit := do
  let c ← ofExcept (movementParams codec m)
  statement (fun _ => [.movement c.id]) (insertMovement codec settings c)

def addMovementOnTx (settings : Settings) (m : StockMovement) : Tx Unit := do
  insertMovementRow codec settings m
  drainEvents codec (loggedMessage codec) m.tenantID m.events

end

/-! ## Handlers -/

structure Env where
  ctxTenant : Option String
  now : Time
  newID : String
  (history readHistory stockHistory : List (List (String × String)) := [])

inductive Result where
  | productCreated (productID : String)
  | productDeleted
  | batchAdded (batchID : String)
  | movementLogged (movementID : String) (quantityOnHandAfter : Int64)

structure CreateProductCommand where
  (tenantID actorMembershipID : String)
  spec : Product.Spec

structure DeleteProductCommand where
  (tenantID productID actorMembershipID : String)

structure AddBatchCommand where
  (tenantID productID actorMembershipID : String)
  spec : Batch.Spec

structure LogStockMovementCommand where
  (tenantID batchID actorMembershipID movementType : String)
  quantity : Int64
  reason : String
  sourceReference : Option String

def loadProductError (e : Err) : Err :=
  if e.is Product.errNotFound then ⟨Product.errNotFound, ""⟩
  else wrapError "add batch: load product: " e

def signedQuantityForType (t : String) (magnitude : Int64) : Int64 :=
  if t = MovementType.outbound.string then -magnitude else magnitude

abbrev GstDefaults := Option (String → Except Err (Option Int))

def gstRate (defaults : GstDefaults) (spec : Product.Spec) : Except Err Int :=
  match defaults with
  | none => .ok spec.gstRateBps
  | some default =>
    if spec.gstRateBps = 0 then
      let category :=
        if spec.productCategory = "" then Product.productCategoryDefault else spec.productCategory
      match default category with
      | .error e => .error (wrapError "create product: gst default lookup: " e)
      | .ok found => .ok (found.getD 0)
    else .ok spec.gstRateBps

variable (codec : UuidCodec)

def createProduct (toUpper : String → String) (defaults : GstDefaults) (env : Env)
    (cmd : CreateProductCommand) : Tx Result := do
  let gstRateBps ← ofExcept (gstRate defaults cmd.spec)
  let p ← ofExcept ((Product.new codec toUpper env.newID cmd.tenantID cmd.actorMembershipID
    { cmd.spec with gstRateBps } env.now).mapError (wrapError "create product: construct: "))
  (addProduct codec env.history p).mapError (wrapError "create product: persist: ")
  return .productCreated p.id

def deleteProduct (env : Env) (cmd : DeleteProductCommand) : Tx Result :=
  if cmd.tenantID = "" then fail (.foreign "delete_product: tenant id required")
  else do
    let _ ← getProduct codec env.readHistory cmd.tenantID cmd.productID
    let hasStock ← (anyLiveWithStockForProduct codec env.stockHistory cmd.tenantID
      cmd.productID).mapError (wrapError "delete product: stock check: ")
    if hasStock then fail ⟨Batch.errAnyLiveStock, ""⟩
    else
      (updateProductByID codec env.history cmd.tenantID cmd.productID fun p => do
        return (true, ← p.softDelete cmd.actorMembershipID env.now)).mapError
          (wrapError "delete product: ")
      return .productDeleted

def addBatch (env : Env) (cmd : AddBatchCommand) : Tx Result :=
  if cmd.tenantID = "" then fail (.foreign "add_batch: tenant id required")
  else do
    let settings ← ofExcept (Pg.setTenantOnTx (Settings.residue env.history) env.ctxTenant)
    let p ← (getProduct codec env.readHistory cmd.tenantID cmd.productID).mapError loadProductError
    if p.deleted then fail ⟨Product.errNotFound, ""⟩
    else
      let b ← ofExcept ((Batch.new codec env.newID p.id p.tenantID cmd.actorMembershipID cmd.spec
        env.now).mapError (wrapError "add batch: construct: "))
      (addBatchOnTx codec settings b).mapError (wrapError "add batch: persist: ")
      return .batchAdded b.id

def movementSpec (cmd : LogStockMovementCommand) (loaded : Batch) : StockMovement.Spec where
  batchID := loaded.id
  productID := loaded.productID
  tenantID := loaded.tenantID
  movementType := cmd.movementType
  quantity := signedQuantityForType cmd.movementType cmd.quantity
  quantityOnHandAfter := loaded.quantityOnHand
  reason := cmd.reason
  actorMembershipID := cmd.actorMembershipID
  sourceReference := cmd.sourceReference

def persistMovement (env : Env) (cmd : LogStockMovementCommand) : Tx Result := do
  let settings ← ofExcept (Pg.setTenantOnTx (Settings.residue env.history) env.ctxTenant)
  let loaded ← updateOnTx codec settings cmd.batchID fun b => do
    return (true, ← b.applyMovement cmd.movementType cmd.quantity env.now)
  let m ← ofExcept ((StockMovement.new codec env.newID (movementSpec cmd loaded) env.now).mapError
    (wrapError "log stock movement: construct: "))
  (addMovementOnTx codec settings m).mapError (wrapError "log stock movement: persist movement: ")
  return .movementLogged m.id loaded.quantityOnHand

def logStockMovement (env : Env) (cmd : LogStockMovementCommand) : Tx Result :=
  if cmd.tenantID = "" then fail (.foreign "log_stock_movement: tenant id required")
  else if (MovementType.parse cmd.movementType).isNone then
    fail ⟨Batch.errInvalid, "unknown movement type " ++ cmd.movementType⟩
  else if cmd.quantity = 0 then fail ⟨Batch.errInvalid, "quantity must be non-zero"⟩
  else if cmd.quantity < 0 then
    fail ⟨Batch.errInvalid, "quantity must be a positive magnitude"⟩
  else persistMovement codec env cmd

inductive Execution where
  | create (toUpper : String → String) (defaults : GstDefaults) (env : Env)
      (cmd : CreateProductCommand)
  | delete (env : Env) (cmd : DeleteProductCommand)
  | add (env : Env) (cmd : AddBatchCommand)
  | log (env : Env) (cmd : LogStockMovementCommand)

def Execution.tx : Execution → Tx Result
  | create toUpper defaults env cmd => createProduct codec toUpper defaults env cmd
  | delete env cmd => deleteProduct codec env cmd
  | add env cmd => addBatch codec env cmd
  | log env cmd => logStockMovement codec env cmd

def Execution.client (e : Execution) : Transactions.Client Key Db Err Result where
  attempt _ := e.tx codec
  giveUp _ err := some err

end Leadkart.StockLedger
