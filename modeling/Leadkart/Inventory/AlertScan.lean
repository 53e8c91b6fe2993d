import Mathlib.Data.List.Dedup
import Leadkart.Inventory.Reconciliation
import Leadkart.Logic.Process

/-!
# The alert scans
-/

namespace Leadkart.AlertScan

open StockLedger (Db)

inductive AlertKind where
  | batchExpiring
  | productBelowReorder
  deriving DecidableEq

inductive AlertEvent where
  | batchExpiringSoonV1 (batchID productID tenantIDClaim : UUID) (batchNumber : String)
      (expiryDate : Time) (daysUntilExpiry : Int) (occurredAtUTC : Time)
  | productBelowReorderLevelV1 (productID tenantIDClaim : UUID) (sku : String)
      (reorderLevel currentStockOnHand : Int) (occurredAtUTC : Time)

structure Subject where
  kind : AlertKind
  (tenantID subjectID : UUID)
  deriving DecidableEq

def AlertEvent.subject : AlertEvent → Subject
  | batchExpiringSoonV1 batchID _ tenantID _ _ _ _ => ⟨.batchExpiring, tenantID, batchID⟩
  | productBelowReorderLevelV1 productID tenantID _ _ _ _ =>
    ⟨.productBelowReorder, tenantID, productID⟩

def AlertEvent.occurredAt : AlertEvent → Time
  | batchExpiringSoonV1 _ _ _ _ _ _ occurredAt => occurredAt
  | productBelowReorderLevelV1 _ _ _ _ _ occurredAt => occurredAt

structure AlertMessage where
  tenantID : Option UUID
  event : AlertEvent

structure Emission where
  subject : Subject
  emittedDate : Time
  deriving DecidableEq

structure Store where
  stock : Db
  emissions : List Emission
  alerts : List AlertMessage

abbrev ProductEntry := Sigma fun _ : UUID => Product.Row

abbrev BatchEntry := Sigma fun _ : UUID => Batch.Row

/-! ## Queries -/

structure Conn where
  settings : Settings
  planProducts : Planner ProductEntry
  planBatches : Planner BatchEntry

def Conn.Pooled (conn : Conn) : Prop := ∃ history, conn.settings = Settings.residue history

def truncateToDay (t : Time) : Time := t - t % day

def daysBetween (today expiry : Time) : Int := (expiry - today).tdiv day

structure BatchExpiring where
  (tenantID productID batchID : UUID)
  batchNumber : String
  expiryDate : Time

structure ReorderProduct where
  (tenantID productID : UUID)
  sku : String
  (reorderLevel stockOnHand : Int)

section

variable (codec : UuidCodec) (conn : Conn)

variable (tenantID : UUID) (today : Time)

def visibleProducts (cond : ProductEntry → Bool) (db : Db) : Except SqlError (List ProductEntry) :=
  scan (fun p => App.ownOrPlatform codec p.2.1.tenantID conn.settings)
    (conn.planProducts db.products.entries cond) cond db.products.entries

def visibleBatches (cond : BatchEntry → Bool) (db : Db) : Except SqlError (List BatchEntry) :=
  scan (fun b => App.ownOrPlatform codec b.2.1.tenantID conn.settings)
    (conn.planBatches db.batches.entries cond) cond db.batches.entries

def tenantsOf (products : List ProductEntry) : List UUID :=
  (products.map fun p => p.2.1.tenantID).dedup.mergeSort (· ≤ ·)

def tenantsWithProducts (db : Db) : Except SqlError (List UUID) :=
  (visibleProducts codec conn (fun p => !p.2.1.isDeleted) db).map tenantsOf

def inStockOf (b : BatchEntry) : Bool :=
  b.2.1.tenantID = tenantID && !b.2.1.isDeleted && 0 < b.2.1.quantityOnHand

def nearExpiry (b : BatchEntry) (p : ProductEntry) : Bool :=
  p.1 = b.2.1.productID && p.2.1.tenantID = b.2.1.tenantID &&
    b.2.1.expiryDate ≤ today + p.2.1.expiryAlertThresholdDays * day

def expiresBefore (a b : BatchExpiring) : Bool :=
  a.expiryDate < b.expiryDate || (a.expiryDate = b.expiryDate && a.batchID ≤ b.batchID)

def expiring (batches : List BatchEntry) (products : List ProductEntry) :
    List BatchExpiring :=
  let rows := batches.flatMap fun b => (products.filter (nearExpiry today b)).map fun _ =>
    { tenantID := b.2.1.tenantID, productID := b.2.1.productID, batchID := b.1
      batchNumber := b.2.1.batchNumber, expiryDate := b.2.1.expiryDate : BatchExpiring }
  rows.mergeSort expiresBefore

def batchesNearExpiryForTenant (db : Db) :
    Except SqlError (List BatchExpiring) := do
  let batches ← visibleBatches codec conn (inStockOf tenantID) db
  let products ← visibleProducts codec conn
    (fun p => !p.2.1.isDeleted && 0 < p.2.1.expiryAlertThresholdDays) db
  return expiring today batches products

def stockOnHand (p : ProductEntry) (batches : List BatchEntry) : Int :=
  ((batches.filter fun b => b.2.1.productID = p.1 && b.2.1.tenantID = p.2.1.tenantID &&
    !b.2.1.isDeleted && 0 < b.2.1.quantityOnHand && today < b.2.1.expiryDate).map
      fun b => b.2.1.quantityOnHand.toInt).sum

def belowReorder (products : List ProductEntry)
    (batches : List BatchEntry) : List ReorderProduct :=
  let rows := (products.filter fun p => stockOnHand today p batches < p.2.1.reorderLevel).map
    fun p =>
      { tenantID, productID := p.1, sku := p.2.1.sku, reorderLevel := p.2.1.reorderLevel
        stockOnHand := stockOnHand today p batches : ReorderProduct }
  rows.mergeSort fun a b => a.productID ≤ b.productID

def unexpired (b : BatchEntry) : Bool :=
  !b.2.1.isDeleted && 0 < b.2.1.quantityOnHand && today < b.2.1.expiryDate

def productsBelowReorderForTenant (db : Db) :
    Except SqlError (List ReorderProduct) := do
  let products ← visibleProducts codec conn
    (fun p => p.2.1.tenantID = tenantID && !p.2.1.isDeleted && 0 < p.2.1.reorderLevel) db
  let batches ← visibleBatches codec conn (unexpired today) db
  return belowReorder tenantID today products batches

def wrappedQuery {α : Type} (text : String) (f : Db → Except SqlError α) : Effect Store Err α :=
  Effect.query fun s => (f s.stock).mapError (Pg.wrapped ("alert scan repo: " ++ text))

def listTenants : Effect Store Err (List UUID) :=
  wrappedQuery "list tenants: " (tenantsWithProducts codec conn)

def listBatchesNearExpiry :
    Effect Store Err (List BatchExpiring) :=
  wrappedQuery "near expiry: " (batchesNearExpiryForTenant codec conn tenantID today)

def listProductsBelowReorder :
    Effect Store Err (List ReorderProduct) :=
  wrappedQuery "below reorder: " (productsBelowReorderForTenant codec conn tenantID today)

def insertAlertEmission (e : Emission) : Effect Store Err Nat :=
  ⟨fun s =>
    match withCheck (App.ownOrPlatform codec e.subject.tenantID conn.settings) with
    | .error err => (.error (Pg.wrapped "alert scan repo: dedup insert: " err), s)
    | .ok () =>
      if e ∈ s.emissions then (.ok 0, s)
      else (.ok 1, { s with emissions := s.emissions ++ [e] })⟩

def writeOutboxEvent (event : AlertEvent) : Effect Store Err Unit :=
  Effect.write fun s => .ok { s with alerts := s.alerts ++ [⟨pgUUIDOrNull tenantID, event⟩] }

def emitIfNew (subject : Subject) (today : Time) (event : AlertEvent) : Effect Store Err Bool :=
  Effect.atomic do
    let inserted ← insertAlertEmission codec conn ⟨subject, today⟩
    if inserted = 0 then return false
    else
      writeOutboxEvent subject.tenantID event
      return true

end

structure Worker where
  now : Time
  tenantsConn : Conn
  (rowsConn emitConn : UUID → Conn)

structure Worker.Pooled (w : Worker) : Prop where
  tenants : w.tenantsConn.Pooled
  rows (tid : UUID) : (w.rowsConn tid).Pooled
  emit (subjectID : UUID) : (w.emitConn subjectID).Pooled

def Worker.today (w : Worker) : Time := truncateToDay w.now

structure Scanned where
  (tenants emitted : Nat)

open Process

structure Scan (γ : Type) where
  name : String
  candidates (codec : UuidCodec) (conn : Conn) (tenantID : UUID) (today : Time) :
    Effect Store Err (List γ)
  subject : γ → Subject
  event (now : Time) : γ → AlertEvent

section Jobs

variable {γ : Type} (codec : UuidCodec) (scan : Scan γ) (w : Worker)

def emitAll : List γ → Nat → Process Store Err Nat
  | [], emitted => pure emitted
  | c :: cs, emitted => do
    let subject := scan.subject c
    let new ← (perform (emitIfNew codec (w.emitConn subject.subjectID) subject w.today
      (scan.event w.now c))).mapError
        (Err.wrap (scan.name ++ ": emit " ++ codec.string subject.subjectID ++ ": "))
    emitAll cs (if new then emitted + 1 else emitted)

def scanTenants : List UUID → Nat → Process Store Err Nat
  | [], emitted => pure emitted
  | tid :: tids, emitted => do
    let rows ← (perform (scan.candidates codec (w.rowsConn tid) tid w.today)).mapError
      (Err.wrap (scan.name ++ ": tenant " ++ codec.string tid ++ " rows: "))
    let emitted ← emitAll codec scan w rows emitted
    scanTenants tids emitted

def work : Process Store Err Scanned := do
  let tenants ← (perform (listTenants codec w.tenantsConn)).mapError
    (Err.wrap (scan.name ++ ": list tenants: "))
  let emitted ← scanTenants codec scan w tenants 0
  return ⟨tenants.length, emitted⟩

end Jobs

def expiryScan : Scan BatchExpiring where
  name := "expiry scan"
  candidates := listBatchesNearExpiry
  subject b := ⟨.batchExpiring, b.tenantID, b.batchID⟩
  event now b := .batchExpiringSoonV1 b.batchID b.productID b.tenantID b.batchNumber b.expiryDate
    (daysBetween (truncateToDay now) b.expiryDate) now

def reorderScan : Scan ReorderProduct where
  name := "reorder scan"
  candidates := listProductsBelowReorder
  subject p := ⟨.productBelowReorder, p.tenantID, p.productID⟩
  event now p := .productBelowReorderLevelV1 p.productID p.tenantID p.sku p.reorderLevel
    p.stockOnHand now

inductive Job where
  | expiry
  | reorder

def Job.work (codec : UuidCodec) (w : Worker) : Job → Process Store Err Scanned
  | expiry => AlertScan.work codec expiryScan w
  | reorder => AlertScan.work codec reorderScan w

structure DueBatch (today : Time) (db : Db) (tenantID batchID : UUID) (b : Batch.Row)
    (p : Product.Row) : Prop where
  batch : db.batch batchID = some b
  product : db.product b.1.productID = some p
  tenantID : b.1.tenantID = tenantID
  sameTenant : p.1.tenantID = b.1.tenantID
  live : b.1.isDeleted = false ∧ p.1.isDeleted = false
  inStock : 0 < b.1.quantityOnHand
  enabled : 0 < p.1.expiryAlertThresholdDays
  near : b.1.expiryDate ≤ today + p.1.expiryAlertThresholdDays * day

structure DueProduct (today : Time) (db : Db) (tenantID productID : UUID) (p : Product.Row) :
    Prop where
  product : db.product productID = some p
  tenantID : p.1.tenantID = tenantID
  live : p.1.isDeleted = false
  enabled : 0 < p.1.reorderLevel
  below : stockOnHand today ⟨productID, p⟩ db.batches.entries < p.1.reorderLevel

def Due (today : Time) (db : Db) (s : Subject) : Prop :=
  match s.kind with
  | .batchExpiring => ∃ b p, DueBatch today db s.tenantID s.subjectID b p
  | .productBelowReorder => ∃ p, DueProduct today db s.tenantID s.subjectID p

def alertsOf (today : Time) (s : Subject) (alerts : List AlertMessage) : List AlertMessage :=
  alerts.filter fun m => m.event.subject = s && truncateToDay m.event.occurredAt = today

def Exact (today : Time) (s : Store) : Prop :=
  ∀ subject, (Due today s.stock subject → (alertsOf today subject s.alerts).length = 1) ∧
    (¬Due today s.stock subject → alertsOf today subject s.alerts = [])

section Seen

theorem wrappedQuery_ok {α : Type} {text : String} {f : Db → Except SqlError α} {s : Store} {a : α}
    (h : f s.stock = .ok a) : (wrappedQuery text f).run s = (.ok a, s) := by
  unfold wrappedQuery
  rw [Effect.query_apply, h]
  rfl

end Seen

section Pooled

variable {codec : UuidCodec} {conn : Conn}

theorem policy_pooled (h : conn.Pooled) (tid : UUID) :
    App.ownOrPlatform codec tid conn.settings = .ok none := by
  obtain ⟨history, hs⟩ := h
  rw [hs]
  exact App.ownOrPlatform_unbound codec history tid

theorem listTenants_pooled (h : conn.Pooled) (s : Store) :
    (listTenants codec conn).run s = (.ok [], s) := by
  refine wrappedQuery_ok ?_
  unfold tenantsWithProducts visibleProducts
  rw [SqlRelation.scan_eq_filter fun p _ _ => policy_pooled h p.2.1.tenantID]
  simp [Except.map, tenantsOf]

theorem work_pooled {γ : Type} {scan : Scan γ} {w : Worker} (h : w.Pooled) :
    work codec scan w = .call (fun s => s) fun _ => .done (.ok ⟨0, 0⟩) := by
  refine congrArg (Process.call _) (funext fun s => ?_)
  dsimp only
  rw [listTenants_pooled h.tenants s]
  rfl

theorem Job.work_pooled {w : Worker} (h : w.Pooled) (job : Job) :
    job.work codec w = .call (fun s => s) fun _ => .done (.ok ⟨0, 0⟩) := by
  cases job with
  | expiry => exact AlertScan.work_pooled h
  | reorder => exact AlertScan.work_pooled h

end Pooled

open Machine

theorem scan_exact_iff {codec : UuidCodec} {ι : Type} [DecidableEq ι] (job : ι → Job)
    {w : ι → Worker} (hpool : ∀ i, (w i).Pooled) (today : Time) {s : Store} {ls : List ι}
    {st : State ι Store Err Scanned}
    (hr : run step (init (fun i => (job i).work codec (w i)) s) ls = some st) :
    st.store = s ∧ (∀ i r, st.phase i = .done r → r = .ok ⟨0, 0⟩) ∧
    ((∀ subject, alertsOf today subject s.alerts = []) →
    (Exact today st.store ↔ ∀ subject, ¬Due today s.stock subject)) := by
  obtain ⟨hs, hph⟩ := run_rule (P := fun t => t = s)
    (F := fun i _ p => p = (job i).work codec (w i) ∨ p = .done (.ok ⟨0, 0⟩))
    (K := fun _ _ _ => True) rfl (fun i => .inl rfl)
    (by
      rintro i n write next t (hp | hp) rfl -
      · rw [Job.work_pooled (hpool i)] at hp
        obtain ⟨rfl, rfl⟩ := Process.call.inj hp
        exact ⟨rfl, .inr rfl⟩
      · exact nomatch hp)
    (along_of_forall (fun _ _ => trivial) _ _) hr
  refine ⟨hs, fun i r hi => ?_, fun hnone => ?_⟩
  · have hi' := hph i
    rw [hi, Job.work_pooled (hpool i)] at hi'
    rcases hi' with hi' | hi'
    · cases hi'
    · exact Process.done.inj hi'
  · rw [hs]
    constructor
    · intro he subject hd
      have ho := (he subject).1 hd
      rw [hnone] at ho
      cases ho
    · intro hn subject
      exact ⟨fun hd => absurd hd (hn subject), fun _ => hnone subject⟩

def sampleConn : Conn where
  settings := Settings.residue []
  planProducts _ _ _ := false
  planBatches _ _ _ := false

def sampleWorker : Worker where
  now := day + 5
  tenantsConn := sampleConn
  rowsConn _ := sampleConn
  emitConn _ := sampleConn

theorem sampleWorker_pooled : sampleWorker.Pooled where
  tenants := ⟨[], rfl⟩
  rows _ := ⟨[], rfl⟩
  emit _ := ⟨[], rfl⟩

def bothJobs : Bool → Job
  | false => .expiry
  | true => .reorder

theorem bothJobs_work : (fun i => (bothJobs i).work unaryCodec sampleWorker) =
    fun _ => .call (fun s => s) fun _ => .done (.ok ⟨0, 0⟩) :=
  funext fun i => Job.work_pooled sampleWorker_pooled (bothJobs i)

def quietStore : Store where
  stock := StockLedger.sampleStore
  emissions := []
  alerts := []

def expiringBatch : Batch.Row where
  val :=
    { productID := 2, tenantID := 1, batchNumber := "B-1", manufactureDate := day
      expiryDate := 3 * day, manufacturerName := "Acme", manufacturingLicenceNumber := "25"
      mrpPaise := 100, purchasePricePaise := 80, quantityOnHand := 5, version := 1
      createdAt := day + 5, updatedAt := day + 5 }
  property := by decide

def expiringStore : Store where
  stock :=
    { products := AList.singleton 2 StockLedger.sampleProduct
      batches := AList.singleton 3 expiringBatch
      movements := []
      outbox := [] }
  emissions := []
  alerts := []

theorem expiringStore_due : DueBatch sampleWorker.today expiringStore.stock 1 3 expiringBatch
    StockLedger.sampleProduct where
  batch := rfl
  product := rfl
  tenantID := rfl
  sameTenant := rfl
  live := ⟨rfl, rfl⟩
  inStock := by decide
  enabled := by decide
  near := by decide

theorem quiet_store_exact :
    ∃ st, run step (init (fun i => (bothJobs i).work unaryCodec sampleWorker) quietStore)
    [false, true] = some st ∧ Exact day st.store := by
  have hn : ∀ subject, ¬Due day quietStore.stock subject := by
    rintro ⟨kind, tid, sid⟩ hd
    cases kind with
    | batchExpiring =>
      obtain ⟨b, p, hd⟩ := hd
      exact nomatch hd.batch
    | productBelowReorder =>
      obtain ⟨p, hd⟩ := hd
      have he : ⟨sid, p⟩ ∈ quietStore.stock.products.entries := AList.mem_lookup_iff.mp hd.product
      obtain ⟨-, rfl⟩ : sid = 2 ∧ p = StockLedger.sampleProduct := by
        simpa [quietStore, StockLedger.sampleStore] using he
      exact absurd hd.enabled (by decide)
  obtain ⟨st, hr⟩ : ∃ st, run step (init (fun i => (bothJobs i).work unaryCodec sampleWorker)
      quietStore) [false, true] = some st := by
    rw [bothJobs_work]
    exact ⟨_, rfl⟩
  have hex := (scan_exact_iff bothJobs (fun _ => sampleWorker_pooled) day hr).2.2 fun _ => rfl
  exact ⟨st, hr, hex.mpr hn⟩

theorem expiring_batch_without_alert :
    ∃ st, run step (init (fun i => (bothJobs i).work unaryCodec sampleWorker) expiringStore)
    [false, true] = some st ∧ (∀ i, st.phase i = .done (.ok ⟨0, 0⟩)) ∧
    Due sampleWorker.today st.store.stock ⟨.batchExpiring, 1, 3⟩ ∧ st.store.alerts = [] := by
  rw [bothJobs_work]
  refine ⟨_, rfl, ?_, ⟨_, _, expiringStore_due⟩, rfl⟩
  intro i
  cases i <;> rfl

end Leadkart.AlertScan
