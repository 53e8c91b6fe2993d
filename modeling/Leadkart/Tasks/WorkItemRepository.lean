import Leadkart.Tasks.WorkItem

/-!
# The work item repository
-/

namespace Leadkart.WorkItem

open Effect

structure Row where
  (id tenantID : UUID)
  (itype priority state title : String)
  description : String := ""
  (assignedTo assignedBy : Option UUID)
  dueAt : Time
  (completedAt cancelledAt : Option Time := none)
  cancellationReason : String := ""
  batchID : Option UUID := none
  sourceModule : String := ""
  (sourceEntityType sourceEntityID : Option String := none)
  createdAt : Time
  createdBy : Option UUID
  isDeleted : Bool := false
  deriving DecidableEq

def Row.stateOpen (r : Row) : Bool := r.state ∈ ["pending", "in_progress"]

def notNull (column : Row → Option UUID) (r : Row) : Except SqlError Unit :=
  if (column r).isSome then .ok () else .error ⟨.notNullViolation, ""⟩

def Row.sourceConsistent (r : Row) : Bool :=
  (r.sourceModule = "" && r.sourceEntityType.isNone && r.sourceEntityID.isNone) ||
    (r.sourceModule ≠ "" && r.sourceEntityType.isSome && r.sourceEntityID.isSome)

def pkey : UniqueIndex Row where
  name := "work_items_pkey"
  Key := UUID × UUID
  key r := some (r.tenantID, r.id)

def uqTasksSourceOpen : UniqueIndex Row where
  name := "uq_tasks_source_open"
  Key := UUID × String × String
  key r :=
    if !r.isDeleted && r.stateOpen then
      match r.sourceEntityType, r.sourceEntityID with
      | some entityType, some entityID => some (r.tenantID, entityType, entityID)
      | _, _ => none
    else none

def workItems (codec : UuidCodec) : SqlRelation Row where
  policies := App.tenantPolicies codec Row.tenantID
  constraints :=
    [notNull Row.assignedTo, notNull Row.assignedBy, notNull Row.createdBy,
      Sql.check "chk_source_consistency" Row.sourceConsistent,
      Sql.check "work_items_priority_check" fun r =>
        r.priority ∈ ["low", "medium", "high", "urgent"],
      Sql.check "work_items_state_check" fun r =>
        r.state ∈ ["pending", "in_progress", "completed", "overdue", "cancelled"],
      Sql.check "work_items_title_check" fun r => 1 ≤ r.title.length && r.title.length ≤ 200,
      Sql.check "work_items_type_check" fun r =>
        r.itype ∈ ["manual", "callback_reminder", "reorder_reminder", "follow_up", "custom"]]
  indexes := [pkey, uqTasksSourceOpen]

structure Store (codec : UuidCodec) where
  workItems : (workItems codec).Rows := {}
  outbox : List OutboxMessage := []

def snapshotFromColumns (codec : UuidCodec) (row : Row) : Except Err WorkItem := do
  let stored (name raw : String) (e : Err) : Err :=
    ⟨e.sentinel, "tasks repo: stored " ++ name ++ " " ++ raw ++ " invalid: " ++ e.detail⟩
  let itype ← (parseType row.itype).mapError (stored "type" row.itype)
  let priority ← (parsePriority row.priority).mapError (stored "priority" row.priority)
  let state ← (parseState row.state).mapError (stored "state" row.state)
  let uuidStringOrEmpty (p : Option UUID) : String := (p.map codec.string).getD ""
  return {
    id := codec.string row.id
    tenantID := codec.string row.tenantID
    itype, priority, state
    title := row.title
    description := row.description
    assignedTo := uuidStringOrEmpty row.assignedTo
    assignedBy := uuidStringOrEmpty row.assignedBy
    dueAt := row.dueAt
    completedAt := timeFromPg row.completedAt
    cancelledAt := timeFromPg row.cancelledAt
    cancellationReason := row.cancellationReason
    batchID := uuidStringOrEmpty row.batchID
    source := ⟨row.sourceModule, stringFromPg row.sourceEntityType,
      stringFromPg row.sourceEntityID⟩
    createdAt := row.createdAt
    createdBy := uuidStringOrEmpty row.createdBy }

def pgUUIDOpt (codec : UuidCodec) (s : String) : Option UUID := (codec.parse s).bind pgUUIDOrNull

def parseID (codec : UuidCodec) (name raw : String) : Except Err UUID :=
  codec.parseOr ("tasks repo: parse " ++ name ++ " ") raw

def insertParams (codec : UuidCodec) (w : WorkItem) (id tenantID : UUID) : Row where
  id := id
  tenantID := tenantID
  itype := w.itype.string
  priority := w.priority.string
  state := w.state.string
  title := w.title
  description := w.description
  assignedTo := pgUUIDOpt codec w.assignedTo
  assignedBy := pgUUIDOpt codec w.assignedBy
  dueAt := w.dueAt
  completedAt := pgTimestamp w.completedAt
  cancelledAt := pgTimestamp w.cancelledAt
  cancellationReason := w.cancellationReason
  batchID := pgUUIDOpt codec w.batchID
  sourceModule := w.source.module
  sourceEntityType := zeroToNil w.source.entityType
  sourceEntityID := zeroToNil w.source.entityID
  createdAt := w.createdAt
  createdBy := pgUUIDOpt codec w.createdBy

def updateParams (codec : UuidCodec) (w : WorkItem) (row : Row) : Row :=
  { row with
    priority := w.priority.string
    state := w.state.string
    title := w.title
    description := w.description
    assignedTo := pgUUIDOpt codec w.assignedTo
    dueAt := w.dueAt
    completedAt := pgTimestamp w.completedAt
    cancelledAt := pgTimestamp w.cancelledAt
    cancellationReason := w.cancellationReason }

def markDeleted (row : Row) : Row := { row with isDeleted := true }

theorem updateParams_tenantID (codec : UuidCodec) (w : WorkItem) (row : Row) :
    (updateParams codec w row).tenantID = row.tenantID := rfl

theorem markDeleted_tenantID (row : Row) : (markDeleted row).tenantID = row.tenantID := rfl

abbrev Tx := Pg.Tx Row

abbrev Conn := Pg.Conn Row

variable (codec : UuidCodec)

abbrev Repo (α : Type) := Effect (Store codec) Err α

variable {codec}

def writeRows (f : (workItems codec).Rows → Except Err (workItems codec).Rows) : Repo codec Unit :=
  write fun s => (f s.workItems).map fun t => { s with workItems := t }

def liveID (id : UUID) (r : Row) : Bool := r.id = id && !r.isDeleted

def loadWorkItem (tx : Tx) (id : String) : Repo codec WorkItem := Effect.query fun s => do
  let lid ← parseID codec "id" id
  match (workItems codec).select tx.settings tx.plan (liveID lid) s.workItems with
  | .error e => .error (Pg.wrapped "tasks repo: get by id: " e)
  | .ok [] => .error ⟨errNotFound, ""⟩
  | .ok (row :: _) => snapshotFromColumns codec row

def insertError (e : SqlError) : Err :=
  if e.state = .uniqueViolation && e.constraintName = "uq_tasks_source_open" then
    ⟨errAlreadyExistsForSource, ""⟩
  else Pg.wrapped "tasks repo: insert: " e

def insertWorkItemRow (tx : Tx) (w : WorkItem) : Repo codec Unit := writeRows fun t => do
  let lid ← parseID codec "id" w.id
  let tid ← parseID codec "tenant id" w.tenantID
  ((workItems codec).insert tx.settings (insertParams codec w lid tid) t).mapError insertError

def persistWorkItemState (tx : Tx) (w : WorkItem) : Repo codec Unit := writeRows fun t => do
  let lid ← parseID codec "id" w.id
  ((workItems codec).update tx.settings tx.plan (liveID lid) (updateParams codec w) t).mapError
    (Pg.wrapped "")

def drainWorkItemEvents (w : WorkItem) : Repo codec Unit :=
  if w.events = [] then pure ()
  else write fun s => do
    let tid ← parseID codec "tenant id" w.tenantID
    let mapped ← (mapDomainEvents codec w.events).mapError fun e =>
      ⟨e.sentinel, "tasks repo: map events: " ++ e.detail⟩
    return { s with outbox := s.outbox ++ mapped.map fun e => ⟨topic, tid, e⟩ }

/-! ## The repository -/

variable (conn : Conn)

abbrev UpdateFn := WorkItem → WorkItem × Except Err Bool

def addOnTx (tx : Tx) (w : WorkItem) : Repo codec Unit := do
  insertWorkItemRow tx w
  drainWorkItemEvents w

def add (w : WorkItem) : Repo codec Unit :=
  Pg.withinTx conn w.tenantID fun tx => addOnTx tx w

def updateOnTx (tx : Tx) (id : String) (updateFn : UpdateFn) : Repo codec Unit := do
  let w ← loadWorkItem tx id
  match updateFn w with
  | (_, .error e) => ofExcept (.error e)
  | (_, .ok false) => pure ()
  | (w', .ok true) => do
    persistWorkItemState tx w'
    drainWorkItemEvents w'

def updateByID (tenantID id : String) (updateFn : UpdateFn) : Repo codec Unit :=
  Pg.withinTx conn tenantID fun tx => updateOnTx tx id updateFn

def getByID (tenantID id : String) : Repo codec WorkItem :=
  Pg.withinTx conn tenantID fun tx => loadWorkItem tx id

def openSource (entityType entityID : String) (r : Row) : Bool :=
  r.sourceEntityType = some entityType && r.sourceEntityID = some entityID && r.stateOpen &&
    !r.isDeleted

def getOpenBySource (tenantID entityType entityID : String) : Repo codec WorkItem :=
  if entityType = "" || entityID = "" then ofExcept (.error ⟨errNotFound, ""⟩)
  else Pg.withinTx conn tenantID fun tx => Effect.query fun s =>
    match (workItems codec).select tx.settings tx.plan (openSource entityType entityID)
        s.workItems with
    | .error e => .error (Pg.wrapped "tasks repo: get open by source: " e)
    | .ok [] => .error ⟨errNotFound, ""⟩
    | .ok (row :: _) => snapshotFromColumns codec row

structure ListFilter where
  (state itype priority assignedTo selfFilter batchID : String := "")
  (dueBefore dueAfter : Time := 0)

def nullOr {α : Type} (param : Option α) (p : α → Bool) : Bool := param.all p

def beforeCursor (dueAt : Time) (id : Option UUID) (r : Row) : Bool :=
  r.dueAt < dueAt || (r.dueAt = dueAt && id.any fun id => r.id < id)

def listed (codec : UuidCodec) (tenantID : UUID) (filter : ListFilter) (cursor : Cursor)
    (r : Row) : Bool :=
  r.tenantID = tenantID && !r.isDeleted &&
    nullOr (zeroToNil filter.state) (r.state = ·) &&
    nullOr (zeroToNil filter.itype) (r.itype = ·) &&
    nullOr (zeroToNil filter.priority) (r.priority = ·) &&
    nullOr (pgUUIDOpt codec filter.assignedTo) (r.assignedTo = some ·) &&
    nullOr (pgUUIDOpt codec filter.selfFilter) (r.assignedTo = some ·) &&
    nullOr (pgUUIDOpt codec filter.batchID) (r.batchID = some ·) &&
    nullOr (pgTimestamp filter.dueBefore) (r.dueAt < ·) &&
    nullOr (pgTimestamp filter.dueAfter) (· < r.dueAt) &&
    nullOr (pgTimestamp cursor.sortValue) (beforeCursor · (pgUUIDOpt codec cursor.id) r)

def listedBefore (a b : Row) : Bool := b.dueAt < a.dueAt || (a.dueAt = b.dueAt && b.id ≤ a.id)

def pageOf (codec : UuidCodec) (pageSize : Nat) (rows : List Row) : Except Err (Page WorkItem) := do
  let hasMore := decide (pageSize < rows.length)
  let items ← (rows.take pageSize).mapM (snapshotFromColumns codec)
  let next := if hasMore then items.getLast?.map fun last => ⟨last.dueAt, last.id⟩ else none
  return ⟨items, hasMore, next⟩

def listPage (tenantID : String) (filter : ListFilter) (cursor : Cursor)
    (pageSize : Int) : Repo codec (Page WorkItem) := do
  let tid ← ofExcept (parseID codec "tenant id" tenantID)
  let rows ← Pg.withinTx conn tenantID fun tx => Effect.query fun s =>
    match (workItems codec).select tx.settings tx.plan (listed codec tid filter cursor)
        s.workItems with
    | .error e => .error (Pg.wrapped "tasks repo: list page: " e)
    | .ok rows => .ok ((rows.mergeSort listedBefore).take (clampPageSize pageSize + 1))
  ofExcept (pageOf codec (clampPageSize pageSize) rows)

def softDelete (tx : Tx) (id : UUID) : Repo codec Unit := writeRows fun t =>
  ((workItems codec).update tx.settings tx.plan (liveID id) markDeleted t).mapError (Pg.wrapped "")

def deleteOnTx (tx : Tx) (id : String) : Repo codec Unit := do
  let lid ← ofExcept (parseID codec "id" id)
  let _ ← loadWorkItem tx id
  softDelete tx lid

def deleteByID (tenantID id : String) : Repo codec Unit :=
  Pg.withinTx conn tenantID fun tx => deleteOnTx tx id

end Leadkart.WorkItem
