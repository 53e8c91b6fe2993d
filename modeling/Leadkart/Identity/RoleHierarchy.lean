import Leadkart.Common.Tenancy
import Leadkart.Identity.Store

/-!
# Role hierarchy edges
-/

namespace Leadkart.RoleHierarchy

open Effect

/-! ## The aggregate -/

def errInvalidEdge : Sentinel := ⟨.invalidInput, "rolehierarchy", "invalid hierarchy edge"⟩
def errEdgeAlreadyExists : Sentinel :=
  ⟨.alreadyExists, "rolehierarchy", "child already has an active parent edge"⟩
def errEdgeNotFound : Sentinel := ⟨.notFound, "rolehierarchy", "edge not found"⟩
def errSelfReference : Sentinel :=
  ⟨.invalidInput, "rolehierarchy", "child cannot be its own parent"⟩
def errCycle : Sentinel := ⟨.invalidInput, "rolehierarchy", "edge would create a cycle"⟩
def errCrossTenant : Sentinel :=
  ⟨.invalidInput, "rolehierarchy", "child and parent belong to different tenants"⟩
def errInvalidReason : Sentinel :=
  ⟨.invalidInput, "rolehierarchy", "reason must be 10-1024 chars when supplied"⟩
def errNotActive : Sentinel := ⟨.conflict, "rolehierarchy", "edge is already removed"⟩

def minReasonLength : Nat := 10
def maxReasonLength : Nat := 1024

inductive Event where
  | established (id tenantID childRoleID parentRoleID establishedByMembershipID reason : String)
      (occurredAt : Time)
  | removed (id tenantID childRoleID parentRoleID removedByMembershipID reason : String)
      (occurredAt : Time)

structure Edge where
  (id tenantID childRoleID parentRoleID : String)
  establishedAt : Time
  (establishedByMembershipID reason : String)
  removedAt : Time := 0
  (removedByMembershipID removalReason : String := "")
  events : List Event := []

def validateReason (raw : String) : Except Err String :=
  let trimmed := trimSpace raw
  if trimmed = "" then .ok ""
  else if trimmed.utf8ByteSize < minReasonLength ∨ maxReasonLength < trimmed.utf8ByteSize then
    .error ⟨errInvalidReason, "length " ++ toString trimmed.utf8ByteSize ++ " not in [10, 1024]"⟩
  else .ok trimmed

namespace Edge

def new (id tenantID childRoleID parentRoleID establishedBy reason : String) (now : Time) :
    Except Err Edge :=
  if id = "" then .error ⟨errInvalidEdge, "id required"⟩
  else if tenantID = "" then .error ⟨errInvalidEdge, "tenantID required"⟩
  else if childRoleID = "" then .error ⟨errInvalidEdge, "childRoleID required"⟩
  else if parentRoleID = "" then .error ⟨errInvalidEdge, "parentRoleID required"⟩
  else if childRoleID = parentRoleID then .error ⟨errSelfReference, "child=" ++ childRoleID⟩
  else
    match validateReason reason with
    | .error e => .error e
    | .ok trimmed => .ok
      { id, tenantID, childRoleID, parentRoleID
        establishedAt := now
        establishedByMembershipID := establishedBy
        reason := trimmed
        events := [.established id tenantID childRoleID parentRoleID establishedBy trimmed now] }

def isActive (e : Edge) : Bool := e.removedAt.isZero

def remove (e : Edge) (removedBy reason : String) (now : Time) : Except Err Edge :=
  if !e.isActive then .error ⟨errNotActive, "removed_at"⟩
  else
    match validateReason reason with
    | .error err => .error err
    | .ok trimmed => .ok
      { e with
        removedAt := now
        removedByMembershipID := removedBy
        removalReason := trimmed
        events := e.events ++
          [.removed e.id e.tenantID e.childRoleID e.parentRoleID removedBy trimmed now] }

end Edge

structure Row where
  (id tenantID childRoleID parentRoleID : UUID)
  establishedAt : Time
  establishedByMembershipID : Option UUID := none
  reason : Option String := none
  removedAt : Option Time := none
  removedByMembershipID : Option UUID := none
  removalReason : Option String := none
  deriving DecidableEq

def reasonFits (x : Option String) : Bool :=
  x.all fun text => 10 ≤ text.toList.length && text.toList.length ≤ 1024

def pkey : UniqueIndex Row where
  name := "role_hierarchy_edges_pkey"
  Key := UUID
  key r := some r.id

def uqRoleHierarchyActiveEdgePerChild : UniqueIndex Row where
  name := "uq_role_hierarchy_active_edge_per_child"
  Key := UUID × UUID
  key r := if r.removedAt = none then some (r.tenantID, r.childRoleID) else none

def roleHierarchyEdges (codec : UuidCodec) : SqlRelation Row where
  policies := App.tenantPolicies codec Row.tenantID
  constraints :=
    [Sql.check "chk_edge_no_self_loop" fun r => r.childRoleID ≠ r.parentRoleID,
      Sql.check "role_hierarchy_edges_reason_check" fun r => reasonFits r.reason,
      Sql.check "role_hierarchy_edges_removal_reason_check" fun r => reasonFits r.removalReason]
  indexes := [pkey, uqRoleHierarchyActiveEdgePerChild]

structure Store (codec : UuidCodec) where
  identity : Leadkart.Store
  edges : (roleHierarchyEdges codec).Rows

def hasRole (codec : UuidCodec) (s : Leadkart.Store) (tenantID id : UUID) : Bool :=
  s.roles.rows.any fun r => r.tenantID == codec.string tenantID && r.id == codec.string id

def optionalID (codec : UuidCodec) (p : Option UUID) : String :=
  if uuidFromPg p = 0 then "" else codec.string (uuidFromPg p)

def rowToHierarchyEdge (codec : UuidCodec) (row : Row) : Edge where
  id := codec.string row.id
  tenantID := codec.string row.tenantID
  childRoleID := codec.string row.childRoleID
  parentRoleID := codec.string row.parentRoleID
  establishedAt := row.establishedAt
  establishedByMembershipID := optionalID codec row.establishedByMembershipID
  reason := stringFromPg row.reason
  removedAt := timeFromPg row.removedAt
  removedByMembershipID := optionalID codec row.removedByMembershipID
  removalReason := stringFromPg row.removalReason

def parseID (codec : UuidCodec) (name raw : String) : Except Err UUID :=
  codec.parseOr ("edge repo: parse " ++ name ++ " ") raw

def optionalParam (codec : UuidCodec) (name raw : String) : Except Err (Option UUID) :=
  if raw = "" then .ok none else (parseID codec name raw).map pgUUIDOrNull

def removalParams (e : Edge) (removedBy : Option UUID) (row : Row) : Row :=
  { row with
    removedAt := pgTimestamp e.removedAt
    removedByMembershipID := removedBy
    removalReason := zeroToNil e.removalReason }

/-! ## Statements -/

abbrev Tx := Pg.Tx Row

abbrev Conn := Pg.Conn Row

section

variable (codec : UuidCodec)

abbrev Repo (α : Type) := Effect (Store codec) Err α

variable {codec}

variable (tx : Tx)

def activeEdge (tenantID child : UUID) (r : Row) : Bool :=
  r.tenantID = tenantID && r.childRoleID = child && r.removedAt = none

def cycleDetected : SqlError := ⟨.checkViolation, ""⟩

def checkLoop (tx : Tx) (t : (roleHierarchyEdges codec).Rows) (tenantID : UUID) :
    Nat → List UUID → Option UUID → Option (Except SqlError Unit)
  | 0, _, _ => none
  | _ + 1, _, none => some (.ok ())
  | n + 1, visited, some cur =>
    if cur ∈ visited then some (.error cycleDetected)
    else
      match (roleHierarchyEdges codec).select tx.settings tx.plan (activeEdge tenantID cur) t with
      | .error e => some (.error e)
      | .ok rows => checkLoop tx t tenantID n (visited ++ [cur]) (rows.head?.map Row.parentRoleID)

def edgeCheckCycle (t : (roleHierarchyEdges codec).Rows) (new : Row) (rounds : Nat) :
    Option (Except SqlError Unit) :=
  if new.childRoleID = new.parentRoleID then some (.ok ())
  else checkLoop tx t new.tenantID rounds [new.childRoleID] (some new.parentRoleID)

def roundsOf (t : (roleHierarchyEdges codec).Rows) : Nat := t.rows.length + 3

def insertRow (row : Row) (s : Store codec) : Except SqlError (Store codec) := do
  (edgeCheckCycle tx s.edges row (roundsOf s.edges)).getD (.error cycleDetected)
  let t ← (roleHierarchyEdges codec).insert tx.settings row s.edges
  Sql.foreignKey "fk_edges_child_same_tenant"
    (hasRole codec s.identity row.tenantID row.childRoleID)
  Sql.foreignKey "fk_edges_parent_same_tenant"
    (hasRole codec s.identity row.tenantID row.parentRoleID)
  return { s with edges := t }

def translateHierarchyEdgeError (e : SqlError) : Option Sentinel :=
  match e.state with
  | .uniqueViolation =>
    if e.constraintName = "uq_role_hierarchy_active_edge_per_child" then some errEdgeAlreadyExists
    else none
  | .foreignKeyViolation =>
    -- the names that start with fk_edges_
    if e.constraintName ∈ ["fk_edges_child_same_tenant", "fk_edges_parent_same_tenant"] then
      some errCrossTenant
    else none
  | .checkViolation =>
    if e.constraintName = "chk_edge_no_self_loop" then some errSelfReference
    else if e = cycleDetected then some errCycle
    else none
  | _ => none

def insertError (e : SqlError) : Err :=
  match translateHierarchyEdgeError e with
  | some sentinel => ⟨sentinel, ""⟩
  | none => Pg.wrapped "edge repo: insert: " e

def insertHierarchyEdgeRow (e : Edge) : Repo codec Unit := Effect.write fun s => do
  let rid ← parseID codec "id" e.id
  let tid ← parseID codec "tenant id" e.tenantID
  let cid ← parseID codec "child id" e.childRoleID
  let pid ← parseID codec "parent id" e.parentRoleID
  let establishedBy ← optionalParam codec "established_by" e.establishedByMembershipID
  (insertRow tx
    { id := rid, tenantID := tid, childRoleID := cid, parentRoleID := pid
      establishedAt := e.establishedAt, establishedByMembershipID := establishedBy
      reason := zeroToNil e.reason } s).mapError insertError

def hasID (id : UUID) (r : Row) : Bool := r.id = id

def fetchOne (text : String) (cond : Row → Bool) : Repo codec Edge :=
  Effect.query fun s =>
    match (roleHierarchyEdges codec).select tx.settings tx.plan cond s.edges with
    | .error e => .error (Pg.wrapped text e)
    | .ok [] => .error ⟨errEdgeNotFound, ""⟩
    | .ok (row :: _) => .ok (rowToHierarchyEdge codec row)

def loadHierarchyEdge (id : String) : Repo codec Edge := do
  let rid ← Effect.ofExcept (parseID codec "id" id)
  fetchOne tx "edge repo: get by id: " (hasID rid)

def persistHierarchyEdgeRemoval (e : Edge) : Repo codec Unit := Effect.write fun s => do
  let rid ← parseID codec "id" e.id
  let removedBy ← optionalParam codec "removed_by" e.removedByMembershipID
  let t ← ((roleHierarchyEdges codec).update tx.settings tx.plan (hasID rid)
    (removalParams e removedBy) s.edges).mapError (Pg.wrapped "edge repo: update removal: ")
  return { s with edges := t }

def drainHierarchyEdgeEvents (e : Edge) : Repo codec Unit :=
  if e.events = [] then pure ()
  else Effect.ofExcept ((parseID codec "tenant id" e.tenantID).map fun _ => ())

abbrev UpdateFn := Edge → Edge × Except Err Bool

def addOnTx (e : Edge) : Repo codec Unit := do
  insertHierarchyEdgeRow tx e
  drainHierarchyEdgeEvents e

def activeChild (child : UUID) (r : Row) : Bool := r.childRoleID = child && r.removedAt = none

def getActiveByChild (conn : Conn) (tenantID childRoleID : String) : Repo codec Edge := do
  let cid ← Effect.ofExcept (parseID codec "child id" childRoleID)
  Pg.withinTx conn tenantID fun tx =>
    fetchOne tx "edge repo: get active by child: " (activeChild cid)

def updateOnTx (id : String) (updateFn : UpdateFn) : Repo codec Unit := do
  let e ← loadHierarchyEdge tx id
  match updateFn e with
  | (_, .error err) => Effect.fail err
  | (_, .ok false) => pure ()
  | (e', .ok true) => do
    persistHierarchyEdgeRemoval tx e'
    drainHierarchyEdgeEvents e'

def updateByID (conn : Conn) (tenantID id : String) (updateFn : UpdateFn) : Repo codec Unit :=
  Pg.withinTx conn tenantID fun tx => updateOnTx tx id updateFn

end

/-! ## The handlers -/

def errRoleNameTaken : Sentinel := ⟨.unknown, "", "role: name already taken in this tenant"⟩

structure CreateRoleCommand where
  (tenantID name : String)
  hierarchyLevel : Int
  (parentRoleID actorMembershipID reason : String)

structure SetRoleParentCommand where
  (tenantID roleID newParentID actorMembershipID reason : String)

structure Draws where
  (readConn txConn : Conn)
  (roleID edgeID : String)
  (now edgeNow : Time)

def createError (e : Err) : Err :=
  if e.is Role.errNameTaken then ⟨errRoleNameTaken, ""⟩
  else ⟨e.sentinel, "create_role: " ++ e.detail⟩

def createEdgeError (e : Err) : Err :=
  if e.is Role.errNameTaken then ⟨errRoleNameTaken, ""⟩
  else if e.is errCycle || e.is errCrossTenant || e.is errSelfReference ||
      e.is errEdgeAlreadyExists then e
  else ⟨e.sentinel, "create_role: " ++ e.detail⟩

def removeFn (cmd : SetRoleParentCommand) (now : Time) : UpdateFn := fun e =>
  match e.remove cmd.actorMembershipID cmd.reason now with
  | .ok e' => (e', .ok true)
  | .error err => (e, .error err)

variable {codec : UuidCodec}

variable (d : Draws) (cmd : SetRoleParentCommand)

def onIdentity {α : Type} (x : Leadkart.Repo α) : Repo codec α :=
  zoom Store.identity (fun i s => { s with identity := i }) x

def createRole (ctxTenant : Option String) (cmd : CreateRoleCommand) :
    Repo codec String :=
  if cmd.tenantID = "" then fail (.foreign "create_role: tenant id required")
  else
    match Role.new d.roleID cmd.tenantID cmd.name false cmd.hierarchyLevel false d.now with
    | .error e => fail e
    | .ok r =>
      if cmd.parentRoleID = "" then do
        mapError (onIdentity (RoleRepository.add r)) createError
        return r.id
      else
        match Edge.new d.edgeID cmd.tenantID r.id cmd.parentRoleID cmd.actorMembershipID cmd.reason
            d.edgeNow with
        | .error e => fail e
        | .ok edge => do
          mapError (Pg.withinUnitOfWork d.txConn ctxTenant fun tx => do
            onIdentity (RoleRepository.add r)
            addOnTx tx edge) createEdgeError
          return r.id

def existingEdge : Repo codec (Option Edge) := do
  match ← attempt (getActiveByChild d.readConn cmd.tenantID cmd.roleID) with
  | .ok e => return some e
  | .error e =>
    if e.is errEdgeNotFound then return none
    else fail ⟨e.sentinel, "set_role_parent: load existing edge: " ++ e.detail⟩

def softDelete (id : String) : Repo codec Unit :=
  mapError (updateByID d.txConn cmd.tenantID id (removeFn cmd d.now)) fun err =>
    ⟨err.sentinel, "set_role_parent: soft-delete existing: " ++ err.detail⟩

def clearParent : Repo codec Unit := do
  match ← existingEdge d cmd with
  | none => return ()
  | some e => softDelete d cmd e.id

def removeExistingEdge (tx : Tx) : Repo codec Unit := do
  match ← existingEdge d cmd with
  | none => return ()
  | some e => updateOnTx tx e.id (removeFn cmd d.now)

def setRoleParent (ctxTenant : Option String) (cmd : SetRoleParentCommand) :
    Repo codec Unit :=
  if cmd.tenantID = "" then fail (.foreign "set_role_parent: tenant id required")
  else if cmd.roleID = "" then fail (.foreign "set_role_parent: role id required")
  else if cmd.newParentID = "" then clearParent d cmd
  else Pg.withinUnitOfWork d.txConn ctxTenant fun tx => do
    removeExistingEdge d cmd tx
    let edge ← ofExcept (Edge.new d.edgeID cmd.tenantID cmd.roleID cmd.newParentID
      cmd.actorMembershipID cmd.reason d.edgeNow)
    addOnTx tx edge

inductive Command where
  | create (ctxTenant : Option String) (d : Draws) (cmd : CreateRoleCommand)
  | setParent (ctxTenant : Option String) (d : Draws) (cmd : SetRoleParentCommand)
  | clear (d : Draws) (cmd : SetRoleParentCommand) (edgeID : String)

def step (s : Store codec) : Command → Option (Store codec)
  | .create ctxTenant d cmd => some ((createRole d ctxTenant cmd).run s).2
  | .setParent ctxTenant d cmd => some ((setRoleParent d ctxTenant cmd).run s).2
  | .clear d cmd edgeID => some ((softDelete d cmd edgeID).run s).2

end Leadkart.RoleHierarchy
