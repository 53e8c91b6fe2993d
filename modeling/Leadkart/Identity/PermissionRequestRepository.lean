import Leadkart.Identity.PermissionRequest
import Leadkart.Identity.Store

/-!
# The permission request repository
-/

namespace Leadkart.PermissionRequest

open List Settings Effect SqlRelation UuidCodec

structure Row where
  (id tenantID requesterMembershipID : UUID)
  permissionConstant : String
  durationDays : Int
  reason : String
  state : State
  approverMembershipID : Option UUID := none
  decidedAt : Option Time := none
  decisionReason : Option String := none
  grantedOverrideID : Option UUID := none
  expiresAt : Option Time := none
  (createdAt updatedAt : Time)
  deriving DecidableEq

def rawOwnOrPlatform (codec : UuidCodec) (tenantID : UUID) (s : Settings) : Sql.Expr Bool :=
  Sql.or (Sql.eq tenantID (Sql.cast codec.input (s.currentSetting Pg.gucTenantID)))
    (Sql.isTrue (Sql.cast Sql.boolIn (s.currentSetting Pg.gucIsPlatform)))

def pkey : UniqueIndex Row where
  name := "permission_requests_pkey"
  Key := UUID
  key r := some r.id

def uqPermissionRequestsPending : UniqueIndex Row where
  name := "uq_permission_requests_pending"
  Key := UUID × String
  key r := if r.state = .pending then some (r.requesterMembershipID, r.permissionConstant) else none

def permissionRequests (codec : UuidCodec) : SqlRelation Row where
  policies :=
    { select := fun s r => rawOwnOrPlatform codec r.tenantID s
      insertCheck := fun s r => rawOwnOrPlatform codec r.tenantID s
      updateUsing := fun s r => rawOwnOrPlatform codec r.tenantID s
      updateCheck := fun s r => rawOwnOrPlatform codec r.tenantID s }
  constraints :=
    [Sql.check "permission_requests_decision_reason_check" fun r =>
        r.decisionReason.all fun text => text.toList.length ≤ 1024,
      Sql.check "permission_requests_duration_days_check" fun r =>
        1 ≤ r.durationDays && r.durationDays ≤ 90,
      Sql.check "permission_requests_no_self_approval" fun r =>
        r.approverMembershipID.all fun approver => approver ≠ r.requesterMembershipID,
      Sql.check "permission_requests_reason_check" fun r =>
        10 ≤ r.reason.toList.length && r.reason.toList.length ≤ 1024]
  indexes := [pkey, uqPermissionRequestsPending]

structure Store (codec : UuidCodec) where
  identity : Leadkart.Store := {}
  requests : (permissionRequests codec).Rows := {}

def hasTenant (codec : UuidCodec) (s : Leadkart.Store) (id : UUID) : Bool :=
  s.tenants.rows.any fun t => t.id == codec.string id

def hasMembership (codec : UuidCodec) (s : Leadkart.Store) (id : UUID) : Bool :=
  s.memberships.rows.any fun st => st.row.id == codec.string id

theorem clash_iff {codec : UuidCodec} {a b : Row} :
    (permissionRequests codec).Clash a b ↔ pkey.Clash a b ∨ uqPermissionRequestsPending.Clash a b := by
  simp [SqlRelation.Clash, permissionRequests]

theorem clash_of_id {codec : UuidCodec} {a b : Row} (h : a.id = b.id) :
    (permissionRequests codec).Clash a b := clash_iff.mpr (.inl ⟨by simp [pkey], congrArg some h⟩)

def rowToPermissionRequest (codec : UuidCodec) (row : Row) : Except Err PermissionRequest := do
  let permission ← (Permission.tryFromConstant row.permissionConstant).mapError fun e =>
    ⟨e.sentinel, "permreq repo: unknown permission " ++ row.permissionConstant ++ " in row: " ++
      e.detail⟩
  let approver := uuidFromPg row.approverMembershipID
  return {
    id := codec.string row.id
    tenantID := codec.string row.tenantID
    requesterMembershipID := codec.string row.requesterMembershipID
    permission
    durationDays := row.durationDays
    reason := row.reason
    state := row.state
    approverMembershipID := if approver = 0 then "" else codec.string approver
    decidedAt := timeFromPg row.decidedAt
    decisionReason := stringFromPg row.decisionReason
    grantedOverrideID := uuidFromPg row.grantedOverrideID
    expiresAt := timeFromPg row.expiresAt
    createdAt := row.createdAt
    updatedAt := row.updatedAt }

def parseID (codec : UuidCodec) (name raw : String) : Except Err UUID :=
  codec.parseOr ("permreq repo: parse " ++ name ++ " ") raw

def insertParams (r : PermissionRequest) (rid tid mid : UUID) : Row where
  id := rid
  tenantID := tid
  requesterMembershipID := mid
  permissionConstant := r.permission.name
  durationDays := r.durationDays
  reason := r.reason
  state := .pending
  createdAt := r.createdAt
  updatedAt := r.createdAt

def approverParam (codec : UuidCodec) (r : PermissionRequest) : Except Err (Option UUID) :=
  if r.approverMembershipID = "" then .ok none
  else (parseID codec "approver id" r.approverMembershipID).map some

def decisionParams (r : PermissionRequest) (approver : Option UUID) (row : Row) : Row :=
  { row with
    state := r.state
    approverMembershipID := approver
    decidedAt := pgTimestamp r.decidedAt
    decisionReason := zeroToNil r.decisionReason
    grantedOverrideID := pgUUIDOrNull r.grantedOverrideID
    expiresAt := pgTimestamp r.expiresAt
    updatedAt := r.updatedAt }

abbrev Tx := Pg.Tx Row

abbrev Conn := Pg.Conn Row

section

variable (codec : UuidCodec)

abbrev Repo (α : Type) := Effect (Store codec) Err α

variable {codec}

def fetch (tx : Tx) (text : String) (cond : Row → Bool) : Repo codec (List Row) :=
  Effect.query fun s =>
    ((permissionRequests codec).select tx.settings tx.plan cond s.requests).mapError
      (Pg.wrapped text)

def hasID (id : UUID) (r : Row) : Bool := r.id = id

def loadPermissionRequest (tx : Tx) (id : String) : Repo codec PermissionRequest := do
  let rid ← ofExcept (parseID codec "id" id)
  match ← fetch tx "permreq repo: get by id: " (hasID rid) with
  | [] => Effect.fail ⟨errNotFound, ""⟩
  | row :: _ => ofExcept (rowToPermissionRequest codec row)

def insertError (e : SqlError) : Err :=
  if e.state = .uniqueViolation && e.constraintName = "uq_permission_requests_pending" then
    ⟨errPendingRequestExists, ""⟩
  else Pg.wrapped "permreq repo: insert: " e

def insertRow (settings : Settings) (row : Row) (s : Store codec) :
    Except SqlError (Store codec) := do
  let t ← (permissionRequests codec).insert settings row s.requests
  Sql.foreignKey "permission_requests_tenant_id_fkey" (hasTenant codec s.identity row.tenantID)
  Sql.foreignKey "permission_requests_requester_membership_id_fkey"
    (hasMembership codec s.identity row.requesterMembershipID)
  return { s with requests := t }

def insertPermissionRequestRow (tx : Tx) (r : PermissionRequest) : Repo codec Unit :=
  write fun s => do
    let rid ← parseID codec "id" r.id
    let tid ← parseID codec "tenant id" r.tenantID
    let mid ← parseID codec "requester id" r.requesterMembershipID
    (insertRow tx.settings (insertParams r rid tid mid) s).mapError insertError

def updateRow (tx : Tx) (rid : UUID) (r : PermissionRequest) (approver : Option UUID)
    (s : Store codec) : Except SqlError (Store codec) := do
  let t ← (permissionRequests codec).update tx.settings tx.plan (hasID rid)
    (decisionParams r approver) s.requests
  Sql.foreignKey "permission_requests_approver_membership_id_fkey"
    ((t.rows.filter (hasID rid)).all fun row =>
      row.approverMembershipID.all (hasMembership codec s.identity))
  return { s with requests := t }

def persistPermissionRequestDecision (tx : Tx) (r : PermissionRequest) : Repo codec Unit :=
  write fun s => do
    let rid ← parseID codec "id" r.id
    let approver ← approverParam codec r
    (updateRow tx rid r approver s).mapError (Pg.wrapped "permreq repo: update decision: ")

def drainPermissionRequestEvents (r : PermissionRequest) : Repo codec Unit :=
  if r.events = [] then pure ()
  else ofExcept ((parseID codec "tenant id" r.tenantID).map fun _ => ())

/-! ## The repository -/

abbrev UpdateFn := PermissionRequest → PermissionRequest × Except Err Bool

def addOnTx (tx : Tx) (r : PermissionRequest) : Repo codec Unit := do
  insertPermissionRequestRow tx r
  drainPermissionRequestEvents r

def add (conn : Conn) (r : PermissionRequest) : Repo codec Unit :=
  Pg.withinTx conn r.tenantID fun tx => addOnTx tx r

def getByID (conn : Conn) (tenantID id : String) : Repo codec PermissionRequest :=
  Pg.withinTx conn tenantID fun tx => loadPermissionRequest tx id

def updateOnTx (tx : Tx) (id : String) (updateFn : UpdateFn) : Repo codec Unit := do
  let r ← loadPermissionRequest tx id
  match updateFn r with
  | (_, .error e) => Effect.fail e
  | (_, .ok false) => pure ()
  | (r', .ok true) => do
    persistPermissionRequestDecision tx r'
    drainPermissionRequestEvents r'

def updateByID (conn : Conn) (tenantID id : String) (updateFn : UpdateFn) : Repo codec Unit :=
  Pg.withinTx conn tenantID fun tx => updateOnTx tx id updateFn

def pendingOf (membershipID : UUID) (r : Row) : Bool :=
  r.requesterMembershipID = membershipID && r.state = .pending

def newestFirst (a b : Row) : Bool := b.createdAt ≤ a.createdAt

def getPendingForMembership (conn : Conn) (tenantID m : String) :
    Repo codec (List PermissionRequest) := do
  let mid ← ofExcept (parseID codec "membership id" m)
  Pg.withinTx conn tenantID fun tx => do
    let rows ← fetch tx "permreq repo: list pending for membership: " (pendingOf mid)
    ofExcept ((rows.mergeSort newestFirst).mapM (rowToPermissionRequest codec))

def permReqFirstPageBefore : Time := 3651694 * day

def permReqFirstPageBeforeID : UUID := BitVec.allOnes 128

def cursorOrPermReqSentinel (codec : UuidCodec) (c : Cursor) : Time × UUID :=
  if c.id = "" && c.sortValue.isZero then (permReqFirstPageBefore, permReqFirstPageBeforeID)
  else
    match codec.parse c.id with
    | none => (permReqFirstPageBefore, permReqFirstPageBeforeID)
    | some id => (c.sortValue, id)

def beforeCursor (before : Time × UUID) (r : Row) : Bool :=
  r.createdAt < before.1 || (r.createdAt = before.1 && r.id < before.2)

def listedBefore (a b : Row) : Bool :=
  b.createdAt < a.createdAt || (a.createdAt = b.createdAt && b.id ≤ a.id)

def approvableBy (approver : UUID) (before : Time × UUID) (r : Row) : Bool :=
  r.approverMembershipID = some approver && r.state = .pending && beforeCursor before r

def requestedBy (requester : UUID) (before : Time × UUID) (r : Row) : Bool :=
  r.requesterMembershipID = requester && beforeCursor before r

def cursorOf (r : PermissionRequest) : Cursor := ⟨r.createdAt, r.id⟩

def listPage (conn : Conn) (tenantID text : String) (cond : Row → Bool) (pageSize : PageSize) :
    Repo codec (Page PermissionRequest) := do
  let rows ← Pg.withinTx conn tenantID fun tx => do
    let rows ← fetch tx text cond
    return (rows.mergeSort listedBefore).take (pageSize.1 + 1)
  let items ← ofExcept (rows.mapM (rowToPermissionRequest codec))
  return buildPage items pageSize cursorOf

def listPendingApprovableBy (conn : Conn) (tenantID approver : String) (pageSize : PageSize)
    (cursor : Cursor) : Repo codec (Page PermissionRequest) := do
  let approverUUID ← ofExcept (parseID codec "approver id" approver)
  listPage conn tenantID "permreq repo: list pending by approver: "
    (approvableBy approverUUID (cursorOrPermReqSentinel codec cursor)) pageSize

def listByRequester (conn : Conn) (tenantID requester : String) (pageSize : PageSize)
    (cursor : Cursor) : Repo codec (Page PermissionRequest) := do
  let requesterUUID ← ofExcept (parseID codec "requester id" requester)
  listPage conn tenantID "permreq repo: list by requester: "
    (requestedBy requesterUUID (cursorOrPermReqSentinel codec cursor)) pageSize

end

section Policies

variable {codec : UuidCodec} {tenantID : String} {T : UUID} {conn : Conn} {cond : Row → Bool}
  {t : (permissionRequests codec).Rows} {s : Store codec} {row : Row}

theorem rawOwnOrPlatform_bound (hT : codec.input tenantID = some T) (conn : Conn) (owner : UUID) :
    rawOwnOrPlatform codec owner (conn.tx tenantID).settings = if owner = T then .ok (some true)
    else if Settings.residue conn.history Pg.gucIsPlatform = none then .ok (some false)
    else .error ⟨.invalidTextRepresentation, ""⟩ := by
  have hname : Pg.gucIsPlatform ≠ Pg.gucTenantID := by decide
  have ht : Sql.cast codec.input
      ((conn.tx tenantID).settings.currentSetting Pg.gucTenantID) = .ok (some T) := by
    simp [Pg.Conn.tx, currentSetting, setLocal, Sql.cast, hT]
  have hp : (conn.tx tenantID).settings.currentSetting Pg.gucIsPlatform =
      .ok (residue conn.history Pg.gucIsPlatform) := by
    simp [Pg.Conn.tx, currentSetting, setLocal, hname]
  unfold rawOwnOrPlatform
  rw [ht, hp]
  by_cases hrow : owner = T
  · simp [hrow, Sql.eq, Sql.or, Except.map]
  · rcases residue_cases conn.history Pg.gucIsPlatform with h | h
    · simp [h, hrow, Sql.eq, Sql.or, Sql.cast, Sql.isTrue, Except.map]
    · have he : Sql.boolIn "" = none := by decide
      simp [h, hrow, he, Sql.eq, Sql.or, Sql.cast, Sql.isTrue, Except.map]

def Spares (conn : Conn) (T : UUID) (cond : Row → Bool) (t : (permissionRequests codec).Rows) :
    Prop :=
  Settings.residue conn.history Pg.gucIsPlatform = none ∨
    ∀ r ∈ t, (conn.plan t.rows cond r || cond r) = true → r.tenantID = T

def ownRows (T : UUID) (cond : Row → Bool) (t : (permissionRequests codec).Rows) : List Row :=
  t.rows.filter fun r => decide (r.tenantID = T) && cond r

theorem Spares.policy (h : Spares conn T cond t) (hT : codec.input tenantID = some T) {r : Row}
    (hr : r ∈ t) (hfe : (conn.plan t.rows cond r || cond r) = true) :
    rawOwnOrPlatform codec r.tenantID (conn.tx tenantID).settings =
    .ok (some (decide (r.tenantID = T))) := by
  rw [rawOwnOrPlatform_bound hT]
  by_cases ho : r.tenantID = T
  · simp [ho]
  · rcases h with hu | hf
    · simp [ho, hu]
    · exact absurd (hf r hr hfe) ho

theorem select_spared (hT : codec.input tenantID = some T) (h : Spares conn T cond t) :
    (permissionRequests codec).select (conn.tx tenantID).settings (conn.tx tenantID).plan cond t =
    .ok (ownRows T cond t) := scan_ok fun _ hr hf => h.policy hT hr hf

theorem select_fed (hT : codec.input tenantID = some T) (h : ¬ Spares conn T cond t) :
    (permissionRequests codec).select (conn.tx tenantID).settings (conn.tx tenantID).plan cond t =
    .error ⟨.invalidTextRepresentation, ""⟩ := by
  unfold Spares at h
  push Not at h
  obtain ⟨hs, r, hr, hfe, hf⟩ := h
  refine scan_error (fun q _ e he => ?_) ⟨r, hr, hfe, ⟨.invalidTextRepresentation, ""⟩, ?_⟩
  · have hp := (rawOwnOrPlatform_bound hT conn q.tenantID).symm.trans he
    rw [if_neg hs] at hp
    split at hp
    · cases hp
    · exact (Except.error.inj hp).symm
  · show rawOwnOrPlatform codec r.tenantID _ = _
    rw [rawOwnOrPlatform_bound hT, if_neg hf, if_neg hs]

theorem fetch_spared (hT : codec.input tenantID = some T) (h : Spares conn T cond s.requests)
    (text : String) :
    (fetch (conn.tx tenantID) text cond).run s = (.ok (ownRows T cond s.requests), s) := by
  unfold fetch
  rw [query_apply]
  rw [select_spared hT h]
  rfl

theorem fetch_fed (hT : codec.input tenantID = some T) (h : ¬ Spares conn T cond s.requests)
    (text : String) : (fetch (conn.tx tenantID) text cond).run s =
    (.error (Pg.wrapped text ⟨.invalidTextRepresentation, ""⟩), s) := by
  unfold fetch
  rw [query_apply]
  rw [select_fed hT h]
  rfl

theorem parseID_run {name raw : String} {u : UUID} (h : codec.parse raw = some u) (s : Store codec) :
    (ofExcept (parseID codec name raw) : Repo codec UUID).run s = (.ok u, s) := by
  unfold parseID
  rw [parseOr_ok h]
  rfl

variable {id : String}

theorem load_fed (hT : codec.input tenantID = some T) {i : UUID} (hid : codec.parse id = some i)
    (h : ¬ Spares conn T (hasID i) s.requests) :
    (loadPermissionRequest (conn.tx tenantID) id).run s =
    (.error (Pg.wrapped "permreq repo: get by id: " ⟨.invalidTextRepresentation, ""⟩), s) :=
  (bind_ok (parseID_run hid s)).trans (bind_error (fetch_fed hT h _))

theorem load_notFound (hT : codec.input tenantID = some T) {i : UUID}
    (hid : codec.parse id = some i) (h : Spares conn T (hasID i) s.requests)
    (hfo : ∀ r ∈ s.requests, r.id = i → r.tenantID ≠ T) :
    (loadPermissionRequest (conn.tx tenantID) id).run s = (.error ⟨errNotFound, ""⟩, s) := by
  have hnone : ownRows T (hasID i) s.requests = [] := by
    refine filter_eq_nil_iff.mpr fun r hr ho => ?_
    rw [Bool.and_eq_true, decide_eq_true_iff] at ho
    exact hfo r hr (of_decide_eq_true ho.2) ho.1
  have hf := fetch_spared hT h "permreq repo: get by id: "
  rw [hnone] at hf
  exact (bind_ok (parseID_run hid s)).trans (bind_ok hf)

theorem ownRows_hasID (hrow : row ∈ t) (ho : row.tenantID = T) :
    ownRows T (hasID row.id) t = [row] := by
  refine Table.filter_eq_of_mem (fun a b ha hb => clash_of_id ?_) hrow (by simp [ho, hasID])
  rw [Bool.and_eq_true, hasID, decide_eq_true_iff, decide_eq_true_iff] at ha hb
  exact ha.2.trans hb.2.symm

theorem load_own (hT : codec.input tenantID = some T) (hid : codec.parse id = some row.id)
    (h : Spares conn T (hasID row.id) s.requests) (hrow : row ∈ s.requests)
    (ho : row.tenantID = T) :
    (loadPermissionRequest (conn.tx tenantID) id).run s = (rowToPermissionRequest codec row, s) := by
  have hf := fetch_spared hT h "permreq repo: get by id: "
  rw [ownRows_hasID hrow ho] at hf
  exact (bind_ok (parseID_run hid s)).trans (bind_ok hf)

theorem rewrite_decided (hrow : row ∈ t) (set : Row → Row) (hid : ∀ q, (set q).id = q.id)
    (hstate : ∀ q, (set q).state ≠ .pending) :
    ∃ t', (permissionRequests codec).rewrite set [row] t = .ok t' ∧
    ∀ q ∈ t', q.id = row.id → q = set row := by
  have hk : ∀ q, (if decide (q ∈ [row]) = true then set q else q).id = q.id := by
    intro q
    split
    · exact hid q
    · rfl
  have hke : ∀ q, uqPermissionRequestsPending.key (set q) = none := fun q => if_neg (hstate q)
  obtain ⟨t', ht'⟩ := Table.update_of_clash (t := t) (p := fun q => decide (q ∈ [row])) (f := set)
    (by
      intro a _ b _ hab
      rcases clash_iff.mp hab with ⟨-, hpk⟩ | ⟨hne, huq⟩
      · refine clash_of_id ?_
        rw [← hk a, ← hk b]
        exact Option.some.inj hpk
      · -- a row that was decided has no key in the index on pending requests
        by_cases ha : decide (a ∈ [row]) = true
        · rw [if_pos ha] at hne
          exact absurd (hke a) hne
        by_cases hb : decide (b ∈ [row]) = true
        · rw [if_pos hb, hke] at huq
          exact absurd huq hne
        rw [if_neg ha] at hne huq
        rw [if_neg hb] at huq
        exact clash_iff.mpr (.inr ⟨hne, huq⟩))
  refine ⟨t', ?_, ?_⟩
  · unfold rewrite
    rw [ht']
  · intro q hq hqi
    obtain ⟨r, hr, rfl⟩ := (Table.mem_update ht').mp hq
    rw [hk] at hqi
    obtain rfl := Table.eq_of_clash hr hrow (clash_of_id hqi)
    simp

theorem update_spared (hT : codec.input tenantID = some T)
    (h : Spares conn T (hasID row.id) t) (hrow : row ∈ t) (ho : row.tenantID = T)
    {r : PermissionRequest} {a : Option UUID} (hstate : r.state ≠ .pending)
    (hm : (permissionRequests codec).meets (decisionParams r a row) = .ok ()) :
    ∃ t', (permissionRequests codec).update (conn.tx tenantID).settings (conn.tx tenantID).plan
    (hasID row.id) (decisionParams r a) t = .ok t' ∧
    ∀ q ∈ t', q.id = row.id → q = decisionParams r a row := by
  have hf : ∀ q ∈ t.rows, (conn.plan t.rows (hasID row.id) q || hasID row.id q) = true →
      Sql.also ((permissionRequests codec).policies.select (conn.tx tenantID).settings q)
        ((permissionRequests codec).policies.updateUsing (conn.tx tenantID).settings q) =
          .ok (some (decide (q.tenantID = T))) := by
    intro q hq hf
    have hp := h.policy hT hq hf
    show Sql.also (rawOwnOrPlatform codec q.tenantID (conn.tx tenantID).settings)
      (rawOwnOrPlatform codec q.tenantID (conn.tx tenantID).settings) = _
    rw [hp]
    rcases decide (q.tenantID = T) <;> rfl
  have hn : ∀ q : Row, q.tenantID = T →
      (permissionRequests codec).checkNew (conn.tx tenantID).settings (decisionParams r a q) =
          (permissionRequests codec).meets (decisionParams r a q) := by
    intro q hq
    have hp : rawOwnOrPlatform codec q.tenantID (conn.tx tenantID).settings = .ok (some true) := by
      rw [rawOwnOrPlatform_bound hT, if_pos hq]
    show (do
      withCheck (rawOwnOrPlatform codec q.tenantID (conn.tx tenantID).settings)
      withCheck (rawOwnOrPlatform codec q.tenantID (conn.tx tenantID).settings)
      (permissionRequests codec).meets (decisionParams r a q)) = _
    rw [hp]
    rfl
  obtain ⟨t', hr, hd⟩ := rewrite_decided hrow (decisionParams r a) (fun _ => rfl) (fun _ => hstate)
  refine ⟨t', ?_, hd⟩
  have hu := update_of_fed hf hn
  have hh : (t.rows.filter fun q => decide (q.tenantID = T) && hasID row.id q) = [row] :=
    ownRows_hasID hrow ho
  rw [hh] at hu
  rw [show (conn.tx tenantID).plan = conn.plan from rfl, hu]
  show ((permissionRequests codec).meets (decisionParams r a row) >>= fun _ => pure ()) >>=
    (fun _ => (permissionRequests codec).rewrite (decisionParams r a) [row] t) = _
  rw [hm]
  exact hr

theorem meets_iff : (permissionRequests codec).meets row = .ok () ↔
    (row.decisionReason.all fun text => text.toList.length ≤ 1024) = true ∧
    (1 ≤ row.durationDays ∧ row.durationDays ≤ 90) ∧
    (row.approverMembershipID.all fun a => a ≠ row.requesterMembershipID) = true ∧
    10 ≤ row.reason.toList.length ∧ row.reason.toList.length ≤ 1024 := by
  rw [meets_eq_ok]
  simp [permissionRequests, Sql.check_eq_ok]

end Policies

section

variable {codec : UuidCodec} {s : Store codec}

def Catalogued (s : Store codec) : Prop :=
  ∀ row ∈ s.requests, ∃ p, Permission.tryFromConstant row.permissionConstant = .ok p

theorem keeps_drain {I : Store codec → Prop} (r : PermissionRequest) :
    Effect.Keeps I (drainPermissionRequestEvents r) := by
  unfold drainPermissionRequestEvents
  split
  · exact keeps_pure ()
  · exact keeps_ofExcept _

theorem Catalogued.hydrates (h : Catalogued s) {row : Row} (hrow : row ∈ s.requests) :
    ∃ r, rowToPermissionRequest codec row = .ok r := by
  obtain ⟨p, hp⟩ := h row hrow
  unfold rowToPermissionRequest
  rw [hp]
  exact ⟨_, rfl⟩

end

section Foreign

variable {codec : UuidCodec} {tenantID : String} {T : UUID} {conn : Conn} {cond : Row → Bool}
  {s : Store codec}

def OwnPage (T : UUID) (cond : Row → Bool) (pageSize : PageSize) (s : Store codec)
    (page : Page PermissionRequest) : Prop :=
  ∃ items, (((ownRows T cond s.requests).mergeSort listedBefore).take (pageSize.1 + 1)).mapM
      (rowToPermissionRequest codec) = .ok items ∧ page = buildPage items pageSize cursorOf

structure Indistinct (conn : Conn) (tenantID : String) (T : UUID) (s : Store codec) : Prop where
  get : ∀ id i, codec.parse id = some i → (∀ r ∈ s.requests, r.id = i → r.tenantID ≠ T) →
    (getByID conn tenantID id).run s = (.error ⟨errNotFound, ""⟩, s)
  update : ∀ id i updateFn, codec.parse id = some i →
    (∀ r ∈ s.requests, r.id = i → r.tenantID ≠ T) →
      (updateByID conn tenantID id updateFn).run s = (.error ⟨errNotFound, ""⟩, s)
  pending : ∀ m mid, codec.parse m = some mid → ∃ items,
    ((ownRows T (pendingOf mid) s.requests).mergeSort newestFirst).mapM
      (rowToPermissionRequest codec) = .ok items ∧
    (getPendingForMembership conn tenantID m).run s = (.ok items, s)
  approvable : ∀ approver aid pageSize cursor, codec.parse approver = some aid → ∃ page,
    OwnPage T (approvableBy aid (cursorOrPermReqSentinel codec cursor)) pageSize s page ∧
    (listPendingApprovableBy conn tenantID approver pageSize cursor).run s = (.ok page, s)
  requested : ∀ requester rid pageSize cursor, codec.parse requester = some rid → ∃ page,
    OwnPage T (requestedBy rid (cursorOrPermReqSentinel codec cursor)) pageSize s page ∧
    (listByRequester conn tenantID requester pageSize cursor).run s = (.ok page, s)

theorem mem_of_ownRows {t : (permissionRequests codec).Rows} {r : Row} (h : r ∈ ownRows T cond t) :
    r ∈ t := (List.mem_filter.mp h).1

theorem listPage_spared (hT : codec.input tenantID = some T) (hk : Catalogued s)
    (h : Spares conn T cond s.requests) (text : String) (p : PageSize) :
    ∃ page, OwnPage T cond p s page ∧
    (listPage conn tenantID text cond p).run s = (.ok page, s) := by
  obtain ⟨items, hitems⟩ := except_mapM_ok (f := rowToPermissionRequest codec)
    (l := ((ownRows T cond s.requests).mergeSort listedBefore).take (p.1 + 1))
    fun row hrow => hk.hydrates (mem_of_ownRows (mem_mergeSort.mp (mem_of_mem_take hrow)))
  refine ⟨_, ⟨items, hitems, rfl⟩, ?_⟩
  unfold listPage
  rw [Pg.withinTx_eq (ne_empty hT)]
  refine (bind_ok (atomic_eq_ok.mpr ?_)).trans (bind_ok (ofExcept_eq_ok.mpr ⟨hitems, rfl⟩))
  exact bind_ok (fetch_spared hT h text)

theorem indistinct_of_spares (hT : codec.input tenantID = some T) (hk : Catalogued s)
    (h : ∀ cond, Spares conn T cond s.requests) : Indistinct conn tenantID T s where
  get id i hid hf := by
    unfold getByID
    rw [Pg.withinTx_eq (ne_empty hT)]
    exact atomic_error (load_notFound hT hid (h _) hf)
  update id i updateFn hid hf := by
    unfold updateByID
    rw [Pg.withinTx_eq (ne_empty hT)]
    exact atomic_error (bind_error (load_notFound hT hid (h _) hf))
  pending m mid hm := by
    obtain ⟨items, hitems⟩ := except_mapM_ok (f := rowToPermissionRequest codec)
      (l := (ownRows T (pendingOf mid) s.requests).mergeSort newestFirst)
      fun row hrow => hk.hydrates (mem_of_ownRows (mem_mergeSort.mp hrow))
    refine ⟨items, hitems, (bind_ok (parseID_run hm s)).trans ?_⟩
    rw [Pg.withinTx_eq (ne_empty hT)]
    refine atomic_eq_ok.mpr ((bind_ok (fetch_spared hT (h _) _)).trans ?_)
    exact ofExcept_eq_ok.mpr ⟨hitems, rfl⟩
  approvable approver aid pageSize cursor ha := by
    obtain ⟨page, hp, hru⟩ := listPage_spared hT hk (h _) _ pageSize
    exact ⟨page, hp, (bind_ok (parseID_run ha s)).trans hru⟩
  requested requester rid pageSize cursor hr := by
    obtain ⟨page, hp, hru⟩ := listPage_spared hT hk (h _) _ pageSize
    exact ⟨page, hp, (bind_ok (parseID_run hr s)).trans hru⟩

theorem getByID_fed (hT : codec.input tenantID = some T) {id : String} {row : Row}
    (hid : codec.parse id = some row.id)
    (hs : Settings.residue conn.history Pg.gucIsPlatform ≠ none) (hrow : row ∈ s.requests)
    (hf : row.tenantID ≠ T) : (getByID conn tenantID id).run s =
    (.error (Pg.wrapped "permreq repo: get by id: " ⟨.invalidTextRepresentation, ""⟩), s) := by
  have hfe : ¬ Spares conn T (hasID row.id) s.requests := by
    rintro (hu | ho)
    · exact hs hu
    · exact hf (ho row hrow (by simp [hasID]))
  unfold getByID
  rw [Pg.withinTx_eq (ne_empty hT)]
  exact atomic_error (load_fed hT hid hfe)

theorem indistinct_iff (hcodec : codec.Lawful) (hT : codec.input tenantID = some T)
    (hknown : Catalogued s) (conn : Conn) : Indistinct conn tenantID T s ↔
    (∀ made ∈ conn.history, ∀ p ∈ made, p.1 ≠ Pg.gucIsPlatform) ∨
    ∀ row ∈ s.requests, row.tenantID = T := by
  rw [← residue_eq_none]
  constructor
  · intro h
    by_contra hb
    push Not at hb
    obtain ⟨hs, row, hrow, hf⟩ := hb
    have hfe := getByID_fed hT (hcodec.parse_string row.id) hs hrow hf
    have hm := h.get _ _ (hcodec.parse_string row.id) fun r hr hid =>
      Table.eq_of_clash hr hrow (clash_of_id hid) ▸ hf
    rw [hfe] at hm
    exact absurd (Prod.mk.inj hm).1 (by simp [Pg.wrapped, Err.foreign, errNotFound])
  · intro h
    exact indistinct_of_spares hT hknown fun cond => h.imp_right fun ho r hr _ => ho r hr

end Foreign

def sampleRow (id tenantID : UUID) : Row where
  id := id
  tenantID := tenantID
  requesterMembershipID := 5
  permissionConstant := "crm.leads.read"
  durationDays := 7
  reason := "quarterly review"
  state := .pending
  createdAt := 10
  updatedAt := 10

def sampleStore : Store unaryCodec where
  identity := ⟨.empty, .empty, .empty, .empty, .empty⟩
  requests := { rows := [sampleRow 3 2], unique := List.pairwise_singleton _ _ }

def servedPlatform : Conn := ⟨[[(Pg.gucIsPlatform, "true")]], fun _ _ _ => false⟩

theorem sampleStore_catalogued : Catalogued sampleStore := by
  intro row hrow
  obtain rfl := mem_singleton.mp hrow
  exact ⟨⟨31, "crm.leads.read"⟩, rfl⟩

theorem indistinct_on_new_connection : sampleRow 3 2 ∈ sampleStore.requests ∧
    Indistinct ⟨[], fun _ _ _ => true⟩ (unaryCodec.string 1) 1 sampleStore :=
  ⟨mem_singleton_self _,
    (indistinct_iff unaryCodec_lawful (unaryCodec_lawful.input_string 1) sampleStore_catalogued
      ⟨[], fun _ _ _ => true⟩).mpr (.inl fun _ h => absurd h not_mem_nil)⟩

theorem foreign_request_told_from_missing : sampleRow 3 2 ∈ sampleStore.requests ∧
    (getByID servedPlatform (unaryCodec.string 1) (unaryCodec.string 3)).run sampleStore =
    (.error (.foreign "permreq repo: get by id: 22P02 "), sampleStore) ∧
    (getByID servedPlatform (unaryCodec.string 1) (unaryCodec.string 4)).run sampleStore =
    (.error ⟨errNotFound, ""⟩, sampleStore) := by
  have hrow : sampleRow 3 2 ∈ sampleStore.requests := mem_singleton_self _
  have hT := unaryCodec_lawful.input_string 1
  have hs : residue servedPlatform.history Pg.gucIsPlatform ≠ none := by decide
  refine ⟨hrow, ?_, ?_⟩
  · exact getByID_fed hT (unaryCodec_lawful.parse_string 3) hs hrow (by decide)
  · unfold getByID
    rw [Pg.withinTx_eq (ne_empty hT)]
    refine atomic_error (load_notFound hT (unaryCodec_lawful.parse_string 4) (.inr ?_) ?_)
    · rintro r hr hf
      obtain rfl := mem_singleton.mp hr
      cases hf
    · rintro r hr hid
      obtain rfl := mem_singleton.mp hr
      cases hid

end Leadkart.PermissionRequest
