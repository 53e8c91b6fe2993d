import Leadkart.Api.ScopedReads
import Leadkart.Tasks.WorkItemStatements
import Leadkart.Logic.Keyset
import Mathlib.Data.Prod.Lex

/-!
# The read endpoints of work items
-/

namespace Leadkart.WorkItem

open List Option Table Effect UuidCodec Api

def listPolicy : ListPolicy where
  read := "tasks.work_items.read"
  readAll := "tasks.work_items.read_all"
  invalidFilter := "invalid_state"

section

variable (p : Parsers)

def instant (params : Params) (name : String) : Except Err (Option Time) :=
  params.optional name fun raw =>
    match p.rfc3339 raw with
    | none => .error (.foreign (name ++ " must be RFC3339"))
    | some t => .ok t

def parseListFilter (params : Params) : Except Err ListFilter := do
  let state ← params.optional "state" parseState
  let itype ← params.optional "type" parseType
  let priority ← params.optional "priority" parsePriority
  let assignee ← params.idText p.uuid "assignee"
  let batchID ← params.idText p.uuid "batch_id"
  let dueBefore ← instant p params "due_before"
  let dueAfter ← instant p params "due_after"
  return {
    state := (state.map State.string).getD ""
    itype := (itype.map ItemType.string).getD ""
    priority := (priority.map Priority.string).getD ""
    assignedTo := assignee
    batchID
    dueBefore := dueBefore.getD 0
    dueAfter := dueAfter.getD 0 }

def listWorkItemsQuery (c : Claims) (params : Params) : Except Failure (ListQuery ListFilter) :=
  listQuery p listPolicy (parseListFilter p) ListFilter.assignedTo c params

def mergedFilter (q : ListQuery ListFilter) : ListFilter :=
  if q.selfFilter = "" then q.filter else { q.filter with selfFilter := q.selfFilter }

def listWorkItems (conn : Conn) (q : ListQuery ListFilter) : Repo p.uuid (Page WorkItem) :=
  if q.tenantID = "" then Effect.fail (.foreign "tasks list: tenant id required")
  else
    (listPage conn q.tenantID (mergedFilter q) q.cursor (clampPageSize q.pageSize)).mapError
      (Err.wrap "tasks list: ")

def handleListWorkItems (conn : Conn) (c : Claims) (params : Params) :
    Effect (Store p.uuid) Failure (Page WorkItem) := do
  let q ← ofExcept (listWorkItemsQuery p c params)
  (listWorkItems p conn q).mapError fun _ => queryFailed

def getWorkItemQuery (c : Claims) (raw : String) : Except Failure String :=
  getQuery p "tasks.work_items.read" "invalid_work_item_id" "workItemId must be a UUID" c raw

def errQueryWorkItemNotFound : Sentinel := ⟨.unknown, "", "tasks query: work item not found"⟩

def getWorkItemError (e : Err) : Err :=
  if e.is errNotFound then ⟨errQueryWorkItemNotFound, ""⟩ else e.wrap "tasks get_work_item: "

def getWorkItem (conn : Conn) (tenantID id : String) : Repo p.uuid WorkItem :=
  if tenantID = "" then Effect.fail (.foreign "tasks get_work_item: tenant id required")
  else if id = "" then Effect.fail (.foreign "tasks get_work_item: work item id required")
  else
    (getByID conn tenantID id).mapError getWorkItemError

def getWorkItemFailure (e : Err) : Failure :=
  if e.is errQueryWorkItemNotFound then ⟨404, "work_item_not_found", ""⟩ else queryFailed

def handleGetWorkItem (conn : Conn) (c : Claims) (raw : String) :
    Effect (Store p.uuid) Failure WorkItem := do
  let id ← ofExcept (getWorkItemQuery p c raw)
  (getWorkItem p conn c.tenantID id).mapError getWorkItemFailure

end

section

variable {codec : UuidCodec}

def listKey (r : Row) : Int ×ₗ Nat := toLex (r.dueAt, r.id.toNat)

theorem listedBefore_iff_key (a b : Row) : listedBefore a b = true ↔ listKey b ≤ listKey a := by
  unfold listKey
  rw [Prod.Lex.toLex_le_toLex, listedBefore_iff]
  exact or_congr_right (and_congr_left fun _ => eq_comm)

variable {T : UUID}

variable {filter : ListFilter} {cursor : Cursor}

theorem listPage_look {conn : Conn} {tenantID : String} {pa : Int} {s : Store codec}
    (hp : codec.parse tenantID = some T) (hi : codec.input tenantID = some T) :
    (listPage conn tenantID filter cursor pa).look s = pageOf codec (clampPageSize pa)
    (((s.workItems.rows.filter fun r => decide (r.tenantID = T) &&
    listed codec T filter cursor r).mergeSort listedBefore).take (clampPageSize pa + 1)) := by
  have hne : tenantID ≠ "" := ne_empty hi
  have hb : SqlRelation.Confines (workItems codec) Row.tenantID T (conn.tx tenantID).settings :=
    bound_tx hi conn
  unfold listPage parseID
  rw [parseOr_ok hp, look_ofExcept_bind]
  show look (Pg.withinTx conn tenantID _ >>= _) s = _
  rw [Pg.withinTx_eq hne, look_bind (Effect.ReadOnly.atomic fun _ => keeps_query _),
    look_atomic, look_query, SqlRelation.select_confined hb]
  rfl

theorem listed_self {u : UUID} {r : Row} (hs : pgUUIDOpt codec filter.selfFilter = some u)
    (h : listed codec T filter cursor r = true) : r.assignedTo = some u := by
  unfold listed at h
  rw [hs] at h
  simp only [Bool.and_eq_true, nullOr, all_some, decide_eq_true_iff] at h
  tauto

end

/-! ## What a caller sees -/

def view (p : Parsers) : View p Row WorkItem where
  hydrate := snapshotFromColumns p.uuid
  tenantOf := Row.tenantID
  owner := Row.assignedTo
  ownerText := WorkItem.assignedTo
  me c := pgUUIDOpt p.uuid c.membershipID
  ownerText_eq _ _ h := (snapshotFromColumns_eq_ok h).2.2.2.2

variable {p : Parsers} {conn conn' : Conn} {caller : Caller p.uuid} {params : Params}
  {s s' : Store p.uuid}

def shows (p : Parsers) (T : UUID) (q : ListQuery ListFilter) (r : Row) : Bool :=
  listed p.uuid T (mergedFilter q) q.cursor r

def ListScoped (p : Parsers) (caller : Caller p.uuid) (params : Params) (s : Store p.uuid) : Prop :=
  (view p).ListScoped caller (listWorkItemsQuery p caller.claims params) (shows p caller.tenant)
    s.workItems

theorem handleListWorkItems_look : (handleListWorkItems p conn caller.claims params).look s =
    pageResponse (view p).hydrate (fun w => ⟨w.dueAt, w.id⟩)
    (listWorkItemsQuery p caller.claims params) pageSizeFor
    ((view p).fetched (shows p caller.tenant) listedBefore caller.tenant s.workItems) := by
  unfold handleListWorkItems pageResponse
  rw [look_ofExcept_bind]
  cases hq : listWorkItemsQuery p caller.claims params with
  | error f => rfl
  | ok q =>
    obtain ⟨ht, -⟩ := listQuery_eq_ok hq
    have hne : q.tenantID ≠ "" := ht ▸ ne_empty caller.input_tenant
    show look (mapError (listWorkItems p conn q) _) s = _
    unfold listWorkItems
    rw [if_neg hne, look_mapError, look_mapError,
      listPage_look (ht ▸ caller.parse_tenant) (ht ▸ caller.input_tenant),
      except_mapError_mapError]
    rfl

theorem shows_self (hc : p.uuid.Lawful) (hr : Restricted listPolicy.readAll caller.claims)
    (q : ListQuery ListFilter) (hq : listWorkItemsQuery p caller.claims params = .ok q) (u : UUID)
    (hme : (view p).me caller.claims = some u) (r : Row) (h : shows p caller.tenant q r = true) :
    r.assignedTo = some u := by
  have hs : q.selfFilter = caller.claims.membershipID :=
    (listQuery_eq_ok hq).2.trans hr.selfFilterOf_eq
  have hne : q.selfFilter ≠ "" := by
    intro he
    change pgUUIDOpt p.uuid caller.claims.membershipID = some u at hme
    unfold pgUUIDOpt at hme
    rw [← hs, he, hc.parse_empty] at hme
    cases hme
  refine listed_self ?_ h
  unfold mergedFilter
  rw [if_neg hne]
  dsimp only
  rw [hs]
  exact hme

theorem handleListWorkItems_confined (hc : p.uuid.Lawful)
    (hre : Restricted listPolicy.readAll caller.claims)
    (hm : ∀ r ∈ s.workItems, (workItems p.uuid).meets r = .ok ()) :
    (∀ page, (handleListWorkItems p conn caller.claims params).look s = .ok page →
    ∀ w ∈ page.items, (view p).IsMine caller.claims w) ↔ ListScoped p caller params s := by
  rw [handleListWorkItems_look]
  exact View.pageResponse_confined (shows_self hc hre) hc fun r hr =>
    snapshotFromColumns_ok (hm r hr)

theorem handleListWorkItems_agree (hc : p.uuid.Lawful)
    (hre : Restricted listPolicy.readAll caller.claims)
    (ha : (view p).Agree caller s.workItems s'.workItems)
    (h : ListScoped p caller params s) (h' : ListScoped p caller params s') :
    (handleListWorkItems p conn caller.claims params).look s =
    (handleListWorkItems p conn' caller.claims params).look s' := by
  rw [handleListWorkItems_look, handleListWorkItems_look]
  refine View.pageResponse_agree (shows_self hc hre) listedBefore_iff_key (fun a b hT hk => ?_)
    ha h h'
  have hid : a.id = b.id := BitVec.eq_of_toNat_eq (congrArg (fun k => (ofLex k).2) hk)
  exact clash_iff.mpr (.inl (pkey_clash.mpr ⟨hT, hid⟩))

variable {raw : String}

def ofTenant (T id : UUID) (r : Row) : Bool := decide (r.tenantID = T) && liveID id r

def GetScoped (p : Parsers) (caller : Caller p.uuid) (raw : String) (s : Store p.uuid) : Prop :=
  (view p).GetScoped caller (getWorkItemQuery p caller.claims raw) (ofTenant caller.tenant)
    s.workItems

theorem handleGetWorkItem_look (hc : p.uuid.Lawful) :
    (handleGetWorkItem p conn caller.claims raw).look s =
    (view p).getResponse (fun e => getWorkItemFailure (getWorkItemError e))
    ⟨404, "work_item_not_found", ""⟩ (getWorkItemQuery p caller.claims raw) fun id =>
    s.workItems.find? (ofTenant caller.tenant id) := by
  unfold handleGetWorkItem
  rw [look_ofExcept_bind]
  cases hid : getWorkItemQuery p caller.claims raw with
  | error f => rfl
  | ok id =>
    obtain ⟨rfl, lid, hl⟩ := getQuery_eq_ok hid
    have hne : id ≠ "" := by
      rintro rfl
      exact nomatch hc.parse_empty.symm.trans hl
    have ht : caller.claims.tenantID ≠ "" := ne_empty caller.input_tenant
    rw [View.getResponse_ok hl]
    show look (mapError (getWorkItem p conn caller.claims.tenantID id) _) s = _
    unfold getWorkItem getByID
    rw [if_neg ht, if_neg hne, Pg.withinTx_eq ht, look_mapError, look_mapError, look_atomic,
      loadWorkItem_look (bound_tx caller.input_tenant conn) hl, except_mapError_mapError,
      show s.workItems.find? (ofTenant caller.tenant lid) = itemOf caller.tenant lid s from rfl]
    cases itemOf caller.tenant lid s <;> rfl

theorem handleGetWorkItem_confined (hc : p.uuid.Lawful)
    (hm : ∀ r ∈ s.workItems, (workItems p.uuid).meets r = .ok ()) :
    (∀ w, (handleGetWorkItem p conn caller.claims raw).look s = .ok w →
    (view p).IsMine caller.claims w) ↔ GetScoped p caller raw s := by
  rw [handleGetWorkItem_look hc]
  refine View.getResponse_confined hc (fun r hr => snapshotFromColumns_ok (hm r hr)) fun u r h => ?_
  exact of_decide_eq_true (Bool.and_eq_true_iff.mp h).1

theorem handleGetWorkItem_agree (hc : p.uuid.Lawful)
    (ha : (view p).Agree caller s.workItems s'.workItems) (h : GetScoped p caller raw s)
    (h' : GetScoped p caller raw s') : (handleGetWorkItem p conn caller.claims raw).look s =
    (handleGetWorkItem p conn' caller.claims raw).look s' := by
  rw [handleGetWorkItem_look hc, handleGetWorkItem_look hc]
  refine View.getResponse_agree (fun u a b hu hv => ?_) ha h h'
  obtain ⟨hT, hu⟩ := Bool.and_eq_true_iff.mp hu
  obtain ⟨hT', hv⟩ := Bool.and_eq_true_iff.mp hv
  exact liveID_clash (of_decide_eq_true hT) (of_decide_eq_true hT') hu hv

end Leadkart.WorkItem
