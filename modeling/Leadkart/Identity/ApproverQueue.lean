import Leadkart.Identity.PermissionDecision
import Leadkart.Identity.ReportingLine

/-!
# The queue of an approver
-/

namespace Leadkart.PermissionRequest

open Effect Machine

def defaultDurationDays : Int := 7

def errPermissionRequestPendingExists : Sentinel :=
  ⟨.unknown, "", "permission_request: pending request already exists for this permission"⟩

structure RequestPermissionElevationCommand where
  (tenantID requesterMembershipID : String)
  permission : Option Permission
  durationDays : Int
  reason : String

structure RequestDraws where
  txConn : Conn
  requestID : String
  now : Time

section

variable {codec : UuidCodec}

def draft (d : RequestDraws) (cmd : RequestPermissionElevationCommand) :
    Repo codec (PermissionRequest × Membership) :=
  if cmd.tenantID = "" then fail (.foreign "request_permission_elevation: tenant id required")
  else if cmd.requesterMembershipID = "" then
    fail (.foreign "request_permission_elevation: requester membership id required")
  else if cmd.permission = none then
    fail (.foreign "request_permission_elevation: permission required")
  else do
    let duration := if cmd.durationDays = 0 then defaultDurationDays else cmd.durationDays
    let requester ← mapError
      (onIdentity (MembershipRepository.getByID cmd.tenantID cmd.requesterMembershipID)) fun e =>
        if e.is Membership.errNotFound then ⟨ReportingLine.errUserNotFound, ""⟩
        else e.wrap "request_permission_elevation: load requester: "
    let req ← ofExcept
      (new d.requestID requester.tenantID requester.id cmd.permission duration cmd.reason d.now)
    return (req, requester)

def submit (d : RequestDraws) (req : PermissionRequest) : Repo codec Unit :=
  mapError (add d.txConn req) fun e =>
    if e.is errPendingRequestExists then ⟨errPermissionRequestPendingExists, ""⟩
    else e.wrap "request_permission_elevation: persist: "

end

inductive Action where
  | request (d : RequestDraws) (cmd : RequestPermissionElevationCommand)
  | decide (e : Decision)
  | other (change : Leadkart.Store → Option Leadkart.Store)

section

variable (codec : UuidCodec)

def referTo (i : Leadkart.Store) (t : (permissionRequests codec).Rows) :
    Option (permissionRequests codec).Rows :=
  let kept := t.delete fun r =>
    !(hasTenant codec i r.tenantID && hasMembership codec i r.requesterMembershipID)
  kept.update (fun r => !r.approverMembershipID.all (hasMembership codec i))
    fun r => { r with approverMembershipID := none }

def changeOther (change : Leadkart.Store → Option Leadkart.Store) : Repo codec Unit :=
  write fun s =>
    match (change s.identity).bind fun i =>
      (referTo codec i s.requests).map fun t => (⟨i, t⟩ : Store codec) with
    | some s' => .ok s'
    | none => .error (.foreign "")

def Action.txn : Action → Rmw.Txn (Store codec) (Repo codec Unit)
  | request d cmd =>
    Rmw.updateTxn (fun s => (look (draft d cmd) s).toOption) (fun w => some (submit d w.1)) commits
  | decide e =>
    { reads := (e.txn codec).reads
      attempt := fun seen => ((e.txn codec).attempt seen).map fun w => e.record w.1 w.2
      write := commits }
  | other change => ⟨0, fun _ => some (changeOther codec change), commits⟩

end

section Queue

variable {codec : UuidCodec}

def queue (conn : Conn) (tenantID approver : String) (pageSize : PageSize) (s : Store codec) :
    Nat → Cursor → List PermissionRequest
  | 0, _ => []
  | n + 1, cursor =>
    match look (listPendingApprovableBy conn tenantID approver pageSize cursor) s with
    | .error _ => []
    | .ok page =>
      match page.nextCursor with
      | none => page.items
      | some next => page.items ++ queue conn tenantID approver pageSize s n next

def ReportsTo (s : Store codec) (row : Row) (manager : String) : Prop :=
  ∃ st ∈ s.identity.memberships, st.row.id = codec.string row.requesterMembershipID ∧
    st.row.reportsTo = some manager

def Visible (conn : Conn) (pageSize : PageSize) (s : Store codec) (row : Row) (manager : String) :
    Prop :=
  ∃ n, ∃ r ∈ queue conn (codec.string row.tenantID) manager pageSize s n {},
    r.id = codec.string row.id

end Queue

section Undecided

variable {codec : UuidCodec} {s s' : Store codec}

def Undecided (s : Store codec) : Prop :=
  ∀ row ∈ s.requests, row.state = .pending → row.approverMembershipID = none

theorem keeps_submit (d : RequestDraws) (req : PermissionRequest) :
    Keeps Undecided (submit d req : Repo codec Unit) := by
  refine Keeps.mapError (Pg.keeps_withinTxPgxTenant
    (Keeps.bind (keeps_write ?_) fun _ => keeps_drain req)) _
  intro s s' hs hw
  simp only [except_bind_eq_ok] at hw
  obtain ⟨rid, -, tid, -, mid, -, hw⟩ := hw
  obtain ⟨t, hi, hw⟩ := except_bind_ok (except_mapError_ok hw)
  simp only [except_bind_eq_ok] at hw
  obtain ⟨_, -, _, -, hw⟩ := hw
  cases hw
  intro row hrow hp
  rcases (Table.mem_insert (SqlRelation.insert_eq_ok hi)).mp hrow with hold | rfl
  · exact hs row hold hp
  · rfl

theorem keeps_record {tx : Tx} {r : PermissionRequest} (hr : r.state ≠ .pending) :
    Keeps Undecided (recordOnTx tx r : Repo codec Unit) := by
  refine Keeps.bind (keeps_write ?_) fun _ => keeps_drain r
  intro s s' hs hw
  simp only [except_bind_eq_ok] at hw
  obtain ⟨rid, -, approver, -, hw⟩ := hw
  obtain ⟨t, hu, hw⟩ := except_bind_ok (except_mapError_ok hw)
  obtain ⟨_, -, hw⟩ := except_bind_ok hw
  cases hw
  obtain ⟨hit, hre⟩ := SqlRelation.update_eq_ok hu
  intro row hrow hp
  obtain ⟨old, hold, rfl⟩ := (Table.mem_update hre).mp hrow
  split at hp
  · exact absurd hp hr
  · rename_i hm
    rw [if_neg hm]
    exact hs old hold hp

theorem keeps_onIdentity {α : Type} (x : Leadkart.Repo α) :
    Keeps Undecided (onIdentity x : Repo codec α) :=
  fun _ hs => hs

theorem Decision.keeps_record {e : Decision} {req r : PermissionRequest}
    (hr : r.state = e.outcome) : Keeps Undecided (e.record req r : Repo codec Unit) := by
  have hd : r.state ≠ .pending := hr ▸ outcome_ne_pending e
  cases e with
  | approve d cmd =>
    exact Keeps.bind (PermissionRequest.keeps_record hd) fun _ => keeps_onIdentity _
  | deny d cmd | cancel d cmd => exact PermissionRequest.keeps_record hd

theorem keeps_changeOther (change : Leadkart.Store → Option Leadkart.Store) :
    Keeps Undecided (changeOther codec change) := by
  refine keeps_write ?_
  intro s s' hs hw
  split at hw
  case h_2 => cases hw
  case h_1 next hc =>
    cases hw
    obtain ⟨i, -, hma⟩ := Option.bind_eq_some_iff.mp hc
    obtain ⟨t, hr, rfl⟩ := Option.map_eq_some_iff.mp hma
    intro row hrow hp
    obtain ⟨old, hold, rfl⟩ := (Table.mem_update hr).mp hrow
    split at hp
    · rename_i hh
      rw [if_pos hh]
    · rename_i hm
      rw [if_neg hm]
      exact hs old (Table.mem_delete.mp hold).1 hp

theorem Action.commit_undecided {a : Action} {seen : List (Store codec)} {w : Repo codec Unit}
    (ha : (a.txn codec).attempt seen = some w) (hw : (a.txn codec).write w s = some s')
    (hs : Undecided s) : Undecided s' := by
  have hk : Keeps Undecided w := by
    cases a with
    | request d cmd =>
      obtain ⟨s₀, loaded, rfl, -, hc⟩ := Rmw.updateTxn_attempt ha
      cases hc
      exact keeps_submit d loaded.1
    | decide e =>
      obtain ⟨⟨req, r⟩, hse, rfl⟩ := Option.map_eq_some_iff.mp ha
      obtain ⟨s₁, -, s₂, s₃, -, hse⟩ := Decision.attempt_seen hse
      obtain ⟨-, -, hd⟩ := Decision.attempt_eq_some.mp hse
      obtain ⟨loaded, -, hop⟩ := Decision.decided_eq_ok hd
      exact Decision.keeps_record (Decision.op_eq_ok hop).2
    | other change =>
      cases ha
      exact keeps_changeOther change
  have hco : w.commits s = some s' := by
    cases a with
    | request => exact hw
    | decide => exact hw
    | other => exact hw
  obtain ⟨_, hr⟩ := commits_eq_some.mp hco
  have hke := hk s hs
  rwa [hr] at hke

theorem run_undecided {ι : Type} [DecidableEq ι] (act : ι → Action) (h0 : s.requests.rows = [])
    {ls : List (Rmw.Label ι)} {st : Rmw.State ι (Store codec) (Repo codec Unit)}
    (hr : run (Rmw.step fun i => (act i).txn codec) (Rmw.init ι _ s) ls = some st) :
    Undecided st.store := by
  have hst : Undecided s := by
    intro row hrow
    rw [← Table.mem_rows, h0] at hrow
    cases hrow
  exact Rmw.run_store_keeps hst (fun s i seen w s' hs ha hw => (act i).commit_undecided ha hw hs) hr

theorem page_empty (hs : Undecided s) {conn : Conn} {tenantID a : String}
    {p : PageSize} {c : Cursor} {page : Page PermissionRequest}
    (h : look (listPendingApprovableBy conn tenantID a p c) s = .ok page) :
    page = ⟨[], false, none⟩ := by
  have hru : (listPendingApprovableBy conn tenantID a p c).run s =
      (.ok page, (listPendingApprovableBy conn tenantID a p c).run s |>.2) := Prod.ext h rfl
  obtain ⟨aid, s₁, hp, hru⟩ := bind_eq_ok.mp hru
  obtain ⟨-, rfl⟩ := ofExcept_eq_ok.mp hp
  obtain ⟨rows, s₁, hr, hru⟩ := bind_eq_ok.mp hru
  obtain ⟨fetched, s₂, hf, hr⟩ := bind_eq_ok.mp (Pg.withinTx_eq_ok hr)
  obtain ⟨hse, rfl⟩ := query_eq_ok.mp hf
  have hnone : fetched = [] := by
    refine List.eq_nil_iff_forall_not_mem.mpr fun row hrow => ?_
    obtain ⟨hm, hc, -⟩ := (SqlRelation.mem_scan (except_mapError_ok hse)).mp hrow
    -- The query asks for an approver where the pending rows have none.
    simp only [approvableBy, Bool.and_eq_true, decide_eq_true_eq] at hc
    rw [hs row hm hc.1.2] at hc
    exact nomatch hc.1.1
  subst hnone
  obtain ⟨rfl, rfl⟩ := pure_eq_ok.mp hr
  obtain ⟨items, s₃, hma, hru⟩ := bind_eq_ok.mp hru
  have hitems := (ofExcept_eq_ok.mp hma).1
  rw [List.mergeSort_nil, List.take_nil] at hitems
  cases hitems
  obtain ⟨rfl, -⟩ := pure_eq_ok.mp hru
  rfl

theorem queue_eq_nil (hs : Undecided s) (conn : Conn) (tenantID a : String)
    (p : PageSize) (n : Nat) (c : Cursor) : queue conn tenantID a p s n c = [] := by
  cases n with
  | zero => rfl
  | succ n =>
    unfold queue
    split
    · rfl
    rename_i page hp
    rw [page_empty hs hp]

theorem pending_visible_iff {ι : Type} [DecidableEq ι] (act : ι → Action) {s : Store codec}
    (h0 : s.requests.rows = []) {ls : List (Rmw.Label ι)}
    {st : Rmw.State ι (Store codec) (Repo codec Unit)}
    (hr : run (Rmw.step fun i => (act i).txn codec) (Rmw.init ι _ s) ls = some st)
    (conn : Conn) (pageSize : PageSize) :
    (∀ row ∈ st.store.requests, row.state = .pending → ∀ manager,
    ReportsTo st.store row manager → Visible conn pageSize st.store row manager) ↔
    ∀ row ∈ st.store.requests, row.state = .pending → ∀ manager,
    ¬ ReportsTo st.store row manager := by
  have hu := run_undecided act h0 hr
  constructor
  · intro hv row hrow hp manager hre
    obtain ⟨n, r, hr, -⟩ := hv row hrow hp manager hre
    rw [queue_eq_nil hu] at hr
    cases hr
  · intro hnone row hrow hp manager hre
    exact absurd hre (hnone row hrow hp manager)

end Undecided

def askForLeads : Bool → Action := fun _ =>
  .request ⟨⟨[], fun _ _ _ => false⟩, unaryCodec.string 3, 10⟩
    { tenantID := unaryCodec.string 2, requesterMembershipID := unaryCodec.string 5
      permission := some ⟨31, "crm.leads.read"⟩, durationDays := 0, reason := "quarterly review" }

def staffStore (manager : Option String) : Store unaryCodec where
  identity :=
    { persons := .empty, roles := .empty, families := .empty
      tenants :=
        { rows := [{ id := unaryCodec.string 2, slug := "acme", legalName := "Acme"
                     displayName := "Acme", status := .active, createdAt := 1 }]
          unique := List.pairwise_singleton _ _ }
      memberships := (approvalStore manager 2).identity.memberships }
  requests := .empty

def submission : List (Rmw.Label Bool) := [.read false, .write false, .commit false]

theorem request_without_manager : ∃ st, run (Rmw.step fun i => (askForLeads i).txn unaryCodec)
    (Rmw.init Bool _ (staffStore none)) submission = some st ∧
    (∃ row ∈ st.store.requests, row.state = .pending) ∧
    ∀ row ∈ st.store.requests, row.state = .pending → ∀ manager, ReportsTo st.store row manager →
    Visible ⟨[], fun _ _ _ => false⟩ ⟨50, by decide⟩ st.store row manager := by
  refine exists_some (P := fun st => st.store.requests.rows = [sampleRow 3 2] ∧
    ∀ m ∈ st.store.identity.memberships.rows, m.row.reportsTo = none)
    (by decide +kernel) fun st hr ⟨hro, hnone⟩ => ⟨⟨sampleRow 3 2, ?_, rfl⟩,
      (pending_visible_iff askForLeads rfl hr _ _).mpr ?_⟩
  · rw [← Table.mem_rows, hro]
    exact List.mem_singleton_self _
  · rintro row - - manager ⟨m, hm, -, hre⟩
    rw [hnone m hm] at hre
    cases hre

theorem request_missing_from_queue : ∃ st, run (Rmw.step fun i => (askForLeads i).txn unaryCodec)
    (Rmw.init Bool _ (staffStore (some (unaryCodec.string 6)))) submission = some st ∧
    ∃ row ∈ st.store.requests, row.state = .pending ∧ ReportsTo st.store row (unaryCodec.string 6) ∧
    ∀ conn pageSize, ¬ Visible conn pageSize st.store row (unaryCodec.string 6) := by
  refine exists_some (P := fun st => st.store.requests.rows = [sampleRow 3 2] ∧
    ∃ m ∈ st.store.identity.memberships.rows, m.row.id = unaryCodec.string 5 ∧
      m.row.reportsTo = some (unaryCodec.string 6)) (by decide +kernel)
    fun st hr ⟨hro, m, hm, hid, hre⟩ =>
      ⟨sampleRow 3 2, ?_, rfl, ⟨m, hm, hid, hre⟩, ?_⟩
  · rw [← Table.mem_rows, hro]
    exact List.mem_singleton_self _
  · rintro conn pageSize ⟨n, r, hme, -⟩
    rw [queue_eq_nil (run_undecided askForLeads rfl hr)] at hme
    cases hme

end Leadkart.PermissionRequest
