import Leadkart.Api.ScopedReads
import Leadkart.Crm.CrmLeadRepository
import Leadkart.Logic.Keyset
import Mathlib.Data.Prod.Lex

/-!
# The read endpoints of leads
-/

namespace Leadkart.CrmLead

open List Option Table Effect UuidCodec Api

def listPolicy : ListPolicy where
  read := "crm.leads.read"
  readAll := "crm.leads.read_all"
  invalidFilter := "invalid_stage"

def filterNonEmpty (l : List String) : List String := (l.map trimSpace).filter (· ≠ "")

section

variable (p : Parsers) (ilike : String → String → Bool)

def parseListFilter (params : Params) : Except Err ListFilter :=
  if params.text "pincode" ≠ "" ∧ pincodePattern.matchString (params.text "pincode") = false then
    .error (.foreign "pincode must be a 6-digit Indian PIN code")
  else do
    let stage ← params.optional "stage" parseStage
    let temperature ← params.optional "temperature" parseTemperature
    let assignee ← params.idText p.uuid "assignee"
    return {
      stage, temperature
      assigneeMembershipID := assignee
      city := params.text "city"
      pincode := params.text "pincode"
      businessType := params.text "business_type"
      medicineSystem := params.text "medicine_system"
      productRanges := filterNonEmpty (params "product_range")
      dosageForms := filterNonEmpty (params "dosage_form")
      nameQuery := params.text "name" }

def listLeadsQuery (c : Claims) (params : Params) : Except Failure (ListQuery ListFilter) :=
  listQuery p listPolicy (parseListFilter p) ListFilter.assigneeMembershipID c params

def mergedFilter (q : ListQuery ListFilter) : ListFilter :=
  if q.selfFilter = "" then q.filter else { q.filter with selfFilter := q.selfFilter }

def listLeads (conn : Conn) (q : ListQuery ListFilter) : Repo p.uuid (Page CrmLead) :=
  if q.tenantID = "" then Effect.fail (.foreign "crm list_leads: tenant id required")
  else
    (listPage ilike conn q.tenantID (mergedFilter q) q.cursor (clampPageSize q.pageSize)).mapError
      (Err.wrap "crm list_leads: ")

def handleListLeads (conn : Conn) (c : Claims) (params : Params) :
    Effect (Store p.uuid) Failure (Page CrmLead) := do
  let q ← ofExcept (listLeadsQuery p c params)
  (listLeads p ilike conn q).mapError fun _ => queryFailed

def getLeadQuery (c : Claims) (raw : String) : Except Failure String :=
  getQuery p "crm.leads.read" "invalid_lead_id" "leadId path parameter must be a UUID" c raw

def errQueryLeadNotFound : Sentinel := ⟨.unknown, "", "crm query: lead not found"⟩

def getLeadError (e : Err) : Err :=
  if e.is errNotFound then ⟨errQueryLeadNotFound, ""⟩ else e.wrap "crm get_lead: "

def getLead (conn : Conn) (tenantID id : String) : Repo p.uuid CrmLead :=
  if tenantID = "" then Effect.fail (.foreign "crm get_lead: tenant id required")
  else if id = "" then Effect.fail (.foreign "crm get_lead: lead id required")
  else
    (getByID conn tenantID id).mapError getLeadError

def getLeadFailure (e : Err) : Failure :=
  if e.is errQueryLeadNotFound then ⟨404, "lead_not_found", ""⟩ else queryFailed

def handleGetLead (conn : Conn) (c : Claims) (raw : String) :
    Effect (Store p.uuid) Failure CrmLead := do
  let id ← ofExcept (getLeadQuery p c raw)
  (getLead p conn c.tenantID id).mapError getLeadFailure

end

section

variable {codec : UuidCodec}

def listKey (r : Row) : Int ×ₗ Nat := toLex (r.createdAt, r.id.toNat)

theorem listedBefore_iff (a b : Row) : listedBefore a b = true ↔ listKey b ≤ listKey a := by
  unfold listKey listedBefore
  rw [Prod.Lex.toLex_le_toLex, Bool.or_eq_true, Bool.and_eq_true]
  simp only [decide_eq_true_iff, eq_comm (a := a.createdAt)]
  exact Iff.rfl

theorem nodup_listKey (l : (crmLeads codec).Rows) (cond : Row → Bool) :
    ((l.rows.filter cond).map listKey).Nodup := by
  refine pairwise_map.mpr ((l.unique.filter cond).imp fun hc heq => hc ?_)
  exact clash_iff.mpr (.inl (BitVec.eq_of_toNat_eq (congrArg (fun k => (ofLex k).2) heq)))

instance : Std.Refl (crmLeads codec).Clash := ⟨fun _ => clash_iff.mpr (.inl rfl)⟩

def listing (codec : UuidCodec) (ilike : String → String → Bool) (T : UUID) (filter : ListFilter)
    (cursor : Cursor) (s : Store codec) : List Row :=
  (s.leads.rows.filter fun r =>
    decide (r.tenantID = T) && listed codec ilike T filter cursor r).mergeSort listedBefore

variable {T : UUID} {filter : ListFilter} {cursor : Cursor}

theorem listPage_look {ilike : String → String → Bool} {conn : Conn} {tenantID : String}
    {pa : Int} {s : Store codec} (hp : codec.parse tenantID = some T)
    (hi : codec.input tenantID = some T) : (listPage ilike conn tenantID filter cursor pa).look s =
    pageOf codec (clampPageSize pa)
    ((listing codec ilike T filter cursor s).take (clampPageSize pa + 1)) := by
  have hne : tenantID ≠ "" := ne_empty hi
  have hb : SqlRelation.Confines (crmLeads codec) Row.tenantID T (conn.tx tenantID).settings :=
    bound_tx hi conn
  unfold listPage parseID
  rw [parseOr_ok hp, look_ofExcept_bind]
  show look (Pg.withinTx conn tenantID _ >>= _) s = _
  rw [Pg.withinTx_eq hne, look_bind (Effect.ReadOnly.atomic fun _ => keeps_query _),
    look_atomic, look_query, SqlRelation.select_confined hb]
  rfl

theorem mem_listing {ilike : String → String → Bool} {s : Store codec} {r : Row} :
    r ∈ listing codec ilike T filter cursor s ↔
    r ∈ s.leads ∧ r.tenantID = T ∧ listed codec ilike T filter cursor r = true := by
  unfold listing
  rw [List.mem_mergeSort, List.mem_filter, Bool.and_eq_true, decide_eq_true_iff]
  exact Iff.rfl

theorem listed_self {ilike : String → String → Bool} {u : UUID} {r : Row}
    (hs : codec.pgUUIDOptStr filter.selfFilter = some u)
    (h : listed codec ilike T filter cursor r = true) : r.assigneeMembershipID = some u := by
  unfold listed at h
  rw [hs] at h
  simp only [Bool.and_eq_true, all_some, decide_eq_true_iff] at h
  tauto

end

/-! ## What a caller sees -/

def view (p : Parsers) : View p Row CrmLead where
  hydrate := rowToLead p.uuid
  tenantOf := Row.tenantID
  owner := Row.assigneeMembershipID
  ownerText := CrmLead.assigneeMembershipID
  me c := p.uuid.pgUUIDOptStr c.membershipID
  ownerText_eq _ _ h := (rowToLead_eq_ok h).2.2.2.2

variable {p : Parsers} {ilike : String → String → Bool} {conn conn' : Conn}
  {caller : Caller p.uuid} {params : Params} {s s' : Store p.uuid}

def shows (p : Parsers) (ilike : String → String → Bool) (T : UUID) (q : ListQuery ListFilter)
    (r : Row) : Bool :=
  listed p.uuid ilike T (mergedFilter q) q.cursor r

def ListScoped (p : Parsers) (ilike : String → String → Bool) (caller : Caller p.uuid)
    (params : Params) (s : Store p.uuid) : Prop :=
  (view p).ListScoped caller (listLeadsQuery p caller.claims params) (shows p ilike caller.tenant)
    s.leads

theorem handleListLeads_look : (handleListLeads p ilike conn caller.claims params).look s =
    pageResponse (view p).hydrate (fun l => ⟨l.createdAt, l.id⟩)
    (listLeadsQuery p caller.claims params) pageSizeFor
    ((view p).fetched (shows p ilike caller.tenant) listedBefore caller.tenant s.leads) := by
  unfold handleListLeads pageResponse
  rw [look_ofExcept_bind]
  cases hq : listLeadsQuery p caller.claims params with
  | error f => rfl
  | ok q =>
    obtain ⟨ht, -⟩ := listQuery_eq_ok hq
    have hne : q.tenantID ≠ "" := ht ▸ ne_empty caller.input_tenant
    show look (mapError (listLeads p ilike conn q) _) s = _
    unfold listLeads
    rw [if_neg hne, look_mapError, look_mapError,
      listPage_look (ht ▸ caller.parse_tenant) (ht ▸ caller.input_tenant),
      except_mapError_mapError]
    rfl

theorem shows_self (hr : Restricted listPolicy.readAll caller.claims) (q : ListQuery ListFilter)
    (hq : listLeadsQuery p caller.claims params = .ok q) (u : UUID)
    (hme : (view p).me caller.claims = some u) (r : Row)
    (h : shows p ilike caller.tenant q r = true) : r.assigneeMembershipID = some u := by
  have hs : q.selfFilter = caller.claims.membershipID :=
    (listQuery_eq_ok hq).2.trans hr.selfFilterOf_eq
  have hne : q.selfFilter ≠ "" := by
    intro he
    change p.uuid.pgUUIDOptStr caller.claims.membershipID = some u at hme
    rw [← hs, he] at hme
    cases hme
  refine listed_self ?_ h
  unfold mergedFilter
  rw [if_neg hne]
  rw [hs]
  exact hme

theorem handleListLeads_confined (hc : p.uuid.Lawful)
    (hre : Restricted listPolicy.readAll caller.claims)
    (hm : ∀ r ∈ s.leads, (crmLeads p.uuid).meets r = .ok ()) :
    (∀ page, (handleListLeads p ilike conn caller.claims params).look s = .ok page →
    ∀ l ∈ page.items, (view p).IsMine caller.claims l) ↔ ListScoped p ilike caller params s := by
  rw [handleListLeads_look]
  exact View.pageResponse_confined (shows_self hre) hc fun r hr => rowToLead_ok (hm r hr)

theorem handleListLeads_agree (hre : Restricted listPolicy.readAll caller.claims)
    (ha : (view p).Agree caller s.leads s'.leads) (h : ListScoped p ilike caller params s)
    (h' : ListScoped p ilike caller params s') :
    (handleListLeads p ilike conn caller.claims params).look s =
    (handleListLeads p ilike conn' caller.claims params).look s' := by
  rw [handleListLeads_look, handleListLeads_look]
  refine View.pageResponse_agree (shows_self hre) listedBefore_iff (fun a b _ hk => ?_) ha h h'
  exact clash_iff.mpr (.inl (BitVec.eq_of_toNat_eq (congrArg (fun k => (ofLex k).2) hk)))

variable {raw : String}

def ofTenant (T id : UUID) (r : Row) : Bool := decide (r.tenantID = T) && hasID id r

def GetScoped (p : Parsers) (caller : Caller p.uuid) (raw : String) (s : Store p.uuid) : Prop :=
  (view p).GetScoped caller (getLeadQuery p caller.claims raw) (ofTenant caller.tenant) s.leads

theorem handleGetLead_look (hc : p.uuid.Lawful) : (handleGetLead p conn caller.claims raw).look s =
    (view p).getResponse (fun e => getLeadFailure (getLeadError e)) ⟨404, "lead_not_found", ""⟩
    (getLeadQuery p caller.claims raw) fun id => s.leads.find? (ofTenant caller.tenant id) := by
  unfold handleGetLead
  rw [look_ofExcept_bind]
  cases hid : getLeadQuery p caller.claims raw with
  | error f => rfl
  | ok id =>
    obtain ⟨rfl, lid, hl⟩ := getQuery_eq_ok hid
    have hne : id ≠ "" := by
      rintro rfl
      exact nomatch hc.parse_empty.symm.trans hl
    have ht : caller.claims.tenantID ≠ "" := ne_empty caller.input_tenant
    rw [View.getResponse_ok hl]
    show look (mapError (getLead p conn caller.claims.tenantID id) _) s = _
    unfold getLead getByID
    rw [if_neg ht, if_neg hne, Pg.withinTx_eq ht, look_mapError, look_mapError, look_atomic,
      look_query, loadLead_eq (bound_tx caller.input_tenant conn) hl, except_mapError_mapError,
      show s.leads.find? (ofTenant caller.tenant lid) = leadOf caller.tenant lid s from rfl]
    cases leadOf caller.tenant lid s <;> rfl

theorem handleGetLead_confined (hc : p.uuid.Lawful)
    (hm : ∀ r ∈ s.leads, (crmLeads p.uuid).meets r = .ok ()) :
    (∀ l, (handleGetLead p conn caller.claims raw).look s = .ok l →
    (view p).IsMine caller.claims l) ↔ GetScoped p caller raw s := by
  rw [handleGetLead_look hc]
  refine View.getResponse_confined hc (fun r hr => rowToLead_ok (hm r hr)) fun u r h => ?_
  exact of_decide_eq_true (Bool.and_eq_true_iff.mp h).1

theorem handleGetLead_agree (hc : p.uuid.Lawful) (ha : (view p).Agree caller s.leads s'.leads)
    (h : GetScoped p caller raw s) (h' : GetScoped p caller raw s') :
    (handleGetLead p conn caller.claims raw).look s =
    (handleGetLead p conn' caller.claims raw).look s' := by
  rw [handleGetLead_look hc, handleGetLead_look hc]
  refine View.getResponse_agree (fun u a b hu hv => ?_) ha h h'
  have hu := of_decide_eq_true (Bool.and_eq_true_iff.mp hu).2
  have hv := of_decide_eq_true (Bool.and_eq_true_iff.mp hv).2
  exact clash_iff.mpr (.inl (hu.trans hv.symm))

end Leadkart.CrmLead
