import Leadkart.Crm.LeadQueries
import Leadkart.Tasks.WorkItemQueries

/-!
# The scope of a caller's reads
-/

namespace Leadkart.Api

open Table CrmLead

structure ReadStore (codec : UuidCodec) where
  crm : CrmLead.Store codec := {}
  tasks : WorkItem.Store codec := {}

structure ReadConns where
  crm : Conn
  tasks : WorkItem.Conn

inductive ReadRequest where
  | listLeads (params : Params)
  | getLead (raw : String)
  | listWorkItems (params : Params)
  | getWorkItem (raw : String)

inductive ReadResponse where
  | leads (page : Page CrmLead)
  | lead (l : CrmLead)
  | workItems (page : Page WorkItem)
  | workItem (w : WorkItem)

def ReadRequest.readAll : ReadRequest → String
  | listLeads _ | getLead _ => listPolicy.readAll
  | listWorkItems _ | getWorkItem _ => WorkItem.listPolicy.readAll

variable (p : Parsers) (ilike : String → String → Bool)

def respond (conns : ReadConns) (c : Claims) (s : ReadStore p.uuid) :
    ReadRequest → Except Failure ReadResponse
  | .listLeads params =>
    ((handleListLeads p ilike conns.crm c params).look s.crm).map .leads
  | .getLead raw => ((handleGetLead p conns.crm c raw).look s.crm).map .lead
  | .listWorkItems params =>
    ((WorkItem.handleListWorkItems p conns.tasks c params).look s.tasks).map .workItems
  | .getWorkItem raw => ((WorkItem.handleGetWorkItem p conns.tasks c raw).look s.tasks).map .workItem

def ReadResponse.Confined (c : Claims) : ReadResponse → Prop
  | leads page => ∀ l ∈ page.items, (CrmLead.view p).IsMine c l
  | lead l => (CrmLead.view p).IsMine c l
  | workItems page => ∀ w ∈ page.items, (WorkItem.view p).IsMine c w
  | workItem w => (WorkItem.view p).IsMine c w

def Scoped (caller : Caller p.uuid) (s : ReadStore p.uuid) : ReadRequest → Prop
  | .listLeads params => ListScoped p ilike caller params s.crm
  | .getLead raw => GetScoped p caller raw s.crm
  | .listWorkItems params => WorkItem.ListScoped p caller params s.tasks
  | .getWorkItem raw => WorkItem.GetScoped p caller raw s.tasks

variable {p ilike} {caller : Caller p.uuid} {s s' : ReadStore p.uuid} {req : ReadRequest}

structure ReadStore.Meets (s : ReadStore p.uuid) : Prop where
  leads : ∀ r ∈ s.crm.leads, (CrmLead.crmLeads p.uuid).meets r = .ok ()
  workItems : ∀ r ∈ s.tasks.workItems, (WorkItem.workItems p.uuid).meets r = .ok ()

structure SameOwn (caller : Caller p.uuid) (s s' : ReadStore p.uuid) : Prop where
  crm : (CrmLead.view p).Agree caller s.crm.leads s'.crm.leads
  tasks : (WorkItem.view p).Agree caller s.tasks.workItems s'.tasks.workItems

open Classical in
noncomputable def ReadStore.own (caller : Caller p.uuid) (s : ReadStore p.uuid) :
    ReadStore p.uuid where
  crm := { leads := s.crm.leads.delete fun r => ¬ (CrmLead.view p).Owned caller r }
  tasks := { workItems := s.tasks.workItems.delete fun r => ¬ (WorkItem.view p).Owned caller r }

theorem sameOwn_own (caller : Caller p.uuid) (s : ReadStore p.uuid) :
    SameOwn caller s (s.own caller) where
  crm r hr := by simp [ReadStore.own, mem_delete, hr]
  tasks r hr := by simp [ReadStore.own, mem_delete, hr]

theorem ReadStore.Meets.own (h : s.Meets) (caller : Caller p.uuid) : (s.own caller).Meets where
  leads r hr := h.leads r (mem_delete.mp hr).1
  workItems r hr := h.workItems r (mem_delete.mp hr).1

theorem scoped_own (caller : Caller p.uuid) (s : ReadStore p.uuid) (req : ReadRequest) :
    Scoped p ilike caller (s.own caller) req := by
  have hl : ∀ r ∈ (s.own caller).crm.leads, (CrmLead.view p).Owned caller r := fun r hr => by
    simpa using (mem_delete.mp hr).2
  have hitems : ∀ r ∈ (s.own caller).tasks.workItems, (WorkItem.view p).Owned caller r := fun r hr => by
    simpa using (mem_delete.mp hr).2
  cases req with
  | listLeads params => exact View.listScoped_of_owned hl
  | getLead raw => exact View.getScoped_of_owned hl
  | listWorkItems params => exact View.listScoped_of_owned hitems
  | getWorkItem raw => exact View.getScoped_of_owned hitems

theorem forall_map_eq_ok {ε α β : Type} {x : Except ε α} {f : α → β} {P : β → Prop} :
    (∀ b, x.map f = .ok b → P b) ↔ ∀ a, x = .ok a → P (f a) := by
  cases x with
  | error e => exact ⟨fun _ _ h => (nomatch h), fun _ _ h => (nomatch h)⟩
  | ok a => simp [Except.map]

theorem respond_confined (hc : p.uuid.Lawful) (hm : s.Meets)
    (hr : Restricted req.readAll caller.claims) (c : ReadConns) :
    (∀ r, respond p ilike c caller.claims s req = .ok r → r.Confined p caller.claims) ↔
    Scoped p ilike caller s req := by
  cases req with
  | listLeads params =>
    exact forall_map_eq_ok.trans (handleListLeads_confined hc hr hm.leads)
  | getLead raw => exact forall_map_eq_ok.trans (handleGetLead_confined hc hm.leads)
  | listWorkItems params =>
    exact forall_map_eq_ok.trans (WorkItem.handleListWorkItems_confined hc hr hm.workItems)
  | getWorkItem raw =>
    exact forall_map_eq_ok.trans (WorkItem.handleGetWorkItem_confined hc hm.workItems)

theorem respond_agree (hc : p.uuid.Lawful)
    (hr : Restricted req.readAll caller.claims) (co c : ReadConns)
    (hs : SameOwn caller s s') (h : Scoped p ilike caller s req)
    (h' : Scoped p ilike caller s' req) :
    respond p ilike co caller.claims s req = respond p ilike c caller.claims s' req := by
  cases req with
  | listLeads params =>
    exact congrArg (Except.map ReadResponse.leads) (handleListLeads_agree hr hs.crm h h')
  | getLead raw =>
    exact congrArg (Except.map ReadResponse.lead) (handleGetLead_agree hc hs.crm h h')
  | listWorkItems params =>
    exact congrArg (Except.map ReadResponse.workItems)
      (WorkItem.handleListWorkItems_agree hc hr hs.tasks h h')
  | getWorkItem raw =>
    exact congrArg (Except.map ReadResponse.workItem)
      (WorkItem.handleGetWorkItem_agree hc hs.tasks h h')

theorem reads_scoped (hcodec : p.uuid.Lawful) (hmeets : s.Meets)
    (hrestricted : Restricted req.readAll caller.claims) (conns : ReadConns) :
    ((∀ r, respond p ilike conns caller.claims s req = .ok r → r.Confined p caller.claims) ↔
    Scoped p ilike caller s req) ∧
    ((∀ (s' : ReadStore p.uuid) (conns' : ReadConns), SameOwn caller s s' →
    Scoped p ilike caller s' req → respond p ilike conns caller.claims s req =
    respond p ilike conns' caller.claims s' req) ↔ Scoped p ilike caller s req) := by
  have hc : _ ↔ Scoped p ilike caller s req := respond_confined hcodec hmeets hrestricted conns
  refine ⟨hc, fun ha => ?_, fun h s' conns' hs h' => ?_⟩
  · -- The store with the caller's rows alone gives a response that shows nothing else.
    rw [← hc, ha _ conns (sameOwn_own caller s) (scoped_own caller s req)]
    exact (respond_confined hcodec (hmeets.own caller) hrestricted conns).mpr
      (scoped_own caller s req)
  · exact respond_agree hcodec hrestricted conns conns' hs h h'

def unaryParsers : Parsers where
  uuid := unaryCodec
  decode _ := .ok ⟨0, ""⟩
  atoi _ := none
  rfc3339 _ := none

def salesperson : Caller unaryParsers.uuid where
  claims :=
    { personID := "x", tenantID := "xxx", tenantSlug := "acme", membershipID := "xxxxx"
      securityStamp := "", isPlatform := false, isSuperUser := false
      permissions := ["crm.leads.read"], issuedAt := 0, expiresAt := 1000 }
  tenant := 2
  parse_tenant := by decide
  input_tenant := by decide

theorem salesperson_restricted : Restricted listPolicy.readAll salesperson.claims where
  superUser := rfl
  platform := rfl
  readAll := by decide

def assignedLead (assignee : UUID) : Row where
  id := 3
  tenantID := 2
  stage := "new"
  temperature := "warm"
  contactName := "Asha"
  phoneE164 := "+919876543210"
  productRanges := some []
  dosageForms := some []
  assigneeMembershipID := some assignee
  createdAt := 10

def assignedLeadStore (assignee : UUID) : ReadStore unaryParsers.uuid where
  crm := { leads := { rows := [assignedLead assignee], unique := List.pairwise_singleton .. } }

def sampleConns : ReadConns := ⟨{ plan := fun _ _ _ => true }, { plan := fun _ _ _ => true }⟩

theorem own_lead_read :
    ∃ l, respond unaryParsers (fun _ _ => true) sampleConns salesperson.claims (assignedLeadStore 4)
    (.getLead "xxxx") = .ok (.lead l) ∧
    (ReadResponse.lead l).Confined unaryParsers salesperson.claims := by
  have hm : (assignedLeadStore 4).Meets := by
    refine ⟨fun r hr => ?_, fun r hr => absurd hr List.not_mem_nil⟩
    obtain rfl := List.mem_singleton.mp hr
    decide +kernel
  have hrd : Restricted (ReadRequest.getLead "xxxx").readAll salesperson.claims :=
    salesperson_restricted
  have hs : Scoped unaryParsers (fun _ _ => true) salesperson (assignedLeadStore 4)
      (.getLead "xxxx") := by
    refine View.getScoped_of_owned fun r hr => ?_
    obtain rfl := List.mem_singleton.mp hr
    exact ⟨rfl, 4, by decide, rfl⟩
  obtain ⟨l, hl, -⟩ := (Option.any_eq_true ..).mp (by decide +kernel :
    ((handleGetLead unaryParsers sampleConns.crm salesperson.claims "xxxx").look
      (assignedLeadStore 4).crm).toOption.any (fun _ => true) = true)
  have hre : respond unaryParsers (fun _ _ => true) sampleConns salesperson.claims
      (assignedLeadStore 4) (.getLead "xxxx") = .ok (.lead l) :=
    congrArg (Except.map ReadResponse.lead) (Effect.except_toOption.mp hl)
  exact ⟨l, hre, (reads_scoped unaryCodec_lawful hm hrd sampleConns).1.mpr hs _ hre⟩

theorem lead_of_another_read : Restricted listPolicy.readAll salesperson.claims ∧
    ∃ l, respond unaryParsers (fun _ _ => true) sampleConns salesperson.claims
    (assignedLeadStore 5) (.getLead "xxxx") = .ok (.lead l) ∧
    ¬ (ReadResponse.lead l).Confined unaryParsers salesperson.claims := by
  obtain ⟨l, hl, ha⟩ := (Option.any_eq_true ..).mp (by decide +kernel :
    ((handleGetLead unaryParsers sampleConns.crm salesperson.claims "xxxx").look
      (assignedLeadStore 5).crm).toOption.any (fun l => l.assigneeMembershipID = "xxxxxx") = true)
  refine ⟨salesperson_restricted, l,
    congrArg (Except.map ReadResponse.lead) (Effect.except_toOption.mp hl), ?_⟩
  rintro ⟨u, hme, hp⟩
  change unaryParsers.uuid.parse l.assigneeMembershipID = some u at hp
  rw [of_decide_eq_true ha] at hp
  have heq : (CrmLead.view unaryParsers).me salesperson.claims = unaryCodec.parse "xxxxxx" :=
    hme.trans hp.symm
  cases heq

end Leadkart.Api
