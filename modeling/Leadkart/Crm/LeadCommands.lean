import Leadkart.Crm.CrmLeadRepository
import Leadkart.Logic.Rmw

/-!
# The commands on a lead
-/

namespace Leadkart.CrmLead

open Effect Transaction

def errLeadNotFound : Sentinel := ⟨.unknown, "", "crm: lead not found"⟩
def errLeadTerminal : Sentinel := ⟨.unknown, "", "crm: lead is in a terminal stage"⟩

def mapLeadError (e : Err) : Err :=
  if e.is errNotFound then ⟨errLeadNotFound, ""⟩
  else if e.is errTerminal then ⟨errLeadTerminal, ""⟩
  else e

structure Entry where
  (id tenantID leadID previousAssignee assigneeMembershipID assignedByMembershipID reason : String)
  (assignedAt createdAt : Time)

namespace Entry

def errInvalid : Sentinel :=
  ⟨.invalidInput, "assignment_history", "invalid assignment history entry"⟩

def reasonMaxLen : Nat := 1000

def new (codec : UuidCodec) (id tenantID leadID previousAssignee assignee assignedBy reason : String)
    (assignedAt now : Time) : Except Err Entry := do
  codec.validateUUIDString errInvalid "id" id
  codec.validateUUIDString errInvalid "tenant id" (trimSpace tenantID)
  codec.validateUUIDString errInvalid "lead id" leadID
  codec.validateUUIDString errInvalid "assignee membership id" (trimSpace assignee)
  codec.validateUUIDString errInvalid "assigned-by membership id" (trimSpace assignedBy)
  codec.validateOptionalUUID errInvalid "previous assignee membership id"
    (trimSpace previousAssignee)
  if reasonMaxLen < reason.utf8ByteSize then
    .error ⟨errInvalid, s!"reason too long (max 1000, got {reason.utf8ByteSize})"⟩
  else if assignedAt.isZero then .error ⟨errInvalid, "assigned_at required"⟩
  else if now.isZero then .error ⟨errInvalid, "now required"⟩
  else return {
    id, tenantID, leadID, previousAssignee
    assigneeMembershipID := assignee
    assignedByMembershipID := assignedBy
    reason, assignedAt
    createdAt := now }

def row (codec : UuidCodec) (e : Entry) : Except Err HistoryRow := do
  let parse (name raw : String) :=
    codec.parseOr ("crm assignment_history repo: parse " ++ name ++ " ") raw
  let id ← parse "id" e.id
  let tenantID ← parse "tenant id" e.tenantID
  let leadID ← parse "lead id" e.leadID
  let assignee ← parse "assignee" e.assigneeMembershipID
  let assignedBy ← parse "assigned_by" e.assignedByMembershipID
  return {
    id, tenantID, leadID
    previousAssigneeMembershipID := codec.pgUUIDOptStr e.previousAssignee
    assigneeMembershipID := assignee
    assignedByMembershipID := assignedBy
    reason := e.reason
    assignedAt := e.assignedAt
    createdAt := e.createdAt }

end Entry

section

variable {codec : UuidCodec}

def insertHistoryRow (tx : Tx) (row : HistoryRow) (s : Store codec) : Except Err (Store codec) := do
  let history ← ((do
    let history ← (assignmentHistory codec).insert tx.settings row s.history
    Sql.foreignKey "assignment_history_lead_id_fkey" (s.leads.rows.any fun r => r.id = row.leadID)
    return history) : Except SqlError _).mapError (Pg.wrapped "crm assignment_history repo: insert: ")
  return { s with history }

def addEntry (tx : Tx) (e : Entry) : Program codec Unit := do
  let row ← ofExcept (e.row codec)
  write (fun _ => [.entry row.id]) (insertHistoryRow tx row)

def Transition.updateFn (codec : UuidCodec) (t : Transition) (now : Time) : UpdateFn String :=
  fun l => do
    let l' ← t.apply codec now l
    return (t.changed l l', l', l.assigneeMembershipID)

def Transition.label : Transition → String
  | assign .. => "assign"
  | changeStage .. => "change_stage"
  | changeTemperature .. => "change_temperature"
  | convert .. => "convert"
  | lose .. => "lose"

def Transition.required : Transition → List (String × String)
  | assign newAssignee assignedBy _ =>
    [("assignee membership id", newAssignee), ("assigned-by membership id", assignedBy)]
  | changeStage _ changedBy _ | changeTemperature _ changedBy =>
    [("changed-by membership id", changedBy)]
  | convert convertedBy => [("converted-by membership id", convertedBy)]
  | lose lostBy reason => [("lost-by membership id", lostBy), ("reason", reason)]

def requireTexts (label : String) : List (String × String) → Except Err Unit
  | [] => .ok ()
  | (name, value) :: rest =>
    if value = "" then .error (.foreign ("crm " ++ label ++ ": " ++ name ++ " required"))
    else requireTexts label rest

structure Command where
  (tenantID leadID : String)
  transition : Transition
  conn : Conn
  now : Time
  historyID : String := ""

namespace Command

def checkTexts (c : Command) : Except Err Unit :=
  requireTexts c.transition.label
    (("tenant id", c.tenantID) :: ("lead id", c.leadID) :: c.transition.required)

def handleTransition (c : Command) : Program codec Unit := do
  ofExcept c.checkTexts
  let _ ← (updateByID c.conn c.tenantID c.leadID
    (c.transition.updateFn codec c.now)).mapError mapLeadError
  return ()

def entry (c : Command) (codec : UuidCodec) (newAssignee assignedBy reason previous : String) :
    Except Err Entry :=
  (Entry.new codec c.historyID c.tenantID c.leadID previous newAssignee assignedBy reason c.now
    c.now).mapError (Err.wrap "crm assign: history factory: ")

def recordEntry (c : Command) (newAssignee assignedBy reason previous : String) :
    Program codec String := do
  let entry ← ofExcept (c.entry codec newAssignee assignedBy reason previous)
  (addEntry (c.conn.tx c.tenantID) entry).mapError (Err.wrap "crm assign: history persist: ")
  return entry.id

def assignInTx (c : Command) (newAssignee assignedBy reason : String) : Program codec String := do
  let r ← updateOnTx (c.conn.tx c.tenantID) c.leadID
    ((Transition.assign newAssignee assignedBy reason).updateFn codec c.now)
  if r.1 then c.recordEntry newAssignee assignedBy reason r.2 else return ""

def handleAssign (c : Command) (newAssignee assignedBy reason : String) : Program codec String := do
  ofExcept c.checkTexts
  (c.assignInTx newAssignee assignedBy reason).mapError mapLeadError

def program (c : Command) : Program codec Unit :=
  match c.transition with
  | .assign newAssignee assignedBy reason => do
    let _ ← c.handleAssign newAssignee assignedBy reason
    return ()
  | _ => c.handleTransition

def change (c : Command) (codec : UuidCodec) (l : CrmLead) : Option (CrmLead × String) :=
  match c.checkTexts, c.transition.updateFn codec c.now l with
  | .ok (), .ok (true, l', previous) => some (l', previous)
  | _, _ => none

def record (c : Command) (previous : String) (s : Store codec) : Except Err (Store codec) :=
  match c.transition with
  | .assign newAssignee assignedBy reason => do
    let entry ← c.entry codec newAssignee assignedBy reason previous
    let row ← entry.row codec
    insertHistoryRow (c.conn.tx c.tenantID) row s
  | _ => .ok s

def store (c : Command) (w : CrmLead × String) (s : Store codec) : Except Err (Store codec) := do
  let s ← persistLeadState (c.conn.tx c.tenantID) w.1 s
  let s ← drainLeadEvents w.1 s
  c.record w.2 s

def txn (c : Command) : Rmw.Txn (Store codec) (CrmLead × String) :=
  Rmw.updateTxn (fun s => (loadLead (c.conn.tx c.tenantID) c.leadID s).toOption) (c.change codec)
    fun w s => (c.store w s).toOption

variable {c : Command} {s s' : Store codec} {l : CrmLead} {w : CrmLead × String}

theorem change_eq_some : c.change codec l = some w ↔
    c.checkTexts = .ok () ∧ c.transition.updateFn codec c.now l = .ok (true, w.1, w.2) := by
  unfold change
  constructor
  · intro h
    split at h
    next l' previous ht hfn =>
      cases h
      exact ⟨ht, hfn⟩
    next => cases h
  · rintro ⟨ht, hfn⟩
    rw [ht, hfn]

theorem txn_attempt {seen : List (Store codec)} (h : c.txn.attempt seen = some w) :
    ∃ s₀ l, seen = [s₀] ∧ loadLead (c.conn.tx c.tenantID) c.leadID s₀ = .ok l ∧
    c.transition.apply codec c.now l = .ok w.1 ∧ c.transition.changed l w.1 = true ∧
    w.2 = l.assigneeMembershipID := by
  obtain ⟨s₀, l, rfl, hl, hch⟩ := Rmw.updateTxn_attempt h
  obtain ⟨-, hfn⟩ := change_eq_some.mp hch
  obtain ⟨l', ha, hfn⟩ := except_bind_ok hfn
  obtain ⟨hc, hw⟩ := Prod.mk.inj (Except.ok.inj hfn)
  obtain ⟨rfl, hp⟩ := Prod.mk.inj hw
  exact ⟨s₀, l, rfl, except_toOption.mp hl, ha, hc, hp.symm⟩

theorem txn_write (h : c.txn.write w s = some s') : c.store w s = .ok s' := except_toOption.mp h

theorem record_eq_ok {previous : String} (h : c.record previous s = .ok s') :
    s'.leads = s.leads ∧ s'.outbox = s.outbox := by
  unfold record at h
  split at h
  · obtain ⟨entry, -, h⟩ := except_bind_ok h
    obtain ⟨row, -, h⟩ := except_bind_ok h
    obtain ⟨history, -, h⟩ := except_bind_ok h
    cases h
    exact ⟨rfl, rfl⟩
  · cases h
    exact ⟨rfl, rfl⟩

structure On (c : Command) (codec : UuidCodec) (T lid : UUID) : Prop where
  tenant : codec.input c.tenantID = some T
  lead : codec.parse c.leadID = some lid

variable {lid : UUID}

theorem store_eq_ok {T : UUID} (hc : c.On codec T lid) (hid : codec.parse w.1.id = some lid)
    (h : c.store w s = .ok s') : leadOf T lid s' = (leadOf T lid s).map (updateParams codec w.1) ∧
    (∃ messages, mapDomainEvents codec w.1.events = .ok (messages.map OutboxMessage.event) ∧
    s'.outbox = s.outbox ++ messages) ∧
    ∃ s₁ : Store codec, s₁.history = s.history ∧ c.record w.2 s₁ = .ok s' := by
  obtain ⟨s₁, hp, h⟩ := except_bind_ok h
  obtain ⟨s₂, hd, hr⟩ := except_bind_ok h
  obtain ⟨hrow, hh, hou⟩ := persistLeadState_eq_ok (bound_tx hc.tenant c.conn) hid hp
  obtain ⟨messages, hm, ha⟩ := drainLeadEvents_eq_ok hd
  obtain rfl := Except.ok.inj (hd.symm.trans (ha s₁))
  obtain ⟨hl, ho⟩ := record_eq_ok hr
  refine ⟨?_, ⟨messages, hm, ?_⟩, { s₁ with outbox := s₁.outbox ++ messages }, hh, hr⟩
  · rw [← hrow]
    unfold leadOf
    rw [hl]
  · rw [ho, ← hou]

theorem load_eq_ok {T : UUID} (hco : codec.Lawful) (hc : c.On codec T lid)
    (h : loadLead (c.conn.tx c.tenantID) c.leadID s = .ok l) :
    ∃ row, leadOf T lid s = some row ∧ rowToLead codec row = .ok l ∧
    codec.parse l.id = some lid ∧ l.events = [] := by
  obtain ⟨row, hrow, hl⟩ := (loadLead_eq_ok (bound_tx hc.tenant c.conn) hc.lead).mp h
  obtain ⟨hid, -, he, -⟩ := rowToLead_eq_ok hl
  refine ⟨row, hrow, hl, ?_, he⟩
  rw [hid, (leadOf_ids hrow).2, hco.parse_string]

end Command

end

def openLead : Row where
  id := 3
  tenantID := 2
  stage := "negotiation"
  temperature := "warm"
  contactName := "Asha"
  phoneE164 := "+919876543210"
  productRanges := some []
  dosageForms := some []
  createdAt := 10

def openLeadStore : Store unaryCodec where
  leads := { rows := [openLead], unique := List.pairwise_singleton .. }

def onOpenLead (transition : Transition) (now : Time) (historyID : String) : Command where
  tenantID := "xxx"
  leadID := "xxxx"
  transition := transition
  conn := { plan := fun _ _ _ => true }
  now := now
  historyID := historyID

theorem onOpenLead_on (transition : Transition) (now : Time) (historyID : String) :
    (onOpenLead transition now historyID).On unaryCodec 2 3 where
  tenant := (by decide : unaryCodec.input "xxx" = some 2)
  lead := (by decide : unaryCodec.parse "xxxx" = some 3)

end Leadkart.CrmLead
