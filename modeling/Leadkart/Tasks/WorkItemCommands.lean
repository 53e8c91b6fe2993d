import Leadkart.Logic.UpdateBy
import Leadkart.Tasks.WorkItemLifecycle
import Leadkart.Tasks.WorkItemStatements

/-!
# The commands on a work item
-/

namespace Leadkart.WorkItem

open Effect

def errWorkItemNotFound : Sentinel := ⟨.unknown, "", "tasks: work item not found"⟩
def errWorkItemTerminal : Sentinel := ⟨.unknown, "", "tasks: work item is terminal"⟩
def errForbiddenReassign : Sentinel :=
  ⟨.unknown, "", "tasks: reassign target outside actor's subordinate scope"⟩
def errInvalidAssignee : Sentinel :=
  ⟨.unknown, "", "tasks: assignee membership not active in tenant"⟩

def mapErr (e : Err) : Err :=
  if e.is errNotFound then ⟨errWorkItemNotFound, ""⟩
  else if e.is errConflict then ⟨errWorkItemTerminal, ""⟩
  else e

inductive Action where
  | start (actorID : String)
  | complete (actorID : String)
  | cancel (actorID reason : String)
  | markOverdue
  | reassign (newAssignee reassignedBy reason : String)
  | autoComplete (sourceEntityType sourceEntityID actorID : String)

namespace Action

def transition : Action → Transition
  | start actorID => .start actorID
  | complete actorID | autoComplete _ _ actorID => .complete actorID
  | cancel actorID reason => .cancel actorID reason
  | markOverdue => .markOverdue
  | reassign newAssignee reassignedBy reason => .reassign newAssignee reassignedBy reason

def label : Action → String
  | start .. => "tasks start"
  | complete .. => "tasks complete"
  | cancel .. => "tasks cancel"
  | markOverdue => "tasks mark_overdue"
  | reassign .. => "tasks reassign"
  | autoComplete .. => "tasks auto_complete"

def required (tenantID workItemID : String) : Action → List (String × String)
  | start actorID | complete actorID =>
    [("tenant id", tenantID), ("work item id", workItemID), ("actor id", actorID)]
  | cancel actorID reason =>
    [("tenant id", tenantID), ("work item id", workItemID), ("actor id", actorID),
      ("reason", reason)]
  | markOverdue => [("tenant id", tenantID), ("work item id", workItemID)]
  | reassign newAssignee reassignedBy _ =>
    [("tenant id", tenantID), ("work item id", workItemID),
      ("new assignee membership id", newAssignee),
      ("reassigned-by membership id", reassignedBy)]
  | autoComplete sourceEntityType sourceEntityID actorID =>
    [("tenant id", tenantID),
      ("source pair", if sourceEntityType = "" then "" else sourceEntityID), ("actor id", actorID)]

end Action

def Transition.updateFn (codec : UuidCodec) (t : Transition) (now : Time) : UpdateFn := fun w =>
  match t.apply codec now w with
  | .error e => (w, .error e)
  | .ok w' => (w', .ok (t.changed w w'))

theorem Transition.updateFn_eq {codec : UuidCodec} {t : Transition} {now : Time} {w w' : WorkItem}
    {persist : Bool} : t.updateFn codec now w = (w', .ok persist) ↔
    t.apply codec now w = .ok w' ∧ t.changed w w' = persist := by
  unfold updateFn
  rcases t.apply codec now w with e | w''
  · simp
  · simp only [Prod.mk.injEq, Except.ok.injEq]
    exact and_congr_right fun heq => by rw [heq]

structure Command where
  (tenantID workItemID : String)
  action : Action
  conn : Conn
  now : Time
  activeInTenant : Except Err Bool := .ok true
  subordinates : Except Err (List String) := .ok []

namespace Command

def checkReassign (c : Command) (newAssignee : String) : Except Err Unit := do
  let active ← c.activeInTenant.mapError (Err.wrap "tasks reassign: membership probe: ")
  if active then
    let visible ← c.subordinates.mapError (Err.wrap "tasks reassign: hierarchy lookup: ")
    if newAssignee ∈ visible then .ok () else .error ⟨errForbiddenReassign, ""⟩
  else .error ⟨errInvalidAssignee, ""⟩

def checks (c : Command) : Except Err Unit := do
  requireTexts c.action.label (c.action.required c.tenantID c.workItemID)
  match c.action with
  | .reassign newAssignee _ _ => c.checkReassign newAssignee
  | _ => .ok ()

variable {codec : UuidCodec}

def store (c : Command) (w : WorkItem) : Repo codec Unit := do
  persistWorkItemState (c.conn.tx c.tenantID) w
  drainWorkItemEvents w

def txn (c : Command) : Rmw.Txn (Store codec) WorkItem :=
  updateByTxn (loadWorkItem (c.conn.tx c.tenantID) c.workItemID)
    (checked c.checks (c.action.transition.updateFn codec c.now)) c.store

variable {c : Command} {s s' : Store codec} {w w' : WorkItem}

structure On (c : Command) (codec : UuidCodec) (T lid : UUID) : Prop where
  tenant : codec.input c.tenantID = some T
  item : codec.parse c.workItemID = some lid

variable {T lid : UUID}

theorem txn_attempt (hco : codec.Lawful) (hc : c.On codec T lid) {seen : List (Store codec)}
    (h : c.txn.attempt seen = some w') : ∃ s₀ row w, seen = [s₀] ∧ itemOf T lid s₀ = some row ∧
    snapshotFromColumns codec row = .ok w ∧ Stepped w w' ∧ w.events = [] ∧
    codec.parse w'.id = some lid := by
  obtain ⟨s₀, w, rfl, hl, hfn⟩ := updateByTxn_attempt h
  obtain ⟨row, hrow, hw⟩ := (loadWorkItem_eq_ok (bound_tx hc.tenant c.conn) hc.item).mp hl
  obtain ⟨ha, hch⟩ := Transition.updateFn_eq.mp (checked_eq.mp hfn).2
  have hs := Transition.stepped ha hch
  obtain ⟨hid, -, he, -⟩ := snapshotFromColumns_eq_ok hw
  refine ⟨s₀, row, w, rfl, hrow, hw, hs, he, ?_⟩
  rw [hs.id, hid, (itemOf_ids hrow).2, hco.parse_string]

theorem txn_write (hc : c.On codec T lid) (hid : codec.parse w.id = some lid)
    (h : c.txn.write w s = some s') :
    itemOf T lid s' = (itemOf T lid s).map (updateParams codec w) ∧
    ∃ messages, mapDomainEvents codec w.events = .ok (messages.map OutboxMessage.event) ∧
    s'.outbox = s.outbox ++ messages := by
  have hs : (c.store w).run s = (.ok (), s') := updateByTxn_write h
  obtain ⟨⟨⟩, s₁, hp, hd⟩ := bind_eq_ok.mp hs
  obtain ⟨hrow, ho⟩ := persistWorkItemState_eq_ok (bound_tx hc.tenant c.conn) hid hp
  obtain ⟨messages, hm, rfl⟩ := drainWorkItemEvents_eq_ok hd
  exact ⟨hrow, messages, hm, by rw [ho]⟩

end Command

end Leadkart.WorkItem
