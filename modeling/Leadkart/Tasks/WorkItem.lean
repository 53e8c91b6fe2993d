import Leadkart.Common.Tenancy

/-!
# Work items
-/

namespace Leadkart

namespace WorkItem

def errInvalid : Sentinel := ⟨.invalidInput, "work_item", "invalid work item"⟩
def errConflict : Sentinel := ⟨.conflict, "work_item", "work item state transition not allowed"⟩
def errNotFound : Sentinel := ⟨.notFound, "work_item", "work item not found"⟩
def errAlreadyExistsForSource : Sentinel :=
  ⟨.alreadyExists, "work_item", "open work item already exists for source entity"⟩

inductive ItemType where
  | manual
  | callbackReminder
  | reorderReminder
  | followUp
  | custom

inductive Priority where
  | low
  | medium
  | high
  | urgent

inductive State where
  | pending
  | inProgress
  | completed
  | overdue
  | cancelled
  deriving DecidableEq

def ItemType.string : ItemType → String
  | manual => "manual"
  | callbackReminder => "callback_reminder"
  | reorderReminder => "reorder_reminder"
  | followUp => "follow_up"
  | custom => "custom"

def Priority.string : Priority → String
  | low => "low"
  | medium => "medium"
  | high => "high"
  | urgent => "urgent"

def State.string : State → String
  | pending => "pending"
  | inProgress => "in_progress"
  | completed => "completed"
  | overdue => "overdue"
  | cancelled => "cancelled"

def parseType (raw : String) : Except Err ItemType :=
  parseEntry errInvalid "type" ItemType.string
    [.manual, .callbackReminder, .reorderReminder, .followUp, .custom] raw

def parsePriority (raw : String) : Except Err Priority :=
  if raw = "" then .ok .medium
  else parseEntry errInvalid "priority" Priority.string [.low, .medium, .high, .urgent] raw

def parseState (raw : String) : Except Err State :=
  parseEntry errInvalid "state" State.string
    [.pending, .inProgress, .completed, .overdue, .cancelled] raw

structure Source where
  (module entityType entityID : String := "")
  deriving DecidableEq

inductive Event where
  | created (workItemID tenantID : String) (itype : ItemType) (priority : Priority)
      (title assignedTo assignedBy : String) (dueAt : Time) (batchID : String) (source : Source)
      (createdBy : String) (occurredAt : Time)
  | started (workItemID tenantID actorID : String) (occurredAt : Time)
  | completed (workItemID tenantID actorID : String) (occurredAt : Time)
  | cancelled (workItemID tenantID actorID reason : String) (occurredAt : Time)
  | overdue (workItemID tenantID assignedTo : String) (dueAt occurredAt : Time)
  | reassigned (workItemID tenantID previousAssignee newAssignee reassignedBy reason : String)
      (occurredAt : Time)

end WorkItem

structure WorkItem where
  (id tenantID : String)
  itype : WorkItem.ItemType
  priority : WorkItem.Priority
  state : WorkItem.State
  title : String
  description : String := ""
  (assignedTo assignedBy : String)
  dueAt : Time
  (completedAt cancelledAt : Time := 0)
  (cancellationReason batchID : String := "")
  source : WorkItem.Source := {}
  createdAt : Time
  createdBy : String
  events : List WorkItem.Event := []

namespace WorkItem

inductive IntegrationEvent where
  | workItemCreatedV1 (workItemID tenantID : UUID) (itype priority title : String)
      (assignedTo assignedBy : UUID) (dueAt : Time) (batchID : UUID) (source : Source)
      (createdBy : UUID) (occurredAt : Time)
  | workItemCompletedV1 (workItemID tenantID actorID : UUID) (occurredAt : Time)
  | workItemCancelledV1 (workItemID tenantID actorID : UUID) (reason : String) (occurredAt : Time)
  | workItemOverdueV1 (workItemID tenantID assignedTo : UUID) (dueAt occurredAt : Time)
  | workItemAssignedV1 (workItemID tenantID previousAssignee newAssignee reassignedBy : UUID)
      (reason : String) (occurredAt : Time)

def topic : String := "tasks.events"

structure OutboxMessage where
  topic : String
  tenantID : UUID
  event : IntegrationEvent

variable (codec : UuidCodec)

def parseUUID (name raw : String) : Except Err UUID :=
  match codec.parse raw with
  | some u => .ok u
  | none => .error (.foreign ("tasks integrationevents: invalid uuid: " ++ name ++ "=" ++ raw))

def parseOptionalUUID (name raw : String) : Except Err UUID :=
  if raw = "" then .ok 0 else parseUUID codec name raw

def fromDomainEvent : Event → Except Err (Option IntegrationEvent)
  | .created workItemID tenantID itype priority title assignedTo assignedBy dueAt batchID source
      createdBy occurredAt => do
    let workItemID ← parseUUID codec "work_item_id" workItemID
    let tenantID ← parseUUID codec "tenant_id" tenantID
    let assignedTo ← parseUUID codec "assigned_to_membership_id" assignedTo
    let assignedBy ← parseUUID codec "assigned_by_membership_id" assignedBy
    let createdBy ← parseUUID codec "created_by_membership_id" createdBy
    let batchID ← parseOptionalUUID codec "batch_id" batchID
    return some (.workItemCreatedV1 workItemID tenantID itype.string priority.string title
      assignedTo assignedBy dueAt batchID source createdBy occurredAt)
  | .started .. => .ok none
  | .completed workItemID tenantID actorID occurredAt => do
    let workItemID ← parseUUID codec "work_item_id" workItemID
    let tenantID ← parseUUID codec "tenant_id" tenantID
    let actor ← parseUUID codec "actor_membership_id" actorID
    return some (.workItemCompletedV1 workItemID tenantID actor occurredAt)
  | .cancelled workItemID tenantID actorID reason occurredAt => do
    let workItemID ← parseUUID codec "work_item_id" workItemID
    let tenantID ← parseUUID codec "tenant_id" tenantID
    let actor ← parseUUID codec "actor_membership_id" actorID
    return some (.workItemCancelledV1 workItemID tenantID actor reason occurredAt)
  | .overdue workItemID tenantID assignedTo dueAt occurredAt => do
    let workItemID ← parseUUID codec "work_item_id" workItemID
    let tenantID ← parseUUID codec "tenant_id" tenantID
    let assignedTo ← parseUUID codec "assigned_to_membership_id" assignedTo
    return some (.workItemOverdueV1 workItemID tenantID assignedTo dueAt occurredAt)
  | .reassigned workItemID tenantID previousAssignee newAssignee reassignedBy reason
      occurredAt => do
    let workItemID ← parseUUID codec "work_item_id" workItemID
    let tenantID ← parseUUID codec "tenant_id" tenantID
    let newAssignee ← parseUUID codec "new_assignee_membership_id" newAssignee
    let reassignedBy ← parseUUID codec "reassigned_by_membership_id" reassignedBy
    let previous ← parseOptionalUUID codec "previous_assignee" previousAssignee
    return some (.workItemAssignedV1 workItemID tenantID previous newAssignee reassignedBy reason
      occurredAt)

def mapDomainEvents (events : List Event) : Except Err (List IntegrationEvent) := do
  let mapped ← events.mapM (fromDomainEvent codec)
  return mapped.filterMap fun e => e

end WorkItem

end Leadkart
