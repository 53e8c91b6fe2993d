import Leadkart.Crm.CrmLead

/-!
# Reminders
-/

namespace Leadkart

open Effect

namespace Reminder

def errInvalid : Sentinel := ⟨.invalidInput, "reminder", "invalid reminder"⟩
def errConflict : Sentinel := ⟨.conflict, "reminder", "reminder is in a terminal state"⟩
def errNotFound : Sentinel := ⟨.notFound, "reminder", "reminder not found"⟩
def errAlreadyExists : Sentinel := ⟨.conflict, "reminder", "reminder already exists"⟩

def notesMaxLen : Nat := 2000
def cancelReasonMaxLen : Nat := 1000

inductive ReminderType where
  | callback
  | matureLead
  | manual

inductive State where
  | pending
  | sent
  | cancelled

def ReminderType.string : ReminderType → String
  | callback => "callback"
  | matureLead => "mature_lead"
  | manual => "manual"

def State.string : State → String
  | pending => "pending"
  | sent => "sent"
  | cancelled => "cancelled"

def State.isTerminal : State → Bool
  | sent | cancelled => true
  | pending => false

def parseType (raw : String) : Except Err ReminderType :=
  parseEntry errInvalid "type" ReminderType.string [.callback, .matureLead, .manual] raw

def parseState (raw : String) : Except Err State :=
  parseEntry errInvalid "state" State.string [.pending, .sent, .cancelled] raw

theorem parseState_string (state : State) : parseState state.string = .ok state := by
  cases state <;> rfl

theorem parseState_eq_ok {raw : String} {state : State} (h : parseState raw = .ok state) :
    raw = state.string := parseEntry_eq_ok h

inductive Event where
  | created (reminderID tenantID leadID assignedTo : String) (rtype : ReminderType) (dueAt : Time)
      (sourceCallLogID createdBy : String) (at_ : Time)
  | markedSent (reminderID tenantID leadID markedBy : String) (at_ : Time)
  | cancelled (reminderID tenantID leadID cancelledBy reason : String) (at_ : Time)

end Reminder

structure Reminder where
  (id tenantID leadID assignedTo : String)
  (createdBy sourceCallLogID : String := "")
  rtype : Reminder.ReminderType
  state : Reminder.State
  dueAt : Time
  notes : String := ""
  sentAt : Time := 0
  markedSentBy : String := ""
  cancelledAt : Time := 0
  (cancelledBy cancelReason : String := "")
  createdAt : Time
  events : List Reminder.Event := []

namespace Reminder

section

variable (codec : UuidCodec)

def newReminder (id tenantID leadID assignedTo createdBy sourceCallLogID : String)
    (rtype : ReminderType) (dueAt : Time) (notes : String) (now : Time) : Except Err Reminder := do
  codec.validateUUIDString errInvalid "id" id
  codec.validateUUIDString errInvalid "tenant id" (trimSpace tenantID)
  codec.validateUUIDString errInvalid "lead id" leadID
  codec.validateUUIDString errInvalid "assigned to membership id" (trimSpace assignedTo)
  codec.validateOptionalUUID errInvalid "created by membership id" createdBy
  if dueAt.isZero then .error ⟨errInvalid, "due_at required"⟩
  else if notesMaxLen < notes.utf8ByteSize then
    .error ⟨errInvalid, s!"notes too long (max 2000, got {notes.utf8ByteSize})"⟩
  else if now.isZero then .error ⟨errInvalid, "now required"⟩
  else return {
    id, tenantID, leadID, assignedTo, createdBy, sourceCallLogID, rtype
    state := .pending
    dueAt, notes
    createdAt := now
    events := [.created id tenantID leadID assignedTo rtype dueAt sourceCallLogID createdBy now] }

def newCallbackReminder (id tenantID leadID assignedTo createdBy sourceCallLogID : String)
    (dueAt : Time) (notes : String) (now : Time) : Except Err Reminder := do
  codec.validateUUIDString errInvalid "source call log id" (trimSpace sourceCallLogID)
  newReminder codec id tenantID leadID assignedTo createdBy sourceCallLogID .callback dueAt notes now

def newMatureLeadReminder (id tenantID leadID assignedTo : String) (dueAt : Time) (notes : String)
    (now : Time) : Except Err Reminder :=
  newReminder codec id tenantID leadID assignedTo "" "" .matureLead dueAt notes now

def newManualReminder (id tenantID leadID assignedTo createdBy : String) (dueAt : Time)
    (notes : String) (now : Time) : Except Err Reminder := do
  codec.validateUUIDString errInvalid "created by membership id" (trimSpace createdBy)
  newReminder codec id tenantID leadID assignedTo createdBy "" .manual dueAt notes now

variable {codec} {id tenantID leadID assignedTo createdBy sourceCallLogID notes : String}
  {rtype : ReminderType} {dueAt now : Time} {r : Reminder}

theorem newReminder_built (h : newReminder codec id tenantID leadID assignedTo createdBy
    sourceCallLogID rtype dueAt notes now = .ok r) :
    codec.validateUUIDString errInvalid "id" id = .ok () ∧ notes.utf8ByteSize ≤ notesMaxLen ∧
    r = { id, tenantID, leadID, assignedTo, createdBy, sourceCallLogID, rtype
          state := .pending
          dueAt, notes
          createdAt := now
          events := [.created id tenantID leadID assignedTo rtype dueAt sourceCallLogID createdBy
            now] } := by
  simp only [newReminder, except_bind_eq_ok, ite_error_eq_ok] at h
  obtain ⟨⟨⟩, hid, _, -, _, -, _, -, _, -, -, hn, -, h⟩ := h
  exact ⟨hid, Nat.not_lt.mp hn, (Except.ok.inj h).symm⟩

theorem newReminder_eq_ok (h : newReminder codec id tenantID leadID assignedTo createdBy
    sourceCallLogID rtype dueAt notes now = .ok r) :
    r.id = id ∧ r.tenantID = tenantID ∧ r.sourceCallLogID = sourceCallLogID ∧ r.rtype = rtype ∧
    r.state = .pending := by
  obtain ⟨-, -, rfl⟩ := newReminder_built h
  exact ⟨rfl, rfl, rfl, rfl, rfl⟩

end

def recordEvent (r : Reminder) (e : Event) : Reminder := { r with events := r.events ++ [e] }

section

variable (codec : UuidCodec)

def markSent (r : Reminder) (markedBy : String) (now : Time) : Except Err Reminder := do
  codec.validateUUIDString errInvalid "marked-by membership id" (trimSpace markedBy)
  if now.isZero then .error ⟨errInvalid, "now required"⟩
  else if r.state.isTerminal then
    .error ⟨errConflict, "state=" ++ r.state.string ++ "; mark-sent not allowed"⟩
  else
    return recordEvent { r with state := .sent, sentAt := now, markedSentBy := markedBy }
      (.markedSent r.id r.tenantID r.leadID markedBy now)

def cancel (r : Reminder) (cancelledBy reason : String) (now : Time) : Except Err Reminder := do
  codec.validateUUIDString errInvalid "cancelled-by membership id" (trimSpace cancelledBy)
  if trimSpace reason = "" then .error ⟨errInvalid, "cancel reason required for audit"⟩
  else if cancelReasonMaxLen < reason.utf8ByteSize then
    .error ⟨errInvalid, s!"cancel reason too long (max 1000, got {reason.utf8ByteSize})"⟩
  else if now.isZero then .error ⟨errInvalid, "now required"⟩
  else if r.state.isTerminal then
    .error ⟨errConflict, "state=" ++ r.state.string ++ "; cancel not allowed"⟩
  else
    return recordEvent
      { r with state := .cancelled, cancelledAt := now, cancelledBy, cancelReason := reason }
      (.cancelled r.id r.tenantID r.leadID cancelledBy reason now)

end

inductive Transition where
  | markSent (markedBy : String)
  | cancel (cancelledBy reason : String)

def Transition.apply (codec : UuidCodec) (t : Transition) (now : Time) (r : Reminder) :
    Except Err Reminder :=
  match t with
  | .markSent markedBy => r.markSent codec markedBy now
  | .cancel cancelledBy reason => r.cancel codec cancelledBy reason now

def Event.isTerminal : Event → Bool
  | markedSent .. | cancelled .. => true
  | created .. => false

structure Stepped (r r' : Reminder) : Prop where
  isOpen : r.state.isTerminal = false
  id : r'.id = r.id
  tenantID : r'.tenantID = r.tenantID
  ended : r'.state.isTerminal = true
  recorded : ∃ e, r'.events = r.events ++ [e] ∧ e.isTerminal = true

theorem Transition.apply_eq_ok {codec : UuidCodec} {t : Transition} {now : Time} {r r' : Reminder}
    (h : t.apply codec now r = .ok r') : Stepped r r' := by
  cases t with
  | markSent markedBy =>
    obtain ⟨_, -, h⟩ := except_bind_ok h
    split at h
    · cases h
    split at h
    · cases h
    next ho =>
      cases h
      exact ⟨Bool.eq_false_iff.mpr ho, rfl, rfl, rfl, _, rfl, rfl⟩
  | cancel cancelledBy reason =>
    obtain ⟨_, -, h⟩ := except_bind_ok h
    split at h
    · cases h
    split at h
    · cases h
    split at h
    · cases h
    split at h
    · cases h
    next ho =>
      cases h
      exact ⟨Bool.eq_false_iff.mpr ho, rfl, rfl, rfl, _, rfl, rfl⟩

inductive IntegrationEvent where
  | crmReminderCreatedV1 (reminderID tenantID leadID assignedTo : UUID) (rtype : String)
      (dueAt : Time) (sourceCallLogID createdBy : UUID) (occurredAt : Time)
  | crmReminderMarkedSentV1 (reminderID tenantID leadID markedBy : UUID) (occurredAt : Time)
  | crmReminderCancelledV1 (reminderID tenantID leadID cancelledBy : UUID) (reason : String)
      (occurredAt : Time)

section

variable (codec : UuidCodec)

def fromDomainEvent : Event → Except Err IntegrationEvent
  | .created reminderID tenantID leadID assignedTo rtype dueAt sourceCallLogID createdBy at_ => do
    let reminderID ← CrmLead.parseUUID codec "reminder_id" reminderID
    let tenantID ← CrmLead.parseUUID codec "tenant_id" tenantID
    let leadID ← CrmLead.parseUUID codec "lead_id" leadID
    let assignedTo ← CrmLead.parseUUID codec "assigned_to_membership_id" assignedTo
    let sourceCall ← CrmLead.parseOptionalUUID codec "source_call_log_id" sourceCallLogID
    let createdBy ← CrmLead.parseOptionalUUID codec "created_by_membership_id" createdBy
    return .crmReminderCreatedV1 reminderID tenantID leadID assignedTo rtype.string dueAt sourceCall
      createdBy at_
  | .markedSent reminderID tenantID leadID markedBy at_ => do
    let reminderID ← CrmLead.parseUUID codec "reminder_id" reminderID
    let tenantID ← CrmLead.parseUUID codec "tenant_id" tenantID
    let leadID ← CrmLead.parseUUID codec "lead_id" leadID
    let markedBy ← CrmLead.parseUUID codec "marked_by_membership_id" markedBy
    return .crmReminderMarkedSentV1 reminderID tenantID leadID markedBy at_
  | .cancelled reminderID tenantID leadID cancelledBy reason at_ => do
    let reminderID ← CrmLead.parseUUID codec "reminder_id" reminderID
    let tenantID ← CrmLead.parseUUID codec "tenant_id" tenantID
    let leadID ← CrmLead.parseUUID codec "lead_id" leadID
    let cancelledBy ← CrmLead.parseUUID codec "cancelled_by_membership_id" cancelledBy
    return .crmReminderCancelledV1 reminderID tenantID leadID cancelledBy reason at_

def mapDomainEvents (events : List Event) : Except Err (List IntegrationEvent) :=
  events.mapM (fromDomainEvent codec)

end

def IntegrationEvent.endOf : IntegrationEvent → Option UUID
  | crmReminderMarkedSentV1 reminderID .. | crmReminderCancelledV1 reminderID .. => some reminderID
  | crmReminderCreatedV1 .. => none

end Reminder

end Leadkart
