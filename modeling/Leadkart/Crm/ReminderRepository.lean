import Leadkart.Crm.CrmLeadRepository
import Leadkart.Crm.Reminder
import Leadkart.Logic.UpdateBy

/-!
# The repository of reminders
-/

namespace Leadkart.Reminder

open Effect

structure Row where
  (id tenantID leadID assignedTo : UUID)
  (createdBy sourceCallLogID : Option UUID := none)
  (rtype state : String)
  dueAt : Time
  notes : String := ""
  sentAt : Option Time := none
  markedSentBy : Option UUID := none
  cancelledAt : Option Time := none
  cancelledBy : Option UUID := none
  cancelReason : String := ""
  createdAt : Time
  deriving DecidableEq

def Row.callbackSource (r : Row) : Bool :=
  (r.rtype = "callback" && r.sourceCallLogID.isSome) ||
    (r.rtype ≠ "callback" && r.sourceCallLogID.isNone)

def Row.stateCoherent (r : Row) : Bool :=
  (r.state ≠ "sent" || (r.sentAt.isSome && r.markedSentBy.isSome)) &&
    (r.state ≠ "cancelled" ||
      (r.cancelledAt.isSome && r.cancelledBy.isSome && 0 < r.cancelReason.length))

def pkey : UniqueIndex Row where
  name := "reminders_pkey"
  Key := UUID
  key r := some r.id

def uqCallbackPending : UniqueIndex Row where
  name := "uq_crm_reminders_callback_pending"
  Key := UUID × UUID
  key r :=
    if r.rtype = "callback" && r.state = "pending" then
      r.sourceCallLogID.map fun call => (r.tenantID, call)
    else none

def uqMaturePending : UniqueIndex Row where
  name := "uq_crm_reminders_mature_pending"
  Key := UUID × UUID
  key r :=
    if r.rtype = "mature_lead" && r.state = "pending" then some (r.tenantID, r.leadID) else none

def reminders (codec : UuidCodec) : SqlRelation Row where
  policies := App.tenantPolicies codec Row.tenantID
  constraints :=
    [Sql.check "chk_crm_reminders_callback_source" Row.callbackSource,
      Sql.check "chk_crm_reminders_state_coherent" Row.stateCoherent,
      Sql.check "reminders_cancel_reason_check" fun r => r.cancelReason.length ≤ 1000,
      Sql.check "reminders_notes_check" fun r => r.notes.length ≤ 2000,
      Sql.check "reminders_state_check" fun r => r.state ∈ ["pending", "sent", "cancelled"],
      Sql.check "reminders_type_check" fun r => r.rtype ∈ ["callback", "mature_lead", "manual"]]
  indexes := [pkey, uqCallbackPending, uqMaturePending]

structure OutboxMessage where
  tenantID : UUID
  event : IntegrationEvent

structure Store (codec : UuidCodec) where
  crm : CrmLead.Store codec := {}
  reminders : (reminders codec).Rows := {}
  outbox : List OutboxMessage := []

def rowToReminder (codec : UuidCodec) (row : Row) : Except Err Reminder := do
  let stored (name raw : String) (e : Err) : Err :=
    ⟨e.sentinel, "crm reminder repo: stored " ++ name ++ " " ++ raw ++ " invalid: " ++ e.detail⟩
  let rtype ← (parseType row.rtype).mapError (stored "type" row.rtype)
  let state ← (parseState row.state).mapError (stored "state" row.state)
  return {
    id := codec.string row.id
    tenantID := codec.string row.tenantID
    leadID := codec.string row.leadID
    assignedTo := codec.string row.assignedTo
    createdBy := codec.uuidStringIfValid row.createdBy
    sourceCallLogID := codec.uuidStringIfValid row.sourceCallLogID
    rtype, state
    dueAt := row.dueAt
    notes := row.notes
    sentAt := timeFromPg row.sentAt
    markedSentBy := codec.uuidStringIfValid row.markedSentBy
    cancelledAt := timeFromPg row.cancelledAt
    cancelledBy := codec.uuidStringIfValid row.cancelledBy
    cancelReason := row.cancelReason
    createdAt := row.createdAt }

def parseID (codec : UuidCodec) (name raw : String) : Except Err UUID :=
  codec.parseOr ("crm reminder repo: parse " ++ name ++ " ") raw

def rowOf (codec : UuidCodec) (r : Reminder) : Except Err Row := do
  let rid ← parseID codec "id" r.id
  let tid ← parseID codec "tenant id" r.tenantID
  let lid ← parseID codec "lead id" r.leadID
  let assignedTo ← parseID codec "assigned_to membership id" r.assignedTo
  return {
    id := rid
    tenantID := tid
    leadID := lid
    assignedTo
    createdBy := codec.pgUUIDOptStr r.createdBy
    sourceCallLogID := codec.pgUUIDOptStr r.sourceCallLogID
    rtype := r.rtype.string
    state := r.state.string
    dueAt := r.dueAt
    notes := r.notes
    sentAt := pgTimestamp r.sentAt
    markedSentBy := codec.pgUUIDOptStr r.markedSentBy
    cancelledAt := pgTimestamp r.cancelledAt
    cancelledBy := codec.pgUUIDOptStr r.cancelledBy
    cancelReason := r.cancelReason
    createdAt := r.createdAt }

def updateParams (codec : UuidCodec) (r : Reminder) (row : Row) : Row :=
  { row with
    state := r.state.string
    sentAt := pgTimestamp r.sentAt
    markedSentBy := codec.pgUUIDOptStr r.markedSentBy
    cancelledAt := pgTimestamp r.cancelledAt
    cancelledBy := codec.pgUUIDOptStr r.cancelledBy
    cancelReason := r.cancelReason }

abbrev Tx := Pg.Tx Row

abbrev Conn := Pg.Conn Row

section

variable (codec : UuidCodec)

abbrev Repo (α : Type) := Effect (Store codec) Err α

variable {codec}

def hasID (id : UUID) (r : Row) : Bool := r.id = id

def loadReminder (tx : Tx) (id : String) : Repo codec Reminder := Effect.query fun s => do
  let rid ← parseID codec "id" id
  let row ← Pg.queryRow "crm reminder repo: get by id: " ⟨errNotFound, ""⟩
    ((reminders codec).select tx.settings tx.plan (hasID rid) s.reminders)
  rowToReminder codec row

def insertError (e : SqlError) : Err :=
  if e.state = .uniqueViolation then ⟨errAlreadyExists, ""⟩
  else Pg.wrapped "crm reminder repo: insert: " e

def insertRow (tx : Tx) (row : Row) (s : Store codec) : Except SqlError (Store codec) := do
  let rows ← (reminders codec).insert tx.settings row s.reminders
  Sql.foreignKey "fk_crm_reminders_lead"
    (s.crm.leads.rows.any fun l => l.id = row.leadID && l.tenantID = row.tenantID)
  return { s with reminders := rows }

def insertReminderRow (tx : Tx) (r : Reminder) : Repo codec Unit := write fun s => do
  let row ← rowOf codec r
  (insertRow tx row s).mapError insertError

def persistReminderState (tx : Tx) (r : Reminder) : Repo codec Unit := write fun s => do
  let rid ← parseID codec "id" r.id
  let rows ← ((reminders codec).update tx.settings tx.plan (hasID rid) (updateParams codec r)
    s.reminders).mapError (Pg.wrapped "")
  return { s with reminders := rows }

def drainReminderEvents (r : Reminder) : Repo codec Unit :=
  if r.events = [] then pure ()
  else write fun s => do
    let tid ← parseID codec "tenant id" r.tenantID
    let mapped ← (mapDomainEvents codec r.events).mapError fun e =>
      ⟨e.sentinel, "crm reminder repo: map events: " ++ e.detail⟩
    return { s with outbox := s.outbox ++ mapped.map (OutboxMessage.mk tid) }

abbrev UpdateFn := Reminder → Reminder × Except Err Bool

def addOnTx (tx : Tx) (r : Reminder) : Repo codec Unit := do
  insertReminderRow tx r
  drainReminderEvents r

def add (conn : Conn) (r : Reminder) : Repo codec Unit :=
  Pg.withinTx conn r.tenantID fun tx => addOnTx tx r

def storeOnTx (tx : Tx) (r : Reminder) : Repo codec Unit := do
  persistReminderState tx r
  drainReminderEvents r

end

open SqlRelation

variable {codec : UuidCodec} {T rid : UUID} {tenantID id : String} {tx : Tx} {s s' : Store codec}
  {row : Row} {r : Reminder}

theorem clash_iff {a b : Row} : (reminders codec).Clash a b ↔
    pkey.Clash a b ∨ uqCallbackPending.Clash a b ∨ uqMaturePending.Clash a b := by
  simp [SqlRelation.Clash, reminders]

def Bound (codec : UuidCodec) (T : UUID) (tx : Tx) : Prop :=
  Confines (reminders codec) Row.tenantID T tx.settings

theorem bound_tx (hT : codec.input tenantID = some T) (conn : Conn) :
    Bound codec T (conn.tx tenantID) :=
  App.confines_tenantPolicies rfl hT conn

def reminderOf (T id : UUID) (s : Store codec) : Option Row :=
  s.reminders.find? fun row => decide (row.tenantID = T) && hasID id row

theorem reminderOf_ids (h : reminderOf T rid s = some row) : row.tenantID = T ∧ row.id = rid := by
  have hp := (Table.mem_of_find? h).2
  rw [Bool.and_eq_true, decide_eq_true_iff] at hp
  exact ⟨hp.1, of_decide_eq_true hp.2⟩

theorem loadReminder_eq_ok (htx : Bound codec T tx) (hid : codec.parse id = some rid) :
    (loadReminder tx id).look s = .ok r ↔
    ∃ row, reminderOf T rid s = some row ∧ rowToReminder codec row = .ok r := by
  unfold loadReminder parseID
  rw [look_query, UuidCodec.parseOr_ok hid]
  show (Pg.queryRow _ _ ((reminders codec).select tx.settings tx.plan (hasID rid) s.reminders) >>=
    fun row => rowToReminder codec row) = _ ↔ _
  rw [Pg.queryRow_confined htx]
  unfold reminderOf
  rcases s.reminders.find? fun row => decide (row.tenantID = T) && hasID rid row with _ | row
  · exact ⟨fun h => (nomatch h), fun ⟨_, h, _⟩ => (nomatch h)⟩
  · exact ⟨fun h => ⟨row, rfl, h⟩, fun ⟨_, h, hr⟩ => Option.some.inj h ▸ hr⟩

theorem rowToReminder_eq_ok (h : rowToReminder codec row = .ok r) :
    r.id = codec.string row.id ∧ r.events = [] ∧ parseState row.state = .ok r.state := by
  obtain ⟨rtype, -, h⟩ := except_bind_ok h
  obtain ⟨state, hstate, h⟩ := except_bind_ok h
  cases h
  exact ⟨rfl, rfl, except_mapError_ok hstate⟩

theorem persistReminderState_eq_ok (htx : Bound codec T tx) (hid : codec.parse r.id = some rid)
    (h : (persistReminderState tx r).run s = (.ok (), s')) :
    reminderOf T rid s' = (reminderOf T rid s).map (updateParams codec r) ∧
    s'.outbox = s.outbox := by
  have hw := write_eq_ok.mp h
  unfold parseID at hw
  rw [UuidCodec.parseOr_ok hid] at hw
  simp only [except_bind_eq_ok] at hw
  obtain ⟨_, ⟨⟩, rows, hu, hw⟩ := hw
  cases hw
  have ho : ∀ row, (updateParams codec r row).tenantID = row.tenantID := fun _ => rfl
  exact ⟨update_find? htx ho (fun _ hrow => hrow) (except_mapError_ok hu), rfl⟩

theorem drainReminderEvents_eq_ok (h : (drainReminderEvents r).run s = (.ok (), s')) :
    ∃ messages, mapDomainEvents codec r.events = .ok (messages.map OutboxMessage.event) ∧
    s' = { s with outbox := s.outbox ++ messages } := by
  unfold drainReminderEvents at h
  split at h
  next hn =>
    obtain ⟨-, rfl⟩ := pure_eq_ok.mp h
    refine ⟨[], ?_, by rw [List.append_nil]⟩
    rw [hn]
    rfl
  next =>
    obtain ⟨tid, -, h⟩ := except_bind_ok (write_eq_ok.mp h)
    obtain ⟨mapped, hm, h⟩ := except_bind_ok h
    cases h
    refine ⟨mapped.map (OutboxMessage.mk tid), ?_, rfl⟩
    rw [except_mapError_ok hm, List.map_map]
    exact congrArg Except.ok (List.map_id mapped).symm

end Leadkart.Reminder
