import Leadkart.Crm.LeadCommands
import Leadkart.Crm.ReminderCommands
import Leadkart.Logic.Process

/-!
# Callback reminders of logged calls
-/

namespace Leadkart

open Effect

structure CrmCallLoggedV1 where
  (callID leadID tenantIDClaim loggedBy : UUID)
  callbackWindowStartAt : Time
  callbackWindowEndAt : Time := 0

namespace Reminder

open Process

structure CreateReminderCommand where
  (tenantID leadID assignedTo : String)
  (createdBy sourceCallLogID : String := "")
  rtype : ReminderType
  dueAt : Time
  notes : String

structure CreateReminderResult where
  reminderID : String := ""
  alreadyExisted : Bool := false

structure Draws where
  leadConn : CrmLead.Conn
  conn : Conn
  now : Time
  newReminderID : String

section Create

variable (codec : UuidCodec)

def buildReminder (id : String) (cmd : CreateReminderCommand) (now : Time) : Except Err Reminder :=
  match cmd.rtype with
  | .callback => newCallbackReminder codec id cmd.tenantID cmd.leadID cmd.assignedTo cmd.createdBy
      cmd.sourceCallLogID cmd.dueAt cmd.notes now
  | .matureLead =>
    newMatureLeadReminder codec id cmd.tenantID cmd.leadID cmd.assignedTo cmd.dueAt cmd.notes now
  | .manual => newManualReminder codec id cmd.tenantID cmd.leadID cmd.assignedTo cmd.createdBy
      cmd.dueAt cmd.notes now

def CreateReminderCommand.checks (cmd : CreateReminderCommand) : Except Err Unit := do
  requireTexts "crm create_reminder" [("tenant id", cmd.tenantID), ("lead id", cmd.leadID),
    ("assigned-to membership id", cmd.assignedTo)]
  if cmd.dueAt.isZero then .error (.foreign "crm create_reminder: due_at required") else .ok ()

def loadLeadError (e : Err) : Err :=
  if e.is CrmLead.errNotFound then ⟨CrmLead.errLeadNotFound, ""⟩
  else e.wrap "crm create_reminder: load lead: "

variable {codec}

def onLeads {α : Type} (x : CrmLead.Repo codec α) : Repo codec α :=
  zoom Store.crm (fun crm s => { s with crm }) x

def added (r : Reminder) : Except Err Unit → Except Err CreateReminderResult
  | .ok () => .ok ⟨r.id, false⟩
  | .error e =>
    if e.is errAlreadyExists then .ok ⟨"", true⟩ else .error (e.wrap "crm create_reminder: persist: ")

def createReminder (d : Draws) (cmd : CreateReminderCommand) :
    Process (Store codec) Err CreateReminderResult := do
  done cmd.checks
  let _ ← (perform (onLeads (CrmLead.getByID d.leadConn cmd.tenantID cmd.leadID))).mapError
    loadLeadError
  let r ← done ((buildReminder codec d.newReminderID cmd d.now).mapError
    (Err.wrap "crm create_reminder: factory: "))
  let answer ← attempt (perform (add d.conn r))
  done (added r answer)

-- `time.Time.Format` with a layout.
variable (format : String → Time → String)

def rfc3339 : String := "2006-01-02T15:04:05Z07:00"

def hhmm : String := "15:04"

def short (codec : UuidCodec) (id : UUID) : String := String.ofList ((codec.string id).toList.take 8)

def callbackReminderNotes (codec : UuidCodec) (evt : CrmCallLoggedV1) : String :=
  if evt.callbackWindowEndAt.isZero then
    "callback requested at " ++ format rfc3339 evt.callbackWindowStartAt ++ " (call " ++
      short codec evt.callID ++ ")"
  else
    "callback window " ++ format hhmm evt.callbackWindowStartAt ++ "–" ++
      format hhmm evt.callbackWindowEndAt ++ " (call " ++ short codec evt.callID ++ ")"

def callbackCommand (codec : UuidCodec) (evt : CrmCallLoggedV1) : CreateReminderCommand where
  tenantID := codec.string evt.tenantIDClaim
  leadID := codec.string evt.leadID
  assignedTo := codec.string evt.loggedBy
  sourceCallLogID := codec.string evt.callID
  rtype := .callback
  dueAt := evt.callbackWindowStartAt
  notes := callbackReminderNotes format codec evt

def createCallbackReminder (evt : CrmCallLoggedV1) (d : Draws) : Process (Store codec) Err Unit :=
  if evt.callbackWindowStartAt.isZero then pure ()
  else do
    let _ ← (createReminder d (callbackCommand format codec evt)).mapError
      (Err.wrap "crm subscribers: create callback reminder: ")

end Create

variable {codec : UuidCodec}

def Command.calls (c : Command) : Process (Store codec) Err Unit := do
  done c.checks
  (updateBy (loadReminder (c.conn.tx c.tenantID) c.reminderID) (c.transition.updateFn codec c.now)
    (storeOnTx (c.conn.tx c.tenantID))).mapError mapReminderError

theorem readOnly_loadReminder (tx : Tx) (id : String) :
    Effect.ReadOnly (loadReminder tx id : Repo codec Reminder) := fun _ => keeps_query _

/-! ## The reminders of a call -/

def Row.isCallbackOf (evt : CrmCallLoggedV1) (r : Row) : Bool :=
  r.tenantID = evt.tenantIDClaim && r.rtype = "callback" && r.sourceCallLogID = some evt.callID

def callbacks (evt : CrmCallLoggedV1) (s : Store codec) : List Row :=
  s.reminders.rows.filter (Row.isCallbackOf evt)

structure Delivered (evt : CrmCallLoggedV1) (s s' : Store codec) : Prop where
  once : (callbacks evt s').length ≤ 1
  kept : callbacks evt s ⊆ callbacks evt s'

def Clear (evt : CrmCallLoggedV1) (n : Nat) (s : Store codec) : Prop :=
  n = 1 → ∀ r ∈ callbacks evt s, r.state = "pending"

instance (evt : CrmCallLoggedV1) (n : Nat) (s : Store codec) : Decidable (Clear evt n s) :=
  inferInstanceAs (Decidable (_ → _))

def Found (evt : CrmCallLoggedV1) (n : Nat) (s : Store codec) : Prop :=
  (callbacks evt s).length ≤ 1 ∧ Clear evt n s

variable {evt : CrmCallLoggedV1} {s s' : Store codec} {r : Reminder} {tx : Tx}

theorem delivered_refl (n : Nat) (s : Store codec) (h : Found evt n s) : Delivered evt s s :=
  ⟨h.1, List.Subset.refl _⟩

theorem drainReminderEvents_reminders (h : (drainReminderEvents r).run s = (.ok (), s')) :
    s'.reminders = s.reminders := by
  obtain ⟨messages, -, rfl⟩ := drainReminderEvents_eq_ok h
  rfl

theorem addOnTx_eq_ok (h : (addOnTx tx r).run s = (.ok (), s')) :
    ∃ row, rowOf codec r = .ok row ∧ s.reminders.insert row = some s'.reminders := by
  obtain ⟨⟨⟩, s₁, hi, hd⟩ := bind_eq_ok.mp h
  obtain ⟨row, hrow, hi⟩ := except_bind_ok (write_eq_ok.mp hi)
  obtain ⟨rows, hr, hi⟩ := except_bind_ok (except_mapError_ok hi)
  obtain ⟨_, -, hi⟩ := except_bind_ok hi
  cases hi
  rw [drainReminderEvents_reminders hd]
  exact ⟨row, hrow, SqlRelation.insert_eq_ok hr⟩

variable {id : String} {now : Time}

theorem rowOf_key (hc : codec.Lawful) {format : String → Time → String} {row : Row}
    (hr : buildReminder codec id (callbackCommand format codec evt) now = .ok r)
    (hrow : rowOf codec r = .ok row) :
    uqCallbackPending.key row = some (evt.tenantIDClaim, evt.callID) := by
  obtain ⟨_, -, hr⟩ := except_bind_ok hr
  obtain ⟨-, ht, hca, hty, hstate⟩ := newReminder_eq_ok hr
  simp only [rowOf, except_bind_eq_ok] at hrow
  obtain ⟨_, -, tid, hti, _, -, _, -, hrow⟩ := hrow
  cases hrow
  obtain rfl : evt.tenantIDClaim = tid := by
    have hp := UuidCodec.parse_of_parseOr hti
    rw [ht] at hp
    exact Option.some.inj ((hc.parse_string _).symm.trans hp)
  have hs : codec.pgUUIDOptStr r.sourceCallLogID = some evt.callID := by
    rw [hca]
    exact UuidCodec.pgUUIDOptStr_of_parse hc (hc.parse_string _)
  simp [uqCallbackPending, hty, hstate, ReminderType.string, State.string, hs]

theorem key_of_callback {row : Row} (hrow : row.isCallbackOf evt = true)
    (hp : row.state = "pending") :
    uqCallbackPending.key row = some (evt.tenantIDClaim, evt.callID) := by
  unfold Row.isCallbackOf at hrow
  simp only [Bool.and_eq_true, decide_eq_true_iff] at hrow
  obtain ⟨⟨ht, hty⟩, hc⟩ := hrow
  simp [uqCallbackPending, ht, hty, hp, hc]

theorem delivered_add (hco : codec.Lawful) {format : String → Time → String} {conn : Conn}
    (hr : buildReminder codec id (callbackCommand format codec evt) now = .ok r)
    (ho : (callbacks evt s).length ≤ 1) (hcl : ∀ row ∈ callbacks evt s, row.state = "pending") :
    Delivered evt s ((add conn r).run s).2 := by
  refine Pg.withinTx_leaves ⟨ho, List.Subset.refl _⟩ fun _ s' ha => ?_
  obtain ⟨row, hrow, hi⟩ := addOnTx_eq_ok ha
  have hch : ∀ q ∈ s.reminders, q.isCallbackOf evt = true → (reminders codec).Clash q row := by
    intro q hq hc
    have hk := key_of_callback hc (hcl q (List.mem_filter.mpr ⟨hq, hc⟩))
    refine clash_iff.mpr (.inr (.inl ?_))
    rw [UniqueIndex.Clash, hk, rowOf_key hco hr hrow]
    exact ⟨Option.some_ne_none _, rfl⟩
  obtain ⟨he, hle⟩ := Table.filter_insert hi hch
  refine ⟨hle, ?_⟩
  unfold callbacks
  rw [he]
  exact List.nil_subset _

theorem readOnly_lead (conn : CrmLead.Conn) (tenantID id : String) :
    Effect.ReadOnly (onLeads (CrmLead.getByID conn tenantID id) : Repo codec CrmLead) := by
  have hl : Effect.ReadOnly (CrmLead.getByID conn tenantID id : CrmLead.Repo codec CrmLead) :=
    fun _ => Pg.keeps_withinTxPgxTenant (keeps_query _)
  intro s t ht
  show { t with crm := _ } = s
  rw [hl.run_eq t.crm]
  exact ht

theorem wp_createReminder (hc : codec.Lawful) (format : String → Time → String) (d : Draws) :
    wp (Found evt) (Delivered evt) (fun _ _ => True) 0
    (createReminder d (callbackCommand format codec evt) :
    Process (Store codec) Err CreateReminderResult) := by
  refine wp_bind (wp_done (fun _ _ => ?_) fun _ => trivial)
  refine wp_bind (wp_mapError (wp_read delivered_refl (readOnly_lead _ _ _) fun s _ => ?_))
  cases (onLeads (CrmLead.getByID d.leadConn (callbackCommand format codec evt).tenantID
    (callbackCommand format codec evt).leadID) : Repo codec CrmLead).look s with
  | error e => trivial
  | ok lead =>
    refine wp_bind (wp_done (fun r hr => ?_) fun _ => trivial)
    refine wp_bind (wp_attempt (wp_perform fun s hs => ⟨?_, trivial⟩))
    exact delivered_add hc (except_mapError_ok hr) hs.1 (hs.2 rfl)

theorem wp_createCallbackReminder (hc : codec.Lawful) (format : String → Time → String)
    (d : Draws) : wp (Found evt) (Delivered evt) (fun _ _ => True) 0
    (createCallbackReminder format evt d : Process (Store codec) Err Unit) := by
  unfold createCallbackReminder
  split
  · trivial
  · refine wp_bind (wp_mapError (wp_mono (fun r _ _ => ?_) (wp_createReminder hc format d)))
    cases r <;> trivial

theorem length_callbacks_store (tx : Tx) (r : Reminder) (s : Store codec) :
    (callbacks evt ((atomic (storeOnTx tx r)).run s).2).length = (callbacks evt s).length := by
  rcases hru : (atomic (storeOnTx tx r)).run s with ⟨e | ⟨⟩, s'⟩
  · rw [atomic_eq_error hru]
  · obtain ⟨⟨⟩, s₁, hp, hd⟩ := bind_eq_ok.mp (atomic_eq_ok.mp hru)
    obtain ⟨_, -, hp⟩ := except_bind_ok (write_eq_ok.mp hp)
    obtain ⟨rows, hr, hp⟩ := except_bind_ok hp
    cases hp
    obtain ⟨hit, hu⟩ := SqlRelation.update_eq_ok (except_mapError_ok hr)
    unfold callbacks
    rw [drainReminderEvents_reminders hd]
    exact Table.length_filter_update hu fun _ => rfl

theorem Command.wp_calls (c : Command) (evt : CrmCallLoggedV1) :
    wp (fun _ _ => True) (fun s s' => (callbacks evt s').length = (callbacks evt s).length)
    (fun _ _ => True) 0 (c.calls : Process (Store codec) Err Unit) := by
  refine wp_bind (wp_done (fun _ _ => ?_) fun _ => trivial)
  refine wp_mapError (wp_mono (fun r _ _ => ?_) (wp_updateBy (fun _ _ _ => rfl)
    (readOnly_loadReminder _ _) fun r s _ => length_callbacks_store _ r s))
  cases r <;> trivial

end Reminder

end Leadkart
