import Leadkart.Crm.Callbacks
import Leadkart.Tasks.WorkItemCommands

/-!
# Callbacks of logged calls
-/

namespace Leadkart

open Effect Process

namespace WorkItem

structure Draws where
  (lookupConn updateConn addConn existingConn : Conn)
  (completedAt now : Time)
  newWorkItemID : String

section

variable {codec : UuidCodec}

def Command.update (c : Command) : Process (Store codec) Err Unit :=
  (updateBy (loadWorkItem (c.conn.tx c.tenantID) c.workItemID)
    (c.action.transition.updateFn codec c.now) c.store).mapError mapErr

def Command.calls (c : Command) : Process (Store codec) Err Unit := do
  done c.checks
  c.update

structure AutoCompleteBySourceResult where
  workItemID : String := ""
  noMatch : Bool := false

def completion (d : Draws) (tenantID sourceEntityType sourceEntityID actorID : String)
    (workItemID : String) : Command where
  tenantID := tenantID
  workItemID := workItemID
  action := .autoComplete sourceEntityType sourceEntityID actorID
  conn := d.updateConn
  now := d.completedAt

def completeFound (c : String → Command) :
    Except Err WorkItem → Process (Store codec) Err AutoCompleteBySourceResult
  | .ok w => do
    (c w.id).update
    return ⟨w.id, false⟩
  | .error e =>
    if e.is errNotFound then return ⟨"", true⟩ else fail (e.wrap "tasks auto_complete: lookup: ")

def autoCompleteBySource (d : Draws) (tenantID sourceEntityType sourceEntityID actorID : String) :
    Process (Store codec) Err AutoCompleteBySourceResult := do
  let c := completion d tenantID sourceEntityType sourceEntityID actorID
  -- The checks do not look at the id of the item.
  done (c "").checks
  let found ← attempt (perform
    (getOpenBySource d.lookupConn tenantID sourceEntityType sourceEntityID))
  completeFound c found

structure AutoCreateFromCallLogCommand where
  (tenantID callLogID loggedBy : String)
  callbackAt : Time
  leadContactName : String := ""

structure AutoCreateFromCallLogResult where
  workItemID : String := ""
  alreadyExisted : Bool := false

namespace AutoCreateFromCallLogCommand

def checks (cmd : AutoCreateFromCallLogCommand) : Except Err Unit := do
  requireTexts "tasks auto_create_call" [("tenant id", cmd.tenantID),
    ("call_log id", cmd.callLogID), ("logged-by membership id", cmd.loggedBy)]
  if cmd.callbackAt.isZero then .error (.foreign "tasks auto_create_call: callback_at required")
  else .ok ()

def title (cmd : AutoCreateFromCallLogCommand) : String :=
  if cmd.leadContactName ≠ "" then "Callback: " ++ cmd.leadContactName else "Callback reminder"

def item (codec : UuidCodec) (d : Draws) (cmd : AutoCreateFromCallLogCommand) :
    Except Err WorkItem :=
  newAutoCreated codec
    { id := d.newWorkItemID
      tenantID := cmd.tenantID
      itype := .callbackReminder
      priority := .high
      title := cmd.title
      assignedTo := cmd.loggedBy
      assignedBy := cmd.loggedBy
      createdBy := cmd.loggedBy
      dueAt := cmd.callbackAt
      now := d.now }
    ⟨"crm", "call_log", cmd.callLogID⟩

end AutoCreateFromCallLogCommand

def existingID : Except Err WorkItem → AutoCreateFromCallLogResult
  | .ok existing => ⟨existing.id, true⟩
  | .error _ => ⟨"", true⟩

def itemAdded (d : Draws) (cmd : AutoCreateFromCallLogCommand) (w : WorkItem) :
    Except Err Unit → Process (Store codec) Err AutoCreateFromCallLogResult
  | .ok () => return ⟨w.id, false⟩
  | .error e =>
    if e.is errAlreadyExistsForSource then do
      let existing ← attempt (perform
        (getOpenBySource d.existingConn cmd.tenantID "call_log" cmd.callLogID))
      return existingID existing
    else fail (e.wrap "tasks auto_create_call: persist: ")

def autoCreateFromCallLog (d : Draws) (cmd : AutoCreateFromCallLogCommand) :
    Process (Store codec) Err AutoCreateFromCallLogResult := do
  done cmd.checks
  let w ← done ((cmd.item codec d).mapError (Err.wrap "tasks auto_create_call: factory: "))
  let answer ← attempt (perform (add d.addConn w))
  itemAdded d cmd w answer

def callbackCommand (codec : UuidCodec) (evt : CrmCallLoggedV1) : AutoCreateFromCallLogCommand where
  tenantID := codec.string evt.tenantIDClaim
  callLogID := codec.string evt.callID
  loggedBy := codec.string evt.loggedBy
  callbackAt := evt.callbackWindowStartAt

def handleCallLogged (evt : CrmCallLoggedV1) (d : Draws) : Process (Store codec) Err Unit := do
  let _ ← (autoCompleteBySource d (codec.string evt.tenantIDClaim) "call_log"
    (codec.string evt.callID) (codec.string evt.loggedBy)).mapError
      (Err.wrap "tasks subscribers: auto-complete: ")
  if evt.callbackWindowStartAt.isZero then return ()
  else
    let _ ← (autoCreateFromCallLog d (callbackCommand codec evt)).mapError
      (Err.wrap "tasks subscribers: auto-create callback: ")

end

variable {codec : UuidCodec}

def Row.isItemOf (codec : UuidCodec) (evt : CrmCallLoggedV1) (r : Row) : Bool :=
  r.tenantID = evt.tenantIDClaim && r.sourceEntityType = some "call_log" &&
    r.sourceEntityID = some (codec.string evt.callID)

def Row.isOpen (r : Row) : Bool := r.stateOpen && !r.isDeleted

def callItems (evt : CrmCallLoggedV1) (s : Store codec) : List Row :=
  s.workItems.rows.filter (Row.isItemOf codec evt)

structure Delivered (evt : CrmCallLoggedV1) (s s' : Store codec) : Prop where
  once : (callItems evt s').length ≤ 1
  kept : callItems evt s ⊆ callItems evt s'

def Clear (evt : CrmCallLoggedV1) (n : Nat) (s : Store codec) : Prop :=
  (n = 0 → ∀ r ∈ callItems evt s, r.isOpen = false) ∧
    (n = 1 → ∀ r ∈ callItems evt s, r.isOpen = true)

instance (evt : CrmCallLoggedV1) (n : Nat) (s : Store codec) : Decidable (Clear evt n s) :=
  inferInstanceAs (Decidable (_ ∧ _))

def Found (evt : CrmCallLoggedV1) (n : Nat) (s : Store codec) : Prop :=
  (callItems evt s).length ≤ 1 ∧ Clear evt n s

variable {evt : CrmCallLoggedV1} {s s' : Store codec} {w : WorkItem} {tx : Tx}

theorem delivered_refl (n : Nat) (s : Store codec) (h : Found evt n s) : Delivered evt s s :=
  ⟨h.1, List.Subset.refl _⟩

theorem isItemOf_iff {r : Row} : r.isItemOf codec evt = true ↔
    r.tenantID = evt.tenantIDClaim ∧ r.sourceEntityType = some "call_log" ∧
    r.sourceEntityID = some (codec.string evt.callID) := by
  unfold Row.isItemOf
  simp only [Bool.and_eq_true, decide_eq_true_iff, and_assoc]

theorem openSource_iff {r : Row} :
    (openSource "call_log" (codec.string evt.callID) r = true ∧ r.tenantID = evt.tenantIDClaim) ↔
    r.isItemOf codec evt = true ∧ r.isOpen = true := by
  rw [isItemOf_iff]
  unfold openSource Row.isOpen
  simp only [Bool.and_eq_true, decide_eq_true_iff]
  tauto

theorem drainWorkItemEvents_workItems (h : (drainWorkItemEvents w).run s = (.ok (), s')) :
    s'.workItems = s.workItems := by
  obtain ⟨messages, -, rfl⟩ := drainWorkItemEvents_eq_ok h
  rfl

theorem readOnly_loadWorkItem (tx : Tx) (id : String) :
    Effect.ReadOnly (loadWorkItem tx id : Repo codec WorkItem) := fun _ => keeps_query _

theorem length_callItems_store (c : Command) (w : WorkItem) (s : Store codec) :
    (callItems evt ((atomic (c.store w)).run s).2).length = (callItems evt s).length := by
  rcases hru : (atomic (c.store w)).run s with ⟨e | ⟨⟩, s'⟩
  · rw [atomic_eq_error hru]
  · obtain ⟨⟨⟩, s₁, hp, hd⟩ := bind_eq_ok.mp (atomic_eq_ok.mp hru)
    obtain ⟨_, -, hr⟩ := except_bind_ok (writeRows_eq_ok hp).1
    obtain ⟨hit, hu⟩ := SqlRelation.update_eq_ok (except_mapError_ok hr)
    unfold callItems
    rw [drainWorkItemEvents_workItems hd]
    exact Table.length_filter_update hu fun _ => rfl

theorem Command.wp_calls (c : Command) (evt : CrmCallLoggedV1) :
    wp (fun _ _ => True) (fun s s' => (callItems evt s').length = (callItems evt s).length)
    (fun _ _ => True) 0 (c.calls : Process (Store codec) Err Unit) := by
  refine wp_bind (wp_done (fun _ _ => ?_) fun _ => trivial)
  refine wp_mapError (wp_mono (fun r _ _ => ?_) (wp_updateBy (fun _ _ _ => rfl)
    (readOnly_loadWorkItem _ _) fun w s _ => length_callItems_store c w s))
  cases r <;> trivial

theorem readOnly_getOpenBySource (conn : Conn) (tenantID e en : String) :
    Effect.ReadOnly (getOpenBySource conn tenantID e en : Repo codec WorkItem) := by
  intro s
  unfold getOpenBySource
  split
  · exact keeps_ofExcept _
  · exact Pg.keeps_withinTxPgxTenant (keeps_query _)

theorem getOpenBySource_none (hc : codec.Lawful) (conn : Conn)
    (h : ∀ r ∈ callItems evt s, r.isOpen = false) :
    (getOpenBySource conn (codec.string evt.tenantIDClaim) "call_log"
    (codec.string evt.callID)).look s = .error ⟨errNotFound, ""⟩ := by
  have hb := bound_tx (hc.input_string evt.tenantIDClaim) conn
  have hnone : (s.workItems.rows.filter fun r => decide (r.tenantID = evt.tenantIDClaim) &&
      openSource "call_log" (codec.string evt.callID) r) = [] := by
    refine List.filter_eq_nil_iff.mpr fun r hr ho => ?_
    rw [Bool.and_eq_true, decide_eq_true_iff] at ho
    obtain ⟨hit, hi⟩ := openSource_iff.mp ho.symm
    rw [h r (List.mem_filter.mpr ⟨hr, hit⟩)] at hi
    cases hi
  unfold getOpenBySource
  rw [if_neg (by simp [hc.string_ne_empty]), Pg.withinTx_eq (hc.string_ne_empty _),
    look_atomic, look_query, SqlRelation.select_confined hb, hnone]

theorem addOnTx_eq_ok (h : (addOnTx tx w).run s = (.ok (), s')) :
    ∃ lid tid, codec.parse w.tenantID = some tid ∧
    s.workItems.insert (insertParams codec w lid tid) = some s'.workItems := by
  obtain ⟨⟨⟩, s₁, hi, hd⟩ := bind_eq_ok.mp h
  obtain ⟨lid, -, hi⟩ := except_bind_ok (writeRows_eq_ok hi).1
  obtain ⟨tid, ht, hi⟩ := except_bind_ok hi
  rw [drainWorkItemEvents_workItems hd]
  exact ⟨lid, tid, UuidCodec.parse_of_parseOr ht, SqlRelation.insert_eq_ok (except_mapError_ok hi)⟩

theorem item_open (hc : codec.Lawful) {d : Draws}
    (hw : (callbackCommand codec evt).item codec d = .ok w) (lid : UUID) :
    let row := insertParams codec w lid evt.tenantIDClaim
    row.isItemOf codec evt = true ∧ row.isOpen = true := by
  obtain ⟨-, -, hstate, hs⟩ := newAutoCreated_eq_ok hw
  refine ⟨isItemOf_iff.mpr ⟨rfl, ?_, ?_⟩, ?_⟩
  · unfold insertParams
    rw [hs]
    rfl
  · unfold insertParams
    rw [hs]
    exact if_neg (hc.string_ne_empty _)
  · unfold Row.isOpen Row.stateOpen insertParams
    rw [hstate]
    rfl

theorem delivered_add (hc : codec.Lawful) {d : Draws} {conn : Conn}
    (hw : (callbackCommand codec evt).item codec d = .ok w) (hon : (callItems evt s).length ≤ 1)
    (hcl : ∀ r ∈ callItems evt s, r.isOpen = true) : Delivered evt s ((add conn w).run s).2 := by
  refine Pg.withinTx_leaves ⟨hon, List.Subset.refl _⟩ fun _ s' ha => ?_
  obtain ⟨lid, tid, hti, hin⟩ := addOnTx_eq_ok ha
  obtain rfl : evt.tenantIDClaim = tid := by
    rw [(newAutoCreated_eq_ok hw).2.1] at hti
    exact Option.some.inj ((hc.parse_string _).symm.trans hti)
  obtain ⟨hne, hn⟩ := openSource_iff.mpr (item_open hc hw lid)
  have hch : ∀ q ∈ s.workItems, q.isItemOf codec evt = true →
      (workItems codec).Clash q (insertParams codec w lid evt.tenantIDClaim) := by
    intro q hq hi
    obtain ⟨ho, ht⟩ := openSource_iff.mpr ⟨hi, hcl q (List.mem_filter.mpr ⟨hq, hi⟩)⟩
    exact openSource_clash ht hn ho hne
  obtain ⟨he, hle⟩ := Table.filter_insert hin hch
  refine ⟨hle, ?_⟩
  unfold callItems
  rw [he]
  exact List.nil_subset _

theorem wp_autoCompleteBySource (hc : codec.Lawful) (d : Draws) :
    wp (Found evt) (Delivered evt) (fun r n => ∀ a, r = .ok a → n = 1) 0
    (autoCompleteBySource d (codec.string evt.tenantIDClaim) "call_log" (codec.string evt.callID)
    (codec.string evt.loggedBy) : Process (Store codec) Err AutoCompleteBySourceResult) := by
  refine wp_bind (wp_done (fun _ _ => ?_) fun _ => nofun)
  refine wp_bind (wp_attempt (wp_read delivered_refl (readOnly_getOpenBySource _ _ _ _)
    fun s hs => ?_))
  rw [getOpenBySource_none hc d.lookupConn (hs.2.1 rfl)]
  exact fun _ _ => rfl

theorem wp_autoCreateFromCallLog (hc : codec.Lawful) (d : Draws) :
    wp (Found evt) (Delivered evt) (fun _ _ => True) 1
    (autoCreateFromCallLog d (callbackCommand codec evt) :
    Process (Store codec) Err AutoCreateFromCallLogResult) := by
  have ha : ∀ w answer, wp (Found evt) (Delivered evt) (fun _ _ => True) 2
      (itemAdded d (callbackCommand codec evt) w answer : Process (Store codec) Err _) := by
    intro w answer
    unfold itemAdded
    split
    · trivial
    · split
      · refine wp_bind (wp_attempt (wp_read delivered_refl (readOnly_getOpenBySource _ _ _ _) ?_))
        exact fun _ _ => trivial
      · trivial
  refine wp_bind (wp_done (fun _ _ => ?_) fun _ => trivial)
  refine wp_bind (wp_done (fun w hw => ?_) fun _ => trivial)
  refine wp_bind (wp_attempt (wp_perform fun s hs => ⟨?_, ha w _⟩))
  exact delivered_add hc (except_mapError_ok hw) hs.1 (hs.2.2 rfl)

theorem wp_handleCallLogged (hc : codec.Lawful) (d : Draws) :
    wp (Found evt) (Delivered evt) (fun _ _ => True) 0
    (handleCallLogged evt d : Process (Store codec) Err Unit) := by
  refine wp_bind (wp_mapError (wp_mono (fun r n hr => ?_) (wp_autoCompleteBySource hc d)))
  cases r with
  | error e => trivial
  | ok a =>
    obtain rfl := hr a rfl
    split
    · trivial
    · refine wp_bind (wp_mapError (wp_mono (fun r _ _ => ?_) (wp_autoCreateFromCallLog hc d)))
      cases r <;> trivial

end WorkItem

structure CallbackStore (codec : UuidCodec) where
  crm : Reminder.Store codec
  tasks : WorkItem.Store codec

inductive CallbackJob where
  | createReminder (d : Reminder.Draws)
  | reminderCommand (c : Reminder.Command)
  | createWorkItem (d : WorkItem.Draws)
  | workItemCommand (c : WorkItem.Command)

namespace CallbackJob

variable {codec : UuidCodec}

def isDelivery : CallbackJob → Bool
  | createReminder _ | createWorkItem _ => true
  | reminderCommand _ | workItemCommand _ => false

def onCrm (p : Process (Reminder.Store codec) Err Unit) : Process (CallbackStore codec) Err Unit :=
  p.zoom CallbackStore.crm fun crm s => { s with crm }

def onTasks (p : Process (WorkItem.Store codec) Err Unit) : Process (CallbackStore codec) Err Unit :=
  p.zoom CallbackStore.tasks fun tasks s => { s with tasks }

def program (format : String → Time → String) (evt : CrmCallLoggedV1) :
    CallbackJob → Process (CallbackStore codec) Err Unit
  | createReminder d => onCrm (Reminder.createCallbackReminder format evt d)
  | reminderCommand c => onCrm c.calls
  | createWorkItem d => onTasks (WorkItem.handleCallLogged evt d)
  | workItemCommand c => onTasks c.calls

def Clear (evt : CrmCallLoggedV1) (n : Nat) (s : CallbackStore codec) : CallbackJob → Prop
  | createReminder _ => Reminder.Clear evt n s.crm
  | createWorkItem _ => WorkItem.Clear evt n s.tasks
  | reminderCommand _ | workItemCommand _ => True

instance (evt : CrmCallLoggedV1) (n : Nat) (s : CallbackStore codec) (j : CallbackJob) :
    Decidable (j.Clear evt n s) :=
  match j with
  | createReminder _ => inferInstanceAs (Decidable (Reminder.Clear ..))
  | createWorkItem _ => inferInstanceAs (Decidable (WorkItem.Clear ..))
  | reminderCommand _ | workItemCommand _ => .isTrue trivial

end CallbackJob

open Machine

section

variable {codec : UuidCodec} {evt : CrmCallLoggedV1}

structure Once (evt : CrmCallLoggedV1) (s : CallbackStore codec) : Prop where
  reminder : (Reminder.callbacks evt s.crm).length ≤ 1
  item : (WorkItem.callItems evt s.tasks).length ≤ 1

structure Kept (evt : CrmCallLoggedV1) (s s' : CallbackStore codec) : Prop where
  reminders : Reminder.callbacks evt s.crm ⊆ Reminder.callbacks evt s'.crm
  items : WorkItem.callItems evt s.tasks ⊆ WorkItem.callItems evt s'.tasks

theorem CallbackJob.wp_program (hc : codec.Lawful) (format : String → Time → String)
    (j : CallbackJob) : wp (fun n s => Once evt s ∧ j.Clear evt n s)
    (fun s s' => Once evt s' ∧ (j.isDelivery = true → Kept evt s s')) (fun _ _ => True) 0
    (j.program format evt : Process (CallbackStore codec) Err Unit) := by
  cases j with
  | createReminder d =>
    refine wp_zoom (fun n t ht => ⟨ht.1.reminder, ht.2⟩) (fun n t s ht hd => ?_)
      (Reminder.wp_createCallbackReminder hc format d)
    exact ⟨⟨hd.once, ht.1.item⟩, fun _ => ⟨hd.kept, List.Subset.refl _⟩⟩
  | reminderCommand c =>
    refine wp_zoom (fun n t ht => trivial) (fun n t s ht hl => ?_) (c.wp_calls evt)
    exact ⟨⟨hl.trans_le ht.1.reminder, ht.1.item⟩, nofun⟩
  | createWorkItem d =>
    refine wp_zoom (fun n t ht => ⟨ht.1.item, ht.2⟩) (fun n t s ht hd => ?_)
      (WorkItem.wp_handleCallLogged hc d)
    exact ⟨⟨ht.1.reminder, hd.once⟩, fun _ => ⟨List.Subset.refl _, hd.kept⟩⟩
  | workItemCommand c =>
    refine wp_zoom (fun n t ht => trivial) (fun n t s ht hl => ?_) (c.wp_calls evt)
    exact ⟨⟨ht.1.reminder, hl.trans_le ht.1.item⟩, nofun⟩

theorem callback_created_once {ι : Type} [DecidableEq ι] (hcodec : codec.Lawful)
    (format : String → Time → String) (evt : CrmCallLoggedV1) (jobs : ι → CallbackJob)
    {s : CallbackStore codec} (hs : Once evt s) {ls : List ι} {i : ι}
    {st st' : Process.State ι (CallbackStore codec) Err Unit}
    (hC : Along step (Finds fun i n s => (jobs i).Clear evt n s)
    (init (fun i => (jobs i).program format evt) s) (ls ++ [i]))
    (hr : run step (init (fun i => (jobs i).program format evt) s) ls = some st)
    (hstep : step st i = some st') :
    Once evt st'.store ∧ ((jobs i).isDelivery = true → Kept evt st.store st'.store) :=
  (step_wp hs (fun i => (jobs i).wp_program hcodec format) (fun _ _ _ _ h => h.1) hC hr hstep).2

end

def loggedCall : CrmCallLoggedV1 where
  callID := 7
  leadID := 3
  tenantIDClaim := 2
  loggedBy := 5
  callbackWindowStartAt := 100
  callbackWindowEndAt := 0

def callStore : CallbackStore unaryCodec where
  crm := { crm := CrmLead.openLeadStore, reminders := .empty, outbox := [] }
  tasks := { workItems := .empty, outbox := [] }

def deliverToCrm (now : Time) (newReminderID : String) : CallbackJob :=
  .createReminder ⟨{ plan := fun _ _ _ => true }, { plan := fun _ _ _ => true }, now, newReminderID⟩

def deliverToTasks (now : Time) (newWorkItemID : String) : CallbackJob :=
  let conn : WorkItem.Conn := { plan := fun _ _ _ => true }
  .createWorkItem ⟨conn, conn, conn, conn, now, now, newWorkItemID⟩

def callJobs : Fin 6 → CallbackJob
  | 0 => deliverToCrm 20 "xxxx"
  | 1 => deliverToTasks 20 "xxxxx"
  | 2 => .reminderCommand ⟨"xxx", "xxxx", .markSent "xxxxxx", { plan := fun _ _ _ => true }, 30⟩
  | 3 => .workItemCommand ⟨"xxx", "xxxxx", .complete "xxxxxx", { plan := fun _ _ _ => true }, 30,
      .ok true, .ok []⟩
  | 4 => deliverToCrm 40 "xxxxxx"
  | 5 => deliverToTasks 40 "xxxxxxx"

def callPrograms (i : Fin 6) : Process (CallbackStore unaryCodec) Err Unit :=
  (callJobs i).program (fun _ _ => "later") loggedCall

theorem one_callback_while_pending :
    ∃ st st', run step (init callPrograms callStore) [0, 0, 1, 1, 4] = some st ∧
    step st 4 = some st' ∧ (Reminder.callbacks loggedCall st.store.crm).length = 1 ∧
    (WorkItem.callItems loggedCall st.store.tasks).length = 1 ∧ Once loggedCall st'.store ∧
    ((callJobs 4).isDelivery = true → Kept loggedCall st.store st'.store) := by
  have hnone : Once loggedCall callStore := ⟨Nat.zero_le 1, Nat.zero_le 1⟩
  exact exists_some₂ (P := fun st _ => (Reminder.callbacks loggedCall st.store.crm).length = 1 ∧
    (WorkItem.callItems loggedCall st.store.tasks).length = 1)
    (by decide +kernel) fun st st' hr hr' ⟨hre, hi⟩ => ⟨hre, hi,
      callback_created_once unaryCodec_lawful (fun _ _ => "later") loggedCall callJobs hnone
        (by decide +kernel) hr hr'⟩

theorem redelivery_creates_second :
    ∃ st st', run step (init callPrograms callStore) [0, 0, 1, 1, 2, 2] = some st ∧
    run step st [4, 4, 5, 5, 5, 5] = some st' ∧
    (Reminder.callbacks loggedCall st.store.crm).map Reminder.Row.state = ["sent"] ∧
    (WorkItem.callItems loggedCall st.store.tasks).map WorkItem.Row.state = ["pending"] ∧
    (Reminder.callbacks loggedCall st'.store.crm).map Reminder.Row.state = ["sent", "pending"] ∧
    (WorkItem.callItems loggedCall st'.store.tasks).map (fun r => (r.itype, r.state)) =
    [("callback_reminder", "completed"), ("callback_reminder", "pending")] :=
  exists_some₂ (by decide +kernel) fun _ _ _ _ h => h

end Leadkart
