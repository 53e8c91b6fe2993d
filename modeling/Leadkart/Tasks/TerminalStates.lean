import Leadkart.Crm.ReminderCommands
import Leadkart.Tasks.WorkItemCommands

/-!
# The end of a work item and of a reminder
-/

namespace Leadkart

open List Option Machine Rmw

variable {codec : UuidCodec}

namespace WorkItem

def Row.isTerminal (r : Row) : Bool :=
  r.state = State.completed.string || r.state = State.cancelled.string

def ended (T lid : UUID) (s : Store codec) : Bool := (itemOf T lid s).any Row.isTerminal

def ends (lid : UUID) (outbox : List OutboxMessage) : List OutboxMessage :=
  outbox.filter fun m => m.event.endOf = some lid

structure Announced (T lid : UUID) (s : Store codec) : Prop where
  item : (itemOf T lid s).isSome = true
  once : (ends lid s.outbox).length ≤ if ended T lid s then 1 else 0

theorem isTerminal_of_parse {r : Row} {state : State} (h : parseState r.state = .ok state) :
    r.isTerminal = state.isTerminal := by
  unfold Row.isTerminal
  rw [parseState_eq_ok h]
  cases state <;> decide

variable {T lid : UUID} {c : Command} {s s' : Store codec} {seen : List (Store codec)}
  {w : WorkItem}

theorem attempt_open (hco : codec.Lawful) (hc : c.On codec T lid)
    (h : c.txn.attempt seen = some w) : ∃ s ∈ seen, ended T lid s = false := by
  obtain ⟨s₀, row, w₀, rfl, hrow, hw, hs, -⟩ := Command.txn_attempt hco hc h
  obtain ⟨-, -, -, hstate, -⟩ := snapshotFromColumns_eq_ok hw
  refine ⟨s₀, mem_singleton_self s₀, ?_⟩
  unfold ended
  rw [hrow, Option.any_some, isTerminal_of_parse hstate]
  exact hs.isOpen

theorem commit_ends (hco : codec.Lawful) (hc : c.On codec T lid)
    (ha : c.txn.attempt seen = some w) (hw : c.txn.write w s = some s')
    (hi : (itemOf T lid s).isSome = true) : (itemOf T lid s').isSome = true ∧
    (ends lid s'.outbox).length ≤ (ends lid s.outbox).length + if ended T lid s' then 1 else 0 := by
  obtain ⟨s₀, row₀, w₀, -, -, -, hs, hl, hid⟩ := Command.txn_attempt hco hc ha
  obtain ⟨hrow, messages, hme, ho⟩ := Command.txn_write hc hid hw
  obtain ⟨row, hso⟩ := isSome_iff_exists.mp hi
  rw [hso, map_some] at hrow
  have hen : ended T lid s' = w.state.isTerminal := by
    unfold ended
    rw [hrow, Option.any_some]
    exact isTerminal_of_parse (parseState_string _)
  refine ⟨by rw [hrow]; rfl, ?_⟩
  obtain ⟨e, he, ht⟩ := hs.recorded
  rw [he, hl, nil_append] at hme
  obtain ⟨m, hm, hma⟩ := mapDomainEvents_singleton hme
  rw [ho, hen, ← ht, ← fromDomainEvent_end hm]
  unfold ends
  rw [filter_append, length_append]
  refine Nat.add_le_add_left ?_ _
  -- Nothing is sent where the event has no record, and one message otherwise.
  cases m with
  | none =>
    obtain rfl := map_eq_nil_iff.mp hma
    exact Nat.zero_le _
  | some m =>
    obtain ⟨message, rfl, rfl⟩ := map_eq_singleton_iff.mp hma
    cases hed : message.event.endOf with
    | none => simp [hed]
    | some id => simpa [hed] using length_filter_le _ [message]

end WorkItem

namespace Reminder

def Row.isTerminal (r : Row) : Bool :=
  r.state = State.sent.string || r.state = State.cancelled.string

def ended (T rid : UUID) (s : Store codec) : Bool := (reminderOf T rid s).any Row.isTerminal

def ends (rid : UUID) (outbox : List OutboxMessage) : List OutboxMessage :=
  outbox.filter fun m => m.event.endOf = some rid

structure Announced (T rid : UUID) (s : Store codec) : Prop where
  reminder : (reminderOf T rid s).isSome = true
  once : (ends rid s.outbox).length ≤ if ended T rid s then 1 else 0

theorem isTerminal_of_parse {r : Row} {state : State} (h : parseState r.state = .ok state) :
    r.isTerminal = state.isTerminal := by
  unfold Row.isTerminal
  rw [parseState_eq_ok h]
  cases state <;> decide

variable {T rid : UUID} {c : Command} {s s' : Store codec} {seen : List (Store codec)}
  {r : Reminder}

theorem attempt_open (hco : codec.Lawful) (hc : c.On codec T rid)
    (h : c.txn.attempt seen = some r) : ∃ s ∈ seen, ended T rid s = false := by
  obtain ⟨s₀, row, r₀, rfl, hrow, hr, hs, -⟩ := Command.txn_attempt hco hc h
  obtain ⟨-, -, hstate⟩ := rowToReminder_eq_ok hr
  refine ⟨s₀, mem_singleton_self s₀, ?_⟩
  unfold ended
  rw [hrow, Option.any_some, isTerminal_of_parse hstate]
  exact hs.isOpen

theorem commit_ends (hco : codec.Lawful) (hc : c.On codec T rid)
    (ha : c.txn.attempt seen = some r) (hw : c.txn.write r s = some s')
    (hr : (reminderOf T rid s).isSome = true) : (reminderOf T rid s').isSome = true ∧
    (ends rid s'.outbox).length ≤ (ends rid s.outbox).length + if ended T rid s' then 1 else 0 := by
  obtain ⟨s₀, row₀, r₀, -, -, -, hs, hl, hid⟩ := Command.txn_attempt hco hc ha
  obtain ⟨hrow, messages, hm, ho⟩ := Command.txn_write hc hid hw
  obtain ⟨row, hso⟩ := isSome_iff_exists.mp hr
  rw [hso, map_some] at hrow
  have hen : ended T rid s' = true := by
    unfold ended
    rw [hrow, Option.any_some]
    exact (isTerminal_of_parse (parseState_string _)).trans hs.ended
  refine ⟨by rw [hrow]; rfl, ?_⟩
  obtain ⟨e, he, -⟩ := hs.recorded
  rw [he, hl, nil_append] at hm
  have hon : messages.length = 1 := by
    have hle := Effect.except_mapM_length hm
    rwa [length_map] at hle
  rw [ho, hen, if_pos rfl]
  unfold ends
  rw [filter_append, length_append]
  exact Nat.add_le_add_left ((length_filter_le _ messages).trans hon.le) _

end Reminder

/-- Commands that write the row they read leave an ended item or reminder as it is. -/
theorem terminal_states_permanent {ι κ : Type} [DecidableEq ι] [DecidableEq κ]
    (hcodec : codec.Lawful) {T lid : UUID} (cmd : ι → WorkItem.Command)
    (hcmd : ∀ i, (cmd i).On codec T lid) {s : WorkItem.Store codec} (hs : WorkItem.Announced T lid s)
    {before after : List (Label ι)}
    (hC : Along (step fun i => (cmd i).txn) (Current (WorkItem.ended T lid)) (init ι WorkItem s)
    (before ++ after)) {st st' : Rmw.State ι (WorkItem.Store codec) WorkItem}
    (hst : run (step fun i => (cmd i).txn) (init ι WorkItem s) before = some st)
    (hst' : run (step fun i => (cmd i).txn) st after = some st')
    {U rid : UUID} (rcmd : κ → Reminder.Command) (hrcmd : ∀ k, (rcmd k).On codec U rid)
    {t : Reminder.Store codec} (ht : Reminder.Announced U rid t) {rbefore rafter : List (Label κ)}
    (hrC : Along (step fun k => (rcmd k).txn) (Current (Reminder.ended U rid)) (init κ Reminder t)
    (rbefore ++ rafter)) {rst rst' : Rmw.State κ (Reminder.Store codec) Reminder}
    (hrst : run (step fun k => (rcmd k).txn) (init κ Reminder t) rbefore = some rst)
    (hrst' : run (step fun k => (rcmd k).txn) rst rafter = some rst') :
    ((WorkItem.ended T lid st.store = true →
    WorkItem.itemOf T lid st'.store = WorkItem.itemOf T lid st.store) ∧
    (WorkItem.ends lid st'.store.outbox).length ≤ 1) ∧ ((Reminder.ended U rid rst.store = true →
    Reminder.reminderOf U rid rst'.store = Reminder.reminderOf U rid rst.store) ∧
    (Reminder.ends rid rst'.store.outbox).length ≤ 1) := by
  constructor
  · obtain ⟨hk, ho⟩ := run_settled_once (fun i seen w => WorkItem.attempt_open hcodec (hcmd i))
      (fun i seen w s s' => WorkItem.commit_ends hcodec (hcmd i)) hs.item hs.once hC hst hst'
    exact ⟨fun he => by rw [hk he], ho⟩
  · obtain ⟨hk, ho⟩ := run_settled_once (fun k seen r => Reminder.attempt_open hcodec (hrcmd k))
      (fun k seen r s s' => Reminder.commit_ends hcodec (hrcmd k)) ht.reminder ht.once hrC hrst hrst'
    exact ⟨fun he => by rw [hk he], ho⟩

def openItem : WorkItem.Row where
  id := 3
  tenantID := 2
  itype := "manual"
  priority := "medium"
  state := "pending"
  title := "call back"
  assignedTo := some 5
  assignedBy := some 5
  dueAt := 12
  createdAt := 10
  createdBy := some 5

def openItemStore : WorkItem.Store unaryCodec where
  workItems := { rows := [openItem], unique := pairwise_singleton .. }

def itemCommands : Bool → WorkItem.Command
  | true => ⟨"xxx", "xxxx", .complete "xxxxx", { plan := fun _ _ _ => true }, 20, .ok true, .ok []⟩
  | false => ⟨"xxx", "xxxx", .markOverdue, { plan := fun _ _ _ => true }, 21, .ok true, .ok []⟩

theorem itemCommands_on (i : Bool) : (itemCommands i).On unaryCodec 2 3 := by
  cases i <;> exact ⟨by decide, by decide⟩

def pendingReminder : Reminder.Row where
  id := 3
  tenantID := 2
  leadID := 1
  assignedTo := 5
  rtype := "manual"
  state := "pending"
  dueAt := 12
  createdAt := 10

def pendingReminderStore : Reminder.Store unaryCodec where
  crm := ⟨.empty, .empty, []⟩
  reminders := { rows := [pendingReminder], unique := pairwise_singleton .. }

def reminderCommands : Bool → Reminder.Command
  | true => ⟨"xxx", "xxxx", .markSent "xxxxx", { plan := fun _ _ _ => true }, 20⟩
  | false => ⟨"xxx", "xxxx", .cancel "xxxxxx" "moved", { plan := fun _ _ _ => true }, 21⟩

theorem reminderCommands_on (i : Bool) : (reminderCommands i).On unaryCodec 2 3 := by
  cases i <;> exact ⟨by decide, by decide⟩

def ending : List (Label Bool) := [.read true, .write true, .commit true]

theorem ends_kept_in_turn : ∃ st st' rst rst',
    run (step fun i => (itemCommands i).txn) (init Bool WorkItem openItemStore) ending = some st ∧
    run (step fun i => (itemCommands i).txn) st [.read false, .abort false] = some st' ∧
    run (step fun i => (reminderCommands i).txn) (init Bool Reminder pendingReminderStore) ending =
    some rst ∧
    run (step fun i => (reminderCommands i).txn) rst [.read false, .abort false] = some rst' ∧
    WorkItem.ended 2 3 st.store = true ∧ Reminder.ended 2 3 rst.store = true ∧
    ((WorkItem.ended 2 3 st.store = true →
    WorkItem.itemOf 2 3 st'.store = WorkItem.itemOf 2 3 st.store) ∧
    (WorkItem.ends 3 st'.store.outbox).length ≤ 1) ∧ ((Reminder.ended 2 3 rst.store = true →
    Reminder.reminderOf 2 3 rst'.store = Reminder.reminderOf 2 3 rst.store) ∧
    (Reminder.ends 3 rst'.store.outbox).length ≤ 1) := by
  obtain ⟨st, st', hr, hr', he⟩ := exists_some₂
    (o := run (step fun i => (itemCommands i).txn) (init Bool WorkItem openItemStore) ending)
    (q := fun st => run (step fun i => (itemCommands i).txn) st [.read false, .abort false])
    (P := fun st _ => WorkItem.ended 2 3 st.store = true) (by decide +kernel) fun _ _ _ _ h => h
  obtain ⟨rst, rst', hq, hq', hqe⟩ := exists_some₂
    (o := run (step fun i => (reminderCommands i).txn) (init Bool Reminder pendingReminderStore)
      ending)
    (q := fun st => run (step fun i => (reminderCommands i).txn) st [.read false, .abort false])
    (P := fun st _ => Reminder.ended 2 3 st.store = true) (by decide +kernel) fun _ _ _ _ h => h
  exact ⟨st, st', rst, rst', hr, hr', hq, hq', he, hqe,
    terminal_states_permanent unaryCodec_lawful itemCommands itemCommands_on
      ⟨by decide +kernel, by decide +kernel⟩ (by decide +kernel) hr hr' reminderCommands
      reminderCommands_on ⟨by decide +kernel, by decide +kernel⟩ (by decide +kernel) hq hq'⟩

theorem completed_item_overdue : ∃ st st' rst rst',
    run (step fun i => (itemCommands i).txn) (init Bool WorkItem openItemStore)
    (.read false :: ending) = some st ∧
    run (step fun i => (itemCommands i).txn) st [.write false, .commit false] = some st' ∧
    run (step fun i => (reminderCommands i).txn) (init Bool Reminder pendingReminderStore)
    (.read false :: ending) = some rst ∧
    run (step fun i => (reminderCommands i).txn) rst [.write false, .commit false] = some rst' ∧
    ((WorkItem.itemOf 2 3 st.store).map WorkItem.Row.state = some "completed" ∧
    (WorkItem.itemOf 2 3 st'.store).map WorkItem.Row.state = some "overdue") ∧
    ((Reminder.reminderOf 2 3 rst.store).map Reminder.Row.state = some "sent" ∧
    (Reminder.reminderOf 2 3 rst'.store).map Reminder.Row.state = some "cancelled" ∧
    (Reminder.ends 3 rst'.store.outbox).length = 2) := by
  obtain ⟨st, st', hr, hr', hi⟩ := exists_some₂
    (o := run (step fun i => (itemCommands i).txn) (init Bool WorkItem openItemStore)
      (.read false :: ending))
    (q := fun st => run (step fun i => (itemCommands i).txn) st [.write false, .commit false])
    (P := fun st st' => (WorkItem.itemOf 2 3 st.store).map WorkItem.Row.state = some "completed" ∧
      (WorkItem.itemOf 2 3 st'.store).map WorkItem.Row.state = some "overdue")
    (by decide +kernel) fun _ _ _ _ h => h
  obtain ⟨rst, rst', hq, hq', hre⟩ := exists_some₂
    (o := run (step fun i => (reminderCommands i).txn) (init Bool Reminder pendingReminderStore)
      (.read false :: ending))
    (q := fun st => run (step fun i => (reminderCommands i).txn) st [.write false, .commit false])
    (P := fun st st' => (Reminder.reminderOf 2 3 st.store).map Reminder.Row.state = some "sent" ∧
      (Reminder.reminderOf 2 3 st'.store).map Reminder.Row.state = some "cancelled" ∧
      (Reminder.ends 3 st'.store.outbox).length = 2)
    (by decide +kernel) fun _ _ _ _ h => h
  exact ⟨st, st', rst, rst', hr, hr', hq, hq', hi, hre⟩

end Leadkart
