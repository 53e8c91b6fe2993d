import Leadkart.Crm.ReminderRepository

/-!
# The commands on a reminder
-/

namespace Leadkart.Reminder

open Effect

def errReminderNotFound : Sentinel := ⟨.unknown, "", "crm: reminder not found"⟩
def errReminderTerminal : Sentinel := ⟨.unknown, "", "crm: reminder is in a terminal state"⟩

def mapReminderError (e : Err) : Err :=
  if e.is errNotFound then ⟨errReminderNotFound, ""⟩
  else if e.is errConflict then ⟨errReminderTerminal, ""⟩
  else e.wrap "crm reminder: "

def Transition.updateFn (codec : UuidCodec) (t : Transition) (now : Time) : UpdateFn := fun r =>
  match t.apply codec now r with
  | .error e => (r, .error e)
  | .ok r' => (r', .ok true)

theorem Transition.updateFn_eq {codec : UuidCodec} {t : Transition} {now : Time} {r r' : Reminder}
    {persist : Bool} : t.updateFn codec now r = (r', .ok persist) ↔
    t.apply codec now r = .ok r' ∧ persist = true := by
  unfold updateFn
  rcases t.apply codec now r with e | r'' <;> simp [eq_comm]

def Transition.label : Transition → String
  | markSent .. => "crm mark_reminder_sent"
  | cancel .. => "crm cancel_reminder"

def Transition.required : Transition → List (String × String)
  | markSent markedBy => [("marked-by membership id", markedBy)]
  | cancel cancelledBy reason =>
    [("cancelled-by membership id", cancelledBy), ("reason", reason)]

structure Command where
  (tenantID reminderID : String)
  transition : Transition
  conn : Conn
  now : Time

namespace Command

def checks (c : Command) : Except Err Unit :=
  requireTexts c.transition.label
    (("tenant id", c.tenantID) :: ("reminder id", c.reminderID) :: c.transition.required)

variable {codec : UuidCodec}

def txn (c : Command) : Rmw.Txn (Store codec) Reminder :=
  updateByTxn (loadReminder (c.conn.tx c.tenantID) c.reminderID)
    (checked c.checks (c.transition.updateFn codec c.now)) (storeOnTx (c.conn.tx c.tenantID))

variable {c : Command} {s s' : Store codec} {r r' : Reminder}

structure On (c : Command) (codec : UuidCodec) (T rid : UUID) : Prop where
  tenant : codec.input c.tenantID = some T
  reminder : codec.parse c.reminderID = some rid

variable {T rid : UUID}

theorem txn_attempt (hco : codec.Lawful) (hc : c.On codec T rid) {seen : List (Store codec)}
    (h : c.txn.attempt seen = some r') :
    ∃ s₀ row r, seen = [s₀] ∧ reminderOf T rid s₀ = some row ∧ rowToReminder codec row = .ok r ∧
    Stepped r r' ∧ r.events = [] ∧ codec.parse r'.id = some rid := by
  obtain ⟨s₀, r, rfl, hl, hfn⟩ := updateByTxn_attempt h
  obtain ⟨row, hrow, hr⟩ := (loadReminder_eq_ok (bound_tx hc.tenant c.conn) hc.reminder).mp hl
  have hs := Transition.apply_eq_ok (Transition.updateFn_eq.mp (checked_eq.mp hfn).2).1
  obtain ⟨hid, he, -⟩ := rowToReminder_eq_ok hr
  refine ⟨s₀, row, r, rfl, hrow, hr, hs, he, ?_⟩
  rw [hs.id, hid, (reminderOf_ids hrow).2, hco.parse_string]

theorem txn_write (hc : c.On codec T rid) (hid : codec.parse r.id = some rid)
    (h : c.txn.write r s = some s') :
    reminderOf T rid s' = (reminderOf T rid s).map (updateParams codec r) ∧
    ∃ messages, mapDomainEvents codec r.events = .ok (messages.map OutboxMessage.event) ∧
    s'.outbox = s.outbox ++ messages := by
  have hs : (storeOnTx (c.conn.tx c.tenantID) r).run s = (.ok (), s') := updateByTxn_write h
  obtain ⟨⟨⟩, s₁, hp, hd⟩ := bind_eq_ok.mp hs
  obtain ⟨hrow, ho⟩ := persistReminderState_eq_ok (bound_tx hc.tenant c.conn) hid hp
  obtain ⟨messages, hm, rfl⟩ := drainReminderEvents_eq_ok hd
  exact ⟨hrow, messages, hm, by rw [ho]⟩

end Command

end Leadkart.Reminder
