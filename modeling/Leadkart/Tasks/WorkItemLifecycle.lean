import Leadkart.Tasks.WorkItem

/-!
# The life of a work item
-/

namespace Leadkart.WorkItem

open Effect

def titleMin : Nat := 1
def titleMax : Nat := 200
def descriptionMax : Nat := 4000
def cancellationReasonMax : Nat := 1000

def State.isTerminal : State → Bool
  | completed | cancelled => true
  | pending | inProgress | overdue => false

def recordEvent (w : WorkItem) (e : Event) : WorkItem := { w with events := w.events ++ [e] }

/-! ## Transitions -/

section

variable (codec : UuidCodec)

def start (w : WorkItem) (actorID : String) (now : Time) : Except Err WorkItem := do
  codec.validateUUIDString errInvalid "actor id" actorID
  if now.isZero then .error ⟨errInvalid, "now required"⟩
  else if w.state = .inProgress then return w
  else if w.state.isTerminal then
    .error ⟨errConflict, "cannot start a " ++ w.state.string ++ " task"⟩
  else if w.state = .overdue then
    .error ⟨errConflict, "cannot start an overdue task; complete or cancel it instead"⟩
  else return recordEvent { w with state := .inProgress } (.started w.id w.tenantID actorID now)

def complete (w : WorkItem) (actorID : String) (now : Time) : Except Err WorkItem := do
  codec.validateUUIDString errInvalid "actor id" actorID
  if now.isZero then .error ⟨errInvalid, "now required"⟩
  else if w.state = .completed then return w
  else if w.state = .cancelled then .error ⟨errConflict, "cannot complete a cancelled task"⟩
  else
    return recordEvent { w with state := .completed, completedAt := now }
      (.completed w.id w.tenantID actorID now)

def cancel (w : WorkItem) (actorID reason : String) (now : Time) : Except Err WorkItem := do
  codec.validateUUIDString errInvalid "actor id" actorID
  let reason := trimSpace reason
  if reason = "" then .error ⟨errInvalid, "cancellation reason required"⟩
  else if cancellationReasonMax < reason.utf8ByteSize then
    .error ⟨errInvalid, s!"cancellation reason length {reason.utf8ByteSize} > 1000"⟩
  else if now.isZero then .error ⟨errInvalid, "now required"⟩
  else if w.state = .cancelled then
    if w.cancellationReason = reason then return w
    else .error ⟨errConflict, "cannot re-cancel with a different reason"⟩
  else if w.state = .completed then .error ⟨errConflict, "cannot cancel a completed task"⟩
  else
    return recordEvent
      { w with state := .cancelled, cancelledAt := now, cancellationReason := reason }
      (.cancelled w.id w.tenantID actorID reason now)

def markOverdue (w : WorkItem) (now : Time) : Except Err WorkItem :=
  if now.isZero then .error ⟨errInvalid, "now required"⟩
  else if w.state = .overdue then .ok w
  else if w.state.isTerminal then .ok w
  else if w.state ≠ .pending ∧ w.state ≠ .inProgress then
    .error ⟨errConflict, "cannot mark " ++ w.state.string ++ " task overdue"⟩
  else .ok (recordEvent { w with state := .overdue }
    (.overdue w.id w.tenantID w.assignedTo w.dueAt now))

def reassign (w : WorkItem) (newAssigneeID reassignedByID reason : String) (now : Time) :
    Except Err WorkItem := do
  codec.validateUUIDString errInvalid "new assignee id" newAssigneeID
  codec.validateUUIDString errInvalid "reassigned-by id" reassignedByID
  if now.isZero then .error ⟨errInvalid, "now required"⟩
  else if w.state.isTerminal then
    .error ⟨errConflict, "cannot reassign a " ++ w.state.string ++ " task"⟩
  else if w.assignedTo = newAssigneeID then return w
  else
    return recordEvent { w with assignedTo := newAssigneeID }
      (.reassigned w.id w.tenantID w.assignedTo newAssigneeID reassignedByID reason now)

end

inductive Transition where
  | start (actorID : String)
  | complete (actorID : String)
  | cancel (actorID reason : String)
  | markOverdue
  | reassign (newAssigneeID reassignedByID reason : String)

namespace Transition

def apply (codec : UuidCodec) (t : Transition) (now : Time) (w : WorkItem) : Except Err WorkItem :=
  match t with
  | .start actorID => w.start codec actorID now
  | .complete actorID => w.complete codec actorID now
  | .cancel actorID reason => w.cancel codec actorID reason now
  | .markOverdue => w.markOverdue now
  | .reassign newAssigneeID reassignedByID reason =>
    w.reassign codec newAssigneeID reassignedByID reason now

def changed (t : Transition) (w w' : WorkItem) : Bool :=
  match t with
  | .reassign .. => w'.assignedTo ≠ w.assignedTo
  | .start .. | .complete .. | .cancel .. | .markOverdue => w'.state ≠ w.state

end Transition

def Event.isTerminal : Event → Bool
  | completed .. | cancelled .. => true
  | created .. | started .. | overdue .. | reassigned .. => false

structure Stepped (w w' : WorkItem) : Prop where
  isOpen : w.state.isTerminal = false
  id : w'.id = w.id
  tenantID : w'.tenantID = w.tenantID
  recorded : ∃ e, w'.events = w.events ++ [e] ∧ e.isTerminal = w'.state.isTerminal

inductive Moved (now : Time) (w : WorkItem) : WorkItem → Prop
  | started (actorID : String) : Moved now w
      (recordEvent { w with state := .inProgress } (.started w.id w.tenantID actorID now))
  | completed (actorID : String) : Moved now w
      (recordEvent { w with state := .completed, completedAt := now }
        (.completed w.id w.tenantID actorID now))
  | cancelled (actorID : String) {reason : String} (h : reason ≠ "") : Moved now w
      (recordEvent { w with state := .cancelled, cancelledAt := now, cancellationReason := reason }
        (.cancelled w.id w.tenantID actorID reason now))
  | overdue : Moved now w
      (recordEvent { w with state := .overdue } (.overdue w.id w.tenantID w.assignedTo w.dueAt now))
  | reassigned (newAssigneeID reassignedByID reason : String) : Moved now w
      (recordEvent { w with assignedTo := newAssigneeID }
        (.reassigned w.id w.tenantID w.assignedTo newAssigneeID reassignedByID reason now))

section

variable {codec : UuidCodec} {w w' : WorkItem} {now : Time}

theorem ne_zero_of_isZero (h : ¬ now.isZero = true) : now ≠ 0 := by
  rintro rfl
  exact h rfl

variable {actorID : String}

theorem start_eq_ok (h : w.start codec actorID now = .ok w') :
    w' = w ∨ w.state.isTerminal = false ∧ now ≠ 0 ∧ Moved now w w' := by
  obtain ⟨_, -, h⟩ := except_bind_ok h
  obtain ⟨hn, h⟩ := ite_error_eq_ok.mp h
  split at h
  · exact .inl (Except.ok.inj h).symm
  obtain ⟨ho, h⟩ := ite_error_eq_ok.mp h
  obtain ⟨-, h⟩ := ite_error_eq_ok.mp h
  cases h
  exact .inr ⟨Bool.eq_false_iff.mpr ho, ne_zero_of_isZero hn, .started _⟩

theorem complete_eq_ok (h : w.complete codec actorID now = .ok w') :
    w' = w ∨ w.state.isTerminal = false ∧ now ≠ 0 ∧ Moved now w w' := by
  obtain ⟨_, -, h⟩ := except_bind_ok h
  obtain ⟨hn, h⟩ := ite_error_eq_ok.mp h
  split at h
  · exact .inl (Except.ok.inj h).symm
  next hc =>
    obtain ⟨hca, h⟩ := ite_error_eq_ok.mp h
    cases h
    refine .inr ⟨?_, ne_zero_of_isZero hn, .completed _⟩
    cases hstate : w.state <;> simp_all [State.isTerminal]

variable {reason : String}

theorem cancel_eq_ok (h : w.cancel codec actorID reason now = .ok w') :
    w' = w ∨ w.state.isTerminal = false ∧ now ≠ 0 ∧ Moved now w w' := by
  obtain ⟨_, -, h⟩ := except_bind_ok h
  dsimp only at h
  simp only [ite_error_eq_ok] at h
  obtain ⟨hreason, -, hn, h⟩ := h
  split at h
  · split at h
    · exact .inl (Except.ok.inj h).symm
    · cases h
  next hc =>
    obtain ⟨hco, h⟩ := ite_error_eq_ok.mp h
    cases h
    refine .inr ⟨?_, ne_zero_of_isZero hn, .cancelled _ hreason⟩
    cases hstate : w.state <;> simp_all [State.isTerminal]

theorem markOverdue_eq_ok (h : w.markOverdue now = .ok w') :
    w' = w ∨ w.state.isTerminal = false ∧ now ≠ 0 ∧ Moved now w w' := by
  obtain ⟨hn, h⟩ := ite_error_eq_ok.mp h
  split at h
  · exact .inl (Except.ok.inj h).symm
  split at h
  · exact .inl (Except.ok.inj h).symm
  next ho =>
    obtain ⟨-, h⟩ := ite_error_eq_ok.mp h
    cases h
    exact .inr ⟨Bool.eq_false_iff.mpr ho, ne_zero_of_isZero hn, .overdue⟩

theorem reassign_eq_ok {n r : String} (h : w.reassign codec n r reason now = .ok w') :
    w' = w ∨ w.state.isTerminal = false ∧ now ≠ 0 ∧ Moved now w w' := by
  obtain ⟨_, -, h⟩ := except_bind_ok h
  obtain ⟨_, -, h⟩ := except_bind_ok h
  obtain ⟨hn, h⟩ := ite_error_eq_ok.mp h
  obtain ⟨ho, h⟩ := ite_error_eq_ok.mp h
  split at h
  · exact .inl (Except.ok.inj h).symm
  · cases h
    exact .inr ⟨Bool.eq_false_iff.mpr ho, ne_zero_of_isZero hn, .reassigned ..⟩

variable {t : Transition}

theorem Transition.apply_cases (h : t.apply codec now w = .ok w') :
    w' = w ∨ w.state.isTerminal = false ∧ now ≠ 0 ∧ Moved now w w' := by
  cases t with
  | start actorID => exact start_eq_ok h
  | complete actorID => exact complete_eq_ok h
  | cancel actorID reason => exact cancel_eq_ok h
  | markOverdue => exact markOverdue_eq_ok h
  | reassign newAssigneeID reassignedByID reason => exact reassign_eq_ok h

theorem Transition.apply_eq_ok (h : t.apply codec now w = .ok w') : w' = w ∨ Stepped w w' := by
  rcases apply_cases h with rfl | ⟨ho, -, hm⟩
  · exact .inl rfl
  · right
    cases hm with
    | reassigned => exact ⟨ho, rfl, rfl, _, rfl, ho.symm⟩
    | _ => exact ⟨ho, rfl, rfl, _, rfl, rfl⟩

theorem Transition.changed_self (t : Transition) (w : WorkItem) : t.changed w w = false := by
  cases t <;> simp [changed]

theorem Transition.stepped (h : t.apply codec now w = .ok w') (hc : t.changed w w' = true) :
    Stepped w w' := by
  rcases apply_eq_ok h with rfl | hs
  · rw [changed_self] at hc
    cases hc
  · exact hs

end

def IntegrationEvent.endOf : IntegrationEvent → Option UUID
  | workItemCompletedV1 workItemID .. | workItemCancelledV1 workItemID .. => some workItemID
  | workItemCreatedV1 .. | workItemOverdueV1 .. | workItemAssignedV1 .. => none

theorem fromDomainEvent_end {codec : UuidCodec} {e : Event} {m : Option IntegrationEvent}
    (h : fromDomainEvent codec e = .ok m) : (m.bind (·.endOf)).isSome = e.isTerminal := by
  cases e with
  | started => obtain rfl := Except.ok.inj h; rfl
  | created =>
    simp only [fromDomainEvent, except_bind_eq_ok] at h
    obtain ⟨_, -, _, -, _, -, _, -, _, -, _, -, h⟩ := h
    cases h
    rfl
  | completed | cancelled | overdue =>
    simp only [fromDomainEvent, except_bind_eq_ok] at h
    obtain ⟨_, -, _, -, _, -, h⟩ := h
    cases h
    rfl
  | reassigned =>
    simp only [fromDomainEvent, except_bind_eq_ok] at h
    obtain ⟨_, -, _, -, _, -, _, -, _, -, h⟩ := h
    cases h
    rfl

theorem mapDomainEvents_singleton {codec : UuidCodec} {e : Event} {me : List IntegrationEvent}
    (h : mapDomainEvents codec [e] = .ok me) :
    ∃ m, fromDomainEvent codec e = .ok m ∧ me = m.toList := by
  obtain ⟨mapped, hma, h⟩ := except_bind_ok h
  cases h
  rw [List.mapM_cons] at hma
  simp only [except_bind_eq_ok] at hma
  obtain ⟨m, hm, rest, hr, hma⟩ := hma
  cases hr
  cases hma
  exact ⟨m, hm, by cases m <;> rfl⟩

def Source.validate (s : Source) : Except Err Unit :=
  if (s.module ≠ "" ∧ s.entityType ≠ "" ∧ s.entityID ≠ "") ∨ s = {} then .ok ()
  else .error ⟨errInvalid, "source fields must be all set or all empty (got module=" ++ s.module ++
    ", entity_type=" ++ s.entityType ++ ", entity_id=" ++ s.entityID ++ ")"⟩

structure NewParams where
  (id tenantID : String)
  itype : ItemType
  priority : Priority
  title : String
  description : String := ""
  (assignedTo assignedBy createdBy : String)
  dueAt : Time
  batchID : String := ""
  now : Time

variable (codec : UuidCodec)

def newCommon (p : NewParams) (src : Source) : Except Err WorkItem := do
  codec.validateUUIDString errInvalid "id" p.id
  codec.validateUUIDString errInvalid "tenant id" (trimSpace p.tenantID)
  codec.validateUUIDString errInvalid "assigned_to membership id" p.assignedTo
  codec.validateUUIDString errInvalid "assigned_by membership id" p.assignedBy
  codec.validateUUIDString errInvalid "created_by membership id" p.createdBy
  codec.validateOptionalUUID errInvalid "batch id" p.batchID
  let title := trimSpace p.title
  if title.utf8ByteSize < titleMin ∨ titleMax < title.utf8ByteSize then
    .error ⟨errInvalid, s!"title length {title.utf8ByteSize} not in [1,200]"⟩
  else if descriptionMax < p.description.utf8ByteSize then
    .error ⟨errInvalid, s!"description length {p.description.utf8ByteSize} > 4000"⟩
  else if p.dueAt.isZero then .error ⟨errInvalid, "due_at required"⟩
  else if p.now.isZero then .error ⟨errInvalid, "now required"⟩
  else do
    src.validate
    return {
      id := p.id
      tenantID := p.tenantID
      itype := p.itype
      priority := p.priority
      state := .pending
      title
      description := p.description
      assignedTo := p.assignedTo
      assignedBy := p.assignedBy
      dueAt := p.dueAt
      batchID := p.batchID
      source := src
      createdAt := p.now
      createdBy := p.createdBy
      events := [.created p.id p.tenantID p.itype p.priority title p.assignedTo p.assignedBy p.dueAt
        p.batchID src p.createdBy p.now] }

def newAutoCreated (p : NewParams) (src : Source) : Except Err WorkItem := do
  src.validate
  if src = {} then .error ⟨errInvalid, "NewAutoCreated requires populated Source"⟩
  else newCommon codec p src

variable {codec} {p : NewParams} {src : Source} {w : WorkItem}

theorem newCommon_eq_ok (h : newCommon codec p src = .ok w) :
    w.id = p.id ∧ w.tenantID = p.tenantID ∧ w.source = src ∧ w.state = .pending ∧
    w.completedAt = 0 ∧ w.cancelledAt = 0 ∧ w.cancellationReason = "" ∧
    ∃ itype priority title batchID, w.events = [.created w.id w.tenantID itype priority title
    w.assignedTo w.assignedBy w.dueAt batchID src w.createdBy w.createdAt] := by
  iterate 6 obtain ⟨_, -, h⟩ := except_bind_ok h
  dsimp only at h
  simp only [except_bind_eq_ok, ite_error_eq_ok] at h
  obtain ⟨-, -, -, -, _, -, h⟩ := h
  cases h
  exact ⟨rfl, rfl, rfl, rfl, rfl, rfl, rfl, _, _, _, _, rfl⟩

theorem newCommon_of_newAutoCreated (h : newAutoCreated codec p src = .ok w) :
    newCommon codec p src = .ok w := by
  obtain ⟨_, -, h⟩ := except_bind_ok h
  exact (ite_error_eq_ok.mp h).2

theorem newAutoCreated_eq_ok (h : newAutoCreated codec p src = .ok w) :
    w.id = p.id ∧ w.tenantID = p.tenantID ∧ w.state = .pending ∧ w.source = src := by
  obtain ⟨hid, ht, hs, hstate, -⟩ := newCommon_eq_ok (newCommon_of_newAutoCreated h)
  exact ⟨hid, ht, hstate, hs⟩

end Leadkart.WorkItem
