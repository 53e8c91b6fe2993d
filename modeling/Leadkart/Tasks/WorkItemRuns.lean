import Leadkart.Logic.Recording
import Leadkart.Tasks.WorkItemLifecycle

/-!
# Whole runs of a work item
-/

namespace Leadkart.WorkItem

def Event.replay : State × String → Event → State × String
  | now, created .. => now
  | (_, assignee), started .. => (.inProgress, assignee)
  | (_, assignee), completed .. => (.completed, assignee)
  | (_, assignee), cancelled .. => (.cancelled, assignee)
  | (_, assignee), overdue .. => (.overdue, assignee)
  | (state, _), reassigned _ _ _ newAssignee .. => (state, newAssignee)

section

variable (codec : UuidCodec)

def newManual (p : NewParams) : Except Err WorkItem := newCommon codec p {}

def lifecycle : Aggregate WorkItem Event (Transition × Time) (State × String) Err where
  apply c w :=
    match c.1.apply codec c.2 w with
    | .ok w' => (w', none)
    | .error e => (w, some e)
  events := (·.events)
  closed w := w.state.isTerminal
  closing := Event.isTerminal
  view w := (w.state, w.assignedTo)
  fold := Event.replay

def Built (w : WorkItem) : Prop :=
  (∃ p, newManual codec p = .ok w) ∨ ∃ p src, newAutoCreated codec p src = .ok w

structure Coherent (w : WorkItem) : Prop where
  completedAt : w.completedAt ≠ 0 ↔ w.state = .completed
  cancelledAt : w.cancelledAt ≠ 0 ↔ w.state = .cancelled
  reason : w.cancellationReason ≠ "" ↔ w.state = .cancelled

theorem call_cases (w : WorkItem) (c : Transition × Time) : (lifecycle codec).call w c = w ∨
    ((lifecycle codec).apply c w).2 = none ∧ w.state.isTerminal = false ∧ c.2 ≠ 0 ∧
    Moved c.2 w ((lifecycle codec).call w c) := by
  unfold Aggregate.call lifecycle
  dsimp only
  split
  next w' hok =>
    rcases Transition.apply_cases hok with rfl | hm
    · exact .inl rfl
    · exact .inr ⟨rfl, hm⟩
  next => exact .inl rfl

variable {codec} {w : WorkItem}

theorem lawful : (lifecycle codec).Lawful := by
  intro c w
  rcases call_cases codec w c with hs | ⟨hnone, ho, -, hm⟩
  · exact .inl hs
  · refine .inr ⟨hnone, ho, ?_⟩
    generalize (lifecycle codec).call w c = w' at hm
    cases hm with
    | reassigned => exact ⟨_, rfl, ho.symm, rfl⟩
    | _ => exact ⟨_, rfl, rfl, rfl⟩

theorem coherent_call (c : Transition × Time) (h : w.Coherent) :
    ((lifecycle codec).call w c).Coherent := by
  rcases call_cases codec w c with hs | ⟨-, ho, hn, hm⟩
  · rw [hs]
    exact h
  · obtain ⟨hc, hca, hreason⟩ := h
    have hno : w.state ≠ .completed ∧ w.state ≠ .cancelled := by
      constructor <;> intro hstate <;> rw [hstate] at ho <;> cases ho
    generalize (lifecycle codec).call w c = w' at hm
    cases hm with
    | reassigned => exact ⟨hc, hca, hreason⟩
    | _ => constructor <;> simp_all [recordEvent]

theorem coherent_of_newCommon {p : NewParams} {src : Source} (h : newCommon codec p src = .ok w) :
    w.Coherent := by
  obtain ⟨-, -, -, hstate, hc, hca, hreason, -⟩ := newCommon_eq_ok h
  constructor <;> simp [*]

theorem newCommon_of_built (h : Built codec w) : ∃ p src, newCommon codec p src = .ok w := by
  rcases h with ⟨p, h⟩ | ⟨p, src, h⟩
  · exact ⟨p, _, h⟩
  · exact ⟨p, src, newCommon_of_newAutoCreated h⟩

theorem runs_coherent (h : Built codec w) (calls : List (Transition × Time)) :
    ((lifecycle codec).run w calls).Coherent ∧
    (lifecycle codec).Sound (w.state, w.assignedTo) ((lifecycle codec).run w calls) := by
  obtain ⟨p, src, hn⟩ := newCommon_of_built h
  obtain ⟨-, -, -, hstate, -, -, -, itype, priority, title, batchID, he⟩ := newCommon_eq_ok hn
  refine ⟨Aggregate.run_invariant (coherent_of_newCommon hn) (fun _ => coherent_call) calls,
    Aggregate.run_sound lawful ?_ ?_ calls⟩
  · show w.events.foldl Event.replay _ = _
    rw [he]
    rfl
  · show w.events.countP Event.isTerminal = w.state.isTerminal.toNat
    rw [he, hstate]
    rfl

end

def callBack : NewParams where
  id := "x"
  tenantID := "x"
  itype := .callbackReminder
  priority := .medium
  title := "Call back"
  assignedTo := "x"
  assignedBy := "x"
  createdBy := "x"
  dueAt := 5
  now := 1

theorem runs_coherent_callBack : ∃ w, newManual unaryCodec callBack = .ok w ∧
    ((lifecycle unaryCodec).run w [(.complete "x", 2), (.markOverdue, 3)]).Coherent :=
  ⟨_, rfl, (runs_coherent (.inl ⟨callBack, rfl⟩) _).1⟩

end Leadkart.WorkItem
