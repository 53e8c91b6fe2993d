import Leadkart.Logic.Recording
import Leadkart.Orders.Order

/-!
# Quotations and their revisions
-/

namespace Leadkart

open List

namespace Quotation

def errInvalidTransition : Sentinel := ⟨.unknown, "", "quotation: invalid state transition"⟩

structure Revision where
  number : Nat
  items : List LineItem
  note : String
  revisedAt : Time
  revisedBy : String

inductive State where
  | draft
  | approved
  | rejected
  deriving DecidableEq

def State.string : State → String
  | draft => "draft"
  | approved => "approved"
  | rejected => "rejected"

def State.isTerminal : State → Bool
  | approved | rejected => true
  | draft => false

inductive Event where
  | created (quotationID tenantID customerLeadID : String) (lineItemCount : Nat) (createdAt : Time)
      (createdBy : String)
  | revised (quotationID tenantID : String) (revisionNumber lineItemCount : Nat) (note : String)
      (revisedAt : Time) (revisedBy : String)
  | approved (quotationID tenantID customerLeadID : String) (approvedRevisionNumber : Nat)
      (approvedAt : Time) (approvedBy : String)
  | rejected (quotationID tenantID reason : String) (rejectedAt : Time) (rejectedBy : String)

end Quotation

structure Quotation where
  (id tenantID customerLeadID : String)
  state : Quotation.State
  revisions : List Quotation.Revision
  nonempty : revisions ≠ []
  approvedAt : Option Time := none
  approvedBy : Option String := none
  rejectedAt : Option Time := none
  rejectedBy : Option String := none
  rejectionReason : String := ""
  createdAt : Time
  createdBy : String
  events : List Quotation.Event := []

namespace Quotation

structure NewInput where
  (id tenantID customerLeadID : String)
  initialItems : List LineItem
  initialNote : String := ""
  createdBy : String
  now : Time

structure ReviseInput where
  items : List LineItem
  note : String
  revisedBy : String
  now : Time

def recordEvent (q : Quotation) (e : Event) : Quotation := { q with events := q.events ++ [e] }

def currentRevision (q : Quotation) : Revision := q.revisions.getLast q.nonempty

def new (input : NewInput) : Except Err Quotation :=
  if input.id = "" then .error ⟨errInvalid, "id required"⟩
  else if input.tenantID = "" then .error ⟨errInvalid, "tenant_id required"⟩
  else if input.customerLeadID = "" then .error ⟨errInvalid, "customer_lead_id required"⟩
  else if input.createdBy = "" then .error ⟨errInvalid, "created_by_membership_id required"⟩
  else if input.now.isZero then .error ⟨errInvalid, "now required"⟩
  else if input.initialItems = [] then .error ⟨errInvalid, "initial_items must be non-empty"⟩
  else do
    validateItems errInvalid 0 input.initialItems
    return {
      id := input.id
      tenantID := input.tenantID
      customerLeadID := input.customerLeadID
      state := .draft
      revisions := [⟨1, input.initialItems, trimSpace input.initialNote, input.now, input.createdBy⟩]
      nonempty := List.cons_ne_nil _ _
      createdAt := input.now
      createdBy := input.createdBy
      events := [.created input.id input.tenantID input.customerLeadID input.initialItems.length
        input.now input.createdBy] }

def nextRevision (q : Quotation) (input : ReviseInput) : Revision :=
  ⟨q.revisions.length + 1, input.items, trimSpace input.note, input.now, input.revisedBy⟩

def appendRevision (q : Quotation) (input : ReviseInput) : Quotation :=
  let rev := q.nextRevision input
  recordEvent { q with revisions := q.revisions ++ [rev], nonempty := by simp }
    (.revised q.id q.tenantID rev.number input.items.length rev.note rev.revisedAt rev.revisedBy)

def revise (q : Quotation) (input : ReviseInput) : Except Err Quotation :=
  if q.state.isTerminal then
    .error ⟨errInvalidTransition, "cannot revise quotation in state " ++ q.state.string⟩
  else if input.items = [] then .error ⟨errInvalid, "revision items must be non-empty"⟩
  else do
    validateItems errInvalid 0 input.items
    if input.revisedBy = "" then .error ⟨errInvalid, "revised_by required"⟩
    else if input.now.isZero then .error ⟨errInvalid, "now required"⟩
    else return q.appendRevision input

def approve (q : Quotation) (approverID : String) (now : Time) : Except Err Quotation :=
  if q.state = .approved then .ok q
  else if q.state = .rejected then
    .error ⟨errInvalidTransition, "cannot approve rejected quotation"⟩
  else if approverID = "" then .error ⟨errInvalid, "approver required"⟩
  else if now.isZero then .error ⟨errInvalid, "now required"⟩
  else .ok (recordEvent { q with state := .approved, approvedAt := now, approvedBy := approverID }
    (.approved q.id q.tenantID q.customerLeadID q.currentRevision.number now approverID))

def reject (q : Quotation) (rejectorID reason : String) (now : Time) : Except Err Quotation :=
  if q.state = .rejected then .ok q
  else if q.state = .approved then
    .error ⟨errInvalidTransition, "cannot reject approved quotation"⟩
  else
    let reason := trimSpace reason
    if reason = "" then .error ⟨errInvalid, "rejection reason required"⟩
    else if rejectorID = "" then .error ⟨errInvalid, "rejector required"⟩
    else if now.isZero then .error ⟨errInvalid, "now required"⟩
    else .ok (recordEvent
      { q with
        state := .rejected, rejectedAt := now, rejectedBy := rejectorID, rejectionReason := reason }
      (.rejected q.id q.tenantID reason now rejectorID))

inductive Call where
  | revise (input : ReviseInput)
  | approve (approverID : String) (now : Time)
  | reject (rejectorID reason : String) (now : Time)

def Call.apply : Call → Quotation → Except Err Quotation
  | .revise input, q => q.revise input
  | .approve approverID now, q => q.approve approverID now
  | .reject rejectorID reason now, q => q.reject rejectorID reason now

def Event.closes : Event → Bool
  | approved .. | rejected .. => true
  | created .. | revised .. => false

def Event.replay : State × Nat → Event → State × Nat
  | now, created .. => now
  | (state, _), revised _ _ number .. => (state, number)
  | _, approved _ _ _ number .. => (.approved, number)
  | (_, number), rejected .. => (.rejected, number)

def lifecycle : Aggregate Quotation Event Call (State × Nat) Err where
  apply c q :=
    match c.apply q with
    | .ok q' => (q', none)
    | .error e => (q, some e)
  events := (·.events)
  closed q := q.state.isTerminal
  closing := Event.closes
  view q := (q.state, q.currentRevision.number)
  fold := Event.replay

structure History (q : Quotation) : Prop where
  numbered : ∀ i r, q.revisions[i]? = some r → r.number = i + 1
  valid : ∀ r ∈ q.revisions, r.items ≠ [] ∧ ∀ it ∈ r.items, it.validate = .ok ()
  approval : (q.approvedAt.isSome = true ↔ q.state = .approved) ∧
    (q.approvedBy.isSome = true ↔ q.state = .approved)
  rejection : (q.rejectedAt.isSome = true ↔ q.state = .rejected) ∧
    (q.rejectedBy.isSome = true ↔ q.state = .rejected) ∧
      (q.rejectionReason ≠ "" ↔ q.state = .rejected)
  approvedTip : ∀ {id tenantID lead number time approver},
    .approved id tenantID lead number time approver ∈ q.events →
      q.state = .approved ∧ number = q.currentRevision.number

inductive Moved (q : Quotation) : Quotation → Prop
  | revised {input : ReviseInput} (hitems : input.items ≠ [])
      (hvalid : ∀ it ∈ input.items, it.validate = .ok ()) : Moved q (q.appendRevision input)
  | approved {approverID : String} {now : Time} : Moved q
      (recordEvent { q with state := .approved, approvedAt := now, approvedBy := approverID }
        (.approved q.id q.tenantID q.customerLeadID q.currentRevision.number now approverID))
  | rejected {rejectorID reason : String} {now : Time} (hreason : reason ≠ "") : Moved q
      (recordEvent
        { q with
          state := .rejected, rejectedAt := now, rejectedBy := rejectorID, rejectionReason := reason }
        (.rejected q.id q.tenantID reason now rejectorID))

section

variable {q q' : Quotation} {c : Call}

theorem currentRevision_appendRevision (input : ReviseInput) :
    (q.appendRevision input).currentRevision = q.nextRevision input := List.getLast_concat

theorem apply_cases (h : c.apply q = .ok q') : q' = q ∨ q.state = .draft ∧ Moved q q' := by
  have hd (ha : ¬ q.state = .approved) (hr : ¬ q.state = .rejected) : q.state = .draft := by
    cases hstate : q.state <;> simp_all
  cases c with
  | revise input =>
    obtain ⟨ho, h⟩ := Effect.ite_error_eq_ok.mp h
    obtain ⟨hitems, h⟩ := Effect.ite_error_eq_ok.mp h
    obtain ⟨_, hvalid, h⟩ := Effect.except_bind_ok h
    obtain ⟨-, h⟩ := Effect.ite_error_eq_ok.mp h
    obtain ⟨-, h⟩ := Effect.ite_error_eq_ok.mp h
    cases h
    refine .inr ⟨hd ?_ ?_, .revised hitems (validate_of_validateItems hvalid)⟩ <;>
      intro hstate <;> exact ho (by rw [hstate]; rfl)
  | approve approverID now =>
    change q.approve approverID now = .ok q' at h
    unfold approve at h
    split at h
    · exact .inl (Except.ok.inj h).symm
    next ha =>
      simp only [Effect.ite_error_eq_ok] at h
      obtain ⟨hr, -, -, h⟩ := h
      cases h
      exact .inr ⟨hd ha hr, .approved⟩
  | reject rejectorID reason now =>
    change q.reject rejectorID reason now = .ok q' at h
    unfold reject at h
    split at h
    · exact .inl (Except.ok.inj h).symm
    next hr =>
      simp only [Effect.ite_error_eq_ok] at h
      obtain ⟨ha, hreason, -, -, h⟩ := h
      cases h
      exact .inr ⟨hd ha hr, .rejected hreason⟩

theorem call_cases (q : Quotation) (c : Call) : lifecycle.call q c = q ∨
    (lifecycle.apply c q).2 = none ∧ q.state = .draft ∧ Moved q (lifecycle.call q c) := by
  unfold Aggregate.call lifecycle
  dsimp only
  split
  next q' hok =>
    rcases apply_cases hok with rfl | hm
    · exact .inl rfl
    · exact .inr ⟨rfl, hm⟩
  next => exact .inl rfl

theorem lawful : lifecycle.Lawful := by
  intro c q
  rcases call_cases q c with hs | ⟨hnone, hd, hm⟩
  · exact .inl hs
  · refine .inr ⟨hnone, congrArg State.isTerminal hd, ?_⟩
    generalize lifecycle.call q c = q' at hm
    cases hm with
    | revised hitems hvalid =>
      refine ⟨_, rfl, (congrArg State.isTerminal hd).symm, ?_⟩
      show _ = (q.state, (q.appendRevision _).currentRevision.number)
      rw [currentRevision_appendRevision]
      rfl
    | _ => exact ⟨_, rfl, rfl, rfl⟩

theorem History.call (h : q.History) (c : Call) : (lifecycle.call q c).History := by
  rcases call_cases q c with hs | ⟨-, hd, hm⟩
  · rw [hs]
    exact h
  · obtain ⟨hn, hvalid, ha, hre, ht⟩ := h
    have hf {id tenantID lead number time approver} :
        ¬ .approved id tenantID lead number time approver ∈ q.events := fun hold => by
      cases hd.symm.trans (ht hold).1
    generalize lifecycle.call q c = q' at hm
    cases hm with
    | revised hitems hi =>
      refine ⟨fun i r hr => ?_, fun r hr => ?_, ha, hre, fun ht' => ?_⟩
      · change (q.revisions ++ [q.nextRevision _])[i]? = some r at hr
        rw [List.getElem?_append, List.getElem?_singleton] at hr
        split at hr
        · exact hn i r hr
        · split at hr
          · cases hr
            show q.revisions.length + 1 = i + 1
            omega
          · cases hr
      · rcases mem_append.mp hr with hr | hr
        · exact hvalid r hr
        · obtain rfl := mem_singleton.mp hr
          exact ⟨hitems, hi⟩
      · rcases mem_append.mp ht' with hold | hne
        · exact absurd hold hf
        · cases mem_singleton.mp hne
    | approved =>
      refine ⟨hn, hvalid, ?_, ?_, fun ht' => ?_⟩
      · simp [recordEvent]
      · simp_all [recordEvent]
      · rcases mem_append.mp ht' with hold | hne
        · exact absurd hold hf
        · cases mem_singleton.mp hne
          exact ⟨rfl, rfl⟩
    | rejected hreason =>
      refine ⟨hn, hvalid, ?_, ?_, fun ht' => ?_⟩
      · simp_all [recordEvent]
      · simp [recordEvent, hreason]
      · rcases mem_append.mp ht' with hold | hne
        · exact absurd hold hf
        · cases mem_singleton.mp hne

theorem revisions_call (q : Quotation) (c : Call) :
    ∃ later, (lifecycle.call q c).revisions = q.revisions ++ later := by
  rcases call_cases q c with hs | ⟨-, -, hm⟩
  · exact ⟨[], by rw [hs, append_nil]⟩
  · generalize lifecycle.call q c = q' at hm
    cases hm with
    | revised => exact ⟨_, rfl⟩
    | _ => exact ⟨[], (append_nil _).symm⟩

theorem revisions_run (q : Quotation) (calls : List Call) :
    ∃ later, (lifecycle.run q calls).revisions = q.revisions ++ later :=
  Aggregate.run_invariant (A := lifecycle)
    (P := fun q' : Quotation => ∃ later, q'.revisions = q.revisions ++ later)
    ⟨[], (append_nil _).symm⟩ (fun q' c ⟨later, hl⟩ => by
      obtain ⟨more, hm⟩ := revisions_call q' c
      exact ⟨later ++ more, by rw [hm, hl, append_assoc]⟩) calls

theorem new_eq_ok {input : NewInput} (h : new input = .ok q) : q.History ∧
    lifecycle.view q = (.draft, 1) ∧ ∃ e, q.events = [e] ∧ e.closes = false ∧
    ∀ v, Event.replay v e = v := by
  unfold new at h
  simp only [Effect.ite_error_eq_ok] at h
  obtain ⟨-, -, -, -, -, hitems, h⟩ := h
  obtain ⟨_, hvalid, h⟩ := Effect.except_bind_ok h
  cases h
  refine ⟨⟨fun i r hr => ?_, fun r hr => ?_, by simp, by simp, by simp⟩, rfl, _, rfl, rfl,
    fun _ => rfl⟩
  · rw [List.getElem?_singleton] at hr
    split at hr
    · cases hr
      simp [*]
    · cases hr
  · obtain rfl := mem_singleton.mp hr
    exact ⟨hitems, validate_of_validateItems hvalid⟩

theorem runs_appendOnly {input : NewInput} (h : new input = .ok q) (calls more : List Call) :
    (lifecycle.run q calls).History ∧ lifecycle.Sound (.draft, 1) (lifecycle.run q calls) ∧
    ∃ later, (lifecycle.run q (calls ++ more)).revisions =
    (lifecycle.run q calls).revisions ++ later := by
  obtain ⟨hh, hv, e, he, hc, hr⟩ := new_eq_ok h
  refine ⟨Aggregate.run_invariant hh (fun _ c hq => hq.call c) calls,
    Aggregate.run_sound lawful ?_ ?_ calls, ?_⟩
  · show q.events.foldl Event.replay _ = _
    rw [he, hv]
    exact hr _
  · show q.events.countP Event.closes = q.state.isTerminal.toNat
    rw [he, countP_singleton, hc, (Prod.mk.inj hv).1]
    rfl
  · unfold Aggregate.run
    rw [foldl_append]
    exact revisions_run _ more

end

def firstOffer : NewInput where
  id := "q"
  tenantID := "t"
  customerLeadID := "l"
  initialItems := [⟨"p", "sku", "", 10, 0, 1200, 1200⟩]
  createdBy := "m"
  now := 1

theorem runs_appendOnly_firstOffer : ∃ q, new firstOffer = .ok q ∧
    (lifecycle.run q [.revise ⟨firstOffer.initialItems, "", "m", 2⟩, .approve "m" 3]).History :=
  ⟨_, rfl, (@runs_appendOnly _ firstOffer rfl _ []).1⟩

end Quotation

end Leadkart
