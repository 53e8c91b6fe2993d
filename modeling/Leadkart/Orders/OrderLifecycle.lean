import Mathlib.Data.List.Chain
import Mathlib.Data.List.Infix
import Leadkart.Logic.Machine
import Leadkart.Orders.Order

/-!
# The life of an order
-/

namespace Leadkart.Order

open List Option Machine

def State.isTerminal : State → Bool
  | complete | cancelled => true
  | _ => false

def canAdvance : State → State → Bool
  | .quotationDraft, target => target = .quotationApproved
  | .quotationApproved, target => target = .tokenPaid
  | .tokenPaid, target => target = .confirmed
  | .confirmed, target => target = .packed
  | .packed, target => target = .invoiced
  | .invoiced, target => target = .dispatched
  | .dispatched, target => target = .delivered
  | .delivered, target => target = .complete
  | .complete, _ | .cancelled, _ => false

/-! ## Mutators -/

def recordEvent (o : Order) (e : Event) : Order := { o with events := o.events ++ [e] }

def advance (o : Order) (target : State) (actor : String) (now : Time) : Order × Option Err :=
  if o.state = target then (o, none)
  else if o.state.isTerminal then
    (o, some ⟨errInvalidTransition, "cannot transition from terminal state " ++ o.state.string⟩)
  else if ¬canAdvance o.state target then
    (o, some ⟨errInvalidTransition, o.state.string ++ " → " ++ target.string ++ " not permitted"⟩)
  else if actor = "" then (o, some ⟨errInvalid, "actor required"⟩)
  else if now.isZero then (o, some ⟨errInvalid, "now required"⟩)
  else
    (recordEvent { o with state := target } (.advanced o.id o.tenantID o.state target now actor),
      none)

def advanceThen (o : Order) (target : State) (actor : String) (now : Time)
    (stamp : Order → Order) : Order × Option Err :=
  match o.advance target actor now with
  | (o', none) => (stamp o', none)
  | (o', some e) => (o', some e)

def recordTokenPayment (o : Order) (actor : String) (now : Time) : Order × Option Err :=
  o.advanceThen .tokenPaid actor now fun o => o

def confirm (o : Order) (actor : String) (now : Time) : Order × Option Err :=
  o.advanceThen .confirmed actor now fun o =>
    { o with confirmedAt := o.confirmedAt.or (some now) }

def markPacked (o : Order) (actor : String) (now : Time) : Order × Option Err :=
  o.advanceThen .packed actor now fun o => { o with packedAt := o.packedAt.or (some now) }

def attachInvoice (o : Order) (invoiceID actor : String) (now : Time) : Order × Option Err :=
  if isBlank invoiceID then (o, some ⟨errInvalid, "invoice_id required"⟩)
  else o.advanceThen .invoiced actor now fun o =>
    { o with invoiceID, invoicedAt := o.invoicedAt.or (some now) }

def attachConsignment (o : Order) (consignmentID actor : String) (now : Time) :
    Order × Option Err :=
  if isBlank consignmentID then (o, some ⟨errInvalid, "consignment_id required"⟩)
  else o.advanceThen .dispatched actor now fun o =>
    { o with consignmentNoteID := consignmentID, dispatchedAt := o.dispatchedAt.or (some now) }

def markDelivered (o : Order) (actor : String) (now : Time) : Order × Option Err :=
  o.advanceThen .delivered actor now fun o =>
    { o with deliveredAt := o.deliveredAt.or (some now) }

def markComplete (o : Order) (actor : String) (now : Time) : Order × Option Err :=
  o.advanceThen .complete actor now fun o =>
    { o with completedAt := o.completedAt.or (some now) }

def cancel (o : Order) (reason actor : String) (now : Time) : Order × Option Err :=
  if o.state = .cancelled then (o, none)
  else if o.state = .complete then
    (o, some ⟨errInvalidTransition, "cannot cancel completed order"⟩)
  else if isBlank reason then (o, some ⟨errInvalid, "cancellation reason required"⟩)
  else if actor = "" then (o, some ⟨errInvalid, "actor required"⟩)
  else if now.isZero then (o, some ⟨errInvalid, "now required"⟩)
  else
    (recordEvent
      { o with
        state := .cancelled
        cancellationReason := trimSpace reason
        cancelledAt := some now }
      (.cancelled o.id o.tenantID o.state (trimSpace reason) now actor), none)

inductive Call where
  | recordTokenPayment (actor : String) (now : Time)
  | confirm (actor : String) (now : Time)
  | markPacked (actor : String) (now : Time)
  | attachInvoice (invoiceID actor : String) (now : Time)
  | attachConsignment (consignmentID actor : String) (now : Time)
  | markDelivered (actor : String) (now : Time)
  | markComplete (actor : String) (now : Time)
  | cancel (reason actor : String) (now : Time)

def Call.apply (o : Order) : Call → Order × Option Err
  | .recordTokenPayment actor now => o.recordTokenPayment actor now
  | .confirm actor now => o.confirm actor now
  | .markPacked actor now => o.markPacked actor now
  | .attachInvoice invoiceID actor now => o.attachInvoice invoiceID actor now
  | .attachConsignment consignmentID actor now => o.attachConsignment consignmentID actor now
  | .markDelivered actor now => o.markDelivered actor now
  | .markComplete actor now => o.markComplete actor now
  | .cancel reason actor now => o.cancel reason actor now

def step (o : Order) (c : Call) : Option Order := some (c.apply o).1

def Event.newState : Event → State
  | .created .. => .quotationApproved
  | .advanced _ _ _ newState _ _ => newState
  | .cancelled .. => .cancelled

def Event.priorState : Event → Option State
  | .created .. => none
  | .advanced _ _ priorState _ _ _ | .cancelled _ _ priorState _ _ _ => some priorState

def path (o : Order) : List State := o.events.map Event.newState

def forward : List State :=
  [.quotationApproved, .tokenPaid, .confirmed, .packed, .invoiced, .dispatched, .delivered,
    .complete]

def marks (o : Order) : State → List Bool
  | .confirmed => [o.confirmedAt.isSome]
  | .packed => [o.packedAt.isSome]
  | .invoiced => [o.invoicedAt.isSome, o.invoiceID ≠ ""]
  | .dispatched => [o.dispatchedAt.isSome, o.consignmentNoteID ≠ ""]
  | .delivered => [o.deliveredAt.isSome]
  | .complete => [o.completedAt.isSome]
  | .cancelled => [o.cancelledAt.isSome, o.cancellationReason ≠ ""]
  | .quotationDraft | .quotationApproved | .tokenPaid => []

structure Lifecycle (o : Order) : Prop where
  state : o.path.getLast? = some o.state
  chained : o.events.IsChain fun e e' => e'.priorState = some e.newState
  path : o.path <+: forward ∨ ∃ p, o.path = p ++ [.cancelled] ∧ p <+: forward ∧ .complete ∉ p
  marks (s : State) : ∀ b ∈ o.marks s, b = true ↔ s ∈ o.path

def Keeps (o : Order) : Call → Prop
  | .attachInvoice invoiceID _ _ =>
    o.state = .invoiced → isBlank invoiceID = true ∨ invoiceID = o.invoiceID
  | .attachConsignment consignmentID _ _ =>
    o.state = .dispatched → isBlank consignmentID = true ∨ consignmentID = o.consignmentNoteID
  | _ => True

instance (o : Order) : ∀ c, Decidable (Keeps o c)
  | .attachInvoice .. | .attachConsignment .. => inferInstanceAs (Decidable (_ → _))
  | .recordTokenPayment .. | .confirm .. | .markPacked .. | .markDelivered .. | .markComplete ..
  | .cancel .. => .isTrue trivial

structure Moved (o o' : Order) : Prop where
  event : ∃ e, o'.events = o.events ++ [e] ∧ e.newState = o'.state ∧ e.priorState = some o.state
  edge : canAdvance o.state o'.state = true ∨ o'.state = .cancelled ∧ o.state.isTerminal = false
  own : ∀ b ∈ o'.marks o'.state, b = true
  others (s : State) : s ≠ o'.state → o'.marks s = o.marks s
  invoiceID : o'.state ≠ .invoiced → o'.invoiceID = o.invoiceID
  consignmentNoteID : o'.state ≠ .dispatched → o'.consignmentNoteID = o.consignmentNoteID

variable {o o' : Order} {c : Call} {s : State}

theorem forward_cases {p : List State} (hp : p <+: forward) (hl : p.getLast? = some s) :
    (∀ t, canAdvance s t = true → p ++ [t] <+: forward ∧ t ∉ p) ∧
    (s ≠ .complete → .complete ∉ p) := by
  have ha : ∀ p ∈ forward.inits, ∀ s ∈ p.getLast?,
      (∀ t ∈ forward, canAdvance s t = true → p ++ [t] <+: forward ∧ t ∉ p) ∧
        (s ≠ .complete → .complete ∉ p) := by decide
  obtain ⟨hn, hc⟩ := ha p ((mem_inits ..).mpr hp) s hl
  refine ⟨fun t ht => hn t ?_ ht, hc⟩
  cases s <;> simp only [canAdvance, decide_eq_true_eq, Bool.false_eq_true] at ht <;>
    exact ht ▸ by decide

theorem Moved.path (h : Moved o o') : o'.path = o.path ++ [o'.state] := by
  obtain ⟨e, he, hn, -⟩ := h.event
  simp [Order.path, he, hn]

theorem Lifecycle.forward_of_moved (h : Lifecycle o) (hm : Moved o o') : o.path <+: forward := by
  refine h.path.resolve_right ?_
  rintro ⟨p, hp, -⟩
  have hl := h.state
  rw [hp, List.getLast?_concat] at hl
  rcases hm.edge with he | ⟨-, he⟩ <;> rw [← Option.some.inj hl] at he <;>
    cases he

theorem Lifecycle.moved (h : Lifecycle o) (hm : Moved o o') : Lifecycle o' := by
  obtain ⟨e, hev, hne, hp⟩ := hm.event
  have hf := h.forward_of_moved hm
  obtain ⟨hn, hc⟩ := forward_cases hf h.state
  constructor
  · rw [hm.path, List.getLast?_concat]
  · rw [hev, isChain_append]
    refine ⟨h.chained, isChain_singleton _, ?_⟩
    intro e₁ he₁ e₂ he₂
    cases he₂
    have hl := h.state
    rw [Order.path, List.getLast?_map, he₁] at hl
    rw [hp, ← Option.some.inj hl]
  · rw [hm.path]
    rcases hm.edge with hed | ⟨hed, ht⟩
    · exact .inl (hn _ hed).1
    · refine .inr ⟨o.path, by rw [hed], hf, hc ?_⟩
      rintro hstate
      rw [hstate] at ht
      cases ht
  · intro s b hb
    rw [hm.path, mem_append, mem_singleton]
    by_cases hs : s = o'.state
    · subst hs
      exact iff_of_true (hm.own b hb) (.inr rfl)
    · rw [hm.others s hs] at hb
      rw [h.marks s b hb, or_iff_left hs]

variable {input : NewInput}

theorem lifecycle_new (h : new input = .ok o) : Lifecycle o := by
  simp only [new, Effect.ite_error_eq_ok] at h
  obtain ⟨-, -, -, -, -, -, -, h⟩ := h
  obtain ⟨_, -, h⟩ := Effect.except_bind_ok h
  cases h
  constructor
  · rfl
  · exact isChain_singleton _
  · exact .inl (by show [State.quotationApproved] <+: forward; decide)
  · intro s
    cases s <;> simp [Order.marks, Order.path, Event.newState]

theorem advanceThen_cases (o : Order) (target : State) (a : String) (now : Time)
    (sp : Order → Order) : (∃ e, o.advanceThen target a now sp = (o, some e)) ∨
    (o.state = target ∧ o.advanceThen target a now sp = (sp o, none)) ∨
    (canAdvance o.state target = true ∧ ∃ e : Event, e.newState = target ∧
    e.priorState = some o.state ∧ o.advanceThen target a now sp =
    (sp (recordEvent { o with state := target } e), none)) := by
  unfold advanceThen advance
  split_ifs with hs ht he ha hn
  · exact .inr (.inl ⟨hs, rfl⟩)
  · exact .inl ⟨_, rfl⟩
  · exact .inl ⟨_, rfl⟩
  · exact .inl ⟨_, rfl⟩
  · exact .inr (.inr ⟨he, _, rfl, rfl, rfl⟩)
  · exact .inl ⟨_, rfl⟩

structure Stamps (target : State) (stamp : Order → Order) : Prop where
  state (o : Order) : (stamp o).state = o.state
  events (o : Order) : (stamp o).events = o.events
  own (o : Order) : ∀ b ∈ (stamp o).marks target, b = true
  others (o : Order) (s : State) : s ≠ target → (stamp o).marks s = o.marks s
  invoiceID (o : Order) : target ≠ .invoiced → (stamp o).invoiceID = o.invoiceID
  consignmentNoteID (o : Order) :
    target ≠ .dispatched → (stamp o).consignmentNoteID = o.consignmentNoteID

theorem advanceThen_moved {target : State} {sp : Order → Order} (hs : Stamps target sp)
    (hse : o.state = target → sp o = o) (a : String) (now : Time) :
    (o.advanceThen target a now sp).1 = o ∨ (o.advanceThen target a now sp).2 = none ∧
    Moved o (o.advanceThen target a now sp).1 := by
  rcases advanceThen_cases o target a now sp with ⟨e, h⟩ | ⟨hstate, h⟩ |
    ⟨he, e, hn, hp, h⟩ <;> rw [h]
  · exact .inl rfl
  · exact .inl (hse hstate)
  · have hstate := hs.state (recordEvent { o with state := target } e)
    refine .inr ⟨rfl, ⟨e, hs.events _, hn.trans hstate.symm, hp⟩, ?_, ?_, ?_, ?_, ?_⟩ <;>
      rw [hstate]
    · exact .inl he
    · exact hs.own _
    · exact fun s hne => hs.others _ s hne
    · exact hs.invoiceID _
    · exact hs.consignmentNoteID _

theorem Lifecycle.marked (h : Lifecycle o) (hs : o.state = s) : ∀ b ∈ o.marks s, b = true := by
  intro b hb
  exact (h.marks s b hb).mpr (hs ▸ mem_of_getLast? h.state)

theorem ne_empty_of_not_isBlank {s : String} (h : ¬isBlank s = true) : s ≠ "" := by
  rintro rfl
  exact h (by decide)

theorem apply_cases (h : Lifecycle o) (hk : Keeps o c) :
    (c.apply o).1 = o ∨ (c.apply o).2 = none ∧ Moved o (c.apply o).1 := by
  cases c with
  | recordTokenPayment actor now =>
    refine advanceThen_moved ?_ (fun _ => rfl) actor now
    constructor <;> simp [Order.marks]
  | confirm actor now | markPacked actor now | markDelivered actor now | markComplete actor now =>
    refine advanceThen_moved ?_ (fun hstate => ?_) actor now
    · constructor <;> simp +contextual [Order.marks]
      intro o s hs
      cases s <;> simp_all
    · have hm := h.marked hstate
      simp only [Order.marks, mem_singleton, forall_eq] at hm
      rw [or_of_isSome hm]
  | attachInvoice id actor now | attachConsignment id actor now =>
    simp only [Call.apply, attachInvoice, attachConsignment]
    split_ifs with hb
    · exact .inl rfl
    refine advanceThen_moved ?_ (fun hstate => ?_) actor now
    · constructor <;> simp +contextual [Order.marks]
      · exact fun _ => ne_empty_of_not_isBlank hb
      intro o s hs
      cases s <;> simp_all
    · have hm := h.marked hstate
      simp [Order.marks] at hm
      obtain rfl := (hk hstate).resolve_left hb
      rw [or_of_isSome hm.1]
  | cancel reason actor now =>
    simp only [Call.apply, cancel]
    split_ifs with hse hc hb ha hn
    · exact .inl rfl
    · exact .inl rfl
    · exact .inl rfl
    · exact .inl rfl
    · exact .inl rfl
    refine .inr ⟨rfl, ⟨_, rfl, rfl, rfl⟩, .inr ⟨rfl, ?_⟩, ?_, ?_, fun _ => rfl, fun _ => rfl⟩
    · cases hstate : o.state <;> simp_all [State.isTerminal]
    · refine forall_mem_cons.mpr ⟨rfl, forall_mem_singleton.mpr (decide_eq_true ?_)⟩
      simpa [isBlank, recordEvent] using hb
    · intro s hs
      cases s with
      | cancelled => exact absurd rfl hs
      | _ => rfl

structure Recorded (o o' : Order) (err : Option Err) : Prop where
  error : err ≠ none → o' = o
  silent : o'.events = o.events → o' = o
  moved : o' = o ∨ o'.path = o.path ++ [o'.state]
  invoiceID : o.invoiceID ≠ "" → o'.invoiceID = o.invoiceID
  consignmentNoteID : o.consignmentNoteID ≠ "" → o'.consignmentNoteID = o.consignmentNoteID

theorem recorded_self (o : Order) (err : Option Err) : Recorded o o err where
  error _ := rfl
  silent _ := rfl
  moved := .inl rfl
  invoiceID _ := rfl
  consignmentNoteID _ := rfl

theorem Lifecycle.moved_ne (h : Lifecycle o) (hm : Moved o o') (hs : s ∈ o.path)
    (ho : s ≠ .cancelled) : o'.state ≠ s := by
  rintro rfl
  have he := hm.edge.resolve_right fun hc => ho hc.1
  exact ((forward_cases (h.forward_of_moved hm) h.state).1 _ he).2 hs

theorem Lifecycle.recorded (h : Lifecycle o) (hk : Keeps o c) :
    Recorded o (c.apply o).1 (c.apply o).2 := by
  rcases apply_cases h hk with hs | ⟨hok, hm⟩
  · rw [hs]
    exact recorded_self o _
  refine ⟨fun he => absurd hok he, fun hev => ?_, .inr hm.path, fun hse => ?_, fun hse => ?_⟩
  · obtain ⟨e, he, -⟩ := hm.event
    simp [he] at hev
  · have hr := (h.marks .invoiced (o.invoiceID ≠ "") (by simp [Order.marks])).mp
    exact hm.invoiceID (h.moved_ne hm (hr (by simpa using hse)) (by decide))
  · have hr := (h.marks .dispatched (o.consignmentNoteID ≠ "") (by simp [Order.marks])).mp
    exact hm.consignmentNoteID (h.moved_ne hm (hr (by simpa using hse)) (by decide))

/-- A run that links no second id to a stage keeps the lifecycle of an order. -/
theorem order_lifecycle {o₀ : Order} (hnew : new input = .ok o₀) {calls : List Call} {c : Call}
    (hkeeps : Along step Keeps o₀ (calls ++ [c])) (hr : run step o₀ calls = some o) :
    Lifecycle o ∧ Recorded o (c.apply o).1 (c.apply o).2 := by
  have hl : Lifecycle o := by
    refine run_invariant (lifecycle_new hnew) ?_ hkeeps.append_left hr
    intro o c o' h hk hs
    cases hs
    rcases apply_cases h hk with hsa | ⟨-, hm⟩
    · rwa [hsa]
    · exact h.moved hm
  exact ⟨hl, hl.recorded (hkeeps.append_right hr).1⟩

def invoicedOnce : List Call :=
  [.recordTokenPayment "m1" 2, .confirm "m1" 3, .markPacked "m1" 4, .attachInvoice "inv-1" "m1" 5]

theorem invoice_linked_once :
    ∃ o₀ o, new (sampleInput 1000) = .ok o₀ ∧ run step o₀ invoicedOnce = some o ∧
    o.invoiceID = "inv-1" ∧ Lifecycle o ∧ Recorded o ((Call.attachInvoice "inv-1" "m2" 6).apply o).1
    ((Call.attachInvoice "inv-1" "m2" 6).apply o).2 := by
  refine ⟨_, _, rfl, rfl, rfl, ?_⟩
  exact order_lifecycle (show new (sampleInput 1000) = .ok _ from rfl) (by decide)
    (show run step _ invoicedOnce = some _ from rfl)

theorem invoice_replaced :
    ∃ o₀ o, new (sampleInput 1000) = .ok o₀ ∧ run step o₀ invoicedOnce = some o ∧
    ((Call.attachInvoice "inv-2" "m2" 6).apply o).2 = none ∧
    ((Call.attachInvoice "inv-2" "m2" 6).apply o).1.events = o.events ∧
    o.invoiceID = "inv-1" ∧ ((Call.attachInvoice "inv-2" "m2" 6).apply o).1.invoiceID = "inv-2" :=
  ⟨_, _, rfl, rfl, rfl, rfl, rfl, rfl⟩

end Leadkart.Order
