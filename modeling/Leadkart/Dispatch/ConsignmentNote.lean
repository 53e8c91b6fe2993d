import Mathlib.Data.List.Chain
import Leadkart.Common.Tenancy
import Leadkart.Logic.Machine

/-!
# Consignment notes
-/

namespace Leadkart

open List Effect

inductive ConsignmentNote.Status where
  | pending
  | dispatched
  | inTransit
  | delivered
  | failed
  deriving DecidableEq

open ConsignmentNote (Status)

inductive ConsignmentNote.Event where
  | created (consignmentNoteID tenantID orderID carrierName : String) (boxCount weightGrams : Int)
      (expectedDeliveryAt : Option Time) (createdAt : Time) (createdByMembershipID : String)
  | statusChanged (consignmentNoteID tenantID orderID : String) (priorStatus newStatus : Status)
      (transitionedAt : Time) (transitionedByMembership : String)
  deriving DecidableEq

structure ConsignmentNote where
  (id tenantID orderID : String)
  status : Status
  carrierName : String
  docketNumber : String := ""
  (boxCount weightGrams : Int)
  expectedDeliveryAt : Option Time
  (dispatchedAt inTransitAt deliveredAt failedAt : Option Time := none)
  failureReason : String := ""
  createdAt : Time
  createdByMembershipID : String
  events : List ConsignmentNote.Event := []
  deriving DecidableEq

namespace ConsignmentNote

open Machine

def errInvalid : Sentinel := ⟨.unknown, "", "consignmentnote: invalid"⟩
def errInvalidTransition : Sentinel := ⟨.unknown, "", "consignmentnote: invalid status transition"⟩

def Status.string : Status → String
  | pending => "pending"
  | dispatched => "dispatched"
  | inTransit => "in_transit"
  | delivered => "delivered"
  | failed => "failed"

def Status.isTerminal (s : Status) : Bool := s = delivered || s = failed

def canAdvance : Status → Status → Bool
  | .pending, target => target = .dispatched || target = .failed
  | .dispatched, target => target = .inTransit || target = .delivered || target = .failed
  | .inTransit, target => target = .delivered || target = .failed
  | .delivered, _ | .failed, _ => false

structure NewInput where
  (id tenantID orderID carrierName : String)
  (boxCount weightGrams : Int)
  expectedDeliveryAt : Option Time := none
  createdByMembershipID : String
  now : Time

def NewInput.pending (input : NewInput) : ConsignmentNote where
  id := input.id
  tenantID := input.tenantID
  orderID := input.orderID
  status := .pending
  carrierName := trimSpace input.carrierName
  boxCount := input.boxCount
  weightGrams := input.weightGrams
  expectedDeliveryAt := input.expectedDeliveryAt
  createdAt := input.now
  createdByMembershipID := input.createdByMembershipID

def NewInput.createdEvent (input : NewInput) : Event :=
  .created input.id input.tenantID input.orderID (trimSpace input.carrierName) input.boxCount
    input.weightGrams input.expectedDeliveryAt input.now input.createdByMembershipID

def recordEvent (n : ConsignmentNote) (e : Event) : ConsignmentNote :=
  { n with events := n.events ++ [e] }

def new (codec : UuidCodec) (input : NewInput) : Except Err ConsignmentNote := do
  codec.validateUUID errInvalid "id" input.id
  codec.validateUUID errInvalid "tenant_id" input.tenantID
  codec.validateUUID errInvalid "order_id" input.orderID
  if isBlank input.carrierName then .error ⟨errInvalid, "carrier_name required"⟩
  else if input.boxCount ≤ 0 then
    .error ⟨errInvalid, s!"box_count must be positive (got {input.boxCount})"⟩
  else if input.weightGrams ≤ 0 then
    .error ⟨errInvalid, s!"weight_grams must be positive (got {input.weightGrams})"⟩
  else do
    codec.validateUUID errInvalid "created_by_membership_id" input.createdByMembershipID
    if input.now.isZero then .error ⟨errInvalid, "now required"⟩
    else if input.expectedDeliveryAt.any fun t => t.before input.now then
      .error ⟨errInvalid, "expected_delivery_at must be in the future"⟩
    else return input.pending.recordEvent input.createdEvent

variable {codec : UuidCodec} {input : NewInput}

theorem new_eq_ok {n : ConsignmentNote} (h : new codec input = .ok n) :
    n = input.pending.recordEvent input.createdEvent := by
  simp only [new, except_bind_eq_ok] at h
  obtain ⟨_, -, _, -, _, -, h⟩ := h
  simp only [ite_error_eq_ok] at h
  obtain ⟨-, -, -, h⟩ := h
  obtain ⟨_, -, h⟩ := except_bind_ok h
  simp only [ite_error_eq_ok] at h
  exact (Except.ok.inj h.2.2).symm

def advance (n : ConsignmentNote) (target : Status) (actor : String) (now : Time) :
    ConsignmentNote × Option Err :=
  if n.status = target then (n, none)
  else if n.status.isTerminal then
    (n, some ⟨errInvalidTransition, "cannot transition from terminal status " ++ n.status.string⟩)
  else if ¬canAdvance n.status target then
    (n, some ⟨errInvalidTransition, n.status.string ++ " → " ++ target.string ++ " not permitted"⟩)
  else if actor = "" then (n, some ⟨errInvalid, "actor required"⟩)
  else if now.isZero then (n, some ⟨errInvalid, "now required"⟩)
  else
    (recordEvent { n with status := target }
      (.statusChanged n.id n.tenantID n.orderID n.status target now actor), none)

def advanceThen (n : ConsignmentNote) (target : Status) (actor : String) (now : Time)
    (stamp : ConsignmentNote → ConsignmentNote) : ConsignmentNote × Option Err :=
  match n.advance target actor now with
  | (n', none) => (stamp n', none)
  | (n', some e) => (n', some e)

def markDispatched (n : ConsignmentNote) (docketNumber actor : String) (now : Time) :
    ConsignmentNote × Option Err :=
  if isBlank docketNumber then (n, some ⟨errInvalid, "docket_number required"⟩)
  else if n.status = .dispatched then
    if n.docketNumber ≠ trimSpace docketNumber then
      (n, some ⟨errInvalid, "docket_number mismatch on re-mark (existing " ++ n.docketNumber.quote ++
        ", supplied " ++ (trimSpace docketNumber).quote ++ ")"⟩)
    else (n, none)
  else n.advanceThen .dispatched actor now fun n =>
    { n with docketNumber := trimSpace docketNumber, dispatchedAt := n.dispatchedAt.or (some now) }

def markInTransit (n : ConsignmentNote) (actor : String) (now : Time) :
    ConsignmentNote × Option Err :=
  n.advanceThen .inTransit actor now fun n => { n with inTransitAt := n.inTransitAt.or (some now) }

def markDelivered (n : ConsignmentNote) (actor : String) (now : Time) :
    ConsignmentNote × Option Err :=
  n.advanceThen .delivered actor now fun n => { n with deliveredAt := n.deliveredAt.or (some now) }

def markFailed (n : ConsignmentNote) (reason actor : String) (now : Time) :
    ConsignmentNote × Option Err :=
  if isBlank reason then (n, some ⟨errInvalid, "failure reason required"⟩)
  else n.advanceThen .failed actor now fun n =>
    { n with failureReason := trimSpace reason, failedAt := n.failedAt.or (some now) }

inductive Call where
  | markDispatched (docketNumber actor : String) (now : Time)
  | markInTransit (actor : String) (now : Time)
  | markDelivered (actor : String) (now : Time)
  | markFailed (reason actor : String) (now : Time)

def Call.apply (n : ConsignmentNote) : Call → ConsignmentNote × Option Err
  | .markDispatched docketNumber actor now => n.markDispatched docketNumber actor now
  | .markInTransit actor now => n.markInTransit actor now
  | .markDelivered actor now => n.markDelivered actor now
  | .markFailed reason actor now => n.markFailed reason actor now

def step (n : ConsignmentNote) (c : Call) : Option ConsignmentNote := some (c.apply n).1

def Event.newStatus : Event → Status
  | .created .. => .pending
  | .statusChanged _ _ _ _ newStatus _ _ => newStatus

def path (n : ConsignmentNote) : List Status := n.events.map Event.newStatus

def replay (events : List Event) : Option Status × String :=
  events.foldl (fun acc e => (some e.newStatus, acc.2)) (none, "")

theorem replay_eq (ev : List Event) : replay ev = ((ev.map Event.newStatus).getLast?, "") := by
  induction ev using List.reverseRecOn with
  | nil => rfl
  | append_singleton ev e ih => simp_all [replay, foldl_append]

def stage (n : ConsignmentNote) : Status → Option Time × String
  | .pending => (some n.createdAt, n.carrierName)
  | .dispatched => (n.dispatchedAt, n.docketNumber)
  | .inTransit => (n.inTransitAt, "")
  | .delivered => (n.deliveredAt, "")
  | .failed => (n.failedAt, n.failureReason)

def Status.rank : Status → Nat
  | pending => 0
  | dispatched => 1
  | inTransit => 2
  | delivered => 3
  | failed => 4

structure Lifecycle (n : ConsignmentNote) : Prop where
  status : n.path.getLast? = some n.status
  edges : n.path.IsChain fun s t => canAdvance s t = true
  ranked : ∀ s ∈ n.path, s.rank ≤ n.status.rank
  stamped (s : Status) : (n.stage s).1.isSome = true ↔ s ∈ n.path
  reason : n.failureReason ≠ "" ↔ .failed ∈ n.path

def Keeps (n : ConsignmentNote) : Call → Prop
  | .markFailed reason _ _ =>
    n.status = .failed → isBlank reason = true ∨ trimSpace reason = n.failureReason
  | _ => True

instance (n : ConsignmentNote) : ∀ c, Decidable (Keeps n c)
  | .markFailed .. => inferInstanceAs (Decidable (_ → _))
  | .markDispatched .. | .markInTransit .. | .markDelivered .. => .isTrue trivial

variable {n n' : ConsignmentNote} {c : Call} {s : Status}

theorem rank_of_canAdvance {t : Status} (h : canAdvance s t = true) : s.rank < t.rank := by
  revert h
  cases s <;> cases t <;> decide

structure Moved (n n' : ConsignmentNote) : Prop where
  event : ∃ now actor, n'.events =
    n.events ++ [.statusChanged n.id n.tenantID n.orderID n.status n'.status now actor]
  ids : (n'.id, n'.tenantID, n'.orderID) = (n.id, n.tenantID, n.orderID)
  edge : canAdvance n.status n'.status = true
  own : (n'.stage n'.status).1.isSome = true
  others (s : Status) : s ≠ n'.status → n'.stage s = n.stage s
  reason : n'.status = .failed → n'.failureReason ≠ ""

theorem Moved.path (h : Moved n n') : n'.path = n.path ++ [n'.status] := by
  obtain ⟨now, actor, he⟩ := h.event
  simp [ConsignmentNote.path, he, Event.newStatus]

theorem Lifecycle.moved (h : Lifecycle n) (hm : Moved n n') : Lifecycle n' := by
  have hr := rank_of_canAdvance hm.edge
  constructor
  · rw [hm.path, List.getLast?_concat]
  · rw [hm.path, isChain_append]
    refine ⟨h.edges, isChain_singleton _, ?_⟩
    intro s hs t ht
    cases ht
    obtain rfl := Option.some.inj (h.status.symm.trans hs)
    exact hm.edge
  · intro s hs
    rw [hm.path, mem_append, mem_singleton] at hs
    rcases hs with hs | rfl
    · exact (h.ranked s hs).trans hr.le
    · exact le_rfl
  · intro s
    rw [hm.path, mem_append, mem_singleton]
    by_cases hs : s = n'.status
    · subst hs
      exact iff_of_true hm.own (.inr rfl)
    · rw [hm.others s hs, h.stamped s, or_iff_left hs]
  · rw [hm.path, mem_append, mem_singleton]
    by_cases hs : .failed = n'.status
    · exact iff_of_true (hm.reason hs.symm) (.inr hs)
    · have hk := congrArg Prod.snd (hm.others .failed hs)
      rw [or_iff_left hs, ← h.reason]
      exact not_congr (Eq.congr_left hk)

theorem lifecycle_new (h : new codec input = .ok n) : Lifecycle n := by
  obtain rfl := new_eq_ok h
  constructor
  · rfl
  · exact isChain_singleton _
  · exact fun s hs => mem_singleton.mp hs ▸ le_rfl
  · intro s
    cases s <;> simp [NewInput.pending, recordEvent, stage, ConsignmentNote.path, Event.newStatus,
      NewInput.createdEvent]
  · simp [NewInput.pending, recordEvent, ConsignmentNote.path, Event.newStatus,
      NewInput.createdEvent]

theorem advanceThen_cases (n : ConsignmentNote) (target : Status) (a : String) (now : Time)
    (sp : ConsignmentNote → ConsignmentNote) : (∃ e, n.advanceThen target a now sp = (n, some e)) ∨
    (n.status = target ∧ n.advanceThen target a now sp = (sp n, none)) ∨
    (canAdvance n.status target = true ∧ n.advanceThen target a now sp =
    (sp (recordEvent { n with status := target }
            (.statusChanged n.id n.tenantID n.orderID n.status target now a)), none)) := by
  unfold advanceThen advance
  split_ifs with hs ht he ha hn
  · exact .inr (.inl ⟨hs, rfl⟩)
  · exact .inl ⟨_, rfl⟩
  · exact .inl ⟨_, rfl⟩
  · exact .inl ⟨_, rfl⟩
  · exact .inr (.inr ⟨he, rfl⟩)
  · exact .inl ⟨_, rfl⟩

structure Stamps (target : Status) (stamp : ConsignmentNote → ConsignmentNote) : Prop where
  kept (n : ConsignmentNote) : ((stamp n).status, (stamp n).events, (stamp n).id,
    (stamp n).tenantID, (stamp n).orderID) = (n.status, n.events, n.id, n.tenantID, n.orderID)
  own (n : ConsignmentNote) : ((stamp n).stage target).1.isSome = true
  others (n : ConsignmentNote) (s : Status) : s ≠ target → (stamp n).stage s = n.stage s
  reason (n : ConsignmentNote) : target = .failed → (stamp n).failureReason ≠ ""

def Repeated (n n' : ConsignmentNote) : Prop := n'.status = n.status ∧ n'.events = n.events

theorem advanceThen_moved {target : Status} {sp : ConsignmentNote → ConsignmentNote}
    (hs : Stamps target sp) (n : ConsignmentNote) (actor : String) (now : Time) :
    (∃ e, n.advanceThen target actor now sp = (n, some e)) ∨
    (n.status = target ∧ n.advanceThen target actor now sp = (sp n, none) ∧ Repeated n (sp n)) ∨
    ∃ n', n.advanceThen target actor now sp = (n', none) ∧ Moved n n' := by
  rcases advanceThen_cases n target actor now sp with h | ⟨hst, h⟩ | ⟨hed, h⟩
  · exact .inl h
  · have hk := hs.kept n
    simp only [Prod.mk.injEq] at hk
    exact .inr (.inl ⟨hst, h, hk.1, hk.2.1⟩)
  · have hk := hs.kept (recordEvent { n with status := target }
      (.statusChanged n.id n.tenantID n.orderID n.status target now actor))
    simp only [Prod.mk.injEq] at hk
    obtain ⟨hst, he, hid, ht, ho⟩ := hk
    refine .inr (.inr ⟨_, h, ⟨now, actor, ?_⟩, ?_, ?_, ?_, ?_, ?_⟩)
    · rw [he, hst]
      rfl
    · rw [hid, ht, ho]
      rfl
    · rw [hst]
      exact hed
    · rw [hst]
      exact hs.own _
    · rw [hst]
      exact fun s hne => hs.others _ s hne
    · rw [hst]
      exact hs.reason _

theorem trimSpace_ne_empty {s : String} (h : ¬isBlank s = true) : trimSpace s ≠ "" := by
  simpa [isBlank] using h

theorem Lifecycle.stamped_status (h : Lifecycle n) (hs : n.status = s) :
    (n.stage s).1.isSome = true := (h.stamped s).mpr (hs ▸ List.mem_of_getLast? h.status)

theorem apply_cases (n : ConsignmentNote) (c : Call) : (∃ e, c.apply n = (n, some e)) ∨
    (∃ n', c.apply n = (n', none) ∧ Repeated n n' ∧ (Lifecycle n → Keeps n c → n' = n)) ∨
    ∃ n', c.apply n = (n', none) ∧ Moved n n' := by
  cases c with
  | markDispatched docketNumber actor now =>
    simp only [Call.apply, markDispatched]
    split_ifs with hb hss hd
    · exact .inl ⟨_, rfl⟩
    · exact .inl ⟨_, rfl⟩
    · exact .inr (.inl ⟨n, rfl, ⟨rfl, rfl⟩, fun _ _ => rfl⟩)
    have hst : Stamps .dispatched fun n => { n with
        docketNumber := trimSpace docketNumber, dispatchedAt := n.dispatchedAt.or (some now) } := by
      constructor <;> simp [stage]
      intro n s hs
      cases s <;> simp_all
    rcases advanceThen_moved hst n actor now with h | ⟨hse, -⟩ | h
    · exact .inl h
    · exact absurd hse hss
    · exact .inr (.inr h)
  | markInTransit actor now =>
    have hst : Stamps .inTransit fun n => { n with
        inTransitAt := n.inTransitAt.or (some now) } := by
      constructor <;> simp [stage]
      intro n s hs
      cases s <;> simp_all
    rcases advanceThen_moved hst n actor now with h | ⟨hse, h, hr⟩ | h
    · exact .inl h
    · refine .inr (.inl ⟨_, h, hr, fun hl _ => ?_⟩)
      have hset : n.inTransitAt.isSome = true := hl.stamped_status hse
      rw [Option.or_of_isSome hset]
    · exact .inr (.inr h)
  | markDelivered actor now =>
    have hst : Stamps .delivered fun n => { n with
        deliveredAt := n.deliveredAt.or (some now) } := by
      constructor <;> simp [stage]
      intro n s hs
      cases s <;> simp_all
    rcases advanceThen_moved hst n actor now with h | ⟨hse, h, hr⟩ | h
    · exact .inl h
    · refine .inr (.inl ⟨_, h, hr, fun hl _ => ?_⟩)
      have hset : n.deliveredAt.isSome = true := hl.stamped_status hse
      rw [Option.or_of_isSome hset]
    · exact .inr (.inr h)
  | markFailed reason actor now =>
    simp only [Call.apply, markFailed]
    split_ifs with hb
    · exact .inl ⟨_, rfl⟩
    have hst : Stamps .failed fun n => { n with
        failureReason := trimSpace reason, failedAt := n.failedAt.or (some now) } := by
      constructor <;> simp [stage, trimSpace_ne_empty hb]
      intro n s hs
      cases s <;> simp_all
    rcases advanceThen_moved hst n actor now with h | ⟨hse, h, hr⟩ | h
    · exact .inl h
    · refine .inr (.inl ⟨_, h, hr, fun hl hk => ?_⟩)
      have hset : n.failedAt.isSome = true := hl.stamped_status hse
      rw [Option.or_of_isSome hset, (hk hse).resolve_left hb]
    · exact .inr (.inr h)

theorem Lifecycle.failed_iff (h : Lifecycle n) : .failed ∈ n.path ↔ n.status = .failed := by
  refine ⟨fun hm => ?_, fun hs => hs ▸ mem_of_getLast? h.status⟩
  have hr := h.ranked _ hm
  revert hr
  cases n.status <;> decide

structure Recorded (n n' : ConsignmentNote) (err : Option Err) : Prop where
  error : err ≠ none → n' = n
  silent : n'.events = n.events → n' = n
  moved : n' = n ∨ canAdvance n.status n'.status = true ∧ n'.path = n.path ++ [n'.status]
  kept : ∀ s ∈ n.path, n'.stage s = n.stage s

theorem recorded_self (n : ConsignmentNote) (err : Option Err) : Recorded n n err :=
  ⟨fun _ => rfl, fun _ => rfl, .inl rfl, fun _ _ => rfl⟩

theorem Lifecycle.recorded (h : Lifecycle n) (hk : Keeps n c) :
    Lifecycle (c.apply n).1 ∧ Recorded n (c.apply n).1 (c.apply n).2 := by
  rcases apply_cases n c with ⟨e, ha⟩ | ⟨n', ha, -, hsa⟩ | ⟨n', ha, hm⟩ <;> rw [ha]
  · exact ⟨h, recorded_self n _⟩
  · rw [hsa h hk]
    exact ⟨h, recorded_self n _⟩
  · refine ⟨h.moved hm, fun he => absurd rfl he, fun hev => ?_, .inr ⟨hm.edge, hm.path⟩, ?_⟩
    · obtain ⟨now, actor, he⟩ := hm.event
      rw [he] at hev
      exact absurd hev (by simp)
    · intro s hs
      refine hm.others s ?_
      rintro rfl
      exact absurd (h.ranked _ hs) (rank_of_canAdvance hm.edge).not_ge

/-- A run that gives a failed note no other reason keeps the lifecycle of a note. -/
theorem consignment_lifecycle {n₀ : ConsignmentNote} (hnew : new codec input = .ok n₀)
    {calls : List Call} (hkeeps : Along step Keeps n₀ (calls ++ [c]))
    (hr : run step n₀ calls = some n) : Lifecycle n ∧ Recorded n (c.apply n).1 (c.apply n).2 ∧
    (replay n.events).1 = some n.status ∧
    ((replay n.events).2 = n.failureReason ↔ n.status ≠ .failed) := by
  have hl : Lifecycle n := by
    refine run_invariant (lifecycle_new hnew) ?_ hkeeps.append_left hr
    intro n c n' h hk hs
    cases hs
    exact (h.recorded hk).1
  refine ⟨hl, (hl.recorded (hkeeps.append_right hr).1).2, ?_, ?_⟩
  · rw [replay_eq]
    exact hl.status
  · rw [replay_eq, eq_comm, ne_eq, ← hl.failed_iff, ← hl.reason, not_not]

def sampleInput : NewInput where
  id := "xx"
  tenantID := "xxx"
  orderID := "xxxx"
  carrierName := "BlueDart"
  boxCount := 2
  weightGrams := 500
  createdByMembershipID := "xxxxx"
  now := 1

theorem failure_repeated : ∃ n₀ n, new unaryCodec sampleInput = .ok n₀ ∧
    run step n₀ [.markDispatched "D-1" "m1" 2, .markFailed "refused" "m1" 3] = some n ∧
    Lifecycle n ∧ Recorded n ((Call.markFailed " refused " "m1" 4).apply n).1
    ((Call.markFailed " refused " "m1" 4).apply n).2 ∧ (replay n.events).1 = some n.status ∧
    ((replay n.events).2 = n.failureReason ↔ n.status ≠ .failed) := by
  refine ⟨_, _, rfl, rfl, ?_⟩
  exact consignment_lifecycle (show new unaryCodec sampleInput = .ok _ from rfl) (by decide)
    (show run step _ [.markDispatched "D-1" "m1" 2, .markFailed "refused" "m1" 3] = some _ from rfl)

theorem reason_replaced : ∃ n₀ n, new unaryCodec sampleInput = .ok n₀ ∧
    run step n₀ [.markFailed "refused" "m1" 3] = some n ∧
    ((Call.markFailed "lost" "m1" 4).apply n).2 = none ∧
    ((Call.markFailed "lost" "m1" 4).apply n).1.events = n.events ∧ n.failureReason = "refused" ∧
    ((Call.markFailed "lost" "m1" 4).apply n).1.failureReason = "lost" :=
  ⟨_, _, rfl, rfl, rfl, rfl, rfl, rfl⟩

end ConsignmentNote

end Leadkart
