import Leadkart.Dispatch.ConsignmentNote
import Leadkart.Logic.Transactions

/-!
# The consignment note repository
-/

namespace Leadkart.ConsignmentNote

open List Effect Transaction

def errNotFound : Sentinel := ⟨.unknown, "", "consignmentnote: not found"⟩
def errAlreadyExistsForOrder : Sentinel :=
  ⟨.unknown, "", "consignmentnote: already exists for order"⟩

inductive IntegrationEvent where
  | consignmentNoteCreatedV1 (consignmentNoteID tenantID orderID : UUID) (carrierName : String)
      (boxCount weightGrams : Int) (expectedDeliveryAt : Option Time) (createdByMembershipID : UUID)
      (occurredAt : Time)
  | consignmentNoteDispatchedV1 (consignmentNoteID tenantID orderID : UUID) (docketNumber : String)
      (transitionedByMembership : UUID) (occurredAt : Time)
  | consignmentNoteInTransitV1 (consignmentNoteID tenantID orderID : UUID)
      (transitionedByMembership : UUID) (occurredAt : Time)
  | consignmentDeliveredV1 (consignmentNoteID tenantID orderID : UUID) (deliveredAt : Time)
      (transitionedByMembership : UUID) (occurredAt : Time)
  | consignmentNoteFailedV1 (consignmentNoteID tenantID orderID : UUID) (reason : String)
      (failedAt : Time) (transitionedByMembership : UUID) (occurredAt : Time)

def errInvalidUUID : Sentinel := ⟨.unknown, "", "dispatch integrationevents: invalid uuid"⟩

def parseUUID (codec : UuidCodec) (name s : String) : Except Err UUID :=
  match codec.parse s with
  | some u => .ok u
  | none => .error ⟨errInvalidUUID, name ++ "=" ++ s.quote⟩

def fromDomainEvent (codec : UuidCodec) : Event → Except Err IntegrationEvent
  | .created id tenantID orderID carrierName boxCount weightGrams expectedDeliveryAt createdAt
      createdBy => do
    let cnID ← parseUUID codec "consignment_note_id" id
    let tID ← parseUUID codec "tenant_id" tenantID
    let oID ← parseUUID codec "order_id" orderID
    let createdBy ← parseUUID codec "created_by_membership_id" createdBy
    return .consignmentNoteCreatedV1 cnID tID oID carrierName boxCount weightGrams
      expectedDeliveryAt createdBy createdAt
  | .statusChanged id tenantID orderID _ newStatus transitionedAt actor => do
    let cnID ← parseUUID codec "consignment_note_id" id
    let tID ← parseUUID codec "tenant_id" tenantID
    let oID ← parseUUID codec "order_id" orderID
    let actor ← parseUUID codec "transitioned_by_membership" actor
    match newStatus with
    | .dispatched => return .consignmentNoteDispatchedV1 cnID tID oID "" actor transitionedAt
    | .inTransit => return .consignmentNoteInTransitV1 cnID tID oID actor transitionedAt
    | .delivered =>
      return .consignmentDeliveredV1 cnID tID oID transitionedAt actor transitionedAt
    | .failed => return .consignmentNoteFailedV1 cnID tID oID "" transitionedAt actor transitionedAt
    | .pending =>
      .error (.foreign "dispatch integrationevents: unmapped status transition pending")

def enrich (n : ConsignmentNote) : IntegrationEvent → IntegrationEvent
  | .consignmentNoteDispatchedV1 cnID tID oID _ actor occurredAt =>
    .consignmentNoteDispatchedV1 cnID tID oID n.docketNumber actor occurredAt
  | .consignmentNoteFailedV1 cnID tID oID _ failedAt actor occurredAt =>
    .consignmentNoteFailedV1 cnID tID oID n.failureReason failedAt actor occurredAt
  | e => e

def IntegrationEvent.announces : IntegrationEvent → UUID × Status × String
  | .consignmentNoteCreatedV1 cnID .. => (cnID, .pending, "")
  | .consignmentNoteDispatchedV1 cnID _ _ docketNumber .. => (cnID, .dispatched, docketNumber)
  | .consignmentNoteInTransitV1 cnID .. => (cnID, .inTransit, "")
  | .consignmentDeliveredV1 cnID .. => (cnID, .delivered, "")
  | .consignmentNoteFailedV1 cnID _ _ reason .. => (cnID, .failed, reason)

structure Row where
  (id tenantID orderID : UUID)
  status : Status
  (carrierName docketNumber : String)
  (boxCount weightGrams : Int)
  (expectedDeliveryAt dispatchedAt inTransitAt deliveredAt failedAt : Option Time)
  failureReason : String
  createdAt : Time
  createdByMembershipID : UUID
  deriving DecidableEq

def consignmentNotes (codec : UuidCodec) : SqlRelation Row where
  policies := App.tenantPolicies codec Row.tenantID
  constraints :=
    [Sql.check "consignment_notes_box_count_check" fun r => 0 < r.boxCount,
      Sql.check "consignment_notes_carrier_name_check" fun r =>
        1 ≤ r.carrierName.toList.length && r.carrierName.toList.length ≤ 200,
      Sql.check "consignment_notes_weight_grams_check" fun r => 0 < r.weightGrams]
  indexes :=
    [{ name := "consignment_notes_pkey", Key := UUID, key := fun r => some r.id },
      { name := "consignment_notes_tenant_id_order_id_key", Key := UUID × UUID
        key := fun r => some (r.tenantID, r.orderID) }]

theorem clash_iff {codec : UuidCodec} {a b : Row} : (consignmentNotes codec).Clash a b ↔
    a.id = b.id ∨ (a.tenantID, a.orderID) = (b.tenantID, b.orderID) := by
  simp [SqlRelation.Clash, consignmentNotes, UniqueIndex.Clash]

structure OutboxMessage where
  tenantID : UUID
  event : IntegrationEvent

structure Store (codec : UuidCodec) where
  notes : (consignmentNotes codec).Rows := {}
  outbox : List OutboxMessage := []

def rowToConsignmentNote (codec : UuidCodec) (row : Row) : ConsignmentNote where
  id := codec.string row.id
  tenantID := codec.string row.tenantID
  orderID := codec.string row.orderID
  status := row.status
  carrierName := row.carrierName
  docketNumber := row.docketNumber
  boxCount := row.boxCount
  weightGrams := row.weightGrams
  expectedDeliveryAt := row.expectedDeliveryAt
  dispatchedAt := row.dispatchedAt
  inTransitAt := row.inTransitAt
  deliveredAt := row.deliveredAt
  failedAt := row.failedAt
  failureReason := row.failureReason
  createdAt := row.createdAt
  createdByMembershipID := codec.string row.createdByMembershipID

def parseID (codec : UuidCodec) (name raw : String) : Except Err UUID :=
  codec.parseOr ("consignment note repo: parse " ++ name ++ " ") raw

/-- The row writers do not quote the text they could not parse. -/
def parseColumn (codec : UuidCodec) (name raw : String) : Except Err UUID :=
  match codec.parse raw with
  | some u => .ok u
  | none => .error (.foreign ("consignment note repo: parse " ++ name ++ ": "))

theorem parseColumn_eq_ok {codec : UuidCodec} {name raw : String} {u : UUID}
    (h : parseColumn codec name raw = .ok u) : codec.parse raw = some u := by
  unfold parseColumn at h
  split at h
  next hp =>
    cases h
    exact hp
  next => cases h

def rowOf (codec : UuidCodec) (n : ConsignmentNote) : Except Err Row := do
  let id ← parseColumn codec "id" n.id
  let tenantID ← parseColumn codec "tenant_id" n.tenantID
  let orderID ← parseColumn codec "order_id" n.orderID
  let createdBy ← parseColumn codec "created_by" n.createdByMembershipID
  return {
    id, tenantID, orderID
    status := n.status
    carrierName := n.carrierName
    docketNumber := n.docketNumber
    boxCount := n.boxCount
    weightGrams := n.weightGrams
    expectedDeliveryAt := n.expectedDeliveryAt
    dispatchedAt := n.dispatchedAt
    inTransitAt := n.inTransitAt
    deliveredAt := n.deliveredAt
    failedAt := n.failedAt
    failureReason := n.failureReason
    createdAt := n.createdAt
    createdByMembershipID := createdBy }

def updateParams (n : ConsignmentNote) (row : Row) : Row :=
  { row with
    status := n.status
    docketNumber := n.docketNumber
    dispatchedAt := n.dispatchedAt
    inTransitAt := n.inTransitAt
    deliveredAt := n.deliveredAt
    failedAt := n.failedAt
    failureReason := n.failureReason }

abbrev Tx := Pg.Tx Row

abbrev Conn := Pg.Conn Row

section

variable {codec : UuidCodec}

def hasID (id : UUID) (r : Row) : Bool := r.id = id

def hasOrder (orderID : UUID) (r : Row) : Bool := r.orderID = orderID

def loadForUpdate (tx : Tx) (id : UUID) (s : Store codec) : Except Err Row :=
  Pg.queryRow "consignment note repo: get for update: " ⟨errNotFound, ""⟩
    ((consignmentNotes codec).select tx.settings tx.plan (hasID id) s.notes)

def loadByOrder (tx : Tx) (orderID : UUID) (s : Store codec) : Except Err ConsignmentNote := do
  let row ← Pg.queryRow "consignment note repo: get: " ⟨errNotFound, ""⟩
    ((consignmentNotes codec).select tx.settings tx.plan (hasOrder orderID) s.notes)
  return rowToConsignmentNote codec row

def insertError (e : SqlError) : Err :=
  if e.state = .uniqueViolation then ⟨errAlreadyExistsForOrder, ""⟩
  else Pg.wrapped "consignment note repo: insert: " e

def insertRow (tx : Tx) (row : Row) (s : Store codec) : Except Err (Store codec) := do
  let notes ← ((consignmentNotes codec).insert tx.settings row s.notes).mapError insertError
  return { s with notes }

def updateConsignmentNoteRow (tx : Tx) (n : ConsignmentNote) (s : Store codec) :
    Except Err (Store codec) := do
  let id ← parseColumn codec "id" n.id
  let notes ← ((consignmentNotes codec).update tx.settings tx.plan (hasID id) (updateParams n)
    s.notes).mapError (Pg.wrapped "consignment note repo: update: ")
  return { s with notes }

def mapEvents (codec : UuidCodec) (n : ConsignmentNote) : Except Err (List IntegrationEvent) :=
  n.events.mapM fun e => do
    let ie ← (fromDomainEvent codec e).mapError (Err.wrap "consignment note repo: map event: ")
    return n.enrich ie

def drainConsignmentNoteEvents (n : ConsignmentNote) (s : Store codec) : Except Err (Store codec) :=
  if n.events = [] then .ok s
  else do
    let tid ← parseColumn codec "tenant_id for outbox" n.tenantID
    let mapped ← mapEvents codec n
    return { s with outbox := s.outbox ++ mapped.map (OutboxMessage.mk tid) }

inductive Key where
  | note (id : UUID)
  | order (tenantID orderID : UUID)
  deriving DecidableEq

def Row.keys (r : Row) : List Key := [.note r.id, .order r.tenantID r.orderID]

variable (codec) in
abbrev Program (α : Type) := Transaction Key (Store codec) Err α

variable (tx : Tx)

def onTx {α : Type} (conn : Conn) (tenantID : String) (fn : Tx → Program codec α) :
    Program codec α := do
  let settings ← ofExcept
    (Pg.setTenantOnTxExplicit (Settings.residue conn.history) tenantID)
  fn ⟨settings, conn.plan⟩

theorem onTx_eq {α : Type} {conn : Conn} {tenantID : String} {fn : Tx → Program codec α}
    (hne : tenantID ≠ "") : onTx conn tenantID fn = fn (conn.tx tenantID) := by
  unfold onTx Pg.setTenantOnTxExplicit
  rw [if_neg hne]
  rfl

def addOnTx (n : ConsignmentNote) : Program codec Unit := do
  let row ← ofExcept (rowOf codec n)
  write (fun _ => row.keys) (insertRow tx row)
  write (fun _ => []) (drainConsignmentNoteEvents n)

def seenKeys (id : UUID) (s : Store codec) : List Key :=
  ((loadForUpdate tx id s).toOption.map fun r => .note r.id).toList

def lockRow (id : UUID) : Program codec Row :=
  statement (seenKeys tx id) fun s =>
    (loadForUpdate tx id s).map fun row => (row, fun t => t)

def persist (id : UUID) (n : ConsignmentNote) : Program codec Unit := do
  write (seenKeys tx id) (updateConsignmentNoteRow tx n)
  write (fun _ => []) (drainConsignmentNoteEvents n)

def persistIf (id : UUID) : ConsignmentNote × Except Err Bool → Program codec Unit
  | (_, .error e) => Transaction.fail e
  | (_, .ok false) => pure ()
  | (n, .ok true) => persist tx id n

def updateOnTx (id : String)
    (mutator : ConsignmentNote → ConsignmentNote × Except Err Bool) : Program codec Unit := do
  let uid ← ofExcept (parseID codec "id" id)
  let row ← lockRow tx uid
  persistIf tx uid (mutator (rowToConsignmentNote codec row))

def updateByID (conn : Conn) (tenantID id : String)
    (mutator : ConsignmentNote → ConsignmentNote × Except Err Bool) : Program codec Unit :=
  onTx conn tenantID fun tx => updateOnTx tx id mutator

end

open SqlRelation

variable {codec : UuidCodec} {s s' t : Store codec} {tenantID : String} {conn : Conn} {lid : UUID}
  {row : Row} {n : ConsignmentNote}

def noteOf (lid : UUID) (s : Store codec) : Option Row := s.notes.find? (hasID lid)

theorem noteOf_id (h : noteOf lid s = some row) : row.id = lid :=
  of_decide_eq_true (Table.mem_of_find? h).2

theorem noteOf_eq_some (hrow : row ∈ s.notes) (hid : row.id = lid) : noteOf lid s = some row := by
  refine Table.find?_eq_of_mem (fun a b ha hb => ?_) hrow (decide_eq_true hid)
  exact clash_iff.mpr (.inl ((of_decide_eq_true ha).trans (of_decide_eq_true hb).symm))

theorem loadForUpdate_eq_ok (h : loadForUpdate (conn.tx tenantID) lid s = .ok row) :
    noteOf lid s = some row ∧ codec.input tenantID = some row.tenantID := by
  unfold loadForUpdate Pg.queryRow at h
  split at h
  · cases h
  · cases h
  · rename_i rest hs
    cases h
    obtain ⟨hm, hid, hp⟩ := (mem_scan hs).mp (mem_cons_self ..)
    exact ⟨noteOf_eq_some hm (of_decide_eq_true hid), App.input_of_ownOrPlatform hp⟩

theorem lockRow_found {tx : Tx} {write : Store codec → Store codec}
    (h : (loadForUpdate tx lid s).map (fun row => (row, fun t => t)) = .ok (row, write)) :
    loadForUpdate tx lid s = .ok row ∧ write = fun t => t := by
  rcases hl : loadForUpdate tx lid s with e | row'
  · rw [hl] at h
    cases h
  · rw [hl] at h
    cases h
    exact ⟨rfl, rfl⟩

theorem mem_seenKeys {tx : Tx} (h : loadForUpdate tx lid s = .ok row)
    (hrow : noteOf lid s = some row) : .note lid ∈ seenKeys tx lid s := by
  unfold seenKeys
  rw [h, ← noteOf_id hrow]
  exact mem_singleton_self _

theorem updateRow_again (hT : codec.input tenantID = some row.tenantID)
    (hid : codec.parse n.id = some lid) (hs : noteOf lid s = some row)
    (h : updateConsignmentNoteRow (conn.tx tenantID) n s = .ok s') (ht : noteOf lid t = some row) :
    ∃ notes, updateConsignmentNoteRow (conn.tx tenantID) n t = .ok { t with notes } ∧
    notes.find? (hasID lid) = some (updateParams n row) := by
  have hco := App.confines_tenantPolicies (R := consignmentNotes codec) rfl hT conn
  have ho : ∀ r, (updateParams n r).tenantID = r.tenantID := fun _ => rfl
  have hun : ∀ a b, hasID lid a = true → hasID lid b = true →
      (consignmentNotes codec).Clash a b := fun a b ha hb =>
    clash_iff.mpr (.inl ((of_decide_eq_true ha).trans (of_decide_eq_true hb).symm))
  have hm : (consignmentNotes codec).meets (updateParams n row) = .ok () := by
    unfold updateConsignmentNoteRow parseColumn at h
    rw [hid] at h
    obtain ⟨_, ⟨⟩, h⟩ := except_bind_ok h
    obtain ⟨notes, hu, -⟩ := except_bind_ok h
    have hu := except_mapError_ok hu
    rw [update_confined hco ho] at hu
    obtain ⟨_, hf, -⟩ := except_bind_ok hu
    obtain ⟨hrow, hp⟩ := Table.mem_of_find? hs
    refine forM_eq_ok.mp hf row (mem_filter.mpr ⟨hrow, ?_⟩)
    simp [hp]
  obtain ⟨hrow, hp⟩ := Table.mem_of_find? ht
  obtain ⟨notes, hu, hme⟩ := update_row hco ho hun hrow rfl hp hm (fun a b hc => by
      rw [clash_iff] at hc ⊢
      split_ifs at hc <;> exact hc) (conn.tx tenantID).plan
  refine ⟨notes, ?_, noteOf_eq_some (s := { t with notes }) ((hme _).mpr ⟨row, hrow, ?_⟩) ?_⟩
  · unfold updateConsignmentNoteRow parseColumn
    rw [hid]
    show (((consignmentNotes codec).update _ _ _ _ t.notes).mapError _ >>= _) = _
    rw [hu]
    rfl
  · rw [if_pos rfl]
  · show row.id = lid
    exact noteOf_id ht

theorem drain_eq_ok (h : drainConsignmentNoteEvents n s = .ok s') :
    ∃ messages, mapEvents codec n = .ok (messages.map OutboxMessage.event) ∧ ∀ u : Store codec,
    drainConsignmentNoteEvents n u = .ok { u with outbox := u.outbox ++ messages } := by
  unfold drainConsignmentNoteEvents at h ⊢
  split at h
  next hn =>
    refine ⟨[], ?_, fun u => ?_⟩
    · unfold mapEvents
      rw [hn]
      rfl
    · rw [if_pos hn, append_nil]
  next he =>
    obtain ⟨tid, ht, h⟩ := except_bind_ok h
    obtain ⟨mapped, hm, -⟩ := except_bind_ok h
    refine ⟨mapped.map (OutboxMessage.mk tid), ?_, fun u => ?_⟩
    · rw [hm, map_map]
      exact congrArg Except.ok (map_id mapped).symm
    · rw [if_neg he, ht, hm]
      rfl

theorem mapEvents_singleton {e : Event} (he : n.events = [e]) {me : List OutboxMessage}
    (h : mapEvents codec n = .ok (me.map OutboxMessage.event)) :
    ∃ m ie, me = [m] ∧ fromDomainEvent codec e = .ok ie ∧ m.event = n.enrich ie := by
  unfold mapEvents at h
  rw [he, List.mapM_cons, List.mapM_nil] at h
  obtain ⟨ie', h₁, h⟩ := except_bind_ok h
  obtain ⟨ie, hie, h₁⟩ := except_bind_ok h₁
  cases h₁
  obtain ⟨m, rfl, hm⟩ := map_eq_singleton_iff.mp (Except.ok.inj h).symm
  exact ⟨m, ie, rfl, except_mapError_ok hie, hm⟩

theorem parse_of_parseUUID {name raw : String} {u : UUID} (h : parseUUID codec name raw = .ok u) :
    codec.parse raw = some u := by
  unfold parseUUID at h
  split at h
  · rename_i hu
    rw [hu, Except.ok.inj h]
  · cases h

end Leadkart.ConsignmentNote
