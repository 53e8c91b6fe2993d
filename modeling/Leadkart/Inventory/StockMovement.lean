import Leadkart.Inventory.Batch

/-!
# Stock movements
-/

namespace Leadkart

open Effect

namespace StockMovement

def errInvalid : Sentinel := ⟨.invalidInput, "stock_movement", "invalid stock movement"⟩

def reasonMinLength : Nat := 1
def reasonMaxLength : Nat := 500
def sourceReferenceMax : Nat := 200

structure Spec where
  (batchID productID tenantID movementType : String)
  (quantity quantityOnHandAfter : Int64)
  (reason actorMembershipID : String)
  sourceReference : Option String

structure LoggedEvent where
  (movementID batchID productID tenantID : String)
  movementType : MovementType
  (quantity quantityOnHandAfter : Int64)
  actorMembershipID : String
  sourceReference : Option String
  occurredAt : Time

end StockMovement

structure StockMovement where
  (id batchID productID tenantID : String)
  movementType : MovementType
  (quantity quantityOnHandAfter : Int64)
  (reason actorMembershipID : String)
  sourceReference : Option String
  occurredAt : Time
  events : List StockMovement.LoggedEvent := []

namespace StockMovement

def recordEvent (m : StockMovement) (e : LoggedEvent) : StockMovement :=
  { m with events := m.events ++ [e] }

def validateQuantityForType (t : MovementType) (q : Int64) : Except Err Unit :=
  match t with
  | .inbound | .reservation | .release =>
    if q ≤ 0 then .error ⟨errInvalid, t.string ++ " quantity must be > 0"⟩ else .ok ()
  | .outbound => if 0 ≤ q then .error ⟨errInvalid, "outbound quantity must be < 0"⟩ else .ok ()
  | .adjustment =>
    if q = 0 then .error ⟨errInvalid, "adjustment quantity must be non-zero"⟩ else .ok ()

def validType (raw : String) : Except Err MovementType :=
  match MovementType.parse raw with
  | none => .error ⟨errInvalid, "unknown movement type " ++ raw⟩
  | some t => .ok t

def checkQuantityOnHandAfter (after : Int64) : Except Err Unit :=
  if after < 0 then .error ⟨errInvalid, "quantity_on_hand_after must be >= 0"⟩ else .ok ()

def cleanReason (raw : String) : Except Err String :=
  let reason := trimSpace raw
  if reason = "" then .error ⟨errInvalid, "reason required"⟩
  else if reason.utf8ByteSize < reasonMinLength ∨ reasonMaxLength < reason.utf8ByteSize then
    .error ⟨errInvalid, "reason length out of range"⟩
  else .ok reason

def cleanSourceReference : Option String → Except Err (Option String)
  | none => .ok none
  | some raw =>
    let ref := trimSpace raw
    if sourceReferenceMax < ref.utf8ByteSize then
      .error ⟨errInvalid, "source_reference too long"⟩
    else .ok (zeroToNil ref)

def new (codec : UuidCodec) (id : String) (spec : Spec) (now : Time) :
    Except Err StockMovement := do
  codec.validateUUID errInvalid "id" id
  codec.validateUUID errInvalid "batch_id" spec.batchID
  codec.validateUUID errInvalid "product_id" spec.productID
  codec.validateUUID errInvalid "tenant_id" spec.tenantID
  codec.validateUUID errInvalid "actor_membership_id" spec.actorMembershipID
  let movementType ← validType spec.movementType
  validateQuantityForType movementType spec.quantity
  checkQuantityOnHandAfter spec.quantityOnHandAfter
  let reason ← cleanReason spec.reason
  let sourceReference ← cleanSourceReference spec.sourceReference
  return recordEvent
    { id, movementType, reason, sourceReference
      batchID := spec.batchID
      productID := spec.productID
      tenantID := spec.tenantID
      quantity := spec.quantity
      quantityOnHandAfter := spec.quantityOnHandAfter
      actorMembershipID := spec.actorMembershipID
      occurredAt := now }
    { movementID := id, movementType, sourceReference
      batchID := spec.batchID
      productID := spec.productID
      tenantID := spec.tenantID
      quantity := spec.quantity
      quantityOnHandAfter := spec.quantityOnHandAfter
      actorMembershipID := spec.actorMembershipID
      occurredAt := now }

theorem new_eq_ok {c : UuidCodec} {id : String} {spec : Spec} {now : Time} {m : StockMovement}
    (h : new c id spec now = .ok m) :
    m.batchID = spec.batchID ∧ MovementType.parse spec.movementType = some m.movementType ∧
    m.quantity = spec.quantity ∧ m.quantityOnHandAfter = spec.quantityOnHandAfter ∧
    ∃ e, m.events = [e] := by
  unfold new at h
  simp only [except_bind_eq_ok] at h
  obtain ⟨_, _, _, _, _, _, _, _, _, _, t, ht, _, _, _, _, _, _, _, _, h⟩ := h
  cases h
  have hp : MovementType.parse spec.movementType = some t := by
    unfold validType at ht
    split at ht
    · cases ht
    next t' ht' =>
      rw [ht']
      exact congrArg some (Except.ok.inj ht)
  exact ⟨rfl, hp, rfl, rfl, _, rfl⟩

structure Columns where
  (id batchID productID tenantID : UUID)
  movementType : MovementType
  (quantity quantityOnHandAfter : Int64)
  reason : String
  actorMembershipID : UUID
  sourceReference : Option String
  occurredAt : Time

structure Columns.Valid (c : Columns) : Prop where
  quantityOnHandAfter : 0 ≤ c.quantityOnHandAfter
  reason : 1 ≤ c.reason.length ∧ c.reason.length ≤ 500
  sourceReference : ∀ ref ∈ c.sourceReference, ref.length ≤ 200

instance (c : Columns) : Decidable c.Valid :=
  decidable_of_iff
    (0 ≤ c.quantityOnHandAfter ∧ (1 ≤ c.reason.length ∧ c.reason.length ≤ 500) ∧
      ∀ ref ∈ c.sourceReference, ref.length ≤ 200)
    ⟨fun ⟨h₁, h₂, h₃⟩ => ⟨h₁, h₂, h₃⟩, fun ⟨h₁, h₂, h₃⟩ => ⟨h₁, h₂, h₃⟩⟩

abbrev Row := { c : Columns // c.Valid }

def Row.moved (m : Row) : Int := if m.1.movementType.isMutating then m.1.quantity.toInt else 0

end StockMovement

end Leadkart
