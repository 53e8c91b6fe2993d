import Leadkart.Common.Tenancy
import Leadkart.Logic.MachineInt

/-!
# Batches
-/

namespace Leadkart

open List Effect

inductive MovementType where
  | inbound
  | outbound
  | adjustment
  | reservation
  | release

namespace MovementType

def string : MovementType → String
  | inbound => "inbound"
  | outbound => "outbound"
  | adjustment => "adjustment"
  | reservation => "reservation"
  | release => "release"

def parse (raw : String) : Option MovementType :=
  [inbound, outbound, adjustment, reservation, release].find? fun t => t.string = raw

def isMutating : MovementType → Bool
  | inbound | outbound | adjustment => true
  | reservation | release => false

def delta (magnitude : Int) : MovementType → Int
  | inbound | adjustment => magnitude
  | outbound => -magnitude
  | reservation | release => 0

def raises : MovementType → Bool
  | inbound | adjustment => true
  | outbound | reservation | release => false

theorem delta_nonpos {t : MovementType} {me : Int} (ht : t.raises = false)
    (h : 0 ≤ me) : t.delta me ≤ 0 := by
  cases t with
  | inbound => cases ht
  | adjustment => cases ht
  | outbound => exact Int.neg_nonpos_of_nonneg h
  | reservation => exact Int.le_refl _
  | release => exact Int.le_refl _

theorem string_of_parse {raw : String} {t : MovementType} (h : parse raw = some t) :
    t.string = raw := by
  simpa using List.find?_some h

end MovementType

namespace Batch

def errInvalid : Sentinel := ⟨.invalidInput, "batch", "invalid batch"⟩
def errInsufficientStock : Sentinel :=
  ⟨.conflict, "batch", "insufficient stock for outbound movement"⟩
def errExpired : Sentinel := ⟨.conflict, "batch", "batch has expired; inbound movements rejected"⟩
def errDeleted : Sentinel := ⟨.conflict, "batch", "batch is deleted"⟩
def errConcurrencyConflict : Sentinel := ⟨.conflict, "batch", "concurrent modification; retry"⟩
def errNotFound : Sentinel := ⟨.notFound, "batch", "batch not found"⟩
def errAnyLiveStock : Sentinel :=
  ⟨.conflict, "batch", "product has live batches with non-zero stock"⟩
def errBatchNumberTaken : Sentinel :=
  ⟨.alreadyExists, "batch", "batch_number already exists for this product"⟩

def batchNumberMinLen : Nat := 1
def batchNumberMaxLen : Nat := 100
def manufacturerNameMaxLen : Nat := 200
def manufacturingLicenceMax : Nat := 100

structure AddedEvent where
  (batchID productID tenantID actorID batchNumber : String)
  expiryDate : Time
  quantityOnHand : Int64
  occurredAt : Time
  deriving DecidableEq

structure Spec where
  batchNumber : String
  (manufactureDate expiryDate : Time)
  (manufacturerName manufacturingLicenceNumber : String)
  (mrpPaise purchasePricePaise : Int64)

end Batch

structure Batch where
  (id productID tenantID batchNumber : String)
  (manufactureDate expiryDate : Time)
  (manufacturerName manufacturingLicenceNumber : String)
  (mrpPaise purchasePricePaise quantityOnHand version : Int64)
  (createdAt updatedAt : Time)
  deleted : Bool := false
  deletedAt : Time := 0
  deletedBy : String := ""
  events : List Batch.AddedEvent := []
  deriving DecidableEq

namespace Batch

def recordEvent (b : Batch) (e : AddedEvent) : Batch := { b with events := b.events ++ [e] }

def checkSpec (spec : Spec) : Except Err Unit :=
  let bn := trimSpace spec.batchNumber
  let man := trimSpace spec.manufacturerName
  let ml := trimSpace spec.manufacturingLicenceNumber
  if bn = "" then .error ⟨errInvalid, "batch_number required"⟩
  else if bn.utf8ByteSize < batchNumberMinLen ∨ batchNumberMaxLen < bn.utf8ByteSize then
    .error ⟨errInvalid, "batch_number length out of range"⟩
  else if man = "" then .error ⟨errInvalid, "manufacturer_name required"⟩
  else if manufacturerNameMaxLen < man.utf8ByteSize then
    .error ⟨errInvalid, "manufacturer_name too long"⟩
  else if ml = "" then .error ⟨errInvalid, "manufacturing_licence_number required"⟩
  else if manufacturingLicenceMax < ml.utf8ByteSize then
    .error ⟨errInvalid, "manufacturing_licence_number too long"⟩
  else if spec.mrpPaise < 0 then .error ⟨errInvalid, "mrp_paise must be >= 0"⟩
  else if spec.purchasePricePaise < 0 then
    .error ⟨errInvalid, "purchase_price_paise must be >= 0"⟩
  else if spec.manufactureDate.isZero then .error ⟨errInvalid, "manufacture_date required"⟩
  else if spec.expiryDate.isZero then .error ⟨errInvalid, "expiry_date required"⟩
  else if !spec.expiryDate.after spec.manufactureDate then
    .error ⟨errInvalid, "expiry_date must be after manufacture_date"⟩
  else .ok ()

def new (codec : UuidCodec) (id productID tenantID actorID : String) (spec : Spec) (now : Time) :
    Except Err Batch := do
  codec.validateUUID errInvalid "id" id
  codec.validateUUID errInvalid "product_id" productID
  codec.validateUUID errInvalid "tenant_id" tenantID
  codec.validateUUID errInvalid "actor_id" actorID
  checkSpec spec
  return recordEvent
    { id, productID, tenantID
      batchNumber := trimSpace spec.batchNumber
      manufactureDate := spec.manufactureDate
      expiryDate := spec.expiryDate
      manufacturerName := trimSpace spec.manufacturerName
      manufacturingLicenceNumber := trimSpace spec.manufacturingLicenceNumber
      mrpPaise := spec.mrpPaise
      purchasePricePaise := spec.purchasePricePaise
      quantityOnHand := 0
      version := 0
      createdAt := now
      updatedAt := now }
    { batchID := id, productID, tenantID, actorID
      batchNumber := trimSpace spec.batchNumber
      expiryDate := spec.expiryDate
      quantityOnHand := 0
      occurredAt := now }

def isExpired (b : Batch) (now : Time) : Bool := !b.expiryDate.after now

def quantityAfter (b : Batch) (quantity : Int64) (now : Time) : MovementType → Except Err Int64
  | .inbound =>
    if quantity ≤ 0 then .error ⟨errInvalid, "inbound quantity must be > 0"⟩
    else if b.isExpired now then .error ⟨errExpired, "expired"⟩
    else .ok (b.quantityOnHand + quantity)
  | .outbound =>
    if quantity ≤ 0 then .error ⟨errInvalid, "outbound quantity must be > 0"⟩
    else if b.quantityOnHand < quantity then .error ⟨errInsufficientStock, ""⟩
    else .ok (b.quantityOnHand - quantity)
  | .adjustment =>
    if quantity = 0 then .error ⟨errInvalid, "adjustment quantity must be non-zero"⟩
    else
      let next := b.quantityOnHand + quantity
      if next < 0 then
        .error ⟨errInsufficientStock, "adjustment would drive on-hand negative"⟩
      else .ok next
  | .reservation =>
    if quantity ≤ 0 then .error ⟨errInvalid, "reservation quantity must be > 0"⟩
    else .ok b.quantityOnHand
  | .release =>
    if quantity ≤ 0 then .error ⟨errInvalid, "release quantity must be > 0"⟩
    else .ok b.quantityOnHand

def applyMovement (b : Batch) (movement : String) (quantity : Int64) (now : Time) :
    Except Err Batch :=
  if b.deleted then .error ⟨errDeleted, b.id⟩
  else
    match MovementType.parse movement with
    | none => .error ⟨errInvalid, "unknown movement type " ++ movement⟩
    | some t => do
      let quantityOnHand ← b.quantityAfter quantity now t
      return { b with quantityOnHand, version := b.version + 1, updatedAt := now }

structure Columns where
  (productID tenantID : UUID)
  batchNumber : String
  (manufactureDate expiryDate : Time)
  (manufacturerName manufacturingLicenceNumber : String)
  (mrpPaise purchasePricePaise quantityOnHand version : Int64)
  (createdAt updatedAt : Time)
  isDeleted : Bool := false
  deletedAt : Option Time := none
  deletedBy : Option String := none
  deriving DecidableEq

structure Columns.Valid (c : Columns) : Prop where
  batchNumber : 1 ≤ c.batchNumber.length ∧ c.batchNumber.length ≤ 100
  manufacturerName : 1 ≤ c.manufacturerName.length ∧ c.manufacturerName.length ≤ 200
  manufacturingLicenceNumber :
    1 ≤ c.manufacturingLicenceNumber.length ∧ c.manufacturingLicenceNumber.length ≤ 100
  mrpPaise : 0 ≤ c.mrpPaise
  purchasePricePaise : 0 ≤ c.purchasePricePaise
  quantityOnHand : 0 ≤ c.quantityOnHand
  expiry : c.manufactureDate < c.expiryDate

instance (c : Columns) : Decidable c.Valid :=
  decidable_of_iff
    ((1 ≤ c.batchNumber.length ∧ c.batchNumber.length ≤ 100) ∧
      (1 ≤ c.manufacturerName.length ∧ c.manufacturerName.length ≤ 200) ∧
      (1 ≤ c.manufacturingLicenceNumber.length ∧ c.manufacturingLicenceNumber.length ≤ 100) ∧
      0 ≤ c.mrpPaise ∧ 0 ≤ c.purchasePricePaise ∧ 0 ≤ c.quantityOnHand ∧
      c.manufactureDate < c.expiryDate)
    ⟨fun ⟨h₁, h₂, h₃, h₄, h₅, h₆, h₇⟩ => ⟨h₁, h₂, h₃, h₄, h₅, h₆, h₇⟩,
      fun ⟨h₁, h₂, h₃, h₄, h₅, h₆, h₇⟩ => ⟨h₁, h₂, h₃, h₄, h₅, h₆, h₇⟩⟩

abbrev Row := { c : Columns // c.Valid }

def pgDate (t : Time) : Option Time := if t.isZero then none else some (t - t % day)

def insertParams (b : Batch) (productID tenantID : UUID) : Option Columns := do
  let manufactureDate ← pgDate b.manufactureDate
  let expiryDate ← pgDate b.expiryDate
  return {
    productID, tenantID, manufactureDate, expiryDate
    batchNumber := b.batchNumber
    manufacturerName := b.manufacturerName
    manufacturingLicenceNumber := b.manufacturingLicenceNumber
    mrpPaise := b.mrpPaise
    purchasePricePaise := b.purchasePricePaise
    quantityOnHand := b.quantityOnHand
    version := b.version
    createdAt := b.createdAt
    updatedAt := b.updatedAt }

def updateParams (b : Batch) (c : Columns) : Columns :=
  { c with
    quantityOnHand := b.quantityOnHand
    version := b.version
    updatedAt := b.updatedAt
    isDeleted := b.deleted
    deletedAt := if b.deleted then some b.deletedAt else none
    deletedBy := if b.deleted then zeroToNil b.deletedBy else none
    batchNumber := b.batchNumber
    manufacturerName := b.manufacturerName
    manufacturingLicenceNumber := b.manufacturingLicenceNumber }

def rowToBatch (codec : UuidCodec) (id : UUID) (c : Columns) : Batch where
  id := codec.string id
  productID := codec.string c.productID
  tenantID := codec.string c.tenantID
  batchNumber := c.batchNumber
  manufactureDate := c.manufactureDate
  expiryDate := c.expiryDate
  manufacturerName := c.manufacturerName
  manufacturingLicenceNumber := c.manufacturingLicenceNumber
  mrpPaise := c.mrpPaise
  purchasePricePaise := c.purchasePricePaise
  quantityOnHand := c.quantityOnHand
  version := c.version
  createdAt := c.createdAt
  updatedAt := c.updatedAt
  deleted := c.isDeleted
  deletedAt := timeFromPg c.deletedAt
  deletedBy := stringFromPg c.deletedBy

variable {b b' : Batch} {quantity next : Int64} {now : Time} {t : MovementType}
  {codec : UuidCodec} {id productID tenantID actorID : String} {spec : Spec}

theorem new_eq_ok (h : new codec id productID tenantID actorID spec now = .ok b) :
    b.productID = productID ∧ b.quantityOnHand = 0 ∧ b.version = 0 ∧ ∃ e, b.events = [e] := by
  unfold new at h
  simp only [except_bind_eq_ok] at h
  obtain ⟨_, _, _, _, _, _, _, _, _, _, h⟩ := h
  cases h
  exact ⟨rfl, rfl, rfl, _, rfl⟩

theorem applyMovement_eq_ok {mo : String} (h : b.applyMovement mo quantity now = .ok b') :
    (∃ t, MovementType.parse mo = some t ∧ b.quantityAfter quantity now t = .ok b'.quantityOnHand) ∧
    b'.version = b.version + 1 ∧ b'.id = b.id ∧ b'.deleted = b.deleted ∧ b'.events = b.events := by
  unfold applyMovement at h
  split at h
  · cases h
  split at h
  · cases h
  next t ht =>
    obtain ⟨next, hn, h⟩ := except_bind_ok h
    cases h
    exact ⟨⟨t, ht, hn⟩, rfl, rfl, rfl, rfl⟩

theorem toInt_quantityAfter (h : b.quantityAfter quantity now t = .ok next)
    (ho : 0 ≤ b.quantityOnHand) (hn : 0 ≤ next) :
    next.toInt = b.quantityOnHand.toInt + t.delta quantity.toInt := by
  unfold quantityAfter at h
  cases t with
  | inbound | adjustment =>
    simp only [ite_error_eq_ok] at h
    obtain ⟨_, _, h⟩ := h
    cases h
    exact MachineInt.toInt_add_of_nonneg ho hn
  | outbound =>
    simp only [ite_error_eq_ok] at h
    obtain ⟨hp, hs, h⟩ := h
    cases h
    exact MachineInt.toInt_sub_of_le (Int64.le_of_lt (Int64.not_le.mp hp)) (Int64.not_lt.mp hs)
  | reservation | release =>
    obtain ⟨_, h⟩ := ite_error_eq_ok.mp h
    cases h
    exact (Int.add_zero _).symm

theorem quantityAfter_nonneg_iff (h : b.quantityAfter quantity now t = .ok next)
    (ho : 0 ≤ b.quantityOnHand) :
    0 ≤ next ↔ t = .inbound → b.quantityOnHand.toInt + quantity.toInt < 2 ^ 63 := by
  constructor
  · intro hn ht
    subst ht
    have he := toInt_quantityAfter h ho hn
    have hlt := next.toInt_lt
    rw [he] at hlt
    exact hlt
  · intro hf
    unfold quantityAfter at h
    cases t with
    | inbound =>
      simp only [ite_error_eq_ok] at h
      obtain ⟨hp, _, h⟩ := h
      cases h
      exact MachineInt.add_nonneg_of_fits ho (Int64.le_of_lt (Int64.not_le.mp hp)) (hf rfl)
    | outbound =>
      simp only [ite_error_eq_ok] at h
      obtain ⟨hp, hs, h⟩ := h
      cases h
      have hle := Int64.le_iff_toInt_le.mp (Int64.not_lt.mp hs)
      rw [Int64.le_iff_toInt_le, Int64.toInt_zero, MachineInt.toInt_sub_of_le
        (Int64.le_of_lt (Int64.not_le.mp hp)) (Int64.not_lt.mp hs)]
      omega
    | adjustment =>
      simp only [ite_error_eq_ok] at h
      obtain ⟨_, hn, h⟩ := h
      cases h
      exact Int64.not_lt.mp hn
    | reservation | release =>
      obtain ⟨_, h⟩ := ite_error_eq_ok.mp h
      cases h
      exact ho

/-! ## Sequences of movements -/

structure Movement where
  movement : String
  quantity : Int64
  now : Time

def Movement.signed (m : Movement) : Int :=
  ((MovementType.parse m.movement).map (MovementType.delta m.quantity.toInt)).getD 0

def call (b : Batch) (m : Movement) : Batch × Option Err :=
  match b.applyMovement m.movement m.quantity m.now with
  | .ok b' => (b', none)
  | .error e => (b, some e)

def after (b : Batch) (ms : List Movement) : Batch := ms.foldl (fun b m => (b.call m).1) b

def accepted (f : Movement → Int) : Batch → List Movement → Int
  | _, [] => 0
  | b, m :: ms => (if (b.call m).2 = none then f m else 0) + accepted f (b.call m).1 ms

structure Exact (b : Batch) (ms : List Movement) : Prop where
  nonneg : 0 ≤ (b.after ms).quantityOnHand
  quantity : (b.after ms).quantityOnHand.toInt =
    b.quantityOnHand.toInt + accepted Movement.signed b ms
  version : (b.after ms).version.toInt = b.version.toInt + accepted (fun _ => 1) b ms

def Fits (b : Batch) (m : Movement) : Prop :=
  (b.call m).2 = none →
    (MovementType.parse m.movement = some .inbound →
      b.quantityOnHand.toInt + m.quantity.toInt < 2 ^ 63) ∧ b.version.toInt + 1 < 2 ^ 63

variable {m : Movement}

theorem call_error {e : Err} (h : (b.call m).2 = some e) : (b.call m).1 = b := by
  unfold call at h ⊢
  cases ha : b.applyMovement m.movement m.quantity m.now with
  | ok b' =>
    rw [ha] at h
    cases h
  | error e' => rfl

theorem exact_call_iff (ho : 0 ≤ b.quantityOnHand) : Exact b [m] ↔ Fits b m := by
  cases hap : b.applyMovement m.movement m.quantity m.now with
  | error e =>
    have hc : b.call m = (b, some e) := by simp only [call, hap]
    have ha : b.after [m] = b := by simp [after, hc]
    refine ⟨fun _ hnone => ?_, fun _ => ⟨?_, ?_, ?_⟩⟩
    · rw [hc] at hnone
      cases hnone
    · rwa [ha]
    · simp [ha, accepted, hc]
    · simp [ha, accepted, hc]
  | ok b' =>
    have hc : b.call m = (b', none) := by simp only [call, hap]
    have ha : b.after [m] = b' := by simp [after, hc]
    obtain ⟨⟨t, ht, hne⟩, hv, -⟩ := applyMovement_eq_ok hap
    have hs : m.signed = t.delta m.quantity.toInt := by simp [Movement.signed, ht]
    have hi := quantityAfter_nonneg_iff hne ho
    have hb := MachineInt.toInt_succ_iff b.version
    have hco : Fits b m ↔ 0 ≤ b'.quantityOnHand ∧ b.version.toInt + 1 < 2 ^ 63 := by
      simp [Fits, hc, ht, hi]
    rw [hco, ← hb]
    constructor
    · intro h
      refine ⟨ha ▸ h.nonneg, ?_⟩
      simpa [ha, accepted, hc, hv] using h.version
    · rintro ⟨hn, hsu⟩
      refine ⟨ha ▸ hn, ?_, ?_⟩
      · simpa [ha, accepted, hc, hs] using toInt_quantityAfter hne ho hn
      · simpa [ha, accepted, hc, hv] using hsu

variable {ms : List Movement}

theorem exact_cons_iff (h : Exact b [m]) : Exact b (m :: ms) ↔ Exact (b.call m).1 ms := by
  have hq := h.quantity
  have hv := h.version
  simp only [after, foldl_cons, foldl_nil, accepted, Int.add_zero] at hq hv
  constructor
  · rintro ⟨h₁, h₂, h₃⟩
    refine ⟨h₁, ?_, ?_⟩
    · rw [hq, Int.add_assoc]
      exact h₂
    · rw [hv, Int.add_assoc]
      exact h₃
  · rintro ⟨h₁, h₂, h₃⟩
    refine ⟨h₁, ?_, ?_⟩
    · rw [hq, Int.add_assoc] at h₂
      exact h₂
    · rw [hv, Int.add_assoc] at h₃
      exact h₃

theorem exact_prefixes_iff (ho : 0 ≤ b.quantityOnHand) : (∀ pre, pre <+: ms → Exact b pre) ↔
    ∀ pre m, pre ++ [m] <+: ms → Fits (b.after pre) m := by
  induction ms generalizing b with
  | nil =>
    refine ⟨fun _ pre m hp => ?_, fun _ pre hp => ?_⟩
    · simpa using prefix_nil.mp hp
    · obtain rfl := prefix_nil.mp hp
      exact ⟨ho, (Int.add_zero _).symm, (Int.add_zero _).symm⟩
  | cons m ms ih =>
    constructor
    · intro h pre m' hp
      have hon : Exact b [m] := h [m] (by simp)
      cases pre with
      | nil =>
        obtain ⟨rfl, -⟩ := cons_prefix_cons.mp hp
        exact (exact_call_iff ho).mp hon
      | cons m'' pre =>
        obtain ⟨rfl, ht⟩ := cons_prefix_cons.mp hp
        refine (ih hon.nonneg).mp (fun pre' hp' => ?_) pre m' ht
        exact (exact_cons_iff hon).mp (h _ (cons_prefix_cons.mpr ⟨rfl, hp'⟩))
    · intro h pre hp
      have hon : Exact b [m] := (exact_call_iff ho).mpr (h [] m (by simp))
      cases pre with
      | nil => exact ⟨ho, (Int.add_zero _).symm, (Int.add_zero _).symm⟩
      | cons m' pre =>
        obtain ⟨rfl, ht⟩ := cons_prefix_cons.mp hp
        refine (exact_cons_iff hon).mpr ((ih hon.nonneg).mpr (fun pre' m'' hp' => ?_) pre ht)
        exact h (m' :: pre') m'' (cons_prefix_cons.mpr ⟨rfl, hp'⟩)

/-- The quantity is the exact sum after every call exactly when no sum leaves 64 bits. -/
theorem quantity_law (h : new codec id productID tenantID actorID spec now = .ok b)
    (ms : List Movement) : ((∀ pre, pre <+: ms → Exact b pre) ∧
    ∀ pre m e, ((b.after pre).call m).2 = some e → ((b.after pre).call m).1 = b.after pre) ↔
    ∀ pre m, pre ++ [m] <+: ms → Fits (b.after pre) m := by
  obtain ⟨-, hz, -⟩ := new_eq_ok h
  rw [exact_prefixes_iff (hz ▸ Int64.le_refl 0)]
  exact ⟨And.left, fun hf => ⟨hf, fun _ _ _ => call_error⟩⟩

def paracetamol : Batch where
  id := "x"
  productID := "x"
  tenantID := "x"
  batchNumber := "B1"
  manufactureDate := day
  expiryDate := 3 * day
  manufacturerName := "M"
  manufacturingLicenceNumber := "L"
  mrpPaise := 100
  purchasePricePaise := 50
  quantityOnHand := 0
  version := 0
  createdAt := day
  updatedAt := day
  events := [⟨"x", "x", "x", "x", "B1", 3 * day, 0, day⟩]

theorem new_paracetamol :
    new unaryCodec "x" "x" "x" "x" ⟨"B1", day, 3 * day, "M", "L", 100, 50⟩ day =
    .ok paracetamol := by
  decide +kernel

theorem quantity_law_inbound : Exact paracetamol [⟨"inbound", 5, day⟩, ⟨"inbound", 2, day⟩] := by
  refine ((quantity_law new_paracetamol [⟨"inbound", 5, day⟩, ⟨"inbound", 2, day⟩]).mpr ?_).1 _
    (prefix_refl _)
  rintro (_ | ⟨m₁, _ | ⟨m₂, pre⟩⟩) m hp <;> simp [cons_prefix_cons] at hp
  · subst hp
    exact fun _ => ⟨fun _ => by decide +kernel, by decide +kernel⟩
  · obtain ⟨rfl, rfl⟩ := hp
    exact fun _ => ⟨fun _ => by decide +kernel, by decide +kernel⟩

theorem inbound_overflow :
    ¬ ∀ (b : Batch), new unaryCodec "x" "x" "x" "x" ⟨"B1", day, 3 * day, "M", "L", 100, 50⟩ day
    = .ok b → ∀ ms : List Movement, 0 ≤ (b.after ms).quantityOnHand := by
  intro h
  have hn := h paracetamol new_paracetamol [⟨"inbound", Int64.maxValue, day⟩, ⟨"inbound", 1, day⟩]
  exact absurd hn (by decide +kernel)

end Batch

end Leadkart
