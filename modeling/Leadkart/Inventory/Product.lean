import Leadkart.Common.Tenancy

/-!
# Products
-/

namespace Leadkart

namespace Product

def errInvalid : Sentinel := ⟨.invalidInput, "product", "invalid product"⟩
def errDeleted : Sentinel := ⟨.conflict, "product", "product is deleted"⟩
def errNotFound : Sentinel := ⟨.notFound, "product", "product not found"⟩
def errSKUTaken : Sentinel := ⟨.alreadyExists, "product", "sku already taken in this tenant"⟩

def skuMinLength : Nat := 1
def skuMaxLength : Nat := 64
def nameMinLength : Nat := 1
def nameMaxLength : Nat := 200
def dosageFormMinLength : Nat := 1
def dosageFormMaxLength : Nat := 50
def packSizeMinLength : Nat := 1
def packSizeMaxLength : Nat := 100
def hsnCodeMinLength : Nat := 4
def hsnCodeMaxLength : Nat := 10
def manufacturerMaxLen : Nat := 200
def gstRateBpsMin : Int := 0
def gstRateBpsMax : Int := 10000
def reorderLevelMin : Int := 0
def expiryAlertThresholdDaysMin : Int := 0
def productCategoryMinLength : Nat := 1
def productCategoryMaxLength : Nat := 64
def productCategoryDefault : String := "General"

structure Spec where
  (sku name dosageForm packSize hsnCode : String)
  gstRateBps : Int
  manufacturer : String
  (reorderLevel expiryAlertThresholdDays : Int)
  productCategory : String

inductive Event where
  | created (productID tenantID actorID sku name dosageForm packSize hsnCode : String)
      (gstRateBps : Int) (manufacturer : String) (occurredAt : Time)
  | updated (productID tenantID actorID : String) (changedFields : List String) (occurredAt : Time)
  | deactivated (productID tenantID actorID : String) (occurredAt : Time)
  | softDeleted (productID tenantID actorID : String) (occurredAt : Time)

end Product

structure Product where
  (id tenantID sku name dosageForm packSize hsnCode : String)
  gstRateBps : Int
  manufacturer : String
  isActive : Bool
  (reorderLevel expiryAlertThresholdDays : Int)
  productCategory : String
  (createdAt updatedAt : Time)
  deleted : Bool := false
  deletedAt : Time := 0
  deletedBy : String := ""
  events : List Product.Event := []

namespace Product

def recordEvent (p : Product) (e : Event) : Product := { p with events := p.events ++ [e] }

def checkLength (field : String) (min max : Nat) (text : String) : Except Err Unit :=
  if text.utf8ByteSize < min ∨ max < text.utf8ByteSize then
    .error ⟨errInvalid, field ++ " length " ++ toString text.utf8ByteSize ++ " not in [" ++
      toString min ++ "," ++ toString max ++ "]"⟩
  else .ok ()

def validateBoundedTrim (raw field : String) (min max : Nat) : Except Err String := do
  let t := trimSpace raw
  if t = "" then throw ⟨errInvalid, field ++ " required"⟩
  checkLength field min max t
  return t

def validateSKU (toUpper : String → String) (raw : String) : Except Err String := do
  let trimmed := toUpper (trimSpace raw)
  if trimmed = "" then throw ⟨errInvalid, "sku required"⟩
  checkLength "sku" skuMinLength skuMaxLength trimmed
  return trimmed

def validateHSN (raw : String) : Except Err String := do
  let t := trimSpace raw
  checkLength "hsn_code" hsnCodeMinLength hsnCodeMaxLength t
  if t.toList.all Char.isDigit then return t
  else throw ⟨errInvalid, "hsn_code must be all-digits (got " ++ t ++ ")"⟩

def checkGSTRateBps (bps : Int) : Except Err Unit :=
  if bps < gstRateBpsMin ∨ gstRateBpsMax < bps then
    .error ⟨errInvalid, "gst_rate_bps " ++ toString bps ++ " not in [" ++ toString gstRateBpsMin ++
      "," ++ toString gstRateBpsMax ++ "]"⟩
  else .ok ()

def cleanManufacturer (raw : String) : Except Err String :=
  let manufacturer := trimSpace raw
  if manufacturerMaxLen < manufacturer.utf8ByteSize then
    .error ⟨errInvalid, "manufacturer too long (max " ++ toString manufacturerMaxLen ++ ", got " ++
      toString manufacturer.utf8ByteSize ++ ")"⟩
  else .ok manufacturer

def checkAtLeast (field : String) (min value : Int) : Except Err Unit :=
  if value < min then
    .error ⟨errInvalid, field ++ " must be >= " ++ toString min ++ " (got " ++ toString value ++
      ")"⟩
  else .ok ()

def cleanCategory (raw : String) : Except Err String := do
  let trimmed := trimSpace raw
  let category := if trimmed = "" then productCategoryDefault else trimmed
  checkLength "product_category" productCategoryMinLength productCategoryMaxLength category
  return category

def new (codec : UuidCodec) (toUpper : String → String) (id tenantID actorID : String)
    (spec : Spec) (now : Time) : Except Err Product := do
  codec.validateUUID errInvalid "id" id
  codec.validateUUID errInvalid "tenantID" tenantID
  codec.validateUUID errInvalid "actorID" actorID
  let sku ← validateSKU toUpper spec.sku
  let name ← validateBoundedTrim spec.name "name" nameMinLength nameMaxLength
  let dosageForm ←
    validateBoundedTrim spec.dosageForm "dosage_form" dosageFormMinLength dosageFormMaxLength
  let packSize ← validateBoundedTrim spec.packSize "pack_size" packSizeMinLength packSizeMaxLength
  let hsnCode ← validateHSN spec.hsnCode
  checkGSTRateBps spec.gstRateBps
  let manufacturer ← cleanManufacturer spec.manufacturer
  checkAtLeast "reorder_level" reorderLevelMin spec.reorderLevel
  checkAtLeast "expiry_alert_threshold_days" expiryAlertThresholdDaysMin
    spec.expiryAlertThresholdDays
  let productCategory ← cleanCategory spec.productCategory
  return recordEvent
    { id, tenantID, sku, name, dosageForm, packSize, hsnCode, manufacturer, productCategory
      gstRateBps := spec.gstRateBps
      isActive := true
      reorderLevel := spec.reorderLevel
      expiryAlertThresholdDays := spec.expiryAlertThresholdDays
      createdAt := now
      updatedAt := now }
    (.created id tenantID actorID sku name dosageForm packSize hsnCode spec.gstRateBps
      manufacturer now)

def softDelete (p : Product) (actorID : String) (now : Time) : Except Err Product :=
  if p.deleted then .ok p
  else if actorID = "" then .error ⟨errInvalid, "actorID required for audit"⟩
  else .ok (recordEvent
    { p with deleted := true, deletedAt := now, deletedBy := actorID, updatedAt := now }
    (.softDeleted p.id p.tenantID actorID now))

structure Columns where
  tenantID : UUID
  (sku name dosageForm packSize hsnCode : String)
  gstRateBps : Int
  manufacturer : String
  isActive : Bool
  (createdAt updatedAt : Time)
  isDeleted : Bool := false
  deletedAt : Option Time := none
  deletedBy : Option String := none
  (reorderLevel expiryAlertThresholdDays : Int)
  productCategory : String

structure Columns.Valid (c : Columns) : Prop where
  sku : 1 ≤ c.sku.length ∧ c.sku.length ≤ 64
  name : 1 ≤ c.name.length ∧ c.name.length ≤ 200
  dosageForm : 1 ≤ c.dosageForm.length ∧ c.dosageForm.length ≤ 50
  packSize : 1 ≤ c.packSize.length ∧ c.packSize.length ≤ 100
  hsnCode : 4 ≤ c.hsnCode.length ∧ c.hsnCode.length ≤ 10
  gstRateBps : 0 ≤ c.gstRateBps ∧ c.gstRateBps ≤ 10000
  manufacturer : c.manufacturer.length ≤ 200
  reorderLevel : 0 ≤ c.reorderLevel
  expiryAlertThresholdDays : 0 ≤ c.expiryAlertThresholdDays
  productCategory : 1 ≤ c.productCategory.length ∧ c.productCategory.length ≤ 64

instance (c : Columns) : Decidable c.Valid :=
  decidable_of_iff
    ((1 ≤ c.sku.length ∧ c.sku.length ≤ 64) ∧ (1 ≤ c.name.length ∧ c.name.length ≤ 200) ∧
      (1 ≤ c.dosageForm.length ∧ c.dosageForm.length ≤ 50) ∧
      (1 ≤ c.packSize.length ∧ c.packSize.length ≤ 100) ∧
      (4 ≤ c.hsnCode.length ∧ c.hsnCode.length ≤ 10) ∧
      (0 ≤ c.gstRateBps ∧ c.gstRateBps ≤ 10000) ∧ c.manufacturer.length ≤ 200 ∧
      0 ≤ c.reorderLevel ∧ 0 ≤ c.expiryAlertThresholdDays ∧
      (1 ≤ c.productCategory.length ∧ c.productCategory.length ≤ 64))
    ⟨fun ⟨h₁, h₂, h₃, h₄, h₅, h₆, h₇, h₈, h₉, h₀⟩ => ⟨h₁, h₂, h₃, h₄, h₅, h₆, h₇, h₈, h₉, h₀⟩,
      fun ⟨h₁, h₂, h₃, h₄, h₅, h₆, h₇, h₈, h₉, h₀⟩ => ⟨h₁, h₂, h₃, h₄, h₅, h₆, h₇, h₈, h₉, h₀⟩⟩

abbrev Row := { c : Columns // c.Valid }

def insertParams (p : Product) (tenantID : UUID) : Columns where
  tenantID := tenantID
  sku := p.sku
  name := p.name
  dosageForm := p.dosageForm
  packSize := p.packSize
  hsnCode := p.hsnCode
  gstRateBps := toInt32 p.gstRateBps
  manufacturer := p.manufacturer
  isActive := p.isActive
  createdAt := p.createdAt
  updatedAt := p.updatedAt
  reorderLevel := toInt32 p.reorderLevel
  expiryAlertThresholdDays := toInt32 p.expiryAlertThresholdDays
  productCategory := p.productCategory

def softDeleteParams (p : Product) (c : Columns) : Columns :=
  { c with
    isDeleted := true
    deletedAt := some p.deletedAt
    deletedBy := zeroToNil p.deletedBy
    updatedAt := p.updatedAt }

def updateParams (p : Product) (c : Columns) : Columns :=
  { c with
    name := p.name
    gstRateBps := toInt32 p.gstRateBps
    manufacturer := p.manufacturer
    isActive := p.isActive
    updatedAt := p.updatedAt
    reorderLevel := toInt32 p.reorderLevel
    expiryAlertThresholdDays := toInt32 p.expiryAlertThresholdDays
    productCategory := p.productCategory }

def rowToProduct (codec : UuidCodec) (id : UUID) (c : Columns) : Product where
  id := codec.string id
  tenantID := codec.string c.tenantID
  sku := c.sku
  name := c.name
  dosageForm := c.dosageForm
  packSize := c.packSize
  hsnCode := c.hsnCode
  gstRateBps := c.gstRateBps
  manufacturer := c.manufacturer
  isActive := c.isActive
  reorderLevel := c.reorderLevel
  expiryAlertThresholdDays := c.expiryAlertThresholdDays
  productCategory := if c.productCategory = "" then productCategoryDefault else c.productCategory
  createdAt := c.createdAt
  updatedAt := c.updatedAt
  deleted := c.isDeleted
  deletedAt := timeFromPg c.deletedAt
  deletedBy := stringFromPg c.deletedBy

variable {id tenantID actorID : String} {now : Time} {p p' : Product}

theorem softDelete_eq_ok (h : p.softDelete actorID now = .ok p') :
    p'.deleted = true ∧ p'.id = p.id ∧ p'.tenantID = p.tenantID ∧
    (p.deleted = false → ∃ e, p'.events = p.events ++ [e]) := by
  unfold softDelete at h
  split at h
  next hd =>
    cases h
    exact ⟨hd, rfl, rfl, fun hl => nomatch hd.symm.trans hl⟩
  · split at h
    · cases h
    · cases h
      exact ⟨rfl, rfl, rfl, fun _ => ⟨_, rfl⟩⟩

theorem valid_softDeleteParams {c : Columns} (h : c.Valid) : (p.softDeleteParams c).Valid :=
  { h with }

end Product

end Leadkart
