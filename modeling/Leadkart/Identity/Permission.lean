import Mathlib.Data.List.Dedup
import Mathlib.Data.List.ReduceOption
import Leadkart.Common.Basic

/-!
# Permissions and the Role aggregate
-/

namespace Leadkart

structure Permission where
  addr : Nat
  name : String
  deriving DecidableEq

namespace Permission

def equal (p q : Permission) : Bool := p == q || p.name == q.name

def errUnknown : Sentinel := ⟨.unknown, "permission", "unknown name"⟩
def errEmpty : Sentinel := ⟨.unknown, "permission", "name required"⟩
def errFormat : Sentinel := ⟨.unknown, "permission", "invalid format"⟩

def nameMinLength : Nat := 3
def nameMaxLength : Nat := 100

def allNames : List String :=
  ["tenant.admin", "identity.meta.request_permission_elevation",
   "platform.tenants.view", "platform.tenants.create", "platform.tenants.manage",
   "platform.users.view", "platform.users.create", "platform.users.manage",
   "platform.roles.view", "platform.roles.manage",
   "identity.tenants.view", "identity.tenants.update", "identity.tenants.update_settings",
   "identity.tenants.suspend", "identity.tenants.activate", "identity.tenants.delete",
   "identity.users.view", "identity.users.create", "identity.users.update",
   "identity.users.deactivate", "identity.users.reactivate", "identity.users.unlock",
   "identity.users.anonymise", "identity.users.update_permissions",
   "identity.roles.view", "identity.roles.create", "identity.roles.update",
   "identity.roles.delete", "identity.roles.assign", "identity.roles.revoke",
   "identity.roles.approve",
   "crm.leads.read", "crm.leads.assign", "crm.leads.manage", "crm.leads.read_all",
   "platform.unverified_contacts.manage",
   "platform.marketplace.browse", "platform.marketplace.purchase",
   "platform.lead_credits.read", "platform.lead_credits.topup",
   "inventory.catalog.read", "inventory.catalog.manage",
   "inventory.stock.read", "inventory.stock.manage",
   "tasks.work_items.read", "tasks.work_items.read_all",
   "tasks.work_items.manage", "tasks.work_items.reassign"]

def intern (name : String) : Option Permission :=
  if name ∈ allNames then some ⟨allNames.idxOf name, name⟩ else none

def tryFromConstant (name : String) : Except Err Permission :=
  if isBlank name then .error ⟨errEmpty, ""⟩
  else
    match intern (trimSpace name) with
    | some p => .ok p
    | none => .error ⟨errUnknown, name⟩

def nameChar (c : Char) : Bool :=
  ('a' ≤ c && c ≤ 'z') || ('A' ≤ c && c ≤ 'Z') || ('0' ≤ c && c ≤ '9') ||
    c == '.' || c == '_' || c == ':'

def create (heap : Nat) (name : String) : Except Err Permission × Nat :=
  let trimmed := trimSpace name
  if trimmed = "" then (.error ⟨errEmpty, ""⟩, heap)
  else if trimmed.utf8ByteSize < nameMinLength ∨ trimmed.utf8ByteSize > nameMaxLength then
    (.error ⟨errFormat, "length " ++ toString trimmed.utf8ByteSize ++ " not in [3,100]"⟩, heap)
  else
    match trimmed.toList.find? fun c => !nameChar c with
    | some c => (.error ⟨errFormat, "invalid char '" ++ c.toString ++ "'"⟩, heap)
    | none =>
      match intern trimmed with
      | some p => (.ok p, heap)
      | none => (.ok ⟨heap, trimmed⟩, heap + 1)

def Interned (p : Permission) : Prop := intern p.name = some p

instance (p : Permission) : Decidable p.Interned := inferInstanceAs (Decidable (_ = _))

variable {name : String} {p : Permission}

theorem intern_name (h : intern name = some p) : p.name = name := by
  unfold intern at h
  split at h
  · cases h
    rfl
  · cases h

theorem interned_of_intern (h : intern name = some p) : p.Interned := by
  unfold Interned
  rw [intern_name h, h]

theorem interned_of_tryFromConstant (h : tryFromConstant name = .ok p) : p.Interned := by
  unfold tryFromConstant at h
  split at h
  · cases h
  split at h
  · rename_i q hq
    cases h
    exact interned_of_intern hq
  · cases h

variable {q : Permission}

theorem Interned.eq (hp : p.Interned) (hq : q.Interned) (h : p.name = q.name) : p = q := by
  unfold Interned at hp hq
  rw [h, hq] at hp
  exact (Option.some.inj hp).symm

@[simp] theorem equal_iff : p.equal q = true ↔ p.name = q.name := by
  unfold equal
  rw [Bool.or_eq_true, beq_iff_eq, beq_iff_eq]
  exact ⟨fun h => h.elim (fun h => by rw [h]) id, .inr⟩

end Permission

/-! ## Roles -/

namespace Role

def errInvalid : Sentinel := ⟨.invalidInput, "role", "invalid role"⟩
def errSystemDefault : Sentinel := ⟨.unknown, "role", "cannot mutate system-default role"⟩
def errDeleted : Sentinel := ⟨.unknown, "role", "cannot mutate deleted role"⟩

def hierarchyLevelDefault : Int := 50
def hierarchyLevelMin : Int := 0
def hierarchyLevelMax : Int := 99
def nameMinLength : Nat := 2
def nameMaxLength : Nat := 100

inductive Event where
  | created (roleID tenantID name : String) (isSystemDefault : Bool) (hierarchyLevel : Int)
      (isSuperAdmin : Bool) (at_ : Time)
  | renamed (roleID tenantID oldName newName : String) (at_ : Time)
  | permissionGranted (roleID tenantID permission : String) (at_ : Time)
  | permissionRevoked (roleID tenantID permission : String) (at_ : Time)
  | deleted (roleID tenantID deletedBy : String) (at_ : Time)

end Role

structure Role where
  (id tenantID name : String)
  (isSystemDefault isSuperAdmin : Bool)
  hierarchyLevel : Int
  permissions : List Permission := []
  createdAt : Time
  deleted : Bool := false
  deletedAt : Time := 0
  deletedBy : String := ""
  events : List Role.Event := []

namespace Role

variable (r : Role)

abbrev Result := Role × Option Err

def validateName (raw : String) : Except Err String :=
  let trimmed := trimSpace raw
  if trimmed = "" then .error ⟨errInvalid, "name required"⟩
  else if trimmed.utf8ByteSize < nameMinLength ∨ trimmed.utf8ByteSize > nameMaxLength then
    .error ⟨errInvalid, s!"name length {trimmed.utf8ByteSize} not in [2,100]"⟩
  else .ok trimmed

def new (id tenantID name : String) (isSystemDefault : Bool) (hierarchyLevel : Int)
    (isSuperAdmin : Bool) (now : Time) : Except Err Role :=
  if id = "" then .error ⟨errInvalid, "id required"⟩
  else if tenantID = "" then .error ⟨errInvalid, "tenantID required"⟩
  else
    match validateName name with
    | .error e => .error e
    | .ok trimmed =>
      if hierarchyLevel < hierarchyLevelMin ∨ hierarchyLevel > hierarchyLevelMax then
        .error ⟨errInvalid, s!"hierarchyLevel {hierarchyLevel} not in [0,99]"⟩
      else .ok
        { id, tenantID
          name := trimmed
          isSystemDefault, isSuperAdmin, hierarchyLevel
          createdAt := now
          events := [.created id tenantID trimmed isSystemDefault hierarchyLevel isSuperAdmin now] }

def recordEvent (e : Event) : Role := { r with events := r.events ++ [e] }

def rename (newName : String) (now : Time) : Result :=
  if r.deleted then (r, some ⟨errDeleted, r.name⟩)
  else if r.isSystemDefault then (r, some ⟨errSystemDefault, r.name⟩)
  else
    match validateName newName with
    | .error e => (r, some e)
    | .ok trimmed =>
      if trimmed = r.name then (r, none)
      else (recordEvent { r with name := trimmed } (.renamed r.id r.tenantID r.name trimmed now),
        none)

def changeHierarchyLevel (level : Int) : Result :=
  if r.deleted then (r, some ⟨errDeleted, r.name⟩)
  else if r.isSystemDefault then (r, some ⟨errSystemDefault, r.name⟩)
  else if level < hierarchyLevelMin ∨ level > hierarchyLevelMax then
    (r, some ⟨errInvalid, s!"hierarchyLevel {level} not in [0,99]"⟩)
  else ({ r with hierarchyLevel := level }, none)

def grantPermission (p : Option Permission) (now : Time) : Result :=
  if r.deleted then (r, some ⟨errDeleted, r.name⟩)
  else
    match p with
    | none => (r, some ⟨errInvalid, "permission required"⟩)
    | some p =>
      if r.permissions.any p.equal then (r, none)
      else
        (recordEvent { r with permissions := r.permissions ++ [p] }
          (.permissionGranted r.id r.tenantID p.name now), none)

def revokePermission (p : Option Permission) (now : Time) : Result :=
  if r.deleted then (r, some ⟨errDeleted, r.name⟩)
  else
    match p with
    | none => (r, some ⟨errInvalid, "permission required"⟩)
    | some p =>
      if !r.permissions.any p.equal then (r, none)
      else
        (recordEvent { r with permissions := r.permissions.eraseP p.equal }
          (.permissionRevoked r.id r.tenantID p.name now), none)

def appendMissing (r : Role) (now : Time) : List String → List Permission → Role
  | _, [] => r
  | current, p :: ps =>
    if p.name ∈ current then appendMissing r now current ps
    else
      appendMissing
        (recordEvent { r with permissions := r.permissions ++ [p] }
          (.permissionGranted r.id r.tenantID p.name now))
        now (p.name :: current) ps

def replacePermissions (target : List (Option Permission)) (now : Time) : Result :=
  if r.deleted then (r, some ⟨errDeleted, r.name⟩)
  else
    let target := target.reduceOption
    let want := target.map Permission.name
    let gone := r.permissions.filter fun p => p.name ∉ want
    let kept :=
      { r with
        permissions := r.permissions.filter fun p => p.name ∈ want
        events := r.events ++ gone.map fun p => .permissionRevoked r.id r.tenantID p.name now }
    (appendMissing kept now (r.permissions.map Permission.name) target, none)

def delete (deletedBy : String) (now : Time) : Result :=
  if r.deleted then (r, none)
  else if r.isSystemDefault then (r, some ⟨errSystemDefault, r.name⟩)
  else
    (recordEvent { r with deleted := true, deletedAt := now, deletedBy }
      (.deleted r.id r.tenantID deletedBy now), none)

def Loaded : Prop := ∀ p ∈ r.permissions, p.Interned

end Role

end Leadkart
