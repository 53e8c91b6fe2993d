import Mathlib.Data.List.Sort
import Leadkart.Identity.Permission

/-!
# The Membership aggregate
-/

namespace Leadkart

open List

namespace Membership

def errInvalid : Sentinel := ⟨.invalidInput, "membership", "invalid membership"⟩
def errNotFound : Sentinel := ⟨.notFound, "membership", "membership not found"⟩
def errAlreadyActive : Sentinel := ⟨.conflict, "membership", "person already has active membership"⟩

inductive Status where
  | unknown
  | active
  | inactive
  deriving DecidableEq

structure GrantedOverride where
  permission : Permission
  expiresAt : Time := 0
  deriving DecidableEq

inductive Event where
  | created (membershipID personID tenantID : String) (at_ : Time)
  | deactivated (membershipID personID tenantID reason : String) (at_ : Time)
  | reactivated (membershipID personID tenantID : String) (at_ : Time)
  | roleAssigned (membershipID personID tenantID roleID : String) (at_ : Time)
  | roleRevoked (membershipID personID tenantID roleID : String) (at_ : Time)
  | permissionsUpdated (membershipID personID tenantID : String) (at_ : Time)
  | profileUpdated
      (membershipID personID tenantID designation department statusMessage : String) (at_ : Time)
  | managerAssigned (membershipID personID tenantID managerID previousManager : String)
      (at_ : Time)
  | managerRemoved (membershipID personID tenantID previousManager : String) (at_ : Time)
  deriving DecidableEq

end Membership

structure Membership where
  (id personID tenantID : String)
  status : Membership.Status
  joinedAt : Time
  leftAt : Time := 0
  roleAssignments : List String := []
  grantedPermissions : List Membership.GrantedOverride := []
  revokedPermissions : List Permission := []
  (designation department statusMessage reportsTo createdBy : String := "")
  events : List Membership.Event := []
  deriving DecidableEq

namespace Membership

abbrev Result := Membership × Option Err

def recordEvent (m : Membership) (e : Event) : Membership := { m with events := m.events ++ [e] }

def fail (m : Membership) (detail : String) : Result := (m, some ⟨errInvalid, detail⟩)

def new (id personID tenantID createdBy : String) (now : Time) : Except Err Membership :=
  if id = "" then .error ⟨errInvalid, "id required"⟩
  else if personID = "" then .error ⟨errInvalid, "personID required"⟩
  else if tenantID = "" then .error ⟨errInvalid, "tenantID required"⟩
  else if createdBy ≠ "" ∧ createdBy = id then
    .error ⟨errInvalid, "createdBy cannot equal id"⟩
  else .ok
    { id, personID, tenantID, createdBy
      status := .active
      joinedAt := now
      events := [.created id personID tenantID now] }

def deactivate (m : Membership) (reason : String) (now : Time) : Result :=
  if isBlank reason then m.fail "deactivation reason required for audit"
  else if m.status = .inactive then (m, none)
  else
    (recordEvent { m with status := .inactive, leftAt := now }
      (.deactivated m.id m.personID m.tenantID reason now), none)

def reactivate (m : Membership) (now : Time) : Result :=
  if m.status = .active then (m, none)
  else
    (recordEvent { m with status := .active, leftAt := 0 }
      (.reactivated m.id m.personID m.tenantID now), none)

def assignRole (m : Membership) (roleID : String) (now : Time) : Result :=
  if roleID = "" then m.fail "roleID required"
  else if roleID ∈ m.roleAssignments then (m, none)
  else
    (recordEvent { m with roleAssignments := m.roleAssignments ++ [roleID] }
      (.roleAssigned m.id m.personID m.tenantID roleID now), none)

def revokeRole (m : Membership) (roleID : String) (now : Time) : Result :=
  if roleID = "" then m.fail "roleID required"
  else if roleID ∉ m.roleAssignments then (m, none)
  else
    (recordEvent { m with roleAssignments := m.roleAssignments.erase roleID }
      (.roleRevoked m.id m.personID m.tenantID roleID now), none)

def setExpiry (p : Permission) (expiresAt : Time) : List GrantedOverride → List GrantedOverride
  | [] => []
  | g :: gs =>
    if g.permission.equal p then { g with expiresAt } :: gs else g :: setExpiry p expiresAt gs

def grantPermission (m : Membership) (p : Permission) (expiresAt now : Time) : Result :=
  let m := { m with revokedPermissions := m.revokedPermissions.eraseP p.equal }
  match m.grantedPermissions.find? fun g => g.permission.equal p with
  | some g =>
    if g.expiresAt = expiresAt then (m, none)
    else
      (recordEvent { m with grantedPermissions := setExpiry p expiresAt m.grantedPermissions }
        (.permissionsUpdated m.id m.personID m.tenantID now), none)
  | none =>
    (recordEvent { m with grantedPermissions := m.grantedPermissions ++ [⟨p, expiresAt⟩] }
      (.permissionsUpdated m.id m.personID m.tenantID now), none)

def revokePermission (m : Membership) (p : Permission) (now : Time) : Result :=
  let m := { m with grantedPermissions :=
              m.grantedPermissions.eraseP fun g => g.permission.equal p }
  if m.revokedPermissions.any p.equal then (m, none)
  else
    (recordEvent { m with revokedPermissions := m.revokedPermissions ++ [p] }
      (.permissionsUpdated m.id m.personID m.tenantID now), none)

def replacePermissionOverlays (m : Membership) (granted revoked : List Permission) (now : Time) :
    Result :=
  (recordEvent
    { m with
      grantedPermissions := granted.map fun p => ⟨p, 0⟩
      revokedPermissions := revoked }
    (.permissionsUpdated m.id m.personID m.tenantID now), none)

def updateProfile (m : Membership) (designation department statusMessage : String) (now : Time) :
    Result :=
  let d := trimSpace designation
  let dep := trimSpace department
  let sm := trimSpace statusMessage
  if d = m.designation ∧ dep = m.department ∧ sm = m.statusMessage then (m, none)
  else
    (recordEvent { m with designation := d, department := dep, statusMessage := sm }
      (.profileUpdated m.id m.personID m.tenantID d dep sm now), none)

def assignManager (m : Membership) (managerID : String) (now : Time) : Result :=
  if managerID = m.id then m.fail "cannot report to self"
  else if m.reportsTo = managerID then (m, none)
  else if managerID = "" then
    (recordEvent { m with reportsTo := managerID }
      (.managerRemoved m.id m.personID m.tenantID m.reportsTo now), none)
  else
    (recordEvent { m with reportsTo := managerID }
      (.managerAssigned m.id m.personID m.tenantID managerID m.reportsTo now), none)

def removeManager (m : Membership) (now : Time) : Result := m.assignManager "" now

def GrantedOverride.live (g : GrantedOverride) (now : Time) : Bool :=
  g.expiresAt.isZero || now.before g.expiresAt

def insertAll (set ps : List Permission) : List Permission :=
  ps.foldl (fun set p => set.insert p) set

def dropRevoked (set : List Permission) (rev : Permission) : List Permission :=
  if rev ∈ set then set.erase rev else set.eraseP fun k => k.equal rev

def supplied (m : Membership) (roles : List Role) (now : Time) : List Permission :=
  insertAll (insertAll [] (roles.flatMap Role.permissions))
    ((m.grantedPermissions.filter fun g => g.live now).map GrantedOverride.permission)

def effectivePermissions (m : Membership) (roles : List Role) (now : Time) : List Permission :=
  m.revokedPermissions.foldl dropRevoked (m.supplied roles now)

def permissionNames (ps : List Permission) : List String :=
  (ps.map Permission.name).insertionSort (· ≤ ·)

variable {set ps : List Permission} {p : Permission}

theorem mem_insertAll : p ∈ insertAll set ps ↔ p ∈ set ∨ p ∈ ps := by
  induction ps generalizing set with
  | nil => simp [insertAll]
  | cons q ps ih =>
    have hs : insertAll set (q :: ps) = insertAll (set.insert q) ps := rfl
    rw [hs, ih, mem_insert_iff, mem_cons]
    constructor
    · rintro ((rfl | h) | h)
      · exact .inr (.inl rfl)
      · exact .inl h
      · exact .inr (.inr h)
    · rintro (h | rfl | h)
      · exact .inl (.inr h)
      · exact .inl (.inl rfl)
      · exact .inr h

theorem nodup_insertAll (h : set.Nodup) : (insertAll set ps).Nodup := by
  induction ps generalizing set with
  | nil => exact h
  | cons q ps ih => exact ih (h.insert)

variable {rev : Permission}

theorem mem_dropRevoked (hnd : set.Nodup) (hs : ∀ q ∈ set, q.Interned) (hr : rev.Interned) :
    p ∈ dropRevoked set rev ↔ p ∈ set ∧ p ≠ rev := by
  unfold dropRevoked
  split
  · rw [hnd.mem_erase_iff, and_comm]
  · rename_i hm
    have hnone : ∀ k ∈ set, ¬ (k.equal rev = true) := by
      intro k hk heq
      exact hm ((hs k hk).eq hr (Permission.equal_iff.mp heq) ▸ hk)
    rw [eraseP_of_forall_not hnone]
    exact ⟨fun hp => ⟨hp, fun h => hm (h ▸ hp)⟩, fun hp => hp.1⟩

theorem nodup_dropRevoked (hnd : set.Nodup) : (dropRevoked set rev).Nodup := by
  unfold dropRevoked
  split
  · exact hnd.erase rev
  · exact hnd.sublist eraseP_sublist

theorem mem_foldl_dropRevoked {revs : List Permission} (hnd : set.Nodup)
    (hs : ∀ q ∈ set, q.Interned) (hr : ∀ q ∈ revs, q.Interned) :
    p ∈ revs.foldl dropRevoked set ↔ p ∈ set ∧ p ∉ revs := by
  induction revs generalizing set with
  | nil => simp
  | cons rev revs ih =>
    have hre : rev.Interned := hr rev (mem_cons_self ..)
    have hm : ∀ {q}, q ∈ dropRevoked set rev ↔ q ∈ set ∧ q ≠ rev := mem_dropRevoked hnd hs hre
    rw [foldl_cons, ih (nodup_dropRevoked hnd) (fun q hq => hs q (hm.mp hq).1)
      (fun q hq => hr q (mem_cons_of_mem _ hq)), hm, mem_cons, not_or, and_assoc]

structure Loaded (m : Membership) : Prop where
  granted : ∀ g ∈ m.grantedPermissions, g.permission.Interned
  revoked : ∀ p ∈ m.revokedPermissions, p.Interned
  one : ((m.grantedPermissions.map GrantedOverride.permission ++ m.revokedPermissions).map
    Permission.name).Nodup

variable {now : Time}

theorem mem_supplied {m : Membership} {roles : List Role} :
    p ∈ m.supplied roles now ↔ (∃ r ∈ roles, p ∈ r.permissions) ∨
    ∃ g ∈ m.grantedPermissions, g.live now = true ∧ g.permission = p := by
  unfold supplied
  rw [mem_insertAll, mem_insertAll, List.mem_flatMap]
  simp only [not_mem_nil, false_or, mem_map, mem_filter, and_assoc]

variable {m : Membership} {roles : List Role}

theorem mem_effectivePermissions (hg : ∀ g ∈ m.grantedPermissions, g.permission.Interned)
    (hrv : ∀ p ∈ m.revokedPermissions, p.Interned) (hro : ∀ r ∈ roles, r.Loaded) :
    p ∈ m.effectivePermissions roles now ↔ ((∃ r ∈ roles, p ∈ r.permissions) ∨
    ∃ g ∈ m.grantedPermissions, g.live now = true ∧ g.permission = p) ∧
    p ∉ m.revokedPermissions := by
  have hs : ∀ q ∈ m.supplied roles now, q.Interned := by
    intro q hq
    rcases mem_supplied.mp hq with ⟨r, hr, hqr⟩ | ⟨g, hgm, -, rfl⟩
    · exact hro r hr q hqr
    · exact hg g hgm
  have hnd : (m.supplied roles now).Nodup := nodup_insertAll (nodup_insertAll nodup_nil)
  unfold effectivePermissions
  rw [mem_foldl_dropRevoked hnd hs hrv, mem_supplied]

end Membership

end Leadkart
