import Leadkart.Identity.Registration

/-!
# User and role management over HTTP
-/

namespace Leadkart

open List Table Permission MembershipRepository Effect
open Leadkart.Membership (StoredMembership OverrideKind loadPermissionOverrides rowToMembership
  loadMembership)

structure UuidLib where
  parse : String → Option String

structure CreateRoleRequest where
  name : String
  hierarchyLevel : Int
  parentRoleID : String := ""

inductive ManagementRequest where
  | assignUserRole (userId : String) (roleID : Option String)
  | revokeUserRole (userId roleId : String)
  | replaceUserPermissionOverrides (userId : String) (body : Option (List String × List String))
  | createRole (body : Option CreateRoleRequest)
  | replaceRolePermissions (roleId : String) (permissions : Option (List String))
  | grantRolePermission (roleId : String) (permission : Option String)
  | revokeRolePermission (roleId : String) (permission : Option String)

structure RouteDraws where
  isFresh : Except Err Bool
  now : Time
  roleID : String := ""
  edge : Option Failure := none

def invalidCredentials : Failure := ⟨401, "invalid_credentials", ""⟩
def invalidBody : Failure := ⟨400, "invalid_body", "request body is not valid JSON"⟩
def roleNameTaken : Failure := ⟨409, "role_name_taken", "a role with this name already exists"⟩
def internalError : Failure := ⟨500, "internal_error", ""⟩

def writeUserMutationResult (e : Err) : Failure :=
  if e.is Membership.errNotFound then ⟨404, "user_not_found", ""⟩
  else if e.is Membership.errInvalid then ⟨422, "user_invalid", e.detail⟩
  else internalError

def writeRoleMutationResult (e : Err) : Failure :=
  if e.is Role.errNotFound then ⟨404, "role_not_found", ""⟩
  else if e.is Role.errNameTaken then roleNameTaken
  else if e.is Role.errInvalid then ⟨422, "role_invalid", e.detail⟩
  else internalError

/-! ## Handlers -/

abbrev Handler := Effect Store Failure

def orFail {α : Type} (f : Failure) : Option α → Handler α
  | some a => pure a
  | none => .fail f

def tenancyFromContext (c : Claims) : Handler String :=
  if c.tenantID = "" then .fail invalidCredentials else pure c.tenantID

def resolvePermissions : List String → Except Failure (List Permission)
  | [] => .ok []
  | n :: ns =>
    match Permission.tryFromConstant n with
    | .error _ => .error ⟨422, "permission_unknown", n⟩
    | .ok p =>
      match resolvePermissions ns with
      | .error f => .error f
      | .ok ps => .ok (p :: ps)

def roleOpFn (op : Role → Role.Result) (r : Role) : Role × Except Err Bool :=
  match op r with
  | (r', none) => (r', .ok true)
  | (r', some e) => (r', .error e)

section

variable (u : UuidLib) (c : Claims) (d : RouteDraws)

def parseUserIDPath (raw : String) : Handler String :=
  orFail ⟨400, "invalid_user_id", "userId path parameter must be a UUID"⟩ (u.parse raw)

def parseRoleIDPath (raw : String) : Handler String :=
  orFail ⟨400, "invalid_role_id", "roleId path parameter must be a UUID"⟩ (u.parse raw)

def updateUser (tenantID id : String) (op : Membership → Membership.Result) : Handler Unit :=
  (updateByID tenantID id (Membership.opFn op)).mapError
    writeUserMutationResult

def updateRole (tenantID id : String) (op : Role → Role.Result) : Handler Unit :=
  (RoleRepository.updateByID tenantID id (roleOpFn op)).mapError writeRoleMutationResult

def assignRoleCanonical (roleID : String) (now : Time) (m : Membership) : Membership.Result :=
  let (m', e) := m.assignRole roleID now
  ({ m' with roleAssignments := m'.roleAssignments.map fun id => (u.parse id).getD id }, e)

def handleAssignUserRole (userId : String) (body : Option String) : Handler Unit := do
  let tid ← tenancyFromContext c
  let mid ← parseUserIDPath u userId
  let roleID ← orFail invalidBody body
  let _ ← orFail ⟨400, "invalid_role_id", "role_id must be a UUID"⟩ (u.parse roleID)
  updateUser tid mid (assignRoleCanonical u roleID d.now)

def handleRevokeUserRole (userId roleId : String) : Handler Unit := do
  let tid ← tenancyFromContext c
  let mid ← parseUserIDPath u userId
  let _ ← parseRoleIDPath u roleId
  updateUser tid mid fun m => m.revokeRole roleId d.now

def handleReplaceUserPermissionOverrides (userId : String)
    (body : Option (List String × List String)) : Handler Unit := do
  let tid ← tenancyFromContext c
  let mid ← parseUserIDPath u userId
  let (grantedNames, revokedNames) ← orFail invalidBody body
  let granted ← .ofExcept (resolvePermissions grantedNames)
  let revoked ← .ofExcept (resolvePermissions revokedNames)
  updateUser tid mid fun m => m.replacePermissionOverlays granted revoked d.now

def createRole (tenantID : String) (req : CreateRoleRequest) : Handler Unit :=
  match Role.new d.roleID tenantID req.name false req.hierarchyLevel false d.now with
  | .error e => .fail (writeRoleMutationResult e)
  | .ok r =>
    if req.parentRoleID = "" then (RoleRepository.add r).mapError writeRoleMutationResult
    else .atomic do
      (RoleRepository.add r).mapError writeRoleMutationResult
      match d.edge with
      | some f => .fail f
      | none => pure ()

def handleCreateRole (body : Option CreateRoleRequest) : Handler Unit := do
  let tid ← tenancyFromContext c
  let req ← orFail invalidBody body
  if req.parentRoleID ≠ "" && (u.parse req.parentRoleID).isNone then
    .fail ⟨400, "invalid_role_id", "parent_role_id must be a UUID"⟩
  else createRole d tid req

def handleRolePermissions {β : Type} (roleId : String) (body : Option β)
    (op : β → Except Failure (Role → Role.Result)) : Handler Unit := do
  let rid ← parseRoleIDPath u roleId
  let req ← orFail invalidBody body
  let tid ← tenancyFromContext c
  let f ← .ofExcept (op req)
  updateRole tid rid f

def handleReplaceRolePermissions (roleId : String) (body : Option (List String)) : Handler Unit :=
  handleRolePermissions u c roleId body fun names =>
    (resolvePermissions names).map fun target r => r.replacePermissions (target.map some) d.now

def onePermission (op : Role → Option Permission → Time → Role.Result) (name : String) :
    Except Failure (Role → Role.Result) :=
  match Permission.tryFromConstant name with
  | .error _ => .error ⟨422, "permission_unknown", name⟩
  | .ok p => .ok fun r => op r (some p) d.now

def handleGrantRolePermission (roleId : String) (body : Option String) : Handler Unit :=
  handleRolePermissions u c roleId body (onePermission d Role.grantPermission)

def handleRevokeRolePermission (roleId : String) (body : Option String) : Handler Unit :=
  handleRolePermissions u c roleId body (onePermission d Role.revokePermission)

def managementRoute (req : ManagementRequest) : Handler Unit :=
  match requireFreshStamp d.isFresh c with
  | some f => .fail f
  | none =>
    match req with
    | .assignUserRole userId roleID => handleAssignUserRole u c d userId roleID
    | .revokeUserRole userId roleId => handleRevokeUserRole u c d userId roleId
    | .replaceUserPermissionOverrides userId body =>
      handleReplaceUserPermissionOverrides u c d userId body
    | .createRole body => handleCreateRole u c d body
    | .replaceRolePermissions roleId names => handleReplaceRolePermissions u c d roleId names
    | .grantRolePermission roleId name => handleGrantRolePermission u c d roleId name
    | .revokeRolePermission roleId name => handleRevokeRolePermission u c d roleId name

end

def managementPermissions : List String :=
  ["tenant.admin", "identity.users.update_permissions", "identity.roles.create",
   "identity.roles.update", "identity.roles.assign", "identity.roles.revoke"]

structure OrdinaryCaller where
  claims : Claims
  authenticated : requireFreshStamp (.ok true) claims = none
  notSuperUser : claims.isSuperUser = false
  notPlatform : claims.isPlatform = false
  lacks : ∀ n ∈ managementPermissions, n ∉ claims.permissions

def serveManagement (u : UuidLib) (caller : OrdinaryCaller) (s : Store)
    (q : ManagementRequest × RouteDraws) : Option Store :=
  some ((managementRoute u caller.claims q.2 q.1).run s).2

def resolve (tenantID membershipID : String) (now : Time) : Repo (List Permission) := do
  let m ← getByID tenantID membershipID
  let roles ← RoleRepository.getByIDs m.tenantID m.roleAssignments
  pure (m.effectivePermissions roles now)

def Store.HasPermission (s : Store) (tenantID membershipID : String) (now : Time)
    (name : String) : Prop :=
  ∃ ps, ((resolve tenantID membershipID now).run s).1 = .ok ps ∧ name ∈ ps.map Permission.name

section Untouched

variable {u : UuidLib} {c : Claims} {d : RouteDraws} {s₀ : Store} {tenantID : String}

def Membership.StoredMembership.Loads (st : StoredMembership) : Prop :=
  st.row.status ≠ .unknown ∧
    ∀ r ∈ st.overrides, ∃ p, Permission.tryFromConstant r.permissionName = .ok p

theorem loadPermissionOverrides_ok_iff {rs : List Membership.OverrideRow} :
    (∃ r, loadPermissionOverrides rs = .ok r) ↔
    ∀ r ∈ rs, ∃ p, Permission.tryFromConstant r.permissionName = .ok p := by
  induction rs with
  | nil => simp [loadPermissionOverrides]
  | cons r rs ih =>
    rw [forall_mem_cons, ← ih]
    simp only [loadPermissionOverrides]
    rcases tryFromConstant r.permissionName with e | p
    · simp
    · rcases hr : loadPermissionOverrides rs with e | ⟨granted, revoked⟩
      · simp
      · cases r.kind <;> simp

theorem hydrate_ok_iff {st : StoredMembership} :
    (∃ m, hydrate st = .ok m) ↔ st.Loads := by
  unfold StoredMembership.Loads
  rw [← loadPermissionOverrides_ok_iff]
  unfold hydrate
  simp only [loadMembership]
  rcases loadPermissionOverrides st.overrides with e | ⟨granted, revoked⟩
  · simp
  · unfold rowToMembership
    by_cases hs : st.row.status = .unknown
    · simp [hs, Except.toOption]
    · simp [hs, Except.toOption]

structure Untouched (tenantID : String) (s₀ s : Store) : Prop where
  memberships : s.memberships = s₀.memberships
  roles : ∀ t, t ≠ tenantID → (s.roles.rows.filter fun r => r.tenantID == t) =
    s₀.roles.rows.filter fun r => r.tenantID == t

theorem keeps_updateUser (h : ∀ st ∈ s₀.memberships, st.row.tenantID = tenantID → ¬ st.Loads)
    (id : String) (op : Membership → Membership.Result) :
    Keeps (Untouched tenantID s₀) (updateUser tenantID id op) := by
  refine Keeps.mapError (keeps_write fun s s' hs hw => ?_) _
  split at hw
  · cases hw
  rename_i st hst
  obtain ⟨hme, hk⟩ := mem_of_find? hst
  rw [Bool.and_eq_true, beq_iff_eq, beq_iff_eq] at hk
  split at hw
  · cases hw
  · rename_i m hm
    rw [hs.memberships] at hme
    exact absurd (hydrate_ok_iff.mp ⟨m, hm⟩) (h st hme hk.2)

theorem roleNew_tenantID {id tid name : String} {sys su : Bool} {level : Int} {now : Time}
    {r : Role} (h : Role.new id tid name sys level su now = .ok r) : r.tenantID = tid := by
  unfold Role.new at h
  split at h
  · cases h
  split at h
  · cases h
  split at h
  · cases h
  split at h
  · cases h
  · cases h
    rfl

theorem addRole_untouched {s s' : Store} {r : Role} (hr : r.tenantID = tenantID)
    (hs : Untouched tenantID s₀ s) (h : (RoleRepository.add r).run s = (.ok (), s')) :
    Untouched tenantID s₀ s' := by
  obtain ⟨t, ht, rfl⟩ := orRefused_ok (write_eq_ok.mp h)
  refine ⟨hs.memberships, fun tid hti => ?_⟩
  have ho : (r.tenantID == tid) = false := by
    rw [hr]
    exact beq_eq_false_iff_ne.mpr hti.symm
  rw [(insert_eq_some ht).1, filter_append, hs.roles tid hti]
  simp [ho]

theorem persistRole_tenantID (r row : Role) :
    (RoleRepository.persist r row).tenantID = row.tenantID := by
  unfold RoleRepository.persist
  split <;> rfl

theorem keeps_updateRole (id : String) (op : Role → Role.Result) :
    Keeps (Untouched tenantID s₀) (updateRole tenantID id op) := by
  refine Keeps.mapError (keeps_write fun s s' hs hw => ?_) _
  split at hw
  · cases hw
  rename_i r hr
  obtain ⟨hm, hk⟩ := mem_of_find? hr
  simp only [Bool.and_eq_true, beq_iff_eq] at hk
  split at hw
  · cases hw
  · cases hw
    exact hs
  obtain ⟨t, ht, rfl⟩ := orRefused_ok hw
  refine ⟨hs.memberships, fun tid hti => ?_⟩
  rw [← hs.roles tid hti]
  -- The row that is rewritten is the one that was found, and it keeps its tenant.
  refine filter_update ht fun q hq hid => ?_
  obtain rfl := eq_of_clash hq hm (.inl ((beq_iff_eq.mp hid).trans hk.1.1.symm))
  have ho : (q.tenantID == tid) = false := by
    rw [hk.1.2]
    exact beq_eq_false_iff_ne.mpr hti.symm
  exact ⟨ho, by rw [persistRole_tenantID, ho]⟩

variable {I : Store → Prop}

theorem keeps_orFail {α : Type} (f : Failure) (o : Option α) : Keeps I (orFail f o) := by
  cases o with
  | none => exact keeps_fail f
  | some a => exact keeps_pure a

theorem keeps_tenancy {α : Type} {f : String → Handler α} (h : Keeps I (f c.tenantID)) :
    Keeps I (tenancyFromContext c >>= f) := by
  unfold tenancyFromContext
  split
  · exact fun s hs => hs
  · exact h

theorem keeps_createRole (req : CreateRoleRequest) :
    Keeps (Untouched tenantID s₀) (createRole d tenantID req) := by
  unfold createRole
  split
  · exact keeps_fail _
  rename_i r hn
  have ha : Keeps (Untouched tenantID s₀)
      ((RoleRepository.add r).mapError writeRoleMutationResult) := by
    refine Keeps.mapError (keeps_write fun s s' hs h => ?_) _
    exact addRole_untouched (roleNew_tenantID hn) hs (write_eq_ok.mpr h)
  split
  · exact ha
  refine Keeps.atomic fun s _ s' hs hr => ?_
  obtain ⟨_, s₁, hi, he⟩ := bind_eq_ok.mp hr
  have hs₁ := ha s hs
  rw [hi] at hs₁
  split at he
  · exact absurd he fail_ne_ok
  · obtain ⟨-, rfl⟩ := pure_eq_ok.mp he
    exact hs₁

theorem keeps_managementRoute (h : ∀ st ∈ s₀.memberships, st.row.tenantID = c.tenantID → ¬ st.Loads)
    (req : ManagementRequest) : Keeps (Untouched c.tenantID s₀) (managementRoute u c d req) := by
  have hr : ∀ {β : Type} roleId (body : Option β) op,
      Keeps (Untouched c.tenantID s₀) (handleRolePermissions u c roleId body op) := by
    intro β roleId body op
    refine .bind (keeps_orFail _ _) fun rid => .bind (keeps_orFail _ _) fun req => ?_
    exact keeps_tenancy (.bind (keeps_ofExcept _) fun f => keeps_updateRole rid f)
  unfold managementRoute
  split
  · exact keeps_fail _
  cases req with
  | assignUserRole userId roleID =>
    refine keeps_tenancy (.bind (keeps_orFail _ _) fun mid => ?_)
    refine .bind (keeps_orFail _ _) fun rid => .bind (keeps_orFail _ _) fun _ => ?_
    exact keeps_updateUser h mid _
  | revokeUserRole userId roleId =>
    refine keeps_tenancy (.bind (keeps_orFail _ _) fun mid => ?_)
    exact .bind (keeps_orFail _ _) fun _ => keeps_updateUser h mid _
  | replaceUserPermissionOverrides userId body =>
    refine keeps_tenancy (.bind (keeps_orFail _ _) fun mid => ?_)
    refine .bind (keeps_orFail _ _) fun names => ?_
    refine .bind (keeps_ofExcept _) fun granted => .bind (keeps_ofExcept _) fun revoked => ?_
    exact keeps_updateUser h mid _
  | createRole body =>
    refine keeps_tenancy (.bind (keeps_orFail _ _) fun req => ?_)
    split
    · exact keeps_fail _
    exact keeps_createRole req
  | replaceRolePermissions roleId names => exact hr roleId names _
  | grantRolePermission roleId name => exact hr roleId name _
  | revokeRolePermission roleId name => exact hr roleId name _

theorem Untouched.hasPermission {s : Store} (hs : Untouched tenantID s₀ s)
    (h : ∀ st ∈ s₀.memberships, st.row.tenantID = tenantID → ¬ st.Loads)
    (t id : String) (now : Time) (name : String) :
    s.HasPermission t id now name ↔ s₀.HasPermission t id now name := by
  have hr : ((resolve t id now).run s).1 = ((resolve t id now).run s₀).1 := by
    unfold resolve getByID
    rw [bind_apply, bind_apply, query_apply, query_apply, hs.memberships]
    rcases hf : s₀.memberships.find? fun st => st.row.id == id && st.row.tenantID == t with
      _ | st
    · rfl
    dsimp only
    rcases hl : hydrate st with e | m
    · rfl
    obtain ⟨hst, hk⟩ := mem_of_find? hf
    have ht : m.tenantID ≠ tenantID := by
      rw [hydrate_tenantID hl]
      exact fun heq => h st hst heq (hydrate_ok_iff.mp ⟨m, hl⟩)
    have hro : ∀ ids : List String,
        (s.roles.rows.filter fun r => r.id ∈ ids && r.tenantID == m.tenantID && !r.deleted) =
          s₀.roles.rows.filter fun r => r.id ∈ ids && r.tenantID == m.tenantID && !r.deleted := by
      intro ids
      have hsp : ∀ rows : List Role,
          (rows.filter fun r => r.id ∈ ids && r.tenantID == m.tenantID && !r.deleted) =
            (rows.filter fun r => r.tenantID == m.tenantID).filter fun r =>
              r.id ∈ ids && !r.deleted := by
        intro rows
        rw [filter_filter]
        refine filter_congr fun r _ => ?_
        cases decide (r.id ∈ ids) <;> cases r.tenantID == m.tenantID <;> cases r.deleted <;> rfl
      rw [hsp, hsp, hs.roles m.tenantID ht]
    exact congrArg (fun roles => Except.ok (m.effectivePermissions roles now))
      (hro m.roleAssignments)
  unfold Store.HasPermission
  rw [hr]

end Untouched

/-! ## What one request can do -/

structure Store.Consistent (u : UuidLib) (s : Store) : Prop where
  rolesKnown : ∀ st ∈ s.memberships, s.RolesKnown st.row.tenantID st.roleIDs
  rolesLoaded : ∀ r ∈ s.roles, r.Loaded
  uuids : ∀ st ∈ s.memberships, u.parse st.row.id = some st.row.id

def tenantAdmin : String := "tenant.admin"

def overrideBody : OverrideKind → List String × List String
  | .granted => ([tenantAdmin], [])
  | .revoked => ([], [tenantAdmin])

section Override

variable {u : UuidLib} {c : Claims} {s : Store} {st : StoredMembership}

def overridden (st : StoredMembership) (k : OverrideKind) :
    StoredMembership where
  row := { st.row with
           leftAt := pgTimestamp (timeFromPg st.row.leftAt)
           reportsTo := zeroToNil (stringFromPg st.row.reportsTo) }
  roleIDs := st.roleIDs.insertionSort (· ≤ ·)
  overrides := [⟨tenantAdmin, k, none⟩]
  roleIDs_pk := (List.perm_insertionSort _ _).nodup_iff.mpr st.roleIDs_pk
  overrides_pk := List.nodup_singleton _

theorem tenantAdmin_known :
    ∃ p, Permission.tryFromConstant tenantAdmin = .ok p ∧ p.name = tenantAdmin := ⟨_, rfl, rfl⟩

variable {p : Permission}

theorem resolvePermissions_overrideBody (hp : Permission.tryFromConstant tenantAdmin = .ok p)
    (k : OverrideKind) :
    resolvePermissions (overrideBody k).1 = .ok (if k = .granted then [p] else []) ∧
    resolvePermissions (overrideBody k).2 = .ok (if k = .granted then [] else [p]) := by
  cases k <;> simp [overrideBody, resolvePermissions, hp]

variable {m : Membership}

theorem hydrate_row (h : hydrate st = .ok m) :
    ∃ granted revoked, rowToMembership st.row st.roleIDs granted revoked = .ok m := by
  unfold hydrate at h
  simp only [loadMembership] at h
  rcases hl : loadPermissionOverrides st.overrides with e | ⟨granted, revoked⟩
  · rw [hl] at h
    cases h
  · rw [hl] at h
    refine ⟨granted, revoked, ?_⟩
    dsimp only at h
    rcases hrow : rowToMembership st.row st.roleIDs granted revoked with e | m'
    · rw [hrow] at h
      exact absurd h (by simp [Except.toOption])
    · rw [hrow] at h
      exact h

theorem persist_overridden (hl : hydrate st = .ok m)
    (hp : p.name = tenantAdmin) (k : OverrideKind) (now : Time) :
    (m.replacePermissionOverlays (if k = .granted then [p] else [])
    (if k = .granted then [] else [p]) now).1.persist st = some (overridden st k) := by
  have hn : (st.roleIDs.insertionSort (· ≤ ·)).Nodup :=
    (perm_insertionSort _ _).nodup_iff.mpr st.roleIDs_pk
  obtain ⟨granted, revoked, hrow⟩ := hydrate_row hl
  unfold rowToMembership at hrow
  split at hrow
  · cases hrow
  cases hrow
  cases k <;> simp [Membership.persist, Membership.replacePermissionOverlays,
    Membership.recordEvent, Membership.roleRows, Membership.overrideRows, Membership.persistRow,
    overridden, hn, hp, pgTimestamp, Time.isZero]

theorem hydrate_overridden (hs : st.row.status ≠ .unknown)
    (hp : Permission.tryFromConstant tenantAdmin = .ok p) (k : OverrideKind) :
    ∃ m, hydrate (overridden st k) = .ok m ∧
    m.grantedPermissions = (if k = .granted then [⟨p, 0⟩] else []) ∧
    m.revokedPermissions = (if k = .granted then [] else [p]) := by
  cases k <;> simp [hydrate, loadMembership, overridden,
    loadPermissionOverrides, hp, rowToMembership, hs, Except.toOption,
    timeFromPg]

variable {k : OverrideKind}

theorem mem_effective_overridden {ro : List Role} (hp : p.Interned) (hro : ∀ r ∈ ro, r.Loaded)
    (hg : m.grantedPermissions = if k = .granted then [⟨p, 0⟩] else [])
    (hr : m.revokedPermissions = if k = .granted then [] else [p]) (now : Time) :
    p.name ∈ (m.effectivePermissions ro now).map Permission.name ↔ k = .granted := by
  have hgi : ∀ g ∈ m.grantedPermissions, g.permission.Interned := by
    intro g hgm
    rw [hg] at hgm
    split at hgm
    · rwa [mem_singleton.mp hgm]
    · cases hgm
  have hri : ∀ q ∈ m.revokedPermissions, q.Interned := by
    intro q hqm
    rw [hr] at hqm
    split at hqm
    · cases hqm
    · rwa [mem_singleton.mp hqm]
  have hm (q : Permission) : q ∈ m.effectivePermissions ro now ↔ _ :=
    Membership.mem_effectivePermissions hgi hri hro
  constructor
  · intro h
    obtain ⟨q, hq, hqn⟩ := mem_map.mp h
    obtain ⟨hs, hn⟩ := (hm q).mp hq
    by_contra hk
    have hqi : q.Interned := by
      rcases hs with ⟨r, hrm, hqr⟩ | ⟨g, hgm, -, rfl⟩
      · exact hro r hrm q hqr
      · exact hgi g hgm
    rw [hr, if_neg hk, hqi.eq hp hqn] at hn
    exact hn (mem_singleton_self p)
  · intro hk
    refine mem_map.mpr ⟨p, (hm p).mpr ⟨.inr ⟨⟨p, 0⟩, ?_, rfl, rfl⟩, ?_⟩, rfl⟩
    · rw [hg, if_pos hk]
      exact mem_singleton_self _
    · rw [hr, if_pos hk]
      exact not_mem_nil

theorem tenantID_ne_empty (h : requireFreshStamp (.ok true) c = none) : c.tenantID ≠ "" := by
  intro he
  unfold requireFreshStamp at h
  rw [he, if_pos (by rfl)] at h
  cases h

theorem replaceOverrides_run {isFresh : Except Err Bool} {now : Time} {id : String}
    {n : List String × List String} {g r : List Permission}
    (ha : requireFreshStamp isFresh c = none) (hti : c.tenantID ≠ "")
    (hid : u.parse id = some id) (hg : resolvePermissions n.1 = .ok g)
    (hr : resolvePermissions n.2 = .ok r) :
    (managementRoute u c { isFresh, now } (.replaceUserPermissionOverrides id (some n))).run s =
    (updateUser c.tenantID id fun m =>
        m.replacePermissionOverlays g r now).run s := by
  have ht : (tenancyFromContext c).run s = (.ok c.tenantID, s) := by
    unfold tenancyFromContext
    rw [if_neg hti]
    rfl
  have hp : (parseUserIDPath u id).run s = (.ok id, s) := by
    unfold parseUserIDPath
    rw [hid]
    rfl
  unfold managementRoute
  rw [ha]
  unfold handleReplaceUserPermissionOverrides
  refine (bind_ok ht).trans ((bind_ok hp).trans ?_)
  refine (bind_ok (pure_apply n s)).trans ?_
  refine (bind_ok (ofExcept_eq_ok.mpr ⟨hg, rfl⟩)).trans ?_
  exact bind_ok (ofExcept_eq_ok.mpr ⟨hr, rfl⟩)

theorem override_run (hs : s.Consistent u) (ha : requireFreshStamp (.ok true) c = none)
    (hst : st ∈ s.memberships) (hte : st.row.tenantID = c.tenantID) (hlo : st.Loads)
    (k : OverrideKind) (now : Time) : ∃ t, overridden st k ∈ t ∧
    (managementRoute u c { isFresh := .ok true, now } (.replaceUserPermissionOverrides st.row.id
        (some (overrideBody k)))).run s = (.ok (), { s with memberships := t }) := by
  obtain ⟨p, hp, hname⟩ := tenantAdmin_known
  obtain ⟨m, hl⟩ := hydrate_ok_iff.mpr hlo
  obtain ⟨t, ht⟩ : ∃ t, s.memberships.update (fun q => q.row.id == st.row.id)
      (fun _ => overridden st k) = some t := update_of_same_keys hst rfl rfl rfl rfl
  obtain ⟨hgs, hrs⟩ := resolvePermissions_overrideBody hp k
  have hr : s.RolesKnown (overridden st k).row.tenantID (overridden st k).roleIDs :=
    fun id hid => hs.rolesKnown st hst id ((perm_insertionSort _ _).mem_iff.mp hid)
  have hfn : Membership.opFn (fun m => m.replacePermissionOverlays
      (if k = .granted then [p] else []) (if k = .granted then [] else [p]) now) m =
        ((m.replacePermissionOverlays (if k = .granted then [p] else [])
          (if k = .granted then [] else [p]) now).1, .ok true) := rfl
  have hu := updateByID_of (find_membership hst) hl hfn (persist_overridden hl hname k now) hr ht
  refine ⟨t, (mem_update ht).mpr ⟨st, hst, by rw [if_pos (beq_self_eq_true _)]⟩, ?_⟩
  rw [replaceOverrides_run ha (tenantID_ne_empty ha) (hs.uuids st hst) hgs hrs, ← hte]
  exact mapError_eq_ok.mpr hu

theorem resolve_overridden {t : Table StoredMembership StoredMembership.Clash}
    (hm : overridden st k ∈ t) (hl : hydrate (overridden st k) = .ok m)
    (now : Time) : ((resolve st.row.tenantID st.row.id now).run { s with memberships := t }).1 =
      .ok (m.effectivePermissions (s.roles.rows.filter fun r =>
        r.id ∈ m.roleAssignments && r.tenantID == m.tenantID && !r.deleted) now) := by
  have hg : (getByID st.row.tenantID st.row.id).run
      { s with memberships := t } = (.ok m, { s with memberships := t }) := by
    refine query_eq_ok.mpr ⟨?_, rfl⟩
    rw [show (t.find? fun q => q.row.id == st.row.id && q.row.tenantID == st.row.tenantID) =
      some (overridden st k) from find_membership hm]
    exact hl
  unfold resolve
  rw [bind_ok hg]
  rfl

theorem override_decides (hs : s.Consistent u) (ha : requireFreshStamp (.ok true) c = none)
    (hst : st ∈ s.memberships) (ht : st.row.tenantID = c.tenantID) (hl : st.Loads)
    (k : OverrideKind) (now : Time) :
    ((managementRoute u c { isFresh := .ok true, now } (.replaceUserPermissionOverrides st.row.id
      (some (overrideBody k)))).run s).2.HasPermission c.tenantID st.row.id now tenantAdmin ↔
        k = .granted := by
  obtain ⟨t, hm, hru⟩ := override_run hs ha hst ht hl k now
  obtain ⟨p, hp, hname⟩ := tenantAdmin_known
  obtain ⟨m, hlo, hg, hr⟩ := hydrate_overridden hl.1 hp k
  have hd : ∀ keep : Role → Bool, tenantAdmin ∈
      (m.effectivePermissions (s.roles.rows.filter keep) now).map name ↔ k = .granted := by
    intro keep
    rw [← hname]
    exact mem_effective_overridden (interned_of_tryFromConstant hp)
      (fun r hr => hs.rolesLoaded r (mem_filter.mp hr).1) hg hr now
  rw [hru, ← ht]
  unfold Store.HasPermission
  rw [resolve_overridden hm hlo now]
  constructor
  · rintro ⟨ps, hps, hname⟩
    rw [← Except.ok.inj hps] at hname
    exact (hd _).mp hname
  · intro hk
    exact ⟨_, rfl, (hd _).mpr hk⟩

end Override

theorem authority_unchanged_iff (u : UuidLib) (s : Store) (hs : s.Consistent u)
    (caller : OrdinaryCaller) :
    (∀ qs s', Machine.run (serveManagement u caller) s qs = some s' → ∀ tenantID id now name,
    s'.HasPermission tenantID id now name ↔ s.HasPermission tenantID id now name) ↔
    ∀ st ∈ s.memberships, st.row.tenantID = caller.claims.tenantID → ¬ st.Loads := by
  constructor
  · intro h st hst hte hl
    have hc : ∀ k : OverrideKind,
        s.HasPermission caller.claims.tenantID st.row.id 0 tenantAdmin ↔ k = .granted := by
      intro k
      have hsa := h [(.replaceUserPermissionOverrides st.row.id (some (overrideBody k)),
        { isFresh := .ok true, now := 0 })] _ rfl caller.claims.tenantID st.row.id 0 tenantAdmin
      exact hsa.symm.trans (override_decides hs caller.authenticated hst hte hl k 0)
    exact absurd ((hc .revoked).mp ((hc .granted).mpr rfl)) (by simp)
  · intro h qs s' hr tenantID id now name
    have hk : Untouched caller.claims.tenantID s s' :=
      Machine.run_keeps ⟨rfl, fun _ _ => rfl⟩ (fun t q t' ht hsp => by
          cases hsp
          exact keeps_managementRoute h q.1 t ht) hr
    exact hk.hasPermission h tenantID id now name

def sampleUuid : UuidLib where
  parse raw :=
    let hex (ch : Char) : Bool := ch.isDigit || ('a' ≤ ch.toLower && ch.toLower ≤ 'f')
    let cs := raw.toList
    let wellFormed := cs.zipIdx.all fun (ch, i) =>
      if i ∈ [8, 13, 18, 23] then ch == '-' else hex ch
    if cs.length = 36 ∧ wellFormed then some raw.toLower else none

def memberID : String := "0190a5c2-7b1e-7000-8000-000000000001"

def memberRows (tenantID : String) : StoredMembership where
  row := { id := memberID, personID := "p1", tenantID, status := .active, joinedAt := 1 }
  roleIDs := []
  overrides := []
  roleIDs_pk := List.nodup_nil
  overrides_pk := List.nodup_nil

def memberStore (tenantID : String) : Store where
  memberships := { rows := [memberRows tenantID] }
  roles := .empty

theorem memberStore_consistent (tenantID : String) :
    (memberStore tenantID).Consistent sampleUuid where
  rolesKnown st hst := by
    obtain rfl := mem_singleton.mp hst
    intro id hid
    cases hid
  rolesLoaded r hr := absurd hr not_mem_nil
  uuids st hst := by
    obtain rfl := mem_singleton.mp hst
    show sampleUuid.parse memberID = some memberID
    decide +kernel

def sampleCaller : OrdinaryCaller where
  claims :=
    { personID := "p1", tenantID := "t1", tenantSlug := "acme", membershipID := memberID
      securityStamp := "stamp-1", isPlatform := false, isSuperUser := false, permissions := []
      issuedAt := 1, expiresAt := 10 }
  authenticated := by decide
  notSuperUser := rfl
  notPlatform := rfl
  lacks _ _ := List.not_mem_nil

theorem authority_unchanged_elsewhere : (memberStore "t2").Consistent sampleUuid ∧
    ∀ qs s', Machine.run (serveManagement sampleUuid sampleCaller) (memberStore "t2") qs = some s' →
    ∀ tenantID id now name, s'.HasPermission tenantID id now name ↔
    (memberStore "t2").HasPermission tenantID id now name := by
  have hs := memberStore_consistent "t2"
  refine ⟨hs, (authority_unchanged_iff sampleUuid (memberStore "t2") hs sampleCaller).mpr ?_⟩
  intro st hst ht
  obtain rfl := mem_singleton.mp hst
  exact absurd ht (by decide)

theorem member_grants_itself_admin :
    ∃ s', Machine.run (serveManagement sampleUuid sampleCaller) (memberStore "t1")
    [(.replaceUserPermissionOverrides memberID (some (["tenant.admin"], [])),
    { isFresh := .ok true, now := 5 })] = some s' ∧
      ¬ (memberStore "t1").HasPermission "t1" memberID 5 "tenant.admin" ∧
      s'.HasPermission "t1" memberID 5 "tenant.admin" := by
  refine ⟨_, rfl, ?_, ?_⟩
  · rintro ⟨ps, hps, hname⟩
    obtain rfl : [] = ps := Except.ok.inj hps
    cases hname
  · have hst : memberRows "t1" ∈ (memberStore "t1").memberships := mem_singleton_self _
    have hl : (memberRows "t1").Loads := ⟨by decide, fun r hr => absurd hr not_mem_nil⟩
    exact (override_decides (memberStore_consistent "t1") sampleCaller.authenticated hst rfl hl
      .granted 5).mpr rfl

end Leadkart
