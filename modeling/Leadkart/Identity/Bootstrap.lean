import Leadkart.Identity.Routes

/-!
# Seeding the SuperAdmin
-/

namespace Leadkart

open List Table Effect
open Leadkart.Membership (StoredMembership)

/-! ## The five statements -/

structure BootstrapEnv where
  (superAdminEmail superAdminPassword : String)
  (superAdminFirstName superAdminLastName : String := "")

namespace BootstrapEnv

def email (env : BootstrapEnv) : String := trimSpace env.superAdminEmail

def firstName (env : BootstrapEnv) : String :=
  if trimSpace env.superAdminFirstName = "" then "Platform" else trimSpace env.superAdminFirstName

def lastName (env : BootstrapEnv) : String :=
  if trimSpace env.superAdminLastName = "" then "SuperAdmin" else trimSpace env.superAdminLastName

end BootstrapEnv

def superAdminRoleName : String := "SuperAdmin"
def superAdminHierarchyLevel : Int := 0

structure SeedDraws where
  now : Time
  tenantID : String
  hash : Except Err String
  (personID stamp roleID membershipID : String)

structure Seeded where
  (tenantID personID membershipID roleID : String)

def upsert {ρ : Type} {Clash : ρ → ρ → Prop} [DecidableRel Clash] (table : Store → Table ρ Clash)
    (put : Store → Table ρ Clash → Store) (context : String) (key : ρ → Bool) (row : ρ) : Repo ρ :=
  ⟨fun s =>
    match (table s).getOrInsert key row with
    | some (r, t) => (.ok r, put s t)
    | none => (.error (.foreign context), s)⟩

def isPlatformTenant (t : Tenant) : Bool := t.slug == Tenant.platformSlug

def newPlatformTenant (d : SeedDraws) : Tenant :=
  { id := d.tenantID, slug := Tenant.platformSlug, legalName := "LeadKart Platform"
    displayName := "Platform", status := .active, createdAt := d.now, activatedAt := d.now }

def upsertPlatformTenant (d : SeedDraws) : Repo Tenant :=
  upsert Store.tenants (fun s t => { s with tenants := t }) "upsert platform tenant"
    isPlatformTenant (newPlatformTenant d)

def newSuperAdmin (env : BootstrapEnv) (hash : String) (d : SeedDraws) : Person :=
  { id := d.personID, email := env.email, firstName := env.firstName, lastName := env.lastName
    passwordHash := hash, securityStamp := d.stamp, isActive := true, createdAt := d.now }

def BootstrapEnv.fits (env : BootstrapEnv) : Bool :=
  env.email.toList.length ≤ 254 && env.firstName.toList.length ≤ 100 &&
    env.lastName.toList.length ≤ 100

def upsertPerson (env : BootstrapEnv) (hash : String) (d : SeedDraws) : Repo Person :=
  if env.fits then
    upsert Store.persons (fun s t => { s with persons := t }) "upsert person"
      (fun p => p.email == env.email) (newSuperAdmin env hash d)
  else .fail (.foreign "upsert person")

def isSuperAdminRole (tenantID : String) (r : Role) : Bool :=
  r.tenantID == tenantID && r.name == superAdminRoleName && !r.deleted

def newSuperAdminRole (tenantID : String) (d : SeedDraws) : Role :=
  { id := d.roleID, tenantID, name := superAdminRoleName, isSystemDefault := true
    isSuperAdmin := true, hierarchyLevel := superAdminHierarchyLevel, createdAt := d.now }

def upsertRole (tenantID : String) (d : SeedDraws) : Repo Role :=
  upsert Store.roles (fun s t => { s with roles := t }) "upsert role" (isSuperAdminRole tenantID)
    (newSuperAdminRole tenantID d)

def isMembershipOf (personID tenantID : String) (st : StoredMembership) : Bool :=
  st.row.personID == personID && st.row.tenantID == tenantID

def newPlatformMembership (personID tenantID : String) (d : SeedDraws) :
    StoredMembership where
  row := { id := d.membershipID, personID, tenantID, status := .active, joinedAt := d.now }
  roleIDs := []
  overrides := []
  roleIDs_pk := List.nodup_nil
  overrides_pk := List.nodup_nil

def upsertMembership (personID tenantID : String) (d : SeedDraws) :
    Repo StoredMembership :=
  upsert Store.memberships (fun s t => { s with memberships := t }) "upsert membership"
    (isMembershipOf personID tenantID) (newPlatformMembership personID tenantID d)

def Membership.StoredMembership.withRole (roleID : String) (st : StoredMembership) :
    StoredMembership :=
  if h : roleID ∈ st.roleIDs then st
  else
    { st with
      roleIDs := st.roleIDs ++ [roleID]
      roleIDs_pk := List.nodup_append'.mpr
        ⟨st.roleIDs_pk, List.nodup_singleton _, by simpa using h⟩ }

def upsertRoleAssignment (membershipID roleID : String) : Repo Unit :=
  .write fun s =>
    orRefused (.foreign "upsert role assignment") (fun t => { s with memberships := t })
      (s.memberships.update (fun q => q.row.id == membershipID) (·.withRole roleID))

def seedSuperAdmin (env : BootstrapEnv) (d : SeedDraws) : Repo Seeded := do
  let t ← upsertPlatformTenant d
  let hash ← .ofExcept d.hash
  let p ← upsertPerson env hash d
  let r ← upsertRole t.id d
  let st ← upsertMembership p.id t.id d
  upsertRoleAssignment st.row.id r.id
  pure { tenantID := t.id, personID := p.id, membershipID := st.row.id, roleID := r.id }

def bootstrap (env : BootstrapEnv) (d : SeedDraws) : Repo (Option Seeded) :=
  if env.email = "" ∨ env.superAdminPassword = "" then pure none
  else .atomic do
    let ids ← seedSuperAdmin env d
    pure (some ids)

section Seeding

variable {s s' : Store} {env : BootstrapEnv} {d : SeedDraws}

theorem upsert_ok {ρ : Type} {Clash : ρ → ρ → Prop} [DecidableRel Clash]
    {ta : Store → Table ρ Clash} {put : Store → Table ρ Clash → Store} {co : String}
    {key : ρ → Bool} {row r : ρ} (h : (upsert ta put co key row).run s = (.ok r, s')) :
    ∃ t, (ta s).getOrInsert key row = some (r, t) ∧ s' = put s t := by
  unfold upsert at h
  dsimp only at h
  split at h
  · rename_i q t hq
    obtain ⟨hr, rfl⟩ := Prod.mk.inj h
    cases hr
    exact ⟨t, hq, rfl⟩
  · exact absurd (Prod.mk.inj h).1 (by simp)

structure Seeds (env : BootstrapEnv) (d : SeedDraws) (s s' : Store) (hash : String) (t : Tenant)
    (p : Person) (r : Role) (st : StoredMembership)
    (ms : Table StoredMembership StoredMembership.Clash) : Prop where
  drawn : d.hash = .ok hash
  tenant : s.tenants.getOrInsert isPlatformTenant (newPlatformTenant d) = some (t, s'.tenants)
  person : s.persons.getOrInsert (fun q => q.email == env.email) (newSuperAdmin env hash d) =
    some (p, s'.persons)
  role : s.roles.getOrInsert (isSuperAdminRole t.id) (newSuperAdminRole t.id d) = some (r, s'.roles)
  membership : s.memberships.getOrInsert (isMembershipOf p.id t.id)
    (newPlatformMembership p.id t.id d) = some (st, ms)
  assigned : ms.update (fun q => q.row.id == st.row.id) (·.withRole r.id) = some s'.memberships
  families : s'.families = s.families

variable {ids : Seeded}

theorem seedSuperAdmin_ok (h : (seedSuperAdmin env d).run s = (.ok ids, s')) :
    ∃ hash t p r st ms, Seeds env d s s' hash t p r st ms ∧
    ids = { tenantID := t.id, personID := p.id, membershipID := st.row.id, roleID := r.id } := by
  obtain ⟨t, s₁, ht, h₁⟩ := bind_eq_ok.mp h
  obtain ⟨ts, hts, rfl⟩ := upsert_ok ht
  obtain ⟨hash, s₂, hh, h₂⟩ := bind_eq_ok.mp h₁
  obtain ⟨hha, rfl⟩ := ofExcept_eq_ok.mp hh
  obtain ⟨p, s₃, hp, h₃⟩ := bind_eq_ok.mp h₂
  unfold upsertPerson at hp
  split at hp
  swap
  · exact absurd hp fail_ne_ok
  obtain ⟨ps, hps, rfl⟩ := upsert_ok hp
  obtain ⟨r, s₄, hr, h₄⟩ := bind_eq_ok.mp h₃
  obtain ⟨rs, hrs, rfl⟩ := upsert_ok hr
  obtain ⟨st, s₅, hst, h₅⟩ := bind_eq_ok.mp h₄
  obtain ⟨ms, hms, rfl⟩ := upsert_ok hst
  obtain ⟨_, s₆, ha, h₆⟩ := bind_eq_ok.mp h₅
  obtain ⟨ms', hms', rfl⟩ := orRefused_ok (write_eq_ok.mp ha)
  obtain ⟨rfl, rfl⟩ := pure_eq_ok.mp h₆
  exact ⟨hash, t, p, r, st, ms, ⟨hha, hts, hps, hrs, hms, hms', rfl⟩, rfl⟩

theorem bootstrap_ok (h : (bootstrap env d).run s = (.ok (some ids), s')) :
    (seedSuperAdmin env d).run s = (.ok ids, s') := by
  unfold bootstrap at h
  split at h
  · exact absurd (pure_eq_ok.mp h).1 (by simp)
  · obtain ⟨ids', s₁, hs, hr⟩ := bind_eq_ok.mp (atomic_eq_ok.mp h)
    obtain ⟨hi, rfl⟩ := pure_eq_ok.mp hr
    cases hi
    exact hs

end Seeding

/-! ## Running it again -/

section Again

variable {s s' s'' : Store} {env : BootstrapEnv} {d d₂ : SeedDraws} {hash hash₂ : String}
  {t t₂ : Tenant} {p p₂ : Person} {r r₂ : Role} {st st₂ : StoredMembership}
  {ms ms₂ : Table StoredMembership StoredMembership.Clash}

@[simp] theorem withRole_row (ro : String) (st : StoredMembership) :
    (st.withRole ro).row = st.row := by
  unfold StoredMembership.withRole
  split <;> rfl

@[simp] theorem withRole_overrides (ro : String) (st : StoredMembership) :
    (st.withRole ro).overrides = st.overrides := by
  unfold StoredMembership.withRole
  split <;> rfl

theorem mem_withRole (ro : String) (st : StoredMembership) :
    ro ∈ (st.withRole ro).roleIDs := by
  unfold StoredMembership.withRole
  split
  · assumption
  · exact mem_append_right _ (mem_singleton_self ro)

theorem isPlatformTenant_clash (a b : Tenant) (ha : isPlatformTenant a = true)
    (hb : isPlatformTenant b = true) : Tenant.Clash a b :=
  .inr ((beq_iff_eq.mp ha).trans (beq_iff_eq.mp hb).symm)

theorem email_clash (email : String) (a b : Person) (ha : (a.email == email) = true)
    (hb : (b.email == email) = true) : Person.Clash a b :=
  .inr ((beq_iff_eq.mp ha).trans (beq_iff_eq.mp hb).symm)

variable {tenantID : String}

theorem isSuperAdminRole_iff {r : Role} : isSuperAdminRole tenantID r = true ↔
    r.tenantID = tenantID ∧ r.name = superAdminRoleName ∧ r.deleted = false := by
  simp [isSuperAdminRole, and_assoc]

theorem isSuperAdminRole_clash (tenantID : String) (a b : Role)
    (ha : isSuperAdminRole tenantID a = true) (hb : isSuperAdminRole tenantID b = true) :
    Role.Clash a b := by
  obtain ⟨hta, hna, hda⟩ := isSuperAdminRole_iff.mp ha
  obtain ⟨htb, hnb, hdb⟩ := isSuperAdminRole_iff.mp hb
  exact .inr ⟨hta.trans htb.symm, hna.trans hnb.symm, hda, hdb⟩

theorem isMembershipOf_iff {pe : String} {st : StoredMembership} :
    isMembershipOf pe tenantID st = true ↔ st.row.personID = pe ∧ st.row.tenantID = tenantID := by
  simp [isMembershipOf]

theorem isMembershipOf_clash (pe tenantID : String) (a b : StoredMembership)
    (ha : isMembershipOf pe tenantID a = true)
    (hb : isMembershipOf pe tenantID b = true) : StoredMembership.Clash a b := by
  obtain ⟨hpa, hta⟩ := isMembershipOf_iff.mp ha
  obtain ⟨hpb, htb⟩ := isMembershipOf_iff.mp hb
  exact .inr (.inl ⟨hpa.trans hpb.symm, hta.trans htb.symm⟩)

namespace Seeds

theorem mem_tenant (h : Seeds env d s s' hash t p r st ms) :
    t ∈ s'.tenants ∧ isPlatformTenant t = true := Table.mem_getOrInsert h.tenant rfl

theorem mem_person (h : Seeds env d s s' hash t p r st ms) :
    p ∈ s'.persons ∧ (p.email == env.email) = true := mem_getOrInsert h.person (beq_self_eq_true _)

theorem mem_role (h : Seeds env d s s' hash t p r st ms) :
    r ∈ s'.roles ∧ isSuperAdminRole t.id r = true :=
  mem_getOrInsert h.role (isSuperAdminRole_iff.mpr ⟨rfl, rfl, rfl⟩)

theorem isMembershipOf (h : Seeds env d s s' hash t p r st ms) :
    st ∈ ms ∧ isMembershipOf p.id t.id st = true :=
  mem_getOrInsert h.membership (isMembershipOf_iff.mpr ⟨rfl, rfl⟩)

theorem mem_membership (h : Seeds env d s s' hash t p r st ms) :
    st.withRole r.id ∈ s'.memberships := by
  refine (mem_update h.assigned).mpr ⟨st, h.isMembershipOf.1, ?_⟩
  rw [if_pos (beq_self_eq_true _)]

theorem again (h : Seeds env d s s' hash t p r st ms)
    (h₂ : Seeds env d₂ s' s'' hash₂ t₂ p₂ r₂ st₂ ms₂) : s'' = s' := by
  have hte := h₂.tenant
  rw [getOrInsert_of_mem isPlatformTenant_clash h.mem_tenant.1 h.mem_tenant.2] at hte
  obtain ⟨rfl, ht⟩ := Prod.mk.inj (Option.some.inj hte)
  have hpe := h₂.person
  rw [getOrInsert_of_mem (email_clash env.email) h.mem_person.1 h.mem_person.2] at hpe
  obtain ⟨rfl, hp⟩ := Prod.mk.inj (Option.some.inj hpe)
  have hro := h₂.role
  rw [getOrInsert_of_mem (isSuperAdminRole_clash t.id) h.mem_role.1 h.mem_role.2] at hro
  obtain ⟨rfl, hr⟩ := Prod.mk.inj (Option.some.inj hro)
  have hme := h₂.membership
  rw [getOrInsert_of_mem (isMembershipOf_clash p.id t.id) h.mem_membership
    (by rw [isMembershipOf_iff, withRole_row]; exact isMembershipOf_iff.mp h.isMembershipOf.2)]
    at hme
  cases hme
  have ha := h₂.assigned
  rw [update_self] at ha
  · have hm := Option.some.inj ha
    have hf := h₂.families
    rcases s' with ⟨_, _, _, _, _⟩
    rcases s'' with ⟨_, _, _, _, _⟩
    simp only at ht hp hr hm hf
    rw [ht, hp, hr, hm, hf]
  · -- The row under the id is the one that was assigned the role.
    intro q hq hid
    have hs : q = st.withRole r.id := eq_of_clash hq h.mem_membership (.inl (beq_iff_eq.mp hid))
    rw [hs]
    exact dif_pos (mem_withRole r.id st)

end Seeds

theorem bootstrap_again {ids : Seeded} (h : (bootstrap env d).run s = (.ok (some ids), s'))
    (d₂ : SeedDraws) : ((bootstrap env d₂).run s').2 = s' := by
  obtain ⟨hash, t, p, r, st, ms, hs, -⟩ := seedSuperAdmin_ok (bootstrap_ok h)
  unfold bootstrap
  split
  · rfl
  · refine Keeps.atomic (I := fun u => u = s') (fun u o u' hu hr => ?_) s' rfl
    subst hu
    obtain ⟨ids', s₁, hse, hre⟩ := bind_eq_ok.mp hr
    obtain ⟨-, rfl⟩ := pure_eq_ok.mp hre
    obtain ⟨hash₂, t₂, p₂, r₂, st₂, ms₂, hs₂, -⟩ := seedSuperAdmin_ok hse
    exact hs.again hs₂

end Again

/-! ## Who is handed SuperAdmin -/

structure LoginAttempt where
  deviceLabel : String
  draws : Draws

section HandOver

variable (lib : MailLib) (c : Crypto) (ttl : Duration)

def handleLogin (email password : String) (x : LoginAttempt) (s : Store) : Option Claims :=
  match Email.new lib email with
  | .error _ => none
  | .ok addr => ((SignIn.login ⟨addr, password, x.deviceLabel⟩).handle c ttl x.draws s).1

def LoginAttempt.possible (x : LoginAttempt) (ids : Seeded) (s : Store) : Bool :=
  (s.persons.rows.all fun p => p.id != ids.personID || !p.isLocked (x.draws.now 0)) &&
    match mint c x.draws.plain with
    | .error _ => false
    | .ok pair =>
      match RefreshToken.Family.new x.draws.familyID ids.personID ids.tenantID x.deviceLabel
          pair.hash ttl (x.draws.now 3) x.draws.tokenID with
      | .error _ => false
      | .ok f => ((RefreshTokenFamilyRepository.insertRows f).bind s.families.insert).isSome

/-- The SuperAdmin of the run is the configured one: of the passwords `chosen` so far only the
configured one verifies its hash, it logs in, and a second run changes nothing. -/
structure HandedOver (env : BootstrapEnv) (chosen : List String) (ids : Seeded) (x : LoginAttempt)
    (s : Store) : Prop where
  tenant : ∃ t ∈ s.tenants, t.id = ids.tenantID ∧ t.slug = Tenant.platformSlug
  role : ∃ r ∈ s.roles, r.id = ids.roleID ∧ r.tenantID = ids.tenantID ∧ r.isSuperAdmin = true
  membership : ∃ st ∈ s.memberships, st.row.id = ids.membershipID ∧
    st.row.personID = ids.personID ∧ st.row.tenantID = ids.tenantID ∧ st.row.status = .active ∧
    ids.roleID ∈ st.roleIDs
  password : ∃ p ∈ s.persons, p.id = ids.personID ∧
    c.verify env.superAdminPassword p.passwordHash = none ∧
    ∀ q ∈ chosen, c.verify q p.passwordHash = none → q = env.superAdminPassword
  login : ∃ access,
    handleLogin lib c ttl env.superAdminEmail env.superAdminPassword x s = some access ∧
      access.personID = ids.personID ∧ access.isPlatform = true ∧ access.isSuperUser = true
  again : ∀ d, ((bootstrap env d).run s).2 = s

/-- What the rows that the run would adopt have to be already. -/
structure Adoptable (env : BootstrapEnv) (s : Store) : Prop where
  email : Email.new lib env.superAdminEmail = .ok env.email
  person : ∀ p ∈ s.persons, p.email = env.email → p.isActive = true ∧ p.isAnonymised = false ∧
    c.verify env.superAdminPassword p.passwordHash = none
  membership : ∀ p ∈ s.persons, p.email = env.email → ∀ t ∈ s.tenants,
    t.slug = Tenant.platformSlug → ∀ st ∈ s.memberships, st.row.personID = p.id →
      st.row.tenantID = t.id → st.row.status = .active ∧ st.Loads
  role : ∀ t ∈ s.tenants, t.slug = Tenant.platformSlug → ∀ r ∈ s.roles, r.tenantID = t.id →
    r.name = superAdminRoleName → r.deleted = false → r.isSuperAdmin = true

end HandOver

structure Store.References (s : Store) : Prop where
  memberPerson : ∀ st ∈ s.memberships, ∃ p ∈ s.persons, p.id = st.row.personID
  memberTenant : ∀ st ∈ s.memberships, ∃ t ∈ s.tenants, t.id = st.row.tenantID
  roleTenant : ∀ r ∈ s.roles, ∃ t ∈ s.tenants, t.id = r.tenantID

/-- At most one of the passwords verifies the hash. -/
def Crypto.TellsApart (c : Crypto) (passwords : List String) (hash : String) : Prop :=
  ∀ p ∈ passwords, ∀ q ∈ passwords, c.verify p hash = none → c.verify q hash = none → p = q

/-- The hash the run drew and those the persons have. -/
def InUse (d : SeedDraws) (s : Store) (hash : String) : Prop :=
  d.hash = .ok hash ∨ ∃ p ∈ s.persons, p.passwordHash = hash

section Taken

variable {s s' : Store} {env : BootstrapEnv} {d : SeedDraws} {hash : String}
  {t : Tenant} {p : Person} {r : Role} {st : StoredMembership}
  {ms : Table StoredMembership StoredMembership.Clash}

namespace Seeds

theorem tenant_of_ref (h : Seeds env d s s' hash t p r st ms)
    (hr : ∃ u ∈ s.tenants, u.id = t.id) : t ∈ s.tenants ∧ t.slug = Tenant.platformSlug := by
  rcases getOrInsert_eq_some h.tenant with ⟨ht, hk, -⟩ | ⟨rfl, -, hi⟩
  · exact ⟨ht, beq_iff_eq.mp hk⟩
  · obtain ⟨u, hu, hid⟩ := hr
    exact absurd (.inl hid) ((insert_eq_some hi).2 u hu)

theorem person_of_ref (h : Seeds env d s s' hash t p r st ms)
    (hr : ∃ q ∈ s.persons, q.id = p.id) : p ∈ s.persons ∧ p.email = env.email := by
  rcases getOrInsert_eq_some h.person with ⟨hp, hk, -⟩ | ⟨rfl, -, hi⟩
  · exact ⟨hp, beq_iff_eq.mp hk⟩
  · obtain ⟨q, hq, hid⟩ := hr
    exact absurd (.inl hid) ((insert_eq_some hi).2 q hq)

theorem role_cases (h : Seeds env d s s' hash t p r st ms) (hs : s.References) :
    r = newSuperAdminRole t.id d ∨ (r ∈ s.roles ∧ t ∈ s.tenants ∧ t.slug = Tenant.platformSlug ∧
    r.tenantID = t.id ∧ r.name = superAdminRoleName ∧ r.deleted = false) := by
  rcases getOrInsert_eq_some h.role with ⟨hr, hk, -⟩ | ⟨rfl, -, -⟩
  · obtain ⟨hte, hname, hd⟩ := isSuperAdminRole_iff.mp hk
    obtain ⟨u, hu, hid⟩ := hs.roleTenant r hr
    obtain ⟨ht, hsl⟩ := h.tenant_of_ref ⟨u, hu, hid.trans hte⟩
    exact .inr ⟨hr, ht, hsl, hte, hname, hd⟩
  · exact .inl rfl

theorem membership_cases (h : Seeds env d s s' hash t p r st ms) (hs : s.References) :
    st = newPlatformMembership p.id t.id d ∨ (st ∈ s.memberships ∧ p ∈ s.persons ∧
    p.email = env.email ∧ t ∈ s.tenants ∧ t.slug = Tenant.platformSlug) := by
  rcases getOrInsert_eq_some h.membership with ⟨hst, hk, -⟩ | ⟨rfl, -, -⟩
  · obtain ⟨hpe, hte⟩ := isMembershipOf_iff.mp hk
    obtain ⟨q, hq, hqi⟩ := hs.memberPerson st hst
    obtain ⟨u, hu, hui⟩ := hs.memberTenant st hst
    obtain ⟨hp, he⟩ := h.person_of_ref ⟨q, hq, hqi.trans hpe⟩
    obtain ⟨ht, hsl⟩ := h.tenant_of_ref ⟨u, hu, hui.trans hte⟩
    exact .inr ⟨hst, hp, he, ht, hsl⟩
  · exact .inl rfl

theorem person_cases (h : Seeds env d s s' hash t p r st ms) :
    p = newSuperAdmin env hash d ∨ (p ∈ s.persons ∧ p.email = env.email) := by
  rcases getOrInsert_eq_some h.person with ⟨hp, hk, -⟩ | ⟨rfl, -, -⟩
  · exact .inr ⟨hp, beq_iff_eq.mp hk⟩
  · exact .inl rfl

end Seeds

end Taken

variable {lib : MailLib} {c : Crypto} {ttl : Duration} {s s' : Store} {env : BootstrapEnv}
  {d : SeedDraws} {hash : String} {t : Tenant} {p : Person} {r : Role}
  {st : StoredMembership}
  {ms : Table StoredMembership StoredMembership.Clash} {x : LoginAttempt}

theorem Adoptable.membership_active (ha : Adoptable lib c env s)
    (h : Seeds env d s s' hash t p r st ms) (hs : s.References) :
    st.row.status = .active ∧ st.Loads := by
  rcases h.membership_cases hs with rfl | ⟨hst, hp, he, ht, hsl⟩
  · refine ⟨rfl, ?_, ?_⟩
    · show Membership.Status.active ≠ .unknown
      decide
    · intro row hrow
      cases hrow
  · obtain ⟨hpe, hte⟩ := isMembershipOf_iff.mp h.isMembershipOf.2
    exact ha.membership p hp he t ht hsl st hst hpe hte

theorem Adoptable.role_super (ha : Adoptable lib c env s)
    (h : Seeds env d s s' hash t p r st ms) (hs : s.References) : r.isSuperAdmin = true := by
  rcases h.role_cases hs with rfl | ⟨hr, ht, hsl, hte, hname, hd⟩
  · rfl
  · exact ha.role t ht hsl r hr hte hname hd

theorem Adoptable.person_live (ha : Adoptable lib c env s) (h : Seeds env d s s' hash t p r st ms)
    (hh : ∀ hash, d.hash = .ok hash → c.verify env.superAdminPassword hash = none) :
    p.isActive = true ∧ p.isAnonymised = false ∧
    c.verify env.superAdminPassword p.passwordHash = none := by
  rcases h.person_cases with rfl | ⟨hp, he⟩
  · exact ⟨rfl, rfl, hh hash h.drawn⟩
  · exact ha.person p hp he

theorem Adoptable.login (ha : Adoptable lib c env s) (h : Seeds env d s s' hash t p r st ms)
    (hs : s.References)
    (hh : ∀ hash, d.hash = .ok hash → c.verify env.superAdminPassword hash = none)
    (hx : x.possible c ttl ⟨t.id, p.id, st.row.id, r.id⟩ s' = true) :
    ∃ access, handleLogin lib c ttl env.superAdminEmail env.superAdminPassword x s' = some access ∧
    access.personID = p.id ∧ access.isPlatform = true ∧ access.isSuperUser = true := by
  obtain ⟨hp, he⟩ := h.mem_person
  obtain ⟨ht, hsl⟩ := h.mem_tenant
  obtain ⟨hr, hro⟩ := h.mem_role
  obtain ⟨hrt, -, hrd⟩ := isSuperAdminRole_iff.mp hro
  obtain ⟨hac, han, hv⟩ := ha.person_live h hh
  obtain ⟨hst, hl⟩ := ha.membership_active h hs
  obtain ⟨hpe, hte⟩ := isMembershipOf_iff.mp h.isMembershipOf.2
  have hl' : (st.withRole r.id).Loads := by
    unfold StoredMembership.Loads
    rw [withRole_row, withRole_overrides]
    exact hl
  obtain ⟨m, hm⟩ := hydrate_ok_iff.mpr hl'
  have hlo : Membership.loadMembership [st.withRole r.id, st.withRole r.id, st.withRole r.id] =
      some m := by
    unfold MembershipRepository.hydrate at hm
    split at hm
    · rename_i m' hm'
      rw [hm', Except.ok.inj hm]
    · cases hm
  obtain ⟨-, -, -, hmt, -, hmr, -⟩ := Membership.loadMembership_eq hlo
  rw [withRole_row, hte] at hmt
  obtain ⟨hlk, hfa⟩ := Bool.and_eq_true_iff.mp hx
  have hu : p.isLocked (x.draws.now 0) = false := by
    have hal := all_eq_true.mp hlk p hp
    simpa using hal
  split at hfa
  · cases hfa
  rename_i pair hmi
  split at hfa
  · cases hfa
  rename_i f hf
  obtain ⟨ts, hts⟩ := Option.isSome_iff_exists.mp hfa
  have hfi : (s'.memberships.find? fun q =>
      q.row.personID == p.id && q.row.status == .active) = some (st.withRole r.id) := by
    refine Table.find?_eq_of_mem (fun a b ha hb => ?_) h.mem_membership (by simp [hpe, hst])
    have ha : a.row.personID = p.id ∧ a.row.status = .active := by simpa using ha
    have hb : b.row.personID = p.id ∧ b.row.status = .active := by simpa using hb
    exact .inr (.inr ⟨ha.1.trans hb.1.symm, ha.2, hb.2⟩)
  have hft : (s'.tenants.find? fun u => u.id == m.tenantID) = some t := by
    refine Table.find?_eq_of_mem (fun a b ha hb => ?_) ht (by simp [hmt])
    exact .inl ((beq_iff_eq.mp ha).trans (beq_iff_eq.mp hb).symm)
  obtain ⟨res, s₁, hru, hpi, hpl, hsu⟩ := login_of
    ⟨env.email, env.superAdminPassword, x.deviceLabel⟩
    (Table.find?_eq_of_mem (email_clash env.email) hp he) hfi hm hu hac
    han hv hft hmi hf hts
  refine ⟨res.accessToken, ?_, hpi, hpl.trans hsl, ?_⟩
  · unfold handleLogin
    rw [ha.email]
    simp only [SignIn.handle, hru, Except.toOption, Option.map_some]
  · rw [hsu]
    refine any_eq_true.mpr ⟨r, mem_filter.mpr ⟨hr, ?_⟩, ha.role_super h hs⟩
    simp [hmr, mem_withRole, hmt, hrt, hrd]

theorem Seeds.hash_inUse (h : Seeds env d s s' hash t p r st ms) : InUse d s p.passwordHash := by
  rcases h.person_cases with rfl | ⟨hp, -⟩
  · exact .inl h.drawn
  · exact .inr ⟨p, hp, rfl⟩

theorem HandedOver.person {chosen : List String} {ids : Seeded}
    (h : Seeds env d s s' hash t p r st ms) (his : ids = ⟨t.id, p.id, st.row.id, r.id⟩)
    (ho : HandedOver lib c ttl env chosen ids x s') :
    Email.new lib env.superAdminEmail = .ok env.email ∧ p.isActive = true ∧
    p.isAnonymised = false ∧ c.verify env.superAdminPassword p.passwordHash = none ∧
    st.row.status = .active ∧ st.Loads := by
  subst his
  obtain ⟨hp, he⟩ := h.mem_person
  obtain ⟨access, hl, hpi, -⟩ := ho.login
  unfold handleLogin at hl
  split at hl
  · cases hl
  rename_i addr had
  obtain ⟨q, tn, m, ⟨hq, hqe⟩, hi⟩ := SignIn.handle_issued hl
  -- The token is the person's, so the login looked up the email the run stored.
  obtain rfl : q = p := Table.eq_of_clash hq hp (.inl (hi.personID.symm.trans hpi))
  have had' : addr = env.email := hqe.symm.trans (beq_iff_eq.mp he)
  obtain ⟨q', hq', hqi, hpa, -⟩ := ho.password
  obtain rfl : q' = q := Table.eq_of_clash hq' hp (.inl hqi)
  obtain ⟨st₁, hst₁, hid₁, -, -, ha₁, -⟩ := ho.membership
  obtain rfl : st₁ = st.withRole r.id := Table.eq_of_clash hst₁ h.mem_membership
    (.inl (hid₁.trans (congrArg Membership.MembershipRow.id (withRole_row r.id st)).symm))
  obtain ⟨st₂, hst₂, hpe₂, ha₂, hm₂⟩ := hi.membership
  obtain ⟨hpe, -⟩ := isMembershipOf_iff.mp h.isMembershipOf.2
  have hs : st₂ = st.withRole r.id := by
    refine Table.eq_of_clash hst₂ h.mem_membership (.inr (.inr ⟨?_, ha₂, ha₁⟩))
    rw [hpe₂, withRole_row, hpe]
  have hlo : (st.withRole r.id).Loads := hydrate_ok_iff.mp ⟨m, hs ▸ hm₂⟩
  unfold StoredMembership.Loads at hlo
  rw [withRole_row, withRole_overrides] at hlo
  rw [withRole_row] at ha₁
  exact ⟨had' ▸ had, hi.active, hi.notAnonymised, hpa, ha₁, hlo⟩

/-- A committed run hands the SuperAdmin to the configured credential exactly when every row it
adopts is already the operator's. -/
theorem handedOver_iff (lib : MailLib) (c : Crypto) (ttl : Duration) (s s' : Store)
    (hs : s.References) (env : BootstrapEnv) (d : SeedDraws) (ids : Seeded)
    (hrun : (bootstrap env d).run s = (.ok (some ids), s')) (chosen : List String)
    (hone : ∀ hash, InUse d s hash → c.TellsApart (env.superAdminPassword :: chosen) hash)
    (hhash : ∀ hash, d.hash = .ok hash → c.verify env.superAdminPassword hash = none)
    (x : LoginAttempt) (hx : x.possible c ttl ids s' = true) :
    HandedOver lib c ttl env chosen ids x s' ↔ Adoptable lib c env s := by
  obtain ⟨hash, t, p, r, st, ms, h, hi⟩ := seedSuperAdmin_ok (bootstrap_ok hrun)
  constructor
  · intro ho
    obtain ⟨he, hac, han, hv, hss, hl⟩ := HandedOver.person h hi ho
    subst hi
    -- The tenant and the person that are there are those of the run.
    have hte : ∀ u ∈ s.tenants, u.slug = Tenant.platformSlug → u = t := by
      intro u hu hsl
      have ht := h.tenant
      rw [getOrInsert_of_mem isPlatformTenant_clash hu (beq_iff_eq.mpr hsl)] at ht
      exact (Prod.mk.inj (Option.some.inj ht)).1
    have hp : ∀ q ∈ s.persons, q.email = env.email → q = p := by
      intro q hq hqe
      have ht := h.person
      rw [getOrInsert_of_mem (email_clash env.email) hq (beq_iff_eq.mpr hqe)] at ht
      exact (Prod.mk.inj (Option.some.inj ht)).1
    refine ⟨he, ?_, ?_, ?_⟩
    · intro q hq hqe
      obtain rfl := hp q hq hqe
      exact ⟨hac, han, hv⟩
    · intro q hq hqe u hu hsl st₁ hst₁ hp₁ hte₁
      obtain rfl := hp q hq hqe
      obtain rfl := hte u hu hsl
      have ht := h.membership
      rw [getOrInsert_of_mem (isMembershipOf_clash q.id u.id) hst₁
        (isMembershipOf_iff.mpr ⟨hp₁, hte₁⟩)] at ht
      cases ht
      exact ⟨hss, hl⟩
    · intro u hu hsl r₁ hr₁ hte₁ hname₁ hd₁
      obtain rfl := hte u hu hsl
      have ht := h.role
      rw [getOrInsert_of_mem (isSuperAdminRole_clash u.id) hr₁
        (isSuperAdminRole_iff.mpr ⟨hte₁, hname₁, hd₁⟩)] at ht
      obtain ⟨rfl, -⟩ := Prod.mk.inj (Option.some.inj ht)
      obtain ⟨r₂, hr₂, hid₂, -, hsu⟩ := ho.role
      obtain rfl : r₂ = r₁ := eq_of_clash hr₂ h.mem_role.1 (.inl hid₂)
      exact hsu
  · intro ha
    subst hi
    obtain ⟨hac, han, hv⟩ := ha.person_live h hhash
    obtain ⟨hp, hte⟩ := isMembershipOf_iff.mp h.isMembershipOf.2
    exact
      { tenant := ⟨t, h.mem_tenant.1, rfl, beq_iff_eq.mp h.mem_tenant.2⟩
        role := ⟨r, h.mem_role.1, rfl, (isSuperAdminRole_iff.mp h.mem_role.2).1, ha.role_super h hs⟩
        membership := ⟨st.withRole r.id, h.mem_membership, by rw [withRole_row],
          by rw [withRole_row]; exact hp, by rw [withRole_row]; exact hte,
          by rw [withRole_row]; exact (ha.membership_active h hs).1, mem_withRole r.id st⟩
        password := ⟨p, h.mem_person.1, rfl, hv, fun q hq hqv =>
          hone _ h.hash_inUse q (mem_cons_of_mem _ hq) _ (mem_cons_self ..) hqv hv⟩
        login := ha.login h hs hhash hx
        again := bootstrap_again hrun }

def operatorEnv : BootstrapEnv :=
  { superAdminEmail := "root@example.com", superAdminPassword := "operator password" }

def operatorDraws : SeedDraws :=
  { now := 5, tenantID := "tenant", hash := .ok "$argon2id$v=19$m=65536,t=3,p=4$operator password"
    personID := "person", stamp := "stamp", roleID := "role", membershipID := "membership" }

def operatorLogin : LoginAttempt := { deviceLabel := "console", draws := sampleDraws }

theorem handedOver_on_empty :
    ∃ ids s', (bootstrap operatorEnv operatorDraws).run {} = (.ok (some ids), s') ∧
    operatorLogin.possible sampleCrypto day ids s' = true ∧
    HandedOver sampleMail sampleCrypto day operatorEnv ["stranger password"] ids operatorLogin
      s' := by
  obtain ⟨seeded, s', hru, hs⟩ := Effect.endsIn_iff.mp (by decide +kernel :
    (bootstrap operatorEnv operatorDraws).endsIn {} (fun seeded s' =>
      seeded.any fun ids => operatorLogin.possible sampleCrypto day ids s') = true)
  obtain ⟨ids, rfl, hf⟩ := (Option.any_eq_true ..).mp hs
  refine ⟨ids, s', hru, hf, ?_⟩
  have hr : ({} : Store).References :=
    ⟨fun _ h => absurd h not_mem_nil, fun _ h => absurd h not_mem_nil,
      fun _ h => absurd h not_mem_nil⟩
  have hone : ∀ hash, InUse operatorDraws {} hash →
      sampleCrypto.TellsApart ["operator password", "stranger password"] hash := by
    rintro hash (hh | ⟨_, h, -⟩)
    · cases hh
      unfold Crypto.TellsApart
      decide +kernel
    · exact absurd h not_mem_nil
  have hv : ∀ hash, operatorDraws.hash = .ok hash →
      sampleCrypto.verify operatorEnv.superAdminPassword hash = none := by
    intro hash hh
    cases hh
    decide +kernel
  refine (handedOver_iff sampleMail sampleCrypto day {} s' hr operatorEnv operatorDraws ids hru
    ["stranger password"] hone hv operatorLogin hf).mpr ⟨by decide +kernel, ?_, ?_, ?_⟩
  · exact fun _ h => absurd h not_mem_nil
  · exact fun _ h => absurd h not_mem_nil
  · exact fun _ h => absurd h not_mem_nil

def strangerRegistration : RegisterTenantRequest :=
  { slug := "platform", legalName := "Eve", displayName := "Eve", adminEmail := "root@example.com"
    adminPassword := "stranger password", adminFirstName := "Eve", adminLastName := "Roe" }

def strangerDraws : RegisterDraws :=
  { rawHash := .ok "$argon2id$v=19$m=65536,t=3,p=4$stranger password", now := 1, tenantID := "t1"
    personID := "p1", stamp := "stamp-1", membershipID := "m1"
    roleID := fun n => "role-" ++ toString n }

theorem superAdmin_handed_to_stranger :
    ∃ s ids s', handleRegisterTenant sampleMail (some strangerRegistration) strangerDraws {} = s ∧
    (bootstrap operatorEnv operatorDraws).run s = (.ok (some ids), s') ∧
    operatorLogin.possible sampleCrypto day ids s' = true ∧
    handleLogin sampleMail sampleCrypto day "root@example.com" "operator password" operatorLogin s'
    = none ∧
    (handleLogin sampleMail sampleCrypto day "root@example.com" "stranger password" operatorLogin
    s').any (fun access => access.isPlatform && access.isSuperUser) = true ∧
    ¬ HandedOver sampleMail sampleCrypto day operatorEnv ["stranger password"] ids operatorLogin
      s' := by
  obtain ⟨seeded, s', hru, hse⟩ := Effect.endsIn_iff.mp (by decide +kernel :
    (bootstrap operatorEnv operatorDraws).endsIn
      (handleRegisterTenant sampleMail (some strangerRegistration) strangerDraws {}) (fun seeded s' =>
        seeded.any fun ids => operatorLogin.possible sampleCrypto day ids s' = true ∧
          handleLogin sampleMail sampleCrypto day "root@example.com" "operator password"
            operatorLogin s' = none ∧
          (handleLogin sampleMail sampleCrypto day "root@example.com" "stranger password"
            operatorLogin s').any (fun access => access.isPlatform && access.isSuperUser) = true) =
      true)
  obtain ⟨ids, rfl, hf⟩ := (Option.any_eq_true ..).mp hse
  obtain ⟨hp, hr, hs⟩ := of_decide_eq_true hf
  refine ⟨_, ids, s', rfl, hru, hp, hr, hs, ?_⟩
  intro ho
  obtain ⟨access, hl, -⟩ := ho.login
  exact absurd (hr.symm.trans hl) (by simp)

end Leadkart
