import Leadkart.Common.Email
import Leadkart.Identity.Exclusion

/-!
# Anonymous registration and the platform tenant
-/

namespace Leadkart

open Table Leadkart.Membership MembershipRepository Effect

structure RoleSpec where
  name : String
  (isSystemDefault isSuperAdmin : Bool := false)
  hierarchyLevel : Int
  permissions : List String

def companyOwner : String := "Company Owner"

def tasksMember : List String := ["tasks.work_items.read", "tasks.work_items.manage"]

def tasksManager : List String :=
  ["tasks.work_items.read", "tasks.work_items.read_all", "tasks.work_items.manage",
   "tasks.work_items.reassign"]

def inventoryRead : List String := ["inventory.catalog.read", "inventory.stock.read"]

def inventoryManage : List String := ["inventory.catalog.manage", "inventory.stock.manage"]

def defaultRoleCatalog : List RoleSpec :=
  let level := Role.hierarchyLevelDefault
  [{ name := companyOwner, isSystemDefault := true, hierarchyLevel := 0
     permissions := "tenant.admin" :: tasksManager },
   { name := "Administrator", hierarchyLevel := 10, permissions := tasksManager },
   { name := "Senior Manager", hierarchyLevel := 20, permissions := tasksManager },
   { name := "Office Administrator", hierarchyLevel := level
     permissions := inventoryRead ++ tasksManager },
   { name := "Office Executive", hierarchyLevel := level, permissions := tasksMember },
   { name := "Sales Manager", hierarchyLevel := level
     permissions := inventoryRead ++ tasksManager },
   { name := "Sales Executive", hierarchyLevel := level, permissions := tasksMember },
   { name := "Purchase Manager", hierarchyLevel := level
     permissions := inventoryManage ++ tasksManager },
   { name := "Purchase Executive", hierarchyLevel := level, permissions := tasksMember },
   { name := "Dispatch Manager", hierarchyLevel := level, permissions := tasksManager },
   { name := "Dispatch Executive", hierarchyLevel := level, permissions := tasksMember },
   { name := "HR Manager", hierarchyLevel := level, permissions := tasksManager },
   { name := "HR Executive", hierarchyLevel := level, permissions := tasksMember }]

def grantAll (now : Time) : List String → Role → Except Err Role
  | [], r => .ok r
  | name :: names, r =>
    match Permission.tryFromConstant name with
    | .error e => .error e
    | .ok p =>
      match r.grantPermission (some p) now with
      | (_, some e) => .error e
      | (r', none) => grantAll now names r'

def buildRole (tenantID : String) (now : Time) (id : String) (spec : RoleSpec) : Except Err Role :=
  match Role.new id tenantID spec.name spec.isSystemDefault spec.hierarchyLevel spec.isSuperAdmin
      now with
  | .error e => .error e
  | .ok r => grantAll now spec.permissions r

def seedRole (tenantID : String) (now : Time) (id : String) (spec : RoleSpec) : Repo Role := do
  match ← (RoleRepository.getByTenantAndName tenantID spec.name).attempt with
  | .ok existing => pure existing
  | .error e =>
    if e.is Role.errNotFound then do
      let r ← .ofExcept (buildRole tenantID now id spec)
      RoleRepository.add r
      pure r
    else .fail e

def seedRoles (tenantID : String) (now : Time) (roleID : Nat → String) :
    List RoleSpec → Nat → Repo (List Role)
  | [], _ => pure []
  | spec :: specs, n => do
    let r ← seedRole tenantID now (roleID n) spec
    let rs ← seedRoles tenantID now roleID specs (n + 1)
    pure (r :: rs)

def applyDefaultRoles (tenantID : String) (now : Time) (roleID : Nat → String) : Repo (List Role) :=
  if tenantID = "" then .fail (.foreign "seed: tenantID required")
  else seedRoles tenantID now roleID defaultRoleCatalog 0

structure RegisterTenantCommand where
  (slug legalName displayName adminEmail adminPassword adminFirstName adminLastName : String)

structure RegisterTenantResult where
  (tenantID personID membershipID : String)
  deriving DecidableEq

inductive RegisterError where
  | emailHasActiveMembership
  | other (context : String) (err : Err)
  deriving DecidableEq

structure RegisterDraws where
  rawHash : Except Err String
  now : Time
  (tenantID personID stamp membershipID : String)
  roleID : Nat → String

def hashAdminPassword (rawHash : Except Err String) : Except RegisterError String :=
  match rawHash with
  | .error e => .error (.other "register tenant: hash password" e)
  | .ok raw =>
    match Person.newPasswordHash raw with
    | .error e => .error (.other "register tenant: wrap hash" e)
    | .ok pwd => .ok pwd

def assertNoActiveMembership (personID : String) : Effect Store RegisterError Unit := do
  match ← (getActiveForPerson personID).attempt with
  | .ok _ => .fail .emailHasActiveMembership
  | .error e =>
    if e.is Membership.errNotFound then pure ()
    else .fail (.other "register tenant: check active membership" e)

def findOrCreatePerson (cmd : RegisterTenantCommand) (existing : Option Person) (pwd : String)
    (d : RegisterDraws) : Effect Store RegisterError Person := do
  match existing with
  | some p => pure p
  | none => do
    let p ← (Effect.ofExcept (Person.newWithMustChangePassword d.personID cmd.adminEmail
      cmd.adminFirstName cmd.adminLastName pwd d.now d.stamp)).mapError (.other "construct person")
    (PersonRepository.add p).mapError fun e =>
      if e.is Person.errEmailTaken then .emailHasActiveMembership else .other "persist person" e
    pure p

def createMembership (personID tenantID : String) (d : RegisterDraws) :
    Effect Store RegisterError Membership := do
  let m ← (Effect.ofExcept (Membership.new d.membershipID personID tenantID "" d.now)).mapError
    (.other "construct membership")
  (add m).mapError fun e =>
    if e.is Membership.errAlreadyActive then .emailHasActiveMembership
    else .other "persist membership" e
  pure m

def persistAggregatesInTx (cmd : RegisterTenantCommand) (existing : Option Person) (pwd : String)
    (d : RegisterDraws) : Effect Store RegisterError RegisterTenantResult :=
  .atomic do
    let t ← (Effect.ofExcept (Tenant.new d.tenantID cmd.slug cmd.legalName cmd.displayName
      cmd.adminEmail d.now)).mapError (.other "construct tenant")
    (TenantRepository.add t).mapError (.other "persist tenant")
    let p ← findOrCreatePerson cmd existing pwd d
    let m ← createMembership p.id t.id d
    pure { tenantID := t.id, personID := p.id, membershipID := m.id }

def seedRolesAndAssignOwner (r : RegisterTenantResult) (d : RegisterDraws) :
    Effect Store RegisterError Unit := do
  let roles ← (applyDefaultRoles r.tenantID d.now d.roleID).mapError
    (.other "register tenant: seed default roles")
  match roles.find? fun role => role.name == companyOwner with
  | none =>
    .fail (.other "register tenant: CompanyOwner not in seeded catalog (catalog drift)"
      (.foreign ""))
  | some owner =>
    (updateByID r.tenantID r.membershipID
      (Membership.opFn fun m => m.assignRole owner.id d.now)).mapError
        (.other "register tenant: assign CompanyOwner to admin membership")

def registerTenant (cmd : RegisterTenantCommand) (d : RegisterDraws) :
    Effect Store RegisterError RegisterTenantResult := do
  let pwd ← .ofExcept (hashAdminPassword d.rawHash)
  match ← (PersonRepository.getByEmail cmd.adminEmail).attempt with
  | .ok existing => do
    assertNoActiveMembership existing.id
    let r ← persistAggregatesInTx cmd (some existing) pwd d
    seedRolesAndAssignOwner r d
    pure r
  | .error e =>
    if e.is Person.errNotFound then do
      let r ← persistAggregatesInTx cmd none pwd d
      seedRolesAndAssignOwner r d
      pure r
    else .fail (.other "register tenant: lookup person" e)

abbrev RegisterTenantRequest := RegisterTenantCommand

def handleRegisterTenant (lib : MailLib) (req : Option RegisterTenantRequest) (d : RegisterDraws)
    (s : Store) : Store :=
  match req with
  | none => s
  | some req =>
    match Slug.new req.slug, Email.new lib req.adminEmail with
    | .ok slug, .ok email => ((registerTenant { req with slug, adminEmail := email } d).run s).2
    | _, _ => s

structure Portal where
  store : Store
  issued : List Claims := []

inductive PublicRequest where
  | register (req : Option RegisterTenantRequest) (d : RegisterDraws)
  | signIn (x : SignIn) (d : Draws)

section Routes

variable (c : Crypto) (ttl : Duration) (lib : MailLib)

def serve (w : Portal) : PublicRequest → Option Portal
  | .register req d => some { w with store := handleRegisterTenant lib req d w.store }
  | .signIn x d =>
    let (access, s') := x.handle c ttl d w.store
    some { store := s', issued := w.issued ++ access.toList }

end Routes

def Reserved (w : Portal) : PublicRequest → Prop
  | .register (some req) _ => Slug.new req.slug = .ok Tenant.platformSlug →
      ∃ t ∈ w.store.tenants, t.slug = Tenant.platformSlug
  | _ => True

def Store.PlatformMember (s : Store) (personID : String) : Prop :=
  ∃ t ∈ s.tenants, t.slug = Tenant.platformSlug ∧
    ∃ st ∈ s.memberships, st.row.personID = personID ∧ st.row.tenantID = t.id

section SignInFrame

variable {c : Crypto} {ttl : Duration} {d : Draws}

def Store.Frame (s₀ s : Store) : Prop := s.tenants = s₀.tenants ∧ s.memberships = s₀.memberships

variable {s₀ : Store}

theorem keeps_updateLockoutState (p : Person) :
    Keeps s₀.Frame (PersonRepository.updateLockoutState p) := by
  intro s hs
  obtain ⟨t, ht⟩ := updateLockoutState_store p s
  rw [ht]
  exact hs

theorem keeps_addFamily (f : RefreshToken.Family) :
    Keeps s₀.Frame (RefreshTokenFamilyRepository.add f) := by
  refine keeps_write fun s s' hs h => ?_
  obtain ⟨t, -, rfl⟩ := orRefused_ok h
  exact hs

theorem keeps_updateFamily (id : String) (fn : RefreshToken.UpdateFn) :
    Keeps s₀.Frame (RefreshTokenFamilyRepository.updateByID id fn) := by
  refine keeps_write fun s s' hs h => ?_
  rcases RefreshTokenFamilyRepository.updateByID_ok (write_eq_ok.mpr h) with
    ⟨rfl, -⟩ | ⟨-, -, t, -, -, -, rfl⟩
  · exact hs
  · exact hs

theorem keeps_login (cmd : LoginCommand) : Keeps s₀.Frame (login c ttl cmd d) := by
  refine .bind (keeps_resolveAndVerify keeps_updateLockoutState _ _) fun pm => ?_
  refine .bind ((keeps_query _).mapError _) fun tn => ?_
  refine .bind (.bind ((keeps_ofExcept _).mapError _) fun pair =>
    .bind ((keeps_ofExcept _).mapError _) fun f =>
      .bind ((keeps_addFamily f).mapError _) fun _ => keeps_pure _) fun pair => ?_
  refine .bind (Keeps.mapError (.bind (keeps_read _) fun _ => keeps_pure _) _) fun auth => ?_
  exact .bind ((keeps_ofExcept _).mapError _) fun _ => keeps_pure _

theorem keeps_rejectRevoking {α : Type} (id reason : String) (now : Time) :
    Keeps s₀.Frame (rejectRevoking id reason now : Effect Store RefreshError α) :=
  .bind (keeps_updateFamily _ _).ignore fun _ => keeps_fail _

theorem keeps_reissue (f : RefreshToken.Family) (pair : MintPair) :
    Keeps s₀.Frame (reissue f pair d) := by
  refine .bind ((keeps_query _).mapError _) fun p => ?_
  split
  · exact keeps_rejectRevoking _ _ _
  refine .bind ((keeps_query _).mapError _) fun tn => ?_
  refine .bind (keeps_query _).attempt fun active => ?_
  rcases active with e | m
  · exact keeps_rejectRevoking _ _ _
  dsimp only
  split
  · exact keeps_rejectRevoking _ _ _
  refine .bind (Keeps.mapError (.bind (keeps_read _) fun _ => keeps_pure _) _) fun auth => ?_
  exact .bind ((keeps_ofExcept _).mapError _) fun _ => keeps_pure _

theorem keeps_refresh (cmd : RefreshCommand) : Keeps s₀.Frame (refresh c ttl cmd d) := by
  unfold refresh
  split
  · exact keeps_fail _
  refine .bind (keeps_query _).attempt fun found => ?_
  rcases found with e | f
  · dsimp only
    split <;> exact keeps_fail _
  refine .bind ((keeps_ofExcept _).mapError _) fun pair => ?_
  refine .bind (.bind ((keeps_updateFamily _ _).mapError _) fun _ => ?_) fun _ => keeps_reissue _ _
  split
  · exact keeps_fail _
  · exact keeps_pure _

theorem SignIn.handle_frame (x : SignIn) (s : Store) : s.Frame (x.handle c ttl d s).2 := by
  cases x with
  | login cmd => exact keeps_login cmd s ⟨rfl, rfl⟩
  | refresh cmd => exact keeps_refresh cmd s ⟨rfl, rfl⟩

end SignInFrame

section Rule

variable {I : Store → Prop} {cmd : RegisterTenantCommand} {d : RegisterDraws}

theorem keeps_seedRoles (hr : ∀ r, Keeps I (RoleRepository.add r)) (tenantID : String)
    (now : Time) (ro : Nat → String) (sp : List RoleSpec) (n : Nat) :
    Keeps I (seedRoles tenantID now ro sp n) := by
  induction sp generalizing n with
  | nil => exact keeps_pure _
  | cons spec sp ih =>
    refine .bind (.bind (keeps_query _).attempt fun found => ?_) fun r =>
      .bind (ih (n + 1)) fun _ => keeps_pure _
    rcases found with e | existing
    · dsimp only
      split
      · exact .bind (keeps_ofExcept _) fun r => .bind (hr r) fun _ => keeps_pure _
      · exact keeps_fail _
    · exact keeps_pure _

theorem keeps_seedRolesAndAssignOwner (hr : ∀ r, Keeps I (RoleRepository.add r))
    (hm : ∀ tenantID id fn, Keeps I (updateByID tenantID id fn))
    (r : RegisterTenantResult) : Keeps I (seedRolesAndAssignOwner r d) := by
  refine .bind (Keeps.mapError ?_ _) fun roles => ?_
  · unfold applyDefaultRoles
    split
    · exact keeps_fail _
    · exact keeps_seedRoles hr _ _ _ _ _
  · split
    · exact keeps_fail _
    · exact (hm _ _ _).mapError _

theorem keeps_assertNoActiveMembership (p : String) : Keeps I (assertNoActiveMembership p) := by
  refine .bind (keeps_query _).attempt fun active => ?_
  rcases active with e | m
  · dsimp only
    split
    · exact keeps_pure _
    · exact keeps_fail _
  · exact keeps_fail _

theorem keeps_registerTenant
    (hc : ∀ existing pwd, Keeps I (persistAggregatesInTx cmd existing pwd d))
    (hro : ∀ r, Keeps I (RoleRepository.add r))
    (hm : ∀ tenantID id fn, Keeps I (updateByID tenantID id fn)) :
    Keeps I (registerTenant cmd d) := by
  have hr : ∀ existing pwd, Keeps I (do
      let r ← persistAggregatesInTx cmd existing pwd d
      seedRolesAndAssignOwner r d
      pure r) := fun existing pwd =>
    .bind (hc existing pwd) fun r =>
      .bind (keeps_seedRolesAndAssignOwner hro hm r) fun _ => keeps_pure r
  refine .bind (keeps_ofExcept _) fun pwd => ?_
  refine .bind (keeps_query _).attempt fun found => ?_
  rcases found with e | existing
  · dsimp only
    split
    · exact hr none pwd
    · exact keeps_fail _
  · exact .bind (keeps_assertNoActiveMembership _) fun _ => hr (some existing) pwd

end Rule

/-! ## What a registration can do -/

structure Since (s₀ s : Store) : Prop where
  kept : ∀ t ∈ s₀.tenants, t ∈ s.tenants
  platform : ∀ t ∈ s.tenants, t.slug = Tenant.platformSlug → t ∈ s₀.tenants
  members : ∀ st ∈ s.memberships, ∀ t ∈ s₀.tenants, st.row.tenantID = t.id →
    ∃ st₀ ∈ s₀.memberships, st₀.row.personID = st.row.personID ∧ st₀.row.tenantID = t.id

section Registering

variable {s₀ s s' : Store} {cmd : RegisterTenantCommand} {d : RegisterDraws}

theorem Since.refl (s : Store) : Since s s where
  kept _ ht := ht
  platform _ ht _ := ht
  members st hst _ _ h := ⟨st, hst, rfl, h⟩

theorem Since.frame (h : Since s₀ s) (hf : s.Frame s') : Since s₀ s' := by
  obtain ⟨ht, hm⟩ := hf
  refine ⟨?_, ?_, ?_⟩
  · rw [ht]
    exact h.kept
  · rw [ht]
    exact h.platform
  · rw [hm]
    exact h.members

theorem Since.addTenant (h : Since s₀ s) {t : Tenant} {ts : Table Tenant Tenant.Clash}
    (hi : s.tenants.insert t = some ts) (hs : t.slug ≠ Tenant.platformSlug) :
    Since s₀ { s with tenants := ts } where
  kept q hq := (mem_insert hi).mpr (.inl (h.kept q hq))
  platform q hq hplat := by
    rcases (mem_insert hi).mp hq with hq | rfl
    · exact h.platform q hq hplat
    · exact absurd hplat hs
  members := h.members

variable {st : Membership.StoredMembership}

theorem Since.addMembership (h : Since s₀ s)
    {ms : Table Membership.StoredMembership Membership.StoredMembership.Clash}
    (hi : s.memberships.insert st = some ms) (hn : ∀ t ∈ s₀.tenants, st.row.tenantID ≠ t.id) :
    Since s₀ { s with memberships := ms } where
  kept := h.kept
  platform := h.platform
  members q hq t ht htenant := by
    rcases (mem_insert hi).mp hq with hq | rfl
    · exact h.members q hq t ht htenant
    · exact absurd htenant (hn t ht)

theorem since_updateMembership (tenantID id : String) (fn : Membership.UpdateFn) :
    Keeps (Since s₀) (updateByID tenantID id fn) := by
  refine keeps_write fun s s' hs h => ?_
  rcases updateByID_ok (write_eq_ok.mpr h) with
    ⟨rfl, -⟩ | ⟨st, st', t, hf, ha, hup, rfl⟩
  · exact hs
  obtain ⟨hst, -⟩ := mem_of_find? hf
  obtain ⟨m, -, hp⟩ := Option.bind_eq_some_iff.mp ha
  obtain ⟨hpe, ht⟩ := persist_row hp
  refine ⟨hs.kept, hs.platform, fun q hq u hu hqu => ?_⟩
  obtain ⟨r, hr, rfl⟩ := (mem_update hup).mp hq
  by_cases hid : (r.row.id == id) = true
  · rw [if_pos hid] at hqu ⊢
    rw [hpe]
    exact hs.members st hst u hu (ht.symm.trans hqu)
  · rw [if_neg hid] at hqu ⊢
    exact hs.members r hr u hu hqu

theorem since_addRole (r : Role) : Keeps (Since s₀) (RoleRepository.add r) := by
  refine keeps_write fun s s' hs h => ?_
  obtain ⟨t, -, rfl⟩ := orRefused_ok h
  exact ⟨hs.kept, hs.platform, hs.members⟩

variable {existing : Option Person} {pwd : String}

theorem findOrCreatePerson_ok {p : Person}
    (h : (findOrCreatePerson cmd existing pwd d).run s = (.ok p, s')) :
    ∃ t, s' = { s with persons := t } ∧ ((existing = some p ∧ t = s.persons) ∨
        ∃ q ∈ t, q.id = p.id ∧ q.email = cmd.adminEmail) := by
  cases existing with
  | some q =>
    obtain ⟨rfl, rfl⟩ := pure_eq_ok.mp h
    exact ⟨s.persons, rfl, .inl ⟨rfl, rfl⟩⟩
  | none =>
    obtain ⟨q, s₁, hq, h₁⟩ := bind_eq_ok.mp h
    obtain ⟨hn, rfl⟩ := ofExcept_eq_ok.mp (mapError_eq_ok.mp hq)
    obtain ⟨_, s₂, ha, h₂⟩ := bind_eq_ok.mp h₁
    obtain ⟨rfl, rfl⟩ := pure_eq_ok.mp h₂
    obtain ⟨t, ht, rfl⟩ := orRefused_ok (write_eq_ok.mp (mapError_eq_ok.mp ha))
    obtain ⟨q₀, hq₀, rfl⟩ := Person.newWithMustChangePassword_ok hn
    obtain ⟨-, rfl⟩ := Person.new_ok hq₀
    exact ⟨t, rfl, .inr ⟨_, (mem_insert ht).mpr (.inr rfl), rfl, rfl⟩⟩

variable {m : Membership}

theorem Membership.new_ok {id personID tenantID createdBy : String} {now : Time}
    (h : Membership.new id personID tenantID createdBy now = .ok m) :
    m = { id, personID, tenantID, createdBy, status := .active, joinedAt := now,
          events := [.created id personID tenantID now] } := by
  unfold Membership.new at h
  iterate 4
    split at h
    · cases h
  exact (Except.ok.inj h).symm

theorem insertRows_row (h : insertRows m = some st) :
    st.row.id = m.id ∧ st.row.personID = m.personID ∧ st.row.tenantID = m.tenantID ∧
    st.row.status = m.status := by
  rw [(persist_eq h).1]
  exact ⟨rfl, rfl, rfl, rfl⟩

structure Onboarded (cmd : RegisterTenantCommand) (existing : Option Person) (s s' : Store)
    (r : RegisterTenantResult) (t : Tenant) (st : Membership.StoredMembership) : Prop where
  slug : t.slug = cmd.slug
  tenantID : t.id = r.tenantID
  tenants : s.tenants.insert t = some s'.tenants
  membershipID : st.row.id = r.membershipID
  inTenant : st.row.tenantID = r.tenantID
  active : st.row.status = .active
  memberships : s.memberships.insert st = some s'.memberships
  person : (∃ p, existing = some p ∧ st.row.personID = p.id ∧ s'.persons = s.persons) ∨
    ∃ p ∈ s'.persons, st.row.personID = p.id ∧ p.email = cmd.adminEmail
  roles : s'.roles = s.roles

theorem persistAggregatesInTx_ok {r : RegisterTenantResult}
    (h : (persistAggregatesInTx cmd existing pwd d).run s = (.ok r, s')) :
    ∃ t st, Onboarded cmd existing s s' r t st := by
  obtain ⟨t, s₁, ht, h₁⟩ := bind_eq_ok.mp (atomic_eq_ok.mp h)
  obtain ⟨hte, rfl⟩ := ofExcept_eq_ok.mp (mapError_eq_ok.mp ht)
  obtain ⟨-, rfl⟩ := Tenant.new_ok hte
  obtain ⟨_, s₂, ha, h₂⟩ := bind_eq_ok.mp h₁
  obtain ⟨ts, hts, rfl⟩ := orRefused_ok (write_eq_ok.mp (mapError_eq_ok.mp ha))
  obtain ⟨p, s₃, hp, h₃⟩ := bind_eq_ok.mp h₂
  obtain ⟨ps, rfl, hpe⟩ := findOrCreatePerson_ok hp
  obtain ⟨m, s₄, hm, h₄⟩ := bind_eq_ok.mp h₃
  obtain ⟨rfl, rfl⟩ := pure_eq_ok.mp h₄
  obtain ⟨m', s₅, hn, h₅⟩ := bind_eq_ok.mp hm
  obtain ⟨hme, rfl⟩ := ofExcept_eq_ok.mp (mapError_eq_ok.mp hn)
  obtain rfl := new_ok hme
  obtain ⟨_, s₆, hi, h₆⟩ := bind_eq_ok.mp h₅
  obtain ⟨rfl, rfl⟩ := pure_eq_ok.mp h₆
  have hi := write_eq_ok.mp (mapError_eq_ok.mp hi)
  split at hi
  · cases hi
  rename_i st hst
  obtain ⟨hid, hpi, hti, hs⟩ := insertRows_row hst
  split at hi
  · obtain ⟨ms, hms, rfl⟩ := orRefused_ok hi
    refine ⟨_, st, rfl, rfl, hts, hid, hti, hs, hms, ?_, rfl⟩
    rcases hpe with ⟨he, rfl⟩ | ⟨q, hq, hqi, hem⟩
    · exact .inl ⟨p, he, hpi, rfl⟩
    · exact .inr ⟨q, hq, hpi.trans hqi.symm, hem⟩
  · cases hi

theorem since_persistAggregatesInTx (existing : Option Person) (pwd : String)
    (hcm : cmd.slug = Tenant.platformSlug → ∃ t ∈ s₀.tenants, t.slug = Tenant.platformSlug) :
    Keeps (Since s₀) (persistAggregatesInTx cmd existing pwd d) := by
  refine Keeps.atomic fun u r u' hu hr => ?_
  obtain ⟨t, st, hn⟩ := persistAggregatesInTx_ok (atomic_eq_ok.mpr hr)
  have hc := (insert_eq_some hn.tenants).2
  have hot : t.slug ≠ Tenant.platformSlug := by
    intro hp
    obtain ⟨q, hq, hqs⟩ := hcm (hn.slug.symm.trans hp)
    exact hc q (hu.kept q hq) (.inr (hqs.trans hp.symm))
  have ho : ∀ q ∈ s₀.tenants, st.row.tenantID ≠ q.id := by
    intro q hq hid
    exact hc q (hu.kept q hq) (.inl (hid.symm.trans (hn.inTenant.trans hn.tenantID.symm)))
  have ha := (hu.addTenant hn.tenants hot).addMembership hn.memberships ho
  exact ⟨ha.kept, ha.platform, ha.members⟩

theorem since_registerTenant
    (hc : cmd.slug = Tenant.platformSlug → ∃ t ∈ s₀.tenants, t.slug = Tenant.platformSlug) :
    Keeps (Since s₀) (registerTenant cmd d) :=
  keeps_registerTenant (fun existing pwd => since_persistAggregatesInTx existing pwd hc)
    since_addRole since_updateMembership

end Registering

variable {c : Crypto} {ttl : Duration} {lib : MailLib} {s₀ : Store}

structure Portal.Inv (s₀ : Store) (w : Portal) : Prop where
  since : Since s₀ w.store
  issued : ∀ access ∈ w.issued, access.tenantSlug = Tenant.platformSlug →
    s₀.PlatformMember access.personID

variable {isFresh : Except Err Bool} {access : Claims}

theorem requirePlatform_slug (h : requirePlatform isFresh access = none) :
    access.tenantSlug = Tenant.platformSlug := by
  unfold requirePlatform at h
  split at h
  · cases h
  split at h
  · cases h
  · rename_i hs
    have hb : access.isPlatform = true ∧ access.tenantSlug = Tenant.platformSlug := by
      simpa using hs
    exact hb.2

theorem Since.platformMember {s : Store} (h : Since s₀ s) {x : SignIn} {d : Draws}
    (hx : (x.handle c ttl d s).1 = some access) (hg : access.tenantSlug = Tenant.platformSlug) :
    s₀.PlatformMember access.personID := by
  obtain ⟨p, tn, m, -, hi⟩ := SignIn.handle_issued hx
  obtain ⟨st, hst, hp, -, hl⟩ := hi.membership
  have hs : tn.slug = Tenant.platformSlug := hi.tenantSlug.symm.trans hg
  have htn := h.platform tn hi.tenant hs
  have ht : st.row.tenantID = tn.id := by
    rw [← hi.inTenant]
    exact (hydrate_tenantID hl).symm
  obtain ⟨st₀, hst₀, hp₀, ht₀⟩ := h.members st hst tn htn ht
  refine ⟨tn, htn, hs, st₀, hst₀, ?_, ht₀⟩
  rw [hp₀, hp, hi.personID]

theorem serve_inv {w w' : Portal} {q : PublicRequest} (hw : w.Inv s₀) (hq : Reserved w q)
    (h : serve c ttl lib w q = some w') : w'.Inv s₀ := by
  cases q with
  | register req d =>
    cases h
    refine ⟨?_, hw.issued⟩
    cases req with
    | none => exact hw.since
    | some req =>
      unfold handleRegisterTenant
      dsimp only
      split
      · rename_i slug email hs he
        refine since_registerTenant (fun hp => ?_) w.store hw.since
        obtain ⟨t, ht, hts⟩ := hq (hs.trans (congrArg Except.ok hp))
        exact ⟨t, hw.since.platform t ht hts, hts⟩
      · exact hw.since
  | signIn x d =>
    cases h
    refine ⟨hw.since.frame (x.handle_frame w.store), ?_⟩
    intro access ha hg
    rcases List.mem_append.mp ha with hold | hn
    · exact hw.issued access hold hg
    · exact hw.since.platformMember (Option.mem_toList.mp hn) hg

/-- Once the slug is taken, only members of a platform tenant get a platform token. -/
theorem platform_members_of_reserved (c : Crypto) (ttl : Duration) (lib : MailLib) (s₀ : Store)
    (qs : List PublicRequest) (w : Portal)
    (hq : Machine.Along (serve c ttl lib) Reserved { store := s₀ } qs)
    (hrun : Machine.run (serve c ttl lib) { store := s₀ } qs = some w) :
    ∀ access ∈ w.issued, (access.isPlatform = true ∧ access.tenantSlug = Tenant.platformSlug ∨
      ∃ isFresh, requirePlatform isFresh access = none) → s₀.PlatformMember access.personID := by
  have hi : w.Inv s₀ := Machine.run_invariant (P := Portal.Inv s₀) ⟨Since.refl s₀, by simp⟩
    (fun _ _ _ hw hq h => serve_inv hw hq h) hq hrun
  rintro access ha (⟨-, hs⟩ | ⟨isFresh, hg⟩)
  · exact hi.issued access ha hs
  · exact hi.issued access ha (requirePlatform_slug hg)

def sampleRegistration : PublicRequest :=
  .register
    (some { slug := "platform", legalName := "Eve", displayName := "Eve"
            adminEmail := "eve@example.com", adminPassword := "secret password"
            adminFirstName := "Eve", adminLastName := "Roe" })
    { rawHash := .ok sampleHash, now := 1, tenantID := "t2", personID := "p2", stamp := "stamp-2"
      membershipID := "m2", roleID := fun n => "role-" ++ toString n }

def strangerLogin : PublicRequest :=
  .signIn (.login ⟨"eve@example.com", "secret password", "laptop"⟩) sampleDraws

def platformStore : Store :=
  signedInStore samplePerson { sampleTenant with slug := "platform" } (sampleCrypto.hashOf "a")

theorem platform_members_when_taken :
    ∃ w, Machine.run (serve sampleCrypto day sampleMail) { store := platformStore }
        [sampleRegistration, .signIn sampleLogin sampleDraws] = some w ∧
      (w.issued.any fun access => requirePlatform (.ok true) access == none) = true ∧
      ∀ access ∈ w.issued, (access.isPlatform = true ∧ access.tenantSlug = Tenant.platformSlug ∨
        ∃ isFresh, requirePlatform isFresh access = none) →
        platformStore.PlatformMember access.personID := by
  refine ⟨_, rfl, by decide +kernel, ?_⟩
  refine platform_members_of_reserved sampleCrypto day sampleMail platformStore
    [sampleRegistration, .signIn sampleLogin sampleDraws] _ ?_ rfl
  exact ⟨fun _ => ⟨_, List.mem_singleton_self _, rfl⟩, trivial, trivial⟩

theorem stranger_registers_platform :
    ∃ w, Machine.run (serve sampleCrypto day sampleMail) { store := {} }
        [sampleRegistration, strangerLogin] = some w ∧
      ∃ access ∈ w.issued, requirePlatform (.ok true) access = none ∧
        ¬ ({} : Store).PlatformMember access.personID := by
  refine ⟨_, rfl, ?_⟩
  obtain ⟨access, hi, hg⟩ := List.any_eq_true.mp (by decide +kernel : ((Machine.run
    (serve sampleCrypto day sampleMail) { store := {} } [sampleRegistration, strangerLogin]).get
      rfl).issued.any (fun access => requirePlatform (.ok true) access == none) = true)
  refine ⟨access, hi, beq_iff_eq.mp hg, ?_⟩
  rintro ⟨t, ht, -⟩
  cases ht

end Leadkart
