import Leadkart.Identity.Registration

/-!
# Running a registration again
-/

namespace Leadkart

open List Table MembershipRepository Effect

def LiveRole (roles : Table Role Role.Clash) (tenantID name id : String) : Prop :=
  ∃ q ∈ roles, q.id = id ∧ q.tenantID = tenantID ∧ q.name = name ∧ q.deleted = false

section Seeding

variable {s s' : Store} {tenantID : String} {now : Time} {roleID : Nat → String} {r : Role}

theorem grantAll_ok {n : List String} {r' : Role} (h : grantAll now n r = .ok r') :
    r'.id = r.id ∧ r'.tenantID = r.tenantID ∧ r'.name = r.name ∧ r'.deleted = r.deleted := by
  induction n generalizing r with
  | nil =>
    cases h
    exact ⟨rfl, rfl, rfl, rfl⟩
  | cons name n ih =>
    unfold grantAll at h
    split at h
    · cases h
    rename_i p hp
    split at h
    · cases h
    rename_i r₁ hgrant
    obtain ⟨hid, ht, hname, hd⟩ := ih h
    have hk : r₁.id = r.id ∧ r₁.tenantID = r.tenantID ∧ r₁.name = r.name ∧
        r₁.deleted = r.deleted := by
      have hf : (r.grantPermission p now).1 = r₁ := congrArg Prod.fst hgrant
      rw [← hf]
      dsimp only [Role.grantPermission]
      split
      · exact ⟨rfl, rfl, rfl, rfl⟩
      split <;> exact ⟨rfl, rfl, rfl, rfl⟩
    rw [hid, ht, hname, hd]
    exact hk

variable {id : String} {spec : RoleSpec}

theorem buildRole_ok (h : buildRole tenantID now id spec = .ok r) :
    r.tenantID = tenantID ∧ r.name = trimSpace spec.name ∧ r.deleted = false := by
  unfold buildRole at h
  split at h
  · cases h
  rename_i r₀ hn
  obtain ⟨-, ht, hname, hd⟩ := grantAll_ok h
  rw [ht, hname, hd]
  unfold Role.new at hn
  split at hn
  · cases hn
  split at hn
  · cases hn
  split at hn
  · cases hn
  rename_i trimmed hvalid
  split at hn
  · cases hn
  cases hn
  unfold Role.validateName at hvalid
  dsimp only at hvalid
  split at hvalid
  · cases hvalid
  split at hvalid
  · cases hvalid
  cases hvalid
  exact ⟨rfl, rfl, rfl⟩

theorem seedRole_ok (hname : trimSpace spec.name = spec.name)
    (h : (seedRole tenantID now id spec).run s = (.ok r, s')) :
    r.name = spec.name ∧ ∃ t, s' = { s with roles := t } ∧ (∀ q ∈ s.roles, q ∈ t) ∧
      LiveRole t tenantID spec.name r.id := by
  obtain ⟨found, s₁, hf, h₁⟩ := bind_eq_ok.mp h
  obtain ⟨hqu, rfl⟩ := attempt_query_eq_ok.mp hf
  cases found with
  | ok existing =>
    obtain ⟨rfl, rfl⟩ := pure_eq_ok.mp h₁
    obtain ⟨hm, hk⟩ := mem_of_find? (orNotFound_ok hqu)
    have hk : (existing.tenantID = tenantID ∧ existing.name = spec.name) ∧
        existing.deleted = false := by simpa using hk
    exact ⟨hk.1.2, _, rfl, fun q hq => hq, existing, hm, rfl, hk.1.1, hk.1.2, hk.2⟩
  | error e =>
    dsimp only at h₁
    split at h₁
    · obtain ⟨r₀, s₂, hdr, h₂⟩ := bind_eq_ok.mp h₁
      obtain ⟨hb, rfl⟩ := ofExcept_eq_ok.mp hdr
      obtain ⟨_, s₃, ha, h₃⟩ := bind_eq_ok.mp h₂
      obtain ⟨rfl, rfl⟩ := pure_eq_ok.mp h₃
      obtain ⟨t, ht, rfl⟩ := orRefused_ok (write_eq_ok.mp ha)
      obtain ⟨hte, hr, hd⟩ := buildRole_ok hb
      rw [hname] at hr
      exact ⟨hr, t, rfl, fun q hq => (mem_insert ht).mpr (.inl hq), _,
        (mem_insert ht).mpr (.inr rfl), rfl, hte, hr, hd⟩
    · exact absurd h₁ fail_ne_ok

theorem seedRoles_ok {sp : List RoleSpec} {n : Nat} {rs : List Role}
    (hn : ∀ spec ∈ sp, trimSpace spec.name = spec.name)
    (h : (seedRoles tenantID now roleID sp n).run s = (.ok rs, s')) :
    ∃ t, s' = { s with roles := t } ∧ (∀ q ∈ s.roles, q ∈ t) ∧
      (∀ spec ∈ sp, ∃ id, LiveRole t tenantID spec.name id) ∧
      ∀ r ∈ rs, LiveRole t tenantID r.name r.id := by
  induction sp generalizing s n rs with
  | nil =>
    obtain ⟨rfl, rfl⟩ := pure_eq_ok.mp h
    exact ⟨s.roles, rfl, fun q hq => hq, by simp, by simp⟩
  | cons spec sp ih =>
    obtain ⟨r, s₁, hr, h₁⟩ := bind_eq_ok.mp h
    obtain ⟨rest, s₂, hre, h₂⟩ := bind_eq_ok.mp h₁
    obtain ⟨rfl, rfl⟩ := pure_eq_ok.mp h₂
    obtain ⟨hname, t, rfl, hk, hl⟩ := seedRole_ok (hn spec (mem_cons_self ..)) hr
    obtain ⟨t', rfl, hk', hsp, hro⟩ := ih (fun spec hs => hn spec (mem_cons_of_mem _ hs)) hre
    have hm : ∀ {name id}, LiveRole t tenantID name id → LiveRole t' tenantID name id :=
      fun ⟨q, hq, hke⟩ => ⟨q, hk' q hq, hke⟩
    refine ⟨t', rfl, fun q hq => hk' q (hk q hq), ?_, ?_⟩
    · intro spec' hs
      rcases mem_cons.mp hs with rfl | hs
      · exact ⟨r.id, hm hl⟩
      · exact hsp spec' hs
    · intro r' hr'
      rcases mem_cons.mp hr' with rfl | hr'
      · rw [hname]
        exact hm hl
      · exact hro r' hr'

theorem defaultRoleCatalog_trimmed :
    ∀ spec ∈ defaultRoleCatalog, trimSpace spec.name = spec.name := by
  decide +kernel

theorem assignRole_ok {role : String} (h : (updateByID tenantID id
    (Membership.opFn fun m => m.assignRole role now)).run s = (.ok (), s')) :
    ∃ st ∈ s.memberships, st.row.id = id ∧ ∃ ms, s' = { s with memberships := ms } ∧
      ∃ st' ∈ ms, st'.row.personID = st.row.personID ∧ st'.row.tenantID = st.row.tenantID ∧
        st'.row.status = st.row.status ∧ role ∈ st'.roleIDs := by
  rcases updateByID_ok h with
    ⟨-, m, hfn⟩ | ⟨st, st', ms, hf, hal, hu, rfl⟩
  · unfold Membership.opFn at hfn
    split at hfn <;> cases hfn
  obtain ⟨hst, hk⟩ := mem_of_find? hf
  have hid : st.row.id = id := by
    have hb : st.row.id = id ∧ st.row.tenantID = tenantID := by simpa using hk
    exact hb.1
  refine ⟨st, hst, hid, ms, rfl, st', ?_, ?_⟩
  · refine (mem_update hu).mpr ⟨st, hst, ?_⟩
    rw [if_pos (by simpa using hid)]
  obtain ⟨m, hl, hop, hp⟩ := Membership.alone_opFn hal
  obtain ⟨-, -, -, -, hs, -⟩ := Membership.loadMembership_eq hl
  obtain ⟨hrow, hr, -⟩ := Membership.persist_eq hp
  -- The operation did not fail, so the role is there, and it writes nothing else.
  have ha : (m.assignRole role now).1.status = m.status ∧
      role ∈ (m.assignRole role now).1.roleAssignments := by
    unfold Membership.assignRole at hop ⊢
    split at hop
    · exact absurd hop (by simp [Membership.fail])
    rename_i he
    rw [if_neg he]
    split
    · exact ⟨rfl, by assumption⟩
    · exact ⟨rfl, mem_append_right _ (mem_singleton_self role)⟩
  rw [hrow, hr]
  exact ⟨rfl, rfl, ha.1.trans hs, (mem_insertionSort _).mpr ha.2⟩

end Seeding

/-! ## A registration in two parts -/

def registerAggregates (cmd : RegisterTenantCommand) (d : RegisterDraws) :
    Effect Store RegisterError RegisterTenantResult := do
  let pwd ← .ofExcept (hashAdminPassword d.rawHash)
  match ← (PersonRepository.getByEmail cmd.adminEmail).attempt with
  | .ok existing => do
    assertNoActiveMembership existing.id
    persistAggregatesInTx cmd (some existing) pwd d
  | .error e =>
    if e.is Person.errNotFound then persistAggregatesInTx cmd none pwd d
    else .fail (.other "register tenant: lookup person" e)

inductive FailurePoint where
  | beforeTransaction
  | inTransaction
  | seeding (n : Nat)
  | assigned
  deriving DecidableEq

def registerUntil (cmd : RegisterTenantCommand) (d : RegisterDraws) :
    FailurePoint → Effect Store RegisterError Unit
  -- The steps before the transaction only read.
  | .beforeTransaction => pure ()
  | .inTransaction => .atomic do
      let _ ← registerAggregates cmd d
      .fail (.other "register tenant" (.foreign ""))
  | .seeding n => do
      let r ← registerAggregates cmd d
      let _ ← (seedRoles r.tenantID d.now d.roleID (defaultRoleCatalog.take n) 0).mapError
        (.other "register tenant: seed default roles")
      pure ()
  | .assigned => do
      let _ ← registerTenant cmd d
      pure ()

def Registered (cmd : RegisterTenantCommand) (s : Store) : Prop :=
  ∃ t, (s.tenants.rows.filter fun u => u.slug == cmd.slug) = [t] ∧
    (∃ p ∈ s.persons, p.email = cmd.adminEmail ∧
      ∃ st ∈ s.memberships, st.row.personID = p.id ∧ st.row.tenantID = t.id ∧
        st.row.status = .active ∧ ∃ id ∈ st.roleIDs, LiveRole s.roles t.id companyOwner id) ∧
    ∀ spec ∈ defaultRoleCatalog,
      (s.roles.rows.filter fun r =>
        r.tenantID == t.id && r.name == spec.name && !r.deleted).length = 1

def Succeeds (s : Store) (cmd : RegisterTenantCommand) (d : RegisterDraws) : Prop :=
  ∃ r s', (registerTenant cmd d).run s = (.ok r, s')

def Recovers (s : Store) (cmd : RegisterTenantCommand) (d₁ d₂ : RegisterDraws) (p : FailurePoint) :
    Prop :=
  ∃ r s', (registerTenant cmd d₂).run ((registerUntil cmd d₁ p).run s).2 = (.ok r, s') ∧
    Registered cmd s'

section Recovery

variable {s s' : Store} {cmd : RegisterTenantCommand} {d : RegisterDraws}

theorem registerTenant_eq (cmd : RegisterTenantCommand) (d : RegisterDraws) : registerTenant cmd d =
    registerAggregates cmd d >>= fun r => seedRolesAndAssignOwner r d >>= fun _ => pure r := by
  unfold registerTenant registerAggregates
  rw [bind_assoc]
  congr 1
  funext pwd
  rw [bind_assoc]
  congr 1
  funext found
  cases found with
  | ok existing => exact (bind_assoc _ _ _).symm
  | error e =>
    dsimp only
    split
    · rfl
    · rfl

def Store.Claimed (s : Store) (email : String) : Prop :=
  ∃ p ∈ s.persons, p.email = email ∧
    ∃ st ∈ s.memberships, st.row.personID = p.id ∧ st.row.status = .active

variable {r : RegisterTenantResult}

theorem registerAggregates_ok (h : (registerAggregates cmd d).run s = (.ok r, s')) :
    ∃ existing t st, Onboarded cmd existing s s' r t st ∧
    ∃ p ∈ s'.persons, st.row.personID = p.id ∧ p.email = cmd.adminEmail := by
  obtain ⟨pwd, s₁, hpw, h₁⟩ := bind_eq_ok.mp h
  obtain ⟨-, rfl⟩ := ofExcept_eq_ok.mp hpw
  obtain ⟨found, s₂, hf, h₂⟩ := bind_eq_ok.mp h₁
  obtain ⟨hqu, rfl⟩ := attempt_query_eq_ok.mp hf
  cases found with
  | ok p =>
    obtain ⟨_, s₃, hfr, h₃⟩ := bind_eq_ok.mp h₂
    have hs : s₃ = s₂ := by
      have hk := keeps_assertNoActiveMembership (I := fun u => u = s₂) p.id s₂ rfl
      rw [hfr] at hk
      exact hk
    subst hs
    obtain ⟨t, st, hn⟩ := persistAggregatesInTx_ok h₃
    refine ⟨some p, t, st, hn, ?_⟩
    rcases hn.person with ⟨q, hq, hid, hpe⟩ | hp
    · cases hq
      obtain ⟨hm, he⟩ := mem_of_find? (orNotFound_ok hqu)
      exact ⟨p, hpe ▸ hm, hid, by simpa using he⟩
    · exact hp
  | error e =>
    dsimp only at h₂
    split at h₂
    · obtain ⟨t, st, hn⟩ := persistAggregatesInTx_ok h₂
      refine ⟨none, t, st, hn, ?_⟩
      rcases hn.person with ⟨q, hq, -⟩ | hp
      · cases hq
      · exact hp
    · exact absurd h₂ fail_ne_ok

theorem registerTenant_registered (h : (registerTenant cmd d).run s = (.ok r, s')) :
    Registered cmd s' := by
  rw [registerTenant_eq] at h
  obtain ⟨r₁, s₁, hag, h₁⟩ := bind_eq_ok.mp h
  obtain ⟨_, s₂, hse, h₂⟩ := bind_eq_ok.mp h₁
  obtain ⟨rfl, rfl⟩ := pure_eq_ok.mp h₂
  obtain ⟨existing, t, st, hn, p, hp, hpe, he⟩ := registerAggregates_ok hag
  obtain ⟨roles, s₃, hr, h₃⟩ := bind_eq_ok.mp hse
  have hr := mapError_eq_ok.mp hr
  unfold applyDefaultRoles at hr
  split at hr
  · exact absurd hr fail_ne_ok
  obtain ⟨live, rfl, -, hsp, hre⟩ := seedRoles_ok defaultRoleCatalog_trimmed hr
  split at h₃
  · exact absurd h₃ fail_ne_ok
  rename_i owner how
  have ho : owner.name = companyOwner := by simpa using List.find?_some how
  obtain ⟨st₁, hst₁, hid, ms, rfl, st₂, hst₂, hpe₂, ht₂, hs₂, hro₂⟩ :=
    assignRole_ok (mapError_eq_ok.mp h₃)
  -- The membership that was assigned the role is the one the transaction inserted.
  obtain rfl : st₁ = st := eq_of_clash hst₁
    ((mem_insert hn.memberships).mpr (.inr rfl)) (.inl (hid.trans hn.membershipID.symm))
  have hl := hre owner (mem_of_find?_eq_some how)
  rw [ho, ← hn.tenantID] at hl
  refine ⟨t, ?_, ⟨p, hp, he, st₂, hst₂, hpe₂.trans hpe, ?_, ?_, owner.id, hro₂, hl⟩, ?_⟩
  · refine filter_eq_of_mem ?_ ((mem_insert hn.tenants).mpr (.inr rfl)) (by simpa using hn.slug)
    intro a b ha hb
    exact .inr ((beq_iff_eq.mp ha).trans (beq_iff_eq.mp hb).symm)
  · rw [ht₂, hn.inTenant, hn.tenantID]
  · rw [hs₂, hn.active]
  · intro spec hsc
    obtain ⟨id, q, hq, -, ht, hname, hd⟩ := hsp spec hsc
    rw [filter_eq_of_mem (r := q) ?_ hq ?_]
    · rfl
    · intro a b ha hb
      have ha : (a.tenantID = t.id ∧ a.name = spec.name) ∧ a.deleted = false := by simpa using ha
      have hb : (b.tenantID = t.id ∧ b.name = spec.name) ∧ b.deleted = false := by simpa using hb
      exact .inr ⟨ha.1.1.trans hb.1.1.symm, ha.1.2.trans hb.1.2.symm, ha.2, hb.2⟩
    · simp [ht, hname, hd, hn.tenantID]

theorem assertNoActiveMembership_claimed {p : Person} {st : Membership.StoredMembership}
    (hst : st ∈ s.memberships) (hp : st.row.personID = p.id) (ha : st.row.status = .active) :
    ∃ e, (assertNoActiveMembership p.id).run s = (.error e, s) := by
  have hq : ∃ x, (getActiveForPerson p.id).run s = (x, s) ∧
      ∀ e, x = .error e → e.is Membership.errNotFound = false := by
    refine ⟨_, rfl, fun e he => ?_⟩
    dsimp only [getActiveForPerson, query] at he
    split at he
    · rename_i hnone
      have hm := List.find?_eq_none.mp hnone st hst
      exact absurd hm (by simp [hp, ha])
    · unfold hydrate at he
      split at he
      · cases he
      · obtain rfl := Except.error.inj he
        rfl
  obtain ⟨x, hx, her⟩ := hq
  unfold assertNoActiveMembership
  rw [bind_ok (attempt_eq_ok.mpr hx)]
  cases x with
  | ok m => exact ⟨_, rfl⟩
  | error e =>
    dsimp only
    rw [her e rfl]
    exact ⟨_, rfl⟩

theorem registerTenant_claimed (h : s.Claimed cmd.adminEmail) :
    ∃ e, (registerTenant cmd d).run s = (.error e, s) := by
  obtain ⟨p, hp, he, st, hst, hpe, hac⟩ := h
  have hf : (s.persons.find? fun q => q.email == cmd.adminEmail) = some p := by
    refine Table.find?_eq_of_mem (fun a b ha hb => ?_) hp (by simpa using he)
    exact .inr ((beq_iff_eq.mp ha).trans (beq_iff_eq.mp hb).symm)
  have hq : (PersonRepository.getByEmail cmd.adminEmail).run s = (.ok p, s) := by
    refine query_eq_ok.mpr ⟨?_, rfl⟩
    rw [hf]
    rfl
  obtain ⟨e, hr⟩ := assertNoActiveMembership_claimed hst hpe hac
  unfold registerTenant
  rcases hpw : hashAdminPassword d.rawHash with e' | pwd
  · exact ⟨e', bind_error (ofExcept_apply _ s)⟩
  · refine ⟨e, ?_⟩
    rw [bind_ok (ofExcept_eq_ok.mpr ⟨rfl, rfl⟩), bind_ok (attempt_eq_ok.mpr hq)]
    exact bind_error hr

theorem Registered.claimed (h : Registered cmd s) : s.Claimed cmd.adminEmail := by
  obtain ⟨t, -, ⟨p, hp, he, st, hst, hpe, -, ha, -⟩, -⟩ := h
  exact ⟨p, hp, he, st, hst, hpe, ha⟩

theorem claimed_seedRoles (email tenantID : String) (now : Time) (roleID : Nat → String)
    (sp : List RoleSpec) (n : Nat) :
    Keeps (fun u => u.Claimed email) (seedRoles tenantID now roleID sp n) := by
  refine keeps_seedRoles (fun r => keeps_write fun u u' hu h => ?_) _ _ _ _ _
  obtain ⟨t, -, rfl⟩ := orRefused_ok h
  exact hu

variable {p : FailurePoint}

theorem registerUntil_claimed (h : Succeeds s cmd d)
    (hp : p ≠ .beforeTransaction ∧ p ≠ .inTransaction) :
    ((registerUntil cmd d p).run s).2.Claimed cmd.adminEmail := by
  obtain ⟨r, s', hr⟩ := h
  cases p with
  | beforeTransaction => exact absurd rfl hp.1
  | inTransaction => exact absurd rfl hp.2
  | seeding n =>
    have hpa := hr
    rw [registerTenant_eq] at hpa
    obtain ⟨r₁, s₁, ha, -⟩ := bind_eq_ok.mp hpa
    obtain ⟨existing, t, st, hn, q, hq, hpe, he⟩ := registerAggregates_ok ha
    have hc : s₁.Claimed cmd.adminEmail :=
      ⟨q, hq, he, st, (mem_insert hn.memberships).mpr (.inr rfl), hpe, hn.active⟩
    unfold registerUntil
    rw [bind_ok ha]
    exact Keeps.bind ((claimed_seedRoles _ _ _ _ _ _).mapError _) (fun _ => keeps_pure _) s₁ hc
  | assigned =>
    unfold registerUntil
    rw [bind_ok hr]
    exact (registerTenant_registered hr).claimed

theorem registerUntil_uncommitted (hp : p = .beforeTransaction ∨ p = .inTransaction) :
    ((registerUntil cmd d p).run s).2 = s := by
  rcases hp with rfl | rfl
  · rfl
  · refine Keeps.atomic (I := fun u => u = s) (fun u a u' hu hr => ?_) s rfl
    obtain ⟨_, u₁, -, hf⟩ := bind_eq_ok.mp hr
    exact absurd hf fail_ne_ok

end Recovery

theorem recovers_iff (s : Store) (cmd : RegisterTenantCommand) (d₁ d₂ : RegisterDraws)
    (h₁ : Succeeds s cmd d₁) (h₂ : Succeeds s cmd d₂) (p : FailurePoint) :
    Recovers s cmd d₁ d₂ p ↔ p = .beforeTransaction ∨ p = .inTransaction := by
  constructor
  · rintro ⟨r, s', hr, -⟩
    by_contra hp
    obtain ⟨e, hf⟩ := registerTenant_claimed (d := d₂) (registerUntil_claimed h₁ (not_or.mp hp))
    exact absurd (hf.symm.trans hr) (by simp)
  · intro hp
    obtain ⟨r, s', hr⟩ := h₂
    refine ⟨r, s', ?_, registerTenant_registered hr⟩
    rw [registerUntil_uncommitted hp]
    exact hr

def onboarding : RegisterTenantCommand :=
  { slug := "acme", legalName := "Acme", displayName := "Acme", adminEmail := "ann@example.com"
    adminPassword := "secret password", adminFirstName := "Ann", adminLastName := "Roe" }

def onboardingDraws (n : Nat) : RegisterDraws :=
  let tag := toString n
  { rawHash := .ok sampleHash, now := n + 1, tenantID := "t" ++ tag, personID := "p" ++ tag
    stamp := "stamp-" ++ tag, membershipID := "m" ++ tag
    roleID := fun k => "role-" ++ tag ++ "-" ++ toString k }

theorem onboarding_succeeds : ∀ n < 2, Succeeds {} onboarding (onboardingDraws n) := by
  have hok : ∀ n < 2, ((registerTenant onboarding (onboardingDraws n)).run {}).1.isOk = true := by
    decide +kernel
  intro n hn
  rcases hr : (registerTenant onboarding (onboardingDraws n)).run {} with ⟨e | r, s'⟩
  · have hf := hok n hn
    rw [hr] at hf
    exact absurd hf (by simp [Except.isOk, Except.toBool])
  · exact ⟨r, s', hr⟩

theorem recovers_in_transaction :
    Succeeds {} onboarding (onboardingDraws 0) ∧ Succeeds {} onboarding (onboardingDraws 1) ∧
    Recovers {} onboarding (onboardingDraws 0) (onboardingDraws 1) .inTransaction := by
  have hf := onboarding_succeeds 0 (by decide)
  have hs := onboarding_succeeds 1 (by decide)
  exact ⟨hf, hs, (recovers_iff {} onboarding _ _ hf hs .inTransaction).mpr (.inr rfl)⟩

theorem no_recovery_after_commit :
    ∃ s, ((registerUntil onboarding (onboardingDraws 0) (.seeding 0)).run {}).2 = s ∧
    Succeeds {} onboarding (onboardingDraws 0) ∧ Succeeds {} onboarding (onboardingDraws 1) ∧
    s.tenants.rows.map Tenant.slug = ["acme"] ∧ s.roles.rows = [] ∧
    ((registerTenant onboarding (onboardingDraws 1)).run s).1 = .error .emailHasActiveMembership ∧
    ¬ Recovers {} onboarding (onboardingDraws 0) (onboardingDraws 1) (.seeding 0) := by
  have hf : ∃ s, ((registerUntil onboarding (onboardingDraws 0) (.seeding 0)).run {}).2 = s ∧
      s.tenants.rows.map Tenant.slug = ["acme"] ∧ s.roles.rows = [] ∧
      ((registerTenant onboarding (onboardingDraws 1)).run s).1 =
        .error .emailHasActiveMembership := ⟨_, rfl, by decide +kernel⟩
  obtain ⟨s, hl, ht, hro, hr⟩ := hf
  refine ⟨s, hl, onboarding_succeeds 0 (by decide), onboarding_succeeds 1 (by decide), ht,
    hro, hr, ?_⟩
  rintro ⟨r, s', hru, -⟩
  rw [hl] at hru
  rw [hru] at hr
  cases hr

end Leadkart
