import Leadkart.Identity.Store

/-!
# Signing in: login and refresh
-/

namespace Leadkart

open Table MembershipRepository RefreshTokenFamilyRepository RefreshToken

inductive VerifyError where
  | mismatch
  | format
  | other

structure Crypto where
  verify : String → String → Option VerifyError
  hashOf : String → String

structure Crypto.Sound (c : Crypto) : Prop where
  minLen : ∀ x, hashMinLen ≤ (c.hashOf x).utf8ByteSize
  maxLen : ∀ x, (c.hashOf x).utf8ByteSize ≤ hashMaxLen
  differ : ∃ x y, c.hashOf x ≠ c.hashOf y

structure Draws where
  now : Nat → Time
  plain : Option String
  familyID : String := ""
  tokenID : String

structure MintPair where
  plaintext : String
  hash : TokenHash

def mint (c : Crypto) (plain : Option String) : Except Err MintPair :=
  match plain with
  | none => .error (.foreign "refreshmint: rand")
  | some plaintext =>
    match newTokenHash (c.hashOf plaintext) with
    | .error e => .error e
    | .ok hash => .ok ⟨plaintext, hash⟩

structure IssueArgs where
  (personID tenantID tenantSlug membershipID securityStamp : String)
  (isPlatform isSuperUser : Bool)
  permissions : List String
  deriving DecidableEq

structure Claims extends IssueArgs where
  (issuedAt expiresAt : Time)
  deriving DecidableEq

def accessTokenTTL : Duration := 10 * minute

def issue (args : IssueArgs) (now : Time) : Except Err Claims :=
  if args.personID = "" then .error (.foreign "jwt: PersonID required")
  else .ok { args with issuedAt := now, expiresAt := now + accessTokenTTL }

structure AuthClaims where
  permissions : List Permission
  isSuperUser : Bool

def resolveAuth (m : Membership) (now : Time) : Repo AuthClaims := do
  let roles ← RoleRepository.getByIDs m.tenantID m.roleAssignments
  pure { permissions := m.effectivePermissions roles now
         isSuperUser := roles.any Role.isSuperAdmin }

def issueArgs (p : Person) (tn : Tenant) (m : Membership) (auth : AuthClaims) : IssueArgs :=
  { personID := p.id
    tenantID := tn.id
    tenantSlug := tn.slug
    membershipID := m.id
    securityStamp := p.securityStamp
    isPlatform := tn.slug == Tenant.platformSlug
    isSuperUser := auth.isSuperUser
    permissions := Membership.permissionNames auth.permissions }

structure TokenPair where
  accessToken : Claims
  refreshTokenPlain : String
  accessTokenExpiresAt : Time
  (personID tenantID membershipID : String)

structure LoginCommand where
  (email password deviceLabel : String)

structure LoginResult extends TokenPair where
  mustChangePassword : Bool

inductive LoginError where
  | invalidCredentials
  | accountLocked (lockedUntil : Time)
  | other (context : String) (err : Err)

def registerFailedLoginBestEffort (p : Person) (now : Time) : Effect Store LoginError Person := do
  let p := p.registerFailedLogin now
  (PersonRepository.updateLockoutState p).ignore
  pure p

def registerSuccessfulLoginBestEffort (p : Person) (now : Time) :
    Effect Store LoginError Person := do
  let p := p.registerSuccessfulLogin now
  (PersonRepository.updateLockoutState p).ignore
  pure p

def resolveAndVerify (c : Crypto) (cmd : LoginCommand) (now : Nat → Time) :
    Effect Store LoginError (Person × Membership) := do
  match ← (AuthRouter.resolveByEmail cmd.email).attempt with
  | .error e =>
    if e.is Person.errNotFound then .fail .invalidCredentials
    else .fail (.other "login: resolve auth routing" e)
  | .ok (p, membership) =>
    -- The lockout gate comes before the password.
    if p.isLocked (now 0) then .fail (.accountLocked p.lockedUntil)
    else if !p.isActive || p.isAnonymised then .fail .invalidCredentials
    else
      match membership, c.verify cmd.password p.passwordHash with
      | none, none => .fail .invalidCredentials
      | none, some _ => do
        let _ ← registerFailedLoginBestEffort p (now 1)
        .fail .invalidCredentials
      | some _, some .other => .fail (.other "login: verify password" (.foreign ""))
      | some _, some _ => do
        let p ← registerFailedLoginBestEffort p (now 1)
        if p.isLocked (now 2) then .fail (.accountLocked p.lockedUntil)
        else .fail .invalidCredentials
      | some m, none => do
        let p ← registerSuccessfulLoginBestEffort p (now 1)
        pure (p, m)

def openFamily (c : Crypto) (ttl : Duration) (deviceLabel : String) (p : Person) (tn : Tenant)
    (d : Draws) : Effect Store LoginError MintPair := do
  let pair ← (Effect.ofExcept (mint c d.plain)).mapError (.other "login: mint refresh")
  let family ← (Effect.ofExcept (Family.new d.familyID p.id tn.id deviceLabel pair.hash
    ttl (d.now 3) d.tokenID)).mapError (.other "login: construct family")
  (add family).mapError (.other "login: persist family")
  pure pair

/-- What `login` does once the password is verified. -/
def finishLogin (c : Crypto) (ttl : Duration) (cmd : LoginCommand) (p : Person) (m : Membership)
    (d : Draws) : Effect Store LoginError LoginResult := do
  let tn ← (TenantRepository.getByID m.tenantID).mapError (.other "login: resolve tenant")
  let pair ← openFamily c ttl cmd.deviceLabel p tn d
  let auth ← (resolveAuth m (d.now 4)).mapError (.other "login: resolve permissions")
  let access ← (Effect.ofExcept (issue (issueArgs p tn m auth) (d.now 5))).mapError
    (.other "login: issue jwt")
  pure { accessToken := access
         refreshTokenPlain := pair.plaintext
         accessTokenExpiresAt := d.now 6 + accessTokenTTL
         personID := p.id, tenantID := tn.id, membershipID := m.id
         mustChangePassword := p.mustChangePassword }

def login (c : Crypto) (ttl : Duration) (cmd : LoginCommand) (d : Draws) :
    Effect Store LoginError LoginResult := do
  let (p, m) ← resolveAndVerify c cmd d.now
  finishLogin c ttl cmd p m d

structure RefreshCommand where
  refreshTokenPlain : String

inductive RefreshError where
  | rejected
  | other (context : String) (err : Err)

def rejectRevoking {α : Type} (familyID reason : String) (now : Time) :
    Effect Store RefreshError α := do
  (updateByID familyID (revokeFn reason now)).ignore
  .fail .rejected

def rotateFamily (ttl : Duration) (presentedHash : TokenHash) (pair : MintPair)
    (family : Family) (now : Time) (tokenID : String) :
    Effect Store RefreshError Unit := do
  (updateByID family.id
    (rotateFn presentedHash pair.hash ttl now tokenID)).mapError
      (.other "refresh: persist rotation")
  match (family.rotate presentedHash pair.hash ttl now tokenID).2 with
  | some _ => .fail .rejected
  | none => pure ()

def reissue (family : Family) (pair : MintPair) (d : Draws) :
    Effect Store RefreshError TokenPair := do
  let p ← (PersonRepository.getByID family.personID).mapError (.other "refresh: resolve person")
  if !p.isActive || p.isAnonymised then
    rejectRevoking family.id "person-no-longer-active" (d.now 0)
  else
    let tn ← (TenantRepository.getByID family.tenantID).mapError (.other "refresh: resolve tenant")
    match ← (getActiveForPerson p.id).attempt with
    | .error _ => rejectRevoking family.id "no-active-membership" (d.now 0)
    | .ok m =>
      if m.tenantID ≠ tn.id then
        rejectRevoking family.id "active-membership-changed-tenant" (d.now 0)
      else
        let auth ← (resolveAuth m (d.now 1)).mapError (.other "refresh: resolve permissions")
        let access ← (Effect.ofExcept (issue (issueArgs p tn m auth) (d.now 2))).mapError
          (.other "refresh: issue jwt")
        pure { accessToken := access
               refreshTokenPlain := pair.plaintext
               accessTokenExpiresAt := d.now 0 + accessTokenTTL
               personID := p.id, tenantID := tn.id, membershipID := m.id }

def refresh (c : Crypto) (ttl : Duration) (cmd : RefreshCommand) (d : Draws) :
    Effect Store RefreshError TokenPair := do
  match newTokenHash (c.hashOf cmd.refreshTokenPlain) with
  | .error _ => .fail .rejected
  | .ok presentedHash =>
    match ← (getByTokenHash presentedHash).attempt with
    | .error e =>
      if e.is errNotFound then .fail .rejected
      else .fail (.other "refresh: lookup family" e)
    | .ok family => do
      let pair ← (Effect.ofExcept (mint c d.plain)).mapError (.other "refresh: mint")
      rotateFamily ttl presentedHash pair family (d.now 0) d.tokenID
      reissue family pair d

structure Failure where
  status : Nat
  code : String
  msg : String := ""
  deriving DecidableEq

def errCodeUnauthenticated : String := "unauthenticated"
def errCodeForbidden : String := "forbidden"
def errCodeStaleToken : String := "stale_token"

def requireFreshStamp (isFresh : Except Err Bool) (c : Claims) : Option Failure :=
  if isBlank c.tenantID then some ⟨401, errCodeUnauthenticated, "token missing tenant_id claim"⟩
  else if isBlank c.personID || isBlank c.securityStamp then
    some ⟨401, errCodeUnauthenticated, "token missing sub or security_stamp claim"⟩
  else
    match isFresh with
    | .error _ => some ⟨401, errCodeUnauthenticated, "stamp validation failed"⟩
    | .ok false => some ⟨401, errCodeStaleToken, "session has been revoked"⟩
    | .ok true => none

def requirePlatform (isFresh : Except Err Bool) (c : Claims) : Option Failure :=
  match requireFreshStamp isFresh c with
  | some f => some f
  | none =>
    if !c.isPlatform || c.tenantSlug != Tenant.platformSlug then
      some ⟨403, errCodeForbidden, "platform-tier access required"⟩
    else none

/-! ## What an issued token rests on -/

structure Issued (s : Store) (p : Person) (tn : Tenant) (m : Membership) (access : Claims) :
    Prop where
  person : p ∈ s.persons
  active : p.isActive = true
  notAnonymised : p.isAnonymised = false
  membership : ∃ st ∈ s.memberships, st.row.personID = p.id ∧ st.row.status = .active ∧
    hydrate st = .ok m
  tenant : tn ∈ s.tenants
  inTenant : m.tenantID = tn.id
  personID : access.personID = p.id
  tenantSlug : access.tenantSlug = tn.slug
  isPlatform : access.isPlatform = (tn.slug == Tenant.platformSlug)

open Effect

variable {c : Crypto} {ttl : Duration} {d : Draws} {s s' : Store} {now : Time}

theorem issue_ok {args : IssueArgs} {a : Claims} (h : issue args now = .ok a) :
    a.personID = args.personID ∧ a.tenantSlug = args.tenantSlug ∧
    a.isPlatform = args.isPlatform := by
  unfold issue at h
  split at h
  · cases h
  · cases h
    exact ⟨rfl, rfl, rfl⟩

variable {p : Person}

theorem resolveByEmail_ok {email : String} {o : Option Membership}
    (h : (AuthRouter.resolveByEmail email).run s = (.ok (p, o), s')) :
    s' = s ∧ p ∈ s.persons ∧ p.email = email ∧ ∀ m, o = some m → ∃ st ∈ s.memberships,
    st.row.personID = p.id ∧ st.row.status = .active ∧ hydrate st = .ok m := by
  obtain ⟨h, rfl⟩ := query_eq_ok.mp h
  refine ⟨rfl, ?_⟩
  split at h
  · cases h
  rename_i q hq
  obtain ⟨hme, he⟩ := mem_of_find? hq
  split at h
  · cases h
    exact ⟨hme, by simpa using he, by simp⟩
  rename_i st hst
  split at h
  · cases h
  rename_i m hm
  cases h
  obtain ⟨hsm, hs⟩ := mem_of_find? hst
  rw [Bool.and_eq_true, beq_iff_eq, beq_iff_eq] at hs
  refine ⟨hme, by simpa using he, fun m' hm' => ⟨st, hsm, hs.1, hs.2, ?_⟩⟩
  rw [hm, Option.some.inj hm']

theorem updateLockoutState_store (p : Person) (s : Store) :
    ∃ t, ((PersonRepository.updateLockoutState p).run s).2 = { s with persons := t } := by
  unfold PersonRepository.updateLockoutState Effect.write
  dsimp only
  split
  · rename_i s' h
    obtain ⟨t, -, rfl⟩ := orRefused_ok h
    exact ⟨t, rfl⟩
  · exact ⟨s.persons, rfl⟩

theorem keeps_resolveAndVerify {I : Store → Prop}
    (hI : ∀ p, Keeps I (PersonRepository.updateLockoutState p)) (cmd : LoginCommand)
    (now : Nat → Time) : Keeps I (resolveAndVerify c cmd now) := by
  have hf : ∀ p t, Keeps I (registerFailedLoginBestEffort p t) := fun p t =>
    .bind (hI _).ignore fun _ => keeps_pure _
  have hs : ∀ p t, Keeps I (registerSuccessfulLoginBestEffort p t) := fun p t =>
    .bind (hI _).ignore fun _ => keeps_pure _
  refine .bind (keeps_query _).attempt fun found => ?_
  rcases found with e | ⟨p, o⟩
  · dsimp only
    split <;> exact keeps_fail _
  dsimp only
  split
  · exact keeps_fail _
  split
  · exact keeps_fail _
  split
  · exact keeps_fail _
  · exact .bind (hf _ _) fun _ => keeps_fail _
  · exact keeps_fail _
  · refine .bind (hf _ _) fun q => ?_
    split <;> exact keeps_fail _
  · exact .bind (hs _ _) fun _ => keeps_pure _

variable {cmd : LoginCommand} {m : Membership}

theorem resolveAndVerify_ok {now : Nat → Time}
    (h : (resolveAndVerify c cmd now).run s = (.ok (p, m), s')) :
    ∃ p₀ ∈ s.persons, p₀.email = cmd.email ∧ p₀.isActive = true ∧ p₀.isAnonymised = false ∧
    c.verify cmd.password p₀.passwordHash = none ∧ p = p₀.registerSuccessfulLogin (now 1) ∧
    (∃ st ∈ s.memberships, st.row.personID = p₀.id ∧ st.row.status = .active ∧
    hydrate st = .ok m) ∧ ∃ t, s' = { s with persons := t } := by
  obtain ⟨found, s₁, hfo, hr⟩ := bind_eq_ok.mp h
  rcases found with e | ⟨p₀, o⟩
  · dsimp only at hr
    split at hr <;> exact absurd hr fail_ne_ok
  obtain ⟨rfl, hm, he, hst⟩ := resolveByEmail_ok (attempt_eq_ok.mp hfo)
  dsimp only at hr
  split at hr
  · exact absurd hr fail_ne_ok
  split at hr
  · exact absurd hr fail_ne_ok
  rename_i hl
  rw [Bool.or_eq_true, not_or, Bool.not_eq_true', Bool.not_eq_false, Bool.not_eq_true] at hl
  rcases o with _ | m'
  · rcases hv : c.verify cmd.password p₀.passwordHash with _ | e
    · rw [hv] at hr
      exact absurd hr fail_ne_ok
    · rw [hv] at hr
      obtain ⟨_, _, _, hf⟩ := bind_eq_ok.mp hr
      exact absurd hf fail_ne_ok
  · rcases hv : c.verify cmd.password p₀.passwordHash with _ | e
    · rw [hv] at hr
      obtain ⟨q, s₂, hq, hre⟩ := bind_eq_ok.mp hr
      obtain ⟨hp, rfl⟩ := pure_eq_ok.mp hre
      obtain ⟨rfl, rfl⟩ := Prod.mk.inj hp
      obtain ⟨t, ht⟩ := updateLockoutState_store (p₀.registerSuccessfulLogin (now 1)) s₁
      obtain ⟨hrg, hs₂⟩ := Prod.mk.inj hq
      exact ⟨p₀, hm, he, hl.1, hl.2, hv, (Except.ok.inj hrg).symm, hst m' rfl, t, hs₂.symm.trans ht⟩
    · rw [hv] at hr
      cases e with
      | other => exact absurd hr fail_ne_ok
      | mismatch | format =>
        obtain ⟨_, _, _, hf⟩ := bind_eq_ok.mp hr
        split at hf <;> exact absurd hf fail_ne_ok

theorem login_ok {r : LoginResult} (h : (login c ttl cmd d).run s = (.ok r, s')) :
    ∃ p tn m, p.email = cmd.email ∧ Issued s p tn m r.accessToken := by
  obtain ⟨⟨p, m⟩, s₁, hr, h₁⟩ := bind_eq_ok.mp h
  obtain ⟨p₀, hm, he, ha, han, -, rfl, hst, t, rfl⟩ := resolveAndVerify_ok hr
  unfold finishLogin at h₁
  obtain ⟨tn, s₂, htn, h₂⟩ := bind_eq_ok.mp h₁
  obtain ⟨hf, rfl⟩ := query_eq_ok.mp (mapError_eq_ok.mp htn)
  obtain ⟨htm, ht⟩ := mem_of_find? (orNotFound_ok hf)
  obtain ⟨_, s₃, -, h₃⟩ := bind_eq_ok.mp h₂
  obtain ⟨auth, s₄, -, h₄⟩ := bind_eq_ok.mp h₃
  obtain ⟨access, s₅, hi, h₅⟩ := bind_eq_ok.mp h₄
  obtain ⟨rfl, -⟩ := pure_eq_ok.mp h₅
  obtain ⟨hi, -⟩ := ofExcept_eq_ok.mp (mapError_eq_ok.mp hi)
  obtain ⟨hp, hs, hpl⟩ := issue_ok hi
  exact ⟨p₀, tn, m, he,
    { person := hm, active := ha, notAnonymised := han, membership := hst, tenant := htm
      inTenant := (beq_iff_eq.mp ht).symm
      personID := hp.trans (Person.registerSuccessfulLogin_sameFlags p₀ _).id
      tenantSlug := hs, isPlatform := hpl }⟩

variable {pair : MintPair} {f : Family}

theorem login_of (cmd : LoginCommand) {st : Membership.StoredMembership} {tn : Tenant}
    {ts : Table Stored Stored.Clash}
    (hp : (s.persons.find? fun q => q.email == cmd.email) = some p)
    (hst : (s.memberships.find? fun q => q.row.personID == p.id && q.row.status == .active) =
    some st) (hm : hydrate st = .ok m) (hu : p.isLocked (d.now 0) = false) (ha : p.isActive = true)
    (han : p.isAnonymised = false) (hv : c.verify cmd.password p.passwordHash = none)
    (htn : (s.tenants.find? fun t => t.id == m.tenantID) = some tn)
    (hmi : mint c d.plain = .ok pair)
    (hf : Family.new d.familyID p.id tn.id cmd.deviceLabel pair.hash ttl (d.now 3)
    d.tokenID = .ok f) (had : (insertRows f).bind s.families.insert = some ts) :
    ∃ r s', (login c ttl cmd d).run s = (.ok r, s') ∧ r.accessToken.personID = p.id ∧
    r.accessToken.isPlatform = (tn.slug == Tenant.platformSlug) ∧
    r.accessToken.isSuperUser = (s.roles.rows.filter fun r =>
        r.id ∈ m.roleAssignments && r.tenantID == m.tenantID && !r.deleted).any
    Role.isSuperAdmin := by
  have hr : (AuthRouter.resolveByEmail cmd.email).run s = (.ok (p, some m), s) := by
    refine query_eq_ok.mpr ⟨?_, rfl⟩
    simp only [hp, hst, hm]
  obtain ⟨t, ht⟩ := updateLockoutState_store (p.registerSuccessfulLogin (d.now 1)) s
  have hpa : (resolveAndVerify c cmd d.now).run s =
      (.ok (p.registerSuccessfulLogin (d.now 1), m), { s with persons := t }) := by
    unfold resolveAndVerify
    rw [bind_ok (attempt_eq_ok.mpr hr)]
    simp only [hu, ha, han, hv, Bool.not_true, Bool.or_self]
    refine bind_eq_ok.mpr ⟨_, _, ?_, pure_eq_ok.mpr ⟨rfl, rfl⟩⟩
    exact Prod.ext rfl ht
  have hid : (p.registerSuccessfulLogin (d.now 1)).id = p.id :=
    (Person.registerSuccessfulLogin_sameFlags p _).id
  have hne : p.id ≠ "" := by
    intro he
    rw [he] at hf
    simp only [Family.new] at hf
    split at hf <;> simp at hf
  have hte : (TenantRepository.getByID m.tenantID).run { s with persons := t } =
      (.ok tn, { s with persons := t }) := by
    refine query_eq_ok.mpr ⟨?_, rfl⟩
    rw [htn]
    rfl
  have ho : (openFamily c ttl cmd.deviceLabel (p.registerSuccessfulLogin (d.now 1)) tn d).run
      { s with persons := t } = (.ok pair, { s with persons := t, families := ts }) := by
    unfold openFamily
    rw [bind_ok (mapError_eq_ok.mpr (ofExcept_eq_ok.mpr ⟨hmi, rfl⟩)), hid,
      bind_ok (mapError_eq_ok.mpr (ofExcept_eq_ok.mpr ⟨hf, rfl⟩))]
    refine bind_eq_ok.mpr ⟨(), _, mapError_eq_ok.mpr (write_eq_ok.mpr ?_),
      pure_eq_ok.mpr ⟨rfl, rfl⟩⟩
    rw [had]
    rfl
  have hi : ∀ auth, ∃ access, issue (issueArgs (p.registerSuccessfulLogin (d.now 1)) tn m auth)
      (d.now 5) = .ok access ∧ access.personID = p.id ∧
        access.isPlatform = (tn.slug == Tenant.platformSlug) ∧
        access.isSuperUser = auth.isSuperUser := by
    intro auth
    unfold issue
    rw [if_neg (by rw [← hid] at hne; exact hne)]
    exact ⟨_, rfl, hid, rfl, rfl⟩
  have hau : (resolveAuth m (d.now 4)).run { s with persons := t, families := ts } =
      (.ok _, { s with persons := t, families := ts }) := rfl
  obtain ⟨access, hac, hpe, hpl, hs⟩ := hi _
  unfold login
  rw [bind_ok hpa]
  unfold finishLogin
  rw [bind_ok (mapError_eq_ok.mpr hte), bind_ok ho, bind_ok (mapError_eq_ok.mpr hau),
    bind_ok (mapError_eq_ok.mpr (ofExcept_eq_ok.mpr ⟨hac, rfl⟩))]
  exact ⟨_, _, rfl, hpe, hpl, hs⟩

theorem newTokenHash_ok {raw : String} {h : TokenHash}
    (hr : newTokenHash raw = .ok h) : h = ⟨raw⟩ := by
  unfold newTokenHash at hr
  dsimp only at hr
  iterate 3
    split at hr
    · cases hr
  exact (Except.ok.inj hr).symm

theorem hydrate_family_ok {st : Stored} (h : hydrate st = .ok f) :
    f.id = st.row.id ∧ f.personID = st.row.personID ∧ f.tenantID = st.row.tenantID := by
  unfold RefreshTokenFamilyRepository.hydrate hydrateFamily at h
  split at h
  · cases h
  · cases h
    exact ⟨rfl, rfl, rfl⟩

theorem getByTokenHash_ok {hash : TokenHash}
    (h : (getByTokenHash hash).run s = (.ok f, s')) :
    s' = s ∧ ∃ st ∈ s.families, (∃ r ∈ st.tokens, r.tokenHash = hash.value) ∧
    hydrate st = .ok f := by
  obtain ⟨hf, rfl⟩ := query_eq_ok.mp h
  split at hf
  · cases hf
  rename_i st hst
  obtain ⟨hm, ha⟩ := mem_of_find? hst
  obtain ⟨r, hr, hrh⟩ := List.any_eq_true.mp ha
  exact ⟨rfl, st, hm, ⟨r, hr, beq_iff_eq.mp hrh⟩, hf⟩

theorem rotateFamily_ok {pd : TokenHash} {tD : String}
    (h : (rotateFamily ttl pd pair f now tD).run s = (.ok (), s')) :
    ∃ t, s' = { s with families := t } := by
  obtain ⟨_, s₁, hu, hr⟩ := bind_eq_ok.mp h
  rcases hro : (f.rotate pd pair.hash ttl now tD).2 with _ | e
  swap
  · rw [hro] at hr
    exact absurd hr fail_ne_ok
  rw [hro] at hr
  obtain ⟨-, rfl⟩ := pure_eq_ok.mp hr
  rcases updateByID_ok (mapError_eq_ok.mp hu) with
    ⟨rfl, -⟩ | ⟨-, -, t, -, -, -, rfl⟩
  · exact ⟨s₁.families, rfl⟩
  · exact ⟨t, rfl⟩

variable {r : TokenPair}

theorem rejectRevoking_ne_ok {id reason : String} :
    (rejectRevoking id reason now : Effect Store RefreshError TokenPair).run s ≠ (.ok r, s') := by
  intro h
  obtain ⟨_, _, _, hf⟩ := bind_eq_ok.mp h
  exact fail_ne_ok hf

theorem reissue_ok (h : (reissue f pair d).run s = (.ok r, s')) :
    ∃ p tn m, p.id = f.personID ∧ Issued s p tn m r.accessToken := by
  obtain ⟨p, s₁, hp, h₁⟩ := bind_eq_ok.mp h
  obtain ⟨hf, rfl⟩ := query_eq_ok.mp (mapError_eq_ok.mp hp)
  obtain ⟨hpm, hpi⟩ := mem_of_find? (orNotFound_ok hf)
  split at h₁
  · exact absurd h₁ rejectRevoking_ne_ok
  rename_i hl
  rw [Bool.or_eq_true, not_or, Bool.not_eq_true', Bool.not_eq_false, Bool.not_eq_true] at hl
  obtain ⟨tn, s₂, htn, h₂⟩ := bind_eq_ok.mp h₁
  obtain ⟨hf, rfl⟩ := query_eq_ok.mp (mapError_eq_ok.mp htn)
  obtain ⟨htm, -⟩ := mem_of_find? (orNotFound_ok hf)
  obtain ⟨active, s₃, ha, h₃⟩ := bind_eq_ok.mp h₂
  rcases active with e | m
  · exact absurd h₃ rejectRevoking_ne_ok
  dsimp only at h₃
  split at h₃
  · exact absurd h₃ rejectRevoking_ne_ok
  rename_i ht
  obtain ⟨hm, rfl⟩ := query_eq_ok.mp (attempt_eq_ok.mp ha)
  split at hm
  · cases hm
  rename_i st hst
  obtain ⟨hsm, hsp⟩ := mem_of_find? hst
  rw [Bool.and_eq_true, beq_iff_eq, beq_iff_eq] at hsp
  obtain ⟨auth, s₄, -, h₄⟩ := bind_eq_ok.mp h₃
  obtain ⟨access, s₅, hi, h₅⟩ := bind_eq_ok.mp h₄
  obtain ⟨rfl, -⟩ := pure_eq_ok.mp h₅
  obtain ⟨hi, -⟩ := ofExcept_eq_ok.mp (mapError_eq_ok.mp hi)
  obtain ⟨hpi', hs, hpl⟩ := issue_ok hi
  exact ⟨p, tn, m, beq_iff_eq.mp hpi,
    { person := hpm, active := hl.1, notAnonymised := hl.2
      membership := ⟨st, hsm, hsp.1, hsp.2, hm⟩
      tenant := htm, inTenant := not_not.mp ht
      personID := hpi', tenantSlug := hs, isPlatform := hpl }⟩

theorem refresh_ok {cmd : RefreshCommand} (h : (refresh c ttl cmd d).run s = (.ok r, s')) :
    ∃ st ∈ s.families, (∃ row ∈ st.tokens, row.tokenHash = c.hashOf cmd.refreshTokenPlain) ∧
    ∃ p tn m, p.id = st.row.personID ∧ Issued s p tn m r.accessToken := by
  unfold refresh at h
  rcases hpr : newTokenHash (c.hashOf cmd.refreshTokenPlain) with e | presented
  · rw [hpr] at h
    exact absurd h fail_ne_ok
  rw [hpr] at h
  obtain rfl := newTokenHash_ok hpr
  obtain ⟨found, s₁, hfo, hr⟩ := bind_eq_ok.mp h
  rcases found with e | f
  · dsimp only at hr
    split at hr <;> exact absurd hr fail_ne_ok
  obtain ⟨rfl, st, hst, ht, hf⟩ := getByTokenHash_ok (attempt_eq_ok.mp hfo)
  obtain ⟨pair, s₂, hm, h₂⟩ := bind_eq_ok.mp hr
  obtain ⟨-, rfl⟩ := ofExcept_eq_ok.mp (mapError_eq_ok.mp hm)
  obtain ⟨_, s₃, hro, h₃⟩ := bind_eq_ok.mp h₂
  obtain ⟨t, rfl⟩ := rotateFamily_ok hro
  obtain ⟨p, tn, m, hp, hi⟩ := reissue_ok h₃
  refine ⟨st, hst, ht, p, tn, m, hp.trans (hydrate_family_ok hf).2.1, ?_⟩
  exact { hi with }

end Leadkart
