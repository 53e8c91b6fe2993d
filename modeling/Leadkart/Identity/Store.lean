import Leadkart.Logic.Effect
import Leadkart.Logic.Table
import Leadkart.Identity.MembershipRepository
import Leadkart.Identity.Person
import Leadkart.Identity.RefreshTokenRepository
import Leadkart.Identity.Tenant

/-!
# The identity schema
-/

namespace Leadkart

open Effect
open Leadkart.Membership (StoredMembership)

/-! ## Unique indexes -/

def Person.errNotFound : Sentinel := ⟨.notFound, "person", "person not found"⟩
def Person.errEmailTaken : Sentinel := ⟨.alreadyExists, "person", "email already taken"⟩
def Tenant.errNotFound : Sentinel := ⟨.notFound, "tenant", "tenant not found"⟩
def Tenant.errSlugTaken : Sentinel := ⟨.alreadyExists, "tenant", "slug already taken"⟩
def Role.errNotFound : Sentinel := ⟨.notFound, "role", "role not found"⟩
def Role.errNameTaken : Sentinel :=
  ⟨.alreadyExists, "role", "role name already taken in this tenant"⟩

def Person.Clash (p q : Person) : Prop := p.id = q.id ∨ p.email = q.email

def Tenant.Clash (t u : Tenant) : Prop := t.id = u.id ∨ t.slug = u.slug

def Membership.StoredMembership.BothActive (a b : StoredMembership) : Prop :=
  a.row.personID = b.row.personID ∧ a.row.status = .active ∧ b.row.status = .active

def Membership.StoredMembership.Clash (a b : StoredMembership) : Prop :=
  a.row.id = b.row.id ∨
    (a.row.personID = b.row.personID ∧ a.row.tenantID = b.row.tenantID) ∨ a.BothActive b

def Role.Clash (r q : Role) : Prop :=
  r.id = q.id ∨
    (r.tenantID = q.tenantID ∧ r.name = q.name ∧ r.deleted = false ∧ q.deleted = false)

def RefreshToken.Stored.Clash (a b : RefreshToken.Stored) : Prop :=
  a.row.id = b.row.id ∨
    ∃ r ∈ a.tokens, ∃ q ∈ b.tokens, r.id = q.id ∨ r.tokenHash = q.tokenHash

instance : DecidableRel Person.Clash := fun _ _ => inferInstanceAs (Decidable (_ ∨ _))
instance : DecidableRel Tenant.Clash := fun _ _ => inferInstanceAs (Decidable (_ ∨ _))
instance : DecidableRel StoredMembership.BothActive :=
  fun _ _ => inferInstanceAs (Decidable (_ ∧ _))
instance : DecidableRel StoredMembership.Clash :=
  fun _ _ => inferInstanceAs (Decidable (_ ∨ _))
instance : DecidableRel Role.Clash := fun _ _ => inferInstanceAs (Decidable (_ ∨ _))
instance : DecidableRel RefreshToken.Stored.Clash := fun _ _ => inferInstanceAs (Decidable (_ ∨ _))

instance : Std.Symm Person.Clash := ⟨fun _ _ => Or.imp Eq.symm Eq.symm⟩
instance : Std.Symm Tenant.Clash := ⟨fun _ _ => Or.imp Eq.symm Eq.symm⟩

instance : Std.Symm StoredMembership.Clash where
  symm _ _ := Or.imp Eq.symm (Or.imp (And.imp Eq.symm Eq.symm)
    fun ⟨hp, ha, hb⟩ => ⟨hp.symm, hb, ha⟩)

instance : Std.Symm Role.Clash where
  symm _ _ := Or.imp Eq.symm fun ⟨ht, hn, ha, hb⟩ => ⟨ht.symm, hn.symm, hb, ha⟩

instance : Std.Symm RefreshToken.Stored.Clash where
  symm _ _ := Or.imp Eq.symm fun ⟨r, hr, q, hq, h⟩ => ⟨q, hq, r, hr, h.imp Eq.symm Eq.symm⟩

structure Store where
  persons : Table Person Person.Clash := {}
  tenants : Table Tenant Tenant.Clash := {}
  memberships : Table StoredMembership StoredMembership.Clash := {}
  roles : Table Role Role.Clash := {}
  families : Table RefreshToken.Stored RefreshToken.Stored.Clash := {}

abbrev Repo (α : Type) := Effect Store Err α

def orNotFound {α : Type} (s : Sentinel) : Option α → Except Err α
  | some a => .ok a
  | none => .error ⟨s, ""⟩

def orRefused {τ : Type} (e : Err) (put : τ → Store) : Option τ → Except Err Store
  | some t => .ok (put t)
  | none => .error e

namespace PersonRepository

def getByID (id : String) : Repo Person :=
  .query fun s => orNotFound Person.errNotFound (s.persons.find? fun p => p.id == id)

def getByEmail (email : String) : Repo Person :=
  .query fun s => orNotFound Person.errNotFound (s.persons.find? fun p => p.email == email)

def add (p : Person) : Repo Unit :=
  .write fun s =>
    orRefused ⟨Person.errEmailTaken, ""⟩ (fun t => { s with persons := t })
      (s.persons.insert { p with events := [] })

def updateByID (id : String) (updateFn : Person → Person × Except Err Bool) : Repo Unit :=
  .write fun s =>
    match s.persons.find? fun p => p.id == id with
    | none => .error ⟨Person.errNotFound, ""⟩
    | some p =>
      match updateFn p with
      | (_, .error e) => .error e
      | (_, .ok false) => .ok s
      | (p', .ok true) =>
        orRefused (.foreign "person repo: update") (fun t => { s with persons := t })
          (s.persons.update (fun q => q.id == id) fun _ => { p' with events := [] })

def updateLockoutState (p : Person) : Repo Unit :=
  .write fun s =>
    orRefused (.foreign "person repo: update lockout state") (fun t => { s with persons := t })
      (s.persons.update (fun q => q.id == p.id) fun q =>
        { q with
          failedLoginCount := toInt32 p.failedLoginCount
          lockedUntil := toMicros p.lockedUntil
          lastFailedLoginAt := toMicros p.lastFailedLoginAt })

end PersonRepository

namespace TenantRepository

def getByID (id : String) : Repo Tenant :=
  .query fun s => orNotFound Tenant.errNotFound (s.tenants.find? fun t => t.id == id)

def add (t : Tenant) : Repo Unit :=
  .write fun s =>
    orRefused ⟨Tenant.errSlugTaken, ""⟩ (fun ts => { s with tenants := ts })
      (s.tenants.insert { t with events := [] })

end TenantRepository

/-! ## Memberships and roles -/

def Store.RolesKnown (s : Store) (tenantID : String) (roleIDs : List String) : Prop :=
  ∀ id ∈ roleIDs, ∃ r ∈ s.roles.rows, r.id = id ∧ r.tenantID = tenantID

instance (s : Store) (tenantID : String) (roleIDs : List String) :
    Decidable (s.RolesKnown tenantID roleIDs) :=
  inferInstanceAs (Decidable (∀ id ∈ roleIDs, ∃ r ∈ s.roles.rows, _ ∧ _))

namespace MembershipRepository

open Leadkart.Membership (StoredMembership UpdateFn)

def hydrate (st : StoredMembership) : Except Err Membership :=
  match Membership.loadMembership [st, st, st] with
  | some m => .ok m
  | none => .error (.foreign "membership repo: hydrate")

theorem hydrate_tenantID {st : StoredMembership} {m : Membership}
    (h : hydrate st = .ok m) : m.tenantID = st.row.tenantID := by
  unfold hydrate at h
  split at h
  · rename_i m' hl
    cases h
    obtain ⟨granted, revoked, -, ht, -⟩ := Membership.loadMembership_eq hl
    exact ht
  · cases h

def getActiveForPerson (personID : String) : Repo Membership :=
  .query fun s =>
    match s.memberships.find? fun st => st.row.personID == personID && st.row.status == .active with
    | none => .error ⟨Membership.errNotFound, ""⟩
    | some st => hydrate st

def getByID (tenantID id : String) : Repo Membership :=
  .query fun s =>
    match s.memberships.find? fun st => st.row.id == id && st.row.tenantID == tenantID with
    | none => .error ⟨Membership.errNotFound, ""⟩
    | some st => hydrate st

def insertRows (m : Membership) : Option StoredMembership :=
  m.persist
    { row := { id := m.id, personID := m.personID, tenantID := m.tenantID, status := m.status,
               joinedAt := m.joinedAt, createdBy := zeroToNil m.createdBy }
      roleIDs := [], overrides := [], roleIDs_pk := List.nodup_nil, overrides_pk := List.nodup_nil }

def insertError (s : Store) (st : StoredMembership) : Err :=
  if s.memberships.rows.any fun q => q.row.id == st.row.id ||
      (q.row.personID == st.row.personID && q.row.tenantID == st.row.tenantID) then
    .foreign "membership repo: insert"
  else ⟨Membership.errAlreadyActive, ""⟩

def add (m : Membership) : Repo Unit :=
  .write fun s =>
    match insertRows m with
    | none => .error (.foreign "membership repo: insert")
    | some st =>
      if s.RolesKnown st.row.tenantID st.roleIDs then
        orRefused (insertError s st) (fun t => { s with memberships := t })
          (s.memberships.insert st)
      else .error (.foreign "membership repo: insert role assignment")

def updateByID (tenantID id : String) (updateFn : UpdateFn) : Repo Unit :=
  .write fun s =>
    match s.memberships.find? fun st => st.row.id == id && st.row.tenantID == tenantID with
    | none => .error ⟨Membership.errNotFound, ""⟩
    | some st =>
      match hydrate st with
      | .error e => .error e
      | .ok m =>
        match updateFn m with
        | (_, .error e) => .error e
        | (_, .ok false) => .ok s
        | (m', .ok true) =>
          match m'.persist st with
          | none => .error (.foreign "membership repo: replace")
          | some st' =>
            if s.RolesKnown st'.row.tenantID st'.roleIDs then
              orRefused (.foreign "membership repo: update status")
                (fun t => { s with memberships := t })
                (s.memberships.update (fun q => q.row.id == id) fun _ => st')
            else .error (.foreign "membership repo: insert role assignment")

end MembershipRepository

namespace RoleRepository

def getByIDs (tenantID : String) (ids : List String) : Repo (List Role) :=
  .read fun s => s.roles.rows.filter fun r => r.id ∈ ids && r.tenantID == tenantID && !r.deleted

def getByTenantAndName (tenantID name : String) : Repo Role :=
  .query fun s => orNotFound Role.errNotFound
    (s.roles.find? fun r => r.tenantID == tenantID && r.name == name && !r.deleted)

def insertError (s : Store) (r : Role) : Err :=
  if s.roles.rows.any fun q => q.id == r.id then .foreign "role repo: insert"
  else ⟨Role.errNameTaken, ""⟩

def add (r : Role) : Repo Unit :=
  .write fun s =>
    orRefused (insertError s r) (fun t => { s with roles := t })
      (s.roles.insert { r with events := [] })

def persist (r row : Role) : Role :=
  if r.deleted then
    { row with deleted := true, deletedAt := r.deletedAt, deletedBy := r.deletedBy }
  else { row with name := r.name, hierarchyLevel := r.hierarchyLevel, permissions := r.permissions }

def updateByID (tenantID id : String) (updateFn : Role → Role × Except Err Bool) : Repo Unit :=
  .write fun s =>
    match s.roles.find? fun r => r.id == id && r.tenantID == tenantID && !r.deleted with
    | none => .error ⟨Role.errNotFound, ""⟩
    | some r =>
      match updateFn r with
      | (_, .error e) => .error e
      | (_, .ok false) => .ok s
      | (r', .ok true) =>
        orRefused ⟨Role.errNameTaken, ""⟩ (fun t => { s with roles := t })
          (s.roles.update (fun q => q.id == id) fun q => persist r' q)

end RoleRepository

namespace RefreshTokenFamilyRepository

open RefreshToken (Stored Family FamilyRow TokenHash UpdateFn)

def hydrate (st : Stored) : Except Err Family :=
  RefreshToken.hydrateFamily st.row (RefreshToken.listRefreshTokensInFamily st)

def labelFits (label : String) : Bool := 0 < label.length && label.length ≤ 200

def insertRows (f : Family) : Option Stored :=
  if labelFits f.deviceLabel then
    (RefreshToken.upsertFamilyTokens f []).map fun tokens =>
      { row := { id := f.id, personID := f.personID, tenantID := f.tenantID,
                 deviceLabel := f.deviceLabel, createdAt := f.createdAt, lastUsedAt := f.lastUsedAt,
                 revokedAt := pgTimestamp f.revokedAt, revokeReason := zeroToNil f.revokeReason }
        tokens }
  else none

def add (f : Family) : Repo Unit :=
  .write fun s =>
    orRefused (.foreign "refresh token repo: insert family") (fun t => { s with families := t })
      ((insertRows f).bind s.families.insert)

def getByTokenHash (hash : TokenHash) : Repo Family :=
  .query fun s =>
    match s.families.find? fun st => st.tokens.any fun r => r.tokenHash == hash.value with
    | none => .error ⟨RefreshToken.errNotFound, ""⟩
    | some st => hydrate st

def updateByID (id : String) (updateFn : UpdateFn) : Repo Unit :=
  .write fun s =>
    match s.families.find? fun st => st.row.id == id with
    | none => .error ⟨RefreshToken.errNotFound, ""⟩
    | some st =>
      match hydrate st with
      | .error e => .error e
      | .ok f =>
        match updateFn f with
        | (_, .error e) => .error e
        | (_, .ok false) => .ok s
        | (f', .ok true) =>
          orRefused (.foreign "refresh token repo: upsert token")
            (fun t => { s with families := t })
            ((RefreshToken.persist f' st).bind fun st' =>
              s.families.update (fun q => q.row.id == id) fun _ => st')

def listActiveForPerson (personID : String) : Repo (List Family) :=
  .query fun s =>
    ((s.families.rows.filter fun st => st.row.personID == personID && st.row.revokedAt.isNone)
      |>.insertionSort fun a b => a.row.createdAt ≤ b.row.createdAt).mapM hydrate

end RefreshTokenFamilyRepository

def AuthRouter.resolveByEmail (email : String) : Repo (Person × Option Membership) :=
  .query fun s =>
    match s.persons.find? fun p => p.email == email with
    | none => .error ⟨Person.errNotFound, ""⟩
    | some p =>
      match s.memberships.find? fun st => st.row.personID == p.id && st.row.status == .active with
      | none => .ok (p, none)
      | some st =>
        match MembershipRepository.hydrate st with
        | .error e => .error e
        | .ok m => .ok (p, some m)

variable {s s' : Store}

theorem orNotFound_ok {α : Type} {e : Sentinel} {o : Option α} {a : α}
    (h : orNotFound e o = .ok a) : o = some a := by
  cases o with
  | none => exact absurd h (by simp [orNotFound])
  | some b => exact congrArg some (Except.ok.inj h)

theorem orRefused_ok {τ : Type} {e : Err} {put : τ → Store} {o : Option τ}
    (h : orRefused e put o = .ok s') : ∃ t, o = some t ∧ s' = put t := by
  cases o with
  | none => exact absurd h (by simp [orRefused])
  | some t => exact ⟨t, rfl, (Except.ok.inj h).symm⟩

variable {st : StoredMembership}
  {t : Table StoredMembership StoredMembership.Clash}

theorem find_membership (hst : st ∈ t) :
    (t.find? fun q => q.row.id == st.row.id && q.row.tenantID == st.row.tenantID) = some st := by
  refine Table.find?_eq_of_mem (fun a b ha hb => .inl ?_) hst (by simp)
  rw [Bool.and_eq_true, beq_iff_eq] at ha hb
  exact ha.1.trans hb.1.symm

variable {tenantID id : String}

theorem MembershipRepository.updateByID_ok {fn : Membership.UpdateFn}
    (h : (MembershipRepository.updateByID tenantID id fn).run s = (.ok (), s')) :
    (s' = s ∧ ∃ m, (fn m).2 = .ok false) ∨ ∃ st st' t,
    (s.memberships.find? fun q => q.row.id == id && q.row.tenantID == tenantID) = some st ∧
    (Membership.updateByID fn).alone st = some st' ∧
    s.memberships.update (fun q => q.row.id == id) (fun _ => st') = some t ∧
    s' = { s with memberships := t } := by
  rw [MembershipRepository.updateByID, write_eq_ok] at h
  split at h
  · cases h
  rename_i st hst
  split at h
  · cases h
  rename_i m hm
  split at h
  · cases h
  · rename_i m' hfn
    exact .inl ⟨(Except.ok.inj h).symm, m, congrArg Prod.snd hfn⟩
  rename_i m' hfn
  split at h
  · cases h
  rename_i st' hp
  split at h
  · obtain ⟨t, ht, rfl⟩ := orRefused_ok h
    refine .inr ⟨st, st', t, hst, ?_, ht, rfl⟩
    have hl : Membership.loadMembership (List.replicate 3 st) = some m := by
      unfold MembershipRepository.hydrate at hm
      split at hm
      · rename_i m₀ hl
        exact hl.trans (congrArg some (Except.ok.inj hm))
      · cases hm
    show ((Membership.loadMembership (List.replicate 3 st)).bind _).bind _ = _
    rw [hl, Option.bind_some, hfn]
    exact hp
  · cases h

variable {fn : RefreshToken.UpdateFn}

theorem RefreshTokenFamilyRepository.updateByID_ok
    (h : (RefreshTokenFamilyRepository.updateByID id fn).run s = (.ok (), s')) :
    (s' = s ∧ ∃ f, (fn f).2 = .ok false) ∨ ∃ st st' t,
    (s.families.find? fun q => q.row.id == id) = some st ∧
    (RefreshToken.updateByID fn).alone st = some st' ∧
    s.families.update (fun q => q.row.id == id) (fun _ => st') = some t ∧
    s' = { s with families := t } := by
  rw [RefreshTokenFamilyRepository.updateByID, write_eq_ok] at h
  split at h
  · cases h
  rename_i st hst
  split at h
  · cases h
  rename_i f hf
  split at h
  · cases h
  · rename_i f' hfn
    exact .inl ⟨(Except.ok.inj h).symm, f, congrArg Prod.snd hfn⟩
  rename_i f' hfn
  obtain ⟨t, ht, rfl⟩ := orRefused_ok h
  obtain ⟨st', hp, ht⟩ := Option.bind_eq_some_iff.mp ht
  refine .inr ⟨st, st', t, hst, ?_, ht, rfl⟩
  have hl : RefreshToken.loadFamilyByID (List.replicate 2 st) = some f :=
    congrArg Except.toOption hf
  show ((RefreshToken.loadFamilyByID (List.replicate 2 st)).bind _).bind _ = _
  rw [hl, Option.bind_some, hfn]
  exact hp

variable {st' : StoredMembership}

theorem MembershipRepository.update_of_same_keys (hst : st ∈ t) (hid : st'.row.id = st.row.id)
    (hp : st'.row.personID = st.row.personID) (ht : st'.row.tenantID = st.row.tenantID)
    (hs : st'.row.status = st.row.status) :
    ∃ t', t.update (fun q => q.row.id == st.row.id) (fun _ => st') = some t' := by
  have hc : ∀ q, st'.Clash q ↔ st.Clash q := by
    intro q
    unfold StoredMembership.Clash StoredMembership.BothActive
    rw [hid, hp, ht, hs]
  have ho : ∀ q ∈ t, (q.row.id == st.row.id) = true → q = st := fun q hq hq' =>
    Table.eq_of_clash hq hst (.inl (beq_iff_eq.mp hq'))
  refine Table.update_of_clash fun a ha b hb hab => ?_
  by_cases hia : (a.row.id == st.row.id) = true
  · obtain rfl := ho a ha hia
    by_cases hi : (b.row.id == a.row.id) = true
    · obtain rfl := ho b hb hi
      exact .inl rfl
    · rw [if_pos hia, if_neg hi] at hab
      exact (hc b).mp hab
  · by_cases hi : (b.row.id == st.row.id) = true
    · obtain rfl := ho b hb hi
      rw [if_neg hia, if_pos hi] at hab
      exact symm ((hc a).mp (symm hab))
    · rwa [if_neg hia, if_neg hi] at hab

theorem MembershipRepository.updateByID_of {fn : Membership.UpdateFn} {m m' : Membership}
    (hf : (s.memberships.find? fun q => q.row.id == id && q.row.tenantID == tenantID) = some st)
    (hl : MembershipRepository.hydrate st = .ok m) (hfn : fn m = (m', .ok true))
    (hp : m'.persist st = some st') (hr : s.RolesKnown st'.row.tenantID st'.roleIDs)
    (hu : s.memberships.update (fun q => q.row.id == id) (fun _ => st') = some t) :
    (MembershipRepository.updateByID tenantID id fn).run s =
    (.ok (), { s with memberships := t }) := by
  refine write_eq_ok.mpr ?_
  simp only [hf, hl, hfn, hp, hu, if_pos hr, orRefused]

theorem RefreshTokenFamilyRepository.updateByID_of {st st' : RefreshToken.Stored}
    {f f' : RefreshToken.Family} {t : Table RefreshToken.Stored RefreshToken.Stored.Clash}
    (hf : (s.families.find? fun q => q.row.id == id) = some st)
    (hl : RefreshTokenFamilyRepository.hydrate st = .ok f) (hfn : fn f = (f', .ok true))
    (hp : RefreshToken.persist f' st = some st')
    (hu : s.families.update (fun q => q.row.id == id) (fun _ => st') = some t) :
    (RefreshTokenFamilyRepository.updateByID id fn).run s = (.ok (), { s with families := t }) := by
  refine write_eq_ok.mpr ?_
  simp only [hf, hl, hfn, hp, hu, Option.bind_some, orRefused]

end Leadkart
