import Leadkart.Identity.Session

/-!
# Who is kept from signing in
-/

namespace Leadkart

open List RefreshTokenFamilyRepository RefreshToken Effect

inductive SignIn where
  | login (cmd : LoginCommand)
  | refresh (cmd : RefreshCommand)

namespace SignIn

def handle (c : Crypto) (ttl : Duration) (x : SignIn) (d : Draws) (s : Store) :
    Option Claims × Store :=
  match x with
  | .login cmd =>
    let (r, s') := (Leadkart.login c ttl cmd d).run s
    (r.toOption.map fun r => r.accessToken, s')
  | .refresh cmd =>
    let (r, s') := (Leadkart.refresh c ttl cmd d).run s
    (r.toOption.map fun r => r.accessToken, s')

def By (c : Crypto) (s : Store) (x : SignIn) (p : Person) : Prop :=
  p ∈ s.persons ∧
    match x with
    | .login cmd => p.email = cmd.email
    | .refresh cmd => ∃ st ∈ s.families, st.row.personID = p.id ∧
        ∃ row ∈ st.tokens, row.tokenHash = c.hashOf cmd.refreshTokenPlain

variable {c : Crypto} {ttl : Duration} {x : SignIn} {d : Draws} {s : Store} {p q : Person}
  {access : Claims}

theorem By.unique (hp : x.By c s p) (hq : x.By c s q) : p = q := by
  refine Table.eq_of_clash hp.1 hq.1 ?_
  cases x with
  | login cmd => exact .inr (hp.2.trans hq.2.symm)
  | refresh cmd =>
    obtain ⟨st, hst, hs, r, hr, hrh⟩ := hp.2
    obtain ⟨st', hst', hsq, r', hr', hrh'⟩ := hq.2
    obtain rfl := Table.eq_of_clash hst hst' (.inr ⟨r, hr, r', hr', .inr (hrh.trans hrh'.symm)⟩)
    exact .inl (hs.symm.trans hsq)

theorem toOption_map_eq_some {ε α β : Type} {r : Except ε α} {f : α → β} {b : β}
    (h : r.toOption.map f = some b) : ∃ a, r = .ok a ∧ f a = b := by
  cases r with
  | error e => exact absurd h (by simp [Except.toOption])
  | ok a => exact ⟨a, rfl, by simpa [Except.toOption] using h⟩

theorem handle_issued (h : (x.handle c ttl d s).1 = some access) :
    ∃ p tn m, x.By c s p ∧ Issued s p tn m access := by
  cases x with
  | login cmd =>
    obtain ⟨r, hr, rfl⟩ := toOption_map_eq_some h
    obtain ⟨p, tn, m, he, hi⟩ := login_ok (Prod.ext hr rfl)
    exact ⟨p, tn, m, ⟨hi.person, he⟩, hi⟩
  | refresh cmd =>
    obtain ⟨r, hr, rfl⟩ := toOption_map_eq_some h
    obtain ⟨st, hst, ht, p, tn, m, hp, hi⟩ := refresh_ok (Prod.ext hr rfl)
    exact ⟨p, tn, m, ⟨hi.person, st, hst, hp.symm, ht⟩, hi⟩

end SignIn

section LiveSession

variable {c : Crypto} {ttl : Duration} {p : Person} (tn : Tenant) {x y : String}

theorem Crypto.Sound.hashOf_ne_empty (hc : c.Sound) (x : String) : c.hashOf x ≠ "" := by
  intro h
  have hm := hc.minLen x
  rw [h] at hm
  cases hm

theorem Crypto.Sound.newTokenHash (hc : c.Sound) (x : String) :
    newTokenHash (c.hashOf x) = .ok ⟨c.hashOf x⟩ := by
  have hm := hc.minLen x
  have hma := hc.maxLen x
  unfold RefreshToken.newTokenHash
  rw [if_neg (hc.hashOf_ne_empty x), if_neg (by omega), if_neg (by omega)]

def signedInRows (p : Person) (tn : Tenant) (hash : String) : Stored where
  row := { id := "family", personID := p.id, tenantID := tn.id, deviceLabel := "phone",
           createdAt := 1, lastUsedAt := 1, revokedAt := none, revokeReason := none }
  tokens := [{ id := "first", tokenHash := hash, generation := 0, issuedAt := 1, expiresAt := 10,
               consumedAt := none, replacedByID := none }]

def signedInFamily (p : Person) (tn : Tenant) (hash : String) : Family where
  id := "family"
  personID := p.id
  tenantID := tn.id
  deviceLabel := "phone"
  createdAt := 1
  lastUsedAt := 1
  tokens := [{ id := "first", hash := ⟨hash⟩, generation := 0, issuedAt := 1, expiresAt := 10 }]

def signedInStore (p : Person) (tn : Tenant) (hash : String) : Store where
  persons := { rows := [p] }
  tenants := { rows := [tn] }
  memberships :=
    { rows := [{ row := { id := "membership", personID := p.id, tenantID := tn.id,
                          status := .active, joinedAt := 1 }
                 roleIDs := [], overrides := []
                 roleIDs_pk := List.nodup_nil, overrides_pk := List.nodup_nil }] }
  families := { rows := [signedInRows p tn hash] }

def refreshDraws (plain : String) : Draws :=
  { now := fun _ => 5, plain := some plain, tokenID := "second" }

theorem hydrate_signedInRows (hc : c.Sound) : hydrate (signedInRows p tn (c.hashOf x)) =
    .ok (signedInFamily p tn (c.hashOf x)) := by
  simp [signedInRows, hydrate, hydrateFamily,
    hydrateTokens, listRefreshTokensInFamily, hc.newTokenHash,
    TokenRow.toToken, timeFromPg, stringFromPg, signedInFamily]

theorem rotate_signedInFamily (hc : c.Sound) (ht : 0 < ttl) :
    (signedInFamily p tn (c.hashOf x)).rotate ⟨c.hashOf x⟩ ⟨c.hashOf y⟩ ttl 5 "second" =
    ({ signedInFamily p tn (c.hashOf x) with
          tokens :=
            [{ id := "first", hash := ⟨c.hashOf x⟩, generation := 0, issuedAt := 1,
               expiresAt := 10, consumedAt := 5, replacedByID := "second" },
             { id := "second", hash := ⟨c.hashOf y⟩, generation := 1, issuedAt := 5,
               expiresAt := 5 + ttl }]
          lastUsedAt := 5
          events := [.rotated "family" p.id tn.id "first" "second" 1 5] }, none) := by
  have ht' : ¬ ttl ≤ 0 := Int.not_le.mpr ht
  simp [Family.rotate, signedInFamily, Family.isRevoked, Time.isZero,
    TokenHash.isZero, hc.hashOf_ne_empty, ht', Family.findToken,
    Token.isConsumed, Token.isExpired, Time.after,
    Family.consumeToken]

theorem persist_signedInRows (hc : c.Sound) (ht : 0 < ttl) (hxy : c.hashOf x ≠ c.hashOf y) :
    ∃ st', persist ((signedInFamily p tn (c.hashOf x)).rotate ⟨c.hashOf x⟩
    ⟨c.hashOf y⟩ ttl 5 "second").1 (signedInRows p tn (c.hashOf x)) = some st' := by
  have hg : ¬ (1 : Int32) < 0 := by decide
  rw [rotate_signedInFamily tn hc ht, ← Option.isSome_iff_exists]
  simp [persist, upsertFamilyTokens, upsertRefreshToken,
    signedInRows, hxy.symm, Token.toRow, hg]

theorem rotateFamily_signedInStore (hc : c.Sound) (htt : 0 < ttl) (hxy : c.hashOf x ≠ c.hashOf y) :
    ∃ t, (rotateFamily ttl ⟨c.hashOf x⟩ ⟨y, ⟨c.hashOf y⟩⟩ (signedInFamily p tn (c.hashOf x)) 5
    "second").run (signedInStore p tn (c.hashOf x)) =
    (.ok (), { signedInStore p tn (c.hashOf x) with families := t }) := by
  have hr := rotate_signedInFamily (p := p) tn (x := x) (y := y) hc htt
  obtain ⟨st', hst'⟩ := persist_signedInRows (p := p) tn hc htt hxy
  obtain ⟨t, ht⟩ : ∃ t, (signedInStore p tn (c.hashOf x)).families.update
      (fun q => q.row.id == "family") (fun _ => st') = some t := by
    unfold Table.update
    exact ⟨_, dif_pos (List.pairwise_singleton _ _)⟩
  have hfn : rotateFn ⟨c.hashOf x⟩ ⟨c.hashOf y⟩ ttl 5 "second"
      (signedInFamily p tn (c.hashOf x)) = (((signedInFamily p tn (c.hashOf x)).rotate
        ⟨c.hashOf x⟩ ⟨c.hashOf y⟩ ttl 5 "second").1, .ok true) := by
    unfold rotateFn
    rw [hr]
  have hu := updateByID_of
    (s := signedInStore p tn (c.hashOf x)) rfl (hydrate_signedInRows tn hc) hfn hst' ht
  refine ⟨t, ?_⟩
  refine (bind_ok (mapError_eq_ok.mpr hu)).trans ?_
  rw [hr]
  rfl

theorem reissue_signedInStore (hid : p.id ≠ "") (ha : p.isActive = true)
    (han : p.isAnonymised = false) (t : Table Stored Stored.Clash)
    (hash : String) (pair : MintPair) (d : Draws) :
    ∃ r s', (reissue (signedInFamily p tn hash) pair d).run
    { signedInStore p tn hash with families := t } = (.ok r, s') := by
  simp [reissue, bind_apply, mapError, signedInFamily, PersonRepository.getByID, signedInStore,
    Table.find?, orNotFound, ha, han, TenantRepository.getByID,
    MembershipRepository.getActiveForPerson, MembershipRepository.hydrate,
    Membership.loadMembership, Membership.loadPermissionOverrides, Membership.rowToMembership,
    Except.toOption, resolveAuth, RoleRepository.getByIDs, issue, issueArgs, hid]

theorem refresh_signedInStore (hc : c.Sound) (ht : 0 < ttl) (hid : p.id ≠ "")
    (ha : p.isActive = true) (han : p.isAnonymised = false) (hxy : c.hashOf x ≠ c.hashOf y) :
    ∃ r s', (refresh c ttl ⟨x⟩ (refreshDraws y)).run (signedInStore p tn (c.hashOf x)) =
    (.ok r, s') := by
  have hl : (getByTokenHash ⟨c.hashOf x⟩).run (signedInStore p tn (c.hashOf x)) =
        (.ok (signedInFamily p tn (c.hashOf x)), signedInStore p tn (c.hashOf x)) := by
    refine query_eq_ok.mpr ⟨?_, rfl⟩
    rw [← hydrate_signedInRows tn hc]
    simp [signedInStore, Table.find?, signedInRows]
  have hm : mint c (some y) = .ok ⟨y, ⟨c.hashOf y⟩⟩ := by
    simp [mint, hc.newTokenHash]
  obtain ⟨t, hro⟩ := rotateFamily_signedInStore (p := p) tn hc ht hxy
  obtain ⟨r, s', hr⟩ := reissue_signedInStore tn hid ha han t (c.hashOf x)
    ⟨y, ⟨c.hashOf y⟩⟩ (refreshDraws y)
  refine ⟨r, s', ?_⟩
  unfold refresh
  rw [hc.newTokenHash]
  refine (bind_ok (attempt_eq_ok.mpr hl)).trans ?_
  refine (bind_ok (mapError_eq_ok.mpr (ofExcept_eq_ok.mpr ⟨hm, rfl⟩))).trans ?_
  exact (bind_ok hro).trans hr

end LiveSession

def sampleDigits : Nat → Nat → List Char
  | 0, _ => []
  | k + 1, n => Nat.digitChar (n % 16) :: sampleDigits k (n / 16)

def sampleCrypto : Crypto where
  verify password stored :=
    if stored = "$argon2id$v=19$m=65536,t=3,p=4$" ++ password then none else some .mismatch
  hashOf x := String.ofList (sampleDigits 64 (x.toList.foldl (fun n ch => 31 * n + ch.toNat) 17))

theorem utf8ByteSize_sampleDigits (k n : Nat) :
    (String.ofList (sampleDigits k n)).utf8ByteSize = k := by
  induction k generalizing n with
  | zero => rfl
  | succ k ih =>
    have hd : ∀ i : Fin 16, (Nat.digitChar i).utf8Size = 1 := by decide
    have hc : String.ofList (sampleDigits (k + 1) n) =
        String.singleton (Nat.digitChar (n % 16)) ++ String.ofList (sampleDigits k (n / 16)) := by
      apply String.toList_injective
      simp [sampleDigits]
    rw [hc, String.utf8ByteSize_append, ih, String.utf8ByteSize_singleton,
      hd ⟨n % 16, Nat.mod_lt n (by decide)⟩, Nat.add_comm]

theorem sampleCrypto_sound : sampleCrypto.Sound where
  minLen x := by
    show _ ≤ (String.ofList (sampleDigits 64 _)).utf8ByteSize
    rw [utf8ByteSize_sampleDigits]
    decide
  maxLen x := by
    show (String.ofList (sampleDigits 64 _)).utf8ByteSize ≤ _
    rw [utf8ByteSize_sampleDigits]
    decide
  differ := ⟨"a", "b", by decide⟩

def sampleHash : String := "$argon2id$v=19$m=65536,t=3,p=4$secret password"

def samplePerson : Person :=
  { id := "p1", email := "a@example.com", firstName := "Asha", lastName := "Rao"
    passwordHash := sampleHash, securityStamp := "stamp-1", isActive := true, createdAt := 1
    events := [.created "p1" "a@example.com" "Asha" "Rao" 1] }

theorem samplePerson_reachable : samplePerson.Reachable := by
  have h : Person.new "p1" "a@example.com" "Asha" "Rao" sampleHash 1 "stamp-1" =
      .ok samplePerson := by rfl
  exact .new h

def sampleSuspended : Person := samplePerson.apply (.globallySuspend "fraud" 2 "stamp-2")

def sampleTenant : Tenant :=
  { id := "t1", slug := "acme", legalName := "Acme", displayName := "Acme", status := .pending
    createdAt := 1, events := [.registered "t1" "acme" "Acme" "Acme" "a@example.com" 1] }

theorem sampleTenant_reachable : sampleTenant.Reachable := by
  have h : Tenant.new "t1" "acme" "Acme" "Acme" "a@example.com" 1 = .ok sampleTenant := by rfl
  exact .new h

def sampleLogin : SignIn := .login ⟨"a@example.com", "secret password", "laptop"⟩

def sampleRefresh : SignIn := .refresh ⟨"a"⟩

def sampleDraws : Draws :=
  { now := fun _ => 5, plain := some "b", familyID := "family-2", tokenID := "second" }

def Person.Excluded (p : Person) : Prop :=
  p.isGloballySuspended = true ∨ p.isAnonymised = true ∨ p.isActive = false

def Tenant.CutOff (tn : Tenant) : Prop :=
  tn.status = .suspended ∨ tn.status = .pendingDeletion ∨ tn.status = .deleted

def Store.ActiveIn (s : Store) (p : Person) (tn : Tenant) : Prop :=
  ∃ st ∈ s.memberships, st.row.personID = p.id ∧ st.row.tenantID = tn.id ∧ st.row.status = .active

variable {c : Crypto} {ttl : Duration}

theorem exists_signIn (hc : c.Sound) (ht : 0 < ttl) {p : Person} (hid : p.id ≠ "")
    (ha : p.isActive = true) (han : p.isAnonymised = false) (tn : Tenant) :
    ∃ s x d, SignIn.By c s x p ∧ tn ∈ s.tenants ∧ s.ActiveIn p tn ∧
    (x.handle c ttl d s).1 ≠ none := by
  obtain ⟨x, y, hxy⟩ := hc.differ
  obtain ⟨r, s', hr⟩ := refresh_signedInStore tn hc ht hid ha han hxy
  refine ⟨signedInStore p tn (c.hashOf x), .refresh ⟨x⟩, refreshDraws y, ?_, ?_, ?_, ?_⟩
  · exact ⟨mem_singleton_self p, _, mem_singleton_self _, rfl, _, mem_singleton_self _, rfl⟩
  · exact mem_singleton_self tn
  · exact ⟨_, mem_singleton_self _, rfl, rfl, rfl⟩
  · simp [SignIn.handle, hr, Except.toOption]

theorem excluded_rejected_iff (hc : c.Sound) (httl : 0 < ttl) (p : Person) (hp : p.Reachable) :
    (∀ s x d, SignIn.By c s x p → p.Excluded → (x.handle c ttl d s).1 = none) ↔
    (p.isGloballySuspended = true → p.isAnonymised = true) := by
  constructor
  · intro h hs
    by_contra ha
    have ha : p.isAnonymised = false := Bool.not_eq_true _ ▸ ha
    have hac : p.isActive = true := by rw [hp.isActive_eq, ha]; rfl
    obtain ⟨s, x, d, hby, -, -, hi⟩ :=
      exists_signIn hc httl hp.id_ne hac ha
        { id := "", slug := "", legalName := "", displayName := "", status := .active
          createdAt := 0 }
    exact hi (h s x d hby (.inl hs))
  · intro hs s x d hby he
    by_contra hne
    obtain ⟨access, has⟩ := Option.ne_none_iff_exists'.mp hne
    obtain ⟨q, tn, m, hq, hi⟩ := SignIn.handle_issued has
    obtain rfl := hby.unique hq
    rcases he with h | h | h
    · exact absurd (hs h) (by rw [hi.notAnonymised]; simp)
    · exact absurd h (by rw [hi.notAnonymised]; simp)
    · exact absurd h (by rw [hi.active]; simp)

theorem excluded_rejected_when_anonymised : (sampleLogin.handle sampleCrypto day sampleDraws
    (signedInStore (sampleSuspended.apply (.anonymise 3 "stamp-3")) sampleTenant
    (sampleCrypto.hashOf "a"))).1 = none :=
  (excluded_rejected_iff sampleCrypto_sound (by decide)
      (sampleSuspended.apply (.anonymise 3 "stamp-3"))
      (.step _ (.step _ samplePerson_reachable))).mpr (fun _ => rfl) _ _ _
    ⟨mem_singleton_self _, rfl⟩ (.inr (.inl rfl))

theorem suspended_person_signs_in :
    sampleSuspended.Reachable ∧ sampleSuspended.isGloballySuspended = true ∧
    (∃ access, (sampleLogin.handle sampleCrypto day sampleDraws (signedInStore sampleSuspended
    sampleTenant (sampleCrypto.hashOf "a"))).1 = some access ∧ access.personID = "p1") ∧
    (∃ access, (sampleRefresh.handle sampleCrypto day sampleDraws (signedInStore sampleSuspended
    sampleTenant (sampleCrypto.hashOf "a"))).1 = some access ∧ access.personID = "p1") :=
  ⟨.step _ samplePerson_reachable, rfl, ⟨_, rfl, rfl⟩, ⟨_, rfl, rfl⟩⟩

theorem cutOff_rejected_iff (hc : c.Sound) (httl : 0 < ttl) (tn : Tenant) (htn : tn.Reachable) :
    (∀ s x d p, SignIn.By c s x p → tn ∈ s.tenants → s.ActiveIn p tn → tn.CutOff →
    (x.handle c ttl d s).1 = none) ↔ tn.status = .pending ∨ tn.status = .active := by
  constructor
  · intro h
    obtain ⟨s, x, d, hby, htn', hin, hi⟩ :=
      exists_signIn (p := samplePerson) hc httl (by decide) rfl rfl tn
    have ho : ¬ tn.CutOff := fun hcu => hi (h s x d samplePerson hby htn' hin hcu)
    have hk := htn.status_ne
    unfold Tenant.CutOff at ho
    cases hs : tn.status <;> simp_all
  · rintro ho s x d p - - - hcu
    unfold Tenant.CutOff at hcu
    rcases ho with h | h <;> simp [h] at hcu

def sampleCutOffs : List Tenant :=
  let suspended := (sampleTenant.apply (.activate 2)).apply (.suspend "unpaid" 3)
  let pendingDeletion := suspended.apply (.markForDeletion "closed" 4)
  [suspended, pendingDeletion, pendingDeletion.apply (.hardDelete 5)]

theorem sampleCutOffs_reachable : ∀ tn ∈ sampleCutOffs, tn.Reachable ∧ tn.CutOff := by
  have hs := (sampleTenant_reachable.step (.activate 2)).step (.suspend "unpaid" 3)
  have hp := hs.step (.markForDeletion "closed" 4)
  intro tn htn
  simp only [sampleCutOffs, mem_cons, not_mem_nil, or_false] at htn
  rcases htn with rfl | rfl | rfl
  · exact ⟨hs, .inl rfl⟩
  · exact ⟨hp, .inr (.inl rfl)⟩
  · exact ⟨hp.step (.hardDelete 5), .inr (.inr rfl)⟩

theorem cutOff_rejected_suspended : ¬ ∀ s x d p, SignIn.By sampleCrypto s x p →
    (sampleTenant.apply (.suspend "unpaid" 3)) ∈ s.tenants →
    s.ActiveIn p (sampleTenant.apply (.suspend "unpaid" 3)) →
    (sampleTenant.apply (.suspend "unpaid" 3)).CutOff →
    (x.handle sampleCrypto day d s).1 = none := by
  intro h
  have ho := (cutOff_rejected_iff sampleCrypto_sound (by decide) _
    (sampleTenant_reachable.step (.suspend "unpaid" 3))).mp h
  exact absurd ho (by decide)

theorem cutOff_tenant_members_sign_in :
    sampleCutOffs.map (·.status) = [.suspended, .pendingDeletion, .deleted] ∧
    ∀ tn ∈ sampleCutOffs, ∀ x ∈ [sampleLogin, sampleRefresh], tn.Reachable ∧ tn.CutOff ∧
    (signedInStore samplePerson tn (sampleCrypto.hashOf "a")).ActiveIn samplePerson tn ∧
    (x.handle sampleCrypto day sampleDraws
    (signedInStore samplePerson tn (sampleCrypto.hashOf "a"))).1.isSome = true := by
  refine ⟨by decide, ?_⟩
  intro tn htn x hx
  obtain ⟨hr, hc⟩ := sampleCutOffs_reachable tn htn
  refine ⟨hr, hc, ⟨_, mem_singleton_self _, rfl, rfl, rfl⟩, ?_⟩
  have hi : ∀ tn ∈ sampleCutOffs, ∀ x ∈ [sampleLogin, sampleRefresh],
      (x.handle sampleCrypto day sampleDraws
        (signedInStore samplePerson tn (sampleCrypto.hashOf "a"))).1.isSome = true := by
    decide +kernel
  exact hi tn htn x hx

end Leadkart
