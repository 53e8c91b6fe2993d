import Leadkart.Identity.Exclusion
import Leadkart.Identity.RefreshRotation
import Leadkart.Logic.Faults

/-!
# A refresh while the infrastructure fails
-/

namespace Leadkart.RefreshFaults

open Effect Faults
open RefreshToken (Token Rotation newTokenHash mem_loaded isRevoked_iff)
open RefreshToken (Family Stored TokenHash TokenRow errReuseDetected rotateFn revokeFn persist)
open RefreshTokenFamilyRepository (updateByID hydrate)

inductive Call where
  | getByTokenHash
  | mint
  | rotate
  | getPerson
  | getTenant
  | getActiveForPerson
  | resolveAuth
  | issue
  | revoke
  deriving DecidableEq, Repr

abbrev Outage := Call → Option (Fault Err)

def plan (outage : Outage) : Plan Call Err := ⟨outage, fun e => e.is (Err.foreign "").sentinel⟩

abbrev Handler (α : Type) := Effect (Execution Store Call) RefreshError α

section

variable (outage : Outage)

def rejectRevoking {α : Type} (familyID reason : String) (now : Time) : Handler α := do
  (call (plan outage) .revoke (updateByID familyID (revokeFn reason now))).ignore
  .fail .rejected

def rotateFamily (ttl : Duration) (presentedHash : TokenHash) (pair : MintPair) (family : Family)
    (now : Time) (tokenID : String) : Handler Unit := do
  (call (plan outage) .rotate
    (updateByID family.id (rotateFn presentedHash pair.hash ttl now tokenID))).mapError
      (.other "refresh: persist rotation")
  match (family.rotate presentedHash pair.hash ttl now tokenID).2 with
  | some _ => .fail .rejected
  | none => pure ()

def reissue (family : Family) (pair : MintPair) (d : Draws) : Handler TokenPair := do
  let p ← (call (plan outage) .getPerson (PersonRepository.getByID family.personID)).mapError
    (.other "refresh: resolve person")
  if !p.isActive || p.isAnonymised then
    rejectRevoking outage family.id "person-no-longer-active" (d.now 0)
  else
    let tn ← (call (plan outage) .getTenant (TenantRepository.getByID family.tenantID)).mapError
      (.other "refresh: resolve tenant")
    match ← (call (plan outage) .getActiveForPerson
        (MembershipRepository.getActiveForPerson p.id)).attempt with
    | .error _ => rejectRevoking outage family.id "no-active-membership" (d.now 0)
    | .ok m =>
      if m.tenantID ≠ tn.id then
        rejectRevoking outage family.id "active-membership-changed-tenant" (d.now 0)
      else
        let auth ← (call (plan outage) .resolveAuth (resolveAuth m (d.now 1))).mapError
          (.other "refresh: resolve permissions")
        let access ← (call (plan outage) .issue
          (Effect.ofExcept (issue (issueArgs p tn m auth) (d.now 2)))).mapError
            (.other "refresh: issue jwt")
        pure { accessToken := access
               refreshTokenPlain := pair.plaintext
               accessTokenExpiresAt := d.now 0 + accessTokenTTL
               personID := p.id, tenantID := tn.id, membershipID := m.id }

def handle (c : Crypto) (ttl : Duration) (cmd : RefreshCommand) (d : Draws) :
    Handler TokenPair := do
  match newTokenHash (c.hashOf cmd.refreshTokenPlain) with
  | .error _ => .fail .rejected
  | .ok presentedHash =>
    match ← (call (plan outage) .getByTokenHash
        (RefreshTokenFamilyRepository.getByTokenHash presentedHash)).attempt with
    | .error e =>
      if e.is RefreshToken.errNotFound then .fail .rejected
      else .fail (.other "refresh: lookup family" e)
    | .ok family => do
      let pair ← (call (plan outage) .mint (Effect.ofExcept (mint c d.plain))).mapError
        (.other "refresh: mint")
      rotateFamily outage ttl presentedHash pair family (d.now 0) d.tokenID
      reissue outage family pair d

def execute (c : Crypto) (ttl : Duration) (cmd : RefreshCommand) (d : Draws) (s : Store) :
    Execution Store Call := ((handle outage c ttl cmd d).run ⟨s, []⟩).2

end

/-! ### Without faults -/

def BeforeRotation (x : Faults.Failure Call) : Prop :=
  x.call = .getByTokenHash ∨ x.call = .mint ∨ (x.call = .rotate ∧ x.tookEffect = false)

def Presentable (f : Family) (presented : TokenHash) (now : Time) : Prop :=
  f.isRevoked = false ∧
    ∃ t, f.findToken presented = some t ∧ t.isConsumed = false ∧ t.isExpired now = false

def Spared (s : Store) (familyID : String) (presented : TokenHash) : Prop :=
  ∃ st f, (s.families.find? fun q => q.row.id == familyID) = some st ∧ hydrate st = .ok f ∧
    f.isRevoked = false ∧ ∀ newHash ttl now nextID e,
      (f.rotate presented newHash ttl now nextID).2 = some e → e.is errReuseDetected = false

def Revoked (s : Store) (familyID : String) : Prop :=
  ∃ st, (s.families.find? fun q => q.row.id == familyID) = some st ∧
    timeFromPg st.row.revokedAt ≠ 0

inductive Grounds (s : Store) (f : Family) (presented : TokenHash) : Prop
  | reuse (t : Token) : f.findToken presented = some t → t.isConsumed = true →
      Grounds s f presented
  | person (p : Person) : p ∈ s.persons → p.id = f.personID →
      p.isActive = false ∨ p.isAnonymised = true → Grounds s f presented
  | noMembership : (∀ st ∈ s.memberships, st.row.personID = f.personID → st.row.status ≠ .active) →
      Grounds s f presented
  | otherTenant (st : Membership.StoredMembership) : st ∈ s.memberships →
      st.row.personID = f.personID → st.row.status = .active → st.row.tenantID ≠ f.tenantID →
      Grounds s f presented

structure Kept (s : Store) (f : Family) (presented : TokenHash) (now : Time)
    (ex : Execution Store Call) : Prop where
  spared : Presentable f presented now → ex.failed ≠ [] → Spared ex.store f.id presented
  grounds : f.isRevoked = false → Revoked ex.store f.id → Grounds s f presented

/-! ## What an execution can do -/

theorem rotate_reuse_iff {f : Family} {presented newHash : TokenHash} {ttl : Duration} {now : Time}
    {nextID : String} : (∃ e, (f.rotate presented newHash ttl now nextID).2 = some e ∧
    e.is errReuseDetected = true) ↔ f.isRevoked = false ∧ newHash.isZero = false ∧ 0 < ttl ∧
    ∃ t, f.findToken presented = some t ∧ t.isConsumed = true := by
  unfold Family.rotate
  by_cases hre : f.isRevoked = true
  · rw [if_pos hre]
    exact ⟨fun ⟨e, he, hr⟩ => absurd hr (Option.some.inj he ▸ by decide),
      fun h => absurd hre (by simp [h.1])⟩
  by_cases hz : newHash.isZero = true
  · rw [if_neg hre, if_pos hz]
    exact ⟨fun ⟨e, he, hr⟩ => absurd hr (Option.some.inj he ▸ by decide),
      fun h => absurd hz (by simp [h.2.1])⟩
  by_cases htt : ttl ≤ 0
  · rw [if_neg hre, if_neg hz, if_pos htt]
    exact ⟨fun ⟨e, he, hr⟩ => absurd hr (Option.some.inj he ▸ by decide),
      fun h => absurd h.2.2.1 (Int.not_lt.mpr htt)⟩
  rw [if_neg hre, if_neg hz, if_neg htt]
  have hg : f.isRevoked = false ∧ newHash.isZero = false ∧ 0 < ttl :=
    ⟨by simpa using hre, by simpa using hz, Int.not_le.mp htt⟩
  rcases hf : f.findToken presented with _ | t
  · exact ⟨fun ⟨e, he, hr⟩ => absurd hr (Option.some.inj he ▸ by decide),
      fun ⟨_, _, _, t, ht, _⟩ => nomatch ht⟩
  dsimp only
  by_cases hc : t.isConsumed = true
  · rw [if_pos hc]
    exact ⟨fun _ => ⟨hg.1, hg.2.1, hg.2.2, t, rfl, hc⟩, fun _ => ⟨_, rfl, by decide⟩⟩
  rw [if_neg hc]
  refine ⟨fun ⟨e, he, hr⟩ => ?_, fun ⟨_, _, _, t', ht', hc'⟩ => ?_⟩
  · split at he
    · exact absurd hr (Option.some.inj he ▸ by decide)
    · cases he
  · cases ht'
    exact absurd hc' hc

section Family

variable {s s' : Store} {f w : Family} {st st' : Stored} {id : String} {fn : RefreshToken.UpdateFn}

theorem updateByID_done (h : (updateByID id fn).run s = (.ok (), s')) :
    ∃ st f, (s.families.find? fun q => q.row.id == id) = some st ∧ hydrate st = .ok f ∧
    ((s' = s ∧ (fn f).2 = .ok false) ∨ ∃ w st' t, fn f = (w, .ok true) ∧ persist w st = some st' ∧
    s.families.update (fun q => q.row.id == id) (fun _ => st') = some t ∧
    s' = { s with families := t }) := by
  rw [updateByID, write_eq_ok] at h
  rcases hf : s.families.find? fun q => q.row.id == id with _ | st
  · rw [hf] at h
    cases h
  rw [hf] at h
  dsimp only at h
  rcases hl : hydrate st with e | f
  · rw [hl] at h
    cases h
  rw [hl] at h
  refine ⟨st, f, rfl, hl, ?_⟩
  rcases hfn : fn f with ⟨w, e | _ | _⟩
  · simp [hfn] at h
  · simp only [hfn, Except.ok.injEq] at h
    exact .inl ⟨h.symm, rfl⟩
  · simp only [hfn] at h
    obtain ⟨t, ht, rfl⟩ := orRefused_ok h
    obtain ⟨st', hp, ht⟩ := Option.bind_eq_some_iff.mp ht
    exact .inr ⟨w, st', t, rfl, hp, ht, rfl⟩

theorem updateByID_error (e : Err) (h : (updateByID id fn).run s = (.error e, s')) : s' = s :=
  write_error h

theorem find_by_id {hash : String} (hst : (s.families.find? fun q => q.tokens.any fun r =>
    r.tokenHash == hash) = some st) (hf : hydrate st = .ok f) :
    (s.families.find? fun q => q.row.id == f.id) = some st := by
  refine Table.find?_eq_of_mem (fun a b ha hb => .inl ?_) (Table.mem_of_find? hst).1 ?_
  · exact (beq_iff_eq.mp ha).trans (beq_iff_eq.mp hb).symm
  · exact beq_iff_eq.mpr (hydrate_family_ok hf).1.symm

theorem hydrate_eq (hf : hydrate st = .ok f) :
    f.tokens = (RefreshToken.listRefreshTokensInFamily st).map TokenRow.toToken ∧
    f.revokedAt = timeFromPg st.row.revokedAt := by
  have hl : RefreshToken.loadFamilyByID [st, st] = some f := congrArg Except.toOption hf
  exact RefreshToken.loadFamilyByID_eq hl

theorem find_persisted {t : Table Stored Stored.Clash} (hid : st.row.id = id)
    (hf : (s.families.find? fun q => q.row.id == id) = some st) (hp : persist w st = some st')
    (hu : s.families.update (fun q => q.row.id == id) (fun _ => st') = some t) :
    (t.find? fun q => q.row.id == id) = some st' := by
  have hrow : st'.row.id = id := by
    obtain ⟨rows, -, rfl⟩ := Option.map_eq_some_iff.mp hp
    exact hid
  rw [Table.find?_update hu fun _ _ => beq_iff_eq.mpr hrow, hf, Option.map_some]

end Family

/-! ### After the rotation -/

structure Idle (s₁ : Store) (ex : Execution Store Call) : Prop where
  store : ex.store = s₁
  late : ∀ x ∈ ex.failed, ¬ BeforeRotation x

structure Settled (s₁ : Store) (f : Family) (presented : TokenHash) (now : Time)
    (ex : Execution Store Call) : Prop where
  late : ∀ x ∈ ex.failed, ¬ BeforeRotation x
  family : ex.store = s₁ ∨
    (∃ reason, (updateByID f.id (revokeFn reason now)).run s₁ = (.ok (), ex.store)) ∧
      (ex.failed ≠ [] ∨ Grounds s₁ f presented)

section Settled

variable {outage : Outage} {s₁ : Store} {f : Family} {presented : TokenHash} {now : Time}
  {ex ex' : Execution Store Call} {α : Type} {k : Call} {x : Repo α} {r : Except Err α}

theorem Idle.settled (h : Idle s₁ ex) : Settled s₁ f presented now ex := ⟨h.late, .inl h.store⟩

theorem late_append {fs : List (Faults.Failure Call)} {b : Bool}
    (h : ∀ x ∈ fs, ¬ BeforeRotation x) (hk : ¬ BeforeRotation ⟨k, b⟩) :
    ∀ x ∈ fs ++ [⟨k, b⟩], ¬ BeforeRotation x := List.forall_mem_append.mpr ⟨h, by simpa using hk⟩

theorem Idle.answer (h : Idle s₁ ex) (hr : ∀ s, (x.run s).2 = s)
    (hk : ∀ b, ¬ BeforeRotation ⟨k, b⟩) (ha : Answer (plan outage) k x ex r ex') : Idle s₁ ex' := by
  cases ha with
  | ok hru => exact ⟨(congrArg Prod.snd hru).symm.trans ((hr _).trans h.store), h.late⟩
  | failed e => exact ⟨h.store, late_append h.late (hk _)⟩
  | lost e hru =>
    exact ⟨(congrArg Prod.snd hru).symm.trans ((hr _).trans h.store), late_append h.late (hk _)⟩
  | error hru _ => exact h

theorem rejectRevoking_settled {reason : String} (h : Idle s₁ ex)
    (hw : ex.failed ≠ [] ∨ Grounds s₁ f presented) :
    Ends (Settled s₁ f presented now) (rejectRevoking outage f.id reason now : Handler α) ex := by
  have ha : Answer (plan outage) .revoke (updateByID f.id (revokeFn reason now)) ex _ _ :=
    call_answer fun e s' => updateByID_error e
  show Settled s₁ f presented now ((call (plan outage) .revoke _).run ex).2
  have hk : ∀ b, ¬ BeforeRotation ⟨.revoke, b⟩ := fun b => by simp [BeforeRotation]
  generalize ((call (plan outage) .revoke _).run ex).2 = ex' at ha ⊢
  generalize ((call (plan outage) .revoke _).run ex).1 = r at ha
  cases ha with
  | ok hr => exact ⟨h.late, .inr ⟨⟨reason, h.store ▸ hr⟩, hw⟩⟩
  | failed e => exact ⟨late_append h.late (hk _), .inl h.store⟩
  | lost e hr =>
    exact ⟨late_append h.late (hk _), .inr ⟨⟨reason, h.store ▸ hr⟩, .inl (by simp)⟩⟩
  | error hr _ => exact h.settled

theorem noMembership {p : String} {e : Err} {s : Store}
    (hr : (MembershipRepository.getActiveForPerson p).run s = (.error e, s))
    (ha : (plan outage).isFailure e = false) :
    ∀ st ∈ s.memberships, st.row.personID = p → st.row.status ≠ .active := by
  have he := congrArg Prod.fst hr
  rw [MembershipRepository.getActiveForPerson, query_apply] at he
  split at he
  · rename_i hnone
    intro st hst hp hac
    exact absurd (List.find?_eq_none.mp hnone st hst) (by simp [hp, hac])
  · unfold MembershipRepository.hydrate at he
    split at he
    · cases he
    · obtain rfl := Except.error.inj he
      exact absurd ha (by simp [plan, Err.is, Err.foreign])

theorem reissue_settled (pair : MintPair) (d : Draws) :
    Ends (Settled s₁ f presented (d.now 0)) (reissue outage f pair d) ⟨s₁, []⟩ := by
  have hi : Idle s₁ ⟨s₁, []⟩ := ⟨rfl, by simp⟩
  refine ends_call_bind (fun _ _ h => (congrArg Prod.snd h).symm)
    (fun _ _ ha _ => (hi.answer (fun _ => rfl) (by simp [BeforeRotation]) ha).settled)
    fun p s hp => ?_
  obtain ⟨hp, rfl⟩ := query_eq_ok.mp hp
  obtain ⟨hme, hid⟩ := Table.mem_of_find? (orNotFound_ok hp)
  replace hid : p.id = f.personID := beq_iff_eq.mp hid
  split
  · rename_i hg
    refine rejectRevoking_settled hi (.inr (.person p hme hid ?_))
    simpa using hg
  refine ends_call_bind (fun _ _ h => (congrArg Prod.snd h).symm)
    (fun _ _ ha _ => (hi.answer (fun _ => rfl) (by simp [BeforeRotation]) ha).settled)
    fun tn s htn => ?_
  obtain ⟨htn, rfl⟩ := query_eq_ok.mp htn
  have ht : tn.id = f.tenantID := beq_iff_eq.mp (Table.mem_of_find? (orNotFound_ok htn)).2
  refine ends_attempt_call_bind (fun _ _ h => (congrArg Prod.snd h).symm) fun active ex' ha => ?_
  have hi' := hi.answer (fun _ => rfl) (by simp [BeforeRotation]) ha
  cases ha with
  | failed e | lost e hr => exact rejectRevoking_settled hi' (.inl (by simp))
  | error hr han =>
    exact rejectRevoking_settled hi' (.inr (.noMembership (hid ▸ noMembership hr han)))
  | ok hr =>
    rename_i m s
    obtain ⟨hm, rfl⟩ := query_eq_ok.mp hr
    dsimp only
    split
    · rename_i ho
      split at hm
      · cases hm
      rename_i st hst
      obtain ⟨hsm, hs⟩ := Table.mem_of_find? hst
      rw [Bool.and_eq_true, beq_iff_eq, beq_iff_eq] at hs
      refine rejectRevoking_settled hi' (.inr (.otherTenant st hsm (hs.1.trans hid) hs.2 ?_))
      rw [← MembershipRepository.hydrate_tenantID hm, ← ht]
      exact ho
    refine ends_call_bind (fun _ _ h => (congrArg Prod.snd h).symm)
      (fun _ _ ha _ => (hi.answer (fun _ => rfl) (by simp [BeforeRotation]) ha).settled)
      fun auth s hau => ?_
    obtain rfl := congrArg Prod.snd hau
    refine ends_call_bind (fun _ _ h => (congrArg Prod.snd h).symm)
      (fun _ _ ha _ => (hi.answer (fun _ => rfl) (by simp [BeforeRotation]) ha).settled)
      fun access s hac => ?_
    obtain rfl := congrArg Prod.snd hac
    exact hi.settled

end Settled

/-! ### The whole execution -/

inductive Outcome (ttl : Duration) (d : Draws) (s : Store) (st : Stored) (f : Family)
    (presented : TokenHash) (ex : Execution Store Call) : Prop
  | untouched : ex.store = s →
      (Presentable f presented (d.now 0) → 0 < ttl → ∀ x ∈ ex.failed, BeforeRotation x) →
      Outcome ttl d s st f presented ex
  | reused (t : Token) : f.findToken presented = some t → t.isConsumed = true →
      Outcome ttl d s st f presented ex
  | rotated (newHash : TokenHash) (w : Family) (st' : Stored) (t : Table Stored Stored.Clash) :
      f.rotate presented newHash ttl (d.now 0) d.tokenID = (w, none) → persist w st = some st' →
      s.families.update (fun q => q.row.id == f.id) (fun _ => st') = some t →
      Settled { s with families := t } f presented (d.now 0) ex →
      Outcome ttl d s st f presented ex

section

variable {c : Crypto} {outage : Outage} {ttl : Duration} {d : Draws} {s : Store} {st : Stored}
  {f : Family} {presented : TokenHash} {ex' : Execution Store Call} {pair : MintPair}

theorem mint_hash {p : Option String} (h : mint c p = .ok pair) : pair.hash.isZero = false := by
  unfold mint at h
  split at h
  · cases h
  split at h
  · cases h
  rename_i hash hh
  cases h
  have hr := newTokenHash_ok hh
  subst hr
  unfold newTokenHash at hh
  simp only [TokenHash.isZero, beq_eq_false_iff_ne]
  intro he
  rw [if_pos he] at hh
  cases hh

theorem rotate_of_presentable {newHash : TokenHash} {now : Time} {nextID : String}
    (hp : Presentable f presented now) (hn : newHash.isZero = false) (ht : 0 < ttl) :
    (f.rotate presented newHash ttl now nextID).2 = none := by
  obtain ⟨hl, t, hf, hc, he⟩ := hp
  unfold Family.rotate
  rw [if_neg (by simp [hl]), if_neg (by simp [hn]), if_neg (Int.not_le.mpr ht), hf]
  dsimp only
  rw [if_neg (by simp [hc]), if_neg (by simp [he])]

theorem untouched_answer {α : Type} {k : Call} {x : Repo α} {r : Except Err α}
    (hr : ∀ s, (x.run s).2 = s) (hk : ∀ b, BeforeRotation ⟨k, b⟩)
    (ha : Answer (plan outage) k x ⟨s, []⟩ r ex') : Outcome ttl d s st f presented ex' := by
  cases ha with
  | ok hru => exact .untouched ((congrArg Prod.snd hru).symm.trans (hr _)) (by simp)
  | failed e => exact .untouched rfl (by simpa using fun _ _ => hk false)
  | lost e hru =>
    exact .untouched ((congrArg Prod.snd hru).symm.trans (hr _)) (by simpa using fun _ _ => hk true)
  | error hru _ => exact .untouched rfl (by simp)

theorem rotation_committed {s₁ : Store}
    (hid : (s.families.find? fun q => q.row.id == f.id) = some st) (hf : hydrate st = .ok f)
    (hpa : pair.hash.isZero = false)
    (hru : (updateByID f.id (rotateFn presented pair.hash ttl (d.now 0) d.tokenID)).run s =
    (.ok (), s₁)) (hs : (f.rotate presented pair.hash ttl (d.now 0) d.tokenID).2 = none →
    Settled s₁ f presented (d.now 0) ex')
    (hsp : (f.rotate presented pair.hash ttl (d.now 0) d.tokenID).2 ≠ none → ex'.store = s₁) :
    Outcome ttl d s st f presented ex' := by
  obtain ⟨st₀, f₀, hfi₀, hl₀, hd⟩ := updateByID_done hru
  cases hid.symm.trans hfi₀
  cases hf.symm.trans hl₀
  rcases hro : f.rotate presented pair.hash ttl (d.now 0) d.tokenID with ⟨w, _ | e⟩
  · have hfn : rotateFn presented pair.hash ttl (d.now 0) d.tokenID f = (w, .ok true) := by
      unfold rotateFn
      rw [hro]
    rcases hd with ⟨-, hfa⟩ | ⟨w', st', t, hw, hpe, hu, rfl⟩
    · rw [hfn] at hfa
      cases hfa
    · obtain rfl : w = w' := congrArg Prod.fst (hfn.symm.trans hw)
      exact .rotated pair.hash w st' t hro hpe hu (hs (by rw [hro]))
  · by_cases hr : e.is errReuseDetected = true
    · obtain ⟨-, -, -, t, ht, hc⟩ := rotate_reuse_iff.mp ⟨e, by rw [hro], hr⟩
      exact .reused t ht hc
    · have hfn : rotateFn presented pair.hash ttl (d.now 0) d.tokenID f = (w, .ok false) := by
        unfold rotateFn
        rw [hro]
        exact if_neg hr
      have hst : ex'.store = s₁ := hsp (by rw [hro]; exact Option.some_ne_none e)
      rcases hd with ⟨rfl, -⟩ | ⟨w', st', t, hw, -⟩
      · refine .untouched hst fun hp htt => ?_
        have hnone : (f.rotate presented pair.hash ttl (d.now 0) d.tokenID).2 = none :=
          rotate_of_presentable hp hpa htt
        rw [hro] at hnone
        cases hnone
      · rw [hfn] at hw
        cases hw

theorem handle_outcome {cmd : RefreshCommand}
    (hst : (s.families.find? fun q => q.tokens.any fun r =>
      r.tokenHash == c.hashOf cmd.refreshTokenPlain) = some st) (hf : hydrate st = .ok f) :
    Outcome ttl d s st f ⟨c.hashOf cmd.refreshTokenPlain⟩ (execute outage c ttl cmd d s) := by
  have hid := find_by_id hst hf
  show Ends (Outcome ttl d s st f ⟨c.hashOf cmd.refreshTokenPlain⟩) _ ⟨s, []⟩
  unfold handle
  rcases hp : newTokenHash (c.hashOf cmd.refreshTokenPlain) with e | presented
  · exact .untouched rfl (by simp)
  obtain rfl := newTokenHash_ok hp
  refine ends_attempt_call_bind (fun _ _ h => (congrArg Prod.snd h).symm) fun found ex ha => ?_
  have hs : Outcome ttl d s st f ⟨c.hashOf cmd.refreshTokenPlain⟩ ex :=
    untouched_answer (fun _ => rfl) (by simp [BeforeRotation]) ha
  rcases found with e | family
  · dsimp only
    split
    · exact hs
    · exact hs
  cases ha with
  | ok hru =>
    obtain ⟨hfo, rfl⟩ := query_eq_ok.mp hru
    rw [hst] at hfo
    cases hf.symm.trans hfo
    refine ends_call_bind (fun _ _ h => (congrArg Prod.snd h).symm)
      (fun _ _ ha _ => untouched_answer (fun _ => rfl) (by simp [BeforeRotation]) ha)
      fun pair s₀ hmi => ?_
    obtain ⟨hm, rfl⟩ := ofExcept_eq_ok.mp hmi
    have hpa := mint_hash hm
    unfold rotateFamily
    rw [bind_assoc]
    refine ends_call_bind (fun e s' => updateByID_error e) (fun r ex' ha he => ?_)
      fun _ s₁ hru => ?_
    · cases ha with
      | ok hru => exact nomatch he
      | failed e => exact .untouched rfl (by simp [BeforeRotation])
      | error hru _ => exact .untouched rfl (by simp)
      | lost e hru =>
        refine rotation_committed hid hf hpa hru (fun _ => ⟨?_, .inl rfl⟩) fun _ => rfl
        simp [BeforeRotation]
    · refine rotation_committed hid hf hpa hru (fun hro => ?_) (fun hro => ?_)
      · rw [hro]
        exact reissue_settled pair d
      · rcases hr : (f.rotate ⟨c.hashOf cmd.refreshTokenPlain⟩ pair.hash ttl (d.now 0)
          d.tokenID).2 with _ | e
        · exact absurd hr hro
        · rfl

end

/-! ## Failures before and after the rotation -/

section Spent

variable {ttl : Duration} {now : Time} {nextID : String} {s s' : Store} {st st' : Stored}
  {f f' w : Family} {presented newHash : TokenHash}

theorem findToken_hash {t : Token} (h : f.findToken presented = some t) :
    t.hash = presented := by
  simpa using List.find?_some h

theorem findToken_rotated (hwf : st.WF) (hc : now ≠ 0)
    (hfr : nextID ∉ st.tokens.map TokenRow.id) (hf : hydrate st = .ok f)
    (hr : f.rotate presented newHash ttl now nextID = (w, none))
    (hp : persist w st = some st') (hf' : hydrate st' = .ok f') :
    ∃ t, f'.findToken presented = some t ∧ t.isConsumed = true := by
  obtain ⟨-, -, -, t, hfi, -, -, -⟩ := Family.rotate_ok hr
  have hl := (hydrate_eq hf).1
  have hl' := (hydrate_eq hf').1
  let r : Rotation := ⟨presented, newHash, ttl, now, nextID⟩
  obtain ⟨g, hne, hto⟩ := RefreshToken.persist_rotation hwf (r := r)
    (congrArg Except.toOption hf) hr hfr hp
  obtain ⟨row, hrow, rfl⟩ := (mem_loaded hl).mp (List.mem_of_find?_eq_some hfi)
  have hh : row.tokenHash = presented.value := congrArg TokenHash.value (findToken_hash hfi)
  have hs : r.updateRow row ∈ st'.tokens := by
    rw [hto]
    exact List.mem_append_left _ (List.mem_map_of_mem hrow)
  have hso : (f'.findToken presented).isSome = true := by
    refine List.find?_isSome.mpr ⟨(r.updateRow row).toToken,
      (mem_loaded hl').mpr ⟨_, hs, rfl⟩, beq_iff_eq.mpr ?_⟩
    exact congrArg TokenHash.mk (Rotation.updateRow_tokenHash.trans hh)
  obtain ⟨t, ht⟩ := Option.isSome_iff_exists.mp hso
  refine ⟨t, ht, ?_⟩
  obtain ⟨row', hrow', rfl⟩ := (mem_loaded hl').mp (List.mem_of_find?_eq_some ht)
  have hh' : row'.tokenHash = presented.value := congrArg TokenHash.value (findToken_hash ht)
  rw [hto] at hrow'
  rcases List.mem_append.mp hrow' with hold | hn
  · obtain ⟨q, -, rfl⟩ := List.mem_map.mp hold
    rw [Rotation.updateRow_tokenHash] at hh'
    unfold Rotation.updateRow
    rw [if_pos hh']
    simp [Token.isConsumed, TokenRow.toToken, TokenRow.consume, Time.isZero, r, hc]
  · rw [List.mem_singleton.mp hn] at hh'
    exact absurd (List.mem_map.mpr ⟨row, hrow, hh.trans hh'.symm⟩) hne

theorem not_spared_of_consumed {id : String}
    (hf : (s.families.find? fun q => q.row.id == id) = some st)
    (hc : ∀ f, hydrate st = .ok f → ∃ t, f.findToken presented = some t ∧
    t.isConsumed = true) : ¬ Spared s id presented := by
  rintro ⟨st₀, f₀, hf₀, hl, hli, hno⟩
  cases hf.symm.trans hf₀
  obtain ⟨e, he, hr⟩ : ∃ e, (f₀.rotate presented ⟨"next"⟩ 1 0 "").2 = some e ∧
      e.is errReuseDetected = true := rotate_reuse_iff.mpr ⟨hli, by decide, by decide, hc f₀ hl⟩
  exact absurd hr (by simp [hno _ _ _ _ _ he])

theorem not_spared_of_revoked {reason id : String} (hc : now ≠ 0)
    (hru : (updateByID id (revokeFn reason now)).run s = (.ok (), s')) :
    ¬ Spared s' id presented := by
  rintro ⟨st', f', hf', hl', hli, -⟩
  obtain ⟨st, f, hf, hl, ⟨-, hfa⟩ | ⟨w, st'', t, hfn, hp, hu, rfl⟩⟩ := updateByID_done hru
  · unfold revokeFn at hfa
    split at hfa <;> simp at hfa
  have hid : st.row.id = id := beq_iff_eq.mp (Table.mem_of_find? hf).2
  obtain rfl := Option.some.inj ((find_persisted hid hf hp hu).symm.trans hf')
  have hr : f'.revokedAt = w.revokedAt := by
    rw [(hydrate_eq hl').2, RefreshToken.persist_revokedAt hp, timeFromPg_pgTimestamp]
  have hw : w.isRevoked = true := by
    rcases Family.revoke_ok (RefreshToken.revokeFn_persists hfn) with ⟨h, rfl⟩ | ⟨-, h, -⟩
    · exact h
    · exact isRevoked_iff.mpr (h ▸ hc)
  rw [isRevoked_iff, ← hr, ← isRevoked_iff, hli] at hw
  cases hw

end Spent

structure Regular (ttl : Duration) (d : Draws) (st : Stored) : Prop where
  rows : st.WF
  ttl : 0 < ttl
  clock : d.now 0 ≠ 0
  fresh : d.tokenID ∉ st.tokens.map TokenRow.id

section

variable {c : Crypto} {outage : Outage} {ttl : Duration} {cmd : RefreshCommand} {d : Draws}
  {s : Store} {st : Stored} {f : Family} {presented : TokenHash} {ex : Execution Store Call}

theorem Presentable.not_consumed {now : Time} {t : Token}
    (hp : Presentable f presented now) (hf : f.findToken presented = some t) :
    t.isConsumed = false := by
  obtain ⟨-, t', hf', hc, -⟩ := hp
  cases hf.symm.trans hf'
  exact hc

theorem Presentable.spared {now : Time} (hp : Presentable f presented now)
    (hid : (s.families.find? fun q => q.row.id == f.id) = some st) (hf : hydrate st = .ok f) :
    Spared s f.id presented := by
  refine ⟨st, f, hid, hf, hp.1, fun newHash ttl now nextID e he => ?_⟩
  by_contra hr
  obtain ⟨-, -, -, t, hfi, hc⟩ := rotate_reuse_iff.mp ⟨e, he, Bool.of_not_eq_false hr⟩
  exact absurd hc (by simp [hp.not_consumed hfi])

theorem not_revoked_of_zero {id : String}
    (hid : (s.families.find? fun q => q.row.id == id) = some st)
    (hz : timeFromPg st.row.revokedAt = 0) : ¬ Revoked s id := by
  rintro ⟨st', hst', hr⟩
  cases hid.symm.trans hst'
  exact hr hz

theorem Grounds.of_families {t : Table Stored Stored.Clash}
    (h : Grounds { s with families := t } f presented) : Grounds s f presented := by
  cases h with
  | reuse t hf hc => exact .reuse t hf hc
  | person p hp hid hg => exact .person p hp hid hg
  | noMembership hnone => exact .noMembership hnone
  | otherTenant m hm hpe ha ho => exact .otherTenant m hm hpe ha ho

theorem Outcome.kept (h : Outcome ttl d s st f presented ex)
    (hid : (s.families.find? fun q => q.row.id == f.id) = some st) (hf : hydrate st = .ok f)
    (hb : Presentable f presented (d.now 0) → ∀ x ∈ ex.failed, BeforeRotation x) :
    Kept s f presented (d.now 0) ex := by
  have hz : f.isRevoked = false → f.revokedAt = 0 := fun hl => by
    simpa [Family.isRevoked, Time.isZero] using hl
  cases h with
  | untouched hs _ =>
    refine ⟨fun hp _ => hs ▸ hp.spared hid hf, fun hl hr => ?_⟩
    refine absurd (hs ▸ hr) (not_revoked_of_zero hid ?_)
    rw [← (hydrate_eq hf).2, hz hl]
  | reused t hfi hc =>
    refine ⟨fun hp => ?_, fun _ _ => .reuse t hfi hc⟩
    exact absurd hc (by simp [hp.not_consumed hfi])
  | rotated newHash w st' t hro hpe hu hse =>
    obtain ⟨hl, -, -, tip, hfi, hc, he, rfl⟩ := Family.rotate_ok hro
    have hnone : ex.failed = [] := by
      refine List.eq_nil_iff_forall_not_mem.mpr fun x hx => hse.late x hx ?_
      exact hb ⟨hl, tip, hfi, hc, he⟩ x hx
    refine ⟨fun _ hfa => absurd hnone hfa, fun _ hr => ?_⟩
    rcases hse.family with hs | ⟨-, hfa | hg⟩
    · -- The rotation itself revokes nothing.
      refine absurd (hs ▸ hr) (not_revoked_of_zero
        (find_persisted (hydrate_family_ok hf).1.symm hid hpe hu) ?_)
      rw [RefreshToken.persist_revokedAt hpe, timeFromPg_pgTimestamp]
      exact hz hl
    · exact absurd hnone hfa
    · exact hg.of_families

theorem Outcome.before (h : Outcome ttl d s st f presented ex)
    (hid : (s.families.find? fun q => q.row.id == f.id) = some st) (hf : hydrate st = .ok f)
    (hr : Regular ttl d st) (hk : Kept s f presented (d.now 0) ex)
    (hp : Presentable f presented (d.now 0)) : ∀ x ∈ ex.failed, BeforeRotation x := by
  intro x hx
  cases h with
  | untouched _ hb => exact hb hp hr.ttl x hx
  | reused t hfi hc => exact absurd hc (by simp [hp.not_consumed hfi])
  | rotated newHash w st' t hro hpe hu hse =>
    have hs := hk.spared hp (List.ne_nil_of_mem hx)
    rcases hse.family with hst | ⟨⟨reason, hru⟩, -⟩
    · rw [hst] at hs
      refine absurd hs (not_spared_of_consumed
        (find_persisted (hydrate_family_ok hf).1.symm hid hpe hu) fun f' hf' => ?_)
      exact findToken_rotated hr.rows hr.clock hr.fresh hf hro hpe hf'
    · exact absurd hs (not_spared_of_revoked hr.clock hru)

theorem session_kept_iff (c : Crypto) (outage : Outage) (ttl : Duration) (cmd : RefreshCommand)
    (d : Draws) (s : Store) (st : Stored) (f : Family)
    (hst : (s.families.find? fun q => q.tokens.any fun r =>
      r.tokenHash == c.hashOf cmd.refreshTokenPlain) = some st) (hf : hydrate st = .ok f) :
    let presented : TokenHash := ⟨c.hashOf cmd.refreshTokenPlain⟩
    let ex := execute outage c ttl cmd d s
    ((Presentable f presented (d.now 0) → ∀ x ∈ ex.failed, BeforeRotation x) →
      Kept s f presented (d.now 0) ex) ∧
    (Regular ttl d st → Kept s f presented (d.now 0) ex →
      Presentable f presented (d.now 0) → ∀ x ∈ ex.failed, BeforeRotation x) := by
  intro presented ex
  have hid := find_by_id hst hf
  have ho : Outcome ttl d s st f presented ex := handle_outcome hst hf
  exact ⟨ho.kept hid hf, ho.before hid hf⟩

end

/-! ### Samples -/

def failing (k : Call) : Outage :=
  fun k' => if k' = k then some (.refused (.foreign "timeout")) else none

def interrupted (outage : Outage) : Execution Store Call :=
  execute outage sampleCrypto 1000 ⟨"a"⟩ sampleDraws
    (signedInStore samplePerson sampleTenant (sampleCrypto.hashOf "a"))

theorem presentable_sample :
    Presentable (signedInFamily samplePerson sampleTenant (sampleCrypto.hashOf "a"))
    ⟨sampleCrypto.hashOf "a"⟩ 5 := by
  have hf : (signedInFamily samplePerson sampleTenant (sampleCrypto.hashOf "a")).findToken
      ⟨sampleCrypto.hashOf "a"⟩ = some ⟨"first", ⟨sampleCrypto.hashOf "a"⟩, 0, 1, 10, 0, ""⟩ := by
    simp [Family.findToken, signedInFamily]
  exact ⟨by decide, _, hf, by decide, by decide⟩

theorem regular_sample : Regular 1000 sampleDraws
    (signedInRows samplePerson sampleTenant (sampleCrypto.hashOf "a")) where
  rows := ⟨List.nodup_singleton _, List.nodup_singleton _, by decide, by decide⟩
  ttl := by decide
  clock := by decide
  fresh := by decide

theorem rotation_failed :
    Regular 1000 sampleDraws (signedInRows samplePerson sampleTenant (sampleCrypto.hashOf "a")) ∧
    (interrupted (failing .rotate)).failed = [⟨.rotate, false⟩] ∧
    Spared (interrupted (failing .rotate)).store "family" ⟨sampleCrypto.hashOf "a"⟩ := by
  have hf : (interrupted (failing .rotate)).failed = [⟨.rotate, false⟩] := by decide +kernel
  have hk := (session_kept_iff sampleCrypto (failing .rotate) 1000 ⟨"a"⟩ sampleDraws
    (signedInStore samplePerson sampleTenant (sampleCrypto.hashOf "a")) _ _ (by rfl)
    (hydrate_signedInRows sampleTenant sampleCrypto_sound)).1 fun _ x hx => by
      obtain rfl := List.mem_singleton.mp (hf ▸ hx)
      exact .inr (.inr ⟨rfl, rfl⟩)
  have hs : (interrupted (failing .rotate)).failed ≠ [] := by simp [hf]
  exact ⟨regular_sample, hf, hk.spared presentable_sample hs⟩

theorem no_grounds_sample :
    ¬ Grounds (signedInStore samplePerson sampleTenant (sampleCrypto.hashOf "a"))
    (signedInFamily samplePerson sampleTenant (sampleCrypto.hashOf "a"))
    ⟨sampleCrypto.hashOf "a"⟩ := by
  intro h
  cases h with
  | reuse t hf hc => exact absurd hc (by simp [presentable_sample.not_consumed hf])
  | person p hp _ hg =>
    obtain rfl := List.mem_singleton.mp hp
    exact absurd hg (by decide)
  | noMembership hnone => exact hnone _ (List.mem_singleton_self _) rfl rfl
  | otherTenant st hst _ _ ho =>
    obtain rfl := List.mem_singleton.mp hst
    exact ho rfl

def spentRows : Stored where
  row := ⟨"family", "p1", "t1", "phone", 1, 5, none, none⟩
  tokens := [⟨"first", sampleCrypto.hashOf "a", 0, 1, 10, some 5, some "second"⟩,
    ⟨"second", sampleCrypto.hashOf "b", 1, 5, 1005, none, none⟩]

theorem session_lost : ¬ Kept (signedInStore samplePerson sampleTenant (sampleCrypto.hashOf "a"))
    (signedInFamily samplePerson sampleTenant (sampleCrypto.hashOf "a"))
    ⟨sampleCrypto.hashOf "a"⟩ 5 (interrupted (failing .issue)) ∧
    Revoked (execute (fun _ => none) sampleCrypto 1000 ⟨"a"⟩
    { sampleDraws with plain := some "c", tokenID := "third" }
        (interrupted (failing .issue)).store).store "family" ∧
      ¬ Kept (signedInStore samplePerson sampleTenant (sampleCrypto.hashOf "a"))
        (signedInFamily samplePerson sampleTenant (sampleCrypto.hashOf "a"))
        ⟨sampleCrypto.hashOf "a"⟩ 5 (interrupted (failing .getActiveForPerson)) := by
  refine ⟨fun hk => ?_, ⟨_, rfl, by decide +kernel⟩, fun hk => ?_⟩
  · refine absurd (hk.spared presentable_sample (by decide +kernel))
      (not_spared_of_consumed (show _ = some spentRows by decide +kernel) fun f hf => ?_)
    have hs : ((hydrate spentRows).toOption.bind fun f =>
        (f.findToken ⟨sampleCrypto.hashOf "a"⟩).map Token.isConsumed) = some true := by
      decide +kernel
    rw [hf] at hs
    exact Option.map_eq_some_iff.mp hs
  · exact no_grounds_sample (hk.grounds (by decide) ⟨_, rfl, by decide +kernel⟩)

end Leadkart.RefreshFaults
