import Leadkart.Identity.Exclusion
import Leadkart.Identity.RefreshRotation

/-!
# A password change and the sessions of the old password
-/

namespace Leadkart

open List Function RefreshTokenFamilyRepository RefreshToken Effect Machine

inductive PasswordChange where
  | changePassword (newHash : String) (now : Time) (stamp : String)
  | confirmPasswordReset (presentedHash newHash : String) (now : Time) (stamp : String)

namespace PasswordChange

def newHash : PasswordChange → String
  | changePassword h _ _ => h
  | confirmPasswordReset _ h _ _ => h

def fn : PasswordChange → Person → Person × Except Err Bool
  | changePassword h now stamp, p =>
    match p.changePassword h now stamp with
    | (p', some e) => (p', .error e)
    | (p', none) =>
      match p'.cancelPasswordReset "password-changed-directly" now with
      | (p'', some e) => (p'', .error e)
      | (p'', none) => (p'', .ok true)
  | confirmPasswordReset presented h now stamp, p =>
    match p.confirmPasswordReset presented h now stamp with
    | (p', some e) => (p', .error e)
    | (p', none) => (p', .ok true)

end PasswordChange

inductive LoginPhase where
  | idle
  | verified (cmd : LoginCommand) (p : Person) (m : Membership)
  | finished

inductive CascadePhase where
  | waiting
  | revoking (pending : List String) (now : Time)
  | failed
  deriving DecidableEq

structure Sessions where
  store : Store
  logins : Nat → LoginPhase := fun _ => .idle
  cascade : CascadePhase := .waiting
  /-- The hash that the change replaced. -/
  replaced : Option String := none
  /-- For each family that a login of the run inserted, the hash that the login had verified. -/
  opened : List (String × String) := []

namespace Sessions

inductive Label where
  | verify (i : Nat) (cmd : LoginCommand) (now : Nat → Time)
  | insert (i : Nat) (d : Draws)
  | change (ch : PasswordChange)
  | list (now : Time)
  | revoke

def reason : String := "password_changed"

section

variable (c : Crypto) (ttl : Duration) (personID : String)

def step (w : Sessions) : Label → Option Sessions
  | .verify i cmd now =>
    match w.logins i with
    | .idle =>
      match (resolveAndVerify c cmd now).run w.store with
      | (.ok (p, m), s') =>
        some { w with store := s', logins := Function.update w.logins i (.verified cmd p m) }
      | (.error _, s') =>
        some { w with store := s', logins := Function.update w.logins i .finished }
    | _ => none
  | .insert i d =>
    match w.logins i with
    | .verified cmd p m =>
      let s' := ((finishLogin c ttl cmd p m d).run w.store).2
      some { w with
        store := s'
        logins := Function.update w.logins i .finished
        opened := if s'.families = w.store.families then w.opened
          else (d.familyID, p.passwordHash) :: w.opened }
    | _ => none
  | .change ch =>
    match w.replaced, w.store.persons.find? fun p => p.id == personID with
    | none, some p =>
      if ch.newHash = p.passwordHash then none
      else
        match (PersonRepository.updateByID personID ch.fn).run w.store with
        | (.ok (), s') => some { w with store := s', replaced := some p.passwordHash }
        | (.error _, _) => none
    | _, _ => none
  | .list now =>
    if w.replaced = none ∨ now = 0 ∨ w.cascade ≠ .waiting then none
    else
      match (listActiveForPerson personID).run w.store with
      | (.ok actives, s') =>
        some { w with
          store := s', cascade := .revoking (actives.map Family.id) now }
      | (.error _, s') => some { w with store := s', cascade := .failed }
  | .revoke =>
    match w.cascade with
    | .revoking (id :: ids) now =>
      match (updateByID id
          (revokeFn reason now)).run w.store with
      | (.ok (), s') => some { w with store := s', cascade := .revoking ids now }
      | (.error _, s') => some { w with store := s', cascade := .failed }
    | _ => none

end

def Returned (w : Sessions) : Prop := ∃ now, w.cascade = .revoking [] now

def InTime (personID : String) (w : Sessions) : Label → Prop
  | .insert i _ =>
    match w.logins i with
    | .verified _ p _ => p.id = personID →
        w.cascade = .waiting ∨ w.replaced ≠ some p.passwordHash
    | _ => True
  | _ => True

instance (personID : String) (w : Sessions) : (l : Label) → Decidable (InTime personID w l)
  | .insert i _ =>
    match h : w.logins i with
    | .verified _ p _ => decidable_of_iff
        (p.id = personID → w.cascade = .waiting ∨ w.replaced ≠ some p.passwordHash)
        (by simp only [InTime, h])
    | .idle => .isTrue (by simp only [InTime, h])
    | .finished => .isTrue (by simp only [InTime, h])
  | .verify .. | .change _ | .list _ | .revoke => .isTrue trivial

section

variable {c : Crypto} {ttl : Duration} {s s' : Store} {personID : String}
  {id : String} {now : Time} {f : Family}

theorem familyNew_ok {pid tid label t : String} {hash : TokenHash}
    (h : Family.new id pid tid label hash ttl now t = .ok f) :
    f.id = id ∧ f.personID = pid := by
  unfold Family.new at h
  repeat
    split at h
    · cases h
  cases h
  exact ⟨rfl, rfl⟩

theorem insertRows_ok {st : Stored} (h : insertRows f = some st) :
    st.row.id = f.id ∧ st.row.personID = f.personID := by
  unfold insertRows at h
  split at h
  · obtain ⟨tokens, -, rfl⟩ := Option.map_eq_some_iff.mp h
    exact ⟨rfl, rfl⟩
  · cases h

def Opens (p : Person) (d : Draws) (s s' : Store) : Prop :=
  ∃ st t, s.families.insert st = some t ∧ st.row.id = d.familyID ∧ st.row.personID = p.id ∧
    s' = { s with families := t }

theorem openFamily_store (label : String) (p : Person) (tn : Tenant) (d : Draws) (s : Store) :
    ((openFamily c ttl label p tn d).run s).2 = s ∨
    Opens p d s ((openFamily c ttl label p tn d).run s).2 := by
  unfold openFamily
  rcases hm : mint c d.plain with e | pair
  · exact .inl rfl
  rcases hn : Family.new d.familyID p.id tn.id label pair.hash ttl (d.now 3)
    d.tokenID with e | f
  · left
    rw [bind_ok (mapError_eq_ok.mpr (ofExcept_eq_ok.mpr ⟨rfl, rfl⟩))]
    rw [hn]
    rfl
  obtain ⟨hid, hp⟩ := familyNew_ok hn
  rw [bind_ok (mapError_eq_ok.mpr (ofExcept_eq_ok.mpr ⟨rfl, rfl⟩)),
    bind_ok (mapError_eq_ok.mpr (ofExcept_eq_ok.mpr ⟨hn, rfl⟩))]
  rcases ha : (add f).run s with ⟨e | _, s₁⟩
  · left
    rw [bind_error (mapError_error ha)]
    exact write_error ha
  · obtain ⟨t, ht, rfl⟩ := orRefused_ok (write_eq_ok.mp ha)
    obtain ⟨st, hst, hi⟩ := Option.bind_eq_some_iff.mp ht
    right
    rw [bind_ok (mapError_eq_ok.mpr ha)]
    exact ⟨st, t, hi, (insertRows_ok hst).1.trans hid, (insertRows_ok hst).2.trans hp, rfl⟩

theorem finishLogin_store (cmd : LoginCommand) (p : Person) (m : Membership) (d : Draws)
    (s : Store) : ((finishLogin c ttl cmd p m d).run s).2 = s ∨
    Opens p d s ((finishLogin c ttl cmd p m d).run s).2 := by
  unfold finishLogin
  rcases htn : (TenantRepository.getByID m.tenantID).run s with ⟨e | tn, s₁⟩
  · left
    rw [bind_error (mapError_error htn)]
    exact (Prod.mk.inj htn).2.symm
  obtain ⟨-, rfl⟩ := query_eq_ok.mp htn
  rw [bind_ok (mapError_eq_ok.mpr htn)]
  have ho : ((openFamily c ttl cmd.deviceLabel p tn d).run s₁).2 = s₁ ∨
      Opens p d s₁ ((openFamily c ttl cmd.deviceLabel p tn d).run s₁).2 :=
    openFamily_store cmd.deviceLabel p tn d s₁
  rcases hr : (openFamily c ttl cmd.deviceLabel p tn d).run s₁ with ⟨e | pair, s₂⟩
  · rw [bind_error hr]
    rw [hr] at ho
    exact ho
  · rw [bind_ok hr]
    rw [hr] at ho
    -- What is left reads roles and signs the token.
    exact Keeps.bind (I := fun u => u = s₁ ∨ Opens p d s₁ u)
      (Keeps.mapError (.bind (keeps_read _) fun _ => keeps_pure _) _)
      (fun auth => .bind ((keeps_ofExcept _).mapError _) fun _ => keeps_pure _) s₂ ho

theorem listActive_ok {ac : List Family}
    (h : (listActiveForPerson personID).run s = (.ok ac, s')) :
    s' = s ∧ ∀ st ∈ s.families, st.row.personID = personID → st.row.revokedAt = none →
    st.row.id ∈ ac.map Family.id := by
  obtain ⟨hl, rfl⟩ := query_eq_ok.mp h
  refine ⟨rfl, fun st hst hp hli => ?_⟩
  have hm : st ∈ (s'.families.rows.filter fun st =>
      st.row.personID == personID && st.row.revokedAt.isNone).insertionSort
        fun a b => a.row.createdAt ≤ b.row.createdAt := by
    rw [(perm_insertionSort _ _).mem_iff, mem_filter]
    exact ⟨hst, by simp [hp, hli]⟩
  obtain ⟨f, hf, hlo⟩ := (except_mapM_mem hl).1 st hm
  exact mem_map.mpr ⟨f, hf, (hydrate_family_ok hlo).1⟩

theorem revoke_ok (hn : now ≠ 0) (h : (updateByID id (revokeFn reason now)).run s = (.ok (), s')) :
    ∀ st ∈ s'.families, st.row.revokedAt = none → st ∈ s.families ∧ st.row.id ≠ id := by
  rcases updateByID_ok h with
    ⟨-, f, hfa⟩ | ⟨st₀, st₁, t, hfi, ha, hu, rfl⟩
  · unfold revokeFn at hfa
    split at hfa <;> cases hfa
  intro st hst hl
  obtain ⟨r, hr, rfl⟩ := (Table.mem_update hu).mp hst
  by_cases hid : (r.row.id == id) = true
  · rw [if_pos hid] at hl
    obtain ⟨f', hatt, hp⟩ := Option.bind_eq_some_iff.mp ha
    obtain ⟨f, -, hfn⟩ := updateByID_attempt hatt
    have hre : f'.revokedAt ≠ 0 := by
      rcases Family.revoke_ok (revokeFn_persists hfn) with
        ⟨hf, rfl⟩ | ⟨-, hat, -⟩
      · exact isRevoked_iff.mp hf
      · rw [hat]
        exact hn
    rw [persist_revokedAt hp] at hl
    exact absurd hl (pgTimestamp_ne_none.mpr hre)
  · rw [if_neg hid] at hl ⊢
    exact ⟨hr, fun heq => hid (beq_iff_eq.mpr heq)⟩

end

/-! ## The whole run -/

def CascadePhase.Pending : CascadePhase → String → Prop
  | .revoking ids _, id => id ∈ ids
  | _, _ => True

def OpenedLater (w : Sessions) (id : String) : Prop :=
  ∃ h, w.opened.lookup id = some h ∧ w.replaced ≠ some h

structure Inv (personID : String) (w : Sessions) : Prop where
  /-- The cascade follows the change. -/
  after : w.cascade ≠ .waiting → w.replaced ≠ none
  clock : ∀ ids now, w.cascade = .revoking ids now → now ≠ 0
  live : ∀ st ∈ w.store.families, st.row.personID = personID → st.row.revokedAt = none →
    CascadePhase.Pending w.cascade st.row.id ∨ w.OpenedLater st.row.id

variable {c : Crypto} {ttl : Duration} {personID : String} {w w' : Sessions}

theorem Inv.verify (hw : w.Inv personID) {i : Nat} {cmd : LoginCommand} {now : Nat → Time}
    (h : step c ttl personID w (.verify i cmd now) = some w') : w'.Inv personID := by
  have hk : ((resolveAndVerify c cmd now).run w.store).2.families = w.store.families := by
    refine keeps_resolveAndVerify (I := fun u => u.families = w.store.families) (fun p u hu => ?_)
      cmd now w.store rfl
    obtain ⟨t, ht⟩ := updateLockoutState_store p u
    rw [ht]
    exact hu
  simp only [step] at h
  split at h
  · split at h
    all_goals
      rename_i hr
      cases h
      rw [hr] at hk
      refine ⟨hw.after, hw.clock, ?_⟩
      intro st hst
      exact hw.live st (hk ▸ hst)
  · cases h

theorem Inv.insert (hw : w.Inv personID) {i : Nat} {d : Draws}
    (hC : InTime personID w (.insert i d))
    (h : step c ttl personID w (.insert i d) = some w') : w'.Inv personID := by
  simp only [step] at h
  split at h
  swap
  · cases h
  rename_i cmd p m hlo
  have hs : ((finishLogin c ttl cmd p m d).run w.store).2 = w.store ∨
      Opens p d w.store ((finishLogin c ttl cmd p m d).run w.store).2 :=
    finishLogin_store cmd p m d w.store
  cases h
  refine ⟨hw.after, hw.clock, ?_⟩
  generalize ((finishLogin c ttl cmd p m d).run w.store).2 = s' at hs ⊢
  rcases hs with rfl | ⟨new, t, hi, hid, hp, rfl⟩
  · dsimp only
    rw [if_pos rfl]
    exact hw.live
  have hne : t ≠ w.store.families := by
    rintro rfl
    have hle := congrArg List.length (Table.insert_eq_some hi).1
    simp at hle
  rw [if_neg hne]
  intro st hst hpi hli
  rcases (Table.mem_insert hi).mp hst with hold | rfl
  · -- An older family has another id, so its entry is not hidden by the new one.
    have ho : st.row.id ≠ d.familyID := by
      intro heq
      exact (Table.insert_eq_some hi).2 st hold (.inl (heq.trans hid.symm))
    refine (hw.live st hold hpi hli).imp_right ?_
    rintro ⟨hash, hl, hr⟩
    refine ⟨hash, ?_, hr⟩
    rw [lookup_cons, beq_eq_false_iff_ne.mpr ho]
    exact hl
  · simp only [InTime, hlo] at hC
    rcases hC (hp.symm.trans hpi) with hwa | hr
    · left
      rw [hwa]
      trivial
    · right
      exact ⟨p.passwordHash, by rw [hid, lookup_cons, beq_self_eq_true], hr⟩

theorem Inv.change (hw : w.Inv personID) {ch : PasswordChange}
    (h : step c ttl personID w (.change ch) = some w') : w'.Inv personID := by
  simp only [step] at h
  split at h
  swap
  · cases h
  rename_i hnone hf
  split at h
  · cases h
  split at h
  swap
  · cases h
  rename_i s' hr
  cases h
  -- Before the change the cascade has not started.
  have hwa : w.cascade = .waiting := by
    by_contra hne
    exact hw.after hne hnone
  refine ⟨fun _ => by simp, hw.clock, fun st _ _ _ => .inl ?_⟩
  rw [hwa]
  trivial

theorem Inv.list {now : Time}
    (h : step c ttl personID w (.list now) = some w') : w'.Inv personID := by
  simp only [step] at h
  split at h
  · cases h
  rename_i hr
  obtain ⟨hre, hn, -⟩ := by simpa only [not_or] using hr
  split at h
  · rename_i actives s' hru
    cases h
    obtain ⟨rfl, ha⟩ := listActive_ok hru
    refine ⟨fun _ => hre, ?_, fun st hst hp hl => .inl (ha st hst hp hl)⟩
    intro ids now' heq
    exact (CascadePhase.revoking.inj heq).2 ▸ hn
  · rename_i e s' hru
    cases h
    exact ⟨fun _ => hre, fun ids now' heq => absurd heq (by simp), fun st _ _ _ => .inl trivial⟩

theorem Inv.revoke (hw : w.Inv personID) (h : step c ttl personID w .revoke = some w') :
    w'.Inv personID := by
  simp only [step] at h
  split at h
  swap
  · cases h
  rename_i id ids now hp
  have hr : w.replaced ≠ none := hw.after (by rw [hp]; simp)
  have hn := hw.clock (id :: ids) now hp
  split at h
  · rename_i s' hru
    cases h
    refine ⟨fun _ => hr, ?_, ?_⟩
    · intro ids' now' heq
      exact (CascadePhase.revoking.inj heq).2 ▸ hn
    · intro st hst hpi hl
      obtain ⟨hold, ho⟩ := revoke_ok hn hru st hst hl
      refine (hw.live st hold hpi hl).imp_left fun hpe => ?_
      rw [hp] at hpe
      exact (mem_cons.mp hpe).resolve_left ho
  · rename_i e s' hru
    cases h
    exact ⟨fun _ => hr, fun ids' now' heq => absurd heq (by simp), fun st _ _ _ => .inl trivial⟩

theorem Inv.step (l : Label) (hw : w.Inv personID) (hC : InTime personID w l)
    (h : Sessions.step c ttl personID w l = some w') : w'.Inv personID := by
  cases l with
  | verify i cmd now => exact hw.verify h
  | insert i d => exact hw.insert hC h
  | change ch => exact hw.change h
  | list now => exact Inv.list h
  | revoke => exact hw.revoke h

/-- After the cascade no open session rests on the replaced password. -/
theorem no_session_of_old_password (c : Crypto) (ttl : Duration) (personID : String) (s : Store)
    (ls : List Label) (w : Sessions)
    (hC : Along (Sessions.step c ttl personID) (InTime personID) { store := s } ls)
    (hrun : run (Sessions.step c ttl personID) { store := s } ls = some w) (hdone : w.Returned) :
    ∀ st ∈ w.store.families, st.row.personID = personID → st.row.revokedAt = none →
      w.OpenedLater st.row.id := by
  have hi : w.Inv personID := by
    refine run_invariant (P := Inv personID) ?_ (fun _ l _ hw hC h => hw.step l hC h) hC hrun
    exact ⟨fun hne => absurd rfl hne, fun _ _ h => absurd h (by simp), fun _ _ _ _ => .inl trivial⟩
  obtain ⟨now, hp⟩ := hdone
  intro st hst hpi hl
  refine (hi.live st hst hpi hl).resolve_left ?_
  rw [hp]
  exact not_mem_nil

def sampleSessions : Sessions :=
  { store := signedInStore samplePerson sampleTenant (sampleCrypto.hashOf "a") }

def newHash : String := "$argon2id$v=19$m=65536,t=3,p=4$another password"

def loginWith (password : String) : LoginCommand := ⟨"a@example.com", password, "laptop"⟩

def sampleChange : Label := .change (.changePassword newHash 6 "stamp-6")

def laterDraws : Draws :=
  { now := fun _ => 9, plain := some "c", familyID := "family-3", tokenID := "third" }

def inTimeRun : List Label :=
  [.verify 0 (loginWith "secret password") fun _ => 5, .insert 0 sampleDraws, sampleChange, .list 7,
   .revoke, .revoke, .verify 1 (loginWith "another password") fun _ => 9, .insert 1 laterDraws]

theorem inTimeRun_inTime :
    Along (Sessions.step sampleCrypto day "p1") (InTime "p1") sampleSessions inTimeRun := by
  decide +kernel

theorem no_session_of_old_password_in_time :
    ∃ w, run (Sessions.step sampleCrypto day "p1") sampleSessions inTimeRun = some w ∧
    (w.store.families.rows.map fun st => (st.row.id, st.row.revokedAt)) =
    [("family", some 7), ("family-2", some 7), ("family-3", none)] ∧
    ∀ st ∈ w.store.families, st.row.personID = "p1" → st.row.revokedAt = none →
    w.OpenedLater st.row.id := by
  refine ⟨_, rfl, by decide +kernel, ?_⟩
  exact no_session_of_old_password sampleCrypto day "p1" _ inTimeRun _ inTimeRun_inTime rfl ⟨7, rfl⟩

theorem old_password_session_survives :
    ∃ w, run (Sessions.step sampleCrypto day "p1") sampleSessions
    [.verify 0 (loginWith "secret password") fun _ => 5, sampleChange, .list 7, .revoke,
    .insert 0 sampleDraws] = some w ∧ w.Returned ∧ (∀ i cmd p m, w.logins i ≠ .verified cmd p m) ∧
    w.replaced = some samplePerson.passwordHash ∧
    ∃ st ∈ w.store.families, st.row.personID = "p1" ∧ st.row.revokedAt = none ∧
    w.opened.lookup st.row.id = some samplePerson.passwordHash := by
  refine ⟨_, rfl, ⟨7, rfl⟩, ?_, rfl, ?_⟩
  · intro i cmd p m hl
    rcases i with _ | i
    · exact absurd hl (by simp [update])
    · exact absurd hl (by simp [update, sampleSessions])
  · exact ⟨_, .tail _ (.head _), rfl, rfl, rfl⟩

end Sessions

end Leadkart
