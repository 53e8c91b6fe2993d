import Leadkart.Identity.Session

/-!
# Account lockout
-/

namespace Leadkart

open List Effect Leadkart.Machine Leadkart.Rmw
open Person (lockoutWindow maxFailedLogins lockoutDuration)

structure PasswordAttempt where
  cmd : LoginCommand
  now : Nat → Time
  verifiedAt : Time

def countsAsWrong : Option Membership → Option VerifyError → Bool
  | none, some _ => true
  | some _, some .mismatch => true
  | some _, some .format => true
  | _, _ => false

namespace PasswordAttempt

def wrong (c : Crypto) (a : PasswordAttempt) (s : Store) : Option Person :=
  match (AuthRouter.resolveByEmail a.cmd.email).look s with
  | .error _ => none
  | .ok (p, membership) =>
    if !p.isLocked (a.now 0) && !(!p.isActive || p.isAnonymised) &&
      countsAsWrong membership (c.verify a.cmd.password p.passwordHash) then some p else none

variable {c : Crypto} {a : PasswordAttempt} {s : Store} {p : Person}

theorem attempt_resolveByEmail {email : String} {r : Except Err (Person × Option Membership)}
    (h : (AuthRouter.resolveByEmail email).look s = r) :
    ((AuthRouter.resolveByEmail email).attempt : Effect Store LoginError _).run s = (.ok r, s) := by
  rw [← h]
  rfl

theorem wrong_eq_some (h : a.wrong c s = some p) :
    ∃ o, (AuthRouter.resolveByEmail a.cmd.email).look s = .ok (p, o) ∧
    p.isLocked (a.now 0) = false ∧ (!p.isActive || p.isAnonymised) = false ∧
    countsAsWrong o (c.verify a.cmd.password p.passwordHash) = true := by
  unfold wrong at h
  split at h
  · cases h
  · rename_i q o hl
    split at h
    · rename_i hif
      cases h
      simp only [Bool.and_eq_true, Bool.not_eq_true'] at hif
      exact ⟨o, hl, hif.1.1, hif.1.2, hif.2⟩
    · cases h

theorem run_of_wrong (h : a.wrong c s = some p) : ∃ e, (resolveAndVerify c a.cmd a.now).run s =
    (.error e, ((PersonRepository.updateLockoutState (p.registerFailedLogin (a.now 1))).run s).2)
    := by
  obtain ⟨o, hl, hg, hli, hw⟩ := wrong_eq_some h
  unfold resolveAndVerify
  rw [bind_ok (attempt_resolveByEmail hl)]
  dsimp only
  rw [hg, hli, if_neg Bool.false_ne_true, if_neg Bool.false_ne_true]
  rcases o with _ | m
  · rcases hv : c.verify a.cmd.password p.passwordHash with _ | e
    · rw [hv] at hw
      cases hw
    · exact ⟨_, rfl⟩
  · rcases hv : c.verify a.cmd.password p.passwordHash with _ | e
    · rw [hv] at hw
      cases hw
    · cases e with
      | other =>
        rw [hv] at hw
        cases hw
      | mismatch | format =>
        rw [bind_ok (a := p.registerFailedLogin (a.now 1)) rfl]
        split
        · exact ⟨_, rfl⟩
        · exact ⟨_, rfl⟩

theorem run_of_not_wrong (h : a.wrong c s = none) :
    (∃ r, ((resolveAndVerify c a.cmd a.now).run s).1 = .ok r) ∨
    ((resolveAndVerify c a.cmd a.now).run s).2 = s := by
  rcases hl : (AuthRouter.resolveByEmail a.cmd.email).look s with e | ⟨p, o⟩
  · right
    unfold resolveAndVerify
    rw [bind_ok (attempt_resolveByEmail hl)]
    dsimp only
    split <;> rfl
  · unfold wrong at h
    rw [hl] at h
    unfold resolveAndVerify
    rw [bind_ok (attempt_resolveByEmail hl)]
    dsimp only at h ⊢
    rcases hg : p.isLocked (a.now 0) with _ | _
    · rcases hli : (!p.isActive || p.isAnonymised) with _ | _
      · rw [if_neg Bool.false_ne_true, if_neg Bool.false_ne_true]
        rcases o with _ | m <;>
          rcases hv : c.verify a.cmd.password p.passwordHash with _ | _ | _ | _ <;>
          rw [hg, hli, hv] at h
        · exact .inr rfl
        · exact absurd h (by simp [countsAsWrong])
        · exact absurd h (by simp [countsAsWrong])
        · exact absurd h (by simp [countsAsWrong])
        · exact .inl ⟨_, rfl⟩
        · exact absurd h (by simp [countsAsWrong])
        · exact absurd h (by simp [countsAsWrong])
        · exact .inr rfl
      · exact .inr rfl
    · exact .inr rfl

end PasswordAttempt

namespace Person

def failedLoginStored (p : Person) (now : Time) : Person :=
  let q := p.registerFailedLogin now
  { p with
    failedLoginCount := toInt32 q.failedLoginCount
    lockedUntil := toMicros q.lockedUntil
    lastFailedLoginAt := toMicros q.lastFailedLoginAt }

def Forgotten (p : Person) (now : Time) : Prop :=
  p.lastFailedLoginAt ≠ 0 ∧ lockoutWindow < now - p.lastFailedLoginAt

instance (p : Person) (now : Time) : Decidable (p.Forgotten now) :=
  inferInstanceAs (Decidable (_ ∧ _))

variable {p : Person} {now : Time}

theorem isLocked_eq_false {p : Person} {now : Int} :
    p.isLocked now = false ↔ p.lockedUntil = 0 ∨ p.lockedUntil ≤ now := by
  unfold isLocked Time.isZero Time.before
  split
  · simp_all
  · simp_all

theorem isLocked_later {p : Person} {now now' : Int} (h : p.isLocked now = false)
    (hle : now ≤ now') : p.isLocked now' = false :=
  isLocked_eq_false.mpr ((isLocked_eq_false.mp h).imp_right fun hl => Int.le_trans hl hle)

def carriedCount (p : Person) (now : Time) : Int :=
  if p.Forgotten now then 0 else p.failedLoginCount

theorem resetWindow_eq (p : Person) (now : Time) :
    (p.resetWindow now).failedLoginCount = p.carriedCount now ∧
    (p.resetWindow now).isLocked now = p.isLocked now := by
  have hif : (!p.lastFailedLoginAt.isZero ∧ now - p.lastFailedLoginAt > lockoutWindow) ↔
      p.Forgotten now := by
    simp [Forgotten, Time.isZero]
  unfold resetWindow carriedCount
  rw [if_congr hif rfl rfl]
  by_cases hf : p.Forgotten now
  · rw [if_pos hf, if_pos hf]
    split
    · rename_i hp
      refine ⟨rfl, ?_⟩
      simp_all [isLocked, Time.isZero, Time.before]
    · exact ⟨rfl, rfl⟩
  · rw [if_neg hf, if_neg hf]
    exact ⟨rfl, rfl⟩

theorem carriedCount_cases (p : Person) (now : Int) : p.carriedCount now = p.failedLoginCount ∨
    (p.carriedCount now = 0 ∧ lockoutWindow < now - p.lastFailedLoginAt) := by
  unfold carriedCount
  split
  · rename_i h
    exact .inr ⟨rfl, h.2⟩
  · exact .inl rfl

theorem registerFailedLogin_spec (p : Person) (now : Time) :
    (p.registerFailedLogin now).failedLoginCount = p.carriedCount now + 1 ∧
    (p.registerFailedLogin now).lastFailedLoginAt = now ∧
    (p.isLocked now = false → maxFailedLogins ≤ p.carriedCount now + 1 →
    (p.registerFailedLogin now).lockedUntil = now + lockoutDuration) := by
  obtain ⟨hc, hl⟩ := resetWindow_eq p now
  unfold registerFailedLogin
  dsimp only
  split
  · exact ⟨congrArg (· + 1) hc, rfl, fun _ _ => rfl⟩
  · rename_i hif
    refine ⟨congrArg (· + 1) hc, rfl, fun ho hm => absurd ⟨hc ▸ hm, ?_⟩ hif⟩
    have hs : ({ p.resetWindow now with
        failedLoginCount := (p.resetWindow now).failedLoginCount + 1
        lastFailedLoginAt := now } : Person).isLocked now = (p.resetWindow now).isLocked now := rfl
    rw [hs, hl, ho]
    rfl

end Person

theorem find?_updateLockoutState {s : Store} {email : String} {p q : Person}
    (hp : s.persons.find? (fun p => p.email == email) = some p) (hq : q.id = p.id) :
    ∃ s', (PersonRepository.updateLockoutState q).run s = (.ok (), s') ∧
    s'.persons.find? (fun p => p.email == email) = some { p with
        failedLoginCount := toInt32 q.failedLoginCount
        lockedUntil := toMicros q.lockedUntil
        lastFailedLoginAt := toMicros q.lastFailedLoginAt } := by
  obtain ⟨hm, he⟩ := Table.mem_of_find? hp
  let put : Person → Person := fun r =>
    { r with
      failedLoginCount := toInt32 q.failedLoginCount
      lockedUntil := toMicros q.lockedUntil
      lastFailedLoginAt := toMicros q.lastFailedLoginAt }
  have hk : ∀ r : Person, (if r.id == q.id then put r else r).id = r.id ∧
      (if r.id == q.id then put r else r).email = r.email := by
    intro r
    split <;> exact ⟨rfl, rfl⟩
  obtain ⟨t, ht⟩ : ∃ t, s.persons.update (fun r => r.id == q.id) put = some t := by
    refine Table.update_of_clash fun a _ b _ hc => ?_
    unfold Person.Clash at hc
    rwa [(hk a).1, (hk a).2, (hk b).1, (hk b).2] at hc
  refine ⟨{ s with persons := t }, ?_, ?_⟩
  · show (write _).run s = _
    exact write_eq_ok.mpr (by rw [show s.persons.update _ _ = some t from ht]; rfl)
  · have hrow : put p ∈ t := (Table.mem_update ht).mpr ⟨p, hm, by rw [if_pos (by simp [hq])]⟩
    refine Table.find?_eq_of_mem (fun a b ha hb => .inr ?_) hrow he
    rw [beq_iff_eq.mp ha, beq_iff_eq.mp hb]

/-! ## One after the other -/

namespace PasswordAttempt

def next (c : Crypto) (s : Store) (a : PasswordAttempt) : Store :=
  ((resolveAndVerify c a.cmd a.now).run s).2

def FailInTurn (c : Crypto) : Time → Store → List PasswordAttempt → Prop
  | _, _, [] => True
  | t, s, a :: as =>
    (t ≤ a.now 0 ∧ a.now 0 ≤ a.verifiedAt ∧ a.verifiedAt ≤ a.now 1) ∧
      ((resolveAndVerify c a.cmd a.now).run s).1.isOk = false ∧
      FailInTurn c (a.now 1) (a.next c s) as

instance FailInTurn.decidable (c : Crypto) :
    ∀ (t : Time) (s : Store) (as : List PasswordAttempt), Decidable (FailInTurn c t s as)
  | _, _, [] => .isTrue trivial
  | _, s, a :: as =>
    have : Decidable (FailInTurn c (a.now 1) (a.next c s) as) := FailInTurn.decidable c _ _ as
    inferInstanceAs (Decidable (_ ∧ _ ∧ _))

def wrongIn (c : Crypto) (lo hi : Time) : Store → List PasswordAttempt → Nat
  | _, [] => 0
  | s, a :: as =>
    (if (a.wrong c s).isSome ∧ lo ≤ a.verifiedAt ∧ a.verifiedAt < hi then 1 else 0) +
      wrongIn c lo hi (a.next c s) as

def Counted (lo hi t : Int) (k : Nat) (count lockedUntil last loss : Int) : Prop :=
  (1 ≤ k → lo ≤ t) ∧
    (hi ≤ t ∨ k = 0 ∨ (k ≤ 9 ∧ k ≤ count ∧ lo ≤ last + loss) ∨
      (k = 10 ∧ lockedUntil ≠ 0 ∧ hi ≤ lockedUntil))

variable {lo hi t count lockedUntil last loss count' lockedUntil' last' : Int} {k : Nat}

theorem Counted.step {g v r W : Int} (h : Counted lo hi t k count lockedUntil last loss)
    (ht : 0 ≤ t) (htg : t ≤ g) (hgv : g ≤ v) (hvr : v ≤ r) (hlo : lo ≤ v) (hhi : v < hi)
    (hw : hi + loss ≤ lo + W) (hls : 0 ≤ loss ∧ loss < W)
    (hga : lockedUntil = 0 ∨ lockedUntil ≤ g) (hc : 0 ≤ count)
    (hc' : count' = count + 1 ∨ (count' = 1 ∧ W < r - last)) (hla' : r ≤ last' + loss)
    (hl' : 10 ≤ count' → r + W ≤ lockedUntil' + loss) :
    k ≤ 9 ∧ Counted lo hi r (k + 1) count' lockedUntil' last' loss := by
  obtain ⟨hs, hstate⟩ := h
  have hn : k ≤ 9 := by omega
  refine ⟨hn, fun _ => by omega, ?_⟩
  by_cases ho : hi ≤ r
  · exact .inl ho
  · right
    right
    -- within the window the counter does not start anew once it has counted
    have hg : (k + 1 : Int) ≤ count' := by omega
    rcases Nat.lt_or_ge k 9 with hk | hk
    · exact .inl ⟨by omega, by push_cast; exact hg, by omega⟩
    · have hlk := hl' (by omega)
      exact .inr ⟨by omega, by omega, by omega⟩

theorem Counted.later {t' : Int} (h : Counted lo hi t k count lockedUntil last loss) (ht : t ≤ t') :
    Counted lo hi t' k count lockedUntil last loss :=
  ⟨fun hk => Int.le_trans (h.1 hk) ht, h.2.imp_left fun ho => Int.le_trans ho ht⟩

theorem Counted.outside {v r : Int} (h : Counted lo hi t k count lockedUntil last loss)
    (htv : t ≤ v) (hvr : v ≤ r) (ho : v < lo ∨ hi ≤ v) :
    Counted lo hi r k count' lockedUntil' last' loss := by
  obtain ⟨hs, -⟩ := h
  refine ⟨fun hk => by omega, ?_⟩
  omega

variable {c : Crypto} {a : PasswordAttempt} {s : Store} {p : Person} {email : String}

theorem find?_of_wrong (hp : s.persons.find? (fun p => p.email == a.cmd.email) = some p)
    {q : Person} (h : a.wrong c s = some q) : q = p := by
  obtain ⟨o, hl, -⟩ := wrong_eq_some h
  unfold AuthRouter.resolveByEmail look at hl
  rw [query_apply] at hl
  rw [hp] at hl
  dsimp only at hl
  split at hl
  · exact (Prod.mk.inj (Except.ok.inj hl)).1.symm
  · split at hl
    · cases hl
    · exact (Prod.mk.inj (Except.ok.inj hl)).1.symm

theorem find?_next_of_wrong (hp : s.persons.find? (fun p => p.email == a.cmd.email) = some p)
    (h : (a.wrong c s).isSome) : (a.next c s).persons.find? (fun p => p.email == a.cmd.email) =
    some (p.failedLoginStored (a.now 1)) ∧ p.isLocked (a.now 0) = false := by
  obtain ⟨q, hq⟩ := Option.isSome_iff_exists.mp h
  obtain rfl := find?_of_wrong hp hq
  obtain ⟨o, -, hg, -⟩ := wrong_eq_some hq
  obtain ⟨e, hr⟩ := run_of_wrong hq
  obtain ⟨s', hs', hf⟩ := find?_updateLockoutState hp
    (Person.registerFailedLogin_sameFlags q (a.now 1)).id
  refine ⟨?_, hg⟩
  unfold next
  rw [hr, hs']
  exact hf

theorem failedLoginStored_columns {now : Int} (hco : 0 ≤ p.failedLoginCount)
    (hr : p.failedLoginCount + 1 < 2 ^ 31) (hm : now ≤ toMicros now + loss)
    (ho : p.isLocked now = false) :
    ((p.failedLoginStored now).failedLoginCount = p.failedLoginCount + 1 ∨
    ((p.failedLoginStored now).failedLoginCount = 1 ∧
    lockoutWindow < now - p.lastFailedLoginAt)) ∧
    now ≤ (p.failedLoginStored now).lastFailedLoginAt + loss ∧
    (10 ≤ (p.failedLoginStored now).failedLoginCount →
    now + lockoutWindow ≤ (p.failedLoginStored now).lockedUntil + loss) := by
  obtain ⟨hc, hl, hlo⟩ := Person.registerFailedLogin_spec p now
  have hca := p.carriedCount_cases now
  have hs : (p.failedLoginStored now).failedLoginCount = p.carriedCount now + 1 := by
    show toInt32 (p.registerFailedLogin now).failedLoginCount = _
    rw [hc]
    exact toInt32_of_range (by omega) (by omega)
  rw [hs]
  refine ⟨?_, ?_, fun hma => ?_⟩
  · rcases hca with h | ⟨h, hg⟩
    · exact .inl (by rw [h])
    · exact .inr ⟨by rw [h]; rfl, hg⟩
  · show now ≤ toMicros (p.registerFailedLogin now).lastFailedLoginAt + loss
    rw [hl]
    exact hm
  · show now + lockoutDuration ≤ toMicros (p.registerFailedLogin now).lockedUntil + loss
    rw [hlo ho hma]
    have ha : toMicros (now + lockoutDuration) = toMicros now + lockoutDuration :=
      toMicros_add now 900000000
    rw [ha]
    have : (now : Int) ≤ toMicros now + loss := hm
    omega

theorem wrongIn_le (loss : Int) (hlo : 0 ≤ loss ∧ loss < lockoutWindow)
    (hwi : hi + loss ≤ lo + lockoutWindow) (as : List PasswordAttempt)
    (hp : s.persons.find? (fun p => p.email == email) = some p)
    (he : ∀ a ∈ as, a.cmd.email = email) (hru : FailInTurn c t s as) (ht : 0 ≤ t)
    (hm : ∀ a ∈ as, a.now 1 ≤ toMicros (a.now 1) + loss) (hco : 0 ≤ p.failedLoginCount)
    (hro : p.failedLoginCount + as.length < 2 ^ 31) (hk : k ≤ 10)
    (hc : Counted lo hi t k p.failedLoginCount p.lockedUntil p.lastFailedLoginAt loss) :
    k + wrongIn c lo hi s as ≤ 10 := by
  induction as generalizing s p t k with
  | nil => exact hk
  | cons a as ih =>
    obtain ⟨⟨htg, hgv, hvr⟩, hf, hre⟩ := hru
    obtain rfl := he a (mem_cons_self ..)
    rw [length_cons] at hro
    have he' := fun b hb => he b (mem_cons_of_mem a hb)
    have hm' := fun b hb => hm b (mem_cons_of_mem a hb)
    have htr : (t : Int) ≤ a.now 1 := Int.le_trans htg (Int.le_trans hgv hvr)
    unfold wrongIn
    by_cases hw : (a.wrong c s).isSome
    · obtain ⟨hfi, hg⟩ := find?_next_of_wrong hp hw
      have hca : ((as.length + 1 : Nat) : Int) = as.length + 1 := by push_cast; rfl
      rw [hca] at hro
      obtain ⟨hco', hla', hl'⟩ := failedLoginStored_columns hco (by omega) (hm a (mem_cons_self ..))
        (Person.isLocked_later hg (Int.le_trans hgv hvr))
      by_cases hin : lo ≤ a.verifiedAt ∧ a.verifiedAt < hi
      · obtain ⟨hn, hc'⟩ := hc.step ht htg hgv hvr hin.1 hin.2 hwi hlo
          (Person.isLocked_eq_false.mp hg) hco hco' hla' hl'
        have := ih hfi he' hre (Int.le_trans ht htr) hm' (by omega) (by omega)
          (Nat.succ_le_succ hn) hc'
        rw [if_pos ⟨hw, hin⟩]
        omega
      · have ho : a.verifiedAt < lo ∨ hi ≤ a.verifiedAt := by
          by_contra hno
          exact hin ⟨Int.not_lt.mp fun h => hno (.inl h), Int.not_le.mp fun h => hno (.inr h)⟩
        have := ih hfi he' hre (Int.le_trans ht htr) hm' (by omega) (by omega) hk
          (hc.outside (Int.le_trans htg hgv) hvr ho)
        rw [if_neg fun h => hin h.2, Nat.zero_add]
        exact this
    · have hsa : a.next c s = s := by
        rcases run_of_not_wrong (Option.not_isSome_iff_eq_none.mp hw) with ⟨r, hr⟩ | hs
        · rw [hr] at hf
          cases hf
        · exact hs
      rw [if_neg fun h => hw h.1, Nat.zero_add]
      rw [hsa] at hre ⊢
      exact ih hp he' hre (Int.le_trans ht htr) hm' hco (by omega) hk (hc.later htr)

/-- At most `maxFailedLogins` wrong passwords are verified in one window. -/
theorem wrong_passwords_bounded (c : Crypto) (s : Store) (p : Person) (as : List PasswordAttempt)
    (hp : s.persons.find? (fun q => q.email == p.email) = some p)
    (hemail : ∀ a ∈ as, a.cmd.email = p.email) (hrun : FailInTurn c 0 s as)
    (hcount : 0 ≤ p.failedLoginCount) (hroom : p.failedLoginCount + as.length < 2 ^ 31)
    (lo : Time) : wrongIn c lo (lo + lockoutWindow - 999) s as ≤ maxFailedLogins ∧
    ((∀ a ∈ as, toMicros (a.now 1) = a.now 1) →
    wrongIn c lo (lo + lockoutWindow) s as ≤ maxFailedLogins) := by
  have hs : ∀ hi loss : Int,
      Counted lo hi 0 0 p.failedLoginCount p.lockedUntil p.lastFailedLoginAt loss := fun _ _ =>
    ⟨fun h => absurd h (by decide), .inr (.inl rfl)⟩
  have ht : ∀ {n : Nat}, 0 + n ≤ 10 → (n : Int) ≤ maxFailedLogins := by
    intro n hn
    show (n : Int) ≤ 10
    omega
  constructor
  · exact ht (wrongIn_le 999 (by decide) (Int.sub_add_cancel _ _).le as hp hemail hrun
      le_rfl (fun a _ => le_toMicros (a.now 1)) hcount hroom (Nat.zero_le _) (hs _ _))
  · intro hw
    refine ht (wrongIn_le 0 (by decide) (Int.add_zero _).le as hp hemail hrun le_rfl
      (fun a ha => ?_) hcount hroom (Nat.zero_le _) (hs _ _))
    rw [hw a ha]
    exact (Int.add_zero _).ge

def account (failedLoginCount : Int) (lockedUntil lastFailedLoginAt : Time) : Person :=
  { id := "p-1", email := "user@acme.test", firstName := "U", lastName := "A", passwordHash := "h"
    securityStamp := "s", isActive := true, createdAt := 0, failedLoginCount, lockedUntil
    lastFailedLoginAt }

def accountStore (p : Person) : Store :=
  { persons := .one p
    tenants := .empty, memberships := .empty, roles := .empty, families := .empty }

def noPassword : Crypto := ⟨fun _ _ => some .mismatch, id⟩

def guessAt (t : Time) : PasswordAttempt := ⟨⟨"user@acme.test", "guess", ""⟩, fun _ => t, t⟩

def guesses : List PasswordAttempt := (List.range 12).map fun n => guessAt (1000 * n + 1000)

theorem twelve_guesses_bounded : FailInTurn noPassword 0 (accountStore (account 0 0 0)) guesses ∧
    maxFailedLogins ≤
    wrongIn noPassword 0 (0 + lockoutWindow) (accountStore (account 0 0 0)) guesses ∧
    wrongIn noPassword 0 (0 + lockoutWindow) (accountStore (account 0 0 0)) guesses ≤
    maxFailedLogins := by
  have hr : FailInTurn noPassword 0 (accountStore (account 0 0 0)) guesses := by
    decide +kernel
  refine ⟨hr, by decide +kernel, ?_⟩
  exact (wrong_passwords_bounded noPassword (accountStore (account 0 0 0)) (account 0 0 0) guesses
    (by decide +kernel) (by decide) hr (by decide) (by decide) 0).2 (by decide)

def edgeGuesses : List PasswordAttempt :=
  List.replicate 10 (guessAt 1000000000999) ++ [guessAt 1900000000998]

def guessesAfterLock : List PasswordAttempt :=
  guessAt 1000000000000 :: List.replicate 11 (guessAt 1900000000000)

theorem eleven_in_one_window : (FailInTurn noPassword 0 (accountStore (account 0 0 0)) edgeGuesses ∧
    wrongIn noPassword 1000000000999 (1000000000999 + lockoutWindow)
    (accountStore (account 0 0 0)) edgeGuesses = 11) ∧
    FailInTurn noPassword 0 (accountStore (account 2147483647 0 0)) guessesAfterLock ∧
    wrongIn noPassword 1900000000000 (1900000000000 + lockoutWindow)
    (accountStore (account 2147483647 0 0)) guessesAfterLock = 11 := by
  decide +kernel

end PasswordAttempt

namespace PasswordAttempt

def txn (c : Crypto) (a : PasswordAttempt) : Txn Store Person :=
  updateTxn (a.wrong c) (fun p => some (p.registerFailedLogin (a.now 1)))
    fun p s => (PersonRepository.updateLockoutState p).commits s

def accountRow (email : String) (s : Store) : Option Person :=
  s.persons.find? fun p => p.email == email

variable {c : Crypto} {a : PasswordAttempt} {s s' : Store} {p : Person} {email : String}

theorem txn_eq_some {seen : List Store} {w : Person} (h : (a.txn c).attempt seen = some w) :
    ∃ s₀ q, seen = [s₀] ∧ a.wrong c s₀ = some q ∧ w = q.registerFailedLogin (a.now 1) := by
  obtain ⟨s₀, q, hs, hq, hw⟩ := updateTxn_attempt h
  exact ⟨s₀, q, hs, hq, (Option.some.inj hw).symm⟩

theorem accountRow_write {s₀ : Store} {q : Person} (he : a.cmd.email = email)
    (hp : accountRow email s = some p) (hc : accountRow email s₀ = accountRow email s)
    (hq : a.wrong c s₀ = some q)
    (hw : (a.txn c).write (q.registerFailedLogin (a.now 1)) s = some s') :
    accountRow email s' = some (p.failedLoginStored (a.now 1)) ∧ p.isLocked (a.now 0) = false := by
  subst he
  obtain rfl := find?_of_wrong (hc.trans hp) hq
  obtain ⟨o, -, hg, -⟩ := wrong_eq_some hq
  obtain ⟨t, ht, hf⟩ := find?_updateLockoutState hp
    (Person.registerFailedLogin_sameFlags q (a.now 1)).id
  obtain ⟨u, hu⟩ := commits_eq_some.mp hw
  rw [hu] at ht
  obtain rfl := (Prod.mk.inj ht).2
  exact ⟨hf, hg⟩

structure Tally (lo W : Int) (n : Nat) (count lockedUntil last : Int) : Prop where
  count : count = n
  bound : n ≤ 10
  last : 0 < n → lo ≤ last
  locked : n = 10 → lockedUntil ≠ 0 ∧ lo + W ≤ lockedUntil

theorem Tally.step {lo W now₀ now₁ count lockedUntil last count' lockedUntil' last' : Int} {n : Nat}
    (h : Tally lo W n count lockedUntil last) (hlo : 0 ≤ lo) (h₀ : lo ≤ now₀)
    (h₀₁ : now₀ ≤ now₁) (h₁ : now₁ < lo + W) (hga : lockedUntil = 0 ∨ lockedUntil ≤ now₀)
    (hc' : count' = count + 1 ∨ (count' = 1 ∧ W < now₁ - last)) (hla' : now₁ ≤ last' + 0)
    (hl' : 10 ≤ count' → now₁ + W ≤ lockedUntil' + 0) :
    Tally lo W (n + 1) count' lockedUntil' last' := by
  obtain ⟨hc, hb, hla, hl⟩ := h
  have hn : n ≤ 9 := by
    by_contra ht
    obtain ⟨hne, hle⟩ := hl (by omega)
    omega
  have hg : count' = n + 1 := by
    rcases Nat.eq_zero_or_pos n with rfl | hp
    · omega
    · have := hla hp
      omega
  refine ⟨by push_cast; exact hg, by omega, fun _ => by omega, fun ht => ?_⟩
  have hle := hl' (by omega)
  omega

theorem failed_logins_counted {ι : Type*} [DecidableEq ι] (c : Crypto) (a : ι → PasswordAttempt)
    {s : Store} {p : Person} (hp : accountRow p.email s = some p) (hzero : p.failedLoginCount = 0)
    (hemail : ∀ i, (a i).cmd.email = p.email) {lo : Time} (hlo : 0 ≤ lo)
    (hwindow : ∀ i, lo ≤ (a i).now 0 ∧ (a i).now 0 ≤ (a i).now 1 ∧
    (a i).now 1 < lo + lockoutWindow)
    (hmicros : ∀ i, toMicros ((a i).now 1) = (a i).now 1) {ls : List (Label ι)}
    {st : State ι Store Person}
    (hC : Along (step fun i => (a i).txn c) (Current (accountRow p.email)) (init ι Person s) ls)
    (hr : run (step fun i => (a i).txn c) (init ι Person s) ls = some st) :
    ∃ p', accountRow p.email st.store = some p' ∧ p'.failedLoginCount = st.log.length ∧
    (maxFailedLogins ≤ st.log.length → ∀ i, p'.isLocked ((a i).now 0) = true) := by
  have he : ∃ p', accountRow p.email st.store = some p' ∧
      Tally lo lockoutWindow st.log.length p'.failedLoginCount p'.lockedUntil
        p'.lastFailedLoginAt := by
    refine run_store_rule (P := fun s log => ∃ p', accountRow p.email s = some p' ∧
        Tally lo lockoutWindow log.length p'.failedLoginCount p'.lockedUntil
          p'.lastFailedLoginAt)
      (guarded_init (accountRow p.email) _ s)
      ⟨p, hp, hzero, Nat.zero_le _, fun h => absurd h (Nat.lt_irrefl 0), fun h => by cases h⟩
      ?_ hC hr
    rintro s log i seen w s' ⟨q, hq, ht⟩ - - hs ha hw
    obtain ⟨s₀, q₀, rfl, hwr, rfl⟩ := txn_eq_some ha
    obtain ⟨hrow, hg⟩ := accountRow_write (hemail i) hq (hs s₀ (mem_singleton_self s₀)) hwr hw
    obtain ⟨h₀, h₀₁, h₁⟩ := hwindow i
    have hra : 0 ≤ q.failedLoginCount ∧ q.failedLoginCount + 1 < 2 ^ 31 := by
      have hc := ht.count
      have hb := ht.bound
      omega
    obtain ⟨hc', hla', hl'⟩ := failedLoginStored_columns hra.1 hra.2
      (by rw [hmicros i]; exact (Int.add_zero _).ge) (Person.isLocked_later hg h₀₁)
    exact ⟨_, hrow, ht.step hlo h₀ h₀₁ h₁ (Person.isLocked_eq_false.mp hg) hc' hla' hl'⟩
  obtain ⟨p', hrow, ht⟩ := he
  refine ⟨p', hrow, ht.count, fun hm i => ?_⟩
  have hte : st.log.length = 10 := by
    have hm : (10 : Int) ≤ st.log.length := hm
    have := ht.bound
    omega
  obtain ⟨hne, hle⟩ := ht.locked hte
  obtain ⟨-, h₀₁, h₁⟩ := hwindow i
  rw [← Bool.not_eq_false, Person.isLocked_eq_false, not_or]
  exact ⟨hne, Int.not_le.mpr (Int.lt_of_lt_of_le (Int.lt_of_le_of_lt h₀₁ h₁) hle)⟩

def guess (_ : Bool) : PasswordAttempt := guessAt 1000000000000

theorem guesses_in_turn_counted : ∃ st : State Bool Store Person,
    run (step fun i => (guess i).txn noPassword) (init Bool Person (accountStore (account 0 0 0)))
    [.read false, .write false, .commit false, .read true, .write true, .commit true] =
    some st ∧ ∃ p', accountRow "user@acme.test" st.store = some p' ∧
    p'.failedLoginCount = st.log.length := by
  refine exists_some (P := fun _ => True) (by decide +kernel) fun st hr _ => ?_
  obtain ⟨p', hrow, hc, -⟩ := failed_logins_counted noPassword guess (p := account 0 0 0)
    (by decide +kernel) rfl (fun _ => rfl) (by decide : (0 : Time) ≤ 1000000000000) (by decide)
    (by decide) (by decide +kernel) hr
  exact ⟨p', hrow, hc⟩

theorem concurrent_guess_lost : ∃ st : State Bool Store Person,
    run (step fun i => (guess i).txn noPassword) (init Bool Person (accountStore (account 0 0 0)))
    [.read false, .read true, .write false, .commit false, .write true, .commit true] =
    some st ∧ st.log.length = 2 ∧
    ∃ p', accountRow "user@acme.test" st.store = some p' ∧ p'.failedLoginCount = 1 := by
  refine exists_some (P := fun st => st.log.length = 2 ∧
    (accountRow "user@acme.test" st.store).any fun p' => p'.failedLoginCount = 1)
    (by decide +kernel) fun st _ ⟨hl, ha⟩ => ?_
  obtain ⟨p', hrow, hc⟩ := (Option.any_eq_true ..).mp ha
  exact ⟨hl, p', hrow, of_decide_eq_true hc⟩

end PasswordAttempt

end Leadkart
