import Leadkart.Identity.Person
import Leadkart.Logic.Slot

/-!
# Password resets and email changes
-/

namespace Leadkart.Person

open Leadkart.Slot

def Op.opensReset (p : Person) : Op → Option PendingPasswordReset
  | .requestPasswordReset plain hash ttl now =>
    if (p.requestPasswordReset plain hash ttl now).2 = none then some ⟨hash, now + ttl⟩ else none
  | _ => none

def Op.endsReset (p : Person) : Op → Bool
  | .confirmPasswordReset presented newHash now stamp =>
    let err := (p.confirmPasswordReset presented newHash now stamp).2
    decide (err = none) || decide (err = some ⟨errInvalid, "reset token expired"⟩)
  | .cancelPasswordReset reason now => (p.cancelPasswordReset reason now).2 = none
  | _ => false

def Op.opensChange (p : Person) : Op → Option PendingEmailChange
  | .requestEmailChange newEmail plain hash ttl now =>
    if (p.requestEmailChange newEmail plain hash ttl now).2 = none then
      some ⟨newEmail, hash, now + ttl⟩
    else none
  | _ => none

def Op.endsChange (p : Person) : Op → Bool
  | .confirmEmailChange presented now stamp =>
    let err := (p.confirmEmailChange presented now stamp).2
    decide (err = none) || decide (err = some ⟨errInvalid, "email change token expired"⟩)
  | .cancelEmailChange reason now => (p.cancelEmailChange reason now).2 = none
  | _ => false

def resetSlot (p : Person) : Option PendingPasswordReset :=
  if p.pendingPasswordReset.hash = "" then none else some p.pendingPasswordReset

def changeSlot (p : Person) : Option PendingEmailChange :=
  if p.pendingEmailChange.hash = "" then none else some p.pendingEmailChange

variable {p : Person} {op : Op}

structure SamePending (p q : Person) : Prop where
  reset : q.pendingPasswordReset = p.pendingPasswordReset
  change : q.pendingEmailChange = p.pendingEmailChange

theorem registerFailedLogin_samePending (p : Person) (now : Time) :
    SamePending p (p.registerFailedLogin now) := by
  have hr : SamePending p (p.resetWindow now) := by
    unfold resetWindow
    split
    · split <;> exact ⟨rfl, rfl⟩
    · exact ⟨rfl, rfl⟩
  unfold registerFailedLogin
  dsimp only
  split <;> exact ⟨hr.reset, hr.change⟩

theorem registerSuccessfulLogin_samePending (p : Person) (now : Time) :
    SamePending p (p.registerSuccessfulLogin now) := by
  unfold registerSuccessfulLogin
  split <;> exact ⟨rfl, rfl⟩

theorem requestPasswordReset_cases (p : Person) (pl hash : String) (ttl : Duration) (now : Time) :
    ((p.requestPasswordReset pl hash ttl now).2 = none ∧ hash ≠ "" ∧
    (p.requestPasswordReset pl hash ttl now).1.pendingPasswordReset = ⟨hash, now + ttl⟩ ∧
    (p.requestPasswordReset pl hash ttl now).1.pendingEmailChange = p.pendingEmailChange) ∨
    ∃ e, p.requestPasswordReset pl hash ttl now = (p, some e) := by
  unfold requestPasswordReset
  split
  · exact .inr ⟨_, rfl⟩
  rename_i hh
  split
  · exact .inr ⟨_, rfl⟩
  split
  · exact .inr ⟨_, rfl⟩
  split
  · exact .inr ⟨_, rfl⟩
  split
  · exact .inl ⟨rfl, hh, rfl, rfl⟩
  · exact .inl ⟨rfl, hh, rfl, rfl⟩

theorem confirmPasswordReset_cases (p : Person) (pd newHash : String) (now : Time) (s : String) :
    ((p.confirmPasswordReset pd newHash now s).2 = none ∧
    p.isAnonymised = false ∧ p.isGloballySuspended = false ∧
    p.resetSlot = some p.pendingPasswordReset ∧ p.pendingPasswordReset.hash = pd ∧
    now < p.pendingPasswordReset.expiresAt ∧
    (p.confirmPasswordReset pd newHash now s).1.resetSlot = none ∧
    (p.confirmPasswordReset pd newHash now s).1.changeSlot = p.changeSlot) ∨
    (p.confirmPasswordReset pd newHash now s =
    ({ p with pendingPasswordReset := {} }, some ⟨errInvalid, "reset token expired"⟩)) ∨
      ∃ e, p.confirmPasswordReset pd newHash now s = (p, some e) ∧
        e ≠ ⟨errInvalid, "reset token expired"⟩ := by
  unfold confirmPasswordReset
  split
  · exact .inr (.inr ⟨_, rfl, by decide⟩)
  split
  · exact .inr (.inr ⟨_, rfl, by decide⟩)
  split
  · exact .inr (.inr ⟨_, rfl, by decide⟩)
  rename_i ha
  split
  · exact .inr (.inr ⟨_, rfl, by decide⟩)
  rename_i hs
  split
  · exact .inr (.inr ⟨_, rfl, by decide⟩)
  rename_i hp
  split
  · exact .inr (.inl rfl)
  rename_i hl
  split
  · exact .inr (.inr ⟨_, rfl, by decide⟩)
  rename_i hm
  refine .inl ⟨rfl, by simpa using ha, by simpa using hs, if_neg hp,
    by simpa using hm, ?_, rfl, rfl⟩
  simpa [Time.before] using hl

theorem cancelPasswordReset_cases (p : Person) (reason : String) (now : Time) :
    ((p.cancelPasswordReset reason now).2 = none ∧
    (p.cancelPasswordReset reason now).1.resetSlot = none ∧
    (p.cancelPasswordReset reason now).1.changeSlot = p.changeSlot) ∨
    ∃ e, p.cancelPasswordReset reason now = (p, some e) := by
  unfold cancelPasswordReset
  split
  · rename_i hnone
    exact .inl ⟨rfl, if_pos hnone, rfl⟩
  split
  · exact .inr ⟨_, rfl⟩
  · exact .inl ⟨rfl, rfl, rfl⟩

theorem requestEmailChange_cases (p : Person) (n pl hash : String) (ttl : Duration) (now : Time) :
    ((p.requestEmailChange n pl hash ttl now).2 = none ∧ hash ≠ "" ∧
    (p.requestEmailChange n pl hash ttl now).1.pendingEmailChange = ⟨n, hash, now + ttl⟩ ∧
    (p.requestEmailChange n pl hash ttl now).1.pendingPasswordReset = p.pendingPasswordReset) ∨
    ∃ e, p.requestEmailChange n pl hash ttl now = (p, some e) := by
  unfold requestEmailChange
  split
  · exact .inr ⟨_, rfl⟩
  split
  · exact .inr ⟨_, rfl⟩
  split
  · exact .inr ⟨_, rfl⟩
  rename_i hh
  split
  · exact .inr ⟨_, rfl⟩
  split
  · exact .inr ⟨_, rfl⟩
  split
  · exact .inr ⟨_, rfl⟩
  split
  · exact .inl ⟨rfl, hh, rfl, rfl⟩
  · exact .inl ⟨rfl, hh, rfl, rfl⟩

theorem confirmEmailChange_cases (p : Person) (pd : String) (now : Time) (s : String) :
    ((p.confirmEmailChange pd now s).2 = none ∧
    p.isAnonymised = false ∧ p.isGloballySuspended = false ∧
    p.changeSlot = some p.pendingEmailChange ∧ p.pendingEmailChange.hash = pd ∧
    now < p.pendingEmailChange.expiresAt ∧
    (p.confirmEmailChange pd now s).1.email = p.pendingEmailChange.newEmail ∧
    (p.confirmEmailChange pd now s).1.changeSlot = none ∧
    (p.confirmEmailChange pd now s).1.resetSlot = p.resetSlot) ∨ (p.confirmEmailChange pd now s =
    ({ p with pendingEmailChange := {} }, some ⟨errInvalid, "email change token expired"⟩)) ∨
      ∃ e, p.confirmEmailChange pd now s = (p, some e) ∧
        e ≠ ⟨errInvalid, "email change token expired"⟩ := by
  unfold confirmEmailChange
  split
  · exact .inr (.inr ⟨_, rfl, by decide⟩)
  split
  · exact .inr (.inr ⟨_, rfl, by decide⟩)
  rename_i ha
  split
  · exact .inr (.inr ⟨_, rfl, by decide⟩)
  rename_i hs
  split
  · exact .inr (.inr ⟨_, rfl, by decide⟩)
  rename_i hp
  split
  · exact .inr (.inl rfl)
  rename_i hl
  split
  · exact .inr (.inr ⟨_, rfl, by decide⟩)
  rename_i hm
  refine .inl ⟨rfl, by simpa using ha, by simpa using hs, if_neg hp,
    by simpa using hm, ?_, rfl, rfl, rfl⟩
  simpa [Time.before] using hl

theorem cancelEmailChange_cases (p : Person) (reason : String) (now : Time) :
    ((p.cancelEmailChange reason now).2 = none ∧
    (p.cancelEmailChange reason now).1.changeSlot = none ∧
    (p.cancelEmailChange reason now).1.resetSlot = p.resetSlot) ∨
    ∃ e, p.cancelEmailChange reason now = (p, some e) := by
  unfold cancelEmailChange
  split
  · rename_i hnone
    exact .inl ⟨rfl, if_pos hnone, rfl⟩
  split
  · exact .inr ⟨_, rfl⟩
  · exact .inl ⟨rfl, rfl, rfl⟩

/-! ## Over whole histories -/

def Op.OnTokens : Op → Prop
  | .requestPasswordReset .. | .confirmPasswordReset .. | .cancelPasswordReset .. => True
  | .requestEmailChange .. | .confirmEmailChange .. | .cancelEmailChange .. => True
  | _ => False

theorem apply_samePending (h : ¬ op.OnTokens) : SamePending p (p.apply op) := by
  cases op with
  | requestPasswordReset | confirmPasswordReset | cancelPasswordReset => exact absurd trivial h
  | requestEmailChange | confirmEmailChange | cancelEmailChange => exact absurd trivial h
  | registerFailedLogin now => exact registerFailedLogin_samePending p now
  | registerSuccessfulLogin now => exact registerSuccessfulLogin_samePending p now
  | markPasswordChanged | pullEvents => exact ⟨rfl, rfl⟩
  | changePassword newHash now stamp =>
    simp only [apply, changePassword]
    split <;> exact ⟨rfl, rfl⟩
  | updateProfile firstName lastName now =>
    simp only [apply, updateProfile]
    repeat' split
    all_goals exact ⟨rfl, rfl⟩
  | globallySuspend reason now stamp =>
    simp only [apply, globallySuspend]
    repeat' split
    all_goals exact ⟨rfl, rfl⟩
  | liftGlobalSuspension now =>
    simp only [apply, liftGlobalSuspension]
    split <;> exact ⟨rfl, rfl⟩
  | anonymise now stamp =>
    simp only [apply, anonymise]
    split <;> exact ⟨rfl, rfl⟩

theorem SamePending.resetSlot {p q : Person} (h : SamePending p q) : q.resetSlot = p.resetSlot := by
  unfold Person.resetSlot
  rw [h.reset]

theorem SamePending.changeSlot {p q : Person} (h : SamePending p q) :
    q.changeSlot = p.changeSlot := by
  unfold Person.changeSlot
  rw [h.change]

section Slots

attribute [local simp] apply Op.opensReset Op.endsReset Op.opensChange Op.endsChange

theorem apply_slots (p : Person) (op : Op) :
    (p.apply op).resetSlot = after p.resetSlot (op.opensReset p) (op.endsReset p) ∧
    (p.apply op).changeSlot = after p.changeSlot (op.opensChange p) (op.endsChange p) := by
  have ho : ¬ op.OnTokens → SamePending p (p.apply op) := apply_samePending
  cases op with
  | requestPasswordReset plain hash ttl now =>
    obtain ⟨hok, hh, hr, hc⟩ | ⟨e, he⟩ := requestPasswordReset_cases p plain hash ttl now
    · simp [resetSlot, changeSlot, hok, hh, hr, hc]
    · simp [he]
  | confirmPasswordReset presented newHash now stamp =>
    obtain ⟨hok, -, -, -, -, -, hr, hc⟩ | hex | ⟨e, he, hne⟩ :=
      confirmPasswordReset_cases p presented newHash now stamp
    · simp [hok, hr, hc]
    · simp [hex, resetSlot, changeSlot]
    · simp [he, hne]
  | cancelPasswordReset reason now =>
    obtain ⟨hok, hr, hc⟩ | ⟨e, he⟩ := cancelPasswordReset_cases p reason now
    · simp [hok, hr, hc]
    · simp [he]
  | requestEmailChange newEmail plain hash ttl now =>
    obtain ⟨hok, hh, hc, hr⟩ | ⟨e, he⟩ := requestEmailChange_cases p newEmail plain hash ttl now
    · simp [resetSlot, changeSlot, hok, hh, hr, hc]
    · simp [he]
  | confirmEmailChange presented now stamp =>
    obtain ⟨hok, -, -, -, -, -, -, hc, hr⟩ | hex | ⟨e, he, hne⟩ :=
      confirmEmailChange_cases p presented now stamp
    · simp [hok, hr, hc]
    · simp [hex, resetSlot, changeSlot]
    · simp [he, hne]
  | cancelEmailChange reason now =>
    obtain ⟨hok, hc, hr⟩ | ⟨e, he⟩ := cancelEmailChange_cases p reason now
    · simp [hok, hr, hc]
    · simp [he]
  | _ => exact ⟨(ho not_false).resetSlot, (ho not_false).changeSlot⟩

end Slots

theorem reset_discipline :
    Discipline apply resetSlot (fun p op => op.opensReset p) fun p op => op.endsReset p :=
  fun p op => (apply_slots p op).1

theorem change_discipline :
    Discipline apply changeSlot (fun p op => op.opensChange p) fun p op => op.endsChange p :=
  fun p op => (apply_slots p op).2

theorem opensReset_eq_some {r : PendingPasswordReset} (h : op.opensReset p = some r) :
    ∃ plain ttl t, op = .requestPasswordReset plain r.hash ttl t ∧
    (p.requestPasswordReset plain r.hash ttl t).2 = none ∧ r.expiresAt = t + ttl := by
  cases op with
  | requestPasswordReset plain hash ttl t =>
    simp only [Op.opensReset] at h
    split at h
    · rename_i hok
      cases h
      exact ⟨plain, ttl, t, rfl, hok, rfl⟩
    · cases h
  | _ => cases h

theorem opensChange_eq_some {r : PendingEmailChange} (h : op.opensChange p = some r) :
    ∃ plain ttl t, op = .requestEmailChange r.newEmail plain r.hash ttl t ∧
    (p.requestEmailChange r.newEmail plain r.hash ttl t).2 = none ∧ r.expiresAt = t + ttl := by
  cases op with
  | requestEmailChange newEmail plain hash ttl t =>
    simp only [Op.opensChange] at h
    split at h
    · rename_i hok
      cases h
      exact ⟨plain, ttl, t, rfl, hok, rfl⟩
    · cases h
  | _ => cases h

inductive Constructed : Person → Prop
  | new {id email firstName lastName passwordHash : String} {now : Time} {stamp : String}
      {p : Person} (h : new id email firstName lastName passwordHash now stamp = .ok p) :
      Constructed p
  | newWithMustChangePassword {id email firstName lastName passwordHash : String} {now : Time}
      {stamp : String} {p : Person}
      (h : newWithMustChangePassword id email firstName lastName passwordHash now stamp = .ok p) :
      Constructed p

theorem new_slots {id email firstName lastName pa : String} {now : Time}
    {s : String} (h : new id email firstName lastName pa now s = .ok p) :
    p.resetSlot = none ∧ p.changeSlot = none := by
  unfold new at h
  repeat' split at h
  all_goals first | cases h; exact ⟨rfl, rfl⟩ | cases h

theorem Constructed.slots (h : Constructed p) : p.resetSlot = none ∧ p.changeSlot = none := by
  cases h with
  | new h => exact new_slots h
  | newWithMustChangePassword h =>
    unfold Person.newWithMustChangePassword at h
    split at h
    · cases h
    · rename_i q hq
      cases h
      have hs := new_slots hq
      exact ⟨hs.1, hs.2⟩

theorem lt_of_ended {R : Type} {o : Person → Op → Option R} {ends : Person → Op → Bool}
    {p₀ : Person} {ops : List Op} {k n : Nat} {r : Op} (hk : ops[k]? = some r)
    (hr : ends (stateAt apply p₀ ops k) r = false) (hq : ∀ j op, k < j → j < n → ops[j]? = some op →
    o (stateAt apply p₀ ops j) op = none ∧ ends (stateAt apply p₀ ops j) op = false)
    {m : Nat} {op : Op} (hm : m < n) (hop : ops[m]? = some op)
    (he : ends (stateAt apply p₀ ops m) op = true) : m < k := by
  rcases Nat.lt_trichotomy m k with hlt | rfl | hgt
  · exact hlt
  · rw [hk] at hop
    cases hop
    rw [hr] at he
    cases he
  · rw [(hq m op hgt hm hop).2] at he
    cases he

theorem token_single_use {p₀ : Person} (hp₀ : Constructed p₀) (ops : List Op) (n : Nat) :
    (∀ presented newHash now stamp,
    ops[n]? = some (.confirmPasswordReset presented newHash now stamp) →
    ((stateAt apply p₀ ops n).confirmPasswordReset presented newHash now stamp).2 = none →
    (stateAt apply p₀ ops n).isAnonymised = false ∧
    (stateAt apply p₀ ops n).isGloballySuspended = false ∧
    ∃ k plain ttl t, k < n ∧ ops[k]? = some (.requestPasswordReset plain presented ttl t) ∧
    ((stateAt apply p₀ ops k).requestPasswordReset plain presented ttl t).2 = none ∧
    now < t + ttl ∧ (∀ j op, k < j → j < n → ops[j]? = some op →
    op.opensReset (stateAt apply p₀ ops j) = none ∧
    op.endsReset (stateAt apply p₀ ops j) = false) ∧ ∀ m op, m < n → ops[m]? = some op →
    op.endsReset (stateAt apply p₀ ops m) = true → m < k) ∧ (∀ presented now stamp,
    ops[n]? = some (.confirmEmailChange presented now stamp) →
    ((stateAt apply p₀ ops n).confirmEmailChange presented now stamp).2 = none →
    (stateAt apply p₀ ops n).isAnonymised = false ∧
    (stateAt apply p₀ ops n).isGloballySuspended = false ∧ ∃ k newEmail plain ttl t, k < n ∧
    ops[k]? = some (.requestEmailChange newEmail plain presented ttl t) ∧
    ((stateAt apply p₀ ops k).requestEmailChange newEmail plain presented ttl t).2 = none ∧
    now < t + ttl ∧ (stateAt apply p₀ ops (n + 1)).email = newEmail ∧
    (∀ j op, k < j → j < n → ops[j]? = some op → op.opensChange (stateAt apply p₀ ops j) = none ∧
    op.endsChange (stateAt apply p₀ ops j) = false) ∧ ∀ m op, m < n → ops[m]? = some op →
    op.endsChange (stateAt apply p₀ ops m) = true → m < k) := by
  constructor
  · intro presented newHash now stamp hop hok
    have hn : n ≤ ops.length := Nat.le_of_lt (List.getElem?_eq_some_iff.mp hop).1
    obtain ⟨-, ha, hs, hsl, rfl, hno, -⟩ | hex | ⟨e, her, -⟩ :=
      confirmPasswordReset_cases (stateAt apply p₀ ops n) presented newHash now stamp
    · obtain ⟨k, request, hk, hr, ho, hq⟩ := reset_discipline.since hp₀.slots.1 hn hsl
      obtain ⟨plain, ttl, t, rfl, hro, he⟩ := opensReset_eq_some ho
      exact ⟨ha, hs, k, plain, ttl, t, hk, hr, hro, he ▸ hno, hq,
        fun m op hm hmo hen => lt_of_ended hr rfl hq hm hmo hen⟩
    · rw [hex] at hok
      cases hok
    · rw [her] at hok
      cases hok
  · intro presented now stamp hop hok
    have hn : n ≤ ops.length := Nat.le_of_lt (List.getElem?_eq_some_iff.mp hop).1
    obtain ⟨-, ha, hs, hsl, rfl, hno, hem, -⟩ | hex | ⟨e, her, -⟩ :=
      confirmEmailChange_cases (stateAt apply p₀ ops n) presented now stamp
    · obtain ⟨k, request, hk, hr, ho, hq⟩ := change_discipline.since hp₀.slots.2 hn hsl
      obtain ⟨plain, ttl, t, rfl, hro, he⟩ := opensChange_eq_some ho
      refine ⟨ha, hs, k, _, plain, ttl, t, hk, hr, hro, he ▸ hno, ?_, hq,
        fun m op hm hmo hen => lt_of_ended hr rfl hq hm hmo hen⟩
      rw [stateAt_succ hop]
      exact hem
    · rw [hex] at hok
      cases hok
    · rw [her] at hok
      cases hok

def resetHistory : List Op :=
  [.requestPasswordReset "token" "tokenhash" 100 5, .confirmPasswordReset "tokenhash" "newhash" 7 "t"]

def newPerson : Person :=
  { id := "p-1", email := "user@acme.test", firstName := "U", lastName := "A", passwordHash := "h"
    securityStamp := "s", isActive := true, createdAt := 3
    events := [.created "p-1" "user@acme.test" "U" "A" 3] }

theorem reset_served :
    ((stateAt apply newPerson resetHistory 1).confirmPasswordReset "tokenhash" "newhash" 7 "t").2 =
    none ∧ ∃ k plain ttl t, k < 1 ∧
    resetHistory[k]? = some (.requestPasswordReset plain "tokenhash" ttl t) ∧ 7 < t + ttl := by
  have hn : Person.new "p-1" "user@acme.test" "U" "A" "h" 3 "s" = .ok newPerson := by
    decide +kernel
  have hok : ((stateAt apply newPerson resetHistory 1).confirmPasswordReset "tokenhash" "newhash" 7
      "t").2 = none := by
    decide +kernel
  obtain ⟨-, -, k, plain, ttl, t, hk, hr, -, hno, -⟩ :=
    (token_single_use (.new hn) resetHistory 1).1 "tokenhash" "newhash" 7 "t" rfl hok
  exact ⟨hok, k, plain, ttl, t, hk, hr, hno⟩

end Leadkart.Person
