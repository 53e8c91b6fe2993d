import Leadkart.Common.Basic

/-!
# The Person aggregate
-/

namespace Leadkart

namespace Person

def errInvalid : Sentinel := ⟨.invalidInput, "person", "invalid person"⟩

def nameMaxLen : Nat := 100
def maxFailedLogins : Int := 10
def lockoutWindow : Duration := 15 * minute
def lockoutDuration : Duration := 15 * minute

structure PendingPasswordReset where
  hash : String := ""
  expiresAt : Time := 0
  deriving DecidableEq

structure PendingEmailChange where
  (newEmail hash : String := "")
  expiresAt : Time := 0
  deriving DecidableEq

inductive Event where
  | created (personID email firstName lastName : String) (at_ : Time)
  | passwordChanged (personID : String) (at_ : Time)
  | profileUpdated (personID oldFirstName oldLastName newFirstName newLastName : String)
      (at_ : Time)
  | anonymised (personID : String) (at_ : Time)
  | emailChangeRequested (personID newEmail : String) (expiresAt at_ : Time)
  | emailChangeConfirmationRequested
      (personID newEmail oldEmail plaintextToken recipientName : String) (expiresAt at_ : Time)
  | emailChanged (personID oldEmail newEmail : String) (at_ : Time)
  | emailChangeCancelled (personID reason : String) (at_ : Time)
  | globallySuspended (personID reason : String) (at_ : Time)
  | passwordResetRequested (personID : String) (expiresAt at_ : Time)
  | passwordResetEmailRequested (personID email plaintextToken recipientName : String)
      (expiresAt at_ : Time)
  | passwordResetConfirmed (personID : String) (at_ : Time)
  | passwordResetCancelled (personID reason : String) (at_ : Time)
  | globalSuspensionLifted (personID : String) (at_ : Time)
  | accountLocked (personID : String) (lockedUntil : Time) (failedCount : Int) (at_ : Time)
  | accountUnlocked (personID : String) (at_ : Time)
  deriving DecidableEq

end Person

structure Person where
  (id email firstName lastName passwordHash securityStamp : String)
  isActive : Bool
  (isAnonymised isGloballySuspended : Bool := false)
  globalSuspensionReason : String := ""
  globallySuspendedAt : Time := 0
  pendingPasswordReset : Person.PendingPasswordReset := {}
  pendingEmailChange : Person.PendingEmailChange := {}
  mustChangePassword : Bool := false
  failedLoginCount : Int := 0
  (lockedUntil lastFailedLoginAt : Time := 0)
  createdAt : Time
  anonymisedAt : Time := 0
  events : List Person.Event := []
  deriving DecidableEq

namespace Person

abbrev Result := Person × Option Err

def fail (p : Person) (detail : String) : Result := (p, some ⟨errInvalid, detail⟩)

def recordEvent (p : Person) (e : Event) : Person := { p with events := p.events ++ [e] }

def hashMinLen : Nat := 40

def newPasswordHash (raw : String) : Except Err String :=
  let n := raw.utf8ByteSize
  if raw = "" then .error ⟨errInvalid, "password hash empty"⟩
  else if n < hashMinLen then
    .error ⟨errInvalid, s!"password hash suspiciously short (got {n}, want ≥{hashMinLen})"⟩
  else .ok raw

def new (id email firstName lastName passwordHash : String) (now : Time) (stamp : String) :
    Except Err Person :=
  if id = "" then .error ⟨errInvalid, "id required"⟩
  else if email = "" then .error ⟨errInvalid, "email required"⟩
  else if isBlank firstName then .error ⟨errInvalid, "first name required"⟩
  else if isBlank lastName then .error ⟨errInvalid, "last name required"⟩
  else if firstName.utf8ByteSize > nameMaxLen then
    .error ⟨errInvalid, "first name too long (max 100)"⟩
  else if lastName.utf8ByteSize > nameMaxLen then
    .error ⟨errInvalid, "last name too long (max 100)"⟩
  else if passwordHash = "" then .error ⟨errInvalid, "password hash required"⟩
  else .ok
    { id, email, firstName, lastName, passwordHash
      securityStamp := stamp
      isActive := true
      createdAt := now
      events := [.created id email firstName lastName now] }

def newWithMustChangePassword (id email firstName lastName passwordHash : String) (now : Time)
    (stamp : String) : Except Err Person :=
  match new id email firstName lastName passwordHash now stamp with
  | .error e => .error e
  | .ok p => .ok { p with mustChangePassword := true }

def isLocked (p : Person) (now : Time) : Bool :=
  if p.lockedUntil.isZero then false else now.before p.lockedUntil

def changePassword (p : Person) (newHash : String) (now : Time) (stamp : String) : Result :=
  if newHash = "" then p.fail "new password hash required"
  else
    (recordEvent
      { p with passwordHash := newHash, securityStamp := stamp, mustChangePassword := false }
      (.passwordChanged p.id now), none)

def updateProfile (p : Person) (firstName lastName : String) (now : Time) : Result :=
  if p.isAnonymised then p.fail "cannot update profile of anonymised person"
  else if isBlank firstName then p.fail "first name required"
  else if isBlank lastName then p.fail "last name required"
  else if firstName.utf8ByteSize > nameMaxLen then p.fail "first name too long (max 100)"
  else if lastName.utf8ByteSize > nameMaxLen then p.fail "last name too long (max 100)"
  else if firstName = p.firstName ∧ lastName = p.lastName then (p, none)
  else
    (recordEvent { p with firstName, lastName }
      (.profileUpdated p.id p.firstName p.lastName firstName lastName now), none)

def requestPasswordReset (p : Person) (plaintextToken tokenHash : String) (ttl : Duration)
    (now : Time) : Result :=
  if tokenHash = "" then p.fail "reset token hash required"
  else if ttl ≤ 0 then p.fail "reset ttl must be positive"
  else if p.isAnonymised then p.fail "cannot reset password for anonymised person"
  else if p.isGloballySuspended then p.fail "cannot reset password while globally suspended"
  else
    let expiresAt := now + ttl
    let q := recordEvent { p with pendingPasswordReset := ⟨tokenHash, expiresAt⟩ }
      (.passwordResetRequested p.id expiresAt now)
    if plaintextToken = "" then (q, none)
    else
      (recordEvent q
        (.passwordResetEmailRequested p.id p.email plaintextToken p.firstName expiresAt now), none)

def confirmPasswordReset (p : Person) (presentedHash newHash : String) (now : Time)
    (stamp : String) : Result :=
  if newHash = "" then p.fail "new password hash required"
  else if presentedHash = "" then p.fail "presented reset token hash required"
  else if p.isAnonymised then p.fail "cannot reset password for anonymised person"
  else if p.isGloballySuspended then p.fail "cannot reset password while globally suspended"
  else if p.pendingPasswordReset.hash = "" then p.fail "no pending password reset"
  else if !now.before p.pendingPasswordReset.expiresAt then
    fail { p with pendingPasswordReset := {} } "reset token expired"
  else if p.pendingPasswordReset.hash ≠ presentedHash then p.fail "reset token mismatch"
  else
    (recordEvent (recordEvent
        { p with
          passwordHash := newHash, securityStamp := stamp, pendingPasswordReset := {}
          mustChangePassword := false }
        (.passwordResetConfirmed p.id now)) (.passwordChanged p.id now), none)

def cancelPasswordReset (p : Person) (reason : String) (now : Time) : Result :=
  if p.pendingPasswordReset.hash = "" then (p, none)
  else if isBlank reason then p.fail "cancel reason required for audit"
  else
    (recordEvent { p with pendingPasswordReset := {} } (.passwordResetCancelled p.id reason now),
      none)

def requestEmailChange (p : Person) (newEmail plaintextToken tokenHash : String) (ttl : Duration)
    (now : Time) : Result :=
  if newEmail = "" then p.fail "new email required"
  else if newEmail = p.email then p.fail "new email same as current"
  else if tokenHash = "" then p.fail "email change token hash required"
  else if ttl ≤ 0 then p.fail "email change ttl must be positive"
  else if p.isAnonymised then p.fail "cannot change email of anonymised person"
  else if p.isGloballySuspended then p.fail "cannot change email while globally suspended"
  else
    let expiresAt := now + ttl
    let q := recordEvent { p with pendingEmailChange := ⟨newEmail, tokenHash, expiresAt⟩ }
      (.emailChangeRequested p.id newEmail expiresAt now)
    if plaintextToken = "" then (q, none)
    else
      (recordEvent q (.emailChangeConfirmationRequested p.id newEmail p.email plaintextToken
        p.firstName expiresAt now), none)

def confirmEmailChange (p : Person) (presentedHash : String) (now : Time) (stamp : String) :
    Result :=
  if presentedHash = "" then p.fail "presented email change token hash required"
  else if p.isAnonymised then p.fail "cannot change email of anonymised person"
  else if p.isGloballySuspended then p.fail "cannot change email while globally suspended"
  else if p.pendingEmailChange.hash = "" then p.fail "no pending email change"
  else if !now.before p.pendingEmailChange.expiresAt then
    fail { p with pendingEmailChange := {} } "email change token expired"
  else if p.pendingEmailChange.hash ≠ presentedHash then p.fail "email change token mismatch"
  else
    (recordEvent
      { p with
        email := p.pendingEmailChange.newEmail, securityStamp := stamp, pendingEmailChange := {} }
      (.emailChanged p.id p.email p.pendingEmailChange.newEmail now), none)

def cancelEmailChange (p : Person) (reason : String) (now : Time) : Result :=
  if p.pendingEmailChange.hash = "" then (p, none)
  else if isBlank reason then p.fail "cancel reason required for audit"
  else
    (recordEvent { p with pendingEmailChange := {} } (.emailChangeCancelled p.id reason now), none)

def globallySuspend (p : Person) (reason : String) (now : Time) (stamp : String) : Result :=
  if isBlank reason then p.fail "global suspension reason required for audit"
  else if p.isAnonymised then p.fail "cannot suspend anonymised person"
  else if p.isGloballySuspended then
    if p.globalSuspensionReason = reason then (p, none) else p.fail "person already suspended"
  else
    -- `isActive` is not touched.
    (recordEvent
      { p with
        isGloballySuspended := true, globalSuspensionReason := reason, globallySuspendedAt := now
        securityStamp := stamp }
      (.globallySuspended p.id reason now), none)

def liftGlobalSuspension (p : Person) (now : Time) : Result :=
  if !p.isGloballySuspended then (p, none)
  else
    (recordEvent
      { p with
        isGloballySuspended := false, globalSuspensionReason := "", globallySuspendedAt := 0 }
      (.globalSuspensionLifted p.id now), none)

def anonymise (p : Person) (now : Time) (stamp : String) : Result :=
  if p.isAnonymised then (p, none)
  else
    (recordEvent
      { p with
        firstName := "anonymised", lastName := "anonymised", isActive := false
        isAnonymised := true, anonymisedAt := now, securityStamp := stamp }
      (.anonymised p.id now), none)

def markPasswordChanged (p : Person) : Person := { p with mustChangePassword := false }

def resetWindow (p : Person) (now : Time) : Person :=
  if !p.lastFailedLoginAt.isZero ∧ now - p.lastFailedLoginAt > lockoutWindow then
    if !p.lockedUntil.isZero ∧ !now.before p.lockedUntil then
      { p with failedLoginCount := 0, lockedUntil := 0 }
    else { p with failedLoginCount := 0 }
  else p

def registerFailedLogin (p : Person) (now : Time) : Person :=
  let q := p.resetWindow now
  let q := { q with failedLoginCount := q.failedLoginCount + 1, lastFailedLoginAt := now }
  if q.failedLoginCount ≥ maxFailedLogins ∧ !q.isLocked now then
    recordEvent { q with lockedUntil := now + lockoutDuration }
      (.accountLocked q.id (now + lockoutDuration) q.failedLoginCount now)
  else q

def registerSuccessfulLogin (p : Person) (now : Time) : Person :=
  let q := { p with failedLoginCount := 0, lockedUntil := 0, lastFailedLoginAt := 0 }
  if p.failedLoginCount > 0 ∨ !p.lockedUntil.isZero then
    recordEvent q (.accountUnlocked p.id now)
  else q

inductive Op where
  | changePassword (newHash : String) (now : Time) (stamp : String)
  | updateProfile (firstName lastName : String) (now : Time)
  | requestPasswordReset (plaintextToken tokenHash : String) (ttl : Duration) (now : Time)
  | confirmPasswordReset (presentedHash newHash : String) (now : Time) (stamp : String)
  | cancelPasswordReset (reason : String) (now : Time)
  | requestEmailChange (newEmail plaintextToken tokenHash : String) (ttl : Duration) (now : Time)
  | confirmEmailChange (presentedHash : String) (now : Time) (stamp : String)
  | cancelEmailChange (reason : String) (now : Time)
  | globallySuspend (reason : String) (now : Time) (stamp : String)
  | liftGlobalSuspension (now : Time)
  | anonymise (now : Time) (stamp : String)
  | markPasswordChanged
  | registerFailedLogin (now : Time)
  | registerSuccessfulLogin (now : Time)
  /-- The repository drains the events when it persists the person. -/
  | pullEvents

def apply (p : Person) : Op → Person
  | .changePassword newHash now stamp => (p.changePassword newHash now stamp).1
  | .updateProfile firstName lastName now => (p.updateProfile firstName lastName now).1
  | .requestPasswordReset plain hash ttl now => (p.requestPasswordReset plain hash ttl now).1
  | .confirmPasswordReset presented newHash now stamp =>
    (p.confirmPasswordReset presented newHash now stamp).1
  | .cancelPasswordReset reason now => (p.cancelPasswordReset reason now).1
  | .requestEmailChange newEmail plain hash ttl now =>
    (p.requestEmailChange newEmail plain hash ttl now).1
  | .confirmEmailChange presented now stamp => (p.confirmEmailChange presented now stamp).1
  | .cancelEmailChange reason now => (p.cancelEmailChange reason now).1
  | .globallySuspend reason now stamp => (p.globallySuspend reason now stamp).1
  | .liftGlobalSuspension now => (p.liftGlobalSuspension now).1
  | .anonymise now stamp => (p.anonymise now stamp).1
  | .markPasswordChanged => p.markPasswordChanged
  | .registerFailedLogin now => p.registerFailedLogin now
  | .registerSuccessfulLogin now => p.registerSuccessfulLogin now
  | .pullEvents => { p with events := [] }

inductive Reachable : Person → Prop
  | new {id email firstName lastName passwordHash : String} {now : Time} {stamp : String}
      {p : Person} (h : new id email firstName lastName passwordHash now stamp = .ok p) :
      Reachable p
  | newWithMustChangePassword {id email firstName lastName passwordHash : String} {now : Time}
      {stamp : String} {p : Person}
      (h : newWithMustChangePassword id email firstName lastName passwordHash now stamp = .ok p) :
      Reachable p
  | step {p : Person} (op : Op) : Reachable p → Reachable (p.apply op)

structure SameFlags (p q : Person) : Prop where
  id : q.id = p.id
  isActive : q.isActive = p.isActive
  isAnonymised : q.isAnonymised = p.isAnonymised

theorem SameFlags.refl (p : Person) : SameFlags p p := ⟨rfl, rfl, rfl⟩

theorem registerFailedLogin_sameFlags (p : Person) (now : Time) :
    SameFlags p (p.registerFailedLogin now) := by
  have hr : SameFlags p (p.resetWindow now) := by
    unfold resetWindow
    split
    · split <;> exact ⟨rfl, rfl, rfl⟩
    · exact .refl p
  unfold registerFailedLogin
  dsimp only
  split
  · exact ⟨hr.id, hr.isActive, hr.isAnonymised⟩
  · exact ⟨hr.id, hr.isActive, hr.isAnonymised⟩

theorem registerSuccessfulLogin_sameFlags (p : Person) (now : Time) :
    SameFlags p (p.registerSuccessfulLogin now) := by
  unfold registerSuccessfulLogin
  split <;> exact ⟨rfl, rfl, rfl⟩

theorem apply_flags (p : Person) (op : Op) : SameFlags p (p.apply op) ∨
    ((p.apply op).id = p.id ∧ (p.apply op).isActive = false ∧
    (p.apply op).isAnonymised = true) := by
  cases op with
  | anonymise now stamp =>
    simp only [apply, anonymise]
    split
    · exact .inl (.refl p)
    · exact .inr ⟨rfl, rfl, rfl⟩
  | registerFailedLogin now => exact .inl (registerFailedLogin_sameFlags p now)
  | registerSuccessfulLogin now => exact .inl (registerSuccessfulLogin_sameFlags p now)
  | changePassword newHash now stamp =>
    left; simp only [apply, changePassword]
    split <;> exact ⟨rfl, rfl, rfl⟩
  | updateProfile firstName lastName now =>
    left; simp only [apply, updateProfile]
    repeat' split
    all_goals exact ⟨rfl, rfl, rfl⟩
  | requestPasswordReset plain hash ttl now =>
    left; simp only [apply, requestPasswordReset]
    repeat' split
    all_goals exact ⟨rfl, rfl, rfl⟩
  | confirmPasswordReset presented newHash now stamp =>
    left; simp only [apply, confirmPasswordReset]
    repeat' split
    all_goals exact ⟨rfl, rfl, rfl⟩
  | cancelPasswordReset reason now =>
    left; simp only [apply, cancelPasswordReset]
    repeat' split
    all_goals exact ⟨rfl, rfl, rfl⟩
  | requestEmailChange newEmail plain hash ttl now =>
    left; simp only [apply, requestEmailChange]
    repeat' split
    all_goals exact ⟨rfl, rfl, rfl⟩
  | confirmEmailChange presented now stamp =>
    left; simp only [apply, confirmEmailChange]
    repeat' split
    all_goals exact ⟨rfl, rfl, rfl⟩
  | cancelEmailChange reason now =>
    left; simp only [apply, cancelEmailChange]
    repeat' split
    all_goals exact ⟨rfl, rfl, rfl⟩
  | globallySuspend reason now stamp =>
    left; simp only [apply, globallySuspend]
    repeat' split
    all_goals exact ⟨rfl, rfl, rfl⟩
  | liftGlobalSuspension now =>
    left; simp only [apply, liftGlobalSuspension]
    split <;> exact ⟨rfl, rfl, rfl⟩
  | markPasswordChanged => exact .inl ⟨rfl, rfl, rfl⟩
  | pullEvents => exact .inl ⟨rfl, rfl, rfl⟩

variable {id email firstName lastName passwordHash stamp : String} {now : Time} {p : Person}

theorem new_ok (h : new id email firstName lastName passwordHash now stamp = .ok p) :
    id ≠ "" ∧ p = { id, email, firstName, lastName, passwordHash, securityStamp := stamp,
                    isActive := true, createdAt := now,
                    events := [.created id email firstName lastName now] } := by
  unfold new at h
  split at h
  · cases h
  rename_i hid
  iterate 6
    split at h
    · cases h
  exact ⟨hid, (Except.ok.inj h).symm⟩

theorem newWithMustChangePassword_ok
    (h : newWithMustChangePassword id email firstName lastName passwordHash now stamp = .ok p) :
    ∃ q, new id email firstName lastName passwordHash now stamp = .ok q ∧
    p = { q with mustChangePassword := true } := by
  unfold newWithMustChangePassword at h
  split at h
  · cases h
  · rename_i q hq
    exact ⟨q, hq, (Except.ok.inj h).symm⟩

theorem Reachable.id_ne (h : Reachable p) : p.id ≠ "" := by
  induction h with
  | new h =>
    obtain ⟨hid, rfl⟩ := new_ok h
    exact hid
  | newWithMustChangePassword h =>
    obtain ⟨q, hq, rfl⟩ := newWithMustChangePassword_ok h
    obtain ⟨hid, rfl⟩ := new_ok hq
    exact hid
  | @step p op _ ih =>
    rcases apply_flags p op with hs | ⟨hid, -⟩
    · rw [hs.id]; exact ih
    · rw [hid]; exact ih

theorem Reachable.isActive_eq (h : Reachable p) : p.isActive = !p.isAnonymised := by
  induction h with
  | new h =>
    obtain ⟨-, rfl⟩ := new_ok h
    rfl
  | newWithMustChangePassword h =>
    obtain ⟨q, hq, rfl⟩ := newWithMustChangePassword_ok h
    obtain ⟨-, rfl⟩ := new_ok hq
    rfl
  | @step p op _ ih =>
    rcases apply_flags p op with hs | ⟨-, ha, han⟩
    · rw [hs.isActive, hs.isAnonymised, ih]
    · rw [ha, han]; rfl

end Person

end Leadkart
