import Leadkart.Common.Email
import Leadkart.Identity.Person
import Leadkart.Logic.Rmw

/-!
# The person repository
-/

namespace Leadkart.Person

open Leadkart.Machine Leadkart.Rmw

structure PersonRow where
  (id email firstName lastName passwordHash securityStamp : String)
  isActive : Bool
  isAnonymised : Bool := false
  createdAt : Time
  anonymisedAt : Option Time := none
  isGloballySuspended : Bool := false
  globalSuspensionReason : String := ""
  globallySuspendedAt : Option Time := none
  passwordResetTokenHash : Option String := none
  passwordResetExpiresAt : Option Time := none
  (pendingEmailChangeNewEmail pendingEmailChangeTokenHash : Option String := none)
  pendingEmailChangeExpiresAt : Option Time := none
  createdByPersonID : Option String := none
  mustChangePassword : Bool := false
  failedLoginCount : Int := 0
  (lockedUntil lastFailedLoginAt : Option Time := none)
  deriving DecidableEq

def PersonRow.checks (row : PersonRow) : Bool :=
  row.email.toList.length ≤ 254 &&
  (0 < row.firstName.toList.length && row.firstName.toList.length ≤ 100) &&
  (0 < row.lastName.toList.length && row.lastName.toList.length ≤ 100) &&
  (row.passwordResetTokenHash.isSome == row.passwordResetExpiresAt.isSome) &&
  (row.pendingEmailChangeNewEmail.isSome == row.pendingEmailChangeTokenHash.isSome &&
    row.pendingEmailChangeNewEmail.isSome == row.pendingEmailChangeExpiresAt.isSome)

def PersonRow.collides (row other : PersonRow) : Bool :=
  row.email == other.email ||
  (row.passwordResetTokenHash.isSome &&
    row.passwordResetTokenHash == other.passwordResetTokenHash) ||
  (row.pendingEmailChangeTokenHash.isSome &&
    row.pendingEmailChangeTokenHash == other.pendingEmailChangeTokenHash)

def tokenHashMinLen : Nat := 32
def tokenHashMaxLen : Nat := 128

def newTokenHash (name short raw : String) : Except Err String :=
  let n := raw.utf8ByteSize
  if raw = "" then .error ⟨errInvalid, s!"{name} empty"⟩
  else if n < tokenHashMinLen then
    .error ⟨errInvalid, s!"{short} too short (got {n}, want ≥{tokenHashMinLen})"⟩
  else if n > tokenHashMaxLen then
    .error ⟨errInvalid, s!"{short} too long (got {n}, want ≤{tokenHashMaxLen})"⟩
  else .ok raw

def newPasswordResetTokenHash : String → Except Err String :=
  newTokenHash "password reset token hash" "reset token hash"

def newEmailChangeTokenHash : String → Except Err String :=
  newTokenHash "email change token hash" "email change token hash"

def hydratePasswordHash (row : PersonRow) : Except Err String :=
  match newPasswordHash row.passwordHash with
  | .ok hash => .ok hash
  | .error e => if row.isAnonymised then .ok "" else .error e

def hydratePasswordReset (row : PersonRow) : Except Err PendingPasswordReset :=
  match row.passwordResetTokenHash with
  | none => .ok {}
  | some raw => (newPasswordResetTokenHash raw).map fun hash =>
    ⟨hash, timeFromPg row.passwordResetExpiresAt⟩

def hydrateEmailChange (lib : MailLib) (row : PersonRow) : Except Err PendingEmailChange :=
  match row.pendingEmailChangeTokenHash, row.pendingEmailChangeNewEmail with
  | some raw, some rawEmail =>
    (Email.new lib rawEmail).bind fun newEmail =>
      (newEmailChangeTokenHash raw).map fun hash =>
        ⟨newEmail, hash, timeFromPg row.pendingEmailChangeExpiresAt⟩
  | _, _ => .ok {}

def rowToPerson (lib : MailLib) (row : PersonRow) : Except Err Person :=
  (Email.new lib row.email).bind fun email =>
  (hydratePasswordHash row).bind fun passwordHash =>
  (hydratePasswordReset row).bind fun pendingPasswordReset =>
  (hydrateEmailChange lib row).map fun pendingEmailChange =>
    { id := row.id
      email, passwordHash, pendingPasswordReset, pendingEmailChange
      firstName := row.firstName
      lastName := row.lastName
      securityStamp := row.securityStamp
      isActive := row.isActive
      isAnonymised := row.isAnonymised
      isGloballySuspended := row.isGloballySuspended
      globalSuspensionReason := row.globalSuspensionReason
      globallySuspendedAt := timeFromPg row.globallySuspendedAt
      mustChangePassword := row.mustChangePassword
      failedLoginCount := row.failedLoginCount
      lockedUntil := timeFromPg row.lockedUntil
      lastFailedLoginAt := timeFromPg row.lastFailedLoginAt
      createdAt := row.createdAt
      anonymisedAt := timeFromPg row.anonymisedAt }

def loadPerson (lib : MailLib) : List PersonRow → Option Person
  | [row] => (rowToPerson lib row).toOption
  | _ => none

def persistPerson (p : Person) (row : PersonRow) : PersonRow :=
  -- `applyPendingResetToUpdate` and `applyPendingEmailChangeToUpdate`: nothing pending is NULL.
  let reset := p.pendingPasswordReset
  let change := p.pendingEmailChange
  let row := { row with
    email := p.email
    firstName := p.firstName
    lastName := p.lastName
    passwordHash := p.passwordHash
    securityStamp := p.securityStamp
    isActive := p.isActive
    isAnonymised := p.isAnonymised
    anonymisedAt := pgTimestamp p.anonymisedAt
    isGloballySuspended := p.isGloballySuspended
    globalSuspensionReason := p.globalSuspensionReason
    globallySuspendedAt := pgTimestamp p.globallySuspendedAt
    mustChangePassword := p.mustChangePassword
    failedLoginCount := toInt32 p.failedLoginCount
    lockedUntil := pgTimestamp p.lockedUntil
    lastFailedLoginAt := pgTimestamp p.lastFailedLoginAt }
  { row with
    passwordResetTokenHash := zeroToNil reset.hash
    passwordResetExpiresAt := if reset.hash = "" then none else pgTimestamp reset.expiresAt
    pendingEmailChangeNewEmail := if change.hash = "" then none else some change.newEmail
    pendingEmailChangeTokenHash := zeroToNil change.hash
    pendingEmailChangeExpiresAt := if change.hash = "" then none else pgTimestamp change.expiresAt }

abbrev UpdateFn := Person → Person × Except Err Bool

section

variable (lib : MailLib) (others : List PersonRow)

def updateByID (updateFn : UpdateFn) : Txn PersonRow Person where
  reads := 1
  attempt seen :=
    (loadPerson lib seen).bind fun p =>
      match updateFn p with
      | (p', .ok true) => some p'
      | _ => none
  write p row :=
    let row' := persistPerson p row
    if row'.checks && others.all fun other => !row'.collides other then some row' else none

end

def opFn (op : Person → Result) : UpdateFn := fun p =>
  match op p with
  | (p', none) => (p', .ok true)
  | (p', some e) => (p', .error e)

def passwordResetTokenTTL : Duration := 60 * minute
def emailChangeTokenTTL : Duration := 60 * minute

inductive Measure where
  | globallySuspend (reason : String) (now : Time) (stamp : String)
  | anonymise (now : Time) (stamp : String)
  | changePassword (newHash : String) (now : Time) (stamp : String)

inductive Edit where
  | updateProfile (firstName lastName : String) (now : Time)
  | requestPasswordReset (plaintext tokenHash : String) (now : Time)
  | requestEmailChange (newEmail plaintext tokenHash : String) (now : Time)

def Measure.op : Measure → Person → Result
  | .globallySuspend reason now stamp, p => p.globallySuspend reason now stamp
  | .anonymise now stamp, p => p.anonymise now stamp
  | .changePassword newHash now stamp, p =>
    match p.changePassword newHash now stamp with
    | (q, some e) => (q, some e)
    | (q, none) => q.cancelPasswordReset "password-changed-directly" now

def Edit.op : Edit → Person → Result
  | .updateProfile firstName lastName now, p => p.updateProfile firstName lastName now
  | .requestPasswordReset plaintext tokenHash now, p =>
    p.requestPasswordReset plaintext tokenHash passwordResetTokenTTL now
  | .requestEmailChange newEmail plaintext tokenHash now, p =>
    p.requestEmailChange newEmail plaintext tokenHash emailChangeTokenTTL now

structure Standing where
  (passwordHash securityStamp : String)
  (isActive isAnonymised : Bool)
  anonymisedAt : Time
  isGloballySuspended : Bool
  globalSuspensionReason : String
  globallySuspendedAt : Time

def standing (p : Person) : Standing :=
  ⟨p.passwordHash, p.securityStamp, p.isActive, p.isAnonymised, p.anonymisedAt,
    p.isGloballySuspended, p.globalSuspensionReason, p.globallySuspendedAt⟩

def PersonRow.standing (row : PersonRow) : Standing :=
  ⟨row.passwordHash, row.securityStamp, row.isActive, row.isAnonymised,
    timeFromPg row.anonymisedAt, row.isGloballySuspended, row.globalSuspensionReason,
    timeFromPg row.globallySuspendedAt⟩

def Measure.Done (st : Standing) : Measure → Prop
  | .globallySuspend reason _ _ =>
    st.isGloballySuspended = true ∧ st.globalSuspensionReason = reason
  | .anonymise _ _ => st.isAnonymised = true
  | .changePassword newHash _ stamp => st.passwordHash = newHash ∧ st.securityStamp = stamp

section Standing

variable {lib : MailLib} {others : List PersonRow} {row row' : PersonRow} {p : Person}

theorem hydratePasswordHash_eq {hash : String} (h : hydratePasswordHash row = .ok hash)
    (ha : row.isAnonymised = false) : hash = row.passwordHash := by
  unfold hydratePasswordHash newPasswordHash at h
  simp only [ha] at h
  grind

theorem rowToPerson_standing (h : rowToPerson lib row = .ok p) : p.isAnonymised = row.isAnonymised ∧
    (row.isAnonymised = false → p.standing = row.standing) := by
  unfold rowToPerson at h
  rcases he : Email.new lib row.email with e | email <;> rw [he] at h
  · exact absurd h (by simp [Except.bind])
  rcases hh : hydratePasswordHash row with e | hash <;> rw [hh] at h
  · exact absurd h (by simp [Except.bind])
  rcases hr : hydratePasswordReset row with e | reset <;> rw [hr] at h
  · exact absurd h (by simp [Except.bind])
  rcases hc : hydrateEmailChange lib row with e | change <;> rw [hc] at h
  · exact absurd h (by simp [Except.bind, Except.map])
  cases h
  refine ⟨rfl, fun ha => ?_⟩
  obtain rfl := hydratePasswordHash_eq hh ha
  rfl

@[simp] theorem persistPerson_standing (p : Person) (row : PersonRow) :
    (persistPerson p row).standing = p.standing := by
  simp [persistPerson, PersonRow.standing, Person.standing]

theorem Edit.op_standing (y : Edit) (h : (y.op p).2 = none) :
    p.isAnonymised = false ∧ (y.op p).1.standing = p.standing := by
  cases y with
  | updateProfile firstName lastName now =>
    simp only [Edit.op, Person.updateProfile] at h ⊢
    split at h
    · cases h
    rename_i ha
    rw [if_neg ha]
    refine ⟨by simpa using ha, ?_⟩
    repeat' split
    all_goals rfl
  | requestPasswordReset plaintext tokenHash now =>
    simp only [Edit.op, Person.requestPasswordReset] at h ⊢
    iterate 2
      split at h
      · cases h
    split at h
    · cases h
    rename_i ha
    refine ⟨by simpa using ha, ?_⟩
    repeat' split
    all_goals rfl
  | requestEmailChange newEmail plaintext tokenHash now =>
    simp only [Edit.op, Person.requestEmailChange] at h ⊢
    iterate 4
      split at h
      · cases h
    split at h
    · cases h
    rename_i ha
    refine ⟨by simpa using ha, ?_⟩
    repeat' split
    all_goals rfl

theorem Measure.op_done (x : Measure) (h : (x.op p).2 = none) : x.Done (x.op p).1.standing := by
  cases x with
  | globallySuspend reason now stamp =>
    simp only [Measure.op, Person.globallySuspend] at h ⊢
    split at h
    · cases h
    rename_i hreason
    split at h
    · cases h
    rename_i ha
    rw [if_neg hreason, if_neg ha]
    split at h
    · rename_i hs
      split at h
      · rename_i hsa
        rw [if_pos hs, if_pos hsa]
        exact ⟨hs, hsa⟩
      · cases h
    · rename_i hs
      rw [if_neg hs]
      exact ⟨rfl, rfl⟩
  | anonymise now stamp =>
    simp only [Measure.op, Person.anonymise]
    split
    · assumption
    · rfl
  | changePassword newHash now stamp =>
    simp only [Measure.op, Person.changePassword] at h ⊢
    by_cases he : newHash = ""
    · rw [if_pos he] at h
      cases h
    · rw [if_neg he]
      simp only [cancelPasswordReset]
      repeat' split
      all_goals exact ⟨rfl, rfl⟩

variable {seen : List PersonRow}

theorem loadPerson_eq (h : loadPerson lib seen = some p) :
    ∃ read, seen = [read] ∧ rowToPerson lib read = .ok p := by
  unfold loadPerson at h
  split at h
  · rename_i read
    rcases hr : rowToPerson lib read with e | q <;> rw [hr] at h
    · exact absurd h (by simp [Except.toOption])
    · cases h
      exact ⟨read, rfl, hr⟩
  · cases h

theorem updateByID_opFn {op : Person → Result} {w : Person}
    (ha : (updateByID lib others (opFn op)).attempt seen = some w)
    (hw : (updateByID lib others (opFn op)).write w row = some row') :
    ∃ read p, seen = [read] ∧ rowToPerson lib read = .ok p ∧ (op p).2 = none ∧
    row'.standing = (op p).1.standing := by
  obtain ⟨p, hl, hfn⟩ := Option.bind_eq_some_iff.mp ha
  obtain ⟨read, hs, hr⟩ := loadPerson_eq hl
  have hrow : row'.standing = w.standing := by
    simp only [updateByID] at hw
    split at hw
    · cases hw
      exact persistPerson_standing w row
    · cases hw
  refine ⟨read, p, hs, hr, ?_⟩
  unfold opFn at hfn
  rcases hop : op p with ⟨p', _ | e⟩ <;> rw [hop] at hfn
  · cases hfn
    exact ⟨rfl, hrow⟩
  · cases hfn

end Standing

section Serial

variable {ι : Type*} [DecidableEq ι] {lib : MailLib} {others : List PersonRow}
  {fn : ι → UpdateFn} {s : PersonRow} {ls : List (Label ι)} {st : State ι PersonRow Person}

theorem standing_of_current {i : ι} {y : ι → Edit} (hfn : ∀ j, j ≠ i → fn j = opFn (y j).op)
    (hC : Along (step fun i => updateByID lib others (fn i)) (Current fun t => t) (init ι Person s) ls)
    (hr : run (step fun i => updateByID lib others (fn i)) (init ι Person s) ls = some st) :
    ∀ c ∈ st.log, c.who = i → st.store.standing = c.stored.standing := by
  refine run_store_rule
    (P := fun row log => ∀ c ∈ log, c.who = i → row.standing = c.stored.standing)
    (guarded_init (fun t => t) _ s) (by simp [init]) ?_ hC hr
  intro row log j seen w row' hP hf _ hse hat hw c hc hci
  rcases List.mem_cons.mp hc with rfl | hold
  · rfl
  · have hji : j ≠ i := fun hji => hf c hold (hci.trans hji.symm)
    rw [hfn j hji] at hat hw
    obtain ⟨read, p, rfl, hl, hok, hrow⟩ := updateByID_opFn hat hw
    obtain rfl : read = row := hse read (List.mem_singleton_self _)
    obtain ⟨ha, hop⟩ := Edit.op_standing (y j) hok
    obtain ⟨hfl, hs⟩ := rowToPerson_standing hl
    rw [hrow, hop, hs (hfl ▸ ha)]
    exact hP c hold hci

theorem measure_done_of_current {i : ι} {x : Measure} (hfn : fn i = opFn x.op)
    (hC : Along (step fun i => updateByID lib others (fn i)) (Current fun t => t) (init ι Person s) ls)
    (hr : run (step fun i => updateByID lib others (fn i)) (init ι Person s) ls = some st) :
    ∀ c ∈ st.log, c.who = i → x.Done c.stored.standing := by
  refine run_store_rule (P := fun _ log => ∀ c ∈ log, c.who = i → x.Done c.stored.standing)
    (guarded_init (fun t => t) _ s) (by simp [init]) ?_ hC hr
  intro row log j seen w row' hP _ _ _ ha hw c hc hci
  rcases List.mem_cons.mp hc with rfl | hc
  · obtain rfl : j = i := hci
    rw [hfn] at ha hw
    obtain ⟨read, p, -, -, hok, hrow⟩ := updateByID_opFn ha hw
    rw [hrow]
    exact x.op_done hok
  · exact hP c hc hci

end Serial

theorem person_updates_serial_of_current (lib : MailLib) (others : List PersonRow)
    (fn : Fin 2 → UpdateFn) (s : PersonRow) (ls : List (Label (Fin 2)))
    (st : State (Fin 2) PersonRow Person)
    (hC : Along (step fun i => updateByID lib others (fn i)) (Current fun t => t) (init (Fin 2) Person s) ls)
    (hr : run (step fun i => updateByID lib others (fn i)) (init (Fin 2) Person s) ls = some st) :
    ((∀ i, ∃ c ∈ st.log, c.who = i) →
    ((updateByID lib others (fn 0)).alone s).bind (updateByID lib others (fn 1)).alone =
    some st.store ∨
    ((updateByID lib others (fn 1)).alone s).bind (updateByID lib others (fn 0)).alone =
    some st.store) ∧
    ∀ (x : Measure) (y : Edit) (i j : Fin 2), i ≠ j → fn i = opFn x.op → fn j = opFn y.op →
    ∀ c ∈ st.log, c.who = i → st.store.standing = c.stored.standing ∧ x.Done st.store.standing := by
  have hs := run_serial_two hC hr
  refine ⟨hs, ?_⟩
  intro x y i j hij hi hj c hc hci
  have hke : st.store.standing = c.stored.standing := by
    refine standing_of_current (y := fun _ => y) ?_ hC hr c hc hci
    intro k hk
    obtain rfl : k = j := by omega
    exact hj
  refine ⟨hke, ?_⟩
  rw [hke]
  exact measure_done_of_current hi hC hr c hc hci

def sampleRow : PersonRow :=
  { id := "p1", email := "ann@example.com", firstName := "Ann", lastName := "Roe"
    passwordHash := "$argon2id$v=19$m=65536,t=3,p=4$c2FsdHNhbHQ$aGFzaGhhc2g"
    securityStamp := "stamp-1", isActive := true, createdAt := 1 }

def sampleUpdates : Fin 2 → UpdateFn
  | 0 => opFn (Measure.globallySuspend "fraud" 5 "stamp-2").op
  | 1 => opFn (Edit.updateProfile "Anna" "Roe" 6).op

def sampleRun (ls : List (Label (Fin 2))) : Option (State (Fin 2) PersonRow Person) :=
  run (step fun i => updateByID sampleMail [] (sampleUpdates i)) (init (Fin 2) Person sampleRow) ls

theorem person_updates_serial_in_turn :
    ∃ st, sampleRun [.read 0, .write 0, .commit 0, .read 1, .write 1, .commit 1] = some st ∧
    st.store.firstName = "Anna" ∧
    (((updateByID sampleMail [] (sampleUpdates 0)).alone sampleRow).bind
    (updateByID sampleMail [] (sampleUpdates 1)).alone = some st.store ∨
    ((updateByID sampleMail [] (sampleUpdates 1)).alone sampleRow).bind
    (updateByID sampleMail [] (sampleUpdates 0)).alone = some st.store) ∧
    ∃ c ∈ st.log, c.who = 0 ∧ st.store.standing = c.stored.standing ∧
    st.store.isGloballySuspended = true := by
  refine exists_some (P := fun st => st.store.firstName = "Anna" ∧ ∀ i, ∃ c ∈ st.log, c.who = i)
    (by decide +kernel) fun st hst ⟨hname, hb⟩ => ?_
  have hs := person_updates_serial_of_current sampleMail [] sampleUpdates sampleRow _ st
    (by decide +kernel) hst
  obtain ⟨c, hc, hw⟩ := hb 0
  obtain ⟨hk, hd⟩ := hs.2 (.globallySuspend "fraud" 5 "stamp-2")
    (.updateProfile "Anna" "Roe" 6) 0 1 (by decide) rfl rfl c hc hw
  exact ⟨hname, hs.1 hb, c, hc, hw, hk, hd.1⟩

theorem suspension_lost_to_profile_update :
    ∃ st, sampleRun [.read 1, .read 0, .write 0, .commit 0, .write 1, .commit 1] = some st ∧
    (∀ i, ∃ c ∈ st.log, c.who = i) ∧
    st.store.isGloballySuspended = false ∧ st.store.securityStamp = "stamp-1" ∧
    ((updateByID sampleMail [] (sampleUpdates 0)).alone sampleRow).bind
    (updateByID sampleMail [] (sampleUpdates 1)).alone ≠ some st.store ∧
    ((updateByID sampleMail [] (sampleUpdates 1)).alone sampleRow).bind
    (updateByID sampleMail [] (sampleUpdates 0)).alone ≠ some st.store :=
  exists_some (by decide +kernel) fun _ _ h => h

end Leadkart.Person
