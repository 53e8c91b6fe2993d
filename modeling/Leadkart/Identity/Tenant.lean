import Leadkart.Common.Basic

/-!
# Slugs and the Tenant aggregate
-/

namespace Leadkart

namespace Slug

def errInvalid : Sentinel := ⟨.invalidInput, "slug", "invalid slug"⟩

def minLen : Nat := 3
def maxLen : Nat := 63

def isAlnum (c : Char) : Bool := ('a' ≤ c && c ≤ 'z') || ('0' ≤ c && c ≤ '9')

def slugRE (cs : List Char) : Bool :=
  decide (2 ≤ cs.length) && cs.all (fun c => isAlnum c || c == '-') &&
    cs.head?.any isAlnum && cs.getLast?.any isAlnum

def hasDoubleHyphen : List Char → Bool
  | '-' :: '-' :: _ => true
  | _ :: cs => hasDoubleHyphen cs
  | [] => false

def new (raw : String) : Except Err String :=
  let trimmed := trimSpace raw
  if trimmed = "" then .error ⟨errInvalid, "empty"⟩
  else if trimmed.utf8ByteSize < minLen then .error ⟨errInvalid, "too short"⟩
  else if trimmed.utf8ByteSize > maxLen then .error ⟨errInvalid, "too long"⟩
  else if !slugRE trimmed.toList then
    .error ⟨errInvalid, "must match [a-z0-9]([a-z0-9-]*[a-z0-9])?"⟩
  else if hasDoubleHyphen trimmed.toList then .error ⟨errInvalid, "double hyphen disallowed"⟩
  else .ok trimmed

end Slug

/-! ## Tenants -/

namespace Tenant

def errInvalid : Sentinel := ⟨.invalidInput, "tenant", "invalid tenant"⟩

def platformSlug : String := "platform"

def nameMaxLen : Nat := 200

inductive Status where
  | unknown
  | pending
  | active
  | suspended
  | pendingDeletion
  | deleted
  deriving DecidableEq

inductive Event where
  | registered (tenantID slug legalName displayName adminEmail : String) (at_ : Time)
  | profileUpdated (tenantID oldLegalName oldDisplayName newLegalName newDisplayName : String)
      (at_ : Time)
  | activated (tenantID : String) (at_ : Time)
  | suspended (tenantID reason : String) (at_ : Time)
  | markedForDeletion (tenantID reason : String) (scheduledAt at_ : Time)
  | restored (tenantID : String) (at_ : Time)
  | deleted (tenantID reason : String) (at_ : Time)
  deriving DecidableEq

end Tenant

structure Tenant where
  (id slug legalName displayName : String)
  status : Tenant.Status
  createdAt : Time
  (activatedAt suspendedAt deletionScheduledAt : Time := 0)
  deletionReason : String := ""
  hardDeletedAt : Time := 0
  events : List Tenant.Event := []
  deriving DecidableEq

namespace Tenant

abbrev Result := Tenant × Option Err

def fail (t : Tenant) (detail : String) : Result := (t, some ⟨errInvalid, detail⟩)

def recordEvent (t : Tenant) (e : Event) : Tenant := { t with events := t.events ++ [e] }

def new (id slug legalName displayName adminEmail : String) (now : Time) : Except Err Tenant :=
  if id = "" then .error ⟨errInvalid, "id required"⟩
  else if slug = "" then .error ⟨errInvalid, "slug required"⟩
  else if isBlank legalName then .error ⟨errInvalid, "legal name required"⟩
  else if isBlank displayName then .error ⟨errInvalid, "display name required"⟩
  else if legalName.utf8ByteSize > nameMaxLen then .error ⟨errInvalid, "legal name too long"⟩
  else if displayName.utf8ByteSize > nameMaxLen then .error ⟨errInvalid, "display name too long"⟩
  else if adminEmail = "" then
    .error ⟨errInvalid, "admin email required for RegisteredEvent payload"⟩
  else .ok
    { id, slug, legalName, displayName
      status := .pending
      createdAt := now
      events := [.registered id slug legalName displayName adminEmail now] }

def updateProfile (t : Tenant) (legalName displayName : String) (now : Time) : Result :=
  if isBlank legalName then t.fail "legal name required"
  else if isBlank displayName then t.fail "display name required"
  else if legalName.utf8ByteSize > nameMaxLen then t.fail "legal name too long"
  else if displayName.utf8ByteSize > nameMaxLen then t.fail "display name too long"
  else if legalName = t.legalName ∧ displayName = t.displayName then (t, none)
  else
    (recordEvent { t with legalName, displayName }
      (.profileUpdated t.id t.legalName t.displayName legalName displayName now), none)

def activate (t : Tenant) (now : Time) : Result :=
  match t.status with
  | .active => (t, none)
  | .pendingDeletion => t.fail "tenant pending deletion; use RestoreFromDeletion"
  | .deleted => t.fail "tenant deleted; cannot activate"
  | _ => (recordEvent { t with status := .active, activatedAt := now } (.activated t.id now), none)

def suspend (t : Tenant) (reason : String) (now : Time) : Result :=
  if isBlank reason then t.fail "suspension reason required for audit"
  else
    match t.status with
    | .suspended => (t, none)
    | .pendingDeletion => t.fail "tenant pending deletion; suspend not allowed"
    | .deleted => t.fail "tenant deleted; cannot suspend"
    | _ =>
      (recordEvent { t with status := .suspended, suspendedAt := now }
        (.suspended t.id reason now), none)

def markForDeletion (t : Tenant) (reason : String) (now : Time) : Result :=
  if isBlank reason then t.fail "deletion reason required for audit"
  else
    match t.status with
    | .active | .suspended =>
      (recordEvent
        { t with
          status := .pendingDeletion, deletionScheduledAt := now, deletionReason := reason }
        (.markedForDeletion t.id reason now now), none)
    | .pendingDeletion =>
      if t.deletionReason = reason then (t, none) else t.fail "tenant already pending deletion"
    | .deleted => t.fail "tenant already deleted"
    | .pending => t.fail "tenant never activated; cannot mark for deletion (use hard delete)"
    | .unknown => t.fail "invalid status unknown"

def restoreFromDeletion (t : Tenant) (now : Time) : Result :=
  match t.status with
  | .active => (t, none)
  | .pendingDeletion =>
    (recordEvent
      { t with
        status := .active, deletionScheduledAt := 0, deletionReason := "", activatedAt := now }
      (.restored t.id now), none)
  | .deleted => t.fail "tenant already hard-deleted; cannot restore"
  | _ => t.fail "cannot restore from status"

def hardDelete (t : Tenant) (now : Time) : Result :=
  match t.status with
  | .deleted => (t, none)
  | .pendingDeletion | .pending =>
    (recordEvent { t with status := .deleted, hardDeletedAt := now }
      (.deleted t.id t.deletionReason now), none)
  | _ => t.fail "hard delete requires PendingDeletion or Pending status"

inductive Op where
  | updateProfile (legalName displayName : String) (now : Time)
  | activate (now : Time)
  | suspend (reason : String) (now : Time)
  | markForDeletion (reason : String) (now : Time)
  | restoreFromDeletion (now : Time)
  | hardDelete (now : Time)
  | pullEvents

def apply (t : Tenant) : Op → Tenant
  | .updateProfile legalName displayName now => (t.updateProfile legalName displayName now).1
  | .activate now => (t.activate now).1
  | .suspend reason now => (t.suspend reason now).1
  | .markForDeletion reason now => (t.markForDeletion reason now).1
  | .restoreFromDeletion now => (t.restoreFromDeletion now).1
  | .hardDelete now => (t.hardDelete now).1
  | .pullEvents => { t with events := [] }

inductive Reachable : Tenant → Prop
  | new {id slug legalName displayName adminEmail : String} {now : Time} {t : Tenant}
      (h : new id slug legalName displayName adminEmail now = .ok t) : Reachable t
  | step {t : Tenant} (op : Op) : Reachable t → Reachable (t.apply op)

def Status.next : Status → List Status
  | .unknown => [.unknown]
  | .pending => [.pending, .active, .suspended, .deleted]
  | .active => [.active, .suspended, .pendingDeletion]
  | .suspended => [.suspended, .active, .pendingDeletion]
  | .pendingDeletion => [.pendingDeletion, .active, .deleted]
  | .deleted => [.deleted]

theorem apply_status (t : Tenant) (op : Op) (h : t.status ≠ .unknown) :
    (t.apply op).status ∈ t.status.next := by
  cases op with
  | updateProfile legalName displayName now =>
    have hsa : (t.apply (.updateProfile legalName displayName now)).status = t.status := by
      simp only [apply, updateProfile]
      repeat' split
      all_goals rfl
    rw [hsa]
    cases hs : t.status <;> simp [Status.next]
  | pullEvents =>
    show t.status ∈ _
    cases hs : t.status <;> simp [Status.next]
  | activate now =>
    cases hs : t.status <;> simp_all [apply, activate, Status.next, fail, recordEvent]
  | suspend reason now =>
    cases hs : t.status <;> simp only [apply, suspend, hs] <;> split <;>
      simp_all [Status.next, fail, recordEvent]
  | markForDeletion reason now =>
    cases hs : t.status <;> simp only [apply, markForDeletion, hs] <;> repeat' split
    all_goals simp_all [Status.next, fail, recordEvent]
  | restoreFromDeletion now =>
    cases hs : t.status <;> simp_all [apply, restoreFromDeletion, Status.next, fail, recordEvent]
  | hardDelete now =>
    cases hs : t.status <;> simp_all [apply, hardDelete, Status.next, fail, recordEvent]

variable {t : Tenant}

theorem new_ok {id slug legalName displayName a : String} {now : Time}
    (h : new id slug legalName displayName a now = .ok t) :
    id ≠ "" ∧ t = { id, slug, legalName, displayName, status := .pending, createdAt := now,
                    events := [.registered id slug legalName displayName a now] } := by
  unfold new at h
  split at h
  · cases h
  rename_i hid
  iterate 6
    split at h
    · cases h
  exact ⟨hid, (Except.ok.inj h).symm⟩

theorem Reachable.status_ne (h : Reachable t) : t.status ≠ .unknown := by
  induction h with
  | new h =>
    obtain ⟨-, rfl⟩ := new_ok h
    simp
  | @step t op _ ih =>
    have hn := apply_status t op ih
    intro hu
    rw [hu] at hn
    cases hs : t.status <;> simp_all [Status.next]

end Tenant

end Leadkart
