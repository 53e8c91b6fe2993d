import Leadkart.Common.Tenancy
import Leadkart.Identity.Permission

/-!
# Permission requests
-/

namespace Leadkart

namespace PermissionRequest

def errInvalidRequest : Sentinel :=
  ⟨.invalidInput, "permission_request", "invalid permission request"⟩
def errNotPending : Sentinel :=
  ⟨.conflict, "permission_request", "permission request is not pending"⟩
def errSelfApproval : Sentinel :=
  ⟨.invalidInput, "permission_request", "approver cannot equal requester (self-approval forbidden)"⟩
def errPendingRequestExists : Sentinel :=
  ⟨.alreadyExists, "permission_request", "a pending request for this permission already exists"⟩
def errNotFound : Sentinel := ⟨.notFound, "permission_request", "permission request not found"⟩
def errInvalidPermission : Sentinel :=
  ⟨.invalidInput, "permission_request", "permission is not in the closed-set catalogue"⟩
def errInvalidDuration : Sentinel :=
  ⟨.invalidInput, "permission_request", "duration_days out of [1, 90]"⟩

def minReasonLength : Nat := 10
def maxReasonLength : Nat := 1024
def maxDecisionReasonLength : Nat := 1024
def minDurationDays : Int := 1
def maxDurationDays : Int := 90

inductive State where
  | pending
  | approved
  | denied
  | cancelled
  deriving DecidableEq

def State.string : State → String
  | pending => "pending"
  | approved => "approved"
  | denied => "denied"
  | cancelled => "cancelled"

inductive Event where
  | requested (requestID tenantID requesterMembershipID permission : String) (durationDays : Int)
      (reason : String) (occurredAt : Time)
  | approved (requestID tenantID approverMembershipID : String) (expiresAt occurredAt : Time)
  | denied (requestID tenantID approverMembershipID reason : String) (occurredAt : Time)
  | cancelled (requestID tenantID : String) (occurredAt : Time)

end PermissionRequest

structure PermissionRequest where
  (id tenantID requesterMembershipID : String)
  permission : Permission
  durationDays : Int
  reason : String
  state : PermissionRequest.State
  approverMembershipID : String := ""
  decidedAt : Time := 0
  decisionReason : String := ""
  grantedOverrideID : UUID := 0
  expiresAt : Time := 0
  (createdAt updatedAt : Time)
  events : List PermissionRequest.Event := []

namespace PermissionRequest

variable (r : PermissionRequest)

def recordEvent (e : Event) : PermissionRequest :=
  { r with events := r.events ++ [e] }

def new (id tenantID requesterMembershipID : String) (perm : Option Permission)
    (durationDays : Int) (reason : String) (now : Time) : Except Err PermissionRequest :=
  if id = "" then .error ⟨errInvalidRequest, "id required"⟩
  else if tenantID = "" then .error ⟨errInvalidRequest, "tenantID required"⟩
  else if requesterMembershipID = "" then
    .error ⟨errInvalidRequest, "requesterMembershipID required"⟩
  else
    match perm with
    | none => .error ⟨errInvalidRequest, "permission required"⟩
    | some permission =>
      if permission.name ∉ Permission.allNames then .error ⟨errInvalidPermission, permission.name⟩
      else if durationDays < minDurationDays ∨ maxDurationDays < durationDays then
        .error ⟨errInvalidDuration, ""⟩
      else
        let trimmed := trimSpace reason
        if trimmed.utf8ByteSize < minReasonLength then
          .error ⟨errInvalidRequest, "reason length below floor"⟩
        else if maxReasonLength < trimmed.utf8ByteSize then
          .error ⟨errInvalidRequest, "reason length above ceiling"⟩
        else .ok (recordEvent
          { id, tenantID, requesterMembershipID, permission, durationDays
            reason := trimmed
            state := .pending
            createdAt := now
            updatedAt := now }
          (.requested id tenantID requesterMembershipID permission.name durationDays trimmed now))

def checkDecision (approverID trimmed : String) (required : Bool) :
    Except Err Unit :=
  if r.state ≠ .pending then .error ⟨errNotPending, r.state.string⟩
  else if approverID = "" then .error ⟨errInvalidRequest, "approverID required"⟩
  else if approverID = r.requesterMembershipID then
    .error ⟨errSelfApproval, "requester " ++ r.requesterMembershipID⟩
  else if required ∧ trimmed = "" then
    .error ⟨errInvalidRequest, "decision_reason required on Deny"⟩
  else if maxDecisionReasonLength < trimmed.utf8ByteSize then
    .error ⟨errInvalidRequest, "decision_reason length above ceiling"⟩
  else .ok ()

def approvedBy (approverID trimmed : String) (grantedOverrideID : UUID)
    (expiresAt now : Time) : PermissionRequest :=
  recordEvent
    { r with
      state := .approved
      approverMembershipID := approverID
      decidedAt := now
      decisionReason := trimmed
      grantedOverrideID
      expiresAt
      updatedAt := now }
    (.approved r.id r.tenantID approverID expiresAt now)

def approve (approverID decisionReason : String) (grantedOverrideID : UUID)
    (expiresAt now : Time) : Except Err PermissionRequest := do
  let trimmed := trimSpace decisionReason
  r.checkDecision approverID trimmed false
  return r.approvedBy approverID trimmed grantedOverrideID expiresAt now

def deny (approverID decisionReason : String) (now : Time) :
    Except Err PermissionRequest := do
  let trimmed := trimSpace decisionReason
  r.checkDecision approverID trimmed true
  return recordEvent
    { r with
      state := .denied
      approverMembershipID := approverID
      decidedAt := now
      decisionReason := trimmed
      updatedAt := now }
    (.denied r.id r.tenantID approverID trimmed now)

def cancel (now : Time) : Except Err PermissionRequest :=
  if r.state ≠ .pending then .error ⟨errNotPending, r.state.string⟩
  else .ok (recordEvent { r with state := .cancelled, decidedAt := now, updatedAt := now }
    (.cancelled r.id r.tenantID now))

theorem checkDecision_eq_ok {r : PermissionRequest} {a t : String} :
    r.checkDecision a t false = .ok () ↔ r.state = .pending ∧ a ≠ "" ∧ a ≠ r.requesterMembershipID ∧
    t.utf8ByteSize ≤ maxDecisionReasonLength := by
  unfold checkDecision
  by_cases hstate : r.state = .pending
  swap
  · simp [hstate]
  by_cases hid : a = ""
  · simp [hstate, hid]
  by_cases hs : a = r.requesterMembershipID
  · simp only [hs, hstate, ne_eq, not_true, if_false, if_true]
    split <;> simp
  by_cases hl : maxDecisionReasonLength < t.utf8ByteSize
  · simp [hstate, hid, hs, hl]
  · simp [hstate, hid, hs, hl, Nat.le_of_not_lt hl]

theorem approve_eq_ok {r r' : PermissionRequest} {a d : String} {g : UUID} {ex now : Time} :
    r.approve a d g ex now = .ok r' ↔ (r.state = .pending ∧ a ≠ "" ∧ a ≠ r.requesterMembershipID ∧
    (trimSpace d).utf8ByteSize ≤ maxDecisionReasonLength) ∧
    r.approvedBy a (trimSpace d) g ex now = r' := by
  rw [← checkDecision_eq_ok]
  unfold approve
  dsimp only
  rcases r.checkDecision a (trimSpace d) false with e | _
  · simp [bind, Except.bind]
  · simp [bind, Except.bind, pure, Except.pure]

end PermissionRequest

end Leadkart
