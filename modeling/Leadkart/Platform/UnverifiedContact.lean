import Leadkart.Common.Tenancy

/-!
# Unverified contacts
-/

namespace Leadkart

inductive BusinessType where
  | pcd
  | thirdParty
  deriving DecidableEq

inductive MedicineSystem where
  | allopathic
  | ayurvedic
  deriving DecidableEq

inductive OrderValue where
  | below5000
  | upto25000
  | upto50000
  | above50000
  deriving DecidableEq

inductive BuyTimeline where
  | withinWeek
  | within15Days
  | withinMonth
  deriving DecidableEq

structure LeadForm where
  (contactName mobileE164 : String)
  email : String := ""
  (pincode city district state : String)
  street : String := ""
  (hasDrugLicence hasGst : Bool := false)
  gstNumber : String := ""
  hasPan : Bool := false
  panNumber : String := ""
  businessType : BusinessType
  medicineSystem : MedicineSystem
  (productRanges dosageForms : List String := [])
  orderValue : OrderValue
  buyTimeline : BuyTimeline
  deriving DecidableEq

namespace UnverifiedContact

def sampleForm : LeadForm where
  contactName := "Asha"
  mobileE164 := "+919876543210"
  pincode := "160017"
  city := "Chandigarh"
  district := "Chandigarh"
  state := "Chandigarh"
  businessType := .pcd
  medicineSystem := .allopathic
  orderValue := .upto25000
  buyTimeline := .withinWeek

/-! ## The aggregate -/

def errInvalid : Sentinel := ⟨.unknown, "", "unverifiedcontact: invalid"⟩
def errNotFound : Sentinel := ⟨.unknown, "", "unverifiedcontact: not found"⟩

inductive State where
  | new
  | inCall
  | verified
  | rejected
  | busy
  deriving DecidableEq

def State.string : State → String
  | new => "new"
  | inCall => "in_call"
  | verified => "verified"
  | rejected => "rejected"
  | busy => "busy"

inductive Event where
  | created (contactID : String) (createdAt : Time) (createdByMembershipID mobileE164 : String)
  | callStarted (contactID : String) (occurredAt : Time)
  | verified (contactID platformLeadID : String) (verifiedAt : Time)
      (verifiedByMembershipID : String)
  | rejected (contactID reason : String) (rejectedAt : Time) (rejectedByMembershipID : String)
  | markedBusy (contactID : String) (callbackAt callbackEndAt occurredAt : Time)

end UnverifiedContact

structure UnverifiedContact where
  id : String
  form : LeadForm
  state : UnverifiedContact.State
  rejectionReason : String := ""
  (busyCallbackAt busyCallbackEndAt : Time := 0)
  platformLeadID : String := ""
  createdAt : Time
  createdByMembershipID : String
  verifiedAt : Time := 0
  verifiedByMembershipID : String := ""
  rejectedAt : Time := 0
  rejectedByMembershipID : String := ""
  events : List UnverifiedContact.Event := []

namespace UnverifiedContact

def recordEvent (c : UnverifiedContact) (e : Event) : UnverifiedContact :=
  { c with events := c.events ++ [e] }

def new (codec : UuidCodec) (id : String) (form : LeadForm) (createdBy : String) (now : Time) :
    Except Err UnverifiedContact := do
  codec.validateUUID errInvalid "id" id
  codec.validateUUID errInvalid "createdBy" createdBy
  if now.isZero then .error ⟨errInvalid, "now required"⟩
  else
    return recordEvent
      { id, form, state := .new, createdAt := now, createdByMembershipID := createdBy }
      (.created id now createdBy form.mobileE164)

def startCall (c : UnverifiedContact) (now : Time) : Except Err UnverifiedContact :=
  match c.state with
  | .inCall => .ok c
  | .new | .busy =>
    .ok (recordEvent { c with state := .inCall, busyCallbackAt := 0, busyCallbackEndAt := 0 }
      (.callStarted c.id now))
  | .verified => .error ⟨errInvalid, "cannot call a verified contact"⟩
  | .rejected => .error ⟨errInvalid, "cannot call a rejected contact"⟩

def verifiedAs (c : UnverifiedContact) (platformLeadID verifiedBy : String) (now : Time) :
    UnverifiedContact :=
  recordEvent
    { c with state := .verified, platformLeadID, verifiedAt := now
             verifiedByMembershipID := verifiedBy }
    (.verified c.id platformLeadID now verifiedBy)

def markVerified (c : UnverifiedContact) (platformLeadID verifiedBy : String) (now : Time) :
    Except Err UnverifiedContact :=
  if isBlank platformLeadID then .error ⟨errInvalid, "platformLeadID required"⟩
  else if verifiedBy = "" then .error ⟨errInvalid, "verifiedBy required"⟩
  else if c.state = .verified then .ok c
  else if c.state ≠ .inCall then
    .error ⟨errInvalid, "verify requires in_call state (got " ++ c.state.string ++ ")"⟩
  else .ok (c.verifiedAs platformLeadID verifiedBy now)

def rejectedAs (c : UnverifiedContact) (reason rejectedBy : String) (now : Time) :
    UnverifiedContact :=
  recordEvent
    { c with state := .rejected, rejectionReason := trimSpace reason, rejectedAt := now
             rejectedByMembershipID := rejectedBy }
    (.rejected c.id (trimSpace reason) now rejectedBy)

def markRejected (c : UnverifiedContact) (reason rejectedBy : String) (now : Time) :
    Except Err UnverifiedContact :=
  if isBlank reason then .error ⟨errInvalid, "rejection reason required"⟩
  else if rejectedBy = "" then .error ⟨errInvalid, "rejectedBy required"⟩
  else if c.state = .rejected then .ok c
  else if c.state ≠ .inCall then
    .error ⟨errInvalid, "reject requires in_call state (got " ++ c.state.string ++ ")"⟩
  else .ok (c.rejectedAs reason rejectedBy now)

def markBusy (c : UnverifiedContact) (callbackAt callbackEndAt now : Time) :
    Except Err UnverifiedContact :=
  if callbackAt.isZero || callbackEndAt.isZero then
    .error ⟨errInvalid, "callback window required"⟩
  else if !callbackAt.after now then
    .error ⟨errInvalid, "callback start must be in the future"⟩
  else if !callbackEndAt.after callbackAt then
    .error ⟨errInvalid, "callback end must be after start"⟩
  else if c.state ≠ .inCall then
    .error ⟨errInvalid, "busy requires in_call state (got " ++ c.state.string ++ ")"⟩
  else .ok (recordEvent
    { c with state := .busy, busyCallbackAt := callbackAt, busyCallbackEndAt := callbackEndAt }
    (.markedBusy c.id callbackAt callbackEndAt now))

variable {c c' : UnverifiedContact} {now : Time}

theorem markVerified_eq_ok {p v : String} : c.markVerified p v now = .ok c' ↔
    isBlank p = false ∧ v ≠ "" ∧ (c.state = .verified ∧ c' = c ∨
    c.state = .inCall ∧ c' = c.verifiedAs p v now) := by
  unfold markVerified
  by_cases hl : isBlank p = true
  · simp [hl]
  by_cases hby : v = ""
  · simp [hl, hby]
  rw [if_neg hl, if_neg hby]
  cases hstate : c.state <;> simp [hl, hby, eq_comm]

theorem markRejected_eq_ok {reason r : String} : c.markRejected reason r now = .ok c' ↔
    isBlank reason = false ∧ r ≠ "" ∧ (c.state = .rejected ∧ c' = c ∨
    c.state = .inCall ∧ c' = c.rejectedAs reason r now) := by
  unfold markRejected
  by_cases hreason : isBlank reason = true
  · simp [hreason]
  by_cases hby : r = ""
  · simp [hreason, hby]
  rw [if_neg hreason, if_neg hby]
  cases hstate : c.state <;> simp [hreason, hby, eq_comm]

/-! ## Whole runs -/

inductive Step (c c' : UnverifiedContact) : Prop
  | startCall now (h : c.startCall now = .ok c')
  | markVerified p v now (h : c.markVerified p v now = .ok c')
  | markRejected reason r now (h : c.markRejected reason r now = .ok c')
  | markBusy a e now (h : c.markBusy a e now = .ok c')

/-- Where the log leads; `none` once an event does not fit. -/
def Event.follow : Option State → Event → Option State
  | none, created .. => some .new
  | some .new, callStarted .. | some .busy, callStarted .. => some .inCall
  | some .inCall, verified .. => some .verified
  | some .inCall, rejected .. => some .rejected
  | some .inCall, markedBusy .. => some .busy
  | _, _ => none

structure Lawful (c : UnverifiedContact) : Prop where
  path : c.events.foldlM (some <$> Event.follow · ·) none = some (some c.state)
  window : c.busyCallbackAt ≠ 0 ↔ c.state = .busy
  windowEnd : c.state = .busy → c.busyCallbackAt < c.busyCallbackEndAt
  lead : c.platformLeadID ≠ "" ↔ c.state = .verified
  reason : c.rejectionReason ≠ "" ↔ c.state = .rejected

theorem step_cases (hs : Step c c') : c' = c ∨
    (c.state ≠ .verified ∧ c.state ≠ .rejected) ∧ (c.Lawful → c'.Lawful) := by
  cases hs with
  | startCall now hs =>
    unfold startCall at hs
    split at hs <;> cases hs
    · exact .inl rfl
    all_goals refine .inr ⟨by simp [*], fun ⟨hp, _, _, hl, hr⟩ => ?_⟩
    all_goals constructor <;> simp_all [recordEvent, Event.follow]
  | markVerified p v now hs =>
    obtain ⟨hb, -, ⟨-, rfl⟩ | ⟨hst, rfl⟩⟩ := markVerified_eq_ok.mp hs
    · exact .inl rfl
    have hne : p ≠ "" := by
      rintro rfl
      cases hb
    refine .inr ⟨by simp [hst], fun ⟨hp, hw, _, _, hr⟩ => ?_⟩
    constructor <;> simp_all [verifiedAs, recordEvent, Event.follow]
  | markRejected reason r now hs =>
    obtain ⟨hb, -, ⟨-, rfl⟩ | ⟨hst, rfl⟩⟩ := markRejected_eq_ok.mp hs
    · exact .inl rfl
    refine .inr ⟨by simp [hst], fun ⟨hp, hw, _, hl, _⟩ => ?_⟩
    constructor <;> simp_all [rejectedAs, recordEvent, Event.follow, isBlank]
  | markBusy a e now hs =>
    simp only [markBusy, Effect.ite_error_eq_ok, not_not] at hs
    obtain ⟨hz, -, ha, hst, hs⟩ := hs
    cases hs
    refine .inr ⟨by simp [hst], fun ⟨hp, _, _, hl, hr⟩ => ?_⟩
    constructor <;> simp_all [recordEvent, Event.follow, Time.isZero, Time.after]

end UnverifiedContact

end Leadkart
