import Leadkart.Logic.Rmw
import Leadkart.Platform.PlatformLead

/-!
# Verifying and rejecting a contact
-/

namespace Leadkart.UnverifiedContact

open List Effect Machine

structure Row where
  id : UUID
  state : State
  rejectionReason : String := ""
  (busyCallbackAt busyCallbackEndAt : Option Time := none)
  platformLeadID : Option UUID := none
  form : LeadForm
  createdAt : Time
  createdByMembershipID : UUID
  verifiedAt : Option Time := none
  verifiedByMembershipID : Option UUID := none
  rejectedAt : Option Time := none
  rejectedByMembershipID : Option UUID := none
  deriving DecidableEq

structure Store where
  contacts : Table Row fun a b => a.id = b.id
  leads : Table PlatformLead.Row fun a b => a.id = b.id

def hasID (id : UUID) (r : Row) : Bool := r.id = id

def contactOf (id : UUID) (s : Store) : Option Row := s.contacts.find? (hasID id)

def leadsOf (id : UUID) (s : Store) : List PlatformLead.Row :=
  s.leads.rows.filter fun l => l.sourceContactID = id

def rowToUnverifiedContact (codec : UuidCodec) (row : Row) : UnverifiedContact where
  id := codec.string row.id
  form := row.form
  state := row.state
  rejectionReason := row.rejectionReason
  busyCallbackAt := timeFromPg row.busyCallbackAt
  busyCallbackEndAt := timeFromPg row.busyCallbackEndAt
  platformLeadID := codec.uuidStringIfValid row.platformLeadID
  createdAt := row.createdAt
  createdByMembershipID := codec.string row.createdByMembershipID
  verifiedAt := timeFromPg row.verifiedAt
  verifiedByMembershipID := codec.uuidStringIfValid row.verifiedByMembershipID
  rejectedAt := timeFromPg row.rejectedAt
  rejectedByMembershipID := codec.uuidStringIfValid row.rejectedByMembershipID

def updateParams (codec : UuidCodec) (c : UnverifiedContact) (row : Row) : Row :=
  { row with
    state := c.state
    rejectionReason := c.rejectionReason
    busyCallbackAt := pgTimestamp c.busyCallbackAt
    busyCallbackEndAt := pgTimestamp c.busyCallbackEndAt
    platformLeadID := codec.pgUUIDOptStr c.platformLeadID
    verifiedAt := pgTimestamp c.verifiedAt
    verifiedByMembershipID := codec.pgUUIDOptStr c.verifiedByMembershipID
    rejectedAt := pgTimestamp c.rejectedAt
    rejectedByMembershipID := codec.pgUUIDOptStr c.rejectedByMembershipID }

section

variable (codec : UuidCodec)

def loadUnverifiedContact (id : String) (s : Store) : Except Err UnverifiedContact := do
  let uid ← codec.parseOr "unverified contact repo: parse id " id
  match contactOf uid s with
  | none => .error ⟨errNotFound, ""⟩
  | some row => .ok (rowToUnverifiedContact codec row)

def updateUnverifiedContactRow (c : UnverifiedContact) (s : Store) : Except Err Store := do
  let uid ← codec.parseOr "unverified contact repo: parse id: " c.id
  match s.contacts.update (hasID uid) (updateParams codec c) with
  | none => .error (.foreign "unverified contact repo: update: ")
  | some contacts => .ok { s with contacts }

def insertPlatformLeadRow (l : PlatformLead) (s : Store) : Except Err Store := do
  let row ← PlatformLead.rowOf codec l
  if (contactOf row.sourceContactID s).isNone then
    .error (.foreign "platform lead repo: insert: ")
  else
    match s.leads.insert row with
    | none => .error (.foreign "platform lead repo: insert: ")
    | some leads => .ok { s with leads }

end

def errContactNotFound : Sentinel := ⟨.unknown, "", "log verification call: contact not found"⟩
def errContactAlreadyTerminal : Sentinel :=
  ⟨.unknown, "", "verify: contact already in terminal state"⟩

def contactError (text : String) (e : Err) : Err :=
  if e.is errNotFound then ⟨errContactNotFound, ""⟩ else ⟨e.sentinel, text ++ e.detail⟩

def wrapError (text : String) (e : Err) : Err := ⟨e.sentinel, text ++ e.detail⟩

structure VerifyCommand where
  (contactID verifiedBy : String)

structure RejectCommand where
  (contactID reason rejectedBy : String)

structure VerifyDraws where
  leadID : String
  now : Time

def promote (c : UnverifiedContact) (now : Time) : Except Err UnverifiedContact :=
  if c.state = .new then c.startCall now else .ok c

section

variable (codec : UuidCodec)

def guardVerify (cmd : VerifyCommand) (s : Store) : Except Err Unit := do
  let existing ←
    (loadUnverifiedContact codec cmd.contactID s).mapError (contactError "load contact: ")
  match existing.state with
  | .verified | .rejected => .error ⟨errContactAlreadyTerminal, ""⟩
  | .new | .inCall | .busy => .ok ()

def transitionVerified (d : VerifyDraws) (cmd : VerifyCommand) (s : Store) :
    Except Err UnverifiedContact :=
  (do
    let c ← loadUnverifiedContact codec cmd.contactID s
    let c ← promote c d.now
    c.markVerified d.leadID cmd.verifiedBy d.now).mapError (contactError "transition contact: ")

def recordVerified (d : VerifyDraws) (cmd : VerifyCommand) (c : UnverifiedContact) (s : Store) :
    Except Err Store := do
  let s ← (updateUnverifiedContactRow codec c s).mapError (contactError "transition contact: ")
  let c ← (loadUnverifiedContact codec cmd.contactID s).mapError (wrapError "reload contact: ")
  let lead ← (PlatformLead.newFromUnverifiedContact codec d.leadID cmd.contactID c.form
    cmd.verifiedBy d.now).mapError (wrapError "construct lead: ")
  (insertPlatformLeadRow codec lead s).mapError (wrapError "persist lead: ")

def transitionRejected (now : Time) (cmd : RejectCommand) (s : Store) :
    Except Err UnverifiedContact :=
  (do
    let c ← loadUnverifiedContact codec cmd.contactID s
    let c ← promote c now
    c.markRejected cmd.reason cmd.rejectedBy now).mapError
      (contactError "reject unverified contact: ")

inductive Execution where
  | verify (d : VerifyDraws) (cmd : VerifyCommand)
  | reject (now : Time) (cmd : RejectCommand)

def Execution.contactID : Execution → String
  | verify _ cmd => cmd.contactID
  | reject _ cmd => cmd.contactID

def Execution.txn : Execution → Rmw.Txn Store UnverifiedContact
  | verify d cmd =>
    { reads := 2
      attempt := fun seen =>
        match seen with
        | [s₁, s₂] =>
          if cmd.verifiedBy = "" then none
          else (do
            guardVerify codec cmd s₁
            transitionVerified codec d cmd s₂).toOption
        | _ => none
      write := fun c s => (recordVerified codec d cmd c s).toOption }
  | reject now cmd =>
    { reads := 1
      attempt := fun seen =>
        match seen with
        | [s] => (transitionRejected codec now cmd s).toOption
        | _ => none
      write := fun c s => (updateUnverifiedContactRow codec c s).toOption }

end

section

variable {codec : UuidCodec} {s s' s₁ : Store} {c c' : UnverifiedContact} {now : Time} {cid : UUID}
  {id : String}

theorem loadUnverifiedContact_eq_ok (hid : codec.parse id = some cid) :
    loadUnverifiedContact codec id s = .ok c ↔
    ∃ row, contactOf cid s = some row ∧ c = rowToUnverifiedContact codec row := by
  unfold loadUnverifiedContact
  rw [UuidCodec.parseOr_ok hid]
  show (match contactOf cid s with | none => _ | some row => _) = _ ↔ _
  rcases contactOf cid s with _ | row
  · simp
  · simp [eq_comm]

theorem contactOf_id {row : Row} (h : contactOf cid s = some row) : row.id = cid :=
  of_decide_eq_true (Table.mem_of_find? h).2

theorem promote_eq_ok (h : promote c now = .ok c') :
    c'.id = c.id ∧ (c.state = .new ∧ c'.state = .inCall ∨ c.state ≠ .new ∧ c' = c) := by
  unfold promote at h
  by_cases hn : c.state = .new
  · rw [if_pos hn] at h
    unfold startCall at h
    rw [hn] at h
    cases h
    exact ⟨rfl, .inl ⟨hn, rfl⟩⟩
  · rw [if_neg hn] at h
    cases h
    exact ⟨rfl, .inr ⟨hn, rfl⟩⟩

variable {d : VerifyDraws} {cmd : VerifyCommand}

theorem transitionVerified_eq_ok (hid : codec.parse cmd.contactID = some cid)
    (h : transitionVerified codec d cmd s = .ok c) :
    ∃ row, contactOf cid s = some row ∧ c.id = codec.string cid ∧ c.state = .verified ∧
    (row.state = .verified ∨ c.platformLeadID = d.leadID) := by
  obtain ⟨c₀, hl, h⟩ := except_bind_ok (except_mapError_ok h)
  obtain ⟨c₁, hp, hma⟩ := except_bind_ok h
  obtain ⟨row, hrow, rfl⟩ := (loadUnverifiedContact_eq_ok hid).mp hl
  obtain ⟨hid₁, hstate⟩ := promote_eq_ok hp
  obtain ⟨-, -, hm⟩ := markVerified_eq_ok.mp hma
  have hs : (rowToUnverifiedContact codec row).id = codec.string cid :=
    congrArg codec.string (contactOf_id hrow)
  refine ⟨row, hrow, ?_⟩
  rcases hm with ⟨hv, rfl⟩ | ⟨-, rfl⟩
  · refine ⟨hid₁.trans hs, hv, .inl ?_⟩
    rcases hstate with ⟨-, hc⟩ | ⟨-, rfl⟩
    · exact absurd (hc.symm.trans hv) (by decide)
    · exact hv
  · exact ⟨hid₁.trans hs, rfl, .inr rfl⟩

theorem transitionRejected_eq_ok {cmd : RejectCommand} (hid : codec.parse cmd.contactID = some cid)
    (h : transitionRejected codec now cmd s = .ok c) :
    ∃ row, contactOf cid s = some row ∧ c.id = codec.string cid ∧ c.state = .rejected ∧
    row.state ≠ .verified := by
  obtain ⟨c₀, hl, h⟩ := except_bind_ok (except_mapError_ok h)
  obtain ⟨c₁, hp, hma⟩ := except_bind_ok h
  obtain ⟨row, hrow, rfl⟩ := (loadUnverifiedContact_eq_ok hid).mp hl
  obtain ⟨hid₁, hstate⟩ := promote_eq_ok hp
  obtain ⟨-, -, hm⟩ := markRejected_eq_ok.mp hma
  have hs : (rowToUnverifiedContact codec row).id = codec.string cid :=
    congrArg codec.string (contactOf_id hrow)
  have hst : (rowToUnverifiedContact codec row).state = row.state := rfl
  refine ⟨row, hrow, ?_⟩
  have ho : row.state ≠ .verified := by
    intro hv
    rcases hstate with ⟨hn, -⟩ | ⟨-, rfl⟩
    · exact absurd (hn.symm.trans hv) (by decide)
    · rcases hm with ⟨h, -⟩ | ⟨h, -⟩
      · exact absurd (h.symm.trans hv) (by decide)
      · exact absurd (h.symm.trans hv) (by decide)
  rcases hm with ⟨hr, rfl⟩ | ⟨-, rfl⟩
  · exact ⟨hid₁.trans hs, hr, ho⟩
  · exact ⟨hid₁.trans hs, rfl, ho⟩

theorem guardVerify_eq_ok (hid : codec.parse cmd.contactID = some cid)
    (h : guardVerify codec cmd s = .ok ()) :
    ∃ row, contactOf cid s = some row ∧ row.state ≠ .verified := by
  obtain ⟨c, hl, h⟩ := except_bind_ok h
  obtain ⟨row, hrow, rfl⟩ := (loadUnverifiedContact_eq_ok hid).mp (except_mapError_ok hl)
  refine ⟨row, hrow, fun hv => ?_⟩
  have hstate : (rowToUnverifiedContact codec row).state = .verified := hv
  rw [hstate] at h
  cases h

theorem updateUnverifiedContactRow_eq_ok (hc : codec.Lawful) (hid : c.id = codec.string cid)
    (h : updateUnverifiedContactRow codec c s = .ok s') :
    contactOf cid s' = (contactOf cid s).map (updateParams codec c) ∧ s'.leads = s.leads := by
  obtain ⟨uid, hp, h⟩ := except_bind_ok h
  obtain rfl : uid = cid := by
    rw [hid, UuidCodec.parseOr_ok (hc.parse_string cid)] at hp
    exact (Except.ok.inj hp).symm
  split at h
  · cases h
  · rename_i contacts hu
    cases h
    exact ⟨Table.find?_update hu fun _ hr => hr, rfl⟩

theorem recordVerified_eq_ok (hcc : codec.Lawful) (hid : codec.parse cmd.contactID = some cid)
    (hc : c.id = codec.string cid) (h : recordVerified codec d cmd c s = .ok s') :
    ∃ lead, codec.parse d.leadID = some lead.id ∧ lead.sourceContactID = cid ∧
    contactOf cid s' = (contactOf cid s).map (updateParams codec c) ∧
    s'.leads.rows = s.leads.rows ++ [lead] := by
  simp only [recordVerified, except_bind_eq_ok] at h
  obtain ⟨s₁, hu, c₁, -, lead, hn, h⟩ := h
  obtain ⟨row, hrow, h⟩ := except_bind_ok (except_mapError_ok h)
  obtain ⟨hco, hle⟩ := updateUnverifiedContactRow_eq_ok hcc hc (except_mapError_ok hu)
  obtain ⟨hl, hs⟩ := PlatformLead.newFromUnverifiedContact_ids (except_mapError_ok hn)
  obtain ⟨hro, hr⟩ := PlatformLead.rowOf_ids hrow
  rw [hs, hid] at hr
  rw [hl] at hro
  split at h
  · cases h
  split at h
  · cases h
  rename_i leads hi
  cases h
  refine ⟨row, hro, (Option.some.inj hr).symm, hco, ?_⟩
  rw [← hle]
  exact (Table.insert_eq_some hi).1

end

structure Agrees (cid : UUID) (s : Store) : Prop where
  one : (leadsOf cid s).length ≤ 1
  verified : (∃ l, l ∈ leadsOf cid s) ↔ ∃ row, contactOf cid s = some row ∧ row.state = .verified
  link : ∀ l ∈ leadsOf cid s, ∃ row, contactOf cid s = some row ∧ row.platformLeadID = some l.id

section

variable {codec : UuidCodec} {cid : UUID} {s s' : Store} {row : Row}

theorem Agrees.leadsOf_eq_nil (h : Agrees cid s) (hrow : contactOf cid s = some row)
    (ho : row.state ≠ .verified) : leadsOf cid s = [] := by
  refine eq_nil_iff_forall_not_mem.mpr fun l hl => ?_
  obtain ⟨row', hrow', hv⟩ := h.verified.mp ⟨l, hl⟩
  cases hrow.symm.trans hrow'
  exact ho hv

theorem agrees_of_unverified (hrow : contactOf cid s = some row) (ho : row.state ≠ .verified)
    (hnone : leadsOf cid s = []) : Agrees cid s where
  one := by simp [hnone]
  verified := by
    simp only [hnone, not_mem_nil, exists_false, false_iff, not_exists, not_and]
    intro row' hrow'
    cases hrow.symm.trans hrow'
    exact ho
  link := by simp [hnone]

theorem Agrees.commit (hco : codec.Lawful) {e : Execution}
    (hid : codec.parse e.contactID = some cid) {seen : List Store} {c : UnverifiedContact}
    (h : Agrees cid s) (hs : ∀ x ∈ seen, contactOf cid x = contactOf cid s)
    (ha : (e.txn codec).attempt seen = some c) (hw : (e.txn codec).write c s = some s') :
    Agrees cid s' := by
  cases e with
  | verify d cmd =>
    simp only [Execution.txn] at ha hw
    split at ha
    swap
    · cases ha
    rename_i s₁ s₂
    split at ha
    · cases ha
    obtain ⟨_, hg, hre⟩ := except_bind_ok (except_toOption.mp ha)
    obtain ⟨row, hrow, ho⟩ := guardVerify_eq_ok hid hg
    obtain ⟨row₂, hrow₂, hci, hv, hld⟩ := transitionVerified_eq_ok hid hre
    -- Both reads saw the row that the store still holds.
    rw [hs s₁ (mem_cons_self ..)] at hrow
    rw [hs s₂ (mem_cons_of_mem s₁ (mem_cons_self ..)), hrow] at hrow₂
    cases hrow₂
    obtain ⟨lead, hle, hso, hc, hls⟩ := recordVerified_eq_ok hco hid hci (except_toOption.mp hw)
    rw [hrow, Option.map_some] at hc
    have hon : leadsOf cid s' = [lead] := by
      have hn := h.leadsOf_eq_nil hrow ho
      unfold leadsOf at hn ⊢
      rw [hls, List.filter_append, hn]
      simp [hso]
    have hname : (updateParams codec c row).platformLeadID = some lead.id := by
      have hne : d.leadID ≠ "" := by
        rintro he
        rw [he, hco.parse_empty] at hle
        cases hle
      show codec.pgUUIDOptStr c.platformLeadID = _
      rw [hld.resolve_left ho, UuidCodec.pgUUIDOptStr, if_neg hne, hle]
    refine ⟨by simp [hon], ?_, ?_⟩
    · refine iff_of_true ⟨lead, ?_⟩ ⟨_, hc, hv⟩
      simp [hon]
    · intro l hl
      rw [hon, mem_singleton] at hl
      exact ⟨_, hc, hl ▸ hname⟩
  | reject now cmd =>
    simp only [Execution.txn] at ha hw
    split at ha
    swap
    · cases ha
    rename_i s₁
    obtain ⟨row, hrow, hci, hr, ho⟩ := transitionRejected_eq_ok hid (except_toOption.mp ha)
    rw [hs s₁ (mem_cons_self ..)] at hrow
    obtain ⟨hc, hls⟩ := updateUnverifiedContactRow_eq_ok hco hci (except_toOption.mp hw)
    rw [hrow, Option.map_some] at hc
    have hstate : (updateParams codec c row).state = .rejected := hr
    have hn : leadsOf cid s' = [] := by
      have hn := h.leadsOf_eq_nil hrow ho
      unfold leadsOf at hn ⊢
      rw [hls, hn]
    exact agrees_of_unverified hc (by simp [hstate]) hn

theorem one_lead_of_current {ι : Type} [DecidableEq ι] (hcodec : codec.Lawful)
    (exec : ι → Execution) (hid : ∀ i, codec.parse (exec i).contactID = some cid)
    (hrow : contactOf cid s = some row) (hopen : row.state ≠ .verified)
    (hnone : leadsOf cid s = []) {ls : List (Rmw.Label ι)}
    {st : Rmw.State ι Store UnverifiedContact}
    (hC : Along (Rmw.step fun i => (exec i).txn codec) (Rmw.Current (contactOf cid))
    (Rmw.init ι UnverifiedContact s) ls)
    (hr : run (Rmw.step fun i => (exec i).txn codec) (Rmw.init ι UnverifiedContact s) ls = some st) :
    Agrees cid st.store := by
  refine Rmw.run_store_rule (P := fun s _ => Agrees cid s) (Rmw.guarded_init _ _ s)
    (agrees_of_unverified hrow hopen hnone) ?_ hC hr
  intro s log i seen c s' ha _ _ hs hat hw
  exact ha.commit hcodec (hid i) hs hat hw

end

def sampleRow : Row where
  id := 3
  state := .new
  form := sampleForm
  createdAt := 10
  createdByMembershipID := 5

def sampleStore : Store where
  contacts := ⟨[sampleRow], List.pairwise_singleton ..⟩
  leads := .empty

def verifications : Bool → Execution
  | false => .verify ⟨unaryCodec.string 7, 20⟩ ⟨unaryCodec.string 3, unaryCodec.string 5⟩
  | true => .verify ⟨unaryCodec.string 8, 21⟩ ⟨unaryCodec.string 3, unaryCodec.string 6⟩

def oneAfterTheOther : List (Rmw.Label Bool) :=
  [.read false, .read false, .write false, .commit false, .read true, .read true, .abort true]

def bothAtOnce : List (Rmw.Label Bool) :=
  [.read false, .read false, .read true, .read true, .write false, .commit false, .write true,
    .commit true]

theorem one_lead_one_after_the_other :
    ∃ st, run (Rmw.step fun i => (verifications i).txn unaryCodec)
    (Rmw.init Bool UnverifiedContact sampleStore) oneAfterTheOther = some st ∧
    Agrees 3 st.store ∧ (leadsOf 3 st.store).map PlatformLead.Row.id = [7] := by
  have hid : ∀ i, unaryCodec.parse (verifications i).contactID = some 3 := by
    intro i
    cases i <;> exact unaryCodec_lawful.parse_string 3
  have hrow : contactOf 3 sampleStore = some sampleRow := rfl
  exact exists_some (P := fun st => (leadsOf 3 st.store).map PlatformLead.Row.id = [7])
    (by decide +kernel) fun st hr hl => ⟨one_lead_of_current unaryCodec_lawful verifications
      hid hrow (by decide) rfl (by decide +kernel) hr, hl⟩

theorem contact_verified_twice : ∃ st, run (Rmw.step fun i => (verifications i).txn unaryCodec)
    (Rmw.init Bool UnverifiedContact sampleStore) bothAtOnce = some st ∧
    st.log.length = 2 ∧ (leadsOf 3 st.store).map PlatformLead.Row.id = [7, 8] ∧
    (contactOf 3 st.store).bind Row.platformLeadID = some 8 :=
  exists_some (by decide +kernel) fun _ _ h => h

end Leadkart.UnverifiedContact
