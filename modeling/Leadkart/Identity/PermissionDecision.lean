import Leadkart.Identity.PermissionApproval

/-!
# Deciding a permission request
-/

namespace Leadkart.PermissionRequest

open List MembershipRepository Effect Machine

structure DenyPermissionRequestCommand where
  (tenantID requestID approverMembershipID : String)
  isPlatformOperator : Bool
  decisionReason : String

structure CancelPermissionRequestCommand where
  (tenantID requestID requesterMembershipID : String)

structure DecisionDraws where
  (readConn txConn : Conn)
  now : Time

def canApproveSimilar (isPlatform : Bool) (approver : String) (requester : Membership) : Bool :=
  if isPlatform then true
  else if requester.reportsTo = "" then false
  else requester.reportsTo = approver

def readError (text : String) (notFound : Sentinel) (e : Err) : Err :=
  if e.is notFound then ⟨errPermissionRequestNotFound, ""⟩ else ⟨e.sentinel, text ++ e.detail⟩

def requireIDs (handler role tenantID requestID membershipID : String) : Except Err Unit :=
  if tenantID = "" then .error (.foreign (handler ++ ": tenant id required"))
  else if requestID = "" then .error (.foreign (handler ++ ": request id required"))
  else if membershipID = "" then
    .error (.foreign (handler ++ ": " ++ role ++ " membership id required"))
  else .ok ()

def guardDecision (approver : String) (req : PermissionRequest) : Except Err Unit :=
  if req.state ≠ .pending then .error ⟨errPermissionRequestNotPending, ""⟩
  else if approver = req.requesterMembershipID then .error ⟨errPermissionRequestSelfApproval, ""⟩
  else .ok ()

def guardCancel (requester : String) (req : PermissionRequest) : Except Err Unit :=
  if req.requesterMembershipID ≠ requester then .error ⟨errPermissionRequestNotFound, ""⟩
  else if req.state ≠ .pending then .error ⟨errPermissionRequestNotPending, ""⟩
  else .ok ()

section

variable {codec : UuidCodec}

def readRequest (conn : Conn) (tenantID requestID : String) (onError : Err → Err)
    (guard : PermissionRequest → Except Err Unit) : Repo codec PermissionRequest := do
  let req ← mapError (getByID conn tenantID requestID) onError
  ofExcept (guard req)
  return req

def readRequester (req : PermissionRequest) (onError : Err → Err) (mayDecide : Membership → Bool) :
    Repo codec Unit := do
  let requester ← mapError
    (onIdentity (MembershipRepository.getByID req.tenantID req.requesterMembershipID)) onError
  if mayDecide requester then pure () else fail ⟨errPermissionRequestForbidden, ""⟩

def checkDeny (d : DecisionDraws) (cmd : DenyPermissionRequestCommand) :
    Repo codec PermissionRequest := do
  ofExcept (requireIDs "deny_permission_request" "approver" cmd.tenantID cmd.requestID
    cmd.approverMembershipID)
  readRequest d.readConn cmd.tenantID cmd.requestID
    (readError "deny_permission_request: load: " errNotFound)
    (guardDecision cmd.approverMembershipID)

def authorizeDeny (cmd : DenyPermissionRequestCommand) (req : PermissionRequest) :
    Repo codec Unit :=
  readRequester req (readError "deny_permission_request: load requester: " Membership.errNotFound)
    (canApproveSimilar cmd.isPlatformOperator cmd.approverMembershipID)

def checkCancel (d : DecisionDraws) (cmd : CancelPermissionRequestCommand) :
    Repo codec PermissionRequest := do
  ofExcept (requireIDs "cancel_permission_request" "requester" cmd.tenantID cmd.requestID
    cmd.requesterMembershipID)
  readRequest d.readConn cmd.tenantID cmd.requestID
    (readError "cancel_permission_request: load: " errNotFound)
    (guardCancel cmd.requesterMembershipID)

/-! ## The same, statement by statement -/

def checkApprove (d : ApproveDraws) (cmd : ApprovePermissionRequestCommand) :
    Repo codec PermissionRequest := do
  ofExcept (requireIDs "approve_permission_request" "approver" cmd.tenantID cmd.requestID
    cmd.approverMembershipID)
  readRequest d.readConn cmd.tenantID cmd.requestID loadError
    (guardDecision cmd.approverMembershipID)

def authorizeApprove (cmd : ApprovePermissionRequestCommand) (req : PermissionRequest) :
    Repo codec Unit := readRequester req requesterError (callerCanApprove cmd)

def decideOnTx (tx : Tx) (id : String) (op : PermissionRequest → Except Err PermissionRequest) :
    Repo codec PermissionRequest := do
  let r ← loadPermissionRequest tx id
  ofExcept (op r)

def recordOnTx (tx : Tx) (r : PermissionRequest) : Repo codec Unit := do
  persistPermissionRequestDecision tx r
  drainPermissionRequestEvents r

inductive Decision where
  | approve (d : ApproveDraws) (cmd : ApprovePermissionRequestCommand)
  | deny (d : DecisionDraws) (cmd : DenyPermissionRequestCommand)
  | cancel (d : DecisionDraws) (cmd : CancelPermissionRequestCommand)

namespace Decision

def tenantID : Decision → String
  | approve _ cmd => cmd.tenantID
  | deny _ cmd => cmd.tenantID
  | cancel _ cmd => cmd.tenantID

def requestID : Decision → String
  | approve _ cmd => cmd.requestID
  | deny _ cmd => cmd.requestID
  | cancel _ cmd => cmd.requestID

def outcome : Decision → State
  | approve .. => .approved
  | deny .. => .denied
  | cancel .. => .cancelled

def check : Decision → Repo codec PermissionRequest
  | approve d cmd => checkApprove d cmd
  | deny d cmd => checkDeny d cmd
  | cancel d cmd => checkCancel d cmd

def authorize : Decision → PermissionRequest → Repo codec Unit
  | approve _ cmd, req => authorizeApprove cmd req
  | deny _ cmd, req => authorizeDeny cmd req
  | cancel _ _, _ => pure ()

def tx : Decision → Tx
  | approve d cmd => d.txConn.tx cmd.tenantID
  | deny d cmd => d.txConn.tx cmd.tenantID
  | cancel d cmd => d.txConn.tx cmd.tenantID

def op : Decision → PermissionRequest → PermissionRequest → Except Err PermissionRequest
  | approve d cmd, req, loaded =>
    loaded.approve cmd.approverMembershipID cmd.decisionReason d.overrideID
      (d.now + req.durationDays * day) d.now
  | deny d cmd, _, loaded => loaded.deny cmd.approverMembershipID cmd.decisionReason d.now
  | cancel d _, _, loaded => loaded.cancel d.now

def decided (e : Decision) (req : PermissionRequest) : Repo codec PermissionRequest :=
  decideOnTx e.tx e.requestID (e.op req)

def record : Decision → PermissionRequest → PermissionRequest → Repo codec Unit
  | approve d cmd, req, r => do
    recordOnTx (d.txConn.tx cmd.tenantID) r
    onIdentity (MembershipRepository.updateByID (txTenant codec (d.txConn.tx cmd.tenantID))
      req.requesterMembershipID (grantFn req.permission (d.now + req.durationDays * day) d.now))
  | deny d cmd, _, r => recordOnTx (d.txConn.tx cmd.tenantID) r
  | cancel d cmd, _, r => recordOnTx (d.txConn.tx cmd.tenantID) r

def attempt (e : Decision) (s₁ s₂ s₃ : Store codec) :
    Option (PermissionRequest × PermissionRequest) :=
  (do
    let req ← look e.check s₁
    look (e.authorize req) s₂
    let r ← look (e.decided req) s₃
    return (req, r)).toOption

def txn (codec : UuidCodec) (e : Decision) :
    Rmw.Txn (Store codec) (PermissionRequest × PermissionRequest) where
  reads :=
    match e with
    | approve .. | deny .. => 3
    | cancel .. => 2
  attempt seen :=
    match seen with
    | [s₁, s₂, s₃] => e.attempt s₁ s₂ s₃
    | [s₁, s₃] => e.attempt s₁ s₁ s₃
    | _ => none
  write w s :=
    match (e.record w.1 w.2).run s with
    | (.ok _, s') => some s'
    | (.error _, _) => none

end Decision

end

section Alone

variable {codec : UuidCodec} {s s' : Store codec}

theorem readOnly_load (tx : Tx) (id : String) :
    ReadOnly (loadPermissionRequest tx id : Repo codec PermissionRequest) := by
  intro s
  refine Keeps.bind (keeps_ofExcept _) fun rid => Keeps.bind (keeps_query _) fun rows => ?_
  cases rows with
  | nil => exact keeps_fail _
  | cons row rest => exact keeps_ofExcept _

theorem readOnly_getByID (conn : Conn) (tenantID id : String) :
    ReadOnly (getByID conn tenantID id : Repo codec PermissionRequest) :=
  fun s => Pg.keeps_withinTxPgxTenant (readOnly_load _ id s)

theorem readOnly_readRequest (conn : Conn) (tenantID requestID : String) (o : Err → Err)
    (guard : PermissionRequest → Except Err Unit) :
    ReadOnly (readRequest conn tenantID requestID o guard : Repo codec _) := by
  intro s
  refine Keeps.bind ((readOnly_getByID conn tenantID requestID s).mapError o) fun req => ?_
  exact Keeps.bind (keeps_ofExcept _) fun _ => keeps_pure req

variable {tenantID requestID : String}

theorem readRequest_eq_ok {conn : Conn} {o : Err → Err}
    {guard : PermissionRequest → Except Err Unit} {req : PermissionRequest}
    (h : look (readRequest conn tenantID requestID o guard) s = .ok req) :
    look (getByID conn tenantID requestID) s = .ok req ∧ guard req = .ok () := by
  have hru : (readRequest conn tenantID requestID o guard).run s = (.ok req, s) :=
    (readOnly_readRequest conn tenantID requestID o guard).eq_ok.mpr ⟨h, rfl⟩
  obtain ⟨r, s₁, hr, hru⟩ := bind_eq_ok.mp hru
  obtain ⟨_, s₂, hg, hru⟩ := bind_eq_ok.mp hru
  obtain ⟨rfl, -⟩ := pure_eq_ok.mp hru
  exact ⟨((readOnly_getByID conn tenantID requestID).eq_ok.mp (mapError_eq_ok.mp hr)).1,
    (ofExcept_eq_ok.mp hg).1⟩

theorem requireIDs_eq_ok {handler role m : String}
    (h : requireIDs handler role tenantID requestID m = .ok ()) : tenantID ≠ "" := by
  rintro rfl
  cases h

theorem guardDecision_eq_ok {a : String} {req : PermissionRequest}
    (h : guardDecision a req = .ok ()) : req.state = .pending := by
  unfold guardDecision at h
  split at h
  · cases h
  · rename_i hstate
    exact not_not.mp hstate

theorem guardCancel_eq_ok {rr : String} {req : PermissionRequest}
    (h : guardCancel rr req = .ok ()) : req.state = .pending := by
  unfold guardCancel at h
  split at h
  · cases h
  split at h
  · cases h
  · rename_i hstate
    exact not_not.mp hstate

theorem required_eq_ok {x : Except Err Unit} {y : Repo codec PermissionRequest}
    {req : PermissionRequest} (h : look (ofExcept x >>= fun _ => y) s = .ok req) :
    x = .ok () ∧ look y s = .ok req := by
  cases x with
  | error e => cases h
  | ok _ => exact ⟨rfl, h⟩

namespace Decision

theorem readOnly_decided (e : Decision) (req : PermissionRequest) :
    ReadOnly (e.decided req : Repo codec PermissionRequest) := by
  intro s
  exact Keeps.bind (readOnly_load _ _ s) fun r => keeps_ofExcept _

theorem check_eq_ok {e : Decision} {req : PermissionRequest} (h : look e.check s = .ok req) :
    e.tenantID ≠ "" ∧ req.state = .pending ∧
    ∃ conn, look (getByID conn e.tenantID e.requestID) s = .ok req := by
  cases e with
  | approve d cmd | deny d cmd =>
    obtain ⟨hi, hr⟩ := required_eq_ok h
    obtain ⟨hge, hg⟩ := readRequest_eq_ok hr
    exact ⟨requireIDs_eq_ok hi, guardDecision_eq_ok hg, _, hge⟩
  | cancel d cmd =>
    obtain ⟨hi, hr⟩ := required_eq_ok h
    obtain ⟨hge, hg⟩ := readRequest_eq_ok hr
    exact ⟨requireIDs_eq_ok hi, guardCancel_eq_ok hg, _, hge⟩

theorem attempt_eq_some {e : Decision} {s₁ s₂ s₃ : Store codec} {req r : PermissionRequest} :
    e.attempt s₁ s₂ s₃ = some (req, r) ↔
    look e.check s₁ = .ok req ∧ look (e.authorize req) s₂ = .ok () ∧
    look (e.decided req) s₃ = .ok r := by
  unfold attempt
  rw [except_toOption]
  constructor
  · intro h
    simp only [except_bind_eq_ok] at h
    obtain ⟨req', hc, _, ha, r', hd, h⟩ := h
    cases h
    exact ⟨hc, ha, hd⟩
  · rintro ⟨hc, ha, hd⟩
    rw [hc]
    show (look (e.authorize req) s₂ >>= _) = _
    rw [ha]
    rw [hd]
    rfl

theorem write_eq_some {e : Decision} {w : PermissionRequest × PermissionRequest} :
    (e.txn codec).write w s = some s' ↔ (e.record w.1 w.2).run s = (.ok (), s') := by
  show (match (e.record w.1 w.2).run s with
    | (.ok _, s') => some s'
    | (.error _, _) => none) = _ ↔ _
  rcases (e.record w.1 w.2).run s with ⟨err | _, s₁⟩
  · simp
  · simp

end Decision

end Alone

/-! ## What one decision leaves -/

def requestOf {codec : UuidCodec} (rid : UUID) (s : Store codec) : Option Row :=
  s.requests.find? (hasID rid)

def HasOverride (s : Leadkart.Store) (membershipID : String) (o : Membership.OverrideRow) : Prop :=
  ∃ st ∈ s.memberships, st.row.id = membershipID ∧ o ∈ st.overrides

instance (s : Leadkart.Store) (membershipID : String) (o : Membership.OverrideRow) :
    Decidable (HasOverride s membershipID o) :=
  inferInstanceAs (Decidable (∃ st ∈ s.memberships.rows, _))

section

variable {codec : UuidCodec} {s s' : Store codec} {rid : UUID} {id : String} {tx : Tx}
  {r r' req : PermissionRequest} {row : Row}

theorem requestOf_eq_some : requestOf rid s = some row ↔ row ∈ s.requests ∧ row.id = rid := by
  constructor
  · intro h
    obtain ⟨hrow, hid⟩ := Table.mem_of_find? h
    exact ⟨hrow, of_decide_eq_true hid⟩
  · rintro ⟨hrow, rfl⟩
    refine Table.find?_eq_of_mem (fun a b ha hb => clash_of_id ?_) hrow (by simp [hasID])
    exact (of_decide_eq_true ha).trans (of_decide_eq_true hb).symm

theorem load_eq_ok (hid : codec.parse id = some rid)
    (h : look (loadPermissionRequest tx id) s = .ok r) :
    ∃ row, requestOf rid s = some row ∧ rowToPermissionRequest codec row = .ok r ∧
    rawOwnOrPlatform codec row.tenantID tx.settings = .ok (some true) := by
  have hru : (loadPermissionRequest tx id).run s = (.ok r, s) :=
    (readOnly_load tx id).eq_ok.mpr ⟨h, rfl⟩
  obtain ⟨rid', s₁, hr, hru⟩ := bind_eq_ok.mp hru
  obtain ⟨hp, rfl⟩ := ofExcept_eq_ok.mp hr
  obtain rfl : rid' = rid := by
    unfold parseID at hp
    rw [UuidCodec.parseOr_ok hid] at hp
    exact (Except.ok.inj hp).symm
  obtain ⟨rows, s₂, hf, hru⟩ := bind_eq_ok.mp hru
  obtain ⟨hs, rfl⟩ := query_eq_ok.mp hf
  cases rows with
  | nil => exact absurd hru fail_ne_ok
  | cons row rest =>
    obtain ⟨hrow, hc, hpo⟩ := (SqlRelation.mem_scan (except_mapError_ok hs)).mp (mem_cons_self ..)
    exact ⟨row, requestOf_eq_some.mpr ⟨hrow, of_decide_eq_true hc⟩, (ofExcept_eq_ok.mp hru).1, hpo⟩

variable {tenantID : String}

theorem getByID_look {conn : Conn} (hne : tenantID ≠ "")
    (h : look (getByID conn tenantID id) s = .ok r) :
    look (loadPermissionRequest (conn.tx tenantID) id) s = .ok r := by
  have hr : (getByID conn tenantID id).run s = (.ok r, s) :=
    (readOnly_getByID conn tenantID id).eq_ok.mpr ⟨h, rfl⟩
  unfold getByID at hr
  rw [Pg.withinTx_eq hne, atomic_eq_ok] at hr
  exact ((readOnly_load _ id).eq_ok.mp hr).1

theorem persist_eq_ok (hc : codec.Lawful) (hrow : requestOf rid s = some row)
    (hid : r.id = codec.string rid)
    (hpo : rawOwnOrPlatform codec row.tenantID tx.settings = .ok (some true))
    (h : (persistPermissionRequestDecision tx r).run s = (.ok (), s')) :
    s'.identity = s.identity ∧ ∃ approver, requestOf rid s' = some (decisionParams r approver row) := by
  obtain ⟨hm, hr⟩ := requestOf_eq_some.mp hrow
  obtain ⟨rid', hp, h⟩ := except_bind_ok (write_eq_ok.mp h)
  obtain ⟨approver, -, h⟩ := except_bind_ok h
  obtain ⟨t, hu, h⟩ := except_bind_ok (except_mapError_ok h)
  obtain ⟨_, -, h⟩ := except_bind_ok h
  cases h
  obtain rfl : rid' = rid := by
    unfold parseID at hp
    rw [hid, UuidCodec.parseOr_ok (hc.parse_string rid)] at hp
    exact (Except.ok.inj hp).symm
  obtain ⟨hit, ht, hh⟩ := SqlRelation.update_hit hu
  have hpa : row ∈ hit := by
    refine (hh row).mpr ⟨hm, by simp [hasID, hr], ?_⟩
    show Sql.also (rawOwnOrPlatform codec row.tenantID tx.settings)
      (rawOwnOrPlatform codec row.tenantID tx.settings) = _
    rw [hpo]
    rfl
  refine ⟨rfl, approver, requestOf_eq_some.mpr ⟨?_, hr⟩⟩
  refine (Table.mem_update ht).mpr ⟨row, hm, ?_⟩
  rw [if_pos (by simp [hpa])]

theorem recordOnTx_eq_ok (hc : codec.Lawful) (hrow : requestOf rid s = some row)
    (hid : r.id = codec.string rid)
    (hpo : rawOwnOrPlatform codec row.tenantID tx.settings = .ok (some true))
    (h : (recordOnTx tx r).run s = (.ok (), s')) :
    s'.identity = s.identity ∧ ∃ approver, requestOf rid s' = some (decisionParams r approver row) := by
  obtain ⟨_, s₁, hp, hd⟩ := bind_eq_ok.mp h
  have hs : s' = s₁ := by
    have hk := keeps_drain (I := (· = s₁)) r s₁ rfl
    rwa [hd] at hk
  rw [hs]
  exact persist_eq_ok hc hrow hid hpo hp

variable {p : Permission}

theorem setExpiry_mem {e : Time} {gs : List Membership.GrantedOverride}
    (h : ∃ g ∈ gs, g.permission.equal p = true) :
    ∃ g ∈ Membership.setExpiry p e gs, g.permission.name = p.name ∧ g.expiresAt = e := by
  induction gs with
  | nil =>
    obtain ⟨g, hg, -⟩ := h
    cases hg
  | cons g' gs ih =>
    unfold Membership.setExpiry
    by_cases hp : g'.permission.equal p = true
    · rw [if_pos hp]
      exact ⟨_, mem_cons_self .., Permission.equal_iff.mp hp, rfl⟩
    · rw [if_neg hp]
      have hr : ∃ g ∈ gs, g.permission.equal p = true := by
        obtain ⟨g, hg, hgp⟩ := h
        rcases mem_cons.mp hg with rfl | hg
        · exact absurd hgp hp
        · exact ⟨g, hg, hgp⟩
      obtain ⟨g, hg, hs⟩ := ih hr
      exact ⟨g, mem_cons_of_mem g' hg, hs⟩

theorem granted_after (m : Membership) (p : Permission) (e now : Time) :
    ∃ g ∈ (m.grantPermission p e now).1.grantedPermissions,
    g.permission.name = p.name ∧ g.expiresAt = e := by
  rw [Membership.grantPermission_granted]
  split
  · rename_i hs
    obtain ⟨g, hg, hp⟩ := List.find?_isSome.mp hs
    exact setExpiry_mem ⟨g, hg, hp⟩
  · exact ⟨⟨p, e⟩, mem_append_right _ (mem_singleton_self _), rfl, rfl⟩

variable {now : Time}

theorem grant_eq_ok {s s' : Leadkart.Store} {e : Time}
    (h : (MembershipRepository.updateByID tenantID id (grantFn p e now)).run s = (.ok (), s')) :
    HasOverride s' id ⟨p.name, .granted, pgTimestamp e⟩ := by
  rcases MembershipRepository.updateByID_ok h with ⟨-, m, hfn⟩ | ⟨st, st', t, hf, ha, ht, rfl⟩
  · unfold grantFn Membership.opFn at hfn
    obtain ⟨m', hgrant, -⟩ := grantPermission_frame m p e now
    dsimp only at hfn
    rw [hgrant] at hfn
    cases hfn
  obtain ⟨hst, hk⟩ := Table.mem_of_find? hf
  rw [Bool.and_eq_true, beq_iff_eq] at hk
  obtain ⟨m, -, -, hp⟩ := Membership.alone_opFn ha
  obtain ⟨hrow, -, ho⟩ := Membership.persist_eq hp
  refine ⟨st', (Table.mem_update ht).mpr ⟨st, hst, by simp [hk.1]⟩, ?_, ?_⟩
  · rw [hrow]
    exact hk.1
  · rw [ho]
    obtain ⟨g, hg, hname, he⟩ := granted_after m p e now
    refine (perm_insertionSort _ _).mem_iff.mpr (mem_append_left _ ?_)
    refine mem_map.mpr ⟨g, hg, ?_⟩
    rw [hname, he]

theorem rowToPermissionRequest_grant (h : rowToPermissionRequest codec row = .ok req) :
    Permission.tryFromConstant row.permissionConstant = .ok req.permission ∧
    req.durationDays = row.durationDays := by
  obtain ⟨p, hp, h⟩ := except_bind_ok h
  cases h
  exact ⟨except_mapError_ok hp, rfl⟩

theorem deny_eq_ok {a d : String}
    (h : r.deny a d now = .ok req) : req.id = r.id ∧ req.state = .denied := by
  obtain ⟨_, -, h⟩ := except_bind_ok h
  cases h
  exact ⟨rfl, rfl⟩

theorem cancel_eq_ok (h : r.cancel now = .ok req) : req.id = r.id ∧ req.state = .cancelled := by
  unfold cancel at h
  split at h
  · cases h
  · cases h
    exact ⟨rfl, rfl⟩

def grantOf (d : ApproveDraws) (row : Row) (p : Permission) : Membership.OverrideRow :=
  ⟨p.name, .granted, pgTimestamp (d.now + row.durationDays * day)⟩

def HasGrant (s : Store codec) (row : Row) (d : ApproveDraws) : Prop :=
  ∃ p, Permission.tryFromConstant row.permissionConstant = .ok p ∧
    HasOverride s.identity (codec.string row.requesterMembershipID) (grantOf d row p)

namespace Decision

variable {e : Decision}

theorem op_eq_ok (h : e.op req r = .ok r') : r'.id = r.id ∧ r'.state = e.outcome := by
  cases e with
  | approve d cmd =>
    obtain ⟨-, rfl⟩ := approve_eq_ok.mp h
    exact ⟨rfl, rfl⟩
  | deny d cmd => exact deny_eq_ok h
  | cancel d cmd => exact cancel_eq_ok h

variable {seen : List (Store codec)} {w : PermissionRequest × PermissionRequest}

theorem attempt_seen (h : (e.txn codec).attempt seen = some w) :
    ∃ s₁ ∈ seen, ∃ s₂, ∃ s₃ ∈ seen, e.attempt s₁ s₂ s₃ = some w := by
  simp only [txn] at h
  split at h
  · exact ⟨_, by simp, _, _, by simp, h⟩
  · exact ⟨_, by simp, _, _, by simp, h⟩
  · cases h

theorem check_row (hid : codec.parse e.requestID = some rid) (h : look e.check s = .ok req) :
    ∃ row, requestOf rid s = some row ∧ rowToPermissionRequest codec row = .ok req ∧
    row.state = .pending := by
  obtain ⟨ht, hp, conn, hg⟩ := check_eq_ok h
  obtain ⟨row, hrow, hr, -⟩ := load_eq_ok hid (getByID_look ht hg)
  obtain ⟨-, -, -, hstate, -⟩ := rowToPermissionRequest_fields hr
  exact ⟨row, hrow, hr, hstate.symm.trans hp⟩

theorem decided_eq_ok (h : look (e.decided req) s = .ok r) :
    ∃ loaded, look (loadPermissionRequest e.tx e.requestID) s = .ok loaded ∧
    e.op req loaded = .ok r := by
  have hr : (e.decided req).run s = (.ok r, s) := (readOnly_decided e req).eq_ok.mpr ⟨h, rfl⟩
  obtain ⟨loaded, s₁, hl, hr⟩ := bind_eq_ok.mp hr
  obtain ⟨hl, rfl⟩ := (readOnly_load e.tx e.requestID).eq_ok.mp hl
  exact ⟨loaded, hl, (ofExcept_eq_ok.mp hr).1⟩

theorem decided_row (hid : codec.parse e.requestID = some rid)
    (h : look (e.decided req) s = .ok r) :
    ∃ row, requestOf rid s = some row ∧ r.id = codec.string rid ∧ r.state = e.outcome ∧
    rawOwnOrPlatform codec row.tenantID e.tx.settings = .ok (some true) := by
  obtain ⟨loaded, hlo, hop⟩ := decided_eq_ok h
  obtain ⟨row, hrow, hl, hp⟩ := load_eq_ok hid hlo
  obtain ⟨hr, -⟩ := rowToPermissionRequest_fields hl
  obtain ⟨hs, hstate⟩ := op_eq_ok hop
  refine ⟨row, hrow, ?_, hstate, hp⟩
  rw [hs, hr, (requestOf_eq_some.mp hrow).2]

theorem record_eq_ok (hc : codec.Lawful) (hrow : requestOf rid s = some row)
    (hrq : rowToPermissionRequest codec row = .ok req) (hid : r.id = codec.string rid)
    (hp : rawOwnOrPlatform codec row.tenantID e.tx.settings = .ok (some true))
    (h : (e.record req r).run s = (.ok (), s')) :
    (e.outcome ≠ .approved → s'.identity = s.identity) ∧
    ∃ approver, requestOf rid s' = some (decisionParams r approver row) ∧
    ∀ d cmd, e = .approve d cmd → HasGrant s' (decisionParams r approver row) d := by
  cases e with
  | approve d cmd =>
    obtain ⟨_, s₁, hre, hru⟩ := bind_eq_ok.mp h
    obtain ⟨-, approver, hd⟩ := recordOnTx_eq_ok hc hrow hid hp hre
    obtain ⟨i, hgrant, rfl⟩ := zoom_eq_ok.mp hru
    obtain ⟨-, -, hr, -, -⟩ := rowToPermissionRequest_fields hrq
    obtain ⟨hpe, hda⟩ := rowToPermissionRequest_grant hrq
    refine ⟨fun h => absurd rfl h, approver, hd, ?_⟩
    intro d' cmd' heq
    obtain ⟨rfl, rfl⟩ := Decision.approve.inj heq
    rw [hr, hda] at hgrant
    exact ⟨req.permission, hpe, grant_eq_ok hgrant⟩
  | deny d cmd | cancel d cmd =>
    obtain ⟨hk, approver, hd⟩ := recordOnTx_eq_ok hc hrow hid hp h
    exact ⟨fun _ => hk, approver, hd, fun _ _ heq => nomatch heq⟩

theorem commit_eq_some (hc : codec.Lawful) (hid : codec.parse e.requestID = some rid)
    (hse : ∀ x ∈ seen, requestOf rid x = requestOf rid s)
    (ha : (e.txn codec).attempt seen = some w) (hw : (e.txn codec).write w s = some s') :
    (∃ row, requestOf rid s = some row ∧ row.state = .pending) ∧
    (e.outcome ≠ .approved → s'.identity = s.identity) ∧
    ∃ row, requestOf rid s' = some row ∧ row.state = e.outcome ∧
    ∀ d cmd, e = .approve d cmd → HasGrant s' row d := by
  obtain ⟨req, r⟩ := w
  obtain ⟨s₁, hs₁, s₂, s₃, hs₃, ha⟩ := attempt_seen ha
  obtain ⟨hch, -, hd⟩ := attempt_eq_some.mp ha
  obtain ⟨row, hrow, hr, hp⟩ := check_row hid hch
  obtain ⟨row₃, hrow₃, hri, hstate, hpo⟩ := decided_row hid hd
  -- Both reads saw the row that the store still holds.
  rw [hse s₁ hs₁] at hrow
  rw [hse s₃ hs₃, hrow] at hrow₃
  cases hrow₃
  obtain ⟨hk, approver, hrow', hgrant⟩ := record_eq_ok hc hrow hr hri hpo (write_eq_some.mp hw)
  exact ⟨⟨row, hrow, hp⟩, hk, _, hrow', hstate, hgrant⟩

end Decision

end

section

variable {codec : UuidCodec} {ι : Type} {exec : ι → Decision} {rid : UUID} {s₀ s : Store codec}
  {log : List (Rmw.Commit ι (Store codec))}

/-- The stored request agrees with the memberships: once it is approved, the overlay of an approval
that committed is on the requester's membership; until then every membership, with all its
overrides, is as it was before the run. -/
def Agrees (exec : ι → Decision) (rid : UUID) (s₀ s : Store codec)
    (log : List (Rmw.Commit ι (Store codec))) : Prop :=
  ∃ row, requestOf rid s = some row ∧
    (row.state = .approved → ∃ c ∈ log, ∃ d cmd, exec c.who = .approve d cmd ∧ HasGrant s row d) ∧
    (row.state ≠ .approved → s.identity = s₀.identity)

inductive Settled (exec : ι → Decision) (rid : UUID) (s₀ s : Store codec) :
    List (Rmw.Commit ι (Store codec)) → Prop where
  | pending (row : Row) (hrow : requestOf rid s = some row) (hstate : row.state = .pending)
      (hkept : s.identity = s₀.identity) : Settled exec rid s₀ s []
  | decided (c : Rmw.Commit ι (Store codec)) (row : Row) (hrow : requestOf rid s = some row)
      (hstate : row.state = (exec c.who).outcome)
      (hgrant : ∀ d cmd, exec c.who = .approve d cmd → HasGrant s row d)
      (hkept : (exec c.who).outcome ≠ .approved → s.identity = s₀.identity) :
      Settled exec rid s₀ s [c]

theorem outcome_ne_pending (e : Decision) : e.outcome ≠ .pending := by
  intro h
  cases e with
  | approve => cases h
  | deny => cases h
  | cancel => cases h

theorem Settled.of_pending (h : Settled exec rid s₀ s log) {row : Row}
    (hrow : requestOf rid s = some row) (hp : row.state = .pending) :
    log = [] ∧ s.identity = s₀.identity := by
  cases h with
  | pending _ _ _ hkept => exact ⟨rfl, hkept⟩
  | decided c row' hrow' hstate =>
    cases hrow.symm.trans hrow'
    exact absurd (hstate.symm.trans hp) (outcome_ne_pending _)

theorem Settled.length_le (h : Settled exec rid s₀ s log) : log.length ≤ 1 := by
  cases h with
  | pending => exact Nat.zero_le 1
  | decided => exact Nat.le_refl 1

theorem Settled.agrees (h : Settled exec rid s₀ s log) : Agrees exec rid s₀ s log := by
  cases h with
  | pending row hrow hstate hkept =>
    refine ⟨row, hrow, fun ha => ?_, fun _ => hkept⟩
    cases hstate.symm.trans ha
  | decided c row hrow hstate hgrant hkept =>
    refine ⟨row, hrow, fun ha => ?_, fun hn => hkept (hstate ▸ hn)⟩
    rcases he : exec c.who with ⟨d, cmd⟩ | ⟨d, cmd⟩ | ⟨d, cmd⟩
    · exact ⟨c, mem_singleton_self c, d, cmd, he, hgrant d cmd he⟩
    all_goals
      rw [he] at hstate
      cases hstate.symm.trans ha

variable [DecidableEq ι]

/-- Decisions that write the row they read exclude one another and agree with the grant. -/
theorem decisions_exclusive_of_current (hcodec : codec.Lawful) (exec : ι → Decision)
    (hid : ∀ i, codec.parse (exec i).requestID = some rid) {row : Row}
    (hrow : requestOf rid s = some row) (hpending : row.state = .pending)
    {ls : List (Rmw.Label ι)} {st : Rmw.State ι (Store codec) (PermissionRequest × PermissionRequest)}
    (hC : Along (Rmw.step fun i => (exec i).txn codec) (Rmw.Current (requestOf rid))
    (Rmw.init ι _ s) ls)
    (hr : run (Rmw.step fun i => (exec i).txn codec) (Rmw.init ι _ s) ls = some st) :
    st.log.length ≤ 1 ∧ Agrees exec rid s st.store st.log := by
  have hs : Settled exec rid s st.store st.log := by
    refine Rmw.run_store_rule (P := fun t log => Settled exec rid s t log) (Rmw.guarded_init _ _ s)
      (.pending row hrow hpending rfl) ?_ hC hr
    intro t log i seen w t' ht _ _ hse ha hw
    obtain ⟨⟨row, hrow, hpending⟩, hk, row', hrow', hstate, hgrant⟩ :=
      Decision.commit_eq_some hcodec (hid i) hse ha hw
    -- The request was pending, so nothing had been committed and no membership changed.
    obtain ⟨rfl, hkept⟩ := ht.of_pending hrow hpending
    exact .decided _ row' hrow' hstate hgrant fun hn => (hk hn).trans hkept
  exact ⟨hs.length_le, hs.agrees⟩

end

def approvalAndCancellation : Bool → Decision
  | false => .approve newConnections
      { tenantID := unaryCodec.string 2, requestID := unaryCodec.string 3
        approverMembershipID := unaryCodec.string 6, isPlatformOperator := false
        decisionReason := "" }
  | true => .cancel ⟨newConnections.readConn, newConnections.txConn, 101⟩
      ⟨unaryCodec.string 2, unaryCodec.string 3, unaryCodec.string 5⟩

def requestedStore : Store unaryCodec := approvalStore (some (unaryCodec.string 6)) 2

def approvalFirst : List (Rmw.Label Bool) :=
  [.read false, .read false, .read false, .write false, .commit false, .read true, .abort true]

def cancellationOvertaken : List (Rmw.Label Bool) :=
  [.read true, .read true, .read false, .read false, .read false, .write false, .commit false,
    .write true, .commit true]

theorem approvalAndCancellation_requestID (i : Bool) :
    unaryCodec.parse (approvalAndCancellation i).requestID = some 3 := by
  cases i with
  | false | true => exact unaryCodec_lawful.parse_string 3

theorem approval_alone_is_granted :
    ∃ st, run (Rmw.step fun i => (approvalAndCancellation i).txn unaryCodec)
    (Rmw.init Bool _ requestedStore) approvalFirst = some st ∧
    st.log.length = 1 ∧ Agrees approvalAndCancellation 3 requestedStore st.store st.log := by
  have hs : requestOf 3 requestedStore = some (sampleRow 3 2) := rfl
  refine exists_some (P := fun st => st.log.length = 1) (by decide +kernel) fun st hr ho => ⟨ho, ?_⟩
  exact (decisions_exclusive_of_current unaryCodec_lawful approvalAndCancellation
    approvalAndCancellation_requestID hs rfl (by decide +kernel) hr).2

theorem cancelled_after_approval :
    ∃ st, run (Rmw.step fun i => (approvalAndCancellation i).txn unaryCodec)
    (Rmw.init Bool _ requestedStore) cancellationOvertaken = some st ∧ st.log.length = 2 ∧
    ¬ Agrees approvalAndCancellation 3 requestedStore st.store st.log := by
  refine exists_some (P := fun st => st.log.length = 2 ∧
    (∃ row ∈ requestOf 3 st.store, row.state = .cancelled) ∧
    HasOverride st.store.identity (unaryCodec.string 5)
      ⟨"crm.leads.read", .granted, pgTimestamp (newConnections.now + 7 * day)⟩)
    (by decide +kernel) fun st _ ⟨hl, ⟨row, hrow, hstate⟩, ho⟩ => ⟨hl, ?_⟩
  rintro ⟨row', hrow', -, hkept⟩
  obtain rfl := Option.some.inj (hrow.symm.trans hrow')
  rw [hkept (by rw [hstate]; decide)] at ho
  exact absurd ho (by decide +kernel)

end Leadkart.PermissionRequest
