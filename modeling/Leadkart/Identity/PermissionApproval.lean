import Leadkart.Identity.PermissionRequestRepository
import Leadkart.Identity.Routes
import Leadkart.Identity.TemporaryGrant

/-!
# Approving a permission request
-/

namespace Leadkart.PermissionRequest

open List Permission MembershipRepository UuidCodec Effect

/-! ## The command handler -/

def errPermissionRequestNotFound : Sentinel := ⟨.unknown, "", "permission_request: not found"⟩
def errPermissionRequestNotPending : Sentinel :=
  ⟨.unknown, "", "permission_request: request is not pending"⟩
def errPermissionRequestSelfApproval : Sentinel :=
  ⟨.unknown, "", "permission_request: cannot self-approve"⟩
def errPermissionRequestForbidden : Sentinel :=
  ⟨.unknown, "", "permission_request: caller cannot act on this request"⟩

structure ApprovePermissionRequestCommand where
  (tenantID requestID approverMembershipID : String)
  isPlatformOperator : Bool
  decisionReason : String

structure ApproveDraws where
  (readConn txConn : Conn)
  now : Time
  overrideID : UUID

def callerCanApprove (cmd : ApprovePermissionRequestCommand) (requester : Membership) : Bool :=
  if cmd.isPlatformOperator then true
  else if requester.reportsTo = "" then false
  else requester.reportsTo = cmd.approverMembershipID

def loadError (e : Err) : Err :=
  if e.is errNotFound then ⟨errPermissionRequestNotFound, ""⟩
  else ⟨e.sentinel, "approve_permission_request: load: " ++ e.detail⟩

def requesterError (e : Err) : Err :=
  if e.is Membership.errNotFound then ⟨errPermissionRequestNotFound, ""⟩
  else ⟨e.sentinel, "approve_permission_request: load requester: " ++ e.detail⟩

def decisionError (e : Err) : Err :=
  if e.is errNotPending then ⟨errPermissionRequestNotPending, ""⟩
  else if e.is errSelfApproval then ⟨errPermissionRequestSelfApproval, ""⟩
  else if e.is errNotFound then ⟨errPermissionRequestNotFound, ""⟩
  else ⟨e.sentinel, "approve_permission_request: " ++ e.detail⟩

section

variable {codec : UuidCodec}

variable (d : ApproveDraws)

def onIdentity {α : Type} (x : Leadkart.Repo α) : Repo codec α :=
  zoom Store.identity (fun i s => { s with identity := i }) x

def txTenant (codec : UuidCodec) (tx : Tx) : String :=
  match App.currentTenant codec tx.settings with
  | .ok (some T) => codec.string T
  | _ => ""

def approveFn (cmd : ApprovePermissionRequestCommand) (overrideID : UUID) (expiresAt now : Time) :
    UpdateFn := fun loaded =>
  match loaded.approve cmd.approverMembershipID cmd.decisionReason overrideID expiresAt now with
  | .ok r => (r, .ok true)
  | .error e => (loaded, .error e)

def grantFn (permission : Permission) (expiresAt now : Time) : Membership.UpdateFn :=
  Membership.opFn fun m => m.grantPermission permission expiresAt now

def approveOnTx (cmd : ApprovePermissionRequestCommand) (req : PermissionRequest)
    (tx : Tx) : Repo codec Unit := do
  let expiresAt := d.now + req.durationDays * day
  updateOnTx tx cmd.requestID (approveFn cmd d.overrideID expiresAt d.now)
  onIdentity (MembershipRepository.updateByID (txTenant codec tx) req.requesterMembershipID
    (grantFn req.permission expiresAt d.now))

def approveLoaded (ctxTenant : Option String)
    (cmd : ApprovePermissionRequestCommand) (req : PermissionRequest) : Repo codec Unit :=
  if req.state ≠ .pending then fail ⟨errPermissionRequestNotPending, ""⟩
  else if cmd.approverMembershipID = req.requesterMembershipID then
    fail ⟨errPermissionRequestSelfApproval, ""⟩
  else do
    let requester ← mapError
      (onIdentity (MembershipRepository.getByID req.tenantID req.requesterMembershipID))
      requesterError
    if callerCanApprove cmd requester then
      mapError (Pg.withinUnitOfWork d.txConn ctxTenant (approveOnTx d cmd req)) decisionError
    else fail ⟨errPermissionRequestForbidden, ""⟩

def handleApprove (ctxTenant : Option String)
    (cmd : ApprovePermissionRequestCommand) : Repo codec Unit :=
  if cmd.tenantID = "" then fail (.foreign "approve_permission_request: tenant id required")
  else if cmd.requestID = "" then
    fail (.foreign "approve_permission_request: request id required")
  else if cmd.approverMembershipID = "" then
    fail (.foreign "approve_permission_request: approver membership id required")
  else do
    let req ← mapError (getByID d.readConn cmd.tenantID cmd.requestID) loadError
    approveLoaded d ctxTenant cmd req

def writeApproveError (e : Err) : Failure :=
  if e.is errPermissionRequestNotFound then ⟨404, "permission_request_not_found", ""⟩
  else if e.is errPermissionRequestNotPending then ⟨409, "permission_request_not_pending", ""⟩
  else if e.is errPermissionRequestSelfApproval then ⟨422, "permission_request_self_approval", ""⟩
  else if e.is errPermissionRequestForbidden then ⟨403, "permission_request_forbidden", ""⟩
  else if e.is errInvalidRequest then ⟨422, "permission_request_invalid", e.detail⟩
  else internalError

def handleApprovePermissionRequest (c : Claims)
    (requestId decisionReason : String) : Effect (Store codec) Failure Unit :=
  if c.membershipID = "" then fail invalidCredentials
  else if c.tenantID = "" then fail invalidCredentials
  else
    match codec.parse requestId with
    | none => fail ⟨400, "invalid_permission_request_id", "requestId path parameter must be a UUID"⟩
    | some _ =>
      mapError (handleApprove d (some c.tenantID)
        { tenantID := c.tenantID, requestID := requestId, approverMembershipID := c.membershipID
          isPlatformOperator := c.isPlatform, decisionReason }) writeApproveError

end

section Grant

variable {st : Membership.StoredMembership} {m : Membership} {p : Permission}

theorem hydrate_fields (h : hydrate st = .ok m) :
    m.roleAssignments = st.roleIDs ∧ m.status = st.row.status ∧
    m.reportsTo = stringFromPg st.row.reportsTo := by
  obtain ⟨granted, revoked, hrow⟩ := hydrate_row h
  unfold Membership.rowToMembership at hrow
  split at hrow
  · cases hrow
  · cases hrow
    exact ⟨rfl, rfl, rfl⟩

theorem hydrate_loaded (hk : st.Known) (h : hydrate st = .ok m) : m.Loaded := by
  unfold hydrate at h
  split at h
  · rename_i m' hl
    cases h
    exact Membership.loadMembership_loaded hk hl
  · cases h

theorem overrideRows_nodup (hm : m.Loaded) :
    (m.overrideRows.map Membership.OverrideRow.permissionName).Nodup := by
  have hn : (m.overrideRows.map Membership.OverrideRow.permissionName).Perm
      ((m.grantedPermissions.map Membership.GrantedOverride.permission ++
        m.revokedPermissions).map name) := by
    refine ((perm_insertionSort _ _).map _).trans (.of_eq ?_)
    simp [Function.comp_def]
  exact hn.nodup_iff.mpr hm.one

theorem grantPermission_frame (m : Membership) (p : Permission) (e now : Time) :
    ∃ m', m.grantPermission p e now = (m', none) ∧ m'.roleAssignments = m.roleAssignments ∧
    m'.status = m.status := by
  unfold Membership.grantPermission
  dsimp only
  split
  · split <;> exact ⟨_, rfl, rfl, rfl⟩
  · exact ⟨_, rfl, rfl, rfl⟩

theorem grant_persist (hl : hydrate st = .ok m) (hk : st.Known) (hp : p.Interned) (e now : Time) :
    ∃ m' st', m.grantPermission p e now = (m', none) ∧ m'.persist st = some st' ∧
    st'.roleIDs.Perm st.roleIDs ∧ st'.row.status = st.row.status := by
  obtain ⟨ha, hs, -⟩ := hydrate_fields hl
  obtain ⟨m', hgrant, ha', hs'⟩ := grantPermission_frame m p e now
  have hlo : m'.Loaded := by
    have h := (hydrate_loaded hk hl).grantPermission (e := e) (t := now) hp
    rwa [hgrant] at h
  have hpm : m'.roleRows.Perm st.roleIDs := by
    unfold Membership.roleRows
    rw [ha', ha]
    exact perm_insertionSort _ _
  have hr := hpm.nodup_iff.mpr st.roleIDs_pk
  have hn := overrideRows_nodup hlo
  have hpe : m'.persist st = some ⟨m'.persistRow st.row, m'.roleRows, m'.overrideRows, hr, hn⟩ := by
    unfold Membership.persist
    rw [dif_pos hr, dif_pos hn]
  exact ⟨m', _, hgrant, hpe, hpm, hs'.trans hs⟩

theorem grant_run {s : Leadkart.Store} (hst : st ∈ s.memberships)
    (hl : hydrate st = .ok m) (hk : st.Known)
    (hr : s.RolesKnown st.row.tenantID st.roleIDs) (hp : p.Interned) (e now : Time) :
    ∃ t, (MembershipRepository.updateByID st.row.tenantID st.row.id (grantFn p e now)).run s =
    (.ok (), { s with memberships := t }) := by
  obtain ⟨m', st', hgrant, hpe, hpm, hs⟩ := grant_persist hl hk hp e now
  obtain ⟨hpn, hte⟩ := Membership.persist_row hpe
  have hid : st'.row.id = st.row.id := by
    rw [(Membership.persist_eq hpe).1]
    rfl
  have hfn : grantFn p e now m = (m', .ok true) := by
    unfold grantFn Membership.opFn
    dsimp only
    rw [hgrant]
  obtain ⟨t, ht⟩ := update_of_same_keys hst hid hpn hte hs
  refine ⟨t, MembershipRepository.updateByID_of (find_membership hst) hl hfn hpe ?_ ht⟩
  rw [hte]
  exact fun id hid => hr id (hpm.mem_iff.mp hid)

end Grant

structure OnFile {codec : UuidCodec} (s : Store codec) (row : Row)
    (st : Membership.StoredMembership) : Prop where
  request : row ∈ s.requests
  pending : row.state = .pending
  constraints : (permissionRequests codec).meets row = .ok ()
  permission : ∃ p, Permission.tryFromConstant row.permissionConstant = .ok p
  requester : st ∈ s.identity.memberships
  requesterID : st.row.id = codec.string row.requesterMembershipID
  tenantID : st.row.tenantID = codec.string row.tenantID
  loads : st.Loads
  known : st.Known
  roles : s.identity.RolesKnown st.row.tenantID st.roleIDs

section

variable {codec : UuidCodec} {s : Store codec} {row : Row} {st : Membership.StoredMembership}
  {req : PermissionRequest} {tenantID : String} {A T : UUID} {conn : Conn}

theorem rowToPermissionRequest_fields (h : rowToPermissionRequest codec row = .ok req) :
    req.id = codec.string row.id ∧ req.tenantID = codec.string row.tenantID ∧
    req.requesterMembershipID = codec.string row.requesterMembershipID ∧
    req.state = row.state ∧ req.permission.Interned := by
  obtain ⟨p, hp, h⟩ := except_bind_ok h
  cases h
  exact ⟨rfl, rfl, rfl, rfl, interned_of_tryFromConstant (except_mapError_ok hp)⟩

theorem rowToPermissionRequest_ok (codec : UuidCodec) {p : Permission}
    (h : Permission.tryFromConstant row.permissionConstant = .ok p) :
    ∃ req, rowToPermissionRequest codec row = .ok req := by
  unfold rowToPermissionRequest
  rw [h]
  exact ⟨_, rfl⟩

theorem getByID_eq_ok (hT : codec.input tenantID = some T) {id : String}
    (hid : codec.parse id = some row.id) (hrow : row ∈ s.requests) {s' : Store codec} :
    (getByID conn tenantID id).run s = (.ok req, s') ↔
    Spares conn T (hasID row.id) s.requests ∧ row.tenantID = T ∧
    rowToPermissionRequest codec row = .ok req ∧ s' = s := by
  unfold getByID
  rw [Pg.withinTx_eq (ne_empty hT), atomic_eq_ok]
  by_cases hs : Spares conn T (hasID row.id) s.requests
  swap
  · rw [load_fed hT hid hs]
    simp [hs]
  by_cases ho : row.tenantID = T
  · rw [load_own hT hid hs hrow ho, Prod.mk.injEq, eq_comm (a := s)]
    simp [hs, ho]
  · have hf : ∀ r ∈ s.requests, r.id = row.id → r.tenantID ≠ T := fun r hr hri =>
      Table.eq_of_clash hr hrow (clash_of_id hri) ▸ ho
    rw [load_notFound hT hid hs hf]
    simp [ho]

theorem requester_run (hf : OnFile s row st) : ∃ m, hydrate st = .ok m ∧
    (onIdentity (MembershipRepository.getByID (codec.string row.tenantID)
    (codec.string row.requesterMembershipID))).run s = (.ok m, s) := by
  obtain ⟨m, hl⟩ := hydrate_ok_iff.mpr hf.loads
  refine ⟨m, hl, zoom_apply (query_eq_ok.mpr ⟨?_, rfl⟩)⟩
  rw [← hf.requesterID, ← hf.tenantID]
  simp only [find_membership hf.requester, hl]

variable {cmd : ApprovePermissionRequestCommand}

theorem callerCanApprove_iff {m : Membership} (hl : hydrate st = .ok m)
    (hne : cmd.approverMembershipID ≠ "") : callerCanApprove cmd m = true ↔
    st.row.reportsTo = some cmd.approverMembershipID ∨ cmd.isPlatformOperator = true := by
  obtain ⟨-, -, hm⟩ := hydrate_fields hl
  unfold callerCanApprove
  rw [hm]
  rcases cmd.isPlatformOperator with _ | _
  · rcases st.row.reportsTo with _ | manager
    · simp [stringFromPg]
    · by_cases he : manager = ""
      · simp [stringFromPg, he, hne.symm]
      · simp only [stringFromPg, he, Option.getD_some, Option.some.injEq, if_false,
          Bool.false_eq_true, or_false]
        exact decide_eq_true_iff
  · simp

theorem persist_run (hc : codec.Lawful) (hT : codec.input tenantID = some T)
    (h : Spares conn T (hasID row.id) s.requests) (hf : OnFile s row st)
    (ho : row.tenantID = T) (hA : hasMembership codec s.identity A = true)
    (r : PermissionRequest) (hid : r.id = codec.string row.id)
    (hap : r.approverMembershipID = codec.string A)
    (hs : A ≠ row.requesterMembershipID) (hstate : r.state ≠ .pending)
    (hreason : r.decisionReason.utf8ByteSize ≤ maxDecisionReasonLength) :
    ∃ t, (persistPermissionRequestDecision (conn.tx tenantID) r).run s =
    (.ok (), { s with requests := t }) := by
  have hm : (permissionRequests codec).meets (decisionParams r (some A) row) = .ok () := by
    obtain ⟨-, hda, -, hl⟩ := meets_iff.mp hf.constraints
    refine meets_iff.mpr ⟨?_, hda, by simp [decisionParams, hs], hl⟩
    have hch := length_le_utf8ByteSize r.decisionReason
    unfold maxDecisionReasonLength at hreason
    simp only [decisionParams, zeroToNil]
    split
    · rfl
    · rw [Option.all_some, decide_eq_true_iff]
      omega
  obtain ⟨t, hu, hd⟩ := update_spared hT h hf.request ho hstate hm
  have hfk : ((t.rows.filter (hasID row.id)).all fun q =>
      q.approverMembershipID.all (hasMembership codec s.identity)) = true := by
    refine all_eq_true.mpr fun q hq => ?_
    obtain ⟨hq, hqi⟩ := mem_filter.mp hq
    rw [hd q hq (of_decide_eq_true hqi)]
    exact hA
  have ha : approverParam codec r = .ok (some A) := by
    unfold approverParam parseID
    rw [if_neg (hap ▸ hc.string_ne_empty A), hap, parseOr_ok (hc.parse_string A)]
    rfl
  have hrow : updateRow (conn.tx tenantID) row.id r (some A) s = .ok { s with requests := t } := by
    unfold updateRow
    rw [hu]
    show (Sql.foreignKey _ _ >>= fun _ => _) = _
    rw [hfk]
    rfl
  refine ⟨t, write_eq_ok.mpr ?_⟩
  unfold parseID
  rw [hid, parseOr_ok (hc.parse_string row.id), ha]
  show (updateRow (conn.tx tenantID) row.id r (some A) s).mapError _ = _
  rw [hrow]
  rfl

theorem txTenant_tx (hT : codec.input tenantID = some T) (conn : Conn) :
    txTenant codec (conn.tx tenantID) = codec.string T := by
  unfold txTenant
  rw [show App.currentTenant codec (conn.tx tenantID).settings = .ok (some T) from
    App.currentTenant_bound hT]

theorem updateOnTx_approve (hc : codec.Lawful) (hT : codec.input tenantID = some T)
    (h : Spares conn T (hasID row.id) s.requests) (hf : OnFile s row st)
    (ho : row.tenantID = T) (hA : hasMembership codec s.identity A = true)
    (hs : A ≠ row.requesterMembershipID) (hid : codec.parse cmd.requestID = some row.id)
    (hcm : cmd.approverMembershipID = codec.string A)
    (hreason : (trimSpace cmd.decisionReason).utf8ByteSize ≤ maxDecisionReasonLength)
    (o : UUID) (e now : Time) : ∃ t, (updateOnTx (conn.tx tenantID) cmd.requestID
    (approveFn cmd o e now)).run s = (.ok (), { s with requests := t }) := by
  obtain ⟨p, hp⟩ := hf.permission
  obtain ⟨req, hrq⟩ := rowToPermissionRequest_ok codec hp
  obtain ⟨hrD, hr, hre, hstate, -⟩ := rowToPermissionRequest_fields hrq
  have hl := load_own hT hid h hf.request ho
  rw [hrq] at hl
  have ha : req.approve cmd.approverMembershipID cmd.decisionReason o e now =
      .ok (req.approvedBy cmd.approverMembershipID (trimSpace cmd.decisionReason) o e now) := by
    refine approve_eq_ok.mpr ⟨⟨hstate.trans hf.pending, ?_, ?_, hreason⟩, rfl⟩
    · rw [hcm]
      exact hc.string_ne_empty A
    · rw [hcm, hre]
      exact fun heq => hs (hc.string_inj.mp heq)
  have hfn : approveFn cmd o e now req =
      (req.approvedBy cmd.approverMembershipID (trimSpace cmd.decisionReason) o e
        now, .ok true) := by
    unfold approveFn
    rw [ha]
  obtain ⟨t, hpe⟩ := persist_run hc hT h hf ho hA
    (req.approvedBy cmd.approverMembershipID (trimSpace cmd.decisionReason) o e now)
    hrD hcm hs (by simp [approvedBy, recordEvent]) hreason
  refine ⟨t, (bind_ok hl).trans ?_⟩
  rw [hfn]
  refine (bind_ok hpe).trans ?_
  unfold drainPermissionRequestEvents
  rw [if_neg (by simp [approvedBy, recordEvent])]
  refine ofExcept_eq_ok.mpr ⟨?_, rfl⟩
  show (parseID codec "tenant id" req.tenantID).map _ = _
  unfold parseID
  rw [hr, parseOr_ok (hc.parse_string row.tenantID)]
  rfl

theorem approveOnTx_eq_ok (hc : codec.Lawful) (hT : codec.input tenantID = some T)
    (hf : OnFile s row st) (ho : row.tenantID = T)
    (hA : hasMembership codec s.identity A = true) (hse : A ≠ row.requesterMembershipID)
    (hid : codec.parse cmd.requestID = some row.id)
    (hcm : cmd.approverMembershipID = codec.string A)
    (hre : rowToPermissionRequest codec row = .ok req) (d : ApproveDraws) :
    (∃ s', (approveOnTx d cmd req (conn.tx tenantID)).run s = (.ok (), s')) ↔
    Spares conn T (hasID row.id) s.requests ∧
    (trimSpace cmd.decisionReason).utf8ByteSize ≤ maxDecisionReasonLength := by
  obtain ⟨-, -, hr, -, hp⟩ := rowToPermissionRequest_fields hre
  constructor
  · rintro ⟨s', h⟩
    obtain ⟨_, s₁, hu, -⟩ := bind_eq_ok.mp h
    obtain ⟨loaded, s₂, hl, hu⟩ := bind_eq_ok.mp hu
    have hs : Spares conn T (hasID row.id) s.requests := by
      by_contra hfed
      rw [load_fed hT hid hfed] at hl
      exact absurd (Prod.mk.inj hl).1 (by simp)
    refine ⟨hs, ?_⟩
    unfold approveFn at hu
    rcases ha : loaded.approve cmd.approverMembershipID cmd.decisionReason d.overrideID
      (d.now + req.durationDays * day) d.now with e | r'
    · rw [ha] at hu
      exact absurd hu fail_ne_ok
    · exact (approve_eq_ok.mp ha).1.2.2.2
  · rintro ⟨hs, hreason⟩
    obtain ⟨t, hu⟩ := updateOnTx_approve hc hT hs hf ho hA hse hid hcm hreason
      d.overrideID (d.now + req.durationDays * day) d.now
    obtain ⟨m, hl⟩ := hydrate_ok_iff.mpr hf.loads
    obtain ⟨ms, hgrant⟩ := grant_run hf.requester hl hf.known hf.roles hp
      (d.now + req.durationDays * day) d.now
    refine ⟨{ s with requests := t, identity := { s.identity with memberships := ms } },
      (bind_ok hu).trans ?_⟩
    rw [txTenant_tx hT, hr, ← hf.requesterID, ← ho, ← hf.tenantID]
    exact zoom_apply hgrant

def Authorized (c : Claims) (codec : UuidCodec) (row : Row) (st : Membership.StoredMembership) :
    Prop :=
  c.membershipID ≠ codec.string row.requesterMembershipID ∧
    (st.row.reportsTo = some c.membershipID ∨ c.isPlatform = true)

theorem approveLoaded_eq_ok (hc : codec.Lawful) (hT : codec.input tenantID = some T)
    (hf : OnFile s row st) (ho : row.tenantID = T)
    (hA : hasMembership codec s.identity A = true) (cmd : ApprovePermissionRequestCommand)
    (hid : codec.parse cmd.requestID = some row.id)
    (hcm : cmd.approverMembershipID = codec.string A)
    (hrq : rowToPermissionRequest codec row = .ok req) (d : ApproveDraws) :
    (∃ s', (approveLoaded d (some tenantID) cmd req).run s = (.ok (), s')) ↔
    (A ≠ row.requesterMembershipID ∧
    (st.row.reportsTo = some cmd.approverMembershipID ∨ cmd.isPlatformOperator = true)) ∧
    Spares d.txConn T (hasID row.id) s.requests ∧
    (trimSpace cmd.decisionReason).utf8ByteSize ≤ maxDecisionReasonLength := by
  obtain ⟨-, hr, hre, hstate, -⟩ := rowToPermissionRequest_fields hrq
  obtain ⟨m, hl, hru⟩ := requester_run hf
  unfold approveLoaded
  rw [← callerCanApprove_iff hl (hcm ▸ hc.string_ne_empty A),
    if_neg (not_not.mpr (hstate.trans hf.pending)), hcm, hre, hr]
  by_cases hs : A = row.requesterMembershipID
  · rw [if_pos (congrArg codec.string hs)]
    simp [hs]
  rw [if_neg fun heq => hs (hc.string_inj.mp heq), bind_ok (mapError_eq_ok.mpr hru)]
  by_cases hca : callerCanApprove cmd m = true
  · rw [if_pos hca]
    simp only [mapError_eq_ok, Pg.withinUnitOfWork_eq, atomic_eq_ok]
    rw [approveOnTx_eq_ok hc hT hf ho hA hs hid hcm hrq d]
    simp [hs, hca]
  · rw [if_neg hca]
    simp [hca]

variable {requestId : String} {c : Claims}

theorem approval_succeeds_iff (hc : codec.Lawful) (hf : OnFile s row st)
    (hid : codec.parse requestId = some row.id) (hA : c.membershipID = codec.string A)
    (hm : hasMembership codec s.identity A = true) (hT : c.tenantID = codec.string T)
    (reason : String) (d : ApproveDraws) :
    (∃ s', (handleApprovePermissionRequest d c requestId reason).run s = (.ok (), s')) ↔
    Authorized c codec row st ∧ row.tenantID = T ∧
    (trimSpace reason).utf8ByteSize ≤ maxDecisionReasonLength ∧
    Spares d.readConn T (hasID row.id) s.requests ∧
    Spares d.txConn T (hasID row.id) s.requests := by
  have hmember_ne : c.membershipID ≠ "" := hA ▸ hc.string_ne_empty A
  have htenant_ne : c.tenantID ≠ "" := hT ▸ hc.string_ne_empty T
  have hrequest_ne : requestId ≠ "" := by
    rintro rfl
    exact absurd (hc.parse_empty.symm.trans hid) (by simp)
  have hi : codec.input c.tenantID = some T := hT ▸ hc.input_string T
  have hau : Authorized c codec row st ↔ A ≠ row.requesterMembershipID ∧
      (st.row.reportsTo = some c.membershipID ∨ c.isPlatform = true) := by
    unfold Authorized
    rw [hA, ne_eq, hc.string_inj]
  unfold handleApprovePermissionRequest
  rw [if_neg hmember_ne, if_neg htenant_ne, hid]
  unfold handleApprove
  rw [if_neg htenant_ne, if_neg hrequest_ne, if_neg hmember_ne, hau]
  simp only [mapError_eq_ok]
  constructor
  · rintro ⟨s', h⟩
    obtain ⟨req, s₁, hr, hru⟩ := bind_eq_ok.mp h
    obtain ⟨hsp, ho, hre, hs₁⟩ := (getByID_eq_ok hi hid hf.request).mp (mapError_eq_ok.mp hr)
    rw [hs₁] at hru
    obtain ⟨ha, htx, hreason⟩ := (approveLoaded_eq_ok hc hi hf ho hm _ hid hA hre d).mp ⟨s', hru⟩
    exact ⟨ha, ho, hreason, hsp, htx⟩
  · rintro ⟨ha, ho, hreason, hsp, htx⟩
    obtain ⟨p, hp⟩ := hf.permission
    obtain ⟨req, hre⟩ := rowToPermissionRequest_ok codec hp
    obtain ⟨s', hru⟩ := (approveLoaded_eq_ok hc hi hf ho hm
      ⟨c.tenantID, requestId, c.membershipID, c.isPlatform, reason⟩ hid hA hre d).mpr
      ⟨ha, htx, hreason⟩
    have hr := (getByID_eq_ok hi hid hf.request).mpr ⟨hsp, ho, hre, rfl⟩
    exact ⟨s', (bind_ok (mapError_eq_ok.mpr hr)).trans hru⟩

theorem approval_authority_iff (hcodec : codec.Lawful) (hfile : OnFile s row st)
    (hid : codec.parse requestId = some row.id) (hA : c.membershipID = codec.string A)
    (hmember : hasMembership codec s.identity A = true) (hT : c.tenantID = codec.string T)
    (reason : String) (d : ApproveDraws) :
    ((∃ s', (handleApprovePermissionRequest d c requestId reason).run s = (.ok (), s')) ↔
    Authorized c codec row st) ↔ A = row.requesterMembershipID ∨
    (st.row.reportsTo ≠ some c.membershipID ∧ c.isPlatform = false) ∨
    (row.tenantID = T ∧ (trimSpace reason).utf8ByteSize ≤ maxDecisionReasonLength ∧
    Spares d.readConn T (hasID row.id) s.requests ∧
    Spares d.txConn T (hasID row.id) s.requests) := by
  rw [approval_succeeds_iff hcodec hfile hid hA hmember hT, and_iff_left_iff_imp]
  have hd : ¬ Authorized c codec row st ↔ A = row.requesterMembershipID ∨
      (st.row.reportsTo ≠ some c.membershipID ∧ c.isPlatform = false) := by
    unfold Authorized
    rw [hA, ne_eq, hcodec.string_inj, not_and_or, not_not, not_or, Bool.not_eq_true]
  rw [imp_iff_not_or, hd, or_assoc]

end

def memberOf (id tenantID : UUID) (personID : String) (reportsTo : Option String) :
    Membership.StoredMembership where
  row := { id := unaryCodec.string id, personID, tenantID := unaryCodec.string tenantID
           status := .active, joinedAt := 1, reportsTo }
  roleIDs := []
  overrides := []
  roleIDs_pk := List.nodup_nil
  overrides_pk := List.nodup_nil

def approvalStore (manager : Option String) (tenantID : UUID) : Store unaryCodec where
  identity :=
    { persons := .empty, tenants := .empty, roles := .empty, families := .empty
      memberships :=
        { rows := [memberOf 5 2 "ravi" manager, memberOf 6 tenantID "mira" none]
          unique := by
            simp [Membership.StoredMembership.Clash, Membership.StoredMembership.BothActive,
              memberOf, unaryCodec_lawful.string_inj] } }
  requests := sampleStore.requests

theorem approvalStore_onFile (mr : Option String) (tenantID : UUID) :
    OnFile (approvalStore mr tenantID) (sampleRow 3 2) (memberOf 5 2 "ravi" mr) where
  request := mem_singleton_self _
  pending := rfl
  constraints := meets_iff.mpr (by decide +kernel)
  permission := ⟨⟨31, "crm.leads.read"⟩, rfl⟩
  requester := mem_cons_self ..
  requesterID := rfl
  tenantID := rfl
  loads := ⟨by simp [memberOf], fun _ h => absurd h not_mem_nil⟩
  known := fun _ h => absurd h not_mem_nil
  roles := fun _ h => absurd h not_mem_nil

theorem approvalStore_caller (mr : Option String) (tenantID : UUID) :
    hasMembership unaryCodec (approvalStore mr tenantID).identity 6 = true := by
  simp [hasMembership, approvalStore, memberOf]

def callerClaims (tenantID : UUID) (isPlatform : Bool) : Claims where
  personID := "mira"
  tenantID := unaryCodec.string tenantID
  tenantSlug := ""
  membershipID := unaryCodec.string 6
  securityStamp := "stamp"
  isPlatform := isPlatform
  isSuperUser := false
  permissions := []
  issuedAt := 90
  expiresAt := 690

def newConnections : ApproveDraws where
  readConn := ⟨[], fun _ _ _ => false⟩
  txConn := ⟨[], fun _ _ _ => false⟩
  now := 100
  overrideID := 9

theorem approval_by_manager : Authorized (callerClaims 2 false) unaryCodec (sampleRow 3 2)
    (memberOf 5 2 "ravi" (some (unaryCodec.string 6))) ∧
    ∃ s', (handleApprovePermissionRequest newConnections (callerClaims 2 false)
    (unaryCodec.string 3) "").run (approvalStore (some (unaryCodec.string 6)) 2) =
    (.ok (), s') := by
  have ha : Authorized (callerClaims 2 false) unaryCodec (sampleRow 3 2)
      (memberOf 5 2 "ravi" (some (unaryCodec.string 6))) :=
    ⟨fun h => absurd (unaryCodec_lawful.string_inj.mp h) (by decide), .inl rfl⟩
  have hi := approval_authority_iff unaryCodec_lawful
    (approvalStore_onFile (some (unaryCodec.string 6)) 2) (unaryCodec_lawful.parse_string 3)
    (c := callerClaims 2 false) rfl (approvalStore_caller _ 2) rfl "" newConnections
  exact ⟨ha, (hi.mpr (.inr (.inr ⟨rfl, by decide +kernel, .inl rfl, .inl rfl⟩))).mpr ha⟩

theorem platform_operator_finds_no_request :
    OnFile (approvalStore none 1) (sampleRow 3 2) (memberOf 5 2 "ravi" none) ∧
    Authorized (callerClaims 1 true) unaryCodec (sampleRow 3 2) (memberOf 5 2 "ravi" none) ∧
    (handleApprovePermissionRequest newConnections (callerClaims 1 true)
    (unaryCodec.string 3) "").run (approvalStore none 1) =
    (.error ⟨404, "permission_request_not_found", ""⟩, approvalStore none 1) := by
  have hf := approvalStore_onFile none 1
  refine ⟨hf, ⟨fun h => absurd (unaryCodec_lawful.string_inj.mp h) (by decide), .inr rfl⟩, ?_⟩
  have hre : (getByID newConnections.readConn (unaryCodec.string 1) (unaryCodec.string 3)).run
      (approvalStore none 1) = (.error ⟨errNotFound, ""⟩, approvalStore none 1) := by
    unfold getByID
    rw [Pg.withinTx_eq (unaryCodec_lawful.string_ne_empty 1)]
    refine atomic_error (load_notFound (unaryCodec_lawful.input_string 1)
      (unaryCodec_lawful.parse_string 3) (.inl rfl) ?_)
    intro r hr _
    obtain rfl := mem_singleton.mp hr
    decide
  exact mapError_error (bind_error (mapError_error hre))

end Leadkart.PermissionRequest
