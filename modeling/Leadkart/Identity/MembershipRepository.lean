import Leadkart.Identity.Membership
import Leadkart.Logic.Rmw

/-!
# The membership repository
-/

namespace Leadkart.Membership

open List Option Permission Leadkart.Machine Leadkart.Rmw

structure MembershipRow where
  (id personID tenantID : String)
  status : Status
  joinedAt : Time
  leftAt : Option Time := none
  (designation department statusMessage : String := "")
  (reportsTo createdBy : Option String := none)
  deriving DecidableEq

inductive OverrideKind where
  | granted
  | revoked
  deriving DecidableEq

structure OverrideRow where
  permissionName : String
  kind : OverrideKind
  expiresAt : Option Time
  deriving DecidableEq

structure StoredMembership where
  row : MembershipRow
  roleIDs : List String
  overrides : List OverrideRow
  roleIDs_pk : roleIDs.Nodup
  overrides_pk : (overrides.map OverrideRow.permissionName).Nodup
  deriving DecidableEq

def loadPermissionOverrides : List OverrideRow → Except Err (List GrantedOverride × List Permission)
  | [] => .ok ([], [])
  | r :: rs =>
    match Permission.tryFromConstant r.permissionName with
    | .error e => .error e
    | .ok p =>
      match loadPermissionOverrides rs with
      | .error e => .error e
      | .ok (granted, revoked) =>
        match r.kind with
        | .granted => .ok (⟨p, timeFromPg r.expiresAt⟩ :: granted, revoked)
        | .revoked => .ok (granted, p :: revoked)

def rowToMembership (row : MembershipRow) (roleIDs : List String) (granted : List GrantedOverride)
    (revoked : List Permission) : Except Err Membership :=
  if row.status = .unknown then .error ⟨errInvalid, "unknown status"⟩
  else .ok
    { id := row.id
      personID := row.personID
      tenantID := row.tenantID
      status := row.status
      joinedAt := row.joinedAt
      leftAt := timeFromPg row.leftAt
      roleAssignments := roleIDs
      grantedPermissions := granted
      revokedPermissions := revoked
      designation := row.designation
      department := row.department
      statusMessage := row.statusMessage
      reportsTo := stringFromPg row.reportsTo
      createdBy := stringFromPg row.createdBy }

def loadMembership : List StoredMembership → Option Membership
  | [s₁, s₂, s₃] =>
    match loadPermissionOverrides s₃.overrides with
    | .error _ => none
    | .ok (granted, revoked) => (rowToMembership s₁.row s₂.roleIDs granted revoked).toOption
  | _ => none

def persistRow (m : Membership) (row : MembershipRow) : MembershipRow :=
  { row with
    status := m.status
    leftAt := pgTimestamp m.leftAt
    designation := m.designation
    department := m.department
    statusMessage := m.statusMessage
    reportsTo := zeroToNil m.reportsTo }

def overrideRows (m : Membership) : List OverrideRow :=
  let granted := m.grantedPermissions.map fun g =>
    OverrideRow.mk g.permission.name .granted (pgTimestamp g.expiresAt)
  let revoked := m.revokedPermissions.map fun p => OverrideRow.mk p.name .revoked none
  (granted ++ revoked).insertionSort fun a b => a.permissionName ≤ b.permissionName

def roleRows (m : Membership) : List String := m.roleAssignments.insertionSort (· ≤ ·)

def persist (m : Membership) (s : StoredMembership) : Option StoredMembership :=
  if hr : m.roleRows.Nodup then
    if ho : (m.overrideRows.map OverrideRow.permissionName).Nodup then
      some ⟨m.persistRow s.row, m.roleRows, m.overrideRows, hr, ho⟩
    else none
  else none

variable {st st' : StoredMembership}

theorem persist_eq {m : Membership} (h : m.persist st = some st') :
    st'.row = m.persistRow st.row ∧ st'.roleIDs = m.roleRows ∧ st'.overrides = m.overrideRows := by
  unfold persist at h
  split at h
  · split at h
    · cases h
      exact ⟨rfl, rfl, rfl⟩
    · cases h
  · cases h

theorem persist_row {m : Membership} (h : m.persist st = some st') :
    st'.row.personID = st.row.personID ∧ st'.row.tenantID = st.row.tenantID := by
  rw [(persist_eq h).1]
  exact ⟨rfl, rfl⟩

abbrev UpdateFn := Membership → Membership × Except Err Bool

def updateByID (updateFn : UpdateFn) : Txn StoredMembership Membership where
  reads := 3
  attempt seen :=
    (loadMembership seen).bind fun m =>
      match updateFn m with
      | (m', .ok true) => some m'
      | _ => none
  write := persist

def opFn (op : Membership → Result) : UpdateFn := fun m =>
  match op m with
  | (m', none) => (m', .ok true)
  | (m', some e) => (m', .error e)

theorem tryFromConstant_name {n : String} {p : Permission} (hn : trimSpace n = n)
    (h : Permission.tryFromConstant n = .ok p) : p.name = n := by
  unfold Permission.tryFromConstant at h
  rw [hn] at h
  split at h
  · cases h
  split at h
  · rename_i q hq
    cases h
    exact intern_name hq
  · cases h

def StoredMembership.Known (s : StoredMembership) : Prop :=
  ∀ r ∈ s.overrides, trimSpace r.permissionName = r.permissionName

theorem loadPermissionOverrides_names {rs : List OverrideRow} {gr : List GrantedOverride}
    {rd : List Permission} (hrs : ∀ r ∈ rs, trimSpace r.permissionName = r.permissionName)
    (h : loadPermissionOverrides rs = .ok (gr, rd)) :
    (∀ g ∈ gr, g.permission.Interned) ∧ (∀ p ∈ rd, p.Interned) ∧
    ((gr.map GrantedOverride.permission ++ rd).map Permission.name).Perm
    (rs.map OverrideRow.permissionName) := by
  induction rs generalizing gr rd with
  | nil =>
    cases h
    simp
  | cons r rs ih =>
    unfold loadPermissionOverrides at h
    split at h
    · cases h
    rename_i p hp
    split at h
    · cases h
    rename_i granted' revoked' hre
    obtain ⟨hg, hr, hpe⟩ := ih (fun r hr => hrs r (mem_cons_of_mem _ hr)) hre
    have hi : p.Interned := interned_of_tryFromConstant hp
    have hname : p.name = r.permissionName := tryFromConstant_name (hrs r (mem_cons_self ..)) hp
    split at h
    · cases h
      refine ⟨?_, hr, ?_⟩
      · intro g hgm
        rcases mem_cons.mp hgm with rfl | hgm
        · exact hi
        · exact hg g hgm
      · simp only [map_cons, cons_append, hname]
        exact hpe.cons _
    · cases h
      refine ⟨hg, ?_, ?_⟩
      · intro q hqm
        rcases mem_cons.mp hqm with rfl | hqm
        · exact hi
        · exact hr q hqm
      · simp only [map_append, map_cons, hname] at hpe ⊢
        exact perm_middle.trans (hpe.cons _)

theorem loadMembership_loaded {s₁ s₂ s₃ : StoredMembership} {m : Membership} (hk : s₃.Known)
    (h : loadMembership [s₁, s₂, s₃] = some m) : m.Loaded := by
  simp only [loadMembership] at h
  split at h
  · cases h
  rename_i granted revoked hl
  obtain ⟨hg, hr, hp⟩ := loadPermissionOverrides_names hk hl
  unfold rowToMembership at h
  split at h
  · exact absurd h (by simp [Except.toOption])
  · cases h
    exact ⟨hg, hr, hp.nodup_iff.mpr s₃.overrides_pk⟩

/-! ## Taking authority away -/

inductive Removal where
  | deactivate (reason : String) (now : Time)
  | revokeRole (roleID : String) (now : Time)
  | revokePermission (p : Permission) (now : Time)

inductive Edit where
  | updateProfile (designation department statusMessage : String) (now : Time)
  | assignManager (managerID : String) (now : Time)
  | grantPermission (p : Permission) (expiresAt now : Time)

def Removal.op : Removal → Membership → Result
  | .deactivate reason now, m => m.deactivate reason now
  | .revokeRole roleID now, m => m.revokeRole roleID now
  | .revokePermission p now, m => m.revokePermission p now

def Edit.op : Edit → Membership → Result
  | .updateProfile designation department statusMessage now, m =>
    m.updateProfile designation department statusMessage now
  | .assignManager managerID now, m => m.assignManager managerID now
  | .grantPermission p expiresAt now, m => m.grantPermission p expiresAt now

def Edit.Spares : Edit → Removal → Prop
  | .grantPermission q _ _, .revokePermission p _ => q.name ≠ p.name ∧ trimSpace p.name = p.name
  | _, .revokePermission p _ => trimSpace p.name = p.name
  | _, _ => True

def Removal.DoneIn (m : Membership) : Removal → Prop
  | .deactivate _ _ => m.status = .inactive
  | .revokeRole roleID _ => roleID ∉ m.roleAssignments
  | .revokePermission p _ => ∃ q ∈ m.revokedPermissions, q.name = p.name

def Removal.Done (s : StoredMembership) : Removal → Prop
  | .deactivate _ _ => s.row.status = .inactive
  | .revokeRole roleID _ => roleID ∉ s.roleIDs
  | .revokePermission p _ => ∃ r ∈ s.overrides, r.permissionName = p.name ∧ r.kind = .revoked

section Removed

variable {s s' : StoredMembership} {m : Membership} {x : Removal} {y : Edit}

theorem alone_opFn {op : Membership → Result} (h : (updateByID (opFn op)).alone s = some s') :
    ∃ m, loadMembership [s, s, s] = some m ∧ (op m).2 = none ∧ persist (op m).1 s = some s' := by
  obtain ⟨m', ha, hw⟩ := bind_eq_some_iff.mp h
  obtain ⟨m, hl, hfn⟩ := bind_eq_some_iff.mp ha
  refine ⟨m, hl, ?_⟩
  unfold opFn at hfn
  rcases hop : op m with ⟨m₁, _ | e⟩
  · rw [hop] at hfn
    cases hfn
    exact ⟨rfl, hw⟩
  · rw [hop] at hfn
    cases hfn

theorem loadPermissionOverrides_revoked {rs : List OverrideRow} {g : List GrantedOverride}
    {rd : List Permission} (h : loadPermissionOverrides rs = .ok (g, rd))
    {r : OverrideRow} (hr : r ∈ rs) (hk : r.kind = .revoked)
    (hn : trimSpace r.permissionName = r.permissionName) : ∃ q ∈ rd, q.name = r.permissionName := by
  induction rs generalizing g rd with
  | nil => cases hr
  | cons r' rs ih =>
    unfold loadPermissionOverrides at h
    split at h
    · cases h
    rename_i p hp
    split at h
    · cases h
    rename_i granted' revoked' hre
    rcases mem_cons.mp hr with rfl | hr
    · rw [hk] at h
      cases h
      exact ⟨p, mem_cons_self .., tryFromConstant_name hn hp⟩
    · obtain ⟨q, hq, hqn⟩ := ih hre hr
      split at h
      · cases h
        exact ⟨q, hq, hqn⟩
      · cases h
        exact ⟨q, mem_cons_of_mem _ hq, hqn⟩

theorem loadMembership_eq (h : loadMembership [s, s, s] = some m) :
    ∃ granted revoked, loadPermissionOverrides s.overrides = .ok (granted, revoked) ∧
    m.tenantID = s.row.tenantID ∧ m.status = s.row.status ∧ m.roleAssignments = s.roleIDs ∧
    m.grantedPermissions = granted ∧ m.revokedPermissions = revoked := by
  simp only [loadMembership] at h
  split at h
  · cases h
  rename_i granted revoked hl
  unfold rowToMembership at h
  split at h
  · exact absurd h (by simp [Except.toOption])
  · cases h
    exact ⟨granted, revoked, hl, rfl, rfl, rfl, rfl, rfl⟩

theorem Removal.Done.load (hx : x.Done s) (hy : y.Spares x)
    (h : loadMembership [s, s, s] = some m) : x.DoneIn m := by
  obtain ⟨granted, revoked, hl, -, hs, hro, -, hre⟩ := loadMembership_eq h
  cases x with
  | deactivate reason now => exact hs.trans hx
  | revokeRole roleID now => exact fun hm => hx (hro ▸ hm)
  | revokePermission p now =>
    obtain ⟨r, hr, hname, hk⟩ := hx
    have ht : trimSpace p.name = p.name := by
      cases y with
      | grantPermission q e t => exact hy.2
      | updateProfile | assignManager => exact hy
    obtain ⟨q, hq, hqn⟩ := loadPermissionOverrides_revoked hl hr hk (by rw [hname, ht])
    exact ⟨q, hre ▸ hq, hqn.trans hname⟩

theorem Removal.DoneIn.persist (hx : x.DoneIn m) (h : m.persist s = some s') : x.Done s' := by
  obtain ⟨hrow, hr, ho⟩ := persist_eq h
  cases x with
  | deactivate reason now =>
    unfold Removal.Done
    rw [hrow]
    exact hx
  | revokeRole roleID now =>
    unfold Removal.Done
    rw [hr]
    exact fun hm => hx ((mem_insertionSort _).mp hm)
  | revokePermission p now =>
    obtain ⟨q, hq, hqn⟩ := hx
    refine ⟨⟨q.name, .revoked, none⟩, ?_, hqn, rfl⟩
    rw [ho]
    exact (mem_insertionSort _).mpr (mem_append_right _ (mem_map_of_mem hq))

theorem Removal.op_done (hnd : m.roleAssignments.Nodup) (h : (x.op m).2 = none) :
    x.DoneIn (x.op m).1 := by
  cases x with
  | deactivate reason now =>
    simp only [Removal.op, Membership.deactivate] at h ⊢
    split at h
    · cases h
    rename_i hreason
    rw [if_neg hreason]
    split
    · assumption
    · rfl
  | revokeRole roleID now =>
    simp only [Removal.op, Membership.revokeRole] at h ⊢
    split at h
    · cases h
    rename_i hr
    rw [if_neg hr]
    split
    · assumption
    · exact hnd.not_mem_erase
  | revokePermission p now =>
    simp only [Removal.op, Membership.revokePermission]
    split
    · rename_i ha
      obtain ⟨q, hq, hpq⟩ := any_eq_true.mp ha
      exact ⟨q, hq, (equal_iff.mp hpq).symm⟩
    · exact ⟨p, mem_append_right _ (mem_singleton_self p), rfl⟩

theorem Removal.DoneIn.edit (hx : x.DoneIn m) (hy : y.Spares x) : x.DoneIn (y.op m).1 := by
  cases y with
  | updateProfile d dep sm now =>
    simp only [Edit.op, updateProfile]
    split
    · exact hx
    · cases x <;> exact hx
  | assignManager managerID now =>
    simp only [Edit.op, assignManager]
    repeat' split
    all_goals cases x <;> exact hx
  | grantPermission q e now =>
    have hs : ((m.grantPermission q e now).1.status = m.status ∧
        (m.grantPermission q e now).1.roleAssignments = m.roleAssignments) ∧
        (m.grantPermission q e now).1.revokedPermissions = m.revokedPermissions.eraseP q.equal := by
      unfold grantPermission
      dsimp only
      repeat' split
      all_goals exact ⟨⟨rfl, rfl⟩, rfl⟩
    cases x with
    | deactivate reason now' => exact hs.1.1.trans hx
    | revokeRole roleID now' => exact fun hm => hx (hs.1.2 ▸ hm)
    | revokePermission p now' =>
      obtain ⟨r, hr, hrn⟩ := hx
      refine ⟨r, ?_, hrn⟩
      show r ∈ (m.grantPermission q e now).1.revokedPermissions
      rw [hs.2]
      refine (mem_eraseP_of_neg fun hqr => hy.1 ?_).mpr hr
      exact (equal_iff.mp hqr).trans hrn

theorem Removal.done_of_serial (hy : y.Spares x)
    (h : ((updateByID (opFn x.op)).alone s).bind (updateByID (opFn y.op)).alone = some s' ∨
    ((updateByID (opFn y.op)).alone s).bind (updateByID (opFn x.op)).alone = some s') :
    x.Done s' := by
  have hr : ∀ {t t'}, (updateByID (opFn x.op)).alone t = some t' → x.Done t' := by
    intro t t' ht
    obtain ⟨m, hl, hok, hp⟩ := alone_opFn ht
    obtain ⟨-, -, -, -, -, hro, -⟩ := loadMembership_eq hl
    exact (Removal.op_done (hro ▸ t.roleIDs_pk) hok).persist hp
  rcases h with h | h <;> obtain ⟨s₁, h₁, h₂⟩ := bind_eq_some_iff.mp h
  · obtain ⟨m, hl, -, hp⟩ := alone_opFn h₂
    exact (((hr h₁).load hy hl).edit hy).persist hp
  · exact hr h₂

end Removed

/-- Two updates that write the membership they read took place one after the other. -/
theorem updates_serial_of_current (fn : Fin 2 → UpdateFn) (s : StoredMembership)
    (ls : List (Label (Fin 2))) (st : State (Fin 2) StoredMembership Membership)
    (hC : Along (step fun i => updateByID (fn i)) (Current fun t => t) (init (Fin 2) Membership s)
    ls) (hr : run (step fun i => updateByID (fn i)) (init (Fin 2) Membership s) ls = some st)
    (hboth : ∀ i, ∃ c ∈ st.log, c.who = i) :
    (((updateByID (fn 0)).alone s).bind (updateByID (fn 1)).alone = some st.store ∨
    ((updateByID (fn 1)).alone s).bind (updateByID (fn 0)).alone = some st.store) ∧
    ∀ (x : Removal) (y : Edit) (i j : Fin 2), i ≠ j → fn i = opFn x.op → fn j = opFn y.op →
    y.Spares x → x.Done st.store := by
  have ho : ((updateByID (fn 0)).alone s).bind (updateByID (fn 1)).alone = some st.store ∨
      ((updateByID (fn 1)).alone s).bind (updateByID (fn 0)).alone = some st.store :=
    run_serial_two hC hr hboth
  refine ⟨ho, ?_⟩
  intro x y i j hij hi hj hy
  have hc : (i = 0 ∧ j = 1) ∨ (i = 1 ∧ j = 0) := by omega
  rcases hc with ⟨rfl, rfl⟩ | ⟨rfl, rfl⟩ <;> rw [hi, hj] at ho
  · exact Removal.done_of_serial hy ho
  · exact Removal.done_of_serial hy ho.symm

def sampleMembership : StoredMembership :=
  { row := { id := "m1", personID := "p1", tenantID := "t1", status := .active, joinedAt := 1 }
    roleIDs := ["role-1"]
    overrides := [⟨"tenant.admin", .revoked, none⟩]
    roleIDs_pk := by decide
    overrides_pk := by decide }

def sampleUpdates : Fin 2 → UpdateFn
  | 0 => opFn fun m => m.deactivate "left the company" 5
  | 1 => opFn fun m => m.updateProfile "Sales Manager" "Sales" "" 6

theorem updates_serial_in_turn :
    ∃ st, run (step fun i => updateByID (sampleUpdates i)) (init (Fin 2) Membership sampleMembership)
    [.read 0, .read 0, .read 0, .write 0, .commit 0,
    .read 1, .read 1, .read 1, .write 1, .commit 1] = some st ∧
    st.store.row.status = .inactive ∧ st.store.row.designation = "Sales Manager" ∧
    (((updateByID (sampleUpdates 0)).alone sampleMembership).bind
    (updateByID (sampleUpdates 1)).alone = some st.store ∨
    ((updateByID (sampleUpdates 1)).alone sampleMembership).bind
    (updateByID (sampleUpdates 0)).alone = some st.store) := by
  refine ⟨_, rfl, by decide, by decide, ?_⟩
  exact (updates_serial_of_current sampleUpdates sampleMembership
    [.read 0, .read 0, .read 0, .write 0, .commit 0,
     .read 1, .read 1, .read 1, .write 1, .commit 1] _ (by decide) rfl (by decide)).1

theorem deactivation_lost_to_profile_update :
    ∃ st, run (step fun i => updateByID (sampleUpdates i)) (init (Fin 2) Membership sampleMembership)
    [.read 1, .read 1, .read 1, .read 0, .read 0, .read 0, .write 0, .commit 0,
    .write 1, .commit 1] = some st ∧
    (∀ i, ∃ c ∈ st.log, c.who = i) ∧ st.store.row.status = .active ∧
    ((updateByID (sampleUpdates 0)).alone sampleMembership).bind
    (updateByID (sampleUpdates 1)).alone ≠ some st.store ∧
    ((updateByID (sampleUpdates 1)).alone sampleMembership).bind
    (updateByID (sampleUpdates 0)).alone ≠ some st.store := by
  refine ⟨_, rfl, by decide, by decide, by decide, by decide⟩

end Leadkart.Membership
