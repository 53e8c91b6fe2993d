import Leadkart.Identity.Registration

/-!
# Tenant lifecycle commands and the grace window
-/

namespace Leadkart

open Effect

def Store.tenant? (s : Store) (id : String) : Option Tenant := s.tenants.find? fun t => t.id == id

abbrev Tenant.UpdateFn := Tenant → Tenant × Except Err Bool

def Tenant.opFn (op : Tenant → Tenant.Result) : Tenant.UpdateFn := fun t =>
  match op t with
  | (t', none) => (t', .ok true)
  | (t', some e) => (t', .error e)

namespace TenantRepository

def persist (t row : Tenant) : Tenant :=
  { row with
    legalName := t.legalName
    displayName := t.displayName
    status := t.status
    activatedAt := t.activatedAt
    suspendedAt := t.suspendedAt
    deletionScheduledAt := t.deletionScheduledAt
    deletionReason := t.deletionReason
    hardDeletedAt := t.hardDeletedAt }

@[simp] theorem persist_self (t : Tenant) : persist t t = t := rfl

@[simp] theorem persist_status (t row : Tenant) : (persist t row).status = t.status := rfl

@[simp] theorem persist_deletionScheduledAt (t row : Tenant) :
    (persist t row).deletionScheduledAt = t.deletionScheduledAt := rfl

def updateByID (id : String) (updateFn : Tenant.UpdateFn) : Repo Unit :=
  .write fun s =>
    match s.tenant? id with
    | none => .error ⟨Tenant.errNotFound, ""⟩
    | some t =>
      match updateFn t with
      | (_, .error e) => .error e
      | (_, .ok false) => .ok s
      | (t', .ok true) =>
        orRefused (.foreign "tenant repo: update") (fun ts => { s with tenants := ts })
          (s.tenants.update (fun q => q.id == id) (persist t'))

end TenantRepository

def Store.referenced (s : Store) (tenantID : String) : Bool :=
  (s.memberships.rows.any fun st => st.row.tenantID == tenantID) ||
  (s.roles.rows.any fun r => r.tenantID == tenantID) ||
  (s.families.rows.any fun f => f.row.tenantID == tenantID)

def TenantRepository.hardDeleteRow (id : String) : Repo Unit :=
  .write fun s =>
    if s.referenced id then .error (.foreign "tenant repo: hard delete")
    else .ok { s with tenants := s.tenants.delete fun t => t.id == id }

def Store.hasActiveSuperAdmin (s : Store) (tenantID : String) : Bool :=
  s.memberships.rows.any fun st =>
    st.row.tenantID == tenantID && st.row.status == .active &&
      s.roles.rows.any fun r => r.id ∈ st.roleIDs && r.isSuperAdmin && !r.deleted

inductive TenantCommandError where
  | idRequired
  | platformTenantUndeletable
  | tenantNotFound
  | other (context : String) (err : Err)
  deriving DecidableEq

def ensureNotPlatformTenant (id : String) : Effect Store TenantCommandError Unit :=
  .query fun s =>
    if s.hasActiveSuperAdmin id then .error .platformTenantUndeletable else .ok ()

def updateTenant (context id : String) (op : Tenant → Tenant.Result) :
    Effect Store TenantCommandError Unit :=
  (TenantRepository.updateByID id (Tenant.opFn op)).mapError fun e =>
    if e.is Tenant.errNotFound then .tenantNotFound else .other context e

def activateTenant (id : String) (now : Time) : Effect Store TenantCommandError Unit :=
  if id = "" then .fail .idRequired
  else updateTenant "activate_tenant" id fun t => t.activate now

def suspendTenant (id reason : String) (now : Time) : Effect Store TenantCommandError Unit :=
  if id = "" then .fail .idRequired
  else do
    ensureNotPlatformTenant id
    updateTenant "suspend_tenant" id fun t => t.suspend reason now

def markTenantForDeletion (id reason : String) (now : Time) :
    Effect Store TenantCommandError Unit :=
  if id = "" then .fail .idRequired
  else do
    ensureNotPlatformTenant id
    updateTenant "mark_tenant_for_deletion" id fun t => t.markForDeletion reason now

def restoreTenant (id : String) (now : Time) : Effect Store TenantCommandError Unit :=
  if id = "" then .fail .idRequired
  else updateTenant "restore_tenant" id fun t => t.restoreFromDeletion now

def hardDeleteTenant (id : String) (now : Time) : Effect Store TenantCommandError Unit :=
  if id = "" then .fail .idRequired
  else do
    ensureNotPlatformTenant id
    updateTenant "hard_delete_tenant: aggregate transition" id fun t => t.hardDelete now
    (TenantRepository.hardDeleteRow id).mapError (.other "hard_delete_tenant: row delete")

section

variable {s : Store} {id : String} {t : Tenant} (context : String) (op : Tenant → Tenant.Result)

theorem tenant?_id (h : s.tenant? id = some t) : t ∈ s.tenants ∧ t.id = id := by
  obtain ⟨hm, hid⟩ := Table.mem_of_find? h
  exact ⟨hm, by simpa using hid⟩

theorem TenantRepository.update_persist (s : Store) (id : String) (t : Tenant) :
    ∃ ts, s.tenants.update (fun q => q.id == id) (persist t) = some ts := by
  refine Table.update_of_clash fun a _ b _ hc => ?_
  have hk : ∀ q : Tenant, (if (q.id == id) = true then persist t q else q).id = q.id ∧
      (if (q.id == id) = true then persist t q else q).slug = q.slug := by
    intro q
    split <;> exact ⟨rfl, rfl⟩
  unfold Tenant.Clash at hc ⊢
  rwa [(hk a).1, (hk b).1, (hk a).2, (hk b).2] at hc

theorem updateTenant_none (h : s.tenant? id = none) :
    (updateTenant context id op).run s = (.error .tenantNotFound, s) := by
  have hr : (TenantRepository.updateByID id (Tenant.opFn op)).run s =
      (.error ⟨Tenant.errNotFound, ""⟩, s) := by
    unfold TenantRepository.updateByID Effect.write
    simp only [h]
  exact mapError_error hr

theorem updateTenant_error {e : Err} (h : s.tenant? id = some t) (hop : (op t).2 = some e) :
    ∃ e', (updateTenant context id op).run s = (.error e', s) := by
  have hr : (TenantRepository.updateByID id (Tenant.opFn op)).run s = (.error e, s) := by
    unfold TenantRepository.updateByID Effect.write Tenant.opFn
    rcases hot : op t with ⟨t', o⟩
    rw [hot] at hop
    obtain rfl : o = some e := hop
    simp only [h, hot]
  exact ⟨_, mapError_error hr⟩

theorem updateTenant_done (h : s.tenant? id = some t) (hop : (op t).2 = none) :
    ∃ ts, s.tenants.update (fun q => q.id == id) (TenantRepository.persist (op t).1) = some ts ∧
    (updateTenant context id op).run s = (.ok (), { s with tenants := ts }) := by
  obtain ⟨ts, hts⟩ := TenantRepository.update_persist s id (op t).1
  refine ⟨ts, hts, mapError_eq_ok.mpr (write_eq_ok.mpr ?_)⟩
  rcases hot : op t with ⟨t', o⟩
  rw [hot] at hop hts
  obtain rfl : o = none := hop
  simp only [h, Tenant.opFn, hot, hts, orRefused]

theorem tenant?_update {ts : Table Tenant Tenant.Clash} {u : Tenant} (h : s.tenant? id = some t)
    (hts : s.tenants.update (fun q => q.id == id) (TenantRepository.persist u) = some ts) :
    ({ s with tenants := ts } : Store).tenant? id = some (TenantRepository.persist u t) := by
  have hf := Table.find?_update hts fun q hq => hq
  show ts.find? _ = _
  rw [hf]
  show (s.tenant? id).map _ = _
  rw [h]
  rfl

theorem updateTenant_row (s : Store) (id : String) : ((updateTenant context id op).run s).2 = s ∨
    ∃ t, s.tenant? id = some t ∧ (op t).2 = none ∧
    ((updateTenant context id op).run s).2.tenant? id =
    some (TenantRepository.persist (op t).1 t) := by
  rcases hrow : s.tenant? id with _ | t
  · left
    rw [updateTenant_none context op hrow]
  rcases hop : (op t).2 with _ | e
  · right
    obtain ⟨ts, hts, hr⟩ := updateTenant_done context op hrow hop
    refine ⟨t, rfl, hop, ?_⟩
    rw [hr]
    exact tenant?_update hrow hts
  · left
    obtain ⟨e', hr⟩ := updateTenant_error context op hrow hop
    rw [hr]

theorem ensureNotPlatformTenant_run (s : Store) (id : String) : (ensureNotPlatformTenant id).run s =
    (if s.hasActiveSuperAdmin id then .error .platformTenantUndeletable else .ok (), s) := rfl

theorem hardDeleteTenant_guarded (now : Time) (hid : id ≠ "")
    (h : s.hasActiveSuperAdmin id = true) :
    (hardDeleteTenant id now).run s = (.error .platformTenantUndeletable, s) := by
  unfold hardDeleteTenant
  rw [if_neg hid]
  refine bind_error ?_
  rw [ensureNotPlatformTenant_run, if_pos h]

variable {now : Time}

theorem hardDeleteTenant_missing (hid : id ≠ "") (ha : s.hasActiveSuperAdmin id = false)
    (h : s.tenant? id = none) : (hardDeleteTenant id now).run s = (.error .tenantNotFound, s) := by
  unfold hardDeleteTenant
  rw [if_neg hid, bind_ok (by rw [ensureNotPlatformTenant_run, if_neg (by simp [ha])]),
    bind_error (updateTenant_none _ _ h)]

theorem hardDeleteTenant_refused {e : Err} (hid : id ≠ "")
    (ha : s.hasActiveSuperAdmin id = false) (h : s.tenant? id = some t)
    (hop : (t.hardDelete now).2 = some e) :
    ∃ e', (hardDeleteTenant id now).run s = (.error e', s) := by
  obtain ⟨e', hr⟩ :=
    updateTenant_error "hard_delete_tenant: aggregate transition" (fun t => t.hardDelete now) h hop
  refine ⟨e', ?_⟩
  unfold hardDeleteTenant
  rw [if_neg hid, bind_ok (by rw [ensureNotPlatformTenant_run, if_neg (by simp [ha])]),
    bind_error hr]

theorem hardDeleteTenant_done (hid : id ≠ "") (ha : s.hasActiveSuperAdmin id = false)
    (h : s.tenant? id = some t) (hop : (t.hardDelete now).2 = none) :
    (s.referenced id = true ∧ ∃ e, ((hardDeleteTenant id now).run s).1 = .error e ∧
    ((hardDeleteTenant id now).run s).2.tenant? id =
    some (TenantRepository.persist (t.hardDelete now).1 t)) ∨
    (s.referenced id = false ∧ ((hardDeleteTenant id now).run s).1 = .ok () ∧
    ((hardDeleteTenant id now).run s).2.tenant? id = none) := by
  obtain ⟨ts, hts, hru⟩ :=
    updateTenant_done "hard_delete_tenant: aggregate transition" (fun t => t.hardDelete now) h hop
  have hs : (hardDeleteTenant id now).run s = ((TenantRepository.hardDeleteRow id).mapError
        (TenantCommandError.other "hard_delete_tenant: row delete")).run
          { s with tenants := ts } := by
    unfold hardDeleteTenant
    rw [if_neg hid, bind_ok (by rw [ensureNotPlatformTenant_run, if_neg (by simp [ha])]),
      bind_ok hru]
  rw [hs]
  by_cases hr : s.referenced id = true
  · left
    have hrow : (TenantRepository.hardDeleteRow id).run { s with tenants := ts } =
        (.error (.foreign "tenant repo: hard delete"), { s with tenants := ts }) := by
      have hr' : ({ s with tenants := ts } : Store).referenced id = true := hr
      unfold TenantRepository.hardDeleteRow Effect.write
      simp only [hr', if_true]
    rw [mapError_error hrow]
    exact ⟨hr, _, rfl, tenant?_update h hts⟩
  · right
    have hr : s.referenced id = false := by simpa using hr
    have hrow : (TenantRepository.hardDeleteRow id).run { s with tenants := ts } =
        (.ok (), { s with tenants := ts.delete fun t => t.id == id }) := by
      have hr' : ({ s with tenants := ts } : Store).referenced id = false := hr
      refine write_eq_ok.mpr ?_
      simp only [hr', Bool.false_eq_true, if_false]
    rw [mapError_eq_ok.mpr hrow]
    exact ⟨hr, rfl, Table.find?_delete ts _⟩

end

/-! ## Histories -/

inductive Lifecycle where
  | activate
  | suspend (reason : String)
  | markForDeletion (reason : String)
  | restore
  | hardDelete

namespace Lifecycle

def handle (id : String) (now : Time) : Lifecycle → Effect Store TenantCommandError Unit
  | .activate => activateTenant id now
  | .suspend reason => suspendTenant id reason now
  | .markForDeletion reason => markTenantForDeletion id reason now
  | .restore => restoreTenant id now
  | .hardDelete => hardDeleteTenant id now

def op (now : Time) : Lifecycle → Tenant → Tenant.Result
  | .activate => fun t => t.activate now
  | .suspend reason => fun t => t.suspend reason now
  | .markForDeletion reason => fun t => t.markForDeletion reason now
  | .restore => fun t => t.restoreFromDeletion now
  | .hardDelete => fun t => t.hardDelete now

end Lifecycle

structure Execution where
  cmd : Lifecycle
  now : Time
  (before after : Option Tenant)

structure History where
  store : Store
  past : List Execution

def execute (id : String) (h : History) (x : Lifecycle × Time) : Option History :=
  let s' := ((x.1.handle id x.2).run h.store).2
  some { store := s', past := ⟨x.1, x.2, h.store.tenant? id, s'.tenant? id⟩ :: h.past }

namespace Execution

def changes (e : Execution) (p q : Tenant.Status → Bool) : Bool :=
  (e.before.any fun t => p t.status) && e.after.any fun t => q t.status

def activates (e : Execution) : Bool := e.changes (· ≠ .active) (· = .active)

def marks (e : Execution) : Bool :=
  match e.cmd with
  | .markForDeletion _ => e.changes (· ≠ .pendingDeletion) (· = .pendingDeletion)
  | _ => false

def restores (e : Execution) : Bool :=
  match e.cmd with
  | .restore => e.changes (· = .pendingDeletion) (· = .active)
  | _ => false

end Execution

def EverActivated (past : List Execution) : Prop := ∃ e ∈ past, e.activates = true

def lastMark : List Execution → Option Time
  | [] => none
  | e :: past => if e.marks then some e.now else if e.restores then none else lastMark past

def graceWindow : Duration := 30 * day

def graceElapsed (past : List Execution) (now : Time) : Bool :=
  (lastMark past).any fun marked => marked + graceWindow ≤ now

def GraceHonoured (s : Store) (past : List Execution) (id : String) (now : Time) : Prop :=
  ((((hardDeleteTenant id now).run s).2.tenant? id).all (fun t => t.status = .deleted) = true →
    graceElapsed past now = true) ∧
  (graceElapsed past now = false →
    ((hardDeleteTenant id now).run s).1.isOk = false ∧
      ((hardDeleteTenant id now).run s).2.tenant? id = s.tenant? id)

instance (s : Store) (past : List Execution) (id : String) (now : Time) :
    Decidable (GraceHonoured s past id now) := inferInstanceAs (Decidable (_ ∧ _))

/-! ## What every history keeps -/

variable {id : String} {h h' : History}

theorem guarded_row (context : String) (s : Store) (id : String) (op : Tenant → Tenant.Result) :
    (ensureNotPlatformTenant id >>= fun _ => updateTenant context id op).run s =
    (.error .platformTenantUndeletable, s) ∨
    (ensureNotPlatformTenant id >>= fun _ => updateTenant context id op).run s =
    (updateTenant context id op).run s := by
  by_cases ha : s.hasActiveSuperAdmin id = true
  · left
    exact bind_error (by rw [ensureNotPlatformTenant_run, if_pos ha])
  · right
    exact bind_ok (by rw [ensureNotPlatformTenant_run, if_neg ha])

theorem Lifecycle.handle_row (x : Lifecycle) (now : Time) (s : Store) (id : String) :
    ((x.handle id now).run s).2.tenant? id = s.tenant? id ∨
    (∃ t, s.tenant? id = some t ∧ (x.op now t).2 = none ∧ ((x.handle id now).run s).2.tenant? id =
    some (TenantRepository.persist (x.op now t).1 t)) ∨
    ((x.handle id now).run s).2.tenant? id = none := by
  have hp : ∀ context, ((updateTenant context id (x.op now)).run s).2.tenant? id = s.tenant? id ∨
      ∃ t, s.tenant? id = some t ∧ (x.op now t).2 = none ∧
        ((updateTenant context id (x.op now)).run s).2.tenant? id =
          some (TenantRepository.persist (x.op now t).1 t) := by
    intro context
    exact (updateTenant_row context (x.op now) s id).imp_left
      (congrArg fun s : Store => s.tenant? id)
  by_cases hid : id = ""
  · left
    cases x <;> simp [handle, activateTenant, suspendTenant, markTenantForDeletion, restoreTenant,
      hardDeleteTenant, hid]
  cases x with
  | activate =>
    simp only [handle, activateTenant, if_neg hid, op] at hp ⊢
    exact (hp "activate_tenant").imp_right .inl
  | restore =>
    simp only [handle, restoreTenant, if_neg hid, op] at hp ⊢
    exact (hp "restore_tenant").imp_right .inl
  | suspend reason =>
    simp only [handle, suspendTenant, if_neg hid, op] at hp ⊢
    rcases guarded_row "suspend_tenant" s id fun t => t.suspend reason now with hr | hr
    · rw [hr]
      exact .inl rfl
    · rw [hr]
      exact (hp "suspend_tenant").imp_right .inl
  | markForDeletion reason =>
    simp only [handle, markTenantForDeletion, if_neg hid, op] at hp ⊢
    rcases guarded_row "mark_tenant_for_deletion" s id fun t => t.markForDeletion reason now with
      hr | hr
    · rw [hr]
      exact .inl rfl
    · rw [hr]
      exact (hp "mark_tenant_for_deletion").imp_right .inl
  | hardDelete =>
    simp only [handle]
    by_cases ha : s.hasActiveSuperAdmin id = true
    · rw [hardDeleteTenant_guarded now hid ha]
      exact .inl rfl
    have ha : s.hasActiveSuperAdmin id = false := by simpa using ha
    rcases hrow : s.tenant? id with _ | t
    · rw [hardDeleteTenant_missing hid ha hrow]
      exact .inl hrow
    rcases hop : (t.hardDelete now).2 with _ | e
    · rcases hardDeleteTenant_done hid ha hrow hop with ⟨-, e, -, haf⟩ | ⟨-, -, haf⟩
      · exact .inr (.inl ⟨t, rfl, hop, haf⟩)
      · exact .inr (.inr haf)
    · obtain ⟨e', hr⟩ := hardDeleteTenant_refused hid ha hrow hop
      rw [hr]
      exact .inl hrow

theorem Lifecycle.op_cases (x : Lifecycle) (now : Time) (t : Tenant) (hs : t.status ≠ .unknown)
    (hok : (x.op now t).2 = none) : (x.op now t).1 = t ∨
    (x.op now t).1.status ∈ [.active, .suspended, .deleted] ∨
    (∃ reason, x = .markForDeletion reason) ∧ t.status ≠ .pendingDeletion ∧
    (x.op now t).1.status = .pendingDeletion ∧ (x.op now t).1.deletionScheduledAt = now := by
  cases x with
  | activate =>
    simp only [op, Tenant.activate] at hok ⊢
    cases hst : t.status <;> simp_all [Tenant.recordEvent, Tenant.fail]
  | suspend reason =>
    simp only [op, Tenant.suspend] at hok ⊢
    split at hok
    · exact absurd hok (by simp [Tenant.fail])
    rename_i hreason
    rw [if_neg hreason]
    cases hst : t.status <;> simp_all [Tenant.recordEvent, Tenant.fail]
  | markForDeletion reason =>
    simp only [op, Tenant.markForDeletion] at hok ⊢
    split at hok
    · exact absurd hok (by simp [Tenant.fail])
    rename_i hreason
    rw [if_neg hreason]
    cases hst : t.status <;> simp_all [Tenant.recordEvent, Tenant.fail]
    split at hok
    · rename_i hsa
      rw [if_pos hsa]
      exact .inl rfl
    · cases hok
  | restore =>
    simp only [op, Tenant.restoreFromDeletion] at hok ⊢
    cases hst : t.status <;> simp_all [Tenant.recordEvent, Tenant.fail]
  | hardDelete =>
    simp only [op, Tenant.hardDelete] at hok ⊢
    cases hst : t.status <;> simp_all [Tenant.recordEvent, Tenant.fail]

structure Told (row : Option Tenant) (past : List Execution) : Prop where
  known : ∀ t, row = some t → t.status ≠ .unknown
  fresh : ∀ t, row = some t → t.status = .pending → ¬ EverActivated past
  marked : ∀ t, row = some t → t.status = .pendingDeletion →
    lastMark past = some t.deletionScheduledAt

namespace Told

variable {row : Option Tenant} {past : List Execution} {t u : Tenant}

theorem same (ht : Told row past) (x : Lifecycle) (now : Time) :
    Told row (⟨x, now, row, row⟩ :: past) := by
  have hc : ∀ p q : Tenant.Status → Bool, (∀ st, p st = true → q st = false) →
      Execution.changes ⟨x, now, row, row⟩ p q = false := by
    intro p q hpq
    unfold Execution.changes
    rcases row with _ | t
    · rfl
    · cases hp : p t.status with
      | false => simp [hp]
      | true => simp [hp, hpq _ hp]
  have hm : Execution.marks ⟨x, now, row, row⟩ = false := by
    unfold Execution.marks
    split
    · exact hc _ _ (by simp)
    · rfl
  have hr : Execution.restores ⟨x, now, row, row⟩ = false := by
    unfold Execution.restores
    split
    · exact hc _ _ (by simp)
    · rfl
  refine ⟨ht.known, ?_, ?_⟩
  · rintro t hrow hpe ⟨e, he, ha⟩
    rcases List.mem_cons.mp he with rfl | he
    · exact absurd ha (by simp [Execution.activates, hc])
    · exact ht.fresh t hrow hpe ⟨e, he, ha⟩
  · intro t hrow hst
    simp only [lastMark, hm, hr, Bool.false_eq_true, if_false]
    exact ht.marked t hrow hst

theorem of_status (h : u.status ∈ [.active, .suspended, .deleted]) (past : List Execution) :
    Told (some u) past := by
  have hne : ∀ st, st ∉ [Tenant.Status.active, .suspended, .deleted] → u.status ≠ st :=
    fun st hst heq => hst (heq ▸ h)
  refine ⟨?_, ?_, ?_⟩
  · rintro _ ⟨⟩
    exact hne _ (by decide)
  · rintro _ ⟨⟩ hp
    exact absurd hp (hne _ (by decide))
  · rintro _ ⟨⟩ hp
    exact absurd hp (hne _ (by decide))

theorem mark {reason : String} {now : Time} (hb : t.status ≠ .pendingDeletion)
    (ha : u.status = .pendingDeletion) (hat : u.deletionScheduledAt = now) (past : List Execution) :
    Told (some u) (⟨.markForDeletion reason, now, some t, some u⟩ :: past) := by
  have hm : Execution.marks ⟨.markForDeletion reason, now, some t, some u⟩ = true := by
    simp [Execution.marks, Execution.changes, hb, ha]
  refine ⟨?_, ?_, ?_⟩
  · rintro _ ⟨⟩
    simp [ha]
  · rintro _ ⟨⟩ hp
    exact absurd (ha.symm.trans hp) (by decide)
  · rintro _ ⟨⟩ -
    rw [lastMark, if_pos hm, hat]

theorem gone (past : List Execution) : Told none past := by
  refine ⟨?_, ?_, ?_⟩ <;> exact fun _ h => absurd h (by simp)

theorem execute (ht : Told (h.store.tenant? id) h.past) {x : Lifecycle × Time}
    (hx : execute id h x = some h') : Told (h'.store.tenant? id) h'.past := by
  cases hx
  obtain ⟨x, now⟩ := x
  rcases x.handle_row now h.store id with hrow | ⟨t, hb, hok, ha⟩ | hg
  · rw [hrow]
    exact ht.same x now
  · rw [ha]
    have hc := x.op_cases now t (ht.known t hb) hok
    generalize (x.op now t).1 = u at hc ⊢
    rcases hc with rfl | hst | ⟨⟨reason, rfl⟩, hne, hst, hat⟩
    · rw [TenantRepository.persist_self, ← hb]
      exact ht.same x now
    · exact of_status (by rwa [TenantRepository.persist_status]) _
    · rw [hb]
      exact mark hne (by rwa [TenantRepository.persist_status])
        (by rwa [TenantRepository.persist_deletionScheduledAt]) _
  · rw [hg]
    exact gone _

end Told

def acmeCommand : RegisterTenantCommand :=
  { slug := "acme", legalName := "Acme", displayName := "Acme", adminEmail := "ann@example.com"
    adminPassword := "secret password", adminFirstName := "Ann", adminLastName := "Roe" }

def acmeDraws : RegisterDraws :=
  { rawHash := .ok sampleHash, now := 1, tenantID := "t1", personID := "p1", stamp := "stamp-1"
    membershipID := "m1", roleID := fun n => "role-" ++ toString n }

/-- The store after a registration: the tenant, its administrator's membership and its roles. -/
def registeredStore : Store :=
  ((registerTenant acmeCommand acmeDraws).run ⟨.empty, .empty, .empty, .empty, .empty⟩).2

def sampleHistory : Option History :=
  Machine.run (execute "t1") ⟨registeredStore, []⟩
    [(.activate, day), (.markForDeletion "closing down", 2 * day)]

end Leadkart
