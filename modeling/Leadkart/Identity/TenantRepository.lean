import Leadkart.Identity.Tenant
import Leadkart.Logic.Rmw

/-!
# Tenant commands side by side
-/

namespace Leadkart.Tenant

open List Option Function Leadkart.Machine Leadkart.Rmw

structure Statutory where
  (gst pan drugLicence : String := "")
  deriving DecidableEq

structure AdminContact where
  (phone street city district state stateCode pincode : String := "")
  deriving DecidableEq

structure Settings where
  minLength : Nat := 0
  (requireUppercase requireLowercase requireDigit requireSymbol : Bool := false)
  (maxFailedAttempts lockoutMinutes : Nat := 0)
  deriving DecidableEq

structure DisplayPreferences where
  (locale timeZone dateFormat currency : String := "")
  deriving DecidableEq

structure Details where
  statutory : Statutory := {}
  adminContact : AdminContact := {}
  settings : Settings := {}
  displayPreferences : DisplayPreferences := {}
  deriving DecidableEq

structure Record where
  tenant : Tenant
  details : Details

def updateDetail {α : Type} [DecidableEq α] (what : String) (get : Details → α)
    (set : α → Details → Details) (a : α) (r : Record) : Record × Option Err :=
  if r.tenant.status = .deleted then
    (r, some ⟨errInvalid, s!"tenant deleted; cannot update {what}"⟩)
  else if get r.details = a then (r, none)
  else ({ r with details := set a r.details }, none)

def updateStatutory : Statutory → Record → Record × Option Err :=
  updateDetail "statutory" Details.statutory fun a d => { d with statutory := a }

def updateAdminContact : AdminContact → Record → Record × Option Err :=
  updateDetail "admin contact" Details.adminContact fun a d => { d with adminContact := a }

def updateSettings : Settings → Record → Record × Option Err :=
  updateDetail "settings" Details.settings fun a d => { d with settings := a }

def updateDisplayPreferences : DisplayPreferences → Record → Record × Option Err :=
  updateDetail "display preferences" Details.displayPreferences
    fun a d => { d with displayPreferences := a }

inductive Command where
  | hardDelete (now : Time)
  | restore (now : Time)
  | markForDeletion (reason : String) (now : Time)
  | suspend (reason : String) (now : Time)
  | activate (now : Time)
  | updateProfile (legalName displayName : String) (now : Time)
  | updateStatutory (a : Statutory)
  | updateAdminContact (a : AdminContact)
  | updateSettings (a : Settings)
  | updateDisplayPreferences (a : DisplayPreferences)

namespace Command

def onTenant (op : Tenant → Result) (r : Record) : Record × Option Err :=
  ({ r with tenant := (op r.tenant).1 }, (op r.tenant).2)

def op : Command → Record → Record × Option Err
  | .hardDelete now => onTenant fun t => t.hardDelete now
  | .restore now => onTenant fun t => t.restoreFromDeletion now
  | .markForDeletion reason now => onTenant fun t => t.markForDeletion reason now
  | .suspend reason now => onTenant fun t => t.suspend reason now
  | .activate now => onTenant fun t => t.activate now
  | .updateProfile legalName displayName now =>
    onTenant fun t => t.updateProfile legalName displayName now
  | .updateStatutory a => Tenant.updateStatutory a
  | .updateAdminContact a => Tenant.updateAdminContact a
  | .updateSettings a => Tenant.updateSettings a
  | .updateDisplayPreferences a => Tenant.updateDisplayPreferences a

def isHardDelete : Command → Bool
  | .hardDelete _ => true
  | _ => false

def isRestore : Command → Bool
  | .restore _ => true
  | _ => false

end Command

structure TenantRow where
  (id slug legalName displayName : String)
  status : Status
  createdAt : Time
  (activatedAt suspendedAt : Option Time := none)
  details : Details := {}
  deletionScheduledAt : Option Time := none
  deletionReason : String := ""
  hardDeletedAt : Option Time := none
  deriving DecidableEq

structure Versioned where
  row : Option TenantRow
  version : Nat
  deriving DecidableEq

section

variable (hydrates admits : TenantRow → Bool)

def rowToTenant (row : TenantRow) : Option Record :=
  if (Slug.new row.slug).isOk && row.status ≠ .unknown && hydrates row then
    some
      { tenant :=
          { id := row.id
            slug := row.slug
            legalName := row.legalName
            displayName := row.displayName
            status := row.status
            createdAt := row.createdAt
            activatedAt := timeFromPg row.activatedAt
            suspendedAt := timeFromPg row.suspendedAt
            deletionScheduledAt := timeFromPg row.deletionScheduledAt
            deletionReason := row.deletionReason
            hardDeletedAt := timeFromPg row.hardDeletedAt }
        details := row.details }
  else none

def loadTenant : List Versioned → Option Record
  | [⟨some row, _⟩] => rowToTenant hydrates row
  | _ => none

def persistTenant (r : Record) (row : TenantRow) : TenantRow :=
  { row with
    legalName := r.tenant.legalName
    displayName := r.tenant.displayName
    status := r.tenant.status
    activatedAt := pgTimestamp r.tenant.activatedAt
    suspendedAt := pgTimestamp r.tenant.suspendedAt
    details := r.details
    deletionScheduledAt := pgTimestamp r.tenant.deletionScheduledAt
    deletionReason := r.tenant.deletionReason
    hardDeletedAt := pgTimestamp r.tenant.hardDeletedAt }

def updateByID (cmd : Command) : Txn Versioned Record where
  reads := 1
  attempt seen := (loadTenant hydrates seen).bind fun r =>
    match cmd.op r with
    | (r', none) => some r'
    | (_, some _) => none
  write r s :=
    match s.row with
    | none => some ⟨none, s.version + 1⟩
    | some row =>
      if admits (persistTenant r row) then some ⟨some (persistTenant r row), s.version + 1⟩
      else none

end

def Versioned.IsDeleted (v : Versioned) : Prop := ∃ row, v.row = some row ∧ row.status = .deleted

def Versioned.Dead (v : Versioned) : Prop := ∀ row, v.row = some row → row.status = .deleted

theorem Versioned.IsDeleted.dead {v : Versioned} (h : v.IsDeleted) : v.Dead := by
  obtain ⟨row, hrow, hst⟩ := h
  intro row' hrow'
  cases hrow.symm.trans hrow'
  exact hst

section

variable {hydrates admits : TenantRow → Bool} {cmd : Command} {s s' : Versioned} {r w : Record}

theorem Command.op_deleted (cmd : Command) (h : r.tenant.status = .deleted)
    (hok : (cmd.op r).2 = none) : (cmd.op r).1.tenant.status = .deleted := by
  have hd : ∀ {α : Type} [DecidableEq α] (what : String) (get : Details → α)
      (set : α → Details → Details) (a : α), (updateDetail what get set a r).2 ≠ none := by
    intro α _ what get set a
    simp [updateDetail, h]
  cases cmd with
  | hardDelete now => simp [op, onTenant, Tenant.hardDelete, h]
  | restore now => exact absurd hok (by simp [op, onTenant, Tenant.restoreFromDeletion, h, fail])
  | markForDeletion reason now =>
    simp only [op, onTenant, Tenant.markForDeletion, h] at hok
    split at hok <;> cases hok
  | suspend reason now =>
    simp only [op, onTenant, Tenant.suspend, h] at hok
    split at hok <;> cases hok
  | activate now => exact absurd hok (by simp [op, onTenant, Tenant.activate, h, fail])
  | updateProfile legalName displayName now =>
    simp only [op, onTenant, Tenant.updateProfile]
    repeat' split
    all_goals exact h
  | updateStatutory a | updateAdminContact a | updateSettings a | updateDisplayPreferences a =>
    exact absurd hok (hd _ _ _ a)

theorem Command.op_hardDelete (h : cmd.isHardDelete = true) (hok : (cmd.op r).2 = none) :
    (cmd.op r).1.tenant.status = .deleted := by
  cases cmd with
  | hardDelete now =>
    simp only [op, onTenant, Tenant.hardDelete] at hok ⊢
    cases hst : r.tenant.status <;> simp_all [fail, recordEvent]
  | _ => exact absurd h (by simp [isHardDelete])

theorem write_version (h : (updateByID hydrates admits cmd).write w s = some s') :
    s'.version = s.version + 1 := by
  simp only [updateByID] at h
  split at h
  · cases h
    rfl
  · split at h
    · cases h
      rfl
    · cases h

theorem updateByID_current (ha : (updateByID hydrates admits cmd).attempt [s] = some w)
    (hw : (updateByID hydrates admits cmd).write w s = some s') :
    ∃ row r, s.row = some row ∧ r.tenant.status = row.status ∧ cmd.op r = (w, none) ∧
    s'.row = some (persistTenant w row) := by
  obtain ⟨r, hl, hop⟩ := bind_eq_some_iff.mp ha
  obtain ⟨row?, version⟩ := s
  cases row? with
  | none => exact absurd hl (by simp [loadTenant])
  | some row =>
    refine ⟨row, r, rfl, ?_, ?_, ?_⟩
    · simp only [loadTenant, rowToTenant] at hl
      split at hl
      · cases hl
        rfl
      · cases hl
    · rcases hr : cmd.op r with ⟨r', _ | e⟩ <;> rw [hr] at hop
      · cases hop
        rfl
      · cases hop
    · simp only [updateByID] at hw
      split at hw
      · cases hw
        rfl
      · cases hw

theorem dead_of_current (hat : (updateByID hydrates admits cmd).attempt [s] = some w)
    (hw : (updateByID hydrates admits cmd).write w s = some s')
    (h : s.Dead ∨ cmd.isHardDelete = true) : s'.Dead := by
  obtain ⟨row, r, hrow, hs, hop, ha⟩ := updateByID_current hat hw
  have hw : w.tenant.status = .deleted := by
    have hok : (cmd.op r).2 = none := by rw [hop]
    rcases h with hdd | hde
    · have hd := cmd.op_deleted (hs.trans (hdd row hrow)) hok
      rwa [hop] at hd
    · have hd := Command.op_hardDelete hde hok
      rwa [hop] at hd
  intro row' hrow'
  cases ha.symm.trans hrow'
  exact hw

end

namespace Deletion

structure State (ι : Type*) where
  core : Rmw.State ι Versioned Record
  deleted : List ι

inductive Label (ι : Type*) where
  | txn (l : Rmw.Label ι)
  | delete (i : ι)
  deriving DecidableEq

def init (ι : Type*) (row : Option TenantRow) : State ι :=
  { core := Rmw.init ι Record ⟨row, 0⟩, deleted := [] }

variable {ι : Type*} [DecidableEq ι]

section

variable (hydrates admits : TenantRow → Bool) (cmds : ι → Command)

def step (st : State ι) : Label ι → Option (State ι)
  | .txn l => (Rmw.step (fun i => updateByID hydrates admits (cmds i)) st.core l).map fun core =>
      { st with core }
  | .delete i =>
    if (cmds i).isHardDelete ∧ st.core.lock = none ∧ (∃ c ∈ st.core.log, c.who = i) ∧
        i ∉ st.deleted then
      some
        { core := { st.core with store := ⟨none, st.core.store.version + 1⟩ }
          deleted := i :: st.deleted }
    else none

def Current (st : State ι) : Label ι → Prop
  | .txn l => Rmw.Current (fun v => v) st.core l
  | .delete _ => True

instance (st : State ι) : ∀ l : Label ι, Decidable (Current st l)
  | .txn l => inferInstanceAs (Decidable (Rmw.Current (fun v => v) st.core l))
  | .delete _ => .isTrue trivial

end

section

variable {hydrates admits : TenantRow → Bool} {cmds : ι → Command} {st st' : State ι} {i : ι}

theorem step_delete (h : step hydrates admits cmds st (.delete i) = some st') :
    (cmds i).isHardDelete = true ∧ st.core.lock = none ∧ (∃ c ∈ st.core.log, c.who = i) ∧
    st' = { core := { st.core with store := ⟨none, st.core.store.version + 1⟩ }
            deleted := i :: st.deleted } := by
  simp only [step] at h
  split at h
  · rename_i hc
    exact ⟨hc.1, hc.2.1, hc.2.2.1, (some.inj h).symm⟩
  · cases h

theorem step_txn {l : Rmw.Label ι} (h : step hydrates admits cmds st (.txn l) = some st') :
    ∃ core, Rmw.step (fun i => updateByID hydrates admits (cmds i)) st.core l = some core ∧
    st' = { st with core } := by
  obtain ⟨core, hc, rfl⟩ := map_eq_some_iff.mp h
  exact ⟨core, hc, rfl⟩

variable {ph : Phase Versioned Record}

omit [DecidableEq ι] in
theorem reading_of_update [DecidableEq ι] {p : ι → Phase Versioned Record} {j : ι}
    {seen : List Versioned} (h : Function.update p i ph j = .reading seen) :
    (j = i ∧ ph = .reading seen) ∨ (j ≠ i ∧ p j = .reading seen) := by
  by_cases hj : j = i
  · subst hj
    rw [update_self] at h
    exact .inl ⟨rfl, h⟩
  · rw [update_of_ne hj] at h
    exact .inr ⟨hj, h⟩

structure Sound (hydrates admits : TenantRow → Bool) (cmds : ι → Command) (st : State ι) :
    Prop where
  guarded : Guarded (fun v => v) (fun i => updateByID hydrates admits (cmds i)) st.core
  seen : ∀ i seen, st.core.phase i = .reading seen →
    seen.length ≤ 1 ∧ ∀ v ∈ seen, v.version ≤ st.core.store.version
  dead : ∀ c ∈ st.core.log, c.stored.IsDeleted ∨ (cmds c.who).isHardDelete = true →
    st.core.store.Dead
  final : st.core.log.Pairwise fun newer older => older.stored.IsDeleted → newer.stored.Dead
  issued : ∀ i ∈ st.deleted, ∃ c ∈ st.core.log, c.who = i

omit [DecidableEq ι] in
theorem sound_init (row : Option TenantRow) : Sound hydrates admits cmds (init ι row) where
  guarded := guarded_init _ _ _
  seen := by
    intro i seen h
    obtain rfl : [] = seen := by simpa [init, Rmw.init] using h
    simp
  dead := by intro c hc; cases hc
  final := List.Pairwise.nil
  issued := by intro i hi; cases hi

variable {core : Rmw.State ι Versioned Record}

omit [DecidableEq ι] in
theorem Sound.move (hs : Sound hydrates admits cmds st)
    (hg : Guarded (fun v => v) (fun i => updateByID hydrates admits (cmds i)) core)
    (hst : core.store = st.core.store) (hl : core.log = st.core.log)
    (hse : ∀ i seen, core.phase i = .reading seen →
    seen.length ≤ 1 ∧ ∀ v ∈ seen, v.version ≤ st.core.store.version) :
    Sound hydrates admits cmds { st with core } where
  guarded := hg
  seen := by rw [hst]; exact hse
  dead := by rw [hst, hl]; exact hs.dead
  final := by rw [hl]; exact hs.final
  issued := by rw [hl]; exact hs.issued

theorem Sound.commit (hs : Sound hydrates admits cmds st)
    (h : Rmw.step (fun i => updateByID hydrates admits (cmds i)) st.core (.commit i) = some core) :
    Sound hydrates admits cmds { st with core } := by
  have hg := hs.guarded.step_commit h
  obtain ⟨seen, w, s', hp, hw, rfl⟩ := step_commit h
  obtain ⟨hl, ha⟩ := hs.guarded.attempted i seen w hp
  obtain ⟨v, rfl⟩ := length_eq_one_iff.mp hl
  obtain rfl : v = st.core.store := hs.guarded.current i _ w hp v (mem_singleton_self v)
  have hve := write_version hw
  refine ⟨hg, ?_, ?_, ?_, ?_⟩
  · intro j seen hj
    rcases reading_of_update hj with ⟨-, hab⟩ | ⟨-, hj⟩
    · cases hab
    · obtain ⟨hl, hold⟩ := hs.seen j seen hj
      refine ⟨hl, fun v hv => ?_⟩
      have := hold v hv
      show v.version ≤ s'.version
      omega
  · intro c hc hca
    rcases mem_cons.mp hc with rfl | hc
    · rcases hca with hd | hde
      · exact hd.dead
      · exact dead_of_current ha hw (.inr hde)
    · exact dead_of_current ha hw (.inl (hs.dead c hc hca))
  · refine pairwise_cons.mpr ⟨fun c hc hd => ?_, hs.final⟩
    exact dead_of_current ha hw (.inl (hs.dead c hc (.inl hd)))
  · intro j hj
    obtain ⟨c, hc, hwh⟩ := hs.issued j hj
    exact ⟨c, mem_cons_of_mem _ hc, hwh⟩

theorem Sound.delete (hs : Sound hydrates admits cmds st)
    (h : step hydrates admits cmds st (.delete i) = some st') : Sound hydrates admits cmds st' := by
  obtain ⟨-, hl, hc, rfl⟩ := step_delete h
  refine ⟨hs.guarded.of_unlocked hl _, ?_, ?_, hs.final, ?_⟩
  · intro j seen hj
    obtain ⟨hle, hold⟩ := hs.seen j seen hj
    refine ⟨hle, fun v hv => ?_⟩
    have := hold v hv
    show v.version ≤ st.core.store.version + 1
    omega
  · intro c _ _ row hrow
    cases hrow
  · intro j hj
    rcases mem_cons.mp hj with rfl | hj
    · exact hc
    · exact hs.issued j hj

variable {l : Label ι}

theorem Sound.step (hs : Sound hydrates admits cmds st) (hc : Current st l)
    (h : step hydrates admits cmds st l = some st') : Sound hydrates admits cmds st' := by
  cases l with
  | delete i => exact hs.delete h
  | txn l =>
    obtain ⟨core, hco, rfl⟩ := step_txn h
    have hg := hs.guarded.step hc hco
    cases l with
    | commit i => exact hs.commit hco
    | read i =>
      obtain ⟨seen, hp, hlt, rfl⟩ := step_read hco
      refine hs.move hg rfl rfl fun j seen' hj => ?_
      rcases reading_of_update hj with ⟨-, heq⟩ | ⟨-, hj⟩
      · obtain rfl := Phase.reading.inj heq
        obtain ⟨-, hold⟩ := hs.seen i seen hp
        have hlt : seen.length < 1 := hlt
        refine ⟨by simp only [length_append, length_singleton]; omega, fun v hv => ?_⟩
        rcases mem_append.mp hv with hv | hv
        · exact hold v hv
        · obtain rfl := mem_singleton.mp hv
          exact Nat.le_refl _
      · exact hs.seen j seen' hj
    | write i =>
      obtain ⟨seen, w, -, -, -, -, rfl⟩ := step_write hco
      refine hs.move hg rfl rfl fun j seen' hj => ?_
      rcases reading_of_update hj with ⟨-, heq⟩ | ⟨-, hj⟩
      · cases heq
      · exact hs.seen j seen' hj
    | abort i =>
      obtain ⟨-, rfl⟩ := step_abort hco
      refine hs.move hg rfl rfl fun j seen' hj => ?_
      rcases reading_of_update hj with ⟨-, heq⟩ | ⟨-, hj⟩
      · cases heq
      · exact hs.seen j seen' hj

variable {ls : List (Label ι)}

theorem sound_run {row : Option TenantRow}
    (hC : Along (step hydrates admits cmds) Current (init ι row) ls)
    (hr : run (step hydrates admits cmds) (init ι row) ls = some st) :
    Sound hydrates admits cmds st :=
  run_invariant (sound_init row) (fun _ _ _ hs hc h => hs.step hc h) hC hr

structure Barred (i : ι) (st : State ι) : Prop where
  log : ∀ c ∈ st.core.log, c.who ≠ i
  deleted : i ∉ st.deleted
  phase : st.core.phase i = .finished ∨
    ∃ v, st.core.phase i = .reading [v] ∧ v.version < st.core.store.version

omit [DecidableEq ι] in
theorem Barred.not_writing (hb : Barred i st) (seen : List Versioned) (w : Record) :
    st.core.phase i ≠ .writing seen w := by
  intro hw
  rcases hb.phase with hp | ⟨v, hp, -⟩
  · exact absurd (hp.symm.trans hw) (by simp)
  · exact absurd (hp.symm.trans hw) (by simp)

theorem Barred.of_ne (hb : Barred i st) {j : ι} (hj : j ≠ i)
    (hph : core.phase = Function.update st.core.phase j ph)
    (hl : ∀ c ∈ core.log, c.who = j ∨ c ∈ st.core.log)
    (hv : st.core.store.version ≤ core.store.version) : Barred i { st with core } where
  log := by
    intro c hc hw
    rcases hl c hc with hcj | hold
    · exact hj (hcj.symm.trans hw)
    · exact hb.log c hold hw
  deleted := hb.deleted
  phase := by
    rw [hph, update_of_ne (Ne.symm hj)]
    rcases hb.phase with hp | ⟨v, hp, hlt⟩
    · exact .inl hp
    · exact .inr ⟨v, hp, by show v.version < core.store.version; omega⟩

theorem Barred.step (hb : Barred i st) (hc : Current st l)
    (h : step hydrates admits cmds st l = some st') : Barred i st' := by
  cases l with
  | delete j =>
    obtain ⟨-, -, ⟨c, hm, hwh⟩, rfl⟩ := step_delete h
    have hj : j ≠ i := fun hji => hb.log c hm (hwh.trans hji)
    refine ⟨hb.log, by simpa [Ne.symm hj] using hb.deleted, ?_⟩
    rcases hb.phase with hp | ⟨v, hp, hlt⟩
    · exact .inl hp
    · exact .inr ⟨v, hp, Nat.lt_succ_of_lt hlt⟩
  | txn l =>
    obtain ⟨core, hco, rfl⟩ := step_txn h
    cases l with
    | read j =>
      obtain ⟨seen, hp, hlt, rfl⟩ := step_read hco
      have hlt : seen.length < 1 := hlt
      have hj : j ≠ i := by
        rintro rfl
        rcases hb.phase with hd | ⟨v, hr, -⟩
        · exact absurd (hd.symm.trans hp) (by simp)
        · obtain rfl := Phase.reading.inj (hr.symm.trans hp)
          exact absurd hlt (by simp)
      exact hb.of_ne hj rfl (fun _ hc => .inr hc) (Nat.le_refl _)
    | write j =>
      obtain ⟨seen, w, hp, -, -, -, rfl⟩ := step_write hco
      have hj : j ≠ i := by
        rintro rfl
        rcases hb.phase with hd | ⟨v, hr, hlt⟩
        · exact absurd (hd.symm.trans hp) (by simp)
        · have hcu : ∀ s ∈ [v], s = st.core.store := by
            simpa only [Current, Rmw.Current, hr] using hc
          rw [hcu v (mem_singleton_self v)] at hlt
          exact absurd hlt (Nat.lt_irrefl _)
      exact hb.of_ne hj rfl (fun _ hc => .inr hc) (Nat.le_refl _)
    | commit j =>
      obtain ⟨seen, w, s', hp, hw, rfl⟩ := step_commit hco
      have hj : j ≠ i := by
        rintro rfl
        exact hb.not_writing seen w hp
      refine hb.of_ne hj rfl (fun c hc => ?_) ?_
      · rcases mem_cons.mp hc with rfl | hc
        · exact .inl rfl
        · exact .inr hc
      · have := write_version hw
        show st.core.store.version ≤ s'.version
        omega
    | abort j =>
      obtain ⟨-, rfl⟩ := step_abort hco
      by_cases hj : j = i
      · subst hj
        exact ⟨hb.log, hb.deleted, .inl (update_self ..)⟩
      · exact hb.of_ne hj rfl (fun _ hc => .inr hc) (Nat.le_refl _)

theorem loaded_step (hi : st.core.phase i ≠ .reading [])
    (h : step hydrates admits cmds st l = some st') : st'.core.phase i ≠ .reading [] := by
  have hu : ∀ (j : ι) (ph : Phase Versioned Record), ph ≠ .reading [] →
      update st.core.phase j ph i ≠ .reading [] := by
    intro j ph hph hr
    rcases reading_of_update hr with ⟨-, heq⟩ | ⟨-, hold⟩
    · exact hph heq
    · exact hi hold
  cases l with
  | delete j =>
    obtain ⟨-, -, -, rfl⟩ := step_delete h
    exact hi
  | txn l =>
    obtain ⟨core, hc, rfl⟩ := step_txn h
    cases l with
    | read j =>
      obtain ⟨seen, -, -, rfl⟩ := step_read hc
      exact hu j _ (by simp)
    | write j =>
      obtain ⟨seen, w, -, -, -, -, rfl⟩ := step_write hc
      exact hu j _ (by simp)
    | commit j =>
      obtain ⟨seen, w, s', -, -, rfl⟩ := step_commit hc
      exact hu j _ (by simp)
    | abort j =>
      obtain ⟨-, rfl⟩ := step_abort hc
      exact hu j _ (by simp)

theorem loaded_of_mem {s : State ι} (hm : Label.txn (.read i) ∈ ls)
    (hr : run (step hydrates admits cmds) s ls = some st) : st.core.phase i ≠ .reading [] := by
  obtain ⟨ls₁, ls₂, rfl⟩ := append_of_mem hm
  rw [run_append] at hr
  obtain ⟨s₁, -, hr⟩ := bind_eq_some_iff.mp hr
  obtain ⟨s₂, hre, hr⟩ := run_cons_eq_some.mp hr
  obtain ⟨core, hc, rfl⟩ := step_txn hre
  obtain ⟨seen, -, -, rfl⟩ := step_read hc
  refine run_keeps (P := fun st : State ι => st.core.phase i ≠ .reading []) ?_
    (fun _ _ _ hi h => loaded_step hi h) hr
  show update s₁.core.phase i (.reading (seen ++ [s₁.core.store])) i ≠ _
  rw [update_self]
  simp

structure Restores (cmds : ι → Command) (r : ι) (st st' : State ι) : Prop where
  restore : (cmds r).isRestore = true
  before : ∃ row, st.core.store.row = some row ∧ row.status = .pendingDeletion
  after : ∃ row, st'.core.store.row = some row ∧ row.status = .active

theorem barred_of_restore (hs : Sound hydrates admits cmds st) {r : ι}
    (h : step hydrates admits cmds st (.txn (.commit r)) = some st')
    (hr : Restores cmds r st st') (hd : (cmds i).isHardDelete = true)
    (hlo : st.core.phase i ≠ .reading []) : Barred i st' := by
  obtain ⟨core, hco, rfl⟩ := step_txn h
  obtain ⟨seen, w, s', hp, hw, rfl⟩ := step_commit hco
  have hri : r ≠ i := by
    rintro rfl
    have hre := hr.restore
    cases hcm : cmds r <;> simp_all [Command.isRestore, Command.isHardDelete]
  -- A hard delete that had committed would have left no tenant in `pending_deletion`.
  have hlg : ∀ c ∈ st.core.log, c.who ≠ i := by
    intro c hc hwh
    obtain ⟨row, hrow, hpe⟩ := hr.before
    have hde := hs.dead c hc (.inr (hwh ▸ hd))
    exact absurd (hpe.symm.trans (hde row hrow)) (by decide)
  refine ⟨?_, ?_, ?_⟩
  · intro c hc
    rcases mem_cons.mp hc with rfl | hc
    · exact hri
    · exact hlg c hc
  · intro hm
    obtain ⟨c, hc, hwh⟩ := hs.issued i hm
    exact hlg c hc hwh
  · have hsa : update st.core.phase r .finished i = st.core.phase i := update_of_ne (Ne.symm hri) ..
    cases hph : st.core.phase i with
    | finished => exact .inl (hsa.trans hph)
    | writing seen' w' =>
      have hl := hs.guarded.holder i seen' w' hph
      rw [hs.guarded.holder r seen w hp] at hl
      exact absurd (some.inj hl) hri
    | reading seen' =>
      obtain ⟨hln, hold⟩ := hs.seen i seen' hph
      rcases seen' with _ | ⟨v, _ | ⟨v', rest⟩⟩
      · exact absurd hph hlo
      · refine .inr ⟨v, hsa.trans hph, ?_⟩
        have hle := hold v (mem_singleton_self v)
        have hv := write_version hw
        show v.version < s'.version
        omega
      · exact absurd hln (by simp)

/-- Commands that write the row version they loaded never undo a deletion. -/
theorem deletion_final_of_current (hydrates admits : TenantRow → Bool) (cmds : ι → Command)
    (row : Option TenantRow) (ls : List (Label ι)) (st : State ι)
    (hC : Along (step hydrates admits cmds) Current (init ι row) ls)
    (hr : run (step hydrates admits cmds) (init ι row) ls = some st) :
    (st.core.log.Pairwise fun newer older => older.stored.IsDeleted → newer.stored.Dead) ∧
    ∀ (ls₁ ls₂ : List (Label ι)) (r : ι) (s₁ s₂ : State ι) (i : ι),
    ls = ls₁ ++ .txn (.commit r) :: ls₂ →
    run (step hydrates admits cmds) (init ι row) ls₁ = some s₁ →
    step hydrates admits cmds s₁ (.txn (.commit r)) = some s₂ → Restores cmds r s₁ s₂ →
    (cmds i).isHardDelete = true → .txn (.read i) ∈ ls₁ →
    (∀ c ∈ st.core.log, c.who ≠ i) ∧ i ∉ st.deleted := by
  refine ⟨(sound_run hC hr).final, ?_⟩
  rintro ls₁ ls₂ r s₁ s₂ i rfl hr₁ hs hre hd hm
  have hC₂ : Along (step hydrates admits cmds) Current s₁ (.txn (.commit r) :: ls₂) :=
    hC.append_right hr₁
  have hr₂ : run (step hydrates admits cmds) s₂ ls₂ = some st := by
    rw [run_append, hr₁, bind_some, run_cons, hs] at hr
    exact hr
  have hba : Barred i s₂ :=
    barred_of_restore (sound_run hC.append_left hr₁) hs hre hd (loaded_of_mem hm hr₁)
  have he : Barred i st :=
    run_invariant hba (fun _ _ _ hb hc h => hb.step hc h) ((along_cons hs).mp hC₂).2 hr₂
  exact ⟨he.log, he.deleted⟩

end

def sampleRow : TenantRow :=
  { id := "t1", slug := "acme", legalName := "Acme", displayName := "Acme"
    status := .pendingDeletion, createdAt := 1, activatedAt := some 2
    deletionScheduledAt := some 5, deletionReason := "closing down" }

def sampleCommands : Fin 2 → Command
  | 0 => .hardDelete 9
  | 1 => .restore 8

def settingsCommands : Fin 2 → Command
  | 0 => .hardDelete 9
  | 1 => .updateSettings { minLength := 12, maxFailedAttempts := 5, lockoutMinutes := 15 }

def sampleStep (cmds : Fin 2 → Command) : State (Fin 2) → Label (Fin 2) → Option (State (Fin 2)) :=
  step (fun _ => true) (fun _ => true) cmds

def sampleInit : State (Fin 2) := init (Fin 2) (some sampleRow)

def restoring : List (Label (Fin 2)) :=
  [.txn (.read ⟨0, Nat.two_pos⟩), .txn (.read ⟨1, Nat.one_lt_two⟩),
    .txn (.write ⟨1, Nat.one_lt_two⟩)]

theorem sample_restores : ∃ s₁ s₂, run (sampleStep sampleCommands) sampleInit restoring = some s₁ ∧
    sampleStep sampleCommands s₁ (.txn (.commit 1)) = some s₂ ∧
    Restores sampleCommands 1 s₁ s₂ := by
  obtain ⟨s₁, h₁, hr⟩ := (Option.any_eq_true ..).mp (by decide +kernel :
    (run (sampleStep sampleCommands) sampleInit restoring).any (fun s₁ =>
      s₁.core.store.row.any (fun row => row.status = .pendingDeletion) &&
      (sampleStep sampleCommands s₁ (.txn (.commit 1))).any fun s₂ =>
        s₂.core.store.row.any fun row => row.status = .active) = true)
  obtain ⟨hb, hc⟩ := Bool.and_eq_true_iff.mp hr
  obtain ⟨s₂, h₂, ha⟩ := (Option.any_eq_true ..).mp hc
  obtain ⟨row₁, hrow₁, hst₁⟩ := (Option.any_eq_true ..).mp hb
  obtain ⟨row₂, hrow₂, hst₂⟩ := (Option.any_eq_true ..).mp ha
  exact ⟨s₁, s₂, h₁, h₂, rfl, ⟨row₁, hrow₁, of_decide_eq_true hst₁⟩,
    ⟨row₂, hrow₂, of_decide_eq_true hst₂⟩⟩

def overtaken : List (Label (Fin 2)) :=
  restoring ++ [.txn (.commit ⟨1, Nat.one_lt_two⟩), .txn (.abort ⟨0, Nat.two_pos⟩)]

theorem deletion_final_when_overtaken :
    ∃ st, run (sampleStep sampleCommands) sampleInit overtaken = some st ∧
    st.core.store.row.map TenantRow.status = some .active ∧
    (∀ c ∈ st.core.log, c.who ≠ 0) ∧ 0 ∉ st.deleted := by
  obtain ⟨s₁, s₂, h₁, h₂, hre⟩ := sample_restores
  refine exists_some (P := fun st => st.core.store.row.map TenantRow.status = some .active)
    (by decide +kernel) fun st hr ha => ⟨ha, ?_⟩
  exact (deletion_final_of_current (fun _ => true) (fun _ => true) sampleCommands
    (some sampleRow) overtaken st (by decide +kernel) hr).2
      restoring [.txn (.abort 0)] 1 s₁ s₂ 0 rfl h₁ h₂ hre rfl (by decide)

theorem deletion_not_final :
    (∃ s₁ s₂ st, run (sampleStep sampleCommands) sampleInit restoring = some s₁ ∧
    sampleStep sampleCommands s₁ (.txn (.commit 1)) = some s₂ ∧ Restores sampleCommands 1 s₁ s₂ ∧
    run (sampleStep sampleCommands) s₂ [.txn (.write 0), .txn (.commit 0), .delete 0] = some st ∧
    (st.core.log.any fun c => c.who = 0 ∧ c.stored.row.map TenantRow.status = some .deleted) ∧
    0 ∈ st.deleted ∧ st.core.store.row = none) ∧
    ∃ st, run (sampleStep settingsCommands) sampleInit [.txn (.read 1), .txn (.read 0),
    .txn (.write 0), .txn (.commit 0), .txn (.write 1), .txn (.commit 1)] = some st ∧
    st.core.log.map (fun c => c.stored.row.map TenantRow.status) =
    [some .pendingDeletion, some .deleted] := by
  constructor
  · obtain ⟨s₁, s₂, h₁, h₂, hre⟩ := sample_restores
    obtain ⟨st, hr, hf⟩ := (Option.any_eq_true ..).mp (by decide +kernel :
      (run (sampleStep sampleCommands) sampleInit (restoring ++ [.txn (.commit 1), .txn (.write 0),
        .txn (.commit 0), .delete 0])).any (fun st =>
          (st.core.log.any fun c => c.who = 0 ∧ c.stored.row.map TenantRow.status = some .deleted) ∧
          0 ∈ st.deleted ∧ st.core.store.row = none) = true)
    rw [run_append, h₁, bind_some, run_cons, h₂] at hr
    exact ⟨s₁, s₂, st, h₁, h₂, hre, hr, of_decide_eq_true hf⟩
  · exact exists_some (by decide +kernel) fun _ _ h => h

end Deletion

end Leadkart.Tenant
