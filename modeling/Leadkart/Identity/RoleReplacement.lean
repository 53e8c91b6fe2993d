import Mathlib.Data.Finset.Basic
import Leadkart.Identity.Permission

/-!
# Replacing the permissions of a role
-/

namespace Leadkart.Role

open List Permission

def Event.replay (names : Finset String) : Event → Finset String
  | .permissionGranted _ _ permission _ => insert permission names
  | .permissionRevoked _ _ permission _ => names.erase permission
  | _ => names

def permissionNames (r : Role) : List String := r.permissions.map Permission.name

def missing : List String → List Permission → List Permission
  | _, [] => []
  | current, p :: ps =>
    if p.name ∈ current then missing current ps else p :: missing (p.name :: current) ps

variable {r : Role} {now : Time} {current : List String} {target : List Permission}

theorem appendMissing_eq : appendMissing r now current target =
    { r with
      permissions := r.permissions ++ missing current target
      events := r.events ++ (missing current target).map fun p =>
        .permissionGranted r.id r.tenantID p.name now } := by
  induction target generalizing r current with
  | nil => simp [appendMissing, missing]
  | cons p ps ih =>
    unfold appendMissing missing
    split
    · exact ih
    · rw [ih]
      simp [recordEvent]

variable {n : String}

theorem mem_names_missing : n ∈ (missing current target).map Permission.name ↔
    n ∈ target.map Permission.name ∧ n ∉ current := by
  induction target generalizing current with
  | nil => simp [missing]
  | cons p ps ih =>
    unfold missing
    split
    · rename_i hp
      rw [ih, map_cons, mem_cons]
      constructor
      · rintro ⟨hn, hc⟩
        exact ⟨.inr hn, hc⟩
      · rintro ⟨rfl | hn, hc⟩
        · exact absurd hp hc
        · exact ⟨hn, hc⟩
    · rename_i hp
      rw [map_cons, mem_cons, ih, map_cons, mem_cons, mem_cons, not_or]
      constructor
      · rintro (rfl | ⟨hn, -, hc⟩)
        · exact ⟨.inl rfl, hp⟩
        · exact ⟨.inr hn, hc⟩
      · rintro ⟨hn, hc⟩
        by_cases hnp : n = p.name
        · exact .inl hnp
        · exact .inr ⟨hn.resolve_left hnp, hnp, hc⟩

theorem nodup_names_missing : ((missing current target).map Permission.name).Nodup := by
  induction target generalizing current with
  | nil => exact nodup_nil
  | cons p ps ih =>
    unfold missing
    split
    · exact ih
    · rw [map_cons, nodup_cons]
      refine ⟨fun h => ?_, ih⟩
      exact (mem_names_missing.mp h).2 (mem_cons_self ..)

theorem foldl_replay_revoked (ps : List Permission) (na : Finset String) (id tenantID : String) :
    (ps.map fun p => Event.permissionRevoked id tenantID p.name now).foldl Event.replay na =
    na \ (ps.map Permission.name).toFinset := by
  induction ps generalizing na with
  | nil => simp
  | cons p ps ih =>
    rw [map_cons, foldl_cons, ih]
    ext n
    simp only [Event.replay, Finset.mem_sdiff, Finset.mem_erase, map_cons,
      toFinset_cons, Finset.mem_insert]
    tauto

theorem foldl_replay_granted (ps : List Permission) (na : Finset String) (id tenantID : String) :
    (ps.map fun p => Event.permissionGranted id tenantID p.name now).foldl Event.replay na =
    na ∪ (ps.map Permission.name).toFinset := by
  induction ps generalizing na with
  | nil => simp
  | cons p ps ih =>
    rw [map_cons, foldl_cons, ih]
    ext n
    simp only [Event.replay, Finset.mem_union, Finset.mem_insert, map_cons, toFinset_cons]
    tauto

/-! ## The replacement -/

def revokedBy (r : Role) (target : List Permission) : List Permission :=
  r.permissions.filter fun p => p.name ∉ target.map Permission.name

def keptBy (r : Role) (target : List Permission) : List Permission :=
  r.permissions.filter fun p => p.name ∈ target.map Permission.name

def appendedBy (r : Role) (target : List Permission) : List Permission :=
  missing r.permissionNames target

def replacementEvents (r : Role) (target : List Permission) (now : Time) : List Event :=
  ((r.revokedBy target).map fun p => .permissionRevoked r.id r.tenantID p.name now) ++
    (r.appendedBy target).map fun p => .permissionGranted r.id r.tenantID p.name now

theorem replacePermissions_eq (hl : r.deleted = false) (target : List (Option Permission)) :
    r.replacePermissions target now =
    ({ r with
          permissions := r.keptBy target.reduceOption ++ r.appendedBy target.reduceOption
          events := r.events ++ r.replacementEvents target.reduceOption now }, none) := by
  unfold replacePermissions
  rw [hl, if_neg Bool.false_ne_true]
  dsimp only
  rw [appendMissing_eq]
  simp only [replacementEvents, keptBy, revokedBy, appendedBy, permissionNames, append_assoc]

theorem mem_names_filter (ps : List Permission) (keep : String → Bool) (n : String) :
    n ∈ (ps.filter fun p => keep p.name).map Permission.name ↔
    n ∈ ps.map Permission.name ∧ keep n = true := by
  simp only [mem_map, mem_filter]
  constructor
  · rintro ⟨p, ⟨hp, hn⟩, rfl⟩
    exact ⟨⟨p, hp, rfl⟩, hn⟩
  · rintro ⟨⟨p, hp, rfl⟩, hn⟩
    exact ⟨p, ⟨hp, hn⟩, rfl⟩

theorem mem_names_revokedBy : n ∈ (r.revokedBy target).map Permission.name ↔
    n ∈ r.permissionNames ∧ n ∉ target.map Permission.name := by
  rw [revokedBy, mem_names_filter r.permissions (fun n => n ∉ target.map Permission.name),
    decide_eq_true_eq, permissionNames]

theorem mem_names_keptBy : n ∈ (r.keptBy target).map Permission.name ↔
    n ∈ r.permissionNames ∧ n ∈ target.map Permission.name := by
  rw [keptBy, mem_names_filter r.permissions (fun n => n ∈ target.map Permission.name),
    decide_eq_true_eq, permissionNames]

theorem mem_names_appendedBy : n ∈ (r.appendedBy target).map Permission.name ↔
    n ∈ target.map Permission.name ∧ n ∉ r.permissionNames := mem_names_missing

theorem mem_names_replaced : n ∈ (r.keptBy target ++ r.appendedBy target).map Permission.name ↔
    n ∈ target.map Permission.name := by
  rw [map_append, mem_append, mem_names_keptBy, mem_names_appendedBy]
  tauto

theorem nodup_names_replaced (hnd : r.permissionNames.Nodup) :
    ((r.keptBy target ++ r.appendedBy target).map Permission.name).Nodup := by
  rw [map_append, nodup_append]
  refine ⟨hnd.sublist (filter_sublist.map _), nodup_names_missing, ?_⟩
  rintro a ha b hb rfl
  exact (mem_names_appendedBy.mp hb).2 (mem_names_keptBy.mp ha).1

theorem foldl_replay_replacementEvents :
    (r.replacementEvents target now).foldl Event.replay r.permissionNames.toFinset =
    ((r.keptBy target ++ r.appendedBy target).map Permission.name).toFinset := by
  rw [replacementEvents, foldl_append, foldl_replay_revoked, foldl_replay_granted]
  ext n
  simp only [Finset.mem_union, Finset.mem_sdiff, mem_toFinset, mem_names_revokedBy,
    mem_names_replaced, mem_names_appendedBy]
  tauto

theorem nodup_replacementEvents (hnd : r.permissionNames.Nodup) :
    (r.replacementEvents target now).Nodup := by
  have hr : ((r.revokedBy target).map Permission.name).Nodup :=
    hnd.sublist (filter_sublist.map _)
  unfold replacementEvents
  rw [nodup_append]
  refine ⟨?_, ?_, ?_⟩
  · exact (hr.of_map _).map_on fun p hp q hq h =>
      inj_on_of_nodup_map hr hp hq (Event.permissionRevoked.inj h).2.2.1
  · exact (nodup_names_missing.of_map _).map_on fun p hp q hq h =>
      inj_on_of_nodup_map nodup_names_missing hp hq (Event.permissionGranted.inj h).2.2.1
  · rintro a ha b hb rfl
    obtain ⟨p, -, rfl⟩ := mem_map.mp ha
    obtain ⟨q, -, h⟩ := mem_map.mp hb
    cases h

theorem mem_replacementEvents {e : Event} : e ∈ r.replacementEvents target now ↔
    (∃ n ∈ (r.revokedBy target).map Permission.name, e = .permissionRevoked r.id r.tenantID n now) ∨
    ∃ n ∈ (r.appendedBy target).map Permission.name,
    e = .permissionGranted r.id r.tenantID n now := by
  unfold replacementEvents
  simp only [mem_append, mem_map, exists_exists_and_eq_and]
  simp only [eq_comm]

theorem replacePermissions_replay (r : Role) (target : List (Option Permission)) (now : Time)
    (hlive : r.deleted = false) (hnd : r.permissionNames.Nodup) :
    ∃ r' emitted, r.replacePermissions target now = (r', none) ∧ r'.events = r.events ++ emitted ∧
    r'.permissionNames.Nodup ∧
    r'.permissionNames.toFinset = (target.reduceOption.map Permission.name).toFinset ∧
    emitted.foldl Event.replay r.permissionNames.toFinset = r'.permissionNames.toFinset ∧
    emitted.Nodup ∧ (∀ e ∈ emitted, ∃ n, e = .permissionRevoked r.id r.tenantID n now ∨
    e = .permissionGranted r.id r.tenantID n now) ∧
    ∀ n, ¬ (.permissionRevoked r.id r.tenantID n now ∈ emitted ∧
    .permissionGranted r.id r.tenantID n now ∈ emitted) := by
  refine ⟨_, _, replacePermissions_eq hlive target, rfl, nodup_names_replaced hnd, ?_,
    foldl_replay_replacementEvents, nodup_replacementEvents hnd, ?_, ?_⟩
  · ext n
    rw [mem_toFinset, mem_toFinset]
    exact mem_names_replaced
  · intro e he
    rcases mem_replacementEvents.mp he with ⟨n, -, h⟩ | ⟨n, -, h⟩
    · exact ⟨n, .inl h⟩
    · exact ⟨n, .inr h⟩
  · -- a revoked name was there before, a granted one was not
    rintro n ⟨hr, hgr⟩
    rcases mem_replacementEvents.mp hr with ⟨n₁, h₁, h⟩ | ⟨n₁, -, h⟩
    · obtain rfl : n = n₁ := (Event.permissionRevoked.inj h).2.2.1
      rcases mem_replacementEvents.mp hgr with ⟨n₂, -, h⟩ | ⟨n₂, h₂, h⟩
      · cases h
      · obtain rfl : n = n₂ := (Event.permissionGranted.inj h).2.2.1
        exact (mem_names_appendedBy.mp h₂).2 (mem_names_revokedBy.mp h₁).1
    · cases h

def salesRole : Role :=
  { id := "r-1", tenantID := "t-1", name := "Sales", isSystemDefault := false,
    isSuperAdmin := false, hierarchyLevel := 50, createdAt := 0,
    permissions := [⟨31, "crm.leads.read"⟩, ⟨32, "crm.leads.assign"⟩] }

theorem salesRole_replaced : ∃ (r' : Role) (emitted : List Event), salesRole.replacePermissions
    [none, some ⟨33, "crm.leads.manage"⟩, some ⟨33, "crm.leads.manage"⟩,
    some ⟨90, "crm.leads.read"⟩] 7 = (r', none) ∧ r'.permissionNames.Nodup ∧
    r'.permissionNames.toFinset = {"crm.leads.manage", "crm.leads.read"} ∧
    emitted.foldl Event.replay {"crm.leads.read", "crm.leads.assign"} =
    r'.permissionNames.toFinset := by
  obtain ⟨r', emitted, hr, -, hnd, hn, hre, -⟩ := replacePermissions_replay salesRole
    [none, some ⟨33, "crm.leads.manage"⟩, some ⟨33, "crm.leads.manage"⟩,
      some ⟨90, "crm.leads.read"⟩] 7 rfl (by decide)
  refine ⟨r', emitted, hr, hnd, hn.trans (by decide), ?_⟩
  have hold : salesRole.permissionNames.toFinset = {"crm.leads.read", "crm.leads.assign"} := by
    decide
  rwa [hold] at hre

/-! ## Whole runs -/

/-- One call, whether or not it answers with an error. -/
inductive Step (r : Role) : Role → Prop
  | rename n now : Step r (r.rename n now).1
  | changeHierarchyLevel l : Step r (r.changeHierarchyLevel l).1
  | grantPermission p now : Step r (r.grantPermission p now).1
  | revokePermission p now : Step r (r.revokePermission p now).1
  | replacePermissions ps now : Step r (r.replacePermissions ps now).1
  | delete deletedBy now : Step r (r.delete deletedBy now).1

structure Kept (r₀ r : Role) : Prop where
  flag : r.isSystemDefault = r₀.isSystemDefault
  system : r₀.isSystemDefault = true →
    r.name = r₀.name ∧ r.hierarchyLevel = r₀.hierarchyLevel ∧ r.deleted = false
  level : hierarchyLevelMin ≤ r.hierarchyLevel ∧ r.hierarchyLevel ≤ hierarchyLevelMax
  nodup : r.permissionNames.Nodup
  replay : r.events.foldl Event.replay ∅ = r.permissionNames.toFinset

variable {r₀ r' : Role}

theorem step_of_deleted (h : r.deleted = true) (hs : Step r r') : r' = r := by
  cases hs <;> simp [rename, changeHierarchyLevel, grantPermission, revokePermission,
    replacePermissions, delete, h]

theorem names_eraseP (p : Permission) :
    (r.permissions.eraseP p.equal).map Permission.name = r.permissionNames.erase p.name := by
  rw [erase_eq_eraseP, permissionNames, eraseP_map]
  congr 2
  funext q
  exact Bool.eq_iff_iff.mpr (equal_iff.trans beq_iff_eq.symm)

theorem Kept.permissions (h : Kept r₀ r) {ps : List Permission} {es : List Event}
    (hn : (ps.map Permission.name).Nodup)
    (hf : es.foldl Event.replay r.permissionNames.toFinset = (ps.map Permission.name).toFinset) :
    Kept r₀ { r with permissions := ps, events := r.events ++ es } := by
  refine ⟨h.flag, h.system, h.level, hn, ?_⟩
  rw [foldl_append, h.replay, hf]
  rfl

theorem Kept.step (h : Kept r₀ r) (hs : Step r r') : Kept r₀ r' := by
  by_cases hd : r.deleted = true
  · rwa [step_of_deleted hd hs]
  have ⟨_, _, _, hn, _⟩ := h
  cases hs with
  | grantPermission p now =>
    unfold Role.grantPermission
    rw [if_neg hd]
    split
    · exact h
    next p =>
    split
    · exact h
    next hp =>
      have hne : p.name ∉ r.permissionNames := by
        intro hm
        obtain ⟨q, hq, he⟩ := mem_map.mp hm
        exact hp (any_eq_true.mpr ⟨q, hq, equal_iff.mpr he.symm⟩)
      refine h.permissions ?_ ?_ <;> rw [map_append]
      · exact hn.append (nodup_singleton _) (disjoint_singleton.mpr hne)
      · ext n
        show n ∈ insert p.name r.permissionNames.toFinset ↔
          n ∈ (r.permissionNames ++ [p.name]).toFinset
        rw [Finset.mem_insert, mem_toFinset, mem_toFinset, mem_append, mem_singleton, or_comm]
  | revokePermission p now =>
    unfold Role.revokePermission
    rw [if_neg hd]
    split
    · exact h
    split
    · exact h
    refine h.permissions ?_ ?_ <;> rw [names_eraseP]
    · exact hn.erase _
    · ext n
      simp [Event.replay, hn.mem_erase_iff]
  | replacePermissions ps now =>
    rw [replacePermissions_eq (Bool.not_eq_true _ ▸ hd)]
    exact h.permissions (nodup_names_replaced hn) foldl_replay_replacementEvents
  | _ =>
    -- the three that a role of the system refuses
    simp only [Role.rename, Role.changeHierarchyLevel, Role.delete, if_neg hd]
    repeat' split
    all_goals first | exact h | skip
    constructor <;> simp_all [recordEvent, Event.replay, permissionNames]

theorem role_runs_kept {id tenantID name : String} {sys sup : Bool} {level : Int}
    (h : new id tenantID name sys level sup now = .ok r₀) (hr : Relation.ReflTransGen Step r₀ r) :
    Kept r₀ r ∧ (r.deleted = true → ∀ r', Step r r' → r' = r) := by
  refine ⟨?_, fun hd _ => step_of_deleted hd⟩
  induction hr with
  | refl =>
    unfold new at h
    repeat' split at h
    all_goals cases h
    constructor <;> simp_all [permissionNames, Event.replay]
  | tail _ hs ih => exact ih.step hs

theorem role_runs_kept_sales : ∃ r, new "r" "t" "Sales" false 50 false 1 = .ok r ∧
    Kept r ((r.grantPermission (some ⟨31, "crm.leads.read"⟩) 2).1.delete "m" 3).1 := by
  have h : new "r" "t" "Sales" false 50 false 1 = .ok _ := rfl
  exact ⟨_, h, (role_runs_kept h (.tail (.single (.grantPermission ..)) (.delete ..))).1⟩

end Leadkart.Role
