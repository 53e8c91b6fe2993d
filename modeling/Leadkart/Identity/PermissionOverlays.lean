import Leadkart.Identity.MembershipRepository

/-!
# The permission overlay of a membership
-/

namespace Leadkart.Membership

open List Permission

inductive Op where
  | deactivate (reason : String)
  | reactivate
  | assignRole (roleID : String)
  | revokeRole (roleID : String)
  | grantPermission (p : Option Permission) (expiresAt : Time)
  | revokePermission (p : Option Permission)
  | replacePermissionOverlays (granted revoked : List (Option Permission))
  | updateProfile (designation department statusMessage : String)
  | assignManager (managerID : String)
  | removeManager

def requirePermission (m : Membership) (f : Permission → Result) : Option Permission → Result
  | none => m.fail "permission required"
  | some p => f p

def Op.apply (now : Time) (m : Membership) : Op → Result
  | .deactivate reason => m.deactivate reason now
  | .reactivate => m.reactivate now
  | .assignRole roleID => m.assignRole roleID now
  | .revokeRole roleID => m.revokeRole roleID now
  | .grantPermission p expiresAt =>
    m.requirePermission (fun p => m.grantPermission p expiresAt now) p
  | .revokePermission p => m.requirePermission (fun p => m.revokePermission p now) p
  | .replacePermissionOverlays granted revoked =>
    m.replacePermissionOverlays granted.reduceOption revoked.reduceOption now
  | .updateProfile designation department statusMessage =>
    m.updateProfile designation department statusMessage now
  | .assignManager managerID => m.assignManager managerID now
  | .removeManager => m.removeManager now

def after (m : Membership) (calls : List (Op × Time)) : Membership :=
  calls.foldl (fun m c => (c.1.apply c.2 m).1) m

variable {m : Membership} {p : Permission} {e t now : Time} {op : Op}

theorem grantPermission_revoked (m : Membership) (p : Permission) (e t : Time) :
    (m.grantPermission p e t).1.revokedPermissions = m.revokedPermissions.eraseP p.equal := by
  unfold grantPermission
  dsimp only
  split
  · split <;> rfl
  · rfl

theorem setExpiry_same {gs : List GrantedOverride} {g : GrantedOverride}
    (h : gs.find? (fun g => g.permission.equal p) = some g) (hg : g.expiresAt = e) :
    setExpiry p e gs = gs := by
  induction gs with
  | nil => rfl
  | cons g' gs ih =>
    unfold setExpiry
    rw [find?_cons] at h
    cases hp : g'.permission.equal p with
    | true =>
      simp only [hp] at h
      rw [if_pos rfl, Option.some.inj h, ← hg]
    | false =>
      simp only [hp] at h
      rw [if_neg (by simp), ih h]

theorem grantPermission_granted (m : Membership) (p : Permission) (e t : Time) :
    (m.grantPermission p e t).1.grantedPermissions =
      if (m.grantedPermissions.find? fun g => g.permission.equal p).isSome then
        setExpiry p e m.grantedPermissions else m.grantedPermissions ++ [⟨p, e⟩] := by
  unfold grantPermission
  dsimp only
  split
  · rename_i g hf
    rw [hf, Option.isSome_some, if_pos rfl]
    split
    · rename_i hg
      exact (setExpiry_same hf hg).symm
    · rfl
  · rename_i hf
    rw [hf, Option.isSome_none, if_neg (by simp)]
    rfl

theorem map_permission_setExpiry (gs : List GrantedOverride) :
    (setExpiry p e gs).map GrantedOverride.permission = gs.map GrantedOverride.permission := by
  induction gs with
  | nil => rfl
  | cons g gs ih =>
    unfold setExpiry
    split
    · rfl
    · rw [map_cons, map_cons, ih]

theorem revokePermission_granted (m : Membership) (p : Permission) (t : Time) :
    (m.revokePermission p t).1.grantedPermissions =
    m.grantedPermissions.eraseP fun g => g.permission.equal p := by
  unfold revokePermission
  dsimp only
  split <;> rfl

theorem revokePermission_revoked (m : Membership) (p : Permission) (t : Time) :
    (m.revokePermission p t).1.revokedPermissions =
      if m.revokedPermissions.any p.equal then m.revokedPermissions
    else m.revokedPermissions ++ [p] := by
  unfold revokePermission
  dsimp only
  split <;> rfl

structure OverlaysApart (m : Membership) : Prop where
  granted : (m.grantedPermissions.map fun g => g.permission.name).Nodup
  revoked : (m.revokedPermissions.map Permission.name).Nodup
  apart : ∀ g ∈ m.grantedPermissions, ∀ p ∈ m.revokedPermissions, g.permission.name ≠ p.name

def overlayNames (m : Membership) : List String :=
  (m.grantedPermissions.map GrantedOverride.permission ++ m.revokedPermissions).map Permission.name

theorem overlaysApart_iff : m.OverlaysApart ↔ m.overlayNames.Nodup := by
  unfold overlayNames
  rw [map_append, nodup_append, map_map]
  constructor
  · rintro ⟨hg, hr, hgr⟩
    refine ⟨hg, hr, ?_⟩
    intro a ha b hb
    obtain ⟨g, hgm, rfl⟩ := mem_map.mp ha
    obtain ⟨q, hq, rfl⟩ := mem_map.mp hb
    exact hgr g hgm q hq
  · rintro ⟨hg, hr, hgr⟩
    exact ⟨hg, hr, fun g hgm q hq =>
      hgr _ (mem_map_of_mem hgm) _ (mem_map_of_mem hq)⟩

theorem overrideRows_key_iff :
    (m.overrideRows.map OverrideRow.permissionName).Nodup ↔ m.OverlaysApart := by
  rw [overlaysApart_iff]
  have hp := (perm_insertionSort (fun a b : OverrideRow =>
    a.permissionName ≤ b.permissionName)
    ((m.grantedPermissions.map fun g =>
      OverrideRow.mk g.permission.name .granted (pgTimestamp g.expiresAt)) ++
      m.revokedPermissions.map fun p => OverrideRow.mk p.name .revoked none)).map
        OverrideRow.permissionName
  rw [overrideRows, hp.nodup_iff, overlayNames]
  simp only [map_append, map_map, Function.comp_def]

theorem persist_eq_none (h : ¬ m.OverlaysApart) (s : StoredMembership) : m.persist s = none := by
  unfold persist
  split
  · exact dif_neg fun hk => h (overrideRows_key_iff.mp hk)
  · rfl

variable {k : String}

theorem mem_eraseP_key {α : Type*} {key : α → String} {f : α → Bool} {l : List α}
    (hnd : (l.map key).Nodup) (hf : ∀ x, f x = true ↔ key x = k) {y : α} :
    y ∈ l.eraseP f ↔ y ∈ l ∧ key y ≠ k := by
  induction l with
  | nil => simp
  | cons x l ih =>
    rw [map_cons, nodup_cons] at hnd
    by_cases hx : f x = true
    · rw [eraseP_cons_of_pos hx, mem_cons]
      have hxk : key x = k := (hf x).mp hx
      constructor
      · intro hy
        exact ⟨.inr hy, fun hyk => hnd.1 (hxk ▸ hyk ▸ mem_map_of_mem hy)⟩
      · rintro ⟨rfl | hy, hyk⟩
        · exact absurd hxk hyk
        · exact hy
    · rw [eraseP_cons_of_neg hx, mem_cons, mem_cons, ih hnd.2]
      constructor
      · rintro (rfl | ⟨hy, hyk⟩)
        · exact ⟨.inl rfl, fun h => hx ((hf _).mpr h)⟩
        · exact ⟨.inr hy, hyk⟩
      · rintro ⟨rfl | hy, hyk⟩
        · exact .inl rfl
        · exact .inr ⟨hy, hyk⟩

theorem names_eraseP {α : Type*} {key : α → String} {f : α → Bool} {l : List α}
    (hnd : (l.map key).Nodup) (hf : ∀ x, f x = true ↔ key x = k) : k ∉ (l.eraseP f).map key := by
  intro h
  obtain ⟨x, hx, hxk⟩ := mem_map.mp h
  exact ((mem_eraseP_key hnd hf).mp hx).2 hxk

theorem nodup_overlayNames_grantPermission (h : m.overlayNames.Nodup) :
    (m.grantPermission p e t).1.overlayNames.Nodup := by
  have hr := names_eraseP (overlaysApart_iff.mpr h).revoked
    (f := p.equal) (k := p.name) fun x => by rw [equal_iff, eq_comm]
  have hs : (((m.grantedPermissions.map GrantedOverride.permission) ++
      m.revokedPermissions.eraseP p.equal).map name).Sublist m.overlayNames :=
    (eraseP_sublist.append_left _).map _
  unfold overlayNames
  rw [grantPermission_granted, grantPermission_revoked]
  split
  · rw [map_permission_setExpiry]
    exact h.sublist hs
  · rename_i hnone
    have hn : p.name ∉ ((m.grantedPermissions.map GrantedOverride.permission) ++
        m.revokedPermissions.eraseP p.equal).map name := by
      rw [map_append, mem_append, not_or]
      refine ⟨fun hm => ?_, hr⟩
      obtain ⟨q, hq, hname⟩ := mem_map.mp hm
      obtain ⟨g, hg, rfl⟩ := mem_map.mp hq
      exact hnone (find?_isSome.mpr ⟨g, hg, equal_iff.mpr hname⟩)
    have ha : (m.grantedPermissions ++ [GrantedOverride.mk p e]).map
        GrantedOverride.permission = m.grantedPermissions.map GrantedOverride.permission ++ [p] :=
      map_append
    rw [ha, append_assoc]
    refine ((perm_middle (a := p)).map name).nodup_iff.mpr ?_
    exact nodup_cons.mpr ⟨hn, h.sublist hs⟩

theorem nodup_overlayNames_revokePermission (h : m.overlayNames.Nodup) :
    (m.revokePermission p t).1.overlayNames.Nodup := by
  have hg := names_eraseP (overlaysApart_iff.mpr h).granted
    (f := fun g => g.permission.equal p) (k := p.name) fun x => equal_iff
  have hs : (((m.grantedPermissions.eraseP fun g => g.permission.equal p).map
      GrantedOverride.permission ++ m.revokedPermissions).map name).Sublist
      m.overlayNames := ((eraseP_sublist.map _).append_right _).map _
  unfold overlayNames
  rw [revokePermission_granted, revokePermission_revoked]
  split
  · exact h.sublist hs
  · rename_i hnone
    rw [← append_assoc, map_append, map_singleton, nodup_append]
    refine ⟨h.sublist hs, nodup_singleton _, ?_⟩
    rintro a ha b hb rfl
    obtain rfl := mem_singleton.mp hb
    rw [map_append, mem_append, map_map] at ha
    rcases ha with ha | ha
    · exact hg ha
    · obtain ⟨q, hq, hname⟩ := mem_map.mp ha
      exact hnone (any_eq_true.mpr ⟨q, hq, equal_iff.mpr hname.symm⟩)

/-! ## Over every sequence of calls -/

def Op.Apart : Op → Prop
  | .replacePermissionOverlays granted revoked =>
    ((granted.reduceOption ++ revoked.reduceOption).map Permission.name).Nodup
  | _ => True

instance (op : Op) : Decidable op.Apart := by
  cases op <;> unfold Op.Apart <;> infer_instance

theorem overlayNames_replacePermissionOverlays (g rd : List Permission) :
    (m.replacePermissionOverlays g rd t).1.overlayNames = (g ++ rd).map Permission.name := by
  simp only [replacePermissionOverlays, recordEvent, overlayNames, map_map, map_append,
    Function.comp_def]

inductive Outcome (m : Membership) : Result → Prop where
  | same (err : Option Err) : Outcome m (m, err)
  | recorded {m' : Membership} {ev : Event}
      (granted : m'.grantedPermissions = m.grantedPermissions)
      (revoked : m'.revokedPermissions = m.revokedPermissions)
      (events : m'.events = m.events ++ [ev]) : Outcome m (m', none)

def Op.OnOverlay : Op → Prop
  | .grantPermission .. | .revokePermission .. | .replacePermissionOverlays .. => True
  | _ => False

theorem assignManager_outcome (mD : String) : Outcome m (m.assignManager mD now) := by
  unfold assignManager
  split
  · exact .same _
  · split
    · exact .same _
    · split <;> exact .recorded rfl rfl rfl

theorem Op.outcome (h : ¬ op.OnOverlay) : Outcome m (op.apply now m) := by
  cases op with
  | grantPermission | revokePermission | replacePermissionOverlays => exact absurd trivial h
  | assignManager managerID => exact assignManager_outcome managerID
  | removeManager => exact assignManager_outcome ""
  | deactivate reason =>
    simp only [Op.apply, Membership.deactivate, fail]
    split
    · exact .same _
    · split
      · exact .same _
      · exact .recorded rfl rfl rfl
  | reactivate =>
    simp only [Op.apply, Membership.reactivate]
    split
    · exact .same _
    · exact .recorded rfl rfl rfl
  | assignRole roleID =>
    simp only [Op.apply, Membership.assignRole, fail]
    split
    · exact .same _
    · split
      · exact .same _
      · exact .recorded rfl rfl rfl
  | revokeRole roleID =>
    simp only [Op.apply, Membership.revokeRole, fail]
    split
    · exact .same _
    · split
      · exact .same _
      · exact .recorded rfl rfl rfl
  | updateProfile designation department statusMessage =>
    simp only [Op.apply, Membership.updateProfile]
    split
    · exact .same _
    · exact .recorded rfl rfl rfl

variable {r : Result}

theorem Outcome.overlayNames (h : Outcome m r) : r.1.overlayNames = m.overlayNames := by
  cases h with
  | same err => rfl
  | recorded granted revoked events =>
    unfold Membership.overlayNames
    rw [granted, revoked]

theorem nodup_overlayNames_apply (now : Time) (h : m.overlayNames.Nodup) :
    (op.apply now m).1.overlayNames.Nodup ↔ op.Apart := by
  have ho : ¬ op.OnOverlay → (op.apply now m).1.overlayNames.Nodup := by
    intro hop
    rwa [(Op.outcome hop).overlayNames]
  cases op with
  | replacePermissionOverlays granted revoked =>
    rw [Op.apply, overlayNames_replacePermissionOverlays, Op.Apart]
  | grantPermission p e =>
    refine iff_of_true ?_ trivial
    cases p with
    | none => exact h
    | some p => exact nodup_overlayNames_grantPermission h
  | revokePermission p =>
    refine iff_of_true ?_ trivial
    cases p with
    | none => exact h
    | some p => exact nodup_overlayNames_revokePermission h
  | _ => exact iff_of_true (ho not_false) trivial

theorem nodup_overlayNames_after (h : m.overlayNames.Nodup) (calls : List (Op × Time)) :
    (∀ k, (m.after (calls.take k)).overlayNames.Nodup) ↔ ∀ c ∈ calls, c.1.Apart := by
  induction calls generalizing m with
  | nil =>
    refine iff_of_true (fun k => ?_) (fun c hc => absurd hc not_mem_nil)
    rw [take_nil]
    exact h
  | cons c calls ih =>
    rw [forall_mem_cons, ← nodup_overlayNames_apply c.2 h]
    constructor
    · intro ha
      have hf : (c.1.apply c.2 m).1.overlayNames.Nodup := ha 1
      exact ⟨hf, (ih hf).mp fun k => ha (k + 1)⟩
    · rintro ⟨hf, hr⟩ k
      cases k with
      | zero => exact h
      | succ k => exact (ih hf).mpr hr k

variable {id personID tenantID createdBy : String}

theorem overlayNames_new (h : Membership.new id personID tenantID createdBy now = .ok m) :
    m.overlayNames = [] := by
  unfold Membership.new at h
  repeat' split at h
  all_goals first | cases h; rfl | cases h

variable {created : Time}

theorem overlays_apart_iff (hnew : Membership.new id personID tenantID createdBy created = .ok m)
    (calls : List (Op × Time)) : (∀ k, (m.after (calls.take k)).OverlaysApart ∧
    ((m.after (calls.take k)).overrideRows.map OverrideRow.permissionName).Nodup) ↔
    ∀ c ∈ calls, c.1.Apart := by
  have he : m.overlayNames.Nodup := overlayNames_new hnew ▸ nodup_nil
  rw [← nodup_overlayNames_after he calls]
  refine forall_congr' fun k => ?_
  rw [overrideRows_key_iff, and_self, overlaysApart_iff]

def newcomer : Membership :=
  { id := "m-1", personID := "p-1", tenantID := "t-1", status := .active, joinedAt := 3,
    events := [.created "m-1" "p-1" "t-1" 3] }

theorem newcomer_new : Membership.new "m-1" "p-1" "t-1" "" 3 = .ok newcomer := by decide +kernel

def readLeads : Permission := ⟨31, "crm.leads.read"⟩

theorem newcomer_overlays_apart : ∃ calls : List (Op × Time),
    calls = [(.replacePermissionOverlays [some readLeads] [], 4),
    (.revokePermission (some readLeads), 5)] ∧
    (∀ c ∈ calls, c.1.Apart) ∧ (newcomer.after (calls.take 2)).OverlaysApart := by
  have hc : ∀ c ∈ ([(.replacePermissionOverlays [some readLeads] [], 4),
      (.revokePermission (some readLeads), 5)] : List (Op × Time)), c.1.Apart := by
    decide
  exact ⟨_, rfl, hc, ((overlays_apart_iff newcomer_new _).mpr hc 2).1⟩

def overlapped : Membership :=
  newcomer.after [(.replacePermissionOverlays [some readLeads] [some readLeads], 4)]

theorem overlapping_replacement : Permission.tryFromConstant "crm.leads.read" = .ok readLeads ∧
    ¬ overlapped.OverlaysApart ∧ ∀ s, overlapped.persist s = none := by
  have ha : ¬ overlapped.OverlaysApart := by
    intro h
    exact h.apart ⟨readLeads, 0⟩ (by decide) readLeads (by decide) rfl
  exact ⟨by decide +kernel, ha, persist_eq_none ha⟩

def Unrecorded (m : Membership) (r : Result) : Prop := r.2 ≠ none ∨ r.1.events = m.events

def Unchanged (m : Membership) (r : Result) : Prop := { r.1 with events := m.events } = m

def Op.Silent (m : Membership) : Op → Prop
  | .grantPermission (some p) e =>
    (∃ q ∈ m.revokedPermissions, q.name = p.name) ∧
      ∃ g, m.grantedPermissions.find? (fun g => g.permission.equal p) = some g ∧ g.expiresAt = e
  | .revokePermission (some p) =>
    (∃ g ∈ m.grantedPermissions, g.permission.name = p.name) ∧
      ∃ q ∈ m.revokedPermissions, q.name = p.name
  | _ => False

theorem framed_of_recorded {ev : Event} (hok : r.2 = none) (hev : r.1.events = m.events ++ [ev]) :
    Unrecorded m r → Unchanged m r := by
  rintro (he | hs)
  · exact absurd hok he
  · exact absurd (append_right_eq_self.mp (hev.symm.trans hs)) (cons_ne_nil ev [])

theorem Outcome.framed (h : Outcome m r) : Unrecorded m r → Unchanged m r := by
  cases h with
  | same err => exact fun _ => rfl
  | recorded granted revoked events => exact framed_of_recorded rfl events

theorem grantPermission_framed_iff : (Unrecorded m (m.grantPermission p e t) →
    Unchanged m (m.grantPermission p e t)) ↔ ¬ Op.Silent m (.grantPermission (some p) e) := by
  unfold grantPermission Op.Silent
  dsimp only
  split
  · rename_i g hf
    split
    · rename_i hg
      -- nothing is recorded, so the frame says that no revoke was lifted
      have hu : Unrecorded m
          ({ m with revokedPermissions := m.revokedPermissions.eraseP p.equal }, none) := .inr rfl
      have hs : Unchanged m
          ({ m with revokedPermissions := m.revokedPermissions.eraseP p.equal }, none) ↔
          m.revokedPermissions.eraseP p.equal = m.revokedPermissions :=
        ⟨fun h => congrArg Membership.revokedPermissions h, fun h => by rw [Unchanged, h]⟩
      rw [imp_iff_right hu, hs, eraseP_eq_self_iff, hf]
      constructor
      · rintro h ⟨⟨q, hq, hname⟩, -⟩
        exact h q hq (equal_iff.mpr hname.symm)
      · intro h q hq heq
        exact h ⟨⟨q, hq, (equal_iff.mp heq).symm⟩, g, rfl, hg⟩
    · rename_i hg
      refine iff_of_true (framed_of_recorded rfl rfl) ?_
      rintro ⟨-, g', hg', he⟩
      rw [hf] at hg'
      exact hg (Option.some.inj hg' ▸ he)
  · rename_i hf
    refine iff_of_true (framed_of_recorded rfl rfl) ?_
    rintro ⟨-, g', hg', -⟩
    rw [hf] at hg'
    cases hg'

theorem revokePermission_framed_iff : (Unrecorded m (m.revokePermission p t) →
    Unchanged m (m.revokePermission p t)) ↔ ¬ Op.Silent m (.revokePermission (some p)) := by
  have ha : m.revokedPermissions.any p.equal = true ↔
      ∃ q ∈ m.revokedPermissions, q.name = p.name := by
    rw [any_eq_true]
    refine exists_congr fun q => and_congr_right fun _ => ?_
    rw [equal_iff, eq_comm]
  unfold revokePermission Op.Silent
  dsimp only
  split
  · rename_i hr
    let r : Result := ({ m with grantedPermissions :=
      m.grantedPermissions.eraseP fun g => g.permission.equal p }, none)
    have hu : Unrecorded m r := .inr rfl
    have hs : Unchanged m r ↔
        (m.grantedPermissions.eraseP fun g => g.permission.equal p) = m.grantedPermissions :=
      ⟨fun h => congrArg Membership.grantedPermissions h, fun h => by simp only [Unchanged, r, h]⟩
    rw [imp_iff_right hu, hs, eraseP_eq_self_iff]
    constructor
    · rintro h ⟨⟨g, hg, hname⟩, -⟩
      exact h g hg (equal_iff.mpr hname)
    · intro h g hg heq
      exact h ⟨⟨g, hg, equal_iff.mp heq⟩, ha.mp hr⟩
  · rename_i hr
    refine iff_of_true (framed_of_recorded rfl rfl) ?_
    rintro ⟨-, hq⟩
    exact hr (ha.mpr hq)

theorem framed_iff : (Unrecorded m (op.apply now m) → Unchanged m (op.apply now m)) ↔
    ¬ op.Silent m := by
  have ho : ¬ op.OnOverlay →
      (Unrecorded m (op.apply now m) → Unchanged m (op.apply now m)) := fun hop =>
    (Op.outcome hop).framed
  cases op with
  | replacePermissionOverlays granted revoked =>
    exact iff_of_true (framed_of_recorded rfl rfl) not_false
  | grantPermission p e =>
    cases p with
    | none => exact iff_of_true (Outcome.same _).framed not_false
    | some p => exact grantPermission_framed_iff
  | revokePermission p =>
    cases p with
    | none => exact iff_of_true (Outcome.same _).framed not_false
    | some p => exact revokePermission_framed_iff
  | _ => exact iff_of_true (ho not_false) not_false

theorem OverlaysApart.not_silent (h : m.OverlaysApart) : ¬ op.Silent m := by
  cases op with
  | grantPermission p e =>
    cases p with
    | none => exact not_false
    | some p =>
      rintro ⟨⟨q, hq, hqn⟩, g, hg, -⟩
      have hgp : g.permission.equal p = true := by simpa using find?_some hg
      have hgn : g.permission.name = p.name := equal_iff.mp hgp
      exact h.apart g (mem_of_find?_eq_some hg) q hq (hgn.trans hqn.symm)
  | revokePermission p =>
    cases p with
    | none => exact not_false
    | some p =>
      rintro ⟨⟨g, hg, hgn⟩, q, hq, hqn⟩
      exact h.apart g hg q hq (hgn.trans hqn.symm)
  | _ => exact not_false

theorem unrecorded_change_iff (hnew : Membership.new id personID tenantID createdBy created = .ok m)
    (calls : List (Op × Time)) (op : Op) (now : Time) :
    ((Unrecorded (m.after calls) (op.apply now (m.after calls)) →
    Unchanged (m.after calls) (op.apply now (m.after calls))) ↔ ¬ op.Silent (m.after calls)) ∧
    ((∀ c ∈ calls, c.1.Apart) → ¬ op.Silent (m.after calls)) := by
  refine ⟨framed_iff, fun hc => ?_⟩
  have he : m.overlayNames.Nodup := overlayNames_new hnew ▸ nodup_nil
  have ha := (nodup_overlayNames_after he calls).mpr hc calls.length
  rw [take_length] at ha
  exact (overlaysApart_iff.mpr ha).not_silent

def granted : Membership := newcomer.after [(.replacePermissionOverlays [some readLeads] [], 4)]

theorem newcomer_unrecorded : ¬ Op.Silent granted (.grantPermission (some readLeads) 0) ∧
    Unrecorded granted (granted.grantPermission readLeads 0 5) ∧
    Unchanged granted (granted.grantPermission readLeads 0 5) := by
  have h := unrecorded_change_iff newcomer_new [(.replacePermissionOverlays [some readLeads] [], 4)]
    (.grantPermission (some readLeads) 0) 5
  have hs := h.2 (by decide)
  have hu : Unrecorded granted (granted.grantPermission readLeads 0 5) := .inr (by decide +kernel)
  exact ⟨hs, hu, h.1.mpr hs hu⟩

theorem grant_lifts_revoke_silently :
    ∃ m', Op.apply 5 overlapped (.grantPermission (some readLeads) 0) = (m', none) ∧
    m'.events = overlapped.events ∧ overlapped.revokedPermissions = [readLeads] ∧
    m'.revokedPermissions = [] := by
  refine ⟨_, rfl, ?_, ?_, ?_⟩ <;> decide +kernel

end Leadkart.Membership
