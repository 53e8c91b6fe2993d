import Leadkart.Identity.PermissionOverlays

/-!
# Temporary elevation
-/

namespace Leadkart.Membership

open List Permission

def effectiveNames (m : Membership) (roles : List Role) (now : Time) : List String :=
  (m.effectivePermissions roles now).map Permission.name

def rolesGive (roles : List Role) (p : Permission) : Prop := ∃ r ∈ roles, p ∈ r.permissions

instance (roles : List Role) (p : Permission) : Decidable (rolesGive roles p) :=
  inferInstanceAs (Decidable (∃ r ∈ roles, p ∈ r.permissions))

variable {m : Membership} {roles : List Role} {p : Permission} {e t τ : Time}

theorem Loaded.granted_names (hm : m.Loaded) :
    ((m.grantedPermissions.map GrantedOverride.permission).map Permission.name).Nodup := by
  have h := hm.one
  rw [map_append] at h
  exact (nodup_append.mp h).1

variable {g : GrantedOverride}

theorem Loaded.not_revoked_of_granted (hm : m.Loaded) (hg : g ∈ m.grantedPermissions) :
    g.permission ∉ m.revokedPermissions := by
  intro hme
  have h := hm.one
  rw [map_append] at h
  exact (nodup_append.mp h).2.2 _ (mem_map_of_mem (mem_map_of_mem hg)) _ (mem_map_of_mem hme) rfl

theorem mem_setExpiry {gs : List GrantedOverride}
    (hnd : ((gs.map GrantedOverride.permission).map Permission.name).Nodup)
    (hme : ∃ g ∈ gs, g.permission = p) : g ∈ setExpiry p e gs ↔
    (g ∈ gs ∧ g.permission.name ≠ p.name) ∨ (g = ⟨p, e⟩) := by
  induction gs with
  | nil => simp at hme
  | cons g' gs ih =>
    rw [map_cons, map_cons, nodup_cons, mem_map] at hnd
    unfold setExpiry
    by_cases hp : g'.permission.equal p = true
    · have hname : g'.permission.name = p.name := equal_iff.mp hp
      have ht : ∀ x ∈ gs, x.permission.name ≠ p.name := by
        intro x hx hxn
        exact hnd.1 ⟨x.permission, mem_map_of_mem hx, hxn.trans hname.symm⟩
      have hg' : g'.permission = p := by
        obtain ⟨x, hx, rfl⟩ := hme
        rcases mem_cons.mp hx with rfl | hx
        · rfl
        · exact absurd rfl (ht x hx)
      rw [if_pos hp, mem_cons, mem_cons, hg']
      constructor
      · rintro (rfl | hg)
        · exact .inr rfl
        · exact .inl ⟨.inr hg, ht g hg⟩
      · rintro (⟨rfl | hg, hgn⟩ | rfl)
        · exact absurd hname hgn
        · exact .inr hg
        · exact .inl rfl
    · have hne : g'.permission.name ≠ p.name := fun h => hp (equal_iff.mpr h)
      have hme' : ∃ g ∈ gs, g.permission = p := by
        obtain ⟨x, hx, hxp⟩ := hme
        rcases mem_cons.mp hx with rfl | hx
        · exact absurd (congrArg name hxp) hne
        · exact ⟨x, hx, hxp⟩
      rw [if_neg hp, mem_cons, mem_cons, ih hnd.2 hme']
      constructor
      · rintro (rfl | ⟨hg, hgn⟩ | rfl)
        · exact .inl ⟨.inl rfl, hne⟩
        · exact .inl ⟨.inr hg, hgn⟩
        · exact .inr rfl
      · rintro (⟨rfl | hg, hgn⟩ | rfl)
        · exact .inl rfl
        · exact .inr (.inl ⟨hg, hgn⟩)
        · exact .inr (.inr rfl)

theorem mem_revoked_after (hm : m.Loaded) {q : Permission} :
    q ∈ (m.grantPermission p e t).1.revokedPermissions ↔
    q ∈ m.revokedPermissions ∧ q.name ≠ p.name := by
  rw [grantPermission_revoked]
  have hnd : (m.revokedPermissions.map name).Nodup := by
    have h := hm.one
    rw [map_append] at h
    exact (nodup_append.mp h).2.1
  exact mem_eraseP_key hnd fun x => by rw [equal_iff, eq_comm]

theorem mem_granted_after (hm : m.Loaded) (hp : p.Interned) :
    g ∈ (m.grantPermission p e t).1.grantedPermissions ↔
    (g ∈ m.grantedPermissions ∧ g.permission.name ≠ p.name) ∨ g = ⟨p, e⟩ := by
  rw [grantPermission_granted]
  split
  · rename_i hs
    obtain ⟨g₀, hf⟩ := Option.isSome_iff_exists.mp hs
    have hg₀ : g₀ ∈ m.grantedPermissions := mem_of_find?_eq_some hf
    have hname : g₀.permission.name = p.name := equal_iff.mp (by simpa using find?_some hf)
    exact mem_setExpiry hm.granted_names ⟨g₀, hg₀, (hm.granted g₀ hg₀).eq hp hname⟩
  · rename_i hnone
    have ho : ∀ x ∈ m.grantedPermissions, x.permission.name ≠ p.name := by
      intro x hx hxn
      refine hnone (find?_isSome.mpr ⟨x, hx, ?_⟩)
      exact equal_iff.mpr hxn
    rw [mem_append, mem_singleton]
    exact ⟨fun h => h.imp (fun hg => ⟨hg, ho g hg⟩) fun h => h, fun h => h.imp And.left fun h => h⟩

theorem Loaded.grantPermission (hm : m.Loaded) (hp : p.Interned) :
    (m.grantPermission p e t).1.Loaded where
  granted := by
    intro g hg
    rcases (mem_granted_after hm hp).mp hg with ⟨hg, -⟩ | rfl
    · exact hm.granted g hg
    · exact hp
  revoked := by
    intro q hq
    exact hm.revoked q ((mem_revoked_after hm).mp hq).1
  one := nodup_overlayNames_grantPermission hm.one

section Effective

variable (hm : m.Loaded) (hroles : ∀ r ∈ roles, r.Loaded) (hp : p.Interned)
include hm hroles hp

theorem mem_effective_after_self : p ∈ (m.grantPermission p e t).1.effectivePermissions roles τ ↔
    rolesGive roles p ∨ GrantedOverride.live ⟨p, e⟩ τ = true := by
  obtain ⟨hg, hr, -⟩ := hm.grantPermission (e := e) (t := t) hp
  rw [mem_effectivePermissions hg hr hroles]
  constructor
  · rintro ⟨hgi | ⟨g, hgm, hl, hgp⟩, -⟩
    · exact .inl hgi
    · rcases (mem_granted_after hm hp).mp hgm with ⟨-, hne⟩ | rfl
      · exact absurd (congrArg name hgp) hne
      · exact .inr hl
  · intro h
    refine ⟨h.imp_right fun hl => ⟨_, (mem_granted_after hm hp).mpr (.inr rfl), hl, rfl⟩,
      fun hre => ?_⟩
    exact ((mem_revoked_after hm).mp hre).2 rfl

theorem mem_effective_after_other {q : Permission} (hq : q.name ≠ p.name) :
    q ∈ (m.grantPermission p e t).1.effectivePermissions roles τ ↔
    q ∈ m.effectivePermissions roles τ := by
  obtain ⟨hg, hr, -⟩ := hm.grantPermission (e := e) (t := t) hp
  rw [mem_effectivePermissions hg hr hroles, mem_effectivePermissions hm.granted hm.revoked hroles]
  have hre : q ∈ (m.grantPermission p e t).1.revokedPermissions ↔ q ∈ m.revokedPermissions := by
    rw [mem_revoked_after hm]
    exact and_iff_left hq
  have hgr : (∃ g ∈ (m.grantPermission p e t).1.grantedPermissions,
      g.live τ = true ∧ g.permission = q) ↔
      ∃ g ∈ m.grantedPermissions, g.live τ = true ∧ g.permission = q := by
    constructor
    · rintro ⟨g, hgm, hl, hgq⟩
      rcases (mem_granted_after hm hp).mp hgm with ⟨hgm, -⟩ | rfl
      · exact ⟨g, hgm, hl, hgq⟩
      · exact absurd (congrArg name hgq).symm hq
    · rintro ⟨g, hgm, hl, rfl⟩
      exact ⟨g, (mem_granted_after hm hp).mpr (.inl ⟨hgm, hq⟩), hl, rfl⟩
  rw [hre, hgr]

end Effective

theorem name_mem_effectiveNames (hg : ∀ g ∈ m.grantedPermissions, g.permission.Interned)
    (hrv : ∀ q ∈ m.revokedPermissions, q.Interned) (hroles : ∀ r ∈ roles, r.Loaded) {n : String} :
    n ∈ m.effectiveNames roles τ ↔
    ∃ q, q.Interned ∧ q.name = n ∧ q ∈ m.effectivePermissions roles τ := by
  unfold effectiveNames
  rw [mem_map]
  constructor
  · rintro ⟨q, hq, rfl⟩
    refine ⟨q, ?_, rfl, hq⟩
    rcases ((mem_effectivePermissions hg hrv hroles).mp hq).1 with ⟨r, hr, hqr⟩ | ⟨g, hgm, -, rfl⟩
    · exact hroles r hr q hqr
    · exact hg g hgm
  · rintro ⟨q, -, rfl, hq⟩
    exact ⟨q, hq, rfl⟩

theorem self_mem_effectiveNames (hg : ∀ g ∈ m.grantedPermissions, g.permission.Interned)
    (hrv : ∀ q ∈ m.revokedPermissions, q.Interned) (hroles : ∀ r ∈ roles, r.Loaded)
    (hp : p.Interned) : p.name ∈ m.effectiveNames roles τ ↔ p ∈ m.effectivePermissions roles τ := by
  rw [name_mem_effectiveNames hg hrv hroles]
  constructor
  · rintro ⟨q, hq, hqn, hme⟩
    exact hq.eq hp hqn ▸ hme
  · exact fun hme => ⟨p, hp, rfl, hme⟩

theorem live_iff {p : Permission} (he : e ≠ 0) : GrantedOverride.live ⟨p, e⟩ τ = true ↔ τ < e := by
  simp [GrantedOverride.live, Time.isZero, Time.before, he]

theorem live_of_le : (∃ τ, e ≤ τ ∧ g.live τ = true) ↔ g.expiresAt = 0 ∨ e < g.expiresAt := by
  simp only [GrantedOverride.live, Time.isZero, Time.before, Bool.or_eq_true, beq_iff_eq,
    decide_eq_true_eq]
  constructor
  · rintro ⟨τ, hτ, h0 | hlt⟩
    · exact .inl h0
    · exact .inr (lt_of_le_of_lt hτ hlt)
  · rintro (h0 | hlt)
    · exact ⟨e, le_refl e, .inl h0⟩
    · exact ⟨e, le_refl e, .inr hlt⟩

theorem self_mem_before (hm : m.Loaded) (hroles : ∀ r ∈ roles, r.Loaded) (hp : p.Interned) :
    p.name ∈ m.effectiveNames roles τ ↔
    (rolesGive roles p ∨ ∃ g ∈ m.grantedPermissions, g.live τ = true ∧ g.permission = p) ∧
    p ∉ m.revokedPermissions := by
  rw [self_mem_effectiveNames hm.granted hm.revoked hroles hp]
  exact mem_effectivePermissions hm.granted hm.revoked hroles

theorem roles_decide_iff (hm : m.Loaded) (hroles : ∀ r ∈ roles, r.Loaded) (hp : p.Interned) :
    (∀ τ, e ≤ τ → (rolesGive roles p ↔ p.name ∈ m.effectiveNames roles τ)) ↔
    ¬ (p ∈ m.revokedPermissions ∧ rolesGive roles p) ∧
    ¬ (∃ g ∈ m.grantedPermissions, g.permission = p ∧ (g.expiresAt = 0 ∨ e < g.expiresAt) ∧
    ¬ rolesGive roles p) := by
  constructor
  · intro h
    refine ⟨fun ⟨hr, hg⟩ => ?_, fun ⟨g, hgm, hgp, hlo, hno⟩ => ?_⟩
    · exact ((self_mem_before hm hroles hp).mp ((h e (le_refl e)).mp hg)).2 hr
    · obtain ⟨τ, hτ, hl⟩ := live_of_le.mpr hlo
      refine hno ((h τ hτ).mpr ((self_mem_before hm hroles hp).mpr ⟨.inr ⟨g, hgm, hl, hgp⟩, ?_⟩))
      exact hgp ▸ hm.not_revoked_of_granted hgm
  · rintro ⟨hli, hc⟩ τ hτ
    rw [self_mem_before hm hroles hp]
    constructor
    · intro hg
      exact ⟨.inl hg, fun hr => hli ⟨hr, hg⟩⟩
    · rintro ⟨hg | ⟨g, hgm, hl, hgp⟩, -⟩
      · exact hg
      · by_contra hno
        exact hc ⟨g, hgm, hgp, live_of_le.mp ⟨τ, hτ, hl⟩, hno⟩

theorem grantPermission_temporary (m : Membership) (hm : m.Loaded) (roles : List Role)
    (hroles : ∀ r ∈ roles, r.Loaded) (p : Permission) (hp : p.Interned) (t e : Time) (ht : 0 < t)
    (he : t < e) :
    (∀ τ, t ≤ τ → τ < e → ∀ n, n ∈ (m.grantPermission p e t).1.effectiveNames roles τ ↔
    n ∈ m.effectiveNames roles τ ∨ n = p.name) ∧ (∀ τ, e ≤ τ → ∀ n, n ≠ p.name →
    (n ∈ (m.grantPermission p e t).1.effectiveNames roles τ ↔ n ∈ m.effectiveNames roles τ)) ∧
    (∀ τ, e ≤ τ → (p.name ∈ (m.grantPermission p e t).1.effectiveNames roles τ ↔
    rolesGive roles p)) ∧
    ((∀ τ, e ≤ τ → ∀ n, n ∈ (m.grantPermission p e t).1.effectiveNames roles τ ↔
    n ∈ m.effectiveNames roles τ) ↔ ¬ (p ∈ m.revokedPermissions ∧ rolesGive roles p) ∧
    ¬ (∃ g ∈ m.grantedPermissions, g.permission = p ∧ (g.expiresAt = 0 ∨ e < g.expiresAt) ∧
    ¬ rolesGive roles p)) := by
  have he0 : e ≠ 0 := (lt_trans ht he).ne'
  obtain ⟨hg, hr, -⟩ := hm.grantPermission (e := e) (t := t) hp
  have ho : ∀ τ n, n ≠ p.name →
      (n ∈ (m.grantPermission p e t).1.effectiveNames roles τ ↔ n ∈ m.effectiveNames roles τ) := by
    intro τ n hn
    rw [name_mem_effectiveNames hg hr hroles, name_mem_effectiveNames hm.granted hm.revoked hroles]
    constructor
    · rintro ⟨q, hq, rfl, hme⟩
      exact ⟨q, hq, rfl, (mem_effective_after_other hm hroles hp hn).mp hme⟩
    · rintro ⟨q, hq, rfl, hme⟩
      exact ⟨q, hq, rfl, (mem_effective_after_other hm hroles hp hn).mpr hme⟩
  have hs : ∀ τ, p.name ∈ (m.grantPermission p e t).1.effectiveNames roles τ ↔
      rolesGive roles p ∨ τ < e := by
    intro τ
    rw [self_mem_effectiveNames hg hr hroles hp, mem_effective_after_self hm hroles hp,
      live_iff he0]
  have ha : ∀ τ, e ≤ τ → (p.name ∈ (m.grantPermission p e t).1.effectiveNames roles τ ↔
      rolesGive roles p) := by
    intro τ hτ
    rw [hs τ]
    exact or_iff_left (not_lt.mpr hτ)
  refine ⟨?_, fun τ _ n hn => ho τ n hn, ha, ?_⟩
  · intro τ _ hτ n
    by_cases hn : n = p.name
    · rw [hn, hs τ]
      exact ⟨fun _ => .inr rfl, fun _ => .inr hτ⟩
    · rw [ho τ n hn]
      exact ⟨.inl, fun h => h.resolve_right hn⟩
  · rw [← roles_decide_iff hm hroles hp]
    constructor
    · intro h τ hτ
      rw [← ha τ hτ]
      exact h τ hτ p.name
    · intro h τ hτ n
      by_cases hn : n = p.name
      · rw [hn, ha τ hτ]
        exact h τ hτ
      · exact ho τ n hn

def samplePermission : Permission := ⟨31, "crm.leads.read"⟩

def sampleRole : Role :=
  { id := "role-1", tenantID := "t1", name := "Sales", isSystemDefault := false,
    isSuperAdmin := false, hierarchyLevel := 50, permissions := [samplePermission], createdAt := 1 }

def sampleRevoked : Membership :=
  { id := "m1", personID := "p1", tenantID := "t1", status := .active, joinedAt := 1
    roleAssignments := ["role-1"], revokedPermissions := [samplePermission] }

def sampleGranted : Membership :=
  { id := "m2", personID := "p2", tenantID := "t1", status := .active, joinedAt := 1
    grantedPermissions := [⟨samplePermission, 0⟩] }

theorem samplePermission_interned : samplePermission.Interned := by decide +kernel

theorem sampleRole_loaded : ∀ r ∈ [sampleRole], r.Loaded := by
  intro r hr q hq
  obtain rfl := mem_singleton.mp hr
  obtain rfl := mem_singleton.mp hq
  exact samplePermission_interned

theorem sampleRevoked_loaded : sampleRevoked.Loaded where
  granted := by simp [sampleRevoked]
  revoked := by simpa [sampleRevoked] using samplePermission_interned
  one := by decide

theorem sampleGranted_loaded : sampleGranted.Loaded where
  granted := by simpa [sampleGranted] using samplePermission_interned
  revoked := by simp [sampleGranted]
  one := by decide

theorem grantPermission_temporary_in_time :
    "crm.leads.read" ∈ (sampleRevoked.grantPermission samplePermission 200 100).1.effectiveNames
    [sampleRole] 150 :=
  ((grantPermission_temporary sampleRevoked sampleRevoked_loaded [sampleRole]
    sampleRole_loaded samplePermission samplePermission_interned 100 200 (by decide)
    (by decide)).1 150 (by decide) (by decide) _).mpr (.inr rfl)

theorem expired_approval_changes_authority : (sampleRevoked.Loaded ∧
    "crm.leads.read" ∈ (sampleRevoked.grantPermission samplePermission 200 100).1.effectiveNames
    [sampleRole] 200 ∧ "crm.leads.read" ∉ sampleRevoked.effectiveNames [sampleRole] 200) ∧
    (sampleGranted.Loaded ∧
    "crm.leads.read" ∉ (sampleGranted.grantPermission samplePermission 200 100).1.effectiveNames
    [] 200 ∧ "crm.leads.read" ∈ sampleGranted.effectiveNames [] 200) :=
  ⟨⟨sampleRevoked_loaded, by decide⟩, sampleGranted_loaded, by decide⟩

end Leadkart.Membership
