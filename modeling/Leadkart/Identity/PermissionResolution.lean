import Mathlib.Data.List.Count
import Mathlib.Data.String.Basic
import Leadkart.Identity.PermissionOverlays

/-!
# The names of the effective permissions
-/

namespace Leadkart.Membership

open List Permission

inductive Dropped (rev : Permission) (set : List Permission) : List Permission → Prop where
  | itself (h : rev ∈ set) : Dropped rev set (set.erase rev)
  | named {k : Permission} (h : rev ∉ set) (hk : k ∈ set) (hname : k.equal rev = true) :
    Dropped rev set (set.erase k)
  | absent (h : rev ∉ set) (hnone : ∀ k ∈ set, ¬ k.equal rev = true) : Dropped rev set set

inductive DroppedAll : List Permission → List Permission → List Permission → Prop where
  | nil (set : List Permission) : DroppedAll [] set set
  | cons {rev : Permission} {revs set set' out : List Permission} (first : Dropped rev set set')
    (rest : DroppedAll revs set' out) : DroppedAll (rev :: revs) set out

def Resolves (m : Membership) (roles : List Role) (now : Time) (out : List Permission) : Prop :=
  ∃ set, DroppedAll m.revokedPermissions (m.supplied roles now) set ∧ out.Perm set

variable {m : Membership} {roles : List Role} {now : Time} {ps : List Permission}

theorem eraseP_eq_erase {f : Permission → Bool} (h : ∃ k ∈ ps, f k = true) :
    ∃ k ∈ ps, f k = true ∧ ps.eraseP f = ps.erase k := by
  induction ps with
  | nil =>
    obtain ⟨k, hk, -⟩ := h
    cases hk
  | cons p ps ih =>
    by_cases hp : f p = true
    · exact ⟨p, mem_cons_self .., hp, by rw [eraseP_cons_of_pos hp, erase_cons_head]⟩
    · obtain ⟨k, hk, hfk⟩ := h
      have hks : k ∈ ps := (mem_cons.mp hk).resolve_left fun hkp => hp (hkp ▸ hfk)
      obtain ⟨k', hk', hfk', he⟩ := ih ⟨k, hks, hfk⟩
      refine ⟨k', mem_cons_of_mem _ hk', hfk', ?_⟩
      have hne : p ≠ k' := fun hpk => hp (hpk ▸ hfk')
      rw [eraseP_cons_of_neg hp, erase_cons_tail (by simpa using hne), he]

theorem dropped_dropRevoked (set : List Permission) (rev : Permission) :
    Dropped rev set (dropRevoked set rev) := by
  unfold dropRevoked
  split
  · rename_i h
    exact .itself h
  · rename_i h
    by_cases hk : ∃ k ∈ set, k.equal rev = true
    · obtain ⟨k, hks, hname, he⟩ := eraseP_eq_erase hk
      rw [he]
      exact .named h hks hname
    · have hnone : ∀ k ∈ set, ¬ k.equal rev = true := fun k hks hname => hk ⟨k, hks, hname⟩
      rw [eraseP_of_forall_not hnone]
      exact .absent h hnone

theorem droppedAll_foldl (revs set : List Permission) :
    DroppedAll revs set (revs.foldl dropRevoked set) := by
  induction revs generalizing set with
  | nil => exact .nil set
  | cons rev revs ih => exact .cons (dropped_dropRevoked set rev) (ih _)

theorem resolves_effectivePermissions (m : Membership) (roles : List Role) (now : Time) :
    Resolves m roles now (m.effectivePermissions roles now) := ⟨_, droppedAll_foldl _ _, .refl _⟩

def named (n : String) (ps : List Permission) : Nat := ps.countP fun p => p.name = n

variable {n : String}

theorem named_pos_iff : 0 < named n ps ↔ ∃ p ∈ ps, p.name = n := by
  unfold named
  simp only [List.countP_pos_iff, decide_eq_true_eq]

theorem count_names (n : String) (ps : List Permission) :
    (ps.map name).count n = named n ps := by
  rw [List.count, countP_map]
  rfl

theorem named_cons (n : String) (p : Permission) (ps : List Permission) :
    named n (p :: ps) = named n ps + if p.name = n then 1 else 0 := by
  unfold named
  rw [List.countP_cons]
  simp only [decide_eq_true_eq]

variable {set : List Permission}

theorem named_erase {k : Permission} (hk : k ∈ set) :
    named n (set.erase k) = named n set - if k.name = n then 1 else 0 := by
  have hp : named n set = named n (k :: set.erase k) := (perm_cons_erase hk).countP_eq _
  rw [hp, named_cons, Nat.add_sub_cancel]

theorem Dropped.named_eq {rev : Permission} {set' : List Permission} (h : Dropped rev set set')
    (n : String) : Membership.named n set' =
    Membership.named n set - if rev.name = n then 1 else 0 := by
  cases h with
  | itself h => exact named_erase h
  | named h hk hname => rw [named_erase hk, equal_iff.mp hname]
  | absent h hnone =>
    split
    · rename_i hn
      have hz : ¬ 0 < Membership.named n set := by
        rw [named_pos_iff]
        rintro ⟨k, hk, hkn⟩
        exact hnone k hk (equal_iff.mpr (hkn.trans hn.symm))
      omega
    · rfl

variable {out : List Permission}

theorem DroppedAll.named_eq {revs : List Permission} (h : DroppedAll revs set out) (n : String) :
    named n out = named n set - named n revs := by
  induction h with
  | nil set => rfl
  | cons first rest ih =>
    rename_i rev revs set set' out
    rw [ih, first.named_eq n, named_cons]
    omega

theorem Resolves.named (h : Resolves m roles now out) (n : String) : Membership.named n out =
    Membership.named n (m.supplied roles now) - Membership.named n m.revokedPermissions := by
  obtain ⟨set, hs, hp⟩ := h
  rw [← hs.named_eq n]
  exact hp.countP_eq _

structure ExactNames (m : Membership) (roles : List Role) (now : Time) (out : List Permission) :
    Prop where
  once : (out.map name).Nodup
  names : ∀ n, n ∈ out.map name ↔
    ((∃ r ∈ roles, ∃ p ∈ r.permissions, p.name = n) ∨
      ∃ g ∈ m.grantedPermissions, (g.expiresAt = 0 ∨ now < g.expiresAt) ∧ g.permission.name = n) ∧
    ∀ p ∈ m.revokedPermissions, p.name ≠ n
  ordered : ∀ {m' : Membership} {roles' : List Role} {out' : List Permission},
    roles'.Perm roles → m'.grantedPermissions.Perm m.grantedPermissions →
    m'.revokedPermissions.Perm m.revokedPermissions → Resolves m' roles' now out' →
    permissionNames out' = permissionNames out

def PointersFit (m : Membership) (roles : List Role) (now : Time) : Prop :=
  ∀ n, named n (m.supplied roles now) ≤ max 1 (named n m.revokedPermissions)

theorem GrantedOverride.live_iff {g : GrantedOverride} :
    g.live now = true ↔ g.expiresAt = 0 ∨ now < g.expiresAt := by
  unfold GrantedOverride.live Time.isZero Time.before
  rw [Bool.or_eq_true, beq_iff_eq, decide_eq_true_eq]

theorem named_supplied_pos_iff : 0 < named n (m.supplied roles now) ↔
    (∃ r ∈ roles, ∃ p ∈ r.permissions, p.name = n) ∨
    ∃ g ∈ m.grantedPermissions, (g.expiresAt = 0 ∨ now < g.expiresAt) ∧ g.permission.name = n := by
  rw [named_pos_iff]
  simp only [mem_supplied, GrantedOverride.live_iff]
  constructor
  · rintro ⟨p, ⟨r, hr, hp⟩ | ⟨g, hg, hl, rfl⟩, hn⟩
    · exact .inl ⟨r, hr, p, hp, hn⟩
    · exact .inr ⟨g, hg, hl, hn⟩
  · rintro (⟨r, hr, p, hp, hn⟩ | ⟨g, hg, hl, hn⟩)
    · exact ⟨p, .inl ⟨r, hr, hp⟩, hn⟩
    · exact ⟨g.permission, .inr ⟨g, hg, hl, rfl⟩, hn⟩

theorem mem_names_iff : n ∈ ps.map name ↔ 0 < named n ps := by
  rw [named_pos_iff, mem_map]

theorem Resolves.names_iff (h : Resolves m roles now out) :
    (out.map name).Nodup ∧ (∀ n, n ∈ out.map name ↔
    0 < Membership.named n (m.supplied roles now) ∧
    Membership.named n m.revokedPermissions = 0) ↔ m.PointersFit roles now := by
  simp only [nodup_iff_count_le_one, count_names, mem_names_iff, h.named]
  constructor
  · rintro ⟨ho, hn⟩ n
    have h₁ := ho n
    have h₂ := hn n
    omega
  · intro hf
    refine ⟨fun n => ?_, fun n => ?_⟩
    · have := hf n
      omega
    · have := hf n
      omega

variable {m' : Membership} {roles' : List Role}

theorem supplied_perm (hr : roles'.Perm roles)
    (hg : m'.grantedPermissions.Perm m.grantedPermissions) :
    (m'.supplied roles' now).Perm (m.supplied roles now) := by
  have hnd : ∀ (m : Membership) (roles : List Role), (m.supplied roles now).Nodup := fun _ _ =>
    nodup_insertAll (nodup_insertAll nodup_nil)
  rw [perm_ext_iff_of_nodup (hnd m' roles') (hnd m roles)]
  intro p
  simp only [mem_supplied, hr.mem_iff, hg.mem_iff]

theorem PointersFit.perm (h : m.PointersFit roles now) (hr : roles'.Perm roles)
    (hg : m'.grantedPermissions.Perm m.grantedPermissions)
    (hv : m'.revokedPermissions.Perm m.revokedPermissions) : m'.PointersFit roles' now := by
  intro n
  unfold named
  rw [(supplied_perm hr hg).countP_eq, hv.countP_eq]
  exact h n

theorem permissionNames_eq {out' : List Permission} (h : (out.map name).Nodup)
    (h' : (out'.map name).Nodup)
    (hm : ∀ n, n ∈ out'.map name ↔ n ∈ out.map name) :
    permissionNames out' = permissionNames out := by
  have hp := (perm_ext_iff_of_nodup h' h).mpr hm
  refine List.Perm.eq_of_pairwise (fun a b _ _ => le_antisymm) (pairwise_insertionSort ..)
    (pairwise_insertionSort ..) ?_
  exact (perm_insertionSort ..).trans (hp.trans (perm_insertionSort ..).symm)

theorem effective_names_iff (m : Membership) (roles : List Role) (now : Time) :
    (∀ out, Resolves m roles now out → ExactNames m roles now out) ↔ m.PointersFit roles now := by
  have hz : ∀ n, named n m.revokedPermissions = 0 ↔ ∀ p ∈ m.revokedPermissions, p.name ≠ n := by
    intro n
    rw [← Nat.le_zero, ← Nat.not_lt, named_pos_iff]
    push Not
    rfl
  constructor
  · intro h
    have hre := resolves_effectivePermissions m roles now
    refine hre.names_iff.mp ⟨(h _ hre).once, fun n => ?_⟩
    rw [(h _ hre).names n, named_supplied_pos_iff, hz]
  · intro hf out hou
    obtain ⟨ho, hn⟩ := hou.names_iff.mpr hf
    refine ⟨ho, fun n => ?_, ?_⟩
    · rw [hn n, named_supplied_pos_iff, hz]
    · intro m' roles' out' hr hg hv hou'
      obtain ⟨ho', hn'⟩ := hou'.names_iff.mpr (hf.perm hr hg hv)
      refine permissionNames_eq ho ho' fun n => ?_
      rw [hn, hn', named, named, (supplied_perm hr hg).countP_eq, hv.countP_eq, named, named]

def roleWith (p : Permission) : Role :=
  { id := p.name, tenantID := "t-1", name := "Custom", isSystemDefault := false,
    isSuperAdmin := false, hierarchyLevel := 50, createdAt := 0, permissions := [p] }

theorem revoked_name_effective :
    ∃ p q, create allNames.length "custom.something" = (.ok p, 49) ∧
    create 49 "custom.something" = (.ok q, 50) ∧
    Resolves { newcomer with revokedPermissions := [p] } [roleWith p, roleWith q] 5 [q] ∧
      q.name ∈ ({ newcomer with revokedPermissions := [p] } : Membership).revokedPermissions.map
        name := by
  refine ⟨⟨48, "custom.something"⟩, ⟨49, "custom.something"⟩, by decide +kernel,
    by decide +kernel, ?_, by decide⟩
  exact ⟨[⟨49, "custom.something"⟩], .cons (.itself (by decide)) (.nil _), .refl _⟩

end Leadkart.Membership
