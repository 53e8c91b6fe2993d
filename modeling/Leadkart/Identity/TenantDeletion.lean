import Leadkart.Identity.TenantLifecycle

/-!
# What a hard delete leaves behind
-/

namespace Leadkart

open Table MembershipRepository TenantRepository Effect

/-! ## Stores built by commands -/

inductive Call where
  | register (cmd : RegisterTenantCommand) (d : RegisterDraws)
  | lifecycle (id : String) (x : Lifecycle) (now : Time)
  | updateProfile (id legalName displayName : String) (now : Time)
  | addPerson (p : Person)
  | updatePerson (id : String) (fn : Person → Person × Except Err Bool)
  | updateLockoutState (p : Person)
  | addMembership (m : Membership)
  | updateMembership (tenantID id : String) (fn : Membership.UpdateFn)
  | addRole (r : Role)
  | updateRole (tenantID id : String) (fn : Role → Role × Except Err Bool)
  | addFamily (f : RefreshToken.Family)
  | updateFamily (id : String) (fn : RefreshToken.UpdateFn)

def Call.after (s : Store) : Call → Store
  | .register cmd d => ((registerTenant cmd d).run s).2
  | .lifecycle id x now => ((x.handle id now).run s).2
  | .updateProfile id legalName displayName now =>
    ((updateTenant "" id fun t => t.updateProfile legalName displayName now).run s).2
  | .addPerson p => ((PersonRepository.add p).run s).2
  | .updatePerson id fn => ((PersonRepository.updateByID id fn).run s).2
  | .updateLockoutState p => ((PersonRepository.updateLockoutState p).run s).2
  | .addMembership m => ((add m).run s).2
  | .updateMembership tenantID id fn => ((updateByID tenantID id fn).run s).2
  | .addRole r => ((RoleRepository.add r).run s).2
  | .updateRole tenantID id fn => ((RoleRepository.updateByID tenantID id fn).run s).2
  | .addFamily f => ((RefreshTokenFamilyRepository.add f).run s).2
  | .updateFamily id fn => ((RefreshTokenFamilyRepository.updateByID id fn).run s).2

def Call.step (s : Store) (c : Call) : Option Store := some (c.after s)

def Staffed (s : Store) : Prop := ∀ t ∈ s.tenants, ∃ st ∈ s.memberships, st.row.tenantID = t.id

section Staffed

variable {s : Store}

theorem Staffed.referenced (h : Staffed s) {id : String} {t : Tenant} (ht : s.tenant? id = some t) :
    s.referenced id = true := by
  obtain ⟨hm, rfl⟩ := tenant?_id ht
  obtain ⟨st, hst, hid⟩ := h t hm
  have ha : (s.memberships.rows.any fun st => st.row.tenantID == t.id) = true :=
    List.any_eq_true.mpr ⟨st, hst, by simpa using hid⟩
  simp [Store.referenced, ha]

theorem staffed_of_frame {ε α : Type} {x : Effect Store ε α} (h : ∀ s₀ : Store, Keeps s₀.Frame x) :
    Keeps Staffed x := by
  intro s hs
  obtain ⟨ht, hm⟩ := h s s ⟨rfl, rfl⟩
  unfold Staffed
  rw [ht, hm]
  exact hs

theorem staffed_addMembership (m : Membership) : Keeps Staffed (add m) := by
  refine keeps_write fun s s' hs h => ?_
  split at h
  · cases h
  split at h
  · obtain ⟨ms, hms, rfl⟩ := orRefused_ok h
    intro t ht
    obtain ⟨st, hst, hid⟩ := hs t ht
    exact ⟨st, (mem_insert hms).mpr (.inl hst), hid⟩
  · cases h

theorem staffed_updateMembership (tenantID id : String) (fn : Membership.UpdateFn) :
    Keeps Staffed (updateByID tenantID id fn) := by
  refine keeps_write fun s s' hs h => ?_
  rcases updateByID_ok (write_eq_ok.mpr h) with
    ⟨rfl, -⟩ | ⟨st, st', ms, hf, ha, hu, rfl⟩
  · exact hs
  obtain ⟨hst, hk⟩ := mem_of_find? hf
  obtain ⟨m, -, hp⟩ := Option.bind_eq_some_iff.mp ha
  have hte := (Membership.persist_row hp).2
  intro t ht
  obtain ⟨q, hq, hqt⟩ := hs t ht
  refine ⟨_, (mem_update hu).mpr ⟨q, hq, rfl⟩, ?_⟩
  by_cases hid : (q.row.id == id) = true
  · -- The primary key: the row under this id is the one that was loaded.
    have hsa : q = st := by
      refine eq_of_clash hq hst (.inl ?_)
      have hsd : st.row.id = id := by simp at hk; exact hk.1
      rw [hsd]
      simpa using hid
    rw [if_pos hid, hte, ← hsa, hqt]
  · rw [if_neg hid, hqt]

theorem staffed_updateTenant (c id : String) (op : Tenant → Tenant.Result) :
    Keeps Staffed (updateTenant c id op) := by
  refine Keeps.mapError (keeps_write fun s s' hs h => ?_) _
  split at h
  · cases h
  split at h
  · cases h
  · cases h
    exact hs
  · obtain ⟨ts, hts, rfl⟩ := orRefused_ok h
    intro t ht
    obtain ⟨r, hr, rfl⟩ := (mem_update hts).mp ht
    obtain ⟨st, hst, hid⟩ := hs r hr
    refine ⟨st, hst, hid.trans ?_⟩
    split <;> rfl

theorem staffed_hardDeleteRow (id : String) : Keeps Staffed (hardDeleteRow id) := by
  refine keeps_write fun s s' hs h => ?_
  split at h
  · cases h
  · cases h
    intro t ht
    exact hs t (mem_delete.mp ht).1

theorem staffed_lifecycle (x : Lifecycle) (id : String) (now : Time) :
    Keeps Staffed (x.handle id now) := by
  have hg : ∀ op context, Keeps Staffed (do
      ensureNotPlatformTenant id
      updateTenant context id op) := fun op context =>
    .bind (keeps_query _) fun _ => staffed_updateTenant context id op
  cases x with
  | activate =>
    simp only [Lifecycle.handle, activateTenant]
    split
    · exact keeps_fail _
    · exact staffed_updateTenant _ _ _
  | restore =>
    simp only [Lifecycle.handle, restoreTenant]
    split
    · exact keeps_fail _
    · exact staffed_updateTenant _ _ _
  | suspend reason =>
    simp only [Lifecycle.handle, suspendTenant]
    split
    · exact keeps_fail _
    · exact hg _ _
  | markForDeletion reason =>
    simp only [Lifecycle.handle, markTenantForDeletion]
    split
    · exact keeps_fail _
    · exact hg _ _
  | hardDelete =>
    simp only [Lifecycle.handle, hardDeleteTenant]
    split
    · exact keeps_fail _
    · exact .bind (keeps_query _) fun _ => .bind (staffed_updateTenant _ _ _) fun _ =>
        (staffed_hardDeleteRow id).mapError _

theorem staffed_addRole (r : Role) : Keeps Staffed (RoleRepository.add r) := by
  refine staffed_of_frame fun s₀ => keeps_write fun s s' hs h => ?_
  obtain ⟨t, -, rfl⟩ := orRefused_ok h
  exact hs

theorem staffed_updateRole (tenantID id : String) (fn : Role → Role × Except Err Bool) :
    Keeps Staffed (RoleRepository.updateByID tenantID id fn) := by
  refine staffed_of_frame fun s₀ => keeps_write fun s s' hs h => ?_
  split at h
  · cases h
  split at h
  · cases h
  · cases h
    exact hs
  · obtain ⟨t, -, rfl⟩ := orRefused_ok h
    exact hs

theorem staffed_addPerson (p : Person) : Keeps Staffed (PersonRepository.add p) := by
  refine staffed_of_frame fun s₀ => keeps_write fun s s' hs h => ?_
  obtain ⟨t, -, rfl⟩ := orRefused_ok h
  exact hs

theorem staffed_updatePerson (id : String) (fn : Person → Person × Except Err Bool) :
    Keeps Staffed (PersonRepository.updateByID id fn) := by
  refine staffed_of_frame fun s₀ => keeps_write fun s s' hs h => ?_
  split at h
  · cases h
  split at h
  · cases h
  · cases h
    exact hs
  · obtain ⟨t, -, rfl⟩ := orRefused_ok h
    exact hs

theorem staffed_registerTenant (cmd : RegisterTenantCommand) (d : RegisterDraws) :
    Keeps Staffed (registerTenant cmd d) := by
  refine keeps_registerTenant (fun existing pwd => Keeps.atomic fun s r s' hs h => ?_)
    staffed_addRole staffed_updateMembership
  obtain ⟨t, st, hn⟩ := persistAggregatesInTx_ok (atomic_eq_ok.mpr h)
  intro u hu
  rcases (mem_insert hn.tenants).mp hu with hold | rfl
  · obtain ⟨q, hq, hqu⟩ := hs u hold
    exact ⟨q, (mem_insert hn.memberships).mpr (.inl hq), hqu⟩
  · exact ⟨st, (mem_insert hn.memberships).mpr (.inr rfl), hn.inTenant.trans hn.tenantID.symm⟩

theorem Staffed.call (hs : Staffed s) (c : Call) : Staffed (c.after s) := by
  cases c with
  | register cmd d => exact staffed_registerTenant cmd d s hs
  | lifecycle id x now => exact staffed_lifecycle x id now s hs
  | updateProfile id legalName displayName now => exact staffed_updateTenant _ _ _ s hs
  | addMembership m => exact staffed_addMembership m s hs
  | updateMembership tenantID id fn => exact staffed_updateMembership tenantID id fn s hs
  | addRole r => exact staffed_addRole r s hs
  | updateRole tenantID id fn => exact staffed_updateRole tenantID id fn s hs
  | addPerson p => exact staffed_addPerson p s hs
  | updatePerson id fn => exact staffed_updatePerson id fn s hs
  | updateLockoutState p => exact staffed_of_frame (fun _ => keeps_updateLockoutState p) s hs
  | addFamily f => exact staffed_of_frame (fun _ => keeps_addFamily f) s hs
  | updateFamily id fn => exact staffed_of_frame (fun _ => keeps_updateFamily id fn) s hs

theorem staffed_run {cs : List Call} (hr : Machine.run Call.step {} cs = some s) : Staffed s := by
  refine Machine.run_keeps ?_ ?_ hr
  · intro t ht
    cases ht
  · intro s c s' hs hst
    cases hst
    exact hs.call c

end Staffed

def DeleteSettles (s : Store) (id : String) (now : Time) : Prop :=
  (((hardDeleteTenant id now).run s).1 = .ok () ∧
      ((hardDeleteTenant id now).run s).2.tenant? id = none) ∨
    ∃ e, ((hardDeleteTenant id now).run s).1 = .error e ∧
      ((hardDeleteTenant id now).run s).2.tenant? id = s.tenant? id

theorem delete_settles_iff (cs : List Call) (s : Store)
    (hr : Machine.run Call.step {} cs = some s) (id : String) (now : Time) :
    DeleteSettles s id now ↔ id = "" ∨ s.hasActiveSuperAdmin id = true ∨
    ∀ t, s.tenant? id = some t → t.status ≠ .pending ∧ t.status ≠ .pendingDeletion := by
  -- A handler that fails with the store as it was settles.
  have hre : ∀ e, (hardDeleteTenant id now).run s = (.error e, s) → DeleteSettles s id now := by
    intro e hru
    right
    rw [hru]
    exact ⟨e, rfl, rfl⟩
  by_cases hid : id = ""
  · refine iff_of_true (hre .idRequired ?_) (.inl hid)
    unfold hardDeleteTenant
    rw [if_pos hid, fail_apply]
  by_cases ha : s.hasActiveSuperAdmin id = true
  · exact iff_of_true (hre _ (hardDeleteTenant_guarded now hid ha)) (.inr (.inl ha))
  have ha : s.hasActiveSuperAdmin id = false := by simpa using ha
  rcases hrow : s.tenant? id with _ | t
  · refine iff_of_true (hre _ (hardDeleteTenant_missing hid ha hrow)) ?_
    exact .inr (.inr (by simp))
  have hrf : s.referenced id = true := (staffed_run hr).referenced hrow
  -- Past the transition, the foreign keys refuse the rest.
  have hfa : (t.hardDelete now).2 = none → ∃ e, ((hardDeleteTenant id now).run s).1 = .error e ∧
        ((hardDeleteTenant id now).run s).2.tenant? id = some (persist (t.hardDelete now).1 t) := by
    intro hop
    rcases hardDeleteTenant_done hid ha hrow hop with ⟨-, hf⟩ | ⟨hfr, -⟩
    · exact hf
    · exact absurd hrf (by simp [hfr])
  by_cases hg : t.status = .deleted
  · have hsa : t.hardDelete now = (t, none) := by simp [Tenant.hardDelete, hg]
    obtain ⟨e, hf, haf⟩ := hfa (by rw [hsa])
    refine iff_of_true (.inr ⟨e, hf, ?_⟩) (.inr (.inr ?_))
    · rw [haf, hsa, persist_self, hrow]
    · rintro u ⟨⟩
      simp [hg]
  by_cases hm : t.status = .pending ∨ t.status = .pendingDeletion
  · have hop : (t.hardDelete now).2 = none ∧ (t.hardDelete now).1.status = .deleted := by
      rcases hm with hst | hst <;> simp [Tenant.hardDelete, hst, Tenant.recordEvent]
    obtain ⟨e, hf, haf⟩ := hfa hop.1
    refine iff_of_false ?_ ?_
    · rintro (⟨hok, -⟩ | ⟨-, -, hsa⟩)
      · exact absurd (hf.symm.trans hok) (by simp)
      · have heq := Option.some.inj ((haf.symm.trans hsa).trans hrow)
        have hss := congrArg Tenant.status heq
        rw [persist_status, hop.2] at hss
        exact hg hss.symm
    · rintro (h | h | h)
      · exact hid h
      · exact absurd h (by simp [ha])
      · obtain ⟨hp, hpd⟩ := h t rfl
        exact hm.elim hp hpd
  · have hop : ∃ e, (t.hardDelete now).2 = some e := by
      cases hs : t.status <;> simp_all [Tenant.hardDelete, Tenant.fail]
    obtain ⟨e, hop⟩ := hop
    obtain ⟨e', hru⟩ := hardDeleteTenant_refused hid ha hrow hop
    refine iff_of_true (hre e' hru) (.inr (.inr ?_))
    rintro u ⟨⟩
    exact not_or.mp hm

def acmeRegistration : Call := .register acmeCommand acmeDraws

theorem delete_settles_when_active :
    ∃ s, Machine.run Call.step {} [acmeRegistration, .lifecycle "t1" .activate 2] = some s ∧
    ((s.tenant? "t1").map Tenant.status) = some .active ∧ DeleteSettles s "t1" 3 := by
  refine Machine.exists_some (P := fun s => (s.tenant? "t1").map Tenant.status = some .active)
    (by decide +kernel) fun s hr hs => ⟨hs, ?_⟩
  refine (delete_settles_iff _ s hr "t1" 3).mpr (.inr (.inr fun t ht => ?_))
  rw [ht] at hs
  rw [Option.some.inj hs]
  decide

theorem delete_fails_after_commit : ∃ s, Machine.run Call.step {} [acmeRegistration] = some s ∧
    ((s.tenant? "t1").map Tenant.status) = some .pending ∧
    (((hardDeleteTenant "t1" 2).run s).2.tenant? "t1").map Tenant.status = some .deleted ∧
    ((hardDeleteTenant "t1" 2).run s).1 = .error (.other "hard_delete_tenant: row delete"
    (.foreign "tenant repo: hard delete")) ∧ ¬ DeleteSettles s "t1" 2 := by
  refine Machine.exists_some (P := fun s => (s.tenant? "t1").map Tenant.status = some .pending ∧
    (((hardDeleteTenant "t1" 2).run s).2.tenant? "t1").map Tenant.status = some .deleted ∧
    ((hardDeleteTenant "t1" 2).run s).1 = .error (.other "hard_delete_tenant: row delete"
      (.foreign "tenant repo: hard delete")))
    (by decide +kernel) fun s _ ⟨hb, ha, hf⟩ => ⟨hb, ha, hf, ?_⟩
  rintro (⟨hok, -⟩ | ⟨-, -, hs⟩)
  · exact absurd (hf.symm.trans hok) (by simp)
  · rw [hs, hb] at ha
    cases ha

end Leadkart
