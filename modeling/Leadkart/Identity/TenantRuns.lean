import Mathlib.Tactic.MkIffOfInductiveProp
import Leadkart.Identity.Tenant
import Leadkart.Logic.Machine

/-!
# Whole runs of a tenant
-/

namespace Leadkart.Tenant

open Machine

inductive Logged (St Co Se Di : Type) where
  | lifecycle (e : Event)
  | statutoryUpdated (tenantID : String) (old new : St) (at_ : Time)
  | adminContactUpdated (tenantID : String) (old new : Co) (at_ : Time)
  | settingsUpdated (tenantID : String) (old new : Se) (at_ : Time)
  | displayPreferencesUpdated (tenantID : String) (old new : Di) (at_ : Time)

/-- The whole aggregate; `log` has every recorded event in its place. -/
structure Account (St Co Se Di : Type) where
  tenant : Tenant
  statutory : St
  adminContact : Co
  settings : Se
  displayPreferences : Di
  log : List (Logged St Co Se Di)

inductive Mutator (St Co Se Di : Type) where
  | updateProfile (legalName displayName : String) (now : Time)
  | activate (now : Time)
  | suspend (reason : String) (now : Time)
  | updateStatutory (s : St) (now : Time)
  | updateAdminContact (c : Co) (now : Time)
  | updateSettings (s : Se) (now : Time)
  | updateDisplayPreferences (d : Di) (now : Time)
  | markForDeletion (reason : String) (now : Time)
  | restoreFromDeletion (now : Time)
  | hardDelete (now : Time)

section Account

variable {St Co Se Di : Type}

namespace Account

def ofNew (t : Tenant) (s : St) (co : Co) (se : Se) (d : Di) : Account St Co Se Di :=
  ⟨t, s, co, se, d, t.events.map .lifecycle⟩

def transition (a : Account St Co Se Di) (r : Result) : Account St Co Se Di × Option Err :=
  ({ a with
      tenant := r.1
      log := a.log ++ (r.1.events.drop a.tenant.events.length).map .lifecycle }, r.2)

def replace (a : Account St Co Se Di) (what : String) (same : Bool) (a' : Account St Co Se Di)
    (e : Logged St Co Se Di) : Account St Co Se Di × Option Err :=
  if a.tenant.status = .deleted then
    (a, some ⟨errInvalid, "tenant deleted; cannot update " ++ what⟩)
  else if same then (a, none)
  else ({ a' with log := a.log ++ [e] }, none)

variable [BEq St] [BEq Co] [BEq Se] [BEq Di]

def updateStatutory (a : Account St Co Se Di) (s : St) (now : Time) :=
  a.replace "statutory" (a.statutory == s) { a with statutory := s }
    (.statutoryUpdated a.tenant.id a.statutory s now)

def updateAdminContact (a : Account St Co Se Di) (c : Co) (now : Time) :=
  a.replace "admin contact" (a.adminContact == c) { a with adminContact := c }
    (.adminContactUpdated a.tenant.id a.adminContact c now)

def updateSettings (a : Account St Co Se Di) (s : Se) (now : Time) :=
  a.replace "settings" (a.settings == s) { a with settings := s }
    (.settingsUpdated a.tenant.id a.settings s now)

def updateDisplayPreferences (a : Account St Co Se Di) (d : Di) (now : Time) :=
  a.replace "display preferences" (a.displayPreferences == d) { a with displayPreferences := d }
    (.displayPreferencesUpdated a.tenant.id a.displayPreferences d now)

def apply (a : Account St Co Se Di) : Mutator St Co Se Di → Account St Co Se Di × Option Err
  | .updateProfile legalName displayName now =>
    a.transition (a.tenant.updateProfile legalName displayName now)
  | .activate now => a.transition (a.tenant.activate now)
  | .suspend reason now => a.transition (a.tenant.suspend reason now)
  | .updateStatutory s now => a.updateStatutory s now
  | .updateAdminContact c now => a.updateAdminContact c now
  | .updateSettings s now => a.updateSettings s now
  | .updateDisplayPreferences d now => a.updateDisplayPreferences d now
  | .markForDeletion reason now => a.transition (a.tenant.markForDeletion reason now)
  | .restoreFromDeletion now => a.transition (a.tenant.restoreFromDeletion now)
  | .hardDelete now => a.transition (a.tenant.hardDelete now)

def step (a : Account St Co Se Di) (c : Mutator St Co Se Di) : Option (Account St Co Se Di) :=
  some (a.apply c).1

end Account

/-- The status that the events tell, and whether the tenant was deleted out of pending deletion. -/
def Logged.track : Status × Bool → Logged St Co Se Di → Status × Bool
  | _, .lifecycle (.registered ..) => (.pending, false)
  | _, .lifecycle (.activated ..) | _, .lifecycle (.restored ..) => (.active, false)
  | _, .lifecycle (.suspended ..) => (.suspended, false)
  | _, .lifecycle (.markedForDeletion ..) => (.pendingDeletion, false)
  | (status, _), .lifecycle (.deleted ..) => (.deleted, status = .pendingDeletion)
  | past, _ => past

@[mk_iff]
structure Stamped (t : Tenant) (marked : Bool) : Prop where
  hard : t.hardDeletedAt ≠ 0 ↔ t.status = .deleted
  scheduled : t.deletionScheduledAt ≠ 0 ↔ t.status = .pendingDeletion ∨ marked = true
  reason : t.deletionReason ≠ "" ↔ t.status = .pendingDeletion ∨ marked = true

namespace Account

def past (a : Account St Co Se Di) : Status × Bool := a.log.foldl Logged.track (.unknown, false)

theorem past_deleted (a : Account St Co Se Di) (h : a.past.2 = true) : a.past.1 = .deleted := by
  have hf (log : List (Logged St Co Se Di)) (v : Status × Bool) (hv : v.2 = true → v.1 = .deleted) :
      (log.foldl Logged.track v).2 = true → (log.foldl Logged.track v).1 = .deleted := by
    induction log generalizing v with
    | nil => exact hv
    | cons e log ih =>
      refine ih _ ?_
      unfold Logged.track
      split <;> simp_all
  exact hf a.log _ (by simp) h

variable [BEq St] [BEq Co] [BEq Se] [BEq Di]

structure Holds (a : Account St Co Se Di) (c : Mutator St Co Se Di) : Prop where
  edge : (a.apply c).1.tenant.status ∈ a.tenant.status.next
  stamped : Stamped (a.apply c).1.tenant (a.apply c).1.past.2
  reset : ∀ now, c = .activate now → (a.apply c).1.log ≠ a.log →
    (a.apply c).1.tenant.suspendedAt = 0
  quiet : (a.apply c).2 ≠ none ∨ (a.apply c).1.log = a.log → (a.apply c).1 = a
  replay : (a.apply c).1.past.1 = (a.apply c).1.tenant.status

def Careful (a : Account St Co Se Di) : Mutator St Co Se Di → Prop
  | .activate _ =>
    a.tenant.status = .pending ∨ a.tenant.status = .suspended → a.tenant.suspendedAt = 0
  | .markForDeletion reason now =>
    isBlank reason = false → a.tenant.status = .active ∨ a.tenant.status = .suspended → now ≠ 0
  | .hardDelete now =>
    a.tenant.status = .pending ∨ a.tenant.status = .pendingDeletion → now ≠ 0
  | _ => True

structure Inv (a : Account St Co Se Di) : Prop where
  stamped : Stamped a.tenant a.past.2
  replay : a.past.1 = a.tenant.status
  known : a.tenant.status ≠ .unknown

variable {a : Account St Co Se Di} {c : Mutator St Co Se Di}

theorem status_mem_next (s : Status) : s ∈ s.next := by
  cases s <;> simp [Status.next]

theorem holds_of_same (h : a.Inv) (hs : (a.apply c).1 = a) : a.Holds c where
  edge := by rw [hs]; exact status_mem_next _
  stamped := by rw [hs]; exact h.stamped
  reset _ _ hl := absurd (congrArg log hs) hl
  quiet _ := hs
  replay := by rw [hs]; exact h.replay

theorem holds_iff_of_recorded {a' : Account St Co Se Di} {e : Logged St Co Se Di}
    (ha : a.apply c = (a', none)) (hl : a'.log = a.log ++ [e])
    (he : a'.tenant.status ∈ a.tenant.status.next) (hre : (e.track a.past).1 = a'.tenant.status) :
    a.Holds c ↔ Stamped a'.tenant (e.track a.past).2 ∧
    ∀ now, c = .activate now → a'.tenant.suspendedAt = 0 := by
  have hp : a'.past = e.track a.past := by
    rw [past, hl, List.foldl_append]
    rfl
  constructor
  · intro h
    have hs := h.stamped
    have hr := h.reset
    rw [ha] at hs hr
    exact ⟨hp ▸ hs, fun now hc => hr now hc (by rw [hl]; simp)⟩
  · rintro ⟨hs, hr⟩
    refine ⟨?_, ?_, fun now hc _ => ?_, fun hq => ?_, ?_⟩ <;> rw [ha] at *
    · exact he
    · exact hp ▸ hs
    · exact hr now hc
    · rcases hq with h | h
      · exact absurd rfl h
      · rw [hl] at h
        simp at h
    · rw [hp]
      exact hre

omit [BEq St] [BEq Co] [BEq Se] [BEq Di] in
theorem Inv.clean (h : a.Inv) (hp : a.tenant.status ≠ .pendingDeletion)
    (hd : a.tenant.status ≠ .deleted) : a.tenant.hardDeletedAt = 0 ∧
    a.tenant.deletionScheduledAt = 0 ∧ a.tenant.deletionReason = "" := by
  have hf : ¬ a.past.2 = true := fun hf => hd (h.replay.symm.trans (past_deleted a hf))
  have hn : ¬ (a.tenant.status = .pendingDeletion ∨ a.past.2 = true) := not_or.mpr ⟨hp, hf⟩
  exact ⟨not_not.mp (h.stamped.hard.not.mpr hd), not_not.mp (h.stamped.scheduled.not.mpr hn),
    not_not.mp (h.stamped.reason.not.mpr hn)⟩

theorem holds_of_replace (h : a.Inv) {what : String} {same : Bool} {a' : Account St Co Se Di}
    {e : Logged St Co Se Di} (ha : a.apply c = a.replace what same a' e)
    (ht : a'.tenant = a.tenant) (he : ∀ v, e.track v = v) (hc : ∀ now, c ≠ .activate now) :
    a.Holds c := by
  unfold replace at ha
  split at ha
  · exact holds_of_same h (by rw [ha])
  split at ha
  · exact holds_of_same h (by rw [ha])
  · refine (holds_iff_of_recorded ha rfl ?_ ?_).mpr ⟨?_, fun now hn => absurd hn (hc now)⟩
    · rw [ht]
      exact status_mem_next _
    · rw [he, ht]
      exact h.replay
    · rw [he, ht]
      exact h.stamped

theorem holds_iff_of_transition (h : a.Inv) {r : Result} {careful : Prop}
    (ha : a.apply c = a.transition r)
    (hr : r.1 = a.tenant ∧ careful ∨ ∃ t e, r = (recordEvent t e, none) ∧
    t.events = a.tenant.events ∧ t.status ∈ a.tenant.status.next ∧
    ((.lifecycle e : Logged St Co Se Di).track a.past).1 = t.status ∧
    (Stamped t ((.lifecycle e : Logged St Co Se Di).track a.past).2 ∧
    (∀ now, c = .activate now → t.suspendedAt = 0) ↔ careful)) : a.Holds c ↔ careful := by
  rcases hr with ⟨hsa, hc⟩ | ⟨t, e, rfl, he, hed, hry, hi⟩
  · refine iff_of_true (holds_of_same h ?_) hc
    rw [ha]
    simp [transition, hsa]
  · rw [← hi]
    have hre : a.apply c =
        ({ a with tenant := recordEvent t e, log := a.log ++ [.lifecycle e] }, none) := by
      rw [ha]
      simp [transition, recordEvent, he]
    rw [holds_iff_of_recorded hre rfl hed hry]
    exact and_congr_left fun _ => ⟨fun hs => ⟨hs.hard, hs.scheduled, hs.reason⟩,
      fun hs => ⟨hs.hard, hs.scheduled, hs.reason⟩⟩

theorem holds_iff_careful (h : a.Inv) : a.Holds c ↔ a.Careful c := by
  have hc := h.clean
  cases c with
  | updateStatutory | updateAdminContact | updateSettings | updateDisplayPreferences =>
    exact iff_of_true (holds_of_replace h rfl rfl (fun _ => rfl) fun _ => nofun) trivial
  | updateProfile legalName displayName now =>
    refine holds_iff_of_transition h rfl ?_
    unfold updateProfile
    repeat' split
    all_goals first | exact .inl ⟨rfl, trivial⟩ | skip
    exact .inr ⟨_, _, rfl, rfl, status_mem_next _, h.replay,
      iff_of_true ⟨⟨h.stamped.hard, h.stamped.scheduled, h.stamped.reason⟩, fun _ => nofun⟩ trivial⟩
  | activate now =>
    refine holds_iff_of_transition h rfl ?_
    cases hs : a.tenant.status with
    | unknown => exact absurd hs h.known
    | active | pendingDeletion | deleted => exact .inl (by simp [activate, hs, fail, Careful])
    | pending | suspended =>
      refine .inr ⟨{ a.tenant with status := .active, activatedAt := now }, _,
        by simp only [activate, hs]; rfl, rfl, by simp [Status.next], rfl, ?_⟩
      simp_all [stamped_iff, Logged.track, Careful]
  | suspend reason now =>
    refine holds_iff_of_transition h rfl ?_
    cases hs : a.tenant.status with
    | unknown => exact absurd hs h.known
    | suspended | pendingDeletion | deleted =>
      refine .inl ⟨?_, trivial⟩
      unfold suspend
      split <;> simp [fail, hs]
    | pending | active =>
      unfold suspend
      split
      · exact .inl ⟨rfl, trivial⟩
      · refine .inr ⟨{ a.tenant with status := .suspended, suspendedAt := now }, _,
          by simp only [hs]; rfl, rfl, by simp [Status.next], rfl, ?_⟩
        simp_all [stamped_iff, Logged.track, Careful]
  | markForDeletion reason now =>
    refine holds_iff_of_transition h rfl ?_
    unfold markForDeletion
    cases hb : isBlank reason with
    | true => exact .inl (by simp [fail, Careful, hb])
    | false =>
      cases hs : a.tenant.status with
      | unknown => exact absurd hs h.known
      | pendingDeletion =>
        refine .inl ⟨?_, by simp [Careful, hs]⟩
        rw [if_neg Bool.false_ne_true]
        dsimp only
        split <;> rfl
      | deleted | pending => exact .inl (by simp [fail, Careful, hs])
      | active | suspended =>
        have hreason : reason ≠ "" := by
          rintro rfl
          exact absurd hb (by decide)
        refine .inr ⟨{ a.tenant with
          status := .pendingDeletion, deletionScheduledAt := now, deletionReason := reason }, _,
          rfl, rfl, by simp [Status.next], rfl, ?_⟩
        simp_all [stamped_iff, Logged.track, Careful]
  | restoreFromDeletion now =>
    refine holds_iff_of_transition h rfl ?_
    cases hs : a.tenant.status with
    | pendingDeletion =>
      refine .inr ⟨{ a.tenant with
        status := .active, deletionScheduledAt := 0, deletionReason := "", activatedAt := now }, _,
        by simp only [restoreFromDeletion, hs]; rfl, rfl, by simp [Status.next], rfl, ?_⟩
      have hh := h.stamped.hard
      simp_all [stamped_iff, Logged.track, Careful]
    | _ => exact .inl (by simp [restoreFromDeletion, hs, fail, Careful])
  | hardDelete now =>
    refine holds_iff_of_transition h rfl ?_
    cases hs : a.tenant.status with
    | unknown => exact absurd hs h.known
    | pending | pendingDeletion =>
      refine .inr ⟨{ a.tenant with status := .deleted, hardDeletedAt := now }, _,
        by simp only [hardDelete, hs]; rfl, rfl, by simp [Status.next], rfl, ?_⟩
      have hst := h.stamped
      have hr := h.replay
      simp_all [stamped_iff, Logged.track, Careful]
    | deleted | active | suspended => exact .inl (by simp [hardDelete, hs, fail, Careful])

theorem Inv.apply (h : a.Inv) (hc : a.Holds c) : (a.apply c).1.Inv := by
  refine ⟨hc.stamped, hc.replay, fun hu => ?_⟩
  have he := hc.edge
  rw [hu] at he
  have hk := h.known
  cases hs : a.tenant.status <;> simp_all [Status.next]

theorem along_iff (h : a.Inv) (cs : List (Mutator St Co Se Di)) :
    Along step Holds a cs ↔ Along step Careful a cs := by
  induction cs generalizing a with
  | nil => exact Iff.rfl
  | cons c cs ih =>
    rw [along_cons rfl, along_cons rfl, holds_iff_careful h]
    exact and_congr_right fun hc => ih (h.apply ((holds_iff_careful h).mpr hc))

end Account

open Account

variable {id slug legalName displayName adminEmail : String} {now : Time} {t : Tenant}
  (h : new id slug legalName displayName adminEmail now = .ok t)

include h

theorem inv_ofNew (s : St) (co : Co) (se : Se) (d : Di) : (ofNew t s co se d).Inv := by
  obtain ⟨-, rfl⟩ := new_ok h
  constructor
  · constructor <;> simp [ofNew, past, Logged.track]
  · rfl
  · simp [ofNew]

variable [BEq St] [BEq Co] [BEq Se] [BEq Di]

theorem runs_coherent_iff (s : St) (co : Co) (se : Se) (d : Di) (cs : List (Mutator St Co Se Di)) :
    Along step Holds (ofNew t s co se d) cs ↔ Along step Careful (ofNew t s co se d) cs :=
  along_iff (inv_ofNew h s co se d) cs

end Account

open Account

def acme : Tenant where
  id := "t"
  slug := "acme"
  legalName := "Acme"
  displayName := "Acme"
  status := .pending
  createdAt := 1
  events := [.registered "t" "acme" "Acme" "Acme" "a@acme.in" 1]

theorem acme_new : new "t" "acme" "Acme" "Acme" "a@acme.in" 1 = .ok acme := rfl

theorem runs_coherent_of_deletion : new "t" "acme" "Acme" "Acme" "a@acme.in" 1 = .ok acme ∧
    Along step Holds (ofNew acme () () () ())
    [.activate 2, .suspend "unpaid" 3, .markForDeletion "closed" 4, .hardDelete 5] :=
  ⟨acme_new, (runs_coherent_iff acme_new () () () () _).mpr
    ⟨fun _ => rfl, trivial, fun _ _ => by decide, fun _ => by decide, trivial⟩⟩

theorem suspendedAt_kept_by_activate : new "t" "acme" "Acme" "Acme" "a@acme.in" 1 = .ok acme ∧
    ¬ Along step Holds (ofNew acme () () () ()) [.suspend "unpaid" 2, .activate 3] := by
  refine ⟨acme_new, ?_⟩
  rintro ⟨-, hh, -⟩
  exact absurd (hh.reset 3 rfl (fun h => absurd (congrArg List.length h) (by decide))) (by decide)

end Leadkart.Tenant
