import Mathlib.Data.List.Basic

/-!
# Aggregates that record what happens to them

A call answers with the new state and an error. Either nothing changes, or one event is recorded
that tells what changed.
-/

namespace Leadkart

structure Aggregate (S E C V ε : Type) where
  apply : C → S → S × Option ε
  events : S → List E
  closed : S → Bool
  closing : E → Bool
  view : S → V
  fold : V → E → V

namespace Aggregate

variable {S E C V ε : Type} (A : Aggregate S E C V ε)

def call (s : S) (c : C) : S := (A.apply c s).1

def run (s : S) (cs : List C) : S := cs.foldl A.call s

structure Records (s s' : S) : Prop where
  isOpen : A.closed s = false
  event : ∃ e, A.events s' = A.events s ++ [e] ∧ A.closing e = A.closed s' ∧
    A.fold (A.view s) e = A.view s'

def Lawful : Prop := ∀ c s, A.call s c = s ∨ (A.apply c s).2 = none ∧ A.Records s (A.call s c)

/-- The state of a run that began with what `v` shows. -/
structure Sound (v : V) (s : S) : Prop where
  frozen : A.closed s = true → ∀ cs, A.run s cs = s
  quiet : ∀ c, (A.apply c s).2 ≠ none ∨ A.events (A.call s c) = A.events s → A.call s c = s
  replay : (A.events s).foldl A.fold v = A.view s
  once : (A.events s).countP A.closing ≤ 1

variable {A} {s : S} {v : V}

theorem run_invariant {P : S → Prop} (h : P s) (hs : ∀ s c, P s → P (A.call s c))
    (cs : List C) : P (A.run s cs) := by
  induction cs generalizing s with
  | nil => exact h
  | cons c cs ih => exact ih (hs s c h)

theorem run_of_closed (hA : A.Lawful) (h : A.closed s = true) (cs : List C) : A.run s cs = s := by
  refine run_invariant (P := fun s' => s' = s) rfl ?_ cs
  intro s' c hs
  rw [hs]
  rcases hA c s with hsa | ⟨-, hr⟩
  · exact hsa
  · rw [hr.isOpen] at h
    cases h

theorem call_of_quiet (hA : A.Lawful) {c : C}
    (h : (A.apply c s).2 ≠ none ∨ A.events (A.call s c) = A.events s) : A.call s c = s := by
  rcases hA c s with hs | ⟨hnone, hr⟩
  · exact hs
  · obtain ⟨e, he, -⟩ := hr.event
    rcases h with her | hq
    · exact absurd hnone her
    · rw [he] at hq
      simp at hq

theorem run_sound (hA : A.Lawful) (hr : (A.events s).foldl A.fold v = A.view s)
    (ho : (A.events s).countP A.closing = (A.closed s).toNat) (cs : List C) :
    A.Sound v (A.run s cs) := by
  have hl : (A.events (A.run s cs)).foldl A.fold v = A.view (A.run s cs) ∧
      (A.events (A.run s cs)).countP A.closing = (A.closed (A.run s cs)).toNat := by
    refine run_invariant (P := fun s => (A.events s).foldl A.fold v = A.view s ∧
      (A.events s).countP A.closing = (A.closed s).toNat) ⟨hr, ho⟩ ?_ cs
    rintro s c ⟨hr, ho⟩
    rcases hA c s with hs | ⟨-, hop, e, he, hc, hf⟩
    · rw [hs]
      exact ⟨hr, ho⟩
    · rw [he, List.foldl_append, hr, List.countP_append, ho, hop]
      refine ⟨hf, ?_⟩
      rw [List.countP_singleton, hc]
      cases A.closed (A.call s c) <;> rfl
  exact ⟨run_of_closed hA, fun _ => call_of_quiet hA, hl.1, hl.2 ▸ Bool.toNat_le _⟩

end Aggregate

end Leadkart
