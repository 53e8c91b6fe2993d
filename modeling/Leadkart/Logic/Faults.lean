import Leadkart.Logic.Effect

/-!
# Computations whose calls may fail
-/

namespace Leadkart.Faults

open Leadkart.Effect

inductive Fault (ε : Type) where
  | refused (e : ε)
  | lost (e : ε)

structure Failure (κ : Type) where
  call : κ
  tookEffect : Bool
  deriving DecidableEq

structure Execution (σ κ : Type) where
  store : σ
  failed : List (Failure κ) := []

structure Plan (κ ε : Type) where
  fault : κ → Option (Fault ε)
  isFailure : ε → Bool

variable {σ κ ε ε' α β : Type} {plan : Plan κ ε} {k : κ} {ex : Execution σ κ}

def call (plan : Plan κ ε) (k : κ) (x : Effect σ ε α) : Effect (Execution σ κ) ε α := ⟨fun ex =>
  match plan.fault k, x.run ex.store with
  | some (.refused e), _ => (.error e, { ex with failed := ex.failed ++ [⟨k, false⟩] })
  | some (.lost e), (.ok _, s) => (.error e, ⟨s, ex.failed ++ [⟨k, true⟩]⟩)
  | _, (.ok a, s) => (.ok a, ⟨s, ex.failed⟩)
  | _, (.error e, s) =>
    (.error e, ⟨s, if plan.isFailure e then ex.failed ++ [⟨k, false⟩] else ex.failed⟩)⟩

inductive Answer (plan : Plan κ ε) (k : κ) (x : Effect σ ε α) (ex : Execution σ κ) :
    Except ε α → Execution σ κ → Prop
  | ok {a : α} {s : σ} : x.run ex.store = (.ok a, s) → Answer plan k x ex (.ok a) ⟨s, ex.failed⟩
  | failed (e : ε) : Answer plan k x ex (.error e) ⟨ex.store, ex.failed ++ [⟨k, false⟩]⟩
  | lost (e : ε) {a : α} {s : σ} : x.run ex.store = (.ok a, s) →
      Answer plan k x ex (.error e) ⟨s, ex.failed ++ [⟨k, true⟩]⟩
  | error {e : ε} : x.run ex.store = (.error e, ex.store) → plan.isFailure e = false →
      Answer plan k x ex (.error e) ex

theorem call_answer {x : Effect σ ε α}
    (hx : ∀ e s', x.run ex.store = (.error e, s') → s' = ex.store) :
    Answer plan k x ex ((call plan k x).run ex).1 ((call plan k x).run ex).2 := by
  rcases hr : x.run ex.store with ⟨_ | a, s⟩
  · obtain rfl := hx _ _ hr
    rcases hf : plan.fault k with _ | _ | _
    · simp only [call, hf, hr]
      split
      · exact .failed _
      · rename_i ha
        exact .error hr (by simpa using ha)
    · simp only [call, hf]
      exact .failed _
    · simp only [call, hf, hr]
      split
      · exact .failed _
      · rename_i ha
        exact .error hr (by simpa using ha)
  · rcases hf : plan.fault k with _ | _ | _
    · simp only [call, hf, hr]
      exact .ok hr
    · simp only [call, hf]
      exact .failed _
    · simp only [call, hf, hr]
      exact .lost _ hr

def Ends (P : Execution σ κ → Prop) (x : Effect (Execution σ κ) ε α) (ex : Execution σ κ) : Prop :=
  P (x.run ex).2

variable {P : Execution σ κ → Prop}

theorem ends_bind {x : Effect (Execution σ κ) ε α} {f : α → Effect (Execution σ κ) ε β}
    (he : ∀ e ex', x.run ex = (.error e, ex') → P ex')
    (hok : ∀ a ex', x.run ex = (.ok a, ex') → Ends P (f a) ex') : Ends P (x >>= f) ex := by
  show P ((x >>= f).run ex).2
  rw [bind_apply]
  rcases hx : x.run ex with ⟨e | a, ex'⟩
  · exact he e ex' hx
  · exact hok a ex' hx

theorem mapError_run {x : Effect σ ε α} {f : ε → ε'} (s : σ) :
    (x.mapError f).run s = ((x.run s).1.mapError f, (x.run s).2) := by
  rcases h : x.run s with ⟨_ | _, _⟩ <;> simp only [mapError, h] <;> rfl

theorem ends_call_bind {x : Effect σ ε α} {g : ε → ε'} {f : α → Effect (Execution σ κ) ε' β}
    (hx : ∀ e s', x.run ex.store = (.error e, s') → s' = ex.store)
    (hs : ∀ r ex', Answer plan k x ex r ex' → (∃ e, r = .error e) → P ex')
    (hok : ∀ a s, x.run ex.store = (.ok a, s) → Ends P (f a) ⟨s, ex.failed⟩) :
    Ends P ((call plan k x).mapError g >>= f) ex := by
  have ha : Answer plan k x ex ((call plan k x).run ex).1 ((call plan k x).run ex).2 :=
    call_answer hx
  refine ends_bind (fun e ex' h => ?_) fun a ex' h => ?_
  · rw [mapError_run, Prod.mk.injEq] at h
    obtain ⟨h₁, rfl⟩ := h
    refine hs _ _ ha ?_
    rcases hr : ((call plan k x).run ex).1 with e' | a
    · exact ⟨e', rfl⟩
    · rw [hr] at h₁
      cases h₁
  · rw [mapError_run, Prod.mk.injEq] at h
    obtain ⟨h₁, rfl⟩ := h
    generalize ((call plan k x).run ex).2 = ex' at ha ⊢
    rw [except_mapError_ok h₁] at ha
    cases ha with
    | ok hru => exact hok a _ hru

theorem ends_attempt_call_bind {x : Effect σ ε α} {f : Except ε α → Effect (Execution σ κ) ε' β}
    (hx : ∀ e s', x.run ex.store = (.error e, s') → s' = ex.store)
    (h : ∀ r ex', Answer plan k x ex r ex' → Ends P (f r) ex') :
    Ends P ((call plan k x).attempt >>= f) ex := h _ _ (call_answer hx)

end Leadkart.Faults
