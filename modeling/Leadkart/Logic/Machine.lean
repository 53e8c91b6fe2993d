import Mathlib.Data.List.Basic

/-!
# Runs of a partial step function
-/

namespace Leadkart.Machine

variable {S L : Type*}

section

variable (step : S → L → Option S)

def run : S → List L → Option S
  | s, [] => some s
  | s, l :: ls => (step s l).bind fun s' => run s' ls

def Along (C : S → L → Prop) : S → List L → Prop
  | _, [] => True
  | s, l :: ls => C s l ∧ match step s l with
    | none => True
    | some s' => Along C s' ls

instance Along.decidable (C : S → L → Prop) [∀ s l, Decidable (C s l)] :
    ∀ (s : S) (ls : List L), Decidable (Along step C s ls)
  | _, [] => .isTrue trivial
  | s, l :: ls =>
    match hs : step s l with
    | none => decidable_of_iff (C s l) (by simp [Along, hs])
    | some s' =>
      have : Decidable (Along step C s' ls) := Along.decidable C s' ls
      decidable_of_iff (C s l ∧ Along step C s' ls) (by simp [Along, hs])

end

variable {step : S → L → Option S} {C : S → L → Prop}

@[simp] theorem run_nil (s : S) : run step s [] = some s := rfl

theorem run_cons (s : S) (l : L) (ls : List L) :
    run step s (l :: ls) = (step s l).bind fun s' => run step s' ls := rfl

variable {s t : S} {l : L} {ls : List L}

theorem run_cons_eq_some :
    run step s (l :: ls) = some t ↔ ∃ s', step s l = some s' ∧ run step s' ls = some t := by
  rw [run_cons, Option.bind_eq_some_iff]

theorem run_append (s : S) (ls ls' : List L) :
    run step s (ls ++ ls') = (run step s ls).bind fun s' => run step s' ls' := by
  induction ls generalizing s with
  | nil => rfl
  | cons l ls ih =>
    rw [List.cons_append, run_cons, run_cons, Option.bind_assoc]
    congr 1
    funext s'
    exact ih s'

theorem run_concat (h : run step s ls = some t) : run step s (ls ++ [l]) = step t l := by
  rw [run_append, h, Option.bind_some, run_cons]
  cases step t l <;> rfl

theorem along_cons {s' : S} (hs : step s l = some s') :
    Along step C s (l :: ls) ↔ C s l ∧ Along step C s' ls := by
  simp only [Along, hs]

variable {ls' : List L}

theorem Along.append_right (h : Along step C s (ls ++ ls')) (hr : run step s ls = some t) :
    Along step C t ls' := by
  induction ls generalizing s with
  | nil =>
    obtain rfl : s = t := by simpa using hr
    exact h
  | cons l ls ih =>
    obtain ⟨s', hs, hr'⟩ := run_cons_eq_some.mp hr
    exact ih ((along_cons hs).mp h).2 hr'

theorem Along.append_left (h : Along step C s (ls ++ ls')) : Along step C s ls := by
  induction ls generalizing s with
  | nil => trivial
  | cons l ls ih =>
    refine ⟨h.1, ?_⟩
    have h2 := h.2
    cases hs : step s l with
    | none => trivial
    | some s' =>
      rw [hs] at h2
      exact ih h2

variable {P : S → Prop}

theorem run_invariant (h0 : P s) (hst : ∀ s l s', P s → C s l → step s l = some s' → P s')
    (hC : Along step C s ls) (hr : run step s ls = some t) : P t := by
  induction ls generalizing s with
  | nil =>
    obtain rfl : s = t := by simpa using hr
    exact h0
  | cons l ls ih =>
    obtain ⟨s', hs, hr'⟩ := run_cons_eq_some.mp hr
    obtain ⟨hc, hre⟩ := (along_cons hs).mp hC
    exact ih (hst s l s' h0 hc hs) hre hr'

theorem run_keeps (h0 : P s) (hst : ∀ s l s', P s → step s l = some s' → P s')
    (hr : run step s ls = some t) : P t := by
  induction ls generalizing s with
  | nil =>
    obtain rfl : s = t := by simpa using hr
    exact h0
  | cons l ls ih =>
    obtain ⟨s', hs, hr'⟩ := run_cons_eq_some.mp hr
    exact ih (hst s l s' h0 hs) hr'

theorem Along.mono {C' : S → L → Prop} (h : Along step C s ls) (hi : ∀ s l, C s l → C' s l) :
    Along step C' s ls := by
  induction ls generalizing s with
  | nil => trivial
  | cons l ls ih =>
    refine ⟨hi s l h.1, ?_⟩
    have hr := h.2
    cases hs : step s l with
    | none => trivial
    | some s' =>
      rw [hs] at hr
      exact ih hr

theorem along_of_forall (h : ∀ s l, C s l) (s : S) (ls : List L) : Along step C s ls := by
  induction ls generalizing s with
  | nil => trivial
  | cons l ls ih =>
    refine ⟨h s l, ?_⟩
    cases step s l with
    | none => trivial
    | some s' => exact ih s'

theorem Along.and_labels {Q : L → Prop} (h : Along step C s ls) (hQ : ∀ l ∈ ls, Q l) :
    Along step (fun s l => C s l ∧ Q l) s ls := by
  induction ls generalizing s with
  | nil => trivial
  | cons l ls ih =>
    refine ⟨⟨h.1, hQ l (List.mem_cons_self ..)⟩, ?_⟩
    have hr := h.2
    cases hs : step s l with
    | none => trivial
    | some s' =>
      rw [hs] at hr
      exact ih hr fun k hk => hQ k (List.mem_cons_of_mem l hk)

theorem exists_some {α : Type*} {o : Option α} {P Q : α → Prop} [DecidablePred P]
    (h : o.any (fun a => decide (P a)) = true) (hQ : ∀ a, o = some a → P a → Q a) :
    ∃ a, o = some a ∧ Q a := by
  obtain ⟨a, ha, hP⟩ := (Option.any_eq_true ..).mp h
  exact ⟨a, ha, hQ a ha (of_decide_eq_true hP)⟩

theorem exists_some₂ {α β : Type*} {o : Option α} {q : α → Option β} {P Q : α → β → Prop}
    [∀ a b, Decidable (P a b)] (h : o.any (fun a => (q a).any fun b => decide (P a b)) = true)
    (hQ : ∀ a b, o = some a → q a = some b → P a b → Q a b) :
    ∃ a b, o = some a ∧ q a = some b ∧ Q a b := by
  obtain ⟨a, ha, h⟩ := (Option.any_eq_true ..).mp h
  obtain ⟨b, hb, hP⟩ := (Option.any_eq_true ..).mp h
  exact ⟨a, b, ha, hb, hQ a b ha hb (of_decide_eq_true hP)⟩

end Leadkart.Machine
