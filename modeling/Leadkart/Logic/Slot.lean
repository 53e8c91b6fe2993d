import Mathlib.Data.List.Basic
import Mathlib.Data.List.TakeDrop

/-!
# One pending slot
-/

namespace Leadkart.Slot

variable {S L R : Type*}

def stateAt (step : S → L → S) (s : S) (ls : List L) (n : Nat) : S := (ls.take n).foldl step s

def after (pending opened : Option R) (ended : Bool) : Option R :=
  match opened with
  | some r => some r
  | none => if ended then none else pending

@[simp] theorem after_some (pending : Option R) (r : R) (ended : Bool) :
    after pending (some r) ended = some r := rfl

@[simp] theorem after_ended (pending : Option R) : after pending none true = none := rfl

@[simp] theorem after_kept (pending : Option R) : after pending none false = pending := rfl

def Discipline (step : S → L → S) (slot : S → Option R) (opens : S → L → Option R)
    (ends : S → L → Bool) : Prop := ∀ s l, slot (step s l) = after (slot s) (opens s l) (ends s l)

variable {step : S → L → S} {slot : S → Option R} {opens : S → L → Option R}
  {ends : S → L → Bool} {s : S} {ls : List L} {n : Nat} {r : R}

theorem stateAt_succ {l : L} (h : ls[n]? = some l) :
    stateAt step s ls (n + 1) = step (stateAt step s ls n) l := by
  unfold stateAt
  rw [List.take_add_one, h, Option.toList_some, List.foldl_append, List.foldl_cons, List.foldl_nil]

theorem Discipline.since (hd : Discipline step slot opens ends) (hs : slot s = none)
    (hn : n ≤ ls.length) (h : slot (stateAt step s ls n) = some r) :
    ∃ k l, k < n ∧ ls[k]? = some l ∧ opens (stateAt step s ls k) l = some r ∧
    ∀ j l', k < j → j < n → ls[j]? = some l' →
    opens (stateAt step s ls j) l' = none ∧ ends (stateAt step s ls j) l' = false := by
  induction n with
  | zero =>
    have hnone : slot (stateAt step s ls 0) = none := hs
    rw [hnone] at h
    cases h
  | succ n ih =>
    have hl : ls[n]? = some (ls.get ⟨n, hn⟩) := List.getElem?_eq_getElem hn
    generalize ls.get ⟨n, hn⟩ = l at hl
    rw [stateAt_succ hl, hd] at h
    rcases ho : opens (stateAt step s ls n) l with _ | r'
    · rcases he : ends (stateAt step s ls n) l with _ | _
      · -- the operation left the slot alone
        rw [ho, he, after_kept] at h
        obtain ⟨k, l₀, hk, hl₀, hr, hq⟩ := ih (Nat.le_of_succ_le hn) h
        refine ⟨k, l₀, Nat.lt_succ_of_lt hk, hl₀, hr, fun j l' hkj hjn hl' => ?_⟩
        rcases Nat.lt_succ_iff_lt_or_eq.mp hjn with hjn | rfl
        · exact hq j l' hkj hjn hl'
        · rw [hl] at hl'
          cases hl'
          exact ⟨ho, he⟩
      · rw [ho, he, after_ended] at h
        cases h
    · rw [ho, after_some] at h
      cases h
      exact ⟨n, l, Nat.lt_succ_self n, hl, ho, fun j l' hnj hjn _ => by omega⟩

end Leadkart.Slot
