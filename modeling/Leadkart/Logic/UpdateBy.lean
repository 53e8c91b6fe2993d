import Leadkart.Logic.Effect
import Leadkart.Logic.Rmw

/-!
# Updates of one row by a closure
-/

namespace Leadkart.Effect

variable {σ ε α : Type}

def checked (checks : Except ε Unit) (fn : α → α × Except ε Bool) (a : α) : α × Except ε Bool :=
  match checks with
  | .error e => (a, .error e)
  | .ok () => fn a

def change (fn : α → α × Except ε Bool) (a : α) : Option α :=
  match fn a with
  | (a', .ok true) => some a'
  | _ => none

def updateByTxn (load : Effect σ ε α) (fn : α → α × Except ε Bool) (store : α → Effect σ ε Unit) :
    Rmw.Txn σ α :=
  Rmw.updateTxn (fun s => (load.look s).toOption) (change fn) fun a s => (store a).commits s

variable {load : Effect σ ε α} {fn : α → α × Except ε Bool} {store : α → Effect σ ε Unit} {s s' : σ}
  {a a' : α} {checks : Except ε Unit} {persist : Bool}

theorem checked_eq :
    checked checks fn a = (a', .ok persist) ↔ checks = .ok () ∧ fn a = (a', .ok persist) := by
  unfold checked
  rcases checks with e | ⟨⟩ <;> simp

theorem change_eq_some : change fn a = some a' ↔ fn a = (a', .ok true) := by
  unfold change
  constructor
  · intro h
    split at h
    next hfn => rwa [Option.some.inj h] at hfn
    next => cases h
  · intro h
    rw [h]

theorem updateByTxn_attempt {seen : List σ} (h : (updateByTxn load fn store).attempt seen = some a') :
    ∃ s a, seen = [s] ∧ load.look s = .ok a ∧ fn a = (a', .ok true) := by
  obtain ⟨s, a, rfl, hl, hc⟩ := Rmw.updateTxn_attempt h
  exact ⟨s, a, rfl, except_toOption.mp hl, change_eq_some.mp hc⟩

theorem updateByTxn_write (h : (updateByTxn load fn store).write a s = some s') :
    (store a).run s = (.ok (), s') := by
  obtain ⟨⟨⟩, hs⟩ := commits_eq_some.mp h
  exact hs

end Leadkart.Effect
