import Mathlib.Logic.Function.Basic
import Leadkart.Logic.UpdateBy

/-!
# Programs of atomic calls
-/

namespace Leadkart

inductive Process (σ ε α : Type) where
  | done (r : Except ε α)
  | call (write : σ → σ) (next : σ → Process σ ε α)

namespace Process

variable {σ ε ε' α β : Type}

def bind (p : Process σ ε α) (f : α → Process σ ε β) : Process σ ε β :=
  match p with
  | done (.ok a) => f a
  | done (.error e) => done (.error e)
  | call write next => call write fun s => (next s).bind f

instance : Monad (Process σ ε) where
  pure a := done (.ok a)
  bind := bind

def fail (e : ε) : Process σ ε α := done (.error e)

def perform (x : Effect σ ε α) : Process σ ε α :=
  call (fun s => (x.run s).2) fun s => done (x.run s).1

def mapError (p : Process σ ε α) (f : ε → ε') : Process σ ε' α :=
  match p with
  | done r => done (r.mapError f)
  | call write next => call write fun s => (next s).mapError f

def attempt (p : Process σ ε α) : Process σ ε' (Except ε α) :=
  match p with
  | done r => done (.ok r)
  | call write next => call write fun s => (next s).attempt

def zoom {τ : Type} (get : τ → σ) (put : σ → τ → τ) (p : Process σ ε α) : Process τ ε α :=
  match p with
  | done r => done r
  | call write next => call (fun t => put (write (get t)) t) fun t => (next (get t)).zoom get put

def storeChanged (store : α → Effect σ ε Unit) : α × Except ε Bool → Process σ ε Unit
  | (_, .error e) => fail e
  | (_, .ok false) => pure ()
  | (a, .ok true) => perform (Effect.atomic (store a))

def updateBy (load : Effect σ ε α) (fn : α → α × Except ε Bool) (store : α → Effect σ ε Unit) :
    Process σ ε Unit := do
  let a ← perform load
  storeChanged store (fn a)

section

variable {I : Nat → σ → Prop} {R : σ → σ → Prop} {n : Nat}

def wp (I : Nat → σ → Prop) (R : σ → σ → Prop) (Q : Except ε α → Nat → Prop) :
    Nat → Process σ ε α → Prop
  | n, done r => Q r n
  | n, call write next => ∀ s, I n s → R s (write s) ∧ wp I R Q (n + 1) (next s)

abbrev thenMeets (I : Nat → σ → Prop) (R : σ → σ → Prop) (Q : Except ε β → Nat → Prop)
    (f : α → Process σ ε β) : Except ε α → Nat → Prop
  | .ok a, n => wp I R Q n (f a)
  | .error e, n => Q (.error e) n

variable {p : Process σ ε α}

theorem wp_bind {Q : Except ε β → Nat → Prop} {f : α → Process σ ε β}
    (h : wp I R (thenMeets I R Q f) n p) : wp I R Q n (p >>= f) := by
  induction p generalizing n with
  | done r =>
    cases r with
    | ok a => exact h
    | error e => exact h
  | call write next ih =>
    intro s hs
    exact ⟨(h s hs).1, ih s (h s hs).2⟩

abbrev wrapMeets (Q : Except ε' α → Nat → Prop) (f : ε → ε') : Except ε α → Nat → Prop
  | .ok a, n => Q (.ok a) n
  | .error e, n => Q (.error (f e)) n

theorem wp_mapError {Q : Except ε' α → Nat → Prop} {f : ε → ε'} (h : wp I R (wrapMeets Q f) n p) :
    wp I R Q n (p.mapError f) := by
  induction p generalizing n with
  | done r =>
    cases r with
    | ok a => exact h
    | error e => exact h
  | call write next ih =>
    intro s hs
    exact ⟨(h s hs).1, ih s (h s hs).2⟩

theorem wp_attempt {Q : Except ε' (Except ε α) → Nat → Prop} (h : wp I R (fun r => Q (.ok r)) n p) :
    wp I R Q n (p.attempt : Process σ ε' _) := by
  induction p generalizing n with
  | done r => exact h
  | call write next ih =>
    intro s hs
    exact ⟨(h s hs).1, ih s (h s hs).2⟩

variable {Q : Except ε α → Nat → Prop}

theorem wp_done {r : Except ε α} (hok : ∀ a, r = .ok a → Q (.ok a) n) (he : ∀ e, Q (.error e) n) :
    wp I R Q n (done r) := by
  cases r with
  | ok a => exact hok a rfl
  | error e => exact he e

variable {x : Effect σ ε α}

theorem wp_perform (h : ∀ s, I n s → R s (x.run s).2 ∧ Q (x.look s) (n + 1)) :
    wp I R Q n (perform x) := h

theorem wp_read (hr : ∀ n s, I n s → R s s) (hx : Effect.ReadOnly x)
    (h : ∀ s, I n s → Q (x.look s) (n + 1)) : wp I R Q n (perform x) := by
  refine wp_perform fun s hs => ⟨?_, h s hs⟩
  rw [hx.run_eq s]
  exact hr n s hs

theorem wp_mono {Q' : Except ε α → Nat → Prop} (hQ : ∀ r n, Q r n → Q' r n) (h : wp I R Q n p) :
    wp I R Q' n p := by
  induction p generalizing n with
  | done r => exact hQ r n h
  | call write next ih =>
    intro s hs
    exact ⟨(h s hs).1, ih s (h s hs).2⟩

theorem wp_updateBy {load : Effect σ ε α} {fn : α → α × Except ε Bool}
    {store : α → Effect σ ε Unit} (hr : ∀ n s, I n s → R s s) (hl : Effect.ReadOnly load)
    (hst : ∀ a s, I (n + 1) s → R s ((Effect.atomic (store a)).run s).2) :
    wp I R (fun _ _ => True) n (updateBy load fn store) := by
  have hc : ∀ r, wp I R (fun _ _ => True) (n + 1) (storeChanged store r) := by
    rintro ⟨a, e | _ | _⟩
    · trivial
    · trivial
    · exact wp_perform fun s hs => ⟨hst a s hs, trivial⟩
  refine wp_bind (wp_read hr hl fun s _ => ?_)
  rcases load.look s with e | a
  · trivial
  · exact hc (fn a)

theorem wp_zoom {τ : Type} {get : τ → σ} {put : σ → τ → τ} {J : Nat → τ → Prop} {S : τ → τ → Prop}
    (hI : ∀ n t, J n t → I n (get t)) (hR : ∀ n t s, J n t → R (get t) s → S t (put s t))
    (h : wp I R Q n p) : wp J S Q n (p.zoom get put) := by
  induction p generalizing n with
  | done r => exact h
  | call write next ih =>
    intro t ht
    obtain ⟨hw, hn⟩ := h (get t) (hI n t ht)
    exact ⟨hR n t _ ht hw, ih (get t) hn⟩

end

structure State (ι σ ε α : Type) where
  store : σ
  phase : ι → Process σ ε α
  calls : ι → Nat

variable {ι : Type} [DecidableEq ι]

def init (prog : ι → Process σ ε α) (s : σ) : State ι σ ε α where
  store := s
  phase := prog
  calls _ := 0

def step (st : State ι σ ε α) (i : ι) : Option (State ι σ ε α) :=
  match st.phase i with
  | done _ => none
  | call write next =>
    some {
      store := write st.store
      phase := Function.update st.phase i (next st.store)
      calls := Function.update st.calls i (st.calls i + 1) }

omit [DecidableEq ι] in
def Finds (K : ι → Nat → σ → Prop) (st : State ι σ ε α) (i : ι) : Prop := K i (st.calls i) st.store

instance (K : ι → Nat → σ → Prop) [∀ i n s, Decidable (K i n s)] (st : State ι σ ε α) (i : ι) :
    Decidable (Finds K st i) := inferInstanceAs (Decidable (K ..))

open Machine

variable {st st' : State ι σ ε α}

theorem step_call {i : ι} (h : step st i = some st') : ∃ write next, st.phase i = .call write next ∧
    st' = {
      store := write st.store
      phase := Function.update st.phase i (next st.store)
      calls := Function.update st.calls i (st.calls i + 1) } := by
  unfold step at h
  split at h
  next => cases h
  next write next hp => exact ⟨write, next, hp, (Option.some.inj h).symm⟩

variable {prog : ι → Process σ ε α} {P : σ → Prop} {K : ι → Nat → σ → Prop} {ls : List ι} {s : σ}

theorem run_rule {F : ι → Nat → Process σ ε α → Prop} (h0 : P s) (hin : ∀ i, F i 0 (prog i))
    (hc : ∀ i n write next s, F i n (.call write next) → P s → K i n s →
    P (write s) ∧ F i (n + 1) (next s)) (hC : Along step (Finds K) (init prog s) ls)
    (hr : run step (init prog s) ls = some st) :
    P st.store ∧ ∀ i, F i (st.calls i) (st.phase i) := by
  refine run_invariant (P := fun st => P st.store ∧ ∀ i, F i (st.calls i) (st.phase i))
    ⟨h0, hin⟩ ?_ hC hr
  rintro st i st' ⟨hP, hF⟩ hK hs
  obtain ⟨write, next, hp, rfl⟩ := step_call hs
  have hi := hF i
  rw [hp] at hi
  obtain ⟨hP', hi'⟩ := hc i _ write next _ hi hP hK
  refine ⟨hP', fun j => ?_⟩
  dsimp only
  by_cases hj : j = i
  · subst hj
    rw [Function.update_self, Function.update_self]
    exact hi'
  · rw [Function.update_of_ne hj, Function.update_of_ne hj]
    exact hF j

theorem step_wp {R : ι → σ → σ → Prop} (h0 : P s)
    (hpr : ∀ i, wp (fun n s => P s ∧ K i n s) (R i) (fun _ _ => True) 0 (prog i))
    (hR : ∀ i s s', P s → R i s s' → P s') {i : ι}
    (hC : Along step (Finds K) (init prog s) (ls ++ [i])) (hr : run step (init prog s) ls = some st)
    (hs : step st i = some st') : P st.store ∧ R i st.store st'.store := by
  obtain ⟨hP, hph⟩ := run_rule
    (F := fun i => wp (fun n s => P s ∧ K i n s) (R i) (fun _ _ => True)) h0 hpr
    (fun i n write next s hc hP hK => by
      obtain ⟨hw, hn⟩ := hc s ⟨hP, hK⟩
      exact ⟨hR i _ _ hP hw, hn⟩) hC.append_left hr
  obtain ⟨write, next, hp, rfl⟩ := step_call hs
  have hi := hph i
  rw [hp] at hi
  exact ⟨hP, (hi st.store ⟨hP, (hC.append_right hr).1⟩).1⟩

end Process

end Leadkart
