import Mathlib.Data.Set.Basic
import Leadkart.Logic.Effect
import Leadkart.Logic.Machine

/-!
# Transactions with row locks
-/

namespace Leadkart

/-! ## Programs -/

inductive Transaction (κ σ ε α : Type) where
  | done (r : Except ε α)
  | select (k : σ → Transaction κ σ ε α)
  | exec (keys : σ → List κ) (write : σ → σ → σ) (k : σ → Transaction κ σ ε α)

namespace Transaction

variable {κ σ ε ε' α β : Type}

def bind (x : Transaction κ σ ε α) (f : α → Transaction κ σ ε β) : Transaction κ σ ε β :=
  match x with
  | done (.ok a) => f a
  | done (.error e) => done (.error e)
  | select k => select fun s => (k s).bind f
  | exec keys write k => exec keys write fun s => (k s).bind f

instance : Monad (Transaction κ σ ε) where
  pure a := done (.ok a)
  bind := bind

protected theorem bind_assoc {γ : Type} (x : Transaction κ σ ε α) (f : α → Transaction κ σ ε β)
    (g : β → Transaction κ σ ε γ) : x >>= f >>= g = x >>= fun a => f a >>= g := by
  induction x with
  | done r =>
    cases r with
    | ok a => rfl
    | error e => rfl
  | select k ih => exact congrArg select (funext ih)
  | exec keys write k ih => exact congrArg (exec keys write) (funext ih)

def fail (e : ε) : Transaction κ σ ε α := done (.error e)

def ofExcept (r : Except ε α) : Transaction κ σ ε α := done r

def attempt (x : Transaction κ σ ε α) : Transaction κ σ ε' (Except ε α) :=
  match x with
  | done r => done (.ok r)
  | select k => select fun s => (k s).attempt
  | exec keys write k => exec keys write fun s => (k s).attempt

def mapError (x : Transaction κ σ ε α) (f : ε → ε') : Transaction κ σ ε' α :=
  match x with
  | done r => done (r.mapError f)
  | select k => select fun s => (k s).mapError f
  | exec keys write k => exec keys write fun s => (k s).mapError f

def query (f : σ → Except ε α) : Transaction κ σ ε α := select fun s => done (f s)

def statement (keys : σ → List κ) (f : σ → Except ε (α × (σ → σ))) : Transaction κ σ ε α :=
  exec keys
    (fun s =>
      match f s with
      | .ok (_, write) => write
      | .error _ => id)
    fun s => done ((f s).map Prod.fst)

def applied (f : σ → Except ε σ) (s : σ) : σ :=
  match f s with
  | .ok s' => s'
  | .error _ => s

def write (keys : σ → List κ) (f : σ → Except ε σ) : Transaction κ σ ε Unit :=
  statement keys fun s => (f s).map fun _ => ((), applied f)

def replay (f : σ → Except ε σ) (s : σ) : σ → σ :=
  match f s with
  | .ok _ => applied f
  | .error _ => id

theorem replay_self {f : σ → Except ε σ} {s s' : σ} (h : f s = .ok s') : replay f s s = s' := by
  unfold replay applied
  rw [h]
  dsimp only
  rw [h]

theorem write_eq (keys : σ → List κ) (f : σ → Except ε σ) :
    write keys f = exec keys (replay f) fun s => done ((f s).map fun _ => ()) := by
  refine congr (congrArg (exec keys) (funext fun s => ?_)) (funext fun s => ?_)
  · unfold replay
    dsimp only
    cases f s with
    | ok s' => rfl
    | error e => rfl
  · dsimp only
    cases f s with
    | ok s' => rfl
    | error e => rfl

def effect : Transaction κ σ ε α → Effect σ ε α
  | done r => Effect.ofExcept r
  | select k => ⟨fun s => (k s).effect.run s⟩
  | exec _ write k => ⟨fun s => (k s).effect.run (write s s)⟩

@[simp] theorem effect_ofExcept (r : Except ε α) :
    (ofExcept r : Transaction κ σ ε α).effect = Effect.ofExcept r := rfl

@[simp] theorem effect_pure (a : α) : (pure a : Transaction κ σ ε α).effect = pure a := rfl

@[simp] theorem effect_fail (e : ε) : (fail e : Transaction κ σ ε α).effect = Effect.fail e := rfl

@[simp] theorem effect_query (f : σ → Except ε α) :
    (query f : Transaction κ σ ε α).effect = Effect.query f := rfl

@[simp] theorem effect_bind (x : Transaction κ σ ε α) (f : α → Transaction κ σ ε β) :
    (x >>= f).effect = x.effect >>= fun a => (f a).effect := by
  induction x with
  | done r =>
    cases r with
    | ok a => rfl
    | error e => rfl
  | select k ih =>
    refine congrArg Effect.mk (funext fun s => ?_)
    exact congrArg (fun y => y.run s) (ih s)
  | exec keys write k ih =>
    refine congrArg Effect.mk (funext fun s => ?_)
    exact congrArg (fun y => y.run (write s s)) (ih s)

@[simp] theorem effect_mapError (x : Transaction κ σ ε α) (f : ε → ε') :
    (x.mapError f).effect = x.effect.mapError f := by
  induction x with
  | done r =>
    cases r with
    | ok a => rfl
    | error e => rfl
  | select k ih =>
    refine congrArg Effect.mk (funext fun s => ?_)
    exact congrArg (fun y => y.run s) (ih s)
  | exec keys write k ih =>
    refine congrArg Effect.mk (funext fun s => ?_)
    exact congrArg (fun y => y.run (write s s)) (ih s)

@[simp] theorem effect_attempt (x : Transaction κ σ ε α) :
    (x.attempt : Transaction κ σ ε' _).effect = x.effect.attempt := by
  induction x with
  | done r => rfl
  | select k ih =>
    refine congrArg Effect.mk (funext fun s => ?_)
    exact congrArg (fun y => y.run s) (ih s)
  | exec keys write k ih =>
    refine congrArg Effect.mk (funext fun s => ?_)
    exact congrArg (fun y => y.run (write s s)) (ih s)

@[simp] theorem effect_write (keys : σ → List κ) (f : σ → Except ε σ) :
    (write keys f).effect = Effect.write f := by
  refine congrArg Effect.mk (funext fun s => ?_)
  dsimp only
  rcases hf : f s with e | s'
  · rfl
  · show (_, applied f s) = _
    unfold applied
    rw [hf]
    rfl

end Transaction

/-! ## Disciplines -/

structure Discipline (κ σ : Type) where
  Inv : σ → Prop
  (Guar Rely : Set κ → σ → σ → Prop)
  refl (H : Set κ) (s : σ) : Rely H s s
  trans {H : Set κ} {s t u : σ} : Rely H s t → Rely H t u → Rely H s u
  keeps {H : Set κ} {s t : σ} : Inv s → Guar H s t → Inv t
  apart {H H' : Set κ} {s t : σ} : Inv s → Guar H s t → (∀ c ∈ H, c ∉ H') → Rely H' s t

structure Held (κ σ : Type) where
  pending : σ → σ
  locks : Set κ

structure Held.Adds {κ σ : Type} (h : Held κ σ) (write : σ → σ) (keys : List κ) (h' : Held κ σ) :
    Prop where
  pending (s : σ) : h'.pending s = write (h.pending s)
  locks : h.locks ⊆ h'.locks
  keys (c : κ) : c ∈ keys → c ∈ h'.locks

namespace Transaction

variable {κ σ ε ε' α β : Type} {D : Discipline κ σ}

def wp (D : Discipline κ σ) (Q : Except ε α → Held κ σ → σ → Prop) :
    Transaction κ σ ε α → Held κ σ → σ → Prop
  | done r, h, s => Q r h s
  | select k, h, s => ∀ t, D.Rely h.locks s t → D.Inv t → (k (h.pending t)).wp D Q h t
  | exec keys write k, h, s => ∀ t, D.Rely h.locks s t → D.Inv t →
      (k (h.pending t)).wp D Q
        ⟨fun x => write (h.pending t) (h.pending x), h.locks ∪ {c | c ∈ keys (h.pending t)}⟩ t

abbrev thenMeets (D : Discipline κ σ) (Q : Except ε β → Held κ σ → σ → Prop)
    (f : α → Transaction κ σ ε β) : Except ε α → Held κ σ → σ → Prop
  | .ok a, h, s => (f a).wp D Q h s
  | .error e, h, s => Q (.error e) h s

variable {f : α → Transaction κ σ ε β} {x : Transaction κ σ ε α} {h : Held κ σ} {s : σ}

theorem wp_bind {Q : Except ε β → Held κ σ → σ → Prop} (hx : x.wp D (thenMeets D Q f) h s) :
    (x >>= f).wp D Q h s := by
  induction x generalizing h s with
  | done r =>
    cases r with
    | ok a => exact hx
    | error e => exact hx
  | select k ih | exec keys write k ih =>
    intro t hr hi
    exact ih _ (hx t hr hi)

abbrev wrapMeets (Q : Except ε' α → Held κ σ → σ → Prop) (f : ε → ε') :
    Except ε α → Held κ σ → σ → Prop
  | .ok a, h, s => Q (.ok a) h s
  | .error e, h, s => Q (.error (f e)) h s

theorem wp_mapError {Q : Except ε' α → Held κ σ → σ → Prop} {f : ε → ε'}
    (hx : x.wp D (wrapMeets Q f) h s) : (x.mapError f).wp D Q h s := by
  induction x generalizing h s with
  | done r =>
    cases r with
    | ok a => exact hx
    | error e => exact hx
  | select k ih | exec keys write k ih =>
    intro t hr hi
    exact ih _ (hx t hr hi)

theorem wp_attempt {Q : Except ε' (Except ε α) → Held κ σ → σ → Prop}
    (hx : x.wp D (fun r => Q (.ok r)) h s) : (x.attempt : Transaction κ σ ε' _).wp D Q h s := by
  induction x generalizing h s with
  | done r => exact hx
  | select k ih | exec keys write k ih =>
    intro t hr hi
    exact ih _ (hx t hr hi)

variable {Q : Except ε α → Held κ σ → σ → Prop}

theorem wp_pure {a : α} (hQ : Q (.ok a) h s) : (pure a : Transaction κ σ ε α).wp D Q h s := hQ

theorem wp_fail {e : ε} (hQ : Q (.error e) h s) : (fail e : Transaction κ σ ε α).wp D Q h s := hQ

variable {r : Except ε α}

theorem wp_ofExcept (hok : ∀ a, r = .ok a → Q (.ok a) h s) (he : ∀ t e h, Q (.error e) h t) :
    (ofExcept r).wp D Q h s := by
  cases r with
  | ok a => exact hok a rfl
  | error e => exact he s e h

theorem wp_query {f : σ → Except ε α}
    (hQ : ∀ t, D.Rely h.locks s t → D.Inv t → Q (f (h.pending t)) h t) : (query f).wp D Q h s := hQ

theorem wp_statement {keys : σ → List κ} {f : σ → Except ε (α × (σ → σ))}
    (hok : ∀ t a write h', D.Rely h.locks s t → D.Inv t → f (h.pending t) = .ok (a, write) →
    h.Adds write (keys (h.pending t)) h' → Q (.ok a) h' t) (he : ∀ t e h, Q (.error e) h t) :
    (statement keys f).wp D Q h s := by
  intro t hr hi
  have hok := hok t
  unfold wp
  dsimp only
  cases hf : f (h.pending t) with
  | error e => exact he t e _
  | ok r =>
    refine hok r.1 r.2 _ hr hi hf ?_
    exact ⟨fun _ => rfl, Set.subset_union_left, fun c hc => .inr hc⟩

theorem wp_write {Q : Except ε Unit → Held κ σ → σ → Prop} {keys : σ → List κ} {f : σ → Except ε σ}
    (hok : ∀ t u h', D.Rely h.locks s t → D.Inv t → f (h.pending t) = .ok u →
    h.Adds (applied f) (keys (h.pending t)) h' → Q (.ok ()) h' t)
    (he : ∀ t e h, Q (.error e) h t) : (write keys f).wp D Q h s := by
  refine wp_statement (fun t a w h' hr hi hf ha => ?_) he
  rcases hfu : f (h.pending t) with e | u
  · rw [hfu] at hf
    cases hf
  · rw [hfu] at hf
    cases hf
    exact hok t u h' hr hi hfu ha

theorem wp_mono {Q' : Except ε α → Held κ σ → σ → Prop} (hQ : ∀ r h s, Q r h s → Q' r h s)
    (hx : x.wp D Q h s) : x.wp D Q' h s := by
  induction x generalizing h s with
  | done r => exact hQ r h s hx
  | select k ih | exec keys write k ih =>
    intro t hr hi
    exact ih _ (hx t hr hi)

theorem wp_stable (hQ : ∀ r h s t, Q r h s → D.Rely h.locks s t → Q r h t) {t : σ}
    (hx : x.wp D Q h s) (hr : D.Rely h.locks s t) : x.wp D Q h t := by
  cases x with
  | done r => exact hQ r h s t hx hr
  | select k | exec keys write k =>
    intro u hr' hi'
    exact hx u (D.trans hr hr') hi'

def Commits (D : Discipline κ σ) (Post : α → σ → σ → Prop) : Except ε α → Held κ σ → σ → Prop
  | .ok a, h, s => ∀ t, D.Rely h.locks s t → D.Inv t →
      D.Guar h.locks t (h.pending t) ∧ Post a t (h.pending t)
  | .error _, _, _ => True

theorem Commits.stable {Post : α → σ → σ → Prop} {t : σ} (hr : Commits D Post r h s)
    (hre : D.Rely h.locks s t) : Commits D Post r h t := by
  cases r with
  | error e => trivial
  | ok a =>
    intro u hre' hi'
    exact hr u (D.trans hre hre') hi'

def Meets (D : Discipline κ σ) (x : Transaction κ σ ε α) (Post : α → σ → σ → Prop) : Prop :=
  ∀ s, D.Inv s → x.wp D (Commits D Post) ⟨id, ∅⟩ s

def Within (R : σ → σ → Prop) : Transaction κ σ ε α → Prop
  | done _ => True
  | select k => ∀ s, (k s).Within R
  | exec _ write k => ∀ s, (∀ t, R t (write s t)) ∧ (k s).Within R

section Within

variable {R : σ → σ → Prop}

theorem within_ofExcept (r : Except ε α) : (ofExcept r : Transaction κ σ ε α).Within R := trivial

variable {x : Transaction κ σ ε α} {f : α → Transaction κ σ ε β}

theorem within_bind (hx : x.Within R) (hf : ∀ a, (f a).Within R) : (x >>= f).Within R := by
  induction x with
  | done r =>
    cases r with
    | ok a => exact hf a
    | error e => trivial
  | select k ih =>
    intro s
    exact ih s (hx s)
  | exec keys write k ih =>
    intro s
    exact ⟨(hx s).1, ih s (hx s).2⟩

theorem within_ofExcept_bind {r : Except ε α} (hf : ∀ a, r = .ok a → (f a).Within R) :
    (ofExcept r >>= f).Within R := by
  cases r with
  | ok a => exact hf a rfl
  | error e => trivial

theorem within_query_bind {g : σ → Except ε α} (hf : ∀ s a, g s = .ok a → (f a).Within R) :
    (query g >>= f).Within R := by
  intro s
  exact within_ofExcept_bind (hf s)

theorem within_mapError {f : ε → ε'} (hx : x.Within R) : (x.mapError f).Within R := by
  induction x with
  | done r => trivial
  | select k ih =>
    intro s
    exact ih s (hx s)
  | exec keys write k ih =>
    intro s
    exact ⟨(hx s).1, ih s (hx s).2⟩

theorem within_statement (hr : ∀ s, R s s) {keys : σ → List κ}
    {f : σ → Except ε (α × (σ → σ))} (hf : ∀ s a w, f s = .ok (a, w) → ∀ t, R t (w t)) :
    (statement keys f).Within R := by
  intro s
  refine ⟨fun t => ?_, trivial⟩
  dsimp only
  rcases hs : f s with e | ⟨a, w⟩
  · exact hr t
  · exact hf s a w hs t

theorem within_write (hr : ∀ s, R s s) {keys : σ → List κ} {f : σ → Except ε σ}
    (hf : ∀ s t, f s = .ok t → R s t) : (write keys f).Within R := by
  intro s
  refine ⟨fun t => ?_, trivial⟩
  dsimp only
  rcases f s with e | s'
  · exact hr t
  · show R t (applied f t)
    unfold applied
    split
    next u hu => exact hf t u hu
    next => exact hr t

theorem wp_of_within (ht : ∀ {s t u}, R s t → R t u → R s u) (hx : x.Within R) {h : Held κ σ}
    (hp : ∀ t, R t (h.pending t)) {s : σ} : x.wp D (fun _ h' _ => ∀ t, R t (h'.pending t)) h s := by
  induction x generalizing h s with
  | done r => exact hp
  | select k ih =>
    intro t _ _
    exact ih _ (hx _) hp
  | exec keys write k ih =>
    intro t _ _
    exact ih _ (hx _).2 fun u => ht (hp u) ((hx _).1 _)

theorem meets_of_within (hr : ∀ s, R s s) (ht : ∀ {s t u}, R s t → R t u → R s u)
    (hg : ∀ H s t, R s t → D.Guar H s t) (hx : x.Within R) : Meets D x fun _ s t => R s t := by
  intro s _
  have hp : ∀ t, R t ((⟨id, ∅⟩ : Held κ σ).pending t) := hr
  refine wp_mono (fun r h t hR => ?_) (wp_of_within (R := R) ht hx hp)
  cases r with
  | error e => trivial
  | ok a => exact fun u _ _ => ⟨hg _ _ _ (hR u), hR u⟩

end Within

def Blind : Transaction κ σ ε α → Prop
  | done _ => True
  | select _ => False
  | exec _ _ k => ∀ s, (k s).Blind

theorem blind_bind (hx : x.Blind) (hf : ∀ a, (f a).Blind) : (x >>= f).Blind := by
  induction x with
  | done r =>
    cases r with
    | ok a => exact hf a
    | error e => trivial
  | select k ih => exact hx.elim
  | exec keys write k ih =>
    intro s
    exact ih s (hx s)

theorem blind_mapError {f : ε → ε'} (hx : x.Blind) : (x.mapError f).Blind := by
  induction x with
  | done r => trivial
  | select k ih => exact hx.elim
  | exec keys write k ih =>
    intro s
    exact ih s (hx s)

theorem blind_write {keys : σ → List κ} {f : σ → Except ε σ} : (write keys f).Blind :=
  fun _ => trivial

end Transaction

/-! ## Clients -/

namespace Transactions

open Machine Transaction
open Function (update update_self update_of_ne)

structure Client (κ σ ε α : Type) where
  attempt : Nat → Transaction κ σ ε α
  giveUp : Nat → ε → Option ε

inductive Phase (κ σ ε α : Type) where
  | running (n : Nat) (rest : Transaction κ σ ε α) (pending : σ → σ)
  | returned (r : Except ε α)

def Phase.result {κ σ ε α : Type} : Phase κ σ ε α → Option (Except ε α)
  | running .. => none
  | returned r => some r

structure State (ι κ σ ε α : Type) where
  store : σ
  holder : κ → Option ι
  phase : ι → Phase κ σ ε α
  log : List (ι × α)

inductive Label (ι ε : Type) where
  | step (i : ι)
  | fail (i : ι) (e : ε)

variable {ι κ σ ε α : Type} [DecidableEq ι] [DecidableEq κ]

def init (client : ι → Client κ σ ε α) (s : σ) : State ι κ σ ε α where
  store := s
  holder _ := none
  phase i := .running 0 ((client i).attempt 0) id
  log := []

def release (holder : κ → Option ι) (i : ι) : κ → Option ι :=
  fun c => if holder c = some i then none else holder c

def available (holder : κ → Option ι) (i : ι) (keys : List κ) : Bool :=
  keys.all fun c => holder c = none ∨ holder c = some i

def take (holder : κ → Option ι) (i : ι) (keys : List κ) : κ → Option ι :=
  fun c => if c ∈ keys then some i else holder c

def afterError (client : Client κ σ ε α) (n : Nat) (e : ε) : Phase κ σ ε α :=
  match client.giveUp n e with
  | some e' => .returned (.error e')
  | none => .running (n + 1) (client.attempt (n + 1)) id

def step (client : ι → Client κ σ ε α) (st : State ι κ σ ε α) : Label ι ε → Option (State ι κ σ ε α)
  | .step i =>
    match st.phase i with
    | .running n (.select k) pending =>
      some { st with
        phase := update st.phase i (.running n (k (pending st.store)) pending) }
    | .running n (.exec keys write k) pending =>
      if available st.holder i (keys (pending st.store)) then
        some { st with
          holder := take st.holder i (keys (pending st.store))
          phase := update st.phase i (.running n (k (pending st.store))
            fun x => write (pending st.store) (pending x)) }
      else none
    | .running _ (.done (.ok a)) pending =>
      some {
        store := pending st.store
        holder := release st.holder i
        phase := update st.phase i (.returned (.ok a))
        log := (i, a) :: st.log }
    | .running n (.done (.error e)) _ =>
      some { st with
        holder := release st.holder i
        phase := update st.phase i (afterError (client i) n e) }
    | .returned _ => none
  | .fail i e =>
    match st.phase i with
    | .running .. =>
      some { st with
        holder := release st.holder i
        phase := update st.phase i (.returned (.error e)) }
    | .returned _ => none

def Label.who : Label ι ε → ι
  | step i => i
  | fail i _ => i

def State.commits (st : State ι κ σ ε α) (i : ι) : Bool :=
  match st.phase i with
  | .running _ (.done (.ok _)) _ => true
  | _ => false

def CommitsOn (K : ι → σ → Prop) (st : State ι κ σ ε α) : Label ι ε → Prop
  | .step i => st.commits i = true → K i st.store
  | .fail _ _ => True

instance (K : ι → σ → Prop) [∀ i s, Decidable (K i s)] (st : State ι κ σ ε α) (l : Label ι ε) :
    Decidable (CommitsOn K st l) :=
  match l with
  | .step _ => inferInstanceAs (Decidable (_ → _))
  | .fail _ _ => inferInstanceAs (Decidable True)

def locksOf (holder : κ → Option ι) (i : ι) : Set κ := {c | holder c = some i}

variable {holder : κ → Option ι} {i j : ι} {keys : List κ}

omit [DecidableEq ι] [DecidableEq κ] in
theorem locksOf_disjoint (h : i ≠ j) : ∀ c ∈ locksOf holder i, c ∉ locksOf holder j := by
  intro c hi hj
  exact h (Option.some.inj ((Eq.symm hi).trans hj))

omit [DecidableEq κ] in
theorem locksOf_release_self : locksOf (release holder i) i = ∅ := by
  refine Set.eq_empty_iff_forall_notMem.mpr fun c hc => ?_
  have hh : release holder i c = some i := hc
  unfold release at hh
  split at hh
  · cases hh
  · contradiction

omit [DecidableEq κ] in
theorem locksOf_release_of_ne (h : j ≠ i) : locksOf (release holder i) j = locksOf holder j := by
  ext c
  show release holder i c = some j ↔ holder c = some j
  unfold release
  by_cases hc : holder c = some i
  · simp [hc, h.symm]
  · simp [hc]

omit [DecidableEq ι] in
theorem locksOf_take_self : locksOf (take holder i keys) i = locksOf holder i ∪ {c | c ∈ keys} := by
  ext c
  show take holder i keys c = some i ↔ holder c = some i ∨ c ∈ keys
  unfold take
  by_cases hc : c ∈ keys <;> simp [hc]

theorem locksOf_take_of_ne (h : j ≠ i) (hf : available holder i keys) :
    locksOf (take holder i keys) j = locksOf holder j := by
  ext c
  show take holder i keys c = some j ↔ holder c = some j
  unfold take
  by_cases hc : c ∈ keys
  · have ho : holder c = none ∨ holder c = some i := of_decide_eq_true (List.all_eq_true.mp hf c hc)
    rcases ho with ho | ho <;> simp [hc, ho, h.symm]
  · simp [hc]

section

variable {client : ι → Client κ σ ε α} {st st' : State ι κ σ ε α}

theorem step_step (hs : step client st (.step i) = some st') :
    ∃ n rest pending, st.phase i = .running n rest pending ∧ ((∃ k, rest = .select k ∧
    st' = { st with
            phase := update st.phase i (.running n (k (pending st.store)) pending) }) ∨
        (∃ keys write k, rest = .exec keys write k ∧
          available st.holder i (keys (pending st.store)) = true ∧
          st' = { st with
            holder := take st.holder i (keys (pending st.store))
            phase := update st.phase i (.running n (k (pending st.store))
              fun x => write (pending st.store) (pending x)) }) ∨
        (∃ a, rest = .done (.ok a) ∧ st' =
            { store := pending st.store
              holder := release st.holder i
              phase := update st.phase i (.returned (.ok a))
              log := (i, a) :: st.log }) ∨
        ∃ e, rest = .done (.error e) ∧
          st' = { st with
            holder := release st.holder i
            phase := update st.phase i (afterError (client i) n e) }) := by
  unfold Transactions.step at hs
  dsimp only at hs
  split at hs
  next n k pending hp =>
    exact ⟨n, _, pending, hp, .inl ⟨k, rfl, (Option.some.inj hs).symm⟩⟩
  next n keys write k pending hp =>
    split at hs
    next hf =>
      refine ⟨n, _, pending, hp, .inr (.inl ⟨keys, write, k, rfl, hf, ?_⟩)⟩
      exact (Option.some.inj hs).symm
    next => cases hs
  next n a pending hp =>
    exact ⟨n, _, pending, hp, .inr (.inr (.inl ⟨a, rfl, (Option.some.inj hs).symm⟩))⟩
  next n e pending hp =>
    exact ⟨n, _, pending, hp, .inr (.inr (.inr ⟨e, rfl, (Option.some.inj hs).symm⟩))⟩
  next => cases hs

variable {n : Nat} {k : σ → Transaction κ σ ε α} {pending : σ → σ}

theorem step_of_select (hp : st.phase i = .running n (.select k) pending)
    (hs : step client st (.step i) = some st') : st' = { st with
      phase := update st.phase i (.running n (k (pending st.store)) pending) } := by
  unfold Transactions.step at hs
  dsimp only at hs
  rw [hp] at hs
  exact (Option.some.inj hs).symm

theorem step_of_exec {keys : σ → List κ} {write : σ → σ → σ}
    (hp : st.phase i = .running n (.exec keys write k) pending)
    (hs : step client st (.step i) = some st') :
    available st.holder i (keys (pending st.store)) = true ∧
    st' = { st with
        holder := take st.holder i (keys (pending st.store))
        phase := update st.phase i (.running n (k (pending st.store))
          fun x => write (pending st.store) (pending x)) } := by
  unfold Transactions.step at hs
  dsimp only at hs
  rw [hp] at hs
  dsimp only at hs
  split at hs
  · exact ⟨‹_›, (Option.some.inj hs).symm⟩
  · cases hs

theorem step_of_ok {a : α} (hp : st.phase i = .running n (.done (.ok a)) pending)
    (hs : step client st (.step i) = some st') : st' =
    { store := pending st.store
      holder := release st.holder i
      phase := update st.phase i (.returned (.ok a))
      log := (i, a) :: st.log } := by
  unfold Transactions.step at hs
  dsimp only at hs
  rw [hp] at hs
  exact (Option.some.inj hs).symm

theorem step_fail {e : ε} (hs : step client st (.fail i e) = some st') :
    (∃ n rest pending, st.phase i = .running n rest pending) ∧
    st' = { st with
        holder := release st.holder i
        phase := update st.phase i (.returned (.error e)) } := by
  unfold Transactions.step at hs
  dsimp only at hs
  split at hs
  next n rest pending hp => exact ⟨⟨n, rest, pending, hp⟩, (Option.some.inj hs).symm⟩
  next => cases hs

theorem step_running {l : Label ι ε} (hs : step client st l = some st') (r : Except ε α) :
    st.phase l.who ≠ .returned r := by
  intro hp
  cases l with
  | step i =>
    obtain ⟨n, rest, pending, hr, -⟩ := step_step hs
    cases hp.symm.trans hr
  | fail i e =>
    obtain ⟨⟨n, rest, pending, hr⟩, -⟩ := step_fail hs
    cases hp.symm.trans hr

end

variable {client : ι → Client κ σ ε α} {D : Discipline κ σ} {Post : ι → α → σ → σ → Prop}
  {st st' : State ι κ σ ε α}

structure Sound (D : Discipline κ σ) (Post : ι → α → σ → σ → Prop) (st : State ι κ σ ε α) :
    Prop where
  inv : D.Inv st.store
  running (i : ι) (n : Nat) (rest : Transaction κ σ ε α) (pending : σ → σ) :
    st.phase i = .running n rest pending →
      rest.wp D (Commits D (Post i)) ⟨pending, locksOf st.holder i⟩ st.store
  logged (i : ι) (a : α) : (i, a) ∈ st.log ↔ st.phase i = .returned (.ok a)

variable {s : σ}

omit [DecidableEq ι] [DecidableEq κ] in
theorem sound_init (hcl : ∀ i n, Meets D ((client i).attempt n) (Post i)) (hi : D.Inv s) :
    Sound D Post (init client s) where
  inv := hi
  running i n rest pending h := by
    obtain ⟨-, rfl, rfl⟩ := Phase.running.inj h
    have he : locksOf (fun _ => none : κ → Option ι) i = ∅ :=
      Set.eq_empty_iff_forall_notMem.mpr fun _ hc => nomatch hc
    rw [show locksOf (init client s).holder i = ∅ from he]
    exact hcl i 0 s hi
  logged _ _ := ⟨(fun h => nomatch h), (fun h => nomatch h)⟩

variable {ph : Phase κ σ ε α}

omit [DecidableEq κ] in
theorem Sound.advance (h : Sound D Post st) {holder : κ → Option ι}
    (hr : ∀ r, st.phase i ≠ .returned r) (ho : ∀ a, ph ≠ .returned (.ok a))
    (hl : ∀ j, j ≠ i → locksOf holder j = locksOf st.holder j)
    (hph : ∀ n rest pending, ph = .running n rest pending →
    rest.wp D (Commits D (Post i)) ⟨pending, locksOf holder i⟩ st.store) :
    Sound D Post { st with holder, phase := update st.phase i ph } where
  inv := h.inv
  running j n rest pending hj := by
    dsimp only at hj ⊢
    by_cases hji : j = i
    · subst hji
      rw [update_self] at hj
      exact hph n rest pending hj
    · rw [update_of_ne hji] at hj
      rw [hl j hji]
      exact h.running j n rest pending hj
  logged j a := by
    dsimp only
    rw [h.logged]
    by_cases hji : j = i
    · subst hji
      rw [update_self]
      exact iff_of_false (hr _) (ho a)
    · rw [update_of_ne hji]

structure Silent (st st' : State ι κ σ ε α) : Prop where
  store : st'.store = st.store
  log : st'.log = st.log
  phase (i : ι) (a : α) : st'.phase i = .returned (.ok a) → st.phase i = .returned (.ok a)

structure Commit (Post : ι → α → σ → σ → Prop) (st st' : State ι κ σ ε α) (i : ι) (a : α) :
    Prop where
  ended : st.commits i = true
  phase : st'.phase i = .returned (.ok a)
  log : st'.log = (i, a) :: st.log
  post : Post i a st.store st'.store

omit [DecidableEq κ] in
theorem silent_advance {holder : κ → Option ι} (hph : ∀ a, ph ≠ .returned (.ok a)) :
    Silent st { st with holder, phase := update st.phase i ph } where
  store := rfl
  log := rfl
  phase j a hj := by
    dsimp only at hj
    by_cases hji : j = i
    · subst hji
      rw [update_self] at hj
      exact absurd hj (hph a)
    · rw [update_of_ne hji] at hj
      exact hj

omit [DecidableEq κ] in
theorem Sound.commit (h : Sound D Post st) {n : Nat} {a : α} {pending : σ → σ}
    (hp : st.phase i = .running n (.done (.ok a)) pending) : Sound D Post
    { store := pending st.store
      holder := release st.holder i
      phase := update st.phase i (.returned (.ok a))
      log := (i, a) :: st.log } ∧ Post i a st.store (pending st.store) := by
  have hc : Commits D (Post i) (.ok a : Except ε α) ⟨pending, locksOf st.holder i⟩ st.store :=
    h.running i n _ pending hp
  obtain ⟨hg, hpo⟩ := hc st.store (D.refl _ _) h.inv
  have hi : D.Inv (pending st.store) := D.keeps h.inv hg
  refine ⟨⟨hi, ?_, ?_⟩, hpo⟩
  · intro j m rest w hj
    dsimp only at hj ⊢
    by_cases hji : j = i
    · subst hji
      rw [update_self] at hj
      cases hj
    · rw [update_of_ne hji] at hj
      rw [locksOf_release_of_ne hji]
      have hre : D.Rely (locksOf st.holder j) st.store (pending st.store) :=
        D.apart h.inv hg (locksOf_disjoint (Ne.symm hji))
      exact wp_stable (fun _ _ _ _ hr => hr.stable) (h.running j m rest w hj) hre
  · intro j b
    dsimp only
    rw [List.mem_cons, h.logged, Prod.mk.injEq]
    by_cases hji : j = i
    · subst hji
      rw [update_self, hp]
      simp [eq_comm]
    · rw [update_of_ne hji]
      simp [hji]

variable {l : Label ι ε}

theorem Sound.step (hc : ∀ i n, Meets D ((client i).attempt n) (Post i)) (h : Sound D Post st)
    (hs : step client st l = some st') :
    Sound D Post st' ∧ (Silent st st' ∨ ∃ i a, l = .step i ∧ Commit Post st st' i a) := by
  cases l with
  | fail i e =>
    obtain ⟨⟨n, rest, pending, hp⟩, rfl⟩ := step_fail hs
    refine ⟨h.advance (fun r hr => nomatch hp.symm.trans hr) (fun _ hph => nomatch hph)
      (fun j hj => locksOf_release_of_ne hj) (fun _ _ _ hph => nomatch hph), .inl ?_⟩
    exact silent_advance fun _ hph => nomatch hph
  | step i =>
    obtain ⟨n, rest, pending, hp, ⟨k, rfl, rfl⟩ | ⟨keys, write, k, rfl, hf, rfl⟩ |
      ⟨a, rfl, rfl⟩ | ⟨e, rfl, rfl⟩⟩ := step_step hs
    · refine ⟨h.advance (fun r hr => nomatch hp.symm.trans hr) (fun _ hph => nomatch hph)
        (fun _ _ => rfl) ?_, .inl ?_⟩
      · intro m rest w hph
        obtain ⟨-, rfl, rfl⟩ := Phase.running.inj hph
        exact h.running i n _ pending hp st.store (D.refl _ _) h.inv
      · exact silent_advance fun _ hph => nomatch hph
    · refine ⟨h.advance (fun r hr => nomatch hp.symm.trans hr) (fun _ hph => nomatch hph)
        (fun j hj => locksOf_take_of_ne hj hf) ?_, .inl ?_⟩
      · intro m rest w hph
        obtain ⟨-, rfl, rfl⟩ := Phase.running.inj hph
        rw [locksOf_take_self]
        exact h.running i n _ pending hp st.store (D.refl _ _) h.inv
      · exact silent_advance fun _ hph => nomatch hph
    · obtain ⟨hso, hpo⟩ := h.commit hp
      refine ⟨hso, .inr ⟨i, a, rfl, ?_⟩⟩
      exact
        { ended := by
            unfold State.commits
            rw [hp]
          phase := update_self ..
          log := rfl
          post := hpo }
    · have ho : ∀ a, afterError (client i) n e ≠ .returned (.ok a) := by
        intro a hph
        unfold afterError at hph
        split at hph <;> cases hph
      refine ⟨h.advance (fun r hr => nomatch hp.symm.trans hr) ho
        (fun j hj => locksOf_release_of_ne hj) ?_, .inl (silent_advance ho)⟩
      intro m rest w hph
      unfold afterError at hph
      split at hph
      · cases hph
      · -- the next attempt starts with nothing
        obtain ⟨-, rfl, rfl⟩ := Phase.running.inj hph
        rw [locksOf_release_self]
        exact hc i (n + 1) st.store h.inv

variable {ls : List (Label ι ε)}

theorem sound_run (hc : ∀ i n, Meets D ((client i).attempt n) (Post i)) (hi : D.Inv s)
    (hr : run (step client) (init client s) ls = some st) : Sound D Post st :=
  run_keeps (sound_init hc hi) (fun _ _ _ hs hst => (hs.step hc hst).1) hr

theorem step_effect (hc : ∀ i n, Meets D ((client i).attempt n) (Post i)) (hi : D.Inv s)
    (hr : run (step client) (init client s) ls = some st) (hs : step client st l = some st') :
    (∃ a, st'.phase l.who = .returned (.ok a) ∧ Post l.who a st.store st'.store) ∨
    (st'.store = st.store ∧ ∀ a, st'.phase l.who ≠ .returned (.ok a)) := by
  obtain ⟨-, hsi | ⟨i, a, rfl, hco⟩⟩ := (sound_run hc hi hr).step hc hs
  · refine .inr ⟨hsi.store, ?_⟩
    intro a hp
    exact step_running hs _ (hsi.phase _ a hp)
  · exact .inl ⟨a, hco.phase, hco.post⟩

theorem run_rule (hc : ∀ i n, Meets D ((client i).attempt n) (Post i)) (hi : D.Inv s)
    {P : σ → List (ι × α) → Prop} (h0 : P s [])
    (hco : ∀ s log i a s', D.Inv s → P s log → Post i a s s' → P s' ((i, a) :: log))
    (hr : run (step client) (init client s) ls = some st) : P st.store st.log := by
  have hb : Sound D Post st ∧ P st.store st.log := by
    refine run_keeps (P := fun st => Sound D Post st ∧ P st.store st.log)
      ⟨sound_init hc hi, h0⟩ ?_ hr
    rintro st l st' ⟨hso, hP⟩ hs
    obtain ⟨hso', hsi | ⟨i, a, -, hcm⟩⟩ := hso.step hc hs
    · refine ⟨hso', ?_⟩
      rw [hsi.store, hsi.log]
      exact hP
    · refine ⟨hso', ?_⟩
      rw [hcm.log]
      exact hco _ _ i a _ hso.inv hP hcm.post
  exact hb.2

theorem step_commit (hc : ∀ i n, Meets D ((client i).attempt n) (Post i)) (hi : D.Inv s)
    (hr : run (step client) (init client s) ls = some st) (hs : step client st l = some st') :
    (∃ i a, l = .step i ∧ st.commits i = true ∧ Post i a st.store st'.store) ∨
    st'.store = st.store := by
  obtain ⟨-, hsi | ⟨i, a, hl, hco⟩⟩ := (sound_run hc hi hr).step hc hs
  · exact .inr hsi.store
  · exact .inl ⟨i, a, hl, hco.ended, hco.post⟩

theorem run_rule_on (hc : ∀ i n, Meets D ((client i).attempt n) (Post i)) (hi : D.Inv s)
    {K : ι → σ → Prop} {P : σ → Prop} (h0 : P s)
    (hco : ∀ s i a s', P s → K i s → Post i a s s' → P s')
    (hC : Along (step client) (CommitsOn K) (init client s) ls)
    (hr : run (step client) (init client s) ls = some st) : P st.store := by
  have hb : Sound D Post st ∧ P st.store := by
    refine run_invariant (P := fun st => Sound D Post st ∧ P st.store)
      ⟨sound_init hc hi, h0⟩ ?_ hC hr
    rintro st l st' ⟨hso, hP⟩ hK hs
    obtain ⟨hso', hsi | ⟨i, a, rfl, hcm⟩⟩ := hso.step hc hs
    · refine ⟨hso', ?_⟩
      rw [hsi.store]
      exact hP
    · exact ⟨hso', hco _ i a _ hP (hK hcm.ended) hcm.post⟩
  exact hb.2

end Transactions

-- proofs about programs go by the rules, and never by unfolding
attribute [irreducible] Transaction.wp

end Leadkart
