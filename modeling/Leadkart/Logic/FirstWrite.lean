import Leadkart.Logic.Transactions

/-!
# Transactions that lock with their first write
-/

namespace Leadkart

namespace Transaction

variable {κ σ ε ε' α β : Type} {c : κ} {I P : σ → Prop}

def lockFirst (c : κ) (I P : σ → Prop) (Q : α → Option (σ → σ) → Prop) :
    Transaction κ σ ε α → Option (σ → σ) → Prop
  | done (.ok a), w => Q a w
  | done (.error _), _ => True
  | select k, w => ∀ s, (w = none → I s) → (k s).lockFirst c I P Q w
  | exec keys write k, none =>
    ∀ s, I s → P s → c ∈ keys s ∧ (k s).lockFirst c I P Q (some (write s))
  | exec _ write k, some w => ∀ s, (k s).lockFirst c I P Q (some fun x => write s (w x))

variable {Q : β → Option (σ → σ) → Prop} {w : Option (σ → σ)}

theorem lockFirst_bind {x : Transaction κ σ ε α} {f : α → Transaction κ σ ε β}
    (hx : x.lockFirst c I P (fun a w => (f a).lockFirst c I P Q w) w) :
    (x >>= f).lockFirst c I P Q w := by
  induction x generalizing w with
  | done r =>
    cases r with
    | ok a => exact hx
    | error e => trivial
  | select k ih =>
    intro s hs
    exact ih s (hx s hs)
  | exec keys write k ih =>
    cases w with
    | none =>
      intro s hI hP
      exact ⟨(hx s hI hP).1, ih s (hx s hI hP).2⟩
    | some w =>
      intro s
      exact ih s (hx s)

theorem lockFirst_mapError {x : Transaction κ σ ε β} {f : ε → ε'}
    (hx : x.lockFirst c I P Q w) : (x.mapError f).lockFirst c I P Q w := by
  induction x generalizing w with
  | done r =>
    cases r with
    | ok a => exact hx
    | error e => trivial
  | select k ih =>
    intro s hs
    exact ih s (hx s hs)
  | exec keys write k ih =>
    cases w with
    | none =>
      intro s hI hP
      exact ⟨(hx s hI hP).1, ih s (hx s hI hP).2⟩
    | some w =>
      intro s
      exact ih s (hx s)

theorem lockFirst_ofExcept {r : Except ε β} (h : ∀ a, r = .ok a → Q a w) :
    (ofExcept r : Transaction κ σ ε β).lockFirst c I P Q w := by
  cases r with
  | ok a => exact h a rfl
  | error e => trivial

theorem lockFirst_query {f : σ → Except ε β} (h : ∀ s a, I s → f s = .ok a → Q a none) :
    (query f : Transaction κ σ ε β).lockFirst c I P Q none :=
  fun s hs => lockFirst_ofExcept fun a ha => h s a (hs rfl) ha

variable {keys : σ → List κ} {f : σ → Except ε (β × (σ → σ))}

theorem lockFirst_statement (hk : ∀ s, I s → P s → c ∈ keys s)
    (h : ∀ s a write, I s → P s → f s = .ok (a, write) → Q a (some write)) :
    (statement keys f).lockFirst c I P Q none := by
  intro s hI hP
  refine ⟨hk s hI hP, ?_⟩
  dsimp only
  rcases hf : f s with e | ⟨a, write⟩
  · trivial
  · exact h s a write hI hP hf

theorem lockFirst_statement_again {w : σ → σ}
    (h : ∀ s a write, f s = .ok (a, write) → Q a (some fun x => write (w x))) :
    (statement keys f).lockFirst c I P Q (some w) := by
  intro s
  dsimp only
  rcases hf : f s with e | ⟨a, write⟩
  · trivial
  · exact h s a write hf

def Keeps (I P : σ → Prop) (w : Option (σ → σ)) : Prop :=
  ∃ write, w = some write ∧ ∀ s, I s → P s → I (write s)

end Transaction

namespace Transactions

open Machine Transaction

variable {ι κ σ ε α : Type} [DecidableEq ι] [DecidableEq κ] {client : ι → Client κ σ ε α}
  {c : κ} {I P : σ → Prop} {st st' : State ι κ σ ε α} {i : ι}

def State.writes (st : State ι κ σ ε α) (i : ι) : Bool :=
  match st.phase i with
  | .running _ (.exec ..) _ => true
  | _ => false

def WritesOn (P : σ → Prop) (st : State ι κ σ ε α) : Label ι ε → Prop
  | .step i => st.writes i = true → P st.store
  | .fail _ _ => True

instance (P : σ → Prop) [DecidablePred P] (st : State ι κ σ ε α) (l : Label ι ε) :
    Decidable (WritesOn P st l) :=
  match l with
  | .step _ => inferInstanceAs (Decidable (_ → _))
  | .fail _ _ => inferInstanceAs (Decidable True)

def Placed (c : κ) (I P : σ → Prop) (holder : κ → Option ι) (i : ι) : Phase κ σ ε α → Prop
  | .running _ rest pending =>
    (pending = id ∧ rest.lockFirst c I P (fun _ => Keeps I P) none) ∨
      (holder c = some i ∧ rest.lockFirst c I P (fun _ => Keeps I P) (some pending))
  | .returned _ => True

structure Locked (c : κ) (I P : σ → Prop) (st : State ι κ σ ε α) : Prop where
  inv : I st.store
  held (i : ι) : st.holder c = some i → P st.store
  placed (i : ι) : Placed c I P st.holder i (st.phase i)

variable {holder : κ → Option ι} {ph : Phase κ σ ε α}

omit [DecidableEq ι] [DecidableEq κ] in
theorem Placed.mono {holder' : κ → Option ι} (h : Placed c I P holder i ph)
    (hk : holder c = some i → holder' c = some i) : Placed c I P holder' i ph := by
  cases ph with
  | returned r => trivial
  | running n rest pending => exact h.imp_right fun ⟨hh, hr⟩ => ⟨hk hh, hr⟩

variable {j : ι}

theorem take_of_held {keys : List κ} (hf : available holder i keys = true)
    (h : holder c = some j) : take holder i keys c = some j := by
  unfold take
  split
  next hc =>
    have ho : holder c = none ∨ holder c = some i := of_decide_eq_true (List.all_eq_true.mp hf c hc)
    rcases ho with ho | ho
    · cases ho.symm.trans h
    · exact ho.symm.trans h
  next => exact h

omit [DecidableEq κ] in
theorem release_of_ne (hne : j ≠ i) (h : holder c = some j) : release holder i c = some j := by
  unfold release
  rw [if_neg (fun heq => hne (Option.some.inj (h.symm.trans heq))), h]

omit [DecidableEq κ] in
theorem release_eq_some (h : release holder i c = some j) : holder c = some j := by
  unfold release at h
  split at h
  · cases h
  · exact h

omit [DecidableEq κ] in
theorem Locked.giveUp (h : Locked c I P st) (hph : ∀ holder, Placed c I P holder i ph) :
    Locked c I P { st with
      holder := release st.holder i, phase := Function.update st.phase i ph } where
  inv := h.inv
  held j hj := h.held j (release_eq_some hj)
  placed := (Function.forall_update_iff _ _).mpr
    ⟨hph _, fun j hj => (h.placed j).mono (release_of_ne hj)⟩

theorem Locked.step (hcl : ∀ i n, ((client i).attempt n).lockFirst c I P
    (fun _ => Keeps I P) none) (h : Locked c I P st) {l : Label ι ε} (hP : WritesOn P st l)
    (hs : step client st l = some st') : Locked c I P st' := by
  cases l with
  | fail i e =>
    obtain ⟨-, rfl⟩ := step_fail hs
    exact h.giveUp fun _ => trivial
  | step i =>
    obtain ⟨n, rest, pending, hp, hca⟩ := step_step hs
    have hi := h.placed i
    rw [hp] at hi
    rcases hca with ⟨k, rfl, rfl⟩ | ⟨keys, write, k, rfl, hf, rfl⟩ | ⟨a, rfl, rfl⟩ |
      ⟨e, rfl, rfl⟩
    · refine ⟨h.inv, h.held, (Function.forall_update_iff _ _).mpr ⟨?_, fun j _ => h.placed j⟩⟩
      rcases hi with ⟨rfl, hr⟩ | ⟨hh, hr⟩
      · exact .inl ⟨rfl, hr _ fun _ => h.inv⟩
      · exact .inr ⟨hh, hr _ fun hnone => nomatch hnone⟩
    · have hP : P st.store := hP (by rw [State.writes, hp])
      refine ⟨h.inv, fun _ _ => hP, (Function.forall_update_iff _ _).mpr ⟨.inr ?_, ?_⟩⟩
      · rcases hi with ⟨rfl, hr⟩ | ⟨hh, hr⟩
        · obtain ⟨hc, hr⟩ := hr st.store h.inv hP
          exact ⟨if_pos hc, hr⟩
        · exact ⟨take_of_held hf hh, hr _⟩
      · exact fun j _ => (h.placed j).mono (take_of_held hf)
    · rcases hi with ⟨-, write, hnone, -⟩ | ⟨hh, write, hw, hk⟩
      · cases hnone
      · cases hw
        have hre : release st.holder i c = none := if_pos hh
        refine ⟨hk _ h.inv (h.held i hh), (fun j hj => nomatch hre.symm.trans hj),
          (Function.forall_update_iff _ _).mpr ⟨trivial, fun j hj => ?_⟩⟩
        exact (h.placed j).mono (release_of_ne hj)
    · refine h.giveUp fun holder => ?_
      unfold afterError
      split
      · trivial
      · exact .inl ⟨rfl, hcl i (n + 1)⟩

theorem run_lockFirst (hc : ∀ i n, ((client i).attempt n).lockFirst c I P
    (fun _ => Keeps I P) none) {s : σ} (h0 : I s) {ls : List (Label ι ε)}
    (hP : Along (step client) (WritesOn P) (init client s) ls)
    (hr : run (step client) (init client s) ls = some st) : I st.store := by
  have hi : Locked c I P (init client s) := by
    refine ⟨h0, fun i h => ?_, fun i => .inl ⟨rfl, hc i 0⟩⟩
    exact nomatch (show none = some i from h)
  have hl : Locked c I P st := run_invariant hi (fun st l st' h hP hs => h.step hc hP hs) hP hr
  exact hl.inv

end Transactions

end Leadkart
