import Leadkart.Logic.Transactions

/-!
# How transactions can end
-/

namespace Leadkart

namespace Transaction

variable {κ σ ε ε' α β : Type} {I : σ → Prop} {G : (σ → List κ) → σ → Prop} {w : Bool}

def outcomes (I : σ → Prop) (G : (σ → List κ) → σ → Prop) (Q : Except ε α → Prop) :
    Transaction κ σ ε α → Bool → Prop
  | done r, _ => Q r
  | select k, w => w = false ∧ ∀ s, I s → (k s).outcomes I G Q w
  | exec keys _ k, _ => ∀ s, G keys s → (k s).outcomes I G Q true

variable {Q' : Except ε α → Prop} {x : Transaction κ σ ε α}

theorem outcomes_mono {Q : Except ε α → Prop} (hQ : ∀ r, Q r → Q' r) (hx : x.outcomes I G Q w) :
    x.outcomes I G Q' w := by
  induction x generalizing w with
  | done r => exact hQ r hx
  | select k ih => exact ⟨hx.1, fun s hs => ih s (hx.2 s hs)⟩
  | exec keys write k ih => exact fun s hs => ih s (hx s hs)

theorem outcomes_bind {Q : Except ε β → Prop} {f : α → Transaction κ σ ε β} (hx : x.outcomes I G
    (fun
        | .ok a => ∀ w, (f a).outcomes I G Q w
        | .error e => Q (.error e)) w) : (x >>= f).outcomes I G Q w := by
  induction x generalizing w with
  | done r =>
    cases r with
    | ok a => exact hx w
    | error e => exact hx
  | select k ih => exact ⟨hx.1, fun s hs => ih s (hx.2 s hs)⟩
  | exec keys write k ih => exact fun s hs => ih s (hx s hs)

theorem outcomes_attempt {Q : Except ε' (Except ε α) → Prop}
    (hx : x.outcomes I G (fun r => Q (.ok r)) w) :
    (x.attempt : Transaction κ σ ε' _).outcomes I G Q w := by
  induction x generalizing w with
  | done r => exact hx
  | select k ih => exact ⟨hx.1, fun s hs => ih s (hx.2 s hs)⟩
  | exec keys write k ih => exact fun s hs => ih s (hx s hs)

theorem outcomes_query_bind {Q : Except ε' β → Prop} {f : σ → Except ε α}
    {g : Except ε α → Transaction κ σ ε' β} (h : ∀ s, I s → (g (f s)).outcomes I G Q false) :
    ((query f : Transaction κ σ ε α).attempt >>= g).outcomes I G Q false := ⟨rfl, h⟩

theorem outcomes_statement_bind {Q : Except ε β → Prop} {keys : σ → List κ}
    {f : σ → Except ε (α × (σ → σ))} {g : α → Transaction κ σ ε β}
    (hok : ∀ s a write, G keys s → f s = .ok (a, write) → (g a).outcomes I G Q true)
    (he : ∀ s e, G keys s → f s = .error e → Q (.error e)) :
    (statement keys f >>= g).outcomes I G Q w := by
  intro s hs
  show ((done ((f s).map Prod.fst)).bind g).outcomes I G Q true
  rcases hf : f s with e | ⟨a, write⟩
  · exact he s e hs hf
  · exact hok s a write hs hf

theorem wp_and_outcomes {D : Discipline κ σ} {Q : Except ε α → Held κ σ → σ → Prop} {h : Held κ σ}
    {s : σ} (hx : x.wp D Q h s) (ho : x.outcomes (fun _ => True) (fun _ _ => True) Q' w) :
    x.wp D (fun r h s => Q r h s ∧ Q' r) h s := by
  induction x generalizing h s w with
  | done r =>
    unfold wp at hx ⊢
    exact ⟨hx, ho⟩
  | select k ih =>
    unfold wp at hx ⊢
    exact fun t hr hi => ih _ (hx t hr hi) (ho.2 _ trivial)
  | exec keys write k ih =>
    unfold wp at hx ⊢
    exact fun t hr hi => ih _ (hx t hr hi) (ho _ trivial)

end Transaction

namespace Transactions

open Machine Transaction

variable {ι κ σ ε α : Type} [DecidableEq ι] [DecidableEq κ] {client : ι → Client κ σ ε α}
  {I : ι → σ → Prop} {G : (σ → List κ) → σ → Prop} {Q : ι → Except ε α → Prop}
  {R : ι → Except ε α → Prop} {st st' : State ι κ σ ε α} {i : ι}

def Phase.EndsOn (G : (σ → List κ) → σ → Prop) (C : Nat → Except ε α → Prop) (s : σ) :
    Phase κ σ ε α → Prop
  | running _ (.exec keys _ _) pending => G keys (pending s)
  | running n (.done r) _ => C n r
  | running _ (.select _) _ | returned _ => True

instance (G : (σ → List κ) → σ → Prop) (C : Nat → Except ε α → Prop) (s : σ)
    [∀ keys s, Decidable (G keys s)] [∀ n r, Decidable (C n r)] :
    ∀ ph : Phase κ σ ε α, Decidable (ph.EndsOn G C s)
  | .running _ (.exec keys _ _) pending => inferInstanceAs (Decidable (G keys (pending s)))
  | .running n (.done r) _ => inferInstanceAs (Decidable (C n r))
  | .running _ (.select _) _ | .returned _ => .isTrue trivial

def EndsOn (G : (σ → List κ) → σ → Prop) (C : Nat → Except ε α → Prop) (st : State ι κ σ ε α) :
    Label ι ε → Prop
  | .step i => (st.phase i).EndsOn G C st.store
  | .fail _ _ => False

instance (G : (σ → List κ) → σ → Prop) (C : Nat → Except ε α → Prop)
    [∀ keys s, Decidable (G keys s)] [∀ n r, Decidable (C n r)] (st : State ι κ σ ε α) :
    ∀ l, Decidable (EndsOn G C st l)
  | .step i => inferInstanceAs (Decidable ((st.phase i).EndsOn G C st.store))
  | .fail .. => .isFalse fun h => h

def Bound (I : ι → σ → Prop) (G : (σ → List κ) → σ → Prop) (Q R : ι → Except ε α → Prop) (i : ι) :
    Phase κ σ ε α → Prop
  | .running _ rest pending =>
    ∃ w, rest.outcomes (I i) G (Q i) w ∧ (w = false → pending = id)
  | .returned r => R i r

theorem run_outcomes {C : Nat → Except ε α → Prop} {s : σ}
    (hc : ∀ i n, ((client i).attempt n).outcomes (I i) G (Q i) false)
    (hrd : ∀ ls st i, run (step client) (init client s) ls = some st →
    (∀ r, st.phase i ≠ .returned r) → I i st.store)
    (hok : ∀ i n a, Q i (.ok a) → C n (.ok a) → R i (.ok a))
    (her : ∀ i n e, Q i (.error e) → C n (.error e) →
    ∀ e', (client i).giveUp n e = some e' → R i (.error e'))
    {ls : List (Label ι ε)} (hC : Along (step client) (EndsOn G C) (init client s) ls)
    (hr : run (step client) (init client s) ls = some st) (i : ι) :
    Bound I G Q R i (st.phase i) := by
  refine (run_invariant (P := fun st => (∃ ls, run (step client) (init client s) ls = some st) ∧
    ∀ i, Bound I G Q R i (st.phase i)) ⟨⟨[], rfl⟩, fun i => ⟨false, hc i 0, fun _ => rfl⟩⟩
    ?_ hC hr).2 i
  rintro st l st' ⟨⟨ls, hls⟩, h⟩ hC hs
  refine ⟨⟨ls ++ [l], (run_concat hls).trans hs⟩, ?_⟩
  cases l with
  | fail i e => exact hC.elim
  | step i =>
    obtain ⟨n, rest, pending, hp, hca⟩ := step_step hs
    obtain ⟨w, hre, hw⟩ : Bound I G Q R i (.running n rest pending) := hp ▸ h i
    have hC : (Phase.running n rest pending).EndsOn G C st.store := hp ▸ hC
    rcases hca with ⟨k, rfl, rfl⟩ | ⟨keys, write, k, rfl, -, rfl⟩ | ⟨a, rfl, rfl⟩ |
      ⟨e, rfl, rfl⟩
    all_goals refine (Function.forall_update_iff _ _).mpr ⟨?_, fun j _ => h j⟩
    · obtain ⟨rfl, hre⟩ := hre
      obtain rfl := hw rfl
      refine ⟨false, hre _ (hrd ls st i hls fun r hrt => ?_), fun _ => rfl⟩
      cases hp.symm.trans hrt
    · exact ⟨true, hre _ hC, fun hw => nomatch hw⟩
    · exact hok i n a hre hC
    · unfold afterError
      split
      next e' he' => exact her i n e hre hC e' he'
      next => exact ⟨false, hc i (n + 1), fun _ => rfl⟩

end Transactions

end Leadkart
