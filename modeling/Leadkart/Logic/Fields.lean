import Mathlib.Data.List.Nodup

/-!
# Records updated field by field
-/

namespace Leadkart

structure Fields (σ ι : Type) where
  Value : ι → Type
  decEq (f : ι) : DecidableEq (Value f)
  get (f : ι) : σ → Value f
  set (f : ι) : Value f → σ → σ
  get_set_self (f : ι) (v : Value f) (s : σ) : get f (set f v s) = v
  get_set_of_ne {f g : ι} (v : Value f) (s : σ) : g ≠ f → get g (set f v s) = get g s

namespace Fields

variable {σ ι ε γ : Type} (F : Fields σ ι) (input : ∀ f, Option (Except ε (F.Value f)))

instance (f : ι) : DecidableEq (F.Value f) := F.decEq f

def assign (f : ι) (s : σ) : σ × Except ε (List ι) :=
  match input f with
  | none => (s, .ok [])
  | some (.error e) => (s, .error e)
  | some (.ok v) => if v ≠ F.get f s then (F.set f v s, .ok [f]) else (s, .ok [])

def assignAll : List ι → σ → σ × Except ε (List ι)
  | [], s => (s, .ok [])
  | f :: fs, s =>
    match F.assign input f s with
    | (s', .error e) => (s', .error e)
    | (s', .ok changed) => ((assignAll fs s').1, (assignAll fs s').2.map (changed ++ ·))

def fails (f : ι) : Bool :=
  match input f with
  | some (.error _) => true
  | _ => false

def changes (s : σ) (f : ι) : Bool :=
  match input f with
  | some (.ok v) => v ≠ F.get f s
  | _ => false

def changesBeforeFailure (order : List ι) (s : σ) : Bool :=
  order.any (F.fails input) && (order.takeWhile fun f => !F.fails input f).any (F.changes input s)

variable {F input} {f g : ι} {fs : List ι} {s : σ}

theorem assign_cases (input : ∀ f, Option (Except ε (F.Value f))) (f : ι) (s : σ) :
    (F.fails input f = true ∧ ∃ e, F.assign input f s = (s, .error e)) ∨
    (F.fails input f = false ∧ F.changes input s f = false ∧ F.assign input f s = (s, .ok [])) ∨
    (F.fails input f = false ∧ F.changes input s f = true ∧
    ∃ v, v ≠ F.get f s ∧ F.assign input f s = (F.set f v s, .ok [f])) := by
  unfold assign fails changes
  rcases input f with _ | e | v
  · exact .inr (.inl ⟨rfl, rfl, rfl⟩)
  · exact .inl ⟨rfl, e, rfl⟩
  · by_cases hv : v = F.get f s
    · exact .inr (.inl ⟨rfl, by simp [hv], by simp [hv]⟩)
    · exact .inr (.inr ⟨rfl, by simp [hv], v, hv, by simp [hv]⟩)

theorem assignAll_cons_of_same (h : F.assign input f s = (s, .ok [])) :
    F.assignAll input (f :: fs) s = F.assignAll input fs s := by
  rw [assignAll, h]
  refine Prod.ext rfl ?_
  dsimp only
  cases (F.assignAll input fs s).2 with
  | error e => rfl
  | ok more => rfl

theorem assignAll_keeps {P : σ → Prop}
    (hs : ∀ f v s, input f = some (.ok v) → P s → P (F.set f v s)) (h : P s) :
    P (F.assignAll input fs s).1 := by
  induction fs generalizing s with
  | nil => exact h
  | cons f fs ih =>
    unfold assignAll assign
    rcases hi : input f with _ | e | v
    · exact ih h
    · exact h
    · by_cases hv : v = F.get f s
      · simpa [hv] using ih h
      · simpa [hv] using ih (hs f v s hi h)

theorem assignAll_frame {frame : σ → γ} (hs : ∀ f v s, frame (F.set f v s) = frame s) :
    frame (F.assignAll input fs s).1 = frame s :=
  assignAll_keeps (P := fun t => frame t = frame s) (fun f v t _ h => (hs f v t).trans h) rfl

theorem get_assignAll_of_notMem (hf : f ∉ fs) : F.get f (F.assignAll input fs s).1 = F.get f s := by
  induction fs generalizing s with
  | nil => rfl
  | cons g fs ih =>
    obtain ⟨hne, hf⟩ := not_or.mp (List.mem_cons.not.mp hf)
    unfold assignAll
    rcases assign_cases input g s with ⟨-, e, h⟩ | ⟨-, -, h⟩ | ⟨-, -, v, -, h⟩ <;> rw [h]
    · exact ih hf
    · exact (ih hf).trans (F.get_set_of_ne v s hne)

theorem assignAll_append (fs gs : List ι) (s : σ) : F.assignAll input (fs ++ gs) s =
      match F.assignAll input fs s with
      | (s', .error e) => (s', .error e)
      | (s', .ok changed) =>
        ((F.assignAll input gs s').1, (F.assignAll input gs s').2.map (changed ++ ·)) := by
  induction fs generalizing s with
  | nil =>
    show _ = (_, (F.assignAll input gs s).2.map ([] ++ ·))
    cases h : (F.assignAll input gs s).2 <;> exact Prod.ext rfl h
  | cons f fs ih =>
    simp only [List.cons_append, assignAll]
    rcases F.assign input f s with ⟨s', e | changed⟩
    · rfl
    · simp only [ih]
      rcases F.assignAll input fs s' with ⟨s'', e | more⟩
      · rfl
      · dsimp only [Except.map]
        cases (F.assignAll input gs s'').2 with
        | error e => rfl
        | ok rest => simp

theorem assignAll_fails_iff :
    (∃ e, (F.assignAll input fs s).2 = .error e) ↔ fs.any (F.fails input) = true := by
  induction fs generalizing s with
  | nil => exact iff_of_false (fun ⟨_, h⟩ => nomatch h) (fun h => nomatch h)
  | cons f fs ih =>
    rw [List.any_cons, assignAll]
    rcases assign_cases input f s with
      ⟨hf, e, hs⟩ | ⟨hf, -, hs⟩ | ⟨hf, -, v, -, hs⟩ <;> rw [hs, hf]
    · exact iff_of_true ⟨e, rfl⟩ rfl
    all_goals
      rw [Bool.false_or, ← ih]
      dsimp only
      cases (F.assignAll input fs _).2 <;> simp [Except.map]

theorem get_assignAll_cons_of_changes {v : F.Value f} (hf : f ∉ fs)
    (h : F.assign input f s = (F.set f v s, .ok [f])) :
    F.get f (F.assignAll input (f :: fs) s).1 = v := by
  unfold assignAll
  rw [h]
  exact (get_assignAll_of_notMem hf).trans (F.get_set_self f v s)

theorem assignAll_ok (hfs : fs.Nodup) {changed : List ι}
    (h : (F.assignAll input fs s).2 = .ok changed) :
    changed.Sublist fs ∧ (changed = [] → (F.assignAll input fs s).1 = s) ∧
    ∀ f ∈ fs, f ∈ changed ↔ F.get f (F.assignAll input fs s).1 ≠ F.get f s := by
  induction fs generalizing s changed with
  | nil =>
    cases h
    exact ⟨.slnil, fun _ => rfl, fun f hf => nomatch hf⟩
  | cons f fs ih =>
    obtain ⟨hf, hfs⟩ := List.nodup_cons.mp hfs
    have hfa : ∀ e, F.assign input f s ≠ (s, .error e) := by
      intro e he
      rw [assignAll, he] at h
      cases h
    rcases assign_cases input f s with ⟨-, e, he⟩ | ⟨-, -, hs⟩ | ⟨-, -, v, hv, hs⟩
    · exact absurd he (hfa e)
    · rw [assignAll_cons_of_same hs] at h ⊢
      obtain ⟨hsu, hn, hm⟩ := ih hfs h
      refine ⟨hsu.cons f, hn, List.forall_mem_cons.mpr ⟨?_, hm⟩⟩
      rw [get_assignAll_of_notMem hf]
      exact iff_of_false (fun hc => hf (hsu.subset hc)) fun hne => hne rfl
    · have hge := get_assignAll_cons_of_changes hf hs
      rw [assignAll, hs] at h hge ⊢
      dsimp only at h hge ⊢
      cases hr : (F.assignAll input fs (F.set f v s)).2 with
      | error e =>
        rw [hr] at h
        cases h
      | ok more =>
        rw [hr] at h
        cases h
        obtain ⟨hsu, -, hm⟩ := ih hfs hr
        refine ⟨hsu.cons_cons f, fun hn => absurd hn (List.cons_ne_nil f more),
          List.forall_mem_cons.mpr ⟨?_, ?_⟩⟩
        · rw [hge]
          exact iff_of_true List.mem_cons_self hv
        · intro g hg
          have hne : g ≠ f := fun heq => hf (heq ▸ hg)
          rw [← F.get_set_of_ne v s hne, ← hm g hg]
          exact List.mem_cons.trans (or_iff_right hne)

theorem assignAll_error_iff (hfs : fs.Nodup) :
    (∀ e, (F.assignAll input fs s).2 = .error e → (F.assignAll input fs s).1 = s) ↔
    F.changesBeforeFailure input fs s = false := by
  induction fs with
  | nil => exact iff_of_true (fun _ h => nomatch h) rfl
  | cons f fs ih =>
    obtain ⟨hf, hfs⟩ := List.nodup_cons.mp hfs
    have ih := ih hfs
    unfold changesBeforeFailure at ih ⊢
    rcases assign_cases input f s with
      ⟨hfa, e, hs⟩ | ⟨hfa, hc, hs⟩ | ⟨hfa, hc, v, hv, hs⟩
    · rw [assignAll, hs]
      exact iff_of_true (fun _ _ => rfl) (by simp [hfa])
    · rw [assignAll_cons_of_same hs, ih]
      simp [hfa, hc]
    · -- the field stays set, so that the record differs whenever a later field fails
      have hne : (F.assignAll input (f :: fs) s).1 ≠ s := by
        intro heq
        exact hv (get_assignAll_cons_of_changes hf hs ▸ congrArg (F.get f) heq)
      have hl : (List.takeWhile (fun f => !F.fails input f) (f :: fs)).any
          (F.changes input s) = true := by
        simp [hfa, hc]
      rw [hl, Bool.and_true, ← Bool.not_eq_true, ← assignAll_fails_iff (s := s), not_exists]
      exact forall_congr' fun e => ⟨fun h he => hne (h he), fun h he => absurd he h⟩

end Fields

end Leadkart
