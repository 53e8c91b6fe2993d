import Mathlib.Logic.Basic

/-!
# Computations on a store that may fail
-/

namespace Leadkart

structure Effect (σ ε α : Type) where
  run : σ → Except ε α × σ

namespace Effect

variable {σ ε ε' α β : Type}

instance : Monad (Effect σ ε) where
  pure a := ⟨fun s => (.ok a, s)⟩
  bind x f := ⟨fun s =>
    match x.run s with
    | (.ok a, s') => (f a).run s'
    | (.error e, s') => (.error e, s')⟩

def fail (e : ε) : Effect σ ε α := ⟨fun s => (.error e, s)⟩

def read (f : σ → α) : Effect σ ε α := ⟨fun s => (.ok (f s), s)⟩

def query (f : σ → Except ε α) : Effect σ ε α := ⟨fun s => (f s, s)⟩

def write (f : σ → Except ε σ) : Effect σ ε Unit := ⟨fun s =>
  match f s with
  | .ok s' => (.ok (), s')
  | .error e => (.error e, s)⟩

def ofExcept (x : Except ε α) : Effect σ ε α := ⟨fun s => (x, s)⟩

def ignore (x : Effect σ ε α) : Effect σ ε' Unit := ⟨fun s => (.ok (), (x.run s).2)⟩

def attempt (x : Effect σ ε α) : Effect σ ε' (Except ε α) :=
  ⟨fun s => (.ok (x.run s).1, (x.run s).2)⟩

def mapError (x : Effect σ ε α) (f : ε → ε') : Effect σ ε' α := ⟨fun s =>
  match x.run s with
  | (.ok a, s') => (.ok a, s')
  | (.error e, s') => (.error (f e), s')⟩

def atomic (x : Effect σ ε α) : Effect σ ε α := ⟨fun s =>
  match x.run s with
  | (.ok a, s') => (.ok a, s')
  | (.error e, _) => (.error e, s)⟩

def zoom {τ : Type} (get : τ → σ) (put : σ → τ → τ) (x : Effect σ ε α) : Effect τ ε α :=
  ⟨fun s => ((x.run (get s)).1, put (x.run (get s)).2 s)⟩

variable {b : β}

theorem except_bind_ok {x : Except ε α} {f : α → Except ε β} (h : (x >>= f) = .ok b) :
    ∃ a, x = .ok a ∧ f a = .ok b := by
  cases x with
  | error e => exact absurd h (by simp [bind, Except.bind])
  | ok a => exact ⟨a, rfl, h⟩

theorem except_bind_eq_ok {x : Except ε α} {f : α → Except ε β} :
    (x >>= f) = .ok b ↔ ∃ a, x = .ok a ∧ f a = .ok b := by
  refine ⟨except_bind_ok, ?_⟩
  rintro ⟨a, rfl, h⟩
  exact h

variable {e : ε} {a : α}

theorem ite_error_eq_ok {p : Prop} [Decidable p] {x : Except ε α} :
    (if p then .error e else x) = .ok a ↔ ¬p ∧ x = .ok a := by
  by_cases hp : p <;> simp [hp]

theorem except_mapError_ok {x : Except ε α} {f : ε → ε'} (h : x.mapError f = .ok a) :
    x = .ok a := by
  cases x with
  | error e => cases h
  | ok b => exact congrArg Except.ok (Except.ok.inj h)

theorem except_mapError_mapError {ε'' : Type} (x : Except ε α) (f : ε → ε') (g : ε' → ε'') :
    (x.mapError f).mapError g = x.mapError fun e => g (f e) := by
  cases x <;> rfl

theorem except_toOption {x : Except ε α} : x.toOption = some a ↔ x = .ok a := by
  cases x <;> simp [Except.toOption]

variable {l : List α}

theorem except_mapM_ok {f : α → Except ε β} (h : ∀ a ∈ l, ∃ b, f a = .ok b) :
    ∃ bs, l.mapM f = .ok bs := by
  induction l with
  | nil => exact ⟨[], rfl⟩
  | cons a l ih =>
    obtain ⟨b, hb⟩ := h a (List.mem_cons_self ..)
    obtain ⟨bs, hbs⟩ := ih fun c hc => h c (List.mem_cons_of_mem a hc)
    refine ⟨b :: bs, ?_⟩
    rw [List.mapM_cons, hb, hbs]
    rfl

theorem except_mapM_map {f : α → Except ε β} {g : α → β} (h : ∀ a ∈ l, f a = .ok (g a)) :
    l.mapM f = .ok (l.map g) := by
  induction l with
  | nil => rfl
  | cons a l ih =>
    rw [List.mapM_cons, h a (List.mem_cons_self ..), ih fun c hc => h c (List.mem_cons_of_mem a hc)]
    rfl

variable {bs : List β}

theorem except_mapM_length {f : α → Except ε β} (h : l.mapM f = .ok bs) : bs.length = l.length := by
  induction l generalizing bs with
  | nil =>
    cases h
    rfl
  | cons a l ih =>
    rw [List.mapM_cons] at h
    simp only [except_bind_eq_ok] at h
    obtain ⟨b, -, rest, hr, h⟩ := h
    cases h
    exact congrArg (· + 1) (ih hr)

theorem except_mapM_mem {f : α → Except ε β} (h : l.mapM f = .ok bs) :
    (∀ a ∈ l, ∃ b ∈ bs, f a = .ok b) ∧ ∀ b ∈ bs, ∃ a ∈ l, f a = .ok b := by
  induction l generalizing bs with
  | nil =>
    cases h
    exact ⟨fun _ ha => absurd ha List.not_mem_nil, fun _ hb => absurd hb List.not_mem_nil⟩
  | cons a l ih =>
    rw [List.mapM_cons] at h
    simp only [except_bind_eq_ok] at h
    obtain ⟨b, hb, bs', hbs', h⟩ := h
    cases h
    obtain ⟨hf, hto⟩ := ih hbs'
    refine ⟨fun c hc => ?_, fun c hc => ?_⟩
    · rcases List.mem_cons.mp hc with rfl | hc
      · exact ⟨b, List.mem_cons_self .., hb⟩
      · obtain ⟨c', hc', hfc⟩ := hf c hc
        exact ⟨c', List.mem_cons_of_mem _ hc', hfc⟩
    · rcases List.mem_cons.mp hc with rfl | hc
      · exact ⟨a, List.mem_cons_self .., hb⟩
      · obtain ⟨c', hc', hfc⟩ := hto c hc
        exact ⟨c', List.mem_cons_of_mem _ hc', hfc⟩

/-! ## Evaluation -/

@[simp] theorem pure_apply (a : α) (s : σ) : (pure a : Effect σ ε α).run s = (.ok a, s) := rfl

@[simp] theorem fail_apply (e : ε) (s : σ) : (fail e : Effect σ ε α).run s = (.error e, s) := rfl

@[simp] theorem read_apply (f : σ → α) (s : σ) :
    (read f : Effect σ ε α).run s = (.ok (f s), s) := rfl

@[simp] theorem query_apply (f : σ → Except ε α) (s : σ) : (query f).run s = (f s, s) := rfl

@[simp] theorem ofExcept_apply (x : Except ε α) (s : σ) : (ofExcept x).run s = (x, s) := rfl

@[simp] theorem attempt_apply (x : Effect σ ε α) (s : σ) :
    (attempt x : Effect σ ε' _).run s = (.ok (x.run s).1, (x.run s).2) := rfl

variable {x : Effect σ ε α} {r : Except ε α}

theorem zoom_apply {τ : Type} {get : τ → σ} {put : σ → τ → τ} {s : τ} {t : σ}
    (h : x.run (get s) = (r, t)) : (zoom get put x).run s = (r, put t s) := by
  unfold zoom
  dsimp only
  rw [h]

theorem zoom_eq_ok {τ : Type} {get : τ → σ} {put : σ → τ → τ} {s s' : τ} :
    (zoom get put x).run s = (.ok a, s') ↔ ∃ t, x.run (get s) = (.ok a, t) ∧ s' = put t s := by
  constructor
  · intro h
    obtain ⟨hok, hp⟩ := Prod.mk.inj h
    exact ⟨(x.run (get s)).2, Prod.ext hok rfl, hp.symm⟩
  · rintro ⟨t, hx, rfl⟩
    exact zoom_apply hx

theorem bind_apply (x : Effect σ ε α) (f : α → Effect σ ε β) (s : σ) : (x >>= f).run s =
      match x.run s with
      | (.ok a, s') => (f a).run s'
      | (.error e, s') => (.error e, s') := rfl

variable {f : α → Effect σ ε β} {s s' : σ}

theorem bind_ok (h : x.run s = (.ok a, s')) : (x >>= f).run s = (f a).run s' := by
  rw [bind_apply, h]

theorem bind_error (h : x.run s = (.error e, s')) : (x >>= f).run s = (.error e, s') := by
  rw [bind_apply, h]

theorem bind_assoc {γ : Type} (x : Effect σ ε α) (f : α → Effect σ ε β) (g : β → Effect σ ε γ) :
    x >>= f >>= g = x >>= fun a => f a >>= g := by
  refine congrArg Effect.mk (funext fun s => ?_)
  rcases hx : x.run s with ⟨e | a, s'⟩
  · rw [bind_error hx]
  · rw [bind_ok hx]
    rfl

theorem bind_eq_ok :
    (x >>= f).run s = (.ok b, s') ↔ ∃ a s₁, x.run s = (.ok a, s₁) ∧ (f a).run s₁ = (.ok b, s') := by
  constructor
  · intro h
    rw [bind_apply] at h
    rcases hx : x.run s with ⟨e | a, s₁⟩
    · rw [hx] at h
      cases h
    · rw [hx] at h
      exact ⟨a, s₁, rfl, h⟩
  · rintro ⟨a, s₁, hx, hf⟩
    rw [bind_ok hx, hf]

def endsIn (x : Effect σ ε α) (s : σ) (p : α → σ → Bool) : Bool :=
  match x.run s with
  | (.ok a, s') => p a s'
  | (.error _, _) => false

theorem endsIn_iff {p : α → σ → Bool} :
    x.endsIn s p = true ↔ ∃ a s', x.run s = (.ok a, s') ∧ p a s' = true := by
  unfold endsIn
  constructor
  · intro h
    rcases hx : x.run s with ⟨e | a, s'⟩
    · rw [hx] at h
      cases h
    · rw [hx] at h
      exact ⟨a, s', rfl, h⟩
  · rintro ⟨a, s', hx, hp⟩
    rw [hx]
    exact hp

def commits (x : Effect σ ε α) (s : σ) : Option σ :=
  match x.run s with
  | (.ok _, s') => some s'
  | (.error _, _) => none

theorem commits_eq_some : x.commits s = some s' ↔ ∃ a, x.run s = (.ok a, s') := by
  unfold commits
  rcases x.run s with ⟨e | a, t⟩ <;> simp

theorem fail_ne_ok : (fail e : Effect σ ε α).run s ≠ (.ok a, s') := by
  simp

theorem pure_eq_ok {b : α} : (pure a : Effect σ ε α).run s = (.ok b, s') ↔ a = b ∧ s = s' := by
  simp

theorem attempt_eq_ok : (attempt x : Effect σ ε' _).run s = (.ok r, s') ↔ x.run s = (r, s') := by
  rw [attempt_apply, Prod.mk.injEq, Except.ok.injEq, ← Prod.mk.injEq]

theorem query_eq_ok {f : σ → Except ε α} :
    (query f).run s = (.ok a, s') ↔ f s = .ok a ∧ s' = s := by
  rw [query_apply, Prod.mk.injEq, eq_comm (a := s)]

theorem attempt_query_eq_ok {f : σ → Except ε α} :
    (attempt (query f) : Effect σ ε' _).run s = (.ok r, s') ↔ f s = r ∧ s' = s := by
  rw [attempt_eq_ok, query_apply, Prod.mk.injEq, eq_comm (a := s)]

theorem ofExcept_eq_ok {x : Except ε α} :
    (ofExcept x).run s = (.ok a, s') ↔ x = .ok a ∧ s' = s := by
  rw [ofExcept_apply, Prod.mk.injEq, eq_comm (a := s)]

theorem mapError_eq_ok {f : ε → ε'} :
    (mapError x f).run s = (.ok a, s') ↔ x.run s = (.ok a, s') := by
  unfold mapError
  dsimp only
  split <;> simp_all

theorem write_eq_ok {f : σ → Except ε σ} : (write f).run s = (.ok (), s') ↔ f s = .ok s' := by
  unfold write
  dsimp only
  split <;> simp_all

theorem mapError_error {f : ε → ε'} (h : x.run s = (.error e, s')) :
    (mapError x f).run s = (.error (f e), s') := by
  unfold mapError
  dsimp only
  rw [h]

theorem mapError_eq_error {f : ε → ε'} {e : ε'} (h : (mapError x f).run s = (.error e, s')) :
    ∃ e₀, x.run s = (.error e₀, s') ∧ e = f e₀ := by
  unfold mapError at h
  dsimp only at h
  split at h
  · exact nomatch (Prod.mk.inj h).1
  · rename_i e₀ s₁ hx
    obtain ⟨he, rfl⟩ := Prod.mk.inj h
    exact ⟨e₀, hx, (Except.error.inj he).symm⟩

theorem write_error {f : σ → Except ε σ} (h : (write f).run s = (.error e, s')) : s' = s := by
  unfold write at h
  dsimp only at h
  split at h
  · exact absurd (Prod.mk.inj h).1 (by simp)
  · exact (Prod.mk.inj h).2.symm

/-! ## What a computation keeps -/

def Keeps (I : σ → Prop) (x : Effect σ ε α) : Prop := ∀ s, I s → I (x.run s).2

variable {I : σ → Prop}

theorem keeps_pure (a : α) : Keeps I (pure a : Effect σ ε α) := fun _ hs => hs

theorem keeps_fail (e : ε) : Keeps I (fail e : Effect σ ε α) := fun _ hs => hs

theorem keeps_read (f : σ → α) : Keeps I (read f : Effect σ ε α) := fun _ hs => hs

theorem keeps_query (f : σ → Except ε α) : Keeps I (query f) := fun _ hs => hs

theorem keeps_ofExcept (x : Except ε α) : Keeps I (ofExcept x) := fun _ hs => hs

theorem keeps_write {f : σ → Except ε σ} (h : ∀ s s', I s → f s = .ok s' → I s') :
    Keeps I (write f) := by
  intro s hs
  unfold write
  dsimp only
  split
  · rename_i s' hf
    exact h s s' hs hf
  · exact hs

theorem Keeps.ignore (h : Keeps I x) : Keeps I (ignore x : Effect σ ε' Unit) := h

theorem Keeps.attempt (h : Keeps I x) : Keeps I (attempt x : Effect σ ε' _) := h

theorem Keeps.mapError (h : Keeps I x) (f : ε → ε') : Keeps I (mapError x f) := by
  intro s hs
  have hx := h s hs
  unfold Effect.mapError
  dsimp only
  split
  all_goals
    rename_i hxs
    rwa [hxs] at hx

theorem Keeps.bind (hx : Keeps I x) (hf : ∀ a, Keeps I (f a)) : Keeps I (x >>= f) := by
  intro s hs
  have h₁ := hx s hs
  rw [bind_apply]
  rcases hxs : x.run s with ⟨e | a, s₁⟩
  · rw [hxs] at h₁
    exact h₁
  · rw [hxs] at h₁
    exact hf a s₁ h₁

theorem Keeps.atomic (h : ∀ s a s', I s → x.run s = (.ok a, s') → I s') : Keeps I (atomic x) := by
  intro s hs
  unfold Effect.atomic
  dsimp only
  split
  · rename_i a s' hx
    exact h s a s' hs hx
  · exact hs

theorem atomic_error (h : x.run s = (.error e, s')) : (atomic x).run s = (.error e, s) := by
  unfold atomic
  dsimp only
  rw [h]

theorem atomic_eq_error (h : (atomic x).run s = (.error e, s')) : s' = s := by
  unfold atomic at h
  dsimp only at h
  split at h
  · exact nomatch (Prod.mk.inj h).1
  · exact (Prod.mk.inj h).2.symm

theorem atomic_eq_ok : (atomic x).run s = (.ok a, s') ↔ x.run s = (.ok a, s') := by
  unfold atomic
  dsimp only
  split <;> simp_all

def look (x : Effect σ ε α) (s : σ) : Except ε α := (x.run s).1

def ReadOnly (x : Effect σ ε α) : Prop := ∀ s, Keeps (· = s) x

theorem ReadOnly.run_eq (h : ReadOnly x) (s : σ) : x.run s = (x.look s, s) :=
  Prod.ext rfl (h s s rfl)

theorem ReadOnly.eq_ok (h : ReadOnly x) : x.run s = (.ok a, s') ↔ x.look s = .ok a ∧ s' = s := by
  rw [h.run_eq s, Prod.mk.injEq, eq_comm (a := s)]

theorem ReadOnly.bind_eq_ok (h : ReadOnly x) : (x >>= f).run s = (.ok b, s') ↔
    ∃ a, x.look s = .ok a ∧ (f a).run s = (.ok b, s') := by
  rw [Effect.bind_eq_ok]
  constructor
  · rintro ⟨a, s₁, hx, hf⟩
    obtain ⟨ha, rfl⟩ := h.eq_ok.mp hx
    exact ⟨a, ha, hf⟩
  · rintro ⟨a, ha, hf⟩
    exact ⟨a, s, h.eq_ok.mpr ⟨ha, rfl⟩, hf⟩

@[simp] theorem look_atomic (x : Effect σ ε α) (s : σ) : (atomic x).look s = x.look s := by
  show ((atomic x).run s).1 = (x.run s).1
  unfold atomic
  dsimp only
  rcases x.run s with ⟨e | a, s'⟩ <;> rfl

@[simp] theorem look_mapError (x : Effect σ ε α) (f : ε → ε') (s : σ) :
    (mapError x f).look s = (x.look s).mapError f := by
  show ((mapError x f).run s).1 = (x.run s).1.mapError f
  unfold mapError
  dsimp only
  rcases x.run s with ⟨e | a, s'⟩ <;> rfl

@[simp] theorem look_query (f : σ → Except ε α) (s : σ) : (query f).look s = f s := rfl

theorem look_bind (h : ReadOnly x) (f : α → Effect σ ε β) (s : σ) :
    (x >>= f).look s = x.look s >>= fun a => (f a).look s := by
  show ((x >>= f).run s).1 = _
  rw [bind_apply, h.run_eq s]
  rcases x.look s with e | a <;> rfl

theorem look_ofExcept_bind (r : Except ε α) (f : α → Effect σ ε β) (s : σ) :
    (ofExcept r >>= f).look s = r >>= fun a => (f a).look s := look_bind (fun _ => keeps_ofExcept r) f s

theorem ReadOnly.atomic (h : ReadOnly x) : ReadOnly (atomic x) := by
  intro s
  refine Keeps.atomic fun t a t' ht hr => ?_
  exact ((h.eq_ok.mp hr).2).trans ht

def Respects (Q : σ → σ → Prop) (x y : Effect σ ε α) : Prop :=
  ∀ s₁ s₂, Q s₁ s₂ → (x.run s₁).1 = (y.run s₂).1 ∧ Q (x.run s₁).2 (y.run s₂).2

def Matched (Q : α → β → Prop) : Except ε α → Except ε β → Prop
  | .ok a, .ok b => Q a b
  | .error e, .error e' => e = e'
  | _, _ => False

theorem Matched.mapError {Q : α → β → Prop} {x : Except ε α} {y : Except ε β}
    (h : Matched Q x y) (f : ε → ε') : Matched Q (x.mapError f) (y.mapError f) := by
  rcases x with e | a <;> rcases y with e' | b
  · exact congrArg f h
  · exact h
  · exact h
  · exact h

variable {Q : σ → σ → Prop}

theorem respects_pure (a : α) : Respects Q (pure a : Effect σ ε α) (pure a) :=
  fun _ _ h => ⟨rfl, h⟩

theorem respects_ofExcept (x : Except ε α) : Respects Q (ofExcept x) (ofExcept x) :=
  fun _ _ h => ⟨rfl, h⟩

theorem respects_query {f g : σ → Except ε α} (h : ∀ s₁ s₂, Q s₁ s₂ → f s₁ = g s₂) :
    Respects Q (query f) (query g) :=
  fun s₁ s₂ hs => ⟨h s₁ s₂ hs, hs⟩

theorem respects_write {f g : σ → Except ε σ}
    (h : ∀ s₁ s₂, Q s₁ s₂ → Matched Q (f s₁) (g s₂)) : Respects Q (write f) (write g) := by
  intro s₁ s₂ hs
  have hm := h s₁ s₂ hs
  unfold write
  dsimp only
  rcases hf : f s₁ with e | t₁ <;> rcases hg : g s₂ with e' | t₂ <;>
    simp only [hf, hg, Matched] at hm
  · exact ⟨congrArg Except.error hm, hs⟩
  · exact ⟨rfl, hm⟩

variable {y : Effect σ ε α}

theorem Respects.bind {g : α → Effect σ ε β} (hx : Respects Q x y)
    (hf : ∀ a, Respects Q (f a) (g a)) : Respects Q (x >>= f) (y >>= g) := by
  intro s₁ s₂ hs
  obtain ⟨hsa, hr⟩ := hx s₁ s₂ hs
  rcases hx₁ : x.run s₁ with ⟨e | a, t₁⟩ <;> rcases hy₂ : y.run s₂ with ⟨e' | b, t₂⟩ <;>
    rw [hx₁, hy₂] at hsa hr
  · rw [bind_error hx₁, bind_error hy₂]
    exact ⟨congrArg Except.error (Except.error.inj hsa), hr⟩
  · cases hsa
  · cases hsa
  · cases hsa
    rw [bind_ok hx₁, bind_ok hy₂]
    exact hf a t₁ t₂ hr

theorem Respects.atomic (h : Respects Q x y) : Respects Q (atomic x) (atomic y) := by
  intro s₁ s₂ hs
  obtain ⟨hsa, hr⟩ := h s₁ s₂ hs
  unfold Effect.atomic
  dsimp only
  rcases hx₁ : x.run s₁ with ⟨e | a, t₁⟩ <;> rcases hy₂ : y.run s₂ with ⟨e' | b, t₂⟩ <;>
    rw [hx₁, hy₂] at hsa hr
  · exact ⟨congrArg Except.error (Except.error.inj hsa), hs⟩
  · cases hsa
  · cases hsa
  · exact ⟨congrArg Except.ok (Except.ok.inj hsa), hr⟩

end Effect

end Leadkart
