import Leadkart.Logic.Machine

/-!
# The read-through cache without a first level
-/

namespace Leadkart.Cache

open Machine

variable {V π γ : Type}

structure Entry (V : Type) where
  value : V
  readAt : Option Nat
  deriving DecidableEq

inductive Load (V : Type) where
  | started
  | captured (genBefore : UInt64)
  | loaded (genBefore : UInt64) (e : Entry V)
  | unchanged (e : Entry V)
  | finished (result : Option (Entry V))

inductive Call (V : Type) where
  | idle
  | getting (floor : Nat)
  | missed (floor : Nat)
  | waiting (floor : Nat)
  | returned (floor : Nat) (result : Option (Entry V))
  | invalidating (mutations : Nat)
  | setting (value : V)
  deriving DecidableEq

structure State (V π γ : Type) where
  source : V
  mutations : Nat
  l2 : Option (Entry V)
  gen : π → UInt64
  load : π → Option (Load V)
  call : γ → Call V
  settled : Nat

namespace State

def init (source : V) (l2 : Option (Entry V)) : State V π γ where
  source
  mutations := 0
  l2
  gen _ := 0
  load _ := none
  call _ := .idle
  settled := 0

def setCall [DecidableEq γ] (st : State V π γ) (g : γ) (c : Call V) : State V π γ :=
  { st with call := Function.update st.call g c }

def setLoad [DecidableEq π] (st : State V π γ) (p : π) (l : Option (Load V)) : State V π γ :=
  { st with load := Function.update st.load p l }

theorem setCall_self [DecidableEq γ] (st : State V π γ) (g : γ) (c : Call V) :
    (st.setCall g c).call g = c := Function.update_self ..

theorem setCall_of_ne [DecidableEq γ] (st : State V π γ) {g g' : γ} (c : Call V) (h : g' ≠ g) :
    (st.setCall g c).call g' = st.call g' := Function.update_of_ne h ..

theorem setLoad_self [DecidableEq π] (st : State V π γ) (p : π) (l : Option (Load V)) :
    (st.setLoad p l).load p = l := Function.update_self ..

theorem setLoad_of_ne [DecidableEq π] (st : State V π γ) {p p' : π} (l : Option (Load V))
    (h : p' ≠ p) : (st.setLoad p l).load p' = st.load p' := Function.update_of_ne h ..

def bump [DecidableEq π] (st : State V π γ) (p : π) : State V π γ :=
  { st with gen := Function.update st.gen p (st.gen p + 1) }

end State

inductive Label (V π γ : Type) where
  | mutate (v : V)
  | get (g : γ)
  | readL2 (g : γ) (up : Bool)
  | fly (g : γ)
  | capture (p : π)
  | factory (p : π) (ok : Bool)
  | check (p : π) (encodes : Bool)
  | writeL2 (p : π) (up : Bool)
  | land (p : π)
  | invalidate (g : γ)
  | deleteL2 (g : γ) (up : Bool)
  | set (g : γ) (v : V)
  | storeL2 (g : γ) (up : Bool)
  | bump (p : π)
  | expire

def Call.free : Call V → Bool
  | .idle | .returned _ _ => true
  | _ => false

open State

def step [DecidableEq π] [DecidableEq γ] (home : γ → π) (st : State V π γ) :
    Label V π γ → Option (State V π γ)
  | .mutate v => some { st with source := v, mutations := st.mutations + 1 }
  | .get g => if (st.call g).free then some (st.setCall g (.getting st.settled)) else none
  | .readL2 g up =>
    match st.call g with
    | .getting floor =>
      match if up then st.l2 else none with
      | some e => some (st.setCall g (.returned floor (some e)))
      | none => some (st.setCall g (.missed floor))
    | _ => none
  | .fly g =>
    match st.call g with
    | .missed floor =>
      match st.load (home g) with
      | some _ => some (st.setCall g (.waiting floor))
      | none => some ((st.setLoad (home g) (some .started)).setCall g (.waiting floor))
    | _ => none
  | .capture p =>
    match st.load p with
    | some .started => some (st.setLoad p (some (.captured (st.gen p))))
    | _ => none
  | .factory p ok =>
    match st.load p with
    | some (.captured genBefore) =>
      if ok then some (st.setLoad p (some (.loaded genBefore ⟨st.source, some st.mutations⟩)))
      else some (st.setLoad p (some (.finished none)))
    | _ => none
  | .check p encodes =>
    match st.load p with
    | some (.loaded genBefore e) =>
      if encodes && st.gen p == genBefore then some (st.setLoad p (some (.unchanged e)))
      else some (st.setLoad p (some (.finished (some e))))
    | _ => none
  | .writeL2 p up =>
    match st.load p with
    | some (.unchanged e) =>
      some { st.setLoad p (some (.finished (some e))) with l2 := if up then some e else st.l2 }
    | _ => none
  | .land p =>
    match st.load p with
    | some (.finished result) =>
      some { st.setLoad p none with
        call := fun g =>
          match st.call g with
          | .waiting floor => if home g = p then .returned floor result else .waiting floor
          | c => c }
    | _ => none
  | .invalidate g =>
    if (st.call g).free then some ((st.bump (home g)).setCall g (.invalidating st.mutations))
    else none
  | .deleteL2 g up =>
    match st.call g with
    | .invalidating m =>
      -- a failed delete is returned as an error, and settles nothing
      if up then some { st.setCall g .idle with l2 := none, settled := max st.settled m }
      else some (st.setCall g .idle)
    | _ => none
  | .set g v =>
    if (st.call g).free then some ((st.bump (home g)).setCall g (.setting v)) else none
  | .storeL2 g up =>
    match st.call g with
    | .setting v =>
      some { st.setCall g .idle with l2 := if up then some ⟨v, none⟩ else st.l2 }
    | _ => none
  | .bump p => some (st.bump p)
  | .expire => some { st with l2 := none }

/-! ## What the cache holds -/

def Entry.Since (e : Entry V) (n : Nat) : Prop := ∀ m, e.readAt = some m → n ≤ m

def Load.entry : Load V → Option (Entry V)
  | .started | .captured _ => none
  | .loaded _ e | .unchanged e => some e
  | .finished result => result

def State.inHand (st : State V π γ) (p : π) : Option (Entry V) := (st.load p).bind Load.entry

def Call.Ok (settled mutations : Nat) : Call V → Prop
  | .getting floor | .missed floor | .waiting floor => floor ≤ settled
  | .returned floor (some e) => e.Since floor
  | .invalidating m => m ≤ mutations
  | .idle | .returned _ none | .setting _ => True

structure Fresh (st : State V π γ) : Prop where
  settled_le : st.settled ≤ st.mutations
  cached (e : Entry V) : st.l2 = some e → e.Since st.settled
  inHand (p : π) (e : Entry V) : st.inHand p = some e → e.Since st.settled
  pending (g : γ) (m : Nat) (p : π) (e : Entry V) :
    st.call g = .invalidating m → st.inHand p = some e → e.Since m
  calls (g : γ) : (st.call g).Ok st.settled st.mutations

variable {st st' : State V π γ} {c : Call V}

theorem Call.Ok.mono {s s' n n' : Nat} (h : c.Ok s n) (hs : s ≤ s') (hn : n ≤ n') : c.Ok s' n' := by
  cases c with
  | idle => trivial
  | getting floor | missed floor | waiting floor => exact Nat.le_trans h hs
  | returned floor result =>
    cases result with
    | none => trivial
    | some e => exact h
  | invalidating m => exact Nat.le_trans h hn
  | setting v => trivial

theorem Call.Ok.returned {f settled mutations : Nat} {result : Option (Entry V)}
    (hf : f ≤ settled) (hr : ∀ e, result = some e → e.Since settled) :
    (Call.returned f result).Ok settled mutations := by
  cases result with
  | none => trivial
  | some e =>
    intro m hm
    exact Nat.le_trans hf (hr e rfl m hm)

theorem fresh_init (s : V) (l2 : Option (Entry V)) : Fresh (init s l2 : State V π γ) where
  settled_le := Nat.le_refl 0
  cached _ _ _ _ := Nat.zero_le _
  inHand _ _ h := nomatch h
  pending _ _ _ _ h := nomatch h
  calls _ := trivial

theorem Fresh.setCall [DecidableEq γ] {g : γ} (h : Fresh st) (hc : c.Ok st.settled st.mutations)
    (hn : ∀ m, c = .invalidating m → ∀ p, st.inHand p = none) : Fresh (st.setCall g c) where
  settled_le := h.settled_le
  cached := h.cached
  inHand := h.inHand
  pending g' m p e hca he := by
    by_cases hg : g' = g
    · subst hg
      rw [setCall_self] at hca
      exact nomatch (hn m hca p).symm.trans he
    · rw [setCall_of_ne st c hg] at hca
      exact h.pending g' m p e hca he
  calls g' := by
    by_cases hg : g' = g
    · subst hg
      rw [setCall_self]
      exact hc
    · rw [setCall_of_ne st c hg]
      exact h.calls g'

theorem Fresh.setLoad [DecidableEq π] {p : π} {l : Option (Load V)} (h : Fresh st)
    (hl : ∀ e, l.bind Load.entry = some e →
    st.inHand p = some e ∨ e = ⟨st.source, some st.mutations⟩) : Fresh (st.setLoad p l) := by
  have hme : ∀ p' e, (st.setLoad p l).inHand p' = some e →
      st.inHand p' = some e ∨ e = ⟨st.source, some st.mutations⟩ := by
    intro p' e he
    unfold State.inHand at he
    by_cases hp : p' = p
    · subst hp
      rw [setLoad_self] at he
      exact hl e he
    · rw [setLoad_of_ne st l hp] at he
      exact .inl he
  have hr : ∀ n, n ≤ st.mutations → (⟨st.source, some st.mutations⟩ : Entry V).Since n := by
    intro n hn m hm
    cases hm
    exact hn
  refine ⟨h.settled_le, h.cached, ?_, ?_, h.calls⟩
  · intro p' e he
    obtain hk | rfl := hme p' e he
    · exact h.inHand p' e hk
    · exact hr _ h.settled_le
  · intro g m p' e hc he
    obtain hk | rfl := hme p' e he
    · exact h.pending g m p' e hc hk
    · have hm := h.calls g
      rw [show st.call g = _ from hc] at hm
      exact hr m hm

theorem Fresh.bump [DecidableEq π] (h : Fresh st) (p : π) : Fresh (st.bump p) :=
  ⟨h.settled_le, h.cached, h.inHand, h.pending, h.calls⟩

theorem Fresh.setL2 {l2 : Option (Entry V)} (h : Fresh st)
    (hl2 : ∀ e, l2 = some e → e.Since st.settled) : Fresh { st with l2 } :=
  ⟨h.settled_le, hl2, h.inHand, h.pending, h.calls⟩

def Quiet (st : State V π γ) : Label V π γ → Prop
  | .invalidate _ => ∀ p, st.inHand p = none
  | _ => True

section

variable [DecidableEq π] [DecidableEq γ] {home : γ → π} {g : γ}

theorem Fresh.readL2 {up : Bool} (h : Fresh st) (hs : step home st (.readL2 g up) = some st') :
    Fresh st' := by
  have hca := h.calls g
  unfold step at hs
  dsimp only at hs
  cases hc : st.call g with
  | getting floor =>
    rw [hc] at hs hca
    dsimp only at hs
    split at hs
    next e he =>
      cases hs
      refine h.setCall (.returned hca ?_) fun _ hn => nomatch hn
      intro e' he'
      cases he'
      cases up with
      | false => cases he
      | true => exact h.cached e he
    next =>
      cases hs
      exact h.setCall hca fun _ hn => nomatch hn
  | _ => rw [hc] at hs; cases hs

theorem Fresh.fly (h : Fresh st) (hs : step home st (.fly g) = some st') : Fresh st' := by
  have hca := h.calls g
  unfold step at hs
  dsimp only at hs
  cases hc : st.call g with
  | missed floor =>
    rw [hc] at hs hca
    dsimp only at hs
    split at hs
    · cases hs
      exact h.setCall hca fun _ hn => nomatch hn
    · cases hs
      have hst : Fresh (st.setLoad (home g) (some .started)) := h.setLoad fun _ he => nomatch he
      exact hst.setCall hca fun _ hn => nomatch hn
  | _ => rw [hc] at hs; cases hs

theorem Fresh.land {p : π} (h : Fresh st) (hs : step home st (.land p) = some st') : Fresh st' := by
  unfold step at hs
  dsimp only at hs
  split at hs
  next result hl =>
    cases hs
    have hr : ∀ e, result = some e → e.Since st.settled := by
      intro e he
      have hh : st.inHand p = some e := by rw [State.inHand, hl, ← he]; rfl
      exact h.inHand p e hh
    have hf : Fresh (st.setLoad p none) := h.setLoad fun _ he => nomatch he
    refine ⟨h.settled_le, h.cached, hf.inHand, ?_, ?_⟩
    · intro g m p' e hca he
      refine hf.pending g m p' e ?_ he
      dsimp only at hca
      cases hc : st.call g with
      | waiting floor =>
        rw [hc] at hca
        dsimp only at hca
        split at hca <;> cases hca
      | _ => rw [hc] at hca; exact hc.trans hca
    · intro g
      have hca := h.calls g
      dsimp only
      cases hc : st.call g with
      | waiting floor =>
        rw [hc] at hca
        dsimp only
        split
        · exact .returned hca hr
        · exact hca
      | _ => rw [hc] at hca; exact hca
  next => cases hs

theorem Fresh.deleteL2 {up : Bool} (h : Fresh st) (hs : step home st (.deleteL2 g up) = some st') :
    Fresh st' := by
  have hca := h.calls g
  have hi : Fresh (st.setCall g .idle) := h.setCall trivial fun _ hne => nomatch hne
  unfold step at hs
  dsimp only at hs
  cases hc : st.call g with
  | invalidating m =>
    rw [hc] at hs hca
    dsimp only at hs
    split at hs
    · cases hs
      have hm : m ≤ st.mutations := hca
      refine ⟨Nat.max_le.mpr ⟨h.settled_le, hm⟩, ?_, ?_, hi.pending, ?_⟩
      · intro _ he
        cases he
      · intro p e he n hn
        have hse := h.inHand p e he n hn
        have hp := h.pending g m p e hc he n hn
        exact Nat.max_le.mpr ⟨hse, hp⟩
      · intro g'
        exact (hi.calls g').mono (Nat.le_max_left ..) (Nat.le_refl _)
    · cases hs
      exact hi
  | _ => rw [hc] at hs; cases hs

theorem Fresh.step {l : Label V π γ} (h : Fresh st) (hq : Quiet st l)
    (hs : Cache.step home st l = some st') : Fresh st' := by
  cases l with
  | mutate v =>
    cases hs
    exact ⟨Nat.le_succ_of_le h.settled_le, h.cached, h.inHand, h.pending,
      fun g => (h.calls g).mono (Nat.le_refl _) (Nat.le_succ _)⟩
  | get g =>
    unfold Cache.step at hs
    dsimp only at hs
    split at hs
    · cases hs
      exact h.setCall (Nat.le_refl _) fun _ hn => nomatch hn
    · cases hs
  | readL2 g up => exact h.readL2 hs
  | fly g => exact h.fly hs
  | capture p =>
    unfold Cache.step at hs
    dsimp only at hs
    split at hs
    next hl =>
      cases hs
      exact h.setLoad fun _ he => nomatch he
    next => cases hs
  | factory p ok =>
    unfold Cache.step at hs
    dsimp only at hs
    split at hs
    next genBefore hl =>
      split at hs <;> cases hs
      · exact h.setLoad fun _ he => .inr (Option.some.inj he).symm
      · exact h.setLoad fun _ he => nomatch he
    next => cases hs
  | check p encodes =>
    unfold Cache.step at hs
    dsimp only at hs
    split at hs
    next genBefore e hl =>
      have hh : st.inHand p = some e := by rw [State.inHand, hl]; rfl
      split at hs <;> cases hs
      · exact h.setLoad fun _ he => .inl (hh.trans he)
      · exact h.setLoad fun _ he => .inl (hh.trans he)
    next => cases hs
  | writeL2 p up =>
    unfold Cache.step at hs
    dsimp only at hs
    split at hs
    next e hl =>
      cases hs
      have hh : st.inHand p = some e := by rw [State.inHand, hl]; rfl
      have hd : Fresh (st.setLoad p (some (.finished (some e)))) :=
        h.setLoad fun _ he => .inl (hh.trans he)
      refine hd.setL2 ?_
      intro e' he'
      cases up with
      | false => exact h.cached e' he'
      | true => exact h.inHand p e' (hh.trans he')
    next => cases hs
  | land p => exact h.land hs
  | invalidate g =>
    unfold Cache.step at hs
    dsimp only at hs
    split at hs
    · cases hs
      exact (h.bump (home g)).setCall (Nat.le_refl _) fun _ _ => hq
    · cases hs
  | deleteL2 g up => exact h.deleteL2 hs
  | set g v =>
    unfold Cache.step at hs
    dsimp only at hs
    split at hs
    · cases hs
      exact (h.bump (home g)).setCall trivial fun _ hn => nomatch hn
    · cases hs
  | storeL2 g up =>
    unfold Cache.step at hs
    dsimp only at hs
    split at hs
    next v hc =>
      cases hs
      have hi : Fresh (st.setCall g .idle) := h.setCall trivial fun _ hn => nomatch hn
      refine hi.setL2 ?_
      intro e he
      cases up with
      | false => exact h.cached e he
      | true =>
        -- a value that was set was never read
        cases he
        exact fun _ hm => nomatch hm
    next => cases hs
  | bump p =>
    cases hs
    exact h.bump p
  | expire =>
    cases hs
    exact h.setL2 fun _ he => nomatch he

/-- A value from the cache is as new as the last invalidation before the call. -/
theorem get_fresh_of_quiet {source : V} {l2 : Option (Entry V)} {ls : List (Label V π γ)}
    (hquiet : Along (step home) Quiet (init source l2) ls)
    (hr : run (step home) (init source l2) ls = some st) {floor : Nat} {e : Entry V}
    (hret : st.call g = .returned floor (some e)) : e.Since floor := by
  have hf : Fresh st :=
    run_invariant (fresh_init source l2) (fun _ _ _ hf hq hs => hf.step hq hs) hquiet hr
  have hok := hf.calls g
  rw [hret] at hok
  exact hok

end

abbrev Sample := State Nat Bool Bool

def inOneProcess : Bool → Bool := fun _ => false

instance (st : Sample) : (l : Label Nat Bool Bool) → Decidable (Quiet st l)
  | .invalidate _ => inferInstanceAs (Decidable (∀ p, st.inHand p = none))
  | .mutate _ | .get _ | .readL2 .. | .fly _ | .capture _ | .factory .. | .check .. | .writeL2 ..
  | .land _ | .deleteL2 .. | .set .. | .storeL2 .. | .bump _ | .expire => .isTrue trivial

def inTurn : List (Label Nat Bool Bool) :=
  [.get false, .readL2 false true, .fly false, .capture false, .factory false true, .check false true,
    .writeL2 false true, .land false, .mutate 2, .invalidate true, .deleteL2 true true,
    .get false, .readL2 false true, .fly false, .capture false, .factory false true, .check false true,
    .writeL2 false true, .land false]

theorem get_after_invalidate_in_turn :
    ∃ st : Sample, run (step inOneProcess) (init 1 none) inTurn = some st ∧
    st.call false = .returned 1 (some ⟨2, some 1⟩) ∧ Entry.Since (⟨2, some 1⟩ : Entry Nat) 1 := by
  have hq : Along (step inOneProcess) Quiet (init 1 none : Sample) inTurn := by decide +kernel
  exact exists_some (P := fun st => st.call false = .returned 1 (some ⟨2, some 1⟩))
    (by decide +kernel) fun st hr hre => ⟨hre, get_fresh_of_quiet hq hr hre⟩

def lateWrite : List (Label Nat Bool Bool) :=
  [.get false, .readL2 false true, .fly false, .capture false, .factory false true, .check false true,
    .mutate 2, .invalidate true, .deleteL2 true true, .writeL2 false true, .land false,
    .get true, .readL2 true true]

theorem stale_write_after_invalidate :
    ∃ st : Sample, run (step inOneProcess) (init 1 none) lateWrite = some st ∧
    st.call true = .returned 1 (some ⟨1, some 0⟩) ∧ ¬ Entry.Since (⟨1, some 0⟩ : Entry Nat) 1 := by
  refine exists_some (P := fun st => st.call true = .returned 1 (some ⟨1, some 0⟩))
    (by decide +kernel) fun st _ hr => ⟨hr, ?_⟩
  intro hs
  exact absurd (hs 0 rfl) (by decide)

end Leadkart.Cache
