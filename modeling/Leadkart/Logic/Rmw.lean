import Mathlib.Data.List.Nodup
import Leadkart.Logic.Machine

/-!
# Read-modify-write transactions without a lock on the read
-/

namespace Leadkart.Rmw

open Leadkart.Machine
open Function (update update_self update_of_ne)

structure Txn (σ W : Type*) where
  reads : Nat
  attempt : List σ → Option W
  write : W → σ → Option σ

def Txn.alone {σ W : Type*} (t : Txn σ W) (s : σ) : Option σ :=
  (t.attempt (List.replicate t.reads s)).bind fun w => t.write w s

def updateTxn {σ W α : Type*} (load : σ → Option α) (change : α → Option W)
    (write : W → σ → Option σ) : Txn σ W where
  reads := 1
  attempt
    | [s] => (load s).bind change
    | _ => none
  write := write

inductive Phase (σ W : Type*) where
  | reading (seen : List σ)
  | writing (seen : List σ) (w : W)
  | finished

structure Commit (ι σ : Type*) where
  who : ι
  seen : List σ
  stored : σ

structure State (ι σ W : Type*) where
  store : σ
  lock : Option ι
  phase : ι → Phase σ W
  log : List (Commit ι σ)

def init (ι W : Type*) {σ : Type*} (s : σ) : State ι σ W :=
  { store := s, lock := none, phase := fun _ => .reading [], log := [] }

inductive Label (ι : Type*) where
  | read (i : ι)
  | write (i : ι)
  | commit (i : ι)
  | abort (i : ι)
  deriving DecidableEq

variable {ι σ W β : Type*} [DecidableEq ι]

section

variable (txn : ι → Txn σ W)

def step (st : State ι σ W) : Label ι → Option (State ι σ W)
  | .read i =>
    match st.phase i with
    | .reading seen =>
      if seen.length < (txn i).reads then
        some { st with phase := update st.phase i (.reading (seen ++ [st.store])) }
      else none
    | _ => none
  | .write i =>
    match st.phase i, st.lock with
    | .reading seen, none =>
      if seen.length = (txn i).reads then
        ((txn i).attempt seen).map fun w =>
          { st with lock := some i, phase := update st.phase i (.writing seen w) }
      else none
    | _, _ => none
  | .commit i =>
    match st.phase i with
    | .writing seen w =>
      ((txn i).write w st.store).map fun s =>
        { store := s, lock := none, phase := update st.phase i .finished,
          log := ⟨i, seen, s⟩ :: st.log }
    | _ => none
  | .abort i =>
    match st.phase i with
    | .finished => none
    | _ => some { st with
        lock := if st.lock = some i then none else st.lock
        phase := update st.phase i .finished }

def Current (π : σ → β) (st : State ι σ W) : Label ι → Prop
  | .write i =>
    match st.phase i with
    | .reading seen => ∀ s ∈ seen, π s = π st.store
    | _ => True
  | _ => True

instance Current.decidable [DecidableEq β] (π : σ → β) (st : State ι σ W) :
    ∀ l : Label ι, Decidable (Current π st l)
  | .read _ | .commit _ | .abort _ => .isTrue trivial
  | .write i =>
    match h : st.phase i with
    | .reading seen => decidable_of_iff (∀ s ∈ seen, π s = π st.store) (by simp [Current, h])
    | .writing _ _ | .finished => .isTrue (by simp [Current, h])

end

theorem updateTxn_attempt {σ W α : Type*} {load : σ → Option α} {change : α → Option W}
    {write : W → σ → Option σ} {seen : List σ} {w : W}
    (h : (updateTxn load change write).attempt seen = some w) :
    ∃ s a, seen = [s] ∧ load s = some a ∧ change a = some w := by
  unfold updateTxn at h
  dsimp only at h
  split at h
  next s =>
    obtain ⟨a, ha, hw⟩ := Option.bind_eq_some_iff.mp h
    exact ⟨s, a, rfl, ha, hw⟩
  next => cases h

variable {txn : ι → Txn σ W} {st st' : State ι σ W} {i : ι}

theorem step_read (h : step txn st (.read i) = some st') :
    ∃ seen, st.phase i = .reading seen ∧ seen.length < (txn i).reads ∧
    st' = { st with phase := update st.phase i (.reading (seen ++ [st.store])) } := by
  simp only [step] at h
  split at h
  · rename_i seen hp
    split at h
    · exact ⟨seen, hp, ‹_›, (Option.some.inj h).symm⟩
    · cases h
  · cases h

theorem step_write (h : step txn st (.write i) = some st') :
    ∃ seen w, st.phase i = .reading seen ∧ st.lock = none ∧ seen.length = (txn i).reads ∧
    (txn i).attempt seen = some w ∧
    st' = { st with lock := some i, phase := update st.phase i (.writing seen w) } := by
  simp only [step] at h
  split at h
  · rename_i seen hp hl
    split at h
    · rename_i hle
      obtain ⟨w, hw, rfl⟩ := Option.map_eq_some_iff.mp h
      exact ⟨seen, w, hp, hl, hle, hw, rfl⟩
    · cases h
  · cases h

theorem step_commit (h : step txn st (.commit i) = some st') :
    ∃ seen w s, st.phase i = .writing seen w ∧ (txn i).write w st.store = some s ∧
    st' = { store := s, lock := none, phase := update st.phase i .finished,
            log := ⟨i, seen, s⟩ :: st.log } := by
  simp only [step] at h
  split at h
  · rename_i seen w hp
    obtain ⟨s, hs, rfl⟩ := Option.map_eq_some_iff.mp h
    exact ⟨seen, w, s, hp, hs, rfl⟩
  · cases h

theorem step_abort (h : step txn st (.abort i) = some st') : st.phase i ≠ .finished ∧
    st' = { st with lock := if st.lock = some i then none else st.lock,
                    phase := update st.phase i .finished } := by
  simp only [step] at h
  split at h
  · cases h
  · rename_i hp
    exact ⟨hp, (Option.some.inj h).symm⟩

structure Guarded (π : σ → β) (txn : ι → Txn σ W) (st : State ι σ W) : Prop where
  holder : ∀ i seen w, st.phase i = .writing seen w → st.lock = some i
  attempted : ∀ i seen w, st.phase i = .writing seen w →
    seen.length = (txn i).reads ∧ (txn i).attempt seen = some w
  current : ∀ i seen w, st.phase i = .writing seen w → ∀ s ∈ seen, π s = π st.store
  logged : ∀ c ∈ st.log, st.phase c.who = .finished

omit [DecidableEq ι] in
theorem guarded_init (π : σ → β) (txn : ι → Txn σ W) (s : σ) : Guarded π txn (init ι W s) where
  holder := by intro i seen w h; exact absurd h (by simp [init])
  attempted := by intro i seen w h; exact absurd h (by simp [init])
  current := by intro i seen w h; exact absurd h (by simp [init])
  logged := by intro c hc; exact absurd hc (by simp [init])

variable {π : σ → β} {p : ι → Phase σ W}

theorem writing_of_update {ph : Phase σ W} {j : ι} {seen : List σ} {w : W}
    (hph : ∀ seen w, ph ≠ .writing seen w) (h : update p i ph j = .writing seen w) :
    j ≠ i ∧ p j = .writing seen w := by
  by_cases hj : j = i
  · subst hj
    rw [update_self] at h
    exact absurd h (hph seen w)
  · rw [update_of_ne hj] at h
    exact ⟨hj, h⟩

theorem finished_update {j : ι} (h : p j = .finished) :
    update p i .finished j = .finished := by
  by_cases hj : j = i
  · rw [hj, update_self]
  · rw [update_of_ne hj, h]

omit [DecidableEq ι] in
theorem Guarded.who_ne (hg : Guarded π txn st) (h : st.phase i ≠ .finished) :
    ∀ c ∈ st.log, c.who ≠ i := by
  intro c hc hw
  exact h (hw ▸ hg.logged c hc)

theorem Guarded.logged_update (hg : Guarded π txn st) (h : st.phase i ≠ .finished)
    (ph : Phase σ W) : ∀ c ∈ st.log, update st.phase i ph c.who = .finished := by
  intro c hc
  rw [update_of_ne (hg.who_ne h c hc)]
  exact hg.logged c hc

theorem Guarded.step_read (hg : Guarded π txn st) (h : step txn st (.read i) = some st') :
    Guarded π txn st' := by
  obtain ⟨seen, hp, -, rfl⟩ := Rmw.step_read h
  refine ⟨?_, ?_, ?_, hg.logged_update (by simp [hp]) _⟩
  · intro j seen w hj
    exact hg.holder j seen w (writing_of_update (by simp) hj).2
  · intro j seen w hj
    exact hg.attempted j seen w (writing_of_update (by simp) hj).2
  · intro j seen w hj
    exact hg.current j seen w (writing_of_update (by simp) hj).2

theorem Guarded.step_write (hg : Guarded π txn st) (hc : Current π st (.write i))
    (h : step txn st (.write i) = some st') : Guarded π txn st' := by
  obtain ⟨seen, w, hp, hl, hle, hw, rfl⟩ := Rmw.step_write h
  -- The lock was free, so nobody else was writing.
  have hf : ∀ j seen w, st.phase j ≠ .writing seen w := by
    intro j seen w hj
    exact absurd (hg.holder j seen w hj) (by simp [hl])
  have ho : ∀ j seen' w', update st.phase i (.writing seen w) j = .writing seen' w' →
      j = i ∧ seen' = seen ∧ w' = w := by
    intro j seen' w' hj
    by_cases hji : j = i
    · subst hji
      rw [update_self] at hj
      cases hj
      exact ⟨rfl, rfl, rfl⟩
    · rw [update_of_ne hji] at hj
      exact absurd hj (hf j seen' w')
  refine ⟨?_, ?_, ?_, hg.logged_update (by simp [hp]) _⟩
  · intro j seen' w' hj
    rw [(ho j seen' w' hj).1]
  · intro j seen' w' hj
    obtain ⟨rfl, rfl, rfl⟩ := ho j seen' w' hj
    exact ⟨hle, hw⟩
  · intro j seen' w' hj
    obtain ⟨rfl, rfl, rfl⟩ := ho j seen' w' hj
    simpa only [Current, hp] using hc

theorem Guarded.step_commit (hg : Guarded π txn st) (h : step txn st (.commit i) = some st') :
    Guarded π txn st' := by
  obtain ⟨seen, w, s, hp, -, rfl⟩ := Rmw.step_commit h
  have hnone : ∀ j seen w, update st.phase i .finished j ≠ .writing seen w := by
    intro j seen' w' hj
    obtain ⟨hji, hj'⟩ := writing_of_update (by simp) hj
    have hl := hg.holder i seen w hp
    rw [hg.holder j seen' w' hj'] at hl
    exact hji (Option.some.inj hl)
  refine ⟨?_, ?_, ?_, ?_⟩
  · intro j seen w hj
    exact absurd hj (hnone j seen w)
  · intro j seen w hj
    exact absurd hj (hnone j seen w)
  · intro j seen w hj
    exact absurd hj (hnone j seen w)
  · intro c hc
    rcases List.mem_cons.mp hc with rfl | hc
    · exact update_self ..
    · exact finished_update (hg.logged c hc)

theorem Guarded.step_abort (hg : Guarded π txn st) (h : step txn st (.abort i) = some st') :
    Guarded π txn st' := by
  obtain ⟨-, rfl⟩ := Rmw.step_abort h
  refine ⟨?_, ?_, ?_, fun c hc => finished_update (hg.logged c hc)⟩
  · intro j seen w hj
    obtain ⟨hji, hj'⟩ := writing_of_update (by simp) hj
    have hl := hg.holder j seen w hj'
    simp only [hl, Option.some.injEq, hji, if_false]
  · intro j seen w hj
    exact hg.attempted j seen w (writing_of_update (by simp) hj).2
  · intro j seen w hj
    exact hg.current j seen w (writing_of_update (by simp) hj).2

theorem Guarded.step {l : Label ι} (hg : Guarded π txn st) (hc : Current π st l)
    (h : step txn st l = some st') : Guarded π txn st' := by
  cases l with
  | read i => exact hg.step_read h
  | write i => exact hg.step_write hc h
  | commit i => exact hg.step_commit h
  | abort i => exact hg.step_abort h

omit [DecidableEq ι] in
theorem Guarded.of_unlocked (hg : Guarded π txn st) (hl : st.lock = none) (s : σ) :
    Guarded π txn { st with store := s } where
  holder := hg.holder
  attempted := hg.attempted
  current := by
    intro i seen w hp
    exact absurd (hg.holder i seen w hp) (by simp [hl])
  logged := hg.logged

/-! ## Rules for whole runs -/

def CommitsOn (K : ι → σ → Prop) (st : State ι σ W) : Label ι → Prop
  | .commit i => K i st.store
  | _ => True

instance CommitsOn.decidable {K : ι → σ → Prop} [∀ i s, Decidable (K i s)] (st : State ι σ W) :
    ∀ l : Label ι, Decidable (CommitsOn K st l)
  | .commit i => inferInstanceAs (Decidable (K i st.store))
  | .read _ | .write _ | .abort _ => .isTrue trivial

variable {P : σ → List (Commit ι σ) → Prop} {ls : List (Label ι)}

theorem run_store_rule_on {K : ι → σ → Prop} (hg : Guarded π txn st) (h0 : P st.store st.log)
    (hco : ∀ s log i seen w s', P s log → (∀ c ∈ log, c.who ≠ i) →
    seen.length = (txn i).reads → (∀ x ∈ seen, π x = π s) → K i s →
    (txn i).attempt seen = some w → (txn i).write w s = some s' → P s' (⟨i, seen, s'⟩ :: log))
    (hC : Along (step txn) (fun st l => Current π st l ∧ CommitsOn K st l) st ls)
    (hr : run (step txn) st ls = some st') : P st'.store st'.log := by
  have hi : Guarded π txn st' ∧ P st'.store st'.log := by
    refine run_invariant (P := fun st => Guarded π txn st ∧ P st.store st.log) ⟨hg, h0⟩ ?_ hC hr
    rintro s l s' ⟨hg, hP⟩ ⟨hc, hk⟩ hs
    refine ⟨hg.step hc hs, ?_⟩
    cases l with
    | read i => obtain ⟨_, _, _, rfl⟩ := step_read hs; exact hP
    | write i => obtain ⟨_, _, _, _, _, _, rfl⟩ := step_write hs; exact hP
    | abort i => obtain ⟨_, rfl⟩ := step_abort hs; exact hP
    | commit i =>
      obtain ⟨seen, w, t, hp, hw, rfl⟩ := step_commit hs
      obtain ⟨hl, ha⟩ := hg.attempted i seen w hp
      exact hco s.store s.log i seen w t hP (hg.who_ne (by simp [hp])) hl
        (hg.current i seen w hp) hk ha hw
  exact hi.2

theorem run_store_rule (hg : Guarded π txn st) (h0 : P st.store st.log)
    (hco : ∀ s log i seen w s', P s log → (∀ c ∈ log, c.who ≠ i) →
    seen.length = (txn i).reads → (∀ x ∈ seen, π x = π s) → (txn i).attempt seen = some w →
    (txn i).write w s = some s' → P s' (⟨i, seen, s'⟩ :: log))
    (hC : Along (step txn) (Current π) st ls) (hr : run (step txn) st ls = some st') :
    P st'.store st'.log := by
  have hK : Along (step txn) (fun st l => Current π st l ∧ CommitsOn (fun _ _ => True) st l) st ls :=
    hC.mono fun _ l hc => ⟨hc, by cases l <;> trivial⟩
  exact run_store_rule_on hg h0
    (fun s log i seen w s' hP hl hle hs _ => hco s log i seen w s' hP hl hle hs)
    hK hr

variable {s : σ}

theorem run_store_keeps {P : σ → Prop} (h0 : P s)
    (hc : ∀ s i seen w s', P s → (txn i).attempt seen = some w → (txn i).write w s = some s' →
    P s') (hr : run (step txn) (init ι W s) ls = some st) : P st.store := by
  have ha : Along (step txn) (Current fun _ => ()) (init ι W s) ls := by
    refine along_of_forall (fun st l => ?_) _ _
    cases l with
    | write i =>
      simp only [Current]
      split
      · exact fun _ _ => trivial
      · trivial
    | read i => trivial
    | commit i => trivial
    | abort i => trivial
  exact run_store_rule (P := fun s _ => P s) (guarded_init _ txn s) h0
    (fun s _ i seen w s' hs _ _ _ hat hw => hc s i seen w s' hs hat hw) ha hr

theorem guarded_run (hg : Guarded π txn st) (hC : Along (step txn) (Current π) st ls)
    (hr : run (step txn) st ls = some st') : Guarded π txn st' :=
  run_invariant hg (fun _ _ _ hg hc hs => hg.step hc hs) hC hr

variable {done : σ → Bool}

theorem run_settled (ho : ∀ i seen w, (txn i).attempt seen = some w → ∃ s ∈ seen, done s = false)
    (hg : Guarded done txn st) (hd : done st.store = true)
    (hC : Along (step txn) (Current done) st ls) (hr : run (step txn) st ls = some st') :
    st'.store = st.store ∧ st'.log = st.log := by
  refine run_store_rule (P := fun s log => s = st.store ∧ log = st.log) hg ⟨rfl, rfl⟩ ?_ hC hr
  rintro s log i seen w s' ⟨rfl, rfl⟩ _ _ hs ha _
  obtain ⟨x, hx, hf⟩ := ho i seen w ha
  rw [← hs x hx, hf] at hd
  cases hd

theorem run_settled_once {inv : σ → Prop} {ends : σ → Nat} {before after : List (Label ι)}
    (ho : ∀ i seen w, (txn i).attempt seen = some w → ∃ s ∈ seen, done s = false)
    (hc : ∀ i seen w s s', (txn i).attempt seen = some w → (txn i).write w s = some s' →
    inv s → inv s' ∧ ends s' ≤ ends s + if done s' then 1 else 0) (hi : inv s)
    (he : ends s ≤ if done s then 1 else 0)
    (hC : Along (step txn) (Current done) (init ι W s) (before ++ after))
    (hst : run (step txn) (init ι W s) before = some st) (hst' : run (step txn) st after = some st') :
    (done st.store = true → st'.store = st.store) ∧ ends st'.store ≤ 1 := by
  have hgu := guarded_init done txn s
  have hg := guarded_run hgu hC.append_left hst
  refine ⟨fun hd => (run_settled ho hg hd (hC.append_right hst) hst').1, ?_⟩
  have hen : inv st'.store ∧ ends st'.store ≤ if done st'.store then 1 else 0 := by
    refine run_store_rule (P := fun s _ => inv s ∧ ends s ≤ if done s then 1 else 0) hgu
      ⟨hi, he⟩ ?_ hC (by rw [run_append, hst]; exact hst')
    rintro x log i seen w x' ⟨hx, hnone⟩ _ _ hs ha hw
    obtain ⟨y, hy, hf⟩ := ho i seen w ha
    obtain ⟨hx', hle⟩ := hc i seen w x x' ha hw hx
    rw [← hs y hy, hf] at hnone
    exact ⟨hx', by simpa [Nat.le_zero.mp hnone] using hle⟩
  have hle := hen.2
  split at hle
  · exact hle
  · exact Nat.le_trans hle (Nat.zero_le 1)

def commitOrder (log : List (Commit ι σ)) : List ι := (log.map Commit.who).reverse

omit [DecidableEq ι] in
@[simp] theorem commitOrder_cons (c : Commit ι σ) (log : List (Commit ι σ)) :
    commitOrder (c :: log) = commitOrder log ++ [c.who] := by
  simp [commitOrder]

omit [DecidableEq ι] in
theorem mem_commitOrder {log : List (Commit ι σ)} : i ∈ commitOrder log ↔ ∃ c ∈ log, c.who = i := by
  rw [commitOrder, List.mem_reverse, List.mem_map]

theorem commitOrder_nodup (hg : Guarded π txn st) (h0 : (commitOrder st.log).Nodup)
    (hC : Along (step txn) (Current π) st ls) (hr : run (step txn) st ls = some st') :
    (commitOrder st'.log).Nodup := by
  refine run_store_rule (P := fun _ log => (commitOrder log).Nodup) hg h0 ?_ hC hr
  intro s log j seen w s' hP hj _ _ _ _
  rw [commitOrder_cons]
  refine List.Nodup.append hP (List.nodup_singleton _) (List.disjoint_singleton.mpr fun hm => ?_)
  obtain ⟨c, hc, hcj⟩ := mem_commitOrder.mp hm
  exact hj c hc hcj

theorem run_serial (hC : Along (step txn) (Current id) (init ι W s) ls)
    (hr : run (step txn) (init ι W s) ls = some st') :
    run (fun s i => (txn i).alone s) s (commitOrder st'.log) = some st'.store := by
  refine run_store_rule
    (P := fun t log => run (fun s i => (txn i).alone s) s (commitOrder log) = some t)
    (guarded_init id txn s) rfl ?_ hC hr
  intro t log i seen w t' hP _ hl hs ha hw
  have hre : seen = List.replicate (txn i).reads t := List.eq_replicate_iff.mpr ⟨hl, hs⟩
  rw [commitOrder_cons, run_concat hP]
  show ((txn i).attempt (List.replicate (txn i).reads t)).bind _ = _
  rw [← hre, ha]
  exact hw

theorem order_of_two {o : List (Fin 2)} (hnd : o.Nodup) (hm : ∀ i, i ∈ o) :
    o = [0, 1] ∨ o = [1, 0] := by
  have ha : ∀ i : Fin 2, i ∈ [(0 : Fin 2), 1] := by decide
  have hp : o.Perm [0, 1] :=
    (List.perm_ext_iff_of_nodup hnd (by decide)).mpr fun i => ⟨fun _ => ha i, fun _ => hm i⟩
  have hl : o.length = 2 := hp.length_eq
  match o, hl with
  | [a, b], _ =>
    revert hnd
    revert a b
    decide

theorem run_serial_two {txn : Fin 2 → Txn σ W} {st : State (Fin 2) σ W} {ls : List (Label (Fin 2))}
    (hC : Along (step txn) (Current id) (init (Fin 2) W s) ls)
    (hr : run (step txn) (init (Fin 2) W s) ls = some st) (hb : ∀ i, ∃ c ∈ st.log, c.who = i) :
    ((txn 0).alone s).bind (txn 1).alone = some st.store ∨
    ((txn 1).alone s).bind (txn 0).alone = some st.store := by
  have hs := run_serial hC hr
  have hnd : (commitOrder st.log).Nodup :=
    commitOrder_nodup (guarded_init id txn s) List.nodup_nil hC hr
  have hsi : ∀ (t : σ) (i : Fin 2), run (fun s i => (txn i).alone s) t [i] = (txn i).alone t := by
    intro t i
    rw [run_cons]
    cases (txn i).alone t <;> rfl
  rcases order_of_two hnd fun i => mem_commitOrder.mpr (hb i) with ho | ho
  · rw [ho, run_cons] at hs
    simp only [hsi] at hs
    exact .inl hs
  · rw [ho, run_cons] at hs
    simp only [hsi] at hs
    exact .inr hs

end Leadkart.Rmw
