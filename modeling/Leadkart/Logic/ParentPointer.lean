import Mathlib.Data.List.Nodup
import Mathlib.Data.List.Perm.Subperm

/-!
# Parent pointers
-/

namespace Leadkart.ParentPointer

variable {α : Type*} {up up' : α → Option α} {a b c p : α}

def Above (up : α → Option α) : α → α → Prop := Relation.TransGen fun a b => up a = some b

def Reaches (up : α → Option α) : α → α → Prop := Relation.ReflTransGen fun a b => up a = some b

def Acyclic (up : α → Option α) : Prop := ∀ a, ¬ Above up a a

theorem acyclic_of_none (h : ∀ a, up a = none) : Acyclic up := by
  intro a ha
  obtain ⟨b, hb, -⟩ := Relation.TransGen.head'_iff.mp ha
  exact absurd (hb.symm.trans (h a)) (by simp)

theorem Acyclic.mono (h : Acyclic up) (hle : ∀ a b, up' a = some b → up a = some b) :
    Acyclic up' := by
  intro a ha
  exact h a (Relation.TransGen.mono hle a a ha)

theorem reaches_iff : Reaches up a b ↔ a = b ∨ ∃ d, up a = some d ∧ Reaches up d b := by
  constructor
  · intro h
    rcases Relation.ReflTransGen.cases_head h with rfl | ⟨d, hd, hr⟩
    · exact .inl rfl
    · exact .inr ⟨d, hd, hr⟩
  · rintro (rfl | ⟨d, hd, hr⟩)
    · exact .refl
    · exact .head hd hr

theorem reaches_iff_above : Reaches up a b ↔ a = b ∨ Above up a b :=
  Relation.reflTransGen_iff_eq_or_transGen.trans (or_congr_left eq_comm)

section Changed

theorem above_of_changed (hs : ∀ a b, a ≠ c → up' a = some b → up a = some b)
    (hn : ∀ b, up' c = some b → b = p) (h : Above up' a b) :
    Above up a b ∨ (Reaches up a c ∧ Reaches up p b) := by
  have he : ∀ x y, up' x = some y → up x = some y ∨ (x = c ∧ y = p) := by
    intro x y hxy
    by_cases hx : x = c
    · subst hx
      exact .inr ⟨rfl, hn y hxy⟩
    · exact .inl (hs x y hx hxy)
  induction h with
  | single hab =>
    rcases he _ _ hab with hold | ⟨rfl, rfl⟩
    · exact .inl (.single hold)
    · exact .inr ⟨.refl, .refl⟩
  | tail _ hbd ih =>
    rcases he _ _ hbd with hold | ⟨rfl, rfl⟩
    · rcases ih with hp | ⟨hc, hp⟩
      · exact .inl (.tail hp hold)
      · exact .inr ⟨hc, .tail hp hold⟩
    · rcases ih with hp | ⟨hc, -⟩
      · exact .inr ⟨hp.to_reflTransGen, .refl⟩
      · exact .inr ⟨hc, .refl⟩

theorem Acyclic.changed (h : Acyclic up) (hs : ∀ a b, a ≠ c → up' a = some b → up a = some b)
    (hn : ∀ b, up' c = some b → b = p) (hf : ¬ Reaches up p c) : Acyclic up' := by
  intro a ha
  rcases above_of_changed hs hn ha with hold | ⟨hac, hpa⟩
  · exact h a hold
  · exact hf (hpa.trans hac)

end Changed

def climb (up : α → Option α) : Nat → α → Option α
  | 0, a => some a
  | n + 1, a => (up a).bind (climb up n)

theorem climb_add (m n : Nat) (a : α) : climb up (m + n) a = (climb up m a).bind (climb up n) := by
  induction m generalizing a with
  | zero => simp [climb]
  | succ m ih =>
    rw [Nat.succ_add]
    cases hup : up a with
    | none => simp [climb, hup]
    | some b => simp [climb, hup, ih]

theorem above_of_climb {n : Nat} (h : climb up (n + 1) a = some b) : Above up a b := by
  induction n generalizing a with
  | zero =>
    obtain ⟨d, hd, hc⟩ := Option.bind_eq_some_iff.mp h
    cases hc
    exact .single hd
  | succ n ih =>
    obtain ⟨d, hd, hc⟩ := Option.bind_eq_some_iff.mp h
    exact .head hd (ih hc)

theorem Acyclic.climb_inj (h : Acyclic up) {i j : Nat} (hi : climb up i a = some b)
    (hj : climb up j a = some b) : i = j := by
  have hlt : ∀ {i j : Nat}, climb up i a = some b → climb up j a = some b → ¬ i < j := by
    intro i j hi hj hij
    obtain ⟨k, rfl⟩ : ∃ k, j = i + (k + 1) := ⟨j - i - 1, by omega⟩
    rw [climb_add, hi, Option.bind_some] at hj
    exact h b (above_of_climb hj)
  have hle := hlt hi hj
  have hge := hlt hj hi
  omega

theorem Acyclic.climb_lt (h : Acyclic up) {nodes : List α} {n : Nat}
    (hp : ∀ i ≤ n, ∃ b ∈ nodes, climb up i a = some b) : n < nodes.length := by
  have hnd : ((List.range (n + 1)).filterMap fun i => climb up i a).Nodup := by
    refine List.Nodup.filterMap (fun i j b hi hj => ?_) List.nodup_range
    exact h.climb_inj hi hj
  have hs : ((List.range (n + 1)).filterMap fun i => climb up i a) ⊆ nodes := by
    intro b hb
    obtain ⟨i, hi, hc⟩ := List.mem_filterMap.mp hb
    obtain ⟨b', hb', hc'⟩ := hp i (by have := List.mem_range.mp hi; omega)
    cases hc.symm.trans hc'
    exact hb'
  have ha : ((List.range (n + 1)).filterMap fun i => climb up i a).length = n + 1 := by
    rw [List.length_filterMap_eq_countP, List.countP_eq_length.mpr]
    · exact List.length_range
    · intro i hi
      obtain ⟨b, -, hb⟩ := hp i (by have := List.mem_range.mp hi; omega)
      rw [hb]
      rfl
  have hl := (List.subperm_of_subset hnd hs).length_le
  omega

section Descent

variable (children : α → List α)

def descend : Nat → List α → Option (List α)
  | 0, _ => none
  | _ + 1, [] => some []
  | n + 1, a :: rest =>
    (descend n ((a :: rest).flatMap children)).map fun below => a :: rest ++ below

def level : Nat → List α → List α
  | 0, working => working
  | n + 1, working => level n (working.flatMap children)

variable {children} {working nodes : List α}

theorem descend_of_level {n : Nat} (h : level children n working = []) :
    ∃ below, ∀ fuel, n < fuel → descend children fuel working = some below := by
  induction n generalizing working with
  | zero =>
    have hn : working = [] := h
    subst hn
    refine ⟨[], fun fuel hf => ?_⟩
    obtain ⟨k, rfl⟩ : ∃ k, fuel = k + 1 := ⟨fuel - 1, by omega⟩
    rfl
  | succ n ih =>
    obtain ⟨below, hb⟩ := ih h
    cases working with
    | nil =>
      refine ⟨[], fun fuel hf => ?_⟩
      obtain ⟨k, rfl⟩ : ∃ k, fuel = k + 1 := ⟨fuel - 1, by omega⟩
      rfl
    | cons a rest =>
      refine ⟨a :: rest ++ below, fun fuel hf => ?_⟩
      obtain ⟨k, rfl⟩ : ∃ k, fuel = k + 1 := ⟨fuel - 1, by omega⟩
      have hk := hb k (by omega)
      show (descend children k _).map _ = _
      rw [hk]
      rfl

theorem climb_of_level (hup : ∀ a, ∀ b ∈ children a, up b = some a)
    (hn : ∀ a, children a ⊆ nodes) {n : Nat} (hw : working ⊆ nodes)
    (h : b ∈ level children n working) :
    (∃ a ∈ working, climb up n b = some a) ∧ ∀ i ≤ n, ∃ d ∈ nodes, climb up i b = some d := by
  induction n generalizing working with
  | zero =>
    refine ⟨⟨b, h, rfl⟩, fun i hi => ?_⟩
    obtain rfl : i = 0 := by omega
    exact ⟨b, hw h, rfl⟩
  | succ n ih =>
    have hne : working.flatMap children ⊆ nodes := by
      intro d hd
      obtain ⟨a, -, hda⟩ := List.mem_flatMap.mp hd
      exact hn a hda
    obtain ⟨⟨d, hd, hc⟩, hp⟩ := ih hne h
    obtain ⟨a, ha, hda⟩ := List.mem_flatMap.mp hd
    have ht : climb up (n + 1) b = some a := by
      rw [climb_add, hc]
      show (up d).bind (climb up 0) = _
      rw [hup a d hda]
      rfl
    refine ⟨⟨a, ha, ht⟩, fun i hi => ?_⟩
    by_cases hin : i ≤ n
    · exact hp i hin
    · obtain rfl : i = n + 1 := by omega
      exact ⟨a, hw ha, ht⟩

theorem Acyclic.descend_eq_some (h : Acyclic up) (hup : ∀ a, ∀ b ∈ children a, up b = some a)
    (hn : ∀ a, children a ⊆ nodes) (hw : working ⊆ nodes) :
    ∃ below, ∀ fuel, nodes.length < fuel → descend children fuel working = some below := by
  refine descend_of_level (List.eq_nil_iff_forall_not_mem.mpr fun b hb => ?_)
  obtain ⟨-, hp⟩ := climb_of_level hup hn hw hb
  exact absurd (h.climb_lt hp) (Nat.lt_irrefl _)

theorem descend_eq_none {P : List α → Prop} (hP : ∀ working, P working → working ≠ [])
    (hn : ∀ working, P working → P (working.flatMap children)) (h : P working) (fuel : Nat) :
    descend children fuel working = none := by
  induction fuel generalizing working with
  | zero => rfl
  | succ fuel ih =>
    cases working with
    | nil => exact absurd rfl (hP [] h)
    | cons a rest =>
      show (descend children fuel _).map _ = none
      rw [ih (hn _ h)]
      rfl

end Descent

variable [DecidableEq α]

def walk (up : α → Option α) : Nat → List α → Option α → Option Bool
  | 0, _, _ => none
  | _ + 1, _, none => some false
  | n + 1, visited, some cur =>
    if cur ∈ visited then some true else walk up n (visited ++ [cur]) (up cur)

variable {visited nodes : List α} {cur : Option α} {n : Nat} {found : Bool}

theorem walk_mono (h : walk up n visited cur = some found) {m : Nat} (hm : n ≤ m) :
    walk up m visited cur = some found := by
  induction n generalizing visited cur m with
  | zero => cases h
  | succ n ih =>
    obtain ⟨k, rfl⟩ : ∃ k, m = k + 1 := ⟨m - 1, by omega⟩
    cases cur with
    | none => exact h
    | some cur =>
      unfold walk at h ⊢
      by_cases hs : cur ∈ visited
      · rw [if_pos hs] at h ⊢
        exact h
      · rw [if_neg hs] at h ⊢
        exact ih h (by omega)

theorem walk_ne_none (hn : ∀ a b, up a = some b → b ∈ nodes) (hnd : visited.Nodup)
    (hsu : visited ⊆ nodes) (hc : ∀ a, cur = some a → a ∈ nodes)
    (hf : nodes.length + 1 < n + visited.length) : ∃ found, walk up n visited cur = some found := by
  induction n generalizing visited cur with
  | zero =>
    have hl := (List.subperm_of_subset hnd hsu).length_le
    omega
  | succ n ih =>
    cases cur with
    | none => exact ⟨false, rfl⟩
    | some cur =>
      unfold walk
      by_cases hs : cur ∈ visited
      · exact ⟨true, if_pos hs⟩
      · rw [if_neg hs]
        have hnd' : (visited ++ [cur]).Nodup := by
          refine List.Nodup.append hnd (List.nodup_singleton cur) ?_
          exact List.disjoint_singleton.mpr hs
        have hsu' : visited ++ [cur] ⊆ nodes := by
          intro a ha
          rcases List.mem_append.mp ha with ha | ha
          · exact hsu ha
          · exact List.mem_singleton.mp ha ▸ hc cur rfl
        refine ih hnd' hsu' (fun a => hn cur a) ?_
        rw [List.length_append, List.length_singleton]
        omega

theorem walk_terminates (hn : ∀ a b, up a = some b → b ∈ nodes) (c p : α) :
    ∃ found, ∀ fuel, nodes.length + 3 ≤ fuel → walk up fuel [c] (some p) = some found := by
  have ha : ∀ a b, up a = some b → b ∈ c :: p :: nodes := fun a b hab =>
    List.mem_cons_of_mem c (List.mem_cons_of_mem p (hn a b hab))
  have he : ∃ found, walk up (nodes.length + 3) [c] (some p) = some found := by
    refine walk_ne_none ha (List.nodup_singleton c) (by simp) (by simp) ?_
    simp only [List.length_cons, List.length_nil]
    omega
  obtain ⟨found, hf⟩ := he
  exact ⟨found, fun fuel hfu => walk_mono hf hfu⟩

theorem Acyclic.walk_reaches (h : Acyclic up) (hc : c ∈ visited)
    (hvi : ∀ v ∈ visited, v = c ∨ Above up v a)
    (hw : walk up n visited (some a) = some found) : found = true ↔ Reaches up a c := by
  induction n generalizing visited a with
  | zero => cases hw
  | succ n ih =>
    unfold walk at hw
    by_cases hs : a ∈ visited
    · rw [if_pos hs] at hw
      cases hw
      rcases hvi a hs with rfl | ha
      · exact iff_of_true rfl .refl
      · exact absurd ha (h a)
    · rw [if_neg hs] at hw
      have hne : a ≠ c := by
        rintro rfl
        exact hs hc
      cases hup : up a with
      | none =>
        rw [hup] at hw
        have hf : found = false := by
          cases n with
          | zero => cases hw
          | succ n => exact (Option.some.inj hw).symm
        rw [hf, reaches_iff]
        simp [hne, hup]
      | some b =>
        rw [hup] at hw
        have hvi' : ∀ v ∈ visited ++ [a], v = c ∨ Above up v b := by
          intro v hv
          rcases List.mem_append.mp hv with hv | hv
          · exact (hvi v hv).imp_right fun ha => ha.tail hup
          · obtain rfl := List.mem_singleton.mp hv
            exact .inr (.single hup)
        rw [ih (List.mem_append_left _ hc) hvi' hw, reaches_iff (a := a)]
        simp [hne, hup]

theorem Acyclic.walk_iff (h : Acyclic up) (hw : walk up n [c] (some p) = some found) :
    found = true ↔ Reaches up p c :=
  h.walk_reaches (List.mem_singleton_self c) (fun _ hv => .inl (List.mem_singleton.mp hv)) hw

end Leadkart.ParentPointer
