import Mathlib.Data.List.Pairwise
import Mathlib.Data.Set.Pairwise.List

/-!
# Tables with unique indexes
-/

namespace Leadkart

structure Table (ρ : Type*) (Clash : ρ → ρ → Prop) where
  rows : List ρ := []
  unique : rows.Pairwise fun a b => ¬ Clash a b := by simp
  deriving DecidableEq

end Leadkart

-- Out of the namespace, which has a `Membership` of its own.
instance {ρ : Type*} {Clash : ρ → ρ → Prop} :
    Membership ρ (Leadkart.Table ρ Clash) := ⟨fun t r => r ∈ t.rows⟩

namespace Leadkart

namespace Table

variable {ρ : Type*} {Clash : ρ → ρ → Prop} {t t' : Table ρ Clash} {r q : ρ}

def empty : Table ρ Clash where

def one (r : ρ) : Table ρ Clash where
  rows := [r]

theorem mem_rows : r ∈ t.rows ↔ r ∈ t := Iff.rfl

theorem eq_of_rows (h : t.rows = t'.rows) : t = t' := by
  cases t
  cases t'
  cases h
  rfl

theorem eq_of_clash [Std.Symm Clash] (hr : r ∈ t) (hq : q ∈ t) (h : Clash r q) : r = q := by
  have hs : Std.Symm fun a b => ¬ Clash a b := ⟨fun a b hab hba => hab (symm hba)⟩
  by_contra hne
  exact t.unique.forall hr hq hne h

theorem nodup [Std.Refl Clash] (t : Table ρ Clash) : t.rows.Nodup := by
  refine t.unique.imp ?_
  rintro a _ h rfl
  exact h (refl a)

variable {p : ρ → Bool}

theorem filter_perm [Std.Refl Clash] (h : ∀ r, p r = true → (r ∈ t ↔ r ∈ t')) :
    (t.rows.filter p).Perm (t'.rows.filter p) := by
  refine (List.perm_ext_iff_of_nodup (t.nodup.filter p) (t'.nodup.filter p)).mpr fun r => ?_
  rw [List.mem_filter, List.mem_filter]
  exact and_congr_left fun hr => h r hr

def find? (t : Table ρ Clash) (p : ρ → Bool) : Option ρ := t.rows.find? p

theorem mem_of_find? (h : t.find? p = some r) : r ∈ t ∧ p r = true :=
  ⟨List.mem_of_find?_eq_some h, List.find?_some h⟩

theorem find?_eq_of_mem [Std.Symm Clash] (hp : ∀ a b, p a = true → p b = true → Clash a b)
    (hr : r ∈ t) (hpr : p r = true) : t.find? p = some r := by
  rcases h : t.find? p with _ | q
  · exact absurd hpr (by simpa using List.find?_eq_none.mp h r hr)
  · obtain ⟨hq, hpq⟩ := mem_of_find? h
    rw [eq_of_clash hq hr (hp q r hpq hpr)]

theorem find?_congr [Std.Symm Clash] (hp : ∀ a b, p a = true → p b = true → Clash a b)
    (h : ∀ r, t.find? p = some r → r ∈ t') (h' : ∀ r, t'.find? p = some r → r ∈ t) :
    t.find? p = t'.find? p := by
  rcases hr : t.find? p with _ | r
  · rcases hr' : t'.find? p with _ | r'
    · rfl
    · have hf := find?_eq_of_mem hp (h' r' hr') (mem_of_find? hr').2
      cases hr.symm.trans hf
  · exact (find?_eq_of_mem hp (h r hr) (mem_of_find? hr).2).symm

theorem filter_eq_of_mem [Std.Symm Clash] (hp : ∀ a b, p a = true → p b = true → Clash a b)
    (hr : r ∈ t) (hpr : p r = true) : t.rows.filter p = [r] := by
  have hm : r ∈ t.rows.filter p := List.mem_filter.mpr ⟨hr, hpr⟩
  have hu : (t.rows.filter p).Pairwise fun a b => ¬ Clash a b := t.unique.filter p
  rcases hf : t.rows.filter p with _ | ⟨a, _ | ⟨b, rest⟩⟩
  · exact absurd (hf ▸ hm) List.not_mem_nil
  · rw [hf] at hm
    rw [List.mem_singleton.mp hm]
  · rw [hf] at hu
    have ha : p a = true := (List.mem_filter.mp (hf ▸ List.mem_cons_self ..)).2
    have hb : p b = true :=
      (List.mem_filter.mp (hf ▸ List.mem_cons_of_mem a (List.mem_cons_self ..))).2
    exact absurd (hp a b ha hb) ((List.pairwise_cons.mp hu).1 b (List.mem_cons_self ..))

theorem filter_eq_of_iff [Std.Symm Clash] (hp : ∀ a b, p a = true → p b = true → Clash a b)
    (h : ∀ r, p r = true → (r ∈ t ↔ r ∈ t')) : t.rows.filter p = t'.rows.filter p := by
  by_cases hs : ∃ r ∈ t, p r = true
  · obtain ⟨r, hr, hpr⟩ := hs
    rw [filter_eq_of_mem hp hr hpr, filter_eq_of_mem hp ((h r hpr).mp hr) hpr]
  · have hnone : ∀ r ∈ t, ¬ p r = true := fun r hr hpr => hs ⟨r, hr, hpr⟩
    rw [List.filter_eq_nil_iff.mpr hnone,
      List.filter_eq_nil_iff.mpr fun r hr hpr => hnone r ((h r hpr).mpr hr) hpr]

def delete (t : Table ρ Clash) (p : ρ → Bool) : Table ρ Clash :=
  ⟨t.rows.filter fun r => !p r, t.unique.filter _⟩

theorem mem_delete : r ∈ t.delete p ↔ r ∈ t ∧ p r = false := by
  show r ∈ t.rows.filter _ ↔ _
  rw [List.mem_filter, mem_rows]
  simp

theorem find?_delete (t : Table ρ Clash) (p : ρ → Bool) : (t.delete p).find? p = none := by
  refine List.find?_eq_none.mpr fun r hr => ?_
  simp [(mem_delete.mp hr).2]

variable [DecidableRel Clash]

def insert (t : Table ρ Clash) (r : ρ) : Option (Table ρ Clash) :=
  if h : ∀ q ∈ t.rows, ¬ Clash q r then
    some ⟨t.rows ++ [r], List.pairwise_append.mpr
      ⟨t.unique, List.pairwise_singleton _ r, fun q hq _ hx => List.mem_singleton.mp hx ▸ h q hq⟩⟩
  else none

def update (t : Table ρ Clash) (p : ρ → Bool) (f : ρ → ρ) : Option (Table ρ Clash) :=
  let rows := t.rows.map fun r => if p r then f r else r
  if h : rows.Pairwise fun a b => ¬ Clash a b then some ⟨rows, h⟩ else none

def getOrInsert (t : Table ρ Clash) (key : ρ → Bool) (r : ρ) : Option (ρ × Table ρ Clash) :=
  match t.find? key with
  | some q => some (q, t)
  | none => (t.insert r).map fun t' => (r, t')

theorem insert_eq_some (h : t.insert r = some t') :
    t'.rows = t.rows ++ [r] ∧ ∀ q ∈ t, ¬ Clash q r := by
  unfold insert at h
  split at h
  · rename_i hc
    cases h
    exact ⟨rfl, hc⟩
  · cases h

theorem insert_eq_none : t.insert r = none ↔ ∃ q ∈ t, Clash q r := by
  unfold insert
  rw [dite_eq_right_iff]
  simp only [reduceCtorEq, imp_false]
  push Not
  rfl

theorem mem_insert (h : t.insert r = some t') : q ∈ t' ↔ q ∈ t ∨ q = r := by
  rw [← mem_rows, (insert_eq_some h).1, List.mem_append, List.mem_singleton]
  exact Iff.rfl

variable {key : ρ → Bool}

theorem getOrInsert_eq_some (h : t.getOrInsert key r = some (q, t')) :
    (q ∈ t ∧ key q = true ∧ t' = t) ∨
    (q = r ∧ (∀ a ∈ t, key a = false) ∧ t.insert r = some t') := by
  unfold getOrInsert at h
  split at h
  · rename_i q' hf
    cases h
    obtain ⟨hm, hk⟩ := mem_of_find? hf
    exact .inl ⟨hm, hk, rfl⟩
  · rename_i hnone
    obtain ⟨t₁, hi, heq⟩ := Option.map_eq_some_iff.mp h
    cases heq
    exact .inr ⟨rfl, fun a ha => by simpa using List.find?_eq_none.mp hnone a ha, hi⟩

theorem mem_getOrInsert (h : t.getOrInsert key r = some (q, t')) (hr : key r = true) :
    q ∈ t' ∧ key q = true := by
  rcases getOrInsert_eq_some h with ⟨hq, hk, rfl⟩ | ⟨rfl, -, hi⟩
  · exact ⟨hq, hk⟩
  · exact ⟨(mem_insert hi).mpr (.inr rfl), hr⟩

theorem getOrInsert_of_mem [Std.Symm Clash] (hk : ∀ a b, key a = true → key b = true → Clash a b)
    (hq : q ∈ t) (hq' : key q = true) : t.getOrInsert key r = some (q, t) := by
  unfold getOrInsert
  rw [find?_eq_of_mem hk hq hq']

variable {p : ρ → Bool} {f : ρ → ρ}

theorem update_eq_some (h : t.update p f = some t') :
    t'.rows = t.rows.map fun r => if p r then f r else r := by
  unfold update at h
  dsimp only at h
  split at h
  · cases h
    rfl
  · cases h

theorem mem_update (h : t.update p f = some t') : q ∈ t' ↔ ∃ r ∈ t, q = if p r then f r else r := by
  rw [← mem_rows, update_eq_some h, List.mem_map]
  exact ⟨fun ⟨r, hr, h⟩ => ⟨r, hr, h.symm⟩, fun ⟨r, hr, h⟩ => ⟨r, hr, h.symm⟩⟩

theorem update_congr {q : ρ → Bool} (h : ∀ r ∈ t, p r = q r) : t.update p f = t.update q f := by
  have hro : (t.rows.map fun r => if p r then f r else r) =
      t.rows.map fun r => if q r then f r else r := List.map_congr_left fun r hr => by rw [h r hr]
  unfold update
  simp only [hro]

theorem update_eq_none [Std.Symm Clash] [Std.Refl Clash] : t.update p f = none ↔
    ∃ a ∈ t, ∃ b ∈ t, a ≠ b ∧ Clash (if p a then f a else a) (if p b then f b else b) := by
  have hs : Std.Symm fun a b =>
      ¬ Clash (if p a then f a else a) (if p b then f b else b) := ⟨fun _ _ h h' => h (symm h')⟩
  unfold update
  rw [dite_eq_right_iff]
  simp only [reduceCtorEq, imp_false]
  rw [List.pairwise_map, ← t.nodup.pairwise_coe]
  unfold Set.Pairwise
  push Not
  rfl

theorem find?_update (h : t.update p f = some t') (hp : ∀ r, p r = true → p (f r) = true) :
    t'.find? p = (t.find? p).map f := by
  have hs : (p ∘ fun r => if p r then f r else r) = p := by
    funext r
    by_cases hr : p r = true
    · simp [hr, hp r hr]
    · simp [hr]
  unfold find?
  rw [update_eq_some h, List.find?_map, hs]
  rcases hf : t.rows.find? p with _ | r
  · rfl
  · simp [List.find?_some hf]

variable {P : ρ → Bool}

theorem filter_update (h : t.update p f = some t')
    (ho : ∀ r ∈ t, p r = true → P r = false ∧ P (f r) = false) :
    t'.rows.filter P = t.rows.filter P := by
  rw [update_eq_some h]
  have hro : ∀ r ∈ t.rows, p r = true → P r = false ∧ P (f r) = false := ho
  generalize t.rows = rows at hro ⊢
  induction rows with
  | nil => rfl
  | cons r rs ih =>
    have hre := ih fun q hq => hro q (List.mem_cons_of_mem r hq)
    by_cases hp : p r = true
    · obtain ⟨hr, hfr⟩ := hro r (List.mem_cons_self ..) hp
      rw [List.map_cons, if_pos hp, List.filter_cons_of_neg (by simp [hfr]),
        List.filter_cons_of_neg (by simp [hr]), hre]
    · rw [List.map_cons, if_neg hp, List.filter_cons, List.filter_cons, hre]

theorem filter_insert (h : t.insert r = some t') (hc : ∀ q ∈ t, P q = true → Clash q r) :
    t.rows.filter P = [] ∧ (t'.rows.filter P).length ≤ 1 := by
  obtain ⟨hr, hnone⟩ := insert_eq_some h
  have he : t.rows.filter P = [] :=
    List.filter_eq_nil_iff.mpr fun q hq hP => hnone q hq (hc q hq hP)
  refine ⟨he, ?_⟩
  rw [hr, List.filter_append, he, List.nil_append]
  exact List.length_filter_le P [r]

theorem length_filter_update (h : t.update p f = some t') (hP : ∀ r, P (f r) = P r) :
    (t'.rows.filter P).length = (t.rows.filter P).length := by
  have hv : (P ∘ fun r => if p r then f r else r) = P := by
    funext r
    rw [Function.comp_apply]
    split
    · exact hP r
    · rfl
  rw [update_eq_some h, List.filter_map, List.length_map, hv]

theorem update_self (hf : ∀ r ∈ t, p r = true → f r = r) : t.update p f = some t := by
  have hro : (t.rows.map fun r => if p r then f r else r) = t.rows := by
    refine (List.map_congr_left fun r hr => ?_).trans (List.map_id t.rows)
    split
    · rename_i hp
      exact hf r hr hp
    · rfl
  have hu : (t.rows.map fun r => if p r then f r else r).Pairwise fun a b => ¬ Clash a b :=
    hro.symm ▸ t.unique
  exact (dif_pos hu).trans (congrArg some (eq_of_rows hro))

theorem update_of_clash
    (hf : ∀ a ∈ t, ∀ b ∈ t, Clash (if p a then f a else a) (if p b then f b else b) → Clash a b) :
    ∃ t', t.update p f = some t' := by
  have h : (t.rows.map fun r => if p r then f r else r).Pairwise fun a b => ¬ Clash a b :=
    List.pairwise_map.mpr (t.unique.imp_of_mem fun ha hb hab h => hab (hf _ ha _ hb h))
  exact ⟨_, dif_pos h⟩

end Table

end Leadkart
