import Mathlib.Data.List.Sort

/-!
# Keyset pages
-/

namespace Leadkart.Keyset

variable {ρ κ : Type*} [LinearOrder κ] (key : ρ → κ)

def Descending (rows : List ρ) : Prop := rows.Pairwise fun a b => key b < key a

def below (cursor : Option ρ) (r : ρ) : Bool := cursor.all fun c => decide (key r < key c)

def after (cursor : Option ρ) (rows : List ρ) : List ρ := rows.filter (below key cursor)

def pageAfter (n : Nat) (cursor : Option ρ) (rows : List ρ) : List ρ × Option ρ :=
  let left := after key cursor rows
  (left.take n, if n < left.length then left[n - 1]? else none)

def walk {γ α ε : Type*} (fetch : Nat → γ → Except ε (List α × Option γ)) :
    Nat → Nat → γ → Option (Except ε (List α))
  | 0, _, _ => none
  | fuel + 1, i, c =>
    match fetch i c with
    | .error e => some (.error e)
    | .ok (items, none) => some (.ok items)
    | .ok (items, some c') =>
      (walk fetch fuel (i + 1) c').map fun rest => rest.map fun more => items ++ more

variable {key} {rows : List ρ}

@[simp] theorem after_none : after key none rows = rows := List.filter_eq_self.mpr fun _ _ => rfl

theorem mem_after {cursor : Option ρ} {r : ρ} :
    r ∈ after key cursor rows ↔ r ∈ rows ∧ below key cursor r = true := List.mem_filter

theorem Descending.after (h : Descending key rows) (cursor : Option ρ) :
    Descending key (after key cursor rows) := h.filter _

variable {c : ρ}

theorem Descending.filter_split {l₁ l₂ : List ρ} (h : Descending key (l₁ ++ c :: l₂)) :
    (l₁ ++ c :: l₂).filter (below key (some c)) = l₂ := by
  obtain ⟨-, hr, hcr⟩ := List.pairwise_append.mp h
  obtain ⟨hc, -⟩ := List.pairwise_cons.mp hr
  have hl : l₁.filter (below key (some c)) = [] := by
    refine List.filter_eq_nil_iff.mpr fun a ha hlt => ?_
    have hgt := hcr a ha c (List.mem_cons_self ..)
    exact lt_asymm hgt (of_decide_eq_true hlt)
  have hs : below key (some c) c = false := decide_eq_false (lt_irrefl _)
  have hk : l₂.filter (below key (some c)) = l₂ :=
    List.filter_eq_self.mpr fun b hb => decide_eq_true (hc b hb)
  rw [List.filter_append, hl, List.nil_append, List.filter_cons_of_neg (by simp [hs]), hk]

theorem after_after {cursor : Option ρ} (hc : below key cursor c = true) :
    after key (some c) rows = after key (some c) (after key cursor rows) := by
  unfold after
  rw [List.filter_filter]
  refine List.filter_congr fun r _ => ?_
  rw [Bool.eq_iff_iff, Bool.and_eq_true]
  refine ⟨fun hr => ⟨hr, ?_⟩, fun hr => hr.1⟩
  cases cursor with
  | none => rfl
  | some d => exact decide_eq_true (lt_trans (of_decide_eq_true hr) (of_decide_eq_true hc))

theorem Descending.after_last (h : Descending key rows) {cursor : Option ρ} {n : Nat} (hn : 0 < n)
    (hc : (Keyset.after key cursor rows)[n - 1]? = some c) :
    Keyset.after key (some c) rows = (Keyset.after key cursor rows).drop n := by
  obtain ⟨hlt, hg⟩ := List.getElem?_eq_some_iff.mp hc
  have hm : c ∈ Keyset.after key cursor rows := List.mem_of_getElem? hc
  have hs : Keyset.after key cursor rows = (Keyset.after key cursor rows).take (n - 1) ++
        c :: (Keyset.after key cursor rows).drop n := by
    have hco := List.drop_eq_getElem_cons hlt
    rw [hg, Nat.sub_add_cancel hn] at hco
    rw [← hco, List.take_append_drop]
  have hd := h.after cursor
  rw [hs] at hd
  rw [after_after (mem_after.mp hm).2]
  nth_rewrite 1 [hs]
  exact hd.filter_split

section Walk

variable {γ α ε : Type*} {fetch : Nat → γ → Except ε (List α × Option γ)} {cursor : Option ρ → γ}
  {view : ρ → α} {n : Nat}

theorem walk_eq (h : Descending key rows) (hn : 0 < n)
    (hf : ∀ i c, (∀ r, c = some r → r ∈ rows) → fetch i (cursor c) =
    .ok ((pageAfter key n c rows).1.map view,
    (pageAfter key n c rows).2.map fun r => cursor (some r)))
    (fuel i : Nat) (c : Option ρ) (hc : ∀ r, c = some r → r ∈ rows)
    (hfu : (after key c rows).length < fuel) :
    walk fetch fuel i (cursor c) = some (.ok ((after key c rows).map view)) := by
  induction fuel generalizing i c with
  | zero => exact absurd hfu (Nat.not_lt_zero _)
  | succ fuel ih =>
    unfold walk
    rw [hf i c hc]
    by_cases hm : n < (after key c rows).length
    · have hl : n - 1 < (after key c rows).length := Nat.lt_of_le_of_lt (Nat.sub_le n 1) hm
      have hg : (after key c rows)[n - 1]? = some (after key c rows)[n - 1] :=
        List.getElem?_eq_getElem hl
      have hre := h.after_last hn hg
      have hme : (after key c rows)[n - 1] ∈ rows := (mem_after.mp (List.getElem_mem hl)).1
      have hln : ((after key c rows).drop n).length < fuel := by
        rw [List.length_drop]
        omega
      have hw := ih (i + 1) (some (after key c rows)[n - 1])
        (fun r hr => Option.some.inj hr ▸ hme) (by rw [hre]; exact hln)
      simp only [pageAfter, if_pos hm, hg, Option.map_some, hw, hre]
      rw [← List.take_append_drop n (after key c rows)]
      simp [Except.map]
    · have ha : (after key c rows).take n = after key c rows :=
        List.take_of_length_le (Nat.le_of_not_lt hm)
      simp only [pageAfter, if_neg hm, Option.map_none, ha]

end Walk

variable {le : ρ → ρ → Bool} (hle : ∀ a b, le a b = true ↔ key b ≤ key a)

include hle

theorem descending_mergeSort (hn : (rows.map key).Nodup) : Descending key (rows.mergeSort le) := by
  have ht : ∀ a b c, le a b = true → le b c = true → le a c = true := by
    intro a b c hab hbc
    rw [hle] at hab hbc ⊢
    exact le_trans hbc hab
  have hto : ∀ a b, (le a b || le b a) = true := by
    intro a b
    rw [Bool.or_eq_true, hle, hle]
    exact le_total _ _
  have hs := List.pairwise_mergeSort ht hto rows
  have hk : ((rows.mergeSort le).map key).Nodup :=
    ((List.mergeSort_perm rows le).map key).nodup_iff.mpr hn
  refine (hs.and (List.pairwise_map.mp hk)).imp fun hab => ?_
  exact lt_of_le_of_ne ((hle _ _).mp hab.1) fun heq => hab.2 heq.symm

theorem mergeSort_eq_of_perm (hn : (rows.map key).Nodup) {r : List ρ}
    (h : rows.Perm r) : rows.mergeSort le = r.mergeSort le := by
  have hn' : (r.map key).Nodup := (h.map key).nodup_iff.mp hn
  refine List.Perm.eq_of_pairwise (fun a b _ _ hab hba => (lt_asymm hab hba).elim)
    (descending_mergeSort hle hn) (descending_mergeSort hle hn') ?_
  exact (List.mergeSort_perm rows le).trans (h.trans (List.mergeSort_perm r le).symm)

theorem mergeSort_below (hn : (rows.map key).Nodup) (cursor : Option ρ) :
    (rows.filter (below key cursor)).mergeSort le = after key cursor (rows.mergeSort le) := by
  have hs : ((rows.filter (below key cursor)).map key).Nodup :=
    hn.sublist (List.filter_sublist.map key)
  refine List.Perm.eq_of_pairwise (fun a b _ _ hab hba => (lt_asymm hab hba).elim)
    (descending_mergeSort hle hs) ((descending_mergeSort hle hn).after cursor) ?_
  exact (List.mergeSort_perm _ le).trans ((List.mergeSort_perm rows le).filter _).symm

theorem mergeSort_concat (hn : (rows.map key).Nodup) {r : ρ} (hl : ∀ a ∈ rows, key r < key a) :
    (rows ++ [r]).mergeSort le = rows.mergeSort le ++ [r] := by
  have hd : Descending key (rows.mergeSort le ++ [r]) := by
    refine List.pairwise_append.mpr
      ⟨descending_mergeSort hle hn, List.pairwise_singleton .., fun a ha b hb => ?_⟩
    obtain rfl := List.mem_singleton.mp hb
    exact hl a (List.mem_mergeSort.mp ha)
  have hal : ((rows ++ [r]).map key).Nodup := by
    rw [List.map_append, List.nodup_append]
    refine ⟨hn, List.nodup_singleton _, fun k hk k' hk' => ?_⟩
    obtain ⟨a, ha, rfl⟩ := List.mem_map.mp hk
    obtain rfl := List.mem_singleton.mp hk'
    exact (hl a ha).ne'
  refine List.Perm.eq_of_pairwise (fun a b _ _ hab hba => (lt_asymm hab hba).elim)
    (descending_mergeSort hle hal) hd ?_
  exact (List.mergeSort_perm _ le).trans ((List.mergeSort_perm rows le).symm.append_right [r])

end Leadkart.Keyset
