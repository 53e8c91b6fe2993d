import Leadkart.Logic.Effect
import Leadkart.Logic.Table
import Mathlib.Data.List.Find

/-!
# Row-level security
-/

namespace Leadkart

inductive SqlState where
  | invalidTextRepresentation
  | insufficientPrivilege
  | notNullViolation
  | foreignKeyViolation
  | checkViolation
  | uniqueViolation
  deriving DecidableEq

def SqlState.code : SqlState → String
  | invalidTextRepresentation => "22P02"
  | insufficientPrivilege => "42501"
  | notNullViolation => "23502"
  | foreignKeyViolation => "23503"
  | checkViolation => "23514"
  | uniqueViolation => "23505"

structure SqlError where
  state : SqlState
  constraintName : String := ""
  deriving DecidableEq

namespace Sql

abbrev Expr (α : Type) := Except SqlError (Option α)

section

variable {α : Type}

def nullif [DecidableEq α] (e : Expr α) (a : α) : Expr α :=
  e.map fun v => if v = some a then none else v

def coalesce (e : Expr α) (a : α) : Expr α := e.map fun v => some (v.getD a)

def cast (input : String → Option α) : Expr String → Expr α
  | .ok (some s) =>
    match input s with
    | some a => .ok (some a)
    | none => .error ⟨.invalidTextRepresentation, ""⟩
  | .ok none => .ok none
  | .error e => .error e

def eq [DecidableEq α] (a : α) (e : Expr α) : Expr Bool :=
  e.map fun v => v.map fun b => decide (a = b)

end

def isTrue (e : Expr Bool) : Expr Bool := e.map fun v => some (v == some true)

def or : Expr Bool → Expr Bool → Expr Bool
  | .ok (some true), _ => .ok (some true)
  | .ok x, b => b.map fun y => if y = some true then some true else if x = some false then y else none
  | .error e, _ => .error e

def also : Expr Bool → Expr Bool → Expr Bool
  | .ok (some true), b => b
  | .ok _, _ => .ok (some false)
  | .error e, _ => .error e

def boolIn (s : String) : Option Bool :=
  if s ∈ ["t", "tr", "tru", "true", "y", "ye", "yes", "on", "1"] then some true
  else if s ∈ ["f", "fa", "fal", "fals", "false", "n", "no", "of", "off", "0"] then some false
  else none

def check {ρ : Type} (name : String) (p : ρ → Bool) (r : ρ) : Except SqlError Unit :=
  if p r then .ok () else .error ⟨.checkViolation, name⟩

theorem check_eq_ok {ρ : Type} {name : String} {p : ρ → Bool} {r : ρ} :
    check name p r = .ok () ↔ p r = true := by
  unfold check
  split <;> simp_all

def foreignKey (name : String) (refers : Bool) : Except SqlError Unit :=
  if refers then .ok () else .error ⟨.foreignKeyViolation, name⟩

end Sql

abbrev Settings := String → Option String

namespace Settings

def unset : Settings := fun _ => none

def setLocal (s : Settings) (name value : String) : Settings :=
  fun n => if n = name then some value else s n

def currentSetting (s : Settings) (name : String) : Sql.Expr String := .ok (s name)

def setAll (s : Settings) (made : List (String × String)) : Settings :=
  made.foldl (fun s p => s.setLocal p.1 p.2) s

def endTx (before after : Settings) : Settings := fun n =>
  match before n with
  | some v => some v
  | none => (after n).map fun _ => ""

def residue (history : List (List (String × String))) : Settings :=
  history.foldl (fun s made => s.endTx (s.setAll made)) unset

variable {n : String}

theorem setAll_eq_none {s : Settings} {made : List (String × String)} :
    s.setAll made n = none ↔ s n = none ∧ ∀ p ∈ made, p.1 ≠ n := by
  induction made generalizing s with
  | nil => simp [setAll]
  | cons p made ih =>
    have hs : s.setAll (p :: made) = (s.setLocal p.1 p.2).setAll made := rfl
    rw [hs, ih]
    by_cases hn : n = p.1
    · simp [setLocal, hn]
    · simp [setLocal, hn, eq_comm (a := p.1)]

theorem foldl_residue (history : List (List (String × String))) {s : Settings}
    (hs : s n = none ∨ s n = some "") :
    let s' := history.foldl (fun s made => s.endTx (s.setAll made)) s
    (s' n = none ∨ s' n = some "") ∧
      (s' n = none ↔ s n = none ∧ ∀ made ∈ history, ∀ p ∈ made, p.1 ≠ n) := by
  induction history generalizing s with
  | nil => simpa using hs
  | cons made history ih =>
    have hnone : s.endTx (s.setAll made) n = none ↔ s n = none ∧ ∀ p ∈ made, p.1 ≠ n := by
      unfold endTx
      rcases hs with hs | hs
      · rw [hs]
        simp only [Option.map_eq_none_iff, setAll_eq_none, hs]
      · rw [hs]
        simp
    have hc : s.endTx (s.setAll made) n = none ∨ s.endTx (s.setAll made) n = some "" := by
      unfold endTx
      rcases hs with hs | hs
      · rw [hs]
        rcases s.setAll made n with _ | v
        · exact .inl rfl
        · exact .inr rfl
      · rw [hs]
        exact .inr rfl
    obtain ⟨hor, hi⟩ := ih hc
    refine ⟨hor, hi.trans ?_⟩
    rw [hnone, List.forall_mem_cons, and_assoc]

theorem residue_cases (history : List (List (String × String))) (n : String) :
    residue history n = none ∨ residue history n = some "" := (foldl_residue history (.inl rfl)).1

theorem residue_eq_none {history : List (List (String × String))} :
    residue history n = none ↔ ∀ made ∈ history, ∀ p ∈ made, p.1 ≠ n := by
  have h := (foldl_residue history (n := n) (s := unset) (.inl rfl)).2
  exact h.trans ⟨fun h => h.2, fun h => ⟨rfl, h⟩⟩

end Settings

/-! ## Relations -/

structure Policies (ρ : Type) where
  (select insertCheck updateUsing updateCheck : Settings → ρ → Sql.Expr Bool)

structure UniqueIndex (ρ : Type) where
  name : String
  Key : Type
  [decEq : DecidableEq Key]
  key : ρ → Option Key

def UniqueIndex.Clash {ρ : Type} (ix : UniqueIndex ρ) (a b : ρ) : Prop :=
  ix.key a ≠ none ∧ ix.key a = ix.key b

instance {ρ : Type} (ix : UniqueIndex ρ) (a b : ρ) : Decidable (ix.Clash a b) :=
  have := ix.decEq
  inferInstanceAs (Decidable (_ ∧ _))

structure SqlRelation (ρ : Type) where
  policies : Policies ρ
  /-- NOT NULL and CHECK constraints, in the order they are tested. -/
  constraints : List (ρ → Except SqlError Unit)
  indexes : List (UniqueIndex ρ)

abbrev Planner (ρ : Type) := List ρ → (ρ → Bool) → ρ → Bool

def scan {ρ : Type} (policy : ρ → Sql.Expr Bool) (fed cond : ρ → Bool) :
    List ρ → Except SqlError (List ρ)
  | [] => pure []
  | r :: rs =>
    if fed r || cond r then do
      let passes ← policy r
      let rest ← scan policy fed cond rs
      return if passes = some true && cond r then r :: rest else rest
    else scan policy fed cond rs

def withCheck (v : Sql.Expr Bool) : Except SqlError Unit := do
  if (← v) = some true then return ()
  else throw ⟨.insufficientPrivilege, ""⟩

namespace SqlRelation

section

variable {ρ : Type} (R : SqlRelation ρ)

def Clash (a b : ρ) : Prop := ∃ ix ∈ R.indexes, ix.Clash a b

instance : DecidableRel R.Clash := fun _ _ => inferInstanceAs (Decidable (∃ _ ∈ _, _))

instance : Std.Symm R.Clash where
  symm _ _ := fun ⟨ix, hix, hkey, heq⟩ => ⟨ix, hix, heq ▸ hkey, heq.symm⟩

abbrev Rows := Table ρ R.Clash

def select (s : Settings) (plan : Planner ρ) (cond : ρ → Bool) (t : R.Rows) :
    Except SqlError (List ρ) := scan (R.policies.select s) (plan t.rows cond) cond t.rows

def violated (isOld : UniqueIndex ρ → Bool) : SqlError :=
  ⟨.uniqueViolation, ((R.indexes.find? isOld).map UniqueIndex.name).getD ""⟩

def meets (r : ρ) : Except SqlError Unit := forM R.constraints fun c => c r

def insert (s : Settings) (r : ρ) (t : R.Rows) : Except SqlError R.Rows := do
  withCheck (R.policies.insertCheck s r)
  R.meets r
  match t.insert r with
  | some t' => .ok t'
  | none => .error (R.violated fun ix => t.rows.any fun q => ix.Clash q r)

variable [DecidableEq ρ]

def rewrite (set : ρ → ρ) (hit : List ρ) (t : R.Rows) : Except SqlError R.Rows :=
  match t.update (fun r => decide (r ∈ hit)) set with
  | some t' => .ok t'
  | none => .error (R.violated fun ix => hit.any fun r => t.rows.any fun q =>
      decide (q ≠ r ∧ ix.Clash (if q ∈ hit then set q else q) (set r)))

def checkNew (s : Settings) (r : ρ) : Except SqlError Unit := do
  withCheck (R.policies.updateCheck s r)
  withCheck (R.policies.select s r)
  R.meets r

def update (s : Settings) (plan : Planner ρ) (cond : ρ → Bool) (set : ρ → ρ) (t : R.Rows) :
    Except SqlError R.Rows := do
  let hit ← scan (fun r => Sql.also (R.policies.select s r) (R.policies.updateUsing s r))
    (plan t.rows cond) cond t.rows
  hit.forM fun r => R.checkNew s (set r)
  R.rewrite set hit t

end

/-! ## Statements that see the rows of one owner -/

variable {ρ κ : Type} {R : SqlRelation ρ} {owner : ρ → κ} {T : κ} {s s₁ s₂ : Settings}
  {t t' t₁ t₂ : R.Rows}

def Local (R : SqlRelation ρ) (owner : ρ → κ) : Prop := ∀ a b, R.Clash a b → owner a = owner b

def Agree (owner : ρ → κ) (T : κ) (t₁ t₂ : R.Rows) : Prop := ∀ r, owner r = T → (r ∈ t₁ ↔ r ∈ t₂)

theorem Agree.symm (h : Agree owner T t₁ t₂) : Agree owner T t₂ t₁ := fun r hr => (h r hr).symm

theorem Agree.exists_iff (h : Agree owner T t₁ t₂) {P : ρ → Prop} (hP : ∀ r, P r → owner r = T) :
    (∃ r ∈ t₁, P r) ↔ ∃ r ∈ t₂, P r :=
  ⟨fun ⟨r, hr, hPr⟩ => ⟨r, (h r (hP r hPr)).mp hr, hPr⟩,
    fun ⟨r, hr, hPr⟩ => ⟨r, (h r (hP r hPr)).mpr hr, hPr⟩⟩

theorem violated_congr {p q : UniqueIndex ρ → Bool} (h : ∀ ix ∈ R.indexes, p ix = q ix) :
    R.violated p = R.violated q := by
  unfold violated
  rw [List.find?_congr h]

theorem forM_eq_ok {γ : Type} {f : γ → Except SqlError Unit} {l : List γ} :
    forM l f = .ok () ↔ ∀ c ∈ l, f c = .ok () := by
  induction l with
  | nil => simp [pure, Except.pure]
  | cons c cs ih =>
    rw [List.forM_cons, List.forall_mem_cons, ← ih]
    rcases f c with e | _
    · simp [bind, Except.bind]
    · simp [bind, Except.bind]

variable {r : ρ}

theorem meets_eq_ok : R.meets r = .ok () ↔ ∀ c ∈ R.constraints, c r = .ok () := forM_eq_ok

theorem withCheck_eq_ok {v : Sql.Expr Bool} (h : withCheck v = .ok ()) : v = .ok (some true) := by
  obtain ⟨passes, hv, h⟩ := Effect.except_bind_ok h
  split at h
  · rename_i hp
    rw [hv, hp]
  · cases h

theorem insert_passed (h : R.insert s r t = .ok t') :
    R.policies.insertCheck s r = .ok (some true) ∧ R.meets r = .ok () ∧ t.insert r = some t' := by
  unfold insert at h
  simp only [Effect.except_bind_eq_ok] at h
  obtain ⟨_, hc, _, hm, h⟩ := h
  refine ⟨withCheck_eq_ok hc, hm, ?_⟩
  rcases hi : t.insert r with _ | t₁
  · rw [hi] at h
    cases h
  · rw [hi] at h
    rw [Except.ok.inj h]

theorem insert_eq_ok (h : R.insert s r t = .ok t') : t.insert r = some t' := (insert_passed h).2.2

theorem insert_again (h : R.insert s r t = .ok t') {u u' : R.Rows} (hr : u.insert r = some u') :
    R.insert s r u = .ok u' := by
  obtain ⟨hc, hm, -⟩ := insert_passed h
  unfold insert
  rw [hc, hm, hr]
  rfl

theorem rewrite_eq_ok [DecidableEq ρ] {set : ρ → ρ} {hit : List ρ}
    (h : R.rewrite set hit t = .ok t') : t.update (fun r => decide (r ∈ hit)) set = some t' := by
  unfold rewrite at h
  rcases hu : t.update (fun r => decide (r ∈ hit)) set with _ | t₁
  · rw [hu] at h
    cases h
  · rw [hu] at h
    rw [Except.ok.inj h]

variable {plan : Planner ρ} {cond : ρ → Bool}

theorem update_eq_ok [DecidableEq ρ] {set : ρ → ρ} (h : R.update s plan cond set t = .ok t') :
    ∃ hit : List ρ, t.update (fun r => decide (r ∈ hit)) set = some t' := by
  obtain ⟨hit, -, h⟩ := Effect.except_bind_ok h
  obtain ⟨_, -, h⟩ := Effect.except_bind_ok h
  exact ⟨hit, rewrite_eq_ok h⟩

theorem withCheck_ok {passes : Bool} : withCheck (.ok (some passes)) =
      if passes then .ok () else .error ⟨.insufficientPrivilege, ""⟩ := by
  cases passes <;> rfl

variable {policy : ρ → Sql.Expr Bool} {fed : ρ → Bool} {rows : List ρ}

theorem scan_eq_filter {value : ρ → Option Bool}
    (h : ∀ r ∈ rows, (fed r || cond r) = true → policy r = .ok (value r)) :
    scan policy fed cond rows =
    .ok (rows.filter fun r => decide (value r = some true) && cond r) := by
  induction rows with
  | nil => rfl
  | cons r rs ih =>
    have hr := ih fun q hq => h q (List.mem_cons_of_mem r hq)
    unfold scan
    by_cases hf : (fed r || cond r) = true
    · rw [if_pos hf, h r (List.mem_cons_self ..) hf, hr, List.filter_cons]
      rcases value r with _ | _ | _ <;> rcases cond r <;> rfl
    · rw [if_neg hf, hr]
      have hc : cond r = false := by
        rw [Bool.or_eq_true, not_or] at hf
        exact Bool.eq_false_iff.mpr hf.2
      rw [List.filter_cons_of_neg (by simp [hc])]

theorem scan_ok {passes : ρ → Bool}
    (h : ∀ r ∈ rows, (fed r || cond r) = true → policy r = .ok (some (passes r))) :
    scan policy fed cond rows = .ok (rows.filter fun r => passes r && cond r) := by
  rw [scan_eq_filter h]
  simp

theorem mem_scan {out : List ρ} (h : scan policy fed cond rows = .ok out) :
    r ∈ out ↔ r ∈ rows ∧ cond r = true ∧ policy r = .ok (some true) := by
  induction rows generalizing out with
  | nil =>
    cases h
    simp
  | cons q rows ih =>
    unfold scan at h
    split at h
    · simp only [Effect.except_bind_eq_ok] at h
      obtain ⟨passes, hpo, rest, hre, h⟩ := h
      cases h
      by_cases hq : (decide (passes = some true) && cond q) = true
      · rw [if_pos hq, List.mem_cons, ih hre, List.mem_cons]
        rw [Bool.and_eq_true, decide_eq_true_iff] at hq
        obtain ⟨rfl, hc⟩ := hq
        constructor
        · rintro (rfl | ⟨hr, hm⟩)
          · exact ⟨.inl rfl, hc, hpo⟩
          · exact ⟨.inr hr, hm⟩
        · rintro ⟨rfl | hr, hm⟩
          · exact .inl rfl
          · exact .inr ⟨hr, hm⟩
      · rw [if_neg hq, ih hre, List.mem_cons]
        refine ⟨fun ⟨hr, hm⟩ => ⟨.inr hr, hm⟩, ?_⟩
        rintro ⟨rfl | hr, hc, hp⟩
        · cases hpo.symm.trans hp
          exact absurd (by simp [hc]) hq
        · exact ⟨hr, hc, hp⟩
    · rename_i hf
      rw [ih h, List.mem_cons]
      refine ⟨fun ⟨hr, hm⟩ => ⟨.inr hr, hm⟩, ?_⟩
      rintro ⟨rfl | hr, hc, hp⟩
      · exact absurd (by simp [hc]) hf
      · exact ⟨hr, hc, hp⟩

theorem update_hit [DecidableEq ρ] {set : ρ → ρ} (h : R.update s plan cond set t = .ok t') :
    ∃ hit : List ρ, t.update (fun r => decide (r ∈ hit)) set = some t' ∧
    ∀ r, r ∈ hit ↔ r ∈ t ∧ cond r = true ∧
    Sql.also (R.policies.select s r) (R.policies.updateUsing s r) = .ok (some true) := by
  obtain ⟨hit, hs, h⟩ := Effect.except_bind_ok h
  obtain ⟨_, -, h⟩ := Effect.except_bind_ok h
  exact ⟨hit, rewrite_eq_ok h, fun r => mem_scan hs⟩

theorem update_rows [DecidableEq ρ] {set : ρ → ρ} (h : R.update s plan cond set t = .ok t') :
    ∃ hit : List ρ, (∀ q, q ∈ t' ↔ ∃ r ∈ t, q = if r ∈ hit then set r else r) ∧
    ∀ r ∈ hit, r ∈ t ∧ cond r = true ∧ R.meets (set r) = .ok () := by
  obtain ⟨hit, hs, h⟩ := Effect.except_bind_ok h
  obtain ⟨_, hc, h⟩ := Effect.except_bind_ok h
  refine ⟨hit, fun q => ?_, fun r hr => ?_⟩
  · rw [Table.mem_update (rewrite_eq_ok h)]
    simp only [decide_eq_true_iff]
  · obtain ⟨_, -, hm⟩ := Effect.except_bind_ok (forM_eq_ok.mp hc r hr)
    obtain ⟨_, -, hm⟩ := Effect.except_bind_ok hm
    obtain ⟨hme, hco, -⟩ := (mem_scan hs).mp hr
    exact ⟨hme, hco, hm⟩

theorem scan_error {e : SqlError} (ho : ∀ r ∈ rows, ∀ e', policy r = .error e' → e' = e)
    (h : ∃ r ∈ rows, (fed r || cond r) = true ∧ ∃ e', policy r = .error e') :
    scan policy fed cond rows = .error e := by
  induction rows with
  | nil =>
    obtain ⟨r, hr, -⟩ := h
    cases hr
  | cons r rs ih =>
    have ho' : ∀ q ∈ rs, ∀ e', policy q = .error e' → e' = e :=
      fun q hq => ho q (List.mem_cons_of_mem r hq)
    have hre : (fed r || cond r) = false ∨ (∃ p, policy r = .ok p) →
        scan policy fed cond rs = .error e := by
      intro hr
      refine ih ho' ?_
      obtain ⟨q, hq, hf, e', he'⟩ := h
      rcases List.mem_cons.mp hq with rfl | hq
      · rcases hr with hr | ⟨p, hr⟩
        · rw [hf] at hr
          cases hr
        · rw [hr] at he'
          cases he'
      · exact ⟨q, hq, hf, e', he'⟩
    unfold scan
    by_cases hf : (fed r || cond r) = true
    · rw [if_pos hf]
      rcases hp : policy r with e' | p
      · rw [ho r (List.mem_cons_self ..) e' hp]
        rfl
      · rw [hre (.inr ⟨p, hp⟩)]
        rfl
    · rw [if_neg hf]
      exact hre (.inl (Bool.eq_false_iff.mpr hf))

section Rewrite

variable [DecidableEq ρ] {set : ρ → ρ} {hit : List ρ}

theorem owner_after (hit : List ρ) (hs : ∀ r, owner (set r) = owner r) (q : ρ) :
    owner (if q ∈ hit then set q else q) = owner q := by
  split
  · exact hs q
  · rfl

theorem owner_of_clash (hl : Local R owner) (hs : ∀ r, owner (set r) = owner r)
    (hh : ∀ r ∈ hit, owner r = T) {a b : ρ} (ha : a ∈ t) (hb : b ∈ t) (hne : a ≠ b)
    (hc : R.Clash (if a ∈ hit then set a else a) (if b ∈ hit then set b else b)) :
    owner a = T ∧ owner b = T := by
  have ho : owner a = owner b := by
    rw [← owner_after hit hs a, hl _ _ hc, owner_after hit hs]
  by_cases hah : a ∈ hit
  · exact ⟨hh a hah, ho ▸ hh a hah⟩
  by_cases hbh : b ∈ hit
  · exact ⟨ho ▸ hh b hbh, hh b hbh⟩
  rw [if_neg hah, if_neg hbh] at hc
  exact absurd (Table.eq_of_clash ha hb hc) hne

theorem Agree.update_eq_none [Std.Refl R.Clash] (h : Agree owner T t₁ t₂)
    (hl : Local R owner) (hs : ∀ r, owner (set r) = owner r)
    (hh : ∀ r ∈ hit, owner r = T) (hnone : t₁.update (fun r => decide (r ∈ hit)) set = none) :
    t₂.update (fun r => decide (r ∈ hit)) set = none := by
  rw [Table.update_eq_none] at hnone ⊢
  simp only [decide_eq_true_iff] at hnone ⊢
  obtain ⟨a, ha, b, hb, hne, hc⟩ := hnone
  obtain ⟨haT, hbT⟩ := owner_of_clash hl hs hh ha hb hne hc
  exact ⟨a, (h a haT).mp ha, b, (h b hbT).mp hb, hne, hc⟩

theorem rewrite_matched [Std.Refl R.Clash] (hl : Local R owner) (h : Agree owner T t₁ t₂)
    (hs : ∀ r, owner (set r) = owner r) (hh : ∀ r ∈ hit, owner r = T) :
    Effect.Matched (Agree owner T) (R.rewrite set hit t₁) (R.rewrite set hit t₂) := by
  have hname : ∀ ix ∈ R.indexes, (hit.any fun r => t₁.rows.any fun q =>
        decide (q ≠ r ∧ ix.Clash (if q ∈ hit then set q else q) (set r))) =
      hit.any fun r => t₂.rows.any fun q =>
        decide (q ≠ r ∧ ix.Clash (if q ∈ hit then set q else q) (set r)) := by
    intro ix hix
    rw [Bool.eq_iff_iff, List.any_eq_true, List.any_eq_true]
    refine exists_congr fun r => and_congr_right fun hr => ?_
    rw [List.any_eq_true, List.any_eq_true]
    simp only [decide_eq_true_iff]
    refine h.exists_iff fun q hq => ?_
    rw [← owner_after hit hs q, hl _ _ ⟨ix, hix, hq.2⟩, hs, hh r hr]
  unfold rewrite
  rcases h₁ : t₁.update (fun r => decide (r ∈ hit)) set with _ | t₁' <;>
    rcases h₂ : t₂.update (fun r => decide (r ∈ hit)) set with _ | t₂'
  · exact violated_congr hname
  · exact absurd (h.update_eq_none hl hs hh h₁) (by simp [h₂])
  · exact absurd (h.symm.update_eq_none hl hs hh h₂) (by simp [h₁])
  · intro q hq
    rw [Table.mem_update h₁, Table.mem_update h₂]
    simp only [decide_eq_true_iff]
    refine h.exists_iff fun r hr => ?_
    rw [← owner_after hit hs r, ← hr, hq]

theorem rewrite_others (hs : ∀ r, owner (set r) = owner r) (hh : ∀ r ∈ hit, owner r = T)
    (h : R.rewrite set hit t = .ok t') {q : ρ} (hq : owner q ≠ T) : q ∈ t' ↔ q ∈ t := by
  rw [Table.mem_update (rewrite_eq_ok h)]
  simp only [decide_eq_true_iff]
  constructor
  · rintro ⟨r, hr, rfl⟩
    rw [owner_after hit hs] at hq
    rwa [if_neg fun hrh => hq (hh r hrh)]
  · exact fun hm => ⟨q, hm, (if_neg fun hqh => hq (hh q hqh)).symm⟩

end Rewrite

variable [DecidableEq κ]

structure Confines (R : SqlRelation ρ) (owner : ρ → κ) (T : κ) (s : Settings) : Prop where
  select (r : ρ) : R.policies.select s r = .ok (some (decide (owner r = T)))
  insertCheck (r : ρ) : R.policies.insertCheck s r = .ok (some (decide (owner r = T)))
  updateUsing (r : ρ) : R.policies.updateUsing s r = .ok (some (decide (owner r = T)))
  updateCheck (r : ρ) : R.policies.updateCheck s r = .ok (some (decide (owner r = T)))

theorem owner_of_hit (hr : r ∈ t.rows.filter fun r => decide (owner r = T) && cond r) :
    owner r = T := by
  have hr' := (List.mem_filter.mp hr).2
  rw [Bool.and_eq_true, decide_eq_true_iff] at hr'
  exact hr'.1

theorem select_confined (hs : Confines R owner T s) (plan : Planner ρ) (cond : ρ → Bool)
    (t : R.Rows) :
    R.select s plan cond t = .ok (t.rows.filter fun r => decide (owner r = T) && cond r) :=
  scan_ok fun r _ _ => hs.select r

theorem select_head? (hs : Confines R owner T s) (plan : Planner ρ) (cond : ρ → Bool) (t : R.Rows) :
    ∃ rows, R.select s plan cond t = .ok rows ∧
    rows.head? = t.find? fun r => decide (owner r = T) && cond r :=
  ⟨_, select_confined hs plan cond t, List.head?_filter⟩

theorem Agree.filter_eq (h : Agree owner T t₁ t₂)
    (hc : ∀ a b, owner a = T → owner b = T → cond a = true → cond b = true → R.Clash a b) :
    (t₁.rows.filter fun r => decide (owner r = T) && cond r) =
    t₂.rows.filter fun r => decide (owner r = T) && cond r := by
  refine Table.filter_eq_of_iff (fun a b ha hb => ?_) fun r hr => ?_
  · rw [Bool.and_eq_true, decide_eq_true_iff] at ha hb
    exact hc a b ha.1 hb.1 ha.2 hb.2
  · rw [Bool.and_eq_true, decide_eq_true_iff] at hr
    exact h r hr.1

theorem insert_matched (hl : Local R owner) (hs₁ : Confines R owner T s₁)
    (hs₂ : Confines R owner T s₂) (h : Agree owner T t₁ t₂) (r : ρ) :
    Effect.Matched (Agree owner T) (R.insert s₁ r t₁) (R.insert s₂ r t₂) := by
  unfold insert
  rw [hs₁.insertCheck, hs₂.insertCheck, withCheck_ok]
  by_cases hr : owner r = T
  swap
  · simp [hr, Effect.Matched, bind, Except.bind]
  have hc : ∀ ix ∈ R.indexes, ∀ q, ix.Clash q r → owner q = T :=
    fun ix hix q hq => (hl q r ⟨ix, hix, hq⟩).trans hr
  have hname : (R.violated fun ix => t₁.rows.any fun q => decide (ix.Clash q r)) =
      R.violated fun ix => t₂.rows.any fun q => decide (ix.Clash q r) := by
    refine violated_congr fun ix hix => ?_
    rw [Bool.eq_iff_iff, List.any_eq_true, List.any_eq_true]
    simp only [decide_eq_true_iff]
    exact h.exists_iff (hc ix hix)
  have hre : t₁.insert r = none ↔ t₂.insert r = none := by
    rw [Table.insert_eq_none, Table.insert_eq_none]
    exact h.exists_iff fun q hq => (hl q r hq).trans hr
  simp only [hr, decide_true, if_true]
  rcases R.meets r with e | _
  · rfl
  · rcases h₁ : t₁.insert r with _ | t₁' <;> rcases h₂ : t₂.insert r with _ | t₂'
    · exact hname
    · exact absurd (hre.mp h₁) (by simp [h₂])
    · exact absurd (hre.mpr h₂) (by simp [h₁])
    · intro q hq
      rw [Table.mem_insert h₁, Table.mem_insert h₂, h q hq]

theorem insert_ok (hs : Confines R owner T s) (hr : owner r = T) (hm : R.meets r = .ok ())
    (h : t.insert r = some t') : R.insert s r t = .ok t' := by
  unfold insert
  rw [hs.insertCheck, withCheck_ok, hr, decide_eq_true rfl, if_pos rfl, hm, h]
  rfl

theorem insert_others (hs : Confines R owner T s) (h : R.insert s r t = .ok t') {q : ρ}
    (hq : owner q ≠ T) : q ∈ t' ↔ q ∈ t := by
  have hi := insert_eq_ok h
  unfold insert at h
  rw [hs.insertCheck, withCheck_ok] at h
  by_cases hr : owner r = T
  swap
  · simp [hr, bind, Except.bind] at h
  rw [Table.mem_insert hi]
  exact or_iff_left fun hqr => hq (hqr ▸ hr)

theorem checkNew_confined (hs : Confines R owner T s) (hr : owner r = T) :
    R.checkNew s r = R.meets r := by
  unfold checkNew
  rw [hs.updateCheck, hs.select, withCheck_ok, hr, decide_eq_true rfl, if_pos rfl]
  rfl

theorem forM_congr {f g : ρ → Except SqlError Unit} (h : ∀ r ∈ rows, f r = g r) :
    rows.forM f = rows.forM g := by
  induction rows with
  | nil => rfl
  | cons r rs ih =>
    show (f r >>= fun _ => rs.forM f) = (g r >>= fun _ => rs.forM g)
    rw [h r (List.mem_cons_self ..), ih fun q hq => h q (List.mem_cons_of_mem r hq)]

variable [DecidableEq ρ]

theorem update_of_fed {set : ρ → ρ} {t : R.Rows}
    (hf : ∀ r ∈ t.rows, (plan t.rows cond r || cond r) = true →
    Sql.also (R.policies.select s r) (R.policies.updateUsing s r) =
    .ok (some (decide (owner r = T))))
    (hn : ∀ r, owner r = T → R.checkNew s (set r) = R.meets (set r)) :
    let hit := t.rows.filter fun r => decide (owner r = T) && cond r
    R.update s plan cond set t =
      (hit.forM fun r => R.meets (set r)) >>= fun _ => R.rewrite set hit t := by
  intro hit
  unfold update
  rw [scan_ok hf]
  show (hit.forM _ >>= fun _ => R.rewrite set hit t) = _
  rw [forM_congr fun r hr => hn r (owner_of_hit hr)]

theorem update_confined (hs : Confines R owner T s) {set : ρ → ρ}
    (hse : ∀ r, owner (set r) = owner r) (plan : Planner ρ) (cond : ρ → Bool) (t : R.Rows) :
    let hit := t.rows.filter fun r => decide (owner r = T) && cond r
    R.update s plan cond set t =
      (hit.forM fun r => R.meets (set r)) >>= fun _ => R.rewrite set hit t := by
  refine update_of_fed (fun r _ _ => ?_) fun r hr => checkNew_confined hs ((hse r).trans hr)
  rw [hs.select, hs.updateUsing]
  rcases decide (owner r = T) <;> rfl

theorem update_find? (hs : Confines R owner T s) {set : ρ → ρ} (hse : ∀ r, owner (set r) = owner r)
    (hc : ∀ r, cond r = true → cond (set r) = true) (h : R.update s plan cond set t = .ok t') :
    (t'.find? fun r => decide (owner r = T) && cond r) =
    (t.find? fun r => decide (owner r = T) && cond r).map set := by
  rw [update_confined hs hse] at h
  obtain ⟨_, -, h⟩ := Effect.except_bind_ok h
  have hsa : t.update (fun r => decide (r ∈ t.rows.filter fun r => decide (owner r = T) && cond r))
      set = t.update (fun r => decide (owner r = T) && cond r) set := by
    refine Table.update_congr fun r hr => ?_
    rw [Bool.eq_iff_iff, decide_eq_true_iff, List.mem_filter]
    exact and_iff_right hr
  refine Table.find?_update (hsa ▸ rewrite_eq_ok h) fun r hr => ?_
  rw [Bool.and_eq_true] at hr ⊢
  rw [hse r]
  exact ⟨hr.1, hc r hr.2⟩

theorem update_row [Std.Symm R.Clash] (hs : Confines R owner T s) {set : ρ → ρ}
    (hse : ∀ r, owner (set r) = owner r)
    (hc : ∀ a b, cond a = true → cond b = true → R.Clash a b) (hr : r ∈ t) (hT : owner r = T)
    (hr' : cond r = true) (hm : R.meets (set r) = .ok ())
    (hk : ∀ a b, R.Clash (if a = r then set a else a) (if b = r then set b else b) → R.Clash a b)
    (plan : Planner ρ) : ∃ t', R.update s plan cond set t = .ok t' ∧
    ∀ q, q ∈ t' ↔ ∃ p ∈ t, q = if p = r then set p else p := by
  have hh : (t.rows.filter fun r => decide (owner r = T) && cond r) = [r] := by
    refine Table.filter_eq_of_mem (fun a b ha hb => ?_) hr (by simp [hT, hr'])
    exact hc a b (Bool.and_eq_true_iff.mp ha).2 (Bool.and_eq_true_iff.mp hb).2
  obtain ⟨t', ht'⟩ := Table.update_of_clash (t := t) (p := fun q => decide (q ∈ [r])) (f := set)
    (fun a _ b _ h => hk a b (by simpa using h))
  refine ⟨t', ?_, fun q => ?_⟩
  · rw [update_confined hs hse, hh]
    show (R.meets (set r) >>= fun _ => pure ()) >>= _ = _
    rw [hm]
    show R.rewrite set [r] t = _
    unfold rewrite
    rw [ht']
  · rw [Table.mem_update ht']
    simp

theorem update_matched [Std.Refl R.Clash] (hl : Local R owner) (hs₁ : Confines R owner T s₁)
    (hs₂ : Confines R owner T s₂) (h : Agree owner T t₁ t₂)
    (hc : ∀ a b, owner a = T → owner b = T → cond a = true → cond b = true → R.Clash a b)
    {set : ρ → ρ} (hse : ∀ r, owner (set r) = owner r) (p pl : Planner ρ) :
    Effect.Matched (Agree owner T) (R.update s₁ p cond set t₁) (R.update s₂ pl cond set t₂) := by
  rw [update_confined hs₁ hse, update_confined hs₂ hse, h.filter_eq hc]
  have hh : ∀ r ∈ t₂.rows.filter fun r => decide (owner r = T) && cond r, owner r = T :=
    fun r hr => owner_of_hit hr
  generalize (t₂.rows.filter fun r => decide (owner r = T) && cond r) = hit at hh
  rcases hit.forM fun r => R.meets (set r) with e | _
  · rfl
  · exact rewrite_matched hl h hse hh

theorem update_others (hs : Confines R owner T s) {set : ρ → ρ}
    (hse : ∀ r, owner (set r) = owner r) (h : R.update s plan cond set t = .ok t') {q : ρ}
    (hq : owner q ≠ T) : q ∈ t' ↔ q ∈ t := by
  rw [update_confined hs hse] at h
  obtain ⟨_, -, h⟩ := Effect.except_bind_ok h
  exact rewrite_others hse (fun r hr => owner_of_hit hr) h hq

end SqlRelation

end Leadkart
