import Leadkart.Identity.RoleHierarchy
import Leadkart.Logic.ParentPointer

/-!
# The role hierarchy is a forest
-/

namespace Leadkart.RoleHierarchy

open List Table Effect Machine ParentPointer SqlRelation

variable {codec : UuidCodec} {t t' : (roleHierarchyEdges codec).Rows} {T c p : UUID}

def HasParent (T : UUID) (t : (roleHierarchyEdges codec).Rows) (c p : UUID) : Prop :=
  ∃ r ∈ t, activeEdge T c r = true ∧ r.parentRoleID = p

structure Forest (T : UUID) (t : (roleHierarchyEdges codec).Rows) : Prop where
  one (c : UUID) : (t.rows.filter (activeEdge T c)).length ≤ 1
  acyclic (c : UUID) : ¬ Relation.TransGen (HasParent T t) c c

def parentOf (T : UUID) (t : (roleHierarchyEdges codec).Rows) (c : UUID) : Option UUID :=
  (t.find? (activeEdge T c)).map Row.parentRoleID

theorem activeEdge_iff {r : Row} :
    activeEdge T c r = true ↔ r.tenantID = T ∧ r.childRoleID = c ∧ r.removedAt = none := by
  simp [activeEdge, and_assoc]

theorem activeEdge_clash {a b : Row} (ha : activeEdge T c a = true) (hb : activeEdge T c b = true) :
    (roleHierarchyEdges codec).Clash a b := by
  obtain ⟨hat, hac, haa⟩ := activeEdge_iff.mp ha
  obtain ⟨hbt, hbc, hba⟩ := activeEdge_iff.mp hb
  refine ⟨uqRoleHierarchyActiveEdgePerChild, by simp [roleHierarchyEdges], ?_⟩
  simp [UniqueIndex.Clash, uqRoleHierarchyActiveEdgePerChild, *]

theorem id_clash {a b : Row} (h : a.id = b.id) : (roleHierarchyEdges codec).Clash a b := by
  refine ⟨pkey, by simp [roleHierarchyEdges], ?_⟩
  simp [UniqueIndex.Clash, pkey, h]

theorem parentOf_eq_some : parentOf T t c = some p ↔ HasParent T t c p := by
  unfold parentOf
  rw [Option.map_eq_some_iff]
  constructor
  · rintro ⟨r, hf, hp⟩
    obtain ⟨hr, ha⟩ := mem_of_find? hf
    exact ⟨r, hr, ha, hp⟩
  · rintro ⟨r, hr, ha, hp⟩
    exact ⟨r, Table.find?_eq_of_mem (fun _ _ => activeEdge_clash) hr ha, hp⟩

theorem above_parentOf : Above (parentOf T t) = Relation.TransGen (HasParent T t) := by
  unfold Above
  congr 1
  funext a b
  exact propext parentOf_eq_some

theorem length_filter_activeEdge (c : UUID) : (t.rows.filter (activeEdge T c)).length ≤ 1 := by
  by_cases hs : ∃ r ∈ t, activeEdge T c r = true
  · obtain ⟨r, hr, ha⟩ := hs
    rw [filter_eq_of_mem (fun _ _ => activeEdge_clash) hr ha]
    exact Nat.le_refl 1
  · have hn : t.rows.filter (activeEdge T c) = [] :=
      filter_eq_nil_iff.mpr fun r hr ha => hs ⟨r, hr, ha⟩
    rw [hn]
    exact Nat.zero_le 1

theorem forest_iff : Forest T t ↔ Acyclic (parentOf T t) := by
  constructor
  · intro h a
    rw [above_parentOf]
    exact h.acyclic a
  · intro h
    refine ⟨length_filter_activeEdge, fun a => ?_⟩
    rw [← above_parentOf]
    exact h a

section Trigger

variable {tenantID : String} {conn : Conn} {row : Row}

def raised (found : Bool) : Except SqlError Unit :=
  if found then .error cycleDetected else .ok ()

theorem checkLoop_bound (hT : codec.input tenantID = some T) (ro : Nat) (v : List UUID)
    (cur : Option UUID) : checkLoop (conn.tx tenantID) t T ro v cur =
    (walk (parentOf T t) ro v cur).map raised := by
  have hse : ∀ c, (roleHierarchyEdges codec).select (conn.tx tenantID).settings
      (conn.tx tenantID).plan (activeEdge T c) t = .ok (t.rows.filter (activeEdge T c)) := by
    intro c
    rw [select_confined (App.confines_tenantPolicies rfl hT conn)]
    refine congrArg Except.ok (filter_congr fun r _ => ?_)
    rw [Bool.and_eq_right_iff_imp, decide_eq_true_iff]
    exact fun ha => (activeEdge_iff.mp ha).1
  induction ro generalizing v cur with
  | zero => rfl
  | succ n ih =>
    cases cur with
    | none => rfl
    | some cur =>
      unfold checkLoop walk
      by_cases hs : cur ∈ v
      · rw [if_pos hs, if_pos hs]
        rfl
      · rw [if_neg hs, if_neg hs, hse cur]
        dsimp only
        rw [ih, List.head?_filter]
        rfl

theorem checkLoop_foreign (t : (roleHierarchyEdges codec).Rows) (conn : Conn)
    (hT : codec.input tenantID ≠ some T) (v : List UUID) (cur : UUID) : ∃ outcome, ∀ rounds, 2 ≤ rounds →
    checkLoop (conn.tx tenantID) t T rounds v (some cur) = some outcome := by
  by_cases hse : cur ∈ v
  · refine ⟨.error cycleDetected, fun rounds hro => ?_⟩
    obtain ⟨n, rfl⟩ : ∃ n, rounds = n + 1 := ⟨rounds - 1, by omega⟩
    unfold checkLoop
    rw [if_pos hse]
  cases hs : (roleHierarchyEdges codec).select (conn.tx tenantID).settings
      (conn.tx tenantID).plan (activeEdge T cur) t with
  | error e =>
    refine ⟨.error e, fun rounds hro => ?_⟩
    obtain ⟨n, rfl⟩ : ∃ n, rounds = n + 1 := ⟨rounds - 1, by omega⟩
    unfold checkLoop
    rw [if_neg hse, hs]
  | ok rows =>
    have hn : rows = [] := by
      refine eq_nil_iff_forall_not_mem.mpr fun r hr => hT ?_
      obtain ⟨-, ha, hp⟩ := (mem_scan hs).mp hr
      rw [App.input_of_ownOrPlatform hp, (activeEdge_iff.mp ha).1]
    refine ⟨.ok (), fun rounds hro => ?_⟩
    obtain ⟨n, rfl⟩ : ∃ n, rounds = n + 2 := ⟨rounds - 2, by omega⟩
    unfold checkLoop
    rw [if_neg hse, hs, hn]
    rfl

theorem edgeCheckCycle_terminates (t : (roleHierarchyEdges codec).Rows) (conn : Conn)
    (tenantID : String) (row : Row) : ∃ outcome, ∀ rounds, roundsOf t ≤ rounds →
    edgeCheckCycle (conn.tx tenantID) t row rounds = some outcome := by
  unfold edgeCheckCycle roundsOf
  by_cases hs : row.childRoleID = row.parentRoleID
  · exact ⟨.ok (), fun rounds _ => if_pos hs⟩
  simp only [if_neg hs]
  by_cases hT : codec.input tenantID = some row.tenantID
  · have hn : ∀ a b, parentOf row.tenantID t a = some b → b ∈ t.rows.map Row.parentRoleID := by
      intro a b hab
      obtain ⟨r, hr, -, rfl⟩ := parentOf_eq_some.mp hab
      exact mem_map_of_mem hr
    obtain ⟨found, hf⟩ := walk_terminates hn row.childRoleID row.parentRoleID
    rw [length_map] at hf
    refine ⟨raised found, fun rounds hro => ?_⟩
    rw [checkLoop_bound hT, hf rounds hro]
    rfl
  · obtain ⟨outcome, ho⟩ := checkLoop_foreign t conn hT [row.childRoleID] row.parentRoleID
    exact ⟨outcome, fun rounds hro => ho rounds (by omega)⟩

theorem edgeCheckCycle_iff (hT : codec.input tenantID = some row.tenantID)
    (hf : Acyclic (parentOf row.tenantID t)) {r : Nat} {outcome : Except SqlError Unit}
    (h : edgeCheckCycle (conn.tx tenantID) t row r = some outcome) :
    (outcome = .error cycleDetected ↔
    Above (parentOf row.tenantID t) row.parentRoleID row.childRoleID) ∧
    (outcome = .ok () ↔ ¬ Above (parentOf row.tenantID t) row.parentRoleID row.childRoleID) := by
  unfold edgeCheckCycle at h
  by_cases hs : row.childRoleID = row.parentRoleID
  · rw [if_pos hs] at h
    cases h
    have hn := hf row.parentRoleID
    rw [hs]
    simp [hn]
  · rw [if_neg hs, checkLoop_bound hT, Option.map_eq_some_iff] at h
    obtain ⟨found, hw, rfl⟩ := h
    have hfo := hf.walk_iff hw
    rw [reaches_iff_above, or_iff_right fun heq => hs heq.symm] at hfo
    rw [← hfo]
    cases found <;> simp [raised]

end Trigger

structure Sound (t : (roleHierarchyEdges codec).Rows) : Prop where
  acyclic (T : UUID) : Acyclic (parentOf T t)
  stamped : ∀ r ∈ t, r.removedAt ≠ some 0

theorem sound_empty : Sound (.empty : (roleHierarchyEdges codec).Rows) :=
  ⟨fun _ => acyclic_of_none fun _ => rfl, fun _ hr => nomatch hr⟩

theorem pgTimestamp_ne_zero (now : Time) : pgTimestamp now ≠ some 0 := by
  unfold pgTimestamp Time.isZero
  split <;> simp_all

variable {tx : Tx}

theorem insertRow_eq_ok {s s' : Store codec} {row : Row} (h : insertRow tx row s = .ok s') :
    (edgeCheckCycle tx s.edges row (roundsOf s.edges)).getD (.error cycleDetected) = .ok () ∧
    (roleHierarchyEdges codec).insert tx.settings row s.edges = .ok s'.edges ∧
    s'.identity = s.identity := by
  simp only [insertRow, except_bind_eq_ok] at h
  obtain ⟨_, ht, t', hi, _, -, _, -, h⟩ := h
  cases h
  exact ⟨ht, hi, rfl⟩

theorem acyclic_insertRow {s s' : Store codec} {conn : Conn} {tenantID : String} {row : Row}
    (hs : ∀ T, Acyclic (parentOf T s.edges)) (hac : row.removedAt = none)
    (h : insertRow (conn.tx tenantID) row s = .ok s') : ∀ T, Acyclic (parentOf T s'.edges) := by
  obtain ⟨ht, hi, -⟩ := insertRow_eq_ok h
  obtain ⟨hpo, hm, hin⟩ := insert_passed hi
  have hT : codec.input tenantID = some row.tenantID := App.input_of_ownOrPlatform hpo
  have hse : row.childRoleID ≠ row.parentRoleID := by
    have hc := meets_eq_ok.mp hm _ (mem_cons_self ..)
    exact of_decide_eq_true (Sql.check_eq_ok.mp hc)
  have hf : ¬ Reaches (parentOf row.tenantID s.edges) row.parentRoleID row.childRoleID := by
    obtain ⟨outcome, ho⟩ := edgeCheckCycle_terminates s.edges conn tenantID row
    have hen := ho _ (Nat.le_refl _)
    rw [hen] at ht
    rw [reaches_iff_above, or_iff_right fun heq => hse heq.symm]
    exact (edgeCheckCycle_iff hT (hs _) hen).2.mp ht
  intro T
  by_cases how : row.tenantID = T
  · subst how
    refine (hs row.tenantID).changed (c := row.childRoleID) (p := row.parentRoleID)
      (fun a b ha hab => ?_) (fun b hb => ?_) hf
    · obtain ⟨r, hr, he, hp⟩ := parentOf_eq_some.mp hab
      rcases (mem_insert hin).mp hr with hold | rfl
      · exact parentOf_eq_some.mpr ⟨r, hold, he, hp⟩
      · exact absurd (activeEdge_iff.mp he).2.1.symm ha
    · obtain ⟨r, hr, he, hp⟩ := parentOf_eq_some.mp hb
      have hrow : activeEdge row.tenantID row.childRoleID row = true :=
        activeEdge_iff.mpr ⟨rfl, rfl, hac⟩
      have hn : row ∈ s'.edges := (mem_insert hin).mpr (.inr rfl)
      have hsa : r = row := eq_of_clash hr hn (activeEdge_clash he hrow)
      rw [← hp, hsa]
  · refine (hs T).mono fun a b hab => ?_
    obtain ⟨r, hr, he, hp⟩ := parentOf_eq_some.mp hab
    rcases (mem_insert hin).mp hr with hold | rfl
    · exact parentOf_eq_some.mpr ⟨r, hold, he, hp⟩
    · exact absurd (activeEdge_iff.mp he).1 how

theorem Sound.insertRow {s s' : Store codec} {conn : Conn} {tenantID : String} {row : Row}
    (hs : Sound s.edges) (ha : row.removedAt = none)
    (h : insertRow (conn.tx tenantID) row s = .ok s') : Sound s'.edges := by
  refine ⟨acyclic_insertRow hs.acyclic ha h, fun r hr => ?_⟩
  obtain ⟨-, hi, -⟩ := insertRow_eq_ok h
  rcases (mem_insert (insert_eq_ok hi)).mp hr with hold | rfl
  · exact hs.stamped r hold
  · rw [ha]
    simp

variable {e : Edge}

theorem Sound.removal {ry : Option UUID} {hit : List Row} (hs : Sound t)
    (hh : ∀ r ∈ hit, r.removedAt = none)
    (h : t.update (fun r => decide (r ∈ hit)) (removalParams e ry) = some t') : Sound t' := by
  constructor
  · intro T
    refine (hs.acyclic T).mono fun a b hab => ?_
    obtain ⟨q, hq, he, hp⟩ := parentOf_eq_some.mp hab
    obtain ⟨r, hr, rfl⟩ := (mem_update h).mp hq
    by_cases hrh : r ∈ hit
    · rw [if_pos (decide_eq_true hrh)] at he hp
      obtain ⟨ht, hc, -⟩ := activeEdge_iff.mp he
      exact parentOf_eq_some.mpr ⟨r, hr, activeEdge_iff.mpr ⟨ht, hc, hh r hrh⟩, hp⟩
    · rw [if_neg (by simpa using hrh)] at he hp
      exact parentOf_eq_some.mpr ⟨r, hr, he, hp⟩
  · intro q hq
    obtain ⟨r, hr, rfl⟩ := (mem_update h).mp hq
    split
    · exact pgTimestamp_ne_zero e.removedAt
    · exact hs.stamped r hr

variable {now : Time}

theorem remove_eq_ok {e' : Edge} {r reason : String} (h : e.remove r reason now = .ok e') :
    e.removedAt = 0 ∧ e'.id = e.id ∧ e'.removedAt = now := by
  unfold Edge.remove Edge.isActive Time.isZero at h
  split at h
  · cases h
  · rename_i ha
    have hz : e.removedAt = 0 := by simpa using ha
    cases hreason : validateReason reason with
    | error err =>
      rw [hreason] at h
      cases h
    | ok trimmed =>
      rw [hreason] at h
      cases h
      exact ⟨hz, rfl, rfl⟩

theorem fetchOne_eq_ok {text : String} {cond : Row → Bool} {s s' : Store codec}
    (h : (fetchOne tx text cond).run s = (.ok e, s')) :
    s' = s ∧ ∃ r ∈ s.edges, cond r = true ∧ e = rowToHierarchyEdge codec r := by
  obtain ⟨h, rfl⟩ := query_eq_ok.mp h
  refine ⟨rfl, ?_⟩
  split at h
  · cases h
  · cases h
  · rename_i row rest hs
    obtain ⟨hr, hc, -⟩ := (mem_scan hs).mp (mem_cons_self ..)
    exact ⟨row, hr, hc, (Except.ok.inj h).symm⟩

theorem drain_eq_ok {s s' : Store codec} (h : (drainHierarchyEdgeEvents e).run s = (.ok (), s')) :
    s' = s := by
  unfold drainHierarchyEdgeEvents at h
  split at h
  · exact (pure_eq_ok.mp h).2.symm
  · exact (ofExcept_eq_ok.mp h).2

theorem Sound.updateOnTx {id : String} {cmd : SetRoleParentCommand} {s s' : Store codec}
    (hc : codec.Lawful) (hs : Sound s.edges)
    (h : (updateOnTx tx id (removeFn cmd now)).run s = (.ok (), s')) : Sound s'.edges := by
  obtain ⟨e, s₁, hl, h⟩ := bind_eq_ok.mp h
  obtain ⟨rid, s₀, hp, hf⟩ := bind_eq_ok.mp hl
  obtain ⟨-, rfl⟩ := ofExcept_eq_ok.mp hp
  obtain ⟨rfl, r, hr, -, rfl⟩ := fetchOne_eq_ok hf
  unfold removeFn at h
  cases hre : (rowToHierarchyEdge codec r).remove cmd.actorMembershipID cmd.reason now with
  | error err =>
    rw [hre] at h
    exact nomatch (Prod.mk.inj h).1
  | ok e' =>
    rw [hre] at h
    obtain ⟨hz, hid, -⟩ := remove_eq_ok hre
    obtain ⟨_, s₂, hpe, hd⟩ := bind_eq_ok.mp h
    obtain rfl := drain_eq_ok hd
    have hw := write_eq_ok.mp hpe
    simp only [except_bind_eq_ok] at hw
    obtain ⟨rid', hp', removedBy, -, t', hu, hw⟩ := hw
    cases hw
    obtain ⟨hit, hro, hm⟩ := update_hit (except_mapError_ok hu)
    refine hs.removal (fun q hq => ?_) hro
    obtain ⟨hq, hqi, -⟩ := (hm q).mp hq
    -- the id that is written to is the one that was loaded, so the row is that row
    have hri : rid' = r.id := by
      have hra := UuidCodec.parse_of_parseOr hp'
      rw [hid] at hra
      exact Option.some.inj (hra.symm.trans (hc.parse_string r.id))
    have hqr : q = r := eq_of_clash hq hr (id_clash ((of_decide_eq_true hqi).trans hri))
    subst hqr
    have hst := hs.stamped q hq
    change timeFromPg q.removedAt = 0 at hz
    cases hrd : q.removedAt with
    | none => rfl
    | some time =>
      rw [hrd] at hz hst
      exact absurd (congrArg some hz) hst

theorem Sound.addOnTx {conn : Conn} {tenantID : String} {s s' : Store codec} (hs : Sound s.edges)
    (h : (addOnTx (conn.tx tenantID) e).run s = (.ok (), s')) : Sound s'.edges := by
  obtain ⟨_, s₁, hi, hd⟩ := bind_eq_ok.mp h
  obtain rfl := drain_eq_ok hd
  have hw := write_eq_ok.mp hi
  simp only [except_bind_eq_ok] at hw
  obtain ⟨rid, -, tid, -, cid, -, pid, -, establishedBy, -, hw⟩ := hw
  exact hs.insertRow rfl (except_mapError_ok hw)

section

variable {s s' : Store codec} {d : Draws} {ctxTenant : Option String}

theorem keeps_onIdentity {α : Type} (x : Leadkart.Repo α) :
    Keeps (fun s : Store codec => Sound s.edges) (onIdentity x) := fun _ hs => hs

theorem keeps_createRole (d : Draws) (ctxTenant : Option String) (cmd : CreateRoleCommand) :
    Keeps (fun s : Store codec => Sound s.edges) (createRole d ctxTenant cmd) := by
  unfold createRole
  split
  · exact keeps_fail _
  split
  · exact keeps_fail _
  split
  · exact ((keeps_onIdentity _).mapError _).bind fun _ => keeps_pure _
  split
  · exact keeps_fail _
  · refine Keeps.bind (Keeps.mapError (Pg.keeps_withinUnitOfWork ?_) _) fun _ => keeps_pure _
    intro tenantID s _ s' hs hru
    obtain ⟨_, s₁, hr, ha⟩ := bind_eq_ok.mp hru
    obtain ⟨i, -, rfl⟩ := zoom_eq_ok.mp hr
    exact Sound.addOnTx (s := { s with identity := i }) hs ha

theorem readOnly_existingEdge (d : Draws) (cmd : SetRoleParentCommand) :
    ReadOnly (existingEdge d cmd : Repo codec (Option Edge)) := by
  intro s₀
  have hg : Keeps (· = s₀)
      (getActiveByChild d.readConn cmd.tenantID cmd.roleID : Repo codec Edge) :=
    (keeps_ofExcept _).bind fun _ => Pg.keeps_withinTxPgxTenant (keeps_query _)
  refine hg.attempt.bind fun r => ?_
  cases r with
  | ok e => exact keeps_pure _
  | error e =>
    dsimp only
    split
    · exact keeps_pure _
    · exact keeps_fail _

variable {cmd : SetRoleParentCommand}

theorem Sound.removeExistingEdge {tx : Tx} (hc : codec.Lawful) (hs : Sound s.edges)
    (h : (removeExistingEdge d cmd tx).run s = (.ok (), s')) : Sound s'.edges := by
  obtain ⟨existing, -, h⟩ := (readOnly_existingEdge d cmd).bind_eq_ok.mp h
  cases existing with
  | none =>
    obtain rfl := (pure_eq_ok.mp h).2
    exact hs
  | some e => exact hs.updateOnTx hc h

theorem keeps_softDelete (hc : codec.Lawful) (d : Draws) (cmd : SetRoleParentCommand)
    (id : String) : Keeps (fun s : Store codec => Sound s.edges) (softDelete d cmd id) :=
  Keeps.mapError (Pg.keeps_withinTx fun _ _ _ hs hr => hs.updateOnTx hc hr) _

theorem keeps_setRoleParent (hc : codec.Lawful) (d : Draws) (ctxTenant : Option String)
    (cmd : SetRoleParentCommand) :
    Keeps (fun s : Store codec => Sound s.edges) (setRoleParent d ctxTenant cmd) := by
  unfold setRoleParent
  split
  · exact keeps_fail _
  split
  · exact keeps_fail _
  split
  · intro s hs
    show Sound ((existingEdge d cmd >>= _).run s).2.edges
    rw [bind_apply, (readOnly_existingEdge d cmd).run_eq s]
    cases (existingEdge d cmd).look s with
    | error e => exact hs
    | ok existing =>
      cases existing with
      | none => exact hs
      | some e => exact keeps_softDelete hc d cmd e.id s hs
  · refine Pg.keeps_withinUnitOfWork fun tenantID s _ s' hs hru => ?_
    obtain ⟨_, s₁, hr, hru⟩ := bind_eq_ok.mp hru
    obtain ⟨edge, s₂, hn, ha⟩ := bind_eq_ok.mp hru
    obtain ⟨-, rfl⟩ := ofExcept_eq_ok.mp hn
    exact (hs.removeExistingEdge hc hr).addOnTx ha

theorem softDelete_error {id : String} {e : Err} (h : (softDelete d cmd id).run s = (.error e, s')) :
    s' = s := by
  obtain ⟨_, h, -⟩ := mapError_eq_error h
  exact atomic_eq_error h

theorem setRoleParent_error {e : Err} (h : (setRoleParent d ctxTenant cmd).run s = (.error e, s')) :
    s' = s := by
  unfold setRoleParent at h
  split at h
  · exact (Prod.mk.inj h).2.symm
  split at h
  · exact (Prod.mk.inj h).2.symm
  split at h
  · change (existingEdge d cmd >>= _).run s = _ at h
    rw [bind_apply, (readOnly_existingEdge d cmd).run_eq s] at h
    cases hl : (existingEdge d cmd).look s with
    | error e =>
      rw [hl] at h
      exact (Prod.mk.inj h).2.symm
    | ok existing =>
      rw [hl] at h
      cases existing with
      | none => exact nomatch (Prod.mk.inj h).1
      | some e => exact softDelete_error h
  · exact atomic_eq_error h

theorem sound_step (hc : codec.Lawful) {cmd : Command} (hs : Sound s.edges)
    (h : step s cmd = some s') : Sound s'.edges := by
  cases cmd with
  | create ctxTenant d cmd =>
    cases h
    exact keeps_createRole d ctxTenant cmd s hs
  | setParent ctxTenant d cmd =>
    cases h
    exact keeps_setRoleParent hc d ctxTenant cmd s hs
  | clear d cmd edgeID =>
    cases h
    exact keeps_softDelete hc d cmd edgeID s hs

end

inductive InsertTarget (s : Store codec) : (roleHierarchyEdges codec).Rows → Prop where
  | found : InsertTarget s s.edges
  | vacated {d : Draws} {cmd : SetRoleParentCommand} {tx : Tx} {s' : Store codec} :
      (removeExistingEdge d cmd tx).run s = (.ok (), s') → InsertTarget s s'.edges

theorem InsertTarget.sound {s : Store codec} (hc : codec.Lawful) (h : InsertTarget s t)
    (hs : Sound s.edges) : Sound t := by
  cases h with
  | found => exact hs
  | vacated hr => exact hs.removeExistingEdge hc hr

theorem role_hierarchy_forest (hcodec : codec.Lawful) {identity : Leadkart.Store}
    {cmds : List Command} {s : Store codec} (hr : run step ⟨identity, .empty⟩ cmds = some s) :
    (∀ T, Forest T s.edges) ∧
    (∀ t, InsertTarget s t → ∀ (conn : Conn) (tenantID : String) (row : Row), ∃ outcome,
    (∀ rounds, roundsOf t ≤ rounds →
    edgeCheckCycle (conn.tx tenantID) t row rounds = some outcome) ∧
    (codec.input tenantID = some row.tenantID → (outcome = .error cycleDetected ↔
    Relation.TransGen (HasParent row.tenantID t) row.parentRoleID row.childRoleID) ∧
    (outcome = .ok () ↔
    ¬ Relation.TransGen (HasParent row.tenantID t) row.parentRoleID row.childRoleID))) ∧
    (∀ d ctxTenant cmd e s', (setRoleParent d ctxTenant cmd).run s = (.error e, s') → s' = s) := by
  have hso : Sound s.edges :=
    run_keeps (P := fun s : Store codec => Sound s.edges) sound_empty
      (fun _ _ _ hs hst => sound_step hcodec hs hst) hr
  refine ⟨fun T => forest_iff.mpr (hso.acyclic T), fun t ht conn tenantID row => ?_,
    fun d ctxTenant cmd e s' he => setRoleParent_error he⟩
  obtain ⟨outcome, ho⟩ := edgeCheckCycle_terminates t conn tenantID row
  refine ⟨outcome, ho, fun hT => ?_⟩
  rw [← above_parentOf]
  exact edgeCheckCycle_iff hT ((ht.sound hcodec hso).acyclic row.tenantID) (ho _ (Nat.le_refl _))

def sampleConn : Conn where
  plan _ _ _ := false

def sampleIdentity : Leadkart.Store where
  persons := .empty
  tenants := .empty
  memberships := .empty
  roles := .empty
  families := .empty

def sampleDraws (roleID edgeID : UUID) : Draws where
  readConn := sampleConn
  txConn := sampleConn
  roleID := unaryCodec.string roleID
  edgeID := unaryCodec.string edgeID
  now := 5
  edgeNow := 5

def sampleRoles : List Command :=
  [.create (some (unaryCodec.string 2)) (sampleDraws 3 8)
      ⟨unaryCodec.string 2, "Sales", 10, "", "", ""⟩,
    .create (some (unaryCodec.string 2)) (sampleDraws 4 9)
      ⟨unaryCodec.string 2, "Field sales", 20, unaryCodec.string 3, "", ""⟩]

def sampleParent : SetRoleParentCommand :=
  ⟨unaryCodec.string 2, unaryCodec.string 3, unaryCodec.string 4, "", ""⟩

theorem parent_below_is_refused :
    ∃ s : Store unaryCodec, run step ⟨sampleIdentity, .empty⟩ sampleRoles = some s ∧
    HasParent 2 s.edges 4 3 ∧ Forest 2 s.edges ∧
    (setRoleParent (sampleDraws 3 7) (some (unaryCodec.string 2)) sampleParent).run s =
    (.error ⟨errCycle, ""⟩, s) := by
  refine exists_some (P := fun s => parentOf 2 s.edges 4 = some 3 ∧
    (setRoleParent (sampleDraws 3 7) (some (unaryCodec.string 2)) sampleParent).look s =
      .error ⟨errCycle, ""⟩) (by decide +kernel) fun s hr ⟨hp, hl⟩ => ?_
  obtain ⟨hf, -, hk⟩ := role_hierarchy_forest unaryCodec_lawful hr
  have hru : (setRoleParent (sampleDraws 3 7) (some (unaryCodec.string 2)) sampleParent).run s =
      (.error ⟨errCycle, ""⟩, _) := Prod.ext hl rfl
  refine ⟨parentOf_eq_some.mp hp, hf 2, ?_⟩
  rwa [hk _ _ _ _ _ hru] at hru

end Leadkart.RoleHierarchy
