import Leadkart.Crm.LeadCommands
import Leadkart.Logic.Keyset
import Mathlib.Data.Prod.Lex

/-!
# The assignment history of a lead
-/

namespace Leadkart.CrmLead

open List Option Effect Machine Rmw

variable {codec : UuidCodec}

def assignedBefore (a b : HistoryRow) : Bool :=
  a.assignedAt < b.assignedAt || (a.assignedAt = b.assignedAt && a.id ≤ b.id)

def historyOf (lid : UUID) (s : Store codec) : List HistoryRow :=
  (s.history.rows.filter fun r => r.leadID = lid).mergeSort assignedBefore

def assigneeOf (T lid : UUID) (s : Store codec) : Option UUID :=
  (leadOf T lid s).bind Row.assigneeMembershipID

def lastAssignee (rows : List HistoryRow) : Option UUID :=
  rows.getLast?.map HistoryRow.assigneeMembershipID

def Chained (previous : Option UUID) : List HistoryRow → Prop
  | [] => True
  | r :: rows =>
    r.previousAssigneeMembershipID = previous ∧ Chained (some r.assigneeMembershipID) rows

variable {rows : List HistoryRow}

theorem Chained.concat {previous : Option UUID} (h : Chained previous rows) {r : HistoryRow}
    (hr : r.previousAssigneeMembershipID = (lastAssignee rows).or previous) :
    Chained previous (rows ++ [r]) := by
  induction rows generalizing previous with
  | nil => exact ⟨hr, trivial⟩
  | cons q rows ih =>
    refine ⟨h.1, ih h.2 ?_⟩
    rw [hr]
    unfold lastAssignee
    cases rows with
    | nil => rfl
    | cons p rows => simp [getLast?_cons]

structure Mirrors (T lid : UUID) (s : Store codec) : Prop where
  lead : (leadOf T lid s).isSome = true
  chained : Chained none (historyOf lid s)
  current : assigneeOf T lid s = lastAssignee (historyOf lid s)

def Later (lid : UUID) (c : Command) (s : Store codec) : Prop :=
  ∀ r ∈ s.history.rows, r.leadID = lid → r.assignedAt < c.now

instance (lid : UUID) (c : Command) (s : Store codec) : Decidable (Later lid c s) :=
  inferInstanceAs (Decidable (∀ r ∈ s.history.rows, _ → _))

def assignedKey (r : HistoryRow) : (Int ×ₗ Nat)ᵒᵈ := OrderDual.toDual (toLex (r.assignedAt, r.id.toNat))

theorem assignedBefore_iff (a b : HistoryRow) :
    assignedBefore a b = true ↔ assignedKey b ≤ assignedKey a := by
  unfold assignedKey assignedBefore
  rw [OrderDual.toDual_le_toDual, Prod.Lex.toLex_le_toLex, Bool.or_eq_true, Bool.and_eq_true]
  simp only [decide_eq_true_iff]
  exact Iff.rfl

theorem nodup_assignedKey (history : (assignmentHistory codec).Rows) (p : HistoryRow → Bool) :
    ((history.rows.filter p).map assignedKey).Nodup := by
  refine pairwise_map.mpr ((history.unique.filter p).imp fun hc heq => hc ?_)
  have hid : ∀ {a b : HistoryRow}, assignedKey a = assignedKey b → a.id = b.id := fun h =>
    BitVec.eq_of_toNat_eq (congrArg (fun k => (ofLex (OrderDual.ofDual k)).2) h)
  simpa [SqlRelation.Clash, assignmentHistory, UniqueIndex.Clash] using hid heq

variable {s s' : Store codec}

theorem historyOf_insert {lid : UUID} {row : HistoryRow}
    (hi : s.history.insert row = some s'.history) (hli : row.leadID = lid)
    (hl : ∀ r ∈ s.history.rows, r.leadID = lid → r.assignedAt < row.assignedAt) :
    historyOf lid s' = historyOf lid s ++ [row] := by
  have hrow : ([row].filter fun r => r.leadID = lid) = [row] :=
    filter_eq_self.mpr fun r hr => by
      rw [mem_singleton.mp hr]
      exact decide_eq_true hli
  unfold historyOf
  rw [(Table.insert_eq_some hi).1, filter_append, hrow]
  refine Keyset.mergeSort_concat assignedBefore_iff (nodup_assignedKey _ _) fun r hr => ?_
  obtain ⟨hm, hr⟩ := mem_filter.mp hr
  unfold assignedKey
  rw [OrderDual.toDual_lt_toDual, Prod.Lex.toLex_lt_toLex]
  exact .inl (hl r hm (of_decide_eq_true hr))

variable {previous assignedBy reason : String}

theorem Entry.new_eq_ok {id tenantID leadID assignee : String} {assignedAt now : Time} {e : Entry}
    (h : Entry.new codec id tenantID leadID previous assignee assignedBy reason assignedAt now =
    .ok e) :
    e = ⟨id, tenantID, leadID, previous, assignee, assignedBy, reason, assignedAt, now⟩ := by
  simp only [Entry.new, except_bind_eq_ok] at h
  obtain ⟨_, -, _, -, _, -, _, -, _, -, _, -, h⟩ := h
  split at h
  · cases h
  split at h
  · cases h
  split at h
  · cases h
  · exact (Except.ok.inj h).symm

variable {c : Command} {newAssignee : String}

theorem Command.record_assign (hc : c.transition = .assign newAssignee assignedBy reason)
    (h : c.record previous s = .ok s') :
    ∃ row : HistoryRow, s.history.insert row = some s'.history ∧
    codec.parse c.leadID = some row.leadID ∧
    row.previousAssigneeMembershipID = codec.pgUUIDOptStr previous ∧
    codec.parse newAssignee = some row.assigneeMembershipID ∧ row.assignedAt = c.now := by
  unfold record at h
  rw [hc] at h
  obtain ⟨entry, he, h⟩ := except_bind_ok h
  obtain ⟨row, hrow, h⟩ := except_bind_ok h
  obtain ⟨history, hi, h⟩ := except_bind_ok h
  cases h
  obtain rfl := Entry.new_eq_ok (except_mapError_ok he)
  obtain ⟨_, -, hrow⟩ := except_bind_ok hrow
  obtain ⟨_, -, hrow⟩ := except_bind_ok hrow
  obtain ⟨leadID, hl, hrow⟩ := except_bind_ok hrow
  obtain ⟨assignee, ha, hrow⟩ := except_bind_ok hrow
  obtain ⟨_, -, hrow⟩ := except_bind_ok hrow
  obtain ⟨history', had, hfk⟩ := except_bind_ok (except_mapError_ok hi)
  obtain ⟨_, -, hfk⟩ := except_bind_ok hfk
  cases hfk
  refine ⟨row, SqlRelation.insert_eq_ok had, ?_⟩
  rw [← Except.ok.inj hrow]
  exact ⟨UuidCodec.parse_of_parseOr hl, rfl, UuidCodec.parse_of_parseOr ha, rfl⟩

variable {T lid : UUID}

theorem Mirrors.commit (hco : codec.Lawful) (hc : c.On codec T lid)
    (ht : c.transition = .assign newAssignee assignedBy reason) (h : Mirrors T lid s)
    (hla : Later lid c s) {seen : List (Store codec)} {w : CrmLead × String}
    (hs : ∀ x ∈ seen, assigneeOf T lid x = assigneeOf T lid s)
    (hat : c.txn.attempt seen = some w) (hwr : c.txn.write w s = some s') : Mirrors T lid s' := by
  obtain ⟨s₀, l, rfl, hlo, ha, hch, hp⟩ := Command.txn_attempt hat
  obtain ⟨row₀, hrow₀, hl₀, hid, -⟩ := Command.load_eq_ok hco hc hlo
  obtain ⟨-, -, -, -, has⟩ := rowToLead_eq_ok hl₀
  rw [ht] at ha hch
  obtain ⟨-, ⟨-, hsa⟩ | ⟨-, -, hw⟩⟩ := assign_eq_ok ha
  · rw [hsa] at hch
    exact absurd hch (by simp [Transition.changed])
  have hwi : codec.parse w.1.id = some lid := by rw [hw]; exact hid
  obtain ⟨hrow, -, s₁, hh, hre⟩ := Command.store_eq_ok hc hwi (Command.txn_write hwr)
  obtain ⟨entry, hi, hed, he, hen, het⟩ := Command.record_assign ht hre
  obtain ⟨row, hl⟩ := isSome_iff_exists.mp h.lead
  rw [hl, map_some] at hrow
  -- the assignee before it is the one on the lead
  have hb : entry.previousAssigneeMembershipID = assigneeOf T lid s := by
    rw [he, hp, has, ← hs s₀ (mem_singleton_self _)]
    unfold assigneeOf
    rw [hrow₀]
    exact hco.pgUUIDOptStr_uuidStringIfValid _
  have haf : assigneeOf T lid s' = some entry.assigneeMembershipID := by
    unfold assigneeOf
    rw [hrow, Option.bind_some]
    rw [hw]
    exact UuidCodec.pgUUIDOptStr_of_parse hco hen
  have hli : entry.leadID = lid := Option.some.inj (hed.symm.trans hc.lead)
  have hr : historyOf lid s' = historyOf lid s ++ [entry] := by
    have hlt : ∀ r ∈ s₁.history.rows, r.leadID = lid → r.assignedAt < entry.assignedAt := by
      rw [hh, het]
      exact hla
    rw [historyOf_insert hi hli hlt]
    unfold historyOf
    rw [hh]
  refine ⟨by rw [hrow]; rfl, ?_, ?_⟩
  · rw [hr]
    refine h.chained.concat ?_
    rw [hb, h.current, or_none]
  · rw [hr, haf]
    unfold lastAssignee
    rw [getLast?_concat, Option.map_some]

def assignments : Bool → Command
  | true => onOpenLead (.assign "xxxxxx" "xxxxx" "") 20 "xx"
  | false => onOpenLead (.assign "xxxxxxx" "xxxxx" "") 21 "xxx"

def ordered (lid : UUID) (s : Store codec) : Option (List HistoryRow) :=
  let rows := s.history.rows.filter fun r => r.leadID = lid
  if rows.Pairwise fun a b => assignedBefore a b = true then some rows else none

theorem historyOf_of_ordered (h : ordered lid s = some rows) : historyOf lid s = rows := by
  unfold ordered at h
  dsimp only at h
  split at h
  next hs =>
    cases h
    exact mergeSort_of_pairwise hs
  next => cases h

theorem not_chained (h : rows.map HistoryRow.previousAssigneeMembershipID = [none, none]) :
    ¬ Chained none rows := by
  intro hc
  rcases rows with _ | ⟨a, _ | ⟨b, rows⟩⟩
  · simp at h
  · simp at h
  · have hs : b.previousAssigneeMembershipID = none := (cons.inj (cons.inj h).2).1
    exact nomatch hc.2.1.symm.trans hs

end Leadkart.CrmLead
