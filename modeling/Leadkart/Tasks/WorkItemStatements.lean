import Leadkart.Tasks.WorkItemIsolation

/-!
# The statements on one work item
-/

namespace Leadkart.WorkItem

open List Effect SqlRelation

variable {codec : UuidCodec}

theorem notNull_eq_ok {c : Row → Option UUID} {r : Row} :
    notNull c r = .ok () ↔ (c r).isSome = true := by
  unfold notNull
  split <;> simp_all

theorem meets_iff {r : Row} : (workItems codec).meets r = .ok () ↔
    r.assignedTo.isSome = true ∧ r.assignedBy.isSome = true ∧ r.createdBy.isSome = true ∧
    r.sourceConsistent = true ∧ r.priority ∈ ["low", "medium", "high", "urgent"] ∧
    r.state ∈ ["pending", "in_progress", "completed", "overdue", "cancelled"] ∧
    (1 ≤ r.title.length ∧ r.title.length ≤ 200) ∧
    r.itype ∈ ["manual", "callback_reminder", "reorder_reminder", "follow_up", "custom"] := by
  rw [SqlRelation.meets_eq_ok]
  unfold workItems
  simp only [List.forall_mem_cons, List.not_mem_nil, false_implies, implies_true, and_true,
    notNull_eq_ok, Sql.check_eq_ok, decide_eq_true_iff, Bool.and_eq_true]

theorem parseState_string (state : State) : parseState state.string = .ok state := by
  cases state <;> rfl

theorem parseState_eq_ok {raw : String} {state : State} (h : parseState raw = .ok state) :
    raw = state.string := parseEntry_eq_ok h

variable {row : Row} {w : WorkItem}

theorem snapshotFromColumns_ok (h : (workItems codec).meets row = .ok ()) :
    ∃ w, snapshotFromColumns codec row = .ok w := by
  obtain ⟨-, -, -, -, hp, hstate, -, ht⟩ := meets_iff.mp h
  obtain ⟨itype, ht⟩ : ∃ itype, parseType row.itype = .ok itype := by
    simp only [mem_cons, not_mem_nil, or_false] at ht
    rcases ht with h | h | h | h | h <;> rw [h] <;> exact ⟨_, rfl⟩
  obtain ⟨priority, hp⟩ : ∃ priority, parsePriority row.priority = .ok priority := by
    simp only [mem_cons, not_mem_nil, or_false] at hp
    rcases hp with h | h | h | h <;> rw [h] <;> exact ⟨_, rfl⟩
  obtain ⟨state, hstate⟩ : ∃ state, parseState row.state = .ok state := by
    simp only [mem_cons, not_mem_nil, or_false] at hstate
    rcases hstate with h | h | h | h | h <;> rw [h] <;> exact ⟨_, rfl⟩
  unfold snapshotFromColumns
  rw [ht, hp, hstate]
  exact ⟨_, rfl⟩

theorem snapshotFromColumns_eq_ok (h : snapshotFromColumns codec row = .ok w) :
    w.id = codec.string row.id ∧ w.tenantID = codec.string row.tenantID ∧ w.events = [] ∧
    parseState row.state = .ok w.state ∧ w.assignedTo = codec.uuidStringIfValid row.assignedTo := by
  simp only [snapshotFromColumns, except_bind_eq_ok] at h
  obtain ⟨itype, -, priority, -, state, hstate, h⟩ := h
  cases h
  exact ⟨rfl, rfl, rfl, except_mapError_ok hstate, rfl⟩

variable {T lid : UUID} {tenantID id : String} {tx : Tx} {s s' : Store codec}

def itemOf (T id : UUID) (s : Store codec) : Option Row :=
  s.workItems.find? fun r => decide (r.tenantID = T) && liveID id r

theorem itemOf_ids (h : itemOf T lid s = some row) : row.tenantID = T ∧ row.id = lid := by
  have hp := (Table.mem_of_find? h).2
  unfold liveID at hp
  simp only [Bool.and_eq_true, decide_eq_true_iff] at hp
  exact ⟨hp.1, hp.2.1⟩

theorem loadWorkItem_look (htx : Bound codec T tx) (hid : codec.parse id = some lid) :
    (loadWorkItem tx id).look s = match itemOf T lid s with
      | some row => snapshotFromColumns codec row
      | none => .error ⟨errNotFound, ""⟩ := by
  obtain ⟨rows, hs, hh⟩ := select_head? htx tx.plan (liveID lid) s.workItems
  unfold loadWorkItem parseID itemOf
  rw [look_query, UuidCodec.parseOr_ok hid, ← hh]
  dsimp only [bind, Except.bind]
  rw [hs]
  rcases rows with _ | ⟨row, rows⟩ <;> rfl

theorem loadWorkItem_eq_ok (htx : Bound codec T tx) (hid : codec.parse id = some lid) :
    (loadWorkItem tx id).look s = .ok w ↔
    ∃ row, itemOf T lid s = some row ∧ snapshotFromColumns codec row = .ok w := by
  rw [loadWorkItem_look htx hid]
  rcases itemOf T lid s with _ | row <;> simp

theorem writeRows_eq_ok {f : (workItems codec).Rows → Except Err (workItems codec).Rows}
    (h : (writeRows f).run s = (.ok (), s')) :
    f s.workItems = .ok s'.workItems ∧ s'.outbox = s.outbox := by
  have hw := write_eq_ok.mp h
  rcases hr : f s.workItems with e | t
  · rw [hr] at hw
    cases hw
  · rw [hr] at hw
    cases hw
    exact ⟨rfl, rfl⟩

theorem persistWorkItemState_eq_ok (htx : Bound codec T tx) (hid : codec.parse w.id = some lid)
    (h : (persistWorkItemState tx w).run s = (.ok (), s')) :
    itemOf T lid s' = (itemOf T lid s).map (updateParams codec w) ∧ s'.outbox = s.outbox := by
  obtain ⟨hro, ho⟩ := writeRows_eq_ok h
  unfold parseID at hro
  rw [UuidCodec.parseOr_ok hid] at hro
  obtain ⟨_, ⟨⟩, hu⟩ := except_bind_ok hro
  exact ⟨update_find? htx (updateParams_tenantID codec w) (fun _ hr => hr)
    (except_mapError_ok hu), ho⟩

theorem drainWorkItemEvents_eq_ok (h : (drainWorkItemEvents w).run s = (.ok (), s')) :
    ∃ messages, mapDomainEvents codec w.events = .ok (messages.map OutboxMessage.event) ∧
    s' = { s with outbox := s.outbox ++ messages } := by
  unfold drainWorkItemEvents at h
  split at h
  next hn =>
    obtain ⟨-, rfl⟩ := pure_eq_ok.mp h
    refine ⟨[], ?_, by rw [append_nil]⟩
    rw [hn]
    rfl
  next =>
    obtain ⟨tid, -, h⟩ := except_bind_ok (write_eq_ok.mp h)
    obtain ⟨mapped, hm, h⟩ := except_bind_ok h
    cases h
    refine ⟨mapped.map (OutboxMessage.mk topic tid), ?_, rfl⟩
    rw [except_mapError_ok hm, map_map]
    exact congrArg Except.ok (map_id mapped).symm

end Leadkart.WorkItem
