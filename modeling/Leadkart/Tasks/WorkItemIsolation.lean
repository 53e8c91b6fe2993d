import Leadkart.Tasks.WorkItemRepository
import Mathlib.Data.List.Sort

/-!
# Isolation of work items
-/

namespace Leadkart.WorkItem

open List Effect SqlRelation

variable {codec : UuidCodec}

inductive Operation where
  | add (w : WorkItem)
  | updateByID (tenantID id : String) (updateFn : UpdateFn)
  | getByID (tenantID id : String)
  | getOpenBySource (tenantID entityType entityID : String)
  | listPage (tenantID : String) (filter : ListFilter) (cursor : Cursor) (pageSize : Int)
  | deleteByID (tenantID id : String)

inductive Answer where
  | done
  | item (w : WorkItem)
  | page (p : Page WorkItem)

namespace Operation

def tenantID : Operation → String
  | add w => w.tenantID
  | updateByID tenantID .. | getByID tenantID _ | getOpenBySource tenantID ..
  | listPage tenantID .. | deleteByID tenantID _ => tenantID

def target : Operation → Option String
  | updateByID _ id _ | getByID _ id | deleteByID _ id => some id
  | add _ | getOpenBySource .. | listPage .. => none

def call (conn : Conn) : Operation → Repo codec Answer
  | add w => WorkItem.add conn w >>= fun _ => pure .done
  | updateByID tenantID id updateFn =>
    WorkItem.updateByID conn tenantID id updateFn >>= fun _ => pure .done
  | getByID tenantID id => WorkItem.getByID conn tenantID id >>= fun w => pure (.item w)
  | getOpenBySource tenantID entityType entityID =>
    WorkItem.getOpenBySource conn tenantID entityType entityID >>= fun w => pure (.item w)
  | listPage tenantID filter cursor pageSize =>
    WorkItem.listPage conn tenantID filter cursor pageSize >>= fun p => pure (.page p)
  | deleteByID tenantID id => WorkItem.deleteByID conn tenantID id >>= fun _ => pure .done

end Operation

def Bound (codec : UuidCodec) (T : UUID) (tx : Tx) : Prop :=
  Confines (workItems codec) Row.tenantID T tx.settings

theorem bound_tx {tenantID : String} {T : UUID} (hT : codec.input tenantID = some T)
    (conn : Conn) : Bound codec T (conn.tx tenantID) := App.confines_tenantPolicies rfl hT conn

variable {a b : Row}

theorem clash_iff : (workItems codec).Clash a b ↔ pkey.Clash a b ∨ uqTasksSourceOpen.Clash a b := by
  simp [SqlRelation.Clash, workItems]

theorem pkey_clash : pkey.Clash a b ↔ a.tenantID = b.tenantID ∧ a.id = b.id := by
  simp [UniqueIndex.Clash, pkey]

variable {entityType entityID : String}

theorem uqTasksSourceOpen_key {r : Row} {tenantID : UUID} :
    uqTasksSourceOpen.key r = some (tenantID, entityType, entityID) ↔
    openSource entityType entityID r = true ∧ r.tenantID = tenantID := by
  unfold uqTasksSourceOpen openSource
  dsimp only
  rcases r.sourceEntityType with _ | t <;> rcases r.sourceEntityID with _ | i <;>
    rcases r.isDeleted <;> rcases r.stateOpen <;> (simp; try tauto)

instance : Std.Refl (workItems codec).Clash :=
  ⟨fun _ => clash_iff.mpr (.inl (pkey_clash.mpr ⟨rfl, rfl⟩))⟩

theorem local_workItems : Local (workItems codec) Row.tenantID := by
  intro a b h
  rcases clash_iff.mp h with h | ⟨hk, heq⟩
  · exact (pkey_clash.mp h).1
  · obtain ⟨⟨tenantID, entityType, entityID⟩, ha⟩ := Option.ne_none_iff_exists'.mp hk
    have hb : uqTasksSourceOpen.key b = some (tenantID, entityType, entityID) := heq.symm.trans ha
    exact (uqTasksSourceOpen_key.mp ha).2.trans (uqTasksSourceOpen_key.mp hb).2.symm

theorem liveID_clash {T id : UUID} (ha : a.tenantID = T) (hb : b.tenantID = T)
    (hi : liveID id a = true) (hid : liveID id b = true) : (workItems codec).Clash a b := by
  unfold liveID at hi hid
  rw [Bool.and_eq_true, decide_eq_true_iff] at hi hid
  exact clash_iff.mpr (.inl (pkey_clash.mpr ⟨ha.trans hb.symm, hi.1.trans hid.1.symm⟩))

theorem openSource_clash {T : UUID} (ha : a.tenantID = T) (hb : b.tenantID = T)
    (hsa : openSource entityType entityID a = true) (hsb : openSource entityType entityID b = true) :
    (workItems codec).Clash a b := by
  have hka := uqTasksSourceOpen_key.mpr ⟨hsa, ha⟩
  have hkb := uqTasksSourceOpen_key.mpr ⟨hsb, hb⟩
  exact clash_iff.mpr (.inr ⟨hka ▸ Option.some_ne_none _, hka.trans hkb.symm⟩)

theorem listedBefore_iff : listedBefore a b = true ↔
    @LT.lt Int _ b.dueAt a.dueAt ∨ (@Eq Int a.dueAt b.dueAt ∧ b.id.toNat ≤ a.id.toNat) := by
  unfold listedBefore
  rw [Bool.or_eq_true, Bool.and_eq_true, decide_eq_true_iff, decide_eq_true_iff,
    decide_eq_true_iff, BitVec.le_def]

theorem listedBefore_total (a b : Row) : (listedBefore a b || listedBefore b a) = true := by
  rw [Bool.or_eq_true, listedBefore_iff, listedBefore_iff]
  omega

theorem listedBefore_trans (a b c : Row) (hab : listedBefore a b = true)
    (hbc : listedBefore b c = true) : listedBefore a c = true := by
  rw [listedBefore_iff] at hab hbc ⊢
  omega

theorem listedBefore_antisymm {T : UUID} {t : (workItems codec).Rows} (ha : a ∈ t) (hb : b ∈ t)
    (haT : a.tenantID = T) (hbT : b.tenantID = T) (hab : listedBefore a b = true)
    (hba : listedBefore b a = true) : a = b := by
  rw [listedBefore_iff] at hab hba
  have hid : a.id = b.id := BitVec.eq_of_toNat_eq (by omega)
  exact Table.eq_of_clash ha hb (clash_iff.mpr (.inl (pkey_clash.mpr ⟨haT.trans hbT.symm, hid⟩)))

theorem mergeSort_pairwise (rows : List Row) :
    (rows.mergeSort listedBefore).Pairwise fun a b => listedBefore a b = true :=
  pairwise_mergeSort listedBefore_trans listedBefore_total rows

theorem sort_eq {T : UUID} {t₁ t₂ : (workItems codec).Rows} (h : Agree Row.tenantID T t₁ t₂)
    (cond : Row → Bool) :
    (t₁.rows.filter fun r => decide (r.tenantID = T) && cond r).mergeSort listedBefore =
    (t₂.rows.filter fun r => decide (r.tenantID = T) && cond r).mergeSort listedBefore := by
  have hm : ∀ {t : (workItems codec).Rows} {r : Row},
      r ∈ (t.rows.filter fun r => decide (r.tenantID = T) && cond r) ↔
        r ∈ t ∧ r.tenantID = T ∧ cond r = true := by
    intro t r
    rw [mem_filter, Bool.and_eq_true, decide_eq_true_iff]
    exact Iff.rfl
  have hp : (t₁.rows.filter fun r => decide (r.tenantID = T) && cond r).Perm
      (t₂.rows.filter fun r => decide (r.tenantID = T) && cond r) := by
    refine (perm_ext_iff_of_nodup (t₁.nodup.filter _) (t₂.nodup.filter _)).mpr fun r => ?_
    rw [hm, hm]
    exact and_congr_left fun hr => h r hr.1
  refine List.Perm.eq_of_pairwise ?_ (mergeSort_pairwise _) (mergeSort_pairwise _)
    ((mergeSort_perm _ _).trans (hp.trans (mergeSort_perm _ _).symm))
  intro a b ha hb hab hba
  obtain ⟨ha₁, haT, -⟩ := hm.mp (mem_mergeSort.mp ha)
  obtain ⟨hb₂, hbT, -⟩ := hm.mp (mem_mergeSort.mp hb)
  exact listedBefore_antisymm ha₁ ((h b hbT).mpr hb₂) haT hbT hab hba

structure Related (T : UUID) (o₁ o₂ : List OutboxMessage) (s₁ s₂ : Store codec) : Prop where
  agree : Agree Row.tenantID T s₁.workItems s₂.workItems
  emitted : ∃ ms, s₁.outbox = o₁ ++ ms ∧ s₂.outbox = o₂ ++ ms

section Respects

variable {T : UUID} {o₁ o₂ : List OutboxMessage} {tx₁ tx₂ : Tx}

theorem respects_writeRows {f g : (workItems codec).Rows → Except Err (workItems codec).Rows}
    (h : ∀ t₁ t₂, Agree Row.tenantID T t₁ t₂ → Matched (Agree Row.tenantID T) (f t₁) (g t₂)) :
    Respects (Related T o₁ o₂) (writeRows f) (writeRows g) := by
  refine respects_write fun s₁ s₂ hs => ?_
  have hm := h _ _ hs.agree
  rcases hf : f s₁.workItems with e | t₁ <;> rcases hg : g s₂.workItems with e' | t₂ <;>
    rw [hf, hg] at hm
  · exact hm
  · exact hm
  · exact hm
  · exact ⟨hm, hs.emitted⟩

theorem respects_load (hs₁ : Bound codec T tx₁) (hs₂ : Bound codec T tx₂) (id : String) :
    Respects (Related T o₁ o₂) (loadWorkItem tx₁ id : Repo codec WorkItem)
    (loadWorkItem tx₂ id) := by
  refine respects_query fun s₁ s₂ hs => ?_
  rcases parseID codec "id" id with e | lid
  · rfl
  · dsimp only [bind, Except.bind]
    rw [select_confined hs₁, select_confined hs₂, hs.agree.filter_eq fun _ _ => liveID_clash]

theorem respects_drain (w : WorkItem) :
    Respects (Related T o₁ o₂) (drainWorkItemEvents w : Repo codec Unit)
    (drainWorkItemEvents w) := by
  unfold drainWorkItemEvents
  split
  · exact respects_pure ()
  · refine respects_write fun s₁ s₂ hs => ?_
    rcases parseID codec "tenant id" w.tenantID with e | tid
    · rfl
    · rcases (mapDomainEvents codec w.events) with e | mapped
      · rfl
      · obtain ⟨ms, h₁, h₂⟩ := hs.emitted
        refine ⟨hs.agree, ms ++ mapped.map fun e => ⟨topic, tid, e⟩, ?_, ?_⟩
        · rw [← append_assoc, ← h₁]
        · rw [← append_assoc, ← h₂]

theorem update_liveID_matched (hs₁ : Bound codec T tx₁) (hs₂ : Bound codec T tx₂)
    {id : UUID} {set : Row → Row}
    (hse : ∀ r, (set r).tenantID = r.tenantID) {t₁ t₂ : (workItems codec).Rows}
    (h : Agree Row.tenantID T t₁ t₂) (f : SqlError → Err) : Matched (Agree Row.tenantID T)
    (((workItems codec).update tx₁.settings tx₁.plan (liveID id) set t₁).mapError f)
    (((workItems codec).update tx₂.settings tx₂.plan (liveID id) set t₂).mapError f) :=
  (update_matched local_workItems hs₁ hs₂ h (fun _ _ => liveID_clash) hse _ _).mapError f

theorem respects_addOnTx (hs₁ : Bound codec T tx₁) (hs₂ : Bound codec T tx₂) (w : WorkItem) :
    Respects (Related T o₁ o₂) (addOnTx tx₁ w : Repo codec Unit) (addOnTx tx₂ w) := by
  refine Respects.bind (respects_writeRows fun t₁ t₂ h => ?_) fun _ => respects_drain w
  rcases parseID codec "id" w.id with e | lid
  · rfl
  · rcases parseID codec "tenant id" w.tenantID with e | tid
    · rfl
    · exact (insert_matched local_workItems hs₁ hs₂ h _).mapError insertError

theorem respects_updateOnTx (hs₁ : Bound codec T tx₁) (hs₂ : Bound codec T tx₂) (id : String)
    (updateFn : UpdateFn) :
    Respects (Related T o₁ o₂) (updateOnTx tx₁ id updateFn : Repo codec Unit)
    (updateOnTx tx₂ id updateFn) := by
  refine Respects.bind (respects_load hs₁ hs₂ id) fun w => ?_
  rcases updateFn w with ⟨w', e | persist⟩
  · exact respects_ofExcept _
  · cases persist with
    | false => exact respects_pure ()
    | true =>
      refine Respects.bind (respects_writeRows fun t₁ t₂ h => ?_) fun _ => respects_drain w'
      rcases parseID codec "id" w'.id with e | lid
      · rfl
      · exact update_liveID_matched hs₁ hs₂ (updateParams_tenantID codec w') h _

theorem respects_deleteOnTx (hs₁ : Bound codec T tx₁) (hs₂ : Bound codec T tx₂) (id : String) :
    Respects (Related T o₁ o₂) (deleteOnTx tx₁ id : Repo codec Unit) (deleteOnTx tx₂ id) :=
  Respects.bind (respects_ofExcept _) fun _ =>
    Respects.bind (respects_load hs₁ hs₂ id) fun _ =>
      respects_writeRows fun _ _ h => update_liveID_matched hs₁ hs₂ markDeleted_tenantID h _

variable {tenantID : String} {conn₁ conn₂ : Conn}

theorem respects_withinTx {α : Type} (hT : codec.input tenantID = some T) {f g : Tx → Repo codec α}
    (h : ∀ tx₁ tx₂ : Tx, Bound codec T tx₁ → Bound codec T tx₂ →
    Respects (Related T o₁ o₂) (f tx₁) (g tx₂)) :
    Respects (Related T o₁ o₂) (Pg.withinTx conn₁ tenantID f)
    (Pg.withinTx conn₂ tenantID g) :=
  Pg.respects_withinTxPgxTenant
    (h _ _ (bound_tx hT conn₁) (bound_tx hT conn₂))

theorem respects_getOpenBySource (hT : codec.input tenantID = some T)
    (entityType entityID : String) : Respects (Related T o₁ o₂)
    (getOpenBySource conn₁ tenantID entityType entityID : Repo codec WorkItem)
    (getOpenBySource conn₂ tenantID entityType entityID) := by
  unfold getOpenBySource
  split
  · exact respects_ofExcept _
  · refine respects_withinTx hT fun tx₁ tx₂ hs₁ hs₂ => respects_query fun s₁ s₂ hs => ?_
    rw [select_confined hs₁, select_confined hs₂, hs.agree.filter_eq fun _ _ => openSource_clash]

theorem respects_listPage (hT : codec.input tenantID = some T) (f : ListFilter)
    (c : Cursor) (p : Int) : Respects (Related T o₁ o₂)
    (listPage conn₁ tenantID f c p : Repo codec (Page WorkItem))
    (listPage conn₂ tenantID f c p) := by
  refine Respects.bind (respects_ofExcept _) fun tid =>
    Respects.bind ?_ fun _ => respects_ofExcept _
  refine respects_withinTx hT fun tx₁ tx₂ hs₁ hs₂ => respects_query fun s₁ s₂ hs => ?_
  rw [select_confined hs₁, select_confined hs₂]
  dsimp only
  rw [sort_eq hs.agree]

theorem Operation.respects {op : Operation} (hT : codec.input op.tenantID = some T) :
    Respects (Related T o₁ o₂) (op.call conn₁ : Repo codec Answer) (op.call conn₂) := by
  cases op with
  | add w =>
    exact Respects.bind (respects_withinTx hT fun _ _ hs₁ hs₂ => respects_addOnTx hs₁ hs₂ w)
      fun _ => respects_pure _
  | updateByID tenantID id updateFn =>
    exact Respects.bind
      (respects_withinTx hT fun _ _ hs₁ hs₂ => respects_updateOnTx hs₁ hs₂ id updateFn)
      fun _ => respects_pure _
  | getByID tenantID id =>
    exact Respects.bind (respects_withinTx hT fun _ _ hs₁ hs₂ => respects_load hs₁ hs₂ id)
      fun _ => respects_pure _
  | getOpenBySource tenantID entityType entityID =>
    exact Respects.bind (respects_getOpenBySource hT entityType entityID)
      fun _ => respects_pure _
  | listPage tenantID filter cursor pageSize =>
    exact Respects.bind (respects_listPage hT filter cursor pageSize)
      fun _ => respects_pure _
  | deleteByID tenantID id =>
    exact Respects.bind
      (respects_withinTx hT fun _ _ hs₁ hs₂ => respects_deleteOnTx hs₁ hs₂ id)
      fun _ => respects_pure _

end Respects

section Others

variable {T : UUID} {t₀ : (workItems codec).Rows} {tx : Tx}

def Others (T : UUID) (t₀ : (workItems codec).Rows) (s : Store codec) : Prop :=
  ∀ row : Row, row.tenantID ≠ T → (row ∈ s.workItems ↔ row ∈ t₀)

theorem keeps_writeRows {f : (workItems codec).Rows → Except Err (workItems codec).Rows}
    (h : ∀ t t' (q : Row), f t = .ok t' → q.tenantID ≠ T → (q ∈ t' ↔ q ∈ t)) :
    Keeps (Others T t₀) (writeRows f) := by
  refine keeps_write fun s s' hs hf q hq => ?_
  rcases hr : f s.workItems with e | t'
  · rw [hr] at hf
    exact absurd hf (by simp [Except.map])
  · rw [hr] at hf
    cases hf
    exact (h _ _ q hr hq).trans (hs q hq)

theorem keeps_drain (w : WorkItem) :
    Keeps (Others T t₀) (drainWorkItemEvents w : Repo codec Unit) := by
  unfold drainWorkItemEvents
  split
  · exact keeps_pure ()
  · refine keeps_write fun s s' hs hf => ?_
    simp only [except_bind_eq_ok] at hf
    obtain ⟨tid, -, mapped, -, hf⟩ := hf
    cases hf
    exact hs

theorem keeps_addOnTx (hs : Bound codec T tx) (w : WorkItem) :
    Keeps (Others T t₀) (addOnTx tx w : Repo codec Unit) := by
  refine Keeps.bind (keeps_writeRows fun t t' q hf hq => ?_) fun _ => keeps_drain w
  simp only [except_bind_eq_ok] at hf
  obtain ⟨lid, -, tid, -, hf⟩ := hf
  exact insert_others hs (except_mapError_ok hf) hq

theorem keeps_updateOnTx (hs : Bound codec T tx) (id : String)
    (updateFn : UpdateFn) :
    Keeps (Others T t₀) (updateOnTx tx id updateFn : Repo codec Unit) := by
  refine Keeps.bind (keeps_query _) fun w => ?_
  rcases updateFn w with ⟨w', e | persist⟩
  · exact keeps_ofExcept _
  · cases persist with
    | false => exact keeps_pure ()
    | true =>
      refine Keeps.bind (keeps_writeRows fun t t' q hf hq => ?_) fun _ => keeps_drain w'
      obtain ⟨lid, -, hf⟩ := except_bind_ok hf
      exact update_others hs (updateParams_tenantID codec w') (except_mapError_ok hf) hq

theorem keeps_deleteOnTx (hs : Bound codec T tx)
    (id : String) : Keeps (Others T t₀) (deleteOnTx tx id : Repo codec Unit) :=
  Keeps.bind (keeps_ofExcept _) fun _ =>
    Keeps.bind (keeps_query _) fun _ =>
      keeps_writeRows fun _ _ _ hf hq =>
        update_others hs markDeleted_tenantID (except_mapError_ok hf) hq

theorem keeps_withinTx {α : Type} {tenantID : String} (hT : codec.input tenantID = some T)
    {conn : Conn} {f : Tx → Repo codec α}
    (h : ∀ tx : Tx, Bound codec T tx →
    Keeps (Others T t₀) (f tx)) : Keeps (Others T t₀) (Pg.withinTx conn tenantID f) :=
  Pg.keeps_withinTxPgxTenant (h _ (bound_tx hT conn))

theorem Operation.keeps {op : Operation} (hT : codec.input op.tenantID = some T) (conn : Conn) :
    Keeps (Others T t₀) (op.call conn : Repo codec Answer) := by
  cases op with
  | add w =>
    exact Keeps.bind (keeps_withinTx hT fun _ hs => keeps_addOnTx hs w) fun _ => keeps_pure _
  | updateByID tenantID id updateFn =>
    exact Keeps.bind (keeps_withinTx hT fun _ hs => keeps_updateOnTx hs id updateFn)
      fun _ => keeps_pure _
  | getByID tenantID id =>
    exact Keeps.bind (keeps_withinTx hT fun _ _ => keeps_query _) fun _ => keeps_pure _
  | getOpenBySource tenantID entityType entityID =>
    refine Keeps.bind ?_ fun _ => keeps_pure _
    unfold WorkItem.getOpenBySource
    split
    · exact keeps_ofExcept _
    · exact keeps_withinTx hT fun _ _ => keeps_query _
  | listPage tenantID filter cursor pageSize =>
    exact Keeps.bind (Keeps.bind (keeps_ofExcept _) fun _ =>
        Keeps.bind (keeps_withinTx hT fun _ _ => keeps_query _) fun _ => keeps_ofExcept _)
      fun _ => keeps_pure _
  | deleteByID tenantID id =>
    exact Keeps.bind (keeps_withinTx hT fun _ hs => keeps_deleteOnTx hs id)
      fun _ => keeps_pure _

end Others

section NotFound

variable {T i : UUID} {id : String} {s : Store codec} {tx : Tx}

theorem load_notFound (hs : Bound codec T tx)
    (hp : codec.parse id = some i) (hid : ∀ row ∈ s.workItems, row.tenantID = T → row.id ≠ i) :
    (loadWorkItem tx id).run s = (.error ⟨errNotFound, ""⟩, s) := by
  have hnone : (s.workItems.rows.filter fun r => decide (r.tenantID = T) && liveID i r) = [] := by
    refine List.filter_eq_nil_iff.mpr fun row hrow h => ?_
    rw [Bool.and_eq_true, decide_eq_true_iff] at h
    unfold liveID at h
    rw [Bool.and_eq_true, decide_eq_true_iff] at h
    exact hid row hrow h.1 h.2.1
  unfold loadWorkItem
  rw [query_apply]
  have hl : parseID codec "id" id = .ok i := by
    unfold parseID
    rw [UuidCodec.parseOr_ok hp]
  rw [hl]
  dsimp only [bind, Except.bind]
  rw [select_confined hs, hnone]

theorem withinTx_error {α : Type} {tenantID : String} (hT : codec.input tenantID = some T)
    (conn : Conn) {fn : Tx → Repo codec α} {e : Err}
    (h : ∀ tx : Tx, Bound codec T tx →
    (fn tx).run s = (.error e, s)) : (Pg.withinTx conn tenantID fn).run s = (.error e, s) := by
  rw [Pg.withinTx_eq (UuidCodec.ne_empty hT)]
  exact atomic_error (h _ (bound_tx hT conn))

theorem Operation.notFound {op : Operation} (hT : codec.input op.tenantID = some T) (conn : Conn)
    (ht : op.target = some id) (hp : codec.parse id = some i)
    (hid : ∀ row ∈ s.workItems, row.tenantID = T → row.id ≠ i) :
    (op.call conn).run s = (.error ⟨errNotFound, ""⟩, s) := by
  cases op with
  | add w => exact absurd ht (by simp [target])
  | getOpenBySource tenantID entityType entityID => exact absurd ht (by simp [target])
  | listPage tenantID filter cursor pageSize => exact absurd ht (by simp [target])
  | updateByID tenantID id' updateFn =>
    obtain rfl : id' = id := Option.some.inj ht
    exact bind_error (withinTx_error hT conn fun tx hs =>
      bind_error (load_notFound hs hp hid))
  | getByID tenantID id' =>
    obtain rfl : id' = id := Option.some.inj ht
    exact bind_error (withinTx_error hT conn fun tx hs => load_notFound hs hp hid)
  | deleteByID tenantID id' =>
    obtain rfl : id' = id := Option.some.inj ht
    refine bind_error (withinTx_error hT conn fun tx hs => ?_)
    have hl : (ofExcept (parseID codec "id" id') : Repo codec UUID).run s = (.ok i, s) := by
      unfold parseID
      rw [UuidCodec.parseOr_ok hp]
      rfl
    exact (bind_ok hl).trans (bind_error (load_notFound hs hp hid))

end NotFound

theorem operation_isolated {op : Operation} {T : UUID} (hT : codec.input op.tenantID = some T)
    (conn₁ conn₂ : Conn) {s₁ s₂ : Store codec}
    (hs : Agree Row.tenantID T s₁.workItems s₂.workItems) : let r₁ := (op.call conn₁).run s₁
    let r₂ := (op.call conn₂).run s₂
    r₁.1 = r₂.1 ∧ Agree Row.tenantID T r₁.2.workItems r₂.2.workItems ∧
      Others T s₁.workItems r₁.2 ∧ Others T s₂.workItems r₂.2 ∧
      (∃ ms, r₁.2.outbox = s₁.outbox ++ ms ∧ r₂.2.outbox = s₂.outbox ++ ms) ∧
      ∀ id i, op.target = some id → codec.parse id = some i →
        (∀ row ∈ s₁.workItems, row.tenantID = T → row.id ≠ i) →
          r₁ = (.error ⟨errNotFound, ""⟩, s₁) := by
  intro r₁ r₂
  have hr : Related T s₁.outbox s₂.outbox s₁ s₂ := ⟨hs, [], by simp⟩
  obtain ⟨ha, hag, he⟩ := Operation.respects hT s₁ s₂ hr
  exact ⟨ha, hag, Operation.keeps hT conn₁ s₁ fun _ _ => Iff.rfl,
    Operation.keeps hT conn₂ s₂ fun _ _ => Iff.rfl, he,
    fun id i ht hp hid => Operation.notFound hT conn₁ ht hp hid⟩

def sampleCodec : UuidCodec where
  parse s := if s = "acme" then some 1 else if s = "item-2" then some 4 else none
  string _ := ""
  input s := if s = "acme" then some 1 else none
  input_empty := by decide

def sampleItem (id tenantID : UUID) (title : String) : Row where
  id := id
  tenantID := tenantID
  itype := "manual"
  priority := "medium"
  state := "pending"
  title := title
  assignedTo := some 5
  assignedBy := some 5
  dueAt := 20
  createdAt := 10
  createdBy := some 5

def sampleStore (foreignTitle : String) : Store sampleCodec where
  workItems :=
    { rows := [sampleItem 3 1 "call back", sampleItem 4 2 foreignTitle]
      unique := by simp [clash_iff, UniqueIndex.Clash, pkey, uqTasksSourceOpen, sampleItem] }

theorem operation_isolated_foreign_id :
    ∃ s₁ s₂ : Store sampleCodec, ∃ row ∈ s₁.workItems, row.id = 4 ∧ row ∉ s₂.workItems ∧
    Agree Row.tenantID 1 s₁.workItems s₂.workItems ∧ ((Operation.deleteByID "acme" "item-2").call
    ⟨[[(Pg.gucIsPlatform, "true")]], fun _ _ _ => true⟩).run s₁ =
    (.error ⟨errNotFound, ""⟩, s₁) := by
  have ha : Agree Row.tenantID 1 (sampleStore "visit").workItems
      (sampleStore "invoice").workItems := by
    intro r hr
    show r ∈ [_, _] ↔ r ∈ [_, _]
    have hne : ∀ title, r ≠ sampleItem 4 2 title := by
      rintro title rfl
      have ht : (2 : UUID) = 1 := hr
      exact absurd ht (by decide)
    rw [mem_pair, mem_pair, or_iff_left (hne _), or_iff_left (hne _)]
  have hf : ∀ row ∈ (sampleStore "visit").workItems, row.tenantID = 1 → row.id ≠ 4 := by
    decide
  have hT : sampleCodec.input (Operation.deleteByID "acme" "item-2").tenantID = some 1 := rfl
  have hi := operation_isolated hT
    ⟨[[(Pg.gucIsPlatform, "true")]], fun _ _ _ => true⟩ ⟨[], fun _ _ _ => false⟩ ha
  exact ⟨sampleStore "visit", sampleStore "invoice", sampleItem 4 2 "visit",
    mem_cons_of_mem _ (mem_cons_self ..), rfl,
    by show _ ∉ [_, _]; decide, ha, hi.2.2.2.2.2 "item-2" 4 rfl rfl hf⟩

end Leadkart.WorkItem
