import Leadkart.Inventory.Reconciliation

/-!
# Stock of deleted products
-/

namespace Leadkart.StockLedger

open Option Machine Transaction Transactions

def Db.productDeleted (db : Db) (pid : UUID) : Bool :=
  (db.product pid).any fun row => row.1.isDeleted

def Orphaned (db : Db) : Prop :=
  ∃ bid row, db.batch bid = some row ∧ row.1.isDeleted = false ∧ 0 < row.1.quantityOnHand ∧
    db.productDeleted row.1.productID = true

def AddsToDeleted (s t : Db) : Prop :=
  ∃ bid row, s.batch bid = none ∧ t.batch bid = some row ∧
    s.productDeleted row.1.productID = true

def Execution.guard (codec : UuidCodec) (db : Db) : Execution → Bool
  | create _ _ _ _ => true
  | delete _ cmd => (codec.parse cmd.productID).all fun pid => (db.inStock pid).isEmpty
  | add _ cmd => (codec.parse cmd.productID).all fun pid => !db.productDeleted pid
  | log _ cmd => (codec.parse cmd.batchID).all fun bid => (db.batch bid).all fun row =>
      !(db.productDeleted row.1.productID &&
        (MovementType.parse cmd.movementType).any MovementType.raises)

abbrev Guarded {ι : Type} (codec : UuidCodec) (exec : ι → Execution) :
    State ι Key Db Err Result → Label ι Err → Prop :=
  CommitsOn fun i db => (exec i).guard codec db = true

section

variable {codec : UuidCodec} {s t : Db}

theorem mem_inStock {bid : UUID} {row : Batch.Row} (hrow : s.batch bid = some row)
    (hl : row.1.isDeleted = false) (hs : 0 < row.1.quantityOnHand) :
    row ∈ s.inStock row.1.productID := by
  have he : (⟨bid, row⟩ : Sigma fun _ : UUID => Batch.Row) ∈ s.batches.entries :=
    AList.mem_lookup_iff.mp hrow
  refine List.mem_filter.mpr ⟨List.mem_map_of_mem (f := Sigma.snd) he, ?_⟩
  simp [hl, hs]

variable {D : UUID → Prop}

theorem Shelved.productDeleted (h : Shelved D s t) {pid : UUID}
    (hd : t.productDeleted pid = true) : D pid ∨ s.productDeleted pid = true := by
  obtain ⟨row, hrow, hf⟩ := (any_eq_true ..).mp hd
  rcases h.deleted pid row hrow hf with hD | ⟨row', hrow', hf'⟩
  · exact .inl hD
  · exact .inr ((any_eq_true ..).mpr ⟨row', hrow', hf'⟩)

theorem orphaned_of_shelved (h : Shelved D s t)
    (hg : ∀ pid, D pid → (s.inStock pid).isEmpty = true) : Orphaned t → Orphaned s := by
  rintro ⟨bid, row, hrow, hl, hs, hd⟩
  have hrow : s.batch bid = some row := by
    unfold Db.batch at hrow ⊢
    rwa [h.batches] at hrow
  rcases h.productDeleted hd with hD | hd
  · have hm := mem_inStock hrow hl hs
    rw [List.isEmpty_iff.mp (hg _ hD)] at hm
    cases hm
  · exact ⟨bid, row, hrow, hl, hs, hd⟩

theorem orphaned_of_added {cmd : AddBatchCommand} (h : Added codec cmd s t) :
    Orphaned t → Orphaned s := by
  obtain ⟨bid', row', message, -, -, hq, -, rfl⟩ := h
  rintro ⟨bid, row, hrow, hl, hs, hd⟩
  by_cases heq : bid = bid'
  · subst heq
    obtain rfl := Option.some.inj (s.batch_setBatch_self.symm.trans hrow)
    rw [hq] at hs
    cases hs
  · exact ⟨bid, row, (s.batch_setBatch_of_ne heq).symm.trans hrow, hl, hs, hd⟩

theorem orphaned_of_logged {cmd : LogStockMovementCommand} {bid' : UUID} {found left : Batch.Row}
    {m : StockMovement.Row} (h : Logged codec cmd s t bid' found left m) (hm : Moved cmd found left)
    (hg : (s.productDeleted found.1.productID &&
    (MovementType.parse cmd.movementType).any MovementType.raises) = false) :
    Orphaned t → Orphaned s := by
  obtain ⟨message, rfl⟩ := h.store
  rintro ⟨bid, row, hrow, hl, hs, hd⟩
  by_cases heq : bid = bid'
  · subst heq
    obtain rfl := Option.some.inj (s.batch_setBatch_self.symm.trans hrow)
    have hd : s.productDeleted found.1.productID = true := hm.productID ▸ hd
    obtain ⟨type, ht, hq, ho⟩ := hm.onHand
    have hr : type.raises = false := by
      rwa [hd, Bool.true_and, ht] at hg
    have hde := MovementType.delta_nonpos hr (Int.le_of_lt (Int64.lt_iff_toInt_lt.mp hq))
    have hs := Int64.lt_iff_toInt_lt.mp hs
    refine ⟨bid, found, h.found, hm.isDeleted.symm.trans hl, ?_, hd⟩
    exact Int64.lt_iff_toInt_lt.mpr (by omega)
  · exact ⟨bid, row, (s.batch_setBatch_of_ne heq).symm.trans hrow, hl, hs, hd⟩

variable {e : Execution} {r : Result}

theorem orphaned_of_commit (hp : e.Post codec r s t) (hg : e.guard codec s = true) :
    Orphaned t → Orphaned s := by
  cases e with
  | create toUpper defaults env cmd => exact orphaned_of_shelved hp fun _ h => h.elim
  | delete env cmd =>
    refine orphaned_of_shelved hp fun pid hpi => ?_
    rwa [Execution.guard, hpi, all_some] at hg
  | add env cmd => exact orphaned_of_added hp
  | log env cmd =>
    obtain ⟨bid, row, row', m, hl, hm⟩ := hp
    rw [Execution.guard, hl.batchID, all_some, hl.found, all_some] at hg
    exact orphaned_of_logged hl hm (Bool.eq_false_of_not_eq_true' hg)

theorem not_addsToDeleted (hp : e.Post codec r s t) (hg : e.guard codec s = true) :
    ¬AddsToDeleted s t := by
  rintro ⟨bid, row, hnone, hrow, hd⟩
  have hs {D : UUID → Prop} (h : Shelved D s t) : False := by
    unfold Db.batch at hrow hnone
    rw [h.batches, hnone] at hrow
    cases hrow
  cases e with
  | create toUpper defaults env cmd => exact hs hp
  | delete env cmd => exact hs hp
  | add env cmd =>
    obtain ⟨bid', row', message, hpr, -, -, -, rfl⟩ := hp
    by_cases heq : bid = bid'
    · subst heq
      obtain rfl := Option.some.inj (s.batch_setBatch_self.symm.trans hrow)
      rw [Execution.guard, hpr, all_some, hd] at hg
      cases hg
    · exact nomatch hnone.symm.trans ((s.batch_setBatch_of_ne heq).symm.trans hrow)
  | log env cmd =>
    obtain ⟨bid', found, left, m, hl, -⟩ := hp
    obtain ⟨message, rfl⟩ := hl.store
    have hne : bid ≠ bid' := by
      rintro rfl
      exact nomatch hnone.symm.trans hl.found
    exact nomatch hnone.symm.trans ((s.batch_setBatch_of_ne hne).symm.trans hrow)

end

/-- Where each commit still finds what it checked, no deleted product has stock. -/
theorem no_orphaned_stock {codec : UuidCodec} {ι : Type} [DecidableEq ι] (hcodec : codec.Lawful)
    (exec : ι → Execution) {s : Db} (h0 : ¬Orphaned s) {ls : List (Label ι Err)}
    {st : State ι Key Db Err Result}
    (hC : Along (step fun i => (exec i).client codec) (Guarded codec exec)
    (init (fun i => (exec i).client codec) s) ls)
    (hr : run (step fun i => (exec i).client codec) (init (fun i => (exec i).client codec) s) ls =
    some st) : ¬Orphaned st.store ∧ ∀ l st', Guarded codec exec st l →
    step (fun i => (exec i).client codec) st l = some st' → ¬AddsToDeleted st.store st'.store := by
  have hc : ∀ i n, Meets discipline (((exec i).client codec).attempt n)
      ((exec i).Post codec) := fun i n => meets_client hcodec (exec i) n
  constructor
  · exact run_rule_on hc trivial (P := fun db => ¬Orphaned db) h0
      (fun _ _ _ _ hP hK hp => fun ho => hP (orphaned_of_commit hp hK ho)) hC hr
  · intro l st' hK hs
    rcases step_commit hc trivial hr hs with ⟨i, r, rfl, he, hp⟩ | hst
    · exact not_addsToDeleted hp (hK he)
    · rw [hst]
      rintro ⟨bid, row, hnone, hrow, -⟩
      cases hnone.symm.trans hrow

def deletes : Execution :=
  .delete (sampleEnv 6)
    { tenantID := unaryCodec.string 1
      productID := unaryCodec.string 2
      actorMembershipID := unaryCodec.string 5 }

def shelf : Fin 3 → Execution
  | 0 => adds
  | 1 => logs 4 .inbound
  | 2 => deletes

def steps (n : Nat) (i : Fin 3) : List (Label (Fin 3) Err) := List.replicate n (.step i)

def shelfStore : Db where
  products := AList.singleton 2 sampleProduct
  batches := AList.singleton 3
    { val :=
        { productID := 2, tenantID := 1, batchNumber := "B-1", manufactureDate := day
          expiryDate := 3 * day, manufacturerName := "Acme", manufacturingLicenceNumber := "25"
          mrpPaise := 100, purchasePricePaise := 80, quantityOnHand := 0, version := 0
          createdAt := day + 5, updatedAt := day + 5 }
      property := by decide }
  movements := []
  outbox := []

def inOrder : List (Label (Fin 3) Err) := steps 6 1 ++ steps 3 2

def deletedWhileEmpty : List (Label (Fin 3) Err) := steps 6 2 ++ steps 5 1

theorem no_orphaned_stock_in_order : ∃ st, run (step fun i => (shelf i).client unaryCodec)
    (init (fun i => (shelf i).client unaryCodec) shelfStore) inOrder = some st ∧
    ¬Orphaned st.store ∧ (st.store.inStock 2).isEmpty = false := by
  have hC : Along (step fun i => (shelf i).client unaryCodec) (Guarded unaryCodec shelf)
      (init (fun i => (shelf i).client unaryCodec) shelfStore) inOrder := by decide +kernel
  have h0 : ¬Orphaned shelfStore := by
    rintro ⟨bid, row, -, -, -, hd⟩
    obtain ⟨p, hp, hf⟩ := (any_eq_true ..).mp hd
    have hp : ⟨row.1.productID, p⟩ ∈ shelfStore.products.entries := AList.mem_lookup_iff.mp hp
    obtain ⟨-, rfl⟩ : row.1.productID = 2 ∧ p = sampleProduct := by
      simpa [shelfStore] using hp
    cases hf
  exact exists_some (P := fun st => (st.store.inStock 2).isEmpty = false) (by decide +kernel)
    fun st hr hs => ⟨(no_orphaned_stock unaryCodec_lawful shelf h0 hC hr).1, hs⟩

theorem stock_orphaned : ∃ st st', run (step fun i => (shelf i).client unaryCodec)
    (init (fun i => (shelf i).client unaryCodec) shelfStore) deletedWhileEmpty = some st ∧
    step (fun i => (shelf i).client unaryCodec) st (.step 1) = some st' ∧
    Orphaned st'.store ∧ (shelf 1).guard unaryCodec st.store = false := by
  refine exists_some₂ (P := fun st st' => (shelf 1).guard unaryCodec st.store = false ∧
    (st'.store.batch 3).any fun row => !row.1.isDeleted && 0 < row.1.quantityOnHand &&
      st'.store.productDeleted row.1.productID)
    (by decide +kernel) fun st st' _ _ ⟨hg, hl⟩ => ?_
  obtain ⟨row, hrow, hl⟩ := (any_eq_true ..).mp hl
  refine ⟨⟨3, row, hrow, ?_⟩, hg⟩
  simpa [and_assoc] using hl

end Leadkart.StockLedger
