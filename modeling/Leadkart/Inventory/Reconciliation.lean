import Mathlib.Algebra.Ring.Int.Defs
import Leadkart.Inventory.StockCommits

/-!
# Reconciliation of the stock ledger
-/

namespace Leadkart.StockLedger

open List Machine Transaction Transactions

def onHand (ms : List StockMovement.Row) : Int := (ms.map StockMovement.Row.moved).sum

theorem onHand_concat (ms : List StockMovement.Row) (m : StockMovement.Row) :
    onHand (ms ++ [m]) = onHand ms + m.moved := by
  unfold onHand
  rw [map_append, sum_append, map_singleton, sum_singleton]

structure Reconciled (bid : UUID) (db : Db) : Prop where
  unknown : db.batch bid = none → db.movementsOf bid = []
  total (row : Batch.Row) : db.batch bid = some row →
    row.1.quantityOnHand.toInt = onHand (db.movementsOf bid) ∧ 0 ≤ row.1.quantityOnHand.toInt
  counted (row : Batch.Row) : db.batch bid = some row →
    row.1.version = Int64.ofNat (db.movementsOf bid).length
  recorded (k : Nat) (m : StockMovement.Row) : (db.movementsOf bid)[k]? = some m →
    m.1.quantityOnHandAfter.toInt = onHand ((db.movementsOf bid).take (k + 1))

section

variable {codec : UuidCodec} {s t : Db} {bid : UUID}

theorem reconciled_unknown (hn : s.batch bid = none) (hnone : s.movementsOf bid = []) :
    Reconciled bid s where
  unknown _ := hnone
  total row hrow := nomatch hn.symm.trans hrow
  counted row hrow := nomatch hn.symm.trans hrow
  recorded k m hm := by
    rw [hnone] at hm
    cases hm

theorem Reconciled.congr (h : Reconciled bid s) (hb : t.batch bid = s.batch bid)
    (hm : t.movementsOf bid = s.movementsOf bid) : Reconciled bid t := by
  obtain ⟨hu, ht, hc, hr⟩ := h
  refine ⟨?_, ?_, ?_, ?_⟩ <;> rw [hm]
  · rwa [hb]
  · rwa [hb]
  · rwa [hb]
  · exact hr

theorem Reconciled.shelved {D : UUID → Prop} (h : Reconciled bid s) (hs : Shelved D s t) :
    Reconciled bid t := by
  refine h.congr ?_ ?_
  · unfold Db.batch
    rw [hs.batches]
  · unfold Db.movementsOf
    rw [hs.movements]

theorem Reconciled.added {cmd : AddBatchCommand} (h : Reconciled bid s)
    (ha : Added codec cmd s t) : Reconciled bid t := by
  obtain ⟨bid', row, message, -, hnone, hq, hv, rfl⟩ := ha
  by_cases heq : bid' = bid
  · subst heq
    have hs : ((s.setBatch bid' row).publish [message]).batch bid' = some row :=
      s.batch_setBatch_self
    have he : ((s.setBatch bid' row).publish [message]).movementsOf bid' = [] := h.unknown hnone
    refine ⟨fun _ => he, ?_, ?_, ?_⟩ <;> rw [he]
    · intro row' hrow'
      cases hs.symm.trans hrow'
      rw [hq]
      exact ⟨rfl, Int.le_refl _⟩
    · intro row' hrow'
      cases hs.symm.trans hrow'
      exact hv
    · intro k m hm
      cases hm
  · exact h.congr (s.batch_setBatch_of_ne (Ne.symm heq)) rfl

theorem Reconciled.logged {cmd : LogStockMovementCommand} {bid' : UUID} {row row' : Batch.Row}
    {m : StockMovement.Row} (h : Reconciled bid s)
    (hl : Logged codec cmd s t bid' row row' m) : Reconciled bid t := by
  obtain ⟨message, rfl⟩ := hl.store
  by_cases heq : bid' = bid
  · subst heq
    have hs : (((s.setBatch bid' row').addMovement m).publish [message]).batch bid' =
        some row' := s.batch_setBatch_self
    have ha : (((s.setBatch bid' row').addMovement m).publish [message]).movementsOf bid' =
        s.movementsOf bid' ++ [m] := by
      show (s.movements ++ [m]).filter _ = _
      rw [filter_append, filter_singleton, hl.ofBatch]
      simp [Db.movementsOf]
    have hn : row'.1.quantityOnHand.toInt = onHand (s.movementsOf bid' ++ [m]) := by
      rw [hl.onHand, (h.total row hl.found).1, onHand_concat]
    refine ⟨?_, ?_, ?_, ?_⟩
    · intro hnone
      cases hs.symm.trans hnone
    · intro stored hrow
      cases hs.symm.trans hrow
      rw [ha]
      exact ⟨hn, Int64.le_iff_toInt_le.mp row'.2.quantityOnHand⟩
    · intro stored hrow
      cases hs.symm.trans hrow
      rw [ha, hl.version, h.counted row hl.found, length_append, length_singleton, Int64.ofNat_add]
      rfl
    · rw [ha]
      intro k line hli
      rcases Nat.lt_trichotomy k (s.movementsOf bid').length with hlt | hk | hgt
      · rw [getElem?_append_left hlt] at hli
        rw [take_append_of_le_length (Nat.succ_le_of_lt hlt)]
        exact h.recorded k line hli
      · -- the line that is new
        subst hk
        rw [getElem?_concat_length] at hli
        cases hli
        rw [take_of_length_le (by simp), hl.after]
        exact hn
      · have ho : (s.movementsOf bid' ++ [m]).length ≤ k := by
          rw [length_append, length_singleton]
          omega
        rw [getElem?_eq_none ho] at hli
        cases hli
  · refine h.congr (s.batch_setBatch_of_ne (Ne.symm heq)) ?_
    show (s.movements ++ [m]).filter _ = _
    rw [filter_append, filter_singleton, hl.ofBatch]
    simp [Db.movementsOf, heq]

theorem Reconciled.commit {e : Execution} {r : Result} (h : Reconciled bid s)
    (hp : e.Post codec r s t) : Reconciled bid t := by
  cases e with
  | create toUpper defaults env cmd => exact h.shelved hp
  | delete env cmd => exact h.shelved hp
  | add env cmd => exact h.added hp
  | log env cmd =>
    obtain ⟨bid', row, row', m, hl, -⟩ := hp
    exact h.logged hl

theorem stock_reconciled {ι : Type} [DecidableEq ι] (hcodec : codec.Lawful) (exec : ι → Execution)
    (hnew : s.batch bid = none) (hnone : s.movementsOf bid = []) {ls : List (Label ι Err)}
    {st : State ι Key Db Err Result}
    (hr : run (step fun i => (exec i).client codec) (init (fun i => (exec i).client codec) s) ls =
    some st) : Reconciled bid st.store ∧ ∀ l st' env cmd, exec l.who = .log env cmd →
    step (fun i => (exec i).client codec) st l = some st' →
    (∃ r bid row row' m, st'.phase l.who = .returned (.ok r) ∧
    Logged codec cmd st.store st'.store bid row row' m) ∨
    (st'.store = st.store ∧ ∀ r, st'.phase l.who ≠ .returned (.ok r)) := by
  have hc : ∀ i n, Meets discipline (((exec i).client codec).attempt n)
      ((exec i).Post codec) := fun i n => meets_client hcodec (exec i) n
  constructor
  · exact run_rule hc trivial (P := fun db _ => Reconciled bid db)
      (reconciled_unknown hnew hnone) (fun _ _ _ _ _ _ h hp => h.commit hp) hr
  · intro l st' env cmd he hs
    rcases step_effect hc trivial hr hs with ⟨r, hph, hp⟩ | hk
    · rw [he] at hp
      obtain ⟨bid', row, row', m, hl, -⟩ := hp
      exact .inl ⟨r, bid', row, row', m, hph, hl⟩
    · exact .inr hk

end

def sampleProduct : Product.Row where
  val :=
    { tenantID := 1, sku := "P-1", name := "Paracetamol", dosageForm := "Tablet"
      packSize := "10x10", hsnCode := "3004", gstRateBps := 1200, manufacturer := ""
      isActive := true, createdAt := day, updatedAt := day, reorderLevel := 0
      expiryAlertThresholdDays := 90, productCategory := "General" }
  property := by decide

def sampleStore : Db where
  products := AList.singleton 2 sampleProduct
  batches := ∅
  movements := []
  outbox := []

def sampleEnv (newID : UUID) : Env where
  ctxTenant := some (unaryCodec.string 1)
  now := day + 5
  newID := unaryCodec.string newID

def adds : Execution :=
  .add (sampleEnv 3)
    { tenantID := unaryCodec.string 1
      productID := unaryCodec.string 2
      actorMembershipID := unaryCodec.string 5
      spec :=
        { batchNumber := "B-1", manufactureDate := day, expiryDate := 3 * day
          manufacturerName := "Acme", manufacturingLicenceNumber := "25", mrpPaise := 100
          purchasePricePaise := 80 } }

def logs (movementID : UUID) (movementType : MovementType) : Execution :=
  .log (sampleEnv movementID)
    { tenantID := unaryCodec.string 1
      batchID := unaryCodec.string 3
      actorMembershipID := unaryCodec.string 5
      movementType := movementType.string
      quantity := 5
      reason := "count"
      sourceReference := none }

def addAndLog (movementType : MovementType) : Bool → Execution
  | false => adds
  | true => logs 4 movementType

def oneAfterTheOther : List (Label Bool Err) :=
  replicate 4 (.step false) ++ replicate 6 (.step true)

theorem stock_reconciled_after_inbound :
    ∃ st row, run (step fun i => (addAndLog .inbound i).client unaryCodec)
    (init (fun i => (addAndLog .inbound i).client unaryCodec) sampleStore) oneAfterTheOther =
    some st ∧
    st.store.batch 3 = some row ∧ row.1.quantityOnHand.toInt = onHand (st.store.movementsOf 3) ∧
    onHand (st.store.movementsOf 3) = 5 := by
  refine exists_some₂ (P := fun st _ => onHand (st.store.movementsOf 3) = 5)
    (by decide +kernel) fun st row hr hrow hs => ?_
  have hn : sampleStore.batch 3 = none := rfl
  have hre := (stock_reconciled unaryCodec_lawful (addAndLog .inbound) hn rfl hr).1
  exact ⟨(hre.total row hrow).1, hs⟩

theorem reservation_not_on_hand :
    ∃ st row, run (step fun i => (addAndLog .reservation i).client unaryCodec)
    (init (fun i => (addAndLog .reservation i).client unaryCodec) sampleStore)
    oneAfterTheOther = some st ∧ st.store.batch 3 = some row ∧ row.1.quantityOnHand.toInt = 0 ∧
    ((st.store.movementsOf 3).map fun m => m.1.quantity.toInt).sum = 5 :=
  exists_some₂ (by decide +kernel) fun _ _ _ _ h => h

end Leadkart.StockLedger
