import Leadkart.Common.Pattern
import Leadkart.Inventory.StockLedger
import Leadkart.Logic.Keyset
import Mathlib.Data.BitVec
import Mathlib.Data.Prod.Lex

/-!
# Batches in their rows
-/

namespace Leadkart.Batch

open Effect

/-- The calendar day of an instant, as the instant it starts at. -/
def date (t : Time) : Time := t - t % day

def Columns.stored (c : Columns) : Columns :=
  { c with createdAt := toMicros c.createdAt, updatedAt := toMicros c.updatedAt }

def insert (codec : UuidCodec) (b : Batch) : Option (UUID × Columns) := do
  let id ← codec.parse b.id
  let productID ← codec.parse b.productID
  let tenantID ← codec.parse b.tenantID
  let c ← b.insertParams productID tenantID
  if c.Valid then some (id, c.stored) else none

def onDates (b : Batch) : Batch :=
  { b with
    manufactureDate := date b.manufactureDate
    expiryDate := date b.expiryDate
    events := [] }

def StoredAsIs (codec : UuidCodec) (b : Batch) : Prop :=
  ∃ id c, insert codec b = some (id, c) ∧ rowToBatch codec id c = b.onDates

def Spelled (codec : UuidCodec) (raw : String) : Prop :=
  ∃ u, codec.parse raw = some u ∧ codec.string u = raw

section Insert

variable {codec : UuidCodec} {id productID tenantID actorID : String} {spec : Spec} {now : Time}
  {b : Batch}

structure Checked (spec : Spec) : Prop where
  batchNumber : 1 ≤ (trimSpace spec.batchNumber).length ∧ (trimSpace spec.batchNumber).length ≤ 100
  manufacturerName :
    1 ≤ (trimSpace spec.manufacturerName).length ∧ (trimSpace spec.manufacturerName).length ≤ 200
  manufacturingLicenceNumber : 1 ≤ (trimSpace spec.manufacturingLicenceNumber).length ∧
    (trimSpace spec.manufacturingLicenceNumber).length ≤ 100
  mrpPaise : 0 ≤ spec.mrpPaise
  purchasePricePaise : 0 ≤ spec.purchasePricePaise
  manufactureDate : spec.manufactureDate.isZero = false
  expiryDate : spec.expiryDate.isZero = false

theorem checkSpec_eq_ok (h : checkSpec spec = .ok ()) : Checked spec := by
  unfold checkSpec at h
  simp only [ite_error_eq_ok] at h
  obtain ⟨hbn, hb, hman, hm, hml, hmn, hmr, hp, hma, he, h⟩ := h
  exact
    { batchNumber := length_bounds hbn (Nat.not_lt.mp (not_or.mp hb).2)
      manufacturerName := length_bounds hman (Nat.not_lt.mp hm)
      manufacturingLicenceNumber := length_bounds hml (Nat.not_lt.mp hmn)
      mrpPaise := Int64.not_lt.mp hmr
      purchasePricePaise := Int64.not_lt.mp hp
      manufactureDate := Bool.eq_false_of_not_eq_true hma
      expiryDate := Bool.eq_false_of_not_eq_true he }

end Insert

end Leadkart.Batch

/-! ## First expired, first out -/

namespace Leadkart.StockLedger

abbrev BatchEntry := Sigma fun _ : UUID => Batch.Row

section Fefo

variable (codec : UuidCodec) (productID : UUID) (today : Option Time)

def fefoHolds (b : BatchEntry) : Bool :=
  b.2.1.productID = productID && !b.2.1.isDeleted && 0 < b.2.1.quantityOnHand &&
    -- an instant that is the zero time makes the parameter NULL, and the comparison with it
    today.any fun d => d < b.2.1.expiryDate

def fefoBefore (a b : BatchEntry) : Bool :=
  a.2.1.expiryDate < b.2.1.expiryDate || (a.2.1.expiryDate = b.2.1.expiryDate && a.1 ≤ b.1)

def hydrate (b : BatchEntry) : Batch := Batch.rowToBatch codec b.1 b.2.1

def listFefoForProduct (plan : Planner BatchEntry) (history : List (List (String × String)))
    (tenantID productID : String) (now : Time) (db : Db) : Except Err (List Batch) := do
  let pid ← codec.parseOr "batch repo: parse product id: " productID
  let settings ← Pg.setTenantOnTxExplicit (Settings.residue history) tenantID
  let holds := fefoHolds pid (Batch.pgDate now)
  let rows ← (scan (fun b => App.ownOrPlatform codec b.2.1.tenantID settings)
    (plan db.batches.entries holds) holds db.batches.entries).mapError
      (Pg.wrapped "batch repo: list fefo: ")
  return (rows.mergeSort fefoBefore).map (hydrate codec)

def IsFefo (db : Db) (now : Time) (out : List Batch) : Prop :=
  ∃ rows : List BatchEntry, out = rows.map (hydrate codec) ∧
    rows.Pairwise (fun a b => a.2.1.expiryDate < b.2.1.expiryDate ∨
      a.2.1.expiryDate = b.2.1.expiryDate ∧ a.1 < b.1) ∧
    ∀ b, b ∈ rows ↔ b ∈ db.batches.entries ∧ b.2.1.productID = productID ∧
      b.2.1.isDeleted = false ∧ 0 < b.2.1.quantityOnHand ∧
      (hydrate codec b).isExpired now = false

structure OfProduct (db : Db) (tenantID : UUID) : Prop where
  tenant : ∀ b ∈ db.batches.entries, b.2.1.productID = productID → b.2.1.tenantID = tenantID
  days : ∀ b ∈ db.batches.entries, b.2.1.expiryDate % day = 0

end Fefo

section

variable {codec : UuidCodec} {plan : Planner BatchEntry} {history : List (List (String × String))}
  {tenantID productID : String} {pid T : UUID} {now : Time} {db : Db}

theorem date_lt_iff {expiry : Int} (h : expiry % day = 0) (now : Int) :
    now - now % day < expiry ↔ now < expiry := by
  unfold day at h ⊢
  omega

def fefoKey (b : BatchEntry) : (Int ×ₗ Nat)ᵒᵈ :=
  OrderDual.toDual (toLex ((b.2.1.expiryDate : Int), b.1.toNat))

theorem fefoBefore_iff (a b : BatchEntry) : fefoBefore a b = true ↔ fefoKey b ≤ fefoKey a := by
  unfold fefoKey fefoBefore
  rw [OrderDual.toDual_le_toDual, Prod.Lex.toLex_le_toLex, Bool.or_eq_true, Bool.and_eq_true]
  simp only [decide_eq_true_iff]
  exact Iff.rfl

theorem nodup_fefoKey {rows : List BatchEntry} (h : rows.Sublist db.batches.entries) :
    (rows.map fefoKey).Nodup := by
  have hk : (rows.map Sigma.fst).Nodup := db.batches.nodupKeys.sublist h
  refine List.pairwise_map.mpr ((List.pairwise_map.mp hk).imp fun hne heq => hne ?_)
  exact BitVec.eq_of_toNat_eq (congrArg (fun k => (ofLex (OrderDual.ofDual k)).2) heq)

theorem listFefoForProduct_eq (hp : codec.parse productID = some pid)
    (hT : codec.input tenantID = some T) (h : OfProduct pid db T) :
    listFefoForProduct codec plan history tenantID productID now db =
    .ok (((db.batches.entries.filter (fefoHolds pid (Batch.pgDate now))).mergeSort
    fefoBefore).map (hydrate codec)) := by
  have hs (fed cond : BatchEntry → Bool) := SqlRelation.scan_ok fun b
      (_ : b ∈ db.batches.entries) (_ : (fed b || cond b) = true) =>
    App.ownOrPlatform_bound hT history b.2.1.tenantID
  have ho : (db.batches.entries.filter fun b =>
      decide (b.2.1.tenantID = T) && fefoHolds pid (Batch.pgDate now) b) =
      db.batches.entries.filter (fefoHolds pid (Batch.pgDate now)) := by
    refine List.filter_congr fun b hb => Bool.and_eq_right_iff_imp.mpr fun hh => ?_
    simp only [fefoHolds, Bool.and_eq_true, decide_eq_true_iff] at hh
    exact decide_eq_true (h.tenant b hb hh.1.1.1)
  unfold listFefoForProduct Pg.setTenantOnTxExplicit
  rw [UuidCodec.parseOr_ok hp, if_neg (UuidCodec.ne_empty hT)]
  simp only [bind, Except.bind, hs, ho]
  rfl

theorem isFefo_listing (h : OfProduct pid db T) (hn : now.isZero = false) :
    IsFefo codec pid db now (((db.batches.entries.filter
    (fefoHolds pid (Batch.pgDate now))).mergeSort fefoBefore).map (hydrate codec)) := by
  refine ⟨_, rfl, ?_, fun b => ?_⟩
  · refine (Keyset.descending_mergeSort fefoBefore_iff
      (nodup_fefoKey List.filter_sublist)).imp fun {a b} hlt => ?_
    unfold fefoKey at hlt
    rwa [OrderDual.toDual_lt_toDual, Prod.Lex.toLex_lt_toLex] at hlt
  · rw [List.mem_mergeSort, List.mem_filter]
    refine and_congr_right fun hb => ?_
    have hd : Batch.pgDate now = some (now - now % day) := by simp [Batch.pgDate, hn]
    have he : (hydrate codec b).isExpired now = false ↔ now - now % day < b.2.1.expiryDate := by
      rw [date_lt_iff (h.days b hb)]
      simp only [Batch.isExpired, hydrate, Batch.rowToBatch, Time.after, Bool.not_eq_false']
      exact decide_eq_true_iff
    rw [he]
    simp [fefoHolds, hd, and_assoc]

theorem applyMovement_ne_expired {b : Batch} (h : b.isExpired now = false) {m : String}
    {q : Int64} {e : Err} (he : b.applyMovement m q now = .error e) :
    e.sentinel ≠ Batch.errExpired := by
  have hd : Batch.errDeleted ≠ Batch.errExpired := by decide
  have hi : Batch.errInvalid ≠ Batch.errExpired := by decide
  have hs : Batch.errInsufficientStock ≠ Batch.errExpired := by decide
  unfold Batch.applyMovement at he
  split at he
  · cases he
    exact hd
  split at he
  · cases he
    exact hi
  next t _ =>
    cases hn : b.quantityAfter q now t with
    | ok next =>
      rw [hn] at he
      cases he
    | error e' =>
      obtain rfl : e' = e := by simpa [hn, bind, Except.bind] using he
      unfold Batch.quantityAfter at hn
      cases t <;> grind

theorem listFefoForProduct_exact (hpid : codec.parse productID = some pid)
    (hT : codec.input tenantID = some T) (h : OfProduct pid db T) :
    ∃ out, listFefoForProduct codec plan history tenantID productID now db = .ok out ∧
    (now.isZero = false → IsFefo codec pid db now out ∧
    ∀ b ∈ out, ∀ movement quantity e, b.applyMovement movement quantity now = .error e →
    e.sentinel ≠ Batch.errExpired) ∧ (now.isZero = true → out = []) := by
  refine ⟨_, listFefoForProduct_eq hpid hT h, fun hnow => ⟨isFefo_listing h hnow, ?_⟩, fun hz => ?_⟩
  · intro b hb movement quantity e
    obtain ⟨rows, hr, -, hm⟩ : IsFefo codec pid db now _ := isFefo_listing h hnow
    rw [hr] at hb
    obtain ⟨entry, he, rfl⟩ := List.mem_map.mp hb
    exact applyMovement_ne_expired ((hm entry).mp he).2.2.2.2
  · have hd : Batch.pgDate now = none := by simp [Batch.pgDate, hz]
    have hn : db.batches.entries.filter (fefoHolds pid none) = [] :=
      List.filter_eq_nil_iff.mpr (by simp [fefoHolds])
    rw [hd, hn, List.mergeSort_nil, List.map_nil]

end

def shelfRow : Batch.Row where
  val :=
    { productID := 0, tenantID := 0, batchNumber := "B1", manufactureDate := day
      expiryDate := 3 * day, manufacturerName := "M", manufacturingLicenceNumber := "L"
      mrpPaise := 100, purchasePricePaise := 50, quantityOnHand := 5, version := 1
      createdAt := day, updatedAt := day }
  property := by decide

def laterRow : Batch.Row where
  val := { shelfRow.1 with batchNumber := "B2", expiryDate := 4 * day }
  property := by decide

def fefoShelf : Db where
  products := ∅
  batches := (AList.singleton 3 shelfRow).insert 4 laterRow
  movements := []
  outbox := []

theorem ofProduct_shelf : OfProduct 0 fefoShelf 0 := by
  constructor <;> decide +kernel

theorem listFefoForProduct_shelf :
    ∃ out, listFefoForProduct unaryCodec (fun _ _ _ => false) [] "x" "x" day fefoShelf = .ok out ∧
    IsFefo unaryCodec 0 fefoShelf day out := by
  have hp : unaryCodec.parse "x" = some 0 := rfl
  have hT : unaryCodec.input "x" = some 0 := rfl
  obtain ⟨out, ho, hf, -⟩ := listFefoForProduct_exact hp hT ofProduct_shelf
  exact ⟨out, ho, (hf (by decide)).1⟩

theorem fefo_empty_at_zero : ¬ ∀ now : Time, ∃ out,
    listFefoForProduct unaryCodec (fun _ _ _ => false) [] "x" "x" now fefoShelf = .ok out ∧
    IsFefo unaryCodec 0 fefoShelf now out := by
  intro h
  obtain ⟨out, ho, rows, hr, -, hm⟩ := h 0
  rw [listFefoForProduct_eq rfl rfl ofProduct_shelf] at ho
  have he : out = [] := by
    rw [← Except.ok.inj ho]
    decide +kernel
  have hl := (hm ⟨3, shelfRow⟩).mpr (by decide +kernel)
  rw [he, eq_comm, List.map_eq_nil_iff] at hr
  rw [hr] at hl
  cases hl

end Leadkart.StockLedger
