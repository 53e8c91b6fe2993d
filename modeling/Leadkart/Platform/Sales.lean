import Mathlib.Algebra.Ring.Int.Defs
import Leadkart.Platform.MarketplaceRules

/-!
# Sales and credits over every interleaving
-/

namespace Leadkart.Marketplace

open List Function Machine Transaction Transactions

section

variable {codec : UuidCodec} {ι : Type} [DecidableEq ι] {exec : ι → Execution} {s t : Db}
  {tid : UUID} {st : State ι Key Db Err Int64}

theorem meets_client (hc : codec.Lawful) (e : Execution) (n : Nat) :
    Meets discipline ((e.client codec).attempt n) (e.Post codec) := by
  cases e with
  | topup d cmd =>
    show Meets _ (if cmd.delta ≤ 0 then _ else _) _
    split
    · intro s hs
      exact wp_fail trivial
    · exact meets_topup hc cmd (d n)
  | purchase d purchaseID cmd => exact meets_purchase hc cmd purchaseID (d n)

/-! ## The ledger -/

namespace Execution

def tenantID : Execution → String
  | topup _ cmd => cmd.tenantID
  | purchase _ _ cmd => cmd.purchasingTenantID

def toppedUp : Execution → Int
  | topup _ cmd => cmd.delta.toInt
  | purchase .. => 0

def charged : Execution → Int
  | topup .. => 0
  | purchase .. => purchaseChargeCredits.toInt

theorem Post.adjusted {e : Execution} {a : Int64} (h : e.Post codec a s t) :
    ∃ tid row', codec.parse e.tenantID = some tid ∧ Adjusted tid (e.toppedUp - e.charged) s row' ∧
    t.credits = Function.update s.credits tid (some row') := by
  cases e with
  | topup d cmd =>
    obtain ⟨tid, row', message, ht, ha, -, rfl⟩ := h
    refine ⟨tid, row', ht, ?_, rfl⟩
    rw [show (topup d cmd).toppedUp - (topup d cmd).charged = cmd.delta.toInt from Int.sub_zero _]
    exact ha
  | purchase d purchaseID cmd =>
    obtain ⟨p, row', lead, cfg, adjustment, now, -, -, hs, -, ha, rfl⟩ := h
    refine ⟨p.tenantID, row', hs.tenantID, ?_, rfl⟩
    rw [show (purchase d purchaseID cmd).toppedUp - (purchase d purchaseID cmd).charged =
      -purchaseChargeCredits.toInt from Int.zero_sub _]
    exact ha

end Execution

def committed (codec : UuidCodec) (exec : ι → Execution) (tid : UUID) (log : List (ι × Int64)) :
    List Execution := (log.map fun c => exec c.1).filter fun e => codec.parse e.tenantID = some tid

structure Accounts (codec : UuidCodec) (exec : ι → Execution) (tid : UUID) (s : Db) (t : Db)
    (log : List (ι × Int64)) : Prop where
  balance : t.balanceOf tid = s.balanceOf tid +
    ((committed codec exec tid log).map Execution.toppedUp).sum -
      ((committed codec exec tid log).map Execution.charged).sum
  version : t.versionOf tid = s.versionOf tid + (committed codec exec tid log).length

omit [DecidableEq ι] in
theorem Accounts.commit {u : Db} {log : List (ι × Int64)} {i : ι} {a : Int64}
    (h : Accounts codec exec tid s t log) (hp : (exec i).Post codec a t u) :
    Accounts codec exec tid s u ((i, a) :: log) := by
  obtain ⟨tid', row', ht, ha, hcr⟩ := hp.adjusted
  by_cases heq : tid' = tid
  · subst heq
    have hrow : u.credits tid' = some row' := by rw [hcr, update_self]
    have hc : committed codec exec tid' ((i, a) :: log) =
        exec i :: committed codec exec tid' log := filter_cons_of_pos (decide_eq_true ht)
    have hb : u.balanceOf tid' = row'.balance.toInt := by
      unfold Db.balanceOf
      rw [hrow]
    have hv : u.versionOf tid' = row'.version.toInt := by
      unfold Db.versionOf
      rw [hrow]
    constructor
    · rw [hc, hb, ha.balance, h.balance, map_cons, map_cons, sum_cons, sum_cons]
      omega
    · rw [hc, hv, ha.version, h.version, length_cons]
      omega
  · have hrow : u.credits tid = t.credits tid := by
      rw [hcr, update_of_ne (Ne.symm heq)]
    have ho : codec.parse (exec i).tenantID ≠ some tid := by
      rw [ht]
      exact fun hs => heq (Option.some.inj hs)
    have hc : committed codec exec tid ((i, a) :: log) = committed codec exec tid log :=
      filter_cons_of_neg (by simpa using ho)
    constructor
    · rw [hc, Db.balanceOf_congr hrow]
      exact h.balance
    · rw [hc, Db.versionOf_congr hrow]
      exact h.version

theorem ledger_conserved (hcodec : codec.Lawful) (exec : ι → Execution) (hs : Consistent s)
    {row₀ : LeadCredit.Row} {n : Nat} (hrow : s.credits tid = some row₀)
    (hversion : row₀.version.toInt = 1 + n) {ls : List (Label ι Err)}
    (hr : run (step fun i => (exec i).client codec) (init (fun i => (exec i).client codec) s) ls =
    some st) : (∃ row, st.store.credits tid = some row ∧ row.balance.toInt = row₀.balance.toInt +
    ((committed codec exec tid st.log).map Execution.toppedUp).sum -
    ((committed codec exec tid st.log).map Execution.charged).sum ∧ 0 ≤ row.balance.toInt ∧
    row.version.toInt = 1 + (n + (committed codec exec tid st.log).length : Nat)) ∧
    ∀ i e, st.phase i = .returned (.error e) → ∀ a, (i, a) ∉ st.log := by
  have hcl : ∀ i n, Meets discipline (((exec i).client codec).attempt n)
      ((exec i).Post codec) := fun i n => meets_client hcodec (exec i) n
  have ha : Accounts codec exec tid s st.store st.log :=
    run_rule hcl hs (P := Accounts codec exec tid s) ⟨by simp [committed], by simp [committed]⟩
      (fun _ _ _ _ _ _ h hpo => h.commit hpo) hr
  obtain ⟨hb, hc⟩ := ha
  have hb₀ : s.balanceOf tid = row₀.balance.toInt := by
    unfold Db.balanceOf
    rw [hrow]
  have hversion₀ : s.versionOf tid = 1 + n := by
    unfold Db.versionOf
    rw [hrow]
    exact hversion
  constructor
  · cases hst : st.store.credits tid with
    | none =>
      -- a row with a version is there
      unfold Db.versionOf at hc
      rw [hst] at hc
      unfold Db.versionOf at hversion₀
      dsimp only at hc
      omega
    | some row =>
      unfold Db.balanceOf at hb
      rw [hst] at hb
      unfold Db.versionOf at hc
      rw [hst] at hc
      dsimp only at hb hc
      refine ⟨row, rfl, ?_, ?_, ?_⟩
      · rw [hb, ← hb₀]
        rfl
      · exact Int64.le_iff_toInt_le.mp row.check_balance
      · unfold Db.versionOf at hversion₀
        omega
  · intro i e hp a hl
    have hok := ((sound_run hcl hs hr).logged i a).mp hl
    cases hp.symm.trans hok

end

def sampleStore : Db where
  credits tid :=
    if tid = 1 ∨ tid = 2 then
      some { balance := 5, version := 1, createdAt := 10, updatedAt := 10
             check_balance := by decide }
    else none
  leads lid :=
    if lid = 3 then
      some { id := 3, sourceContactID := 4, tier := .standard, saleLimit := some 2
             form := UnverifiedContact.sampleForm, gstVerified := false, verifiedAt := 10
             verifiedByMembershipID := 9, createdAt := 10 }
    else none
  tiers _ := some { defaultSaleLimit := 4, basePricePaisa := 50000 }
  purchases := []
  outbox := []

theorem sampleStore_consistent : Consistent sampleStore := by
  constructor
  · intro tid row hrow
    unfold sampleStore at hrow
    dsimp only at hrow
    split at hrow
    · cases hrow
      decide
    · cases hrow
  · intro lid row hrow
    unfold sampleStore at hrow
    dsimp only at hrow
    split at hrow
    next hl =>
      cases hrow
      exact hl.symm
    next => cases hrow

def sampleDraws (n : Nat) : Draws := ⟨20 + n, ""⟩

def buys (tid membershipID purchaseID : UUID) : Execution :=
  .purchase sampleDraws (unaryCodec.string purchaseID)
    ⟨unaryCodec.string 3, unaryCodec.string tid, unaryCodec.string membershipID⟩

def topupAndPurchase : Bool → Execution
  | false => .topup sampleDraws ⟨unaryCodec.string 1, 4, "refund", unaryCodec.string 9⟩
  | true => buys 1 5 7

def conflictingAdjustments : List (Label Bool Err) :=
  [.step false] ++ replicate 12 (.step true) ++ replicate 6 (.step false)

theorem ledger_conserved_after_conflict :
    ∃ st row, run (step fun i => (topupAndPurchase i).client unaryCodec)
    (init (fun i => (topupAndPurchase i).client unaryCodec) sampleStore)
    conflictingAdjustments = some st ∧
    st.store.credits 1 = some row ∧ row.balance.toInt = 8 ∧ row.version.toInt = 3 := by
  refine exists_some₂ (P := fun st _ => st.log.map Prod.fst = [false, true])
    (by decide +kernel) fun st row hr hrow hf => ?_
  have hl : committed unaryCodec topupAndPurchase 1 st.log =
      [topupAndPurchase false, topupAndPurchase true] := by
    have hm : st.log.map (fun c => topupAndPurchase c.1) =
        (st.log.map Prod.fst).map topupAndPurchase := by
      rw [map_map]
      rfl
    unfold committed
    rw [hm, hf]
    rfl
  have hrow₀ : sampleStore.credits 1 = some _ := rfl
  obtain ⟨⟨row', hrow', hb, -, hv⟩, -⟩ := ledger_conserved unaryCodec_lawful
    topupAndPurchase sampleStore_consistent hrow₀ (n := 0) rfl hr
  cases hrow.symm.trans hrow'
  rw [hl] at hb hv
  exact ⟨hb, hv⟩

section

variable {codec : UuidCodec} {ι : Type} [DecidableEq ι] {s t : Db} {st : State ι Key Db Err Int64}

structure Contract (lid : UUID) (lead : PlatformLead.Row) (cfg : PlatformLead.TierConfig)
    (db : Db) : Prop where
  withinLimit : (db.purchasesOf lid).length ≤ lead.saleLimit.getD cfg.defaultSaleLimit
  oneEach : ((db.purchasesOf lid).map PurchaseRow.tenantID).Nodup
  priced (k : Nat) (p : PurchaseRow) : (db.purchasesOf lid)[k]? = some p →
    p.amountPaisa = PlatformLead.computePurchasePricePaisa cfg.basePricePaisa k
      purchasePackageDiscountBps

variable {lid : UUID} {lead : PlatformLead.Row} {cfg : PlatformLead.TierConfig}

theorem contract_unsold (hl : 0 ≤ lead.saleLimit.getD cfg.defaultSaleLimit)
    (h : s.purchasesOf lid = []) : Contract lid lead cfg s := by
  refine ⟨?_, ?_, ?_⟩
  · rw [h]
    exact hl
  · rw [h]
    exact nodup_nil
  · intro k p hp
    rw [h] at hp
    cases hp

theorem Contract.congr (h : Contract lid lead cfg s)
    (hs : t.purchasesOf lid = s.purchasesOf lid) : Contract lid lead cfg t := by
  refine ⟨?_, ?_, ?_⟩ <;> rw [hs]
  · exact h.withinLimit
  · exact h.oneEach
  · exact h.priced

variable {cmd : PurchaseLeadCommand}

theorem Contract.sell {p : PurchaseRow} (h : Contract p.leadID lead cfg s)
    (hs : Sells codec cmd cfg lead s p)
    (hp : t.purchasesOf p.leadID = s.purchasesOf p.leadID ++ [p]) :
    Contract p.leadID lead cfg t := by
  refine ⟨?_, ?_, ?_⟩ <;> rw [hp]
  · have hl := hs.limit
    rw [length_append, length_singleton]
    omega
  · rw [map_append]
    refine nodup_append.mpr ⟨h.oneEach, nodup_singleton _, ?_⟩
    intro a ha b hb
    obtain ⟨q, hq, rfl⟩ := mem_map.mp ha
    rw [mem_singleton.mp hb]
    exact hs.fresh q hq
  · intro k q hq
    rcases Nat.lt_trichotomy k (s.purchasesOf p.leadID).length with hlt | heq | hgt
    · rw [getElem?_append_left hlt] at hq
      exact h.priced k q hq
    · subst heq
      rw [getElem?_concat_length] at hq
      cases hq
      exact hs.price
    · have ho : (s.purchasesOf p.leadID ++ [p]).length ≤ k := by
        rw [length_append, length_singleton]
        omega
      rw [getElem?_eq_none ho] at hq
      cases hq

structure Listed (lid : UUID) (lead : PlatformLead.Row) (cfg : PlatformLead.TierConfig) (db : Db) :
    Prop where
  onFile : db.leads lid = some lead
  resolved : db.tiers lead.tier = some cfg
  contract : Contract lid lead cfg db

theorem Listed.commit {e : Execution} {a : Int64} (h : Listed lid lead cfg s)
    (hpo : e.Post codec a s t) : Listed lid lead cfg t := by
  cases e with
  | topup d cmd =>
    obtain ⟨tid, row', message, -, -, -, rfl⟩ := hpo
    exact ⟨h.onFile, h.resolved, h.contract.congr rfl⟩
  | purchase d purchaseID cmd =>
    obtain ⟨p, row', lead', cfg', adjustment, now, hl, ht, hs, -, -, rfl⟩ := hpo
    refine ⟨h.onFile, h.resolved, ?_⟩
    have hp := s.purchasesOf_addPurchase p lid
    by_cases heq : p.leadID = lid
    · subst heq
      obtain rfl := Option.some.inj (hl.symm.trans h.onFile)
      obtain rfl := Option.some.inj (ht.symm.trans h.resolved)
      rw [if_pos rfl] at hp
      exact h.contract.sell hs hp
    · rw [if_neg heq, append_nil] at hp
      exact h.contract.congr hp

structure Bought (codec : UuidCodec) (cmd : PurchaseLeadCommand) (price : Int64) (s t : Db)
    (p : PurchaseRow) : Prop where
  lead : codec.parse cmd.platformLeadID = some p.leadID
  tenant : codec.parse cmd.purchasingTenantID = some p.tenantID
  price : p.amountPaisa = price
  purchases : t.purchases = s.purchases ++ [p]
  balance : t.balanceOf p.tenantID = s.balanceOf p.tenantID - 1
  others (tid : UUID) : tid ≠ p.tenantID → t.credits tid = s.credits tid

theorem Sold.bought {pu : String} {price : Int64} (h : Sold codec cmd pu price s t) :
    ∃ p, Bought codec cmd price s t p := by
  obtain ⟨p, row', lead, cfg, adjustment, now, -, -, hs, hp, ha, rfl⟩ := h
  refine ⟨p, hs.leadID, hs.tenantID, hp.symm, rfl, ?_, ?_⟩
  · show (s.setCredit p.tenantID row').balanceOf p.tenantID = _
    unfold Db.balanceOf
    rw [show (s.setCredit p.tenantID row').credits p.tenantID = some row' from
      update_self ..]
    exact ha.balance
  · intro tid hne
    exact update_of_ne hne _ _

theorem purchase_contract (hcodec : codec.Lawful) (exec : ι → Execution) (hs : Consistent s)
    (hlead : s.leads lid = some lead) (htier : s.tiers lead.tier = some cfg)
    (hcontract : Contract lid lead cfg s) {ls : List (Label ι Err)}
    (hr : run (step fun i => (exec i).client codec) (init (fun i => (exec i).client codec) s) ls =
    some st) : Contract lid lead cfg st.store ∧
    ∀ l st' d purchaseID cmd, exec l.who = .purchase d purchaseID cmd →
    step (fun i => (exec i).client codec) st l = some st' →
    (∃ price p, st'.phase l.who = .returned (.ok price) ∧
    Bought codec cmd price st.store st'.store p) ∨
    (st'.store = st.store ∧ ∀ price, st'.phase l.who ≠ .returned (.ok price)) := by
  have hc : ∀ i n, Meets discipline (((exec i).client codec).attempt n)
      ((exec i).Post codec) := fun i n => meets_client hcodec (exec i) n
  constructor
  · have hl : Listed lid lead cfg st.store :=
      run_rule hc hs (P := fun db _ => Listed lid lead cfg db) ⟨hlead, htier, hcontract⟩
        (fun _ _ _ _ _ _ h hp => h.commit hp) hr
    exact hl.contract
  · intro l st' d purchaseID cmd he hst
    rcases step_effect hc hs hr hst with ⟨price, hph, hp⟩ | hk
    · rw [he] at hp
      obtain ⟨p, hb⟩ := Sold.bought hp
      exact .inl ⟨price, p, hph, hb⟩
    · exact .inr hk

end

def twoBuyers : Bool → Execution
  | false => buys 1 5 7
  | true => buys 2 6 8

def interleavedPurchases : List (Label Bool Err) :=
  (replicate 5 [.step false, .step true]).flatten ++ replicate 7 (.step false) ++
    replicate 7 (.step true)

theorem purchase_contract_of_two_buyers :
    ∃ st lead cfg, run (step fun i => (twoBuyers i).client unaryCodec)
    (init (fun i => (twoBuyers i).client unaryCodec) sampleStore) interleavedPurchases =
    some st ∧ (st.store.purchasesOf 3).map PurchaseRow.tenantID = [1, 2] ∧
    Contract 3 lead cfg st.store := by
  obtain ⟨st, hr, hf⟩ := (Option.any_eq_true ..).mp (by decide +kernel :
    (run (step fun i => (twoBuyers i).client unaryCodec)
      (init (fun i => (twoBuyers i).client unaryCodec) sampleStore) interleavedPurchases).any
        (fun st => (st.store.purchasesOf 3).map PurchaseRow.tenantID = [1, 2]) = true)
  exact ⟨st, _, _, hr, of_decide_eq_true hf,
    (purchase_contract unaryCodec_lawful twoBuyers sampleStore_consistent rfl rfl
      (contract_unsold (by decide) rfl) hr).1⟩

end Leadkart.Marketplace
