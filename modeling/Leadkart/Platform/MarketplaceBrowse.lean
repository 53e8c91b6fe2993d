import Leadkart.Logic.Keyset
import Leadkart.Platform.LeadForm
import Leadkart.Platform.Marketplace
import Mathlib.Data.Prod.Lex

/-!
# Browsing the marketplace
-/

namespace Leadkart.Marketplace

open List Keyset
open PlatformLead (Row)

structure Catalogue where
  db : Db
  leads : List Row
  mem_leads : ∀ r, r ∈ leads ↔ db.leads r.id = some r
  nodup : (leads.map Row.id).Nodup
  check_sale_limit : ∀ r ∈ leads, ∀ n, r.saleLimit = some n → 0 < n
  check_default_sale_limit : ∀ tier cfg, db.tiers tier = some cfg → 0 < cfg.defaultSaleLimit
  verified : ∀ r ∈ leads, r.verifiedAt ≠ 0

def Db.effectiveSaleLimit (db : Db) (r : Row) : Option Int :=
  r.saleLimit <|> (db.tiers r.tier).map PlatformLead.TierConfig.defaultSaleLimit

structure Conn where
  history : List (List (String × String)) := []
  planLeads : Planner Row
  planPurchases : Planner PurchaseRow

def Conn.settings (conn : Conn) : Settings := Settings.residue conn.history

section Query

variable (codec : UuidCodec) (conn : Conn) (db : Db)

def purchasePolicy (p : PurchaseRow) : Sql.Expr Bool :=
  Sql.or (App.ownOrPlatform codec p.tenantID conn.settings) (App.isPlatform conn.settings)

def visiblePurchases (cond : PurchaseRow → Bool) : Except SqlError (List PurchaseRow) :=
  scan (purchasePolicy codec conn) (conn.planPurchases db.purchases cond) cond db.purchases

def holdsPurchase (r : Row) : Except SqlError (Option Bool) := do
  let tenant ← App.currentTenant codec conn.settings
  let held ← visiblePurchases codec conn db fun p => p.leadID = r.id && tenant = some p.tenantID
  return some !held.isEmpty

def belowLimit (r : Row) : Except SqlError (Option Bool) := do
  let purchases ← visiblePurchases codec conn db fun p => p.leadID = r.id
  return (db.effectiveSaleLimit r).map fun limit => decide ((purchases.length : Int) < limit)

def leadPolicy (r : Row) : Sql.Expr Bool :=
  Sql.or
    (Sql.or (Sql.or (App.isPlatform conn.settings) (holdsPurchase codec conn db r))
      (belowLimit codec conn db r))
    (App.isPlatform conn.settings)

/-! ## The query -/

structure MarketplaceFilter where
  (state city district pincode businessType medicineSystem orderValue buyTimeline : String := "")
  (hasDrugLicence hasGst gstVerified : Option Bool := none)
  (productRanges dosageForms : List String := [])

def nilIfEmptySlice (l : List String) : Option (List String) := if l.isEmpty then none else some l

def overlap (a b : List String) : Bool := a.any fun x => x ∈ b

def MarketplaceFilter.holds (f : MarketplaceFilter) (r : Row) : Bool :=
  (zeroToNil f.state).all (r.form.state = ·) &&
    (zeroToNil f.city).all (r.form.city = ·) &&
    (zeroToNil f.district).all (r.form.district = ·) &&
    (zeroToNil f.pincode).all (r.form.pincode = ·) &&
    (zeroToNil f.businessType).all (r.form.businessType.string = ·) &&
    (zeroToNil f.medicineSystem).all (r.form.medicineSystem.string = ·) &&
    (zeroToNil f.orderValue).all (r.form.orderValue.string = ·) &&
    (zeroToNil f.buyTimeline).all (r.form.buyTimeline.string = ·) &&
    f.hasDrugLicence.all (r.form.hasDrugLicence = ·) &&
    f.hasGst.all (r.form.hasGst = ·) &&
    f.gstVerified.all (r.gstVerified = ·) &&
    (nilIfEmptySlice f.productRanges).all (overlap r.form.productRanges ·) &&
    (nilIfEmptySlice f.dosageForms).all (overlap r.form.dosageForms ·)

def cursorParams (cursor : Cursor) : Option (Time × UUID) :=
  if cursor.sortValue.isZero || cursor.id = "" then none
  else (codec.parse cursor.id).map fun id => (cursor.sortValue, id)

def beforeCursor (r : Row) (cursor : Time × UUID) : Bool :=
  r.verifiedAt < cursor.1 || (r.verifiedAt = cursor.1 && r.id < cursor.2)

def listedBefore (a b : Row) : Bool :=
  b.verifiedAt < a.verifiedAt || (a.verifiedAt = b.verifiedAt && b.id ≤ a.id)

def browsed (filter : MarketplaceFilter) (cursor : Option (Time × UUID)) (r : Row) :
    Bool := filter.holds r && cursor.all (beforeCursor r)

def marketplaceRowToPlatformLead (row : Row) : PlatformLead :=
  { rowToPlatformLead codec row [] with
    form := { row.form with
      mobileE164 := ""
      email := ""
      street := ""
      gstNumber := ""
      panNumber := ""
      productRanges := LeadForm.cleanStringList row.form.productRanges
      dosageForms := LeadForm.cleanStringList row.form.dosageForms } }

def marketplaceBrowse (leads : List Row) (filter : MarketplaceFilter)
    (cursor : Cursor) (pageSize : Int) : Except Err (List PlatformLead) := do
  let limit := if pageSize ≤ 0 then 1 else pageSize.toNat
  let cond := browsed filter (cursorParams codec cursor)
  match scan (fun r => Sql.also (leadPolicy codec conn db r) (belowLimit codec conn db r))
      (conn.planLeads leads cond) cond leads with
  | .error e => .error (Pg.wrapped "platform lead repo: browse query: " e)
  | .ok rows =>
    .ok (((rows.mergeSort listedBefore).take limit).map (marketplaceRowToPlatformLead codec))

structure MarketplaceLeadView where
  (id contactName city district state pinCode : String)
  (hasDrugLicence hasGst gstVerified hasPan : Bool)
  (businessType medicineSystem : String)
  (productRanges dosageForms : List String)
  (orderValue buyTimeline : String)
  verifiedAt : Time

def viewOf (l : PlatformLead) : MarketplaceLeadView where
  id := l.id
  contactName := l.form.contactName
  city := l.form.city
  district := l.form.district
  state := l.form.state
  pinCode := l.form.pincode
  hasDrugLicence := l.form.hasDrugLicence
  hasGst := l.form.hasGst
  gstVerified := l.gstVerified
  hasPan := l.form.hasPan
  businessType := l.form.businessType.string
  medicineSystem := l.form.medicineSystem.string
  productRanges := l.form.productRanges
  dosageForms := l.form.dosageForms
  orderValue := l.form.orderValue.string
  buyTimeline := l.form.buyTimeline.string
  verifiedAt := l.verifiedAt

def handleBrowse (leads : List Row) (filter : MarketplaceFilter) (cursor : Cursor)
    (pageSize : Int) : Except Err (Page MarketplaceLeadView) := do
  let size : PageSize := ⟨clampPageSize pageSize, clampPageSize_bounds pageSize⟩
  let leads ← (marketplaceBrowse codec conn db leads filter cursor (size.1 + 1)).mapError
    (wrapError "browse marketplace: ")
  return buildPage (leads.map viewOf) size fun v => ⟨v.verifiedAt, v.id⟩

end Query

def browseAll (codec : UuidCodec) (conns : Nat → Conn) (cat : Catalogue)
    (filter : MarketplaceFilter) (pageSize : Int) (fuel : Nat) :
    Option (Except Err (List MarketplaceLeadView)) :=
  Keyset.walk (fun i cursor =>
    (handleBrowse codec (conns i) cat.db cat.leads filter cursor pageSize).map fun page =>
      (page.items, page.nextCursor)) fuel 0 {}

section Unbound

variable {codec : UuidCodec} {conn : Conn} {db : Db}

theorem purchasePolicy_unbound (p : PurchaseRow) : purchasePolicy codec conn p = .ok none := by
  unfold purchasePolicy Conn.settings
  rw [App.ownOrPlatform_unbound, App.isPlatform_of_residue rfl]
  rfl

theorem visiblePurchases_unbound (cond : PurchaseRow → Bool) :
    visiblePurchases codec conn db cond = .ok [] := by
  unfold visiblePurchases
  rw [SqlRelation.scan_eq_filter fun p _ _ => purchasePolicy_unbound p]
  simp

theorem holdsPurchase_unbound (r : Row) :
    holdsPurchase codec conn db r = .ok (some false) := by
  unfold holdsPurchase Conn.settings
  rw [App.currentTenant_unbound]
  simp only [bind, Except.bind, visiblePurchases_unbound]
  rfl

variable {r : Row}

theorem belowLimit_unbound {cat : Catalogue} (hr : r ∈ cat.leads) :
    belowLimit codec conn cat.db r = .ok ((cat.db.effectiveSaleLimit r).map fun _ => true) := by
  have hp : ∀ n, cat.db.effectiveSaleLimit r = some n → 0 < n := by
    intro n hn
    unfold Db.effectiveSaleLimit at hn
    rcases hl : r.saleLimit with _ | m
    · rw [hl] at hn
      obtain ⟨cfg, hc, rfl⟩ := Option.map_eq_some_iff.mp hn
      exact cat.check_default_sale_limit r.tier cfg hc
    · rw [hl] at hn
      obtain rfl := Option.some.inj hn
      exact cat.check_sale_limit r hr m hl
  unfold belowLimit
  rw [visiblePurchases_unbound]
  rcases h : cat.db.effectiveSaleLimit r with _ | n
  · rfl
  · have hlt : (0 : Int) < n := hp n h
    simp [bind, Except.bind, pure, Except.pure, hlt]

theorem quals_unbound {cat : Catalogue} (hr : r ∈ cat.leads) :
    Sql.also (leadPolicy codec conn cat.db r) (belowLimit codec conn cat.db r) =
    .ok (some (cat.db.effectiveSaleLimit r).isSome) := by
  unfold leadPolicy
  rw [holdsPurchase_unbound, belowLimit_unbound hr]
  unfold Conn.settings
  rw [App.isPlatform_of_residue rfl]
  rcases cat.db.effectiveSaleLimit r with _ | n <;> rfl

end Unbound

section

variable {codec : UuidCodec} {conn : Conn} (cat : Catalogue) (filter : MarketplaceFilter)

def listKey (r : Row) : Int ×ₗ Nat := toLex (r.verifiedAt, r.id.toNat)

def Catalogue.listing : List Row :=
  (cat.leads.filter fun r => (cat.db.effectiveSaleLimit r).isSome && filter.holds r).mergeSort
    listedBefore

variable {cat filter}

theorem mem_listing {r : Row} : r ∈ cat.listing filter ↔
    r ∈ cat.leads ∧ (cat.db.effectiveSaleLimit r).isSome = true ∧ filter.holds r = true := by
  rw [Catalogue.listing, mem_mergeSort, mem_filter, Bool.and_eq_true]

theorem listKey_lt {a b : Row} :
    listKey a < listKey b ↔ beforeCursor a (b.verifiedAt, b.id) = true := by
  unfold listKey beforeCursor
  rw [Prod.Lex.toLex_lt_toLex, Bool.or_eq_true, Bool.and_eq_true]
  simp only [decide_eq_true_iff]
  exact Iff.rfl

theorem listedBefore_iff (a b : Row) :
    listedBefore a b = true ↔ listKey b ≤ listKey a := by
  unfold listKey listedBefore
  rw [Prod.Lex.toLex_le_toLex, Bool.or_eq_true, Bool.and_eq_true]
  simp only [decide_eq_true_iff, eq_comm (a := a.verifiedAt)]
  exact Iff.rfl

theorem nodup_listKey (p : Row → Bool) : ((cat.leads.filter p).map listKey).Nodup := by
  have hid : ((cat.leads.filter p).map Row.id).Nodup :=
    cat.nodup.sublist (filter_sublist.map _)
  refine pairwise_map.mpr ((pairwise_map.mp hid).imp fun hne heq => hne ?_)
  exact BitVec.eq_of_toNat_eq (congrArg (fun k => (ofLex k).2) heq)

theorem descending_listing : Keyset.Descending listKey (cat.listing filter) :=
  descending_mergeSort listedBefore_iff (nodup_listKey _)

def cursorOf (codec : UuidCodec) : Option Row → Cursor
  | none => {}
  | some r => ⟨r.verifiedAt, codec.string r.id⟩

variable {c : Option Row}

theorem cursorParams_cursorOf (hco : codec.Lawful) (hc : ∀ r, c = some r → r.verifiedAt ≠ 0) :
    cursorParams codec (cursorOf codec c) = c.map fun r => (r.verifiedAt, r.id) := by
  cases c with
  | none => rfl
  | some r =>
    have ht : r.verifiedAt.isZero = false := by
      simpa [Time.isZero] using hc r rfl
    simp [cursorParams, cursorOf, ht, hco.string_ne_empty, hco.parse_string]

theorem marketplaceBrowse_eq (hco : codec.Lawful) (hc : ∀ r, c = some r → r ∈ cat.listing filter)
    (n : Nat) :
    marketplaceBrowse codec conn cat.db cat.leads filter (cursorOf codec c) ((n : Int) + 1) =
    .ok (((Keyset.after listKey c (cat.listing filter)).take (n + 1)).map
    (marketplaceRowToPlatformLead codec)) := by
  have ht : ∀ r, c = some r → r.verifiedAt ≠ 0 := fun r hr =>
    cat.verified r (mem_listing.mp (hc r hr)).1
  have hl : (if (n : Int) + 1 ≤ 0 then 1 else ((n : Int) + 1).toNat) = n + 1 := by
    rw [if_neg (by omega)]
    omega
  have hb : ∀ r, (c.map fun q => (q.verifiedAt, q.id)).all (beforeCursor r) =
      below listKey c r := by
    intro r
    cases c with
    | none => rfl
    | some q =>
      rw [Bool.eq_iff_iff]
      exact listKey_lt.symm.trans (decide_eq_true_iff).symm
  have hro : (cat.leads.filter fun r => (cat.db.effectiveSaleLimit r).isSome &&
        browsed filter (c.map fun q => (q.verifiedAt, q.id)) r) =
      (cat.leads.filter fun r =>
        (cat.db.effectiveSaleLimit r).isSome && filter.holds r).filter (below listKey c) := by
    rw [filter_filter]
    refine filter_congr fun r _ => ?_
    rw [browsed, hb, ← Bool.and_assoc, Bool.and_comm]
  have hs : ∀ fed cond, scan (fun r => Sql.also (leadPolicy codec conn cat.db r)
      (belowLimit codec conn cat.db r)) fed cond cat.leads =
        .ok (cat.leads.filter fun r => (cat.db.effectiveSaleLimit r).isSome && cond r) :=
    fun fed cond => SqlRelation.scan_ok fun r hr _ => quals_unbound hr
  unfold marketplaceBrowse
  dsimp only
  rw [cursorParams_cursorOf hco ht, hs, hro]
  dsimp only
  rw [mergeSort_below listedBefore_iff (nodup_listKey _), hl]
  rfl

theorem buildPage_take {ρ α : Type} (left : List ρ) (size : PageSize) (view : ρ → α)
    (cu : α → Cursor) : buildPage ((left.take (size.1 + 1)).map view) size cu =
    ⟨(left.take size.1).map view, decide (size.1 < left.length),
    (if size.1 < left.length then left[size.1 - 1]? else none).map
          fun r => cu (view r)⟩ := by
  have hl : ((left.take (size.1 + 1)).map view).length = min (size.1 + 1) left.length := by simp
  unfold buildPage
  by_cases hm : size.1 < left.length
  · have hi : size.1 - 1 < size.1 + 1 := by omega
    rw [if_pos (by omega), if_pos hm, decide_eq_true hm, ← map_take, take_take,
      Nat.min_eq_left (Nat.le_succ _), getElem?_map, getElem?_take_of_lt hi,
      Option.map_map]
    rfl
  · have ha : left.take (size.1 + 1) = left.take size.1 := by
      rw [take_of_length_le (by omega), take_of_length_le (by omega)]
    rw [if_neg (by omega), if_neg hm, decide_eq_false hm, ha]
    rfl

theorem walk_browse (hco : codec.Lawful) (co : Nat → Conn) (p : Int) {fuel : Nat}
    (hfu : cat.leads.length < fuel) : browseAll codec co cat filter p fuel =
    some (.ok ((cat.listing filter).map fun r =>
        viewOf (marketplaceRowToPlatformLead codec r))) := by
  have hl : (cat.listing filter).length ≤ cat.leads.length := by
    rw [Catalogue.listing, length_mergeSort]
    exact length_filter_le ..
  have hf : ∀ i c, (∀ r, c = some r → r ∈ cat.listing filter) →
      (handleBrowse codec (co i) cat.db cat.leads filter (cursorOf codec c) p).map
          (fun page => (page.items, page.nextCursor)) =
        .ok ((pageAfter listKey (clampPageSize p) c (cat.listing filter)).1.map
            fun r => viewOf (marketplaceRowToPlatformLead codec r),
          (pageAfter listKey (clampPageSize p) c (cat.listing filter)).2.map
            fun r => cursorOf codec (some r)) := by
    intro i c hc
    have hp := buildPage_take (after listKey c (cat.listing filter))
      ⟨clampPageSize p, clampPageSize_bounds p⟩
      (fun r => viewOf (marketplaceRowToPlatformLead codec r)) fun v => ⟨v.verifiedAt, v.id⟩
    unfold handleBrowse
    dsimp only at hp ⊢
    rw [marketplaceBrowse_eq hco hc]
    refine Eq.trans ?_ (congrArg (fun page => Except.ok (page.items, page.nextCursor)) hp)
    show Except.ok _ = Except.ok _
    rw [map_map]
    rfl
  have hw : browseAll codec co cat filter p fuel =
      some (.ok ((after listKey none (cat.listing filter)).map fun r =>
        viewOf (marketplaceRowToPlatformLead codec r))) := by
    show walk _ fuel 0 (cursorOf codec none) = _
    refine walk_eq descending_listing (clampPageSize_bounds p).1 hf fuel 0 none
      (fun r hr => nomatch hr) ?_
    rw [after_none]
    exact Nat.lt_of_le_of_lt hl hfu
  rwa [after_none] at hw

end

def Db.SoldOut (db : Db) (r : Row) : Prop :=
  ∃ limit, db.effectiveSaleLimit r = some limit ∧ limit ≤ (db.purchasesOf r.id).length

def Db.Bought (db : Db) (T : UUID) (r : Row) : Prop :=
  ∃ p ∈ db.purchasesOf r.id, p.tenantID = T

def Db.OpenTo (db : Db) (T : UUID) (r : Row) : Prop :=
  (∃ limit, db.effectiveSaleLimit r = some limit ∧ ((db.purchasesOf r.id).length : Int) < limit) ∧
    ¬ db.Bought T r

def Exact (codec : UuidCodec) (conns : Nat → Conn) (cat : Catalogue) (T : UUID)
    (filter : MarketplaceFilter) (pageSize : Int) (fuel : Nat) : Prop :=
  ∃ rows : List Row,
    browseAll codec conns cat filter pageSize fuel =
      some (.ok (rows.map fun r => viewOf (marketplaceRowToPlatformLead codec r))) ∧
    rows.Nodup ∧
    ∀ r, r ∈ rows ↔ r ∈ cat.leads ∧ filter.holds r = true ∧ cat.db.OpenTo T r

theorem openTo_iff {cat : Catalogue} {T : UUID} {r : Row}
    (hl : (cat.db.effectiveSaleLimit r).isSome = true) :
    cat.db.OpenTo T r ↔ ¬ cat.db.SoldOut r ∧ ¬ cat.db.Bought T r := by
  obtain ⟨limit, hl⟩ := Option.isSome_iff_exists.mp hl
  refine and_congr_left fun _ => ⟨?_, fun hs => ⟨limit, hl, ?_⟩⟩
  · rintro ⟨n, hn, hlt⟩ ⟨m, hm, hle⟩
    cases hn.symm.trans hm
    exact absurd hle (Int.not_le.mpr hlt)
  · exact Int.not_le.mp fun hle => hs ⟨limit, hl, hle⟩

theorem eq_of_view_eq {codec : UuidCodec} (hc : codec.Lawful) {cat : Catalogue}
    {a b : Row} (ha : a ∈ cat.leads) (hb : b ∈ cat.leads)
    (h : viewOf (marketplaceRowToPlatformLead codec a) =
    viewOf (marketplaceRowToPlatformLead codec b)) : a = b := by
  have hs : codec.string a.id = codec.string b.id := congrArg MarketplaceLeadView.id h
  have hid : a.id = b.id := hc.string_inj.mp hs
  have hrow := (cat.mem_leads a).mp ha
  rw [hid, (cat.mem_leads b).mp hb] at hrow
  exact (Option.some.inj hrow).symm

/-- The pages are right exactly when no matching lead is sold out or already bought. -/
theorem browse_exact {codec : UuidCodec} (hcodec : codec.Lawful) (cat : Catalogue) (T : UUID)
    (filter : MarketplaceFilter) (pageSize : Int) (conns : Nat → Conn) (fuel : Nat)
    (hfuel : cat.leads.length < fuel) : Exact codec conns cat T filter pageSize fuel ↔
    ∀ r ∈ cat.leads, (cat.db.effectiveSaleLimit r).isSome = true → filter.holds r = true →
    ¬ cat.db.SoldOut r ∧ ¬ cat.db.Bought T r := by
  have hw : browseAll codec conns cat filter pageSize fuel = _ :=
    walk_browse hcodec conns pageSize hfuel
  constructor
  · rintro ⟨rows, hro, -, hme⟩ r hr hl hm
    have hs := Except.ok.inj (Option.some.inj (hw.symm.trans hro))
    -- The listing shows `r`, so `rows` holds a lead with the same view.
    have hv : viewOf (marketplaceRowToPlatformLead codec r) ∈ (cat.listing filter).map
        fun r => viewOf (marketplaceRowToPlatformLead codec r) :=
      mem_map_of_mem (mem_listing.mpr ⟨hr, hl, hm⟩)
    rw [hs] at hv
    obtain ⟨q, hq, hqr⟩ := mem_map.mp hv
    obtain ⟨hql, -, ho⟩ := (hme q).mp hq
    obtain rfl := eq_of_view_eq hcodec hql hr hqr
    exact (openTo_iff hl).mp ho
  · intro ho
    refine ⟨cat.listing filter, hw, ?_, fun r => ?_⟩
    · refine Pairwise.imp (fun {a b} hlt heq => ?_) descending_listing
      exact absurd (congrArg listKey heq) (ne_of_gt hlt)
    rw [mem_listing]
    constructor
    · rintro ⟨hr, hl, hm⟩
      exact ⟨hr, hm, (openTo_iff hl).mpr (ho r hr hl hm)⟩
    · rintro ⟨hr, hm, ⟨limit, hl, -⟩, -⟩
      exact ⟨hr, Option.isSome_iff_exists.mpr ⟨limit, hl⟩, hm⟩

def exclusiveLead : Row where
  id := 1
  sourceContactID := 2
  tier := .premium
  saleLimit := some 1
  form := UnverifiedContact.sampleForm
  gstVerified := false
  verifiedAt := 20
  verifiedByMembershipID := 5
  createdAt := 20

def solePurchase : PurchaseRow where
  id := 9
  leadID := 1
  tenantID := 7
  createdByMembershipID := 8
  amountPaisa := 200000
  purchasedAt := 30
  check_amount := by decide

def oneLead (purchases : List PurchaseRow) : Catalogue where
  db :=
    { credits := fun _ => none
      leads := fun id => if id = 1 then some exclusiveLead else none
      tiers := fun _ => none
      purchases := purchases
      outbox := [] }
  leads := [exclusiveLead]
  mem_leads := by
    intro r
    show r ∈ [exclusiveLead] ↔ (if r.id = 1 then some exclusiveLead else none) = some r
    rw [mem_singleton]
    constructor
    · rintro rfl
      rfl
    · intro h
      split at h
      · exact (Option.some.inj h).symm
      · cases h
  nodup := nodup_singleton _
  check_sale_limit := by
    intro r hr n hn
    rw [mem_singleton] at hr
    subst hr
    cases hn
    decide
  check_default_sale_limit := by
    intro tier cfg h
    cases h
  verified := by
    intro r hr
    rw [mem_singleton] at hr
    subst hr
    decide

def freshConn (_ : Nat) : Conn where
  planLeads := fun _ _ _ => true
  planPurchases := fun _ _ _ => true

theorem browse_exact_before_sale : (oneLead []).db.OpenTo 6 exclusiveLead ∧
    Exact unaryCodec freshConn (oneLead []) 6 {} 10 2 := by
  have hb : ∀ r, ¬ (oneLead []).db.Bought 6 r := by
    rintro r ⟨p, hp, -⟩
    cases hp
  refine ⟨⟨⟨1, rfl, by decide⟩, hb _⟩, ?_⟩
  refine (browse_exact unaryCodec_lawful (oneLead []) 6 {} 10 freshConn 2 (by decide)).mpr ?_
  intro r hr _ _
  refine ⟨?_, hb r⟩
  obtain rfl := mem_singleton.mp hr
  rintro ⟨limit, hl, hle⟩
  cases hl
  cases hle

theorem sold_out_lead_listed : (oneLead [solePurchase]).db.SoldOut exclusiveLead ∧
    ¬ (oneLead [solePurchase]).db.OpenTo 6 exclusiveLead ∧
    browseAll unaryCodec freshConn (oneLead [solePurchase]) {} 10 2 =
    some (.ok [viewOf (marketplaceRowToPlatformLead unaryCodec exclusiveLead)]) ∧
    ¬ Exact unaryCodec freshConn (oneLead [solePurchase]) 6 {} 10 2 := by
  have hc : ¬ (oneLead [solePurchase]).db.OpenTo 6 exclusiveLead := by
    rintro ⟨⟨limit, hlm, hlt⟩, -⟩
    cases hlm
    cases hlt
  have hl : browseAll unaryCodec freshConn (oneLead [solePurchase]) {} 10 2 =
      some (.ok [viewOf (marketplaceRowToPlatformLead unaryCodec exclusiveLead)]) := by
    have hle : (oneLead [solePurchase]).leads.length < 2 := by decide
    have hli : (oneLead [solePurchase]).listing {} = [exclusiveLead] := mergeSort_singleton _
    rw [walk_browse unaryCodec_lawful freshConn 10 hle, hli]
    rfl
  refine ⟨⟨1, rfl, by decide⟩, hc, hl, ?_⟩
  rintro ⟨rows, hr, -, hm⟩
  have hs := Except.ok.inj (Option.some.inj (hl.symm.trans hr))
  rcases rows with _ | ⟨q, rows⟩
  · cases hs
  · obtain ⟨hq, -, ho⟩ := (hm q).mp (mem_cons_self ..)
    obtain rfl := mem_singleton.mp hq
    exact hc ho

end Leadkart.Marketplace
