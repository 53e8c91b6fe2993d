import Leadkart.Platform.Marketplace

/-!
# What the marketplace transactions keep to
-/

namespace Leadkart.Marketplace

open List Function LeadCredit Effect UuidCodec Transaction
open LeadCredit (Row)

/-! ## The discipline -/

def Db.balanceOf (db : Db) (tid : UUID) : Int :=
  match db.credits tid with
  | some row => row.balance.toInt
  | none => 0

def Db.versionOf (db : Db) (tid : UUID) : Int :=
  match db.credits tid with
  | some row => row.version.toInt
  | none => 0

theorem Db.balanceOf_congr {s t : Db} {tid : UUID} (h : t.credits tid = s.credits tid) :
    t.balanceOf tid = s.balanceOf tid := by
  unfold Db.balanceOf
  rw [h]

theorem Db.versionOf_congr {s t : Db} {tid : UUID} (h : t.credits tid = s.credits tid) :
    t.versionOf tid = s.versionOf tid := by
  unfold Db.versionOf
  rw [h]

theorem Db.setLead_self {db : Db} {id : UUID} {row : PlatformLead.Row}
    (h : db.leads id = some row) : db.setLead id row = db := by
  unfold Db.setLead
  rw [← h, Function.update_eq_self]

theorem Db.purchasesOf_addPurchase (db : Db) (p : PurchaseRow) (lid : UUID) :
    (db.addPurchase p).purchasesOf lid =
    db.purchasesOf lid ++ if p.leadID = lid then [p] else [] := by
  unfold Db.purchasesOf Db.addPurchase
  rw [List.filter_append]
  by_cases hl : p.leadID = lid <;> simp [hl]

structure Consistent (db : Db) : Prop where
  numbered (tid : UUID) (row : Row) : db.credits tid = some row → 1 ≤ row.version.toInt
  keyed (lid : UUID) (row : PlatformLead.Row) : db.leads lid = some row → row.id = lid

def Advances (old new : Option Row) : Prop :=
  ∀ row, old = some row → ∃ row', new = some row' ∧
    (row' = row ∨ row.version.toInt < row'.version.toInt)

theorem Advances.refl (r : Option Row) : Advances r r :=
  fun row h => ⟨row, h, .inl rfl⟩

theorem Advances.trans {a b c : Option Row} (hab : Advances a b) (hbc : Advances b c) :
    Advances a c := by
  intro row ha
  obtain ⟨row₁, hb, h₁⟩ := hab row ha
  obtain ⟨row₂, hc, h₂⟩ := hbc row₁ hb
  refine ⟨row₂, hc, ?_⟩
  rcases h₁ with rfl | h₁
  · exact h₂
  · rcases h₂ with rfl | h₂
    · exact .inr h₁
    · exact .inr (Int.lt_trans h₁ h₂)

structure Rely (H : Set Key) (s t : Db) : Prop where
  leads : t.leads = s.leads
  tiers : t.tiers = s.tiers
  credit (tid : UUID) : .credit tid ∈ H → t.credits tid = s.credits tid
  advances (tid : UUID) : Advances (s.credits tid) (t.credits tid)
  purchases (lid : UUID) : .lead lid ∈ H → t.purchasesOf lid = s.purchasesOf lid

structure Guar (H : Set Key) (s t : Db) : Prop where
  leads : t.leads = s.leads
  tiers : t.tiers = s.tiers
  credit (tid : UUID) : t.credits tid ≠ s.credits tid → .credit tid ∈ H
  advances (tid : UUID) : Advances (s.credits tid) (t.credits tid)
  numbered (tid : UUID) (row : Row) : t.credits tid = some row → 1 ≤ row.version.toInt
  purchases (lid : UUID) : t.purchasesOf lid ≠ s.purchasesOf lid → .lead lid ∈ H

def discipline : Discipline Key Db where
  Inv := Consistent
  Guar := Guar
  Rely := Rely
  refl H s := ⟨rfl, rfl, fun _ _ => rfl, fun _ => .refl _, fun _ _ => rfl⟩
  trans := by
    intro H s t u hst htu
    exact
      { leads := htu.leads.trans hst.leads
        tiers := htu.tiers.trans hst.tiers
        credit := fun tid h => (htu.credit tid h).trans (hst.credit tid h)
        advances := fun tid => (hst.advances tid).trans (htu.advances tid)
        purchases := fun lid h => (htu.purchases lid h).trans (hst.purchases lid h) }
  keeps hs h := ⟨h.numbered, fun lid row hrow => hs.keyed lid row (h.leads ▸ hrow)⟩
  apart := by
    intro H H' s t _ h hdisj
    exact
      { leads := h.leads
        tiers := h.tiers
        credit := fun tid hmem => by_contra fun hne =>
          hdisj _ (h.credit tid hne) hmem
        advances := h.advances
        purchases := fun lid hmem => by_contra fun hne =>
          hdisj _ (h.purchases lid hne) hmem }

theorem Rely.weaken {H H' : Set Key} {s t : Db} (hs : H' ⊆ H) (h : Rely H s t) : Rely H' s t :=
  ⟨h.leads, h.tiers, fun tid hm => h.credit tid (hs hm), h.advances,
    fun lid hm => h.purchases lid (hs hm)⟩

theorem Consistent.versionOf_nonneg {db : Db} (h : Consistent db) (tid : UUID) :
    0 ≤ db.versionOf tid := by
  unfold Db.versionOf
  split
  next row hrow =>
    have ho := h.numbered tid row hrow
    omega
  next => omega

theorem Rely.balanceOf_eq {H : Set Key} {s t : Db} {tid : UUID} (h : Rely H s t)
    (ht : Consistent t) (hv : t.versionOf tid = s.versionOf tid) :
    t.balanceOf tid = s.balanceOf tid := by
  have ha := h.advances tid
  unfold Db.versionOf at hv
  unfold Db.balanceOf
  cases hs : s.credits tid with
  | none =>
    cases hrow : t.credits tid with
    | none => rfl
    | some row =>
      rw [hs, hrow] at hv
      have ho := ht.numbered tid row hrow
      dsimp only at hv
      omega
  | some row =>
    obtain ⟨row', hrow', hm⟩ := ha row hs
    rw [hs, hrow'] at hv
    rw [hrow']
    rcases hm with rfl | hlt
    · rfl
    · dsimp only at hv
      omega

section

variable {codec : UuidCodec} {h : Held Key Db} {s : Db} {tid : UUID} {l : LeadCredit}
  {Q : Except Err Unit → Held Key Db → Db → Prop}

theorem wp_publishOutbox {tenantID : Option UUID} {ev : List IntegrationEvent} (hne : ev ≠ [])
    (hok : ∀ t h', Rely h.locks s t → Consistent t → h.locks ⊆ h'.locks →
    (∀ x, h'.pending x = (h.pending x).publish (ev.map (OutboxMessage.mk tenantID))) →
    Q (.ok ()) h' t) (he : ∀ t e h, Q (.error e) h t) :
    (publishOutbox tenantID ev).wp discipline Q h s := by
  unfold publishOutbox
  rw [if_neg (by simpa using hne)]
  refine wp_statement ?_ he
  intro t a write h' hr hi hf ha
  cases hf
  exact hok t h' hr hi ha.locks ha.pending

theorem versionedRow_eq_some {version : Int64} {db : Db} {row : Row} :
    versionedRow tid version db = some row ↔ db.credits tid = some row ∧ row.version = version := by
  unfold versionedRow
  rw [Option.filter_eq_some_iff, decide_eq_true_iff]

structure Written (l : LeadCredit) (tid : UUID) (db : Db) (row' : Row) : Prop where
  balance : row'.balance = l.balance
  read : db.versionOf tid = l.version.toInt
  version : row'.version.toInt = db.versionOf tid + 1

theorem updateCreditRow_eq_ok {db : Db} {a : Nat} {write : Db → Db}
    (hf : updateCreditRow tid l db = .ok (a, write)) : (a = 0 ∧ write = id) ∨
    a = 1 ∧ versionedRow tid l.version db ≠ none ∧
    ∃ row', Written l tid db row' ∧ write = fun db => db.setCredit tid row' := by
  unfold updateCreditRow at hf
  split at hf
  · cases hf
    exact .inl ⟨rfl, rfl⟩
  next row hrow =>
    split at hf
    · cases hf
    next hm =>
      split at hf
      · cases hf
        obtain ⟨hs, hv⟩ := versionedRow_eq_some.mp hrow
        have hr : db.versionOf tid = l.version.toInt := by
          unfold Db.versionOf
          rw [hs, ← hv]
        refine .inr ⟨rfl, by simp [hrow], _, ⟨rfl, hr, ?_⟩, rfl⟩
        rw [hr]
        exact MachineInt.toInt_succ hm
      · cases hf

theorem insertCreditRow_eq_ok {db : Db} {u : Unit} {write : Db → Db} (hv : l.version = 0)
    (hf : insertCreditRow tid l db = .ok (u, write)) : db.credits tid = none ∧
    ∃ row', Written l tid db row' ∧ write = fun db => db.setCredit tid row' := by
  unfold insertCreditRow at hf
  split at hf
  swap
  · cases hf
  split at hf
  · cases hf
  next hnone =>
    cases hf
    have hnone : db.credits tid = none := by simpa using hnone
    have hz : db.versionOf tid = 0 := by
      unfold Db.versionOf
      rw [hnone]
    refine ⟨hnone, _, ⟨rfl, ?_, ?_⟩, rfl⟩
    · rw [hz, hv, Int64.toInt_zero]
    · rw [hz, Int64.toInt_one]
      rfl

theorem Written.stable {t : Db} {row' : Row} {H : Set Key} (hw : Written l tid s row')
    (hr : Rely H s t) (hl : .credit tid ∈ H) : Written l tid t row' := by
  have hs : t.versionOf tid = s.versionOf tid := Db.versionOf_congr (hr.credit tid hl)
  exact ⟨hw.balance, hs.trans hw.read, hs ▸ hw.version⟩

theorem wp_upsertWithVersion {a : String} (ht : codec.parse l.tenantID = some tid)
    (hok : ∀ t h row', Rely ∅ s t → Consistent t → .credit tid ∈ h.locks → Written l tid t row' →
    (∀ x, h.pending x = (x.setCredit tid row').publish
    ((l.events.map (adjustedMessage a)).map (OutboxMessage.mk (pgUUIDOrNull tid)))) →
    Q (.ok ()) h t) (he : ∀ t e h, Q (.error e) h t) :
    (upsertWithVersion codec a l).wp discipline Q ⟨id, ∅⟩ s := by
  -- both ways of writing the row end with the messages
  have hpu : ∀ t h row', Rely ∅ s t → Consistent t → Written l tid t row' → .credit tid ∈ h.locks →
      (∀ x, h.pending x = x.setCredit tid row') →
      (publishOutbox (pgUUIDOrNull tid) (l.events.map (adjustedMessage a))).wp
        discipline Q h t := by
    intro t h row' hr hi hw hl hp
    by_cases hev : l.events = []
    · rw [hev] at hok ⊢
      refine wp_pure (hok t h row' hr hi hl hw fun x => ?_)
      rw [hp]
      exact congrArg (Db.mk _ _ _ _) (append_nil _).symm
    refine wp_publishOutbox (by simpa using hev) ?_ he
    intro u h' hr' hi hlo hp'
    refine hok u h' row' (discipline.trans hr (hr'.weaken (Set.empty_subset _))) hi
      (hlo hl) (hw.stable hr' hl) ?_
    intro x
    rw [hp', hp]
  unfold upsertWithVersion
  rw [parseOr_ok ht]
  refine wp_bind (x := statement _ _) (wp_statement ?_ he)
  intro t affected write h₁ hr hi hf ha
  obtain ⟨rfl, rfl⟩ | ⟨rfl, hh, row', hw, rfl⟩ := updateCreditRow_eq_ok hf
  · show Transaction.wp _ _ (if 0 = 0 then _ else _) _ _
    rw [if_pos rfl]
    by_cases hv : l.version = 0
    · rw [if_neg (not_not.mpr hv)]
      refine wp_bind (wp_statement ?_ he)
      intro u _ write h₂ hr' hi' hf' ha'
      have hvi : h₁.pending u = u := ha.pending u
      rw [hvi] at hf' ha'
      obtain ⟨hnone, row', hw, rfl⟩ := insertCreditRow_eq_ok hv hf'
      refine hpu u h₂ row' ?_ hi' hw (ha'.keys _ (by simp [hnone])) ?_
      · exact discipline.trans hr (hr'.weaken (Set.empty_subset _))
      · intro x
        rw [ha'.pending, ha.pending]
        rfl
    · rw [if_pos hv]
      exact wp_fail (he _ _ _)
  · show Transaction.wp _ _ (if 1 = 0 then _ else _) _ _
    rw [if_neg (by decide)]
    refine hpu t h₁ row' hr hi hw (ha.keys _ ?_) ha.pending
    obtain ⟨row, hrow⟩ := Option.ne_none_iff_exists'.mp hh
    show _ ∈ ((versionedRow tid l.version t).map _).toList
    rw [show versionedRow tid l.version t = some row from hrow]
    exact mem_singleton_self _

theorem wp_getByID {Q : Except Err PlatformLead → Held Key Db → Db → Prop} {id : String}
    (hv : ∀ t, Rely h.locks s t → (h.pending t).leads = t.leads)
    (hok : ∀ t lid lead, Rely h.locks s t → Consistent t → codec.parse id = some lid →
    t.leads lid = some lead → Q (.ok (rowToPlatformLead codec lead [])) h t)
    (he : ∀ t e h, Q (.error e) h t) : (getByID codec id).wp discipline Q h s := by
  refine wp_bind (wp_ofExcept ?_ he)
  intro lid hli
  refine wp_bind (wp_query ?_)
  intro t hr hi
  unfold findLead
  rw [hv t hr]
  cases hl : t.leads lid with
  | none => exact he _ _ _
  | some lead => exact wp_pure (hok t lid lead hr hi (parse_of_parseOr hli) hl)

theorem wp_getTier {Q : Except Err PlatformLead.TierConfig → Held Key Db → Db → Prop}
    {tier : PlatformLead.Tier} (hv : ∀ t, (h.pending t).tiers = t.tiers)
    (hok : ∀ t cfg, Rely h.locks s t → Consistent t → t.tiers tier = some cfg → Q (.ok cfg) h t)
    (he : ∀ t e h, Q (.error e) h t) : (getTier tier).wp discipline Q h s := by
  refine wp_query ?_
  intro t hr hi
  rw [hv t]
  cases hc : t.tiers tier with
  | none => exact he _ _ _
  | some cfg => exact hok t cfg hr hi hc

structure Sells (codec : UuidCodec) (cmd : PurchaseLeadCommand) (cfg : PlatformLead.TierConfig)
    (lead : PlatformLead.Row) (db : Db) (p : PurchaseRow) : Prop where
  leadID : codec.parse cmd.platformLeadID = some p.leadID
  tenantID : codec.parse cmd.purchasingTenantID = some p.tenantID
  price : p.amountPaisa = PlatformLead.computePurchasePricePaisa cfg.basePricePaisa
    (db.purchasesOf p.leadID).length purchasePackageDiscountBps
  limit : (db.purchasesOf p.leadID).length < lead.saleLimit.getD cfg.defaultSaleLimit
  fresh : ∀ q ∈ db.purchasesOf p.leadID, q.tenantID ≠ p.tenantID

theorem recordBuyer_eq_ok {cfg : PlatformLead.TierConfig} {cmd : PurchaseLeadCommand}
    {p : String} {now : Time} {l l' : PlatformLead} {persist : Bool} {price : Int64}
    (hok : recordBuyer codec cfg cmd p now l = .ok (persist, l', price)) :
    persist = true ∧ l.purchaseCount < l.effectiveSaleLimit cfg.defaultSaleLimit ∧
    price = PlatformLead.computePurchasePricePaisa cfg.basePricePaisa l.purchaseCount
    purchasePackageDiscountBps ∧ l' = l.boughtBy
    { id := p, leadID := l.id, tenantID := cmd.purchasingTenantID
      membershipID := cmd.purchasingMembershipID, amountPaisa := price, purchasedAt := now } := by
  obtain ⟨l₁, hr, hok⟩ := except_bind_ok hok
  obtain ⟨rfl, hp⟩ := Prod.mk.inj (Except.ok.inj hok)
  cases hp
  obtain ⟨-, hl, rfl⟩ := PlatformLead.recordPurchase_eq_ok hr
  exact ⟨rfl, hl, rfl, rfl⟩

theorem insertPurchaseRow_eq_ok {pid le tenantID m : UUID} {p : LeadPurchase}
    {db : Db} {u : Unit} {write : Db → Db}
    (hf : insertPurchaseRow pid le tenantID m p db = .ok (u, write)) :
    ∃ row : PurchaseRow, row.leadID = le ∧ row.tenantID = tenantID ∧
    row.amountPaisa = p.amountPaisa ∧ (∀ q ∈ db.purchasesOf le, q.tenantID ≠ tenantID) ∧
    write = fun db => db.addPurchase row := by
  unfold insertPurchaseRow at hf
  split at hf
  swap
  · cases hf
  split at hf
  · cases hf
  next hd =>
    split at hf
    · cases hf
    cases hf
    refine ⟨_, rfl, rfl, rfl, ?_, rfl⟩
    intro q hq ht
    obtain ⟨hm, hl⟩ := mem_filter.mp hq
    refine hd (any_eq_true.mpr ⟨q, hm, ?_⟩)
    exact decide_eq_true (.inr ⟨of_decide_eq_true hl, ht⟩)

theorem wp_insertPendingPurchase {p : LeadPurchase}
    (hok : ∀ t h' row, Rely h.locks s t → Consistent t → h.locks ⊆ h'.locks →
    codec.parse p.leadID = some row.leadID → codec.parse p.tenantID = some row.tenantID →
    row.amountPaisa = p.amountPaisa →
    (∀ q ∈ (h.pending t).purchasesOf row.leadID, q.tenantID ≠ row.tenantID) →
    (∀ x, h'.pending x = (h.pending x).addPurchase row) → Q (.ok ()) h' t)
    (he : ∀ t e h, Q (.error e) h t) : (insertPendingPurchase codec p).wp discipline Q h s := by
  refine wp_bind (wp_ofExcept ?_ he)
  intro pid _
  refine wp_bind (wp_ofExcept ?_ he)
  intro leadID hl
  refine wp_bind (wp_ofExcept ?_ he)
  intro tenantID ht
  refine wp_bind (wp_ofExcept ?_ he)
  intro membershipID _
  refine wp_statement ?_ he
  intro t u write h' hr hi hf ha
  obtain ⟨row, rfl, rfl, ham, hfr, rfl⟩ := insertPurchaseRow_eq_ok hf
  exact hok t h' row hr hi ha.locks (parse_of_parseOr hl) (parse_of_parseOr ht) ham hfr ha.pending

theorem wp_updateByID {Q : Except Err Int64 → Held Key Db → Db → Prop} (hc : codec.Lawful)
    {cfg : PlatformLead.TierConfig} {cmd : PurchaseLeadCommand} {pu : String} {now : Time}
    (hv : ∀ t, (h.pending t).leads = t.leads ∧ (h.pending t).purchases = t.purchases)
    (hok : ∀ t h' lead p, Rely h.locks s t → Consistent t → h.locks ⊆ h'.locks →
    .lead p.leadID ∈ h'.locks → t.leads p.leadID = some lead → Sells codec cmd cfg lead t p →
    (∀ x, h'.pending x = ((h.pending x).setLead p.leadID lead).addPurchase p) →
    Q (.ok p.amountPaisa) h' t) (he : ∀ t e h, Q (.error e) h t) :
    (updateByID codec cmd.platformLeadID (recordBuyer codec cfg cmd pu now)).wp discipline
    Q h s := by
  have hof : ∀ t lid, (h.pending t).purchasesOf lid = t.purchasesOf lid := by
    intro t lid
    unfold Db.purchasesOf
    rw [(hv t).2]
  refine wp_bind (wp_bind (wp_ofExcept ?_ fun _ _ _ => he _ _ _))
  intro lid hld
  refine wp_bind (wp_statement ?_ fun _ _ _ => he _ _ _)
  intro t₁ lead write₁ h₁ hr₁ hi₁ hf₁ ha₁
  obtain ⟨hl₁, rfl⟩ : t₁.leads lid = some lead ∧ write₁ = fun db => db := by
    unfold findLead at hf₁
    rw [(hv t₁).1] at hf₁
    cases hl : t₁.leads lid with
    | none => rw [hl] at hf₁; cases hf₁
    | some row =>
      rw [hl] at hf₁
      cases hf₁
      exact ⟨rfl, rfl⟩
  have hlo₁ : .lead lid ∈ h₁.locks := by
    refine ha₁.keys _ ?_
    rw [(hv t₁).1, hl₁]
    exact mem_singleton_self _
  refine wp_bind (wp_query ?_)
  intro t₂ hr₂ hi₂
  rw [ha₁.pending, hof]
  refine wp_pure (wp_bind (wp_ofExcept ?_ he))
  rintro ⟨persist, l', price⟩ hb
  obtain ⟨rfl, hli, rfl, rfl⟩ := recordBuyer_eq_ok hb
  -- the row is written back as it was locked
  refine wp_bind (x := updatePlatformLeadRow codec _) (wp_bind (wp_ofExcept ?_ he))
  intro uid hu
  obtain rfl : uid = lid := by
    have hpa := parse_of_parseOr hu
    rw [show PlatformLead.id _ = codec.string lid from
      congrArg codec.string (hi₁.keyed lid lead hl₁), hc.parse_string] at hpa
    exact (Option.some.inj hpa).symm
  refine wp_statement ?_ he
  intro t₃ _ write₃ h₃ hr₃ hi₃ hf₃ ha₃
  have hl₃ : t₃.leads uid = some lead := by
    rw [hr₃.leads, hr₂.leads, hl₁]
  obtain rfl : write₃ = fun db => db.setLead uid lead := by
    rw [ha₁.pending, (hv t₃).1, hl₃] at hf₃
    exact (Prod.mk.inj (Except.ok.inj hf₃)).2.symm
  refine wp_bind (x := insertPendingPurchases codec [_]) (wp_bind (wp_insertPendingPurchase ?_ he))
  intro t₄ h₄ p hr₄ hi₄ hls₄ hle ht ham hfr hp₄
  obtain rfl : p.leadID = uid := by
    rw [show LeadPurchase.leadID _ = codec.string uid from
      congrArg codec.string (hi₁.keyed uid lead hl₁), hc.parse_string] at hle
    exact (Option.some.inj hle).symm
  have hlo₃ : .lead p.leadID ∈ h₃.locks := ha₃.locks hlo₁
  have hp₃ : ∀ x, h₃.pending x = (h.pending x).setLead p.leadID lead := by
    intro x
    rw [ha₃.pending, ha₁.pending]
  -- the buyers that were counted are those of the commit
  have hsa : t₄.purchasesOf p.leadID = t₂.purchasesOf p.leadID :=
    (hr₄.purchases p.leadID hlo₃).trans (hr₃.purchases p.leadID hlo₁)
  have hco : ((((t₂.purchasesOf p.leadID).map PurchaseRow.tenantID).map codec.string).length :
      Int) = (t₄.purchasesOf p.leadID).length := by
    rw [length_map, length_map, hsa]
  have hs : Sells codec cmd cfg lead t₄ p := by
    refine ⟨parse_of_parseOr hld, ht, ?_, ?_, ?_⟩
    · rw [ham, ← hco]
      rfl
    · rw [← hco]
      exact hli
    · intro q hq
      refine hfr q ?_
      rw [hp₃]
      show q ∈ (h.pending t₄).purchasesOf p.leadID
      rw [hof]
      exact hq
  have hr : Rely h.locks s t₄ :=
    discipline.trans hr₁ (discipline.trans (hr₂.weaken ha₁.locks)
      (discipline.trans (hr₃.weaken ha₁.locks) (hr₄.weaken (ha₁.locks.trans ha₃.locks))))
  have hl₄ : t₄.leads p.leadID = some lead := by
    rw [hr₄.leads, hl₃]
  have hd := hok t₄ h₄ lead p hr hi₄ ((ha₁.locks.trans ha₃.locks).trans hls₄)
    (hls₄ hlo₃) hl₄ hs (fun x => by rw [hp₄, hp₃])
  rw [ham] at hd
  exact wp_pure (wp_bind (wp_pure (wp_pure hd)))

end

/-! ## What a commit does -/

structure Adjusted (tid : UUID) (delta : Int) (db : Db) (row' : Row) : Prop where
  balance : row'.balance.toInt = db.balanceOf tid + delta
  version : row'.version.toInt = db.versionOf tid + 1

def ToppedUp (codec : UuidCodec) (cmd : TopupLeadCreditsCommand) (newBalance : Int64) (s t : Db) :
    Prop :=
  ∃ tid row' message, codec.parse cmd.tenantID = some tid ∧ Adjusted tid cmd.delta.toInt s row' ∧
    newBalance = row'.balance ∧ t = (s.setCredit tid row').publish [message]

def Sold (codec : UuidCodec) (cmd : PurchaseLeadCommand) (purchaseID : String) (price : Int64)
    (s t : Db) : Prop :=
  ∃ p row' lead cfg adjustment now, s.leads p.leadID = some lead ∧ s.tiers lead.tier = some cfg ∧
    Sells codec cmd cfg lead s p ∧ price = p.amountPaisa ∧
    Adjusted p.tenantID (-purchaseChargeCredits.toInt) s row' ∧
    t = ((s.setCredit p.tenantID row').addPurchase p).publish
      [adjustment, ⟨pgUUIDOrNull p.tenantID, .leadPurchasedV1 purchaseID cmd.purchasingTenantID
        cmd.platformLeadID now cmd.purchasingMembershipID price lead.form⟩]

def Execution.Post (codec : UuidCodec) : Execution → Int64 → Db → Db → Prop
  | topup _ cmd => ToppedUp codec cmd
  | purchase _ purchaseID cmd => Sold codec cmd purchaseID

variable {codec : UuidCodec} {s t : Db} {tid : UUID} {credit l : LeadCredit} {row' : Row}

structure Loaded (codec : UuidCodec) (tid : UUID) (db : Db) (credit : LeadCredit) : Prop where
  tenantID : codec.parse credit.tenantID = some tid
  balance : credit.balance.toInt = db.balanceOf tid
  version : credit.version.toInt = db.versionOf tid
  nonneg : 0 ≤ credit.balance
  events : credit.events = []

theorem loadCredit_found {id : String} {row : Row} (ht : codec.parse id = some tid)
    (hrow : s.credits tid = some row) :
    loadCredit codec id s = .ok (unmarshalFromDB codec tid row) := by
  unfold loadCredit
  rw [parseOr_ok ht]
  simp only [Bind.bind, Except.bind, hrow]

theorem loadCredit_missing {id : String} (ht : codec.parse id = some tid)
    (hrow : s.credits tid = none) :
    loadCredit codec id s = .error ⟨LeadCredit.errNotFound, ""⟩ := by
  unfold loadCredit
  rw [parseOr_ok ht]
  simp only [Bind.bind, Except.bind, hrow]

theorem loadCredit_unparsed {id : String} (ht : codec.parse id = none) :
    ∃ text, loadCredit codec id s = .error (.foreign text) := by
  unfold loadCredit parseOr
  rw [ht]
  exact ⟨_, rfl⟩

theorem loaded_row (hc : codec.Lawful) {row : Row}
    (hrow : s.credits tid = some row) : Loaded codec tid s (unmarshalFromDB codec tid row) := by
  refine ⟨hc.parse_string tid, ?_, ?_, row.check_balance, rfl⟩
  · unfold Db.balanceOf
    rw [hrow]
    rfl
  · unfold Db.versionOf
    rw [hrow]
    rfl

theorem loadCredit_eq_ok (hc : codec.Lawful) {id : String}
    (hl : loadCredit codec id s = .ok credit) :
    ∃ tid, codec.parse id = some tid ∧ Loaded codec tid s credit := by
  cases ht : codec.parse id with
  | none =>
    obtain ⟨text, he⟩ := loadCredit_unparsed (s := s) ht
    cases he.symm.trans hl
  | some tid =>
    cases hrow : s.credits tid with
    | none => exact nomatch (loadCredit_missing ht hrow).symm.trans hl
    | some row =>
      obtain rfl := Except.ok.inj ((loadCredit_found ht hrow).symm.trans hl)
      exact ⟨tid, rfl, loaded_row hc hrow⟩

theorem newForTenant_eq_ok {id : String} {now : Time}
    (hn : LeadCredit.newForTenant codec id now = .ok credit) :
    credit = { tenantID := id, balance := 0, version := 0, createdAt := now, updatedAt := now } := by
  obtain ⟨_, _, hn⟩ := except_bind_ok hn
  split at hn
  · cases hn
  · exact (Except.ok.inj hn).symm

theorem loaded_new {id : String} {now : Time} (ht : codec.parse id = some tid)
    (hrow : s.credits tid = none) (hn : LeadCredit.newForTenant codec id now = .ok credit) :
    Loaded codec tid s credit := by
  obtain rfl := newForTenant_eq_ok hn
  refine ⟨ht, ?_, ?_, Int64.le_refl 0, rfl⟩
  · unfold Db.balanceOf
    rw [hrow]
    rfl
  · unfold Db.versionOf
    rw [hrow]
    rfl

theorem creditOrNew_eq_ok (hco : codec.Lawful) {cmd : TopupLeadCreditsCommand} {now : Time}
    (hc : creditOrNew codec cmd now (loadCredit codec cmd.tenantID s) = .ok credit) :
    ∃ tid, codec.parse cmd.tenantID = some tid ∧ Loaded codec tid s credit := by
  cases ht : codec.parse cmd.tenantID with
  | none =>
    obtain ⟨text, he⟩ := loadCredit_unparsed (s := s) ht
    rw [he] at hc
    cases hc
  | some tid =>
    refine ⟨tid, rfl, ?_⟩
    cases hrow : s.credits tid with
    | some row =>
      rw [loadCredit_found ht hrow] at hc
      cases hc
      exact loaded_row hco hrow
    | none =>
      rw [loadCredit_missing ht hrow] at hc
      exact loaded_new ht hrow (except_mapError_ok hc)

theorem Written.adjusted {delta : Int} (hw : Written l tid t row')
    (hl : Loaded codec tid s credit) (hr : Rely ∅ s t) (ht : Consistent t)
    (hv : l.version = credit.version)
    (hb : l.balance.toInt = credit.balance.toInt + delta) : Adjusted tid delta t row' := by
  have hre : t.versionOf tid = s.versionOf tid := by
    rw [hw.read, hv, hl.version]
  refine ⟨?_, hw.version⟩
  rw [hw.balance, hb, hl.balance, hr.balanceOf_eq ht hre]

theorem guar_setCredit {H : Set Key} (hs : Consistent s) (hlo : .credit tid ∈ H)
    (hv : row'.version.toInt = s.versionOf tid + 1)
    (hc : t.credits = Function.update s.credits tid (some row')) (hl : t.leads = s.leads)
    (ht : t.tiers = s.tiers)
    (hp : ∀ lid, t.purchasesOf lid ≠ s.purchasesOf lid → .lead lid ∈ H) : Guar H s t := by
  have hn := hs.versionOf_nonneg tid
  refine ⟨hl, ht, ?_, ?_, ?_, hp⟩
  · intro tid' hne
    by_cases hti : tid' = tid
    · rw [hti]
      exact hlo
    · rw [hc, update_of_ne hti] at hne
      exact absurd rfl hne
  · intro tid'
    by_cases hti : tid' = tid
    · subst hti
      intro row hrow
      refine ⟨row', by rw [hc, update_self], .inr ?_⟩
      unfold Db.versionOf at hv
      rw [hrow] at hv
      dsimp only at hv
      omega
    · rw [hc, update_of_ne hti]
      exact .refl _
  · intro tid' row hrow
    by_cases hti : tid' = tid
    · subst hti
      rw [hc, update_self] at hrow
      cases hrow
      omega
    · rw [hc, update_of_ne hti] at hrow
      exact hs.numbered tid' row hrow

theorem Adjusted.stable {H : Set Key} {delta : Int} (ha : Adjusted tid delta s row')
    (hr : Rely H s t) (hl : .credit tid ∈ H) : Adjusted tid delta t row' := by
  have hs := hr.credit tid hl
  constructor
  · rw [Db.balanceOf_congr hs]
    exact ha.balance
  · rw [Db.versionOf_congr hs]
    exact ha.version

theorem Sells.stable {H : Set Key} {cmd : PurchaseLeadCommand} {cfg : PlatformLead.TierConfig}
    {lead : PlatformLead.Row} {p : PurchaseRow} (hs : Sells codec cmd cfg lead s p)
    (hr : Rely H s t) (hl : .lead p.leadID ∈ H) : Sells codec cmd cfg lead t p := by
  have hsa := hr.purchases p.leadID hl
  refine ⟨hs.leadID, hs.tenantID, ?_, ?_, ?_⟩
  · rw [hsa]
    exact hs.price
  · rw [hsa]
    exact hs.limit
  · rw [hsa]
    exact hs.fresh

theorem wp_getByTenant {Q : Except Err LeadCredit → Held Key Db → Db → Prop}
    (hco : codec.Lawful) {id : String} {s : Db}
    (hok : ∀ t tid credit, codec.parse id = some tid → Loaded codec tid t credit →
    Q (.ok credit) ⟨fun x => x, ∅⟩ t) (he : ∀ t e h, Q (.error e) h t) :
    (getByTenant codec id).wp discipline Q ⟨fun x => x, ∅⟩ s := by
  refine wp_query ?_
  intro t _ _
  cases hc : loadCredit codec id t with
  | error e => exact he _ _ _
  | ok credit =>
    obtain ⟨tid, ht, hl⟩ := loadCredit_eq_ok hco hc
    exact hok t tid credit ht hl

theorem meets_topup (hco : codec.Lawful) (cmd : TopupLeadCreditsCommand) (d : Draws) :
    Meets discipline (runOnceTopup codec cmd d) (ToppedUp codec cmd) := by
  intro s _
  refine wp_bind (wp_attempt (wp_query ?_))
  intro t₁ _ _
  refine wp_bind (wp_ofExcept ?_ fun _ _ _ => trivial)
  intro credit hc
  obtain ⟨tid, ht, hlo⟩ := creditOrNew_eq_ok hco hc
  refine wp_bind (wp_ofExcept ?_ fun _ _ _ => trivial)
  intro l hl
  obtain ⟨hd, rfl⟩ := topup_eq_ok (except_mapError_ok hl)
  refine wp_bind (wp_upsertWithVersion hlo.tenantID ?_ fun _ _ _ => trivial)
  intro t₂ h row' hr hi hlk hw hp
  have hb : (credit.balance + cmd.delta).toInt = credit.balance.toInt + cmd.delta.toInt := by
    refine toInt_balance_topup hlo.nonneg ?_
    rw [show credit.balance + cmd.delta = row'.balance from hw.balance.symm]
    exact row'.check_balance
  have ha : Adjusted tid cmd.delta.toInt t₂ row' := hw.adjusted hlo hr hi rfl hb
  refine wp_pure ?_
  intro u hr' hu
  have ha' := ha.stable hr' hlk
  rw [hp u, adjusted_events hlo.events]
  refine ⟨guar_setCredit hu hlk ha'.version rfl rfl rfl fun lid hne => absurd rfl hne, ?_⟩
  exact ⟨tid, row', _, ht, ha', hw.balance.symm, rfl⟩

theorem wp_chargeBuyer {Q : Except Err Unit → Held Key Db → Db → Prop} (hc : codec.Lawful)
    {cmd : PurchaseLeadCommand} {d : Draws} {s : Db}
    (hok : ∀ t h tid row' message, codec.parse cmd.purchasingTenantID = some tid →
    .credit tid ∈ h.locks → Adjusted tid (-purchaseChargeCredits.toInt) t row' →
    (∀ x, h.pending x = (x.setCredit tid row').publish [message]) → Q (.ok ()) h t)
    (he : ∀ t e h, Q (.error e) h t) : (chargeBuyer codec cmd d).wp discipline Q ⟨id, ∅⟩ s := by
  refine wp_bind (wp_mapError (wp_getByTenant hc ?_ fun _ _ _ => he _ _ _))
  intro t₁ tid credit ht hlo
  refine wp_bind (wp_ofExcept ?_ he)
  intro l hl
  obtain ⟨ha, hle, rfl⟩ := charge_eq_ok (except_mapError_ok hl)
  refine wp_upsertWithVersion hlo.tenantID ?_ he
  intro t₂ h row' hr hi hlk hw hp
  have had : Adjusted tid (-purchaseChargeCredits.toInt) t₂ row' :=
    hw.adjusted hlo hr hi rfl (toInt_balance_charge ha hle)
  rw [adjusted_events hlo.events] at hp
  exact hok t₂ h tid row' _ ht hlk had hp

theorem wp_sellLead {Q : Except Err Int64 → Held Key Db → Db → Prop} (hc : codec.Lawful)
    {cmd : PurchaseLeadCommand} {pu : String} {d : Draws} {h : Held Key Db} {s : Db}
    (hv : ∀ t, (h.pending t).leads = t.leads ∧ (h.pending t).purchases = t.purchases ∧
    (h.pending t).tiers = t.tiers)
    (hok : ∀ t h' lead cfg p, Rely h.locks s t → h.locks ⊆ h'.locks → .lead p.leadID ∈ h'.locks →
    t.leads p.leadID = some lead → t.tiers lead.tier = some cfg → Sells codec cmd cfg lead t p →
    (∀ x, h'.pending x = ((h.pending x).setLead p.leadID lead).addPurchase p) →
    Q (.ok p.amountPaisa) h' t) (he : ∀ t e h, Q (.error e) h t) :
    (sellLead codec cmd pu d).wp discipline Q h s := by
  refine wp_bind (wp_mapError (wp_getByID (fun t _ => (hv t).1) ?_ fun _ _ _ => he _ _ _))
  intro t₁ lid lead hr₁ _ hli hl
  refine wp_bind (wp_mapError (wp_getTier (fun t => (hv t).2.2) ?_ fun _ _ _ => he _ _ _))
  intro t₂ cfg hr₂ _ hcf
  refine wp_mapError (wp_updateByID hc (fun t => ⟨(hv t).1, (hv t).2.1⟩) ?_ fun _ _ _ => he _ _ _)
  intro t₃ h' lead₃ p hr₃ _ hlo hlk hl₃ hs hp
  have hli₃ : lid = p.leadID := Option.some.inj (hli.symm.trans hs.leadID)
  have hsa : lead₃ = lead := by
    rw [hr₃.leads, hr₂.leads, ← hli₃, hl] at hl₃
    exact (Option.some.inj hl₃).symm
  have hcf₃ : t₃.tiers lead₃.tier = some cfg := by
    rw [hr₃.tiers, hsa]
    exact hcf
  exact hok t₃ h' lead₃ cfg p (discipline.trans hr₁ (discipline.trans hr₂ hr₃)) hlo
    hlk hl₃ hcf₃ hs hp

theorem wp_announceSale {Q : Except Err Unit → Held Key Db → Db → Prop}
    {cmd : PurchaseLeadCommand} {p : String} {d : Draws} {price : Int64} {h : Held Key Db}
    {s : Db} (hv : ∀ t, Rely h.locks s t → (h.pending t).leads = t.leads)
    (hok : ∀ t h' lid lead, Rely h.locks s t → h.locks ⊆ h'.locks →
    codec.parse cmd.platformLeadID = some lid → t.leads lid = some lead →
    (∀ x, h'.pending x = (h.pending x).publish
    [⟨(codec.parse cmd.purchasingTenantID).bind pgUUIDOrNull, .leadPurchasedV1 p
    cmd.purchasingTenantID cmd.platformLeadID d.now cmd.purchasingMembershipID price
    lead.form⟩]) → Q (.ok ()) h' t) (he : ∀ t e h, Q (.error e) h t) :
    (announceSale codec cmd p d price).wp discipline Q h s := by
  refine wp_bind (wp_mapError (wp_getByID hv ?_ fun _ _ _ => he _ _ _))
  intro t₁ lid lead hr₁ _ hli hl
  refine wp_mapError (wp_publishOutbox (by simp) ?_ fun _ _ _ => he _ _ _)
  intro t₂ h' hr₂ _ hlo hp
  have hl₂ : t₂.leads lid = some lead := by
    rw [hr₂.leads, hl]
  exact hok t₂ h' lid lead (discipline.trans hr₁ hr₂) hlo hli hl₂ hp

theorem sale_store {tid lid : UUID} {lead : PlatformLead.Row} {p : PurchaseRow}
    {m₁ m₂ : OutboxMessage} (hl : s.leads lid = some lead) :
    ((((s.setCredit tid row').publish [m₁]).setLead lid lead).addPurchase p).publish [m₂] =
    ((s.setCredit tid row').addPurchase p).publish [m₁, m₂] := by
  have hs : ((s.setCredit tid row').publish [m₁]).setLead lid lead =
      (s.setCredit tid row').publish [m₁] := Db.setLead_self hl
  rw [hs]
  simp [Db.publish, Db.addPurchase]

theorem meets_purchase (hc : codec.Lawful) (cmd : PurchaseLeadCommand) (pu : String) (d : Draws) :
    Meets discipline (runOncePurchase codec cmd pu d) (Sold codec cmd pu) := by
  intro s _
  refine wp_bind (wp_chargeBuyer hc ?_ fun _ _ _ => trivial)
  intro t₁ h₁ tid row' adjustment ht hlk₁ ha hp₁
  refine wp_bind (wp_sellLead hc ?_ ?_ fun _ _ _ => trivial)
  · intro t
    rw [hp₁]
    exact ⟨rfl, rfl, rfl⟩
  intro t₂ h₂ lead cfg p hr₂ hlo₂ hlk₂ hl hcf hs hp₂
  obtain rfl : tid = p.tenantID := Option.some.inj (ht.symm.trans hs.tenantID)
  refine wp_bind (wp_announceSale ?_ ?_ fun _ _ _ => trivial)
  · intro t hr
    rw [hp₂, hp₁, Db.setLead_self]
    · rfl
    · exact (congrFun hr.leads _).trans hl
  intro t₃ h₃ lid lead₃ hr₃ hlo₃ hli hl₃ hp₃
  refine wp_pure ?_
  intro u hr hu
  -- what was locked is still there at the commit
  have hr' : Rely h₂.locks t₂ u := discipline.trans hr₃ (hr.weaken hlo₃)
  have ha' := ha.stable (discipline.trans hr₂ (hr'.weaken hlo₂)) hlk₁
  have hs' := hs.stable hr' hlk₂
  have hl' : u.leads p.leadID = some lead := (congrFun hr'.leads _).trans hl
  have hli' : lid = p.leadID := Option.some.inj (hli.symm.trans hs.leadID)
  obtain rfl : lead₃ = lead := by
    rw [hr₃.leads, hli', hl] at hl₃
    exact (Option.some.inj hl₃).symm
  rw [hp₃, hp₂, hp₁, sale_store hl']
  refine ⟨guar_setCredit hu (hlo₃ (hlo₂ hlk₁)) ha'.version rfl rfl rfl ?_, ?_⟩
  · intro lid' hne
    by_cases hl : p.leadID = lid'
    · exact hl ▸ hlo₃ hlk₂
    · refine absurd ?_ hne
      show (Db.addPurchase _ p).purchasesOf lid' = _
      rw [Db.purchasesOf_addPurchase, if_neg hl, append_nil]
      rfl
  · refine ⟨p, row', lead₃, cfg, adjustment, d.now, hl', ?_, hs', rfl, ha', ?_⟩
    · rw [hr'.tiers]
      exact hcf
    · rw [hs.tenantID]
      rfl

end Leadkart.Marketplace
