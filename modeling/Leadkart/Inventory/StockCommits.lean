import Leadkart.Inventory.StockLedger

/-!
# What the commands of the stock ledger commit
-/

namespace Leadkart.StockLedger

open Effect UuidCodec Transaction Transactions

/-! ## The discipline -/

def discipline : Discipline Key Db where
  Inv _ := True
  Guar H s t := ∀ bid, t.batch bid ≠ s.batch bid → .batch bid ∈ H
  Rely H s t := ∀ bid, .batch bid ∈ H → t.batch bid = s.batch bid
  refl _ _ _ _ := rfl
  trans hst htu bid hlock := (htu bid hlock).trans (hst bid hlock)
  keeps _ _ := trivial
  apart _ hguar hdisjoint bid hlock := by
    by_contra hne
    exact hdisjoint _ (hguar bid hne) hlock

section

variable {codec : UuidCodec} {settings : Settings} {s t : Db} {h : Held Key Db} {bid : UUID}
  {row : Batch.Row} {b : Batch}

theorem Db.batch_setBatch_self (db : Db) : (db.setBatch bid row).batch bid = some row :=
  AList.lookup_insert _

theorem Db.batch_setBatch_of_ne (db : Db) {other : UUID} (hne : other ≠ bid) :
    (db.setBatch bid row).batch other = db.batch other := AList.lookup_insert_ne hne

theorem guar_setBatch {H : Set Key} (hl : .batch bid ∈ H)
    (hb : ∀ other, t.batch other = (s.setBatch bid row).batch other) : discipline.Guar H s t := by
  intro other hne
  by_cases heq : other = bid
  · rw [heq]
    exact hl
  · rw [hb, Db.batch_setBatch_of_ne s heq] at hne
    exact absurd rfl hne

theorem findBatch_eq_ok {text : String} (hf : findBatch codec settings text bid s = .ok row) :
    s.batch bid = some row := by
  unfold findBatch at hf
  split at hf
  · cases hf
  next row' hrow' =>
    obtain ⟨pass, -, hf⟩ := except_bind_ok hf
    cases pass with
    | false => cases hf
    | true =>
      cases hf
      exact (Option.filter_eq_some_iff.mp hrow').1

variable {Q : Except Err Unit → Held Key Db → Db → Prop} {id : String}

theorem wp_lockBatchRowForUpdate
    (hok : ∀ t h' bid row, codec.parse id = some bid → t.batch bid = some row →
    .batch bid ∈ h'.locks → (∀ x, h'.pending x = x) → Q (.ok ()) h' t)
    (he : ∀ t e h, Q (.error e) h t) :
    (lockBatchRowForUpdate codec settings id).wp discipline Q ⟨fun x => x, ∅⟩ s := by
  refine wp_bind (wp_ofExcept ?_ he)
  intro bid hid
  refine wp_statement ?_ he
  intro t _ write h' _ _ hf ha
  cases hfo : findBatch codec settings "batch repo: lock for update: " bid t with
  | error e =>
    rw [hfo] at hf
    cases hf
  | ok row =>
    rw [hfo] at hf ha
    cases hf
    exact hok t h' bid row (parse_of_parseOr hid) (findBatch_eq_ok hfo)
      (ha.keys _ (List.mem_singleton_self _)) ha.pending

theorem wp_loadBatch {Q : Except Err Batch → Held Key Db → Db → Prop} (hv : ∀ x, h.pending x = x)
    (hid : codec.parse id = some bid) (hrow : s.batch bid = some row) (hl : .batch bid ∈ h.locks)
    (hok : ∀ t, t.batch bid = some row → Q (.ok (Batch.rowToBatch codec bid row.1)) h t)
    (he : ∀ t e h, Q (.error e) h t) : (loadBatch codec settings id).wp discipline Q h s := by
  refine wp_bind (wp_ofExcept ?_ he)
  intro bid' hid'
  obtain rfl : bid' = bid := Option.some.inj ((parse_of_parseOr hid').symm.trans hid)
  refine wp_bind (wp_query ?_)
  intro t hr _
  rw [hv]
  have hrow' : t.batch bid' = some row := (hr bid' hl).trans hrow
  cases hf : findBatch codec settings "batch repo: get by id: " bid' t with
  | error e => exact he _ _ _
  | ok found =>
    obtain rfl := Option.some.inj ((findBatch_eq_ok hf).symm.trans hrow')
    exact wp_pure (hok t hrow')

variable {version : Int64}

theorem versionedBatch_eq_ok (hf : versionedBatch codec settings bid version s = .ok (some row)) :
    s.batch bid = some row := by
  unfold versionedBatch at hf
  split at hf
  · cases hf
  next row' hrow' =>
    obtain ⟨pass, -, hf⟩ := except_bind_ok hf
    cases pass with
    | false => cases hf
    | true =>
      obtain rfl := Option.some.inj (Except.ok.inj hf)
      exact (Option.filter_eq_some_iff.mp hrow').1

variable {write : Db → Db}

theorem updateBatchRow_eq_ok {a : Nat}
    (hf : updateBatchRow codec settings bid b version s = .ok (a, write)) :
    a = 0 ∨ ∃ row, ∃ hvalid : (b.updateParams row.1).Valid, s.batch bid = some row ∧
    write = fun db => db.setBatch bid ⟨b.updateParams row.1, hvalid⟩ := by
  obtain ⟨found, hfo, hf⟩ := except_bind_ok hf
  cases found with
  | none => exact .inl (Prod.mk.inj (Except.ok.inj hf)).1.symm
  | some row =>
    dsimp only at hf
    split at hf
    next hvalid =>
      split at hf
      · cases hf
      · exact .inr ⟨row, hvalid, versionedBatch_eq_ok hfo, (Prod.mk.inj (Except.ok.inj hf)).2.symm⟩
    next => cases hf

theorem wp_updateOnTx {Q : Except Err Batch → Held Key Db → Db → Prop} (hc : codec.Lawful)
    {updateFn : Batch → Except Err (Bool × Batch)}
    (hfn : ∀ b persist b', updateFn b = .ok (persist, b') →
    persist = true ∧ b'.id = b.id ∧ b'.events = b.events)
    (hok : ∀ t h' bid row b', ∀ hvalid : (b'.updateParams row.1).Valid,
    codec.parse id = some bid → t.batch bid = some row → .batch bid ∈ h'.locks →
    updateFn (Batch.rowToBatch codec bid row.1) = .ok (true, b') →
    (∀ x, h'.pending x = x.setBatch bid ⟨b'.updateParams row.1, hvalid⟩) → Q (.ok b') h' t)
    (he : ∀ t e h, Q (.error e) h t) :
    (updateOnTx codec settings id updateFn).wp discipline Q ⟨fun x => x, ∅⟩ s := by
  refine wp_bind (wp_lockBatchRowForUpdate ?_ he)
  intro t₁ h₁ bid row hid hrow₁ hl₁ hv₁
  refine wp_bind (wp_loadBatch hv₁ hid hrow₁ hl₁ ?_ he)
  intro t₂ hrow₂
  refine wp_bind (wp_ofExcept ?_ he)
  rintro ⟨persist, b'⟩ hu
  obtain ⟨rfl, hid', hev⟩ := hfn _ _ _ hu
  show Transaction.wp _ _ (if true = true then _ else _) _ _
  rw [if_pos rfl]
  -- the row that is written back is found under its own id
  refine wp_bind (wp_bind (wp_ofExcept ?_ he))
  intro bid' hp
  obtain rfl : bid' = bid := by
    rw [hid'] at hp
    have hr := parse_of_parseOr hp
    exact Option.some.inj (hr.symm.trans (hc.parse_string bid))
  refine wp_statement ?_ he
  intro t₃ affected write h₃ hre₃ _ hf ha
  rw [hv₁] at hf
  have hrow₃ : t₃.batch bid' = some row := (hre₃ bid' hl₁).trans hrow₂
  rcases updateBatchRow_eq_ok hf with rfl | ⟨row', hvalid, hrow', rfl⟩
  · exact wp_fail (he _ _ _)
  obtain rfl := Option.some.inj (hrow'.symm.trans hrow₃)
  show Transaction.wp _ _ (if affected = 0 then _ else _) _ _
  split
  · exact wp_fail (he _ _ _)
  · -- neither the row nor the movement left an event on the batch
    rw [show b'.events = [] from hev]
    refine wp_bind (wp_pure (wp_pure ?_))
    refine hok t₃ h₃ bid' row' b' hvalid hid hrow₃ (ha.locks hl₁) hu ?_
    intro x
    rw [ha.pending, hv₁]

theorem wp_writeOutboxEvents {tenantID : UUID} {ev : List IntegrationEvent} (hne : ev ≠ [])
    (hok : ∀ t h', discipline.Rely h.locks s t → h.locks ⊆ h'.locks → (∀ x, h'.pending x =
    (h.pending x).publish (ev.map (OutboxMessage.mk (pgUUIDOrNull tenantID)))) →
    Q (.ok ()) h' t) (he : ∀ t e h, Q (.error e) h t) :
    (writeOutboxEvents tenantID ev).wp discipline Q h s := by
  unfold writeOutboxEvents
  rw [if_neg (by simpa using hne)]
  refine wp_statement ?_ he
  intro t _ write h' hr _ hf ha
  cases hf
  exact hok t h' hr ha.locks ha.pending

variable {tenantID : String}

theorem wp_drainEvents {β : Type} {me : β → Except Err IntegrationEvent} {e : β}
    (hok : ∀ t h' me, discipline.Rely h.locks s t → h.locks ⊆ h'.locks →
    (∀ x, h'.pending x = (h.pending x).publish [me]) → Q (.ok ()) h' t)
    (he : ∀ t e h, Q (.error e) h t) : (drainEvents codec me tenantID [e]).wp discipline Q h s := by
  refine wp_bind (wp_ofExcept ?_ he)
  intro tid _
  refine wp_bind (wp_ofExcept ?_ he)
  intro mapped hm
  obtain ⟨m, rfl⟩ : ∃ m, mapped = [m] := by
    rw [List.mapM_cons] at hm
    simp only [except_bind_eq_ok] at hm
    obtain ⟨m, -, ms, hms, hm⟩ := hm
    cases hms
    exact ⟨m, (Except.ok.inj hm).symm⟩
  exact wp_writeOutboxEvents (List.cons_ne_nil _ _) (fun t h' => hok t h' _) he

variable {c : StockMovement.Columns}

theorem insertMovement_eq_ok {u : Unit} (hf : insertMovement codec settings c s = .ok (u, write)) :
    ∃ hvalid : c.Valid, write = fun db => db.addMovement ⟨c, hvalid⟩ := by
  obtain ⟨_, _, hf⟩ := except_bind_ok hf
  split at hf
  next hvalid =>
    split at hf
    · cases hf
    split at hf
    · cases hf
    · exact ⟨hvalid, (Prod.mk.inj (Except.ok.inj hf)).2.symm⟩
  next => cases hf

variable {m : StockMovement}

theorem movementParams_eq_ok (hc : movementParams codec m = .ok c) :
    codec.parse m.batchID = some c.batchID ∧ c.movementType = m.movementType ∧
    c.quantity = m.quantity ∧ c.quantityOnHandAfter = m.quantityOnHandAfter := by
  simp only [movementParams, except_bind_eq_ok] at hc
  obtain ⟨_, _, batchID, hb, _, _, _, _, _, _, hc⟩ := hc
  cases hc
  exact ⟨parse_of_parseOr hb, rfl, rfl, rfl⟩

theorem wp_addMovementOnTx {e : StockMovement.LoggedEvent} (hev : m.events = [e])
    (hok : ∀ t h' c message, ∀ hvalid : c.Valid, movementParams codec m = .ok c →
    discipline.Rely h.locks s t → h.locks ⊆ h'.locks →
    (∀ x, h'.pending x = ((h.pending x).addMovement ⟨c, hvalid⟩).publish [message]) →
    Q (.ok ()) h' t) (he : ∀ t e h, Q (.error e) h t) :
    (addMovementOnTx codec settings m).wp discipline Q h s := by
  refine wp_bind (wp_bind (wp_ofExcept ?_ he))
  intro c hc
  refine wp_statement ?_ he
  intro t₁ _ write h₁ hr₁ _ hf ha
  obtain ⟨hvalid, rfl⟩ := insertMovement_eq_ok hf
  rw [hev]
  refine wp_drainEvents ?_ he
  intro t₂ h₂ message hr₂ hlo₂ hp₂
  refine hok t₂ h₂ c message hvalid hc ?_ (ha.locks.trans hlo₂) ?_
  · intro bid hl
    exact (hr₂ bid (ha.locks hl)).trans (hr₁ bid hl)
  · intro x
    rw [hp₂, ha.pending]

theorem wp_getProduct {Q : Except Err Product → Held Key Db → Db → Prop}
    {history : List (List (String × String))}
    (hok : ∀ t p pid, codec.parse id = some pid → p.id = codec.string pid → Q (.ok p) h t)
    (he : ∀ t e h, Q (.error e) h t) :
    (getProduct codec history tenantID id).wp discipline Q h s := by
  refine wp_bind (wp_ofExcept ?_ he)
  intro bound _
  refine wp_bind (wp_ofExcept ?_ he)
  intro pid hp
  refine wp_bind (wp_query ?_)
  intro t _ _
  cases findProduct codec bound pid (h.pending t) with
  | error e => exact he _ _ _
  | ok row => exact wp_pure (hok _ _ pid (parse_of_parseOr hp) rfl)

variable {pid tid : UUID}

theorem insertBatch_eq_ok {u : Unit}
    (hf : insertBatch codec settings bid pid tid b s = .ok (u, write)) :
    s.batch bid = none ∧ ∃ c, ∃ hvalid : c.Valid, b.insertParams pid tid = some c ∧
    write = fun db => db.setBatch bid ⟨c, hvalid⟩ := by
  obtain ⟨_, _, hf⟩ := except_bind_ok hf
  split at hf
  · cases hf
  next c hc =>
    split at hf
    next hvalid =>
      split at hf
      · cases hf
      next hnone =>
        split at hf
        · cases hf
        split at hf
        · cases hf
        · exact ⟨by simpa using hnone, c, hvalid, hc, (Prod.mk.inj (Except.ok.inj hf)).2.symm⟩
    next => cases hf

theorem insertParams_eq_some {c : Batch.Columns} (hc : b.insertParams pid tid = some c) :
    c.productID = pid ∧ c.quantityOnHand = b.quantityOnHand ∧ c.version = b.version := by
  obtain ⟨_, _, hc⟩ := Option.bind_eq_some_iff.mp hc
  obtain ⟨_, _, hc⟩ := Option.bind_eq_some_iff.mp hc
  cases hc
  exact ⟨rfl, rfl, rfl⟩

theorem wp_addBatchOnTx {e : Batch.AddedEvent} (hev : b.events = [e])
    (hok : ∀ t h' bid, ∀ c : Batch.Columns, ∀ (hvalid : c.Valid) (me : OutboxMessage),
    codec.parse b.productID = some c.productID → c.quantityOnHand = b.quantityOnHand →
    c.version = b.version → t.batch bid = none → .batch bid ∈ h'.locks →
    (∀ x, h'.pending x = (x.setBatch bid ⟨c, hvalid⟩).publish [me]) → Q (.ok ()) h' t)
    (he : ∀ t e h, Q (.error e) h t) :
    (addBatchOnTx codec settings b).wp discipline Q ⟨fun x => x, ∅⟩ s := by
  refine wp_bind (wp_bind (wp_ofExcept ?_ he))
  intro bid _
  refine wp_bind (wp_ofExcept ?_ he)
  intro pid hpi
  refine wp_bind (wp_ofExcept ?_ he)
  intro tid _
  refine wp_statement ?_ he
  intro t₁ _ write h₁ _ _ hf ha
  obtain ⟨hnone, c, hvalid, hc, rfl⟩ := insertBatch_eq_ok hf
  obtain ⟨rfl, hq, hv⟩ := insertParams_eq_some hc
  have hl₁ : .batch bid ∈ h₁.locks := by
    refine ha.keys _ ?_
    rw [show (t₁.batch bid) = none from hnone]
    exact List.mem_cons_self
  rw [hev]
  refine wp_drainEvents ?_ he
  intro t₂ h₂ me hr₂ hlo₂ hp₂
  refine hok t₂ h₂ bid c hvalid me (parse_of_parseOr hpi) hq hv ?_ (hlo₂ hl₁) ?_
  · exact (hr₂ bid hl₁).trans hnone
  · intro x
    rw [hp₂, ha.pending]

end

/-! ## What a commit does -/

structure Shelved (D : UUID → Prop) (s t : Db) : Prop where
  batches : t.batches = s.batches
  movements : t.movements = s.movements
  deleted (pid : UUID) (row : Product.Row) : t.product pid = some row → row.1.isDeleted = true →
    D pid ∨ ∃ row', s.product pid = some row' ∧ row'.1.isDeleted = true

def Added (codec : UuidCodec) (cmd : AddBatchCommand) (s t : Db) : Prop :=
  ∃ bid row message, codec.parse cmd.productID = some row.1.productID ∧ s.batch bid = none ∧
    row.1.quantityOnHand = 0 ∧ row.1.version = 0 ∧ t = (s.setBatch bid row).publish [message]

structure Logged (codec : UuidCodec) (cmd : LogStockMovementCommand) (s t : Db) (bid : UUID)
    (row row' : Batch.Row) (m : StockMovement.Row) : Prop where
  batchID : codec.parse cmd.batchID = some bid
  ofBatch : m.1.batchID = bid
  found : s.batch bid = some row
  onHand : row'.1.quantityOnHand.toInt = row.1.quantityOnHand.toInt + m.moved
  after : m.1.quantityOnHandAfter = row'.1.quantityOnHand
  version : row'.1.version = row.1.version + 1
  store : ∃ message, t = ((s.setBatch bid row').addMovement m).publish [message]

structure Moved (cmd : LogStockMovementCommand) (row row' : Batch.Row) : Prop where
  productID : row'.1.productID = row.1.productID
  isDeleted : row'.1.isDeleted = row.1.isDeleted
  onHand : ∃ type, MovementType.parse cmd.movementType = some type ∧ 0 < cmd.quantity ∧
    row'.1.quantityOnHand.toInt = row.1.quantityOnHand.toInt + type.delta cmd.quantity.toInt

def named (codec : UuidCodec) (id : String) (pid : UUID) : Prop := codec.parse id = some pid

def Execution.Post (codec : UuidCodec) : Execution → Result → Db → Db → Prop
  | create _ _ _ _, _, s, t => Shelved (fun _ => False) s t
  | delete _ cmd, _, s, t => Shelved (named codec cmd.productID) s t
  | add _ cmd, _, s, t => Added codec cmd s t
  | log _ cmd, _, s, t =>
    ∃ bid row row' m, Logged codec cmd s t bid row row' m ∧ Moved cmd row row'

section

variable {codec : UuidCodec} {D : UUID → Prop} {s t u : Db}

variable (history : List (List (String × String)))

theorem Shelved.refl (s : Db) : Shelved D s s where
  batches := rfl
  movements := rfl
  deleted _ row hrow hd := .inr ⟨row, hrow, hd⟩

theorem Shelved.trans (hst : Shelved D s t) (htu : Shelved D t u) : Shelved D s u where
  batches := htu.batches.trans hst.batches
  movements := htu.movements.trans hst.movements
  deleted pid row hrow hd := by
    rcases htu.deleted pid row hrow hd with hD | ⟨row', hrow', hd'⟩
    · exact .inl hD
    · exact hst.deleted pid row' hrow' hd'

theorem shelved_publish (s : Db) (me : List OutboxMessage) : Shelved D s (s.publish me) where
  batches := rfl
  movements := rfl
  deleted _ row hrow hd := .inr ⟨row, hrow, hd⟩

theorem shelved_setProduct {pid : UUID} {row : Product.Row} (s : Db)
    (hrow : row.1.isDeleted = true → D pid) : Shelved D s (s.setProduct pid row) where
  batches := rfl
  movements := rfl
  deleted other row' hrow' hd := by
    by_cases heq : other = pid
    · subst heq
      obtain rfl := Option.some.inj ((AList.lookup_insert _).symm.trans hrow')
      exact .inl (hrow hd)
    · exact .inr ⟨row', (AList.lookup_insert_ne heq).symm.trans hrow', hd⟩

theorem guar_shelved (H : Set Key) (s t : Db) (h : Shelved D s t) : discipline.Guar H s t := by
  intro bid hne
  refine absurd ?_ hne
  unfold Db.batch
  rw [h.batches]

theorem within_drainEvents {β : Type} (me : β → Except Err IntegrationEvent)
    (tenantID : String) (e : List β) : (drainEvents codec me tenantID e).Within (Shelved D) := by
  unfold drainEvents
  split
  · trivial
  refine within_ofExcept_bind fun tid _ => within_ofExcept_bind fun mapped _ => ?_
  unfold writeOutboxEvents
  split
  · trivial
  refine within_statement Shelved.refl fun s a w hw t => ?_
  cases hw
  exact shelved_publish t _

theorem within_addProduct (p : Product) :
    (addProduct codec history p).Within (Shelved D) := by
  refine within_ofExcept_bind fun settings _ => ?_
  refine within_bind ?_ fun _ => within_drainEvents _ _ _
  refine within_ofExcept_bind fun pid _ => within_ofExcept_bind fun tid _ => ?_
  refine within_statement Shelved.refl fun s a w hw t => ?_
  obtain ⟨_, -, hw⟩ := except_bind_ok hw
  split at hw
  · split at hw
    · cases hw
    split at hw
    · cases hw
    cases hw
    exact shelved_setProduct t fun hd => nomatch hd
  · cases hw

theorem within_persistProductState {settings : Settings} {p : Product}
    (hid : ∀ pid, codec.parse p.id = some pid → D pid) :
    (persistProductState codec settings p).Within (Shelved D) := by
  refine within_ofExcept_bind fun pid hp => ?_
  have hp := hid pid (parse_of_parseOr hp)
  refine within_statement Shelved.refl fun s a w hw t => ?_
  split at hw
  · obtain ⟨found, -, hw⟩ := except_bind_ok hw
    cases found with
    | none =>
      cases hw
      exact Shelved.refl t
    | some row =>
      cases hw
      exact shelved_setProduct t fun _ => hp
  · obtain ⟨found, -, hw⟩ := except_bind_ok hw
    cases found with
    | none =>
      cases hw
      exact Shelved.refl t
    | some row =>
      dsimp only at hw
      split at hw
      · obtain ⟨-, rfl⟩ := Prod.mk.inj (Except.ok.inj hw)
        exact shelved_setProduct t fun _ => hp
      · cases hw

theorem within_getProduct (tenantID id : String) :
    (getProduct codec history tenantID id).Within (Shelved D) :=
  within_ofExcept_bind fun _ _ => within_ofExcept_bind fun _ _ =>
    within_query_bind fun _ _ _ => within_ofExcept _

theorem within_anyLiveWithStockForProduct
    (tenantID id : String) :
    (anyLiveWithStockForProduct codec history tenantID id).Within (Shelved D) :=
  within_ofExcept_bind fun _ _ => within_ofExcept_bind fun _ _ => fun _ => trivial

theorem within_updateProductByID (hc : codec.Lawful)
    {history : List (List (String × String))} {tenantID id : String}
    {updateFn : Product → Except Err (Bool × Product)}
    (hfn : ∀ p r, updateFn p = .ok r → r.2.id = p.id) :
    (updateProductByID codec history tenantID id updateFn).Within (Shelved (named codec id)) := by
  refine within_ofExcept_bind fun settings _ => ?_
  unfold loadProduct
  rw [Transaction.bind_assoc]
  refine within_ofExcept_bind fun pid hpi => ?_
  have hpi := parse_of_parseOr hpi
  rw [Transaction.bind_assoc]
  refine within_query_bind fun s row _ => within_ofExcept_bind fun p hp => ?_
  cases hp
  refine within_ofExcept_bind fun r hr => ?_
  have hid : r.2.id = codec.string pid := hfn _ r hr
  dsimp only
  split
  · refine within_bind (within_persistProductState fun pid' hpi' => ?_)
      fun _ => within_drainEvents _ _ _
    rw [hid, hc.parse_string] at hpi'
    cases hpi'
    exact hpi
  · trivial

theorem meets_create (tr : String → String) (d : GstDefaults) (env : Env)
    (cmd : CreateProductCommand) : Meets discipline (createProduct codec tr d env cmd) fun _ =>
      Shelved fun _ => False := by
  refine meets_of_within Shelved.refl Shelved.trans guar_shelved ?_
  refine within_ofExcept_bind fun _ _ => within_ofExcept_bind fun p _ => ?_
  exact within_bind (within_mapError (within_addProduct _ p)) fun _ => within_ofExcept _

theorem meets_delete (hc : codec.Lawful) (env : Env) (cmd : DeleteProductCommand) :
    Meets discipline (deleteProduct codec env cmd) fun _ =>
      Shelved (named codec cmd.productID) := by
  refine meets_of_within Shelved.refl Shelved.trans guar_shelved ?_
  unfold deleteProduct
  split
  · trivial
  refine within_bind (within_getProduct _ _ _) fun _ => ?_
  refine within_bind (within_mapError (within_anyLiveWithStockForProduct _ _ _)) fun ha => ?_
  split
  · trivial
  refine within_bind (within_mapError (within_updateProductByID hc fun p r hr => ?_))
    fun _ => within_ofExcept _
  obtain ⟨p', hp', hr⟩ := except_bind_ok hr
  cases hr
  exact (Product.softDelete_eq_ok hp').2.1

end

variable {codec : UuidCodec}

theorem signedQuantity_moved {raw : String} {t : MovementType} {q : Int64}
    (h : MovementType.parse raw = some t) (hq : 0 < q) :
    (if t.isMutating then (signedQuantityForType raw q).toInt else 0) = t.delta q.toInt := by
  obtain rfl := MovementType.string_of_parse h
  cases t with
  | outbound => exact MachineInt.toInt_neg_of_nonneg (Int64.le_of_lt hq)
  | inbound => rfl
  | adjustment => rfl
  | reservation => rfl
  | release => rfl

theorem meets_add (hco : codec.Lawful) (env : Env) (cmd : AddBatchCommand) :
    Meets discipline (addBatch codec env cmd) fun _ => Added codec cmd := by
  intro s _
  unfold addBatch
  split
  · exact wp_fail trivial
  refine wp_bind (wp_ofExcept ?_ fun _ _ _ => trivial)
  intro settings _
  refine wp_bind (wp_mapError (wp_getProduct ?_ fun _ _ _ => trivial))
  intro t p pid hpi hpi'
  show Transaction.wp _ _ (if p.deleted then _ else _) _ _
  split
  · exact wp_fail trivial
  refine wp_bind (wp_ofExcept ?_ fun _ _ _ => trivial)
  intro b hb
  obtain ⟨hp, hq, hv, e, he⟩ := Batch.new_eq_ok (except_mapError_ok hb)
  refine wp_bind (wp_mapError (wp_addBatchOnTx he ?_ fun _ _ _ => trivial))
  intro t₂ h₂ bid c hvalid message hcp hc hcv hnone hl hpe
  refine wp_pure ?_
  intro u hr _
  have hnone' : u.batch bid = none := (hr bid hl).trans hnone
  rw [hpe]
  refine ⟨guar_setBatch hl fun _ => rfl, bid, ⟨c, hvalid⟩, message, ?_, hnone', ?_, ?_, rfl⟩
  · rw [hp, hpi', hco.parse_string] at hcp
    exact hpi.trans hcp
  · exact hc.trans hq
  · exact hcv.trans hv

theorem meets_log (hco : codec.Lawful) (env : Env) (cmd : LogStockMovementCommand) :
    Meets discipline (logStockMovement codec env cmd) fun _ s t =>
      ∃ bid row row' m, Logged codec cmd s t bid row row' m ∧ Moved cmd row row' := by
  intro s _
  unfold logStockMovement
  split
  · exact wp_fail trivial
  split
  · exact wp_fail trivial
  split
  · exact wp_fail trivial
  next hz =>
    split
    · exact wp_fail trivial
    next hne =>
      have hqu : 0 < cmd.quantity := Int64.lt_of_le_of_ne (Int64.not_lt.mp hne) (Ne.symm hz)
      refine wp_bind (wp_ofExcept ?_ fun _ _ _ => trivial)
      intro settings _
      refine wp_bind (wp_updateOnTx hco ?_ ?_ fun _ _ _ => trivial)
      · intro b persist b' hb
        obtain ⟨applied, ha, hb⟩ := except_bind_ok hb
        cases hb
        obtain ⟨-, -, hid, -, he⟩ := Batch.applyMovement_eq_ok ha
        exact ⟨rfl, hid, he⟩
      intro t₁ h₁ bid row b' hvalid hid hrow hl hb hp₁
      obtain ⟨applied, ha, hb⟩ := except_bind_ok hb
      obtain ⟨-, rfl⟩ := Prod.mk.inj (Except.ok.inj hb)
      obtain ⟨⟨type, ht, hn⟩, hv, hid', hk, -⟩ := Batch.applyMovement_eq_ok ha
      refine wp_bind (wp_ofExcept ?_ fun _ _ _ => trivial)
      intro m hm
      obtain ⟨hba, ht', hq, haf, e, he⟩ := StockMovement.new_eq_ok (except_mapError_ok hm)
      refine wp_bind (wp_mapError (wp_addMovementOnTx he ?_ fun _ _ _ => trivial))
      intro t₂ h₂ c message hvalid' hc hr₂ hlo₂ hp₂
      refine wp_pure ?_
      intro u hr _
      obtain ⟨hc₁, hc₂, hc₃, hc₄⟩ := movementParams_eq_ok hc
      have hrow' : u.batch bid = some row := ((hr bid (hlo₂ hl)).trans (hr₂ bid hl)).trans hrow
      have hbi : c.batchID = bid := by
        rw [hba, show (movementSpec cmd applied).batchID = codec.string bid from hid'] at hc₁
        exact Option.some.inj (hc₁.symm.trans (hco.parse_string bid))
      have hmo : StockMovement.Row.moved ⟨c, hvalid'⟩ = type.delta cmd.quantity.toInt := by
        obtain rfl : m.movementType = type := Option.some.inj (ht'.symm.trans ht)
        rw [← signedQuantity_moved ht hqu]
        unfold StockMovement.Row.moved
        rw [hc₂, hc₃, hq]
        rfl
      have hn' := Batch.toInt_quantityAfter hn row.2.quantityOnHand hvalid.quantityOnHand
      rw [hp₂, hp₁]
      refine ⟨guar_setBatch (hlo₂ hl) fun _ => rfl, bid, row,
        ⟨applied.updateParams row.1, hvalid⟩, ⟨c, hvalid'⟩, ?_, ?_⟩
      · exact
          { batchID := hid
            ofBatch := hbi
            found := hrow'
            onHand := by
              rw [hmo]
              exact hn'
            after := hc₄.trans haf
            version := hv
            store := ⟨message, rfl⟩ }
      · exact
          { productID := rfl
            isDeleted := hk
            onHand := ⟨type, ht, hqu, hn'⟩ }

theorem meets_client (hc : codec.Lawful) (e : Execution) (n : Nat) :
    Meets discipline ((e.client codec).attempt n) (e.Post codec) := by
  cases e with
  | create toUpper defaults env cmd => exact meets_create toUpper defaults env cmd
  | delete env cmd => exact meets_delete hc env cmd
  | add env cmd => exact meets_add hc env cmd
  | log env cmd => exact meets_log hc env cmd

end Leadkart.StockLedger
