import Leadkart.Inventory.ProductUpdate
import Leadkart.Inventory.StockLedger
import Leadkart.Logic.FirstWrite

/-!
# The events of a product
-/

namespace Leadkart.StockLedger

open List Effect Machine Transaction Transactions

inductive Mutation where
  | update (name : Option String) (gstRateBps : Option Int) (isActive : Option Bool)
      (manufacturer : Option String)
  | activate
  | deactivate
  | delete

structure ProductExecution where
  env : Env
  (tenantID productID actorMembershipID : String)
  mutation : Mutation

def saved : Product × Except Err Unit → Except Err (Bool × Product)
  | (p, .ok ()) => .ok (true, p)
  | (_, .error e) => .error e

namespace ProductExecution

variable (codec : UuidCodec) (x : ProductExecution)

def updateByID (mutate : Product → String → Time → Product × Except Err Unit) : Tx Unit :=
  updateProductByID codec x.env.history x.tenantID x.productID fun p =>
    saved (mutate p x.actorMembershipID x.env.now)

def tx : Tx Unit :=
  match x.mutation with
  | .update name gstRateBps isActive manufacturer =>
    if x.tenantID = "" then fail (.foreign "update_product: tenant id required")
    else
      (x.updateByID codec fun p actorID now =>
        p.update actorID { name, gstRateBps, isActive, manufacturer } now).mapError
          (wrapError "update product: ")
  | .activate => x.updateByID codec Product.activate
  | .deactivate => x.updateByID codec Product.deactivate
  | .delete => do
    let _ ← deleteProduct codec x.env
      { tenantID := x.tenantID, productID := x.productID, actorMembershipID := x.actorMembershipID }

def client : Client Key Db Err Unit where
  attempt _ := x.tx codec
  giveUp _ err := some err

end ProductExecution

def isSoftDeleted : Product.Event → Bool
  | .softDeleted .. => true
  | _ => false

section Agreement

variable (pid : UUID)

def IntegrationEvent.deletes : IntegrationEvent → Bool
  | productSoftDeletedV1 productID .. => productID = pid
  | _ => false

def IntegrationEvent.changes : IntegrationEvent → Bool
  | productUpdatedV1 productID .. => productID = pid
  | productDeactivatedV1 productID .. => productID = pid
  | _ => false

def Db.productLive (db : Db) : Bool := (db.product pid).any fun row => !row.1.isDeleted

def Db.productTenant (db : Db) : Option UUID := (db.product pid).map fun row => row.1.tenantID

structure Agrees (db : Db) : Prop where
  final : db.outbox.Pairwise fun m m' => m.event.deletes pid = true →
    m'.event.deletes pid = false ∧ m'.event.changes pid = false
  live : db.productLive pid = true → ∀ m ∈ db.outbox, m.event.deletes pid = false

end Agreement

variable {codec : UuidCodec} {settings : Settings} {pid : UUID} {T : Option UUID} {p p' : Product}
  {s : Db}

structure Mutated (p p' : Product) : Prop where
  id : p'.id = p.id
  outcome : (p'.deleted = false ∧ ∀ e ∈ p'.events, isSoftDeleted e = false) ∨
    (p'.deleted = true ∧ ∃ e, p'.events = [e])

variable {actorID : String} {now : Time}

theorem mutated_of_update {spec : Product.UpdateSpec} (hl : p.deleted = false)
    (hev : p.events = []) (h : (p.update actorID spec now).2 = .ok ()) :
    Mutated p (p.update actorID spec now).1 ∧ (p.update actorID spec now).1.deleted = false := by
  rcases Product.update_eq_ok h with hs | ⟨changed, ha⟩
  · rw [hs]
    refine ⟨⟨rfl, .inl ⟨hl, ?_⟩⟩, hl⟩
    rw [hev]
    exact fun e he => absurd he not_mem_nil
  · obtain ⟨hid, hd⟩ := ha.same
    refine ⟨⟨hid, .inl ⟨hd.trans hl, ?_⟩⟩, hd.trans hl⟩
    rw [ha.events, hev]
    exact forall_mem_singleton.mpr rfl

theorem saved_eq_ok {r : Product × Except Err Unit} {persist : Bool}
    (h : saved r = .ok (persist, p')) : r = (p', .ok ()) ∧ persist = true := by
  obtain ⟨q, e | u⟩ := r
  · cases h
  · cases h
    exact ⟨rfl, rfl⟩

theorem mutated_of_deactivate (hl : p.deleted = false) (hev : p.events = [])
    (h : p.deactivate actorID now = (p', .ok ())) : Mutated p p' := by
  unfold Product.deactivate at h
  split at h
  · obtain rfl := (Prod.mk.inj h).1
    refine ⟨rfl, .inl ⟨hl, ?_⟩⟩
    rw [hev]
    exact fun e he => absurd he not_mem_nil
  · split at h
    · exact nomatch (Prod.mk.inj h).2
    next q hq =>
      have hm := mutated_of_update hl hev (congrArg Prod.snd hq)
      rw [hq] at hm
      obtain ⟨⟨hid, ho⟩, hd⟩ := hm
      obtain rfl := (Prod.mk.inj h).1
      refine ⟨hid, .inl ⟨hd, fun e he => ?_⟩⟩
      rcases ho with ⟨-, hnone⟩ | ⟨hd', -⟩
      · rcases mem_append.mp he with he | he
        · exact hnone e he
        · rw [mem_singleton.mp he]
          rfl
      · cases hd.symm.trans hd'

theorem mutated_of_softDelete (hl : p.deleted = false) (hev : p.events = [])
    (h : p.softDelete actorID now = .ok p') : Mutated p p' := by
  obtain ⟨hd, hid, -, ho⟩ := Product.softDelete_eq_ok h
  obtain ⟨e, he⟩ := ho hl
  exact ⟨hid, .inr ⟨hd, e, by rw [he, hev]; rfl⟩⟩

theorem productMessage_deletes {e : Product.Event} {m : IntegrationEvent}
    (h : productMessage codec e = .ok m) (he : isSoftDeleted e = false) :
    m.deletes pid = false := by
  cases e with
  | softDeleted => cases he
  | _ =>
    simp only [productMessage, except_bind_eq_ok] at h
    obtain ⟨_, -, _, -, _, -, h⟩ := h
    cases h
    rfl

structure Tells (pid : UUID) (p : Product) (messages : List OutboxMessage) : Prop where
  live : p.deleted = false → ∀ m ∈ messages, m.event.deletes pid = false
  deleted : p.deleted = true → messages.length ≤ 1

variable {I P : Db → Prop} {Q : Unit → Option (Db → Db) → Prop}

theorem lockFirst_drain {c : Key} {w : Db → Db} (hmu : Mutated p p')
    (hQ : ∀ messages, Tells pid p' messages → Q () (some fun db => (w db).publish messages)) :
    (drainEvents codec (productMessage codec) p'.tenantID p'.events).lockFirst c I P Q
    (some w) := by
  have hnone : Q () (some w) := by
    have hp : (fun db => (w db).publish []) = w := by
      funext db
      exact congrArg (Db.mk _ _ _) (append_nil _)
    have hn := hQ [] ⟨fun _ m hm => absurd hm not_mem_nil, fun _ => Nat.zero_le _⟩
    rwa [hp] at hn
  unfold drainEvents
  split
  · exact hnone
  refine lockFirst_bind (lockFirst_ofExcept fun tid _ => ?_)
  refine lockFirst_bind (lockFirst_ofExcept fun mapped hma => ?_)
  unfold writeOutboxEvents
  split
  · exact hnone
  refine lockFirst_statement_again fun s a write hw => ?_
  cases hw
  refine hQ _ ⟨fun hl m hm => ?_, fun hd => ?_⟩
  · obtain ⟨event, hev, rfl⟩ := mem_map.mp hm
    obtain ⟨e, he, hme⟩ := (except_mapM_mem hma).2 event hev
    rcases hmu.outcome with ⟨-, ho⟩ | ⟨hd, -⟩
    · exact productMessage_deletes hme (ho e he)
    · cases hl.symm.trans hd
  · rcases hmu.outcome with ⟨hl, -⟩ | ⟨-, e, he⟩
    · cases hl.symm.trans hd
    · rw [length_map, except_mapM_length hma, he]
      exact Nat.le_refl _

variable {text text' : String} {tenantID : UUID}

theorem passes_text {b : Bool} (h : passes codec settings text tenantID = .ok b) :
    passes codec settings text' tenantID = .ok b := by
  unfold passes at h ⊢
  cases ho : App.ownOrPlatform codec tenantID settings with
  | ok v =>
    rw [ho] at h
    exact h
  | error e =>
    rw [ho] at h
    cases h

variable {row : Product.Row}

theorem liveProduct_eq_some (h : liveProduct codec settings text pid s = .ok (some row)) :
    s.product pid = some row ∧ row.1.isDeleted = false ∧
    passes codec settings text row.1.tenantID = .ok true := by
  unfold liveProduct at h
  split at h
  · exact nomatch Except.ok.inj h
  next row' hrow' =>
    obtain ⟨pass, hp, h⟩ := except_bind_ok h
    cases pass with
    | false => exact nomatch Except.ok.inj h
    | true =>
      obtain rfl := Option.some.inj (Except.ok.inj h)
      obtain ⟨hrow, hl⟩ := Option.filter_eq_some_iff.mp hrow'
      exact ⟨hrow, by simpa using hl, hp⟩

theorem liveProduct_of_live (text : String) (hp : passes codec settings text' tenantID = .ok true)
    (ht : s.productTenant pid = some tenantID) (hl : s.productLive pid = true) :
    ∃ row, liveProduct codec settings text pid s = .ok (some row) ∧ row.1.tenantID = tenantID := by
  obtain ⟨row, hrow, hf⟩ := (Option.any_eq_true ..).mp hl
  have ht : row.1.tenantID = tenantID := by
    unfold Db.productTenant at ht
    rw [hrow] at ht
    exact Option.some.inj ht
  refine ⟨row, ?_, ht⟩
  unfold liveProduct
  rw [hrow, Option.filter_some_pos (p := fun row : Product.Row => !row.1.isDeleted) hf]
  dsimp only
  rw [ht, passes_text hp]
  rfl

structure Left (p : Product) (tenantID : UUID) (row : Product.Row) : Prop where
  tenantID : row.1.tenantID = tenantID
  isDeleted : row.1.isDeleted = p.deleted

theorem lockFirst_persist (hpi : codec.parse p.id = some pid)
    (hp : passes codec settings text tenantID = .ok true)
    (hI : ∀ s, I s → s.productTenant pid = some tenantID)
    (hQ : ∀ row, Left p tenantID row → Q () (some fun db => db.setProduct pid row)) :
    (persistProductState codec settings p).lockFirst (.product pid) I
    (fun db => db.productLive pid = true) Q none := by
  refine lockFirst_bind (lockFirst_ofExcept fun pid' hpi' => ?_)
  obtain rfl : pid' = pid := Option.some.inj ((UuidCodec.parse_of_parseOr hpi').symm.trans hpi)
  refine lockFirst_statement (fun s hs hl => ?_) fun s a write hs hl hw => ?_
  · obtain ⟨row, hrow, -⟩ := liveProduct_of_live "" hp (hI s hs) hl
    rw [hrow]
    exact mem_singleton_self _
  · split at hw
    next hd =>
      obtain ⟨row, hrow, ht⟩ := liveProduct_of_live "product repo: soft delete: " hp (hI s hs) hl
      unfold softDeleteRow at hw
      rw [hrow] at hw
      cases hw
      exact hQ _ ⟨ht, hd.symm⟩
    next hd =>
      obtain ⟨row, hrow, ht⟩ := liveProduct_of_live "product repo: update: " hp (hI s hs) hl
      unfold updateProductRow at hw
      rw [hrow] at hw
      replace hw : (if hvalid : (p.updateParams row.1).Valid then _ else _) = _ := hw
      split at hw
      · cases hw
        refine hQ _ ⟨ht, ?_⟩
        rw [Bool.eq_false_of_not_eq_true hd]
        exact (liveProduct_eq_some hrow).2.1
      · cases hw

theorem product_setProduct_self (db : Db) (row : Product.Row) :
    (db.setProduct pid row).product pid = some row := AList.lookup_insert _

variable {messages : List OutboxMessage}

theorem agrees_commit (hl : Left p tenantID row) (ht : Tells pid p messages)
    (h : Agrees pid s) (hli : s.productLive pid = true) :
    Agrees pid ((s.setProduct pid row).publish messages) := by
  have hb := h.live hli
  have hrow : ((s.setProduct pid row).publish messages).productLive pid = !row.1.isDeleted := by
    show ((s.setProduct pid row).product pid).any _ = _
    rw [product_setProduct_self]
    rfl
  have hnone : p.deleted = false → ∀ m ∈ s.outbox ++ messages, m.event.deletes pid = false := by
    intro hd m hm
    exact (mem_append.mp hm).elim (hb m) (ht.live hd m)
  refine ⟨?_, fun hs m hm => ?_⟩
  · show (s.outbox ++ messages).Pairwise _
    cases hd : p.deleted with
    | false =>
      refine Pairwise.imp_of_mem (R := fun _ _ => True) (fun {m m'} hm _ _ hde => ?_)
        (pairwise_of_forall fun _ _ => trivial)
      exact nomatch (hnone hd m hm).symm.trans hde
    | true =>
      refine pairwise_append.mpr ⟨h.final, ?_, fun m hm _ _ hde => ?_⟩
      · obtain _ | ⟨m, _ | ⟨m', rest⟩⟩ := messages
        · exact .nil
        · exact pairwise_singleton ..
        · exact absurd (ht.deleted hd) (by simp)
      · exact nomatch (hb m hm).symm.trans hde
  · rw [hrow, hl.isDeleted] at hs
    exact hnone (by simpa using hs) m hm

def Consistent (pid : UUID) (T : Option UUID) (db : Db) : Prop :=
  db.productTenant pid = T ∧ Agrees pid db

theorem keeps_commit (hl : Left p tenantID row) (ht : Tells pid p messages) :
    Keeps (Consistent pid (some tenantID)) (fun db => db.productLive pid = true)
    (some fun db => (db.setProduct pid row).publish messages) := by
  refine ⟨_, rfl, fun s hs hli => ⟨?_, agrees_commit hl ht hs.2 hli⟩⟩
  show ((s.setProduct pid row).product pid).map _ = _
  rw [product_setProduct_self, ← hl.tenantID]
  rfl

theorem findProduct_eq_ok (h : findProduct codec settings pid s = .ok row) :
    liveProduct codec settings "product repo: get by id: " pid s = .ok (some row) := by
  obtain ⟨found, hf, h⟩ := except_bind_ok h
  cases found with
  | none => cases h
  | some row' =>
    cases h
    exact hf

variable {id : String}

theorem lockFirst_loadProduct {c : Key} {Q : Product → Option (Db → Db) → Prop}
    (hid : codec.parse id = some pid)
    (hQ : ∀ (row : Product.Row) tenantID, T = some tenantID → row.1.isDeleted = false →
    passes codec settings "product repo: get by id: " tenantID = .ok true →
    Q (Product.rowToProduct codec pid row.1) none) :
    (loadProduct codec settings id).lockFirst c (Consistent pid T) P Q none := by
  refine lockFirst_bind (lockFirst_ofExcept fun pid' hpi' => ?_)
  obtain rfl : pid' = pid := Option.some.inj ((UuidCodec.parse_of_parseOr hpi').symm.trans hid)
  refine lockFirst_bind (lockFirst_query fun s row hs hf => ?_)
  obtain ⟨hrow, hl, hp⟩ := liveProduct_eq_some (findProduct_eq_ok hf)
  refine hQ row row.1.tenantID ?_ hl hp
  rw [← hs.1, Db.productTenant, hrow]
  rfl

theorem lockFirst_updateProductByID (hc : codec.Lawful)
    {history : List (List (String × String))} {tenantID : String}
    {updateFn : Product → Except Err (Bool × Product)} (hid : codec.parse id = some pid)
    (hfn : ∀ p persist p', p.deleted = false → p.events = [] →
    updateFn p = .ok (persist, p') → persist = true ∧ Mutated p p') :
    (updateProductByID codec history tenantID id updateFn).lockFirst (.product pid)
    (Consistent pid T) (fun db => db.productLive pid = true)
    (fun _ => Keeps (Consistent pid T) fun db => db.productLive pid = true) none := by
  refine lockFirst_bind (lockFirst_ofExcept fun settings _ => ?_)
  refine lockFirst_bind (lockFirst_loadProduct hid fun row tid hT hl hp => ?_)
  subst hT
  refine lockFirst_bind (lockFirst_ofExcept fun r hr => ?_)
  obtain ⟨persist, p'⟩ := r
  obtain ⟨rfl, hm⟩ := hfn _ persist p' hl rfl hr
  have hpi : codec.parse p'.id = some pid := by
    rw [hm.id]
    exact hc.parse_string pid
  refine lockFirst_bind (lockFirst_persist hpi hp (fun s hs => hs.1) fun row' hle => ?_)
  exact lockFirst_drain hm fun messages ht => keeps_commit hle ht

theorem lockFirst_deleteProduct (hc : codec.Lawful) {env : Env} {cmd : DeleteProductCommand}
    (hid : codec.parse cmd.productID = some pid) :
    (deleteProduct codec env cmd).lockFirst (.product pid) (Consistent pid T)
    (fun db => db.productLive pid = true)
    (fun _ => Keeps (Consistent pid T) fun db => db.productLive pid = true) none := by
  unfold deleteProduct
  split
  · trivial
  refine lockFirst_bind (lockFirst_bind (lockFirst_ofExcept fun settings _ => ?_))
  refine lockFirst_loadProduct hid fun row tid _ _ _ => ?_
  refine lockFirst_bind (lockFirst_mapError (lockFirst_bind (lockFirst_ofExcept fun _ _ => ?_)))
  refine lockFirst_bind (lockFirst_ofExcept fun _ _ => lockFirst_query fun s ha _ _ => ?_)
  split
  · trivial
  refine lockFirst_bind (lockFirst_mapError (lockFirst_updateProductByID hc hid ?_))
  intro p persist p' hl he hfn
  obtain ⟨q, hq, hfn⟩ := except_bind_ok hfn
  cases hfn
  exact ⟨rfl, mutated_of_softDelete hl he hq⟩

theorem ProductExecution.lockFirst_tx (hc : codec.Lawful) (x : ProductExecution)
    (hid : codec.parse x.productID = some pid) :
    (x.tx codec).lockFirst (.product pid) (Consistent pid T) (fun db => db.productLive pid = true)
    (fun _ => Keeps (Consistent pid T) fun db => db.productLive pid = true) none := by
  have hu {mutate : Product → String → Time → Product × Except Err Unit}
      (hmu : ∀ p p', p.deleted = false → p.events = [] →
        mutate p x.actorMembershipID x.env.now = (p', .ok ()) → Mutated p p') :
      (x.updateByID codec mutate).lockFirst (.product pid) (Consistent pid T)
        (fun db => db.productLive pid = true)
        (fun _ => Keeps (Consistent pid T) fun db => db.productLive pid = true) none := by
    refine lockFirst_updateProductByID hc hid fun p persist p' hl he hfn => ?_
    obtain ⟨hs, hp⟩ := saved_eq_ok hfn
    exact ⟨hp, hmu p p' hl he hs⟩
  have hup {spec : Product.UpdateSpec} (p p' : Product) (hl : p.deleted = false)
      (he : p.events = [])
      (h : p.update x.actorMembershipID spec x.env.now = (p', .ok ())) : Mutated p p' := by
    have hm := (mutated_of_update hl he (congrArg Prod.snd h)).1
    rwa [h] at hm
  unfold tx
  split
  · split
    · trivial
    · exact lockFirst_mapError (hu hup)
  · exact hu hup
  · exact hu fun p p' => mutated_of_deactivate
  · exact lockFirst_bind (lockFirst_deleteProduct hc hid)

theorem Agrees.countP_le_one (h : Agrees pid s) :
    s.outbox.countP (fun m => m.event.deletes pid) ≤ 1 := by
  have hf := h.final
  generalize s.outbox = outbox at hf ⊢
  induction outbox with
  | nil => exact Nat.zero_le _
  | cons m rest ih =>
    obtain ⟨hm, hr⟩ := pairwise_cons.mp hf
    cases hd : m.event.deletes pid with
    | false =>
      rw [countP_cons_of_neg (by simp [hd])]
      exact ih hr
    | true =>
      have hnone : rest.countP (fun m => m.event.deletes pid) = 0 :=
        countP_eq_zero.mpr fun m' hm' => by simp [(hm m' hm' hd).1]
      rw [countP_cons_of_pos (by simp [hd]), hnone]

theorem product_events_agree {ι : Type} [DecidableEq ι] (hcodec : codec.Lawful)
    (exec : ι → ProductExecution) (hexec : ∀ i, codec.parse (exec i).productID = some pid)
    (h0 : Agrees pid s) {ls : List (Label ι Err)} {st : State ι Key Db Err Unit}
    (hC : Along (step fun i => (exec i).client codec) (WritesOn fun db => db.productLive pid = true)
    (init (fun i => (exec i).client codec) s) ls)
    (hr : run (step fun i => (exec i).client codec) (init (fun i => (exec i).client codec) s) ls =
    some st) : st.store.outbox.countP (fun m => m.event.deletes pid) ≤ 1 ∧
    st.store.outbox.Pairwise fun m m' =>
        m.event.deletes pid = true → m'.event.changes pid = false := by
  have hc : Consistent pid (s.productTenant pid) st.store :=
    run_lockFirst (fun i _ => (exec i).lockFirst_tx hcodec (hexec i)) ⟨rfl, h0⟩ hC hr
  exact ⟨hc.2.countP_le_one, hc.2.final.imp fun hf hd => (hf hd).2⟩

def catalogue (i : Option Bool) : ProductExecution where
  env := { ctxTenant := some (unaryCodec.string 1), now := 6, newID := "" }
  tenantID := unaryCodec.string 1
  productID := unaryCodec.string 0
  actorMembershipID := unaryCodec.string 5
  mutation := if i = none then .update (some "Ibuprofen") none none none else .delete

def catalogueStore : Db where
  products := AList.singleton 0 Product.tabletsRow
  batches := ∅
  movements := []
  outbox := []

theorem catalogueStore_agrees : Agrees 0 catalogueStore :=
  ⟨.nil, fun _ _ hm => absurd hm not_mem_nil⟩

theorem renamed_then_deleted : ∃ st, run (step fun i => (catalogue i).client unaryCodec)
    (init (fun i => (catalogue i).client unaryCodec) catalogueStore)
    (replicate 4 (.step none) ++ replicate 6 (.step (some true))) = some st ∧
    st.store.outbox.length = 2 ∧ st.store.outbox.countP (fun m => m.event.deletes 0) ≤ 1 := by
  refine exists_some (P := fun st => st.store.outbox.length = 2) (by decide +kernel)
    fun st hr hl => ⟨hl, ?_⟩
  exact (product_events_agree unaryCodec_lawful catalogue (fun _ => unaryCodec_lawful.parse_string 0)
    catalogueStore_agrees (by decide +kernel) hr).1

def overlapping : List (Label (Option Bool) Err) :=
  .step none :: replicate 3 (.step (some true)) ++ replicate 6 (.step (some false)) ++
    replicate 3 (.step (some true)) ++ replicate 3 (.step none)

theorem announced_after_deletion : ∃ st, run (step fun i => (catalogue i).client unaryCodec)
    (init (fun i => (catalogue i).client unaryCodec) catalogueStore) overlapping = some st ∧
    st.store.outbox.countP (fun m => m.event.deletes 0) = 2 ∧ ¬st.store.outbox.Pairwise fun m m' =>
        m.event.deletes 0 = true → m'.event.changes 0 = false :=
  exists_some (by decide +kernel) fun _ _ h => h

end Leadkart.StockLedger
