import Leadkart.Dispatch.ConsignmentRepository

/-!
# The creation of a consignment note
-/

namespace Leadkart.ConsignmentNote

open List Effect Transaction UuidCodec Machine Transactions

variable {codec : UuidCodec}

structure CreateResult where
  consignmentNoteID : String
  alreadyExisted : Bool
  deriving DecidableEq

structure CreateCommand where
  (tenantID orderID carrierName : String)
  (boxCount weightGrams : Int)
  expectedDeliveryAt : Option Time := none
  createdByMembershipID : String
  ctxTenant : Option String
  conn : Conn
  newID : String
  now : Time

namespace CreateCommand

def input (c : CreateCommand) : NewInput where
  id := c.newID
  tenantID := c.tenantID
  orderID := c.orderID
  carrierName := c.carrierName
  boxCount := c.boxCount
  weightGrams := c.weightGrams
  expectedDeliveryAt := c.expectedDeliveryAt
  createdByMembershipID := c.createdByMembershipID
  now := c.now

def getByOrderID (tx : Tx) (aborted : Bool) (orderID : String) : Program codec ConsignmentNote := do
  let oid ← ofExcept
    ((parseID codec "order_id" orderID).mapError (Err.wrap "consignment note repo: get: "))
  if aborted then fail (.foreign "consignment note repo: get: 25P02 ")
  else query (loadByOrder tx oid)

def afterAdd (c : CreateCommand) (tx : Tx) (n : ConsignmentNote) :
    Except Err Unit → Program codec CreateResult
  | .ok () => pure ⟨n.id, false⟩
  | .error e =>
    if e.is errAlreadyExistsForOrder then do
      match ← (getByOrderID tx true c.orderID).attempt with
      | .ok existing => return ⟨existing.id, true⟩
      | .error _ => fail (e.wrap "add: ")
    else fail (e.wrap "add: ")

def afterLookup (c : CreateCommand) (tx : Tx) :
    Except Err ConsignmentNote → Program codec CreateResult
  | .ok existing => pure ⟨existing.id, true⟩
  | .error e =>
    if e.is errNotFound then do
      let n ← ofExcept ((new codec c.input).mapError (Err.wrap "construct: "))
      let r ← (addOnTx tx n).attempt
      c.afterAdd tx n r
    else fail (e.wrap "load consignment note: ")

def handle (c : CreateCommand) : Program codec CreateResult :=
  if c.tenantID = "" then
    fail (.foreign "create consignment note: tenant_id required")
  else if c.orderID = "" then
    fail (.foreign "create consignment note: order_id required")
  else do
    let settings ← ofExcept
      (Pg.setTenantOnTx (Settings.residue c.conn.history) c.ctxTenant)
    let existing ← (getByOrderID ⟨settings, c.conn.plan⟩ false c.orderID).attempt
    c.afterLookup ⟨settings, c.conn.plan⟩ existing

def client (c : CreateCommand) : Client Key (Store codec) Err CreateResult where
  attempt _ := c.handle
  giveUp _ e := some e

/-! ## An execution with valid inputs -/

structure Valid (c : CreateCommand) (codec : UuidCodec) (T oid : UUID) (n : ConsignmentNote)
    (row : Row) : Prop where
  ctxTenant : c.ctxTenant = some c.tenantID
  tenant : codec.input c.tenantID = some T ∧ codec.parse c.tenantID = some T
  order : codec.parse c.orderID = some oid
  accepted : new codec c.input = .ok n
  stored : rowOf codec n = .ok row
  meets : (consignmentNotes codec).meets row = .ok ()

def tx (c : CreateCommand) : Tx := c.conn.tx c.tenantID

def inserting (c : CreateCommand) (n : ConsignmentNote) (row : Row) : Program codec CreateResult :=
  (write (fun _ => row.keys) (insertRow c.tx row) >>= fun _ =>
    write (fun _ => []) (drainConsignmentNoteEvents n)).attempt >>= c.afterAdd c.tx n

def draining (c : CreateCommand) (n : ConsignmentNote) : Program codec CreateResult :=
  (write (fun _ => []) (drainConsignmentNoteEvents n)).attempt >>= c.afterAdd c.tx n

theorem inserting_eq (c : CreateCommand) (n : ConsignmentNote) (row : Row) :
    (c.inserting n row : Program codec _) =
    .exec (fun _ => row.keys) (Transaction.replay (insertRow c.tx row)) fun s =>
        match insertRow c.tx row s with
        | .ok _ => c.draining n
        | .error e => c.afterAdd c.tx n (.error e) := by
  unfold inserting
  rw [write_eq]
  refine congrArg (exec _ _) (funext fun s => ?_)
  dsimp only
  cases insertRow c.tx row s with
  | ok s' => rfl
  | error e => rfl

theorem draining_eq (c : CreateCommand) (n : ConsignmentNote) : (c.draining n : Program codec _) =
    .exec (fun _ => []) (Transaction.replay (drainConsignmentNoteEvents n)) fun s =>
        match drainConsignmentNoteEvents n s with
        | .ok _ => .done (.ok ⟨n.id, false⟩)
        | .error e => c.afterAdd c.tx n (.error e) := by
  unfold draining
  rw [write_eq]
  refine congrArg (exec _ _) (funext fun s => ?_)
  dsimp only
  cases drainConsignmentNoteEvents n s with
  | ok s' => rfl
  | error e => rfl

variable {c : CreateCommand} {T oid : UUID} {n : ConsignmentNote} {row : Row}

theorem Valid.handle_eq (hc : codec.Lawful) (hv : c.Valid codec T oid n row) :
    (c.handle : Program codec _) =
    .select fun s => c.afterLookup c.tx (loadByOrder c.tx oid s) := by
  have ht : c.tenantID ≠ "" := ne_empty hv.tenant.1
  have ho : c.orderID ≠ "" := by
    intro h
    have hp := hv.order
    rw [h, hc.parse_empty] at hp
    cases hp
  unfold handle getByOrderID parseID
  rw [if_neg ht, if_neg ho, hv.ctxTenant, parseOr_ok hv.order]
  rfl

theorem Valid.afterLookup_absent (hv : c.Valid codec T oid n row) :
    (c.afterLookup c.tx (.error ⟨errNotFound, ""⟩) : Program codec _) = c.inserting n row := by
  unfold afterLookup addOnTx
  dsimp only
  rw [if_pos (by decide), hv.accepted]
  show (Transaction.ofExcept (rowOf codec n) >>= _).attempt >>= _ = _
  rw [hv.stored]
  rfl

structure Parsed (c : CreateCommand) (codec : UuidCodec) (row : Row) : Prop where
  id : codec.parse c.newID = some row.id
  tenant : codec.parse c.tenantID = some row.tenantID
  order : codec.parse c.orderID = some row.orderID
  creator : codec.parse c.createdByMembershipID = some row.createdByMembershipID

theorem Valid.parsed (hv : c.Valid codec T oid n row) : c.Parsed codec row := by
  obtain rfl := new_eq_ok hv.accepted
  obtain ⟨id, hid, h⟩ := except_bind_ok hv.stored
  simp only [except_bind_eq_ok] at h
  obtain ⟨tid, ht, orderID, ho, creator, hc, h⟩ := h
  cases h
  exact ⟨parseColumn_eq_ok hid, parseColumn_eq_ok ht, parseColumn_eq_ok ho, parseColumn_eq_ok hc⟩

theorem Valid.parse_id (hv : c.Valid codec T oid n row) : codec.parse n.id = some row.id := by
  rw [new_eq_ok hv.accepted]
  exact hv.parsed.id

theorem Valid.owner (hv : c.Valid codec T oid n row) : row.tenantID = T ∧ row.orderID = oid :=
  ⟨Option.some.inj (hv.parsed.tenant.symm.trans hv.tenant.2),
    Option.some.inj (hv.parsed.order.symm.trans hv.order)⟩

def createdMessage (c : CreateCommand) (row : Row) : OutboxMessage where
  tenantID := row.tenantID
  event := .consignmentNoteCreatedV1 row.id row.tenantID row.orderID (trimSpace c.carrierName)
    c.boxCount c.weightGrams c.expectedDeliveryAt row.createdByMembershipID c.now

theorem Valid.drain (hv : c.Valid codec T oid n row) (s : Store codec) :
    drainConsignmentNoteEvents n s =
    .ok { s with outbox := s.outbox ++ [c.createdMessage row] } := by
  have hm : fromDomainEvent codec c.input.createdEvent = .ok (c.createdMessage row).event := by
    unfold fromDomainEvent NewInput.createdEvent parseUUID input
    dsimp only
    rw [hv.parsed.id, hv.parsed.tenant, hv.parsed.order, hv.parsed.creator]
    rfl
  obtain rfl := new_eq_ok hv.accepted
  show (if [c.input.createdEvent] = [] then _ else
    parseColumn codec _ c.tenantID >>= fun tid => mapEvents codec _ >>= fun _ => _) = _
  rw [if_neg (cons_ne_nil _ _), parseColumn, hv.parsed.tenant]
  show ((((fromDomainEvent codec c.input.createdEvent).mapError _ >>= _) >>= _) >>= _) = _
  rw [hm]
  rfl

end CreateCommand

def notesOf (T oid : UUID) (s : Store codec) : List Row :=
  s.notes.rows.filter fun r => decide (r.tenantID = T) && hasOrder oid r

namespace CreateCommand

variable {c : CreateCommand} {T oid : UUID} {n : ConsignmentNote} {row : Row} {s t : Store codec}

theorem Valid.lookup_eq (hv : c.Valid codec T oid n row) (s : Store codec) :
    loadByOrder c.tx oid s = match (notesOf T oid s).head? with
      | some row => .ok (rowToConsignmentNote codec row)
      | none => .error ⟨errNotFound, ""⟩ := by
  have hc := App.confines_tenantPolicies (R := consignmentNotes codec) rfl hv.tenant.1 c.conn
  unfold loadByOrder notesOf tx
  rw [Pg.queryRow_confined hc, head?_filter]
  unfold Table.find?
  cases s.notes.rows.find? fun r => decide (r.tenantID = T) && hasOrder oid r with
  | none => rfl
  | some r => rfl

structure Created (c : CreateCommand) (row : Row) (s t : Store codec) : Prop where
  notes : t.notes.rows = s.notes.rows ++ [row]
  outbox : t.outbox = s.outbox ++ [c.createdMessage row]

theorem Created.notesOf_eq (hv : c.Valid codec T oid n row) (h : c.Created row s t)
    (hnone : notesOf T oid s = []) : notesOf T oid t = [row] := by
  obtain ⟨rfl, rfl⟩ := hv.owner
  unfold notesOf at hnone ⊢
  rw [h.notes, filter_append, hnone]
  simp [hasOrder]

theorem Valid.insert (hv : c.Valid codec T oid n row) (hnone : notesOf T oid s = [])
    (hid : ∀ r ∈ s.notes, r.id ≠ row.id) : ∃ notes, insertRow c.tx row s = .ok { s with notes } ∧
    notes.rows = s.notes.rows ++ [row] := by
  have hco := App.confines_tenantPolicies (R := consignmentNotes codec) rfl hv.tenant.1 c.conn
  obtain ⟨notes, hn⟩ : ∃ notes, s.notes.insert row = some notes := by
    refine Option.ne_none_iff_exists'.mp fun hc => ?_
    obtain ⟨q, hq, hc⟩ := Table.insert_eq_none.mp hc
    rcases clash_iff.mp hc with h | h
    · exact hid q hq h
    · obtain ⟨rfl, rfl⟩ := hv.owner
      refine filter_eq_nil_iff.mp hnone q hq ?_
      simpa [hasOrder] using h
  refine ⟨notes, ?_, (Table.insert_eq_some hn).1⟩
  unfold insertRow tx
  rw [SqlRelation.insert_ok hco hv.owner.1 hv.meets hn]
  rfl

inductive Before (c : CreateCommand) (n : ConsignmentNote) (row : Row) (s : Store codec)
    (holds : Prop) : Phase Key (Store codec) Err CreateResult → Prop where
  | start : Before c n row s holds (.running 0 c.handle fun x => x)
  | inserting : Before c n row s holds (.running 0 (c.inserting n row) fun x => x)
  | draining {pending : Store codec → Store codec} (hold : holds)
      (inserted : ∃ notes, pending s = { s with notes } ∧ notes.rows = s.notes.rows ++ [row]) :
      Before c n row s holds (.running 0 (c.draining n) pending)
  | ended {pending : Store codec → Store codec} (hold : holds) (created : c.Created row s (pending s)) :
      Before c n row s holds (.running 0 (.done (.ok ⟨n.id, false⟩)) pending)

inductive After (c : CreateCommand) (n : ConsignmentNote) (row : Row) (id : String) :
    Phase Key (Store codec) Err CreateResult → Prop where
  | start : After c n row id (.running 0 c.handle fun x => x)
  | inserting : After c n row id (.running 0 (c.inserting n row) fun x => x)
  | found : After c n row id (.running 0 (.done (.ok ⟨id, true⟩)) fun x => x)
  | returned : After c n row id (.returned (.ok ⟨id, true⟩))

theorem Before.of_not {holds : Prop} {ph : Phase Key (Store codec) Err CreateResult}
    (h : c.Before n row s holds ph) (hn : ¬holds) :
    (∀ holds', c.Before n row s holds' ph) ∧ ∀ id, c.After n row id ph := by
  cases h with
  | start => exact ⟨fun _ => .start, fun _ => .start⟩
  | inserting => exact ⟨fun _ => .inserting, fun _ => .inserting⟩
  | draining hold => exact absurd hold hn
  | ended hold => exact absurd hold hn

end CreateCommand

section

variable {ι : Type} [DecidableEq ι] (cmd : ι → CreateCommand) (note : ι → ConsignmentNote)
  (row : ι → Row) (T oid : UUID) (s : Store codec)

def insertsNext (store : Store codec) : Phase Key (Store codec) Err CreateResult → Bool
  | .running _ (.exec keys _ _) pending => keys (pending store) ≠ []
  | _ => false

def InsertsFree (st : State ι Key (Store codec) Err CreateResult) : Label ι Err → Prop
  | .step i => insertsNext st.store (st.phase i) = true → notesOf T oid st.store = []
  | .fail _ _ => False

instance (st : State ι Key (Store codec) Err CreateResult) :
    ∀ l, Decidable (InsertsFree T oid st l)
  | .step _ => inferInstanceAs (Decidable (_ → _))
  | .fail .. => .isFalse fun h => h

inductive Progress (st : State ι Key (Store codec) Err CreateResult) : Prop where
  | untouched (store : st.store = s)
      (phase : ∀ i, (cmd i).Before (note i) (row i) s (st.holder (.order T oid) = some i)
        (st.phase i)) : Progress st
  | created (j : ι) (store : (cmd j).Created (row j) s st.store)
      (winner : st.phase j = .returned (.ok ⟨(note j).id, false⟩))
      (others : ∀ i, i ≠ j → (cmd i).After (note i) (row i) (codec.string (row j).id)
        (st.phase i)) : Progress st

variable {cmd note row T oid s} {st st' : State ι Key (Store codec) Err CreateResult} {i : ι}

theorem Progress.step (hc : codec.Lawful)
    (hvalid : ∀ i, (cmd i).Valid codec T oid (note i) (row i)) (hnone : notesOf T oid s = [])
    (hid : ∀ i, ∀ r ∈ s.notes, r.id ≠ (row i).id) (h : Progress cmd note row T oid s st)
    (hC : InsertsFree T oid st (.step i))
    (hs : Transactions.step (fun i => (cmd i).client) st (.step i) = some st') :
    Progress cmd note row T oid s st' := by
  have hv := hvalid i
  cases h with
  | untouched store phase =>
    have hi := phase i
    generalize hp : st.phase i = ph at hi
    cases hi with
    | start =>
      rw [hv.handle_eq hc] at hp
      obtain rfl := step_of_select hp hs
      refine .untouched store ((Function.forall_update_iff _ _).mpr ⟨?_, fun j _ => phase j⟩)
      rw [store, hv.lookup_eq, hnone]
      show CreateCommand.Before _ _ _ _ _ (.running 0 ((cmd i).afterLookup _ (.error _)) _)
      rw [hv.afterLookup_absent]
      exact .inserting
    | inserting =>
      rw [CreateCommand.inserting_eq] at hp
      obtain ⟨hf, rfl⟩ := step_of_exec hp hs
      have hk : .order T oid ∈ (row i).keys := by
        obtain ⟨rfl, rfl⟩ := hv.owner
        exact mem_cons_of_mem _ (mem_singleton_self _)
      have ho : st.holder (.order T oid) = none ∨ st.holder (.order T oid) = some i :=
        of_decide_eq_true (all_eq_true.mp hf _ hk)
      obtain ⟨notes, hin, hn⟩ := hv.insert hnone (hid i)
      refine .untouched store ((Function.forall_update_iff _ _).mpr ⟨?_, fun j hj => ?_⟩)
      · rw [store, hin]
        refine .draining (if_pos hk) ⟨notes, ?_, hn⟩
        exact replay_self hin
      · refine ((phase j).of_not fun hold => ?_).1 _
        rcases ho with ho | ho
        · cases ho.symm.trans hold
        · exact hj (Option.some.inj (hold.symm.trans ho))
    | draining hold inserted =>
      rw [CreateCommand.draining_eq] at hp
      obtain ⟨-, rfl⟩ := step_of_exec hp hs
      refine .untouched store ((Function.forall_update_iff _ _).mpr ⟨?_, fun j _ => phase j⟩)
      rw [store, hv.drain]
      obtain ⟨notes, hpe, hn⟩ := inserted
      refine .ended hold ?_
      rw [replay_self (hv.drain _), hpe]
      exact ⟨hn, rfl⟩
    | ended hold created =>
      obtain rfl := step_of_ok hp hs
      refine .created i (store ▸ created) (Function.update_self ..) fun j hj => ?_
      dsimp only
      rw [Function.update_of_ne hj]
      exact ((phase j).of_not fun hold' => hj (Option.some.inj (hold'.symm.trans hold))).2 _
  | created j store winner others =>
    have hne : i ≠ j := by
      rintro rfl
      exact step_running hs _ winner
    have hrow := store.notesOf_eq (hvalid j) hnone
    -- the one that moves is not the winner, and nothing changes for the others
    have hm : ∀ {t : State ι Key (Store codec) Err CreateResult} {ph},
        t.store = st.store → t.phase = Function.update st.phase i ph →
        (cmd i).After (note i) (row i) (codec.string (row j).id) ph →
        Progress cmd note row T oid s t := by
      intro t ph hst hpa hph
      refine .created j (hst ▸ store) ?_ ?_ <;> rw [hpa]
      · rwa [Function.update_of_ne hne.symm]
      · exact (Function.forall_update_iff _ fun k ph => k ≠ j → (cmd k).After _ _ _ ph).mpr
          ⟨fun _ => hph, fun k _ => others k⟩
    have hi := others i hne
    generalize hp : st.phase i = ph at hi
    cases hi with
    | start =>
      rw [hv.handle_eq hc] at hp
      obtain rfl := step_of_select hp hs
      refine hm rfl rfl ?_
      rw [hv.lookup_eq, hrow]
      exact .found
    | inserting =>
      rw [CreateCommand.inserting_eq] at hp
      refine nomatch hrow.symm.trans (hC ?_)
      rw [hp]
      rfl
    | found =>
      obtain rfl := step_of_ok hp hs
      exact hm rfl rfl .returned
    | returned => exact absurd hp (step_running hs _)

theorem consignment_created_once (hcodec : codec.Lawful)
    (hvalid : ∀ i, (cmd i).Valid codec T oid (note i) (row i)) (hnone : notesOf T oid s = [])
    (hids : ∀ i, ∀ r ∈ s.notes, r.id ≠ (row i).id) {ls : List (Label ι Err)}
    (hC : Along (Transactions.step fun i => (cmd i).client) (InsertsFree T oid)
    (init (fun i => (cmd i).client) s) ls)
    (hr : run (Transactions.step fun i => (cmd i).client) (init (fun i => (cmd i).client) s) ls =
    some st) : (notesOf T oid st.store).length ≤ 1 ∧
    (∀ i r, st.phase i = .returned r → ∃ note, notesOf T oid st.store = [note] ∧
    ∃ result, r = .ok result ∧ codec.parse result.consignmentNoteID = some note.id) ∧
    ((∃ i r, st.phase i = .returned r) → ∃! i, ∃ id, st.phase i = .returned (.ok ⟨id, false⟩)) := by
  have hpr : Progress cmd note row T oid s st := by
    refine run_invariant (.untouched rfl fun i => .start) (fun st l st' h hC hs => ?_) hC hr
    cases l with
    | step i => exact h.step hcodec hvalid hnone hids hC hs
    | fail i e => exact hC.elim
  cases hpr with
  | untouched store phase =>
    have hru : ∀ i r, st.phase i ≠ .returned r := by
      intro i r hp
      have hi := phase i
      rw [hp] at hi
      cases hi
    refine ⟨by rw [store, hnone]; exact Nat.zero_le _, fun i r hp => absurd hp (hru i r), ?_⟩
    rintro ⟨i, r, hp⟩
    exact absurd hp (hru i r)
  | created j store winner others =>
    have hrow := store.notesOf_eq (hvalid j) hnone
    refine ⟨by rw [hrow]; exact Nat.le_refl _, fun i r hp => ⟨row j, hrow, ?_⟩, fun _ => ?_⟩
    · by_cases hi : i = j
      · subst hi
        obtain rfl := Phase.returned.inj (hp.symm.trans winner)
        exact ⟨_, rfl, (hvalid i).parse_id⟩
      · have ha := others i hi
        rw [hp] at ha
        cases ha with
        | returned => exact ⟨_, rfl, hcodec.parse_string _⟩
    · refine ⟨j, ⟨_, winner⟩, fun i hi => ?_⟩
      obtain ⟨id, hp⟩ := hi
      by_contra hne
      have ha := others i hne
      rw [hp] at ha
      cases ha

end

def packedTwice (first : Bool) : CreateCommand where
  tenantID := "xxx"
  orderID := "xxxx"
  carrierName := "BlueDart"
  boxCount := 2
  weightGrams := 500
  createdByMembershipID := "xxxxx"
  ctxTenant := some "xxx"
  conn := { plan := fun _ _ _ => false }
  newID := if first then "x" else "xx"
  now := 5

def packedNote (first : Bool) : ConsignmentNote :=
  (packedTwice first).input.pending.recordEvent (packedTwice first).input.createdEvent

def packedRow (first : Bool) : Row where
  id := if first then 0 else 1
  tenantID := 2
  orderID := 3
  status := .pending
  carrierName := "BlueDart"
  docketNumber := ""
  boxCount := 2
  weightGrams := 500
  expectedDeliveryAt := none
  dispatchedAt := none
  inTransitAt := none
  deliveredAt := none
  failedAt := none
  failureReason := ""
  createdAt := 5
  createdByMembershipID := 4

theorem packed_valid (f : Bool) :
    (packedTwice f).Valid unaryCodec 2 3 (packedNote f) (packedRow f) := by
  constructor <;> cases f <;> decide +kernel

theorem second_creation_finds : ∃ st, run (Transactions.step fun i => (packedTwice i).client)
    (init (fun i => (packedTwice i).client) ({} : Store unaryCodec))
    (replicate 4 (.step true) ++ replicate 2 (.step false)) = some st ∧
    (st.phase false).result = some (.ok ⟨"x", true⟩) ∧ (notesOf 2 3 st.store).length ≤ 1 := by
  refine exists_some (P := fun st => (st.phase false).result = some (.ok ⟨"x", true⟩))
    (by decide +kernel) fun st hr hf => ⟨hf, ?_⟩
  exact (consignment_created_once unaryCodec_lawful packed_valid rfl
    (fun _ _ hr => absurd hr not_mem_nil) (by decide +kernel) hr).1

theorem creation_loser_fails : ∃ st, run (Transactions.step fun i => (packedTwice i).client)
    (init (fun i => (packedTwice i).client) ({} : Store unaryCodec))
    (.step false :: replicate 4 (.step true) ++ replicate 2 (.step false)) = some st ∧
    (notesOf 2 3 st.store).length = 1 ∧
    (st.phase false).result = some (.error ⟨errAlreadyExistsForOrder, "add: "⟩) :=
  exists_some (by decide +kernel) fun _ _ h => h

end Leadkart.ConsignmentNote
