import Leadkart.Crm.LeadCommands
import Leadkart.Crm.LeadIntake

/-!
# Replays of the intake
-/

namespace Leadkart.CrmLead

open List Function Effect Transaction Machine Transactions

variable {codec : UuidCodec}

def createdMessages (P : UUID) (outbox : List OutboxMessage) : List OutboxMessage :=
  outbox.filter fun m => m.event.createdFrom = some P

structure Consistent (s : Store codec) : Prop where
  meets : ∀ r ∈ s.leads, (crmLeads codec).meets r = .ok ()
  once : ∀ P, (createdMessages P s.outbox).length ≤ 1
  sourced : ∀ m ∈ s.outbox, ∀ P, m.event.createdFrom = some P →
    ∃ r ∈ s.leads, r.sourcePurchaseID = some P

def Free (s : Store codec) (c : Key) : Prop := ∀ r ∈ s.leads, c ∉ r.keys

def intake (codec : UuidCodec) : Discipline Key (Store codec) where
  Inv := Consistent
  Guar H s t := (Consistent s → Consistent t) ∧ ∀ c, c ∉ H → Free s c → Free t c
  Rely H s t := ∀ c ∈ H, Free s c → Free t c
  refl _ _ _ _ h := h
  trans h₁ h₂ c hc hfree := h₂ c hc (h₁ c hc hfree)
  keeps hs h := h.1 hs
  apart _ h hapart c hc hfree := h.2 c (fun hH => hapart c hH hc) hfree

theorem mem_keys_purchase {r : Row} {P : UUID} :
    Key.purchase P ∈ r.keys ↔ r.sourcePurchaseID = some P := by
  unfold Row.keys
  cases r.sourcePurchaseID <;> simp [eq_comm]

theorem clash_iff_keys {a b : Row} : (crmLeads codec).Clash a b ↔ ∃ c ∈ a.keys, c ∈ b.keys := by
  rw [clash_iff]
  unfold Row.keys
  cases ha : a.sourcePurchaseID <;> cases hb : b.sourcePurchaseID <;> simp [eq_comm]

structure Quiet (s t : Store codec) : Prop where
  rows : ∀ q ∈ t.leads, ∃ r ∈ s.leads, q.keys = r.keys ∧ q.tenantID = r.tenantID ∧
    (q = r ∨ (crmLeads codec).meets q = .ok ())
  kept : ∀ r ∈ s.leads, ∃ q ∈ t.leads, q.keys = r.keys
  outbox : ∃ messages, t.outbox = s.outbox ++ messages ∧
    ∀ m ∈ messages, m.event.createdFrom = none

namespace Quiet

variable {s t u : Store codec}

theorem refl (s : Store codec) : Quiet s s where
  rows q hq := ⟨q, hq, rfl, rfl, .inl rfl⟩
  kept r hr := ⟨r, hr, rfl⟩
  outbox := ⟨[], (append_nil _).symm, fun _ hm => absurd hm not_mem_nil⟩

theorem trans (h₁ : Quiet s t) (h₂ : Quiet t u) : Quiet s u where
  rows q hq := by
    obtain ⟨r, hr, hk, ht, hq⟩ := h₂.rows q hq
    obtain ⟨p, hp, hk', ht', hr'⟩ := h₁.rows r hr
    refine ⟨p, hp, hk.trans hk', ht.trans ht', ?_⟩
    rcases hq with rfl | hme
    · exact hr'
    · exact .inr hme
  kept r hr := by
    obtain ⟨q, hq, hk⟩ := h₁.kept r hr
    obtain ⟨p, hp, hk'⟩ := h₂.kept q hq
    exact ⟨p, hp, hk'.trans hk⟩
  outbox := by
    obtain ⟨ms, ho, hms⟩ := h₁.outbox
    obtain ⟨ns, ho', hns⟩ := h₂.outbox
    refine ⟨ms ++ ns, ?_, fun m hm => ?_⟩
    · rw [ho', ho, append_assoc]
    · exact (mem_append.mp hm).elim (hms m) (hns m)

theorem free (h : Quiet s t) {c : Key} (hc : Free s c) : Free t c := by
  intro q hq hm
  obtain ⟨r, hr, hk, -⟩ := h.rows q hq
  exact hc r hr (hk ▸ hm)

theorem consistent (h : Quiet s t) (hs : Consistent s) : Consistent t := by
  obtain ⟨ms, ho, hms⟩ := h.outbox
  refine ⟨fun q hq => ?_, fun P => ?_, fun m hm P hP => ?_⟩
  · obtain ⟨r, hr, -, -, rfl | hme⟩ := h.rows q hq
    · exact hs.meets q hr
    · exact hme
  · have hnone : createdMessages P ms = [] := by
      refine filter_eq_nil_iff.mpr fun m hm => ?_
      rw [hms m hm]
      simp
    have hsa : createdMessages P t.outbox = createdMessages P s.outbox := by
      unfold createdMessages at hnone ⊢
      rw [ho, filter_append, hnone, append_nil]
    rw [hsa]
    exact hs.once P
  · rw [ho] at hm
    rcases mem_append.mp hm with hm | hm
    · obtain ⟨r, hr, hso⟩ := hs.sourced m hm P hP
      obtain ⟨q, hq, hk⟩ := h.kept r hr
      refine ⟨q, hq, mem_keys_purchase.mp ?_⟩
      rw [hk]
      exact mem_keys_purchase.mpr hso
    · rw [hms m hm] at hP
      cases hP

theorem guar (h : Quiet s t) (H : Set Key) : (intake codec).Guar H s t :=
  ⟨h.consistent, fun _ _ => h.free⟩

end Quiet

section

variable {s s' : Store codec} {l : CrmLead}

theorem quiet_persist {tx : Tx} (h : persistLeadState tx l s = .ok s') : Quiet s s' := by
  obtain ⟨ho, -, hr, hk⟩ := persistLeadState_rows h
  refine ⟨hr, hk, [], ?_, fun _ hm => absurd hm not_mem_nil⟩
  rw [ho, append_nil]

theorem quiet_drain {e : Event} (hev : l.events = [e]) (he : e.isCreated = false)
    (h : drainLeadEvents l s = .ok s') : Quiet s s' := by
  obtain ⟨messages, hme, ha⟩ := drainLeadEvents_eq_ok h
  obtain rfl := Except.ok.inj (h.symm.trans (ha s))
  rw [hev] at hme
  obtain ⟨m, hm, hma⟩ := mapDomainEvents_singleton hme
  obtain ⟨message, rfl, rfl⟩ := map_eq_singleton_iff.mp hma
  refine ⟨(Quiet.refl s).rows, (Quiet.refl s).kept, [message], rfl, fun m' hm' => ?_⟩
  obtain rfl := mem_singleton.mp hm'
  have hk := (fromDomainEvent_kind hm).2
  rw [he] at hk
  exact Option.isNone_iff_eq_none.mp (Option.isSome_eq_false_iff.mp hk)

theorem quiet_history {tx : Tx} {row : HistoryRow} (h : insertHistoryRow tx row s = .ok s') :
    Quiet s s' := by
  obtain ⟨history, -, h⟩ := except_bind_ok h
  cases h
  exact ⟨(Quiet.refl s).rows, (Quiet.refl s).kept, (Quiet.refl s).outbox⟩

theorem loadLead_events {tx : Tx} {id : String} (h : loadLead tx id s = .ok l) : l.events = [] := by
  simp only [loadLead, except_bind_eq_ok] at h
  obtain ⟨lid, -, row, -, h⟩ := h
  exact (rowToLead_eq_ok h).2.2.1

theorem updateOnTx_quiet (t : Transition) (tx : Tx) (id : String) (now : Time) :
    (updateOnTx tx id (t.updateFn codec now) : Program codec _).Within Quiet := by
  refine within_query_bind fun s l hl => ?_
  refine within_ofExcept_bind fun r hr => ?_
  refine within_bind ?_ fun _ => within_ofExcept _
  obtain ⟨l', ha, hr⟩ := except_bind_ok hr
  cases hr
  unfold persistIf
  split
  next hc =>
    obtain ⟨e, he, -, hcr⟩ := (Transition.apply_eq_ok ha).recorded hc
    rw [loadLead_events hl, nil_append] at he
    refine within_bind (within_write Quiet.refl fun _ _ => quiet_persist)
      fun _ => within_write Quiet.refl fun _ _ => quiet_drain he hcr
  next => exact within_ofExcept _

theorem Command.program_quiet (c : Command) : (c.program : Program codec Unit).Within Quiet := by
  have hp : (c.handleTransition : Program codec Unit).Within Quiet := by
    refine within_ofExcept_bind fun _ _ => ?_
    refine within_bind (within_mapError ?_) fun _ => within_ofExcept _
    exact within_ofExcept_bind fun _ _ => updateOnTx_quiet _ _ _ _
  unfold program
  split
  next newAssignee assignedBy reason _ =>
    refine within_bind ?_ fun _ => within_ofExcept _
    refine within_ofExcept_bind fun _ _ => within_mapError ?_
    refine within_bind (updateOnTx_quiet _ _ _ _) fun r => ?_
    split
    · unfold recordEntry addEntry
      refine within_ofExcept_bind fun _ _ => ?_
      refine within_bind (within_mapError ?_) fun _ => within_ofExcept _
      exact within_ofExcept_bind fun _ _ =>
        within_write Quiet.refl fun _ _ => quiet_history
    · exact within_ofExcept _
  next => exact hp

end

structure Delivery.Delivered (d : Delivery codec) (s t : Store codec) : Prop where
  kept : ∀ r ∈ s.leads, r ∈ t.leads
  added : ∀ r ∈ t.leads, r ∈ s.leads ∨
    (r.tenantID = d.tenant ∧ r.sourcePurchaseID = some d.purchase)

section Deliveries

variable {s t u : Store codec} {row : Row} {tx : Tx}

theorem insertLeadRow_free (h : insertLeadRow tx row s = .ok t) : ∀ c ∈ row.keys, Free s c := by
  obtain ⟨leads, hi, -⟩ := except_bind_ok h
  have hi := SqlRelation.insert_eq_ok (except_mapError_ok hi)
  intro c hc r hr hm
  exact (Table.insert_eq_some hi).2 r hr (clash_iff_keys.mpr ⟨c, hm, hc⟩)

theorem insertLeadRow_again (h : insertLeadRow tx row s = .ok t) (hf : ∀ c ∈ row.keys, Free u c) :
    (crmLeads codec).meets row = .ok () ∧ ∃ leads, (∀ r, r ∈ leads ↔ r ∈ u.leads ∨ r = row) ∧
    insertLeadRow tx row u = .ok { u with leads } := by
  obtain ⟨leads, hi, -⟩ := except_bind_ok h
  have hi := except_mapError_ok hi
  obtain ⟨leads, hl⟩ : ∃ leads, u.leads.insert row = some leads := by
    refine Option.ne_none_iff_exists'.mp fun hcl => ?_
    obtain ⟨q, hq, hcl⟩ := Table.insert_eq_none.mp hcl
    obtain ⟨c, hm, hc⟩ := clash_iff_keys.mp hcl
    exact hf c hc q hq hm
  refine ⟨(SqlRelation.insert_passed hi).2.1, leads, fun r => Table.mem_insert hl, ?_⟩
  unfold insertLeadRow
  rw [SqlRelation.insert_again hi hl]
  rfl

variable {d : Delivery codec} {lead : CrmLead}

theorem Delivery.rowOf_factory (h : d.factory = .ok lead) (hrow : CrmLead.rowOf codec lead = .ok row) :
    row.tenantID = d.tenant ∧ row.sourcePurchaseID = some d.purchase := by
  obtain ⟨_, _, _, _, -, rfl⟩ := factory_eq_ok h
  simp only [CrmLead.rowOf, except_bind_eq_ok] at hrow
  obtain ⟨lid, -, tid, ht, hrow⟩ := hrow
  cases hrow
  constructor
  · exact Option.some.inj ((UuidCodec.parse_of_parseOr ht).symm.trans d.parse_tenant)
  · exact d.pgUUIDOptStr_purchase

theorem Delivery.messages_factory (h : d.factory = .ok lead) {me : List OutboxMessage}
    (hme : mapDomainEvents codec lead.events = .ok (me.map OutboxMessage.event)) :
    ∃ m, me = [m] ∧ m.event.createdFrom = some d.purchase := by
  obtain ⟨_, _, _, _, -, rfl⟩ := factory_eq_ok h
  obtain ⟨m, hm, hma⟩ := mapDomainEvents_singleton hme
  obtain ⟨message, rfl, rfl⟩ := map_eq_singleton_iff.mp hma
  refine ⟨message, rfl, ?_⟩
  obtain ⟨_, -, hm⟩ := except_bind_ok hm
  obtain ⟨_, -, hm⟩ := except_bind_ok hm
  obtain ⟨pid, hp, hm⟩ := except_bind_ok hm
  obtain ⟨_, -, hm⟩ := except_bind_ok hm
  obtain rfl := Except.ok.inj ((d.parseOptionalUUID_purchase _).symm.trans hp)
  rw [← Except.ok.inj hm]
  rfl

theorem Delivery.stored (hl : d.factory = .ok lead) (hrow : CrmLead.rowOf codec lead = .ok row)
    (hi : insertLeadRow tx row s = .ok t) {s₁ t₁ : Store codec}
    (hd : drainLeadEvents lead s₁ = .ok t₁) (hf : ∀ c ∈ row.keys, Free u c) {H : Set Key}
    (hlo : ∀ c ∈ row.keys, c ∈ H) : (intake codec).Guar H u (applied (drainLeadEvents lead)
    (applied (insertLeadRow tx row) u)) ∧ d.Delivered u (applied (drainLeadEvents lead)
    (applied (insertLeadRow tx row) u)) := by
  obtain ⟨ht, hp⟩ := rowOf_factory hl hrow
  obtain ⟨messages, hme, ha⟩ := drainLeadEvents_eq_ok hd
  obtain ⟨m, rfl, hm⟩ := messages_factory hl hme
  obtain ⟨hms, leads, hmm, hag⟩ := insertLeadRow_again hi hf
  unfold applied
  rw [hag]
  rw [ha]
  have hn : Free u (.purchase d.purchase) := hf _ (mem_keys_purchase.mpr hp)
  refine ⟨⟨fun hu => ⟨fun r hr => ?_, fun P => ?_, fun m' hm' P hP => ?_⟩, fun c hc hf' r hr => ?_⟩,
    fun r hr => (hmm r).mpr (.inl hr), fun r hr => ?_⟩
  · rcases (hmm r).mp hr with hr | rfl
    · exact hu.meets r hr
    · exact hms
  · unfold createdMessages
    rw [filter_append, length_append]
    by_cases hP : P = d.purchase
    · -- nothing was announced, as no row is from the purchase
      subst hP
      have hnone : createdMessages d.purchase u.outbox = [] := by
        refine filter_eq_nil_iff.mpr fun m' hm' h => ?_
        obtain ⟨r, hr, hs⟩ := hu.sourced m' hm' d.purchase (of_decide_eq_true h)
        exact hn r hr (mem_keys_purchase.mpr hs)
      unfold createdMessages at hnone
      rw [hnone, length_nil, Nat.zero_add]
      exact length_filter_le _ [m]
    · have ho : ([m].filter fun m => m.event.createdFrom = some P) = [] := by
        refine filter_eq_nil_iff.mpr fun m' hm' h => ?_
        obtain rfl := mem_singleton.mp hm'
        exact hP (Option.some.inj ((of_decide_eq_true h).symm.trans hm))
      rw [ho, length_nil, Nat.add_zero]
      exact hu.once P
  · rcases mem_append.mp hm' with hm' | hm'
    · obtain ⟨r, hr, hs⟩ := hu.sourced m' hm' P hP
      exact ⟨r, (hmm r).mpr (.inl hr), hs⟩
    · obtain rfl := mem_singleton.mp hm'
      exact ⟨row, (hmm row).mpr (.inr rfl), hp.trans (hm.symm.trans hP)⟩
  · rcases (hmm r).mp hr with hr | rfl
    · exact hf' r hr
    · exact fun hmm' => hc (hlo c hmm')
  · rcases (hmm r).mp hr with hr | rfl
    · exact .inl hr
    · exact .inr ⟨ht, hp⟩

theorem Delivery.delivered_refl (d : Delivery codec) (s : Store codec) : d.Delivered s s :=
  ⟨fun _ hr => hr, fun _ hr => .inl hr⟩

theorem Delivery.program_meets (d : Delivery codec) :
    Meets (intake codec) (d.program >>= fun _ => pure ())
      fun (_ : Unit) => d.Delivered := by
  intro s _
  rw [program_eq]
  refine wp_bind (wp_mapError (wp_bind (wp_attempt (wp_query fun t _ _ => ?_))))
  show (d.afterLookup (d.lookup t)).wp _ _ _ _
  cases d.lookup t with
  | ok lead =>
    refine wp_pure (wp_pure fun u _ _ => ?_)
    exact ⟨(Quiet.refl u).guar _, d.delivered_refl u⟩
  | error e =>
    unfold afterLookup
    dsimp only
    split
    next =>
      unfold createFromPurchase
      rw [hydrated_commandOf]
      refine wp_bind (wp_ofExcept (fun lead hl => ?_) fun _ _ _ => trivial)
      have hl : d.factory = .ok lead := except_mapError_ok hl
      have hne : lead.tenantID ≠ "" := factory_tenantID hl ▸ d.tenant_ne_empty
      refine wp_bind (wp_mapError ?_)
      unfold add
      rw [onTx_eq hne]
      unfold addOnTx
      refine wp_bind (wp_ofExcept (fun row hrow => ?_) fun _ _ _ => trivial)
      refine wp_bind (wp_write (fun t₁ u₁ h₁ _ _ hi ha₁ => ?_) fun _ _ _ => trivial)
      refine wp_write (fun t₂ u₂ h₂ hr₂ _ hd ha₂ => ?_) fun _ _ _ => trivial
      refine wp_pure (wp_pure fun t₃ hr₃ _ => ?_)
      have hf : ∀ c ∈ row.keys, Free t₃ c := fun c hc =>
        hr₃ c (ha₂.locks (ha₁.keys c hc)) (hr₂ c (ha₁.keys c hc) (insertLeadRow_free hi c hc))
      rw [ha₂.pending, ha₁.pending]
      exact stored hl hrow hi hd hf fun c hc => ha₂.locks (ha₁.keys c hc)
    next => exact wp_fail trivial

end Deliveries

/-! ## Deliveries and commands together -/

inductive Job (codec : UuidCodec) where
  | deliver (d : Delivery codec)
  | command (c : Command)

namespace Job

def program : Job codec → Program codec Unit
  | deliver d => d.program >>= fun _ => pure ()
  | command c => c.program

def client (j : Job codec) : Client Key (Store codec) Err Unit where
  attempt _ := j.program
  giveUp _ e := some e

def purchased : Job codec → Option (UUID × UUID)
  | deliver d => some (d.tenant, d.purchase)
  | command _ => none

def Duplicates (a b : Job codec) : Prop := a.purchased ≠ none ∧ a.purchased = b.purchased

instance (a b : Job codec) : Decidable (a.Duplicates b) := inferInstanceAs (Decidable (_ ∧ _))

theorem Duplicates.symm {a b : Job codec} (h : a.Duplicates b) : b.Duplicates a :=
  ⟨h.2 ▸ h.1, h.2.symm⟩

def Post (j : Job codec) (s t : Store codec) : Prop :=
  match j with
  | deliver d => d.Delivered s t
  | command _ => Quiet s t

theorem program_meets (j : Job codec) :
    Meets (intake codec) j.program fun _ => j.Post := by
  cases j with
  | deliver d => exact d.program_meets
  | command c =>
    exact meets_of_within Quiet.refl Quiet.trans (fun H _ _ h => h.guar H) c.program_quiet

end Job

namespace Delivery

def next (d : Delivery codec) (r : Except Err CrmLead) : Program codec Unit :=
  (d.afterLookup r).mapError (Err.wrap "crm subscribers: ingest: ") >>= fun _ => pure ()

theorem job_eq (d : Delivery codec) :
    (Job.deliver d).program = .select fun s => d.next (d.lookup s) := by
  show (d.program >>= fun _ => pure ()) = _
  rw [program_eq]
  rfl

theorem next_of_found {d : Delivery codec} {s : Store codec} (hs : Consistent s) {row : Row}
    (hrow : d.leadIn s = some row) : d.next (d.lookup s) = .done (.ok ()) := by
  obtain ⟨lead, hl⟩ := rowToLead_ok (hs.meets row (Table.mem_of_find? hrow).1)
  rw [lookup_eq, hrow]
  dsimp only
  rw [hl]
  rfl

theorem next_blind (d : Delivery codec) (r : Except Err CrmLead) : (d.next r).Blind := by
  refine blind_bind (blind_mapError ?_) fun _ => trivial
  unfold afterLookup
  split
  · trivial
  · split
    · unfold createFromPurchase add onTx addOnTx
      refine blind_bind trivial fun lead => ?_
      refine blind_bind (blind_mapError ?_) fun _ => trivial
      refine blind_bind trivial fun _ => ?_
      refine blind_bind trivial fun row => ?_
      exact blind_bind blind_write fun _ => blind_write
    · trivial

inductive Underway (d : Delivery codec) (s : Store codec) :
    Program codec Unit → (Store codec → Store codec) → Prop where
  | start : Underway d s (Job.deliver d).program fun t => t
  | success {pending} : Underway d s (.done (.ok ())) pending
  | inserting {rest pending} (blind : rest.Blind) (absent : d.leadIn s = none) :
      Underway d s rest pending

variable {d : Delivery codec} {s : Store codec} {pending : Store codec → Store codec}
  {k : Store codec → Program codec Unit}

theorem Underway.select (hs : Consistent s) (h : d.Underway s (.select k) pending) :
    d.Underway s (k (pending s)) pending := by
  generalize hr : Transaction.select k = rest at h
  cases h with
  | success => cases hr
  | inserting blind absent =>
    rw [← hr] at blind
    exact blind.elim
  | start =>
    rw [job_eq] at hr
    obtain rfl := Transaction.select.inj hr
    show d.Underway s (d.next (d.lookup s)) _
    cases hrow : d.leadIn s with
    | none => exact .inserting (d.next_blind _) hrow
    | some row =>
      rw [next_of_found hs hrow]
      exact .success

theorem Underway.exec {keys : Store codec → List Key}
    {write : Store codec → Store codec → Store codec}
    (h : d.Underway s (.exec keys write k) pending) (t : Store codec)
    (pending' : Store codec → Store codec) : d.Underway s (k t) pending' := by
  generalize hr : Transaction.exec keys write k = rest at h
  cases h with
  | success => cases hr
  | inserting blind absent =>
    rw [← hr] at blind
    exact .inserting (blind t) absent
  | start =>
    rw [job_eq] at hr
    cases hr

theorem Underway.error {e : Err} (h : d.Underway s (.done (.error e)) pending) :
    d.leadIn s = none := by
  generalize hr : done (.error e) = rest at h
  cases h with
  | success => cases hr
  | inserting blind absent => exact absent
  | start =>
    rw [job_eq] at hr
    cases hr

theorem Underway.frame {t : Store codec} {rest : Program codec Unit}
    (hk : rest.Blind → d.leadIn s = none → d.leadIn t = none) (h : d.Underway s rest pending) :
    d.Underway t rest pending := by
  cases h with
  | success => exact .success
  | inserting blind absent => exact .inserting blind (hk blind absent)
  | start => exact .start

theorem absent_of_quiet {t : Store codec} (h : Quiet s t) (ha : d.leadIn s = none) :
    d.leadIn t = none := by
  rw [leadIn_eq_none] at ha ⊢
  rintro q hq ⟨ht, hp⟩
  obtain ⟨r, hr, hk, ho, -⟩ := h.rows q hq
  refine ha r hr ⟨ho.symm.trans ht, mem_keys_purchase.mp ?_⟩
  rw [← hk]
  exact mem_keys_purchase.mpr hp

theorem absent_of_delivered {t : Store codec} {d' : Delivery codec} (h : d'.Delivered s t)
    (hne : (d'.tenant, d'.purchase) ≠ (d.tenant, d.purchase)) (ha : d.leadIn s = none) :
    d.leadIn t = none := by
  rw [leadIn_eq_none] at ha ⊢
  rintro q hq ⟨ht, hp⟩
  rcases h.added q hq with hq | ⟨ht', hp'⟩
  · exact ha q hq ⟨ht, hp⟩
  · refine hne (Prod.ext (ht'.symm.trans ht) ?_)
    exact Option.some.inj (hp'.symm.trans hp)

end Delivery

def looksUp : Phase Key (Store codec) Err Unit → Bool
  | .running _ (.select _) _ => true
  | _ => false

def inFlight : Phase Key (Store codec) Err Unit → Bool
  | .running _ (.select _) _ => false
  | .running .. => true
  | .returned _ => false

section

variable {ι : Type} [DecidableEq ι] (job : ι → Job codec)

def Apart (st : State ι Key (Store codec) Err Unit) : Label ι Err → Prop
  | .step i => looksUp (st.phase i) = true → ∀ j, j ≠ i → (job i).Duplicates (job j) →
      inFlight (st.phase j) = false
  | .fail _ _ => True

def Alone (phase : ι → Phase Key (Store codec) Err Unit) : Prop :=
  ∀ i j, j ≠ i → (job i).Duplicates (job j) → inFlight (phase i) = true → inFlight (phase j) = false

variable {job}

theorem Alone.update {p : ι → Phase Key (Store codec) Err Unit} (h : Alone job p) {i : ι}
    {ph : Phase Key (Store codec) Err Unit}
    (hph : inFlight ph = true → ∀ j, j ≠ i → (job i).Duplicates (job j) →
    inFlight (p j) = false) : Alone job (Function.update p i ph) := by
  intro a b hne hd ha
  by_cases hai : a = i
  · subst hai
    rw [update_self] at ha
    rw [update_of_ne hne]
    exact hph ha b hne hd
  · rw [update_of_ne hai] at ha
    by_cases hbi : b = i
    · subst hbi
      rw [update_self]
      refine Bool.eq_false_iff.mpr fun hb => ?_
      exact absurd ha (Bool.eq_false_iff.mp (hph hb a hai hd.symm))
    · rw [update_of_ne hbi]
      exact h a b hne hd ha

variable {st st' : State ι Key (Store codec) Err Unit}

structure Flights (job : ι → Job codec) (st : State ι Key (Store codec) Err Unit) : Prop where
  sound : Sound (intake codec) (fun i _ => (job i).Post) st
  alone : Alone job st.phase
  underway : ∀ i d n rest pending, job i = .deliver d → st.phase i = .running n rest pending →
    d.Underway st.store rest pending

omit [DecidableEq ι] in
theorem job_meets (job : ι → Job codec) (i : ι) (n : Nat) :
    Meets (intake codec) ((job i).client.attempt n) fun _ => (job i).Post :=
  (job i).program_meets

theorem inFlight_of_blind {n : Nat} {rest : Program codec Unit}
    {pending : Store codec → Store codec} (h : rest.Blind) :
    inFlight (.running n rest pending) = true := by
  cases rest with
  | done r => rfl
  | select k => exact h.elim
  | exec keys write k => rfl

theorem Flights.step (h : Flights job st) {l : Label ι Err} (hC : Apart job st l)
    (hs : step (fun i => (job i).client) st l = some st') : Flights job st' := by
  have hso := h.sound.step (job_meets job) hs
  -- a job moves on, and the others are where they were
  have hm : ∀ (i : ι) (ph : Phase Key (Store codec) Err Unit) (t : Store codec),
      (∀ d n rest pending, job i = .deliver d → ph = .running n rest pending →
        d.Underway t rest pending) →
      (∀ j, j ≠ i → ∀ d n rest pending, job j = .deliver d →
        st.phase j = .running n rest pending → rest.Blind →
          d.leadIn st.store = none → d.leadIn t = none) →
      ∀ j d n rest pending, job j = .deliver d →
        update st.phase i ph j = .running n rest pending → d.Underway t rest pending := by
    intro i ph t hph ho j d n rest pending hj hp
    by_cases hji : j = i
    · subst hji
      rw [update_self] at hp
      exact hph d n rest pending hj hp
    · rw [update_of_ne hji] at hp
      exact (h.underway j d n rest pending hj hp).frame (ho j hji d n rest pending hj hp)
  cases l with
  | fail i e =>
    obtain ⟨-, rfl⟩ := step_fail hs
    refine ⟨hso.1, h.alone.update (fun hph => nomatch hph), hm i _ _ ?_ ?_⟩
    · exact fun _ _ _ _ _ hph => nomatch hph
    · exact fun _ _ _ _ _ _ _ _ _ ha => ha
  | step i =>
    obtain ⟨n, rest, pending, hp, ⟨k, rfl, rfl⟩ | ⟨keys, write, k, rfl, hfr, rfl⟩ |
      ⟨a, rfl, rfl⟩ | ⟨e, rfl, rfl⟩⟩ := step_step hs
    · refine ⟨hso.1, h.alone.update fun _ => hC (by rw [hp]; rfl), hm i _ _ ?_ ?_⟩
      · intro d m rest' pending' hd hph
        obtain ⟨-, rfl, rfl⟩ := Phase.running.inj hph
        exact (h.underway i d n _ pending hd hp).select h.sound.inv
      · exact fun _ _ _ _ _ _ _ _ _ ha => ha
    · have hf : inFlight (st.phase i) = true := by rw [hp]; rfl
      refine ⟨hso.1, h.alone.update fun _ j hne hdu => h.alone i j hne hdu hf, hm i _ _ ?_ ?_⟩
      · intro d m rest' pending' hd hph
        obtain ⟨-, rfl, rfl⟩ := Phase.running.inj hph
        exact (h.underway i d n _ pending hd hp).exec _ _
      · exact fun _ _ _ _ _ _ _ _ _ ha => ha
    · have hf : inFlight (st.phase i) = true := by rw [hp]; rfl
      have hpo : (job i).Post st.store (pending st.store) := (h.sound.commit hp).2
      refine ⟨hso.1, h.alone.update (fun hph => nomatch hph), hm i _ _ ?_ ?_⟩
      · exact fun _ _ _ _ _ hph => nomatch hph
      · intro j hji d m rest' pending' hd hpj hb ha
        cases hi : job i with
        | command c =>
          rw [hi] at hpo
          exact Delivery.absent_of_quiet hpo ha
        | deliver d' =>
          rw [hi] at hpo
          refine Delivery.absent_of_delivered hpo (fun hsa => ?_) ha
          -- two of one purchase would be in flight together
          have hdu : (job i).Duplicates (job j) := by
            rw [hi, hd]
            exact ⟨Option.some_ne_none _, congrArg some hsa⟩
          have hj := h.alone i j hji hdu hf
          rw [hpj, inFlight_of_blind hb] at hj
          cases hj
    · refine ⟨hso.1, h.alone.update (fun hph => nomatch hph), hm i _ _ ?_ ?_⟩
      · exact fun _ _ _ _ _ hph => nomatch hph
      · exact fun _ _ _ _ _ _ _ _ _ ha => ha

omit [DecidableEq ι] in
theorem flights_init (job : ι → Job codec) {s : Store codec} (hs : Consistent s) :
    Flights job (init (fun i => (job i).client) s) where
  sound := sound_init (job_meets job) hs
  alone := by
    have hst : ∀ i, (job i).purchased ≠ none →
        inFlight (.running 0 (job i).program fun t => t) = false := by
      intro i hi
      cases hd : job i with
      | command c =>
        rw [hd] at hi
        exact absurd rfl hi
      | deliver d =>
        rw [Delivery.job_eq]
        rfl
    exact fun i j _ hdu _ => hst j (hdu.2 ▸ hdu.1)
  underway i d n rest pending hd hp := by
    obtain ⟨-, rfl, rfl⟩ := Phase.running.inj hp
    show d.Underway s (job i).program _
    rw [hd]
    exact .start

def leadsFrom (T P : UUID) (s : Store codec) : List Row :=
  s.leads.rows.filter fun r => decide (r.tenantID = T) && hasPurchase P r

theorem leadsFrom_length (T P : UUID) (s : Store codec) : (leadsFrom T P s).length ≤ 1 := by
  have hu : (leadsFrom T P s).Pairwise fun a b => ¬ (crmLeads codec).Clash a b :=
    s.leads.unique.filter _
  have hf : ∀ r ∈ leadsFrom T P s, Key.purchase P ∈ r.keys := by
    intro r hr
    have hp := (Bool.and_eq_true_iff.mp (mem_filter.mp hr).2).2
    exact mem_keys_purchase.mpr (of_decide_eq_true hp)
  rcases hro : leadsFrom T P s with _ | ⟨a, _ | ⟨b, rows⟩⟩
  · exact Nat.zero_le 1
  · exact Nat.le_refl 1
  · rw [hro] at hu hf
    have hab := rel_of_pairwise_cons hu (mem_cons_self ..)
    refine absurd (clash_iff_keys.mpr ⟨.purchase P, ?_, ?_⟩) hab
    · exact hf a (mem_cons_self ..)
    · exact hf b (mem_cons_of_mem _ (mem_cons_self ..))

theorem ingest_replayed (job : ι → Job codec) {s : Store codec} (hs : Consistent s)
    {ls : List (Label ι Err)} {st : State ι Key (Store codec) Err Unit}
    (hr : run (step fun i => (job i).client) (init (fun i => (job i).client) s) ls = some st) :
    (∀ T P, (leadsFrom T P st.store).length ≤ 1) ∧
    (∀ P, (createdMessages P st.store.outbox).length ≤ 1) ∧
    (∀ l d st', job l.who = .deliver d → step (fun i => (job i).client) st l = some st' →
    ∀ r ∈ st.store.leads, r ∈ st'.store.leads) ∧
    (Along (step fun i => (job i).client) (Apart job) (init (fun i => (job i).client) s) ls →
    ∀ i d st', job i = .deliver d → step (fun i => (job i).client) st (.step i) = some st' →
    (d.leadIn st.store).isSome = true → ∀ e, st'.phase i ≠ .returned (.error e)) := by
  have hso := sound_run (job_meets job) hs hr
  refine ⟨fun T P => leadsFrom_length T P _, hso.inv.once, ?_, ?_⟩
  · intro l d st' hd hst r hm
    rcases step_effect (job_meets job) hs hr hst with ⟨_, -, hpo⟩ | ⟨hsa, -⟩
    · rw [hd] at hpo
      exact hpo.kept r hm
    · rw [hsa]
      exact hm
  · intro hC i d st' hd hst hf e he
    have hfl : Flights job st :=
      run_invariant (flights_init job hs) (fun _ _ _ h hC hs => h.step hC hs) hC hr
    obtain ⟨n, rest, pending, hp, ⟨k, rfl, rfl⟩ | ⟨keys, write, k, rfl, -, rfl⟩ |
      ⟨a, rfl, rfl⟩ | ⟨e', rfl, rfl⟩⟩ := step_step hst
    · exact nomatch (update_self ..).symm.trans he
    · exact nomatch (update_self ..).symm.trans he
    · exact nomatch (update_self ..).symm.trans he
    · rw [(hfl.underway i d n _ pending hd hp).error] at hf
      cases hf

end

def replay : Bool → Job unaryCodec
  | true => .deliver (firstDelivery (formOf "160017"))
  | false =>
    .deliver { firstDelivery (formOf "160017") with
      draws := { lookup := freshConn, insert := freshConn, leadID := "xxxxx", now := 11 } }

instance (st : State Bool Key (Store unaryCodec) Err Unit) (l : Label Bool Err) :
    Decidable (Apart replay st l) :=
  match l with
  | .step _ => inferInstanceAs (Decidable (_ → _))
  | .fail _ _ => .isTrue trivial

theorem consistent_empty : Consistent ({} : Store codec) where
  meets _ hr := absurd hr not_mem_nil
  once _ := Nat.zero_le 1
  sourced _ hm := absurd hm not_mem_nil

theorem redelivery_finds :
    ∃ st st', run (step fun i => (replay i).client) (init (fun i => (replay i).client) {})
    (replicate 4 (.step true) ++ [.step false]) = some st ∧
    step (fun i => (replay i).client) st (.step false) = some st' ∧
    (leadsFrom 2 1 st.store).length = 1 ∧
    ((leadsFrom 2 1 st.store).length ≤ 1 ∧ (createdMessages 1 st.store.outbox).length ≤ 1 ∧
    (∀ r ∈ st.store.leads, r ∈ st'.store.leads) ∧ ∀ e, st'.phase false ≠ .returned (.error e)) := by
  refine exists_some₂ (P := fun st _ => (leadsFrom 2 1 st.store).length = 1 ∧
    ((firstDelivery (formOf "160017")).leadIn st.store).isSome)
    (by decide +kernel) fun st st' hr hr' ⟨hst, hf⟩ => ?_
  obtain ⟨hl, hc, hk, hs⟩ := ingest_replayed replay consistent_empty hr
  refine ⟨hst, hl 2 1, hc 1, ?_, ?_⟩
  · exact hk (.step false) _ st' rfl hr'
  · exact hs (by decide +kernel) false _ st' rfl hr' hf

def failed : Phase Key (Store codec) Err Unit → Bool
  | .returned (.error _) => true
  | _ => false

theorem duplicate_fails :
    ∃ st st', run (step fun i => (replay i).client) (init (fun i => (replay i).client) {})
    (.step false :: replicate 4 (.step true) ++ [.step false]) = some st ∧
    step (fun i => (replay i).client) st (.step false) = some st' ∧
    (leadsFrom 2 1 st.store).length = 1 ∧ failed (st'.phase false) = true :=
  exists_some₂ (by decide +kernel) fun _ _ _ _ h => h

end Leadkart.CrmLead
