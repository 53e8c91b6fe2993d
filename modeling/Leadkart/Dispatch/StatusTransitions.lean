import Leadkart.Dispatch.ConsignmentRepository

/-!
# The status transitions of a stored note
-/

namespace Leadkart.ConsignmentNote

open List Effect Transaction Machine Transactions

variable {codec : UuidCodec}

def Call.wrapError : Call → Err → Err
  | .markDispatched .. => Err.wrap "mark dispatched: "
  | .markInTransit .. | .markDelivered .. | .markFailed .. => fun e => e

def Call.mutator (c : Call) (n : ConsignmentNote) : ConsignmentNote × Except Err Bool :=
  match c.apply n with
  | (n', some e) => (n', .error (c.wrapError e))
  | (n', none) => (n', .ok (n'.status ≠ n.status))

structure Command where
  (tenantID consignmentNoteID : String)
  call : Call
  conn : Conn

namespace Command

def handle (c : Command) : Program codec Unit :=
  updateByID c.conn c.tenantID c.consignmentNoteID c.call.mutator

def client (c : Command) : Client Key (Store codec) Err Unit where
  attempt _ := c.handle
  giveUp _ e := some e

end Command

def Row.text (r : Row) : Status → String
  | .dispatched => r.docketNumber
  | .failed => r.failureReason
  | .pending | .inTransit | .delivered => ""

def Advanced (lid : UUID) (s t : Store codec) : Prop :=
  ∃ row row' m, noteOf lid s = some row ∧ noteOf lid t = some row' ∧
    canAdvance row.status row'.status = true ∧ (∀ u, u ≠ row'.status → row'.text u = row.text u) ∧
    t.outbox = s.outbox ++ [m] ∧
    m.event.announces = (lid, row'.status, row'.text row'.status)

def serial (codec : UuidCodec) (lid : UUID) : Discipline Key (Store codec) where
  Inv _ := True
  Guar H s t := noteOf lid t = noteOf lid s ∨ .note lid ∈ H
  Rely H s t := .note lid ∈ H → noteOf lid t = noteOf lid s
  refl _ _ _ := rfl
  trans h₁ h₂ hH := (h₂ hH).trans (h₁ hH)
  keeps _ _ := trivial
  apart _ h hapart hH := h.resolve_right fun hH' => hapart _ hH' hH

variable {lid : UUID} {s : Store codec} {row : Row} {n : ConsignmentNote}

theorem announces_enrich {e : Event} {now : Time} {a : String} {p new : Status}
    {id tenantID o : String} (he : e = .statusChanged id tenantID o p new now a)
    {ie : IntegrationEvent} (h : fromDomainEvent codec e = .ok ie) (hid : codec.parse id = some lid)
    (r : Row) : (n.enrich ie).announces = (lid, new, (updateParams n r).text new) := by
  subst he
  simp only [fromDomainEvent, except_bind_eq_ok] at h
  obtain ⟨cnID, hcn, _, -, _, -, _, -, h⟩ := h
  obtain rfl := Option.some.inj ((parse_of_parseUUID hcn).symm.trans hid)
  cases new with
  | pending => cases h
  | dispatched | inTransit | delivered | failed =>
    cases h
    rfl

theorem text_updateParams (hm : Moved (rowToConsignmentNote codec row) n) {u : Status}
    (hu : u ≠ n.status) : (updateParams n row).text u = row.text u := by
  have hs := congrArg Prod.snd (hm.others u hu)
  cases u with
  | dispatched | failed => exact hs
  | pending | inTransit | delivered => rfl

theorem persist_advanced (hc : codec.Lawful) {tenantID : String} {conn : Conn}
    (hT : codec.input tenantID = some row.tenantID) (hm : Moved (rowToConsignmentNote codec row) n)
    {s₁ s₁' s₂ s₂' t : Store codec} (h₁ : noteOf lid s₁ = some row)
    (hup : updateConsignmentNoteRow (conn.tx tenantID) n s₁ = .ok s₁')
    (hd : drainConsignmentNoteEvents n s₂ = .ok s₂') (ht : noteOf lid t = some row) :
    Advanced lid t (applied (drainConsignmentNoteEvents n)
    (applied (updateConsignmentNoteRow (conn.tx tenantID) n) t)) := by
  have hi := hm.ids
  simp only [Prod.mk.injEq] at hi
  have hid : codec.parse n.id = some lid := by
    rw [hi.1, ← noteOf_id ht]
    exact hc.parse_string row.id
  obtain ⟨now, actor, he⟩ := hm.event
  obtain ⟨messages, hme, hap⟩ := drain_eq_ok hd
  obtain ⟨m, ie, rfl, hie, ha⟩ := mapEvents_singleton (he.trans (nil_append _)) hme
  obtain ⟨notes, hag, hf⟩ := updateRow_again hT hid h₁ hup ht
  unfold applied
  rw [hag]
  rw [hap]
  refine ⟨row, updateParams n row, m, ht, hf, hm.edge, ?_, rfl, ?_⟩
  · exact fun u hu => text_updateParams hm hu
  · rw [ha]
    exact announces_enrich rfl hie (hi.1 ▸ hid) row

theorem Call.mutator_cases (c : Call) (n : ConsignmentNote) :
    (∃ n' e, c.mutator n = (n', .error e)) ∨ (∃ n', c.mutator n = (n', .ok false)) ∨
    ∃ n', c.mutator n = (n', .ok true) ∧ Moved n n' := by
  unfold mutator
  rcases apply_cases n c with ⟨e, h⟩ | ⟨n', h, ⟨hs, -⟩, -⟩ | ⟨n', h, hm⟩ <;> rw [h]
  · exact .inl ⟨n, _, rfl⟩
  · exact .inr (.inl ⟨n', by simp [hs]⟩)
  · have hne : n'.status ≠ n.status := fun heq =>
      absurd (rank_of_canAdvance hm.edge) (by rw [heq]; exact lt_irrefl _)
    exact .inr (.inr ⟨n', by simp [hne], hm⟩)

theorem Command.handle_meets (hc : codec.Lawful) (c : Command)
    (hli : codec.parse c.consignmentNoteID = some lid) :
    Transaction.Meets (serial codec lid) c.handle fun _ s t => t = s ∨ Advanced lid s t := by
  intro s _
  unfold handle updateByID
  by_cases hne : c.tenantID = ""
  · unfold onTx Pg.setTenantOnTxExplicit
    rw [if_pos hne]
    exact wp_bind (wp_ofExcept (fun _ h => nomatch h) fun _ _ _ => trivial)
  rw [onTx_eq hne]
  unfold updateOnTx parseID
  rw [UuidCodec.parseOr_ok hli]
  refine wp_bind (wp_ofExcept (fun uid hui => ?_) fun _ _ _ => trivial)
  cases hui
  refine wp_bind (wp_statement (fun t row write h _ _ hlo ha => ?_) fun _ _ _ => trivial)
  obtain ⟨hf, rfl⟩ := lockRow_found hlo
  obtain ⟨hrow, hT⟩ := loadForUpdate_eq_ok hf
  have hl : .note lid ∈ h.locks := ha.keys _ (mem_seenKeys hf hrow)
  have hp : ∀ u, h.pending u = u := ha.pending
  show (persistIf _ lid (c.call.mutator (rowToConsignmentNote codec row))).wp _ _ h t
  rcases c.call.mutator_cases (rowToConsignmentNote codec row) with ⟨n', e, hmu⟩ | ⟨n', hmu⟩ |
    ⟨n', hmu, hm⟩ <;> rw [hmu]
  · exact wp_fail trivial
  · refine wp_pure fun u _ _ => ?_
    rw [hp]
    exact ⟨.inl rfl, .inl rfl⟩
  · refine wp_bind (wp_write (fun t₁ u₁ h₁ hr₁ _ hu ha₁ => ?_) fun _ _ _ => trivial)
    refine wp_write (fun t₂ u₂ h₂ hr₂ _ hd ha₂ => ?_) fun _ _ _ => trivial
    intro t₃ hr₃ _
    -- the row is locked from the load on, so everyone leaves it as it was loaded
    have h₁row : noteOf lid t₁ = some row := (hr₁ hl).trans hrow
    have h₂row : noteOf lid t₂ = some row := (hr₂ (ha₁.locks hl)).trans h₁row
    have h₃row : noteOf lid t₃ = some row := (hr₃ (ha₂.locks (ha₁.locks hl))).trans h₂row
    rw [hp] at hu
    rw [ha₂.pending, ha₁.pending, hp]
    exact ⟨.inr (ha₂.locks (ha₁.locks hl)), .inr (persist_advanced hc hT hm h₁row hu hd h₃row)⟩

structure Announced (lid : UUID) (first : Status) (messages : List OutboxMessage) (row : Row) :
    Prop where
  edges : (first :: messages.map fun m => m.event.announces.2.1).IsChain
    fun s t => canAdvance s t = true
  last : (first :: messages.map fun m => m.event.announces.2.1).getLast? = some row.status
  texts : ∀ m ∈ messages, ∃ u, m.event.announces = (lid, u, row.text u) ∧ u.rank ≤ row.status.rank
  ends : (messages.filter fun m => m.event.announces.2.1.isTerminal).length ≤
    if row.status.isTerminal then 1 else 0

theorem Announced.advance {f : Status} {me : List OutboxMessage} {row' : Row}
    {m : OutboxMessage} (h : Announced lid f me row) (he : canAdvance row.status row'.status = true)
    (ht : ∀ u, u ≠ row'.status → row'.text u = row.text u)
    (hm : m.event.announces = (lid, row'.status, row'.text row'.status)) :
    Announced lid f (me ++ [m]) row' := by
  have hr := rank_of_canAdvance he
  have hw : (f :: (me ++ [m]).map fun m => m.event.announces.2.1) =
      (f :: me.map fun m => m.event.announces.2.1) ++ [row'.status] := by
    simp [hm]
  constructor
  · rw [hw, isChain_append]
    refine ⟨h.edges, isChain_singleton _, ?_⟩
    intro u hu v hv
    cases hv
    obtain rfl := Option.some.inj (h.last.symm.trans hu)
    exact he
  · rw [hw, List.getLast?_concat]
  · intro q hq
    rcases mem_append.mp hq with hq | hq
    · obtain ⟨u, hu, hle⟩ := h.texts q hq
      refine ⟨u, ?_, hle.trans hr.le⟩
      rw [hu, ht u]
      rintro rfl
      exact absurd hle hr.not_ge
    · obtain rfl := mem_singleton.mp hq
      exact ⟨row'.status, hm, le_rfl⟩
  · have ho : row.status.isTerminal = false := by
      revert he
      cases row.status <;> cases row'.status <;> decide
    have hnone := h.ends
    rw [ho] at hnone
    rw [filter_append, length_append, filter_singleton, hm]
    split <;> simp_all

theorem announced_nil (row : Row) : Announced lid row.status [] row :=
  ⟨isChain_singleton _, rfl, fun _ hm => absurd hm not_mem_nil, Nat.zero_le _⟩

theorem status_changes_serialise {ι : Type} [DecidableEq ι] (hcodec : codec.Lawful)
    (cmd : ι → Command) (hcmd : ∀ i, codec.parse (cmd i).consignmentNoteID = some lid)
    {row₀ : Row} (hrow : noteOf lid s = some row₀) {ls : List (Label ι Err)}
    {st : State ι Key (Store codec) Err Unit}
    (hr : run (Transactions.step fun i => (cmd i).client) (init (fun i => (cmd i).client) s) ls =
    some st) :
    (∃ messages row, st.store.outbox = s.outbox ++ messages ∧ noteOf lid st.store = some row ∧
    Announced lid row₀.status messages row) ∧
    ∀ l st', Transactions.step (fun i => (cmd i).client) st l = some st' → st'.store = st.store ∨
    st'.phase l.who = .returned (.ok ()) ∧ Advanced lid st.store st'.store := by
  have hme : ∀ i n, Transaction.Meets (serial codec lid) ((cmd i).client.attempt n)
      fun _ s t => t = s ∨ Advanced lid s t := fun i _ => (cmd i).handle_meets hcodec (hcmd i)
  refine ⟨?_, fun l st' hs => ?_⟩
  · refine run_rule (P := fun t _ => ∃ messages row, t.outbox = s.outbox ++ messages ∧
      noteOf lid t = some row ∧ Announced lid row₀.status messages row) hme trivial
      ⟨[], row₀, (append_nil _).symm, hrow, announced_nil row₀⟩ ?_ hr
    rintro t log i - t' - ⟨messages, row, ho, ht, h⟩ (rfl | ha)
    · exact ⟨messages, row, ho, ht, h⟩
    · obtain ⟨r, row', m, hr, hr', he, hte, ho', hm⟩ := ha
      cases hr.symm.trans ht
      refine ⟨messages ++ [m], row', ?_, hr', h.advance he hte hm⟩
      rw [ho', ho, append_assoc]
  · rcases step_effect hme trivial hr hs with ⟨_, hp, hsa | ha⟩ | ⟨hsa, -⟩
    · exact .inl hsa
    · exact .inr ⟨hp, ha⟩
    · exact .inl hsa

def sentNote : Store unaryCodec where
  notes := ⟨[{
    id := 1, tenantID := 2, orderID := 3, status := .dispatched, carrierName := "BlueDart"
    docketNumber := "D-1", boxCount := 2, weightGrams := 500, expectedDeliveryAt := none
    dispatchedAt := some 2, inTransitAt := none, deliveredAt := none, failedAt := none
    failureReason := "", createdAt := 1, createdByMembershipID := 4 }], List.pairwise_singleton ..⟩

def failTwice (first : Bool) : Command where
  tenantID := "xxx"
  consignmentNoteID := "xx"
  call := .markFailed (if first then "refused" else "lost") "xxxxx" (if first then 5 else 6)
  conn := { plan := fun _ _ _ => false }

theorem second_failure_ignored : ∃ st, run (Transactions.step fun i => (failTwice i).client)
    (init (fun i => (failTwice i).client) sentNote)
    (List.replicate 4 (.step true) ++ List.replicate 2 (.step false)) = some st ∧
    (noteOf 1 st.store).map Row.failureReason = some "refused" ∧ st.store.outbox.length = 1 ∧
    ∃ messages row, st.store.outbox = sentNote.outbox ++ messages ∧
    noteOf 1 st.store = some row ∧ Announced 1 .dispatched messages row := by
  refine exists_some (P := fun st => (noteOf 1 st.store).map Row.failureReason = some "refused" ∧
    st.store.outbox.length = 1) (by decide +kernel) fun st hr ⟨hreason, ho⟩ => ?_
  exact ⟨hreason, ho, (status_changes_serialise unaryCodec_lawful failTwice
    (by decide) (show noteOf 1 sentNote = some _ from rfl) hr).1⟩

end Leadkart.ConsignmentNote
