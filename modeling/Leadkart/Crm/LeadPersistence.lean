import Leadkart.Crm.LeadIntake

/-!
# Leads in their rows
-/

namespace Leadkart.CrmLead

open Effect

def ReadsAs (codec : UuidCodec) (raw read : String) : Prop :=
  raw = "" ∧ read = "" ∨ ∃ u, codec.parse raw = some u ∧ read = codec.string u

structure ReloadedAs (codec : UuidCodec) (l l' : CrmLead) : Prop where
  stage : l'.stage = l.stage
  temperature : l'.temperature = l.temperature
  assignee : ReadsAs codec l.assigneeMembershipID l'.assigneeMembershipID
  convertedBy : ReadsAs codec l.convertedByMembershipID l'.convertedByMembershipID
  lostBy : ReadsAs codec l.lostByMembershipID l'.lostByMembershipID

inductive Reached (codec : UuidCodec) : CrmLead → Prop where
  | new {id tenantID : String} {s : PurchaseSnapshot} {now : Time} {l : CrmLead}
      (h : newFromPurchaseSnapshot codec id tenantID s now = .ok l) : Reached codec l
  | loaded {row : Row} {l : CrmLead} (h : rowToLead codec row = .ok l) : Reached codec l
  | step {l l' : CrmLead} (t : Transition) (now : Time) (hl : Reached codec l)
      (h : t.apply codec now l = .ok l') : Reached codec l'

def Parses (codec : UuidCodec) (raw : String) : Prop := raw = "" ∨ ∃ u, codec.parse raw = some u

structure IDsParse (codec : UuidCodec) (l : CrmLead) : Prop where
  assignee : Parses codec l.assigneeMembershipID
  convertedBy : Parses codec l.convertedByMembershipID
  lostBy : Parses codec l.lostByMembershipID

def EventsMap (codec : UuidCodec) (l : CrmLead) : Prop :=
  ∀ e ∈ l.events, ∃ m, fromDomainEvent codec e = .ok m

section

variable {codec : UuidCodec} {l l' : CrmLead} {now : Time}

theorem parses_of_parseUUID {name raw : String} {u : UUID} (h : parseUUID codec name raw = .ok u) :
    Parses codec raw := .inr ⟨u, UuidCodec.parse_of_parseOr h⟩

theorem EventsMap.of_recordEvent {e : Event} (h : EventsMap codec (l.recordEvent e)) :
    EventsMap codec l ∧ ∃ m, fromDomainEvent codec e = .ok m :=
  ⟨fun e' he' => h e' (List.mem_append_left _ he'), h e (by simp [recordEvent])⟩

theorem idsParse_apply {t : Transition} (h : t.apply codec now l = .ok l')
    (he : EventsMap codec l') (ih : EventsMap codec l → IDsParse codec l) : IDsParse codec l' := by
  cases t with
  | assign newAssignee assignedBy reason =>
    obtain ⟨-, ⟨-, rfl⟩ | ⟨-, -, rfl⟩⟩ := assign_eq_ok h
    · exact ih he
    · obtain ⟨hr, m, hm⟩ := he.of_recordEvent
      simp only [fromDomainEvent, except_bind_eq_ok] at hm
      obtain ⟨_, -, _, -, _, has, -⟩ := hm
      exact { ih hr with assignee := parses_of_parseUUID has }
  | changeStage newStage changedBy reason =>
    simp only [Transition.apply, changeStage, ite_error_eq_ok] at h
    obtain ⟨_, _, -, h⟩ := And.imp_right except_bind_ok h
    obtain ⟨-, h⟩ := ite_error_eq_ok.mp h
    split at h
    · cases h
      exact ih he
    · simp only [ite_error_eq_ok] at h
      obtain ⟨-, -, h⟩ := h
      cases h
      exact { ih he.of_recordEvent.1 with }
  | changeTemperature newTemp changedBy =>
    obtain ⟨_, -, h⟩ := except_bind_ok h
    obtain ⟨-, h⟩ := ite_error_eq_ok.mp h
    split at h
    · cases h
      exact ih he
    · obtain ⟨-, h⟩ := ite_error_eq_ok.mp h
      cases h
      exact { ih he.of_recordEvent.1 with }
  | convert convertedBy =>
    obtain ⟨_, -, h⟩ := except_bind_ok h
    obtain ⟨-, h⟩ := ite_error_eq_ok.mp h
    obtain ⟨-, h⟩ := ite_error_eq_ok.mp h
    cases h
    obtain ⟨hr, m, hm⟩ := he.of_recordEvent
    simp only [fromDomainEvent, except_bind_eq_ok] at hm
    obtain ⟨_, -, _, -, _, ha, -⟩ := hm
    exact { ih hr with convertedBy := parses_of_parseUUID ha }
  | lose lostBy reason =>
    obtain ⟨_, -, h⟩ := except_bind_ok h
    obtain ⟨-, h⟩ := ite_error_eq_ok.mp h
    obtain ⟨-, h⟩ := ite_error_eq_ok.mp h
    obtain ⟨-, h⟩ := ite_error_eq_ok.mp h
    obtain ⟨-, h⟩ := ite_error_eq_ok.mp h
    cases h
    obtain ⟨hr, m, hm⟩ := he.of_recordEvent
    simp only [fromDomainEvent, except_bind_eq_ok] at hm
    obtain ⟨_, -, _, -, _, ha, -⟩ := hm
    exact { ih hr with lostBy := parses_of_parseUUID ha }

theorem newFromPurchaseSnapshot_ids {id tenantID : String} {s : PurchaseSnapshot}
    (h : newFromPurchaseSnapshot codec id tenantID s now = .ok l) : IDsParse codec l := by
  unfold newFromPurchaseSnapshot at h
  simp only [except_bind_eq_ok, ite_error_eq_ok] at h
  obtain ⟨_, -, _, -, _, -, _, -, _, -, _, -, -, h⟩ := h
  cases h
  exact ⟨.inl rfl, .inl rfl, .inl rfl⟩

theorem parses_uuidStringIfValid (hc : codec.Lawful) (p : Option UUID) :
    Parses codec (codec.uuidStringIfValid p) := by
  cases p with
  | none => exact .inl rfl
  | some u => exact .inr ⟨u, hc.parse_string u⟩

theorem Reached.idsParse (hc : codec.Lawful) (hl : Reached codec l)
    (he : EventsMap codec l) : IDsParse codec l := by
  induction hl with
  | new h => exact newFromPurchaseSnapshot_ids h
  | loaded h =>
    obtain ⟨_, -, h⟩ := except_bind_ok h
    obtain ⟨_, -, h⟩ := except_bind_ok h
    cases h
    exact ⟨parses_uuidStringIfValid hc _, parses_uuidStringIfValid hc _,
      parses_uuidStringIfValid hc _⟩
  | step t now _ h ih => exact idsParse_apply h he ih

end

/-! ## Writing and reading back -/

section RoundTrip

variable {codec : UuidCodec} {l : CrmLead} {s s' : Store codec} {T lid : UUID} {tx : Tx}

theorem Parses.readsAs (hc : codec.Lawful) {raw : String} (h : Parses codec raw) :
    ReadsAs codec raw (codec.uuidStringIfValid (codec.pgUUIDOptStr raw)) := by
  rcases h with rfl | ⟨u, hu⟩
  · exact .inl ⟨rfl, rfl⟩
  · refine .inr ⟨u, hu, ?_⟩
    rw [UuidCodec.pgUUIDOptStr_of_parse hc hu]
    rfl

theorem parseTemperature_string (t : Temperature) : parseTemperature t.string = .ok t := by
  cases t <;> rfl

theorem rowToLead_reloadedAs (hc : codec.Lawful) (hi : IDsParse codec l) {row : Row}
    (hs : row.stage = l.stage.string) (ht : row.temperature = l.temperature.string)
    (ha : row.assigneeMembershipID = codec.pgUUIDOptStr l.assigneeMembershipID)
    (hco : row.convertedByMembershipID = codec.pgUUIDOptStr l.convertedByMembershipID)
    (hl : row.lostByMembershipID = codec.pgUUIDOptStr l.lostByMembershipID) :
    ∃ l', rowToLead codec row = .ok l' ∧ ReloadedAs codec l l' := by
  unfold rowToLead
  rw [hs, ht, parseStage_string, parseTemperature_string]
  refine ⟨_, rfl, rfl, rfl, ?_, ?_, ?_⟩
  · exact ha ▸ hi.assignee.readsAs hc
  · exact hco ▸ hi.convertedBy.readsAs hc
  · exact hl ▸ hi.lostBy.readsAs hc

theorem eventsMap_of_drain (h : drainLeadEvents l s = .ok s') :
    EventsMap codec l ∧ s'.leads = s.leads := by
  unfold drainLeadEvents at h
  split at h
  next hn =>
    cases h
    refine ⟨fun e he => ?_, rfl⟩
    rw [hn] at he
    cases he
  next =>
    simp only [except_bind_eq_ok] at h
    obtain ⟨_, -, mapped, hma, h⟩ := h
    cases h
    refine ⟨fun e he => ?_, rfl⟩
    obtain ⟨m, -, hm⟩ := (except_mapM_mem (except_mapError_ok hma)).1 e he
    exact ⟨m, hm⟩

theorem leadOf_congr (h : s'.leads = s.leads) : leadOf T lid s' = leadOf T lid s := by
  unfold leadOf
  rw [h]

theorem add_reload (hc : codec.Lawful) {conn c : Conn} (hl : Reached codec l)
    (hne : l.tenantID ≠ "") (h : (add conn l).effect.run s = (.ok (), s')) :
    ∃ l', loadLead (c.tx l.tenantID) l.id s' = .ok l' ∧ ReloadedAs codec l l' := by
  obtain ⟨row, s₁, hrow, hi, hd⟩ := (add_eq_ok hne).mp h
  obtain ⟨lid, hli, hrow⟩ := except_bind_ok hrow
  obtain ⟨tid, -, hrow⟩ := except_bind_ok hrow
  cases hrow
  obtain ⟨leads, hle, hs₁⟩ := except_bind_ok hi
  cases hs₁
  have hp := SqlRelation.insert_passed (except_mapError_ok hle)
  obtain ⟨he, hsa⟩ := eventsMap_of_drain hd
  have hT : codec.input l.tenantID = some tid := App.input_of_ownOrPlatform hp.1
  have hf : leadOf tid lid s' = some (insertParams codec l lid tid) := by
    rw [leadOf_congr hsa]
    refine Table.find?_eq_of_mem (fun a b ha hb => ?_) ((Table.mem_insert hp.2.2).mpr (.inr rfl))
      (by simp [insertParams, hasID])
    rw [Bool.and_eq_true] at ha hb
    exact clash_iff.mpr (.inl ((of_decide_eq_true ha.2).trans (of_decide_eq_true hb.2).symm))
  obtain ⟨l', hlo, hr⟩ : ∃ l', rowToLead codec (insertParams codec l lid tid) = .ok l' ∧ _ :=
    rowToLead_reloadedAs hc (hl.idsParse hc he) rfl rfl rfl rfl rfl
  exact ⟨l', (loadLead_eq_ok (bound_tx hT c) (UuidCodec.parse_of_parseOr hli)).mpr ⟨_, hf, hlo⟩, hr⟩

theorem persist_reload (hc : codec.Lawful) (hl : Reached codec l) (htx : Bound codec T tx)
    (hli : codec.parse l.id = some lid) {row : Row} (hrow : leadOf T lid s = some row)
    (h : (persist tx l).effect.run s = (.ok (), s')) :
    ∃ l', loadLead tx l.id s' = .ok l' ∧ ReloadedAs codec l l' := by
  unfold persist at h
  simp only [Transaction.effect_bind, Transaction.effect_write, bind_eq_ok, write_eq_ok] at h
  obtain ⟨_, s₁, hp, hd⟩ := h
  obtain ⟨he, hs⟩ := eventsMap_of_drain hd
  obtain ⟨hf, -⟩ := persistLeadState_eq_ok htx hli (write_eq_ok.mp hp)
  rw [hrow, Option.map_some, ← leadOf_congr hs] at hf
  obtain ⟨l', hlo, hr⟩ : ∃ l', rowToLead codec (updateParams codec l row) = .ok l' ∧ _ :=
    rowToLead_reloadedAs hc (hl.idsParse hc he) rfl rfl rfl rfl rfl
  exact ⟨l', (loadLead_eq_ok htx hli).mpr ⟨_, hf, hlo⟩, hr⟩

end RoundTrip

def purchasedLead : CrmLead := (firstDelivery (formOf "160017")).leadOf (formOf "160017")

theorem reached_purchasedLead : Reached unaryCodec purchasedLead := by
  have hn : newFromPurchaseSnapshot unaryCodec "xxxx" "xxx"
      (snapshotFromV1 (firstDelivery (formOf "160017")).evt) 10 = .ok purchasedLead := by
    decide +kernel
  exact .new hn

def assignedLead (assignee : String) : CrmLead :=
  recordEvent { purchasedLead with assigneeMembershipID := assignee, assignedAt := 11 }
    (.assigned purchasedLead.id purchasedLead.tenantID "" assignee "x" "" 11)

theorem assign_purchasedLead : purchasedLead.assign unaryCodec "y" "x" "" 11 =
    .ok (assignedLead "y") := by
  decide +kernel

def assignedStore : Store unaryCodec :=
  ((add freshConn (assignedLead "y") : Program unaryCodec Unit).effect.run
    { leads := .empty, history := .empty }).2

theorem add_assignedLead :
    (add freshConn (assignedLead "y")).effect.run {} = (.ok (), assignedStore) := by
  have hok : ((add freshConn (assignedLead "y") : Program unaryCodec Unit).effect.run {}).1 =
      .ok () := by
    decide +kernel
  exact Prod.ext hok rfl

theorem reached_assignedLead : Reached unaryCodec (assignedLead "y") :=
  .step (.assign "y" "x" "") 11 reached_purchasedLead assign_purchasedLead

end Leadkart.CrmLead
