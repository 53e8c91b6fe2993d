import Leadkart.Crm.LeadCommands

/-!
# The outcome of a lead
-/

namespace Leadkart.CrmLead

open List Machine Rmw

variable {codec : UuidCodec}

def Row.isTerminal (r : Row) : Bool := r.stage = Stage.converted.string || r.stage = Stage.lost.string

def settled (T lid : UUID) (s : Store codec) : Bool := (leadOf T lid s).any Row.isTerminal

def outcomes (lid : UUID) (outbox : List OutboxMessage) : List OutboxMessage :=
  outbox.filter fun m => m.event.outcomeOf = some lid

theorem isTerminal_of_parse {r : Row} {stage : Stage} (h : parseStage r.stage = .ok stage) :
    r.isTerminal = stage.isTerminal := by
  unfold Row.isTerminal
  rw [parseStage_eq_ok h]
  cases stage <;> decide

structure Announced (T lid : UUID) (s : Store codec) : Prop where
  lead : (leadOf T lid s).isSome = true
  once : (outcomes lid s.outbox).length ≤ if settled T lid s then 1 else 0

variable {T lid : UUID} {c : Command} {seen : List (Store codec)} {w : CrmLead × String}

theorem attempt_open (hco : codec.Lawful) (hc : c.On codec T lid)
    (h : c.txn.attempt seen = some w) : ∃ s ∈ seen, settled T lid s = false := by
  obtain ⟨s₀, l, rfl, hl, ha, -⟩ := Command.txn_attempt h
  obtain ⟨row, hrow, hle, -⟩ := Command.load_eq_ok hco hc hl
  obtain ⟨-, -, -, hs, -⟩ := rowToLead_eq_ok hle
  refine ⟨s₀, mem_singleton_self s₀, ?_⟩
  unfold settled
  rw [hrow, Option.any_some, isTerminal_of_parse hs]
  exact (Transition.apply_eq_ok ha).isOpen

variable {s : Store codec}

theorem Announced.commit (hco : codec.Lawful) (hc : c.On codec T lid) {s' : Store codec}
    (h : Announced T lid s) (hop : settled T lid s = false)
    (ha : c.txn.attempt seen = some w) (hw : c.txn.write w s = some s') : Announced T lid s' := by
  obtain ⟨s₀, l, -, hlo, hap, hch, -⟩ := Command.txn_attempt ha
  obtain ⟨-, -, -, hid, hl⟩ := Command.load_eq_ok hco hc hlo
  have hst := Transition.apply_eq_ok hap
  obtain ⟨e, he, ho, -⟩ := hst.recorded hch
  rw [hl, nil_append] at he
  obtain ⟨hrow, ⟨messages, hme, hou⟩, -⟩ :=
    Command.store_eq_ok hc (hst.id ▸ hid) (Command.txn_write hw)
  obtain ⟨row, hle⟩ := Option.isSome_iff_exists.mp h.lead
  rw [hle, Option.map_some] at hrow
  have hs : settled T lid s' = w.1.stage.isTerminal := by
    unfold settled
    rw [hrow, Option.any_some]
    exact isTerminal_of_parse (parseStage_string _)
  refine ⟨by rw [hrow]; rfl, ?_⟩
  -- Nothing was announced before, and one message is sent.
  have hnone : outcomes lid s.outbox = [] := by
    have hon := h.once
    rw [hop] at hon
    exact length_eq_zero_iff.mp (Nat.le_zero.mp hon)
  rw [he] at hme
  obtain ⟨m, hm, hma⟩ := mapDomainEvents_singleton hme
  obtain ⟨message, rfl, hms⟩ := map_eq_singleton_iff.mp hma
  have hk : message.event.outcomeOf.isSome = w.1.stage.isTerminal := by
    rw [hms, (fromDomainEvent_kind hm).1, ho]
  have hse : outcomes lid s'.outbox = outcomes lid [message] := by
    rw [hou]
    unfold outcomes at hnone ⊢
    rw [List.filter_append, hnone, List.nil_append]
  rw [hse, hs, ← hk]
  unfold outcomes
  cases hev : message.event.outcomeOf with
  | none => simp [hev]
  | some id => simpa using List.length_filter_le _ [message]

theorem outcome_permanent {ι : Type} [DecidableEq ι] (hcodec : codec.Lawful) (cmd : ι → Command)
    (hcmd : ∀ i, (cmd i).On codec T lid) (hs : Announced T lid s) {before after : List (Label ι)}
    (hC : Along (step fun i => (cmd i).txn) (Current (settled T lid)) (init ι (CrmLead × String) s)
    (before ++ after)) {st st' : State ι (Store codec) (CrmLead × String)}
    (hst : run (step fun i => (cmd i).txn) (init ι (CrmLead × String) s) before = some st)
    (hst' : run (step fun i => (cmd i).txn) st after = some st') :
    (settled T lid st.store = true → leadOf T lid st'.store = leadOf T lid st.store) ∧
    (outcomes lid st'.store.outbox).length ≤ 1 := by
  have hop : ∀ i seen w, (cmd i).txn.attempt seen = some w →
      ∃ x ∈ seen, settled T lid x = false := fun i seen w => attempt_open hcodec (hcmd i)
  have hgu := guarded_init (settled T lid) (fun i => (cmd i).txn) s
  have hg := guarded_run hgu hC.append_left hst
  have haf := hC.append_right hst
  refine ⟨fun hd => ?_, ?_⟩
  · rw [(run_settled hop hg hd haf hst').1]
  · have han : Announced T lid st'.store := by
      refine run_store_rule (P := fun s _ => Announced T lid s) hgu hs ?_ hC
        (by rw [run_append, hst]; exact hst')
      intro x log i seen w x' hx _ _ hse ha hw
      obtain ⟨y, hy, hf⟩ := hop i seen w ha
      exact hx.commit hcodec (hcmd i) ((hse y hy).symm.trans hf) ha hw
    have ho := han.once
    split at ho
    · exact ho
    · exact Nat.le_trans ho (Nat.zero_le 1)

def outcomeCommands : Bool → Command
  | true => onOpenLead (.convert "xxxxx") 20 ""
  | false => onOpenLead (.lose "xxxxxx" "price") 21 ""

def converting : List (Label Bool) := [.read true, .write true, .commit true]

theorem outcome_kept_in_turn : ∃ st st', run (step fun i => (outcomeCommands i).txn)
    (init Bool (CrmLead × String) openLeadStore) converting = some st ∧
    run (step fun i => (outcomeCommands i).txn) st [.read false, .abort false] = some st' ∧
    settled 2 3 st.store = true ∧
    (settled 2 3 st.store = true → leadOf 2 3 st'.store = leadOf 2 3 st.store) ∧
    (outcomes 3 st'.store.outbox).length ≤ 1 := by
  have hc : ∀ i, (outcomeCommands i).On unaryCodec 2 3 := by
    intro i
    cases i <;> exact onOpenLead_on ..
  exact exists_some₂ (P := fun st _ => settled 2 3 st.store = true) (by decide +kernel)
    fun st st' hr hr' hs => ⟨hs, outcome_permanent unaryCodec_lawful outcomeCommands
      hc ⟨by decide +kernel, by decide +kernel⟩ (by decide +kernel) hr hr'⟩

theorem outcome_overwritten : ∃ st st', run (step fun i => (outcomeCommands i).txn)
    (init Bool (CrmLead × String) openLeadStore) (.read false :: converting) = some st ∧
    run (step fun i => (outcomeCommands i).txn) st [.write false, .commit false] = some st' ∧
    ((leadOf 2 3 st.store).map Row.stage = some "converted" ∧
    (leadOf 2 3 st'.store).map Row.stage = some "lost" ∧
    (outcomes 3 st'.store.outbox).length = 2) := exists_some₂ (by decide +kernel) fun _ _ _ _ h => h

end Leadkart.CrmLead
