import Mathlib.Algebra.Order.BigOperators.Group.List
import Mathlib.Algebra.Ring.Int.Defs
import Leadkart.Logic.Outcomes
import Leadkart.Platform.MarketplaceRules

/-!
# The first credit row of a tenant
-/

namespace Leadkart.Marketplace

open List LeadCredit Machine Transaction Transactions

inductive CreditResult where
  | initialised (alreadyExisted : Bool)
  | toppedUp (newBalance : Int64)
  deriving DecidableEq

section

variable (codec : UuidCodec)

def afterInsert : Except Err Unit → Tx CreditResult
  | .ok () => pure (.initialised false)
  | .error e =>
    if e.is errConflict then pure (.initialised true)
    else fail (wrapError "insert credit row: " e)

def afterLoad (tenantID : String) (now : Time) : Except Err LeadCredit → Tx CreditResult
  | .ok _ => pure (.initialised true)
  | .error e =>
    if e.is errNotFound then do
      let credit ← ofExcept ((newForTenant codec tenantID now).mapError
        (wrapError "construct credit row: "))
      let inserted ← (upsertWithVersion codec "" credit).attempt
      afterInsert inserted
    else fail (wrapError "load credit: " e)

def initialiseLeadCredits (tenantID : String) (now : Time) : Tx CreditResult :=
  if tenantID = "" then fail (.foreign "initialise lead credits: tenant_id required")
  else do
    let loaded ← (getByTenant codec tenantID).attempt
    afterLoad codec tenantID now loaded

end

inductive CreditExecution where
  | initialise (tenantID : String) (now : Time)
  | topup (d : Nat → Draws) (cmd : TopupLeadCreditsCommand)

namespace CreditExecution

def tenantID : CreditExecution → String
  | initialise tenantID _ => tenantID
  | topup _ cmd => cmd.tenantID

def amount : CreditExecution → Int
  | initialise .. => 0
  | topup _ cmd => cmd.delta.toInt

def client (codec : UuidCodec) : CreditExecution → Client Key Db Err CreditResult
  | initialise tenantID now =>
    { attempt := fun _ => initialiseLeadCredits codec tenantID now
      giveUp := fun _ e => some e }
  | topup d cmd =>
    { attempt := fun n =>
        if cmd.delta ≤ 0 then fail (.foreign "topup: delta must be positive")
        else runOnceTopup codec cmd (d n) >>= fun balance => pure (.toppedUp balance)
      giveUp := giveUp topupMaxRetries "topup: exhausted retries: " }

def Valid (codec : UuidCodec) : CreditExecution → Prop
  | initialise tenantID now => ∃ l, newForTenant codec tenantID now = .ok l
  | topup d cmd => 0 < cmd.delta ∧ isBlank cmd.reason = false ∧ cmd.adjustedBy ≠ "" ∧
      ∀ n, ∃ l, newForTenant codec cmd.tenantID (d n).now = .ok l

end CreditExecution

variable {codec : UuidCodec} {tid : UUID} {s t : Db} {l : LeadCredit}

def CreditExecution.Post (tid : UUID) (x : CreditExecution) (_ : CreditResult) (s t : Db) : Prop :=
  (∃ row', Adjusted tid x.amount s row' ∧ (x.amount = 0 → s.versionOf tid = 0) ∧
    t.credits = Function.update s.credits tid (some row')) ∨
  ((s.credits tid).isSome = true ∧ x.amount = 0 ∧ t = s)

def nothingStored : Db where
  credits _ := none
  leads _ := none
  tiers _ := none
  purchases := []
  outbox := []

def InsertsOn (tid : UUID) (keys : Db → List Key) (db : Db) : Prop :=
  keys nothingStored ≠ [] → db.credits tid = none

instance (tid : UUID) (keys : Db → List Key) (db : Db) : Decidable (InsertsOn tid keys db) :=
  inferInstanceAs (Decidable (_ → _))

variable {e : Err}

theorem updateCreditRow_error (h : updateCreditRow tid l s = .error e) :
    e.is errConflict = false ∧ (l.version = Int64.maxValue ∨ ¬0 ≤ l.balance) := by
  unfold updateCreditRow at h
  split at h
  · cases h
  split at h
  next hm =>
    obtain rfl := Except.error.inj h
    exact ⟨rfl, .inl hm⟩
  next =>
    split at h
    · cases h
    next hb =>
      obtain rfl := Except.error.inj h
      exact ⟨rfl, .inr hb⟩

theorem insertCreditRow_error (h : insertCreditRow tid l s = .error e) :
    e.is errConflict = false ∧ (s.credits tid ≠ none ∨ ¬0 ≤ l.balance) := by
  unfold insertCreditRow at h
  split at h
  · split at h
    next hs =>
      obtain rfl := Except.error.inj h
      exact ⟨rfl, .inl (Option.isSome_iff_ne_none.mp hs)⟩
    · cases h
  next hb =>
    obtain rfl := Except.error.inj h
    exact ⟨rfl, .inr hb⟩

structure Refusal (tid : UUID) (G : (Db → List Key) → Db → Prop) (l : LeadCredit) (e : Err) :
    Prop where
  stale : e.is errConflict = true → l.version ≠ 0
  conflict : (∀ keys db, G keys db → InsertsOn tid keys db) → 0 ≤ l.balance →
    l.version ≠ Int64.maxValue → e.is errConflict = true

variable {I : Db → Prop}

theorem outcomes_upsertWithVersion {G : (Db → List Key) → Db → Prop} {w : Bool}
    {ad : String} (ht : codec.parse l.tenantID = some tid) :
    (upsertWithVersion codec ad l).outcomes I G
    (fun r => ∀ e, r = .error e → Refusal tid G l e) w := by
  have hp : (publishOutbox (pgUUIDOrNull tid) (l.events.map (adjustedMessage ad))).outcomes I G
        (fun r => ∀ e, r = .error e → Refusal tid G l e) true := by
    unfold publishOutbox
    split
    · exact fun _ h => nomatch h
    · exact fun _ _ _ h => nomatch h
  unfold upsertWithVersion
  rw [UuidCodec.parseOr_ok ht]
  refine outcomes_statement_bind (fun s affected write _ hf => ?_) fun s e _ hf => ?_
  · obtain ⟨rfl, -⟩ | ⟨rfl, -⟩ := updateCreditRow_eq_ok hf
    · rw [if_pos rfl]
      split
      next hv =>
        intro e he
        obtain rfl := Except.error.inj he
        exact ⟨fun _ => hv, fun _ _ _ => rfl⟩
      next =>
        refine outcomes_statement_bind (fun _ _ _ _ _ => hp) fun s e hG hf => ?_
        obtain ⟨hc, hr⟩ := insertCreditRow_error hf
        intro e' he'
        obtain rfl := Except.error.inj he'
        refine ⟨(fun h => nomatch hc.symm.trans h), fun hi hb _ => ?_⟩
        rcases hr with hs | hn
        · exact absurd (hi _ _ hG (by simp [nothingStored])) hs
        · exact absurd hb hn
    · rw [if_neg (by decide)]
      exact hp
  · obtain ⟨hc, hr⟩ := updateCreditRow_error hf
    intro e' he'
    obtain rfl := Except.error.inj he'
    refine ⟨(fun h => nomatch hc.symm.trans h), fun _ hb hm => ?_⟩
    exact hr.elim (absurd · hm) (absurd hb)

theorem guar_refl {H : Set Key} (hs : Consistent s) : Guar H s s :=
  ⟨rfl, rfl, fun _ h => absurd rfl h, fun _ => .refl _, hs.numbered, fun _ h => absurd rfl h⟩

variable {tenantID : String} {now : Time}

theorem meets_initialise (ht : codec.parse tenantID = some tid) :
    Meets discipline (initialiseLeadCredits codec tenantID now)
    ((CreditExecution.initialise tenantID now).Post tid) := by
  intro s _
  unfold initialiseLeadCredits
  split
  · exact wp_fail trivial
  refine wp_bind (wp_attempt (wp_query ?_))
  intro t₁ _ _
  cases hrow : t₁.credits tid with
  | some row =>
    rw [show loadCredit codec tenantID (id t₁) = _ from loadCredit_found ht hrow]
    refine wp_pure ?_
    intro u hr hu
    obtain ⟨row', hrow', -⟩ := hr.advances tid row hrow
    exact ⟨guar_refl hu, .inr ⟨by rw [hrow']; rfl, rfl, rfl⟩⟩
  | none =>
    rw [show loadCredit codec tenantID (id t₁) = _ from loadCredit_missing ht hrow]
    show (afterLoad codec tenantID now (.error _)).wp _ _ _ _
    unfold afterLoad
    dsimp only
    rw [if_pos (by decide)]
    refine wp_bind (wp_ofExcept ?_ fun _ _ _ => trivial)
    intro l hl
    have hn := Effect.except_mapError_ok hl
    have hld := loaded_new ht hrow hn
    have hf := newForTenant_eq_ok hn
    -- a new aggregate cannot be stale, so that only its row is committed
    refine wp_bind (wp_attempt (wp_mono ?_ (wp_and_outcomes
      (Q := fun r h t => r = .ok () → ∃ row', .credit tid ∈ h.locks ∧ Adjusted tid 0 t row' ∧
        t.versionOf tid = 0 ∧ ∀ x, h.pending x = x.setCredit tid row')
      (wp_upsertWithVersion hld.tenantID ?_ fun _ _ _ h => nomatch h)
      (outcomes_upsertWithVersion (w := false) hld.tenantID))))
    · rintro (e | u) h t ⟨hok, hre⟩
      · show (afterInsert (.error e)).wp _ _ _ _
        unfold afterInsert
        dsimp only
        rw [if_neg fun hc => (hre e rfl).stale hc (by rw [hf])]
        exact wp_fail trivial
      · obtain ⟨row', hlo, ha, hv, hp⟩ := hok rfl
        refine wp_pure ?_
        intro u hr hu
        have ha := ha.stable hr hlo
        have hv : u.versionOf tid = 0 := (Db.versionOf_congr (hr.credit tid hlo)).trans hv
        rw [hp u]
        exact ⟨guar_setCredit hu hlo ha.version rfl rfl rfl fun lid hne => absurd rfl hne,
          .inl ⟨row', ha, fun _ => hv, rfl⟩⟩
    · intro t h row' hr hi hlo hw hp _
      refine ⟨row', hlo, hw.adjusted hld hr hi rfl (Int.add_zero _).symm, ?_, ?_⟩
      · rw [hw.read, hf]
        rfl
      · intro x
        rw [hp, hf]
        exact congrArg (Db.mk _ _ _ _) (append_nil _)

theorem meets_credit (hco : codec.Lawful) (x : CreditExecution)
    (ht : codec.parse x.tenantID = some tid) (n : Nat) :
    Meets discipline ((x.client codec).attempt n) (x.Post tid) := by
  cases x with
  | initialise tenantID now => exact meets_initialise ht
  | topup d cmd =>
    show Meets _ (if cmd.delta ≤ 0 then _ else _) _
    split
    · exact fun _ _ => wp_fail trivial
    next hd =>
      intro s hs
      refine wp_bind (wp_mono ?_ (meets_topup hco cmd (d n) s hs))
      rintro (e | balance) h t hc
      · trivial
      · refine wp_pure ?_
        intro u hr hu
        obtain ⟨hg, tid', row', message, ht', ha, -, hst⟩ := hc u hr hu
        cases ht'.symm.trans ht
        refine ⟨hg, .inl ⟨row', ha, fun hz => ?_, by rw [hst]; rfl⟩⟩
        have hp := Int64.lt_iff_toInt_lt.mp (Int64.not_le.mp hd)
        exact absurd hz (Int.ne_of_gt hp)

def CreditExecution.Ends (x : CreditExecution) : Except Err CreditResult → Prop
  | .ok _ => True
  | .error e =>
    match x with
    | initialise .. => False
    | topup .. => e.is errConflict = true

structure Fits (tid : UUID) (x : CreditExecution) (db : Db) : Prop where
  balance : db.balanceOf tid + x.amount < Int64.maxValue.toInt
  version : x.amount ≠ 0 → db.versionOf tid < Int64.maxValue.toInt

theorem ends_initialise (hc : codec.Lawful) (ht : codec.parse tenantID = some tid)
    (hvalid : (CreditExecution.initialise tenantID now).Valid codec) :
    (initialiseLeadCredits codec tenantID now).outcomes I (InsertsOn tid)
    (CreditExecution.initialise tenantID now).Ends false := by
  obtain ⟨l, hn⟩ := hvalid
  have hne : tenantID ≠ "" := by
    rintro rfl
    exact nomatch hc.parse_empty.symm.trans ht
  unfold initialiseLeadCredits
  rw [if_neg hne]
  refine outcomes_query_bind fun s _ => ?_
  cases hrow : s.credits tid with
  | some row =>
    rw [loadCredit_found ht hrow]
    trivial
  | none =>
    rw [loadCredit_missing ht hrow]
    unfold afterLoad
    dsimp only
    rw [if_pos (by decide), hn]
    have hf := newForTenant_eq_ok hn
    have hl := loaded_new ht hrow hn
    show ((upsertWithVersion codec "" l).attempt >>= afterInsert).outcomes _ _ _ _
    refine outcomes_bind (outcomes_attempt (outcomes_mono (fun r hr => ?_)
      (outcomes_upsertWithVersion hl.tenantID)))
    cases r with
    | ok u => exact fun _ => trivial
    | error e =>
      have hre := hr e rfl
      refine absurd (by rw [hf]) (hre.stale (hre.conflict (fun _ _ h => h) ?_ ?_))
      · exact hl.nonneg
      · rw [hf]
        exact (by decide : (0 : Int64) ≠ Int64.maxValue)

variable {cmd : TopupLeadCreditsCommand}

theorem creditOrNew_ok (hc : codec.Lawful) (ht : codec.parse cmd.tenantID = some tid)
    (hn : ∃ l, newForTenant codec cmd.tenantID now = .ok l) (s : Db) :
    ∃ credit, creditOrNew codec cmd now (loadCredit codec cmd.tenantID s) = .ok credit ∧
    Loaded codec tid s credit := by
  cases hrow : s.credits tid with
  | some row => exact ⟨_, by rw [loadCredit_found ht hrow]; rfl, loaded_row hc hrow⟩
  | none =>
    obtain ⟨l, hn⟩ := hn
    refine ⟨l, ?_, loaded_new ht hrow hn⟩
    rw [loadCredit_missing ht hrow]
    unfold creditOrNew
    dsimp only
    rw [if_pos (by decide), hn]
    rfl

theorem ends_topup (hco : codec.Lawful) {d : Nat → Draws}
    (hti : codec.parse cmd.tenantID = some tid)
    (hvalid : (CreditExecution.topup d cmd).Valid codec) (n : Nat) :
    (runOnceTopup codec cmd (d n) >>= fun balance => pure (CreditResult.toppedUp balance)).outcomes
    (Fits tid (.topup d cmd)) (InsertsOn tid) (CreditExecution.topup d cmd).Ends false := by
  obtain ⟨hd, hreason, ha, hne⟩ := hvalid
  unfold runOnceTopup
  rw [Transaction.bind_assoc]
  refine outcomes_query_bind fun s hf => ?_
  obtain ⟨credit, hc, hl⟩ := creditOrNew_ok hco hti (hne n) s
  rw [hc]
  have ht : credit.topup cmd.delta cmd.reason cmd.adjustedBy (d n).now = .ok
      (credit.adjusted cmd.delta (credit.balance + cmd.delta) cmd.reason cmd.adjustedBy
        (d n).now) := by
    unfold topup
    rw [if_neg (Int64.not_le.mpr hd), if_neg (by simp [hreason]), if_neg ha]
  have hn := Int64.le_iff_toInt_le.mp hl.nonneg
  have hp := Int64.lt_iff_toInt_lt.mp hd
  rw [Int64.toInt_zero] at hn hp
  have hs : credit.balance.toInt + cmd.delta.toInt < Int64.maxValue.toInt := hl.balance ▸ hf.balance
  have hv : credit.version.toInt < Int64.maxValue.toInt := hl.version ▸ hf.version (Int.ne_of_gt hp)
  show ((Transaction.ofExcept ((credit.topup _ _ _ _).mapError _) >>= _) >>= _).outcomes _ _ _ _
  rw [ht]
  refine outcomes_bind (outcomes_bind (x := upsertWithVersion _ _ _)
    (outcomes_mono (fun r hr => ?_) (outcomes_upsertWithVersion hl.tenantID)))
  cases r with
  | ok u => exact fun _ _ => trivial
  | error e =>
    refine (hr e rfl).conflict (fun _ _ h => h) ?_ ?_
    · exact MachineInt.add_nonneg_of_fits hl.nonneg (Int64.le_of_lt hd) (hs.trans (by decide))
    · intro hm
      exact absurd (congrArg Int64.toInt hm) (Int.ne_of_lt hv)

theorem ends_client (hc : codec.Lawful) (x : CreditExecution)
    (ht : codec.parse x.tenantID = some tid) (hvalid : x.Valid codec) (n : Nat) :
    ((x.client codec).attempt n).outcomes (Fits tid x) (InsertsOn tid) x.Ends false := by
  cases x with
  | initialise tenantID now => exact ends_initialise hc ht hvalid
  | topup d cmd =>
    show Transaction.outcomes _ _ _ (if cmd.delta ≤ 0 then _ else _) _
    rw [if_neg (Int64.not_le.mpr hvalid.1)]
    exact ends_topup hc ht hvalid n

theorem giveUp_eq_none {x : CreditExecution} {n : Nat} (h : x.Ends (.error e))
    (hn : n + 1 < topupMaxRetries) : (x.client codec).giveUp n e = none := by
  cases x with
  | initialise => exact h.elim
  | topup d cmd =>
    show giveUp _ _ _ _ = none
    unfold giveUp
    rw [if_pos (show e.is errConflict = true from h), if_pos hn]

section

variable {ι : Type} [DecidableEq ι] {exec : ι → CreditExecution}
  {st st' : State ι Key Db Err CreditResult}

def total (exec : ι → CreditExecution) (js : List ι) : Int := (js.map fun j => (exec j).amount).sum

structure Credited (tid : UUID) (exec : ι → CreditExecution) (db : Db) (js : List ι) : Prop where
  balance : db.balanceOf tid = total exec js
  version : db.versionOf tid ≤ 1 + total exec js
  stored : (db.credits tid).isSome = true ↔ js ≠ []

omit [DecidableEq ι] in
theorem Credited.commit {js : List ι} {i : ι} {r : CreditResult}
    (ham : ∀ i, 0 ≤ (exec i).amount) (h : Credited tid exec s js)
    (hp : (exec i).Post tid r s t) : Credited tid exec t (i :: js) := by
  have ht : total exec (i :: js) = (exec i).amount + total exec js := sum_cons
  rcases hp with ⟨row', had, hf, hc⟩ | ⟨hs, hz, rfl⟩
  · have hrow : t.credits tid = some row' := by rw [hc, Function.update_self]
    have hb : t.balanceOf tid = row'.balance.toInt := by
      unfold Db.balanceOf
      rw [hrow]
    have hv : t.versionOf tid = row'.version.toInt := by
      unfold Db.versionOf
      rw [hrow]
    have hold := h.balance
    have hsu : 0 ≤ total exec js := sum_nonneg fun a ha => by
      obtain ⟨j, -, rfl⟩ := mem_map.mp ha
      exact ham j
    refine ⟨?_, ?_, by simp [hrow]⟩
    · rw [hb, had.balance, ht, hold, Int.add_comm]
    · rw [hv, had.version, ht]
      have hst := h.version
      rcases Int.lt_or_eq_of_le (ham i) with hpo | hz
      · omega
      · have hnone := hf hz.symm
        omega
  · refine ⟨?_, ?_, by simp [hs]⟩
    · rw [ht, hz, Int.zero_add]
      exact h.balance
    · rw [ht, hz, Int.zero_add]
      exact h.version

structure Books (tid : UUID) (exec : ι → CreditExecution) (st : State ι Key Db Err CreditResult) :
    Prop where
  once : (st.log.map Prod.fst).Nodup
  credited : Credited tid exec st.store (st.log.map Prod.fst)
  logged (i : ι) (a : CreditResult) : (i, a) ∈ st.log ↔ st.phase i = .returned (.ok a)

variable {ls : List (Label ι Err)}

theorem run_books (hcc : codec.Lawful) (ht : ∀ i, codec.parse (exec i).tenantID = some tid)
    (ha : ∀ i, 0 ≤ (exec i).amount) (hs : Consistent s) (hnone : s.credits tid = none)
    (hr : run (step fun i => (exec i).client codec) (init (fun i => (exec i).client codec) s) ls =
    some st) : Books tid exec st := by
  have hcl := fun i n => meets_credit hcc (exec i) (ht i) n
  have hi : Credited tid exec s [] := by
    refine ⟨?_, ?_, by simp [hnone]⟩
    · unfold Db.balanceOf
      rw [hnone]
      rfl
    · unfold Db.versionOf
      rw [hnone]
      exact (by decide : (0 : Int) ≤ 1 + 0)
  have hb : Sound discipline (fun i => (exec i).Post tid) st ∧ (st.log.map Prod.fst).Nodup ∧
      Credited tid exec st.store (st.log.map Prod.fst) := by
    refine run_keeps (P := fun st => Sound discipline (fun i => (exec i).Post tid) st ∧
      (st.log.map Prod.fst).Nodup ∧ Credited tid exec st.store (st.log.map Prod.fst))
      ⟨sound_init hcl hs, .nil, hi⟩ ?_ hr
    rintro st l st' ⟨hso, ho, hc⟩ hst
    obtain ⟨hso', hsi | ⟨i, a, rfl, hco⟩⟩ := hso.step hcl hst
    · rw [hsi.log, hsi.store]
      exact ⟨hso', ho, hc⟩
    · rw [hco.log, map_cons]
      refine ⟨hso', nodup_cons.mpr ⟨fun hm => ?_, ho⟩, hc.commit ha hco.post⟩
      obtain ⟨⟨j, b⟩, hl, rfl⟩ := mem_map.mp hm
      exact step_running hst _ ((hso.logged j b).mp hl)
  exact ⟨hb.2.1, hb.2.2, hb.1.logged⟩

theorem amount_nonneg {x : CreditExecution} (h : x.Valid codec) : 0 ≤ x.amount := by
  cases x with
  | initialise => exact Int.le_refl _
  | topup d cmd => exact Int.le_of_lt (Int64.lt_iff_toInt_lt.mp h.1)

omit [DecidableEq ι] in
theorem Books.fits {i : ι} (h : Books tid exec st) (ha : ∀ i, 0 ≤ (exec i).amount)
    (hf : ∀ js : List ι, js.Nodup → total exec js < Int64.maxValue.toInt)
    (hr : ∀ r, st.phase i ≠ .returned r) : Fits tid (exec i) st.store := by
  have hno : i ∉ st.log.map Prod.fst := by
    intro hm
    obtain ⟨⟨j, a⟩, hl, rfl⟩ := mem_map.mp hm
    exact hr _ ((h.logged j a).mp hl)
  have ht : total exec (i :: st.log.map Prod.fst) =
      (exec i).amount + total exec (st.log.map Prod.fst) := sum_cons
  have hs := hf _ (nodup_cons.mpr ⟨hno, h.once⟩)
  have hb := h.credited.balance
  have hv := h.credited.version
  have hn := ha i
  exact ⟨by omega, fun hne => by omega⟩

def Retries (n : Nat) : Except Err CreditResult → Prop
  | .ok _ => True
  | .error _ => n + 1 < topupMaxRetries

instance (n : Nat) : ∀ r, Decidable (Retries n r)
  | .ok _ => .isTrue trivial
  | .error _ => inferInstanceAs (Decidable (_ < _))

/-- Where no insert meets a row, every call succeeds and the one row has the exact balance. -/
theorem credits_created_once (hcodec : codec.Lawful)
    (htid : ∀ i, codec.parse (exec i).tenantID = some tid) (hvalid : ∀ i, (exec i).Valid codec)
    (hfits : ∀ js : List ι, js.Nodup → total exec js < Int64.maxValue.toInt) (hs : Consistent s)
    (hnone : s.credits tid = none)
    (hC : Along (step fun i => (exec i).client codec) (EndsOn (InsertsOn tid) Retries)
    (init (fun i => (exec i).client codec) s) ls)
    (hr : run (step fun i => (exec i).client codec) (init (fun i => (exec i).client codec) s) ls =
    some st) : (∀ i r, st.phase i = .returned r → ∃ a, r = .ok a) ∧
    ∃ js : List ι, js.Nodup ∧ (∀ i, i ∈ js ↔ ∃ r, st.phase i = .returned r) ∧
    (js = [] → st.store.credits tid = none) ∧
    (js ≠ [] → ∃ row, st.store.credits tid = some row ∧ row.balance.toInt = total exec js) := by
  have ha := fun i => amount_nonneg (hvalid i)
  have hbo {ls : List (Label ι Err)} {st : State ι Key Db Err CreditResult}
      (hr : run (step fun i => (exec i).client codec) (init (fun i => (exec i).client codec) s) ls =
        some st) : Books tid exec st := run_books hcodec htid ha hs hnone hr
  have hsu : ∀ i r, st.phase i = .returned r → ∃ a, r = .ok a := by
    intro i r hp
    have hbd := run_outcomes (I := fun i => Fits tid (exec i)) (Q := fun i => (exec i).Ends)
      (R := fun _ r => ∃ a, r = .ok a)
      (fun i n => ends_client hcodec (exec i) (htid i) (hvalid i) n)
      (fun ls st i hr hru => (hbo hr).fits ha hfits hru)
      (fun _ _ a _ _ => ⟨a, rfl⟩)
      (fun i n e hen hn e' he' => nomatch (giveUp_eq_none hen hn).symm.trans he') hC hr i
    rw [hp] at hbd
    exact hbd
  obtain ⟨ho, hc, hl⟩ := hbo hr
  refine ⟨hsu, st.log.map Prod.fst, ho, fun i => ⟨fun hm => ?_, ?_⟩, fun hni => ?_, fun hne => ?_⟩
  · obtain ⟨⟨j, a⟩, hlo, rfl⟩ := mem_map.mp hm
    exact ⟨_, (hl j a).mp hlo⟩
  · rintro ⟨r, hp⟩
    obtain ⟨a, rfl⟩ := hsu i r hp
    exact mem_map.mpr ⟨(i, a), (hl i a).mpr hp, rfl⟩
  · by_contra hso
    exact hc.stored.mp (Option.isSome_iff_ne_none.mpr hso) hni
  · obtain ⟨row, hrow⟩ := Option.isSome_iff_exists.mp (hc.stored.mpr hne)
    refine ⟨row, hrow, ?_⟩
    have hb := hc.balance
    unfold Db.balanceOf at hb
    rwa [hrow] at hb

end

def firstCredits : Fin 3 → CreditExecution
  | 0 => .initialise (unaryCodec.string 1) 20
  | 1 => .topup (fun _ => ⟨20, ""⟩) ⟨unaryCodec.string 1, 5, "welcome", unaryCodec.string 9⟩
  | 2 => .topup (fun _ => ⟨20, ""⟩) ⟨unaryCodec.string 1, 3, "refund", unaryCodec.string 9⟩

theorem firstCredits_valid (i : Fin 3) : (firstCredits i).Valid unaryCodec := by
  have hn : ∃ l, newForTenant unaryCodec (unaryCodec.string 1) 20 = .ok l := ⟨_, rfl⟩
  match i with
  | 0 => exact hn
  | 1 => exact ⟨by decide, by decide +kernel, by decide +kernel, fun _ => hn⟩
  | 2 => exact ⟨by decide, by decide +kernel, by decide +kernel, fun _ => hn⟩

theorem firstCredits_fit (js : List (Fin 3)) (hjs : js.Nodup) :
    total firstCredits js < Int64.maxValue.toInt := by
  have ha : ∀ i : Fin 3, i ∈ [0, 1, 2] ∧ (firstCredits i).amount ≤ 5 := by decide +kernel
  have hl : js.length ≤ 3 := (subperm_of_subset hjs fun i _ => (ha i).1).length_le
  have hle : total firstCredits js ≤ 5 * js.length := by
    clear hjs hl
    induction js with
    | nil => exact Int.le_refl _
    | cons j js ih =>
      have hj := (ha j).2
      have ht : total firstCredits (j :: js) =
          (firstCredits j).amount + total firstCredits js := sum_cons
      rw [length_cons]
      omega
  rw [Int64.toInt_maxValue]
  omega

theorem nothingStored_consistent : Consistent nothingStored :=
  ⟨(fun _ _ h => nomatch h), fun _ _ h => nomatch h⟩

theorem credits_in_order : ∃ st, run (step fun i => (firstCredits i).client unaryCodec)
    (init (fun i => (firstCredits i).client unaryCodec) nothingStored)
    (replicate 4 (.step 0) ++ replicate 4 (.step 1) ++
    replicate 4 (.step 2)) = some st ∧
    (st.store.credits 1).map Row.balance = some 8 ∧
    ∀ i r, st.phase i = .returned r → ∃ a, r = .ok a := by
  refine exists_some (P := fun st => (st.store.credits 1).map Row.balance = some 8)
    (by decide +kernel) fun st hr hb => ⟨hb, ?_⟩
  exact (credits_created_once unaryCodec_lawful
    (by decide +kernel : ∀ i, unaryCodec.parse (firstCredits i).tenantID = some 1) firstCredits_valid
    firstCredits_fit nothingStored_consistent rfl (by decide +kernel) hr).1

theorem topup_lost : ∃ st, run (step fun i => (firstCredits i).client unaryCodec)
    (init (fun i => (firstCredits i).client unaryCodec) nothingStored)
    ([.step 0, .step 2] ++ replicate 5 (.step 1) ++ replicate 3 (.step 2) ++
    replicate 3 (.step 0)) = some st ∧
    (st.store.credits 1).map Row.balance = some 5 ∧
    (∃ e, (st.phase 0).result = some (.error e)) ∧ ∃ e, (st.phase 2).result = some (.error e) := by
  refine exists_some (P := fun st => (st.store.credits 1).map Row.balance = some 5 ∧
    (st.phase 0).result = some (.error (.foreign
      "insert credit row: lead credit repo: insert: 23505 lead_credits_pkey")) ∧
    (st.phase 2).result = some (.error (.foreign
      "lead credit repo: insert: 23505 lead_credits_pkey"))) (by decide +kernel) ?_
  exact fun st _ ⟨hb, h₀, h₂⟩ => ⟨hb, ⟨_, h₀⟩, ⟨_, h₂⟩⟩

end Leadkart.Marketplace
