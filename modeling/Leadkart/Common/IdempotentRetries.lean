import Leadkart.Common.Idempotency
import Leadkart.Logic.Machine

/-!
# Retries of one command
-/

namespace Leadkart.Idempotency

open Effect Machine

variable {ι : Type} [DecidableEq ι]

/-! ## Steps -/

inductive Phase where
  | arrived
  | executing
  | completed (resp : Response)
  | answered (resp : Response)
  deriving DecidableEq

structure Retries (ι : Type) where
  records : Records
  phase : ι → Phase
  completions : List (ι × Response)

inductive Label (ι : Type) where
  | get (i : ι) (up : Bool) (now : Time)
  | execute (i : ι) (outcome : Except Panic Response)
  | put (i : ι) (up : Bool) (now : Time)

def Label.who : Label ι → ι
  | .get i _ _ | .execute i _ | .put i _ _ => i

namespace Retries

def enter (st : Retries ι) (i : ι) (p : Phase) : Retries ι :=
  { st with phase := Function.update st.phase i p }

def afterGet : Except Response (Option Record) → Phase
  | .error resp => .answered resp
  | .ok (some rec) => .answered (replay rec)
  | .ok none => .executing

def complete (st : Retries ι) (i : ι) (resp : Response) : Retries ι :=
  { st.enter i (.completed resp) with completions := st.completions ++ [(i, resp)] }

def finish (st : Retries ι) (i : ι) : Except Panic Response → Retries ι
  | .error _ => st.enter i (.answered internalServerError)
  | .ok resp => if resp.is2xx then st.complete i resp else st.enter i (.answered resp)

def keep (st : Retries ι) (i : ι) (resp : Response) (records : Records) : Retries ι :=
  { st.enter i (.answered resp) with records }

def step (ttl : Duration) (k : Keyed) (st : Retries ι) : Label ι → Option (Retries ι)
  | .get i up now =>
    if st.phase i = .arrived then some (st.enter i (afterGet (lookup up st.records now k)))
    else none
  | .execute i outcome => if st.phase i = .executing then some (st.finish i outcome) else none
  | .put i up now =>
    match st.phase i with
    | .completed resp => some (st.keep i resp (remember up ttl k now resp st.records))
    | _ => none

def init (records : Records) : Retries ι := ⟨records, fun _ => .arrived, []⟩

end Retries

open Retries

section

variable {ttl : Duration} {k : Keyed} {st st' : Retries ι} {i : ι} {up : Bool} {now : Time}

theorem step_get : step ttl k st (.get i up now) = some st' ↔
    st.phase i = .arrived ∧ st.enter i (afterGet (lookup up st.records now k)) = st' := by
  show (if st.phase i = .arrived then _ else _) = some st' ↔ _
  by_cases h : st.phase i = .arrived <;> simp [h]

theorem step_execute {outcome : Except Panic Response} :
    step ttl k st (.execute i outcome) = some st' ↔
    st.phase i = .executing ∧ st.finish i outcome = st' := by
  show (if st.phase i = .executing then _ else _) = some st' ↔ _
  by_cases h : st.phase i = .executing <;> simp [h]

theorem step_put : step ttl k st (.put i up now) = some st' ↔ ∃ resp, st.phase i = .completed resp ∧
    st.keep i resp (remember up ttl k now resp st.records) = st' := by
  show (match st.phase i with | .completed resp => _ | _ => _) = some st' ↔ _
  cases h : st.phase i <;> simp

variable {resp : Response}

theorem finish_of_2xx (h : resp.is2xx = true) :
    st.finish i (.ok resp) = st.complete i resp := if_pos h

theorem finish_of_not_2xx (h : ¬ resp.is2xx = true) :
    st.finish i (.ok resp) = st.enter i (.answered resp) := if_neg h

@[simp] theorem enter_phase_self (st : Retries ι) (i : ι) (p : Phase) :
    (st.enter i p).phase i = p := Function.update_self ..

theorem enter_phase_of_ne (st : Retries ι) {i j : ι} (p : Phase) (h : j ≠ i) :
    (st.enter i p).phase j = st.phase j := Function.update_of_ne h ..

end

/-! ## Requests that do not overlap -/

def Retries.Busy (st : Retries ι) (i : ι) : Prop :=
  st.phase i = .executing ∨ ∃ resp, st.phase i = .completed resp

def InWindow (ttl : Duration) (t₀ : Time) : Label ι → Prop
  | .get _ _ now => t₀ ≤ now ∧ now < t₀ + ttl
  | .execute .. => True
  | .put _ _ now => t₀ ≤ now

def Apart (st : Retries ι) : Label ι → Prop
  | .get .. => ∀ j, ¬ st.Busy j
  | .execute .. => True
  | .put _ up _ => up = true

def Response.Repeats (r resp : Response) : Prop :=
  r.status = resp.status ∧ r.body = resp.body ∧ r.header contentType = resp.header contentType

theorem replay_recordOf (ttl : Duration) (k : Keyed) (n : Time) (resp : Response) :
    (replay (recordOf ttl k n resp)).Repeats resp := by
  refine ⟨rfl, rfl, ?_⟩
  unfold replay recordOf
  generalize resp.header contentType = value
  by_cases hv : value = ""
  · rw [hv]
    rfl
  · rw [if_neg hv]
    rfl

theorem Response.Repeats.refl (resp : Response) : resp.Repeats resp := ⟨rfl, rfl, rfl⟩

section Once

variable {ttl : Duration} {t₀ : Time} {k : Keyed} {st st' : Retries ι}

inductive Once (ttl : Duration) (t₀ : Time) (k : Keyed) (st : Retries ι) : Prop where
  | none
      (expired : ∀ rec, st.records (k.callerID, k.key) = some rec → rec.expiresAt ≤ t₀)
      (empty : st.completions = [])
      (single : ∀ i j, st.Busy i → st.Busy j → i = j)
      (running : ∀ i resp, st.phase i ≠ .completed resp)
      (refused : ∀ i resp, st.phase i = .answered resp → resp.is2xx = false)
  | storing (j : ι) (resp₀ : Response)
      (only : st.completions = [(j, resp₀)])
      (success : resp₀.is2xx = true)
      (completed : st.phase j = .completed resp₀)
      (single : ∀ i, st.Busy i → i = j)
      (refused : ∀ i resp, st.phase i = .answered resp → resp.is2xx = false)
  | stored (j : ι) (resp₀ : Response) (n : Time)
      (only : st.completions = [(j, resp₀)])
      (time : t₀ ≤ n)
      (found : st.records (k.callerID, k.key) = some (recordOf ttl k n resp₀))
      (through : ∀ i, ¬ st.Busy i)
      (same : ∀ i resp, st.phase i = .answered resp → resp.is2xx = false ∨ resp.Repeats resp₀)

variable {resp : Response}

theorem busy_of_answered {i j : ι} (h : (st.enter i (.answered resp)).Busy j) : st.Busy j := by
  by_cases hij : j = i
  · subst hij
    unfold Retries.Busy at h
    rw [enter_phase_self] at h
    rcases h with h | ⟨_, h⟩ <;> cases h
  · unfold Retries.Busy at h
    rwa [enter_phase_of_ne st _ hij] at h

theorem answered_enter {P : Response → Prop} {i : ι} (h : ∀ j r, st.phase j = .answered r → P r)
    (hr : P resp) : ∀ j r, (st.enter i (.answered resp)).phase j = .answered r → P r := by
  intro j r hj
  by_cases hij : j = i
  · subst hij
    rw [enter_phase_self] at hj
    exact Phase.answered.inj hj ▸ hr
  · rw [enter_phase_of_ne st _ hij] at hj
    exact h j r hj

theorem answered_of_enter {i j : ι} {p : Phase} (h : (st.enter i p).phase j = .answered resp)
    (hp : ∀ r, p ≠ .answered r) : st.phase j = .answered resp := by
  by_cases hij : j = i
  · subst hij
    rw [enter_phase_self] at h
    exact absurd h (hp resp)
  · rwa [enter_phase_of_ne st _ hij] at h

theorem Once.refuse {i : ι} (h : Once ttl t₀ k st) (hr : resp.is2xx = false)
    (hp : ∀ r, st.phase i ≠ .completed r) : Once ttl t₀ k (st.enter i (.answered resp)) := by
  cases h with
  | none expired empty single running refused =>
    refine .none expired empty (fun a b ha hb => ?_) (fun j r hj => ?_) (answered_enter refused hr)
    · exact single a b (busy_of_answered ha) (busy_of_answered hb)
    · by_cases hij : j = i
      · subst hij
        rw [enter_phase_self] at hj
        cases hj
      · rw [enter_phase_of_ne st _ hij] at hj
        exact running j r hj
  | storing j resp₀ only success completed single refused =>
    have hij : j ≠ i := by
      rintro rfl
      exact hp resp₀ completed
    refine .storing j resp₀ only success ?_ (fun a ha => single a (busy_of_answered ha))
      (answered_enter refused hr)
    rw [enter_phase_of_ne st _ hij, completed]
  | stored j resp₀ n only time found through same =>
    exact .stored j resp₀ n only time found (fun a ha => through a (busy_of_answered ha))
      (answered_enter same (.inl hr))

theorem Once.get {i : ι} {up : Bool} {now : Time} (hc : k.callerID ≠ "") (hk : k.key ≠ 0)
    (h : Once ttl t₀ k st) (hn : t₀ ≤ now) (hli : now < t₀ + ttl)
    (hap : ∀ j, ¬ st.Busy j) (har : st.phase i = .arrived) :
    Once ttl t₀ k (st.enter i (afterGet (lookup up st.records now k))) := by
  cases hl : lookup up st.records now k with
  | error resp =>
    refine h.refuse (lookup_eq_error hl) fun r hr => ?_
    cases har.symm.trans hr
  | ok found =>
    cases h with
    | none expired empty single running refused =>
      cases found with
      | some rec =>
        exact absurd hl (lookup_expired (fun r hr => Int.le_trans (expired r hr) hn) rec)
      | none =>
        have ho : ∀ j, (st.enter i .executing).Busy j → j = i := by
          intro j hj
          by_contra hij
          unfold Retries.Busy at hj
          rw [enter_phase_of_ne st _ hij] at hj
          exact hap j hj
        refine .none expired empty (fun a b ha hb => (ho a ha).trans (ho b hb).symm)
          (fun j r hj => ?_) (fun j r hj => refused j r (answered_of_enter hj fun _ h => nomatch h))
        by_cases hij : j = i
        · subst hij
          exact nomatch (enter_phase_self st j .executing).symm.trans hj
        · exact running j r ((enter_phase_of_ne st .executing hij).symm.trans hj)
    | storing j resp₀ only success completed single refused =>
      exact absurd (.inr ⟨resp₀, completed⟩) (hap j)
    | stored j resp₀ n only time found₀ through same =>
      have hre : found = some (recordOf ttl k n resp₀) := by
        cases up with
        | true =>
          have hli' : now < n + ttl := Int.lt_of_lt_of_le hli (Int.add_le_add_right time ttl)
          exact Except.ok.inj (hl.symm.trans (lookup_recordOf hc hk found₀ hli'))
        | false =>
          unfold lookup Idempotency.get at hl
          rw [if_neg hc] at hl
          cases hl
      subst hre
      exact .stored j resp₀ n only time found₀ (fun a ha => through a (busy_of_answered ha))
        (answered_enter same (.inr (replay_recordOf ttl k n resp₀)))

theorem Once.execute {i : ι} (outcome : Except Panic Response) (h : Once ttl t₀ k st)
    (he : st.phase i = .executing) : Once ttl t₀ k (st.finish i outcome) := by
  have hp : ∀ r, st.phase i ≠ .completed r := fun r hr => nomatch he.symm.trans hr
  cases outcome with
  | error p => exact h.refuse rfl hp
  | ok resp =>
    by_cases hre : resp.is2xx = true
    swap
    · rw [finish_of_not_2xx hre]
      exact h.refuse (Bool.eq_false_iff.mpr hre) hp
    rw [finish_of_2xx hre]
    cases h with
    | none expired empty single running refused =>
      refine .storing i resp ?_ hre (enter_phase_self ..) (fun j hj => ?_)
        (fun j r hj => refused j r (answered_of_enter hj fun _ h => nomatch h))
      · show st.completions ++ _ = _
        rw [empty]
        rfl
      · by_contra hij
        have hold : st.Busy j := by
          unfold Retries.Busy at hj ⊢
          rwa [show (st.complete i resp).phase j = st.phase j from
            enter_phase_of_ne st _ hij] at hj
        exact hij (single j i hold (.inl he))
    | storing j resp₀ only success completed single refused =>
      obtain rfl := single i (.inl he)
      exact absurd completed (hp resp₀)
    | stored j resp₀ n only time found through same =>
      exact absurd (.inl he) (through i)

theorem Once.put {i : ι} {now : Time} (hca : k.callerID ≠ "")
    (hl : k.callerID.utf8ByteSize ≤ maxCallerIDLen) (hk : k.key ≠ 0) (hp : 0 ≤ t₀)
    (ht : 0 < ttl) (h : Once ttl t₀ k st) (hn : t₀ ≤ now) (hc : st.phase i = .completed resp) :
    Once ttl t₀ k (st.keep i resp (remember true ttl k now resp st.records)) := by
  have hb : st.Busy i := .inr ⟨resp, hc⟩
  cases h with
  | none expired empty single running refused => exact absurd hc (running i resp)
  | storing j resp₀ only success completed single refused =>
    obtain rfl := single i hb
    obtain rfl := Phase.completed.inj (hc.symm.trans completed)
    refine .stored i resp now only hn ?_ (fun j hj => ?_) ?_
    · have he : 0 < now + ttl := Int.add_pos_of_nonneg_of_pos (Int.le_trans hp hn) ht
      exact remember_eq hca hl hk success (Int.ne_of_gt he)
    · have hb' : (st.enter i (.answered resp)).Busy j := hj
      obtain rfl := single j (busy_of_answered hb')
      unfold Retries.Busy at hj
      rw [show (st.keep j resp (remember true ttl k now resp st.records)).phase j = .answered resp
        from enter_phase_self ..] at hj
      rcases hj with hj | ⟨_, hj⟩ <;> cases hj
    · exact answered_enter (fun j r hj => .inl (refused j r hj)) (.inr (.refl resp))
  | stored j resp₀ n only time found through same => exact absurd hb (through i)

theorem Once.step {l : Label ι} (hc : k.callerID ≠ "")
    (hl : k.callerID.utf8ByteSize ≤ maxCallerIDLen) (hk : k.key ≠ 0) (hp : 0 ≤ t₀)
    (ht : 0 < ttl) (h : Once ttl t₀ k st) (hw : InWindow ttl t₀ l) (ha : Apart st l)
    (hs : Retries.step ttl k st l = some st') : Once ttl t₀ k st' := by
  cases l with
  | get i up now =>
    obtain ⟨har, rfl⟩ := step_get.mp hs
    exact h.get hc hk hw.1 hw.2 ha har
  | execute i outcome =>
    obtain ⟨he, rfl⟩ := step_execute.mp hs
    exact h.execute outcome he
  | put i up now =>
    obtain ⟨resp, hco, rfl⟩ := step_put.mp hs
    obtain rfl : up = true := ha
    exact h.put hc hl hk hp ht hw hco

theorem command_completes_once {lib : Lib} {requests : ι → Request} {records : Records}
    {ls : List (Label ι)} (hkeyed : ∀ i, keyOf lib (requests i) = .ok (some k)) (hkey : k.key ≠ 0)
    (hpos : 0 ≤ t₀) (httl : 0 < ttl)
    (hold : ∀ rec, records (k.callerID, k.key) = some rec → rec.expiresAt ≤ t₀)
    (hwindow : ∀ l ∈ ls, InWindow ttl t₀ l) (hapart : Along (step ttl k) Apart (init records) ls)
    (hr : run (step ttl k) (init records) ls = some st) : st.completions.length ≤ 1 ∧
    ∀ i resp, st.phase i = .answered resp →
    resp.is2xx = false ∨ ∃ c ∈ st.completions, resp.Repeats c.2 := by
  have h0 : Once ttl t₀ k (init records : Retries ι) := by
    refine .none hold rfl (fun i j hi hj => ?_) (fun _ _ h => nomatch h) (fun _ _ h => nomatch h)
    rcases hi with hi | ⟨_, hi⟩ <;> cases hi
  have ho : Once ttl t₀ k st := by
    refine run_invariant h0 (fun st l st' h hC hs => ?_) (hapart.and_labels hwindow) hr
    obtain ⟨-, -, -, hc, hl, -⟩ := keyOf_eq_ok (hkeyed l.who)
    exact h.step hc hl hkey hpos httl hC.2 hC.1 hs
  cases ho with
  | none expired empty single running refused =>
    rw [empty]
    exact ⟨Nat.zero_le 1, fun i resp hi => .inl (refused i resp hi)⟩
  | storing j resp₀ only success completed single refused =>
    rw [only]
    exact ⟨Nat.le_refl 1, fun i resp hi => .inl (refused i resp hi)⟩
  | stored j resp₀ n only time found through same =>
    rw [only]
    exact ⟨Nat.le_refl 1, fun i resp hi => (same i resp hi).imp_right fun hre =>
      ⟨(j, resp₀), List.mem_singleton_self _, hre⟩⟩

end Once

def sampleRequest : Request where
  method := "POST"
  path := "/api/v1/inventory/movements"
  remoteAddr := "192.0.2.7"
  commandID := "xxxx"
  body := some [1, 2, 3]

def sampleKeyed : Keyed := ⟨"anon:192.0.2.7", 3, 3⟩

def sampleCreated : Response where
  status := 201
  headers := [(contentType, "application/json")]
  body := [7]

def inTurn : List (Label Bool) :=
  [.get false true 10, .execute false (.ok sampleCreated), .put false true 11, .get true true 12]

def overlapping : List (Label Bool) :=
  [.get false true 10, .get true true 11, .execute false (.ok sampleCreated), .put false true 12,
    .execute true (.ok sampleCreated), .put true true 13]

theorem keyOf_sampleRequest : keyOf sampleLib sampleRequest = .ok (some sampleKeyed) := by
  decide +kernel

instance (st : Retries Bool) (i : Bool) : Decidable (st.Busy i) :=
  match h : st.phase i with
  | .executing => .isTrue (.inl h)
  | .completed resp => .isTrue (.inr ⟨resp, h⟩)
  | .arrived | .answered _ => .isFalse (by unfold Retries.Busy; simp [h])

instance (st : Retries Bool) : (l : Label Bool) → Decidable (Apart st l)
  | .get .. => inferInstanceAs (Decidable (∀ j, ¬ st.Busy j))
  | .execute .. => .isTrue trivial
  | .put _ up _ => inferInstanceAs (Decidable (up = true))

theorem retry_in_turn_is_replayed : ∃ st : Retries Bool,
    run (step defaultTTL sampleKeyed) (init fun _ => none) inTurn = some st ∧
    st.phase true = .answered (replay (recordOf defaultTTL sampleKeyed 11 sampleCreated)) ∧
    st.completions.length ≤ 1 := by
  have hw : ∀ l ∈ inTurn, InWindow defaultTTL 10 l := by
    simp [inTurn, InWindow, defaultTTL, day]
  have ha : Along (step defaultTTL sampleKeyed) Apart (init fun _ => none : Retries Bool)
      inTurn := by decide +kernel
  have hold : ∀ rec, (fun _ => none : Records) (sampleKeyed.callerID, sampleKeyed.key) = some rec →
      rec.expiresAt ≤ 10 := fun _ h => nomatch h
  refine exists_some (P := fun st => st.phase true =
    .answered (replay (recordOf defaultTTL sampleKeyed 11 sampleCreated)))
    (by decide +kernel) fun st hr hre => ⟨hre, ?_⟩
  exact (command_completes_once (fun _ : Bool => keyOf_sampleRequest) (by decide)
    (by decide) (by decide) hold hw ha hr).1

theorem handler_runs_twice : ∃ st : Retries Bool,
    run (step defaultTTL sampleKeyed) (init fun _ => none) overlapping = some st ∧
    (∀ l ∈ overlapping, InWindow defaultTTL 10 l) ∧
    st.completions = [(false, sampleCreated), (true, sampleCreated)] := by
  refine exists_some (P := fun st => st.completions = [(false, sampleCreated), (true, sampleCreated)])
    (by decide +kernel) fun st _ hc => ⟨?_, hc⟩
  simp [overlapping, InWindow, defaultTTL, day]

end Leadkart.Idempotency
