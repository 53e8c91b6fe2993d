import Leadkart.Messaging.Relay

/-!
# Deliveries through the middleware stack
-/

namespace Leadkart.Messaging

open List Function Machine

inductive Answer where
  | inserted
  | refused (e : HandlerError)
  | unanswered (e : HandlerError)
  deriving DecidableEq

inductive Phase where
  | waiting
  | running (k : Nat)
  | recording
  | failing (e : HandlerError)
  | ended (v : Verdict)
  | lost
  deriving DecidableEq

structure Flight where
  phase : Phase := .waiting
  /-- How often the handler ran for this delivery. -/
  calls : Nat := 0
  /-- Whether its INSERT has made the row. -/
  created : Bool := false

def Flight.crash (f : Flight) : Flight :=
  match f.phase with
  | .waiting | .ended _ => f
  | _ => { f with phase := .lost }

structure Inbox (ι M H : Type) where
  rows : List (M × H) := []
  runs : List ((M × H) × Attempt) := []
  flights : ι → Flight := fun _ => {}

namespace Inbox

variable {ι M H : Type} [DecidableEq ι] [DecidableEq H] [DecidableEq M]

inductive Label (ι : Type) where
  | lookup (i : ι) (answer : Except HandlerError Unit)
  | call (i : ι) (a : Attempt) (stopped : Bool)
  | insert (i : ι) (answer : Answer)
  | salvage (i : ι) (answer : Except HandlerError Unit)
  | crash

section

variable (msg : ι → M × H) (retries : Nat)

def set (b : Inbox ι M H) (i : ι) (f : Flight) : Inbox ι M H :=
  { b with flights := Function.update b.flights i f }

def record (b : Inbox ι M H) (m : M × H) : Inbox ι M H :=
  if m ∈ b.rows then b else { b with rows := m :: b.rows }

def afterCall (k : Nat) (a : Attempt) (stopped : Bool) : Phase :=
  match recoverer a with
  | .ok () => .recording
  | .error e =>
    if e = .nonRetryable ∨ stopped ∨ k = retries then .failing e else .running (k + 1)

def afterError (e : HandlerError) (answer : Except HandlerError Unit) : Verdict :=
  match e, answer with
  | .canceled, _ => .nack
  | _, .ok () => .salvaged
  | _, .error _ => .nack

def step (b : Inbox ι M H) : Label ι → Option (Inbox ι M H)
  | .lookup i answer =>
    match (b.flights i).phase, answer with
    | .waiting, .error e => some (b.set i { b.flights i with phase := .failing e })
    | .waiting, .ok () =>
      if msg i ∈ b.rows then
        some (b.set i { b.flights i with phase := .ended (.ack .duplicate) })
      else some (b.set i { b.flights i with phase := .running 0 })
    | _, _ => none
  | .call i a stopped =>
    match (b.flights i).phase with
    | .running k => some { b.set i { b.flights i with
        phase := afterCall retries k a stopped, calls := (b.flights i).calls + 1 } with
        runs := (msg i, a) :: b.runs }
    | _ => none
  | .insert i answer =>
    match (b.flights i).phase, answer with
    | .recording, .inserted => some ((b.record (msg i)).set i { b.flights i with
        phase := .ended (.ack .recorded), created := msg i ∉ b.rows })
    | .recording, .refused e => some (b.set i { b.flights i with phase := .failing e })
    | .recording, .unanswered e => some ((b.record (msg i)).set i { b.flights i with
        phase := .failing e, created := msg i ∉ b.rows })
    | _, _ => none
  | .salvage i answer =>
    match (b.flights i).phase with
    | .failing e => some (b.set i { b.flights i with phase := .ended (afterError e answer) })
    | _ => none
  | .crash => some { b with flights := fun i => (b.flights i).crash }

def Acknowledged (f : Flight) : Prop := ∃ v, f.phase = .ended v ∧ v ≠ .nack

structure Sound (b : Inbox ι M H) : Prop where
  rows : ∀ m ∈ b.rows, (m, .ok) ∈ b.runs
  skipped : ∀ i, Acknowledged (b.flights i) → (b.flights i).calls = 0 → msg i ∈ b.rows
  poisoned : ∀ i, (b.flights i).phase = .ended .salvaged → (b.flights i).created = false

def Answered (b : Inbox ι M H) : Label ι → Prop
  | .lookup i (.error e) => e = .canceled ∨ msg i ∈ b.rows
  | .insert i (.unanswered e) => e = .canceled ∨ msg i ∈ b.rows
  | _ => True

instance Answered.decidable (b : Inbox ι M H) : (l : Label ι) → Decidable (Answered msg b l)
  | .lookup i (.error e) => inferInstanceAs (Decidable (e = .canceled ∨ msg i ∈ b.rows))
  | .insert i (.unanswered e) => inferInstanceAs (Decidable (e = .canceled ∨ msg i ∈ b.rows))
  | .lookup _ (.ok _) | .insert _ .inserted | .insert _ (.refused _) | .call .. | .salvage ..
  | .crash => .isTrue trivial

end

section

variable {msg : ι → M × H} {retries : Nat} {b b' : Inbox ι M H} {m : M × H} {f : Flight}

structure Clear (b : Inbox ι M H) (m : M × H) (f : Flight) : Prop where
  row : f.calls = 0 → m ∈ b.rows
  created : f.created = false

def Fits (b : Inbox ι M H) (m : M × H) (f : Flight) : Prop :=
  match f.phase with
  | .waiting | .running _ => f.created = false
  | .recording => (m, .ok) ∈ b.runs ∧ 0 < f.calls ∧ f.created = false
  | .failing e => e = .canceled ∨ b.Clear m f
  | .ended .salvaged => b.Clear m f
  | .ended (.ack _) => f.calls = 0 → m ∈ b.rows
  | .ended .nack | .lost => True

structure Inv (msg : ι → M × H) (b : Inbox ι M H) : Prop where
  rows : ∀ m ∈ b.rows, (m, .ok) ∈ b.runs
  fits : ∀ i, b.Fits (msg i) (b.flights i)

structure Grows (b b' : Inbox ι M H) : Prop where
  rows : ∀ m ∈ b.rows, m ∈ b'.rows
  runs : ∀ r ∈ b.runs, r ∈ b'.runs

omit [DecidableEq ι] [DecidableEq H] [DecidableEq M] in
theorem Clear.grows (h : b.Clear m f) (hg : Grows b b') : b'.Clear m f where
  row hz := hg.rows m (h.row hz)
  created := h.created

omit [DecidableEq ι] [DecidableEq H] [DecidableEq M] in
theorem Fits.grows (h : b.Fits m f) (hg : Grows b b') : b'.Fits m f := by
  rcases f with ⟨phase, calls, created⟩
  cases phase with
  | waiting => exact h
  | running k => exact h
  | recording => exact ⟨hg.runs _ h.1, h.2⟩
  | failing e => exact Or.imp_right (fun hc => Clear.grows hc hg) h
  | lost => trivial
  | ended v =>
    cases v with
    | ack r => exact fun hz => hg.rows m (h hz)
    | salvaged => exact Clear.grows h hg
    | nack => trivial

omit [DecidableEq ι] [DecidableEq H] [DecidableEq M] in
theorem Fits.at_phase {p : Phase} (h : b.Fits m f) (hp : f.phase = p) :
    b.Fits m { f with phase := p } := by
  subst hp
  exact h

omit [DecidableEq ι] [DecidableEq H] [DecidableEq M] in
theorem Fits.crash (h : b.Fits m f) : b.Fits m f.crash := by
  rcases f with ⟨phase, calls, created⟩
  cases phase with
  | waiting => exact h
  | ended v => exact h
  | running k => trivial
  | recording => trivial
  | failing e => trivial
  | lost => trivial

omit [DecidableEq ι] in
theorem grows_record (b : Inbox ι M H) (m : M × H) : Grows b (b.record m) := by
  unfold record
  split
  · exact ⟨fun _ h => h, fun _ h => h⟩
  · exact ⟨fun _ h => mem_cons_of_mem m h, fun _ h => h⟩

omit [DecidableEq ι] in
theorem mem_record {n : M × H} : n ∈ (b.record m).rows ↔ n = m ∨ n ∈ b.rows := by
  unfold record
  split
  · rename_i hm
    exact ⟨.inr, fun h => h.elim (fun hn => hn ▸ hm) fun hn => hn⟩
  · exact mem_cons

omit [DecidableEq ι] in
@[simp] theorem record_runs : (b.record m).runs = b.runs := by
  unfold record
  split <;> rfl

omit [DecidableEq ι] in
@[simp] theorem record_flights : (b.record m).flights = b.flights := by
  unfold record
  split <;> rfl

omit [DecidableEq M] [DecidableEq H] in
theorem Inv.update (hb : b.Inv msg) {i : ι} (hg : Grows b b')
    (hfl : b'.flights = Function.update b.flights i f)
    (hr : ∀ m ∈ b'.rows, (m, .ok) ∈ b'.runs) (hf : b'.Fits (msg i) f) : b'.Inv msg where
  rows := hr
  fits j := by
    rw [hfl]
    rcases eq_or_ne j i with rfl | hne
    · rw [update_self]
      exact hf
    · rw [update_of_ne hne]
      exact (hb.fits j).grows hg

variable {answer : Except HandlerError Unit}

theorem step_lookup {i : ι} (h : step msg retries b (.lookup i answer) = some b') :
    (b.flights i).phase = .waiting ∧ ∃ p, b' = b.set i { b.flights i with phase := p } ∧
      ((∃ e, answer = .error e ∧ p = .failing e) ∨
        answer = .ok () ∧ (msg i ∈ b.rows ∧ p = .ended (.ack .duplicate) ∨ p = .running 0)) := by
  simp only [step] at h
  split at h
  · rename_i e hp
    exact ⟨hp, _, (Option.some.inj h).symm, .inl ⟨e, rfl, rfl⟩⟩
  · rename_i hp
    split at h
    · rename_i hrow
      exact ⟨hp, _, (Option.some.inj h).symm, .inr ⟨rfl, .inl ⟨hrow, rfl⟩⟩⟩
    · exact ⟨hp, _, (Option.some.inj h).symm, .inr ⟨rfl, .inr rfl⟩⟩
  · cases h

variable {a : Attempt} {stopped : Bool}

theorem step_call {i : ι} (h : step msg retries b (.call i a stopped) = some b') :
    ∃ k, (b.flights i).phase = .running k ∧
    b' = { b.set i { b.flights i with
          phase := afterCall retries k a stopped, calls := (b.flights i).calls + 1 } with
        runs := (msg i, a) :: b.runs } := by
  simp only [step] at h
  split at h
  · rename_i k hp
    exact ⟨k, hp, (Option.some.inj h).symm⟩
  · cases h

theorem step_insert {i : ι} {answer : Answer}
    (h : step msg retries b (.insert i answer) = some b') : (b.flights i).phase = .recording ∧
    ((∃ e, answer = .refused e ∧ b' = b.set i { b.flights i with phase := .failing e }) ∨
        ∃ p, b' = (b.record (msg i)).set i { b.flights i with
            phase := p, created := msg i ∉ b.rows } ∧
          (p = .ended (.ack .recorded) ∨ ∃ e, answer = .unanswered e ∧ p = .failing e)) := by
  simp only [step] at h
  split at h
  · rename_i hp
    exact ⟨hp, .inr ⟨_, (Option.some.inj h).symm, .inl rfl⟩⟩
  · rename_i e hp
    exact ⟨hp, .inl ⟨e, rfl, (Option.some.inj h).symm⟩⟩
  · rename_i e hp
    exact ⟨hp, .inr ⟨_, (Option.some.inj h).symm, .inr ⟨e, rfl, rfl⟩⟩⟩
  · cases h

theorem step_salvage {i : ι} (h : step msg retries b (.salvage i answer) = some b') :
    ∃ e, (b.flights i).phase = .failing e ∧
    b' = b.set i { b.flights i with phase := .ended (afterError e answer) } := by
  simp only [step] at h
  split at h
  · rename_i e hp
    exact ⟨e, hp, (Option.some.inj h).symm⟩
  · cases h

omit [DecidableEq M] [DecidableEq H] in
theorem grows_set (b : Inbox ι M H) (i : ι) (f : Flight) : Grows b (b.set i f) :=
  ⟨fun _ h => h, fun _ h => h⟩

theorem Inv.lookup (hb : b.Inv msg) {i : ι} (hC : Answered msg b (.lookup i answer))
    (h : step msg retries b (.lookup i answer) = some b') : b'.Inv msg := by
  obtain ⟨hph, p, rfl, hp⟩ := step_lookup h
  have hc : (b.flights i).created = false := (hb.fits i).at_phase hph
  refine hb.update (grows_set b i _) rfl hb.rows ?_
  rcases hp with ⟨e, rfl, rfl⟩ | ⟨rfl, ⟨hrow, rfl⟩ | rfl⟩
  · exact Or.imp_right (fun hrow => ⟨fun _ => hrow, hc⟩) hC
  · exact fun _ => hrow
  · exact hc

theorem Inv.call (hb : b.Inv msg) {i : ι} (h : step msg retries b (.call i a stopped) = some b') :
    b'.Inv msg := by
  obtain ⟨k, hp, rfl⟩ := step_call h
  have hc : (b.flights i).created = false := (hb.fits i).at_phase hp
  refine hb.update ⟨fun _ hm => hm, fun _ hr => mem_cons_of_mem _ hr⟩ rfl
    (fun m hm => mem_cons_of_mem _ (hb.rows m hm)) ?_
  have hra : (b.flights i).calls + 1 ≠ 0 := Nat.succ_ne_zero _
  unfold afterCall
  split
  · rename_i hok
    -- Only a call that returns nil gets past Recoverer.
    obtain rfl : a = .ok := by
      cases a with
      | ok => rfl
      | error e => cases hok
      | panic => cases hok
    exact ⟨mem_cons_self .., Nat.succ_pos _, hc⟩
  · split
    · exact .inr ⟨fun hz => absurd hz hra, hc⟩
    · exact hc

theorem Inv.insert (hb : b.Inv msg) {i : ι} {answer : Answer}
    (hC : Answered msg b (.insert i answer))
    (h : step msg retries b (.insert i answer) = some b') : b'.Inv msg := by
  obtain ⟨hph, hca⟩ := step_insert h
  obtain ⟨hru, hpo, hc⟩ := (hb.fits i).at_phase hph
  have hr : (b.flights i).calls ≠ 0 := Nat.ne_of_gt hpo
  rcases hca with ⟨e, rfl, rfl⟩ | ⟨p, rfl, hp⟩
  · exact hb.update (grows_set b i _) rfl hb.rows (.inr ⟨fun hz => absurd hz hr, hc⟩)
  · refine hb.update (i := i) ⟨(grows_record b _).rows, (grows_record b _).runs⟩
      (congrArg (Function.update · i _) record_flights) ?_ ?_
    · intro m hm
      show (m, Attempt.ok) ∈ (b.record (msg i)).runs
      rw [record_runs]
      rcases mem_record.mp hm with rfl | hold
      · exact hru
      · exact hb.rows m hold
    · rcases hp with rfl | ⟨e, rfl, rfl⟩
      · exact fun hz => absurd hz hr
      · exact Or.imp_right (fun hrow => ⟨fun hz => absurd hz hr, by simpa using hrow⟩) hC

theorem Inv.salvage (hb : b.Inv msg) {i : ι} (h : step msg retries b (.salvage i answer) = some b') :
    b'.Inv msg := by
  obtain ⟨e, hp, rfl⟩ := step_salvage h
  have hf : e = .canceled ∨ b.Clear (msg i) { b.flights i with phase := .failing e } :=
    (hb.fits i).at_phase hp
  refine hb.update (grows_set b i _) rfl hb.rows ?_
  rcases hv : afterError e answer with r | _ | _
  · cases e <;> cases answer <;> cases hv
  · rcases hf with rfl | hc
    · cases hv
    · exact ⟨hc.row, hc.created⟩
  · trivial

theorem Inv.step {l : Label ι} (hb : b.Inv msg) (hC : Answered msg b l)
    (h : Inbox.step msg retries b l = some b') : b'.Inv msg := by
  cases l with
  | lookup i answer => exact hb.lookup hC h
  | call i a stopped => exact hb.call h
  | insert i answer => exact hb.insert hC h
  | salvage i answer => exact hb.salvage h
  | crash =>
    cases h
    exact ⟨hb.rows, fun i => (hb.fits i).crash.grows ⟨fun _ hm => hm, fun _ hr => hr⟩⟩

omit [DecidableEq ι] [DecidableEq H] [DecidableEq M] in
theorem Inv.sound (hb : b.Inv msg) : b.Sound msg where
  rows := hb.rows
  skipped := by
    rintro i ⟨v, hv, hne⟩ hz
    have hf := (hb.fits i).at_phase hv
    cases v with
    | ack r => exact hf hz
    | salvaged => exact Clear.row hf hz
    | nack => exact absurd rfl hne
  poisoned := by
    intro i hv
    have hc : b.Clear (msg i) { b.flights i with phase := _ } := (hb.fits i).at_phase hv
    exact hc.created

theorem inbox_sound (msg : ι → M × H) (retries : Nat) (ls : List (Label ι)) (b : Inbox ι M H)
    (hC : Along (Inbox.step msg retries) (Answered msg) {} ls)
    (hr : run (Inbox.step msg retries) {} ls = some b) : b.Sound msg := by
  have hi : b.Inv msg := by
    refine run_invariant (P := Inv msg) ?_ (fun _ _ _ hb hc hs => hb.step hc hs) hC hr
    exact ⟨fun _ hm => absurd hm not_mem_nil, fun _ => rfl⟩
  exact hi.sound

end

def sampleMessages (i : Nat) : String × String :=
  (if i < 4 then "m1" else "m2", "platform.subscribers.InitialiseLeadCredits")

def overlappingDeliveries : List (Label Nat) :=
  [.lookup 0 (.ok ()), .lookup 1 (.ok ()), .call 0 .panic false, .call 0 .ok false,
    .insert 0 .inserted, .call 1 (.error .nonRetryable) false, .salvage 1 (.ok ()),
    .lookup 2 (.ok ()), .lookup 3 (.error .other), .salvage 3 (.ok ()),
    .lookup 4 (.ok ()), .call 4 .ok false, .crash, .lookup 5 (.ok ()), .call 5 .ok false,
    .insert 5 .inserted]

theorem inbox_sound_overlapping :
    ∃ b, run (step sampleMessages defaultRetryMaxAttempts) {} overlappingDeliveries = some b ∧
    b.rows = [sampleMessages 5, sampleMessages 0] ∧ Acknowledged (b.flights 2) ∧
    (b.flights 2).calls = 0 ∧ (b.flights 1).phase = .ended .salvaged ∧ b.Sound sampleMessages := by
  refine ⟨_, rfl, rfl, ⟨.ack .duplicate, rfl, by decide⟩, rfl, rfl, ?_⟩
  exact inbox_sound sampleMessages defaultRetryMaxAttempts overlappingDeliveries _
    (by decide +kernel) rfl

theorem acknowledged_without_run : (∃ b, run (step sampleMessages defaultRetryMaxAttempts) {}
    [.lookup 0 (.error .other), .salvage 0 (.ok ())] = some b ∧
    Acknowledged (b.flights 0) ∧ (b.flights 0).calls = 0 ∧ sampleMessages 0 ∉ b.rows) ∧
    ∃ b, run (step sampleMessages defaultRetryMaxAttempts) {}
    [.lookup 0 (.ok ()), .call 0 .ok false, .insert 0 (.unanswered .other),
    .salvage 0 (.ok ())] = some b ∧
    (b.flights 0).phase = .ended .salvaged ∧ (b.flights 0).created = true ∧
    b.rows = [sampleMessages 0] := by
  refine ⟨⟨_, rfl, ⟨.salvaged, rfl, by decide⟩, rfl, ?_⟩, ⟨_, rfl, rfl, rfl, rfl⟩⟩
  exact not_mem_nil

end Inbox

end Leadkart.Messaging
