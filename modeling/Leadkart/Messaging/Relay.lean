import Leadkart.Logic.Machine

/-!
# The outbox relay
-/

namespace Leadkart.Messaging

open List Machine

inductive HandlerError where
  | canceled
  | nonRetryable
  | other
  deriving DecidableEq

inductive Attempt where
  | ok
  | error (e : HandlerError)
  | panic

def recoverer : Attempt → Except HandlerError Unit
  | .ok => .ok ()
  | .error e => .error e
  | .panic => .error .other

def retry (attempts : Nat → Attempt) (stopped : Nat → Bool) : (n k : Nat) → Except HandlerError Unit
  | 0, k => recoverer (attempts k)
  | n + 1, k =>
    match recoverer (attempts k) with
    | .ok () => .ok ()
    | .error e =>
      if e = .nonRetryable ∨ stopped k then .error e else retry attempts stopped n (k + 1)

def defaultRetryMaxAttempts : Nat := 5

structure Delivery where
  lookup : Except HandlerError Unit := .ok ()
  attempts : Nat → Attempt := fun _ => .ok
  stopped : Nat → Bool := fun _ => false
  (insert salvage : Except HandlerError Unit := .ok ())

inductive Receipt where
  | duplicate
  | recorded
  deriving DecidableEq

def wrap (processed : Bool) (d : Delivery) : Except HandlerError Receipt :=
  match d.lookup with
  | .error e => .error e
  | .ok () =>
    if processed then .ok .duplicate
    else
      match retry d.attempts d.stopped defaultRetryMaxAttempts 0 with
      | .error e => .error e
      | .ok () =>
        match d.insert with
        | .error e => .error e
        | .ok () => .ok .recorded

inductive Verdict where
  | ack (r : Receipt)
  | salvaged
  | nack
  deriving DecidableEq

def poisonQueue (processed : Bool) (d : Delivery) : Verdict :=
  match wrap processed d with
  | .ok r => .ack r
  | .error .canceled => .nack
  | .error _ =>
    match d.salvage with
    | .ok () => .salvaged
    | .error _ => .nack

variable {processed : Bool} {d : Delivery}

theorem wrap_duplicate (h : wrap processed d = .ok .duplicate) : processed = true := by
  unfold wrap at h
  split at h
  · cases h
  split at h
  · assumption
  split at h
  · cases h
  split at h
  · cases h
  · exact absurd (Except.ok.inj h) (by simp)

theorem poisonQueue_duplicate (h : poisonQueue processed d = .ack .duplicate) :
    processed = true := by
  unfold poisonQueue at h
  split at h
  · rename_i r hw
    obtain rfl := Verdict.ack.inj h
    exact wrap_duplicate hw
  · cases h
  · split at h <;> cases h

variable {E H : Type} [DecidableEq E] [DecidableEq H]

inductive Forwarder (E : Type) where
  | idle
  | read (e : E)
  | published (e : E)

def Forwarder.reading : Forwarder E → Option E
  | .read e => some e
  | .idle | .published _ => none

structure Worker (E H : Type) where
  forwarder : Forwarder E := .idle
  /-- The handlers, and the dead-letter consumer, that have subscribed. -/
  subscribed : List H := []
  deadLetterSubscribed : Bool := false
  /-- Messages on their way to a handler, and messages on the dead-letter topic. -/
  (inFlight poisoned : List (E × H) := [])

def Worker.Holds (k : Worker E H) (m : E × H) : Prop := m ∈ k.inFlight ∨ m ∈ k.poisoned

structure Relay (E H : Type) where
  /-- Every event ever committed. -/
  (committed outbox : List E := [])
  (processedMessages deadLetter : List (E × H) := [])
  worker : Option (Worker E H) := none

namespace Relay

inductive Label (E H : Type) where
  | publishOutbox (e : E)
  | restart
  | crash
  | subscribe (h : H)
  | subscribeDeadLetter
  | read (e : E)
  | publish
  | publishFails
  | ackRow
  | deliver (m : E × H) (d : Delivery)
  | persist (m : E × H) (inserted : Bool)

section

variable (registered : E → List H)

def fanOut (k : Worker E H) (e : E) : List (E × H) :=
  ((registered e).filter (· ∈ k.subscribed)).map fun h => (e, h)

def workerStep (w : Relay E H) (k : Worker E H) : Label E H → Option (Relay E H)
  | .subscribe h => some { w with worker := some { k with subscribed := h :: k.subscribed } }
  | .subscribeDeadLetter => some { w with worker := some { k with deadLetterSubscribed := true } }
  | .read e =>
    match k.forwarder with
    | .idle =>
      if e ∈ w.outbox then some { w with worker := some { k with forwarder := .read e } } else none
    | _ => none
  | .publish =>
    match k.forwarder with
    | .read e => some { w with
        worker := some { k with
          forwarder := .published e
          inFlight := k.inFlight ++ fanOut registered k e } }
    | _ => none
  | .publishFails =>
    match k.forwarder with
    | .read _ => some { w with worker := some { k with forwarder := .idle } }
    | _ => none
  | .ackRow =>
    match k.forwarder with
    | .published e => some { w with
        outbox := w.outbox.filter (· ≠ e)
        worker := some { k with forwarder := .idle } }
    | _ => none
  | .deliver m d =>
    if m ∈ k.inFlight then
      match poisonQueue (decide (m ∈ w.processedMessages)) d with
      | .ack .duplicate => some { w with worker := some { k with inFlight := k.inFlight.erase m } }
      | .ack .recorded => some { w with
          processedMessages := m :: w.processedMessages
          worker := some { k with inFlight := k.inFlight.erase m } }
      | .salvaged => some { w with
          worker := some { k with
            inFlight := k.inFlight.erase m
            poisoned := if k.deadLetterSubscribed then k.poisoned ++ [m] else k.poisoned } }
      -- The pub/sub sends it again.
      | .nack => some { w with worker := some k }
    else none
  | .persist m inserted =>
    if m ∈ k.poisoned then
      -- A failed insert is logged, and acknowledged all the same.
      some { w with
        deadLetter := if inserted then m :: w.deadLetter else w.deadLetter
        worker := some { k with poisoned := k.poisoned.erase m } }
    else none
  | .publishOutbox _ | .restart | .crash => none

def step (w : Relay E H) : Label E H → Option (Relay E H)
  -- A message id is drawn once.
  | .publishOutbox e =>
    if e ∈ w.committed then none
    else some { w with committed := e :: w.committed, outbox := e :: w.outbox }
  | .restart =>
    match w.worker with
    | none => some { w with worker := some {} }
    | some _ => none
  | .crash => w.worker.map fun _ => { w with worker := none }
  | l => w.worker.bind fun k => workerStep registered w k l

end

def Settled (w : Relay E H) (m : E × H) : Prop := m ∈ w.processedMessages ∨ m ∈ w.deadLetter

def Kept (w : Relay E H) (m : E × H) : Prop := w.Settled m ∨ ∃ k ∈ w.worker, k.Holds m

def Accounted (registered : E → List H) (w : Relay E H) : Prop :=
  ∀ e ∈ w.committed, ∀ h ∈ registered e, e ∈ w.outbox ∨ w.Kept (e, h)

def Careful (registered : E → List H) (w : Relay E H) : Label E H → Prop
  | .publish => ∀ k ∈ w.worker, k.deadLetterSubscribed = true ∧
      ∀ e ∈ k.forwarder.reading, ∀ h ∈ registered e, h ∈ k.subscribed
  | .persist _ inserted => inserted = true
  | .crash => ∀ k ∈ w.worker, ∀ m ∈ k.inFlight ++ k.poisoned, m.1 ∈ w.outbox ∨ w.Settled m
  | _ => True

instance (w : Relay E H) (m : E × H) : Decidable (w.Settled m) :=
  inferInstanceAs (Decidable (_ ∨ _))

instance (k : Worker E H) (m : E × H) : Decidable (k.Holds m) := inferInstanceAs (Decidable (_ ∨ _))

instance (w : Relay E H) (m : E × H) : Decidable (w.Kept m) :=
  inferInstanceAs (Decidable (_ ∨ ∃ k ∈ w.worker, k.Holds m))

instance (registered : E → List H) (w : Relay E H) : Decidable (w.Accounted registered) :=
  inferInstanceAs (Decidable (∀ e ∈ w.committed, ∀ h ∈ registered e, e ∈ w.outbox ∨ w.Kept (e, h)))

instance (registered : E → List H) (w : Relay E H) :
    (l : Label E H) → Decidable (w.Careful registered l)
  | .publish => inferInstanceAs (Decidable (∀ k ∈ w.worker, k.deadLetterSubscribed = true ∧
      ∀ e ∈ k.forwarder.reading, ∀ h ∈ registered e, h ∈ k.subscribed))
  | .persist _ inserted => inferInstanceAs (Decidable (inserted = true))
  | .crash => inferInstanceAs
      (Decidable (∀ k ∈ w.worker, ∀ m ∈ k.inFlight ++ k.poisoned, m.1 ∈ w.outbox ∨ w.Settled m))
  | .publishOutbox _ | .restart | .subscribe _ | .subscribeDeadLetter | .read _ | .publishFails
  | .ackRow | .deliver .. => .isTrue trivial

section

variable {registered : E → List H} {w w' : Relay E H} {k k' : Worker E H} {l : Label E H}

structure Advances (registered : E → List H) (w : Relay E H) (k : Worker E H) (w' : Relay E H)
    (k' : Worker E H) : Prop where
  worker : w'.worker = some k'
  committed : w'.committed = w.committed
  /-- A row goes only when it is published. -/
  outbox : ∀ e ∈ w.outbox, e ∈ w'.outbox ∨ k.forwarder = .published e
  settled : ∀ m, w.Settled m → w'.Settled m
  /-- A message leaves memory when it is settled. -/
  holds : ∀ m, k.Holds m → w'.Settled m ∨ k'.Holds m
  published : ∀ e, k'.forwarder = .published e →
    k.forwarder = .published e ∨ ∀ h ∈ registered e, k'.Holds (e, h)
  ready : ∀ m ∈ k'.inFlight, k'.deadLetterSubscribed = true

omit [DecidableEq E] [DecidableEq H] in
theorem Advances.of_memory (hh : ∀ m, k.Holds m → w.Settled m ∨ k'.Holds m)
    (hp : ∀ e, k'.forwarder = .published e →
    k.forwarder = .published e ∨ ∀ h ∈ registered e, k'.Holds (e, h))
    (hr : ∀ m ∈ k'.inFlight, k'.deadLetterSubscribed = true) :
    Advances registered w k { w with worker := some k' } k' where
  worker := rfl
  committed := rfl
  outbox _ he := .inl he
  settled _ hm := hm
  holds := hh
  published := hp
  ready := hr

variable {e : E}

omit [DecidableEq E] in
theorem mem_fanOut {h : H} (hr : h ∈ registered e) (hs : h ∈ k.subscribed) :
    (e, h) ∈ fanOut registered k e := mem_map.mpr ⟨h, mem_filter.mpr ⟨hr, decide_eq_true hs⟩, rfl⟩

variable {m : E × H}

theorem holds_erase_inFlight {n : E × H} (h : k.Holds n) :
    n = m ∨ n ∈ k.inFlight.erase m ∨ n ∈ k.poisoned := by
  by_cases hnm : n = m
  · exact .inl hnm
  · exact .inr (h.imp_left (mem_erase_of_ne hnm).mpr)

omit [DecidableEq E] in
theorem advances_publish (hd : k.deadLetterSubscribed = true)
    (hs : ∀ h ∈ registered e, h ∈ k.subscribed) : Advances registered w k
    { w with worker := some { k with
          forwarder := .published e
          inFlight := k.inFlight ++ fanOut registered k e } }
      { k with forwarder := .published e, inFlight := k.inFlight ++ fanOut registered k e } := by
  refine .of_memory ?_ ?_ fun _ _ => hd
  · intro m hm
    exact .inr (hm.imp_left (mem_append_left _))
  · intro e' he'
    obtain rfl := Forwarder.published.inj he'
    refine .inr fun h hh => .inl ?_
    exact mem_append_right _ (mem_fanOut hh (hs h hh))

omit [DecidableEq H] in
theorem advances_ackRow (hp : k.forwarder = .published e)
    (hr : ∀ m ∈ k.inFlight, k.deadLetterSubscribed = true) : Advances registered w k
    { w with outbox := w.outbox.filter (· ≠ e), worker := some { k with forwarder := .idle } }
      { k with forwarder := .idle } where
  worker := rfl
  committed := rfl
  outbox e' he' := by
    by_cases heq : e' = e
    · exact .inr (heq ▸ hp)
    · exact .inl (mem_filter.mpr ⟨he', decide_eq_true heq⟩)
  settled _ hm := hm
  holds _ hm := .inr hm
  published _ he := absurd he (by simp)
  ready := hr

theorem advances_deliver {d : Delivery} (hm : m ∈ k.inFlight)
    (hr : ∀ m ∈ k.inFlight, k.deadLetterSubscribed = true)
    (h : workerStep registered w k (.deliver m d) = some w') :
    ∃ k', Advances registered w k w' k' := by
  have hr' : ∀ n ∈ k.inFlight.erase m, k.deadLetterSubscribed = true :=
    fun n hn => hr n (mem_of_mem_erase hn)
  simp only [workerStep, if_pos hm] at h
  split at h
  · -- Dropped as a duplicate: the first delivery is recorded.
    rename_i hv
    cases h
    have hp : m ∈ w.processedMessages := of_decide_eq_true (poisonQueue_duplicate hv)
    refine ⟨_, .of_memory ?_ (fun _ => .inl) hr'⟩
    intro n hn
    rcases holds_erase_inFlight (m := m) hn with rfl | hn
    · exact .inl (.inl hp)
    · exact .inr hn
  · -- Handled and recorded.
    cases h
    refine ⟨{ k with inFlight := k.inFlight.erase m }, rfl, rfl, fun _ => .inl, ?_, ?_,
      fun _ => .inl, hr'⟩
    · intro n hn
      exact hn.imp_left (mem_cons_of_mem m)
    · intro n hn
      rcases holds_erase_inFlight (m := m) hn with rfl | hn
      · exact .inl (.inl (mem_cons_self ..))
      · exact .inr hn
  · -- Poisoned: the dead-letter consumer is there, because a message is in flight.
    cases h
    refine ⟨_, .of_memory ?_ (fun _ => .inl) hr'⟩
    intro n hn
    refine .inr ?_
    unfold Worker.Holds
    rw [if_pos (hr m hm), List.mem_append, List.mem_singleton]
    rcases holds_erase_inFlight (m := m) hn with rfl | hn | hn
    · exact .inr (.inr rfl)
    · exact .inl hn
    · exact .inr (.inl hn)
  · -- Sent again.
    cases h
    exact ⟨k, .of_memory (fun _ => .inr) (fun _ => .inl) hr⟩

theorem advances_persist (m : E × H) (hr : ∀ m ∈ k.inFlight, k.deadLetterSubscribed = true) :
    Advances registered w k
    { w with
        deadLetter := m :: w.deadLetter
        worker := some { k with poisoned := k.poisoned.erase m } }
      { k with poisoned := k.poisoned.erase m } where
  worker := rfl
  committed := rfl
  outbox _ := .inl
  settled _ hn := hn.imp_right (mem_cons_of_mem m)
  holds n hn := by
    by_cases hnm : n = m
    · exact .inl (.inr (hnm ▸ mem_cons_self ..))
    · exact .inr (hn.imp_right (mem_erase_of_ne hnm).mpr)
  published _ := .inl
  ready := hr

theorem advances_of_workerStep (hk : w.worker = some k)
    (hr : ∀ m ∈ k.inFlight, k.deadLetterSubscribed = true) (hC : w.Careful registered l)
    (h : workerStep registered w k l = some w') : ∃ k', Advances registered w k w' k' := by
  cases l with
  | publishOutbox | restart | crash => exact absurd h (by simp [workerStep])
  | subscribe h' =>
    cases h
    exact ⟨_, .of_memory (fun _ => .inr) (fun _ => .inl) hr⟩
  | subscribeDeadLetter =>
    cases h
    exact ⟨_, .of_memory (fun _ => .inr) (fun _ => .inl) fun _ _ => rfl⟩
  | read e =>
    simp only [workerStep] at h
    split at h
    · split at h
      · cases h
        exact ⟨_, .of_memory (fun _ => .inr) (fun _ he => absurd he (by simp)) hr⟩
      · cases h
    · cases h
  | publish =>
    simp only [workerStep] at h
    split at h
    · rename_i e hre
      cases h
      obtain ⟨hd, hs⟩ := hC k hk
      exact ⟨_, advances_publish hd (hs e (by rw [hre]; rfl))⟩
    · cases h
  | publishFails =>
    simp only [workerStep] at h
    split at h
    · cases h
      exact ⟨_, .of_memory (fun _ => .inr) (fun _ he => absurd he (by simp)) hr⟩
    · cases h
  | ackRow =>
    simp only [workerStep] at h
    split at h
    · rename_i e hp
      cases h
      exact ⟨_, advances_ackRow hp hr⟩
    · cases h
  | deliver m d =>
    by_cases hm : m ∈ k.inFlight
    · exact advances_deliver hm hr h
    · exact absurd h (by simp [workerStep, hm])
  | persist m inserted =>
    obtain rfl : inserted = true := hC
    simp only [workerStep] at h
    split at h
    · cases h
      exact ⟨_, advances_persist m hr⟩
    · cases h

structure Inv (registered : E → List H) (w : Relay E H) : Prop where
  accounted : w.Accounted registered
  published : ∀ k ∈ w.worker, ∀ e, k.forwarder = .published e → ∀ h ∈ registered e, w.Kept (e, h)
  ready : ∀ k ∈ w.worker, ∀ m ∈ k.inFlight, k.deadLetterSubscribed = true

omit [DecidableEq E] [DecidableEq H] in
theorem Advances.kept (ha : Advances registered w k w' k') (hk : w.worker = some k) (h : w.Kept m) :
    w'.Kept m := by
  rcases h with h | ⟨k₁, hk₁, h⟩
  · exact .inl (ha.settled m h)
  · obtain rfl : k = k₁ := Option.some.inj (hk.symm.trans hk₁)
    exact (ha.holds m h).imp_right fun h => ⟨k', ha.worker, h⟩

omit [DecidableEq E] [DecidableEq H] in
theorem Inv.advances (hw : w.Inv registered) (hk : w.worker = some k)
    (ha : Advances registered w k w' k') : w'.Inv registered where
  accounted e he h hh := by
    rw [ha.committed] at he
    rcases hw.accounted e he h hh with hrow | hke
    · rcases ha.outbox e hrow with hrow | hp
      · exact .inl hrow
      · exact .inr (ha.kept hk (hw.published k hk e hp h hh))
    · exact .inr (ha.kept hk hke)
  published k₁ hk₁ e he h hh := by
    obtain rfl : k' = k₁ := Option.some.inj (ha.worker.symm.trans hk₁)
    rcases ha.published e he with hp | hhe
    · exact ha.kept hk (hw.published k hk e hp h hh)
    · exact .inr ⟨k', hk₁, hhe h hh⟩
  ready k₁ hk₁ := by
    obtain rfl : k' = k₁ := Option.some.inj (ha.worker.symm.trans hk₁)
    exact ha.ready

omit [DecidableEq E] [DecidableEq H] in
theorem Inv.publishOutbox (hw : w.Inv registered) (e : E) :
    Inv registered { w with committed := e :: w.committed, outbox := e :: w.outbox } where
  accounted e' he' h hh := by
    rcases mem_cons.mp he' with rfl | he'
    · exact .inl (mem_cons_self ..)
    · exact (hw.accounted e' he' h hh).imp_left (mem_cons_of_mem e)
  published := hw.published
  ready := hw.ready

omit [DecidableEq E] [DecidableEq H] in
theorem Inv.restart (hw : w.Inv registered) (hd : w.worker = none) :
    Inv registered { w with worker := some {} } where
  accounted e he h hh := by
    refine (hw.accounted e he h hh).imp_right fun hke => .inl (hke.resolve_right ?_)
    rintro ⟨k, hk, -⟩
    exact absurd (hd.symm.trans hk) (by simp)
  published k hk e he := by
    cases hk
    cases he
  ready k hk m hm := by
    cases hk
    cases hm

omit [DecidableEq E] [DecidableEq H] in
theorem Inv.crash (hw : w.Inv registered) (hC : w.Careful registered .crash) :
    Inv registered { w with worker := none } where
  accounted e he h hh := by
    rcases hw.accounted e he h hh with hrow | hs | ⟨k, hk, hhe⟩
    · exact .inl hrow
    · exact .inr (.inl hs)
    · exact (hC k hk (e, h) (mem_append.mpr hhe)).imp_right .inl
  published k hk := absurd hk (by simp)
  ready k hk := absurd hk (by simp)

theorem Inv.step (hw : w.Inv registered) (l : Label E H) (hC : w.Careful registered l)
    (h : Relay.step registered w l = some w') : w'.Inv registered := by
  have hwo : w.worker.bind (workerStep registered w · l) = some w' → w'.Inv registered := by
    intro h
    obtain ⟨k, hk, hs⟩ := Option.bind_eq_some_iff.mp h
    obtain ⟨k', ha⟩ := advances_of_workerStep hk (hw.ready k hk) hC hs
    exact hw.advances hk ha
  cases l with
  | publishOutbox e =>
    simp only [Relay.step] at h
    split at h
    · cases h
    · exact Option.some.inj h ▸ hw.publishOutbox e
  | restart =>
    simp only [Relay.step] at h
    split at h
    · rename_i hd
      exact Option.some.inj h ▸ hw.restart hd
    · cases h
  | crash =>
    obtain ⟨k, -, rfl⟩ := Option.map_eq_some_iff.mp h
    exact hw.crash hC
  | subscribe | subscribeDeadLetter | read | publish | publishFails | ackRow | deliver | persist =>
    exact hwo h

theorem no_event_lost (registered : E → List H) (ls : List (Label E H)) (w : Relay E H)
    (hC : Along (Relay.step registered) (Careful registered) {} ls)
    (hrun : run (Relay.step registered) {} ls = some w) : w.Accounted registered := by
  have hi : w.Inv registered := by
    refine run_invariant (P := Inv registered) ?_ (fun _ l _ hw hC h => hw.step l hC h) hC hrun
    exact ⟨fun _ he => absurd he not_mem_nil, fun _ hk => absurd hk (by simp),
      fun _ hk => absurd hk (by simp)⟩
  exact hi.accounted

end

def tenantRegistered : String → List String :=
  fun _ => ["platform.subscribers.InitialiseLeadCredits"]

def initialiseLeadCredits (e : String) : String × String :=
  (e, "platform.subscribers.InitialiseLeadCredits")

def started : List (Label String String) :=
  [.restart, .subscribe "platform.subscribers.InitialiseLeadCredits", .subscribeDeadLetter]

def forwarded (e : String) : List (Label String String) :=
  [.publishOutbox e, .read e, .publish, .ackRow]

def failing : Delivery := { attempts := fun _ => .error .other }

def carefulRun : List (Label String String) :=
  started ++ forwarded "e1" ++ [.deliver (initialiseLeadCredits "e1") {}] ++
  forwarded "e2" ++ [.deliver (initialiseLeadCredits "e2") failing,
    .persist (initialiseLeadCredits "e2") true] ++
  [.publishOutbox "e3", .read "e3", .publish, .crash] ++
  started ++ [.read "e3", .publish, .ackRow, .deliver (initialiseLeadCredits "e3") {}]

theorem carefulRun_careful :
    Along (Relay.step tenantRegistered) (Careful tenantRegistered) {} carefulRun := by
  decide +kernel

theorem no_event_lost_careful : ∃ w, run (Relay.step tenantRegistered) {} carefulRun = some w ∧
    w.processedMessages = [initialiseLeadCredits "e3", initialiseLeadCredits "e1"] ∧
    w.deadLetter = [initialiseLeadCredits "e2"] ∧ w.outbox = [] ∧ w.Accounted tenantRegistered :=
  ⟨_, rfl, rfl, rfl, rfl, no_event_lost tenantRegistered carefulRun _ carefulRun_careful rfl⟩

def Lost (w : Relay String String) (e : String) : Prop :=
  e ∈ w.committed ∧ w.outbox = [] ∧ w.processedMessages = [] ∧ w.deadLetter = [] ∧
    ¬ w.Accounted tenantRegistered

theorem committed_event_lost : (∃ w, run (Relay.step tenantRegistered) {}
    (started ++ forwarded "e1" ++ [.crash] ++ started) = some w ∧ Lost w "e1") ∧
    (∃ w, run (Relay.step tenantRegistered) {}
    (started ++ forwarded "e1" ++ [.deliver (initialiseLeadCredits "e1") failing,
    .persist (initialiseLeadCredits "e1") false]) = some w ∧ Lost w "e1") ∧
    ∃ w, run (Relay.step tenantRegistered) {}
    [.publishOutbox "e1", .restart, .read "e1", .publish, .ackRow] = some w ∧ Lost w "e1" := by
  refine ⟨⟨_, rfl, ?_⟩, ⟨_, rfl, ?_⟩, ⟨_, rfl, ?_⟩⟩
  all_goals exact ⟨mem_singleton.mpr rfl, rfl, rfl, rfl, by decide +kernel⟩

end Relay

end Leadkart.Messaging
