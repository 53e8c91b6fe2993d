import Leadkart.Identity.RefreshTokenRepository

/-!
# Concurrent updates of one stored family
-/

namespace Leadkart.RefreshToken

open List Leadkart.Machine Leadkart.Rmw

structure Rotation where
  (presentedHash newHash : TokenHash)
  ttl : Duration
  now : Time
  nextID : String

namespace Rotation

def fn (r : Rotation) : UpdateFn := rotateFn r.presentedHash r.newHash r.ttl r.now r.nextID

def txn (r : Rotation) : Txn Stored Family := updateByID r.fn

def next (r : Rotation) (generation : Int32) : Token :=
  { id := r.nextID, hash := r.newHash, generation, issuedAt := r.now, expiresAt := r.now + r.ttl }

def consumed (r : Rotation) (seen : List Stored) : Option String :=
  (loadFamilyByID seen).bind fun f =>
    match f.rotate r.presentedHash r.newHash r.ttl r.now r.nextID with
    | (_, none) => (f.findToken r.presentedHash).map Token.id
    | (_, some _) => none

end Rotation

variable {ι : Type*}

def rotatedTokens (rot : ι → Rotation) (log : List (Commit ι Stored)) : List String :=
  log.filterMap fun c => (rot c.who).consumed c.seen

def Stored.unconsumed (s : Stored) : List TokenRow :=
  s.tokens.filter fun r => decide (r.consumedAt = none)

structure Fresh (rot : ι → Rotation) (s : Stored) : Prop where
  id_inj : ∀ i j, (rot i).nextID = (rot j).nextID → i = j
  id_new : ∀ i, (rot i).nextID ∉ s.tokens.map TokenRow.id
  hash_inj : ∀ i j, (rot i).newHash = (rot j).newHash → i = j
  hash_new : ∀ i, (rot i).newHash.value ∉ s.tokens.map TokenRow.tokenHash
  clock : ∀ i, (rot i).now ≠ 0

/-! ## One commit on current snapshots -/

structure RotationInv (rot : ι → Rotation) (s₀ s : Stored) (log : List (Commit ι Stored)) :
    Prop where
  wf : s.WF
  ids : ∀ r ∈ s.tokens, r.id ∈ s₀.tokens.map TokenRow.id ∨ ∃ c ∈ log, r.id = (rot c.who).nextID
  one : s.unconsumed.length ≤ 1
  spent : ∀ id ∈ rotatedTokens rot log, ∃ r ∈ s.tokens, r.id = id ∧ r.consumedAt ≠ none
  once : (rotatedTokens rot log).Nodup

variable {rot : ι → Rotation} {s₀ s s' : Stored} {log : List (Commit ι Stored)} {i : ι}

theorem RotationInv.nextID_new (hin : RotationInv rot s₀ s log) (hf : Fresh rot s₀)
    (hi : ∀ c ∈ log, c.who ≠ i) : (rot i).nextID ∉ s.tokens.map TokenRow.id := by
  intro hm
  obtain ⟨r, hr, hid⟩ := mem_map.mp hm
  rcases hin.ids r hr with h0 | ⟨c, hc, hci⟩
  · exact hf.id_new i (hid ▸ h0)
  · exact hi c hc (hf.id_inj c.who i (hci.symm.trans hid))

theorem rotatedTokens_cons (c : Commit ι Stored) : rotatedTokens rot (c :: log) =
    ((rot c.who).consumed c.seen).toList ++ rotatedTokens rot log := by
  unfold rotatedTokens
  rw [filterMap_cons]
  cases (rot c.who).consumed c.seen <;> rfl

variable {f w : Family}

theorem presented_row (hs : s.WF) {r : Rotation} (hl : loadFamilyByID [s, s] = some f)
    (hr : f.rotate r.presentedHash r.newHash r.ttl r.now r.nextID = (w, none)) :
    ∃ row ∈ s.tokens, row.tokenHash = r.presentedHash.value ∧ row.consumedAt = none ∧
    r.consumed [s, s] = some row.id := by
  obtain ⟨-, -, -, t, hf, hc, -, -⟩ := Family.rotate_ok hr
  obtain ⟨hts, -⟩ := loadFamilyByID_eq hl
  obtain ⟨row, hrow, rfl⟩ := (mem_loaded hts).mp (mem_of_find?_eq_some hf)
  refine ⟨row, hrow, ?_, ?_, ?_⟩
  · have hh : row.toToken.hash = r.presentedHash := by simpa using find?_some hf
    rw [← hh]
    rfl
  · have h0 : timeFromPg row.consumedAt = 0 := by
      simpa [Token.isConsumed, Time.isZero, TokenRow.toToken] using hc
    rw [← pgTimestamp_timeFromPg (hs.consumed row hrow), h0]
    rfl
  · simp only [Rotation.consumed, hl, Option.bind_some, hr, hf, Option.map_some]
    rfl

def Rotation.updateRow (r : Rotation) (row : TokenRow) : TokenRow :=
  if row.tokenHash = r.presentedHash.value then row.consume r.now r.nextID else row

namespace Rotation

variable {r : Rotation} {row : TokenRow}

@[simp] theorem updateRow_id : (r.updateRow row).id = row.id := by
  unfold updateRow
  split <;> rfl

@[simp] theorem updateRow_tokenHash : (r.updateRow row).tokenHash = row.tokenHash := by
  unfold updateRow
  split <;> rfl

theorem updateRow_consumedAt (hn : r.now ≠ 0)
    (h : row.tokenHash = r.presentedHash.value ∨ row.consumedAt ≠ none) :
    (r.updateRow row).consumedAt ≠ none := by
  unfold updateRow
  split
  · exact pgTimestamp_ne_none.mpr hn
  · rename_i hne
    exact h.resolve_left hne

theorem updateRow_map_id (rows : List TokenRow) :
    (rows.map r.updateRow).map TokenRow.id = rows.map TokenRow.id := by
  rw [map_map]
  exact map_congr_left fun row _ => updateRow_id

theorem updateRow_map_tokenHash (rows : List TokenRow) :
    (rows.map r.updateRow).map TokenRow.tokenHash = rows.map TokenRow.tokenHash := by
  rw [map_map]
  exact map_congr_left fun row _ => updateRow_tokenHash

end Rotation

theorem persist_rotation (hs : s.WF) {r : Rotation} (hl : loadFamilyByID [s, s] = some f)
    (hr : f.rotate r.presentedHash r.newHash r.ttl r.now r.nextID = (w, none))
    (hid : r.nextID ∉ s.tokens.map TokenRow.id) (hw : persist w s = some s') :
    ∃ g, (r.next g).hash.value ∉ s.tokens.map TokenRow.tokenHash ∧
    s'.tokens = s.tokens.map r.updateRow ++ [(r.next g).toRow] := by
  obtain ⟨-, -, -, t, -, -, -, rfl⟩ := Family.rotate_ok hr
  obtain ⟨hts, -⟩ := loadFamilyByID_eq hl
  have hn : (r.next (t.generation + 1)).id ∉ s.tokens.map TokenRow.id := hid
  exact ⟨t.generation + 1, persist_rotated hs hts rfl hn hw⟩

theorem pgTimestamp_ne_zero (t : Time) : pgTimestamp t ≠ some 0 := by
  unfold pgTimestamp Time.isZero
  split <;> simp_all

theorem zeroToNil_ne_empty (x : String) : zeroToNil x ≠ some "" := by
  unfold zeroToNil
  split <;> simp_all

theorem Stored.WF.rotate (hs : s.WF) {r : Rotation} {next : Token}
    (hid : next.id ∉ s.tokens.map TokenRow.id)
    (hh : next.hash.value ∉ s.tokens.map TokenRow.tokenHash)
    (ht : s'.tokens = s.tokens.map r.updateRow ++ [next.toRow]) : s'.WF where
  ids := by
    rw [ht, map_append, Rotation.updateRow_map_id]
    exact Nodup.append hs.ids (nodup_singleton _) (disjoint_singleton.mpr hid)
  hashes := by
    rw [ht, map_append, Rotation.updateRow_map_tokenHash]
    exact Nodup.append hs.hashes (nodup_singleton _) (disjoint_singleton.mpr hh)
  consumed := by
    intro row hrow
    rw [ht, mem_append, mem_singleton, mem_map] at hrow
    rcases hrow with ⟨row, hrow, rfl⟩ | rfl
    · unfold Rotation.updateRow
      split
      · exact pgTimestamp_ne_zero _
      · exact hs.consumed row hrow
    · exact pgTimestamp_ne_zero _
  replaced := by
    intro row hrow
    rw [ht, mem_append, mem_singleton, mem_map] at hrow
    rcases hrow with ⟨row, hrow, rfl⟩ | rfl
    · unfold Rotation.updateRow
      split
      · exact zeroToNil_ne_empty _
      · exact hs.replaced row hrow
    · exact zeroToNil_ne_empty _

theorem mem_unconsumed {row : TokenRow} :
    row ∈ s.unconsumed ↔ row ∈ s.tokens ∧ row.consumedAt = none := by
  unfold Stored.unconsumed
  rw [mem_filter, decide_eq_true_iff]

theorem unconsumed_rotate (ho : s.unconsumed.length ≤ 1) {r : Rotation} (hn : r.now ≠ 0)
    {row : TokenRow} (hrow : row ∈ s.tokens) (hh : row.tokenHash = r.presentedHash.value)
    (hc : row.consumedAt = none) {next : TokenRow}
    (ht : s'.tokens = s.tokens.map r.updateRow ++ [next]) : s'.unconsumed.length ≤ 1 := by
  have hold : (s.tokens.map r.updateRow).filter (fun r => decide (r.consumedAt = none)) = [] := by
    rw [filter_eq_nil_iff]
    intro x hx
    obtain ⟨y, hy, rfl⟩ := mem_map.mp hx
    rw [decide_eq_true_iff]
    refine Rotation.updateRow_consumedAt hn ?_
    by_cases hyc : y.consumedAt = none
    · -- Two unconsumed rows would make the list of them longer than one.
      have hy' := mem_unconsumed.mpr ⟨hy, hyc⟩
      have hr' := mem_unconsumed.mpr ⟨hrow, hc⟩
      have : y = row := by
        match hu : s.unconsumed, ho with
        | [], _ => rw [hu] at hy'; cases hy'
        | [a], _ =>
          rw [hu, mem_singleton] at hy' hr'
          rw [hy', hr']
      exact .inl (this ▸ hh)
    · exact .inr hyc
  unfold Stored.unconsumed
  rw [ht, filter_append, hold, nil_append]
  exact length_filter_le ..

theorem RotationInv.rotate (hin : RotationInv rot s₀ s log) (hf : Fresh rot s₀)
    (hi : ∀ c ∈ log, c.who ≠ i) (hl : loadFamilyByID [s, s] = some f)
    (hr : f.rotate (rot i).presentedHash (rot i).newHash (rot i).ttl (rot i).now (rot i).nextID =
    (w, none)) (hw : persist w s = some s') : RotationInv rot s₀ s' (⟨i, [s, s], s'⟩ :: log) := by
  obtain ⟨row, hrow, hh, hcs, hco⟩ := presented_row hin.wf hl hr
  have hid := hin.nextID_new hf hi
  obtain ⟨g, hn, ht⟩ := persist_rotation hin.wf hl hr hid hw
  have hlo : rotatedTokens rot (⟨i, [s, s], s'⟩ :: log) = row.id :: rotatedTokens rot log := by
    rw [rotatedTokens_cons]
    rw [hco]
    rfl
  refine ⟨hin.wf.rotate hid hn ht, ?_,
    unconsumed_rotate hin.one (hf.clock i) hrow hh hcs ht, ?_, ?_⟩
  · intro x hx
    rw [ht, mem_append, mem_singleton, mem_map] at hx
    rcases hx with ⟨y, hy, rfl⟩ | rfl
    · rcases hin.ids y hy with h0 | ⟨c, hc, hci⟩
      · exact .inl (by rw [Rotation.updateRow_id]; exact h0)
      · exact .inr ⟨c, mem_cons_of_mem _ hc, by rw [Rotation.updateRow_id]; exact hci⟩
    · exact .inr ⟨_, mem_cons_self .., rfl⟩
  · intro id hm
    rw [hlo, mem_cons] at hm
    have hold : ∃ y ∈ s.tokens, y.id = id ∧
        (y.tokenHash = (rot i).presentedHash.value ∨ y.consumedAt ≠ none) := by
      rcases hm with rfl | hm
      · exact ⟨row, hrow, rfl, .inl hh⟩
      · obtain ⟨y, hy, hyi, hyc⟩ := hin.spent id hm
        exact ⟨y, hy, hyi, .inr hyc⟩
    obtain ⟨y, hy, hyi, hyc⟩ := hold
    refine ⟨(rot i).updateRow y, ?_, by rw [Rotation.updateRow_id, hyi],
      Rotation.updateRow_consumedAt (hf.clock i) hyc⟩
    rw [ht]
    exact mem_append_left _ (mem_map_of_mem hy)
  · rw [hlo, nodup_cons]
    refine ⟨fun hm => ?_, hin.once⟩
    -- A token rotated before is consumed, and the presented one was not.
    obtain ⟨y, hy, hyi, hyc⟩ := hin.spent row.id hm
    exact hyc (hin.wf.eq_of_id hy hrow hyi ▸ hcs)

theorem RotationInv.reuse (hi : RotationInv rot s₀ s log) {e : Err}
    (hl : loadFamilyByID [s, s] = some f)
    (hro : f.rotate (rot i).presentedHash (rot i).newHash (rot i).ttl (rot i).now (rot i).nextID =
    (w, some e)) (he : e.sentinel = errReuseDetected) (hw : persist w s = some s') :
    RotationInv rot s₀ s' (⟨i, [s, s], s'⟩ :: log) := by
  obtain ⟨hts, -⟩ := loadFamilyByID_eq hl
  obtain ⟨-, -, hto, -⟩ := Family.rotate_reuse hro he
  have ht : s'.tokens = s.tokens := persist_same_tokens hi.wf (hto.trans hts) hw
  have hlo : rotatedTokens rot (⟨i, [s, s], s'⟩ :: log) = rotatedTokens rot log := by
    rw [rotatedTokens_cons]
    simp only [Rotation.consumed, hl, Option.bind_some, hro, Option.toList_none, nil_append]
  refine ⟨⟨?_, ?_, ?_, ?_⟩, ?_, ?_, ?_, ?_⟩
  · rw [ht]; exact hi.wf.ids
  · rw [ht]; exact hi.wf.hashes
  · rw [ht]; exact hi.wf.consumed
  · rw [ht]; exact hi.wf.replaced
  · intro r hr
    rw [ht] at hr
    rcases hi.ids r hr with h0 | ⟨c, hc, hci⟩
    · exact .inl h0
    · exact .inr ⟨c, mem_cons_of_mem _ hc, hci⟩
  · unfold Stored.unconsumed
    rw [ht]
    exact hi.one
  · rw [hlo, ht]; exact hi.spent
  · rw [hlo]; exact hi.once

variable {seen : List Stored}

theorem eq_pair_of_current (hl : seen.length = 2) (h : ∀ x ∈ seen, id x = id s) :
    seen = [s, s] := by
  match seen, hl with
  | [a, b], _ =>
    have ha : a = s := h a (by simp)
    have hb : b = s := h b (by simp)
    rw [ha, hb]

variable [DecidableEq ι]

theorem rotated_once_of_current (rot : ι → Rotation) (s : Stored) (hs : s.WF)
    (hfresh : Fresh rot s) (hone : s.unconsumed.length = 1) (ls : List (Label ι))
    (st : State ι Stored Family)
    (hC : Along (step fun i => (rot i).txn) (Current id) (init ι Family s) ls)
    (hr : run (step fun i => (rot i).txn) (init ι Family s) ls = some st) :
    (rotatedTokens rot st.log).Nodup ∧
    (st.store.row.revokedAt = none → st.store.unconsumed.length ≤ 1) := by
  have h0 : RotationInv rot s s [] :=
    ⟨hs, fun r hr => .inl (mem_map_of_mem hr), hone.le, by simp [rotatedTokens],
      by simp [rotatedTokens]⟩
  have hin : RotationInv rot s st.store st.log := by
    refine run_store_rule (P := RotationInv rot s) (guarded_init id _ s) h0 ?_ hC hr
    intro t log i seen w t' hin hi hle hse ha hw
    obtain rfl := eq_pair_of_current hle hse
    obtain ⟨f, hl, hfn⟩ := updateByID_attempt ha
    rcases rotateFn_persists hfn with hro | ⟨e, hro, he⟩
    · exact hin.rotate hfresh hi hl hro hw
    · exact hin.reuse hl hro he hw
  exact ⟨hin.once, fun _ => hin.one⟩

/-! ### Two rotations of one token -/

def sampleHash (c : Char) : TokenHash := ⟨String.ofList (replicate 64 c)⟩

def sampleFamily : Stored :=
  { row := ⟨"family", "person", "tenant", "laptop", 1, 1, none, none⟩
    tokens := [⟨"token-0", (sampleHash 'a').value, 0, 1, 1000, none, none⟩] }

def sampleRotations : Fin 2 → Rotation
  | 0 => ⟨sampleHash 'a', sampleHash 'b', 1000, 2, "token-1"⟩
  | 1 => ⟨sampleHash 'a', sampleHash 'c', 1000, 3, "token-2"⟩

theorem sampleFamily_wf : sampleFamily.WF where
  ids := by decide
  hashes := by decide
  consumed := by decide
  replaced := by decide

theorem sampleRotations_fresh : Fresh sampleRotations sampleFamily where
  id_inj := by decide
  id_new := by decide
  hash_inj := by decide
  hash_new := by decide
  clock := by decide

theorem rotated_once_in_turn :
    ∃ st, run (step fun i => (sampleRotations i).txn) (init (Fin 2) Family sampleFamily)
    [.read 0, .read 0, .write 0, .commit 0, .read 1, .read 1, .write 1, .commit 1] = some st ∧
    st.log.length = 2 ∧ (rotatedTokens sampleRotations st.log).Nodup ∧
    (st.store.row.revokedAt = none → st.store.unconsumed.length ≤ 1) := by
  refine ⟨_, rfl, by decide, ?_⟩
  exact rotated_once_of_current sampleRotations sampleFamily sampleFamily_wf sampleRotations_fresh
    (by decide) [.read 0, .read 0, .write 0, .commit 0, .read 1, .read 1, .write 1, .commit 1] _
    (by decide) rfl

theorem rotated_twice_when_loads_overlap :
    (sampleFamily.WF ∧ Fresh sampleRotations sampleFamily ∧ sampleFamily.row.revokedAt = none ∧
    sampleFamily.unconsumed.length = 1) ∧
    ∃ st, run (step fun i => (sampleRotations i).txn) (init (Fin 2) Family sampleFamily)
    [.read 0, .read 0, .read 1, .read 1, .write 0, .commit 0, .write 1, .commit 1] = some st ∧
    ¬ (rotatedTokens sampleRotations st.log).Nodup ∧
    st.store.row.revokedAt = none ∧ st.store.unconsumed.length = 2 := by
  refine ⟨⟨sampleFamily_wf, sampleRotations_fresh, by decide, by decide⟩, _, rfl, ?_, ?_, ?_⟩
  · decide
  · decide
  · decide

inductive FamilyUpdate where
  | rotate (r : Rotation)
  | revoke (reason : String) (now : Time)
  | revokeSession (personID reason : String) (now : Time)

def FamilyUpdate.fn : FamilyUpdate → UpdateFn
  | .rotate r => r.fn
  | .revoke reason now => revokeFn reason now
  | .revokeSession personID reason now => revokeSessionFn personID reason now

def FamilyUpdate.txn (u : FamilyUpdate) : Txn Stored Family := updateByID u.fn

variable {u : FamilyUpdate}

theorem FamilyUpdate.fn_isRevoked (hf : f.isRevoked = true) (h : u.fn f = (w, .ok true)) :
    w.isRevoked = true := by
  have hr : ∀ reason now, f.revoke reason now = (w, none) → w.isRevoked = true := by
    intro reason now h
    rcases Family.revoke_ok h with ⟨-, rfl⟩ | ⟨hl, -⟩
    · exact hf
    · exact absurd hf (by simp [hl])
  cases u with
  | rotate r =>
    rcases rotateFn_persists h with hro | ⟨e, hro, he⟩
    · exact absurd hf (by simp [(Family.rotate_ok hro).1])
    · exact absurd hf (by simp [(Family.rotate_reuse hro he).1])
  | revoke reason now => exact hr reason now (revokeFn_persists h)
  | revokeSession personID reason now => exact hr reason now (revokeSessionFn_persists h)

theorem persist_revokedAt (h : persist w s = some s') :
    s'.row.revokedAt = pgTimestamp w.revokedAt := by
  obtain ⟨rows', -, rfl⟩ := Option.map_eq_some_iff.mp h
  rfl

theorem isRevoked_iff : f.isRevoked = true ↔ f.revokedAt ≠ 0 := by
  simp [Family.isRevoked, Time.isZero]

theorem revoked_of_commit (hr : s.row.revokedAt ≠ none) (hz : s.row.revokedAt ≠ some 0)
    (hs : ∀ x ∈ seen, x.row = s.row) (ha : u.txn.attempt seen = some w)
    (hw : persist w s = some s') : s'.row.revokedAt ≠ none := by
  obtain ⟨f, hl, hfn⟩ := updateByID_attempt ha
  obtain ⟨s₁, s₂, rfl⟩ := loadFamilyByID_length hl
  obtain ⟨-, hfr⟩ := loadFamilyByID_eq hl
  rw [hs s₁ (by simp)] at hfr
  have hf : f.isRevoked = true := by
    rw [isRevoked_iff, hfr]
    intro h0
    rw [← pgTimestamp_timeFromPg hz, h0] at hr
    exact hr rfl
  rw [persist_revokedAt hw, pgTimestamp_ne_none, ← isRevoked_iff]
  exact FamilyUpdate.fn_isRevoked hf hfn

theorem revoked_forever_of_current (upd : ι → FamilyUpdate) (s : Stored)
    (hzero : s.row.revokedAt ≠ some 0) (ls₁ ls₂ : List (Label ι)) (st₁ st₂ : State ι Stored Family)
    (hC : Along (step fun i => (upd i).txn) (Current Stored.row) (init ι Family s) (ls₁ ++ ls₂))
    (hr₁ : run (step fun i => (upd i).txn) (init ι Family s) ls₁ = some st₁)
    (hrev : st₁.store.row.revokedAt ≠ none)
    (hr₂ : run (step fun i => (upd i).txn) st₁ ls₂ = some st₂) :
    st₂.store.row.revokedAt ≠ none := by
  have hg := guarded_run (guarded_init Stored.row _ s) hC.append_left hr₁
  -- No transaction ever stores the zero time.
  have hzero₁ : st₁.store.row.revokedAt ≠ some 0 := by
    refine run_store_rule (P := fun t _ => t.row.revokedAt ≠ some 0)
      (guarded_init Stored.row _ s) hzero ?_ hC.append_left hr₁
    intro t log i seen w t' _ _ _ _ _ hw
    rw [persist_revokedAt hw]
    exact pgTimestamp_ne_zero _
  have h2 : st₂.store.row.revokedAt ≠ none ∧ st₂.store.row.revokedAt ≠ some 0 := by
    refine run_store_rule (P := fun t _ => t.row.revokedAt ≠ none ∧ t.row.revokedAt ≠ some 0)
      hg ⟨hrev, hzero₁⟩ ?_ (hC.append_right hr₁) hr₂
    rintro t log i seen w t' ⟨ht, ht0⟩ _ _ hs ha hw
    refine ⟨revoked_of_commit ht ht0 hs ha hw, ?_⟩
    rw [persist_revokedAt hw]
    exact pgTimestamp_ne_zero _
  exact h2.1

def sampleUpdates : Fin 2 → FamilyUpdate
  | 0 => .rotate (sampleRotations 0)
  | 1 => .revoke "password_changed" 3

theorem revoked_forever_in_turn :
    ∃ st₁ st₂, run (step fun i => (sampleUpdates i).txn) (init (Fin 2) Family sampleFamily)
    [.read 1, .read 1, .write 1, .commit 1] = some st₁ ∧
    run (step fun i => (sampleUpdates i).txn) st₁ [.read 0, .read 0, .abort 0] = some st₂ ∧
    st₂.store.row.revokedAt ≠ none := by
  refine ⟨_, _, rfl, rfl, ?_⟩
  exact revoked_forever_of_current sampleUpdates sampleFamily (by decide)
    [.read 1, .read 1, .write 1, .commit 1] [.read 0, .read 0, .abort 0] _ _ (by decide) rfl
    (by decide) rfl

theorem revocation_overwritten_by_rotation :
    ∃ st₁ st₂, run (step fun i => (sampleUpdates i).txn) (init (Fin 2) Family sampleFamily)
    [.read 0, .read 0, .read 1, .read 1, .write 1, .commit 1] = some st₁ ∧
    st₁.store.row.revokedAt = some 3 ∧
    run (step fun i => (sampleUpdates i).txn) st₁ [.write 0, .commit 0] = some st₂ ∧
    st₂.store.row.revokedAt = none := by
  refine ⟨_, _, rfl, by decide, rfl, by decide⟩

end Leadkart.RefreshToken
