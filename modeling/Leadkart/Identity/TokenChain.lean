import Mathlib.Data.List.Nodup
import Leadkart.Identity.RefreshToken
import Leadkart.Logic.Machine

/-!
# The token chain of a family
-/

namespace Leadkart.RefreshToken

open List Machine

inductive Call where
  | rotate (presentedHash newHash : TokenHash) (ttl : Duration) (now : Time) (nextID : String)
  | revoke (reason : String) (now : Time)

def Call.apply (f : Family) : Call → Family × Option Err
  | .rotate presentedHash newHash ttl now nextID => f.rotate presentedHash newHash ttl now nextID
  | .revoke reason now => f.revoke reason now

def Call.now : Call → Time
  | .rotate _ _ _ now _ => now
  | .revoke _ now => now

def call (f : Family) (c : Call) : Option Family := some (c.apply f).1

def FreshHash (f : Family) : Call → Prop
  | .rotate _ newHash _ _ _ => ∀ t ∈ f.tokens, t.hash ≠ newHash
  | .revoke _ _ => True

instance (f : Family) : (c : Call) → Decidable (FreshHash f c)
  | .rotate _ newHash _ _ _ => inferInstanceAs (Decidable (∀ t ∈ f.tokens, t.hash ≠ newHash))
  | .revoke _ _ => .isTrue trivial

structure Chain (ts : List Token) : Prop where
  nonempty : ts ≠ []
  generation : ∀ i (h : i < ts.length), ts[i].generation = Int32.ofNat i
  linked : ∀ i (h : i + 1 < ts.length), ts[i].replacedByID = ts[i + 1].id
  consumed : ∀ i (h : i < ts.length), ts[i].isConsumed = true ↔ i + 1 < ts.length

structure Family.Chained (f : Family) : Prop where
  chain : Chain f.tokens
  hashes : (f.tokens.map Token.hash).Nodup

section Chain

variable {ts old : List Token} {t last next : Token} {now : Time} {nextID : String}

theorem Chain.eq_append (hc : Chain ts) :
    ∃ old last, ts = old ++ [last] ∧ (∀ t ∈ old, t.isConsumed = true) ∧
    last.isConsumed = false := by
  have hl := dropLast_append_getLast hc.nonempty
  have hle : ts.length = ts.dropLast.length + 1 := by
    have hp := length_pos_iff.mpr hc.nonempty
    rw [length_dropLast]
    omega
  refine ⟨ts.dropLast, ts.getLast hc.nonempty, hl.symm, ?_, ?_⟩
  · intro t ht
    obtain ⟨i, hi, rfl⟩ := getElem_of_mem ht
    rw [getElem_dropLast]
    exact (hc.consumed i (by omega)).mpr (by omega)
  · rw [getLast_eq_getElem]
    have hif := hc.consumed (ts.length - 1) (by omega)
    rw [← Bool.not_eq_true, hif]
    omega

theorem consumeToken_append (hold : ∀ t ∈ old, t.hash ≠ last.hash) :
    Family.consumeToken last.hash now nextID (old ++ [last]) =
    old ++ [{ last with consumedAt := now, replacedByID := nextID }] := by
  induction old with
  | nil => simp [Family.consumeToken]
  | cons t old ih =>
    have hne : t.hash ≠ last.hash := hold t (mem_cons_self ..)
    rw [cons_append, Family.consumeToken, if_neg hne,
      ih fun x hx => hold x (mem_cons_of_mem t hx), cons_append]

theorem Chain.extend (hc : Chain (old ++ [last])) (hno : now ≠ 0) (hn : next.id = nextID)
    (hg : next.generation = last.generation + 1) (ho : next.isConsumed = false) :
    Chain (old ++ [{ last with consumedAt := now, replacedByID := nextID }] ++ [next]) := by
  have hl : last.generation = Int32.ofNat old.length := by
    have := hc.generation old.length (by simp)
    simpa using this
  have hco : ({ last with consumedAt := now, replacedByID := nextID } : Token).isConsumed
      = true := by
    simpa [Token.isConsumed, Time.isZero] using hno
  refine ⟨by simp, ?_, ?_, ?_⟩
  · intro i hi
    simp only [length_append, length_singleton] at hi
    rcases Nat.lt_trichotomy i old.length with hlt | rfl | hgt
    · have := hc.generation i (by simp; omega)
      simpa [getElem_append, hlt, Nat.lt_succ_of_lt hlt] using this
    · simpa [getElem_append] using hl
    · obtain rfl : i = old.length + 1 := by omega
      simp [hg, hl, Int32.ofNat_add]
  · intro i hi
    simp only [length_append, length_singleton] at hi
    by_cases hlt : i + 1 < old.length + 1
    · by_cases hlt' : i + 1 < old.length
      · have := hc.linked i (by simp; omega)
        simpa [getElem_append, hlt, hlt', Nat.lt_of_succ_lt hlt', Nat.lt_of_succ_lt hlt] using this
      · have hle : old.length = i + 1 := by omega
        have := hc.linked i (by simp; omega)
        simpa [getElem_append, hle] using this
    · obtain rfl : i = old.length := by omega
      simp [hn]
  · intro i hi
    simp only [length_append, length_singleton] at hi ⊢
    rcases Nat.lt_trichotomy i old.length with hlt | rfl | hgt
    · have hif := hc.consumed i (by simp; omega)
      have hcs : (old[i]).isConsumed = true := by
        simpa [getElem_append, hlt] using hif
      refine iff_of_true ?_ (by omega)
      simpa [getElem_append, hlt] using hcs
    · simp [hco]
    · obtain rfl : i = old.length + 1 := by omega
      simp [ho]

end Chain

section

variable {f f' : Family} {presentedHash newHash : TokenHash} {ttl : Duration} {now : Time}
  {nextID : String} {t : Token}

theorem chained_new {id p tenantID d tD : String} {fi : TokenHash}
    (h : Family.new id p tenantID d fi ttl now tD = .ok f) : f.Chained := by
  unfold Family.new at h
  iterate 6
    split at h
    · exact absurd h (by simp)
  cases h
  refine ⟨⟨by simp, ?_, ?_, ?_⟩, nodup_singleton _⟩
  · intro i hi
    obtain rfl : i = 0 := by simpa using hi
    rfl
  · intro i hi
    exact absurd hi (by simp)
  · intro i hi
    obtain rfl : i = 0 := by simpa using hi
    simp [Token.isConsumed, Time.isZero]

theorem Family.Chained.findToken_open (hf : f.Chained) (hfi : f.findToken presentedHash = some t)
    (ho : t.isConsumed = false) :
    t.hash = presentedHash ∧ ∃ old, f.tokens = old ++ [t] ∧ ∀ x ∈ old, x.hash ≠ t.hash := by
  obtain ⟨old, last, ht, hold, -⟩ := hf.chain.eq_append
  have hm : t ∈ f.tokens := mem_of_find?_eq_some hfi
  have hh : t.hash = presentedHash := by simpa using find?_some hfi
  rw [ht, mem_append, mem_singleton] at hm
  rcases hm with hm | rfl
  · exact absurd (hold t hm) (by simp [ho])
  refine ⟨hh, old, ht, ?_⟩
  intro x hx heq
  have hnd := hf.hashes
  rw [ht, map_append, nodup_append] at hnd
  exact hnd.2.2 x.hash (mem_map_of_mem hx) t.hash (by simp) heq

theorem Family.Chained.rotate (hf : f.Chained) (hfr : ∀ t ∈ f.tokens, t.hash ≠ newHash)
    (hn : now ≠ 0) : (f.rotate presentedHash newHash ttl now nextID).1.Chained := by
  rcases h : f.rotate presentedHash newHash ttl now nextID with ⟨f', _ | e⟩
  · obtain ⟨-, -, -, t, hfi, ho, -, rfl⟩ := Family.rotate_ok h
    obtain ⟨rfl, old, ht, hold⟩ := hf.findToken_open hfi ho
    have hc : Chain (old ++ [t]) := ht ▸ hf.chain
    constructor
    · show Chain (Family.consumeToken t.hash now nextID f.tokens ++ [_])
      rw [ht, consumeToken_append hold]
      exact hc.extend hn rfl rfl (by simp [Token.isConsumed, Time.isZero])
    · show ((Family.consumeToken t.hash now nextID f.tokens ++ [_]).map Token.hash).Nodup
      have hs : (Family.consumeToken t.hash now nextID f.tokens).map Token.hash =
          f.tokens.map Token.hash := by
        rw [ht, consumeToken_append hold]
        simp
      rw [map_append, hs, nodup_append]
      refine ⟨hf.hashes, nodup_singleton _, ?_⟩
      intro a ha b hb
      obtain ⟨x, hx, rfl⟩ := mem_map.mp ha
      obtain rfl : b = newHash := by simpa using hb
      exact hfr x hx
  · by_cases he : e.sentinel = errReuseDetected
    · obtain ⟨-, -, ht, -⟩ := Family.rotate_reuse h he
      exact ⟨ht ▸ hf.chain, ht ▸ hf.hashes⟩
    · obtain rfl := Family.rotate_error h he
      exact hf

theorem Family.revoke_tokens (f : Family) (reason : String) (now : Time) :
    (f.revoke reason now).1.tokens = f.tokens := by
  unfold Family.revoke
  repeat' split
  all_goals rfl

theorem Family.Chained.call (hf : f.Chained) (c : Call) (hfr : FreshHash f c)
    (hn : c.now ≠ 0) (h : RefreshToken.call f c = some f') : f'.Chained := by
  cases h
  cases c with
  | rotate presentedHash newHash ttl now nextID => exact hf.rotate hfr hn
  | revoke reason now =>
    have ht : (f.revoke reason now).1.tokens = f.tokens := f.revoke_tokens reason now
    exact ⟨ht ▸ hf.chain, ht ▸ hf.hashes⟩

theorem Family.Chained.findToken_mem (hf : f.Chained) (ht : t ∈ f.tokens) :
    f.findToken t.hash = some t := by
  rcases hfi : f.findToken t.hash with _ | t'
  · exact absurd (find?_eq_none.mp hfi t ht) (by simp)
  · have hm : t' ∈ f.tokens := mem_of_find?_eq_some hfi
    have hh : t'.hash = t.hash := by simpa using find?_some hfi
    rw [inj_on_of_nodup_map hf.hashes hm ht hh]

theorem Family.Chained.rotate_consumed (hf : f.Chained) (hre : f.isRevoked = false)
    (ht : t ∈ f.tokens) (hc : t.isConsumed = true) (hz : newHash.isZero = false)
    (htt : 0 < ttl) (hn : now ≠ 0) :
    ∃ f', f.rotate t.hash newHash ttl now nextID = (f', some ⟨errReuseDetected, ""⟩) ∧
    f'.isRevoked = true := by
  have hr : f.rotate t.hash newHash ttl now nextID =
      ({ f with
          revokedAt := now
          revokeReason := "reuse_detected"
          events := f.events ++ [.revoked f.id f.personID f.tenantID "reuse_detected" now] },
        some ⟨errReuseDetected, ""⟩) := by
    unfold Family.rotate
    rw [if_neg (by simp [hre]), if_neg (by simp [hz]), if_neg (Int.not_le.mpr htt)]
    simp only [hf.findToken_mem ht, hc, if_true]
  exact ⟨_, hr, by simpa [Family.isRevoked, Time.isZero] using hn⟩

theorem rotate_revoked (hr : f.isRevoked = true) :
    f.rotate presentedHash newHash ttl now nextID = (f, some ⟨errRevoked, ""⟩) := by
  unfold Family.rotate
  rw [if_pos hr]

theorem apply_revoked (hr : f.isRevoked = true) (c : Call) : (c.apply f).1 = f := by
  cases c with
  | rotate presentedHash newHash ttl now nextID => exact congrArg Prod.fst (rotate_revoked hr)
  | revoke reason now =>
    simp only [Call.apply, Family.revoke, hr, if_true]
    split <;> rfl

end

structure Family.Lawful (f : Family) : Prop where
  chain : Chain f.tokens
  reuse : f.isRevoked = false → ∀ t ∈ f.tokens, t.isConsumed = true →
    ∀ newHash ttl now nextID, newHash.isZero = false → 0 < ttl → now ≠ 0 →
      ∃ f', f.rotate t.hash newHash ttl now nextID = (f', some ⟨errReuseDetected, ""⟩) ∧
        f'.isRevoked = true
  /-- Whatever is called on a revoked family later, it stays as it is and does not rotate. -/
  revoked : f.isRevoked = true → ∀ cs f', run RefreshToken.call f cs = some f' →
    f'.tokens = f.tokens ∧ f'.revokedAt = f.revokedAt ∧ f'.revokeReason = f.revokeReason ∧
      ∀ presentedHash newHash ttl now nextID,
        (f'.rotate presentedHash newHash ttl now nextID).2 = some ⟨errRevoked, ""⟩
  failed : ∀ presentedHash newHash ttl now nextID e,
    (f.rotate presentedHash newHash ttl now nextID).2 = some e → e.sentinel ≠ errReuseDetected →
      (f.rotate presentedHash newHash ttl now nextID).1 = f

variable {cs : List Call}

theorem run_revoked {f f' : Family} (hr : f.isRevoked = true)
    (hru : run RefreshToken.call f cs = some f') : f' = f := by
  refine run_keeps (P := fun g => g = f) rfl ?_ hru
  rintro g c g' rfl hc
  cases hc
  exact apply_revoked hr c

theorem Family.Chained.lawful {f : Family} (hf : f.Chained) : f.Lawful where
  chain := hf.chain
  reuse hr t ht hcons newHash ttl now nextID hz htt hn := hf.rotate_consumed hr ht hcons hz htt hn
  revoked hr cs f' hru := by
    obtain rfl := run_revoked hr hru
    exact ⟨rfl, rfl, rfl, fun _ _ _ _ _ => congrArg Prod.snd (rotate_revoked hr)⟩
  failed presentedHash newHash ttl now nextID e her he := Family.rotate_error (Prod.ext rfl her) he

theorem chained_run {f₀ f : Family} (h₀ : f₀.Chained)
    (hC : Along RefreshToken.call (fun f c => FreshHash f c ∧ c.now ≠ 0) f₀ cs)
    (hr : run RefreshToken.call f₀ cs = some f) : f.Chained :=
  run_invariant h₀ (fun _ c _ hf hc h => hf.call c hc.1 hc.2 h) hC hr

theorem family_lawful (id personID tenantID deviceLabel : String) (firstHash : TokenHash)
    (ttl : Duration) (now : Time) (tokenID : String) (f₀ : Family)
    (hnew : Family.new id personID tenantID deviceLabel firstHash ttl now tokenID = .ok f₀)
    (cs : List Call) (hC : Along RefreshToken.call (fun f c => FreshHash f c ∧ c.now ≠ 0) f₀ cs)
    (f : Family) (hrun : run RefreshToken.call f₀ cs = some f) : f.Lawful :=
  (chained_run (chained_new hnew) hC hrun).lawful

theorem exists_freshHash (hs : List TokenHash) :
    ∃ h : TokenHash, h.isZero = false ∧ ∀ x ∈ hs, x ≠ h := by
  -- Longer than every hash there is.
  have hb : ∃ n, ∀ x ∈ hs, x.value.length < n := by
    induction hs with
    | nil => exact ⟨0, fun _ hx => absurd hx not_mem_nil⟩
    | cons x hs ih =>
      obtain ⟨n, hn⟩ := ih
      refine ⟨max n (x.value.length + 1), fun y hy => ?_⟩
      rcases mem_cons.mp hy with rfl | hy
      · omega
      · have := hn y hy
        omega
  obtain ⟨n, hn⟩ := hb
  have hl : (String.ofList (replicate (n + 1) 'a')).length = n + 1 := by simp
  refine ⟨⟨String.ofList (replicate (n + 1) 'a')⟩, ?_, ?_⟩
  · simp only [TokenHash.isZero, beq_eq_false_iff_ne]
    intro he
    rw [he] at hl
    cases hl
  · rintro x hx rfl
    have hlt : (String.ofList (replicate (n + 1) 'a')).length < n := hn _ hx
    omega

theorem Family.Chained.rotate_last {f : Family} (hf : f.Chained) (hr : f.isRevoked = false)
    {t : Token} {old : List Token} (ht : f.tokens = old ++ [t]) (ho : t.isConsumed = false)
    {now : Time} (he : t.isExpired now = false) {newHash : TokenHash}
    (hz : newHash.isZero = false) {ttl : Duration} (htt : 0 < ttl) (nextID : String) :
    ∃ f', f.rotate t.hash newHash ttl now nextID = (f', none) ∧ f'.isRevoked = false ∧
    f'.tokens = old ++ [{ t with consumedAt := now, replacedByID := nextID }] ++
        [{ id := nextID, hash := newHash, generation := t.generation + 1, issuedAt := now,
           expiresAt := now + ttl }] := by
  have hm : t ∈ f.tokens := by simp [ht]
  have hfi := hf.findToken_mem hm
  obtain ⟨-, old', ht', hold⟩ := hf.findToken_open hfi ho
  obtain rfl : old = old' := (append_inj_left' (ht.symm.trans ht') rfl)
  refine ⟨{ f with
    tokens := old ++ [{ t with consumedAt := now, replacedByID := nextID }] ++
      [{ id := nextID, hash := newHash, generation := t.generation + 1, issuedAt := now,
         expiresAt := now + ttl }]
    lastUsedAt := now
    events := f.events ++
      [.rotated f.id f.personID f.tenantID t.id nextID (t.generation + 1) now] }, ?_, hr, rfl⟩
  unfold Family.rotate
  rw [if_neg (by simp [hr]), if_neg (by simp [hz]), if_neg (Int.not_le.mpr htt)]
  simp only [hfi, ho, he, Bool.false_eq_true, if_false]
  rw [ht, consumeToken_append hold]

theorem exists_rotations (n : Nat) {f : Family} (hf : f.Chained) (hre : f.isRevoked = false)
    (he : ∀ t ∈ f.tokens, t.isExpired 1 = false) :
    ∃ cs f', Along RefreshToken.call (fun f c => FreshHash f c ∧ c.now ≠ 0) f cs ∧
    run RefreshToken.call f cs = some f' ∧ f'.tokens.length = f.tokens.length + n := by
  induction n generalizing f with
  | zero => exact ⟨[], f, trivial, rfl, rfl⟩
  | succ n ih =>
    obtain ⟨newHash, hz, hfr⟩ := exists_freshHash (f.tokens.map Token.hash)
    obtain ⟨old, t, hto, -, ho⟩ := hf.chain.eq_append
    have hfr' : ∀ t ∈ f.tokens, t.hash ≠ newHash :=
      fun t ht => hfr t.hash (mem_map_of_mem ht)
    obtain ⟨f₁, hr, hre₁, hto₁⟩ := hf.rotate_last hre hto ho
      (he t (by simp [hto])) hz (by decide : (0 : Duration) < 1) "next"
    have hc : RefreshToken.call f (.rotate t.hash newHash 1 1 "next") = some f₁ :=
      congrArg (fun r : Family × Option Err => some r.1) hr
    have hf₁ : f₁.Chained :=
      hf.call (.rotate t.hash newHash 1 1 "next") hfr' (by simp [Call.now]) hc
    have he₁ : ∀ t ∈ f₁.tokens, t.isExpired 1 = false := by
      intro x hx
      rw [hto₁, append_assoc, mem_append] at hx
      rcases hx with hx | hx
      · exact he x (by simp [hto, hx])
      · rcases mem_cons.mp hx with rfl | hx
        · exact he t (by simp [hto])
        · obtain rfl := mem_singleton.mp hx
          rfl
    obtain ⟨cs, f', hC, hru, hl⟩ := ih hf₁ hre₁ he₁
    refine ⟨.rotate t.hash newHash 1 1 "next" :: cs, f', ?_, ?_, ?_⟩
    · exact (along_cons hc).mpr ⟨⟨hfr', by simp [Call.now]⟩, hC⟩
    · exact run_cons_eq_some.mpr ⟨f₁, hc, hru⟩
    · rw [hl, hto₁, hto]
      simp only [length_append, length_singleton]
      omega

def newSample : Family where
  id := "family"
  personID := "p1"
  tenantID := "t1"
  deviceLabel := "laptop"
  createdAt := 1
  lastUsedAt := 1
  tokens := [{ id := "first", hash := ⟨"a"⟩, generation := 0, issuedAt := 1, expiresAt := 11 }]
  events := [.familyCreated "family" "p1" "t1" "laptop" 1]

theorem newSample_new :
    Family.new "family" "p1" "t1" "laptop" ⟨"a"⟩ 10 1 "first" = .ok newSample := by
  decide +kernel

def reuseCalls : List Call :=
  [.rotate ⟨"a"⟩ ⟨"b"⟩ 10 2 "second", .rotate ⟨"b"⟩ ⟨"c"⟩ 10 3 "third",
   .rotate ⟨"a"⟩ ⟨"d"⟩ 10 4 "fourth"]

theorem family_lawful_reuse :
    ∃ f, run RefreshToken.call newSample reuseCalls = some f ∧ f.revokeReason = "reuse_detected" ∧
    f.tokens.map Token.isConsumed = [true, true, false] ∧ f.Lawful := by
  refine ⟨_, rfl, rfl, by decide, ?_⟩
  exact family_lawful "family" "p1" "t1" "laptop" ⟨"a"⟩ 10 1 "first" newSample newSample_new
    reuseCalls (by decide +kernel) _ rfl

theorem chain_broken :
    (∃ f, run RefreshToken.call newSample [.rotate ⟨"a"⟩ ⟨"b"⟩ 10 0 "second"] = some f ∧
    Along RefreshToken.call FreshHash newSample [.rotate ⟨"a"⟩ ⟨"b"⟩ 10 0 "second"] ∧
    f.tokens.map Token.isConsumed = [false, false]) ∧
    ∃ cs f, Along RefreshToken.call (fun f c => FreshHash f c ∧ c.now ≠ 0) newSample cs ∧
    run RefreshToken.call newSample cs = some f ∧
    ∃ h : 2 ^ 31 < f.tokens.length, f.tokens[2 ^ 31].generation.toInt ≠ 2 ^ 31 := by
  refine ⟨⟨_, rfl, by decide +kernel, by decide⟩, ?_⟩
  have hn := chained_new newSample_new
  obtain ⟨cs, f, hC, hr, hle⟩ := exists_rotations (2 ^ 31) hn (by decide) (by decide)
  have hl : 2 ^ 31 < f.tokens.length := by
    rw [hle]
    show 2 ^ 31 < 1 + 2 ^ 31
    omega
  refine ⟨cs, f, hC, hr, hl, ?_⟩
  rw [(chained_run hn hC hr).chain.generation _ hl]
  decide

end Leadkart.RefreshToken
