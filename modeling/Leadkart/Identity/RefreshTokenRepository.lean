import Mathlib.Data.List.Sort
import Leadkart.Identity.RefreshToken
import Leadkart.Logic.Rmw

/-!
# The refresh-token repository
-/

namespace Leadkart.RefreshToken

open List Leadkart.Rmw

structure FamilyRow where
  (id personID tenantID deviceLabel : String)
  (createdAt lastUsedAt : Time)
  revokedAt : Option Time
  revokeReason : Option String
  deriving DecidableEq

structure TokenRow where
  (id tokenHash : String)
  generation : Int32
  (issuedAt expiresAt : Time)
  consumedAt : Option Time
  replacedByID : Option String
  deriving DecidableEq

structure Stored where
  row : FamilyRow
  tokens : List TokenRow
  deriving DecidableEq

def TokenRow.toToken (r : TokenRow) : Token :=
  { id := r.id
    hash := ⟨r.tokenHash⟩
    generation := r.generation
    issuedAt := r.issuedAt
    expiresAt := r.expiresAt
    consumedAt := timeFromPg r.consumedAt
    replacedByID := stringFromPg r.replacedByID }

def hydrateTokens : List TokenRow → Except Err (List Token)
  | [] => .ok []
  | r :: rs =>
    match newTokenHash r.tokenHash with
    | .error e => .error e
    | .ok _ =>
      match hydrateTokens rs with
      | .error e => .error e
      | .ok ts => .ok (r.toToken :: ts)

def listRefreshTokensInFamily (s : Stored) : List TokenRow :=
  s.tokens.insertionSort fun a b => a.generation ≤ b.generation

def hydrateFamily (row : FamilyRow) (tokens : List TokenRow) : Except Err Family :=
  match hydrateTokens tokens with
  | .error e => .error e
  | .ok ts => .ok
    { id := row.id
      personID := row.personID
      tenantID := row.tenantID
      deviceLabel := row.deviceLabel
      createdAt := row.createdAt
      lastUsedAt := row.lastUsedAt
      revokedAt := timeFromPg row.revokedAt
      revokeReason := stringFromPg row.revokeReason
      tokens := ts }

def loadFamilyByID : List Stored → Option Family
  | [s₁, s₂] => (hydrateFamily s₁.row (listRefreshTokensInFamily s₂)).toOption
  | _ => none

def persistFamilyState (f : Family) (row : FamilyRow) : FamilyRow :=
  { row with
    lastUsedAt := f.lastUsedAt
    revokedAt := pgTimestamp f.revokedAt
    revokeReason := zeroToNil f.revokeReason }

def Token.toRow (t : Token) : TokenRow :=
  { id := t.id
    tokenHash := t.hash.value
    generation := t.generation
    issuedAt := t.issuedAt
    expiresAt := t.expiresAt
    consumedAt := pgTimestamp t.consumedAt
    replacedByID := zeroToNil t.replacedByID }

def TokenRow.patch (r : TokenRow) (t : Token) : TokenRow :=
  if r.id = t.id then
    { r with consumedAt := pgTimestamp t.consumedAt, replacedByID := zeroToNil t.replacedByID }
  else r

def upsertRefreshToken (rows : List TokenRow) (t : Token) : Option (List TokenRow) :=
  let known := rows.map TokenRow.id
  if t.generation < 0 then none
  else if t.replacedByID ≠ "" ∧ t.replacedByID ∉ t.id :: known then none
  else if t.id ∈ known then some (rows.map fun r => r.patch t)
  else if t.hash.value ∈ rows.map TokenRow.tokenHash then none
  else some (rows ++ [t.toRow])

def upsertFamilyTokens (f : Family) (rows : List TokenRow) : Option (List TokenRow) :=
  f.tokens.reverse.foldlM upsertRefreshToken rows

def persist (f : Family) (s : Stored) : Option Stored :=
  (upsertFamilyTokens f s.tokens).map fun tokens => { row := persistFamilyState f s.row, tokens }

abbrev UpdateFn := Family → Family × Except Err Bool

def updateByID (updateFn : UpdateFn) : Txn Stored Family where
  reads := 2
  attempt seen :=
    (loadFamilyByID seen).bind fun f =>
      match updateFn f with
      | (f', .ok true) => some f'
      | _ => none
  write := persist

def rotateFn (presentedHash newHash : TokenHash) (ttl : Duration) (now : Time) (nextID : String) :
    UpdateFn := fun f =>
  match f.rotate presentedHash newHash ttl now nextID with
  | (f', none) => (f', .ok true)
  | (f', some e) => if e.is errReuseDetected then (f', .ok true) else (f', .ok false)

def revokeFn (reason : String) (now : Time) : UpdateFn := fun f =>
  match f.revoke reason now with
  | (f', none) => (f', .ok true)
  | (f', some e) => (f', .error e)

def errSessionNotFound : Sentinel := ⟨.unknown, "", "revoke_session: session not found"⟩

def revokeSessionFn (personID reason : String) (now : Time) : UpdateFn := fun f =>
  if f.personID ≠ personID then (f, .error ⟨errSessionNotFound, ""⟩)
  else if f.isRevoked then (f, .ok false)
  else revokeFn reason now f

variable {ts : List Token}

theorem hydrateTokens_eq {rs : List TokenRow} (h : hydrateTokens rs = .ok ts) :
    ts = rs.map TokenRow.toToken := by
  induction rs generalizing ts with
  | nil =>
    cases h
    rfl
  | cons r rs ih =>
    unfold hydrateTokens at h
    split at h
    · cases h
    split at h
    · cases h
    rename_i ts' hts
    cases h
    rw [ih hts, map_cons]

theorem loadFamilyByID_eq {s₁ s₂ : Stored} {f : Family} (h : loadFamilyByID [s₁, s₂] = some f) :
    f.tokens = (listRefreshTokensInFamily s₂).map TokenRow.toToken ∧
    f.revokedAt = timeFromPg s₁.row.revokedAt := by
  simp only [loadFamilyByID, hydrateFamily] at h
  cases hts : hydrateTokens (listRefreshTokensInFamily s₂) with
  | error e =>
    rw [hts] at h
    exact absurd h (by simp [Except.toOption])
  | ok ts =>
    rw [hts] at h
    cases h
    exact ⟨hydrateTokens_eq hts, rfl⟩

variable {seen : List Stored}

theorem loadFamilyByID_length {f : Family} (h : loadFamilyByID seen = some f) :
    ∃ s₁ s₂, seen = [s₁, s₂] := by
  unfold loadFamilyByID at h
  split at h
  · exact ⟨_, _, rfl⟩
  · cases h

theorem listRefreshTokensInFamily_perm (s : Stored) : (listRefreshTokensInFamily s).Perm s.tokens :=
  perm_insertionSort _ _

variable {w : Family}

theorem updateByID_attempt {updateFn : UpdateFn} (h : (updateByID updateFn).attempt seen = some w) :
    ∃ f, loadFamilyByID seen = some f ∧ updateFn f = (w, .ok true) := by
  obtain ⟨f, hl, h⟩ := Option.bind_eq_some_iff.mp h
  refine ⟨f, hl, ?_⟩
  split at h
  · rename_i f' hfn
    rw [hfn, Option.some.inj h]
  · cases h

variable {now : Time} {nextID : String}

theorem rotateFn_persists {p newHash : TokenHash} {ttl : Duration} {f : Family}
    (h : rotateFn p newHash ttl now nextID f = (w, .ok true)) :
    f.rotate p newHash ttl now nextID = (w, none) ∨
    ∃ e, f.rotate p newHash ttl now nextID = (w, some e) ∧ e.sentinel = errReuseDetected := by
  unfold rotateFn at h
  split at h
  · rename_i f' hr
    obtain rfl : f' = w := congrArg Prod.fst h
    exact .inl hr
  · rename_i f' e hr
    split at h
    · rename_i he
      obtain rfl : f' = w := congrArg Prod.fst h
      exact .inr ⟨e, hr, by simpa [Err.is] using he⟩
    · cases h

variable {reason : String}

theorem revokeFn_persists {f : Family} (h : revokeFn reason now f = (w, .ok true)) :
    f.revoke reason now = (w, none) := by
  unfold revokeFn at h
  split at h
  · rename_i f' hr
    obtain rfl : f' = w := congrArg Prod.fst h
    exact hr
  · cases h

theorem revokeSessionFn_persists {p : String} {f : Family}
    (h : revokeSessionFn p reason now f = (w, .ok true)) : f.revoke reason now = (w, none) := by
  unfold revokeSessionFn at h
  split at h
  · cases h
  split at h
  · cases h
  · exact revokeFn_persists h

@[simp] theorem TokenRow.patch_id (r : TokenRow) (t : Token) : (r.patch t).id = r.id := by
  unfold TokenRow.patch
  split <;> rfl

variable {r : TokenRow}

theorem TokenRow.patch_of_ne {t : Token} (h : t.id ≠ r.id) : r.patch t = r :=
  if_neg fun h' => h h'.symm

@[simp] theorem TokenRow.patch_patch (r : TokenRow) (t : Token) :
    (r.patch t).patch t = r.patch t := by
  by_cases h : r.id = t.id
  · simp only [TokenRow.patch, h, if_true]
  · rw [TokenRow.patch_of_ne fun h' => h h'.symm]
    exact TokenRow.patch_of_ne fun h' => h h'.symm

variable {rows rows' : List TokenRow} {t : Token}

theorem upsertRefreshToken_known (h : upsertRefreshToken rows t = some rows')
    (hid : t.id ∈ rows.map TokenRow.id) : rows' = rows.map fun r => r.patch t := by
  simp only [upsertRefreshToken, hid, if_true] at h
  split at h
  · cases h
  split at h
  · cases h
  · exact (Option.some.inj h).symm

theorem upsertRefreshToken_new (h : upsertRefreshToken rows t = some rows')
    (hid : t.id ∉ rows.map TokenRow.id) :
    t.hash.value ∉ rows.map TokenRow.tokenHash ∧ rows' = rows ++ [t.toRow] := by
  simp only [upsertRefreshToken, hid, if_false] at h
  split at h
  · cases h
  split at h
  · cases h
  split at h
  · cases h
  · rename_i hh
    exact ⟨hh, (Option.some.inj h).symm⟩

theorem foldlM_upsert_known (hts : ∀ t ∈ ts, t.id ∈ rows.map TokenRow.id)
    (h : ts.foldlM upsertRefreshToken rows = some rows') :
    rows' = rows.map fun r => ts.foldl TokenRow.patch r := by
  induction ts generalizing rows with
  | nil =>
    cases h
    simp
  | cons t ts ih =>
    rw [foldlM_cons] at h
    obtain ⟨mid, hm, hr⟩ := Option.bind_eq_some_iff.mp h
    obtain rfl := upsertRefreshToken_known hm (hts t (mem_cons_self ..))
    have hi : (rows.map fun r => r.patch t).map TokenRow.id = rows.map TokenRow.id := by
      rw [map_map]
      exact map_congr_left fun r _ => TokenRow.patch_id r t
    have := ih (fun t' ht' => hi ▸ hts t' (mem_cons_of_mem _ ht')) hr
    rw [this, map_map]
    rfl

theorem foldl_patch_fixed (h : ∀ t ∈ ts, r.patch t = r) : ts.foldl TokenRow.patch r = r := by
  induction ts with
  | nil => rfl
  | cons t ts ih =>
    rw [foldl_cons, h t (mem_cons_self ..)]
    exact ih fun t' ht' => h t' (mem_cons_of_mem _ ht')

theorem foldl_patch_eq (ht : t ∈ ts) (hu : ∀ t' ∈ ts, t'.id = r.id → t' = t) :
    ts.foldl TokenRow.patch r = r.patch t := by
  induction ts generalizing r with
  | nil => cases ht
  | cons t' ts ih =>
    rw [foldl_cons]
    have hu' : ∀ t'' ∈ ts, t''.id = r.id → t'' = t :=
      fun t'' h => hu t'' (mem_cons_of_mem _ h)
    by_cases hm : t ∈ ts
    · have hh : r.patch t' = r ∨ r.patch t' = r.patch t := by
        by_cases hid : t'.id = r.id
        · exact .inr (by rw [hu t' (mem_cons_self ..) hid])
        · exact .inl (TokenRow.patch_of_ne hid)
      rcases hh with hh | hh
      · rw [hh]
        exact ih hm hu'
      · rw [hh, ih hm (by simpa using hu'), TokenRow.patch_patch]
    · obtain rfl : t = t' := (mem_cons.mp ht).resolve_right hm
      refine foldl_patch_fixed fun t'' ht'' => TokenRow.patch_of_ne fun hid => ?_
      rw [TokenRow.patch_id] at hid
      exact hm (hu' t'' ht'' hid ▸ ht'')

structure Stored.WF (s : Stored) : Prop where
  ids : (s.tokens.map TokenRow.id).Nodup
  hashes : (s.tokens.map TokenRow.tokenHash).Nodup
  consumed : ∀ r ∈ s.tokens, r.consumedAt ≠ some 0
  replaced : ∀ r ∈ s.tokens, r.replacedByID ≠ some ""

theorem pgTimestamp_timeFromPg {p : Option Time} (h : p ≠ some 0) :
    pgTimestamp (timeFromPg p) = p := by
  cases p with
  | none => rfl
  | some t =>
    have ht : t ≠ 0 := fun h' => h (by rw [h'])
    simp [pgTimestamp, timeFromPg, Time.isZero, ht]

theorem zeroToNil_stringFromPg {p : Option String} (h : p ≠ some "") :
    zeroToNil (stringFromPg p) = p := by
  cases p with
  | none => rfl
  | some t =>
    have ht : t ≠ "" := fun h' => h (by rw [h'])
    simp [zeroToNil, stringFromPg, ht]

variable {s s' : Stored} {f : Family}

theorem Stored.WF.patch_toToken (hs : s.WF) (hr : r ∈ s.tokens) : r.patch r.toToken = r := by
  have h1 : pgTimestamp (timeFromPg r.consumedAt) = r.consumedAt :=
    pgTimestamp_timeFromPg (hs.consumed r hr)
  have h2 : zeroToNil (stringFromPg r.replacedByID) = r.replacedByID :=
    zeroToNil_stringFromPg (hs.replaced r hr)
  simp only [TokenRow.patch, TokenRow.toToken, if_true, h1, h2]

theorem Stored.WF.eq_of_id (hs : s.WF) {r' : TokenRow} (hr : r ∈ s.tokens) (hr' : r' ∈ s.tokens)
    (h : r.id = r'.id) : r = r' := List.inj_on_of_nodup_map hs.ids hr hr' h

theorem mem_loaded {t : Token}
    (hf : f.tokens = (listRefreshTokensInFamily s).map TokenRow.toToken) :
    t ∈ f.tokens ↔ ∃ r ∈ s.tokens, r.toToken = t := by
  rw [hf, mem_map]
  constructor
  · rintro ⟨r, hr, rfl⟩
    exact ⟨r, (listRefreshTokensInFamily_perm s).mem_iff.mp hr, rfl⟩
  · rintro ⟨r, hr, rfl⟩
    exact ⟨r, (listRefreshTokensInFamily_perm s).mem_iff.mpr hr, rfl⟩

theorem upsert_own (hs : s.WF) (g : Token → Token) (hg : ∀ t, (g t).id = t.id)
    (hf : f.tokens = (listRefreshTokensInFamily s).map TokenRow.toToken) (extra : List TokenRow)
    (he : ∀ r ∈ extra, r.id ∉ s.tokens.map TokenRow.id)
    (h : (f.tokens.map g).reverse.foldlM upsertRefreshToken (s.tokens ++ extra) = some rows') :
    rows' = (s.tokens.map fun r => r.patch (g r.toToken)) ++ extra := by
  have hm : ∀ t, t ∈ (f.tokens.map g).reverse ↔ ∃ r ∈ s.tokens, g r.toToken = t := by
    intro t
    rw [mem_reverse, mem_map]
    constructor
    · rintro ⟨t, ht, rfl⟩
      obtain ⟨r, hr, rfl⟩ := (mem_loaded hf).mp ht
      exact ⟨r, hr, rfl⟩
    · rintro ⟨r, hr, rfl⟩
      exact ⟨r.toToken, (mem_loaded hf).mpr ⟨r, hr, rfl⟩, rfl⟩
  have hid : ∀ r : TokenRow, (g r.toToken).id = r.id := fun r => hg r.toToken
  rw [foldlM_upsert_known ?_ h, map_append]
  · congr 1
    · refine map_congr_left fun r hr => ?_
      refine foldl_patch_eq ((hm _).mpr ⟨r, hr, rfl⟩) fun t ht hti => ?_
      obtain ⟨r', hr', rfl⟩ := (hm t).mp ht
      rw [hid] at hti
      rw [hs.eq_of_id hr' hr hti]
    · conv_rhs => rw [← map_id extra]
      refine map_congr_left fun r hr => foldl_patch_fixed fun t ht => ?_
      obtain ⟨r', hr', rfl⟩ := (hm t).mp ht
      refine TokenRow.patch_of_ne fun h' => he r hr ?_
      rw [← h', hid]
      exact mem_map_of_mem hr'
  · intro t ht
    obtain ⟨r, hr, rfl⟩ := (hm t).mp ht
    rw [hid, map_append]
    exact mem_append_left _ (mem_map_of_mem hr)

def TokenRow.consume (r : TokenRow) (now : Time) (nextID : String) : TokenRow :=
  { r with consumedAt := pgTimestamp now, replacedByID := zeroToNil nextID }

theorem consumeToken_eq_map {h : TokenHash} (hts : (ts.map Token.hash).Nodup) :
    Family.consumeToken h now nextID ts = ts.map fun t =>
      if t.hash = h then { t with consumedAt := now, replacedByID := nextID } else t := by
  induction ts with
  | nil => rfl
  | cons t ts ih =>
    rw [map_cons, nodup_cons] at hts
    unfold Family.consumeToken
    split
    · rename_i ht
      rw [map_cons, if_pos ht]
      congr 1
      conv_lhs => rw [← map_id ts]
      refine map_congr_left fun t' ht' => (if_neg fun h' => hts.1 ?_).symm
      rw [ht, ← h']
      exact mem_map_of_mem ht'
    · rename_i ht
      rw [map_cons, if_neg ht, ih hts.2]

theorem Stored.WF.loaded_hashes (hs : s.WF)
    (hf : f.tokens = (listRefreshTokensInFamily s).map TokenRow.toToken) :
    (f.tokens.map Token.hash).Nodup := by
  have hp : (f.tokens.map Token.hash).Perm (s.tokens.map fun r => ⟨r.tokenHash⟩) := by
    rw [hf, map_map]
    exact (listRefreshTokensInFamily_perm s).map _
  rw [hp.nodup_iff]
  have := hs.hashes.map (f := TokenHash.mk) fun a b h => TokenHash.mk.inj h
  rwa [map_map] at this

theorem persist_rotated (hs : s.WF) {p : TokenHash} {next : Token}
    (hts : ts = (listRefreshTokensInFamily s).map TokenRow.toToken)
    (hf : f.tokens = Family.consumeToken p now next.id ts ++ [next])
    (hn : next.id ∉ s.tokens.map TokenRow.id) (h : persist f s = some s') :
    next.hash.value ∉ s.tokens.map TokenRow.tokenHash ∧ s'.tokens = (s.tokens.map fun r =>
        if r.tokenHash = p.value then r.consume now next.id else r) ++ [next.toRow] := by
  obtain ⟨rows', hro, rfl⟩ := Option.map_eq_some_iff.mp h
  have hl : ({ f with tokens := ts } : Family).tokens =
      (listRefreshTokensInFamily s).map TokenRow.toToken := hts
  unfold upsertFamilyTokens at hro
  -- The new token is upserted first, so it is inserted; the older ones then find their rows.
  rw [hf, List.reverse_append, List.reverse_singleton, List.singleton_append, foldlM_cons] at hro
  obtain ⟨mid, hm, hre⟩ := Option.bind_eq_some_iff.mp hro
  obtain ⟨hfr, rfl⟩ := upsertRefreshToken_new hm hn
  refine ⟨hfr, ?_⟩
  rw [consumeToken_eq_map (hs.loaded_hashes hl)] at hre
  rw [upsert_own hs _ (fun t => by split <;> rfl) hl [next.toRow]
    (fun r hr => by rw [mem_singleton.mp hr]; exact hn) hre]
  refine congrArg (· ++ [next.toRow]) (map_congr_left fun r hr => ?_)
  by_cases hh : r.tokenHash = p.value
  · rw [if_pos (by rw [TokenRow.toToken, hh]), if_pos hh]
    simp [TokenRow.patch, TokenRow.toToken, TokenRow.consume]
  · rw [if_neg (fun h' => hh (congrArg TokenHash.value h')), if_neg hh]
    exact hs.patch_toToken hr

theorem persist_same_tokens (hs : s.WF)
    (hf : f.tokens = (listRefreshTokensInFamily s).map TokenRow.toToken)
    (h : persist f s = some s') : s'.tokens = s.tokens := by
  obtain ⟨rows', hro, rfl⟩ := Option.map_eq_some_iff.mp h
  have ho : (f.tokens.map id).reverse.foldlM upsertRefreshToken (s.tokens ++ []) = some rows' := by
    simpa [upsertFamilyTokens] using hro
  rw [upsert_own hs id (fun _ => rfl) hf [] (by simp) ho, append_nil]
  conv_rhs => rw [← map_id s.tokens]
  exact map_congr_left fun r hr => hs.patch_toToken hr

end Leadkart.RefreshToken
