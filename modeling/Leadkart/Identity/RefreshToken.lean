import Leadkart.Common.Basic

/-!
# The refresh-token family aggregate
-/

namespace Leadkart.RefreshToken

def errInvalid : Sentinel := ⟨.invalidInput, "refreshtoken", "invalid refresh token"⟩
def errUnknownToken : Sentinel := ⟨.unauthenticated, "refreshtoken", "token not found in family"⟩
def errReuseDetected : Sentinel := ⟨.unauthenticated, "refreshtoken", "token reuse detected"⟩
def errRevoked : Sentinel := ⟨.unauthenticated, "refreshtoken", "family is revoked"⟩
def errExpired : Sentinel := ⟨.unauthenticated, "refreshtoken", "token expired"⟩
def errNotFound : Sentinel := ⟨.notFound, "refreshtoken", "family not found"⟩

structure TokenHash where
  value : String
  deriving DecidableEq

def TokenHash.isZero (h : TokenHash) : Bool := h.value == ""

def hashMinLen : Nat := 40
def hashMaxLen : Nat := 256

def newTokenHash (raw : String) : Except Err TokenHash :=
  let n := raw.utf8ByteSize
  if raw = "" then .error ⟨errInvalid, "token hash empty"⟩
  else if n < hashMinLen then
    .error ⟨errInvalid, s!"token hash too short (got {n}, want ≥{hashMinLen})"⟩
  else if n > hashMaxLen then
    .error ⟨errInvalid, s!"token hash too long (got {n}, want ≤{hashMaxLen})"⟩
  else .ok ⟨raw⟩

structure Token where
  id : String
  hash : TokenHash
  generation : Int32
  (issuedAt expiresAt : Time)
  consumedAt : Time := 0
  replacedByID : String := ""
  deriving DecidableEq

def Token.isConsumed (t : Token) : Bool := !t.consumedAt.isZero

def Token.isExpired (t : Token) (now : Time) : Bool := !t.expiresAt.isZero && now.after t.expiresAt

inductive Event where
  | familyCreated (familyID personID tenantID deviceLabel : String) (at_ : Time)
  | rotated (familyID personID tenantID consumedTokenID newTokenID : String)
      (newTokenGeneration : Int32) (at_ : Time)
  | revoked (familyID personID tenantID reason : String) (at_ : Time)
  deriving DecidableEq

structure Family where
  (id personID tenantID deviceLabel : String)
  (createdAt lastUsedAt : Time)
  revokedAt : Time := 0
  revokeReason : String := ""
  tokens : List Token
  events : List Event := []
  deriving DecidableEq

namespace Family

def isRevoked (f : Family) : Bool := !f.revokedAt.isZero

def new (id personID tenantID deviceLabel : String) (firstHash : TokenHash) (ttl : Duration)
    (now : Time) (tokenID : String) : Except Err Family :=
  if id = "" then .error ⟨errInvalid, "family id required"⟩
  else if personID = "" then .error ⟨errInvalid, "person id required"⟩
  else if tenantID = "" then .error ⟨errInvalid, "tenant id required"⟩
  else if isBlank deviceLabel then .error ⟨errInvalid, "device label required"⟩
  else if firstHash.isZero then .error ⟨errInvalid, "token hash required"⟩
  else if ttl ≤ 0 then .error ⟨errInvalid, "ttl must be positive"⟩
  else .ok
    { id, personID, tenantID
      deviceLabel := trimSpace deviceLabel
      createdAt := now
      lastUsedAt := now
      tokens := [{ id := tokenID, hash := firstHash, generation := 0, issuedAt := now,
                   expiresAt := now + ttl }]
      events := [.familyCreated id personID tenantID (trimSpace deviceLabel) now] }

def findToken (f : Family) (h : TokenHash) : Option Token := f.tokens.find? fun t => t.hash == h

def consumeToken (h : TokenHash) (now : Time) (nextID : String) : List Token → List Token
  | [] => []
  | t :: ts =>
    if t.hash = h then { t with consumedAt := now, replacedByID := nextID } :: ts
    else t :: consumeToken h now nextID ts

def rotate (f : Family) (presentedHash newHash : TokenHash) (ttl : Duration) (now : Time)
    (nextID : String) : Family × Option Err :=
  if f.isRevoked then (f, some ⟨errRevoked, ""⟩)
  else if newHash.isZero then (f, some ⟨errInvalid, "new token hash required"⟩)
  else if ttl ≤ 0 then (f, some ⟨errInvalid, "ttl must be positive"⟩)
  else
    match f.findToken presentedHash with
    | none => (f, some ⟨errUnknownToken, ""⟩)
    | some t =>
      if t.isConsumed then
        ({ f with
            revokedAt := now
            revokeReason := "reuse_detected"
            events := f.events ++ [.revoked f.id f.personID f.tenantID "reuse_detected" now] },
          some ⟨errReuseDetected, ""⟩)
      else if t.isExpired now then (f, some ⟨errExpired, "token expired"⟩)
      else
        -- `generation` is an int32, so the successor wraps.
        let next : Token :=
          { id := nextID, hash := newHash, generation := t.generation + 1, issuedAt := now,
            expiresAt := now + ttl }
        ({ f with
            tokens := consumeToken presentedHash now nextID f.tokens ++ [next]
            lastUsedAt := now
            events := f.events ++
              [.rotated f.id f.personID f.tenantID t.id nextID next.generation now] },
          none)

def revoke (f : Family) (reason : String) (now : Time) : Family × Option Err :=
  if isBlank reason then (f, some ⟨errInvalid, "revoke reason required for audit"⟩)
  else if f.isRevoked then (f, none)
  else
    ({ f with
        revokedAt := now
        revokeReason := reason
        events := f.events ++ [.revoked f.id f.personID f.tenantID reason now] },
      none)

end Family

namespace Family

variable {f f' : Family} {presentedHash newHash : TokenHash} {ttl : Duration} {now : Time}
  {nextID : String} {e : Err}

theorem rotate_error (h : f.rotate presentedHash newHash ttl now nextID = (f', some e))
    (he : e.sentinel ≠ errReuseDetected) : f' = f := by
  unfold rotate at h
  split at h
  · exact (congrArg Prod.fst h).symm
  split at h
  · exact (congrArg Prod.fst h).symm
  split at h
  · exact (congrArg Prod.fst h).symm
  split at h
  · exact (congrArg Prod.fst h).symm
  split at h
  · have he' : e = ⟨errReuseDetected, ""⟩ := (Option.some.inj (congrArg Prod.snd h)).symm
    exact absurd (congrArg Err.sentinel he') he
  split at h
  · exact (congrArg Prod.fst h).symm
  · cases h

theorem rotate_reuse (h : f.rotate presentedHash newHash ttl now nextID = (f', some e))
    (he : e.sentinel = errReuseDetected) :
    f.isRevoked = false ∧ f'.revokedAt = now ∧ f'.tokens = f.tokens ∧ f'.id = f.id := by
  unfold rotate at h
  split at h
  · cases h
    exact absurd he (by decide)
  rename_i hr
  split at h
  · cases h
    cases he
  split at h
  · cases h
    cases he
  split at h
  · cases h
    exact absurd he (by decide)
  split at h
  · obtain rfl := congrArg Prod.fst h
    exact ⟨by simpa using hr, rfl, rfl, rfl⟩
  split at h
  · cases h
    exact absurd he (by decide)
  · cases h

theorem rotate_ok (h : f.rotate presentedHash newHash ttl now nextID = (f', none)) :
    f.isRevoked = false ∧ newHash.isZero = false ∧ 0 < ttl ∧
    ∃ t, f.findToken presentedHash = some t ∧ t.isConsumed = false ∧ t.isExpired now = false ∧
    f' = { f with
          tokens := consumeToken presentedHash now nextID f.tokens ++
            [{ id := nextID, hash := newHash, generation := t.generation + 1, issuedAt := now,
               expiresAt := now + ttl }]
          lastUsedAt := now
          events := f.events ++
            [.rotated f.id f.personID f.tenantID t.id nextID (t.generation + 1) now] } := by
  unfold rotate at h
  split at h
  · cases h
  rename_i hr
  split at h
  · cases h
  rename_i hz
  split at h
  · cases h
  rename_i ht
  split at h
  · cases h
  rename_i t hf
  split at h
  · cases h
  rename_i hc
  split at h
  · cases h
  rename_i he
  refine ⟨by simpa using hr, by simpa using hz, Int.not_le.mp ht, t, hf,
    by simpa using hc, by simpa using he, (congrArg Prod.fst h).symm⟩

theorem revoke_ok {reason : String} (h : f.revoke reason now = (f', none)) :
    (f.isRevoked = true ∧ f' = f) ∨ (f.isRevoked = false ∧ f'.revokedAt = now ∧
    f'.tokens = f.tokens ∧ f'.id = f.id) := by
  unfold revoke at h
  split at h
  · cases h
  split at h
  · rename_i hr
    exact .inl ⟨hr, (congrArg Prod.fst h).symm⟩
  · rename_i hr
    obtain rfl := congrArg Prod.fst h
    exact .inr ⟨by simpa using hr, rfl, rfl, rfl⟩

end Family

end Leadkart.RefreshToken
