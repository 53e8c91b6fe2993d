import Leadkart.Common.Tenancy

/-!
# Idempotent commands over HTTP
-/

namespace Leadkart.Idempotency

open Function Effect

/-! ## Requests and responses -/

structure Request where
  (method path remoteAddr : String)
  (commandID authorization correlationID : String := "")
  body : Option (List UInt8)
  ctxTenant : Option String := none

structure Response where
  status : Nat
  headers : List (String × String) := []
  body : List UInt8 := []
  deriving DecidableEq

def Response.header (r : Response) (name : String) : String :=
  ((r.headers.find? fun h => h.1 == name).map Prod.snd).getD ""

def Response.is2xx (r : Response) : Bool := 200 ≤ r.status && r.status < 300

def replayHeader : String := "X-Idempotent-Replay"
def contentType : String := "Content-Type"
def defaultTTL : Duration := day
def maxBodyBytes : Nat := 1048576
def maxCallerIDLen : Nat := 200

def utf8 (s : String) : List UInt8 := s.toUTF8.toList

def jsonError (status : Nat) (code message : String) : Response where
  status
  headers := [(contentType, "application/json; charset=utf-8")]
  body := utf8 ("\x7b\"error\":\"" ++ code ++ "\",\"message\":\"" ++ message ++ "\"\x7d\n")

def errCodeInvalidCommandID : String := "idempotency.invalid_command_id"
def errCodeKeyReuse : String := "idempotency.key_reuse"

def errInvalid : Sentinel := ⟨.unknown, "", "idempotency: invalid"⟩
def errBodyMismatch : Sentinel :=
  ⟨.unknown, "", "idempotency: command id reused with different body"⟩

abbrev Digest := BitVec 256

structure Record where
  callerID : String
  key : UUID
  bodyHash : Digest
  responseStatus : Nat
  responseBody : List UInt8
  responseHeaders : List (String × String)
  (createdAt expiresAt : Time)
  deriving DecidableEq

abbrev Records := String × UUID → Option Record

def validateRecord (r : Record) : Except Err Unit :=
  if r.key = 0 then .error ⟨errInvalid, "nil key"⟩
  else if r.callerID = "" then .error ⟨errInvalid, "empty caller"⟩
  else if maxCallerIDLen < r.callerID.utf8ByteSize then .error ⟨errInvalid, "caller too long"⟩
  else if r.expiresAt.isZero then .error ⟨errInvalid, "ExpiresAt required"⟩
  else if r.responseStatus < 100 ∨ 599 < r.responseStatus then
    .error ⟨errInvalid, "ResponseStatus outside RFC 9110 range"⟩
  else .ok ()

def get (up : Bool) (records : Records) (now : Time) (callerID : String) (key : UUID)
    (bodyHash : Digest) : Except Err (Option Record) :=
  if callerID = "" then .error ⟨errInvalid, "caller required"⟩
  else if !up then .error (.foreign "idempotency: pg get")
  else
    match records (callerID, key) with
    | none => .ok none
    | some r =>
      if !now.before r.expiresAt then .ok none
      else if r.bodyHash ≠ bodyHash then .error ⟨errBodyMismatch, "caller " ++ callerID⟩
      else .ok (some r)

def put (up : Bool) (r : Record) (records : Records) : Except Err Records := do
  validateRecord r
  if up then .ok (Function.update records (r.callerID, r.key) (some r))
  else .error (.foreign "idempotency: pg put")

/-! ## The middleware -/

structure Lib where
  uuid : UuidCodec
  splitHostPort : String → Option String
  sha256 : List UInt8 → Digest

def sampleLib : Lib where
  uuid := unaryCodec
  splitHostPort _ := none
  sha256 body := BitVec.ofNat 256 body.length

def clientHost (lib : Lib) (r : Request) : String :=
  match lib.splitHostPort r.remoteAddr with
  | some host => if host = "" then trimSpace r.remoteAddr else host
  | none => trimSpace r.remoteAddr

def defaultCallerKeyer (lib : Lib) (r : Request) : String :=
  match r.ctxTenant.filter (· ≠ "") with
  | some id => "tenant:" ++ id
  | none => if clientHost lib r = "" then "" else "anon:" ++ clientHost lib r

structure Keyed where
  callerID : String
  key : UUID
  bodyHash : Digest
  deriving DecidableEq

def keyOf (lib : Lib) (r : Request) : Except Response (Option Keyed) :=
  if trimSpace r.commandID = "" then .ok none
  else
    match lib.uuid.parse (trimSpace r.commandID) with
    | none => .error (jsonError 400 errCodeInvalidCommandID "X-Command-Id must be a UUID")
    | some key =>
      if defaultCallerKeyer lib r = "" then
        .error (jsonError 400 errCodeInvalidCommandID
          "X-Command-Id requires an authenticated caller scope")
      else if maxCallerIDLen < (defaultCallerKeyer lib r).utf8ByteSize then
        .error (jsonError 400 errCodeInvalidCommandID "caller scope too long")
      else
        match r.body.filter fun body => body.length ≤ maxBodyBytes with
        | none =>
          .error (jsonError 413 errCodeInvalidCommandID "request body too large or unreadable")
        | some body => .ok (some ⟨defaultCallerKeyer lib r, key, lib.sha256 body⟩)

def lookup (up : Bool) (records : Records) (now : Time) (k : Keyed) :
    Except Response (Option Record) :=
  match get up records now k.callerID k.key k.bodyHash with
  | .error e =>
    if e.is errBodyMismatch then .error (jsonError 422 errCodeKeyReuse
      "X-Command-Id was previously used with a different request body")
    else .error (jsonError 500 errCodeInvalidCommandID "idempotency lookup failed")
  | .ok r => .ok (r.filter fun r => r.key ≠ 0)

def replay (r : Record) : Response where
  status := r.responseStatus
  headers := r.responseHeaders ++ [(replayHeader, "true")]
  body := r.responseBody

def recordOf (ttl : Duration) (k : Keyed) (now : Time) (resp : Response) : Record where
  callerID := k.callerID
  key := k.key
  bodyHash := k.bodyHash
  responseStatus := resp.status
  responseBody := resp.body
  responseHeaders :=
    if resp.header contentType = "" then [] else [(contentType, resp.header contentType)]
  createdAt := now
  expiresAt := now + ttl

def remember (up : Bool) (ttl : Duration) (k : Keyed) (now : Time) (resp : Response)
    (records : Records) : Records :=
  if resp.is2xx then ((put up (recordOf ttl k now resp) records).toOption).getD records
  else records

structure Draws where
  getUp : Bool := true
  getNow : Time
  putUp : Bool := true
  putNow : Time

structure World (σ : Type) where
  records : Records
  app : σ

structure Panic where

abbrev Handler (σ : Type) := Request → Effect (World σ) Panic Response

def internalServerError : Response where
  status := 500
  headers := [(contentType, "application/json; charset=utf-8")]
  body := utf8 "\x7b\"error\":\"internal_error\",\"message\":\"internal server error\"\x7d"

def recovered : Except Panic Response → Response
  | .ok resp => resp
  | .error _ => internalServerError

section

variable {σ : Type} (lib : Lib) (ttl : Duration) (d : Draws)

def execute (k : Keyed) (next : Handler σ) : Handler σ := fun r => do
  let resp ← next r
  write fun w => .ok { w with records := remember d.putUp ttl k d.putNow resp w.records }
  return resp

def middleware (next : Handler σ) : Handler σ := fun r =>
  match keyOf lib r with
  | .error resp => pure resp
  | .ok none => next r
  | .ok (some k) => do
    match ← read fun w => lookup d.getUp w.records d.getNow k with
    | .error resp => return resp
    | .ok (some rec) => return replay rec
    | .ok none => execute ttl d k next r

end

variable {lib : Lib} {ttl : Duration} {k : Keyed} {r : Request} {records : Records} {up : Bool}
  {now : Time} {resp : Response}

theorem keyOf_eq_ok (h : keyOf lib r = .ok (some k)) :
    trimSpace r.commandID ≠ "" ∧ lib.uuid.parse (trimSpace r.commandID) = some k.key ∧
    k.callerID = defaultCallerKeyer lib r ∧
    k.callerID ≠ "" ∧ k.callerID.utf8ByteSize ≤ maxCallerIDLen ∧
    ∃ body, r.body = some body ∧ k.bodyHash = lib.sha256 body := by
  unfold keyOf at h
  split at h
  · cases h
  rename_i hc
  cases hp : lib.uuid.parse (trimSpace r.commandID) with
  | none =>
    rw [hp] at h
    cases h
  | some key =>
    rw [hp] at h
    dsimp only at h
    split at h
    · cases h
    · rename_i hs
      split at h
      · cases h
      · rename_i hl
        cases hb : r.body.filter fun body => decide (body.length ≤ maxBodyBytes) with
        | none =>
          rw [hb] at h
          cases h
        | some body =>
          rw [hb] at h
          obtain rfl := Option.some.inj (Except.ok.inj h)
          exact ⟨hc, rfl, rfl, hs, Nat.le_of_not_lt hl, body,
            (Option.filter_eq_some_iff.mp hb).1, rfl⟩

variable {rec : Record}

theorem lookup_eq_some (h : lookup up records now k = .ok (some rec)) :
    records (k.callerID, k.key) = some rec ∧ rec.bodyHash = k.bodyHash := by
  unfold lookup get at h
  split at h
  · split at h <;> cases h
  · rename_i found hg
    split at hg
    · cases hg
    split at hg
    · cases hg
    cases hr : records (k.callerID, k.key) with
    | none =>
      rw [hr] at hg
      cases hg
      cases h
    | some stored =>
      rw [hr] at hg
      dsimp only at hg
      split at hg
      · cases hg
        cases h
      split at hg
      · cases hg
      · rename_i hs
        cases hg
        obtain ⟨hr', -⟩ := Option.filter_eq_some_iff.mp (Except.ok.inj h)
        cases hr'
        exact ⟨rfl, not_not.mp hs⟩

theorem lookup_eq_error (h : lookup up records now k = .error resp) : resp.is2xx = false := by
  unfold lookup at h
  split at h
  · split at h
    all_goals
      obtain rfl := Except.error.inj h
      rfl
  · cases h

theorem lookup_expired (h : ∀ rec, records (k.callerID, k.key) = some rec → rec.expiresAt ≤ now)
    (rec : Record) : lookup up records now k ≠ .ok (some rec) := by
  intro hl
  obtain ⟨hr, -⟩ := lookup_eq_some hl
  have he : ¬ now < rec.expiresAt := Int.not_lt.mpr (h rec hr)
  unfold lookup get at hl
  rw [hr] at hl
  simp only [Time.before, he, decide_false, Bool.not_false, if_true] at hl
  split at hl
  · split at hl <;> cases hl
  · rename_i found hg
    split at hg
    · cases hg
    split at hg
    · cases hg
    · cases hg
      cases hl

variable {n : Time}

theorem lookup_recordOf (hc : k.callerID ≠ "") (hk : k.key ≠ 0)
    (hr : records (k.callerID, k.key) = some (recordOf ttl k n resp)) (hl : now < n + ttl) :
    lookup true records now k = .ok (some (recordOf ttl k n resp)) := by
  have hn : ¬ k.key = 0#128 := hk
  unfold lookup get
  rw [if_neg hc, hr]
  simp [recordOf, Time.before, hl, hn, Option.filter]

theorem remember_eq (hc : k.callerID ≠ "") (hl : k.callerID.utf8ByteSize ≤ maxCallerIDLen)
    (hk : k.key ≠ 0) (hr : resp.is2xx = true) (ht : n + ttl ≠ 0) :
    remember true ttl k n resp records (k.callerID, k.key) = some (recordOf ttl k n resp) := by
  have hs : ¬ (resp.status < 100 ∨ 599 < resp.status) := by
    unfold Response.is2xx at hr
    rw [Bool.and_eq_true, decide_eq_true_iff, decide_eq_true_iff] at hr
    omega
  have hvalid : validateRecord (recordOf ttl k n resp) = .ok () := by
    have hn : ¬ k.key = 0#128 := hk
    simp [validateRecord, recordOf, hn, hc, Nat.not_lt.mpr hl, hs, Time.isZero, ht]
  unfold remember put
  rw [if_pos hr, hvalid]
  exact update_self ..

theorem remember_of_ne {key : String × UUID} (h : key ≠ (k.callerID, k.key)) :
    remember up ttl k n resp records key = records key := by
  unfold remember put
  split
  · cases validateRecord (recordOf ttl k n resp) with
    | error e => rfl
    | ok _ =>
      cases up with
      | false => rfl
      | true => exact update_of_ne h ..
  · rfl

theorem remember_cases (h : remember up ttl k n resp records (k.callerID, k.key) = some rec) :
    records (k.callerID, k.key) = some rec ∨ (resp.is2xx = true ∧ rec = recordOf ttl k n resp) := by
  unfold remember put at h
  split at h
  · rename_i hr
    cases hvalid : validateRecord (recordOf ttl k n resp) with
    | error e =>
      rw [hvalid] at h
      exact .inl h
    | ok _ =>
      rw [hvalid] at h
      cases up with
      | false => exact .inl h
      | true =>
        have hu := h
        change update records (k.callerID, k.key) _ _ = _ at hu
        rw [update_self] at hu
        exact .inr ⟨hr, (Option.some.inj hu).symm⟩
  · exact .inl h

end Leadkart.Idempotency
