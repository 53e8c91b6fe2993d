import Leadkart.Common.Idempotency
import Leadkart.Identity.Session

/-!
# The public middleware chain
-/

namespace Leadkart.Api

open List Effect Machine Idempotency

variable {σ : Type}

structure Draws where
  idempotency : Idempotency.Draws
  newCorrelationID : String
  allow : Bool
  retryAfter : Nat
  verify : String → Option Claims
  isFresh : String → String → Except Err Bool

/-! ## Middlewares -/

abbrev Middleware (σ : Type) := Idempotency.Handler σ → Idempotency.Handler σ

def chain (mws : List (Middleware σ)) : Middleware σ :=
  fun next => mws.foldr (fun mw h => mw h) next

def withHeaders (headers : List (String × String)) : Middleware σ := fun next r => do
  let resp ← next r
  return { resp with headers := resp.headers ++ headers }

def correlationIDHeader : String := "X-Correlation-ID"

def correlationIDOf (lib : Lib) (d : Draws) (r : Request) : String :=
  if (lib.uuid.parse (trimSpace r.correlationID)).isSome then trimSpace r.correlationID
  else d.newCorrelationID

def correlation (lib : Lib) (d : Draws) : Middleware σ := fun next r =>
  withHeaders [(correlationIDHeader, correlationIDOf lib d r)] next r

def securityHeaders : Middleware σ :=
  withHeaders
    [("X-Content-Type-Options", "nosniff"), ("X-Frame-Options", "DENY"),
      ("Strict-Transport-Security", "max-age=31536000; includeSubDomains"),
      ("Referrer-Policy", "no-referrer")]

def requestLog : Middleware σ := fun next => next

def recover : Middleware σ := fun next r => do
  return recovered (← attempt (next r))

def ipLimiterKeyer (lib : Lib) (r : Request) : String :=
  (lib.splitHostPort r.remoteAddr).getD (trimSpace r.remoteAddr)

def tooManyRequests (d : Draws) : Response where
  status := 429
  headers := [(contentType, "application/json; charset=utf-8"),
    ("Retry-After", toString (max d.retryAfter 1))]
  body := utf8 "\x7b\"error\":\"rate_limited\",\"message\":\"too many requests\"\x7d"

def limiterAllows (lib : Lib) (d : Draws) (r : Request) : Bool :=
  ipLimiterKeyer lib r == "" || d.allow

def rateLimit (lib : Lib) (d : Draws) : Middleware σ := fun next r =>
  if limiterAllows lib d r then next r else pure (tooManyRequests d)

def publicChain (lib : Lib) (d : Draws) : Middleware σ :=
  chain [correlation lib d, securityHeaders, requestLog, recover, rateLimit lib d,
    middleware lib defaultTTL d.idempotency]

theorem publicChain_apply (lib : Lib) (d : Draws) (next : Idempotency.Handler σ) (r : Request) :
    publicChain lib d next r =
    withHeaders [(correlationIDHeader, correlationIDOf lib d r)] (securityHeaders (recover
    (rateLimit lib d (middleware lib defaultTTL d.idempotency next)))) r := by
  simp only [publicChain, chain, foldr_cons, foldr_nil, correlation, requestLog]

def extractBearer (authorization : String) : String :=
  let scheme := "bearer ".toList
  if authorization.toList.length ≤ scheme.length then ""
  else if (authorization.toList.take scheme.length).map Char.toLower ≠ scheme then ""
  else trimSpace (String.ofList (authorization.toList.drop scheme.length))

def authenticate (d : Draws) (r : Request) : Except Failure Claims :=
  if extractBearer r.authorization = "" then
    .error ⟨401, errCodeUnauthenticated, "missing or malformed Authorization bearer header"⟩
  else
    match d.verify (extractBearer r.authorization) with
    | none => .error ⟨401, errCodeUnauthenticated, "invalid token"⟩
    | some c =>
      match requireFreshStamp (d.isFresh (trimSpace c.personID) (trimSpace c.securityStamp)) c with
      | some f => .error f
      | none => .ok c

structure Route (σ : Type) where
  gate : Option (Claims → Request → Option Failure)
  serve : Option Claims → Request → Effect σ Panic Response

abbrev Mux (σ : Type) := String → String → Option (Route σ)

def writeError (f : Failure) : Response where
  status := f.status
  headers := [(contentType, "application/json; charset=utf-8"),
    ("WWW-Authenticate", "Bearer realm=\"leadkart\"")]
  body := utf8 ("\x7b\"error\":\"" ++ f.code ++ "\",\"message\":\"" ++ f.msg ++ "\"\x7d")

def notFound : Response where
  status := 404
  headers := [(contentType, "text/plain; charset=utf-8")]
  body := utf8 "404 page not found\n"

def callerOf (mux : Mux σ) (d : Draws) (r : Request) : Except Failure (Option Claims) :=
  match (mux r.method r.path).bind Route.gate with
  | none => .ok none
  | some _ => (authenticate d r).map some

def newServer (mux : Mux σ) (d : Draws) : Idempotency.Handler σ := fun r =>
  match mux r.method r.path with
  | none => pure notFound
  | some route =>
    zoom World.app (fun a w => { w with app := a }) <|
      match route.gate with
      | none => route.serve none r
      | some check =>
        match authenticate d r with
        | .error f => pure (writeError f)
        | .ok c =>
          match check c r with
          | some f => pure (writeError f)
          | none => route.serve (some c) { r with ctxTenant := some c.tenantID }

def arriving (r : Request) : Request := { r with ctxTenant := none }

structure Exchange where
  draws : Draws
  request : Request
  response : Response

structure Host (σ : Type) where
  world : World σ
  log : List Exchange

def serve (lib : Lib) (mux : Mux σ) (d : Draws) (r : Request) : Effect (World σ) Panic Response :=
  publicChain lib d (newServer mux d) (arriving r)

def step (lib : Lib) (mux : Mux σ) (st : Host σ) (q : Draws × Request) : Option (Host σ) :=
  let out := (serve lib mux q.1 q.2).run st.world
  some ⟨out.2, st.log ++ [⟨q.1, q.2, recovered out.1⟩]⟩

def answeredFrom (lib : Lib) (records : Records) (d : Draws) (r : Request) : Option Record :=
  if limiterAllows lib d (arriving r) then
    match keyOf lib (arriving r) with
    | .ok (some k) =>
      ((lookup d.idempotency.getUp records d.idempotency.getNow k).toOption).join
    | _ => none
  else none

section

variable {lib : Lib} {d : Draws} {r : Request} {mux : Mux σ} {next : Idempotency.Handler σ}

def Stores (lib : Lib) (h : Idempotency.Handler σ) (r : Request) : Prop :=
  ∀ w key rec, ((h r).run w).2.records key = some rec → w.records key = some rec ∨
    ∃ k resp, ((h r).run w).1 = .ok resp ∧ keyOf lib r = .ok (some k) ∧
      key = (k.callerID, k.key) ∧ rec.bodyHash = k.bodyHash ∧
      rec.responseStatus = resp.status ∧ rec.responseBody = resp.body

theorem newServer_records (mux : Mux σ) (d : Draws) (r : Request) (w : World σ) :
    ((newServer mux d r).run w).2.records = w.records := by
  unfold newServer
  cases mux r.method r.path with
  | none => rfl
  | some route => rfl

theorem stores_middleware {ttl : Duration} {id : Idempotency.Draws}
    (hn : ∀ w, ((next r).run w).2.records = w.records) :
    Stores lib (middleware lib ttl id next) r := by
  intro w key rec hr
  unfold middleware at hr ⊢
  cases hke : keyOf lib r with
  | error resp =>
    rw [hke] at hr
    exact .inl hr
  | ok admitted =>
    rw [hke] at hr
    cases admitted with
    | none =>
      rw [show ((next r).run w).2.records = w.records from hn w] at hr
      exact .inl hr
    | some k =>
      dsimp only at hr ⊢
      rw [bind_apply, read_apply] at hr ⊢
      dsimp only at hr ⊢
      cases hl : lookup id.getUp w.records id.getNow k with
      | error resp =>
        rw [hl] at hr
        exact .inl hr
      | ok found =>
        rw [hl] at hr
        cases found with
        | some stored => exact .inl hr
        | none =>
          dsimp only at hr ⊢
          unfold Idempotency.execute at hr ⊢
          rw [bind_apply] at hr ⊢
          have hk := hn w
          cases hru : (next r).run w with
          | mk result w₁ =>
            rw [hru] at hr hk
            cases result with
            | error p => exact .inl (hk ▸ hr)
            | ok resp =>
              change remember id.putUp ttl k id.putNow resp w₁.records key = some rec at hr
              rw [hk] at hr
              by_cases hky : key = (k.callerID, k.key)
              · subst hky
                rcases remember_cases hr with hold | ⟨-, rfl⟩
                · exact .inl hold
                · exact .inr ⟨k, resp, rfl, rfl, rfl, rfl, rfl, rfl⟩
              · rw [remember_of_ne hky] at hr
                exact .inl hr

theorem stores_withHeaders {headers : List (String × String)} (h : Stores lib next r) :
    Stores lib (withHeaders headers next) r := by
  intro w key rec hre
  have hn := h w key rec
  unfold withHeaders at hre ⊢
  rw [bind_apply] at hre ⊢
  cases hru : (next r).run w with
  | mk result w₁ =>
    rw [hru] at hre hn
    cases result with
    | error p => exact hn hre
    | ok resp =>
      refine (hn hre).imp_right ?_
      rintro ⟨k, resp', hr, hk, hke, hh, hs, hb⟩
      cases hr
      exact ⟨k, _, rfl, hk, hke, hh, hs, hb⟩

theorem stores_recover (h : Stores lib next r) : Stores lib (recover next) r := by
  intro w key rec hrc
  refine (h w key rec hrc).imp_right ?_
  rintro ⟨k, resp, hr, hre⟩
  refine ⟨k, resp, ?_, hre⟩
  show Except.ok (recovered ((next r).run w).1) = .ok resp
  rw [hr]
  rfl

theorem stores_rateLimit (h : Stores lib next r) : Stores lib (rateLimit lib d next) r := by
  unfold Stores rateLimit
  split
  · exact h
  · exact fun w key rec hr => .inl hr

theorem stores_publicChain (mux : Mux σ) (d : Draws) (r : Request) :
    Stores lib (publicChain lib d (newServer mux d)) r := by
  have hr : Stores lib (recover (rateLimit lib d (middleware lib defaultTTL d.idempotency
      (newServer mux d)))) r :=
    stores_recover (stores_rateLimit (stores_middleware (newServer_records mux d r)))
  intro w
  rw [publicChain_apply]
  exact stores_withHeaders (stores_withHeaders hr) w

end

section

variable {lib : Lib} {mux : Mux σ} {d : Draws} {r : Request} {st st' : Host σ} {rec : Record}

def principal (mux : Mux σ) (d : Draws) (r : Request) : Except Failure (Option (String × String)) :=
  (callerOf mux d r).map fun c => c.map fun c => (c.tenantID, c.membershipID)

def Separate (lib : Lib) (mux : Mux σ) (st : Host σ) (q : Draws × Request) : Prop :=
  trimSpace q.2.commandID ≠ "" →
    (∃ c, callerOf mux q.1 q.2 = .ok c) ∧
    ∀ e ∈ st.log, clientHost lib e.request = clientHost lib q.2 →
      lib.uuid.parse (trimSpace e.request.commandID) =
        lib.uuid.parse (trimSpace q.2.commandID) →
      principal mux e.draws e.request = principal mux q.1 q.2 ∧
      e.request.method = q.2.method ∧ e.request.path = q.2.path ∧
      ∀ b b', e.request.body = some b → q.2.body = some b' → lib.sha256 b = lib.sha256 b' → b = b'

def Host.start (app : σ) : Host σ := ⟨⟨fun _ => none, app⟩, []⟩

def Provenance (lib : Lib) (st : Host σ) : Prop :=
  ∀ key rec, st.world.records key = some rec → ∃ e ∈ st.log, ∃ k,
    keyOf lib (arriving e.request) = .ok (some k) ∧ key = (k.callerID, k.key) ∧
    rec.bodyHash = k.bodyHash ∧ e.response.status = rec.responseStatus ∧
    e.response.body = rec.responseBody

theorem provenance_start (app : σ) : Provenance lib (Host.start app) :=
  fun _ _ hr => nomatch hr

theorem Provenance.step {q : Draws × Request} (h : Provenance lib st)
    (hst : Api.step lib mux st q = some st') : Provenance lib st' := by
  cases hst
  intro key rec hrc
  rcases stores_publicChain mux q.1 (arriving q.2) st.world key rec hrc with
    hold | ⟨k, resp, hr, hk, hke, hh, hs, hb⟩
  · obtain ⟨e, he, hre⟩ := h key rec hold
    exact ⟨e, mem_append_left _ he, hre⟩
  · refine ⟨_, mem_append_right _ (mem_singleton_self _), k, hk, hke, hh, ?_, ?_⟩
    · show (recovered ((serve lib mux q.1 q.2).run st.world).1).status = _
      rw [show ((serve lib mux q.1 q.2).run st.world).1 = .ok resp from hr]
      exact hs.symm
    · show (recovered ((serve lib mux q.1 q.2).run st.world).1).body = _
      rw [show ((serve lib mux q.1 q.2).run st.world).1 = .ok resp from hr]
      exact hb.symm

theorem clientHost_of_scope {r' : Request}
    (h : defaultCallerKeyer lib (arriving r) = defaultCallerKeyer lib (arriving r'))
    (hne : defaultCallerKeyer lib (arriving r) ≠ "") : clientHost lib r = clientHost lib r' := by
  have hs : ∀ r : Request, defaultCallerKeyer lib (arriving r) =
      if clientHost lib r = "" then "" else "anon:" ++ clientHost lib r := fun _ => rfl
  rw [hs] at hne
  rw [hs, hs] at h
  by_cases hr : clientHost lib r = ""
  · exact absurd (if_pos hr) hne
  by_cases hr' : clientHost lib r' = ""
  · rw [if_neg hr, if_pos hr'] at h
    exact absurd ((if_neg hr).trans h) hne
  · rw [if_neg hr, if_neg hr'] at h
    have hl := congrArg String.toList h
    rw [String.toList_append, String.toList_append] at hl
    exact String.toList_inj.mp (append_cancel_left hl)

theorem answeredFrom_eq_some (h : answeredFrom lib st.world.records d r = some rec) :
    limiterAllows lib d (arriving r) = true ∧ ∃ k, keyOf lib (arriving r) = .ok (some k) ∧
    lookup d.idempotency.getUp st.world.records d.idempotency.getNow k = .ok (some rec) := by
  unfold answeredFrom at h
  split at h
  · rename_i ha
    refine ⟨ha, ?_⟩
    split at h
    · rename_i k hk
      refine ⟨k, hk, ?_⟩
      exact except_toOption.mp (Option.join_eq_some_iff.mp h)
    · cases h
  · cases h

theorem serve_answeredFrom (mux : Mux σ) (h : answeredFrom lib st.world.records d r = some rec) :
    ∃ resp, (serve lib mux d r).run st.world = (.ok resp, st.world) ∧
    resp.status = rec.responseStatus ∧ resp.body = rec.responseBody := by
  obtain ⟨ha, k, hk, hl⟩ := answeredFrom_eq_some h
  have hm : (middleware lib defaultTTL d.idempotency (newServer mux d) (arriving r)).run
      st.world = (.ok (replay rec), st.world) := by
    unfold middleware
    rw [hk]
    rw [bind_apply, read_apply, hl]
    rfl
  have hli : (rateLimit lib d (middleware lib defaultTTL d.idempotency (newServer mux d))
      (arriving r)).run st.world = (.ok (replay rec), st.world) := by
    unfold rateLimit
    rw [if_pos ha]
    exact hm
  have hr : (recover (rateLimit lib d (middleware lib defaultTTL d.idempotency
      (newServer mux d))) (arriving r)).run st.world = (.ok (replay rec), st.world) := by
    show (attempt _ >>= _).run st.world = _
    rw [bind_apply, attempt_apply, hli]
    rfl
  have hh : ∀ (headers : List (String × String)) {next : Idempotency.Handler σ} {resp : Response},
      (next (arriving r)).run st.world = (.ok resp, st.world) →
      (withHeaders headers next (arriving r)).run st.world =
        (.ok { resp with headers := resp.headers ++ headers }, st.world) := by
    intro headers next resp hn
    unfold withHeaders
    rw [bind_ok hn]
    rfl
  unfold serve
  rw [publicChain_apply]
  exact ⟨_, hh _ (hh _ hr), rfl, rfl⟩

theorem replay_within_operation {app : σ} {qs : List (Draws × Request)}
    (hsep : Along (step lib mux) (Separate lib mux) (Host.start app) (qs ++ [(d, r)]))
    (hr : run (step lib mux) (Host.start app) qs = some st)
    (hrec : answeredFrom lib st.world.records d r = some rec) :
    (∃ resp, (serve lib mux d r).run st.world = (.ok resp, st.world) ∧
    resp.status = rec.responseStatus ∧ resp.body = rec.responseBody) ∧
    (∃ c, callerOf mux d r = .ok c) ∧
    ∃ e ∈ st.log, e.response.status = rec.responseStatus ∧ e.response.body = rec.responseBody ∧
    principal mux e.draws e.request = principal mux d r ∧
    e.request.method = r.method ∧ e.request.path = r.path ∧ e.request.body = r.body := by
  have hpv : Provenance lib st :=
    run_keeps (provenance_start app) (fun _ _ _ h hsp => h.step hsp) hr
  have hla : Separate lib mux st (d, r) := (hsep.append_right hr).1
  obtain ⟨-, k, hk, hl⟩ := answeredFrom_eq_some hrec
  obtain ⟨hst, hh⟩ := lookup_eq_some hl
  obtain ⟨hco, hp, hs, hne, -, body, hbo, hb⟩ := keyOf_eq_ok hk
  obtain ⟨e, he, k', hk', hke, hh', hes, heb⟩ := hpv _ _ hst
  obtain ⟨-, hp', hs', -, -, body', hbo', hb'⟩ := keyOf_eq_ok hk'
  obtain ⟨hc, hid⟩ := Prod.mk.inj hke
  obtain ⟨hpa, hea⟩ := hla hco
  have hho : clientHost lib e.request = clientHost lib r := by
    refine clientHost_of_scope ?_ ?_
    · rw [← hs', ← hs, hc]
    · rw [← hs', ← hc]
      exact hne
  have hsa : lib.uuid.parse (trimSpace e.request.commandID) =
      lib.uuid.parse (trimSpace r.commandID) := by
    rw [show lib.uuid.parse (trimSpace e.request.commandID) = some k'.key from hp',
      show lib.uuid.parse (trimSpace r.commandID) = some k.key from hp, hid]
  obtain ⟨hpr, hm, hph, hce⟩ := hea e he hho hsa
  have hsu : lib.sha256 body' = lib.sha256 body := by
    rw [← hb', ← hb, ← hh', hh]
  have hse : body' = body := hce body' body hbo' hbo hsu
  refine ⟨serve_answeredFrom mux hrec, hpa, e, he, hes, heb, hpr, hm, hph, ?_⟩
  rw [show e.request.body = some body' from hbo', show r.body = some body from hbo, hse]

end

def sampleClaims (tenantID membershipID : String) : Claims where
  personID := "p-" ++ membershipID
  tenantID
  tenantSlug := tenantID
  membershipID
  securityStamp := "s1"
  isPlatform := false
  isSuperUser := false
  permissions := ["inventory.stock.manage"]
  issuedAt := 0
  expiresAt := 1000

def sampleDraws (time : Time) : Draws where
  idempotency := { getNow := time, putNow := time }
  newCorrelationID := "xxxxxx"
  allow := true
  retryAfter := 1
  verify token :=
    if token = "asha" then some (sampleClaims "acme" "asha")
    else if token = "bela" then some (sampleClaims "birch" "bela")
    else none
  isFresh _ _ := .ok true

def sampleGate (c : Claims) (_ : Request) : Option Failure :=
  if c.isSuperUser || "inventory.stock.manage" ∈ c.permissions then none
  else some ⟨403, errCodeForbidden, "missing permission: inventory.stock.manage"⟩

def sampleMux : Mux Nat := fun method path =>
  if (method, path) ∈ [("POST", "/movements"), ("DELETE", "/products")] then
    some
      { gate := some sampleGate
        serve := fun _ _ => ⟨fun n => (.ok ⟨201, [(contentType, "application/json")], [7]⟩, n + 1)⟩ }
  else none

def sampleFirst : Request where
  method := "POST"
  path := "/movements"
  remoteAddr := "192.0.2.7"
  commandID := "xxxx"
  authorization := "Bearer asha"
  body := some []

def sampleIntruder : Request where
  method := "DELETE"
  path := "/products"
  remoteAddr := "192.0.2.7"
  commandID := "xxxx"
  body := some []

def sampleRecord : Record :=
  recordOf defaultTTL ⟨"anon:192.0.2.7", 3, 0⟩ 10 ⟨201, [(contentType, "application/json")], [7]⟩

def sampleHost : Host Nat :=
  let out := (serve sampleLib sampleMux (sampleDraws 10) sampleFirst).run (Host.start 0).world
  ⟨out.2, [⟨sampleDraws 10, sampleFirst, recovered out.1⟩]⟩

theorem retry_of_caller_is_replayed :
    run (step sampleLib sampleMux) (Host.start 0) [(sampleDraws 10, sampleFirst)] =
    some sampleHost ∧ answeredFrom sampleLib sampleHost.world.records (sampleDraws 20) sampleFirst =
    some sampleRecord ∧ ∃ e ∈ sampleHost.log, e.response.body = sampleRecord.responseBody ∧
    principal sampleMux e.draws e.request = principal sampleMux (sampleDraws 20) sampleFirst := by
  have hr : run (step sampleLib sampleMux) (Host.start 0) [(sampleDraws 10, sampleFirst)] =
      some sampleHost := rfl
  have hrc : answeredFrom sampleLib sampleHost.world.records (sampleDraws 20) sampleFirst =
      some sampleRecord := by decide +kernel
  have hc₁ : callerOf sampleMux (sampleDraws 10) sampleFirst =
      .ok (some (sampleClaims "acme" "asha")) := by decide +kernel
  have hc₂ : callerOf sampleMux (sampleDraws 20) sampleFirst =
      .ok (some (sampleClaims "acme" "asha")) := by decide +kernel
  have hf : Separate sampleLib sampleMux (Host.start 0) (sampleDraws 10, sampleFirst) :=
    fun _ => ⟨⟨_, hc₁⟩, fun _ he => nomatch he⟩
  have hre : Separate sampleLib sampleMux sampleHost (sampleDraws 20, sampleFirst) := by
    refine fun _ => ⟨⟨_, hc₂⟩, fun e he _ _ => ?_⟩
    obtain rfl := mem_singleton.mp he
    refine ⟨?_, rfl, rfl, fun b b' hb hb' _ => Option.some.inj (hb.symm.trans hb')⟩
    unfold principal
    rw [hc₁, hc₂]
  have hs : Along (step sampleLib sampleMux) (Separate sampleLib sampleMux) (Host.start 0)
      ([(sampleDraws 10, sampleFirst)] ++ [(sampleDraws 20, sampleFirst)]) := ⟨hf, hre, trivial⟩
  obtain ⟨-, -, e, he, -, hbo, hp, -⟩ := replay_within_operation hs hr hrc
  exact ⟨hr, hrc, e, he, hbo, hp⟩

theorem replay_without_authentication :
    run (step sampleLib sampleMux) (Host.start 0) [(sampleDraws 10, sampleFirst)] =
    some sampleHost ∧
    answeredFrom sampleLib sampleHost.world.records (sampleDraws 20) sampleIntruder =
    some sampleRecord ∧ callerOf sampleMux (sampleDraws 20) sampleIntruder =
    .error ⟨401, errCodeUnauthenticated, "missing or malformed Authorization bearer header"⟩ ∧
    ∀ e ∈ sampleHost.log, e.request.method ≠ sampleIntruder.method ∧
    e.request.path ≠ sampleIntruder.path := by
  refine ⟨rfl, by decide +kernel, by decide +kernel, fun e he => ?_⟩
  obtain rfl := mem_singleton.mp he
  exact ⟨by decide, by decide⟩

end Leadkart.Api
