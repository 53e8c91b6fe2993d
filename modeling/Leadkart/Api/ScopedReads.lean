import Leadkart.Common.Tenancy
import Leadkart.Identity.Session
import Leadkart.Logic.Keyset

/-!
# Reads in the scope of the caller
-/

namespace Leadkart.Api

open Effect

/-! ## Requests -/

structure Parsers where
  uuid : UuidCodec
  decode : String → Except Err Cursor
  atoi : String → Option Int
  rfc3339 : String → Option Time

abbrev Params := String → List String

namespace Params

def get (params : Params) (name : String) : String := (params name).headD ""

def text (params : Params) (name : String) : String := trimSpace (params.get name)

def optional {α : Type} (params : Params) (name : String) (parse : String → Except Err α) :
    Except Err (Option α) :=
  if params.text name = "" then .ok none else (parse (params.text name)).map some

def idText (params : Params) (codec : UuidCodec) (name : String) : Except Err String :=
  if params.text name = "" then .ok ""
  else
    match codec.parse (params.text name) with
    | none => .error (.foreign (name ++ " must be a UUID"))
    | some _ => .ok (params.text name)

end Params

def pageSizeOf (p : Parsers) (params : Params) : Int :=
  if params.text "page_size" = "" then 0 else (p.atoi (params.text "page_size")).getD 0

def queryFailed : Failure := ⟨500, "internal_error", ""⟩

def requirePermission (permName : String) (c : Claims) : Except Failure Unit :=
  if c.isSuperUser || permName ∈ c.permissions then .ok ()
  else .error ⟨403, errCodeForbidden, "missing permission: " ++ permName⟩

def tenantFromContext (c : Claims) : Except Failure String :=
  if c.tenantID = "" then .error ⟨401, errCodeUnauthenticated, ""⟩ else .ok c.tenantID

def selfFilterOf (readAll : String) (c : Claims) : String :=
  if !c.isSuperUser && !c.isPlatform && readAll ∉ c.permissions then c.membershipID else ""

def refuseProbe (readAll selfFilter assignee : String) : Except Failure Unit :=
  if selfFilter ≠ "" ∧ assignee ≠ "" ∧ assignee ≠ selfFilter then
    .error ⟨403, errCodeForbidden,
      "caller lacks " ++ readAll ++ "; ?assignee must equal the caller's own membership"⟩
  else .ok ()

structure ListQuery (φ : Type) where
  tenantID : String
  cursor : Cursor
  pageSize : Int
  filter : φ
  selfFilter : String

structure ListPolicy where
  (read readAll invalidFilter : String)

section

variable {φ : Type} (p : Parsers)

def listQuery (policy : ListPolicy) (parseListFilter : Params → Except Err φ)
    (assignee : φ → String) (c : Claims) (params : Params) : Except Failure (ListQuery φ) := do
  requirePermission policy.read c
  let tenantID ← tenantFromContext c
  let cursor ← (p.decode (params.get "cursor")).mapError fun e => ⟨400, "invalid_cursor", e.detail⟩
  let filter ← (parseListFilter params).mapError fun e => ⟨400, policy.invalidFilter, e.detail⟩
  refuseProbe policy.readAll (selfFilterOf policy.readAll c) (assignee filter)
  return ⟨tenantID, cursor, pageSizeOf p params, filter, selfFilterOf policy.readAll c⟩

def getQuery (read invalidID message : String) (c : Claims) (raw : String) :
    Except Failure String := do
  requirePermission read c
  let _ ← tenantFromContext c
  match p.uuid.parse raw with
  | none => .error ⟨400, invalidID, message⟩
  | some _ => return raw

end

def hydratePage {ρ α : Type} (hydrate : ρ → Except Err α) (cursorOf : α → Cursor) (n : Nat)
    (rows : List ρ) : Except Err (Page α) := do
  let hasMore := decide (n < rows.length)
  let items ← (rows.take n).mapM hydrate
  let next := if hasMore then items.getLast?.map cursorOf else none
  return ⟨items, hasMore, next⟩

def pageResponse {ρ α κ : Type} (hydrate : ρ → Except Err α) (cursorOf : α → Cursor)
    (query : Except Failure κ) (size : κ → Nat) (rowsOf : κ → List ρ) : Except Failure (Page α) :=
  query >>= fun q => (hydratePage hydrate cursorOf (size q) (rowsOf q)).mapError fun _ => queryFailed

section Pages

variable {ρ α : Type} {hydrate : ρ → Except Err α} {cursorOf : α → Cursor} {n : Nat} {rows : List ρ}

theorem hydratePage_items {page : Page α} (h : hydratePage hydrate cursorOf n rows = .ok page) :
    (rows.take n).mapM hydrate = .ok page.items := by
  obtain ⟨items, hitems, h⟩ := except_bind_ok h
  cases h
  exact hitems

theorem hydratePage_ok (h : ∀ r ∈ rows, ∃ a, hydrate r = .ok a) :
    ∃ page, hydratePage hydrate cursorOf n rows = .ok page := by
  obtain ⟨items, hitems⟩ := except_mapM_ok (f := hydrate) (l := rows.take n)
    fun r hr => h r (List.mem_of_mem_take hr)
  unfold hydratePage
  rw [hitems]
  exact ⟨_, rfl⟩

variable {κ : Type} {query : Except Failure κ} {size : κ → Nat} {rowsOf : κ → List ρ}

theorem pageResponse_congr {rowsOf' : κ → List ρ} (h : ∀ q, query = .ok q → rowsOf q = rowsOf' q) :
    pageResponse hydrate cursorOf query size rowsOf =
    pageResponse hydrate cursorOf query size rowsOf' := by
  cases query with
  | error f => rfl
  | ok q =>
    show Except.mapError _ (hydratePage _ _ _ (rowsOf q)) = _
    rw [h q rfl]
    rfl

end Pages

structure Caller (codec : UuidCodec) where
  claims : Claims
  tenant : UUID
  parse_tenant : codec.parse claims.tenantID = some tenant
  input_tenant : codec.input claims.tenantID = some tenant

structure Restricted (readAll : String) (c : Claims) : Prop where
  superUser : c.isSuperUser = false
  platform : c.isPlatform = false
  readAll : readAll ∉ c.permissions

theorem Restricted.selfFilterOf_eq {readAll : String} {c : Claims} (h : Restricted readAll c) :
    selfFilterOf readAll c = c.membershipID := by
  unfold selfFilterOf
  rw [if_pos]
  simp [h.superUser, h.platform, h.readAll]

def Mine (codec : UuidCodec) (me : Option UUID) (assignee : String) : Prop :=
  ∃ u, me = some u ∧ codec.parse assignee = some u

variable {φ : Type} {p : Parsers} {c : Claims}

theorem listQuery_eq_ok {policy : ListPolicy} {parseListFilter : Params → Except Err φ}
    {a : φ → String} {pa : Params} {q : ListQuery φ}
    (h : listQuery p policy parseListFilter a c pa = .ok q) :
    q.tenantID = c.tenantID ∧ q.selfFilter = selfFilterOf policy.readAll c := by
  simp only [listQuery, except_bind_eq_ok] at h
  obtain ⟨_, -, tenantID, ht, _, -, _, -, _, -, h⟩ := h
  cases h
  refine ⟨?_, rfl⟩
  unfold tenantFromContext at ht
  split at ht
  · cases ht
  · exact (Except.ok.inj ht).symm

theorem getQuery_eq_ok {read i m raw id : String} (h : getQuery p read i m c raw = .ok id) :
    id = raw ∧ ∃ u, p.uuid.parse raw = some u := by
  obtain ⟨_, -, h⟩ := except_bind_ok h
  obtain ⟨_, -, h⟩ := except_bind_ok h
  split at h
  · cases h
  next u hu => exact ⟨(Except.ok.inj h).symm, u, hu⟩

/-! ## What a caller sees -/

/-- A read model: the tenant and the member a row belongs to, and what it hydrates to. -/
structure View (p : Parsers) (ρ α : Type) where
  hydrate : ρ → Except Err α
  tenantOf : ρ → UUID
  owner : ρ → Option UUID
  ownerText : α → String
  me : Claims → Option UUID
  ownerText_eq : ∀ r a, hydrate r = .ok a → ownerText a = p.uuid.uuidStringIfValid (owner r)

def pageSizeFor (q : ListQuery φ) : Nat := clampPageSize (clampPageSize q.pageSize)

namespace View

variable {ρ α : Type} {Clash : ρ → ρ → Prop} (v : View p ρ α) (caller : Caller p.uuid)
  (query : Except Failure (ListQuery φ)) (shows : ListQuery φ → ρ → Bool) (le : ρ → ρ → Bool)

def IsMine (c : Claims) (a : α) : Prop := Mine p.uuid (v.me c) (v.ownerText a)

def Owned (r : ρ) : Prop :=
  v.tenantOf r = caller.tenant ∧ ∃ u, v.me caller.claims = some u ∧ v.owner r = some u

def Agree (t t' : Table ρ Clash) : Prop := ∀ r, v.Owned caller r → (r ∈ t ↔ r ∈ t')

def fetched (T : UUID) (t : Table ρ Clash) (q : ListQuery φ) : List ρ :=
  ((t.rows.filter fun r => decide (v.tenantOf r = T) && shows q r).mergeSort le).take
    (pageSizeFor q + 1)

/-- The caller has a membership to filter by, or the list has nothing to show. -/
def ListScoped (t : Table ρ Clash) : Prop :=
  ∀ q, query = .ok q → (v.me caller.claims).isSome = true ∨
    ∀ r ∈ t, v.tenantOf r = caller.tenant → shows q r = false

def GetScoped (query : Except Failure String) (hasID : UUID → ρ → Bool) (t : Table ρ Clash) :
    Prop :=
  ∀ id u, query = .ok id → p.uuid.parse id = some u → ∀ r, t.find? (hasID u) = some r →
    v.Owned caller r

def getResponse (failure : Err → Failure) (missing : Failure) (query : Except Failure String)
    (find : UUID → Option ρ) : Except Failure α :=
  query >>= fun id =>
    match (p.uuid.parse id).bind find with
    | some r => (v.hydrate r).mapError failure
    | none => .error missing

variable {v caller query shows le} {t t' : Table ρ Clash} {cursorOf : α → Cursor} {q : ListQuery φ}

theorem isMine_iff (hc : p.uuid.Lawful) {c : Claims} {r : ρ} {a : α} (h : v.hydrate r = .ok a) :
    v.IsMine c a ↔ ∃ u, v.me c = some u ∧ v.owner r = some u := by
  unfold IsMine Mine
  rw [v.ownerText_eq r a h, hc.parse_uuidStringIfValid]

theorem mem_fetched {T : UUID} {r : ρ} (h : r ∈ v.fetched shows le T t q) :
    r ∈ t ∧ v.tenantOf r = T ∧ shows q r = true := by
  have hf := List.mem_filter.mp (List.mem_mergeSort.mp (List.mem_of_mem_take h))
  rw [Bool.and_eq_true, decide_eq_true_iff] at hf
  exact hf

theorem fetched_eq_nil {T : UUID} : v.fetched shows le T t q = [] ↔
    ∀ r ∈ t, v.tenantOf r = T → shows q r = false := by
  unfold fetched
  rw [List.take_eq_nil_iff, or_iff_right (Nat.succ_ne_zero _), List.eq_nil_iff_forall_not_mem]
  simp only [List.mem_mergeSort, List.mem_filter, Bool.and_eq_true, decide_eq_true_iff,
    ← Bool.not_eq_true, not_and]
  exact Iff.rfl

section Listed

variable (hself : ∀ q, query = .ok q → ∀ u, v.me caller.claims = some u → ∀ r, shows q r = true →
  v.owner r = some u)

include hself

theorem pageResponse_confined (hlaw : p.uuid.Lawful) (hh : ∀ r ∈ t, ∃ a, v.hydrate r = .ok a) :
    (∀ page, pageResponse v.hydrate cursorOf query pageSizeFor
    (v.fetched shows le caller.tenant t) = .ok page →
    ∀ a ∈ page.items, v.IsMine caller.claims a) ↔ v.ListScoped caller query shows t := by
  constructor
  · rintro hco q rfl
    by_contra hc
    obtain ⟨hno, hne⟩ := not_or.mp hc
    obtain ⟨r, rows, hro⟩ := List.exists_cons_of_ne_nil (mt fetched_eq_nil.mp hne)
    obtain ⟨page, hp⟩ : ∃ page, hydratePage v.hydrate cursorOf (pageSizeFor q)
        (v.fetched shows le caller.tenant t q) = .ok page :=
      hydratePage_ok fun r hr => hh r (mem_fetched hr).1
    have hf : r ∈ (v.fetched shows le caller.tenant t q).take (pageSizeFor q) := by
      have hone : 1 ≤ pageSizeFor q := (clampPageSize_bounds _).1
      obtain ⟨m, hm⟩ := Nat.exists_eq_add_of_le' hone
      rw [hro, hm]
      exact List.mem_cons_self ..
    obtain ⟨a, ha, -⟩ := (except_mapM_mem (hydratePage_items hp)).1 r hf
    have hr : pageResponse v.hydrate cursorOf (.ok q) pageSizeFor
        (v.fetched shows le caller.tenant t) = .ok page := by
      show Except.mapError _ (hydratePage ..) = _
      rw [hp]
      rfl
    obtain ⟨u, hu, -⟩ := hco page hr a ha
    exact hno (Option.isSome_iff_exists.mpr ⟨u, hu⟩)
  · intro hc page hp a ha
    obtain ⟨q, hq, hp⟩ := except_bind_ok hp
    obtain ⟨r, hr, hh⟩ := (except_mapM_mem (hydratePage_items (except_mapError_ok hp))).2 a ha
    have hr : r ∈ v.fetched shows le caller.tenant t q := List.mem_of_mem_take hr
    rcases hc q hq with hs | he
    · obtain ⟨u, hu⟩ := Option.isSome_iff_exists.mp hs
      exact (isMine_iff hlaw hh).mpr ⟨u, hu, hself q hq u hu r (mem_fetched hr).2.2⟩
    · rw [fetched_eq_nil.mpr he] at hr
      cases hr

theorem pageResponse_agree [Std.Refl Clash] {κ : Type} [LinearOrder κ] {key : ρ → κ}
    (hle : ∀ a b, le a b = true ↔ key b ≤ key a)
    (hkey : ∀ a b, v.tenantOf a = v.tenantOf b → key a = key b → Clash a b)
    (ha : v.Agree caller t t') (h : v.ListScoped caller query shows t)
    (h' : v.ListScoped caller query shows t') :
    pageResponse v.hydrate cursorOf query pageSizeFor (v.fetched shows le caller.tenant t) =
    pageResponse v.hydrate cursorOf query pageSizeFor (v.fetched shows le caller.tenant t') := by
  refine pageResponse_congr fun q hq => ?_
  cases hme : v.me caller.claims with
  | none =>
    have hnone : ¬ (v.me caller.claims).isSome = true := by simp [hme]
    rw [fetched_eq_nil.mpr ((h q hq).resolve_left hnone),
      fetched_eq_nil.mpr ((h' q hq).resolve_left hnone)]
  | some u =>
    have hr : ∀ r, (decide (v.tenantOf r = caller.tenant) && shows q r) = true →
        v.tenantOf r = caller.tenant ∧ shows q r = true := by
      intro r hr
      rwa [Bool.and_eq_true, decide_eq_true_iff] at hr
    refine congrArg (List.take _) (Keyset.mergeSort_eq_of_perm hle ?_
      (Table.filter_perm fun r hc => ?_))
    · refine List.pairwise_map.mpr (List.Pairwise.imp_of_mem ?_ (t.unique.filter _))
      intro a b hma hmb hc heq
      have hta := (hr a (List.mem_filter.mp hma).2).1
      have htb := (hr b (List.mem_filter.mp hmb).2).1
      exact hc (hkey a b (hta.trans htb.symm) heq)
    · obtain ⟨hT, hs⟩ := hr r hc
      exact ha r ⟨hT, u, hme, hself q hq u hme r hs⟩

end Listed

theorem listScoped_of_owned (h : ∀ r ∈ t, v.Owned caller r) : v.ListScoped caller query shows t := by
  intro q _
  by_cases he : t.rows = []
  · refine .inr fun r hr => ?_
    rw [← Table.mem_rows, he] at hr
    cases hr
  · obtain ⟨r, hr⟩ := List.exists_mem_of_ne_nil _ he
    obtain ⟨-, u, hu, -⟩ := h r hr
    exact .inl (Option.isSome_iff_exists.mpr ⟨u, hu⟩)

variable {idQuery : Except Failure String} {hasID : UUID → ρ → Bool} {failure : Err → Failure}
  {missing : Failure}

theorem getScoped_of_owned (h : ∀ r ∈ t, v.Owned caller r) : v.GetScoped caller idQuery hasID t :=
  fun _ _ _ _ r hr => h r (Table.mem_of_find? hr).1

theorem getResponse_ok {id : String} {u : UUID} (hu : p.uuid.parse id = some u)
    {find : UUID → Option ρ} : v.getResponse failure missing (.ok id) find =
    match find u with
    | some r => (v.hydrate r).mapError failure
    | none => .error missing := by
  show (match (p.uuid.parse id).bind find with
    | some r => (v.hydrate r).mapError failure
    | none => .error missing) = _
  rw [hu]
  rfl

theorem getResponse_confined (hc : p.uuid.Lawful) (hh : ∀ r ∈ t, ∃ a, v.hydrate r = .ok a)
    (hT : ∀ u r, hasID u r = true → v.tenantOf r = caller.tenant) :
    (∀ a, v.getResponse failure missing idQuery (fun u => t.find? (hasID u)) = .ok a →
    v.IsMine caller.claims a) ↔ v.GetScoped caller idQuery hasID t := by
  constructor
  · rintro hmi id u rfl hu r hr
    obtain ⟨hm, hid⟩ := Table.mem_of_find? hr
    obtain ⟨a, ha⟩ := hh r hm
    refine ⟨hT u r hid, (isMine_iff hc ha).mp (hmi a ?_)⟩
    rw [getResponse_ok hu, hr]
    show (v.hydrate r).mapError failure = _
    rw [ha]
    rfl
  · intro ho a ha
    obtain ⟨id, hid, ha⟩ := except_bind_ok ha
    split at ha
    · rename_i r hr
      obtain ⟨u, hu, hr⟩ := Option.bind_eq_some_iff.mp hr
      exact (isMine_iff hc (except_mapError_ok ha)).mpr (ho id u hid hu r hr).2
    · cases ha

theorem getResponse_agree [Std.Symm Clash]
    (hclash : ∀ u a b, hasID u a = true → hasID u b = true → Clash a b)
    (hag : v.Agree caller t t') (h : v.GetScoped caller idQuery hasID t)
    (h' : v.GetScoped caller idQuery hasID t') :
    v.getResponse failure missing idQuery (fun u => t.find? (hasID u)) =
    v.getResponse failure missing idQuery (fun u => t'.find? (hasID u)) := by
  cases idQuery with
  | error f => rfl
  | ok id =>
    refine congrArg (fun o : Option ρ => match o with
      | some r => (v.hydrate r).mapError failure
      | none => .error missing) ?_
    cases hu : p.uuid.parse id with
    | none => rfl
    | some u =>
      refine Table.find?_congr (hclash u) (fun r hr => ?_) fun r hr => ?_
      · exact (hag r (h id u rfl hu r hr)).mp (Table.mem_of_find? hr).1
      · exact (hag r (h' id u rfl hu r hr)).mpr (Table.mem_of_find? hr).1

end View

end Leadkart.Api
