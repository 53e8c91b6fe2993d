import Leadkart.Common.Basic
import Leadkart.Logic.RowSecurity

/-!
# Tenant scope of a transaction
-/

namespace Leadkart

open Settings

abbrev UUID := BitVec 128

structure UuidCodec where
  parse : String → Option UUID
  string : UUID → String
  input : String → Option UUID
  input_empty : input "" = none

structure UuidCodec.Lawful (codec : UuidCodec) : Prop where
  parse_empty : codec.parse "" = none
  parse_string (u : UUID) : codec.parse (codec.string u) = some u
  input_string (u : UUID) : codec.input (codec.string u) = some u

variable {codec : UuidCodec} {u : UUID}

theorem UuidCodec.ne_empty {s : String} (h : codec.input s = some u) : s ≠ "" := by
  rintro rfl
  exact absurd (codec.input_empty.symm.trans h) (by simp)

def UuidCodec.parseOr (codec : UuidCodec) (text raw : String) : Except Err UUID :=
  match codec.parse raw with
  | some u => .ok u
  | none => .error (.foreign (text ++ raw))

variable {text raw : String}

theorem UuidCodec.parseOr_ok (h : codec.parse raw = some u) : codec.parseOr text raw = .ok u := by
  unfold parseOr
  rw [h]

theorem UuidCodec.parse_of_parseOr (h : codec.parseOr text raw = .ok u) :
    codec.parse raw = some u := by
  unfold parseOr at h
  split at h
  · rename_i hu
    rw [hu, Except.ok.inj h]
  · cases h

theorem UuidCodec.Lawful.string_inj (h : codec.Lawful) {v : UUID} :
    codec.string u = codec.string v ↔ u = v := by
  refine ⟨fun heq => ?_, congrArg codec.string⟩
  have hp := h.parse_string u
  rw [heq, h.parse_string v] at hp
  exact (Option.some.inj hp).symm

theorem UuidCodec.Lawful.string_ne_empty (h : codec.Lawful) (u : UUID) :
    codec.string u ≠ "" := UuidCodec.ne_empty (h.input_string u)

def UuidCodec.validateUUID (codec : UuidCodec) (invalid : Sentinel) (name val : String) :
    Except Err Unit :=
  if trimSpace val = "" then .error ⟨invalid, name ++ " required"⟩
  else if (codec.parse (trimSpace val)).isNone then
    .error ⟨invalid, name ++ " not a valid uuid"⟩
  else .ok ()

def UuidCodec.validateUUIDString (codec : UuidCodec) (invalid : Sentinel) (name val : String) :
    Except Err Unit :=
  if val = "" then .error ⟨invalid, name ++ " required"⟩
  else if (codec.parse val).isNone then .error ⟨invalid, name ++ " not a valid uuid"⟩
  else .ok ()

def UuidCodec.validateOptionalUUID (codec : UuidCodec) (invalid : Sentinel) (name val : String) :
    Except Err Unit :=
  if val = "" then .ok () else codec.validateUUIDString invalid name val

variable {invalid : Sentinel} {name val : String}

theorem UuidCodec.validateUUIDString_ok (hne : val ≠ "") (h : codec.parse val = some u) :
    codec.validateUUIDString invalid name val = .ok () := by
  unfold validateUUIDString
  rw [if_neg hne, h]
  rfl

theorem UuidCodec.validateOptionalUUID_ok (h : val = "" ∨ ∃ u, codec.parse val = some u) :
    codec.validateOptionalUUID invalid name val = .ok () := by
  unfold validateOptionalUUID
  by_cases hne : val = ""
  · rw [if_pos hne]
  · obtain ⟨u, hu⟩ := h.resolve_left hne
    rw [if_neg hne]
    exact validateUUIDString_ok hne hu

def UuidCodec.pgUUIDOptStr (codec : UuidCodec) (s : String) : Option UUID :=
  if s = "" then none else codec.parse s

def UuidCodec.uuidStringIfValid (codec : UuidCodec) (p : Option UUID) : String :=
  stringFromPg (p.map codec.string)

theorem UuidCodec.pgUUIDOptStr_of_parse (hc : codec.Lawful) (h : codec.parse raw = some u) :
    codec.pgUUIDOptStr raw = some u := by
  have hne : raw ≠ "" := by
    rintro rfl
    exact nomatch hc.parse_empty.symm.trans h
  unfold pgUUIDOptStr
  rw [if_neg hne, h]

theorem UuidCodec.Lawful.parse_uuidStringIfValid (hc : codec.Lawful) (p : Option UUID) :
    codec.parse (codec.uuidStringIfValid p) = p := by
  cases p with
  | none => exact hc.parse_empty
  | some u => exact hc.parse_string u

theorem UuidCodec.Lawful.pgUUIDOptStr_uuidStringIfValid (hc : codec.Lawful) (p : Option UUID) :
    codec.pgUUIDOptStr (codec.uuidStringIfValid p) = p := by
  cases p with
  | none => rfl
  | some u => exact pgUUIDOptStr_of_parse hc (hc.parse_string u)

def unaryCodec : UuidCodec where
  parse s := if s = "" then none else some (BitVec.ofNat 128 (s.toList.length - 1))
  string u := String.ofList (List.replicate (u.toNat + 1) 'x')
  input s := if s = "" then none else some (BitVec.ofNat 128 (s.toList.length - 1))
  input_empty := rfl

theorem unaryCodec_lawful : unaryCodec.Lawful := by
  have hr : ∀ u : UUID, (if String.ofList (List.replicate (u.toNat + 1) 'x') = "" then none
      else some (BitVec.ofNat 128
        ((String.ofList (List.replicate (u.toNat + 1) 'x')).toList.length - 1))) = some u := by
    intro u
    have hne : String.ofList (List.replicate (u.toNat + 1) 'x') ≠ "" := by
      intro h
      have hl := congrArg String.toList h
      simp [List.replicate_succ] at hl
    rw [if_neg hne]
    simp
  exact ⟨rfl, hr, hr⟩

def pgUUIDOrNull (u : UUID) : Option UUID := if u = 0 then none else some u

def uuidFromPg (p : Option UUID) : UUID := p.getD 0

namespace Pg

def gucTenantID : String := "app.tenant_id"
def gucIsPlatform : String := "app.is_platform"

def setTenantOnTxExplicit (s : Settings) (tenantID : String) : Except Err Settings :=
  if tenantID = "" then
    .error (.foreign "pg: explicit tenantID required (use SetPlatformOnTx for cross-tenant flows)")
  else .ok (s.setLocal gucTenantID tenantID)

def setTenantOnTx (s : Settings) (ctxTenant : Option String) : Except Err Settings :=
  match ctxTenant with
  | none => .error (.foreign
      "pg: tenant context required (use SetPlatformOnTx for cross-tenant flows)")
  | some id => .ok (s.setLocal gucTenantID id)

section

variable {σ α : Type}

def withinTxPgxTenant (conn : Settings) (tenantID : String) (fn : Settings → Effect σ Err α) :
    Effect σ Err α := Effect.atomic (Effect.ofExcept (setTenantOnTxExplicit conn tenantID) >>= fn)

variable {conn : Settings} {tenantID : String}

theorem withinTxPgxTenant_eq {fn : Settings → Effect σ Err α} (hne : tenantID ≠ "") :
    withinTxPgxTenant conn tenantID fn =
    Effect.atomic (fn (conn.setLocal gucTenantID tenantID)) := by
  unfold withinTxPgxTenant setTenantOnTxExplicit
  rw [if_neg hne]
  rfl

variable {f : Settings → Effect σ Err α}

theorem respects_withinTxPgxTenant {Q : σ → σ → Prop} {c co : Settings}
    {g : Settings → Effect σ Err α} (h : Effect.Respects Q (f (c.setLocal gucTenantID tenantID))
    (g (co.setLocal gucTenantID tenantID))) : Effect.Respects Q (withinTxPgxTenant c tenantID f)
    (withinTxPgxTenant co tenantID g) := by
  refine Effect.Respects.atomic ?_
  unfold setTenantOnTxExplicit
  split
  · exact fun _ _ hs => ⟨rfl, hs⟩
  · exact h

theorem keeps_withinTxPgxTenant {I : σ → Prop}
    (h : Effect.Keeps I (f (conn.setLocal gucTenantID tenantID))) :
    Effect.Keeps I (withinTxPgxTenant conn tenantID f) := by
  by_cases hne : tenantID = ""
  · unfold withinTxPgxTenant setTenantOnTxExplicit
    rw [if_pos hne]
    exact fun _ hs => hs
  · rw [withinTxPgxTenant_eq hne]
    refine Effect.Keeps.atomic fun s a s' hs hr => ?_
    have hI := h s hs
    rwa [hr] at hI

end

def wrapped (text : String) (e : SqlError) : Err :=
  .foreign (text ++ e.state.code ++ " " ++ e.constraintName)

def queryRow {ρ : Type} (text : String) (noRows : Err) : Except SqlError (List ρ) → Except Err ρ
  | .error e => .error (wrapped text e)
  | .ok [] => .error noRows
  | .ok (r :: _) => .ok r

variable {ρ : Type}

theorem queryRow_confined {κ : Type} [DecidableEq κ] {R : SqlRelation ρ} {owner : ρ → κ} {T : κ}
    {s : Settings} (hs : SqlRelation.Confines R owner T s) (text : String) (noRows : Err)
    (plan : Planner ρ) (cond : ρ → Bool) (t : R.Rows) :
    queryRow text noRows (R.select s plan cond t) =
      match t.find? fun r => decide (owner r = T) && cond r with
      | some r => .ok r
      | none => .error noRows := by
  obtain ⟨rows, hse, hh⟩ := SqlRelation.select_head? hs plan cond t
  rw [hse, ← hh]
  rcases rows with _ | ⟨r, rows⟩ <;> rfl

structure Tx (ρ : Type) where
  settings : Settings
  plan : Planner ρ

structure Conn (ρ : Type) where
  history : List (List (String × String)) := []
  plan : Planner ρ

def withinTx {σ ρ α : Type} (conn : Conn ρ) (tenantID : String) (fn : Tx ρ → Effect σ Err α) :
    Effect σ Err α :=
  withinTxPgxTenant (Settings.residue conn.history) tenantID fun settings =>
    fn ⟨settings, conn.plan⟩

def Conn.tx {ρ : Type} (conn : Conn ρ) (tenantID : String) : Tx ρ :=
  ⟨(Settings.residue conn.history).setLocal gucTenantID tenantID, conn.plan⟩

variable {tenantID : String}

theorem withinTx_eq {σ α : Type} {conn : Conn ρ} {fn : Tx ρ → Effect σ Err α} (hne : tenantID ≠ "") :
    withinTx conn tenantID fn = Effect.atomic (fn (conn.tx tenantID)) := withinTxPgxTenant_eq hne

theorem withinTx_eq_ok {σ α : Type} {conn : Conn ρ} {fn : Tx ρ → Effect σ Err α} {s s' : σ} {a : α}
    (h : (withinTx conn tenantID fn).run s = (.ok a, s')) :
    (fn (conn.tx tenantID)).run s = (.ok a, s') := by
  by_cases hne : tenantID = ""
  · unfold withinTx withinTxPgxTenant setTenantOnTxExplicit at h
    rw [if_pos hne] at h
    exact nomatch (Prod.mk.inj h).1
  · rw [withinTx_eq hne] at h
    exact Effect.atomic_eq_ok.mp h

theorem keeps_withinTx {σ α : Type} {I : σ → Prop} {conn : Conn ρ} {fn : Tx ρ → Effect σ Err α}
    (h : ∀ s a s', I s → (fn (conn.tx tenantID)).run s = (.ok a, s') → I s') :
    Effect.Keeps I (withinTx conn tenantID fn) :=
  Effect.Keeps.atomic fun s a s' hs hr =>
    h s a s' hs (withinTx_eq_ok (Effect.atomic_eq_ok.mpr hr))

theorem withinTx_leaves {σ α : Type} {Q : σ → Prop} {conn : Conn ρ} {fn : Tx ρ → Effect σ Err α}
    {s : σ} (hs : Q s) (h : ∀ a s', (fn (conn.tx tenantID)).run s = (.ok a, s') → Q s') :
    Q ((withinTx conn tenantID fn).run s).2 := by
  rcases hr : (withinTx conn tenantID fn).run s with ⟨e | a, s'⟩
  · obtain rfl := Effect.atomic_eq_error hr
    exact hs
  · exact h a s' (withinTx_eq_ok hr)

def withinUnitOfWork {σ ρ α : Type} (conn : Conn ρ) (ctxTenant : Option String)
    (fn : Tx ρ → Effect σ Err α) : Effect σ Err α :=
  Effect.atomic (Effect.ofExcept (setTenantOnTx (Settings.residue conn.history) ctxTenant) >>=
    fun settings => fn ⟨settings, conn.plan⟩)

theorem withinUnitOfWork_eq {σ α : Type} (conn : Conn ρ) (tenantID : String)
    (fn : Tx ρ → Effect σ Err α) :
    withinUnitOfWork conn (some tenantID) fn = Effect.atomic (fn (conn.tx tenantID)) := rfl

variable {ctxTenant : Option String}

theorem withinUnitOfWork_eq_ok {σ α : Type} {conn : Conn ρ} {fn : Tx ρ → Effect σ Err α} {s s' : σ}
    {a : α} (h : (withinUnitOfWork conn ctxTenant fn).run s = (.ok a, s')) :
    ∃ tenantID, ctxTenant = some tenantID ∧ (fn (conn.tx tenantID)).run s = (.ok a, s') := by
  cases ctxTenant with
  | none => exact nomatch (Prod.mk.inj h).1
  | some tenantID =>
    rw [withinUnitOfWork_eq] at h
    exact ⟨tenantID, rfl, Effect.atomic_eq_ok.mp h⟩

theorem keeps_withinUnitOfWork {σ α : Type} {I : σ → Prop} {conn : Conn ρ}
    {fn : Tx ρ → Effect σ Err α}
    (h : ∀ tenantID s a s', I s → (fn (conn.tx tenantID)).run s = (.ok a, s') → I s') :
    Effect.Keeps I (withinUnitOfWork conn ctxTenant fn) := by
  refine Effect.Keeps.atomic fun s a s' hs hr => ?_
  obtain ⟨tenantID, -, hfn⟩ := withinUnitOfWork_eq_ok (Effect.atomic_eq_ok.mpr hr)
  exact h tenantID s a s' hs hfn

end Pg

namespace App

def currentTenant (codec : UuidCodec) (s : Settings) : Sql.Expr UUID :=
  Sql.cast codec.input (Sql.nullif (s.currentSetting Pg.gucTenantID) "")

def isPlatform (s : Settings) : Sql.Expr Bool :=
  Sql.cast Sql.boolIn (Sql.coalesce (Sql.nullif (s.currentSetting Pg.gucIsPlatform) "") "false")

def ownOrPlatform (codec : UuidCodec) (tenantID : UUID) (s : Settings) : Sql.Expr Bool :=
  Sql.or (Sql.eq tenantID (currentTenant codec s)) (isPlatform s)

variable {codec : UuidCodec} {tenantID : String} {T : UUID}

theorem currentTenant_bound {conn : Settings} (hT : codec.input tenantID = some T) :
    currentTenant codec (conn.setLocal Pg.gucTenantID tenantID) = .ok (some T) := by
  have hne : tenantID ≠ "" := UuidCodec.ne_empty hT
  simp [currentTenant, currentSetting, setLocal, Sql.nullif, Sql.cast, Except.map, hne, hT]

variable {history : List (List (String × String))}

theorem isPlatform_of_residue {s : Settings}
    (h : s Pg.gucIsPlatform = Settings.residue history Pg.gucIsPlatform) :
    isPlatform s = .ok (some false) := by
  unfold isPlatform Settings.currentSetting
  rw [h]
  rcases residue_cases history Pg.gucIsPlatform with h | h
  all_goals
    rw [h]
    decide

theorem isPlatform_residue (history : List (List (String × String))) (tenantID : String) :
    isPlatform ((Settings.residue history).setLocal Pg.gucTenantID tenantID) =
    .ok (some false) := by
  have hname : Pg.gucIsPlatform ≠ Pg.gucTenantID := by decide
  exact isPlatform_of_residue (if_neg hname)

theorem currentTenant_unbound (codec : UuidCodec) (history : List (List (String × String))) :
    currentTenant codec (Settings.residue history) = .ok none := by
  unfold currentTenant Settings.currentSetting
  rcases residue_cases history Pg.gucTenantID with h | h
  all_goals
    rw [h]
    rfl

theorem ownOrPlatform_unbound (codec : UuidCodec) (history : List (List (String × String)))
    (row : UUID) : ownOrPlatform codec row (Settings.residue history) = .ok none := by
  unfold ownOrPlatform
  rw [currentTenant_unbound, isPlatform_of_residue rfl]
  rfl

theorem ownOrPlatform_bound (hT : codec.input tenantID = some T)
    (history : List (List (String × String))) (row : UUID) :
    ownOrPlatform codec row ((Settings.residue history).setLocal Pg.gucTenantID tenantID) =
    .ok (some (decide (row = T))) := by
  unfold ownOrPlatform
  rw [currentTenant_bound hT, isPlatform_residue]
  by_cases h : row = T <;> simp [Sql.eq, Sql.or, Except.map, h]

def tenantPolicies {ρ : Type} (codec : UuidCodec) (owner : ρ → UUID) : Policies ρ where
  select s r := ownOrPlatform codec (owner r) s
  insertCheck s r := ownOrPlatform codec (owner r) s
  updateUsing s r := ownOrPlatform codec (owner r) s
  updateCheck s r := ownOrPlatform codec (owner r) s

theorem confines_tenantPolicies {ρ : Type} {R : SqlRelation ρ} {owner : ρ → UUID}
    (hR : R.policies = tenantPolicies codec owner) (hT : codec.input tenantID = some T)
    (conn : Pg.Conn ρ) : SqlRelation.Confines R owner T (conn.tx tenantID).settings := by
  constructor <;> rw [hR] <;> exact fun r => ownOrPlatform_bound hT conn.history (owner r)

theorem input_of_ownOrPlatform {row : UUID}
    (h : ownOrPlatform codec row ((Settings.residue history).setLocal Pg.gucTenantID tenantID) =
    .ok (some true)) : codec.input tenantID = some row := by
  cases hT : codec.input tenantID with
  | some T =>
    rw [ownOrPlatform_bound hT, Except.ok.injEq, Option.some.injEq, decide_eq_true_iff] at h
    rw [h]
  | none =>
    unfold ownOrPlatform at h
    rw [isPlatform_residue] at h
    by_cases hne : tenantID = ""
    · subst hne
      simp [currentTenant, currentSetting, setLocal, Sql.nullif, Sql.cast,
        Sql.eq, Sql.or, Except.map] at h
    · simp [currentTenant, currentSetting, setLocal, Sql.nullif, Sql.cast,
        Sql.eq, Sql.or, Except.map, hne, hT] at h

end App

end Leadkart
