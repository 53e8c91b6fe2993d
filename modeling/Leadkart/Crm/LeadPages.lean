import Leadkart.Common.CursorWire
import Leadkart.Crm.LeadQueries

/-!
# Walking the pages of the leads
-/

namespace Leadkart.CrmLead

open List Option Keyset Effect

variable {codec : UuidCodec}

structure Stored (s : Store codec) : Prop where
  meets : ∀ r ∈ s.leads, (crmLeads codec).meets r = .ok ()
  dated : ∀ r ∈ s.leads, r.createdAt.isZero = false ∧ r.createdAt.InYears

section Stored

variable {s : Store codec}

theorem Stored.view (hs : Stored s) :
    ∃ view : Row → CrmLead, ∀ r ∈ s.leads, rowToLead codec r = .ok (view r) ∧
    (view r).createdAt = r.createdAt ∧ (view r).id = codec.string r.id := by
  have hre : ∀ r : Row, ∃ l, r ∈ s.leads → rowToLead codec r = .ok l ∧
      l.createdAt = r.createdAt ∧ l.id = codec.string r.id := by
    intro r
    by_cases hr : r ∈ s.leads
    · obtain ⟨l, hl⟩ := rowToLead_ok (hs.meets r hr)
      refine ⟨l, fun _ => ⟨hl, ?_, (rowToLead_eq_ok hl).1⟩⟩
      obtain ⟨stage, -, hl⟩ := except_bind_ok hl
      obtain ⟨temperature, -, hl⟩ := except_bind_ok hl
      cases hl
      rfl
    · exact ⟨{ id := "", tenantID := "", profile := { contactName := "", phoneE164 := "" }
               stage := .new, temperature := .warm, createdAt := 0 }, fun h => absurd h hr⟩
  choose view hv using hre
  exact ⟨view, hv⟩

end Stored

section Cursors

variable {ilike : String → String → Bool} {T : UUID} {filter : ListFilter} {s : Store codec}

def cursorOf (codec : UuidCodec) : Option Row → Cursor
  | none => {}
  | some r => ⟨r.createdAt, codec.string r.id⟩

theorem listKey_lt {a b : Row} :
    listKey a < listKey b ↔ beforeCursor a b.createdAt (some b.id) = true := by
  unfold listKey beforeCursor
  rw [Prod.Lex.toLex_lt_toLex, Bool.or_eq_true, Bool.and_eq_true]
  simp only [decide_eq_true_iff, any_some]
  exact Iff.rfl

variable {c : Option Row}

theorem listed_cursorOf (hco : codec.Lawful) (hc : ∀ q, c = some q → q.createdAt.isZero = false)
    (r : Row) : listed codec ilike T filter (cursorOf codec c) r =
    (listed codec ilike T filter {} r && below listKey c r) := by
  cases c with
  | none => simp [cursorOf, below]
  | some q =>
    have ht : pgTimestamp q.createdAt = some q.createdAt := by simp [pgTimestamp, hc q rfl]
    have hid : codec.pgUUIDOptStr (codec.string q.id) = some q.id :=
      UuidCodec.pgUUIDOptStr_of_parse hco (hco.parse_string q.id)
    have hk : beforeCursor r q.createdAt (some q.id) = below listKey (some q) r := by
      rw [Bool.eq_iff_iff]
      exact listKey_lt.symm.trans decide_eq_true_iff.symm
    have hnone : pgTimestamp 0 = none := rfl
    simp only [listed, cursorOf, ht, hid, all_some, hk, hnone, all_none, Bool.and_true]

theorem listing_cursorOf (hco : codec.Lawful) (hc : ∀ q, c = some q → q.createdAt.isZero = false) :
    listing codec ilike T filter (cursorOf codec c) s =
    after listKey c (listing codec ilike T filter {} s) := by
  unfold listing
  rw [← mergeSort_below listedBefore_iff (nodup_listKey s.leads _), List.filter_filter]
  congr 1
  refine filter_congr fun r _ => ?_
  rw [listed_cursorOf hco hc, ← Bool.and_assoc, Bool.and_comm]

theorem descending_listing (cu : Cursor) :
    Descending listKey (listing codec ilike T filter cu s) :=
  descending_mergeSort listedBefore_iff (nodup_listKey s.leads _)

end Cursors

section

def requestPage (w : Wire) (ilike : String → String → Bool) (conn : Conn) (tenantID : String)
    (filter : ListFilter) (pageSize : Int) (s : Store codec) (token : String) :
    Except Err (List CrmLead × Option String) := do
  let cursor ← w.decode token
  let page ← (listPage ilike conn tenantID filter cursor pageSize).look s
  if page.hasMore then
    match page.nextCursor with
    | none => return (page.items, some "")
    | some next =>
      match w.encode next with
      | none => .error (.foreign "pagination: encode cursor")
      | some token => return (page.items, some token)
  else return (page.items, none)

def listAll (w : Wire) (ilike : String → String → Bool) (conns : Nat → Conn) (tenantID : String)
    (filter : ListFilter) (pageSize : Int) (s : Store codec) (fuel : Nat) :
    Option (Except Err (List CrmLead)) :=
  walk (fun i token => requestPage w ilike (conns i) tenantID filter pageSize s token) fuel 0
    ""

variable {ilike : String → String → Bool} {T : UUID} {tenantID : String} {filter : ListFilter}
  {pageSize : Int} {s : Store codec} {w : Wire} {view : Row → CrmLead}

theorem pageOf_take {n : Nat} (hn : 0 < n) {left : List Row}
    (hv : ∀ r ∈ left, rowToLead codec r = .ok (view r)) : pageOf codec n (left.take (n + 1)) =
    .ok ⟨(left.take n).map view, decide (n < left.length),
    (if n < left.length then left[n - 1]? else none).map fun r =>
          ⟨(view r).createdAt, (view r).id⟩⟩ := by
  have hitems : ((left.take (n + 1)).take n).mapM (rowToLead codec) =
      .ok ((left.take n).map view) := by
    rw [take_take, Nat.min_eq_left (Nat.le_succ n)]
    exact except_mapM_map fun r hr => hv r (mem_of_mem_take hr)
  have hm : decide (n < (left.take (n + 1)).length) = decide (n < left.length) := by
    rw [length_take]
    congr 1
    exact propext (by omega)
  unfold pageOf
  rw [hitems, hm]
  by_cases hlt : n < left.length
  · have hl : ((left.take n).map view).getLast? = left[n - 1]?.map view := by
      rw [getLast?_map, getLast?_take, if_neg (Nat.ne_of_gt hn),
        getElem?_eq_getElem (by omega)]
      rfl
    simp only [hlt, decide_true, if_true, bind, Except.bind, hl, Option.map_map]
    rfl
  · simp only [hlt, decide_false, if_false, bind, Except.bind]
    rfl

theorem nextCursor_stored (hs : Stored s) (hpa : codec.parse tenantID = some T)
    (hi : codec.input tenantID = some T) {conn : Conn} {cu next : Cursor} {page : Page CrmLead}
    (hp : (listPage ilike conn tenantID filter cu pageSize).look s = .ok page)
    (hn : page.nextCursor = some next) : ∃ r ∈ s.leads, next = cursorOf codec (some r) := by
  obtain ⟨view, hv⟩ := hs.view
  have hm : ∀ r ∈ listing codec ilike T filter cu s, r ∈ s.leads := fun r hr =>
    (mem_listing.mp hr).1
  rw [listPage_look hpa hi, pageOf_take (clampPageSize_bounds pageSize).1
    fun r hr => (hv r (hm r hr)).1] at hp
  cases hp
  obtain ⟨r, hr, rfl⟩ := map_eq_some_iff.mp hn
  split at hr
  · have hrow := hm r (mem_of_getElem? hr)
    refine ⟨r, hrow, ?_⟩
    rw [(hv r hrow).2.1, (hv r hrow).2.2]
    rfl
  · cases hr

theorem Stored.token (hs : Stored s) (hw : w.Lawful) {r : Row} (hr : r ∈ s.leads) :
    ∃ token, w.encode (cursorOf codec (some r)) = some token ∧
    w.decode token = .ok (cursorOf codec (some r)) := hw.decode_encoded (hs.dated r hr).2

def tokenOf (w : Wire) (codec : UuidCodec) : Option Row → String
  | none => ""
  | some r => (w.encode (cursorOf codec (some r))).getD ""

variable {c : Option Row}

theorem decode_tokenOf (hs : Stored s) (hw : w.Lawful) (hc : ∀ r, c = some r → r ∈ s.leads) :
    w.decode (tokenOf w codec c) = .ok (cursorOf codec c) := by
  cases c with
  | none => rfl
  | some r =>
    obtain ⟨token, he, hd⟩ := hs.token hw (hc r rfl)
    simp only [tokenOf, he, getD_some]
    exact hd

theorem requestPage_eq (hco : codec.Lawful) (hw : w.Lawful)
    (hp : codec.parse tenantID = some T) (hi : codec.input tenantID = some T)
    (hs : Stored s) (hv : ∀ r ∈ s.leads, rowToLead codec r = .ok (view r) ∧
    (view r).createdAt = r.createdAt ∧ (view r).id = codec.string r.id) (conn : Conn)
    (hc : ∀ r, c = some r → r ∈ listing codec ilike T filter {} s) :
    requestPage w ilike conn tenantID filter pageSize s (tokenOf w codec c) =
    .ok ((pageAfter listKey (clampPageSize pageSize) c
    (listing codec ilike T filter {} s)).1.map view,
    (pageAfter listKey (clampPageSize pageSize) c
    (listing codec ilike T filter {} s)).2.map fun r => tokenOf w codec (some r)) := by
  have hst : ∀ r, c = some r → r ∈ s.leads := fun r hr => (mem_listing.mp (hc r hr)).1
  have hl : ∀ r ∈ after listKey c (listing codec ilike T filter {} s), r ∈ s.leads :=
    fun r hr => (mem_listing.mp (mem_after.mp hr).1).1
  have hn := (clampPageSize_bounds pageSize).1
  have hpa := pageOf_take hn fun r hr => (hv r (hl r hr)).1
  unfold requestPage pageAfter
  rw [decode_tokenOf hs hw hst]
  show ((listPage ilike conn tenantID filter (cursorOf codec c) pageSize).look s >>= _) = _
  rw [listPage_look hp hi, listing_cursorOf hco fun r hr => (hs.dated r (hst r hr)).1, hpa]
  simp only [bind, Except.bind]
  by_cases hm : clampPageSize pageSize <
      (after listKey c (listing codec ilike T filter {} s)).length
  · -- The next cursor is of the last row of the page.
    obtain ⟨r, hr⟩ : ∃ r, (after listKey c
        (listing codec ilike T filter {} s))[clampPageSize pageSize - 1]? = some r :=
      ⟨_, getElem?_eq_getElem (by omega)⟩
    have hrow := hl r (mem_of_getElem? hr)
    obtain ⟨token, he, -⟩ := hs.token hw hrow
    have hcu : (⟨(view r).createdAt, (view r).id⟩ : Cursor) = cursorOf codec (some r) := by
      rw [(hv r hrow).2.1, (hv r hrow).2.2]
      rfl
    simp only [hm, decide_true, if_true, hr, map_some, hcu, he]
    simp only [tokenOf, he, getD_some]
    rfl
  · simp only [hm, decide_false, Bool.false_eq_true, if_false, map_none]
    rfl

end

def leadOfInstant (id : UUID) : Row where
  id := id
  tenantID := 2
  stage := "new"
  temperature := "warm"
  contactName := "Asha"
  phoneE164 := "+919876543210"
  productRanges := some []
  dosageForms := some []
  createdAt := 40000

def leadsOfInstant : Store unaryCodec where
  leads :=
    { rows := [leadOfInstant 3, leadOfInstant 5, leadOfInstant 4]
      unique := by decide +kernel }
  history := .empty

theorem leadsOfInstant_stored : Stored leadsOfInstant where
  meets r hr := by
    simp only [← Table.mem_rows, leadsOfInstant, mem_cons, not_mem_nil, or_false] at hr
    rcases hr with rfl | rfl | rfl <;> exact meets_iff.mpr (by decide +kernel)
  dated r hr := by
    simp only [← Table.mem_rows, leadsOfInstant, mem_cons, not_mem_nil, or_false] at hr
    rcases hr with rfl | rfl | rfl <;> decide

end Leadkart.CrmLead
