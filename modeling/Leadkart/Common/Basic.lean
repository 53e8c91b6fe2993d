import Mathlib.Algebra.Group.Int.Defs
import Mathlib.Algebra.Group.Nat.Defs
import Mathlib.Data.List.DropRight

/-!
# Shared vocabulary: time, text, errors, nullable columns
-/

namespace Leadkart

abbrev Time := Int

abbrev Duration := Int

namespace Time

def isZero (t : Time) : Bool := t == 0

def before (t u : Time) : Bool := decide (t < u)

def after (t u : Time) : Bool := decide (u < t)

end Time

variable (s : String)

def day : Duration := 24 * 60 * 60 * 1000000000

def minute : Duration := 60 * 1000000000

def isSpace (c : Char) : Bool :=
  c.toNat ∈ [0x09, 0x0a, 0x0b, 0x0c, 0x0d, 0x20, 0x85, 0xa0, 0x1680, 0x2028, 0x2029, 0x202f,
    0x205f, 0x3000] || (0x2000 ≤ c.toNat && c.toNat ≤ 0x200a)

def trimSpace : String :=
  String.ofList ((s.toList.dropWhile isSpace).reverse.dropWhile isSpace).reverse

theorem trimSpace_trimSpace : trimSpace (trimSpace s) = trimSpace s := by
  unfold trimSpace
  rw [String.toList_ofList]
  refine congrArg String.ofList ?_
  show ((s.toList.dropWhile isSpace).rdropWhile isSpace |>.dropWhile isSpace).rdropWhile isSpace =
    (s.toList.dropWhile isSpace).rdropWhile isSpace
  -- what is left begins as the text without its leading space
  have hh : ((s.toList.dropWhile isSpace).rdropWhile isSpace).dropWhile isSpace =
      (s.toList.dropWhile isSpace).rdropWhile isSpace := by
    obtain ⟨rest, hre⟩ := List.rdropWhile_prefix isSpace (s.toList.dropWhile isSpace)
    rcases hr : (s.toList.dropWhile isSpace).rdropWhile isSpace with _ | ⟨c, cs⟩
    · rfl
    · rw [hr] at hre
      have hc := List.head?_dropWhile_not isSpace s.toList
      rw [← hre] at hc
      exact List.dropWhile_cons_of_neg (by simpa using hc)
  rw [hh, List.rdropWhile_idempotent]

def isBlank : Bool := trimSpace s == ""

theorem length_le_utf8ByteSize : s.toList.length ≤ s.utf8ByteSize := by
  have hl : ∀ l : List Char, l.length ≤ (String.ofList l).utf8ByteSize := by
    intro l
    induction l with
    | nil => exact Nat.zero_le _
    | cons c l ih =>
      have hs : String.ofList (c :: l) = String.singleton c ++ String.ofList l := by
        rw [String.singleton_eq_ofList, ← String.ofList_append]
        rfl
      rw [hs, String.utf8ByteSize_append, String.utf8ByteSize_singleton, List.length_cons]
      have hc := Char.utf8Size_pos c
      omega
  have h := hl s.toList
  rwa [String.ofList_toList] at h

inductive Kind where
  | unknown
  | notFound
  | alreadyExists
  | invalidInput
  | unauthenticated
  | permissionDenied
  | conflict
  | unavailable
  | internal
  deriving DecidableEq

structure Sentinel where
  kind : Kind
  (domain msg : String)
  deriving DecidableEq

structure Err where
  sentinel : Sentinel
  detail : String := ""
  deriving DecidableEq

def Err.is (e : Err) (s : Sentinel) : Bool := e.sentinel == s

def Err.foreign (detail : String) : Err := ⟨⟨.unknown, "", ""⟩, detail⟩

def Err.wrap (text : String) (e : Err) : Err := ⟨e.sentinel, text ++ e.detail⟩

def requireTexts (label : String) : List (String × String) → Except Err Unit
  | [] => .ok ()
  | (name, value) :: rest =>
    if value = "" then .error (.foreign (label ++ ": " ++ name ++ " required"))
    else requireTexts label rest

/-- The entry of a catalogue whose text is `raw`, as the `Parse` functions look it up. -/
def parseEntry {α : Type} (invalid : Sentinel) (name : String) (string : α → String)
    (all : List α) (raw : String) : Except Err α :=
  match all.find? fun a => string a = raw with
  | some a => .ok a
  | none => .error ⟨invalid, name ++ " " ++ raw ++ " not in catalogue"⟩

theorem parseEntry_eq_ok {α : Type} {invalid : Sentinel} {name raw : String} {string : α → String}
    {all : List α} {a : α} (h : parseEntry invalid name string all raw = .ok a) :
    raw = string a := by
  unfold parseEntry at h
  split at h
  next found hf =>
    cases h
    have hs := List.find?_some hf
    exact (of_decide_eq_true hs).symm
  next => cases h

def pgTimestamp (t : Time) : Option Time := if t.isZero then none else some t

def timeFromPg (p : Option Time) : Time := p.getD 0

def toMicros (t : Time) : Time := t / 1000 * 1000

def toInt32 (n : Int) : Int := n.bmod (2 ^ 32)

theorem le_toMicros (t : Int) : t ≤ toMicros t + 999 := by
  show (t : Int) ≤ t / 1000 * 1000 + 999
  omega

theorem toMicros_add (t n : Int) : toMicros (t + 1000 * n) = toMicros t + 1000 * n := by
  show (t + 1000 * n) / 1000 * 1000 = t / 1000 * 1000 + 1000 * n
  omega

theorem toInt32_of_range {n : Int} (h : 0 ≤ n) (hlt : n < 2 ^ 31) : toInt32 n = n := by
  unfold toInt32
  rw [Int.bmod_eq_of_le] <;> omega

def zeroToNil : Option String := if s = "" then none else some s

def stringFromPg (p : Option String) : String := p.getD ""

@[simp] theorem timeFromPg_pgTimestamp (t : Time) : timeFromPg (pgTimestamp t) = t := by
  unfold timeFromPg pgTimestamp Time.isZero
  split
  · rename_i h
    simp_all
  · rfl

@[simp] theorem stringFromPg_zeroToNil : stringFromPg (zeroToNil s) = s := by
  unfold stringFromPg zeroToNil
  split
  · rename_i h
    exact h.symm
  · rfl

theorem pgTimestamp_ne_none {t : Time} : pgTimestamp t ≠ none ↔ t ≠ 0 := by
  unfold pgTimestamp Time.isZero
  split <;> simp_all

structure Cursor where
  sortValue : Time := 0
  id : String := ""

structure Page (α : Type) where
  items : List α
  hasMore : Bool
  nextCursor : Option Cursor

def clampPageSize (supplied : Int) : Nat :=
  if supplied ≤ 0 then 50
  else if 200 < supplied then 200
  else supplied.toNat

abbrev PageSize := { n : Nat // 1 ≤ n ∧ n ≤ 200 }

def buildPage {α : Type} (items : List α) (pageSize : PageSize) (cursorFn : α → Cursor) : Page α :=
  if pageSize.1 < items.length then
    ⟨items.take pageSize.1, true, items[pageSize.1 - 1]?.map cursorFn⟩
  else ⟨items, false, none⟩

theorem clampPageSize_bounds (supplied : Int) :
    1 ≤ clampPageSize supplied ∧ clampPageSize supplied ≤ 200 := by
  unfold clampPageSize
  split
  · omega
  split <;> omega

end Leadkart
