import Leadkart.Common.Basic

/-!
# Fixed-length patterns and the size of a text
-/

namespace Leadkart

open List

abbrev Pattern := List (Char → Bool)

namespace Pattern

def digit (c : Char) : Bool := c.isDigit

def upper (c : Char) : Bool := c.isUpper

def upperOrDigit (c : Char) : Bool := c.isDigit || c.isUpper

def lit (a c : Char) : Bool := c == a

def fits : Pattern → List Char → Bool
  | [], [] => true
  | p :: ps, c :: cs => p c && fits ps cs
  | _, _ => false

def matchString (p : Pattern) (s : String) : Bool := p.fits s.toList

variable {cs : List Char}

@[simp] theorem fits_cons {p : Char → Bool} {ps : Pattern} :
    fits (p :: ps) cs = true ↔ ∃ c rest, cs = c :: rest ∧ p c = true ∧ ps.fits rest = true := by
  cases cs with
  | nil => simp [fits]
  | cons c rest => simp [fits]

theorem length_of_fits {p : Pattern} (h : p.fits cs = true) : cs.length = p.length := by
  induction p generalizing cs with
  | nil =>
    cases cs with
    | nil => rfl
    | cons c cs => exact absurd h (by simp [fits])
  | cons q p ih =>
    obtain ⟨c, rest, rfl, -, hr⟩ := fits_cons.mp h
    rw [length_cons, length_cons, ih hr]

theorem fits_replicate {q : Char → Bool} {n : Nat} (h : fits (List.replicate n q) cs = true) :
    ∀ c ∈ cs, q c = true := by
  induction n generalizing cs with
  | zero =>
    cases cs with
    | nil => exact fun c hc => absurd hc not_mem_nil
    | cons c cs => exact absurd h (by simp [fits])
  | succ n ih =>
    rw [replicate_succ] at h
    obtain ⟨c, rest, rfl, hc, hr⟩ := fits_cons.mp h
    exact forall_mem_cons.mpr ⟨hc, ih hr⟩

theorem capitals_of_fits {p : Pattern} (hp : ∀ q ∈ p, ∀ c, q c = true → upperOrDigit c = true)
    (h : p.fits cs = true) : ∀ c ∈ cs, upperOrDigit c = true := by
  induction p generalizing cs with
  | nil =>
    cases cs with
    | nil => exact fun c hc => absurd hc not_mem_nil
    | cons c cs => exact absurd h (by simp [fits])
  | cons q p ih =>
    obtain ⟨c, rest, rfl, hc, hr⟩ := fits_cons.mp h
    obtain ⟨hq, hp⟩ := forall_mem_cons.mp hp
    exact forall_mem_cons.mpr ⟨hq c hc, ih hp hr⟩

end Pattern

theorem utf8ByteSize_cons (c : Char) (cs : List Char) :
    (String.ofList (c :: cs)).utf8ByteSize = c.utf8Size + (String.ofList cs).utf8ByteSize := by
  have hs : String.ofList (c :: cs) = String.singleton c ++ String.ofList cs := by
    rw [String.singleton_eq_ofList, ← String.ofList_append]
    rfl
  rw [hs, String.utf8ByteSize_append, String.utf8ByteSize_singleton]

theorem utf8ByteSize_ascii {cs : List Char} (h : ∀ c ∈ cs, c.utf8Size = 1) :
    (String.ofList cs).utf8ByteSize = cs.length := by
  induction cs with
  | nil => rfl
  | cons c cs ih =>
    obtain ⟨hc, hcs⟩ := forall_mem_cons.mp h
    rw [utf8ByteSize_cons, hc, ih hcs, length_cons, Nat.add_comm]

theorem utf8ByteSize_sublist {l₁ l₂ : List Char} (h : l₁.Sublist l₂) :
    (String.ofList l₁).utf8ByteSize ≤ (String.ofList l₂).utf8ByteSize := by
  induction h with
  | slnil => exact Nat.le_refl _
  | cons c _ ih =>
    rw [utf8ByteSize_cons]
    exact Nat.le_trans ih (Nat.le_add_left _ _)
  | cons_cons c _ ih =>
    rw [utf8ByteSize_cons, utf8ByteSize_cons]
    exact Nat.add_le_add_left ih _

theorem utf8ByteSize_trimSpace_le (s : String) : (trimSpace s).utf8ByteSize ≤ s.utf8ByteSize := by
  have hs : ((s.toList.dropWhile isSpace).reverse.dropWhile isSpace).reverse.Sublist s.toList := by
    have h := (dropWhile_sublist isSpace (l := (s.toList.dropWhile isSpace).reverse)).reverse
    rw [reverse_reverse] at h
    exact h.trans (dropWhile_sublist isSpace)
  have h := utf8ByteSize_sublist hs
  rwa [String.ofList_toList] at h

variable {s : String}

theorem length_pos_of_ne_empty (h : s ≠ "") : 0 < s.toList.length := by
  refine length_pos_iff.mpr fun hn => h ?_
  rw [← String.ofList_toList (s := s), hn]

theorem length_bounds {max : Nat} (hne : s ≠ "") (h : s.utf8ByteSize ≤ max) :
    1 ≤ s.length ∧ s.length ≤ max :=
  ⟨length_pos_of_ne_empty hne, (length_le_utf8ByteSize s).trans h⟩

theorem utf8Size_of_isDigit {c : Char} (h : c.isDigit = true) : c.utf8Size = 1 := by
  unfold Char.isDigit at h
  rw [Bool.and_eq_true, decide_eq_true_iff, decide_eq_true_iff] at h
  exact Char.utf8Size_eq_one_iff.mpr (UInt32.le_trans h.2 (by decide))

theorem isSpace_of_isDigit {c : Char} (h : c.isDigit = true) : isSpace c = false := by
  have hr := Char.isDigit_iff_toNat.mp h
  have hz : '0'.toNat = 48 := rfl
  have hn : '9'.toNat = 57 := rfl
  simp [isSpace]
  omega

end Leadkart
