import Leadkart.Common.Decimal
import Leadkart.Common.Pattern

/-!
# Amounts of money as text
-/

namespace Leadkart.Money

open List

def errInvalid : Sentinel := ⟨.unknown, "", "money: invalid"⟩

def Digits (cs : List Char) : Prop := ∀ c ∈ cs, c.isDigit = true

instance (cs : List Char) : Decidable (Digits cs) := List.decidableBAll _ cs

def value (cs : List Char) : Nat := cs.foldl (fun n c => 10 * n + (c.toNat - '0'.toNat)) 0

def parseUint (bound : Nat) (cs : List Char) : Option Nat :=
  if cs ≠ [] ∧ Digits cs ∧ value cs ≤ bound then some (value cs) else none

def parseInt : List Char → Option Int
  | '-' :: cs => (parseUint (2 ^ 63) cs).map fun n : Nat => -(n : Int)
  | '+' :: cs => (parseUint (2 ^ 63 - 1) cs).map fun n : Nat => (n : Int)
  | cs => (parseUint (2 ^ 63 - 1) cs).map fun n : Nat => (n : Int)

structure Amount where
  (minusBefore minusAfter : Bool)
  major : List Char
  fraction : Option (List Char)

def Amount.negative (a : Amount) : Bool := a.minusBefore || a.minusAfter

def stripMinus (s : String) : Bool × String :=
  match s.toList with
  | '-' :: cs => (true, .ofList cs)
  | _ => (false, s)

def trimSymbol (s : String) : String :=
  match s.toList with
  | '₹' :: cs => .ofList cs
  | _ => s

def lex (raw : String) : Amount :=
  let (minusBefore, s) := stripMinus (trimSpace raw)
  let s := if minusBefore then trimSpace s else s
  let s := trimSpace (trimSymbol s)
  let (minusAfter, s) := stripMinus s
  let cs := s.toList.filter (· ≠ ',')
  { minusBefore, minusAfter
    major := cs.takeWhile (· ≠ '.')
    fraction := match cs.dropWhile (· ≠ '.') with
      | [] => none
      | _ :: fraction => some fraction }

def parseMinor : Option (List Char) → Option Int
  | none | some [] => some 0
  | some [c] => (parseInt [c]).map (· * 10)
  | some (c :: d :: _) => parseInt [c, d]

def parsePaise (raw : String) : Except Err Int64 :=
  let a := lex raw
  match parseInt a.major with
  | none => .error ⟨errInvalid, "major part " ++ .ofList a.major⟩
  | some major =>
    match parseMinor a.fraction with
    | none => .error ⟨errInvalid, "fractional " ++ .ofList (a.fraction.getD [])⟩
    | some minor =>
      let v := Int64.ofInt major * 100 + Int64.ofInt minor
      .ok (if a.negative then -v else v)

/-! ## What an amount is

The grammar speaks of the characters of the text and names nothing of the parser. -/

/-- A character that may be left out. -/
def mark (c : Char) (present : Bool) : List Char := if present then [c] else []

/-- `ds` is `cs` without the spaces at its two ends. -/
def Trims (cs ds : List Char) : Prop := trimSpace (.ofList cs) = .ofList ds

/-- Trimmed, the text is a minus and a rest, the rest is the rupee sign and a rest, and that one is
a minus and `text`; all three characters may be left out. -/
def Written (raw : String) (outer inner : Bool) (text : List Char) : Prop :=
  ∃ symbol s t, Trims raw.toList (mark '-' outer ++ s) ∧ (outer = false → s.head? ≠ some '-') ∧
    Trims s (mark '₹' symbol ++ t) ∧ (symbol = false → t.head? ≠ some '₹') ∧
    Trims t (mark '-' inner ++ text) ∧ (inner = false → text.head? ≠ some '-')

def point : Option (List Char) → List Char
  | none => []
  | some fraction => '.' :: fraction

def hundredths : Option (List Char) → Nat
  | none | some [] => 0
  | some [c] => value [c] * 10
  | some (c :: d :: _) => value [c, d]

def paise (negative : Bool) (major : List Char) (fraction : Option (List Char)) : Int :=
  (if negative then -1 else 1) * (value major * 100 + hundredths fraction)

def Fits (n : Int) : Prop := -2 ^ 63 ≤ n ∧ n < 2 ^ 63

/-- The text is an amount of `n` paise: one minus at most and, without the commas, digits and
perhaps a dot and more digits. -/
def IsAmount (raw : String) (n : Int) : Prop :=
  ∃ outer inner text major fraction, Written raw outer inner text ∧
    text.filter (· ≠ ',') = major ++ point fraction ∧ major ≠ [] ∧ Digits major ∧
    Digits (fraction.getD []) ∧ ¬ (outer = true ∧ inner = true) ∧
    n = paise (outer || inner) major fraction

def Exact (raw : String) : Prop :=
  (∀ n, IsAmount raw n → Fits n → ∃ v, parsePaise raw = .ok v ∧ v.toInt = n) ∧
    ((∀ n, IsAmount raw n → ¬ Fits n) → ∃ detail, parsePaise raw = .error ⟨errInvalid, detail⟩)

/-- A sign that may be left out, and digits: the integers of sixty-four bits. -/
def Numeral (sign digits : List Char) : Prop :=
  digits ≠ [] ∧ Digits digits ∧ (sign = ['-'] ∧ value digits ≤ 2 ^ 63 ∨
    (sign = [] ∨ sign = ['+']) ∧ value digits < 2 ^ 63)

/-- After the dot: nothing, a digit, or a digit or sign before a digit and then anything. -/
def LaxFraction : Option (List Char) → Prop
  | none | some [] => True
  | some [c] => c.isDigit = true
  | some (c :: d :: _) => (c.isDigit = true ∨ c = '-' ∨ c = '+') ∧ d.isDigit = true

/-- The text looks like an amount but has two minus signs, a sign of its own before the digits,
another character than digits after the dot, or a value outside sixty-four bits. -/
def Lax (raw : String) : Prop :=
  ∃ outer inner text sign digits fraction, Written raw outer inner text ∧
    text.filter (· ≠ ',') = sign ++ digits ++ point fraction ∧ Numeral sign digits ∧
    LaxFraction fraction ∧ ((outer = true ∧ inner = true) ∨ sign ≠ [] ∨
      ¬ Digits (fraction.getD []) ∨ ¬ Fits (paise (outer || inner) digits fraction))

section Reading

variable {cs : List Char}

theorem parseInt_digits (hne : cs ≠ []) (h : Digits cs) (hlt : value cs < 2 ^ 63) :
    parseInt cs = some (value cs : Int) := by
  have hp : parseInt cs = (parseUint (2 ^ 63 - 1) cs).map fun n : Nat => (n : Int) := by
    unfold parseInt
    split
    · exact absurd (h '-' (mem_cons_self ..)) (by decide)
    · exact absurd (h '+' (mem_cons_self ..)) (by decide)
    · rfl
  rw [hp, parseUint, if_pos ⟨hne, h, by omega⟩]
  rfl

theorem parseUint_isSome {bound : Nat} :
    (parseUint bound cs).isSome = true ↔ cs ≠ [] ∧ Digits cs ∧ value cs ≤ bound := by
  unfold parseUint
  split <;> simp_all

theorem parseInt_isSome : (parseInt cs).isSome = true ↔
    ∃ sign digits, cs = sign ++ digits ∧ Numeral sign digits := by
  constructor
  · intro h
    unfold parseInt at h
    split at h <;> rw [Option.isSome_map, parseUint_isSome] at h <;> obtain ⟨hne, hd, hv⟩ := h
    · exact ⟨['-'], _, rfl, hne, hd, .inl ⟨rfl, hv⟩⟩
    · exact ⟨['+'], _, rfl, hne, hd, .inr ⟨.inr rfl, by omega⟩⟩
    · exact ⟨[], _, rfl, hne, hd, .inr ⟨.inl rfl, by omega⟩⟩
  · rintro ⟨sign, digits, rfl, hne, hd, ⟨rfl, hv⟩ | ⟨rfl | rfl, hv⟩⟩
    · show (Option.map _ (parseUint (2 ^ 63) digits)).isSome = true
      rw [Option.isSome_map, parseUint_isSome]
      exact ⟨hne, hd, hv⟩
    · rw [nil_append, parseInt_digits hne hd hv]
      rfl
    · show (Option.map _ (parseUint (2 ^ 63 - 1) digits)).isSome = true
      rw [Option.isSome_map, parseUint_isSome]
      exact ⟨hne, hd, by omega⟩

theorem value_singleton_le {c : Char} (h : c.isDigit = true) : value [c] ≤ 9 := by
  unfold Char.isDigit at h
  rw [Bool.and_eq_true, decide_eq_true_iff, decide_eq_true_iff] at h
  have hle : c.toNat ≤ 57 := h.2
  show 10 * 0 + (c.toNat - 48) ≤ 9
  omega

theorem value_pair (c d : Char) : value [c, d] = 10 * value [c] + value [d] := by
  simp [value]

theorem parseInt_singleton {c : Char} : (parseInt [c]).isSome = true ↔ c.isDigit = true := by
  rw [parseInt_isSome]
  constructor
  · rintro ⟨sign, digits, he, hne, hd, -⟩
    rcases append_eq_singleton_iff.mp he.symm with ⟨-, rfl⟩ | ⟨-, rfl⟩
    · exact hd c (mem_singleton_self c)
    · exact absurd rfl hne
  · intro h
    have hv := value_singleton_le h
    exact ⟨[], [c], rfl, by simp, by simp [Digits, h], .inr ⟨.inl rfl, by omega⟩⟩

theorem parseInt_pair {c d : Char} : (parseInt [c, d]).isSome = true ↔
    (c.isDigit = true ∨ c = '-' ∨ c = '+') ∧ d.isDigit = true := by
  rw [parseInt_isSome]
  constructor
  · rintro ⟨sign, digits, he, hne, hd, ⟨rfl, -⟩ | ⟨rfl | rfl, -⟩⟩
    · cases he
      exact ⟨.inr (.inl rfl), hd d (mem_singleton_self d)⟩
    · cases he
      exact ⟨.inl (hd c (mem_cons_self ..)), hd d (by simp)⟩
    · cases he
      exact ⟨.inr (.inr rfl), hd d (mem_singleton_self d)⟩
  · rintro ⟨hc, hd⟩
    have hdl := value_singleton_le hd
    rcases hc with hc | rfl | rfl
    · have hb := value_pair c d
      have hcl := value_singleton_le hc
      exact ⟨[], _, rfl, by simp, by simp [Digits, hc, hd], .inr ⟨.inl rfl, by omega⟩⟩
    · exact ⟨['-'], [d], rfl, by simp, by simp [Digits, hd], .inl ⟨rfl, by omega⟩⟩
    · exact ⟨['+'], [d], rfl, by simp, by simp [Digits, hd], .inr ⟨.inr rfl, by omega⟩⟩

theorem parseMinor_isSome {f : Option (List Char)} :
    (parseMinor f).isSome = true ↔ LaxFraction f := by
  match f with
  | none | some [] => exact iff_of_true rfl trivial
  | some [c] =>
    show (Option.map _ (parseInt [c])).isSome = true ↔ _
    rw [Option.isSome_map]
    exact parseInt_singleton
  | some (c :: d :: _) => exact parseInt_pair

theorem parseMinor_digits {f : Option (List Char)} (h : Digits (f.getD [])) :
    parseMinor f = some (hundredths f : Int) := by
  match f, h with
  | none, _ | some [], _ => rfl
  | some [c], h =>
    have hc := value_singleton_le (h c (mem_cons_self ..))
    have hp : parseInt [c] = some (value [c] : Int) := parseInt_digits (by simp) h (by omega)
    simp [parseMinor, hundredths, hp]
  | some (c :: d :: cs), h =>
    have hc := h c (mem_cons_self ..)
    have hd := h d (by simp)
    have hb := value_pair c d
    have hcl := value_singleton_le hc
    have hdl := value_singleton_le hd
    exact parseInt_digits (by simp) (by simp [Digits, hc, hd]) (by omega)

variable {outer inner negative : Bool} {major : List Char} {fraction : Option (List Char)}

theorem toInt_paise (hf : Fits (paise negative major fraction)) :
    (if negative then -(Int64.ofInt (value major) * 100 + Int64.ofInt (hundredths fraction))
    else Int64.ofInt (value major) * 100 + Int64.ofInt (hundredths fraction)).toInt =
    paise negative major fraction := by
  have hs : Int64.ofInt (value major) * 100 + Int64.ofInt (hundredths fraction) =
      Int64.ofInt (value major * 100 + hundredths fraction) := by
    rw [Int64.ofInt_add, Int64.ofInt_mul]
    rfl
  have hr : (if negative then
      -(Int64.ofInt (value major) * 100 + Int64.ofInt (hundredths fraction))
      else Int64.ofInt (value major) * 100 + Int64.ofInt (hundredths fraction)) =
        Int64.ofInt (paise negative major fraction) := by
    rw [hs]
    unfold paise
    split
    · rw [← Int64.ofInt_neg, Int.neg_one_mul]
    · rw [Int.one_mul]
  unfold Fits at hf
  rw [hr, Int64.toInt_ofInt, show Int64.size = 2 ^ 64 from rfl, Int.bmod_eq_of_le] <;> omega

theorem value_major_lt (h : Fits (paise negative major fraction)) : value major < 2 ^ 63 := by
  unfold Fits paise at h
  split at h <;> omega

theorem parsePaise_digits {raw : String} (hl : lex raw = ⟨outer, inner, major, fraction⟩)
    (hne : major ≠ []) (hm : Digits major) (hd : Digits (fraction.getD []))
    (hf : Fits (paise (outer || inner) major fraction)) :
    ∃ v, parsePaise raw = .ok v ∧ v.toInt = paise (outer || inner) major fraction := by
  refine ⟨_, ?_, toInt_paise hf⟩
  unfold parsePaise
  rw [hl]
  simp only [parseInt_digits hne hm (value_major_lt hf), parseMinor_digits hd]
  rfl

end Reading

/-! ## What the parser cuts out of the text -/

section Cutting

variable {raw : String} {outer inner : Bool} {text w : List Char} {f : Option (List Char)}

theorem trims_self {cs : List Char} (h : ∀ c ∈ cs, isSpace c = false) : Trims cs cs := by
  have hd : ∀ l : List Char, (∀ c ∈ l, isSpace c = false) → l.dropWhile isSpace = l := by
    rintro (_ | ⟨c, l⟩) hl
    · rfl
    · exact dropWhile_cons_of_neg (by simp [hl c (mem_cons_self ..)])
  unfold Trims trimSpace
  rw [String.toList_ofList, hd cs h, hd _ fun c hc => h c (mem_reverse.mp hc), reverse_reverse]

theorem stripMinus_spec (s : String) :
    s.toList = mark '-' (stripMinus s).1 ++ (stripMinus s).2.toList ∧
    ((stripMinus s).1 = false → (stripMinus s).2.toList.head? ≠ some '-') := by
  unfold stripMinus
  split
  next cs hs => simp [mark, hs]
  next hs =>
    refine ⟨rfl, fun _ h => ?_⟩
    obtain ⟨cs, hc⟩ := head?_eq_some_iff.mp h
    exact hs cs hc

theorem trimSymbol_spec (s : String) : ∃ symbol,
    s.toList = mark '₹' symbol ++ (trimSymbol s).toList ∧
    (symbol = false → (trimSymbol s).toList.head? ≠ some '₹') := by
  unfold trimSymbol
  split
  next cs hs => exact ⟨true, by simp [mark, hs], fun h => nomatch h⟩
  next hs =>
    refine ⟨false, rfl, fun _ h => ?_⟩
    obtain ⟨cs, hc⟩ := head?_eq_some_iff.mp h
    exact hs cs hc

theorem stripMinus_mark (h : inner = false → text.head? ≠ some '-') :
    stripMinus (.ofList (mark '-' inner ++ text)) = (inner, .ofList text) := by
  unfold stripMinus
  rw [String.toList_ofList]
  cases inner with
  | true => rfl
  | false =>
    split
    next cs hs => exact absurd (congrArg head? hs) (h rfl)
    · rfl

theorem trimSymbol_mark {symbol : Bool} (h : symbol = false → text.head? ≠ some '₹') :
    trimSymbol (.ofList (mark '₹' symbol ++ text)) = .ofList text := by
  unfold trimSymbol
  rw [String.toList_ofList]
  cases symbol with
  | true => rfl
  | false =>
    split
    next cs hs => exact absurd (congrArg head? hs) (h rfl)
    · rfl

theorem point_split (hw : ∀ c ∈ w, c ≠ '.') : (w ++ point f).takeWhile (· ≠ '.') = w ∧
    (match (w ++ point f).dropWhile (· ≠ '.') with
      | [] => none
      | _ :: fraction => some fraction) = f := by
  have hp : ∀ c ∈ w, decide (c ≠ '.') = true := fun c hc => decide_eq_true (hw c hc)
  rw [takeWhile_append_of_pos hp, dropWhile_append_of_pos hp]
  cases f with
  | none => simp [point]
  | some f => simp [point]

theorem lex_of_written (h : Written raw outer inner text) (hw : ∀ c ∈ w, c ≠ '.')
    (hte : text.filter (· ≠ ',') = w ++ point f) : lex raw = ⟨outer, inner, w, f⟩ := by
  obtain ⟨symbol, s, t, hr, hs, hr', ht, hr'', hm⟩ := h
  have hraw : trimSpace raw = .ofList (mark '-' outer ++ s) := by
    rw [← hr, String.ofList_toList]
  have hcut : (if outer then trimSpace (.ofList s) else .ofList s) =
      .ofList (mark '₹' symbol ++ t) := by
    cases outer with
    | true => exact hr'
    | false =>
      have hsa : trimSpace (.ofList s) = .ofList s := by
        have hi := trimSpace_trimSpace raw
        rwa [hraw] at hi
      exact hsa.symm.trans hr'
  obtain ⟨hta, hdr⟩ := point_split (f := f) hw
  unfold lex
  rw [hraw, stripMinus_mark hs]
  dsimp only
  rw [hcut, trimSymbol_mark ht, hr'', stripMinus_mark hm]
  dsimp only
  rw [String.toList_ofList, hte, hta, hdr]

theorem split_point (cs : List Char) : cs = cs.takeWhile (· ≠ '.') ++
    point (match cs.dropWhile (· ≠ '.') with | [] => none | _ :: fraction => some fraction) := by
  have hdw := head?_dropWhile_not (· ≠ '.') cs
  nth_rewrite 1 [← takeWhile_append_dropWhile (p := (· ≠ '.')) (l := cs)]
  congr 1
  cases hdr : cs.dropWhile (· ≠ '.') with
  | nil => rfl
  | cons y f =>
    rw [hdr] at hdw
    rw [show y = '.' by simpa using hdw]
    rfl

theorem written_lex (raw : String) : ∃ text,
    Written raw (lex raw).minusBefore (lex raw).minusAfter text ∧
    text.filter (· ≠ ',') = (lex raw).major ++ point (lex raw).fraction := by
  obtain ⟨hm, hmf⟩ := stripMinus_spec (trimSpace raw)
  generalize hmi : stripMinus (trimSpace raw) = m at hm hmf
  -- without a minus the rest is the text as it was trimmed
  have hs : trimSpace m.2 = if m.1 then trimSpace m.2 else m.2 := by
    split
    · rfl
    next hne =>
      have hsa : m.2 = trimSpace raw := by
        rw [← String.toList_inj, hm, Bool.eq_false_iff.mpr hne]
        rfl
      rw [hsa, trimSpace_trimSpace]
  generalize hse : (if m.1 then trimSpace m.2 else m.2) = s₁ at hs
  obtain ⟨symbol, hsy, hsyf⟩ := trimSymbol_spec s₁
  obtain ⟨hn, hnf⟩ := stripMinus_spec (trimSpace (trimSymbol s₁))
  generalize hni : stripMinus (trimSpace (trimSymbol s₁)) = n at hn hnf
  have hlex : lex raw = ⟨m.1, n.1, (n.2.toList.filter (· ≠ ',')).takeWhile (· ≠ '.'),
      match (n.2.toList.filter (· ≠ ',')).dropWhile (· ≠ '.') with
      | [] => none
      | _ :: fraction => some fraction⟩ := by
    unfold lex
    rw [hmi]
    dsimp only
    rw [hse, hni]
  rw [hlex]
  refine ⟨n.2.toList, ⟨symbol, m.2.toList, (trimSymbol s₁).toList, ?_, hmf, ?_, hsyf, ?_, hnf⟩,
    split_point _⟩
  · rw [Trims, String.ofList_toList, ← hm, String.ofList_toList]
  · rw [Trims, String.ofList_toList, hs, ← hsy, String.ofList_toList]
  · rw [Trims, String.ofList_toList, ← hn, String.ofList_toList]

end Cutting

section Exact

variable {raw : String} {outer inner : Bool} {text sign digits : List Char}
  {fraction : Option (List Char)}

theorem lex_of_numeral (h : Written raw outer inner text)
    (ht : text.filter (· ≠ ',') = sign ++ digits ++ point fraction)
    (hd : Digits digits) (hs : sign = ['-'] ∨ sign = [] ∨ sign = ['+']) :
    lex raw = ⟨outer, inner, sign ++ digits, fraction⟩ := by
  refine lex_of_written h (fun c hc => ?_) ht
  rcases mem_append.mp hc with hc | hc
  · rcases hs with rfl | rfl | rfl
    · rw [mem_singleton.mp hc]
      decide
    · cases hc
    · rw [mem_singleton.mp hc]
      decide
  · rintro rfl
    cases hd _ hc

theorem lex_of_isAmount {n : Int} (h : IsAmount raw n) : ∃ outer inner major fraction,
    lex raw = ⟨outer, inner, major, fraction⟩ ∧ major ≠ [] ∧ Digits major ∧
    Digits (fraction.getD []) ∧ ¬ (outer = true ∧ inner = true) ∧
    n = paise (outer || inner) major fraction := by
  obtain ⟨outer, inner, text, major, fraction, hw, ht, hne, hm, hf, ho, hn⟩ := h
  exact ⟨outer, inner, major, fraction, lex_of_numeral hw
    (show _ = [] ++ _ ++ _ from ht) hm (.inr (.inl rfl)), hne, hm, hf, ho, hn⟩

theorem not_exact_of_lax (h : Lax raw) : ¬ Exact raw := by
  obtain ⟨outer, inner, text, sign, digits, fraction, hw, ht, hnu, hfr, hfault⟩ := h
  have hsi : sign = ['-'] ∨ sign = [] ∨ sign = ['+'] := hnu.2.2.imp And.left And.left
  have hl := lex_of_numeral hw ht hnu.2.1 hsi
  rintro ⟨-, he⟩
  have hno : ∀ n, IsAmount raw n → ¬ Fits n := by
    intro n hn hfi
    obtain ⟨o, i, major, f, hl', -, hm, hf, ho, rfl⟩ := lex_of_isAmount hn
    rw [hl] at hl'
    cases hl'
    have hnil : sign = [] := by
      refine hsi.elim ?_ fun hs => hs.elim id ?_
      · rintro rfl
        exact absurd (hm '-' (mem_cons_self ..)) (by decide)
      · rintro rfl
        exact absurd (hm '+' (mem_cons_self ..)) (by decide)
    rw [hnil, nil_append] at hfi
    rcases hfault with h | h | h | h
    · exact ho h
    · exact h hnil
    · exact h hf
    · exact h hfi
  obtain ⟨detail, hd⟩ := he hno
  obtain ⟨major, hma⟩ := Option.isSome_iff_exists.mp (parseInt_isSome.mpr ⟨sign, digits, rfl, hnu⟩)
  obtain ⟨minor, hmi⟩ := Option.isSome_iff_exists.mp (parseMinor_isSome.mpr hfr)
  unfold parsePaise at hd
  rw [hl] at hd
  simp only [hma, hmi] at hd
  cases hd

theorem exact_of_not_lax (h : ¬ Lax raw) : Exact raw := by
  constructor
  · intro n hn hf
    obtain ⟨outer, inner, major, fraction, hl, hne, hm, hd, -, rfl⟩ := lex_of_isAmount hn
    exact parsePaise_digits hl hne hm hd hf
  · intro hno
    cases hma : parseInt (lex raw).major with
    | none =>
      refine ⟨"major part " ++ .ofList (lex raw).major, ?_⟩
      unfold parsePaise
      simp only [hma]
    | some major =>
      cases hmi : parseMinor (lex raw).fraction with
      | none =>
        refine ⟨"fractional " ++ .ofList ((lex raw).fraction.getD []), ?_⟩
        unfold parsePaise
        simp only [hma, hmi]
      | some minor =>
        -- both calls succeed, so the text is lax unless it is an amount that fits
        obtain ⟨text, hw, ht⟩ := written_lex raw
        generalize lex raw = l at hma hmi hw ht
        obtain ⟨sign, digits, hs, hnu⟩ := parseInt_isSome.mp (Option.isSome_of_eq_some hma)
        have hfr := parseMinor_isSome.mp (Option.isSome_of_eq_some hmi)
        refine absurd ⟨_, _, text, sign, digits, _, hw, hs ▸ ht, hnu, hfr, ?_⟩ h
        by_contra hfault
        simp only [not_or, not_not] at hfault
        obtain ⟨ho, rfl, hd, hf⟩ := hfault
        rw [nil_append] at hs
        exact hno _ ⟨_, _, text, digits, _, hw, hs ▸ ht, hnu.1, hnu.2.1, hd, ho, rfl⟩ hf

end Exact

/-- `parsePaise` accepts exactly the amounts that fit, with their exact value, on every text that
is not lax. -/
theorem parsePaise_exact_iff (raw : String) : Exact raw ↔ ¬ Lax raw :=
  ⟨fun he hl => not_exact_of_lax hl he, exact_of_not_lax⟩

/-- Two minus signs are both stripped. -/
theorem doubleMinus_accepted : ¬ ∀ raw : String, Exact raw := by
  intro h
  refine not_exact_of_lax ?_ (h "--5")
  refine ⟨true, true, ['5'], [], ['5'], none, ⟨false, ['-', '5'], ['-', '5'], ?_⟩, by decide, ?_,
    trivial, .inl ⟨rfl, rfl⟩⟩
  · unfold Trims
    decide +kernel
  · exact ⟨by simp, by decide, .inr ⟨.inl rfl, by decide⟩⟩

/-! ## Formatting -/

inductive Currency where
  | inr
  | usd
  | eur
  | other (code : String)
  deriving DecidableEq

def Currency.string : Currency → String
  | inr => "INR"
  | usd => "USD"
  | eur => "EUR"
  | other code => code

def Currency.symbol : Currency → String
  | inr => "₹"
  | usd => "$"
  | eur => "€"
  | other _ => ""

def Currency.minorUnitsPerMajor : Currency → Int64
  | inr | usd | eur => 100
  | other _ => 0

/-- The loop that cuts groups off the end; `n` bounds its rounds. -/
def cutGroups (size : Nat) : Nat → List Char → List (List Char) → List (List Char)
  | n + 1, head, groups =>
    if size < head.length then
      cutGroups size n (head.take (head.length - size)) (head.drop (head.length - size) :: groups)
    else if head = [] then groups else head :: groups
  | 0, head, groups => head :: groups

def grouped (size : Nat) (n : Int) : List Char :=
  let s := pad 0 n
  if s.length ≤ 3 then s
  else
    [','].intercalate (cutGroups size s.length (s.take (s.length - 3)) []) ++
      ',' :: s.drop (s.length - 3)

def groupINR : Int → List Char := grouped 2

def groupWestern : Int → List Char := grouped 3

def format (minor : Int64) (c : Currency) : String :=
  let div := c.minorUnitsPerMajor
  if div = 0 then .ofList (pad 0 minor.toInt) ++ " " ++ c.string
  else
    let abs := if minor < 0 then -minor else minor
    let grouped := if c = .inr then groupINR (abs / div).toInt else groupWestern (abs / div).toInt
    c.symbol ++ .ofList ((if minor < 0 then ['-'] else []) ++ grouped ++
      '.' :: pad 2 (abs % div).toInt)

theorem flatten_cutGroups (size n : Nat) (he : List Char) (g : List (List Char)) :
    (cutGroups size n he g).flatten = he ++ g.flatten := by
  induction n generalizing he g with
  | zero => rfl
  | succ n ih =>
    unfold cutGroups
    split
    · rw [ih, flatten_cons, ← append_assoc, take_append_drop]
    · split <;> simp_all

theorem filter_intercalate (gs : List (List Char)) :
    ([','].intercalate gs).filter (· ≠ ',') = gs.flatten.filter (· ≠ ',') := by
  match gs with
  | [] => rfl
  | [g] => simp [List.intercalate]
  | g :: h :: gs =>
    have ih := filter_intercalate (h :: gs)
    simp_all [List.intercalate, List.intersperse]

theorem filter_groupINR (n : Nat) : (groupINR n).filter (· ≠ ',') = pad 0 n := by
  have hd : (pad 0 n).filter (· ≠ ',') = pad 0 n := filter_eq_self.mpr fun c hc =>
    decide_eq_true (by rintro rfl; exact absurd (isDigit_pad hc) (by decide))
  unfold groupINR grouped
  dsimp only
  split
  · exact hd
  · have hco (l : List Char) : (',' :: l).filter (· ≠ ',') = l.filter (· ≠ ',') := by simp
    rw [filter_append, filter_intercalate, hco, flatten_cutGroups, ← filter_append,
      flatten_nil, append_nil, take_append_drop, hd]

theorem lex_grouped (neg : Bool) {g : List Char} {n m : Nat} (hg : g.filter (· ≠ ',') = pad 0 n) :
    lex (.ofList ('₹' :: ((if neg then ['-'] else []) ++ g ++ '.' :: pad 2 m))) =
    ⟨false, neg, pad 0 n, some (pad 2 m)⟩ := by
  have hmi : (pad 2 m).filter (· ≠ ',') = pad 2 m := filter_eq_self.mpr fun c hc =>
    decide_eq_true (by rintro rfl; exact absurd (isDigit_pad hc) (by decide))
  have hcs : ∀ c ∈ g ++ '.' :: pad 2 m, c = ',' ∨ c = '.' ∨ c.isDigit = true := by
    intro c hc
    rcases Decidable.em (c = ',') with rfl | hco
    · exact .inl rfl
    · rcases mem_append.mp hc with hc | hc
      · exact .inr (.inr (isDigit_pad (hg ▸ mem_filter.mpr ⟨hc, decide_eq_true hco⟩)))
      · exact .inr ((mem_cons.mp hc).imp id isDigit_pad)
  have hsp : ∀ c ∈ mark '-' neg ++ (g ++ '.' :: pad 2 m), isSpace c = false := by
    intro c hc
    rcases mem_append.mp hc with hc | hc
    · rw [show c = '-' by cases neg <;> simp_all [mark]]
      decide
    · rcases hcs c hc with rfl | rfl | hd
      · decide
      · decide
      · exact isSpace_of_isDigit hd
  have hraw : ∀ c ∈ '₹' :: (mark '-' neg ++ (g ++ '.' :: pad 2 m)), isSpace c = false :=
    forall_mem_cons.mpr ⟨by decide, hsp⟩
  have hco : (g ++ '.' :: pad 2 m).filter (· ≠ ',') = [] ++ pad 0 n ++ point (some (pad 2 m)) := by
    rw [filter_append, hg, filter_cons_of_pos (by decide), hmi]
    rfl
  show lex _ = ⟨false, neg, [] ++ pad 0 n, some (pad 2 m)⟩
  refine lex_of_numeral ⟨true, _, _, ?_, fun _ => ?_, trims_self hraw, nofun, trims_self hsp,
    fun _ hh => ?_⟩ hco (fun _ => isDigit_pad) (.inr (.inl rfl))
  · rw [String.toList_ofList, append_assoc]
    exact trims_self hraw
  · simp [mark]
  · exact absurd (hcs '-' (mem_of_mem_head? hh)) (by decide)

theorem toInt_abs {p : Int64} (hm : p ≠ Int64.minValue) :
    (if p < 0 then -p else p).toInt = p.toInt.natAbs := by
  have hl := p.le_toInt
  have hh := p.toInt_lt
  have hne : p.toInt ≠ -2 ^ 63 := fun h => hm (Int64.toInt_inj.mp h)
  have hz : p < 0 ↔ p.toInt < 0 := Int64.lt_iff_toInt_lt
  split
  next h =>
    have hn := hz.mp h
    rw [Int64.toInt_neg, Int.bmod_eq_of_le] <;> omega
  next h =>
    have hn := hz.not.mp h
    omega

theorem format_inr {p : Int64} (hm : p ≠ Int64.minValue) :
    format p .inr = .ofList ('₹' :: ((if p < 0 then ['-'] else []) ++
    groupINR (p.toInt.natAbs / 100 : Nat) ++ '.' :: pad 2 (p.toInt.natAbs % 100 : Nat))) := by
  have ha := toInt_abs hm
  have hh := (if p < 0 then -p else p).toInt_lt
  unfold format
  generalize (if p < 0 then -p else p) = abs at ha hh
  have hq : (abs / Currency.inr.minorUnitsPerMajor).toInt = (p.toInt.natAbs / 100 : Nat) := by
    rw [Int64.toInt_div, ha, show Currency.inr.minorUnitsPerMajor.toInt = 100 from rfl,
      Int.tdiv_eq_ediv_of_nonneg (Int.natCast_nonneg _), Int.bmod_eq_of_le] <;> omega
  have hr : (abs % Currency.inr.minorUnitsPerMajor).toInt = (p.toInt.natAbs % 100 : Nat) := by
    rw [Int64.toInt_mod, ha, show Currency.inr.minorUnitsPerMajor.toInt = 100 from rfl,
      Int.tmod_eq_emod_of_nonneg (Int.natCast_nonneg _)]
    rfl
  rw [if_neg (by decide)]
  dsimp only
  rw [if_pos rfl, hq, hr]
  rw [← String.toList_inj]
  simp [Currency.symbol]

theorem parsePaise_format (p : Int64) : parsePaise (format p .inr) = .ok p := by
  rcases Decidable.em (p = Int64.minValue) with rfl | hmi
  · decide +kernel
  have hl := lex_grouped (m := p.toInt.natAbs % 100) (decide (p < 0))
    (filter_groupINR (p.toInt.natAbs / 100))
  simp only [decide_eq_true_eq] at hl
  rw [← format_inr hmi] at hl
  have hz : p < 0 ↔ p.toInt < 0 := Int64.lt_iff_toInt_lt
  have hm : hundredths (some (pad 2 (p.toInt.natAbs % 100 : Nat))) = p.toInt.natAbs % 100 := by
    have hle := length_pad (w := 2) (by decide) (Nat.mod_lt p.toInt.natAbs (by decide : 0 < 100))
    have hva := ofDigitChars_pad (w := 2) (n := p.toInt.natAbs % 100)
    match pad 2 (p.toInt.natAbs % 100 : Nat), hle, hva with
    | [_, _], _, hva => exact hva
  have hma : value (pad 0 (p.toInt.natAbs / 100 : Nat)) = p.toInt.natAbs / 100 := ofDigitChars_pad
  have hp : paise (false || decide (p < 0)) (pad 0 (p.toInt.natAbs / 100 : Nat))
      (some (pad 2 (p.toInt.natAbs % 100 : Nat))) = p.toInt := by
    rw [paise, hma, hm]
    simp only [Bool.false_or, decide_eq_true_eq, hz]
    split <;> omega
  have hne : pad 0 (p.toInt.natAbs / 100 : Nat) ≠ [] := by
    rw [pad_natCast]
    simp [Nat.toDigits_ne_nil]
  obtain ⟨v, hv, hi⟩ := parsePaise_digits hl hne (fun _ => isDigit_pad) (fun _ => isDigit_pad)
    (hp.symm ▸ ⟨p.le_toInt, p.toInt_lt⟩ : Fits _)
  rw [hv, Int64.toInt_inj.mp (hi.trans hp)]

end Leadkart.Money
