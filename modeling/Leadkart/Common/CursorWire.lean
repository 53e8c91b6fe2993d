import Leadkart.Common.Basic

/-!
# Cursors on the wire
-/

namespace Leadkart

namespace Time

def InYears (t : Time) : Prop := -366 * day ≤ t ∧ t < 3652059 * day

instance (t : Time) : Decidable (InYears t) := inferInstanceAs (Decidable (_ ∧ _))

end Time

def errInvalidCursor : Sentinel := ⟨.unknown, "", "pagination: invalid cursor"⟩

structure Wire where
  /-- `json.Marshal`; `none` is an error. -/
  marshal : Cursor → Option String
  /-- `json.Unmarshal`, with the text of its error. -/
  unmarshal : String → Except String Cursor
  /-- `base64.RawURLEncoding`. -/
  encodeToString : String → String
  decodeString : String → Except String String

namespace Wire

structure Lawful (w : Wire) : Prop where
  marshal_isSome : ∀ c, c.sortValue.InYears → (w.marshal c).isSome = true
  unmarshal_marshal : ∀ c raw, w.marshal c = some raw → w.unmarshal raw = .ok c
  decode_encode : ∀ raw, w.decodeString (w.encodeToString raw) = .ok raw
  encode_ne_empty : ∀ c raw, w.marshal c = some raw → w.encodeToString raw ≠ ""

variable (w : Wire)

def encode (c : Cursor) : Option String :=
  if c.id = "" ∧ c.sortValue.isZero then some ""
  else (w.marshal c).map w.encodeToString

def decode (s : String) : Except Err Cursor :=
  if s = "" then .ok {}
  else do
    let raw ← (w.decodeString s).mapError fun e => ⟨errInvalidCursor, "base64: " ++ e⟩
    (w.unmarshal raw).mapError fun e => ⟨errInvalidCursor, "json: " ++ e⟩

variable {w} {c : Cursor}

theorem Lawful.decode_encoded (hw : w.Lawful) (hc : c.sortValue.InYears) :
    ∃ token, w.encode c = some token ∧ w.decode token = .ok c := by
  unfold encode
  split
  · rename_i he
    refine ⟨"", rfl, congrArg Except.ok ?_⟩
    obtain ⟨t, id⟩ := c
    obtain ⟨rfl, hz⟩ := he
    obtain rfl : t = 0 := beq_iff_eq.mp hz
    rfl
  · obtain ⟨raw, hr⟩ := Option.isSome_iff_exists.mp (hw.marshal_isSome c hc)
    refine ⟨w.encodeToString raw, by rw [hr]; rfl, ?_⟩
    unfold decode
    rw [if_neg (hw.encode_ne_empty c raw hr), hw.decode_encode]
    show (w.unmarshal raw).mapError _ = _
    rw [hw.unmarshal_marshal c raw hr]
    rfl

def unaryText (c : Cursor) : List Char :=
  List.replicate (c.sortValue + 366 * day).toNat 'n' ++ '|' :: c.id.toList

def unaryWire : Wire where
  marshal c := if c.sortValue.InYears then some (String.ofList (unaryText c)) else none
  unmarshal raw :=
    let nanos := (raw.toList.takeWhile (· = 'n')).length
    .ok ⟨nanos - 366 * day, String.ofList (raw.toList.drop (nanos + 1))⟩
  encodeToString raw := raw
  decodeString s := .ok s

theorem unaryWire_eq_some {raw : String} (h : unaryWire.marshal c = some raw) :
    c.sortValue.InYears ∧ raw.toList = unaryText c := by
  obtain ⟨hc, hr⟩ := Option.ite_none_right_eq_some.mp h
  rw [← Option.some.inj hr, String.toList_ofList]
  exact ⟨hc, rfl⟩

theorem unaryWire_lawful : unaryWire.Lawful where
  marshal_isSome c hc := by simp [unaryWire, hc]
  unmarshal_marshal c raw h := by
    obtain ⟨hc, hr⟩ := unaryWire_eq_some h
    have hn : ((unaryText c).takeWhile (· = 'n')).length = (c.sortValue + 366 * day).toNat := by
      unfold unaryText
      rw [List.takeWhile_append_of_pos (by simp)]
      simp
    have hid : (unaryText c).drop ((c.sortValue + 366 * day).toNat + 1) = c.id.toList := by
      simp [unaryText, List.drop_append]
    have hb : ∀ t : Int, -366 * 86400000000000 ≤ t →
        ((t + 366 * 86400000000000).toNat : Int) - 366 * 86400000000000 = t := by
      intro t ht
      omega
    have hti : ((c.sortValue + 366 * day).toNat : Int) - 366 * day = c.sortValue :=
      hb c.sortValue hc.1
    simp only [unaryWire, hr, hn, hid, hti, String.ofList_toList]
  decode_encode _ := rfl
  encode_ne_empty c raw h := by
    rintro (he : raw = "")
    have hr := (unaryWire_eq_some h).2
    rw [he] at hr
    simp [unaryText] at hr

end Wire

end Leadkart
