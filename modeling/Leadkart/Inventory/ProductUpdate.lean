import Mathlib.Data.List.Sort
import Mathlib.Data.String.Basic
import Leadkart.Inventory.Product
import Leadkart.Logic.Fields

/-!
# Updates of a product
-/

namespace Leadkart.Product

structure UpdateSpec where
  name : Option String := none
  gstRateBps : Option Int := none
  isActive : Option Bool := none
  manufacturer : Option String := none
  (reorderLevel expiryAlertThresholdDays : Option Int := none)
  productCategory : Option String := none

inductive Field where
  | name | gstRateBps | isActive | manufacturer | reorderLevel | expiryAlertThresholdDays
  | productCategory
  deriving DecidableEq

namespace Field

def label : Field → String
  | name => "name"
  | gstRateBps => "gst_rate_bps"
  | isActive => "is_active"
  | manufacturer => "manufacturer"
  | reorderLevel => "reorder_level"
  | expiryAlertThresholdDays => "expiry_alert_threshold_days"
  | productCategory => "product_category"

def basic : List Field := [name, gstRateBps, isActive, manufacturer]

def extended : List Field := [reorderLevel, expiryAlertThresholdDays, productCategory]

abbrev Value : Field → Type
  | name | manufacturer | productCategory => String
  | gstRateBps | reorderLevel | expiryAlertThresholdDays => Int
  | isActive => Bool

def get : (f : Field) → Product → f.Value
  | name, p => p.name
  | gstRateBps, p => p.gstRateBps
  | isActive, p => p.isActive
  | manufacturer, p => p.manufacturer
  | reorderLevel, p => p.reorderLevel
  | expiryAlertThresholdDays, p => p.expiryAlertThresholdDays
  | productCategory, p => p.productCategory

def set : (f : Field) → f.Value → Product → Product
  | name, v, p => { p with name := v }
  | gstRateBps, v, p => { p with gstRateBps := v }
  | isActive, v, p => { p with isActive := v }
  | manufacturer, v, p => { p with manufacturer := v }
  | reorderLevel, v, p => { p with reorderLevel := v }
  | expiryAlertThresholdDays, v, p => { p with expiryAlertThresholdDays := v }
  | productCategory, v, p => { p with productCategory := v }

theorem label_injective : Function.Injective label := by
  intro f g h
  cases f <;> cases g <;> first | rfl | exact absurd h (by decide)

theorem mem_order (f : Field) : f ∈ basic ++ extended := by
  cases f <;> decide

theorem nodup_order : (basic ++ extended).Nodup := by decide

end Field

abbrev fields : Fields Product Field where
  Value := Field.Value
  decEq
    | .name | .manufacturer | .productCategory => inferInstanceAs (DecidableEq String)
    | .gstRateBps | .reorderLevel | .expiryAlertThresholdDays => inferInstanceAs (DecidableEq Int)
    | .isActive => inferInstanceAs (DecidableEq Bool)
  get := Field.get
  set := Field.set
  get_set_self f v p := by cases f <;> rfl
  get_set_of_ne {f g} v p hne := by cases f <;> cases g <;> first | rfl | exact absurd rfl hne

def UpdateSpec.cleaned (spec : UpdateSpec) : (f : Field) → Option (Except Err f.Value)
  | .name => spec.name.map fun raw => validateBoundedTrim raw "name" nameMinLength nameMaxLength
  | .gstRateBps => spec.gstRateBps.map fun v => (checkGSTRateBps v).map fun _ => v
  | .isActive => spec.isActive.map .ok
  | .manufacturer => spec.manufacturer.map cleanManufacturer
  | .reorderLevel => spec.reorderLevel.map fun v =>
      (checkAtLeast "reorder_level" reorderLevelMin v).map fun _ => v
  | .expiryAlertThresholdDays => spec.expiryAlertThresholdDays.map fun v =>
      (checkAtLeast "expiry_alert_threshold_days" expiryAlertThresholdDaysMin v).map fun _ => v
  | .productCategory => spec.productCategory.map cleanCategory

def applyExtendedUpdates (p : Product) (spec : UpdateSpec) : Product × Except Err (List Field) :=
  fields.assignAll spec.cleaned Field.extended p

def announce (p : Product) (actorID : String) (changed : List Field) (now : Time) : Product :=
  if changed = [] then p
  else recordEvent { p with updatedAt := now } (.updated p.id p.tenantID actorID
    ((changed.map Field.label).insertionSort (· ≤ ·)) now)

def update (p : Product) (actorID : String) (spec : UpdateSpec) (now : Time) :
    Product × Except Err Unit :=
  if p.deleted then (p, .error ⟨errDeleted, "cannot update deleted product"⟩)
  else if actorID = "" then (p, .error ⟨errInvalid, "actorID required"⟩)
  else
    match fields.assignAll spec.cleaned Field.basic p with
    | (p', .error e) => (p', .error e)
    | (p', .ok changed) =>
      match applyExtendedUpdates p' spec with
      | (p'', .error e) => (p'', .error e)
      | (p'', .ok more) => (p''.announce actorID (changed ++ more) now, .ok ())

def activate (p : Product) (actorID : String) (now : Time) : Product × Except Err Unit :=
  p.update actorID { isActive := some true } now

def deactivate (p : Product) (actorID : String) (now : Time) : Product × Except Err Unit :=
  if !p.isActive then (p, .ok ())
  else
    match p.update actorID { isActive := some false } now with
    | (p', .error e) => (p', .error e)
    | (p', .ok ()) =>
      (recordEvent p' (.deactivated p'.id p'.tenantID actorID p'.updatedAt), .ok ())

section

variable {p : Product} {actorID : String} {spec : UpdateSpec} {now : Time}

theorem update_eq (hl : p.deleted = false) (ha : actorID ≠ "") : p.update actorID spec now =
      match fields.assignAll spec.cleaned (Field.basic ++ Field.extended) p with
      | (p', .error e) => (p', .error e)
      | (p', .ok changed) => (p'.announce actorID changed now, .ok ()) := by
  unfold update applyExtendedUpdates
  rw [hl, if_neg Bool.false_ne_true, if_neg ha, Fields.assignAll_append]
  rcases fields.assignAll spec.cleaned Field.basic p with ⟨p', e | changed⟩
  · rfl
  · dsimp only
    rcases fields.assignAll spec.cleaned Field.extended p' with ⟨p'', e | more⟩ <;> rfl

def rest (p : Product) : Product :=
  { p with
    name := "", gstRateBps := 0, isActive := false, manufacturer := "", reorderLevel := 0
    expiryAlertThresholdDays := 0, productCategory := "" }

theorem rest_set (f : Field) (v : f.Value) (p : Product) : rest (fields.set f v p) = rest p := by
  cases f <;> rfl

theorem rest_assignAll (spec : UpdateSpec) (fs : List Field) (p : Product) :
    rest (fields.assignAll spec.cleaned fs p).1 = rest p := Fields.assignAll_frame rest_set

structure Announced (p p' : Product) (actorID : String) (now : Time) (changed : List String) :
    Prop where
  events : p'.events = p.events ++ [.updated p.id p.tenantID actorID changed now]
  updatedAt : p'.updatedAt = now
  rest : { p'.rest with events := p.events, updatedAt := p.updatedAt } = p.rest
  nodup : changed.Nodup
  labels (t : String) : t ∈ changed ↔ ∃ f : Field, f.label = t ∧ f.get p' ≠ f.get p

variable {p' : Product}

theorem Announced.same {changed : List String} (h : Announced p p' actorID now changed) :
    p'.id = p.id ∧ p'.deleted = p.deleted := by
  have hid := congrArg Product.id h.rest
  have hd := congrArg Product.deleted h.rest
  exact ⟨hid, hd⟩

structure Atomic (p : Product) (actorID : String) (now : Time)
    (result : Product × Except Err Unit) : Prop where
  failed (e : Err) : result.2 = .error e → result.1 = p
  silent : result.2 = .ok () → result.1.events = p.events → result.1 = p
  announced : result.2 = .ok () → result.1.events ≠ p.events →
    ∃ changed, Announced p result.1 actorID now changed

theorem announce_announced {changed : List Field} (hr : rest p' = rest p)
    (hn : changed.Nodup) (hne : changed ≠ []) (hm : ∀ f, f ∈ changed ↔ f.get p' ≠ f.get p) :
    Announced p (p'.announce actorID changed now) actorID now
    ((changed.map Field.label).insertionSort (· ≤ ·)) := by
  have hid : p'.rest.id = p.rest.id := congrArg Product.id hr
  have ht : p'.rest.tenantID = p.rest.tenantID := congrArg Product.tenantID hr
  have he : p'.rest.events = p.rest.events := congrArg Product.events hr
  have hu : p'.rest.updatedAt = p.rest.updatedAt := congrArg Product.updatedAt hr
  have hg : ∀ f : Field, f.get (p'.announce actorID changed now) = f.get p' := by
    intro f
    unfold announce
    rw [if_neg hne]
    cases f <;> rfl
  refine ⟨?_, ?_, ?_, ?_, fun t => ?_⟩
  · unfold announce
    rw [if_neg hne]
    show p'.events ++ [.updated p'.id p'.tenantID _ _ _] = _
    rw [show p'.events = p.events from he, show p'.id = p.id from hid,
      show p'.tenantID = p.tenantID from ht]
  · unfold announce
    rw [if_neg hne]
    rfl
  · rw [← hr]
    unfold announce
    rw [if_neg hne, show p.events = p'.events from he.symm,
      show p.updatedAt = p'.updatedAt from hu.symm]
    rfl
  · rw [(List.perm_insertionSort ..).nodup_iff]
    exact hn.map Field.label_injective
  · rw [List.mem_insertionSort, List.mem_map]
    exact exists_congr fun f => by rw [hm, hg, and_comm]

theorem update_silent_or_announced (hl : p.deleted = false) (ha : actorID ≠ "")
    (h : (p.update actorID spec now).2 = .ok ()) : (p.update actorID spec now).1 = p ∨
    ∃ changed, Announced p (p.update actorID spec now).1 actorID now changed := by
  rw [update_eq hl ha] at h ⊢
  have hre := rest_assignAll spec (Field.basic ++ Field.extended) p
  rcases hr : fields.assignAll spec.cleaned (Field.basic ++ Field.extended) p with
    ⟨p', e | changed⟩
  · rw [hr] at h
    cases h
  · obtain ⟨hs, hn, hm⟩ := Fields.assignAll_ok Field.nodup_order (congrArg Prod.snd hr)
    rw [hr] at hn hm hre
    by_cases hne : changed = []
    · exact .inl ((if_pos hne).trans (hn hne))
    · exact .inr ⟨_, announce_announced hre (hs.nodup Field.nodup_order) hne fun f =>
        hm f f.mem_order⟩

theorem update_eq_ok (h : (p.update actorID spec now).2 = .ok ()) :
    (p.update actorID spec now).1 = p ∨
    ∃ changed, Announced p (p.update actorID spec now).1 actorID now changed := by
  have hl : p.deleted ≠ true := by
    intro hd
    rw [update, if_pos hd] at h
    cases h
  have ha : actorID ≠ "" := by
    intro he
    rw [update, if_neg hl, if_pos he] at h
    cases h
  exact update_silent_or_announced (Bool.eq_false_of_not_eq_true hl) ha h

end

theorem update_atomic_iff (p : Product) (actorID : String) (spec : UpdateSpec) (now : Time) :
    Atomic p actorID now (p.update actorID spec now) ↔ p.deleted = true ∨ actorID = "" ∨
    fields.changesBeforeFailure spec.cleaned (Field.basic ++ Field.extended) p = false := by
  by_cases hl : p.deleted = true
  · have hu : p.update actorID spec now = (p, .error _) := if_pos hl
    rw [hu]
    exact iff_of_true ⟨fun _ _ => rfl, fun _ _ => rfl, fun h => nomatch h⟩ (.inl hl)
  by_cases ha : actorID = ""
  · have hu : p.update actorID spec now = (p, .error _) := (if_neg hl).trans (if_pos ha)
    rw [hu]
    exact iff_of_true ⟨fun _ _ => rfl, fun _ _ => rfl, fun h => nomatch h⟩ (.inr (.inl ha))
  rw [or_iff_right hl, or_iff_right ha,
    ← Fields.assignAll_error_iff (F := fields) Field.nodup_order]
  have hl := Bool.eq_false_of_not_eq_true hl
  -- a failure of the update is one of its fields
  have hf : (∀ e, (p.update actorID spec now).2 = .error e →
      (p.update actorID spec now).1 = p) ↔ ∀ e,
      (fields.assignAll spec.cleaned (Field.basic ++ Field.extended) p).2 = .error e →
        (fields.assignAll spec.cleaned (Field.basic ++ Field.extended) p).1 = p := by
    rw [update_eq hl ha]
    rcases fields.assignAll spec.cleaned (Field.basic ++ Field.extended) p with ⟨p', e | changed⟩
    · exact forall_congr' fun e' => by simp
    · exact iff_of_true (fun _ h => nomatch h) fun _ h => nomatch h
  rw [← hf]
  refine ⟨Atomic.failed, fun h => ⟨h, fun hok he => ?_, fun hok he => ?_⟩⟩
  · rcases update_silent_or_announced hl ha hok with hs | ⟨changed, han⟩
    · exact hs
    · rw [han.events] at he
      exact absurd (List.append_right_eq_self.mp he) (List.cons_ne_nil _ _)
  · rcases update_silent_or_announced hl ha hok with hs | han
    · exact absurd (congrArg Product.events hs) he
    · exact han

def tabletsRow : Row where
  val :=
    { tenantID := 1, sku := "PCM-500", name := "Paracetamol", dosageForm := "Tablet"
      packSize := "10x10", hsnCode := "3004", gstRateBps := 1200, manufacturer := "Acme"
      isActive := true, createdAt := 1, updatedAt := 1, reorderLevel := 0
      expiryAlertThresholdDays := 90, productCategory := "General" }
  property := by decide

def tablets : Product := rowToProduct unaryCodec 0 tabletsRow.1

theorem update_refused_first :
    ∃ e, tablets.update "xxx" { gstRateBps := some 10001, reorderLevel := some 5 } 2 =
        (tablets, .error e) ∧
      Atomic tablets "xxx" 2
        (tablets.update "xxx" { gstRateBps := some 10001, reorderLevel := some 5 } 2) :=
  ⟨_, rfl, (update_atomic_iff ..).mpr (.inr (.inr (by decide +kernel)))⟩

theorem update_applied_in_part :
    ∃ e, (tablets.update "xxx" { name := some "Ibuprofen", gstRateBps := some 10001 } 2).2 =
        .error e ∧
      (tablets.update "xxx" { name := some "Ibuprofen", gstRateBps := some 10001 } 2).1.name ≠
        tablets.name ∧
      ¬Atomic tablets "xxx" 2
        (tablets.update "xxx" { name := some "Ibuprofen", gstRateBps := some 10001 } 2) := by
  have hname : (tablets.update "xxx"
      { name := some "Ibuprofen", gstRateBps := some 10001 } 2).1.name ≠ tablets.name := by
    decide +kernel
  have hf : (tablets.update "xxx" { name := some "Ibuprofen", gstRateBps := some 10001 } 2).2 =
      .error ⟨errInvalid, "gst_rate_bps 10001 not in [0,10000]"⟩ := by decide +kernel
  exact ⟨_, hf, hname, fun h => hname (congrArg Product.name (h.failed _ hf))⟩

end Leadkart.Product
