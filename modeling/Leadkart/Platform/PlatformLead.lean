import Leadkart.Platform.UnverifiedContact

/-!
# Marketplace leads
-/

namespace Leadkart

open Effect

namespace PlatformLead

def errInvalid : Sentinel := ⟨.unknown, "", "platformlead: invalid"⟩
def errAlreadyPurchased : Sentinel := ⟨.unknown, "", "platformlead: already purchased by tenant"⟩
def errSoldOut : Sentinel := ⟨.unknown, "", "platformlead: sold out (sale limit reached)"⟩
def errNotFound : Sentinel := ⟨.unknown, "", "platformlead: not found"⟩

inductive Tier where
  | standard
  | priority
  | premium

def Tier.string : Tier → String
  | standard => "standard"
  | priority => "priority"
  | premium => "premium"

structure TierConfig where
  defaultSaleLimit : Int
  basePricePaisa : Int64

inductive Event where
  | verified (platformLeadID : String) (verifiedAt : Time) (verifiedByMembershipID : String)
  | purchased (platformLeadID purchaseID tenantID : String) (purchasedAt : Time)
      (purchasedByMembershipID : String) (amountPaisa : Int64)

end PlatformLead

structure LeadPurchase where
  (id leadID tenantID membershipID : String)
  amountPaisa : Int64
  purchasedAt : Time

structure PlatformLead where
  (id sourceContactID : String)
  form : LeadForm
  gstVerified : Bool := false
  tier : PlatformLead.Tier
  saleLimit : Option Int := none
  buyers : List String := []
  verifiedAt : Time
  verifiedByMembershipID : String
  createdAt : Time
  pendingPurchases : List LeadPurchase := []
  events : List PlatformLead.Event := []

namespace PlatformLead

def recordEvent (l : PlatformLead) (e : Event) : PlatformLead :=
  { l with events := l.events ++ [e] }

def newFromUnverifiedContact (codec : UuidCodec) (id sourceContactID : String) (form : LeadForm)
    (verifiedBy : String) (now : Time) : Except Err PlatformLead := do
  codec.validateUUID errInvalid "id" id
  codec.validateUUID errInvalid "sourceContactID" sourceContactID
  codec.validateUUID errInvalid "verifiedBy" verifiedBy
  if now.isZero then .error ⟨errInvalid, "now required"⟩
  else if isBlank form.contactName then .error ⟨errInvalid, "form must be populated"⟩
  else
    return recordEvent
      { id, sourceContactID, form, tier := .standard, verifiedAt := now
        verifiedByMembershipID := verifiedBy, createdAt := now }
      (.verified id now verifiedBy)

structure Row where
  (id sourceContactID : UUID)
  tier : Tier
  saleLimit : Option Int
  form : LeadForm
  gstVerified : Bool
  verifiedAt : Time
  verifiedByMembershipID : UUID
  createdAt : Time

def rowOf (codec : UuidCodec) (l : PlatformLead) : Except Err Row := do
  let id ← codec.parseOr "platform lead repo: parse id: " l.id
  let sourceContactID ← codec.parseOr "platform lead repo: parse source id: " l.sourceContactID
  let verifiedByMembershipID ←
    codec.parseOr "platform lead repo: parse verified_by: " l.verifiedByMembershipID
  return {
    id, sourceContactID
    tier := l.tier
    saleLimit := l.saleLimit
    form := l.form
    gstVerified := l.gstVerified
    verifiedAt := l.verifiedAt
    verifiedByMembershipID
    createdAt := l.createdAt }

variable {codec : UuidCodec} {now : Time} {l : PlatformLead}

theorem newFromUnverifiedContact_ids {id sourceContactID v : String} {form : LeadForm}
    (h : newFromUnverifiedContact codec id sourceContactID form v now = .ok l) :
    l.id = id ∧ l.sourceContactID = sourceContactID := by
  simp only [newFromUnverifiedContact, except_bind_eq_ok] at h
  obtain ⟨_, _, _, _, _, _, h⟩ := h
  split at h
  · cases h
  split at h
  · cases h
  cases h
  exact ⟨rfl, rfl⟩

theorem rowOf_ids {row : Row} (h : rowOf codec l = .ok row) :
    codec.parse l.id = some row.id ∧ codec.parse l.sourceContactID = some row.sourceContactID := by
  simp only [rowOf, except_bind_eq_ok] at h
  obtain ⟨id, hid, source, hs, _, _, h⟩ := h
  cases h
  exact ⟨UuidCodec.parse_of_parseOr hid, UuidCodec.parse_of_parseOr hs⟩

def volumeDiscountBpsPerShare : Int64 := 500
def volumeDiscountBpsCap : Int64 := 3000
def totalDiscountBpsCap : Int64 := 5000
def bpsDenominator : Int64 := 10000

def totalDiscountBps (priorShareCount packageDiscountBps : Int64) : Int64 :=
  let volumeBps := priorShareCount * volumeDiscountBpsPerShare
  let volumeBps := if volumeDiscountBpsCap < volumeBps then volumeDiscountBpsCap else volumeBps
  let packageDiscountBps := if packageDiscountBps < 0 then 0 else packageDiscountBps
  let totalBps := volumeBps + packageDiscountBps
  if totalDiscountBpsCap < totalBps then totalDiscountBpsCap else totalBps

def computePurchasePricePaisa (tierBasePaisa : Int64) (priorShareCount packageDiscountBps : Int) :
    Int64 :=
  if tierBasePaisa ≤ 0 then 0
  else
    let totalBps := totalDiscountBps (.ofInt priorShareCount) (.ofInt packageDiscountBps)
    let price := tierBasePaisa * (bpsDenominator - totalBps) / bpsDenominator
    if price < 1 then 1 else price

def purchaseCount (l : PlatformLead) : Int := l.buyers.length

def effectiveSaleLimit (l : PlatformLead) (tierDefaultLimit : Int) : Int :=
  l.saleLimit.getD tierDefaultLimit

def hasBuyer (l : PlatformLead) (tenantID : String) : Bool := tenantID ∈ l.buyers

def boughtBy (l : PlatformLead) (p : LeadPurchase) : PlatformLead :=
  recordEvent
    { l with buyers := l.buyers ++ [p.tenantID], pendingPurchases := l.pendingPurchases ++ [p] }
    (.purchased l.id p.id p.tenantID p.purchasedAt p.membershipID p.amountPaisa)

def recordPurchase (codec : UuidCodec) (l : PlatformLead)
    (purchaseID tenantID purchasingMembershipID : String) (amountPaisa : Int64)
    (tierDefaultLimit : Int) (now : Time) : Except Err PlatformLead := do
  codec.validateUUID errInvalid "purchaseID" purchaseID
  codec.validateUUID errInvalid "tenantID" tenantID
  codec.validateUUID errInvalid "purchasingMembershipID" purchasingMembershipID
  if amountPaisa ≤ 0 then .error ⟨errInvalid, "amountPaisa must be positive"⟩
  else if tierDefaultLimit ≤ 0 then .error ⟨errInvalid, "tierDefaultLimit must be positive"⟩
  else if l.hasBuyer tenantID then .error ⟨errAlreadyPurchased, ""⟩
  else if l.effectiveSaleLimit tierDefaultLimit ≤ l.purchaseCount then .error ⟨errSoldOut, ""⟩
  else
    return l.boughtBy
      { id := purchaseID, leadID := l.id, tenantID, membershipID := purchasingMembershipID
        amountPaisa, purchasedAt := now }

theorem recordPurchase_eq_ok {l' : PlatformLead}
    {purchaseID tenantID membershipID : String} {amountPaisa : Int64} {limit : Int}
    (h : l.recordPurchase codec purchaseID tenantID membershipID amountPaisa limit now = .ok l') :
    tenantID ∉ l.buyers ∧ l.purchaseCount < l.effectiveSaleLimit limit ∧ l' = l.boughtBy
    { id := purchaseID, leadID := l.id, tenantID, membershipID
      amountPaisa, purchasedAt := now } := by
  simp only [recordPurchase, except_bind_eq_ok] at h
  obtain ⟨_, _, _, _, _, _, h⟩ := h
  split at h
  · cases h
  split at h
  · cases h
  split at h
  · cases h
  next hb =>
    split at h
    · cases h
    next hl =>
      refine ⟨?_, Int.not_le.mp hl, (Except.ok.inj h).symm⟩
      intro hm
      exact hb (decide_eq_true hm)

end PlatformLead

end Leadkart
