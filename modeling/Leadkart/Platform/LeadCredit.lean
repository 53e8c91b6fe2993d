import Leadkart.Common.Tenancy
import Leadkart.Logic.MachineInt

/-!
# Lead credits
-/

namespace Leadkart

namespace LeadCredit

def errInvalid : Sentinel := ⟨.unknown, "", "leadcredit: invalid"⟩
def errInsufficientBalance : Sentinel := ⟨.unknown, "", "leadcredit: insufficient balance"⟩
def errNotFound : Sentinel := ⟨.unknown, "", "leadcredit: not found"⟩
def errConflict : Sentinel := ⟨.unknown, "", "leadcredit: optimistic conflict"⟩

structure AdjustedEvent where
  tenantID : String
  (delta newBalance : Int64)
  reason : String
  adjustedAt : Time
  adjustedByMembershipID : String

end LeadCredit

structure LeadCredit where
  tenantID : String
  (balance version : Int64)
  (createdAt updatedAt : Time)
  events : List LeadCredit.AdjustedEvent := []

namespace LeadCredit

def newForTenant (codec : UuidCodec) (tenantID : String) (now : Time) : Except Err LeadCredit := do
  codec.validateUUID errInvalid "tenantID" tenantID
  if now.isZero then .error ⟨errInvalid, "now required"⟩
  else return { tenantID, balance := 0, version := 0, createdAt := now, updatedAt := now }

def adjusted (l : LeadCredit) (delta newBalance : Int64) (reason adjustedBy : String) (now : Time) :
    LeadCredit :=
  { l with
    balance := newBalance
    updatedAt := now
    events := l.events ++ [⟨l.tenantID, delta, newBalance, reason, now, adjustedBy⟩] }

def topup (l : LeadCredit) (delta : Int64) (reason adjustedBy : String) (now : Time) :
    Except Err LeadCredit :=
  if delta ≤ 0 then .error ⟨errInvalid, "topup delta must be positive"⟩
  else if isBlank reason then .error ⟨errInvalid, "topup reason required for audit"⟩
  else if adjustedBy = "" then .error ⟨errInvalid, "adjustedBy required"⟩
  else .ok (l.adjusted delta (l.balance + delta) reason adjustedBy now)

def charge (l : LeadCredit) (amount : Int64) (reason adjustedBy : String) (now : Time) :
    Except Err LeadCredit :=
  if amount ≤ 0 then .error ⟨errInvalid, "charge amount must be positive"⟩
  else if isBlank reason then .error ⟨errInvalid, "charge reason required for audit"⟩
  else if adjustedBy = "" then .error ⟨errInvalid, "adjustedBy required"⟩
  else if l.balance < amount then .error ⟨errInsufficientBalance, ""⟩
  else .ok (l.adjusted (-amount) (l.balance - amount) reason adjustedBy now)

variable {l l' : LeadCredit} {delta amount : Int64} {reason adjustedBy : String} {now : Time}

theorem topup_eq_ok (h : l.topup delta reason adjustedBy now = .ok l') :
    0 < delta ∧ l' = l.adjusted delta (l.balance + delta) reason adjustedBy now := by
  unfold topup at h
  split at h
  · cases h
  next hd =>
    split at h
    · cases h
    split at h
    · cases h
    exact ⟨Int64.not_le.mp hd, (Except.ok.inj h).symm⟩

theorem charge_eq_ok (h : l.charge amount reason adjustedBy now = .ok l') :
    0 < amount ∧ amount ≤ l.balance ∧
    l' = l.adjusted (-amount) (l.balance - amount) reason adjustedBy now := by
  unfold charge at h
  split at h
  · cases h
  next ha =>
    split at h
    · cases h
    split at h
    · cases h
    split at h
    · cases h
    next hb =>
      exact ⟨Int64.not_le.mp ha, Int64.not_lt.mp hb, (Except.ok.inj h).symm⟩

theorem adjusted_events {newBalance : Int64} (h : l.events = []) :
    (l.adjusted delta newBalance reason adjustedBy now).events =
    [⟨l.tenantID, delta, newBalance, reason, now, adjustedBy⟩] := by
  unfold adjusted
  rw [h]
  rfl

variable {balance : Int64}

theorem toInt_balance_topup (hb : 0 ≤ balance) (hc : 0 ≤ balance + delta) :
    (balance + delta).toInt = balance.toInt + delta.toInt :=
  MachineInt.toInt_add_of_nonneg hb hc

theorem toInt_balance_charge (ha : 0 < amount) (hle : amount ≤ balance) :
    (balance - amount).toInt = balance.toInt - amount.toInt :=
  MachineInt.toInt_sub_of_le (Int64.le_of_lt ha) hle

end LeadCredit

end Leadkart
