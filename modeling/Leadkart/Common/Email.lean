import Leadkart.Common.Basic

/-!
# Email addresses
-/

namespace Leadkart

structure MailLib where
  parseAddress : String → Option String
  toLower : String → String

namespace Email

def errInvalid : Sentinel := ⟨.invalidInput, "email", "invalid email address"⟩

def maxLen : Nat := 254

def domain (addr : String) : Option (List Char) :=
  if '@' ∈ addr.toList then some ((addr.toList.reverse.takeWhile (· ≠ '@')).reverse) else none

def new (lib : MailLib) (raw : String) : Except Err String :=
  let trimmed := trimSpace raw
  if trimmed = "" then .error ⟨errInvalid, "empty"⟩
  else if trimmed.utf8ByteSize > maxLen then .error ⟨errInvalid, "exceeds 254 chars"⟩
  else if trimmed.toList.any (· ∈ [' ', '\t', '\n', '\r']) then
    .error ⟨errInvalid, "contains whitespace"⟩
  else
    match lib.parseAddress trimmed with
    | none => .error ⟨errInvalid, "mail"⟩
    | some addr =>
      match domain addr with
      | none | some [] => .error ⟨errInvalid, "missing domain"⟩
      | some dom =>
        if '.' ∈ dom then .ok (lib.toLower addr) else .error ⟨errInvalid, "domain missing TLD"⟩

end Email

def sampleMail : MailLib where
  parseAddress addr :=
    if addr.toList.count '@' = 1 ∧ addr.toList.head? ≠ some '@' then some addr else none
  toLower s := String.ofList (s.toList.map Char.toLower)

end Leadkart
