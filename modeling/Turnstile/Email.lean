import Turnstile.Bytes
import Turnstile.Net.Address

/-! The form of email addresses: a user, an at sign, and a domain name or an address literal. -/

namespace Turnstile.Email

inductive Fault
  | empty
  | missingAt
  | userTooLong
  | userCharacters
  | domainTooLong
  | domainCharacters
  deriving DecidableEq, Repr

def Fault.message : Fault → String
  | empty => "value is empty"
  | missingAt => "value is missing `@`"
  | userTooLong => "user length exceeded maximum of 64 characters"
  | userCharacters => "user contains unexpected characters"
  | domainTooLong => "domain length exceeded maximum of 255 characters"
  | domainCharacters => "domain contains unexpected characters"

def userSigns : List Char := ".!#$%&'*+/=?^_`\x7b|\x7d~-".toList

def isUserChar (c : Char) : Bool := c.isAlphanum || userSigns.contains c

/-- One to 63 letters, digits and hyphens, with no hyphen at either end. -/
def isLabel (cs : List Char) : Bool :=
  cs.length ≠ 0 && cs.length ≤ 63 && cs.all (fun c => c.isAlphanum || c == '-') &&
    cs.head? != some '-' && cs.getLast? != some '-'

def isDomainName (cs : List Char) : Bool := (cs.splitOnP (· == '.')).all isLabel

/-- An address between square brackets. -/
def isAddressLiteral : List Char → Bool
  | '[' :: rest =>
    rest.getLast? == some ']' && (Net.Ip.ofString? (String.ofList rest.dropLast)).isSome
  | _ => false

/-- The first rule that the address breaks; lengths count bytes. -/
def fault? (s : String) : Option Fault :=
  if s.isEmpty then some .empty
  else match s.toList.span (· != '@') with
    | (_, []) => some .missingAt
    | (user, _ :: domain) =>
      if 64 < (String.ofList user).utf8ByteSize then some .userTooLong
      else if user.isEmpty || !user.all isUserChar then some .userCharacters
      else if 255 < (String.ofList domain).utf8ByteSize then some .domainTooLong
      else if isDomainName domain || isAddressLiteral domain then none
      else some .domainCharacters

end Turnstile.Email
