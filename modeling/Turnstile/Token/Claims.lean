import Turnstile.Json.Value
import Turnstile.Time

/-! The identity that a token carries, and its JSON form. -/

namespace Turnstile

structure Claims where
  issuer : String
  subject : String
  issuedAt : Int
  expires : Int
  roles : List String
  deriving DecidableEq, Repr

namespace Claims

open Json

/-- Claims issued at `now` and valid for `ttl`; none when the end leaves the calendar. -/
def issue? (subject issuer : String) (roles : List String) (now : Instant) (ttl : Span) :
    Option Claims :=
  (now.addSeconds? ttl).map fun expires => ⟨issuer, subject, now.seconds, expires, roles⟩

def overflowMessage : String := "`DateTime + TimeDelta` overflowed"

/-- At least one role is among the required ones. -/
def authorize (c : Claims) (required : List String) : Bool :=
  c.roles.any fun r => required.contains r

def json (c : Claims) : Value :=
  .object [("iss", .text c.issuer), ("sub", .text c.subject), ("iat", .int c.issuedAt),
    ("exp", .int c.expires), ("roles", .texts c.roles)]

def ofMembers? (ms : List (String × Node)) : Option Claims := do
  let issuer ← field? ms "iss" none Node.text?
  let subject ← field? ms "sub" none Node.text?
  let issuedAt ← field? ms "iat" none Node.int64?
  let expires ← field? ms "exp" none Node.int64?
  let roles ← field? ms "roles" (some []) Node.texts?
  some ⟨issuer, subject, issuedAt, expires, roles⟩

/-- The five values in order; the roles may be left out. -/
def ofItems? : List Node → Option Claims
  | iss :: sub :: iat :: exp :: rest => do
    let issuer ← iss.text?
    let subject ← sub.text?
    let issuedAt ← iat.int64?
    let expires ← exp.int64?
    let roles ← match rest with
      | [] => some []
      | [roles] => roles.texts?
      | _ => none
    some ⟨issuer, subject, issuedAt, expires, roles⟩
  | _ => none

/-- An object, or an array of the values. Members of other names are passed over. -/
def ofNode? : Node → Option Claims
  | .array items => ofItems? items
  | n => n.members?.bind ofMembers?

def ofJson? (b : Bytes) : Option Claims := (Node.ofBytes? b).bind ofNode?

end Claims

end Turnstile
