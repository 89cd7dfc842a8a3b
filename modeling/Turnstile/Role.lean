import Turnstile.Json.Value

/-! The roles that routes ask for. Claims carry roles as plain text, matched exactly. -/

namespace Turnstile

inductive Role
  | admin
  | user
  deriving DecidableEq, Repr

namespace Role

def name : Role → String
  | admin => "ADMIN"
  | user => "USER"

def names : List String := ["ADMIN", "USER"]

def ofName? (s : String) : Option Role :=
  if s = "ADMIN" then some admin else if s = "USER" then some user else none

def unknownMessage (s : String) : String := s!"unknown role {s}"

def ofJson? (b : Bytes) : Option Role :=
  ((Json.Node.ofBytes? b).bind (Json.name? names)).bind ofName?

def json (r : Role) : Json.Value := .text r.name

end Role

end Turnstile
