import Turnstile.Json.Value
import Turnstile.Net.Address

/-! Requests and responses. -/

namespace Turnstile

/-- Header names are in lower case. The template is the path of the route that was matched. -/
structure Request where
  method : String
  path : String
  query : Option String
  headers : List (String × Bytes)
  body : Bytes
  remote : Option Net.SocketAddress
  template : Option String

namespace Request

/-- The first value of the header. -/
def header? (r : Request) (name : String) : Option Bytes :=
  (r.headers.find? (·.1 == name)).map (·.2)

def remoteText (r : Request) : String := (r.remote.map (·.text)).getD ""

end Request

/-- Bytes that a header shows as text: visible ASCII and tabs. -/
def isHeaderText (b : Bytes) : Bool := b.all fun x => x = 9 || (32 ≤ x && x < 127)

structure Response where
  status : Nat
  headers : List (String × Bytes)
  body : Bytes
  deriving DecidableEq, Repr

namespace Response

def empty (status : Nat) : Response := ⟨status, [], []⟩

def json (status : Nat) (body : Bytes) : Response :=
  ⟨status, [("content-type", Bytes.ofString "application/json")], body⟩

def plain (status : Nat) (text : String) : Response :=
  ⟨status, [("content-type", Bytes.ofString "text/plain; charset=utf-8")], Bytes.ofString text⟩

/-- Sets the header, in the place of any value there. -/
def set (r : Response) (name value : String) : Response :=
  { r with headers := r.headers.filter (·.1 != name) ++ [(name, Bytes.ofString value)] }

def setAbsent (r : Response) (name value : String) : Response :=
  if r.headers.any (·.1 == name) then r else r.set name value

end Response

/-- What stands behind the scheme and host of an absolute target, a slash if nothing does. -/
def pathAfterHost? (path : List Char) : Option (List Char) :=
  match path.span (· != ':') with
  | (_ :: _, ':' :: '/' :: '/' :: rest) =>
    match rest.dropWhile (· != '/') with
    | [] => some ['/']
    | path => some path
  | _ => none

/-- The path and query that a request target names; a fragment is dropped. -/
def splitTarget (target : String) : String × Option String :=
  let (before, after) := (target.toList.takeWhile (· != '#')).span (· != '?')
  let path := match before with
    | '/' :: _ => before
    | ['*'] => before
    | _ => (pathAfterHost? before).getD []
  (String.ofList path, if after.isEmpty then none else some (String.ofList (after.drop 1)))

end Turnstile
