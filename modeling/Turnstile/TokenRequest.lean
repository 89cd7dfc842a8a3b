import Turnstile.Email
import Turnstile.Error

/-! The body of a request for a token, and the rules it has to keep. -/

namespace Turnstile

structure TokenRequest where
  email : String
  password : String
  deriving DecidableEq, Repr

namespace TokenRequest

open Json

/-- Absent members are empty. -/
def ofNode? : Node → Option TokenRequest
  | .array [] => some ⟨"", ""⟩
  | .array [email] => email.text?.map (⟨·, ""⟩)
  | .array [email, password] => do
    let email ← email.text?
    let password ← password.text?
    some ⟨email, password⟩
  | .array _ => none
  | n => do
    let ms ← n.members?
    let email ← field? ms "email" (some "") Node.text?
    let password ← field? ms "password" (some "") Node.text?
    some ⟨email, password⟩

def ofJson? (b : Bytes) : Option TokenRequest := (Node.ofBytes? b).bind ofNode?

def json (r : TokenRequest) : Value :=
  .object [("email", .text r.email), ("password", .text r.password)]

/-- A text of bytes within the bounds. -/
def lengthFault? (low : Nat) (high : Option Nat) (s : String) : Option String :=
  if s.utf8ByteSize < low then some s!"length is lower than {low}"
  else match high with
    | some high => if high < s.utf8ByteSize then some s!"length is greater than {high}" else none
    | none => none

def emailFault? (s : String) : Option String :=
  (Email.fault? s).map fun f => "not a valid email: " ++ f.message

def maxPasswordLength : Nat := 1024

/-- Every broken rule, field by field. -/
def report (r : TokenRequest) : List FieldError :=
  let email := [emailFault? r.email, lengthFault? 1 none r.email].filterMap id
  let password := [lengthFault? 1 (some maxPasswordLength) r.password].filterMap id
  email.map (⟨"email", ·⟩) ++ password.map (⟨"password", ·⟩)

end TokenRequest

/-- The first failure of each field, in the order of the report. -/
def firstPerField (report : List FieldError) : FieldErrors :=
  report.foldl (fun es e => if es.any (·.field == e.field) then es else es ++ [e]) []

def TokenRequest.check (r : TokenRequest) : FieldErrors := firstPerField r.report

end Turnstile
