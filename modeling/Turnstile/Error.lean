import Turnstile.AuthError
import Turnstile.Json.Value

/-! What a handler or an interceptor fails with, and the answer a client gets for it. Causes,
traces and internal texts are for the log and never part of the answer. -/

namespace Turnstile

structure FieldError where
  field : String
  error : String
  deriving DecidableEq, Repr

def FieldError.json (e : FieldError) : Json.Value :=
  .object [("field", .text e.field), ("error", .text e.error)]

abbrev FieldErrors := List FieldError

def FieldErrors.json (es : FieldErrors) : Json.Value := .array (es.map FieldError.json)

structure RequestError where
  status : Nat
  message : String
  cause : Option String
  fields : Option FieldErrors
  deriving DecidableEq, Repr

inductive Error
  | validation (fields : FieldErrors)
  | request (e : RequestError)
  | shutdown (message : String)
  | panicked (message trace : String)
  | internal (message : String)
  deriving DecidableEq, Repr

namespace RequestError

def new (status : Nat) (message : String) : RequestError := ⟨status, message, none, none⟩

def badRequest : String → RequestError := new 400
def unauthorized : String → RequestError := new 401
def forbidden : String → RequestError := new 403
def notFound : String → RequestError := new 404
def unprocessable : String → RequestError := new 422

def withCause (e : RequestError) (cause : String) : RequestError := { e with cause := some cause }

def withFields (e : RequestError) (fields : FieldErrors) : RequestError :=
  { e with fields := some fields }

def text (e : RequestError) : String :=
  match e.cause with
  | some cause => s!"{e.message}: {cause}"
  | none => e.message

end RequestError

namespace Error

def validationMessage : String := "data validation error"

def text : Error → String
  | validation fields => s!"{validationMessage}: {(FieldErrors.json fields).render}"
  | request e => e.text
  | shutdown message => message
  | panicked message _ => s!"PANIC: [{message}]"
  | internal message => message

def isShutdown : Error → Bool
  | shutdown _ => true
  | _ => false

/-- Faults of the server keep their text to the log; all other refusals tell the public text. -/
def ofAuth (e : AuthError) : Error :=
  if e.status = 500 then .internal e.message
  else .request ((RequestError.new e.status e.publicMessage).withCause e.message)

end Error

/-- The answer for a failed request. -/
structure ErrorResponse where
  status : Nat
  error : String
  fields : Option FieldErrors
  deriving DecidableEq, Repr

namespace ErrorResponse

def generic : ErrorResponse := ⟨500, "Internal Server Error", none⟩

def ofFields (fields : FieldErrors) : ErrorResponse := ⟨400, Error.validationMessage, some fields⟩

/-- Fields win over the status and message they come with. -/
def ofError : Error → ErrorResponse
  | .validation fields => ofFields fields
  | .request e =>
    match e.fields with
    | some (f :: fs) => ofFields (f :: fs)
    | _ => ⟨e.status, e.message, none⟩
  | .shutdown _ => generic
  | .panicked _ _ => generic
  | .internal _ => generic

def json (r : ErrorResponse) : Json.Value :=
  match r.fields with
  | none => .object [("error", .text r.error)]
  | some fields => .object [("error", .text r.error), ("fields", FieldErrors.json fields)]

end ErrorResponse

end Turnstile
