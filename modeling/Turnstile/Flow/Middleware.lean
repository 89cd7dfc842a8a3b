import Turnstile.Flow.Chain
import Turnstile.Role

/-! The interceptors of the service: logging, error answers, counting, panic recovery, and the two
that guard a route. -/

namespace Turnstile

/-- The token of a header of the form scheme, blank, token; the scheme ignores case. -/
def bearerToken? (value : Bytes) : Option Bytes :=
  match Bytes.splitOn 32 value with
  | [scheme, token] =>
    if (scheme.map fun b => if 65 ≤ b && b ≤ 90 then b + 32 else b) = Bytes.ofString "bearer" then
      some token
    else none
  | _ => none

/-- The authorization header as text, empty where there is none. -/
def Request.authorization (req : Request) : Bytes :=
  match req.header? "authorization" with
  | some v => if isHeaderText v then v else []
  | none => []

inductive Middleware
  | logger
  | errors
  | metrics
  | panics
  | authenticate
  | authorize (roles : List String)
  deriving DecidableEq, Repr

namespace Middleware

/-- Reports the start and the end of every request, whatever its outcome. -/
def logRequest (next : Handler) : Handler := fun req => do
  let _ ← Flow.values
  Flow.log (.requestStarted req.method req.path req.remoteText)
  match ← (next req).attempt with
  | .error (.panic message) => Flow.panicWith message
  | outcome =>
    let context ← Flow.context
    let status := (context.values.bind (·.status)).getD 0
    let elapsed := (← Flow.env).telemetry.elapsed
    Flow.log (.requestCompleted req.method req.path req.remoteText status elapsed)
    Flow.ofOutcome outcome

def failureEvent (e : Error) (status : Nat) : Event :=
  match e with
  | .panicked message trace => .requestPanicked message trace
  | e => if 500 ≤ status && status < 600 then .requestFailed e.text else .requestRejected e.text status

/-- Answers errors. One that calls for a shutdown is also passed on. -/
def answerErrors (next : Handler) : Handler := fun req => do
  let _ ← Flow.values
  match ← (next req).attempt with
  | .error (.error e) =>
    let answer := ErrorResponse.ofError e
    Flow.log (failureEvent e answer.status)
    Flow.setStatus answer.status
    if e.isShutdown then Flow.fail e
    else pure (Response.json answer.status answer.json.bytes)
  | outcome => Flow.ofOutcome outcome

def endingOf : Except Failure Response → Ending
  | .ok _ => .answered
  | .error (.error (.panicked _ _)) => .panicked
  | .error _ => .failed

/-- Counts under the template of the route, so that parameters make no counters of their own. -/
def countRequest (next : Handler) : Handler := fun req => do
  match ← (next req).attempt with
  | .error (.panic message) => Flow.panicWith message
  | outcome =>
    Flow.count (req.template.getD req.path) (endingOf outcome)
    Flow.ofOutcome outcome

def unknownPayload : String := "unknown panic payload"

/-- Makes an error of a panic. It takes along the trace of the panic, which goes into the log and
into no answer. -/
def recoverPanics (next : Handler) : Handler := fun req => do
  match ← (next req).attempt with
  | .error (.panic message) =>
    let trace := (← Flow.env).telemetry.trace
    Flow.fail (.panicked (message.getD unknownPayload) trace)
  | outcome => Flow.ofOutcome outcome

/-- Requires a bearer token that holds, and keeps its claims. -/
def requireToken (next : Handler) : Handler := fun req => do
  match bearerToken? req.authorization with
  | none => Flow.fail (Error.ofAuth .invalidAuthHeader)
  | some token =>
    let env ← Flow.env
    match env.auth.validate env.keys token env.clock.seconds with
    | .error e =>
      Flow.log (.tokenRejected e.message)
      Flow.fail (Error.ofAuth e)
    | .ok claims =>
      Flow.setClaims claims
      next req

def noClaims : RequestError := (RequestError.forbidden AuthError.notAuthorized).withCause "no claims"

/-- Requires one of the roles in the claims. -/
def requireRole (roles : List String) (next : Handler) : Handler := fun req => do
  match (← Flow.context).claims with
  | none => Flow.fail (.request noClaims)
  | some claims =>
    if claims.authorize roles then next req
    else
      Flow.log (.authorizationDenied claims.subject claims.roles roles)
      Flow.fail (Error.ofAuth (.insufficientPermissions claims.roles roles))

def intercept : Middleware → Interceptor
  | logger => logRequest
  | errors => answerErrors
  | metrics => countRequest
  | panics => recoverPanics
  | authenticate => requireToken
  | authorize roles => requireRole roles

/-- The interceptors around every route, outermost first. -/
def standard : List Middleware := [logger, errors, metrics, panics]

end Middleware

end Turnstile
