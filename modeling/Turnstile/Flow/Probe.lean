import Turnstile.Flow.Handler
import Turnstile.Flow.Middleware

/-! Probes: interceptors and handlers that note when they run and then do one plain thing. Chains
and routes are observed through them. -/

namespace Turnstile

open Json

inductive Probe
  | record (name : String)
  | reject (e : Error)
  | short (status : Nat) (data : Value)
  | panic (message : Option String)
  | claims (c : Claims)
  | failAfter (e : Error)
  | recover (status : Nat) (data : Value)

namespace Probe

def intercept : Probe → Interceptor
  | record name => fun next req => do
    Flow.note s!"{name} before"
    match ← (next req).attempt with
    | .ok r => do
      Flow.note s!"{name} after ok"
      pure r
    | .error (.error e) => do
      Flow.note s!"{name} after err"
      Flow.fail e
    | .error (.panic message) => Flow.panicWith message
  | reject e => fun _ _ => Flow.fail e
  | short status data => fun _ _ => Flow.respond status data.bytes
  | panic message => fun _ _ => Flow.panicWith message
  | claims c => fun next req => do
    Flow.setClaims c
    next req
  | failAfter e => fun next req => do
    match ← (next req).attempt with
    | .error (.panic message) => Flow.panicWith message
    | _ => Flow.fail e
  | recover status data => fun next req => do
    match ← (next req).attempt with
    | .error (.error _) => Flow.respond status data.bytes
    | outcome => Flow.ofOutcome outcome

end Probe

/-- What a probing handler reads from the body. -/
inductive Payload
  | tokenRequest
  | claims
  | value

def Payload.read : Payload → Bytes → Option Value
  | tokenRequest => fun b => (TokenRequest.ofJson? b).map (·.json)
  | claims => fun b => (Claims.ofJson? b).map (·.json)
  | value => Value.ofBytes?

inductive ProbeHandler
  | error (e : Error)
  | panic (message : Option String)
  | respond (status : Nat) (data : Value)
  | decode (payload : Payload)
  | echo

namespace Error

def kind : Error → String
  | validation _ => "Validation"
  | request _ => "Request"
  | shutdown _ => "Shutdown"
  | panicked _ _ => "Panic"
  | internal _ => "Internal"

/-- All that there is to say about an error. -/
def describe (e : Error) : Value :=
  let detail := match e with
    | request r => [("client_message", Value.text r.message), ("status", .int r.status)]
    | shutdown message => [("shutdown_message", .text message)]
    | _ => []
  .object (Value.sorted
    ([("error", .text e.kind), ("is_shutdown", .bool e.isShutdown), ("message", .text e.text)] ++
      detail))

end Error

def Context.describe (c : Context) : Value :=
  let values := match c.requireValues with
    | .ok v =>
      Value.object [("status_code", (v.status.map fun n => Value.int n).getD .null),
        ("trace_id", .text v.traceId)]
    | .error e => e.describe
  let claims := match c.claims with
    | some c =>
      Value.object [("exp", .int c.expires), ("iat", .int c.issuedAt), ("iss", .text c.issuer),
        ("roles", .texts c.roles), ("sub", .text c.subject)]
    | none => .null
  .object [("cancelled", .bool c.cancelled), ("claims", claims), ("trace_id", .text c.traceId),
    ("values", values)]

namespace ProbeHandler

def echoed (c : Context) (req : Request) : Value :=
  .object [("context", c.describe), ("method", .text req.method), ("path", .text req.path),
    ("query", (req.query.map Value.text).getD .null)]

def act : ProbeHandler → Handler
  | error e, _ => Flow.fail e
  | panic message, _ => Flow.panicWith message
  | respond status data, _ => Flow.respond status data.bytes
  | decode payload, req => do
    let v ← Handler.decode payload.read req
    Flow.respond 200 v.bytes
  | echo, req => do
    Flow.respond 200 (echoed (← Flow.context) req).bytes

def handle (h : ProbeHandler) : Handler := fun req => do
  Flow.note "handler"
  h.act req

end ProbeHandler

end Turnstile
