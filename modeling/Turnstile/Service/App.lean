import Turnstile.Flow.Chain
import Turnstile.Flow.Middleware
import Turnstile.Http.Pattern
import Turnstile.Service.Shutdown

/-! The application: routes, the state of the service, and the answer to one request. -/

namespace Turnstile

/-- A chain, or an answer outside of any chain. -/
inductive Endpoint
  | chain (c : Chain)
  | plain (answer : Env → Counters → Response)

/-- The methods that an endpoint is mounted for. OPTIONS is answered before any route is looked for,
and CONNECT would ask for a tunnel, which the service opens to nobody. -/
inductive Method
  | get
  | head
  | post
  | put
  | delete
  | patch
  | trace
  deriving DecidableEq, Repr

namespace Method

def name : Method → String
  | get => "GET"
  | head => "HEAD"
  | post => "POST"
  | put => "PUT"
  | delete => "DELETE"
  | patch => "PATCH"
  | trace => "TRACE"

def ofName? (s : String) : Option Method :=
  [get, head, post, put, delete, patch, trace].find? (·.name == s)

/-- A path that reads GET also answers HEAD. -/
def allowed : Method → String
  | get => "GET,HEAD"
  | m => m.name

end Method

/-- The endpoints of one path by method, in the order of their registration. -/
structure Route where
  path : String
  pattern : Pattern
  endpoints : List (Method × Endpoint)

namespace Route

def allow (r : Route) : String := ",".intercalate (r.endpoints.map fun e => e.1.allowed)

def endpoint? (r : Route) (method : String) : Option Endpoint :=
  match r.endpoints.find? (·.1.name == method) with
  | some e => some e.2
  | none => if method = "HEAD" then (r.endpoints.find? (·.1 == .get)).map (·.2) else none

end Route

structure App where
  global : List Interceptor
  routes : List Route

namespace App

/-- Mounts an endpoint; refused are bad paths, conflicting ones, and a second one for a method. -/
def mount (a : App) (method : Method) (path : String) (e : Endpoint) : Option App :=
  match a.routes.find? (·.path == path) with
  | some r =>
    if r.endpoints.any (·.1 == method) then none
    else
      some { a with routes := a.routes.map fun r =>
        if r.path == path then { r with endpoints := r.endpoints ++ [(method, e)] } else r }
  | none =>
    match Pattern.ofString? path with
    | none => none
    | some p =>
      if a.routes.any (·.pattern.conflicts p) then none
      else some { a with routes := a.routes ++ [⟨path, p, [(method, e)]⟩] }

def fullPath (group path : String) : String := if group.isEmpty then path else s!"/{group}{path}"

/-- Mounts a handler behind the global interceptors and its own. -/
def handle (a : App) (method : Method) (group path : String) (handler : Handler)
    (route : List Interceptor) : Option App :=
  a.mount method (fullPath group path) (.chain (Chain.new a.global route handler))

/-- The most literal of the routes that accept the path. -/
def route? (a : App) (path : String) : Option Route :=
  (a.routes.filter (·.pattern.accepts (Bytes.ofString path))).foldl
    (fun best r =>
      match best with
      | none => some r
      | some b => if r.pattern.precedes b.pattern then some r else some b) none

end App

structure Service where
  app : App
  keys : KeyStore
  auth : Authenticator
  users : Users
  counters : Counters
  channel : Shutdown.Channel
  cancelled : Bool
  hostname : Option String
  /-- By the time at which a request arrives. -/
  telemetry : Instant → Telemetry

/-- The outcome of a request with what it reported; a panic leaves no response. -/
structure Reply where
  outcome : Except (Option String) Response
  logged : List Logged
  notes : List String

namespace RequestId

def headerName : String := "x-request-id"

def maxLength : Nat := 128

def isIdByte (b : UInt8) : Bool := Bytes.isAlphanumeric b || b = 45 || b = 95 || b = 46

def isValid (b : Bytes) : Bool := !b.isEmpty && b.length ≤ maxLength && b.all isIdByte

/-- The id that the client gives, if it is well-formed, else the fresh one. -/
def adopt (req : Request) (fresh : String) : String :=
  match req.header? headerName with
  | some v => if isValid v then (Bytes.toString? v).getD fresh else fresh
  | none => fresh

/-- The request under its id. -/
def assign (req : Request) (id : String) : Request :=
  if req.header? headerName = some (Bytes.ofString id) then req
  else
    { req with headers :=
      req.headers.filter (·.1 != headerName) ++ [(headerName, Bytes.ofString id)] }

end RequestId

namespace Service

def env (s : Service) (clock : Instant) : Env :=
  ⟨s.keys, s.auth, s.users, clock, s.hostname, s.telemetry clock⟩

/-- Asks for a shutdown. -/
def signal (s : Service) (reason : String) : Service × Bool × Event :=
  let (channel, delivered) := s.channel.signal reason
  ({ s with channel := channel }, delivered, .shutdownRequested reason)

/-- Runs a chain under a new context. An error that escapes it calls for a shutdown. -/
def dispatch (s : Service) (c : Chain) (req : Request) (id : String) (clock : Instant) :
    Service × Reply :=
  let r := c.run req (s.env clock) (Context.new id clock s.cancelled)
  let s := { s with counters := s.counters.applyAll r.effects }
  let logged := (Effect.events r.effects).map fun e => Logged.mk e (some id)
  let notes := Effect.notes r.effects
  match r.outcome with
  | .ok answer => (s, ⟨.ok answer, logged, notes⟩)
  | .error (.panic message) => (s, ⟨.error message, logged, notes⟩)
  | .error (.error e) =>
    let (s, _, requested) := s.signal e.text
    (s, ⟨.ok (Response.json ErrorResponse.generic.status ErrorResponse.generic.json.bytes),
      logged ++ [⟨.errorEscaped id e.text, none⟩, ⟨requested, none⟩], notes⟩)

def varyText : String := "origin, access-control-request-method, access-control-request-headers"

/-- The length of the body, and no body for a method that only asks for headers. -/
def finish (method : String) (r : Response) : Response :=
  let r := r.setAbsent "content-length" (toString r.body.length)
  if method = "HEAD" then { r with body := [] } else r

def methodNotAllowed (r : Route) : Response := (Response.empty 405).set "allow" r.allow

/-- Marks a response as readable from any origin, and with the id of its request. -/
def share (id : String) (r : Response) : Response :=
  (((r.setAbsent RequestId.headerName id).set "access-control-allow-origin" "*").set
    "access-control-expose-headers" "*").set "vary" varyText

/-- The answer to a question about what may be requested. -/
def preflight (route : Option Route) : Response :=
  let r := ((((Response.empty 200).set "access-control-allow-origin" "*").set
    "access-control-allow-headers" "*").set "access-control-allow-methods" "*").set "vary" varyText
  match route with
  | none => r
  | some route => (r.set "allow" route.allow).set "content-length" "0"

def answered (r : Response) : Reply := ⟨.ok r, [], []⟩

def Reply.map (f : Response → Response) (r : Reply) : Reply := { r with outcome := r.outcome.map f }

/-- Answers one request that arrives at `clock`; `fresh` is its id unless it brings one. -/
def serve (s : Service) (req : Request) (clock : Instant) (fresh : String) : Service × Reply :=
  let route := s.app.route? req.path
  if req.method = "OPTIONS" then (s, answered (preflight route))
  else
    let id := RequestId.adopt req fresh
    let req := RequestId.assign req id
    match route with
    | none => (s, answered (share id (Response.empty 404)))
    | some route =>
      match route.endpoint? req.method with
      | none => (s, answered (share id (finish req.method (methodNotAllowed route))))
      | some (.plain answer) =>
        (s, answered (share id (finish req.method (answer (s.env clock) s.counters))))
      | some (.chain c) =>
        let (s, reply) := s.dispatch c { req with template := some route.path } id clock
        (s, Reply.map (fun r => share id (finish req.method r)) reply)

end Service

end Turnstile
