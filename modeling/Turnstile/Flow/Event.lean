import Turnstile.Text.Quoted

/-! What the service reports about its work. -/

namespace Turnstile

inductive Level
  | debug
  | info
  | warn
  | error
  deriving DecidableEq, Repr

def Level.name : Level → String
  | debug => "DEBUG"
  | info => "INFO"
  | warn => "WARN"
  | error => "ERROR"

inductive FieldValue
  | text (s : String)
  | number (n : Nat)
  deriving DecidableEq, Repr

inductive Event
  | requestStarted (method path remote : String)
  | requestCompleted (method path remote : String) (status elapsed : Nat)
  | requestPanicked (error trace : String)
  | requestFailed (error : String)
  | requestRejected (error : String) (status : Nat)
  | tokenRejected (error : String)
  | authorizationDenied (subject : String) (claimed required : List String)
  | tokenIssued (subject kid : String)
  | errorEscaped (traceId error : String)
  | shutdownRequested (reason : String)
  | keyLoaded (kid path : String)
  deriving DecidableEq, Repr

namespace Event

def level : Event → Level
  | requestStarted .. | requestCompleted .. | tokenIssued .. => .info
  | requestPanicked .. | requestFailed .. | errorEscaped .. => .error
  | requestRejected .. | authorizationDenied .. | shutdownRequested .. => .warn
  | tokenRejected .. | keyLoaded .. => .debug

def message : Event → String
  | requestStarted .. => "Request started"
  | requestCompleted .. => "Request completed"
  | requestPanicked .. => "Request panicked"
  | requestFailed .. => "Request failed"
  | requestRejected .. => "Request rejected"
  | tokenRejected .. => "Token rejected"
  | authorizationDenied .. => "Authorization denied"
  | tokenIssued .. => "Token issued"
  | errorEscaped .. => "Unhandled error escaped the chain"
  | shutdownRequested .. => "Shutdown requested"
  | keyLoaded .. => "Loaded signing key"

def fields : Event → List (String × FieldValue)
  | requestStarted method path remote =>
    [("method", .text method), ("path", .text path), ("remote_addr", .text remote)]
  | requestCompleted method path remote status elapsed =>
    [("method", .text method), ("path", .text path), ("remote_addr", .text remote),
     ("status", .number status), ("elapsed_ms", .number elapsed)]
  | requestPanicked error trace => [("error", .text error), ("trace", .text trace)]
  | requestFailed error => [("error", .text error)]
  | requestRejected error status => [("error", .text error), ("status", .number status)]
  | tokenRejected error => [("error", .text error)]
  | authorizationDenied subject claimed required =>
    [("subject", .text subject), ("claimed", .text (Text.quoteList claimed)),
     ("required", .text (Text.quoteList required))]
  | tokenIssued subject kid => [("subject", .text subject), ("kid", .text kid)]
  | errorEscaped traceId error => [("trace_id", .text traceId), ("error", .text error)]
  | shutdownRequested reason => [("reason", .text reason)]
  | keyLoaded kid path => [("kid", .text kid), ("path", .text path)]

end Event

/-- What the log shows of the process around a request: the trace that a panic leaves on its thread,
and the milliseconds from its arrival to its end. -/
structure Telemetry where
  trace : String
  elapsed : Nat
  deriving DecidableEq, Repr, Inhabited

/-- An event and the trace id of the request whose span it fell into. -/
structure Logged where
  event : Event
  span : Option String
  deriving DecidableEq, Repr

end Turnstile
