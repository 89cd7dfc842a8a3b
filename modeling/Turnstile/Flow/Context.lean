import Turnstile.Error
import Turnstile.Time
import Turnstile.Token.Claims

/-! What a request carries along: its id, the status of its answer, its claims, and whether it is
cancelled. A context without request values is a fault of the service. -/

namespace Turnstile

structure RequestValues where
  traceId : String
  now : Instant
  status : Option Nat
  deriving DecidableEq, Repr

/-- A linked context is cancelled with its parent. -/
structure Context where
  values : Option RequestValues
  claims : Option Claims
  cancelled : Bool
  linked : Bool
  deriving DecidableEq, Repr

namespace Context

def new (traceId : String) (now : Instant) (parentCancelled : Bool) : Context :=
  ⟨some ⟨traceId, now, none⟩, none, parentCancelled, true⟩

/-- Made without request values and on its own. -/
def detached : Context := ⟨none, none, false, false⟩

def valuesMissing : Error := .shutdown "web value missing from context"

def zeroTraceId : String := "00000000-0000-0000-0000-000000000000"

def traceId (c : Context) : String := (c.values.map (·.traceId)).getD zeroTraceId

def requireValues (c : Context) : Except Error RequestValues :=
  match c.values with
  | some v => .ok v
  | none => .error valuesMissing

def setStatus (c : Context) (status : Nat) : Except Error Context :=
  match c.values with
  | some v => .ok { c with values := some { v with status := some status } }
  | none => .error valuesMissing

def setClaims (c : Context) (claims : Claims) : Context := { c with claims := some claims }

def cancel (c : Context) : Context := { c with cancelled := true }

end Context

/-- A context under a parent that can be cancelled as well. -/
structure Scope where
  context : Context
  parentCancelled : Bool
  deriving DecidableEq, Repr

inductive ScopeStep
  | setStatus (status : Nat)
  | setClaims (claims : Claims)
  | cancel
  | cancelParent
  deriving DecidableEq, Repr

namespace Scope

def step (s : Scope) : ScopeStep → Scope × Option Error
  | .setStatus status =>
    match s.context.setStatus status with
    | .ok c => ({ s with context := c }, none)
    | .error e => (s, some e)
  | .setClaims claims => ({ s with context := s.context.setClaims claims }, none)
  | .cancel => ({ s with context := s.context.cancel }, none)
  | .cancelParent =>
    ({ context := if s.context.linked then s.context.cancel else s.context,
       parentCancelled := true }, none)

end Scope

end Turnstile
