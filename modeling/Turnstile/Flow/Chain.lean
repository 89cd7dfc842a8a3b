import Turnstile.Flow.Basic

/-! Interceptors around a handler, the first one outermost. -/

namespace Turnstile

abbrev Handler := Request → Flow Response

/-- Makes a handler of the rest of the chain, which it may run or leave. -/
abbrev Interceptor := Handler → Handler

structure Chain where
  interceptors : List Interceptor
  handler : Handler

namespace Chain

/-- Global interceptors go around those of the route. -/
def new (global route : List Interceptor) (handler : Handler) : Chain :=
  ⟨global ++ route, handler⟩

def size (c : Chain) : Nat := c.interceptors.length

def isEmpty (c : Chain) : Bool := c.size = 0

def run (c : Chain) : Handler := c.interceptors.foldr (fun i next => i next) c.handler

end Chain

end Turnstile
