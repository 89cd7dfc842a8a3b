import Turnstile.Flow.Handler
import Turnstile.Service.App

/-! The routes of the service. -/

namespace Turnstile

namespace Health

open Json

def build : String := "0.1.0"

/-- Always up. -/
def liveness (env : Env) (_ : Counters) : Response :=
  Response.json 200 (Value.object [("status", .text "up"), ("build", .text build),
    ("host", .text (env.hostname.getD "unavailable"))]).bytes

/-- Ready as long as the active key is in the store. -/
def readiness (env : Env) (_ : Counters) : Response :=
  let ready := env.auth.isReady env.keys
  Response.json (if ready then 200 else 503) (Value.object
    [("status", .text (if ready then "ok" else "degraded")),
     ("checks", .object [("service", .text "ok"),
       ("signing_key", .text (if ready then "ok" else "missing"))])]).bytes

def metrics (_ : Env) (counters : Counters) : Response := Response.plain 200 counters.render

end Health

namespace Api

def guarded (roles : List Role) : List Interceptor :=
  [Middleware.authenticate, .authorize (roles.map Role.name)].map Middleware.intercept

def global : List Interceptor := Middleware.standard.map Middleware.intercept

/-- Method, path and endpoint of every route. -/
def endpoints : List (Method × String × Endpoint) :=
  [(.get, "/v1/test", .chain (Chain.new global [] Handler.test)),
   (.get, "/v1/testauth", .chain (Chain.new global (guarded [.admin]) Handler.test)),
   (.post, "/v1/users/token", .chain (Chain.new global [] Handler.token)),
   (.get, "/v1/users/me", .chain (Chain.new global (guarded [.admin, .user]) Handler.me)),
   (.get, "/debug/liveness", .plain Health.liveness),
   (.get, "/debug/readiness", .plain Health.readiness),
   (.get, "/debug/metrics", .plain Health.metrics)]

def app : App :=
  ⟨global, endpoints.map fun (method, path, e) =>
    ⟨path, (Bytes.ofString path).map .byte, [(method, e)]⟩⟩

end Api

end Turnstile
