import Turnstile.Config
import Turnstile.KeyDirectory
import Turnstile.Program.Admin
import Turnstile.Service.Api

/-! The start of the service, from its environment to the address it listens on. -/

namespace Turnstile

/-- The service, ready to answer requests, and where it listens. -/
structure Started where
  service : Service
  address : Net.SocketAddress

namespace Server

def seedUser (seed : SeedAdmin) : NewUser :=
  ⟨"Administrator", seed.email, [Role.admin.name, Role.user.name], seed.password⟩

/-- The users of a fresh service: none, or the one administrator of the configuration. -/
def initialUsers (config : Config) (ttl : Span) (clock : Instant) (e : Entropy) :
    Except UsersError Users :=
  let users := Users.new config.tokenIssuer ttl Users.defaultIterations
  match config.seedAdmin with
  | none => .ok users
  | some seed =>
    let (salt, e) := e.take 16
    (users.create (seedUser seed) (Uuid.ofRandom (e.take 16).1) salt clock).map (·.2)

/-- Everything up to listening; the first step that fails names the failure. -/
def start (w : World) : Except String Started := do
  let config ← (Config.ofLookup w.environment).mapError fun _ => "loading configuration"
  let keys ← (KeyDirectory.load w.files (Bytes.ofString config.keysDir)).1.mapError fun _ =>
    s!"loading keys from {config.keysDir}"
  let auth ← (Authenticator.new keys config.activeKid).mapError fun _ =>
    "constructing authenticator"
  let ttl ← match Span.ofSeconds? config.tokenTtl with
    | some ttl => .ok ttl
    | none => .error "token ttl out of range"
  let users ← (initialUsers config ttl w.clock w.entropy).mapError fun _ => "seeding admin user"
  let address ← config.bindAddress.mapError ConfigError.message
  .ok
    { service :=
        { app := Api.app
          keys := keys
          auth := auth
          users := users
          counters := Counters.zero
          channel := Shutdown.Channel.new
          cancelled := false
          hostname := w.environment "HOSTNAME"
          telemetry := w.telemetry }
      address := address }

end Server

end Turnstile
