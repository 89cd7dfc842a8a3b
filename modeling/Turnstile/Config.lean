import Turnstile.Net.Address
import Turnstile.Text.Blank
import Turnstile.Text.Case
import Turnstile.Text.Decimal
import Turnstile.Text.Quoted

/-! The configuration of the service, read from environment variables. -/

namespace Turnstile

inductive LogFormat
  | json
  | pretty
  deriving DecidableEq, Repr

def LogFormat.ofName? (s : String) : Option LogFormat :=
  let s := Text.lowercaseAscii s
  if s = "json" then some .json else if s = "pretty" then some .pretty else none

structure SeedAdmin where
  email : String
  password : String
  deriving DecidableEq, Repr

/-- Keeps the password to itself. -/
def SeedAdmin.text (s : SeedAdmin) : String :=
  "SeedAdmin \x7b email: " ++ Text.quote s.email ++ ", password: \"<redacted>\" \x7d"

structure Config where
  host : String
  port : Nat
  keysDir : String
  activeKid : String
  tokenIssuer : String
  tokenTtl : Nat
  shutdownTimeout : Nat
  logFormat : LogFormat
  seedAdmin : Option SeedAdmin
  deriving DecidableEq, Repr

inductive ConfigError
  | missing (name : String)
  | invalid (name value : String)
  | incomplete (first second : String)
  deriving DecidableEq, Repr

def ConfigError.message : ConfigError → String
  | missing name => s!"{name} is required"
  | invalid name value => s!"{name} has invalid value " ++ Text.quote value
  | incomplete first second => s!"{first} and {second} must be set together"

namespace Config

/-- A blank value counts as unset. -/
def get? (lookup : String → Option String) (name : String) : Option String :=
  (lookup name).filter fun v => !(Text.trim v).isEmpty

def seed? (lookup : String → Option String) : Except ConfigError (Option SeedAdmin) :=
  match get? lookup "SEED_ADMIN_EMAIL", get? lookup "SEED_ADMIN_PASSWORD" with
  | some email, some password => .ok (some ⟨email, password⟩)
  | none, none => .ok none
  | _, _ => .error (.incomplete "SEED_ADMIN_EMAIL" "SEED_ADMIN_PASSWORD")

/-- The value without white space around it, as the reader takes it; the default when unset. -/
def parsed {α : Type} (lookup : String → Option String) (name : String) (default : α)
    (read : String → Option α) : Except ConfigError α :=
  match get? lookup name with
  | none => .ok default
  | some v =>
    match read (Text.trim v) with
    | some a => .ok a
    | none => .error (.invalid name v)

def ofLookup (lookup : String → Option String) : Except ConfigError Config := do
  let activeKid ← match get? lookup "ACTIVE_KID" with
    | some kid => .ok kid
    | none => .error (.missing "ACTIVE_KID")
  let seedAdmin ← seed? lookup
  let port ← parsed lookup "PORT" 3000 (Text.natUpTo? Word.max16)
  let tokenTtl ← parsed lookup "TOKEN_TTL_SECS" 3600 (Text.natUpTo? Word.max64)
  let shutdownTimeout ← parsed lookup "SHUTDOWN_TIMEOUT_SECS" 20 (Text.natUpTo? Word.max64)
  let logFormat ← parsed lookup "LOG_FORMAT" .pretty LogFormat.ofName?
  .ok
    { host := (get? lookup "HOST").getD "0.0.0.0"
      port := port
      keysDir := (get? lookup "KEYS_DIR").getD "keys/"
      activeKid := activeKid
      tokenIssuer := (get? lookup "TOKEN_ISSUER").getD "authgate"
      tokenTtl := tokenTtl
      shutdownTimeout := shutdownTimeout
      logFormat := logFormat
      seedAdmin := seedAdmin }

/-- Where to listen. -/
def bindAddress (c : Config) : Except ConfigError Net.SocketAddress :=
  match Net.SocketAddress.ofString? s!"{c.host}:{c.port}" with
  | some a => .ok a
  | none => .error (.invalid "HOST" c.host)

end Config

end Turnstile
