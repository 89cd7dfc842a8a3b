import Turnstile.KeyFile
import Turnstile.Program.Arguments
import Turnstile.Token.Authenticator

/-! The operator's program: it generates keys and issues tokens without the service. -/

namespace Turnstile

/-- What a program finds when it starts. -/
structure World where
  files : FileTree
  environment : String → Option String
  clock : Instant
  entropy : Entropy
  generator : Rsa.Generator
  telemetry : Instant → Telemetry

/-- How a program ends: with its output and a key it may have written, or early. -/
inductive Outcome
  | done (output errors : String) (written : Option NewKey)
  | usage
  | failed (message : String)
  | panicked (message : String)

namespace Outcome

def code : Outcome → Nat
  | done _ _ _ => 0
  | usage => 2
  | failed _ => 1
  | panicked _ => 101

end Outcome

namespace Admin

def generateKey (w : World) (dir : String) (bits : Nat) : Outcome :=
  match w.files.makeDirs (Bytes.ofString dir) with
  | none => .failed s!"creating {dir}"
  | some files =>
    match NewKey.generate w.generator files (Bytes.ofString dir) bits w.entropy with
    | .error _ => .failed "generating key"
    | .ok k => .done (k.kid ++ "\n") s!"wrote {Text.lossy k.path}\n" (some k)

def spanOverflow : String := "TimeDelta::seconds out of bounds"

def generateToken (w : World) (keysDir kid issuer : String) (ttl : Int) (subject : String)
    (roles : List Role) : Outcome :=
  match (KeyDirectory.load w.files (Bytes.ofString keysDir)).1 with
  | .error _ => .failed s!"loading keys from {keysDir}"
  | .ok keys =>
    match Authenticator.new keys kid with
    | .error _ => .failed "building authenticator"
    | .ok auth =>
      match Span.ofSeconds? ttl with
      | none => .panicked spanOverflow
      | some ttl =>
        match Claims.issue? subject issuer (roles.map Role.name) w.clock ttl with
        | none => .panicked Claims.overflowMessage
        | some claims =>
          match auth.generate keys claims with
          | .ok token => .done ((Bytes.toString? token).getD "" ++ "\n") "" none
          | .error (.refused _) => .failed "signing token"
          | .error (.fault f) => .panicked f.message

def run (w : World) (args : List String) : Outcome :=
  match Command.ofArguments? w.environment args with
  | none => .usage
  | some (.generateKey dir bits) => generateKey w dir bits
  | some (.generateToken keysDir kid issuer ttl subject roles) =>
    generateToken w keysDir kid issuer ttl subject roles

end Admin

end Turnstile
