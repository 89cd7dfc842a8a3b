import Turnstile.Role
import Turnstile.Text.Decimal

/-! Command line arguments: options with a value, in any place, and positional ones. -/

namespace Turnstile

structure Arguments where
  options : List (String × String)
  positional : List String
  deriving DecidableEq, Repr

namespace Arguments

/-- A value may not look like an option, unless it is a lone dash. -/
def looksLikeOption (s : String) : Bool := s.startsWith "-" && s ≠ "-"

/-- An option and the value behind an equals sign, if one is there. -/
def splitOption (s : String) : String × Option String :=
  match (s.toList.drop 2).span (· != '=') with
  | (name, []) => (String.ofList name, none)
  | (name, _ :: value) => (String.ofList name, some (String.ofList value))

def add (a : Arguments) (name value : String) : Option Arguments :=
  if a.options.any (·.1 == name) then none
  else some { a with options := a.options ++ [(name, value)] }

/-- Each known option at most once, each with a value; after two dashes all is positional. -/
def collect (known : List String) (a : Arguments) : List String → Option Arguments
  | [] => some a
  | arg :: rest =>
    if arg = "--" then some { a with positional := a.positional ++ rest }
    else if !looksLikeOption arg then
      collect known { a with positional := a.positional ++ [arg] } rest
    else if !arg.startsWith "--" then none
    else
      let (name, value) := splitOption arg
      if !known.contains name then none
      else match value, rest with
        | some value, rest => (a.add name value).bind (collect known · rest)
        | none, [] => none
        | none, value :: rest =>
          if looksLikeOption value then none else (a.add name value).bind (collect known · rest)

def ofList? (known : List String) (args : List String) : Option Arguments :=
  collect known ⟨[], []⟩ args

/-- The option, else the environment variable, else the default. -/
def value? (a : Arguments) (env : String → Option String) (name : String)
    (envName default : Option String) : Option String :=
  match a.options.find? (·.1 == name) with
  | some (_, v) => some v
  | none =>
    match envName.bind env with
    | some v => some v
    | none => default

end Arguments

/-- What the operator asks for. -/
inductive Command
  | generateKey (dir : String) (bits : Nat)
  | generateToken (keysDir kid issuer : String) (ttl : Int) (subject : String) (roles : List Role)
  deriving DecidableEq, Repr

namespace Command

/-- The directory of keys that a command works on. -/
def directory : Command → String
  | generateKey dir _ => dir
  | generateToken dir _ _ _ _ _ => dir

def notEmpty (s : String) : Option String := if s.isEmpty then none else some s

def generateKey? (env : String → Option String) (args : List String) : Option Command := do
  let a ← Arguments.ofList? ["dir", "bits"] args
  if !a.positional.isEmpty then none
  let dir ← (a.value? env "dir" (some "KEYS_DIR") (some "keys/")).bind notEmpty
  let bits ← (a.value? env "bits" none (some "2048")).bind (Text.natUpTo? Word.max64)
  some (generateKey dir bits)

def generateToken? (env : String → Option String) (args : List String) : Option Command := do
  let a ← Arguments.ofList? ["keys-dir", "kid", "issuer", "ttl-secs"] args
  let keysDir ← (a.value? env "keys-dir" (some "KEYS_DIR") (some "keys/")).bind notEmpty
  let kid ← a.value? env "kid" (some "ACTIVE_KID") none
  let issuer ← a.value? env "issuer" (some "TOKEN_ISSUER") (some "authgate")
  let ttl ← (a.value? env "ttl-secs" none (some "3600")).bind Text.int64?
  match a.positional with
  | subject :: role :: roles =>
    let roles ← (role :: roles).mapM Role.ofName?
    some (generateToken keysDir kid issuer ttl subject roles)
  | _ => none

/-- None for a wrong use of the command line. -/
def ofArguments? (env : String → Option String) : List String → Option Command
  | "genkey" :: args => generateKey? env args
  | "gentoken" :: args => generateToken? env args
  | _ => none

end Command

end Turnstile
