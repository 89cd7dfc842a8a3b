import Turnstile.Hash.Pbkdf2
import Turnstile.Text.Blank
import Turnstile.Text.Case
import Turnstile.Token.Claims
import Std.Data.TreeMap

/-! Registered users, filed under their email, and the check of their passwords. -/

namespace Turnstile

structure User where
  id : String
  name : String
  email : String
  roles : List String
  enabled : Bool
  created : Instant
  deriving DecidableEq, Repr

/-- What it takes to check a password. -/
structure Credential where
  salt : Bytes
  iterations : Nat
  hash : Bytes
  deriving DecidableEq, Repr

namespace Credential

def ofPassword (password : String) (salt : Bytes) (iterations : Nat) : Credential :=
  ⟨salt, iterations, Pbkdf2.derive (Bytes.ofString password) salt iterations⟩

def verify (c : Credential) (password : String) : Bool :=
  Pbkdf2.derive (Bytes.ofString password) c.salt c.iterations == c.hash

/-- Checked in place of an unknown user's, so that the answer takes the same work. -/
def dummy (iterations : Nat) : Credential :=
  ⟨List.replicate 16 0x5a, iterations, List.replicate 32 0⟩

end Credential

structure Account where
  user : User
  credential : Credential
  deriving DecidableEq, Repr

structure NewUser where
  name : String
  email : String
  roles : List String
  password : String
  deriving DecidableEq, Repr

/-- Tokens for these users carry the issuer and live for the span. -/
structure Users where
  accounts : Std.TreeMap String Account
  issuer : String
  ttl : Span
  iterations : Nat

/-- A store in memory is given its salts and hashes in place, and so ends neither in `random` nor in
`hashing`. -/
inductive UsersError
  | notFound
  | authenticationFailed
  | forbidden
  | duplicateEmail (email : String)
  | random
  | hashing
  | overflow
  deriving DecidableEq, Repr

def UsersError.message : UsersError → String
  | notFound => "not found"
  | authenticationFailed => "authentication failed"
  | forbidden => "attempted action is not allowed"
  | duplicateEmail email => s!"email {email} is already registered"
  | random => "generating salt"
  | hashing => "password hashing task failed"
  | overflow => Claims.overflowMessage

namespace Users

def defaultIterations : Nat := 100000

def new (issuer : String) (ttl : Span) (iterations : Nat) : Users := ⟨∅, issuer, ttl, iterations⟩

def size (s : Users) : Nat := s.accounts.size

def isEmpty (s : Users) : Bool := s.size = 0

/-- The key of an email: no white space around it, in lower case. -/
def emailKey (email : String) : String := Text.lowercase (Text.trim email)

def account? (s : Users) (email : String) : Option Account := s.accounts[emailKey email]?

/-- Files an account under its user's email unless one is there. -/
def register (s : Users) (a : Account) : Except UsersError Users :=
  if s.accounts.contains a.user.email then .error (.duplicateEmail a.user.email)
  else .ok { s with accounts := s.accounts.insert a.user.email a }

/-- The account that a new user would get. -/
def prepare (s : Users) (new : NewUser) (id : String) (salt : Bytes) (now : Instant) : Account :=
  ⟨⟨id, new.name, emailKey new.email, new.roles, true, now⟩,
   Credential.ofPassword new.password salt s.iterations⟩

def create (s : Users) (new : NewUser) (id : String) (salt : Bytes) (now : Instant) :
    Except UsersError (User × Users) :=
  let a := s.prepare new id salt now
  (s.register a).map (a.user, ·)

def query (s : Users) (email : String) : Except UsersError User :=
  match s.account? email with
  | none => .error .notFound
  | some a => .ok a.user

/-- Disabled users obtain no more tokens. -/
def setEnabled (s : Users) (email : String) (enabled : Bool) : Except UsersError Users :=
  match s.account? email with
  | none => .error .notFound
  | some a =>
    .ok { s with accounts :=
      s.accounts.insert (emailKey email) { a with user := { a.user with enabled := enabled } } }

/-- The verdict on a password, from what was read of the store. -/
def verdict (s : Users) (found : Option Account) (password : String) (now : Instant) :
    Except UsersError Claims :=
  let credential := (found.map (·.credential)).getD (Credential.dummy s.iterations)
  let verified := credential.verify password
  match found with
  | none => .error .notFound
  | some a =>
    if !verified then .error .authenticationFailed
    else if !a.user.enabled then .error .forbidden
    else match Claims.issue? a.user.id s.issuer a.user.roles now s.ttl with
      | none => .error .overflow
      | some claims => .ok claims

def authenticate (s : Users) (email password : String) (now : Instant) :
    Except UsersError Claims :=
  s.verdict (s.account? email) password now

end Users

end Turnstile
