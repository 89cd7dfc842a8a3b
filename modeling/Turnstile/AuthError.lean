import Turnstile.Text.Quoted

/-! Why a token is refused, and what a client is told. Every refused token looks the same from
outside; the cause is for the log. -/

namespace Turnstile

inductive AuthError
  | invalidAuthHeader
  | malformedToken
  | disallowedAlgorithm (name : String)
  | missingKid
  | keyNotFound (kid : String)
  | invalidSignature
  | tokenExpired
  | activeKeyMissing (kid : String)
  | privateKeyLookup
  | signing (cause : String)
  | insufficientPermissions (claimed required : List String)
  deriving DecidableEq, Repr

namespace AuthError

def authenticationFailed : String := "authentication failed"

def notAuthorized : String := "you are not authorized for that action"

def genericMessage : String := "Internal Server Error"

def message : AuthError → String
  | invalidAuthHeader => "invalid authorization header format: bearer <token>"
  | malformedToken => "token is malformed"
  | disallowedAlgorithm name => s!"token algorithm {name} is not allowed"
  | missingKid => "missing key id (kid) in token header"
  | keyNotFound _ => "key not found"
  | invalidSignature => "token signature is invalid"
  | tokenExpired => "token has expired"
  | activeKeyMissing kid => s!"active KID {kid} does not exist in store"
  | privateKeyLookup => "private key lookup failed"
  | signing cause => s!"signing token: {cause}"
  | insufficientPermissions claimed required =>
    "claims roles " ++ Text.quoteList claimed ++ " do not include any of " ++
      Text.quoteList required

def status : AuthError → Nat
  | invalidAuthHeader | malformedToken | disallowedAlgorithm _ | missingKid | keyNotFound _
  | invalidSignature | tokenExpired => 401
  | insufficientPermissions _ _ => 403
  | activeKeyMissing _ | privateKeyLookup | signing _ => 500

def publicMessage : AuthError → String
  | invalidAuthHeader => "invalid authorization header format: bearer <token>"
  | insufficientPermissions _ _ => notAuthorized
  | e => if e.status = 401 then authenticationFailed else genericMessage

end AuthError

end Turnstile
