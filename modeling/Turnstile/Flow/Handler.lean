import Turnstile.Flow.Chain
import Turnstile.TokenRequest

/-! The handlers of the service, and the reading of request bodies. -/

namespace Turnstile

namespace Handler

def maxBodySize : Nat := 65536

def bodyTooLong : RequestError :=
  (RequestError.badRequest "unable to read request body").withCause "length limit exceeded"

def undecodable : RequestError := RequestError.badRequest "unable to decode payload"

/-- The body as a value of the wanted type, if it is not too long. -/
def decode {α : Type} (read : Bytes → Option α) (req : Request) : Flow α :=
  if maxBodySize < req.body.length then Flow.fail (.request bodyTooLong)
  else match read req.body with
    | some a => pure a
    | none => Flow.fail (.request undecodable)

/-- Answers that the service works. -/
def test : Handler := fun _ => Flow.respond 200 (Json.Value.object [("status", .text "OK")]).bytes

def noClaims : RequestError :=
  (RequestError.unauthorized AuthError.authenticationFailed).withCause "no claims"

/-- Answers the claims of the request. -/
def me : Handler := fun _ => do
  match (← Flow.context).claims with
  | none => Flow.fail (.request noClaims)
  | some claims => Flow.respond 200 claims.json.bytes

/-- An unknown email and a wrong password look the same to the client. -/
def usersFailure (e : UsersError) : Failure :=
  match e with
  | .notFound | .authenticationFailed =>
    .error (.request ((RequestError.unauthorized AuthError.authenticationFailed).withCause e.message))
  | .forbidden =>
    .error (.request ((RequestError.forbidden AuthError.notAuthorized).withCause e.message))
  | .duplicateEmail _ | .random | .hashing => .error (.internal s!"authenticating: {e.message}")
  | .overflow => .panic (some e.message)

def shuttingDown : RequestError := RequestError.new 503 "server is shutting down"

def mintFailure : MintError → Failure
  | .refused e => .error (Error.ofAuth e)
  | .fault f => .panic (some f.message)

def tokenJson (token : Bytes) : Json.Value :=
  .object [("token", .text ((Bytes.toString? token).getD ""))]

/-- Exchanges email and password for a token. -/
def token : Handler := fun req => do
  let now := (← Flow.values).now
  let payload ← decode TokenRequest.ofJson? req
  match payload.check with
  | [] =>
    let env ← Flow.env
    match env.users.authenticate payload.email payload.password now with
    | .error e => Flow.raise (usersFailure e)
    | .ok claims =>
      if (← Flow.context).cancelled then Flow.fail (.request shuttingDown)
      else match env.auth.generate env.keys claims with
        | .error e => Flow.raise (mintFailure e)
        | .ok token =>
          Flow.log (.tokenIssued claims.subject env.auth.activeKid)
          Flow.respond 200 (tokenJson token).bytes
  | fields => Flow.fail (.validation fields)

end Handler

end Turnstile
