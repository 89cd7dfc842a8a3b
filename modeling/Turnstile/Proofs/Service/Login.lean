import Turnstile.Proofs.Service.Api
import Turnstile.Proofs.Token.RoundTrip

/-! A login, from the request to the response: who gets a token, what the token says, and what
everyone else is told. -/

namespace Turnstile

open Login

/-- The account and the key of a token that was issued. -/
def Event.issued? : Event → Option (String × String)
  | .tokenIssued subject kid => some (subject, kid)
  | _ => none

/-- The tokens that a request was given, as the log has them. -/
def Reply.issued (r : Reply) : List (String × String) :=
  r.logged.filterMap fun l => l.event.issued?

namespace Service

/-- The request is for the token route of the service. -/
structure IsLogin (s : Service) (req : Request) : Prop where
  app : s.app = Api.app
  method : req.method = "POST"
  path : req.path = "/v1/users/token"

/-- The request gets a token for the account, under the key. -/
def Grants (s : Service) (req : Request) (clock : Instant) : Account → Rsa.PrivateKey → Prop :=
  Granted s.users s.keys s.auth.activeKid s.cancelled clock req.body

/-- The request fails, and is answered so. -/
def Refuses (s : Service) (req : Request) (clock : Instant) : Failure → ErrorResponse → Prop :=
  Refused s.users s.keys s.auth.activeKid s.cancelled clock req.body

/-- The answer of a refused login, and the three events that it leaves. -/
def refusal (t : Telemetry) (req : Request) (fresh : String) (f : Failure) (r : ErrorResponse) :
    Reply where
  outcome := .ok (share (RequestId.adopt req fresh) (finish req.method r.response))
  logged := [Event.requestStarted req.method req.path req.remoteText,
    Middleware.failureEvent (f.traced t.trace) r.status,
    .requestCompleted req.method req.path req.remoteText r.status t.elapsed].map
      (⟨·, some (RequestId.adopt req fresh)⟩)
  notes := []

variable {s : Service} {req : Request} {clock : Instant} {fresh : String}

theorem isStandard_token : (Chain.new Api.global [] Handler.token).IsStandard :=
  ⟨_, _, rfl, by simp, Handler.keeps_token⟩

theorem IsLogin.chain? (h : s.IsLogin req) :
    s.app.chain? req = some ("/v1/users/token", Chain.new Api.global [] Handler.token) := by
  rw [h.app]
  exact Api.chain?_token h.method h.path

theorem values_new (id : String) (clock : Instant) (cancelled : Bool) :
    (Context.new id clock cancelled).values = some ⟨id, clock, none⟩ := rfl

theorem insideResult_token (req : Request) (id : String) :
    s.insideResult req id clock (Chain.new Api.global [] Handler.token) =
      Handler.token req (s.env clock) (Context.new id clock s.cancelled) := rfl

theorem serve_of_refuses (h : s.IsLogin req) {f : Failure} {r : ErrorResponse}
    (hr : s.Refuses req clock f r) :
    (s.serve req clock fresh).2 = refusal (s.telemetry clock) req fresh f r := by
  have hinside : s.insideResult (req.entering "/v1/users/token" fresh) (RequestId.adopt req fresh)
      clock (Chain.new Api.global [] Handler.token) =
        ⟨.error f, Context.new (RequestId.adopt req fresh) clock s.cancelled, []⟩ := by
    have hbody : Refused s.users s.keys s.auth.activeKid s.cancelled clock
        (req.entering "/v1/users/token" fresh).body f r := by
      rw [Request.body_entering]
      exact hr
    exact Handler.token_of_refused (e := s.env clock) (values_new _ clock s.cancelled) hbody
  have hdispatch := dispatch_of_error isStandard_token (congrArg Result.outcome hinside)
  rw [serve_of_chain? h.chain?, hdispatch]
  simp only [failureReport, hinside, hr.ofError, hr.shutdown?, Middleware.events_report,
    Middleware.notes_report, Request.method_entering, Request.path_entering,
    Request.remoteText_entering]
  rfl

theorem serve_of_grants (fresh : String) (h : s.IsLogin req) {expires : ℤ}
    (hexpires : clock.addSeconds? s.users.ttl = some expires) {a : Account} {key : Rsa.PrivateKey}
    (hg : s.Grants req clock a key) {text : String}
    (hsign : Token.sign key s.auth.activeKid
      ⟨s.users.issuer, a.user.id, clock.seconds, expires, a.user.roles⟩ =
        .ok (Bytes.ofString text)) :
    ∃ answer, (s.serve req clock fresh).2.outcome = .ok answer ∧ answer.status = 200 ∧
      answer.body = (Json.Value.object [("token", .text text)]).bytes ∧
      (s.serve req clock fresh).2.issued = [(a.user.id, s.auth.activeKid)] := by
  have hbody : Granted s.users s.keys s.auth.activeKid s.cancelled clock
      (req.entering "/v1/users/token" fresh).body a key := by
    rw [Request.body_entering]
    exact hg
  have hinside := Handler.token_of_granted (e := s.env clock)
    (values_new (RequestId.adopt req fresh) clock s.cancelled) hexpires hbody hsign
  rw [← insideResult_token] at hinside
  obtain ⟨status, effects, heffects, hdispatch⟩ :=
    dispatch_of_ok isStandard_token (congrArg Result.outcome hinside)
  have hjson : Handler.tokenJson (Bytes.ofString text) = .object [("token", .text text)] := by
    rw [Handler.tokenJson, Bytes.toString?_ofString]
    rfl
  have hmethod : req.method ≠ "HEAD" := by
    rw [h.method]
    decide
  rw [serve_of_chain? h.chain?, hdispatch, heffects, hinside, hjson, Middleware.events_report]
  refine ⟨_, rfl, ?_, ?_, rfl⟩
  · rw [status_share, status_finish]
    rfl
  · rw [body_share, body_finish hmethod]
    rfl

theorem isSigned64_of_inRange {t : ℤ} (h : Instant.inRange t = true) :
    Word.isSigned64 t = true := by
  simp only [Instant.inRange, Bool.and_eq_true, decide_eq_true_eq] at h
  simp only [Word.isSigned64, Bool.and_eq_true, decide_eq_true_eq]
  unfold Instant.minSeconds Instant.maxSeconds at h
  unfold Word.minSigned64 Word.maxSigned64
  omega

theorem issued_refusal (t : Telemetry) (req : Request) (fresh : String) (f : Failure)
    (r : ErrorResponse) : (refusal t req fresh f r).issued = [] := by
  have hfailure : (Middleware.failureEvent (f.traced t.trace) r.status).issued? = none := by
    unfold Middleware.failureEvent
    split
    · rfl
    · split_ifs <;> rfl
  simp only [refusal, Reply.issued, List.map_cons, List.map_nil, List.filterMap_cons, hfailure]
  rfl

theorem refusal_sends (hmethod : req.method = "POST") (t : Telemetry) (fresh : String)
    (f : Failure) (r : ErrorResponse) : ∃ answer, (refusal t req fresh f r).outcome = .ok answer ∧
      answer.status = r.status ∧ answer.body = r.json.bytes := by
  have hhead : req.method ≠ "HEAD" := by
    rw [hmethod]
    decide
  refine ⟨_, rfl, ?_, ?_⟩
  · rw [status_share, status_finish]
    rfl
  · rw [body_share, body_finish hhead]
    rfl

/-- Logging in. A token is given out exactly when every condition holds, and then it is good for its
account until it expires; else the first condition that fails makes the answer. -/
theorem answer_of_login (s : Service) (req : Request) (clock : Instant) (fresh : String)
    {expires : ℤ} (h : s.IsLogin req) (hclock : Instant.inRange clock.seconds = true)
    (hexpires : clock.addSeconds? s.users.ttl = some expires) (h0 : 0 ≤ expires)
    (hkey : ∀ key, s.keys.privateKey? s.auth.activeKid = some key → key.IsSound) :
    (s.serve req clock fresh).1.users = s.users ∧ (s.serve req clock fresh).1.keys = s.keys ∧
      ∃ answer, (s.serve req clock fresh).2.outcome = .ok answer ∧
        (answer.status = 200 ↔ ∃ a key, s.Grants req clock a key) ∧
        (∀ a key, s.Grants req clock a key →
          (s.serve req clock fresh).2.issued = [(a.user.id, s.auth.activeKid)] ∧
          ∃ text, answer.body = (Json.Value.object [("token", .text text)]).bytes ∧
            ∀ now < expires, s.auth.validate s.keys (Bytes.ofString text) now =
              .ok ⟨s.users.issuer, a.user.id, clock.seconds, expires, a.user.roles⟩) ∧
        ((¬ ∃ a key, s.Grants req clock a key) →
          (s.serve req clock fresh).2.issued = [] ∧
          ∃ f r, s.Refuses req clock f r ∧ answer.status = r.status ∧ answer.body = r.json.bytes) := by
  obtain ⟨counters, channel, hframe⟩ := serve_frame s req clock fresh
  refine ⟨by rw [hframe], by rw [hframe], ?_⟩
  rcases refused_or_granted s.users s.keys s.auth.activeKid s.cancelled clock req.body with
    ⟨f, r, hr⟩ | ⟨a, key, hg⟩
  · obtain ⟨answer, ho, hstatus, hbody⟩ := refusal_sends h.method (s.telemetry clock) fresh f r
    have hnone : ¬ ∃ a key, s.Grants req clock a key := by
      rintro ⟨a, key, hg⟩
      exact hr.not_granted hg
    rw [serve_of_refuses h hr]
    refine ⟨answer, ho, ⟨?_, fun hg => absurd hg hnone⟩, ?_, ?_⟩
    · intro h200
      exact absurd (hstatus.symm.trans h200) hr.status_ne
    · intro a key hg
      exact absurd ⟨a, key, hg⟩ hnone
    · intro _
      exact ⟨issued_refusal _ req fresh f r, f, r, hr, hstatus, hbody⟩
  · have hrange := (Option.filter_eq_some_iff.1 hexpires).2
    obtain ⟨token, hsign, hvalid⟩ := Token.exists_token (hkey key hg.key) hg.key
      ⟨s.users.issuer, a.user.id, clock.seconds, expires, a.user.roles⟩
      (isSigned64_of_inRange hclock) (isSigned64_of_inRange hrange) h0
    obtain ⟨text, rfl⟩ := Token.exists_text_of_sign hsign
    obtain ⟨answer, ho, hstatus, hbody, hissued⟩ := serve_of_grants fresh h hexpires hg hsign
    refine ⟨answer, ho, ⟨fun _ => ⟨a, key, hg⟩, fun _ => hstatus⟩, ?_, ?_⟩
    · intro a' key' hg'
      obtain ⟨rfl, rfl⟩ := hg.unique hg'
      exact ⟨hissued, text, hbody, hvalid⟩
    · intro hnone
      exact absurd ⟨a, key, hg⟩ hnone

/-! A service with one account. -/

def someAccount : Account :=
  ⟨⟨"1", "Some", "some@example.com", ["USER"], true, ⟨0, 0⟩⟩,
    Credential.ofPassword "secret" [1, 2, 3] 1⟩

def someUsers : Users := { Users.new "gate" ⟨60, 0⟩ 1 with
  accounts := Std.TreeMap.insert ∅ "some@example.com" someAccount }

def someService : Service where
  app := Api.app
  keys := .mersenne
  auth := ⟨"k"⟩
  users := someUsers
  counters := .zero
  channel := .new
  cancelled := false
  hostname := none
  telemetry := default

def someLogin (password : String) : Request :=
  { plainRequest "POST" "/v1/users/token" with
    body := (TokenRequest.json ⟨"some@example.com", password⟩).bytes }

theorem asks_someLogin : Asks (someLogin "secret").body ⟨"some@example.com", "secret"⟩ where
  short := by decide +kernel
  reads := by decide +kernel
  valid := by decide +kernel

theorem accounts_someUsers : someUsers.accounts["some@example.com"]? = some someAccount := by
  simp [someUsers]

theorem emailKey_some : Users.emailKey "some@example.com" = "some@example.com" := by decide +kernel

theorem grants_someLogin : someService.Grants (someLogin "secret") ⟨0, 0⟩ someAccount Rsa.mersenneKey where
  opens := ⟨_, asks_someLogin, by rw [emailKey_some]; exact accounts_someUsers, rfl⟩
  enabled := rfl
  ends := by decide
  live := rfl
  key := KeyStore.privateKey?_mersenne

theorem expires_someLogin : (Instant.mk 0 0).addSeconds? someService.users.ttl = some 60 := by
  decide

theorem answer_of_login_someLogin :
    someService.IsLogin (someLogin "secret") ∧
      ∃ answer, (someService.serve (someLogin "secret") ⟨0, 0⟩ "id").2.outcome = .ok answer ∧
        answer.status = 200 ∧
        ∃ text, answer.body = (Json.Value.object [("token", .text text)]).bytes ∧
          Token.validate someService.keys (Bytes.ofString text) 59 =
            .ok ⟨"gate", "1", 0, 60, ["USER"]⟩ := by
  have hlogin : someService.IsLogin (someLogin "secret") := ⟨rfl, rfl, rfl⟩
  have hkey : ∀ key, someService.keys.privateKey? someService.auth.activeKid = some key →
      key.IsSound := by
    intro key h
    obtain rfl := Option.some.inj (KeyStore.privateKey?_mersenne.symm.trans h)
    exact Rsa.isSound_mersenneKey
  obtain ⟨-, -, answer, ho, hstatus, hgranted, -⟩ := answer_of_login someService
    (someLogin "secret") ⟨0, 0⟩ "id" hlogin (by decide) expires_someLogin (by decide) hkey
  obtain ⟨-, text, hbody, hvalid⟩ := hgranted _ _ grants_someLogin
  exact ⟨hlogin, answer, ho, hstatus.2 ⟨_, _, grants_someLogin⟩, text, hbody, hvalid 59 (by decide)⟩

end Service

end Turnstile
