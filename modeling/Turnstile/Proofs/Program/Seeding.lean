import Turnstile.Program.Server
import Turnstile.Proofs.Config
import Turnstile.Proofs.Service.Login
import Turnstile.Proofs.TokenRequest
import Turnstile.Proofs.Users.History

/-! The administrator of the configuration. The configuration takes any two texts that are not
blank, the store files any email in its own form, and the login has rules for both: so whoever is
created can log in as long as the texts keep those rules. -/

namespace Turnstile

open Login

namespace TokenRequest

open Json

/-- A request that is printed reads as it was. -/
theorem ofJson?_json (r : TokenRequest) : ofJson? r.json.bytes = some r := by
  have hwhole : r.json.IsWhole := ⟨trivial, trivial, trivial⟩
  have hmembers := Value.members?_node [("email", .text r.email), ("password", .text r.password)]
  have hemail : field? [("email", (Value.text r.email).node),
      ("password", (Value.text r.password).node)] "email" (some "") Node.text? = some r.email :=
    (field?_of_sole (sole_iff.2 (by simp))).trans (Value.text?_node _)
  have hpassword : field? [("email", (Value.text r.email).node),
      ("password", (Value.text r.password).node)] "password" (some "") Node.text? =
        some r.password :=
    (field?_of_sole (sole_iff.2 (by simp))).trans (Value.text?_node _)
  rw [ofJson?, Value.ofBytes?_bytes hwhole, Option.bind_some]
  simp only [json, Value.node, ofNode?] at hmembers ⊢
  simp only [hmembers, List.map_cons, List.map_nil, Option.bind_eq_bind, Option.bind_some]
  rw [hemail, hpassword]
  rfl

/-- A login keeps the rules as long as its email is an address and its password not too long. -/
theorem check_eq_nil_iff_of_ne {r : TokenRequest} (h : r.password ≠ "") :
    r.check = [] ↔ Email.fault? r.email = none ∧ r.password.utf8ByteSize ≤ 1024 := by
  have hpassword : 1 ≤ r.password.utf8ByteSize :=
    Nat.pos_of_ne_zero fun h0 => h (String.utf8ByteSize_eq_zero_iff.1 h0)
  rw [check_eq_nil_iff, Email.fault?_eq_none_iff]
  refine ⟨?_, ?_⟩
  · rintro ⟨-, hemail, -, hhigh⟩
    exact ⟨hemail, hhigh⟩
  · rintro ⟨hemail, hhigh⟩
    exact ⟨hemail.length_pos, hemail, hpassword, hhigh⟩

end TokenRequest

namespace Server

/-- The account of the administrator, in the users of a fresh service. -/
structure Seeded (config : Config) (seed : SeedAdmin) (ttl : Span) (users : Users) (a : Account) :
    Prop where
  issuer : users.issuer = config.tokenIssuer
  ttl : users.ttl = ttl
  found : users.account? seed.email = some a
  email : a.user.email = Users.emailKey seed.email
  roles : a.user.roles = ["ADMIN", "USER"]
  enabled : a.user.enabled = true
  opens : Opens users ⟨a.user.email, seed.password⟩ a

theorem matches_prepare (s : Users) (new : NewUser) (id : String) (salt : Bytes) (now : Instant)
    (email : String) : Matches ⟨email, new.password⟩ (s.prepare new id salt now) := rfl

theorem seeded_create (config : Config) (seed : SeedAdmin) (users : Users)
    (hissuer : users.issuer = config.tokenIssuer)
    (hfree : users.accounts[Users.emailKey seed.email]? = none) (id : String) (salt : Bytes)
    (now : Instant) :
    ∃ user users' a, users.create (seedUser seed) id salt now = .ok (user, users') ∧
      Seeded config seed users.ttl users' a := by
  have hcreate := @Users.create_of_free users (seedUser seed) hfree id salt now
  have hfound := Users.accounts_insert users.accounts (Users.emailKey seed.email)
    (Users.emailKey seed.email) (users.prepare (seedUser seed) id salt now)
  rw [if_pos rfl] at hfound
  refine ⟨_, _, users.prepare (seedUser seed) id salt now, hcreate, ?_⟩
  constructor
  case issuer => exact hissuer
  case ttl => rfl
  case found => exact hfound
  case email => rfl
  case roles => rfl
  case enabled => rfl
  case opens =>
    refine ⟨?_, matches_prepare users (seedUser seed) id salt now _⟩
    have hkey : Users.emailKey (users.prepare (seedUser seed) id salt now).user.email =
        Users.emailKey seed.email := Users.emailKey_emailKey seed.email
    rw [hkey]
    exact hfound

theorem exists_seeded {config : Config} {seed : SeedAdmin} (hseed : config.seedAdmin = some seed)
    (ttl : Span) (clock : Instant) (e : Entropy) :
    ∃ users a, initialUsers config ttl clock e = .ok users ∧ Seeded config seed ttl users a := by
  obtain ⟨user, users, a, hcreate, hseeded⟩ := seeded_create config seed
    (Users.new config.tokenIssuer ttl Users.defaultIterations) rfl (Users.accounts_new _ _ _ _)
    (Uuid.ofRandom ((e.take 16).2.take 16).1) (e.take 16).1 clock
  refine ⟨users, a, ?_, hseeded⟩
  simp only [initialUsers, hseed, hcreate, Except.map]

end Server

namespace Service

open Server

/-- The administrator asks for a token, at a service that can sign one. -/
structure IsSeedLogin (s : Service) (req : Request) (users : Users) (t : TokenRequest)
    (key : Rsa.PrivateKey) : Prop where
  login : s.IsLogin req
  users : s.users = users
  live : s.cancelled = false
  short : req.body.length ≤ 65536
  reads : TokenRequest.ofJson? req.body = some t
  found : s.keys.privateKey? s.auth.activeKid = some key
  signs : ∀ claims, ∃ token, Token.sign key s.auth.activeKid claims = .ok token

/-- What an administrator's token says. -/
def seedClaims (config : Config) (user : User) (clock : Instant) (expires : ℤ) : Claims :=
  ⟨config.tokenIssuer, user.id, clock.seconds, expires, ["ADMIN", "USER"]⟩

variable {config : Config} {seed : SeedAdmin} {ttl : Span} {s : Service} {req : Request}
  {users : Users} {a : Account} {key : Rsa.PrivateKey} {clock : Instant}

theorem exists_token_of_seeded (hs : Seeded config seed ttl users a)
    (h : s.IsSeedLogin req users ⟨a.user.email, seed.password⟩ key)
    (hvalid : (TokenRequest.mk a.user.email seed.password).check = []) {expires : ℤ}
    (hexpires : clock.addSeconds? ttl = some expires) (fresh : String) :
    ∃ answer text, (s.serve req clock fresh).2.outcome = .ok answer ∧ answer.status = 200 ∧
      answer.body = (Json.Value.object [("token", .text text)]).bytes ∧
      Token.sign key s.auth.activeKid (seedClaims config a.user clock expires) =
        .ok (Bytes.ofString text) := by
  obtain ⟨token, hsign⟩ := h.signs (seedClaims config a.user clock expires)
  obtain ⟨text, rfl⟩ := Token.exists_text_of_sign hsign
  have hends : clock.addSeconds? s.users.ttl = some expires := by rw [h.users, hs.ttl, hexpires]
  have hopens : Opens s.users ⟨a.user.email, seed.password⟩ a := by
    rw [h.users]
    exact hs.opens
  have hgrants : s.Grants req clock a key :=
    ⟨⟨_, ⟨h.short, h.reads, hvalid⟩, hopens⟩, hs.enabled, by rw [hends]; rfl, h.live, h.found⟩
  have hclaims : Token.sign key s.auth.activeKid
      ⟨s.users.issuer, a.user.id, clock.seconds, expires, a.user.roles⟩ =
        .ok (Bytes.ofString text) := by
    rw [h.users, hs.issuer, hs.roles]
    exact hsign
  obtain ⟨answer, ho, hstatus, hbody, -⟩ := serve_of_grants fresh h.login hends hgrants hclaims
  exact ⟨answer, text, ho, hstatus, hbody, hsign⟩

theorem refused_of_faults {t : TokenRequest} (h : s.IsSeedLogin req users t key)
    (hfaults : t.check ≠ []) (clock : Instant) (fresh : String) :
    ∃ answer, (s.serve req clock fresh).2.outcome = .ok answer ∧ answer.status = 400 ∧
      answer.body =
        (ErrorResponse.mk 400 "data validation error" (some t.check)).json.bytes := by
  have hrefuses : s.Refuses req clock _ _ := .invalid h.short h.reads hfaults
  rw [serve_of_refuses h.login hrefuses]
  exact refusal_sends h.login.method _ fresh _ _

/-- The administrator of any environment is created, and can log in at any service over those users
exactly if the email, as it was filed, is an address and the password is not too long for a request.
The token then carries both roles, and is good until it expires; otherwise the answer names the
faults. -/
theorem login_of_seed (lookup : String → Option String) (config : Config) (seed : SeedAdmin)
    (ttl : Span) (started : Instant) (e : Entropy) (hconfig : Config.ofLookup lookup = .ok config)
    (hseed : config.seedAdmin = some seed) :
    ∃ users user, initialUsers config ttl started e = .ok users ∧
      users.query seed.email = .ok user ∧ user.email = Users.emailKey seed.email ∧
      TokenRequest.ofJson? (TokenRequest.json ⟨user.email, seed.password⟩).bytes =
        some ⟨user.email, seed.password⟩ ∧
      ∀ (s : Service) (req : Request) (key : Rsa.PrivateKey) (clock : Instant) (expires : ℤ)
        (fresh : String), s.IsSeedLogin req users ⟨user.email, seed.password⟩ key →
        clock.addSeconds? ttl = some expires →
        ∃ answer, (s.serve req clock fresh).2.outcome = .ok answer ∧
          (answer.status = 200 ↔
            Email.fault? user.email = none ∧ seed.password.utf8ByteSize ≤ 1024) ∧
          (answer.status = 200 → ∃ text,
            answer.body = (Json.Value.object [("token", .text text)]).bytes ∧
            Token.sign key s.auth.activeKid (seedClaims config user clock expires) =
              .ok (Bytes.ofString text) ∧
            (key.public.size ≤ Rsa.maxVerifySize → Instant.inRange clock.seconds = true →
              0 ≤ expires → ∀ now < expires,
              s.auth.validate s.keys (Bytes.ofString text) now =
                .ok (seedClaims config user clock expires))) ∧
          (answer.status ≠ 200 → answer.status = 400 ∧
            answer.body = (ErrorResponse.mk 400 "data validation error"
              (some (TokenRequest.mk user.email seed.password).check)).json.bytes) := by
  obtain ⟨-, hpassword⟩ := (Config.ofLookup_eq_ok_iff.1 hconfig).nonblank hseed
  obtain ⟨users, a, hinitial, hs⟩ := exists_seeded hseed ttl started e
  have hne : seed.password ≠ "" := by
    intro hempty
    rw [hempty] at hpassword
    exact hpassword (by decide)
  have hquery : users.query seed.email = .ok a.user := by rw [Users.query, hs.found]
  refine ⟨users, a.user, hinitial, hquery, hs.email, TokenRequest.ofJson?_json _, ?_⟩
  intro s req key clock expires fresh h hexpires
  have hrules := TokenRequest.check_eq_nil_iff_of_ne (r := ⟨a.user.email, seed.password⟩) hne
  by_cases hvalid : (TokenRequest.mk a.user.email seed.password).check = []
  · obtain ⟨answer, text, ho, hstatus, hbody, hsign⟩ :=
      exists_token_of_seeded hs h hvalid hexpires fresh
    refine ⟨answer, ho, iff_of_true hstatus (hrules.1 hvalid), fun _ => ⟨text, hbody, hsign, ?_⟩,
      fun hno => absurd hstatus hno⟩
    intro hsize hclock h0 now hnow
    have hrange := (Option.filter_eq_some_iff.1 hexpires).2
    have hjudged := Token.validate_of_sign hsign h.found hsize (isSigned64_of_inRange hclock)
      (isSigned64_of_inRange hrange) h0 now
    exact hjudged.trans (if_neg (not_le.2 hnow))
  · obtain ⟨answer, ho, hstatus, hbody⟩ := refused_of_faults h hvalid clock fresh
    have hno : answer.status ≠ 200 := by
      rw [hstatus]
      decide
    exact ⟨answer, ho, iff_of_false hno fun hkept => hvalid (hrules.2 hkept),
      fun hyes => absurd hyes hno, fun _ => ⟨hstatus, hbody⟩⟩

/-! Two administrators: one whose email is filed in its own form, and one whose email is none. -/

def seedLookup (email name : String) : Option String :=
  if name = "ACTIVE_KID" then some "k"
  else if name = "SEED_ADMIN_EMAIL" then some email
  else if name = "SEED_ADMIN_PASSWORD" then some "gophers"
  else none

def seedConfig (email : String) : Config :=
  ⟨"0.0.0.0", 3000, "keys/", "k", "authgate", 3600, 20, .pretty, some ⟨email, "gophers"⟩⟩

def seedService (users : Users) : Service := { someService with users := users }

def seedRequest (email : String) : Request :=
  { plainRequest "POST" "/v1/users/token" with
    body := (TokenRequest.json ⟨email, "gophers"⟩).bytes }

theorem isSeedLogin_seedService (users : Users) {email : String}
    (hshort : (seedRequest email).body.length ≤ 65536) :
    (seedService users).IsSeedLogin (seedRequest email) users ⟨email, "gophers"⟩
      Rsa.mersenneKey where
  login := ⟨rfl, rfl, rfl⟩
  users := rfl
  live := rfl
  short := hshort
  reads := TokenRequest.ofJson?_json _
  found := KeyStore.privateKey?_mersenne
  signs claims := by
    obtain ⟨text, hsign⟩ := Token.exists_sign Rsa.isSound_mersenneKey.canSign "k" claims
    exact ⟨_, hsign⟩

theorem login_of_seed_capitals :
    ∃ (users : Users) (user : User),
      initialUsers (seedConfig " Admin@Example.com") ⟨3600, 0⟩ ⟨0, 0⟩ (fun _ => 0) = .ok users ∧
      user.email = "admin@example.com" ∧
      ∃ answer text, ((seedService users).serve (seedRequest "admin@example.com") ⟨0, 0⟩
          "id").2.outcome = .ok answer ∧ answer.status = 200 ∧
        answer.body = (Json.Value.object [("token", .text text)]).bytes ∧
        Token.validate .mersenne (Bytes.ofString text) 3599 =
          .ok ⟨"authgate", user.id, 0, 3600, ["ADMIN", "USER"]⟩ := by
  obtain ⟨users, user, hinitial, -, hemail, -, hlogin⟩ := login_of_seed
    (seedLookup " Admin@Example.com") (seedConfig " Admin@Example.com")
    ⟨" Admin@Example.com", "gophers"⟩ ⟨3600, 0⟩ ⟨0, 0⟩ (fun _ => 0) (by decide +kernel) rfl
  have hkey : user.email = "admin@example.com" := by
    rw [hemail]
    decide +kernel
  rw [hkey] at hlogin
  obtain ⟨answer, ho, hiff, hgranted, -⟩ := hlogin (seedService users)
    (seedRequest "admin@example.com") Rsa.mersenneKey ⟨0, 0⟩ 3600 "id"
    (isSeedLogin_seedService users (by decide +kernel)) (by decide)
  have hstatus : answer.status = 200 := hiff.2 ⟨by decide +kernel, by decide⟩
  obtain ⟨text, hbody, -, hvalid⟩ := hgranted hstatus
  exact ⟨users, user, hinitial, hkey, answer, text, ho, hstatus, hbody,
    hvalid (by decide +kernel) (by decide) (by decide) 3599 (by decide)⟩

/-- What the configuration takes for an email need not be one that a login takes. -/
theorem seed_refused_without_at :
    Config.ofLookup (seedLookup "admin") = .ok (seedConfig "admin") ∧
      Span.ofSeconds? (seedConfig "admin").tokenTtl = some ⟨3600, 0⟩ ∧
      (Instant.mk 0 0).addSeconds? ⟨3600, 0⟩ = some 3600 ∧
      ∃ (users : Users) (user : User),
        initialUsers (seedConfig "admin") ⟨3600, 0⟩ ⟨0, 0⟩ (fun _ => 0) = .ok users ∧
        users.query "admin" = .ok user ∧
        (seedService users).IsSeedLogin (seedRequest user.email) users ⟨user.email, "gophers"⟩
          Rsa.mersenneKey ∧
        ∃ answer, ((seedService users).serve (seedRequest user.email) ⟨0, 0⟩ "id").2.outcome =
          .ok answer ∧ answer.status = 400 := by
  refine ⟨by decide +kernel, by decide, by decide, ?_⟩
  have hseed : (seedConfig "admin").seedAdmin = some ⟨"admin", "gophers"⟩ := rfl
  obtain ⟨users, a, hinitial, hs⟩ := exists_seeded hseed ⟨3600, 0⟩ ⟨0, 0⟩ (fun _ => 0)
  have hkey : a.user.email = "admin" := by
    rw [hs.email]
    decide +kernel
  have hlogin : (seedService users).IsSeedLogin (seedRequest a.user.email) users
      ⟨a.user.email, "gophers"⟩ Rsa.mersenneKey := by
    apply isSeedLogin_seedService
    rw [hkey]
    decide +kernel
  have hfaults : (TokenRequest.mk a.user.email "gophers").check ≠ [] := by
    rw [hkey]
    decide +kernel
  obtain ⟨answer, ho, hstatus, -⟩ := refused_of_faults hlogin hfaults ⟨0, 0⟩ "id"
  exact ⟨users, a.user, hinitial, by rw [Users.query, hs.found], hlogin, answer, ho, hstatus⟩

end Service

end Turnstile
