import Turnstile.Proofs.Service.Login

/-! Two logins side by side. A password that does not fit draws the same answer whether there is no
account, another password, or an account that is disabled. -/

namespace Turnstile

namespace Login

variable {users : Users} {keys : KeyStore} {kid : String} {cancelled : Bool} {now : Instant}
  {body : Bytes} {t : TokenRequest}

/-- The password is not that of the account under the key, if there is one. -/
def Misses (users : Users) (k : String) (t : TokenRequest) : Prop :=
  ∀ a, users.accounts[k]? = some a → ¬ Matches t a

/-- The failure of a password that does not fit; only the log tells the two apart. -/
def missFailure (users : Users) (k : String) : Failure :=
  Handler.usersFailure
    (if (users.accounts[k]?).isSome then .authenticationFailed else .notFound)

theorem refused_of_misses (ht : Asks body t) (h : Misses users (Users.emailKey t.email) t) :
    Refused users keys kid cancelled now body (missFailure users (Users.emailKey t.email))
      ⟨401, "authentication failed", none⟩ := by
  cases hfound : users.accounts[Users.emailKey t.email]? with
  | none =>
    have hfailure : missFailure users (Users.emailKey t.email) = Handler.usersFailure .notFound := by
      simp [missFailure, hfound]
    rw [hfailure]
    exact .unknown ht hfound
  | some a =>
    have hfailure : missFailure users (Users.emailKey t.email) =
        Handler.usersFailure .authenticationFailed := by
      simp [missFailure, hfound]
    rw [hfailure]
    exact .mismatched ht hfound (h a hfound)

/-- A body that asks for nothing is refused without a look at the store. -/
theorem refused_alike_of_not_asks (users users' : Users) (keys : KeyStore) (kid : String)
    (cancelled : Bool) (now : Instant) (h : ∀ t, ¬ Asks body t) : ∃ f r,
    Refused users keys kid cancelled now body f r ∧
      Refused users' keys kid cancelled now body f r := by
  by_cases hshort : body.length ≤ 65536
  case neg => exact ⟨_, _, .long (not_le.1 hshort), .long (not_le.1 hshort)⟩
  rcases hreads : TokenRequest.ofJson? body with _ | t
  · exact ⟨_, _, .unreadable hshort hreads, .unreadable hshort hreads⟩
  · have hvalid : t.check ≠ [] := fun hvalid => h t ⟨hshort, hreads, hvalid⟩
    exact ⟨_, _, .invalid hshort hreads hvalid, .invalid hshort hreads hvalid⟩

end Login

open Login

namespace Service

variable {s : Service} {req req' : Request} {clock : Instant} {fresh : String}

/-- A refusal shows of its request where it came from, and its id. -/
theorem refusal_eq_of_alike (hmethod : req'.method = req.method) (hpath : req'.path = req.path)
    (hremote : req'.remote = req.remote)
    (hid : req'.header? RequestId.headerName = req.header? RequestId.headerName) (t : Telemetry)
    (fresh : String) (f : Failure) (r : ErrorResponse) :
    refusal t req' fresh f r = refusal t req fresh f r := by
  have hadopt : RequestId.adopt req' fresh = RequestId.adopt req fresh := by
    rw [RequestId.adopt, RequestId.adopt, hid]
  have htext : req'.remoteText = req.remoteText := by
    rw [Request.remoteText, Request.remoteText, hremote]
  rw [refusal, refusal, hadopt, hmethod, hpath, htext]

theorem IsLogin.withUsers (h : s.IsLogin req) (users' : Users) :
    IsLogin { s with users := users' } req :=
  ⟨h.app, h.method, h.path⟩

theorem serve_of_misses (h : s.IsLogin req) {t : TokenRequest} (ht : Asks req.body t)
    (hm : Misses s.users (Users.emailKey t.email) t) : (s.serve req clock fresh).2 =
      refusal (s.telemetry clock) req fresh (missFailure s.users (Users.emailKey t.email))
        ⟨401, "authentication failed", none⟩ :=
  serve_of_refuses h (refused_of_misses ht hm)

theorem outcome_eq_of_misses (h : s.IsLogin req) {users' : Users}
    (hmiss : ∀ t, Asks req.body t → Misses s.users (Users.emailKey t.email) t ∧
      Misses users' (Users.emailKey t.email) t) :
    (s.serve req clock fresh).2.outcome =
      ({ s with users := users' }.serve req clock fresh).2.outcome := by
  by_cases hasks : ∃ t, Asks req.body t
  · obtain ⟨t, ht⟩ := hasks
    obtain ⟨hm, hm'⟩ := hmiss t ht
    rw [serve_of_misses h ht hm, serve_of_misses (h.withUsers users') ht hm']
    rfl
  · obtain ⟨f, r, hr, hr'⟩ := refused_alike_of_not_asks s.users users' s.keys s.auth.activeKid
      s.cancelled clock (not_exists.1 hasks)
    rw [serve_of_refuses h hr, serve_of_refuses (h.withUsers users') hr']

theorem outcome_ne_of_disabled (h : s.IsLogin req) {users' : Users} {t : TokenRequest} {a : Account}
    (ht : Asks req.body t) (ha : Opens s.users t a) (hdisabled : a.user.enabled = false)
    (hnone : users'.accounts[Users.emailKey t.email]? = none) :
    (s.serve req clock fresh).2.outcome ≠
      ({ s with users := users' }.serve req clock fresh).2.outcome := by
  rw [serve_of_refuses h (.disabled ht ha hdisabled),
    serve_of_refuses (h.withUsers users') (.unknown ht hnone)]
  intro heq
  obtain ⟨answer, ho, hstatus, -⟩ := refusal_sends h.method (s.telemetry clock) fresh
    (Handler.usersFailure .forbidden)
    ⟨403, "you are not authorized for that action", none⟩
  obtain ⟨answer', ho', hstatus', -⟩ := refusal_sends h.method (s.telemetry clock) fresh
    (Handler.usersFailure .notFound) ⟨401, "authentication failed", none⟩
  rw [ho, ho'] at heq
  rw [Except.ok.inj heq, hstatus'] at hstatus
  simp at hstatus

/-- The same request to two services that differ in their users, and two requests to one. A password
that does not fit draws the same response from any two stores, and two such passwords draw the same
response and leave the same log. A disabled account looks different from none exactly to a request
with its password. -/
theorem login_hides_accounts (s : Service) (users' : Users) (req : Request) (clock : Instant)
    (fresh k : String) (h : s.IsLogin req)
    (hk : ∀ t, TokenRequest.ofJson? req.body = some t → Users.emailKey t.email = k) :
    ((∀ t, TokenRequest.ofJson? req.body = some t → Misses s.users k t ∧ Misses users' k t) →
      (s.serve req clock fresh).2.outcome =
        ({ s with users := users' }.serve req clock fresh).2.outcome) ∧
    (∀ (req' : Request) (t t' : TokenRequest), s.IsLogin req' → req'.remote = req.remote →
      req'.header? RequestId.headerName = req.header? RequestId.headerName →
      Asks req.body t → Asks req'.body t' → t'.email = t.email →
      Misses s.users k t → Misses s.users k t' →
      (s.serve req' clock fresh).2 = (s.serve req clock fresh).2) ∧
    (∀ a, s.users.accounts[k]? = some a → a.user.enabled = false → users'.accounts[k]? = none →
      ((s.serve req clock fresh).2.outcome ≠
          ({ s with users := users' }.serve req clock fresh).2.outcome ↔
        ∃ t, Asks req.body t ∧ Matches t a)) := by
  refine ⟨?_, ?_, ?_⟩
  · intro hmiss
    refine outcome_eq_of_misses h fun t ht => ?_
    rw [hk t ht.reads]
    exact hmiss t ht.reads
  · intro req' t t' h' hremote hid ht ht' hemail hm hm'
    obtain rfl := hk t ht.reads
    rw [serve_of_misses h ht hm, serve_of_misses h' ht' (by rw [hemail]; exact hm'), hemail]
    exact refusal_eq_of_alike (h'.method.trans h.method.symm) (h'.path.trans h.path.symm) hremote
      hid _ fresh _ _
  · intro a hfound hdisabled hnone
    refine ⟨?_, ?_⟩
    · intro hne
      by_contra hmatch
      refine hne (outcome_eq_of_misses h fun t ht => ?_)
      rw [hk t ht.reads]
      refine ⟨?_, by simp [Misses, hnone]⟩
      intro a' ha'
      obtain rfl := Option.some.inj (hfound.symm.trans ha')
      exact fun hm => hmatch ⟨t, ht, hm⟩
    · rintro ⟨t, ht, hm⟩
      obtain rfl := hk t ht.reads
      exact outcome_ne_of_disabled h ht ⟨hfound, hm⟩ hdisabled hnone

/-! One account, disabled, against none. -/

def closedAccount : Account :=
  { someAccount with user := { someAccount.user with enabled := false } }

def closedUsers : Users := { Users.new "gate" ⟨60, 0⟩ 1 with
  accounts := Std.TreeMap.insert ∅ "some@example.com" closedAccount }

theorem accounts_closedUsers : closedUsers.accounts["some@example.com"]? = some closedAccount := by
  simp [closedUsers]

def closedService : Service := { someService with users := closedUsers }

theorem asks_wrong : Asks (someLogin "wrong").body ⟨"some@example.com", "wrong"⟩ where
  short := by decide +kernel
  reads := by decide +kernel
  valid := by decide +kernel

theorem asks_other : Asks (someLogin "other").body ⟨"some@example.com", "other"⟩ where
  short := by decide +kernel
  reads := by decide +kernel
  valid := by decide +kernel

theorem emailKey_of_asks {body : Bytes} {password : String}
    (h : Asks body ⟨"some@example.com", password⟩) : ∀ t, TokenRequest.ofJson? body = some t →
      Users.emailKey t.email = "some@example.com" := by
  intro t ht
  obtain rfl := Option.some.inj (h.reads.symm.trans ht)
  exact emailKey_some

theorem misses_wrong : Misses closedUsers "some@example.com" ⟨"some@example.com", "wrong"⟩ := by
  intro a ha
  obtain rfl := Option.some.inj (accounts_closedUsers.symm.trans ha)
  unfold Matches
  decide +kernel

def noUsers : Users := .new "gate" ⟨60, 0⟩ 1

theorem accounts_noUsers : noUsers.accounts["some@example.com"]? = none :=
  Std.TreeMap.getElem?_emptyc

theorem misses_noUsers (t : TokenRequest) : Misses noUsers "some@example.com" t := by
  simp [Misses, accounts_noUsers]

theorem login_hides_accounts_closed :
    closedService.IsLogin (someLogin "wrong") ∧
      (closedService.serve (someLogin "wrong") ⟨0, 0⟩ "id").2.outcome =
        ({ closedService with users := noUsers }.serve (someLogin "wrong") ⟨0, 0⟩ "id").2.outcome ∧
      ({ closedService with users := noUsers }.serve (someLogin "other") ⟨0, 0⟩ "id").2 =
        ({ closedService with users := noUsers }.serve (someLogin "wrong") ⟨0, 0⟩ "id").2 ∧
      (closedService.serve (someLogin "secret") ⟨0, 0⟩ "id").2.outcome ≠
        ({ closedService with users := noUsers }.serve (someLogin "secret") ⟨0, 0⟩ "id").2.outcome := by
  have hlogin : ∀ password, closedService.IsLogin (someLogin password) := fun _ => ⟨rfl, rfl, rfl⟩
  obtain ⟨halike, -, -⟩ := login_hides_accounts closedService noUsers (someLogin "wrong") ⟨0, 0⟩
    "id" _ (hlogin _) (emailKey_of_asks asks_wrong)
  obtain ⟨-, hpasswords, -⟩ := login_hides_accounts { closedService with users := noUsers }
    closedUsers (someLogin "wrong") ⟨0, 0⟩ "id" _ ((hlogin _).withUsers _)
    (emailKey_of_asks asks_wrong)
  obtain ⟨-, -, hdisabled⟩ := login_hides_accounts closedService noUsers (someLogin "secret") ⟨0, 0⟩
    "id" _ (hlogin _) (emailKey_of_asks asks_someLogin)
  refine ⟨hlogin _, halike ?_, ?_, ?_⟩
  · intro t ht
    obtain rfl := Option.some.inj (asks_wrong.reads.symm.trans ht)
    exact ⟨misses_wrong, misses_noUsers _⟩
  · exact hpasswords _ _ _ ((hlogin _).withUsers _) rfl rfl asks_wrong asks_other rfl
      (misses_noUsers _) (misses_noUsers _)
  · exact (hdisabled _ accounts_closedUsers rfl accounts_noUsers).2 ⟨_, asks_someLogin, rfl⟩

end Service

end Turnstile
