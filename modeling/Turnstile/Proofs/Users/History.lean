import Turnstile.Proofs.Users.Runs

/-! What the log of a run says about the store that it leaves: which accounts there are, what the
next operation does to them, and which passwords draw claims. -/

namespace Turnstile.Users

open Login

/-- The log tells of the creation of an account under the key. -/
def Creates (log : List Entry) (key : String) (added : NewUser) (id : String) (salt : Bytes)
    (now : Instant) : Prop :=
  emailKey added.email = key ∧ ∃ user, (.create added id salt now, .created (.ok user)) ∈ log

/-- An account starts switched on. -/
def isOn (log : List Entry) (key : String) : Bool := (lastSwitch? key log).getD true

/-- Accounts are filed under their own emails, one under each, and as many as were created. -/
structure Files (s : Users) (log : List Entry) : Prop where
  key : ∀ (key : String) (a : Account), s.accounts[key]? = some a →
    a.user.email = key ∧ emailKey key = key
  sole : ∀ (key key' : String) (a a' : Account), s.accounts[key]? = some a →
    s.accounts[key']? = some a' → emailKey a.user.email = emailKey a'.user.email →
    key = key' ∧ a = a'
  size : s.size = log.countP isCreation
  query : ∀ added id salt now user, (.create added id salt now, .created (.ok user)) ∈ log →
    user.email = emailKey added.email ∧
      s.query user.email = .ok { user with enabled := isOn log (emailKey added.email) }

/-- A second creation changes nothing, a switch its one account, and a look nothing. -/
structure Changes (s : Users) : Prop where
  createTaken : ∀ added id salt now a, s.accounts[emailKey added.email]? = some a →
    s.step (.create added id salt now) =
      (s, .created (.error (.duplicateEmail (emailKey added.email))))
  createFree : ∀ added id salt now, s.accounts[emailKey added.email]? = none →
    ∃ s', s.step (.create added id salt now) =
        (s', .created (.ok (s.prepare added id salt now).user)) ∧
      ∀ key, s'.accounts[key]? =
        if emailKey added.email = key then some (s.prepare added id salt now)
        else s.accounts[key]?
  switchAbsent : ∀ email enabled, s.accounts[emailKey email]? = none →
    s.step (.setEnabled email enabled) = (s, .switched (.error .notFound))
  switchFound : ∀ email enabled a, s.accounts[emailKey email]? = some a →
    ∃ s', s.step (.setEnabled email enabled) = (s', .switched (.ok ())) ∧
      ∀ key, s'.accounts[key]? =
        if emailKey email = key then some { a with user := { a.user with enabled := enabled } }
        else s.accounts[key]?
  look : ∀ email password now, (s.step (.query email)).1 = s ∧
    (s.step (.authenticate email password now)).1 = s

/-- The verdict on a password, from what the log tells of the account under the email. -/
inductive Judged (log : List Entry) (issuer : String) (ttl : Span) (iterations : ℕ)
    (email password : String) (now : Instant) : Except UsersError Claims → Prop
  | unknown (h : ∀ added id salt t, ¬ Creates log (emailKey email) added id salt t) :
    Judged log issuer ttl iterations email password now (.error .notFound)
  | mismatched {added : NewUser} {id : String} {salt : Bytes} {t : Instant}
    (hc : Creates log (emailKey email) added id salt t)
    (h : Pbkdf2.derive (Bytes.ofString password) salt iterations ≠
      Pbkdf2.derive (Bytes.ofString added.password) salt iterations) :
    Judged log issuer ttl iterations email password now (.error .authenticationFailed)
  | disabled {added : NewUser} {id : String} {salt : Bytes} {t : Instant}
    (hc : Creates log (emailKey email) added id salt t)
    (hfit : Pbkdf2.derive (Bytes.ofString password) salt iterations =
      Pbkdf2.derive (Bytes.ofString added.password) salt iterations)
    (h : isOn log (emailKey email) = false) :
    Judged log issuer ttl iterations email password now (.error .forbidden)
  | endless {added : NewUser} {id : String} {salt : Bytes} {t : Instant}
    (hc : Creates log (emailKey email) added id salt t)
    (hfit : Pbkdf2.derive (Bytes.ofString password) salt iterations =
      Pbkdf2.derive (Bytes.ofString added.password) salt iterations)
    (hon : isOn log (emailKey email) = true) (h : now.addSeconds? ttl = none) :
    Judged log issuer ttl iterations email password now (.error .overflow)
  | accepted {added : NewUser} {id : String} {salt : Bytes} {t : Instant} {expires : ℤ}
    (hc : Creates log (emailKey email) added id salt t)
    (hfit : Pbkdf2.derive (Bytes.ofString password) salt iterations =
      Pbkdf2.derive (Bytes.ofString added.password) salt iterations)
    (hon : isOn log (emailKey email) = true) (h : now.addSeconds? ttl = some expires) :
    Judged log issuer ttl iterations email password now
      (.ok ⟨issuer, id, now.seconds, expires, added.roles⟩)

theorem changes (s : Users) : s.Changes where
  createTaken _ id salt now _ h := step_create_of_taken h id salt now
  createFree _ id salt now h :=
    ⟨_, step_create_of_free h id salt now, fun _ => accounts_insert _ _ _ _⟩
  switchAbsent _ enabled h := step_setEnabled_of_absent h enabled
  switchFound _ enabled _ h :=
    ⟨_, step_setEnabled_of_found h enabled, fun _ => accounts_insert _ _ _ _⟩
  look _ _ _ := ⟨rfl, rfl⟩

section Fresh

variable (issuer : String) (ttl : Span) (iterations : ℕ) (ops : List Op)

theorem accounts_new (key : String) : (new issuer ttl iterations).accounts[key]? = none :=
  Std.TreeMap.getElem?_emptyc

/-- An account, as it was created and last switched. -/
theorem accounts_run_new_iff (key : String) (a : Account) :
    ((new issuer ttl iterations).run ops).accounts[key]? = some a ↔
      ∃ added id salt now, Creates ((new issuer ttl iterations).log ops) key added id salt now ∧
        a = ((new issuer ttl iterations).prepare added id salt now).switch
          (lastSwitch? key ((new issuer ttl iterations).log ops)) := by
  have hnone := accounts_new issuer ttl iterations key
  have hfirst := findSome?_founded?_iff _ key hnone ops
  rw [accounts_run, hnone, Option.none_or, Option.map_eq_some_iff]
  refine ⟨?_, ?_⟩
  · rintro ⟨b, hb, rfl⟩
    obtain ⟨e, he, hfounded⟩ := (hfirst b).1 hb
    obtain ⟨added, id, salt, now, user, rfl, hkey, rfl⟩ := founded?_eq_some_iff.1 hfounded
    exact ⟨added, id, salt, now, ⟨hkey, user, he⟩, rfl⟩
  · rintro ⟨added, id, salt, now, ⟨hkey, user, he⟩, rfl⟩
    refine ⟨_, (hfirst _).2 ⟨_, he, ?_⟩, rfl⟩
    exact founded?_eq_some_iff.2 ⟨added, id, salt, now, user, rfl, hkey, rfl⟩

theorem accounts_run_new_of_creates {log : List Entry} {key : String} {added : NewUser}
    {id : String} {salt : Bytes} {now : Instant}
    (hlog : log = (new issuer ttl iterations).log ops) (h : Creates log key added id salt now) :
    ((new issuer ttl iterations).run ops).accounts[key]? =
      some ⟨⟨id, added.name, key, added.roles, isOn log key, now⟩,
        Credential.ofPassword added.password salt iterations⟩ := by
  subst hlog
  rw [(accounts_run_new_iff issuer ttl iterations ops key _).2 ⟨_, _, _, _, h, rfl⟩]
  obtain ⟨rfl, -⟩ := h
  rfl

theorem files_run_new :
    ((new issuer ttl iterations).run ops).Files ((new issuer ttl iterations).log ops) := by
  have hkey : ∀ key a, ((new issuer ttl iterations).run ops).accounts[key]? = some a →
      a.user.email = key ∧ emailKey key = key := by
    intro key a h
    obtain ⟨added, id, salt, now, ⟨rfl, -⟩, rfl⟩ :=
      (accounts_run_new_iff issuer ttl iterations ops key a).1 h
    exact ⟨rfl, emailKey_emailKey _⟩
  refine ⟨hkey, ?_, ?_, ?_⟩
  · intro key key' a a' h h' heq
    obtain ⟨rfl, hcanonical⟩ := hkey key a h
    obtain ⟨rfl, hcanonical'⟩ := hkey key' a' h'
    rw [hcanonical, hcanonical'] at heq
    rw [heq, h'] at h
    exact ⟨heq, (Option.some.inj h).symm⟩
  · have hsize : (new issuer ttl iterations).size = 0 := rfl
    rw [size_run, hsize, Nat.zero_add]
  · intro added id salt now user h
    obtain rfl := user_of_mem_log h
    have hfound := accounts_run_new_of_creates issuer ttl iterations ops rfl ⟨rfl, _, h⟩
    have hemail : ((new issuer ttl iterations).prepare added id salt now).user.email =
        emailKey added.email := rfl
    refine ⟨hemail, ?_⟩
    rw [hemail, query, account?, emailKey_emailKey, hfound]
    rfl

section Authenticate

variable {issuer ttl iterations ops} {email password : String} {now : Instant}
  {r : Except UsersError Claims}

theorem authenticate_of_judged
    (h : Judged ((new issuer ttl iterations).log ops) issuer ttl iterations email password now r) :
    ((new issuer ttl iterations).run ops).authenticate email password now = r := by
  have hframe := run_frame (new issuer ttl iterations) ops
  have hissuer : ((new issuer ttl iterations).run ops).issuer = issuer := by rw [hframe]; rfl
  have httl : ((new issuer ttl iterations).run ops).ttl = ttl := by rw [hframe]; rfl
  cases h with
  | unknown h =>
    refine authenticate_of_unknown (t := ⟨email, password⟩) ?_ now
    rw [Option.eq_none_iff_forall_ne_some]
    intro a ha
    obtain ⟨added, id, salt, t, hc, -⟩ := (accounts_run_new_iff _ _ _ _ _ a).1 ha
    exact h added id salt t hc
  | mismatched hc h =>
    have hfound := accounts_run_new_of_creates issuer ttl iterations ops rfl hc
    exact authenticate_of_mismatched (t := ⟨email, password⟩) hfound h now
  | disabled hc hfit h =>
    have hfound := accounts_run_new_of_creates issuer ttl iterations ops rfl hc
    exact authenticate_of_disabled (t := ⟨email, password⟩) ⟨hfound, hfit⟩ h now
  | endless hc hfit hon h =>
    have hfound := accounts_run_new_of_creates issuer ttl iterations ops rfl hc
    exact authenticate_of_endless (t := ⟨email, password⟩) ⟨hfound, hfit⟩ hon (by rw [httl, h])
  | accepted hc hfit hon h =>
    have hfound := accounts_run_new_of_creates issuer ttl iterations ops rfl hc
    rw [← httl] at h
    have := authenticate_of_opens (t := ⟨email, password⟩) ⟨hfound, hfit⟩ hon h
    rwa [hissuer] at this

theorem exists_judged (issuer : String) (ttl : Span) (iterations : ℕ) (log : List Entry)
    (email password : String) (now : Instant) :
    ∃ r, Judged log issuer ttl iterations email password now r := by
  by_cases hc : ∃ added id salt t, Creates log (emailKey email) added id salt t
  case neg => exact ⟨_, .unknown fun added id salt t h => hc ⟨added, id, salt, t, h⟩⟩
  obtain ⟨added, id, salt, t, hc⟩ := hc
  by_cases hfit : Pbkdf2.derive (Bytes.ofString password) salt iterations =
      Pbkdf2.derive (Bytes.ofString added.password) salt iterations
  case neg => exact ⟨_, .mismatched hc hfit⟩
  cases hon : isOn log (emailKey email) with
  | false => exact ⟨_, .disabled hc hfit hon⟩
  | true =>
    cases hends : now.addSeconds? ttl with
    | none => exact ⟨_, .endless hc hfit hon hends⟩
    | some expires => exact ⟨_, .accepted hc hfit hon hends⟩

theorem authenticate_eq_iff :
    ((new issuer ttl iterations).run ops).authenticate email password now = r ↔
      Judged ((new issuer ttl iterations).log ops) issuer ttl iterations email password now r := by
  refine ⟨?_, authenticate_of_judged⟩
  rintro rfl
  obtain ⟨r, hr⟩ := exists_judged issuer ttl iterations ((new issuer ttl iterations).log ops) email
    password now
  rwa [authenticate_of_judged hr]

end Authenticate

end Fresh

/-- After any operations on a fresh store: accounts are those that were created, each under its own
email; a creation under an email that has one, a switch of none, and a look change nothing; and
claims go to the password of an account that is on, for its own id and roles, if they end within the
calendar. -/
theorem accounts_and_verdicts_of_run (issuer : String) (ttl : Span) (iterations : ℕ)
    (ops : List Op) :
    ((new issuer ttl iterations).run ops).Files ((new issuer ttl iterations).log ops) ∧
      ((new issuer ttl iterations).run ops).Changes ∧
      ∀ email password now r,
        ((new issuer ttl iterations).run ops).authenticate email password now = r ↔
          Judged ((new issuer ttl iterations).log ops) issuer ttl iterations email password now r :=
  ⟨files_run_new issuer ttl iterations ops, changes _, fun _ _ _ _ => authenticate_eq_iff⟩

/-! One account, in a store whose claims end soon and in one whose claims leave the calendar. -/

def someNew : NewUser := ⟨"Some", " Some@Example.com", ["USER"], "secret"⟩

def someCreation : Op := .create someNew "1" [1, 2, 3] ⟨0, 0⟩

theorem emailKey_someNew : emailKey someNew.email = "some@example.com" := by decide +kernel

theorem creates_someNew (ttl : Span) : Creates ((new "gate" ttl 1).log [someCreation])
    (emailKey "SOME@example.com") someNew "1" [1, 2, 3] ⟨0, 0⟩ := by
  have hemail : emailKey "SOME@example.com" = "some@example.com" := by decide +kernel
  rw [hemail]
  refine ⟨emailKey_someNew, ((new "gate" ttl 1).prepare someNew "1" [1, 2, 3] ⟨0, 0⟩).user, ?_⟩
  have hfree : (new "gate" ttl 1).accounts[emailKey someNew.email]? = none :=
    accounts_new "gate" ttl 1 _
  have hstep := step_create_of_free hfree "1" [1, 2, 3] ⟨0, 0⟩
  rw [log, someCreation, hstep]
  exact List.mem_cons_self

theorem accounts_and_verdicts_of_run_someNew :
    ((new "gate" ⟨60, 0⟩ 1).run [someCreation]).size = 1 ∧
      ((new "gate" ⟨60, 0⟩ 1).run [someCreation]).authenticate "SOME@example.com" "secret"
        ⟨1700000000, 0⟩ = .ok ⟨"gate", "1", 1700000000, 1700000060, ["USER"]⟩ ∧
      ((new "gate" ⟨9223372036854775, 0⟩ 1).run [someCreation]).authenticate "SOME@example.com"
        "secret" ⟨1700000000, 0⟩ = .error .overflow := by
  obtain ⟨hfiles, -, hverdict⟩ := accounts_and_verdicts_of_run "gate" ⟨60, 0⟩ 1 [someCreation]
  obtain ⟨-, -, hendless⟩ :=
    accounts_and_verdicts_of_run "gate" ⟨9223372036854775, 0⟩ 1 [someCreation]
  have hone : ((new "gate" ⟨60, 0⟩ 1).log [someCreation]).countP isCreation = 1 := by
    have hfree : (new "gate" ⟨60, 0⟩ 1).accounts[emailKey someNew.email]? = none :=
      accounts_new "gate" ⟨60, 0⟩ 1 _
    have hstep := step_create_of_free hfree "1" [1, 2, 3] ⟨0, 0⟩
    rw [log, someCreation, hstep]
    rfl
  refine ⟨hfiles.size.trans hone, (hverdict _ _ _ _).2 ?_, (hendless _ _ _ _).2 ?_⟩
  · exact .accepted (creates_someNew _) rfl rfl (by decide)
  · exact .endless (creates_someNew _) rfl rfl (by decide)

end Turnstile.Users
