import Turnstile.Program.Server
import Turnstile.Proofs.Config
import Turnstile.Proofs.KeyStore.NewKey
import Turnstile.Proofs.Service.Login
import Turnstile.Proofs.Time

/-! How long tokens live that the service and the operator's program are told to issue. The service
takes every lifetime that makes a span, the operator's program every number; an end outside the
calendar is met only when a token is due. -/

namespace Turnstile

namespace Config

/-- The lifetime of the configuration is the one that the environment sets. -/
theorem tokenTtl_of_ofLookup {lookup : String → Option String} {config : Config}
    (h : ofLookup lookup = .ok config) :
    parsed lookup "TOKEN_TTL_SECS" 3600 (Text.natUpTo? Word.max64) = .ok config.tokenTtl :=
  (ofLookup_eq_ok_iff.1 h).tokenTtl

end Config

namespace Users

open Login

/-- A login with the right password, on a span of whole seconds. -/
theorem authenticate_of_whole {users : Users} {email password : String} {a : Account} {ttl : ℕ}
    {now : Instant} (httl : users.ttl = ⟨ttl, 0⟩) (ha : Opens users ⟨email, password⟩ a)
    (hon : a.user.enabled = true) (hfirst : 0 ≤ now.seconds) (h0 : 0 ≤ now.nanos)
    (h2 : now.nanos < 2 * nanosPerSecond) :
    users.authenticate email password now =
      if now.seconds + ttl ≤ Instant.maxSeconds then
        .ok ⟨users.issuer, a.user.id, now.seconds, now.seconds + ttl, a.user.roles⟩
      else .error .overflow := by
  have hsum := Instant.addSeconds?_whole (s := ttl) h0 (Or.inr ⟨h2, Int.natCast_nonneg ttl⟩)
  have hmin : Instant.minSeconds ≤ now.seconds + ttl := by
    have : Instant.minSeconds ≤ 0 := by decide
    omega
  rw [← httl] at hsum
  split_ifs with hmax
  · have hrange := (Instant.inRange_iff _).2 ⟨hmin, hmax⟩
    rw [if_pos hrange] at hsum
    exact authenticate_of_opens (t := ⟨email, password⟩) ha hon hsum
  · have hrange : ¬ Instant.inRange (now.seconds + ttl) = true := by
      rw [Instant.inRange_iff]
      exact fun h => hmax h.2
    rw [if_neg hrange] at hsum
    exact authenticate_of_endless (t := ⟨email, password⟩) ha hon hsum

end Users

namespace Admin

/-- The directory loads, with the key under the name. -/
def Signs (files : FileTree) (dir kid : String) (key : Rsa.PrivateKey) : Prop :=
  ∃ keys, (KeyDirectory.load files (Bytes.ofString dir)).1 = .ok keys ∧
    keys.privateKey? kid = some key

section Issue

variable (w : World) (dir kid issuer : String) (ttl : ℤ) (subject : String) (roles : List Role)

/-- The claims that are asked for. -/
def asked : Claims :=
  ⟨issuer, subject, w.clock.seconds, w.clock.seconds + ttl, roles.map Role.name⟩

/-- What becomes of a token that is asked for, a lifetime out of range and a signer that gives up
included. -/
inductive Issued : Outcome → Prop
  | unloaded {e : KeyDirectory.LoadError}
    (h : (KeyDirectory.load w.files (Bytes.ofString dir)).1 = .error e) :
    Issued (.failed s!"loading keys from {dir}")
  | keyless {keys : KeyStore}
    (hload : (KeyDirectory.load w.files (Bytes.ofString dir)).1 = .ok keys)
    (h : keys.privateKey? kid = none) : Issued (.failed "building authenticator")
  | spanless {key : Rsa.PrivateKey} (hkey : Signs w.files dir kid key)
    (h : Span.maxSeconds < |ttl|) : Issued (.panicked spanOverflow)
  | endless {key : Rsa.PrivateKey} (hkey : Signs w.files dir kid key)
    (hspan : |ttl| ≤ Span.maxSeconds)
    (h : w.clock.seconds + ttl < Instant.minSeconds ∨
      Instant.maxSeconds < w.clock.seconds + ttl) : Issued (.panicked Claims.overflowMessage)
  | unsigned {key : Rsa.PrivateKey} {f : Rsa.SigningFault} (hkey : Signs w.files dir kid key)
    (hspan : |ttl| ≤ Span.maxSeconds) (hmin : Instant.minSeconds ≤ w.clock.seconds + ttl)
    (hmax : w.clock.seconds + ttl ≤ Instant.maxSeconds)
    (h : Token.sign key kid (asked w issuer ttl subject roles) = .error f) :
    Issued (.panicked f.message)
  | printed {key : Rsa.PrivateKey} {text : String} (hkey : Signs w.files dir kid key)
    (hspan : |ttl| ≤ Span.maxSeconds) (hmin : Instant.minSeconds ≤ w.clock.seconds + ttl)
    (hmax : w.clock.seconds + ttl ≤ Instant.maxSeconds)
    (h : Token.sign key kid (asked w issuer ttl subject roles) = .ok (Bytes.ofString text)) :
    Issued (.done (text ++ "\n") "" none)

variable {w dir kid issuer ttl subject roles} {r : Outcome}

/-- Past the key, the span, the end and the signer decide, in this order. -/
theorem generateToken_of_signs {key : Rsa.PrivateKey} (hkey : Signs w.files dir kid key) :
    generateToken w dir kid issuer ttl subject roles =
      match Span.ofSeconds? ttl with
      | none => .panicked spanOverflow
      | some ttl =>
        match Claims.issue? subject issuer (roles.map Role.name) w.clock ttl with
        | none => .panicked Claims.overflowMessage
        | some claims =>
          match Token.sign key kid claims with
          | .ok token => .done ((Bytes.toString? token).getD "" ++ "\n") "" none
          | .error f => .panicked f.message := by
  obtain ⟨keys, hload, hkey⟩ := hkey
  have hnew : Authenticator.new keys kid = .ok ⟨kid⟩ := by simp [Authenticator.new, hkey]
  simp only [generateToken, hload, hnew, Authenticator.generate, hkey]
  cases Span.ofSeconds? ttl with
  | none => rfl
  | some span =>
    dsimp only
    cases Claims.issue? subject issuer (roles.map Role.name) w.clock span with
    | none => rfl
    | some claims =>
      dsimp only
      cases Token.sign key kid claims with
      | error f => rfl
      | ok token => rfl

section Clock

variable (h0 : 0 ≤ w.clock.nanos) (h1 : w.clock.nanos < nanosPerSecond)
include h0 h1

theorem issue?_asked (issuer : String) (ttl : ℤ) (subject : String) (roles : List Role) :
    Claims.issue? subject issuer (roles.map Role.name) w.clock ⟨ttl, 0⟩ =
      if Instant.inRange (w.clock.seconds + ttl) = true then
        some (asked w issuer ttl subject roles)
      else none := by
  rw [Claims.issue?, Instant.addSeconds?_whole h0 (Or.inl h1)]
  split_ifs
  · rfl
  · rfl

theorem generateToken_of_issued (h : Issued w dir kid issuer ttl subject roles r) :
    generateToken w dir kid issuer ttl subject roles = r := by
  have hissue := issue?_asked h0 h1 issuer ttl subject roles
  cases h with
  | unloaded h => simp only [generateToken, h]
  | keyless hload h => simp [generateToken, hload, Authenticator.new, h]
  | spanless hkey h => rw [generateToken_of_signs hkey, Span.ofSeconds?_eq_none_iff.2 h]
  | endless hkey hspan h =>
    have hrange : ¬ Instant.inRange (w.clock.seconds + ttl) = true := by
      rw [Instant.inRange_iff]
      omega
    rw [if_neg hrange] at hissue
    simp only [generateToken_of_signs hkey, Span.ofSeconds?_eq_some_iff.2 ⟨hspan, rfl⟩, hissue]
  | unsigned hkey hspan hmin hmax h =>
    rw [if_pos ((Instant.inRange_iff _).2 ⟨hmin, hmax⟩)] at hissue
    simp only [generateToken_of_signs hkey, Span.ofSeconds?_eq_some_iff.2 ⟨hspan, rfl⟩, hissue, h]
  | printed hkey hspan hmin hmax h =>
    rw [if_pos ((Instant.inRange_iff _).2 ⟨hmin, hmax⟩)] at hissue
    simp only [generateToken_of_signs hkey, Span.ofSeconds?_eq_some_iff.2 ⟨hspan, rfl⟩, hissue, h,
      Bytes.toString?_ofString, Option.getD_some]

end Clock

theorem exists_issued (w : World) (dir kid issuer : String) (ttl : ℤ) (subject : String)
    (roles : List Role) : ∃ r, Issued w dir kid issuer ttl subject roles r := by
  cases hload : (KeyDirectory.load w.files (Bytes.ofString dir)).1 with
  | error e => exact ⟨_, .unloaded hload⟩
  | ok keys =>
    cases hfound : keys.privateKey? kid with
    | none => exact ⟨_, .keyless hload hfound⟩
    | some key =>
      have hkey : Signs w.files dir kid key := ⟨keys, hload, hfound⟩
      by_cases hspan : |ttl| ≤ Span.maxSeconds
      case neg => exact ⟨_, .spanless hkey (not_le.1 hspan)⟩
      by_cases hmin : Instant.minSeconds ≤ w.clock.seconds + ttl
      case neg => exact ⟨_, .endless hkey hspan (Or.inl (not_le.1 hmin))⟩
      by_cases hmax : w.clock.seconds + ttl ≤ Instant.maxSeconds
      case neg => exact ⟨_, .endless hkey hspan (Or.inr (not_le.1 hmax))⟩
      cases hsign : Token.sign key kid (asked w issuer ttl subject roles) with
      | error f => exact ⟨_, .unsigned hkey hspan hmin hmax hsign⟩
      | ok token =>
        obtain ⟨text, rfl⟩ := Token.exists_text_of_sign hsign
        exact ⟨_, .printed hkey hspan hmin hmax hsign⟩

theorem generateToken_eq_iff (h0 : 0 ≤ w.clock.nanos) (h1 : w.clock.nanos < nanosPerSecond) :
    generateToken w dir kid issuer ttl subject roles = r ↔
      Issued w dir kid issuer ttl subject roles r := by
  refine ⟨?_, generateToken_of_issued h0 h1⟩
  rintro rfl
  obtain ⟨r, hr⟩ := exists_issued w dir kid issuer ttl subject roles
  rwa [generateToken_of_issued h0 h1 hr]

end Issue

end Admin

namespace Lifetime

/-- The right password draws claims for the lifetime that is set as long as they end on the
calendar, and overflows afterwards. The operator gets a token for a lifetime that makes a span and
ends on the calendar, from any key that can sign; every other lifetime panics. -/
theorem outcomes_of_lifetimes (config : Config) (w : World) (args : List String) :
    (∀ (lookup : String → Option String) (users : Users) (email password : String) (a : Account)
      (now : Instant),
      Config.ofLookup lookup = .ok config → Span.ofSeconds? config.tokenTtl = some users.ttl →
      users.issuer = config.tokenIssuer → Login.Opens users ⟨email, password⟩ a →
      a.user.enabled = true → 0 ≤ now.seconds → 0 ≤ now.nanos → now.nanos < 2 * nanosPerSecond →
      ∃ lifetime : ℕ,
        Config.parsed lookup "TOKEN_TTL_SECS" 3600 (Text.natUpTo? Word.max64) = .ok lifetime ∧
        users.authenticate email password now =
          if now.seconds + lifetime ≤ Instant.maxSeconds then
            .ok ⟨config.tokenIssuer, a.user.id, now.seconds, now.seconds + lifetime, a.user.roles⟩
          else .error .overflow) ∧
    ∀ (dir kid issuer : String) (ttl : ℤ) (subject : String) (roles : List Role),
      Command.ofArguments? w.environment args =
        some (.generateToken dir kid issuer ttl subject roles) →
      0 ≤ w.clock.nanos → w.clock.nanos < nanosPerSecond →
      (∀ r, Admin.run w args = r ↔ Admin.Issued w dir kid issuer ttl subject roles r) ∧
      ∀ key, Admin.Signs w.files dir kid key → key.CanSign → |ttl| ≤ Span.maxSeconds →
        Instant.minSeconds ≤ w.clock.seconds + ttl → w.clock.seconds + ttl ≤ Instant.maxSeconds →
        ∃ text, Admin.run w args = .done (text ++ "\n") "" none ∧
          Token.sign key kid (Admin.asked w issuer ttl subject roles) =
            .ok (Bytes.ofString text) := by
  refine ⟨?_, ?_⟩
  · intro lookup users email password a now hconfig hspan hissuer ha hon hfirst h0 h2
    obtain ⟨-, httl⟩ := Span.ofSeconds?_eq_some_iff.1 hspan
    refine ⟨config.tokenTtl, Config.tokenTtl_of_ofLookup hconfig, ?_⟩
    rw [Users.authenticate_of_whole httl ha hon hfirst h0 h2, hissuer]
  · intro dir kid issuer ttl subject roles hargs h0 h1
    have hrun : Admin.run w args = Admin.generateToken w dir kid issuer ttl subject roles := by
      rw [Admin.run, hargs]
    rw [hrun]
    refine ⟨fun r => Admin.generateToken_eq_iff h0 h1, ?_⟩
    intro key hkey hsigns hspan hmin hmax
    obtain ⟨text, hsign⟩ :=
      Token.exists_sign hsigns kid (Admin.asked w issuer ttl subject roles)
    exact ⟨text, Admin.generateToken_of_issued h0 h1 (.printed hkey hspan hmin hmax hsign), hsign⟩

/-! A service whose tokens end in the last second of the calendar, and an operator with one key. -/

def someLookup (name : String) : Option String :=
  if name = "ACTIVE_KID" then some "k"
  else if name = "TOKEN_TTL_SECS" then some " +8210266876799 "
  else none

def someConfig : Config :=
  ⟨"0.0.0.0", 3000, "keys/", "k", "authgate", 8210266876799, 20, .pretty, none⟩

theorem ofLookup_someLookup : Config.ofLookup someLookup = .ok someConfig := by decide +kernel

def someUsers : Users :=
  { Service.someUsers with issuer := "authgate", ttl := ⟨8210266876799, 0⟩ }

theorem opens_someUsers :
    Login.Opens someUsers ⟨"some@example.com", "secret"⟩ Service.someAccount where
  found := by rw [Service.emailKey_some]; exact Service.accounts_someUsers
  matched := rfl

def keyTree : FileTree :=
  NewKey.emptyTree.put [Bytes.ofString "keys", NewKey.fileName "k"] (.file Rsa.mersennePem)

theorem signs_keyTree : Admin.Signs keyTree "keys" "k" Rsa.mersenneKey := by
  have hname : FileTree.IsName (NewKey.fileName "k") := NewKey.isName_fileName (by decide +kernel)
  have hstem : KeyDirectory.keyStem? (NewKey.fileName "k") = some (Bytes.ofString "k") :=
    NewKey.keyStem?_fileName (by decide +kernel)
  have hdir : NewKey.emptyTree.at? [Bytes.ofString "keys"] = some (.dir []) := rfl
  have hsize : Rsa.mersennePem.length ≤ KeyDirectory.maxKeySize := by decide +kernel
  obtain ⟨keys, hload, hlookup⟩ := KeyDirectory.load_put NewKey.load_emptyTree rfl hdir rfl hname
    ⟨_, hstem, Bytes.toString?_ofString _⟩ hsize Rsa.ofPem_mersennePem rfl
  exact ⟨keys, hload, by rw [hlookup, if_pos rfl]⟩

def someWorld : World where
  files := keyTree
  environment _ := none
  clock := ⟨0, 0⟩
  entropy _ := 0
  generator _ _ := none
  telemetry := default

def someArgs (ttl : String) : List String :=
  ["gentoken", "--keys-dir", "keys", "--kid", "k", "--ttl-secs", ttl, "sub", "USER"]

theorem outcomes_of_lifetimes_some :
    someUsers.authenticate "some@example.com" "secret" ⟨0, 0⟩ =
        .ok ⟨"authgate", "1", 0, 8210266876799, ["USER"]⟩ ∧
      someUsers.authenticate "some@example.com" "secret" ⟨1, 0⟩ = .error .overflow ∧
      (∃ text, Admin.run someWorld (someArgs "8210266876799") = .done (text ++ "\n") "" none) ∧
      Admin.run someWorld (someArgs "8210266876800") = .panicked Claims.overflowMessage ∧
      Admin.run someWorld (someArgs "9223372036854775807") = .panicked Admin.spanOverflow := by
  obtain ⟨hlogin, -⟩ := outcomes_of_lifetimes someConfig someWorld []
  have hauth : ∀ now : Instant, 0 ≤ now.seconds → 0 ≤ now.nanos → now.nanos < 2 * nanosPerSecond →
      someUsers.authenticate "some@example.com" "secret" now =
        if now.seconds + 8210266876799 ≤ Instant.maxSeconds then
          .ok ⟨"authgate", "1", now.seconds, now.seconds + 8210266876799, ["USER"]⟩
        else .error .overflow := by
    intro now hfirst h0 h2
    obtain ⟨lifetime, hlifetime, h⟩ := hlogin someLookup someUsers _ _ _ now
      ofLookup_someLookup (by decide) rfl opens_someUsers rfl hfirst h0 h2
    have httl := Config.tokenTtl_of_ofLookup ofLookup_someLookup
    obtain rfl := Except.ok.inj (httl.symm.trans hlifetime)
    exact h
  have hargs : ∀ (text : String) (ttl : ℤ),
      Command.ofArguments? someWorld.environment (someArgs text) =
        some (.generateToken "keys" "k" "authgate" ttl "sub" [.user]) → _ :=
    fun text ttl h => (outcomes_of_lifetimes someConfig someWorld (someArgs text)).2 _ _ _ _ _ _ h
      (by decide) (by decide)
  refine ⟨?_, ?_, ?_, ?_, ?_⟩
  · rw [hauth _ (by decide) (by decide) (by decide)]
    rfl
  · rw [hauth _ (by decide) (by decide) (by decide)]
    rfl
  · obtain ⟨-, hprints⟩ := hargs "8210266876799" 8210266876799 (by decide +kernel)
    obtain ⟨text, h, -⟩ := hprints _ signs_keyTree Rsa.isSound_mersenneKey.canSign (by decide)
      (by decide) (by decide)
    exact ⟨text, h⟩
  · obtain ⟨hissued, -⟩ := hargs "8210266876800" 8210266876800 (by decide +kernel)
    exact (hissued _).2 (.endless signs_keyTree (by decide) (Or.inr (by decide)))
  · obtain ⟨hissued, -⟩ := hargs "9223372036854775807" 9223372036854775807 (by decide +kernel)
    exact (hissued _).2 (.spanless signs_keyTree (by decide))

end Lifetime

end Turnstile
