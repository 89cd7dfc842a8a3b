import Mathlib.Tactic
import Turnstile.Config

/-! What a configuration takes from the environment. -/

namespace Turnstile.Config

variable {lookup : String → Option String} {config : Config}

theorem bind_eq_ok_iff {ε α β : Type} {x : Except ε α} {f : α → Except ε β} {b : β} :
    x.bind f = .ok b ↔ ∃ a, x = .ok a ∧ f a = .ok b := by
  cases x with
  | error e => simp [Except.bind]
  | ok a => simp [Except.bind]

/-- Every part of the configuration is the variable of its name, or the default for it. -/
structure ReadFrom (lookup : String → Option String) (config : Config) : Prop where
  host : config.host = (get? lookup "HOST").getD "0.0.0.0"
  port : parsed lookup "PORT" 3000 (Text.natUpTo? Word.max16) = .ok config.port
  keysDir : config.keysDir = (get? lookup "KEYS_DIR").getD "keys/"
  activeKid : get? lookup "ACTIVE_KID" = some config.activeKid
  tokenIssuer : config.tokenIssuer = (get? lookup "TOKEN_ISSUER").getD "authgate"
  tokenTtl : parsed lookup "TOKEN_TTL_SECS" 3600 (Text.natUpTo? Word.max64) = .ok config.tokenTtl
  shutdownTimeout : parsed lookup "SHUTDOWN_TIMEOUT_SECS" 20 (Text.natUpTo? Word.max64) =
    .ok config.shutdownTimeout
  logFormat : parsed lookup "LOG_FORMAT" .pretty LogFormat.ofName? = .ok config.logFormat
  seedAdmin : seed? lookup = .ok config.seedAdmin

theorem ofLookup_eq_ok_iff : ofLookup lookup = .ok config ↔ config.ReadFrom lookup := by
  refine ⟨?_, ?_⟩
  · intro h
    simp only [ofLookup, bind] at h
    cases hkid : get? lookup "ACTIVE_KID" with
    | none => simp [hkid, Except.bind] at h
    | some kid =>
      simp only [hkid, bind_eq_ok_iff] at h
      obtain ⟨_, hkid', seed, hseed, port, hport, ttl, httl, timeout, htimeout, format, hformat,
        hconfig⟩ := h
      obtain rfl := Except.ok.inj hkid'
      obtain rfl := Except.ok.inj hconfig
      exact ⟨rfl, hport, rfl, hkid, rfl, httl, htimeout, hformat, hseed⟩
  · intro h
    simp only [ofLookup, bind, h.activeKid, h.seedAdmin, h.port, h.tokenTtl, h.shutdownTimeout,
      h.logFormat, Except.bind, ← h.host, ← h.keysDir, ← h.tokenIssuer]

theorem trim_ne_of_get? {name value : String} (h : get? lookup name = some value) :
    Text.trim value ≠ "" := by
  intro hblank
  have hkept := (Option.filter_eq_some_iff.1 h).2
  rw [hblank] at hkept
  exact absurd hkept (by decide)

/-- Neither text of an administrator is blank. -/
theorem ReadFrom.nonblank {seed : SeedAdmin} (h : config.ReadFrom lookup)
    (hseed : config.seedAdmin = some seed) :
    Text.trim seed.email ≠ "" ∧ Text.trim seed.password ≠ "" := by
  have hread := h.seedAdmin
  rw [hseed] at hread
  unfold seed? at hread
  split at hread
  · rename_i email password hemail hpassword
    obtain rfl := Option.some.inj (Except.ok.inj hread)
    exact ⟨trim_ne_of_get? hemail, trim_ne_of_get? hpassword⟩
  · simp at hread
  · simp at hread

end Turnstile.Config
