import Turnstile.Proofs.Config
import Turnstile.Proofs.Text.Scalar

/-! What the environment decides. A variable counts when it is not blank; a key is required, the
seeded administrator is whole or left out, and of the values that are read the first one that does
not fit is named. -/

namespace Turnstile

def LogFormat.name : LogFormat → String
  | json => "json"
  | pretty => "pretty"

theorem LogFormat.ofName?_eq_some_iff {s : String} {f : LogFormat} :
    ofName? s = some f ↔ Text.Spells s f.name := by
  have hjson : Text.lowercaseAscii s = "json" ↔ Text.Spells s "json" :=
    Text.lowercaseAscii_eq_iff (List.all_eq_true.1 (by decide))
  have hpretty : Text.lowercaseAscii s = "pretty" ↔ Text.Spells s "pretty" :=
    Text.lowercaseAscii_eq_iff (List.all_eq_true.1 (by decide))
  cases f with
  | json =>
    rw [name, ← hjson, ofName?]
    split_ifs with h h' <;> simp [h]
  | pretty =>
    rw [name, ← hpretty, ofName?]
    split_ifs with h h'
    · simp [h]
    · simp [h']
    · simp [h']

namespace Config

open Text (AllBlank Trims WritesNat Spells)

variable {lookup lookup' : String → Option String} {config : Config} {name v : String}

/-- The variable has the value, which is not blank. -/
def Holds (lookup : String → Option String) (name v : String) : Prop :=
  lookup name = some v ∧ ¬ AllBlank v

def Unset (lookup : String → Option String) (name : String) : Prop := ∀ v, ¬ Holds lookup name v

theorem get?_eq_some_iff : get? lookup name = some v ↔ Holds lookup name v := by
  rw [get?, Option.filter_eq_some_iff, Bool.not_eq_true', ← Bool.not_eq_true, String.isEmpty_iff,
    Text.trim_eq_empty_iff, Holds]

theorem get?_eq_none_iff : get? lookup name = none ↔ Unset lookup name := by
  simp only [Option.eq_none_iff_forall_ne_some, ne_eq, get?_eq_some_iff, Unset]

/-- Between blanks, the value is a number of at most this size. -/
def Number (limit : ℕ) (v : String) (n : ℕ) : Prop := (∃ t, Trims v t ∧ WritesNat t n) ∧ n ≤ limit

/-- Between blanks, the value is the name of a format, in whatever case. -/
def Format (v : String) (f : LogFormat) : Prop := ∃ t, Trims v t ∧ Spells t f.name

theorem natUpTo?_trim_iff {limit n : ℕ} :
    Text.natUpTo? limit (Text.trim v) = some n ↔ Number limit v n := by
  simp only [Number, Text.natUpTo?_eq_some_iff, Text.trims_iff, exists_eq_left']

theorem ofName?_trim_iff {f : LogFormat} : LogFormat.ofName? (Text.trim v) = some f ↔ Format v f := by
  simp only [Format, LogFormat.ofName?_eq_some_iff, Text.trims_iff, exists_eq_left']

/-- What a variable stands for: its value, as it is read, or the default. -/
def Yields {α : Type} (lookup : String → Option String) (name : String) (default : α)
    (reads : String → α → Prop) (a : α) : Prop :=
  (∃ v, Holds lookup name v ∧ reads v a) ∨ (Unset lookup name ∧ a = default)

theorem exists_holds (h : ¬ Unset lookup name) : ∃ v, Holds lookup name v := by
  simpa [Unset] using h

theorem exists_yields {α : Type} {reads : String → α → Prop} (default : α)
    (h : ∀ v, Holds lookup name v → ∃ a, reads v a) : ∃ a, Yields lookup name default reads a := by
  by_cases hunset : Unset lookup name
  · exact ⟨default, Or.inr ⟨hunset, rfl⟩⟩
  · obtain ⟨v, hv⟩ := exists_holds hunset
    obtain ⟨a, ha⟩ := h v hv
    exact ⟨a, Or.inl ⟨v, hv, ha⟩⟩

theorem getD_get?_iff {default a : String} :
    a = (get? lookup name).getD default ↔ Yields lookup name default Eq a := by
  cases h : get? lookup name with
  | none =>
    have hunset := get?_eq_none_iff.1 h
    simp [Yields, hunset, hunset _]
  | some v =>
    have hv := get?_eq_some_iff.1 h
    have hset : ¬ Unset lookup name := fun hunset => hunset v hv
    simp only [Yields, hset, false_and, or_false, Option.getD_some, ← get?_eq_some_iff, h,
      Option.some.injEq]
    simp [eq_comm]

section Parsed

variable {α : Type} {default : α} {read : String → Option α} {reads : String → α → Prop}
  (hread : ∀ v a, read (Text.trim v) = some a ↔ reads v a)
include hread

theorem parsed_eq_ok_iff {a : α} :
    parsed lookup name default read = .ok a ↔ Yields lookup name default reads a := by
  unfold parsed Yields
  cases h : get? lookup name with
  | none =>
    have hunset := get?_eq_none_iff.1 h
    simp [hunset, hunset _, eq_comm]
  | some v =>
    have hv := get?_eq_some_iff.1 h
    have hset : ¬ Unset lookup name := fun hunset => hunset v hv
    simp only [hset, false_and, or_false, ← get?_eq_some_iff, h, Option.some.injEq,
      exists_eq_left', ← hread]
    cases read (Text.trim v) <;> simp

theorem parsed_eq_error_iff {e : ConfigError} : parsed lookup name default read = .error e ↔
    ∃ v, Holds lookup name v ∧ (¬ ∃ a, reads v a) ∧ e = .invalid name v := by
  unfold parsed
  cases h : get? lookup name with
  | none =>
    have hunset := get?_eq_none_iff.1 h
    simp [hunset _]
  | some v =>
    simp only [← get?_eq_some_iff, h, Option.some.injEq, exists_eq_left', ← hread]
    cases read (Text.trim v) <;> simp [eq_comm]

theorem exists_parsed (default : α) (h : ∀ v, Holds lookup name v → ∃ a, reads v a) :
    ∃ a, parsed lookup name default read = .ok a := by
  obtain ⟨a, ha⟩ := exists_yields default h
  exact ⟨a, (parsed_eq_ok_iff hread).2 ha⟩

end Parsed

/-- Both texts of the administrator are set, or neither. -/
inductive Seeds (lookup : String → Option String) : Option SeedAdmin → Prop
  | both {email password : String} (hemail : Holds lookup "SEED_ADMIN_EMAIL" email)
    (hpassword : Holds lookup "SEED_ADMIN_PASSWORD" password) : Seeds lookup (some ⟨email, password⟩)
  | neither (hemail : Unset lookup "SEED_ADMIN_EMAIL")
    (hpassword : Unset lookup "SEED_ADMIN_PASSWORD") : Seeds lookup none

/-- One of the two texts is set without the other. -/
def IsHalfSeeded (lookup : String → Option String) : Prop :=
  ¬ (Unset lookup "SEED_ADMIN_EMAIL" ↔ Unset lookup "SEED_ADMIN_PASSWORD")

theorem seed?_of_seeds {seed : Option SeedAdmin} (h : Seeds lookup seed) :
    seed? lookup = .ok seed := by
  cases h with
  | both hemail hpassword =>
    simp only [seed?, get?_eq_some_iff.2 hemail, get?_eq_some_iff.2 hpassword]
  | neither hemail hpassword =>
    simp only [seed?, get?_eq_none_iff.2 hemail, get?_eq_none_iff.2 hpassword]

theorem seed?_of_isHalfSeeded (h : IsHalfSeeded lookup) :
    seed? lookup = .error (.incomplete "SEED_ADMIN_EMAIL" "SEED_ADMIN_PASSWORD") := by
  rw [IsHalfSeeded, ← get?_eq_none_iff, ← get?_eq_none_iff] at h
  unfold seed?
  split
  · rename_i hemail hpassword
    simp [hemail, hpassword] at h
  · rename_i hemail hpassword
    simp [hemail, hpassword] at h
  · rfl

/-- The administrator is seeded whole, or not at all, or the two texts are at odds. -/
theorem exists_seeds (h : ¬ IsHalfSeeded lookup) : ∃ seed, Seeds lookup seed := by
  rw [IsHalfSeeded, not_not, ← get?_eq_none_iff, ← get?_eq_none_iff] at h
  cases hemail : get? lookup "SEED_ADMIN_EMAIL" with
  | none => exact ⟨none, .neither (get?_eq_none_iff.1 hemail) (get?_eq_none_iff.1 (h.1 hemail))⟩
  | some email =>
    obtain ⟨password, hpassword⟩ := Option.ne_none_iff_exists'.1 (mt h.2 (by simp [hemail]))
    exact ⟨some ⟨email, password⟩,
      .both (get?_eq_some_iff.1 hemail) (get?_eq_some_iff.1 hpassword)⟩

theorem seed?_eq_ok_iff {seed : Option SeedAdmin} : seed? lookup = .ok seed ↔ Seeds lookup seed := by
  refine ⟨?_, seed?_of_seeds⟩
  intro h
  by_cases hhalf : IsHalfSeeded lookup
  · rw [seed?_of_isHalfSeeded hhalf] at h
    simp at h
  · obtain ⟨seed', hseed⟩ := exists_seeds hhalf
    rw [seed?_of_seeds hseed] at h
    exact Except.ok.inj h ▸ hseed

/-- The configuration has every variable that is set, and the default for every other one. -/
structure Follows (lookup : String → Option String) (config : Config) : Prop where
  host : Yields lookup "HOST" "0.0.0.0" Eq config.host
  port : Yields lookup "PORT" 3000 (Number 65535) config.port
  keysDir : Yields lookup "KEYS_DIR" "keys/" Eq config.keysDir
  activeKid : Holds lookup "ACTIVE_KID" config.activeKid
  tokenIssuer : Yields lookup "TOKEN_ISSUER" "authgate" Eq config.tokenIssuer
  tokenTtl : Yields lookup "TOKEN_TTL_SECS" 3600 (Number (2 ^ 64 - 1)) config.tokenTtl
  shutdownTimeout :
    Yields lookup "SHUTDOWN_TIMEOUT_SECS" 20 (Number (2 ^ 64 - 1)) config.shutdownTimeout
  logFormat : Yields lookup "LOG_FORMAT" .pretty Format config.logFormat
  seedAdmin : Seeds lookup config.seedAdmin

theorem readFrom_iff : config.ReadFrom lookup ↔ config.Follows lookup := by
  refine ⟨?_, ?_⟩
  · intro h
    exact {
      host := getD_get?_iff.1 h.host
      port := (parsed_eq_ok_iff fun _ _ => natUpTo?_trim_iff).1 h.port
      keysDir := getD_get?_iff.1 h.keysDir
      activeKid := get?_eq_some_iff.1 h.activeKid
      tokenIssuer := getD_get?_iff.1 h.tokenIssuer
      tokenTtl := (parsed_eq_ok_iff fun _ _ => natUpTo?_trim_iff).1 h.tokenTtl
      shutdownTimeout := (parsed_eq_ok_iff fun _ _ => natUpTo?_trim_iff).1 h.shutdownTimeout
      logFormat := (parsed_eq_ok_iff fun _ _ => ofName?_trim_iff).1 h.logFormat
      seedAdmin := seed?_eq_ok_iff.1 h.seedAdmin }
  · intro h
    exact {
      host := getD_get?_iff.2 h.host
      port := (parsed_eq_ok_iff fun _ _ => natUpTo?_trim_iff).2 h.port
      keysDir := getD_get?_iff.2 h.keysDir
      activeKid := get?_eq_some_iff.2 h.activeKid
      tokenIssuer := getD_get?_iff.2 h.tokenIssuer
      tokenTtl := (parsed_eq_ok_iff fun _ _ => natUpTo?_trim_iff).2 h.tokenTtl
      shutdownTimeout := (parsed_eq_ok_iff fun _ _ => natUpTo?_trim_iff).2 h.shutdownTimeout
      logFormat := (parsed_eq_ok_iff fun _ _ => ofName?_trim_iff).2 h.logFormat
      seedAdmin := seed?_eq_ok_iff.2 h.seedAdmin }

/-! The four variables that are read, in the order in which they are looked at. -/

/-- A variable and the values that it may have. -/
structure Reading where
  name : String
  Accepts : String → Prop

def readings : List Reading :=
  [⟨"PORT", fun v => ∃ n, Number 65535 v n⟩, ⟨"TOKEN_TTL_SECS", fun v => ∃ n, Number (2 ^ 64 - 1) v n⟩,
    ⟨"SHUTDOWN_TIMEOUT_SECS", fun v => ∃ n, Number (2 ^ 64 - 1) v n⟩,
    ⟨"LOG_FORMAT", fun v => ∃ f, Format v f⟩]

/-- The first variable that has a value which it may not have, and that value. -/
inductive FirstRefused (lookup : String → Option String) : List Reading → String → String → Prop
  | here {r : Reading} {rs : List Reading} {v : String} (hv : Holds lookup r.name v)
    (h : ¬ r.Accepts v) : FirstRefused lookup (r :: rs) r.name v
  | later {r : Reading} {rs : List Reading} {name v : String}
    (hr : ∀ w, Holds lookup r.name w → r.Accepts w) (h : FirstRefused lookup rs name v) :
    FirstRefused lookup (r :: rs) name v

theorem exists_firstRefused {rs : List Reading}
    (h : ∃ r ∈ rs, ∃ v, Holds lookup r.name v ∧ ¬ r.Accepts v) :
    ∃ name v, FirstRefused lookup rs name v := by
  induction rs with
  | nil => simp at h
  | cons r rs ih =>
    by_cases hr : ∃ v, Holds lookup r.name v ∧ ¬ r.Accepts v
    · obtain ⟨v, hv, hnot⟩ := hr
      exact ⟨r.name, v, .here hv hnot⟩
    · obtain ⟨r', hr', hrefused⟩ := h
      rcases List.mem_cons.1 hr' with rfl | hmem
      · exact absurd hrefused hr
      · obtain ⟨name, v, hfirst⟩ := ih ⟨r', hmem, hrefused⟩
        exact ⟨name, v, .later (by simpa using hr) hfirst⟩

/-- What an environment makes: an error, the foremost of those that it gives rise to, or a
configuration. -/
inductive Decides (lookup : String → Option String) : Except ConfigError Config → Prop
  | missing (hkid : Unset lookup "ACTIVE_KID") : Decides lookup (.error (.missing "ACTIVE_KID"))
  | incomplete (hkid : ¬ Unset lookup "ACTIVE_KID") (h : IsHalfSeeded lookup) :
    Decides lookup (.error (.incomplete "SEED_ADMIN_EMAIL" "SEED_ADMIN_PASSWORD"))
  | invalid {name v : String} (hkid : ¬ Unset lookup "ACTIVE_KID") (hseed : ¬ IsHalfSeeded lookup)
    (h : FirstRefused lookup readings name v) : Decides lookup (.error (.invalid name v))
  | ok {config : Config} (h : config.Follows lookup) : Decides lookup (.ok config)

theorem ofLookup_of_firstRefused (hkid : ¬ Unset lookup "ACTIVE_KID")
    (hseed : ¬ IsHalfSeeded lookup) (h : FirstRefused lookup readings name v) :
    ofLookup lookup = .error (.invalid name v) := by
  obtain ⟨kid, hkid⟩ := exists_holds hkid
  obtain ⟨seed, hseed⟩ := exists_seeds hseed
  have h16 : ∀ v n, Text.natUpTo? Word.max16 (Text.trim v) = some n ↔ Number 65535 v n :=
    fun _ _ => natUpTo?_trim_iff
  have h64 : ∀ v n, Text.natUpTo? Word.max64 (Text.trim v) = some n ↔ Number (2 ^ 64 - 1) v n :=
    fun _ _ => natUpTo?_trim_iff
  have hformat : ∀ v f, LogFormat.ofName? (Text.trim v) = some f ↔ Format v f :=
    fun _ _ => ofName?_trim_iff
  simp only [ofLookup, bind, get?_eq_some_iff.2 hkid, seed?_of_seeds hseed, Except.bind]
  rcases h with ⟨hv, hnot⟩ | ⟨hport, h⟩
  · simp only [(parsed_eq_error_iff h16).2 ⟨_, hv, hnot, rfl⟩]
  obtain ⟨port, hport⟩ := exists_parsed h16 3000 hport
  simp only [hport]
  rcases h with ⟨hv, hnot⟩ | ⟨httl, h⟩
  · simp only [(parsed_eq_error_iff h64).2 ⟨_, hv, hnot, rfl⟩]
  obtain ⟨ttl, httl⟩ := exists_parsed h64 3600 httl
  simp only [httl]
  rcases h with ⟨hv, hnot⟩ | ⟨htimeout, h⟩
  · simp only [(parsed_eq_error_iff h64).2 ⟨_, hv, hnot, rfl⟩]
  obtain ⟨timeout, htimeout⟩ := exists_parsed h64 20 htimeout
  simp only [htimeout]
  rcases h with ⟨hv, hnot⟩ | ⟨_, h⟩
  · simp only [(parsed_eq_error_iff hformat).2 ⟨_, hv, hnot, rfl⟩]
  · cases h

theorem exists_follows (hkid : ¬ Unset lookup "ACTIVE_KID") (hseed : ¬ IsHalfSeeded lookup)
    (h : ∀ r ∈ readings, ∀ v, Holds lookup r.name v → r.Accepts v) :
    ∃ config : Config, config.Follows lookup := by
  have htext : ∀ name v, Holds lookup name v → ∃ a, v = a := fun _ v _ => ⟨v, rfl⟩
  simp only [readings, List.forall_mem_cons] at h
  obtain ⟨hport, httl, htimeout, hformat, -⟩ := h
  obtain ⟨kid, hkid⟩ := exists_holds hkid
  obtain ⟨seed, hseed⟩ := exists_seeds hseed
  obtain ⟨host, hhost⟩ := exists_yields "0.0.0.0" (htext "HOST")
  obtain ⟨port, hport⟩ := exists_yields 3000 hport
  obtain ⟨dir, hdir⟩ := exists_yields "keys/" (htext "KEYS_DIR")
  obtain ⟨issuer, hissuer⟩ := exists_yields "authgate" (htext "TOKEN_ISSUER")
  obtain ⟨ttl, httl⟩ := exists_yields 3600 httl
  obtain ⟨timeout, htimeout⟩ := exists_yields 20 htimeout
  obtain ⟨format, hformat⟩ := exists_yields LogFormat.pretty hformat
  exact ⟨⟨host, port, dir, kid, issuer, ttl, timeout, format, seed⟩, hhost, hport, hdir, hkid,
    hissuer, httl, htimeout, hformat, hseed⟩

theorem ofLookup_of_decides {r : Except ConfigError Config} (h : Decides lookup r) :
    ofLookup lookup = r := by
  cases h with
  | missing hkid => simp only [ofLookup, get?_eq_none_iff.2 hkid, bind, Except.bind]
  | incomplete hkid h =>
    obtain ⟨kid, hkid⟩ := exists_holds hkid
    simp only [ofLookup, get?_eq_some_iff.2 hkid, seed?_of_isHalfSeeded h, bind, Except.bind]
  | invalid hkid hseed h => exact ofLookup_of_firstRefused hkid hseed h
  | ok h => exact ofLookup_eq_ok_iff.2 (readFrom_iff.2 h)

theorem exists_decides (lookup : String → Option String) : ∃ r, Decides lookup r := by
  by_cases hkid : Unset lookup "ACTIVE_KID"
  · exact ⟨_, .missing hkid⟩
  by_cases hseed : IsHalfSeeded lookup
  · exact ⟨_, .incomplete hkid hseed⟩
  by_cases hrefused : ∃ r ∈ readings, ∃ v, Holds lookup r.name v ∧ ¬ r.Accepts v
  · obtain ⟨name, v, h⟩ := exists_firstRefused hrefused
    exact ⟨_, .invalid hkid hseed h⟩
  · obtain ⟨config, h⟩ := exists_follows hkid hseed (by simpa using hrefused)
    exact ⟨_, .ok h⟩

theorem ofLookup_eq_iff {r : Except ConfigError Config} : ofLookup lookup = r ↔ Decides lookup r := by
  refine ⟨?_, ofLookup_of_decides⟩
  rintro rfl
  obtain ⟨r, h⟩ := exists_decides lookup
  rwa [ofLookup_of_decides h]

/-- Blank values count for nothing. -/
theorem ofLookup_congr (h : ∀ name v, Holds lookup name v ↔ Holds lookup' name v) :
    ofLookup lookup = ofLookup lookup' := by
  have hget : get? lookup = get? lookup' := by
    funext name
    ext v
    rw [get?_eq_some_iff, get?_eq_some_iff, h]
  unfold ofLookup seed? parsed
  rw [hget]

/-- Numbers that are too large are refused, not cut down. -/
theorem not_number {limit n : ℕ} (h : ∃ t, Trims v t ∧ WritesNat t n) (hn : limit < n) :
    ¬ ∃ m, Number limit v m := by
  rintro ⟨m, ⟨t', ht', hm⟩, hle⟩
  obtain ⟨t, ht, hwrites⟩ := h
  obtain rfl := (Text.trims_iff.1 ht).symm.trans (Text.trims_iff.1 ht')
  exact absurd (hwrites.unique hm ▸ hle) (not_le.2 hn)

/-- The environment decides: no key, half an administrator, the first value that does not fit, or a
configuration of what is set. Only values that are not blank bear on it, and a number that is too
large fits nowhere. -/
theorem ofLookup_decides (lookup : String → Option String) :
    (∀ r, ofLookup lookup = r ↔ Decides lookup r) ∧
    (∀ lookup', (∀ name v, Holds lookup name v ↔ Holds lookup' name v) →
      ofLookup lookup = ofLookup lookup') ∧
    ∀ name limit, (name, limit) ∈ [("PORT", 65535), ("TOKEN_TTL_SECS", 2 ^ 64 - 1),
        ("SHUTDOWN_TIMEOUT_SECS", 2 ^ 64 - 1)] →
      ∀ v t n, Holds lookup name v → Trims v t → WritesNat t n → limit < n →
        ¬ Unset lookup "ACTIVE_KID" → ¬ IsHalfSeeded lookup →
        ∃ name' v', FirstRefused lookup readings name' v' ∧
          ofLookup lookup = .error (.invalid name' v') := by
  refine ⟨fun _ => ofLookup_eq_iff, fun _ => ofLookup_congr, ?_⟩
  intro name limit hname v t n hv ht hn hlarge hkid hseed
  have hread : ⟨name, fun v => ∃ n, Number limit v n⟩ ∈ readings := by
    simp only [List.mem_cons, Prod.mk.injEq, List.not_mem_nil, or_false] at hname
    rcases hname with ⟨rfl, rfl⟩ | ⟨rfl, rfl⟩ | ⟨rfl, rfl⟩ <;> simp [readings]
  obtain ⟨name', v', hfirst⟩ :=
    exists_firstRefused ⟨_, hread, v, hv, not_number ⟨t, ht, hn⟩ hlarge⟩
  exact ⟨name', v', hfirst, ofLookup_of_firstRefused hkid hseed hfirst⟩

/-! An environment with three faults, and the same with a blank host. -/

def faulty (name : String) : Option String :=
  if name = "ACTIVE_KID" then some "k"
  else if name = "PORT" then some "\u00a0+65536\t"
  else if name = "TOKEN_TTL_SECS" then some "-1"
  else if name = "LOG_FORMAT" then some "xml"
  else none

def blankHosted (name : String) : Option String :=
  if name = "HOST" then some "\u3000 " else faulty name

theorem ofLookup_decides_faulty :
    ofLookup faulty = .error (.invalid "PORT" "\u00a0+65536\t") ∧
      ofLookup faulty = ofLookup blankHosted ∧
      ∃ name v, FirstRefused faulty readings name v ∧
        ofLookup faulty = .error (.invalid name v) := by
  obtain ⟨hdecides, hblank, hlarge⟩ := ofLookup_decides faulty
  have hport : Holds faulty "PORT" "\u00a0+65536\t" := get?_eq_some_iff.1 (by decide +kernel)
  have hkid : ¬ Unset faulty "ACTIVE_KID" := mt get?_eq_none_iff.2 (by decide +kernel)
  have hseed : ¬ IsHalfSeeded faulty := by
    rw [IsHalfSeeded, ← get?_eq_none_iff, ← get?_eq_none_iff]
    decide +kernel
  have ht : Trims "\u00a0+65536\t" "+65536" := Text.trims_iff.2 (by decide +kernel)
  have hn : WritesNat "+65536" 65536 :=
    ⟨['+'], ['6', '5', '5', '3', '6'], by decide, by decide, by decide,
      List.all_eq_true.1 (by decide), by decide⟩
  refine ⟨?_, ?_, ?_⟩
  · exact (hdecides _).2 (.invalid hkid hseed (.here hport (not_number ⟨_, ht, hn⟩ (by decide))))
  · refine hblank blankHosted fun name v => ?_
    by_cases hname : name = "HOST"
    · subst hname
      have hnone : get? faulty "HOST" = none := by decide +kernel
      have hnone' : get? blankHosted "HOST" = none := by decide +kernel
      rw [← get?_eq_some_iff, ← get?_eq_some_iff, hnone, hnone']
    · simp only [Holds, blankHosted, if_neg hname]
  · exact hlarge "PORT" 65535 (by simp) _ _ _ hport ht hn (by decide) hkid hseed

end Config

end Turnstile
