import Turnstile.Proofs.Json.Place
import Turnstile.Proofs.Token.Printed

/-! Claims as JSON: what is printed reads back, and what an object says is settled by its members of
five names. -/

namespace Turnstile

open Json

theorem Word.isSigned64_iff {i : ℤ} : isSigned64 i = true ↔ -2 ^ 63 ≤ i ∧ i < 2 ^ 63 := by
  have hmin : minSigned64 = -2 ^ 63 := rfl
  have hmax : maxSigned64 = 2 ^ 63 - 1 := rfl
  rw [isSigned64, Bool.and_eq_true, decide_eq_true_eq, decide_eq_true_eq, hmin, hmax]
  omega

namespace Claims

/-- The members that have to be there. -/
def required : List String := ["iss", "sub", "iat", "exp"]

def memberNames : List String := "roles" :: required

/-- The members that are looked at. -/
def named (ms : List (String × Node)) : List (String × Node) :=
  ms.filter fun m => memberNames.contains m.1

/-- The member is there once. Its value is a number of 64 bits with a sign, and stands in the text
in its decimal digits. -/
structure WholeAt (b : Bytes) (ms : List (String × Node)) (name : String) (i : ℤ) : Prop where
  range : -2 ^ 63 ≤ i ∧ i < 2 ^ 63
  written : ∃ n, Sole ms name (.number n) ∧ NumberAt b name n (Bytes.ofString (toString i))

/-- The text with these members holds the claims. -/
structure WrittenIn (c : Claims) (b : Bytes) (ms : List (String × Node)) : Prop where
  issuer : ∃ v, Sole ms "iss" v ∧ v.text? = some c.issuer
  subject : ∃ v, Sole ms "sub" v ∧ v.text? = some c.subject
  issuedAt : WholeAt b ms "iat" c.issuedAt
  expires : WholeAt b ms "exp" c.expires
  roles : (∃ v, Sole ms "roles" v ∧ v.texts? = some c.roles) ∨ (Absent ms "roles" ∧ c.roles = [])

theorem ofJson?_of_objectText {b : Bytes} {ms : List (String × Node)} (h : ObjectText b ms) :
    ofJson? b = ofMembers? ms := by
  obtain ⟨n, hn, hms⟩ := h
  rw [ofJson?, (Node.ofBytes?_eq_some_iff b n).2 hn, Option.bind_some]
  cases n with
  | object raw => rw [ofNode?, hms, Option.bind_some]; simp
  | _ => simp [Node.members?] at hms

section Members

variable {b : Bytes} {ms ms' : List (String × Node)} {name : String} {c : Claims}

theorem wholeAt_iff (hb : ObjectText b ms) {i : ℤ} :
    WholeAt b ms name i ↔ ∃ v, Sole ms name v ∧ v.int64? = some i := by
  refine ⟨?_, ?_⟩
  · rintro ⟨hrange, n, hsole, -, -, -, -, -, -, -, -, hn, -⟩
    rw [Numeral.ofBytes?_ofInt] at hn
    obtain rfl := Option.some.inj hn
    exact ⟨_, hsole, Numeral.int64?_ofInt (Word.isSigned64_iff.2 hrange)⟩
  · rintro ⟨v, hsole, hv⟩
    obtain ⟨n, rfl⟩ : ∃ n, v = .number n := by
      cases v <;> first | exact ⟨_, rfl⟩ | simp [Node.int64?] at hv
    obtain ⟨hi, hsigned⟩ := Option.filter_eq_some_iff.1 hv
    obtain ⟨w, hw⟩ := hb.exists_numberAt hsole.mem
    have htext : w = Bytes.ofString (toString i) := by
      obtain ⟨-, -, -, -, -, -, -, -, hn, -⟩ := hw
      exact Numeral.eq_toString_of_int? hn hi
    exact ⟨Word.isSigned64_iff.1 hsigned, n, hsole, htext ▸ hw⟩

/-- An object is read as the claims that it holds, if it holds any. -/
theorem ofJson?_eq_some_iff (hb : ObjectText b ms) : ofJson? b = some c ↔ c.WrittenIn b ms := by
  rw [ofJson?_of_objectText hb, ofMembers?_eq_some_iff]
  refine ⟨?_, ?_⟩
  · rintro ⟨hiss, hsub, hiat, hexp, hroles⟩
    exact ⟨hiss, hsub, (wholeAt_iff hb).2 hiat, (wholeAt_iff hb).2 hexp, hroles⟩
  · rintro ⟨hiss, hsub, hiat, hexp, hroles⟩
    exact ⟨hiss, hsub, (wholeAt_iff hb).1 hiat, (wholeAt_iff hb).1 hexp, hroles⟩

theorem filter_named (ms : List (String × Node)) (h : name ∈ memberNames) :
    (named ms).filter (·.1 == name) = ms.filter (·.1 == name) := by
  rw [named, List.filter_filter]
  refine List.filter_congr fun m _ => ?_
  by_cases hm : m.1 = name
  · simp [hm, h]
  · simp [hm]

theorem ofMembers?_perm (h : (named ms).Perm (named ms')) : ofMembers? ms = ofMembers? ms' := by
  have hfield : ∀ {α : Type} (name : String) (absent : Option α) (read : Node → Option α),
      name ∈ memberNames → field? ms name absent read = field? ms' name absent read := by
    intro α name absent read hn
    refine field?_perm ?_
    rw [← filter_named ms hn, ← filter_named ms' hn]
    exact h.filter _
  simp only [ofMembers?, hfield "iss" _ _ (by decide), hfield "sub" _ _ (by decide),
    hfield "iat" _ _ (by decide), hfield "exp" _ _ (by decide), hfield "roles" _ _ (by decide)]

theorem named_append (ms ms' : List (String × Node)) : named (ms ++ ms') = named ms ++ named ms' :=
  List.filter_append ..

/-- Members of other names change nothing. -/
theorem named_others {others : List (String × Node)} (h : ∀ m ∈ others, m.1 ∉ memberNames) :
    named others = [] := by
  simpa [named, List.filter_eq_nil_iff] using h

/-- Roles left out are no roles. -/
theorem ofMembers?_of_absent_roles {l r : List (String × Node)} (h : Absent (l ++ r) "roles") :
    ofMembers? (l ++ ("roles", .array []) :: r) = ofMembers? (l ++ r) := by
  have hsole : Sole (l ++ ("roles", .array []) :: r) "roles" (.array []) :=
    ⟨l, r, rfl, fun m hm => h m (List.mem_append_left _ hm),
      fun m hm => h m (List.mem_append_right _ hm)⟩
  have hroles : field? (l ++ ("roles", .array []) :: r) "roles" (some []) Node.texts? =
      field? (l ++ r) "roles" (some []) Node.texts? := by
    rw [field?_of_sole hsole, field?_of_absent h]
    rfl
  have hfield : ∀ {α : Type} (name : String) (absent : Option α) (read : Node → Option α),
      name ≠ "roles" → field? (l ++ ("roles", .array []) :: r) name absent read =
        field? (l ++ r) name absent read := by
    intro α name absent read hn
    refine field?_perm (.of_eq ?_)
    simp [hn.symm]
  simp only [ofMembers?, hroles, hfield "iss" _ _ (by decide), hfield "sub" _ _ (by decide),
    hfield "iat" _ _ (by decide), hfield "exp" _ _ (by decide)]

theorem In.exists_sole (h : c.In ms) (hn : name ∈ required) : ∃ v, Sole ms name v := by
  simp only [required, List.mem_cons, List.not_mem_nil, or_false] at hn
  rcases hn with rfl | rfl | rfl | rfl
  · exact h.issuer.imp fun _ h => h.1
  · exact h.subject.imp fun _ h => h.1
  · exact h.issuedAt.imp fun _ h => h.1
  · exact h.expires.imp fun _ h => h.1

theorem In.sole_or_absent (h : c.In ms) (hn : name ∈ memberNames) :
    (∃ v, Sole ms name v) ∨ Absent ms name := by
  rcases List.mem_cons.1 hn with rfl | hn
  · exact h.roles.imp (fun h => h.imp fun _ h => h.1) fun h => h.1
  · exact Or.inl (h.exists_sole hn)

end Members

/-- Printed claims read back. Of an object only the members of the five names count, in any order
and each at most once. Roles that are left out are none; the others have to be there. The two times
are numbers of 64 bits in decimal digits, which is how JSON writes a number without fraction and
exponent that is not a negative zero. -/
theorem json_codec :
    (∀ c : Claims, Word.isSigned64 c.issuedAt = true → Word.isSigned64 c.expires = true →
      ofJson? c.json.bytes = some c) ∧
    (∀ b ms, ObjectText b ms →
      (∀ c, ofJson? b = some c ↔ c.WrittenIn b ms) ∧
      (∀ b' ms', ObjectText b' ms' → (named ms').Perm (named ms) → ofJson? b' = ofJson? b) ∧
      (∀ b' ms' others, ObjectText b' ms' → (∀ m ∈ others, m.1 ∉ memberNames) →
        ms'.Perm (others ++ ms) → ofJson? b' = ofJson? b) ∧
      (∀ b' l r, ms = l ++ r → Absent ms "roles" →
        ObjectText b' (l ++ ("roles", .array []) :: r) → ofJson? b' = ofJson? b) ∧
      (∀ name ∈ memberNames, ∀ l m r v w, ms = l ++ (name, v) :: m ++ (name, w) :: r →
        ofJson? b = none) ∧
      ∀ name ∈ required, Absent ms name → ofJson? b = none) ∧
    ∀ w n, Numeral.ofBytes? w = some n →
      ((∃ i : ℤ, w = Bytes.ofString (toString i)) ↔ n.fraction = none ∧ n.exponent = none ∧
        ¬ (n.negative = true ∧ Numeral.digitsValue n.whole = 0)) := by
  refine ⟨?_, ?_, fun w n => Numeral.exists_eq_toString_iff⟩
  · intro c hiat hexp
    rw [ofJson?_of_objectText (objectText_json c), ofMembers?_eq_some_iff]
    exact in_printed hiat hexp
  · intro b ms hb
    refine ⟨fun c => ofJson?_eq_some_iff hb, ?_, ?_, ?_, ?_, ?_⟩
    · intro b' ms' hb' hperm
      rw [ofJson?_of_objectText hb', ofJson?_of_objectText hb, ofMembers?_perm hperm]
    · intro b' ms' others hb' hothers hperm
      have hnamed : (named ms').Perm (named ms) := by
        have happend : named (others ++ ms) = named ms := by
          rw [named_append, named_others hothers, List.nil_append]
        exact happend ▸ hperm.filter _
      rw [ofJson?_of_objectText hb', ofJson?_of_objectText hb, ofMembers?_perm hnamed]
    · rintro b' l r rfl habsent hb'
      rw [ofJson?_of_objectText hb', ofJson?_of_objectText hb, ofMembers?_of_absent_roles habsent]
    · intro name hname l m r v w hms
      rw [ofJson?_of_objectText hb, Option.eq_none_iff_forall_ne_some]
      intro c hc
      rcases ((ofMembers?_eq_some_iff ms c).1 hc).sole_or_absent hname with ⟨u, hu⟩ | habsent
      · exact not_sole_of_repeated hms hu
      · exact habsent (name, v) (by simp [hms]) rfl
    · intro name hname habsent
      rw [ofJson?_of_objectText hb, Option.eq_none_iff_forall_ne_some]
      intro c hc
      obtain ⟨v, hv⟩ := ((ofMembers?_eq_some_iff ms c).1 hc).exists_sole hname
      exact habsent _ hv.mem rfl

/-- Claims with signs to escape and the last second of 64 bits, printed backwards behind a member
that has the names of others inside of its value; the same with the subject said twice; and 1.0 and
-0, which are no decimal texts. -/
theorem json_codec_backwards :
    let c : Claims := ⟨"i\u0001\"", "\u00e9😀", 0, 2 ^ 63 - 1, ["USER"]⟩
    let other : Value := .array [.object [("sub", .null), ("sub", .text "x")], .array []]
    let ms := [("roles", Value.texts c.roles), ("exp", .int c.expires), ("iat", .int c.issuedAt),
      ("sub", .text c.subject), ("iss", .text c.issuer)]
    ofJson? c.json.bytes = some c ∧
      ofJson? (Value.object (("Sub", other) :: ms)).bytes = some c ∧
      ofJson? (Value.object (("sub", other) :: ms)).bytes = none ∧
      (¬ ∃ i : ℤ, [49, 46, 48] = Bytes.ofString (toString i)) ∧
      ¬ ∃ i : ℤ, [45, 48] = Bytes.ofString (toString i) := by
  intro c other ms
  obtain ⟨hback, hobject, hdecimal⟩ := json_codec
  have hc : ofJson? c.json.bytes = some c := hback c (by decide) (by decide)
  have hwhole : ∀ name, Value.MembersWhole ((name, other) :: ms) := fun name =>
    ⟨⟨⟨trivial, trivial, trivial⟩, trivial, trivial⟩, Value.allWhole_texts c.roles, trivial,
      trivial, trivial, trivial, trivial⟩
  refine ⟨hc, ?_, ?_, ?_, ?_⟩
  · rw [← hc]
    refine (hobject _ _ (objectText_json c)).2.2.1 _ _ [("Sub", other.node)]
      (objectText_bytes (hwhole "Sub")) (by decide) ?_
    exact (List.reverse_perm (printed c)).append_left [("Sub", other.node)]
  · exact (hobject _ _ (objectText_bytes (hwhole "sub"))).2.2.2.2.1 "sub" (by decide) []
      [("roles", (Value.texts c.roles).node), ("exp", (Value.int c.expires).node),
        ("iat", (Value.int c.issuedAt).node)] _ _ _ rfl
  · rw [hdecimal [49, 46, 48] ⟨false, [49], some [48], none⟩ (by decide)]
    decide
  · rw [hdecimal [45, 48] ⟨true, [48], none, none⟩ (by decide)]
    decide

end Claims

end Turnstile
