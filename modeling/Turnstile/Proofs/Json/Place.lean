import Turnstile.Proofs.Json.Members

/-! Where the parts of a text stand in it: every token has its own bytes there, a member of an
object has the bytes of its value behind those of its key, and a whole number those of its decimal
text. -/

namespace Turnstile.Json

/-! Whole numbers. -/

namespace Numeral

/-- Digits that start with a zero only if they are no more than that. -/
structure IsPlain (ds : Bytes) : Prop where
  ne_nil : ds ≠ []
  digit : ∀ b ∈ ds, Bytes.isDigit b = true
  head : ds = [48] ∨ ds.head? ≠ some 48

theorem ofNat_digit {b : UInt8} (h : Bytes.isDigit b = true) :
    b.toNat - 48 < 10 ∧ UInt8.ofNat (48 + (b.toNat - 48)) = b := by
  apply Bytes.of_forall_ofNat (n := 256) (P := fun b => Bytes.isDigit b = true →
    b.toNat - 48 < 10 ∧ UInt8.ofNat (48 + (b.toNat - 48)) = b) (by decide +kernel) b.toNat_lt h

theorem digitsValue_concat (ds : Bytes) (d : UInt8) :
    digitsValue (ds ++ [d]) = digitsValue ds * 10 + (d.toNat - 48) := by
  simp [digitsValue]

/-- A number is written in one way. -/
theorem IsPlain.digits_eq {ds : Bytes} (h : IsPlain ds) : digits (digitsValue ds) = ds := by
  induction ds using List.reverseRecOn with
  | nil => exact absurd rfl h.ne_nil
  | append_singleton ds d ih =>
    obtain ⟨hlt, hd⟩ := ofNat_digit (h.digit d (by simp))
    rw [digitsValue_concat, Numeral.digits_eq]
    cases ds with
    | nil => simp [digitsValue, hlt, hd]
    | cons e es =>
      have he : e ≠ 48 := by simpa using h.head
      have hes := ih ⟨by simp, fun b hb => h.digit b (List.mem_append_left _ hb), by simp [he]⟩
      -- what stands before the last digit is not zero, for it would be the digit zero alone
      have hpos : digitsValue (e :: es) ≠ 0 := by
        intro h0
        have hzero : digits 0 = [48] := rfl
        rw [h0, hzero] at hes
        exact he (List.cons.inj hes).1.symm
      have hdiv : (digitsValue (e :: es) * 10 + (d.toNat - 48)) / 10 = digitsValue (e :: es) := by
        omega
      have hmod : (digitsValue (e :: es) * 10 + (d.toNat - 48)) % 10 = d.toNat - 48 := by omega
      rw [if_neg (by omega), hdiv, hmod, hes, hd]

theorem digits?_eq_some {b ds rest : Bytes} (h : digits? b = some (ds, rest)) :
    b = ds ++ rest ∧ ds ≠ [] ∧ ∀ d ∈ ds, Bytes.isDigit d = true := by
  unfold digits? at h
  split at h
  · simp at h
  · rename_i ds' rest' hne hspan
    obtain ⟨rfl, rfl⟩ := Prod.mk.inj (Option.some.inj h)
    obtain ⟨hb, hall, -⟩ := span_eq_iff.1 hspan
    exact ⟨hb, hne, hall⟩

theorem whole?_eq_some {b ds rest : Bytes} (h : whole? b = some (ds, rest)) :
    b = ds ++ rest ∧ IsPlain ds := by
  obtain ⟨hdigits, hzero⟩ := Option.filter_eq_some_iff.1 h
  obtain ⟨hb, hne, hall⟩ := digits?_eq_some hdigits
  exact ⟨hb, hne, hall, by simpa using hzero⟩

theorem fraction?_eq_none {b rest : Bytes} (h : fraction? b = some (none, rest)) : rest = b := by
  unfold fraction? at h
  split at h
  · simp at h
  · exact (Prod.mk.inj (Option.some.inj h)).2.symm

theorem exponent?_eq_none {b rest : Bytes} (h : exponent? b = some (none, rest)) : rest = b := by
  unfold exponent? at h
  split at h
  · exact (Prod.mk.inj (Option.some.inj h)).2.symm
  · split_ifs at h
    · simp at h
    · exact (Prod.mk.inj (Option.some.inj h)).2.symm

/-- A number without fraction and exponent is a sign, if any, and digits. -/
theorem eq_of_ofBytes? {w : Bytes} {n : Numeral} (h : ofBytes? w = some n)
    (hf : n.fraction = none) (he : n.exponent = none) :
    w = (if n.negative then [45] else []) ++ n.whole ∧ IsPlain n.whole := by
  unfold ofBytes? at h
  split at h
  rename_i negative rest hsign
  have hw : w = (if negative then [45] else []) ++ rest := by
    split at hsign <;> obtain ⟨rfl, rfl⟩ := Prod.mk.inj hsign <;> rfl
  simp only [Option.bind_eq_bind, Option.bind_eq_some_iff] at h
  obtain ⟨⟨whole, b⟩, hwhole, ⟨fraction, b'⟩, hfraction, ⟨exponent, b''⟩, hexponent, h⟩ := h
  split_ifs at h with hend
  obtain rfl := Option.some.inj h
  dsimp only at hf he hwhole hfraction hexponent hend ⊢
  subst hf he
  obtain rfl := List.isEmpty_iff.1 hend
  obtain rfl := exponent?_eq_none hexponent
  obtain rfl := fraction?_eq_none hfraction
  obtain ⟨rfl, hplain⟩ := whole?_eq_some hwhole
  exact ⟨by rw [hw, List.append_nil], hplain⟩

theorem int?_eq_some {n : Numeral} {i : ℤ} (h : n.int? = some i) : n.fraction = none ∧
    n.exponent = none ∧ (n.negative = true ↔ i < 0) ∧ digitsValue n.whole = i.natAbs := by
  simp only [int?] at h
  split_ifs at h with hparts hneg hzero
  all_goals
    obtain rfl := Option.some.inj h
    simp only [Bool.or_eq_true, not_or, Bool.not_eq_true, Option.isSome_eq_false_iff,
      Option.isNone_iff_eq_none] at hparts
    refine ⟨hparts.1, hparts.2, ?_, by omega⟩
  · exact iff_of_true hneg (by omega)
  · exact iff_of_false hneg (by omega)

/-- A number that is read as whole is written as its decimal text. -/
theorem eq_toString_of_int? {w : Bytes} {n : Numeral} {i : ℤ} (h : ofBytes? w = some n)
    (hi : n.int? = some i) : w = Bytes.ofString (toString i) := by
  obtain ⟨hf, he, hneg, hvalue⟩ := int?_eq_some hi
  obtain ⟨hw, hplain⟩ := eq_of_ofBytes? h hf he
  have hdigits := hplain.digits_eq
  rw [hvalue] at hdigits
  simp only [hw, bytes_toString, hneg, hdigits]

/-- A number is written as a decimal text if it has no fraction and no exponent and is not a
negative zero. -/
theorem exists_eq_toString_iff {w : Bytes} {n : Numeral} (h : ofBytes? w = some n) :
    (∃ i : ℤ, w = Bytes.ofString (toString i)) ↔ n.fraction = none ∧ n.exponent = none ∧
      ¬ (n.negative = true ∧ digitsValue n.whole = 0) := by
  refine ⟨?_, ?_⟩
  · rintro ⟨i, rfl⟩
    rw [ofBytes?_ofInt] at h
    obtain rfl := Option.some.inj h
    refine ⟨rfl, rfl, ?_⟩
    rintro ⟨hneg, hzero⟩
    simp only [ofInt, decide_eq_true_eq, digitsValue_digits] at hneg hzero
    omega
  · rintro ⟨hf, he, hzero⟩
    have hi : ∃ i, n.int? = some i := by
      simp only [int?, hf, he, Option.isSome_none, Bool.or_self, Bool.false_eq_true, if_false]
      split_ifs with hneg h0
      · exact absurd ⟨hneg, h0⟩ hzero
      · exact ⟨_, rfl⟩
      · exact ⟨_, rfl⟩
    obtain ⟨i, hi⟩ := hi
    exact ⟨i, eq_toString_of_int? h hi⟩

end Numeral

/-! Tokens. -/

namespace Token

/-- The bytes of one token, without blanks. -/
inductive Spells : Token → Bytes → Prop
  | mark {b : UInt8} {t : Token} (hb : punctuation? b = some t) : Spells t [b]
  | word {w : Bytes} {t : Token} (hw : ∀ b ∈ w, isWordByte b = true) (ht : ofWord? w = some t) :
    Spells t w
  | text {ps : List Piece} {w : Bytes} (hw : Piece.SpellsAll ps w) :
    Spells (.text ps) (34 :: w ++ [34])

/-- Every token stands somewhere, between texts of those before it and of those behind it. -/
theorem Written.place {ts us : List Token} {t : Token} {b : Bytes} (h : Written (ts ++ t :: us) b) :
    ∃ before w behind, b = before ++ w ++ behind ∧ Written ts before ∧ t.Spells w ∧
      Written us behind := by
  generalize hall : ts ++ t :: us = all at h
  induction h generalizing ts with
  | nil => simp at hall
  | space hb _ ih =>
    obtain ⟨before, w, behind, rfl, hbefore, hw, hbehind⟩ := ih hall
    exact ⟨_ :: before, w, behind, rfl, .space hb hbefore, hw, hbehind⟩
  | mark hb h ih =>
    rcases ts with _ | ⟨t', ts⟩
    · obtain ⟨rfl, rfl⟩ := List.cons.inj hall
      exact ⟨[], [_], _, rfl, .nil, .mark hb, h⟩
    · obtain ⟨rfl, htail⟩ := List.cons.inj hall
      obtain ⟨before, w, behind, rfl, hbefore, hw, hbehind⟩ := ih htail
      exact ⟨_ :: before, w, behind, rfl, .mark hb hbefore, hw, hbehind⟩
  | word hw' ht he h ih =>
    rcases ts with _ | ⟨t', ts⟩
    · obtain ⟨rfl, rfl⟩ := List.cons.inj hall
      exact ⟨[], _, _, rfl, .nil, .word hw' ht, h⟩
    · obtain ⟨rfl, htail⟩ := List.cons.inj hall
      obtain ⟨before, w, behind, rfl, hbefore, hw, hbehind⟩ := ih htail
      -- the word ends where it did, or where the first part does
      have hends : Ends before := by
        cases before with
        | nil => trivial
        | cons b before => exact he
      exact ⟨_ ++ before, w, behind, by simp, .word hw' ht hends hbefore, hw, hbehind⟩
  | text hw' h ih =>
    rcases ts with _ | ⟨t', ts⟩
    · obtain ⟨rfl, rfl⟩ := List.cons.inj hall
      exact ⟨[], _, _, by simp, .nil, .text hw', h⟩
    · obtain ⟨rfl, htail⟩ := List.cons.inj hall
      obtain ⟨before, w, behind, rfl, hbefore, hw, hbehind⟩ := ih htail
      exact ⟨_, w, behind, by simp, .text hw' hbefore, hw, hbehind⟩

theorem ofBytes?_of_spells {n : Numeral} {w : Bytes} (h : Spells (.number n) w) :
    Numeral.ofBytes? w = some n := by
  cases h with
  | mark hb =>
    unfold punctuation? at hb
    split_ifs at hb <;> simp at hb
  | word hw ht =>
    unfold ofWord? at ht
    split_ifs at ht <;> simp at ht
    exact ht

end Token

/-! Members. -/

namespace Node

theorem exists_memberTokens {key : List Piece} {v : Node} {ms : List (List Piece × Node)}
    (h : (key, v) ∈ ms) :
    ∃ ts us, memberTokens ms = ts ++ .text key :: .colon :: v.tokens ++ us := by
  induction ms with
  | nil => simp at h
  | cons m ms ih =>
    obtain ⟨key', v'⟩ := m
    rcases List.mem_cons.1 h with h | h
    · obtain ⟨rfl, rfl⟩ := Prod.mk.inj h
      exact ⟨[.comma], memberTokens ms, by simp [memberTokens]⟩
    · obtain ⟨ts, us, hms⟩ := ih h
      exact ⟨.comma :: .text key' :: .colon :: v'.tokens ++ ts, us, by simp [memberTokens, hms]⟩

/-- The value of a member stands behind its key and a colon. -/
theorem exists_tokens_object {key : List Piece} {v : Node} {ms : List (List Piece × Node)}
    (h : (key, v) ∈ ms) :
    ∃ ts us, (object ms).tokens = ts ++ .text key :: .colon :: v.tokens ++ us := by
  rcases ms with _ | ⟨⟨key', v'⟩, ms⟩
  · simp at h
  · rcases List.mem_cons.1 h with h | h
    · obtain ⟨rfl, rfl⟩ := Prod.mk.inj h
      exact ⟨[.openObject], memberTokens ms, by simp [tokens]⟩
    · obtain ⟨ts, us, hms⟩ := exists_memberTokens h
      exact ⟨.openObject :: .text key' :: .colon :: v'.tokens ++ ts, us, by simp [tokens, hms]⟩

theorem exists_key_of_members? {raw : List (List Piece × Node)} {ms : List (String × Node)}
    (h : (object raw).members? = some ms) {name : String} {v : Node} (hm : (name, v) ∈ ms) :
    ∃ key, (key, v) ∈ raw ∧ textOf? key = some name := by
  simp only [members?] at h
  induction raw generalizing ms with
  | nil =>
    obtain rfl := Option.some.inj h
    simp at hm
  | cons m raw ih =>
    obtain ⟨key, v'⟩ := m
    simp only [List.mapM_cons, Option.bind_eq_bind, Option.bind_eq_some_iff, Option.map_eq_some_iff]
      at h
    obtain ⟨_, ⟨name', hname, rfl⟩, ms', hms, h⟩ := h
    obtain rfl := Option.some.inj h
    rcases List.mem_cons.1 hm with hm | hm
    · obtain ⟨rfl, rfl⟩ := Prod.mk.inj hm
      exact ⟨key, List.mem_cons_self, hname⟩
    · obtain ⟨key', hmem, hkey⟩ := ih hms hm
      exact ⟨key', List.mem_cons_of_mem _ hmem, hkey⟩

end Node

/-- Behind the name and a colon, the text has the number written `w`. -/
def NumberAt (b : Bytes) (name : String) (n : Numeral) (w : Bytes) : Prop :=
  ∃ ts key before behind us, b = before ++ w ++ behind ∧ textOf? key = some name ∧
    Token.Written (ts ++ [.text key, .colon]) before ∧ Numeral.ofBytes? w = some n ∧
    Token.Written us behind

theorem ObjectText.exists_numberAt {b : Bytes} {ms : List (String × Node)} {name : String}
    {n : Numeral} (h : ObjectText b ms) (hm : (name, .number n) ∈ ms) :
    ∃ w, NumberAt b name n w := by
  obtain ⟨node, hwritten, hms⟩ := h
  obtain ⟨raw, rfl⟩ : ∃ raw, node = .object raw := by
    cases node <;> first | exact ⟨_, rfl⟩ | simp [Node.members?] at hms
  obtain ⟨key, hraw, hkey⟩ := Node.exists_key_of_members? hms hm
  obtain ⟨ts, us, htokens⟩ := Node.exists_tokens_object hraw
  have hplace : Token.Written ((ts ++ [.text key, .colon]) ++ .number n :: us) b := by
    simpa [htokens, Node.tokens] using hwritten
  obtain ⟨before, w, behind, hb, hbefore, hw, hbehind⟩ := hplace.place
  exact ⟨w, ts, key, before, behind, us, hb, hkey, hbefore, Token.ofBytes?_of_spells hw, hbehind⟩

end Turnstile.Json
