import Mathlib.Tactic
import Turnstile.Net.Address
import Turnstile.Proofs.Bytes
import Turnstile.Proofs.Text.Scalar

/-! The numbers in the text of an address. Every form of them is read up to where its digits end:
octets in the one text that a number has without zeros in front, groups as one to four hexadecimal
digits, ports and scopes as any decimal digits. -/

namespace Turnstile.Net

variable {cs ds rest : List Char} {c : Char} {n d : ℕ} {f : NumberForm}

/-! Digits. -/

/-- The digit of this value, a letter in either case. -/
def IsHexDigit (c : Char) (d : ℕ) : Prop :=
  d < 16 ∧ (c = Nat.digitChar d ∨ c = (Nat.digitChar d).toUpper)

theorem digitChar_facts : ∀ d < 16, hexValue? (Nat.digitChar d) = some d ∧
    hexValue? (Nat.digitChar d).toUpper = some d ∧
    (Nat.digitChar d).toNat = (if d < 10 then 48 + d else 87 + d) ∧
    (Nat.digitChar d).toUpper.toNat = (if d < 10 then 48 + d else 55 + d) := by
  decide

theorem hexValue?_eq_some_iff : hexValue? c = some d ↔ IsHexDigit c d := by
  refine ⟨?_, ?_⟩
  · intro h
    have hrange : (48 ≤ c.toNat ∧ c.toNat ≤ 57 ∧ c.toNat - 48 = d) ∨
        (97 ≤ c.toNat ∧ c.toNat ≤ 102 ∧ c.toNat - 87 = d) ∨
        (65 ≤ c.toNat ∧ c.toNat ≤ 70 ∧ c.toNat - 55 = d) := by
      unfold hexValue? at h
      split_ifs at h with hdigit hlower hupper
      · exact Or.inl ⟨hdigit.1, hdigit.2, Option.some.inj h⟩
      · exact Or.inr (Or.inl ⟨hlower.1, hlower.2, Option.some.inj h⟩)
      · exact Or.inr (Or.inr ⟨hupper.1, hupper.2, Option.some.inj h⟩)
    have hd : d < 16 := by omega
    obtain ⟨-, -, hlower, hupper⟩ := digitChar_facts d hd
    refine ⟨hd, ?_⟩
    rw [← Char.toNat_inj, ← Char.toNat_inj, hlower, hupper]
    split_ifs <;> omega
  · rintro ⟨hd, rfl | rfl⟩
    · exact (digitChar_facts d hd).1
    · exact (digitChar_facts d hd).2.1

@[simp] theorem hexValue?_point : hexValue? '.' = none := by decide

@[simp] theorem hexValue?_colon : hexValue? ':' = none := by decide

theorem hexValue?_of_isDigit (h : c.isDigit = true) : hexValue? c = some (c.toNat - 48) := by
  have hrange : '0' ≤ c ∧ c ≤ '9' := (Text.isDigit_iff c).1 h
  rw [hexValue?, if_pos hrange]

theorem isSome_hexValue? (h : c.isDigit = true) : (hexValue? c).isSome = true := by
  rw [hexValue?_of_isDigit h, Option.isSome_some]

/-! Numbers. -/

def NumberForm.valueOf (f : NumberForm) (ds : List Char) : ℕ :=
  Nat.ofDigits f.base (ds.reverse.map fun c => (hexValue? c).getD 0)

/-- The text is a number of the form. -/
structure NumberForm.Takes (f : NumberForm) (ds : List Char) (n : ℕ) : Prop where
  ne_nil : ds ≠ []
  digit : ∀ c ∈ ds, f.isDigit c = true
  length : ∀ m ∈ f.maxDigits, ds.length ≤ m
  zero : f.leadingZero = false → ds.head? = some '0' → ds.length ≤ 1
  limit : n ≤ f.limit
  value : n = f.valueOf ds

theorem number?_eq_some_iff : number? f cs = some (n, rest) ↔
    ∃ ds, cs = ds ++ rest ∧ f.Takes ds n ∧ ∀ c ∈ rest.head?, f.isDigit c = false := by
  have hvalue : ∀ ds : List Char,
      ds.foldl (fun n c => n * f.base + (hexValue? c).getD 0) 0 = f.valueOf ds := by
    intro ds
    simp only [NumberForm.valueOf, Nat.ofDigits_eq_foldr, List.foldr_map, List.foldr_reverse]
    simp [Nat.mul_comm, Nat.add_comm]
  have hguard : ∀ ds : List Char, (ds.isEmpty || f.maxDigits.any (· < ds.length) ||
      (!f.leadingZero && ds.head? == some '0' && 1 < ds.length) || f.limit < f.valueOf ds) = true ↔
      ¬ (ds ≠ [] ∧ (∀ m ∈ f.maxDigits, ds.length ≤ m) ∧
        (f.leadingZero = false → ds.head? = some '0' → ds.length ≤ 1) ∧
        f.valueOf ds ≤ f.limit) := by
    intro ds
    simp only [Bool.or_eq_true, Bool.and_eq_true, List.isEmpty_iff, Option.any_eq_true,
      decide_eq_true_eq, Bool.not_eq_true', beq_iff_eq, Option.mem_def, not_and_or, not_forall,
      not_le, ne_eq, not_not]
    simp only [exists_prop, or_assoc, and_assoc]
  obtain ⟨ds, rest', hspan⟩ : ∃ ds rest', cs.span f.isDigit = (ds, rest') := ⟨_, _, rfl⟩
  obtain ⟨hcs, hdigit, hrest'⟩ := span_eq_iff.1 hspan
  simp only [number?, hspan, hvalue]
  refine ⟨?_, ?_⟩
  · intro h
    split_ifs at h with hfit
    obtain ⟨hne, hlength, hzero, hlimit⟩ := not_not.1 (mt (hguard ds).2 hfit)
    obtain ⟨rfl, rfl⟩ := Prod.mk.inj (Option.some.inj h)
    exact ⟨ds, hcs, ⟨hne, hdigit, hlength, hzero, hlimit, rfl⟩, hrest'⟩
  · rintro ⟨ds', hcs', htakes, hrest⟩
    have hcut := span_eq_iff.2 ⟨hcs', htakes.digit, hrest⟩
    obtain ⟨rfl, rfl⟩ := Prod.mk.inj (hspan.symm.trans hcut)
    obtain rfl := htakes.value
    rw [if_neg fun hunfit => (hguard ds).1 hunfit
      ⟨htakes.ne_nil, htakes.length, htakes.zero, htakes.limit⟩]

/-! The forms. -/

/-- Decimal digits, one or more, of a value up to the limit. -/
structure IsNumber (limit : ℕ) (ds : List Char) (n : ℕ) : Prop where
  ne_nil : ds ≠ []
  digit : ∀ c ∈ ds, c.isDigit = true
  value : n = Text.digitsValue ds
  limit : n ≤ limit

theorem valueOf_of_digits {f : NumberForm} (hbase : f.base = 10)
    (h : ∀ c ∈ ds, c.isDigit = true) : f.valueOf ds = Text.digitsValue ds := by
  have hmap : (ds.reverse.map fun c => (hexValue? c).getD 0) =
      ds.reverse.map fun c => c.toNat - 48 := by
    refine List.map_congr_left fun c hc => ?_
    rw [hexValue?_of_isDigit (h c (List.mem_reverse.1 hc)), Option.getD_some]
  rw [NumberForm.valueOf, Text.digitsValue, hbase, hmap]

theorem takes_decimal_iff {limit : ℕ} :
    (NumberForm.mk Char.isDigit 10 none true limit).Takes ds n ↔ IsNumber limit ds n := by
  refine ⟨?_, ?_⟩
  · intro h
    exact ⟨h.ne_nil, h.digit, h.value.trans (valueOf_of_digits rfl h.digit), h.limit⟩
  · intro h
    exact ⟨h.ne_nil, h.digit, by simp, by simp, h.limit,
      h.value.trans (valueOf_of_digits rfl h.digit).symm⟩

theorem length_toDigits_of_zero : ∀ n < 256, (Nat.toDigits 10 n).head? = some '0' →
    (Nat.toDigits 10 n).length ≤ 1 := by
  decide +kernel

theorem takes_octet_iff : octetForm.Takes ds n ↔ n ≤ 255 ∧ ds = Nat.toDigits 10 n := by
  refine ⟨?_, ?_⟩
  · intro h
    refine ⟨h.limit, ?_⟩
    rw [h.value, valueOf_of_digits rfl h.digit]
    exact (Text.toDigits_digitsValue h.ne_nil h.digit (h.zero rfl)).symm
  · rintro ⟨hn, rfl⟩
    have hdigit : ∀ c ∈ Nat.toDigits 10 n, c.isDigit = true := fun c hc =>
      Nat.isDigit_of_mem_toDigits (by norm_num) le_rfl hc
    refine ⟨Nat.toDigits_ne_nil, hdigit, ?_, ?_, hn, ?_⟩
    · rintro m ⟨⟩
      exact (Nat.length_toDigits_le_iff (by norm_num) (by norm_num)).2 (by omega)
    · exact fun _ => length_toDigits_of_zero n (by omega)
    · rw [valueOf_of_digits rfl hdigit, Text.digitsValue_toDigits]

/-- One to four hexadecimal digits. -/
def IsGroup (cs : List Char) (g : ℕ) : Prop := ∃ ds, List.Forall₂ IsHexDigit cs ds ∧
  ds ≠ [] ∧ ds.length ≤ 4 ∧ g = Nat.ofDigits 16 ds.reverse

theorem forall₂_isHexDigit_iff {ds : List ℕ} : List.Forall₂ IsHexDigit cs ds ↔
    (∀ c ∈ cs, (hexValue? c).isSome = true) ∧ ds = cs.map fun c => (hexValue? c).getD 0 := by
  induction cs generalizing ds with
  | nil => simp
  | cons c cs ih =>
    cases ds with
    | nil => simp
    | cons d ds =>
      rw [List.forall₂_cons, ih, ← hexValue?_eq_some_iff, List.forall_mem_cons, List.map_cons,
        List.cons.injEq]
      cases hexValue? c with
      | none => simp
      | some d' =>
        refine ⟨?_, ?_⟩
        · rintro ⟨hd, hcs, hds⟩
          exact ⟨⟨rfl, hcs⟩, (Option.some.inj hd).symm, hds⟩
        · rintro ⟨⟨-, hcs⟩, hd, hds⟩
          exact ⟨congrArg some hd.symm, hcs, hds⟩

theorem takes_group_iff {g : ℕ} : groupForm.Takes cs g ↔ IsGroup cs g := by
  have hvalue : groupForm.valueOf cs =
      Nat.ofDigits 16 (cs.map fun c => (hexValue? c).getD 0).reverse := by
    rw [NumberForm.valueOf, List.map_reverse]
    rfl
  refine ⟨?_, ?_⟩
  · intro h
    refine ⟨_, forall₂_isHexDigit_iff.2 ⟨h.digit, rfl⟩, ?_, ?_, h.value.trans hvalue⟩
    · simpa using h.ne_nil
    · simpa using h.length 4 rfl
  · rintro ⟨ds, hds, hne, hlength, rfl⟩
    obtain ⟨hdigit, rfl⟩ := forall₂_isHexDigit_iff.1 hds
    refine ⟨by simpa using hne, hdigit, ?_, by simp [groupForm], ?_, hvalue.symm⟩
    · rintro m ⟨⟩
      simpa using hlength
    · have hlt : ∀ d ∈ (cs.map fun c => (hexValue? c).getD 0).reverse, d < 16 := by
        intro d hd
        obtain ⟨c, hc, rfl⟩ := List.mem_map.1 (List.mem_reverse.1 hd)
        obtain ⟨v, hv⟩ := Option.isSome_iff_exists.1 (hdigit c hc)
        rw [hv]
        exact (hexValue?_eq_some_iff.1 hv).1
      have hpow := Nat.ofDigits_lt_base_pow_length (by norm_num) hlt
      have hfour := Nat.pow_le_pow_right (n := 16) (by norm_num) hlength
      rw [List.length_reverse] at hpow
      have hlimit : groupForm.limit = 65535 := rfl
      omega

theorem hexValue?_of_mem_toDigits (h : c ∈ Nat.toDigits 10 n) : (hexValue? c).isSome = true :=
  isSome_hexValue? (Nat.isDigit_of_mem_toDigits (by norm_num) le_rfl h)

theorem isDigit_of_hexValue? (h : hexValue? c = none) : c.isDigit = false := by
  rw [← Bool.not_eq_true]
  intro hdigit
  simpa [h] using isSome_hexValue? hdigit

/-! Reading. -/

theorem number?_octet_iff : number? octetForm cs = some (n, rest) ↔
    n ≤ 255 ∧ cs = Nat.toDigits 10 n ++ rest ∧ ∀ c ∈ rest.head?, c.isDigit = false := by
  rw [number?_eq_some_iff]
  refine ⟨?_, ?_⟩
  · rintro ⟨ds, rfl, htakes, hrest⟩
    obtain ⟨hn, rfl⟩ := takes_octet_iff.1 htakes
    exact ⟨hn, rfl, hrest⟩
  · rintro ⟨hn, rfl, hrest⟩
    exact ⟨_, rfl, takes_octet_iff.2 ⟨hn, rfl⟩, hrest⟩

theorem number?_group_iff {g : ℕ} : number? groupForm cs = some (g, rest) ↔
    ∃ text, cs = text ++ rest ∧ IsGroup text g ∧ ∀ c ∈ rest.head?, hexValue? c = none := by
  have hdigit : ∀ c, groupForm.isDigit c = false ↔ hexValue? c = none := fun c =>
    Option.isSome_eq_false_iff.trans Option.isNone_iff_eq_none
  simp only [number?_eq_some_iff, takes_group_iff, hdigit]

theorem number?_decimal_iff {limit : ℕ} :
    number? ⟨Char.isDigit, 10, none, true, limit⟩ cs = some (n, rest) ↔
      ∃ ds, cs = ds ++ rest ∧ IsNumber limit ds n ∧ ∀ c ∈ rest.head?, c.isDigit = false := by
  simp only [number?_eq_some_iff, takes_decimal_iff]

theorem isNumber_toDigits {limit : ℕ} (h : n ≤ limit) : IsNumber limit (Nat.toDigits 10 n) n :=
  ⟨Nat.toDigits_ne_nil, fun _ hc => Nat.isDigit_of_mem_toDigits (by norm_num) le_rfl hc,
    (Text.digitsValue_toDigits n).symm, h⟩

end Turnstile.Net
