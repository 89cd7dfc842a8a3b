import Mathlib.Data.List.TakeWhile
import Mathlib.Data.Nat.Digits.Defs
import Turnstile.Proofs.Text.Case
import Turnstile.Text.Decimal

/-! What a short text says once the blanks around it are off: nothing, a number in decimal digits,
or a word in whatever case. -/

namespace Turnstile.Text

/-! Blanks. -/

def AllBlank (s : String) : Prop := ∀ c ∈ s.toList, isBlank c = true

/-- The text `s` is `t` with blanks around it, as far as they go. -/
structure Trims (s t : String) : Prop where
  between : ∃ l r, s.toList = l ++ t.toList ++ r ∧ (∀ c ∈ l, isBlank c = true) ∧
    ∀ c ∈ r, isBlank c = true
  trimmed : IsTrimmed t.toList

theorem exists_trimChars (cs : List Char) : ∃ l r, cs = l ++ trimChars cs ++ r ∧
    (∀ c ∈ l, isBlank c = true) ∧ ∀ c ∈ r, isBlank c = true := by
  have hfirst := List.takeWhile_append_dropWhile (p := isBlank) (l := cs)
  have hlast := List.takeWhile_append_dropWhile (p := isBlank) (l := (cs.dropWhile isBlank).reverse)
  have hkept : cs.dropWhile isBlank =
      trimChars cs ++ ((cs.dropWhile isBlank).reverse.takeWhile isBlank).reverse := by
    rw [trimChars, ← List.reverse_append, hlast, List.reverse_reverse]
  refine ⟨cs.takeWhile isBlank, ((cs.dropWhile isBlank).reverse.takeWhile isBlank).reverse, ?_,
    fun c hc => List.mem_takeWhile_imp hc, ?_⟩
  · rw [List.append_assoc, ← hkept, hfirst]
  · intro c hc
    exact List.mem_takeWhile_imp (List.mem_reverse.1 hc)

theorem dropWhile_of_blank {l : List Char} (h : ∀ c ∈ l, isBlank c = true) :
    l.dropWhile isBlank = [] :=
  List.dropWhile_eq_nil_iff.2 h

theorem trimChars_append {l cs r : List Char} (hl : ∀ c ∈ l, isBlank c = true)
    (hcs : IsTrimmed cs) (hr : ∀ c ∈ r, isBlank c = true) : trimChars (l ++ cs ++ r) = cs := by
  rcases cs with _ | ⟨c, cs⟩
  · have hall : ∀ c ∈ l ++ [] ++ r, isBlank c = true := by
      intro c hc
      rcases List.mem_append.1 (by simpa using hc) with hc | hc
      · exact hl c hc
      · exact hr c hc
    rw [trimChars, dropWhile_of_blank hall]
    rfl
  · have hfirst : ¬ isBlank c = true := by simp [hcs.first c cs rfl]
    have hrev : ∀ c ∈ r.reverse, isBlank c = true := fun c hc => hr c (List.mem_reverse.1 hc)
    have hkept : (c :: cs).dropWhile isBlank = c :: cs := List.dropWhile_cons_of_neg hfirst
    have hwhole := trimChars_of_isTrimmed hcs
    rw [trimChars, hkept] at hwhole
    rw [trimChars, List.append_assoc, List.dropWhile_append_of_pos hl, List.cons_append,
      List.dropWhile_cons_of_neg hfirst, ← List.cons_append, List.reverse_append,
      List.dropWhile_append_of_pos hrev, hwhole]

theorem trims_iff {s t : String} : Trims s t ↔ trim s = t := by
  refine ⟨?_, ?_⟩
  · intro h
    obtain ⟨l, r, hs, hl, hr⟩ := h.between
    rw [trim, hs, trimChars_append hl h.trimmed hr, String.ofList_toList]
  · rintro rfl
    refine ⟨?_, ?_⟩
    · rw [trim, String.toList_ofList]
      exact exists_trimChars s.toList
    · rw [trim, String.toList_ofList]
      exact isTrimmed_trimChars s.toList

theorem trim_eq_empty_iff (s : String) : trim s = "" ↔ AllBlank s := by
  rw [← trims_iff]
  refine ⟨?_, ?_⟩
  · intro h c hc
    obtain ⟨l, r, hs, hl, hr⟩ := h.between
    rw [hs] at hc
    rcases List.mem_append.1 (by simpa using hc) with hc | hc
    · exact hl c hc
    · exact hr c hc
  · intro h
    exact ⟨⟨s.toList, [], by simp, h, by simp⟩, by simp, by simp⟩

/-! Numbers. -/

/-- The value of decimal digits, the last one counting least. -/
def digitsValue (cs : List Char) : ℕ := Nat.ofDigits 10 (cs.reverse.map fun c => c.toNat - 48)

/-- The text is one decimal digit or more, behind a plus sign or none, of this value. -/
def WritesNat (s : String) (n : ℕ) : Prop := ∃ sign ds, s.toList = sign ++ ds ∧
  (sign = [] ∨ sign = ['+']) ∧ ds ≠ [] ∧ (∀ c ∈ ds, c.isDigit = true) ∧ n = digitsValue ds

theorem isDigit_iff (c : Char) : c.isDigit = true ↔ 48 ≤ c.toNat ∧ c.toNat ≤ 57 := by
  unfold Char.isDigit
  rw [Bool.and_eq_true, decide_eq_true_eq, decide_eq_true_eq]
  exact Iff.rfl

theorem digitsValue_concat (cs : List Char) (c : Char) :
    digitsValue (cs ++ [c]) = 10 * digitsValue cs + (c.toNat - 48) := by
  simp [digitsValue, Nat.ofDigits_cons, Nat.add_comm]

@[simp] theorem digitsValue_toDigits (n : ℕ) : digitsValue (Nat.toDigits 10 n) = n := by
  have hvalue : ∀ (cs : List Char), Nat.ofDigitChars 10 cs 0 = digitsValue cs := by
    intro cs
    simp only [digitsValue, Nat.ofDigits_eq_foldr, List.foldr_map, List.foldr_reverse]
    simp [Nat.ofDigitChars, Nat.add_comm]
  rw [← hvalue, Nat.ofDigitChars_ten_toDigits]

theorem digitChar_of_isDigit {c : Char} (h : c.isDigit = true) :
    c.toNat - 48 < 10 ∧ Nat.digitChar (c.toNat - 48) = c := by
  obtain ⟨hlow, hhigh⟩ := (isDigit_iff c).1 h
  have hlt : c.toNat - 48 < 10 := by omega
  refine ⟨hlt, Char.toNat_inj.1 ?_⟩
  rw [Nat.toNat_digitChar_of_lt_ten hlt]
  omega

/-- A number is written without a zero in front in one way. -/
theorem toDigits_digitsValue {cs : List Char} (hne : cs ≠ []) (hdigit : ∀ c ∈ cs, c.isDigit = true)
    (hzero : cs.head? = some '0' → cs.length ≤ 1) : Nat.toDigits 10 (digitsValue cs) = cs := by
  induction cs using List.reverseRecOn with
  | nil => exact absurd rfl hne
  | append_singleton cs c ih =>
    obtain ⟨hlt, hc⟩ := digitChar_of_isDigit (hdigit c (by simp))
    cases cs with
    | nil => simp [digitsValue, Nat.toDigits_of_lt_base hlt, hc]
    | cons d ds =>
      have hd : d ≠ '0' := by simpa using hzero
      have hds := ih (by simp) (fun e he => hdigit e (List.mem_append_left _ he)) (by simp [hd])
      -- what stands before the last digit is not zero, for it would be the digit zero alone
      have hpos : 0 < digitsValue (d :: ds) := by
        refine Nat.pos_of_ne_zero fun h0 => ?_
        rw [h0, Nat.toDigits_zero] at hds
        exact hd (List.cons.inj hds).1.symm
      rw [digitsValue_concat, ← Nat.toDigits_append_toDigits (by norm_num) hpos hlt, hds,
        Nat.toDigits_of_lt_base hlt, hc]

theorem digits?_eq_some_iff {cs : List Char} {n : ℕ} :
    digits? cs = some n ↔ cs ≠ [] ∧ (∀ c ∈ cs, c.isDigit = true) ∧ n = digitsValue cs := by
  have hvalue : cs.foldl (fun n c => n * 10 + (c.toNat - 48)) 0 = digitsValue cs := by
    simp only [digitsValue, Nat.ofDigits_eq_foldr, List.foldr_map, List.foldr_reverse]
    simp [Nat.mul_comm, Nat.add_comm]
  have hguard : (cs.isEmpty || !cs.all Char.isDigit) = true ↔
      ¬ (cs ≠ [] ∧ ∀ c ∈ cs, c.isDigit = true) := by
    rw [Bool.or_eq_true, List.isEmpty_iff, Bool.not_eq_true', ← Bool.not_eq_true, List.all_eq_true]
    tauto
  rw [digits?, hvalue, ← and_assoc]
  split_ifs with h
  · exact ⟨by simp, fun hall => absurd hall.1 (hguard.1 h)⟩
  · rw [Option.some.injEq, eq_comm]
    exact (and_iff_right (not_not.1 (mt hguard.2 h))).symm

theorem natUpTo?_eq_some_iff {limit n : ℕ} {s : String} :
    natUpTo? limit s = some n ↔ WritesNat s n ∧ n ≤ limit := by
  simp only [natUpTo?, Option.filter_eq_some_iff, digits?_eq_some_iff, decide_eq_true_eq]
  refine and_congr_left fun _ => ⟨?_, ?_⟩
  · intro h
    split at h
    · rename_i rest hs
      exact ⟨['+'], rest, hs, Or.inr rfl, h⟩
    · exact ⟨[], s.toList, rfl, Or.inl rfl, h⟩
  · rintro ⟨sign, ds, hs, hsign, hne, hdigit, hn⟩
    rcases hsign with rfl | rfl
    · split
      · rename_i rest hs'
        rw [hs', List.nil_append] at hs
        exact absurd (hdigit '+' (hs ▸ List.mem_cons_self)) (by decide)
      · rw [hs]
        exact ⟨hne, hdigit, hn⟩
    · rw [hs]
      exact ⟨hne, hdigit, hn⟩

theorem WritesNat.unique {s : String} {n m : ℕ} (hn : WritesNat s n) (hm : WritesNat s m) : n = m := by
  have hn' := natUpTo?_eq_some_iff.2 ⟨hn, le_max_left n m⟩
  have hm' := natUpTo?_eq_some_iff.2 ⟨hm, le_max_right n m⟩
  exact Option.some.inj (hn'.symm.trans hm')

/-! Words. -/

/-- The letters of a word in small letters, each in either case. -/
def Spells (s word : String) : Prop :=
  List.Forall₂ (fun c d : Char => c = d ∨ c.toNat + 32 = d.toNat) s.toList word.toList

theorem toNat_toLower (c : Char) :
    c.toLower.toNat = if 65 ≤ c.toNat ∧ c.toNat ≤ 90 then c.toNat + 32 else c.toNat := by
  have hupper : (c.val ≥ 'A'.val ∧ c.val ≤ 'Z'.val) ↔ 65 ≤ c.toNat ∧ c.toNat ≤ 90 := Iff.rfl
  unfold Char.toLower
  split_ifs with h h' h'
  · show (c.val + 32).toNat = c.val.toNat + 32
    have hsmall : c.val.toNat ≤ 90 := h'.2
    rw [UInt32.toNat_add]
    exact Nat.mod_eq_of_lt (by simp; omega)
  · exact absurd (hupper.1 h) h'
  · exact absurd (hupper.2 h') h
  · rfl

theorem toLower_eq_iff {c d : Char} (hd : d.isLower = true) :
    c.toLower = d ↔ c = d ∨ c.toNat + 32 = d.toNat := by
  have hlow : 97 ≤ d.toNat ∧ d.toNat ≤ 122 := by
    unfold Char.isLower at hd
    simp only [Bool.and_eq_true, decide_eq_true_eq] at hd
    exact hd
  rw [← Char.toNat_inj, ← Char.toNat_inj, toNat_toLower]
  split_ifs with h <;> omega

theorem lowercaseAscii_eq_iff {s word : String} (hword : ∀ d ∈ word.toList, d.isLower = true) :
    lowercaseAscii s = word ↔ Spells s word := by
  rw [Spells, lowercaseAscii, ← String.toList_inj, String.toList_map]
  generalize s.toList = cs
  generalize word.toList = ds at hword
  induction cs generalizing ds with
  | nil => cases ds <;> simp
  | cons c cs ih =>
    cases ds with
    | nil => simp
    | cons d ds =>
      obtain ⟨hd, hds⟩ := List.forall_mem_cons.1 hword
      rw [List.map_cons, List.cons.injEq, List.forall₂_cons, toLower_eq_iff hd, ih ds hds]

end Turnstile.Text
