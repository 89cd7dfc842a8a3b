import Mathlib.Data.List.TakeWhile
import Mathlib.Tactic
import Turnstile.Bytes

/-! Bytes as numbers in base 256, in both directions, the cuts at separators, and the bytes of a
text. -/

namespace Turnstile

/-! Cuts. -/

section

variable {α : Type} {as front rest : List α}

/-- A list is cut where its first part ends: behind it the property holds no more. -/
theorem span_eq_iff {p : α → Bool} : as.span p = (front, rest) ↔
    as = front ++ rest ∧ (∀ a ∈ front, p a = true) ∧ ∀ a ∈ rest.head?, p a = false := by
  rw [List.span_eq_takeWhile_dropWhile, Prod.mk.injEq]
  refine ⟨?_, ?_⟩
  · rintro ⟨rfl, rfl⟩
    refine ⟨List.takeWhile_append_dropWhile.symm, fun a ha => List.mem_takeWhile_imp ha, ?_⟩
    intro a ha
    have hhead := List.head?_dropWhile_not p as
    rw [Option.mem_def.1 ha] at hhead
    exact hhead
  · rintro ⟨rfl, hfront, hrest⟩
    rw [List.takeWhile_append_of_pos hfront, List.dropWhile_append_of_pos hfront]
    cases rest with
    | nil => simp
    | cons a rest =>
      have ha : p a = false := hrest a rfl
      simp [ha]

variable [BEq α] [LawfulBEq α] {mark a : α}

theorem span_ne_eq_iff : as.span (· != mark) = (front, a :: rest) ↔
    a = mark ∧ as = front ++ mark :: rest ∧ mark ∉ front := by
  rw [span_eq_iff]
  refine ⟨?_, ?_⟩
  · rintro ⟨has, hfront, ha⟩
    obtain rfl : a = mark := by simpa using ha a rfl
    exact ⟨rfl, has, fun hmem => by simpa using hfront a hmem⟩
  · rintro ⟨rfl, has, hfront⟩
    refine ⟨has, fun b hb => ?_, by simp⟩
    rw [bne_iff_ne]
    rintro rfl
    exact hfront hb

theorem span_ne_of_notMem (h : mark ∉ as) : as.span (· != mark) = (as, []) := by
  refine span_eq_iff.2 ⟨by simp, fun b hb => ?_, by simp⟩
  rw [bne_iff_ne]
  rintro rfl
  exact h hb

/-- The first cut from behind is the last one. -/
theorem span_reverse (h : mark ∉ rest) : (front ++ mark :: rest).reverse.span (· != mark) =
    (rest.reverse, mark :: front.reverse) :=
  span_ne_eq_iff.2 ⟨rfl, by simp, by simpa using h⟩

/-- A list is cut in one way at the last one of its marks. -/
theorem last_cut_inj {front' rest' : List α} (h : front ++ mark :: rest = front' ++ mark :: rest')
    (hrest : mark ∉ rest) (hrest' : mark ∉ rest') : front = front' ∧ rest = rest' := by
  have hcut : (front ++ mark :: rest).reverse.span (· != mark) = _ := span_reverse hrest
  rw [h, span_reverse hrest', Prod.mk.injEq, List.cons.injEq, List.reverse_inj,
    List.reverse_inj] at hcut
  exact ⟨hcut.2.2.symm, hcut.1.symm⟩

end

namespace Bytes

/-- A fact about small bytes, checked value by value. -/
theorem of_forall_ofNat {P : UInt8 → Prop} {n : ℕ} (h : ∀ i < n, P (UInt8.ofNat i)) {b : UInt8}
    (hb : b.toNat < n) : P b := by
  have := h b.toNat hb
  rwa [UInt8.ofNat_toNat] at this

theorem foldl_value (b : Bytes) (n : ℕ) :
    b.foldl (fun n x => n * 256 + x.toNat) n = n * 256 ^ b.length + toNat b := by
  induction b generalizing n with
  | nil => simp [toNat]
  | cons x b ih =>
    simp only [toNat, List.foldl_cons, List.length_cons, zero_mul, zero_add]
    rw [ih, ih x.toNat]
    ring

theorem toNat_cons (x : UInt8) (b : Bytes) : toNat (x :: b) = x.toNat * 256 ^ b.length + toNat b := by
  have h := foldl_value b x.toNat
  simpa [toNat] using h

theorem toNat_lt (b : Bytes) : toNat b < 256 ^ b.length := by
  induction b with
  | nil => simp [toNat]
  | cons x b ih =>
    have hx : x.toNat ≤ 255 := Nat.le_of_lt_succ x.toNat_lt
    have hm := Nat.mul_le_mul_right (256 ^ b.length) hx
    rw [toNat_cons, List.length_cons, pow_succ]
    omega

theorem ofNat_succ (w n : ℕ) : ofNat (w + 1) n = UInt8.ofNat (n / 256 ^ w) :: ofNat w n := by
  rw [ofNat, Nat.shiftRight_eq_div_pow, pow_mul]
  rfl

@[simp] theorem length_ofNat (w n : ℕ) : (ofNat w n).length = w := by
  induction w with
  | zero => rfl
  | succ w ih => simp [ofNat_succ, ih]

theorem toNat_ofNat (w n : ℕ) : toNat (ofNat w n) = n % 256 ^ w := by
  induction w with
  | zero => simp [ofNat, toNat, Nat.mod_one]
  | succ w ih =>
    rw [ofNat_succ, toNat_cons, ih, length_ofNat, Nat.mod_pow_succ]
    simp only [UInt8.toNat_ofNat']
    ring

theorem toNat_ofNat_of_lt {w n : ℕ} (h : n < 256 ^ w) : toNat (ofNat w n) = n := by
  rw [toNat_ofNat, Nat.mod_eq_of_lt h]

/-- Equal widths and equal values make equal bytes. -/
theorem toNat_inj {a b : Bytes} (hl : a.length = b.length) (h : toNat a = toNat b) : a = b := by
  induction a generalizing b with
  | nil => exact (List.length_eq_zero_iff.1 hl.symm).symm
  | cons x a ih =>
    obtain ⟨y, b, rfl⟩ := List.exists_cons_of_length_eq_add_one hl.symm
    have hl' : a.length = b.length := by simpa using hl
    rw [toNat_cons, toNat_cons, hl'] at h
    have ha := toNat_lt a
    have hb := toNat_lt b
    rw [hl'] at ha
    have hp : 0 < 256 ^ b.length := by positivity
    have hx : x.toNat = y.toNat := by
      have h1 := congrArg (· / 256 ^ b.length) h
      simpa [Nat.add_div_of_dvd_right, Nat.mul_div_cancel _ hp, Nat.div_eq_of_lt ha,
        Nat.div_eq_of_lt hb] using h1
    have hab : toNat a = toNat b := by rw [hx] at h; omega
    rw [UInt8.toNat_inj.1 hx, ih hl' hab]

theorem lt_pow_widthOf (n : ℕ) : n < 256 ^ widthOf n := by
  unfold widthOf
  split_ifs with h
  · simp [h]
  · have h1 : n < 2 ^ (n.log2 + 1) := Nat.lt_log2_self
    have h2 : n.log2 + 1 ≤ 8 * (n.log2 / 8 + 1) := by omega
    rw [show (256 : ℕ) = 2 ^ 8 by norm_num, ← pow_mul]
    exact h1.trans_le (Nat.pow_le_pow_right (by norm_num) h2)

theorem pow_pred_widthOf_le {n : ℕ} (h : n ≠ 0) : 256 ^ (widthOf n - 1) ≤ n := by
  rw [widthOf, if_neg h, Nat.add_sub_cancel, show (256 : ℕ) = 2 ^ 8 by norm_num, ← pow_mul]
  refine (Nat.pow_le_pow_right (by norm_num) ?_).trans (Nat.log2_self_le h)
  omega

theorem widthOf_le_iff (n w : ℕ) : widthOf n ≤ w ↔ n < 256 ^ w := by
  refine ⟨?_, ?_⟩
  · exact fun h => (lt_pow_widthOf n).trans_le (Nat.pow_le_pow_right (by norm_num) h)
  · intro h
    by_cases hn : n = 0
    · simp [widthOf, hn]
    · have h1 := (pow_pred_widthOf_le hn).trans_lt h
      have h2 := (Nat.pow_lt_pow_iff_right (by norm_num : 1 < 256)).1 h1
      omega

theorem splitLast?_append (sep : UInt8) (l r : Bytes) (h : sep ∉ r) :
    splitLast? sep (l ++ sep :: r) = some (l, r) := by
  rw [splitLast?, span_reverse h]
  simp

/-- Cut at the last separator: none stands behind the cut. -/
theorem splitLast?_eq_some_iff (sep : UInt8) (b l r : Bytes) :
    splitLast? sep b = some (l, r) ↔ b = l ++ sep :: r ∧ sep ∉ r := by
  refine ⟨?_, ?_⟩
  · intro h
    unfold splitLast? at h
    split at h
    · simp at h
    · rename_i after s before hspan
      obtain ⟨rfl, rfl⟩ := Prod.mk.inj (Option.some.inj h)
      obtain ⟨-, hb, hafter⟩ := span_ne_eq_iff.1 hspan
      refine ⟨?_, by simpa using hafter⟩
      rw [← b.reverse_reverse, hb]
      simp
  · intro h
    rcases h with ⟨rfl, h⟩
    exact splitLast?_append sep l r h

theorem beq_false_of_notMem {sep : UInt8} {b : Bytes} (h : sep ∉ b) :
    ∀ x ∈ b, (x == sep) = false := by
  intro x hx
  rw [beq_eq_false_iff_ne]
  rintro rfl
  exact h hx

theorem splitOn_of_notMem {sep : UInt8} {b : Bytes} (h : sep ∉ b) : splitOn sep b = [b] :=
  List.splitOnP_eq_singleton (beq_false_of_notMem h)

theorem splitOn_append {sep : UInt8} {l : Bytes} (r : Bytes) (h : sep ∉ l) :
    splitOn sep (l ++ sep :: r) = l :: splitOn sep r :=
  List.splitOnP_append_cons_of_forall_mem (beq_false_of_notMem h) sep (beq_self_eq_true sep) r

/-- Two parts mean one separator, with a part on each side of it. -/
theorem splitOn_eq_pair_iff (sep : UInt8) (b l r : Bytes) :
    splitOn sep b = [l, r] ↔ b = l ++ sep :: r ∧ sep ∉ l ∧ sep ∉ r := by
  refine ⟨?_, ?_⟩
  · intro h
    by_cases hb : sep ∈ b
    · obtain ⟨l', r', rfl, hl⟩ := List.eq_append_cons_of_mem hb
      rw [splitOn_append r' hl] at h
      obtain ⟨rfl, hrest⟩ := List.cons.inj h
      by_cases hr : sep ∈ r'
      · obtain ⟨l'', r'', rfl, hl'⟩ := List.eq_append_cons_of_mem hr
        rw [splitOn_append r'' hl'] at hrest
        exact absurd (List.cons.inj hrest).2 (List.splitOnP_ne_nil _ _)
      · rw [splitOn_of_notMem hr] at hrest
        obtain rfl := (List.cons.inj hrest).1
        exact ⟨rfl, hl, hr⟩
    · rw [splitOn_of_notMem hb] at h
      simp at h
  · intro h
    rcases h with ⟨rfl, hl, hr⟩
    rw [splitOn_append r hl, splitOn_of_notMem hr]

@[simp] theorem ofString_append (s t : String) : ofString (s ++ t) = ofString s ++ ofString t := by
  simp [ofString]

theorem ofString_ofList (cs : List Char) :
    ofString (String.ofList cs) = cs.flatMap String.utf8EncodeChar := by
  simp [ofString, List.utf8Encode]

theorem encode_ascii {x : UInt8} (h : x < 128) :
    String.utf8EncodeChar (Char.ofNat x.toNat) = [x] := by
  apply of_forall_ofNat (n := 128) (P := fun x => String.utf8EncodeChar (Char.ofNat x.toNat) = [x])
    (by decide) h

/-- Bytes of ASCII are the text of the same characters. -/
theorem ofString_ascii {b : Bytes} (h : ∀ x ∈ b, x < 128) :
    ofString (String.ofList (b.map fun x => Char.ofNat x.toNat)) = b := by
  rw [ofString_ofList]
  induction b with
  | nil => rfl
  | cons x b ih =>
    obtain ⟨hx, hb⟩ := List.forall_mem_cons.1 h
    rw [List.map_cons, List.flatMap_cons, encode_ascii hx, ih hb, List.singleton_append]

/-- A text of ASCII is that of its bytes. -/
theorem exists_ascii {s : String} (h : ∀ c ∈ s.toList, c.toNat < 128) :
    ∃ b : Bytes, (∀ x ∈ b, x < 128) ∧ s = String.ofList (b.map fun x => Char.ofNat x.toNat) := by
  have hback : ∀ c ∈ s.toList, UInt8.ofNat c.toNat < 128 ∧
      Char.ofNat (UInt8.ofNat c.toNat).toNat = c := by
    intro c hc
    have hlt := h c hc
    have hsmall : (UInt8.ofNat c.toNat).toNat = c.toNat := by
      rw [UInt8.toNat_ofNat']
      omega
    refine ⟨?_, ?_⟩
    · rw [UInt8.lt_iff_toNat_lt, hsmall]
      exact hlt
    · rw [hsmall, Char.ofNat_toNat]
  refine ⟨s.toList.map fun c => UInt8.ofNat c.toNat, ?_, ?_⟩
  · rw [List.forall_mem_map]
    exact fun c hc => (hback c hc).1
  · have hmap : s.toList.map ((fun x => Char.ofNat x.toNat) ∘ fun c => UInt8.ofNat c.toNat) =
        s.toList.map id := List.map_congr_left fun c hc => (hback c hc).2
    rw [List.map_map, hmap, List.map_id, String.ofList_toList]
theorem toString?_eq_some_iff (b : Bytes) (s : String) :
    toString? b = some s ↔ b = ofString s := by
  refine ⟨?_, ?_⟩
  · intro h
    unfold toString? String.fromUTF8? at h
    split_ifs at h
    obtain rfl := Option.some.inj h
    rfl
  · rintro rfl
    exact toString?_ofString s

theorem ofString_inj {s t : String} (h : ofString s = ofString t) : s = t := by
  have hs := toString?_ofString s
  rw [h, toString?_ofString] at hs
  exact (Option.some.inj hs).symm

end Bytes

end Turnstile
