import Turnstile.Der
import Turnstile.Proofs.Bytes

/-! Elements and numbers in distinguished encoding read back as they were written, and what is read
is an element behind which the rest begins. -/

namespace Turnstile.Der

/-- Lengths that reading accepts. -/
def lengthBound : ℕ := maxLength + 1

theorem widthOf_le_four {n : ℕ} (h : n < lengthBound) : Bytes.widthOf n ≤ 4 := by
  apply (Bytes.widthOf_le_iff n 4).2
  unfold lengthBound maxLength at h
  omega

theorem length?_lengthBytes {n : ℕ} (h : n < lengthBound) (rest : Bytes) :
    length? (lengthBytes n ++ rest) = some (n, rest) := by
  by_cases hsmall : n < 128
  · have hbyte : (UInt8.ofNat n).toNat = n := by
      rw [UInt8.toNat_ofNat']
      omega
    have hlt : UInt8.ofNat n < 128 := by
      rw [UInt8.lt_iff_toNat_lt, hbyte]
      exact hsmall
    rw [lengthBytes, if_pos hsmall, List.singleton_append, length?, if_pos hlt, hbyte]
  · set w := Bytes.widthOf n with hw
    have hpos : 0 < w := by
      rw [Nat.pos_iff_ne_zero, hw, Bytes.widthOf]
      split_ifs with h0
      · omega
      · omega
    have hfour : w ≤ 4 := widthOf_le_four h
    have hform : lengthBytes n = UInt8.ofNat (128 + w) :: Bytes.ofNat w n := by
      rw [lengthBytes, if_neg hsmall]
    have hbyte : (UInt8.ofNat (128 + w)).toNat = 128 + w := by
      rw [UInt8.toNat_ofNat']
      omega
    have hlarge : ¬ UInt8.ofNat (128 + w) < 128 := by
      rw [UInt8.lt_iff_toNat_lt, hbyte]
      simp
    have hcount : (UInt8.ofNat (128 + w)).toNat - 128 = w := by
      rw [hbyte]
      omega
    have htake : (Bytes.ofNat w n ++ rest).take w = Bytes.ofNat w n :=
      List.take_left' (Bytes.length_ofNat w n)
    have hdrop : (Bytes.ofNat w n ++ rest).drop w = rest :=
      List.drop_left' (Bytes.length_ofNat w n)
    have hvalue : Bytes.toNat (Bytes.ofNat w n) = n := Bytes.toNat_ofNat_of_lt (Bytes.lt_pow_widthOf n)
    rw [hform, List.cons_append, length?, if_neg hlarge]
    simp only [hcount, htake, hdrop, hvalue, hform]
    rw [if_neg]
    simp [hpos.ne', not_lt.2 hfour, Nat.le_of_lt_succ h]

theorem read?_element {tag : UInt8} {content : Bytes} (htag : isTag tag = true)
    (h : content.length < lengthBound) (rest : Bytes) :
    read? (element tag content ++ rest) = some (⟨tag, content⟩, rest) := by
  have hlength : element tag content ++ rest =
      tag :: (lengthBytes content.length ++ (content ++ rest)) := by
    simp [element]
  rw [hlength, read?, htag, length?_lengthBytes h]
  simp

theorem readTagged?_element {tag : UInt8} {content : Bytes} (htag : isTag tag = true)
    (h : content.length < lengthBound) (rest : Bytes) :
    readTagged? tag (element tag content ++ rest) = some (content, rest) := by
  simp [readTagged?, read?_element htag h rest]

theorem length_content_lt (tag : UInt8) (content : Bytes) :
    content.length < (element tag content).length := by
  simp only [element, List.length_append, List.length_cons]
  omega

theorem whole?_element {tag : UInt8} {content : Bytes} (htag : isTag tag = true)
    (h : (element tag content).length < lengthBound) :
    whole? tag (element tag content) = some content := by
  have hread := readTagged?_element htag ((length_content_lt tag content).trans h) []
  rw [List.append_nil] at hread
  rw [whole?, hread, if_neg (not_lt.2 (Nat.le_of_lt_succ h))]

/-- Bytes of a number, a bit for the sign counted in. -/
theorem natContent_eq (n : ℕ) : natContent n = Bytes.ofNat ((n.log2 + 1) / 8 + 1) n := by
  have hwidth : n.log2 / 8 + 1 + (if n.log2 % 8 = 7 then 1 else 0) = (n.log2 + 1) / 8 + 1 := by
    split_ifs <;> omega
  rw [natContent, hwidth]

theorem length_natContent (n : ℕ) : (natContent n).length = (n.log2 + 1) / 8 + 1 := by
  rw [natContent_eq, Bytes.length_ofNat]

theorem pow_256 (k : ℕ) : (256 : ℕ) ^ k = 2 ^ (8 * k) := by
  rw [show (256 : ℕ) = 2 ^ 8 by norm_num, ← pow_mul]

/-- The first bit of a number's bytes is zero, and the first nine bits are not all. -/
theorem natContent_bounds {n w : ℕ} (hw : (n.log2 + 1) / 8 = w + 1) :
    n / 256 ^ (w + 1) < 128 ∧ 128 ≤ n / 256 ^ w := by
  have hn : n ≠ 0 := by
    rintro rfl
    simp at hw
  refine ⟨?_, ?_⟩
  · rw [Nat.div_lt_iff_lt_mul (by positivity)]
    calc n < 2 ^ (n.log2 + 1) := Nat.lt_log2_self
      _ ≤ 2 ^ (7 + 8 * (w + 1)) := Nat.pow_le_pow_right (by norm_num) (by omega)
      _ = 128 * 256 ^ (w + 1) := by rw [pow_256, pow_add]; norm_num
  · rw [Nat.le_div_iff_mul_le (by positivity)]
    calc 128 * 256 ^ w = 2 ^ (7 + 8 * w) := by rw [pow_256, pow_add]; norm_num
      _ ≤ 2 ^ n.log2 := Nat.pow_le_pow_right (by norm_num) (by omega)
      _ ≤ n := Nat.log2_self_le hn

theorem lt_pow_natContent (n : ℕ) : n < 256 ^ ((n.log2 + 1) / 8 + 1) := by
  rw [pow_256]
  exact Nat.lt_log2_self.trans_le (Nat.pow_le_pow_right (by norm_num) (by omega))

/-- No byte could be left out in front of a number's bytes. -/
theorem isShortest_natContent {n w : ℕ} (hw : (n.log2 + 1) / 8 = w + 1) :
    ¬ (UInt8.ofNat (n / 256 ^ (w + 1)) = 0 ∧ UInt8.ofNat (n / 256 ^ w) < 128) := by
  obtain ⟨htop, hnext⟩ := natContent_bounds hw
  rintro ⟨hzero, hlt⟩
  have htop0 : n / 256 ^ (w + 1) = 0 := by
    have hzero' := congrArg UInt8.toNat hzero
    have hmod : n / 256 ^ (w + 1) % 2 ^ 8 = n / 256 ^ (w + 1) := Nat.mod_eq_of_lt (by omega)
    rw [UInt8.toNat_ofNat', hmod] at hzero'
    exact hzero'
  have hlt256 : n / 256 ^ w < 256 := by
    rw [pow_succ, ← Nat.div_div_eq_div_mul] at htop0
    omega
  have hmod : n / 256 ^ w % 2 ^ 8 = n / 256 ^ w := Nat.mod_eq_of_lt hlt256
  rw [UInt8.lt_iff_toNat_lt, UInt8.toNat_ofNat', hmod] at hlt
  exact absurd hlt (not_lt.2 hnext)

theorem nat?_natContent (n : ℕ) : nat? (natContent n) = some n := by
  have hvalue := Bytes.toNat_ofNat_of_lt (lt_pow_natContent n)
  rw [natContent_eq]
  cases hw : (n.log2 + 1) / 8 with
  | zero =>
    have hsmall : n < 128 := by
      calc n < 2 ^ (n.log2 + 1) := Nat.lt_log2_self
        _ ≤ 2 ^ 7 := Nat.pow_le_pow_right (by norm_num) (by omega)
    have hbyte : (UInt8.ofNat n).toNat = n := by
      rw [UInt8.toNat_ofNat']
      omega
    have hlt : UInt8.ofNat n < 128 := by
      rw [UInt8.lt_iff_toNat_lt, hbyte]
      exact hsmall
    simp [Bytes.ofNat, nat?, hlt, hbyte]
  | succ w =>
    rw [hw, Bytes.ofNat_succ, Bytes.ofNat_succ] at hvalue
    have hlow : UInt8.ofNat (n / 256 ^ (w + 1)) < 128 := by
      rw [UInt8.lt_iff_toNat_lt, UInt8.toNat_ofNat']
      exact (Nat.mod_le _ _).trans_lt (natContent_bounds hw).1
    rw [Bytes.ofNat_succ, Bytes.ofNat_succ, nat?, hvalue]
    simp only [hlow, decide_true, Bool.true_and]
    rw [if_pos]
    simpa [imp_iff_not_or] using isShortest_natContent hw

theorem readNat?_nat {n : ℕ} (h : (natContent n).length < lengthBound) (rest : Bytes) :
    readNat? (nat n ++ rest) = some (n, rest) := by
  rw [readNat?, nat, readTagged?_element rfl h]
  simp [nat?_natContent]

theorem readNats?_flatMap {ns : List ℕ} (h : ∀ n ∈ ns, (natContent n).length < lengthBound)
    (rest : Bytes) : readNats? ns.length (ns.flatMap nat ++ rest) = some (ns, rest) := by
  induction ns with
  | nil => rfl
  | cons n ns ih =>
    obtain ⟨hn, hns⟩ := List.forall_mem_cons.1 h
    rw [List.length_cons, readNats?, List.flatMap_cons, List.append_assoc, readNat?_nat hn]
    simp [ih hns]

/-! What was read. -/

theorem length_of_length? {b rest : Bytes} {n : ℕ} (h : length? b = some (n, rest)) :
    rest.length < b.length := by
  cases b with
  | nil => simp [length?] at h
  | cons c b =>
    simp only [length?] at h
    split_ifs at h
    · obtain ⟨-, rfl⟩ := Prod.mk.inj (Option.some.inj h)
      simp
    · obtain ⟨-, rfl⟩ := Prod.mk.inj (Option.some.inj h)
      simp only [List.length_drop, List.length_cons]
      omega

/-- An element takes a tag and a length beside its content. -/
theorem length_of_read? {b rest : Bytes} {e : Element} (h : read? b = some (e, rest)) :
    e.content.length + rest.length + 2 ≤ b.length := by
  cases b with
  | nil => simp [read?] at h
  | cons t b =>
    simp only [read?] at h
    split_ifs at h
    split at h
    · simp at h
    · rename_i n behind hn
      split_ifs at h with hlong
      obtain ⟨rfl, rfl⟩ := Prod.mk.inj (Option.some.inj h)
      have := length_of_length? hn
      simp only [List.length_take, List.length_drop, List.length_cons]
      omega

theorem readTagged?_eq_some_iff {tag : UInt8} {b content rest : Bytes} :
    readTagged? tag b = some (content, rest) ↔ read? b = some (⟨tag, content⟩, rest) := by
  unfold readTagged?
  refine ⟨?_, ?_⟩
  · intro h
    split at h
    · rename_i e behind he
      split_ifs at h with htag
      obtain ⟨rfl, rfl⟩ := Prod.mk.inj (Option.some.inj h)
      rw [he, ← htag]
    · simp at h
  · intro h
    rw [h]
    simp

theorem whole?_eq_some {tag : UInt8} {b content : Bytes} (h : whole? tag b = some content) :
    read? b = some (⟨tag, content⟩, []) := by
  unfold whole? at h
  split_ifs at h
  split at h
  · rename_i c hread
    obtain rfl := Option.some.inj h
    exact readTagged?_eq_some_iff.1 hread
  · simp at h

theorem read?_of_readNat? {b rest : Bytes} {n : ℕ} (h : readNat? b = some (n, rest)) :
    ∃ content, read? b = some (⟨integerTag, content⟩, rest) := by
  unfold readNat? at h
  split at h
  · rename_i content behind hread
    obtain ⟨m, -, heq⟩ := Option.map_eq_some_iff.1 h
    obtain ⟨-, rfl⟩ := Prod.mk.inj heq
    exact ⟨content, readTagged?_eq_some_iff.1 hread⟩
  · simp at h

end Turnstile.Der
