import Mathlib.Tactic
import Turnstile.Proofs.Bytes
import Turnstile.Uuid

/-! Identifiers that are made at random. They consist of digits and hyphens, and are written in the
form in which any identifier is kept. -/

namespace Turnstile.Uuid

theorem mem_group {ns : List ℕ} {cs : List Char} {c : Char} (h : c ∈ group ns cs) :
    c ∈ cs ∨ c = '-' := by
  fun_induction group ns cs with
  | case1 => exact Or.inl h
  | case2 => exact Or.inl h
  | case3 n n' ns cs ih =>
    rcases List.mem_append.1 h with h | h
    · exact Or.inl (List.mem_of_mem_take h)
    rcases List.mem_cons.1 h with rfl | h
    · exact Or.inr rfl
    · exact (ih h).imp_left List.mem_of_mem_drop

/-- The digits of an identifier and its hyphens. -/
def isMark (b : UInt8) : Bool := b = 45 || Bytes.isAlphanumeric b

theorem exists_of_mem_hex {b : UInt8} {bytes : Bytes} (h : b ∈ Bytes.hex bytes) :
    ∃ i < 16, b = Bytes.hexDigit (UInt8.ofNat i) := by
  obtain ⟨x, -, hx⟩ := List.mem_flatMap.1 h
  simp only [List.mem_cons, List.not_mem_nil, or_false] at hx
  rcases hx with rfl | rfl
  · have hlt : x.toNat < 16 * 16 := x.toNat_lt
    refine ⟨(x >>> 4).toNat, ?_, by rw [UInt8.ofNat_toNat]⟩
    rw [UInt8.toNat_shiftRight, Nat.shiftRight_eq_div_pow]
    exact Nat.div_lt_of_lt_mul hlt
  · refine ⟨(x &&& 15).toNat, ?_, by rw [UInt8.ofNat_toNat]⟩
    rw [UInt8.toNat_and]
    exact Nat.and_lt_two_pow _ (by decide : (15 : UInt8).toNat < 2 ^ 4)

theorem isMark_of_mem_hex {b : UInt8} {bytes : Bytes} (h : b ∈ Bytes.hex bytes) :
    b < 128 ∧ isMark b = true := by
  have hfacts : ∀ i < 16, Bytes.hexDigit (UInt8.ofNat i) < 128 ∧
      isMark (Bytes.hexDigit (UInt8.ofNat i)) = true := by decide
  obtain ⟨i, hi, rfl⟩ := exists_of_mem_hex h
  exact hfacts i hi

theorem isMark_of_mem_ofRandom {b : UInt8} {r : Bytes} (h : b ∈ Bytes.ofString (ofRandom r)) :
    isMark b = true := by
  rw [ofRandom, Bytes.ofString_ofList] at h
  obtain ⟨c, hc, hb⟩ := List.mem_flatMap.1 h
  rcases mem_group hc with hc | rfl
  · obtain ⟨x, hx, rfl⟩ := List.mem_map.1 hc
    obtain ⟨hascii, hmark⟩ := isMark_of_mem_hex hx
    rw [Bytes.encode_ascii hascii, List.mem_singleton] at hb
    rw [hb]
    exact hmark
  · have hdash : String.utf8EncodeChar '-' = [45] := by decide
    rw [hdash, List.mem_singleton] at hb
    rw [hb]
    rfl

theorem ofRandom_ne_nil (r : Bytes) : Bytes.ofString (ofRandom r) ≠ [] := by
  have hgroup : ∀ cs, '-' ∈ group groupLengths cs := fun cs =>
    List.mem_append_right _ List.mem_cons_self
  rw [ofRandom, Bytes.ofString_ofList]
  refine List.ne_nil_of_mem (a := 45) (List.mem_flatMap.2 ⟨_, hgroup _, ?_⟩)
  decide

/-! The canonical form. -/

section Grouped

variable {ns : List ℕ} {cs : List Char}

theorem length_group (hl : cs.length = ns.sum) :
    (group ns cs).length = cs.length + (ns.length - 1) := by
  fun_induction group ns cs with
  | case1 => rfl
  | case2 => rfl
  | case3 n ns cs hne ih =>
    have hpos : 0 < ns.length := List.length_pos_iff.2 (by simpa using hne)
    rw [List.sum_cons] at hl
    have hrest := ih (by rw [List.length_drop]; omega)
    rw [List.length_append, List.length_cons, List.length_cons, hrest, List.length_take,
      List.length_drop]
    omega

theorem ungroup?_group (hl : cs.length = ns.sum) (hx : ∀ c ∈ cs, isHex c = true) :
    ungroup? ns (group ns cs) = some cs := by
  fun_induction group ns cs with
  | case1 cs => simp [ungroup?, List.length_eq_zero_iff.1 hl]
  | case2 n cs =>
    rw [List.sum_singleton] at hl
    simpa [ungroup?, hl] using hx
  | case3 n ns cs hne ih =>
    rw [List.sum_cons] at hl
    have hfirst : (cs.take n).length = n := by rw [List.length_take]; omega
    have hhex : (cs.take n).all isHex = true :=
      List.all_eq_true.2 fun c hc => hx c (List.mem_of_mem_take hc)
    have hrest := ih (by rw [List.length_drop]; omega) fun c hc => hx c (List.mem_of_mem_drop hc)
    rw [ungroup?.eq_3 _ _ _ hne, List.take_left' hfirst, List.drop_left' hfirst]
    simp [hfirst, hhex, hrest]

end Grouped

/-- The digits of an identifier that is made of these bytes. -/
def digits (b : Bytes) : List Char := (Bytes.hex b).map fun x => Char.ofNat x.toNat

theorem length_digits (b : Bytes) : (digits b).length = 2 * b.length := by
  induction b with
  | nil => rfl
  | cons x b ih =>
    have hcons : digits (x :: b) = digits [x] ++ digits b := by
      simp [digits, Bytes.hex]
    rw [hcons, List.length_append, ih, List.length_cons]
    have : (digits [x]).length = 2 := rfl
    omega

theorem digit_facts {b : Bytes} {c : Char} (h : c ∈ digits b) :
    isHex c = true ∧ c.toLower = c ∧ c.isAlphanum = true := by
  have hfacts : ∀ i < 16, isHex (Char.ofNat (Bytes.hexDigit (UInt8.ofNat i)).toNat) = true ∧
      (Char.ofNat (Bytes.hexDigit (UInt8.ofNat i)).toNat).toLower =
        Char.ofNat (Bytes.hexDigit (UInt8.ofNat i)).toNat ∧
      (Char.ofNat (Bytes.hexDigit (UInt8.ofNat i)).toNat).isAlphanum = true := by decide
  obtain ⟨x, hx, rfl⟩ := List.mem_map.1 h
  obtain ⟨i, hi, rfl⟩ := exists_of_mem_hex hx
  exact hfacts i hi

/-- The digits are those of the bytes with version and variant in their places. -/
theorem exists_digits {r : Bytes} (h : r.length = 16) :
    ∃ b, (digits b).length = groupLengths.sum ∧
      (ofRandom r).toList = group groupLengths (digits b) := by
  rw [ofRandom, String.toList_ofList]
  refine ⟨_, ?_, rfl⟩
  rw [length_digits, List.length_mapIdx, h]
  rfl

theorem mem_ofRandom {r : Bytes} (h : r.length = 16) {c : Char} (hc : c ∈ (ofRandom r).toList) :
    c.isAlphanum = true ∨ c = '-' := by
  obtain ⟨b, -, htext⟩ := exists_digits h
  rw [htext] at hc
  exact (mem_group hc).imp_left fun hd => (digit_facts hd).2.2

theorem length_ofRandom {r : Bytes} (h : r.length = 16) : (ofRandom r).length = 36 := by
  obtain ⟨b, hb, htext⟩ := exists_digits h
  rw [← String.length_toList, htext, length_group hb, hb]
  rfl

/-- By its length a text can only be in the plain hyphenated form. -/
theorem digits?_of_length {cs : List Char} (hl : cs.length = 36)
    (hurn : (cs.take 9).map Char.toLower ≠ "urn:uuid:".toList) :
    digits? cs = ungroup? groupLengths cs := by
  rw [digits?, if_neg (by simp [hl]), if_neg (by simp [hl]), if_neg hurn]

/-- What is made of sixteen random bytes is an identifier, in the form in which it is kept. -/
theorem canonical?_ofRandom {r : Bytes} (h : r.length = 16) :
    canonical? (ofRandom r) = some (ofRandom r) := by
  obtain ⟨b, hb, htext⟩ := exists_digits h
  have hlower : (digits b).map Char.toLower = digits b := by
    rw [List.map_congr_left fun c hc => (digit_facts hc).2.1, List.map_id']
  have hnine : (group groupLengths (digits b)).take 9 = (digits b).take 8 ++ ['-'] := by
    have height : ((digits b).take 8).length = 8 := by
      rw [List.length_take, hb]
      rfl
    have hsplit : group groupLengths (digits b) =
        (digits b).take 8 ++ '-' :: group [4, 4, 4, 12] ((digits b).drop 8) := rfl
    rw [hsplit, List.take_append, height, List.take_take]
    rfl
  have hurn : ((group groupLengths (digits b)).take 9).map Char.toLower ≠ "urn:uuid:".toList := by
    intro heq
    have hlast := congrArg List.getLast? heq
    rw [hnine, List.map_append, List.map_singleton, List.getLast?_concat] at hlast
    exact absurd hlast (by decide)
  have hlength := length_ofRandom h
  rw [← String.length_toList, htext] at hlength
  have hread := digits?_of_length hlength hurn
  rw [ungroup?_group hb fun c hc => (digit_facts hc).1] at hread
  rw [canonical?, htext, hread, Option.map_some, hlower, ← htext, String.ofList_toList]

end Turnstile.Uuid
