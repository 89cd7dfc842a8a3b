import Mathlib.Data.List.TakeWhile
import Mathlib.Tactic
import Turnstile.Base64
import Turnstile.Proofs.Bytes

/-! Base64 is a bijection between bytes and the texts that its reader takes: what is written reads
back, and what reads has no other written form. -/

namespace Turnstile.Base64

theorem value?_symbol (a : Base64) : ∀ n < 64, a.value? (a.symbol n) = some n := by
  cases a <;> decide

theorem value?_lt {a : Base64} {c : UInt8} {n : ℕ} (h : a.value? c = some n) : n < 64 := by
  unfold value? at h
  simp only [Bool.and_eq_true, decide_eq_true_eq, UInt8.le_iff_toNat_le] at h
  split_ifs at h <;> simp at * <;> omega

theorem symbol_value? {a : Base64} {c : UInt8} {n : ℕ} (h : a.value? c = some n) :
    a.symbol n = c := by
  have hall : ∀ m ∈ a.value? c, a.symbol m = c := by
    apply Bytes.of_forall_ofNat (n := 256) (P := fun c => ∀ m ∈ a.value? c, a.symbol m = c) ?_
      c.toNat_lt
    cases a <;> decide +kernel
  exact hall n h

theorem mapM_value?_symbol (a : Base64) {ss : List ℕ} (h : ∀ n ∈ ss, n < 64) :
    (ss.map a.symbol).mapM a.value? = some ss := by
  induction ss with
  | nil => rfl
  | cons n ss ih =>
    have hn := value?_symbol a n (h n (by simp))
    have hss := ih fun m hm => h m (by simp [hm])
    simp [hn, hss]

theorem map_symbol_of_mapM {a : Base64} {text : Bytes} {ss : List ℕ}
    (h : text.mapM a.value? = some ss) : ss.map a.symbol = text ∧ ∀ n ∈ ss, n < 64 := by
  induction text generalizing ss with
  | nil =>
    obtain rfl : [] = ss := by simpa using h
    simp
  | cons c text ih =>
    rw [List.mapM_cons] at h
    obtain ⟨n, hn, h⟩ := Option.bind_eq_some_iff.1 h
    obtain ⟨ns, hns, h⟩ := Option.bind_eq_some_iff.1 h
    obtain rfl : n :: ns = ss := by simpa using h
    obtain ⟨hmap, hlt⟩ := ih hns
    exact ⟨by simp [symbol_value? hn, hmap], by simpa [value?_lt hn] using hlt⟩

theorem sextets_lt (b : Bytes) : ∀ n ∈ sextets b, n < 64 := by
  fun_induction sextets b with
  | case1 => simp
  | case2 x =>
    have := x.toNat_lt
    simp only [List.forall_mem_cons, List.not_mem_nil, false_imp_iff, implies_true, and_true]
    omega
  | case3 x y =>
    have := x.toNat_lt
    have := y.toNat_lt
    simp only [List.forall_mem_cons, List.not_mem_nil, false_imp_iff, implies_true, and_true]
    omega
  | case4 x y z rest ih =>
    have := x.toNat_lt
    have := y.toNat_lt
    have := z.toNat_lt
    simp only [List.forall_mem_cons]
    exact ⟨by omega, by omega, by omega, by omega, ih⟩

theorem ofNat_eq {n : ℕ} {x : UInt8} (h : n = x.toNat) : UInt8.ofNat n = x := by
  rw [h, UInt8.ofNat_toNat]

theorem joinSextets_sextets (done b : Bytes) :
    joinSextets done (sextets b) = some (done.reverse ++ b) := by
  fun_induction sextets b generalizing done with
  | case1 => simp [joinSextets]
  | case2 x =>
    have hx : UInt8.ofNat (x.toNat / 4 * 4 + x.toNat % 4 * 16 / 16) = x := ofNat_eq (by omega)
    simp only [joinSextets, hx, Nat.mul_mod_left, if_true, List.reverse_cons]
  | case3 x y =>
    have := y.toNat_lt
    have hx : UInt8.ofNat (x.toNat / 4 * 4 + (x.toNat % 4 * 16 + y.toNat / 16) / 16) = x :=
      ofNat_eq (by omega)
    have hy : UInt8.ofNat ((x.toNat % 4 * 16 + y.toNat / 16) % 16 * 16 + y.toNat % 16 * 4 / 4) = y :=
      ofNat_eq (by omega)
    have hz : y.toNat % 16 * 4 % 4 = 0 := by omega
    simp only [joinSextets, hx, hy, hz, if_true, List.reverse_cons, List.append_assoc,
      List.cons_append, List.nil_append]
  | case4 x y z rest ih =>
    have := y.toNat_lt
    have := z.toNat_lt
    have hx : UInt8.ofNat (x.toNat / 4 * 4 + (x.toNat % 4 * 16 + y.toNat / 16) / 16) = x :=
      ofNat_eq (by omega)
    have hy : UInt8.ofNat ((x.toNat % 4 * 16 + y.toNat / 16) % 16 * 16 +
        (y.toNat % 16 * 4 + z.toNat / 64) / 4) = y := ofNat_eq (by omega)
    have hz : UInt8.ofNat ((y.toNat % 16 * 4 + z.toNat / 64) % 4 * 64 + z.toNat % 64) = z :=
      ofNat_eq (by omega)
    simp only [joinSextets, hx, hy, hz, ih, List.reverse_cons, List.append_assoc, List.cons_append,
      List.nil_append]

/-- The bits that a short last group leaves unused are zero, so the groups can be told from the
bytes. -/
theorem sextets_of_joinSextets {done b : Bytes} {ss : List ℕ} (h : joinSextets done ss = some b)
    (hlt : ∀ n ∈ ss, n < 64) : ∃ r, b = done.reverse ++ r ∧ sextets r = ss := by
  fun_induction joinSextets done ss with
  | case1 done => exact ⟨[], by simpa using h.symm, rfl⟩
  | case2 => simp at h
  | case3 done x y hy =>
    simp only [List.forall_mem_cons] at hlt
    refine ⟨[UInt8.ofNat (x * 4 + y / 16)], by rw [← Option.some.inj h, List.reverse_cons], ?_⟩
    simp only [sextets, UInt8.toNat_ofNat', List.cons.injEq, and_true]
    omega
  | case4 => simp at h
  | case5 done x y z hz =>
    simp only [List.forall_mem_cons] at hlt
    refine ⟨[UInt8.ofNat (x * 4 + y / 16), UInt8.ofNat (y % 16 * 16 + z / 4)], ?_, ?_⟩
    · rw [← Option.some.inj h, List.reverse_cons, List.reverse_cons, List.append_assoc]
      rfl
    · simp only [sextets, UInt8.toNat_ofNat', List.cons.injEq, and_true]
      omega
  | case6 => simp at h
  | case7 done x y z w rest ih =>
    simp only [List.forall_mem_cons] at hlt
    obtain ⟨r, rfl, hr⟩ := ih h hlt.2.2.2.2
    refine ⟨UInt8.ofNat (x * 4 + y / 16) :: UInt8.ofNat (y % 16 * 16 + z / 4) ::
      UInt8.ofNat (z % 4 * 64 + w) :: r, ?_, ?_⟩
    · simp only [List.reverse_cons, List.append_assoc, List.cons_append, List.nil_append]
    · simp only [sextets, UInt8.toNat_ofNat', List.cons.injEq, hr, and_true]
      omega

theorem decode?_encode (a : Base64) (b : Bytes) : a.decode? (a.encode b) = some b := by
  rw [decode?, encode, mapM_value?_symbol a (sextets_lt b), Option.bind_some, joinSextets_sextets]
  rfl

/-- Reading takes exactly what writing makes. -/
theorem decode?_eq_some_iff (a : Base64) (text b : Bytes) :
    a.decode? text = some b ↔ text = a.encode b := by
  refine ⟨?_, ?_⟩
  · intro h
    obtain ⟨ss, hss, h⟩ := Option.bind_eq_some_iff.1 h
    obtain ⟨hmap, hlt⟩ := map_symbol_of_mapM hss
    obtain ⟨r, rfl, hr⟩ := sextets_of_joinSextets h hlt
    rw [encode, ← hmap, ← hr]
  · rintro rfl
    exact decode?_encode a b

theorem notMem_encode {a : Base64} {c : UInt8} (h : ∀ n < 64, a.symbol n ≠ c) (b : Bytes) :
    c ∉ a.encode b := by
  intro hc
  obtain ⟨n, hn, he⟩ := List.mem_map.1 hc
  exact h n (sextets_lt b n hn) he

theorem symbol_lt (a : Base64) : ∀ n < 64, a.symbol n < 128 := by
  cases a <;> decide

theorem lt_of_mem_encode {a : Base64} {b : Bytes} {c : UInt8} (h : c ∈ a.encode b) : c < 128 := by
  obtain ⟨n, hn, rfl⟩ := List.mem_map.1 h
  exact symbol_lt a n (sextets_lt b n hn)

/-- The dot is no symbol. -/
theorem dot_notMem_encode (a : Base64) (b : Bytes) : 46 ∉ a.encode b :=
  notMem_encode (by cases a <;> decide) b

theorem pad_notMem_encode (a : Base64) (b : Bytes) : 61 ∉ a.encode b :=
  notMem_encode (by cases a <;> decide) b

theorem decodePadded?_encodePadded (a : Base64) (b : Bytes) :
    a.decodePadded? (a.encodePadded b) = some b := by
  have hpads : ((a.encodePadded b).reverse.takeWhile (· == 61)).length =
      padding (a.encode b).length := by
    have hnone : (a.encode b).reverse.takeWhile (· == 61) = [] := by
      rw [List.takeWhile_eq_nil_iff]
      intro hl
      have hm := List.mem_reverse.1 (List.get_mem (a.encode b).reverse ⟨0, hl⟩)
      rw [beq_iff_eq]
      exact fun he => pad_notMem_encode a b (he ▸ hm)
    rw [encodePadded, List.reverse_append, List.reverse_replicate, List.takeWhile_append_of_pos,
      hnone, List.append_nil, List.length_replicate]
    intro x hx
    rw [List.eq_of_mem_replicate hx, beq_self_eq_true]
  have hbody : (a.encodePadded b).take ((a.encodePadded b).length - padding (a.encode b).length) =
      a.encode b := by
    rw [encodePadded, List.length_append, List.length_replicate, Nat.add_sub_cancel, List.take_left]
  simp only [decodePadded?, hpads, hbody, if_true, decode?_encode]

theorem length_sextets (b : Bytes) : (sextets b).length = (4 * b.length + 2) / 3 := by
  fun_induction sextets b with
  | case1 => rfl
  | case2 => simp
  | case3 => simp
  | case4 x y z rest ih =>
    simp only [List.length_cons, ih]
    omega

theorem length_encodePadded_le (a : Base64) (b : Bytes) :
    (a.encodePadded b).length ≤ (4 * b.length + 2) / 3 + 3 := by
  simp only [encodePadded, encode, List.length_append, List.length_map,
    List.length_replicate, length_sextets, padding]
  omega

theorem le_length_encodePadded (a : Base64) (b : Bytes) : b.length ≤ (a.encodePadded b).length := by
  simp only [encodePadded, encode, List.length_append, List.length_map, List.length_replicate,
    length_sextets]
  omega

end Turnstile.Base64
