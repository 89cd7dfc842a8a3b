import Turnstile.Proofs.Der
import Turnstile.Proofs.Pem
import Turnstile.Rsa.Container

/-! A key that is written in either container reads back, and how long the file gets. -/

namespace Turnstile.Rsa

theorem length_natContent_le {n : ℕ} {ns : List ℕ} (h : n ∈ ns) :
    (Der.natContent n).length ≤ (ns.flatMap Der.nat).length := by
  obtain ⟨l, r, rfl⟩ := List.append_of_mem h
  simp only [List.flatMap_append, List.flatMap_cons, List.length_append, Der.nat, Der.element,
    List.length_cons]
  omega

theorem Container.pkcs1?_pkcs1 {k : PrivateKey} {inverse : ℕ}
    (h : (pkcs1 k inverse).length < Der.lengthBound) : pkcs1? (pkcs1 k inverse) = some k := by
  have hcontent : ((numbers k inverse).flatMap Der.nat).length < Der.lengthBound :=
    (Der.length_content_lt _ _).trans h
  have hnumbers : Der.readNats? 9 ((numbers k inverse).flatMap Der.nat) =
      some (numbers k inverse, []) := by
    have := @Der.readNats?_flatMap (numbers k inverse) (fun n hn =>
      (length_natContent_le hn).trans_lt hcontent) []
    rwa [List.append_nil] at this
  rw [pkcs1?, pkcs1, Der.whole?_element rfl h, Option.bind_some, hnumbers]
  rfl

namespace Container

theorem length_pkcs1_lt (k : PrivateKey) (inverse : ℕ) :
    (pkcs1 k inverse).length < (pkcs8 k inverse).length := by
  have hinner := Der.length_content_lt Der.octetsTag (pkcs1 k inverse)
  have houter := Der.length_content_lt Der.sequenceTag
    (Der.nat 0 ++ Der.element Der.sequenceTag rsaAlgorithm ++
      Der.element Der.octetsTag (pkcs1 k inverse))
  rw [List.length_append] at houter
  rw [pkcs8]
  omega

theorem pkcs8?_pkcs8 {k : PrivateKey} {inverse : ℕ}
    (h : (pkcs8 k inverse).length < Der.lengthBound) : pkcs8? (pkcs8 k inverse) = some k := by
  have hkey := (length_pkcs1_lt k inverse).trans h
  have hversion : ∀ rest, Der.readNat? (Der.nat 0 ++ rest) = some (0, rest) :=
    Der.readNat?_nat (by decide)
  have halgorithm : ∀ rest, Der.readTagged? Der.sequenceTag
      (Der.element Der.sequenceTag rsaAlgorithm ++ rest) = some (rsaAlgorithm, rest) :=
    Der.readTagged?_element rfl (by decide)
  have hwrapped : Der.readTagged? Der.octetsTag (Der.element Der.octetsTag (pkcs1 k inverse)) =
      some (pkcs1 k inverse, []) := by
    have hread : Der.readTagged? Der.octetsTag (Der.element Der.octetsTag (pkcs1 k inverse) ++ []) =
        some (pkcs1 k inverse, []) := Der.readTagged?_element rfl hkey []
    rwa [List.append_nil] at hread
  have hwhole : Der.whole? Der.sequenceTag (pkcs8 k inverse) = some (Der.nat 0 ++
      (Der.element Der.sequenceTag rsaAlgorithm ++ Der.element Der.octetsTag (pkcs1 k inverse))) := by
    rw [pkcs8, Der.whole?_element rfl h, List.append_assoc]
  have hnone : skipAttributes? 0 [] = some [] := rfl
  have hpart : publicPart? [] = some (false, []) := rfl
  have hrest : ignoreRest? 0 [] = some () := rfl
  simp only [pkcs8?, Option.bind_eq_bind, hwhole, Option.bind_some, hversion, halgorithm, hwrapped,
    List.length_nil, hnone, hpart, hrest]
  simp [pkcs1?_pkcs1 hkey]

end Container

theorem Container.armour?_eq_some_iff {label : String} {content text : Bytes} :
    armour? label content = some text ↔
      content.length ≤ Der.maxLength ∧ text = Pem.bytes ⟨label, content⟩ := by
  rw [armour?, Option.ite_none_right_eq_some, Option.some_inj, eq_comm (a := text)]

theorem PrivateKey.ofPem_pkcs1 {k : PrivateKey} {inverse : ℕ} (hk : k.IsConsistent)
    (h : (Container.pkcs1 k inverse).length < Der.lengthBound) :
    PrivateKey.ofPem (Pem.bytes ⟨Container.pkcs1Label, Container.pkcs1 k inverse⟩) = .ok k := by
  have hne : Container.pkcs1Label ≠ "" := by decide
  have hdash : 45 ∉ Bytes.ofString Container.pkcs1Label := by decide +kernel
  rw [PrivateKey.ofPem, Pem.ofBytes?_bytes hne hdash]
  simp only [Container.read?, if_true, Container.pkcs1?_pkcs1 h, if_pos hk]

theorem PrivateKey.ofPem_pkcs8 {k : PrivateKey} {inverse : ℕ} (hk : k.IsConsistent)
    (h : (Container.pkcs8 k inverse).length < Der.lengthBound) :
    PrivateKey.ofPem (Pem.bytes ⟨Container.pkcs8Label, Container.pkcs8 k inverse⟩) = .ok k := by
  have hne : Container.pkcs8Label ≠ "" := by decide
  have hdash : 45 ∉ Bytes.ofString Container.pkcs8Label := by decide +kernel
  have hlabel : Container.pkcs8Label ≠ Container.pkcs1Label := by decide
  rw [PrivateKey.ofPem, Pem.ofBytes?_bytes hne hdash]
  simp only [Container.read?, if_neg hlabel, if_true, Container.pkcs8?_pkcs8 h, if_pos hk]

/-! Lengths. -/

theorem length_lengthBytes_le {n : ℕ} (h : n < Der.lengthBound) : (Der.lengthBytes n).length ≤ 5 := by
  have hw := Der.widthOf_le_four h
  rw [Der.lengthBytes]
  split_ifs
  · simp
  · simp only [List.length_cons, Bytes.length_ofNat]
    omega

theorem length_element_le (tag : UInt8) {content : Bytes} (h : content.length < Der.lengthBound) :
    (Der.element tag content).length ≤ content.length + 6 := by
  have := length_lengthBytes_le h
  simp only [Der.element, List.length_append, List.length_cons]
  omega

/-- Longer moduli make files of more than a mebibyte in the end. -/
def maxBits : ℕ := 2 ^ 19

theorem length_natContent_lt_two_pow {n bits : ℕ} (h : n < 2 ^ bits) :
    (Der.natContent n).length ≤ bits / 8 + 1 := by
  have hlog : n.log2 + 1 ≤ bits ∨ n = 0 := by
    by_cases hn : n = 0
    · exact Or.inr hn
    · exact Or.inl ((Nat.log2_lt hn).2 h)
  rw [Der.length_natContent]
  rcases hlog with hlog | rfl
  · omega
  · simp

theorem length_nat_le {n bits : ℕ} (h : n < 2 ^ bits) (hbits : bits ≤ maxBits) :
    (Der.nat n).length ≤ bits / 8 + 7 := by
  have hcontent := length_natContent_lt_two_pow h
  have hbound : (Der.natContent n).length < Der.lengthBound := by
    unfold Der.lengthBound Der.maxLength
    unfold maxBits at hbits
    omega
  have := length_element_le Der.integerTag hbound
  rw [Der.nat]
  omega

theorem length_flatMap_nat_le {bits : ℕ} {ns : List ℕ} (h : ∀ n ∈ ns, n < 2 ^ bits)
    (hbits : bits ≤ maxBits) : (ns.flatMap Der.nat).length ≤ ns.length * (bits / 8 + 7) := by
  induction ns with
  | nil => simp
  | cons n ns ih =>
    obtain ⟨hn, hns⟩ := List.forall_mem_cons.1 h
    have hhead := length_nat_le hn hbits
    have htail := ih hns
    rw [List.flatMap_cons, List.length_append, List.length_cons, Nat.succ_mul]
    omega

theorem length_pkcs1_le {bits inverse : ℕ} {k : PrivateKey}
    (h : ∀ n ∈ Container.numbers k inverse, n < 2 ^ bits) (hbits : bits ≤ maxBits) :
    (Container.pkcs1 k inverse).length ≤ 600000 := by
  have hcontent := length_flatMap_nat_le h hbits
  have hnine : (Container.numbers k inverse).length = 9 := rfl
  rw [hnine] at hcontent
  unfold maxBits at hbits
  have hbound : ((Container.numbers k inverse).flatMap Der.nat).length < Der.lengthBound := by
    unfold Der.lengthBound Der.maxLength
    omega
  have := length_element_le Der.sequenceTag hbound
  rw [Container.pkcs1]
  omega

open Container in
theorem Container.length_pkcs8_le {bits inverse : ℕ} {k : PrivateKey}
    (h : ∀ n ∈ numbers k inverse, n < 2 ^ bits) (hbits : bits ≤ maxBits) :
    (pkcs8 k inverse).length ≤ 700000 := by
  have hkey := length_pkcs1_le h hbits
  have hversion : (Der.nat 0).length = 3 := by decide
  have halgorithm : (Der.element Der.sequenceTag rsaAlgorithm).length = 15 := by decide
  have hinner : (Der.element Der.octetsTag (pkcs1 k inverse)).length ≤ 600006 := by
    have := length_element_le Der.octetsTag (hkey.trans_lt (by decide))
    omega
  rw [pkcs8]
  set content := Der.nat 0 ++ Der.element Der.sequenceTag rsaAlgorithm ++
    Der.element Der.octetsTag (pkcs1 k inverse) with hcontent
  have hlength : content.length ≤ 600024 := by
    rw [hcontent, List.length_append, List.length_append]
    omega
  have := length_element_le Der.sequenceTag (hlength.trans_lt (by decide))
  omega

theorem length_pem_le {bits inverse : ℕ} {k : PrivateKey}
    (h : ∀ n ∈ Container.numbers k inverse, n < 2 ^ bits) (hbits : bits ≤ maxBits) :
    (Pem.bytes ⟨Container.pkcs1Label, Container.pkcs1 k inverse⟩).length ≤ 1048576 := by
  have hder := length_pkcs1_le h hbits
  have htext := Base64.length_encodePadded_le .standard (Container.pkcs1 k inverse)
  have hwrap := Pem.length_wrap_le (Base64.standard.encodePadded (Container.pkcs1 k inverse))
    (Nat.zero_le _)
  have hbegin : (Bytes.ofString "-----BEGIN ").length = 11 := rfl
  have hend : (Bytes.ofString "-----END ").length = 9 := rfl
  have hdashes : (Bytes.ofString "-----").length = 5 := rfl
  have hlabel : (Bytes.ofString Container.pkcs1Label).length = 15 := rfl
  have hline : Pem.lineEnd.length = 2 := rfl
  simp only [Pem.bytes, List.length_append, hbegin, hend, hdashes, hlabel, hline]
  omega

end Turnstile.Rsa
