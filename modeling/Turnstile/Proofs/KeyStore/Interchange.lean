import Turnstile.KeyFile
import Turnstile.Proofs.KeyStore.Lookup
import Turnstile.Proofs.Rsa.Written
import Turnstile.Token.Authenticator

/-! The two containers of a key hold the same key: what is written in either reads back, both to
check with and to sign with, and a store does not show which one it was. -/

namespace Turnstile

namespace Rsa

/-- The text holds the key in one of the two containers. -/
inductive PrivateKey.WrittenAs (k : PrivateKey) : Bytes → Prop
  | pkcs1 {inverse : ℕ} {text : Bytes} (h : Container.pkcs1Text? k inverse = some text) :
    WrittenAs k text
  | pkcs8 {inverse : ℕ} {text : Bytes} (h : Container.pkcs8Text? k inverse = some text) :
    WrittenAs k text

namespace PrivateKey

variable {k : PrivateKey} {text : Bytes}

theorem WrittenAs.ofPem (hk : k.IsConsistent) (h : k.WrittenAs text) : ofPem text = .ok k := by
  cases h with
  | pkcs1 h =>
    obtain ⟨hlength, rfl⟩ := Container.armour?_eq_some_iff.1 h
    apply ofPem_pkcs1 hk
    exact Nat.lt_succ_of_le hlength
  | pkcs8 h =>
    obtain ⟨hlength, rfl⟩ := Container.armour?_eq_some_iff.1 h
    apply ofPem_pkcs8 hk
    exact Nat.lt_succ_of_le hlength

/-- Both halves of the key come back, whichever container the text holds. -/
theorem WrittenAs.read (hk : k.IsConsistent) (h : k.WrittenAs text) :
    PrivateKey.ofPem text = .ok k ∧ signing? text = some k :=
  ⟨h.ofPem hk, signing?_of_ofPem (h.ofPem hk)⟩

/-- Keys that a loader could hold are short enough to be written both ways. -/
theorem exists_texts {bits inverse : ℕ} (hbits : bits ≤ maxBits)
    (h : ∀ n ∈ Container.numbers k inverse, n < 2 ^ bits) :
    (∃ text, Container.pkcs1Text? k inverse = some text) ∧
      ∃ text, Container.pkcs8Text? k inverse = some text := by
  have hone := length_pkcs1_le h hbits
  have height := Container.length_pkcs8_le h hbits
  refine ⟨⟨_, Container.armour?_eq_some_iff.2 ⟨?_, rfl⟩⟩, _,
    Container.armour?_eq_some_iff.2 ⟨?_, rfl⟩⟩
  · unfold Der.maxLength
    omega
  · unfold Der.maxLength
    omega

end PrivateKey

end Rsa

namespace KeyStore

open Rsa

/-- What is written of a key in either container reads back as the key, to check with and to sign
with. In a store the two do the same: they mint the same tokens, and every token has the same
verdict. -/
theorem containers_interchange {k : PrivateKey} (hk : k.IsConsistent) :
    (∀ text, Generate.pem? k = some text →
      PrivateKey.ofPem text = .ok k ∧ PrivateKey.signing? text = some k) ∧
    (∀ inverse text, Container.pkcs8Text? k inverse = some text →
      PrivateKey.ofPem text = .ok k ∧ PrivateKey.signing? text = some k) ∧
    (∀ text text', k.WrittenAs text → k.WrittenAs text' → ∀ (s : KeyStore) (kid : String),
      ∃ t t', s.add kid text = .ok t ∧ s.add kid text' = .ok t' ∧
        (∀ (auth : Authenticator) claims, auth.generate t claims = auth.generate t' claims) ∧
        ∀ (auth : Authenticator) token now,
          auth.validate t token now = auth.validate t' token now) ∧
    ∀ bits inverse, bits ≤ maxBits → (∀ n ∈ Container.numbers k inverse, n < 2 ^ bits) →
      (∃ text, Container.pkcs1Text? k inverse = some text) ∧
        ∃ text, Container.pkcs8Text? k inverse = some text := by
  refine ⟨?_, ?_, ?_, ?_⟩
  · intro text h
    apply PrivateKey.WrittenAs.read hk
    exact .pkcs1 h
  · intro inverse text h
    apply PrivateKey.WrittenAs.read hk
    exact .pkcs8 h
  · intro text text' h h' s kid
    have hadd : ∀ {b : Bytes}, k.WrittenAs b → s.add kid b = .ok (s.insert kid k) := by
      intro b hb
      rw [add, hb.ofPem hk]
      rfl
    exact ⟨_, _, hadd h, hadd h', fun _ _ => rfl, fun _ _ _ => rfl⟩
  · intro bits inverse hbits h
    exact PrivateKey.exists_texts hbits h

theorem containers_interchange_mersenne :
    mersenneKey.IsConsistent ∧ ∃ text text', Generate.pem? mersenneKey = some text ∧
      Container.pkcs8Text? mersenneKey (Generate.coefficient mersenneKey) = some text' ∧
      PrivateKey.ofPem text = .ok mersenneKey ∧ PrivateKey.ofPem text' = .ok mersenneKey ∧
      ∃ t t', empty.add "k" text = .ok t ∧ empty.add "k" text' = .ok t' ∧
        ∀ token now, (Authenticator.mk "k").validate t token now =
          (Authenticator.mk "k").validate t' token now := by
  have hk : mersenneKey.IsConsistent := PrivateKey.isConsistent_of_ofPem ofPem_mersennePem
  have hshort : ∀ n ∈ Container.numbers mersenneKey (Generate.coefficient mersenneKey),
      n < 2 ^ 648 := by
    decide +kernel
  obtain ⟨hread, hread', hsame, hexists⟩ := containers_interchange hk
  obtain ⟨⟨text, htext⟩, text', htext'⟩ := hexists 648 _ (by decide) hshort
  obtain ⟨t, t', ht, ht', -, hverdict⟩ := hsame text text' (.pkcs1 htext) (.pkcs8 htext') empty "k"
  exact ⟨hk, text, text', htext, htext', (hread text htext).1, (hread' _ text' htext').1, t, t', ht,
    ht', hverdict ⟨"k"⟩⟩

end KeyStore

end Turnstile
