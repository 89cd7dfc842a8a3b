import Turnstile.KeyFile
import Turnstile.Proofs.KeyStore.KeyFiles
import Turnstile.Proofs.Program.KeyGenerator
import Turnstile.Proofs.Rsa.Generate
import Turnstile.Proofs.Token.RoundTrip
import Turnstile.Proofs.Uuid

/-! A key that is generated into a directory, and what it is good for afterwards. The directory
loads again, with the key in its store; whether tokens can be minted with it and are accepted goes
by the length of its modulus. -/

namespace Turnstile

namespace NewKey

/-! The name of the file. -/

theorem isName_fileName {kid : String} (h : 47 ∉ Bytes.ofString kid) :
    FileTree.IsName (fileName kid) := by
  obtain ⟨-, -, hslash, hextension⟩ := KeyDirectory.extension_facts
  have hlength : 4 ≤ (fileName kid).length := by
    simp only [fileName, List.length_append, List.length_cons, hextension]
    omega
  have hne : ∀ name : Bytes, name.length < 4 → fileName kid ≠ name := by
    rintro name hshort rfl
    omega
  refine ⟨hne _ (by decide), hne _ (by decide), hne _ (by decide), ?_⟩
  simp [fileName, h, hslash]

theorem keyStem?_fileName {kid : String} (h : Bytes.ofString kid ≠ []) :
    KeyDirectory.keyStem? (fileName kid) = some (Bytes.ofString kid) := by
  rw [KeyDirectory.keyStem?_eq_some_iff, KeyDirectory.extension_facts.1]
  exact ⟨rfl, h⟩

/-! What was written. -/

/-- The file is a new entry of the directory. -/
theorem store_eq_ok {root : FileTree} {dir content : Bytes} {kid : String} {new : NewKey}
    (h : store root dir kid content = .ok new) : ∃ place es,
      root.resolve? dir = some place ∧ root.at? place = some (.dir es) ∧
      (FileTree.dir es).child? (fileName kid) = none ∧
      new = ⟨kid, FileTree.join dir (fileName kid), content,
        root.put (place ++ [fileName kid]) (.file content)⟩ := by
  unfold store at h
  dsimp only at h
  split at h
  · simp at h
  rename_i place hplace
  split_ifs at h with htaken
  obtain ⟨hplace, hdir⟩ := Option.filter_eq_some_iff.1 hplace
  obtain ⟨top, htop, hdir⟩ := (Option.any_eq_true _ _).1 hdir
  cases top with
  | dir es =>
    refine ⟨place, es, hplace, htop, ?_, (Except.ok.inj h).symm⟩
    simpa [FileTree.at?_append, FileTree.at?_singleton, htop] using htaken
  | _ => simp [FileTree.isOpenDir] at hdir

theorem generate_eq_ok {g : Rsa.Generator} (hg : g.IsExact) {root : FileTree} {dir : Bytes}
    {bits : ℕ} {e : Entropy} {new : NewKey} (h : generate g root dir bits e = .ok new) :
    ∃ key r, Rsa.Generated bits key ∧
      store root dir (Uuid.ofRandom r) (Rsa.Generate.pem key) = .ok new := by
  unfold generate at h
  split at h
  · simp at h
  rename_i key e' hkey
  split at h
  · simp at h
  rename_i text htext
  obtain ⟨-, rfl⟩ := Rsa.Container.armour?_eq_some_iff.1 htext
  exact ⟨key, _, hg bits e e' key hkey, h⟩

/-! The directory afterwards. -/

section Loading

variable {root : FileTree} {dir r : Bytes} {bits : ℕ} {key : Rsa.PrivateKey} {keys : KeyStore}
  {new : NewKey}

theorem isName_ofRandom (r : Bytes) : FileTree.IsName (fileName (Uuid.ofRandom r)) :=
  isName_fileName fun h => absurd (Uuid.isMark_of_mem_ofRandom h) (by decide)

/-- The key is added to those that were there. -/
theorem load_of_store (hload : (KeyDirectory.load root dir).1 = .ok keys)
    (hkey : Rsa.Generated bits key)
    (hstore : store root dir (Uuid.ofRandom r) (Rsa.Generate.pem key) = .ok new)
    (hfresh : keys.privateKey? new.kid = none)
    (hsize : new.content.length ≤ KeyDirectory.maxKeySize) :
    ∃ keys', (KeyDirectory.load new.tree dir).1 = .ok keys' ∧ ∀ kid, keys'.privateKey? kid =
      if new.kid = kid then some key else keys.privateKey? kid := by
  obtain ⟨place, es, hplace, hes, hnew, rfl⟩ := store_eq_ok hstore
  have hstem := keyStem?_fileName (Uuid.ofRandom_ne_nil r)
  exact KeyDirectory.load_put hload hplace hes hnew (isName_ofRandom r)
    ⟨_, hstem, Bytes.toString?_ofString _⟩ hsize (hkey.ofPem_pem hsize) hfresh

theorem load_of_store_of_long {content : Bytes} (hload : (KeyDirectory.load root dir).1 = .ok keys)
    (hstore : store root dir (Uuid.ofRandom r) content = .ok new)
    (hsize : KeyDirectory.maxKeySize < new.content.length) (keys' : KeyStore) :
    (KeyDirectory.load new.tree dir).1 ≠ .ok keys' := by
  obtain ⟨place, es, hplace, hes, hnew, rfl⟩ := store_eq_ok hstore
  have hstem := keyStem?_fileName (Uuid.ofRandom_ne_nil r)
  exact KeyDirectory.load_put_of_long hload hplace hes hnew (isName_ofRandom r)
    (by rw [hstem]; rfl) hsize keys'

theorem length_content_of_store (hkey : Rsa.Generated bits key)
    (hstore : store root dir (Uuid.ofRandom r) (Rsa.Generate.pem key) = .ok new)
    (hbits : bits ≤ Rsa.maxBits) : new.content.length ≤ KeyDirectory.maxKeySize := by
  obtain ⟨place, es, -, -, -, rfl⟩ := store_eq_ok hstore
  exact hkey.length_pem_le hbits

end Loading

end NewKey

/-! Minting with a generated key. -/

namespace Authenticator

variable {bits : ℕ} {key : Rsa.PrivateKey} {keys : KeyStore} {kid : String}

theorem generate_of_short (h : Rsa.Generated bits key) (hkey : keys.privateKey? kid = some key)
    (hbits : bits ≤ 488) (claims : Claims) :
    (Authenticator.mk kid).generate keys claims = .error (.fault .messageTooLong) := by
  have hsize := (h.size_le_iff 61).2 hbits
  have hshort : key.public.size < Rsa.minSize := Nat.lt_succ_of_le hsize
  simp only [generate, hkey, Token.sign_of_short hshort]

theorem exists_generate (h : Rsa.Generated bits key) (hkey : keys.privateKey? kid = some key)
    (hbits : 489 ≤ bits) (claims : Claims) : ∃ token, Token.sign key kid claims = .ok token ∧
      (Authenticator.mk kid).generate keys claims = .ok token := by
  have hsize : Rsa.minSize ≤ key.public.size :=
    not_le.1 ((h.size_le_iff 61).not.2 (by omega))
  obtain ⟨signature, hs⟩ := h.consistent.exists_sign h.prime1 h.prime2 h.distinct h.modulus_eq
    hsize (Token.signingInput kid claims)
  have hsign := Token.sign_eq_ok_iff.2 ⟨signature, hs, rfl⟩
  exact ⟨_, hsign, by simp only [generate, hkey, hsign]⟩

end Authenticator

namespace NewKey

/-- A key of any exact generator extends the directory by itself, unless its file is too long. From
489 bits on it mints, and up to 4096 bits its tokens are accepted until they expire. -/
theorem outcome_of_generate {g : Rsa.Generator} (hg : g.IsExact) {root : FileTree} {dir : Bytes}
    {bits : ℕ} {e : Entropy} {keys : KeyStore} {new : NewKey}
    (hload : (KeyDirectory.load root dir).1 = .ok keys)
    (hgen : generate g root dir bits e = .ok new) (hfresh : keys.privateKey? new.kid = none) :
    (bits ≤ Rsa.maxBits → new.content.length ≤ KeyDirectory.maxKeySize) ∧
    (KeyDirectory.maxKeySize < new.content.length →
      ∀ keys', (KeyDirectory.load new.tree dir).1 ≠ .ok keys') ∧
    (new.content.length ≤ KeyDirectory.maxKeySize → ∃ key keys',
      Rsa.Generated bits key ∧ (KeyDirectory.load new.tree dir).1 = .ok keys' ∧
      (∀ kid, keys'.privateKey? kid =
        if new.kid = kid then some key else keys.privateKey? kid) ∧
      Authenticator.new keys' new.kid = .ok ⟨new.kid⟩ ∧
      (bits ≤ 488 → ∀ claims, (Authenticator.mk new.kid).generate keys' claims =
        .error (.fault .messageTooLong)) ∧
      (489 ≤ bits → ∀ claims, ∃ token,
        (Authenticator.mk new.kid).generate keys' claims = .ok token ∧
        (4096 < bits → ∀ now, (Authenticator.mk new.kid).validate keys' token now =
          .error .invalidSignature) ∧
        (bits ≤ 4096 → Word.isSigned64 claims.issuedAt = true →
          Word.isSigned64 claims.expires = true → 0 ≤ claims.expires →
          ∀ now < claims.expires,
            (Authenticator.mk new.kid).validate keys' token now = .ok claims))) := by
  obtain ⟨key, r, hkey, hstore⟩ := generate_eq_ok hg hgen
  refine ⟨length_content_of_store hkey hstore, load_of_store_of_long hload hstore, ?_⟩
  intro hsize
  obtain ⟨keys', hload', hlookup⟩ := load_of_store hload hkey hstore hfresh hsize
  have hfound : keys'.privateKey? new.kid = some key := by
    rw [hlookup, if_pos rfl]
  refine ⟨key, keys', hkey, hload', hlookup, ?_, ?_, ?_⟩
  · simp [Authenticator.new, hfound]
  · exact Authenticator.generate_of_short hkey hfound
  intro hbits claims
  obtain ⟨token, hsign, hgenerate⟩ := Authenticator.exists_generate hkey hfound hbits claims
  refine ⟨token, hgenerate, ?_, ?_⟩
  · intro hlong now
    have hsize := (hkey.size_le_iff 512).not.2 (not_le.2 hlong)
    exact Token.validate_of_sign_of_long hsign hfound (not_le.1 hsize) now
  · intro hshort hiat hexp h0 now hnow
    have hsize := (hkey.size_le_iff 512).2 hshort
    have hjudged := Token.validate_of_sign hsign hfound hsize hiat hexp h0 now
    exact hjudged.trans (if_neg (not_le.2 hnow))

/-- A tree with an empty directory for keys. -/
def emptyTree : FileTree := .dir [(Bytes.ofString "keys", .dir [])]

theorem load_emptyTree :
    (KeyDirectory.load emptyTree (Bytes.ofString "keys")).1 = .ok (KeyDirectory.storeOf []) := by
  have htop : emptyTree.lookupEntry? (Bytes.ofString "keys") = some (.dir []) := rfl
  have hdir : emptyTree.lookup? (Bytes.ofString "keys") = some (.dir []) := rfl
  have hwalk : (FileTree.dir []).walk = [([], .dir [])] := by
    rw [FileTree.walk_dir, FileTree.flattenEntries, List.mergeSort_nil]
  have hvisit := KeyDirectory.visit_eq_true_iff.2 ⟨_, _, htop, hdir, by simp [hwalk], rfl⟩
  rw [hwalk] at hvisit
  exact (KeyDirectory.load_eq_ok_iff _ _ _).2 ⟨_, hvisit, ⟨by simp [KeyDirectory.Found.isPassed,
    FileTree.isDir], by simp [KeyDirectory.keys, KeyDirectory.key?, FileTree.isDir]⟩, rfl⟩

/-- Bytes that are all zero. -/
def zeros : Entropy := fun _ => 0

theorem outcome_of_generate_seventeen : ∃ new keys' key,
    Rsa.Generator.IsExact KeyGenerator.key? ∧
    (KeyDirectory.load emptyTree (Bytes.ofString "keys")).1 = .ok (KeyDirectory.storeOf []) ∧
    generate KeyGenerator.key? emptyTree (Bytes.ofString "keys") 17 zeros = .ok new ∧
    (KeyDirectory.storeOf []).privateKey? new.kid = none ∧
    (KeyDirectory.load new.tree (Bytes.ofString "keys")).1 = .ok keys' ∧
    keys'.privateKey? new.kid = some key ∧
    Authenticator.new keys' new.kid = .ok ⟨new.kid⟩ ∧
    ∀ claims, (Authenticator.mk new.kid).generate keys' claims =
      .error (.fault .messageTooLong) := by
  have hsome : (generate KeyGenerator.key? emptyTree (Bytes.ofString "keys") 17
      zeros).toOption.isSome = true := by
    decide +kernel
  obtain ⟨new, hgen⟩ :
      ∃ new, generate KeyGenerator.key? emptyTree (Bytes.ofString "keys") 17 zeros = .ok new := by
    cases h : generate KeyGenerator.key? emptyTree (Bytes.ofString "keys") 17 zeros with
    | error _ => simp [h, Except.toOption] at hsome
    | ok new => exact ⟨new, rfl⟩
  obtain ⟨hsize, -, hshort⟩ := outcome_of_generate KeyGenerator.isExact_key? load_emptyTree hgen rfl
  obtain ⟨key, keys', -, hload, hlookup, hnew, hfault, -⟩ := hshort (hsize (by decide))
  exact ⟨new, keys', key, KeyGenerator.isExact_key?, load_emptyTree, hgen, rfl, hload,
    by rw [hlookup, if_pos rfl], hnew, hfault (by decide)⟩

end NewKey

end Turnstile
