import Turnstile.Proofs.KeyStore.Directory

/-! Key files by their names alone, and what it takes of a list of entries to load: the stems are
text and all different, and behind each is a key. -/

namespace Turnstile.KeyDirectory

/-- A file whose name is the stem with the extension of key files. -/
structure IsKeyFile (f : Found) (stem : Bytes) : Prop where
  isFile : f.isDir = false
  name : f.name = stem ++ Bytes.ofString ".pem"
  ne_nil : stem ≠ []

theorem extension_facts : Bytes.ofString ".pem" = 46 :: extension ∧ (46 : UInt8) ∉ extension ∧
    47 ∉ extension ∧ extension.length = 3 := by
  decide +kernel

theorem keyStem?_eq_some_iff (name stem : Bytes) :
    keyStem? name = some stem ↔ name = stem ++ Bytes.ofString ".pem" ∧ stem ≠ [] := by
  obtain ⟨hdot, hmem, -, hlength⟩ := extension_facts
  have hends : ∀ s : Bytes, s ++ 46 :: extension ≠ FileTree.dotDot := by
    intro s h
    have := congrArg List.length h
    simp [FileTree.dotDot, hlength] at this
  rw [hdot, keyStem?, Option.bind_eq_some_iff]
  refine ⟨?_, ?_⟩
  · rintro ⟨⟨s, ext⟩, hsplit, h⟩
    dsimp only at h
    split_ifs at h with hext
    obtain rfl := Option.some.inj h
    unfold splitExtension? at hsplit
    split_ifs at hsplit
    obtain ⟨hsplit, hne⟩ := Option.filter_eq_some_iff.1 hsplit
    obtain ⟨rfl, -⟩ := (Bytes.splitLast?_eq_some_iff _ _ _ _).1 hsplit
    exact ⟨by rw [hext], by simpa using hne⟩
  · rintro ⟨rfl, hne⟩
    have hsplit := (Bytes.splitLast?_eq_some_iff 46 (stem ++ 46 :: extension) _ _).2 ⟨rfl, hmem⟩
    exact ⟨(stem, extension), by simp [splitExtension?, hends, hsplit, Option.filter, hne], by simp⟩

theorem isKeyFile_iff (f : Found) (stem : Bytes) :
    IsKeyFile f stem ↔ f.isDir = false ∧ keyStem? f.name = some stem := by
  rw [keyStem?_eq_some_iff]
  refine ⟨?_, ?_⟩ <;> exact fun ⟨hfile, hname, hne⟩ => ⟨hfile, hname, hne⟩

theorem IsKeyFile.unique {f : Found} {stem stem' : Bytes} (h : IsKeyFile f stem)
    (h' : IsKeyFile f stem') : stem = stem' :=
  List.append_cancel_right (h.name.symm.trans h'.name)

theorem isPassed_eq_false_iff (f : Found) : f.isPassed = false ↔ ∃ stem, IsKeyFile f stem := by
  simp only [Found.isPassed, Bool.or_eq_false_iff, Option.isNone_eq_false_iff,
    Option.isSome_iff_exists, isKeyFile_iff, exists_and_left]

theorem holds_iff (root : FileTree) (f : Found) (kid : String) (key : Rsa.PrivateKey) :
    Holds root f kid key ↔ IsKeyFile f (Bytes.ofString kid) ∧ ∃ content,
      root.read? f.path = some content ∧ content.length ≤ maxKeySize ∧
        Rsa.PrivateKey.ofPem content = .ok key := by
  refine ⟨?_, ?_⟩
  · rintro ⟨hfile, ⟨stem, hstem, hkid⟩, hread⟩
    obtain rfl := (Bytes.toString?_eq_some_iff stem kid).1 hkid
    exact ⟨(isKeyFile_iff _ _).2 ⟨hfile, hstem⟩, hread⟩
  · rintro ⟨hf, hread⟩
    obtain ⟨hfile, hstem⟩ := (isKeyFile_iff _ _).1 hf
    exact ⟨hfile, ⟨_, hstem, Bytes.toString?_ofString kid⟩, hread⟩

/-- Nothing against the entries: the stems of key files are text, no two are equal, and each file
can be read, is not too long and holds a key. -/
structure Loadable (root : FileTree) (fs : List Found) : Prop where
  named : ∀ f ∈ fs, ∀ stem, IsKeyFile f stem → ∃ kid, stem = Bytes.ofString kid
  distinct : fs.Pairwise fun f g => ∀ stem, IsKeyFile f stem → ¬ IsKeyFile g stem
  read : ∀ f ∈ fs, ∀ stem, IsKeyFile f stem → ∃ content, root.read? f.path = some content ∧
    content.length ≤ maxKeySize ∧ ∃ key, Rsa.PrivateKey.ofPem content = .ok key

section Loadable

variable {root : FileTree} {fs : List Found} {f : Found} {kid : String}

theorem exists_key? (hf : IsKeyFile f (Bytes.ofString kid))
    (hread : ∃ content, root.read? f.path = some content ∧ content.length ≤ maxKeySize ∧
      ∃ key, Rsa.PrivateKey.ofPem content = .ok key) :
    ∃ key, key? root f = some (kid, f.path, key) := by
  obtain ⟨content, hread, hsize, key, hpem⟩ := hread
  exact ⟨key, key?_of_holds ((holds_iff _ _ _ _).2 ⟨hf, content, hread, hsize, hpem⟩)⟩

theorem isKeyFile_of_key? {k : Entry} (h : key? root f = some k) :
    IsKeyFile f (Bytes.ofString k.1) := ((holds_iff _ _ _ _).1 (holds_of_key? h).1).1

/-- The conditions on key files, and those on what is read of them. -/
theorem loads_iff : Loads root fs ↔ Loadable root fs := by
  have hpairs : (∀ f ∈ fs, ∀ stem, IsKeyFile f stem → ∃ k, key? root f = some k) →
      (((keys root fs).map (·.1)).Nodup ↔
        fs.Pairwise fun f g => ∀ stem, IsKeyFile f stem → ¬ IsKeyFile g stem) := by
    intro hkey
    rw [List.Nodup, List.pairwise_map, keys, List.pairwise_filterMap]
    refine List.Pairwise.iff_of_mem fun {f g} hf hg => ⟨?_, ?_⟩
    · intro h stem hfstem hgstem
      obtain ⟨k, hk⟩ := hkey f hf stem hfstem
      obtain ⟨k', hk'⟩ := hkey g hg stem hgstem
      refine h k hk k' hk' (Bytes.ofString_inj ?_)
      rw [(isKeyFile_of_key? hk).unique hfstem, (isKeyFile_of_key? hk').unique hgstem]
    · intro h k hk k' hk' heq
      exact h _ (isKeyFile_of_key? hk) (heq ▸ isKeyFile_of_key? hk')
  refine ⟨?_, ?_⟩
  · rintro ⟨hread, hdistinct⟩
    have hkey : ∀ f ∈ fs, ∀ stem, IsKeyFile f stem → ∃ k, key? root f = some k :=
      fun f hf stem hstem => Option.isSome_iff_exists.1
        (hread f hf ((isPassed_eq_false_iff f).2 ⟨stem, hstem⟩))
    refine ⟨?_, (hpairs hkey).1 hdistinct, ?_⟩
    · intro f hf stem hstem
      obtain ⟨k, hk⟩ := hkey f hf stem hstem
      exact ⟨k.1, hstem.unique (isKeyFile_of_key? hk)⟩
    · intro f hf stem hstem
      obtain ⟨k, hk⟩ := hkey f hf stem hstem
      obtain ⟨content, hcontent, hsize, hpem⟩ := (holds_of_key? hk).1.read
      exact ⟨content, hcontent, hsize, _, hpem⟩
  · rintro ⟨hnamed, hdistinct, hread⟩
    have hkey : ∀ f ∈ fs, ∀ stem, IsKeyFile f stem → ∃ k, key? root f = some k := by
      intro f hf stem hstem
      obtain ⟨kid, rfl⟩ := hnamed f hf stem hstem
      obtain ⟨key, hk⟩ := exists_key? hstem (hread f hf _ hstem)
      exact ⟨_, hk⟩
    refine ⟨?_, (hpairs hkey).2 hdistinct⟩
    intro f hf hpassed
    obtain ⟨stem, hstem⟩ := (isPassed_eq_false_iff f).1 hpassed
    exact Option.isSome_iff_exists.2 (hkey f hf stem hstem)

theorem Loadable.exists_key? (h : Loadable root fs) (hf : f ∈ fs)
    (hkid : IsKeyFile f (Bytes.ofString kid)) : ∃ key, key? root f = some (kid, f.path, key) :=
  KeyDirectory.exists_key? hkid (h.read f hf _ hkid)

end Loadable

/-! What is logged. -/

/-- The name of a key file's key. -/
def kid? (f : Found) : Option String :=
  if f.isDir then none else (keyStem? f.name).bind Bytes.toString?

/-- One event for each key file, in their order. -/
def announced (fs : List Found) : List Event :=
  fs.filterMap fun f => (kid? f).map fun kid => .keyLoaded kid (Text.lossy f.path)

theorem kid?_eq_some_iff (f : Found) (kid : String) :
    kid? f = some kid ↔ IsKeyFile f (Bytes.ofString kid) := by
  rw [isKeyFile_iff, kid?]
  cases f.isDir with
  | true => simp
  | false => simp [Option.bind_eq_some_iff, Bytes.toString?_eq_some_iff]

theorem Loadable.announced_eq {root : FileTree} {fs : List Found} (h : Loadable root fs) :
    (keys root fs).map loadedEvent = announced fs := by
  rw [keys, List.map_filterMap]
  refine List.filterMap_congr fun f hf => ?_
  cases hkid : kid? f with
  | none =>
    have hkey : key? root f = none := by
      rw [Option.eq_none_iff_forall_ne_some]
      intro k hk
      simp [(kid?_eq_some_iff f k.1).2 (isKeyFile_of_key? hk)] at hkid
    simp [hkey]
  | some kid =>
    obtain ⟨key, hkey⟩ := h.exists_key? hf ((kid?_eq_some_iff f kid).1 hkid)
    simp [hkey, loadedEvent]

end Turnstile.KeyDirectory
