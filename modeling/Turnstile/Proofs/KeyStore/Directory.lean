import Mathlib.Tactic
import Turnstile.KeyDirectory
import Turnstile.Proofs.FileTree.Paths
import Turnstile.Proofs.FileTree.Walk
import Turnstile.Proofs.KeyStore.Lookup

/-! Loading a directory comes to two conditions on what the walk meets, in whatever order: each
entry is passed over or reads as a key, and no two keys share a name. -/

namespace Turnstile.KeyDirectory

/-- A name, the path of a file, and the key that it holds. -/
abbrev Entry := String × Bytes × Rsa.PrivateKey

/-- A directory, or a name without the extension of key files. -/
def Found.isPassed (f : Found) : Bool := f.isDir || (keyStem? f.name).isNone

/-- The key of an entry that is not passed over, if it reads. -/
def key? (root : FileTree) (f : Found) : Option Entry :=
  if f.isDir then none
  else do
    let stem ← keyStem? f.name
    let kid ← Bytes.toString? stem
    let content ← root.read? f.path
    if maxKeySize < content.length then none
    else (Rsa.PrivateKey.ofPem content).toOption.map (kid, f.path, ·)

theorem key?_of_isPassed {r : FileTree} {f : Found} (h : f.isPassed = true) :
    key? r f = none := by
  simp only [Found.isPassed, Bool.or_eq_true, Option.isNone_iff_eq_none] at h
  rcases h with h | h <;> simp [key?, h]

/-- The entry is a file under the extension, short enough, and holds the key. -/
structure Holds (root : FileTree) (f : Found) (kid : String) (key : Rsa.PrivateKey) : Prop where
  isFile : f.isDir = false
  named : ∃ stem, keyStem? f.name = some stem ∧ Bytes.toString? stem = some kid
  read : ∃ content, root.read? f.path = some content ∧ content.length ≤ maxKeySize ∧
    Rsa.PrivateKey.ofPem content = .ok key

theorem key?_of_holds {root : FileTree} {f : Found} {kid : String} {key : Rsa.PrivateKey}
    (h : Holds root f kid key) : key? root f = some (kid, f.path, key) := by
  obtain ⟨stem, hstem, hkid⟩ := h.named
  obtain ⟨content, hread, hsize, hpem⟩ := h.read
  simp [key?, h.isFile, hstem, hkid, hread, not_lt.2 hsize, hpem, Except.toOption]

theorem holds_of_key? {root : FileTree} {f : Found} {k : Entry} (h : key? root f = some k) :
    Holds root f k.1 k.2.2 ∧ k.2.1 = f.path := by
  unfold key? at h
  split_ifs at h with hdir
  obtain ⟨stem, hstem, h⟩ := Option.bind_eq_some_iff.1 h
  obtain ⟨kid, hkid, h⟩ := Option.bind_eq_some_iff.1 h
  obtain ⟨content, hread, h⟩ := Option.bind_eq_some_iff.1 h
  split_ifs at h with hsize
  obtain ⟨key, hpem, rfl⟩ := Option.map_eq_some_iff.1 h
  have hok : Rsa.PrivateKey.ofPem content = .ok key := by
    cases hc : Rsa.PrivateKey.ofPem content with
    | error e => simp [hc, Except.toOption] at hpem
    | ok key' => simpa [hc, Except.toOption] using hpem
  exact ⟨⟨by simpa using hdir, ⟨stem, hstem, hkid⟩, content, hread, not_lt.1 hsize, hok⟩, rfl⟩

theorem key?_mono {root root' : FileTree} (hx : FileTree.Extends root root') {f : Found} {k : Entry}
    (h : key? root f = some k) : key? root' f = some k := by
  obtain ⟨⟨hfile, hnamed, content, hread, hrest⟩, hpath⟩ := holds_of_key? h
  rw [key?_of_holds ⟨hfile, hnamed, content, FileTree.read?_mono hx hread, hrest⟩, ← hpath]

theorem find?_eq_none_iff (loaded : Loaded) (kid : String) :
    loaded.find? (·.1 == kid) = none ↔ kid ∉ loaded.map (·.1) := by
  rw [List.find?_eq_none, List.mem_map]
  refine ⟨?_, ?_⟩
  · rintro h ⟨k, hk, rfl⟩
    exact h k hk (beq_self_eq_true k.1)
  · intro h k hk he
    exact h ⟨k, hk, beq_iff_eq.1 he⟩

/-- An entry is passed over, or its key is a new one. -/
theorem loadEntry_eq_ok_iff (root : FileTree) (loaded loaded' : Loaded) (f : Found) :
    loadEntry root loaded f = .ok loaded' ↔
      f.isPassed = true ∧ loaded' = loaded ∨
        ∃ k, key? root f = some k ∧ k.1 ∉ loaded.map (·.1) ∧ loaded' = k :: loaded := by
  refine ⟨?_, ?_⟩
  · intro h
    unfold loadEntry at h
    split_ifs at h with hdir
    · exact Or.inl ⟨by simp [Found.isPassed, hdir], (Except.ok.inj h).symm⟩
    split at h
    · rename_i hstem
      exact Or.inl ⟨by simp [Found.isPassed, hstem], (Except.ok.inj h).symm⟩
    rename_i stem hstem
    split at h
    · simp at h
    rename_i kid hkid
    split at h
    · simp at h
    rename_i hnew
    split at h
    · simp at h
    rename_i content hread
    split_ifs at h with hsize
    split at h
    · simp at h
    rename_i key hpem
    have hholds : Holds root f kid key := ⟨by simpa using hdir, ⟨stem, hstem, hkid⟩,
      content, hread, not_lt.1 hsize, hpem⟩
    exact Or.inr ⟨_, key?_of_holds hholds, (find?_eq_none_iff _ _).1 hnew, (Except.ok.inj h).symm⟩
  · rintro (⟨hpassed, rfl⟩ | ⟨k, hk, hnew, rfl⟩)
    · simp only [Found.isPassed, Bool.or_eq_true, Option.isNone_iff_eq_none] at hpassed
      rcases hpassed with h | h <;> simp [loadEntry, h]
    · obtain ⟨kid, path, key⟩ := k
      obtain ⟨⟨hfile, ⟨stem, hstem, hkid⟩, content, hread, hsize, hpem⟩, rfl⟩ := holds_of_key? hk
      simp only [loadEntry, hfile, hstem, hkid, (find?_eq_none_iff _ _).2 hnew, hread,
        if_neg (not_lt.2 hsize), hpem]
      rfl

/-- The keys of entries, in their order. -/
def keys (root : FileTree) (fs : List Found) : List Entry := fs.filterMap (key? root)

theorem keys_cons_of_isPassed {root : FileTree} {f : Found} (h : f.isPassed = true)
    (fs : List Found) : keys root (f :: fs) = keys root fs := by
  rw [keys, List.filterMap_cons, key?_of_isPassed h, keys]

theorem keys_cons {root : FileTree} {f : Found} {k : Entry} (h : key? root f = some k)
    (fs : List Found) : keys root (f :: fs) = k :: keys root fs := by
  rw [keys, List.filterMap_cons, h, keys]

/-- Every entry is passed over or reads, and the keys have names of their own. -/
structure Loads (root : FileTree) (fs : List Found) : Prop where
  read : ∀ f ∈ fs, f.isPassed = false → (key? root f).isSome = true
  distinct : ((keys root fs).map (·.1)).Nodup

theorem loads_cons_iff_of_isPassed {root : FileTree} {f : Found} (h : f.isPassed = true)
    (fs : List Found) : Loads root (f :: fs) ↔ Loads root fs := by
  refine ⟨?_, ?_⟩
  · rintro ⟨hread, hdistinct⟩
    rw [keys_cons_of_isPassed h] at hdistinct
    exact ⟨(List.forall_mem_cons.1 hread).2, hdistinct⟩
  · rintro ⟨hread, hdistinct⟩
    rw [← keys_cons_of_isPassed h] at hdistinct
    exact ⟨List.forall_mem_cons.2 ⟨by simp [h], hread⟩, hdistinct⟩

theorem loads_cons_iff {root : FileTree} {f : Found} {k : Entry} (h : key? root f = some k)
    (fs : List Found) :
    Loads root (f :: fs) ↔ Loads root fs ∧ k.1 ∉ (keys root fs).map (·.1) := by
  refine ⟨?_, ?_⟩
  · rintro ⟨hread, hdistinct⟩
    rw [keys_cons h, List.map_cons, List.nodup_cons] at hdistinct
    exact ⟨⟨(List.forall_mem_cons.1 hread).2, hdistinct.2⟩, hdistinct.1⟩
  · rintro ⟨⟨hread, hdistinct⟩, hnew⟩
    refine ⟨List.forall_mem_cons.2 ⟨by simp [h], hread⟩, ?_⟩
    rw [keys_cons h, List.map_cons, List.nodup_cons]
    exact ⟨hnew, hdistinct⟩

theorem loadEntries_cons_eq_iff (root : FileTree) (loaded loaded' : Loaded) (f : Found)
    (fs : List Found) : loadEntries root loaded (f :: fs) = (loaded', none) ↔
      ∃ next, loadEntry root loaded f = .ok next ∧ loadEntries root next fs = (loaded', none) := by
  rw [loadEntries]
  cases loadEntry root loaded f with
  | error e => simp
  | ok next => simp

/-- The keys of the entries, and none of them among the loaded ones. -/
theorem loadEntries_eq_iff (root : FileTree) (loaded loaded' : Loaded) (fs : List Found) :
    loadEntries root loaded fs = (loaded', none) ↔
      Loads root fs ∧ (∀ k ∈ keys root fs, k.1 ∉ loaded.map (·.1)) ∧
        loaded' = (keys root fs).reverse ++ loaded := by
  induction fs generalizing loaded with
  | nil =>
    refine ⟨?_, ?_⟩
    · intro h
      exact ⟨⟨by simp, by simp [keys]⟩, by simp [keys], (Prod.mk.inj h).1.symm⟩
    · rintro ⟨-, -, rfl⟩
      rfl
  | cons f fs ih =>
    rw [loadEntries_cons_eq_iff]
    cases hpassed : f.isPassed with
    | true =>
      have hnext : ∀ next, loadEntry root loaded f = .ok next ↔ next = loaded := by
        intro next
        rw [loadEntry_eq_ok_iff]
        simp [hpassed, key?_of_isPassed (r := root) hpassed]
      simp only [hnext, exists_eq_left, ih, loads_cons_iff_of_isPassed hpassed,
        keys_cons_of_isPassed hpassed]
    | false =>
      cases hk : key? root f with
      | none =>
        have hnext : ∀ next, loadEntry root loaded f ≠ .ok next := by
          intro next
          rw [ne_eq, loadEntry_eq_ok_iff]
          simp [hpassed, hk]
        refine ⟨by simp [hnext], ?_⟩
        rintro ⟨hloads, -⟩
        have := hloads.read f List.mem_cons_self hpassed
        simp [hk] at this
      | some k =>
        have hnext : ∀ next, loadEntry root loaded f = .ok next ↔
            k.1 ∉ loaded.map (·.1) ∧ next = k :: loaded := by
          intro next
          rw [loadEntry_eq_ok_iff]
          simp [hpassed, hk]
        have happend : (keys root fs).reverse ++ k :: loaded =
            (keys root (f :: fs)).reverse ++ loaded := by
          rw [keys_cons hk, List.reverse_cons, List.append_assoc, List.singleton_append]
        -- `k` is apart from the loaded ones and the later ones from both, in either reading
        have hapart : (k.1 ∉ loaded.map (·.1) ∧
              ∀ k' ∈ keys root fs, k'.1 ∉ (k :: loaded).map (·.1)) ↔
            k.1 ∉ (keys root fs).map (·.1) ∧
              ∀ k' ∈ keys root (f :: fs), k'.1 ∉ loaded.map (·.1) := by
          rw [keys_cons hk]
          simp only [List.map_cons, List.mem_cons, List.mem_map]
          grind
        simp only [hnext, and_assoc, exists_and_left, exists_eq_left, ih, happend,
          loads_cons_iff hk]
        tauto

/-- The store of loaded keys. -/
def storeOf (ks : List Entry) : KeyStore := KeyStore.ofList (ks.map fun k => (k.1, k.2.2))

/-- Loading succeeds exactly when the walk comes to its end and both conditions hold, and then the
store has all keys. -/
theorem load_eq_ok_iff (root : FileTree) (path : Bytes) (store : KeyStore) :
    (load root path).1 = .ok store ↔
      ∃ found, visit root path = ⟨found, true⟩ ∧ Loads root found ∧
        store = storeOf (keys root found) := by
  unfold load
  rcases visit root path with ⟨found, complete⟩
  simp only [Walk.mk.injEq, and_assoc, exists_eq_left']
  rcases hload : loadEntries root [] found with ⟨loaded, _ | e⟩
  · obtain ⟨hloads, -, rfl⟩ := (loadEntries_eq_iff root [] loaded found).1 hload
    cases complete with
    | false => simp
    | true =>
      simp only [List.append_nil, List.reverse_reverse, if_true, Except.ok.injEq, true_and]
      exact ⟨fun h => ⟨hloads, h.symm⟩, fun h => h.2.symm⟩
  · refine ⟨by simp, ?_⟩
    rintro ⟨-, hloads, -⟩
    have := (loadEntries_eq_iff root [] _ found).2 ⟨hloads, by simp, rfl⟩
    simp [hload] at this

theorem mem_of_lookup {ks : List (String × Rsa.PrivateKey)} {kid : String} {key : Rsa.PrivateKey}
    (h : ks.lookup kid = some key) : (kid, key) ∈ ks := by
  obtain ⟨l, r, rfl, -⟩ := List.lookup_eq_some_iff.1 h
  simp

theorem lookup_eq_some_iff_mem {ks : List (String × Rsa.PrivateKey)} (h : (ks.map (·.1)).Nodup)
    (kid : String) (key : Rsa.PrivateKey) : ks.lookup kid = some key ↔ (kid, key) ∈ ks := by
  refine ⟨mem_of_lookup, ?_⟩
  intro hmem
  obtain ⟨l, r, rfl⟩ := List.append_of_mem hmem
  refine List.lookup_eq_some_iff.2 ⟨l, r, rfl, ?_⟩
  intro k hk
  simp only [List.map_append, List.map_cons, List.nodup_append] at h
  have hne := h.2.2 k.1 (List.mem_map.2 ⟨k, hk, rfl⟩) kid (by simp)
  simpa using Ne.symm hne

theorem privateKey?_storeOf {ks : List Entry} (h : (ks.map (·.1)).Nodup) (kid : String)
    (key : Rsa.PrivateKey) :
    (storeOf ks).privateKey? kid = some key ↔ ∃ path, (kid, path, key) ∈ ks := by
  have hdistinct : (((ks.map fun k => (k.1, k.2.2)).reverse).map (·.1)).Nodup := by
    rw [List.map_reverse, List.nodup_reverse, List.map_map]
    exact h
  rw [storeOf, KeyStore.privateKey?_ofList, lookup_eq_some_iff_mem hdistinct, List.mem_reverse,
    List.mem_map]
  refine ⟨?_, ?_⟩
  · rintro ⟨⟨kid', path, key'⟩, hmem, heq⟩
    obtain ⟨rfl, rfl⟩ := Prod.mk.inj heq
    exact ⟨path, hmem⟩
  · rintro ⟨path, hmem⟩
    exact ⟨_, hmem, rfl⟩

theorem privateKey?_storeOf_of_perm {ks ks' : List Entry} {k : Entry} (hp : ks'.Perm (k :: ks))
    (h : (ks'.map (·.1)).Nodup) (kid : String) : (storeOf ks').privateKey? kid =
      if k.1 = kid then some k.2.2 else (storeOf ks).privateKey? kid := by
  have hcons : ((k :: ks).map (·.1)).Nodup := ((hp.map _).nodup_iff).1 h
  obtain ⟨hnew, hks⟩ := List.nodup_cons.1 hcons
  ext key
  rw [privateKey?_storeOf h]
  simp only [hp.mem_iff, List.mem_cons]
  split_ifs with hkid
  · subst hkid
    refine ⟨?_, ?_⟩
    · rintro ⟨path, heq | hmem⟩
      · rw [← heq]
      · exact absurd (List.mem_map.2 ⟨_, hmem, rfl⟩) hnew
    · intro he
      obtain rfl := Option.some.inj he
      exact ⟨k.2.1, Or.inl rfl⟩
  · rw [privateKey?_storeOf hks]
    refine ⟨?_, ?_⟩
    · rintro ⟨path, rfl | hmem⟩
      · exact absurd rfl hkid
      · exact ⟨path, hmem⟩
    · rintro ⟨path, hmem⟩
      exact ⟨path, Or.inr hmem⟩

/-! The order of the walk does not matter. -/

theorem Loads.perm {root : FileTree} {fs fs' : List Found} (h : Loads root fs)
    (hp : fs.Perm fs') : Loads root fs' where
  read f hf := h.read f (hp.mem_iff.2 hf)
  distinct := (((hp.filterMap _).map _).nodup_iff).1 h.distinct

/-- In a tree that has grown, what could be read reads the same. -/
theorem Loads.keys_eq {root root' : FileTree} (hx : FileTree.Extends root root') {fs : List Found}
    (h : Loads root fs) : keys root' fs = keys root fs := by
  refine List.filterMap_congr fun f hf => ?_
  cases hpassed : f.isPassed with
  | true => rw [key?_of_isPassed hpassed, key?_of_isPassed hpassed]
  | false =>
    obtain ⟨k, hk⟩ := Option.isSome_iff_exists.1 (h.read f hf hpassed)
    rw [hk, key?_mono hx hk]

theorem Loads.mono {root root' : FileTree} (hx : FileTree.Extends root root') {fs : List Found}
    (h : Loads root fs) : Loads root' fs where
  read f hf hpassed := by
    obtain ⟨k, hk⟩ := Option.isSome_iff_exists.1 (h.read f hf hpassed)
    rw [key?_mono hx hk]
    rfl
  distinct := by
    rw [h.keys_eq hx]
    exact h.distinct

/-- An entry of a walk, as it is met under a path. -/
def foundBelow (path : Bytes) (e : List Bytes × FileTree) : Found :=
  ⟨childPath path e.1, e.1.getLast?.getD [], e.2.isDir⟩

theorem visit_of_lookup {root top target : FileTree} {path : Bytes}
    (htop : root.lookupEntry? path = some top) (htarget : root.lookup? path = some target) :
    visit root path = ⟨⟨path, lastName path, top.isDir⟩ ::
      ((FileTree.reach target.walk).1.drop 1).map (foundBelow path),
      (FileTree.reach target.walk).2⟩ := by
  simp only [visit, htop, htarget]
  rfl

/-- A path that leads nowhere. -/
theorem visit_of_not_lookup {root : FileTree} {path : Bytes}
    (h : root.lookupEntry? path = none ∨ root.lookup? path = none) :
    visit root path = ⟨[], false⟩ := by
  unfold visit
  split
  · simp_all
  · rfl

/-- A walk that comes to its end met the path and all that is below. -/
theorem visit_eq_true_iff {root : FileTree} {path : Bytes} {found : List Found} :
    visit root path = ⟨found, true⟩ ↔ ∃ top target, root.lookupEntry? path = some top ∧
      root.lookup? path = some target ∧ (∀ x ∈ target.walk, x.2 ≠ .closed true) ∧
      found = ⟨path, lastName path, top.isDir⟩ :: (target.walk.drop 1).map (foundBelow path) := by
  refine ⟨?_, ?_⟩
  · intro h
    cases htop : root.lookupEntry? path with
    | none => simp [visit_of_not_lookup (Or.inl htop)] at h
    | some top =>
      cases htarget : root.lookup? path with
      | none => simp [visit_of_not_lookup (Or.inr htarget)] at h
      | some target =>
        rw [visit_of_lookup htop htarget] at h
        obtain ⟨rfl, hcomplete⟩ := Walk.mk.inj h
        have hreach : FileTree.reach target.walk = ((FileTree.reach target.walk).1, true) :=
          Prod.ext rfl hcomplete
        obtain ⟨hmet, hopen⟩ := (FileTree.reach_eq_true_iff _ _).1 hreach
        exact ⟨top, target, rfl, rfl, hopen, by rw [hmet]⟩
  · rintro ⟨top, target, htop, htarget, hopen, rfl⟩
    rw [visit_of_lookup htop htarget, (FileTree.reach_eq_true_iff _ _).2 ⟨rfl, hopen⟩]

/-- What the walk of a directory meets when one more file is in it. -/
theorem visit_put {root : FileTree} {path name : Bytes} {place : List Bytes}
    {es : List (Bytes × FileTree)} {found : List Found} (hplace : root.resolve? path = some place)
    (hes : root.at? place = some (.dir es)) (hnew : (FileTree.dir es).child? name = none)
    (content : Bytes) (hvisit : visit root path = ⟨found, true⟩) :
    ∃ found', visit (root.put (place ++ [name]) (.file content)) path = ⟨found', true⟩ ∧
      found'.Perm (⟨FileTree.join path name, name, false⟩ :: found) := by
  have hx : FileTree.Extends root (root.put (place ++ [name]) (.file content)) :=
    FileTree.extends_put hes hnew _
  have hdir' : (root.put (place ++ [name]) (.file content)).lookup? path =
      some (.dir (es ++ [(name, .file content)])) := by
    rw [FileTree.lookup?, FileTree.resolve?_mono hx hplace, Option.bind_some]
    exact FileTree.at?_put hes hnew _
  obtain ⟨top, target, htop, hdir, hopen, rfl⟩ := visit_eq_true_iff.1 hvisit
  obtain rfl : FileTree.dir es = target := by
    rw [FileTree.lookup?, hplace, Option.bind_some, hes] at hdir
    exact Option.some.inj hdir
  obtain ⟨top', htop', halike⟩ := FileTree.lookupEntry?_mono hx htop
  have hwalk := FileTree.walk_concat_perm es name content
  have hopen' : ∀ x ∈ (FileTree.dir (es ++ [(name, .file content)])).walk, x.2 ≠ .closed true := by
    intro x hx
    rw [FileTree.walk_dir] at hx hwalk
    rcases List.mem_cons.1 hx with rfl | hx
    · simp
    · rcases List.mem_cons.1 (hwalk.mem_iff.1 hx) with rfl | hx
      · simp
      · exact hopen x (List.mem_of_mem_drop hx)
  refine ⟨_, visit_eq_true_iff.2 ⟨top', _, htop', hdir', hopen', rfl⟩, ?_⟩
  rw [halike.isDir]
  exact ((hwalk.map (foundBelow path)).cons _).trans (List.Perm.swap _ _ _)

/-- A key file more in a directory that loads: it loads again, with its key besides. -/
theorem load_put {root : FileTree} {path name content : Bytes} {place : List Bytes}
    {es : List (Bytes × FileTree)} {kid : String} {key : Rsa.PrivateKey} {store : KeyStore}
    (hload : (load root path).1 = .ok store) (hplace : root.resolve? path = some place)
    (hes : root.at? place = some (.dir es)) (hnew : (FileTree.dir es).child? name = none)
    (hname : FileTree.IsName name)
    (hkid : ∃ stem, keyStem? name = some stem ∧ Bytes.toString? stem = some kid)
    (hsize : content.length ≤ maxKeySize) (hpem : Rsa.PrivateKey.ofPem content = .ok key)
    (hfresh : store.privateKey? kid = none) :
    ∃ store', (load (root.put (place ++ [name]) (.file content)) path).1 = .ok store' ∧
      ∀ k, store'.privateKey? k = if kid = k then some key else store.privateKey? k := by
  obtain ⟨found, hvisit, hloads, rfl⟩ := (load_eq_ok_iff _ _ _).1 hload
  obtain ⟨found', hvisit', hperm⟩ := visit_put hplace hes hnew content hvisit
  set root' := root.put (place ++ [name]) (.file content)
  have hx : FileTree.Extends root root' := FileTree.extends_put hes hnew _
  have hread : root'.read? (FileTree.join path name) = some content :=
    FileTree.read?_put hplace hes hnew hname content
  have hkey : key? root' ⟨FileTree.join path name, name, false⟩ =
      some (kid, FileTree.join path name, key) :=
    key?_of_holds ⟨rfl, hkid, content, hread, hsize, hpem⟩
  have hother : kid ∉ (keys root' found).map (·.1) := by
    rw [hloads.keys_eq hx]
    intro hmem
    obtain ⟨⟨kid, at', key'⟩, hold, rfl⟩ := List.mem_map.1 hmem
    rw [(privateKey?_storeOf hloads.distinct kid key').2 ⟨at', hold⟩] at hfresh
    simp at hfresh
  have hloads' : Loads root' found' :=
    ((loads_cons_iff hkey found).2 ⟨hloads.mono hx, hother⟩).perm hperm.symm
  have hkeys : (keys root' found').Perm ((kid, FileTree.join path name, key) :: keys root found) := by
    rw [← hloads.keys_eq hx, ← keys_cons hkey]
    exact hperm.filterMap _
  exact ⟨_, (load_eq_ok_iff _ _ _).2 ⟨found', hvisit', hloads', rfl⟩,
    privateKey?_storeOf_of_perm hkeys hloads'.distinct⟩

/-- A key file that is too long spoils the directory. -/
theorem load_put_of_long {root : FileTree} {path name content : Bytes} {place : List Bytes}
    {es : List (Bytes × FileTree)} {store : KeyStore} (hload : (load root path).1 = .ok store)
    (hplace : root.resolve? path = some place) (hes : root.at? place = some (.dir es))
    (hnew : (FileTree.dir es).child? name = none) (hname : FileTree.IsName name)
    (hstem : (keyStem? name).isSome = true) (hsize : maxKeySize < content.length)
    (store' : KeyStore) :
    (load (root.put (place ++ [name]) (.file content)) path).1 ≠ .ok store' := by
  obtain ⟨found, hvisit, -, -⟩ := (load_eq_ok_iff _ _ _).1 hload
  obtain ⟨found', hvisit', hperm⟩ := visit_put hplace hes hnew content hvisit
  intro hok
  obtain ⟨met, hmet, hloads, -⟩ := (load_eq_ok_iff _ _ _).1 hok
  obtain rfl := (Walk.mk.inj (hvisit'.symm.trans hmet)).1
  have hread := FileTree.read?_put hplace hes hnew hname content
  have hmem : ⟨FileTree.join path name, name, false⟩ ∈ found' :=
    hperm.mem_iff.2 List.mem_cons_self
  have hkey := hloads.read _ hmem (by simpa [Found.isPassed] using hstem)
  obtain ⟨k, hk⟩ := Option.isSome_iff_exists.1 hkey
  obtain ⟨⟨-, -, content', hread', hshort, -⟩, -⟩ := holds_of_key? hk
  obtain rfl := Option.some.inj (hread.symm.trans hread')
  exact absurd hshort (not_le.2 hsize)

end Turnstile.KeyDirectory
