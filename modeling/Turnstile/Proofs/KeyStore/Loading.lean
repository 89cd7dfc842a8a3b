import Turnstile.Proofs.FileTree.Order
import Turnstile.Proofs.KeyStore.KeyFiles
import Turnstile.Proofs.Rsa.Container

/-! What loading a directory comes to. Everything below it is met in one order; the first key file
with something against it decides the error, after the keys before it; without one, each key is in
the store under the name of its file. -/

namespace Turnstile.KeyDirectory

/-! What is met. -/

/-- What is to be met from a path: nothing if it leads nowhere; else the path itself, and below a
directory each entry once, depth first and in byte order, up to a directory that cannot be listed.
The files among them read under their paths. -/
inductive Visits (root : FileTree) (path : Bytes) : Walk → Prop
  | nowhere (h : root.lookupEntry? path = none ∨ root.lookup? path = none) :
    Visits root path ⟨[], false⟩
  | single {top target : FileTree} (htop : root.lookupEntry? path = some top)
    (htarget : root.lookup? path = some target) (h : target.isDir = false) :
    Visits root path ⟨[⟨path, lastName path, top.isDir⟩], true⟩
  | shut {top : FileTree} (htop : root.lookupEntry? path = some top)
    (h : root.lookup? path = some (.closed true)) :
    Visits root path ⟨[⟨path, lastName path, top.isDir⟩], false⟩
  | directory {top : FileTree} {es : List (Bytes × FileTree)}
    {all below : List (List Bytes × FileTree)} {complete : Bool}
    (htop : root.lookupEntry? path = some top) (hdir : root.lookup? path = some (.dir es))
    (horder : all.Pairwise FileTree.Precedes)
    (hall : ∀ names e, (names, e) ∈ all ↔ names ≠ [] ∧ (FileTree.dir es).at? names = some e)
    (hbelow : FileTree.Reaches all below complete)
    (hread : ∀ names content, (FileTree.dir es).at? names = some (.file content) →
      root.read? (childPath path names) = some content) :
    Visits root path ⟨⟨path, lastName path, top.isDir⟩ :: below.map (foundBelow path), complete⟩

theorem visits_of_dir {root top : FileTree} (h : root.IsProper) {path : Bytes}
    {es : List (Bytes × FileTree)} (htop : root.lookupEntry? path = some top)
    (hdir : root.lookup? path = some (.dir es)) : Visits root path (visit root path) := by
  have hproper := h.lookup? hdir
  have hsorted := FileTree.pairwise_depthFirst _ hproper
  have hmem := FileTree.mem_depthFirst_iff hproper
  rw [visit_of_lookup htop hdir, FileTree.walk_eq_depthFirst hproper]
  obtain ⟨all, hhead⟩ : ∃ all, (FileTree.dir es).depthFirst = [([], .dir es)] ++ all :=
    ⟨_, by rw [FileTree.depthFirst]; rfl⟩
  rw [hhead] at hsorted hmem ⊢
  obtain ⟨hfirst, hsorted⟩ := List.pairwise_cons.1 hsorted
  rw [FileTree.reach_append (by simp)]
  refine .directory htop hdir hsorted ?_ (FileTree.reaches_reach all) ?_
  · intro names e
    rw [← hmem, List.singleton_append, List.mem_cons]
    refine ⟨fun hbelow => ⟨(hfirst _ hbelow).2.symm, Or.inr hbelow⟩, ?_⟩
    rintro ⟨hne, heq | hbelow⟩
    · exact absurd (Prod.mk.inj heq).1 hne
    · exact hbelow
  · intro names content hfile
    exact FileTree.read?_below h hdir hfile

/-- The walk of the program visits what it should. -/
theorem visits_visit {root : FileTree} (h : root.IsProper) (path : Bytes) :
    Visits root path (visit root path) := by
  cases htop : root.lookupEntry? path with
  | none =>
    rw [visit_of_not_lookup (Or.inl htop)]
    exact .nowhere (Or.inl htop)
  | some top =>
    cases htarget : root.lookup? path with
    | none =>
      rw [visit_of_not_lookup (Or.inr htarget)]
      exact .nowhere (Or.inr htarget)
    | some target =>
      have hvisit := visit_of_lookup htop htarget
      rw [FileTree.walk_eq_depthFirst (h.lookup? htarget)] at hvisit
      match target with
      | .dir es => exact visits_of_dir h htop htarget
      | .closed true =>
        rw [hvisit, FileTree.depthFirst]
        exact .shut htop htarget
      | .file content | .link target | .closed false =>
        rw [hvisit, FileTree.depthFirst]
        exact .single htop htarget rfl

/-! The first entry with something against it. -/

/-- What there is against an entry after earlier ones, in the order of the checks. -/
inductive Offends (root : FileTree) (earlier : List Found) (f : Found) : LoadError → Prop
  | invalidName {stem : Bytes} (hf : IsKeyFile f stem) (h : ∀ kid, stem ≠ Bytes.ofString kid) :
    Offends root earlier f (.invalidName f.path)
  | duplicate {kid : String} {g : Found} (hf : IsKeyFile f (Bytes.ofString kid))
    (hg : g ∈ earlier) (h : IsKeyFile g (Bytes.ofString kid)) :
    Offends root earlier f (.duplicateKid kid g.path f.path)
  | unreadable {kid : String} (hf : IsKeyFile f (Bytes.ofString kid))
    (hnew : ∀ g ∈ earlier, ¬ IsKeyFile g (Bytes.ofString kid)) (h : root.read? f.path = none) :
    Offends root earlier f (.read f.path)
  | tooLarge {kid : String} {content : Bytes} (hf : IsKeyFile f (Bytes.ofString kid))
    (hnew : ∀ g ∈ earlier, ¬ IsKeyFile g (Bytes.ofString kid))
    (hread : root.read? f.path = some content) (h : maxKeySize < content.length) :
    Offends root earlier f (.tooLarge f.path)
  | unparsed {kid : String} {content : Bytes} {cause : Rsa.KeyError}
    (hf : IsKeyFile f (Bytes.ofString kid))
    (hnew : ∀ g ∈ earlier, ¬ IsKeyFile g (Bytes.ofString kid))
    (hread : root.read? f.path = some content) (hsize : content.length ≤ maxKeySize)
    (h : Rsa.PrivateKey.ofPem content = .error cause) : Offends root earlier f (.parse f.path cause)

theorem find?_of_mem {loaded : Loaded} (h : (loaded.map (·.1)).Nodup) {k : Entry}
    (hk : k ∈ loaded) : loaded.find? (·.1 == k.1) = some k := by
  induction loaded with
  | nil => simp at hk
  | cons k' rest ih =>
    rw [List.map_cons, List.nodup_cons] at h
    rw [List.find?_cons]
    rcases List.mem_cons.1 hk with rfl | hk
    · simp
    · have hne : k'.1 ≠ k.1 := fun he => h.1 (he ▸ List.mem_map.2 ⟨k, hk, rfl⟩)
      rw [beq_false_of_ne hne]
      exact ih h.2 hk

section Earlier

variable {root : FileTree} {earlier : List Found} {f : Found} {kid : String}

theorem find?_of_fresh (hnew : ∀ g ∈ earlier, ¬ IsKeyFile g (Bytes.ofString kid)) :
    (keys root earlier).reverse.find? (·.1 == kid) = none := by
  rw [find?_eq_none_iff, List.map_reverse, List.mem_reverse, List.mem_map]
  rintro ⟨k, hk, rfl⟩
  obtain ⟨g, hg, hgkey⟩ := List.mem_filterMap.1 hk
  exact hnew g hg (isKeyFile_of_key? hgkey)

theorem exists_find? (hload : Loadable root earlier) {g : Found} (hg : g ∈ earlier)
    (h : IsKeyFile g (Bytes.ofString kid)) :
    ∃ key, (keys root earlier).reverse.find? (·.1 == kid) = some (kid, g.path, key) := by
  obtain ⟨key, hkey⟩ := hload.exists_key? hg h
  have hdistinct : (((keys root earlier).reverse).map (·.1)).Nodup := by
    rw [List.map_reverse, List.nodup_reverse]
    exact (loads_iff.2 hload).distinct
  have hmem : (kid, g.path, key) ∈ (keys root earlier).reverse :=
    List.mem_reverse.2 (List.mem_filterMap.2 ⟨g, hg, hkey⟩)
  exact ⟨key, find?_of_mem hdistinct hmem⟩

theorem loadEntry_of_offends (hload : Loadable root earlier) {e : LoadError}
    (h : Offends root earlier f e) :
    loadEntry root (keys root earlier).reverse f = .error e := by
  cases h with
  | invalidName hf h =>
    obtain ⟨hfile, hstem⟩ := (isKeyFile_iff _ _).1 hf
    have hutf := Option.eq_none_iff_forall_ne_some.2 fun kid hkid =>
      h kid ((Bytes.toString?_eq_some_iff _ kid).1 hkid)
    simp [loadEntry, hfile, hstem, hutf]
  | duplicate hf hg h =>
    obtain ⟨hfile, hstem⟩ := (isKeyFile_iff _ _).1 hf
    obtain ⟨key, hfind⟩ := exists_find? hload hg h
    simp [loadEntry, hfile, hstem, Bytes.toString?_ofString, hfind]
  | unreadable hf hnew h =>
    obtain ⟨hfile, hstem⟩ := (isKeyFile_iff _ _).1 hf
    simp [loadEntry, hfile, hstem, Bytes.toString?_ofString, find?_of_fresh hnew, h]
  | tooLarge hf hnew hread h =>
    obtain ⟨hfile, hstem⟩ := (isKeyFile_iff _ _).1 hf
    simp [loadEntry, hfile, hstem, Bytes.toString?_ofString, find?_of_fresh hnew, hread, h]
  | unparsed hf hnew hread hsize h =>
    obtain ⟨hfile, hstem⟩ := (isKeyFile_iff _ _).1 hf
    simp [loadEntry, hfile, hstem, Bytes.toString?_ofString, find?_of_fresh hnew, hread,
      not_lt.2 hsize, h]

theorem Loadable.concat (hload : Loadable root earlier)
    (hf : ∀ stem, IsKeyFile f stem → (∃ kid, stem = Bytes.ofString kid) ∧
      (∀ g ∈ earlier, ¬ IsKeyFile g stem) ∧ ∃ content, root.read? f.path = some content ∧
        content.length ≤ maxKeySize ∧ ∃ key, Rsa.PrivateKey.ofPem content = .ok key) :
    Loadable root (earlier ++ [f]) where
  named := by
    refine List.forall_mem_append.2 ⟨hload.named, List.forall_mem_singleton.2 ?_⟩
    exact fun stem hstem => (hf stem hstem).1
  distinct := by
    refine List.pairwise_append.2 ⟨hload.distinct, List.pairwise_singleton _ _, ?_⟩
    intro g hg f' hf' stem hgstem hstem
    obtain rfl := List.mem_singleton.1 hf'
    exact (hf stem hstem).2.1 g hg hgstem
  read := by
    refine List.forall_mem_append.2 ⟨hload.read, List.forall_mem_singleton.2 ?_⟩
    exact fun stem hstem => (hf stem hstem).2.2

/-- One more entry has nothing against it, or offends. -/
theorem loadable_concat_or_offends (hload : Loadable root earlier) (f : Found) :
    Loadable root (earlier ++ [f]) ∨ ∃ e, Offends root earlier f e := by
  by_cases hkey : ∃ stem, IsKeyFile f stem
  case neg => exact Or.inl (hload.concat fun stem hstem => absurd ⟨stem, hstem⟩ hkey)
  obtain ⟨stem, hf⟩ := hkey
  by_cases hnamed : ∃ kid, stem = Bytes.ofString kid
  case neg => exact Or.inr ⟨_, .invalidName hf (not_exists.1 hnamed)⟩
  obtain ⟨kid, rfl⟩ := hnamed
  by_cases hnew : ∃ g ∈ earlier, IsKeyFile g (Bytes.ofString kid)
  case pos =>
    obtain ⟨g, hg, h⟩ := hnew
    exact Or.inr ⟨_, .duplicate hf hg h⟩
  have hnew : ∀ g ∈ earlier, ¬ IsKeyFile g (Bytes.ofString kid) :=
    fun g hg h => hnew ⟨g, hg, h⟩
  cases hread : root.read? f.path with
  | none => exact Or.inr ⟨_, .unreadable hf hnew hread⟩
  | some content =>
    by_cases hsize : content.length ≤ maxKeySize
    case neg => exact Or.inr ⟨_, .tooLarge hf hnew hread (not_le.1 hsize)⟩
    cases hpem : Rsa.PrivateKey.ofPem content with
    | error cause => exact Or.inr ⟨_, .unparsed hf hnew hread hsize hpem⟩
    | ok key =>
      refine Or.inl (hload.concat fun stem hstem => ?_)
      obtain rfl := hf.unique hstem
      exact ⟨⟨kid, rfl⟩, hnew, content, hread, hsize, key, hpem⟩

end Earlier

/-- An error after entries that are all loadable. -/
def FirstOffends (root : FileTree) (found earlier : List Found) (e : LoadError) : Prop :=
  ∃ f later, found = earlier ++ f :: later ∧ Loadable root earlier ∧ Offends root earlier f e

theorem loadable_or_firstOffends (root : FileTree) (found : List Found) :
    Loadable root found ∨ ∃ earlier e, FirstOffends root found earlier e := by
  induction found using List.reverseRecOn with
  | nil => exact Or.inl ⟨by simp, by simp, by simp⟩
  | append_singleton found f ih =>
    rcases ih with hload | ⟨earlier, e, f', later, rfl, hload, h⟩
    · rcases loadable_concat_or_offends hload f with h | ⟨e, h⟩
      · exact Or.inl h
      · exact Or.inr ⟨found, e, f, [], rfl, hload, h⟩
    · exact Or.inr ⟨earlier, e, f', later ++ [f], by simp, hload, h⟩

/-! The loop. -/

theorem loadEntries_append (root : FileTree) (loaded : Loaded) (fs later : List Found) :
    loadEntries root loaded (fs ++ later) =
      match loadEntries root loaded fs with
      | (loaded, none) => loadEntries root loaded later
      | (loaded, some e) => (loaded, some e) := by
  induction fs generalizing loaded with
  | nil => rfl
  | cons f fs ih =>
    rw [List.cons_append, loadEntries, loadEntries]
    cases loadEntry root loaded f with
    | error e => rfl
    | ok next => exact ih next

theorem loadEntries_of_loadable {root : FileTree} {fs : List Found} (h : Loadable root fs) :
    loadEntries root [] fs = ((keys root fs).reverse, none) :=
  (loadEntries_eq_iff root [] _ fs).2 ⟨loads_iff.2 h, by simp, (List.append_nil _).symm⟩

section Load

variable {root : FileTree} {path : Bytes} {found : List Found}

/-- Entries with nothing against them, after which the walk is over or cannot go on. -/
theorem load_of_loadable (h : Loadable root (visit root path).found) :
    load root path =
      (if (visit root path).complete then .ok (storeOf (keys root (visit root path).found))
        else .error (.walk path), announced (visit root path).found) := by
  simp only [load, loadEntries_of_loadable h, List.reverse_reverse, h.announced_eq]
  split_ifs <;> rfl

theorem load_of_firstOffends {earlier : List Found} {e : LoadError}
    (h : FirstOffends root (visit root path).found earlier e) :
    load root path = (.error e, announced earlier) := by
  obtain ⟨f, later, hfound, hload, h⟩ := h
  have hentries : loadEntries root [] (earlier ++ f :: later) =
      ((keys root earlier).reverse, some e) := by
    rw [loadEntries_append, loadEntries_of_loadable hload]
    simp only [loadEntries, loadEntry_of_offends hload h]
  simp only [load, hfound, hentries, List.reverse_reverse, hload.announced_eq]

theorem load_eq_error_iff (e : LoadError) (events : List Event) :
    load root path = (.error e, events) ↔
      (∃ earlier, FirstOffends root (visit root path).found earlier e ∧
        events = announced earlier) ∨
      ((visit root path).complete = false ∧ Loadable root (visit root path).found ∧
        e = .walk path ∧ events = announced (visit root path).found) := by
  refine ⟨?_, ?_⟩
  · intro h
    rcases loadable_or_firstOffends root (visit root path).found with
      hload | ⟨earlier, e', hfirst⟩
    · rw [load_of_loadable hload] at h
      split_ifs at h with hcomplete
      · simp at h
      · obtain ⟨he, rfl⟩ := Prod.mk.inj h
        exact Or.inr ⟨by simpa using hcomplete, hload, (Except.error.inj he).symm, rfl⟩
    · rw [load_of_firstOffends hfirst] at h
      obtain ⟨he, rfl⟩ := Prod.mk.inj h
      obtain rfl := Except.error.inj he
      exact Or.inl ⟨earlier, hfirst, rfl⟩
  · rintro (⟨earlier, hfirst, rfl⟩ | ⟨hcomplete, hload, rfl, rfl⟩)
    · exact load_of_firstOffends hfirst
    · simp [load_of_loadable hload, hcomplete]

theorem privateKey?_of_loadable (h : Loadable root found) (kid : String) (key : Rsa.PrivateKey) :
    (storeOf (keys root found)).privateKey? kid = some key ↔
      ∃ f ∈ found, IsKeyFile f (Bytes.ofString kid) ∧ ∃ content,
        root.read? f.path = some content ∧ Rsa.PrivateKey.ofPem content = .ok key := by
  rw [privateKey?_storeOf (loads_iff.2 h).distinct]
  refine ⟨?_, ?_⟩
  · rintro ⟨at', hmem⟩
    obtain ⟨f, hf, hkey⟩ := List.mem_filterMap.1 hmem
    obtain ⟨hfile, content, hread, -, hpem⟩ := (holds_iff _ _ _ _).1 (holds_of_key? hkey).1
    exact ⟨f, hf, hfile, content, hread, hpem⟩
  · rintro ⟨f, hf, hfile, content, hread, hpem⟩
    obtain ⟨content', hread', hsize, -⟩ := h.read f hf _ hfile
    obtain rfl := Option.some.inj (hread.symm.trans hread')
    have hkey := key?_of_holds ((holds_iff _ _ _ _).2 ⟨hfile, content, hread, hsize, hpem⟩)
    exact ⟨f.path, List.mem_filterMap.2 ⟨f, hf, hkey⟩⟩

end Load

/-- Loading a directory is exact. What is met is everything below the path in the order of a walk, as
far as it can be listed. It loads if that is all of it and there is nothing against it: each key
under the stem of its file, with an event for each in that order. If there is something, the first
entry that offends is the error, after the events of the keys before it; and a walk that cannot go
on, or not even begin, is the error after the events of all that it met. -/
theorem load_exact {root : FileTree} (h : root.IsProper) (path : Bytes) :
    let walk := visit root path
    Visits root path walk ∧
    ((∃ store events, load root path = (.ok store, events)) ↔
      walk.complete = true ∧ Loadable root walk.found) ∧
    (∀ store events, load root path = (.ok store, events) → events = announced walk.found ∧
      ∀ kid key, store.privateKey? kid = some key ↔
        ∃ f ∈ walk.found, IsKeyFile f (Bytes.ofString kid) ∧ ∃ content,
          root.read? f.path = some content ∧ Rsa.PrivateKey.ofPem content = .ok key) ∧
    ∀ e events, load root path = (.error e, events) ↔
      (∃ earlier, FirstOffends root walk.found earlier e ∧ events = announced earlier) ∨
      (walk.complete = false ∧ Loadable root walk.found ∧ e = .walk path ∧
        events = announced walk.found) := by
  intro walk
  have hloaded : ∀ store events, load root path = (.ok store, events) →
      walk.complete = true ∧ Loadable root walk.found := by
    intro store events hload
    rcases loadable_or_firstOffends root walk.found with hloadable | ⟨earlier, e, hfirst⟩
    · refine ⟨?_, hloadable⟩
      by_contra hcomplete
      rw [load_of_loadable hloadable, if_neg hcomplete] at hload
      simp at hload
    · rw [load_of_firstOffends hfirst] at hload
      simp at hload
  refine ⟨visits_visit h path, ⟨?_, ?_⟩, ?_, load_eq_error_iff⟩
  · rintro ⟨store, events, hload⟩
    exact hloaded store events hload
  · rintro ⟨hcomplete, hload⟩
    exact ⟨_, _, (load_of_loadable hload).trans (by rw [if_pos hcomplete])⟩
  · intro store events hload
    obtain ⟨hcomplete, hfound⟩ := hloaded store events hload
    rw [load_of_loadable hfound, if_pos hcomplete] at hload
    obtain ⟨hstore, rfl⟩ := Prod.mk.inj hload
    obtain rfl := Except.ok.inj hstore
    exact ⟨rfl, privateKey?_of_loadable hfound⟩

/-! A key in a directory below, and beside that directory a second file of its name, or a directory
that cannot be listed. -/

section Some

def someBelow : FileTree := .dir [(Bytes.ofString "k.pem", .file Rsa.mersennePem)]

def someDir (more : List (Bytes × FileTree)) : List (Bytes × FileTree) :=
  (Bytes.ofString "a", someBelow) :: more

def someTree (more : List (Bytes × FileTree)) : FileTree :=
  .dir [(Bytes.ofString "keys", .dir (someDir more))]

def secondFile : List (Bytes × FileTree) := [(Bytes.ofString "k.pem", .file [])]

def shutDirectory : List (Bytes × FileTree) := [(Bytes.ofString "b", .closed true)]

def someFound : List Found :=
  [⟨Bytes.ofString "keys", Bytes.ofString "keys", true⟩,
   ⟨Bytes.ofString "keys/a", Bytes.ofString "a", true⟩,
   ⟨Bytes.ofString "keys/a/k.pem", Bytes.ofString "k.pem", false⟩]

def secondFound : Found := ⟨Bytes.ofString "keys/k.pem", Bytes.ofString "k.pem", false⟩

def shutFound : Found := ⟨Bytes.ofString "keys/b", Bytes.ofString "b", true⟩

theorem isName_some : FileTree.IsName (Bytes.ofString "keys") ∧
    FileTree.IsName (Bytes.ofString "a") ∧ FileTree.IsName (Bytes.ofString "k.pem") := by
  refine ⟨⟨?_, ?_, ?_, ?_⟩, ⟨?_, ?_, ?_, ?_⟩, ⟨?_, ?_, ?_, ?_⟩⟩ <;> decide +kernel

theorem isProper_someTree {more : List (Bytes × FileTree)}
    (hnodup : ((someDir more).map (·.1)).Nodup) (hname : ∀ x ∈ more, FileTree.IsName x.1)
    (hmore : ∀ x ∈ more, x.2.IsProper) : (someTree more).IsProper := by
  obtain ⟨hkeys, ha, hk⟩ := isName_some
  have hbelow : someBelow.IsProper := by
    refine FileTree.isProper_dir (List.nodup_singleton _) ?_ ?_
    · exact List.forall_mem_singleton.2 hk
    · exact List.forall_mem_singleton.2 (FileTree.isProper_of_leaf rfl)
  refine FileTree.isProper_dir (List.nodup_singleton _) (List.forall_mem_singleton.2 hkeys) ?_
  refine List.forall_mem_singleton.2 (FileTree.isProper_dir hnodup ?_ ?_)
  · exact List.forall_mem_cons.2 ⟨ha, hname⟩
  · exact List.forall_mem_cons.2 ⟨hbelow, hmore⟩

theorem visit_someTree {more : List (Bytes × FileTree)} (hproper : (someTree more).IsProper)
    (h : (someDir more).Pairwise fun x y => FileTree.nameLe x y = true) :
    let rest := FileTree.reach
      (more.flatMap fun x => x.2.depthFirst.map (FileTree.under x.1))
    visit (someTree more) (Bytes.ofString "keys") =
      ⟨someFound ++ rest.1.map (foundBelow (Bytes.ofString "keys")), rest.2⟩ := by
  intro rest
  have htop : FileTree.lookupEntry? (someTree more) (Bytes.ofString "keys") =
      some (.dir (someDir more)) := rfl
  have hdir : (someTree more).lookup? (Bytes.ofString "keys") = some (.dir (someDir more)) := rfl
  have hbelow : someBelow.depthFirst = [([], someBelow),
      ([Bytes.ofString "k.pem"], .file Rsa.mersennePem)] := by
    rw [someBelow, FileTree.depthFirst_of_sorted (List.pairwise_singleton _ _)]
    rfl
  have hwalk : (FileTree.dir (someDir more)).walk = [([], .dir (someDir more)),
      ([Bytes.ofString "a"], someBelow),
      ([Bytes.ofString "a", Bytes.ofString "k.pem"], .file Rsa.mersennePem)] ++
        more.flatMap fun x => x.2.depthFirst.map (FileTree.under x.1) := by
    rw [FileTree.walk_eq_depthFirst (hproper.lookup? hdir), FileTree.depthFirst_of_sorted h,
      someDir, List.flatMap_cons, hbelow]
    rfl
  have hstart : [⟨Bytes.ofString "keys", lastName (Bytes.ofString "keys"), true⟩,
      foundBelow (Bytes.ofString "keys") ([Bytes.ofString "a"], someBelow),
      foundBelow (Bytes.ofString "keys")
        ([Bytes.ofString "a", Bytes.ofString "k.pem"], .file Rsa.mersennePem)] = someFound := by
    decide +kernel
  rw [visit_of_lookup htop hdir, hwalk, FileTree.reach_append (by simp [someBelow]), ← hstart]
  rfl

/-- A file, or a directory that cannot be listed, is met after what is always there. -/
theorem visit_someTree_leaf {name : Bytes} {e : FileTree} (hname : FileTree.IsName name)
    (hne : Bytes.ofString "a" ≠ name) (hle : FileTree.bytesLe (Bytes.ofString "a") name = true)
    (he : e.isOpenDir = false) : (someTree [(name, e)]).IsProper ∧
      visit (someTree [(name, e)]) (Bytes.ofString "keys") =
        ⟨someFound ++ [foundBelow (Bytes.ofString "keys") ([name], e)],
          (FileTree.reach [([name], e)]).2⟩ := by
  have hproper : (someTree [(name, e)]).IsProper := by
    refine isProper_someTree (by simp [someDir, hne]) ?_ ?_
    · exact List.forall_mem_singleton.2 hname
    · exact List.forall_mem_singleton.2 (FileTree.isProper_of_leaf he)
  have hsorted : (someDir [(name, e)]).Pairwise fun x y => FileTree.nameLe x y = true := by
    simp [someDir, FileTree.nameLe, hle]
  refine ⟨hproper, ?_⟩
  rw [visit_someTree hproper hsorted]
  cases e with
  | dir es => simp [FileTree.isOpenDir] at he
  | closed isDir => cases isDir <;> rfl
  | _ => rfl

theorem loadable_someFound {more : List (Bytes × FileTree)} :
    Loadable (someTree more) someFound := by
  have hread : (someTree more).read? (Bytes.ofString "keys/a/k.pem") = some Rsa.mersennePem := rfl
  have hsize : Rsa.mersennePem.length ≤ maxKeySize := by decide +kernel
  have hstem : keyStem? (Bytes.ofString "k.pem") = some (Bytes.ofString "k") := by decide +kernel
  have hkey : key? (someTree more) ⟨Bytes.ofString "keys/a/k.pem", Bytes.ofString "k.pem", false⟩ =
      some ("k", Bytes.ofString "keys/a/k.pem", Rsa.mersenneKey) :=
    key?_of_holds ⟨rfl, ⟨_, hstem, Bytes.toString?_ofString "k"⟩, _, hread, hsize,
      Rsa.ofPem_mersennePem⟩
  have hkeys : keys (someTree more) someFound =
      [("k", Bytes.ofString "keys/a/k.pem", Rsa.mersenneKey)] := by
    rw [someFound, keys_cons_of_isPassed rfl, keys_cons_of_isPassed rfl, keys_cons hkey]
    rfl
  refine loads_iff.1 ⟨?_, by rw [hkeys]; exact List.nodup_singleton _⟩
  intro f hf hpassed
  simp only [someFound, List.mem_cons, List.not_mem_nil, or_false] at hf
  rcases hf with rfl | rfl | rfl
  · simp [Found.isPassed] at hpassed
  · simp [Found.isPassed] at hpassed
  · rw [hkey]
    rfl

theorem announced_someFound :
    announced someFound = [.keyLoaded "k" "keys/a/k.pem"] := by decide +kernel

theorem load_exact_someTree :
    (∃ store, load (someTree []) (Bytes.ofString "keys") =
        (.ok store, [.keyLoaded "k" "keys/a/k.pem"]) ∧
      store.privateKey? "k" = some Rsa.mersenneKey) ∧
    load (someTree secondFile) (Bytes.ofString "keys") =
      (.error (.duplicateKid "k" (Bytes.ofString "keys/a/k.pem") (Bytes.ofString "keys/k.pem")),
        [.keyLoaded "k" "keys/a/k.pem"]) ∧
    load (someTree shutDirectory) (Bytes.ofString "keys") =
      (.error (.walk (Bytes.ofString "keys")), [.keyLoaded "k" "keys/a/k.pem"]) := by
  have hfirst : ⟨Bytes.ofString "keys/a/k.pem", Bytes.ofString "k.pem", false⟩ ∈ someFound := by
    simp [someFound]
  have hname : Bytes.ofString "k.pem" = Bytes.ofString "k" ++ Bytes.ofString ".pem" := by
    decide +kernel
  have hne : Bytes.ofString "k" ≠ [] := by decide +kernel
  refine ⟨?_, ?_, ?_⟩
  · have hproper : (someTree []).IsProper :=
      isProper_someTree (List.nodup_singleton _) (by simp) (by simp)
    have hvisit := visit_someTree hproper (List.pairwise_singleton _ _)
    obtain ⟨-, hloads, hstore, -⟩ := load_exact hproper (Bytes.ofString "keys")
    rw [hvisit] at hloads hstore
    obtain ⟨store, events, hload⟩ := hloads.2 ⟨rfl, loadable_someFound⟩
    obtain ⟨rfl, hbinds⟩ := hstore store events hload
    refine ⟨store, ?_, (hbinds "k" _).2 ⟨_, hfirst, ⟨rfl, hname, hne⟩, _, rfl, ?_⟩⟩
    · rw [hload, ← announced_someFound]
      rfl
    · exact Rsa.ofPem_mersennePem
  · obtain ⟨-, -, hk⟩ := isName_some
    obtain ⟨hproper, hvisit⟩ := visit_someTree_leaf (e := .file []) hk (by decide +kernel)
      (by decide +kernel) rfl
    have hsecond : foundBelow (Bytes.ofString "keys") ([Bytes.ofString "k.pem"], .file []) =
        secondFound := by decide +kernel
    obtain ⟨-, -, -, herror⟩ := load_exact hproper (Bytes.ofString "keys")
    rw [hvisit, hsecond] at herror
    have hoffends : Offends (someTree secondFile) someFound secondFound _ :=
      .duplicate ⟨rfl, hname, hne⟩ hfirst ⟨rfl, hname, hne⟩
    refine (herror _ _).2 (Or.inl ⟨someFound, ?_, announced_someFound.symm⟩)
    exact ⟨secondFound, [], rfl, loadable_someFound, hoffends⟩
  · have hb : FileTree.IsName (Bytes.ofString "b") := by
      constructor <;> decide +kernel
    obtain ⟨hproper, hvisit⟩ := visit_someTree_leaf (e := .closed true) hb (by decide +kernel)
      (by decide +kernel) rfl
    have hshut : foundBelow (Bytes.ofString "keys") ([Bytes.ofString "b"], .closed true) =
        shutFound := by decide +kernel
    obtain ⟨-, -, -, herror⟩ := load_exact hproper (Bytes.ofString "keys")
    rw [hvisit, hshut] at herror
    have hpassed : ∀ stem, ¬ IsKeyFile shutFound stem := by
      intro stem h
      simpa [shutFound] using h.isFile
    have hannounced : announced (someFound ++ [shutFound]) = announced someFound := by
      decide +kernel
    refine (herror _ _).2 (Or.inr ⟨rfl, ?_, rfl, ?_⟩)
    · exact loadable_someFound.concat fun stem hstem => absurd hstem (hpassed stem)
    · rw [hannounced, announced_someFound]

end Some

end Turnstile.KeyDirectory
