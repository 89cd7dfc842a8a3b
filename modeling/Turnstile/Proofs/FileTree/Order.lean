import Turnstile.Proofs.FileTree.Paths
import Turnstile.Proofs.FileTree.Walk

/-! A walk goes depth first: a directory, and then its entries by name, each with everything below
it before the next. It meets all that is there, and the files read under the paths it gives. -/

namespace Turnstile.FileTree

/-- The names in every directory are components of paths, and no two of them are equal. -/
def IsProper (t : FileTree) : Prop :=
  ∀ place es, t.at? place = some (dir es) → (es.map (·.1)).Nodup ∧ ∀ e ∈ es, IsName e.1

theorem child?_eq_some_iff_mem {es : List (Bytes × FileTree)} (h : (es.map (·.1)).Nodup)
    (name : Bytes) (c : FileTree) : (dir es).child? name = some c ↔ (name, c) ∈ es := by
  induction es with
  | nil => simp [child?_nil]
  | cons x es ih =>
    obtain ⟨n, e⟩ := x
    rw [List.map_cons, List.nodup_cons] at h
    rw [child?_cons, List.mem_cons]
    split_ifs with hn
    · subst hn
      have hnot : (n, c) ∉ es := fun hmem => h.1 (List.mem_map.2 ⟨_, hmem, rfl⟩)
      simp [hnot, eq_comm]
    · rw [ih h.2]
      simp [Ne.symm hn]

theorem IsProper.child {t c : FileTree} (h : t.IsProper) {name : Bytes}
    (hc : t.child? name = some c) : c.IsProper := by
  intro place es hes
  refine h (name :: place) es ?_
  rw [at?, hc]
  exact hes

theorem IsProper.nodup {es : List (Bytes × FileTree)} (h : (dir es).IsProper) :
    (es.map (·.1)).Nodup := (h [] es rfl).1

theorem IsProper.of_mem {es : List (Bytes × FileTree)} (h : (dir es).IsProper) {name : Bytes}
    {c : FileTree} (hmem : (name, c) ∈ es) : c.IsProper :=
  h.child ((child?_eq_some_iff_mem h.nodup name c).2 hmem)

theorem IsProper.lookup? {t target : FileTree} (h : t.IsProper) {path : Bytes}
    (ht : t.lookup? path = some target) : target.IsProper := by
  obtain ⟨place, -, hplace⟩ := Option.bind_eq_some_iff.1 ht
  intro below es hes
  refine h (place ++ below) es ?_
  rw [at?_append, hplace]
  exact hes

theorem isProper_of_leaf {t : FileTree} (h : t.isOpenDir = false) : t.IsProper := by
  intro place es hes
  cases t with
  | dir es => simp [isOpenDir] at h
  | _ =>
    cases place with
    | nil => simp [at?] at hes
    | cons name place => simp [at?, child?] at hes

theorem isProper_dir {es : List (Bytes × FileTree)} (h : (es.map (·.1)).Nodup)
    (hname : ∀ x ∈ es, IsName x.1) (hes : ∀ x ∈ es, x.2.IsProper) : (dir es).IsProper := by
  intro place below hbelow
  cases place with
  | nil =>
    obtain rfl := FileTree.dir.inj (Option.some.inj hbelow)
    exact ⟨h, hname⟩
  | cons name place =>
    rw [at?] at hbelow
    obtain ⟨c, hc, hbelow⟩ := Option.bind_eq_some_iff.1 hbelow
    exact hes _ ((child?_eq_some_iff_mem h name c).1 hc) place below hbelow

/-! The order. -/

/-- The same entry, seen from the directory above. -/
def under (name : Bytes) (x : List Bytes × FileTree) : List Bytes × FileTree := (name :: x.1, x.2)

def nameLe {α : Type} (a b : Bytes × α) : Bool := bytesLe a.1 b.1

mutual

/-- A directory goes first, then its entries in the order of their names, each with all below it. -/
def depthFirst : FileTree → List (List Bytes × FileTree)
  | file content => [([], file content)]
  | link target => [([], link target)]
  | closed isDir => [([], closed isDir)]
  | dir entries => ([], dir entries) ::
      ((branches entries).mergeSort nameLe).flatMap fun b => b.2.map (under b.1)

def branches : List (Bytes × FileTree) → List (Bytes × List (List Bytes × FileTree))
  | [] => []
  | (name, e) :: rest => (name, depthFirst e) :: branches rest

end

theorem branches_eq (es : List (Bytes × FileTree)) :
    branches es = es.map fun x => (x.1, x.2.depthFirst) := by
  induction es with
  | nil => rfl
  | cons x es ih =>
    obtain ⟨name, e⟩ := x
    rw [branches, ih, List.map_cons]

/-- Entries that are listed by name are met as they are listed. -/
theorem depthFirst_of_sorted {es : List (Bytes × FileTree)}
    (h : es.Pairwise fun x y => nameLe x y = true) :
    (dir es).depthFirst = ([], dir es) :: es.flatMap fun x => x.2.depthFirst.map (under x.1) := by
  have hsorted : (branches es).Pairwise fun a b => nameLe a b = true := by
    rw [branches_eq, List.pairwise_map]
    exact h
  rw [depthFirst, List.mergeSort_of_pairwise hsorted, branches_eq, List.flatMap_map]

theorem mem_depthFirst_dir (es : List (Bytes × FileTree)) (x : List Bytes × FileTree) :
    x ∈ (dir es).depthFirst ↔
      x = ([], dir es) ∨ ∃ name c, (name, c) ∈ es ∧ ∃ y ∈ c.depthFirst, x = under name y := by
  rw [depthFirst, List.mem_cons, List.mem_flatMap]
  refine or_congr_right ?_
  simp only [(List.mergeSort_perm _ _).mem_iff, branches_eq, List.mem_map]
  refine ⟨?_, ?_⟩
  · rintro ⟨_, ⟨⟨name, c⟩, hc, rfl⟩, y, hy, rfl⟩
    exact ⟨name, c, hc, y, hy, rfl⟩
  · rintro ⟨name, c, hc, y, hy, rfl⟩
    exact ⟨_, ⟨_, hc, rfl⟩, y, hy, rfl⟩

/-- Every entry is met under its names, and nothing else is. -/
theorem mem_depthFirst_iff {t : FileTree} (h : t.IsProper) (names : List Bytes) (e : FileTree) :
    (names, e) ∈ t.depthFirst ↔ t.at? names = some e := by
  induction names generalizing t with
  | nil =>
    cases t with
    | dir es =>
      rw [mem_depthFirst_dir, at?]
      simp [under, eq_comm]
    | _ => simp [depthFirst, at?, eq_comm]
  | cons name names ih =>
    cases t with
    | dir es =>
      rw [mem_depthFirst_dir, at?, Option.bind_eq_some_iff]
      refine ⟨?_, ?_⟩
      · rintro (heq | ⟨name', c, hc, ⟨names', e'⟩, hy, heq⟩)
        · simp at heq
        · obtain ⟨hnames, rfl⟩ := Prod.mk.inj heq
          obtain ⟨rfl, rfl⟩ := List.cons.inj hnames
          have hchild := (child?_eq_some_iff_mem h.nodup name c).2 hc
          exact ⟨c, hchild, (ih (h.of_mem hc)).1 hy⟩
      · rintro ⟨c, hchild, hat⟩
        have hc := (child?_eq_some_iff_mem h.nodup name c).1 hchild
        exact Or.inr ⟨name, c, hc, (names, e), (ih (h.of_mem hc)).2 hat, rfl⟩
    | _ => simp [depthFirst, at?, child?]

mutual

theorem flatten_perm (here : List Bytes) : ∀ t : FileTree,
    (flatten here t).Perm (t.depthFirst.map fun x => (here ++ x.1, x.2))
  | file content => by simp [flatten, depthFirst]
  | link target => by simp [flatten, depthFirst]
  | closed isDir => by simp [flatten, depthFirst]
  | dir entries => by
    rw [flatten, depthFirst, List.map_cons, List.append_nil, List.map_flatMap]
    refine List.Perm.cons _ ?_
    exact (flattenEntries_perm here entries).trans
      (List.Perm.flatMap_right _ (List.mergeSort_perm _ _).symm)

theorem flattenEntries_perm (here : List Bytes) : ∀ es : List (Bytes × FileTree),
    (flattenEntries here es).Perm ((branches es).flatMap fun b =>
      (b.2.map (under b.1)).map fun x => (here ++ x.1, x.2))
  | [] => by simp [flattenEntries, branches]
  | (name, e) :: rest => by
    rw [flattenEntries, branches, List.flatMap_cons]
    refine List.Perm.append ?_ (flattenEntries_perm here rest)
    have hstep := flatten_perm (here ++ [name]) e
    simpa [under, Function.comp_def] using hstep

end

/-- Before the other in the order of a walk, and not under the same names. -/
def Precedes (a b : List Bytes × FileTree) : Prop := before a b = true ∧ a.1 ≠ b.1

theorem Precedes.under {a b : List Bytes × FileTree} (h : Precedes a b) (name : Bytes) :
    Precedes (under name a) (under name b) := by
  obtain ⟨hle, hne⟩ := h
  refine ⟨?_, ?_⟩
  · rwa [before, FileTree.under, FileTree.under, namesLe_cons_self]
  · simpa [FileTree.under] using hne

/-- Branches in the order of their names, each of which is sorted, are sorted together. -/
theorem pairwise_branches {es : List (Bytes × FileTree)} (h : (es.map (·.1)).Nodup)
    (hes : ∀ x ∈ es, x.2.depthFirst.Pairwise Precedes) :
    (((branches es).mergeSort nameLe).flatMap fun b => b.2.map (under b.1)).Pairwise Precedes := by
  have hperm := List.mergeSort_perm (branches es) nameLe
  have hsorted : ((branches es).mergeSort nameLe).Pairwise fun a b => nameLe a b = true :=
    @List.pairwise_mergeSort _ nameLe (fun _ _ _ => bytesLe_trans)
      (fun a b => bytesLe_total a.1 b.1) _
  have hdistinct : ((branches es).mergeSort nameLe).Pairwise fun a b => a.1 ≠ b.1 := by
    rw [hperm.pairwise_iff Ne.symm, branches_eq, List.pairwise_map]
    exact List.pairwise_map.1 h
  rw [List.pairwise_flatMap]
  refine ⟨?_, ?_⟩
  · intro b hb
    obtain ⟨x, hx, rfl⟩ := List.mem_map.1 (branches_eq es ▸ hperm.mem_iff.1 hb)
    rw [List.pairwise_map]
    exact (hes x hx).imp fun hprecedes => hprecedes.under x.1
  · refine (hsorted.and hdistinct).imp fun hab x hx y hy => ?_
    obtain ⟨hle, hne⟩ := hab
    obtain ⟨x, -, rfl⟩ := List.mem_map.1 hx
    obtain ⟨y, -, rfl⟩ := List.mem_map.1 hy
    refine ⟨?_, fun heq => hne (List.cons.inj heq).1⟩
    rwa [before, under, under, namesLe_cons_of_ne hne]

mutual

theorem pairwise_depthFirst : ∀ t : FileTree, t.IsProper → t.depthFirst.Pairwise Precedes
  | file content => fun _ => by simp [depthFirst]
  | link target => fun _ => by simp [depthFirst]
  | closed isDir => fun _ => by simp [depthFirst]
  | dir entries => fun h => by
    rw [depthFirst, List.pairwise_cons]
    refine ⟨?_, pairwise_branches h.nodup (pairwise_depthFirst_entries entries fun x => h.of_mem)⟩
    intro x hx
    obtain ⟨b, -, hx⟩ := List.mem_flatMap.1 hx
    obtain ⟨y, -, rfl⟩ := List.mem_map.1 hx
    exact ⟨rfl, List.cons_ne_nil _ _ |>.symm⟩

theorem pairwise_depthFirst_entries : ∀ es : List (Bytes × FileTree),
    (∀ x ∈ es, x.2.IsProper) → ∀ x ∈ es, x.2.depthFirst.Pairwise Precedes
  | [] => fun _ => by simp
  | (name, e) :: rest => fun h => by
    obtain ⟨he, hrest⟩ := List.forall_mem_cons.1 h
    exact List.forall_mem_cons.2 ⟨pairwise_depthFirst e he, pairwise_depthFirst_entries rest hrest⟩

end

/-- Two sorted lists of the same entries, which their names tell apart. -/
theorem walk_eq_depthFirst {t : FileTree} (h : t.IsProper) : t.walk = t.depthFirst := by
  have hperm : t.walk.Perm t.depthFirst := by
    refine (List.mergeSort_perm _ _).trans ?_
    simpa using flatten_perm [] t
  have hsorted : t.walk.Pairwise fun a b => before a b = true :=
    @List.pairwise_mergeSort _ before (fun _ _ _ => namesLe_trans)
      (fun a b => namesLe_total a.1 b.1) _
  refine List.Perm.eq_of_pairwise ?_ hsorted ((pairwise_depthFirst t h).imp And.left) hperm
  rintro ⟨names, e⟩ ⟨names', e'⟩ ha hb hle hle'
  obtain rfl : names = names' := namesLe_antisymm hle hle'
  have he := (mem_depthFirst_iff h names e).1 (hperm.mem_iff.1 ha)
  have he' := (mem_depthFirst_iff h names e').1 hb
  rw [Option.some.inj (he.symm.trans he')]

/-! What the walk gives paths to. -/

/-- The path of an entry below a directory leads to it, unless it is a link. -/
theorem resolve?_below {t e : FileTree} (h : t.IsProper) {path : Bytes} {place names : List Bytes}
    {es : List (Bytes × FileTree)} (hplace : t.resolve? path = some place)
    (hes : t.at? place = some (dir es)) (he : (dir es).at? names = some e)
    (hlink : ∀ target, e ≠ link target) :
    t.resolve? (names.foldl join path) = some (place ++ names) := by
  induction names generalizing path place es with
  | nil => rw [List.foldl_nil, List.append_nil, hplace]
  | cons name names ih =>
    rw [at?] at he
    obtain ⟨c, hc, he⟩ := Option.bind_eq_some_iff.1 he
    obtain ⟨hnodup, hnames⟩ := h place es hes
    have hname : IsName name := hnames _ ((child?_eq_some_iff_mem hnodup name c).1 hc)
    rw [List.foldl_cons]
    cases names with
    | nil =>
      obtain rfl := Option.some.inj he
      exact resolve?_join hplace hes hname hc hlink
    | cons next rest =>
      -- what has an entry below it is a directory, and so no link
      have hdir := he
      rw [at?] at hdir
      obtain ⟨d, hd, -⟩ := Option.bind_eq_some_iff.1 hdir
      obtain ⟨cs, rfl⟩ := exists_dir_of_child? hd
      have hbelow : t.at? (place ++ [name]) = some (dir cs) := by
        rw [at?_append, hes, Option.bind_some, at?_singleton, hc]
      have hstep := ih (resolve?_join hplace hes hname hc (by simp)) hbelow he
      rwa [List.append_assoc] at hstep

theorem read?_below {t : FileTree} (h : t.IsProper) {path content : Bytes} {names : List Bytes}
    {es : List (Bytes × FileTree)} (hdir : t.lookup? path = some (dir es))
    (hfile : (dir es).at? names = some (file content)) :
    t.read? (names.foldl join path) = some content := by
  obtain ⟨place, hplace, hes⟩ := Option.bind_eq_some_iff.1 hdir
  have hbelow := resolve?_below h hplace hes hfile (by simp)
  rw [read?_eq_some_iff, lookup?, hbelow, Option.bind_some, at?_append, hes, Option.bind_some,
    hfile]

end Turnstile.FileTree
