import Mathlib.Data.List.TakeWhile
import Turnstile.FileTree
import Turnstile.Proofs.Bytes

/-! Paths in a tree that grows by one entry: what they led to before, they lead to after, and the
new entry has a path of its own. -/

namespace Turnstile.FileTree

/-! Entries at a place. -/

theorem child?_dir (m : Bytes) (es : List (Bytes × FileTree)) :
    (dir es).child? m = (es.find? (·.1 == m)).map (·.2) := rfl

theorem child?_nil (m : Bytes) : (dir []).child? m = none := rfl

theorem child?_cons (m name : Bytes) (e : FileTree) (es : List (Bytes × FileTree)) :
    (dir ((name, e) :: es)).child? m = if name = m then some e else (dir es).child? m := by
  rw [child?_dir, List.find?_cons]
  by_cases h : name = m
  · simp [h]
  · simp [beq_false_of_ne h, h, child?_dir]

theorem child?_update (name m : Bytes) (f : Option FileTree → FileTree)
    (es : List (Bytes × FileTree)) : (dir (update name f es)).child? m =
      if name = m then some (f ((dir es).child? name)) else (dir es).child? m := by
  induction es with
  | nil => rw [update, child?_cons, child?_nil, child?_nil]
  | cons x es ih =>
    obtain ⟨n, e⟩ := x
    rw [update]
    split_ifs with hn hm hm
    · subst hn hm
      rw [child?_cons, child?_cons, if_pos rfl, if_pos rfl]
    · subst hn
      rw [child?_cons, child?_cons, if_neg hm, if_neg hm]
    · subst hm
      rw [child?_cons, child?_cons, if_neg hn, if_neg hn, ih, if_pos rfl]
    · rw [child?_cons, child?_cons, ih, if_neg hm]

theorem update_of_child?_eq_none {name : Bytes} {es : List (Bytes × FileTree)}
    (h : (dir es).child? name = none) (f : Option FileTree → FileTree) :
    update name f es = es ++ [(name, f none)] := by
  induction es with
  | nil => rfl
  | cons x es ih =>
    obtain ⟨n, e⟩ := x
    rw [child?_cons] at h
    split_ifs at h with hn
    rw [update, if_neg hn, ih h, List.cons_append]

theorem child?_put_cons (t : FileTree) (name m : Bytes) (names : List Bytes) (e : FileTree) :
    (t.put (name :: names) e).child? m =
      if name = m then some (((t.child? name).getD empty).put names e) else t.child? m := by
  rw [put, child?_update]
  cases t <;> rfl

theorem at?_append (t : FileTree) (names rest : List Bytes) :
    t.at? (names ++ rest) = (t.at? names).bind (·.at? rest) := by
  induction names generalizing t with
  | nil => rfl
  | cons name names ih =>
    rw [List.cons_append, at?, at?]
    cases t.child? name with
    | none => rfl
    | some c => exact ih c

theorem at?_singleton (t : FileTree) (name : Bytes) : t.at? [name] = t.child? name := by
  rw [at?]
  cases t.child? name <;> rfl

theorem exists_dir_of_child? {t c : FileTree} {name : Bytes} (h : t.child? name = some c) :
    ∃ es, t = dir es := by
  cases t with
  | dir es => exact ⟨es, rfl⟩
  | _ => simp [child?] at h

/-- The directory with the new entry at its end. -/
theorem at?_put {t : FileTree} {place : List Bytes} {es : List (Bytes × FileTree)} {name : Bytes}
    (h : t.at? place = some (dir es)) (hnew : (dir es).child? name = none) (e : FileTree) :
    (t.put (place ++ [name]) e).at? place = some (dir (es ++ [(name, e)])) := by
  induction place generalizing t with
  | nil =>
    obtain rfl := Option.some.inj h
    rw [List.nil_append, put, at?]
    exact congrArg (fun es => some (dir es)) (update_of_child?_eq_none hnew _)
  | cons n place ih =>
    rw [at?] at h
    obtain ⟨c, hc, h⟩ := Option.bind_eq_some_iff.1 h
    rw [List.cons_append, at?, child?_put_cons, if_pos rfl, hc]
    exact ih h

/-- Entries that look the same to who follows a path. -/
def Alike : FileTree → FileTree → Prop
  | file content, file content' => content = content'
  | link target, link target' => target = target'
  | dir _, dir _ => True
  | closed isDir, closed isDir' => isDir = isDir'
  | _, _ => False

theorem Alike.refl (t : FileTree) : Alike t t := by
  cases t <;> simp [Alike]

theorem Alike.isDir {t t' : FileTree} (h : Alike t t') : t'.isDir = t.isDir := by
  cases t <;> cases t' <;> simp_all [Alike, FileTree.isDir]

/-- Whatever has a place in one tree has a like one in the other. -/
def Extends (t t' : FileTree) : Prop :=
  ∀ place e, t.at? place = some e → ∃ e', t'.at? place = some e' ∧ Alike e e'

theorem extends_put {t : FileTree} {place : List Bytes} {es : List (Bytes × FileTree)}
    {name : Bytes} (h : t.at? place = some (dir es)) (hnew : (dir es).child? name = none)
    (e : FileTree) : Extends t (t.put (place ++ [name]) e) := by
  induction place generalizing t with
  | nil =>
    obtain rfl := Option.some.inj h
    intro names old hold
    cases names with
    | nil =>
      obtain rfl := Option.some.inj hold
      exact ⟨_, rfl, trivial⟩
    | cons m names =>
      rw [at?] at hold
      obtain ⟨c, hc, hold⟩ := Option.bind_eq_some_iff.1 hold
      have hne : name ≠ m := by
        rintro rfl
        simp [hnew] at hc
      rw [List.nil_append, at?, child?_put_cons, if_neg hne, hc]
      exact ⟨old, hold, Alike.refl old⟩
  | cons n place ih =>
    rw [at?] at h
    obtain ⟨c, hc, hplace⟩ := Option.bind_eq_some_iff.1 h
    obtain ⟨ts, rfl⟩ := exists_dir_of_child? hc
    intro names old hold
    cases names with
    | nil =>
      obtain rfl := Option.some.inj hold
      exact ⟨_, rfl, trivial⟩
    | cons m names =>
      rw [at?] at hold
      obtain ⟨d, hd, hold⟩ := Option.bind_eq_some_iff.1 hold
      rw [List.cons_append, at?, child?_put_cons]
      split_ifs with hm
      · subst hm
        obtain rfl := Option.some.inj (hc.symm.trans hd)
        rw [hc]
        exact ih hplace names old hold
      · rw [hd]
        exact ⟨old, hold, Alike.refl old⟩

/-! Following names. -/

/-- What goes on at a link, with so many links left. -/
def enter (t : FileTree) : ℕ → (here todo : List Bytes) → Option (List Bytes)
  | 0 => fun _ _ => none
  | links + 1 => t.follow links

theorem follow_eq (t : FileTree) (links : ℕ) : t.follow links = t.followWith (t.enter links) := by
  cases links <;> rfl

theorem follow_nil (t : FileTree) (links : ℕ) (here : List Bytes) :
    t.follow links here [] = some here := by
  rw [follow_eq, followWith]

theorem exists_dir_of_follow {t : FileTree} {links : ℕ} {here todo place : List Bytes}
    {name : Bytes} (h : t.follow links here (name :: todo) = some place) :
    ∃ es, t.at? here = some (dir es) := by
  rw [follow_eq, followWith] at h
  split at h
  · rename_i es hes
    exact ⟨es, hes⟩
  · simp at h

theorem follow_blank {t : FileTree} {links : ℕ} {here : List Bytes} {es : List (Bytes × FileTree)}
    (hes : t.at? here = some (dir es)) (todo : List Bytes) :
    t.follow links here ([] :: todo) = t.follow links here todo := by
  rw [follow_eq, followWith]
  simp [hes]

/-- A component of a path that leads to the entry of its name. -/
structure IsName (name : Bytes) : Prop where
  ne_nil : name ≠ []
  ne_dot : name ≠ dot
  ne_dotDot : name ≠ dotDot
  noSlash : 47 ∉ name

theorem follow_child {t c : FileTree} {links : ℕ} {here : List Bytes}
    {es : List (Bytes × FileTree)} {name : Bytes} (hes : t.at? here = some (dir es))
    (hname : IsName name) (hc : (dir es).child? name = some c) (hlink : ∀ target, c ≠ link target)
    (todo : List Bytes) :
    t.follow links here (name :: todo) = t.follow links (here ++ [name]) todo := by
  rw [follow_eq, followWith]
  simp only [hes, hname.ne_nil, hname.ne_dot, hname.ne_dotDot, hc]
  cases c with
  | link target => exact absurd rfl (hlink target)
  | _ => rfl

theorem followWith_mono {t t' : FileTree} (hx : Extends t t')
    {f f' : (here todo : List Bytes) → Option (List Bytes)}
    (hf : ∀ here todo place, f here todo = some place → f' here todo = some place)
    {here todo place : List Bytes} (h : t.followWith f here todo = some place) :
    t'.followWith f' here todo = some place := by
  induction todo generalizing here with
  | nil => exact h
  | cons name todo ih =>
    rw [followWith] at h ⊢
    split at h
    · rename_i es hes
      obtain ⟨e', he', halike⟩ := hx here _ hes
      cases e' with
      | dir es' =>
        simp only [he']
        split_ifs at h ⊢ with h1 h2
        · exact ih h
        · exact ih h
        · cases hc : (dir es).child? name with
          | none => simp [hc] at h
          | some c =>
            have hat : t.at? (here ++ [name]) = some c := by
              rw [at?_append, hes, Option.bind_some, at?_singleton, hc]
            obtain ⟨c', hc', halike'⟩ := hx _ _ hat
            rw [at?_append, he', Option.bind_some, at?_singleton] at hc'
            rw [hc] at h
            rw [hc']
            cases c <;> cases c' <;> simp only [Alike] at halike' h ⊢
            · exact ih h
            · subst halike'
              exact hf _ _ _ h
            · exact ih h
            · exact ih h
      | _ => simp [Alike] at halike
    · simp at h

theorem follow_mono {t t' : FileTree} (hx : Extends t t') {links : ℕ}
    {here todo place : List Bytes} (h : t.follow links here todo = some place) :
    t'.follow links here todo = some place := by
  induction links generalizing here todo place with
  | zero => exact followWith_mono hx (by simp) h
  | succ links ih => exact followWith_mono hx (fun _ _ _ hsome => ih hsome) h

theorem followWith_split {t : FileTree} (links : ℕ)
    (hlinks : ∀ here todo, (∃ place left, ∀ rest,
        t.enter links here (todo ++ rest) = t.follow left place rest) ∨
      ∀ rest, t.enter links here (todo ++ rest) = none) (here todo : List Bytes) :
    (∃ place left, ∀ rest, t.follow links here (todo ++ rest) = t.follow left place rest) ∨
      ∀ rest, t.follow links here (todo ++ rest) = none := by
  induction todo generalizing here with
  | nil => exact Or.inl ⟨here, links, fun _ => rfl⟩
  | cons name todo ih =>
    simp only [List.cons_append, follow_eq t links, followWith]
    simp only [follow_eq t links] at ih
    split
    · split_ifs
      · exact ih here
      · exact ih here.dropLast
      · split
        · exact Or.inr fun _ => rfl
        · rename_i target _
          have := hlinks (if target.head? = some 47 then [] else here)
            (Bytes.splitOn 47 target ++ todo)
          simpa only [List.append_assoc] using this
        · exact ih (here ++ [name])
    · exact Or.inr fun _ => rfl

/-- The names before a point lead to a place, from which the rest goes on, or nowhere. -/
theorem follow_split (t : FileTree) (links : ℕ) (here todo : List Bytes) :
    (∃ place left, ∀ rest, t.follow links here (todo ++ rest) = t.follow left place rest) ∨
      ∀ rest, t.follow links here (todo ++ rest) = none := by
  induction links generalizing here todo with
  | zero => exact followWith_split 0 (fun _ _ => Or.inr fun _ => rfl) here todo
  | succ links ih => exact followWith_split (links + 1) ih here todo

theorem follow_of_append {t : FileTree} {links : ℕ} {here todo rest place : List Bytes}
    (h : t.follow links here (todo ++ rest) = some place) : ∃ mid left,
      t.follow left mid rest = some place ∧
      ∀ rest, t.follow links here (todo ++ rest) = t.follow left mid rest := by
  rcases t.follow_split links here todo with ⟨mid, left, heq⟩ | hnone
  · exact ⟨mid, left, (heq rest).symm.trans h, heq⟩
  · simp [hnone] at h

/-! Paths. -/

theorem splitOn_slash (b name : Bytes) (h : 47 ∉ name) :
    Bytes.splitOn 47 (b ++ 47 :: name) = Bytes.splitOn 47 b ++ [name] := by
  rw [Bytes.splitOn, List.splitOnP_append_cons b name rfl]
  exact congrArg (Bytes.splitOn 47 b ++ ·) (Bytes.splitOn_of_notMem h)

theorem resolve?_eq {t : FileTree} {path : Bytes} {place : List Bytes}
    (h : t.resolve? path = some place) :
    path ≠ [] ∧ t.follow maxLinks [] (Bytes.splitOn 47 path) = some place := by
  unfold resolve? at h
  split_ifs at h with hempty
  exact ⟨by simpa using hempty, h⟩

theorem resolve?_of_follow {t : FileTree} {path : Bytes} {place : List Bytes} (hne : path ≠ [])
    (h : t.follow maxLinks [] (Bytes.splitOn 47 path) = some place) :
    t.resolve? path = some place := by
  rw [resolve?, if_neg (by simpa using hne), h]

theorem resolve?_mono {t t' : FileTree} (hx : Extends t t') {path : Bytes} {place : List Bytes}
    (h : t.resolve? path = some place) : t'.resolve? path = some place := by
  obtain ⟨hne, h⟩ := resolve?_eq h
  exact resolve?_of_follow hne (follow_mono hx h)

theorem lookup?_mono {t t' : FileTree} (hx : Extends t t') {path : Bytes} {e : FileTree}
    (h : t.lookup? path = some e) : ∃ e', t'.lookup? path = some e' ∧ Alike e e' := by
  obtain ⟨place, hplace, h⟩ := Option.bind_eq_some_iff.1 h
  obtain ⟨e', he', halike⟩ := hx place e h
  exact ⟨e', by rw [lookup?, resolve?_mono hx hplace, Option.bind_some, he'], halike⟩

theorem read?_eq_some_iff (t : FileTree) (path content : Bytes) :
    t.read? path = some content ↔ t.lookup? path = some (file content) := by
  unfold read?
  split
  · rename_i content' h
    rw [h]
    simp
  · rename_i h
    refine ⟨by simp, fun h' => absurd h' (h content)⟩

theorem read?_mono {t t' : FileTree} (hx : Extends t t') {path content : Bytes}
    (h : t.read? path = some content) : t'.read? path = some content := by
  obtain ⟨e', he', halike⟩ := lookup?_mono hx ((read?_eq_some_iff _ _ _).1 h)
  cases e' with
  | file content' =>
    obtain rfl : content = content' := halike
    exact (read?_eq_some_iff _ _ _).2 he'
  | _ => simp [Alike] at halike

theorem join_slash (b name : Bytes) : join (b ++ [47]) name = b ++ 47 :: name := by
  simp [join]

/-- The path of an entry in a directory that a path leads to. -/
theorem resolve?_join {t c : FileTree} {path name : Bytes} {place : List Bytes}
    {es : List (Bytes × FileTree)} (h : t.resolve? path = some place)
    (hes : t.at? place = some (dir es)) (hname : IsName name) (hc : (dir es).child? name = some c)
    (hlink : ∀ target, c ≠ link target) :
    t.resolve? (join path name) = some (place ++ [name]) := by
  obtain ⟨hne, hfollow⟩ := resolve?_eq h
  have hstep : ∀ left, t.follow left place [name] = some (place ++ [name]) := by
    intro left
    rw [follow_child hes hname hc hlink, follow_nil]
  by_cases hslash : path.getLast? = some 47
  · obtain ⟨b, rfl⟩ := List.getLast?_eq_some_iff.1 hslash
    rw [splitOn_slash b [] (by simp)] at hfollow
    obtain ⟨mid, left, hmid, hrest⟩ := follow_of_append hfollow
    obtain ⟨ms, hms⟩ := exists_dir_of_follow hmid
    rw [follow_blank hms, follow_nil] at hmid
    obtain rfl := Option.some.inj hmid
    rw [join_slash]
    refine resolve?_of_follow (by simp) ?_
    rw [splitOn_slash b name hname.noSlash, hrest, hstep]
  · have hjoin : join path name = path ++ 47 :: name := by
      simp [join, hslash, hne]
    have hfollow' := hfollow
    rw [← List.append_nil (Bytes.splitOn 47 path)] at hfollow'
    obtain ⟨mid, left, hmid, hrest⟩ := follow_of_append hfollow'
    rw [follow_nil] at hmid
    obtain rfl := Option.some.inj hmid
    refine resolve?_of_follow (by simp [hjoin]) ?_
    rw [hjoin, splitOn_slash path name hname.noSlash, hrest, hstep]

/-- A file that was put into a directory reads back. -/
theorem read?_put {t : FileTree} {path name : Bytes} {place : List Bytes}
    {es : List (Bytes × FileTree)} (h : t.resolve? path = some place)
    (hes : t.at? place = some (dir es)) (hnew : (dir es).child? name = none) (hname : IsName name)
    (content : Bytes) :
    (t.put (place ++ [name]) (file content)).read? (join path name) = some content := by
  have hplace := resolve?_mono (extends_put hes hnew (file content)) h
  have hes' := at?_put hes hnew (file content)
  have hchild : (dir (es ++ [(name, file content)])).child? name = some (file content) := by
    rw [← update_of_child?_eq_none hnew fun _ => file content, child?_update, if_pos rfl]
  rw [read?_eq_some_iff, lookup?, resolve?_join hplace hes' hname hchild (by simp),
    Option.bind_some, at?_append, hes', Option.bind_some, at?_singleton, hchild]

/-! The entry that a path names. -/

theorem splitName_append (b : Bytes) {name : Bytes} (h : 47 ∉ name) :
    splitName (b ++ 47 :: name) = (b ++ [47], name) := by
  rw [splitName, span_reverse h]
  simp

theorem splitName_of_notMem {path : Bytes} (h : 47 ∉ path) : splitName path = ([], path) := by
  have hreverse : 47 ∉ path.reverse := by simpa using h
  rw [splitName, span_ne_of_notMem hreverse]
  simp

/-- The three ways of a path: followed to its end, a name in the root, or a name in the directory
that the rest leads to. -/
inductive Named (path : Bytes) : Prop
  | followed (h : ∀ t, lookupEntry? t path = t.lookup? path)
  | inRoot (hname : IsName path) (h : ∀ t, lookupEntry? t path = t.child? path)
  | below {b name : Bytes} (hpath : path = b ++ 47 :: name) (hname : IsName name)
    (h : ∀ t, lookupEntry? t path = (t.lookup? (b ++ [47])).bind (·.child? name))

theorem lookupEntry?_of_special {path : Bytes} (h : ¬ IsName (splitName path).2)
    (hslash : 47 ∉ (splitName path).2) (t : FileTree) : t.lookupEntry? path = t.lookup? path := by
  have hspecial : (decide ((splitName path).2 = []) || decide ((splitName path).2 = dot) ||
      decide ((splitName path).2 = dotDot)) = true := by
    by_contra hno
    simp only [Bool.or_eq_true, decide_eq_true_eq, not_or] at hno
    exact h ⟨hno.1.1, hno.1.2, hno.2, hslash⟩
  simp only [hspecial, lookupEntry?, if_true]

theorem named (path : Bytes) : Named path := by
  by_cases hmem : 47 ∈ path
  · obtain ⟨after, before, hreverse, hafter⟩ :=
      List.eq_append_cons_of_mem (List.mem_reverse.2 hmem)
    obtain rfl : path = before.reverse ++ 47 :: after.reverse := by
      rw [← List.reverse_reverse path, hreverse]
      simp
    have hslash : 47 ∉ after.reverse := fun h => hafter (List.mem_reverse.1 h)
    have hsplit := splitName_append before.reverse hslash
    by_cases hname : IsName after.reverse
    · refine .below rfl hname fun t => ?_
      simp [hsplit, lookupEntry?, hname.ne_nil, hname.ne_dot, hname.ne_dotDot]
    · exact .followed (lookupEntry?_of_special (by rw [hsplit]; exact hname)
        (by rw [hsplit]; exact hslash))
  · have hsplit := splitName_of_notMem hmem
    by_cases hname : IsName path
    · refine .inRoot hname fun t => ?_
      simp [hsplit, lookupEntry?, hname.ne_nil, hname.ne_dot, hname.ne_dotDot]
    · exact .followed (lookupEntry?_of_special (by rw [hsplit]; exact hname)
        (by rw [hsplit]; exact hmem))

theorem child?_mono {t t' : FileTree} (hx : Extends t t') (place : List Bytes) {d c : FileTree}
    {name : Bytes} (hd : t.at? place = some d) (h : d.child? name = some c) :
    ∃ c', (t'.at? place).bind (·.child? name) = some c' ∧ Alike c c' := by
  have hat : t.at? (place ++ [name]) = some c := by
    rw [at?_append, hd, Option.bind_some, at?_singleton, h]
  obtain ⟨c', hc', halike⟩ := hx _ _ hat
  simp only [at?_append, at?_singleton] at hc'
  exact ⟨c', hc', halike⟩

theorem lookupEntry?_mono {t t' : FileTree} (hx : Extends t t') {path : Bytes} {e : FileTree}
    (h : t.lookupEntry? path = some e) :
    ∃ e', t'.lookupEntry? path = some e' ∧ Alike e e' := by
  rcases named path with heq | ⟨hname, heq⟩ | ⟨rfl, hname, heq⟩
  · rw [heq] at h ⊢
    exact lookup?_mono hx h
  · rw [heq] at h ⊢
    exact child?_mono hx [] rfl h
  · rw [heq] at h ⊢
    obtain ⟨d, hd, hc⟩ := Option.bind_eq_some_iff.1 h
    obtain ⟨place, hplace, hat⟩ := Option.bind_eq_some_iff.1 hd
    rw [lookup?, resolve?_mono hx hplace, Option.bind_some]
    exact child?_mono hx place hat hc

end Turnstile.FileTree
