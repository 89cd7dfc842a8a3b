import Mathlib.Tactic
import Turnstile.FileTree

/-! The walk of a directory meets the directory first and then what it holds, and one file more adds
one entry to it. -/

namespace Turnstile.FileTree

theorem bytesLe_total (a b : Bytes) : (bytesLe a b || bytesLe b a) = true := by
  fun_induction bytesLe a b with
  | case1 => rfl
  | case2 => rfl
  | case3 a as b bs ih =>
    rcases Nat.lt_trichotomy a.toNat b.toNat with h | h | h
    · simp [UInt8.lt_iff_toNat_lt.2 h]
    · obtain rfl := UInt8.toNat_inj.1 h
      simpa [bytesLe] using ih
    · simp [bytesLe, UInt8.lt_iff_toNat_lt.2 h]

theorem bytesLe_trans {a b c : Bytes} (h : bytesLe a b = true) (h' : bytesLe b c = true) :
    bytesLe a c = true := by
  induction a generalizing b c with
  | nil => rfl
  | cons x a ih =>
    rcases b with _ | ⟨y, b⟩
    · simp [bytesLe] at h
    rcases c with _ | ⟨z, c⟩
    · simp [bytesLe] at h'
    simp only [bytesLe, Bool.or_eq_true, decide_eq_true_eq, Bool.and_eq_true, beq_iff_eq] at h h' ⊢
    rcases h with h | ⟨rfl, h⟩ <;> rcases h' with h' | ⟨rfl, h'⟩
    · exact Or.inl (UInt8.lt_trans h h')
    · exact Or.inl h
    · exact Or.inl h'
    · exact Or.inr ⟨rfl, ih h h'⟩

theorem bytesLe_antisymm {a b : Bytes} (h : bytesLe a b = true) (h' : bytesLe b a = true) :
    a = b := by
  induction a generalizing b with
  | nil =>
    rcases b with _ | ⟨y, b⟩
    · rfl
    · simp [bytesLe] at h'
  | cons x a ih =>
    rcases b with _ | ⟨y, b⟩
    · simp [bytesLe] at h
    simp only [bytesLe, Bool.or_eq_true, decide_eq_true_eq, Bool.and_eq_true, beq_iff_eq] at h h'
    rcases h with h | ⟨rfl, h⟩ <;> rcases h' with h' | ⟨hxy, h'⟩
    · exact absurd h (UInt8.lt_asymm h')
    · exact absurd h (hxy ▸ UInt8.lt_irrefl _)
    · exact absurd h' (UInt8.lt_irrefl _)
    · rw [ih h h']

theorem namesLe_cons_self (x : Bytes) (a b : List Bytes) :
    namesLe (x :: a) (x :: b) = namesLe a b := by
  rw [namesLe, if_pos (beq_self_eq_true x)]

theorem namesLe_cons_of_ne {x y : Bytes} (h : x ≠ y) (a b : List Bytes) :
    namesLe (x :: a) (y :: b) = bytesLe x y := by
  rw [namesLe, if_neg (by simpa using h)]

theorem namesLe_total (a b : List Bytes) : (namesLe a b || namesLe b a) = true := by
  induction a generalizing b with
  | nil => rfl
  | cons x a ih =>
    rcases b with _ | ⟨y, b⟩
    · simp [namesLe]
    by_cases hxy : x = y
    · subst hxy
      rw [namesLe_cons_self, namesLe_cons_self]
      exact ih b
    · rw [namesLe_cons_of_ne hxy, namesLe_cons_of_ne (Ne.symm hxy)]
      exact bytesLe_total x y

theorem namesLe_trans {a b c : List Bytes} (h : namesLe a b = true) (h' : namesLe b c = true) :
    namesLe a c = true := by
  induction a generalizing b c with
  | nil => rfl
  | cons x a ih =>
    rcases b with _ | ⟨y, b⟩
    · simp [namesLe] at h
    rcases c with _ | ⟨z, c⟩
    · simp [namesLe] at h'
    by_cases hxy : x = y
    · subst hxy
      by_cases hxz : x = z
      · subst hxz
        rw [namesLe_cons_self] at h h' ⊢
        exact ih h h'
      · rw [namesLe_cons_of_ne hxz] at h' ⊢
        exact h'
    · rw [namesLe_cons_of_ne hxy] at h
      by_cases hyz : y = z
      · subst hyz
        rw [namesLe_cons_of_ne hxy]
        exact h
      · rw [namesLe_cons_of_ne hyz] at h'
        have hxz : x ≠ z := by
          rintro rfl
          exact hxy (bytesLe_antisymm h h')
        rw [namesLe_cons_of_ne hxz]
        exact bytesLe_trans h h'

theorem namesLe_antisymm {a b : List Bytes} (h : namesLe a b = true) (h' : namesLe b a = true) :
    a = b := by
  induction a generalizing b with
  | nil =>
    rcases b with _ | ⟨y, b⟩
    · rfl
    · simp [namesLe] at h'
  | cons x a ih =>
    rcases b with _ | ⟨y, b⟩
    · simp [namesLe] at h
    by_cases hxy : x = y
    · subst hxy
      rw [namesLe_cons_self] at h h'
      rw [ih h h']
    · rw [namesLe_cons_of_ne hxy] at h
      rw [namesLe_cons_of_ne (Ne.symm hxy)] at h'
      exact absurd (bytesLe_antisymm h h') hxy

/-- Entries in the order of a walk. -/
def before (a b : List Bytes × FileTree) : Bool := namesLe a.1 b.1

theorem walk_dir (es : List (Bytes × FileTree)) :
    (dir es).walk = ([], dir es) :: (flattenEntries [] es).mergeSort before := by
  obtain ⟨l, r, hsorted, hrest, hl⟩ := @List.mergeSort_cons _ before
    (fun _ _ _ => namesLe_trans) (fun a b => namesLe_total a.1 b.1) ([], dir es)
    (flattenEntries [] es)
  have hnil : l = [] := by
    rcases l with _ | ⟨b, l⟩
    · rfl
    · have hb := hl b List.mem_cons_self
      simp [before, namesLe] at hb
  subst hnil
  rw [walk, flatten]
  rw [List.nil_append] at hsorted hrest
  rw [hrest]
  exact hsorted

theorem flattenEntries_append (here : List Bytes) (es es' : List (Bytes × FileTree)) :
    flattenEntries here (es ++ es') = flattenEntries here es ++ flattenEntries here es' := by
  induction es with
  | nil => rfl
  | cons x es ih =>
    obtain ⟨name, e⟩ := x
    rw [List.cons_append, flattenEntries, flattenEntries, ih, List.append_assoc]

/-- One more file in a directory is one more entry of its walk. -/
theorem walk_concat_perm (es : List (Bytes × FileTree)) (name content : Bytes) :
    List.Perm ((dir (es ++ [(name, file content)])).walk.drop 1)
      (([name], file content) :: (dir es).walk.drop 1) := by
  rw [walk_dir, walk_dir, List.drop_one, List.drop_one, List.tail_cons, List.tail_cons,
    flattenEntries_append]
  refine (List.mergeSort_perm _ _).trans (List.perm_append_comm.trans ?_)
  exact ((List.mergeSort_perm _ _).symm).cons _

/-! How far a walk gets. -/

/-- A walk meets all entries if it can list every directory among them, and else those up to the
first that it cannot. -/
inductive Reaches (l : List (List Bytes × FileTree)) : List (List Bytes × FileTree) → Bool → Prop
  | all (h : ∀ x ∈ l, x.2 ≠ closed true) : Reaches l l true
  | upTo {before later : List (List Bytes × FileTree)} {names : List Bytes}
    (hl : l = before ++ (names, closed true) :: later) (h : ∀ x ∈ before, x.2 ≠ closed true) :
    Reaches l (before ++ [(names, closed true)]) false

theorem reaches_reach (l : List (List Bytes × FileTree)) : Reaches l (reach l).1 (reach l).2 := by
  fun_induction reach l with
  | case1 => exact .all (by simp)
  | case2 names rest => exact Reaches.upTo (List.nil_append _).symm (by simp)
  | case3 x rest hopen met complete hreach ih =>
    have hx : x.2 ≠ closed true := fun h => hopen x.1 (by rw [← h])
    simp only [hreach] at ih
    cases ih with
    | all h => exact .all (List.forall_mem_cons.2 ⟨hx, h⟩)
    | @upTo before later names hl h =>
      rw [hl]
      exact Reaches.upTo (List.cons_append ..).symm (List.forall_mem_cons.2 ⟨hx, h⟩)

/-- Entries that do not end a walk are met before the rest of it. -/
theorem reach_append {l : List (List Bytes × FileTree)} (h : ∀ x ∈ l, x.2 ≠ closed true)
    (rest : List (List Bytes × FileTree)) :
    reach (l ++ rest) = (l ++ (reach rest).1, (reach rest).2) := by
  induction l with
  | nil => rfl
  | cons x l ih =>
    obtain ⟨hx, hl⟩ := List.forall_mem_cons.1 h
    rw [List.cons_append, reach, ih hl]
    · rfl
    · exact fun names hnames => hx (by rw [hnames])

/-- The walk comes to its end if every directory can be listed, and has met everything then. -/
theorem reach_eq_true_iff (l met : List (List Bytes × FileTree)) :
    reach l = (met, true) ↔ met = l ∧ ∀ x ∈ l, x.2 ≠ closed true := by
  have hreaches := reaches_reach l
  refine ⟨?_, ?_⟩
  · intro h
    rw [h] at hreaches
    cases hreaches with
    | all h => exact ⟨rfl, h⟩
  · rintro ⟨rfl, hopen⟩
    generalize hmet : (reach met).1 = l at hreaches
    generalize hcomplete : (reach met).2 = c at hreaches
    cases hreaches with
    | all h => exact Prod.ext hmet hcomplete
    | @upTo before later names hl h =>
      exact absurd rfl (hopen (names, closed true) (by rw [hl]; simp))

end Turnstile.FileTree
