import Mathlib.Data.List.Basic
import Turnstile.Proofs.Json.Print

/-! Objects as text and their members by name: what it is to hold a member once or not at all,
and that a field is read accordingly. -/

namespace Turnstile.Json

theorem Node.ofBytes?_eq_some_iff (b : Bytes) (n : Node) :
    Node.ofBytes? b = some n ↔ Token.Written n.tokens b := by
  simp only [Node.ofBytes?, Option.bind_eq_some_iff, Token.ofBytes?_eq_some_iff,
    Node.ofTokens?_eq_some_iff, exists_eq_right]

/-- The text is one object, and nothing else, with these members. -/
def ObjectText (b : Bytes) (ms : List (String × Node)) : Prop :=
  ∃ n : Node, Token.Written n.tokens b ∧ n.members? = some ms

theorem objectText_iff (b : Bytes) (ms : List (String × Node)) :
    ObjectText b ms ↔ (Node.ofBytes? b).bind Node.members? = some ms := by
  simp only [ObjectText, Option.bind_eq_some_iff, Node.ofBytes?_eq_some_iff]

/-- A printed object has the members that were printed. -/
theorem objectText_bytes {ms : List (String × Value)} (h : Value.MembersWhole ms) :
    ObjectText (Value.object ms).bytes (ms.map fun (k, v) => (k, v.node)) := by
  rw [objectText_iff, Value.ofBytes?_bytes (v := .object ms) h, Option.bind_some,
    Value.members?_node]

theorem ObjectText.unique {b : Bytes} {ms ms' : List (String × Node)} (h : ObjectText b ms)
    (h' : ObjectText b ms') : ms = ms' := by
  rw [objectText_iff] at h h'
  exact Option.some.inj (h.symm.trans h')

section Names

variable {ms : List (String × Node)} {name : String}

/-- No member has the name. -/
def Absent (ms : List (String × Node)) (name : String) : Prop := ∀ m ∈ ms, m.1 ≠ name

/-- One member has the name, and `v` is its value. -/
def Sole (ms : List (String × Node)) (name : String) (v : Node) : Prop :=
  ∃ l r, ms = l ++ (name, v) :: r ∧ Absent l name ∧ Absent r name

theorem absent_iff : Absent ms name ↔ ms.filter (·.1 == name) = [] := by
  simp [Absent, List.filter_eq_nil_iff]

theorem sole_iff {v : Node} : Sole ms name v ↔ ms.filter (·.1 == name) = [(name, v)] := by
  rw [List.filter_eq_cons_iff]
  refine ⟨?_, ?_⟩
  · intro h
    rcases h with ⟨l, r, rfl, hl, hr⟩
    exact ⟨l, r, rfl, by simpa [Absent] using hl, by simp, absent_iff.1 hr⟩
  · intro h
    rcases h with ⟨l, r, rfl, hl, -, hr⟩
    exact ⟨l, r, rfl, by simpa [Absent] using hl, absent_iff.2 hr⟩

theorem Sole.mem {v : Node} (h : Sole ms name v) : (name, v) ∈ ms := by
  obtain ⟨l, r, rfl, -, -⟩ := h
  simp

theorem Sole.unique {v w : Node} (hv : Sole ms name v) (hw : Sole ms name w) : v = w := by
  rw [sole_iff] at hv hw
  simpa [hv] using hw

variable {α : Type} {absent : Option α} {read : Node → Option α}

theorem field?_of_sole {v : Node} (h : Sole ms name v) : field? ms name absent read = read v := by
  unfold field?
  rw [sole_iff.1 h]

theorem field?_of_absent (h : Absent ms name) : field? ms name absent read = absent := by
  unfold field?
  rw [absent_iff.1 h]

/-- A field is the reading of its only member, or the stand-in for none. -/
theorem field?_eq_some_iff {a : α} : field? ms name absent read = some a ↔
    (∃ v, Sole ms name v ∧ read v = some a) ∨ (Absent ms name ∧ absent = some a) := by
  refine ⟨?_, ?_⟩
  · intro h
    unfold field? at h
    split at h
    · rename_i hf
      exact Or.inr ⟨absent_iff.2 hf, h⟩
    · rename_i name' v hf
      have hn : name' = name := by
        have := List.of_mem_filter (p := fun m : String × Node => m.1 == name)
          (hf ▸ List.mem_singleton_self _)
        simpa using this
      subst hn
      exact Or.inl ⟨v, sole_iff.2 hf, h⟩
    · simp at h
  · intro h
    rcases h with ⟨v, hv, h⟩ | ⟨ha, h⟩
    · rw [field?_of_sole hv, h]
    · rw [field?_of_absent ha, h]

/-- A field that has to be there. -/
theorem field?_none_eq_some_iff {a : α} :
    field? ms name none read = some a ↔ ∃ v, Sole ms name v ∧ read v = some a := by
  rw [field?_eq_some_iff]
  simp

/-- A field goes by the members of its name, in any order. -/
theorem field?_perm {ms' : List (String × Node)}
    (h : (ms.filter (·.1 == name)).Perm (ms'.filter (·.1 == name))) :
    field? ms name absent read = field? ms' name absent read := by
  unfold field?
  generalize ms.filter (·.1 == name) = found at h ⊢
  generalize ms'.filter (·.1 == name) = found' at h ⊢
  rcases found with _ | ⟨m, _ | ⟨m', rest⟩⟩
  · rw [List.nil_perm.1 h]
  · rw [List.singleton_perm.1 h]
  · have hlength := h.length_eq
    rcases found' with _ | ⟨n, _ | ⟨n', rest'⟩⟩
    · simp at hlength
    · simp at hlength
    · rfl

/-- A name that occurs twice. -/
theorem not_sole_of_repeated {l m r : List (String × Node)} {v w u : Node}
    (h : ms = l ++ (name, v) :: m ++ (name, w) :: r) : ¬ Sole ms name u := by
  intro hsole
  have hlength := congrArg List.length (sole_iff.1 hsole)
  simp [h] at hlength
  omega

end Names

end Turnstile.Json
