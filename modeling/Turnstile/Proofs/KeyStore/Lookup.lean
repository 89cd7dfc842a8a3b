import Mathlib.Data.String.Basic
import Turnstile.KeyStore
import Turnstile.Proofs.Rsa.Container

/-! Lookups after each change of a store, and the list of its names. -/

namespace Turnstile.KeyStore

theorem privateKey?_empty (kid : String) : empty.privateKey? kid = none :=
  Std.TreeMap.getElem?_emptyc

theorem privateKey?_insert (s : KeyStore) (kid name : String) (key : Rsa.PrivateKey) :
    (s.insert name key).privateKey? kid = if name = kid then some key else s.privateKey? kid := by
  simp [privateKey?, insert, Std.TreeMap.getElem?_insert]

theorem privateKey?_remove (s : KeyStore) (kid name : String) :
    (s.remove name).1.privateKey? kid = if name = kid then none else s.privateKey? kid := by
  simp [privateKey?, remove, Std.TreeMap.getElem?_erase]

theorem remove_snd (s : KeyStore) (kid : String) :
    (s.remove kid).2 = (s.privateKey? kid).isSome := by
  simp [privateKey?, remove]

theorem privateKey?_foldl_insert (keys : List (String × Rsa.PrivateKey)) (s : KeyStore)
    (kid : String) : (keys.foldl (fun s k => s.insert k.1 k.2) s).privateKey? kid =
      (keys.reverse.lookup kid).or (s.privateKey? kid) := by
  induction keys generalizing s with
  | nil => simp
  | cons k keys ih =>
    obtain ⟨name, key⟩ := k
    rw [List.foldl_cons, ih, privateKey?_insert, List.reverse_cons, List.lookup_append,
      List.lookup_cons]
    by_cases h : name = kid
    · simp [h]
    · simp [h, beq_false_of_ne (Ne.symm h)]

/-- Of equal names the last one counts. -/
theorem privateKey?_ofList (keys : List (String × Rsa.PrivateKey)) (kid : String) :
    (ofList keys).privateKey? kid = keys.reverse.lookup kid := by
  rw [ofList, privateKey?_foldl_insert, privateKey?_empty, Option.or_none]

theorem kids_pairwise (s : KeyStore) : s.kids.Pairwise (· < ·) := by
  refine Std.TreeMap.ordered_keys.imp fun h => ?_
  exact compareOfLessAndEq_eq_lt.1 h

theorem mem_kids_iff (s : KeyStore) (kid : String) : kid ∈ s.kids ↔ (s.privateKey? kid).isSome := by
  simp [kids, privateKey?]

theorem size_eq_length_kids (s : KeyStore) : s.size = s.kids.length := Std.TreeMap.length_keys.symm

theorem isEmpty_iff_kids (s : KeyStore) : s.isEmpty = true ↔ s.kids = [] := by
  rw [isEmpty, decide_eq_true_eq, size_eq_length_kids, List.length_eq_zero_iff]

/-- Stores with the same lookups have the same names. -/
theorem kids_eq_of_lookups {s t : KeyStore} (h : ∀ kid, s.privateKey? kid = t.privateKey? kid) :
    s.kids = t.kids :=
  (Std.TreeMap.Equiv.of_forall_constGet?_eq h).keys_eq

theorem publicKey?_eq_of_privateKey? {s t : KeyStore} {kid : String}
    (h : s.privateKey? kid = t.privateKey? kid) : s.publicKey? kid = t.publicKey? kid := by
  rw [publicKey?, publicKey?, h]

/-- The key of the two Mersenne primes under the name `k`. -/
def mersenne : KeyStore := empty.insert "k" Rsa.mersenneKey

theorem privateKey?_mersenne : mersenne.privateKey? "k" = some Rsa.mersenneKey := by
  rw [mersenne, privateKey?_insert, if_pos rfl]

end Turnstile.KeyStore
