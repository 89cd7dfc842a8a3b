import Turnstile.Proofs.KeyStore.Lookup
import Turnstile.Proofs.Token.RoundTrip

/-! Runs of a store that is loaded, changed and asked in any order. A lookup finds what the last
successful operation on the name left, and the verdict on a token follows the key of its name. -/

namespace Turnstile.KeyStore

/-- What can be done with a store; a validation only looks at it. -/
inductive Op
  | load (keys : List (String × Rsa.PrivateKey))
  | add (kid : String) (pem : Bytes)
  | remove (kid : String)
  | validate (auth : Authenticator) (token : Bytes) (now : ℤ)

inductive Answer
  | loaded
  | added (refused : Option Rsa.KeyError)
  | removed (present : Bool)
  | verdict (v : Except AuthError Claims)

def step (s : KeyStore) : Op → KeyStore × Answer
  | .load keys => (ofList keys, .loaded)
  | .add kid pem =>
    match s.add kid pem with
    | .ok s' => (s', .added none)
    | .error e => (s, .added (some e))
  | .remove kid => ((s.remove kid).1, .removed (s.remove kid).2)
  | .validate auth token now => (s, .verdict (auth.validate s token now))

def run (s : KeyStore) : List Op → KeyStore
  | [] => s
  | op :: rest => run (s.step op).1 rest

/-- Each operation with its answer. -/
def log (s : KeyStore) : List Op → List (Op × Answer)
  | [] => []
  | op :: rest => (op, (s.step op).2) :: log (s.step op).1 rest

/-- A load names every key, those that it leaves out as well. -/
def Op.names : Op → String → Bool
  | .load _, _ => true
  | .add name _, kid => name = kid
  | .remove name, kid => name = kid
  | .validate .., _ => false

/-- The key that the operation leaves under the name, if it names it and succeeds. -/
def Op.binding : Op → String → Option Rsa.PrivateKey
  | .load keys, kid => keys.reverse.lookup kid
  | .add name pem, kid => if name = kid then (Rsa.PrivateKey.ofPem pem).toOption else none
  | _, _ => none

def Answer.isSuccess : Answer → Bool
  | .added (some _) => false
  | .removed present => present
  | _ => true

/-- The last successful operation on the name. -/
def lastNaming? (entries : List (Op × Answer)) (kid : String) : Option Op :=
  (entries.reverse.find? fun e => e.1.names kid && e.2.isSuccess).map (·.1)

section Runs

variable (s : KeyStore) (kid : String)

theorem run_append (ops later : List Op) : s.run (ops ++ later) = (s.run ops).run later := by
  induction ops generalizing s with
  | nil => rfl
  | cons op ops ih => exact ih (s.step op).1

theorem lastNaming?_cons (e : Op × Answer) (rest : List (Op × Answer)) :
    lastNaming? (e :: rest) kid =
      (lastNaming? rest kid).or (if e.1.names kid && e.2.isSuccess then some e.1 else none) := by
  unfold lastNaming?
  rw [List.reverse_cons, List.find?_append, Option.map_or, List.find?_singleton]
  split_ifs <;> rfl

/-- One step sets the names that it succeeds on, and no others. -/
theorem privateKey?_step (op : Op) : (s.step op).1.privateKey? kid =
    if op.names kid && (s.step op).2.isSuccess then op.binding kid else s.privateKey? kid := by
  cases op with
  | load keys => simp [step, Op.names, Answer.isSuccess, Op.binding, privateKey?_ofList]
  | add name pem =>
    cases hp : Rsa.PrivateKey.ofPem pem with
    | error e => simp [step, add, hp, Except.map, Answer.isSuccess]
    | ok key =>
      simp only [step, add, hp, Except.map, Op.names, Answer.isSuccess, Op.binding, privateKey?_insert,
        Except.toOption, Bool.and_true, decide_eq_true_eq]
      split_ifs <;> rfl
  | remove name =>
    simp only [step, privateKey?_remove, remove_snd, Op.names, Answer.isSuccess, Op.binding,
      Bool.and_eq_true, decide_eq_true_eq]
    split_ifs with h1 h2 h2
    · rfl
    · subst h1
      exact (Option.not_isSome_iff_eq_none.1 fun h => h2 ⟨rfl, h⟩).symm
    · exact absurd h2.1 h1
    · rfl
  | validate auth token now => simp [step, Op.names]

/-- A lookup finds what the last successful operation on the name left there. -/
theorem privateKey?_run (ops : List Op) : (s.run ops).privateKey? kid =
    match lastNaming? (s.log ops) kid with
    | some op => op.binding kid
    | none => s.privateKey? kid := by
  induction ops generalizing s with
  | nil => rfl
  | cons op rest ih =>
    rw [run, ih, log, lastNaming?_cons, privateKey?_step]
    cases lastNaming? (log (s.step op).1 rest) kid with
    | some op' => rfl
    | none =>
      simp only [Option.none_or]
      split_ifs <;> rfl

theorem privateKey?_run_of_unnamed {ops : List Op}
    (h : ∀ e ∈ s.log ops, e.1.names kid = true → e.2.isSuccess = false) :
    (s.run ops).privateKey? kid = s.privateKey? kid := by
  have hnone : lastNaming? (s.log ops) kid = none := by
    unfold lastNaming?
    rw [Option.map_eq_none_iff, List.find?_eq_none]
    intro e he
    have := h e (List.mem_reverse.1 he)
    simpa using this
  rw [privateKey?_run, hnone]

theorem mem_of_mem_log {ops : List Op} {e : Op × Answer} (h : e ∈ s.log ops) : e.1 ∈ ops := by
  induction ops generalizing s with
  | nil => simp [log] at h
  | cons op rest ih =>
    rcases List.mem_cons.1 h with rfl | h
    · exact List.mem_cons_self
    · exact List.mem_cons_of_mem _ (ih _ h)

/-- A name without a key gets none but from an operation that has one for it. -/
theorem privateKey?_run_eq_none {ops : List Op} (hs : s.privateKey? kid = none)
    (h : ∀ op ∈ ops, op.binding kid = none) : (s.run ops).privateKey? kid = none := by
  induction ops generalizing s with
  | nil => exact hs
  | cons op rest ih =>
    refine ih _ ?_ fun op' hop => h op' (List.mem_cons_of_mem _ hop)
    rw [privateKey?_step, h op List.mem_cons_self, hs, ite_self]

end Runs

/-! Keys that were read from containers, throughout a run. -/

/-- A load brings keys that were read from containers; an addition reads its own. -/
def Op.IsRead : Op → Prop
  | .load keys => ∀ k ∈ keys, ∃ pem, Rsa.PrivateKey.ofPem pem = .ok k.2
  | _ => True

/-- Every key of the store was read from a container. -/
def IsRead (s : KeyStore) : Prop :=
  ∀ kid key, s.privateKey? kid = some key → ∃ pem, Rsa.PrivateKey.ofPem pem = .ok key

theorem isRead_empty : empty.IsRead := by
  intro kid key h
  simp [privateKey?_empty] at h

theorem Op.IsRead.binding {op : Op} (h : op.IsRead) {kid : String} {key : Rsa.PrivateKey}
    (hkey : op.binding kid = some key) : ∃ pem, Rsa.PrivateKey.ofPem pem = .ok key := by
  cases op with
  | load keys =>
    obtain ⟨l, r, hkeys, -⟩ := List.lookup_eq_some_iff.1 hkey
    refine h (kid, key) (List.mem_reverse.1 ?_)
    simp [hkeys]
  | add name pem =>
    simp only [Op.binding] at hkey
    split_ifs at hkey
    cases hpem : Rsa.PrivateKey.ofPem pem with
    | error e => simp [hpem, Except.toOption] at hkey
    | ok key' =>
      simp only [hpem, Except.toOption, Option.some.injEq] at hkey
      exact ⟨pem, hkey ▸ hpem⟩
  | remove name => simp [Op.binding] at hkey
  | validate auth token now => simp [Op.binding] at hkey

theorem IsRead.step {s : KeyStore} (hs : s.IsRead) {op : Op} (hop : op.IsRead) :
    (s.step op).1.IsRead := by
  intro kid key h
  rw [privateKey?_step] at h
  split_ifs at h
  · exact hop.binding h
  · exact hs kid key h

theorem IsRead.run {s : KeyStore} (hs : s.IsRead) {ops : List Op} (hops : ∀ op ∈ ops, op.IsRead) :
    (s.run ops).IsRead := by
  induction ops generalizing s with
  | nil => exact hs
  | cons op rest ih =>
    obtain ⟨hop, hrest⟩ := List.forall_mem_cons.1 hops
    exact ih (hs.step hop) hrest

/-- Two stores with the same lookups, which nothing tells apart. -/
def Alike (s t : KeyStore) : Prop := ∀ kid, s.privateKey? kid = t.privateKey? kid

section Alike

variable {s t : KeyStore}

theorem Alike.validate (h : s.Alike t) (auth : Authenticator) (token : Bytes) (now : ℤ) :
    auth.validate s token now = auth.validate t token now := by
  have hpublic : s.publicKey? = t.publicKey? := funext fun kid => publicKey?_eq_of_privateKey? (h kid)
  unfold Authenticator.validate Token.validate
  rw [hpublic]

theorem Alike.answer (h : s.Alike t) (op : Op) : (s.step op).2 = (t.step op).2 := by
  cases op with
  | load keys => rfl
  | add name pem => cases hp : Rsa.PrivateKey.ofPem pem <;> simp [step, add, hp, Except.map]
  | remove name => simp only [step, remove_snd, h name]
  | validate auth token now => simp only [step, h.validate]

theorem Alike.step (h : s.Alike t) (op : Op) : (s.step op).1.Alike (t.step op).1 := by
  intro kid
  rw [privateKey?_step, privateKey?_step, h.answer, h kid]

theorem Alike.log (h : s.Alike t) (ops : List Op) : s.log ops = t.log ops := by
  induction ops generalizing s t with
  | nil => rfl
  | cons op rest ih => rw [KeyStore.log, KeyStore.log, h.answer, ih (h.step op)]

theorem alike_step_of_failure {op : Op} (h : (s.step op).2.isSuccess = false) :
    (s.step op).1.Alike s := by
  intro kid
  rw [privateKey?_step, h, Bool.and_false]
  rfl

theorem unchanged_of_failure {op : Op} (h : (s.step op).2.isSuccess = false) :
    (∀ kid, (s.step op).1.privateKey? kid = s.privateKey? kid) ∧
      (s.step op).1.kids = s.kids ∧ (s.step op).1.size = s.size ∧
      ∀ later, (s.step op).1.log later = s.log later := by
  have halike := alike_step_of_failure h
  have hkids := kids_eq_of_lookups halike
  refine ⟨halike, hkids, ?_, halike.log⟩
  rw [size_eq_length_kids, hkids, size_eq_length_kids]

end Alike

/-! Verdicts on a token that names a key. -/

section Verdicts

variable (s : KeyStore) {token : Bytes} {p : Token.Parts} {kid : String} {later : List Op}

theorem validate_run_remove (hn : Token.NamesKey token p kid) (auth : Authenticator) (now : ℤ)
    (hl : ∀ op ∈ later, op.binding kid = none) :
    auth.validate (s.run (.remove kid :: later)) token now = .error (.keyNotFound kid) := by
  have hremoved : (s.step (.remove kid)).1.privateKey? kid = none := by
    rw [step, privateKey?_remove, if_pos rfl]
  rw [run]
  exact Token.validate_of_absent auth hn (privateKey?_run_eq_none _ kid hremoved hl)

theorem validate_run_of_unnamed (hn : Token.NamesKey token p kid) (auth : Authenticator) (now : ℤ)
    (hl : ∀ op ∈ later, op.names kid = false) :
    auth.validate (s.run later) token now = auth.validate s token now := by
  have hlog : ∀ e ∈ s.log later, e.1.names kid = true → e.2.isSuccess = false := by
    intro e he hname
    rw [hl e.1 (mem_of_mem_log s he)] at hname
    exact absurd hname (by decide)
  exact Token.validate_congr auth hn
    (publicKey?_eq_of_privateKey? (privateKey?_run_of_unnamed s kid hlog))

/-- Whatever the name stood for before, the added key alone decides. -/
theorem validate_run_add (hn : Token.NamesKey token p kid) (auth : Authenticator) (now : ℤ)
    {pem : Bytes} {key : Rsa.PrivateKey} (hpem : Rsa.PrivateKey.ofPem pem = .ok key)
    (hl : ∀ e ∈ (s.step (.add kid pem)).1.log later, e.1.names kid = true → e.2.isSuccess = false) :
    auth.validate (s.run (.add kid pem :: later)) token now =
      auth.validate (empty.insert kid key) token now := by
  have hadded : (s.step (.add kid pem)).1.privateKey? kid = some key := by
    rw [privateKey?_step]
    simp [step, add, hpem, Except.map, Op.names, Answer.isSuccess, Op.binding, Except.toOption]
  have hkept := privateKey?_run_of_unnamed (s.step (.add kid pem)).1 kid hl
  have hsame : (s.run (.add kid pem :: later)).privateKey? kid =
      (empty.insert kid key).privateKey? kid := by
    rw [run, hkept, hadded, privateKey?_insert, if_pos rfl]
  exact Token.validate_congr auth hn (publicKey?_eq_of_privateKey? hsame)

end Verdicts

/-- After any operations on an empty store: lookups go by the last successful operation on the
name; what fails changes nothing; the names are listed in order, once each; and a token that names
a key is unknown from the removal of the key on, is judged by a key added since, and does not
notice other names. -/
theorem lookups_and_verdicts_of_run (ops : List Op) :
    (∀ kid, (empty.run ops).privateKey? kid =
      (lastNaming? (empty.log ops) kid).bind (·.binding kid)) ∧
    (∀ op, ((empty.run ops).step op).2.isSuccess = false →
      (∀ kid, ((empty.run ops).step op).1.privateKey? kid = (empty.run ops).privateKey? kid) ∧
      ((empty.run ops).step op).1.kids = (empty.run ops).kids ∧
      ((empty.run ops).step op).1.size = (empty.run ops).size ∧
      ∀ later, ((empty.run ops).step op).1.log later = (empty.run ops).log later) ∧
    ((empty.run ops).kids.Pairwise (· < ·) ∧
      (∀ kid, kid ∈ (empty.run ops).kids ↔ ((empty.run ops).privateKey? kid).isSome) ∧
      (empty.run ops).size = (empty.run ops).kids.length ∧
      ((empty.run ops).isEmpty = true ↔ (empty.run ops).kids = [])) ∧
    ∀ token p kid, Token.NamesKey token p kid → ∀ (auth : Authenticator) now,
      (∀ later : List Op, (∀ op ∈ later, op.binding kid = none) →
        auth.validate (empty.run (ops ++ .remove kid :: later)) token now =
          .error (.keyNotFound kid)) ∧
      (∀ later : List Op, (∀ op ∈ later, op.names kid = false) →
        auth.validate (empty.run (ops ++ later)) token now =
          auth.validate (empty.run ops) token now) ∧
      ∀ pem key later, Rsa.PrivateKey.ofPem pem = .ok key →
        (∀ e ∈ ((empty.run ops).step (.add kid pem)).1.log later,
          e.1.names kid = true → e.2.isSuccess = false) →
        auth.validate (empty.run (ops ++ .add kid pem :: later)) token now =
          auth.validate (empty.insert kid key) token now := by
  set s := empty.run ops with hs
  refine ⟨?_, fun op => unchanged_of_failure, ⟨s.kids_pairwise, s.mem_kids_iff,
    s.size_eq_length_kids, s.isEmpty_iff_kids⟩, ?_⟩
  · intro kid
    rw [hs, privateKey?_run]
    cases lastNaming? (empty.log ops) kid with
    | some op => rfl
    | none => exact privateKey?_empty kid
  · intro token p kid hn auth now
    simp only [run_append, ← hs]
    refine ⟨?_, ?_, ?_⟩
    · intro later hl
      exact validate_run_remove s hn auth now hl
    · intro later hl
      exact validate_run_of_unnamed s hn auth now hl
    · intro pem key later hpem hl
      exact validate_run_add s hn auth now hpem hl

theorem lookups_and_verdicts_of_run_mersenne :
    ∃ token p, Token.NamesKey token p "k" ∧
      (Authenticator.mk "a").validate (empty.run [.load [("k", ⟨15, 3, 3, 3, 5⟩)], .remove "k",
        .add "j" Rsa.mersennePem, .add "k" []]) token 1 = .error (.keyNotFound "k") ∧
      (Authenticator.mk "a").validate (empty.run [.load [("k", ⟨15, 3, 3, 3, 5⟩)],
        .add "k" Rsa.mersennePem, .remove "j", .add "k" []]) token 1 =
          (Authenticator.mk "a").validate mersenne token 1 := by
  have hbad : Rsa.PrivateKey.ofPem [] = .error .pem := rfl
  have hn := Token.namesKey_minted "k" ⟨"i", "s", 1, 2, []⟩ []
  -- Over any store: the one that holds the key is not evaluated.
  have hfails (t : KeyStore) : ∀ e ∈ t.log [.remove "j", .add "k" []],
      e.1.names "k" = true → e.2.isSuccess = false := by
    simp [log, step, add, hbad, Except.map, Op.names, Answer.isSuccess]
  obtain ⟨-, -, -, htoken⟩ := lookups_and_verdicts_of_run [.load [("k", ⟨15, 3, 3, 3, 5⟩)]]
  obtain ⟨hremoved, -, hadded⟩ := htoken _ _ _ hn ⟨"a"⟩ 1
  refine ⟨_, _, hn, hremoved [.add "j" Rsa.mersennePem, .add "k" []] ?_,
    hadded Rsa.mersennePem _ [.remove "j", .add "k" []] Rsa.ofPem_mersennePem (hfails _)⟩
  simp [Op.binding, hbad, Except.toOption]

end Turnstile.KeyStore
