import Mathlib.Tactic
import Turnstile.Json.Node

/-! The tree reader inverts the token sequence of a tree: each tree has one, and a sequence reads as
the tree it belongs to or not at all. -/

namespace Turnstile.Json.Node

mutual

def tokens : Node → List Token
  | .null => [.null]
  | .bool b => [.bool b]
  | .number n => [.number n]
  | .text p => [.text p]
  | .array [] => [.openArray, .closeArray]
  | .array (n :: rest) => .openArray :: tokens n ++ itemTokens rest
  | .object [] => [.openObject, .closeObject]
  | .object ((key, n) :: rest) =>
    .openObject :: .text key :: .colon :: tokens n ++ memberTokens rest

/-- What follows the first item of an array. -/
def itemTokens : List Node → List Token
  | [] => [.closeArray]
  | n :: rest => .comma :: tokens n ++ itemTokens rest

/-- What follows the first member of an object. -/
def memberTokens : List (List Piece × Node) → List Token
  | [] => [.closeObject]
  | (key, n) :: rest => .comma :: .text key :: .colon :: tokens n ++ memberTokens rest

end

/-- A first item is read as any value in an array that holds nothing yet. -/
theorem run_firstItem (stack : List Frame) (n : Node) (us : List Token) :
    run (.firstItem stack) (n.tokens ++ us) = run (.value (.array [] :: stack)) (n.tokens ++ us) := by
  cases n with
  | array items => cases items <;> simp only [tokens, List.cons_append, run, step]
  | object ms => rcases ms with _ | ⟨⟨key, m⟩, ms⟩ <;> simp only [tokens, List.cons_append, run, step]
  | _ => simp only [tokens, List.cons_append, run, step]

mutual

theorem run_tokens : ∀ (n : Node) (stack : List Frame) (us : List Token),
    run (.value stack) (n.tokens ++ us) = run (.after n stack) us
  | .null, _, _ | .bool _, _, _ | .number _, _, _ | .text _, _, _ => rfl
  | .array [], _, _ => rfl
  | .object [], _, _ => rfl
  | .array (n :: rest), stack, us => by
    simp only [tokens, List.cons_append, List.append_assoc, run, step, stepValue]
    rw [run_firstItem, run_tokens n, run_itemTokens rest]
    rfl
  | .object ((key, n) :: rest), stack, us => by
    simp only [tokens, List.cons_append, List.append_assoc, run, step, stepValue]
    rw [run_tokens n, run_memberTokens rest]
    rfl

theorem run_itemTokens : ∀ (items : List Node) (n : Node) (done : List Node) (stack : List Frame)
    (us : List Token), run (.after n (.array done :: stack)) (itemTokens items ++ us) =
      run (.after (.array ((n :: done).reverse ++ items)) stack) us
  | [], n, done, stack, us => by simp [itemTokens, run, step]
  | m :: rest, n, done, stack, us => by
    simp only [itemTokens, List.cons_append, List.append_assoc, run, step]
    rw [run_tokens m, run_itemTokens rest]
    simp

theorem run_memberTokens : ∀ (ms : List (List Piece × Node)) (key : List Piece) (n : Node)
    (done : List (List Piece × Node)) (stack : List Frame) (us : List Token),
    run (.after n (.object done key :: stack)) (memberTokens ms ++ us) =
      run (.after (.object (((key, n) :: done).reverse ++ ms)) stack) us
  | [], key, n, done, stack, us => by simp [memberTokens, run, step]
  | (key', m) :: rest, key, n, done, stack, us => by
    simp only [memberTokens, List.cons_append, List.append_assoc, run, step]
    rw [run_tokens m, run_memberTokens rest]
    simp

end

theorem ofTokens?_tokens (n : Node) : ofTokens? n.tokens = some n := by
  have h := run_tokens n [] []
  rw [List.append_nil] at h
  rw [ofTokens?, h]
  rfl

/-! What a state has read so far, as tokens. -/

def itemsRead (done : List Node) : List Token := done.reverse.flatMap fun n => n.tokens ++ [.comma]

def membersRead (done : List (List Piece × Node)) : List Token :=
  done.reverse.flatMap fun (key, n) => .text key :: .colon :: n.tokens ++ [.comma]

def Frame.tokens : Frame → List Token
  | .array done => .openArray :: itemsRead done
  | .object done key => .openObject :: membersRead done ++ [.text key, .colon]

/-- The innermost container stands first in the stack and last in the text. -/
def stackTokens (stack : List Frame) : List Token := stack.reverse.flatMap Frame.tokens

def State.tokens : State → List Token
  | .value stack => stackTokens stack
  | .firstItem stack => stackTokens stack ++ [.openArray]
  | .firstKey stack => stackTokens stack ++ [.openObject]
  | .key done stack => stackTokens stack ++ .openObject :: membersRead done
  | .colon done k stack => stackTokens stack ++ .openObject :: membersRead done ++ [.text k]
  | .after n stack => stackTokens stack ++ n.tokens

theorem stackTokens_cons (f : Frame) (stack : List Frame) :
    stackTokens (f :: stack) = stackTokens stack ++ f.tokens := by
  simp [stackTokens]

theorem itemsRead_cons (n : Node) (done : List Node) :
    itemsRead (n :: done) = itemsRead done ++ n.tokens ++ [.comma] := by
  simp [itemsRead]

theorem membersRead_cons (key : List Piece) (n : Node) (done : List (List Piece × Node)) :
    membersRead ((key, n) :: done) =
      membersRead done ++ .text key :: .colon :: n.tokens ++ [.comma] := by
  simp [membersRead]

theorem tokens_itemTokens (n v : Node) (items : List Node) :
    n.tokens ++ itemTokens (items ++ [v]) =
      (n :: items).flatMap (fun n => n.tokens ++ [.comma]) ++ v.tokens ++ [.closeArray] := by
  induction items generalizing n with
  | nil => simp [itemTokens]
  | cons m items ih =>
    simp only [List.cons_append, itemTokens, List.flatMap_cons, ih]
    simp

theorem tokens_array (done : List Node) (v : Node) :
    (Node.array (v :: done).reverse).tokens =
      .openArray :: itemsRead done ++ v.tokens ++ [.closeArray] := by
  rw [List.reverse_cons, itemsRead]
  cases done.reverse with
  | nil => simp [tokens, itemTokens]
  | cons n items => simp [tokens, tokens_itemTokens]

theorem tokens_memberTokens (k key : List Piece) (n v : Node) (ms : List (List Piece × Node)) :
    .text k :: .colon :: n.tokens ++ memberTokens (ms ++ [(key, v)]) =
      ((k, n) :: ms).flatMap (fun (key, n) => .text key :: .colon :: n.tokens ++ [.comma]) ++
        .text key :: .colon :: v.tokens ++ [.closeObject] := by
  induction ms generalizing k n with
  | nil => simp [memberTokens]
  | cons m ms ih =>
    obtain ⟨k', n'⟩ := m
    have := ih k' n'
    simp only [List.cons_append, memberTokens, List.flatMap_cons] at this ⊢
    rw [this]
    simp

theorem tokens_object (done : List (List Piece × Node)) (key : List Piece) (v : Node) :
    (Node.object ((key, v) :: done).reverse).tokens =
      .openObject :: membersRead done ++ .text key :: .colon :: v.tokens ++ [.closeObject] := by
  rw [List.reverse_cons, membersRead]
  cases done.reverse with
  | nil => simp [tokens, memberTokens]
  | cons m ms =>
    have := tokens_memberTokens m.1 key m.2 v ms
    simp only [List.cons_append] at this
    simp only [List.cons_append, tokens, this]

theorem tokens_stepValue {stack : List Frame} {t : Token} {s : State}
    (h : stepValue stack t = some s) : s.tokens = stackTokens stack ++ [t] := by
  cases t <;> simp only [stepValue, Option.some.injEq, reduceCtorEq] at h <;> subst h <;> rfl

/-- Each step adds its token to what was read. -/
theorem tokens_step {s s' : State} {t : Token} (h : step s t = some s') :
    s'.tokens = s.tokens ++ [t] := by
  unfold step at h
  split at h
  case h_1 stack => exact tokens_stepValue h
  case h_2 stack =>
    obtain rfl := Option.some.inj h
    simp [State.tokens, tokens]
  case h_3 stack _ =>
    rw [tokens_stepValue h, stackTokens_cons]
    rfl
  case h_4 stack =>
    obtain rfl := Option.some.inj h
    simp [State.tokens, tokens]
  case h_5 stack key =>
    obtain rfl := Option.some.inj h
    simp [State.tokens, membersRead]
  case h_7 done stack key =>
    obtain rfl := Option.some.inj h
    rfl
  case h_9 done key stack =>
    obtain rfl := Option.some.inj h
    simp [State.tokens, stackTokens_cons, Frame.tokens]
  case h_11 v done stack =>
    obtain rfl := Option.some.inj h
    simp [State.tokens, stackTokens_cons, Frame.tokens, itemsRead_cons]
  case h_12 v done stack =>
    obtain rfl := Option.some.inj h
    simp only [State.tokens, tokens_array, stackTokens_cons, Frame.tokens, List.append_assoc]
  case h_13 v done key stack =>
    obtain rfl := Option.some.inj h
    simp [State.tokens, stackTokens_cons, Frame.tokens, membersRead_cons]
  case h_14 v done key stack =>
    obtain rfl := Option.some.inj h
    rw [State.tokens, tokens_object, State.tokens, stackTokens_cons, Frame.tokens]
    simp
  all_goals simp at h

theorem tokens_run {s s' : State} {ts : List Token} (h : run s ts = some s') :
    s'.tokens = s.tokens ++ ts := by
  induction ts generalizing s with
  | nil =>
    obtain rfl := Option.some.inj h
    simp
  | cons t ts ih =>
    rw [run] at h
    cases hs : step s t with
    | none => simp [hs] at h
    | some s₁ =>
      rw [hs] at h
      rw [ih h, tokens_step hs, List.append_assoc]
      rfl

/-- A token sequence reads as a tree exactly when it is the tree's own. -/
theorem ofTokens?_eq_some_iff (ts : List Token) (n : Node) :
    ofTokens? ts = some n ↔ ts = n.tokens := by
  refine ⟨?_, ?_⟩
  · intro h
    unfold ofTokens? at h
    split at h
    case h_1 m hm =>
      obtain rfl := Option.some.inj h
      simpa [State.tokens, stackTokens] using (tokens_run hm).symm
    case h_2 => simp at h
  · rintro rfl
    exact ofTokens?_tokens n

end Turnstile.Json.Node
