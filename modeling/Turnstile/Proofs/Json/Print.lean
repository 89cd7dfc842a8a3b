import Mathlib.Data.List.TakeWhile
import Turnstile.Json.Value
import Turnstile.Proofs.Bytes
import Turnstile.Proofs.Json.Scan
import Turnstile.Proofs.Json.Tree

/-! What is printed reads back: strings item by item, whole numbers digit by digit, and from them
every value without floating point numbers. -/

namespace Turnstile.Json

/-! Strings. -/

/-- The item that an escaped byte is read as. -/
def pieceOf (b : UInt8) : Piece :=
  if b < 32 && !([8, 9, 10, 12, 13].contains b) then .unit b.toUInt16 else .byte b

def piecesOf (s : String) : List Piece := (Bytes.ofString s).map pieceOf

theorem hexUnit?_control {b : UInt8} (h : b < 32) :
    hexUnit? 0 [48, 48, Bytes.hexDigit (b >>> 4), Bytes.hexDigit (b &&& 15)] = some b.toUInt16 := by
  apply Bytes.of_forall_ofNat (n := 32) (P := fun b =>
    hexUnit? 0 [48, 48, Bytes.hexDigit (b >>> 4), Bytes.hexDigit (b &&& 15)] = some b.toUInt16)
    (by decide) h

theorem spells_pieceOf (b : UInt8) : (pieceOf b).Spells (escapeByte b) := by
  by_cases hb : b < 32
  · have hlt : b.toNat < 32 := hb
    have hq : b ≠ 34 := by rintro rfl; exact absurd hlt (by decide)
    have he : b ≠ 92 := by rintro rfl; exact absurd hlt (by decide)
    unfold escapeByte
    rw [if_neg hq, if_neg he]
    split_ifs with h8 h12 h10 h13 h9
    · exact h8 ▸ .escaped rfl
    · exact h12 ▸ .escaped rfl
    · exact h10 ▸ .escaped rfl
    · exact h13 ▸ .escaped rfl
    · exact h9 ▸ .escaped rfl
    · have hp : pieceOf b = .unit b.toUInt16 := by simp [pieceOf, hb, h8, h9, h10, h12, h13]
      exact hp ▸ .unit rfl (hexUnit?_control hb)
  · have hp : pieceOf b = .byte b := by simp [pieceOf, hb]
    have h32 : 32 ≤ b := UInt8.not_lt.1 hb
    have hne : b ≠ 8 ∧ b ≠ 12 ∧ b ≠ 10 ∧ b ≠ 13 ∧ b ≠ 9 := by
      refine ⟨?_, ?_, ?_, ?_, ?_⟩ <;> rintro rfl <;> exact absurd h32 (by decide)
    unfold escapeByte
    rw [hp, if_neg hne.1, if_neg hne.2.1, if_neg hne.2.2.1, if_neg hne.2.2.2.1, if_neg hne.2.2.2.2,
      if_neg hb]
    split_ifs with hq he
    · subst hq
      exact .escaped rfl
    · subst he
      exact .escaped rfl
    · exact .plain h32 hq he

theorem spellsAll_pieces (b : Bytes) : Piece.SpellsAll (b.map pieceOf) (b.flatMap escapeByte) := by
  induction b with
  | nil => exact .nil
  | cons c b ih => exact .cons (spells_pieceOf c) ih

theorem written_quoted {s : String} {ts : List Token} {text : Bytes} (h : Token.Written ts text) :
    Token.Written (.text (piecesOf s) :: ts) (quoted s ++ text) := by
  have := Token.Written.text (spellsAll_pieces (Bytes.ofString s)) h
  simpa [quoted, piecesOf] using this

theorem joinPieces_control {b : UInt8} (h : b < 32) : isLead b.toUInt16 = false ∧
    isTrail b.toUInt16 = false ∧ Bytes.ofChar (Char.ofNat b.toUInt16.toNat) = [b] := by
  apply Bytes.of_forall_ofNat (n := 32) (P := fun b => isLead b.toUInt16 = false ∧
    isTrail b.toUInt16 = false ∧ Bytes.ofChar (Char.ofNat b.toUInt16.toNat) = [b]) (by decide) h

theorem joinPieces_pieceOf (b : UInt8) (done : Bytes) (ps : List Piece) :
    joinPieces done (pieceOf b :: ps) = joinPieces (b :: done) ps := by
  unfold pieceOf
  split_ifs with h
  · have hlt : b < 32 := by simp only [Bool.and_eq_true, decide_eq_true_eq] at h; exact h.1
    obtain ⟨hl, ht, hc⟩ := joinPieces_control hlt
    rw [joinPieces.eq_def]
    simp only [hl, ht, hc, Bool.false_eq_true, if_false]
    rfl
  · rfl

theorem joinPieces_map (b done : Bytes) :
    joinPieces done (b.map pieceOf) = some (done.reverse ++ b) := by
  induction b generalizing done with
  | nil => simp [joinPieces]
  | cons c b ih => simp [joinPieces_pieceOf, ih]

@[simp] theorem textOf?_piecesOf (s : String) : textOf? (piecesOf s) = some s := by
  simp [textOf?, piecesOf, joinPieces_map, Bytes.toString?_ofString]

/-! Whole numbers. -/

namespace Numeral

def digits (n : ℕ) : Bytes := Bytes.ofString (toString n)

def ofInt (i : ℤ) : Numeral := ⟨decide (i < 0), digits i.natAbs, none, none⟩

theorem encode_digitChar : ∀ d < 10, String.utf8EncodeChar d.digitChar = [UInt8.ofNat (48 + d)] := by
  decide

theorem digits_eq (n : ℕ) : digits n =
    if n < 10 then [UInt8.ofNat (48 + n)] else digits (n / 10) ++ [UInt8.ofNat (48 + n % 10)] := by
  simp only [digits, Nat.toString_eq_ofList_toDigits, Bytes.ofString_ofList]
  rw [Nat.toDigits_eq_if (by norm_num)]
  split_ifs with h
  · simp [encode_digitChar n h]
  · simp [encode_digitChar (n % 10) (Nat.mod_lt _ (by norm_num))]

theorem digit_facts : ∀ d < 10, Bytes.isDigit (UInt8.ofNat (48 + d)) = true ∧
    (UInt8.ofNat (48 + d)).toNat - 48 = d ∧ Token.isWordByte (UInt8.ofNat (48 + d)) = true ∧
    (UInt8.ofNat (48 + d) = 48 → d = 0) := by
  decide

theorem digits_ne_nil (n : ℕ) : digits n ≠ [] := by
  rw [digits_eq]
  split_ifs <;> simp

theorem mem_digits (n : ℕ) : ∀ b ∈ digits n, Bytes.isDigit b = true ∧ Token.isWordByte b = true := by
  induction n using Nat.strong_induction_on with
  | _ n ih =>
    rw [digits_eq]
    split_ifs with h
    · obtain ⟨h1, -, h3, -⟩ := digit_facts n h
      intro b hb
      rw [List.mem_singleton.1 hb]
      exact ⟨h1, h3⟩
    · obtain ⟨h1, -, h3, -⟩ := digit_facts (n % 10) (Nat.mod_lt _ (by norm_num))
      intro b hb
      rcases List.mem_append.1 hb with hb | hb
      · exact ih (n / 10) (by omega) b hb
      · rw [List.mem_singleton.1 hb]
        exact ⟨h1, h3⟩

theorem digitsValue_digits (n : ℕ) : digitsValue (digits n) = n := by
  induction n using Nat.strong_induction_on with
  | _ n ih =>
    rw [digits_eq]
    split_ifs with h
    · simpa [digitsValue] using (digit_facts n h).2.1
    · have hn := ih (n / 10) (by omega)
      have hd := (digit_facts (n % 10) (Nat.mod_lt _ (by norm_num))).2.1
      rw [digitsValue] at hn ⊢
      rw [List.foldl_append, hn, List.foldl_cons, List.foldl_nil, hd]
      omega

/-- Only zero starts with a zero. -/
theorem head?_digits (n : ℕ) : digits n = [48] ∨ (digits n).head? ≠ some 48 := by
  induction n using Nat.strong_induction_on with
  | _ n ih =>
    rw [digits_eq]
    split_ifs with h
    · by_cases h0 : n = 0
      · exact Or.inl (by rw [h0]; rfl)
      · refine Or.inr fun hh => h0 ((digit_facts n h).2.2.2 ?_)
        simpa using hh
    · right
      rw [List.head?_append_of_ne_nil _ (digits_ne_nil _)]
      rcases ih (n / 10) (by omega) with h1 | h1
      · have hv := digitsValue_digits (n / 10)
        rw [h1] at hv
        have : digitsValue [48] = 0 := rfl
        omega
      · exact h1

theorem digits?_digits (n : ℕ) : digits? (digits n) = some (digits n, []) := by
  have hall : ∀ b ∈ digits n, Bytes.isDigit b = true := fun b hb => (mem_digits n b hb).1
  have hspan : (digits n).span Bytes.isDigit = (digits n, []) :=
    span_eq_iff.2 ⟨by simp, hall, by simp⟩
  unfold digits?
  rw [hspan]
  cases h : digits n with
  | nil => exact absurd h (digits_ne_nil n)
  | cons d ds => rfl

theorem whole?_digits (n : ℕ) : whole? (digits n) = some (digits n, []) := by
  rw [whole?, digits?_digits, Option.filter_some, if_pos]
  simpa using head?_digits n

theorem ofBytes?_minus {w : Bytes} (h : whole? w = some (w, [])) :
    ofBytes? (45 :: w) = some ⟨true, w, none, none⟩ := by
  simp [ofBytes?, h, fraction?, exponent?]

theorem ofBytes?_plain {d : UInt8} {ds : Bytes} (hd : d ≠ 45)
    (h : whole? (d :: ds) = some (d :: ds, [])) :
    ofBytes? (d :: ds) = some ⟨false, d :: ds, none, none⟩ := by
  simp [ofBytes?, h, hd, fraction?, exponent?]

theorem bytes_toString (i : ℤ) :
    Bytes.ofString (toString i) = (if i < 0 then [45] else []) ++ digits i.natAbs := by
  rw [Int.toString_eq_repr, Int.repr_eq_if]
  split_ifs with h1 h2 h2
  · omega
  · rw [show i.natAbs = i.toNat by omega]; rfl
  · rw [Bytes.ofString_append, show i.natAbs = (-i).toNat by omega]; rfl
  · omega

theorem head_digits_ne_minus {n : ℕ} {d : UInt8} {ds : Bytes} (h : digits n = d :: ds) : d ≠ 45 := by
  rintro rfl
  exact absurd (mem_digits n 45 (by rw [h]; simp)).1 (by decide)

theorem ofBytes?_ofInt (i : ℤ) : ofBytes? (Bytes.ofString (toString i)) = some (ofInt i) := by
  have hw := whole?_digits i.natAbs
  rw [bytes_toString, ofInt]
  split_ifs with h
  · simpa [h] using ofBytes?_minus hw
  · cases hd : digits i.natAbs with
    | nil => exact absurd hd (digits_ne_nil _)
    | cons d ds =>
      rw [hd] at hw
      simpa [h] using ofBytes?_plain (head_digits_ne_minus hd) hw

theorem int64?_ofInt {i : ℤ} (h : Word.isSigned64 i = true) : (ofInt i).int64? = some i := by
  have hi : (ofInt i).int? = some i := by
    simp only [int?, ofInt, digitsValue_digits, Option.isSome_none, Bool.or_self, Bool.false_eq_true,
      if_false]
    split_ifs with h1 h2
    · simp only [decide_eq_true_eq] at h1
      omega
    · simp only [decide_eq_true_eq] at h1
      exact congrArg some (by omega)
    · simp only [decide_eq_true_eq] at h1
      exact congrArg some (by omega)
  rw [int64?, hi, Option.filter_some, if_pos h]

theorem ofWord?_ofInt (i : ℤ) :
    Token.ofWord? (Bytes.ofString (toString i)) = some (.number (ofInt i)) := by
  have hne : ∀ w, ofBytes? w = none → Bytes.ofString (toString i) ≠ w := by
    rintro _ hw rfl
    rw [ofBytes?_ofInt] at hw
    exact absurd hw (by simp)
  simp only [Token.ofWord?, if_neg (hne _ (by decide : ofBytes? [110, 117, 108, 108] = none)),
    if_neg (hne _ (by decide : ofBytes? [116, 114, 117, 101] = none)),
    if_neg (hne _ (by decide : ofBytes? [102, 97, 108, 115, 101] = none)), ofBytes?_ofInt,
    Option.map_some]

theorem mem_toString (i : ℤ) : ∀ b ∈ Bytes.ofString (toString i), Token.isWordByte b = true := by
  rw [bytes_toString]
  intro b hb
  rcases List.mem_append.1 hb with hb | hb
  · split_ifs at hb
    · rw [List.mem_singleton.1 hb]; decide
    · simp at hb
  · exact (mem_digits _ b hb).2

end Numeral

/-! Values. -/

namespace Value

mutual

/-- The tree that the printed value is read as; that of a floating point number is left open. -/
def node : Value → Node
  | null => .null
  | bool b => .bool b
  | int i => .number (.ofInt i)
  | float _ => .null
  | text s => .text (piecesOf s)
  | array items => .array (itemNodes items)
  | object ms => .object (memberNodes ms)

def itemNodes : List Value → List Node
  | [] => []
  | v :: rest => node v :: itemNodes rest

def memberNodes : List (String × Value) → List (List Piece × Node)
  | [] => []
  | (k, v) :: rest => (piecesOf k, node v) :: memberNodes rest

end

mutual

/-- No floating point number occurs in the value. -/
def IsWhole : Value → Prop
  | float _ => False
  | array items => AllWhole items
  | object ms => MembersWhole ms
  | _ => True

def AllWhole : List Value → Prop
  | [] => True
  | v :: rest => IsWhole v ∧ AllWhole rest

def MembersWhole : List (String × Value) → Prop
  | [] => True
  | (_, v) :: rest => IsWhole v ∧ MembersWhole rest

end

open Token in
mutual

theorem written_bytes : ∀ (v : Value), v.IsWhole → ∀ {ts : List Token} {text : Bytes}, Ends text →
    Written ts text → Written (v.node.tokens ++ ts) (v.bytes ++ text)
  | null, _, _, _, he, h => .word (w := [110, 117, 108, 108]) (by decide +kernel) rfl he h
  | bool true, _, _, _, he, h => .word (w := [116, 114, 117, 101]) (by decide +kernel) rfl he h
  | bool false, _, _, _, he, h => .word (w := [102, 97, 108, 115, 101]) (by decide +kernel) rfl he h
  | int i, _, _, _, he, h => .word (Numeral.mem_toString i) (Numeral.ofWord?_ofInt i) he h
  | text s, _, _, _, _, h => written_quoted h
  | array [], _, _, _, _, h => .mark rfl (.mark rfl h)
  | object [], _, _, _, _, h => .mark rfl (.mark rfl h)
  | array (v :: rest), hw, _, _, _, h => by
    obtain ⟨hv, hr⟩ := hw
    obtain ⟨hend, hrest⟩ := written_itemBytes rest hr h
    have := Written.mark (b := 91) rfl (written_bytes v hv hend hrest)
    simpa [node, itemNodes, Node.tokens, bytes] using this
  | object ((k, v) :: rest), hw, _, _, _, h => by
    obtain ⟨hv, hr⟩ := hw
    obtain ⟨hend, hrest⟩ := written_memberBytes rest hr h
    have hcolon := Written.mark (b := 58) rfl (written_bytes v hv hend hrest)
    have := Written.mark (b := 123) rfl (written_quoted (s := k) hcolon)
    simpa [node, memberNodes, Node.tokens, bytes] using this

/-- Whatever follows an item ends it. -/
theorem written_itemBytes : ∀ (items : List Value), AllWhole items → ∀ {ts : List Token}
    {text : Bytes}, Written ts text → Ends (itemBytes items ++ text) ∧
      Written (Node.itemTokens (itemNodes items) ++ ts) (itemBytes items ++ text)
  | [], _, _, _, h => ⟨ends_cons (by decide), .mark rfl h⟩
  | v :: rest, hw, _, _, h => by
    obtain ⟨hv, hr⟩ := hw
    obtain ⟨hend, hrest⟩ := written_itemBytes rest hr h
    have := Written.mark (b := 44) rfl (written_bytes v hv hend hrest)
    refine ⟨ends_cons (by decide), ?_⟩
    simpa [itemNodes, Node.itemTokens, itemBytes] using this

theorem written_memberBytes : ∀ (ms : List (String × Value)), MembersWhole ms →
    ∀ {ts : List Token} {text : Bytes}, Written ts text → Ends (memberBytes ms ++ text) ∧
      Written (Node.memberTokens (memberNodes ms) ++ ts) (memberBytes ms ++ text)
  | [], _, _, _, h => ⟨ends_cons (by decide), .mark rfl h⟩
  | (k, v) :: rest, hw, _, _, h => by
    obtain ⟨hv, hr⟩ := hw
    obtain ⟨hend, hrest⟩ := written_memberBytes rest hr h
    have hcolon := Written.mark (b := 58) rfl (written_bytes v hv hend hrest)
    have := Written.mark (b := 44) rfl (written_quoted (s := k) hcolon)
    refine ⟨ends_cons (by decide), ?_⟩
    simpa [memberNodes, Node.memberTokens, memberBytes] using this

end

/-- Printing and reading a value gives its tree. -/
theorem ofBytes?_bytes {v : Value} (h : v.IsWhole) : Node.ofBytes? v.bytes = some v.node := by
  have hw : Token.Written (v.node.tokens ++ []) (v.bytes ++ []) := written_bytes v h trivial .nil
  rw [List.append_nil, List.append_nil] at hw
  rw [Node.ofBytes?, (Token.ofBytes?_eq_some_iff _ _).2 hw, Option.bind_some,
    Node.ofTokens?_tokens]

theorem members?_node (ms : List (String × Value)) :
    (node (object ms)).members? = some (ms.map fun (k, v) => (k, v.node)) := by
  simp only [node, Node.members?]
  induction ms with
  | nil => rfl
  | cons m ms ih => simp [memberNodes, ih]

@[simp] theorem text?_node (s : String) : (node (text s)).text? = some s := textOf?_piecesOf s

@[simp] theorem tag?_node (s : String) : tag? (node (text s)) = some s := textOf?_piecesOf s

theorem int64?_node {i : ℤ} (h : Word.isSigned64 i = true) : (node (int i)).int64? = some i :=
  Numeral.int64?_ofInt h

theorem itemNodes_texts (items : List String) :
    itemNodes (items.map text) = items.map fun s => node (text s) := by
  induction items with
  | nil => rfl
  | cons s items ih => simp [itemNodes, ih]

@[simp] theorem texts?_node (items : List String) : (node (texts items)).texts? = some items := by
  simp only [texts, node, Node.texts?, Node.items?, itemNodes_texts, Option.bind_some]
  induction items with
  | nil => rfl
  | cons s items ih => simp [ih, Node.text?]

theorem allWhole_texts (items : List String) : AllWhole (items.map text) := by
  induction items with
  | nil => trivial
  | cons s items ih => exact ⟨trivial, ih⟩

end Value

end Turnstile.Json
