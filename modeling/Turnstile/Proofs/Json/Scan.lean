import Mathlib.Tactic
import Turnstile.Json.Token
import Turnstile.Proofs.Bytes

/-! The scanner accepts exactly the texts of a grammar of tokens: blanks anywhere, punctuation,
strings in quotes, and words that the next byte has to end. -/

namespace Turnstile.Json

/-- The value of hexadecimal digits that follow a prefix of this value. -/
def hexUnit? (value : UInt16) : Bytes → Option UInt16
  | [] => some value
  | d :: rest => (Bytes.hexValue? d).bind fun x => hexUnit? (value * 16 + x.toUInt16) rest

/-- How one item of a string may be written. -/
inductive Piece.Spells : Piece → Bytes → Prop
  | plain {b : UInt8} (hb : 32 ≤ b) (hq : b ≠ 34) (he : b ≠ 92) : Spells (.byte b) [b]
  | escaped {e b : UInt8} (h : Token.escaped? e = some b) : Spells (.byte b) [92, e]
  | unit {w : Bytes} {u : UInt16} (hl : w.length = 4) (h : hexUnit? 0 w = some u) :
    Spells (.unit u) (92 :: 117 :: w)

inductive Piece.SpellsAll : List Piece → Bytes → Prop
  | nil : SpellsAll [] []
  | cons {p : Piece} {ps : List Piece} {w text : Bytes} (hp : p.Spells w) (hps : SpellsAll ps text) :
    SpellsAll (p :: ps) (w ++ text)

namespace Token

def isWordByte (b : UInt8) : Bool := !(isSpace b || b = 34 || (punctuation? b).isSome)

/-- No word goes on here. -/
def Ends : Bytes → Prop
  | [] => True
  | b :: _ => isWordByte b = false

theorem ends_cons {b : UInt8} {text : Bytes} (h : isWordByte b = false) : Ends (b :: text) := h

/-- The token sequences and their texts. -/
inductive Written : List Token → Bytes → Prop
  | nil : Written [] []
  | space {b : UInt8} {ts : List Token} {text : Bytes} (hb : isSpace b = true)
    (h : Written ts text) : Written ts (b :: text)
  | mark {b : UInt8} {t : Token} {ts : List Token} {text : Bytes} (hb : punctuation? b = some t)
    (h : Written ts text) : Written (t :: ts) (b :: text)
  | word {w : Bytes} {t : Token} {ts : List Token} {text : Bytes} (hw : ∀ b ∈ w, isWordByte b = true)
    (ht : ofWord? w = some t) (he : Ends text) (h : Written ts text) : Written (t :: ts) (w ++ text)
  | text {ps : List Piece} {w : Bytes} {ts : List Token} {text : Bytes} (hw : Piece.SpellsAll ps w)
    (h : Written ts text) : Written (.text ps :: ts) (34 :: w ++ 34 :: text)

theorem isSpace_of_punctuation? {b : UInt8} {t : Token} (h : punctuation? b = some t) :
    isSpace b = false ∧ b ≠ 34 := by
  apply Bytes.of_forall_ofNat (n := 256) (P := fun b => (punctuation? b).isSome →
    isSpace b = false ∧ b ≠ 34) (by decide +kernel) b.toNat_lt
  rw [h]
  rfl

theorem ne_nil_of_ofWord? {w : Bytes} {t : Token} (h : ofWord? w = some t) : w ≠ [] := by
  rintro rfl
  have : ofWord? [] = none := by decide
  simp [this] at h

/-- A byte that ends a word is read as it is between tokens. -/
theorem scan_word_end {held : Bytes} {t : Token} {done : List Token} {text : Bytes}
    (ht : ofWord? held.reverse = some t) (he : Ends text) :
    scan (.word held) done text = scan .between (t :: done) text := by
  cases text with
  | nil => simp [scan, finish, ht]
  | cons b text =>
    have hb : (isSpace b || b = 34 || (punctuation? b).isSome) = true := by
      simpa only [Ends, isWordByte, Bool.not_eq_false'] using he
    simp only [scan, step, hb, if_true, ht, Option.map_some]

theorem scan_wordBytes (w held : Bytes) (done : List Token) (text : Bytes)
    (hw : ∀ b ∈ w, isWordByte b = true) :
    scan (.word held) done (w ++ text) = scan (.word (w.reverse ++ held)) done text := by
  induction w generalizing held with
  | nil => rfl
  | cons b w ih =>
    have hb : (isSpace b || b = 34 || (punctuation? b).isSome) = false := by
      simpa [isWordByte] using hw b (by simp)
    simp only [List.cons_append, scan, step, hb, Bool.false_eq_true, if_false]
    rw [ih _ fun c hc => hw c (by simp [hc])]
    simp

theorem scan_word {w : Bytes} {t : Token} {done : List Token} {text : Bytes}
    (hw : ∀ b ∈ w, isWordByte b = true) (ht : ofWord? w = some t) (he : Ends text) :
    scan .between done (w ++ text) = scan .between (t :: done) text := by
  obtain ⟨b, w, rfl⟩ := List.exists_cons_of_ne_nil (ne_nil_of_ofWord? ht)
  have hb : isSpace b = false ∧ b ≠ 34 ∧ punctuation? b = none := by
    simpa [isWordByte, and_assoc] using hw b (by simp)
  have hstart : scan .between done (b :: w ++ text) = scan (.word [b]) done (w ++ text) := by
    simp [scan, step, stepBetween, hb]
  rw [hstart, scan_wordBytes w [b] done text fun c hc => hw c (by simp [hc])]
  exact scan_word_end (by simpa using ht) he

theorem scan_hex {w : Bytes} {u value : UInt16} {held : List Piece} {done : List Token}
    {text : Bytes} (missing : ℕ) (hl : w.length = missing + 1) (h : hexUnit? value w = some u) :
    scan (.hex held (missing + 1) value) done (w ++ text) =
      scan (.text (.unit u :: held)) done text := by
  induction missing generalizing w value with
  | zero =>
    obtain ⟨d, rfl⟩ := List.length_eq_one_iff.1 hl
    obtain ⟨x, hx, h⟩ := Option.bind_eq_some_iff.1 h
    obtain rfl := Option.some.inj h
    simp [scan, step, hx]
  | succ missing ih =>
    obtain ⟨d, w, rfl⟩ := List.exists_cons_of_length_eq_add_one hl
    obtain ⟨x, hx, h⟩ := Option.bind_eq_some_iff.1 h
    have hstep : ¬ missing + 1 + 1 ≤ 1 := by omega
    simp only [List.cons_append, scan, step, hx, Option.map_some, if_neg hstep,
      Nat.add_sub_cancel]
    exact ih (by simpa using hl) h

theorem scan_piece {p : Piece} {w : Bytes} {held : List Piece} {done : List Token} {text : Bytes}
    (h : p.Spells w) : scan (.text held) done (w ++ text) = scan (.text (p :: held)) done text := by
  cases h with
  | plain hb hq he =>
    simp [scan, step, hq, he, UInt8.not_lt.2 hb]
  | @escaped e b h =>
    have hu : e ≠ 117 := by
      rintro rfl
      have : Token.escaped? 117 = none := by decide
      simp [this] at h
    simp [scan, step, h, hu]
  | unit hl h =>
    rw [← scan_hex 3 hl h]
    simp [scan, step]

theorem scan_pieces {ps : List Piece} {w : Bytes} (h : Piece.SpellsAll ps w) (held : List Piece)
    (done : List Token) (text : Bytes) :
    scan (.text held) done (w ++ 34 :: text) =
      scan .between (.text (held.reverse ++ ps) :: done) text := by
  induction h generalizing held with
  | nil => simp [scan, step]
  | cons hp _ ih =>
    rw [List.append_assoc, scan_piece hp, ih]
    simp

theorem scan_written {ts : List Token} {text : Bytes} (h : Written ts text) (done : List Token) :
    scan .between done text = some (done.reverse ++ ts) := by
  induction h generalizing done with
  | nil => simp [scan, finish]
  | space hb _ ih => simp [scan, step, stepBetween, hb, ih]
  | mark hb _ ih =>
    obtain ⟨hs, hq⟩ := isSpace_of_punctuation? hb
    simp [scan, step, stepBetween, hs, hq, hb, ih]
  | word hw ht he _ ih => simp [scan_word hw ht he, ih]
  | text hw _ ih =>
    have hs : isSpace 34 = false := by decide
    simp [scan, step, stepBetween, hs, scan_pieces hw, ih]

/-- The text goes on as a string of which these pieces have been read, last first. -/
def CompletesText (held : List Piece) (ts : List Token) (b : Bytes) : Prop :=
  ∃ w text ps us, b = w ++ 34 :: text ∧ ts = .text (held.reverse ++ ps) :: us ∧
    Piece.SpellsAll ps w ∧ Written us text

/-- What a text has to be for the scanner to go on with it to the end. -/
def Mode.Completes : Mode → List Token → Bytes → Prop
  | .between, ts, b => Written ts b
  | .word held, ts, b => ∃ w text t us, b = w ++ text ∧ ts = t :: us ∧
    (∀ x ∈ w, isWordByte x = true) ∧ ofWord? (held.reverse ++ w) = some t ∧ Ends text ∧
    Written us text
  | .text held, ts, b => CompletesText held ts b
  | .escape held, ts, b => ∃ w p rest, b = w ++ rest ∧ p.Spells (92 :: w) ∧
    CompletesText (p :: held) ts rest
  | .hex held missing value, ts, b => ∃ w u rest, b = w ++ rest ∧ w.length = max missing 1 ∧
    hexUnit? value w = some u ∧ CompletesText (.unit u :: held) ts rest

theorem completesText_cons {p : Piece} {held : List Piece} {w b : Bytes} {ts : List Token}
    (hp : p.Spells w) (h : CompletesText (p :: held) ts b) : CompletesText held ts (w ++ b) := by
  obtain ⟨v, text, ps, us, rfl, rfl, hps, hus⟩ := h
  exact ⟨w ++ v, text, p :: ps, us, by simp, by simp, .cons hp hps, hus⟩

theorem completes_stepBetween {done done' us : List Token} {mode : Mode} {b : UInt8} {rest : Bytes}
    (hs : stepBetween done b = (mode, done')) (h : mode.Completes us rest) :
    ∃ ts, done'.reverse ++ us = done.reverse ++ ts ∧ Written ts (b :: rest) := by
  unfold stepBetween at hs
  split_ifs at hs with hsp hq
  · obtain ⟨rfl, rfl⟩ := Prod.mk.inj hs
    exact ⟨us, rfl, .space hsp h⟩
  · obtain ⟨rfl, rfl⟩ := Prod.mk.inj hs
    obtain ⟨w, text, ps, vs, rfl, rfl, hps, hvs⟩ := h
    exact ⟨_, rfl, hq ▸ .text hps hvs⟩
  · cases hp : punctuation? b with
    | some t =>
      rw [hp] at hs
      obtain ⟨rfl, rfl⟩ := Prod.mk.inj hs
      exact ⟨t :: us, by simp, .mark hp h⟩
    | none =>
      rw [hp] at hs
      obtain ⟨rfl, rfl⟩ := Prod.mk.inj hs
      obtain ⟨w, text, t, vs, rfl, rfl, hw, ht, he, hvs⟩ := h
      have hb : isWordByte b = true := by simp [isWordByte, hsp, hq, hp]
      exact ⟨_, rfl, .word (w := b :: w) (by simpa [hb] using hw) (by simpa using ht) he hvs⟩

theorem completes_step {mode mode' : Mode} {done done' us : List Token} {b : UInt8} {rest : Bytes}
    (hs : step mode done b = some (mode', done')) (h : mode'.Completes us rest) :
    ∃ ts, done'.reverse ++ us = done.reverse ++ ts ∧ mode.Completes ts (b :: rest) := by
  cases mode with
  | between => exact completes_stepBetween (Option.some.inj hs) h
  | word held =>
    simp only [step] at hs
    split_ifs at hs with hb
    · obtain ⟨t, ht, hs⟩ := Option.map_eq_some_iff.1 hs
      obtain ⟨ts, hts, hw⟩ := completes_stepBetween hs h
      refine ⟨t :: ts, by simpa using hts, [], b :: rest, t, ts, rfl, rfl, by simp, by simpa using ht,
        ?_, hw⟩
      simp only [Ends, isWordByte, hb, Bool.not_true]
    · obtain ⟨rfl, rfl⟩ := Prod.mk.inj (Option.some.inj hs)
      obtain ⟨w, text, t, vs, rfl, rfl, hw, ht, he, hvs⟩ := h
      have hb' : isWordByte b = true := by simpa [isWordByte] using hb
      exact ⟨_, rfl, b :: w, text, t, vs, rfl, rfl, by simpa [hb'] using hw, by simpa using ht, he, hvs⟩
  | text held =>
    simp only [step] at hs
    split_ifs at hs with hq he hc
    · obtain ⟨rfl, rfl⟩ := Prod.mk.inj (Option.some.inj hs)
      exact ⟨.text held.reverse :: us, by simp, [], rest, [], us, by simp [hq], by simp, .nil, h⟩
    · obtain ⟨rfl, rfl⟩ := Prod.mk.inj (Option.some.inj hs)
      obtain ⟨w, p, rest, rfl, hp, hr⟩ := h
      exact ⟨us, rfl, he ▸ completesText_cons hp hr⟩
    · obtain ⟨rfl, rfl⟩ := Prod.mk.inj (Option.some.inj hs)
      exact ⟨us, rfl, completesText_cons (.plain (UInt8.not_lt.1 hc) hq he) h⟩
  | escape held =>
    simp only [step] at hs
    split_ifs at hs with hu
    · obtain ⟨rfl, rfl⟩ := Prod.mk.inj (Option.some.inj hs)
      obtain ⟨w, u, rest, rfl, hl, hw, hr⟩ := h
      exact ⟨us, rfl, 117 :: w, .unit u, rest, by simp [hu], .unit hl hw, hr⟩
    · obtain ⟨c, hc, hs⟩ := Option.map_eq_some_iff.1 hs
      obtain ⟨rfl, rfl⟩ := Prod.mk.inj hs
      exact ⟨us, rfl, [b], .byte c, rest, rfl, .escaped hc, h⟩
  | hex held missing value =>
    obtain ⟨d, hd, hs⟩ := Option.map_eq_some_iff.1 hs
    split_ifs at hs with hm
    · obtain ⟨rfl, rfl⟩ := Prod.mk.inj hs
      exact ⟨us, rfl, [b], _, rest, rfl, by simp; omega, by simp [hexUnit?, hd], h⟩
    · obtain ⟨rfl, rfl⟩ := Prod.mk.inj hs
      obtain ⟨w, u, rest, rfl, hl, hw, hr⟩ := h
      exact ⟨us, rfl, b :: w, u, rest, rfl, by simp [hl]; omega, by simp [hexUnit?, hd, hw], hr⟩

theorem completes_of_scan {mode : Mode} {done ts : List Token} {b : Bytes}
    (h : scan mode done b = some ts) : ∃ us, ts = done.reverse ++ us ∧ mode.Completes us b := by
  induction b generalizing mode done with
  | nil =>
    cases mode with
    | between => exact ⟨[], by simpa [scan, finish] using h.symm, .nil⟩
    | word held =>
      obtain ⟨t, ht, rfl⟩ := Option.map_eq_some_iff.1 h
      exact ⟨[t], by simp, [], [], t, [], rfl, rfl, by simp, by simpa using ht, trivial, .nil⟩
    | _ => simp [scan, finish] at h
  | cons b rest ih =>
    rw [scan] at h
    cases hs : step mode done b with
    | none => simp [hs] at h
    | some s =>
      obtain ⟨mode', done'⟩ := s
      rw [hs] at h
      obtain ⟨us, rfl, hc⟩ := ih h
      exact completes_step hs hc

/-- The scanner reads a text as the tokens that it writes. -/
theorem ofBytes?_eq_some_iff (b : Bytes) (ts : List Token) :
    ofBytes? b = some ts ↔ Written ts b := by
  refine ⟨?_, ?_⟩
  · intro h
    obtain ⟨us, rfl, hc⟩ := completes_of_scan h
    exact hc
  · intro h
    exact scan_written h []

end Token

end Turnstile.Json
