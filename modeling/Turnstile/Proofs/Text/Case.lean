import Mathlib.Tactic
import Turnstile.Text.Blank
import Turnstile.Text.Case

/-! Text that was lowered stays as it is when lowered again, and lowering puts no blanks around
it. -/

namespace Turnstile.Text

namespace CaseRun

/-- The code point that one of the run is lowered to. -/
def lower (r : CaseRun) (n : ℕ) : ℕ := (n + r.offset).toNat

/-- The run is lowered to code points before the range, or behind it. -/
def leavesOut (r : CaseRun) (first last : ℕ) : Bool :=
  Nat.blt (r.lower r.last) first || Nat.blt last (r.lower r.first)

/-- Every second code point at most. -/
def isSparse (r : CaseRun) : Bool := Nat.beq r.step 2 || Nat.beq r.first r.last

/-- Code points from `low` to `high` are clear of the run: outside of its range, or, when both are
sparse, at odds with it. -/
def isClearOf (low high : ℕ) (sparse : Bool) (r : CaseRun) : Bool :=
  Nat.blt high r.first || Nat.blt r.last low ||
    (sparse && Nat.beq r.step 2 && Nat.beq ((low + r.first) % 2) 1)

/-- No run is lowered into another. -/
def areClear (rs : List CaseRun) : Bool :=
  rs.all fun r => rs.all (isClearOf (r.lower r.first) (r.lower r.last) r.isSparse)

theorem covers_iff (r : CaseRun) (n : ℕ) :
    r.covers n = true ↔ r.first ≤ n ∧ n ≤ r.last ∧ (n - r.first) % r.step = 0 := by
  simp [covers, and_assoc]

theorem leavesOut_iff (r : CaseRun) (first last : ℕ) :
    r.leavesOut first last = true ↔ r.lower r.last < first ∨ last < r.lower r.first := by
  simp [leavesOut]

theorem lower_mono {r : CaseRun} {n m : ℕ} (h : n ≤ m) : r.lower n ≤ r.lower m := by
  unfold lower
  omega

/-! The table, checked run by run. -/

theorem offset_of_mem : ∀ r ∈ caseRuns, 0 ≤ r.first + r.offset := by decide +kernel

theorem areClear_caseRuns : areClear caseRuns = true := by decide +kernel

/-- Lowered code points are characters, no blanks, and not the capital I with a dot. -/
theorem leavesOut_of_mem : ∀ r ∈ caseRuns,
    (∀ b ∈ blankRanges, r.leavesOut b.1 b.2 = true) ∧ r.leavesOut 0x130 0x130 = true ∧
      r.leavesOut 0xD800 0xDFFF = true ∧ r.lower r.last < 0x110000 := by
  decide +kernel

section Covered

variable {r : CaseRun} {n : ℕ}

theorem outside_of_leavesOut {first last : ℕ} (h : r.leavesOut first last = true)
    (hn : r.covers n = true) : r.lower n < first ∨ last < r.lower n := by
  obtain ⟨hfirst, hlast, -⟩ := (covers_iff r n).1 hn
  rcases (leavesOut_iff r first last).1 h with h | h
  · exact Or.inl ((lower_mono hlast).trans_lt h)
  · exact Or.inr (h.trans_le (lower_mono hfirst))

theorem covers_lower (hr : r ∈ caseRuns) (hn : r.covers n = true) {r' : CaseRun}
    (hr' : r' ∈ caseRuns) : r'.covers (r.lower n) = false := by
  have hoffset := offset_of_mem r hr
  have hclear := List.all_eq_true.1 (List.all_eq_true.1 areClear_caseRuns r hr) r' hr'
  simp only [isClearOf, isSparse, Bool.or_eq_true, Bool.and_eq_true, Nat.beq_eq,
    Nat.blt_eq] at hclear
  obtain ⟨hfirst, hlast, hstep⟩ := (covers_iff r n).1 hn
  have hlow := lower_mono (r := r) hfirst
  have hhigh := lower_mono (r := r) hlast
  rw [← Bool.not_eq_true, covers_iff]
  rintro ⟨hfirst', hlast', hstep'⟩
  rcases hclear with (hbefore | hbehind) | ⟨⟨hsparse, htwo'⟩, hodd⟩
  · omega
  · omega
  · -- An even way from the first code point on, so as odd as the image of the first one.
    have heven : (n - r.first) % 2 = 0 := by
      rcases hsparse with htwo | hsingle
      · rwa [htwo] at hstep
      · omega
    rw [htwo'] at hstep'
    unfold lower at *
    omega

theorem toNat_lower (hr : r ∈ caseRuns) (hn : r.covers n = true) :
    (Char.ofNat (r.lower n)).toNat = r.lower n := by
  obtain ⟨-, -, hsurrogate, hmax⟩ := leavesOut_of_mem r hr
  obtain ⟨-, hlast, -⟩ := (covers_iff r n).1 hn
  have hle := lower_mono (r := r) hlast
  have hvalid : (r.lower n).isValidChar := by
    rcases outside_of_leavesOut hsurrogate hn with h | h
    · exact Or.inl h
    · exact Or.inr ⟨h, by omega⟩
  rw [Char.ofNat, dif_pos hvalid]
  rfl

end Covered

end CaseRun

/-- Neither in a run of capitals, nor the capital I with a dot. -/
structure IsLow (c : Char) : Prop where
  uncovered : ∀ r ∈ caseRuns, r.covers c.toNat = false
  undotted : c ≠ 'İ'

theorem isLow_iff (c : Char) :
    IsLow c ↔ caseRuns.all (fun r => !r.covers c.toNat) = true ∧ c ≠ 'İ' := by
  simp only [List.all_eq_true, Bool.not_eq_true']
  exact ⟨fun h => ⟨h.uncovered, h.undotted⟩, fun h => ⟨h.1, h.2⟩⟩

instance (c : Char) : Decidable (IsLow c) := decidable_of_iff' _ (isLow_iff c)

theorem IsLow.ne_sigma {c : Char} (h : IsLow c) : c ≠ 'Σ' := by
  rintro rfl
  have hsigma : ¬ IsLow 'Σ' := by decide +kernel
  exact hsigma h

theorem IsLow.lowerChar {c : Char} (h : IsLow c) : lowerChar c = [c] := by
  have hfind : caseRuns.find? (·.covers c.toNat) = none :=
    List.find?_eq_none.2 fun r hr => by simp [h.uncovered r hr]
  rw [Text.lowerChar, if_neg h.undotted, hfind]

/-- What a character is lowered to: characters that stay so, and blank only if it is blank. -/
structure LowersTo (c : Char) (ds : List Char) : Prop where
  ne_nil : ds ≠ []
  low : ∀ d ∈ ds, IsLow d
  blank : isBlank c = false → ∀ d ∈ ds, isBlank d = false

theorem lowersTo_of_forall {c : Char} {ds : List Char} (hne : ds ≠ [])
    (h : ∀ d ∈ ds, IsLow d ∧ isBlank d = false) : LowersTo c ds where
  ne_nil := hne
  low d hd := (h d hd).1
  blank _ d hd := (h d hd).2

theorem lowersTo_sigma (b : Bool) : LowersTo 'Σ' [if b then 'ς' else 'σ'] := by
  refine lowersTo_of_forall (by simp) (List.forall_mem_singleton.2 ?_)
  cases b <;> decide +kernel

theorem lowersTo_lowerChar (c : Char) : LowersTo c (lowerChar c) := by
  unfold lowerChar
  split_ifs with hdot
  · refine lowersTo_of_forall (by simp) (List.forall_mem_cons.2 ⟨?_, ?_⟩)
    · decide +kernel
    · exact List.forall_mem_singleton.2 (by decide +kernel)
  cases hfind : caseRuns.find? (·.covers c.toNat) with
  | none =>
    refine ⟨by simp, ?_, by simp⟩
    intro d hd
    obtain rfl := List.mem_singleton.1 hd
    exact ⟨fun r hr => by simpa using List.find?_eq_none.1 hfind r hr, hdot⟩
  | some r =>
    have hr := List.mem_of_find?_eq_some hfind
    have hcovers := List.find?_some hfind
    obtain ⟨hblank, hdotted, -⟩ := CaseRun.leavesOut_of_mem r hr
    have hvalue := CaseRun.toNat_lower hr hcovers
    refine lowersTo_of_forall (by simp) ?_
    intro d hd
    obtain rfl : d = Char.ofNat (r.lower c.toNat) := List.mem_singleton.1 hd
    refine ⟨⟨?_, ?_⟩, ?_⟩
    · intro r' hr'
      rw [hvalue]
      exact CaseRun.covers_lower hr hcovers hr'
    · intro he
      have hlower : r.lower c.toNat = 0x130 := by rw [← hvalue, he]; rfl
      have := CaseRun.outside_of_leavesOut hdotted hcovers
      omega
    · rw [isBlank, inRanges, List.any_eq_false, hvalue]
      intro b hb
      have := CaseRun.outside_of_leavesOut (hblank b hb) hcovers
      simp only [Bool.and_eq_true, decide_eq_true_eq]
      omega

/-- One character after the other, each for itself. -/
theorem exists_lowerFrom_cons (before : List Char) (c : Char) (rest : List Char) :
    ∃ ds, LowersTo c ds ∧ lowerFrom before (c :: rest) = ds ++ lowerFrom (c :: before) rest := by
  by_cases hsigma : c = 'Σ'
  · subst hsigma
    exact ⟨_, lowersTo_sigma _, by rw [lowerFrom, if_pos rfl]⟩
  · exact ⟨_, lowersTo_lowerChar c, by rw [lowerFrom, if_neg hsigma]⟩

theorem isLow_of_mem_lowerFrom {before cs : List Char} {d : Char} (h : d ∈ lowerFrom before cs) :
    IsLow d := by
  induction cs generalizing before with
  | nil => simp [lowerFrom] at h
  | cons c cs ih =>
    obtain ⟨ds, hds, heq⟩ := exists_lowerFrom_cons before c cs
    rw [heq] at h
    rcases List.mem_append.1 h with h | h
    · exact hds.low d h
    · exact ih h

theorem lowerFrom_of_isLow {cs : List Char} (h : ∀ c ∈ cs, IsLow c) (before : List Char) :
    lowerFrom before cs = cs := by
  induction cs generalizing before with
  | nil => rfl
  | cons c cs ih =>
    obtain ⟨hc, hcs⟩ := List.forall_mem_cons.1 h
    rw [lowerFrom, if_neg hc.ne_sigma, hc.lowerChar, ih hcs]
    rfl

theorem lowercase_lowercase (s : String) : lowercase (lowercase s) = lowercase s := by
  unfold lowercase
  rw [String.toList_ofList, lowerFrom_of_isLow fun _ => isLow_of_mem_lowerFrom]

/-! Blanks around text. -/

/-- Text that neither starts nor ends with a blank. -/
structure IsTrimmed (cs : List Char) : Prop where
  first : ∀ c rest, cs = c :: rest → isBlank c = false
  last : ∀ c rest, cs = rest ++ [c] → isBlank c = false

theorem trimChars_of_isTrimmed {cs : List Char} (h : IsTrimmed cs) : trimChars cs = cs := by
  have hfirst : cs.dropWhile isBlank = cs := by
    rcases cs with _ | ⟨c, cs⟩
    · rfl
    · exact List.dropWhile_cons_of_neg (by simp [h.first c cs rfl])
  have hlast : cs.reverse.dropWhile isBlank = cs.reverse := by
    rcases List.eq_nil_or_concat cs with rfl | ⟨rest, c, rfl⟩
    · rfl
    · rw [List.concat_eq_append, List.reverse_concat]
      exact List.dropWhile_cons_of_neg (by simp [h.last c rest (by simp)])
  rw [trimChars, hfirst, hlast, List.reverse_reverse]

theorem isTrimmed_trimChars (cs : List Char) : IsTrimmed (trimChars cs) := by
  have hdrop : ∀ (l rest : List Char) (c : Char), l.dropWhile isBlank = c :: rest →
      isBlank c = false := by
    intro l rest c h
    have := List.head?_dropWhile_not isBlank l
    simpa [h] using this
  refine ⟨?_, ?_⟩
  · intro c rest h
    -- What is left at the end still starts as the text did without its first blanks.
    have hpre : (trimChars cs) <+: cs.dropWhile isBlank := by
      have := List.dropWhile_suffix (l := (cs.dropWhile isBlank).reverse) isBlank
      rw [← List.reverse_prefix, List.reverse_reverse] at this
      exact this
    rw [h] at hpre
    obtain ⟨t, ht⟩ := hpre
    exact hdrop cs _ c ht.symm
  · intro c rest h
    rw [trimChars, List.reverse_eq_iff, List.reverse_concat] at h
    exact hdrop _ _ c h

theorem exists_lowerFrom_concat (before cs : List Char) (c : Char) :
    ∃ l ds, LowersTo c ds ∧ lowerFrom before (cs ++ [c]) = l ++ ds := by
  induction cs generalizing before with
  | nil =>
    obtain ⟨ds, hds, heq⟩ := exists_lowerFrom_cons before c []
    exact ⟨[], ds, hds, by rw [List.nil_append, heq, lowerFrom, List.append_nil, List.nil_append]⟩
  | cons x cs ih =>
    obtain ⟨ds, -, heq⟩ := exists_lowerFrom_cons before x (cs ++ [c])
    obtain ⟨l, ds', hds', heq'⟩ := ih (x :: before)
    exact ⟨ds ++ l, ds', hds', by rw [List.cons_append, heq, heq', List.append_assoc]⟩

theorem IsTrimmed.lowerFrom {cs : List Char} (h : IsTrimmed cs) (before : List Char) :
    IsTrimmed (lowerFrom before cs) := by
  refine ⟨?_, ?_⟩
  · intro d rest hd
    rcases cs with _ | ⟨c, cs⟩
    · simp [Text.lowerFrom] at hd
    obtain ⟨ds, hds, heq⟩ := exists_lowerFrom_cons before c cs
    obtain ⟨x, ds, rfl⟩ := List.exists_cons_of_ne_nil hds.ne_nil
    rw [heq, List.cons_append] at hd
    obtain ⟨rfl, -⟩ := List.cons.inj hd
    exact hds.blank (h.first c cs rfl) x List.mem_cons_self
  · intro d rest hd
    rcases List.eq_nil_or_concat cs with rfl | ⟨cs, c, rfl⟩
    · simp [Text.lowerFrom] at hd
    rw [List.concat_eq_append] at h hd
    obtain ⟨l, ds, hds, heq⟩ := exists_lowerFrom_concat before cs c
    rcases List.eq_nil_or_concat ds with rfl | ⟨ds, x, rfl⟩
    · exact absurd rfl hds.ne_nil
    rw [heq, List.concat_eq_append, ← List.append_assoc] at hd
    obtain ⟨-, hx⟩ := List.append_inj' hd rfl
    obtain rfl := List.singleton_inj.1 hx
    exact hds.blank (h.last c cs rfl) x (by simp)

theorem trim_lowercase_trim (s : String) : trim (lowercase (trim s)) = lowercase (trim s) := by
  have h := (isTrimmed_trimChars s.toList).lowerFrom []
  simp only [trim, lowercase, String.toList_ofList, trimChars_of_isTrimmed h]

end Turnstile.Text
