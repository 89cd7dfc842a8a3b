import Mathlib.Algebra.Order.Group.Abs
import Mathlib.Algebra.Order.Group.Int
import Mathlib.Data.Rat.Floor
import Mathlib.Tactic
import Turnstile.Time

/-! Whole seconds are added as they are, but where a clock in a leap second is moved back. Outside
leap seconds a sum is rounded down, whatever the signs. Between the spans that can be counted and
the points on the calendar lies what has a span but no end. -/

namespace Turnstile

namespace Instant

section Whole

variable {t : Instant} {s : ℤ}

theorem addSeconds_whole (h0 : 0 ≤ t.nanos)
    (h : t.nanos < nanosPerSecond ∨ t.nanos < 2 * nanosPerSecond ∧ 0 ≤ s) :
    t.addSeconds ⟨s, 0⟩ = t.seconds + s := by
  by_cases hleap : nanosPerSecond ≤ t.nanos
  · obtain ⟨hlt, hs⟩ := h.resolve_left (not_lt.2 hleap)
    have hback : ¬ s < 0 := not_lt.2 hs
    have hrest : ¬ nanosPerSecond ≤ t.nanos - nanosPerSecond := by omega
    have hpart : ¬ t.nanos - nanosPerSecond < 0 := by omega
    rcases hs.eq_or_lt with rfl | hpos
    · simp [addSeconds, hleap]
    · simp [addSeconds, hleap, hpos, hback, hrest, hpart]
  · have hpart : ¬ t.nanos < 0 := not_lt.2 h0
    simp [addSeconds, hleap, hpart]

theorem addSeconds?_whole (h0 : 0 ≤ t.nanos)
    (h : t.nanos < nanosPerSecond ∨ t.nanos < 2 * nanosPerSecond ∧ 0 ≤ s) :
    t.addSeconds? ⟨s, 0⟩ =
      if inRange (t.seconds + s) = true then some (t.seconds + s) else none := by
  rw [addSeconds?, addSeconds_whole h0 h, Option.filter_some]

end Whole

/-- Outside of leap seconds. -/
structure IsOrdinary (t : Instant) : Prop where
  nonneg : 0 ≤ t.nanos
  lt : t.nanos < nanosPerSecond

structure IsLeap (t : Instant) : Prop where
  le : nanosPerSecond ≤ t.nanos
  lt : t.nanos < 2 * nanosPerSecond

/-- Seconds since the start of 1970, with the part of a second. -/
def value (t : Instant) : ℚ := t.seconds + t.nanos / nanosPerSecond

theorem inRange_iff (s : ℤ) : inRange s = true ↔ minSeconds ≤ s ∧ s ≤ maxSeconds := by
  rw [inRange, Bool.and_eq_true, decide_eq_true_eq, decide_eq_true_eq]

end Instant

namespace Span

/-- The nanoseconds do not fill a second. -/
structure IsNormal (d : Span) : Prop where
  nonneg : 0 ≤ d.nanos
  lt : d.nanos < nanosPerSecond

/-- The length in seconds, with the part of a second. -/
def value (d : Span) : ℚ := d.seconds + d.nanos / nanosPerSecond

theorem ofSeconds?_eq_some_iff {s : ℤ} {d : Span} :
    ofSeconds? s = some d ↔ |s| ≤ maxSeconds ∧ d = ⟨s, 0⟩ := by
  by_cases h : |s| ≤ maxSeconds
  · simp [ofSeconds?, abs_le.1 h, h, eq_comm]
  · have hout := mt abs_le.2 h
    simp [ofSeconds?, hout, h]

theorem ofSeconds?_eq_none_iff {s : ℤ} : ofSeconds? s = none ↔ maxSeconds < |s| := by
  rw [← not_le, Option.eq_none_iff_forall_ne_some]
  simp [ofSeconds?_eq_some_iff]

end Span

namespace Instant

theorem nanosPerSecond_pos : (0 : ℚ) < nanosPerSecond := by norm_num [nanosPerSecond]

section Sum

variable {t : Instant} {d : Span}

/-- A span before its parts are added is rounded toward zero; the parts make up for it. -/
theorem addSeconds_ordinary (ht : t.IsOrdinary) (hd : d.IsNormal) : t.addSeconds d =
    t.seconds + d.seconds + if nanosPerSecond ≤ t.nanos + d.nanos then 1 else 0 := by
  obtain ⟨ht0, ht1⟩ := ht
  obtain ⟨hd0, hd1⟩ := hd
  have hleap : ¬ nanosPerSecond ≤ t.nanos := not_le.2 ht1
  by_cases hback : d.seconds < 0 ∧ 0 < d.nanos
  · simp only [addSeconds, hleap, hback.1, hback.2, decide_true, decide_false, Bool.and_self,
      Bool.false_and, if_true, Bool.false_eq_true, if_false]
    split_ifs <;> omega
  · have hforth : (decide (d.seconds < 0) && decide (0 < d.nanos)) = false := by simpa using hback
    simp only [addSeconds, hleap, hforth, decide_false, Bool.false_and, Bool.false_eq_true, if_false]
    split_ifs <;> omega

theorem floor_value (ht : t.IsOrdinary) : ⌊t.value⌋ = t.seconds := by
  rw [value, Int.floor_intCast_add, add_eq_left, Int.floor_eq_zero_iff]
  refine ⟨?_, ?_⟩
  · exact div_nonneg (by exact_mod_cast ht.nonneg) nanosPerSecond_pos.le
  · rw [div_lt_one nanosPerSecond_pos]
    exact_mod_cast ht.lt

theorem addSeconds_eq_floor (ht : t.IsOrdinary) (hd : d.IsNormal) :
    t.addSeconds d = ⌊t.value + d.value⌋ := by
  have hsum : t.value + d.value =
      ((t.seconds + d.seconds : ℤ) : ℚ) + ((t.nanos + d.nanos : ℤ) : ℚ) / nanosPerSecond := by
    simp only [value, Span.value]
    push_cast
    ring
  have h0 : 0 ≤ t.nanos + d.nanos := add_nonneg ht.nonneg hd.nonneg
  have h2 : t.nanos + d.nanos < (1 + 1) * nanosPerSecond := by linarith [ht.lt, hd.lt]
  have hp := nanosPerSecond_pos
  rw [addSeconds_ordinary ht hd, hsum, Int.floor_intCast_add, add_right_inj, eq_comm,
    Int.floor_eq_iff, le_div_iff₀ hp, div_lt_iff₀ hp]
  split_ifs with h
  · rw [Int.cast_one, one_mul]
    exact ⟨by exact_mod_cast h, by exact_mod_cast h2⟩
  · rw [Int.cast_zero, zero_mul, zero_add, one_mul]
    exact ⟨by exact_mod_cast h0, by exact_mod_cast not_le.1 h⟩

end Sum

end Instant

end Turnstile
