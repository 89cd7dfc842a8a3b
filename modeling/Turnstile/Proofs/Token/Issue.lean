import Turnstile.Proofs.Time
import Turnstile.Token.Claims

/-! From when until when claims hold: from the second in which they are issued to the one in which
their lifetime is over, both rounded down. -/

namespace Turnstile.Claims

open Instant (inRange inRange_iff)

section Term

variable (subject issuer : String) (roles : List String) {now : Instant} {ttl : Span}

theorem issue?_eq_ite : issue? subject issuer roles now ttl =
    if inRange (now.addSeconds ttl) = true then
      some ⟨issuer, subject, now.seconds, now.addSeconds ttl, roles⟩
    else none := by
  rw [issue?, Instant.addSeconds?, Option.filter_some]
  split_ifs
  · rfl
  · rfl

theorem issue?_whole {s : ℤ} (h : now.IsOrdinary ∨ now.IsLeap ∧ 0 ≤ s) :
    issue? subject issuer roles now ⟨s, 0⟩ =
      if inRange (now.seconds + s) = true then
        some ⟨issuer, subject, now.seconds, now.seconds + s, roles⟩
      else none := by
  have hsum : now.addSeconds ⟨s, 0⟩ = now.seconds + s := by
    rcases h with h | ⟨h, hs⟩
    · exact Instant.addSeconds_whole h.nonneg (Or.inl h.lt)
    · have h0 : 0 ≤ now.nanos := le_trans (by decide) h.le
      exact Instant.addSeconds_whole h0 (Or.inr ⟨h.lt, hs⟩)
  rw [issue?_eq_ite, hsum]

variable {subject issuer roles} {c c' : Claims}

theorem expires_of_issue? (h : issue? subject issuer roles now ttl = some c) :
    c.expires = now.addSeconds ttl := by
  rw [issue?_eq_ite] at h
  split_ifs at h
  obtain rfl := Option.some.inj h
  rfl

theorem expires_mono (hnow : now.IsOrdinary) {ttl' : Span} (hd : ttl.IsNormal) (hd' : ttl'.IsNormal)
    (hle : ttl.value ≤ ttl'.value) (h : issue? subject issuer roles now ttl = some c)
    (h' : issue? subject issuer roles now ttl' = some c') : c.expires ≤ c'.expires := by
  rw [expires_of_issue? h, expires_of_issue? h', Instant.addSeconds_eq_floor hnow hd,
    Instant.addSeconds_eq_floor hnow hd']
  exact Int.floor_le_floor (by linarith)

end Term

/-- Claims are issued unless they would end off the calendar. They hold from the time of issue,
rounded down, to its sum with their lifetime, rounded down; a longer lifetime never ends them
earlier, and one of whole seconds is kept to the second, in a leap second too if it is not
negative. -/
theorem term_of_issue (subject issuer : String) (roles : List String) :
    (∀ (now : Instant) (ttl : Span), now.IsOrdinary → ttl.IsNormal →
      issue? subject issuer roles now ttl =
        if Instant.minSeconds ≤ ⌊now.value + ttl.value⌋ ∧
            ⌊now.value + ttl.value⌋ ≤ Instant.maxSeconds then
          some ⟨issuer, subject, ⌊now.value⌋, ⌊now.value + ttl.value⌋, roles⟩
        else none) ∧
    (∀ (now : Instant) (ttl ttl' : Span) (c c' : Claims), now.IsOrdinary → ttl.IsNormal →
      ttl'.IsNormal → ttl.value ≤ ttl'.value → issue? subject issuer roles now ttl = some c →
      issue? subject issuer roles now ttl' = some c' → c.expires ≤ c'.expires) ∧
    ∀ (now : Instant) (s : ℤ), now.IsOrdinary ∨ now.IsLeap ∧ 0 ≤ s →
      (issue? subject issuer roles now ⟨s, 0⟩ = none ↔
        now.seconds + s < Instant.minSeconds ∨ Instant.maxSeconds < now.seconds + s) ∧
      ∀ c, issue? subject issuer roles now ⟨s, 0⟩ = some c →
        c.issuedAt = now.seconds ∧ c.expires - c.issuedAt = s := by
  refine ⟨?_, ?_, ?_⟩
  · intro now ttl hnow hd
    rw [issue?_eq_ite, Instant.addSeconds_eq_floor hnow hd, Instant.floor_value hnow]
    simp only [inRange_iff]
  · intro now ttl ttl' c c' hnow hd hd' hle h h'
    exact expires_mono hnow hd hd' hle h h'
  · intro now s hnow
    rw [issue?_whole subject issuer roles hnow]
    split_ifs with hrange
    · rw [inRange_iff] at hrange
      refine ⟨⟨by simp, by omega⟩, ?_⟩
      intro c hc
      obtain rfl := Option.some.inj hc
      exact ⟨rfl, add_sub_cancel_left _ _⟩
    · rw [inRange_iff] at hrange
      exact ⟨⟨by omega, by simp⟩, by simp⟩

/-- Half a second before 1970, a lifetime of -1.6 seconds, or of -1.5; the last half second of the
calendar; and the middle of a leap second. -/
theorem term_of_issue_halves :
    issue? "s" "i" ["USER"] ⟨-1, 500000000⟩ ⟨-2, 400000000⟩ =
        some ⟨"i", "s", -1, -3, ["USER"]⟩ ∧
      (∃ c, issue? "s" "i" ["USER"] ⟨-1, 500000000⟩ ⟨-2, 500000000⟩ = some c ∧ -3 ≤ c.expires) ∧
      issue? "s" "i" [] ⟨8210266876799, 500000000⟩ ⟨0, 500000000⟩ = none ∧
      ∃ c, issue? "s" "i" [] ⟨59, 1500000000⟩ ⟨60, 0⟩ = some c ∧ c.expires - c.issuedAt = 60 := by
  have hissued : issue? "s" "i" ["USER"] ⟨-1, 500000000⟩ ⟨-2, 400000000⟩ =
      some ⟨"i", "s", -1, -3, ["USER"]⟩ := by
    rw [(term_of_issue "s" "i" ["USER"]).1 _ _ ⟨by decide, by decide⟩ ⟨by decide, by decide⟩]
    decide +kernel
  refine ⟨hissued, ?_, ?_, ?_⟩
  · refine ⟨_, rfl, ?_⟩
    exact (term_of_issue "s" "i" ["USER"]).2.1 _ ⟨-2, 400000000⟩ ⟨-2, 500000000⟩ _ _
      ⟨by decide, by decide⟩ ⟨by decide, by decide⟩ ⟨by decide, by decide⟩ (by decide +kernel)
      hissued rfl
  · rw [(term_of_issue "s" "i" []).1 _ _ ⟨by decide, by decide⟩ ⟨by decide, by decide⟩]
    decide +kernel
  · obtain ⟨hout, hterm⟩ := (term_of_issue "s" "i" []).2.2 ⟨59, 1500000000⟩ 60
      (Or.inr ⟨⟨by decide, by decide⟩, by decide⟩)
    obtain ⟨c, hc⟩ := Option.ne_none_iff_exists'.1 fun h => absurd (hout.1 h) (by decide)
    exact ⟨c, hc, (hterm c hc).2⟩

end Turnstile.Claims
