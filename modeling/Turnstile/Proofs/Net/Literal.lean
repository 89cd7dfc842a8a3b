import Turnstile.Proofs.Net.Number

/-! The texts of addresses: four octets with points between them, or eight groups with colons
between them, where octets may stand for the last two and a double colon for zeros left out. These
are the texts that are read, each as the address it stands for, and as far as it goes. -/

namespace Turnstile.Net

variable {cs rest text : List Char} {c : Char} {n d : ℕ} {f : NumberForm}

/-! Octets. -/

/-- Four numbers up to 255, each in its decimal text, with points between them. -/
structure IsIp4 (cs : List Char) (os : List ℕ) : Prop where
  length : os.length = 4
  octet : ∀ o ∈ os, o ≤ 255
  text : cs = (dotted os).toList

theorem toList_dotted_singleton (n : ℕ) : (dotted [n]).toList = Nat.toDigits 10 n := by
  simp [dotted]

theorem toList_dotted_cons (n m : ℕ) (os : List ℕ) :
    (dotted (n :: m :: os)).toList = Nat.toDigits 10 n ++ '.' :: (dotted (m :: os)).toList := by
  simp [dotted]

theorem skip?_eq_some_iff : skip? c cs = some rest ↔ cs = c :: rest := by
  cases cs with
  | nil => simp [skip?]
  | cons d ds =>
    rw [skip?]
    split_ifs with h
    · simp [h]
    · simp [h]

theorem separated?_one_iff {sep : Char} {ns : List ℕ} :
    separated? f sep 1 cs = some (ns, rest) ↔ ∃ n, ns = [n] ∧ number? f cs = some (n, rest) := by
  rw [separated?]
  cases number? f cs with
  | none => simp
  | some p => simp [Prod.ext_iff, eq_comm]

theorem separated?_more_iff {sep : Char} {count : ℕ} {ns : List ℕ} :
    separated? f sep (count + 2) cs = some (ns, rest) ↔ ∃ n ms mid, ns = n :: ms ∧
      number? f cs = some (n, sep :: mid) ∧ separated? f sep (count + 1) mid = some (ms, rest) := by
  rw [separated?]
  refine ⟨?_, ?_⟩
  · intro h
    split at h
    · simp at h
    · rename_i n behind hn
      rw [if_neg (Nat.succ_ne_zero count)] at h
      split at h
      · simp at h
      · rename_i ms rest' hms
        obtain ⟨mid, hmid, hms⟩ := Option.bind_eq_some_iff.1 hms
        obtain ⟨rfl, rfl⟩ := Prod.mk.inj (Option.some.inj h)
        exact ⟨n, ms, mid, rfl, by rw [hn, skip?_eq_some_iff.1 hmid], hms⟩
  · rintro ⟨n, ms, mid, rfl, hn, hms⟩
    have hskip : skip? sep (sep :: mid) = some mid := skip?_eq_some_iff.2 rfl
    simp only [hn, if_neg (Nat.succ_ne_zero count), hskip, Option.bind_some, hms]

theorem separated?_octet_iff {count : ℕ} {os : List ℕ} :
    separated? octetForm '.' (count + 1) cs = some (os, rest) ↔ os.length = count + 1 ∧
      (∀ o ∈ os, o ≤ 255) ∧ cs = (dotted os).toList ++ rest ∧
      ∀ c ∈ rest.head?, c.isDigit = false := by
  induction count generalizing cs os with
  | zero =>
    rw [separated?_one_iff]
    refine ⟨?_, ?_⟩
    · rintro ⟨n, rfl, hn⟩
      obtain ⟨hle, rfl, hrest⟩ := number?_octet_iff.1 hn
      exact ⟨rfl, by simpa using hle, by rw [toList_dotted_singleton], hrest⟩
    · rintro ⟨hlength, hle, rfl, hrest⟩
      obtain ⟨n, rfl⟩ := List.length_eq_one_iff.1 hlength
      refine ⟨n, rfl, number?_octet_iff.2 ⟨by simpa using hle, ?_, hrest⟩⟩
      rw [toList_dotted_singleton]
  | succ count ih =>
    rw [separated?_more_iff]
    refine ⟨?_, ?_⟩
    · rintro ⟨n, os, mid, rfl, hn, hos⟩
      obtain ⟨hlength, hles, rfl, hrest⟩ := ih.1 hos
      obtain ⟨hle, rfl, -⟩ := number?_octet_iff.1 hn
      obtain ⟨m, os, rfl⟩ := List.exists_cons_of_length_eq_add_one hlength
      refine ⟨by simpa using hlength, List.forall_mem_cons.2 ⟨hle, hles⟩, ?_, hrest⟩
      rw [toList_dotted_cons, List.append_assoc, List.cons_append]
    · rintro ⟨hlength, hles, rfl, hrest⟩
      obtain ⟨n, os, rfl⟩ := List.exists_cons_of_length_eq_add_one hlength
      have hlength' : os.length = count + 1 := by simpa using hlength
      obtain ⟨m, os, rfl⟩ := List.exists_cons_of_length_eq_add_one hlength'
      obtain ⟨hle, hles⟩ := List.forall_mem_cons.1 hles
      refine ⟨n, m :: os, (dotted (m :: os)).toList ++ rest, rfl, ?_,
        ih.2 ⟨hlength', hles, rfl, hrest⟩⟩
      refine number?_octet_iff.2 ⟨hle, ?_, by simp⟩
      rw [toList_dotted_cons, List.append_assoc, List.cons_append]

theorem octets?_eq_some_iff {os : List ℕ} : octets? cs = some (os, rest) ↔
    ∃ text, cs = text ++ rest ∧ IsIp4 text os ∧ ∀ c ∈ rest.head?, c.isDigit = false := by
  rw [octets?, separated?_octet_iff]
  refine ⟨?_, ?_⟩
  · rintro ⟨hlength, hles, rfl, hrest⟩
    exact ⟨_, rfl, ⟨hlength, hles, rfl⟩, hrest⟩
  · rintro ⟨text, rfl, ⟨hlength, hles, rfl⟩, hrest⟩
    exact ⟨hlength, hles, rfl, hrest⟩

/-! Groups. -/

def colon (first : Bool) : List Char := if first then [] else [':']

/-- Groups, each behind a colon but for the one that is `first`; octets may stand for the last
two. -/
inductive IsGroups : (first dotted : Bool) → List Char → List ℕ → Prop
  | nil {first : Bool} : IsGroups first false [] []
  | octets {first : Bool} {cs : List Char} {a b c d : ℕ} (h : IsIp4 cs [a, b, c, d]) :
    IsGroups first true (colon first ++ cs) [a * 256 + b, c * 256 + d]
  | cons {first dotted : Bool} {cs rest : List Char} {g : ℕ} {gs : List ℕ} (h : IsGroup cs g)
    (hgs : IsGroups false dotted rest gs) :
    IsGroups first dotted (colon first ++ cs ++ rest) (g :: gs)

/-- Eight groups, or up to seven with a double colon between them, or around them, for the zeros
that are left out. -/
inductive IsIp6 : List Char → List ℕ → Prop
  | whole {dotted : Bool} {cs : List Char} {gs : List ℕ} (h : IsGroups true dotted cs gs)
    (hlength : gs.length = 8) : IsIp6 cs gs
  | shortened {dotted : Bool} {cs ds : List Char} {front back : List ℕ}
    (hfront : IsGroups true false cs front) (hback : IsGroups true dotted ds back)
    (hlength : front.length + back.length ≤ 7) :
    IsIp6 (cs ++ ':' :: ':' :: ds)
      (front ++ List.replicate (8 - front.length - back.length) 0 ++ back)

/-- An address does not go on here. -/
structure Ends (rest : List Char) : Prop where
  digit : ∀ c ∈ rest.head?, hexValue? c = none
  point : '.' ∉ rest.head?
  colon : ∀ t, rest = ':' :: t → ∀ c ∈ t.head?, hexValue? c = none

theorem after_eq_some_iff {first : Bool} {t : List Char} :
    (if first then some cs else skip? ':' cs) = some t ↔ cs = colon first ++ t := by
  cases first with
  | false => exact skip?_eq_some_iff
  | true => simp [colon]

section

variable {first : Bool} {left a b e g : ℕ}

theorem ite_octets_eq_none (h : left = 0 ∨ octets? cs = none) :
    (if left = 0 then none else octets? cs) = none := by
  rcases h with h | h
  · rw [if_pos h]
  · rw [h, ite_self]

theorem groupsFrom_of_octets (hleft : left ≠ 0) (h : octets? cs = some ([a, b, d, e], rest)) :
    groupsFrom first (left + 1) (colon first ++ cs) =
      ⟨[a * 256 + b, d * 256 + e], true, rest⟩ := by
  have hafter := after_eq_some_iff.2 (rfl : colon first ++ cs = colon first ++ cs)
  simp only [groupsFrom, hafter, if_neg hleft, Option.bind_some, h]

theorem groupsFrom_of_number (hoctets : left = 0 ∨ octets? cs = none)
    (h : number? groupForm cs = some (g, rest)) :
    groupsFrom first (left + 1) (colon first ++ cs) =
      ⟨g :: (groupsFrom false left rest).groups, (groupsFrom false left rest).dotted,
        (groupsFrom false left rest).rest⟩ := by
  have hafter := after_eq_some_iff.2 (rfl : colon first ++ cs = colon first ++ cs)
  simp only [groupsFrom, hafter, Option.bind_some, ite_octets_eq_none hoctets, h]

theorem groupsFrom_of_none (h : ∀ t, cs = colon first ++ t →
    (left = 0 ∨ octets? t = none) ∧ number? groupForm t = none) :
    groupsFrom first (left + 1) cs = ⟨[], false, cs⟩ := by
  cases hafter : (if first then some cs else skip? ':' cs) with
  | none => simp only [groupsFrom, hafter, Option.bind_none, ite_self]
  | some t =>
    obtain ⟨hoctets, hnumber⟩ := h t (after_eq_some_iff.1 hafter)
    simp only [groupsFrom, hafter, Option.bind_some, ite_octets_eq_none hoctets, hnumber]

end

/-- What is read as groups are groups, and no more than asked for. -/
theorem isGroups_groupsFrom (first : Bool) (left : ℕ) (cs : List Char) :
    ∃ text, cs = text ++ (groupsFrom first left cs).rest ∧
      IsGroups first (groupsFrom first left cs).dotted text (groupsFrom first left cs).groups ∧
      (groupsFrom first left cs).groups.length ≤ left := by
  induction left generalizing first cs with
  | zero => exact ⟨[], rfl, .nil, le_rfl⟩
  | succ left ih =>
    by_cases hafter : ∃ t, cs = colon first ++ t
    · obtain ⟨t, rfl⟩ := hafter
      by_cases hoctets : left = 0 ∨ octets? t = none
      · cases hnumber : number? groupForm t with
        | none =>
          have hnone : ∀ t', colon first ++ t = colon first ++ t' →
              (left = 0 ∨ octets? t' = none) ∧ number? groupForm t' = none := by
            intro t' ht
            rw [← List.append_cancel_left ht]
            exact ⟨hoctets, hnumber⟩
          rw [groupsFrom_of_none hnone]
          exact ⟨[], rfl, .nil, Nat.zero_le _⟩
        | some p =>
          obtain ⟨g, rest⟩ := p
          rw [groupsFrom_of_number hoctets hnumber]
          obtain ⟨text, ht, hg, -⟩ := number?_group_iff.1 hnumber
          obtain ⟨more, hmore, hgs, hlength⟩ := ih false rest
          refine ⟨colon first ++ text ++ more, ?_, .cons hg hgs, Nat.succ_le_succ hlength⟩
          rw [ht, List.append_assoc, List.append_assoc, ← hmore]
      · obtain ⟨hleft, hsome⟩ := not_or.1 hoctets
        obtain ⟨⟨os, rest⟩, hos⟩ := Option.ne_none_iff_exists'.1 hsome
        obtain ⟨text, rfl, h4, -⟩ := octets?_eq_some_iff.1 hos
        obtain ⟨a, b, d, e, rfl⟩ := List.length_eq_four.1 h4.length
        rw [groupsFrom_of_octets hleft hos]
        exact ⟨colon first ++ text, (List.append_assoc ..).symm, .octets h4,
          Nat.succ_le_succ (Nat.pos_of_ne_zero hleft)⟩
    · rw [groupsFrom_of_none fun t ht => absurd ⟨t, ht⟩ hafter]
      exact ⟨[], rfl, .nil, Nat.zero_le _⟩

theorem isGroup_digits {g : ℕ} (h : IsGroup cs g) :
    cs ≠ [] ∧ ∀ c ∈ cs, (hexValue? c).isSome = true := by
  obtain ⟨ds, hds, hne, -⟩ := h
  obtain ⟨hdigit, rfl⟩ := forall₂_isHexDigit_iff.1 hds
  exact ⟨by simpa using hne, hdigit⟩

theorem IsIp4.exists_eq {os : List ℕ} (h : IsIp4 cs os) :
    ∃ n behind, cs = Nat.toDigits 10 n ++ '.' :: behind := by
  obtain ⟨n, b, d, e, rfl⟩ := List.length_eq_four.1 h.length
  exact ⟨n, _, h.text.trans (toList_dotted_cons n b [d, e])⟩

theorem IsIp4.exists_cons {os : List ℕ} (h : IsIp4 cs os) :
    ∃ c t, cs = c :: t ∧ c.isDigit = true := by
  obtain ⟨n, behind, rfl⟩ := h.exists_eq
  obtain ⟨c, ds, hds⟩ := List.exists_cons_of_ne_nil (Nat.toDigits_ne_nil (n := n) (b := 10))
  refine ⟨c, ds ++ '.' :: behind, by rw [hds, List.cons_append], ?_⟩
  exact Nat.isDigit_of_mem_toDigits (by norm_num) le_rfl (hds ▸ List.mem_cons_self)

/-- A group is no octet with more octets behind it, for no point follows. -/
theorem octets?_of_isGroup {g : ℕ} (h : IsGroup cs g)
    (hdigit : ∀ c ∈ rest.head?, hexValue? c = none) (hpoint : '.' ∉ rest.head?) :
    octets? (cs ++ rest) = none := by
  rw [Option.eq_none_iff_forall_ne_some]
  rintro ⟨os, last⟩ hos
  obtain ⟨text, htext, h4, -⟩ := octets?_eq_some_iff.1 hos
  obtain ⟨n, behind, rfl⟩ := h4.exists_eq
  -- the digits in front end in one place, at the point and where the group ends
  have hgroup : (cs ++ rest).span (fun c => (hexValue? c).isSome) = (cs, rest) :=
    span_eq_iff.2 ⟨rfl, (isGroup_digits h).2, fun c hc => by rw [hdigit c hc, Option.isSome_none]⟩
  have hoctet : (cs ++ rest).span (fun c => (hexValue? c).isSome) =
      (Nat.toDigits 10 n, '.' :: (behind ++ last)) :=
    span_eq_iff.2 ⟨by rw [htext, List.append_assoc, List.cons_append],
      fun c hc => hexValue?_of_mem_toDigits hc, by simp⟩
  obtain ⟨-, rfl⟩ := Prod.mk.inj (hgroup.symm.trans hoctet)
  exact hpoint rfl

theorem read_eq_none {t : List Char} (h : ∀ c ∈ t.head?, hexValue? c = none) :
    octets? t = none ∧ number? groupForm t = none := by
  refine ⟨?_, ?_⟩
  · rw [Option.eq_none_iff_forall_ne_some]
    rintro ⟨os, last⟩ hos
    obtain ⟨text, rfl, h4, -⟩ := octets?_eq_some_iff.1 hos
    obtain ⟨c, t, rfl, hc⟩ := h4.exists_cons
    simp [isDigit_of_hexValue? (h c rfl)] at hc
  · rw [Option.eq_none_iff_forall_ne_some]
    rintro ⟨g, last⟩ hg
    obtain ⟨text, rfl, hgroup, -⟩ := number?_group_iff.1 hg
    obtain ⟨hne, hdigit⟩ := isGroup_digits hgroup
    obtain ⟨c, ds, rfl⟩ := List.exists_cons_of_ne_nil hne
    simpa [h c rfl] using hdigit c List.mem_cons_self

/-- Where groups that are not the first ones stop, or end at once, no digit goes on. -/
theorem IsGroups.head? {dotted : Bool} {gs : List ℕ} (h : IsGroups false dotted text gs)
    (he : Ends rest) : (∀ c ∈ (text ++ rest).head?, hexValue? c = none) ∧
      '.' ∉ (text ++ rest).head? := by
  have hcolon : (∀ c ∈ [':'].head?, hexValue? c = none) ∧ '.' ∉ [':'].head? := by simp
  cases h with
  | nil => exact ⟨he.digit, he.point⟩
  | octets h => exact hcolon
  | cons h hgs => exact hcolon

/-- Groups are read as far as they go. -/
theorem groupsFrom_of_isGroups {first dotted : Bool} {gs : List ℕ}
    (h : IsGroups first dotted text gs) {left : ℕ} (hleft : gs.length ≤ left) (he : Ends rest) :
    groupsFrom first left (text ++ rest) = ⟨gs, dotted, rest⟩ := by
  induction h generalizing left with
  | @nil first =>
    cases left with
    | zero => rfl
    | succ left =>
      refine groupsFrom_of_none fun t ht => ?_
      have hhead : ∀ c ∈ t.head?, hexValue? c = none := by
        cases first with
        | false => exact he.colon t ht
        | true =>
          obtain rfl : rest = t := ht
          exact he.digit
      exact ⟨Or.inr (read_eq_none hhead).1, (read_eq_none hhead).2⟩
  | octets h =>
    obtain ⟨left, rfl⟩ := Nat.exists_eq_add_of_le' (show 2 ≤ left from hleft)
    rw [List.append_assoc]
    exact groupsFrom_of_octets (Nat.succ_ne_zero left) (octets?_eq_some_iff.2
      ⟨_, rfl, h, fun c hc => isDigit_of_hexValue? (he.digit c hc)⟩)
  | @cons first dotted cs more g gs hg hgs ih =>
    obtain ⟨left, rfl⟩ := Nat.exists_eq_add_of_le' (show 1 ≤ left by simp at hleft; omega)
    obtain ⟨hdigit, hpoint⟩ := hgs.head? he
    have hoctets := octets?_of_isGroup hg hdigit hpoint
    have hnumber := number?_group_iff.2 ⟨cs, rfl, hg, hdigit⟩
    rw [List.append_assoc, List.append_assoc, groupsFrom_of_number (Or.inr hoctets) hnumber,
      ih (by simpa using hleft)]

/-! Addresses. -/

theorem isIp6_of_ip6? {gs : List ℕ} (h : ip6? cs = some (gs, rest)) :
    ∃ text, cs = text ++ rest ∧ IsIp6 text gs := by
  obtain ⟨text, htext, hfront, hlength⟩ := isGroups_groupsFrom true 8 cs
  rw [ip6?] at h
  split_ifs at h with hwhole hdotted
  · obtain ⟨rfl, rfl⟩ := Prod.mk.inj (Option.some.inj h)
    exact ⟨text, htext, .whole hfront hwhole⟩
  · split at h
    · simp at h
    · rename_i behind hbehind
      obtain ⟨mid, hmid, hbehind⟩ := Option.bind_eq_some_iff.1 hbehind
      obtain ⟨rfl, rfl⟩ := Prod.mk.inj (Option.some.inj h)
      obtain ⟨text', hback, hgroups, hleft⟩ :=
        isGroups_groupsFrom true (7 - (groupsFrom true 8 cs).groups.length) behind
      rw [Bool.not_eq_true] at hdotted
      rw [hdotted] at hfront
      refine ⟨text ++ ':' :: ':' :: text', ?_, .shortened hfront hgroups (by omega)⟩
      rw [skip?_eq_some_iff.1 hmid, skip?_eq_some_iff.1 hbehind, hback] at htext
      exact htext.trans (by simp)

theorem ends_of_mark {t : List Char} (hc : hexValue? c = none) (hpoint : c ≠ '.')
    (hcolon : c ≠ ':') : Ends (c :: t) where
  digit := by simpa using hc
  point := by simpa using hpoint
  colon := by
    intro t' ht
    exact absurd (List.cons.inj ht).1 hcolon

theorem ends_colons (t : List Char) : Ends (':' :: ':' :: t) where
  digit := by simp
  point := by simp
  colon := by
    rintro t' ⟨⟩
    simp

theorem ip6?_of_isIp6 {gs : List ℕ} (h : IsIp6 text gs) (he : Ends rest) :
    ip6? (text ++ rest) = some (gs, rest) := by
  cases h with
  | whole h hlength =>
    rw [ip6?, groupsFrom_of_isGroups h hlength.le he, if_pos hlength]
  | @shortened dotted cs ds front back hfront hback hlength =>
    have hread : groupsFrom true 8 (cs ++ ':' :: ':' :: ds ++ rest) =
        ⟨front, false, ':' :: ':' :: (ds ++ rest)⟩ := by
      rw [List.append_assoc, List.cons_append, List.cons_append]
      exact groupsFrom_of_isGroups hfront (by omega) (ends_colons _)
    have hrest := groupsFrom_of_isGroups hback (show back.length ≤ 7 - front.length by omega) he
    have hfew : front.length ≠ 8 := by omega
    simp only [ip6?, hread, if_neg hfew, Bool.false_eq_true, if_false, skip?, if_true,
      Option.bind_some, hrest]

theorem ends_nil : Ends [] := ⟨by simp, by simp, by simp⟩

theorem octets?_nil_iff {os : List ℕ} : octets? cs = some (os, []) ↔ IsIp4 cs os := by
  rw [octets?_eq_some_iff]
  simp

theorem ip6?_nil_iff {gs : List ℕ} : ip6? cs = some (gs, []) ↔ IsIp6 cs gs := by
  refine ⟨?_, ?_⟩
  · intro h
    obtain ⟨text, rfl, h6⟩ := isIp6_of_ip6? h
    rwa [List.append_nil]
  · intro h
    have hread := ip6?_of_isIp6 h ends_nil
    rwa [List.append_nil] at hread

/-! The characters of an address. -/

theorem IsIp4.mem {os : List ℕ} (h : IsIp4 cs os) (hc : c ∈ cs) : c.isDigit = true ∨ c = '.' := by
  obtain ⟨a, b, d, e, rfl⟩ := List.length_eq_four.1 h.length
  have hdigit : ∀ n, c ∈ Nat.toDigits 10 n → c.isDigit = true := fun n hn =>
    Nat.isDigit_of_mem_toDigits (by norm_num) le_rfl hn
  rw [h.text] at hc
  simp only [toList_dotted_cons, toList_dotted_singleton, List.mem_append, List.mem_cons] at hc
  rcases hc with hc | hc | hc | hc | hc | hc | hc
  all_goals
    first
    | exact Or.inr hc
    | exact Or.inl (hdigit _ hc)

theorem IsIp4.colon_notMem {os : List ℕ} (h : IsIp4 cs os) : ':' ∉ cs := by
  intro hc
  rcases h.mem hc with hdigit | hpoint
  · exact absurd hdigit (by decide)
  · exact absurd hpoint (by decide)

theorem IsGroups.mem {first dotted : Bool} {gs : List ℕ} (h : IsGroups first dotted cs gs)
    (hc : c ∈ cs) : (hexValue? c).isSome = true ∨ c = '.' ∨ c = ':' := by
  have hcolon : ∀ {first : Bool}, c ∈ colon first → c = ':' := by
    intro first hc
    cases first with
    | false => exact List.mem_singleton.1 hc
    | true => exact absurd hc List.not_mem_nil
  induction h with
  | nil => exact absurd hc List.not_mem_nil
  | octets h =>
    rcases List.mem_append.1 hc with hc | hc
    · exact Or.inr (Or.inr (hcolon hc))
    · rcases h.mem hc with hdigit | hpoint
      · exact Or.inl (isSome_hexValue? hdigit)
      · exact Or.inr (Or.inl hpoint)
  | cons h _ ih =>
    rcases List.mem_append.1 hc with hc | hc
    · rcases List.mem_append.1 hc with hc | hc
      · exact Or.inr (Or.inr (hcolon hc))
      · exact Or.inl ((isGroup_digits h).2 c hc)
    · exact ih hc

theorem IsIp6.mem {gs : List ℕ} (h : IsIp6 cs gs) (hc : c ∈ cs) :
    (hexValue? c).isSome = true ∨ c = '.' ∨ c = ':' := by
  cases h with
  | whole h hlength => exact h.mem hc
  | shortened hfront hback hlength =>
    rcases List.mem_append.1 hc with hc | hc
    · exact hfront.mem hc
    · rcases List.mem_cons.1 hc with hc | hc
      · exact Or.inr (Or.inr hc)
      · rcases List.mem_cons.1 hc with hc | hc
        · exact Or.inr (Or.inr hc)
        · exact hback.mem hc

theorem IsIp6.notMem {gs : List ℕ} (h : IsIp6 cs gs) (hc : hexValue? c = none) (hpoint : c ≠ '.')
    (hcolon : c ≠ ':') : c ∉ cs := by
  intro hmem
  rcases h.mem hmem with hdigit | hc' | hc'
  · simp [hc] at hdigit
  · exact hpoint hc'
  · exact hcolon hc'

theorem IsIp6.colon_mem {gs : List ℕ} (h : IsIp6 cs gs) : ':' ∈ cs := by
  cases h with
  | whole h hlength =>
    cases h with
    | nil => simp at hlength
    | octets h => simp at hlength
    | cons h hgs =>
      cases hgs with
      | nil => simp at hlength
      | octets h => simp [colon]
      | cons h hgs => simp [colon]
  | shortened hfront hback hlength => simp

/-- The text of an address, by itself. -/
inductive IsIp : List Char → Ip → Prop
  | v4 {cs : List Char} {os : List ℕ} (h : IsIp4 cs os) : IsIp cs (.v4 os)
  | v6 {cs : List Char} {gs : List ℕ} (h : IsIp6 cs gs) : IsIp cs (.v6 gs)

theorem Ip.ofString?_eq_some_iff {s : String} {ip : Ip} :
    Ip.ofString? s = some ip ↔ IsIp s.toList ip := by
  unfold Ip.ofString?
  refine ⟨?_, ?_⟩
  · intro h
    split at h
    · rename_i os hos
      obtain rfl := Option.some.inj h
      exact .v4 (octets?_nil_iff.1 hos)
    · split at h
      · rename_i gs hgs
        obtain rfl := Option.some.inj h
        exact .v6 (ip6?_nil_iff.1 hgs)
      · simp at h
  · intro h
    cases h with
    | v4 h => rw [octets?_nil_iff.2 h]
    | v6 h =>
      split
      · rename_i os hos
        exact absurd h.colon_mem (octets?_nil_iff.1 hos).colon_notMem
      · rw [ip6?_nil_iff.2 h]

end Turnstile.Net
