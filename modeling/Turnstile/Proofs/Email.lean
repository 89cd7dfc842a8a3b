import Turnstile.Email
import Turnstile.Proofs.Net.Literal

/-! Which texts are email addresses, and what is told of the others. The first at sign is the one
that cuts: a second one is a character of the domain, where none may stand. -/

namespace Turnstile.Email

open Net (IsIp)

variable {s : String} {cs user domain : List Char}

/-! The parts. -/

def byteLength (cs : List Char) : ℕ := (String.ofList cs).utf8ByteSize

/-- The text is a user and a domain around its first at sign. -/
structure Cuts (s : String) (user domain : List Char) : Prop where
  text : s.toList = user ++ '@' :: domain
  first : '@' ∉ user

structure IsUser (cs : List Char) : Prop where
  ne_nil : cs ≠ []
  char : ∀ c ∈ cs, c.isAlphanum = true ∨ c ∈ userSigns

structure IsLabel (cs : List Char) : Prop where
  ne_nil : cs ≠ []
  length : cs.length ≤ 63
  char : ∀ c ∈ cs, c.isAlphanum = true ∨ c = '-'
  first : cs.head? ≠ some '-'
  last : cs.getLast? ≠ some '-'

/-- Labels with points between them, or the text of an internet address in brackets. -/
inductive IsDomain : List Char → Prop
  | name {labels : List (List Char)} (hne : labels ≠ []) (h : ∀ l ∈ labels, IsLabel l) :
    IsDomain (['.'].intercalate labels)
  | literal {cs : List Char} {ip : Net.Ip} (h : IsIp cs ip) : IsDomain ('[' :: cs ++ [']'])

/-- A user of up to 64 bytes and a domain of up to 255. -/
inductive IsAddress (s : String) : Prop
  | intro {user domain : List Char} (hcut : Cuts s user domain) (huser : IsUser user)
    (huserLength : byteLength user ≤ 64) (hdomain : IsDomain domain)
    (hdomainLength : byteLength domain ≤ 255)

theorem isUser_iff : (cs.isEmpty || !cs.all isUserChar) = false ↔ IsUser cs := by
  simp only [Bool.or_eq_false_iff, Bool.not_eq_false', List.all_eq_true, isUserChar,
    Bool.or_eq_true, List.contains_iff_mem]
  refine ⟨?_, ?_⟩
  · rintro ⟨hne, hchar⟩
    exact ⟨by simpa using hne, hchar⟩
  · intro h
    exact ⟨by simpa using h.ne_nil, h.char⟩

theorem isLabel_iff : isLabel cs = true ↔ IsLabel cs := by
  simp only [isLabel, Bool.and_eq_true, List.all_eq_true, Bool.or_eq_true, decide_eq_true_eq,
    beq_iff_eq, bne_iff_ne, and_assoc]
  refine ⟨?_, ?_⟩
  · rintro ⟨hne, hlength, hchar, hfirst, hlast⟩
    exact ⟨by simpa using hne, hlength, hchar, hfirst, hlast⟩
  · intro h
    exact ⟨by simpa using h.ne_nil, h.length, h.char, h.first, h.last⟩

theorem IsLabel.point_notMem (h : IsLabel cs) : '.' ∉ cs := by
  intro hc
  rcases h.char '.' hc with hc | hc
  · exact absurd hc (by decide)
  · exact absurd hc (by decide)

theorem isDomainName_iff : isDomainName cs = true ↔
    ∃ labels, labels ≠ [] ∧ (∀ l ∈ labels, IsLabel l) ∧ cs = ['.'].intercalate labels := by
  have hsplit : isDomainName cs = true ↔ ∀ l ∈ cs.splitOn '.', IsLabel l := by
    simp only [← isLabel_iff, ← List.all_eq_true]
    rfl
  rw [hsplit]
  refine ⟨?_, ?_⟩
  · intro h
    exact ⟨cs.splitOn '.', List.splitOnP_ne_nil _ _, h, (List.intercalate_splitOn '.').symm⟩
  · rintro ⟨labels, hne, h, rfl⟩
    rwa [List.splitOn_intercalate '.' (fun l hl => (h l hl).point_notMem) hne]

theorem isAddressLiteral_iff : isAddressLiteral cs = true ↔
    ∃ text ip, IsIp text ip ∧ cs = '[' :: text ++ [']'] := by
  have hread : ∀ text, (Net.Ip.ofString? (String.ofList text)).isSome = true ↔
      ∃ ip, IsIp text ip := by
    intro text
    simp only [Option.isSome_iff_exists, Net.Ip.ofString?_eq_some_iff, String.toList_ofList]
  refine ⟨?_, ?_⟩
  · intro h
    unfold isAddressLiteral at h
    split at h
    · rename_i rest
      obtain ⟨hlast, hip⟩ := Bool.and_eq_true_iff.1 h
      obtain ⟨ip, hip⟩ := (hread _).1 hip
      refine ⟨rest.dropLast, ip, hip, ?_⟩
      rw [List.cons_append, List.dropLast_append_getLast? ']' (beq_iff_eq.1 hlast)]
    · simp at h
  · rintro ⟨text, ip, hip, rfl⟩
    simpa [isAddressLiteral] using (hread text).2 ⟨ip, hip⟩

theorem isDomain_iff : (isDomainName cs || isAddressLiteral cs) = true ↔ IsDomain cs := by
  rw [Bool.or_eq_true, isDomainName_iff, isAddressLiteral_iff]
  refine ⟨?_, ?_⟩
  · rintro (⟨labels, hne, h, rfl⟩ | ⟨text, ip, hip, rfl⟩)
    · exact .name hne h
    · exact .literal hip
  · intro h
    cases h with
    | name hne h => exact Or.inl ⟨_, hne, h, rfl⟩
    | literal hip => exact Or.inr ⟨_, _, hip, rfl⟩

instance (cs : List Char) : Decidable (IsUser cs) := decidable_of_iff _ isUser_iff

instance (cs : List Char) : Decidable (IsDomain cs) := decidable_of_iff _ isDomain_iff

/-! The whole. -/

theorem cuts_iff : Cuts s user domain ↔ s.toList.span (· != '@') = (user, '@' :: domain) := by
  rw [span_ne_eq_iff]
  refine ⟨?_, ?_⟩
  · intro h
    exact ⟨rfl, h.text, h.first⟩
  · rintro ⟨-, htext, hfirst⟩
    exact ⟨htext, hfirst⟩

theorem exists_cuts (h : '@' ∈ s.toList) : ∃ user domain, Cuts s user domain := by
  obtain ⟨user, domain, htext, hfirst⟩ := List.eq_append_cons_of_mem h
  exact ⟨user, domain, htext, hfirst⟩

theorem Cuts.ne_empty (h : Cuts s user domain) : s ≠ "" := by
  rintro rfl
  simpa using h.text

theorem IsAddress.length_pos (h : IsAddress s) : 0 < s.utf8ByteSize := by
  obtain ⟨hcut, -⟩ := h
  exact Nat.pos_of_ne_zero fun h0 => hcut.ne_empty (String.utf8ByteSize_eq_zero_iff.1 h0)

theorem fault?_of_cuts (h : Cuts s user domain) : fault? s =
    if 64 < byteLength user then some .userTooLong
    else if ¬ IsUser user then some .userCharacters
    else if 255 < byteLength domain then some .domainTooLong
    else if IsDomain domain then none
    else some .domainCharacters := by
  have hne : s.isEmpty = false := by simpa using h.ne_empty
  simp only [fault?, hne, Bool.false_eq_true, if_false, cuts_iff.1 h, ← isUser_iff, ← isDomain_iff,
    Bool.not_eq_false, byteLength]

theorem fault?_of_missingAt (hne : s ≠ "") (h : '@' ∉ s.toList) :
    fault? s = some .missingAt := by
  have hfull : s.isEmpty = false := by simpa using hne
  simp only [fault?, hfull, Bool.false_eq_true, if_false, span_ne_of_notMem h]

/-- The first rule that a text breaks: those for the user come before those for the domain, and
its length before its characters. -/
inductive FirstFault (s : String) : Fault → Prop
  | empty (h : s = "") : FirstFault s .empty
  | missingAt (hne : s ≠ "") (h : '@' ∉ s.toList) : FirstFault s .missingAt
  | userTooLong {user domain : List Char} (hcut : Cuts s user domain) (h : 64 < byteLength user) :
    FirstFault s .userTooLong
  | userCharacters {user domain : List Char} (hcut : Cuts s user domain)
    (hlength : byteLength user ≤ 64) (h : ¬ IsUser user) : FirstFault s .userCharacters
  | domainTooLong {user domain : List Char} (hcut : Cuts s user domain)
    (hlength : byteLength user ≤ 64) (huser : IsUser user) (h : 255 < byteLength domain) :
    FirstFault s .domainTooLong
  | domainCharacters {user domain : List Char} (hcut : Cuts s user domain)
    (hlength : byteLength user ≤ 64) (huser : IsUser user) (hlength' : byteLength domain ≤ 255)
    (h : ¬ IsDomain domain) : FirstFault s .domainCharacters

theorem fault?_of_firstFault {f : Fault} (h : FirstFault s f) : fault? s = some f := by
  cases h with
  | empty h => rw [h]; rfl
  | missingAt hne h => exact fault?_of_missingAt hne h
  | userTooLong hcut h => rw [fault?_of_cuts hcut, if_pos h]
  | userCharacters hcut hlength h =>
    rw [fault?_of_cuts hcut, if_neg (not_lt.2 hlength), if_pos h]
  | domainTooLong hcut hlength huser h =>
    rw [fault?_of_cuts hcut, if_neg (not_lt.2 hlength), if_neg (not_not.2 huser), if_pos h]
  | domainCharacters hcut hlength huser hlength' h =>
    rw [fault?_of_cuts hcut, if_neg (not_lt.2 hlength), if_neg (not_not.2 huser),
      if_neg (not_lt.2 hlength'), if_neg h]

theorem fault?_of_isAddress (h : IsAddress s) : fault? s = none := by
  obtain ⟨hcut, huser, huserLength, hdomain, hdomainLength⟩ := h
  rw [fault?_of_cuts hcut, if_neg (not_lt.2 huserLength), if_neg (not_not.2 huser),
    if_neg (not_lt.2 hdomainLength), if_pos hdomain]

/-- Every text is an address or has a first fault. -/
theorem isAddress_or_firstFault (s : String) : IsAddress s ∨ ∃ f, FirstFault s f := by
  by_cases hne : s = ""
  · exact Or.inr ⟨_, .empty hne⟩
  by_cases hat : '@' ∈ s.toList
  · obtain ⟨user, domain, hcut⟩ := exists_cuts hat
    by_cases huserLength : byteLength user ≤ 64
    · by_cases huser : IsUser user
      · by_cases hdomainLength : byteLength domain ≤ 255
        · by_cases hdomain : IsDomain domain
          · exact Or.inl ⟨hcut, huser, huserLength, hdomain, hdomainLength⟩
          · exact Or.inr ⟨_, .domainCharacters hcut huserLength huser hdomainLength hdomain⟩
        · exact Or.inr ⟨_, .domainTooLong hcut huserLength huser (not_le.1 hdomainLength)⟩
      · exact Or.inr ⟨_, .userCharacters hcut huserLength huser⟩
    · exact Or.inr ⟨_, .userTooLong hcut (not_le.1 huserLength)⟩
  · exact Or.inr ⟨_, .missingAt hne hat⟩

theorem fault?_eq_some_iff {f : Fault} : fault? s = some f ↔ FirstFault s f := by
  refine ⟨?_, fault?_of_firstFault⟩
  intro h
  rcases isAddress_or_firstFault s with hs | ⟨f', hf'⟩
  · simp [fault?_of_isAddress hs] at h
  · obtain rfl := Option.some.inj ((fault?_of_firstFault hf').symm.trans h)
    exact hf'

theorem fault?_eq_none_iff : fault? s = none ↔ IsAddress s := by
  refine ⟨?_, fault?_of_isAddress⟩
  intro h
  rcases isAddress_or_firstFault s with hs | ⟨f, hf⟩
  · exact hs
  · simp [fault?_of_firstFault hf] at h

end Turnstile.Email
