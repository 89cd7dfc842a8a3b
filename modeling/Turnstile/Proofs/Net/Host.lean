import Turnstile.Config
import Turnstile.Proofs.Net.Literal

/-! Hosts in front of a port: an address of octets, or one of groups in brackets, with a scope or
without one. Nothing else stands there, neither a text that has a port of its own nor one with
blanks. -/

namespace Turnstile.Net

variable {cs : List Char} {n : ℕ}

/-- The number of a scope behind a percent sign, or nothing. -/
inductive IsScope : List Char → ℕ → Prop
  | none : IsScope [] 0
  | number {ds : List Char} {n : ℕ} (h : IsNumber (2 ^ 32 - 1) ds n) : IsScope ('%' :: ds) n

/-- What may stand in front of a port: an address of octets as it is, or one of groups in square
brackets, where the scope is within them. -/
inductive IsHost : List Char → Ip → ℕ → Prop
  | v4 {cs : List Char} {os : List ℕ} (h : IsIp4 cs os) : IsHost cs (.v4 os) 0
  | v6 {cs mark : List Char} {gs : List ℕ} {n : ℕ} (h : IsIp6 cs gs) (hscope : IsScope mark n) :
    IsHost ('[' :: cs ++ mark ++ [']']) (.v6 gs) n

theorem port?_nil_iff : port? cs = some (n, []) ↔ ∃ ds, cs = ':' :: ds ∧ IsNumber 65535 ds n := by
  have hport : ∀ ds, number? portForm ds = some (n, []) ↔ IsNumber 65535 ds n := by
    intro ds
    refine number?_decimal_iff.trans ?_
    simp
  simp only [port?, Option.bind_eq_some_iff, skip?_eq_some_iff, hport]

theorem scope_eq_iff {t : List Char} :
    scope cs = (n, ']' :: t) ↔ ∃ mark, cs = mark ++ ']' :: t ∧ IsScope mark n := by
  have hnumber : ∀ ds, number? scopeForm ds = some (n, ']' :: t) ↔
      ∃ ds', ds = ds' ++ ']' :: t ∧ IsNumber (2 ^ 32 - 1) ds' n := by
    intro ds
    refine number?_decimal_iff.trans ?_
    simp [Word.max32]
  rw [scope]
  refine ⟨?_, ?_⟩
  · intro h
    cases hread : (skip? '%' cs).bind (number? scopeForm) with
    | none =>
      rw [hread, Option.getD_none] at h
      obtain ⟨rfl, rfl⟩ := Prod.mk.inj h
      exact ⟨[], rfl, .none⟩
    | some p =>
      obtain ⟨ds, hskip, hp⟩ := Option.bind_eq_some_iff.1 hread
      rw [hread, Option.getD_some] at h
      obtain ⟨ds', rfl, hds⟩ := (hnumber ds).1 (h ▸ hp)
      exact ⟨'%' :: ds', skip?_eq_some_iff.1 hskip, .number hds⟩
  · rintro ⟨mark, rfl, hmark⟩
    cases hmark with
    | none => rfl
    | number hds =>
      rw [List.cons_append, skip?_eq_some_iff.2 rfl, Option.bind_some, (hnumber _).2 ⟨_, rfl, hds⟩,
        Option.getD_some]

theorem socket4?_nil_iff {a : SocketAddress} : socket4? cs = some (a, []) ↔
    ∃ host ds os, cs = host ++ ':' :: ds ∧ IsIp4 host os ∧ a.ip = .v4 os ∧ a.scope = 0 ∧
      IsNumber 65535 ds a.port := by
  rw [socket4?]
  refine ⟨?_, ?_⟩
  · intro h
    split at h
    · simp at h
    · rename_i os rest hos
      obtain ⟨⟨port, last⟩, hport, h⟩ := Option.map_eq_some_iff.1 h
      obtain ⟨rfl, rfl⟩ := Prod.mk.inj h
      obtain ⟨host, rfl, h4, -⟩ := octets?_eq_some_iff.1 hos
      obtain ⟨ds, rfl, hds⟩ := port?_nil_iff.1 hport
      exact ⟨host, ds, os, rfl, h4, rfl, rfl, hds⟩
  · rintro ⟨host, ds, os, rfl, h4, hip, hscope, hds⟩
    obtain ⟨ip, scope, port⟩ := a
    subst hip hscope
    have hos := octets?_eq_some_iff.2 ⟨host, (rfl : host ++ ':' :: ds = _), h4, by simp⟩
    simp only [hos, port?_nil_iff.2 ⟨ds, rfl, hds⟩, Option.map_some]

theorem IsScope.ends (h : IsScope cs n) (t : List Char) : Ends (cs ++ ']' :: t) := by
  cases h with
  | none => exact ends_of_mark (by decide) (by decide) (by decide)
  | number h => exact ends_of_mark (by decide) (by decide) (by decide)

theorem socket6?_nil_iff {a : SocketAddress} : socket6? cs = some (a, []) ↔
    ∃ text mark ds gs, cs = '[' :: text ++ mark ++ [']'] ++ ':' :: ds ∧ IsIp6 text gs ∧
      IsScope mark a.scope ∧ a.ip = .v6 gs ∧ IsNumber 65535 ds a.port := by
  rw [socket6?]
  refine ⟨?_, ?_⟩
  · intro h
    split at h
    · simp at h
    · rename_i gs rest hgs
      obtain ⟨n, behind, hscope⟩ : ∃ n behind, scope rest = (n, behind) := ⟨_, _, rfl⟩
      simp only [hscope] at h
      obtain ⟨⟨port, last⟩, hport, ha⟩ := Option.map_eq_some_iff.1 h
      obtain ⟨rfl, rfl⟩ := Prod.mk.inj ha
      obtain ⟨tail, hclose, htail⟩ := Option.bind_eq_some_iff.1 hport
      obtain ⟨body, hopen, hbody⟩ := Option.bind_eq_some_iff.1 hgs
      obtain ⟨text, htext, h6⟩ := isIp6_of_ip6? hbody
      obtain ⟨ds, hds, hnumber⟩ := port?_nil_iff.1 htail
      rw [skip?_eq_some_iff.1 hclose] at hscope
      obtain ⟨mark, hrest, hmark⟩ := scope_eq_iff.1 hscope
      refine ⟨text, mark, ds, gs, ?_, h6, hmark, rfl, hnumber⟩
      rw [skip?_eq_some_iff.1 hopen, htext, hrest, hds]
      simp
  · rintro ⟨text, mark, ds, gs, rfl, h6, hmark, hip, hds⟩
    obtain ⟨ip, n, port⟩ := a
    subst hip
    have hread := ip6?_of_isIp6 h6 (hmark.ends (':' :: ds))
    have hscope : scope (mark ++ ']' :: ':' :: ds) = (n, ']' :: ':' :: ds) :=
      scope_eq_iff.2 ⟨mark, rfl, hmark⟩
    have hport := port?_nil_iff.2 ⟨ds, rfl, hds⟩
    simp only [List.append_assoc, List.cons_append, List.nil_append, skip?, if_true,
      Option.bind_some, hread, hscope, hport, Option.map_some]

/-- A socket address is a host, a colon and a port. -/
theorem SocketAddress.ofString?_eq_some_iff {s : String} {a : SocketAddress} :
    SocketAddress.ofString? s = some a ↔ ∃ host ds, s.toList = host ++ ':' :: ds ∧
      IsHost host a.ip a.scope ∧ IsNumber 65535 ds a.port := by
  unfold SocketAddress.ofString?
  refine ⟨?_, ?_⟩
  · intro h
    split at h
    · rename_i a' ha
      obtain rfl := Option.some.inj h
      obtain ⟨host, ds, os, hs, h4, hip, hscope, hds⟩ := socket4?_nil_iff.1 ha
      rw [hip, hscope]
      exact ⟨host, ds, hs, .v4 h4, hds⟩
    · split at h
      · rename_i a' ha
        obtain rfl := Option.some.inj h
        obtain ⟨text, mark, ds, gs, hs, h6, hmark, hip, hds⟩ := socket6?_nil_iff.1 ha
        rw [hip]
        exact ⟨_, ds, hs, .v6 h6 hmark, hds⟩
      · simp at h
  · obtain ⟨ip, n, port⟩ := a
    rintro ⟨host, ds, hs, hhost, hds⟩
    cases hhost with
    | v4 h => rw [socket4?_nil_iff.2 ⟨host, ds, _, hs, h, rfl, rfl, hds⟩]
    | v6 h hmark =>
      have hread := socket6?_nil_iff.2 ⟨_, _, ds, _, hs, h, hmark, rfl, hds⟩
      split
      · rename_i a' ha
        -- an address of octets starts with a digit
        obtain ⟨host', ds', os, hs', h4, -⟩ := socket4?_nil_iff.1 ha
        obtain ⟨c, cs, rfl, hc⟩ := h4.exists_cons
        obtain rfl := (List.cons.inj (hs.symm.trans hs')).1
        exact absurd hc (by decide)
      · rw [hread]

theorem digitChar_not_blank : ∀ d < 16, Text.isBlank (Nat.digitChar d) = false ∧
    Text.isBlank (Nat.digitChar d).toUpper = false := by
  decide

theorem not_blank_of_hexValue? {c : Char} (h : (hexValue? c).isSome = true) :
    Text.isBlank c = false := by
  obtain ⟨d, hd⟩ := Option.isSome_iff_exists.1 h
  obtain ⟨hlt, rfl | rfl⟩ := hexValue?_eq_some_iff.1 hd
  · exact (digitChar_not_blank d hlt).1
  · exact (digitChar_not_blank d hlt).2

theorem IsScope.mem {cs : List Char} {n : ℕ} {c : Char} (h : IsScope cs n) (hc : c ∈ cs) :
    c = '%' ∨ c.isDigit = true := by
  cases h with
  | none => simp at hc
  | number h =>
    rcases List.mem_cons.1 hc with hc | hc
    · exact Or.inl hc
    · exact Or.inr (h.digit c hc)

theorem close_notMem {cs mark : List Char} {gs : List ℕ} {n : ℕ} (h : IsIp6 cs gs)
    (hmark : IsScope mark n) : ']' ∉ cs ++ mark := by
  intro hc
  rcases List.mem_append.1 hc with hc | hc
  · exact h.notMem (by decide) (by decide) (by decide) hc
  · rcases hmark.mem hc with hc | hc
    · exact absurd hc (by decide)
    · exact absurd hc (by decide)

/-- A host has no blank in it. -/
theorem IsHost.not_blank {cs : List Char} {ip : Ip} {n : ℕ} (h : IsHost cs ip n) {c : Char}
    (hc : c ∈ cs) : Text.isBlank c = false := by
  cases h with
  | v4 h =>
    rcases h.mem hc with hdigit | rfl
    · exact not_blank_of_hexValue? (isSome_hexValue? hdigit)
    · decide
  | v6 h hmark =>
    simp only [List.cons_append, List.append_assoc, List.mem_cons, List.mem_append,
      List.not_mem_nil, or_false] at hc
    rcases hc with rfl | hc | hc | rfl
    · decide
    · rcases h.mem hc with hdigit | rfl | rfl
      · exact not_blank_of_hexValue? hdigit
      · decide
      · decide
    · rcases hmark.mem hc with rfl | hdigit
      · decide
      · exact not_blank_of_hexValue? (isSome_hexValue? hdigit)
    · decide

/-- A host with a colon has brackets around it. -/
theorem IsHost.head? {cs : List Char} {ip : Ip} {n : ℕ} (h : IsHost cs ip n) (hc : ':' ∈ cs) :
    cs.head? = some '[' := by
  cases h with
  | v4 h => exact absurd hc h.colon_notMem
  | v6 h hmark => rfl

/-- A host is at its end there: with a colon behind it, it is none. -/
theorem IsHost.not_isHost {cs ds : List Char} {ip ip' : Ip} {n n' : ℕ} (h : IsHost cs ip n) :
    ¬ IsHost (cs ++ ':' :: ds) ip' n' := by
  intro h'
  have hopen := h'.head? (by simp)
  cases h with
  | v4 h =>
    obtain ⟨c, t, rfl, hc⟩ := h.exists_cons
    obtain rfl := Option.some.inj hopen
    exact absurd hc (by decide)
  | @v6 text mark gs _ h hmark =>
    generalize hwhole : '[' :: text ++ mark ++ [']'] ++ ':' :: ds = whole at h'
    cases h' with
    | v4 h' =>
      subst hwhole
      exact h'.colon_notMem (by simp)
    | @v6 text' mark' _ _ h' hmark' =>
      -- the first bracket that closes is the end of either
      have hcut : (text ++ mark ++ ']' :: ':' :: ds).span (· != ']') =
          (text ++ mark, ']' :: ':' :: ds) := span_ne_eq_iff.2 ⟨rfl, rfl, close_notMem h hmark⟩
      have hcut' : (text ++ mark ++ ']' :: ':' :: ds).span (· != ']') =
          (text' ++ mark', [']']) :=
        span_ne_eq_iff.2 ⟨rfl, by simpa using hwhole, close_notMem h' hmark'⟩
      have hend := (Prod.mk.inj (hcut.symm.trans hcut')).2
      simp at hend

theorem IsNumber.colon_notMem {limit n : ℕ} {ds : List Char} (h : IsNumber limit ds n) :
    ':' ∉ ds := by
  intro hc
  exact absurd (h.digit ':' hc) (by decide)

/-- Hosts that look like one and are none: with a blank or a colon in them, an address of groups
without brackets, or a port behind. -/
inductive IsStray : List Char → Prop
  | blank {cs : List Char} {c : Char} (hc : c ∈ cs) (h : Text.isBlank c = true) : IsStray cs
  | colon {cs : List Char} (h : ':' ∈ cs) (hopen : cs.head? ≠ some '[') : IsStray cs
  | bare {cs : List Char} {gs : List ℕ} (h : IsIp6 cs gs) : IsStray cs
  | port {cs ds : List Char} {ip : Ip} {n : ℕ} (h : IsHost cs ip n) : IsStray (cs ++ ':' :: ds)

theorem IsStray.not_isHost {cs : List Char} {ip : Ip} {n : ℕ} (h : IsStray cs) :
    ¬ IsHost cs ip n := by
  intro hhost
  cases h with
  | blank hc h => simp [hhost.not_blank hc] at h
  | colon h hopen => exact hopen (hhost.head? h)
  | bare h =>
    have hopen := List.mem_of_mem_head? (hhost.head? h.colon_mem)
    exact h.notMem (by decide) (by decide) (by decide) hopen
  | port h => exact h.not_isHost hhost

end Turnstile.Net
