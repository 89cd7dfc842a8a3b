import Turnstile.Pem
import Turnstile.Proofs.Base64
import Turnstile.Proofs.Bytes

/-! Text armour that is written reads back: the markers are found where they were put, and the
lines between them join to the base64 of the content. -/

namespace Turnstile.Pem

/-! Markers. -/

theorem seek_skip {m : UInt8} (ms : Bytes) {text : Bytes} (h : m ∉ text) (done rest : Bytes) :
    seek (m :: ms) (m :: ms) done (text ++ rest) =
      seek (m :: ms) (m :: ms) (text.reverse ++ done) rest := by
  induction text generalizing done with
  | nil => rfl
  | cons b text ih =>
    obtain ⟨hb, htext⟩ := List.ne_and_not_mem_of_not_mem_cons h
    rw [List.cons_append, seek, if_neg (Ne.symm hb), ih htext, List.reverse_cons, List.append_assoc,
      List.singleton_append]

theorem seek_match (marker want done rest : Bytes) :
    seek marker want done (want ++ rest) = seek marker [] (want.reverse ++ done) rest := by
  induction want generalizing done with
  | nil => rfl
  | cons w want ih =>
    have hstep : seek marker (w :: want) done (w :: (want ++ rest)) =
        seek marker want (w :: done) (want ++ rest) := by
      rw [seek.eq_def]
      simp only [if_true]
    rw [List.cons_append, hstep, ih, List.reverse_cons, List.append_assoc, List.singleton_append]

/-- The search stops at the first marker when its first byte does not occur before. -/
theorem splitAt?_append {marker : String} {m : UInt8} {ms : Bytes}
    (hm : Bytes.ofString marker = m :: ms) {text : Bytes} (h : m ∉ text) (rest : Bytes) :
    splitAt? marker (text ++ Bytes.ofString marker ++ rest) = some (text, rest) := by
  rw [splitAt?, hm, List.append_assoc, seek_skip ms h, seek_match, seek, List.append_nil,
    List.drop_left' (List.length_reverse), List.reverse_reverse]

/-! Lines. -/

theorem mem_wrap {b : UInt8} (text : Bytes) : ∀ column, b ∈ wrap column text →
    b ∈ text ∨ b ∈ lineEnd := by
  induction text with
  | nil =>
    intro column h
    unfold wrap at h
    split_ifs at h
    · simp at h
    · exact Or.inr h
  | cons c text ih =>
    intro column h
    unfold wrap at h
    split_ifs at h
    · rcases List.mem_append.1 h with h | h
      · exact Or.inr h
      · rcases List.mem_cons.1 h with rfl | h
        · exact Or.inl List.mem_cons_self
        · exact (ih 1 h).imp_left (List.mem_cons_of_mem c)
    · rcases List.mem_cons.1 h with rfl | h
      · exact Or.inl List.mem_cons_self
      · exact (ih _ h).imp_left (List.mem_cons_of_mem c)

/-- Dropping the line ends undoes the wrapping. -/
theorem filter_wrap {keep : UInt8 → Bool} (h13 : keep 13 = false) (h10 : keep 10 = false)
    {text : Bytes} (h : ∀ b ∈ text, keep b = true) (column : ℕ) :
    (wrap column text).filter keep = text := by
  have hend : lineEnd.filter keep = [] := by simp [lineEnd, h13, h10]
  induction text generalizing column with
  | nil =>
    unfold wrap
    split_ifs
    · rfl
    · exact hend
  | cons b text ih =>
    obtain ⟨hb, htext⟩ := List.forall_mem_cons.1 h
    unfold wrap
    split_ifs
    · rw [List.filter_append, hend, List.filter_cons_of_pos hb, ih htext, List.nil_append]
    · rw [List.filter_cons_of_pos hb, ih htext]

/-- No two line feeds stand side by side. -/
theorem seek_feeds {text : Bytes} (h : 10 ∉ text) : ∀ column done,
    seek [10, 10] [10, 10] done (wrap column text) = none := by
  induction text with
  | nil =>
    intro column done
    unfold wrap
    split_ifs <;> rfl
  | cons b text ih =>
    obtain ⟨hb, htext⟩ := List.ne_and_not_mem_of_not_mem_cons h
    intro column done
    unfold wrap
    split_ifs
    · simp only [lineEnd, List.cons_append, List.nil_append, seek, if_neg (Ne.symm hb),
        if_neg (by decide : ¬ (13 : UInt8) = 10), if_true, ih htext]
    · rw [seek, if_neg (Ne.symm hb), ih htext]

theorem seek_returns {text : Bytes} (h : 13 ∉ text) : ∀ column done,
    seek [13, 10, 13, 10] [13, 10, 13, 10] done (wrap column text) = none := by
  induction text with
  | nil =>
    intro column done
    unfold wrap
    split_ifs <;> rfl
  | cons b text ih =>
    obtain ⟨hb, htext⟩ := List.ne_and_not_mem_of_not_mem_cons h
    intro column done
    unfold wrap
    split_ifs
    · simp only [lineEnd, List.cons_append, List.nil_append, seek, if_neg (Ne.symm hb), if_true,
        ih htext]
    · rw [seek, if_neg (Ne.symm hb), ih htext]

theorem splitHeaders_wrap {text : Bytes} (h10 : 10 ∉ text) (h13 : 13 ∉ text) :
    splitHeaders (wrap 0 text) = ([], wrap 0 text) := by
  have hfeeds : splitAt? "\n\n" (wrap 0 text) = none := seek_feeds h10 0 []
  have hreturns : splitAt? "\r\n\r\n" (wrap 0 text) = none := seek_returns h13 0 []
  rw [splitHeaders, hfeeds, hreturns]
  rfl

/-! Base64 between the markers. -/

theorem symbol_facts : ∀ n < 64, Base64.standard.symbol n < 128 ∧
    Text.isBlank (Char.ofNat (Base64.standard.symbol n).toNat) = false ∧
    isSpace (Base64.standard.symbol n) = false ∧ Base64.standard.symbol n ≠ 45 := by
  decide

theorem mem_encodePadded {b : UInt8} (content : Bytes) (h : b ∈ Base64.standard.encodePadded content) :
    b < 128 ∧ Text.isBlank (Char.ofNat b.toNat) = false ∧ isSpace b = false ∧ b ≠ 45 := by
  rcases List.mem_append.1 h with h | h
  · obtain ⟨n, hn, rfl⟩ := List.mem_map.1 h
    exact symbol_facts n (Base64.sextets_lt content n hn)
  · rw [List.eq_of_mem_replicate h]
    decide

theorem toString?_ascii {b : Bytes} (h : ∀ x ∈ b, x < 128) :
    Bytes.toString? b = some (String.ofList (b.map fun x => Char.ofNat x.toNat)) := by
  conv_lhs => rw [← Bytes.ofString_ascii h]
  exact Bytes.toString?_ofString _

theorem ofString_dropBlanks_wrap {text : Bytes} (hascii : ∀ b ∈ text, b < 128)
    (hblank : ∀ b ∈ text, Text.isBlank (Char.ofNat b.toNat) = false) :
    Bytes.ofString (dropBlanks (String.ofList ((wrap 0 text).map fun x => Char.ofNat x.toNat))) =
      text := by
  have hkeep : ((wrap 0 text).map fun x => Char.ofNat x.toNat).filter (fun c => !Text.isBlank c) =
      text.map fun x => Char.ofNat x.toNat := by
    rw [List.filter_map]
    exact congrArg (List.map _) (filter_wrap rfl rfl (fun b hb => by simp [hblank b hb]) 0)
  rw [dropBlanks, String.toList_ofList, hkeep, Bytes.ofString_ascii hascii]

/-- The line end behind the first marker is all that is passed over. -/
theorem dropWhile_isSpace_wrap {text : Bytes} (h : ∀ b ∈ text, isSpace b = false) (rest : Bytes) :
    (lineEnd ++ (wrap 0 text ++ Bytes.ofString "-----END " ++ rest)).dropWhile isSpace =
      wrap 0 text ++ Bytes.ofString "-----END " ++ rest := by
  cases text with
  | nil => rfl
  | cons b text =>
    have hb : isSpace b = false := h b List.mem_cons_self
    have hstop : ¬ isSpace b = true := by simp [hb]
    exact List.dropWhile_cons_of_neg hstop

theorem lineEnd_facts : ∀ b ∈ lineEnd, b < 128 ∧ b ≠ 45 := by
  decide +kernel

theorem mem_wrap_encodePadded {b : UInt8} (content : Bytes)
    (h : b ∈ wrap 0 (Base64.standard.encodePadded content)) : b < 128 ∧ b ≠ 45 := by
  rcases mem_wrap _ 0 h with h | h
  · obtain ⟨hascii, -, -, hdash⟩ := mem_encodePadded content h
    exact ⟨hascii, hdash⟩
  · exact lineEnd_facts b h

/-- Armour under a label without dashes reads back. -/
theorem ofBytes?_bytes {p : Pem} (hne : p.label ≠ "") (hdash : 45 ∉ Bytes.ofString p.label) :
    ofBytes? p.bytes = some p := by
  set text := Base64.standard.encodePadded p.content with htext
  have hfacts : ∀ b ∈ text, b < 128 ∧ Text.isBlank (Char.ofNat b.toNat) = false ∧
      isSpace b = false ∧ b ≠ 45 := fun b => mem_encodePadded p.content
  have hspace : ∀ b, isSpace b = true → b ∉ text := by
    intro b hb hm
    rw [(hfacts b hm).2.2.1] at hb
    exact absurd hb (by decide)
  have hbody : 45 ∉ wrap 0 text := by
    intro hm
    exact (mem_wrap_encodePadded p.content hm).2 rfl
  have hascii : ∀ b ∈ wrap 0 text, b < 128 := by
    intro b hm
    exact (mem_wrap_encodePadded p.content hm).1
  -- the text from its end backwards, cut at the markers
  set closing := Bytes.ofString p.label ++ Bytes.ofString "-----" ++ lineEnd with hclosing
  set inner := wrap 0 text ++ Bytes.ofString "-----END " ++ closing with hinner
  have hbytes : p.bytes = [] ++ Bytes.ofString "-----BEGIN " ++
      (Bytes.ofString p.label ++ Bytes.ofString "-----" ++ (lineEnd ++ inner)) := by
    simp only [Pem.bytes, hinner, hclosing, htext, List.append_assoc, List.nil_append]
  have hbegin : splitAt? "-----BEGIN " p.bytes = some ([], Bytes.ofString p.label ++
      Bytes.ofString "-----" ++ (lineEnd ++ inner)) := by
    rw [hbytes]
    exact splitAt?_append rfl List.not_mem_nil _
  have hlabel : splitAt? "-----" (Bytes.ofString p.label ++ Bytes.ofString "-----" ++
      (lineEnd ++ inner)) = some (Bytes.ofString p.label, lineEnd ++ inner) :=
    splitAt?_append rfl hdash _
  have hdrop : (lineEnd ++ inner).dropWhile isSpace = inner :=
    dropWhile_isSpace_wrap (fun b hb => (hfacts b hb).2.2.1) _
  have hend : splitAt? "-----END " inner = some (wrap 0 text, closing) := splitAt?_append rfl hbody _
  have hlast : splitAt? "-----" closing = some (Bytes.ofString p.label, lineEnd) :=
    splitAt?_append rfl hdash _
  have hheaders : splitHeaders (wrap 0 text) = ([], wrap 0 text) :=
    splitHeaders_wrap (hspace 10 rfl) (hspace 13 rfl)
  have hdata := ofString_dropBlanks_wrap (fun b hb => (hfacts b hb).1) fun b hb => (hfacts b hb).2.1
  have hnil : Bytes.toString? [] = some "" := Bytes.toString?_ofString ""
  have hlines : linesOf [] = [] := by simp [linesOf, Bytes.splitOn]
  simp only [ofBytes?, Option.bind_eq_bind, hbegin, hlabel, hdrop, hend, hlast, hheaders,
    Option.bind_some, Bytes.toString?_ofString, toString?_ascii hascii, hnil, hdata]
  rw [htext, Base64.decodePadded?_encodePadded]
  simp [hne, hlines]

theorem length_wrap_le (text : Bytes) {column : ℕ} (h : column ≤ lineWidth) :
    (wrap column text).length ≤ text.length + 2 * ((column + text.length + 63) / 64) := by
  unfold lineWidth at h
  induction text generalizing column with
  | nil =>
    rw [wrap]
    split_ifs
    · simp
    · simp only [lineEnd, List.length_cons, List.length_nil]
      omega
  | cons b rest ih =>
    rw [wrap]
    unfold lineWidth
    split_ifs with hfull
    · have := @ih 1 (by norm_num)
      simp only [lineEnd, List.length_append, List.length_cons, List.length_nil]
      omega
    · have := @ih (column + 1) (by omega)
      simp only [List.length_cons]
      omega

theorem le_length_wrap (text : Bytes) (column : ℕ) : text.length ≤ (wrap column text).length := by
  induction text generalizing column with
  | nil => exact Nat.zero_le _
  | cons b rest ih =>
    rw [wrap]
    split_ifs
    · have := ih 1
      simp only [List.length_append, List.length_cons]
      omega
    · exact Nat.succ_le_succ (ih (column + 1))

theorem length_content_le (p : Pem) : p.content.length ≤ p.bytes.length := by
  have htext := Base64.le_length_encodePadded .standard p.content
  have hwrap := le_length_wrap (Base64.standard.encodePadded p.content) 0
  simp only [bytes, List.length_append]
  omega

end Turnstile.Pem
