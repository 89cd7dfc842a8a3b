import Turnstile.Proofs.Email
import Turnstile.TokenRequest

/-! What a client is told of a request whose rules are broken: of every field its first failure, in
the order in which the fields first fail. -/

namespace Turnstile

open Email

variable {report es es' : List FieldError} {e e' : FieldError} {f g : String}

/-! The first failures of a report. -/

/-- The first entry of its field. -/
def IsFirst (report : List FieldError) (e : FieldError) : Prop := ∃ front back,
  report = front ++ e :: back ∧ ∀ e' ∈ front, e'.field ≠ e.field

/-- The one field has an entry before the other has any. -/
def ComesBefore (report : List FieldError) (f g : String) : Prop := ∃ front, front <+: report ∧
  f ∈ front.map FieldError.field ∧ g ∉ front.map FieldError.field

/-- Every field of the report once, in the order of their first entries, each with its first. -/
structure TellsFirst (report es : List FieldError) : Prop where
  field : ∀ f, f ∈ es.map FieldError.field ↔ f ∈ report.map FieldError.field
  nodup : (es.map FieldError.field).Nodup
  first : ∀ e ∈ es, IsFirst report e
  ordered : es.Pairwise fun a b => ComesBefore report a.field b.field

theorem isFirst_iff_find? : IsFirst report e ↔ report.find? (·.field == e.field) = some e := by
  simp [IsFirst, List.find?_eq_some_iff_append]

theorem IsFirst.unique (h : IsFirst report e) (h' : IsFirst report e')
    (hfield : e.field = e'.field) : e = e' := by
  rw [isFirst_iff_find?, hfield] at h
  exact Option.some.inj (h.symm.trans (isFirst_iff_find?.1 h'))

theorem IsFirst.append (h : IsFirst report e) (more : List FieldError) :
    IsFirst (report ++ more) e := by
  obtain ⟨front, back, rfl, hfront⟩ := h
  exact ⟨front, back ++ more, by simp, hfront⟩

theorem ComesBefore.append (h : ComesBefore report f g) (more : List FieldError) :
    ComesBefore (report ++ more) f g := by
  obtain ⟨front, hfront, hf, hg⟩ := h
  exact ⟨front, hfront.trans (List.prefix_append _ _), hf, hg⟩

theorem ComesBefore.asymm (h : ComesBefore report f g) : ¬ ComesBefore report g f := by
  rintro ⟨front', hfront', hg', hf'⟩
  obtain ⟨front, hfront, hf, hg⟩ := h
  rcases List.prefix_or_prefix_of_prefix hfront hfront' with hshort | hshort
  · exact hf' ((hshort.map FieldError.field).subset hf)
  · exact hg ((hshort.map FieldError.field).subset hg')

theorem TellsFirst.mem_of_mem (h : TellsFirst report es) (h' : TellsFirst report es')
    (he : e ∈ es) : e ∈ es' := by
  have hfield := (h'.field e.field).2 ((h.field e.field).1 (List.mem_map_of_mem he))
  obtain ⟨e', he', hsame⟩ := List.mem_map.1 hfield
  rwa [(h.first e he).unique (h'.first e' he') hsame.symm]

/-- A report is told in one way. -/
theorem TellsFirst.unique (h : TellsFirst report es) (h' : TellsFirst report es') : es = es' := by
  have hperm : es.Perm es' := (List.perm_ext_iff_of_nodup h.nodup.of_map h'.nodup.of_map).2
    fun e => ⟨h.mem_of_mem h', h'.mem_of_mem h⟩
  exact hperm.eq_of_pairwise (fun a b _ _ hab hba => absurd hba hab.asymm) h.ordered h'.ordered

/-! One more entry. -/

theorem TellsFirst.repeated (h : TellsFirst report es) (he : e.field ∈ es.map FieldError.field) :
    TellsFirst (report ++ [e]) es where
  field f := by
    rw [h.field, List.map_append, List.mem_append]
    refine ⟨Or.inl, ?_⟩
    rintro (hf | hf)
    · exact hf
    · obtain rfl : f = e.field := by simpa using hf
      exact (h.field e.field).1 he
  nodup := h.nodup
  first e' he' := (h.first e' he').append [e]
  ordered := h.ordered.imp fun hab => hab.append [e]

theorem TellsFirst.snoc (h : TellsFirst report es) (he : e.field ∉ es.map FieldError.field) :
    TellsFirst (report ++ [e]) (es ++ [e]) where
  field f := by
    simp only [List.map_append, List.mem_append, h.field]
  nodup := by
    rw [List.map_append]
    exact h.nodup.append (List.nodup_singleton _) (by simpa using he)
  first e' he' := by
    rcases List.mem_append.1 he' with he' | he'
    · exact (h.first e' he').append [e]
    · obtain rfl := List.mem_singleton.1 he'
      refine ⟨report, [], rfl, fun e'' he'' hsame => ?_⟩
      rw [h.field, ← hsame] at he
      exact he (List.mem_map_of_mem he'')
  ordered := by
    refine List.pairwise_append.2 ⟨h.ordered.imp fun hab => hab.append [e], by simp, ?_⟩
    intro a ha b hb
    obtain rfl := List.mem_singleton.1 hb
    refine ⟨report, List.prefix_append _ _, ?_, ?_⟩
    · exact (h.field a.field).1 (List.mem_map_of_mem ha)
    · rwa [← h.field]

theorem firstPerField_concat (report : List FieldError) (e : FieldError) :
    firstPerField (report ++ [e]) =
      if e.field ∈ (firstPerField report).map FieldError.field then firstPerField report
      else firstPerField report ++ [e] := by
  have hany : ∀ es : List FieldError, es.any (·.field == e.field) = true ↔
      e.field ∈ es.map FieldError.field := by
    simp
  rw [firstPerField, List.foldl_append]
  exact if_congr (hany _) rfl rfl

theorem tellsFirst_firstPerField (report : List FieldError) :
    TellsFirst report (firstPerField report) := by
  induction report using List.reverseRecOn with
  | nil => exact ⟨by simp [firstPerField], by simp [firstPerField], by simp [firstPerField],
      .nil⟩
  | append_singleton report e ih =>
    rw [firstPerField_concat]
    split_ifs with he
    · exact ih.repeated he
    · exact ih.snoc he

theorem firstPerField_eq_iff : firstPerField report = es ↔ TellsFirst report es := by
  refine ⟨?_, ?_⟩
  · rintro rfl
    exact tellsFirst_firstPerField report
  · exact (tellsFirst_firstPerField report).unique

theorem firstPerField_eq_nil_iff : firstPerField report = [] ↔ report = [] := by
  refine ⟨?_, ?_⟩
  · intro h
    have hfield := (firstPerField_eq_iff.1 h).field
    refine List.eq_nil_iff_forall_not_mem.2 fun e he => ?_
    simpa using (hfield e.field).2 (List.mem_map_of_mem he)
  · rintro rfl
    rfl

/-- A report whose entries have paths, with the texts of the paths for fields. -/
def displayed {Path : Type} (display : Path → String) (report : List (Path × String)) :
    List FieldError :=
  report.map fun (path, message) => ⟨display path, message⟩

/-! The request for a token. -/

namespace TokenRequest

/-- What is told of an email. The empty one breaks both rules, and the one for addresses is the
first. -/
inductive TellsEmail (s : String) : List FieldError → Prop
  | valid (h : IsAddress s) : TellsEmail s []
  | invalid {f : Fault} (h : FirstFault s f) :
    TellsEmail s [⟨"email", "not a valid email: " ++ f.message⟩]

inductive TellsPassword (s : String) : List FieldError → Prop
  | valid (hlow : 1 ≤ s.utf8ByteSize) (hhigh : s.utf8ByteSize ≤ 1024) : TellsPassword s []
  | short (h : s.utf8ByteSize < 1) : TellsPassword s [⟨"password", "length is lower than 1"⟩]
  | long (h : 1024 < s.utf8ByteSize) :
    TellsPassword s [⟨"password", "length is greater than 1024"⟩]

theorem emailFault?_eq_none_iff {s : String} : emailFault? s = none ↔ IsAddress s := by
  rw [emailFault?, Option.map_eq_none_iff, fault?_eq_none_iff]

theorem lengthFault?_of_emailFault? {s : String} (h : emailFault? s = none) :
    lengthFault? 1 none s = none := by
  rw [lengthFault?, if_neg (not_lt.2 (emailFault?_eq_none_iff.1 h).length_pos)]

/-- The faults of a request: one for its email at most, and one for its password. -/
theorem check_eq (r : TokenRequest) : r.check =
    ((emailFault? r.email).map (⟨"email", ·⟩)).toList ++
      ((lengthFault? 1 (some maxPasswordLength) r.password).map (⟨"password", ·⟩)).toList := by
  rw [check, report]
  cases hemail : emailFault? r.email with
  | none =>
    rw [lengthFault?_of_emailFault? hemail]
    cases lengthFault? 1 (some maxPasswordLength) r.password with
    | none => rfl
    | some fault => rfl
  | some first =>
    cases lengthFault? 1 none r.email with
    | none =>
      cases lengthFault? 1 (some maxPasswordLength) r.password with
      | none => rfl
      | some fault => rfl
    | some second =>
      cases lengthFault? 1 (some maxPasswordLength) r.password with
      | none => rfl
      | some fault => rfl

theorem tellsEmail_iff {s : String} {es : List FieldError} :
    ((emailFault? s).map (FieldError.mk "email")).toList = es ↔ TellsEmail s es := by
  refine ⟨?_, ?_⟩
  · rintro rfl
    cases hf : fault? s with
    | none =>
      rw [emailFault?, hf]
      exact .valid (fault?_eq_none_iff.1 hf)
    | some f =>
      rw [emailFault?, hf]
      exact .invalid (fault?_eq_some_iff.1 hf)
  · intro h
    cases h with
    | valid h => rw [emailFault?_eq_none_iff.2 h]; rfl
    | invalid h => rw [emailFault?, fault?_eq_some_iff.2 h]; rfl

theorem tellsPassword_iff {s : String} {es : List FieldError} :
    ((lengthFault? 1 (some maxPasswordLength) s).map (FieldError.mk "password")).toList = es ↔
      TellsPassword s es := by
  have hfault : lengthFault? 1 (some maxPasswordLength) s =
      if s.utf8ByteSize < 1 then some "length is lower than 1"
      else if 1024 < s.utf8ByteSize then some "length is greater than 1024" else none := rfl
  rw [hfault]
  refine ⟨?_, ?_⟩
  · rintro rfl
    split_ifs with hlow hhigh
    · exact .short hlow
    · exact .long hhigh
    · exact .valid (not_lt.1 hlow) (not_lt.1 hhigh)
  · intro h
    cases h with
    | valid hlow hhigh => rw [if_neg (not_lt.2 hlow), if_neg (not_lt.2 hhigh)]; rfl
    | short h => rw [if_pos h]; rfl
    | long h => rw [if_neg (by omega), if_pos h]; rfl

theorem check_eq_iff {r : TokenRequest} : r.check = es ↔ ∃ emails passwords,
    es = emails ++ passwords ∧ TellsEmail r.email emails ∧ TellsPassword r.password passwords := by
  simp only [check_eq, ← tellsEmail_iff, ← tellsPassword_iff]
  refine ⟨?_, ?_⟩
  · rintro rfl
    exact ⟨_, _, rfl, rfl, rfl⟩
  · rintro ⟨_, _, rfl, rfl, rfl⟩
    rfl

/-- A request is good as long as its email is an address and its password neither empty nor too
long. -/
theorem check_eq_nil_iff {r : TokenRequest} : r.check = [] ↔
    1 ≤ r.email.utf8ByteSize ∧ IsAddress r.email ∧ 1 ≤ r.password.utf8ByteSize ∧
      r.password.utf8ByteSize ≤ 1024 := by
  rw [check_eq_iff]
  refine ⟨?_, ?_⟩
  · rintro ⟨emails, passwords, hnil, hemail, hpassword⟩
    obtain ⟨rfl, rfl⟩ := List.append_eq_nil_iff.1 hnil.symm
    cases hemail with
    | valid h =>
      cases hpassword with
      | valid hlow hhigh => exact ⟨h.length_pos, h, hlow, hhigh⟩
  · rintro ⟨-, h, hlow, hhigh⟩
    exact ⟨[], [], rfl, .valid h, .valid hlow hhigh⟩

end TokenRequest

/-- Of every report each field is told once, and of every request for a token each field that
breaks a rule. -/
theorem one_failure_per_field :
    (∀ {Path : Type} (display : Path → String) (report : List (Path × String)),
      (firstPerField (displayed display report) = [] ↔ report = []) ∧
      ∀ es, firstPerField (displayed display report) = es ↔
        TellsFirst (displayed display report) es) ∧
    ∀ r : TokenRequest,
      (r.check = [] ↔ 1 ≤ r.email.utf8ByteSize ∧ IsAddress r.email ∧
        1 ≤ r.password.utf8ByteSize ∧ r.password.utf8ByteSize ≤ 1024) ∧
      ∀ es, r.check = es ↔ ∃ emails passwords, es = emails ++ passwords ∧
        TokenRequest.TellsEmail r.email emails ∧
          TokenRequest.TellsPassword r.password passwords := by
  refine ⟨?_, ?_⟩
  · intro Path display report
    refine ⟨?_, fun es => firstPerField_eq_iff⟩
    rw [firstPerField_eq_nil_iff, displayed, List.map_eq_nil_iff]
  · intro r
    exact ⟨TokenRequest.check_eq_nil_iff, fun es => TokenRequest.check_eq_iff⟩

end Turnstile
