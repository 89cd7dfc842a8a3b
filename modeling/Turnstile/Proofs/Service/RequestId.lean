import Turnstile.Proofs.Flow.Rule
import Turnstile.Proofs.Service.Isolation
import Turnstile.Proofs.Uuid

/-! The id of a request. It is that of the client where this one is well-formed, and a new one
otherwise; the chain runs under it, what it reports is in the span of it, and the answer bears it.
Several layers see to that, and they agree on the id. -/

namespace Turnstile

namespace RequestId

/-- One to 128 letters, digits, dots, hyphens and underscores. -/
def IsId (id : String) : Prop :=
  1 ≤ id.length ∧ id.length ≤ 128 ∧
    ∀ c ∈ id.toList, c.isAlphanum = true ∨ c = '.' ∨ c = '_' ∨ c = '-'

/-- The id of the client, if the first one that it gives is well-formed, else the new one. -/
inductive Adopts (req : Request) (fresh : String) : String → Prop
  | client {id : String} (h : req.header? headerName = some (Bytes.ofString id)) (hid : IsId id) :
    Adopts req fresh id
  | fresh (h : ∀ id, req.header? headerName = some (Bytes.ofString id) → ¬ IsId id) :
    Adopts req fresh fresh

theorem ascii_of_isIdByte {b : UInt8} (h : isIdByte b = true) : b < 128 := by
  simp only [isIdByte, Bytes.isAlphanumeric, Bytes.isDigit, Bool.or_eq_true, Bool.and_eq_true,
    decide_eq_true_eq] at h
  grind

theorem isIdByte_iff {b : UInt8} (h : b < 128) : isIdByte b = true ↔
    (Char.ofNat b.toNat).isAlphanum = true ∨ Char.ofNat b.toNat = '.' ∨
      Char.ofNat b.toNat = '_' ∨ Char.ofNat b.toNat = '-' := by
  apply Bytes.of_forall_ofNat (n := 128) (P := fun b => isIdByte b = true ↔
    (Char.ofNat b.toNat).isAlphanum = true ∨ Char.ofNat b.toNat = '.' ∨
      Char.ofNat b.toNat = '_' ∨ Char.ofNat b.toNat = '-') (by decide) h

/-- In ASCII, an id is made of the bytes that it may have. -/
theorem isId_ascii {b : Bytes} (h : ∀ x ∈ b, x < 128) :
    IsId (String.ofList (b.map fun x => Char.ofNat x.toNat)) ↔ isValid b = true := by
  have hlength : (String.ofList (b.map fun x => Char.ofNat x.toNat)).length = b.length := by simp
  have hbytes : (∀ x ∈ b, isIdByte x = true) ↔ ∀ x ∈ b, (Char.ofNat x.toNat).isAlphanum = true ∨
      Char.ofNat x.toNat = '.' ∨ Char.ofNat x.toNat = '_' ∨ Char.ofNat x.toNat = '-' :=
    forall₂_congr fun x hx => isIdByte_iff (h x hx)
  rw [IsId, hlength, String.toList_ofList, List.forall_mem_map, ← hbytes, isValid, maxLength]
  cases b <;> simp

theorem exists_id_of_isValid {v : Bytes} (h : isValid v = true) :
    ∃ id, v = Bytes.ofString id ∧ IsId id := by
  have hascii : ∀ x ∈ v, x < 128 := by
    simp only [isValid, Bool.and_eq_true, List.all_eq_true] at h
    exact fun x hx => ascii_of_isIdByte (h.2 x hx)
  exact ⟨_, (Bytes.ofString_ascii hascii).symm, (isId_ascii hascii).2 h⟩

theorem ascii_of_isAlphanum {c : Char} (h : c.isAlphanum = true) : c.toNat < 128 := by
  have hranges : (decide ('A'.val ≤ c.val ∧ c.val ≤ 'Z'.val) ||
      ('a'.val ≤ c.val && c.val ≤ 'z'.val) || ('0'.val ≤ c.val && c.val ≤ '9'.val)) = true := h
  have hval : c.toNat = c.val.toNat := rfl
  have hZ : 'Z'.val.toNat = 90 := rfl
  have hz : 'z'.val.toNat = 122 := rfl
  have h9 : '9'.val.toNat = 57 := rfl
  simp only [Bool.or_eq_true, Bool.and_eq_true, decide_eq_true_eq, UInt32.le_iff_toNat_le]
    at hranges
  omega

theorem isValid_ofString (id : String) : isValid (Bytes.ofString id) = true ↔ IsId id := by
  refine ⟨fun h => ?_, fun h => ?_⟩
  · obtain ⟨id', heq, hid⟩ := exists_id_of_isValid h
    rwa [Bytes.ofString_inj heq]
  · have hsmall : ∀ c ∈ id.toList, c.toNat < 128 := by
      intro c hc
      rcases h.2.2 c hc with halpha | rfl | rfl | rfl
      · exact ascii_of_isAlphanum halpha
      all_goals decide
    obtain ⟨b, hascii, rfl⟩ := Bytes.exists_ascii hsmall
    rw [Bytes.ofString_ascii hascii]
    exact (isId_ascii hascii).1 h

theorem isId_ofRandom {r : Bytes} (h : r.length = 16) : IsId (Uuid.ofRandom r) := by
  refine ⟨?_, ?_, fun c hc => ?_⟩
  · rw [Uuid.length_ofRandom h]
    decide
  · rw [Uuid.length_ofRandom h]
    decide
  · exact (Uuid.mem_ofRandom h hc).imp_right fun hd => Or.inr (Or.inr hd)

theorem adopt_of_valid {req : Request} {id : String} (fresh : String)
    (h : req.header? headerName = some (Bytes.ofString id)) (hid : IsId id) :
    adopt req fresh = id := by
  simp only [adopt, h, (isValid_ofString id).2 hid, if_true, Bytes.toString?_ofString,
    Option.getD_some]

theorem adopts (req : Request) (fresh : String) : Adopts req fresh (adopt req fresh) := by
  cases hv : req.header? headerName with
  | none =>
    have hadopt : adopt req fresh = fresh := by simp only [adopt, hv]
    rw [hadopt]
    exact .fresh (by simp [hv])
  | some v =>
    by_cases hvalid : isValid v = true
    · obtain ⟨id, rfl, hid⟩ := exists_id_of_isValid hvalid
      rw [adopt_of_valid fresh hv hid]
      exact .client hv hid
    · have hadopt : adopt req fresh = fresh := by simp only [adopt, hv, if_neg hvalid]
      rw [hadopt]
      refine .fresh fun id hid hwell => hvalid ?_
      rw [hv, Option.some.injEq] at hid
      rw [hid]
      exact (isValid_ofString id).2 hwell

theorem Adopts.isId {req : Request} {fresh id : String} (h : Adopts req fresh id)
    (hfresh : IsId fresh) : IsId id := by
  cases h with
  | client _ hid => exact hid
  | fresh _ => exact hfresh

end RequestId

/-! The layers. -/

namespace Response

/-- All values of the header, in order. -/
def values (r : Response) (name : String) : List Bytes :=
  (r.headers.filter (·.1 == name)).map (·.2)

variable {r : Response} {name other : String} {value : String}

theorem values_set (r : Response) (name value : String) :
    (r.set name value).values name = [Bytes.ofString value] := by
  simp [values, set, List.filter_filter]

theorem values_set_of_ne (h : name ≠ other) : (r.set name value).values other = r.values other := by
  have hlast : (name == other) = false := beq_eq_false_iff_ne.2 h
  have hkept : (fun x : String × Bytes => x.1 == other && x.1 != name) = fun x => x.1 == other := by
    funext x
    by_cases hx : x.1 = other
    · simp [hx, h.symm]
    · simp [hx]
  simp [values, set, List.filter_filter, hkept, hlast]

theorem values_setAbsent_of_ne (h : name ≠ other) :
    (r.setAbsent name value).values other = r.values other := by
  unfold setAbsent
  split_ifs
  · rfl
  · exact values_set_of_ne h

theorem values_setAbsent_of_nil (h : r.values name = []) :
    (r.setAbsent name value).values name = [Bytes.ofString value] := by
  rw [values, List.map_eq_nil_iff, List.filter_eq_nil_iff] at h
  have habsent : ¬ r.headers.any (·.1 == name) = true := by
    rw [List.any_eq_true]
    rintro ⟨x, hx, hname⟩
    exact h x hx hname
  rw [setAbsent, if_neg habsent]
  exact values_set r name value

end Response

namespace RequestId

/-- Without its ids, if the first of them is not well-formed. -/
def dropInvalid (req : Request) : Request :=
  match req.header? headerName with
  | some v =>
    if isValid v then req else { req with headers := req.headers.filter (·.1 != headerName) }
  | none => req

/-- With the id that was made for it, if it has none. -/
def supply (made : String) (req : Request) : Request :=
  match req.header? headerName with
  | some _ => req
  | none => { req with headers := req.headers ++ [(headerName, Bytes.ofString made)] }

/-- Gives the answer the id of the request, if it has none. -/
def propagate (req : Request) (r : Response) : Response :=
  match req.header? headerName with
  | some v =>
    if r.headers.any (·.1 == headerName) then r
    else { r with headers := r.headers ++ [(headerName, v)] }
  | none => r

theorem header?_assign_self (req : Request) (id : String) :
    (assign req id).header? headerName = some (Bytes.ofString id) := by
  unfold assign
  split_ifs with h
  · exact h
  · have hnone : (req.headers.filter (·.1 != headerName)).find? (·.1 == headerName) = none := by
      simp
    simp [Request.header?, List.find?_append, hnone]

theorem filter_headers {headers : List (String × Bytes)} {name : String}
    (h : ∀ x ∈ headers, x.1 ≠ name) : headers.filter (·.1 != name) = headers :=
  List.filter_eq_self.2 fun x hx => bne_iff_ne.2 (h x hx)

/-- Dropping and making an id comes to what the request is given. -/
theorem supply_dropInvalid (req : Request) {made : String} (hmade : IsId made) :
    supply made (dropInvalid req) = assign req (adopt req made) := by
  cases hv : req.header? headerName with
  | none =>
    have hnone : ∀ x ∈ req.headers, x.1 ≠ headerName := by
      simpa [Request.header?] using hv
    simp [supply, dropInvalid, assign, adopt, hv, filter_headers hnone]
  | some v =>
    by_cases hvalid : isValid v = true
    · obtain ⟨id, rfl, hid⟩ := exists_id_of_isValid hvalid
      rw [adopt_of_valid made hv hid]
      simp [supply, dropInvalid, assign, hv, hvalid]
    · have hother : v ≠ Bytes.ofString made := by
        rintro rfl
        exact hvalid ((isValid_ofString made).2 hmade)
      have hdropped : ({ req with headers := req.headers.filter (·.1 != headerName) } :
          Request).header? headerName = none := by simp [Request.header?]
      simp [supply, dropInvalid, assign, adopt, hv, hvalid, hother, hdropped]

theorem propagate_eq {req : Request} {id : String}
    (h : req.header? headerName = some (Bytes.ofString id)) (r : Response) :
    propagate req r = r.setAbsent headerName id := by
  simp only [propagate, h, Response.setAbsent]
  split_ifs with hany
  · rfl
  · have hnone : ∀ x ∈ r.headers, x.1 ≠ headerName := fun x hx hname =>
      hany (List.any_eq_true.2 ⟨x, hx, beq_iff_eq.2 hname⟩)
    rw [Response.set, filter_headers hnone]

end RequestId

namespace Service

/-- The layers around a chain, outermost first: an id that is not well-formed is dropped, a missing
one is made, and the answer gets the one of the request. The entry of the chain reads the id once
more, and has one of its own in case there is none. -/
def serveInLayers (s : Service) (path : String) (c : Chain) (req : Request) (clock : Instant)
    (made own : String) : Service × Reply :=
  let named := RequestId.supply made (RequestId.dropInvalid req)
  let r := s.dispatch c { named with template := some path } (RequestId.adopt named own) clock
  let expose (a : Response) : Response := ((a.set "access-control-allow-origin" "*").set
    "access-control-expose-headers" "*").set "vary" varyText
  (r.1, Reply.map (fun a => expose (RequestId.propagate named (finish req.method a))) r.2)

/-- The layers agree on one id, and the last one never falls back on its own. -/
theorem serveInLayers_eq (s : Service) (path : String) (c : Chain) (req : Request) (clock : Instant)
    {made : String} (hmade : RequestId.IsId made) (own : String) :
    s.serveInLayers path c req clock made own =
      ((s.dispatch c (req.entering path made) (RequestId.adopt req made) clock).1,
        Reply.map (fun r => share (RequestId.adopt req made) (finish req.method r))
          (s.dispatch c (req.entering path made) (RequestId.adopt req made) clock).2) := by
  have hnamed := RequestId.supply_dropInvalid req hmade
  have hheader := RequestId.header?_assign_self req (RequestId.adopt req made)
  have hread := RequestId.adopt_of_valid own hheader ((RequestId.adopts req made).isId hmade)
  simp only [serveInLayers, hnamed, hread, RequestId.propagate_eq hheader]
  rfl

end Service

/-! The chain under its id. -/

/-- Under the id: the context has it, and no answer has an id of its own. -/
def RequestId.rule (id : String) : Flow.Rule where
  context c := c.traceId = id
  effect _ := True
  answer a _ := a.values headerName = []
  status n h hv := by simpa [Context.traceId, hv] using h
  claims claims h := h
  event _ := trivial
  respond _ ho := by
    rw [Flow.respond_eq_ok ho]
    split_ifs <;> rfl

theorem RequestId.plain_rule (id : String) : (RequestId.rule id).Plain where
  answer _ h := h
  json _ _ _ := rfl

/-- The handler leaves the trace id of its context, and sets no request id. -/
def Handler.LeavesId (h : Handler) : Prop := ∀ id, Handler.Meets (RequestId.rule id) h h

/-- So does the interceptor if what is behind it does, which it runs under its own trace id. -/
def Interceptor.LeavesId (i : Interceptor) : Prop :=
  ∀ id, Interceptor.Meets (RequestId.rule id) i i

theorem Middleware.leavesId (m : Middleware) : Interceptor.LeavesId m.intercept :=
  fun id => Middleware.meets (RequestId.plain_rule id) m fun _ _ _ => trivial

/-- As `h` under the trace id, and as `other` under any other. -/
def Handler.under (id : String) (h other : Handler) : Handler := fun req env c =>
  if c.traceId = id then h req env c else other req env c

/-- The chain, each part of which gives way to `other` where it is not run under the trace id. -/
def Chain.under (id : String) (c : Chain) (other : Handler) : Chain :=
  ⟨c.interceptors.map fun i next => (i next).under id other, c.handler.under id other⟩

theorem Handler.Meets.under {id : String} {h h' : Handler} (hm : h.Meets (RequestId.rule id) h')
    (other : Handler) : h.Meets (RequestId.rule id) (h'.under id other) := by
  intro req env c hc
  obtain ⟨hsame, hresult⟩ := hm req env c hc
  refine ⟨?_, hresult⟩
  rw [hsame]
  exact (if_pos hc).symm

namespace Chain

variable {c : Chain} (hi : ∀ i ∈ c.interceptors, Interceptor.LeavesId i)
  (hh : c.handler.LeavesId)

include hi hh

theorem meets_under (id : String) (other : Handler) :
    c.run.Meets (RequestId.rule id) (c.under id other).run := by
  refine Chain.meets_run ?_ ((hh id).under other)
  rw [List.forall₂_map_right_iff, List.forall₂_same]
  exact fun i hmem next next' hnext => (hi i hmem id next next' hnext).under other

end Chain

/-- The parts of the service leave the id alone. -/
theorem Api.leavesId {req : Request} {path : String} {c : Chain}
    (h : app.chain? req = some (path, c)) :
    (∀ i ∈ c.interceptors, Interceptor.LeavesId i) ∧ c.handler.LeavesId := by
  obtain ⟨route, handler, rfl, hroute, hhandler⟩ := exists_of_chain? h
  constructor
  · intro i hi
    have hmiddleware : ∃ m : Middleware, m.intercept = i := by
      rcases List.mem_append.1 hi with hi | hi
      · obtain ⟨m, -, hm⟩ := List.mem_map.1 hi
        exact ⟨m, hm⟩
      · rcases hroute with rfl | ⟨roles, rfl⟩
        · simp at hi
        · obtain ⟨m, -, hm⟩ := List.mem_map.1 hi
          exact ⟨m, hm⟩
    obtain ⟨m, rfl⟩ := hmiddleware
    exact m.leavesId
  · intro id
    rcases hhandler with rfl | rfl | rfl
    · exact Handler.meets_test _
    · exact Handler.meets_me _
    · exact Handler.meets_token _

namespace Service

variable {s : Service} {req : Request} {path : String} {c : Chain}

theorem dispatch_congr {c' : Chain} {id : String} {clock : Instant}
    (h : c'.run req (s.env clock) (Context.new id clock s.cancelled) =
      c.run req (s.env clock) (Context.new id clock s.cancelled)) :
    s.dispatch c' req id clock = s.dispatch c req id clock := by
  simp only [dispatch, h]

theorem values_share (id : String) {r : Response} (h : r.values RequestId.headerName = []) :
    (share id r).values RequestId.headerName = [Bytes.ofString id] := by
  rw [share, Response.values_set_of_ne (by decide), Response.values_set_of_ne (by decide),
    Response.values_set_of_ne (by decide), Response.values_setAbsent_of_nil h]

theorem values_finish (method : String) (r : Response) :
    (finish method r).values RequestId.headerName = r.values RequestId.headerName := by
  have hlength : (r.setAbsent "content-length" (toString r.body.length)).values
      RequestId.headerName = r.values RequestId.headerName :=
    Response.values_setAbsent_of_ne (by decide)
  simp only [finish]
  split_ifs
  · exact hlength
  · exact hlength

/-- What goes out for the answer of a chain, or of an error that escapes it, bears the id. -/
theorem outcome_of_serve (h : s.app.chain? req = some (path, c)) (clock : Instant) (fresh : String) :
    let id := RequestId.adopt req fresh
    let result := c.run (req.entering path fresh) (s.env clock) (Context.new id clock s.cancelled)
    (∀ a, result.outcome = .ok a → a.values RequestId.headerName = []) →
    match (s.serve req clock fresh).2.outcome with
    | .ok answer => answer.values RequestId.headerName = [Bytes.ofString id]
    | .error message => result.outcome = .error (.panic message) := by
  intro id result hanswer
  have hsent : ∀ a : Response, a.values RequestId.headerName = [] →
      (share id (finish req.method a)).values RequestId.headerName = [Bytes.ofString id] :=
    fun a ha => values_share id ((values_finish req.method a).trans ha)
  rw [serve_of_chain? h]
  simp only [Reply.map, dispatch]
  rcases hrun : (c.run (req.entering path fresh) (s.env clock)
    (Context.new (RequestId.adopt req fresh) clock s.cancelled)).outcome with (e | message) | a
  · exact hsent _ rfl
  · rfl
  · exact hsent a (hanswer a hrun)

/-- What a chain logs is in the span of its id; of an error that escapes it there is more. -/
theorem logged_of_serve (h : s.app.chain? req = some (path, c)) (clock : Instant) (fresh : String) :
    let id := RequestId.adopt req fresh
    let result := c.run (req.entering path fresh) (s.env clock) (Context.new id clock s.cancelled)
    ∃ escaped, (s.serve req clock fresh).2.logged =
        (Effect.events result.effects).map (⟨·, some id⟩) ++ escaped ∧
      ∀ l ∈ escaped, (∃ text, l = ⟨.errorEscaped id text, none⟩) ∨
        ∃ reason, l = ⟨.shutdownRequested reason, none⟩ := by
  rw [serve_of_chain? h]
  simp only [Reply.map, dispatch]
  rcases (c.run (req.entering path fresh) (s.env clock)
    (Context.new (RequestId.adopt req fresh) clock s.cancelled)).outcome with (e | message) | a
  · exact ⟨_, rfl, by simp [signal]⟩
  · exact ⟨[], by simp, by simp⟩
  · exact ⟨[], by simp, by simp⟩

/-- The trace id that a chain runs under, all that sees it, and what the answer bears: the id that
the client gives first, if it is well-formed, and a new one otherwise. The layers around the chain,
each of which reads the id for itself, agree on it, and no part of the chain is ever run under
another. Only a panic that escapes the chain leaves no answer. -/
theorem trace_id_of_request (h : s.app.chain? req = some (path, c))
    (hi : ∀ i ∈ c.interceptors, Interceptor.LeavesId i) (hh : c.handler.LeavesId)
    (clock : Instant) {random : Bytes} (hr : random.length = 16) :
    let fresh := Uuid.ofRandom random
    let reply := (s.serve req clock fresh).2
    Uuid.canonical? fresh = some fresh ∧
    ∃ id, RequestId.Adopts req fresh id ∧ RequestId.IsId id ∧
      (∀ own other, s.serveInLayers path (c.under id other) req clock fresh own =
        s.serve req clock fresh) ∧
      let result :=
        c.run (req.entering path fresh) (s.env clock) (Context.new id clock s.cancelled)
      (req.entering path fresh).header? RequestId.headerName = some (Bytes.ofString id) ∧
      result.context.traceId = id ∧
      (∃ escaped, reply.logged = (Effect.events result.effects).map (⟨·, some id⟩) ++ escaped ∧
        ∀ l ∈ escaped, (∃ text, l = ⟨.errorEscaped id text, none⟩) ∨
          ∃ reason, l = ⟨.shutdownRequested reason, none⟩) ∧
      match reply.outcome with
      | .ok answer => answer.values RequestId.headerName = [Bytes.ofString id]
      | .error message => result.outcome = .error (.panic message) := by
  intro fresh reply
  have hfresh : RequestId.IsId fresh := RequestId.isId_ofRandom hr
  have hadopts := RequestId.adopts req fresh
  have hmeets := fun other => Chain.meets_under hi hh (RequestId.adopt req fresh) other
    (req.entering path fresh) (s.env clock)
    (Context.new (RequestId.adopt req fresh) clock s.cancelled) rfl
  obtain ⟨-, hcontext, -, hanswer⟩ := hmeets fun _ => Flow.panicWith none
  refine ⟨Uuid.canonical?_ofRandom hr, _, hadopts, hadopts.isId hfresh, ?_,
    RequestId.header?_assign_self req _, hcontext, logged_of_serve h clock fresh,
    outcome_of_serve h clock fresh hanswer⟩
  intro own other
  rw [serve_of_chain? h, serveInLayers_eq s path _ req clock hfresh own,
    dispatch_congr (hmeets other).1.symm]

/-- Two ids, of which the first one has a blank. -/
def malformedId : Request :=
  { plainRequest "GET" "/v1/test" with
    headers := [("x-request-id", Bytes.ofString "a b"), ("x-request-id", Bytes.ofString "c")] }

theorem trace_id_of_request_malformed :
    apiService.app.chain? malformedId =
        some ("/v1/test", Chain.new Api.global [] Handler.test) ∧
      ∃ answer,
        (apiService.serve malformedId ⟨0, 0⟩ (Uuid.ofRandom (List.replicate 16 0))).2.outcome =
          .ok answer ∧
        answer.values "x-request-id" =
          [Bytes.ofString "00000000-0000-4000-8000-000000000000"] := by
  have hchain : apiService.app.chain? malformedId =
      some ("/v1/test", Chain.new Api.global [] Handler.test) := rfl
  obtain ⟨hi, hh⟩ := Api.leavesId hchain
  obtain ⟨-, id, hadopts, -, -, -, -, -, houtcome⟩ :=
    trace_id_of_request hchain hi hh ⟨0, 0⟩ (show (List.replicate 16 0).length = 16 from rfl)
  have hfirst : malformedId.header? RequestId.headerName = some (Bytes.ofString "a b") := rfl
  have hfresh : Uuid.ofRandom (List.replicate 16 0) = "00000000-0000-4000-8000-000000000000" := by
    decide +kernel
  refine ⟨hchain, _, rfl, ?_⟩
  cases hadopts with
  | client h hid =>
    rw [hfirst] at h
    obtain rfl := Bytes.ofString_inj (Option.some.inj h)
    exact absurd (hid.2.2 ' ' (by decide)) (by decide)
  | fresh _ =>
    rw [← hfresh]
    exact houtcome

/-- Gives the answer an id of its own. -/
def relabel : Interceptor := fun next req => do
  let answer ← next req
  pure (answer.set RequestId.headerName "other")

def labelRoute (c : Chain) : Route := ⟨"/", [.byte 47], [(.get, .chain c)]⟩

def relabelingService : Service :=
  { failingService with
    app := ⟨Api.global, [labelRoute (Chain.new Api.global [relabel] Handler.test)]⟩ }

/-- A service without the standard interceptors. -/
def bareService : Service :=
  { failingService with app := ⟨[], [labelRoute (Chain.new [] [] broken)]⟩ }

def labelled : Request :=
  { plainRequest "GET" "/" with headers := [("x-request-id", Bytes.ofString "abc")] }

/-- An interceptor may give the answer another id than that of the spans, and a panic that nothing
recovers from leaves no answer to bear one, though no handler sets an id. -/
theorem trace_id_of_request_relabelled :
    App.handle ⟨Api.global, []⟩ .get "" "/" Handler.test [relabel] = some relabelingService.app ∧
    App.handle ⟨[], []⟩ .get "" "/" broken [] = some bareService.app ∧
    Handler.test.LeavesId ∧ broken.LeavesId ∧ RequestId.IsId "abc" ∧
    (∃ answer, (relabelingService.serve labelled ⟨0, 0⟩ "a").2.outcome = .ok answer ∧
      answer.values RequestId.headerName = [Bytes.ofString "other"]) ∧
    (relabelingService.serve labelled ⟨0, 0⟩ "a").2.logged.map (·.span) =
      [some "abc", some "abc"] ∧
    (bareService.serve labelled ⟨0, 0⟩ "a").2.outcome = .error none := by
  refine ⟨rfl, rfl, fun _ => Handler.meets_test _, fun _ _ => Flow.meets_raise _, ?_, ⟨_, rfl, ?_⟩,
    rfl, rfl⟩
  · exact (RequestId.isValid_ofString "abc").1 (by decide +kernel)
  · decide +kernel

end Service

end Turnstile
