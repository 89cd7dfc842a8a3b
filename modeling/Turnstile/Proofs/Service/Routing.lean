import Mathlib.Tactic
import Turnstile.Service.Api

/-! From a request to the chain that answers it, and from the chain's answer to the response that
leaves the application. -/

namespace Turnstile

/-- The chain that a request runs, and the path of its route. -/
def App.chain? (a : App) (req : Request) : Option (String × Chain) :=
  if req.method = "OPTIONS" then none
  else match a.route? req.path with
    | none => none
    | some route =>
      match route.endpoint? req.method with
      | some (.chain c) => some (route.path, c)
      | _ => none

/-- Of two routes that accept a path, the more literal one. -/
def Route.prefer (best : Option Route) (r : Route) : Option Route :=
  match best with
  | none => some r
  | some b => if r.pattern.precedes b.pattern then some r else some b

theorem App.route?_eq (a : App) (path : String) : a.route? path =
    (a.routes.filter (·.pattern.accepts (Bytes.ofString path))).foldl Route.prefer none := rfl

theorem Route.mem_of_foldl_prefer {rs : List Route} {best : Option Route} {r : Route}
    (h : rs.foldl prefer best = some r) : best = some r ∨ r ∈ rs := by
  induction rs generalizing best with
  | nil => exact Or.inl h
  | cons r' rs ih =>
    rcases ih h with h | h
    · cases best with
      | none => exact Or.inr (by simp_all [prefer])
      | some b =>
        simp only [prefer] at h
        split_ifs at h
        · exact Or.inr (by simp_all)
        · exact Or.inl h
    · exact Or.inr (List.mem_cons_of_mem _ h)

theorem App.mem_routes_of_route? {a : App} {path : String} {r : Route}
    (h : a.route? path = some r) : r ∈ a.routes := by
  rw [route?_eq] at h
  rcases Route.mem_of_foldl_prefer h with h | h
  · simp at h
  · exact List.mem_of_mem_filter h

theorem Route.mem_endpoints_of_endpoint? {r : Route} {method : String} {e : Endpoint}
    (h : r.endpoint? method = some e) : ∃ name, (name, e) ∈ r.endpoints := by
  unfold Route.endpoint? at h
  split at h
  · rename_i e' he
    obtain rfl := Option.some.inj h
    exact ⟨e'.1, List.mem_of_find?_eq_some he⟩
  · split_ifs at h
    obtain ⟨e', he, rfl⟩ := Option.map_eq_some_iff.1 h
    exact ⟨e'.1, List.mem_of_find?_eq_some he⟩

theorem App.mem_of_chain? {a : App} {req : Request} {path : String} {c : Chain}
    (h : a.chain? req = some (path, c)) :
    ∃ r ∈ a.routes, ∃ method, (method, Endpoint.chain c) ∈ r.endpoints := by
  unfold App.chain? at h
  split_ifs at h
  split at h
  · simp at h
  · rename_i r hr
    split at h
    · rename_i c' he
      obtain ⟨rfl, rfl⟩ := Prod.mk.inj (Option.some.inj h)
      exact ⟨r, mem_routes_of_route? hr, Route.mem_endpoints_of_endpoint? he⟩
    · simp at h

/-- Giving a request its id changes nothing but that header. -/
theorem RequestId.assign_eq (req : Request) (id : String) :
    ∃ headers, RequestId.assign req id = { req with headers := headers } := by
  unfold RequestId.assign
  split_ifs
  · exact ⟨req.headers, rfl⟩
  · exact ⟨_, rfl⟩

theorem RequestId.header?_assign (req : Request) (id : String) {name : String}
    (h : name ≠ headerName) : (RequestId.assign req id).header? name = req.header? name := by
  unfold RequestId.assign
  split_ifs
  · rfl
  · have hlast : (headerName == name) = false := beq_eq_false_iff_ne.2 h.symm
    simp only [Request.header?, List.find?_append, List.find?_filter, List.find?_cons, hlast,
      List.find?_nil, Option.or_none]
    refine congrArg (Option.map (·.2)) (congrArg (List.find? · req.headers) ?_)
    funext x
    by_cases hx : x.1 = name
    · simp [hx, h]
    · simp [hx]

/-- The request as its chain finds it, under its id and with the path of its route. -/
def Request.entering (req : Request) (path fresh : String) : Request :=
  { RequestId.assign req (RequestId.adopt req fresh) with template := some path }

namespace Request

variable (req : Request) (path fresh : String)

theorem entering_eq : ∃ headers,
    req.entering path fresh = { req with headers := headers, template := some path } := by
  obtain ⟨headers, h⟩ := RequestId.assign_eq req (RequestId.adopt req fresh)
  exact ⟨headers, by rw [entering, h]⟩

@[simp] theorem body_entering : (req.entering path fresh).body = req.body := by
  obtain ⟨headers, h⟩ := req.entering_eq path fresh
  rw [h]

@[simp] theorem method_entering : (req.entering path fresh).method = req.method := by
  obtain ⟨headers, h⟩ := req.entering_eq path fresh
  rw [h]

@[simp] theorem path_entering : (req.entering path fresh).path = req.path := by
  obtain ⟨headers, h⟩ := req.entering_eq path fresh
  rw [h]

@[simp] theorem remoteText_entering : (req.entering path fresh).remoteText = req.remoteText := by
  obtain ⟨headers, h⟩ := req.entering_eq path fresh
  rw [h]
  rfl

@[simp] theorem authorization_entering :
    (req.entering path fresh).authorization = req.authorization := by
  have hother : "authorization" ≠ RequestId.headerName := by decide
  have hheader := RequestId.header?_assign req (RequestId.adopt req fresh) hother
  simp only [authorization, entering, header?] at hheader ⊢
  rw [hheader]

end Request

namespace Service

theorem serve_of_chain? {s : Service} {req : Request} {path : String} {c : Chain}
    (h : s.app.chain? req = some (path, c)) (clock : Instant) (fresh : String) :
    s.serve req clock fresh =
      ((s.dispatch c (req.entering path fresh) (RequestId.adopt req fresh) clock).1,
        Reply.map (fun r => share (RequestId.adopt req fresh) (finish req.method r))
          (s.dispatch c (req.entering path fresh) (RequestId.adopt req fresh) clock).2) := by
  obtain ⟨headers, hid⟩ := RequestId.assign_eq req (RequestId.adopt req fresh)
  unfold App.chain? at h
  split_ifs at h with hm
  split at h
  · simp at h
  · rename_i r hr
    split at h
    · rename_i c' he
      obtain ⟨rfl, rfl⟩ := Prod.mk.inj (Option.some.inj h)
      simp only [serve, if_neg hm, hr, hid, he, Request.entering]
    · simp at h

theorem serve_of_plain {s : Service} {req : Request} {route : Route}
    {answer : Env → Counters → Response} (hm : req.method ≠ "OPTIONS")
    (hr : s.app.route? req.path = some route)
    (he : route.endpoint? req.method = some (.plain answer)) (clock : Instant) (fresh : String) :
    s.serve req clock fresh = (s, answered (share (RequestId.adopt req fresh)
      (finish req.method (answer (s.env clock) s.counters)))) := by
  obtain ⟨headers, hid⟩ := RequestId.assign_eq req (RequestId.adopt req fresh)
  simp only [serve, if_neg hm, hr, hid, he]

/-- Outside of a chain the answer is made at once, and nothing changes. -/
theorem serve_of_chain?_eq_none {s : Service} {req : Request} (h : s.app.chain? req = none)
    (clock : Instant) (fresh : String) :
    ∃ answer, s.serve req clock fresh = (s, answered answer) := by
  obtain ⟨headers, hid⟩ := RequestId.assign_eq req (RequestId.adopt req fresh)
  by_cases hm : req.method = "OPTIONS"
  · exact ⟨_, by rw [serve, if_pos hm]⟩
  · rw [App.chain?, if_neg hm] at h
    simp only [serve, if_neg hm, hid]
    cases hr : s.app.route? req.path with
    | none => exact ⟨_, rfl⟩
    | some r =>
      rw [hr] at h
      simp only at h ⊢
      rcases he : r.endpoint? req.method with _ | c | answer
      · exact ⟨_, rfl⟩
      · simp [he] at h
      · exact ⟨_, rfl⟩

section Finish

variable (id method : String) (r : Response)

@[simp] theorem status_set (name value : String) : (r.set name value).status = r.status := rfl

@[simp] theorem body_set (name value : String) : (r.set name value).body = r.body := rfl

@[simp] theorem status_setAbsent (name value : String) :
    (r.setAbsent name value).status = r.status := by
  unfold Response.setAbsent
  split_ifs <;> rfl

@[simp] theorem body_setAbsent (name value : String) : (r.setAbsent name value).body = r.body := by
  unfold Response.setAbsent
  split_ifs <;> rfl

@[simp] theorem status_share : (share id r).status = r.status := by
  simp only [share, status_set, status_setAbsent]

@[simp] theorem body_share : (share id r).body = r.body := by
  simp only [share, body_set, body_setAbsent]

@[simp] theorem status_finish : (finish method r).status = r.status := by
  simp only [finish]
  split_ifs <;> simp

variable {method r}

theorem body_finish (h : method ≠ "HEAD") : (finish method r).body = r.body := by
  simp only [finish, if_neg h, body_setAbsent]

end Finish

end Service

end Turnstile
