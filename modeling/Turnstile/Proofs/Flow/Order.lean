import Turnstile.Flow.Probe

/-! In what order a chain runs. A layer either records on the way in and on the way out, and leaves
the outcome alone, or stops the request with an answer of its own. -/

namespace Turnstile

inductive Layer
  | records (entry : Request → Context → List Effect)
      (exit : Request → Context → Except Failure Response → List Effect)
  | stops (answer : Handler)

namespace Layer

def intercept : Layer → Interceptor
  | records entry exit => fun next req env c =>
    let r := next req env c
    ⟨r.outcome, r.context, entry req c ++ r.effects ++ exit req r.context r.outcome⟩
  | stops answer => fun _ => answer

def passes : Layer → Bool
  | records _ _ => true
  | stops _ => false

/-- What a layer records before it calls what is behind it. -/
def entry (req : Request) (c : Context) : Layer → List Effect
  | records entry _ => entry req c
  | stops _ => []

/-- What a layer records once that has returned. -/
def exit (req : Request) (c : Context) (outcome : Except Failure Response) : Layer → List Effect
  | records _ exit => exit req c outcome
  | stops _ => []

/-- The layers outside the first one that stops. -/
def entered (ls : List Layer) : List Layer := ls.takeWhile passes

/-- What answers inside the layers entered. -/
def innermost : List Layer → Handler → Handler
  | [], h => h
  | records _ _ :: ls, h => innermost ls h
  | stops answer :: _, _ => answer

@[simp] theorem intercept_records_apply (entry : Request → Context → List Effect)
    (exit : Request → Context → Except Failure Response → List Effect) (next : Handler)
    (req : Request) (env : Env) (c : Context) :
    (records entry exit).intercept next req env c =
      ⟨(next req env c).outcome, (next req env c).context,
        entry req c ++ (next req env c).effects ++
          exit req (next req env c).context (next req env c).outcome⟩ := rfl

@[simp] theorem intercept_stops (answer next : Handler) : (stops answer).intercept next = answer :=
  rfl

@[simp] theorem entered_records (entry : Request → Context → List Effect)
    (exit : Request → Context → Except Failure Response → List Effect) (ls : List Layer) :
    entered (records entry exit :: ls) = records entry exit :: entered ls := rfl

@[simp] theorem entered_stops (answer : Handler) (ls : List Layer) :
    entered (stops answer :: ls) = [] := rfl

section Prefix

variable {before : List Layer} (hbefore : ∀ l ∈ before, l.passes = true)

include hbefore

theorem entered_append (behind : List Layer) :
    entered (before ++ behind) = before ++ entered behind :=
  List.takeWhile_append_of_pos hbefore

theorem innermost_append (behind : List Layer) (h : Handler) :
    innermost (before ++ behind) h = innermost behind h := by
  induction before with
  | nil => rfl
  | cons l before ih =>
    have hl := hbefore l List.mem_cons_self
    cases l with
    | records entry exit => exact ih fun l' hl' => hbefore l' (List.mem_cons_of_mem _ hl')
    | stops answer => simp [passes] at hl

end Prefix

/-- The layer that notes when it is entered and how it is left. A panic goes through it unnoted. -/
def recorder (name : String) : Layer :=
  .records (fun _ _ => [.note s!"{name} before"]) fun _ _ outcome =>
    match outcome with
    | .ok _ => [.note s!"{name} after ok"]
    | .error (.error _) => [.note s!"{name} after err"]
    | .error (.panic _) => []

end Layer

namespace Chain

theorem run_cons (i : Interceptor) (is : List Interceptor) (h : Handler) :
    (Chain.mk (i :: is) h).run = i (Chain.mk is h).run := rfl

theorem run_append (is js : List Interceptor) (h : Handler) :
    (Chain.mk (is ++ js) h).run = (Chain.mk is (Chain.mk js h).run).run :=
  List.foldr_append

theorem run_layers (ls : List Layer) (h : Handler) (req : Request) (env : Env) (c : Context) :
    let inner := Layer.innermost ls h req env c
    (Chain.mk (ls.map Layer.intercept) h).run req env c =
      ⟨inner.outcome, inner.context,
        (Layer.entered ls).flatMap (Layer.entry req c) ++ inner.effects ++
          (Layer.entered ls).reverse.flatMap (Layer.exit req inner.context inner.outcome)⟩ := by
  induction ls with
  | nil => simp [Layer.innermost, Layer.entered, Chain.run]
  | cons l ls ih =>
    cases l with
    | stops answer => simp [Layer.innermost, run_cons]
    | records entry exit =>
      rw [List.map_cons, run_cons, Layer.intercept_records_apply, ih]
      simp [Layer.innermost, Layer.entry, Layer.exit]

/-- Nothing behind a layer that stops bears on the run. -/
theorem run_stops (before : List Interceptor) (answer : Handler) (behind behind' : List Interceptor)
    (h h' : Handler) :
    (Chain.mk (before ++ (Layer.stops answer).intercept :: behind) h).run =
      (Chain.mk (before ++ (Layer.stops answer).intercept :: behind') h').run := by
  rw [run_append, run_append, run_cons, run_cons, Layer.intercept_stops, Layer.intercept_stops]

/-- What was entered records in the order of the list and then, once the innermost has answered, in
the reverse order. The last part holds of any interceptors. -/
theorem run_orders_layers (g r : List Layer) (h : Handler) :
    (∀ req env c, let inner := Layer.innermost (g ++ r) h req env c
      (Chain.new (g.map Layer.intercept) (r.map Layer.intercept) h).run req env c =
        ⟨inner.outcome, inner.context,
          (Layer.entered (g ++ r)).flatMap (Layer.entry req c) ++ inner.effects ++
            (Layer.entered (g ++ r)).reverse.flatMap
              (Layer.exit req inner.context inner.outcome)⟩) ∧
    ((∀ l ∈ g ++ r, l.passes = true) →
      Layer.entered (g ++ r) = g ++ r ∧ Layer.innermost (g ++ r) h = h) ∧
    (∀ before answer behind, g ++ r = before ++ .stops answer :: behind →
      (∀ l ∈ before, l.passes = true) →
      Layer.entered (g ++ r) = before ∧ Layer.innermost (g ++ r) h = answer ∧
      ∀ (behind' : List Interceptor) (h' : Handler),
        (Chain.new (g.map Layer.intercept) (r.map Layer.intercept) h).run =
          (Chain.mk (before.map Layer.intercept ++ (Layer.stops answer).intercept :: behind')
            h').run) ∧
    ∀ is js outer inner : List Interceptor, is ++ js = outer ++ inner →
      (Chain.new is js h).run = (Chain.new outer [] (Chain.new [] inner h).run).run := by
  refine ⟨?_, ?_, ?_, ?_⟩
  · intro req env c
    rw [Chain.new, ← List.map_append]
    exact run_layers (g ++ r) h req env c
  · intro hpasses
    have hentered := Layer.entered_append hpasses []
    have hinnermost := Layer.innermost_append hpasses [] h
    rw [List.append_nil] at hentered hinnermost
    exact ⟨hentered.trans (List.append_nil _), hinnermost⟩
  · intro before answer behind hsplit hbefore
    rw [hsplit]
    refine ⟨?_, Layer.innermost_append hbefore _ h, ?_⟩
    · rw [Layer.entered_append hbefore, Layer.entered_stops, List.append_nil]
    · intro behind' h'
      rw [Chain.new, ← List.map_append, hsplit, List.map_append, List.map_cons]
      apply run_stops
  · intro is js outer inner hsplit
    rw [Chain.new, hsplit, run_append, Chain.new, List.append_nil]
    rfl

theorem run_orders_layers_rejected :
    let reject : Layer := .stops fun _ => Flow.fail (.request Middleware.noClaims)
    let outer := Layer.recorder "outer"
    let inner := Layer.recorder "inner"
    let h := ProbeHandler.handle .echo
    Layer.entered [outer, reject, inner] = [outer] ∧
      (Chain.new [outer.intercept] [reject.intercept, inner.intercept] h).run =
        (Chain.new [outer.intercept] [reject.intercept] fun _ => Flow.panicWith none).run ∧
      Layer.innermost [outer, inner] h = h ∧
      (Chain.new [outer.intercept] [inner.intercept] h).run =
        (Chain.new [] [] (Chain.new [] [outer.intercept, inner.intercept] h).run).run := by
  intro reject outer inner h
  obtain ⟨-, -, hstops, hsplit⟩ := run_orders_layers [outer] [reject, inner] h
  obtain ⟨hentered, -, hrun⟩ :=
    hstops [outer] _ [inner] rfl (by simp [outer, Layer.recorder, Layer.passes])
  refine ⟨hentered, hrun [] _, ?_, hsplit _ _ [] _ rfl⟩
  exact ((run_orders_layers [outer] [inner] h).2.1
    (by simp [outer, inner, Layer.recorder, Layer.passes])).2

example (req : Request) (env : Env) (c : Context) (e : Error) :
    ((Chain.new ([.record "g1", .record "g2"].map Probe.intercept) [(Probe.record "r1").intercept]
      (ProbeHandler.error e).handle).run req env c).effects =
      [.note "g1 before", .note "g2 before", .note "r1 before", .note "handler",
        .note "r1 after err", .note "g2 after err", .note "g1 after err"] := rfl

end Chain

end Turnstile
