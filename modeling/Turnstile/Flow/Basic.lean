import Turnstile.Flow.Context
import Turnstile.Flow.Effect
import Turnstile.Http.Message
import Turnstile.Token.Authenticator
import Turnstile.Users

/-! The computation that answers one request. It reads an environment, works on the context of the
request, gives off effects, and ends with a value, an error or a panic; the context and the effects
outlast a failure. -/

namespace Turnstile

/-- What a request finds and does not change. -/
structure Env where
  keys : KeyStore
  auth : Authenticator
  users : Users
  clock : Instant
  hostname : Option String
  telemetry : Telemetry

/-- A panic may carry no message. -/
inductive Failure
  | error (e : Error)
  | panic (message : Option String)
  deriving DecidableEq, Repr

structure Result (α : Type) where
  outcome : Except Failure α
  context : Context
  effects : List Effect

def Flow (α : Type) : Type := Env → Context → Result α

namespace Flow

instance : Monad Flow where
  pure a := fun _ c => ⟨.ok a, c, []⟩
  bind m f := fun env c =>
    let r := m env c
    match r.outcome with
    | .ok a =>
      let s := f a env r.context
      ⟨s.outcome, s.context, r.effects ++ s.effects⟩
    | .error e => ⟨.error e, r.context, r.effects⟩

theorem bind_apply {α β : Type} (m : Flow α) (f : α → Flow β) (env : Env) (c : Context) :
    (m >>= f) env c =
      match (m env c).outcome with
      | .ok a =>
        ⟨(f a env (m env c).context).outcome, (f a env (m env c).context).context,
          (m env c).effects ++ (f a env (m env c).context).effects⟩
      | .error e => ⟨.error e, (m env c).context, (m env c).effects⟩ := rfl

theorem bind_pure {α : Type} (m : Flow α) : m >>= pure = m := by
  funext env c
  rw [bind_apply]
  rcases m env c with ⟨_ | a, c', es⟩ <;> simp [pure]

theorem bind_assoc {α β γ : Type} (m : Flow α) (f : α → Flow β) (g : β → Flow γ) :
    m >>= f >>= g = m >>= fun a => f a >>= g := by
  funext env c
  simp only [bind_apply]
  rcases m env c with ⟨_ | a, c', es⟩
  · rfl
  · rcases h : f a env c' with ⟨_ | b, c'', es'⟩ <;> simp [h]

instance : LawfulMonad Flow := LawfulMonad.mk' Flow bind_pure (fun _ _ => rfl) bind_assoc

def raise {α : Type} (f : Failure) : Flow α := fun _ c => ⟨.error f, c, []⟩

def fail {α : Type} (e : Error) : Flow α := raise (.error e)

def panicWith {α : Type} (message : Option String) : Flow α := raise (.panic message)

/-- The outcome as a value. -/
def attempt {α : Type} (m : Flow α) : Flow (Except Failure α) := fun env c =>
  let r := m env c
  ⟨.ok r.outcome, r.context, r.effects⟩

def ofOutcome {α : Type} : Except Failure α → Flow α
  | .ok a => pure a
  | .error f => raise f

def ofExcept {α : Type} : Except Error α → Flow α
  | .ok a => pure a
  | .error e => fail e

def env : Flow Env := fun env c => ⟨.ok env, c, []⟩

def context : Flow Context := fun _ c => ⟨.ok c, c, []⟩

def emit (e : Effect) : Flow Unit := fun _ c => ⟨.ok (), c, [e]⟩

def log (e : Event) : Flow Unit := emit (.event e)

def note (line : String) : Flow Unit := emit (.note line)

def count (path : String) (ending : Ending) : Flow Unit := emit (.count path ending)

def values : Flow RequestValues := do ofExcept (← context).requireValues

def setStatus (status : Nat) : Flow Unit := fun _ c =>
  match c.setStatus status with
  | .ok c => ⟨.ok (), c, []⟩
  | .error e => ⟨.error (.error e), c, []⟩

def setClaims (claims : Claims) : Flow Unit := fun _ c => ⟨.ok (), c.setClaims claims, []⟩

section Equations

variable {α : Type} (env : Env) (c : Context)

@[simp] theorem pure_apply (a : α) : (pure a : Flow α) env c = ⟨.ok a, c, []⟩ := rfl

@[simp] theorem raise_apply (f : Failure) : (raise f : Flow α) env c = ⟨.error f, c, []⟩ := rfl

@[simp] theorem fail_apply (e : Error) : (fail e : Flow α) env c = ⟨.error (.error e), c, []⟩ := rfl

@[simp] theorem panicWith_apply (message : Option String) :
    (panicWith message : Flow α) env c = ⟨.error (.panic message), c, []⟩ := rfl

@[simp] theorem attempt_apply (m : Flow α) :
    attempt m env c = ⟨.ok (m env c).outcome, (m env c).context, (m env c).effects⟩ := rfl

@[simp] theorem ofOutcome_apply (o : Except Failure α) : ofOutcome o env c = ⟨o, c, []⟩ := by
  cases o <;> rfl

@[simp] theorem env_apply : Flow.env env c = ⟨.ok env, c, []⟩ := rfl

@[simp] theorem context_apply : context env c = ⟨.ok c, c, []⟩ := rfl

@[simp] theorem log_apply (e : Event) : log e env c = ⟨.ok (), c, [.event e]⟩ := rfl

@[simp] theorem note_apply (line : String) : note line env c = ⟨.ok (), c, [.note line]⟩ := rfl

@[simp] theorem count_apply (path : String) (ending : Ending) :
    count path ending env c = ⟨.ok (), c, [.count path ending]⟩ := rfl

theorem values_apply {v : RequestValues} (h : c.values = some v) :
    values env c = ⟨.ok v, c, []⟩ := by
  simp [values, bind_apply, Context.requireValues, h, ofExcept]

theorem setStatus_apply {v : RequestValues} (h : c.values = some v) (status : Nat) :
    setStatus status env c =
      ⟨.ok (), { c with values := some { v with status := some status } }, []⟩ := by
  simp [setStatus, Context.setStatus, h]

end Equations

/-- Records the status and answers with JSON; a status of no content has no body. -/
def respond (status : Nat) (body : Bytes) : Flow Response := do
  setStatus status
  pure (if status = 204 then Response.empty status else Response.json status body)

theorem respond_apply {env : Env} {c : Context} {v : RequestValues} (h : c.values = some v)
    (status : Nat) (body : Bytes) : respond status body env c =
      ⟨.ok (if status = 204 then Response.empty status else Response.json status body),
        { c with values := some { v with status := some status } }, []⟩ := by
  rw [respond, bind_apply, setStatus_apply env c h]
  rfl

end Flow

end Turnstile
