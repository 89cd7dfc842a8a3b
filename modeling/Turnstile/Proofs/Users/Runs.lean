import Turnstile.Proofs.Flow.Login
import Turnstile.Proofs.Text.Case

/-! Runs of a store of users. An account is what its creation and the last switch of it made of it,
it stays filed under its own email, and a password is judged by it alone. -/

namespace Turnstile

/-- The account after a switch, or as it is. -/
def Account.switch (a : Account) (enabled : Option Bool) : Account :=
  { a with user := { a.user with enabled := enabled.getD a.user.enabled } }

@[simp] theorem Account.switch_none (a : Account) : a.switch none = a := rfl

theorem Account.switch_switch (a : Account) (first later : Option Bool) :
    (a.switch first).switch later = a.switch (later.or first) := by
  cases later <;> rfl

namespace Users

theorem emailKey_emailKey (email : String) : emailKey (emailKey email) = emailKey email := by
  rw [emailKey, emailKey, Text.trim_lowercase_trim, Text.lowercase_lowercase]

/-- What can be done with a store; a query and a check of a password only look at it. -/
inductive Op
  | create (new : NewUser) (id : String) (salt : Bytes) (now : Instant)
  | setEnabled (email : String) (enabled : Bool)
  | query (email : String)
  | authenticate (email password : String) (now : Instant)

inductive Answer
  | created (r : Except UsersError User)
  | switched (r : Except UsersError Unit)
  | found (r : Except UsersError User)
  | verdict (r : Except UsersError Claims)

/-- An operation with its answer. -/
abbrev Entry := Op × Answer

def step (s : Users) : Op → Users × Answer
  | .create new id salt now =>
    match s.create new id salt now with
    | .ok (user, s') => (s', .created (.ok user))
    | .error e => (s, .created (.error e))
  | .setEnabled email enabled =>
    match s.setEnabled email enabled with
    | .ok s' => (s', .switched (.ok ()))
    | .error e => (s, .switched (.error e))
  | .query email => (s, .found (s.query email))
  | .authenticate email password now => (s, .verdict (s.authenticate email password now))

def run (s : Users) : List Op → Users
  | [] => s
  | op :: rest => run (s.step op).1 rest

def log (s : Users) : List Op → List Entry
  | [] => []
  | op :: rest => (op, (s.step op).2) :: log (s.step op).1 rest

/-! What a log tells of an account. -/

/-- The account that the entry created under the key. -/
def founded? (s : Users) (key : String) : Entry → Option Account
  | (.create new id salt now, .created (.ok _)) =>
    if emailKey new.email = key then some (s.prepare new id salt now) else none
  | _ => none

/-- What the entry switched the account under the key to. -/
def switched? (key : String) : Entry → Option Bool
  | (.setEnabled email enabled, .switched (.ok _)) =>
    if emailKey email = key then some enabled else none
  | _ => none

def lastSwitch? (key : String) (entries : List Entry) : Option Bool :=
  entries.reverse.findSome? (switched? key)

def isCreation : Entry → Bool
  | (_, .created (.ok _)) => true
  | _ => false

theorem lastSwitch?_cons (key : String) (e : Entry) (rest : List Entry) :
    lastSwitch? key (e :: rest) = (lastSwitch? key rest).or (switched? key e) := by
  rw [lastSwitch?, List.reverse_cons, List.findSome?_append, List.findSome?_singleton]
  rfl

theorem switched?_eq_some {key : String} {op : Op} {answer : Answer} {enabled : Bool}
    (h : switched? key (op, answer) = some enabled) :
    ∃ email, op = .setEnabled email enabled ∧ emailKey email = key := by
  unfold switched? at h
  split at h
  · rename_i heq
    obtain ⟨rfl, -⟩ := Prod.mk.inj heq
    split_ifs at h with hkey
    obtain rfl := Option.some.inj h
    exact ⟨_, rfl, hkey⟩
  · simp at h

theorem founded?_eq_some_iff {s : Users} {key : String} {e : Entry} {a : Account} :
    s.founded? key e = some a ↔
      ∃ added id salt now user, e = (.create added id salt now, .created (.ok user)) ∧
        emailKey added.email = key ∧ a = s.prepare added id salt now := by
  refine ⟨?_, ?_⟩
  · intro h
    unfold founded? at h
    split at h
    · split_ifs at h with hkey
      exact ⟨_, _, _, _, _, rfl, hkey, (Option.some.inj h).symm⟩
    · simp at h
  · rintro ⟨added, id, salt, now, user, rfl, hkey, rfl⟩
    simp only [founded?, if_pos hkey]

/-! What one operation does. -/

section Step

variable {s : Users} {new : NewUser} {id email key : String} {salt : Bytes} {now : Instant}
  {enabled : Bool} {a : Account}

theorem step_create_of_taken (h : s.accounts[emailKey new.email]? = some a) (id : String)
    (salt : Bytes) (now : Instant) : s.step (.create new id salt now) =
      (s, .created (.error (.duplicateEmail (emailKey new.email)))) := by
  have htaken : emailKey new.email ∈ s.accounts :=
    Std.TreeMap.mem_iff_isSome_getElem?.2 (by rw [h]; rfl)
  simp [step, create, prepare, register, htaken, Except.map]

theorem create_of_free (h : s.accounts[emailKey new.email]? = none) (id : String) (salt : Bytes)
    (now : Instant) : s.create new id salt now = .ok ((s.prepare new id salt now).user,
      { s with accounts :=
        s.accounts.insert (emailKey new.email) (s.prepare new id salt now) }) := by
  have hfree : emailKey new.email ∉ s.accounts := by
    rw [Std.TreeMap.mem_iff_isSome_getElem?, h]
    simp
  simp [create, prepare, register, hfree, Except.map]

theorem step_create_of_free (h : s.accounts[emailKey new.email]? = none) (id : String)
    (salt : Bytes) (now : Instant) : s.step (.create new id salt now) =
      ({ s with accounts := s.accounts.insert (emailKey new.email) (s.prepare new id salt now) },
        .created (.ok (s.prepare new id salt now).user)) := by
  simp only [step, create_of_free h]

theorem step_setEnabled_of_absent (h : s.accounts[emailKey email]? = none) (enabled : Bool) :
    s.step (.setEnabled email enabled) = (s, .switched (.error .notFound)) := by
  simp [step, setEnabled, account?, h]

theorem step_setEnabled_of_found (h : s.accounts[emailKey email]? = some a) (enabled : Bool) :
    s.step (.setEnabled email enabled) =
      ({ s with accounts := s.accounts.insert (emailKey email) (a.switch (some enabled)) },
        .switched (.ok ())) := by
  simp [step, setEnabled, account?, h, Account.switch]

theorem accounts_insert (accounts : Std.TreeMap String Account) (k key : String) (a : Account) :
    (accounts.insert k a)[key]? = if k = key then some a else accounts[key]? := by
  simp [Std.TreeMap.getElem?_insert]

/-- Only the accounts change. -/
theorem step_frame (s : Users) (op : Op) :
    (s.step op).1 = { s with accounts := (s.step op).1.accounts } := by
  cases op with
  | create new id salt now =>
    cases h : s.accounts[emailKey new.email]? with
    | some a => rw [step_create_of_taken h]
    | none => rw [step_create_of_free h]
  | setEnabled email enabled =>
    cases h : s.accounts[emailKey email]? with
    | some a => rw [step_setEnabled_of_found h]
    | none => rw [step_setEnabled_of_absent h]
  | query email => rfl
  | authenticate email password now => rfl

/-- An account is there before, or the operation creates it; then it may be switched. -/
theorem accounts_step (s : Users) (op : Op) (key : String) : (s.step op).1.accounts[key]? =
    ((s.accounts[key]?).or (s.founded? key (op, (s.step op).2))).map
      (·.switch (switched? key (op, (s.step op).2))) := by
  cases op with
  | create new id salt now =>
    cases h : s.accounts[emailKey new.email]? with
    | some a => simp [step_create_of_taken h, founded?, switched?]
    | none =>
      rw [step_create_of_free h, accounts_insert]
      simp only [founded?, switched?]
      split_ifs with hkey
      · subst hkey
        simp [h]
      · simp
  | setEnabled email enabled =>
    cases h : s.accounts[emailKey email]? with
    | none => simp [step_setEnabled_of_absent h, founded?, switched?]
    | some a =>
      rw [step_setEnabled_of_found h, accounts_insert]
      simp only [founded?, switched?, Option.or_none]
      split_ifs with hkey
      · subst hkey
        simp [h]
      · simp
  | query email => simp [step, founded?, switched?]
  | authenticate email password now => simp [step, founded?, switched?]

theorem switched?_of_absent (h : s.accounts[key]? = none) (op : Op) :
    switched? key (op, (s.step op).2) = none := by
  cases op with
  | create new id salt now => rfl
  | setEnabled email enabled =>
    cases hfound : s.accounts[emailKey email]? with
    | none => rw [step_setEnabled_of_absent hfound]; rfl
    | some a =>
      have hne : emailKey email ≠ key := by
        rintro rfl
        simp [hfound] at h
      rw [step_setEnabled_of_found hfound]
      simp only [switched?, if_neg hne]
  | query email => rfl
  | authenticate email password now => rfl

theorem founded?_of_present (h : s.accounts[key]? = some a) (op : Op) :
    s.founded? key (op, (s.step op).2) = none := by
  cases op with
  | create new id salt now =>
    cases hfound : s.accounts[emailKey new.email]? with
    | some a => rw [step_create_of_taken hfound]; rfl
    | none =>
      have hne : emailKey new.email ≠ key := by
        rintro rfl
        simp [hfound] at h
      rw [step_create_of_free hfound]
      simp only [founded?, if_neg hne]
  | setEnabled email enabled => rfl
  | query email => rfl
  | authenticate email password now => rfl

theorem size_step (s : Users) (op : Op) : (s.step op).1.size =
    s.size + if isCreation (op, (s.step op).2) then 1 else 0 := by
  cases op with
  | create new id salt now =>
    cases h : s.accounts[emailKey new.email]? with
    | some a => rw [step_create_of_taken h]; rfl
    | none =>
      have hfree : emailKey new.email ∉ s.accounts := by
        rw [Std.TreeMap.mem_iff_isSome_getElem?, h]
        simp
      rw [step_create_of_free h]
      simp [size, isCreation, Std.TreeMap.size_insert, hfree]
  | setEnabled email enabled =>
    cases h : s.accounts[emailKey email]? with
    | none => rw [step_setEnabled_of_absent h]; rfl
    | some a =>
      have hpresent : emailKey email ∈ s.accounts :=
        Std.TreeMap.mem_iff_isSome_getElem?.2 (by rw [h]; rfl)
      rw [step_setEnabled_of_found h]
      simp [size, isCreation, Std.TreeMap.size_insert, hpresent]
  | query email => rfl
  | authenticate email password now => rfl

end Step

/-! What a run leaves. -/

section Run

variable (s : Users) (key : String)

theorem founded?_step (op : Op) : (s.step op).1.founded? key = s.founded? key := by
  rw [step_frame]
  rfl

theorem run_frame (ops : List Op) : s.run ops = { s with accounts := (s.run ops).accounts } := by
  induction ops generalizing s with
  | nil => rfl
  | cons op rest ih =>
    rw [run, ih, step_frame]

theorem run_append (ops later : List Op) : s.run (ops ++ later) = (s.run ops).run later := by
  induction ops generalizing s with
  | nil => rfl
  | cons op rest ih => exact ih (s.step op).1

theorem log_append (ops later : List Op) :
    s.log (ops ++ later) = s.log ops ++ (s.run ops).log later := by
  induction ops generalizing s with
  | nil => rfl
  | cons op rest ih => exact congrArg ((op, (s.step op).2) :: ·) (ih (s.step op).1)

theorem length_log (ops : List Op) : (s.log ops).length = ops.length := by
  induction ops generalizing s with
  | nil => rfl
  | cons op rest ih => exact congrArg (· + 1) (ih (s.step op).1)

theorem prepare_run (ops : List Op) (added : NewUser) (id : String) (salt : Bytes)
    (now : Instant) : (s.run ops).prepare added id salt now = s.prepare added id salt now := by
  rw [run_frame]
  rfl

theorem verdict_run (ops : List Op) (found : Option Account) (password : String) (now : Instant) :
    (s.run ops).verdict found password now = s.verdict found password now := by
  rw [run_frame]
  rfl

theorem size_run (ops : List Op) : (s.run ops).size = s.size + (s.log ops).countP isCreation := by
  induction ops generalizing s with
  | nil => rfl
  | cons op rest ih =>
    rw [run, log, ih, size_step, List.countP_cons, Nat.add_right_comm, Nat.add_assoc]

/-- The first creation under the key and the last switch of it make the account. -/
theorem accounts_run (ops : List Op) : (s.run ops).accounts[key]? =
    ((s.accounts[key]?).or ((s.log ops).findSome? (s.founded? key))).map
      (·.switch (lastSwitch? key (s.log ops))) := by
  induction ops generalizing s with
  | nil => simp [run, log, lastSwitch?]
  | cons op rest ih =>
    rw [run, log, ih, accounts_step, founded?_step, List.findSome?_cons, lastSwitch?_cons]
    cases hthere : s.accounts[key]? with
    | some a =>
      simp [founded?_of_present hthere, Account.switch_switch]
    | none =>
      cases hfounded : s.founded? key (op, (s.step op).2) with
      | some a => simp [Account.switch_switch]
      | none => simp [switched?_of_absent hthere]

/-- Where an account is, none is created. -/
theorem founded?_of_mem_log {a : Account} (h : s.accounts[key]? = some a) {ops : List Op}
    {e : Entry} (he : e ∈ s.log ops) : s.founded? key e = none := by
  induction ops generalizing s a with
  | nil => simp [log] at he
  | cons op rest ih =>
    rcases List.mem_cons.1 he with rfl | he
    · exact founded?_of_present h op
    · have hstep := accounts_step s op key
      rw [h, Option.some_or, Option.map_some] at hstep
      rw [← founded?_step s key op]
      exact ih _ hstep he

/-- There is one creation under a key at most. -/
theorem findSome?_founded?_iff (h : s.accounts[key]? = none) (ops : List Op) (a : Account) :
    (s.log ops).findSome? (s.founded? key) = some a ↔
      ∃ e ∈ s.log ops, s.founded? key e = some a := by
  induction ops generalizing s with
  | nil => simp [log]
  | cons op rest ih =>
    have hstep := accounts_step s op key
    rw [h, Option.none_or, switched?_of_absent h] at hstep
    have hlater : ∀ e, (s.step op).1.founded? key e = s.founded? key e := fun e => by
      rw [founded?_step]
    rw [log, List.findSome?_cons]
    simp only [List.mem_cons, exists_eq_or_imp]
    cases hfounded : s.founded? key (op, (s.step op).2) with
    | none =>
      rw [hfounded] at hstep
      have hrest := ih (s.step op).1 hstep
      simp only [hlater, funext hlater] at hrest
      simp [hrest]
    | some b =>
      rw [hfounded] at hstep
      have hnone : ∀ e ∈ (s.step op).1.log rest, s.founded? key e = none := by
        intro e he
        rw [← hlater]
        exact founded?_of_mem_log _ key hstep he
      refine ⟨fun heq => Or.inl heq, ?_⟩
      rintro (heq | ⟨e, he, hfound⟩)
      · exact heq
      · simp [hnone e he] at hfound

end Run

/-! What one entry of a log says. -/

section Log

variable {s : Users} {key : String} {ops : List Op} {op : Op} {answer : Answer}

theorem exists_split_of_mem_log (h : (op, answer) ∈ s.log ops) :
    ∃ before later, ops = before ++ op :: later ∧ answer = ((s.run before).step op).2 := by
  induction ops generalizing s with
  | nil => simp [log] at h
  | cons op' rest ih =>
    rcases List.mem_cons.1 h with heq | h
    · obtain ⟨rfl, rfl⟩ := Prod.mk.inj heq
      exact ⟨[], rest, rfl, rfl⟩
    · obtain ⟨before, later, rfl, hanswer⟩ := ih h
      exact ⟨op' :: before, later, rfl, hanswer⟩

theorem created_of_mem_log {added : NewUser} {id : String} {salt : Bytes} {now : Instant}
    {r : Except UsersError User} (h : (.create added id salt now, .created r) ∈ s.log ops) :
    r = .ok (s.prepare added id salt now).user ∨
      r = .error (.duplicateEmail (emailKey added.email)) := by
  obtain ⟨before, later, rfl, hanswer⟩ := exists_split_of_mem_log h
  cases hthere : (s.run before).accounts[emailKey added.email]? with
  | some a =>
    rw [step_create_of_taken hthere] at hanswer
    exact Or.inr (Answer.created.inj hanswer)
  | none =>
    rw [step_create_of_free hthere, prepare_run] at hanswer
    exact Or.inl (Answer.created.inj hanswer)

theorem user_of_mem_log {added : NewUser} {id : String} {salt : Bytes} {now : Instant} {user : User}
    (h : (.create added id salt now, .created (.ok user)) ∈ s.log ops) :
    user = (s.prepare added id salt now).user := by
  rcases created_of_mem_log h with hok | herror
  · exact Except.ok.inj hok
  · simp at herror

theorem isSome_run (h : (s.accounts[key]?).isSome = true) (ops : List Op) :
    ((s.run ops).accounts[key]?).isSome = true := by
  obtain ⟨a, ha⟩ := Option.isSome_iff_exists.1 h
  rw [accounts_run, ha]
  rfl

theorem isSome_step_create (s : Users) (added : NewUser) (id : String) (salt : Bytes)
    (now : Instant) :
    ((s.step (.create added id salt now)).1.accounts[emailKey added.email]?).isSome = true := by
  cases h : s.accounts[emailKey added.email]? with
  | some a =>
    rw [step_create_of_taken h, h]
    rfl
  | none =>
    rw [step_create_of_free h, accounts_insert, if_pos rfl]
    rfl

theorem isSome_of_create_mem_log {added : NewUser} {id : String} {salt : Bytes} {now : Instant}
    (h : (.create added id salt now, answer) ∈ s.log ops) :
    ((s.run ops).accounts[emailKey added.email]?).isSome = true := by
  obtain ⟨before, later, rfl, -⟩ := exists_split_of_mem_log h
  rw [run_append]
  exact isSome_run (isSome_step_create _ added id salt now) later

/-- Two entries of a log do not both create the account. -/
theorem pairwise_founded (s : Users) (key : String) (ops : List Op) :
    (s.log ops).Pairwise fun e e' =>
      ¬ ((s.founded? key e).isSome = true ∧ (s.founded? key e').isSome = true) := by
  induction ops generalizing s with
  | nil => exact List.Pairwise.nil
  | cons op rest ih =>
    have hrest := ih (s.step op).1
    rw [founded?_step] at hrest
    refine List.pairwise_cons.2 ⟨?_, hrest⟩
    intro e he hboth
    obtain ⟨a, ha⟩ := Option.isSome_iff_exists.1 hboth.1
    have hthere : ((s.step op).1.accounts[key]?).isSome = true := by
      rw [accounts_step, ha]
      cases s.accounts[key]? <;> rfl
    obtain ⟨a', ha'⟩ := Option.isSome_iff_exists.1 hthere
    have hlater := hboth.2
    rw [← founded?_step s key op, founded?_of_mem_log _ key ha' he] at hlater
    simp at hlater

end Log

end Users

end Turnstile
