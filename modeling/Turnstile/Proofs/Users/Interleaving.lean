import Turnstile.Proofs.Users.Runs

/-! A store that many callers use at once. Passwords are hashed while others have the lock, so a
creation and a check of a password take two steps each, with steps of other calls in between. Still
every call comes out as if it had run alone, at the place of its one step under the lock. -/

namespace Turnstile.Users

/-- How far a call has got: a new account waits to be filed, an account that was looked up waits for
the check of its password. -/
inductive Stage
  | begun (op : Op)
  | hashed (a : Account)
  | looked (found : Option Account) (password : String) (now : Instant)
  | returned (answer : Answer)

/-- The next step of a call. -/
def advance (s : Users) : Stage → Users × Stage
  | .begun (.create added id salt now) => (s, .hashed (s.prepare added id salt now))
  | .begun (.authenticate email password now) => (s, .looked (s.account? email) password now)
  | .begun op => ((s.step op).1, .returned (s.step op).2)
  | .hashed a =>
    match s.register a with
    | .ok s' => (s', .returned (.created (.ok a.user)))
    | .error e => (s, .returned (.created (.error e)))
  | .looked found password now => (s, .returned (.verdict (s.verdict found password now)))
  | .returned answer => (s, .returned answer)

/-- The next step is the one under the lock. -/
def Stage.locks : Stage → Bool
  | begun (.create ..) => false
  | begun _ => true
  | hashed _ => true
  | _ => false

structure Call where
  op : Op
  stage : Stage

/-- A store and the calls that were made on it, the oldest first. -/
structure Shared where
  store : Users
  calls : List Call

/-- A call is made, or one that was made takes its next step. -/
inductive Move
  | call (op : Op)
  | advance (i : ℕ)

namespace Shared

def new (s : Users) : Shared := ⟨s, []⟩

def step (w : Shared) : Move → Shared
  | .call op => { w with calls := w.calls ++ [⟨op, .begun op⟩] }
  | .advance i =>
    match w.calls[i]? with
    | none => w
    | some c =>
      ⟨(w.store.advance c.stage).1, w.calls.set i ⟨c.op, (w.store.advance c.stage).2⟩⟩

def run (w : Shared) : List Move → Shared
  | [] => w
  | m :: rest => run (w.step m) rest

/-- The call that the move gives the lock to. -/
def locked? (w : Shared) : Move → Option (ℕ × Op)
  | .call _ => none
  | .advance i => (w.calls[i]?.filter (·.stage.locks)).map fun c => (i, c.op)

/-- The calls in the order in which they have the lock. -/
def order (w : Shared) : List Move → List (ℕ × Op)
  | [] => []
  | m :: rest => (w.locked? m).toList ++ (w.step m).order rest

theorem run_append (w : Shared) (before after : List Move) :
    w.run (before ++ after) = (w.run before).run after := by
  induction before generalizing w with
  | nil => rfl
  | cons m rest ih => exact ih (w.step m)

end Shared

/-! One call after the other. -/

section Serial

variable (s : Users)

/-- The calls with the answers that they get when each runs alone, in the order. -/
def serial (order : List (ℕ × Op)) : List (ℕ × Entry) :=
  (order.map (·.1)).zip (s.log (order.map (·.2)))

theorem serial_append (order later : List (ℕ × Op)) : s.serial (order ++ later) =
    s.serial order ++ (s.run (order.map (·.2))).serial later := by
  rw [serial, List.map_append, List.map_append, log_append]
  refine List.zip_append ?_
  rw [length_log, List.length_map, List.length_map]

theorem serial_singleton (i : ℕ) (op : Op) :
    s.serial [(i, op)] = [(i, op, (s.step op).2)] := rfl

theorem run_concat (order : List (ℕ × Op)) (i : ℕ) (op : Op) :
    s.run ((order ++ [(i, op)]).map (·.2)) = ((s.run (order.map (·.2))).step op).1 := by
  rw [List.map_append, run_append]
  rfl

/-- The last call has its answer from the store that the others have left. -/
theorem mem_serial_concat (order : List (ℕ × Op)) (i : ℕ) (op : Op) :
    (i, op, ((s.run (order.map (·.2))).step op).2) ∈ s.serial (order ++ [(i, op)]) := by
  rw [serial_append, serial_singleton]
  exact List.mem_append_right _ List.mem_cons_self

theorem map_fst_serial (order : List (ℕ × Op)) : (s.serial order).map (·.1) = order.map (·.1) := by
  rw [serial, List.map_fst_zip]
  rw [length_log, List.length_map, List.length_map]

theorem map_snd_serial (order : List (ℕ × Op)) :
    (s.serial order).map (·.2) = s.log (order.map (·.2)) := by
  rw [serial, List.map_snd_zip]
  rw [length_log, List.length_map, List.length_map]

end Serial

/-- Filing an account that was made ready before is creating it now. -/
theorem advance_hashed (s : Users) (added : NewUser) (id : String) (salt : Bytes) (now : Instant) :
    s.advance (.hashed (s.prepare added id salt now)) =
      ((s.step (.create added id salt now)).1,
        .returned (s.step (.create added id salt now)).2) := by
  simp only [advance, step, create]
  cases s.register (s.prepare added id salt now) with
  | ok s' => rfl
  | error e => rfl

/-- Where a call stands to the calls that have had the lock: before its own step it is not among
them, and afterwards its answer is fixed. -/
inductive Placed (s : Users) (order : List (ℕ × Op)) (i : ℕ) : Call → Prop
  | begun {op : Op} (h : i ∉ order.map (·.1)) : Placed s order i ⟨op, .begun op⟩
  | hashed {added : NewUser} {id : String} {salt : Bytes} {now : Instant}
    (h : i ∉ order.map (·.1)) :
    Placed s order i ⟨.create added id salt now, .hashed (s.prepare added id salt now)⟩
  | looked {email password : String} {now : Instant} {found : Option Account}
    (h : (i, .authenticate email password now, .verdict (s.verdict found password now)) ∈
      s.serial order) :
    Placed s order i ⟨.authenticate email password now, .looked found password now⟩
  | returned {op : Op} {answer : Answer} (h : (i, op, answer) ∈ s.serial order) :
    Placed s order i ⟨op, .returned answer⟩

/-- The calls have come as far as if each had run alone, in the order. -/
structure Linearizes (s : Users) (order : List (ℕ × Op)) (w : Shared) : Prop where
  store : w.store = s.run (order.map (·.2))
  once : (order.map (·.1)).Nodup
  made : ∀ i op, (i, op) ∈ order → ∃ stage, w.calls[i]? = some ⟨op, stage⟩
  placed : ∀ i c, w.calls[i]? = some c → Placed s order i c

section Step

variable {s : Users} {order : List (ℕ × Op)} {i j : ℕ} {c : Call} {op : Op}

theorem Placed.concat (h : Placed s order j c) (hne : j ≠ i) (op : Op) :
    Placed s (order ++ [(i, op)]) j c := by
  have hfresh : j ∉ order.map (·.1) → j ∉ (order ++ [(i, op)]).map (·.1) := by
    intro hj
    rw [List.map_append, List.mem_append, not_or]
    exact ⟨hj, by simpa using hne⟩
  have hserial : ∀ x ∈ s.serial order, x ∈ s.serial (order ++ [(i, op)]) := by
    intro x hx
    rw [serial_append]
    exact List.mem_append_left _ hx
  cases h with
  | begun h => exact .begun (hfresh h)
  | hashed h => exact .hashed (hfresh h)
  | looked h => exact .looked (hserial _ h)
  | returned h => exact .returned (hserial _ h)

/-- Without the lock a step leaves the store as it is, and its own place to the call. -/
theorem Placed.advance_of_not_locks (h : Placed s order i c) (hl : c.stage.locks = false) :
    ((s.run (order.map (·.2))).advance c.stage).1 = s.run (order.map (·.2)) ∧
      Placed s order i ⟨c.op, ((s.run (order.map (·.2))).advance c.stage).2⟩ := by
  cases h with
  | @begun op h =>
    cases op with
    | create added id salt now =>
      refine ⟨rfl, ?_⟩
      -- What is hashed depends on nothing that another call changes.
      rw [advance, prepare_run]
      exact .hashed h
    | setEnabled email enabled => simp [Stage.locks] at hl
    | query email => simp [Stage.locks] at hl
    | authenticate email password now => simp [Stage.locks] at hl
  | hashed h => simp [Stage.locks] at hl
  | looked h =>
    refine ⟨rfl, ?_⟩
    rw [advance, verdict_run]
    exact .returned h
  | returned h => exact ⟨rfl, .returned h⟩

/-- Under the lock a step does to the store what the call does alone. -/
theorem Placed.advance_of_locks (h : Placed s order i c) (hl : c.stage.locks = true) :
    i ∉ order.map (·.1) ∧ ((s.run (order.map (·.2))).advance c.stage).1 =
        s.run ((order ++ [(i, c.op)]).map (·.2)) ∧
      Placed s (order ++ [(i, c.op)]) i ⟨c.op, ((s.run (order.map (·.2))).advance c.stage).2⟩ := by
  have hserial := s.mem_serial_concat order i c.op
  rw [run_concat]
  cases h with
  | @begun op h =>
    cases op with
    | create added id salt now => simp [Stage.locks] at hl
    | setEnabled email enabled => exact ⟨h, rfl, .returned hserial⟩
    | query email => exact ⟨h, rfl, .returned hserial⟩
    | authenticate email password now =>
      refine ⟨h, rfl, .looked ?_⟩
      rw [← verdict_run s (order.map (·.2))]
      exact hserial
  | hashed h =>
    rw [← prepare_run s (order.map (·.2)), advance_hashed]
    exact ⟨h, rfl, .returned hserial⟩
  | looked h => simp [Stage.locks] at hl
  | returned h => simp [Stage.locks] at hl

variable {w : Shared}

theorem linearizes_new (s : Users) : Linearizes s [] (Shared.new s) where
  store := rfl
  once := List.nodup_nil
  made _ _ h := absurd h List.not_mem_nil
  placed i c h := by simp [Shared.new] at h

theorem Linearizes.call (h : Linearizes s order w) (op : Op) :
    Linearizes s order (w.step (.call op)) where
  store := h.store
  once := h.once
  made i op' hi := by
    obtain ⟨stage, hstage⟩ := h.made i op' hi
    obtain ⟨hlt, -⟩ := List.getElem?_eq_some_iff.1 hstage
    exact ⟨stage, (List.getElem?_append_left hlt).trans hstage⟩
  placed i c hc := by
    rcases Nat.lt_trichotomy i w.calls.length with hlt | rfl | hgt
    · rw [Shared.step, List.getElem?_append_left hlt] at hc
      exact h.placed i c hc
    · rw [Shared.step, List.getElem?_concat_length] at hc
      obtain rfl := Option.some.inj hc
      -- Only calls that were made have had the lock, so the new one has not.
      refine .begun fun hi => ?_
      obtain ⟨⟨i, op'⟩, hmem, heq⟩ := List.mem_map.1 hi
      obtain ⟨stage, hstage⟩ := h.made i op' hmem
      obtain ⟨hlt, -⟩ := List.getElem?_eq_some_iff.1 hstage
      exact absurd heq hlt.ne
    · rw [Shared.step, List.getElem?_eq_none (by simp; omega)] at hc
      simp at hc

/-- One call has moved on, to a store and a place that fit. -/
theorem Linearizes.set {order' : List (ℕ × Op)} {store : Users} {stage : Stage}
    (h : Linearizes s order w) (hc : w.calls[i]? = some c)
    (hstore : store = s.run (order'.map (·.2))) (honce : (order'.map (·.1)).Nodup)
    (hmade : ∀ x ∈ order', x ∈ order ∨ x = (i, c.op)) (hplaced : Placed s order' i ⟨c.op, stage⟩)
    (hothers : ∀ j c', j ≠ i → Placed s order j c' → Placed s order' j c') :
    Linearizes s order' ⟨store, w.calls.set i ⟨c.op, stage⟩⟩ where
  store := hstore
  once := honce
  made j op hj := by
    obtain ⟨hlt, -⟩ := List.getElem?_eq_some_iff.1 hc
    by_cases hne : i = j
    · subst hne
      have hop : op = c.op := by
        rcases hmade _ hj with hj | hj
        · obtain ⟨stage', hstage⟩ := h.made i op hj
          rw [hc] at hstage
          rw [Option.some.inj hstage]
        · exact (Prod.mk.inj hj).2
      exact ⟨stage, by rw [List.getElem?_set_self hlt, hop]⟩
    · rcases hmade _ hj with hj | hj
      · rw [List.getElem?_set_ne hne]
        exact h.made j op hj
      · exact absurd (Prod.mk.inj hj).1.symm hne
  placed j c' hc' := by
    obtain ⟨hlt, -⟩ := List.getElem?_eq_some_iff.1 hc
    by_cases hne : i = j
    · subst hne
      rw [List.getElem?_set_self hlt] at hc'
      obtain rfl := Option.some.inj hc'
      exact hplaced
    · rw [List.getElem?_set_ne hne] at hc'
      exact hothers j c' (Ne.symm hne) (h.placed j c' hc')

theorem Linearizes.step (h : Linearizes s order w) (m : Move) :
    Linearizes s (order ++ (w.locked? m).toList) (w.step m) := by
  cases m with
  | call op =>
    rw [Shared.locked?, Option.toList_none, List.append_nil]
    exact h.call op
  | advance i =>
    cases hc : w.calls[i]? with
    | none =>
      have hlocked : w.locked? (.advance i) = none := by simp [Shared.locked?, hc]
      have hstep : w.step (.advance i) = w := by simp only [Shared.step, hc]
      rw [hlocked, hstep, Option.toList_none, List.append_nil]
      exact h
    | some c =>
      have hplaced := h.placed i c hc
      simp only [Shared.step, hc, h.store]
      cases hl : c.stage.locks with
      | false =>
        have hlocked : w.locked? (.advance i) = none := by simp [Shared.locked?, hc, hl]
        obtain ⟨hstore, hplaced⟩ := hplaced.advance_of_not_locks hl
        rw [hlocked, Option.toList_none, List.append_nil]
        exact h.set hc hstore h.once (fun _ hx => Or.inl hx) hplaced fun _ _ _ hj => hj
      | true =>
        have hlocked : w.locked? (.advance i) = some (i, c.op) := by simp [Shared.locked?, hc, hl]
        obtain ⟨hfresh, hstore, hplaced⟩ := hplaced.advance_of_locks hl
        rw [hlocked, Option.toList_some]
        refine h.set hc hstore ?_ ?_ hplaced fun j c' hne hj => hj.concat hne c.op
        · rw [List.map_append]
          exact List.nodup_append_comm.1 (List.nodup_cons.2 ⟨hfresh, h.once⟩)
        · intro x hx
          simpa using hx

theorem Linearizes.run (h : Linearizes s order w) (moves : List Move) :
    Linearizes s (order ++ w.order moves) (w.run moves) := by
  induction moves generalizing order w with
  | nil => simpa [Shared.order, Shared.run] using h
  | cons m rest ih =>
    rw [Shared.order, ← List.append_assoc]
    exact ih (h.step m)

end Step

end Turnstile.Users
