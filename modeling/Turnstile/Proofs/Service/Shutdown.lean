import Mathlib.Data.List.TakeWhile
import Mathlib.Tactic
import Turnstile.Service.Shutdown

/-! Reasons for a shutdown on their way. Those that were received, and behind them those that wait,
are the ones signalled while there was a listener, in that order. The listener gets the oldest, and
is told that the channel is closed only where none waits and no signal is left. -/

namespace Turnstile.Shutdown

/-- The steps that were made, with what came of each. -/
abbrev History := List (Step × Answer)

namespace History

/-- The reason of a signal that was made, whether it was delivered or not. -/
def signalled? : Step × Answer → Option String
  | (.signal reason, .delivered _) => some reason
  | _ => none

def received? : Step × Answer → Option String
  | (_, .tried reason) => reason
  | (_, .received (.reason reason)) => some reason
  | _ => none

/-- The reasons signalled while there was a listener. -/
def sent (h : History) : List String :=
  (h.takeWhile (·.1 != .dropListener)).filterMap signalled?

def received (h : History) : List String := h.filterMap received?

def Listens (h : History) : Prop := .dropListener ∉ h.map Prod.fst

theorem listens_concat_iff (h : History) (e : Step × Answer) :
    Listens (h ++ [e]) ↔ h.Listens ∧ e.1 ≠ .dropListener := by
  rw [Listens, List.map_append, List.mem_append, not_or, List.map_singleton, List.mem_singleton,
    ne_comm]
  rfl

theorem listens_iff (h : History) : h.Listens ↔ h.takeWhile (·.1 != .dropListener) = h := by
  rw [List.takeWhile_eq_self_iff, Listens, List.mem_map, not_exists]
  simp only [bne_iff_ne, not_and]

theorem received_concat (h : History) (e : Step × Answer) :
    received (h ++ [e]) = h.received ++ (received? e).toList := by
  rw [received, List.filterMap_append, received]
  cases he : received? e <;> simp [he]

theorem sent_concat_of_listens {h : History} (hl : h.Listens) (e : Step × Answer) :
    sent (h ++ [e]) = h.sent ++ (signalled? e).toList := by
  have hall := h.listens_iff.1 hl
  rw [sent, sent, List.takeWhile_append_of_pos (List.takeWhile_eq_self_iff.1 hall),
    List.filterMap_append, hall]
  obtain ⟨step, answer⟩ := e
  cases step with
  | signal reason => cases answer <;> rfl
  | _ => rfl

theorem sent_concat_of_not_listens {h : History} (hl : ¬ h.Listens) (e : Step × Answer) :
    sent (h ++ [e]) = h.sent := by
  have hcut : (h.takeWhile (·.1 != .dropListener)).length ≠ h.length := by
    intro hlength
    apply hl
    exact h.listens_iff.2 ((List.takeWhile_prefix _).eq_of_length hlength)
  rw [sent, sent, List.takeWhile_append, if_neg hcut]

end History

namespace Channel

open History

def run (c : Channel) : List Step → Channel
  | [] => c
  | x :: rest => run (c.step x).1 rest

def log (c : Channel) : List Step → History
  | [] => []
  | x :: rest => (x, (c.step x).2) :: log (c.step x).1 rest

theorem run_concat (c : Channel) (steps : List Step) (x : Step) :
    c.run (steps ++ [x]) = ((c.run steps).step x).1 := by
  induction steps generalizing c with
  | nil => rfl
  | cons y rest ih => exact ih _

/-- The channel is what the history makes of it. Without a listener it keeps nothing; what was
received is then still the start of what was sent. -/
structure Tracks (c : Channel) (h : History) : Prop where
  listens : c.listening = true ↔ h.Listens
  queue : c.listening = true → h.received ++ c.queue = h.sent
  inOrder : h.received <+: h.sent

namespace Tracks

variable {c : Channel} {h : History}

/-- A step that neither brings nor takes a reason. -/
theorem idle (ht : c.Tracks h) {c' : Channel} {e : Step × Answer} (hl : c'.listening = c.listening)
    (hq : c'.queue = c.queue) (hstep : e.1 ≠ .dropListener) (hsent : signalled? e = none)
    (hreceived : received? e = none) : c'.Tracks (h ++ [e]) := by
  have hkept : sent (h ++ [e]) = h.sent := by
    by_cases hlistens : h.Listens
    · rw [sent_concat_of_listens hlistens, hsent, Option.toList_none, List.append_nil]
    · exact sent_concat_of_not_listens hlistens e
  have hsame : received (h ++ [e]) = h.received := by
    rw [received_concat, hreceived, Option.toList_none, List.append_nil]
  refine ⟨?_, ?_, ?_⟩
  · rw [hl, ht.listens, listens_concat_iff]
    exact (and_iff_left hstep).symm
  · rw [hl, hq, hkept, hsame]
    exact ht.queue
  · rw [hkept, hsame]
    exact ht.inOrder

theorem signal (ht : c.Tracks h) (reason : String) :
    (c.signal reason).1.Tracks (h ++ [(.signal reason, .delivered (c.signal reason).2)]) := by
  by_cases hl : c.listening = true
  · have hlistens := ht.listens.1 hl
    have hqueue := ht.queue hl
    have hsent : sent (h ++ [(.signal reason, .delivered true)]) = h.sent ++ [reason] :=
      sent_concat_of_listens hlistens _
    have hreceived : received (h ++ [(.signal reason, .delivered true)]) = h.received := by
      rw [received_concat]
      exact List.append_nil _
    rw [Channel.signal, if_pos hl]
    refine ⟨?_, ?_, ?_⟩
    · rw [listens_concat_iff]
      simp [hl, hlistens]
    · intro _
      rw [hsent, hreceived, ← List.append_assoc, hqueue]
    · rw [hsent, hreceived]
      exact ht.inOrder.trans (List.prefix_append _ _)
  · have hlistens : ¬ h.Listens := fun hh => hl (ht.listens.2 hh)
    have hsent := sent_concat_of_not_listens hlistens (.signal reason, .delivered false)
    have hreceived : received (h ++ [(.signal reason, .delivered false)]) = h.received := by
      rw [received_concat]
      exact List.append_nil _
    rw [Channel.signal, if_neg hl]
    refine ⟨?_, fun hh => absurd hh hl, ?_⟩
    · rw [listens_concat_iff]
      simp [hl, hlistens]
    · rw [hsent, hreceived]
      exact ht.inOrder

theorem dropListener (ht : c.Tracks h) :
    c.dropListener.Tracks (h ++ [(.dropListener, .dropped)]) := by
  refine ⟨?_, fun hh => absurd hh (by simp [Channel.dropListener]), ?_⟩
  · rw [listens_concat_iff]
    simp [Channel.dropListener]
  · have hreceived : received (h ++ [(.dropListener, .dropped)]) = h.received := by
      rw [received_concat]
      exact List.append_nil _
    rw [hreceived]
    by_cases hlistens : h.Listens
    · rw [sent_concat_of_listens hlistens]
      exact ht.inOrder.trans (List.prefix_append _ _)
    · rw [sent_concat_of_not_listens hlistens]
      exact ht.inOrder

/-- The oldest reason goes from those that wait to those received. -/
theorem receive (ht : c.Tracks h) (hl : c.listening = true) {e : Step × Answer}
    (hstep : e.1 ≠ .dropListener) (hsent : signalled? e = none)
    (hreceived : received? e = c.queue.head?) : c.receive.1.Tracks (h ++ [e]) := by
  cases hq : c.queue with
  | nil =>
    rw [hq, List.head?_nil] at hreceived
    have hsame : c.receive.1 = c := by simp [Channel.receive, hq]
    rw [hsame]
    exact ht.idle rfl rfl hstep hsent hreceived
  | cons reason rest =>
    rw [hq, List.head?_cons] at hreceived
    have htaken : c.receive.1 = { c with queue := rest } := by simp [Channel.receive, hq]
    have hsame : sent (h ++ [e]) = h.sent := by
      rw [sent_concat_of_listens (ht.listens.1 hl), hsent, Option.toList_none, List.append_nil]
    have hmore : received (h ++ [e]) ++ rest = h.sent := by
      rw [received_concat, hreceived, Option.toList_some, List.append_assoc, List.singleton_append,
        ← hq, ht.queue hl]
    rw [htaken]
    refine ⟨?_, ?_, ?_⟩
    · rw [ht.listens, listens_concat_iff]
      exact (and_iff_left hstep).symm
    · intro _
      rw [hsame]
      exact hmore
    · rw [hsame]
      exact ⟨rest, hmore⟩

theorem step (ht : c.Tracks h) (x : Step) : (c.step x).1.Tracks (h ++ [(x, (c.step x).2)]) := by
  cases x with
  | signal reason =>
    simp only [Channel.step]
    split_ifs with hnone
    · exact ht.idle rfl rfl (by simp) rfl rfl
    · exact ht.signal reason
  | clone => exact ht.idle rfl rfl (by simp) rfl rfl
  | dropSignal => exact ht.idle rfl rfl (by simp) rfl rfl
  | dropListener => exact ht.dropListener
  | tryReceive =>
    simp only [Channel.step]
    split_ifs with hl
    · exact ht.receive hl (by simp) rfl rfl
    · exact ht.idle rfl rfl (by simp) rfl rfl
  | receive =>
    simp only [Channel.step]
    split_ifs with hl
    · refine ht.receive hl (by simp) rfl ?_
      simp only [Channel.receive]
      cases c.queue with
      | nil => split_ifs <;> rfl
      | cons reason rest => rfl
    · exact ht.idle rfl rfl (by simp) rfl rfl

end Tracks

/-- Only a signal that there is gets cloned or dropped. -/
def Possible (steps : List Step) : Prop :=
  ∀ n, steps[n]? = some .clone ∨ steps[n]? = some .dropSignal →
    (steps.take n).count .dropSignal < (steps.take n).count .clone + 1

theorem Possible.last {steps : List Step} {x : Step} (hp : Possible (steps ++ [x]))
    (hx : x = .clone ∨ x = .dropSignal) :
    steps.count .dropSignal < steps.count .clone + 1 := by
  have hcount := hp steps.length
  rw [List.getElem?_concat_length, List.take_left] at hcount
  exact hcount (by simpa using hx)

end Channel

end Turnstile.Shutdown
