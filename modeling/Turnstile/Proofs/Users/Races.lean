import Turnstile.Proofs.Users.History
import Turnstile.Proofs.Users.Interleaving

/-! What callers that race see of each other: one of them makes the account, and nobody logs in to
an account behind the back of the one who switched it off. -/

namespace Turnstile.Users

/-! Of creations that race, one wins. -/

/-- A creation of the account under the key has come back. -/
def Shared.Tried (w : Shared) (s : Users) (key : String) (i : ℕ) (a : Account)
    (r : Except UsersError User) : Prop :=
  ∃ added id salt now, w.calls[i]? = some ⟨.create added id salt now, .returned (.created r)⟩ ∧
    emailKey added.email = key ∧ a = s.prepare added id salt now

section Races

variable {s : Users} {order : List (ℕ × Op)} {w : Shared} {key : String}

theorem mem_of_mem_serial {i : ℕ} {op : Op} {answer : Answer}
    (h : (i, op, answer) ∈ s.serial order) : (i, op) ∈ order := by
  induction order generalizing s with
  | nil => simp [serial] at h
  | cons x rest ih =>
    rw [← List.singleton_append, serial_append, serial_singleton] at h
    rcases List.mem_cons.1 h with heq | h
    · obtain ⟨rfl, hop⟩ := Prod.mk.inj heq
      rw [(Prod.mk.inj hop).1]
      exact List.mem_cons_self
    · exact List.mem_cons_of_mem _ (ih h)

theorem mem_log_of_mem_serial {x : ℕ × Entry} (h : x ∈ s.serial order) :
    x.2 ∈ s.log (order.map (·.2)) := by
  rw [← map_snd_serial]
  exact List.mem_map_of_mem h

theorem exists_mem_serial {e : Entry} (h : e ∈ s.log (order.map (·.2))) :
    ∃ i, (i, e) ∈ s.serial order := by
  rw [← map_snd_serial] at h
  obtain ⟨⟨i, e⟩, hmem, rfl⟩ := List.mem_map.1 h
  exact ⟨i, hmem⟩

theorem Linearizes.answer {i : ℕ} {op : Op} {answer : Answer} (h : Linearizes s order w)
    (hc : w.calls[i]? = some ⟨op, .returned answer⟩) : (i, op, answer) ∈ s.serial order := by
  cases h.placed i _ hc with
  | returned h => exact h

theorem Linearizes.eq_of_mem_serial (h : Linearizes s order w) {i : ℕ} {e e' : Entry}
    (he : (i, e) ∈ s.serial order) (he' : (i, e') ∈ s.serial order) : e = e' := by
  have hinj := List.inj_on_of_nodup_map (f := fun x : ℕ × Entry => x.1) (l := s.serial order)
    (by rw [map_fst_serial]; exact h.once)
  exact (Prod.mk.inj (hinj he he' rfl)).2

/-- A creation that has had the lock has come back. -/
theorem Linearizes.returned_of_create (h : Linearizes s order w) {i : ℕ} {added : NewUser}
    {id : String} {salt : Bytes} {now : Instant} {answer : Answer}
    (hmem : (i, .create added id salt now, answer) ∈ s.serial order) :
    w.calls[i]? = some ⟨.create added id salt now, .returned answer⟩ := by
  have horder := mem_of_mem_serial hmem
  have hi : i ∈ order.map (·.1) := List.mem_map_of_mem horder
  obtain ⟨stage, hstage⟩ := h.made i _ horder
  cases h.placed i _ hstage with
  | begun hfresh => exact absurd hi hfresh
  | hashed hfresh => exact absurd hi hfresh
  | returned hmem' =>
    obtain ⟨-, rfl⟩ := Prod.mk.inj (h.eq_of_mem_serial hmem hmem')
    exact hstage

theorem Shared.Tried.mem_serial {i : ℕ} {a : Account} {r : Except UsersError User}
    (ht : w.Tried s key i a r) (h : Linearizes s order w) :
    ∃ added id salt now, (i, .create added id salt now, .created r) ∈ s.serial order ∧
      emailKey added.email = key ∧ a = s.prepare added id salt now := by
  obtain ⟨added, id, salt, now, hc, hkey, ha⟩ := ht
  exact ⟨added, id, salt, now, h.answer hc, hkey, ha⟩

/-- Two creations under one key do not both succeed. -/
theorem Shared.Tried.unique {i j : ℕ} {a a' : Account} {user user' : User}
    (ht : w.Tried s key i a (.ok user)) (ht' : w.Tried s key j a' (.ok user'))
    (h : Linearizes s order w) : i = j := by
  obtain ⟨added, id, salt, now, hmem, hkey, -⟩ := ht.mem_serial h
  obtain ⟨added', id', salt', now', hmem', hkey', -⟩ := ht'.mem_serial h
  have hpairwise := pairwise_founded s key (order.map (·.2))
  rw [← map_snd_serial, List.pairwise_map] at hpairwise
  have hsymm : Std.Symm fun x y : ℕ × Entry =>
      ¬ ((s.founded? key x.2).isSome = true ∧ (s.founded? key y.2).isSome = true) :=
    ⟨fun x y hxy hyx => hxy ⟨hyx.2, hyx.1⟩⟩
  by_contra hne
  refine hpairwise.forall hmem hmem' ?_ ⟨?_, ?_⟩
  · exact fun heq => hne (Prod.mk.inj heq).1
  · rw [founded?_eq_some_iff.2 ⟨_, _, _, _, _, rfl, hkey, rfl⟩]
    rfl
  · rw [founded?_eq_some_iff.2 ⟨_, _, _, _, _, rfl, hkey', rfl⟩]
    rfl

/-- Once a creation under a free key has come back, one has made the account, and all others that
have come back found it there. -/
theorem Linearizes.exists_winner (h : Linearizes s order w) (hfree : s.accounts[key]? = none)
    (htried : ∃ i a r, w.Tried s key i a r) :
    ∃ i a, w.Tried s key i a (.ok a.user) ∧
      (∀ j a' r, w.Tried s key j a' r → j ≠ i → r = .error (.duplicateEmail key)) ∧
      w.store.accounts[key]? = some (a.switch (lastSwitch? key (s.log (order.map (·.2))))) := by
  obtain ⟨i, a, r, ht⟩ := htried
  obtain ⟨added, id, salt, now, hmem, rfl, -⟩ := ht.mem_serial h
  have hthere := isSome_of_create_mem_log (mem_log_of_mem_serial hmem)
  rw [accounts_run, hfree, Option.none_or, Option.isSome_map] at hthere
  obtain ⟨b, hfirst⟩ := Option.isSome_iff_exists.1 hthere
  obtain ⟨e, he, hfounded⟩ := (findSome?_founded?_iff s _ hfree _ b).1 hfirst
  obtain ⟨first, id', salt', now', user, rfl, hkey, rfl⟩ := founded?_eq_some_iff.1 hfounded
  obtain ⟨k, hk⟩ := exists_mem_serial he
  have hwon : w.Tried s (emailKey added.email) k (s.prepare first id' salt' now')
      (.ok (s.prepare first id' salt' now').user) := by
    rw [← user_of_mem_log he]
    exact ⟨first, id', salt', now', h.returned_of_create hk, hkey, rfl⟩
  refine ⟨k, _, hwon, ?_, ?_⟩
  · intro j a' r' ht' hne
    obtain ⟨other, id'', salt'', now'', hmem', hkey', -⟩ := ht'.mem_serial h
    rcases created_of_mem_log (mem_log_of_mem_serial hmem') with rfl | rfl
    · exact absurd (ht'.unique hwon h) hne
    · rw [hkey']
  · rw [h.store, accounts_run, hfree, Option.none_or, hfirst]
    rfl

end Races

/-! An account that was switched off gives no claims. -/

/-- No account under the key is on. -/
def IsOff (s : Users) (key : String) : Prop :=
  ∀ a, s.accounts[key]? = some a → a.user.enabled = false

def Op.SwitchesOn (key : String) : Op → Prop
  | .setEnabled email enabled => emailKey email = key ∧ enabled = true
  | _ => False

def Op.Creates (key : String) : Op → Prop
  | .create added _ _ _ => emailKey added.email = key
  | _ => False

section Off

variable {s : Users} {key : String} {op : Op} {ops : List Op}

/-- An account that is there, or a key without creations, stays off until it is switched on. -/
theorem IsOff.step (h : s.IsOff key) (hon : ¬ op.SwitchesOn key)
    (hnew : (s.accounts[key]?).isSome = true ∨ ¬ op.Creates key) : (s.step op).1.IsOff key := by
  intro a ha
  rw [accounts_step] at ha
  obtain ⟨b, hb, rfl⟩ := Option.map_eq_some_iff.1 ha
  have hthere : s.accounts[key]? = some b := by
    rcases Option.or_eq_some_iff.1 hb with hb | ⟨hnone, hfounded⟩
    · exact hb
    · rw [hnone] at hnew
      obtain ⟨added, id, salt, now, user, heq, hkey, -⟩ := founded?_eq_some_iff.1 hfounded
      obtain ⟨rfl, -⟩ := Prod.mk.inj heq
      exact absurd hkey (hnew.resolve_left (by simp))
  cases hswitch : switched? key (op, (s.step op).2) with
  | none => exact h b hthere
  | some enabled =>
    obtain ⟨email, rfl, hkey⟩ := switched?_eq_some hswitch
    exact Bool.eq_false_iff.2 fun henabled => hon ⟨hkey, henabled⟩

theorem IsOff.run (h : s.IsOff key) (hon : ∀ op ∈ ops, ¬ op.SwitchesOn key)
    (hnew : (s.accounts[key]?).isSome = true ∨ ∀ op ∈ ops, ¬ op.Creates key) :
    (s.run ops).IsOff key := by
  induction ops generalizing s with
  | nil => exact h
  | cons op rest ih =>
    obtain ⟨honop, honrest⟩ := List.forall_mem_cons.1 hon
    refine ih (h.step honop (hnew.imp_right fun hnew => hnew op List.mem_cons_self)) honrest ?_
    refine hnew.imp (fun hthere => ?_) fun hnew op' hop => hnew op' (List.mem_cons_of_mem _ hop)
    exact isSome_run hthere [op]

theorem IsOff.authenticate_ne_ok {email : String} (h : s.IsOff (emailKey email))
    (password : String) (now : Instant) (claims : Claims) :
    s.authenticate email password now ≠ .ok claims := by
  let t : TokenRequest := ⟨email, password⟩
  cases hfound : s.accounts[emailKey email]? with
  | none =>
    rw [authenticate_of_unknown (t := t) hfound now]
    simp
  | some a =>
    by_cases hmatch : Login.Matches t a
    · rw [authenticate_of_disabled (t := t) ⟨hfound, hmatch⟩ (h a hfound) now]
      simp
    · rw [authenticate_of_mismatched (t := t) hfound hmatch now]
      simp

theorem authenticate_ne_ok_of_mem_log (h : s.IsOff key) (hon : ∀ op ∈ ops, ¬ op.SwitchesOn key)
    (hnew : (s.accounts[key]?).isSome = true ∨ ∀ op ∈ ops, ¬ op.Creates key)
    {email password : String} {now : Instant} {r : Except UsersError Claims}
    (hmem : (.authenticate email password now, .verdict r) ∈ s.log ops)
    (hkey : emailKey email = key) (claims : Claims) : r ≠ .ok claims := by
  obtain ⟨before, later, rfl, hanswer⟩ := exists_split_of_mem_log hmem
  obtain rfl := Answer.verdict.inj hanswer
  subst hkey
  refine IsOff.authenticate_ne_ok (h.run ?_ (hnew.imp_right ?_)) password now claims
  · exact fun op hop => hon op (List.mem_append_left _ hop)
  · exact fun hnew op hop => hnew op (List.mem_append_left _ hop)

/-- Switching off leaves no account on, and leaves one if it succeeds. -/
theorem isOff_step_setEnabled (s : Users) (email : String) :
    (s.step (.setEnabled email false)).1.IsOff (emailKey email) ∧
      ((s.step (.setEnabled email false)).2 = .switched (.ok ()) →
        ((s.step (.setEnabled email false)).1.accounts[emailKey email]?).isSome = true) := by
  cases hfound : s.accounts[emailKey email]? with
  | none =>
    rw [step_setEnabled_of_absent hfound]
    exact ⟨by simp [IsOff, hfound], by simp⟩
  | some a =>
    rw [step_setEnabled_of_found hfound]
    refine ⟨?_, fun _ => ?_⟩
    · intro b hb
      rw [accounts_insert, if_pos rfl] at hb
      obtain rfl := Option.some.inj hb
      rfl
    · rw [accounts_insert, if_pos rfl]
      rfl

end Off

/-- The next step of the call switches the account under the email off, and is its last. -/
structure Shared.SwitchesOff (w : Shared) (i : ℕ) (email : String) (r : Except UsersError Unit) :
    Prop where
  locked : w.locked? (.advance i) = some (i, .setEnabled email false)
  returned : (w.step (.advance i)).calls[i]? =
    some ⟨.setEnabled email false, .returned (.switched r)⟩

section Shut

variable {s : Users} {order : List (ℕ × Op)} {w : Shared}

/-- A check that is called for after an account was switched off gives no claims, unless the account
was switched on in between, or there was none to switch off and it was created in between. -/
theorem Linearizes.authenticate_ne_ok (h : Linearizes s order w) {i : ℕ} {email : String}
    {r : Except UsersError Unit} (hswitch : w.SwitchesOff i email r) {later : List Move}
    (hon : ∀ x ∈ (w.step (.advance i)).order later, ¬ x.2.SwitchesOn (emailKey email))
    (hnew : r = .ok () ∨
      ∀ x ∈ (w.step (.advance i)).order later, ¬ x.2.Creates (emailKey email))
    {j : ℕ} (hj : (w.step (.advance i)).calls.length ≤ j) {email' password : String}
    {now : Instant} {verdict : Except UsersError Claims}
    (hcheck : ((w.step (.advance i)).run later).calls[j]? =
      some ⟨.authenticate email' password now, .returned (.verdict verdict)⟩)
    (hkey : emailKey email' = emailKey email) (claims : Claims) : verdict ≠ .ok claims := by
  have hoff := h.step (.advance i)
  rw [hswitch.locked, Option.toList_some] at hoff
  have hend := hoff.run later
  have hmem := hend.answer hcheck
  rw [serial_append] at hmem
  obtain ⟨hstore, hpresent⟩ := isOff_step_setEnabled (s.run (order.map (·.2))) email
  have hanswer : ((s.run (order.map (·.2))).step (.setEnabled email false)).2 = .switched r := by
    have hserial := s.mem_serial_concat order i (.setEnabled email false)
    exact (Prod.mk.inj (hoff.eq_of_mem_serial hserial (hoff.answer hswitch.returned))).2
  -- The check was not there yet when the account was switched off, so it had the lock later.
  rcases List.mem_append.1 hmem with hbefore | hafter
  · obtain ⟨stage, hstage⟩ := hoff.made j _ (mem_of_mem_serial hbefore)
    obtain ⟨hlt, -⟩ := List.getElem?_eq_some_iff.1 hstage
    omega
  · rw [run_concat] at hafter
    refine authenticate_ne_ok_of_mem_log hstore (List.forall_mem_map.2 hon) ?_
      (mem_log_of_mem_serial hafter) hkey claims
    refine hnew.imp (fun hok => ?_) fun hnew => List.forall_mem_map.2 hnew
    exact hpresent (by rw [hanswer, hok])

end Shut

/-- Calls on one store at once, in any order of their steps. Every call comes out as if all had run
one after the other in the order in which they had the lock. So of creations under a free key that
race one makes the account, and once an account was switched off no check that is called for later
gives claims, unless it is switched on again. -/
theorem calls_linearize (s : Users) (moves : List Move) :
    Linearizes s ((Shared.new s).order moves) ((Shared.new s).run moves) ∧
    (∀ key, s.accounts[key]? = none →
      (∃ i a r, ((Shared.new s).run moves).Tried s key i a r) →
      ∃ i a, ((Shared.new s).run moves).Tried s key i a (.ok a.user) ∧
        (∀ j a' r, ((Shared.new s).run moves).Tried s key j a' r → j ≠ i →
          r = .error (.duplicateEmail key)) ∧
        ((Shared.new s).run moves).store.accounts[key]? = some (a.switch
          (lastSwitch? key (s.log (((Shared.new s).order moves).map (·.2)))))) ∧
    ∀ (before : List Move) (i : ℕ) (later : List Move) (email : String)
      (r : Except UsersError Unit), moves = before ++ .advance i :: later →
      ((Shared.new s).run before).SwitchesOff i email r →
      (∀ x ∈ (((Shared.new s).run before).step (.advance i)).order later,
        ¬ x.2.SwitchesOn (emailKey email)) →
      (r = .ok () ∨ ∀ x ∈ (((Shared.new s).run before).step (.advance i)).order later,
        ¬ x.2.Creates (emailKey email)) →
      ∀ (j : ℕ) (email' password : String) (now : Instant) (verdict : Except UsersError Claims),
        (((Shared.new s).run before).step (.advance i)).calls.length ≤ j →
        emailKey email' = emailKey email →
        ((Shared.new s).run moves).calls[j]? =
          some ⟨.authenticate email' password now, .returned (.verdict verdict)⟩ →
        ∀ claims, verdict ≠ .ok claims := by
  have hall (moves : List Move) := (linearizes_new s).run moves
  refine ⟨hall moves, fun key hfree htried => (hall moves).exists_winner hfree htried, ?_⟩
  intro before i later email r hmoves hswitch hon hnew j email' password now verdict hj hkey hcheck
    claims
  rw [hmoves, Shared.run_append] at hcheck
  exact (hall before).authenticate_ne_ok hswitch hon hnew hj hcheck hkey claims

/-! Two creations under one key, of which the later call has the lock first; then the account is
switched off, and its password checked. -/

def raceUsers : Users := new "gate" ⟨60, 0⟩ 1

def otherNew : NewUser := ⟨"Other", "some@example.com", ["ADMIN"], "other"⟩

def otherCreation : Op := .create otherNew "2" [4] ⟨0, 0⟩

def otherAccount : Account := raceUsers.prepare otherNew "2" [4] ⟨0, 0⟩

def someClosing : Op := .setEnabled "some@example.com" false

def someCheck : Op := .authenticate "SOME@example.com" "other" ⟨0, 0⟩

def race : List Move :=
  [.call someCreation, .call otherCreation, .advance 0, .advance 1, .advance 1, .advance 0,
    .call someClosing]

def lateCheck : List Move := [.call someCheck, .advance 3, .advance 3]

theorem emailKey_plain : emailKey "some@example.com" = "some@example.com" := by decide +kernel

theorem emailKey_capitals : emailKey "SOME@example.com" = "some@example.com" := by decide +kernel

theorem run_race : (Shared.new raceUsers).run race =
    ⟨{ raceUsers with accounts := Std.TreeMap.insert ∅ "some@example.com" otherAccount },
      [⟨someCreation, .returned (.created (.error (.duplicateEmail "some@example.com")))⟩,
        ⟨otherCreation, .returned (.created (.ok otherAccount.user))⟩,
        ⟨someClosing, .begun someClosing⟩]⟩ := by
  have hother : emailKey otherNew.email = "some@example.com" := emailKey_plain
  simp [race, Shared.run, Shared.step, Shared.new, advance, someCreation, otherCreation, register,
    prepare, emailKey_someNew, hother, raceUsers, otherAccount, new]

theorem step_race : ((Shared.new raceUsers).run race).step (.advance 2) =
    ⟨{ raceUsers with
        accounts := Std.TreeMap.insert (Std.TreeMap.insert ∅ "some@example.com" otherAccount)
          "some@example.com" (otherAccount.switch (some false)) },
      [⟨someCreation, .returned (.created (.error (.duplicateEmail "some@example.com")))⟩,
        ⟨otherCreation, .returned (.created (.ok otherAccount.user))⟩,
        ⟨someClosing, .returned (.switched (.ok ()))⟩]⟩ := by
  rw [run_race]
  simp [Shared.step, advance, someClosing, Users.step, setEnabled, account?, emailKey_plain,
    Account.switch]

theorem calls_linearize_race :
    ∃ i a verdict, i ≠ 0 ∧
      ((Shared.new raceUsers).run (race ++ .advance 2 :: lateCheck)).Tried raceUsers
        "some@example.com" i a (.ok a.user) ∧
      ((Shared.new raceUsers).run (race ++ .advance 2 :: lateCheck)).calls[3]? =
        some ⟨someCheck, .returned (.verdict verdict)⟩ ∧
      ∀ claims, verdict ≠ .ok claims := by
  obtain ⟨-, hwinner, hshut⟩ := calls_linearize raceUsers (race ++ .advance 2 :: lateCheck)
  have hrun : (Shared.new raceUsers).run (race ++ .advance 2 :: lateCheck) =
      (((Shared.new raceUsers).run race).step (.advance 2)).run lateCheck := by
    rw [Shared.run_append]
    rfl
  have hlost : ((Shared.new raceUsers).run (race ++ .advance 2 :: lateCheck)).calls[0]? =
      some ⟨someCreation, .returned (.created (.error (.duplicateEmail "some@example.com")))⟩ := by
    rw [hrun, step_race]
    rfl
  obtain ⟨verdict, hcheck⟩ : ∃ verdict,
      ((Shared.new raceUsers).run (race ++ .advance 2 :: lateCheck)).calls[3]? =
        some ⟨someCheck, .returned (.verdict verdict)⟩ := by
    rw [hrun, step_race]
    exact ⟨_, rfl⟩
  have hclosing : ((Shared.new raceUsers).run race).SwitchesOff 2 "some@example.com" (.ok ()) := by
    constructor
    · rw [run_race]
      rfl
    · rw [step_race]
      rfl
  obtain ⟨i, a, hwon, -, -⟩ := hwinner "some@example.com" (accounts_new _ _ _ _)
    ⟨0, _, _, someNew, "1", [1, 2, 3], ⟨0, 0⟩, hlost, emailKey_someNew, rfl⟩
  refine ⟨i, a, verdict, ?_, hwon, hcheck, ?_⟩
  · intro hi
    obtain ⟨_, _, _, _, hc, -, -⟩ := hwon
    rw [hi, hlost] at hc
    simp at hc
  · refine hshut race 2 lateCheck "some@example.com" (.ok ()) rfl hclosing ?_ (Or.inl rfl) 3
      "SOME@example.com" "other" ⟨0, 0⟩ verdict ?_ ?_ hcheck
    · have horder : (((Shared.new raceUsers).run race).step (.advance 2)).order lateCheck =
          [(3, someCheck)] := by
        rw [step_race]
        rfl
      rw [horder]
      simp [someCheck, Op.SwitchesOn]
    · rw [step_race]
      rfl
    · rw [emailKey_capitals, emailKey_plain]

/-! An account that is made after its email was switched off in vain. -/

def vain : Shared := (Shared.new raceUsers).run [.call someClosing]

def lateCreation : List Move :=
  [.call otherCreation, .advance 1, .advance 1, .call someCheck, .advance 2, .advance 2]

theorem step_vain : vain.step (.advance 0) =
    ⟨raceUsers, [⟨someClosing, .returned (.switched (.error .notFound))⟩]⟩ := by
  simp [vain, Shared.run, Shared.step, Shared.new, advance, someClosing, Users.step, setEnabled,
    account?, emailKey_plain, raceUsers, new]

theorem run_lateCreation : ((vain.step (.advance 0)).run lateCreation).calls[2]? =
    some ⟨someCheck, .returned (.verdict (.ok ⟨"gate", "2", 0, 60, ["ADMIN"]⟩))⟩ := by
  have hverify : otherAccount.credential.verify "other" = true := beq_self_eq_true _
  have henabled : otherAccount.user.enabled = true := rfl
  have hissued : Claims.issue? otherAccount.user.id raceUsers.issuer otherAccount.user.roles ⟨0, 0⟩
      raceUsers.ttl = some ⟨"gate", "2", 0, 60, ["ADMIN"]⟩ := by decide
  have hverdict (s : Users) (hissuer : s.issuer = raceUsers.issuer) (httl : s.ttl = raceUsers.ttl) :
      s.verdict (some otherAccount) "other" ⟨0, 0⟩ = .ok ⟨"gate", "2", 0, 60, ["ADMIN"]⟩ := by
    simp [verdict, hverify, henabled, hissuer, httl, hissued]
  have hprepare : raceUsers.prepare otherNew "2" [4] ⟨0, 0⟩ = otherAccount := rfl
  have hfiled : otherAccount.user.email = "some@example.com" := emailKey_plain
  have hregister : raceUsers.register otherAccount = .ok { raceUsers with
      accounts := raceUsers.accounts.insert "some@example.com" otherAccount } := by
    rw [register, hfiled]
    rfl
  rw [step_vain]
  simp [lateCreation, Shared.run, Shared.step, advance, otherCreation, someCheck, hprepare,
    hregister, account?, emailKey_capitals, hverdict]

/-- Whoever switches off an email that has no account does not keep the account shut that is made
for it later. -/
theorem verdict_after_vain_closing :
    vain.SwitchesOff 0 "some@example.com" (.error .notFound) ∧
      (∀ x ∈ (vain.step (.advance 0)).order lateCreation,
        ¬ x.2.SwitchesOn (emailKey "some@example.com")) ∧
      (vain.step (.advance 0)).calls.length ≤ 2 ∧
      emailKey "SOME@example.com" = emailKey "some@example.com" ∧
      ((Shared.new raceUsers).run (.call someClosing :: .advance 0 :: lateCreation)).calls[2]? =
        some ⟨.authenticate "SOME@example.com" "other" ⟨0, 0⟩,
          .returned (.verdict (.ok ⟨"gate", "2", 0, 60, ["ADMIN"]⟩))⟩ := by
  refine ⟨⟨rfl, ?_⟩, ?_, ?_, ?_, ?_⟩
  · rw [step_vain]
    rfl
  · have horder : (vain.step (.advance 0)).order lateCreation =
        [(1, otherCreation), (2, someCheck)] := by
      rw [step_vain]
      rfl
    rw [horder]
    simp [otherCreation, someCheck, Op.SwitchesOn]
  · rw [step_vain]
    decide
  · rw [emailKey_capitals, emailKey_plain]
  · exact run_lateCreation

end Turnstile.Users
