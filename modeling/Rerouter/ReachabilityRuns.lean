import Rerouter.Reachability

/-!
# Stability along a run

An answer is *sound* (`Rerouter.Reach.Answered.Sound`) if a device it calls stable was observed
reachable a window before, and since then nothing else was observed of it; and if an answer from a
recent contact is only given when the last outcome was a contact.

A row says this of its device as long as no negative outcome waits to be written
(`Rerouter.Reach.Current`). Calls can take it for more than that. A decision may answer from a row
that it read when a negative outcome was not written, or that one has overtaken since; a contact may
be written over a later negative outcome; and a clock that is stored as of its second seems to have
run a window when it has not yet. **In a run in which none of this happens every answer is sound**
(`Rerouter.Reach.sound_of_orderly`). Nothing in the controller keeps it from happening: if the
`UPDATE` of a negative outcome fails, the clock runs on, and the next contact keeps it
(`Rerouter.Reach.failedWrite_not_sound`); and a device that was reached at the end of a second is
stable up to a second early (`Rerouter.Reach.endOfSecond_not_sound`).
-/

namespace Rerouter.Reach

open Whole

/-! ### What is to hold -/

/-- Nothing but contacts. -/
def AllReachable (outcomes : List (ℕ × SshStatus)) : Prop := ∀ o ∈ outcomes, o.2 = .reachable

/-- The device was observed reachable at a time or before, and nothing else was observed since. -/
def Backed (time : ℕ) (outcomes : List (ℕ × SshStatus)) : Prop :=
  ∃ earlier observed later, outcomes = earlier ++ (observed, .reachable) :: later ∧
      observed ≤ time ∧ AllReachable later

/-- The last outcome, if there is one, is a contact. -/
def LastReachable (outcomes : List (ℕ × SshStatus)) : Prop :=
  ∀ o ∈ outcomes.getLast?, o.2 = .reachable

/-- **A sound answer**: stable is what was reachable a window ago and ever since, and a recent
contact is the last outcome. -/
structure Answered.Sound (a : Answered) : Prop where
  stable : a.answer.stable = true → ∃ time, time + stabilityWindow * second ≤ a.givenAt ∧
    Backed time a.outcomes
  recent : a.answer.viaRecency = true → LastReachable a.outcomes

/-! ### What a step has to respect -/

/-- A row that was read is still good: no negative outcome was waiting to be written, and none was
observed since. -/
def Snapshot.fresh (sn : Snapshot) (outcomes : List (ℕ × SshStatus)) : Bool :=
  !sn.owed && (outcomes.drop sn.seen).all fun o => o.2 = .reachable

/-- A clock that was read has run a window if it seems to: from the second it was started in until
the time that is compared with it, and from when it was started until now. -/
def Snapshot.ripe (sn : Snapshot) (now clock : ℕ) : Bool :=
  sn.sshReachableSince.all fun t => decide (now < t + stabilityWindow * second ∨
    sn.startedAt + stabilityWindow * second ≤ clock)

/-- **An orderly step** does not answer from a recent contact, or with a clock that runs, off a row
that is not good any more or before the clock has run the window that it seems to have; and does not
write a contact over a later negative outcome. -/
def orderly (s : System) : Event → Bool
  | .decide i now =>
    match s.calls i with
    | some (.reading sn) =>
      !s.recentlyReached sn now || (sn.fresh s.outcomes && sn.ripe now s.clock)
    | _ => true
  | .update i none =>
    match s.calls i with
    | some (.reached _ outcome) => (s.outcomes.drop outcome).all fun o => o.2 = .reachable
    | _ => true
  | .note i =>
    match s.calls i with
    | some (.stamped (.decision sn now)) =>
      sn.sshReachableSince.isNone || (sn.fresh s.outcomes && sn.ripe now s.clock)
    | _ => true
  | _ => true

/-! ### What the rows say -/

variable {h h' : List (ℕ × SshStatus)} {time clock clock' startedAt : ℕ} {since : Option ℕ}
  {sn : Snapshot}
  {caller : Caller} {phase : Phase} {s : System}

/-- A clock that runs was started by a contact, and a contact came last. -/
structure Current (since : Option ℕ) (startedAt : ℕ) (outcomes : List (ℕ × SshStatus)) : Prop where
  backed : since.isSome = true → Backed startedAt outcomes
  last : LastReachable outcomes

theorem Backed.append (hb : Backed time h) (hall : AllReachable h') : Backed time (h ++ h') := by
  obtain ⟨earlier, observed, later, rfl, hle, hlater⟩ := hb
  refine ⟨earlier, observed, later ++ h', by simp, hle, fun o ho => ?_⟩
  rcases List.mem_append.mp ho with ho | ho
  · exact hlater o ho
  · exact hall o ho

theorem LastReachable.append (hl : LastReachable h) (hall : AllReachable h') :
    LastReachable (h ++ h') := by
  intro o ho
  rw [List.getLast?_append] at ho
  cases hlast : h'.getLast? with
  | none => exact hl o (by simpa [hlast] using ho)
  | some b =>
    rw [hlast, Option.some_or, Option.mem_some_iff] at ho
    exact ho ▸ hall b (List.mem_of_mem_getLast? hlast)

theorem Current.append (hc : Current since startedAt h) (hall : AllReachable h') :
    Current since startedAt (h ++ h') :=
  ⟨fun hruns => (hc.backed hruns).append hall, hc.last.append hall⟩

theorem allReachable_singleton (clock : ℕ) : AllReachable [(clock, .reachable)] := by
  intro o ho
  rw [List.mem_singleton.mp ho]

/-- Behind a contact there is nothing else. -/
theorem LastReachable.of_drop {n : ℕ} (hn : n < h.length) (hall : AllReachable (h.drop n)) :
    LastReachable h := by
  intro o ho
  refine hall o ?_
  have hlast : (h.drop n).getLast? = h.getLast? := by
    rw [List.getLast?_drop, if_neg (by omega)]
  rw [← hlast] at ho
  exact List.mem_of_mem_getLast? ho

theorem Backed.of_drop {n observed : ℕ} (hn : h[n]? = some (observed, .reachable))
    (hle : observed ≤ time) (hall : AllReachable (h.drop n)) : Backed time h := by
  obtain ⟨hlt, hget⟩ := List.getElem?_eq_some_iff.mp hn
  refine ⟨h.take n, observed, h.drop (n + 1), ?_, hle, fun o ho => hall o ?_⟩
  · rw [← hget, ← List.drop_eq_getElem_cons hlt, List.take_append_drop]
  · rw [List.drop_eq_getElem_cons hlt]
    exact List.mem_cons_of_mem _ ho

/-! ### Calls under way -/

/-- What a decision read was so when it read it. -/
structure Snapshot.Inv (clock : ℕ) (outcomes : List (ℕ × SshStatus)) (sn : Snapshot) : Prop where
  read : sn.readAt ≤ clock
  seen : sn.seen ≤ outcomes.length
  clockless : sn.sshStatus ≠ .reachable → sn.sshReachableSince = none
  current : sn.owed = false → sn.sshStatus = .reachable →
    Current sn.sshReachableSince sn.startedAt (outcomes.take sn.seen)

/-- So for the decision that probes. -/
def Caller.Inv (clock : ℕ) (outcomes : List (ℕ × SshStatus)) : Caller → Prop
  | .decision sn now => sn.Inv clock outcomes ∧ now ≤ clock
  | _ => True

/-- So wherever a call is, and a contact stands where it was put. -/
def Phase.Inv (clock : ℕ) (outcomes : List (ℕ × SshStatus)) : Phase → Prop
  | .reading sn => sn.Inv clock outcomes
  | .reached caller outcome =>
    caller.Inv clock outcomes ∧ ∃ observed, outcomes[outcome]? = some (observed, .reachable) ∧
        observed ≤ clock
  | .refused caller reach => caller.Inv clock outcomes ∧ reach ≠ .privileged
  | .probing caller | .stamped caller => caller.Inv clock outcomes

theorem Snapshot.Inv.later (hsn : sn.Inv clock h) (hclock : clock ≤ clock')
    (h' : List (ℕ × SshStatus)) :
    sn.Inv clock' (h ++ h') where
  read := hsn.read.trans hclock
  seen := by
    have := hsn.seen
    rw [List.length_append]
    omega
  clockless := hsn.clockless
  current := by
    intro howed hstatus
    rw [List.take_append_of_le_length hsn.seen]
    exact hsn.current howed hstatus

theorem Caller.Inv.later (hc : caller.Inv clock h) (hclock : clock ≤ clock')
    (h' : List (ℕ × SshStatus)) :
    caller.Inv clock' (h ++ h') := by
  cases caller with
  | decision sn now => exact ⟨hc.1.later hclock h', hc.2.trans hclock⟩
  | poll => trivial
  | push => trivial

theorem Phase.Inv.later (hp : phase.Inv clock h) (hclock : clock ≤ clock')
    (h' : List (ℕ × SshStatus)) :
    phase.Inv clock' (h ++ h') := by
  cases phase with
  | reading sn => exact Snapshot.Inv.later hp hclock h'
  | probing caller => exact Caller.Inv.later hp hclock h'
  | stamped caller => exact Caller.Inv.later hp hclock h'
  | refused caller reach => exact ⟨Caller.Inv.later hp.1 hclock h', hp.2⟩
  | reached caller outcome =>
    obtain ⟨hcaller, observed, hget, hle⟩ := hp
    refine ⟨hcaller.later hclock h', observed, ?_, hle.trans hclock⟩
    rw [List.getElem?_append_left (List.getElem?_eq_some_iff.mp hget).1]
    exact hget

/-- **A row that is still good says what is so.** -/
theorem Snapshot.Inv.current_of_fresh (hsn : sn.Inv clock h) (hstatus : sn.sshStatus = .reachable)
    (hfresh : sn.fresh h = true) : Current sn.sshReachableSince sn.startedAt h := by
  obtain ⟨howed, hall⟩ := Bool.and_eq_true_iff.mp hfresh
  have hdrop : AllReachable (h.drop sn.seen) :=
    fun o ho => of_decide_eq_true (List.all_eq_true.mp hall o ho)
  have hcurrent := (hsn.current (by simpa using howed) hstatus).append hdrop
  rwa [List.take_append_drop] at hcurrent

/-! ### The invariant -/

/-- What holds between the steps. -/
structure Inv (s : System) : Prop where
  clockless : s.row.sshStatus ≠ .reachable → s.row.sshReachableSince = none
  row : s.owed = false → s.row.sshStatus = .reachable →
    Current s.row.sshReachableSince s.startedAt s.outcomes
  calls : ∀ i phase, s.calls i = some phase → phase.Inv s.clock s.outcomes
  answers : ∀ a ∈ s.answers, a.Sound

theorem inv_started (clock : ℕ) (row : DeviceRow) {answers : List Answered}
    (ha : ∀ a ∈ answers, a.Sound) :
    Inv (.started clock row answers) where
  clockless := fun _ => rfl
  row := fun _ _ => ⟨nofun, nofun⟩
  calls := nofun
  answers := ha

/-- The call that moved is where it moved to, and the others are where they were. -/
theorem Inv.of_put (hs : Inv s) {i : ℕ} {moved : Option Phase}
    (hmoved : ∀ phase ∈ moved, phase.Inv s.clock s.outcomes) :
    ∀ j phase, (s.put i moved).calls j = some phase → phase.Inv s.clock s.outcomes := by
  intro j phase hj
  rw [System.put] at hj
  dsimp only at hj
  rw [Function.update_apply] at hj
  split_ifs at hj with heq
  · exact hmoved phase hj
  · exact hs.calls j phase hj

theorem Inv.put (hs : Inv s) {i : ℕ} {moved : Option Phase}
    (hmoved : ∀ phase ∈ moved, phase.Inv s.clock s.outcomes) :
    Inv (s.put i moved) :=
  ⟨hs.clockless, hs.row, hs.of_put hmoved, hs.answers⟩

/-- A sound answer. -/
theorem Inv.give (hs : Inv s) {i : ℕ} {answer : Reachability}
    (ha : Answered.Sound ⟨answer, s.clock, s.outcomes⟩) :
    Inv (s.give i answer) where
  clockless := hs.clockless
  row := hs.row
  calls := hs.of_put (by simp)
  answers := by
    intro a hmem
    rcases List.mem_append.mp hmem with hmem | hmem
    · exact hs.answers a hmem
    · exact List.mem_singleton.mp hmem ▸ ha

/-- A call ends: what a decision answers has to be sound. -/
theorem Inv.finish (hs : Inv s) {i : ℕ} {answer : Snapshot → ℕ → Reachability}
    (ha : ∀ sn now, caller = .decision sn now →
      Answered.Sound ⟨answer sn now, s.clock, s.outcomes⟩) :
    Inv (s.finish i caller answer) := by
  cases caller with
  | decision sn now => exact hs.give (ha sn now rfl)
  | poll => exact hs.put (by simp)
  | push => exact hs.put (by simp)

/-- An answer that promises nothing. -/
theorem sound_of_not {answer : Reachability} (hstable : answer.stable = false)
    (hrecent : answer.viaRecency = false) :
    Answered.Sound ⟨answer, clock, h⟩ :=
  ⟨fun hs => by simp [hstable] at hs, fun hr => by simp [hrecent] at hr⟩

/-- A device is stable when the time since its clock was started, as it is stored, is a window. -/
theorem deviceStable_eq_true {status : SshStatus} {now : ℕ} :
    deviceStable status since now = true ↔
      status = .reachable ∧ ∃ t ∈ since, t + stabilityWindow * second ≤ now := by
  have hwindow (t : ℕ) : (0 ≤ elapsed second now t ∧ (stabilityWindow : ℤ) ≤ elapsed second now t) ↔
      t + stabilityWindow * second ≤ now := by
    rw [and_iff_right_of_imp (Int.natCast_nonneg stabilityWindow).trans]
    exact le_elapsed_iff second_pos (by decide)
  simp [deviceStable, Option.any_eq_true, hwindow]

/-- **A clock that seems to have run a window has done so**, if it is ripe. -/
theorem Snapshot.started_of_ripe {now : ℕ} (hripe : sn.ripe now clock = true)
    (hstable : deviceStable .reachable sn.sshReachableSince now = true) :
    sn.startedAt + stabilityWindow * second ≤ clock := by
  obtain ⟨-, t, ht, hwindow⟩ := deviceStable_eq_true.mp hstable
  rw [Snapshot.ripe, Option.mem_def.mp ht, Option.all_some, decide_eq_true_eq] at hripe
  omega

/-- A recent contact, and a row that is still good. -/
theorem sound_recencyAnswer {now : ℕ} (hsn : sn.Inv clock h) (hstatus : sn.sshStatus = .reachable)
    (hfresh : sn.fresh h = true) (hripe : sn.ripe now clock = true) :
    Answered.Sound ⟨recencyAnswer sn now, clock, h⟩ := by
  have hcurrent := hsn.current_of_fresh hstatus hfresh
  refine ⟨fun (hstable : deviceStable .reachable sn.sshReachableSince now = true) => ?_,
    fun _ => hcurrent.last⟩
  obtain ⟨-, t, ht, -⟩ := deviceStable_eq_true.mp hstable
  exact ⟨sn.startedAt, Snapshot.started_of_ripe hripe hstable,
    hcurrent.backed (by rw [Option.mem_def.mp ht]; rfl)⟩

/-- A contact, behind a row that is still good: the clock that was read before it runs on. -/
theorem sound_probedAnswer {now : ℕ} (hsn : sn.Inv clock h)
    (hgood : sn.sshReachableSince ≠ none → sn.fresh h = true ∧ sn.ripe now clock = true) :
    Answered.Sound ⟨probedAnswer sn now, clock, h⟩ := by
  refine ⟨fun (hstable : deviceStable .reachable (sn.sshReachableSince.or (some now)) now = true) =>
    ?_, nofun⟩
  cases hsince : sn.sshReachableSince with
  | none =>
    -- A clock that only starts now has not run at all.
    obtain ⟨-, time, htime, hwindow⟩ := deviceStable_eq_true.mp hstable
    rw [hsince, Option.none_or, Option.mem_some_iff] at htime
    rw [← htime, stabilityWindow, second] at hwindow
    omega
  | some since =>
    have hruns : sn.sshReachableSince.isSome = true := by rw [hsince]; rfl
    have hstatus : sn.sshStatus = .reachable := by
      by_contra hnot
      rw [hsn.clockless hnot] at hsince
      cases hsince
    obtain ⟨hfresh, hripe⟩ := hgood (by simp [hsince])
    rw [hsince, Option.some_or, ← hsince] at hstable
    exact ⟨sn.startedAt, Snapshot.started_of_ripe hripe hstable,
      (hsn.current_of_fresh hstatus hfresh).backed hruns⟩

/-! ### The steps -/

/-- Time passes. -/
theorem Inv.tick (hs : Inv s) (nanoseconds : ℕ) :
    Inv { s with clock := s.clock + nanoseconds } where
  clockless := hs.clockless
  row := hs.row
  calls := by
    intro i phase hphase
    have hlater := (hs.calls i phase hphase).later (Nat.le_add_right s.clock nanoseconds) []
    rwa [List.append_nil] at hlater
  answers := hs.answers

/-- What is read is so. -/
theorem Inv.snapshot (hs : Inv s) (ok : Bool) : (s.snapshot ok).Inv s.clock s.outcomes := by
  cases ok with
  | false => exact ⟨le_refl _, le_refl _, fun _ => rfl, fun _ hstatus => by cases hstatus⟩
  | true =>
    refine ⟨le_refl _, le_refl _, hs.clockless, fun howed hstatus => ?_⟩
    have hcurrent := hs.row howed hstatus
    rwa [← List.take_length (l := s.outcomes)] at hcurrent

/-- The device is reached. -/
theorem Inv.reachedBy (hs : Inv s) {i : ℕ} (hcaller : caller.Inv s.clock s.outcomes) :
    Inv (s.reachedBy i caller) where
  clockless := hs.clockless
  row := fun howed hstatus => (hs.row howed hstatus).append (allReachable_singleton s.clock)
  calls := by
    intro j phase hj
    rw [System.reachedBy, System.put] at hj
    dsimp only at hj
    rw [Function.update_apply] at hj
    split_ifs at hj
    · obtain rfl := Option.some.inj hj
      exact ⟨hcaller.later (le_refl _) _, s.clock, by simp [System.reachedBy], le_refl _⟩
    · exact (hs.calls j phase hj).later (le_refl _) _
  answers := hs.answers

/-- The device is not reached. -/
theorem Inv.refusedBy (hs : Inv s) {i : ℕ} (hcaller : caller.Inv s.clock s.outcomes)
    {reach : SshReach} (hreach : reach ≠ .privileged) : Inv (s.refusedBy i caller reach) where
  clockless := hs.clockless
  row := nofun
  calls := by
    intro j phase hj
    rw [System.refusedBy, System.put] at hj
    dsimp only at hj
    rw [Function.update_apply] at hj
    split_ifs at hj
    · obtain rfl := Option.some.inj hj
      exact ⟨hcaller.later (le_refl _) _, hreach⟩
    · exact (hs.calls j phase hj).later (le_refl _) _
  answers := hs.answers

/-- A contact is written, behind which nothing else was observed. -/
theorem Inv.stampReachable (hs : Inv s) {outcome observed : ℕ}
    (hget : s.outcomes[outcome]? = some (observed, .reachable))
    (hle : observed ≤ s.clock) (hall : AllReachable (s.outcomes.drop outcome)) :
    Inv s.stampReachable where
  clockless := fun h => absurd rfl h
  row := by
    intro howed _
    refine ⟨fun _ => ?_, .of_drop (List.getElem?_eq_some_iff.mp hget).1 hall⟩
    rw [System.stampReachable]
    cases hsince : s.row.sshReachableSince with
    | none => exact .of_drop hget hle hall
    | some since =>
      have hstatus : s.row.sshStatus = .reachable := by
        by_contra hnot
        rw [hs.clockless hnot] at hsince
        cases hsince
      exact (hs.row howed hstatus).backed (by rw [hsince]; rfl)
  calls := hs.calls
  answers := hs.answers

theorem status_ne_reachable {reach : SshReach} (h : reach ≠ .privileged) :
    reach.status ≠ .reachable := by
  cases reach <;> simp_all [SshReach.status]

/-- A negative outcome is written. -/
theorem Inv.stampNegative (hs : Inv s) (row : DeviceRow) {reach : SshReach}
    (h : reach ≠ .privileged) :
    Inv { s with row := row.stampNegative reach, owed := false } where
  clockless := fun _ => rfl
  row := fun _ hstatus => absurd hstatus (status_ne_reachable h)
  calls := hs.calls
  answers := hs.answers

theorem Inv.note (hs : Inv s) (success : Option ℕ) : Inv { s with success } :=
  ⟨hs.clockless, hs.row, hs.calls, hs.answers⟩

/-- **What one step keeps.** -/
theorem step_inv (s : System) (e : Event) (hs : Inv s) (horderly : orderly s e = true) :
    Inv (step s e) := by
  cases e with
  | tick nanoseconds => exact hs.tick nanoseconds
  | restart => exact inv_started s.clock s.row hs.answers
  | read i ok =>
    rw [step]
    cases hcall : s.calls i with
    | some phase => exact hs
    | none =>
      refine hs.put fun phase hphase => ?_
      obtain rfl := Option.mem_some_iff.mp hphase
      exact hs.snapshot ok
  | probe i =>
    rw [step]
    cases hcall : s.calls i with
    | some phase => exact hs
    | none =>
      refine hs.put fun phase hphase => ?_
      obtain rfl := Option.mem_some_iff.mp hphase
      trivial
  | pushed i =>
    rw [step]
    cases hcall : s.calls i with
    | some phase => exact hs
    | none => exact hs.reachedBy trivial
  -- an answer from a recent contact goes by the row that was read: here it has to be good
  | decide i now =>
    rw [step]
    rw [orderly] at horderly
    cases hcall : s.calls i with
    | none => exact hs
    | some phase =>
      have hphase := hs.calls i phase hcall
      cases phase with
      | reading sn =>
        rw [hcall] at horderly
        dsimp only at horderly ⊢
        split_ifs with htime hrecent
        · rw [hrecent, Bool.not_true, Bool.false_or, Bool.and_eq_true] at horderly
          have hstatus : sn.sshStatus = .reachable := by
            simp only [System.recentlyReached, Bool.and_eq_true, decide_eq_true_eq] at hrecent
            exact hrecent.1.1
          exact hs.give (sound_recencyAnswer hphase hstatus horderly.1 horderly.2)
        · refine hs.put fun phase hput => ?_
          obtain rfl := Option.mem_some_iff.mp hput
          exact ⟨hphase, htime.2⟩
        · exact hs
      | _ => exact hs
  | observe i reach =>
    rw [step]
    cases hcall : s.calls i with
    | none => exact hs
    | some phase =>
      have hphase := hs.calls i phase hcall
      cases phase with
      | probing caller =>
        cases reach with
        | privileged => exact hs.reachedBy hphase
        | userExec message => exact hs.refusedBy hphase nofun
        | restricted message => exact hs.refusedBy hphase nofun
        | unreachable message => exact hs.refusedBy hphase nofun
      | _ => exact hs
  | update i error =>
    rw [step]
    cases hcall : s.calls i with
    | none => exact hs
    | some phase =>
      have hphase := hs.calls i phase hcall
      cases phase with
      | reached caller outcome =>
        obtain ⟨hcaller, observed, hget, hle⟩ := hphase
        cases error with
        | some e => exact hs.finish fun sn now _ => sound_of_not rfl rfl
        | none =>
          rw [orderly, hcall] at horderly
          -- no outcome since is another one: an orderly stamp is not late
          have hall : AllReachable (s.outcomes.drop outcome) :=
            fun o ho => of_decide_eq_true (List.all_eq_true.mp horderly o ho)
          refine (hs.stampReachable hget hle hall).put fun phase hput => ?_
          obtain rfl := Option.mem_some_iff.mp hput
          exact hcaller
      | refused caller reach =>
        -- a refusal answers not reachable, whatever the row says
        have hfinish : Inv (s.finish i caller fun sn _ => negativeAnswer sn reach) :=
          hs.finish fun sn now _ => sound_of_not rfl rfl
        cases error with
        | some e => exact hfinish
        | none => exact hfinish.stampNegative s.row hphase.2
      | _ => exact hs
  | note i =>
    rw [step]
    cases hcall : s.calls i with
    | none => exact hs
    | some phase =>
      have hphase := hs.calls i phase hcall
      cases phase with
      | stamped caller =>
        refine (hs.finish fun sn now hcaller => ?_).note _
        subst hcaller
        rw [orderly, hcall] at horderly
        refine sound_probedAnswer hphase.1 fun hsince => ?_
        simpa [hsince] using horderly
      | _ => exact hs

/-! ### Runs -/

/-- **In an orderly run every answer is sound**, whatever calls there are, however they take turns,
whichever of their statements fail, and whenever the controller is started again. -/
theorem sound_of_orderly (clock : ℕ) (row : DeviceRow) (es : List Event)
    (h : Run.Meets step (fun s e => orderly s e = true) (.started clock row []) es) :
    ∀ a ∈ (Run.run step (.started clock row []) es).answers, a.Sound :=
  (Run.invariant_of_meets step_inv (inv_started clock row fun _ ha =>
      absurd ha List.not_mem_nil) h).answers

/-- A device that was never asked. -/
def newRow : DeviceRow := ⟨.unknown, none, none, none⟩

/-- A probe reaches the device, and so does a decision a minute later. -/
def steadyRun : List Event :=
  [.probe 0, .observe 0 .privileged, .update 0 none, .note 0, .tick (60 * second),
    .read 1 true, .decide 1 (60 * second), .observe 1 .privileged, .update 1 none, .note 1]

theorem sound_of_orderly_steady :
    (Run.run step (.started 0 newRow []) steadyRun).answers.map (fun a => a.answer.stable) =
    [true] ∧
      ∀ a ∈ (Run.run step (.started 0 newRow []) steadyRun).answers, a.Sound :=
  ⟨by decide +kernel, sound_of_orderly 0 newRow steadyRun (by decide +kernel)⟩

/-- A probe reaches the device, the next one does not, and that cannot be written; a second later a
decision reaches it. -/
def failedWrite : List Event :=
  [.probe 0, .observe 0 .privileged, .update 0 none, .note 0, .tick (100 * second),
    .probe 1, .observe 1 (.unreachable "connection timed out"), .update 1 (some "pool timed out"),
    .tick second,
    .read 2 true, .decide 2 (101 * second), .observe 2 .privileged, .update 2 none, .note 2]

/-- **The device is called stable one second after it was not reached**: its clock was not cleared,
and the contact keeps the clock that runs. -/
theorem failedWrite_not_sound : ¬∀ (clock : ℕ) (row : DeviceRow) (es : List Event),
    ∀ a ∈ (Run.run step (.started clock row []) es).answers, a.Sound := by
  intro h
  have hanswers : (Run.run step (.started 0 newRow []) failedWrite).answers =
      [⟨⟨true, .reachable, true, false, some (101 * second), some 0, none⟩, 101 * second,
        [(0, .reachable), (100 * second, .unreachable), (101 * second, .reachable)]⟩] := by
    decide +kernel
  obtain ⟨time, hwindow, earlier, observed, later, houtcomes, hle, hlater⟩ :=
    (h 0 newRow failedWrite _ (by rw [hanswers]; exact List.mem_singleton_self _)).stable rfl
  rw [stabilityWindow, second] at hwindow
  dsimp only at hwindow houtcomes
  -- A contact that old is the first one, and the probe that failed came later.
  match earlier with
  | [] =>
    obtain ⟨-, rfl⟩ := List.cons_eq_cons.mp houtcomes
    exact absurd (hlater (100 * second, .unreachable) (by simp)) (by decide)
  | [_] => simp at houtcomes
  | [_, _] =>
    obtain rfl : 101 * second = observed := by
      simp only [List.cons_append, List.nil_append, List.cons.injEq, Prod.mk.injEq] at houtcomes
      exact houtcomes.2.2.1.1
    rw [second] at hle
    omega
  | _ :: _ :: _ :: _ => simp at houtcomes

/-- A probe reaches the device 0.9 s after a whole second, and is written 0.05 s later; a minute
after that second, a decision reaches the device. -/
def endOfSecond : List Event :=
  [.tick 900000000, .probe 0, .observe 0 .privileged, .tick 50000000, .update 0 none, .note 0,
    .tick 59150000000, .read 1 true, .decide 1 60100000000, .observe 1 .privileged, .update 1 none,
    .note 1]

/-- **The device is called stable when it has been reached for 59.2 seconds**: its clock is stored
as of the whole second. -/
theorem endOfSecond_not_sound :
    ∃ a ∈ (Run.run step (.started 0 newRow []) endOfSecond).answers, ¬a.Sound := by
  have hanswers : (Run.run step (.started 0 newRow []) endOfSecond).answers =
      [⟨⟨true, .reachable, true, false, some 60100000000, some 0, none⟩, 60100000000,
        [(900000000, .reachable), (60100000000, .reachable)]⟩] := by decide +kernel
  refine ⟨_, by rw [hanswers]; exact List.mem_singleton_self _, fun hsound => ?_⟩
  obtain ⟨time, hwindow, earlier, observed, later, houtcomes, hle, -⟩ := hsound.stable rfl
  rw [stabilityWindow, second] at hwindow
  dsimp only at hwindow houtcomes
  have hobserved : (observed, SshStatus.reachable) ∈
      [(900000000, SshStatus.reachable), (60100000000, .reachable)] := by
    rw [houtcomes]
    exact List.mem_append_right _ List.mem_cons_self
  simp only [List.mem_cons, List.not_mem_nil, or_false, Prod.mk.injEq, and_true] at hobserved
  omega

end Rerouter.Reach
