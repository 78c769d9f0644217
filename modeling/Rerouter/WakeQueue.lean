import Mathlib.Data.Finset.Sort
import Rerouter.Lib.Run

/-!
# The wake queue of flow detection

A flush that wrote flows marks their interfaces in a queue, and the loop that evaluates flow rules
takes all of them as one batch. A batch is in flight until it is completed; a caller that comes
meanwhile is handed the same batch, one that failed goes back to the queue, and what does not fit
into the queue is replaced by a rescan of everything.

Callers, marks and completions come in any order (`Rerouter.Wake.System.step`):

* an interface that was marked is covered until a batch taken later was evaluated
  (`Rerouter.Wake.Watched.covers_of_not_done`);
* the queue stays below its cap (`Rerouter.Wake.card_pending_le`);
* on every fair run, work that is pending is handed to somebody who waits
  (`Rerouter.Wake.FairRun.handed_of_fair`).

The last one rests on the one permit of the notification: as long as there is work that nobody has,
the permit is there, or a caller was woken and has not looked yet.
-/

namespace Rerouter.Wake

/-! ### The queue -/

/-- `MAX_DIRTY_INTERFACES`. -/
def maxDirtyInterfaces : ℕ := 4096

/-- `FlowWakeBatch`. -/
structure FlowWakeBatch where
  interfaceIds : List ℕ
  fullRescan : Bool
deriving DecidableEq

/-- `State`. -/
structure Queue where
  pending : Finset ℕ := ∅
  fullRescan : Bool := false
  inFlight : Option FlowWakeBatch := none

namespace Queue

/-- An interface becomes pending; where there is no place for it, everything does. -/
def insertId (q : Queue) (id : ℕ) : Queue :=
  if q.pending.card < maxDirtyInterfaces ∨ id ∈ q.pending then
    { q with pending := insert id q.pending }
  else { q with fullRescan := true }

/-- Some interfaces, one after the other. -/
def insertIds (q : Queue) (ids : List ℕ) : Queue := ids.foldl insertId q

/-- Whether something is pending. -/
def hasWork (q : Queue) : Bool := q.fullRescan || decide (q.pending ≠ ∅)

/-- `mark_interfaces`, and whether a caller is notified. -/
def markInterfaces (q : Queue) (ids : List ℕ) : Queue × Bool :=
  let q := q.insertIds ids
  (q, q.hasWork)

/-- What a caller of `wait_and_take` finds under the lock: the batch in flight, or one of all that
is pending. -/
def look (q : Queue) : Option (Queue × FlowWakeBatch) :=
  match q.inFlight with
  | some batch => some (q, batch)
  | none =>
    if q.hasWork then
      let batch : FlowWakeBatch := ⟨q.pending.sort, q.fullRescan⟩
      some ({ pending := ∅, fullRescan := false, inFlight := some batch }, batch)
    else none

/-- A batch is in flight no more. -/
def land (q : Queue) (batch : FlowWakeBatch) : Queue :=
  if q.inFlight = some batch then { q with inFlight := none } else q

/-- `complete_success`, and whether a caller is notified. -/
def completeSuccess (q : Queue) (batch : FlowWakeBatch) : Queue × Bool :=
  let q := q.land batch
  (q, q.hasWork)

/-- `complete_failure`; a caller is notified. -/
def completeFailure (q : Queue) (batch : FlowWakeBatch) : Queue :=
  let q := q.land batch
  { q with fullRescan := q.fullRescan || batch.fullRescan }.insertIds batch.interfaceIds

end Queue

/-! ### The callers -/

/-- The queue, and where the callers of `wait_and_take` are: some looked and found nothing
(`leaving`), some wait to be notified, and some were woken. A notification that nobody waited for is
kept as a permit. -/
structure System where
  queue : Queue := {}
  permit : Bool := false
  leaving : Finset ℕ := ∅
  waiters : List ℕ := []
  woken : Finset ℕ := ∅
  lastTaken : Option FlowWakeBatch := none

/-- What happens next. -/
inductive Event where
  | mark (ids : List ℕ)
  /-- A caller takes the lock, at the beginning of its call or when it was woken. -/
  | look (caller : ℕ)
  /-- A caller that found nothing asks for the notification. -/
  | await (caller : ℕ)
  | success (batch : FlowWakeBatch)
  | failure (batch : FlowWakeBatch)

namespace System

/-- `notify_one`: the first waiter is woken, or the permit is left. -/
def notifyOne (s : System) : System :=
  match s.waiters with
  | [] => { s with permit := true }
  | caller :: waiters => { s with waiters, woken := insert caller s.woken }

/-- A step of the queue that may notify. -/
def settle (s : System) (q : Queue × Bool) : System :=
  if q.2 then { s with queue := q.1 }.notifyOne else { s with queue := q.1 }

/-- Whether a caller may look: it was woken, or it is not in the call. -/
def mayLook (s : System) (caller : ℕ) : Bool :=
  decide (caller ∈ s.woken) || (decide (caller ∉ s.leaving) && decide (caller ∉ s.waiters))

/-- What one event does. A batch that is completed is the one that was taken last. -/
def step (s : System) : Event → System
  | .mark ids => s.settle (s.queue.markInterfaces ids)
  | .look caller =>
    if s.mayLook caller then
      match s.queue.look with
      | some (queue, batch) =>
        { s with queue, woken := s.woken.erase caller, lastTaken := some batch }
      | none => { s with woken := s.woken.erase caller, leaving := insert caller s.leaving }
    else s
  | .await caller =>
    if caller ∈ s.leaving then
      if s.permit then
        { s with
          permit := false, leaving := s.leaving.erase caller, woken := insert caller s.woken }
      else { s with leaving := s.leaving.erase caller, waiters := s.waiters ++ [caller] }
    else s
  | .success batch =>
    if s.lastTaken = some batch then s.settle (s.queue.completeSuccess batch) else s
  | .failure batch =>
    if s.lastTaken = some batch then s.settle (s.queue.completeFailure batch, true) else s

/-- The batch a caller is handed. -/
def handed (s : System) : Event → Option FlowWakeBatch
  | .look caller => if s.mayLook caller then s.queue.look.map Prod.snd else none
  | _ => none

/-- Somebody is in the call and was not handed anything yet. -/
def Waits (s : System) : Prop := s.leaving ≠ ∅ ∨ s.waiters ≠ [] ∨ s.woken ≠ ∅

end System

/-! ### Pending interfaces -/

section Pending

variable {q : Queue} {id : ℕ} {ids : List ℕ}

/-- A queue has what another one has. -/
structure Queue.Keeps (q q' : Queue) : Prop where
  pending : q.pending ⊆ q'.pending
  fullRescan : q.fullRescan = true → q'.fullRescan = true

namespace Queue

theorem Keeps.refl (q : Queue) : q.Keeps q := ⟨Finset.Subset.refl _, fun h => h⟩

theorem Keeps.trans {q q' q'' : Queue} (h : q.Keeps q') (h' : q'.Keeps q'') : q.Keeps q'' :=
  ⟨h.pending.trans h'.pending, fun hq => h'.fullRescan (h.fullRescan hq)⟩

theorem Keeps.hasWork {q q' : Queue} (h : q.Keeps q') (hq : q.hasWork = true) :
    q'.hasWork = true := by
  simp only [Queue.hasWork, Bool.or_eq_true, decide_eq_true_eq] at hq ⊢
  exact hq.imp h.fullRescan fun hne hempty => hne (Finset.subset_empty.mp (hempty ▸ h.pending))

theorem keeps_insertId (q : Queue) (id : ℕ) : q.Keeps (q.insertId id) := by
  rw [insertId]
  split_ifs
  · exact ⟨Finset.subset_insert _ _, fun h => h⟩
  · exact ⟨Finset.Subset.refl _, fun _ => rfl⟩

theorem keeps_insertIds (q : Queue) (ids : List ℕ) : q.Keeps (q.insertIds ids) := by
  induction ids generalizing q with
  | nil => exact Keeps.refl q
  | cons id ids ih => exact (keeps_insertId q id).trans (ih _)

/-- An interface that was inserted is pending, or everything is. -/
theorem mem_insertIds (h : id ∈ ids) (q : Queue) :
    id ∈ (q.insertIds ids).pending ∨ (q.insertIds ids).fullRescan = true := by
  induction ids generalizing q with
  | nil => cases h
  | cons a ids ih =>
    rcases List.mem_cons.mp h with rfl | h
    · have hkeeps := keeps_insertIds (q.insertId id) ids
      have hone : id ∈ (q.insertId id).pending ∨ (q.insertId id).fullRescan = true := by
        rw [insertId]
        split_ifs
        · exact .inl (Finset.mem_insert_self _ _)
        · exact .inr rfl
      exact hone.imp (fun hid => hkeeps.pending hid) hkeeps.fullRescan
    · exact ih h _

theorem inFlight_insertIds (q : Queue) (ids : List ℕ) :
    (q.insertIds ids).inFlight = q.inFlight := by
  induction ids generalizing q with
  | nil => rfl
  | cons id ids ih =>
    refine (ih _).trans ?_
    rw [insertId]
    split_ifs <;> rfl

theorem card_insertIds (h : q.pending.card ≤ maxDirtyInterfaces) (ids : List ℕ) :
    (q.insertIds ids).pending.card ≤ maxDirtyInterfaces := by
  induction ids generalizing q with
  | nil => exact h
  | cons id ids ih =>
    refine ih ?_
    rw [insertId]
    split_ifs with hplace
    · rcases hplace with hroom | hmem
      · exact (Finset.card_insert_le _ _).trans hroom
      · rwa [Finset.insert_eq_of_mem hmem]
    · exact h

theorem keeps_completeFailure (q : Queue) (batch : FlowWakeBatch) :
    q.Keeps (q.completeFailure batch) := by
  have hland : q.Keeps (q.land batch) := by
    rw [land]
    split_ifs <;> exact ⟨Finset.Subset.refl _, fun h => h⟩
  have hmerge : (q.land batch).Keeps
      { q.land batch with fullRescan := (q.land batch).fullRescan || batch.fullRescan } :=
    ⟨Finset.Subset.refl _, fun h => by simp only [h, Bool.true_or]⟩
  exact (hland.trans hmerge).trans (keeps_insertIds _ _)

theorem pending_land (q : Queue) (batch : FlowWakeBatch) :
    (q.land batch).pending = q.pending ∧ (q.land batch).fullRescan = q.fullRescan := by
  rw [land]
  split_ifs <;> exact ⟨rfl, rfl⟩

theorem inFlight_land {q : Queue} (h : q.inFlight = none) (batch : FlowWakeBatch) :
    (q.land batch).inFlight = none := by
  rw [land]
  split_ifs
  · rfl
  · exact h

end Queue

end Pending

/-! ### What a step does to the queue -/

section Steps

variable {s : System} {q : Queue} {b : Bool} {caller : ℕ} {batch : FlowWakeBatch}

namespace System

@[simp] theorem queue_notifyOne (s : System) : s.notifyOne.queue = s.queue := by
  unfold notifyOne
  split <;> rfl

@[simp] theorem leaving_notifyOne (s : System) : s.notifyOne.leaving = s.leaving := by
  unfold notifyOne
  split <;> rfl

@[simp] theorem lastTaken_notifyOne (s : System) : s.notifyOne.lastTaken = s.lastTaken := by
  unfold notifyOne
  split <;> rfl

@[simp] theorem queue_settle (s : System) (q : Queue × Bool) : (s.settle q).queue = q.1 := by
  rw [settle]
  split_ifs
  · exact queue_notifyOne _
  · rfl

@[simp] theorem leaving_settle (s : System) (q : Queue × Bool) :
    (s.settle q).leaving = s.leaving := by
  rw [settle]
  split_ifs
  · exact leaving_notifyOne _
  · rfl

theorem woken_notifyOne (s : System) : s.woken ⊆ s.notifyOne.woken := by
  unfold notifyOne
  split
  · exact Finset.Subset.refl _
  · exact Finset.subset_insert _ _

theorem woken_settle (s : System) (q : Queue × Bool) : s.woken ⊆ (s.settle q).woken := by
  rw [settle]
  split_ifs
  · exact woken_notifyOne { s with queue := q.1 }
  · exact Finset.Subset.refl _

/-- The queue after an event. -/
def queueAfter (s : System) : Event → Queue
  | .mark ids => s.queue.insertIds ids
  | .look caller => if s.mayLook caller then (s.queue.look.map Prod.fst).getD s.queue else s.queue
  | .await _ => s.queue
  | .success batch => if s.lastTaken = some batch then s.queue.land batch else s.queue
  | .failure batch => if s.lastTaken = some batch then s.queue.completeFailure batch else s.queue

theorem queue_step (s : System) (e : Event) : (s.step e).queue = s.queueAfter e := by
  cases e with
  | mark ids => exact queue_settle ..
  | look caller =>
    rw [step, queueAfter]
    split_ifs
    · cases s.queue.look <;> rfl
    · rfl
  | await caller =>
    rw [step]
    split_ifs <;> rfl
  | success batch =>
    rw [step, queueAfter]
    split_ifs
    · exact queue_settle ..
    · rfl
  | failure batch =>
    rw [step, queueAfter]
    split_ifs
    · exact queue_settle ..
    · rfl

end System

/-- What a caller finds. -/
theorem Queue.look_cases (q : Queue) :
    (∃ batch, q.inFlight = some batch ∧ q.look = some (q, batch)) ∨
      (q.inFlight = none ∧ q.hasWork = true ∧ q.look = some
        ({ pending := ∅, fullRescan := false, inFlight := some ⟨q.pending.sort, q.fullRescan⟩ },
          ⟨q.pending.sort, q.fullRescan⟩)) ∨
      (q.inFlight = none ∧ q.hasWork = false ∧ q.look = none) := by
  unfold Queue.look
  cases hflight : q.inFlight with
  | some batch => exact .inl ⟨batch, rfl, rfl⟩
  | none =>
    cases hwork : q.hasWork with
    | true => exact .inr (.inl ⟨rfl, rfl, rfl⟩)
    | false => exact .inr (.inr ⟨rfl, rfl, rfl⟩)

end Steps

/-! ### No interface is lost -/

/-- An interface is pending or in the batch in flight, or one of them is everything. -/
def Queue.Covers (q : Queue) (id : ℕ) : Prop :=
  id ∈ q.pending ∨ q.fullRescan = true ∨
    ∃ batch, q.inFlight = some batch ∧ (id ∈ batch.interfaceIds ∨ batch.fullRescan = true)

/-- A system after an interface was marked: the last batch that was made since, and whether one of
these that has the interface was completed with success. -/
structure Watched where
  system : System
  since : Option FlowWakeBatch := none
  done : Bool := false

namespace Watched

/-- One event, watched for an interface. -/
def step (id : ℕ) (w : Watched) (e : Event) : Watched where
  system := w.system.step e
  since :=
    match e with
    | .look _ => if w.system.queue.inFlight = none then (w.system.handed e).or w.since else w.since
    | _ => w.since
  done :=
    match e with
    | .success batch =>
      w.done || (decide (w.system.lastTaken = some batch) && decide (w.since = some batch) &&
        (decide (id ∈ batch.interfaceIds) || batch.fullRescan))
    | _ => w.done

/-- Until it is done, the interface is pending, or in a batch in flight that was made since. -/
def Safe (id : ℕ) (w : Watched) : Prop :=
  w.done = false → id ∈ w.system.queue.pending ∨ w.system.queue.fullRescan = true ∨
    ∃ batch, w.system.queue.inFlight = some batch ∧ w.since = some batch ∧
      (id ∈ batch.interfaceIds ∨ batch.fullRescan = true)

variable {id : ℕ} {w : Watched}

/-- What keeps the batch in flight and loses nothing that is pending keeps an interface safe. -/
theorem Safe.keeps (h : w.Safe id) {w' : Watched} (hdone : w'.done = false → w.done = false)
    (hkeeps : w.system.queue.Keeps w'.system.queue)
    (hflight : w'.system.queue.inFlight = w.system.queue.inFlight)
    (hsince : w'.since = w.since) : w'.Safe id := by
  intro hnot
  rcases h (hdone hnot) with hid | hfull | ⟨batch, hbatch, hmade, hin⟩
  · exact .inl (hkeeps.pending hid)
  · exact .inr (.inl (hkeeps.fullRescan hfull))
  · exact .inr (.inr ⟨batch, hflight.trans hbatch, hsince.trans hmade, hin⟩)

theorem safe_step (h : w.Safe id) (e : Event) : (w.step id e).Safe id := by
  have hqueue : (w.step id e).system.queue = w.system.queueAfter e := w.system.queue_step e
  cases e with
  | mark ids =>
    refine h.keeps (fun hdone => hdone) ?_ ?_ rfl
    · exact hqueue ▸ Queue.keeps_insertIds w.system.queue ids
    · exact hqueue ▸ Queue.inFlight_insertIds w.system.queue ids
  | look caller =>
    rw [System.queueAfter] at hqueue
    split_ifs at hqueue with hmay
    · rcases w.system.queue.look_cases
        with ⟨batch, hbatch, hlook⟩ | ⟨hnone, -, hlook⟩ | ⟨hnone, -, hlook⟩
      · -- The batch in flight is handed out again.
        rw [hlook] at hqueue
        refine h.keeps (fun hdone => hdone) (hqueue ▸ Queue.Keeps.refl _) (hqueue ▸ rfl) ?_
        rw [step, if_neg (by rw [hbatch]; simp)]
      · -- A batch of all that is pending is made.
        intro hdone
        refine .inr (.inr ⟨⟨w.system.queue.pending.sort, w.system.queue.fullRescan⟩, ?_, ?_, ?_⟩)
        · rw [hqueue, hlook]
          rfl
        · rw [step, if_pos hnone, System.handed, if_pos hmay, hlook]
          rfl
        · rcases h hdone with hid | hfull | ⟨batch, hbatch, -⟩
          · exact .inl ((Finset.mem_sort _).mpr hid)
          · exact .inr hfull
          · rw [hnone] at hbatch
            cases hbatch
      · rw [hlook] at hqueue
        refine h.keeps (fun hdone => hdone) (hqueue ▸ Queue.Keeps.refl _) (hqueue ▸ rfl) ?_
        rw [step, if_pos hnone, System.handed, if_pos hmay, hlook]
        rfl
    · refine h.keeps (fun hdone => hdone) (hqueue ▸ Queue.Keeps.refl _) (hqueue ▸ rfl) ?_
      rw [step, System.handed, if_neg hmay]
      split_ifs <;> rfl
  | await caller =>
    exact h.keeps (fun hdone => hdone) (hqueue ▸ Queue.Keeps.refl _) (hqueue ▸ rfl) rfl
  | success batch =>
    rw [System.queueAfter] at hqueue
    intro hdone
    rw [step, Bool.or_eq_false_iff] at hdone
    obtain ⟨hdone, hother⟩ := hdone
    have hpending : (w.step id (.success batch)).system.queue.pending = w.system.queue.pending ∧
        (w.step id (.success batch)).system.queue.fullRescan = w.system.queue.fullRescan := by
      rw [hqueue]
      split_ifs
      · exact Queue.pending_land ..
      · exact ⟨rfl, rfl⟩
    rcases h hdone with hid | hfull | ⟨made, hbatch, hsince, hin⟩
    · exact .inl (hpending.1 ▸ hid)
    · exact .inr (.inl (hpending.2 ▸ hfull))
    · refine .inr (.inr ⟨made, ?_, hsince, hin⟩)
      rw [hqueue]
      split_ifs with hlast
      · -- It is not this batch that is completed, or the interface would be done with.
        have hne : made ≠ batch := by
          rintro rfl
          have hor : (decide (id ∈ made.interfaceIds) || made.fullRescan) = true := by
            rcases hin with hin | hin <;> simp [hin]
          rw [hlast, hsince, hor] at hother
          simp at hother
        rw [Queue.land, if_neg]
        · exact hbatch
        · rw [hbatch]
          exact fun heq => hne (Option.some.inj heq)
      · exact hbatch
  | failure batch =>
    rw [System.queueAfter] at hqueue
    split_ifs at hqueue with hlast
    · intro hdone
      have hkeeps := w.system.queue.keeps_completeFailure batch
      rw [hqueue]
      rcases h hdone with hid | hfull | ⟨made, hbatch, hsince, hin⟩
      · exact .inl (hkeeps.pending hid)
      · exact .inr (.inl (hkeeps.fullRescan hfull))
      · by_cases hsame : made = batch
        · -- What was in flight is pending again.
          subst hsame
          rcases hin with hid | hfull
          · exact (Queue.mem_insertIds hid _).imp_right .inl
          · refine .inr (.inl ((Queue.keeps_insertIds _ _).fullRescan ?_))
            simp only [hfull, Bool.or_true]
        · refine .inr (.inr ⟨made, ?_, hsince, hin⟩)
          rw [Queue.completeFailure, Queue.inFlight_insertIds, Queue.land, if_neg]
          · exact hbatch
          · rw [hbatch]
            exact fun heq => hsame (Option.some.inj heq)
    · exact h.keeps (fun hdone => hdone) (hqueue ▸ Queue.Keeps.refl _) (hqueue ▸ rfl) rfl

/-- **Until a batch made after the mark was completed with success, an interface that was marked is
covered.** -/
theorem covers_of_not_done (s : System) {ids : List ℕ} (h : id ∈ ids) (es : List Event)
    (hdone : (Run.run (step id) { system := s.step (.mark ids) } es).done = false) :
    (Run.run (step id) { system := s.step (.mark ids) } es).system.queue.Covers id := by
  have hstart : Safe id { system := s.step (.mark ids) } := by
    intro _
    have hqueue : (s.step (.mark ids)).queue = s.queue.insertIds ids := s.queue_step (.mark ids)
    exact hqueue ▸ (Queue.mem_insertIds h s.queue).imp_right .inl
  have hsafe := Run.invariant (I := Safe id) (fun _ e hw => safe_step hw e) es hstart
  exact (hsafe hdone).imp_right (Or.imp_right fun ⟨batch, hbatch, _, hin⟩ => ⟨batch, hbatch, hin⟩)

end Watched

/-! ### The cap -/

theorem card_queueAfter {s : System} (h : s.queue.pending.card ≤ maxDirtyInterfaces) (e : Event) :
    (s.step e).queue.pending.card ≤ maxDirtyInterfaces := by
  rw [System.queue_step]
  cases e with
  | mark ids => exact Queue.card_insertIds h ids
  | look caller =>
    rw [System.queueAfter]
    split_ifs
    · rcases s.queue.look_cases with ⟨batch, -, hlook⟩ | ⟨-, -, hlook⟩ | ⟨-, -, hlook⟩
      · rw [hlook]
        exact h
      · rw [hlook]
        exact Nat.zero_le _
      · rw [hlook]
        exact h
    · exact h
  | await caller => exact h
  | success batch =>
    rw [System.queueAfter]
    split_ifs
    · rw [(Queue.pending_land s.queue batch).1]
      exact h
    · exact h
  -- a failed batch is put back under the cap, like any mark
  | failure batch =>
    rw [System.queueAfter]
    split_ifs
    · refine Queue.card_insertIds ?_ _
      rw [(Queue.pending_land s.queue batch).1]
      exact h
    · exact h

/-- **The queue stays below its cap.** -/
theorem card_pending_le (es : List Event) :
    (Run.run System.step {} es).queue.pending.card ≤ maxDirtyInterfaces :=
  Run.invariant (I := fun s : System => s.queue.pending.card ≤ maxDirtyInterfaces)
    (fun _ e h => card_queueAfter h e)
    es (Nat.zero_le _)

/-! ### Work is handed out -/

/-- Work that nobody has is attended: there is the permit, or a caller was woken and will look. And
nobody waits while there is the permit. -/
structure Attended (s : System) : Prop where
  permitted : s.permit = true → s.waiters = []
  attended : s.queue.hasWork = true → s.queue.inFlight = none → s.permit = true ∨ s.woken ≠ ∅

/-- A notification attends to whatever work there is. -/
theorem attended_notifyOne {s : System} (h : s.permit = true → s.waiters = []) :
    Attended s.notifyOne := by
  unfold System.notifyOne
  split
  · rename_i hwaiters
    exact ⟨fun _ => hwaiters, fun _ _ => .inl rfl⟩
  · rename_i caller waiters hwaiters
    refine ⟨fun hpermit => ?_, fun _ _ => .inr (Finset.insert_ne_empty _ _)⟩
    rw [h hpermit] at hwaiters
    cases hwaiters

theorem attended_settle {s : System} (h : Attended s) {q : Queue × Bool}
    (hq : q.2 = false → q.1.hasWork = false) :
    Attended (s.settle q) := by
  rw [System.settle]
  split_ifs with hnotify
  · exact attended_notifyOne h.permitted
  · refine ⟨h.permitted, fun hwork _ => ?_⟩
    rw [hq (Bool.eq_false_iff.mpr hnotify)] at hwork
    cases hwork

theorem attended_step {s : System} (h : Attended s) (e : Event) : Attended (s.step e) := by
  cases e with
  | mark ids => exact attended_settle h fun hnone => hnone
  | look caller =>
    rw [System.step]
    split_ifs
    · rcases s.queue.look_cases with ⟨batch, hbatch, hlook⟩ | ⟨-, -, hlook⟩ | ⟨-, hidle, hlook⟩
      · rw [hlook]
        refine ⟨h.permitted, fun _ hnone => ?_⟩
        rw [hbatch] at hnone
        cases hnone
      · rw [hlook]
        refine ⟨h.permitted, fun _ hnone => ?_⟩
        cases hnone
      · rw [hlook]
        refine ⟨h.permitted, fun hwork _ => ?_⟩
        rw [hidle] at hwork
        cases hwork
    · exact h
  -- who awaits takes the permit that is stored, or waits itself
  | await caller =>
    rw [System.step]
    split_ifs with hleaving hpermit
    · refine ⟨fun hnone => ?_, fun _ _ => .inr (Finset.insert_ne_empty _ _)⟩
      cases hnone
    · refine ⟨fun hagain => absurd hagain hpermit, fun hwork hnone => ?_⟩
      exact .inr ((h.attended hwork hnone).resolve_left hpermit)
    · exact h
  | success batch =>
    rw [System.step]
    split_ifs
    · exact attended_settle h fun hnone => hnone
    · exact h
  | failure batch =>
    rw [System.step]
    split_ifs
    · exact attended_settle h fun hnone => by cases hnone
    · exact h

/-- A run without an end, on which a caller that was woken looks at some time, and one that found
nothing asks for the notification. -/
structure FairRun where
  state : ℕ → System
  event : ℕ → Event
  start : state 0 = {}
  next : ∀ n, state (n + 1) = (state n).step (event n)
  looks : ∀ n, ∀ caller ∈ (state n).woken, ∃ m ≥ n, event m = .look caller
  awaits : ∀ n, ∀ caller ∈ (state n).leaving, ∃ m ≥ n, event m = .await caller

namespace FairRun

variable (r : FairRun)

theorem attended (n : ℕ) : Attended (r.state n) := by
  induction n with
  | zero =>
    rw [r.start]
    refine ⟨fun h => ?_, fun h _ => ?_⟩
    · cases h
    · cases h
  | succ n ih =>
    rw [r.next]
    exact attended_step ih _

/-- From some time on nobody is handed anything. -/
def Quiet (n : ℕ) : Prop := ∀ m ≥ n, (r.state m).handed (r.event m) = none

/-- The work of a time is still there, and nobody has it. -/
structure Stuck (q s : Queue) : Prop where
  keeps : q.Keeps s
  work : s.hasWork = true
  inFlight : s.inFlight = none

variable {r} {n m caller : ℕ}

/-- Work that is there is handed to whoever looks. -/
theorem handed_of_look {s : System} (hmay : s.mayLook caller = true)
    (hwork : s.queue.hasWork = true) (hnone : s.queue.inFlight = none) :
    s.handed (.look caller) = some ⟨s.queue.pending.sort, s.queue.fullRescan⟩ := by
  rw [System.handed, if_pos hmay, Queue.look, hnone]
  simp only [hwork, if_true, Option.map_some]

theorem stuck_step {q : Queue} {s : System} (h : Stuck q s.queue) (e : Event)
    (hquiet : s.handed e = none) :
    Stuck q (s.step e).queue := by
  -- as long as nothing is handed out the queue only grows
  have hmove : ∀ q', s.queue.Keeps q' → q'.inFlight = none → Stuck q q' :=
    fun q' hkeeps hnone => ⟨h.keeps.trans hkeeps, hkeeps.hasWork h.work, hnone⟩
  rw [System.queue_step]
  cases e with
  | mark ids =>
    exact hmove _ (Queue.keeps_insertIds _ _) ((Queue.inFlight_insertIds _ _).trans h.inFlight)
  | look caller =>
    rw [System.queueAfter]
    split_ifs with hmay
    · rw [handed_of_look hmay h.work h.inFlight] at hquiet
      cases hquiet
    · exact h
  | await caller => exact h
  | success batch =>
    rw [System.queueAfter]
    split_ifs
    · refine hmove _ ?_ ?_
      · obtain ⟨hpending, hfull⟩ := Queue.pending_land s.queue batch
        exact ⟨hpending ▸ Finset.Subset.refl _, fun hq => hfull ▸ hq⟩
      · exact Queue.inFlight_land h.inFlight batch
    · exact h
  | failure batch =>
    rw [System.queueAfter]
    split_ifs
    · refine hmove _ (Queue.keeps_completeFailure _ _) ?_
      rw [Queue.completeFailure, Queue.inFlight_insertIds]
      exact Queue.inFlight_land h.inFlight batch
    · exact h

/-- Work stays as long as nobody is handed anything. -/
theorem stuck_of_quiet (hwork : (r.state n).queue.hasWork = true)
    (hnone : (r.state n).queue.inFlight = none)
    (hm : n ≤ m) (hquiet : ∀ k, n ≤ k → k < m → (r.state k).handed (r.event k) = none) :
    Stuck (r.state n).queue (r.state m).queue := by
  induction m, hm using Nat.le_induction with
  | base => exact ⟨Queue.Keeps.refl _, hwork, hnone⟩
  | succ m hm ih =>
    rw [r.next]
    exact stuck_step (ih fun k hk hlt => hquiet k hk (Nat.lt_succ_of_lt hlt)) _
      (hquiet m hm (Nat.lt_succ_self m))

/-- What only one event ends holds when it happens. -/
theorem exists_until {P : System → Prop} {e : Event} (hstep : ∀ s e', P s → e' ≠ e → P (s.step e'))
    (hP : P (r.state m)) (hevent : ∃ k ≥ m, r.event k = e) : ∃ k ≥ m, r.event k = e ∧
      P (r.state k) := by
  obtain ⟨k, hk, hevent⟩ := hevent
  obtain ⟨d, rfl⟩ := Nat.exists_eq_add_of_le hk
  induction d generalizing m with
  | zero => exact ⟨m, Nat.le_refl m, hevent, hP⟩
  | succ d ih =>
    by_cases hnow : r.event m = e
    · exact ⟨m, Nat.le_refl m, hnow, hP⟩
    · have hshift : m + (d + 1) = m + 1 + d := by omega
      obtain ⟨k, hk, hthen⟩ := ih (m := m + 1) (r.next m ▸ hstep _ _ hP hnow) (by omega)
        (hshift ▸ hevent)
      exact ⟨k, by omega, hthen⟩

theorem woken_step {s : System} (h : caller ∈ s.woken) {e : Event} (he : e ≠ .look caller) :
    caller ∈ (s.step e).woken := by
  cases e with
  | mark ids => exact s.woken_settle _ h
  | look c =>
    have hne : caller ≠ c := fun heq => he (heq ▸ rfl)
    rw [System.step]
    split_ifs
    · cases s.queue.look with
      | none => exact Finset.mem_erase_of_ne_of_mem hne h
      | some p => exact Finset.mem_erase_of_ne_of_mem hne h
    · exact h
  | await c =>
    rw [System.step]
    split_ifs
    · exact Finset.mem_insert_of_mem h
    · exact h
    · exact h
  | success batch =>
    rw [System.step]
    split_ifs
    · exact s.woken_settle _ h
    · exact h
  | failure batch =>
    rw [System.step]
    split_ifs
    · exact s.woken_settle _ h
    · exact h

theorem leaving_step {s : System} (h : caller ∈ s.leaving) {e : Event} (he : e ≠ .await caller) :
    caller ∈ (s.step e).leaving := by
  cases e with
  | mark ids => exact (s.leaving_settle _).symm ▸ h
  | look c =>
    rw [System.step]
    split_ifs
    · cases s.queue.look with
      | none => exact Finset.mem_insert_of_mem h
      | some p => exact h
    · exact h
  | await c =>
    have hne : caller ≠ c := fun heq => he (heq ▸ rfl)
    rw [System.step]
    split_ifs
    · exact Finset.mem_erase_of_ne_of_mem hne h
    · exact Finset.mem_erase_of_ne_of_mem hne h
    · exact h
  | success batch =>
    rw [System.step]
    split_ifs
    · exact (s.leaving_settle _).symm ▸ h
    · exact h
  | failure batch =>
    rw [System.step]
    split_ifs
    · exact (s.leaving_settle _).symm ▸ h
    · exact h

/-- Somebody is handed something, at some time. -/
theorem not_quiet (hwork : (r.state n).queue.hasWork = true)
    (hnone : (r.state n).queue.inFlight = none) (hwaits : (r.state n).Waits) : ¬r.Quiet n := by
  intro hquiet
  have hstuck : ∀ m ≥ n, Stuck (r.state n).queue (r.state m).queue :=
    fun m hm => stuck_of_quiet hwork hnone hm fun k hk _ => hquiet k hk
  -- A caller that was woken looks, and there is work.
  have hwoken : ∀ m ≥ n, ∀ caller, caller ∉ (r.state m).woken := by
    intro m hm caller hcaller
    obtain ⟨k, hk, hlook, hstill⟩ := exists_until (P := fun s => caller ∈ s.woken)
      (fun _ _ h he => woken_step h he) hcaller (r.looks m caller hcaller)
    have hmay : (r.state k).mayLook caller =
      true := by simp only [System.mayLook, hstill, decide_true, Bool.true_or]
    have hhanded := handed_of_look hmay (hstuck k (hm.trans hk)).work
      (hstuck k (hm.trans hk)).inFlight
    rw [← hlook, hquiet k (hm.trans hk)] at hhanded
    cases hhanded
  have hpermit : ∀ m ≥ n, (r.state m).permit = true := by
    intro m hm
    refine ((r.attended m).attended (hstuck m hm).work (hstuck m hm).inFlight).resolve_right
      fun hsome => ?_
    obtain ⟨caller, hcaller⟩ := Finset.nonempty_iff_ne_empty.mpr hsome
    exact hwoken m hm caller hcaller
  rcases hwaits with hleaving | hwaiting | hsome
  · -- A caller that asks for the notification finds the permit.
    obtain ⟨caller, hcaller⟩ := Finset.nonempty_iff_ne_empty.mpr hleaving
    obtain ⟨k, hk, hawait, hstill⟩ := exists_until (P := fun s => caller ∈ s.leaving)
      (fun _ _ h he => leaving_step h he) hcaller (r.awaits n caller hcaller)
    refine hwoken (k + 1) (by omega) caller ?_
    rw [r.next, hawait, System.step, if_pos hstill, if_pos (hpermit k hk)]
    exact Finset.mem_insert_self _ _
  · exact hwaiting ((r.attended n).permitted (hpermit n (Nat.le_refl n)))
  · obtain ⟨caller, hcaller⟩ := Finset.nonempty_iff_ne_empty.mpr hsome
    exact hwoken n (Nat.le_refl n) caller hcaller

/-- **Work that is pending and not in flight is handed out**, all of it, if somebody waits. -/
theorem handed_of_fair (hwork : (r.state n).queue.hasWork = true)
    (hnone : (r.state n).queue.inFlight = none)
    (hwaits : (r.state n).Waits) : ∃ m ≥ n, ∃ batch, (r.state m).handed (r.event m) = some batch ∧
      (∀ id ∈ (r.state n).queue.pending, id ∈ batch.interfaceIds) ∧
        ((r.state n).queue.fullRescan = true → batch.fullRescan = true) := by
  classical
  -- some later event hands a batch out; take the first one
  have hex : ∃ m, n ≤ m ∧ (r.state m).handed (r.event m) ≠ none := by
    by_contra hno
    exact not_quiet hwork hnone hwaits fun m hm => by_contra fun hsome => hno ⟨m, hm, hsome⟩
  obtain ⟨hm, hsome⟩ := Nat.find_spec hex
  have hquiet : ∀ k, n ≤ k → k < Nat.find hex → (r.state k).handed (r.event k) = none :=
    fun k hk hlt => by_contra fun hsome => Nat.find_min hex hlt ⟨hk, hsome⟩
  generalize Nat.find hex = m at hm hsome hquiet
  obtain ⟨batch, hbatch⟩ := Option.ne_none_iff_exists'.mp hsome
  have hstuck := stuck_of_quiet hwork hnone hm hquiet
  refine ⟨m, hm, batch, hbatch, ?_⟩
  cases hevent : r.event m with
  | look caller =>
    rw [hevent] at hbatch
    by_cases hmay : (r.state m).mayLook caller = true
    · rw [handed_of_look hmay hstuck.work hstuck.inFlight] at hbatch
      obtain rfl := Option.some.inj hbatch
      exact ⟨fun id hid => (Finset.mem_sort _).mpr (hstuck.keeps.pending hid),
        hstuck.keeps.fullRescan⟩
    · rw [System.handed, if_neg hmay] at hbatch
      cases hbatch
  | mark ids => rw [hevent] at hbatch; cases hbatch
  | await caller => rw [hevent] at hbatch; cases hbatch
  | success batch => rw [hevent] at hbatch; cases hbatch
  | failure batch => rw [hevent] at hbatch; cases hbatch

/-- A caller finds nothing and waits, an interface wakes it, and it is done with it; then nothing
happens any more. -/
def servedEvent : ℕ → Event
  | 0 | 3 => .look 0
  | 1 => .await 0
  | 2 => .mark [7]
  | 4 => .success ⟨[7], false⟩
  | _ => .mark []

/-- The states on the way. -/
def servedState : ℕ → System
  | 0 => {}
  | 1 => { leaving := {0} }
  | 2 => { waiters := [0] }
  | 3 => { queue := { pending := {7} }, woken := {0} }
  | 4 => { queue := { inFlight := some ⟨[7], false⟩ }, lastTaken := some ⟨[7], false⟩ }
  | _ => { lastTaken := some ⟨[7], false⟩ }

/-- This run is fair: who is woken or found nothing has its turn next. -/
def served : FairRun where
  state := servedState
  event := servedEvent
  start := rfl
  next
    | 0 | 1 | 2 | 4 | _ + 5 => rfl
    | 3 => by
      rw [servedState, servedState, servedEvent, System.step, if_pos (by decide), Queue.look]
      simp [Queue.hasWork]
  looks
    | 3, caller, h => ⟨3, Nat.le_refl 3, congrArg Event.look (Finset.mem_singleton.mp h).symm⟩
    | 0, _, h | 1, _, h | 2, _, h | 4, _, h | _ + 5, _, h => (Finset.notMem_empty _ h).elim
  awaits
    | 1, caller, h => ⟨1, Nat.le_refl 1, congrArg Event.await (Finset.mem_singleton.mp h).symm⟩
    | 0, _, h | 2, _, h | 3, _, h | 4, _, h | _ + 5, _, h => (Finset.notMem_empty _ h).elim

example : ∃ m ≥ 3, ∃ batch, (served.state m).handed (served.event m) = some batch ∧
    7 ∈ batch.interfaceIds := by
  have hwaits : (served.state 3).Waits := Or.inr (Or.inr (Finset.singleton_ne_empty 0))
  obtain ⟨m, hm, batch, hbatch, hall, -⟩ := handed_of_fair (r := served) (n := 3) rfl rfl hwaits
  exact ⟨m, hm, batch, hbatch, hall 7 (Finset.mem_singleton_self 7)⟩

end FairRun

/-- **The wake queue loses no interface**, stays below its cap, and hands its work out. -/
theorem wake_queue_keeps :
    (∀ (s : System) (ids : List ℕ), ∀ id ∈ ids, ∀ es : List Event,
      let w := Run.run (Watched.step id) { system := s.step (.mark ids) } es
      w.done = false → w.system.queue.Covers id) ∧
      (∀ es : List Event, (Run.run System.step {} es).queue.pending.card ≤ maxDirtyInterfaces) ∧
        ∀ (r : FairRun) (n : ℕ), (r.state n).queue.hasWork = true →
          (r.state n).queue.inFlight = none →
          (r.state n).Waits → ∃ m ≥ n, ∃ batch, (r.state m).handed (r.event m) = some batch ∧
            (∀ id ∈ (r.state n).queue.pending, id ∈ batch.interfaceIds) ∧
              ((r.state n).queue.fullRescan = true → batch.fullRescan = true) :=
  ⟨fun s _ _ h es hdone => Watched.covers_of_not_done s h es hdone, card_pending_le,
    fun _ _ hwork hnone hwaits => FairRun.handed_of_fair hwork hnone hwaits⟩

end Rerouter.Wake
