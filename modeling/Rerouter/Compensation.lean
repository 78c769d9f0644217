import Rerouter.BundleRun

/-!
# Freeze and compensation

The variables of the loop of a bundle are what its log says (`Rerouter.LoopState.Sound`), and
the end of a run is decided by them. A run freezes at the first ambiguous sibling or lost proof;
it compensates when a sibling failed under `abort_and_compensate`, and undoes what it changed in
reverse order; under the other policies it leaves everything in place, as `FailurePolicy` says
(`Rerouter.runBundle_freezesAndCompensates`).
-/

namespace Rerouter

open Unwind

/-! ### The loop keeps its books -/

/-- The variables of the loop are what the log says, after the siblings `done`. -/
structure LoopState.Sound (policy : FailurePolicy) (done : List BundleAction) (s : LoopState) :
    Prop where
  applied : s.applied = changedSiblings s.log
  inverses : inverses s.log = []
  early : ∀ e ∈ s.log.dropLast, e.ambiguous = false
  quiet : s.stoppedAt = none → ∀ e ∈ s.log, e.ambiguous = false
  freeze : s.freezeOnAmbiguity.toList = s.log.filterMap BundleEvent.ambiguousId
  frozen : (s.freezeOnAmbiguity.isSome || s.projectedStateLost) = s.log.any BundleEvent.ambiguous
  failure : s.anyFailure = s.log.any BundleEvent.failed
  corrective : s.correctiveFailure = s.log.any BundleEvent.correctiveFailed
  halts : s.stoppedAt = none → policy ≠ .continued → s.anyFailure = false
  stops : s.stoppedAt ≠ none →
    s.log.any BundleEvent.ambiguous = true ∨ (s.anyFailure = true ∧ policy ≠ .continued)
  prepared : s.succeededPrepared = s.log.filterMap BundleEvent.succeededPlan
  executed : s.stoppedAt = none → s.log.filterMap BundleEvent.action = done

variable {answers : Answers} {policy : FailurePolicy} {trigger : BundleTrigger}
  {actions done : List BundleAction} {a : BundleAction} {s : LoopState}

theorem LoopState.sound_start : LoopState.start.Sound policy [] := by
  constructor <;> simp [LoopState.start, changedSiblings, Rerouter.inverses]

theorem lostBecause_eq_none {changed unproven : Text} {answer : Except Text Bool} :
    lostBecause changed unproven answer = none ↔ proves answer = true := by
  rcases answer with e | _ | _ <;> simp [lostBecause, proves]

/-- A proof keeps the books. -/
theorem LoopState.Sound.reproved (h : s.Sound policy done) (hrun : s.stoppedAt = none)
    (position : ℕ) (changed unproven : Text) (answer : Except Text Bool) :
    (s.reproved position changed unproven answer).Sound policy done where
  applied := by simp [LoopState.reproved, h.applied, changedSiblings, BundleEvent.forwardChange]
  inverses := by
    have hinverses := h.inverses
    simp only [Rerouter.inverses] at hinverses
    simp [LoopState.reproved, Rerouter.inverses, hinverses, BundleEvent.inverse]
  early := by simpa [LoopState.reproved] using h.quiet hrun
  quiet := by
    intro hnone e he
    have hproves : proves answer = true := by
      simpa [LoopState.reproved, lostBecause_eq_none] using hnone
    rcases List.mem_append.mp he with he | he
    · exact h.quiet hrun e he
    · obtain rfl := List.mem_singleton.mp he
      simp [BundleEvent.ambiguous, hproves]
  freeze := by simp [LoopState.reproved, h.freeze, BundleEvent.ambiguousId]
  frozen := by
    simp [LoopState.reproved, ← h.frozen, BundleEvent.ambiguous, Bool.or_assoc]
  failure := by simp [LoopState.reproved, h.failure, BundleEvent.failed]
  corrective := by simp [LoopState.reproved, h.corrective, BundleEvent.correctiveFailed]
  halts := fun _ hpolicy => h.halts hrun hpolicy
  stops := by
    intro hstopped
    have hlost : proves answer = false := by
      simpa [LoopState.reproved, lostBecause_eq_none] using hstopped
    left
    simp [LoopState.reproved, BundleEvent.ambiguous, hlost]
  prepared := by simp [LoopState.reproved, h.prepared, BundleEvent.succeededPlan]
  executed := fun _ => by simp [LoopState.reproved, h.executed hrun, BundleEvent.action]

/-- The loop goes on after a sibling that is not ambiguous and succeeded, or failed under
`continue`. -/
theorem stoppedAt_ran {o : SiblingOutcome} (hrun : s.stoppedAt = none) :
    (s.ran policy a o).stoppedAt = none ↔
      o.ambiguous = false ∧ (o.succeeded = true ∨ policy = .continued) := by
  cases hambiguous : o.ambiguous <;> cases hsucceeded : o.succeeded <;>
    simp [LoopState.ran, hambiguous, hsucceeded, hrun]

/-- A sibling keeps the books. -/
theorem LoopState.Sound.ran (h : s.Sound policy done) (hrun : s.stoppedAt = none)
    (a : BundleAction) (o : SiblingOutcome) : (s.ran policy a o).Sound policy (done ++ [a]) where
  applied := by
    cases happlied : appliedSibling a o.toExecOutcome <;>
      simp [LoopState.ran, h.applied, changedSiblings, BundleEvent.forwardChange, happlied]
  inverses := by
    have hinverses := h.inverses
    simp only [Rerouter.inverses] at hinverses
    simp [LoopState.ran, Rerouter.inverses, hinverses, BundleEvent.inverse]
  early := by simpa [LoopState.ran] using h.quiet hrun
  quiet := by
    intro hnone e he
    have hclear := ((stoppedAt_ran hrun).mp hnone).1
    rcases List.mem_append.mp he with he | he
    · exact h.quiet hrun e he
    · obtain rfl := List.mem_singleton.mp he
      exact hclear
  freeze := by
    -- nothing was ambiguous before this sibling
    have hnone : s.log.filterMap BundleEvent.ambiguousId = [] := by
      rw [List.filterMap_eq_nil_iff]
      intro e he
      have hquiet := h.quiet hrun e he
      cases e <;> simp_all [BundleEvent.ambiguousId, BundleEvent.ambiguous]
    have hfreeze := h.freeze
    cases hambiguous : o.ambiguous <;> cases hid : o.rerouteId <;>
      simp_all [LoopState.ran, BundleEvent.ambiguousId]
  frozen := by
    have hfrozen := h.frozen
    cases hambiguous : o.ambiguous with
    | false => simpa [LoopState.ran, BundleEvent.ambiguous, hambiguous] using hfrozen
    | true =>
      have hid := o.isSome_rerouteId hambiguous
      simp [LoopState.ran, BundleEvent.ambiguous, hambiguous, hid]
  failure := by simp [LoopState.ran, h.failure, BundleEvent.failed]
  corrective := by simp [LoopState.ran, h.corrective, BundleEvent.correctiveFailed]
  halts := by
    intro hnone hpolicy
    have hsucceeded := ((stoppedAt_ran hrun).mp hnone).2.resolve_right hpolicy
    simp [LoopState.ran, h.halts hrun hpolicy, hsucceeded]
  stops := by
    intro hstopped
    rw [ne_eq, stoppedAt_ran hrun] at hstopped
    cases hambiguous : o.ambiguous with
    | true =>
      left
      simp [LoopState.ran, BundleEvent.ambiguous, hambiguous]
    | false =>
      right
      have hfailed : ¬(o.succeeded = true ∨ policy = .continued) := fun hgoes =>
        hstopped ⟨hambiguous, hgoes⟩
      rw [not_or, Bool.not_eq_true] at hfailed
      exact ⟨by simp [LoopState.ran, hfailed.1], hfailed.2⟩
  prepared := by
    cases hsucceeded : o.succeeded <;>
      simp [LoopState.ran, h.prepared, BundleEvent.succeededPlan, hsucceeded]
  executed := fun _ => by simp [LoopState.ran, h.executed hrun, BundleEvent.action]

/-- What stopped may not be asked what it has executed. -/
theorem LoopState.Sound.of_stopped (h : s.Sound policy done) (hstopped : s.stoppedAt ≠ none)
    (done' : List BundleAction) : s.Sound policy done' :=
  { h with executed := fun hnone => absurd hnone hstopped }

theorem LoopState.Sound.reproveReplacement (answers : Answers) (trigger : BundleTrigger)
    (a : BundleAction) (h : s.Sound policy done) (hrun : s.stoppedAt = none) :
    (reproveReplacement answers trigger a s).Sound policy done := by
  unfold Rerouter.reproveReplacement
  split
  · exact h.reproved hrun _ _ _ _
  · exact h

/-- **One turn of the loop keeps the books.** -/
theorem LoopState.Sound.runAction (answers : Answers) (trigger : BundleTrigger) (a : BundleAction)
    (h : s.Sound policy done) (hrun : s.stoppedAt = none) :
    (runAction answers policy trigger a s).Sound policy (done ++ [a]) := by
  have hproved := h.reproveReplacement answers trigger a hrun
  unfold Rerouter.runAction
  split
  · rename_i hstopped
    exact hproved.of_stopped (Option.isSome_iff_ne_none.mp hstopped) _
  · rename_i hstopped
    exact hproved.ran (by simpa using hstopped) a _

/-- **The loop keeps the books.** -/
theorem LoopState.Sound.runActions (answers : Answers) (trigger : BundleTrigger)
    (actions : List BundleAction) (h : s.Sound policy done) (hrun : s.stoppedAt = none) :
    (runActions answers policy trigger actions s).Sound policy (done ++ actions) := by
  induction actions generalizing s done with
  | nil => simpa [Rerouter.runActions] using h
  | cons a actions ih =>
    have hstep := h.runAction answers trigger a hrun
    rw [Rerouter.runActions]
    split
    · rename_i hstopped
      exact hstep.of_stopped (Option.isSome_iff_ne_none.mp hstopped) _
    · rename_i hstopped
      simpa using ih hstep (by simpa using hstopped)

theorem LoopState.Sound.proveFinalState (h : s.Sound policy done) :
    (proveFinalState answers s).Sound policy done := by
  unfold Rerouter.proveFinalState
  split
  · rename_i hopen
    simp only [Bool.and_eq_true, Option.isNone_iff_eq_none] at hopen
    exact h.reproved hopen.1.1 _ _ _ _
  · exact h

/-- The state after the siblings and the final proof. -/
def runToProof (answers : Answers) (policy : FailurePolicy) (trigger : BundleTrigger)
    (actions : List BundleAction) : LoopState :=
  proveFinalState answers (runActions answers policy trigger actions .start)

theorem sound_runToProof : (runToProof answers policy trigger actions).Sound policy actions := by
  have hstart : LoopState.start.Sound policy [] := LoopState.sound_start
  exact (hstart.runActions answers trigger actions rfl).proveFinalState

/-! ### The end of a run -/

/-- A run has to compensate: a sibling failed under `abort_and_compensate`, something was
changed, and nothing forbids to undo it. -/
def Compensates (policy : FailurePolicy) (log : List BundleEvent) : Prop :=
  policy = .abortAndCompensate ∧ log.any BundleEvent.failed = true ∧
    log.any BundleEvent.ambiguous = false ∧ log.any BundleEvent.correctiveFailed = false ∧
    changedSiblings log ≠ []

/-- What a run does, and what it reports. -/
structure FreezesAndCompensates (policy : FailurePolicy) (actions : List BundleAction)
    (r : BundleRun) : Prop where
  /-- Nothing follows an ambiguous sibling or a lost proof. -/
  freezes : ∀ pre e post, r.log = pre ++ e :: post → e.ambiguous = true → post = []
  /-- Compensation undoes the changes in reverse order, up to the first inverse that does not
  succeed, and reports the others. -/
  compensates : Compensates policy r.log → ∃ kept,
    Unwound (changedSiblings r.log) (inverses r.log) kept ∧ r.stillApplied = appliedIds kept
  otherwise : ¬Compensates policy r.log → inverses r.log = []
  frozen : r.log.any BundleEvent.ambiguous = true → r.log.any BundleEvent.correctiveFailed = false →
    ∀ id, id ∈ r.stillApplied ↔
      id ∈ appliedIds (changedSiblings r.log) ∨ id ∈ r.log.filterMap BundleEvent.ambiguousId
  aborted : r.state = .aborted → r.stillApplied = appliedIds (changedSiblings r.log)
  compensated : r.state = .compensated → Compensates policy r.log ∧ r.stillApplied = [] ∧
    inverses r.log = (changedSiblings r.log).reverse.map (·, true)
  succeeded : r.state = .succeeded → r.log.filterMap BundleEvent.action = actions ∧
    r.log.any BundleEvent.failed = false ∧
    (actions ≠ [] → r.log.getLast? = some (.reproved (.ok true)))

@[simp] theorem log_finished {results : List (ℕ × ExecOutcome)} {log : List BundleEvent}
    {persisted : Except Text Unit} {state : BundleState} {still : List ℕ} {reason : Option Text} :
    (finished results log persisted state still reason).log = log := by
  cases persisted <;> rfl

@[simp] theorem stillApplied_finished {results : List (ℕ × ExecOutcome)} {log : List BundleEvent}
    {persisted : Except Text Unit} {state : BundleState} {still : List ℕ} {reason : Option Text} :
    (finished results log persisted state still reason).stillApplied = still := by
  cases persisted <;> rfl

/-- A run ends in the state it was to end in, or blocked. -/
theorem state_finished {results : List (ℕ × ExecOutcome)} {log : List BundleEvent}
    {persisted : Except Text Unit} {state other : BundleState} {still : List ℕ}
    {reason : Option Text} (hblocked : other ≠ .compensationBlocked)
    (h : (finished results log persisted state still reason).state = other) : state = other := by
  cases persisted with
  | ok => exact h
  | error => exact absurd h.symm hblocked

theorem LoopState.Sound.freezes (h : s.Sound policy done) (pre : List BundleEvent) (e : BundleEvent)
    (post : List BundleEvent) (hlog : s.log = pre ++ e :: post) (he : e.ambiguous = true) :
    post = [] := by
  rcases List.eq_nil_or_concat post with rfl | ⟨init, last, rfl⟩
  · rfl
  · exfalso
    have hmem : e ∈ s.log.dropLast := by
      have hlog' : s.log = (pre ++ e :: init) ++ [last] := by simp [hlog]
      rw [hlog', List.dropLast_concat]
      simp
    rw [h.early e hmem] at he
    cases he

/-- A blocked bundle without an inverse, of a run that does not have to compensate. -/
theorem LoopState.Sound.finishBlocked (h : s.Sound policy done) (t : LoopState) (still : List ℕ)
    (summary : Text) (hno : ¬Compensates policy s.log)
    (hstill : s.log.any BundleEvent.ambiguous = true →
      s.log.any BundleEvent.correctiveFailed = false → still = s.frozenStill) :
    FreezesAndCompensates policy actions (finishBlocked answers t s.log still summary) := by
  constructor
  case freezes => simpa [Rerouter.finishBlocked] using h.freezes
  case compensates =>
    intro hcomp
    exact absurd (by simpa [Rerouter.finishBlocked] using hcomp) hno
  case otherwise =>
    intro _
    simpa [Rerouter.finishBlocked] using h.inverses
  case frozen =>
    intro hambiguous hcorrective id
    simp only [Rerouter.finishBlocked, log_finished, stillApplied_finished]
      at hambiguous hcorrective ⊢
    rw [hstill hambiguous hcorrective, ← h.freeze, ← h.applied, LoopState.frozenStill]
    -- the frozen change is reported beside the applied ones, and once when it is one of them
    cases hfreeze : s.freezeOnAmbiguity with
    | none => simp
    | some frozen =>
      dsimp only
      split
      · rename_i hmem
        constructor
        · exact Or.inl
        · rintro (hid | hid)
          · exact hid
          · obtain rfl : id = frozen := by simpa using hid
            exact hmem
      · simp
  case aborted =>
    intro hstate
    cases state_finished (by simp) hstate
  case compensated =>
    intro hstate
    cases state_finished (by simp) hstate
  case succeeded =>
    intro hstate
    cases state_finished (by simp) hstate

/-- A loop that came to its end, and whose final proof held. -/
theorem LoopState.Sound.finishCompleted (h : s.Sound policy actions) (hrun : s.stoppedAt = none)
    (hproof : s.anyFailure = false → actions ≠ [] →
      s.log.getLast? = some (.reproved (.ok true))) :
    FreezesAndCompensates policy actions (finishCompleted answers s) := by
  have hquiet : s.log.any BundleEvent.ambiguous = false := by
    simpa [List.any_eq_false] using h.quiet hrun
  have hlog : (Rerouter.finishCompleted answers s).log = s.log := by
    unfold Rerouter.finishCompleted
    split <;> simp
  -- a failed sibling does not stop the loop under `continue` only
  have hno : ¬Compensates policy s.log := by
    rintro ⟨rfl, hfailed, -⟩
    rw [← h.failure, h.halts hrun (by simp)] at hfailed
    cases hfailed
  constructor
  case freezes => simpa only [hlog] using h.freezes
  case compensates =>
    intro hcomp
    exact absurd (hlog ▸ hcomp) hno
  case otherwise =>
    intro _
    rw [hlog]
    exact h.inverses
  case frozen =>
    intro hambiguous
    rw [hlog, hquiet] at hambiguous
    cases hambiguous
  case aborted =>
    intro hstate
    rw [hlog, ← h.applied]
    unfold Rerouter.finishCompleted at hstate ⊢
    split
    · simp
    · rename_i hfailure
      rw [if_neg hfailure] at hstate
      cases state_finished (by simp) hstate
  case compensated =>
    intro hstate
    unfold Rerouter.finishCompleted at hstate
    split at hstate <;> cases state_finished (by simp) hstate
  case succeeded =>
    intro hstate
    rw [hlog, ← h.failure]
    unfold Rerouter.finishCompleted at hstate
    split at hstate
    · cases state_finished (by simp) hstate
    · rename_i hfailure
      have hfailure := Bool.eq_false_iff.mpr hfailure
      exact ⟨h.executed hrun, hfailure, hproof hfailure⟩

/-- A bundle that is left as it is, of a run that does not have to compensate. -/
theorem LoopState.Sound.finishAborted (h : s.Sound policy done) (summary : Text)
    (hquiet : s.log.any BundleEvent.ambiguous = false) (hno : ¬Compensates policy s.log) :
    FreezesAndCompensates policy actions
      (finished s.results s.log (answers.finishAndRelease s.log .aborted) .aborted
        (appliedIds s.applied) (some summary)) := by
  constructor
  case freezes => simpa using h.freezes
  case compensates =>
    intro hcomp
    exact absurd (by simpa using hcomp) hno
  case otherwise =>
    intro _
    simpa using h.inverses
  case frozen =>
    intro hambiguous
    rw [log_finished, hquiet] at hambiguous
    cases hambiguous
  case aborted =>
    intro _
    simp [h.applied]
  case compensated =>
    intro hstate
    cases state_finished (by simp) hstate
  case succeeded =>
    intro hstate
    cases state_finished (by simp) hstate

/-! ### Compensation -/

/-- What compensation does to the log: it attempts inverses, and nothing else. -/
theorem LoopState.Sound.unwindApplied (answers : Answers) (h : s.Sound policy done) :
    ∃ events, (Rerouter.unwindApplied answers s).1 = s.log ++ events ∧
      (∀ e ∈ events, ∃ sibling answer, e = .rolledBack sibling answer) ∧
      Unwound (changedSiblings s.log) (Rerouter.inverses (s.log ++ events))
        (Rerouter.unwindApplied answers s).2 := by
  obtain ⟨events, hlog, hevents, hunwound⟩ :=
    @unwound_unwind _ _ (attemptInverse answers) BundleEvent.undid BundleEvent.inverse
      (fun _ _ => rfl) s.applied s.log
  refine ⟨events, hlog, fun e he => ?_, ?_⟩
  · obtain ⟨past, sibling, rfl⟩ := hevents e he
    exact ⟨sibling, _, rfl⟩
  · have hnone := h.inverses
    simp only [Rerouter.inverses] at hnone
    rw [h.applied] at hunwound
    simpa [Rerouter.inverses, hnone, Rerouter.unwindApplied, h.applied] using hunwound

/-- Inverses are no siblings, and no proofs. -/
theorem any_append_rolledBack {log events : List BundleEvent} {p : BundleEvent → Bool}
    (hevents : ∀ e ∈ events, ∃ sibling answer, e = .rolledBack sibling answer)
    (hp : ∀ sibling answer, p (.rolledBack sibling answer) = false) :
    (log ++ events).any p = log.any p := by
  have hnone : events.any p = false := by
    rw [List.any_eq_false]
    intro e he
    obtain ⟨sibling, answer, rfl⟩ := hevents e he
    simp [hp]
  rw [List.any_append, hnone, Bool.or_false]

theorem changedSiblings_append_rolledBack {log events : List BundleEvent}
    (hevents : ∀ e ∈ events, ∃ sibling answer, e = .rolledBack sibling answer) :
    changedSiblings (log ++ events) = changedSiblings log := by
  have hnone : events.filterMap BundleEvent.forwardChange = [] := by
    rw [List.filterMap_eq_nil_iff]
    intro e he
    obtain ⟨sibling, answer, rfl⟩ := hevents e he
    rfl
  rw [changedSiblings, List.filterMap_append, hnone, List.append_nil, changedSiblings]

/-- **Compensation** of a run that has to compensate. -/
theorem LoopState.Sound.compensate (h : s.Sound policy done) (summary : Text)
    (hcomp : Compensates policy s.log) :
    FreezesAndCompensates policy actions (compensate answers s summary) := by
  obtain ⟨events, hlog, hevents, hunwound⟩ := h.unwindApplied answers
  have hrunlog : (Rerouter.compensate answers s summary).log = s.log ++ events := by
    unfold Rerouter.compensate Rerouter.finishBlocked
    split <;> simp [hlog]
  have hstill : (Rerouter.compensate answers s summary).stillApplied =
      appliedIds (Rerouter.unwindApplied answers s).2 := by
    unfold Rerouter.compensate Rerouter.finishBlocked
    split
    · rename_i hnone
      simp [List.isEmpty_iff.mp hnone, appliedIds]
    · simp
  -- inverses are no siblings: what the run has to compensate is what it had to before they ran
  have hchanged : changedSiblings (s.log ++ events) = changedSiblings s.log :=
    changedSiblings_append_rolledBack hevents
  have hambiguous : (s.log ++ events).any BundleEvent.ambiguous = false := by
    rw [any_append_rolledBack hevents fun _ _ => rfl]
    exact hcomp.2.2.1
  have hcomp' : Compensates policy (s.log ++ events) := by
    refine ⟨hcomp.1, ?_, hambiguous, ?_, ?_⟩
    · rw [any_append_rolledBack hevents fun _ _ => rfl]
      exact hcomp.2.1
    · rw [any_append_rolledBack hevents fun _ _ => rfl]
      exact hcomp.2.2.2.1
    · rw [hchanged]
      exact hcomp.2.2.2.2
  constructor
  -- nothing in the log is ambiguous, so nothing froze the run
  case freezes =>
    intro pre e post hsplit he
    have hnone := List.any_eq_false.mp hambiguous e (by rw [← hrunlog, hsplit]; simp)
    exact absurd he hnone
  case compensates =>
    intro _
    rw [hrunlog, hchanged]
    exact ⟨_, hunwound, hstill⟩
  case otherwise =>
    intro hno
    rw [hrunlog] at hno
    exact absurd hcomp' hno
  case frozen =>
    intro hfrozen
    rw [hrunlog, hambiguous] at hfrozen
    cases hfrozen
  case aborted =>
    intro hstate
    unfold Rerouter.compensate Rerouter.finishBlocked at hstate
    split at hstate <;> cases state_finished (by simp) hstate
  -- only the branch that found nothing left applied answers compensated
  case compensated =>
    intro hstate
    rw [hrunlog, hchanged, hstill]
    have hnone : (Rerouter.unwindApplied answers s).2 = [] := by
      unfold Rerouter.compensate Rerouter.finishBlocked at hstate
      split at hstate
      · rename_i hnone
        exact List.isEmpty_iff.mp hnone
      · cases state_finished (by simp) hstate
    rw [hnone] at hunwound
    exact ⟨hcomp', by rw [hnone]; rfl, hunwound.eq_nil_iff.mp rfl⟩
  case succeeded =>
    intro hstate
    unfold Rerouter.compensate Rerouter.finishBlocked at hstate
    split at hstate <;> cases state_finished (by simp) hstate

/-! ### The run -/

/-- A loop that stopped before its closure was looked at. -/
theorem LoopState.Sound.finishStopped (h : s.Sound policy done) (summary : Text)
    (hpolicy : policy = .continued → s.log.any BundleEvent.ambiguous = true)
    (hfailed : s.log.any BundleEvent.ambiguous = false → s.log.any BundleEvent.failed = true) :
    FreezesAndCompensates policy actions (finishStopped answers policy s summary) := by
  unfold Rerouter.finishStopped
  split
  -- a corrective action failed: the bundle stays blocked and no inverse is attempted
  · rename_i hcorrective
    rw [h.corrective] at hcorrective
    refine h.finishBlocked s _ summary ?_ ?_
    · rintro ⟨-, -, -, hnone, -⟩
      rw [hcorrective] at hnone
      cases hnone
    · intro _ hnone
      rw [hcorrective] at hnone
      cases hnone
  · rename_i hcorrective
    split
    -- an ambiguous outcome froze the run
    · rename_i hfrozen
      rw [h.frozen] at hfrozen
      refine h.finishBlocked s _ summary ?_ fun _ _ => rfl
      rintro ⟨-, -, hquiet, -⟩
      rw [hfrozen] at hquiet
      cases hquiet
    · rename_i hfrozen
      rw [h.frozen, Bool.not_eq_true] at hfrozen
      rw [h.corrective, Bool.not_eq_true] at hcorrective
      split
      -- nothing is applied, or the policy leaves what is applied where it is
      · rename_i hleave
        refine h.finishAborted summary hfrozen ?_
        rintro ⟨rfl, -, -, -, hchanged⟩
        simp [h.applied] at hleave
        exact hchanged hleave
      · rename_i hleave
        refine h.compensate summary ⟨?_, hfailed hfrozen, hfrozen, hcorrective, ?_⟩
        · cases policy with
          | abortAndCompensate => rfl
          | abort => simp at hleave
          | continued =>
            rw [hpolicy rfl] at hfrozen
            cases hfrozen
        · rintro hchanged
          rw [← h.applied] at hchanged
          simp [hchanged] at hleave

theorem LoopState.Sound.finishStopped_of_stops (h : s.Sound policy done) (summary : Text)
    (hstopped : s.stoppedAt ≠ none) :
    FreezesAndCompensates policy actions (Rerouter.finishStopped answers policy s summary) := by
  refine h.finishStopped summary ?_ ?_
  · intro hcontinued
    rcases h.stops hstopped with hambiguous | ⟨-, hpolicy⟩
    · exact hambiguous
    · exact absurd hcontinued hpolicy
  · intro hquiet
    rcases h.stops hstopped with hambiguous | ⟨hfailure, -⟩
    · rw [hquiet] at hambiguous
      cases hambiguous
    · rw [← h.failure]
      exact hfailure

/-- Siblings that all succeeded leave plans to prove. -/
theorem LoopState.Sound.succeededPrepared_ne_nil (h : s.Sound policy actions)
    (hrun : s.stoppedAt = none) (hfailure : s.anyFailure = false) (hne : actions ≠ []) :
    s.succeededPrepared ≠ [] := by
  rw [h.prepared]
  intro hnone
  rw [List.filterMap_eq_nil_iff] at hnone
  rw [h.failure, List.any_eq_false] at hfailure
  apply hne
  rw [← h.executed hrun, List.filterMap_eq_nil_iff]
  intro e he
  have hsucceeded := hfailure e he
  have hplan := hnone e he
  cases e <;> simp_all [BundleEvent.action, BundleEvent.succeededPlan, BundleEvent.failed]

/-- A run that was not stopped, and had no failure, ends with its final proof. -/
theorem getLast?_runToProof (hrun : (runToProof answers policy trigger actions).stoppedAt = none)
    (hfailure : (runToProof answers policy trigger actions).anyFailure = false)
    (hne : actions ≠ []) :
    (runToProof answers policy trigger actions).log.getLast? = some (.reproved (.ok true)) := by
  have hstart : LoopState.start.Sound policy [] := LoopState.sound_start
  have h := hstart.runActions answers trigger actions rfl
  rw [List.nil_append] at h
  unfold runToProof Rerouter.proveFinalState at hrun hfailure ⊢
  split
  · rename_i hopen
    rw [if_pos hopen] at hrun
    have hproves : proves (answers.verifyProjectedAfter
        (runActions answers policy trigger actions .start).log
        (runActions answers policy trigger actions .start).succeededPrepared) = true := by
      simpa [LoopState.reproved, lostBecause_eq_none] using hrun
    simp only [LoopState.reproved, List.getLast?_append, List.getLast?_singleton, Option.some_or]
    revert hproves
    rcases answers.verifyProjectedAfter _ _ with e | _ | _ <;> simp [proves]
  · rename_i hclosed
    rw [if_neg hclosed] at hrun hfailure
    have hprepared := h.succeededPrepared_ne_nil hrun hfailure hne
    simp [hrun, hfailure, hprepared] at hclosed

/-- **Freeze and compensation.** Whatever the siblings, the proofs and the inverses answer, and
under every policy: nothing follows the first ambiguous sibling or lost proof. Under
`abort_and_compensate` a run in which a sibling failed, none was ambiguous and no inverse
failed undoes what it changed in reverse order, up to the first inverse that does not succeed,
and reports what it kept; every other run attempts no inverse. `compensated` is the state of a
run that undid everything, and `succeeded` that of a run whose siblings all succeeded and whose
final proof held. -/
theorem runBundle_freezesAndCompensates (answers : Answers) (policy : FailurePolicy)
    (trigger : BundleTrigger) (actions : List BundleAction) :
    FreezesAndCompensates policy actions (runBundle answers policy trigger actions) := by
  have h : (runToProof answers policy trigger actions).Sound policy actions := sound_runToProof
  have hproof := @getLast?_runToProof answers policy trigger actions
  have hrun : runBundle answers policy trigger actions =
      finishRun answers policy (proveClosure answers trigger
        (runToProof answers policy trigger actions)) := rfl
  rw [hrun]
  generalize runToProof answers policy trigger actions = s at h hproof
  unfold proveClosure
  split
  · rename_i hopen
    simp only [Bool.and_eq_true, Option.isNone_iff_eq_none] at hopen
    cases closureFailure (answers.outstandingOwnedOriginals s.log) with
    | none =>
      unfold finishRun
      simp only [hopen.1]
      exact h.finishCompleted hopen.1 (hproof hopen.1)
    | some why =>
      -- what is outstanding after a corrective bundle freezes it without an inverse
      have hquiet := h.quiet hopen.1
      simp only [finishRun, Rerouter.finishStopped, if_true]
      refine h.finishBlocked _ _ _ ?_ ?_
      · rintro ⟨rfl, hfailed, -⟩
        rw [← h.failure, h.halts hopen.1 (by simp)] at hfailed
        cases hfailed
      · intro hambiguous
        obtain ⟨e, he, hambiguous⟩ := List.any_eq_true.mp hambiguous
        rw [hquiet e he] at hambiguous
        cases hambiguous
  · unfold finishRun
    split
    · rename_i hnone
      exact h.finishCompleted hnone (hproof hnone)
    · rename_i position why hstopped
      exact h.finishStopped_of_stops _ (by simp [hstopped])

/-! ### Under the other policies -/

/-- A plan that turns an interface on. -/
def enableInterface (device : ℕ) : PreparedDeviceAction :=
  { device
    templateId := 1
    templateName := "iface_no_shutdown"
    policyKind := none
    mode := .configurationOnly
    commands := ["configure terminal", "interface Gi0/0", "no shutdown", "end"]
    before := [.interfaceAdmin "Gi0/0" true]
    after := [.interfaceAdmin "Gi0/0" false]
    verify := []
    effect := .change
    inverse := none }

/-- Two siblings, on two devices. -/
def enableTwice : List BundleAction :=
  [⟨1, "iface_no_shutdown", 1, enableInterface 1, none⟩,
    ⟨2, "iface_no_shutdown", 2, enableInterface 2, none⟩]

/-- The first sibling changes its router, and the second is aborted before it is sent. -/
def secondFails : Answers where
  executeWith := fun _ a =>
    if a.position = 1 then
      ⟨⟨some 11, some .succeeded, some .changed, "reroute executed and verified", none⟩, by simp⟩
    else
      ⟨⟨some 12, some .failed, some .noop, "reroute aborted before command execution", none⟩,
          by simp⟩
  verifyProjectedAfter := fun _ _ => .ok true
  outstandingOwnedOriginals := fun _ => .ok []
  rollbackPersistedWith := fun _ _ => .ok none
  finishAndRelease := fun _ _ => .ok ()
  finishBlockedWithAlert := fun _ _ => .ok ()

/-- A run without an ambiguous sibling or a lost proof need not compensate: under `abort` it
leaves what it applied in place. -/
theorem not_compensates_abort : ¬∀ (answers : Answers) (policy : FailurePolicy)
    (trigger : BundleTrigger) (actions : List BundleAction),
    (runBundle answers policy trigger actions).log.any BundleEvent.ambiguous = false →
    (runBundle answers policy trigger actions).log.any BundleEvent.failed = true →
    ∃ kept, Unwound (changedSiblings (runBundle answers policy trigger actions).log)
      (inverses (runBundle answers policy trigger actions).log) kept := by
  intro h
  obtain ⟨kept, hkept⟩ := h secondFails .abort .manual enableTwice (by decide +kernel)
    (by decide +kernel)
  exact hkept.attempts_ne_nil (by decide +kernel) (by decide +kernel)

end Rerouter
