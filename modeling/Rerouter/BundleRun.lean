import Rerouter.Lib.Unwind
import Rerouter.DevicePlan
import Rerouter.Executor

/-!
# The run of a bundle

The loop of `reroute/bundle.rs` over the siblings of a bundle, once the locks of its devices are
held and its plan is proved, and what it does when the loop ends: `Rerouter.runBundle`.

The routers and the tables answer as they like (`Rerouter.Answers`), each answer depending on
all that happened before it. What a run did is its log: every proof it asked for, every sibling
it executed and every inverse it attempted, with the answers.

After an ambiguous sibling or a lost proof the log goes on with nothing; a run compensates only
under `abort_and_compensate`, and then it undoes what it changed in reverse order
(`Rerouter.runBundle_freezesAndCompensates`).
-/

namespace Rerouter

open Text Unwind

/-! ### Siblings and their outcomes -/

/-- `FailurePolicy`. -/
inductive FailurePolicy where
  /-- Stop, then roll back the siblings that already succeeded. -/
  | abortAndCompensate
  /-- Stop, but leave applied siblings in place for the operator to judge. -/
  | abort
  /-- Keep going. -/
  | continued
deriving DecidableEq

/-- `trigger_type` of a bundle. -/
inductive BundleTrigger where
  | manual | directManual | automatic | rollback | recovery | manualRecovery
deriving DecidableEq

def BundleTrigger.requiresReplacementReproof : BundleTrigger → Bool
  | manual | directManual | automatic => true
  | _ => false

def BundleTrigger.requiresCorrectiveClosure : BundleTrigger → Bool
  | rollback | recovery | manualRecovery => true
  | _ => false

/-- `BundleAction`: a sibling, with the plan prepared for it. -/
structure BundleAction where
  device : ℕ
  templateName : Text
  position : ℕ
  prepared : PreparedDeviceAction
  /-- Set for an inverse. -/
  originalRerouteId : Option ℕ
deriving DecidableEq

/-- `safety_phase`, its rank. -/
def safetyPhase (templateName : Text) : ℕ :=
  if templateName ∈ (["bgp_advertise_add", "bgp_session_enable", "iface_no_shutdown",
      "iface_tcp_adjust_mss"] : List Text) then 0
  else if templateName ∈ (["bgp_advertise_remove", "bgp_session_disable", "iface_shutdown",
      "iface_tcp_adjust_mss_remove", "null_route_prefix", "null_route_prefix_v6",
      "blackhole_prefix", "blackhole_prefix_v6"] : List Text) then 2
  else 1

/-- `prepared_rank`: an export policy ranks by what its plan does. -/
def BundleAction.preparedRank (a : BundleAction) : ℕ :=
  if a.templateName = ("bgp_export_policy_set" : Text) then
    match preparedSafetyEffect a.prepared with
    | .destructive => 2
    | .additive => 0
    | _ => 1
  else safetyPhase a.templateName

/-- `destructive_forward`. -/
def BundleAction.destructiveForward (trigger : BundleTrigger) (a : BundleAction) : Bool :=
  trigger.requiresReplacementReproof && decide (a.preparedRank = 2)

def BundleAction.isInverse (a : BundleAction) : Bool := a.originalRerouteId.isSome

/-- `ExecOutcome`, without what is only shown. -/
structure ExecOutcome where
  rerouteId : Option ℕ
  state : Option FinalState
  effect : Option MutationEffect
  message : Text
  blockedReason : Option Text
deriving DecidableEq

namespace ExecOutcome

def succeeded (o : ExecOutcome) : Bool := decide (o.state = some .succeeded)

def changed (o : ExecOutcome) : Bool := decide (o.effect = some .changed)

/-- Whether the effect of a sibling is unknown, or partial. -/
def ambiguous (o : ExecOutcome) : Bool :=
  decide (o.state = some .uncertain) || decide (o.effect = some .unknown) ||
    (!o.succeeded && o.changed)

/-- Why the bundle stops at it. -/
def why (o : ExecOutcome) : Text := o.blockedReason.getD o.message

end ExecOutcome

/-- What `execute_with` answers: an outcome without a row of `reroutes` was refused before
there was one, and then it has neither a state nor an effect. -/
structure SiblingOutcome extends ExecOutcome where
  refused : rerouteId = none → state = none ∧ effect = none

/-- An ambiguous sibling has a row. -/
theorem SiblingOutcome.isSome_rerouteId (o : SiblingOutcome) (h : o.ambiguous = true) :
    o.rerouteId.isSome = true := by
  rw [Option.isSome_iff_ne_none]
  intro hnone
  obtain ⟨hstate, heffect⟩ := o.refused hnone
  simp [ExecOutcome.ambiguous, ExecOutcome.changed, hstate, heffect] at h

/-- `AppliedSibling`. -/
structure AppliedSibling where
  rerouteId : ℕ
  position : ℕ
deriving DecidableEq

/-- The entry of `applied` that a forward sibling makes. -/
def appliedSibling (a : BundleAction) (o : ExecOutcome) : Option AppliedSibling :=
  if o.succeeded && o.changed && !a.isInverse then o.rerouteId.map fun id => ⟨id, a.position⟩
  else none

/-! ### What happens in a run -/

inductive BundleEvent where
  /-- `verify_projected_after`. -/
  | reproved (answer : Except Text Bool)
  | executed (action : BundleAction) (outcome : SiblingOutcome)
  /-- `rollback_persisted_with`; no answer means that there is no inverse. -/
  | rolledBack (sibling : AppliedSibling) (answer : Except Text (Option ExecOutcome))

/-- What the routers and the tables answer, by all that happened before. -/
structure Answers where
  executeWith : List BundleEvent → BundleAction → SiblingOutcome
  verifyProjectedAfter : List BundleEvent → List PreparedDeviceAction → Except Text Bool
  outstandingOwnedOriginals : List BundleEvent → Except Text (List ℕ)
  rollbackPersistedWith : List BundleEvent → AppliedSibling → Except Text (Option ExecOutcome)
  finishAndRelease : List BundleEvent → BundleState → Except Text Unit
  finishBlockedWithAlert : List BundleEvent → List ℕ → Except Text Unit

/-- `Ok(true)`. -/
def proves : Except Text Bool → Bool
  | .ok answer => answer
  | .error _ => false

/-- The inverse succeeded. -/
def restores : Except Text (Option ExecOutcome) → Bool
  | .ok (some o) => o.succeeded
  | _ => false

namespace BundleEvent

/-- A sibling that is ambiguous, or a projected state that is lost. -/
def ambiguous : BundleEvent → Bool
  | reproved answer => !proves answer
  | executed _ o => o.ambiguous
  | rolledBack _ _ => false

/-- A sibling that did not succeed. -/
def failed : BundleEvent → Bool
  | executed _ o => !o.succeeded
  | _ => false

/-- An inverse among the siblings that did not succeed. -/
def correctiveFailed : BundleEvent → Bool
  | executed a o => !o.succeeded && a.isInverse
  | _ => false

/-- A forward sibling that succeeded and changed its router. -/
def forwardChange : BundleEvent → Option AppliedSibling
  | executed a o => appliedSibling a o.toExecOutcome
  | _ => none

/-- The row of an ambiguous sibling. -/
def ambiguousId : BundleEvent → Option ℕ
  | executed _ o => if o.ambiguous then o.rerouteId else none
  | _ => none

/-- An attempt to undo a sibling, and whether it succeeded. -/
def inverse : BundleEvent → Option (AppliedSibling × Bool)
  | rolledBack sibling answer => some (sibling, restores answer)
  | _ => none

def action : BundleEvent → Option BundleAction
  | executed a _ => some a
  | _ => none

/-- The plan of a sibling that succeeded. -/
def succeededPlan : BundleEvent → Option PreparedDeviceAction
  | executed a o => if o.succeeded then some a.prepared else none
  | _ => none

/-- An inverse succeeded. -/
def undid : BundleEvent → Bool
  | rolledBack _ answer => restores answer
  | _ => false

end BundleEvent

/-- The siblings a run changed, in order. -/
def changedSiblings (log : List BundleEvent) : List AppliedSibling :=
  log.filterMap BundleEvent.forwardChange

/-- The inverses a run attempted, in order. -/
def inverses (log : List BundleEvent) : List (AppliedSibling × Bool) :=
  log.filterMap BundleEvent.inverse

/-! ### The loop -/

/-- The variables of the loop. -/
structure LoopState where
  log : List BundleEvent
  results : List (ℕ × ExecOutcome)
  applied : List AppliedSibling
  stoppedAt : Option (ℕ × Text)
  freezeOnAmbiguity : Option ℕ
  projectedStateLost : Bool
  anyFailure : Bool
  correctiveFailure : Bool
  succeededPrepared : List PreparedDeviceAction

def LoopState.start : LoopState := ⟨[], [], [], none, none, false, false, false, []⟩

/-- Why a proof that does not hold stops the bundle. -/
def lostBecause (changed unproven : Text) : Except Text Bool → Option Text
  | .ok true => none
  | .ok false => some changed
  | .error e => some (unproven ++ e)

/-- What is proved again goes into the log, and stops the bundle where it is lost. -/
def LoopState.reproved (s : LoopState) (position : ℕ) (changed unproven : Text)
    (answer : Except Text Bool) : LoopState :=
  { s with
    log := s.log ++ [.reproved answer]
    projectedStateLost := s.projectedStateLost || !proves answer
    stoppedAt := (lostBecause changed unproven answer).map fun why => (position, why) }

/-- Before a destructive step, what the earlier siblings made is proved again. -/
def reproveReplacement (answers : Answers) (trigger : BundleTrigger) (a : BundleAction)
    (s : LoopState) : LoopState :=
  if a.destructiveForward trigger && !s.succeededPrepared.isEmpty then
    s.reproved a.position
      "previously verified replacement state changed before the destructive action"
      "could not re-prove replacement state before the destructive action: "
      (answers.verifyProjectedAfter s.log s.succeededPrepared)
  else s

/-- A sibling ran. -/
def LoopState.ran (policy : FailurePolicy) (a : BundleAction) (s : LoopState) (o : SiblingOutcome) :
    LoopState where
  log := s.log ++ [.executed a o]
  results := s.results ++ [(a.position, o.toExecOutcome)]
  applied := s.applied ++ (appliedSibling a o.toExecOutcome).toList
  freezeOnAmbiguity := if o.ambiguous then o.rerouteId else s.freezeOnAmbiguity
  projectedStateLost := s.projectedStateLost
  anyFailure := s.anyFailure || !o.succeeded
  correctiveFailure := s.correctiveFailure || (!o.succeeded && a.isInverse)
  succeededPrepared := if o.succeeded then s.succeededPrepared ++ [a.prepared]
    else s.succeededPrepared
  stoppedAt :=
    if o.ambiguous || (!o.succeeded && decide (policy ≠ .continued)) then some (a.position, o.why)
    else s.stoppedAt

/-- One turn of the loop. -/
def runAction (answers : Answers) (policy : FailurePolicy) (trigger : BundleTrigger)
    (a : BundleAction) (s : LoopState) : LoopState :=
  if (reproveReplacement answers trigger a s).stoppedAt.isSome then
    reproveReplacement answers trigger a s
  else
    (reproveReplacement answers trigger a s).ran policy a
      (answers.executeWith (reproveReplacement answers trigger a s).log a)

/-- The loop, until it stops. -/
def runActions (answers : Answers) (policy : FailurePolicy) (trigger : BundleTrigger) :
    List BundleAction → LoopState → LoopState
  | [], s => s
  | a :: actions, s =>
    if (runAction answers policy trigger a s).stoppedAt.isSome then
      runAction answers policy trigger a s
    else runActions answers policy trigger actions (runAction answers policy trigger a s)

/-- `u32::MAX`: the position of what is found after the last sibling. -/
def u32Max : ℕ := 4294967295

/-- The final proof of a bundle whose siblings all succeeded. -/
def proveFinalState (answers : Answers) (s : LoopState) : LoopState :=
  if s.stoppedAt.isNone && !s.anyFailure && !s.succeededPrepared.isEmpty then
    s.reproved u32Max "final projected bundle state no longer matches the routers"
      "could not prove final projected bundle state: "
      (answers.verifyProjectedAfter s.log s.succeededPrepared)
  else s

/-- Why a corrective bundle that is not closed stops. -/
def closureFailure : Except Text (List ℕ) → Option Text
  | .ok [] => none
  | .ok _ => some "corrective bundle finished without closing every original mutation"
  | .error e => some ("could not prove corrective ownership closure: " ++ e)

/-- A corrective bundle closes every original it owns. -/
def proveClosure (answers : Answers) (trigger : BundleTrigger) (s : LoopState) : LoopState :=
  if s.stoppedAt.isNone && trigger.requiresCorrectiveClosure then
    match closureFailure (answers.outstandingOwnedOriginals s.log) with
    | none => s
    | some why => { s with correctiveFailure := true, stoppedAt := some (u32Max, why) }
  else s

/-! ### The end of a run -/

/-- `BundleOutcome`, with the log of the run. -/
structure BundleRun where
  state : BundleState
  results : List (ℕ × ExecOutcome)
  stillApplied : List ℕ
  failureReason : Option Text
  log : List BundleEvent

/-- The outcome, or `finalization_failure_outcome` where it could not be written. -/
def finished (results : List (ℕ × ExecOutcome)) (log : List BundleEvent)
    (persisted : Except Text Unit)
    (state : BundleState) (still : List ℕ) (reason : Option Text) : BundleRun :=
  match persisted with
  | .ok _ => ⟨state, results, still, reason, log⟩
  | .error e =>
    ⟨.compensationBlocked, results, still,
      some
        ("terminal persistence failed; recovery ownership remains quarantined for startup repair: "
          ++ e), log⟩

def appliedIds (applied : List AppliedSibling) : List ℕ := applied.map AppliedSibling.rerouteId

/-- The loop did not stop. -/
def finishCompleted (answers : Answers) (s : LoopState) : BundleRun :=
  if s.anyFailure then
    finished s.results s.log (answers.finishAndRelease s.log .aborted) .aborted
      (appliedIds s.applied) (some ("one or more actions failed under continue policy" : Text))
  else finished s.results s.log (answers.finishAndRelease s.log .succeeded) .succeeded [] none

/-- The bundle stays blocked. -/
def finishBlocked (answers : Answers) (s : LoopState) (log : List BundleEvent) (still : List ℕ)
    (summary : Text) : BundleRun :=
  finished s.results log (answers.finishBlockedWithAlert log still) .compensationBlocked still
    (some summary)

/-- What a frozen bundle reports: what it applied, and the ambiguous sibling. -/
def LoopState.frozenStill (s : LoopState) : List ℕ :=
  match s.freezeOnAmbiguity with
  | none => appliedIds s.applied
  | some id =>
    if id ∈ appliedIds s.applied then appliedIds s.applied else appliedIds s.applied ++ [id]

/-- One attempt to undo a sibling. -/
def attemptInverse (answers : Answers) (log : List BundleEvent) (sibling : AppliedSibling) :
    BundleEvent :=
  .rolledBack sibling (answers.rollbackPersistedWith log sibling)

/-- The inverses, latest first. -/
def unwindApplied (answers : Answers) (s : LoopState) : List BundleEvent × List AppliedSibling :=
  unwind (attemptInverse answers) BundleEvent.undid s.log s.applied.reverse

/-- Compensation. -/
def compensate (answers : Answers) (s : LoopState) (summary : Text) : BundleRun :=
  if (unwindApplied answers s).2.isEmpty then
    finished s.results (unwindApplied answers s).1
      (answers.finishAndRelease (unwindApplied answers s).1 .compensated) .compensated []
      (some summary)
  else finishBlocked answers s (unwindApplied answers s).1
    (appliedIds (unwindApplied answers s).2) summary

/-- The loop stopped. -/
def finishStopped (answers : Answers) (policy : FailurePolicy) (s : LoopState) (summary : Text) :
    BundleRun :=
  if s.correctiveFailure then
    finishBlocked answers s s.log
      ((answers.outstandingOwnedOriginals s.log).toOption.getD []) summary
  else if s.freezeOnAmbiguity.isSome || s.projectedStateLost then
    finishBlocked answers s s.log s.frozenStill summary
  else if decide (policy = .abort) || s.applied.isEmpty then
    finished s.results s.log (answers.finishAndRelease s.log .aborted) .aborted
      (appliedIds s.applied) (some summary)
  else compensate answers s summary

def finishRun (answers : Answers) (policy : FailurePolicy) (s : LoopState) : BundleRun :=
  match s.stoppedAt with
  | none => finishCompleted answers s
  | some (position, why) =>
    finishStopped answers policy s
      ("stopped at action #" ++ natText position ++ (": " : Text) ++ why)

/-- The loop, and the proofs after it. -/
def runToEnd (answers : Answers) (policy : FailurePolicy) (trigger : BundleTrigger)
    (actions : List BundleAction) : LoopState :=
  proveClosure answers trigger
    (proveFinalState answers (runActions answers policy trigger actions .start))

/-- The run of a bundle. -/
def runBundle (answers : Answers) (policy : FailurePolicy) (trigger : BundleTrigger)
    (actions : List BundleAction) : BundleRun :=
  finishRun answers policy (runToEnd answers policy trigger actions)

end Rerouter
