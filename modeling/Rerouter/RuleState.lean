import Mathlib.Data.List.MinMax
import Rerouter.Lib.Text

/-!
# The state of a rule

`detection/engine.rs`, as far as it decides which state a rule is in. An evaluation reads one
observation (`Rerouter.observe`), looks whether it is one of its own, that is, whether the
samples behind it have all advanced (`Rerouter.intake`), and then moves the row of
`rule_states` (`Rerouter.evaluateRule`).

Readings are `f64`; here they are of any type that comes with the comparisons the engine makes
(`Rerouter.Reading`). Times are those of `TIMESTAMP` columns: whole seconds.
-/

namespace Rerouter

open Text

/-! ### Conditions -/

/-- What the engine does with readings. Neither of `near` and `far` has to be the negation of
the other, nor do `less` and `atMost` have to be an order: a reading may be no number. -/
class Reading (F : Type) where
  zero : F
  add : F → F → F
  /-- `<` -/
  less : F → F → Bool
  /-- `<=` -/
  atMost : F → F → Bool
  /-- `(x - y).abs() < f64::EPSILON` -/
  near : F → F → Bool
  /-- `(x - y).abs() >= f64::EPSILON` -/
  far : F → F → Bool

/-- `condition::Op`. -/
inductive Op where
  | gt | ge | lt | le | eq | ne | between | outside | changed | stale
deriving DecidableEq

/-- The operators by their spelling. -/
def opTable : List (Text × Op) :=
  [((">" : Text), .gt), ((">=" : Text), .ge), (("<" : Text), .lt), (("<=" : Text), .le),
    (("==" : Text), .eq), (("=" : Text), .eq), (("!=" : Text), .ne), (("<>" : Text), .ne),
    (("between" : Text), .between), (("outside" : Text), .outside),
    (("changed" : Text), .changed), (("stale" : Text), .stale)]

/-- `Op::parse`. -/
def Op.parse (s : Text) : Option Op := opTable.lookup s

variable {F : Type} [Reading F]

/-- `Op::compare`. -/
def Op.compare (op : Op) (value threshold : F) : Bool :=
  match op with
  | .gt => Reading.less threshold value
  | .ge => Reading.atMost threshold value
  | .lt => Reading.less value threshold
  | .le => Reading.atMost value threshold
  | .eq => Reading.near value threshold
  | .ne => Reading.far value threshold
  | .between | .outside | .changed | .stale => false

/-- `Op::recovered`. -/
def Op.recovered (op : Op) (value threshold : F) : Bool :=
  match op with
  | .gt => Reading.atMost value threshold
  | .ge => Reading.less value threshold
  | .lt => Reading.atMost threshold value
  | .le => Reading.less threshold value
  | .eq => Reading.far value threshold
  | .ne => Reading.near value threshold
  | .between | .outside | .changed | .stale => false

/-! ### Rules -/

/-- `rules.recovery_mode`. -/
inductive RecoveryMode where
  | auto | threshold | manual
deriving DecidableEq

/-- `InterfaceRule`, as far as its state depends on it. -/
structure InterfaceRule (F : Type) where
  metric : Text
  flowProtocol : Option ℕ
  flowPort : Option ℕ
  operator : Text
  thresholdValue : F
  durationSeconds : ℕ
  consecutiveSamples : ℕ
  recoveryMode : RecoveryMode
  recoveryThresholdValue : Option F
  recoveryWindowSeconds : Option ℕ
  recoveryConsecutiveSamples : Option ℕ
  automaticRevertEnabled : Bool

/-- The `telemetry` and the `flow` of a `Config`. -/
structure DetectionConfig where
  staleAfterSeconds : ℕ
  bucketSeconds : ℕ
  automaticActionsEnabled : Bool
  allowlistEnrolledOnly : Bool

/-- `is_flow_metric`. -/
def isFlowMetric (metric : Text) : Bool := decide (metric ∈ (["flow_pps", "flow_bps"] : List Text))

/-- `SUMMABLE_METRICS`. -/
def summableMetrics : List Text :=
  ["rx_bps", "tx_bps", "rx_pps", "tx_pps", "in_err_rate", "out_err_rate"]

/-- What a rule watches: `interface_id`, or its rows of `rule_interfaces`. -/
inductive Target where
  | single (interface : Option ℕ)
  | sum (members : List ℕ)
deriving DecidableEq

/-- The interfaces that are watched. -/
def Target.interfaces : Target → List ℕ
  | .single interface => interface.toList
  | .sum members => members

/-- What is left when an interface is deleted. -/
def Target.without (id : ℕ) : Target → Target
  | .single interface => .single (interface.filter (· ≠ id))
  | .sum members => .sum (members.filter (· ≠ id))

/-! ### Observations -/

/-- `Observation`. Its time is that of the oldest sample behind it. -/
structure Observation (F : Type) where
  value : F
  sampledAt : Option ℤ
  lowConfidence : Bool
  sourceCorroborated : Bool
  /-- The time of every sample, by interface. -/
  evidence : List (ℕ × ℤ)
  oldest : sampledAt = (evidence.map Prod.snd).min?

/-- The observation of one sample. -/
def Observation.ofSample (interface : ℕ) (sample : ℤ × F) (low corroborated : Bool) :
    Observation F where
  value := sample.2
  sampledAt := some sample.1
  lowConfidence := low
  sourceCorroborated := corroborated
  evidence := [(interface, sample.1)]
  oldest := rfl

/-- What `publish_recovery_attempt` does. -/
inductive RecoveryAttempt where
  /-- It may not publish one. -/
  | refused
  /-- There is nothing to publish, or it is published already. -/
  | nothing
  | published
deriving DecidableEq

/-- What `recover_and_clear` reads. -/
structure RecoveryReads where
  /-- `rule_owned_changes(_, false)`. -/
  allOwned : ℕ
  /-- `rule_owned_changes(_, true)`. -/
  eligible : ℕ
  attempt : RecoveryAttempt
  /-- `rule_owned_changes(_, false)`, once more at the end. -/
  remaining : ℕ
deriving DecidableEq

/-- Where the database fails an evaluation. -/
inductive EvaluationFault where
  /-- Before the evaluation has an observation, or on loading the row. -/
  | read
  /-- In `reset_unproven_streak`. -/
  | reset
  /-- Behind it, and before anything else is committed. -/
  | publish
  /-- Behind the recovery attempt. -/
  | settle
deriving DecidableEq

/-- What an evaluation meets outside of the row and the rule. -/
structure Evaluation (F : Type) where
  /-- The sample of an interface for the metric of the rule: its time and value, if it is
  valid and fresh and has this metric. -/
  read : ℕ → Option (ℤ × F)
  /-- Of a flow bucket. -/
  lowConfidence : Bool
  sourceCorroborated : Bool
  /-- `rule_owned_changes(_, false)`, of a row that awaits a revert. -/
  owned : ℕ
  recovery : RecoveryReads
  fault : Option EvaluationFault

/-- `interface_observation`. -/
def interfaceObservation (interface : Option ℕ) (e : Evaluation F) : Option (Observation F) := do
  let id ← interface
  let sample ← e.read id
  some (.ofSample id sample false true)

/-- `flow_observation`. There is no bucket for a protocol alone. -/
def flowObservation (rule : InterfaceRule F) (interface : Option ℕ) (e : Evaluation F) :
    Option (Observation F) :=
  if rule.flowProtocol.isSome && rule.flowPort.isNone then none
  else do
    let id ← interface
    let sample ← e.read id
    some (.ofSample id sample (e.lowConfidence || !e.sourceCorroborated) e.sourceCorroborated)

/-- The earlier of two times, as the sum keeps it in `newest`. -/
def newest (newest : Option ℤ) (ts : ℤ) : Option ℤ :=
  if newest.all fun n => ts < n then some ts else newest

theorem foldl_newest (times : List ℤ) (acc : ℤ) :
    times.foldl newest (some acc) = some (times.foldl min acc) := by
  induction times generalizing acc with
  | nil => rfl
  | cons ts times ih =>
    have hstep : newest (some acc) ts = some (min acc ts) := by
      simp only [newest, Option.all_some, decide_eq_true_eq]
      split_ifs with h
      · rw [min_eq_right h.le]
      · rw [min_eq_left (not_lt.mp h)]
    rw [List.foldl_cons, List.foldl_cons, hstep, ih]

/-- The loop of the sum finds the oldest sample. -/
theorem foldl_newest_none (times : List ℤ) : times.foldl newest none = times.min? := by
  cases times with
  | nil => rfl
  | cons ts times => exact foldl_newest times ts

/-- The observation of all members of a sum. -/
def Observation.ofSum (samples : List (ℕ × ℤ × F)) : Observation F where
  value := (samples.map fun s => s.2.2).foldl Reading.add Reading.zero
  sampledAt := (samples.map fun s => s.2.1).foldl newest none
  lowConfidence := false
  sourceCorroborated := true
  evidence := samples.map fun s => (s.1, s.2.1)
  oldest := by
    rw [foldl_newest_none, List.map_map]
    rfl

/-- `aggregate_observation`: any member without a sample blocks the sum. -/
def aggregateObservation (rule : InterfaceRule F) (members : List ℕ) (e : Evaluation F) :
    Option (Observation F) :=
  if rule.metric ∉ summableMetrics ∨ members = [] then none
  else (members.mapM fun id => (e.read id).map fun sample => (id, sample)).map .ofSum

/-- The observation of an evaluation. -/
def observe (rule : InterfaceRule F) (target : Target) (e : Evaluation F) :
    Option (Observation F) :=
  match target with
  | .sum members => aggregateObservation rule members e
  | .single interface =>
    if isFlowMetric rule.metric then flowObservation rule interface e
    else interfaceObservation interface e

/-! ### The row -/

/-- `rule_states.current_state`. -/
inductive RuleState where
  | clear | matching | firing | recoveredAwaitingRevert
deriving DecidableEq

/-- `RuleStateRow`. A rule without a row has the default. -/
structure RuleStateRow where
  currentState : Option RuleState := none
  firstMatchedAt : Option ℤ := none
  recoveryFirstAt : Option ℤ := none
  recoveryConsecutive : ℕ := 0
  consecutiveMatchCount : ℕ := 0
  /-- `last_observation_json`: the evidence of the last observation. -/
  lastObservation : Option (List (ℕ × ℤ)) := none
  lastObservationAt : Option ℤ := none
deriving DecidableEq

/-- The state, of a row that may have none. -/
def RuleStateRow.state (row : RuleStateRow) : RuleState := row.currentState.getD .clear

/-- `reset_unproven_streak`. -/
def resetUnprovenStreak (row : RuleStateRow) : RuleStateRow :=
  { row with
    currentState := if row.currentState = some .matching then some .clear else row.currentState
    firstMatchedAt := none
    consecutiveMatchCount := 0
    recoveryFirstAt := none
    recoveryConsecutive := 0 }

/-- `clear_state`: an operator clears the rule, or changes its condition. -/
def clearState (row : RuleStateRow) : RuleStateRow :=
  { row with
    currentState := some .clear
    firstMatchedAt := none
    recoveryFirstAt := none
    recoveryConsecutive := 0
    consecutiveMatchCount := 0 }

/-- Once nothing is left to revert, a row that awaited it is clear. -/
def rearm (owned : ℕ) (row : RuleStateRow) : RuleStateRow :=
  if row.state = .recoveredAwaitingRevert ∧ owned = 0 then
    { row with
      currentState := some .clear
      firstMatchedAt := none
      consecutiveMatchCount := 0 }
  else row

/-- `publish_simple_observation`, and the row `on_fire` writes. -/
def publishObservation (state : RuleState) (firstMatched : Option ℤ) (consecutive : ℕ)
    (obs : Observation F) (recoveryFirst : Option ℤ) (recoveryConsecutive : ℕ) : RuleStateRow where
  currentState := some state
  firstMatchedAt := firstMatched
  recoveryFirstAt := recoveryFirst
  recoveryConsecutive := recoveryConsecutive
  consecutiveMatchCount := consecutive
  lastObservation := some obs.evidence
  lastObservationAt := obs.sampledAt

/-- The row `publish_recovery_attempt` writes. -/
def awaitRevert (row : RuleStateRow) (obs : Observation F) : RuleStateRow :=
  { row with
    currentState := some .recoveredAwaitingRevert
    recoveryFirstAt := none
    recoveryConsecutive := 0
    lastObservation := some obs.evidence
    lastObservationAt := obs.sampledAt }

/-! ### An evaluation -/

/-- What `evaluate_rule` returns. -/
inductive Outcome where
  /-- `Ok(true)`: the alert edge. -/
  | fired
  /-- `Ok(false)`. -/
  | quiet
  /-- `Ok(false)`, of a recovery that has to wait: nothing was written. -/
  | pending
  | failed
deriving DecidableEq

/-- The row an evaluation leaves, and what it returns. -/
structure Evaluated where
  row : RuleStateRow
  outcome : Outcome
deriving DecidableEq

/-- `evidence_advanced`. -/
def evidenceAdvanced (previous : Option (List (ℕ × ℤ))) (evidence : List (ℕ × ℤ)) : Bool :=
  !evidence.isEmpty &&
    evidence.all fun sample =>
      match previous.bind fun p => p.lookup sample.1 with
      | none => true
      | some prior => decide (prior < sample.2)

/-- `u32::MAX`. -/
def countMax : ℕ := 4294967295

/-- `saturating_add(1)`. -/
def countUp (n : ℕ) : ℕ := min (n + 1) countMax

/-- `as i64`. -/
def asI64 (n : ℕ) : ℤ := if n < 9223372036854775808 then n else n - 18446744073709551616

/-- `gap_limit`. -/
def gapLimit (cfg : DetectionConfig) (rule : InterfaceRule F) : ℤ :=
  asI64 (if isFlowMetric rule.metric then
    max cfg.staleAfterSeconds (min (cfg.bucketSeconds * 3) 18446744073709551615)
  else cfg.staleAfterSeconds)

/-- What the beginning of an evaluation comes to. -/
inductive Intake (F : Type) where
  /-- Nothing to evaluate: a repeated sample, say. -/
  | ignored
  | failed
  | missing
  /-- An observation of its own, behind a gap perhaps. -/
  | fresh (op : Op) (obs : Observation F) (now : ℤ) (gap : Bool)

/-- `evaluate_rule_inner`, until it has an observation to act on. -/
def intake (cfg : DetectionConfig) (rule : InterfaceRule F) (target : Target) (row : RuleStateRow)
    (e : Evaluation F) : Intake F :=
  match Op.parse rule.operator with
  | none => .ignored
  | some op =>
    if e.fault = some .read then .failed
    else
      match observe rule target e with
      | none => if e.fault = some .reset then .failed else .missing
      | some obs =>
        if !evidenceAdvanced row.lastObservation obs.evidence then .ignored
        else
          match obs.sampledAt with
          | none => .failed
          | some now =>
            if row.lastObservationAt.any fun last => gapLimit cfg rule < now - last then
              if e.fault = some .reset then .failed else .fresh op obs now true
            else .fresh op obs now false

/-- `persistence_satisfied`. -/
def persistenceSatisfied (durationSeconds : ℕ) (heldSeconds : ℤ)
    (consecutiveSamples consecutiveMatches : ℕ) : Bool :=
  (decide (durationSeconds = 0) || decide ((durationSeconds : ℤ) ≤ heldSeconds)) &&
    (decide (consecutiveSamples = 0) || decide (consecutiveSamples ≤ consecutiveMatches))

/-- An observation that matches. -/
def advanceMatched (rule : InterfaceRule F) (obs : Observation F) (now : ℤ) (prev : RuleStateRow) :
    Evaluated :=
  if prev.state = .recoveredAwaitingRevert then
    ⟨publishObservation .firing (some (prev.firstMatchedAt.getD now))
      (countUp prev.consecutiveMatchCount) obs none 0, .quiet⟩
  else if persistenceSatisfied rule.durationSeconds (now - prev.firstMatchedAt.getD now)
      rule.consecutiveSamples (countUp prev.consecutiveMatchCount) ∧ prev.state ≠ .firing then
    ⟨publishObservation .firing (some (prev.firstMatchedAt.getD now))
      (countUp prev.consecutiveMatchCount) obs none 0, .fired⟩
  else if prev.state = .firing then
    ⟨publishObservation .firing (some (prev.firstMatchedAt.getD now))
      (countUp prev.consecutiveMatchCount) obs none 0, .quiet⟩
  else
    ⟨publishObservation .matching (some (prev.firstMatchedAt.getD now))
      (countUp prev.consecutiveMatchCount) obs none 0, .quiet⟩

/-- The gates of a flow rule that close automatic recovery. -/
def flowWithheld (cfg : DetectionConfig) (rule : InterfaceRule F) (obs : Observation F) : Bool :=
  isFlowMetric rule.metric &&
    (!cfg.automaticActionsEnabled || !cfg.allowlistEnrolledOnly || obs.lowConfidence ||
      !obs.sourceCorroborated)

/-- `recover_and_clear`. -/
def recoverAndClear (cfg : DetectionConfig) (rule : InterfaceRule F) (obs : Observation F)
    (prev : RuleStateRow) (e : Evaluation F) : Evaluated :=
  if !rule.automaticRevertEnabled then
    if e.recovery.allOwned = 0 then ⟨publishObservation .clear none 0 obs none 0, .quiet⟩
    else ⟨publishObservation .recoveredAwaitingRevert none 0 obs none 0, .quiet⟩
  else if flowWithheld cfg rule obs then
    ⟨publishObservation .recoveredAwaitingRevert none 0 obs none 0, .quiet⟩
  else if 0 < e.recovery.allOwned ∧ e.recovery.eligible = 0 then
    ⟨publishObservation .recoveredAwaitingRevert none 0 obs none 0, .quiet⟩
  else
    match e.recovery.attempt with
    | .refused => ⟨prev, .pending⟩
    | .nothing =>
      if e.fault = some .settle then ⟨prev, .failed⟩
      else if 0 < e.recovery.remaining then ⟨prev, .pending⟩
      else ⟨publishObservation .clear none 0 obs none 0, .quiet⟩
    | .published =>
      if e.fault = some .settle then ⟨awaitRevert prev obs, .failed⟩
      else if 0 < e.recovery.remaining then ⟨awaitRevert prev obs, .quiet⟩
      else ⟨publishObservation .clear none 0 obs none 0, .quiet⟩

/-- The seconds a flow rule has to have recovered for. -/
def recoverySeconds (rule : InterfaceRule F) : ℕ :=
  (if rule.recoveryMode = .threshold then rule.recoveryWindowSeconds else none).getD
    rule.durationSeconds

/-- The samples any other rule has to have recovered for. -/
def recoverySamples (rule : InterfaceRule F) : ℕ :=
  max ((if rule.recoveryMode = .threshold then rule.recoveryConsecutiveSamples else none).getD
    rule.consecutiveSamples) 1

/-- The metric is on the recovered side, of an observation that does not match. -/
def recoveredNow (rule : InterfaceRule F) (op : Op) (value : F) : Bool :=
  if rule.recoveryMode = .threshold then
    op.recovered value (rule.recoveryThresholdValue.getD rule.thresholdValue)
  else true

/-- An observation that does not match, of a rule that fires. -/
def advanceFiring (cfg : DetectionConfig) (rule : InterfaceRule F) (op : Op) (obs : Observation F)
    (now : ℤ) (prev : RuleStateRow) (e : Evaluation F) : Evaluated :=
  if rule.recoveryMode = .manual ∨ recoveredNow rule op obs.value = false then
    ⟨publishObservation .firing prev.firstMatchedAt prev.consecutiveMatchCount obs none 0, .quiet⟩
  else if isFlowMetric rule.metric then
    if recoverySeconds rule = 0 ∨
        (recoverySeconds rule : ℤ) ≤ now - prev.recoveryFirstAt.getD now then
      recoverAndClear cfg rule obs prev e
    else
      ⟨publishObservation .firing prev.firstMatchedAt prev.consecutiveMatchCount obs
        (some (prev.recoveryFirstAt.getD now)) prev.recoveryConsecutive, .quiet⟩
  else if recoverySamples rule ≤ countUp prev.recoveryConsecutive then
    recoverAndClear cfg rule obs prev e
  else
    ⟨publishObservation .firing prev.firstMatchedAt prev.consecutiveMatchCount obs none
      (countUp prev.recoveryConsecutive), .quiet⟩

/-- An observation that does not match. -/
def advanceUnmatched (cfg : DetectionConfig) (rule : InterfaceRule F) (op : Op)
    (obs : Observation F) (now : ℤ) (prev : RuleStateRow) (e : Evaluation F) : Evaluated :=
  if prev.state = .firing then advanceFiring cfg rule op obs now prev e
  else if prev.state = .recoveredAwaitingRevert then
    ⟨publishObservation .recoveredAwaitingRevert none 0 obs none 0, .quiet⟩
  else ⟨publishObservation .clear none 0 obs none 0, .quiet⟩

/-- An observation of its own. -/
def advanceRow (cfg : DetectionConfig) (rule : InterfaceRule F) (op : Op) (obs : Observation F)
    (now : ℤ) (prev : RuleStateRow) (e : Evaluation F) : Evaluated :=
  if e.fault = some .publish then ⟨prev, .failed⟩
  else if op.compare obs.value rule.thresholdValue then
    advanceMatched rule obs now (rearm e.owned prev)
  else advanceUnmatched cfg rule op obs now (rearm e.owned prev) e

/-- `evaluate_rule`. -/
def evaluateRule (cfg : DetectionConfig) (rule : InterfaceRule F) (target : Target)
    (row : RuleStateRow) (e : Evaluation F) : Evaluated :=
  match intake cfg rule target row e with
  | .ignored => ⟨row, .quiet⟩
  | .failed => ⟨row, .failed⟩
  | .missing => ⟨resetUnprovenStreak row, .quiet⟩
  | .fresh op obs now gap =>
    advanceRow cfg rule op obs now (if gap then resetUnprovenStreak row else row) e

/-! ### The system -/

/-- A rule as the database has it: what it watches, and its row. -/
structure RuleSystem where
  target : Target
  row : RuleStateRow
deriving DecidableEq

/-- What may happen to a rule. -/
inductive RuleEvent (F : Type) where
  | evaluate (e : Evaluation F)
  /-- An interface is deleted, and with it the rows that mention it. -/
  | interfaceRemoved (id : ℕ)
  /-- An operator clears the rule, or changes its condition. -/
  | cleared

/-- One event. -/
def ruleStep (cfg : DetectionConfig) (rule : InterfaceRule F) (s : RuleSystem) :
    RuleEvent F → RuleSystem
  | .evaluate e => ⟨s.target, (evaluateRule cfg rule s.target s.row e).row⟩
  | .interfaceRemoved id => ⟨s.target.without id, s.row⟩
  | .cleared => ⟨s.target, clearState s.row⟩

end Rerouter
