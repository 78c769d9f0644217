import Rerouter.RuleRuns

/-!
# When a rule fires, and when it recovers

The alert edge is behind a run of matches that is long enough, and the end of firing behind a
run of recovered observations (`Rerouter.evaluateRule_persistent`). A rule is also firing again,
without an alert, as soon as one observation matches while its changes wait to be reverted:
persistence has no part in it (`Rerouter.not_firesOnStreak_relapse`).
-/

namespace Rerouter

open Streak

variable {F : Type} [Reading F]

/-! ### The law -/

/-- A run does not go back in time. -/
theorem span_nonneg {limit : ℤ} {run : List ℤ} (h : run.IsChain (Follows limit)) :
    0 ≤ span run := by
  induction run with
  | nil => simp [span]
  | cons first run ih =>
    cases run with
    | nil => simp [span]
    | cons second run =>
      obtain ⟨hfollows, hrest⟩ := List.isChain_cons_cons.mp h
      have hspan : span (second :: run) ≤ span (first :: second :: run) := by
        simp only [span, List.getLast?_cons_cons, List.head?_cons, Option.getD_some]
        have := hfollows.1
        omega
      exact (ih hrest).trans hspan

/-- What has been held for so many seconds spans them. -/
theorem HeldFor.le_span {limit : ℤ} {seconds : ℕ} {run : List ℤ} (h : HeldFor seconds run)
    (hrun : run.IsChain (Follows limit)) : (seconds : ℤ) ≤ span run := by
  rcases h with rfl | h
  · exact_mod_cast span_nonneg hrun
  · exact h

/-- What a run of the system has seen, from the beginning. -/
def sightings (cfg : DetectionConfig) (rule : InterfaceRule F) (target : Target)
    (events : List (RuleEvent F)) : List (Sight F) :=
  sights cfg rule ⟨target, {}⟩ events

/-- What a run of the system leaves of the rule. -/
def ruleAfter (cfg : DetectionConfig) (rule : InterfaceRule F) (target : Target)
    (events : List (RuleEvent F)) : RuleSystem :=
  Run.run (ruleStep cfg rule) ⟨target, {}⟩ events

/-- The rule has seen an unbroken run of hits that ends with the last thing it has seen: nothing
else between them, each later than the one before it and within the limit. -/
structure Streak (limit : ℤ) (hit : F → Bool) (seen : List (Sight F)) (run : List ℤ) : Prop where
  last : ∃ now value, seen.getLast? = some (.seen now value) ∧ hit value = true ∧
    run.getLast? = some now
  unbroken : Unbroken (Follows limit) (seen.map (Sight.mark hit)) run

/-- The run of matches that an alert takes. -/
def FiringStreak (cfg : DetectionConfig) (rule : InterfaceRule F) (seen : List (Sight F)) : Prop :=
  ∃ run, Streak (gapLimit cfg rule) rule.holds seen run ∧
    rule.consecutiveSamples ≤ run.length ∧ (rule.durationSeconds : ℤ) ≤ span run

/-- The run of recovered observations that the end of firing takes: in time for a flow rule,
and in number for any other. -/
def RecoveryStreak (cfg : DetectionConfig) (rule : InterfaceRule F)
    (seen : List (Sight F)) : Prop :=
  ∃ run, Streak (gapLimit cfg rule) rule.recovers seen run ∧
    (isFlowMetric rule.metric = true → (recoverySeconds rule : ℤ) ≤ span run) ∧
      (isFlowMetric rule.metric = false → recoverySamples rule ≤ run.length)

variable {cfg : DetectionConfig} {rule : InterfaceRule F}

omit [Reading F] in
/-- The run the counters follow is a streak, where the last thing seen is a hit. -/
theorem streak_runOf {hit : F → Bool} {seen : List (Sight F)} {now : ℤ} {value : F}
    (hhit : hit value = true) (limit : ℤ) :
    Streak limit hit (seen ++ [.seen now value]) (runOf limit hit (seen ++ [.seen now value])) where
  last := by
    refine ⟨now, value, by simp, hhit, ?_⟩
    rw [runOf_concat, advance_seen, if_pos hhit]
    exact getLast?_extend _ _
  unbroken := unbroken_current _

/-- **The law of persistence**, of every evaluation in every run. The alert edge is a rule's way
into firing, from a state where it does not, and there is a run of matches behind it as long and
as wide as the rule asks for; one other way leads there, back from a recovery whose changes are
still to be reverted, on an observation that matches. And a rule that stops firing has seen such
a run of recovered observations. -/
theorem evaluateRule_persistent (cfg : DetectionConfig) (rule : InterfaceRule F) (target : Target)
    (events : List (RuleEvent F)) (e : Evaluation F) :
    let before := ruleAfter cfg rule target events
    let after := ruleAfter cfg rule target (events ++ [.evaluate e])
    let outcome := (evaluateRule cfg rule before.target before.row e).outcome
    let seen := sightings cfg rule target (events ++ [.evaluate e])
    (outcome = .fired →
      before.row.state ≠ .firing ∧ after.row.state = .firing ∧ FiringStreak cfg rule seen) ∧
    (before.row.state ≠ .firing → after.row.state = .firing →
      outcome = .fired ∨
        before.row.state = .recoveredAwaitingRevert ∧ 0 < e.owned ∧
          ∃ now value, seen.getLast? = some (.seen now value) ∧ rule.holds value = true) ∧
    (before.row.state = .firing → after.row.state ≠ .firing → RecoveryStreak cfg rule seen) := by
  intro before after outcome seen
  -- the streak counters agree with what was seen in the run, which is all the law needs
  have htracks := run_tracks cfg rule target events
  have hafter : after = ruleStep cfg rule before (.evaluate e) := by
    simp [after, before, ruleAfter, Run.run_append]
  have hrow : after.row = (evaluateRule cfg rule before.target before.row e).row := by
    rw [hafter]
    rfl
  have hseen : seen = sightings cfg rule target events ++ [sight cfg rule before (.evaluate e)] :=
    sights_concat cfg rule _ events (.evaluate e)
  have hlaw := evaluateRule_lawful cfg e htracks
  rw [← runOf_concat, ← runOf_concat] at hlaw
  refine ⟨fun hfired => ?_, fun hbefore hfiring => ?_, fun hbefore hleft => ?_⟩
  · obtain ⟨now, value, hsight, hlawful⟩ := hlaw (.inl hfired)
    obtain ⟨hbefore, hfiring, hholds, hsamples, hheld⟩ := hlawful.fires hfired
    refine ⟨hbefore, hrow ▸ hfiring, _, ?_, hsamples, hheld.le_span (unbroken_current _).chain⟩
    rw [hseen]
    exact hsight ▸ streak_runOf hholds _
  · obtain ⟨now, value, hsight, hlawful⟩ :=
      hlaw (.inr fun hiff => hbefore (hiff.mpr (hrow ▸ hfiring)))
    rcases hlawful.enters hbefore (hrow ▸ hfiring) with hfired | ⟨hawaiting, howned, hholds⟩
    · exact .inl hfired
    · refine .inr ⟨hawaiting, howned, now, value, ?_, hholds⟩
      rw [hseen, List.getLast?_append]
      exact congrArg some hsight
  · obtain ⟨now, value, hsight, hlawful⟩ := hlaw (.inr fun hiff => hleft (hrow ▸ hiff.mp hbefore))
    obtain ⟨hrecovers, hflow, hsamples⟩ := hlawful.leaves hbefore (hrow ▸ hleft)
    refine ⟨_, ?_, fun hmetric => (hflow hmetric).le_span (unbroken_current _).chain, hsamples⟩
    rw [hseen]
    exact hsight ▸ streak_runOf hrecovers _

/-! ### The way back into firing -/

/-- Readings that are whole numbers. -/
instance : Reading ℤ where
  zero := 0
  add := (· + ·)
  less x y := decide (x < y)
  atMost x y := decide (x ≤ y)
  near x y := decide (x = y)
  far x y := decide (x ≠ y)

/-- `rx_bps > 100`, three times in a row. -/
def saturated : InterfaceRule ℤ where
  metric := ("rx_bps" : Text)
  flowProtocol := none
  flowPort := none
  operator := (">" : Text)
  thresholdValue := 100
  durationSeconds := 0
  consecutiveSamples := 3
  recoveryMode := .auto
  recoveryThresholdValue := none
  recoveryWindowSeconds := none
  recoveryConsecutiveSamples := none
  automaticRevertEnabled := false

/-- The default configuration. -/
def pollConfig : DetectionConfig := ⟨90, 60, false, true⟩

/-- A sample of interface 1, of a rule that owns one change. -/
def polled (t value : ℤ) : Evaluation ℤ where
  read id := if id = 1 then some (t, value) else none
  lowConfidence := false
  sourceCorroborated := true
  owned := 1
  recovery := ⟨1, 1, .refused, 1⟩
  fault := none

/-- It fires, and it recovers while its change is still there. -/
def relapsing : List (RuleEvent ℤ) :=
  [.evaluate (polled 10 200), .evaluate (polled 20 200), .evaluate (polled 30 200),
    .evaluate (polled 40 0), .evaluate (polled 50 0), .evaluate (polled 60 0)]

/-- A single match brings it back into firing. -/
theorem not_firesOnStreak_relapse :
    ¬ ∀ (events : List (RuleEvent ℤ)) (e : Evaluation ℤ),
      (ruleAfter pollConfig saturated (.single (some 1)) events).row.state ≠ .firing →
      (ruleAfter pollConfig saturated (.single (some 1)) (events ++ [.evaluate e])).row.state =
      .firing →
      FiringStreak pollConfig saturated
        (sightings pollConfig saturated (.single (some 1)) (events ++ [.evaluate e])) := by
  intro h
  obtain ⟨run, hstreak, hlong, -⟩ :=
    h relapsing (polled 70 200) (by decide +kernel) (by decide +kernel)
  have hmarks : (sightings pollConfig saturated (.single (some 1))
      (relapsing ++ [.evaluate (polled 70 200)])).map (Sight.mark saturated.holds) =
      [.hit 10, .hit 20, .hit 30, .broken, .broken] ++ .broken :: [.hit 70] := by decide +kernel
  have hshort := (hmarks ▸ hstreak.unbroken).length_le
  exact absurd hlong (by simp [saturated] at hshort ⊢; omega)

end Rerouter
