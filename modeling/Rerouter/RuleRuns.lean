import Rerouter.Lib.Run
import Rerouter.Lib.Streak
import Rerouter.RuleState

/-!
# What the counters of a rule stand for

Every event of a run is something the rule sees, or does not see (`Rerouter.Sight`); and the
run of observations that match, and likewise the run of those on the recovered side, goes on
until it sees nothing, or something else, or an operator clears it. The counters of the row are
the lengths and the beginnings of these runs (`Rerouter.Tracks`), whatever happens
(`Rerouter.run_tracks`).

A rule that fires does not count its matches, and one that does not fire counts no recovery; so
the row says nothing about either run then, except where it ends.
-/

namespace Rerouter

open Streak

variable {F : Type} [Reading F]

/-! ### What a rule sees -/

/-- What an event is to the rule. -/
inductive Sight (F : Type) where
  /-- No observation of its own. -/
  | unseen
  /-- No observation, or one behind a gap that was lost with it. -/
  | missing
  /-- An operator cleared the rule. -/
  | cleared
  /-- An observation that was not recorded, since the recovery has to wait. -/
  | held (now : ℤ) (value : F)
  | seen (now : ℤ) (value : F)

/-- What an observation of its own comes to. -/
def Sight.ofEvaluated (obs : Observation F) (now : ℤ) (gap : Bool) (r : Evaluated) : Sight F :=
  if r.row.lastObservation = some obs.evidence then .seen now obs.value
  else if gap then .missing
  else if r.outcome = .pending then .held now obs.value
  else .unseen

/-- What an event is to the rule, in the state it happens in. -/
def sight (cfg : DetectionConfig) (rule : InterfaceRule F) (s : RuleSystem) :
    RuleEvent F → Sight F
  | .interfaceRemoved _ => .unseen
  | .cleared => .cleared
  | .evaluate e =>
    match intake cfg rule s.target s.row e with
    | .ignored => .unseen
    | .failed => .unseen
    | .missing => .missing
    | .fresh _ obs now gap => .ofEvaluated obs now gap (evaluateRule cfg rule s.target s.row e)

/-- What the events of a run are to the rule. -/
def sights (cfg : DetectionConfig) (rule : InterfaceRule F) :
    RuleSystem → List (RuleEvent F) → List (Sight F)
  | _, [] => []
  | s, e :: es => sight cfg rule s e :: sights cfg rule (ruleStep cfg rule s e) es

theorem sights_concat (cfg : DetectionConfig) (rule : InterfaceRule F) (s : RuleSystem)
    (es : List (RuleEvent F)) (e : RuleEvent F) :
    sights cfg rule s (es ++ [e]) =
      sights cfg rule s es ++ [sight cfg rule (Run.run (ruleStep cfg rule) s es) e] := by
  induction es generalizing s with
  | nil => rfl
  | cons e' es ih => simp [sights, ih]

/-- What a sight is to a run of observations that are hits. -/
def Sight.mark (hit : F → Bool) : Sight F → Mark ℤ
  | .unseen => .skip
  | .missing => .broken
  | .cleared => .broken
  | .held _ value => if hit value then .skip else .broken
  | .seen now value => if hit value then .hit now else .broken

/-- The condition of the rule. -/
def InterfaceRule.holds (rule : InterfaceRule F) (value : F) : Bool :=
  (Op.parse rule.operator).any fun op => op.compare value rule.thresholdValue

/-- The recovered side of the rule. A manual one has none. -/
def InterfaceRule.recovers (rule : InterfaceRule F) (value : F) : Bool :=
  decide (rule.recoveryMode ≠ .manual) &&
    (Op.parse rule.operator).any fun op =>
      !op.compare value rule.thresholdValue && recoveredNow rule op value

/-- One observation follows another: it is later, and the gap is not too long. -/
def Follows (limit : ℤ) (earlier later : ℤ) : Prop := earlier < later ∧ later - earlier ≤ limit

instance (limit : ℤ) : DecidableRel (Follows limit) :=
  fun _ _ => inferInstanceAs (Decidable (_ ∧ _))

/-- The seconds from the first to the last. -/
def span (run : List ℤ) : ℤ := run.getLast?.getD 0 - run.head?.getD 0

/-! ### Evidence -/

omit [Reading F] in
theorem ofSample_interfaces (interface : ℕ) (sample : ℤ × F) (low corroborated : Bool) :
    (Observation.ofSample interface sample low corroborated).evidence.map Prod.fst = [interface] :=
  rfl

omit [Reading F] in
/-- Every member of a sum has a sample, and no other interface. -/
theorem mapM_read_fst {e : Evaluation F} {members : List ℕ} {samples : List (ℕ × ℤ × F)}
    (h : (members.mapM fun id => (e.read id).map fun sample => (id, sample)) = some samples) :
    samples.map Prod.fst = members := by
  induction members generalizing samples with
  | nil =>
    obtain rfl : samples = [] := by simpa using h.symm
    rfl
  | cons id members ih =>
    simp only [List.mapM_cons, Option.bind_eq_bind, Option.bind_eq_some_iff, Option.map_eq_some_iff,
      Option.pure_def, Option.some.injEq] at h
    obtain ⟨_, ⟨sample, -, rfl⟩, rest, hrest, rfl⟩ := h
    rw [List.map_cons, ih hrest]

/-- **The evidence is that of the interfaces that are watched.** -/
theorem observe_interfaces {rule : InterfaceRule F} {target : Target} {e : Evaluation F}
    {obs : Observation F} (h : observe rule target e = some obs) :
    obs.evidence.map Prod.fst = target.interfaces := by
  cases target with
  | single interface =>
    have hsample : ∃ id sample low corroborated, interface = some id ∧
        obs = .ofSample id sample low corroborated := by
      simp only [observe] at h
      split_ifs at h
      · simp only [flowObservation] at h
        split_ifs at h
        obtain ⟨id, hid, h⟩ := Option.bind_eq_some_iff.mp h
        obtain ⟨sample, -, h⟩ := Option.bind_eq_some_iff.mp h
        exact ⟨id, sample, _, _, hid, (Option.some.inj h).symm⟩
      · obtain ⟨id, hid, h⟩ := Option.bind_eq_some_iff.mp h
        obtain ⟨sample, -, h⟩ := Option.bind_eq_some_iff.mp h
        exact ⟨id, sample, _, _, hid, (Option.some.inj h).symm⟩
    obtain ⟨id, sample, low, corroborated, rfl, rfl⟩ := hsample
    exact ofSample_interfaces id sample low corroborated
  | sum members =>
    simp only [observe, aggregateObservation] at h
    split_ifs at h
    obtain ⟨samples, hsamples, rfl⟩ := Option.map_eq_some_iff.mp h
    rw [← show samples.map Prod.fst = members from mapM_read_fst hsamples]
    simp [Observation.ofSum, Target.interfaces]

/-- A key of the list is looked up. -/
theorem exists_lookup {l : List (ℕ × ℤ)} {id : ℕ} (h : id ∈ l.map Prod.fst) :
    ∃ ts, l.lookup id = some ts ∧ (id, ts) ∈ l := by
  induction l with
  | nil => simp at h
  | cons sample l ih =>
    obtain ⟨key, ts⟩ := sample
    by_cases hkey : id = key
    · subst hkey
      exact ⟨ts, by simp, by simp⟩
    · have hid : id ∈ l.map Prod.fst := by simpa [hkey] using h
      obtain ⟨ts', hlookup, hmem⟩ := ih hid
      have hne : (id == key) = false := beq_eq_false_iff_ne.mpr hkey
      exact ⟨ts', by rw [List.lookup_cons, hne, ← hlookup], List.mem_cons_of_mem _ hmem⟩

/-- What has advanced is something else. -/
theorem ne_of_evidenceAdvanced {evidence : List (ℕ × ℤ)} {previous : Option (List (ℕ × ℤ))}
    (h : evidenceAdvanced previous evidence = true) : previous ≠ some evidence := by
  rintro rfl
  cases evidence with
  | nil => simp [evidenceAdvanced] at h
  | cons sample evidence =>
    obtain ⟨id, ts⟩ := sample
    simp only [evidenceAdvanced, Bool.and_eq_true, List.all_cons, Option.bind_some,
      List.lookup_cons_self] at h
    simp at h

/-- The oldest sample of what has advanced is later than that of what it has advanced from. -/
theorem lt_of_evidenceAdvanced {previous evidence : List (ℕ × ℤ)} {last now : ℤ}
    (h : evidenceAdvanced (some previous) evidence = true)
    (hcover : ∀ id ∈ evidence.map Prod.fst, id ∈ previous.map Prod.fst)
    (hlast : (previous.map Prod.snd).min? = some last)
    (hnow : (evidence.map Prod.snd).min? = some now) : last < now := by
  obtain ⟨⟨id, ts⟩, hsample, hts⟩ := List.mem_map.mp (List.min?_mem hnow)
  obtain rfl : ts = now := hts
  obtain ⟨prior, hlookup, hprior⟩ := exists_lookup (hcover id (List.mem_map_of_mem hsample))
  have hle : last ≤ prior :=
    (List.min?_eq_some_iff.mp hlast).2 prior (List.mem_map_of_mem (f := Prod.snd) hprior)
  have hlt : prior < ts := by
    simp only [evidenceAdvanced, Bool.and_eq_true, List.all_eq_true] at h
    simpa [hlookup] using h.2 (id, ts) hsample
  exact lt_of_le_of_lt hle hlt

/-! ### What the counters stand for -/

/-- `run` is one of observations that end with the last one of the row. -/
def AtEnd (row : RuleStateRow) (run : List ℤ) : Prop :=
  ∀ b ∈ run.getLast?, row.lastObservationAt = some b

/-- A row, next to the run of observations that match and to that of the recovered ones. The
first is what a rule that does not fire counts, and the second what one that fires does. -/
structure Tracks (flow : Bool) (target : Target) (row : RuleStateRow)
    (matching recovered : List ℤ) :
    Prop where
  /-- The cursor is that of the last observation. -/
  cursor : row.lastObservationAt = row.lastObservation.bind fun evidence =>
    (evidence.map Prod.snd).min?
  /-- It covers what is watched. -/
  covers : ∀ evidence ∈ row.lastObservation, ∀ id ∈ target.interfaces, id ∈ evidence.map Prod.fst
  matchingEnds : AtEnd row matching
  recoveredEnds : AtEnd row recovered
  counted : row.state = .clear ∨ row.state = .matching →
    row.consecutiveMatchCount = min matching.length countMax ∧ row.firstMatchedAt = matching.head?
  awaiting : row.state = .recoveredAwaitingRevert → matching = []
  firing : row.state = .firing →
    (flow = true → row.recoveryFirstAt = recovered.head?) ∧
      (flow = false → row.recoveryConsecutive = min recovered.length countMax)

section Tracking

variable {flow : Bool} {target : Target} {row prev : RuleStateRow} {matching recovered : List ℤ}

theorem AtEnd.nil : AtEnd row [] := fun b hb => by simp at hb

/-- A new row has seen nothing. -/
theorem tracks_default (flow : Bool) (target : Target) : Tracks flow target {} [] [] where
  cursor := rfl
  covers := by simp
  matchingEnds := AtEnd.nil
  recoveredEnds := AtEnd.nil
  counted := fun _ => ⟨rfl, rfl⟩
  awaiting := fun _ => rfl
  firing := fun h => by simp [RuleStateRow.state] at h

/-- A reset ends both runs. -/
theorem Tracks.reset (h : Tracks flow target row matching recovered) :
    Tracks flow target (resetUnprovenStreak row) [] [] where
  cursor := h.cursor
  covers := h.covers
  matchingEnds := AtEnd.nil
  recoveredEnds := AtEnd.nil
  counted := fun _ => ⟨rfl, rfl⟩
  awaiting := fun _ => rfl
  firing := fun _ => ⟨fun _ => rfl, fun _ => rfl⟩

/-- And so does an operator. -/
theorem Tracks.clear (h : Tracks flow target row matching recovered) :
    Tracks flow target (clearState row) [] [] where
  cursor := h.cursor
  covers := h.covers
  matchingEnds := AtEnd.nil
  recoveredEnds := AtEnd.nil
  counted := fun _ => ⟨rfl, rfl⟩
  awaiting := fun _ => rfl
  firing := fun _ => ⟨fun _ => rfl, fun _ => rfl⟩

theorem interfaces_without {id i : ℕ} (h : i ∈ (target.without id).interfaces) :
    i ∈ target.interfaces := by
  cases target with
  | single interface =>
    simp only [Target.without, Target.interfaces, Option.mem_toList,
      Option.filter_eq_some_iff] at h ⊢
    exact h.1
  | sum members => exact List.mem_of_mem_filter h

/-- What is deleted does not have to be covered any more. -/
theorem Tracks.without (h : Tracks flow target row matching recovered) (id : ℕ) :
    Tracks flow (target.without id) row matching recovered :=
  { h with
    covers := fun evidence hevidence i hi => h.covers evidence hevidence i (interfaces_without hi) }

theorem rearm_of_ne {owned : ℕ} (h : row.state ≠ .recoveredAwaitingRevert) :
    rearm owned row = row := if_neg fun hstate => h hstate.1

/-- A row that awaits a revert has seen no match since. -/
theorem Tracks.rearm (h : Tracks flow target row matching recovered) (owned : ℕ) :
    Tracks flow target (rearm owned row) matching recovered := by
  unfold Rerouter.rearm
  split_ifs with hstate
  · obtain rfl := h.awaiting hstate.1
    exact
      { h with
        matchingEnds := AtEnd.nil
        counted := fun _ => ⟨rfl, rfl⟩
        awaiting := fun _ => rfl
        firing := fun hfiring => by simp [RuleStateRow.state] at hfiring }
  · exact h

/-- A rule that fires does not count its matches. -/
theorem Tracks.forget (h : Tracks flow target row matching recovered)
    (hstate : row.state = .firing) :
    Tracks flow target row [] recovered :=
  { h with
    matchingEnds := AtEnd.nil
    counted := fun hcounted => by simp [hstate] at hcounted
    awaiting := fun _ => rfl }

/-! ### One observation -/

/-- One more of a run whose length is counted. -/
theorem countUp_min (n : ℕ) : countUp (min n countMax) = min (n + 1) countMax := by
  unfold countUp
  omega

theorem span_concat (run : List ℤ) (now : ℤ) :
    span (run ++ [now]) = now - run.head?.getD now := by
  cases run with
  | nil => simp [span]
  | cons first run => simp [span, List.getLast?_cons]

theorem head?_concat (run : List ℤ) (now : ℤ) :
    (run ++ [now]).head? = some (run.head?.getD now) := by
  cases run <;> rfl

variable {limit now : ℤ}

/-- The next observation of the row continues a run that ends with its last one. -/
def Next (limit : ℤ) (row : RuleStateRow) (now : ℤ) (run : List ℤ) : Prop :=
  ∀ b ∈ run.getLast?, row.lastObservationAt = some b → Follows limit b now

theorem extend_next {run : List ℤ} (hend : AtEnd row run) (hnext : Next limit row now run) :
    extend (Follows limit) run now = run ++ [now] :=
  extend_of_follows fun b hb => hnext b hb (hend b hb)

variable {cfg : DetectionConfig} {rule : InterfaceRule F} {op : Op} {obs : Observation F}
  {e : Evaluation F}

omit [Reading F] in
/-- What a row with a new observation tracks. -/
theorem tracks_publish {row : RuleStateRow} (hrow : row.lastObservation = some obs.evidence)
    (hat : row.lastObservationAt = obs.sampledAt) (hnow : obs.sampledAt = some now)
    (hobs : obs.evidence.map Prod.fst = target.interfaces)
    (hmatching : matching.getLast? = none ∨ matching.getLast? = some now)
    (hrecovered : recovered.getLast? = none ∨ recovered.getLast? = some now)
    (hcounted : row.state = .clear ∨ row.state = .matching →
      row.consecutiveMatchCount = min matching.length countMax ∧
        row.firstMatchedAt = matching.head?)
    (hawaiting : row.state = .recoveredAwaitingRevert → matching = [])
    (hfiring : row.state = .firing →
      (flow = true → row.recoveryFirstAt = recovered.head?) ∧
        (flow = false → row.recoveryConsecutive = min recovered.length countMax)) :
    Tracks flow target row matching recovered where
  cursor := by
    rw [hat, hrow]
    exact obs.oldest
  covers := by
    intro evidence hevidence id hid
    obtain rfl : obs.evidence = evidence := Option.some.inj (hrow.symm.trans hevidence)
    rwa [hobs]
  matchingEnds := by
    intro b hb
    rcases hmatching with hnone | hsome
    · simp [hnone] at hb
    · rw [hat, hnow, ← hsome]
      exact hb
  recoveredEnds := by
    intro b hb
    rcases hrecovered with hnone | hsome
    · simp [hnone] at hb
    · rw [hat, hnow, ← hsome]
      exact hb
  counted := hcounted
  awaiting := hawaiting
  firing := hfiring

omit [Reading F] in
/-- An observation that matches extends the run of matches, and ends the other. -/
theorem tracks_advanceMatched (h : Tracks flow target prev matching recovered)
    (hnow : obs.sampledAt = some now) (hobs : obs.evidence.map Prod.fst = target.interfaces)
    (hnext : Next limit prev now matching) :
    Tracks flow target (advanceMatched rule obs now prev).row
      (extend (Follows limit) matching now) [] := by
  have hpublished : ∀ state, (state = .firing ∨ state = .matching ∧
      (prev.state = .clear ∨ prev.state = .matching)) →
      Tracks flow target (publishObservation state (some (prev.firstMatchedAt.getD now))
        (countUp prev.consecutiveMatchCount) obs none 0)
        (extend (Follows limit) matching now) [] := by
    intro state hstate
    refine tracks_publish rfl rfl hnow hobs (.inr (getLast?_extend _ _)) (.inl rfl) ?_ ?_ ?_
    · intro hcounted
      rcases hstate with rfl | ⟨rfl, hprev⟩
      · simp [publishObservation, RuleStateRow.state] at hcounted
      · obtain ⟨hcount, hfirst⟩ := h.counted hprev
        rw [extend_next h.matchingEnds hnext, head?_concat, List.length_append]
        constructor
        · show countUp prev.consecutiveMatchCount = _
          rw [hcount, countUp_min]
          rfl
        · show some (prev.firstMatchedAt.getD now) = _
          rw [hfirst]
    · rcases hstate with rfl | ⟨rfl, -⟩
      · intro hawaiting
        simp [publishObservation, RuleStateRow.state] at hawaiting
      · intro hawaiting
        simp [publishObservation, RuleStateRow.state] at hawaiting
    · exact fun _ => ⟨fun _ => rfl, fun _ => rfl⟩
  unfold advanceMatched
  split_ifs with hawaiting hfires hfiring
  · exact hpublished .firing (.inl rfl)
  · exact hpublished .firing (.inl rfl)
  · exact hpublished .firing (.inl rfl)
  · refine hpublished .matching (.inr ⟨rfl, ?_⟩)
    cases hstate : prev.state with
    | clear => exact .inl rfl
    | matching => exact .inr rfl
    | firing => exact absurd hstate hfiring
    | recoveredAwaitingRevert => exact absurd hstate hawaiting

omit [Reading F] in
/-- A row that is not of a rule that fires counts no recovery, and has no match behind it. -/
theorem tracks_quiet {row : RuleStateRow} {run : List ℤ}
    (hrow : row.lastObservation = some obs.evidence)
    (hat : row.lastObservationAt = obs.sampledAt) (hnow : obs.sampledAt = some now)
    (hobs : obs.evidence.map Prod.fst = target.interfaces) (hfiring : row.state ≠ .firing)
    (hcounted : row.state = .clear ∨ row.state = .matching →
      row.consecutiveMatchCount = 0 ∧ row.firstMatchedAt = none)
    (hrun : run.getLast? = none ∨ run.getLast? = some now) :
    Tracks flow target row [] run :=
  tracks_publish hrow hat hnow hobs (.inl rfl) hrun hcounted (fun _ => rfl)
    fun h => absurd h hfiring

/-- The rule does not fire any more. -/
structure LeavesFiring (obs : Observation F) (r : Evaluated) : Prop where
  recorded : r.row.lastObservation = some obs.evidence
  recordedAt : r.row.lastObservationAt = obs.sampledAt
  left : r.row.state ≠ .firing
  counted : r.row.state = .clear ∨ r.row.state = .matching →
    r.row.consecutiveMatchCount = 0 ∧ r.row.firstMatchedAt = none
  outcome : r.outcome = .quiet ∨ r.outcome = .failed

omit [Reading F] in
theorem leavesFiring_publish {state : RuleState} (hstate : state ≠ .firing) :
    LeavesFiring obs ⟨publishObservation state none 0 obs none 0, .quiet⟩ where
  recorded := rfl
  recordedAt := rfl
  left := hstate
  counted := fun _ => ⟨rfl, rfl⟩
  outcome := .inl rfl

omit [Reading F] in
theorem leavesFiring_awaitRevert {outcome : Outcome} (h : outcome = .quiet ∨ outcome = .failed) :
    LeavesFiring obs ⟨awaitRevert prev obs, outcome⟩ where
  recorded := rfl
  recordedAt := rfl
  left := by simp [awaitRevert, RuleStateRow.state]
  counted := fun hstate => by simp [awaitRevert, RuleStateRow.state] at hstate
  outcome := h

omit [Reading F] in
/-- What `recover_and_clear` leaves: the row as it was, where it has to wait, and otherwise one
of a rule that does not fire. -/
theorem recoverAndClear_cases (cfg : DetectionConfig) (rule : InterfaceRule F) (obs : Observation F)
    (prev : RuleStateRow) (e : Evaluation F) :
    recoverAndClear cfg rule obs prev e = ⟨prev, .pending⟩ ∨
      recoverAndClear cfg rule obs prev e = ⟨prev, .failed⟩ ∨
        LeavesFiring obs (recoverAndClear cfg rule obs prev e) := by
  unfold recoverAndClear
  split
  · split
    · exact .inr (.inr (leavesFiring_publish (by simp)))
    · exact .inr (.inr (leavesFiring_publish (by simp)))
  split
  · exact .inr (.inr (leavesFiring_publish (by simp)))
  split
  · exact .inr (.inr (leavesFiring_publish (by simp)))
  split
  · exact .inl rfl
  · split
    · exact .inr (.inl rfl)
    split
    · exact .inl rfl
    · exact .inr (.inr (leavesFiring_publish (by simp)))
  · split
    · exact .inr (.inr (leavesFiring_awaitRevert (.inr rfl)))
    split
    · exact .inr (.inr (leavesFiring_awaitRevert (.inl rfl)))
    · exact .inr (.inr (leavesFiring_publish (by simp)))

/-- The run of recovered observations, after one that does not match. -/
def recoveredAfter (limit : ℤ) (rule : InterfaceRule F) (op : Op) (value : F) (now : ℤ)
    (recovered : List ℤ) : List ℤ :=
  if rule.recoveryMode ≠ .manual ∧ recoveredNow rule op value = true then
    extend (Follows limit) recovered now
  else []

/-- The run spans so many seconds; none are no condition. -/
def HeldFor (seconds : ℕ) (run : List ℤ) : Prop := seconds = 0 ∨ (seconds : ℤ) ≤ span run

/-- The run is as long as a recovery takes. -/
def Recovered (rule : InterfaceRule F) (run : List ℤ) : Prop :=
  (isFlowMetric rule.metric = true → HeldFor (recoverySeconds rule) run) ∧
    (isFlowMetric rule.metric = false → recoverySamples rule ≤ run.length)

theorem recoveredAfter_getLast? (limit : ℤ) (rule : InterfaceRule F) (op : Op) (value : F) (now : ℤ)
    (recovered : List ℤ) :
    (recoveredAfter limit rule op value now recovered).getLast? = none ∨
      (recoveredAfter limit rule op value now recovered).getLast? = some now := by
  unfold recoveredAfter
  split_ifs
  · exact .inr (getLast?_extend _ _)
  · exact .inl rfl

/-- What an observation that does not match is to a rule that fires. -/
theorem advanceFiring_cases (cfg : DetectionConfig) (op : Op) (e : Evaluation F)
    (h : Tracks (isFlowMetric rule.metric) target prev matching recovered)
    (hstate : prev.state = .firing) (hnow : obs.sampledAt = some now)
    (hobs : obs.evidence.map Prod.fst = target.interfaces)
    (hnext : Next limit prev now recovered) :
    let r := advanceFiring cfg rule op obs now prev e
    let run := recoveredAfter limit rule op obs.value now recovered
    (r.row = prev ∧ (r.outcome = .failed ∨ r.outcome = .pending ∧ run ≠ [])) ∨
      (r.row.lastObservation = some obs.evidence ∧ (r.outcome = .quiet ∨ r.outcome = .failed) ∧
        Tracks (isFlowMetric rule.metric) target r.row [] run ∧
        (r.row.state ≠ .firing → run.getLast? = some now ∧ Recovered rule run)) := by
  intro r run
  have hlast := recoveredAfter_getLast? limit rule op obs.value now recovered
  obtain ⟨hfirst, hcount⟩ := h.firing hstate
  have hpublish : ∀ recoveryFirst recoveryCount,
      (isFlowMetric rule.metric = true → recoveryFirst = run.head?) →
      (isFlowMetric rule.metric = false → recoveryCount = min run.length countMax) →
      Tracks (isFlowMetric rule.metric) target
        (publishObservation .firing prev.firstMatchedAt prev.consecutiveMatchCount obs
          recoveryFirst recoveryCount) [] run := fun _ _ hflow hsamples =>
    tracks_publish rfl rfl hnow hobs (.inl rfl) hlast
      (fun hcounted => by simp [publishObservation, RuleStateRow.state] at hcounted)
      (fun _ => rfl) fun _ => ⟨hflow, hsamples⟩
  -- Where the run is long enough, `recover_and_clear` ends the firing, or waits.
  have hrecovers : run = recovered ++ [now] → Recovered rule run →
      r = recoverAndClear cfg rule obs prev e →
      (r.row = prev ∧ (r.outcome = .failed ∨ r.outcome = .pending ∧ run ≠ [])) ∨
        (r.row.lastObservation = some obs.evidence ∧ (r.outcome = .quiet ∨ r.outcome = .failed) ∧
          Tracks (isFlowMetric rule.metric) target r.row [] run ∧
          (r.row.state ≠ .firing → run.getLast? = some now ∧ Recovered rule run)) := by
    intro hrun hrecovered hr
    have hend : run.getLast? = some now := by simp [hrun]
    rcases recoverAndClear_cases cfg rule obs prev e with hwait | hfail | hleaves
    · rw [hr, hwait]
      exact .inl ⟨rfl, .inr ⟨rfl, by simp [hrun]⟩⟩
    · rw [hr, hfail]
      exact .inl ⟨rfl, .inl rfl⟩
    · rw [← hr] at hleaves
      exact .inr ⟨hleaves.recorded, hleaves.outcome,
        tracks_quiet hleaves.recorded hleaves.recordedAt hnow hobs hleaves.left hleaves.counted
          hlast, fun _ => ⟨hend, hrecovered⟩⟩
  by_cases hheld : rule.recoveryMode = .manual ∨ recoveredNow rule op obs.value = false
  · have hr : r = ⟨publishObservation .firing prev.firstMatchedAt prev.consecutiveMatchCount obs
        none 0, .quiet⟩ := if_pos hheld
    have hrun : run = [] := if_neg (by
      rintro ⟨hmanual, hside⟩
      rcases hheld with hm | hs
      · exact hmanual hm
      · simp [hs] at hside)
    rw [hr]
    exact .inr ⟨rfl, .inl rfl, hpublish _ _ (fun _ => by rw [hrun]; rfl)
      (fun _ => by rw [hrun]; rfl),
      fun hne => absurd rfl hne⟩
  have hside : rule.recoveryMode ≠ .manual ∧ recoveredNow rule op obs.value = true := by
    simpa using hheld
  have hrun : run = recovered ++ [now] :=
    (if_pos hside).trans (extend_next h.recoveredEnds hnext)
  have hadvance : r = _ := if_neg hheld
  cases hflow : isFlowMetric rule.metric with
  | true =>
    have hspan : now - prev.recoveryFirstAt.getD now = span run := by
      rw [hrun, span_concat, hfirst hflow]
    rw [if_pos hflow, hspan] at hadvance
    rw [← hflow]
    split at hadvance
    next hlong =>
      exact hrecovers hrun ⟨fun _ => hlong, fun hne => by simp [hflow] at hne⟩ hadvance
    · rw [hadvance]
      refine .inr ⟨rfl, .inl rfl, hpublish _ _ (fun _ => ?_) (fun hne => by simp [hflow] at hne),
        fun hne => absurd rfl hne⟩
      rw [hrun, head?_concat, hfirst hflow]
  | false =>
    have hlength : countUp prev.recoveryConsecutive = min run.length countMax := by
      rw [hcount hflow, countUp_min, hrun, List.length_append]
      rfl
    rw [if_neg (by simp [hflow]), hlength] at hadvance
    rw [← hflow]
    split at hadvance
    next hlong =>
      exact hrecovers hrun
        ⟨fun hne => by simp [hflow] at hne, fun _ => hlong.trans (min_le_left _ _)⟩ hadvance
    · rw [hadvance]
      exact .inr ⟨rfl, .inl rfl, hpublish _ _ (fun hne => by simp [hflow] at hne) (fun _ => rfl),
        fun hne => absurd rfl hne⟩

/-- What an observation of its own does to the state of a rule, next to the runs behind it. -/
structure Lawful (rule : InterfaceRule F) (owned : ℕ) (value : F) (before after : RuleState)
    (outcome : Outcome) (matching recovered : List ℤ) : Prop where
  fires : outcome = .fired → before ≠ .firing ∧ after = .firing ∧ rule.holds value = true ∧
    rule.consecutiveSamples ≤ matching.length ∧ HeldFor rule.durationSeconds matching
  enters : before ≠ .firing → after = .firing →
    outcome = .fired ∨ before = .recoveredAwaitingRevert ∧ 0 < owned ∧ rule.holds value = true
  leaves : before = .firing → after ≠ .firing →
    rule.recovers value = true ∧ Recovered rule recovered

/-- The run of matches after an observation. -/
def matchingAfter (limit : ℤ) (rule : InterfaceRule F) (value : F) (now : ℤ) (matching : List ℤ) :
    List ℤ :=
  if rule.holds value then extend (Follows limit) matching now else []

/-- The run of recovered observations after one. -/
def recoveringAfter (limit : ℤ) (rule : InterfaceRule F) (value : F) (now : ℤ)
    (recovered : List ℤ) : List ℤ :=
  if rule.recovers value then extend (Follows limit) recovered now else []

/-- What comes of an observation of its own, of a row with these runs. -/
def Evolves (limit : ℤ) (rule : InterfaceRule F) (target : Target) (owned : ℕ) (value : F) (now : ℤ)
    (evidence : List (ℕ × ℤ)) (prev : RuleStateRow) (matching recovered : List ℤ) (r : Evaluated) :
    Prop :=
  (r.row = prev ∧ (r.outcome = .failed ∨
    r.outcome = .pending ∧ rule.holds value = false ∧ rule.recovers value = true ∧
      prev.state = .firing)) ∨
  (r.row.lastObservation = some evidence ∧ r.outcome ≠ .pending ∧
    Tracks (isFlowMetric rule.metric) target r.row (matchingAfter limit rule value now matching)
      (recoveringAfter limit rule value now recovered) ∧
    Lawful rule owned value prev.state r.row.state r.outcome
      (matchingAfter limit rule value now matching)
      (recoveringAfter limit rule value now recovered))

theorem holds_eq (hop : Op.parse rule.operator = some op) (value : F) :
    rule.holds value = op.compare value rule.thresholdValue := by
  simp [InterfaceRule.holds, hop]

theorem recovers_of_holds {value : F} (h : rule.holds value = true) :
    rule.recovers value = false := by
  unfold InterfaceRule.holds at h
  unfold InterfaceRule.recovers
  cases hop : Op.parse rule.operator with
  | none => simp
  | some op =>
    have hcompare : op.compare value rule.thresholdValue = true := by simpa [hop] using h
    simp [hcompare]

theorem recoveringAfter_eq (hop : Op.parse rule.operator = some op) {value : F}
    (h : rule.holds value = false) (limit now : ℤ) (recovered : List ℤ) :
    recoveringAfter limit rule value now recovered =
      recoveredAfter limit rule op value now recovered := by
  rw [holds_eq hop] at h
  unfold recoveringAfter recoveredAfter InterfaceRule.recovers
  simp [hop, h]

/-- A row is rearmed only where it awaits a revert and nothing is left. -/
theorem state_rearm (owned : ℕ) (row : RuleStateRow) :
    ((rearm owned row).state = .firing ↔ row.state = .firing) ∧
      ((rearm owned row).state = .recoveredAwaitingRevert →
        row.state = .recoveredAwaitingRevert ∧ 0 < owned) := by
  unfold rearm
  split_ifs with h
  · simp [RuleStateRow.state] at h ⊢
    simp [h.1]
  · refine ⟨Iff.rfl, fun hstate => ⟨hstate, Nat.pos_of_ne_zero fun hzero => h ⟨hstate, hzero⟩⟩⟩

omit [Reading F] in
/-- What `persistence_satisfied` says of the run that the row counts. -/
theorem persistent_of_satisfied {row : RuleStateRow} {run : List ℤ}
    (h : persistenceSatisfied rule.durationSeconds (now - row.firstMatchedAt.getD now)
      rule.consecutiveSamples (countUp row.consecutiveMatchCount) = true)
    (hcount : row.consecutiveMatchCount = min run.length countMax)
    (hfirst : row.firstMatchedAt = run.head?) :
    rule.consecutiveSamples ≤ (run ++ [now]).length ∧
      HeldFor rule.durationSeconds (run ++ [now]) := by
  simp only [persistenceSatisfied, Bool.and_eq_true, Bool.or_eq_true, decide_eq_true_eq] at h
  obtain ⟨hheld, hsamples⟩ := h
  rw [hfirst, ← span_concat] at hheld
  rw [hcount, countUp_min] at hsamples
  refine ⟨?_, hheld⟩
  rw [List.length_append, List.length_singleton]
  omega

/-- An observation that matches. -/
theorem evolves_matched (h : Tracks (isFlowMetric rule.metric) target prev matching recovered)
    (hholds : rule.holds obs.value = true) (hnow : obs.sampledAt = some now)
    (hobs : obs.evidence.map Prod.fst = target.interfaces)
    (hnext : Next limit prev now matching) :
    Evolves limit rule target e.owned obs.value now obs.evidence prev matching recovered
      (advanceMatched rule obs now (rearm e.owned prev)) := by
  have hmatching : matchingAfter limit rule obs.value now matching =
      extend (Follows limit) matching now := if_pos hholds
  have hrecovering : recoveringAfter limit rule obs.value now recovered = [] :=
    if_neg (by simp [recovers_of_holds hholds])
  have hrearmed := h.rearm e.owned
  have hat : (rearm e.owned prev).lastObservationAt = prev.lastObservationAt := by
    unfold rearm
    split_ifs <;> rfl
  have hnext' : Next limit (rearm e.owned prev) now matching := by
    intro b hb hlast
    exact hnext b hb (hat ▸ hlast)
  refine .inr ⟨?_, ?_, ?_, ?_⟩
  · unfold advanceMatched
    split_ifs <;> rfl
  · unfold advanceMatched
    split_ifs <;> simp
  · rw [hmatching, hrecovering]
    exact tracks_advanceMatched hrearmed hnow hobs hnext'
  rw [hmatching, hrecovering]
  obtain ⟨hfiring, hawaiting⟩ := state_rearm e.owned prev
  unfold advanceMatched
  split_ifs with hawaits hfires hfires'
  · obtain ⟨hprev, howned⟩ := hawaiting hawaits
    exact ⟨fun hfired => by simp at hfired, fun _ _ => .inr ⟨hprev, howned, hholds⟩,
      fun _ hleft => absurd rfl hleft⟩
  · have hcounted : (rearm e.owned prev).state = .clear ∨
      (rearm e.owned prev).state = .matching := by
      cases hstate : (rearm e.owned prev).state with
      | clear => exact .inl rfl
      | matching => exact .inr rfl
      | firing => exact absurd hstate hfires.2
      | recoveredAwaitingRevert => exact absurd hstate hawaits
    obtain ⟨hcount, hfirst⟩ := hrearmed.counted hcounted
    obtain ⟨hsamples, hheld⟩ := persistent_of_satisfied hfires.1 hcount hfirst
    rw [extend_next hrearmed.matchingEnds hnext']
    exact ⟨fun _ => ⟨mt hfiring.mpr hfires.2, rfl, hholds, hsamples, hheld⟩, fun _ _ => .inl rfl,
      fun _ hleft => absurd rfl hleft⟩
  · exact ⟨fun hfired => by simp at hfired, fun hprev => absurd (hfiring.mp hfires') hprev,
      fun _ hleft => absurd rfl hleft⟩
  · exact ⟨fun hfired => by simp at hfired,
      fun _ hafter => by simp [publishObservation, RuleStateRow.state] at hafter,
      fun hprev => absurd (hfiring.mpr hprev) hfires'⟩

/-- An observation that does not match. -/
theorem evolves_unmatched (hop : Op.parse rule.operator = some op)
    (h : Tracks (isFlowMetric rule.metric) target prev matching recovered)
    (hholds : rule.holds obs.value = false) (hnow : obs.sampledAt = some now)
    (hobs : obs.evidence.map Prod.fst = target.interfaces)
    (hnext : Next limit prev now recovered) :
    Evolves limit rule target e.owned obs.value now obs.evidence prev matching recovered
      (advanceUnmatched cfg rule op obs now (rearm e.owned prev) e) := by
  have hmatching : matchingAfter limit rule obs.value now matching = [] :=
    if_neg (by simp [hholds])
  have hrecovering := recoveringAfter_eq hop hholds limit now recovered
  obtain ⟨hfiring, hawaiting⟩ := state_rearm e.owned prev
  by_cases hstate : prev.state = .firing
  · have hprev : rearm e.owned prev = prev := rearm_of_ne (by simp [hstate])
    have hadvance : advanceUnmatched cfg rule op obs now (rearm e.owned prev) e =
        advanceFiring cfg rule op obs now prev e := by
      rw [hprev]
      exact if_pos hstate
    have hnonempty : recoveredAfter limit rule op obs.value now recovered ≠ [] →
        rule.recovers obs.value = true := by
      rw [← hrecovering]
      intro hne
      by_contra hside
      exact hne (if_neg hside)
    rw [hadvance]
    rcases advanceFiring_cases cfg op e h hstate hnow hobs hnext with
      ⟨hrow, hfail | ⟨hpending, hrun⟩⟩ | ⟨hrow, houtcome, htracks, hleft⟩
    · exact .inl ⟨hrow, .inl hfail⟩
    · exact .inl ⟨hrow, .inr ⟨hpending, hholds, hnonempty hrun, hstate⟩⟩
    · refine .inr ⟨hrow, by rcases houtcome with h | h <;> simp [h], ?_, ?_⟩
      · rw [hmatching, hrecovering]
        exact htracks
      · rw [hmatching, hrecovering]
        refine ⟨fun hfired => by rcases houtcome with h | h <;> simp [h] at hfired,
          fun hne => absurd hstate hne, fun _ hne => ?_⟩
        obtain ⟨hlast, hrecovered⟩ := hleft hne
        exact ⟨hnonempty (by rintro hnil; simp [hnil] at hlast), hrecovered⟩
  · have hne : (rearm e.owned prev).state ≠ .firing := mt hfiring.mp hstate
    have hlast := recoveredAfter_getLast? limit rule op obs.value now recovered
    unfold advanceUnmatched
    rw [if_neg hne]
    split_ifs
    · refine .inr ⟨rfl, by simp, ?_, fun hfired => by simp at hfired,
        fun _ hafter => by simp [publishObservation, RuleStateRow.state] at hafter,
        fun hprev => absurd hprev hstate⟩
      rw [hmatching, hrecovering]
      exact tracks_quiet rfl rfl hnow hobs (by simp [publishObservation, RuleStateRow.state])
        (fun _ => ⟨rfl, rfl⟩) hlast
    · refine .inr ⟨rfl, by simp, ?_, fun hfired => by simp at hfired,
        fun _ hafter => by simp [publishObservation, RuleStateRow.state] at hafter,
        fun hprev => absurd hprev hstate⟩
      rw [hmatching, hrecovering]
      exact tracks_quiet rfl rfl hnow hobs (by simp [publishObservation, RuleStateRow.state])
        (fun _ => ⟨rfl, rfl⟩) hlast

/-! ### An evaluation -/

/-- An observation of its own is what `observe` returns, it has advanced, and the gap before it
is measured. -/
theorem intake_fresh {gap : Bool} (h : intake cfg rule target row e = .fresh op obs now gap) :
    Op.parse rule.operator = some op ∧ observe rule target e = some obs ∧
      evidenceAdvanced row.lastObservation obs.evidence = true ∧ obs.sampledAt = some now ∧
      gap = row.lastObservationAt.any fun last => decide (gapLimit cfg rule < now - last) := by
  unfold intake at h
  cases hop : Op.parse rule.operator with
  | none => simp [hop] at h
  | some op' =>
    simp only [hop] at h
    split at h
    · cases h
    split at h
    · split at h <;> cases h
    next obs' hobs =>
      split at h
      · cases h
      next hadvanced =>
        split at h
        · cases h
        next now' hnow =>
          split at h
          next hgap =>
            split at h
            · cases h
            · cases h
              exact ⟨rfl, hobs, by simpa using hadvanced, hnow, hgap.symm⟩
          next hgap =>
            cases h
            exact ⟨rfl, hobs, by simpa using hadvanced, hnow,
              (Bool.eq_false_of_not_eq_true hgap).symm⟩

theorem advanceRow_evolves (hop : Op.parse rule.operator = some op)
    (h : Tracks (isFlowMetric rule.metric) target prev matching recovered)
    (hnow : obs.sampledAt = some now) (hobs : obs.evidence.map Prod.fst = target.interfaces)
    (hmatching : Next limit prev now matching) (hrecovered : Next limit prev now recovered) :
    Evolves limit rule target e.owned obs.value now obs.evidence prev matching recovered
      (advanceRow cfg rule op obs now prev e) := by
  unfold advanceRow
  split_ifs with hfault hcompare
  · exact .inl ⟨rfl, .inl rfl⟩
  · exact evolves_matched h (by rwa [holds_eq hop]) hnow hobs hmatching
  · exact evolves_unmatched hop h (by simpa [holds_eq hop] using hcompare) hnow hobs hrecovered

omit [Reading F] in
/-- A new observation is later than the last one. -/
theorem lt_of_fresh (h : Tracks flow target row matching recovered)
    (hobs : obs.evidence.map Prod.fst = target.interfaces)
    (hadvanced : evidenceAdvanced row.lastObservation obs.evidence = true)
    (hnow : obs.sampledAt = some now) {last : ℤ} (hlast : row.lastObservationAt = some last) :
    last < now := by
  have hcursor := h.cursor
  cases hprevious : row.lastObservation with
  | none => simp [hprevious, hlast] at hcursor
  | some previous =>
    rw [hprevious] at hadvanced hcursor
    rw [hlast, Option.bind_some] at hcursor
    refine lt_of_evidenceAdvanced hadvanced (fun id hid => ?_) hcursor.symm (obs.oldest ▸ hnow)
    exact h.covers previous hprevious id (hobs ▸ hid)

/-- The runs behind a gap start anew. -/
theorem extend_gap {run : List ℤ} (hend : AtEnd row run)
    (hgap : (row.lastObservationAt.any fun last => decide (limit < now - last)) = true) :
    extend (Follows limit) run now = extend (Follows limit) [] now := by
  cases hlast : run.getLast? with
  | none =>
    obtain rfl : run = [] := List.getLast?_eq_none_iff.mp hlast
    rfl
  | some b =>
    rw [hend b hlast, Option.any_some, decide_eq_true_eq] at hgap
    have hbreak : ¬ ∀ c ∈ run.getLast?, Follows limit c now := by
      intro hall
      have hfollows := hall b hlast
      exact absurd hfollows.2 (not_le.mpr hgap)
    exact if_neg hbreak

/-- **An observation of its own**, of a row with these runs: behind a gap, the row is reset
first, and the runs start anew. -/
theorem evaluateRule_evolves {gap : Bool}
    (h : Tracks (isFlowMetric rule.metric) target row matching recovered)
    (hfresh : intake cfg rule target row e = .fresh op obs now gap) :
    (gap = false → Evolves (gapLimit cfg rule) rule target e.owned obs.value now obs.evidence row
      matching recovered (evaluateRule cfg rule target row e)) ∧
    (gap = true → Evolves (gapLimit cfg rule) rule target e.owned obs.value now obs.evidence
      (resetUnprovenStreak row) [] [] (evaluateRule cfg rule target row e)) := by
  obtain ⟨hop, hobserve, hadvanced, hnow, hgap⟩ := intake_fresh hfresh
  have hobs := observe_interfaces hobserve
  have hevaluate : evaluateRule cfg rule target row e =
      advanceRow cfg rule op obs now (if gap then resetUnprovenStreak row else row) e := by
    simp only [evaluateRule, hfresh]
  constructor
  · rintro rfl
    have hnext : ∀ run, Next (gapLimit cfg rule) row now run := by
      intro run b _ hlast
      rw [hlast, Option.any_some] at hgap
      exact ⟨lt_of_fresh h hobs hadvanced hnow hlast, by simpa using hgap.symm⟩
    rw [hevaluate]
    exact advanceRow_evolves hop h hnow hobs (hnext _) (hnext _)
  · rintro rfl
    rw [hevaluate]
    exact advanceRow_evolves hop h.reset hnow hobs (fun b hb => by simp at hb)
      fun b hb => by simp at hb

omit [Reading F] in
/-- A reset does not change whether the rule fires, or awaits a revert. -/
theorem state_reset (row : RuleStateRow) :
    ((resetUnprovenStreak row).state = .firing ↔ row.state = .firing) ∧
      ((resetUnprovenStreak row).state = .recoveredAwaitingRevert ↔
        row.state = .recoveredAwaitingRevert) := by
  unfold resetUnprovenStreak RuleStateRow.state
  split_ifs with h
  · simp [h]
  · simp

omit [Reading F] in
/-- A run after a recorded observation. -/
theorem advance_seen (limit now : ℤ) (hit : F → Bool) (value : F) (run : List ℤ) :
    advance (Follows limit) run (Sight.mark hit (.seen now value)) =
      if hit value then extend (Follows limit) run now else [] := by
  cases hhit : hit value <;> simp [Sight.mark, hhit, advance]

omit [Reading F] in
theorem ofEvaluated_seen {gap : Bool} {r : Evaluated}
    (h : r.row.lastObservation = some obs.evidence) :
    Sight.ofEvaluated obs now gap r = .seen now obs.value := if_pos h

/-- What an event is to a rule that evaluates an observation of its own. -/
theorem sight_fresh {s : RuleSystem} {gap : Bool}
    (hfresh : intake cfg rule s.target s.row e = .fresh op obs now gap) :
    sight cfg rule s (.evaluate e) =
      .ofEvaluated obs now gap (evaluateRule cfg rule s.target s.row e) := by
  simp only [sight, hfresh]

theorem evaluateRule_tracks {s : RuleSystem} (e : Evaluation F)
    (h : Tracks (isFlowMetric rule.metric) s.target s.row matching recovered) :
    Tracks (isFlowMetric rule.metric) s.target (evaluateRule cfg rule s.target s.row e).row
      (advance (Follows (gapLimit cfg rule)) matching
        ((sight cfg rule s (.evaluate e)).mark rule.holds))
      (advance (Follows (gapLimit cfg rule)) recovered
        ((sight cfg rule s (.evaluate e)).mark rule.recovers)) := by
  cases hintake : intake cfg rule s.target s.row e with
  | ignored =>
    simp only [evaluateRule, sight, hintake]
    exact h
  | failed =>
    simp only [evaluateRule, sight, hintake]
    exact h
  | missing =>
    simp only [evaluateRule, sight, hintake]
    exact h.reset
  | fresh op obs now gap =>
    obtain ⟨-, -, hadvanced, -, hgap⟩ := intake_fresh hintake
    obtain ⟨hnogap, hbehind⟩ := evaluateRule_evolves h hintake
    have hne := ne_of_evidenceAdvanced hadvanced
    rw [sight_fresh hintake]
    cases gap with
    | false =>
      rcases hnogap rfl with ⟨hrow, houtcome⟩ | ⟨hrecorded, -, htracks, -⟩
      · unfold Sight.ofEvaluated
        rw [hrow, if_neg hne, if_neg (by simp)]
        rcases houtcome with hfailed | ⟨hpending, hholds, hrecovers, hfiring⟩
        · rw [if_neg (by simp [hfailed])]
          exact h
        · rw [if_pos hpending]
          simp only [Sight.mark, hholds, hrecovers, Bool.false_eq_true, if_false, if_true]
          exact h.forget hfiring
      · rw [ofEvaluated_seen hrecorded, advance_seen, advance_seen]
        exact htracks
    | true =>
      rcases hbehind rfl with ⟨hrow, -⟩ | ⟨hrecorded, -, htracks, -⟩
      -- What is not recorded behind a gap is lost, and so are the runs before it.
      · have hunrecorded : (evaluateRule cfg rule s.target s.row e).row.lastObservation ≠
            some obs.evidence := by
          rw [hrow]
          exact hne
        unfold Sight.ofEvaluated
        rw [if_neg hunrecorded, if_pos rfl, hrow]
        exact h.reset
      · rw [ofEvaluated_seen hrecorded, advance_seen, advance_seen,
          extend_gap h.matchingEnds hgap.symm, extend_gap h.recoveredEnds hgap.symm]
        exact htracks

/-- **Every event keeps the counters in step with the runs.** -/
theorem ruleStep_tracks {s : RuleSystem} (event : RuleEvent F)
    (h : Tracks (isFlowMetric rule.metric) s.target s.row matching recovered) :
    Tracks (isFlowMetric rule.metric) (ruleStep cfg rule s event).target
      (ruleStep cfg rule s event).row
      (advance (Follows (gapLimit cfg rule)) matching ((sight cfg rule s event).mark rule.holds))
      (advance (Follows (gapLimit cfg rule)) recovered
        ((sight cfg rule s event).mark rule.recovers)) := by
  cases event with
  | evaluate e => exact evaluateRule_tracks e h
  | interfaceRemoved id => exact h.without id
  | cleared => exact h.clear

/-- The run of hits that the events of a run end in. -/
def runOf (limit : ℤ) (hit : F → Bool) (seen : List (Sight F)) : List ℤ :=
  current (Follows limit) (seen.map (Sight.mark hit))

omit [Reading F] in
theorem runOf_concat (limit : ℤ) (hit : F → Bool) (seen : List (Sight F)) (x : Sight F) :
    runOf limit hit (seen ++ [x]) =
      advance (Follows limit) (runOf limit hit seen) (x.mark hit) := by
  simp [runOf]

/-- What a run of the system leaves is in step with the runs of observations. -/
theorem run_tracks (cfg : DetectionConfig) (rule : InterfaceRule F) (target : Target)
    (events : List (RuleEvent F)) :
    Tracks (isFlowMetric rule.metric) (Run.run (ruleStep cfg rule) ⟨target, {}⟩ events).target
      (Run.run (ruleStep cfg rule) ⟨target, {}⟩ events).row
      (runOf (gapLimit cfg rule) rule.holds (sights cfg rule ⟨target, {}⟩ events))
      (runOf (gapLimit cfg rule) rule.recovers (sights cfg rule ⟨target, {}⟩ events)) := by
  induction events using List.reverseRecOn with
  | nil => exact tracks_default _ _
  | append_singleton events event ih =>
    rw [Run.run_append, sights_concat, runOf_concat, runOf_concat]
    exact ruleStep_tracks event ih

/-- An evaluation that fires, or changes whether the rule fires, has recorded an observation. -/
theorem evaluateRule_lawful (cfg : DetectionConfig) {s : RuleSystem} (e : Evaluation F)
    (h : Tracks (isFlowMetric rule.metric) s.target s.row matching recovered)
    (hturns : (evaluateRule cfg rule s.target s.row e).outcome = .fired ∨
      ¬(s.row.state = .firing ↔ (evaluateRule cfg rule s.target s.row e).row.state = .firing)) :
    ∃ now value, sight cfg rule s (.evaluate e) = .seen now value ∧
      Lawful rule e.owned value s.row.state (evaluateRule cfg rule s.target s.row e).row.state
        (evaluateRule cfg rule s.target s.row e).outcome
        (advance (Follows (gapLimit cfg rule)) matching
          ((sight cfg rule s (.evaluate e)).mark rule.holds))
        (advance (Follows (gapLimit cfg rule)) recovered
          ((sight cfg rule s (.evaluate e)).mark rule.recovers)) := by
  cases hintake : intake cfg rule s.target s.row e with
  | ignored => simp [evaluateRule, hintake] at hturns
  | failed => simp [evaluateRule, hintake] at hturns
  | missing => simp [evaluateRule, hintake, state_reset] at hturns
  | fresh op obs now gap =>
    obtain ⟨-, -, hadvanced, -, hgap⟩ := intake_fresh hintake
    obtain ⟨hnogap, hbehind⟩ := evaluateRule_evolves h hintake
    rw [sight_fresh hintake]
    cases gap with
    | false =>
      rcases hnogap rfl with ⟨hrow, houtcome⟩ | ⟨hrecorded, -, -, hlawful⟩
      · rcases houtcome with houtcome | ⟨houtcome, -⟩
        · simp [hrow, houtcome] at hturns
        · simp [hrow, houtcome] at hturns
      · refine ⟨now, obs.value, ofEvaluated_seen hrecorded, ?_⟩
        rw [ofEvaluated_seen hrecorded, advance_seen, advance_seen]
        exact hlawful
    | true =>
      rcases hbehind rfl with ⟨hrow, houtcome⟩ | ⟨hrecorded, -, -, hlawful⟩
      · rcases houtcome with houtcome | ⟨houtcome, -⟩
        · simp [hrow, houtcome, state_reset] at hturns
        · simp [hrow, houtcome, state_reset] at hturns
      · refine ⟨now, obs.value, ofEvaluated_seen hrecorded, ?_⟩
        rw [ofEvaluated_seen hrecorded, advance_seen, advance_seen,
          extend_gap h.matchingEnds hgap.symm, extend_gap h.recoveredEnds hgap.symm]
        obtain ⟨hfiring, hawaiting⟩ := state_reset s.row
        refine ⟨fun hfired => ?_, fun hbefore hafter => ?_, fun hbefore => ?_⟩
        · obtain ⟨hbefore, hrest⟩ := hlawful.fires hfired
          exact ⟨mt hfiring.mpr hbefore, hrest⟩
        · rcases hlawful.enters (mt hfiring.mp hbefore) hafter with hfired | ⟨hrow, hrest⟩
          · exact .inl hfired
          · exact .inr ⟨hawaiting.mp hrow, hrest⟩
        · exact hlawful.leaves (hfiring.mpr hbefore)

end Tracking

end Rerouter
