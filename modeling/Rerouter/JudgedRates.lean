import Rerouter.InterfaceSamples
import Rerouter.RuleState

/-!
# What a rule is judged on

Between the counters of a router and the threshold of a rule lie a poll, a row, and an
observation. `interface_observation` and `aggregate_observation` read a metric of the row of each
interface that a rule watches, unless the row is no valid sample or too old. The functions
themselves are `Rerouter.interfaceObservation` and `Rerouter.aggregateObservation`, with their read
left open; here it is the read of `Rerouter.Telemetry.State.current`, for the devices that
`Rerouter.Telemetry.step` polls.

What is summed up then, member by member, is by how much a counter of the device rose between two
readings of it with none in between, by the time between the two (`Rerouter.Telemetry.judged`): no
gap, no reset and no half of a reading comes to a threshold. The sum is one of doubles, so that its
order matters: it is that of the members.
-/

namespace Rerouter

namespace Telemetry

/-! ### Metrics -/

/-- `f64::EPSILON`. -/
def epsilon : Float := 2.2204460492503131e-16

instance : Rerouter.Reading Float where
  zero := 0
  add x y := x + y
  less x y := x < y
  atMost x y := x ≤ y
  near x y := (x - y).abs < epsilon
  far x y := epsilon ≤ (x - y).abs

/-- The value of `oper_status`, so that `oper_status < 1` is a link that is down. -/
def operValue (row : MetricsRow) : Option Float :=
  if !row.operStatusValid then none
  else
    match row.operStatus with
    | some status =>
      if status = ("up" : Text) then some 1
      else if status ∈ (["down", "testing", "dormant", "notPresent", "lowerLayerDown",
          "not_present", "lower_layer_down"] : List Text) then some 0
      else none
    | none => none

/-- `CurrentMetrics::value`. -/
def MetricsRow.value (row : MetricsRow) (metric : Text) : Option Float :=
  ([(("rx_bps" : Text), some row.rates.rxBps),
    (("tx_bps" : Text), some row.rates.txBps),
    (("rx_pps" : Text), some row.rates.rxPps),
    (("tx_pps" : Text), some row.rates.txPps),
    (("rx_util_percent" : Text), some row.rates.rxUtilPercent),
    (("tx_util_percent" : Text), some row.rates.txUtilPercent),
    (("in_err_rate" : Text), if row.inErrRate.2 then some row.inErrRate.1 else none),
    (("out_err_rate" : Text), if row.outErrRate.2 then some row.outErrRate.1 else none),
    (("oper_status" : Text), operValue row)].lookup metric).join

/-- The sample of a row for a metric: none that is invalid, or older than `staleAfter` seconds. -/
def readMetric (staleAfter : ℕ) (now : ℤ) (metric : Text) (row : Option MetricsRow) :
    Option (ℤ × Float) := do
  let row ← row
  if row.rates.valid && decide (0 ≤ (now - row.counters.sampledAt).tdiv 1000000000 ∧
      (now - row.counters.sampledAt).tdiv 1000000000 ≤ staleAfter) then
    (row.value metric).map fun value => (row.counters.sampledAt, value)
  else none

/-! ### The rate of a counter -/

/-- A counter of a reading, and the metric of its rate. -/
structure Counter where
  value : Polled → Option ℕ
  scale : Float → Float

/-- The counters behind the metrics that can be summed: an octet is eight bits. -/
def metricCounter : List (Text × Counter) :=
  [(("rx_bps" : Text), ⟨fun r => some r.counters.inOctets, (· * 8)⟩),
    (("tx_bps" : Text), ⟨fun r => some r.counters.outOctets, (· * 8)⟩),
    (("rx_pps" : Text), ⟨fun r => some r.counters.inUcastPkts, id⟩),
    (("tx_pps" : Text), ⟨fun r => some r.counters.outUcastPkts, id⟩),
    (("in_err_rate" : Text), ⟨fun r => r.errors .inErrors, id⟩),
    (("out_err_rate" : Text), ⟨fun r => r.errors .outErrors, id⟩)]

section Rate

variable (column : ℤ → ℤ)

/-- The last reading of a counter, with the time that is kept of it. -/
def Counter.lastRead (counter : Counter) : List Polled → Option (ℕ × ℤ)
  | [] => none
  | r :: earlier =>
    match counter.value r with
    | some value => some (value, column r.counters.sampledAt)
    | none => Counter.lastRead counter earlier

/-- By how much a counter rose a second, from its last reading but one to that of the newest poll:
nothing, if it went backwards. -/
def Counter.rate (counter : Counter) : List Polled → Option Float
  | [] => none
  | r :: earlier => do
    let current ← counter.value r
    let (previous, since) ← counter.lastRead column earlier
    let rate ← rateFromCounters current previous (elapsedSecs r.counters.sampledAt since)
    return counter.scale rate

variable {column} {r : Polled} {earlier : List Polled} {metric : Text} {counter : Counter}

/-- A counter that is never missing was read last in the reading before. -/
theorem lastRead_of_traffic {traffic : Polled → ℕ} {scale : Float → Float} :
    Counter.lastRead column ⟨fun r => some (traffic r), scale⟩ earlier =
      earlier.head?.map fun e => (traffic e, column e.counters.sampledAt) := by
  cases earlier <;> rfl

theorem lastRead_of_error (c : ErrorCounter) {scale : Float → Float} :
    Counter.lastRead column ⟨fun r => r.errors c, scale⟩ earlier =
      (previousRead column c earlier).map fun b => (b.value, b.sampledAt) := by
  induction earlier with
  | nil => rfl
  | cons r earlier ih =>
    rw [Counter.lastRead, previousRead]
    dsimp only
    cases r.errors c with
    | none => exact ih
    | some value => rfl

/-- The rate that `poll` derives is that of the counter. -/
theorem rate_eq_some {current previous : ℕ} {since : ℤ} {rate : Float}
    (hvalue : counter.value r = some current)
    (hlast : counter.lastRead column earlier = some (previous, since))
    (hrate : (rateFromCounters current previous (elapsedSecs r.counters.sampledAt since)).map
      counter.scale = some rate) : counter.rate column (r :: earlier) = some rate := by
  obtain ⟨perSecond, hperSecond, rfl⟩ := Option.map_eq_some_iff.mp hrate
  simp only [Counter.rate, hvalue, hlast, hperSecond, Option.bind_eq_bind, Option.bind_some]
  rfl

/-- What a valid sample is derived from. -/
theorem exists_of_valid (h : (ratesOf column earlier r).valid = true) :
    ∃ e, earlier.head? = some e ∧
      let rates := ratesOf column earlier r
      let elapsed := elapsedSecs r.counters.sampledAt (column e.counters.sampledAt)
      bpsFromOctets r.counters.inOctets e.counters.inOctets elapsed = some rates.rxBps ∧
        bpsFromOctets r.counters.outOctets e.counters.outOctets elapsed = some rates.txBps ∧
        ppsFromPkts r.counters.inUcastPkts e.counters.inUcastPkts elapsed = some rates.rxPps ∧
        ppsFromPkts r.counters.outUcastPkts e.counters.outUcastPkts elapsed = some rates.txPps := by
  rw [ratesOf] at h ⊢
  cases hhead : earlier.head? with
  | none =>
    rw [hhead] at h
    cases h
  | some e =>
    rw [hhead] at h
    refine ⟨e, rfl, ?_⟩
    simp only [Option.map_some, interfaceRates, InterfaceCounters.stored] at h ⊢
    split at h
    next hrx htx hrxPps htxPps => exact ⟨hrx, htx, hrxPps, htxPps⟩
    · cases h

/-- The rate of a counter that is walked apart. -/
theorem rate_of_errRate {c : ErrorCounter} {now : ℤ} (hnow : r.counters.sampledAt = now) {v : Float}
    (h : (if (counterRate (r.errors c) (previousRead column c earlier) now).2 then
      some (counterRate (r.errors c) (previousRead column c earlier) now).1 else none) = some v) :
    Counter.rate column ⟨fun r => r.errors c, id⟩ (r :: earlier) = some v := by
  subst hnow
  cases hread : r.errors c with
  -- without a reading now there is no rate
  | none =>
    rw [hread] at h
    cases h
  | some current =>
    cases hprevious : previousRead column c earlier with
    | none =>
      rw [hread, hprevious] at h
      cases h
    | some b =>
      have hlast : Counter.lastRead column ⟨fun r => r.errors c, id⟩ earlier =
          some (b.value, b.sampledAt) := by
        rw [lastRead_of_error, hprevious, Option.map_some]
      refine rate_eq_some hread hlast ((Option.map_id_apply ..).trans ?_)
      rw [hread, hprevious, counterRate] at h
      cases hrate : rateFromCounters current b.value
        (elapsedSecs r.counters.sampledAt b.sampledAt) with
      | none =>
        rw [hrate] at h
        cases h
      | some rate =>
        rw [hrate] at h
        exact h

/-- A metric that can be summed has a counter, and is none of the flows'. -/
theorem exists_counter (hmetric : metric ∈ summableMetrics) :
    (∃ counter, metricCounter.lookup metric = some counter) ∧ isFlowMetric metric = false := by
  simp only [summableMetrics, List.mem_cons, List.not_mem_nil, or_false] at hmetric
  rcases hmetric with rfl | rfl | rfl | rfl | rfl | rfl <;> exact ⟨⟨_, rfl⟩, rfl⟩

/-- What a valid row says of a metric is the rate of its counter. -/
theorem rate_of_value (hvalid : (ratesOf column earlier r).valid = true)
    (hmetric : metric ∈ summableMetrics) {v : Float}
    (hv : (rowOf column earlier r).value metric = some v) :
    ∃ counter, metricCounter.lookup metric = some counter ∧
      counter.rate column (r :: earlier) = some v := by
  obtain ⟨e, hhead, hrx, htx, hrxPps, htxPps⟩ := exists_of_valid hvalid
  have htraffic {traffic : Polled → ℕ} {scale : Float → Float} :
      Counter.lastRead column ⟨fun r => some (traffic r), scale⟩ earlier =
        some (traffic e, column e.counters.sampledAt) := by
    rw [lastRead_of_traffic, hhead, Option.map_some]
  simp only [summableMetrics, List.mem_cons, List.not_mem_nil, or_false] at hmetric
  rcases hmetric with rfl | rfl | rfl | rfl | rfl | rfl
  · refine ⟨_, rfl, rate_eq_some rfl htraffic ?_⟩
    exact hrx.trans hv
  · refine ⟨_, rfl, rate_eq_some rfl htraffic ?_⟩
    exact htx.trans hv
  · refine ⟨_, rfl, rate_eq_some rfl htraffic ((Option.map_id_apply ..).trans ?_)⟩
    exact hrxPps.trans hv
  · refine ⟨_, rfl, rate_eq_some rfl htraffic ((Option.map_id_apply ..).trans ?_)⟩
    exact htxPps.trans hv
  · exact ⟨_, rfl, rate_of_errRate rfl hv⟩
  · exact ⟨_, rfl, rate_of_errRate rfl hv⟩

end Rate

/-! ### The observation -/

/-- The read of an evaluation: the rows of all devices, each interface on its own. -/
def readRows (devices : ℕ → State) (home : ℕ → ℕ) (staleAfter : ℕ) (now : ℤ) (metric : Text)
    (interface : ℕ) : Option (ℤ × Float) :=
  readMetric staleAfter now metric ((devices (home interface)).current interface)

section Judged

variable {column : ℤ → ℤ} {staleAfter : ℕ} {now : ℤ} {metric : Text}

/-- **A sample that is read** is of a valid row, and its value is the rate of the counter. -/
theorem rate_of_readMetric {readings : List Polled} (hmetric : metric ∈ summableMetrics)
    {sample : ℤ × Float}
    (h : readMetric staleAfter now metric (standing column readings) = some sample) :
    ∃ counter, metricCounter.lookup metric = some counter ∧
      counter.rate column readings = some sample.2 := by
  cases readings with
  | nil => cases h
  | cons r earlier =>
    simp only [readMetric, standing, Option.bind_eq_bind, Option.bind_some] at h
    split_ifs at h with hcond
    obtain ⟨v, hv, rfl⟩ := Option.map_eq_some_iff.mp h
    rw [Bool.and_eq_true] at hcond
    exact rate_of_value hcond.1 hmetric hv

/-- All members of a sum, or none. -/
theorem mapM_rate {read : ℕ → Option (ℤ × Float)} {rate : ℕ → Option Float} {members : List ℕ}
    (hrate : ∀ id ∈ members, ∀ sample, read id = some sample → rate id = some sample.2)
    {samples : List (ℕ × ℤ × Float)}
    (h : (members.mapM fun id => (read id).map fun sample => (id, sample)) = some samples) :
    members.mapM rate = some (samples.map fun s => s.2.2) := by
  induction members generalizing samples with
  | nil =>
    obtain rfl := Option.some.inj h
    rfl
  | cons id members ih =>
    rw [List.mapM_cons] at h ⊢
    obtain ⟨_, hone, h⟩ := Option.bind_eq_some_iff.mp h
    obtain ⟨sample, hsample, rfl⟩ := Option.map_eq_some_iff.mp hone
    obtain ⟨rest, hrest, h⟩ := Option.bind_eq_some_iff.mp h
    obtain rfl := Option.some.inj h
    rw [hrate id List.mem_cons_self sample hsample,
      ih (fun id' hid' => hrate id' (List.mem_cons_of_mem _ hid')) hrest]
    rfl

/-- What is observed of the rates of the interfaces that are watched: that of a single one, or their
sum, from the first to the last. -/
def combined : Target → List Float → Float
  | .single _, rates => rates.headD 0
  | .sum _, rates => rates.foldl (· + ·) 0

/-- **What a rule is judged on.** Let devices be polled in any way, and let a rule watch one
interface or the sum of several, on a metric that can be summed. If an evaluation has an
observation, its value is the rate of the interface, or the sum of the rates of the interfaces: by
how much a counter of each rose by a second, from the last reading but one of that counter to the
last poll, which read it. -/
theorem judged (column : ℤ → ℤ) (events : ℕ → List Event) (home : ℕ → ℕ) (staleAfter : ℕ)
    (now : ℤ) (rule : InterfaceRule Float) (target : Target) (e : Evaluation Float)
    (o : Observation Float)
    (hmetric : rule.metric ∈ summableMetrics)
    (ho : observe rule target { e with
      read := readRows (fun device => Run.run (step column) {} (events device)) home staleAfter now
        rule.metric } = some o) :
    ∃ counter rates, metricCounter.lookup rule.metric = some counter ∧
      target.interfaces.mapM (fun id =>
        counter.rate column ((Run.run (step column) {} (events (home id))).readings id)) =
          some rates ∧
      o.value = combined target rates := by
  obtain ⟨⟨counter, hcounter⟩, hflow⟩ := exists_counter hmetric
  -- a fresh sample of a member is the rate that the polls of its device account for
  have hrate : ∀ id sample,
      readRows (fun device => Run.run (step column) {} (events device)) home staleAfter now
        rule.metric id = some sample →
      counter.rate column ((Run.run (step column) {} (events (home id))).readings id) =
        some sample.2 := by
    intro id sample hsample
    have h : Accounted column (Run.run (step column) {} (events (home id))) :=
      Run.invariant (fun _ e hinv => hinv.step e) _ fun _ => ⟨rfl, rfl⟩
    rw [readRows, (h id).1] at hsample
    obtain ⟨counter', hcounter', hrate⟩ := rate_of_readMetric hmetric hsample
    obtain rfl := Option.some.inj (hcounter.symm.trans hcounter')
    exact hrate
  cases target with
  | sum members =>
    simp only [observe, aggregateObservation] at ho
    split_ifs at ho
    obtain ⟨samples, hsamples, rfl⟩ := Option.map_eq_some_iff.mp ho
    exact ⟨counter, _, hcounter, mapM_rate (fun id _ => hrate id) hsamples, rfl⟩
  | single interface =>
    simp only [observe, hflow, Bool.false_eq_true, if_false] at ho
    obtain ⟨id, rfl, ho⟩ := Option.bind_eq_some_iff.mp ho
    obtain ⟨sample, hsample, ho⟩ := Option.bind_eq_some_iff.mp ho
    obtain rfl := Option.some.inj ho
    refine ⟨counter, [sample.2], hcounter, ?_, rfl⟩
    rw [Target.interfaces, Option.toList_some, List.mapM_cons, hrate id sample hsample]
    rfl

/-- Two polls of an interface, a minute apart. -/
def twoPolls (interface : ℕ) : List Event :=
  [.discover [⟨interface, 1, 0⟩] true,
    .poll true ⟨[(1, 0)], [(1, 0)], [(1, 0)], [(1, 0)], fun _ => [], [], []⟩ 0 fun _ => .done,
    .poll true ⟨[(1, 15000)], [(1, 0)], [(1, 0)], [(1, 0)], fun _ => [], [], []⟩ 60000000000
      fun _ => .done]

/-- `rx_bps > 3000`. -/
def flooded : InterfaceRule Float where
  metric := ("rx_bps" : Text)
  flowProtocol := none
  flowPort := none
  operator := (">" : Text)
  thresholdValue := 3000
  durationSeconds := 0
  consecutiveSamples := 1
  recoveryMode := .auto
  recoveryThresholdValue := none
  recoveryWindowSeconds := none
  recoveryConsecutiveSamples := none
  automaticRevertEnabled := false

/-- An evaluation that reads nothing. -/
def blind : Evaluation Float where
  read _ := none
  lowConfidence := false
  sourceCorroborated := true
  owned := 0
  recovery := ⟨0, 0, .nothing, 0⟩
  fault := none

/-- What an evaluation of it observes, of two interfaces on two devices. -/
def floodedObservation : Option (Observation Float) :=
  observe flooded (.sum [10, 11]) { blind with
    read := readRows (fun device => Run.run (step id) {} (twoPolls device)) id 90 61000000000
      flooded.metric }

/-- Their octets are summed up. -/
theorem judged_flooded : floodedObservation.map Observation.value = some 4000 ∧
    ∃ o counter rates, floodedObservation = some o ∧
      metricCounter.lookup flooded.metric = some counter ∧
      ([10, 11].mapM fun interface => counter.rate id
        ((Run.run (step id) {} (twoPolls interface)).readings interface)) = some rates ∧
      o.value = combined (.sum [10, 11]) rates := by
  have hsome : floodedObservation.isSome = true := by decide +kernel
  obtain ⟨counter, rates, hcounter, hrates, hvalue⟩ :=
    judged id twoPolls id 90 61000000000 flooded (.sum [10, 11]) blind _ (by decide)
      (Option.some_get hsome).symm
  exact ⟨by decide +kernel, _, counter, rates, (Option.some_get hsome).symm, hcounter, hrates,
    hvalue⟩

end Judged

end Telemetry

end Rerouter
