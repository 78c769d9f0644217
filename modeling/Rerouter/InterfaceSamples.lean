import Mathlib.Algebra.BigOperators.Group.List.Basic
import Mathlib.Algebra.GroupWithZero.Nat
import Mathlib.Logic.Function.Basic
import Rerouter.Executor
import Rerouter.Lib.Meter
import Rerouter.Lib.Run
import Rerouter.Lib.Text

/-!
# The samples of an interface

`poll` walks the counters of a device, and `store_metrics` writes down a sample of each interface
that answered all four of its traffic counters: the rates since the row of
`interface_metrics_current`, the new row, and a row of `interface_samples`. Errors and discards are
walked apart. A walk that fails leaves its column as it was, with the time it was read at.

| Column | Written by a sample | Compared with |
|---|---|---|
| octets, packets | always | the sample before |
| errors, discards | where they were read | the last sample that had them |

So the row of an interface is what a look at all its samples would give
(`Rerouter.Telemetry.accounted`), and the errors and discards its samples count add up to what its
counters went up by, whatever walks failed in between (`Rerouter.Telemetry.counts_conserved`).

Times are in nanoseconds, and a time that is written to a column is what the column keeps of it.
Rates are doubles, and their operations round as those of the source do.
-/

namespace Rerouter

namespace Telemetry

/-! ### Rates -/

/-- `InterfaceCounters`: the traffic counters of one reading. -/
structure InterfaceCounters where
  sampledAt : ℤ
  inOctets : ℕ
  outOctets : ℕ
  inUcastPkts : ℕ
  outUcastPkts : ℕ
deriving DecidableEq

/-- `rate_from_counters`, per second. Nothing where the counter went backwards or no time
elapsed. -/
def rateFromCounters (current previous : ℕ) (elapsedSecs : Float) : Option Float :=
  if elapsedSecs ≤ 0 ∨ current < previous then none
  else some (Float.ofNat (current - previous) / elapsedSecs)

/-- `bps_from_octets`. -/
def bpsFromOctets (current previous : ℕ) (elapsedSecs : Float) : Option Float :=
  (rateFromCounters current previous elapsedSecs).map (· * 8)

/-- An odd count above `2^53` has no double of its own. -/
example : bpsFromOctets 9007199254740993 0 1 = some 72057594037927936 := by decide +kernel

/-- `pps_from_pkts`. -/
def ppsFromPkts (current previous : ℕ) (elapsedSecs : Float) : Option Float :=
  rateFromCounters current previous elapsedSecs

/-- `util_percent`. -/
def utilPercent (bps : Float) (ifSpeedBps : ℕ) : Float :=
  if ifSpeedBps = 0 then 0 else bps / Float.ofNat ifSpeedBps * 100

/-- The seconds between two times: `num_milliseconds() as f64 / 1000.0`. -/
def elapsedSecs (now since : ℤ) : Float := Float.ofInt ((now - since).tdiv 1000000) / 1000

/-- `InterfaceRates`. -/
structure InterfaceRates where
  valid : Bool := false
  rxBps : Float := 0
  txBps : Float := 0
  rxPps : Float := 0
  txPps : Float := 0
  rxUtilPercent : Float := 0
  txUtilPercent : Float := 0
deriving DecidableEq

/-- `interface_rates`: all four counters have to give a rate. -/
def interfaceRates (current : InterfaceCounters) (previous : Option InterfaceCounters)
    (ifSpeedBps : ℕ) : InterfaceRates :=
  match previous with
  | none => {}
  | some prev =>
    let elapsed := elapsedSecs current.sampledAt prev.sampledAt
    match bpsFromOctets current.inOctets prev.inOctets elapsed,
      bpsFromOctets current.outOctets prev.outOctets elapsed,
      ppsFromPkts current.inUcastPkts prev.inUcastPkts elapsed,
      ppsFromPkts current.outUcastPkts prev.outUcastPkts elapsed with
    | some rxBps, some txBps, some rxPps, some txPps =>
      { valid := true, rxBps, txBps, rxPps, txPps
        rxUtilPercent := utilPercent rxBps ifSpeedBps
        txUtilPercent := utilPercent txBps ifSpeedBps }
    | _, _, _, _ => {}

/-- `MetricCounterBaseline`: the last reading of a counter that is walked apart. -/
structure MetricCounterBaseline where
  value : ℕ
  sampledAt : ℤ
deriving DecidableEq

/-- `counter_delta`: the count, and whether it is one. -/
def counterDelta (current previous : Option ℕ) : ℕ × Bool :=
  match current, previous with
  | some c, some p => if p ≤ c then (c - p, true) else (0, false)
  | _, _ => (0, false)

/-- `counter_rate`. -/
def counterRate (current : Option ℕ) (previous : Option MetricCounterBaseline) (now : ℤ) :
    Float × Bool :=
  match current with
  | none => (0, false)
  | some current =>
    match previous with
    | none => (0, false)
    | some previous =>
      match rateFromCounters current previous.value (elapsedSecs now previous.sampledAt) with
      | some rate => (rate, true)
      | none => (0, false)

/-! ### Rows -/

/-- The counters that are walked apart. -/
inductive ErrorCounter where
  | inErrors | outErrors | inDiscards | outDiscards
deriving DecidableEq

/-- The two columns of one. -/
structure MetricColumns where
  value : Option ℕ := none
  sampledAt : Option ℤ := none
deriving DecidableEq

/-- `COALESCE(VALUES(value), value)`, and the same of the time. -/
def MetricColumns.coalesce (new old : MetricColumns) : MetricColumns :=
  ⟨new.value.or old.value, new.sampledAt.or old.sampledAt⟩

/-- The closure `metric` of `load_baseline`: both columns, or nothing. -/
def MetricColumns.metric (columns : MetricColumns) : Option MetricCounterBaseline :=
  match columns.value, columns.sampledAt with
  | some value, some sampledAt => some ⟨value, sampledAt⟩
  | _, _ => none

/-- A row of `interface_metrics_current`. Whoever writes one writes all its traffic counters. -/
structure MetricsRow where
  counters : InterfaceCounters
  rates : InterfaceRates
  errors : ErrorCounter → MetricColumns
  inErrRate : Float × Bool
  outErrRate : Float × Bool
  adminStatus : Option Text
  operStatus : Option Text
  operStatusValid : Bool

/-- A row of `interface_samples`. -/
structure SampleRow where
  sampledAt : ℤ
  rates : InterfaceRates
  /-- The count of each of the counters that are walked apart, and whether it is one. -/
  errors : ErrorCounter → ℕ × Bool

/-- `PollInterface`. -/
structure PollInterface where
  interfaceId : ℕ
  ifIndex : ℕ
  ifSpeedBps : ℕ
deriving DecidableEq

/-- What the walks of a poll returned, by `ifIndex`. A walk that failed returned nothing. -/
structure Walks where
  inOct : List (ℕ × ℕ)
  outOct : List (ℕ × ℕ)
  inPkt : List (ℕ × ℕ)
  outPkt : List (ℕ × ℕ)
  errors : ErrorCounter → List (ℕ × ℕ) := fun _ => []
  oper : List (ℕ × ℕ) := []
  admin : List (ℕ × ℕ) := []

/-- `admin_status_str`. -/
def adminStatusStr : ℕ → Text
  | 1 => "up".toList
  | 2 => "down".toList
  | 3 => "testing".toList
  | _ => "unknown".toList

/-- `oper_status_str`. -/
def operStatusStr : ℕ → Text
  | 1 => "up".toList
  | 2 => "down".toList
  | 3 => "testing".toList
  | 4 => "unknown".toList
  | 5 => "dormant".toList
  | 6 => "notPresent".toList
  | 7 => "lowerLayerDown".toList
  | _ => "unknown".toList

/-- What one poll read of an interface that is stored. -/
structure Polled where
  counters : InterfaceCounters
  ifSpeedBps : ℕ
  errors : ErrorCounter → Option ℕ
  oper : Option ℕ
  admin : Option ℕ

/-- `matches!(oper_raw, Some(1 | 2 | 3 | 5 | 6 | 7))`: a link whose state is unknown is not known to
be down. -/
def Polled.operStatusValid (reading : Polled) : Bool :=
  reading.oper.any fun v => v ∈ [1, 2, 3, 5, 6, 7]

/-- The reading of an interface, unless one of its traffic counters is missing. -/
def Walks.reading (walks : Walks) (now : ℤ) (m : PollInterface) : Option Polled := do
  let inOctets ← walks.inOct.lookup m.ifIndex
  let outOctets ← walks.outOct.lookup m.ifIndex
  let inUcastPkts ← walks.inPkt.lookup m.ifIndex
  let outUcastPkts ← walks.outPkt.lookup m.ifIndex
  return {
    counters := ⟨now, inOctets, outOctets, inUcastPkts, outUcastPkts⟩
    ifSpeedBps := m.ifSpeedBps
    errors := fun c => (walks.errors c).lookup m.ifIndex
    oper := walks.oper.lookup m.ifIndex
    admin := walks.admin.lookup m.ifIndex }

/-! ### The poll -/

/-- The tables of one device. -/
structure State where
  interfaces : List PollInterface := []
  /-- `interface_metrics_current`. -/
  current : ℕ → Option MetricsRow := fun _ => none
  /-- `interface_samples` by interface, the newest in front. -/
  samples : ℕ → List SampleRow := fun _ => []
  /-- `devices.reachable`. -/
  reachable : Bool := false
  /-- What was read of each interface where it was stored, the newest in front. -/
  readings : ℕ → List Polled := fun _ => []

section Poll

variable (column : ℤ → ℤ)

/-- What a column of times keeps of the time of a reading. -/
def InterfaceCounters.stored (counters : InterfaceCounters) : InterfaceCounters :=
  { counters with sampledAt := column counters.sampledAt }

/-- The columns that a reading gives of one counter. -/
def Polled.columns (reading : Polled) (c : ErrorCounter) : MetricColumns :=
  ⟨reading.errors c, (reading.errors c).map fun _ => column reading.counters.sampledAt⟩

/-- The row that `store_metrics` leaves where there was `old`. -/
def MetricsRow.upsert (old : Option MetricsRow) (reading : Polled) : MetricsRow :=
  let baseline (c : ErrorCounter) := (old.map fun row => row.errors c).bind MetricColumns.metric
  { counters := reading.counters.stored column
    rates := interfaceRates reading.counters (old.map MetricsRow.counters) reading.ifSpeedBps
    errors := fun c =>
      (reading.columns column c).coalesce ((old.map fun row => row.errors c).getD {})
    inErrRate := counterRate (reading.errors .inErrors) (baseline .inErrors)
      reading.counters.sampledAt
    outErrRate := counterRate (reading.errors .outErrors) (baseline .outErrors)
      reading.counters.sampledAt
    adminStatus := reading.admin.map adminStatusStr
    operStatus := reading.oper.map operStatusStr
    operStatusValid := reading.operStatusValid }

/-- The row that it appends. -/
def SampleRow.of (old : Option MetricsRow) (reading : Polled) : SampleRow where
  sampledAt := column reading.counters.sampledAt
  rates := interfaceRates reading.counters (old.map MetricsRow.counters) reading.ifSpeedBps
  errors c := counterDelta (reading.errors c)
    (((old.map fun row => row.errors c).bind MetricColumns.metric).map MetricCounterBaseline.value)

namespace State

variable (s : State)

/-- `store_metrics`: one transaction. -/
def storeMetrics (interface : ℕ) (reading : Polled) : State :=
  { s with
    current := Function.update s.current interface
      (some (MetricsRow.upsert column (s.current interface) reading))
    samples := Function.update s.samples interface
      (SampleRow.of column (s.current interface) reading :: s.samples interface)
    readings := Function.update s.readings interface (reading :: s.readings interface) }

/-- `mark_unreachable`. -/
def markUnreachable : State := { s with reachable := false }

/-- The loop of `poll`: the tables, how many interfaces were updated, and whether it came to its
end. An interface that misses a counter is skipped, and a statement that fails ends the loop. -/
def pollEach (walks : Walks) (now : ℤ) (reply : ℕ → Reply) : List PollInterface → ℕ →
    State → State × ℕ × Bool
  | [], updated, s => (s, updated, true)
  | m :: ms, updated, s =>
    match walks.reading now m with
    | none => pollEach walks now reply ms updated s
    | some reading =>
      match reply m.interfaceId with
      | .done =>
        pollEach walks now reply ms (updated + 1) (s.storeMetrics column m.interfaceId reading)
      | .lost => (s.storeMetrics column m.interfaceId reading, updated, false)
      | .failed => (s, updated, false)

/-- `poll`, where the device has interfaces. -/
def poll (connects : Bool) (walks : Walks) (now : ℤ) (reply : ℕ → Reply) : State :=
  if s.interfaces = [] then s
  else if !connects then s.markUnreachable
  else if walks.inOct = [] ∨ walks.outOct = [] then s.markUnreachable
  else
    match pollEach column walks now reply s.interfaces 0 s with
    | (s, _, false) => s
    | (s, 0, true) => s.markUnreachable
    | (s, _, true) => { s with reachable := true }

end State

end Poll

/-- What may happen to a device. -/
inductive Event where
  /-- `discover_and_store`. -/
  | discover (interfaces : List PollInterface) (reachable : Bool)
  | poll (connects : Bool) (walks : Walks) (now : ℤ) (reply : ℕ → Reply)

/-- One event. -/
def step (column : ℤ → ℤ) (s : State) : Event → State
  | .discover interfaces reachable => { s with interfaces, reachable }
  | .poll connects walks now reply => s.poll column connects walks now reply

/-! ### What the samples say -/

section Accounts

variable (column : ℤ → ℤ)

/-- The last time that a counter was read, in readings that go back from the newest. -/
def previousRead (c : ErrorCounter) : List Polled → Option MetricCounterBaseline
  | [] => none
  | r :: earlier =>
    match r.errors c with
    | some value => some ⟨value, column r.counters.sampledAt⟩
    | none => previousRead c earlier

/-- The rates of a reading, against the one before it. -/
def ratesOf (earlier : List Polled) (r : Polled) : InterfaceRates :=
  interfaceRates r.counters (earlier.head?.map fun e => e.counters.stored column) r.ifSpeedBps

/-- The sample of a reading that has all earlier ones to look at. -/
def accountOf (earlier : List Polled) (r : Polled) : SampleRow where
  sampledAt := column r.counters.sampledAt
  rates := ratesOf column earlier r
  errors c := counterDelta (r.errors c)
    ((previousRead column c earlier).map MetricCounterBaseline.value)

/-- The samples of all readings. -/
def accounts : List Polled → List SampleRow
  | [] => []
  | r :: earlier => accountOf column earlier r :: accounts earlier

/-- The columns of what was read last. -/
def columnsOf : Option MetricCounterBaseline → MetricColumns
  | some b => ⟨some b.value, some b.sampledAt⟩
  | none => {}

/-- The row of a reading that has all earlier ones to look at. -/
def rowOf (earlier : List Polled) (r : Polled) : MetricsRow where
  counters := r.counters.stored column
  rates := ratesOf column earlier r
  errors c := columnsOf (previousRead column c (r :: earlier))
  inErrRate := counterRate (r.errors .inErrors) (previousRead column .inErrors earlier)
    r.counters.sampledAt
  outErrRate := counterRate (r.errors .outErrors) (previousRead column .outErrors earlier)
    r.counters.sampledAt
  adminStatus := r.admin.map adminStatusStr
  operStatus := r.oper.map operStatusStr
  operStatusValid := r.operStatusValid

/-- The row of all readings. -/
def standing : List Polled → Option MetricsRow
  | [] => none
  | r :: earlier => some (rowOf column earlier r)

variable {column} {s : State} {c : ErrorCounter} {readings : List Polled}

theorem metric_columnsOf (b : Option MetricCounterBaseline) : (columnsOf b).metric = b := by
  cases b <;> rfl

/-- The baseline of a row is the last reading there was of the counter. -/
theorem baseline_standing (c : ErrorCounter) (readings : List Polled) :
    ((standing column readings).map fun row => row.errors c).bind MetricColumns.metric =
      previousRead column c readings := by
  cases readings with
  | nil => rfl
  | cons r earlier => exact metric_columnsOf _

theorem counters_standing (readings : List Polled) :
    (standing column readings).map MetricsRow.counters =
      readings.head?.map fun e => e.counters.stored column := by
  cases readings <;> rfl

/-- A column that is not read keeps what it has. -/
theorem coalesce_standing (r : Polled) (c : ErrorCounter) (readings : List Polled) :
    (r.columns column c).coalesce
        (((standing column readings).map fun row => row.errors c).getD {}) =
      columnsOf (previousRead column c (r :: readings)) := by
  have hold : ((standing column readings).map fun row => row.errors c).getD {} =
      columnsOf (previousRead column c readings) := by
    cases readings <;> rfl
  rw [hold]
  cases hread : r.errors c with
  | none =>
    rw [previousRead, hread, Polled.columns, hread]
    cases previousRead column c readings <;> rfl
  | some value =>
    rw [previousRead, hread, Polled.columns, hread]
    cases previousRead column c readings <;> rfl

/-- **The upsert of a reading**, where the row is that of all readings before. -/
theorem upsert_standing (r : Polled) (readings : List Polled) :
    MetricsRow.upsert column (standing column readings) r = rowOf column readings r := by
  have herrors : (fun c => (r.columns column c).coalesce
      (((standing column readings).map fun row => row.errors c).getD {})) =
      fun c => columnsOf (previousRead column c (r :: readings)) := by
    funext c
    exact coalesce_standing r c readings
  simp only [MetricsRow.upsert, rowOf, baseline_standing, counters_standing, herrors, ratesOf]

theorem sampleRow_standing (r : Polled) (readings : List Polled) :
    SampleRow.of column (standing column readings) r = accountOf column readings r := by
  simp only [SampleRow.of, accountOf, baseline_standing, counters_standing, ratesOf]

/-- **The invariant**: the tables are what the readings make of them. -/
def Accounted (column : ℤ → ℤ) (s : State) : Prop :=
  ∀ interface, s.current interface = standing column (s.readings interface) ∧
    s.samples interface = accounts column (s.readings interface)

theorem Accounted.storeMetrics (h : Accounted column s) (interface : ℕ) (r : Polled) :
    Accounted column (s.storeMetrics column interface r) := by
  intro j
  dsimp only [State.storeMetrics]
  rcases eq_or_ne j interface with rfl | hne
  · obtain ⟨hcurrent, hsamples⟩ := h j
    rw [Function.update_self, Function.update_self, Function.update_self, hcurrent, hsamples,
      upsert_standing, sampleRow_standing]
    exact ⟨rfl, rfl⟩
  · rw [Function.update_of_ne hne, Function.update_of_ne hne, Function.update_of_ne hne]
    exact h j

theorem Accounted.pollEach (h : Accounted column s) (walks : Walks) (now : ℤ) (reply : ℕ → Reply)
    (ms : List PollInterface) (updated : ℕ) :
    Accounted column (s.pollEach column walks now reply ms updated).1 := by
  induction ms generalizing s updated with
  | nil => exact h
  | cons m ms ih =>
    rw [State.pollEach]
    split
    · exact ih h updated
    next r hr =>
      split
      · exact ih (h.storeMetrics m.interfaceId r) (updated + 1)
      · exact h.storeMetrics m.interfaceId r
      · exact h

theorem Accounted.step (h : Accounted column s) (e : Event) :
    Accounted column (step column s e) := by
  cases e with
  | discover interfaces reachable => exact h
  | poll connects walks now reply =>
    simp only [Telemetry.step, State.poll]
    split_ifs
    · exact h
    · exact h
    · exact h
    · have heach := h.pollEach walks now reply s.interfaces 0
      split
      next hpoll =>
        rw [hpoll] at heach
        exact heach
      next hpoll =>
        rw [hpoll] at heach
        exact heach
      next hpoll =>
        rw [hpoll] at heach
        exact heach

/-- **The tables are the readings' own.** In every run of polls, whatever walks and statements
fail: the row and the samples of each interface are those that somebody would write who had all
its stored readings to look at. The rates are against the reading before, the counts and rates of
errors and discards against the last reading that had them. -/
theorem accounted (column : ℤ → ℤ) (es : List Event) (interface : ℕ) :
    let s := Run.run (step column) {} es
    s.current interface = standing column (s.readings interface) ∧
      s.samples interface = accounts column (s.readings interface) := by
  have h : Accounted column (Run.run (step column) {} es) :=
    Run.invariant (fun _ e hinv => hinv.step e) es fun _ => ⟨rfl, rfl⟩
  exact h interface

end Accounts

/-! ### What the counts add up to -/

section Counts

variable {column : ℤ → ℤ}

theorem counterDelta_eq (current previous : Option ℕ) :
    (counterDelta current previous).1 = Meter.increase previous current := by
  cases current with
  | none => cases previous <;> rfl
  | some c =>
    cases previous with
    | none => rfl
    | some p =>
      rw [counterDelta, Meter.increase]
      split_ifs with hle
      · rfl
      · exact (Nat.sub_eq_zero_of_le (by omega)).symm

theorem previousRead_value (c : ErrorCounter) (readings : List Polled) :
    (previousRead column c readings).map MetricCounterBaseline.value =
      Meter.last (readings.map fun r => r.errors c) := by
  induction readings with
  | nil => rfl
  | cons r earlier ih =>
    rw [previousRead, List.map_cons, Meter.last]
    cases r.errors c with
    | none => exact ih
    | some value => rfl

theorem sum_accounts (c : ErrorCounter) (readings : List Polled) :
    ((accounts column readings).map fun sample => (sample.errors c).1).sum =
      Meter.total Meter.increase (readings.map fun r => r.errors c) := by
  induction readings with
  | nil => rfl
  | cons r earlier ih =>
    rw [accounts, List.map_cons, List.sum_cons, ih, List.map_cons, Meter.total, accountOf,
      counterDelta_eq, previousRead_value]

/-- **No gap loses or invents a count.** In every run of polls, for each interface and each of the
counters that are walked apart: what the samples count is what the counter shows now, less what it
showed first, and plus what it was set back by. -/
theorem counts_conserved (column : ℤ → ℤ) (es : List Event) (interface : ℕ) (c : ErrorCounter) :
    let s := Run.run (step column) {} es
    let shown := (s.readings interface).map fun r => r.errors c
    (Meter.first shown).getD 0 +
        ((s.samples interface).map fun sample => (sample.errors c).1).sum =
      (Meter.last shown).getD 0 + Meter.total Meter.decrease shown := by
  intro s shown
  have h : Accounted column s :=
    Run.invariant (fun _ e hinv => hinv.step e) es fun _ => ⟨rfl, rfl⟩
  rw [(h interface).2, sum_accounts]
  change _ + Meter.total Meter.increase shown = _
  have hsome := Meter.isSome_first shown
  cases hlast : Meter.last shown with
  | none =>
    rw [hlast, Option.isSome_none, Option.isSome_eq_false_iff, Option.isNone_iff_eq_none] at hsome
    rw [hsome, Meter.total_of_last_eq_none (fun before => by cases before <;> rfl) hlast,
      Meter.total_of_last_eq_none (fun before => by cases before <;> rfl) hlast]
  | some b =>
    rw [hlast, Option.isSome_some] at hsome
    obtain ⟨a, ha⟩ := Option.isSome_iff_exists.mp hsome
    rw [ha]
    exact Meter.first_add_total_increase ha hlast

end Counts

end Telemetry

end Rerouter
