import Mathlib.Data.List.Dedup
import Mathlib.Data.List.Sort
import Rerouter.Db

/-!
# The guard: rate budget and slot reservation

The queries and checks of `reroute/guard.rs` that decide whether an action may be written
down at all. `Rerouter.admitCheck` and `Rerouter.admitWrite` reserve the budget of a whole bundle
before its first sibling, `Rerouter.reserveRate` spends one unit of it, or of the free budget where
the action is of no bundle, and `Rerouter.reserveSlot` repeats the gates of the device under its
lock.

The budget has two scopes: the routing changes of all devices share one, and a bundle that
only tests configurations has one a device. A count that cannot be read is the greatest
number there is, so that it refuses.
-/

namespace Rerouter

open Table

/-! ### Settings and reasons -/

/-- The rate limit of the configuration tests of a device. -/
structure ConfigurationRate where
  device : ℕ
  limit : ℕ
  window : ℕ
deriving DecidableEq

/-- The safety settings the guard reads. -/
structure SafetyConfig where
  /-- `global_action_rate_limit_count`, a 32-bit number; 0 turns the limit off. -/
  limit : ℕ
  limit_lt : limit < 4294967296
  /-- `global_action_rate_limit_window_seconds`. -/
  window : ℕ
  /-- `configuration_test_devices`, where they set a rate of their own. -/
  testDevices : List ConfigurationRate := []

/-- The rate limit of a configuration test where the device sets none. -/
def defaultConfigurationRate (device : ℕ) : ConfigurationRate := ⟨device, 32, 600⟩

/-- Why an action is refused. -/
inductive BlockReason where
  | maintenanceLock
  | deviceLocked
  | rateLimit (recent windowSecs max : ℕ)
  | gateReadFailed (reason : String)
  | alreadyRunning
  | unresolvedUncertain
  | persistFailed (reason : String)
deriving DecidableEq

/-- The scope a budget is counted in. -/
inductive RateScope where
  | routing (limit window : ℕ)
  | configurationOnly (devices : List ConfigurationRate)
deriving DecidableEq

/-- The intended siblings of a bundle. -/
def bundleLedger (db : Db) (bundle : ℕ) : List BundleActionRow :=
  db.actions.filter fun a => a.bundle = bundle

/-- The devices of a bundle, in order. -/
def ledgerDevices (db : Db) (bundle : ℕ) : List ℕ :=
  (((bundleLedger db bundle).map BundleActionRow.device).insertionSort (· ≤ ·)).dedup

/-- The rate limit of the configuration tests of a device. -/
def configurationRate (cfg : SafetyConfig) (device : ℕ) : ConfigurationRate :=
  (cfg.testDevices.find? fun d => d.device = device).getD (defaultConfigurationRate device)

/-- `bundle_rate_scope`: all siblings of a bundle are of its scope, or it is refused. -/
def bundleRateScope (cfg : SafetyConfig) (db : Db) (bundle : ℕ) : Except BlockReason RateScope :=
  match db.bundle bundle with
  | none => .error (.gateReadFailed "bundle missing")
  | some row =>
    match row.mode with
    | .configurationOnly =>
      if (bundleLedger db bundle).any fun a => a.mode ≠ .configurationOnly then
        .error (.gateReadFailed "configuration-only bundle ledger has mixed verification scope")
      else if ledgerDevices db bundle = [] then
        .error (.gateReadFailed "configuration-only bundle has no device")
      else .ok (.configurationOnly ((ledgerDevices db bundle).map (configurationRate cfg)))
    | .routing =>
      if (bundleLedger db bundle).any fun a => a.mode ≠ .routing then
        .error (.gateReadFailed "routing bundle ledger has mixed verification scope")
      else .ok (.routing cfg.limit cfg.window)
    | .unknown => .error (.gateReadFailed "bundle has unknown verification scope")

/-! ### The counts -/

/-- `i64::MAX`. -/
def i64Max : ℕ := 9223372036854775807

/-- A count, or the greatest number where it cannot be read. -/
def countOrMax (fault : Bool) (n : ℕ) : ℕ := if fault then i64Max else n

/-- `i64::saturating_add`. -/
def saturatingAddI64 (a b : ℕ) : ℕ := min (a + b) i64Max

/-- `created_at > UTC_TIMESTAMP() - window`. -/
def inWindow (now window createdAt : ℕ) : Bool := now < createdAt + window

/-- `scoped_recent_reroute_count`: the rows of the window that are not of the bundle, of the
configuration tests of one device or of the routing changes of all. -/
def scopedRecentRerouteCount (db : Db) (now window : ℕ) (excludeBundle labDevice : Option ℕ) : ℕ :=
  count (fun r => inWindow now window r.createdAt &&
    (excludeBundle.isNone || r.bundle.isNone || decide (r.bundle ≠ excludeBundle)) &&
    decide (r.mode = .configurationOnly) == labDevice.isSome &&
    (labDevice.isNone || decide (some r.device = labDevice))) db.reroutes

/-- `scoped_outstanding_bundle_actions`, `outstanding_bundle_actions_pool_on`: what the other
bundles of the window that may still act have reserved and not spent. -/
def scopedOutstandingBundleActions (db : Db) (now window : ℕ) (excludeBundle : Option ℕ) : ℕ :=
  sumWhere (fun b => b.state.active && decide (some b.id ≠ excludeBundle) &&
    inWindow now window b.createdAt && decide (b.mode ≠ .configurationOnly))
    BundleRow.rateReserved db.bundles

/-- `scoped_outstanding_configuration_actions`: the intended siblings on a device of the other
configuration tests of the window. -/
def scopedOutstandingConfigurationActions (db : Db) (now window excludeBundle device : ℕ) : ℕ :=
  count (fun a => decide (a.device = device) && db.bundles.any fun b =>
    decide (b.id = a.bundle) && b.state.active && decide (b.id ≠ excludeBundle) &&
      inWindow now window b.createdAt && decide (b.mode = .configurationOnly)) db.actions

/-! ### Admission of a bundle -/

/-- The budget check of `admit_bundle` in the routing scope. -/
def admitRouting (db : Db) (now limit window bundle size : ℕ) (fault : Bool) :
    Except BlockReason Unit :=
  let already := countOrMax fault (scopedRecentRerouteCount db now window (some bundle) none)
  let outstanding := countOrMax fault (scopedOutstandingBundleActions db now window (some bundle))
  let projected := saturatingAddI64 already outstanding
  if saturatingAddI64 projected size > limit then .error (.rateLimit projected window limit)
  else .ok ()

/-- The budget check of `admit_bundle` for one device of a configuration test. -/
def admitConfiguration (db : Db) (now bundle : ℕ) (fault : Bool) (device : ConfigurationRate) :
    Except BlockReason Unit :=
  if device.limit = 0 then .ok ()
  else
    let already := countOrMax fault
      (scopedRecentRerouteCount db now device.window (some bundle) (some device.device))
    let outstanding := countOrMax fault
      (scopedOutstandingConfigurationActions db now device.window bundle device.device)
    let requested := count (fun a => decide (a.bundle = bundle) &&
      decide (a.device = device.device)) db.actions
    let projected := saturatingAddI64 already outstanding
    if saturatingAddI64 projected requested > device.limit then
      .error (.rateLimit projected device.window device.limit)
    else .ok ()

/-- Whether a budget was checked, so that a reservation is written: some limit is on. -/
def RateScope.limited : RateScope → Bool
  | .routing limit _ => 0 < limit
  | .configurationOnly devices => devices.any fun d => 0 < d.limit

/-- The checks of `admit_bundle`. -/
def admitCheck (db : Db) (now bundle size : ℕ) (fault : Bool) :
    RateScope → Except BlockReason Unit
  | .routing limit window =>
    if 0 < limit then admitRouting db now limit window bundle size fault else .ok ()
  | .configurationOnly devices => devices.forM (admitConfiguration db now bundle fault)

/-- `state = 'planned' AND rate_reserved_actions = 0`. -/
def BundleRow.unadmitted (b : BundleRow) : Bool :=
  decide (b.state = .planned) && decide (b.rateReserved = 0)

/-- `SET rate_reserved_actions = size`. -/
def BundleRow.reserve (size : ℕ) (b : BundleRow) : BundleRow := { b with rateReserved := size }

/-- The write of `admit_bundle`: the reservation of a planned bundle that has none, or the
one it has, when it is of that size. -/
def admitWrite (db : Db) (bundle size : ℕ) : Except BlockReason Db :=
  if (db.bundle bundle).any BundleRow.unadmitted then
    .ok (db.updateBundle bundle BundleRow.unadmitted (BundleRow.reserve size))
  else if (db.bundle bundle).map BundleRow.rateReserved = some size then .ok db
  else .error (.persistFailed "bundle was not in an admissible planned state")

/-! ### Reservation of one action -/

/-- The budget check of `reserve_and_persist` in the routing scope: a sibling needs an unspent
unit of its bundle, any other action a free one. -/
def reserveRate (db : Db) (now limit window : ℕ) (bundle : Option ℕ) (fault : Bool) :
    Except BlockReason Unit :=
  let recent := countOrMax fault (scopedRecentRerouteCount db now window bundle none)
  let reservedElsewhere := countOrMax fault (scopedOutstandingBundleActions db now window bundle)
  let projected := saturatingAddI64 recent reservedElsewhere
  let ownReserved :=
    match bundle with
    | some id => if fault then 0 else ((db.bundle id).map BundleRow.rateReserved).getD 0
    | none => 0
  if (bundle.isSome ∧ ownReserved = 0) ∨ (bundle.isNone ∧ limit ≤ projected) then
    .error (.rateLimit projected window limit)
  else .ok ()

/-- What `reserve_slot` knows of the action. -/
structure SlotRequest where
  device : ℕ
  /-- The owner token of its authorization. -/
  owner : Option OwnerToken
  rollbackOf : Option ℕ

/-- `running_on_device`. -/
def runningOnDevice (db : Db) (device : ℕ) : Bool :=
  db.reroutes.any fun r => decide (r.device = device) && r.state.inFlight

/-- `has_uncertain`. -/
def hasUncertain (db : Db) (device : ℕ) : Bool :=
  db.reroutes.any fun r => decide (r.device = device) && decide (r.state = .uncertain)

/-- An uncleared lock of everything or of the device. -/
def deviceBlocked (db : Db) (device : ℕ) : Bool :=
  db.locks.any fun l => !l.cleared && (l.scope = .global || l.scope = .device device)

/-- An inverse of the action that has not failed. -/
def inverseExists (db : Db) (original : ℕ) : Bool :=
  db.reroutes.any fun r => decide (r.rollbackOf = some original) &&
    (r.state.inFlight || decide (r.state = .succeeded))

/-- The gates of `reserve_slot`, in its order. -/
def reserveSlot (db : Db) (req : SlotRequest) : Except BlockReason Unit :=
  if db.maintenance then .error .maintenanceLock
  else if deviceBlocked db req.device then .error .deviceLocked
  else if db.windows.any fun w => w.device = req.device && req.owner ≠ some w.owner then
    .error .deviceLocked
  else if runningOnDevice db req.device then .error .alreadyRunning
  else if hasUncertain db req.device then .error .unresolvedUncertain
  else if req.rollbackOf.any (inverseExists db) then .error .alreadyRunning
  else .ok ()

/-- `rate_reserved_actions > 0`. -/
def BundleRow.unspent (b : BundleRow) : Bool := decide (0 < b.rateReserved)

/-- A unit of the reservation is spent. -/
def BundleRow.spendOne (b : BundleRow) : BundleRow :=
  { b with rateReserved := b.rateReserved - 1, rateConsumed := b.rateConsumed + 1 }

/-- The write of `insert_reroute`: a unit of the bundle's reservation is spent, where there is
one to spend, and the row is inserted. -/
def insertReroute (db : Db) (row : RerouteRow) (consumeBundleReservation : Bool) :
    Except BlockReason Db :=
  match if consumeBundleReservation then row.bundle else none with
  | none => .ok (db.addReroute row)
  | some id =>
    if (db.bundle id).any BundleRow.unspent then
      .ok ((db.updateBundle id BundleRow.unspent BundleRow.spendOne).addReroute row)
    else .error (.persistFailed "bundle has no unspent rate reservation")

/-- An insertion writes the row and leaves the locks. -/
theorem insertReroute_tables {db db' : Db} {row : RerouteRow} {consume : Bool}
    (h : insertReroute db row consume = .ok db') :
    db'.reroutes = db.reroutes ++ [row] ∧ db'.locks = db.locks := by
  simp only [insertReroute] at h
  split at h
  · obtain rfl := Except.ok.inj h
    exact ⟨rfl, rfl⟩
  · split_ifs at h
    obtain rfl := Except.ok.inj h
    exact ⟨rfl, rfl⟩

/-- An uncleared lock of the device refuses every action on it. -/
theorem reserveSlot_of_blocked {db : Db} {req : SlotRequest}
    (h : deviceBlocked db req.device = true) :
    ∃ reason, reserveSlot db req = .error reason := by
  rw [reserveSlot]
  split_ifs <;> exact ⟨_, rfl⟩

/-- And so does an action on its way. -/
theorem reserveSlot_of_running {db : Db} {req : SlotRequest}
    (h : runningOnDevice db req.device = true) : ∃ reason, reserveSlot db req = .error reason := by
  rw [reserveSlot]
  split_ifs <;> exact ⟨_, rfl⟩

end Rerouter
