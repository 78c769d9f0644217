import Rerouter.Lib.Table

/-!
# The database

The tables the reroute subsystem keeps, with the columns its safety gates, its executor and
its recovery read or write. A row is a structure, an enumerated column an inductive type, and
an `AUTO_INCREMENT` key a number; columns that are only shown to an operator (reasons, actors,
audit data) are left out.

Every statement of the program changes a table or two and leaves the others alone, so a state
is the record of all tables and a statement an update of it.
-/

namespace Rerouter

open Table

/-! ### Enumerated columns -/

/-- `reroutes.state`. -/
inductive RerouteState where
  | planned | pending | running | verifying | succeeded | failed | uncertain
deriving DecidableEq

/-- The states of a reroute that is on its way. -/
def RerouteState.inFlight : RerouteState → Bool
  | planned | pending | running | verifying => true
  | _ => false

/-- `mutation_effect`: what a reroute is known to have done to its router. -/
inductive MutationEffect where
  | pending | changed | noop | unknown
deriving DecidableEq

/-- `reroutes.trigger_type`. -/
inductive TriggerType where
  | automatic | manual | rollback
deriving DecidableEq

/-- `verification_mode`, where an absent one counts as `routing`. -/
inductive VerificationMode where
  | routing | configurationOnly | unknown
deriving DecidableEq

/-- `reroute_bundles.state`. -/
inductive BundleState where
  | planned | running | succeeded | aborted | compensating | compensated | compensationBlocked
  | failed
deriving DecidableEq

/-- The states of a bundle that may still act. -/
def BundleState.active : BundleState → Bool
  | planned | running | compensating => true
  | _ => false

/-- `reroute_bundles.lifecycle_state`. -/
inductive Lifecycle where
  | inactive | active | recoveryScheduled | recoveryClaimed | recoveryRunning | recoveryBlocked
deriving DecidableEq

/-- `reroute_bundle_actions.state`. -/
inductive ActionState where
  | queued | running | succeeded | noop | failed | uncertain | compensated
deriving DecidableEq

/-- A recovery claim token. -/
inductive ClaimToken where
  /-- `legacy:child:N`. -/
  | legacy (child : ℕ)
  /-- A generated one. -/
  | minted (n : ℕ)
deriving DecidableEq

/-- `recovery_attempt_sources.settlement`. -/
inductive Settlement where
  | active | restored | knownNoWrite | blocked
deriving DecidableEq

/-- `device_change_windows.phase`. -/
inductive WindowPhase where
  | prepared | applying | compensating | uncertain
deriving DecidableEq

/-- `locks.scope` with its `scope_ref`. -/
inductive LockScope where
  | global
  | device (id : ℕ)
deriving DecidableEq

/-- `locks.kind`. -/
inductive LockKind where
  | manual | autoFailed | autoCrash | autoUncertain
deriving DecidableEq

/-- The owner of a device change window. -/
inductive OwnerToken where
  /-- `bundle:N`. -/
  | bundle (id : ℕ)
  /-- `plan:N`. -/
  | plan (id : ℕ)
  /-- `recovery:bundle:N`. -/
  | recovery (id : ℕ)
  /-- `quarantine:device:N`. -/
  | quarantine (device : ℕ)
deriving DecidableEq

/-! ### Rows -/

/-- A row of `reroutes`: one action on one device. -/
structure RerouteRow where
  id : ℕ
  device : ℕ
  /-- The bundle the action is a sibling of. -/
  bundle : Option ℕ
  /-- `rollback_of_reroute_id`: the action this one inverts. -/
  rollbackOf : Option ℕ
  trigger : TriggerType
  mode : VerificationMode
  createdAt : ℕ
  state : RerouteState := .planned
  effect : MutationEffect := .pending
  /-- `bundle_position`. -/
  position : Option ℕ := none
deriving DecidableEq

/-- A row of `reroute_bundles`: one ordered set of actions. -/
structure BundleRow where
  id : ℕ
  mode : VerificationMode
  createdAt : ℕ
  state : BundleState := .planned
  /-- `rate_reserved_actions`: the part of the rate reservation not spent yet. -/
  rateReserved : ℕ := 0
  /-- `rate_consumed_actions`. -/
  rateConsumed : ℕ := 0
  /-- `total_actions`. -/
  total : ℕ := 0
  /-- `parent_bundle_id`. -/
  parent : Option ℕ := none
  lifecycle : Lifecycle := .inactive
  /-- `remaining_mutations`. -/
  remaining : ℕ := 0
  /-- `recovery_claim_token`. -/
  claim : Option ClaimToken := none
  /-- `recovery_bundle_id`. -/
  recoveryBundle : Option ℕ := none
  /-- `automatic_recovery_cancelled_at IS NOT NULL`. -/
  cancelled : Bool := false
  /-- Its source is a recovery in preparation phase `published` or `preparing`. -/
  published : Bool := false
  /-- The actions of its consumed execution plan. -/
  consumedPlan : Option ℕ := none
  /-- `recovery_deadline`. -/
  deadline : Option ℕ := none
  /-- `revert_after_seconds` of its source, where that is an integer. -/
  revertAfter : Option ℤ := none
  /-- `original_reroute_ids` of its source, where it is a recovery. -/
  sourceOriginals : List ℕ := []
deriving DecidableEq

/-- A row of `reroute_bundle_actions`: one intended sibling. -/
structure BundleActionRow where
  bundle : ℕ
  position : ℕ
  device : ℕ
  mode : VerificationMode
  state : ActionState := .queued
  effect : MutationEffect := .pending
  /-- The reroute that carried it out. -/
  reroute : Option ℕ := none
  /-- `original_reroute_id`: the action it is to invert. -/
  original : Option ℕ := none
deriving DecidableEq

/-- A row of `locks`. -/
structure LockRow where
  scope : LockScope
  /-- The reroute whose outcome made the lock. -/
  reroute : Option ℕ
  kind : LockKind
  cleared : Bool := false
deriving DecidableEq

/-- A row of `device_change_windows`: who may configure a device. -/
structure ChangeWindowRow where
  device : ℕ
  bundle : Option ℕ
  owner : OwnerToken
  phase : WindowPhase := .prepared
deriving DecidableEq

/-- A row of `device_change_window_sources`: an activation that quarantines a device. -/
structure WindowSourceRow where
  device : ℕ
  source : ℕ
deriving DecidableEq

/-- A row of `recovery_attempt_sources`: an activation that a recovery is to restore. -/
structure AttemptRow where
  /-- `recovery_bundle_id`. -/
  child : ℕ
  /-- `source_bundle_id`. -/
  source : ℕ
  token : ClaimToken
  settlement : Settlement := .active
deriving DecidableEq

/-- A row of `recovery_attempt_device_memberships`: who put an activation's quarantine on a
device. -/
structure MembershipRow where
  child : ℕ
  source : ℕ
  device : ℕ
  createdByAttempt : Bool
  released : Bool := false
deriving DecidableEq

/-- The tables. -/
structure Db where
  reroutes : List RerouteRow := []
  bundles : List BundleRow := []
  actions : List BundleActionRow := []
  locks : List LockRow := []
  windows : List ChangeWindowRow := []
  /-- `device_change_window_sources`. -/
  sources : List WindowSourceRow := []
  /-- `recovery_attempt_sources`. -/
  attempts : List AttemptRow := []
  /-- `recovery_attempt_device_memberships`. -/
  memberships : List MembershipRow := []
  /-- The setting `global_maintenance_lock`. -/
  maintenance : Bool := false

namespace Db

/-- The bundle of an id. -/
def bundle (db : Db) (id : ℕ) : Option BundleRow := find BundleRow.id id db.bundles

/-- The reroute of an id. -/
def reroute (db : Db) (id : ℕ) : Option RerouteRow := find RerouteRow.id id db.reroutes

/-- `UPDATE reroute_bundles SET f WHERE id = … AND p`. -/
def updateBundle (db : Db) (id : ℕ) (p : BundleRow → Bool) (f : BundleRow → BundleRow) : Db :=
  { db with bundles := update (fun b => b.id = id && p b) f db.bundles }

/-- `UPDATE reroutes SET f WHERE id = … AND p`. -/
def updateReroute (db : Db) (id : ℕ) (p : RerouteRow → Bool) (f : RerouteRow → RerouteRow) : Db :=
  { db with reroutes := update (fun r => r.id = id && p r) f db.reroutes }

/-- `UPDATE reroute_bundle_actions SET state, mutation_effect WHERE reroute_id = …`. -/
def updateAction (db : Db) (reroute : ℕ) (state : ActionState) (effect : MutationEffect) : Db :=
  { db with
    actions := update (fun a => a.reroute = some reroute)
      (fun a => { a with state, effect }) db.actions }

/-- `INSERT INTO reroute_bundles`. -/
def addBundle (db : Db) (row : BundleRow) : Db := { db with bundles := db.bundles ++ [row] }

/-- `INSERT INTO reroutes`. -/
def addReroute (db : Db) (row : RerouteRow) : Db := { db with reroutes := db.reroutes ++ [row] }

/-- `UPDATE device_change_windows SET f WHERE p`. -/
def updateWindows (db : Db) (p : ChangeWindowRow → Bool)
    (f : ChangeWindowRow → ChangeWindowRow) : Db :=
  { db with windows := update p f db.windows }

/-- `DELETE FROM device_change_windows WHERE p`. -/
def deleteWindows (db : Db) (p : ChangeWindowRow → Bool) : Db :=
  { db with windows := delete p db.windows }

/-- `DELETE FROM device_change_window_sources WHERE p`. -/
def deleteSources (db : Db) (p : WindowSourceRow → Bool) : Db :=
  { db with sources := delete p db.sources }

/-- `INSERT IGNORE INTO device_change_window_sources`. -/
def addSource (db : Db) (row : WindowSourceRow) : Db :=
  if row ∈ db.sources then db else { db with sources := db.sources ++ [row] }

/-- `UPDATE recovery_attempt_sources SET f WHERE p`. -/
def updateAttempts (db : Db) (p : AttemptRow → Bool) (f : AttemptRow → AttemptRow) : Db :=
  { db with attempts := update p f db.attempts }

/-- `UPDATE recovery_attempt_device_memberships SET f WHERE p`. -/
def updateMemberships (db : Db) (p : MembershipRow → Bool)
    (f : MembershipRow → MembershipRow) : Db :=
  { db with memberships := update p f db.memberships }

/-- Whether an activation quarantines a device. -/
def quarantined (db : Db) (device : ℕ) : Bool := db.sources.any fun m => m.device = device

/-- `INSERT INTO locks`. -/
def addLock (db : Db) (row : LockRow) : Db := { db with locks := db.locks ++ [row] }

/-- `UPDATE locks SET cleared_at = … WHERE cleared_at IS NULL AND p`. -/
def clearLocks (db : Db) (p : LockRow → Bool) : Db :=
  { db with
    locks := update (fun l => !l.cleared && p l) (fun l => { l with cleared := true }) db.locks }

end Db

end Rerouter
