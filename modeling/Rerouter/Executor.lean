import Rerouter.Guard

/-!
# One reroute: its statements

What `reroute/executor.rs` writes while it carries out one action, and what the other parties
write to a row of `reroutes`: an operator who cancels it or reconciles it, the supervisor of a
worker that ended early, a bundle that lost its projected state, and
`Rerouter.recoverOnStartup`, which goes over the rows a crash left in flight.

Each statement changes the rows of one reroute in the states its `WHERE` names, and each
transaction is one update of the tables: what it wrote is there as a whole or not at all.
-/

namespace Rerouter

open Table

/-! ### Transitions of a row -/

/-- `state IN ('planned','pending')`: no command was sent yet. -/
def RerouteState.early : RerouteState → Bool
  | planned | pending => true
  | _ => false

/-- `state IN ('running','verifying')`. -/
def RerouteState.acting : RerouteState → Bool
  | running | verifying => true
  | _ => false

/-- `SET state, mutation_effect`. -/
def RerouteRow.settle (state : RerouteState) (effect : MutationEffect) (r : RerouteRow) :
    RerouteRow := { r with state, effect }

/-- `SET state`. -/
def RerouteRow.enter (state : RerouteState) (r : RerouteRow) : RerouteRow := { r with state }

/-- `UPDATE reroutes SET f WHERE id = … AND state IN p`. -/
def transition (db : Db) (id : ℕ) (p : RerouteState → Bool) (f : RerouteRow → RerouteRow) : Db :=
  db.updateReroute id (fun r => p r.state) f

/-- Whether a transition finds its row: `rows_affected() = 1`. -/
def finds (db : Db) (id : ℕ) (p : RerouteState → Bool) : Bool :=
  (db.reroute id).any fun r => p r.state

/-- The lock of a device that the outcome of a reroute makes. -/
def outcomeLock (device reroute : ℕ) (kind : LockKind) : LockRow :=
  ⟨.device device, some reroute, kind, false⟩

/-! ### The executor -/

/-- `abort_reserved`: a record that has to precede the action could not be written. -/
def abortReserved (db : Db) (id : ℕ) : Db :=
  transition db id (· = .planned) (.settle .failed .noop)

/-- The error path of `run_state_machine`: aborted before command execution. -/
def abortBeforeExecution (db : Db) (id : ℕ) : Db :=
  transition db id RerouteState.early (.settle .failed .noop)

/-- What the verification of an action found. -/
inductive Verdict where
  | pass | fail | uncertain | none
deriving DecidableEq

/-- A terminal state. -/
inductive FinalState where
  | succeeded | failed | uncertain
deriving DecidableEq

/-- The state a row is left in. -/
def FinalState.state : FinalState → RerouteState
  | succeeded => .succeeded
  | failed => .failed
  | uncertain => .uncertain

/-- `final_state_for`. -/
def finalStateFor (appliedOk : Bool) (verdict : Verdict) (requireVerification : Bool) :
    FinalState :=
  if !appliedOk then .uncertain
  else
    match verdict with
    | .pass => .succeeded
    | .fail => .failed
    | .uncertain => .uncertain
    | .none => if requireVerification then .uncertain else .succeeded

/-- How the port call of `run_state_machine` returned. -/
inductive PortResult where
  /-- The commands went out, or an error did not say that none had. -/
  | pushed | ambiguous
  /-- Nothing had to be pushed. -/
  | skipped
  /-- The session proved, before any effect, that the write must not happen. -/
  | refused
deriving DecidableEq

def PortResult.appliedOk : PortResult → Bool
  | .ambiguous => false
  | _ => true

/-- The terminal state and effect of a refusal, by whether its record was written. -/
def refusalOutcome (persisted : Bool) : FinalState × MutationEffect :=
  if persisted then (.failed, .noop) else (.uncertain, .unknown)

/-- The terminal state and effect of an action that ran. -/
def runOutcome (result : PortResult) (persisted : Bool) (verdict : Verdict)
    (requireVerification : Bool) : FinalState × MutationEffect :=
  (if persisted then finalStateFor result.appliedOk verdict requireVerification else .uncertain,
    if !persisted || !result.appliedOk then .unknown
    else if result = .skipped then .noop
    else .changed)

/-- `finalize`: the terminal state and, where it is uncertain, the lock of the device, in one
transaction. -/
def finalize (db : Db) (id device : ℕ) (state : FinalState) (effect : MutationEffect) :
    Option Db :=
  if finds db id RerouteState.acting then
    if state = .uncertain then
      some ((transition db id RerouteState.acting (.settle state.state effect)).addLock
        (outcomeLock device id .autoUncertain))
    else some (transition db id RerouteState.acting (.settle state.state effect))
  else none

/-! ### The other parties -/

/-- `cancel`: an operator cancels an action that has not started. -/
def cancelReroute (db : Db) (id : ℕ) : Db := transition db id RerouteState.early (.enter .failed)

/-- `quarantine_interrupted_worker_bundle`, for one row. -/
def quarantineInterrupted (db : Db) (row : RerouteRow) : Db :=
  let settled := transition db row.id RerouteState.inFlight (.settle .uncertain .unknown)
  if db.locks.any fun l => decide (l.reroute = some row.id) && !l.cleared then settled
  else settled.addLock (outcomeLock row.device row.id .autoUncertain)

/-- `quarantine_interrupted_worker_bundle`: the rows its bundle has in flight, the bundle, and the
rest of its reservation. -/
def quarantineInterruptedWorkerBundle (db : Db) (bundle : ℕ) : Db :=
  ((db.reroutes.filter fun r => decide (r.bundle = some bundle) && r.state.inFlight).foldl
    quarantineInterrupted db).updateBundle bundle (fun b => b.state.active) fun b =>
      { b with state := .compensationBlocked, lifecycle := .recoveryBlocked, rateReserved := 0 }

/-- `state = 'succeeded' AND mutation_effect = 'changed'`. -/
def RerouteRow.changed (r : RerouteRow) : Bool :=
  decide (r.state = .succeeded) && decide (r.effect = .changed)

/-- `quarantine_changed_actions`, for one sibling. -/
def quarantineChanged (db : Db) (id : ℕ) : Option Db :=
  match db.reroute id with
  | none => none
  | some row =>
    if row.changed then
      some (((transition db id (· = .succeeded) (.settle .uncertain .unknown)).updateAction id
        .uncertain .unknown).addLock (outcomeLock row.device id .autoUncertain))
    else none

/-- `quarantine_changed_actions`: all of them, or none. -/
def quarantineChangedActions (db : Db) (applied : List ℕ) : Option Db :=
  applied.foldlM quarantineChanged db

/-- What the read of an uncertain action proved. -/
inductive ReconciliationResult where
  | changed | notApplied | conflict
deriving DecidableEq

/-- A row that may be reconciled: uncertain, or a failed inverse that changed the device. -/
def RerouteRow.reconcilable (r : RerouteRow) : Bool :=
  decide (r.state = .uncertain) ||
    (decide (r.state = .failed) && decide (r.effect = .changed) && r.rollbackOf.isSome)

/-- The state and effect that a proof settles, and the state of its action. -/
def ReconciliationResult.outcome :
    ReconciliationResult → Option (FinalState × MutationEffect × ActionState)
  | changed => some (.succeeded, .changed, .succeeded)
  | notApplied => some (.failed, .noop, .noop)
  | conflict => none

/-- `kind IN ('auto_crash','auto_uncertain')`. -/
def LockKind.clearable : LockKind → Bool
  | autoCrash | autoUncertain => true
  | _ => false

/-- `reconcile_uncertain`, on the row, its action and its locks. -/
def reconcileUncertain (db : Db) (id : ℕ) (result : ReconciliationResult) : Option Db :=
  match db.reroute id with
  | none => none
  | some row =>
    if row.reconcilable then
      match result.outcome with
      | none => some db
      | some (state, effect, action) =>
        some (((db.updateReroute id RerouteRow.reconcilable
            (.settle state.state effect)).updateAction
          id action effect).clearLocks fun l => decide (l.reroute = some id) && l.kind.clearable)
    else none

/-! ### Startup -/

/-- What a caller learns of a statement. One that is `lost` was committed, and its
acknowledgement was not received. -/
inductive Reply where
  | done | lost | failed
deriving DecidableEq

/-- Whether the statement took effect. -/
def Reply.committed : Reply → Bool
  | failed => false
  | _ => true

/-- The transaction of `recover_on_startup` for one row. -/
def recoverOne (db : Db) (row : RerouteRow) : Option Db :=
  if finds db row.id RerouteState.inFlight then
    some ((transition db row.id RerouteState.inFlight (.settle .uncertain .unknown)).addLock
      (outcomeLock row.device row.id .autoCrash))
  else none

/-- One round of the loop of `recover_on_startup`: the tables, and the failures so far. -/
def recoverStep (reply : ℕ → Reply) (acc : Db × ℕ) (row : RerouteRow) : Db × ℕ :=
  match recoverOne acc.1 row with
  | none => (acc.1, acc.2 + 1)
  | some db =>
    (if (reply row.id).committed then db else acc.1,
      if reply row.id = .done then acc.2 else acc.2 + 1)

/-- `recover_on_startup`: every row in flight. The controller goes on where no transaction
failed; else it stops, keeping what was committed. -/
def recoverOnStartup (reply : ℕ → Reply) (db : Db) : Db × ℕ :=
  (db.reroutes.filter fun r => r.state.inFlight).foldl (recoverStep reply) (db, 0)

end Rerouter
