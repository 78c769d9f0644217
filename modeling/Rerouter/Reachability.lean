import Mathlib.Logic.Function.Basic
import Rerouter.Lib.Run
import Rerouter.Lib.Text
import Rerouter.Lib.WholeUnits

/-!
# The reachability of a device

Before a mitigation is carried out, `reroute/reachability.rs` decides whether the device can be
reached (`reachable_for_mitigation`): from a contact of the last minute, or else by a probe. An
automatic mitigation also wants the device *stable*, that is reachable for a minute on end, and the
clock of this, `ssh_reachable_since`, is a column of the database, next to the last known state and
the time of the last contact. A third of the evidence is in the memory of the process: when it last
had contact itself.

Three kinds of calls write all this: the decisions, the periodic probes and the pushes that went
through. Each is cut at its readings, its probe and its two writes (`Rerouter.Reach.Phase`), and the
calls may take turns in any way; a statement may fail, and the controller may be restarted, which
forgets what it had in memory and clears the clock (`Rerouter.Reach.step`).

Times are nanoseconds. The columns hold whole seconds, so that the clock is stored as of the second
it was started in (`Rerouter.Reach.DeviceRow.stampReachable`), and a decision compares it with a
time that is not cut.
-/

namespace Rerouter.Reach

open Text Whole

/-! ### States and their clocks -/

/-- `devices.ssh_status`. -/
inductive SshStatus where
  | reachable | noPrivilege | unreachable | unknown
deriving DecidableEq

/-- `ssh::SshReach`: what a probe finds. -/
inductive SshReach where
  | privileged
  | userExec (message : Text)
  | restricted (message : Text)
  | unreachable (message : Text)
deriving DecidableEq

/-- The state that is stored for an outcome. -/
def SshReach.status : SshReach → SshStatus
  | .privileged => .reachable
  | .userExec _ | .restricted _ => .noPrivilege
  | .unreachable _ => .unreachable

/-- The message of an outcome. -/
def SshReach.message : SshReach → Option Text
  | .privileged => none
  | .userExec message | .restricted message | .unreachable message => some message

/-- `RECENCY_WINDOW`, in seconds. -/
def recencyWindow : ℕ := 60

/-- `STABILITY_WINDOW`, in seconds. -/
def stabilityWindow : ℕ := 60

/-- `device_stable`. -/
def deviceStable (status : SshStatus) (since : Option ℕ) (now : ℕ) : Bool :=
  decide (status = .reachable) && since.any fun t =>
    decide (0 ≤ elapsed second now t ∧ (stabilityWindow : ℤ) ≤ elapsed second now t)

/-- `recent_enough`. -/
def recentEnough (lastOk : Option ℕ) (now : ℕ) : Bool :=
  lastOk.any fun t =>
    decide (0 ≤ elapsed second now t ∧ elapsed second now t < (recencyWindow : ℤ))

/-- `recent_process_success`: the times of the process are not cut. -/
def recentProcessSuccess (success : Option ℕ) (now : ℕ) : Bool :=
  success.any fun t => decide (now - t < recencyWindow * second)

/-- The columns of a device that are about its reachability. -/
structure DeviceRow where
  sshStatus : SshStatus
  lastSshError : Option Text
  lastSshOkAt : Option ℕ
  sshReachableSince : Option ℕ
deriving DecidableEq

/-- The `UPDATE` of `stamp_ssh_status` for a reachable device: it keeps the clock that runs. What it
stores is `UTC_TIMESTAMP()`, which has whole seconds. -/
def DeviceRow.stampReachable (row : DeviceRow) (now : ℕ) : DeviceRow :=
  { row with
    sshStatus := .reachable
    lastSshError := none
    lastSshOkAt := some (cut second now)
    sshReachableSince := row.sshReachableSince.or (some (cut second now)) }

/-- Its `UPDATE` for any other outcome. -/
def DeviceRow.stampNegative (row : DeviceRow) (reach : SshReach) : DeviceRow :=
  { row with
    sshStatus := reach.status
    lastSshError := reach.message
    sshReachableSince := none }

/-! ### Answers -/

/-- `Reachability`. -/
structure Reachability where
  sshOk : Bool
  sshStatus : SshStatus
  stable : Bool
  viaRecency : Bool
  lastSshOkAt : Option ℕ
  sshReachableSince : Option ℕ
  sshError : Option Text
deriving DecidableEq

/-- What a decision reads of its device. The last three fields are not read: they say how many
outcomes had been observed, whether a negative one was waiting to be written, and when the clock was
started, to the nanosecond. -/
structure Snapshot where
  sshStatus : SshStatus
  lastSshOkAt : Option ℕ
  sshReachableSince : Option ℕ
  readAt : ℕ
  seen : ℕ
  owed : Bool
  startedAt : ℕ
deriving DecidableEq

/-- The answer from a recent contact. -/
def recencyAnswer (sn : Snapshot) (now : ℕ) : Reachability :=
  ⟨true, .reachable, deviceStable .reachable sn.sshReachableSince now, true, sn.lastSshOkAt,
      sn.sshReachableSince, none⟩

/-- The answer from a probe that reached the device, with the clock that was read before it. -/
def probedAnswer (sn : Snapshot) (now : ℕ) : Reachability :=
  let since := sn.sshReachableSince.or (some now)
  ⟨true, .reachable, deviceStable .reachable since now, false, some now, since, none⟩

/-- The answer from such a probe when it could not be stored. -/
def unstoredAnswer (sn : Snapshot) (error : Text) : Reachability :=
  ⟨false, .unreachable, false, false, sn.lastSshOkAt, none,
      some ("could not persist SSH reachability: " ++ error)⟩

/-- The answer from any other probe. -/
def negativeAnswer (sn : Snapshot) (reach : SshReach) : Reachability :=
  ⟨false, reach.status, false, false, sn.lastSshOkAt, none, reach.message⟩

/-! ### Calls -/

/-- Who probes, or had contact. -/
inductive Caller where
  /-- `reachable_for_mitigation`, with what it read and its `now`. -/
  | decision (sn : Snapshot) (now : ℕ)
  /-- `probe_ssh_and_store`. -/
  | poll
  /-- A push, which calls `stamp_ssh_ok`. -/
  | push
deriving DecidableEq

/-- Where a call is. -/
inductive Phase where
  /-- A decision has read the row. -/
  | reading (sn : Snapshot)
  | probing (caller : Caller)
  /-- The device was reached, and the row is to be written. `outcome` is the place of this among the
  outcomes. -/
  | reached (caller : Caller) (outcome : ℕ)
  /-- The row is written, and the contact is to be noted in the process. -/
  | stamped (caller : Caller)
  /-- The device was not reached, or not with the privilege; the row is to be written. -/
  | refused (caller : Caller) (reach : SshReach)
deriving DecidableEq

/-- An answer, when it was given, and what had been observed by then. -/
structure Answered where
  answer : Reachability
  givenAt : ℕ
  outcomes : List (ℕ × SshStatus)
deriving DecidableEq

/-- A controller and the row of a device. -/
structure System where
  clock : ℕ
  row : DeviceRow
  /-- The entry of the device in `PROCESS_SUCCESSES`. -/
  success : Option ℕ
  calls : ℕ → Option Phase
  /-- What the process has observed of the device, and when. -/
  outcomes : List (ℕ × SshStatus)
  /-- Whether a negative outcome was observed, and no negative outcome written since. -/
  owed : Bool
  /-- When the clock of the row was started. -/
  startedAt : ℕ
  answers : List Answered

/-- What happens. -/
inductive Event where
  | tick (nanoseconds : ℕ)
  /-- The controller is started again, and `reset_stability` goes through: as long as it does not,
  the controller does not start. -/
  | restart
  /-- A decision reads the row, or fails to. -/
  | read (i : ℕ) (ok : Bool)
  /-- A decision has taken the time, and looks for a recent contact. -/
  | decide (i now : ℕ)
  /-- A periodic probe begins. -/
  | probe (i : ℕ)
  /-- A push has gone through. -/
  | pushed (i : ℕ)
  /-- A probe ends. -/
  | observe (i : ℕ) (reach : SshReach)
  /-- The `UPDATE` of a call is made, or fails. -/
  | update (i : ℕ) (error : Option Text)
  /-- The contact of a call is noted in the process. -/
  | note (i : ℕ)

namespace System

variable (s : System) (i : ℕ)

/-- The call `i`, from now on in a phase, or over. -/
def put (phase : Option Phase) : System := { s with calls := Function.update s.calls i phase }

/-- What a decision reads: a row that cannot be read stands for a device that cannot be reached. -/
def snapshot (ok : Bool) : Snapshot :=
  if ok then
    ⟨s.row.sshStatus, s.row.lastSshOkAt, s.row.sshReachableSince, s.clock,
        s.outcomes.length, s.owed, s.startedAt⟩
  else ⟨.unreachable, none, none, s.clock, s.outcomes.length, s.owed, s.startedAt⟩

/-- A decision gives its answer. -/
def give (answer : Reachability) : System :=
  { s.put i none with answers := s.answers ++ [⟨answer, s.clock, s.outcomes⟩] }

/-- A call is over: a decision with its answer, the others without. -/
def finish (caller : Caller) (answer : Snapshot → ℕ → Reachability) : System :=
  match caller with
  | .decision sn now => s.give i (answer sn now)
  | _ => s.put i none

/-- The device was reached. -/
def reachedBy (caller : Caller) : System :=
  { s.put i (some (.reached caller s.outcomes.length)) with
    outcomes := s.outcomes ++ [(s.clock, .reachable)] }

/-- It was not. The contact noted in the process is forgotten before anything is written. -/
def refusedBy (caller : Caller) (reach : SshReach) : System :=
  { s.put i (some (.refused caller reach)) with
    success := none
    outcomes := s.outcomes ++ [(s.clock, reach.status)]
    owed := true }

/-- A contact is written: a clock that does not run is started. -/
def stampReachable : System :=
  { s with
    row := s.row.stampReachable s.clock
    startedAt := if s.row.sshReachableSince.isNone then s.clock else s.startedAt }

/-- Whether a decision may answer from a recent contact. -/
def recentlyReached (sn : Snapshot) (now : ℕ) : Bool :=
  decide (sn.sshStatus = .reachable) && recentEnough sn.lastSshOkAt now &&
    recentProcessSuccess s.success s.clock

/-- A controller that has just started. -/
def started (clock : ℕ) (row : DeviceRow) (answers : List Answered) : System :=
  ⟨clock, { row with sshReachableSince := none }, none, fun _ => none, [], false, clock, answers⟩

end System

/-- What an event does. -/
def step (s : System) : Event → System
  | .tick nanoseconds => { s with clock := s.clock + nanoseconds }
  | .restart => .started s.clock s.row s.answers
  | .read i ok =>
    match s.calls i with
    | none => s.put i (some (.reading (s.snapshot ok)))
    | some _ => s
  | .decide i now =>
    match s.calls i with
    | some (.reading sn) =>
      if sn.readAt ≤ now ∧ now ≤ s.clock then
        if s.recentlyReached sn now then s.give i (recencyAnswer sn now)
        else s.put i (some (.probing (.decision sn now)))
      else s
    | _ => s
  | .probe i =>
    match s.calls i with
    | none => s.put i (some (.probing .poll))
    | some _ => s
  | .pushed i =>
    match s.calls i with
    | none => s.reachedBy i .push
    | some _ => s
  | .observe i reach =>
    match s.calls i with
    | some (.probing caller) =>
      match reach with
      | .privileged => s.reachedBy i caller
      | _ => s.refusedBy i caller reach
    | _ => s
  | .update i error =>
    match s.calls i with
    | some (.reached caller _) =>
      match error with
      | none => s.stampReachable.put i (some (.stamped caller))
      | some e => s.finish i caller fun sn _ => unstoredAnswer sn e
    | some (.refused caller reach) =>
      -- A write that fails changes nothing of the answer.
      match error with
      | none =>
        { s.finish i caller fun sn _ => negativeAnswer sn reach with
          row := s.row.stampNegative reach
          owed := false }
      | some _ => s.finish i caller fun sn _ => negativeAnswer sn reach
    | _ => s
  | .note i =>
    match s.calls i with
    | some (.stamped caller) => { s.finish i caller probedAnswer with success := some s.clock }
    | _ => s

end Rerouter.Reach
