import Mathlib.Data.List.Range
import Mathlib.Logic.Function.Basic
import Rerouter.Lib.Run
import Rerouter.Lib.WholeUnits

/-!
# Signing in

An account is signed in to in two steps (`auth/mod.rs`): `login` checks the password, and of an
account without a second factor the enrollment code, and makes a session; `totp_challenge` checks
the second factor and promotes the session. The same second factor is asked for again before the
system is armed (`verify_step_up`), and an administrator may reset it (`reset_2fa` of
`api/users.rs`).

Each request is cut at its statements (`Rerouter.SignIn.Phase`), and requests on one account may
take turns in any way (`Rerouter.SignIn.step`). A request may be given up at any of them: it is
answered with an error where its statement fails, and dropped where its client leaves.

Hashing, encryption and the generation of codes are taken for perfect: passwords and codes are
numbers, a hash is of one code, a code of an authenticator is of one secret and one step of time,
and what is generated was not generated before. A cookie stands for its session.

Times are nanoseconds. The columns hold whole seconds: a time of the database is cut to them, and
one of the process is rounded where it is stored (`Rerouter.SignIn.Config.rounding`), though not
where it is compared with what is stored.
-/

namespace Rerouter.SignIn

open Whole

/-- `AuthConfig`, as far as signing in reads it. The threshold is a `u32`, as the counter is that is
compared with it. The rounding is the one of the database. -/
structure Config where
  sessionTtlHours : ℕ
  rememberMeTtlHours : ℕ
  pre2faTtlMinutes : ℕ
  lockoutThreshold : ℕ
  lockoutMinutes : ℕ
  rounding : Rounding
  threshold_le : lockoutThreshold ≤ 4294967295

/-! ### The tables -/

/-- The row of the account in `users`. -/
structure UserRow where
  password : ℕ
  twoFactorSecret : Option ℕ
  twoFactorRecoveryCodes : Option (List ℕ)
  twoFactorConfirmedAt : Option ℕ
  /-- The code whose hash is `two_factor_enrollment_token_hash`. -/
  enrollmentCode : Option ℕ
  lastTotpStep : Option ℕ
  failedLoginAttempts : ℕ
  lockedUntil : Option ℕ
deriving DecidableEq

/-- A row of `sessions`. The last two fields are not stored: how often the second factor had been
reset when the session was made, and by which login. -/
structure SessionRow where
  id : ℕ
  totpVerified : Bool
  createdAt : ℕ
  expiresAt : ℕ
  resets : ℕ
  login : ℕ
deriving DecidableEq

/-- A session that is not verified, and not expired. -/
def SessionRow.pending (now : ℕ) (x : SessionRow) : Bool :=
  !x.totpVerified && decide (cut second now < x.expiresAt)

/-- A session that `validate` accepts, if it is not idle. -/
def SessionRow.accepted (now : ℕ) (x : SessionRow) : Bool :=
  x.totpVerified && decide (cut second now < x.expiresAt)

/-! ### Factors -/

/-- `LoginBody`. -/
structure LoginBody where
  password : ℕ
  remember : Bool
  enrollmentCode : Option ℕ
deriving DecidableEq

/-- A second factor: the code of a secret at a step of time, a recovery code, or any other text. -/
inductive Code where
  | totp (secret timeStep : ℕ)
  | recovery (code : ℕ)
  | other
deriving DecidableEq

/-- `totp::matched_step`: the code of a step is good from the step before it to the one behind
it. -/
def matchedStep (secret : ℕ) (code : Code) (now : ℕ) : Option ℕ :=
  match code with
  | .totp s timeStep =>
    if s = secret ∧ now / second / 30 ≤ timeStep + 1 ∧ timeStep ≤ now / second / 30 + 1 then
      some timeStep
    else none
  | _ => none

/-- Whether a login may go on without a second factor, or with an enrollment code. -/
def enrollmentOk (body : LoginBody) (row : UserRow) : Bool :=
  row.twoFactorConfirmedAt.isSome ||
    (body.enrollmentCode.isSome && decide (body.enrollmentCode = row.enrollmentCode))

/-- Whether an account is locked. -/
def UserRow.locked (row : UserRow) (now : ℕ) : Bool := row.lockedUntil.any fun u => decide (now < u)

/-- How long an account is locked. -/
def Config.lockTime (cfg : Config) : ℕ := max cfg.lockoutMinutes 1 * 60 * second

/-- Hours a session is good for. -/
def Config.ttlHours (cfg : Config) (remember : Bool) : ℕ :=
  if remember then cfg.rememberMeTtlHours else cfg.sessionTtlHours

/-- The `UPDATE` of `bump_failure_and_maybe_lock`. -/
def UserRow.bump (cfg : Config) (now : ℕ) (row : UserRow) : UserRow :=
  let next := min (row.failedLoginAttempts + 1) 4294967295
  { row with
    failedLoginAttempts := next
    lockedUntil :=
      if cfg.lockoutThreshold ≤ next then some (cfg.rounding.store second (now + cfg.lockTime))
      else none }

/-- Number of recovery codes: `RECOVERY_CODE_COUNT`. -/
def recoveryCodeCount : ℕ := 8

/-! ### Requests -/

/-- What a request read of the account, and when. The last five fields are not read: how many wrong
factors had been evaluated, which of them were not recorded, when the lock was to run out, and how
many sign-ins and resets there had been. -/
structure Reading where
  row : UserRow
  readAt : ℕ
  evaluated : ℕ
  owed : List ℕ
  lockEnd : ℕ
  signIns : ℕ
  resets : ℕ
deriving DecidableEq

/-- Where a request is. -/
inductive Phase where
  /-- A login has read the account. -/
  | loginRead (body : LoginBody) (rd : Reading)
  /-- Its factors were right, and pending sessions are to be expired. -/
  | expiring (body : LoginBody) (rd : Reading)
  /-- They are, and its session is to be made. `made` is the number of sessions there were. -/
  | creating (body : LoginBody) (rd : Reading) (made : ℕ)
  /-- The account has no authenticator, and a secret for one is to be stored. -/
  | enrolling (body : LoginBody) (rd : Reading)
  /-- A challenge has found its session. -/
  | challenged (session : ℕ) (code : Code)
  /-- It has read the account. -/
  | challengeRead (session : ℕ) (code : Code) (rd : Reading)
  /-- Its code is of no step that could be accepted, and may be a recovery code. -/
  | recovering (session : ℕ) (code : Code) (rd : Reading)
  /-- Its code was accepted, and the session is to be verified. -/
  | promoting (session : ℕ) (rd : Reading) (usedRecovery : Option ℕ)
  /-- It is, and the account is to be written. -/
  | finishing (session : ℕ) (rd : Reading) (usedRecovery : Option ℕ)
  /-- That failed, and the session is to be expired. -/
  | revoking (session : ℕ)
  /-- A factor was wrong, and this is to be recorded. `signIns` is the number of sign-ins before
  it. -/
  | failing (signIns evaluatedAt : ℕ)
  /-- A step-up has read the secret, and its code is to be consumed. -/
  | steppingUp (secret : ℕ) (code : Code) (readAt : ℕ)
deriving DecidableEq

/-- An answer to a login that hands out a secret: the code it had given, and the one the account
has. -/
structure Enrollment where
  given : Option ℕ
  current : Option ℕ
deriving DecidableEq

/-- What has happened, as far as nothing stored says so. -/
structure History where
  /-- The number of wrong factors that were evaluated. -/
  evaluated : ℕ
  /-- When, for those since the last completed sign-in. -/
  guesses : List ℕ
  /-- Those of these that are not recorded. -/
  owed : List ℕ
  /-- When a failure was last recorded. -/
  recordedAt : ℕ
  /-- When the lock was to run out that was set then, to the nanosecond. -/
  lockEnd : ℕ
  /-- The number of completed sign-ins. -/
  signIns : ℕ
  /-- The number of resets. -/
  resets : ℕ
  /-- The steps that were accepted since the last reset, the first one first. -/
  steps : List ℕ
  /-- The sessions a second factor was accepted for. -/
  factors : List ℕ
  /-- The logins there were. -/
  logins : List ℕ
  /-- The logins whose password was right. -/
  passwords : List ℕ
  /-- The recovery codes by which sign-ins were completed. -/
  recoveries : List ℕ
  /-- The recovery codes that were shown since the last reset, and not used. -/
  shown : List ℕ
  enrollments : List Enrollment

/-- An account, its sessions and the requests on it. -/
structure System where
  clock : ℕ
  user : UserRow
  sessions : List SessionRow
  calls : ℕ → Option Phase
  /-- The next number that was not generated. -/
  fresh : ℕ
  history : History

/-- What happens. -/
inductive Event where
  | tick (nanoseconds : ℕ)
  /-- A request is given up. -/
  | drop (i : ℕ)
  /-- A login reads the account. -/
  | login (i : ℕ) (body : LoginBody)
  /-- It compares the lock with the time `now`, and evaluates its factors. -/
  | authenticate (i now : ℕ)
  /-- `expire_unverified_for_user`. -/
  | expireOld (i : ℕ)
  /-- `sessions::create`. -/
  | create (i : ℕ)
  /-- The secret for an authenticator is stored. -/
  | store (i : ℕ)
  /-- `validate_pre2fa`. -/
  | challenge (i session : ℕ) (code : Code)
  /-- A challenge reads the account. -/
  | read (i : ℕ)
  /-- It compares the lock with the time `now`: `consume_totp_step`. -/
  | consume (i now : ℕ)
  /-- `consume_recovery_code`. -/
  | recover (i : ℕ)
  /-- `mark_totp_verified_and_rotate`. -/
  | promote (i : ℕ)
  /-- The account is written, or that fails. -/
  | finish (i : ℕ) (ok : Bool)
  /-- `sessions::expire`. -/
  | revoke (i : ℕ)
  /-- `bump_failure_and_maybe_lock`, which has taken the time `now`. -/
  | record (i now : ℕ)
  /-- A step-up reads the account. -/
  | stepUp (i password : ℕ) (code : Code)
  /-- `reset_2fa`. -/
  | reset

/-! ### Steps -/

namespace System

variable (s : System) (i : ℕ)

/-- The request `i`, from now on in a phase, or over. -/
def put (phase : Option Phase) : System := { s with calls := Function.update s.calls i phase }

/-- What a request reads of the account. -/
def reading : Reading :=
  ⟨s.user, s.clock, s.history.evaluated, s.history.owed, s.history.lockEnd, s.history.signIns,
    s.history.resets⟩

/-- A factor is wrong. -/
def wrong : System :=
  { s.put i (some (.failing s.history.signIns s.clock)) with
    history := { s.history with
      evaluated := s.history.evaluated + 1
      guesses := s.history.guesses ++ [s.clock]
      owed := s.history.owed ++ [s.clock] } }

/-- A second factor is accepted for a session. -/
def accept (session : ℕ) (rd : Reading) (usedRecovery : Option ℕ) : System :=
  { s.put i (some (.promoting session rd usedRecovery)) with
    history := { s.history with factors := s.history.factors ++ [session] } }

/-- `consume_totp_step`, of a step that matched: whether it is later than the last one. -/
def freshStep (timeStep : ℕ) : Bool := s.user.lastTotpStep.all fun last => decide (last < timeStep)

/-- The step is consumed. -/
def takeStep (timeStep : ℕ) : System :=
  { s with
    user := { s.user with lastTotpStep := some timeStep }
    history := { s.history with steps := s.history.steps ++ [timeStep] } }

/-- A login is answered with a secret for an authenticator. -/
def enroll (given : Option ℕ) : System :=
  { s.put i none with
    history := { s.history with
      enrollments := s.history.enrollments ++ [⟨given, s.user.enrollmentCode⟩] } }

/-- The sessions, with one of them changed. -/
def changeSession (session : ℕ) (f : SessionRow → SessionRow) : System :=
  { s with sessions := s.sessions.map fun x => if x.id = session then f x else x }

/-- The row that a login makes. -/
def withSession (cfg : Config) (remember : Bool) : System :=
  { s with
    sessions := s.sessions ++
      [⟨s.sessions.length, false, cut second s.clock,
        cfg.rounding.store second (s.clock + cfg.ttlHours remember * 3600 * second),
        s.history.resets, i⟩] }

/-- A login whose factors were right makes its session, and what comes next. -/
def createSession (cfg : Config) (body : LoginBody) (rd : Reading) : System :=
  if rd.row.twoFactorConfirmedAt.isSome && rd.row.twoFactorSecret.isSome then
    (s.withSession i cfg body.remember).put i none
  else if rd.row.twoFactorSecret.isSome then
    (s.withSession i cfg body.remember).enroll i body.enrollmentCode
  else (s.withSession i cfg body.remember).put i (some (.enrolling body rd))

/-- The account of a first confirmation. -/
def confirm : System :=
  let codes := List.range' s.fresh recoveryCodeCount
  { s with
    user := { s.user with
      twoFactorConfirmedAt := some (cut second s.clock)
      enrollmentCode := none
      twoFactorRecoveryCodes := some codes
      failedLoginAttempts := 0
      lockedUntil := none }
    fresh := s.fresh + recoveryCodeCount
    history := { s.history with shown := s.history.shown ++ codes } }

/-- The account of any other sign-in. -/
def recordLogin : System :=
  { s with user := { s.user with failedLoginAttempts := 0, lockedUntil := none } }

/-- A sign-in is completed. -/
def complete (usedRecovery : Option ℕ) : System :=
  { s.put i none with
    history := { s.history with
      guesses := []
      owed := []
      signIns := s.history.signIns + 1
      recoveries := s.history.recoveries ++ usedRecovery.toList } }

/-- `reset_2fa`. -/
def resetFactor : System :=
  { s with
    user := { s.user with
      twoFactorSecret := none
      twoFactorRecoveryCodes := none
      twoFactorConfirmedAt := none
      enrollmentCode := some s.fresh
      lastTotpStep := none }
    sessions := s.sessions.map fun x => { x with expiresAt := cut second s.clock }
    fresh := s.fresh + 1
    history := { s.history with
      resets := s.history.resets + 1
      steps := []
      shown := [] } }

end System

/-- What an event does. -/
def step (cfg : Config) (s : System) : Event → System
  | .tick nanoseconds => { s with clock := s.clock + nanoseconds }
  | .drop i => s.put i none
  | .login i body =>
    match s.calls i with
    | none =>
      -- No two logins have one number.
      if i ∈ s.history.logins then s
      else
        { s.put i (some (.loginRead body s.reading)) with
          history := { s.history with logins := s.history.logins ++ [i] } }
    | some _ => s
  | .authenticate i now =>
    match s.calls i with
    | some (.loginRead body rd) =>
      if rd.readAt ≤ now ∧ now ≤ s.clock then
        if rd.row.locked now then s.put i none
        else if body.password ≠ rd.row.password then s.wrong i
        else if !enrollmentOk body rd.row then s.wrong i
        else
          { s.put i (some (.expiring body rd)) with
            history := { s.history with passwords := s.history.passwords ++ [i] } }
      else s
    | _ => s
  | .expireOld i =>
    match s.calls i with
    | some (.expiring body rd) =>
      { s.put i (some (.creating body rd s.sessions.length)) with
        sessions := s.sessions.map fun x =>
          if x.pending s.clock then { x with expiresAt := cut second s.clock } else x }
    | _ => s
  | .create i =>
    match s.calls i with
    | some (.creating body rd _) => s.createSession i cfg body rd
    | _ => s
  | .store i =>
    match s.calls i with
    | some (.enrolling body _) =>
      { s.enroll i body.enrollmentCode with
        user := { s.user with twoFactorSecret := some s.fresh }
        fresh := s.fresh + 1 }
    | _ => s
  | .challenge i session code =>
    match s.calls i with
    | none =>
      if s.sessions.any fun x => decide (x.id = session) && x.pending s.clock &&
          decide (cut second s.clock ≤ x.createdAt + cfg.pre2faTtlMinutes * 60 * second) then
        s.put i (some (.challenged session code))
      else s
    | some _ => s
  | .read i =>
    match s.calls i with
    | some (.challenged session code) => s.put i (some (.challengeRead session code s.reading))
    | _ => s
  | .consume i now =>
    match s.calls i with
    | some (.challengeRead session code rd) =>
      if rd.readAt ≤ now ∧ now ≤ s.clock then
        if rd.row.locked now then s.put i none
        else
          match rd.row.twoFactorSecret.bind fun secret => matchedStep secret code now with
          | some timeStep =>
            -- A step that was accepted before is answered like a wrong code.
            if s.freshStep timeStep then (s.takeStep timeStep).accept i session rd none
            else s.put i (some (.recovering session code rd))
          | none => s.put i (some (.recovering session code rd))
      else s
    | some (.steppingUp secret code readAt) =>
      if readAt ≤ now ∧ now ≤ s.clock then
        match matchedStep secret code now with
        | some timeStep =>
          if s.freshStep timeStep then (s.takeStep timeStep).put i none else s.put i none
        | none => s.put i none
      else s
    | _ => s
  | .recover i =>
    match s.calls i with
    | some (.recovering session code rd) =>
      match code with
      | .recovery n =>
        if n ∈ s.user.twoFactorRecoveryCodes.getD [] then
          let spent : System := { s with
            user := { s.user with
              twoFactorRecoveryCodes := s.user.twoFactorRecoveryCodes.map fun codes =>
                codes.erase n }
            history := { s.history with shown := s.history.shown.filter fun c => c ≠ n } }
          spent.accept i session rd (some n)
        else s.wrong i
      | _ => s.wrong i
    | _ => s
  | .promote i =>
    match s.calls i with
    | some (.promoting session rd usedRecovery) =>
      (s.changeSession session fun x => { x with totpVerified := true }).put i
        (some (.finishing session rd usedRecovery))
    | _ => s
  | .finish i ok =>
    match s.calls i with
    | some (.finishing session rd usedRecovery) =>
      if ok then
        if rd.row.twoFactorConfirmedAt.isNone then s.confirm.complete i usedRecovery
        else s.recordLogin.complete i usedRecovery
      else s.put i (some (.revoking session))
    | _ => s
  | .revoke i =>
    match s.calls i with
    | some (.revoking session) =>
      (s.changeSession session fun x => { x with expiresAt := cut second s.clock }).put i none
    | _ => s
  | .record i now =>
    match s.calls i with
    | some (.failing signIns evaluatedAt) =>
      -- The time is taken with the row locked, behind the failures that were recorded before.
      if evaluatedAt ≤ now ∧ s.history.recordedAt ≤ now ∧ now ≤ s.clock then
        { s.put i none with
          user := s.user.bump cfg now
          history := { s.history with
            owed :=
              if signIns = s.history.signIns then s.history.owed.erase evaluatedAt
              else s.history.owed
            recordedAt := s.clock
            lockEnd := now + cfg.lockTime } }
      else s
    | _ => s
  | .stepUp i password code =>
    match s.calls i with
    | none =>
      match s.user.twoFactorSecret with
      | some secret =>
        if password = s.user.password then s.put i (some (.steppingUp secret code s.clock)) else s
      | none => s
    | some _ => s
  | .reset => s.resetFactor

/-- An account before anything has happened. -/
def start (clock fresh : ℕ) (user : UserRow) : System :=
  ⟨clock, user, [], fun _ => none, fresh, ⟨0, [], [], clock, 0, 0, 0, [], [], [], [], [], [], []⟩⟩

end Rerouter.SignIn
