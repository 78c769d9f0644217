import Rerouter.Lib.Spacing
import Rerouter.SignIn

/-!
# How often a factor may be guessed

Failures are counted in the row of the account, and from the threshold on each of them locks it. So
one is evaluated only when a lock has run out that was set behind all that came before it, and
failures are `Rerouter.Spacing.Spaced`. A login expires the pending sessions before it makes its
own.

Both say this of requests that come one after another. A request compares with the lock that it
read, which is none while the failures that lock the account are evaluated and not recorded; the
lock is stored in whole seconds, and may have run out before its time; and two logins may both have
expired the sessions before either makes one. **In a run in which none of this happens guessing is
bounded** (`Rerouter.SignIn.bounded_of_timely`). Nothing keeps it from happening
(`Rerouter.SignIn.twoGuesses_not_bounded`, `Rerouter.SignIn.shortLock_not_bounded`).
-/

namespace Rerouter.SignIn

open Spacing Whole

/-- Number of wrong factors a window may have. -/
def Config.attempts (cfg : Config) : ℕ := max cfg.lockoutThreshold 1

theorem Config.attempts_pos (cfg : Config) : 0 < cfg.attempts := by
  rw [Config.attempts]
  omega

/-- **Guessing is bounded**: since the last sign-in, no window as long as a lock has more wrong
factors than lock the account; and no more than one session is pending. -/
structure Bounded (cfg : Config) (s : System) : Prop where
  guesses : ∀ a, s.history.guesses.countP (Spacing.inWindow cfg.lockTime a) ≤ cfg.attempts
  sessions : (s.sessions.filter (SessionRow.pending s.clock)).length ≤ 1

/-! ### What a step has to respect -/

/-- What was read of the lock is still good: every wrong factor was recorded when it was read, and
none was evaluated since. -/
def Reading.fresh (rd : Reading) (history : History) : Bool :=
  decide (rd.owed = []) && decide (rd.evaluated = history.evaluated)

/-- The lock that was read, if there was one, has run out as of when it was to, and not only as it
was stored. -/
def Reading.passed (rd : Reading) (clock : ℕ) : Bool :=
  rd.row.lockedUntil.isNone || decide (rd.lockEnd ≤ clock)

/-- A wrong factor may be evaluated. -/
def mayGuess (cfg : Config) (rd : Reading) (clock : ℕ) (history : History) : Bool :=
  decide (history.guesses.length < cfg.attempts) || (rd.fresh history && rd.passed clock)

/-- Whether a login finds its factors to be right. -/
def rightFactors (body : LoginBody) (row : UserRow) : Bool :=
  decide (body.password = row.password) && enrollmentOk body row

/-- Whether a code is one of the recovery codes. -/
def Code.recoversBy (code : Code) (codes : List ℕ) : Bool :=
  match code with
  | .recovery n => decide (n ∈ codes)
  | _ => false

/-- **A timely step** evaluates a wrong factor only if less than it takes to lock the account came
before it, or what was read of the lock is still good and the lock has run out; and makes a session
only if no other was made since those before it were expired. -/
def timely (cfg : Config) (s : System) : Event → Bool
  | .authenticate i now =>
    match s.calls i with
    | some (.loginRead body rd) =>
      rd.row.locked now || rightFactors body rd.row || mayGuess cfg rd s.clock s.history
    | _ => true
  | .recover i =>
    match s.calls i with
    | some (.recovering _ code rd) =>
      code.recoversBy (s.user.twoFactorRecoveryCodes.getD []) || mayGuess cfg rd s.clock s.history
    | _ => true
  | .create i =>
    match s.calls i with
    | some (.creating _ _ made) => decide (made = s.sessions.length)
    | _ => true
  | _ => true

/-! ### Failures and locks -/

variable {cfg : Config} {s s' : System} {i : ℕ} {rd : Reading} {lock : Option ℕ}
  {l owed : List ℕ} {now clock failed recordedAt lockEnd : ℕ}

/-- A lock, if it takes one, that was to run out behind every failure. -/
def Covers (cfg : Config) (lock : Option ℕ) (lockEnd : ℕ) (guesses : List ℕ) : Prop :=
  cfg.attempts ≤ guesses.length → lock.isSome = true ∧ ∀ t ∈ guesses, t + cfg.lockTime ≤ lockEnd

theorem covers_nil : Covers cfg lock lockEnd [] :=
  fun h => absurd h (by have := cfg.attempts_pos; simp; omega)

/-- Failures of which every one is recorded, or owed. -/
structure Tally (cfg : Config) (clock failed : ℕ) (lock : Option ℕ) (guesses owed : List ℕ)
    (recordedAt lockEnd : ℕ) : Prop where
  past : ∀ t ∈ guesses, t ≤ clock
  spaced : Spaced cfg.attempts cfg.lockTime guesses
  recorded : ∀ t ∈ guesses, t ≤ recordedAt ∨ t ∈ owed
  counted : min guesses.length cfg.lockoutThreshold ≤ failed + owed.length
  covers : owed = [] → Covers cfg lock lockEnd guesses

/-- What was read covers the failures, if it is still good. -/
structure Reading.Kept (cfg : Config) (history : History) (rd : Reading) : Prop where
  evaluated_le : rd.evaluated ≤ history.evaluated
  covers : rd.fresh history = true → Covers cfg rd.row.lockedUntil rd.lockEnd history.guesses

/-- What a request keeps of what it read. -/
def Phase.Kept (cfg : Config) (history : History) : Phase → Prop
  | .loginRead _ rd | .challengeRead _ _ rd | .recovering _ _ rd => rd.Kept cfg history
  | _ => True

/-- **The invariant of the failures.** -/
structure Guarded (cfg : Config) (s : System) : Prop where
  tally : Tally cfg s.clock s.user.failedLoginAttempts s.user.lockedUntil s.history.guesses
    s.history.owed s.history.recordedAt s.history.lockEnd
  calls : ∀ i, ∀ phase ∈ s.calls i, phase.Kept cfg s.history

/-- The history goes on, with a reading that is kept. -/
theorem Reading.Kept.later {history history' : History} (hrd : rd.Kept cfg history)
    (hevaluated : history.evaluated ≤ history'.evaluated)
    (hguesses : history'.evaluated = history.evaluated → history'.guesses = history.guesses ∨
      history'.guesses = []) :
    rd.Kept cfg history' where
  evaluated_le := hrd.evaluated_le.trans hevaluated
  covers := by
    intro hfresh
    have hle := hrd.evaluated_le
    simp only [Reading.fresh, Bool.and_eq_true, decide_eq_true_eq] at hfresh
    have hsame : history'.evaluated = history.evaluated := by omega
    rcases hguesses hsame with heq | heq
    · rw [heq]
      exact hrd.covers (by simp [Reading.fresh, hfresh.1, hfresh.2, hsame])
    · rw [heq]
      exact covers_nil

theorem Phase.Kept.later {history history' : History} {phase : Phase}
    (hphase : phase.Kept cfg history) (hevaluated : history.evaluated ≤ history'.evaluated)
    (hguesses : history'.evaluated = history.evaluated → history'.guesses = history.guesses ∨
      history'.guesses = []) :
    phase.Kept cfg history' := by
  cases phase with
  | loginRead body rd => exact Reading.Kept.later hphase hevaluated hguesses
  | challengeRead session code rd => exact Reading.Kept.later hphase hevaluated hguesses
  | recovering session code rd => exact Reading.Kept.later hphase hevaluated hguesses
  | _ => trivial

/-- A failure is evaluated in time. -/
theorem Tally.snoc (ht : Tally cfg clock failed lock l owed recordedAt lockEnd)
    (hapart : cfg.attempts ≤ l.length → ∀ t ∈ l, t + cfg.lockTime ≤ clock) :
    Tally cfg clock failed lock (l ++ [clock]) (owed ++ [clock]) recordedAt lockEnd where
  past := by
    intro t hmem
    rcases List.mem_append.mp hmem with hmem | hmem
    · exact ht.past t hmem
    · exact (List.mem_singleton.mp hmem).le
  spaced := ht.spaced.snoc hapart
  recorded := by
    intro t hmem
    rcases List.mem_append.mp hmem with hmem | hmem
    · exact (ht.recorded t hmem).imp_right (List.mem_append_left _)
    · exact .inr (List.mem_append_right _ hmem)
  counted := by
    have hcounted := ht.counted
    rw [List.length_append, List.length_append, List.length_singleton]
    omega
  covers := fun h => absurd h (List.append_ne_nil_of_right_ne_nil _ (List.cons_ne_nil _ _))

/-- **A failure is recorded**: if it was the last one owed, the account is locked behind all of
them. -/
theorem Tally.bump {evaluatedAt : ℕ} {row : UserRow} {owed' : List ℕ}
    (howed : owed' = owed ∨ owed' = owed.erase evaluatedAt)
    (ht : Tally cfg clock row.failedLoginAttempts row.lockedUntil l owed recordedAt lockEnd)
    (hevaluated : evaluatedAt ≤ now) (hrecorded : recordedAt ≤ now) :
    Tally cfg clock (row.bump cfg now).failedLoginAttempts (row.bump cfg now).lockedUntil
      l owed' clock (now + cfg.lockTime) := by
  have hlength : owed.length ≤ owed'.length + 1 := by
    rcases howed with rfl | rfl
    · exact Nat.le_succ _
    · rw [List.length_erase]
      split_ifs <;> omega
  have hcounted := ht.counted
  have hthreshold := cfg.threshold_le
  refine ⟨ht.past, ht.spaced, fun t hmem => .inl (ht.past t hmem), ?_, fun hnone hlen => ⟨?_, ?_⟩⟩
  · simp only [UserRow.bump]
    omega
  · rw [hnone, List.length_nil] at hlength
    rw [Config.attempts] at hlen
    have hreached : cfg.lockoutThreshold ≤ row.failedLoginAttempts + 1 := by omega
    simp only [UserRow.bump]
    rw [if_pos (Nat.le_min.mpr ⟨hreached, hthreshold⟩), Option.isSome_some]
  · -- What was recorded before is behind this record's time, and so is what it records.
    intro t hmem
    refine Nat.add_le_add_right ?_ _
    rcases ht.recorded t hmem with hle | howes
    · exact hle.trans hrecorded
    · rcases howed with rfl | rfl
      · rw [hnone] at howes
        cases howes
      · by_contra hlt
        have hstays := (List.mem_erase_of_ne (by omega : t ≠ evaluatedAt)).mpr howes
        rw [hnone] at hstays
        cases hstays

/-- A sign-in forgets the failures before it. -/
theorem tally_nil (cfg : Config) (clock failed : ℕ) (lock : Option ℕ) (recordedAt lockEnd : ℕ) :
    Tally cfg clock failed lock [] [] recordedAt lockEnd where
  past := fun _ h => absurd h List.not_mem_nil
  spaced := .nil
  recorded := fun _ h => absurd h List.not_mem_nil
  counted := by simp
  covers := fun _ => covers_nil

/-- **A wrong factor is evaluated in time**, if it may be. -/
theorem Tally.guess {history : History}
    (ht : Tally cfg clock failed lock history.guesses history.owed recordedAt lockEnd)
    (hrd : rd.Kept cfg history) (hmay : mayGuess cfg rd clock history = true) :
    Tally cfg clock failed lock (history.guesses ++ [clock]) (history.owed ++ [clock]) recordedAt
      lockEnd := by
  refine ht.snoc fun hlen t hmem => ?_
  rw [mayGuess, Bool.or_eq_true, decide_eq_true_eq, Bool.and_eq_true] at hmay
  obtain ⟨hfresh, hpassed⟩ := hmay.resolve_left (by omega)
  obtain ⟨hlocked, hall⟩ := hrd.covers hfresh hlen
  rw [Reading.passed, Bool.or_eq_true, decide_eq_true_eq, ← Option.not_isSome, hlocked] at hpassed
  exact (hall t hmem).trans (hpassed.resolve_left (by simp))

/-! ### What the steps do to failures -/

/-- Two systems that agree on failures, and on requests. -/
structure Alike (s s' : System) : Prop where
  clock : s'.clock = s.clock
  failed : s'.user.failedLoginAttempts = s.user.failedLoginAttempts
  lock : s'.user.lockedUntil = s.user.lockedUntil
  evaluated : s'.history.evaluated = s.history.evaluated
  guesses : s'.history.guesses = s.history.guesses
  owed : s'.history.owed = s.history.owed
  recordedAt : s'.history.recordedAt = s.history.recordedAt
  lockEnd : s'.history.lockEnd = s.history.lockEnd
  calls : s'.calls = s.calls

theorem Guarded.alike (hs : Guarded cfg s) (h : Alike s s') : Guarded cfg s' where
  tally := by
    rw [h.clock, h.failed, h.lock, h.guesses, h.owed, h.recordedAt, h.lockEnd]
    exact hs.tally
  calls := by
    intro i phase hphase
    rw [h.calls] at hphase
    exact (hs.calls i phase hphase).later h.evaluated.ge fun _ => .inl h.guesses

theorem Guarded.of_put (hs : Guarded cfg s) {moved : Option Phase}
    (hmoved : ∀ phase ∈ moved, phase.Kept cfg s.history) (j : ℕ) :
    ∀ phase ∈ (s.put i moved).calls j, phase.Kept cfg s.history := by
  intro phase hphase
  rw [System.put] at hphase
  dsimp only at hphase
  rw [Function.update_apply] at hphase
  split_ifs at hphase
  · exact hmoved phase hphase
  · exact hs.calls j phase hphase

theorem Guarded.put (hs : Guarded cfg s) {moved : Option Phase}
    (hmoved : ∀ phase ∈ moved, phase.Kept cfg s.history) : Guarded cfg (s.put i moved) :=
  ⟨hs.tally, hs.of_put hmoved⟩

/-- A request goes on. -/
theorem Guarded.move (hs : Guarded cfg s) (i : ℕ) (phase : Phase)
    (hphase : phase.Kept cfg s.history) :
    Guarded cfg (s.put i (some phase)) :=
  hs.put fun _ hmem => Option.mem_some_iff.mp hmem ▸ hphase

/-- A request ends. -/
theorem Guarded.stop (hs : Guarded cfg s) : Guarded cfg (s.put i none) :=
  hs.put fun _ h => absurd h (Option.not_mem_none _)

theorem Guarded.tick (hs : Guarded cfg s) (nanoseconds : ℕ) :
    Guarded cfg { s with clock := s.clock + nanoseconds } where
  tally := ⟨fun t hmem => (hs.tally.past t hmem).trans (Nat.le_add_right _ _), hs.tally.spaced,
    hs.tally.recorded, hs.tally.counted, hs.tally.covers⟩
  calls := hs.calls

/-- What is read is so. -/
theorem Guarded.reading (hs : Guarded cfg s) : s.reading.Kept cfg s.history where
  evaluated_le := le_refl _
  covers := by
    intro hfresh
    rw [Reading.fresh, Bool.and_eq_true, decide_eq_true_eq] at hfresh
    exact hs.tally.covers hfresh.1

/-- A wrong factor is evaluated. -/
theorem Guarded.wrong (hs : Guarded cfg s) (hrd : rd.Kept cfg s.history)
    (hmay : mayGuess cfg rd s.clock s.history = true) : Guarded cfg (s.wrong i) where
  tally := hs.tally.guess hrd hmay
  calls := by
    intro j phase hphase
    have hmoved := (hs.move i (.failing s.history.signIns s.clock) trivial).calls j phase hphase
    exact hmoved.later (Nat.le_succ _) fun h => absurd h (Nat.succ_ne_self _)

/-- A sign-in is completed, and the account written. -/
theorem Guarded.complete (hs : Guarded cfg s) (written : System)
    (hevaluated : written.history.evaluated = s.history.evaluated)
    (hcalls : written.calls = s.calls)
    (usedRecovery : Option ℕ) : Guarded cfg (written.complete i usedRecovery) where
  tally := tally_nil cfg _ _ _ _ _
  calls := by
    intro j phase hphase
    rw [System.complete, System.put] at hphase
    dsimp only at hphase
    rw [hcalls] at hphase
    exact (hs.stop.calls j phase hphase).later hevaluated.ge fun _ => .inr rfl

/-- A failure is recorded. -/
theorem Guarded.record (hs : Guarded cfg s) {evaluatedAt : ℕ}
    (howed : owed = s.history.owed ∨ owed = s.history.owed.erase evaluatedAt)
    (hevaluated : evaluatedAt ≤ now) (hrecorded : s.history.recordedAt ≤ now) :
    Guarded cfg { s.put i none with
      user := s.user.bump cfg now
      history := { s.history with
        owed
        recordedAt := s.clock
        lockEnd := now + cfg.lockTime } } where
  tally := hs.tally.bump howed hevaluated hrecorded
  calls := fun j phase hphase =>
    (hs.stop.calls j phase hphase).later (le_refl _) fun _ => .inl rfl

/-- A session is made. -/
theorem Guarded.createSession (hs : Guarded cfg s) (body : LoginBody) (rd : Reading) :
    Guarded cfg (s.createSession i cfg body rd) := by
  rw [System.createSession]
  split_ifs
  · exact (hs.stop (i := i)).alike ⟨rfl, rfl, rfl, rfl, rfl, rfl, rfl, rfl, rfl⟩
  · exact (hs.stop (i := i)).alike ⟨rfl, rfl, rfl, rfl, rfl, rfl, rfl, rfl, rfl⟩
  · exact (hs.move i (.enrolling body rd) trivial).alike
      ⟨rfl, rfl, rfl, rfl, rfl, rfl, rfl, rfl, rfl⟩

/-- **What one step keeps of the failures.** -/
theorem guarded_step (s : System) (e : Event) (hs : Guarded cfg s)
    (htimely : timely cfg s e = true) :
    Guarded cfg (step cfg s e) := by
  cases e with
  | tick nanoseconds => exact hs.tick nanoseconds
  | drop i => exact hs.stop
  | login i body =>
    rw [step]
    split
    · split_ifs
      · exact hs
      · exact (hs.move i (.loginRead body s.reading) hs.reading).alike ⟨rfl, rfl, rfl, rfl,
          rfl, rfl, rfl, rfl, rfl⟩
    · exact hs
  -- a wrong attempt was read no earlier than the failures it is counted with
  | authenticate i now =>
    rw [step]
    rw [timely] at htimely
    cases hcall : s.calls i with
    | none => exact hs
    | some phase =>
      have hphase := hs.calls i phase hcall
      cases phase with
      | loginRead body rd =>
        rw [hcall] at htimely
        dsimp only at htimely ⊢
        split_ifs with htime hlocked hpassword hcode
        · exact hs.stop
        · exact hs.wrong hphase (by simpa [hlocked, rightFactors, hpassword] using htimely)
        · rw [Bool.not_eq_true'] at hcode
          exact hs.wrong hphase (by simpa [hlocked, rightFactors, hcode] using htimely)
        · exact (hs.move i (.expiring body rd) trivial).alike
            ⟨rfl, rfl, rfl, rfl, rfl, rfl, rfl, rfl, rfl⟩
        · exact hs
      | _ => exact hs
  | expireOld i =>
    rw [step]
    split
    next body rd hcall =>
      exact (hs.move i (.creating body rd s.sessions.length) trivial).alike
        ⟨rfl, rfl, rfl, rfl, rfl, rfl, rfl, rfl, rfl⟩
    next => exact hs
  | create i =>
    rw [step]
    split
    next body rd made hcall => exact hs.createSession body rd
    next => exact hs
  | store i =>
    rw [step]
    split
    next body rd hcall =>
      exact (hs.stop (i := i)).alike ⟨rfl, rfl, rfl, rfl, rfl, rfl, rfl, rfl, rfl⟩
    next => exact hs
  | challenge i session code =>
    rw [step]
    split
    · split_ifs
      · exact hs.move i _ trivial
      · exact hs
    · exact hs
  | read i =>
    rw [step]
    split
    · exact hs.move i _ hs.reading
    · exact hs
  | consume i now =>
    rw [step]
    cases hcall : s.calls i with
    | none => exact hs
    | some phase =>
      have hphase := hs.calls i phase hcall
      cases phase with
      | challengeRead session code rd =>
        dsimp only
        split_ifs
        · exact hs.stop
        · have hrecovering : Guarded cfg (s.put i (some (.recovering session code rd))) :=
            hs.move i _ hphase
          split
          · split_ifs
            · exact (hs.move i (.promoting session rd none) trivial).alike
                ⟨rfl, rfl, rfl, rfl, rfl, rfl, rfl, rfl, rfl⟩
            · exact hrecovering
          · exact hrecovering
        · exact hs
      | steppingUp secret code readAt =>
        dsimp only
        split_ifs
        · split
          · split_ifs
            · exact (hs.stop (i := i)).alike ⟨rfl, rfl, rfl, rfl, rfl, rfl, rfl, rfl, rfl⟩
            · exact hs.stop
          · exact hs.stop
        · exact hs
      | _ => exact hs
  | recover i =>
    rw [step]
    rw [timely] at htimely
    cases hcall : s.calls i with
    | none => exact hs
    | some phase =>
      have hphase := hs.calls i phase hcall
      cases phase with
      | recovering session code rd =>
        rw [hcall] at htimely
        dsimp only at htimely ⊢
        have hwrong (hcode : code.recoversBy (s.user.twoFactorRecoveryCodes.getD []) = false) :
            Guarded cfg (s.wrong i) :=
          hs.wrong hphase (by simpa [hcode] using htimely)
        cases code with
        | recovery n =>
          dsimp only
          split_ifs with hmem
          · exact (hs.move i (.promoting session rd (some n)) trivial).alike
              ⟨rfl, rfl, rfl, rfl, rfl, rfl, rfl, rfl, rfl⟩
          · exact hwrong (decide_eq_false hmem)
        | totp secret timeStep => exact hwrong rfl
        | other => exact hwrong rfl
      | _ => exact hs
  | promote i =>
    rw [step]
    split
    next session rd usedRecovery hcall =>
      exact (hs.move i (.finishing session rd usedRecovery) trivial).alike
        ⟨rfl, rfl, rfl, rfl, rfl, rfl, rfl, rfl, rfl⟩
    next => exact hs
  | finish i ok =>
    rw [step]
    split
    · split_ifs
      · exact hs.complete s.confirm rfl rfl _
      · exact hs.complete s.recordLogin rfl rfl _
      · exact hs.move i _ trivial
    · exact hs
  | revoke i =>
    rw [step]
    split
    next session hcall =>
      exact (hs.stop (i := i)).alike ⟨rfl, rfl, rfl, rfl, rfl, rfl, rfl, rfl, rfl⟩
    next => exact hs
  -- a failure is written by the clock it was evaluated at
  | record i now =>
    rw [step]
    split
    · split_ifs with htime
      · exact hs.record (.inr rfl) htime.1 htime.2.1
      · exact hs.record (.inl rfl) htime.1 htime.2.1
      · exact hs
    · exact hs
  | stepUp i password code =>
    rw [step]
    split
    · split
      · split_ifs
        · exact hs.move i _ trivial
        · exact hs
      · exact hs
    · exact hs
  | reset => exact hs.alike ⟨rfl, rfl, rfl, rfl, rfl, rfl, rfl, rfl, rfl⟩

/-! ### Pending sessions -/

/-- Where a login has expired the sessions and no other was made since, none is pending. -/
def Phase.Cleared (clock : ℕ) (sessions : List SessionRow) : Phase → Prop
  | .creating _ _ made =>
    made ≤ sessions.length ∧ (made = sessions.length → ∀ x ∈ sessions, x.pending clock = false)
  | _ => True

/-- **The invariant of the sessions.** -/
structure Single (s : System) : Prop where
  pending : s.sessions.countP (SessionRow.pending s.clock) ≤ 1
  calls : ∀ i, ∀ phase ∈ s.calls i, phase.Cleared s.clock s.sessions

theorem SessionRow.pending_mono {x : SessionRow} {now' : ℕ} (hle : now ≤ now')
    (h : x.pending now' = true) :
    x.pending now = true := by
  simp only [SessionRow.pending, Bool.and_eq_true, decide_eq_true_eq] at h ⊢
  exact ⟨h.1, (cut_mono hle).trans_lt h.2⟩

/-- Sessions change, and none becomes pending. -/
theorem Phase.Cleared.lessen {phase : Phase} {clock clock' : ℕ} {sessions : List SessionRow}
    (hphase : phase.Cleared clock sessions) {f : SessionRow → SessionRow}
    (hf : ∀ x, (f x).pending clock' = true → x.pending clock = true) :
    phase.Cleared clock' (sessions.map f) := by
  cases phase with
  | creating body rd made =>
    obtain ⟨hle, hnone⟩ := hphase
    refine ⟨by rwa [List.length_map], fun hmade x hx => ?_⟩
    rw [List.length_map] at hmade
    obtain ⟨y, hy, rfl⟩ := List.mem_map.mp hx
    by_contra hpending
    have hy' := hnone hmade y hy
    rw [hf y (eq_true_of_ne_false hpending)] at hy'
    cases hy'
  | _ => trivial

theorem Single.lessen (hs : Single s) {f : SessionRow → SessionRow}
    (hsessions : s'.sessions = s.sessions.map f)
    (hf : ∀ x, (f x).pending s'.clock = true → x.pending s.clock = true)
    (hcalls : s'.calls = s.calls) : Single s' where
  pending := by
    rw [hsessions, List.countP_map]
    exact (List.countP_mono_left fun x _ => hf x).trans hs.pending
  calls := by
    intro i phase hphase
    rw [hcalls] at hphase
    rw [hsessions]
    exact (hs.calls i phase hphase).lessen hf

/-- The sessions stay as they are. -/
theorem Single.same (hs : Single s) (hclock : s'.clock = s.clock)
    (hsessions : s'.sessions = s.sessions) (hcalls : s'.calls = s.calls) : Single s' :=
  hs.lessen (f := id) (by rw [hsessions, List.map_id]) (fun _ h => hclock ▸ h) hcalls

theorem Single.put (hs : Single s) {moved : Option Phase}
    (hmoved : ∀ phase ∈ moved, phase.Cleared s.clock s.sessions) :
    Single (s.put i moved) where
  pending := hs.pending
  calls := by
    intro j phase hphase
    rw [System.put] at hphase
    dsimp only at hphase
    rw [Function.update_apply] at hphase
    split_ifs at hphase
    · exact hmoved phase hphase
    · exact hs.calls j phase hphase

theorem Single.move (hs : Single s) (i : ℕ) (phase : Phase)
    (hphase : phase.Cleared s.clock s.sessions) :
    Single (s.put i (some phase)) :=
  hs.put fun _ hmem => Option.mem_some_iff.mp hmem ▸ hphase

theorem Single.stop (hs : Single s) : Single (s.put i none) :=
  hs.put fun _ h => absurd h (Option.not_mem_none _)

theorem Single.wrong (hs : Single s) : Single (s.wrong i) :=
  (hs.move i (.failing s.history.signIns s.clock) trivial).same rfl rfl rfl

theorem Single.accept (hs : Single s) (session : ℕ) (rd : Reading) (usedRecovery : Option ℕ) :
    Single (s.accept i session rd usedRecovery) :=
  (hs.move i (.promoting session rd usedRecovery) trivial).same rfl rfl rfl

theorem Single.takeStep (hs : Single s) (timeStep : ℕ) : Single (s.takeStep timeStep) :=
  hs.same rfl rfl rfl

/-- One session changes, and does not become pending. -/
theorem Single.changeSession (hs : Single s) (session : ℕ) {f : SessionRow → SessionRow}
    (hf : ∀ x, (f x).pending s.clock = true → x.pending s.clock = true) :
    Single (s.changeSession session f) := by
  refine hs.lessen (f := fun x => if x.id = session then f x else x) rfl (fun x hx => ?_) rfl
  split_ifs at hx
  · exact hf x hx
  · exact hx

/-- A session that has just expired. -/
theorem pending_expired (clock : ℕ) (x : SessionRow) :
    SessionRow.pending clock { x with expiresAt := cut second clock } = false := by
  simp [SessionRow.pending]

/-- A session is made where none is pending. -/
theorem Single.withSession (hs : Single s) (hnone : ∀ x ∈ s.sessions, x.pending s.clock = false)
    (i : ℕ) (cfg : Config) (remember : Bool) : Single (s.withSession i cfg remember) where
  pending := by
    have hzero : s.sessions.countP (SessionRow.pending s.clock) = 0 := by
      rw [List.countP_eq_zero]
      exact fun x hx => by simp [hnone x hx]
    rw [System.withSession, List.countP_append, List.countP_singleton, hzero]
    split_ifs <;> omega
  calls := by
    intro j phase hphase
    have hbefore := hs.calls j phase hphase
    cases phase with
    | creating body rd made =>
      -- Another login that expired the sessions did so before this one.
      obtain ⟨hle, -⟩ := hbefore
      have hlen : (s.withSession i cfg remember).sessions.length = s.sessions.length + 1 := by
        rw [System.withSession, List.length_append, List.length_singleton]
      refine ⟨by omega, fun h => absurd h (by omega)⟩
    | _ => trivial

/-- **What one step keeps of the sessions.** -/
theorem single_step (s : System) (e : Event) (hs : Single s) (htimely : timely cfg s e = true) :
    Single (step cfg s e) := by
  cases e with
  | tick nanoseconds =>
    exact hs.lessen (f := id) (List.map_id _).symm
      (fun _ h => SessionRow.pending_mono (Nat.le_add_right _ _) h) rfl
  | drop i => exact hs.stop
  | login i body =>
    rw [step]
    split
    · split_ifs
      · exact hs
      · exact (hs.move i (.loginRead body s.reading) trivial).same rfl rfl rfl
    · exact hs
  | authenticate i now =>
    rw [step]
    split
    next body rd hcall =>
      split_ifs
      · exact hs.stop
      · exact hs.wrong
      · exact hs.wrong
      · exact (hs.move i (.expiring body rd) trivial).same rfl rfl rfl
      · exact hs
    next => exact hs
  | expireOld i =>
    rw [step]
    split
    next body rd hcall =>
      -- ending the pending sessions leaves none, so the next one is the only one
      have hexpire (x : SessionRow) :
          SessionRow.pending s.clock
            (if x.pending s.clock then { x with expiresAt := cut second s.clock } else x) =
            false := by
        split_ifs with hpending
        · exact pending_expired s.clock x
        · exact eq_false_of_ne_true hpending
      have hexpired : Single { s with
          sessions := s.sessions.map fun x =>
            if x.pending s.clock then { x with expiresAt := cut second s.clock } else x } :=
        hs.lessen rfl (fun x hx => absurd hx (ne_true_of_eq_false (hexpire x))) rfl
      refine (hexpired.move i (.creating body rd s.sessions.length) ⟨?_, ?_⟩).same rfl rfl rfl
      · exact (List.length_map _).ge
      · rintro - x hx
        obtain ⟨y, hy, rfl⟩ := List.mem_map.mp hx
        exact hexpire y
    next => exact hs
  -- a timely creation comes before any other session was made
  | create i =>
    rw [step]
    rw [timely] at htimely
    cases hcall : s.calls i with
    | none => exact hs
    | some phase =>
      have hphase := hs.calls i phase hcall
      cases phase with
      | creating body rd made =>
        rw [hcall] at htimely
        have hmade := hs.withSession (hphase.2 (of_decide_eq_true htimely)) i cfg body.remember
        dsimp only
        rw [System.createSession]
        split_ifs
        · exact hmade.stop
        · exact (hmade.stop (i := i)).same rfl rfl rfl
        · exact hmade.move i _ trivial
      | _ => exact hs
  | store i =>
    rw [step]
    split
    next body rd hcall => exact (hs.stop (i := i)).same rfl rfl rfl
    next => exact hs
  | challenge i session code =>
    rw [step]
    split
    · split_ifs
      · exact hs.move i _ trivial
      · exact hs
    · exact hs
  | read i =>
    rw [step]
    split
    · exact hs.move i _ trivial
    · exact hs
  | consume i now =>
    rw [step]
    split
    next session code rd hcall =>
      have hrecovering : Single (s.put i (some (.recovering session code rd))) :=
        hs.move i _ trivial
      split_ifs
      · exact hs.stop
      · split
        · split_ifs
          · exact (hs.takeStep _).accept session rd none
          · exact hrecovering
        · exact hrecovering
      · exact hs
    next secret code readAt hcall =>
      split_ifs
      · split
        · split_ifs
          · exact (hs.takeStep _).stop
          · exact hs.stop
        · exact hs.stop
      · exact hs
    next => exact hs
  | recover i =>
    rw [step]
    split
    next session code rd hcall =>
      split
      next n =>
        split_ifs
        · exact (hs.accept (i := i) session rd (some n)).same rfl rfl rfl
        · exact hs.wrong
      next => exact hs.wrong
    next => exact hs
  -- a session that passed its second factor is pending no more
  | promote i =>
    rw [step]
    split
    · exact (hs.changeSession _ fun x hx => by simp [SessionRow.pending] at hx).move i _ trivial
    · exact hs
  | finish i ok =>
    rw [step]
    split
    · split_ifs
      · exact (hs.stop (i := i)).same rfl rfl rfl
      · exact (hs.stop (i := i)).same rfl rfl rfl
      · exact hs.move i _ trivial
    · exact hs
  | revoke i =>
    rw [step]
    split
    · exact (hs.changeSession _ fun x hx =>
        absurd hx (ne_true_of_eq_false (pending_expired s.clock x))).stop
    · exact hs
  | record i now =>
    rw [step]
    split
    · split_ifs
      · exact (hs.stop (i := i)).same rfl rfl rfl
      · exact (hs.stop (i := i)).same rfl rfl rfl
      · exact hs
    · exact hs
  | stepUp i password code =>
    rw [step]
    split
    · split
      · split_ifs
        · exact hs.move i _ trivial
        · exact hs
      · exact hs
    · exact hs
  | reset =>
    exact hs.lessen rfl (fun x hx => absurd hx (ne_true_of_eq_false (pending_expired s.clock x)))
      rfl

/-! ### Runs -/

/-- **In a timely run guessing is bounded**, whatever requests there are, however they take turns,
and whichever of them are given up. -/
theorem bounded_of_timely (cfg : Config) (clock fresh : ℕ) (user : UserRow) (es : List Event)
    (h : Run.Meets (step cfg) (fun s e => timely cfg s e = true) (start clock fresh user) es) :
    Bounded cfg (Run.run (step cfg) (start clock fresh user) es) := by
  have hguarded : Guarded cfg (Run.run (step cfg) (start clock fresh user) es) :=
    Run.invariant_of_meets guarded_step ⟨tally_nil cfg _ _ _ _ _,
        fun _ _ h => absurd h (Option.not_mem_none _)⟩ h
  have hsingle : Single (Run.run (step cfg) (start clock fresh user) es) :=
    Run.invariant_of_meets single_step ⟨Nat.zero_le 1,
        fun _ _ h => absurd h (Option.not_mem_none _)⟩ h
  constructor
  · exact hguarded.tally.spaced.countP_le cfg.attempts_pos
  · rw [← List.countP_eq_length_filter]
    exact hsingle.pending

/-- One failure locks the account for a minute. -/
def strictConfig : Config := ⟨8, 720, 5, 1, 1, .down, by decide⟩

/-- An account with the password 7 and the enrollment code 1. -/
def newUser : UserRow := ⟨7, none, none, none, some 1, none, 0, none⟩

/-- A failure locks the account, and a login half a minute later is told so. -/
def lockedOut : List Event :=
  [.login 0 ⟨3, false, none⟩, .authenticate 0 0, .record 0 0, .tick (30 * second),
    .login 1 ⟨4, false, none⟩, .authenticate 1 (30 * second)]

theorem bounded_of_timely_lockedOut :
    (Run.run (step strictConfig) (start 0 2 newUser) lockedOut).history.guesses = [0] ∧
      Bounded strictConfig (Run.run (step strictConfig) (start 0 2 newUser) lockedOut) :=
  ⟨by decide +kernel, bounded_of_timely strictConfig 0 2 newUser lockedOut (by decide +kernel)⟩

/-- Two logins read the account, and then each evaluates its password. -/
def twoGuesses : List Event :=
  [.login 0 ⟨3, false, none⟩, .login 1 ⟨4, false, none⟩, .authenticate 0 0, .authenticate 1 0]

/-- **A failure locks the account too late for a login that has read it**: there are two in a window
that may have one. -/
theorem twoGuesses_not_bounded :
    ¬∀ (cfg : Config) (clock fresh : ℕ) (user : UserRow) (es : List Event),
    Bounded cfg (Run.run (step cfg) (start clock fresh user) es) := by
  intro h
  have hguesses : (Run.run (step strictConfig) (start 0 2 newUser) twoGuesses).history.guesses =
    [0, 0] := by
    decide +kernel
  have hbounded := (h strictConfig 0 2 newUser twoGuesses).guesses 0
  rw [hguesses] at hbounded
  exact absurd hbounded (by decide +kernel)

/-- A failure at 0.85 s is recorded 0.05 s later, and locks the account for a minute; at the end of
the minute that began at 0 s the next one is evaluated. -/
def shortLock : List Event :=
  [.tick 850000000, .login 0 ⟨3, false, none⟩, .authenticate 0 850000000, .tick 50000000,
    .record 0 900000000, .tick 59100000000, .login 1 ⟨4, false, none⟩, .tick 50000000,
    .authenticate 1 60050000000]

/-- **The lock has run out when it has lasted for 59.1 seconds**: it is stored without the part of a
second. -/
theorem shortLock_not_bounded :
    ¬Bounded strictConfig (Run.run (step strictConfig) (start 0 2 newUser) shortLock) := by
  intro hbounded
  have hguesses : (Run.run (step strictConfig) (start 0 2 newUser) shortLock).history.guesses =
      [850000000, 60050000000] := by decide +kernel
  have hwindow := hbounded.guesses 850000000
  rw [hguesses] at hwindow
  exact absurd hwindow (by decide +kernel)

end Rerouter.SignIn
