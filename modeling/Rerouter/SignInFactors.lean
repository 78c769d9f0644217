import Rerouter.Lib.Tokens
import Rerouter.SignIn

/-!
# What a second factor is good for

A step of time is consumed where it is compared with the last one, and a recovery code where it is
found, both under the lock of the account. So a step is accepted once
(`Rerouter.SignIn.Lasting.steps`), a recovery code is in one place only (`Rerouter.Tokens.Apart`), a
session is verified for which a factor was accepted, and none outlives a reset: all of this whatever
else happens (`Rerouter.SignIn.lasting_step`).

The enrollment is not like this. That an account has no authenticator yet is read at the beginning
of a request, and acted upon at its end: a confirmation writes the account, and a login hands out a
secret, without a look at what has become of it. **In a run in which these find the account as it
was read, an enrollment takes the code, and the recovery codes that were shown are good**
(`Rerouter.SignIn.sound_of_undisturbed`). Where the factor is reset before a confirmation is
written, the account is confirmed and has no secret, and the next login gets one without a code
(`Rerouter.SignIn.resetAmid_not_sound`).
-/

namespace Rerouter.SignIn

open Tokens Whole

/-- **A second factor does what it is for**: steps are accepted in order; a recovery code completes
one sign-in; a session is verified after a password and a factor; what is accepted was made since
the last reset; an enrollment takes the code; and the recovery codes that were shown are stored. -/
structure Sound (s : System) : Prop where
  steps : s.history.steps.Pairwise (· < ·)
  recoveries : s.history.recoveries.Nodup
  verified : ∀ x ∈ s.sessions, x.totpVerified = true → x.login ∈ s.history.passwords ∧
    x.id ∈ s.history.factors
  resets : ∀ x ∈ s.sessions, x.accepted s.clock = true → x.resets = s.history.resets
  enrollments : ∀ e ∈ s.history.enrollments, e.given.isSome = true ∧ e.given = e.current
  shown : ∀ c ∈ s.history.shown, c ∈ s.user.twoFactorRecoveryCodes.getD []

/-! ### What a step has to respect -/

/-- What was read is still so: the factor was not reset since, and is not confirmed. -/
def Reading.current (rd : Reading) (s : System) : Bool :=
  decide (rd.resets = s.history.resets) && s.user.twoFactorConfirmedAt.isNone

/-- **An undisturbed step** hands out a secret, stores one, or confirms one, only if the account is
not confirmed, and was not reset since it was read. -/
def undisturbed (s : System) : Event → Bool
  | .create i =>
    match s.calls i with
    | some (.creating _ rd _) =>
      rd.row.twoFactorSecret.isNone || rd.row.twoFactorConfirmedAt.isSome || rd.current s
    | _ => true
  | .store i =>
    match s.calls i with
    | some (.enrolling _ rd) => rd.current s
    | _ => true
  | .finish i ok =>
    match s.calls i with
    | some (.finishing _ rd _) => !ok || rd.row.twoFactorConfirmedAt.isSome || rd.current s
    | _ => true
  | _ => true

variable {s s' : System} {i : ℕ} {rd : Reading}

/-! ### What lasts -/

/-- The recovery code that was consumed for a request. -/
def Phase.inHand : Phase → Option ℕ
  | .promoting _ _ usedRecovery => usedRecovery
  | .finishing _ _ usedRecovery => usedRecovery
  | _ => none

/-- The recovery codes that were consumed, and have not completed a sign-in. -/
def System.inHand (s : System) (i : ℕ) : Option ℕ := (s.calls i).bind Phase.inHand

theorem System.inHand_put (s : System) (i : ℕ) (moved : Option Phase) :
    (s.put i moved).inHand = Function.update s.inHand i (moved.bind Phase.inHand) := by
  funext j
  simp only [System.inHand, System.put, Function.update_apply]
  split_ifs <;> rfl

/-- A request has what it needs for its phase. -/
def Phase.Lasting (passwords factors : List ℕ) (i : ℕ) : Phase → Prop
  | .expiring _ _ => i ∈ passwords
  | .creating _ _ _ => i ∈ passwords
  | .promoting session _ _ => session ∈ factors
  | .finishing session _ _ => session ∈ factors
  | _ => True

/-- A session came about as it should, and does not outlive a reset. -/
structure SessionRow.Lasting (clock : ℕ) (passwords factors : List ℕ) (resets : ℕ)
    (x : SessionRow) : Prop where
  login : x.login ∈ passwords
  verified : x.totpVerified = true → x.id ∈ factors
  resets_le : x.resets ≤ resets
  expired : x.resets < resets → x.expiresAt ≤ cut second clock

/-- **The invariant of factors and sessions.** -/
structure Lasting (s : System) : Prop where
  steps : s.history.steps.Pairwise (· < ·)
  last : s.user.lastTotpStep = s.history.steps.getLast?
  codes : Apart (· < s.fresh) (s.user.twoFactorRecoveryCodes.getD []) s.inHand s.history.recoveries
  sessions : ∀ x ∈ s.sessions,
    x.Lasting s.clock s.history.passwords s.history.factors s.history.resets
  calls : ∀ i, ∀ phase ∈ s.calls i, phase.Lasting s.history.passwords s.history.factors i

theorem Phase.Lasting.mono {phase : Phase} {passwords passwords' factors factors' : List ℕ}
    (h : phase.Lasting passwords factors i) (hpasswords : passwords ⊆ passwords')
    (hfactors : factors ⊆ factors') :
    phase.Lasting passwords' factors' i := by
  cases phase with
  | expiring body rd => exact hpasswords h
  | creating body rd made => exact hpasswords h
  | promoting session rd used => exact hfactors h
  | finishing session rd used => exact hfactors h
  | _ => trivial

theorem SessionRow.Lasting.mono {clock clock' resets : ℕ} {x : SessionRow}
    {passwords passwords' factors factors' : List ℕ}
    (h : x.Lasting clock passwords factors resets) (hclock : clock ≤ clock')
    (hpasswords : passwords ⊆ passwords')
    (hfactors : factors ⊆ factors') : x.Lasting clock' passwords' factors' resets where
  login := hpasswords h.login
  verified := fun hx => hfactors (h.verified hx)
  resets_le := h.resets_le
  expired := fun hx => (h.expired hx).trans (cut_mono hclock)

/-- A request goes on, with what it had in hand or without. -/
theorem Lasting.put (hs : Lasting s) {moved : Option Phase}
    (hmoved : ∀ phase ∈ moved, phase.Lasting s.history.passwords s.history.factors i)
    (hhand : moved.bind Phase.inHand = none ∨ moved.bind Phase.inHand = s.inHand i) :
    Lasting (s.put i moved) where
  steps := hs.steps
  last := hs.last
  codes := by
    rw [System.inHand_put]
    rcases hhand with hhand | hhand
    · rw [hhand]
      exact hs.codes.drop i
    · rw [hhand, Function.update_eq_self]
      exact hs.codes
  sessions := hs.sessions
  calls := by
    intro j phase hphase
    obtain ⟨rfl, hmem⟩ | ⟨-, hmem⟩ := mem_update hphase
    · exact hmoved phase hmem
    · exact hs.calls j phase hmem

theorem Lasting.stop (hs : Lasting s) : Lasting (s.put i none) :=
  hs.put (fun _ h => absurd h (Option.not_mem_none _)) (.inl rfl)

theorem Lasting.move (hs : Lasting s) (i : ℕ) (phase : Phase)
    (hphase : phase.Lasting s.history.passwords s.history.factors i) (hhand : phase.inHand = none) :
    Lasting (s.put i (some phase)) :=
  hs.put (fun _ hmem => Option.mem_some_iff.mp hmem ▸ hphase) (.inl hhand)

theorem Lasting.tick (hs : Lasting s) (nanoseconds : ℕ) :
    Lasting { s with clock := s.clock + nanoseconds } :=
  ⟨hs.steps, hs.last, hs.codes,
    fun x hx => (hs.sessions x hx).mono (Nat.le_add_right _ _) (List.Subset.refl _)
    (List.Subset.refl _), hs.calls⟩

theorem Lasting.wrong (hs : Lasting s) : Lasting (s.wrong i) :=
  have hmoved := hs.move i (.failing s.history.signIns s.clock) trivial rfl
  ⟨hmoved.steps, hmoved.last, hmoved.codes, hmoved.sessions, hmoved.calls⟩

/-- A password was right. -/
theorem Lasting.authenticated (hs : Lasting s) (body : LoginBody) (rd : Reading) :
    Lasting { s.put i (some (.expiring body rd)) with
      history := { s.history with passwords := s.history.passwords ++ [i] } } := by
  have hsub : s.history.passwords ⊆ s.history.passwords ++ [i] := List.subset_append_left _ _
  have hstop := hs.stop (i := i)
  refine ⟨hs.steps, hs.last, ?_,
    fun x hx => (hs.sessions x hx).mono (le_refl _) hsub (List.Subset.refl _), ?_⟩
  · have hcodes := hstop.codes
    rw [System.inHand_put] at hcodes
    exact (System.inHand_put s i (some (.expiring body rd))) ▸ hcodes
  · intro j phase hphase
    obtain ⟨rfl, hmem⟩ | ⟨-, hmem⟩ := mem_update hphase
    · exact Option.mem_some_iff.mp hmem ▸ List.mem_append_right _ (List.mem_singleton_self _)
    · exact (hs.calls j phase hmem).mono hsub (List.Subset.refl _)

/-- A factor is accepted, and the request has a code in hand, or none. -/
theorem Lasting.accept (hs : Lasting s) {codes : List ℕ} {usedRecovery : Option ℕ}
    (hcodes : Apart (· < s.fresh) codes (Function.update s.inHand i usedRecovery)
      s.history.recoveries)
    (user : UserRow) (huser : user.twoFactorRecoveryCodes.getD [] = codes) (steps : List ℕ)
    (hsteps : steps.Pairwise (· < ·)) (hlast : user.lastTotpStep = steps.getLast?) (shown : List ℕ)
    (session : ℕ) (rd : Reading) :
    Lasting (System.accept { s with user, history := { s.history with steps, shown } } i session rd
      usedRecovery) where
  steps := hsteps
  last := hlast
  codes := by
    rw [← huser] at hcodes
    exact (System.inHand_put s i (some (.promoting session rd usedRecovery))) ▸ hcodes
  sessions := fun x hx =>
    (hs.sessions x hx).mono (le_refl _) (List.Subset.refl _) (List.subset_append_left _ _)
  calls := by
    intro j phase hphase
    obtain ⟨rfl, hmem⟩ | ⟨-, hmem⟩ := mem_update hphase
    · exact Option.mem_some_iff.mp hmem ▸ List.mem_append_right _ (List.mem_singleton_self _)
    · exact (hs.calls j phase hmem).mono (List.Subset.refl _) (List.subset_append_left _ _)

/-- **A step that is consumed is later than those before it.** -/
theorem Lasting.pairwise_snoc (hs : Lasting s) {timeStep : ℕ}
    (hfresh : s.freshStep timeStep = true) :
    (s.history.steps ++ [timeStep]).Pairwise (· < ·) := by
  rw [List.pairwise_append]
  refine ⟨hs.steps, List.pairwise_singleton _ _, fun x hx y hy => ?_⟩
  obtain rfl := List.mem_singleton.mp hy
  rw [System.freshStep, hs.last] at hfresh
  cases hlast : s.history.steps.getLast? with
  | none =>
    rw [List.getLast?_eq_none_iff.mp hlast] at hx
    cases hx
  | some last =>
    rw [hlast, Option.all_some, decide_eq_true_eq] at hfresh
    obtain ⟨earlier, hearlier⟩ := List.getLast?_eq_some_iff.mp hlast
    have hsteps := hs.steps
    rw [hearlier, List.pairwise_append] at hsteps
    rw [hearlier] at hx
    rcases List.mem_append.mp hx with hx | hx
    · exact (hsteps.2.2 x hx last (List.mem_singleton_self _)).trans hfresh
    · exact List.mem_singleton.mp hx ▸ hfresh

theorem Lasting.takeStep (hs : Lasting s) {timeStep : ℕ} (hfresh : s.freshStep timeStep = true) :
    Lasting (s.takeStep timeStep) :=
  ⟨hs.pairwise_snoc hfresh, List.getLast?_concat.symm, hs.codes, hs.sessions, hs.calls⟩

/-- A code of a step that is later than the last one. -/
theorem Lasting.acceptStep (hs : Lasting s) {timeStep : ℕ} (hfresh : s.freshStep timeStep = true)
    (session : ℕ) (rd : Reading) : Lasting ((s.takeStep timeStep).accept i session rd none) :=
  hs.accept (hs.codes.drop i) { s.user with lastTotpStep := some timeStep } rfl _
    (hs.pairwise_snoc hfresh)
    List.getLast?_concat.symm s.history.shown session rd

/-- A recovery code that is stored. -/
theorem Lasting.acceptRecovery (hs : Lasting s) {n : ℕ}
    (hmem : n ∈ s.user.twoFactorRecoveryCodes.getD []) (shown : List ℕ)
    (session : ℕ) (rd : Reading) :
    Lasting (System.accept { s with
      user := { s.user with
        twoFactorRecoveryCodes := s.user.twoFactorRecoveryCodes.map fun codes => codes.erase n }
      history := { s.history with shown } } i session rd (some n)) := by
  refine hs.accept (hs.codes.take i hmem) { s.user with
    twoFactorRecoveryCodes := s.user.twoFactorRecoveryCodes.map fun codes =>
      codes.erase n } ?_ s.history.steps
    hs.steps hs.last shown session rd
  cases s.user.twoFactorRecoveryCodes <;> rfl

theorem Lasting.enroll (hs : Lasting s) (given : Option ℕ) : Lasting (s.enroll i given) :=
  have hstop := hs.stop (i := i)
  ⟨hstop.steps, hstop.last, hstop.codes, hstop.sessions, hstop.calls⟩

/-- A session is made by a login whose password was right. -/
theorem Lasting.withSession (hs : Lasting s) (hlogin : i ∈ s.history.passwords) (cfg : Config)
    (remember : Bool) :
    Lasting (s.withSession i cfg remember) where
  steps := hs.steps
  last := hs.last
  codes := hs.codes
  sessions := by
    intro x hx
    rcases List.mem_append.mp hx with hx | hx
    · exact hs.sessions x hx
    · obtain rfl := List.mem_singleton.mp hx
      exact ⟨hlogin, nofun, le_refl _, fun h => absurd h (lt_irrefl _)⟩
  calls := hs.calls

/-- The sessions change, and each stays as it should be. -/
theorem Lasting.mapSessions (hs : Lasting s) {f : SessionRow → SessionRow}
    (hf : ∀ x : SessionRow, x.Lasting s.clock s.history.passwords s.history.factors
      s.history.resets →
      (f x).Lasting s.clock s.history.passwords s.history.factors s.history.resets) :
    Lasting { s with sessions := s.sessions.map f } where
  steps := hs.steps
  last := hs.last
  codes := hs.codes
  sessions := by
    intro x hx
    obtain ⟨y, hy, rfl⟩ := List.mem_map.mp hx
    exact hf y (hs.sessions y hy)
  calls := hs.calls

/-- A session expires now. -/
theorem SessionRow.Lasting.expireNow {clock resets : ℕ} {x : SessionRow}
    {passwords factors : List ℕ} (h : x.Lasting clock passwords factors resets) :
    SessionRow.Lasting clock passwords factors resets { x with expiresAt := cut second clock } :=
  ⟨h.login, h.verified, h.resets_le, fun _ => le_refl _⟩

/-- New recovery codes. -/
theorem Lasting.confirm (hs : Lasting s) : Lasting s.confirm where
  steps := hs.steps
  last := hs.last
  codes := by
    refine hs.codes.issue (fun t ht => Nat.lt_add_right _ ht) List.nodup_range' (fun t ht => ?_)
      (fun t ht => ?_)
    · exact not_lt.mpr (List.mem_range'_1.mp ht).1
    · exact (List.mem_range'_1.mp ht).2
  sessions := hs.sessions
  calls := hs.calls

theorem Lasting.recordLogin (hs : Lasting s) : Lasting s.recordLogin :=
  ⟨hs.steps, hs.last, hs.codes, hs.sessions, hs.calls⟩

/-- A sign-in is completed, and its recovery code spent. -/
theorem Lasting.complete (hs : Lasting s) {usedRecovery : Option ℕ}
    (hhand : s.inHand i = usedRecovery) :
    Lasting (s.complete i usedRecovery) where
  steps := hs.steps
  last := hs.last
  codes := by
    have hcodes := hs.codes.spend i
    rw [hhand] at hcodes
    exact (System.inHand_put s i none) ▸ hcodes
  sessions := hs.sessions
  calls := (hs.stop (i := i)).calls

/-- A reset expires every session. -/
theorem Lasting.reset (hs : Lasting s) : Lasting s.resetFactor where
  steps := .nil
  last := rfl
  codes := hs.codes.issue (fun t ht => Nat.lt_succ_of_lt ht) .nil
    (fun _ ht => absurd ht List.not_mem_nil)
    fun _ ht => absurd ht List.not_mem_nil
  sessions := by
    intro x hx
    obtain ⟨y, hy, rfl⟩ := List.mem_map.mp hx
    have hlasting := hs.sessions y hy
    exact ⟨hlasting.login, hlasting.verified, hlasting.resets_le.trans (Nat.le_succ _),
      fun _ => le_refl _⟩
  calls := hs.calls

/-- **What one step keeps of factors and sessions**, whatever else happens. -/
theorem lasting_step (cfg : Config) (s : System) (e : Event) (hs : Lasting s) :
    Lasting (step cfg s e) := by
  cases e with
  | tick nanoseconds => exact hs.tick nanoseconds
  | drop i => exact hs.stop
  | login i body =>
    rw [step]
    split
    · split_ifs
      · exact hs
      · have hmoved := hs.move i (.loginRead body s.reading) trivial rfl
        exact ⟨hmoved.steps, hmoved.last, hmoved.codes, hmoved.sessions, hmoved.calls⟩
    · exact hs
  | authenticate i now =>
    rw [step]
    split
    next body rd hcall =>
      split_ifs
      · exact hs.stop
      · exact hs.wrong
      · exact hs.wrong
      · exact hs.authenticated body rd
      · exact hs
    next => exact hs
  -- a session that is ended keeps its factors
  | expireOld i =>
    rw [step]
    split
    next body rd hcall =>
      have hexpired := hs.mapSessions
        (f := fun x =>
          if x.pending s.clock then { x with expiresAt := cut second s.clock } else x)
        fun x hx => by
          split_ifs
          · exact hx.expireNow
          · exact hx
      have hlogin : i ∈ s.history.passwords := hs.calls i _ hcall
      exact hexpired.move i (.creating body rd s.sessions.length) hlogin rfl
    next => exact hs
  -- a new session has passed the password and no second factor
  | create i =>
    rw [step]
    split
    next body rd made hcall =>
      have hmade := hs.withSession (hs.calls i _ hcall) cfg body.remember
      rw [System.createSession]
      split_ifs
      · exact hmade.stop
      · exact hmade.enroll _
      · exact hmade.move i _ trivial rfl
    next => exact hs
  -- a new secret was never used, so no code of it was
  | store i =>
    rw [step]
    split
    next body rd hcall =>
      have hstop := hs.stop (i := i)
      exact ⟨hstop.steps, hstop.last, hstop.codes.mono fun t ht => Nat.lt_succ_of_lt ht,
        hstop.sessions, hstop.calls⟩
    next => exact hs
  | challenge i session code =>
    rw [step]
    split
    · split_ifs
      · exact hs.move i _ trivial rfl
      · exact hs
    · exact hs
  | read i =>
    rw [step]
    split
    · exact hs.move i _ trivial rfl
    · exact hs
  -- a code is taken only if its step is above the last one
  | consume i now =>
    rw [step]
    split
    next session code rd hcall =>
      have hrecovering : Lasting (s.put i (some (.recovering session code rd))) :=
        hs.move i _ trivial rfl
      split_ifs
      · exact hs.stop
      · split
        · split_ifs with hfresh
          · exact hs.acceptStep hfresh session rd
          · exact hrecovering
        · exact hrecovering
      · exact hs
    next secret code readAt hcall =>
      split_ifs
      · split
        · split_ifs with hfresh
          · exact (hs.takeStep hfresh).stop
          · exact hs.stop
        · exact hs.stop
      · exact hs
    next => exact hs
  | recover i =>
    rw [step]
    split
    next session code rd hcall =>
      split
      next n =>
        split_ifs with hmem
        · exact hs.acceptRecovery hmem _ session rd
        · exact hs.wrong
      next => exact hs.wrong
    next => exact hs
  | promote i =>
    rw [step]
    split
    next session rd usedRecovery hcall =>
      have hfactor : session ∈ s.history.factors := hs.calls i _ hcall
      have hpromoted := hs.mapSessions (f := fun x => if x.id = session then
        { x with totpVerified := true } else x)
        fun x hx => by
          split_ifs with hid
          · exact ⟨hx.login, fun _ => hid ▸ hfactor, hx.resets_le, hx.expired⟩
          · exact hx
      refine hpromoted.put (fun _ hmem => Option.mem_some_iff.mp hmem ▸ hfactor) (.inr ?_)
      rw [System.inHand, hcall]
      rfl
    next => exact hs
  -- the recovery code is spent where the factor is confirmed
  | finish i ok =>
    rw [step]
    split
    next session rd usedRecovery hcall =>
      have hhand : s.inHand i = usedRecovery := by
        rw [System.inHand, hcall]
        rfl
      split_ifs
      · exact hs.confirm.complete hhand
      · exact hs.recordLogin.complete hhand
      · exact hs.move i _ trivial rfl
    next => exact hs
  | revoke i =>
    rw [step]
    split
    next session hcall =>
      have hrevoked := hs.mapSessions
        (f := fun x => if x.id = session then { x with expiresAt := cut second s.clock } else x)
        fun x hx => by
          split_ifs
          · exact hx.expireNow
          · exact hx
      exact hrevoked.stop
    next => exact hs
  | record i now =>
    rw [step]
    have hstop := hs.stop (i := i)
    split
    · split_ifs
      · exact ⟨hstop.steps, hstop.last, hstop.codes, hstop.sessions, hstop.calls⟩
      · exact ⟨hstop.steps, hstop.last, hstop.codes, hstop.sessions, hstop.calls⟩
      · exact hs
    · exact hs
  | stepUp i password code =>
    rw [step]
    split
    · split
      · split_ifs
        · exact hs.move i _ trivial rfl
        · exact hs
      · exact hs
    · exact hs
  | reset => exact hs.reset

/-! ### What an enrollment finds -/

/-- An account is confirmed with a secret, and has recovery codes when it is confirmed. -/
structure UserRow.Enrolled (row : UserRow) : Prop where
  secret : row.twoFactorConfirmedAt.isSome = true → row.twoFactorSecret.isSome = true
  confirmed : row.twoFactorRecoveryCodes.isSome = true → row.twoFactorConfirmedAt.isSome = true

/-- What was read of an account, if its factor was not reset since: a secret stays, and so does the
enrollment code of one that is not confirmed. -/
structure Reading.Enrolled (user : UserRow) (resets : ℕ) (rd : Reading) : Prop where
  resets_le : rd.resets ≤ resets
  row : rd.row.twoFactorConfirmedAt.isSome = true → rd.row.twoFactorSecret.isSome = true
  code : rd.resets = resets → user.twoFactorConfirmedAt.isNone = true →
    user.enrollmentCode = rd.row.enrollmentCode
  secret : rd.resets = resets → rd.row.twoFactorSecret.isSome = true →
    user.twoFactorSecret.isSome = true

/-- A factor of an account that was not confirmed, and still is not, is a code of its secret. -/
def Reading.Backed (user : UserRow) (resets : ℕ) (rd : Reading) : Prop :=
  rd.row.twoFactorConfirmedAt.isSome = false → rd.resets = resets →
    user.twoFactorConfirmedAt.isNone = true →
    rd.row.twoFactorSecret.isSome = true

/-- What a request knows of the account. -/
def Phase.Enrolled (user : UserRow) (resets : ℕ) : Phase → Prop
  | .loginRead _ rd => rd.Enrolled user resets
  | .expiring body rd => rd.Enrolled user resets ∧ enrollmentOk body rd.row = true
  | .creating body rd _ => rd.Enrolled user resets ∧ enrollmentOk body rd.row = true
  | .enrolling body rd =>
    rd.Enrolled user resets ∧ enrollmentOk body rd.row = true ∧
      rd.row.twoFactorConfirmedAt.isSome = false
  | .challengeRead _ _ rd => rd.Enrolled user resets
  | .recovering _ _ rd => rd.Enrolled user resets
  | .promoting _ rd _ => rd.Enrolled user resets ∧ rd.Backed user resets
  | .finishing _ rd _ => rd.Enrolled user resets ∧ rd.Backed user resets
  | _ => True

/-- An enrollment that took the code. -/
def Enrollment.Coded (e : Enrollment) : Prop := e.given.isSome = true ∧ e.given = e.current

/-- **The invariant of enrollments.** -/
structure Enrolled (s : System) : Prop where
  user : s.user.Enrolled
  enrollments : ∀ e ∈ s.history.enrollments, e.Coded
  shown : ∀ c ∈ s.history.shown, c ∈ s.user.twoFactorRecoveryCodes.getD []
  calls : ∀ i, ∀ phase ∈ s.calls i, phase.Enrolled s.user s.history.resets

/-- An account goes on: it is reset, or it keeps what a reading says of it. -/
structure Onward (user user' : UserRow) (resets resets' : ℕ) : Prop where
  resets_le : resets ≤ resets'
  unconfirmed : resets' = resets → user'.twoFactorConfirmedAt.isNone = true →
    user.twoFactorConfirmedAt.isNone = true
  code : resets' = resets → user'.twoFactorConfirmedAt.isNone = true →
    user'.enrollmentCode = user.enrollmentCode
  secret : resets' = resets → user.twoFactorSecret.isSome = true →
    user'.twoFactorSecret.isSome = true

variable {user user' : UserRow} {resets resets' : ℕ}

theorem Onward.refl (user : UserRow) (resets : ℕ) : Onward user user resets resets :=
  ⟨le_refl _, fun _ h => h, fun _ _ => rfl, fun _ h => h⟩

/-- What is not looked at here may change. -/
theorem Onward.of_same (hconfirmed : user'.twoFactorConfirmedAt = user.twoFactorConfirmedAt)
    (hcode : user'.enrollmentCode = user.enrollmentCode)
    (hsecret : user'.twoFactorSecret = user.twoFactorSecret) :
    Onward user user' resets resets :=
  ⟨le_refl _, fun _ h => hconfirmed ▸ h, fun _ _ => hcode, fun _ h => hsecret ▸ h⟩

theorem Onward.reset (user user' : UserRow) (resets : ℕ) : Onward user user' resets (resets + 1) :=
  ⟨Nat.le_succ _, fun h => absurd h (Nat.succ_ne_self _), fun h => absurd h (Nat.succ_ne_self _),
    fun h => absurd h (Nat.succ_ne_self _)⟩

theorem Reading.Enrolled.onward (h : rd.Enrolled user resets)
    (ho : Onward user user' resets resets') :
    rd.Enrolled user' resets' := by
  have hle := ho.resets_le
  have hrd := h.resets_le
  refine ⟨hrd.trans hle, h.row, fun hsame hnone => ?_, fun hsame hsecret => ?_⟩
  · have hresets : resets' = resets := by omega
    exact (ho.code hresets hnone).trans (h.code (by omega) (ho.unconfirmed hresets hnone))
  · exact ho.secret (by omega) (h.secret (by omega) hsecret)

theorem Reading.Backed.onward (hrd : rd.resets ≤ resets) (h : rd.Backed user resets)
    (ho : Onward user user' resets resets') : rd.Backed user' resets' := by
  intro hconfirmed hsame hnone
  have hle := ho.resets_le
  exact h hconfirmed (by omega) (ho.unconfirmed (by omega) hnone)

theorem Phase.Enrolled.onward {phase : Phase} (h : phase.Enrolled user resets)
    (ho : Onward user user' resets resets') :
    phase.Enrolled user' resets' := by
  cases phase with
  | loginRead body rd => exact Reading.Enrolled.onward h ho
  | expiring body rd => exact ⟨h.1.onward ho, h.2⟩
  | creating body rd made => exact ⟨h.1.onward ho, h.2⟩
  | enrolling body rd => exact ⟨h.1.onward ho, h.2⟩
  | challengeRead session code rd => exact Reading.Enrolled.onward h ho
  | recovering session code rd => exact Reading.Enrolled.onward h ho
  | promoting session rd used => exact ⟨h.1.onward ho, h.2.onward h.1.resets_le ho⟩
  | finishing session rd used => exact ⟨h.1.onward ho, h.2.onward h.1.resets_le ho⟩
  | _ => trivial

theorem Enrolled.put (hs : Enrolled s) {moved : Option Phase}
    (hmoved : ∀ phase ∈ moved, phase.Enrolled s.user s.history.resets) :
    Enrolled (s.put i moved) where
  user := hs.user
  enrollments := hs.enrollments
  shown := hs.shown
  calls := by
    intro j phase hphase
    obtain ⟨rfl, hmem⟩ | ⟨-, hmem⟩ := mem_update hphase
    · exact hmoved phase hmem
    · exact hs.calls j phase hmem

theorem Enrolled.stop (hs : Enrolled s) : Enrolled (s.put i none) :=
  hs.put fun _ h => absurd h (Option.not_mem_none _)

theorem Enrolled.move (hs : Enrolled s) (i : ℕ) (phase : Phase)
    (hphase : phase.Enrolled s.user s.history.resets) :
    Enrolled (s.put i (some phase)) :=
  hs.put fun _ hmem => Option.mem_some_iff.mp hmem ▸ hphase

/-- What a request reads is so. -/
theorem Enrolled.reading (hs : Enrolled s) : s.reading.Enrolled s.user s.history.resets :=
  ⟨le_refl _, hs.user.secret, fun _ _ => rfl, fun _ h => h⟩

/-- **A login that hands out a secret had the code**, if the account is as it was read. -/
theorem Reading.Enrolled.coded {body : LoginBody} (h : rd.Enrolled s.user s.history.resets)
    (hcode : enrollmentOk body rd.row = true)
    (hconfirmed : rd.row.twoFactorConfirmedAt.isSome = false)
    (hcurrent : rd.current s = true) :
    Enrollment.Coded ⟨body.enrollmentCode, s.user.enrollmentCode⟩ := by
  rw [Reading.current, Bool.and_eq_true, decide_eq_true_eq] at hcurrent
  rw [enrollmentOk, hconfirmed, Bool.false_or, Bool.and_eq_true, decide_eq_true_eq] at hcode
  exact ⟨hcode.1, hcode.2.trans (h.code hcurrent.1 hcurrent.2).symm⟩

theorem Enrolled.enroll (hs : Enrolled s) {given : Option ℕ}
    (hcoded : Enrollment.Coded ⟨given, s.user.enrollmentCode⟩) :
    Enrolled (s.enroll i given) where
  user := hs.user
  enrollments := by
    intro e he
    rcases List.mem_append.mp he with he | he
    · exact hs.enrollments e he
    · exact List.mem_singleton.mp he ▸ hcoded
  shown := hs.shown
  calls := (hs.stop (i := i)).calls

/-- **The account is confirmed**, with the secret that the factor was a code of. -/
theorem Enrolled.confirm (hs : Enrolled s) (hnone : s.user.twoFactorConfirmedAt.isNone = true)
    (hsecret : s.user.twoFactorSecret.isSome = true) : Enrolled s.confirm where
  user := ⟨fun _ => hsecret, fun _ => rfl⟩
  enrollments := hs.enrollments
  shown := by
    intro c hc
    rcases List.mem_append.mp hc with hc | hc
    · -- An account that is not confirmed has no recovery codes.
      have hstored := hs.shown c hc
      cases hcodes : s.user.twoFactorRecoveryCodes with
      | none =>
        rw [hcodes] at hstored
        exact absurd hstored List.not_mem_nil
      | some codes =>
        have hsome := hs.user.confirmed (by rw [hcodes]; rfl)
        rw [Option.isNone_iff_eq_none] at hnone
        rw [hnone] at hsome
        cases hsome
    · exact hc
  calls := by
    intro j phase hphase
    refine (hs.calls j phase hphase).onward ⟨le_refl _, fun _ h => ?_, fun _ h => ?_, fun _ h => h⟩
    · cases h
    · cases h

/-- What an enrollment does not look at changes. -/
theorem Enrolled.write (hs : Enrolled s) (written : System) (hcalls : written.calls = s.calls)
    (hresets : written.history.resets = s.history.resets)
    (henrollments : written.history.enrollments = s.history.enrollments)
    (ho : Onward s.user written.user s.history.resets
      s.history.resets) (huser : written.user.Enrolled)
    (hshown : ∀ c ∈ written.history.shown, c ∈ written.user.twoFactorRecoveryCodes.getD []) :
    Enrolled written where
  user := huser
  enrollments := henrollments ▸ hs.enrollments
  shown := hshown
  calls := by
    intro j phase hphase
    rw [hcalls] at hphase
    rw [hresets]
    exact (hs.calls j phase hphase).onward ho

theorem Enrolled.takeStep (hs : Enrolled s) (timeStep : ℕ) : Enrolled (s.takeStep timeStep) :=
  hs.write (s.takeStep timeStep) rfl rfl rfl (.of_same rfl rfl rfl) ⟨hs.user.secret,
      hs.user.confirmed⟩ hs.shown

theorem Enrolled.recordLogin (hs : Enrolled s) : Enrolled s.recordLogin :=
  hs.write s.recordLogin rfl rfl rfl (.of_same rfl rfl rfl) ⟨hs.user.secret,
      hs.user.confirmed⟩ hs.shown

/-- A recovery code is used. -/
theorem Enrolled.spend (hs : Enrolled s) (n : ℕ) : Enrolled { s with
    user := { s.user with
      twoFactorRecoveryCodes := s.user.twoFactorRecoveryCodes.map fun codes => codes.erase n }
    history := { s.history with shown := s.history.shown.filter fun c => c ≠ n } } := by
  refine hs.write _ rfl rfl rfl (.of_same rfl rfl rfl) ⟨hs.user.secret, fun h => ?_⟩ fun c hc => ?_
  · exact hs.user.confirmed (by rwa [Option.isSome_map] at h)
  · obtain ⟨hshown, hne⟩ := List.mem_filter.mp hc
    have hstored := hs.shown c hshown
    dsimp only
    cases hcodes : s.user.twoFactorRecoveryCodes with
    | none =>
      rw [hcodes] at hstored
      exact hstored
    | some codes =>
      rw [hcodes] at hstored
      exact (List.mem_erase_of_ne (of_decide_eq_true hne)).mpr hstored

theorem Enrolled.accept (hs : Enrolled s) {session : ℕ} (hrd : rd.Enrolled s.user s.history.resets)
    (hbacked : rd.Backed s.user s.history.resets) (usedRecovery : Option ℕ) :
    Enrolled (s.accept i session rd usedRecovery) :=
  have hmoved := hs.move i (.promoting session rd usedRecovery) ⟨hrd, hbacked⟩
  ⟨hmoved.user, hmoved.enrollments, hmoved.shown, hmoved.calls⟩

theorem Enrolled.wrong (hs : Enrolled s) : Enrolled (s.wrong i) :=
  have hmoved := hs.move i (.failing s.history.signIns s.clock) trivial
  ⟨hmoved.user, hmoved.enrollments, hmoved.shown, hmoved.calls⟩

theorem Enrolled.complete (hs : Enrolled s) (usedRecovery : Option ℕ) :
    Enrolled (s.complete i usedRecovery) :=
  have hstop := hs.stop (i := i)
  ⟨hstop.user, hstop.enrollments, hstop.shown, hstop.calls⟩

/-- The secret of an enrollment is stored, and handed out. -/
theorem Enrolled.store (hs : Enrolled s) {given : Option ℕ}
    (hcoded : Enrollment.Coded ⟨given, s.user.enrollmentCode⟩) :
    Enrolled { s.enroll i given with
      user := { s.user with twoFactorSecret := some s.fresh }
      fresh := s.fresh + 1 } := by
  refine (hs.enroll hcoded).write _ rfl rfl rfl ⟨le_refl _, fun _ h => h, fun _ _ => rfl,
    fun _ _ => rfl⟩ ?_ hs.shown
  exact ⟨fun _ => rfl, hs.user.confirmed⟩

theorem Enrolled.reset (hs : Enrolled s) : Enrolled s.resetFactor where
  user := ⟨nofun, nofun⟩
  enrollments := hs.enrollments
  shown := fun _ hc => absurd hc List.not_mem_nil
  calls := fun j phase hphase => (hs.calls j phase hphase).onward (.reset _ _ _)

/-- **What one step keeps of enrollments.** -/
theorem enrolled_step (cfg : Config) (s : System) (e : Event) (hs : Enrolled s)
    (hundisturbed : undisturbed s e = true) :
    Enrolled (step cfg s e) := by
  cases e with
  | tick nanoseconds => exact ⟨hs.user, hs.enrollments, hs.shown, hs.calls⟩
  | drop i => exact hs.stop
  | login i body =>
    rw [step]
    split
    · split_ifs
      · exact hs
      · have hmoved := hs.move i (.loginRead body s.reading) hs.reading
        exact ⟨hmoved.user, hmoved.enrollments, hmoved.shown, hmoved.calls⟩
    · exact hs
  | authenticate i now =>
    rw [step]
    split
    next body rd hcall =>
      split_ifs with htime hlocked hpassword hcode
      · exact hs.stop
      · exact hs.wrong
      · exact hs.wrong
      · have hright : enrollmentOk body rd.row = true := by simpa using hcode
        have hmoved := hs.move i (.expiring body rd) ⟨hs.calls i _ hcall, hright⟩
        exact ⟨hmoved.user, hmoved.enrollments, hmoved.shown, hmoved.calls⟩
      · exact hs
    next => exact hs
  | expireOld i =>
    rw [step]
    split
    next body rd hcall =>
      have hknown : rd.Enrolled s.user s.history.resets ∧ enrollmentOk body rd.row = true :=
        hs.calls i _ hcall
      have hmoved := hs.move i (.creating body rd s.sessions.length) hknown
      exact ⟨hmoved.user, hmoved.enrollments, hmoved.shown, hmoved.calls⟩
    next => exact hs
  | create i =>
    rw [step]
    rw [undisturbed] at hundisturbed
    split
    next body rd made hcall =>
      rw [hcall] at hundisturbed
      obtain ⟨hrd, hcode⟩ : rd.Enrolled s.user s.history.resets ∧ enrollmentOk body rd.row = true :=
        hs.calls i _ hcall
      have hmade : Enrolled (s.withSession i cfg body.remember) :=
        ⟨hs.user, hs.enrollments, hs.shown, hs.calls⟩
      rw [System.createSession]
      split_ifs with hboth hsecret
      · exact hmade.stop
      · have hconfirmed : rd.row.twoFactorConfirmedAt.isSome =
          false := by simpa [hsecret] using hboth
        refine hmade.enroll (hrd.coded hcode hconfirmed ?_)
        rw [Option.isSome_iff_ne_none] at hsecret
        simpa [hsecret, hconfirmed] using hundisturbed
      · have hconfirmed : rd.row.twoFactorConfirmedAt.isSome = false :=
          eq_false_of_ne_true fun h => hsecret (hrd.row h)
        exact hmade.move i _ ⟨hrd, hcode, hconfirmed⟩
    next => exact hs
  | store i =>
    rw [step]
    rw [undisturbed] at hundisturbed
    split
    next body rd hcall =>
      rw [hcall] at hundisturbed
      obtain ⟨hrd, hcode, hconfirmed⟩ : rd.Enrolled s.user s.history.resets ∧
        enrollmentOk body rd.row = true ∧
          rd.row.twoFactorConfirmedAt.isSome = false := hs.calls i _ hcall
      exact hs.store (hrd.coded hcode hconfirmed hundisturbed)
    next => exact hs
  | challenge i session code =>
    rw [step]
    split
    · split_ifs
      · exact hs.move i _ trivial
      · exact hs
    · exact hs
  | read i =>
    rw [step]
    split
    · exact hs.move i _ hs.reading
    · exact hs
  | consume i now =>
    rw [step]
    split
    next session code rd hcall =>
      have hrd : rd.Enrolled s.user s.history.resets := hs.calls i _ hcall
      have hrecovering : Enrolled (s.put i (some (.recovering session code rd))) := hs.move i _ hrd
      split_ifs
      · exact hs.stop
      · split
        next timeStep hstep =>
          split_ifs
          · obtain ⟨secret, hsecret, -⟩ := Option.bind_eq_some_iff.mp hstep
            refine (hs.takeStep timeStep).accept (hrd.onward (.of_same rfl rfl rfl))
              (fun _ _ _ => ?_) none
            rw [hsecret]
            rfl
          · exact hrecovering
        next => exact hrecovering
      · exact hs
    next secret code readAt hcall =>
      split_ifs
      · split
        · split_ifs
          · exact (hs.takeStep _).stop
          · exact hs.stop
        · exact hs.stop
      · exact hs
    next => exact hs
  | recover i =>
    rw [step]
    split
    next session code rd hcall =>
      have hrd : rd.Enrolled s.user s.history.resets := hs.calls i _ hcall
      split
      next n =>
        split_ifs with hmem
        · refine (hs.spend n).accept (hrd.onward (.of_same rfl rfl rfl))
            (fun _ _ hnone => ?_) (some n)
          -- An account with recovery codes is confirmed.
          have hcodes : s.user.twoFactorRecoveryCodes.isSome = true := by
            cases hcodes : s.user.twoFactorRecoveryCodes with
            | none =>
              rw [hcodes] at hmem
              exact absurd hmem List.not_mem_nil
            | some codes => rfl
          have hconfirmed := hs.user.confirmed hcodes
          rw [Option.isNone_iff_eq_none] at hnone
          dsimp only at hnone
          rw [hnone] at hconfirmed
          cases hconfirmed
        · exact hs.wrong
      next => exact hs.wrong
    next => exact hs
  | promote i =>
    rw [step]
    split
    next session rd usedRecovery hcall =>
      have hknown : rd.Enrolled s.user s.history.resets ∧ rd.Backed s.user s.history.resets :=
        hs.calls i _ hcall
      have hmoved := hs.move i (.finishing session rd usedRecovery) hknown
      exact ⟨hmoved.user, hmoved.enrollments, hmoved.shown, hmoved.calls⟩
    next => exact hs
  | finish i ok =>
    rw [step]
    rw [undisturbed] at hundisturbed
    split
    next session rd usedRecovery hcall =>
      rw [hcall] at hundisturbed
      obtain ⟨hrd, hbacked⟩ : rd.Enrolled s.user s.history.resets ∧
        rd.Backed s.user s.history.resets := hs.calls i _ hcall
      split_ifs with hok hfirst
      · rw [Option.isNone_iff_eq_none] at hfirst
        have hcurrent : rd.current s = true := by simpa [hok, hfirst] using hundisturbed
        rw [Reading.current, Bool.and_eq_true, decide_eq_true_eq] at hcurrent
        have hsecret := hrd.secret hcurrent.1 (hbacked (by rw [hfirst]; rfl) hcurrent.1 hcurrent.2)
        exact (hs.confirm hcurrent.2 hsecret).complete usedRecovery
      · exact hs.recordLogin.complete usedRecovery
      · exact hs.move i _ trivial
    next => exact hs
  | revoke i =>
    rw [step]
    split
    · have hstop := hs.stop (i := i)
      exact ⟨hstop.user, hstop.enrollments, hstop.shown, hstop.calls⟩
    · exact hs
  | record i now =>
    rw [step]
    split
    · split_ifs
      · exact (hs.stop (i := i)).write _ rfl rfl rfl (.of_same rfl rfl rfl) ⟨hs.user.secret,
          hs.user.confirmed⟩ hs.shown
      · exact (hs.stop (i := i)).write _ rfl rfl rfl (.of_same rfl rfl rfl) ⟨hs.user.secret,
          hs.user.confirmed⟩ hs.shown
      · exact hs
    · exact hs
  | stepUp i password code =>
    rw [step]
    split
    · split
      · split_ifs
        · exact hs.move i _ trivial
        · exact hs
      · exact hs
    · exact hs
  | reset => exact hs.reset

/-! ### Runs -/

/-- An account that was just created, with its password and its enrollment code. -/
def newAccount (password enrollmentCode : ℕ) : UserRow :=
  ⟨password, none, none, none, some enrollmentCode, none, 0, none⟩

/-- **In an undisturbed run a second factor does what it is for**, whatever requests there are,
however they take turns, and whichever of them are given up. -/
theorem sound_of_undisturbed (cfg : Config) (clock fresh password enrollmentCode : ℕ)
    (es : List Event)
    (h : Run.Meets (step cfg) (fun s e => undisturbed s e = true)
      (start clock fresh (newAccount password enrollmentCode)) es) :
    Sound (Run.run (step cfg) (start clock fresh (newAccount password enrollmentCode)) es) := by
  have hlasting : Lasting (Run.run (step cfg)
    (start clock fresh (newAccount password enrollmentCode)) es) :=
    Run.invariant (lasting_step cfg) es
      ⟨.nil, rfl, apart_nil, fun _ hx => absurd hx List.not_mem_nil,
        fun _ _ h => absurd h (Option.not_mem_none _)⟩
  have henrolled : Enrolled (Run.run (step cfg)
    (start clock fresh (newAccount password enrollmentCode)) es) :=
    Run.invariant_of_meets (enrolled_step cfg)
      ⟨⟨nofun, nofun⟩, fun _ he => absurd he List.not_mem_nil,
        fun _ hc => absurd hc List.not_mem_nil, fun _ _ h => absurd h (Option.not_mem_none _)⟩ h
  refine ⟨hlasting.steps, hlasting.codes.spent_nodup, fun x hx hverified => ?_,
    fun x hx haccepted => ?_, henrolled.enrollments, henrolled.shown⟩
  · exact ⟨(hlasting.sessions x hx).login, (hlasting.sessions x hx).verified hverified⟩
  · have hsession := hlasting.sessions x hx
    rw [SessionRow.accepted, Bool.and_eq_true, decide_eq_true_eq] at haccepted
    refine le_antisymm hsession.resets_le (not_lt.mp fun hlt => ?_)
    have hexpired := hsession.expired hlt
    omega

/-- The configuration of the examples. -/
def defaultConfig : Config := ⟨8, 720, 5, 5, 15, .down, by decide⟩

/-- The first login of an account enrolls it: the secret 10 is handed out. -/
def firstLogin : List Event :=
  [.login 0 ⟨7, false, some 1⟩, .authenticate 0 0, .expireOld 0, .create 0, .store 0]

/-- A code of the secret is accepted, and the session verified. -/
def firstFactor : List Event :=
  [.challenge 1 0 (.totp 10 0), .read 1, .consume 1 0, .promote 1]

/-- A login without a code. -/
def nextLogin : List Event :=
  [.login 2 ⟨7, false, none⟩, .authenticate 2 0, .expireOld 2, .create 2, .store 2]

/-- The account is enrolled and confirmed, and the next login is asked for its factor. -/
theorem sound_of_undisturbed_enrolled :
    Sound (Run.run (step defaultConfig) (start 0 10 (newAccount 7 1))
      (firstLogin ++ firstFactor ++ [.finish 1 true] ++ nextLogin)) :=
  sound_of_undisturbed defaultConfig 0 10 7 1 _ (by decide +kernel)

/-- **A reset before the confirmation is written**: the account is confirmed, and has neither a
secret nor an enrollment code, and the next login gets a secret for its password alone. -/
theorem resetAmid_not_sound :
    ¬∀ (cfg : Config) (clock fresh password enrollmentCode : ℕ) (es : List Event),
    Sound (Run.run (step cfg) (start clock fresh (newAccount password enrollmentCode)) es) := by
  intro h
  have henrollments : (Run.run (step defaultConfig) (start 0 10 (newAccount 7 1))
      (firstLogin ++ firstFactor ++ [.reset, .finish 1 true] ++ nextLogin)).history.enrollments =
      [⟨some 1, some 1⟩, ⟨none, none⟩] := by decide +kernel
  have hcoded := (h defaultConfig 0 10 7 1 (firstLogin ++ firstFactor ++ [.reset,
    .finish 1 true] ++ nextLogin)).enrollments
    ⟨none, none⟩ (by rw [henrollments]; simp)
  cases hcoded.1

end Rerouter.SignIn
