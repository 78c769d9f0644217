import Rerouter.DeviceVerify
import Rerouter.LockedSession

/-!
# Running a prepared action, and what a failure proves

A prepared action is run through a session that holds the configuration lock of its device
(`Rerouter.executePrepared`): the state before it is verified, its commands are sent one by one, and
the state after it is verified, up to sixteen times. An inverse is run in the same way
(`Rerouter.executeInverse`). Where that fails, the error may say that the failure *provably* had no
effect, and the executor then closes the action as failed, with nothing to undo.

Nothing is assumed of the device: what it replies to a command is a function of everything that was
exchanged before (`Rerouter.LockedPort`). A reply is the output of the command, a rejection of it,
or a failure of the transport, before the command was sent or after. What a command does where it is
carried out is read off `Rerouter.Ios.events`, and not off the list of harmless commands in the code
(`Rerouter.not_changes_of_not_mayChangeState` connects the two).
-/

namespace Rerouter

open Text

/-! ### The session -/

/-- What comes back when a session runs a command. -/
inductive SessionReply where
  | output (text : Text)
  /-- `CommandRejected`: the router says that it did not carry the command out. -/
  | rejected (reason : Text)
  /-- Any other error. The session does not know whether the command reached the router. -/
  | failed (sent : Bool) (reason : Text)
deriving DecidableEq

/-- A command that a session was given, and what came back. -/
structure Exchange where
  device : ℕ
  command : Text
  reply : SessionReply
  /-- Whether the command is one of a plan, and no read. -/
  planned : Bool
deriving DecidableEq

/-- What was exchanged so far, oldest first. -/
abbrev History := List Exchange

/-- `LockedDevices`, and the routers behind it. -/
structure LockedPort where
  /-- Whether the budget of the lock set is not used up. -/
  inBudget : History → Bool
  /-- The devices of the lock set. -/
  holds : ℕ → Bool
  reply : History → ℕ → Text → SessionReply

/-- `EffectCertainty`. -/
inductive EffectCertainty where
  | provenNoEffect | unknownEffect
deriving DecidableEq

/-- `CommandResult`. -/
structure CommandResult where
  command : Text
  output : Text
deriving DecidableEq

/-- `SshPlanFailure`. -/
structure SshPlanFailure where
  completed : List CommandResult
  failedCommand : Text
  certainty : EffectCertainty
  reason : Text
deriving DecidableEq

/-- The errors of an execution. -/
inductive ExecutionError where
  /-- `PreparedExecutionError`. -/
  | prepared (certainty : EffectCertainty) (reason : Text)
  | plan (failure : SshPlanFailure)
  | other (reason : Text)
deriving DecidableEq

/-- Whether the executor takes an error as proof that nothing happened. -/
def ExecutionError.provenNoEffect : ExecutionError → Bool
  | prepared certainty _ => certainty = .provenNoEffect
  | plan failure => failure.certainty = .provenNoEffect
  | other _ => false

/-- `ensure_budget` and `session_mut`, around the gate of a command list. -/
def LockedPort.admits (port : LockedPort) (h : History) (device : ℕ)
    (gate : Except Text (List Text)) :
    Except Text (List Text) :=
  if !port.inBudget h then
    .error "exclusive multi-device configuration window exceeded its 720 second budget"
  else
    match gate with
    | .error e => .error e
    | .ok commands =>
      if port.holds device then .ok commands
      else .error ("device " ++ natText device ++ " is not in the locked set")

/-- The gate of a locked read: a `show` command, behind `do`. -/
def lockedRead (command : Text) : Except Text (List Text) :=
  if !startsWith "show " (trim command) then
    .error "locked read requires an allowlisted `show` command"
  else
    match checkAllowed [("do " : Text) ++ trim command] with
    | .error e => .error e
    | .ok () => .ok [("do " : Text) ++ trim command]

/-- What an error of a command says. -/
def SessionReply.reason : SessionReply → Text
  | output _ => []
  | rejected reason => reason
  | failed _ reason => reason

/-- `LockedDevices::read`. -/
def LockedPort.read (port : LockedPort) (h : History) (q : Show) : Except Text Text × History :=
  match port.admits h q.1 (lockedRead q.2) with
  | .error e => (.error e, h)
  | .ok commands =>
    let command := commands.headD []
    let reply := port.reply h q.1 command
    match reply with
    | .output text => (.ok text, h ++ [⟨q.1, command, reply, false⟩])
    | _ => (.error reply.reason, h ++ [⟨q.1, command, reply, false⟩])

/-- `command_may_change_state`. -/
def commandMayChangeState (command : Text) : Bool :=
  !(startsWith "show " (trim command) || startsWith "do show " (trim command) ||
    decide (trim command ∈ (["terminal length 0", "configure terminal", "configure terminal lock",
      "end", "exit"] : List Text)))

/-- Whether a reply is a rejection. -/
def SessionReply.isRejection : SessionReply → Bool
  | rejected _ => true
  | _ => false

/-- `plan_failure`. -/
def planFailure (completed : List CommandResult) (command : Text) (reply : SessionReply) :
    SshPlanFailure :=
  { completed
    failedCommand := command
    certainty :=
      if (!reply.isRejection && commandMayChangeState command) ||
          completed.any (fun r => commandMayChangeState r.command) then .unknownEffect
      else .provenNoEffect
    reason := reply.reason }

/-- The commands of a plan, one by one. -/
def LockedPort.runPlan (port : LockedPort) (device : ℕ) (completed : List CommandResult) :
    List Text → History → Except ExecutionError (List CommandResult) × History
  | [], h => (.ok completed, h)
  | c :: commands, h =>
    match port.reply h device c with
    | .output text =>
      port.runPlan device (completed ++ [⟨c, text⟩]) commands
        (h ++ [⟨device, c, .output text, true⟩])
    | reply => (.error (.plan (planFailure completed c reply)), h ++ [⟨device, c, reply, true⟩])

/-- `LockedDevices::execute`. -/
def LockedPort.execute (port : LockedPort) (device : ℕ) (commands : List Text) (h : History) :
    Except ExecutionError (List CommandResult) × History :=
  match port.admits h device (lockedPlan commands) with
  | .error e => (.error (.other e), h)
  | .ok transformed => port.runPlan device [] transformed h

/-! ### Running an action -/

/-- `verify_current`, in the session. -/
def LockedPort.verify (port : LockedPort) (device : ℕ) (states : List DeviceStateSnapshot)
    (h : History) :
    Except Text Bool × History :=
  Reads.play port.read (verifyCurrent device states) h

/-- The attempts of `verify_with_retry`. -/
def verifyAttempts : ℕ := 16

/-- `verify_with_retry`, with some attempts left. -/
def LockedPort.verifyWithRetry (port : LockedPort) (device : ℕ)
    (expected : List DeviceStateSnapshot) :
    ℕ → History → Except Text Bool × History
  | 0, h => (.ok false, h)
  | attempts + 1, h =>
    match port.verify device expected h with
    | (.ok false, h) => port.verifyWithRetry device expected attempts h
    | result => result

/-- A verification that must succeed. -/
def LockedPort.require (certainty : EffectCertainty) (reason : Text) {α : Type}
    (verified : Except Text Bool × History) (next : History → Except ExecutionError α × History) :
    Except ExecutionError α × History :=
  match verified with
  | (.error e, h) => (.error (.other e), h)
  | (.ok false, h) => (.error (.prepared certainty reason), h)
  | (.ok true, h) => next h

/-- The commands of an action, and the verification behind them. -/
def LockedPort.apply (port : LockedPort) (device : ℕ) (commands : List Text)
    (verify : List DeviceStateSnapshot) (reason : Text) (h : History) :
    Except ExecutionError (List CommandResult) × History :=
  match port.execute device commands h with
  | (.error e, h) => (.error e, h)
  | (.ok results, h) =>
    LockedPort.require .unknownEffect reason (port.verifyWithRetry device verify verifyAttempts h)
      fun h => (.ok results, h)

/-- `execute_prepared`. -/
def executePrepared (port : LockedPort) (action : PreparedDeviceAction) (h : History) :
    Except ExecutionError (List CommandResult) × History :=
  match action.validate with
  | .error e => (.error (.other e), h)
  | .ok () =>
    LockedPort.require .provenNoEffect "router state changed after preparation; no command was sent"
      (port.verify action.device action.before h) fun h =>
        if action.effect = .alreadySatisfied then
          LockedPort.require .provenNoEffect
            "already-satisfied state did not pass exact verification"
            (port.verifyWithRetry action.device action.verify verifyAttempts h) fun h => (.ok [], h)
        else
          port.apply action.device action.commands action.verify
            "commands ran but exact prepared after-state was not proved" h

/-- `execute_inverse`. -/
def executeInverse (port : LockedPort) (device : ℕ) (inverse : PreparedInverse) (h : History) :
    Except ExecutionError (List CommandResult) × History :=
  LockedPort.require .provenNoEffect
    "router state no longer matches the action-owned after-state; inverse refused"
    (port.verify device inverse.expectedCurrent h) fun h =>
      port.apply device inverse.commands inverse.verify
        "inverse commands ran but the exact restore state was not proved" h

/-! ### What a run adds to the history -/

/-- A history with some exchanges more, all of a kind. -/
def Extends (P : Exchange → Prop) (h h' : History) : Prop :=
  ∃ added, h' = h ++ added ∧ ∀ x ∈ added, P x

variable {P P' : Exchange → Prop} {h h' h'' : History} {port : LockedPort} {device : ℕ}

theorem Extends.refl (P : Exchange → Prop) (h : History) : Extends P h h :=
  ⟨[], (List.append_nil h).symm, fun _ hx => absurd hx List.not_mem_nil⟩

theorem Extends.trans (h₁ : Extends P h h') (h₂ : Extends P h' h'') : Extends P h h'' := by
  obtain ⟨added, rfl, hadded⟩ := h₁
  obtain ⟨added', rfl, hadded'⟩ := h₂
  refine ⟨added ++ added', List.append_assoc _ _ _, ?_⟩
  intro x hx
  rcases List.mem_append.mp hx with hx | hx
  · exact hadded x hx
  · exact hadded' x hx

theorem Extends.mono (hP : ∀ x, P x → P' x) (hext : Extends P h h') : Extends P' h h' := by
  obtain ⟨added, rfl, hadded⟩ := hext
  exact ⟨added, rfl, fun x hx => hP x (hadded x hx)⟩

theorem extends_single {x : Exchange} (hx : P x) : Extends P h (h ++ [x]) :=
  ⟨[x], rfl, fun _ hy => List.mem_singleton.mp hy ▸ hx⟩

/-- An exchange that is no part of a plan. -/
def IsRead (x : Exchange) : Prop := x.planned = false

theorem extends_read (q : Show) : Extends IsRead h (port.read h q).2 := by
  unfold LockedPort.read
  split
  · exact Extends.refl IsRead h
  · dsimp only
    split
    · exact extends_single rfl
    · exact extends_single rfl

/-- **A verification only reads.** -/
theorem extends_verify (states : List DeviceStateSnapshot) :
    Extends IsRead h (port.verify device states h).2 := by
  refine Reads.play_invariant (fun s q hs => ?_) (verifyCurrent device states)
    (Extends.refl IsRead h)
  exact hs.trans (extends_read q)

theorem extends_verifyWithRetry (states : List DeviceStateSnapshot) (attempts : ℕ) :
    Extends IsRead h (port.verifyWithRetry device states attempts h).2 := by
  induction attempts generalizing h with
  | zero => exact Extends.refl IsRead h
  | succ attempts ih =>
    have hverify := @extends_verify h port device states
    rw [LockedPort.verifyWithRetry]
    split
    · rename_i h₁ heq
      rw [heq] at hverify
      exact hverify.trans ih
    · exact hverify

/-- An attempt that succeeds is a verification of the states, after reads only. -/
theorem verifyWithRetry_true {states : List DeviceStateSnapshot} {attempts : ℕ}
    (hok : port.verifyWithRetry device states attempts h = (.ok true, h')) :
    ∃ last, Extends IsRead h last ∧ port.verify device states last = (.ok true, h') := by
  induction attempts generalizing h with
  | zero => cases hok
  | succ attempts ih =>
    have hverify := @extends_verify h port device states
    rw [LockedPort.verifyWithRetry] at hok
    split at hok
    · rename_i h₁ heq
      rw [heq] at hverify
      obtain ⟨last, hlast, htrue⟩ := ih hok
      exact ⟨last, hverify.trans hlast, htrue⟩
    · exact ⟨h, Extends.refl IsRead h, hok⟩

/-! ### Commands that a router carried out -/

/-- Whether the router may have carried out what it replied to. A failure after sending leaves it
open, and counts. -/
def SessionReply.maybeCarriedOut : SessionReply → Bool
  | output _ => true
  | rejected _ => false
  | failed sent _ => sent

/-- **A command of the plan that the router may have applied**: it was carried out, as far as can be
told, and changes the router from some context. -/
def MayHaveApplied (x : Exchange) : Prop :=
  x.planned = true ∧ x.reply.maybeCarriedOut = true ∧ Ios.Changes (splitWhitespace x.command)

theorem words_of_startsWith {w c : Text} (hw : NoWs w) (hne : w ≠ [])
    (h : startsWith (w ++ [' ']) (trim c) = true) :
    ∃ s, splitWhitespace c = w :: splitWhitespace s := by
  obtain ⟨s, hs⟩ := Option.isSome_iff_exists.mp h
  rw [stripPrefix_eq_some, List.append_assoc] at hs
  refine ⟨s, ?_⟩
  rw [← splitWhitespace_trim, hs]
  exact splitWhitespace_append_space hw hne s

/-- The commands that the code takes to be harmless change nothing, whatever the context. -/
theorem not_changes_of_not_mayChangeState {c : Text} (h : commandMayChangeState c = false) :
    ¬Ios.Changes (splitWhitespace c) := by
  have hexec : ∀ {words : List Text}, Ios.kind words = .exec → words.head? = some ("show" : Text) ∨
      words.head? = some ("terminal" : Text) → ¬Ios.Changes words := by
    rintro words hkind hhead ⟨context, e, he, hchanges⟩
    have hran : e = .ran words := by
      unfold Ios.events at he
      rw [hkind] at he
      cases context with
      | exec => exact List.mem_singleton.mp he
      | _ => exact absurd he List.not_mem_nil
    subst hran
    cases words with
    | nil => cases hchanges
    | cons head tail =>
      simp only [List.head?_cons, Option.some.injEq] at hhead
      rcases hhead with rfl | rfl <;> simp [Ios.Event.changes] at hchanges
  have hmoves : ∀ {words : List Text}, Ios.kind words = .configure ∨ Ios.kind words = .leave ∨
      Ios.kind words = .up → ¬Ios.Changes words := by
    rintro words hkind ⟨context, e, he, -⟩
    unfold Ios.events at he
    rcases hkind with hkind | hkind | hkind <;> rw [hkind] at he <;> cases context <;>
      exact absurd he List.not_mem_nil
  simp only [commandMayChangeState, Bool.not_eq_false', Bool.or_eq_true, decide_eq_true_eq,
    List.mem_cons, List.not_mem_nil, or_false] at h
  rcases h with (h | h) | h
  · obtain ⟨s, hs⟩ := @words_of_startsWith ("show" : Text) c (by decide) (by decide) h
    rw [hs]
    exact hexec (by simp [Ios.kind]) (Or.inl rfl)
  · -- behind `do` stands a `show`
    obtain ⟨s, hs⟩ := Option.isSome_iff_exists.mp h
    rw [stripPrefix_eq_some] at hs
    have hwords : splitWhitespace c = ("do" : Text) :: ("show" : Text) :: splitWhitespace s := by
      rw [← splitWhitespace_trim, hs]
      change splitWhitespace (("do" : Text) ++ ' ' :: (("show" : Text) ++ ' ' :: s)) = _
      rw [splitWhitespace_append_space (by decide) (by decide),
        splitWhitespace_append_space (by decide) (by decide)]
    rw [hwords]
    rintro ⟨context, e, he, hchanges⟩
    unfold Ios.events at he
    rw [Ios.kind_do] at he
    dsimp only at he
    split at he
    · rw [List.mem_singleton.mp he] at hchanges
      simp [Ios.Event.changes] at hchanges
    · exact absurd he List.not_mem_nil
  · rw [← splitWhitespace_trim]
    rcases h with h | h | h | h | h <;> rw [h]
    · exact hexec (by decide +kernel) (Or.inr (by decide +kernel))
    · exact hmoves (by decide +kernel)
    · exact hmoves (by decide +kernel)
    · exact hmoves (by decide +kernel)
    · exact hmoves (by decide +kernel)

/-! ### The commands of a plan -/

/-- The exchanges of a plan that ran to its end: its commands, each with an output. -/
def RanPlan (device : ℕ) (commands : List Text) (h h' : History) : Prop :=
  ∃ added, h' = h ++ added ∧ added.map Exchange.command = commands ∧
    ∀ x ∈ added, x.device = device ∧ x.planned = true ∧ ∃ text, x.reply = .output text

theorem runPlan_ok {commands : List Text} {completed results : List CommandResult}
    (hok : port.runPlan device completed commands h = (.ok results, h')) :
    RanPlan device commands h h' := by
  induction commands generalizing completed h with
  | nil =>
    cases hok
    exact ⟨[], (List.append_nil _).symm, rfl, fun _ hx => absurd hx List.not_mem_nil⟩
  | cons c commands ih =>
    rw [LockedPort.runPlan] at hok
    split at hok
    · rename_i text hreply
      obtain ⟨added, rfl, hcommands, hadded⟩ := ih hok
      refine ⟨⟨device, c, .output text, true⟩ :: added, by rw [List.append_assoc]; rfl, ?_, ?_⟩
      · rw [List.map_cons, hcommands]
      · intro x hx
        rcases List.mem_cons.mp hx with rfl | hx
        · exact ⟨rfl, rfl, text, rfl⟩
        · exact hadded x hx
    · cases hok

/-- **A plan whose failure is proven harmless had no effect**: what completed changes nothing, and
the command that failed was rejected, or changes nothing either. -/
theorem runPlan_error {commands : List Text} {completed : List CommandResult} {e : ExecutionError}
    (herror : port.runPlan device completed commands h = (.error e, h'))
    (hproven : e.provenNoEffect = true) :
    (∀ r ∈ completed, commandMayChangeState r.command = false) ∧
    Extends (fun x => ¬MayHaveApplied x) h h' := by
  induction commands generalizing completed h with
  | nil => cases herror
  | cons c commands ih =>
    rw [LockedPort.runPlan] at herror
    split at herror
    · rename_i text hreply
      obtain ⟨hcompleted, hadded⟩ := ih herror
      refine ⟨fun r hr => hcompleted r (List.mem_append_left _ hr),
        Extends.trans (extends_single ?_) hadded⟩
      rintro ⟨-, -, hchanges⟩
      exact not_changes_of_not_mayChangeState (hcompleted ⟨c, text⟩ (by simp)) hchanges
    · rename_i reply hreply
      cases herror
      -- what failed was rejected or is harmless, and nothing that completed changes anything
      have hcertain : ((!(port.reply h device c).isRejection && commandMayChangeState c) ||
          completed.any fun r => commandMayChangeState r.command) = false := by
        by_contra hunknown
        rw [Bool.not_eq_false] at hunknown
        simp only [ExecutionError.provenNoEffect, planFailure, hunknown, if_true] at hproven
        cases hproven
      rw [Bool.or_eq_false_iff] at hcertain
      constructor
      · intro r hr
        have hall := List.any_eq_false.mp hcertain.2 r hr
        exact Bool.eq_false_iff.mpr hall
      · refine extends_single ?_
        rintro ⟨-, hcarried, hchanges⟩
        rcases Bool.and_eq_false_iff.mp hcertain.1 with hrejected | hharmless
        · cases hcase : port.reply h device c with
          | rejected reason =>
            rw [hcase] at hcarried
            cases hcarried
          | output text => exact hreply text hcase
          | failed sent reason =>
            rw [hcase] at hrejected
            cases hrejected
        · exact not_changes_of_not_mayChangeState hharmless hchanges

theorem execute_ok {commands : List Text} {results : List CommandResult}
    (hok : port.execute device commands h = (.ok results, h')) :
    ∃ sent, lockedPlan commands = .ok sent ∧ RanPlan device sent h h' := by
  rw [LockedPort.execute] at hok
  split at hok
  · cases hok
  · rename_i transformed hadmits
    refine ⟨transformed, ?_, runPlan_ok hok⟩
    unfold LockedPort.admits at hadmits
    split at hadmits
    · cases hadmits
    · split at hadmits
      · cases hadmits
      · rename_i sent hsent
        split at hadmits
        · rw [hsent, Except.ok.inj hadmits]
        · cases hadmits

theorem execute_error {commands : List Text} {e : ExecutionError}
    (herror : port.execute device commands h = (.error e, h')) (hproven : e.provenNoEffect = true) :
    Extends (fun x => ¬MayHaveApplied x) h h' := by
  rw [LockedPort.execute] at herror
  split at herror
  · cases herror
    cases hproven
  · exact (runPlan_error herror hproven).2

/-! ### What the result of an execution proves -/

/-- **The states around a run that succeeded**: the state before it was verified, and only reads
came before that; then the commands ran, all of them; and after the last of them the state behind
them was verified, and only reads came since. -/
def VerifiedAround (port : LockedPort) (device : ℕ) (before : List DeviceStateSnapshot)
    (commands : List Text) (verify : List DeviceStateSnapshot) (h h' : History) : Prop :=
  ∃ verified sent ran last, port.verify device before h = (.ok true, verified) ∧
      Extends IsRead h verified ∧
    lockedPlan commands = .ok sent ∧ RanPlan device sent verified ran ∧
      Extends IsRead ran last ∧ port.verify device verify last = (.ok true, h') ∧
      Extends IsRead last h'

variable {commands : List Text} {before verify : List DeviceStateSnapshot} {reason : Text}

theorem not_mayHaveApplied_of_isRead {x : Exchange} (hx : IsRead x) : ¬MayHaveApplied x := by
  rintro ⟨hplanned, -⟩
  rw [IsRead, hplanned] at hx
  cases hx

/-- What a verification that must succeed comes to. -/
theorem require_cases {α : Type} {certainty : EffectCertainty}
    {verified : Except Text Bool × History}
    {next : History → Except ExecutionError α × History} {result : Except ExecutionError α}
    (hresult : LockedPort.require certainty reason verified next = (result, h')) :
    (∃ e, verified = (.error e, h') ∧ result = .error (.other e)) ∨
      (verified = (.ok false, h') ∧ result = .error (.prepared certainty reason)) ∨
        ∃ h₁, verified = (.ok true, h₁) ∧ next h₁ = (result, h') := by
  unfold LockedPort.require at hresult
  split at hresult
  · rename_i e h₁
    cases hresult
    exact Or.inl ⟨e, rfl, rfl⟩
  · cases hresult
    exact Or.inr (Or.inl ⟨rfl, rfl⟩)
  · rename_i h₁
    exact Or.inr (Or.inr ⟨h₁, rfl, hresult⟩)

theorem apply_ok {results : List CommandResult}
    (hok : port.apply device commands verify reason h = (.ok results, h')) :
    ∃ sent ran last, lockedPlan commands = .ok sent ∧ RanPlan device sent h ran ∧
      Extends IsRead ran last ∧
      port.verify device verify last = (.ok true, h') ∧ Extends IsRead last h' := by
  rw [LockedPort.apply] at hok
  split at hok
  · cases hok
  · rename_i outcome ran hexecute
    obtain ⟨sent, hsent, hran⟩ := execute_ok hexecute
    rcases require_cases hok with ⟨e, -, hresult⟩ | ⟨-, hresult⟩ | ⟨h₁, hverified, hresult⟩
    · cases hresult
    · cases hresult
    · cases hresult
      obtain ⟨last, hlast, htrue⟩ := verifyWithRetry_true hverified
      have hread := @extends_verify last port device verify
      rw [htrue] at hread
      exact ⟨sent, ran, last, hsent, hran, hlast, htrue, hread⟩

theorem apply_error {e : ExecutionError}
    (herror : port.apply device commands verify reason h = (.error e, h'))
    (hproven : e.provenNoEffect = true) :
    Extends (fun x => ¬MayHaveApplied x) h h' := by
  rw [LockedPort.apply] at herror
  split at herror
  · rename_i e' h₁ hexecute
    cases herror
    exact execute_error hexecute hproven
  · -- behind the commands nothing is called proven
    rcases require_cases herror with ⟨e', -, hresult⟩ | ⟨-, hresult⟩ | ⟨h₁, -, hresult⟩
    · cases hresult
      cases hproven
    · cases hresult
      cases hproven
    · cases hresult

/-- **The certainty of an execution is sound**, whatever the device replies. An error that is proven
to have had no effect comes with no command of the plan that the router may have applied; and a
success on commands comes with the state before them verified before the first, and the state
behind them verified after the last. Both hold of an action and of an inverse. -/
theorem execution_certainty_sound (port : LockedPort) (h : History) :
    (∀ action : PreparedDeviceAction,
      (∀ e h', executePrepared port action h = (.error e, h') → e.provenNoEffect = true →
        Extends (fun x => ¬MayHaveApplied x) h h') ∧
      ∀ results h', executePrepared port action h = (.ok results, h') → action.commands ≠ [] →
        VerifiedAround port action.device action.before action.commands action.verify h h') ∧
    ∀ (device : ℕ) (inverse : PreparedInverse),
      (∀ e h', executeInverse port device inverse h = (.error e, h') → e.provenNoEffect = true →
        Extends (fun x => ¬MayHaveApplied x) h h') ∧
      ∀ results h', executeInverse port device inverse h = (.ok results, h') →
        inverse.commands ≠ [] →
        VerifiedAround port device inverse.expectedCurrent inverse.commands
          inverse.verify h h' := by
  have hharmless : ∀ x, IsRead x → ¬MayHaveApplied x := fun _ => not_mayHaveApplied_of_isRead
  have hverify : ∀ {device states h₁ h₂ r}, port.verify device states h₁ = (r, h₂) →
    Extends IsRead h₁ h₂ := by
    intro device states h₁ h₂ r heq
    have hread := @extends_verify h₁ port device states
    rwa [heq] at hread
  refine ⟨fun action => ⟨?_, ?_⟩, fun device inverse => ⟨?_, ?_⟩⟩
  · intro e h' herror hproven
    rw [executePrepared] at herror
    split at herror
    · cases herror
      cases hproven
    · rcases require_cases herror with ⟨e', hbefore, -⟩ | ⟨hbefore, -⟩ | ⟨h₁, hbefore, hnext⟩
      · exact (hverify hbefore).mono hharmless
      · exact (hverify hbefore).mono hharmless
      · refine ((hverify hbefore).mono hharmless).trans ?_
        split at hnext
        · have hretry := @extends_verifyWithRetry h₁ port action.device action.verify verifyAttempts
          rcases require_cases hnext with ⟨e', hagain, -⟩ | ⟨hagain, -⟩ | ⟨h₂, -, hdone⟩
          · rw [hagain] at hretry
            exact hretry.mono hharmless
          · rw [hagain] at hretry
            exact hretry.mono hharmless
          · cases hdone
        · exact apply_error hnext hproven
  · intro results h' hok hcommands
    rw [executePrepared] at hok
    split at hok
    · cases hok
    · rename_i hvalid
      rcases require_cases hok with ⟨e', -, hresult⟩ | ⟨-, hresult⟩ | ⟨h₁, hbefore, hnext⟩
      · cases hresult
      · cases hresult
      · split at hnext
        · -- an action that is already satisfied owns no commands
          rename_i hsatisfied
          rw [PreparedDeviceAction.validate] at hvalid
          split_ifs at hvalid with _ _ _ howned
          exact absurd ⟨hsatisfied, Or.inl hcommands⟩ howned
        · obtain ⟨sent, ran, last, hsent, hran, hlast, htrue, hread⟩ := apply_ok hnext
          exact ⟨h₁, sent, ran, last, hbefore, hverify hbefore, hsent, hran, hlast, htrue, hread⟩
  · intro e h' herror hproven
    rw [executeInverse] at herror
    rcases require_cases herror with ⟨e', hbefore, -⟩ | ⟨hbefore, -⟩ | ⟨h₁, hbefore, hnext⟩
    · exact (hverify hbefore).mono hharmless
    · exact (hverify hbefore).mono hharmless
    · exact ((hverify hbefore).mono hharmless).trans (apply_error hnext hproven)
  · intro results h' hok hcommands
    rw [executeInverse] at hok
    rcases require_cases hok with ⟨e', -, hresult⟩ | ⟨-, hresult⟩ | ⟨h₁, hbefore, hnext⟩
    · cases hresult
    · cases hresult
    · obtain ⟨sent, ran, last, hsent, hran, hlast, htrue, hread⟩ := apply_ok hnext
      exact ⟨h₁, sent, ran, last, hbefore, hverify hbefore, hsent, hran, hlast, htrue, hread⟩

/-- An action that shuts an interface down. -/
def shutdownAction : PreparedDeviceAction :=
  { device := 1
    templateId := 1
    templateName := "iface_shutdown"
    policyKind := none
    mode := .routing
    commands := ["configure terminal", "interface Gi0/1", "shutdown", "end"]
    before := [.interfaceAdmin "Gi0/1" false]
    after := [.interfaceAdmin "Gi0/1" true]
    verify := [.interfaceAdmin "Gi0/1" true]
    effect := .change
    inverse := none }

/-- A router that does what it is told, and shows it; or rejects every command but a read. -/
def interfacePort (obeys : Bool) : LockedPort :=
  { inBudget := fun _ => true
    holds := fun _ => true
    reply := fun h _ command =>
      if startsWith "do show " command then
        .output (if h.any fun x => x.command = ("shutdown" : Text) then "interface Gi0/1\n shutdown"
          else "interface Gi0/1")
      else if obeys then .output [] else .rejected "% Invalid input" }

theorem execution_certainty_sound_shutdown :
    (∃ results h', executePrepared (interfacePort true) shutdownAction [] = (.ok results, h') ∧
      VerifiedAround (interfacePort true) 1 shutdownAction.before shutdownAction.commands
        shutdownAction.verify [] h') ∧
    ∃ e h', executePrepared (interfacePort false) shutdownAction [] = (.error e, h') ∧
      Extends (fun x => ¬MayHaveApplied x) [] h' := by
  constructor
  · have hok : (executePrepared (interfacePort true) shutdownAction []).1.toBool =
      true := by decide +kernel
    cases hrun : executePrepared (interfacePort true) shutdownAction [] with
    | mk result h' =>
      cases result with
      | error e =>
        rw [hrun] at hok
        cases hok
      | ok results =>
        exact ⟨results, h', rfl, ((execution_certainty_sound (interfacePort true) []).1
          shutdownAction).2
          results h' hrun (by decide)⟩
  · have hproven : (match (executePrepared (interfacePort false) shutdownAction []).1 with
        | .error e => e.provenNoEffect
        | .ok _ => false) = true := by decide +kernel
    cases hrun : executePrepared (interfacePort false) shutdownAction [] with
    | mk result h' =>
      cases result with
      | ok results =>
        rw [hrun] at hproven
        cases hproven
      | error e =>
        rw [hrun] at hproven
        exact ⟨e, h', rfl, ((execution_certainty_sound (interfacePort false) []).1 shutdownAction).1
          e h' hrun hproven⟩

end Rerouter
