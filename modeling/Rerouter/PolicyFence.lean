import Rerouter.Guard
import Rerouter.Lib.Outcome
import Rerouter.PolicySettings

/-!
# The policy fence

Whether the controller may act is written in many places: in the settings, in the locks, in the
rules. Before an action goes out `execute_with_inner` reads them, one statement after the other,
and all the while operators change them. An operator who has been told that the controller only
observes must not see another unattended action go out after that, not even one that read the mode
before he changed it.

What the source has against it is an advisory lock, the *fence*. Every request that changes the
policy holds it, and so does an execution: from before its first read that counts until the last
command is verified.

| Work | What it holds the fence for |
|---|---|
| an execution | its reads, the reservation and the commands (`Rerouter.Fence.gates`) |
| `PUT /api/settings` | reading the settings, and writing them |
| a global lock, a rule, a reconciliation | one transaction |
| other | the admission of a run, say, which changes nothing here |

Not everything waits for it. Supervisors lock a device, and the recovery of a crash does; operators
create rules, which do nothing yet; and bundles are published. None of it takes back what a gate of
an execution has found.

So it does not matter when a gate was read: what a gate that let an action pass has found
(`Rerouter.Fence.Gate.Holds`, `Rerouter.Fence.Gate.holds_of_read`) still holds when the commands are
sent. `Rerouter.PolicyFenceRuns` has the runs.

That the connection of the fence alone ends, and whoever had it goes on, is no event.
-/

namespace Rerouter

namespace Fence

open Policy

/-! ### The policy -/

/-- The columns of `rules` that an authorization asks for. -/
structure RulePolicy where
  enabled : Bool
  automaticRerouteEnabled : Bool
  automaticRevertEnabled : Bool
  manualApplyEnabled : Bool
  actionsRevision : ℕ
deriving DecidableEq

/-- The columns of `reroute_bundles` that are written before an action of the bundle is executed,
with what is read of `source_json`. Later writes of `source_json` keep that. -/
structure BundleSource where
  trigger : TriggerType
  ruleId : Option ℕ
  /-- `kind` is `rule`, or `recovery`. -/
  ofRule : Bool
  ofRecovery : Bool
  actionsRevision : Option ℕ
deriving DecidableEq

/-- What decides whether an action may go out. -/
structure PolicyRows where
  settings : Settings
  locks : List LockRow := []
  rules : ℕ → Option RulePolicy := fun _ => none
  bundles : ℕ → Option BundleSource := fun _ => none

/-- The settings as the migration leaves them. -/
def seeds : Settings
  | .operatingMode => some "observe"
  | .automaticActionsEnabled => some "false"
  | .globalMaintenanceLock => some "false"

/-- `SafetyConfig` and `reroute.require_verification`, as far as the gates read them. -/
structure Config where
  defaults : SafetyDefaults := {}
  requireVerification : Bool := true
  rateLimit : ℕ := 0
  rateWindow : ℕ := 600

/-- A lock of all devices. -/
def PolicyRows.globallyLocked (p : PolicyRows) : Bool :=
  p.locks.any fun l => !l.cleared && l.scope = .global

/-- `is_blocked` of a device. -/
def PolicyRows.blocked (p : PolicyRows) (device : ℕ) : Bool :=
  p.locks.any fun l => !l.cleared && (l.scope = .global || l.scope = .device device)

/-- A device that is not blocked is under no lock of all devices. -/
theorem PolicyRows.globallyLocked_of_blocked (p : PolicyRows) {device : ℕ}
    (h : p.blocked device = false) : p.globallyLocked = false := by
  rw [PolicyRows.blocked, List.any_eq_false] at h
  rw [PolicyRows.globallyLocked, List.any_eq_false]
  intro l hl hglobal
  refine h l hl ?_
  obtain ⟨hcleared, hscope⟩ := Bool.and_eq_true_iff.mp hglobal
  rw [hcleared, hscope, Bool.true_or, Bool.and_true]

/-! ### Requests -/

/-- `ExecutionAuthorityKind`. -/
inductive AuthorityKind where
  | manual | manualBundle | manualRecovery | automatic | compensation | recovery
deriving DecidableEq

/-- `ExecutionAuthorization`. -/
structure Authorization where
  kind : AuthorityKind
  planId : Option ℕ
  bundleId : Option ℕ
  ownerToken : Text
  snapshotActionId : Option ℕ

/-- `ActionRequest`, with two columns of its template and the mode of its prepared snapshot. -/
structure ActionRequest where
  device : ℕ
  trigger : TriggerType
  ruleId : Option ℕ
  rollbackOf : Option ℕ
  userId : Option ℕ
  /-- It is a sibling of a bundle. -/
  bundle : Option ℕ
  authorization : Option Authorization
  templateEnabled : Bool
  automaticAllowed : Bool
  verificationMode : VerificationMode

/-- `authority_is_unattended`, where the trigger of a bundle may be misread. A compensation of a
bundle that is misread counts as attended. -/
def authorityIsUnattended (bundles : ℕ → Option BundleSource) (misread : Bool) :
    Option Authorization → Bool
  | none => false
  | some auth =>
    match auth.kind with
    | .automatic | .recovery => true
    | .compensation =>
      match auth.bundleId with
      | some id => !misread && (bundles id).any fun b => b.trigger = .automatic
      | none => true
    | _ => false

/-- The rule of a bundle, as it was when the bundle was admitted. -/
def PolicyRows.ruleCurrent (p : PolicyRows) (b : BundleSource) (test : RulePolicy → Bool) : Bool :=
  b.ruleId.any fun id =>
    (p.rules id).any fun r => test r && decide (b.actionsRevision = some r.actionsRevision)

/-- What an authorization asks of the rule, all kinds together: an operator's action of a rule, that
it may be applied by hand and is the one he saw; an automatic one, that the rule is armed with it;
a recovery, that the rule still reverts by itself. -/
def PolicyRows.ruleAllows (p : PolicyRows) (req : ActionRequest) (auth : Authorization) : Bool :=
  match auth.kind with
  | .manual =>
    req.trigger ≠ .manual || req.ruleId.all fun rule =>
      (auth.bundleId.bind p.bundles).any fun b =>
        decide (b.ruleId = some rule) && b.ofRule && p.ruleCurrent b RulePolicy.manualApplyEnabled
  | .manualBundle =>
    req.ruleId.all fun rule =>
      (auth.bundleId.bind p.bundles).any fun b =>
        decide (b.ruleId = some rule) && p.ruleCurrent b RulePolicy.manualApplyEnabled
  | .automatic =>
    (auth.bundleId.bind p.bundles).any fun b =>
      decide (b.trigger = .automatic) &&
        p.ruleCurrent b fun r => r.enabled && r.automaticRerouteEnabled
  | .recovery =>
    (auth.bundleId.bind p.bundles).any fun b =>
      decide (b.trigger = .automatic) && b.ofRecovery &&
        b.ruleId.all fun id => (p.rules id).any RulePolicy.automaticRevertEnabled
  | .compensation | .manualRecovery => true

/-! ### The gates -/

/-- `BlockReason`. -/
inductive BlockReason where
  | protectedInterface (interface : Text)
  | automaticDisabled
  | noVerifyStep
  | maintenanceLock
  | deviceLocked
  | deviceCooldown (until_ : ℤ)
  | ruleCooldown (rule : ℕ) (until_ : ℤ)
  | rateLimit (recent windowSecs max : ℕ)
  | gateReadFailed (error : Text)
  | deviceUnreachable (detail : Text)
  | deviceStabilizing
deriving DecidableEq

/-- What `validate_execution_authorization` may miss. -/
inductive AuthorizationError where
  | missing | emptyOwner | trigger | noPlan | noActor | noBundle | noOriginal
  | notRunnable | ruleChanged | notInvertible | evidence | templateChanged
  | siblingMismatch | siblingMissing | window | notRead
deriving DecidableEq

/-- Why an action is blocked. -/
inductive Refusal where
  | templateDisabled
  | automaticNotAllowed
  | observing
  | automaticActionsDisabled
  | authorization (e : AuthorizationError)
  | snapshot
  | configurationOnlyAuthority
  | configurationOnlyIdentity
  | guard (reason : BlockReason)
  /-- `reserve_and_persist`, from its reads of the reroutes on, and the audit behind it. -/
  | reservation
deriving DecidableEq

/-- `GateInputs`. -/
structure GateInputs where
  trigger : TriggerType
  protectedInterface : Option Text := none
  automaticActionsEnabled : Bool := true
  hasVerifyStep : Bool := true
  requireVerification : Bool := true
  globalMaintenanceLock : Bool := false
  deviceLocked : Bool := false
  deviceCooldownUntil : Option ℤ := none
  ruleId : Option ℕ := none
  ruleCooldownUntil : Option ℤ := none
  rateLimit : ℕ := 0
  rateWindowSecs : ℕ := 600
  recentCount : ℕ := 0

/-- The throttles of `decide`, which a rollback passes. -/
def throttle (i : GateInputs) : Except BlockReason Unit :=
  match i.deviceCooldownUntil with
  | some until_ => .error (.deviceCooldown until_)
  | none =>
    match i.ruleId, i.ruleCooldownUntil with
    | some rule, some until_ => .error (.ruleCooldown rule until_)
    | _, _ =>
      if 0 < i.rateLimit ∧ i.rateLimit ≤ i.recentCount then
        .error (.rateLimit i.recentCount i.rateWindowSecs i.rateLimit)
      else .ok ()

/-- `decide`: the first gate that is closed, in the order of the source. -/
def decide (i : GateInputs) : Except BlockReason Unit :=
  match i.protectedInterface with
  | some interface => .error (.protectedInterface interface)
  | none =>
    if i.trigger = .automatic ∧ i.automaticActionsEnabled = false then .error .automaticDisabled
    else if i.requireVerification = true ∧ i.hasVerifyStep = false ∧ i.trigger = .automatic then
      .error .noVerifyStep
    else if i.globalMaintenanceLock then .error .maintenanceLock
    else if i.deviceLocked then .error .deviceLocked
    else if i.trigger ≠ .rollback then throttle i
    else .ok ()

/-- The reads of an execution behind the fence, each a statement or a few that ask for the
same. -/
inductive Gate where
  /-- The mode and the switch, read again. -/
  | mode | automatic
  /-- `validate_execution_authorization`: the rows of its kind, what they ask for besides, the
  template, the sibling and the window. -/
  | authority | current | template | sibling | window
  /-- `load_prepared_action`, and the identity of a device that is only tested. -/
  | snapshot | identity
  /-- `gather`, and the decision. -/
  | protectedInterface | automaticSwitch | maintenance | locks | changeWindow | deviceCooldown
  | ruleCooldown | rate | decision
  /-- `reachable_for_mitigation`. -/
  | reachable | stable
  /-- `reserve_slot`: the gates it reads again, and the rest. -/
  | slotMaintenance | slotLocks | slot
deriving DecidableEq

/-- Their order. -/
def gates : List Gate :=
  [.mode, .automatic, .authority, .current, .template, .sibling, .window, .snapshot, .identity,
    .protectedInterface, .automaticSwitch, .maintenance, .locks, .changeWindow, .deviceCooldown,
    .ruleCooldown, .rate, .decision, .reachable, .stable, .slotMaintenance, .slotLocks, .slot]

/-- What the statements of a gate come to, besides what is in the policy. -/
structure Answer where
  /-- A statement failed. -/
  fault : Option Text := none
  /-- All else that is asked for holds. -/
  holds : Bool := true
  interface : Option Text := none
  until_ : Option ℤ := none
  count : ℕ := 0

/-- How far an execution is. -/
inductive Phase where
  /-- It waits for the fence. -/
  | waiting
  | reading (left : List Gate) (inputs : GateInputs)
  /-- It has its reservation, and sends commands until they are verified. -/
  | running

/-- The gates it has not read. -/
def Phase.left : Phase → List Gate
  | waiting => gates
  | reading left _ => left
  | running => []

/-- An execution that has read the mode once, and by what authority it acts. -/
structure Execution where
  req : ActionRequest
  unattended : Bool
  /-- The trigger of its bundle was misread. -/
  misread : Bool
  phase : Phase

section Checks

/-- `anyhow::ensure!` in `validate_execution_authorization`. -/
def ensure (c : Bool) (e : AuthorizationError) : Except AuthorizationError Unit :=
  if c then .ok () else .error e

/-- What a statement finds, if it does not fail. -/
def Answer.asks (a : Answer) (c : Bool) (e : AuthorizationError) : Except AuthorizationError Unit :=
  if a.fault.isSome then .error .notRead else ensure (c && a.holds) e

/-- The rows that `validate_execution_authorization` asks for, by the kind of the authority. -/
def validateAuthority (p : PolicyRows) (req : ActionRequest) (auth : Authorization) (a : Answer) :
    Except AuthorizationError Unit :=
  match auth.kind with
  | .manual => do
    ensure (req.trigger = .manual || req.trigger = .rollback) .trigger
    ensure auth.planId.isSome .noPlan
    ensure req.userId.isSome .noActor
    a.asks true .notRunnable
  | .manualBundle => do
    ensure (req.trigger = .manual) .trigger
    ensure auth.bundleId.isSome .noBundle
    ensure req.userId.isSome .noActor
    a.asks true .notRunnable
  | .automatic => do
    ensure (req.trigger = .automatic) .trigger
    ensure auth.bundleId.isSome .noBundle
    a.asks (p.ruleAllows req auth) .notRunnable
  | .recovery => do
    ensure (req.trigger = .rollback) .trigger
    ensure auth.bundleId.isSome .noBundle
    ensure req.rollbackOf.isSome .noOriginal
    a.asks (p.ruleAllows req auth) .notRunnable
  | .compensation => do
    ensure (req.trigger = .rollback) .trigger
    ensure auth.bundleId.isSome .noBundle
    ensure req.rollbackOf.isSome .noOriginal
    a.asks true .notRunnable
  | .manualRecovery => do
    ensure (req.trigger = .rollback) .trigger
    ensure auth.bundleId.isSome .noBundle
    ensure req.rollbackOf.isSome .noOriginal
    ensure req.userId.isSome .noActor
    a.asks true .notRunnable

/-- What they ask for besides: of an operator's action the rule, and of a rollback of his that the
original can be inverted; of what a rule does by itself the evidence. -/
def validateCurrent (p : PolicyRows) (req : ActionRequest) (auth : Authorization) (a : Answer) :
    Except AuthorizationError Unit :=
  match auth.kind with
  | .manual =>
    if req.trigger = .rollback then do
      ensure req.rollbackOf.isSome .noOriginal
      a.asks true .notInvertible
    else if req.ruleId.isSome then a.asks (p.ruleAllows req auth) .ruleChanged
    else .ok ()
  | .manualBundle =>
    if req.ruleId.isSome then a.asks (p.ruleAllows req auth) .ruleChanged else .ok ()
  | .automatic | .recovery => if req.ruleId.isSome then a.asks true .evidence else .ok ()
  | .compensation | .manualRecovery => .ok ()

/-- The template of an action that is no rollback, as it is now. -/
def validateTemplate (req : ActionRequest) (a : Answer) : Except AuthorizationError Unit :=
  if req.rollbackOf.isNone then a.asks true .templateChanged else .ok ()

/-- The prepared sibling. -/
def validateSibling (req : ActionRequest) (auth : Authorization) (a : Answer) :
    Except AuthorizationError Unit :=
  if auth.snapshotActionId.isSome then a.asks true .siblingMismatch
  else ensure req.bundle.isNone .siblingMissing

/-- The part of `validate_execution_authorization` that a gate is. -/
def validate (p : PolicyRows) (req : ActionRequest) (a : Answer) :
    Gate → Authorization → Except AuthorizationError Unit
  | .authority, auth => do
    ensure (Text.trim auth.ownerToken ≠ []) .emptyOwner
    validateAuthority p req auth a
  | .current, auth => validateCurrent p req auth a
  | .template, _ => validateTemplate req a
  | .sibling, auth => validateSibling req auth a
  | _, _ => a.asks true .window

/-- It is asked of an authorization that there is one. -/
def authorize (p : PolicyRows) (req : ActionRequest) (a : Answer) (g : Gate) :
    Except Refusal Unit :=
  match req.authorization with
  | none => .error (.authorization .missing)
  | some auth =>
    match validate p req a g auth with
    | .ok () => .ok ()
    | .error e => .error (.authorization e)

/-- A reading of `gather` that blocks where it fails. -/
def Answer.reading {α : Type} (a : Answer) (value : α) : Except Refusal α :=
  match a.fault with
  | some error => .error (.guard (.gateReadFailed error))
  | none => .ok value

/-- A gate that is open or closed. -/
def closed (c : Bool) (r : Refusal) (i : GateInputs) : Except Refusal GateInputs :=
  if c then .error r else .ok i

/-- One gate: why the action is blocked, or what is known behind it. -/
def Gate.read (cfg : Config) (p : PolicyRows) (x : Execution) (a : Answer) (i : GateInputs) :
    Gate → Except Refusal GateInputs
  | mode =>
    closed (x.unattended && (operatingMode cfg.defaults a.fault.isSome p.settings ≠ .enforce))
      .observing i
  | automatic =>
    closed (x.unattended && !boolSetting a.fault.isSome p.settings .automaticActionsEnabled
      cfg.defaults.automaticActionsEnabled) .automaticActionsDisabled i
  | authority => (authorize p x.req a .authority).map fun _ => i
  | current => (authorize p x.req a .current).map fun _ => i
  | template => (authorize p x.req a .template).map fun _ => i
  | sibling => (authorize p x.req a .sibling).map fun _ => i
  | window => (authorize p x.req a .window).map fun _ => i
  | snapshot => closed (a.fault.isSome || !a.holds) .snapshot i
  | identity =>
    if x.req.verificationMode = .configurationOnly then
      if x.unattended || x.req.ruleId.isSome then .error .configurationOnlyAuthority
      else closed (a.fault.isSome || !a.holds) .configurationOnlyIdentity i
    else .ok i
  | protectedInterface => a.reading { i with protectedInterface := a.interface }
  | automaticSwitch =>
    .ok { i with
      automaticActionsEnabled := x.req.trigger ≠ .automatic ||
        boolSetting a.fault.isSome p.settings .automaticActionsEnabled
          cfg.defaults.automaticActionsEnabled }
  | maintenance =>
    .ok { i with
      globalMaintenanceLock := boolSetting a.fault.isSome p.settings .globalMaintenanceLock false }
  | locks => .ok { i with deviceLocked := a.fault.isSome || p.blocked x.req.device }
  | changeWindow => .ok { i with deviceLocked := i.deviceLocked || a.fault.isSome || !a.holds }
  | deviceCooldown => a.reading { i with deviceCooldownUntil := a.until_ }
  | ruleCooldown =>
    if x.req.ruleId.isSome then
      a.reading { i with ruleId := x.req.ruleId, ruleCooldownUntil := a.until_ }
    else .ok i
  | rate =>
    .ok { i with
      rateLimit := cfg.rateLimit
      rateWindowSecs := cfg.rateWindow
      recentCount :=
        if 0 < cfg.rateLimit ∧ x.req.bundle.isNone then countOrMax a.fault.isSome a.count else 0 }
  | decision =>
    match Fence.decide i with
    | .ok () => .ok i
    | .error reason => .error (.guard reason)
  | reachable =>
    closed (!a.holds) (.guard (.deviceUnreachable (a.fault.getD "no SSH response"))) i
  | stable => closed (x.req.trigger = .automatic && !a.holds) (.guard .deviceStabilizing) i
  | slotMaintenance => do
    let on ← a.reading (Policy.slotMaintenance p.settings)
    closed on (.guard .maintenanceLock) i
  | slotLocks => do
    let on ← a.reading (p.blocked x.req.device)
    closed on (.guard .deviceLocked) i
  | slot => closed (a.fault.isSome || !a.holds) .reservation i

/-- `GateInputs::clear`, with what the plan and the configuration say. -/
def clear (cfg : Config) (req : ActionRequest) : GateInputs where
  trigger := req.trigger
  hasVerifyStep := req.authorization.isSome
  requireVerification := cfg.requireVerification

end Checks

/-! ### The system -/

/-- What somebody is at. -/
inductive Work where
  | execution (x : Execution)
  /-- A request to change the settings, which may have read them. -/
  | settings (body : SettingsBody) (before : Option Settings)
  /-- Anything else that holds the fence. -/
  | other

/-- It holds the fence. -/
def Work.fenced : Work → Bool
  | execution ⟨_, _, _, .waiting⟩ => false
  | _ => true

/-- The policy, the fence and all who are at work. -/
structure State where
  policy : PolicyRows := { settings := seeds }
  holder : Option ℕ := none
  work : ℕ → Option Work := fun _ => none

/-- What may happen. -/
inductive Event where
  /-- An execution reads the mode and its authority, either of which may fail. -/
  | start (i : ℕ) (req : ActionRequest) (dryRun : Bool) (fault misread : Bool)
  /-- It gets the fence. -/
  | enter (i : ℕ)
  | read (i : ℕ) (a : Answer)
  /-- `PUT /api/settings` gets the fence. -/
  | openSettings (i : ℕ) (body : SettingsBody)
  | readSettings (i : ℕ)
  | commitSettings (i : ℕ) (session : Session) (committed : Bool)
  | lockGlobal
  | clearGlobal
  /-- A request, or the audit of the inventory, rewrites or deletes a rule. -/
  | editRule (id : ℕ) (row : Option RulePolicy)
  | reconcile (reroute : ℕ)
  /-- Any other work gets the fence. -/
  | hold (i : ℕ)
  /-- Work ends, or is given up. -/
  | leave (i : ℕ)
  | raise (device reroute : ℕ) (kind : LockKind)
  | createRule (id : ℕ) (row : RulePolicy)
  | publish (id : ℕ) (row : BundleSource)
  | crash

namespace State

variable (s : State)

/-- Somebody goes on. -/
def put (i : ℕ) (w : Work) : State := { s with work := Function.update s.work i (some w) }

/-- He gets the fence. -/
def grant (i : ℕ) : State := { s with holder := some i }

/-- He ends, and the fence is free if he had it. -/
def leave (i : ℕ) : State :=
  { s with
    holder := if s.holder = some i then none else s.holder
    work := Function.update s.work i none }

/-- The policy is another. -/
def set (p : PolicyRows) : State := { s with policy := p }

/-- A change of the policy under the fence, in one transaction. -/
def fenced (p : PolicyRows) : State := if s.holder.isNone then s.set p else s

end State

/-- The rule of a bundle is deleted: its `rule_id` is `NULL`. -/
def BundleSource.detach (id : ℕ) (b : BundleSource) : BundleSource :=
  { b with ruleId := b.ruleId.filter (· ≠ id) }

/-- A rule is rewritten, or deleted. -/
def PolicyRows.editRule (p : PolicyRows) (id : ℕ) (row : Option RulePolicy) : PolicyRows :=
  { p with
    rules := Function.update p.rules id row
    bundles := if row.isNone then fun b => (p.bundles b).map (BundleSource.detach id)
      else p.bundles }

/-- The row of the bundle that an authorization names is there. -/
def named (p : PolicyRows) (req : ActionRequest) : Bool :=
  (req.authorization.bind Authorization.bundleId).all fun id => (p.bundles id).isSome

/-- An execution before the fence: a preview is over at once. -/
def start (cfg : Config) (p : PolicyRows) (req : ActionRequest) (dryRun fault misread : Bool) :
    Option Execution :=
  if !req.templateEnabled || (req.trigger = .automatic && !req.automaticAllowed) then none
  else
    let unattended := authorityIsUnattended p.bundles misread req.authorization
    if dryRun || (operatingMode cfg.defaults fault p.settings ≠ .enforce && unattended) then none
    else some ⟨req, unattended, misread, .waiting⟩

/-- One event. An event that is not enabled leaves the state as it is. -/
def step (cfg : Config) (s : State) : Event → State
  | .start i req dryRun fault misread =>
    if (s.work i).isNone && named s.policy req then
      match start cfg s.policy req dryRun fault misread with
      | some x => s.put i (.execution x)
      | none => s
    else s
  | .enter i =>
    match s.work i with
    | some (.execution ⟨req, unattended, misread, .waiting⟩) =>
      if s.holder.isNone then
        (s.put i (.execution ⟨req, unattended, misread, .reading gates (clear cfg req)⟩)).grant i
      else s
    | _ => s
  | .read i a =>
    match s.work i with
    | some (.execution ⟨req, unattended, misread, .reading (g :: left) inputs⟩) =>
      match
        g.read cfg s.policy ⟨req, unattended, misread, .reading (g :: left) inputs⟩ a inputs
      with
      | .error _ => s.leave i
      | .ok inputs' => s.put i (.execution ⟨req, unattended, misread, .reading left inputs'⟩)
    | some (.execution ⟨req, unattended, misread, .reading [] _⟩) =>
      s.put i (.execution ⟨req, unattended, misread, .running⟩)
    | _ => s
  | .openSettings i body =>
    if (s.work i).isNone && s.holder.isNone then (s.put i (.settings body none)).grant i else s
  | .readSettings i =>
    match s.work i with
    | some (.settings body none) => s.put i (.settings body (some s.policy.settings))
    | _ => s
  | .commitSettings i session committed =>
    match s.work i with
    | some (.settings body (some before)) =>
      match update cfg.defaults before session body with
      | .error _ => s.leave i
      | .ok cs =>
        if committed then
          (s.set { s.policy with settings := write s.policy.settings cs }).leave i
        else s.leave i
    | _ => s
  | .lockGlobal =>
    s.fenced { s.policy with locks := s.policy.locks ++ [⟨.global, none, .manual, false⟩] }
  | .clearGlobal =>
    s.fenced { s.policy with
      locks := Table.update (fun l => l.scope = .global && !l.cleared)
        (fun l => { l with cleared := true }) s.policy.locks }
  | .editRule id row =>
    if (s.policy.rules id).isSome then s.fenced (s.policy.editRule id row) else s
  | .reconcile reroute =>
    s.fenced { s.policy with
      locks := Table.update (fun l => l.reroute = some reroute && !l.cleared &&
        (l.kind = .autoCrash || l.kind = .autoUncertain)) (fun l => { l with cleared := true })
        s.policy.locks }
  | .hold i => if (s.work i).isNone && s.holder.isNone then (s.put i .other).grant i else s
  | .leave i => s.leave i
  | .raise device reroute kind =>
    s.set { s.policy with
      locks := s.policy.locks ++ [⟨.device device, some reroute, kind, false⟩] }
  | .createRule id row =>
    if (s.policy.rules id).isNone then
      s.set { s.policy with rules := Function.update s.policy.rules id (some row) }
    else s
  | .publish id row =>
    if (s.policy.bundles id).isNone then
      s.set { s.policy with bundles := Function.update s.policy.bundles id (some row) }
    else s
  | .crash => { policy := s.policy }

/-! ### What a gate has found -/

/-- What a gate that lets an action pass has found of the policy. -/
def Gate.Holds (cfg : Config) (req : ActionRequest) (unattended : Bool) (p : PolicyRows) :
    Gate → Prop
  | mode => unattended = true → Armed cfg.defaults p.settings .mode
  | automatic => unattended = true → Armed cfg.defaults p.settings .automatic
  | template => req.authorization.isSome = true
  | authority => ∀ auth ∈ req.authorization,
      auth.kind ≠ .manual → auth.kind ≠ .manualBundle → p.ruleAllows req auth = true
  | current => ∀ auth ∈ req.authorization,
      auth.kind = .manual ∨ auth.kind = .manualBundle → p.ruleAllows req auth = true
  | slotMaintenance => Policy.slotMaintenance p.settings = false
  | slotLocks => p.globallyLocked = false
  | _ => True

section Reads

variable {cfg : Config} {p : PolicyRows} {x : Execution} {req : ActionRequest}
  {auth : Authorization} {a : Answer} {i i' : GateInputs} {g : Gate}

theorem eq_false_of_closed {c : Bool} {r : Refusal} (h : closed c r i = .ok i') : c = false := by
  unfold closed at h
  split_ifs at h with hc
  exact Bool.eq_false_iff.mpr hc

theorem eq_of_reading {α : Type} {value found : α} (h : a.reading value = .ok found) :
    value = found := by
  unfold Answer.reading at h
  split at h
  · cases h
  · exact Except.ok.inj h

theorem holds_of_asks {c : Bool} {e : AuthorizationError} (h : a.asks c e = .ok ()) : c = true := by
  unfold Answer.asks ensure at h
  split_ifs at h with hfault hc
  exact (Bool.and_eq_true_iff.mp hc).1

/-- The last of two checks has been made. -/
theorem ok_of_ensure {c : Bool} {e : AuthorizationError} {rest : Except AuthorizationError Unit}
    (h : (do ensure c e; rest) = .ok ()) : rest = .ok () := by
  unfold ensure at h
  split_ifs at h
  · exact h
  · cases h

theorem ruleAllows_of_validateAuthority (h : validateAuthority p req auth a = .ok ())
    (hmanual : auth.kind ≠ .manual) (hbundle : auth.kind ≠ .manualBundle) :
    p.ruleAllows req auth = true := by
  cases hkind : auth.kind with
  | manual => exact absurd hkind hmanual
  | manualBundle => exact absurd hkind hbundle
  | automatic =>
    rw [validateAuthority, hkind] at h
    exact holds_of_asks (ok_of_ensure (ok_of_ensure h))
  | recovery =>
    rw [validateAuthority, hkind] at h
    exact holds_of_asks (ok_of_ensure (ok_of_ensure (ok_of_ensure h)))
  | compensation => rw [PolicyRows.ruleAllows, hkind]
  | manualRecovery => rw [PolicyRows.ruleAllows, hkind]

theorem ruleAllows_of_validateCurrent (h : validateCurrent p req auth a = .ok ())
    (hkind : auth.kind = .manual ∨ auth.kind = .manualBundle) : p.ruleAllows req auth = true := by
  rcases hkind with hkind | hkind
  · rw [PolicyRows.ruleAllows, hkind]
    dsimp only
    by_cases htrigger : req.trigger = .manual
    · cases hrule : req.ruleId with
      | none => rw [Option.all_none, Bool.or_true]
      | some rule =>
        rw [validateCurrent, hkind, if_neg (by rw [htrigger]; exact fun h => by cases h),
          if_pos (by rw [hrule]; rfl)] at h
        have hallows := holds_of_asks h
        rwa [PolicyRows.ruleAllows, hkind, hrule] at hallows
    · simp [htrigger]
  · rw [PolicyRows.ruleAllows, hkind]
    dsimp only
    cases hrule : req.ruleId with
    | none => rw [Option.all_none]
    | some rule =>
      rw [validateCurrent, hkind] at h
      dsimp only at h
      rw [if_pos (by rw [hrule]; rfl)] at h
      have hallows := holds_of_asks h
      rwa [PolicyRows.ruleAllows, hkind, hrule] at hallows

theorem exists_of_authorize (h : ((authorize p req a g).map fun _ => i) = .ok i') :
    ∃ auth, req.authorization = some auth ∧ validate p req a g auth = .ok () := by
  unfold authorize at h
  split at h
  · cases h
  next auth hauth =>
    split at h
    next hvalidate => exact ⟨auth, hauth, hvalidate⟩
    next => cases h

theorem operatingMode_eq_enforce {cfg : SafetyDefaults} {fault : Bool} {settings : Settings}
    (h : operatingMode cfg fault settings = .enforce) : Armed cfg settings .mode := by
  cases fault with
  | false => exact h
  | true =>
    rw [operatingMode, if_pos rfl] at h
    cases h

theorem boolSetting_automatic {fault : Bool} {settings : Settings} {default : Bool}
    (h : boolSetting fault settings .automaticActionsEnabled default = true) :
    boolSetting false settings .automaticActionsEnabled default = true := by
  cases fault with
  | false => exact h
  | true =>
    rw [boolSetting, if_pos rfl] at h
    exact absurd h (by decide)

/-- **What a gate that lets an action pass has found.** -/
theorem Gate.holds_of_read (h : g.read cfg p x a i = .ok i') :
    g.Holds cfg x.req x.unattended p := by
  cases g with
  | mode =>
    intro hunattended
    have hopen := eq_false_of_closed h
    rw [hunattended, Bool.true_and, decide_eq_false_iff_not, not_not] at hopen
    exact operatingMode_eq_enforce hopen
  | automatic =>
    intro hunattended
    have hopen := eq_false_of_closed h
    rw [hunattended, Bool.true_and, Bool.not_eq_false'] at hopen
    exact boolSetting_automatic hopen
  | authority =>
    obtain ⟨auth, hauth, hvalidate⟩ := exists_of_authorize h
    intro auth' hauth' hmanual hbundle
    obtain rfl := Option.some.inj (hauth.symm.trans hauth')
    exact ruleAllows_of_validateAuthority (ok_of_ensure hvalidate) hmanual hbundle
  | current =>
    obtain ⟨auth, hauth, hvalidate⟩ := exists_of_authorize h
    intro auth' hauth' hkind
    obtain rfl := Option.some.inj (hauth.symm.trans hauth')
    exact ruleAllows_of_validateCurrent hvalidate hkind
  | template =>
    obtain ⟨auth, hauth, -⟩ := exists_of_authorize h
    exact Option.isSome_iff_exists.mpr ⟨auth, hauth⟩
  | slotMaintenance =>
    obtain ⟨on, hread, hclosed⟩ := bind_eq_ok.mp h
    obtain rfl := eq_of_reading hread
    exact eq_false_of_closed hclosed
  | slotLocks =>
    obtain ⟨on, hread, hclosed⟩ := bind_eq_ok.mp h
    obtain rfl := eq_of_reading hread
    exact p.globallyLocked_of_blocked (eq_false_of_closed hclosed)
  -- the other gates look at what the fence does not promise
  | _ => trivial

end Reads

end Fence

end Rerouter
