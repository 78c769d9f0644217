import Mathlib.Logic.Function.Basic
import Rerouter.DevicePlan
import Rerouter.RecoveryRuns

/-!
# Manual admission

An operator starts work in three ways, all in `api/manual_mitigations.rs`. He confirms a preview
(`accept_plan`), which is stored as an execution plan; he runs a set of actions at once
(`admit_direct_apply`), under a request id of the client's; or he recovers a whole run at once
(`admit_direct_recovery`). Each publishes a bundle, and each may be asked for the same bundle again:
a client that got no answer repeats its request.

A call waits for the policy fence, reads under it whether its bundle is there already, and inserts
the bundle where it is not. The three tell a repetition in three ways: by the row of the plan
(`Rerouter.Manual.AcceptPlan.read`), by the request id in the source of the bundles
(`Rerouter.Manual.DirectApply.read`), and by an association of the source that is not settled
(`Rerouter.Manual.DirectRecovery.read`). The worker that runs the actions is started when the call
has come back with a bundle that it made itself.

A system of such calls is `Rerouter.Manual.System`: any number of them, each wherever it is, and
whatever else the program does in between (`Rerouter.Manual.step`).
-/

namespace Rerouter.Manual

open Table

/-! ### What is admitted -/

/-- `kind` of a source. -/
inductive SourceKind where
  | manual | preset | rule | ruleClear | rollback | bundleRevert | recovery
deriving DecidableEq

/-- `source_json` of a run, the parts that an admission reads. -/
structure Source where
  kind : Option SourceKind := none
  presetId : Option ℕ := none
  presetRevision : Option ℕ := none
  ruleId : Option ℕ := none
  actionsRevision : Option ℕ := none
  originalRerouteId : Option ℕ := none
  originalBundleId : Option ℕ := none
  originalRerouteIds : Option (List ℕ) := none
  /-- `revert_after_seconds`: absent, null, or a number. -/
  revertAfterSeconds : Option (Option ℕ) := none
deriving DecidableEq

/-- `BundleAction`, before it runs. -/
structure DraftAction where
  device : ℕ
  templateName : Text
  prepared : Option PreparedDeviceAction := none
  originalRerouteId : Option ℕ := none
deriving DecidableEq

/-- `RunSnapshot`. -/
structure RunSnapshot where
  mode : PlanMode
  actions : List DraftAction
  deviceActions : List PreparedDeviceAction
  source : Source
  revertAfterSeconds : Option ℕ := none
deriving DecidableEq

/-- `scope` of a plan. -/
inductive PlanScope where
  | manualMitigation | legacyManual | ruleApply | ruleClear | rerouteRollback | bundleRevert
deriving DecidableEq

/-- A row of `execution_plans`: a preview. -/
structure PlanRow where
  id : ℕ
  user : ℕ
  scope : PlanScope
  scopeId : Option ℕ
  snapshot : RunSnapshot
  planHash : Text
  tokenHash : Text
  expiresAt : ℕ
  /-- `consumed_at IS NOT NULL`. -/
  consumed : Bool := false
  /-- `bundle_id`: the run it was accepted as. -/
  bundle : Option ℕ := none
deriving DecidableEq

/-- `preparation_phase` of a direct run. -/
inductive PreparationPhase where
  | published | preparing
deriving DecidableEq

/-! ### Calls -/

/-- A call of `accept_plan`. -/
structure AcceptPlan where
  plan : ℕ
  actor : ℕ
  token : Text
  scope : PlanScope
  scopeId : Option ℕ
deriving DecidableEq

/-- A call of `admit_direct_apply`, of a resolved request. -/
structure DirectApply where
  actor : ℕ
  requestId : Text
  source : Source
  actions : List DraftAction
  revertAfterSeconds : Option ℕ
  mode : PlanMode
deriving DecidableEq

/-- A call of `admit_direct_recovery`. -/
structure DirectRecovery where
  actor : ℕ
  source : ℕ
  reason : Text
  requestId : Text
deriving DecidableEq

/-- A call. -/
inductive Request where
  | acceptPlan (r : AcceptPlan)
  | directApply (r : DirectApply)
  | directRecovery (r : DirectRecovery)
deriving DecidableEq

/-- The plan that a call consumes. -/
def Request.plan : Request → Option ℕ
  | acceptPlan r => some r.plan
  | _ => none

/-- The user and the request id that a direct run is known by. -/
def Request.applyKey : Request → Option (ℕ × Text)
  | directApply r => some (r.actor, r.requestId)
  | _ => none

/-- The run that a call is about to insert. -/
structure NewRun where
  actor : ℕ
  /-- `operator_request_id` of the source. -/
  requestId : Option Text
  source : Source
  mode : PlanMode
  total : ℕ
  parent : Option ℕ
  phase : Option PreparationPhase
  /-- The actions it is to invert, and the runs that these are of. -/
  originals : List ℕ
  sources : List ℕ
deriving DecidableEq

/-- `DirectAdmission`, and what is kept of `AcceptedPlan`. -/
structure Admission where
  bundle : ℕ
  alreadyAdmitted : Bool
deriving DecidableEq

/-- What a call has read. -/
inductive Decision where
  | refused
  /-- There is such a run already. -/
  | existing (bundle : ℕ)
  | fresh (run : NewRun)
deriving DecidableEq

/-- Where a call is. -/
inductive Phase where
  /-- Before the policy fence. -/
  | waiting
  /-- It holds the fence. -/
  | fenced
  /-- It holds the fence, and found no such run. -/
  | checked (run : NewRun)
  /-- It holds the fence, and its transaction is committed. The ledger of a plan is to be
  written. -/
  | committed (bundle : ℕ)
  /-- It gives the fence back. -/
  | leaving (admission : Admission)
  /-- It is back in the handler. -/
  | returned (admission : Admission)
  | done
deriving DecidableEq

/-- A call that holds the policy fence. -/
def Phase.holdsFence : Phase → Bool
  | fenced | checked _ | committed _ | leaving _ => true
  | _ => false

/-- A call with its request. -/
structure Call where
  request : Request
  phase : Phase

/-! ### The tables -/

/-- A bundle that a call inserted: what `reroute_bundles` has of it beyond its
`Rerouter.BundleRow`. -/
structure ManualRow where
  id : ℕ
  run : NewRun
  /-- `preparation_phase`. -/
  phase : Option PreparationPhase
  /-- The call that inserted it, and what it was called with. -/
  creator : ℕ
  request : Request
deriving DecidableEq

/-- What is read of tables and settings that no call writes. -/
structure Outside where
  now : ℕ := 0
  /-- Revisions of the presets, and whether they are archived. -/
  presets : ℕ → Option (ℕ × Bool) := fun _ => none
  /-- `manual_apply_enabled` and `actions_revision` of the rules. -/
  rules : ℕ → Option (Bool × ℕ) := fun _ => none
  /-- `manual_device_cooldown_until`. -/
  cooling : ℕ → Bool := fun _ => false
  /-- `validate_configuration_only_scope`. -/
  configurationOnlyScope : List DraftAction → Bool := fun _ => true
  /-- `source_json` of the bundles that no operator started. -/
  sources : ℕ → Source := fun _ => {}

/-- How far a worker is. -/
inductive Stage where
  | queued
  /-- It runs the actions. -/
  | running
  | gone
deriving DecidableEq

/-- A worker that was started for a bundle, by a call. -/
structure Worker where
  bundle : ℕ
  call : ℕ
  stage : Stage
deriving DecidableEq

/-- The tables, the calls and the workers. -/
structure System where
  db : Db := {}
  plans : List PlanRow := []
  manual : List ManualRow := []
  /-- The `AUTO_INCREMENT` of the bundles. -/
  nextBundle : ℕ := 0
  outside : Outside := {}
  /-- The call that holds the policy fence. -/
  fence : Option ℕ := none
  calls : ℕ → Option Call := fun _ => none
  /-- Every worker that was started. -/
  workers : List Worker := []

/-- `hash_token` and `hash_snapshot`. -/
structure Digests where
  hashToken : Text → Text
  hashSnapshot : RunSnapshot → Text

/-- `manual:plan:{id}`. The texts of the tokens are told apart by what they start with, their
numbers by whether they are even. -/
def planToken (plan : ℕ) : ClaimToken := .minted (2 * plan)

/-- `mdir:` and a random text. -/
def directToken (n : ℕ) : ClaimToken := .minted (2 * n + 1)

/-- A token of a plan. -/
def isPlanToken : ClaimToken → Bool
  | .minted n => n % 2 = 0
  | .legacy _ => false

/-! ### What a call reads -/

/-- The highest id of the bundles that a query finds (`ORDER BY id DESC LIMIT 1`). -/
def newest (ids : List ℕ) : Option ℕ := ids.max?

/-- `canonicalize_source_timer`. -/
def canonicalizeSourceTimer (source : Source) (revertAfterSeconds : Option ℕ) : Source :=
  { source with revertAfterSeconds := revertAfterSeconds.map some }

/-- `source_timer_consistent`. -/
def sourceTimerConsistent (snapshot : RunSnapshot) : Bool :=
  match snapshot.revertAfterSeconds with
  | some seconds => decide (snapshot.source.revertAfterSeconds = some (some seconds))
  | none => snapshot.source.revertAfterSeconds.isNone

/-- `ensure_forward_devices_not_cooling`. -/
def forwardDevicesNotCooling (o : Outside) (actions : List DraftAction) : Bool :=
  (actions.any fun a => a.originalRerouteId.isSome) || actions.all fun a => !o.cooling a.device

/-- A preset that is as the source says. -/
def presetCurrent (o : Outside) (source : Source) (preset : ℕ) : Bool :=
  match o.presets preset with
  | some (revision, false) => decide (some revision = source.presetRevision)
  | _ => false

/-- A rule that is as the source says, and may be applied by hand. -/
def ruleCurrent (o : Outside) (source : Source) (rule : ℕ) : Bool :=
  match o.rules rule with
  | some (true, revision) => decide (some revision = source.actionsRevision)
  | _ => false

/-- What the scope of a plan is about; nothing where the source is not of the scope. -/
def scopeSource (scope : PlanScope) (source : Source) : Option (Option ℕ) :=
  match scope, source.kind with
  | .manualMitigation, some .preset => some source.presetId
  | .manualMitigation, some .manual | .legacyManual, some .manual => some none
  | .ruleApply, some .rule | .ruleClear, some .ruleClear => some source.ruleId
  | .rerouteRollback, some .rollback => some source.originalRerouteId
  | .bundleRevert, some .bundleRevert => some source.originalBundleId
  | _, _ => none

/-- The plan of an action is its own, and the one that was shown. -/
def preparedAsShown (action : DraftAction) (shown : PreparedDeviceAction) : Bool :=
  match action.prepared with
  | none => false
  | some owned =>
    owned.validate.isOk && decide (action.device = owned.device) &&
      decide (action.templateName = owned.templateName) && decide (owned = shown)

/-- `owned_original_ids`, newest first; nothing where the ownership is not proved. -/
def ownedOriginalIds (db : Db) (source : ℕ) : Option (List ℕ) :=
  (ownershipForSources db [source]).map Prod.snd

/-- Everything `accept_plan` asks of a plan that was not accepted yet. -/
def admissible (s : System) (row : PlanRow) : Bool :=
  let snapshot := row.snapshot
  let source := snapshot.source
  sourceTimerConsistent snapshot &&
  (decide (snapshot.mode = .routing) ||
    ((decide (row.scope = .manualMitigation) || decide (row.scope = .bundleRevert) ||
        decide (row.scope = .rerouteRollback)) &&
      snapshot.revertAfterSeconds.isNone && s.outside.configurationOnlyScope snapshot.actions)) &&
  (match scopeSource row.scope source with
    | none => false
    | some id => decide (id = row.scopeId) && (decide (source.kind = some .manual) || id.isSome)) &&
  decide (s.outside.now < row.expiresAt) &&
  source.presetId.all (presetCurrent s.outside source) &&
  (decide (row.scope ≠ .bundleRevert) ||
    match row.scopeId, source.originalRerouteIds with
    | some original, some expected => decide (ownedOriginalIds s.db original = some expected)
    | _, _ => false) &&
  (decide (source.kind ≠ some .rule) || source.ruleId.any (ruleCurrent s.outside source)) &&
  decide (snapshot.actions.length = snapshot.deviceActions.length) &&
  (!snapshot.actions.isEmpty || decide (source.kind = some .ruleClear)) &&
  (snapshot.deviceActions.all fun p => decide (p.mode = snapshot.mode)) &&
  (snapshot.actions.all fun a => a.prepared.any fun p => decide (p.mode = snapshot.mode)) &&
  forwardDevicesNotCooling s.outside snapshot.actions &&
  (snapshot.actions.zip snapshot.deviceActions).all fun p => preparedAsShown p.1 p.2

/-- The originals that the actions of a plan invert. -/
def RunSnapshot.expectedOriginals (snapshot : RunSnapshot) : List ℕ :=
  snapshot.actions.filterMap DraftAction.originalRerouteId

/-- The run of an original: `SELECT bundle_id FROM reroutes WHERE id = … AND rollback_of_reroute_id
IS NULL`. -/
def originalSource (db : Db) (original : ℕ) : Option ℕ :=
  (db.reroute original).bind fun r => if r.rollbackOf.isNone then r.bundle else none

/-- The transaction of `accept_plan`, up to its writes. -/
def AcceptPlan.read (d : Digests) (s : System) (r : AcceptPlan) : Decision :=
  match find PlanRow.id r.plan s.plans with
  | none => .refused
  | some row =>
    if row.user ≠ r.actor ∨ row.scope ≠ r.scope ∨ row.scopeId ≠ r.scopeId ∨
        row.tokenHash ≠ d.hashToken r.token then .refused
    else if row.planHash ≠ d.hashSnapshot row.snapshot then .refused
    else if row.consumed then
      match row.bundle with
      | none => .refused
      | some bundle => .existing bundle
    else if !admissible s row then .refused
    else
      let originals := row.snapshot.expectedOriginals
      match originals.mapM (originalSource s.db) with
      | none => .refused
      | some sources =>
        .fresh
          { actor := r.actor, requestId := none, source := row.snapshot.source,
            mode := row.snapshot.mode, total := row.snapshot.actions.length,
            parent := if row.scope = .bundleRevert then row.scopeId else none,
            phase := none, originals, sources }

/-- The sources of all bundles. -/
def sourceOf (s : System) (bundle : ℕ) : Source :=
  match find ManualRow.id bundle s.manual with
  | some row => row.run.source
  | none => s.outside.sources bundle

/-- A run that may still act, or still owns something. -/
def unfinished (b : BundleRow) : Bool :=
  b.parent.isNone && (decide (0 < b.remaining) || b.state.active ||
      decide (b.lifecycle ≠ .inactive))

/-- The newest unfinished run of the preset or rule that a source is of. -/
def activeRun (s : System) (source : Source) (id : ℕ) : Option ℕ :=
  newest ((s.db.bundles.filter fun b => unfinished b &&
    decide ((if source.kind = some .preset then (sourceOf s b.id).presetId
      else (sourceOf s b.id).ruleId) =
      some id)).map BundleRow.id)

/-- A request id that may be used. -/
def validRequestId (requestId : Text) : Bool :=
  !(Text.trim requestId).isEmpty && decide ((String.ofList requestId).utf8ByteSize ≤ 191)

/-- The runs that were inserted under a request id. -/
def withRequestId (s : System) (actor : ℕ) (requestId : Text) : List ManualRow :=
  s.manual.filter fun row => decide (row.run.actor = actor) && decide (row.run.requestId =
      some requestId)

/-- The transaction of `admit_direct_apply`, up to its writes. -/
def DirectApply.read (s : System) (r : DirectApply) : Decision :=
  match newest ((withRequestId s r.actor r.requestId).map ManualRow.id) with
  | some bundle => .existing bundle
  | none =>
    let id := r.source.presetId <|> r.source.ruleId
    if r.source.kind = some .preset ∧ ¬ id.any (presetCurrent s.outside r.source) then .refused
    else if r.source.kind = some .rule ∧ ¬ id.any (ruleCurrent s.outside r.source) then .refused
    else
      match id.bind (activeRun s r.source) with
      | some bundle => .existing bundle
      | none =>
        if !forwardDevicesNotCooling s.outside r.actions then .refused
        else
          .fresh
            { actor := r.actor, requestId := some r.requestId,
              source := canonicalizeSourceTimer r.source r.revertAfterSeconds, mode := r.mode,
              total := r.actions.length, parent := none, phase := some .published, originals := [],
              sources := [] }

/-- The children of a source whose association is not settled. -/
def unsettledChildren (db : Db) (source : ℕ) : List ℕ :=
  (db.attempts.filter fun m => decide (m.source = source) && !m.settlement.settled).map
    AttemptRow.child

/-- The verification mode that a recovery inherits from its source. -/
def inheritedMode (db : Db) (source : ℕ) : PlanMode :=
  match (db.bundle source).map BundleRow.mode with
  | some .configurationOnly => .configurationOnly
  | _ => .routing

/-- The transaction of `admit_direct_recovery`, up to its writes. -/
def DirectRecovery.read (s : System) (r : DirectRecovery) : Decision :=
  match newest (unsettledChildren s.db r.source) with
  | some bundle => .existing bundle
  | none =>
    match ownershipForSources s.db [r.source] with
    | none => .refused
    | some (_, originals) =>
      if originals = [] then .refused
      else
        .fresh
          { actor := r.actor, requestId := some r.requestId,
            source := { kind := some .recovery, originalBundleId := some r.source,
                        originalRerouteIds := some originals },
            mode := inheritedMode s.db r.source, total := originals.length, parent := some r.source,
            phase := some .published, originals, sources := [r.source] }

/-- What a call asks for before it waits for the fence. -/
def Request.wellFormed : Request → Bool
  | acceptPlan _ => true
  | directApply r => validRequestId r.requestId
  | directRecovery r =>
    !(Text.trim r.reason).isEmpty && decide (r.reason.length ≤ 4000) && validRequestId r.requestId

/-- The reads of a call. -/
def Request.read (d : Digests) (s : System) : Request → Decision
  | acceptPlan r => r.read d s
  | directApply r => r.read s
  | directRecovery r => r.read s

/-! ### What a call writes -/

/-- The token of a claim: that of the plan, or a new one. -/
def Request.claimToken (request : Request) (n : ℕ) : ClaimToken :=
  match request.plan with
  | some plan => planToken plan
  | none => directToken n

/-- `INSERT INTO reroute_bundles`. -/
def insertedBundle (id now : ℕ) (request : Request) (run : NewRun) : BundleRow :=
  { id, createdAt := now, total := run.total, parent := run.parent,
    mode := match run.mode with | .routing => .routing | .configurationOnly => .configurationOnly,
    published := decide (run.phase = some .published) && decide (run.source.kind = some .recovery),
    consumedPlan := request.plan.map fun _ => run.total,
    sourceOriginals := if run.source.kind = some .recovery then run.originals else [] }

/-- The claim of the runs whose actions a bundle inverts. -/
def claimOriginals (db : Db) (child : ℕ) (run : NewRun) (token : ClaimToken) : Option Db :=
  if run.originals = [] then some db
  else claimSourcesForChild db child run.sources run.originals token true

/-- `UPDATE execution_plans SET consumed_at, bundle_id WHERE id = … AND consumed_at IS NULL`. -/
def consumePlan (plans : List PlanRow) (plan bundle : ℕ) : List PlanRow :=
  update (fun p => decide (p.id = plan) && !p.consumed)
    (fun p => { p with consumed := true, bundle := some bundle })
    plans

/-- The plans after the writes of a call. -/
def recordPlan (plans : List PlanRow) (request : Request) (bundle : ℕ) : List PlanRow :=
  match request.plan with
  | some plan => consumePlan plans plan bundle
  | none => plans

/-- The writes of a call and its commit; nothing where the claim fails, and the call with it. -/
def commit (s : System) (call : ℕ) (request : Request) (run : NewRun) (n : ℕ) : Option System :=
  let bundle := s.nextBundle
  (claimOriginals (s.db.addBundle (insertedBundle bundle s.outside.now request run)) bundle run
    (request.claimToken n)).map fun db =>
    { s with
      db
      plans := recordPlan s.plans request bundle
      manual := s.manual ++ [⟨bundle, run, run.phase, call, request⟩]
      nextBundle := bundle + 1 }

/-- What is left of an accepted plan whose ledger was not written, or that was not admitted. -/
def failAccepted (db : Db) (bundle plan : ℕ) : Db :=
  if db.attempts.any fun m => m.child = bundle then
    (finalizeRecoveryChild db bundle .failed (.plan plan)).getD db
  else db.updateBundle bundle (fun b => b.state = .planned) fun b => { b with state := .failed }

/-! ### The system -/

/-- What may happen. A call does one thing at a time; any other call, and the rest of the program,
may do something in between. -/
inductive Event where
  /-- A new call arrives, a repeated one too. -/
  | arrive (call : ℕ) (request : Request)
  /-- `policy_fence`. -/
  | acquire (call : ℕ)
  | read (call : ℕ)
  /-- The transaction writes and commits, or fails with its claim. -/
  | commit (call : ℕ) (random : ℕ)
  /-- `persist_actions` and `admit_bundle` of an accepted plan succeed, or fail. -/
  | ledger (call : ℕ) (ok : Bool)
  /-- The fence is given back, or that fails. -/
  | release (call : ℕ) (ok : Bool)
  /-- The handler starts the worker of a bundle that is new. -/
  | spawn (call : ℕ)
  /-- A worker takes its bundle up. -/
  | work (bundle : ℕ)
  /-- A call ends where it is: its connection broke, or a statement of it failed. -/
  | drop (call : ℕ)
  /-- The process stops. -/
  | stop
  /-- A preview is stored. -/
  | preview (plan : PlanRow)
  /-- Presets, rules, cooldowns and the clock change. -/
  | outside (o : Outside)
  /-- Another part of the program clears the claim of a run. -/
  | unclaim (source : ℕ)
  /-- Any other step of the program. New bundles of it have ids below `counter`. -/
  | elsewhere (e : RecoveryEvent) (counter : ℕ)

/-- What another part of the program leaves of the runs that are claimed: all their actions, and the
inverses that succeeded. These actions are over, and no statement writes to an action that is. -/
def keepsOriginals (old db : Db) : Bool :=
  decide ((db.reroutes.map RerouteRow.id).Nodup) &&
    old.bundles.all fun b => b.claim.isNone ||
      (decide (originals db b.id = originals old b.id) &&
        (originals old b.id).all fun r => !inverted old r.id || inverted db r.id)

/-- A step of another part of the program: the recoveries it starts have bundles and tokens of their
own. -/
def foreign (s : System) (counter : ℕ) : RecoveryEvent → Bool
  | .claim child _ _ token _ =>
    decide (child < s.nextBundle) && (s.manual.all fun row => decide (row.id ≠ child)) &&
      !isPlanToken token
  | .repairLegacy child _ =>
    decide (child < s.nextBundle) && s.manual.all fun row => decide (row.id ≠ child)
  | .finalize _ _ _ => true
  | .elsewhere db =>
    keepsOriginals s.db db && decide (s.nextBundle ≤ counter) && db.bundles.all fun b =>
      decide (b.id < counter)

/-- A call moves on. -/
def System.setPhase (s : System) (call : ℕ) (c : Call) (phase : Phase) : System :=
  { s with calls := Function.update s.calls call (some { c with phase }) }

/-- A call that holds the fence ends. -/
def System.finish (s : System) (call : ℕ) (c : Call) : System :=
  { s.setPhase call c .done with fence := if s.fence = some call then none else s.fence }

/-- A worker takes up a bundle: that of a direct run where it is still published. -/
def System.takeUp (s : System) (w : Worker) : System :=
  let setStage (stage : Stage) (s : System) : System :=
    { s with workers := update (fun v => decide (v = w)) (fun v => { v with stage }) s.workers }
  match find ManualRow.id w.bundle s.manual with
  | none => setStage .gone s
  | some row =>
    match row.phase with
    | none => setStage .running s
    | some phase =>
      if phase = .published ∧ (s.db.bundle w.bundle).any (fun b => b.state = .planned) then
        setStage .running
          { s with
            manual := update (fun r => r.id = w.bundle)
              (fun r => { r with phase := some .preparing }) s.manual }
      else setStage .gone s

/-- One step of a call. -/
def callStep (d : Digests) (s : System) (id : ℕ) (c : Call) : Event → System
  | .acquire _ =>
    if c.phase = .waiting then
      if !c.request.wellFormed then s.setPhase id c .done
      else if s.fence = none then { s.setPhase id c .fenced with fence := some id }
      else s
    else s
  | .read _ =>
    if c.phase = .fenced then
      match c.request.read d s with
      | .refused => s.finish id c
      | .existing bundle => s.setPhase id c (.leaving ⟨bundle, true⟩)
      | .fresh run => s.setPhase id c (.checked run)
    else s
  | .commit _ random =>
    match c.phase with
    | .checked run =>
      if (s.db.attempts.any fun m => m.token = directToken random) then s
      else
        match commit s id c.request run random with
        | none => s.finish id c
        | some t => t.setPhase id c (.committed s.nextBundle)
    | _ => s
  | .ledger _ ok =>
    match c.phase, c.request.plan with
    | .committed bundle, some plan =>
      if ok then s.setPhase id c (.leaving ⟨bundle, false⟩)
      else { s.finish id c with db := failAccepted s.db bundle plan }
    | .committed bundle, none => s.setPhase id c (.leaving ⟨bundle, false⟩)
    | _, _ => s
  | .release _ ok =>
    match c.phase with
    | .leaving admission =>
      if ok then { s.setPhase id c (.returned admission) with fence := none } else s.finish id c
    | _ => s
  | .spawn _ =>
    match c.phase with
    | .returned admission =>
      let s := s.setPhase id c .done
      if admission.alreadyAdmitted then s
      else { s with workers := s.workers ++ [⟨admission.bundle, id, .queued⟩] }
    | _ => s
  | .drop _ => s.finish id c
  | _ => s

/-- The call that an event is a step of. -/
def Event.call : Event → Option ℕ
  | acquire id | read id | commit id _ | ledger id _ | release id _ | spawn id | drop id => some id
  | _ => none

/-- One event. An event that is not enabled leaves the system as it is. -/
def step (d : Digests) (s : System) (e : Event) : System :=
  match e with
  | .arrive id request =>
    if (s.calls id).isSome then s
    else { s with calls := Function.update s.calls id (some ⟨request, .waiting⟩) }
  | .work bundle =>
    match s.workers.find? fun w => decide (w.bundle = bundle) && decide (w.stage = .queued) with
    | none => s
    | some w => s.takeUp w
  | .stop =>
    { s with
      fence := none
      calls := fun id => (s.calls id).map fun c => { c with phase := .done }
      workers := s.workers.map fun w => { w with stage := .gone } }
  | .preview plan =>
    if plan.consumed || (s.plans.any fun p => p.id = plan.id) then s
    else { s with plans := s.plans ++ [plan] }
  | .outside o => { s with outside := o }
  | .unclaim source =>
    { s with db := s.db.updateBundle source (fun _ => true) fun b => { b with claim := none } }
  | .elsewhere e counter =>
    if foreign s counter e then
      { s with db := recoveryStep s.db e, nextBundle := max s.nextBundle counter }
    else s
  | e =>
    match e.call with
    | none => s
    | some id =>
      match s.calls id with
      | none => s
      | some c => callStep d s id c e

end Rerouter.Manual
