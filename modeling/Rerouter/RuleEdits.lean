import Rerouter.BundleRun
import Rerouter.Lib.Run
import Rerouter.RuleState

/-!
# Editing a rule

`api/rules.rs`, as far as it writes rules and their actions, with the drift audit of
`reroute/inventory_audit.rs` and the check that `reroute/executor.rs` makes before an action of
an automatic bundle.

A rule that is *armed* (`automatic_reroute_enabled`) runs its actions when it fires and nobody
asks. What an operator armed is a condition and a list of actions, and every request that writes
one of them takes the rule out of that state and gives it another revision. One request can do
both: `Rerouter.Arming.update` writes a list of assignments, two of which may be to the column
that arms the rule, and the last one counts.

All that a request reads of the routers' inventory is `Rerouter.Arming.Inventory`, which may be
another one for each request.
-/

namespace Rerouter.Arming

open Text

/-! ### Rows -/

/-- The columns of `rules` that say when a rule fires and when it has recovered. -/
structure Condition (V : Type) where
  metric : Text
  operator : Text
  thresholdValue : V
  durationSeconds : ℕ
  consecutiveSamples : ℕ
  recoveryMode : Text
  recoveryThresholdValue : Option V
  recoveryWindowSeconds : Option ℕ
  recoveryConsecutiveSamples : Option ℕ
  flowDirection : Option Text
  flowProtocol : Option ℕ
  flowPort : Option ℕ
  flowPortKind : Option Text
deriving DecidableEq

/-- A row of `rules`, with its rows of `rule_interfaces`. -/
structure RuleRow (V : Type) where
  name : Text
  interfaceId : Option ℕ
  deviceId : Option ℕ
  metricAggregation : Text
  members : List ℕ
  condition : Condition V
  severity : Text
  enabled : Bool
  /-- The rule is armed. -/
  automaticRerouteEnabled : Bool
  automaticRevertEnabled : Bool
  manualApplyEnabled : Bool
  rerouteTemplateId : Option ℕ
  actionsRevision : ℕ := 1
  autoDisarmedReason : Option Text := none
deriving DecidableEq

/-- `rule_actions.inventory_state`. -/
inductive InventoryState where
  | ok
  | drifted
deriving DecidableEq

/-- A row of `rule_actions`. -/
structure RuleAction (P : Type) where
  id : ℕ
  ruleId : ℕ
  rerouteTemplateId : ℕ
  deviceId : ℕ
  params : P
  autoTarget : Option Text
  position : ℕ
  enabled : Bool := true
  inventoryState : InventoryState := .ok
deriving DecidableEq

/-- The columns of `reroute_templates` that are read. -/
structure RerouteTemplate where
  name : Text
  providerType : Text
  enabled : Bool
  automaticAllowed : Bool

/-- The columns of `reroute_bundles` that are read; `actionsRevision` is that of `source_json`. -/
structure RuleBundle where
  id : ℕ
  ruleId : Option ℕ
  trigger : TriggerType
  actionsRevision : Option ℕ
  parent : Option ℕ
  state : BundleState
  lifecycle : Lifecycle
  remaining : ℕ
deriving DecidableEq

/-- The tables. -/
structure RuleDb (P V : Type) where
  rules : ℕ → Option (RuleRow V) := fun _ => none
  actions : List (RuleAction P) := []
  /-- `rule_states.current_state`. -/
  states : ℕ → Option Text := fun _ => none
  bundles : List RuleBundle := []
  templates : ℕ → Option RerouteTemplate
  nextRule : ℕ := 1
  nextAction : ℕ := 1
  nextBundle : ℕ := 1

/-- What is known of the devices, and what is made of parameters with it. -/
structure Inventory (P : Type) where
  device : ℕ → Bool
  /-- The device of an interface. -/
  interface : ℕ → Option ℕ
  /-- `canonicalize_inventory_params`, of a device and a template. -/
  canonicalize : ℕ → ℕ → P → Except Text P
  /-- `prefix_target_is_contained`. -/
  contained : ℕ → ℕ → P → Except Text Bool
  /-- `validate_definition_shape`. -/
  shape : ℕ → P → Except Text Unit
  /-- The parameters with `192.0.2.1/32` for the prefix. -/
  probe : P → P
  /-- The parameters without a prefix. -/
  withoutPrefix : P → P

/-- The status of a response that is an error, and its text. -/
structure Refusal where
  status : ℕ
  message : Text
deriving DecidableEq

variable {P V : Type}

/-- `anyhow::ensure!`, and the checks of a handler. -/
def ensure (c : Bool) (status : ℕ) (message : Text) : Except Refusal Unit :=
  if c then .ok () else .error ⟨status, message⟩

/-- A check of the handler itself. -/
def unprocessable (c : Bool) (message : Text) : Except Refusal Unit := ensure c 422 message

/-! ### Conditions -/

/-- `INTERFACE_METRICS`. -/
def interfaceMetrics : List Text :=
  ["rx_bps", "tx_bps", "rx_pps", "tx_pps", "rx_util_percent", "tx_util_percent", "in_err_rate",
    "out_err_rate", "oper_status"]

/-- The operators a rule may have. -/
def validOperator (operator : Text) : Bool :=
  decide (operator ∈ ([">", "<", ">=", "<=", "==", "!="] : List Text))

/-- `valid_recovery_mode`. -/
def validRecoveryMode (m : Text) : Bool :=
  decide (m ∈ (["auto", "threshold", "manual"] : List Text))

/-- The names of metrics in a message. -/
def joinNames (names : List Text) : Text := List.intercalate ", ".toList names

/-- `RuleBody`. -/
structure RuleBody (V : Type) where
  name : Text
  interfaceId : Option ℕ := none
  metricAggregation : Text := "single"
  interfaceIds : List ℕ := []
  metric : Text
  flowDirection : Option Text := none
  flowProtocol : Option ℕ := none
  flowPort : Option ℕ := none
  flowPortKind : Option Text := none
  operator : Text
  thresholdValue : V
  durationSeconds : Option ℕ := none
  consecutiveSamples : Option ℕ := none
  recoveryMode : Text := "auto"
  recoveryThresholdValue : Option V := none
  recoveryWindowSeconds : Option ℕ := none
  recoveryConsecutiveSamples : Option ℕ := none
  severity : Text := "warning"
  enabled : Bool := true
  automaticRerouteEnabled : Bool := false
  automaticRevertEnabled : Bool := false
  manualApplyEnabled : Bool := false
  rerouteTemplateId : Option ℕ := none

/-- `validate`: the device of the interface, if the rule has one. -/
def validate (inv : Inventory P) (body : RuleBody V) : Except Refusal (Option ℕ) := do
  unprocessable (trim body.name ≠ []) "name is required"
  unprocessable (validOperator body.operator) "unsupported operator"
  if body.metricAggregation = "sum" then
    unprocessable (body.metric ∈ summableMetrics)
      ("a summed rule's metric must be one of: ".toList ++ joinNames summableMetrics)
    unprocessable (body.interfaceIds ≠ [])
      "a summed rule needs at least one interface in interface_ids"
    for iid in body.interfaceIds do
      unprocessable (inv.interface iid).isSome
        ("interface_id ".toList ++ natText iid ++ " does not exist")
    unprocessable (validRecoveryMode body.recoveryMode)
      "recovery_mode must be auto, threshold, or manual"
    return none
  else
    match body.interfaceId with
    | none => .error ⟨422, "interface_id is required"⟩
    | some ifaceId =>
      if isFlowMetric body.metric then
        unprocessable
          (body.flowDirection = some "ingress".toList || body.flowDirection = some "egress".toList)
          "flow_direction must be ingress or egress"
        unprocessable (body.flowPortKind.all fun pk => pk = "src".toList || pk = "dst".toList)
          "flow_port_kind must be src or dst"
        unprocessable (!(body.flowProtocol.isSome && body.flowPort.isNone))
          "flow_protocol currently requires a flow_port selector"
        unprocessable (body.consecutiveSamples.all fun n => n = 0)
          "flow rules use duration_seconds persistence; consecutive_samples must be 0 or omitted"
      else
        unprocessable (body.metric ∈ interfaceMetrics)
          ("metric must be one of: ".toList ++ joinNames interfaceMetrics ++
            ", or flow_pps / flow_bps")
      unprocessable (validRecoveryMode body.recoveryMode)
        "recovery_mode must be auto, threshold, or manual"
      match inv.interface ifaceId with
      | some device => return some device
      | none => .error ⟨422, "interface_id does not exist"⟩

/-- The defaults of a `Config`. -/
structure DetectionDefaults where
  minDurationSeconds : ℕ
  consecutiveSamples : ℕ

/-- The condition of a rule that is created: selectors of flows only with a metric of flows, and
overrides of the recovery only with a threshold. -/
def RuleBody.condition (body : RuleBody V) (cfg : DetectionDefaults) : Condition V :=
  let flow := isFlowMetric body.metric
  let threshold := decide (body.recoveryMode = "threshold")
  { metric := body.metric
    operator := body.operator
    thresholdValue := body.thresholdValue
    durationSeconds := body.durationSeconds.getD (if flow then cfg.minDurationSeconds else 0)
    consecutiveSamples := body.consecutiveSamples.getD (if flow then 0 else cfg.consecutiveSamples)
    recoveryMode := body.recoveryMode
    recoveryThresholdValue := if threshold then body.recoveryThresholdValue else none
    recoveryWindowSeconds := if threshold then body.recoveryWindowSeconds else none
    recoveryConsecutiveSamples := if threshold then body.recoveryConsecutiveSamples else none
    flowDirection := if flow then body.flowDirection else none
    flowProtocol := if flow then body.flowProtocol else none
    flowPort := if flow then body.flowPort else none
    flowPortKind :=
      if flow then body.flowPortKind.or (body.flowPort.map fun _ => "dst".toList) else none }

/-- A template that a rule may name. -/
def knownTemplate (db : RuleDb P V) (id : Option ℕ) : Bool :=
  id.all fun t => (db.templates t).isSome

/-- `create`. -/
def create (db : RuleDb P V) (inv : Inventory P) (cfg : DetectionDefaults) (body : RuleBody V) :
    Except Refusal (RuleDb P V) := do
  let deviceId ← validate inv body
  ensure (knownTemplate db body.rerouteTemplateId) 500 "db_error"
  let isSum := decide (body.metricAggregation = "sum")
  return { db with
    rules := Function.update db.rules db.nextRule (some
      { name := body.name
        interfaceId := if isSum then none else body.interfaceId
        deviceId
        metricAggregation := if isSum then "sum" else "single"
        members := if isSum then body.interfaceIds.dedup else []
        condition := body.condition cfg
        severity := body.severity
        enabled := body.enabled
        automaticRerouteEnabled := body.automaticRerouteEnabled
        automaticRevertEnabled := body.automaticRevertEnabled
        manualApplyEnabled := body.manualApplyEnabled
        rerouteTemplateId := body.rerouteTemplateId })
    nextRule := db.nextRule + 1 }

/-- `RuleUpdate`: what a request says of a column, if anything; a column that may be null is set to
null by `some none`. -/
structure RuleUpdate (V : Type) where
  name : Option Text := none
  metric : Option Text := none
  flowDirection : Option Text := none
  flowProtocol : Option (Option ℕ) := none
  flowPort : Option (Option ℕ) := none
  flowPortKind : Option (Option Text) := none
  operator : Option Text := none
  thresholdValue : Option V := none
  durationSeconds : Option ℕ := none
  consecutiveSamples : Option ℕ := none
  recoveryMode : Option Text := none
  recoveryThresholdValue : Option (Option V) := none
  recoveryWindowSeconds : Option (Option ℕ) := none
  recoveryConsecutiveSamples : Option (Option ℕ) := none
  severity : Option Text := none
  enabled : Option Bool := none
  automaticRerouteEnabled : Option Bool := none
  automaticRevertEnabled : Option Bool := none
  manualApplyEnabled : Option Bool := none
  rerouteTemplateId : Option (Option ℕ) := none

namespace RuleUpdate

variable (body : RuleUpdate V)

/-- `condition_changed`. -/
def conditionChanged : Bool :=
  body.metric.isSome || body.operator.isSome || body.thresholdValue.isSome ||
    body.durationSeconds.isSome || body.consecutiveSamples.isSome || body.recoveryMode.isSome ||
    body.recoveryThresholdValue.isSome || body.recoveryWindowSeconds.isSome ||
    body.recoveryConsecutiveSamples.isSome || body.flowDirection.isSome ||
    body.flowProtocol.isSome || body.flowPort.isSome || body.flowPortKind.isSome

/-- An assignment, if the request says something of the column. -/
def assign {α : Type} (o : Option α) (f : RuleRow V → α → RuleRow V) :
    List (RuleRow V → RuleRow V) :=
  o.toList.map fun v r => f r v

/-- An assignment to a column of the condition. -/
def assignCondition {α : Type} (o : Option α) (f : Condition V → α → Condition V) :
    List (RuleRow V → RuleRow V) :=
  assign o fun r v => { r with condition := f r.condition v }

/-- The assignments of the statement, in their order. -/
def sets : List (RuleRow V → RuleRow V) :=
  assign body.name (fun r v => { r with name := v }) ++
  assignCondition body.metric (fun c v => { c with metric := v }) ++
  assignCondition body.flowDirection (fun c v => { c with flowDirection := some v }) ++
  assignCondition body.flowProtocol (fun c v => { c with flowProtocol := v }) ++
  assignCondition body.flowPort (fun c v => { c with flowPort := v }) ++
  assignCondition body.flowPortKind (fun c v => { c with flowPortKind := v }) ++
  assignCondition body.operator (fun c v => { c with operator := v }) ++
  assignCondition body.thresholdValue (fun c v => { c with thresholdValue := v }) ++
  assignCondition body.durationSeconds (fun c v => { c with durationSeconds := v }) ++
  assignCondition body.consecutiveSamples (fun c v => { c with consecutiveSamples := v }) ++
  assignCondition body.recoveryMode (fun c v => { c with recoveryMode := v }) ++
  assignCondition body.recoveryThresholdValue (fun c v => { c with recoveryThresholdValue := v }) ++
  assignCondition body.recoveryWindowSeconds (fun c v => { c with recoveryWindowSeconds := v }) ++
  assignCondition body.recoveryConsecutiveSamples
    (fun c v => { c with recoveryConsecutiveSamples := v }) ++
  assign body.severity (fun r v => { r with severity := v }) ++
  assign body.enabled (fun r v => { r with enabled := v }) ++
  assign body.automaticRerouteEnabled (fun r v => { r with automaticRerouteEnabled := v }) ++
  assign body.automaticRevertEnabled (fun r v => { r with automaticRevertEnabled := v }) ++
  (if body.automaticRerouteEnabled = some true then
      [fun r => { r with autoDisarmedReason := none }]
    else []) ++
  assign body.manualApplyEnabled (fun r v => { r with manualApplyEnabled := v }) ++
  assign body.rerouteTemplateId (fun r v => { r with rerouteTemplateId := v }) ++
  if body.conditionChanged then
    [fun r => { r with actionsRevision := r.actionsRevision + 1 },
      fun r => { r with automaticRerouteEnabled := false },
      fun r =>
        { r with
          autoDisarmedReason :=
            some "rule condition changed; review and explicitly re-arm".toList }]
  else []

end RuleUpdate

/-- The actions of a rule, in the order of their ids. -/
def RuleDb.actionsOf (db : RuleDb P V) (ruleId : ℕ) : List (RuleAction P) :=
  db.actions.filter fun a => a.ruleId = ruleId

/-- An action that may not run automatically. -/
def unsafeAction (db : RuleDb P V) (a : RuleAction P) : Bool :=
  a.enabled && (db.templates a.rerouteTemplateId).any fun t => !t.enabled || !t.automaticAllowed

/-- The checks of a request that sets a metric. -/
def checkMetric (existing : RuleRow V) (metric : Text) : Except Refusal Unit :=
  if existing.metricAggregation = "sum" then
    unprocessable (metric ∈ summableMetrics) "a summed rule's metric must be a summable rate metric"
  else if isFlowMetric metric then
    unprocessable existing.condition.flowDirection.isSome
      "recreate the rule to switch to a flow metric"
  else
    unprocessable (!(existing.interfaceId.isSome && decide (metric ∉ interfaceMetrics)))
      "unsupported interface metric"

/-- The checks of a request that arms a rule. -/
def checkArming (db : RuleDb P V) (id : ℕ) (body : RuleUpdate V) : Except Refusal Unit :=
  if body.automaticRerouteEnabled ≠ some true then .ok () else do
  unprocessable (Table.count (unsafeAction db) (db.actionsOf id) = 0)
    "one or more enabled actions are not allowed for automatic execution"
  unprocessable
    (Table.count (fun a => a.enabled && a.inventoryState = .drifted) (db.actionsOf id) = 0)
    ("one or more enabled actions no longer match the router's inventory;".toList ++
      "                  fix the action (or the router) ".toList ++
      "and re-run device inventory discovery first")

/-- The checks of `update`, in their order. -/
def checkUpdate (db : RuleDb P V) (id : ℕ) (existing : RuleRow V) (body : RuleUpdate V) :
    Except Refusal Unit := do
  unprocessable (body.operator.all validOperator) "unsupported operator"
  body.metric.elim (.ok ()) (checkMetric existing)
  unprocessable (body.flowPortKind.join.all fun pk => pk = "src".toList || pk = "dst".toList)
    "flow_port_kind must be src or dst"
  unprocessable (body.flowDirection.all fun dir => dir = "ingress".toList || dir = "egress".toList)
    "flow_direction must be ingress or egress"
  unprocessable (!((body.flowProtocol.getD existing.condition.flowProtocol).isSome &&
      (body.flowPort.getD existing.condition.flowPort).isNone))
    "flow_protocol currently requires a flow_port selector"
  unprocessable (!(isFlowMetric (body.metric.getD existing.condition.metric) &&
      decide (0 < body.consecutiveSamples.getD existing.condition.consecutiveSamples)))
    "flow rules use duration_seconds persistence; consecutive_samples must be 0 or omitted"
  unprocessable (body.recoveryMode.all validRecoveryMode)
    "recovery_mode must be auto, threshold, or manual"
  checkArming db id body
  ensure (!((db.states id = some "firing".toList ||
      db.states id = some "recovered_awaiting_revert".toList) &&
      (body.conditionChanged || body.enabled = some false))) 409
    "clear the firing rule and complete its rollback before changing its condition or disabling it"

/-- `update`. -/
def update (db : RuleDb P V) (id : ℕ) (body : RuleUpdate V) : Except Refusal (RuleDb P V) :=
  match db.rules id with
  | none => .error ⟨404, "rule not found"⟩
  | some existing => do
    checkUpdate db id existing body
    ensure (knownTemplate db body.rerouteTemplateId.join) 500 "db_error"
    return { db with
      rules := Function.update db.rules id (some (body.sets.foldl (fun r f => f r) existing))
      states :=
        if body.conditionChanged then Function.update db.states id (some "clear") else db.states }

/-! ### Actions -/

/-- The bundles that keep the actions of a rule from being changed. -/
def holdsActions (ruleId : ℕ) (b : RuleBundle) : Bool :=
  b.ruleId = some ruleId && b.parent.isNone &&
    (decide (0 < b.remaining) || b.state.active || b.state = .compensationBlocked ||
      b.lifecycle ≠ .inactive)

/-- `lock_action_edit`: whether the rule watches flows. -/
def lockActionEdit (db : RuleDb P V) (ruleId : ℕ) (revision : Option ℕ) : Except Text Bool :=
  match db.rules ruleId with
  | none => .error "rule not found"
  | some r =>
    if !(revision.all fun n => n = r.actionsRevision) then
      .error "actions_changed; reload before saving"
    else if (db.states ruleId).getD "clear" ≠ "clear" then
      .error "resolve the firing or matching rule before changing its actions"
    else if Table.count (holdsActions ruleId) db.bundles ≠ 0 then
      .error "reconcile the rule's active or interrupted mitigation before changing its actions"
    else .ok (isFlowMetric r.condition.metric)

/-- `disarm_action_edit`. -/
def disarmActionEdit (db : RuleDb P V) (ruleId : ℕ) : RuleDb P V :=
  { db with
    rules := Function.update db.rules ruleId ((db.rules ruleId).map fun r =>
      { r with
        automaticRerouteEnabled := false
        actionsRevision := r.actionsRevision + 1
        autoDisarmedReason := some "action set changed; review and explicitly re-arm".toList }) }

/-- A refusal to lock the rule is a conflict. -/
def conflicting {α : Type} : Except Text α → Except Refusal α
  | .ok a => .ok a
  | .error e => .error ⟨409, e⟩

/-- A validation that failed. -/
def invalid {α : Type} : Except Text α → Except Refusal α
  | .ok a => .ok a
  | .error e => .error ⟨422, e⟩

/-- `INSERT INTO rule_actions`, of a row but for its id. -/
def insertAction (db : RuleDb P V) (a : RuleAction P) : RuleDb P V :=
  { db with
    actions := db.actions ++ [{ a with id := db.nextAction }], nextAction := db.nextAction + 1 }

/-- `RuleActionBody`. -/
structure RuleActionBody (P : Type) where
  rerouteTemplateId : ℕ
  deviceId : ℕ
  params : P
  position : Option ℕ := none
  autoTarget : Option Text := none

/-- `template_supports_auto_target`. -/
def templateSupportsAutoTarget (name : Text) : Bool :=
  decide (name ∈ (["null_route_prefix", "blackhole_prefix"] : List Text))

/-- `FLOW_DST_HOST`. -/
def flowDstHost : Text := "flow_dst_host"

/-- The target of an action that is added, and its parameters. -/
def addedParams (inv : Inventory P) (r : RuleRow V) (template : RerouteTemplate)
    (body : RuleActionBody P) :
    Except Refusal (Option Text × P) :=
  match body.autoTarget with
  | none => do
    let canonical ← invalid (inv.canonicalize body.deviceId body.rerouteTemplateId body.params)
    return (none, canonical)
  | some target =>
    if target = flowDstHost then do
      unprocessable r.condition.flowDirection.isSome
        "auto-target requires a flow rule (set a flow metric + selector first)"
      unprocessable (templateSupportsAutoTarget template.name)
        "this template does not support auto-target (use a null-route / blackhole template)"
      let canonical ← invalid
        (inv.canonicalize body.deviceId body.rerouteTemplateId (inv.probe body.params))
      return (some flowDstHost, inv.withoutPrefix canonical)
    else .error ⟨422, "unknown auto_target mode"⟩

/-- `add_action`. -/
def addAction (db : RuleDb P V) (inv : Inventory P) (ruleId : ℕ) (body : RuleActionBody P) :
    Except Refusal (RuleDb P V) :=
  match db.rules ruleId, db.templates body.rerouteTemplateId with
  | none, _ => .error ⟨404, "rule not found"⟩
  | some _, none => .error ⟨422, "template not found"⟩
  | some r, some template => do
    unprocessable (template.providerType = "device_cli")
      "only device_cli templates can be attached as rule actions"
    unprocessable template.enabled "template is disabled"
    unprocessable (!(r.automaticRerouteEnabled && !template.automaticAllowed))
      "template is not allowed for automatic execution"
    let (autoTarget, params) ← addedParams inv r template body
    unprocessable (inv.device body.deviceId) "device not found"
    let _ ← conflicting (lockActionEdit db ruleId none)
    return insertAction (disarmActionEdit db ruleId)
      { id := 0, ruleId, rerouteTemplateId := body.rerouteTemplateId, deviceId := body.deviceId,
        params
        position := body.position.getD 0, autoTarget }

/-- `remove_action`. -/
def removeAction (db : RuleDb P V) (ruleId actionId : ℕ) : Except Refusal (RuleDb P V) := do
  let _ ← conflicting (lockActionEdit db ruleId none)
  let removed (a : RuleAction P) := decide (a.id = actionId) && decide (a.ruleId = ruleId)
  ensure (0 < Table.count removed db.actions) 404 "action not found"
  return { disarmActionEdit db ruleId with actions := Table.delete removed db.actions }

/-- `ActionDraft`. -/
structure ActionDraft (P : Type) where
  rerouteTemplateId : ℕ
  deviceId : ℕ
  params : P
  enabled : Bool := true
  autoTarget : Option Text := none

/-- The message of an error of one draft. -/
def atDraft (position : ℕ) (e : Text) : Text :=
  "action ".toList ++ natText (position + 1) ++ ": " ++ e

/-- One draft of `validate_drafts`: the last phase, and the draft in its canonical form. -/
def validateDraft (db : RuleDb P V) (inv : Inventory P) (flowRule : Bool) (position phase : ℕ)
    (d : ActionDraft P) :
    Except Text (ℕ × ActionDraft P) :=
  let fails (c : Bool) (e : Text) : Except Text Unit :=
    if c then .ok () else .error (atDraft position e)
  let context {α : Type} (r : Except Text α) : Except Text α := r.mapError (atDraft position)
  match db.templates d.rerouteTemplateId with
  | none =>
    .error (atDraft position
      ("template unavailable: reroute template ".toList ++
        natText d.rerouteTemplateId ++ " not found"))
  | some template => do
    fails (template.providerType = "device_cli") "unsupported action template"
    fails (inv.device d.deviceId) "router is unavailable"
    let next := safetyPhase template.name
    let ordered := d.enabled && decide (template.name ≠ "bgp_export_policy_set")
    fails (!d.enabled || template.enabled) "template is disabled"
    fails (!ordered || decide (phase ≤ next))
      "additive and preparation actions must precede withdrawals and shutdowns"
    let phase := if ordered then next else phase
    match d.autoTarget.filter (· ≠ []) with
    | some target =>
      fails (flowRule && target = flowDstHost)
        ("automatic flow targets require a flow rule; ".toList ++
          "choose an explicit prefix for a manual mitigation")
      fails (templateSupportsAutoTarget template.name) "template does not support a flow target"
      return (phase, d)
    | none =>
      let params ← context (inv.canonicalize d.deviceId d.rerouteTemplateId d.params)
      let contained ← inv.contained d.deviceId d.rerouteTemplateId params
      fails contained "prefix is outside the router's announced space"
      let _ ← context (inv.shape d.rerouteTemplateId params)
      return (phase, { d with autoTarget := none, params })

/-- The drafts of `validate_drafts`, one after the other. -/
def validateEach (db : RuleDb P V) (inv : Inventory P) (flowRule : Bool) :
    ℕ → ℕ → List (ActionDraft P) → Except Text (List (ActionDraft P))
  | _, _, [] => .ok []
  | position, phase, d :: drafts => do
    let (phase, canonical) ← validateDraft db inv flowRule position phase d
    let rest ← validateEach db inv flowRule (position + 1) phase drafts
    return canonical :: rest

/-- `validate_drafts`. -/
def validateDrafts (db : RuleDb P V) (inv : Inventory P) (drafts : List (ActionDraft P))
    (flowRule : Bool) :
    Except Text (List (ActionDraft P)) :=
  if drafts = [] then .error "at least one action is required"
  else if 256 < drafts.length then .error "a mitigation may contain at most 256 actions"
  else if drafts.all fun d => !d.enabled then .error "at least one action must be enabled"
  else validateEach db inv flowRule 0 0 drafts

/-- `ReplaceActionsBody`, with the revision of the preset it names, unless that is archived. -/
structure ReplaceActionsBody (P : Type) where
  revision : ℕ
  actions : List (ActionDraft P)
  presetId : Option ℕ := none
  presetRevision : Option ℕ := none
  /-- The preset that is stored. -/
  stored : Option ℕ := none

/-- The rows of a set of actions, at the positions from some on. -/
def insertDrafts (ruleId : ℕ) : ℕ → List (ActionDraft P) → RuleDb P V → RuleDb P V
  | _, [], db => db
  | position, d :: drafts, db =>
    insertDrafts ruleId (position + 1) drafts (insertAction db
      { id := 0, ruleId, rerouteTemplateId := d.rerouteTemplateId, deviceId := d.deviceId,
        params := d.params, position
        enabled := d.enabled, autoTarget := d.autoTarget })

/-- The actions that replace those of a rule. -/
def replacement (db : RuleDb P V) (inv : Inventory P) (r : RuleRow V)
    (body : ReplaceActionsBody P) :
    Except Refusal (List (ActionDraft P)) :=
  if body.actions.isEmpty then .ok []
  else invalid (validateDrafts db inv body.actions (isFlowMetric r.condition.metric))

/-- The check of a preset that is imported. -/
def checkPreset (body : ReplaceActionsBody P) : Except Refusal Unit :=
  if body.presetId.isSome then
    ensure (body.stored.isSome && body.stored = body.presetRevision) 409
      "template_changed_or_archived; reload before importing"
  else unprocessable body.presetRevision.isNone "preset_revision requires preset_id"

/-- `replace_actions`. -/
def replaceActions (db : RuleDb P V) (inv : Inventory P) (ruleId : ℕ)
    (body : ReplaceActionsBody P) :
    Except Refusal (RuleDb P V) :=
  match db.rules ruleId with
  | none => .error ⟨404, "rule not found"⟩
  | some r => do
    let actions ← replacement db inv r body
    let _ ← conflicting (lockActionEdit db ruleId (some body.revision))
    checkPreset body
    let emptied : RuleDb P V :=
      { db with actions := Table.delete (fun a => a.ruleId = ruleId) db.actions }
    return disarmActionEdit (insertDrafts ruleId 0 actions emptied) ruleId

/-- `UPDATE rule_actions SET position`, of one id after the other. -/
def setPositions (ruleId : ℕ) : ℕ → List ℕ → List (RuleAction P) → List (RuleAction P)
  | _, [], actions => actions
  | position, id :: order, actions =>
    setPositions ruleId (position + 1) order
      (Table.update (fun a => decide (a.id = id) && decide (a.ruleId = ruleId))
        (fun a => { a with position }) actions)

/-- `reorder_actions`. -/
def reorderActions (db : RuleDb P V) (ruleId : ℕ) (order : List ℕ) :
    Except Refusal (RuleDb P V) := do
  let known := ((db.actionsOf ruleId).map RuleAction.id).insertionSort (· ≤ ·)
  ensure (known ≠ []) 404 "rule has no actions to reorder"
  let submitted := (order.insertionSort (· ≤ ·)).dedup
  unprocessable (submitted.length = order.length) "duplicate action id"
  ensure (submitted = known) 409
    "the submitted order must list exactly this rule's actions; reload and retry"
  let _ ← conflicting (lockActionEdit db ruleId none)
  return { disarmActionEdit db ruleId with actions := setPositions ruleId 0 order db.actions }

/-! ### The drift audit -/

/-- What the audit found out when it started: `ActionRow`. -/
structure AuditedAction where
  id : ℕ
  ruleId : ℕ
  inventoryState : InventoryState

/-- `record_drift`, with the reason a rule is disarmed for: nothing while the rule matches or
fires. -/
def recordDrift (db : RuleDb P V) (a : AuditedAction) (reason : Text) : RuleDb P V :=
  if (db.states a.ruleId).any fun state => state ≠ "clear".toList then db
  else
    { db with
      actions :=
        Table.update (fun x => x.id = a.id) (fun x => { x with inventoryState := .drifted })
          db.actions
      rules := Function.update db.rules a.ruleId ((db.rules a.ruleId).map fun r =>
        if r.automaticRerouteEnabled then
          { r with automaticRerouteEnabled := false, autoDisarmedReason := some reason }
        else r) }

/-- `clear_drift`: the rule stays as it is. -/
def clearDrift (db : RuleDb P V) (a : AuditedAction) : RuleDb P V :=
  if a.inventoryState ≠ .drifted then db
  else
    { db with
      actions :=
        Table.update (fun x => x.id = a.id) (fun x => { x with inventoryState := .ok }) db.actions }

/-! ### Automatic bundles -/

/-- `validate_execution_authorization`, of an action of an automatic bundle. -/
def authorised (db : RuleDb P V) (bundle : ℕ) : Bool :=
  (Table.find RuleBundle.id bundle db.bundles).any fun b =>
    decide (b.trigger = .automatic) && (b.state = .planned || b.state = .running) &&
      b.ruleId.any fun ruleId =>
        decide (db.states ruleId = some "firing") &&
          (db.rules ruleId).any fun r =>
            r.enabled && r.automaticRerouteEnabled &&
              decide (b.actionsRevision = some r.actionsRevision)

/-! ### The system -/

/-- The tables, and the automatic bundle of which an action is on its way to a router. It is from
the moment the action was authorised until it was verified, and as long as it is the policy fence is
held. -/
structure System (P V : Type) where
  db : RuleDb P V
  executing : Option ℕ := none

/-- What happens. The engine and the executor write the states of rules and bundles, here in any
way. -/
inductive Event (P V : Type) where
  | create (inv : Inventory P) (cfg : DetectionDefaults) (body : RuleBody V)
  | update (id : ℕ) (body : RuleUpdate V)
  | addAction (inv : Inventory P) (ruleId : ℕ) (body : RuleActionBody P)
  | removeAction (ruleId actionId : ℕ)
  | replaceActions (inv : Inventory P) (ruleId : ℕ) (body : ReplaceActionsBody P)
  | reorderActions (ruleId : ℕ) (order : List ℕ)
  | recordDrift (a : AuditedAction) (reason : Text)
  | clearDrift (a : AuditedAction)
  | setState (ruleId : ℕ) (state : Option Text)
  /-- A bundle is admitted, of a revision that the engine or an operator read before. -/
  | admission (b : RuleBundle)
  | settle (bundle : ℕ) (state : BundleState) (lifecycle : Lifecycle) (remaining : ℕ)
  /-- An action of an automatic bundle begins, if all other gates are open. -/
  | execute (bundle : ℕ) (gates : Bool)
  | executed

namespace System

/-- The requests that wait for the policy fence, and give up. -/
def fenced (s : System P V) (r : Except Refusal (RuleDb P V)) : Except Refusal (System P V) :=
  if s.executing.isSome then
    .error ⟨409, "safety policy is busy; retry after the active action finishes"⟩
  else r.map fun db => { s with db }

/-- What an event does, unless it is refused. -/
def apply (s : System P V) : Event P V → Except Refusal (System P V)
  | .create inv cfg body => (create s.db inv cfg body).map fun db => { s with db }
  | .update id body => s.fenced (update s.db id body)
  | .addAction inv ruleId body => s.fenced (addAction s.db inv ruleId body)
  | .removeAction ruleId actionId => s.fenced (removeAction s.db ruleId actionId)
  | .replaceActions inv ruleId body => s.fenced (replaceActions s.db inv ruleId body)
  | .reorderActions ruleId order => s.fenced (reorderActions s.db ruleId order)
  | .recordDrift a reason => s.fenced (.ok (recordDrift s.db a reason))
  | .clearDrift a => s.fenced (.ok (clearDrift s.db a))
  | .setState ruleId state =>
    .ok { s with db := { s.db with states := Function.update s.db.states ruleId state } }
  | .admission b =>
    .ok { s with
      db := { s.db with
        bundles := s.db.bundles ++ [{ b with id := s.db.nextBundle }]
        nextBundle := s.db.nextBundle + 1 } }
  | .settle bundle state lifecycle remaining =>
    .ok { s with
      db := { s.db with
        bundles :=
          Table.update (fun b => b.id = bundle) (fun b => { b with state, lifecycle, remaining })
          s.db.bundles } }
  | .execute bundle gates =>
    if s.executing.isSome || !gates || !authorised s.db bundle then
      .error ⟨403, "automatic activation is not runnable"⟩
    else .ok { s with executing := some bundle }
  | .executed => .ok { s with executing := none }

/-- A refusal changes nothing. -/
def step (s : System P V) (e : Event P V) : System P V :=
  match s.apply e with
  | .ok t => t
  | .error _ => s

/-- No rule, no action and no bundle, and some templates. -/
def initial (templates : ℕ → Option RerouteTemplate) : System P V := { db := { templates } }

/-- The state after some events. -/
def after (templates : ℕ → Option RerouteTemplate) (es : List (Event P V)) : System P V :=
  Run.run step (initial templates) es

end System

end Rerouter.Arming
