import Mathlib.Data.Finset.Sort
import Mathlib.Data.Char
import Mathlib.Data.List.Dedup
import Mathlib.Data.List.Lex
import Rerouter.PrefixListPlan

/-!
# Prepared actions

What `reroute/device_plan.rs` knows about an action before it is sent: the states of the device
before and after it (`Rerouter.DeviceStateSnapshot`), its commands, and whether there is
anything to do (`Rerouter.PreparedEffect`). The policies come from the inventory of
`reroute/policy.rs`: prefix lists and route maps, by name.

`Rerouter.preparedSafetyEffect` says whether an export-policy action adds routes to what a peer
is told, withdraws some, or does neither; it is read off the routes the two prefix lists permit
one by one (`Rerouter.exactPermittedPrefixesFromList`).
-/

namespace Rerouter

open Text Ipv4 FirstMatch

/-! ### The policy inventory -/

/-- `PermitDeny`. -/
inductive PermitDeny where
  | permit | deny
deriving DecidableEq

/-- `A.B.C.D/L` as a prefix list of the configuration carries it. -/
def parsePolicyPrefix (s : Text) : Option (Addr × ℕ) := do
  let (ip, len) ← splitOnce '/' s
  let a ← parseAddr ip
  let n ← parseUnsigned 255 len
  if n ≤ 32 then some (a, n) else none

/-- `valid_prefix`. -/
def validPrefix (s : Text) : Bool := (parsePolicyPrefix s).isSome

/-- `policy::PrefixListEntry`. The inventory keeps no entry whose prefix it could not read. -/
structure PolicyEntry where
  sequence : ℕ
  action : PermitDeny
  /-- `prefix`, as the configuration has it. -/
  cidr : Text
  ge : Option ℕ
  le : Option ℕ
  valid : validPrefix cidr = true
deriving DecidableEq

/-- `NamedPrefixList`, without the references, which are cleared from a snapshot. -/
structure NamedPrefixList where
  name : Text
  entries : List PolicyEntry
deriving DecidableEq

/-- `PolicyTerm`: a `match` or a `set` line of a route map. -/
structure PolicyTerm where
  kind : Text
  value : Text
deriving DecidableEq

/-- `RouteMapClause`. `matches` and `sets` are its lines. -/
structure RouteMapClause where
  sequence : ℕ
  action : PermitDeny
  conditions : List PolicyTerm
  sets : List PolicyTerm
deriving DecidableEq

/-- `NamedRouteMap`, without the references. -/
structure NamedRouteMap where
  name : Text
  clauses : List RouteMapClause
deriving DecidableEq

/-- `PolicyKind`. -/
inductive PolicyKind where
  | prefixList | routeMap
deriving DecidableEq

/-! ### Snapshots -/

/-- `PrefixListSnapshotEntry`. -/
structure PrefixListSnapshotEntry where
  sequence : ℕ
  permit : Bool
  cidr : Text
  ge : Option ℕ
  le : Option ℕ
deriving DecidableEq

/-- `PrefixListConsumer`: what applies a prefix list. -/
structure PrefixListConsumer where
  kind : Text
  owner : Text
  direction : Text
deriving DecidableEq

/-- `DeviceStateSnapshot::ExportPolicyAttachment`: the policies a peer's exports pass. -/
structure ExportPolicyAttachment where
  localAsn : ℕ
  neighbor : Text
  addressFamily : Text
  prefixList : Option Text
  routeMap : Option Text
  prefixLists : List NamedPrefixList
  routeMaps : List NamedRouteMap
  /-- The lists whose exact contents authorize the attachment, if they are known. -/
  requiredPrefixLists : Option (List Text)
  /-- The maps, likewise. -/
  requiredRouteMaps : Option (List Text)
deriving DecidableEq

/-- `DeviceStateSnapshot`: a state of a device, of one of the kinds an action is about. -/
inductive DeviceStateSnapshot where
  | prefixList (name : Text) (entries : List PrefixListSnapshotEntry)
      (consumers : List PrefixListConsumer)
  | ipv4StaticRoute (cidr nextHop : Text) (tag : Option ℕ) (present : Bool)
  | ipv6StaticRoute (cidr nextHop : Text) (tag : Option ℕ) (present : Bool)
  | routeResolution (cidr nextHop : Text) (present : Bool)
  | bgpAdvertisement (neighbor cidr : Text) (present : Bool) (community : Option Text)
  | bgpRoute (cidr : Text) (present : Bool) (community : Option Text)
  | neighborShutdown (localAsn : ℕ) (neighbor : Text) (shutdown : Bool)
  | bgpNeighborState (neighbor : Text) (administrativelyShutdown : Bool) (state : Option Text)
  | routeMapAssignment (localAsn : ℕ) (neighbor direction : Text)
      (addressFamily routeMap : Option Text)
  | exportPolicyAttachment (attachment : ExportPolicyAttachment)
  | interfaceAdmin (interface : Text) (shutdown : Bool)
  | interfaceOperational (interface : Text) (administrativelyDown : Bool)
  | interfaceMss (interface : Text) (mss : Option ℕ)
deriving DecidableEq

/-- `PreparedEffect`. -/
inductive PreparedEffect where
  | change | alreadySatisfied
deriving DecidableEq

/-- `VerificationMode`: what an action's verification is about. -/
inductive PlanMode where
  | routing | configurationOnly
deriving DecidableEq

/-- `PreparedInverse`. -/
structure PreparedInverse where
  mode : PlanMode
  expectedCurrent : List DeviceStateSnapshot
  restore : List DeviceStateSnapshot
  commands : List Text
  verify : List DeviceStateSnapshot
deriving DecidableEq

/-- `PREPARED_DEVICE_ACTION_SCHEMA_VERSION`. -/
def preparedDeviceActionSchemaVersion : ℕ := 1

/-- `PreparedDeviceAction`. Of its parameters the kind of policy is kept. -/
structure PreparedDeviceAction where
  schemaVersion : ℕ := preparedDeviceActionSchemaVersion
  device : ℕ
  templateId : ℕ
  templateName : Text
  /-- `canonical_params["policy_kind"]`. -/
  policyKind : Option Text
  mode : PlanMode
  commands : List Text
  before : List DeviceStateSnapshot
  after : List DeviceStateSnapshot
  verify : List DeviceStateSnapshot
  effect : PreparedEffect
  inverse : Option PreparedInverse
deriving DecidableEq

/-- A device and a template that are there: rows are numbered from 1 on, and no template has a blank
name. -/
def Identified (device templateId : ℕ) (templateName : Text) : Prop :=
  device ≠ 0 ∧ templateId ≠ 0 ∧ trim templateName ≠ []

instance {device templateId : ℕ} {templateName : Text} :
    Decidable (Identified device templateId templateName) :=
  inferInstanceAs (Decidable (_ ∧ _ ∧ _))

/-- `PreparedDeviceAction::validate`, on what is kept of an action. -/
def PreparedDeviceAction.validate (a : PreparedDeviceAction) : Except Text Unit :=
  if a.schemaVersion ≠ preparedDeviceActionSchemaVersion then
    .error (("unsupported prepared action schema version " : Text) ++ natText a.schemaVersion)
  else if ¬Identified a.device a.templateId a.templateName then
    .error "prepared action identity is incomplete"
  else if a.effect = .change ∧ (a.commands = [] ∨ a.before = [] ∨ a.after = [] ∨ a.verify = []) then
    .error
      "a changing prepared action needs commands and non-empty before/after/verification evidence"
  else if a.effect = .alreadySatisfied ∧
      (a.commands ≠ [] ∨ a.inverse.isSome ∨ a.before = [] ∨ a.after = [] ∨ a.verify = []) then
    .error ("an already-satisfied action must own no commands/inverse and must carry explicit " ++
      "before/after/verification evidence" : String)
  else
    match a.inverse with
    | none => .ok ()
    | some inverse =>
      if inverse.mode ≠ a.mode then
        .error "prepared inverse verification scope differs from its action"
      else if inverse.commands = [] ∨ inverse.expectedCurrent = [] ∨ inverse.restore = [] ∨
          inverse.verify = [] then
        .error "a prepared inverse needs commands plus non-empty compare/restore/verification state"
      else .ok ()

/-! ### The routes a list permits -/

/-- `network_of`, of an IPv4 address. -/
def networkOf (a : Addr) (length : ℕ) : Addr := a &&& mask length

/-- `parse_cidr_any`, of an IPv4 network: any other text is none. -/
def parseCidrAny (s : Text) : Option (Addr × ℕ) := do
  let (ip, len) ← splitOnce '/' s
  let a ← parseAddr (trim ip)
  let n ← parseUnsigned 4294967295 (trim len)
  if 32 < n then none else some (networkOf a n, n)

/-- `cidr_contains`, where a text that is no network is in none and holds none. -/
def cidrContains (parent child : Text) : Bool :=
  match parseCidrAny parent, parseCidrAny child with
  | some (pnet, plen), some (cnet, clen) =>
    if clen < plen then false else networkOf cnet plen = networkOf pnet plen
  | _, _ => false

/-- The length of a prefix, off its text. -/
def prefixLength (cidr : Text) : Option ℕ := do
  let (_, n) ← rsplitOnce '/' cidr
  parseUnsigned 255 n

/-- Whether an entry matches a candidate. -/
def PolicyEntry.covers (entry : PolicyEntry) (candidate : Text) (childLen : ℕ) : Bool :=
  let baseLen := (prefixLength entry.cidr).getD 255
  let low := entry.ge.getD baseLen
  let high := entry.le.getD (if entry.ge.isSome then 32 else baseLen)
  low ≤ childLen && childLen ≤ high && cidrContains entry.cidr candidate

/-- The entries in the order of their sequence numbers. -/
def NamedPrefixList.sorted (list : NamedPrefixList) : List PolicyEntry :=
  sortByKey PolicyEntry.sequence list.entries

/-- An entry that permits more than its own prefix. -/
def PolicyEntry.rangedPermit (e : PolicyEntry) : Bool :=
  decide (e.action = .permit) && (e.ge.isSome || e.le.isSome)

/-- The prefixes of the entries that permit. -/
def NamedPrefixList.candidates (list : NamedPrefixList) : Finset Text :=
  ((list.sorted.filter fun e => e.action = .permit).map PolicyEntry.cidr).toFinset

/-- Whether the first entry that matches a candidate permits it. -/
def NamedPrefixList.decides (list : NamedPrefixList) (candidate : Text) : Bool :=
  (prefixLength candidate).any fun childLen =>
    (list.sorted.find? fun e => e.covers candidate childLen).any fun e => e.action = .permit

/-- `exact_permitted_prefixes_from_list`. -/
def exactPermittedPrefixesFromList (list : NamedPrefixList) : Except Text (Finset Text) :=
  if list.sorted.any PolicyEntry.rangedPermit then
    .error ("prefix-list " ++ list.name ++ " has ranged permit semantics")
  else if ¬ ∀ c ∈ list.candidates, (prefixLength c).isSome then .error "invalid candidate prefix"
  else .ok (list.candidates.filter fun c => list.decides c)

/-! ### Safety -/

/-- `PreparedSafetyEffect`. -/
inductive PreparedSafetyEffect where
  | additive | neutral | destructive | mixed | noop | unproven
deriving DecidableEq

/-- The export policy among some states. -/
def exportPolicy : List DeviceStateSnapshot → Option ExportPolicyAttachment
  | [] => none
  | .exportPolicyAttachment a :: _ => some a
  | _ :: states => exportPolicy states

/-- A `set` line that changes attributes, and no decision. -/
def PolicyTerm.attributeOnly (t : PolicyTerm) : Bool :=
  startsWith "as-path prepend " t.value || startsWith "metric " t.value ||
    startsWith "local-preference " t.value

/-- A clause that permits every route. -/
def RouteMapClause.permitsAll (c : RouteMapClause) : Bool :=
  decide (c.action = .permit) && c.conditions.isEmpty && c.sets.all PolicyTerm.attributeOnly

/-- A route map of such clauses. -/
def NamedRouteMap.permitsAll (m : NamedRouteMap) : Bool :=
  !m.clauses.isEmpty && m.clauses.all RouteMapClause.permitsAll

/-- `route_map_safe`: the exports pass no route map, or one that permits all. -/
def routeMapSafe (states : List DeviceStateSnapshot) : Bool :=
  (exportPolicy states).any fun a =>
    match a.routeMap with
    | none => true
    | some name => (a.routeMaps.find? fun m => m.name = name).any NamedRouteMap.permitsAll

/-- `permitted`: the routes an export policy permits, where they can be told one by one. -/
def permittedPrefixes (a : ExportPolicyAttachment) : Except Text (Finset Text) :=
  match a.prefixList with
  | none => .error "absence of an outbound prefix-list is unrestricted"
  | some name =>
    match a.prefixLists.find? fun l => l.name = name with
    | none => .error "selected prefix-list definition missing"
    | some list => exactPermittedPrefixesFromList list

/-- The effect of a change of what is permitted. -/
def compareSets (before after : Finset Text) : PreparedSafetyEffect :=
  if before = after then .noop
  else if before ⊆ after then .additive
  else if after ⊆ before then .destructive
  else .mixed

/-- `prepared_safety_effect`. -/
def preparedSafetyEffect (action : PreparedDeviceAction) : PreparedSafetyEffect :=
  if action.effect = .alreadySatisfied then .noop
  else if action.templateName ≠ ("bgp_export_policy_set" : Text) then .unproven
  else if action.policyKind = some ("route_map" : Text) then
    if routeMapSafe action.before && routeMapSafe action.after then .neutral else .unproven
  else if action.policyKind ≠ some ("prefix_list" : Text) then .unproven
  else if !routeMapSafe action.before || !routeMapSafe action.after then .unproven
  else
    match exportPolicy action.before, exportPolicy action.after with
    | some before, some after =>
      match permittedPrefixes before, permittedPrefixes after with
      | .ok before, .ok after => compareSets before after
      | _, _ => .unproven
    | _, _ => .unproven

/-! ### Planners -/

/-- `PrepareInput`. Of its parameters the kind of policy is kept. -/
structure PrepareInput where
  device : ℕ
  templateId : ℕ
  templateName : Text
  policyKind : Option Text
  identified : Identified device templateId templateName
deriving DecidableEq

/-- An action that passes its own checks. -/
def checked (action : PreparedDeviceAction) : Except Text PreparedDeviceAction :=
  match action.validate with
  | .ok () => .ok action
  | .error e => .error e

theorem eq_of_checked {x a : PreparedDeviceAction} (h : checked x = .ok a) : a = x := by
  rw [checked] at h
  split at h
  · exact (Except.ok.inj h).symm
  · cases h

/-- `finish_prepared`. -/
def finishPrepared (input : PrepareInput) (effect : PreparedEffect) (commands : List Text)
    (before after verify : List DeviceStateSnapshot) (inverse : Option PreparedInverse) :
    Except Text PreparedDeviceAction :=
  checked
    { device := input.device
      templateId := input.templateId
      templateName := input.templateName
      policyKind := input.policyKind
      mode := (inverse.map PreparedInverse.mode).getD .routing
      commands := if effect = .change then commands else []
      before, after, verify, effect
      inverse := if effect = .change then inverse else none }

/-- `prefix_entry_snapshot`. -/
def prefixEntrySnapshot (e : PrefixListEntry) : PrefixListSnapshotEntry :=
  ⟨e.sequence, e.permit, addrText e.network ++ '/' :: natText e.length, e.ge, e.le⟩

/-- The neighbor a prefix-list action needs. -/
def establishedNeighbor (peer : Text) : DeviceStateSnapshot :=
  .bgpNeighborState peer false (some "Established")

/-- The entries after an action. -/
def projectedEntries (adding : Bool) (sequence : ℕ) (cidr : Text)
    (entries : List PrefixListSnapshotEntry) :
    List PrefixListSnapshotEntry :=
  if adding then
    sortByKey PrefixListSnapshotEntry.sequence (entries ++ [⟨sequence, true, cidr, none, none⟩])
  else entries.filter fun e => e.sequence ≠ sequence

/-- Whether a prefix-list action adds its prefix. -/
def PrepareInput.adding (input : PrepareInput) : Bool :=
  input.templateName = ("bgp_advertise_add" : Text)

/-- The plan of a prefix-list action. -/
def planEntry (adding : Bool) (output list cidr : Text) : SequencePlan :=
  if adding then planAdd output list cidr else planRemove output list cidr

/-- The action that has nothing to do. -/
def satisfiedListAction (input : PrepareInput) (peer : Text)
    (list advertisement : DeviceStateSnapshot) :
    PreparedDeviceAction :=
  { device := input.device
    templateId := input.templateId
    templateName := input.templateName
    policyKind := input.policyKind
    mode := .routing
    commands := []
    before := [list, establishedNeighbor peer]
    after := [list, advertisement, establishedNeighbor peer]
    verify := [advertisement, establishedNeighbor peer]
    effect := .alreadySatisfied
    inverse := none }

/-- The action that writes an entry, or deletes one. -/
def changedListAction (input : PrepareInput) (peer : Text) (commands inverseCommands : List Text)
    (before after advertisement inverseAdvertisement : DeviceStateSnapshot) :
    PreparedDeviceAction :=
  { device := input.device
    templateId := input.templateId
    templateName := input.templateName
    policyKind := input.policyKind
    mode := .routing
    commands
    before := [before, establishedNeighbor peer]
    after := [after, advertisement, establishedNeighbor peer]
    verify := [after, advertisement, establishedNeighbor peer]
    effect := .change
    inverse := some
      { mode := .routing
        expectedCurrent := [after, advertisement, establishedNeighbor peer]
        restore := [before, inverseAdvertisement, establishedNeighbor peer]
        commands := inverseCommands
        verify := [before, inverseAdvertisement, establishedNeighbor peer] } }

/-- The commands that undo the edit of an entry. -/
def inverseEntryCommands (adding : Bool) (peer list cidr : Text) (sequence : ℕ) : List Text :=
  ["configure terminal",
    (if adding then ("no " : Text) else []) ++ "ip prefix-list " ++ list ++ " seq " ++
    natText sequence ++
      " permit " ++ cidr,
    "end", "clear ip bgp " ++ peer ++ " soft out"]

/-- `prepare_prefix_list_action`, for a neighbor that is established and the only consumer of the
list. `render` fills the sequence number in the commands of the template. -/
def preparePrefixListAction (input : PrepareInput) (peer list cidr : Text)
    (consumers : List PrefixListConsumer) (output : Text) (render : ℕ → Except Text (List Text)) :
    Except Text PreparedDeviceAction := do
  let entries ← parsePrefixList output list
  match planEntry input.adding output list cidr with
  | .refuse reason => .error reason
  | .alreadySatisfied _ _ =>
    checked (satisfiedListAction input peer
        (.prefixList list (entries.map prefixEntrySnapshot) consumers)
      (.bgpAdvertisement peer cidr input.adding none))
  | .use sequence => do
    let commands ← render sequence
    checked (changedListAction input peer commands
      (inverseEntryCommands input.adding peer list cidr sequence)
      (.prefixList list (entries.map prefixEntrySnapshot) consumers)
      (.prefixList list (projectedEntries input.adding sequence cidr
        (entries.map prefixEntrySnapshot))
        consumers)
      (.bgpAdvertisement peer cidr input.adding none)
      (.bgpAdvertisement peer cidr (!input.adding) none))

/-- A line, in the address family it belongs to. -/
def inFamily (named : Bool) (enter line : Text) : List Text :=
  if named then [enter, line, "exit-address-family"] else [line]

/-- `scoped_route_map_commands`. -/
def scopedRouteMapCommands (localAsn : ℕ) (family neighbor direction line : Text) : List Text :=
  (["configure terminal", "router bgp " ++ natText localAsn] : List Text) ++
    inFamily (family ≠ ("default_ipv4" : Text)) ("address-family " ++ family) line ++
      (["end", "clear ip bgp " ++ neighbor ++ " soft " ++ direction] : List Text)

/-- The line that sets a route map, or takes the requested one away. -/
def routeMapLine (neighbor direction requested : Text) : Option Text → Text
  | some map => "neighbor " ++ neighbor ++ " route-map " ++ map ++ " " ++ direction
  | none => "no neighbor " ++ neighbor ++ " route-map " ++ requested ++ " " ++ direction

/-- The effect of an action: nothing to do where the state is as it is wanted. -/
def effectOf (satisfied : Bool) : PreparedEffect := if satisfied then .alreadySatisfied else .change

/-- `prepare_route_map`, from the state before it. -/
def routeMapAction (input : PrepareInput) (localAsn : ℕ)
    (neighbor direction requested family : Text)
    (before : DeviceStateSnapshot) (current : Option Text) : Except Text PreparedDeviceAction :=
  let desiredMap := if input.templateName = ("bgp_route_map_set" : Text) then
    some requested else none
  let desired := .routeMapAssignment localAsn neighbor direction (some family) desiredMap
  if input.templateName = ("bgp_route_map_unset" : Text) ∧ current.any fun m => m ≠ requested then
    .error "peer currently uses a different route-map"
  else
    finishPrepared input (effectOf (current = desiredMap))
      (scopedRouteMapCommands localAsn family neighbor direction
        (routeMapLine neighbor direction requested desiredMap))
      [before] [desired] [desired]
      (some
        { mode := .routing
          expectedCurrent := [desired]
          restore := [before]
          commands := scopedRouteMapCommands localAsn family neighbor direction
            (routeMapLine neighbor direction requested current)
          verify := [before] })

/-- `prepare_route_map`, from the assignment read or projected: of the AS, and to the map. -/
def prepareRouteMap (input : PrepareInput) (localAsn : ℕ)
    (neighbor direction requested family : Text)
    (beforeAsn : ℕ) (current : Option Text) : Except Text PreparedDeviceAction :=
  routeMapAction input localAsn neighbor direction requested family
    (.routeMapAssignment beforeAsn neighbor direction (some family) current) current

/-- `export_attachment_commands`. -/
def exportAttachmentCommands (localAsn : ℕ) (family neighbor line : Text) : List Text :=
  (["configure terminal", "router bgp " ++ natText localAsn] : List Text) ++
    inFamily (family = ("ipv4" : Text)) "address-family ipv4" line ++
      (["end", "clear ip bgp " ++ neighbor ++ " soft out"] : List Text)

/-- `exact_permitted_prefixes`. -/
def exactPermittedPrefixes (name : Text) (lists : List NamedPrefixList) :
    Except Text (Finset Text) :=
  match lists.find? fun l => l.name = name with
  | none => .error ("prefix-list " ++ name ++ " definition missing")
  | some list => exactPermittedPrefixesFromList list

/-- The policies an attachment is about, before and after it changes. -/
def requiredNames (current desired : Option Text) : List Text :=
  ((current.toList ++ desired.toList).insertionSort fun a b => a ≤ b).dedup

/-- The advertisements that prove an attachment, in the order of the prefixes. -/
def advertisementProofs (neighbor : Text) (prefixes present : Finset Text) :
    List DeviceStateSnapshot :=
  (prefixes.sort fun a b => a ≤ b).map fun c =>
    .bgpAdvertisement neighbor c (decide (c ∈ present)) none

/-- The policies of an attachment that names another one: its prefix list and its route map. -/
def desiredPolicies (kind : PolicyKind) (name : Text) (a : ExportPolicyAttachment) :
    Option Text × Option Text :=
  match kind with
  | .prefixList => (some name, a.routeMap)
  | .routeMap => (a.prefixList, some name)

/-- The policy of a kind that an attachment names. -/
def currentPolicy (kind : PolicyKind) (a : ExportPolicyAttachment) : Option Text :=
  match kind with
  | .prefixList => a.prefixList
  | .routeMap => a.routeMap

/-- Whether a policy is defined. -/
def policyDefined (kind : PolicyKind) (name : Text) (a : ExportPolicyAttachment) : Bool :=
  match kind with
  | .prefixList => a.prefixLists.any fun p => p.name = name
  | .routeMap => a.routeMaps.any fun p => p.name = name

/-- `noun`. -/
def PolicyKind.noun : PolicyKind → Text
  | .prefixList => "prefix-list"
  | .routeMap => "route-map"

/-- An attachment, with the policies it needs for a change. -/
def requirePolicies (a : ExportPolicyAttachment) (desired : Option Text × Option Text) :
    ExportPolicyAttachment :=
  { a with
    requiredPrefixLists := some (requiredNames a.prefixList desired.1)
    requiredRouteMaps := some (requiredNames a.routeMap desired.2) }

/-- The advertisements that prove a change of export policy, and those that prove it undone. -/
def advertisementEvidence (neighbor : Text) (kind : PolicyKind) (desiredName : Text)
    (a : ExportPolicyAttachment) : PlanMode →
      Except Text (List DeviceStateSnapshot × List DeviceStateSnapshot)
  | .configurationOnly => .ok ([], [])
  | .routing =>
    match kind, a.prefixList with
    | .prefixList, current => do
      let desired ← exactPermittedPrefixes desiredName a.prefixLists
      let prior ← match current with
        | some name => exactPermittedPrefixes name a.prefixLists
        | none => .ok ∅
      .ok (advertisementProofs neighbor (desired ∪ prior) desired,
        advertisementProofs neighbor (desired ∪ prior) prior)
    | .routeMap, some name => do
      let permitted ← exactPermittedPrefixes name a.prefixLists
      .ok (advertisementProofs neighbor permitted permitted,
        advertisementProofs neighbor permitted permitted)
    | .routeMap, none => .ok ([], [])

/-- The line that attaches a policy to the exports of a neighbor, or detaches the desired one. -/
def exportPolicyLine (neighbor : Text) (kind : PolicyKind) (desiredName : Text) : Option Text → Text
  | some name => "neighbor " ++ neighbor ++ " " ++ kind.noun ++ " " ++ name ++ " out"
  | none => "no neighbor " ++ neighbor ++ " " ++ kind.noun ++ " " ++ desiredName ++ " out"

/-- `prepare_export_policy`, from the attachment read or projected. -/
def prepareExportPolicy (input : PrepareInput) (neighbor : Text) (kind : PolicyKind)
    (desiredName : Text)
    (read : ExportPolicyAttachment) (mode : PlanMode) : Except Text PreparedDeviceAction :=
  let desired := desiredPolicies kind desiredName read
  let before := requirePolicies read desired
  let after := { before with neighbor := neighbor, prefixList := desired.1, routeMap := desired.2 }
  if !policyDefined kind desiredName read then
    .error ("selected export policy '" ++ desiredName ++
        "' was not present in the complete snapshot")
  else do
    let evidence ← advertisementEvidence neighbor kind desiredName read mode
    finishPrepared input (if before = after then .alreadySatisfied else .change)
      (exportAttachmentCommands read.localAsn read.addressFamily neighbor
        (exportPolicyLine neighbor kind desiredName (some desiredName)))
      [.exportPolicyAttachment before]
      (.exportPolicyAttachment after :: evidence.1) (.exportPolicyAttachment after :: evidence.1)
      (some
        { mode
          expectedCurrent := .exportPolicyAttachment after :: evidence.1
          restore := .exportPolicyAttachment before :: evidence.2
          commands := exportAttachmentCommands read.localAsn read.addressFamily neighbor
            (exportPolicyLine neighbor kind desiredName (currentPolicy kind read))
          verify := .exportPolicyAttachment before :: evidence.2 })

end Rerouter
