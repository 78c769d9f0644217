import Rerouter.DeviceVerify
import Rerouter.TemplateCatalog

/-!
# Preparing a list of actions

The planners of `reroute/device_plan.rs`, as programs that read routers. An action is prepared
from what its template makes of the values of the caller, and from the states of the router it is
about. A state that an earlier action of the list leaves is taken from there, and every other
state is read (`Rerouter.projectedOr`); in the end the states the action leaves are projected for
those behind it (`Rerouter.prepareActions`).

| planner | states before the action |
|---|---|
| `Rerouter.prepareStaticRoute` | the route, its routing entry, and its BGP entry if it has a tag |
| `Rerouter.prepareNeighborShutdown` | the configuration of a neighbor and its session |
| `Rerouter.prepareRouteMapAction` | the route map of a neighbor |
| `Rerouter.prepareExportPolicyAction` | the policies on the exports of a neighbor |
| `Rerouter.prepareInterfaceMss` | the MSS of an interface |
| `Rerouter.prepareInterfaceAdmin` | the configuration of an interface and whether it is down |
| `Rerouter.preparePrefixList` | a prefix list, and a neighbor that is established |

Every planner is a sequence of readers, one for each of these states.
-/

namespace Rerouter

open Text

/-! ### Requests -/

/-- `PrepareInput`, with the values of the caller. -/
structure PrepareRequest where
  device : ℕ
  templateId : ℕ
  templateName : Text
  params : Params
  identified : Identified device templateId templateName

/-- What a prepared action keeps of its request. -/
def PrepareRequest.input (r : PrepareRequest) : PrepareInput :=
  { device := r.device
    templateId := r.templateId
    templateName := r.templateName
    policyKind := (r.params[("policy_kind" : Text)]?).bind ParamValue.asStr
    identified := r.identified }

/-- A preparation that is refused. -/
def refused {α : Type} (reason : Text) : RouterReads α := decided (.error reason)

/-- `subst_string`. -/
def substString (subst : NameMap Text) (name : Text) : Except Text Text :=
  okOr (("missing canonical parameter '" : Text) ++ name ++ "'") subst[name]?

/-- A number among the values. -/
def substNumber (subst : NameMap Text) (name : Text) : Except Text ℕ := do
  let value ← substString subst name
  okOr "invalid digit found in string" (parseUnsigned maxU32 value)

/-- The state that an earlier action leaves, or else the one that is read. -/
def projectedOr (projected : Projection) (device : ℕ) (probe : DeviceStateSnapshot)
    (read : RouterReads DeviceStateSnapshot) : RouterReads DeviceStateSnapshot :=
  match projected[stateKey device probe]? with
  | some state => pure state
  | none => read

/-- An action and its inverse, verified in a mode. -/
def PreparedDeviceAction.inMode (mode : PlanMode) (a : PreparedDeviceAction) :
    PreparedDeviceAction :=
  { a with mode, inverse := a.inverse.map fun i => { i with mode } }

/-! ### Static routes -/

/-- `read_static_route`. -/
def readStaticRoute (device : ℕ) (desired : StaticRoute) : RouterReads DeviceStateSnapshot := do
  let command ← decided (staticConfigReadCommand desired)
  let output ← showOn device command
  let presentEvidence ← decided (staticExpectedEvidence output desired true)
  let absentEvidence ← decided (staticExpectedEvidence output desired false)
  if presentEvidence = .unproven ∨ absentEvidence = .unproven then
    refused "static-route preparation response was unproven"
  else if presentEvidence = .matched then pure { desired with present := true }.snapshot
  else if absentEvidence = .matched then pure { desired with present := false }.snapshot
  else refused "same-prefix static route has different attributes; restore state is unclassifiable"

/-- `read_route_resolution`. -/
def readRouteResolution (device : ℕ) (cidr nextHop : Text) : RouterReads DeviceStateSnapshot := do
  let normalized ← decided (okOr ("invalid route prefix " ++ debugText cidr) (normalizeCidr cidr))
  let command ← decided (routeCommand normalized)
  let output ← showOn device command
  let evidence := routeResolutionEvidence output normalized nextHop true
  if evidence = .unproven then refused "route-resolution preparation response was unproven"
  else pure (.routeResolution normalized nextHop (evidence = .matched))

/-- The start of the lines of a static route's network. -/
def staticLineStart (desired : StaticRoute) : Except Text Text :=
  if desired.v6 then do
    let cidr ← okOr "invalid prefix" (normalizeCidr desired.cidr)
    .ok ("ipv6 route " ++ cidr)
  else do
    let (network, mask) ← ipv4NetworkMask desired.cidr
    .ok ("ip route " ++ network ++ ' ' :: mask)

/-- `ensure_no_conflicting_static`. -/
def ensureNoConflictingStatic (device : ℕ) (desired : StaticRoute) : RouterReads Unit := do
  let start ← decided (staticLineStart desired)
  let output ← showOn device ("show running-config | include ^" ++ start ++ " ")
  if (lines output).any fun line => !(trim line).isEmpty then
    refused ("a different same-prefix static route already exists; refusing to change " ++
      "operator-owned routing state" : String)
  else pure ()

/-- Whether a projected state is another static route for the same network. -/
def conflictsWith (desired : StaticRoute) (state : DeviceStateSnapshot) : Bool :=
  state.staticRoute.any fun r =>
    decide (r.v6 = desired.v6) && decide (normalizeCidr r.cidr = normalizeCidr desired.cidr) &&
      r.present &&
      decide ((staticConfigLine r).toOption ≠ (staticConfigLine desired).toOption)

/-- A route that is to be added must be the only one for its network. -/
def ensureUnambiguous (device : ℕ) (projected : Projection) (desired : StaticRoute)
    (current : Bool) :
    RouterReads Unit :=
  if desired.present && !current then
    if projected.values.any (conflictsWith desired) then
      refused ("an earlier action projects a different same-prefix static route; refusing an " ++
        "ambiguous combined plan" : String)
    else if projected[stateKey device desired.snapshot]? = none then
      ensureNoConflictingStatic device desired
    else pure ()
  else pure ()

/-- The BGP entry of a tagged route, before it changes. -/
def readBgpRoute (device : ℕ) (cidr community : Text) : RouterReads DeviceStateSnapshot := do
  let output ← showOn device (bgpRouteCommand cidr)
  let exact := bgpEvidence output cidr (some community) false true
  if exact = .unproven then refused "BGP route preparation response was unproven"
  else if exact ≠ .matched ∧ hasExactCidr output cidr = true then
    refused ("the existing exact BGP route does not carry the catalogued RTBH community; " ++
      "refusing an unclassifiable restore state" : String)
  else pure (.bgpRoute cidr (exact = .matched) (if exact = .matched then some community else none))

/-- The BGP entries of a tagged route, before and after it changes. -/
def bgpRouteStates (rtbh : ℕ → Option Text) (device : ℕ) (projected : Projection)
    (desired : StaticRoute) :
    RouterReads (List DeviceStateSnapshot × List DeviceStateSnapshot) :=
  match desired.tag with
  | none => pure ([], [])
  | some tag => do
    let community ← decided
      (okOr ("RTBH tag " ++ natText tag ++ " has no configured community") (rtbh tag))
    let before ← projectedOr projected device (.bgpRoute desired.cidr false none)
      (readBgpRoute device desired.cidr community)
    pure ([before],
      [.bgpRoute desired.cidr desired.present (if desired.present then some community else none)])

/-- `static_route_commands`. -/
def staticRouteCommands (state : StaticRoute) (present : Bool) : Except Text (Option (List Text)) :=
  if state.present = present then .ok none
  else do
    let line ← staticConfigLine state
    .ok (some ["configure terminal", (if present then ([] : Text) else "no ") ++ line, "end"])

/-- The tag of a route: an RTBH route has one. -/
def routeTag (t : Template) (subst : NameMap Text) : Except Text (Option ℕ) :=
  if startsWith "blackhole_" t.name then do
    let tag ← substNumber subst "tag"
    .ok (some tag)
  else .ok none

/-- The route a template is about. -/
def desiredRoute (t : Template) (subst : NameMap Text) : Except Text StaticRoute := do
  let cidr ← substString subst "prefix"
  let tag ← routeTag t subst
  .ok ⟨decide (':' ∈ cidr), cidr, "Null0", tag, contains "_prefix" t.name⟩

/-- The action of a static route, from the states before it: the route, its routing entry and its
BGP entry. -/
def staticRouteAction (input : PrepareInput) (desired : StaticRoute) (before : DeviceStateSnapshot)
    (current : Bool) (resolution : DeviceStateSnapshot)
    (bgp : List DeviceStateSnapshot × List DeviceStateSnapshot) (commands : List Text)
    (inverse : Option (List Text)) : Except Text PreparedDeviceAction :=
  let befores := before :: resolution :: bgp.1
  let afters := desired.snapshot :: .routeResolution desired.cidr "Null0" desired.present :: bgp.2
  finishPrepared input (effectOf (current = desired.present)) commands befores afters afters
    (inverse.map fun commands =>
      { mode := .routing
        expectedCurrent := afters
        restore := befores
        commands
        verify := befores })

/-- `prepare_static_route`. -/
def prepareStaticRoute (rtbh : ℕ → Option Text) (t : Template) (r : PrepareRequest)
    (subst : NameMap Text) (projected : Projection) : RouterReads PreparedDeviceAction := do
  let desired ← decided (desiredRoute t subst)
  let before ← projectedOr projected r.device desired.snapshot (readStaticRoute r.device desired)
  let current ← decided
    (okOr "not a static route snapshot" (before.staticRoute.map StaticRoute.present))
  ensureUnambiguous r.device projected desired current
  let resolution ← projectedOr projected r.device
    (.routeResolution desired.cidr "Null0" desired.present)
    (readRouteResolution r.device desired.cidr "Null0")
  let bgp ← bgpRouteStates rtbh r.device projected desired
  let plan ← decided (render t r.params)
  let inverse ← decided (staticRouteCommands desired current)
  decided (staticRouteAction r.input desired before current resolution bgp plan.commands inverse)

/-! ### Neighbors -/

/-- The `shutdown` of a neighbor, off the BGP section. -/
def readNeighborShutdown (device localAsn : ℕ) (neighbor : Text) :
    RouterReads DeviceStateSnapshot := do
  let output ← showOn device bgpSection
  if !hasRouterLine output localAsn ||
      !(lines output).any (fun line =>
        startsWith ("neighbor " ++ neighbor ++ " ") (trimStart line)) then
    refused ("fresh running-config did not prove BGP neighbor " ++ neighbor ++ " under AS " ++
      natText localAsn)
  else pure (.neighborShutdown localAsn neighbor
    (hasExactConfigLine output ("neighbor " ++ neighbor ++ " shutdown")))

/-- The session of a neighbor. -/
def readNeighborState (device : ℕ) (neighbor : Text) : RouterReads DeviceStateSnapshot := do
  let output ← showOn device ("show ip bgp neighbors " ++ neighbor)
  let parsed ← decided (parseBgpNeighborState output neighbor)
  pure (.bgpNeighborState neighbor parsed.administrativelyShutdown parsed.state)

/-- Whether a neighbor is shut down, off its state. -/
def shutdownOf : DeviceStateSnapshot → Except Text Bool
  | .neighborShutdown _ _ shutdown => .ok shutdown
  | _ => .error "projected BGP neighbor state has the wrong type"

/-- The session of a neighbor that is shut down, or established. -/
def desiredSession (neighbor : Text) (shutdown : Bool) : DeviceStateSnapshot :=
  .bgpNeighborState neighbor shutdown (some (if shutdown then "Idle" else "Established"))

/-- The action on the session of a neighbor, from the states before it. -/
def neighborShutdownAction (input : PrepareInput) (localAsn : ℕ) (neighbor : Text) (shutdown : Bool)
    (before : DeviceStateSnapshot) (current : Bool) (session : DeviceStateSnapshot)
    (commands : List Text) :
    Except Text PreparedDeviceAction :=
  let afters := [.neighborShutdown localAsn neighbor shutdown, desiredSession neighbor shutdown]
  finishPrepared input (effectOf (current = shutdown)) commands [before, session] afters afters
    (some
      { mode := .routing
        expectedCurrent := afters
        restore := [before, session]
        commands := ["configure terminal", "router bgp " ++ natText localAsn,
          (if current then ([] : Text) else "no ") ++ "neighbor " ++ neighbor ++ " shutdown", "end"]
        verify := [before, session] })

/-- Whether a template shuts a neighbor down. -/
def Template.disables (t : Template) : Bool := t.name = ("bgp_session_disable" : Text)

/-- `prepare_neighbor_shutdown`. -/
def prepareNeighborShutdown (t : Template) (r : PrepareRequest) (subst : NameMap Text)
    (projected : Projection) : RouterReads PreparedDeviceAction := do
  let neighbor ← decided (substString subst "neighbor_ip")
  let localAsn ← decided (substNumber subst "local_asn")
  let before ← projectedOr projected r.device (.neighborShutdown localAsn neighbor t.disables)
    (readNeighborShutdown r.device localAsn neighbor)
  let current ← decided (shutdownOf before)
  let session ← projectedOr projected r.device (.bgpNeighborState neighbor current none)
    (readNeighborState r.device neighbor)
  let plan ← decided (render t r.params)
  decided (neighborShutdownAction r.input localAsn neighbor t.disables before current session
    plan.commands)

/-- The route map of a state, in an address family. -/
def assignedMap (family : Text) : DeviceStateSnapshot → Except Text (Option Text)
  | .routeMapAssignment _ _ _ (some scope) map =>
    if scope = family then .ok map else .error "route-map scope evidence is incomplete"
  | _ => .error "route-map scope evidence is incomplete"

/-- The route map of a neighbor, off the BGP section. -/
def readRouteMap (localAsn : ℕ) (neighbor direction family output : Text) :
    Except Text DeviceStateSnapshot := do
  let map ← parseRouteMapAssignmentScoped output neighbor direction family
  .ok (.routeMapAssignment localAsn neighbor direction (some family) map)

/-- `prepare_route_map`. The BGP section is read in any case, for the address family. -/
def prepareRouteMapAction (r : PrepareRequest) (subst : NameMap Text) (projected : Projection) :
    RouterReads PreparedDeviceAction := do
  let neighbor ← decided (substString subst "neighbor_ip")
  let localAsn ← decided (substNumber subst "local_asn")
  let direction ← decided (substString subst "direction")
  let requested ← decided (substString subst "route_map")
  let output ← showOn r.device bgpSection
  let (provedAsn, family) ← decided (proveNeighborContext output neighbor)
  if provedAsn ≠ localAsn then refused "requested ASN differs from fresh BGP scope"
  else do
    let before ← projectedOr projected r.device
      (.routeMapAssignment localAsn neighbor direction (some family) none)
      (decided (readRouteMap localAsn neighbor direction family output))
    let current ← decided (assignedMap family before)
    decided (routeMapAction r.input localAsn neighbor direction requested family before current)

/-- The policy kind of a value. -/
def policyKindNamed (value : Text) : Except Text PolicyKind :=
  if value = ("prefix_list" : Text) then .ok .prefixList
  else if value = ("route_map" : Text) then .ok .routeMap
  else .error ("unsupported export policy kind '" ++ value ++ "'")

/-- The export policy that an earlier action leaves a neighbor, in whatever address family. -/
def projectedExportPolicy (projected : Projection) (device : ℕ) (neighbor : Text) :
    Option DeviceStateSnapshot :=
  projected.toList.findSome? fun p =>
    if startsWith (natText device ++ ":export_policy:" ++ neighbor ++ ":") p.1 then
      some p.2 else none

/-- The export policy of a neighbor, off the running configuration. -/
def readExportAttachment (device : ℕ) (neighbor : Text) : RouterReads ExportPolicyAttachment := do
  let bgp ← showOn device bgpSection
  let routeMaps ← showOn device routeMapSection
  let prefixLists ← showOn device prefixListSection
  decided (readExportPolicy bgp routeMaps prefixLists neighbor)

/-- The export policy that is left, or else the one that is read. -/
def exportAttachment (projected : Projection) (device : ℕ) (neighbor : Text) :
    RouterReads ExportPolicyAttachment :=
  match projectedExportPolicy projected device neighbor with
  | some (.exportPolicyAttachment a) => pure a
  | some _ => refused "projected export-policy state has the wrong type"
  | none => readExportAttachment device neighbor

/-- `prepare_export_policy`. -/
def prepareExportPolicyAction (mode : PlanMode) (r : PrepareRequest) (subst : NameMap Text)
    (projected : Projection) : RouterReads PreparedDeviceAction := do
  let neighbor ← decided (substString subst "neighbor_ip")
  let kindName ← decided (substString subst "policy_kind")
  let kind ← decided (policyKindNamed kindName)
  let desiredName ← decided (substString subst "policy_name")
  let read ← exportAttachment projected r.device neighbor
  decided (prepareExportPolicy r.input neighbor kind desiredName read mode)

/-! ### Interfaces -/

/-- The MSS of an interface. -/
def readInterfaceMss (device : ℕ) (interface : Text) : RouterReads DeviceStateSnapshot := do
  let output ← showOn device ("show running-config interface " ++ interface)
  decided (validateInterfaceStanza output interface)
  pure (.interfaceMss interface (stanzaMss output))

/-- The MSS of a state. -/
def mssOf : DeviceStateSnapshot → Except Text (Option ℕ)
  | .interfaceMss _ mss => .ok mss
  | _ => .error "projected interface MSS state has the wrong type"

/-- The MSS a template asks for. -/
def desiredMss (t : Template) (subst : NameMap Text) : Except Text (Option ℕ) :=
  if t.name = ("iface_tcp_adjust_mss" : Text) then do
    let mss ← substNumber subst "mss"
    .ok (some mss)
  else .ok none

/-- The command that sets an MSS, or takes it away. -/
def mssCommand : Option ℕ → Text
  | some mss => "ip tcp adjust-mss " ++ natText mss
  | none => "no ip tcp adjust-mss"

/-- The action on the MSS of an interface, from the state before it. -/
def interfaceMssAction (input : PrepareInput) (interface : Text) (desired : Option ℕ)
    (before : DeviceStateSnapshot) (current : Option ℕ) (commands : List Text) :
    Except Text PreparedDeviceAction :=
  finishPrepared input (effectOf (current = desired)) commands [before]
    [.interfaceMss interface desired] [.interfaceMss interface desired]
    (some
      { mode := .routing
        expectedCurrent := [.interfaceMss interface desired]
        restore := [before]
        commands := ["configure terminal", "interface " ++ interface, mssCommand current, "end"]
        verify := [before] })

/-- `prepare_interface_mss`. -/
def prepareInterfaceMss (t : Template) (r : PrepareRequest) (subst : NameMap Text)
    (projected : Projection) :
    RouterReads PreparedDeviceAction := do
  let interface ← decided (substString subst "interface")
  let desired ← decided (desiredMss t subst)
  let before ← projectedOr projected r.device (.interfaceMss interface desired)
    (readInterfaceMss r.device interface)
  let current ← decided (mssOf before)
  let plan ← decided (render t r.params)
  decided (interfaceMssAction r.input interface desired before current plan.commands)

/-- The `shutdown` of an interface, off its configuration. -/
def readInterfaceAdmin (device : ℕ) (interface : Text) : RouterReads DeviceStateSnapshot := do
  let output ← showOn device ("show running-config interface " ++ interface)
  decided (validateInterfaceStanza output interface)
  pure (.interfaceAdmin interface (hasExactConfigLine output "shutdown"))

/-- Whether an interface is down. -/
def readInterfaceOperational (device : ℕ) (interface : Text) : RouterReads DeviceStateSnapshot := do
  let output ← showOn device ("show interfaces " ++ interface)
  if !provesInterface output interface then
    refused ("interface operational read did not prove interface " ++ interface)
  else pure (.interfaceOperational interface (administrativelyDown output))

/-- Whether an interface is shut down, off its state. -/
def adminShutdownOf : DeviceStateSnapshot → Except Text Bool
  | .interfaceAdmin _ shutdown => .ok shutdown
  | _ => .error "projected interface admin state has the wrong type"

/-- Whether an interface is down, off its state. -/
def downOf : DeviceStateSnapshot → Except Text Bool
  | .interfaceOperational _ down => .ok down
  | _ => .error "projected interface operational state has the wrong type"

/-- The action on an interface, from the states before it. -/
def interfaceAdminAction (input : PrepareInput) (interface : Text) (shutdown : Bool)
    (before : DeviceStateSnapshot) (current : Bool) (operational : DeviceStateSnapshot)
    (commands : List Text) : Except Text PreparedDeviceAction :=
  let afters := [.interfaceAdmin interface shutdown, .interfaceOperational interface shutdown]
  finishPrepared input (effectOf (current = shutdown)) commands [before, operational] afters afters
    (some
      { mode := .routing
        expectedCurrent := afters
        restore := [before, operational]
        commands := ["configure terminal", "interface " ++ interface,
          if current then "shutdown" else "no shutdown", "end"]
        verify := [before, operational] })

/-- Whether a template shuts an interface down. -/
def Template.shutsDown (t : Template) : Bool := t.name = ("iface_shutdown" : Text)

/-- `prepare_interface_admin`. -/
def prepareInterfaceAdmin (t : Template) (r : PrepareRequest) (subst : NameMap Text)
    (projected : Projection) :
    RouterReads PreparedDeviceAction := do
  let interface ← decided (substString subst "interface")
  let before ← projectedOr projected r.device (.interfaceAdmin interface t.shutsDown)
    (readInterfaceAdmin r.device interface)
  let current ← decided (adminShutdownOf before)
  let operational ← projectedOr projected r.device (.interfaceOperational interface current)
    (readInterfaceOperational r.device interface)
  let down ← decided (downOf operational)
  if down ≠ current then
    refused ("interface config and operational admin state disagree; refusing an unstable " ++
      "snapshot" : String)
  else do
    let plan ← decided (render t r.params)
    decided (interfaceAdminAction r.input interface t.shutsDown before current operational
      plan.commands)

/-! ### Prefix lists -/

/-- `projected_prefix_lists`: the texts of the lists that earlier actions leave, the latest
first. -/
abbrev ProjectedLists := List ((ℕ × Text) × Text)

/-- A line `seq …` of an entry. -/
def renderEntry (e : PrefixListSnapshotEntry) : Text :=
  "seq " ++ natText e.sequence ++ (if e.permit then (" permit " : Text) else " deny ") ++ e.cidr ++
    (match e.ge with
      | some ge => " ge " ++ natText ge
      | none => []) ++
    match e.le with
      | some le => " le " ++ natText le
      | none => []

/-- `render_prefix_list_snapshot`. -/
def renderPrefixListSnapshot (name : Text) (entries : List PrefixListSnapshotEntry) : Text :=
  "ip prefix-list " ++ name ++ ": " ++ natText entries.length ++
    (if entries.length = 1 then (" entry" : Text) else " entries") ++
    entries.flatMap fun e => '\n' :: renderEntry e

/-- What shows the session of a neighbor: an established one needs no reading where an earlier
action leaves it so. -/
def neighborOutput (projected : Projection) (device : ℕ) (neighbor : Text) : RouterReads Text :=
  match projected[stateKey device (establishedNeighbor neighbor)]? with
  | none => showOn device ("show ip bgp neighbors " ++ neighbor)
  | some state =>
    match state with
    | .bgpNeighborState _ false (some s) =>
      if s = ("Established" : Text) then
        pure ("BGP neighbor is " ++ neighbor ++ ", remote AS 0\n BGP state = Established")
      else refused ("an earlier action does not project BGP neighbor " ++ neighbor ++
        " to Established")
    | _ =>
      refused ("an earlier action does not project BGP neighbor " ++ neighbor ++ " to Established")

/-- The text of a list: the one an earlier action leaves, or the one that is shown. -/
def listOutput (lists : ProjectedLists) (device : ℕ) (list : Text) : RouterReads Text :=
  match lists.lookup (device, list) with
  | some text => pure text
  | none => showOn device ("show ip prefix-list " ++ list)

/-- A neighbor has to be established. -/
def ensureEstablished (output peer : Text) : Except Text Unit := do
  let parsed ← parseBgpNeighborState output peer
  if parsed.administrativelyShutdown = true ∨ parsed.state ≠ some ("Established" : Text) then
    .error ("BGP neighbor " ++ peer ++
        " is not Established; refusing per-peer advertisement mutation")
  else .ok ()

/-- The branch of `prepare_actions_read_only` for `bgp_advertise_…`, with
`prepare_prefix_list_action`. -/
def preparePrefixList (t : Template) (r : PrepareRequest) (subst : NameMap Text)
    (lists : ProjectedLists) (projected : Projection) : RouterReads PreparedDeviceAction := do
  let list ← decided (okOr "prefix-list action has no list" subst[("prefix_list_name" : Text)]?)
  let peer ← decided (okOr "prefix-list action has no neighbor" subst[("neighbor_ip" : Text)]?)
  let bgp ← showOn r.device bgpSection
  let routeMaps ← showOn r.device routeMapSection
  let fullConfig ← showOn r.device "show running-config"
  let neighbor ← neighborOutput projected r.device peer
  let output ← listOutput lists r.device list
  if r.device = 0 then refused "prepare input does not match the selected template"
  else do
    let cidr ← decided (substString subst "prefix")
    decided (ensureEstablished neighbor peer)
    let consumers ← decided (ensureExclusivePrefixListConsumer bgp routeMaps fullConfig list peer)
    decided (preparePrefixListAction r.input peer list cidr consumers output fun sequence => do
      let plan ← renderWithSequence t r.params sequence
      .ok plan.commands)

/-- The lists behind a prefix-list action. -/
def projectList (device : ℕ) (lists : ProjectedLists) : List DeviceStateSnapshot → ProjectedLists
  | .prefixList name entries _ :: _ =>
    ((device, name), renderPrefixListSnapshot name entries) :: lists
  | _ => lists

/-! ### Any action -/

/-- What a template changes. -/
inductive TemplateKind where
  | prefixList | staticRoute | neighborShutdown | routeMap | exportPolicy | interfaceMss
    | interfaceAdmin
deriving DecidableEq

/-- The templates that are prepared, by what they change. -/
def kindNames : List (Text × TemplateKind) :=
  [("bgp_advertise_add", .prefixList), ("bgp_advertise_remove", .prefixList),
    ("null_route_prefix", .staticRoute), ("null_route_withdraw", .staticRoute),
    ("blackhole_prefix", .staticRoute), ("blackhole_withdraw", .staticRoute),
    ("null_route_prefix_v6", .staticRoute), ("null_route_withdraw_v6", .staticRoute),
    ("blackhole_prefix_v6", .staticRoute), ("blackhole_withdraw_v6", .staticRoute),
    ("bgp_session_enable", .neighborShutdown), ("bgp_session_disable", .neighborShutdown),
    ("bgp_route_map_set", .routeMap), ("bgp_route_map_unset", .routeMap),
    ("bgp_export_policy_set", .exportPolicy),
    ("iface_tcp_adjust_mss", .interfaceMss), ("iface_tcp_adjust_mss_remove", .interfaceMss),
    ("iface_shutdown", .interfaceAdmin), ("iface_no_shutdown", .interfaceAdmin)]

/-- What a template changes, by its name. -/
def templateKind (name : Text) : Option TemplateKind := kindNames.lookup name

/-- The lists that are edited are of IPv4 networks. -/
theorem network_of_prefixList : ∀ t ∈ catalogue, templateKind t.name = some .prefixList →
    ∀ s ∈ t.schema, s.2.type ≠ .cidr true := by
  decide +kernel

/-- The planner of an action: `prepare_catalog_action`, and the branch for prefix lists. -/
def plannerOf (rtbh : ℕ → Option Text) (mode : PlanMode) (lists : ProjectedLists)
    (projected : Projection)
    (t : Template) (r : PrepareRequest) (subst : NameMap Text) : RouterReads PreparedDeviceAction :=
  match templateKind t.name with
  | some .prefixList => preparePrefixList t r subst lists projected
  | some .staticRoute => prepareStaticRoute rtbh t r subst projected
  | some .neighborShutdown => prepareNeighborShutdown t r subst projected
  | some .routeMap => prepareRouteMapAction r subst projected
  | some .exportPolicy => prepareExportPolicyAction mode r subst projected
  | some .interfaceMss => prepareInterfaceMss t r subst projected
  | some .interfaceAdmin => prepareInterfaceAdmin t r subst projected
  | none => refused ("template '" ++ t.name ++ ("' has no structured read-only preparation " ++
      "implementation; enforced execution is unavailable" : String))

/-- One action of a list, behind what the earlier ones leave. -/
def prepareAction (load : Text → Except Text Template) (rtbh : ℕ → Option Text) (mode : PlanMode)
    (lists : ProjectedLists) (projected : Projection) (r : PrepareRequest) :
    RouterReads PreparedDeviceAction := do
  let t ← decided (load r.templateName)
  if t.name ≠ r.templateName then
    refused ("template identity changed during preparation (expected " ++ r.templateName ++
        ", loaded " ++
      t.name ++ ")")
  else if t.name ∉ preparedTemplateNames then
    refused ("template '" ++ t.name ++ "' is not in the prepared-action catalog")
  else do
    let subst ← decided (validateAndExpand t.schema r.params)
    let action ← plannerOf rtbh mode lists projected t r subst
    pure (action.inMode mode)

/-- The lists behind an action. -/
def listsAfter (r : PrepareRequest) (action : PreparedDeviceAction) (lists : ProjectedLists) :
    ProjectedLists :=
  if templateKind r.templateName = some .prefixList then
    projectList r.device lists action.after else lists

/-- The actions of a list, behind what earlier ones leave. -/
def prepareFrom (load : Text → Except Text Template) (rtbh : ℕ → Option Text) (mode : PlanMode) :
    ProjectedLists → Projection → List PrepareRequest → RouterReads (List PreparedDeviceAction)
  | _, _, [] => pure []
  | lists, projected, r :: requests => do
    let action ← prepareAction load rtbh mode lists projected r
    let actions ← prepareFrom load rtbh mode (listsAfter r action lists)
      (project r.device projected action.after) requests
    pure (action :: actions)

/-- `prepare_actions_read_only_with_reader_for_mode`. -/
def prepareActions (load : Text → Except Text Template) (rtbh : ℕ → Option Text) (mode : PlanMode)
    (requests : List PrepareRequest) : RouterReads (List PreparedDeviceAction) :=
  prepareFrom load rtbh mode [] ∅ requests

end Rerouter
