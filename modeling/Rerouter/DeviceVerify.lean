import Rerouter.Lib.Reads
import Rerouter.DeviceEvidence

/-!
# Verifying the state of a router

`Rerouter.verifyCurrent` compares a router with the snapshots that are expected of it, one after
another, by `show` commands: a program of reads, each of which names the device it is sent to. The
program is the same whether it is run in a session that holds the configuration lock, against the
router of a preview, or on a fixed set of outputs.

`Rerouter.stateKey` names the object a snapshot is about. A list of actions is checked against the
router with the states its earlier actions leave put in the place of what is read
(`Rerouter.verifyPreparedSequence`).
-/

namespace Rerouter

open Text

/-- A command, and the device that it is sent to. -/
abbrev Show := ℕ × Text

/-- A program that reads routers. -/
abbrev RouterReads (α : Type) := Reads Show Text Text α

/-- One command. -/
def showOn (device : ℕ) (command : Text) : RouterReads Text := Reads.question (device, command)

/-- A step that reads nothing. -/
def decided {α : Type} (r : Except Text α) : RouterReads α := Reads.result r

/-! ### The commands -/

/-- The command that shows the BGP section. -/
def bgpSection : Text := "show running-config | section ^router bgp"

/-- The command that shows the route maps. -/
def routeMapSection : Text := "show running-config | section ^route-map"

/-- The command that shows the prefix lists. -/
def prefixListSection : Text := "show running-config | section ^ip prefix-list"

/-- The command that shows the routing entry of a network. -/
def routeCommand (normalized : Text) : Except Text Text :=
  match splitOnce '/' normalized with
  | none => .error ("invalid route prefix " ++ debugText normalized)
  | some (network, _) =>
    .ok (if ':' ∈ normalized then "show ipv6 route " ++ normalized else "show ip route " ++ network)

/-- The command that shows the BGP entry of a network. -/
def bgpRouteCommand (cidr : Text) : Text :=
  if ':' ∈ cidr then "show bgp ipv6 unicast " ++ cidr else "show ip bgp " ++ cidr

/-! ### One snapshot -/

/-- A prefix list, and what consumes it. -/
def verifyPrefixList (device : ℕ) (name : Text) (entries : List PrefixListSnapshotEntry)
    (consumers : List PrefixListConsumer) : RouterReads Bool := do
  let output ← showOn device ("show ip prefix-list " ++ name)
  let actual ← decided (parsePrefixList output name)
  let bgp ← showOn device bgpSection
  let routeMaps ← showOn device routeMapSection
  let fullConfig ← showOn device "show running-config"
  pure (actual.map prefixEntrySnapshot = entries ∧
    prefixListConsumers bgp routeMaps fullConfig name = consumers)

/-- A static route. -/
def verifyStaticRoute (device : ℕ) (r : StaticRoute) : RouterReads Bool := do
  let command ← decided (staticConfigReadCommand r)
  let output ← showOn device command
  let verdict ← decided (staticExpectedEvidence output r r.present)
  decided (evidenceMatches verdict (if r.v6 then "IPv6 static-route" else "IPv4 static-route"))

/-- What a neighbor is told of a network. -/
def verifyAdvertisement (device : ℕ) (neighbor cidr : Text) (present : Bool)
    (community : Option Text) :
    RouterReads Bool := do
  let output ← showOn device ("show ip bgp neighbors " ++ neighbor ++ " advertised-routes")
  decided (evidenceMatches (bgpEvidence output cidr community true present) "BGP advertisement")

/-- The routing entry of a network. -/
def verifyRouteResolution (device : ℕ) (cidr nextHop : Text) (present : Bool) : RouterReads Bool :=
  do
  let normalized ← decided (okOr ("invalid route prefix " ++ debugText cidr) (normalizeCidr cidr))
  let command ← decided (routeCommand normalized)
  let output ← showOn device command
  decided (evidenceMatches (routeResolutionEvidence output normalized nextHop present)
    "route-resolution")

/-- The BGP entry of a network. -/
def verifyBgpRoute (device : ℕ) (cidr : Text) (present : Bool) (community : Option Text) :
    RouterReads Bool := do
  let output ← showOn device (bgpRouteCommand cidr)
  decided (evidenceMatches (bgpEvidence output cidr community false present) "BGP route")

/-- Whether a neighbor is shut down in the configuration. -/
def verifyNeighborShutdown (device localAsn : ℕ) (neighbor : Text) (shutdown : Bool) :
    RouterReads Bool := do
  let output ← showOn device bgpSection
  pure (hasRouterLine output localAsn &&
    decide (hasExactConfigLine output ("neighbor " ++ neighbor ++ " shutdown") = shutdown))

/-- The state of a neighbor's session. -/
def verifyNeighborState (device : ℕ) (neighbor : Text) (administrativelyShutdown : Bool)
    (state : Option Text) : RouterReads Bool := do
  let output ← showOn device ("show ip bgp neighbors " ++ neighbor)
  let actual ← decided (parseBgpNeighborState output neighbor)
  pure (decide (actual.administrativelyShutdown = administrativelyShutdown) &&
    state.all fun expected => actual.state = some expected)

/-- The route map of a neighbor. -/
def verifyRouteMap (device localAsn : ℕ) (neighbor direction : Text)
    (addressFamily routeMap : Option Text) :
    RouterReads Bool := do
  let output ← showOn device bgpSection
  match addressFamily with
  | none => pure false
  | some family => do
    let actual ← decided (parseRouteMapAssignmentScoped output neighbor direction family)
    pure (hasRouterLine output localAsn && decide (actual = routeMap))

/-- Whether the policies an attachment needs are defined as they were, and else all of them. -/
def requiredMatch {P : Type} [DecidableEq P] (name : P → Text) (required : Option (List Text))
    (expected actual : List P) : Bool :=
  match required with
  | some required => required.all fun n =>
      (expected.find? fun p => name p = n).isSome &&
        decide (actual.find? (fun p => name p = n) = expected.find? fun p => name p = n)
  | none => actual = expected

/-- The bindings of an attachment. -/
def attachmentBindings (a : ExportPolicyAttachment) (bindings : List PeerPolicyBinding) :
    List PeerPolicyBinding :=
  bindings.filter fun b =>
    b.neighborIp = a.neighbor && b.localAsn = a.localAsn && b.addressFamily = a.addressFamily &&
      b.direction = ("out" : Text) && b.scope = .direct

/-- Whether an inventory shows an attachment. -/
def inventoryShows (inventory : RoutingPolicyInventory) (a : ExportPolicyAttachment) : Bool :=
  inventory.blockers.isEmpty &&
    decide (boundPolicy .prefixList (attachmentBindings a inventory.peerBindings) = a.prefixList) &&
      decide (boundPolicy .routeMap (attachmentBindings a inventory.peerBindings) = a.routeMap) &&
        requiredMatch NamedPrefixList.name a.requiredPrefixLists a.prefixLists
        inventory.prefixLists &&
          requiredMatch NamedRouteMap.name a.requiredRouteMaps a.routeMaps inventory.routeMaps

/-- The export policy of a neighbor. -/
def verifyExportPolicy (device : ℕ) (a : ExportPolicyAttachment) : RouterReads Bool := do
  let bgp ← showOn device bgpSection
  let routeMaps ← showOn device routeMapSection
  let prefixLists ← showOn device prefixListSection
  pure (inventoryShows (parseInventory bgp routeMaps prefixLists) a)

/-- Whether an interface is shut down in the configuration. -/
def verifyInterfaceAdmin (device : ℕ) (interface : Text) (shutdown : Bool) : RouterReads Bool := do
  let output ← showOn device ("show running-config interface " ++ interface)
  decided (validateInterfaceStanza output interface)
  pure (hasExactConfigLine output "shutdown" = shutdown)

/-- Whether an interface is down. -/
def verifyInterfaceOperational (device : ℕ) (interface : Text) (down : Bool) : RouterReads Bool :=
  do
  let output ← showOn device ("show interfaces " ++ interface)
  pure (provesInterface output interface && decide (administrativelyDown output = down))

/-- The MSS of an interface. -/
def verifyInterfaceMss (device : ℕ) (interface : Text) (mss : Option ℕ) : RouterReads Bool := do
  let output ← showOn device ("show running-config interface " ++ interface)
  decided (validateInterfaceStanza output interface)
  pure (stanzaMss output = mss)

/-- One state of `verify_current`. -/
def verifyState (device : ℕ) : DeviceStateSnapshot → RouterReads Bool
  | .prefixList name entries consumers => verifyPrefixList device name entries consumers
  | .ipv4StaticRoute cidr nextHop tag present =>
    verifyStaticRoute device ⟨false, cidr, nextHop, tag, present⟩
  | .ipv6StaticRoute cidr nextHop tag present =>
    verifyStaticRoute device ⟨true, cidr, nextHop, tag, present⟩
  | .routeResolution cidr nextHop present => verifyRouteResolution device cidr nextHop present
  | .bgpAdvertisement neighbor cidr present community =>
    verifyAdvertisement device neighbor cidr present community
  | .bgpRoute cidr present community => verifyBgpRoute device cidr present community
  | .neighborShutdown localAsn neighbor shutdown =>
    verifyNeighborShutdown device localAsn neighbor shutdown
  | .bgpNeighborState neighbor administrativelyShutdown state =>
    verifyNeighborState device neighbor administrativelyShutdown state
  | .routeMapAssignment localAsn neighbor direction addressFamily routeMap =>
    verifyRouteMap device localAsn neighbor direction addressFamily routeMap
  | .exportPolicyAttachment a => verifyExportPolicy device a
  | .interfaceAdmin interface shutdown => verifyInterfaceAdmin device interface shutdown
  | .interfaceOperational interface down => verifyInterfaceOperational device interface down
  | .interfaceMss interface mss => verifyInterfaceMss device interface mss

/-- `verify_current`. -/
def verifyCurrent (device : ℕ) : List DeviceStateSnapshot → RouterReads Bool
  | [] => pure true
  | state :: states => do
    if ← verifyState device state then verifyCurrent device states else pure false

/-! ### The keys of states -/

/-- A tag, as a key prints it. -/
def optionText (inner : Text) : Option Text → Text
  | some t => "Some(" ++ t ++ ")"
  | none => inner

/-- `state_key`. -/
def stateKey (device : ℕ) (state : DeviceStateSnapshot) : Text :=
  natText device ++ ':' ::
    match state with
    | .prefixList name _ _ => "prefix_list:" ++ name
    | .ipv4StaticRoute cidr nextHop tag _ =>
      "v4_route:" ++ cidr ++ ':' :: nextHop ++ ':' :: optionText "None" (tag.map natText)
    | .ipv6StaticRoute cidr nextHop tag _ =>
      "v6_route:" ++ cidr ++ ':' :: nextHop ++ ':' :: optionText "None" (tag.map natText)
    | .routeResolution cidr nextHop _ => "route_resolution:" ++ cidr ++ ':' :: nextHop
    | .neighborShutdown _ neighbor _ => "neighbor:" ++ neighbor
    | .bgpNeighborState neighbor _ _ => "neighbor_operational:" ++ neighbor
    | .routeMapAssignment _ neighbor direction addressFamily _ =>
      "route_map:" ++ neighbor ++ ':' :: direction ++ ':' ::
        optionText "None" (addressFamily.map debugText)
    | .exportPolicyAttachment a => "export_policy:" ++ a.neighbor ++ ':' :: a.addressFamily
    | .interfaceAdmin interface _ => "interface_admin:" ++ interface
    | .interfaceOperational interface _ => "interface_operational:" ++ interface
    | .interfaceMss interface _ => "interface_mss:" ++ interface
    | .bgpRoute cidr _ _ => "bgp_route:" ++ cidr
    | .bgpAdvertisement neighbor cidr _ _ => "bgp_advertisement:" ++ neighbor ++ ':' :: cidr

/-- The states that earlier actions leave, by their keys. -/
abbrev Projection := NameMap DeviceStateSnapshot

/-- The states of an action, after those before them. -/
def project (device : ℕ) (projected : Projection) (states : List DeviceStateSnapshot) :
    Projection :=
  states.foldl (fun p state => p.insert (stateKey device state) state) projected

/-! ### A list of actions -/

/-- The states before an action. One that an earlier action leaves is compared with what that
leaves, and only the others with the router. -/
def verifyBefore (device : ℕ) (projected : Projection) : List DeviceStateSnapshot → RouterReads Bool
  | [] => pure true
  | before :: befores =>
    match projected[stateKey device before]? with
    | some priorAfter =>
      if priorAfter ≠ before then pure false else verifyBefore device projected befores
    | none => do
      if ← verifyCurrent device [before] then verifyBefore device projected befores else pure false

/-- The actions of a list, behind what earlier ones leave. -/
def verifySequenceFrom : Projection → List PreparedDeviceAction → RouterReads Bool
  | _, [] => pure true
  | projected, action :: actions => do
    decided action.validate
    if ← verifyBefore action.device projected action.before then
      verifySequenceFrom (project action.device projected action.after) actions
    else pure false

/-- `verify_prepared_sequence`. -/
def verifyPreparedSequence (actions : List PreparedDeviceAction) : RouterReads Bool :=
  verifySequenceFrom ∅ actions

end Rerouter
