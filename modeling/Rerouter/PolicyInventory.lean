import Rerouter.Lib.Gather
import Rerouter.DevicePlan
import Rerouter.Allowlist

/-!
# Reading the routing policies of a device

The inventory of `reroute/policy.rs`: the prefix lists, the route maps and the policies attached
to the exports of each peer, off the running configuration (`Rerouter.parseInventory`). What the
reader cannot explain it records as a blocker. A policy attached to a peer is `direct`, and one
attached to a peer group is recorded for each member of the group, as `inherited`.

`Rerouter.proveNeighborContext` is the other reader of the same section
(`reroute/device_plan.rs`): which AS a neighbor is configured in, and in which address family.
The two meet in `Rerouter.readExportPolicy`, where the export policy of a neighbor is put
together from the bindings of its address family.
-/

namespace Rerouter

open Text Ipv4 FirstMatch Gather

/-! ### The records of an inventory -/

/-- `BindingScope`. -/
inductive BindingScope where
  | direct | inherited | ambiguous
deriving DecidableEq

/-- `PeerPolicyBinding`. -/
structure PeerPolicyBinding where
  neighborIp : Text
  localAsn : ℕ
  addressFamily : Text
  direction : Text
  policyKind : PolicyKind
  policyName : Text
  scope : BindingScope
deriving DecidableEq

/-- `RoutingPolicyInventory`. It is complete when it has no blockers. -/
structure RoutingPolicyInventory where
  blockers : List Text
  prefixLists : List NamedPrefixList
  routeMaps : List NamedRouteMap
  peerBindings : List PeerPolicyBinding

/-- A map with texts for keys, in the order of the texts: `BTreeMap<String, _>`. -/
abbrev NameMap (V : Type) := Std.TreeMap Text V compare

/-- The action of an entry or a clause. -/
def permitDeny (tok : Text) : Option PermitDeny :=
  if tok = ("permit" : Text) then some .permit
  else if tok = ("deny" : Text) then some .deny
  else none

/-! ### Prefix lists -/

/-- The name of a list and what stands behind it. -/
def listWords : List Text → Option (Text × List Text)
  | head :: name :: rest =>
    if head = ("prefix-list" : Text) then
      if name = ("sequence-number" : Text) then none else some (name, rest)
    else listWords (name :: rest)
  | _ => none

/-- The `ge` and `le` of an entry. A word in the place of a number is no number. -/
def listQualifiers : List Text → Option ℕ → Option ℕ → Option (Option ℕ × Option ℕ)
  | [], ge, le => some (ge, le)
  | [tok], ge, le =>
    if tok = ("ge" : Text) then some (none, le)
    else if tok = ("le" : Text) then some (ge, none)
    else none
  | tok :: value :: toks, ge, le =>
    if tok = ("ge" : Text) then listQualifiers toks (parseUnsigned 255 value) le
    else if tok = ("le" : Text) then listQualifiers toks ge (parseUnsigned 255 value)
    else none

/-- What a line says about the prefix lists. -/
inductive ListLine where
  | skip
  | blocked (reason : Text)
  | entry (name : Text) (e : PolicyEntry)

/-- A reason that names a prefix list. -/
def listBlocker (name reason : Text) : Text := ("prefix_list_" : Text) ++ name ++ reason

/-- An entry behind its action. -/
def listPrefix (name : Text) (sequence : ℕ) (action : PermitDeny) : List Text → ListLine
  | [] => .blocked (listBlocker name "_invalid_prefix")
  | cidr :: qualifiers =>
    if valid : validPrefix cidr = true then
      match listQualifiers qualifiers none none with
      | some (ge, le) =>
        if ge.any (fun v => 32 < v) || le.any (fun v => 32 < v) then
          .blocked (listBlocker name "_unsupported_qualifier")
        else .entry name ⟨sequence, action, cidr, ge, le, valid⟩
      | none => .blocked (listBlocker name "_unsupported_qualifier")
    else .blocked (listBlocker name "_invalid_prefix")

/-- An entry behind its sequence number. -/
def listAction (name : Text) (sequence : ℕ) (words : List Text) : ListLine :=
  match words.head?.bind permitDeny with
  | some action => listPrefix name sequence action words.tail
  | none => .blocked (listBlocker name "_unsupported_action")

/-- An entry behind the name of its list. -/
def listEntry (name : Text) (words : List Text) : ListLine :=
  match words with
  | seq :: number :: rest =>
    match if seq = ("seq" : Text) then parseUnsigned maxU32 number else none with
    | some sequence => listAction name sequence rest
    | none => .blocked (listBlocker name "_missing_sequence")
  | _ => .blocked (listBlocker name "_missing_sequence")

/-- A line of the prefix lists. -/
def listLine (line : Text) : ListLine :=
  match listWords (splitWhitespace line) with
  | some (name, rest) => listEntry name rest
  | none => .skip

/-- The prefix lists so far. -/
structure ListScan where
  lists : NameMap NamedPrefixList
  blockers : List Text

/-- A line, after those before it. -/
def ListScan.read (st : ListScan) : ListLine → ListScan
  | .skip => st
  | .blocked reason => { st with blockers := st.blockers ++ [reason] }
  | .entry name e =>
    let list := (st.lists[name]?).getD ⟨name, []⟩
    { st with lists := st.lists.insert name { list with entries := list.entries ++ [e] } }

/-- Whether two entries next to each other have the same sequence number. -/
def duplicateSequence : List PolicyEntry → Bool
  | a :: b :: entries => a.sequence = b.sequence || duplicateSequence (b :: entries)
  | _ => false

/-- The prefix lists of a configuration, in the order of their names, and what blocks them. -/
def parseLists (prefixLists : Text) : List NamedPrefixList × List Text :=
  let scan := ((lines prefixLists).map listLine).foldl ListScan.read ⟨∅, []⟩
  let lists := scan.lists.values.map fun l =>
    { l with entries := sortByKey PolicyEntry.sequence l.entries }
  (lists, scan.blockers ++ (lists.filter fun l => duplicateSequence l.entries).map fun l =>
    listBlocker l.name "_duplicate_sequence")

/-! ### Route maps -/

/-- The route maps so far, and the clause that is being read. -/
structure MapScan where
  maps : NameMap NamedRouteMap
  active : Option (Text × ℕ)
  blockers : List Text

/-- A reason that names a route map. -/
def mapBlocker (name reason : Text) : Text := ("route_map_" : Text) ++ name ++ reason

/-- The kind of a term: its first words. -/
def termKind (n : ℕ) (v : Text) : Text := List.intercalate ['_'] ((splitWhitespace v).take n)

/-- A change of the clause that is being read. -/
def MapScan.modifyActive (st : MapScan) (f : RouteMapClause → RouteMapClause) : MapScan :=
  match st.active with
  | some (name, idx) =>
    { st with maps := st.maps.modify name fun m => { m with clauses := m.clauses.modify idx f } }
  | none => st

/-- A line of a clause. -/
def MapScan.term (st : MapScan) (line : Text) : MapScan :=
  match stripPrefix "match " (trim line) with
  | some v => st.modifyActive fun c => { c with conditions := c.conditions ++ [⟨termKind 3 v, v⟩] }
  | none =>
    match stripPrefix "set " (trim line) with
    | some v => st.modifyActive fun c => { c with sets := c.sets ++ [⟨termKind 2 v, v⟩] }
    | none => st

/-- The line that opens a clause. -/
def MapScan.clause (st : MapScan) (name act seq : Text) : MapScan :=
  match permitDeny act with
  | none => { st with blockers := st.blockers ++ [mapBlocker name "_unsupported_action"] }
  | some action =>
    match parseUnsigned maxU32 seq with
    | none => { st with blockers := st.blockers ++ [mapBlocker name "_invalid_sequence"] }
    | some sequence =>
      let map := (st.maps[name]?).getD ⟨name, []⟩
      { st with
        maps :=
          st.maps.insert name { map with clauses := map.clauses ++ [⟨sequence, action, [], []⟩] }
        active := some (name, map.clauses.length) }

/-- A line, after those before it. -/
def MapScan.read (st : MapScan) (line : Text) : MapScan :=
  match splitWhitespace line with
  | [head, name, act, seq] =>
    if head = ("route-map" : Text) then st.clause name act seq else st.term line
  | _ => st.term line

/-- The route maps of a configuration, in the order of their names, and what blocks them. -/
def parseMaps (routeMaps : Text) : List NamedRouteMap × List Text :=
  let scan := (lines routeMaps).foldl MapScan.read ⟨∅, none, []⟩
  (scan.maps.values, scan.blockers)

/-! ### Peer bindings -/

/-- The address family of the lines outside every `address-family` block. -/
def globalFamily : Text := "default_ipv4"

/-- The address family of a block. -/
def familyOf (v : Text) : Text :=
  if v = ("ipv4" : Text) ∨ v = ("ipv4 unicast" : Text) then "ipv4" else "unsupported"

/-- A line of the BGP section. -/
inductive BgpLine where
  | router (asn : Text)
  | family (name : Text)
  | exitFamily
  /-- A neighbor statement, behind its first word. -/
  | neighbor (words : List Text)
  | other

/-- What a line of the BGP section is. -/
def bgpLine (line : Text) : BgpLine :=
  match stripPrefix "router bgp " (trim line) with
  | some v => .router v
  | none =>
    match stripPrefix "address-family " (trim line) with
    | some v => .family v
    | none =>
      if trim line = ("exit-address-family" : Text) then .exitFamily
      else
        match stripPrefix "neighbor " (trim line) with
        | some r => .neighbor (splitWhitespace r)
        | none => .other

/-- The kind of policy a word attaches. -/
def policyKindOf (verb : Text) : Option PolicyKind :=
  if verb = ("prefix-list" : Text) then some .prefixList
  else if verb = ("route-map" : Text) then some .routeMap
  else none

/-- The member and the group of a neighbor statement that makes a peer a member. -/
def membershipOf : List Text → Option (Text × Text)
  | [peer, verb, group] =>
    if verb = ("peer-group" : Text) && isIpv4 peer then some (peer, group) else none
  | _ => none

/-- The owner of an outbound policy, its kind and its name. -/
def outboundOf : List Text → Option (Text × PolicyKind × Text)
  | [owner, verb, name, direction] =>
    if direction = ("out" : Text) then (policyKindOf verb).map fun kind =>
      (owner, kind, name) else none
  | _ => none

/-- The bindings so far. -/
structure BindingScan where
  asn : Option ℕ
  family : Text
  /-- The policies attached to a peer, with the address family. -/
  direct : List (Text × PolicyKind × Text × Text)
  groups : NameMap (List (PolicyKind × Text))
  memberships : NameMap Text
  blockers : List Text

/-- An outbound policy, in the current address family. -/
def BindingScan.outbound (st : BindingScan) (owner : Text) (kind : PolicyKind)
    (name : Text) : BindingScan :=
  if st.family = ("unsupported" : Text) then
    { st with blockers := st.blockers ++ [("unsupported_address_family_for_" : Text) ++ owner] }
  else
    match parseAddr owner with
    | some ip => { st with direct := st.direct ++ [(addrText ip, kind, name, st.family)] }
    | none => { st with groups := push st.groups (some (owner, kind, name)) }

/-- A neighbor statement. -/
def BindingScan.neighbor (st : BindingScan) (words : List Text) : BindingScan :=
  match outboundOf words with
  | some (owner, kind, name) => st.outbound owner kind name
  | none => { st with memberships := put st.memberships (membershipOf words) }

/-- A line, after those before it. -/
def BindingScan.read (st : BindingScan) : BgpLine → BindingScan
  | .router v => { st with asn := parseUnsigned maxU32 v }
  | .family v => { st with family := familyOf v }
  | .exitFamily => { st with family := globalFamily }
  | .neighbor words => st.neighbor words
  | .other => st

/-- The lines of a BGP section. -/
def bgpLines (bgp : Text) : List BgpLine := (lines bgp).map bgpLine

/-- The scan of a BGP section. -/
def scanBindings (bgp : Text) : BindingScan :=
  (bgpLines bgp).foldl BindingScan.read ⟨none, globalFamily, [], ∅, ∅, []⟩

/-- The bindings of the policies attached to a peer. -/
def directBindings (localAsn : ℕ) (st : BindingScan) : List PeerPolicyBinding :=
  st.direct.map fun d => ⟨d.1, localAsn, d.2.2.2, "out", d.2.1, d.2.2.1, .direct⟩

/-- The bindings a peer has from its group. -/
def inheritedBindings (localAsn : ℕ) (st : BindingScan) : List PeerPolicyBinding :=
  st.memberships.toList.flatMap fun m =>
    match st.groups[m.2]? with
    | some policies => policies.map fun p =>
      ⟨m.1, localAsn, "ipv4", "out", p.1, p.2, if policies.length = 1 then
          .inherited else .ambiguous⟩
    | none => []

/-- Two bindings for the same place. -/
def PeerPolicyBinding.samePlace (a b : PeerPolicyBinding) : Bool :=
  a.neighborIp = b.neighborIp && a.addressFamily = b.addressFamily && a.direction = b.direction &&
    a.policyKind = b.policyKind

/-- A place that several bindings are for is ambiguous. -/
def markAmbiguous (bindings : List PeerPolicyBinding) : List PeerPolicyBinding :=
  bindings.map fun b =>
    if 1 < bindings.countP fun other => other.samePlace b then { b with scope := .ambiguous } else b

/-- `parse_bindings`: the AS and the bindings, from a scan of the section. -/
def parseBindings (st : BindingScan) : Option ℕ × List PeerPolicyBinding :=
  match st.asn with
  | none => (none, [])
  | some localAsn =>
    (some localAsn, markAmbiguous (directBindings localAsn st ++ inheritedBindings localAsn st))

/-! ### The inventory -/

/-- Whether the policy of a binding is defined. -/
def PeerPolicyBinding.known (lists : List NamedPrefixList) (maps : List NamedRouteMap)
    (b : PeerPolicyBinding) : Bool :=
  match b.policyKind with
  | .prefixList => lists.any fun l => l.name = b.policyName
  | .routeMap => maps.any fun m => m.name = b.policyName

/-- `parse_inventory`. -/
def parseInventory (bgp routeMaps prefixLists : Text) : RoutingPolicyInventory :=
  let lists := parseLists prefixLists
  let maps := parseMaps routeMaps
  let scan := scanBindings bgp
  let bindings := parseBindings scan
  { blockers := lists.2 ++ maps.2 ++ scan.blockers ++
      (bindings.2.filter fun b => !b.known lists.1 maps.1).map (fun b =>
        ("dangling_policy_" : Text) ++ b.policyName) ++
      if bindings.1 = none then [("bgp_local_asn_unproven" : Text)] else []
    prefixLists := lists.1
    routeMaps := maps.1
    peerBindings := bindings.2 }

/-! ### The context of a neighbor -/

/-- The lines about a neighbor so far. -/
structure ContextScan where
  family : Text
  /-- The address families a line enables the neighbor in. -/
  found : List Text
  globalDeclared : Bool

/-- A statement that enables a neighbor in the address family it stands in. -/
def enablesNeighbor (rest : Text) : Bool :=
  rest = ("activate" : Text) || startsWith "prefix-list " rest || startsWith "route-map " rest

/-- A line, after those before it. -/
def ContextScan.read (neighbor : Text) (st : ContextScan) (line : Text) : ContextScan :=
  match stripPrefix "address-family " (trim line) with
  | some v => { st with family := familyOf v }
  | none =>
    if trim line = ("exit-address-family" : Text) then { st with family := globalFamily }
    else
      match stripPrefix ("neighbor " ++ neighbor ++ " ") (trim line) with
      | none => st
      | some rest =>
        if st.family = globalFamily then { st with globalDeclared := true }
        else if enablesNeighbor rest then { st with found := st.found.insert st.family }
        else st

/-- The first AS of a section that reads as a number. -/
def sectionAsn (config : Text) : Option ℕ :=
  (lines config).findSome? fun line =>
    (stripPrefix "router bgp " (trim line)).bind (parseUnsigned maxU32)

/-- The address families a neighbor is declared in: that of the section, where no line enables it in
another. -/
def ContextScan.families (st : ContextScan) : List Text :=
  if st.found = [] ∧ st.globalDeclared = true then [globalFamily] else st.found

/-- The scan of a section for a neighbor. -/
def scanContext (config neighbor : Text) : ContextScan :=
  (lines config).foldl (ContextScan.read neighbor) ⟨globalFamily, [], false⟩

/-- `prove_neighbor_context`: the AS, and the one address family of a neighbor. -/
def proveNeighborContext (config neighbor : Text) : Except Text (ℕ × Text) := do
  let localAsn ← okOr "local BGP ASN is unproven" (sectionAsn config)
  match (scanContext config neighbor).families with
  | [family] =>
    if family = ("unsupported" : Text) then
      .error ("peer " ++ neighbor ++ " is in an unsupported address family")
    else .ok (localAsn, family)
  | _ =>
    .error ("peer " ++ neighbor ++
      " was not proven in exactly one supported IPv4 configuration scope")

/-! ### The export policy of a neighbor -/

/-- The name of the first binding of a kind. -/
def boundPolicy (kind : PolicyKind) (bindings : List PeerPolicyBinding) : Option Text :=
  (bindings.find? fun b => b.policyKind = kind).map PeerPolicyBinding.policyName

/-- The bindings of a neighbor in an address family. -/
def bindingsOf (neighbor family : Text) (bindings : List PeerPolicyBinding) :
    List PeerPolicyBinding :=
  bindings.filter fun b =>
    b.neighborIp = neighbor && b.addressFamily = family && b.direction = ("out" : Text)

/-- The export policy of a neighbor that its bindings in an address family make up. -/
def boundAttachment (inventory : RoutingPolicyInventory) (neighbor : Text) (localAsn : ℕ)
    (family : Text) (matching : List PeerPolicyBinding) : Except Text ExportPolicyAttachment :=
  if matching.any fun b => b.scope ≠ .direct then
    .error ("peer " ++ neighbor ++
        " export policy is inherited or ambiguous; direct attachment required")
  else if 1 < matching.countP (fun b => b.policyKind = .prefixList) ∨
      1 < matching.countP (fun b => b.policyKind = .routeMap) then
    .error ("peer " ++ neighbor ++ " has ambiguous duplicate direct outbound policy bindings")
  else .ok
    { localAsn, neighbor
      addressFamily := family
      prefixList := boundPolicy .prefixList matching
      routeMap := boundPolicy .routeMap matching
      prefixLists := inventory.prefixLists
      routeMaps := inventory.routeMaps
      requiredPrefixLists := none
      requiredRouteMaps := none }

/-- The export policy of a neighbor, as `prepare_export_policy` reads it off the configuration. -/
def readExportPolicy (bgp routeMaps prefixLists neighbor : Text) :
    Except Text ExportPolicyAttachment :=
  let inventory := parseInventory bgp routeMaps prefixLists
  if inventory.blockers ≠ [] then
    .error ("routing-policy inventory is incomplete: " ++ List.intercalate (", " :
      Text) inventory.blockers)
  else do
    let (localAsn, family) ← proveNeighborContext bgp neighbor
    boundAttachment inventory neighbor localAsn family
      (bindingsOf neighbor family inventory.peerBindings)

/-- The export policy an earlier action of the same preparation leaves, or the one that is read. -/
def exportPolicyBefore (projected : Option DeviceStateSnapshot)
    (bgp routeMaps prefixLists neighbor : Text) : Except Text ExportPolicyAttachment :=
  match projected with
  | none => readExportPolicy bgp routeMaps prefixLists neighbor
  | some (.exportPolicyAttachment a) => .ok a
  | some _ => .error "projected export-policy state has the wrong type"

/-- `prepare_export_policy`, off the running configuration. -/
def prepareExportPolicyFrom (input : PrepareInput) (neighbor : Text) (kind : PolicyKind)
    (desiredName : Text) (projected : Option DeviceStateSnapshot) (bgp routeMaps prefixLists : Text)
    (mode : PlanMode) : Except Text PreparedDeviceAction := do
  let read ← exportPolicyBefore projected bgp routeMaps prefixLists neighbor
  prepareExportPolicy input neighbor kind desiredName read mode

end Rerouter
