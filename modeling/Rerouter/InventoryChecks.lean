import Rerouter.DiscoveryRun
import Rerouter.RuleEdits
import Rerouter.TemplateCatalog
import Rerouter.TemplateRendering

/-!
# Parameters against the inventories

`canonicalize_inventory_params` and `prefix_target_is_contained` of `reroute/templates.rs`: what an
action is checked against when it is stored, when it runs and when the drift audit looks at it
again. A parameter whose schema names a `source` has to stand in the tables of that source, and
each table is trusted for some time only. What SNMP polled is trusted for a day, what was read over
SSH for two (`Rerouter.Drift.fresh`).

The checks compute (`Rerouter.Drift.canonicalizeInventoryParams`). What they come to, for a template
of the catalogue and tables that a conclusive run has just written, is said without them:

| why a check fails | as a predicate |
|---|---|
| the run did not find what a parameter names | `Rerouter.Drift.Missing` |
| any other reason | `Rerouter.Drift.Obstructed` |

and `Rerouter.Drift.checks_iff` says that nothing else makes a check fail.
-/

namespace Rerouter.Drift

open Text

/-! ### The checks -/

/-- `SNMP_INVENTORY_MAX_AGE_HOURS`. -/
def snmpInventoryMaxAgeHours : ℕ := 24

/-- `ROUTING_INVENTORY_MAX_AGE_HOURS`. -/
def routingInventoryMaxAgeHours : ℕ := 48

/-- A time that is not older than some hours. -/
def fresh (now hours : ℕ) (time : Option ℕ) : Bool :=
  time.any fun t => decide (now ≤ t + hours * 3600)

/-- `valid_cli_interface_identity`. -/
def validCliInterfaceIdentity (value : Text) : Bool :=
  !value.isEmpty && decide ((value.map Char.utf8Size).sum ≤ 191) && value.head?.any Char.isAlpha &&
    value.all fun c => c.isAlphanum || decide (c ∈ ['/', '.', '-', ':', '_'])

/-- `requires_announced_prefix_containment`. -/
def requiresAnnouncedPrefixContainment (name : Text) : Bool :=
  decide (name ∈ (["null_route_prefix", "null_route_withdraw", "null_route_prefix_v6",
    "null_route_withdraw_v6", "blackhole_prefix", "blackhole_withdraw", "blackhole_prefix_v6",
    "blackhole_withdraw_v6"] : List Text))

/-- The templates whose tag has to be catalogued. -/
def requiresTag (name : Text) : Bool :=
  decide (name ∈ (["blackhole_prefix", "blackhole_withdraw", "blackhole_prefix_v6",
    "blackhole_withdraw_v6"] : List Text))

/-- The tables a parameter may be looked up in. -/
inductive Source where
  | interfaceName | bgpPeer | bgpLocalAs | announcedPrefix | peerOutPrefixList | routeMap
    | routingExportPolicy
  | bgpDirection | rtbhTag | other
deriving DecidableEq

/-- A `source` of a schema. -/
def sourceOf (source : Text) : Source :=
  if source = ("interface_name" : Text) then .interfaceName
  else if source = ("bgp_peer" : Text) then .bgpPeer
  else if source = ("bgp_local_as" : Text) then .bgpLocalAs
  else if source = ("announced_prefix" : Text) then .announcedPrefix
  else if source = ("peer_out_prefix_list" : Text) then .peerOutPrefixList
  else if source = ("route_map" : Text) then .routeMap
  else if source = ("routing_export_policy" : Text) then .routingExportPolicy
  else if source = ("bgp_direction" : Text) then .bgpDirection
  else if source = ("rtbh_tag" : Text) then .rtbhTag
  else .other

section Checks

variable {κ : Type} [DecidableEq κ] (fold : Text → κ) (now device : ℕ) (inv : Inventories)

/-- The interface a value names, as the commands write it. -/
def interfaceName (value : Text) : Option Text := do
  let row ← inv.interfaces.find? fun r =>
    (r.ifName.any (same fold value) || r.ifDescr.any (same fold value)) &&
    fresh now snmpInventoryMaxAgeHours r.lastSeenAt
  (row.ifDescr.filter validCliInterfaceIdentity).or (row.ifName.filter validCliInterfaceIdentity)

/-- The peer a value names. -/
def polledPeer (value : Text) : Option Text :=
  (inv.peers.find? fun p => same fold value p.peerRemoteAddr &&
    fresh now snmpInventoryMaxAgeHours p.lastPolledAt).map PeerRow.peerRemoteAddr

/-- The AS number of the router. -/
def polledAsn (asn : ℕ) : Option ℕ :=
  (inv.peers.find? fun p => decide (p.localAs = some asn) &&
    fresh now snmpInventoryMaxAgeHours p.lastPolledAt).map fun _ => asn

/-- A name in a table of discovered names. -/
def discoveredName (rows : List DiscoveredRow) (value : Text) : Option Text :=
  (rows.find? fun r => same fold value r.name &&
    fresh now routingInventoryMaxAgeHours r.lastDiscoveredAt).map DiscoveredRow.name

/-- A list that some peer has. -/
def attachedList (value : Text) : Option Text :=
  (inv.peers.find? fun p => p.outPrefixList.any (same fold value) &&
    fresh now routingInventoryMaxAgeHours p.routeContextDiscoveredAt).bind PeerRow.outPrefixList

/-- The kinds of policies. -/
def policyKinds : List Text := ["prefix_list", "route_map"]

/-- Whether a typed inventory has a policy. -/
def hasPolicy (inventory : RoutingPolicyInventory) (kind value : Text) : Bool :=
  if kind = ("prefix_list" : Text) then inventory.prefixLists.any fun l => l.name = value
  else inventory.routeMaps.any fun m => m.name = value

/-- A policy of the typed inventory. -/
def exportPolicy (kind : Option Text) (value : Text) : Except Text (Option Text) := do
  let snapshot ← okOr ("routing-policy inventory is missing or stale for device ".toList ++
    natText device)
    (inv.policy.filter fun p => fresh now routingInventoryMaxAgeHours (some p.readAt))
  if snapshot.completeness ≠ completeText then
    .error ("routing-policy inventory is incomplete for device ".toList ++ natText device)
  else do
    let kind ← okOr "policy_kind is required" kind
    if kind ∉ policyKinds then
      .error ("unsupported export policy kind '".toList ++ kind ++ "'")
    else .ok (if hasPolicy snapshot.inventory kind value then some value else none)

/-- A parameter in the tables of its source: how it stands there, if it does. -/
def resolve (kind : Option Text) (name source value : Text) : Except Text (Option Text) :=
  match sourceOf source with
  | .interfaceName => .ok (interfaceName fold now inv value)
  | .bgpPeer => .ok (polledPeer fold now inv value)
  | .bgpLocalAs => do
    let asn ← okOr (paramError name " must be an AS number") (parseUnsigned maxU32 value)
    .ok ((polledAsn now inv asn).map natText)
  | .announcedPrefix => .ok (discoveredName fold now inv.networks value)
  | .peerOutPrefixList => .ok (attachedList fold now inv value)
  | .routeMap => .ok (discoveredName fold now inv.routeMaps value)
  | .routingExportPolicy => exportPolicy now device inv kind value
  | .bgpDirection => .ok (some value)
  | .rtbhTag => do
    let tag ← okOr (paramError name " must be an RTBH tag") (parseUnsigned maxU32 value)
    .ok ((inv.tags.find? fun t => t = tag).map natText)
  | .other =>
    .error ("unsupported inventory source '".toList ++ source ++ "' on parameter '" ++ name ++ "'")

/-- The parameter that says which kind of policy is meant. -/
def policyKindParam : Text := "policy_kind"

/-- The parameter that names a neighbor. -/
def neighborIpParam : Text := "neighbor_ip"

/-- The parameter that names its list. -/
def prefixListNameParam : Text := "prefix_list_name"

/-- The parameter that is never taken from a caller. -/
def priorRouteMapParam : Text := "prior_route_map"

/-- The parameter of a tag. -/
def tagParam : Text := "tag"

/-- The parameter of a network. -/
def prefixParam : Text := "prefix"

/-- A text among the values of a caller. -/
def textOf (params : Params) (name : Text) : Option Text := params[name]?.bind ParamValue.asStr

/-- The parameters of a schema that name a source, one after another. -/
def resolveAll (subst : NameMap Text) : Schema → Params → Except Text Params
  | [], canonical => .ok canonical
  | (name, spec) :: schema, canonical =>
    match spec.source with
    | none => resolveAll subst schema canonical
    | some source => do
      let value ← okOr ("missing inventory-backed parameter '".toList ++ name ++ "'") subst[name]?
      let found ← resolve fold now device inv (textOf canonical policyKindParam) name source value
      let resolved ← okOr ("parameter '".toList ++ name ++ "' value '" ++ value ++
        "' was not discovered on device " ++ natText device) found
      resolveAll subst schema (canonical.insert name (.string resolved))

/-- The tag of a blackhole action. -/
def checkTag (t : Template) (subst : NameMap Text) (canonical : Params) : Except Text Params :=
  if requiresTag t.name then do
    let given ← okOr "blackhole action has no RTBH tag" subst[tagParam]?
    let tag ← okOr "invalid digit found in string" (parseUnsigned maxU32 given)
    if inv.tags.count tag = 0 then
      .error ("RTBH tag ".toList ++ natText tag ++
          " is not present in the approved community catalog")
    else .ok (canonical.insert tagParam (.string (natText tag)))
  else .ok canonical

/-- Whether a peer has a list. -/
def linked (peer list : Text) : Bool :=
  inv.peers.any fun p => same fold peer p.peerRemoteAddr && p.outPrefixList.any (same fold list) &&
    fresh now routingInventoryMaxAgeHours p.routeContextDiscoveredAt

/-- A peer and a list that are both given belong together. -/
def checkLink (canonical : Params) : Except Text Unit :=
  match textOf canonical neighborIpParam, textOf canonical prefixListNameParam with
  | some peer, some list =>
    if linked fold now inv peer list then .ok ()
    else .error ("prefix-list '".toList ++ list ++ "' is not attached to peer " ++ peer)
  | _, _ => .ok ()

/-- `canonicalize_inventory_params`. -/
def canonicalizeInventoryParams (t : Template) (params : Params) : Except Text Params := do
  let subst ← validateAndExpand t.schema params
  let canonical ← resolveAll fold now device inv subst t.schema
    ((params.erase priorRouteMapParam).erase sequenceParam)
  let canonical ← checkTag inv t subst canonical
  checkLink fold now inv canonical
  .ok canonical

/-- Whether an announced network holds a target. -/
def announced (target : Text) : Bool :=
  inv.networks.any fun r => fresh now routingInventoryMaxAgeHours r.lastDiscoveredAt &&
    decide (networkContains r.name target = .ok true)

/-- `prefix_target_is_contained`. -/
def prefixTargetIsContained (t : Template) (params : Params) : Except Text Bool :=
  if requiresAnnouncedPrefixContainment t.name then do
    let subst ← validateAndExpand t.schema params
    let target ← okOr "automatic prefix action has no prefix" subst[prefixParam]?
    .ok (announced now inv target)
  else .ok true

end Checks

/-! ### What a check comes to -/

section Predicates

variable {κ : Type} [DecidableEq κ] (fold : Text → κ) (now : ℕ) (prefixes : List Text)
  (snapshot : RouteContext.RouteContextSnapshot) (inventory : RoutingPolicyInventory)
  (inv : Inventories)

/-- What a value names is not among what the run found. -/
inductive MissingSource (kind : Option Text) (value : Text) : Source → Prop
  | network (h : ∀ n ∈ prefixes, fold n ≠ fold value) : MissingSource kind value .announcedPrefix
  | list (h : ∀ link ∈ snapshot.prefixLinks, fold link.2 ≠ fold value) :
      MissingSource kind value .peerOutPrefixList
  | routeMap (h : ∀ n ∈ snapshot.routeMaps, fold n ≠ fold value) :
      MissingSource kind value .routeMap
  | policy {k : Text} (hkind : kind = some k) (h : hasPolicy inventory k value = false) :
    MissingSource kind value .routingExportPolicy

/-- A value cannot be found, and the router was not asked for it or has it. -/
inductive ObstructedSource (kind : Option Text) (value : Text) : Source → Prop
  /-- SNMP has not seen such an interface for a day, or none that a command can name. -/
  | interface (h : interfaceName fold now inv value = none) :
      ObstructedSource kind value .interfaceName
  /-- SNMP has not seen such a peer for a day. -/
  | peer (h : ∀ p ∈ inv.peers, fold value = fold p.peerRemoteAddr →
      fresh now snmpInventoryMaxAgeHours p.lastPolledAt = false) :
        ObstructedSource kind value .bgpPeer
  /-- SNMP has not seen a peer with this AS of the router for a day. -/
  | asn (h : ∀ n, parseUnsigned maxU32 value = some n → ∀ p ∈ inv.peers, p.localAs = some n →
      fresh now snmpInventoryMaxAgeHours p.lastPolledAt = false) :
        ObstructedSource kind value .bgpLocalAs
  /-- The run found the list, at a peer that is not kept. -/
  | list {link : Ipv4.Addr × Text} (hlink : link ∈ snapshot.prefixLinks)
      (hsame : fold link.2 = fold value)
      (h : ∀ p ∈ inv.peers, ∀ l, linkedList fold snapshot.prefixLinks p.peerRemoteAddr = some l →
        fold value ≠ fold l) :
    ObstructedSource kind value .peerOutPrefixList
  /-- The inventory of policies is partial. -/
  | policy (h : inventory.blockers ≠ []) : ObstructedSource kind value .routingExportPolicy
  /-- The kind is not written the way it is compared. -/
  | kind (h : ∀ k ∈ policyKinds, kind ≠ some k) : ObstructedSource kind value .routingExportPolicy
  /-- The tag is not catalogued. -/
  | tag (h : ∀ n, parseUnsigned maxU32 value = some n → n ∉ inv.tags) :
      ObstructedSource kind value .rtbhTag
  | other : ObstructedSource kind value .other

/-- **A parameter names what the run did not find.** -/
inductive Missing (t : Template) (params : Params) : Prop
  | source {subst : NameMap Text} (hsubst : validateAndExpand t.schema params = .ok subst)
      {name source value : Text}
      {spec : ParamSpec} (hmem : (name, spec) ∈ t.schema) (hsource : spec.source = some source)
      (hvalue : subst[name]? = some value)
      (h : MissingSource fold prefixes snapshot inventory (textOf params policyKindParam) value
        (sourceOf source)) :
    Missing t params
  /-- The peer has another list, or none. -/
  | link {subst : NameMap Text} (hsubst : validateAndExpand t.schema params = .ok subst)
      {peer list : Text}
      (hpeer : subst[neighborIpParam]? = some peer)
      (hlist : subst[prefixListNameParam]? = some list)
      (h : ∀ link ∈ snapshot.prefixLinks, fold (Ipv4.addrText link.1) = fold peer →
        fold link.2 ≠ fold list) :
    Missing t params
  /-- No announced network holds the target. -/
  | space {subst : NameMap Text} (hsubst : validateAndExpand t.schema params = .ok subst)
      {target : Text}
      (hname : requiresAnnouncedPrefixContainment t.name = true)
      (htarget : subst[prefixParam]? = some target)
      (h : ∀ r ∈ reconcile fold now prefixes inv.networks, networkContains r.name target ≠
        .ok true) : Missing t params

/-- **A check fails, and not because the run did not find something.** -/
inductive Obstructed (t : Template) (params : Params) : Prop
  /-- The parameters do not fit the schema, as without a network that is put in later. -/
  | invalid (h : ∀ subst, validateAndExpand t.schema params ≠ .ok subst) : Obstructed t params
  | source {subst : NameMap Text} (hsubst : validateAndExpand t.schema params = .ok subst)
      {name source value : Text}
      {spec : ParamSpec} (hmem : (name, spec) ∈ t.schema) (hsource : spec.source = some source)
      (hvalue : subst[name]? = some value)
      (h : ObstructedSource fold now snapshot inventory inv (textOf params policyKindParam) value
        (sourceOf source)) : Obstructed t params
  /-- The tag is not catalogued. -/
  | tag {subst : NameMap Text} (hsubst : validateAndExpand t.schema params = .ok subst)
      {given : Text} (hname : requiresTag t.name = true) (hgiven : subst[tagParam]? = some given)
      (h : ∀ n, parseUnsigned maxU32 given = some n → n ∉ inv.tags) : Obstructed t params
  /-- The run found the list at the peer, which is not kept with it. -/
  | link {subst : NameMap Text} (hsubst : validateAndExpand t.schema params = .ok subst)
      {peer list : Text}
      (hpeer : subst[neighborIpParam]? = some peer)
      (hlist : subst[prefixListNameParam]? = some list)
      {link : Ipv4.Addr × Text} (hlink : link ∈ snapshot.prefixLinks)
      (hsame : fold (Ipv4.addrText link.1) = fold peer ∧ fold link.2 = fold list)
      (h : ∀ p ∈ inv.peers, fold peer = fold p.peerRemoteAddr →
        ∀ l, linkedList fold snapshot.prefixLinks p.peerRemoteAddr = some l → fold list ≠ fold l) :
        Obstructed t params

end Predicates

/-! ### Lookups after a run -/

section Lookups

variable {κ : Type} [DecidableEq κ] {fold : Text → κ} {now device : ℕ} {inv : Inventories}
  {value v : Text}

theorem fresh_now (now hours : ℕ) : fresh now hours (some now) = true := by simp [fresh]

theorem fold_of_polledPeer (h : polledPeer fold now inv value = some v) : fold v = fold value := by
  obtain ⟨p, hfind, rfl⟩ := Option.map_eq_some_iff.mp h
  have hp := List.find?_some hfind
  rw [Bool.and_eq_true, same_eq_true] at hp
  exact hp.1.symm

theorem fold_of_attachedList (h : attachedList fold now inv value = some v) :
    fold v = fold value := by
  obtain ⟨p, hfind, hv⟩ := Option.bind_eq_some_iff.mp h
  have hp := List.find?_some hfind
  rw [hv, Option.any_some, Bool.and_eq_true, same_eq_true] at hp
  exact hp.1.symm

/-- A name in a table that a run has reconciled. -/
theorem exists_discoveredName {found : List Text} {rows : List DiscoveredRow} :
    (∃ v, discoveredName fold now (reconcile fold now found rows) value = some v) ↔
    ∃ n ∈ found, fold n = fold value := by
  have hfound : (∃ r ∈ reconcile fold now found rows, fold r.name = fold value) ↔
    ∃ n ∈ found, fold n = fold value :=
    mem_reconcile
  rw [← Option.isSome_iff_exists, discoveredName, Option.isSome_map, List.find?_isSome, ← hfound]
  refine exists_congr fun r => and_congr_right fun hr => ?_
  rw [time_of_mem_reconcile hr, fresh_now]
  rw [Bool.and_true, same_eq_true]
  exact eq_comm

/-- The tables after a run that proved the configuration. -/
structure Stored (fold : Text → κ) (now : ℕ) (prefixes : List Text)
    (snapshot : RouteContext.RouteContextSnapshot)
    (inventory : RoutingPolicyInventory) (inv after : Inventories) : Prop where
  interfaces : after.interfaces = inv.interfaces
  peers : after.peers = inv.peers.map (refreshPeer fold now snapshot.prefixLinks)
  networks : after.networks = reconcile fold now prefixes inv.networks
  routeMaps : after.routeMaps = reconcile fold now snapshot.routeMaps inv.routeMaps
  policy : after.policy = some ⟨inventory, completenessOf inventory, now⟩
  tags : after.tags = inv.tags

variable {prefixes : List Text} {snapshot : RouteContext.RouteContextSnapshot}
  {inventory : RoutingPolicyInventory} {after : Inventories}

theorem completenessOf_eq : completenessOf inventory = completeText ↔ inventory.blockers = [] := by
  unfold completenessOf
  split
  · rename_i hnil
    exact ⟨fun _ => hnil, fun _ => rfl⟩
  · rename_i hsome
    exact ⟨fun heq => absurd heq (by decide), fun hnil => absurd hnil hsome⟩

theorem stored_storeRun {f : Findings} (h : f.routeContext = .ok (snapshot, inventory)) :
    Stored fold now f.prefixes snapshot inventory inv (storeRun fold now f inv) := by
  unfold storeRun
  rw [h]
  exact ⟨rfl, rfl, rfl, rfl, rfl, rfl⟩

namespace Stored

variable (h : Stored fold now prefixes snapshot inventory inv after)
include h

theorem interfaceName_eq :
    interfaceName fold now after value = interfaceName fold now inv value := by
  rw [interfaceName, interfaceName, h.interfaces]

theorem exists_polledPeer : (∃ v, polledPeer fold now after value = some v) ↔
    ∃ p ∈ inv.peers, fold value = fold p.peerRemoteAddr ∧
      fresh now snmpInventoryMaxAgeHours p.lastPolledAt = true := by
  rw [← Option.isSome_iff_exists, polledPeer, Option.isSome_map, List.find?_isSome, h.peers]
  simp [refreshPeer]

theorem exists_polledAsn {asn : ℕ} : (∃ n, polledAsn now after asn = some n) ↔
    ∃ p ∈ inv.peers, p.localAs = some asn ∧
      fresh now snmpInventoryMaxAgeHours p.lastPolledAt = true := by
  rw [← Option.isSome_iff_exists, polledAsn, Option.isSome_map, List.find?_isSome, h.peers]
  simp [refreshPeer]

theorem exists_attachedList : (∃ v, attachedList fold now after value = some v) ↔
    ∃ p ∈ inv.peers, ∃ l, linkedList fold snapshot.prefixLinks p.peerRemoteAddr = some l ∧
      fold value = fold l := by
  have hfound : (∃ v, attachedList fold now after value = some v) ↔
      ∃ p ∈ after.peers, p.outPrefixList.any (same fold value) = true ∧
        fresh now routingInventoryMaxAgeHours p.routeContextDiscoveredAt = true := by
    constructor
    · rintro ⟨v, hv⟩
      obtain ⟨p, hfind, -⟩ := Option.bind_eq_some_iff.mp hv
      have hp := List.find?_some hfind
      rw [Bool.and_eq_true] at hp
      exact ⟨p, List.mem_of_find?_eq_some hfind, hp⟩
    · rintro ⟨p, hmem, hp⟩
      obtain ⟨q, hfind⟩ := Option.isSome_iff_exists.mp
        (List.find?_isSome.mpr ⟨p, hmem, (Bool.and_eq_true _ _).mpr hp⟩ :
          (after.peers.find? fun p => p.outPrefixList.any (same fold value) &&
            fresh now routingInventoryMaxAgeHours p.routeContextDiscoveredAt).isSome)
      have hq := List.find?_some hfind
      rw [Bool.and_eq_true] at hq
      obtain ⟨l, hl, -⟩ := Option.any_eq_true _ _ |>.mp hq.1
      exact ⟨l, Option.bind_eq_some_iff.mpr ⟨q, hfind, hl⟩⟩
  rw [hfound, h.peers]
  simp [refreshPeer, fresh_now, Option.any_eq_true]

theorem linked_iff {peer list : Text} : linked fold now after peer list = true ↔
    ∃ p ∈ inv.peers, fold peer = fold p.peerRemoteAddr ∧
      ∃ l, linkedList fold snapshot.prefixLinks p.peerRemoteAddr = some l ∧ fold list = fold l := by
  rw [linked, h.peers]
  simp [refreshPeer, fresh_now, Option.any_eq_true]

/-- The announced networks are as young as the run. -/
theorem announced_iff {target : Text} : announced now after target = true ↔
    ∃ r ∈ reconcile fold now prefixes inv.networks, networkContains r.name target = .ok true := by
  rw [announced, h.networks, List.any_eq_true]
  refine exists_congr fun r => and_congr_right fun hr => ?_
  rw [time_of_mem_reconcile hr, fresh_now]
  simp

theorem exists_exportPolicy {kind : Option Text} :
    (∃ v, exportPolicy now device after kind value = .ok (some v)) ↔
    inventory.blockers = [] ∧ ∃ k ∈ policyKinds, kind = some k ∧
      hasPolicy inventory k value = true := by
  -- the inventory of this run is fresh at the time of the run
  have hpolicy : (after.policy.filter fun p =>
    fresh now routingInventoryMaxAgeHours (some p.readAt)) =
      some ⟨inventory, completenessOf inventory, now⟩ := by
    rw [h.policy, Option.filter_some, if_pos (fresh_now now _)]
  unfold exportPolicy
  constructor
  · rintro ⟨v, hv⟩
    obtain ⟨snapshot, hsnapshot, hv⟩ := bind_eq_ok.mp hv
    obtain rfl := Option.some.inj (hpolicy.symm.trans (okOr_eq_ok.mp hsnapshot))
    split at hv
    · cases hv
    · rename_i hcomplete
      obtain ⟨k, hk, hv⟩ := bind_eq_ok.mp hv
      split at hv
      · cases hv
      · rename_i hkind
        refine ⟨completenessOf_eq.mp (not_not.mp hcomplete), k, not_not.mp hkind,
          okOr_eq_ok.mp hk, ?_⟩
        by_contra hhas
        rw [if_neg hhas] at hv
        cases hv
  · rintro ⟨hblockers, k, hkind, rfl, hhas⟩
    refine ⟨value, bind_eq_ok.mpr ⟨_, okOr_eq_ok.mpr hpolicy, ?_⟩⟩
    rw [if_neg (not_not.mpr (completenessOf_eq.mpr hblockers))]
    refine bind_eq_ok.mpr ⟨k, rfl, ?_⟩
    rw [if_neg (not_not.mpr hkind), if_pos hhas]

/-- **A parameter is found in its table**, unless the run did not find it or something else is in
the way. -/
theorem resolve_iff {kind : Option Text} {name source : Text} :
    (∃ v, resolve fold now device after kind name source value = .ok (some v)) ↔
      ¬MissingSource fold prefixes snapshot inventory kind value (sourceOf source) ∧
        ¬ObstructedSource fold now snapshot inventory inv kind value (sourceOf source) := by
  unfold resolve
  cases sourceOf source with
  -- interfaces and polled peers were polled before the run, which finds none of them missing
  | interfaceName =>
    simp only [Except.ok.injEq, h.interfaceName_eq]
    constructor
    · rintro ⟨v, hv⟩
      refine ⟨nofun, fun hobstructed => ?_⟩
      cases hobstructed with
      | interface hnone => rw [hnone] at hv; cases hv
    · rintro ⟨-, hfree⟩
      exact Option.ne_none_iff_exists'.mp fun hnone => hfree (.interface hnone)
  | bgpPeer =>
    simp only [Except.ok.injEq, h.exists_polledPeer]
    constructor
    · rintro ⟨p, hp, hfold, hfresh⟩
      refine ⟨nofun, fun hobstructed => ?_⟩
      cases hobstructed with
      | peer hstale => rw [hstale p hp hfold] at hfresh; cases hfresh
    · rintro ⟨-, hfree⟩
      by_contra hnone
      refine hfree (.peer fun p hp hfold => ?_)
      exact Bool.eq_false_iff.mpr fun hfresh => hnone ⟨p, hp, hfold, hfresh⟩
  | bgpLocalAs =>
    constructor
    · rintro ⟨v, hv⟩
      obtain ⟨n, hn, hv⟩ := bind_eq_ok.mp hv
      obtain ⟨asn, hasn, -⟩ := Option.map_eq_some_iff.mp (Except.ok.inj hv)
      obtain ⟨p, hp, hlocal, hfresh⟩ := h.exists_polledAsn.mp ⟨asn, hasn⟩
      refine ⟨nofun, fun hobstructed => ?_⟩
      cases hobstructed with
      | asn hstale => rw [hstale n (okOr_eq_ok.mp hn) p hp hlocal] at hfresh; cases hfresh
    · rintro ⟨-, hfree⟩
      by_contra hnone
      refine hfree (.asn fun n hn p hp hlocal => Bool.eq_false_iff.mpr fun hfresh => hnone ?_)
      obtain ⟨asn, hasn⟩ := h.exists_polledAsn.mpr ⟨p, hp, hlocal, hfresh⟩
      exact ⟨natText asn, bind_eq_ok.mpr ⟨n, okOr_eq_ok.mpr hn, by rw [hasn]; rfl⟩⟩
  -- networks, lists and route maps are what the run itself stored
  | announcedPrefix =>
    simp only [Except.ok.injEq, h.networks, exists_discoveredName]
    constructor
    · rintro ⟨n, hn, hfold⟩
      refine ⟨fun hmissing => ?_, nofun⟩
      cases hmissing with
      | network hnone => exact hnone n hn hfold
    · rintro ⟨hfound, -⟩
      by_contra hnone
      exact hfound (.network fun n hn hfold => hnone ⟨n, hn, hfold⟩)
  | peerOutPrefixList =>
    simp only [Except.ok.injEq, h.exists_attachedList]
    constructor
    · rintro ⟨p, hp, l, hl, hfold⟩
      refine ⟨fun hmissing => ?_, fun hobstructed => ?_⟩
      · cases hmissing with
        | list hnone =>
          obtain ⟨link, hlink, rfl⟩ := Option.map_eq_some_iff.mp hl
          exact hnone link (List.mem_reverse.mp (List.mem_of_find?_eq_some hlink)) hfold.symm
      · cases hobstructed with
        | list _ _ hkept => exact hkept p hp l hl hfold
    · rintro ⟨hfound, hfree⟩
      by_contra hnone
      refine hfound (.list fun link hlink hsame => hfree (.list hlink hsame ?_))
      exact fun p hp l hl hfold => hnone ⟨p, hp, l, hl, hfold⟩
  | routeMap =>
    simp only [Except.ok.injEq, h.routeMaps, exists_discoveredName]
    constructor
    · rintro ⟨n, hn, hfold⟩
      refine ⟨fun hmissing => ?_, nofun⟩
      cases hmissing with
      | routeMap hnone => exact hnone n hn hfold
    · rintro ⟨hfound, -⟩
      by_contra hnone
      exact hfound (.routeMap fun n hn hfold => hnone ⟨n, hn, hfold⟩)
  | routingExportPolicy =>
    rw [h.exists_exportPolicy]
    constructor
    · rintro ⟨hblockers, k, hk, rfl, hhas⟩
      refine ⟨fun hmissing => ?_, fun hobstructed => ?_⟩
      · cases hmissing with
        | policy hkind hnone => rw [← Option.some.inj hkind, hhas] at hnone; cases hnone
      · cases hobstructed with
        | policy hsome => exact hsome hblockers
        | kind hother => exact hother k hk rfl
    · rintro ⟨hfound, hfree⟩
      refine ⟨not_not.mp fun hsome => hfree (.policy hsome), ?_⟩
      by_contra hnone
      refine hfree (.kind fun k hk hkind => hnone ⟨k, hk, hkind, ?_⟩)
      exact Bool.of_not_eq_false fun hhas => hfound (.policy hkind hhas)
  -- a direction is taken as it stands
  | bgpDirection => exact ⟨fun _ => ⟨nofun, nofun⟩, fun _ => ⟨value, rfl⟩⟩
  | rtbhTag =>
    constructor
    · rintro ⟨v, hv⟩
      obtain ⟨n, hn, hv⟩ := bind_eq_ok.mp hv
      obtain ⟨tag, htag, -⟩ := Option.map_eq_some_iff.mp (Except.ok.inj hv)
      rw [h.tags] at htag
      obtain rfl : tag = n := by simpa using List.find?_some htag
      refine ⟨nofun, fun hobstructed => ?_⟩
      cases hobstructed with
      | tag hnone => exact hnone tag (okOr_eq_ok.mp hn) (List.mem_of_find?_eq_some htag)
    · rintro ⟨-, hfree⟩
      by_contra hnone
      refine hfree (.tag fun n hn hmem => hnone ?_)
      obtain ⟨tag, htag⟩ := Option.isSome_iff_exists.mp
        (List.find?_isSome.mpr ⟨n, h.tags ▸ hmem, decide_eq_true rfl⟩ :
          (after.tags.find? fun t => t = n).isSome)
      exact ⟨natText tag, bind_eq_ok.mpr ⟨n, okOr_eq_ok.mpr hn, by rw [htag]; rfl⟩⟩
  -- a source without a table answers nothing
  | other => exact ⟨nofun, fun hfree => absurd .other hfree.2⟩

end Stored

end Lookups

/-! ### The parameters of a schema -/

section Schemas

variable {κ : Type} [DecidableEq κ] {fold : Text → κ} {now device : ℕ} {inv : Inventories}
  {subst : NameMap Text}
  {schema : Schema} {canonical resolved : Params} {name key source value v : Text}
  {spec : ParamSpec} {given : ParamValue}

theorem getElem?_insert_of_ne (hne : name ≠ key) :
    (canonical.insert name given)[key]? = canonical[key]? := by
  rw [Std.TreeMap.getElem?_insert, if_neg fun heq => hne (Std.LawfulEqCmp.eq_of_compare heq)]

theorem textOf_insert_of_ne (hne : name ≠ key) :
    textOf (canonical.insert name given) key = textOf canonical key := by
  rw [textOf, textOf, getElem?_insert_of_ne hne]

theorem textOf_insert_self : textOf (canonical.insert name (.string v)) name = some v := by
  simp [textOf, ParamValue.asStr]

/-- What no parameter with a source is named stays as it was given. -/
theorem getElem?_resolveAll
    (h : resolveAll fold now device inv subst schema canonical = .ok resolved)
    (hkey : ∀ s ∈ schema, s.1 = key → s.2.source = none) : resolved[key]? = canonical[key]? := by
  induction schema generalizing canonical with
  | nil => rw [← Except.ok.inj h]
  | cons s schema ih =>
    have hrest : ∀ a ∈ schema, a.1 = key → a.2.source = none :=
      fun a ha => hkey a (List.mem_cons_of_mem s ha)
    rw [resolveAll] at h
    split at h
    · exact ih h hrest
    · rename_i source hsource
      obtain ⟨value, -, h⟩ := bind_eq_ok.mp h
      obtain ⟨found, -, h⟩ := bind_eq_ok.mp h
      obtain ⟨resolved, -, h⟩ := bind_eq_ok.mp h
      rw [ih h hrest, getElem?_insert_of_ne]
      rintro rfl
      rw [hkey s List.mem_cons_self rfl] at hsource
      cases hsource

/-- **The parameters with a source are checked one by one.** -/
theorem exists_resolveAll (hkind : ∀ s ∈ schema, s.1 = policyKindParam → s.2.source = none) :
    (∃ c, resolveAll fold now device inv subst schema canonical = .ok c) ↔
      ∀ s ∈ schema, ∀ source, s.2.source = some source → ∃ value, subst[s.1]? = some value ∧
        ∃ v, resolve fold now device inv (textOf canonical policyKindParam) s.1 source value =
          .ok (some v) := by
  induction schema generalizing canonical with
  | nil => exact ⟨fun _ => nofun, fun _ => ⟨canonical, rfl⟩⟩
  | cons s schema ih =>
    have hrest : ∀ a ∈ schema, a.1 = policyKindParam → a.2.source = none :=
      fun a ha => hkind a (List.mem_cons_of_mem s ha)
    rw [List.forall_mem_cons, resolveAll]
    split
    · rename_i hnone
      rw [ih hrest]
      refine ⟨fun h => ⟨fun source hsource => ?_, h⟩, And.right⟩
      rw [hnone] at hsource
      cases hsource
    · rename_i source hsource
      -- resolving one parameter leaves the policy kind, which the others are looked up by
      have hne : s.1 ≠ policyKindParam := by
        intro heq
        rw [hkind s List.mem_cons_self heq] at hsource
        cases hsource
      constructor
      · rintro ⟨c, h⟩
        obtain ⟨value, hvalue, h⟩ := bind_eq_ok.mp h
        obtain ⟨found, hfound, h⟩ := bind_eq_ok.mp h
        obtain ⟨resolved, hresolved, h⟩ := bind_eq_ok.mp h
        rw [okOr_eq_ok.mp hresolved] at hfound
        have hothers := (ih hrest).mp ⟨c, h⟩
        rw [textOf_insert_of_ne hne] at hothers
        refine ⟨fun source' hsource' => ?_, hothers⟩
        obtain rfl := Option.some.inj (hsource.symm.trans hsource')
        exact ⟨value, okOr_eq_ok.mp hvalue, resolved, hfound⟩
      · rintro ⟨hhere, hothers⟩
        obtain ⟨value, hvalue, v, hv⟩ := hhere source hsource
        obtain ⟨c, hc⟩ : ∃ c, resolveAll fold now device inv subst schema
          (canonical.insert s.1 (.string v)) = .ok c :=
          (ih hrest).mpr (by rwa [textOf_insert_of_ne hne])
        exact ⟨c, bind_eq_ok.mpr ⟨value, okOr_eq_ok.mpr hvalue, bind_eq_ok.mpr ⟨some v, hv,
          bind_eq_ok.mpr ⟨v, rfl, hc⟩⟩⟩⟩

/-- A parameter with a source is written as it stands in its table. -/
theorem exists_of_resolveAll (hsorted : schema.Pairwise fun a b => a.1 < b.1)
    (h : resolveAll fold now device inv subst schema canonical = .ok resolved)
    (hmem : (name, spec) ∈ schema)
    (hsource : spec.source = some source) : ∃ value v kind, subst[name]? = some value ∧
      resolve fold now device inv kind name source value = .ok (some v) ∧
        textOf resolved name = some v := by
  induction schema generalizing canonical with
  | nil => cases hmem
  | cons s schema ih =>
    obtain ⟨hless, hsorted⟩ := List.pairwise_cons.mp hsorted
    rw [resolveAll] at h
    rcases List.mem_cons.mp hmem with rfl | hmem
    · split at h
      · rename_i hnone
        rw [hsource] at hnone
        cases hnone
      · rename_i source' hsource'
        obtain rfl := Option.some.inj (hsource.symm.trans hsource')
        obtain ⟨value, hvalue, h⟩ := bind_eq_ok.mp h
        obtain ⟨found, hfound, h⟩ := bind_eq_ok.mp h
        obtain ⟨resolved, hresolved, h⟩ := bind_eq_ok.mp h
        rw [okOr_eq_ok.mp hresolved] at hfound
        refine ⟨value, resolved, _, okOr_eq_ok.mp hvalue, hfound, ?_⟩
        rw [textOf, getElem?_resolveAll h, ← textOf, textOf_insert_self]
        -- later parameters have greater names, so none overwrites this one
        intro a ha heq
        exact absurd (heq ▸ hless a ha) (List.lt_irrefl _)
    · split at h
      · exact ih hsorted h hmem
      · obtain ⟨value, -, h⟩ := bind_eq_ok.mp h
        obtain ⟨found, -, h⟩ := bind_eq_ok.mp h
        obtain ⟨resolved, -, h⟩ := bind_eq_ok.mp h
        exact ih hsorted h hmem

end Schemas

/-! ### The schemas of the catalogue -/

/-- What is put in for a network beside its text. -/
def derivedParams : List Text := ["prefix_net", "prefix_mask", "prefix_len"]

/-- What the checks use of the parameters of a template. -/
@[mk_iff] structure TidySchema (t : Template) : Prop where
  sorted : t.schema.Pairwise fun a b => a.1 < b.1
  /-- What is looked up is always given, and is no sequence number. -/
  required : ∀ s ∈ t.schema, s.2.source ≠ none → s.2.required = true ∧ s.2.type ≠ .seq
  policyKind : ∀ s ∈ t.schema, s.1 = policyKindParam → s.2.source = none
  neighborIp : ∀ s ∈ t.schema, s.1 = neighborIpParam → s.2.source = some "bgp_peer"
  prefixListName : ∀ s ∈ t.schema, s.1 = prefixListNameParam →
    s.2.source = some "peer_out_prefix_list"
  tag : requiresTag t.name = true → (tagParam, rtbhTag) ∈ t.schema
  /-- The parameters of a route to `Null0`. -/
  space : requiresAnnouncedPrefixContainment t.name = true → ∃ d ∈ [destinationV4, destinationV6],
    t.schema = (prefixParam, d) :: if requiresTag t.name then [(tagParam, rtbhTag)] else []

instance (t : Template) : Decidable (TidySchema t) := decidable_of_iff' _ (tidySchema_iff t)

/-- Every template of the catalogue is. -/
theorem tidySchema : ∀ t ∈ catalogue, TidySchema t := by decide +kernel

theorem TidySchema.source_of_space {t : Template} (h : TidySchema t)
    (hname : requiresAnnouncedPrefixContainment t.name = true) :
    ∀ s ∈ t.schema, s.2.source = none := by
  obtain ⟨d, hd, hschema⟩ := h.space hname
  rw [hschema]
  rintro s (- | ⟨-, hs⟩)
  · rcases List.mem_pair.mp hd with rfl | rfl <;> rfl
  · split at hs
    · rw [List.mem_singleton.mp hs]
      rfl
    · cases hs

section Values

variable {t : Template} {params : Params} {subst : NameMap Text} {name value : Text}
  {spec : ParamSpec} {here : List (Text × Text)}

/-- A value that is there is the value of its parameter. -/
theorem mem_own_of_expandParam {given : Option ParamValue}
    (h : expandParam name spec given = .ok here)
    (hrequired : spec.required = true) (htype : spec.type ≠ .seq) :
    ∃ value, (name, value) ∈ here := by
  unfold expandParam at h
  split at h
  · unfold expandValue at h
    split at h
    · obtain ⟨ip, -, h⟩ := bind_eq_ok.mp h
      exact ⟨_, Except.ok.inj h ▸ List.mem_cons_self⟩
    · obtain ⟨n, -, h⟩ := bind_eq_ok.mp h
      split at h
      · cases h
      · exact ⟨_, Except.ok.inj h ▸ List.mem_cons_self⟩
    · obtain ⟨n, -, h⟩ := bind_eq_ok.mp h
      exact ⟨_, Except.ok.inj h ▸ List.mem_cons_self⟩
    · rename_i hseq
      exact absurd hseq htype
    · obtain ⟨net, -, h⟩ := bind_eq_ok.mp h
      obtain ⟨-, -, h⟩ := bind_eq_ok.mp h
      cases h
      exact ⟨_, List.mem_cons_self⟩
    · obtain ⟨net, -, h⟩ := bind_eq_ok.mp h
      obtain ⟨-, -, h⟩ := bind_eq_ok.mp h
      cases h
      exact ⟨_, List.mem_cons_self⟩
    · split at h
      · cases h
      · split at h
        · cases h
        · exact ⟨_, Except.ok.inj h ▸ List.mem_cons_self⟩
  · rw [if_neg htype, if_pos hrequired] at h
    cases h

/-- The value of a parameter of the schema. -/
theorem exists_value (ht : t ∈ catalogue) (h : validateAndExpand t.schema params = .ok subst)
    (hmem : (name, spec) ∈ t.schema) (hrequired : spec.required = true) (htype : spec.type ≠ .seq) :
    ∃ value, subst[name]? = some value := by
  obtain ⟨-, values, hvalues, -, -⟩ := exists_values_of_validateAndExpand h
  obtain ⟨-, here, -, -, hhere, -⟩ :=
    exists_split_of_expandParams (tidySchema t ht).sorted hmem hvalues
  obtain ⟨value, hvalue⟩ := mem_own_of_expandParam hhere hrequired htype
  exact ⟨value, getElem?_own (tidySchema t ht).sorted h hmem hhere hvalue⟩

/-- What has a value is a parameter of the schema, or derived from the network. -/
theorem exists_mem_schema (ht : t ∈ catalogue) (h : validateAndExpand t.schema params = .ok subst)
    (hname : name ∉ derivedParams) (hvalue : subst[name]? = some value) :
    ∃ spec, (name, spec) ∈ t.schema := by
  obtain ⟨own, spec, hmem, -, -, rfl | ⟨-, hderived⟩⟩ := expands_of_mem_catalogue ht h hvalue
  · exact ⟨spec, hmem⟩
  · exact absurd hderived hname

/-- Whatever is given is a parameter of the schema, or the route map of before. -/
theorem unknownParam_eq_none {schema : Schema} : unknownParam schema params = none ↔
    ∀ (name : Text) given, params[name]? = some given → name = priorRouteMapParam ∨
      ∃ spec, (name, spec) ∈ schema := by
  have hcheck : ∀ name : Text,
    (!schema.any (fun s => s.1 = name) && decide (name ≠ priorRouteMapParam)) = true ↔
      ¬(name = priorRouteMapParam ∨ ∃ spec, (name, spec) ∈ schema) := by
    intro name
    rw [Bool.and_eq_true, Bool.not_eq_true', decide_eq_true_eq, not_or, and_comm]
    refine and_congr_right' ?_
    rw [← Bool.not_eq_true, List.any_eq_true]
    refine not_congr ⟨?_, ?_⟩
    · rintro ⟨s, hs, heq⟩
      obtain rfl := of_decide_eq_true heq
      exact ⟨s.2, hs⟩
    · rintro ⟨spec, hspec⟩
      exact ⟨(name, spec), hspec, decide_eq_true rfl⟩
  have hkeys : ∀ name : Text, name ∈ params.keys ↔ ∃ given, params[name]? = some given :=
    fun name => by
    rw [Std.TreeMap.mem_keys, ← Std.TreeMap.isSome_getElem?_iff_mem, Option.isSome_iff_exists]
  change List.find? _ params.keys = none ↔ _
  rw [List.find?_eq_none]
  constructor
  · intro h name given hgiven
    by_contra hnot
    exact h name ((hkeys name).mpr ⟨given, hgiven⟩) ((hcheck name).mpr hnot)
  · intro h name hmem hbad
    obtain ⟨given, hgiven⟩ := (hkeys name).mp hmem
    exact (hcheck name).mp hbad (h name given hgiven)

/-- Other values are validated alike when they expand alike. -/
theorem validateAndExpand_congr {schema : Schema} {params' : Params}
    (hknown : unknownParam schema params' = none)
    (hvalues : expandParams params' schema = expandParams params schema)
    (h : validateAndExpand schema params = .ok subst) :
    validateAndExpand schema params' = .ok subst := by
  obtain ⟨-, values, hok, hcontained, rfl⟩ := exists_values_of_validateAndExpand h
  unfold validateAndExpand
  rw [hknown, hvalues, hok]
  exact bind_eq_ok.mpr ⟨values, rfl, bind_eq_ok.mpr ⟨(), hcontained, rfl⟩⟩

theorem expandParams_congr {schema : Schema} {params' : Params}
    (h : ∀ s ∈ schema, expandParam s.1 s.2 params'[s.1]? = expandParam s.1 s.2 params[s.1]?) :
    expandParams params' schema = expandParams params schema := by
  induction schema with
  | nil => rfl
  | cons s schema ih =>
    rw [expandParams, expandParams, h s List.mem_cons_self,
      ih fun a ha => h a (List.mem_cons_of_mem s ha)]

/-- The value of a tag is a number, and stands for itself. -/
theorem exists_of_expandParam_tag {given : Option ParamValue}
    (h : expandParam tagParam rtbhTag given = .ok here) :
    ∃ n, n ≤ maxU32 ∧ here = [(tagParam, natText n)] ∧
      expandParam tagParam rtbhTag (some (.string (natText n))) = .ok here := by
  -- whatever text was given, a tag expands to the number it reads as, which reads back
  have hvalue : ∀ provided, expandValue tagParam rtbhTag provided = .ok here →
    ∃ n, n ≠ 0 ∧ n ≤ maxU32 ∧
      here = [(tagParam, natText n)] := by
    intro provided h
    obtain ⟨n, hn, h⟩ := bind_eq_ok.mp h
    split at h
    · cases h
    · rename_i hzero
      exact ⟨n, hzero, of_parseUnsigned (okOr_eq_ok.mp hn), (Except.ok.inj h).symm⟩
  have hsome : ∃ provided, expandValue tagParam rtbhTag provided = .ok here := by
    unfold expandParam at h
    split at h
    · rename_i provided _
      exact ⟨provided, h⟩
    · rename_i hnone
      refine absurd hnone ?_
      unfold paramText
      split
      · split
        · exact nofun
        · exact nofun
      · exact nofun
      · exact nofun
  obtain ⟨provided, hprovided⟩ := hsome
  obtain ⟨n, hzero, hn, rfl⟩ := hvalue provided hprovided
  refine ⟨n, hn, rfl, ?_⟩
  have htext : paramText rtbhTag (some (.string (natText n))) = some (natText n) := by
    rw [paramText, trim_of_noWs (noWs_natText n), if_neg (natText_ne_nil n)]
  unfold expandParam
  rw [htext]
  refine bind_eq_ok.mpr ⟨n, okOr_eq_ok.mpr (parseUnsigned_natText hn), ?_⟩
  rw [if_neg hzero]

end Values

/-! ### The checks as a whole -/

section Whole

variable {κ : Type} [DecidableEq κ] {fold : Text → κ} {now device : ℕ} {prefixes : List Text}
  {snapshot : RouteContext.RouteContextSnapshot} {inventory : RoutingPolicyInventory}
  {inv after : Inventories}
  {t : Template} {params canonical tagged : Params} {subst : NameMap Text}
  {name source value : Text}

/-- The values of a caller, without what is never taken from one. -/
def stripped (params : Params) : Params := (params.erase priorRouteMapParam).erase sequenceParam

theorem getElem?_stripped (hmap : name ≠ priorRouteMapParam) (hsequence : name ≠ sequenceParam) :
    (stripped params)[name]? = params[name]? := by
  rw [stripped, Std.TreeMap.getElem?_erase,
    if_neg fun heq => hsequence (Std.LawfulEqCmp.eq_of_compare heq).symm,
    Std.TreeMap.getElem?_erase, if_neg fun heq => hmap (Std.LawfulEqCmp.eq_of_compare heq).symm]

theorem given_of_stripped {given : ParamValue} (h : (stripped params)[name]? = some given) :
    params[name]? = some given ∧ name ≠ priorRouteMapParam := by
  rw [stripped, Std.TreeMap.getElem?_erase] at h
  split at h
  · cases h
  · rw [Std.TreeMap.getElem?_erase] at h
    split at h
    · cases h
    · rename_i hmap
      exact ⟨h, fun heq => hmap (heq ▸ Std.ReflCmp.compare_self)⟩

theorem textOf_stripped_policyKind :
    textOf (stripped params) policyKindParam = textOf params policyKindParam := by
  rw [textOf, getElem?_stripped (by decide) (by decide), textOf]

theorem checkTag_eq_ok : checkTag inv t subst canonical = .ok tagged ↔
    (requiresTag t.name = true ∧ ∃ given n, subst[tagParam]? = some given ∧
      parseUnsigned maxU32 given = some n ∧
      n ∈ inv.tags ∧ tagged = canonical.insert tagParam (.string (natText n))) ∨
    (requiresTag t.name = false ∧ tagged = canonical) := by
  unfold checkTag
  split
  · rename_i hname
    constructor
    · intro h
      obtain ⟨given, hgiven, h⟩ := bind_eq_ok.mp h
      obtain ⟨n, hn, h⟩ := bind_eq_ok.mp h
      split at h
      · cases h
      · rename_i hcount
        exact Or.inl ⟨hname, given, n, okOr_eq_ok.mp hgiven, okOr_eq_ok.mp hn,
          List.one_le_count_iff.mp (Nat.one_le_iff_ne_zero.mpr hcount), (Except.ok.inj h).symm⟩
    · rintro (⟨-, given, n, hgiven, hn, hmem, rfl⟩ | ⟨hother, -⟩)
      · refine bind_eq_ok.mpr ⟨given, okOr_eq_ok.mpr hgiven,
          bind_eq_ok.mpr ⟨n, okOr_eq_ok.mpr hn, ?_⟩⟩
        rw [if_neg (Nat.one_le_iff_ne_zero.mp (List.one_le_count_iff.mpr hmem))]
      · rw [hname] at hother
        cases hother
  · rename_i hname
    rw [Bool.not_eq_true] at hname
    simp [hname, eq_comm]

theorem canonicalize_eq_ok : canonicalizeInventoryParams fold now device inv t params = .ok tagged ↔
    ∃ subst canonical, validateAndExpand t.schema params = .ok subst ∧
      resolveAll fold now device inv subst t.schema (stripped params) = .ok canonical ∧
      checkTag inv t subst canonical = .ok tagged ∧ checkLink fold now inv tagged = .ok () := by
  unfold canonicalizeInventoryParams
  constructor
  · intro h
    obtain ⟨subst, hsubst, h⟩ := bind_eq_ok.mp h
    obtain ⟨canonical, hcanonical, h⟩ := bind_eq_ok.mp h
    obtain ⟨c', hc, h⟩ := bind_eq_ok.mp h
    obtain ⟨⟨⟩, hlink, h⟩ := bind_eq_ok.mp h
    cases h
    exact ⟨subst, canonical, hsubst, hcanonical, hc, hlink⟩
  · rintro ⟨subst, canonical, hsubst, hcanonical, hc, hlink⟩
    exact bind_eq_ok.mpr ⟨subst, hsubst,
      bind_eq_ok.mpr ⟨canonical, hcanonical,
        bind_eq_ok.mpr ⟨tagged, hc, bind_eq_ok.mpr ⟨(), hlink, rfl⟩⟩⟩⟩

/-- A peer or a list is written as it stands in its table, which is the same to the database. -/
theorem textOf_canonical (ht : t ∈ catalogue)
    (hsubst : validateAndExpand t.schema params = .ok subst)
    (hcanonical : resolveAll fold now device inv subst t.schema (stripped params) = .ok canonical)
    (hc : checkTag inv t subst canonical = .ok tagged)
    (hderived : name ∉ derivedParams) (hmap : name ≠ priorRouteMapParam) (htag : tagParam ≠ name)
    (hsource : ∀ s ∈ t.schema, s.1 = name → s.2.source = some source)
    (hfold : ∀ kind value v, resolve fold now device inv kind name source value = .ok (some v) →
      fold v = fold value) :
    (textOf tagged name = none ∧ subst[name]? = none) ∨
      ∃ v value, textOf tagged name = some v ∧ subst[name]? = some value ∧ fold v = fold value := by
  have htagged : textOf tagged name = textOf canonical name := by
    rcases checkTag_eq_ok.mp hc with ⟨-, given, n, -, -, -, rfl⟩ | ⟨-, rfl⟩
    · exact textOf_insert_of_ne htag
    · rfl
  rw [htagged]
  -- without a place in the schema the parameter was neither given nor expanded
  by_cases hknown : ∃ spec, (name, spec) ∈ t.schema
  · obtain ⟨spec, hmem⟩ := hknown
    obtain ⟨value, v, kind, hvalue, hv, htext⟩ :=
      exists_of_resolveAll (tidySchema t ht).sorted hcanonical hmem (hsource _ hmem rfl)
    exact Or.inr ⟨v, value, htext, hvalue, hfold kind value v hv⟩
  · refine Or.inl ⟨?_, ?_⟩
    · rw [textOf, getElem?_resolveAll hcanonical fun s hs heq =>
        absurd ⟨s.2, by rw [← heq]; exact hs⟩ hknown]
      cases hgiven : (stripped params)[name]? with
      | none => rfl
      | some given =>
        have hparam := (unknownParam_eq_none.mp (exists_values_of_validateAndExpand hsubst).1) name
          given
          (given_of_stripped hgiven).1
        exact absurd (hparam.resolve_left hmap) hknown
    · cases hvalue : subst[name]? with
      | none => rfl
      | some value =>
        exact absurd (exists_mem_schema ht hsubst hderived hvalue) hknown

/-- The value of a tag. -/
theorem exists_tag (ht : t ∈ catalogue) (hsubst : validateAndExpand t.schema params = .ok subst)
    (hname : requiresTag t.name = true) : ∃ n, subst[tagParam]? = some (natText n) ∧ n ≤ maxU32 ∧
      expandParam tagParam rtbhTag (some (.string (natText n))) =
        expandParam tagParam rtbhTag params[tagParam]? := by
  obtain ⟨-, values, hvalues, -, -⟩ := exists_values_of_validateAndExpand hsubst
  have hmem := (tidySchema t ht).tag hname
  obtain ⟨-, here, -, -, hhere, -⟩ :=
    exists_split_of_expandParams (tidySchema t ht).sorted hmem hvalues
  obtain ⟨n, hn, rfl, hagain⟩ := exists_of_expandParam_tag hhere
  exact ⟨n, getElem?_own (tidySchema t ht).sorted hsubst hmem hhere List.mem_cons_self, hn,
    hagain.trans hhere.symm⟩

/-- **What is tagged for its network is validated once more**, and expands as before. -/
theorem validateAndExpand_canonical (ht : t ∈ catalogue)
    (hname : requiresAnnouncedPrefixContainment t.name = true)
    (hsubst : validateAndExpand t.schema params = .ok subst)
    (hcanonical : resolveAll fold now device inv subst t.schema (stripped params) = .ok canonical)
    (hc : checkTag inv t subst canonical = .ok tagged) :
    validateAndExpand t.schema tagged = .ok subst := by
  have hbefore : ∀ name : Text, canonical[name]? = (stripped params)[name]? := fun name =>
    getElem?_resolveAll hcanonical fun s hs _ => (tidySchema t ht).source_of_space hname s hs
  refine validateAndExpand_congr (unknownParam_eq_none.mpr fun name given hgiven => ?_)
    (expandParams_congr fun s hs => ?_) hsubst
  · rcases checkTag_eq_ok.mp hc with ⟨htag, _, n, -, -, -, rfl⟩ | ⟨-, rfl⟩
    · rw [Std.TreeMap.getElem?_insert] at hgiven
      split at hgiven
      · rename_i heq
        obtain rfl := Std.LawfulEqCmp.eq_of_compare heq
        exact Or.inr ⟨_, (tidySchema t ht).tag htag⟩
      · rw [hbefore] at hgiven
        exact unknownParam_eq_none.mp (exists_values_of_validateAndExpand hsubst).1 name given
          (given_of_stripped hgiven).1
    · rw [hbefore] at hgiven
      exact unknownParam_eq_none.mp (exists_values_of_validateAndExpand hsubst).1 name given
        (given_of_stripped hgiven).1
  · obtain ⟨d, -, hschema⟩ := (tidySchema t ht).space hname
    rw [hschema] at hs
    rcases List.mem_cons.mp hs with rfl | hs
    · -- the network is as it was given
      have hkept : tagged[prefixParam]? = params[prefixParam]? := by
        have hstripped : (stripped params)[prefixParam]? = params[prefixParam]? :=
          getElem?_stripped (by decide) (by decide)
        rw [← hstripped, ← hbefore]
        rcases checkTag_eq_ok.mp hc with ⟨-, _, n, -, -, -, rfl⟩ | ⟨-, rfl⟩
        · exact getElem?_insert_of_ne (by decide)
        · rfl
      rw [hkept]
    · split at hs
      · -- and the tag as it is printed
        rename_i htag
        rw [List.mem_singleton.mp hs]
        obtain ⟨n, hvalue, hn, hagain⟩ := exists_tag ht hsubst htag
        rcases checkTag_eq_ok.mp hc with ⟨-, given, m, hgiven, hm, -, rfl⟩ | ⟨hother, -⟩
        · rw [hvalue] at hgiven
          obtain rfl := Option.some.inj hgiven
          rw [parseUnsigned_natText hn] at hm
          obtain rfl := Option.some.inj hm
          rw [← hagain, Std.TreeMap.getElem?_insert_self]
        · rw [htag] at hother
          cases hother
      · cases hs

/-- **The network of an action is held by an announced one**, where that is asked. -/
theorem contained_iff (hstored : Stored fold now prefixes snapshot inventory inv after)
    (ht : t ∈ catalogue) (hsubst : validateAndExpand t.schema params = .ok subst)
    (hcanonical : resolveAll fold now device after subst t.schema (stripped params) = .ok canonical)
    (hc : checkTag after t subst canonical = .ok tagged) :
    prefixTargetIsContained now after t tagged = .ok true ↔
      (requiresAnnouncedPrefixContainment t.name = true →
        ∃ target, subst[prefixParam]? = some target ∧
        ∃ r ∈ reconcile fold now prefixes inv.networks, networkContains r.name target =
          .ok true) := by
  unfold prefixTargetIsContained
  split
  · rename_i hname
    rw [validateAndExpand_canonical ht hname hsubst hcanonical hc]
    constructor
    · intro h _
      obtain ⟨_, hsame, h⟩ := bind_eq_ok.mp h
      obtain rfl := Except.ok.inj hsame
      obtain ⟨target, htarget, h⟩ := bind_eq_ok.mp h
      exact ⟨target, okOr_eq_ok.mp htarget, hstored.announced_iff.mp (Except.ok.inj h)⟩
    · intro h
      obtain ⟨target, htarget, hheld⟩ := h hname
      exact bind_eq_ok.mpr ⟨subst, rfl, bind_eq_ok.mpr ⟨target, okOr_eq_ok.mpr htarget,
        congrArg _ (hstored.announced_iff.mpr hheld)⟩⟩
  · rename_i hname
    exact ⟨fun _ h => absurd h hname, fun _ => rfl⟩

theorem fold_of_resolve_peer {kind : Option Text} {v : Text}
    (h : resolve fold now device inv kind name "bgp_peer" value = .ok (some v)) :
    fold v = fold value :=
  fold_of_polledPeer (Except.ok.inj h)

theorem fold_of_resolve_list {kind : Option Text} {v : Text}
    (h : resolve fold now device inv kind name "peer_out_prefix_list" value = .ok (some v)) :
    fold v = fold value :=
  fold_of_attachedList (Except.ok.inj h)

/-- **A peer and a list belong together** when the run found the list at a peer that is kept. -/
theorem checkLink_iff (hstored : Stored fold now prefixes snapshot inventory inv after)
    (ht : t ∈ catalogue) (hsubst : validateAndExpand t.schema params = .ok subst)
    (hcanonical : resolveAll fold now device after subst t.schema (stripped params) = .ok canonical)
    (hc : checkTag after t subst canonical = .ok tagged) :
    checkLink fold now after tagged = .ok () ↔
      ∀ peer list, subst[neighborIpParam]? = some peer → subst[prefixListNameParam]? = some list →
        ∃ p ∈ inv.peers, fold peer = fold p.peerRemoteAddr ∧
          ∃ l, linkedList fold snapshot.prefixLinks p.peerRemoteAddr = some l ∧
            fold list = fold l := by
  -- the peer and the list that are compared are the given ones, up to the collation
  have hpeer := textOf_canonical ht hsubst hcanonical hc (by decide) (by decide) (by decide)
    (tidySchema t ht).neighborIp fun kind value v h => fold_of_resolve_peer h
  have hlist := textOf_canonical ht hsubst hcanonical hc (by decide) (by decide) (by decide)
    (tidySchema t ht).prefixListName fun kind value v h => fold_of_resolve_list h
  unfold checkLink
  rcases hpeer with ⟨hnone, hgone⟩ | ⟨peer, peer', htext, hvalue, hsame⟩
  · rw [hnone, hgone]
    exact ⟨fun _ => nofun, fun _ => rfl⟩
  · rcases hlist with ⟨hnone, hgone⟩ | ⟨list, list', htext', hvalue', hsame'⟩
    · rw [htext, hnone, hgone]
      exact ⟨fun _ _ _ _ => nofun, fun _ => rfl⟩
    · rw [htext, htext', hvalue, hvalue']
      have hlinked : linked fold now after peer list = true ↔
        ∃ p ∈ inv.peers, fold peer' = fold p.peerRemoteAddr ∧
          ∃ l, linkedList fold snapshot.prefixLinks p.peerRemoteAddr = some l ∧
            fold list' = fold l := by
        rw [hstored.linked_iff, hsame, hsame']
      dsimp only
      split
      · rename_i hlink
        refine ⟨fun _ p l hp hl => ?_, fun _ => rfl⟩
        obtain rfl := Option.some.inj hp
        obtain rfl := Option.some.inj hl
        exact hlinked.mp hlink
      · rename_i hlink
        exact ⟨nofun, fun h => absurd (hlinked.mpr (h peer' list' rfl rfl)) hlink⟩

/-- A list that is linked was found at its peer. -/
theorem exists_link_of_linkedList {peer list : Text} {links : List (Ipv4.Addr × Text)}
    (h : linkedList fold links peer = some list) :
    ∃ link ∈ links, fold (Ipv4.addrText link.1) = fold peer ∧ link.2 = list := by
  obtain ⟨link, hfind, hlist⟩ := Option.map_eq_some_iff.mp h
  have hsame : same fold peer (Ipv4.addrText link.1) = true :=
    List.find?_some (p := fun link :
      Ipv4.Addr × Text => same fold peer (Ipv4.addrText link.1)) hfind
  exact ⟨link, List.mem_reverse.mp (List.mem_of_find?_eq_some hfind),
    (same_eq_true.mp hsame).symm, hlist⟩

/-- **The checks fail for two kinds of reasons only**: the run did not find what a parameter names,
or something else is in the way. -/
theorem checks_iff (hstored : Stored fold now prefixes snapshot inventory inv after)
    (ht : t ∈ catalogue) :
    (∃ c, canonicalizeInventoryParams fold now device after t params = .ok c ∧
      prefixTargetIsContained now after t c = .ok true) ↔
      ¬Missing fold now prefixes snapshot inventory inv t params ∧
      ¬Obstructed fold now snapshot inventory inv t params := by
  constructor
  · rintro ⟨c, hcanonical, hcontained⟩
    obtain ⟨subst, canonical, hsubst, hresolved, hc, hlink⟩ := canonicalize_eq_ok.mp hcanonical
    have hone : ∀ {subst'}, validateAndExpand t.schema params = .ok subst' →
      subst = subst' := fun h =>
      Except.ok.inj (hsubst.symm.trans h)
    have hfound := (exists_resolveAll (tidySchema t ht).policyKind).mp ⟨canonical, hresolved⟩
    rw [textOf_stripped_policyKind] at hfound
    have hlinked := (checkLink_iff hstored ht hsubst hresolved hc).mp hlink
    constructor
    -- each reason contradicts the check that looks for it
    · intro hmissing
      cases hmissing with
      | source hsubst' hmem hsource hvalue h =>
        obtain rfl := hone hsubst'
        obtain ⟨value, hvalue', hv⟩ := hfound _ hmem _ hsource
        obtain rfl := Option.some.inj (hvalue.symm.trans hvalue')
        exact (hstored.resolve_iff.mp hv).1 h
      | link hsubst' hpeer hlist h =>
        obtain rfl := hone hsubst'
        obtain ⟨p, -, hp, l, hl, hfold⟩ := hlinked _ _ hpeer hlist
        obtain ⟨link, hmem, haddr, rfl⟩ := exists_link_of_linkedList hl
        exact h link hmem (haddr.trans hp.symm) hfold.symm
      | space hsubst' hname htarget h =>
        obtain rfl := hone hsubst'
        obtain ⟨target, htarget', r, hr, hholds⟩ :=
          (contained_iff hstored ht hsubst hresolved hc).mp hcontained hname
        obtain rfl := Option.some.inj (htarget.symm.trans htarget')
        exact h r hr hholds
    · intro hobstructed
      cases hobstructed with
      | invalid h => exact h subst hsubst
      | source hsubst' hmem hsource hvalue h =>
        obtain rfl := hone hsubst'
        obtain ⟨value, hvalue', hv⟩ := hfound _ hmem _ hsource
        obtain rfl := Option.some.inj (hvalue.symm.trans hvalue')
        exact (hstored.resolve_iff.mp hv).2 h
      | tag hsubst' hname hgiven h =>
        obtain rfl := hone hsubst'
        rcases checkTag_eq_ok.mp hc with ⟨-, given, n, hgiven', hn, hmem, -⟩ | ⟨hother, -⟩
        · obtain rfl := Option.some.inj (hgiven.symm.trans hgiven')
          exact h n hn (hstored.tags ▸ hmem)
        · rw [hname] at hother
          cases hother
      | link hsubst' hpeer hlist hlink' hsame h =>
        obtain rfl := hone hsubst'
        obtain ⟨p, hp, hpeer', l, hl, hfold⟩ := hlinked _ _ hpeer hlist
        exact h p hp hpeer' l hl hfold
  · rintro ⟨hfound, hfree⟩
    obtain ⟨subst, hsubst⟩ : ∃ subst, validateAndExpand t.schema params = .ok subst := by
      by_contra hnone
      exact hfree (.invalid fun subst h => hnone ⟨subst, h⟩)
    obtain ⟨canonical, hresolved⟩ : ∃ canonical,
        resolveAll fold now device after subst t.schema (stripped params) = .ok canonical := by
      refine (exists_resolveAll (tidySchema t ht).policyKind).mpr fun s hs source hsource => ?_
      obtain ⟨hrequired, htype⟩ :=
        (tidySchema t ht).required s hs (by rw [hsource]; exact Option.some_ne_none _)
      obtain ⟨value, hvalue⟩ := exists_value ht hsubst hs hrequired htype
      rw [textOf_stripped_policyKind]
      exact ⟨value, hvalue, hstored.resolve_iff.mpr
        ⟨fun h => hfound (.source hsubst hs hsource hvalue h),
        fun h => hfree (.source hsubst hs hsource hvalue h)⟩⟩
    obtain ⟨c, hc⟩ : ∃ c, checkTag after t subst canonical = .ok c := by
      cases hname : requiresTag t.name with
      | false => exact ⟨canonical, checkTag_eq_ok.mpr (Or.inr ⟨hname, rfl⟩)⟩
      | true =>
        obtain ⟨n, hgiven, hn, -⟩ := exists_tag ht hsubst hname
        have hparse := parseUnsigned_natText hn
        refine ⟨_, checkTag_eq_ok.mpr (Or.inl ⟨hname, natText n, n, hgiven, hparse, ?_, rfl⟩)⟩
        by_contra hnone
        refine hfree (.tag hsubst hname hgiven fun m hm hmem => hnone ?_)
        obtain rfl := Option.some.inj (hparse.symm.trans hm)
        exact hstored.tags ▸ hmem
    refine ⟨c, canonicalize_eq_ok.mpr ⟨subst, canonical, hsubst, hresolved, hc, ?_⟩,
      (contained_iff hstored ht hsubst hresolved hc).mpr fun hname => ?_⟩
    · refine (checkLink_iff hstored ht hsubst hresolved hc).mpr fun peer list hpeer hlist => ?_
      by_contra hnone
      refine hfound (.link hsubst hpeer hlist fun link hlink haddr hsame => hfree ?_)
      exact .link hsubst hpeer hlist hlink ⟨haddr, hsame⟩ fun p hp hp' l hl hfold =>
        hnone ⟨p, hp, hp', l, hl, hfold⟩
    · obtain ⟨d, hd, hschema⟩ := (tidySchema t ht).space hname
      have hmem : (prefixParam, d) ∈ t.schema := hschema ▸ List.mem_cons_self
      have hkind : d.required = true ∧ d.type ≠ .seq := by
        rcases List.mem_cons.mp hd with rfl | hd
        · exact ⟨rfl, nofun⟩
        · rw [List.mem_singleton.mp hd]
          exact ⟨rfl, nofun⟩
      obtain ⟨target, htarget⟩ := exists_value ht hsubst hmem hkind.1 hkind.2
      refine ⟨target, htarget, ?_⟩
      by_contra hnone
      exact hfound (.space hsubst hname htarget fun r hr hholds => hnone ⟨r, hr, hholds⟩)

end Whole

end Rerouter.Drift
