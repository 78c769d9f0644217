import Rerouter.Allowlist
import Rerouter.Lib.Ipv6Addr
import Rerouter.Lib.Table
import Rerouter.RouteContext

/-!
# Discovery runs

`discover_prefixes_and_store_inner` of `ssh/mod.rs`. A run reads the configuration of a router in
two sessions and writes what it found over what was stored before.

Only some reads prove the configuration (`Rerouter.Drift.Findings.read`): the first output has to
carry a `router bgp` line, and neither of the two others may be denied, missing or contradicted by
the references to what it should hold. What was not proved is not written, with one exception. The
announced networks are written whatever the first output holds.

The texts of the tables are compared by a collation. It is a parameter here: two texts are the same
to the database when `fold` says so.
-/

namespace Rerouter.Drift

open Text

/-! ### Announced networks -/

/-- Where a line of the section stands. -/
inductive NetworkContext where
  | outside | globalIpv4 | defaultIpv4 | defaultIpv6 | unsupported
deriving DecidableEq

/-- `mask_to_len`. -/
def maskToLen (mask : Ipv4.Addr) : Option ℕ :=
  let len := (List.range 32).countP fun i => mask.getLsbD i
  if mask = Ipv4.mask len then some len else none

/-- `classful_len`. -/
def classfulLen (ip : Ipv4.Addr) : ℕ :=
  if ip.toNat / 16777216 ≤ 127 then 8 else if ip.toNat / 16777216 ≤ 191 then 16 else 24

/-- `network_tail_valid`, of what stands behind the network. -/
def networkTailValid : List Text → Bool
  | [] => true
  | [word, name] => decide (word = ("route-map" : Text)) && isName name
  | _ => false

/-- A network, as it is stored. -/
def networkText (ip : Ipv4.Addr) (len : ℕ) : Text :=
  Ipv4.addrText (ip &&& Ipv4.mask len) ++ '/' :: natText len

/-- A network statement of IPv4 whose network is one word. -/
def slashedV4 (word : Text) : Option Text :=
  match splitOnce '/' word with
  | some (ip, len) => do
    let ip ← Ipv4.parseAddr ip
    let len ← parseUnsigned 255 len
    if len ≤ 32 then some (networkText ip len) else none
  | none => do
    let ip ← Ipv4.parseAddr word
    some (networkText ip (classfulLen ip))

/-- A network statement of IPv4. -/
def networkV4 : List Text → Option Text
  | [] => none
  | word :: tail =>
    match tail with
    | "mask" :: mask :: rest =>
      if networkTailValid rest then do
        let ip ← Ipv4.parseAddr word
        let mask ← Ipv4.parseAddr mask
        let len ← maskToLen mask
        some (Ipv4.addrText (ip &&& mask) ++ '/' :: natText len)
      else if networkTailValid tail then slashedV4 word else none
    | _ => if networkTailValid tail then slashedV4 word else none

/-- A network statement of IPv6. -/
def networkV6 : List Text → Option Text
  | [] => none
  | word :: tail =>
    if networkTailValid tail then do
      let (ip, len) ← splitOnce '/' word
      let ip ← Ipv6.parseAddr ip
      let len ← parseUnsigned 255 len
      if len ≤ 128 then some (Ipv6.addrText (ip &&& Ipv6.mask len) ++ '/' :: natText len) else none
    else none

/-- The context an `address-family` line opens. -/
def familyContext (tokens : List Text) : NetworkContext :=
  if tokens = ["ipv4"] ∨ tokens = ["ipv4", "unicast"] then .defaultIpv4
  else if tokens = ["ipv6"] ∨ tokens = ["ipv6", "unicast"] then .defaultIpv6
  else .unsupported

/-- The network of a statement, in its context. -/
def statedNetwork (context : NetworkContext) (rest : Text) : Option Text :=
  match context with
  | .globalIpv4 | .defaultIpv4 => networkV4 (splitWhitespace rest)
  | .defaultIpv6 => networkV6 (splitWhitespace rest)
  | .outside | .unsupported => none

/-- One line: the context behind it and the network it states. -/
def networkLine (context : NetworkContext) (line : Text) : NetworkContext × Option Text :=
  let trimmed := trim line
  if startsWith "router bgp " trimmed then (.globalIpv4, none)
  else
    match stripPrefix "address-family " trimmed with
    | some family => (familyContext (splitWhitespace family), none)
    | none =>
      if trimmed = ("exit-address-family" : Text) then (.globalIpv4, none)
      else if trimmed = ("exit" : Text) then (.outside, none)
      else (context, (stripPrefix "network " trimmed).bind (statedNetwork context))

/-- The networks of some lines. -/
def networksFrom : NetworkContext → List Text → List Text
  | _, [] => []
  | context, line :: rest =>
    let (context, network) := networkLine context line
    network.toList ++ networksFrom context rest

/-- `parse_network_statements`, in the order of the texts and each once. -/
def parseNetworkStatements (config : Text) : List Text :=
  (Std.TreeSet.ofList (networksFrom .outside (lines config)) compare).toList

example :
    parseNetworkStatements ("router bgp 65000\n".toList ++
      " network 203.0.113.0 mask 255.255.255.0\n" ++
    " network 10.0.0.0\n" ++ " network 192.0.2.5/24 route-map X\n" ++ " address-family ipv6\n" ++
    "  network 2001:db8::1/32\n") =
    ["10.0.0.0/8".toList, "192.0.2.0/24".toList, "2001:db8::/32".toList,
      "203.0.113.0/24".toList] := by
  decide +kernel

/-! ### Reads -/

/-- The markers of `ios_command_error`. -/
def commandErrorMarkers : List Text :=
  ["% Invalid input", "ommand authorization failed", "not authorized", "% Incomplete command",
    "% Ambiguous command", "% Permission denied", "% Configuration locked",
    "% Configuration lock failed",
    "%Error", "% Error"]

/-- `cisco_denied`. -/
def ciscoDenied (output : Text) : Option Text :=
  ((lines output).map trim).find? fun l => commandErrorMarkers.any fun m => contains m l

/-- The outputs of the two sessions. A session that failed has none. -/
structure Reads where
  /-- Of `show running-config | section ^router bgp`. -/
  bgp : Option (List Text)
  /-- Of the sections of the route maps and of the prefix lists. -/
  policy : Option (List Text)

/-- What a run found. -/
structure Findings where
  prefixes : List Text
  announcedPrefixesProven : Bool
  /-- The route context and the typed inventory, or why there are none. -/
  routeContext : Except Text (RouteContext.RouteContextSnapshot × RoutingPolicyInventory)

/-- What the second session makes of the output of the first. -/
def readRouteContext (bgp : Text) :
    Option (List Text) → Except Text (RouteContext.RouteContextSnapshot × RoutingPolicyInventory)
  | none => .error "route_map_discovery_failed"
  | some (rm :: pl :: _) =>
    if ((ciscoDenied rm).or (ciscoDenied pl)).isSome then .error "route_map_discovery_denied"
    else
      match RouteContext.resolveRouteContext bgp rm pl with
      | .ok snapshot => .ok (snapshot, parseInventory bgp rm pl)
      | .error unavailable => .error unavailable.event
  | some _ => .error "route_map_discovery_incomplete"

/-- What is found, unless the run fails. -/
def discover (reads : Reads) : Except Text Findings := do
  let results ← okOr "the session failed" reads.bgp
  let output := results.headD []
  match ciscoDenied output with
  | some denied => .error ("announced-prefix discovery was denied by the device: ".toList ++ denied)
  | none =>
    return {
      prefixes := parseNetworkStatements output
      announcedPrefixesProven := (lines output).any fun l =>
        startsWith "router bgp" (asciiLower (trimStart l))
      routeContext := readRouteContext output reads.policy }

/-- `InventoryRead`. -/
inductive InventoryRead where
  | conclusive
  | inconclusive (reason : Text)
deriving DecidableEq

/-- What may be concluded from a run. -/
def Findings.read (f : Findings) : InventoryRead :=
  match f.announcedPrefixesProven, f.routeContext with
  | true, .ok _ => .conclusive
  | false, _ => .inconclusive "announced_prefix_read_unproven"
  | true, .error reason => .inconclusive reason

/-! ### Tables -/

/-- A row of `device_interfaces`. -/
structure InterfaceRow where
  ifName : Option Text
  ifDescr : Option Text
  lastSeenAt : Option ℕ
deriving DecidableEq

/-- A row of `device_bgp_peers`. -/
structure PeerRow where
  peerRemoteAddr : Text
  localAs : Option ℕ
  lastPolledAt : Option ℕ
  outPrefixList : Option Text := none
  routeContextDiscoveredAt : Option ℕ := none
deriving DecidableEq

/-- A row of `device_bgp_networks` or of `device_route_maps`. -/
structure DiscoveredRow where
  name : Text
  lastDiscoveredAt : Option ℕ
deriving DecidableEq

/-- A row of `routing_policy_snapshots`. -/
structure PolicySnapshotRow where
  inventory : RoutingPolicyInventory
  completeness : Text
  readAt : ℕ

/-- The rows of one device, and the tags of `rtbh_communities`. Times are in seconds. -/
structure Inventories where
  interfaces : List InterfaceRow := []
  peers : List PeerRow := []
  networks : List DiscoveredRow := []
  routeMaps : List DiscoveredRow := []
  policy : Option PolicySnapshotRow := none
  tags : List ℕ := []

/-! ### What a run writes -/

section Store

variable {κ : Type} [DecidableEq κ] (fold : Text → κ) (now : ℕ)

/-- Two texts the database takes for the same. -/
def same (a b : Text) : Bool := decide (fold a = fold b)

/-- `INSERT … ON DUPLICATE KEY UPDATE last_discovered_at`. -/
def rediscover (rows : List DiscoveredRow) (name : Text) : List DiscoveredRow :=
  if rows.any fun r => same fold r.name name then
    Table.update (fun r => same fold r.name name)
      (fun r => { r with lastDiscoveredAt := some now }) rows
  else rows ++ [⟨name, some now⟩]

/-- The rows of a table of discovered names, after a run that found some. -/
def reconcile (found : List Text) (rows : List DiscoveredRow) : List DiscoveredRow :=
  Table.delete (fun r => r.lastDiscoveredAt.isNone)
    (found.foldl (rediscover fold now) (rows.map fun r => { r with lastDiscoveredAt := none }))

/-- `completeness` of an inventory that is complete. -/
def completeText : Text := "complete"

/-- `completeness`: a typed inventory is complete when it has no blockers. -/
def completenessOf (inventory : RoutingPolicyInventory) : Text :=
  if inventory.blockers = [] then completeText else "partial"

/-- The list a run found at a peer. A later statement overwrites an earlier one. -/
def linkedList (links : List (Ipv4.Addr × Text)) (peer : Text) : Option Text :=
  (links.reverse.find? fun link => same fold peer (Ipv4.addrText link.1)).map Prod.snd

/-- The route context of a peer, after a run that proved it. -/
def refreshPeer (links : List (Ipv4.Addr × Text)) (p : PeerRow) : PeerRow :=
  { p with
    outPrefixList := linkedList fold links p.peerRemoteAddr
    routeContextDiscoveredAt := some now }

/-- The tables after a run. -/
def storeRun (f : Findings) (inv : Inventories) : Inventories :=
  let announced := { inv with networks := reconcile fold now f.prefixes inv.networks }
  match f.routeContext with
  | .error _ => announced
  | .ok (snapshot, inventory) =>
    { announced with
      policy := some ⟨inventory, completenessOf inventory, now⟩
      peers := inv.peers.map (refreshPeer fold now snapshot.prefixLinks)
      routeMaps := reconcile fold now snapshot.routeMaps inv.routeMaps }

end Store

@[simp] theorem same_eq_true {κ : Type} [DecidableEq κ] {fold : Text → κ} {a b : Text} :
    same fold a b = true ↔ fold a = fold b := decide_eq_true_iff

/-! ### What stands in the tables after a run -/

section Reconciled

variable {κ : Type} [DecidableEq κ] {fold : Text → κ} {now : ℕ} {found : List Text}
  {rows : List DiscoveredRow} {r : DiscoveredRow}

/-- Every row is as old as the run or carries no time. -/
theorem time_rediscover {name : Text}
    (h : ∀ r ∈ rows, r.lastDiscoveredAt = none ∨ r.lastDiscoveredAt = some now) :
    ∀ r ∈ rediscover fold now rows name, r.lastDiscoveredAt = none ∨
      r.lastDiscoveredAt = some now := by
  unfold rediscover
  split
  · exact Table.forall_mem_update (fun r hr _ => h r hr) fun r _ _ => Or.inr rfl
  · intro r hr
    rcases List.mem_append.mp hr with hr | hr
    · exact h r hr
    · exact Or.inr (by rw [List.mem_singleton.mp hr])

/-- The names that carry the time of the run, up to the collation. -/
def Timed (fold : Text → κ) (now : ℕ) (rows : List DiscoveredRow) (k : κ) : Prop :=
  ∃ r ∈ rows, r.lastDiscoveredAt = some now ∧ fold r.name = k

theorem timed_rediscover {name : Text} {k : κ} :
    Timed fold now (rediscover fold now rows name) k ↔ Timed fold now rows k ∨ fold name = k := by
  unfold rediscover
  split
  · rename_i hany
    -- a stored name of the same collation takes the time of the run
    obtain ⟨old, hold, hsame⟩ := List.any_eq_true.mp hany
    have hfold : fold old.name = fold name := same_eq_true.mp hsame
    constructor
    · rintro ⟨r, hr, htime, rfl⟩
      obtain ⟨a, ha, heq⟩ := Table.mem_update.mp hr
      split at heq
      · rename_i hmatch
        subst heq
        exact Or.inr (same_eq_true.mp hmatch).symm
      · subst heq
        exact Or.inl ⟨a, ha, htime, rfl⟩
    · rintro (⟨r, hr, htime, rfl⟩ | rfl)
      · refine ⟨_, Table.mem_update.mpr ⟨r, hr, rfl⟩, ?_, ?_⟩
        · split
          · rfl
          · exact htime
        · split <;> rfl
      · refine ⟨_, Table.mem_update.mpr ⟨old, hold, rfl⟩, ?_, ?_⟩
        · rw [if_pos hsame]
        · rw [if_pos hsame]
          exact hfold
  · constructor
    · rintro ⟨r, hr, htime, rfl⟩
      -- no stored name matches: the row is inserted
      rcases List.mem_append.mp hr with hr | hr
      · exact Or.inl ⟨r, hr, htime, rfl⟩
      · exact Or.inr (by rw [List.mem_singleton.mp hr])
    · rintro (⟨r, hr, htime, rfl⟩ | rfl)
      · exact ⟨r, List.mem_append_left _ hr, htime, rfl⟩
      · exact ⟨⟨name, some now⟩, List.mem_append_right _ List.mem_cons_self, rfl, rfl⟩

theorem timed_foldl {k : κ} : Timed fold now (found.foldl (rediscover fold now) rows) k ↔
    Timed fold now rows k ∨ ∃ n ∈ found, fold n = k := by
  induction found generalizing rows with
  | nil => simp
  | cons n found ih =>
    rw [List.foldl_cons, ih, timed_rediscover]
    simp only [List.mem_cons, exists_eq_or_imp, or_assoc]

theorem time_foldl (h : ∀ r ∈ rows, r.lastDiscoveredAt = none ∨ r.lastDiscoveredAt = some now) :
    ∀ r ∈ found.foldl (rediscover fold now) rows, r.lastDiscoveredAt = none ∨
      r.lastDiscoveredAt = some now := by
  induction found generalizing rows with
  | nil => exact h
  | cons n found ih => exact ih (time_rediscover h)

/-- The time of a row after a run. -/
theorem time_of_mem_reconcile (h : r ∈ reconcile fold now found rows) :
    r.lastDiscoveredAt = some now := by
  obtain ⟨hmem, hsome⟩ := Table.mem_delete.mp h
  have hcleared : ∀ r ∈ rows.map fun r => { r with lastDiscoveredAt := none },
      r.lastDiscoveredAt = none ∨ r.lastDiscoveredAt = some now := by
    intro r hr
    obtain ⟨a, -, rfl⟩ := List.mem_map.mp hr
    exact Or.inl rfl
  rcases time_foldl hcleared r hmem with htime | htime
  · simp [htime] at hsome
  · exact htime

/-- **After a run a table holds what the run found**, up to the collation, and nothing else. -/
theorem mem_reconcile {k : κ} :
    (∃ r ∈ reconcile fold now found rows, fold r.name = k) ↔ ∃ n ∈ found, fold n = k := by
  have hnone : ¬Timed fold now (rows.map fun r => { r with lastDiscoveredAt := none }) k := by
    rintro ⟨r, hr, htime, -⟩
    obtain ⟨a, -, rfl⟩ := List.mem_map.mp hr
    cases htime
  rw [← or_iff_right hnone (b := ∃ n ∈ found, fold n = k), ← timed_foldl]
  constructor
  · rintro ⟨r, hr, hk⟩
    exact ⟨r, (Table.mem_delete.mp hr).1, time_of_mem_reconcile hr, hk⟩
  · rintro ⟨r, hr, htime, hk⟩
    exact ⟨r, Table.mem_delete.mpr ⟨hr, by simp [htime]⟩, hk⟩

end Reconciled

end Rerouter.Drift

