import Rerouter.Lib.Ipv6Addr
import Rerouter.PolicyInventory

/-!
# What the output of a router proves

The readers of command output that `reroute/device_plan.rs` prepares and verifies actions with:
networks in canonical form (`Rerouter.normalizeCidr`), exact lines of a configuration, BGP tables,
routing-table entries, static routes, neighbors, interfaces, and what consumes a prefix list
(`ssh/mod.rs`).

Two sets of functions read the same output. A *reader* says what a state is; an *evidence* function
says of an expected state whether the output proves it, disproves it or does neither
(`Rerouter.EvidenceVerdict`).
-/

namespace Rerouter

open Text

/-! ### Networks -/

/-- `normalize_cidr`: a network of either family, with no bit set behind its length. -/
def normalizeCidr (value : Text) : Option Text := do
  let (addr, len) ← splitOnce '/' value
  match Ipv4.parseAddr addr with
  | some a => do
    let n ← parseUnsigned maxU32 len
    if n ≤ 32 then some (Ipv4.addrText (a &&& Ipv4.mask n) ++ '/' :: natText n) else none
  | none => do
    let a ← Ipv6.parseAddr addr
    let n ← parseUnsigned maxU32 len
    if n ≤ 128 then some (Ipv6.addrText (a &&& Ipv6.mask n) ++ '/' :: natText n) else none

theorem normalizeCidr_net4 (a : Ipv4.Addr) {n : ℕ} (hn : n ≤ 32) :
    normalizeCidr (Ipv4.addrText a ++ '/' :: natText n) =
      some (Ipv4.addrText (a &&& Ipv4.mask n) ++ '/' :: natText n) := by
  have hslash : '/' ∉ Ipv4.addrText a := Ipv4.not_mem_addrText (by decide) (by decide) a
  have hlen : parseUnsigned maxU32 (natText n) = some n :=
    parseUnsigned_natText (hn.trans (by decide))
  rw [normalizeCidr, splitOnce_append hslash]
  simp [Ipv4.parseAddr_addrText, hlen, hn]

/-- A text with a colon is no IPv4 address. -/
theorem parseAddr_eq_none_of_colon {s : Text} (h : ':' ∈ s) : Ipv4.parseAddr s = none := by
  rw [Option.eq_none_iff_forall_not_mem]
  intro a ha
  rcases Ipv4.digit_or_dot_of_parseAddr ha h with hc | hc
  · exact absurd hc (by decide)
  · exact absurd hc (by decide)

theorem normalizeCidr_net6 (a : Ipv6.Addr) {n : ℕ} (hn : n ≤ 128) :
    normalizeCidr (Ipv6.addrText a ++ '/' :: natText n) =
      some (Ipv6.addrText (a &&& Ipv6.mask n) ++ '/' :: natText n) := by
  have hlen : parseUnsigned maxU32 (natText n) = some n :=
    parseUnsigned_natText (hn.trans (by decide))
  rw [normalizeCidr, splitOnce_append (Ipv6.slash_not_mem_addrText a)]
  simp [parseAddr_eq_none_of_colon (Ipv6.colon_mem_addrText a), Ipv6.parseAddr_addrText, hlen, hn]

/-- What is canonical: a network address, cut to the length behind it. -/
theorem normalizeCidr_eq_some {value n : Text} (h : normalizeCidr value = some n) :
    (∃ a len, len ≤ 32 ∧ n = Ipv4.addrText (a &&& Ipv4.mask len) ++ '/' :: natText len) ∨
      ∃ a len, len ≤ 128 ∧ n = Ipv6.addrText (a &&& Ipv6.mask len) ++ '/' :: natText len := by
  obtain ⟨⟨addr, len⟩, -, h⟩ := Option.bind_eq_some_iff.mp h
  dsimp only at h
  split at h
  · rename_i a ha
    obtain ⟨k, -, h⟩ := Option.bind_eq_some_iff.mp h
    split at h
    · rename_i hk
      exact Or.inl ⟨a, k, hk, (Option.some.inj h).symm⟩
    · cases h
  · obtain ⟨a, -, h⟩ := Option.bind_eq_some_iff.mp h
    obtain ⟨k, -, h⟩ := Option.bind_eq_some_iff.mp h
    split at h
    · rename_i hk
      exact Or.inr ⟨a, k, hk, (Option.some.inj h).symm⟩
    · cases h

/-- **A canonical network is its own canonical form.** -/
theorem normalizeCidr_of_normalizeCidr {value n : Text} (h : normalizeCidr value = some n) :
    normalizeCidr n = some n := by
  rcases normalizeCidr_eq_some h with ⟨a, len, hlen, rfl⟩ | ⟨a, len, hlen, rfl⟩
  · rw [normalizeCidr_net4 _ hlen, Ipv4.mask_mask]
  · rw [normalizeCidr_net6 _ hlen, BitVec.and_assoc, BitVec.and_self]

/-- An address of either family. -/
def isIpAddr (tok : Text) : Bool := isIpv4 tok || Ipv6.isAddr tok

/-- `ipv4_network_mask`: the network and the mask of an IPv4 route. -/
def ipv4NetworkMask (cidr : Text) : Except Text (Text × Text) :=
  match (normalizeCidr cidr).bind (splitOnce '/') with
  | none => .error ("invalid IPv4 route prefix " ++ debugText cidr)
  | some (network, length) =>
    if ':' ∈ network then .error ("expected an IPv4 route prefix, got " ++ cidr)
    else
      match parseUnsigned maxU32 length with
      | some n => .ok (network, Ipv4.addrText (Ipv4.mask n))
      | none => .error "invalid digit found in string"

/-! ### Configuration lines -/

/-- `has_exact_config_line`. -/
def hasExactConfigLine (output expected : Text) : Bool :=
  (lines output).any fun line => splitWhitespace line = splitWhitespace expected

/-- `validate_interface_stanza`. -/
def validateInterfaceStanza (output interface : Text) : Except Text Unit :=
  if (lines output).filterMap (fun line => stripPrefix "interface " (trim line)) = [interface] then
    .ok ()
  else .error ("interface configuration response was not exactly the requested " ++
    interface ++ " stanza")

/-- The MSS of an interface stanza. -/
def stanzaMss (output : Text) : Option ℕ :=
  (lines output).findSome? fun line =>
    match splitWhitespace line with
    | [ip, tcp, verb, value] =>
      if ip = ("ip" : Text) ∧ tcp = ("tcp" : Text) ∧ verb = ("adjust-mss" : Text) then
        parseUnsigned maxU32 value
      else none
    | _ => none

/-- Whether an operational read is about an interface. -/
def provesInterface (output interface : Text) : Bool :=
  (lines output).any fun line => startsWith (interface ++ " is ") (trimStart line)

/-- Whether an operational read shows an interface taken down. -/
def administrativelyDown (output : Text) : Bool :=
  contains ("administratively down" : Text) (asciiLower output)

/-! ### BGP tables -/

/-- `bgp_status_token`. -/
def bgpStatusToken (token : Text) : Bool :=
  !token.isEmpty && token.all fun c => decide (c ∈ ("*><sdhrSfxacmbi" : Text))

/-- The word of a table row that may be its network. -/
def bgpCandidate : List Text → Option Text
  | [] => none
  | first :: rest =>
    if (normalizeCidr first).isSome then some first
    else
      match rest with
      | [] => none
      | second :: rest =>
        if bgpStatusToken first then some second
        else
          match rest with
          | [] => none
          | third :: _ => if bgpStatusToken first && bgpStatusToken second then some third else none

/-- `bgp_line_prefix`. -/
def bgpLinePrefix (line : Text) : Option Text :=
  match stripPrefix "BGP routing table entry for " (trim line) with
  | some rest => ((splitWhitespace rest).head?.map (trimMatches ",()")).bind normalizeCidr
  | none => (bgpCandidate (splitWhitespace (trim line))).bind normalizeCidr

/-- `bgp_line_has_exact_prefix`. -/
def bgpLineHasExactPrefix (line cidr : Text) : Bool := bgpLinePrefix line = normalizeCidr cidr

/-- `has_exact_cidr`. -/
def hasExactCidr (output expected : Text) : Bool :=
  match normalizeCidr expected with
  | some expected => (lines output).any fun line => bgpLinePrefix line = some expected
  | none => false

/-- Whether one of some lines has a token, up to punctuation. -/
def blockHasToken (set wanted : Text) (block : List Text) : Bool :=
  block.any fun line => (splitWhitespace line).any fun token => trimMatches set token = wanted

/-- The entry at a line: the line and those up to the next entry. -/
def bgpBlock (line : Text) (rest : List Text) : List Text :=
  line :: rest.takeWhile fun l => (bgpLinePrefix l).isNone

/-- Some lines that have an entry for a network, with a community. -/
def linesHaveBgpRoute (cidr : Text) (community : Option Text) : List Text → Bool
  | [] => false
  | line :: rest =>
    (bgpLineHasExactPrefix line cidr &&
      community.all fun wanted => blockHasToken ",()" wanted (bgpBlock line rest)) ||
    linesHaveBgpRoute cidr community rest

/-- `has_exact_bgp_route`. -/
def hasExactBgpRoute (output cidr : Text) (community : Option Text) : Bool :=
  linesHaveBgpRoute cidr community (lines output)

/-- The header of an advertisement table. -/
def tableHeader (line : Text) : Bool :=
  let words := splitWhitespace (asciiLower line)
  (words.zip words.tail).any fun w => w = (("network" : Text), ("next" : Text))

/-- The number a footer declares. -/
def tableFooter (line : Text) : Option ℕ :=
  (stripPrefix "total number of prefixes " (asciiLower (trim line))).bind fun count =>
    parseUnsigned maxUsize (trim count)

/-- The rows above the footer, what it declares, and what stands below it. -/
def cutFooter : List Text → Option (List Text × ℕ × List Text)
  | [] => none
  | line :: rest =>
    match tableFooter line with
    | some declared => some ([], declared, rest)
    | none => (cutFooter rest).map fun p => (line :: p.1, p.2)

/-- `complete_advertisement_table`. -/
def completeAdvertisementTable (output : Text) : Bool :=
  match (lines output).dropWhile (fun l => !tableHeader l) with
  | [] => false
  | _ :: body =>
    match cutFooter body with
    | none => false
    | some (rows, declared, below) =>
      rows.all (fun l => (trim l).isEmpty || (bgpLinePrefix l).isSome) &&
        decide (rows.countP (fun l => (bgpLinePrefix l).isSome) = declared) &&
          below.all fun l => (trim l).isEmpty

/-! ### Evidence -/

/-- `EvidenceVerdict`. -/
inductive EvidenceVerdict where
  | matched | provenMismatch | unproven
deriving DecidableEq

/-- `evidence_matches`. -/
def evidenceMatches (verdict : EvidenceVerdict) (subject : Text) : Except Text Bool :=
  match verdict with
  | .matched => .ok true
  | .provenMismatch => .ok false
  | .unproven => .error (subject ++ " response did not prove either presence or absence")

/-- The answers that say a route is not there. -/
def absenceLines : List Text :=
  ["% network not in table", "network not in table", "% route not found", "route not found",
    "% no matching route", "no matching route"]

/-- `explicit_absence`. -/
def explicitAbsence (output : Text) : Bool :=
  (lines output).any fun line => absenceLines.contains (asciiLower (trim line))

/-- `bgp_evidence`. -/
def bgpEvidence (output cidr : Text) (community : Option Text)
    (advertisement expectedPresent : Bool) :
    EvidenceVerdict :=
  if (trim output).isEmpty then .unproven
  else if hasExactCidr output cidr then
    if expectedPresent && hasExactBgpRoute output cidr community then .matched else .provenMismatch
  else if (advertisement && completeAdvertisementTable output) ||
    (!advertisement && explicitAbsence output) then
    if expectedPresent then .provenMismatch else .matched
  else .unproven

/-- The network a routing entry is for. -/
def routingEntry (line : Text) : Option Text :=
  (stripPrefix "Routing entry for " (trim line)).bind fun rest => (splitWhitespace rest).head?

/-- The entry at a line: the line and those up to the next entry. -/
def routeBlock (line : Text) (rest : List Text) : List Text :=
  line :: rest.takeWhile fun l => !startsWith "Routing entry for " (trim l)

/-- Some lines that have an entry for a network, through a next hop. -/
def linesHaveRoute (expected nextHop : Text) : List Text → Bool
  | [] => false
  | line :: rest =>
    (((routingEntry line).map (trimMatches ",()")).bind normalizeCidr = some expected &&
      blockHasToken ",*()" nextHop (routeBlock line rest)) ||
    linesHaveRoute expected nextHop rest

/-- `has_exact_route_resolution`. -/
def hasExactRouteResolution (output cidr nextHop : Text) : Bool :=
  match normalizeCidr cidr with
  | some expected => linesHaveRoute expected nextHop (lines output)
  | none => false

/-- Whether the output has an entry for a network, through whatever next hop. -/
def showsRoute (output cidr : Text) : Bool :=
  (lines output).any fun line => (routingEntry line).bind normalizeCidr = normalizeCidr cidr

/-- `route_resolution_evidence`. -/
def routeResolutionEvidence (output cidr nextHop : Text) (expectedPresent : Bool) :
    EvidenceVerdict :=
  if hasExactRouteResolution output cidr nextHop || showsRoute output cidr then
    if expectedPresent && hasExactRouteResolution output cidr nextHop then
      .matched else .provenMismatch
  else if explicitAbsence output then
    if expectedPresent then .provenMismatch else .matched
  else .unproven

/-! ### Neighbors -/

/-- `ParsedBgpNeighborState`. -/
structure ParsedBgpNeighborState where
  administrativelyShutdown : Bool
  state : Option Text
deriving DecidableEq

/-- The state a line gives: what stands before a comma, a bracket or a blank. -/
def neighborStateOf (line : Text) : Option Text :=
  (stripPrefix "BGP state = " (trimStart line)).bind fun rest =>
    (rest.splitOnP fun c => c = ',' || c = '(' || isWhitespace c).find? fun part => part ≠ []

/-- `parse_bgp_neighbor_state`. -/
def parseBgpNeighborState (output neighbor : Text) : Except Text ParsedBgpNeighborState :=
  if !(lines output).any (fun line =>
    startsWith ("BGP neighbor is " ++ neighbor) (trimStart line)) then
    .error ("BGP neighbor output did not identify " ++ neighbor)
  else
    match (lines output).findSome? neighborStateOf with
    | none => .error ("BGP neighbor output did not contain a state for " ++ neighbor)
    | some state =>
      .ok ⟨contains ("administratively shut" : Text) (asciiLower output), some state⟩

/-- The route maps of a neighbor so far. -/
structure RouteMapScan where
  family : Text
  found : List Text

/-- A line, after those before it. -/
def RouteMapScan.read (neighbor direction wanted : Text) (st : RouteMapScan)
    (line : Text) : RouteMapScan :=
  match stripPrefix "address-family " (trim line) with
  | some v => { st with family := familyOf v }
  | none =>
    if trim line = ("exit-address-family" : Text) then { st with family := globalFamily }
    else
      match splitWhitespace (trim line) with
      | [head, peer, verb, map, dir] =>
        if head = ("neighbor" : Text) ∧ verb = ("route-map" : Text) ∧ peer = neighbor ∧
          dir = direction ∧
            st.family = wanted then
          { st with found := st.found ++ [map] }
        else st
      | _ => st

/-- `parse_route_map_assignment_scoped`. -/
def parseRouteMapAssignmentScoped (output neighbor direction wanted : Text) :
    Except Text (Option Text) :=
  let scan := (lines output).foldl (RouteMapScan.read neighbor direction wanted) ⟨globalFamily, []⟩
  if 1 < scan.found.length then .error "multiple route-map assignments in proved scope"
  else .ok scan.found.getLast?

/-- Whether a section has the router line of an AS. -/
def hasRouterLine (output : Text) (localAsn : ℕ) : Bool :=
  (lines output).any fun line => trim line = "router bgp " ++ natText localAsn

/-! ### Consumers of a prefix list -/

/-- The consumers in a BGP section so far. -/
structure ConsumerScan where
  family : Option Text
  consumers : List PrefixListConsumer

/-- The consumer a neighbor statement is. -/
def neighborConsumer (family : Option Text) (list : Text) (words : List Text) :
    Option PrefixListConsumer :=
  match words with
  | [owner, verb, name, direction] =>
    if verb = ("prefix-list" : Text) ∧ name = list ∧
        (direction = ("in" : Text) ∨ direction = ("out" : Text)) then
      some
        { kind := if family.isSome then "neighbor_address_family"
            else if isIpAddr owner then "neighbor" else "peer_group"
          owner :=
            match family with
            | some family => owner ++ '@' :: family
            | none => owner
          direction }
    else none
  | _ => none

/-- A line of the BGP section, after those before it. -/
def ConsumerScan.read (list : Text) (st : ConsumerScan) (line : Text) : ConsumerScan :=
  match stripPrefix "address-family " (trim line) with
  | some family => { st with family := some family }
  | none =>
    if trim line = ("exit-address-family" : Text) ∨ startsWith "router bgp " (trim line) = true then
      { st with family := none }
    else
      match stripPrefix "neighbor " (trim line) with
      | some rest =>
        { st with
          consumers := st.consumers ++
            (neighborConsumer st.family list (splitWhitespace rest)).toList }
      | none => st

/-- The route maps that match a list so far. -/
structure MatchScan where
  currentMap : Option Text
  consumers : List PrefixListConsumer

/-- A line of the route maps, after those before it. -/
def MatchScan.read (list : Text) (st : MatchScan) (line : Text) : MatchScan :=
  match stripPrefix "route-map " (trim line) with
  | some rest => { st with currentMap := (splitWhitespace rest).head? }
  | none =>
    match stripPrefix "match ip address prefix-list " (trim line) with
    | some rest =>
      if (splitWhitespace rest).contains list then
        { st with
          consumers := st.consumers ++
            [⟨"route_map", st.currentMap.getD "<unclassified>", "unknown"⟩] }
      else st
    | none => st

/-- Whether a line that names a list is of a kind the other readers know. -/
def knownReference (list : Text) (words : List Text) : Bool :=
  (match words with
    | ip :: verb :: name :: _ => ip = ("ip" : Text) && verb = ("prefix-list" : Text) && name = list
    | _ => false) ||
  (match words with
    | [head, _, verb, name, direction] =>
      head = ("neighbor" : Text) && verb = ("prefix-list" : Text) && name = list &&
        (direction = ("in" : Text) || direction = ("out" : Text))
    | _ => false) ||
  (match words with
    | head :: ip :: address :: verb :: names =>
      head = ("match" : Text) && ip = ("ip" : Text) && address = ("address" : Text) &&
        verb = ("prefix-list" : Text) && names.contains list
    | _ => false)

/-- What else of the configuration names a list. -/
def unclassifiedConsumers (fullConfig list : Text) : List PrefixListConsumer :=
  ((lines fullConfig).filter fun line =>
    (splitWhitespace (trim line)).contains list && !knownReference list
      (splitWhitespace (trim line))).map
      fun _ => ⟨"unclassified", "<redacted unclassified reference>", "unknown"⟩

/-- The order of the consumers: by kind, owner and direction. -/
def PrefixListConsumer.compare (a b : PrefixListConsumer) : Ordering :=
  (Ord.compare a.kind b.kind).then
    ((Ord.compare a.owner b.owner).then (Ord.compare a.direction b.direction))

/-- `prefix_list_consumers`. -/
def prefixListConsumers (bgpConfig routeMapConfig fullConfig list : Text) :
    List PrefixListConsumer :=
  let direct := ((lines bgpConfig).foldl (ConsumerScan.read list) ⟨none, []⟩).consumers
  let matched := ((lines routeMapConfig).foldl (MatchScan.read list) ⟨none, []⟩).consumers
  ((direct ++ matched ++ unclassifiedConsumers fullConfig list).insertionSort fun a b =>
    a.compare b ≠ .gt).dedup

/-- A consumer, as a refusal names it. -/
def PrefixListConsumer.text (c : PrefixListConsumer) : Text :=
  c.kind ++ ':' :: c.owner ++ ':' :: c.direction

/-- `ensure_exclusive_prefix_list_consumer`. -/
def ensureExclusivePrefixListConsumer (bgpConfig routeMapConfig fullConfig list peer : Text) :
    Except Text (List PrefixListConsumer) :=
  let consumers := prefixListConsumers bgpConfig routeMapConfig fullConfig list
  if consumers.map (fun c => (c.kind, c.owner, c.direction)) =
      ([("neighbor", peer, "out")] : List (Text × Text × Text)) then
    .ok consumers
  else
    let detail : Text :=
      if consumers.isEmpty then "no complete direct outbound consumer was proven"
      else List.intercalate (", " : Text) (consumers.map PrefixListConsumer.text)
    .error ("prefix-list '" ++ list ++ "' is not proven exclusive to peer " ++ peer ++
      " outbound (" ++
      detail ++ "); refusing one-peer mutation")

/-! ### Static routes -/

/-- The static route a snapshot is about: its network, next hop and tag, and whether it is there. -/
structure StaticRoute where
  v6 : Bool
  cidr : Text
  nextHop : Text
  tag : Option ℕ
  present : Bool
deriving DecidableEq

/-- The static route of a snapshot. -/
def DeviceStateSnapshot.staticRoute : DeviceStateSnapshot → Option StaticRoute
  | .ipv4StaticRoute cidr nextHop tag present => some ⟨false, cidr, nextHop, tag, present⟩
  | .ipv6StaticRoute cidr nextHop tag present => some ⟨true, cidr, nextHop, tag, present⟩
  | _ => none

/-- The snapshot of a static route. -/
def StaticRoute.snapshot (r : StaticRoute) : DeviceStateSnapshot :=
  if r.v6 then .ipv6StaticRoute r.cidr r.nextHop r.tag r.present
  else .ipv4StaticRoute r.cidr r.nextHop r.tag r.present

/-- The tag, at the end of a line. -/
def tagText : Option ℕ → Text
  | some tag => " tag " ++ natText tag
  | none => []

/-- `static_config_line`. -/
def staticConfigLine (r : StaticRoute) : Except Text Text :=
  if r.v6 then do
    let cidr ← okOr "invalid prefix" (normalizeCidr r.cidr)
    .ok ("ipv6 route " ++ cidr ++ ' ' :: r.nextHop ++ tagText r.tag)
  else do
    let (network, mask) ← ipv4NetworkMask r.cidr
    .ok ("ip route " ++ network ++ ' ' :: mask ++ ' ' :: r.nextHop ++ tagText r.tag)

/-- `static_config_read_command`. -/
def staticConfigReadCommand (r : StaticRoute) : Except Text Text :=
  if r.v6 then .ok "show running-config | include ^ipv6 route"
  else do
    let line ← staticConfigLine r
    .ok ("show running-config | include ^" ++ line ++ "$")

/-- The route of a line `ipv6 route …`: its network, next hop and tag. -/
def ipv6RouteLine (line : Text) : Option (Text × Text × Option Text) :=
  match splitWhitespace line with
  | [ip, verb, candidate, hop] =>
    if ip = ("ipv6" : Text) ∧ verb = ("route" : Text) then some (candidate, hop, none) else none
  | [ip, verb, candidate, hop, word, tag] =>
    if ip = ("ipv6" : Text) ∧ verb = ("route" : Text) ∧ word = ("tag" : Text) then
      some (candidate, hop, some tag)
    else none
  | _ => none

/-- `static_snapshot_matches`. -/
def staticSnapshotMatches (output : Text) (r : StaticRoute) : Except Text Bool :=
  if r.v6 then
    match normalizeCidr r.cidr with
    | none => .error ("invalid IPv6 route prefix " ++ debugText r.cidr)
    | some expected =>
      if ':' ∉ expected then .error ("expected an IPv6 route prefix, got " ++ r.cidr)
      else .ok ((lines output).any fun line =>
        (ipv6RouteLine line).any fun p =>
          normalizeCidr p.1 = some expected && p.2.1 = r.nextHop &&
            (p.2.2.bind (parseUnsigned maxU32)) = r.tag)
  else do
    let line ← staticConfigLine r
    .ok (hasExactConfigLine output line)

/-- A line that may answer the read of an IPv6 route. -/
def validIpv6RouteLine (line : Text) : Bool :=
  (ipv6RouteLine line).any fun p =>
    (normalizeCidr p.1).any (fun c => decide (':' ∈ c)) &&
      (p.2.1 = ("Null0" : Text) || isIpAddr p.2.1) &&
        p.2.2.all fun tag => (parseUnsigned maxU32 tag).isSome

/-- `static_config_evidence`. -/
def staticConfigEvidence (output : Text) (r : StaticRoute) : Except Text EvidenceVerdict :=
  if (trim output).isEmpty then .ok .provenMismatch
  else do
    let valid ←
      if r.v6 then .ok ((lines output).all validIpv6RouteLine)
      else do
        let line ← staticConfigLine r
        .ok ((lines output).all fun l => hasExactConfigLine l line)
    if !valid then .ok .unproven
    else do
      let found ← staticSnapshotMatches output r
      .ok (if found then .matched else .provenMismatch)

/-- Whether a line is a static route for the network of a route. -/
def samePrefixLine (r : StaticRoute) (wanted line : Text) : Bool :=
  match splitWhitespace line with
  | ip :: verb :: rest =>
    if r.v6 then
      match rest with
      | candidate :: _ =>
        ip = ("ipv6" : Text) && verb = ("route" : Text) && normalizeCidr candidate = some wanted
      | [] => false
    else
      match rest with
      | network :: mask :: _ =>
        ip = ("ip" : Text) && verb = ("route" : Text) &&
          (match ipv4NetworkMask r.cidr with
            | .ok wanted => wanted = (network, mask)
            | .error _ => false)
      | _ => false
  | _ => false

/-- `static_expected_evidence`. -/
def staticExpectedEvidence (output : Text) (r : StaticRoute) (expectedPresent : Bool) :
    Except Text EvidenceVerdict := do
  let parsed ← staticConfigEvidence output r
  if parsed = .unproven then .ok parsed
  else do
    let wanted ← okOr "invalid static route prefix" (normalizeCidr r.cidr)
    let exact : Bool := parsed = .matched
    if expectedPresent then .ok (if exact then .matched else .provenMismatch)
    else .ok (if (lines output).any (samePrefixLine r wanted) || exact then .provenMismatch
      else .matched)

end Rerouter
