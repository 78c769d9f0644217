import Mathlib.Data.List.Dedup
import Rerouter.BucketTally
import Rerouter.InventoryChecks
import Rerouter.Lib.Heaviest

/-!
# The host a flow rule is about

`resolve_flow_dst_host` of `reroute/flow_target.rs`: which host a route to `Null0` is made for when
a rule about flows fires. The rows of `flow_talker_buckets` that match the rule are added up for
each destination, the ten heaviest destinations are looked at, and the first of them that lies in
the announced space of the router is taken.

| outcome | what it says |
|---|---|
| a host | it is announced, and no announced destination is heavier |
| `NoInPrefixTarget` | ten destinations outside are at least as heavy as any announced one |
| `Db` | a query failed, or an estimate does not fit its type |
| any other error | nothing was looked at |

**`Rerouter.FlowTarget.resolves`** says this of all outcomes. Of equally heavy destinations the
database returns any first. In the model it goes by the order of the rows, which may be any.
-/

namespace Rerouter.FlowTarget

open Text Rerouter.Flow Collector

/-! ### Destinations -/

/-- `WINDOW_MINUTES`. -/
def windowMinutes : ℕ := 5

/-- `CANDIDATE_LIMIT`. -/
def candidateLimit : ℕ := 10

/-- `IpAddr::to_string`. -/
def hostText : IpAddr → Text
  | .v4 a => Ipv4.addrText a
  | .v6 a => Ipv6.addrText a

/-- `str::parse::<IpAddr>`. -/
def parseHost (s : Text) : Option IpAddr :=
  match Ipv4.parseAddr s with
  | some a => some (.v4 a)
  | none => (Ipv6.parseAddr s).map .v6

/-- `IpAddr::is_ipv6`. -/
def isIpv6 : IpAddr → Bool
  | .v4 _ => false
  | .v6 _ => true

/-- The network of one host. -/
def hostNetwork : IpAddr → Network
  | .v4 a => .v4 a 32
  | .v6 a => .v6 a 128

/-- A row of `flow_talker_buckets`. The addresses of its tuple are stored as texts. -/
structure TalkerRow where
  exporterId : ℕ
  deviceId : ℕ
  key : TalkerKey
  bucketTs : ℕ
  pkts : ℕ
  pktsAvailable : Bool
  bytes : ℕ
  bytesAvailable : Bool
  effectiveSamplingRate : ℕ
  /-- `sampling_confidence`, which is `high` or `low`. -/
  highConfidence : Bool

namespace TalkerRow

/-- `dst_addr`. -/
def dstAddr (row : TalkerRow) : Text := hostText row.key.dstAddr

/-- `bytes * effective_sampling_rate`. -/
def scaledBytes (row : TalkerRow) : ℕ := row.bytes * row.effectiveSamplingRate

/-- `pkts * effective_sampling_rate`. -/
def scaledPkts (row : TalkerRow) : ℕ := row.pkts * row.effectiveSamplingRate

/-- The products are `BIGINT UNSIGNED`, and a statement with a greater one fails. -/
def inRange (row : TalkerRow) : Bool :=
  decide (row.scaledBytes ≤ u64Max) && decide (row.scaledPkts ≤ u64Max)

/-- `sampling_confidence = 'low' OR pkts_available = 0 OR bytes_available = 0`. -/
def lowConfidence (row : TalkerRow) : Bool :=
  !row.highConfidence || !row.pktsAvailable || !row.bytesAvailable

end TalkerRow

/-- `FlowSelector`. -/
structure FlowSelector where
  interfaceId : Option ℕ := none
  direction : Option Direction := none
  protocol : Option ℕ := none
  port : Option ℕ := none
  portKind : Option PortKind := none

/-- The port the selector is about. -/
def FlowSelector.portOf (sel : FlowSelector) (key : TalkerKey) : Option ℕ :=
  if sel.portKind = some .src then key.srcPort else key.dstPort

/-- What the query asks of a tuple. -/
def FlowSelector.wants (sel : FlowSelector) (ifIndex : ℕ) (direction : Direction)
    (key : TalkerKey) : Bool :=
  decide (key.ifindex = ifIndex) && decide (key.dir = direction) &&
    sel.protocol.all (fun p => decide (key.protocol = p)) &&
    sel.port.all fun p => decide (sel.portOf key = some p)

/-- A bucket that is not older than the window. -/
def recent (now bucketTs : ℕ) : Bool := decide (now ≤ bucketTs + windowMinutes * 60)

/-- The rows of the query. -/
def matching (talkers : List TalkerRow) (sel : FlowSelector) (device ifIndex : ℕ)
    (direction : Direction) (now : ℕ) : List TalkerRow :=
  talkers.filter fun row => decide (row.deviceId = device) && recent now row.bucketTs &&
    sel.wants ifIndex direction row.key

/-- `CAST(SUM(bytes * effective_sampling_rate) AS UNSIGNED)`. The sum is exact, and the cast
saturates. -/
def estBytes (rows : List TalkerRow) : ℕ := min (rows.map TalkerRow.scaledBytes).sum u64Max

/-- The same of the packets. -/
def estPkts (rows : List TalkerRow) : ℕ := min (rows.map TalkerRow.scaledPkts).sum u64Max

/-- A row of the answer. -/
structure Candidate where
  dstAddr : Text
  estBytes : ℕ
  estPkts : ℕ
  lowConf : Bool

/-- One group. -/
def candidate (rows : List TalkerRow) (dstAddr : Text) : Candidate :=
  let group := rows.filter fun row => row.dstAddr = dstAddr
  { dstAddr
    estBytes := estBytes group
    estPkts := estPkts group
    lowConf := group.any TalkerRow.lowConfidence }

/-- `GROUP BY dst_addr`. -/
def candidates (rows : List TalkerRow) : List Candidate :=
  (rows.map TalkerRow.dstAddr).dedup.map (candidate rows)

/-! ### The resolution -/

/-- `TargetError`. -/
inductive TargetError where
  | notFlowRule | unknownInterface | noOwnedPrefixes | noFlows | noInPrefixTarget | db
deriving DecidableEq

/-- `fmt` of a `TargetError`. -/
def TargetError.message : TargetError → Text
  | notFlowRule => "auto-target needs a flow rule (no flow selector on this rule)"
  | unknownInterface => "rule interface not found"
  | noOwnedPrefixes =>
    "device has no announced prefixes discovered — run prefix discovery before using auto-target"
  | noFlows => ("no matching flows in the last " : Text) ++ natText windowMinutes ++
      " min to identify a target host"
  | noInPrefixTarget => "no attacked destination falls within the device's announced prefixes"
  | db => "database error resolving the target host"

/-- `ResolvedTarget`. -/
structure ResolvedTarget where
  cidr : Text
  isV6 : Bool
  estBytes : ℕ
  estPkts : ℕ
  lowConfidence : Bool
deriving DecidableEq

/-- The queries, in their order. -/
inductive Query where
  | interface | networks | talkers
deriving DecidableEq

/-- The tables that are read. -/
structure Db where
  /-- The device of an interface, and its `if_index`. -/
  interfaces : ℕ → Option (ℕ × ℕ)
  /-- What was discovered on a device. -/
  inventories : ℕ → Drift.Inventories
  talkers : List TalkerRow
  /-- The queries that fail. -/
  fails : Query → Bool := fun _ => false

/-- `map_err(|_| TargetError::Db)` of a query. -/
def Db.select {α : Type} (db : Db) (q : Query) (answer : α) : Except TargetError α :=
  if db.fails q then .error .db else .ok answer

/-- The announced prefixes of a device that are not too old. -/
def owned (db : Db) (now device : ℕ) : List Text :=
  ((db.inventories device).networks.filter fun r =>
    Drift.fresh now Drift.routingInventoryMaxAgeHours r.lastDiscoveredAt).map
      Drift.DiscoveredRow.name

/-- A candidate as a target, if it is a host in the prefixes. -/
def target (owned : List Text) (c : Candidate) : Option ResolvedTarget := do
  let ip ← parseHost c.dstAddr
  if owned.any fun p => cidrContainsHost p ip then
    some { cidr := (hostNetwork ip).text, isV6 := isIpv6 ip, estBytes := c.estBytes
           estPkts := c.estPkts, lowConfidence := c.lowConf }
  else none

/-- `resolve_flow_dst_host`. -/
def resolveFlowDstHost (db : Db) (now : ℕ) (sel : FlowSelector) (nullRouteDeviceId : ℕ) :
    Except TargetError ResolvedTarget := do
  let direction ← okOr .notFlowRule sel.direction
  let interfaceId ← okOr .notFlowRule sel.interfaceId
  let found ← db.select .interface (db.interfaces interfaceId)
  let (device, ifIndex) ← okOr .unknownInterface found
  let owned ← db.select .networks (owned db now nullRouteDeviceId)
  if owned.isEmpty then .error .noOwnedPrefixes
  else do
    let rows ← db.select .talkers (matching db.talkers sel device ifIndex direction now)
    if !rows.all TalkerRow.inRange then .error .db
    else if rows.isEmpty then .error .noFlows
    else
      okOr .noInPrefixTarget (Heaviest.first Candidate.estBytes candidateLimit (target owned)
        (candidates rows))

/-! ### What it comes to -/

/-- The rows about one destination. -/
def rowsTo (rows : List TalkerRow) (ip : IpAddr) : List TalkerRow :=
  rows.filter fun row => row.key.dstAddr = ip

/-- **An address in the announced space of a device**, as far as it is known. -/
def Announced (db : Db) (now device : ℕ) (ip : IpAddr) : Prop :=
  ∃ r ∈ (db.inventories device).networks,
    Drift.fresh now Drift.routingInventoryMaxAgeHours r.lastDiscoveredAt = true ∧
      ∃ N, readCidr r.name = some N ∧ ip ∈ N.addresses

/-- **A target that is rightly taken.** -/
structure Chosen (db : Db) (now device : ℕ) (rows : List TalkerRow) (ip : IpAddr)
    (r : ResolvedTarget) : Prop where
  hit : rowsTo rows ip ≠ []
  announced : Announced db now device ip
  /-- It is the heaviest one. -/
  heaviest : ∀ ip', Announced db now device ip' → estBytes (rowsTo rows ip') ≤ r.estBytes
  cidr : r.cidr = (hostNetwork ip).text
  isV6 : r.isV6 = isIpv6 ip
  estBytes : r.estBytes = estBytes (rowsTo rows ip)
  estPkts : r.estPkts = estPkts (rowsTo rows ip)
  lowConfidence : r.lowConfidence = true ↔ ∃ row ∈ rowsTo rows ip, row.lowConfidence = true

/-- **Ten destinations outside that are at least as heavy** as one. -/
def Crowded (db : Db) (now device : ℕ) (rows : List TalkerRow) (ip : IpAddr) : Prop :=
  ∃ crowd : List IpAddr, crowd.Nodup ∧ candidateLimit ≤ crowd.length ∧ ∀ c ∈ crowd,
    rowsTo rows c ≠ [] ∧ ¬Announced db now device c ∧
      FlowTarget.estBytes (rowsTo rows ip) ≤ FlowTarget.estBytes (rowsTo rows c)

/-- The rows a selector is about. -/
structure Searches (db : Db) (now : ℕ) (sel : FlowSelector) (rows : List TalkerRow) : Prop where
  exists_eq : ∃ direction interface source ifIndex, sel.direction = some direction ∧
    sel.interfaceId = some interface ∧ db.interfaces interface = some (source, ifIndex) ∧
      rows = matching db.talkers sel source ifIndex direction now

/-- **The outcomes**, and what each of them says. -/
inductive Resolves (db : Db) (now : ℕ) (sel : FlowSelector) (device : ℕ) :
    Except TargetError ResolvedTarget → Prop
  | notFlowRule (h : sel.direction = none ∨ sel.interfaceId = none) :
      Resolves db now sel device (.error .notFlowRule)
  | unknownInterface {interface : ℕ} (hinterface : sel.interfaceId = some interface)
      (h : db.interfaces interface = none) : Resolves db now sel device (.error .unknownInterface)
  | noOwnedPrefixes (h : ∀ r ∈ (db.inventories device).networks,
      Drift.fresh now Drift.routingInventoryMaxAgeHours r.lastDiscoveredAt = false) :
    Resolves db now sel device (.error .noOwnedPrefixes)
  | failed {q : Query} (h : db.fails q = true) : Resolves db now sel device (.error .db)
  /-- The estimate of a row is beyond its type. -/
  | db {rows : List TalkerRow} (hrows : Searches db now sel rows) {row : TalkerRow}
      (hrow : row ∈ rows) (h : row.inRange = false) : Resolves db now sel device (.error .db)
  | noFlows (h : Searches db now sel []) : Resolves db now sel device (.error .noFlows)
  | noInPrefixTarget {rows : List TalkerRow} (hrows : Searches db now sel rows) (hflows : rows ≠ [])
      (h : ∀ ip, rowsTo rows ip ≠ [] → Announced db now device ip →
        Crowded db now device rows ip) :
    Resolves db now sel device (.error .noInPrefixTarget)
  | ok {rows : List TalkerRow} (hrows : Searches db now sel rows) {ip : IpAddr}
      {r : ResolvedTarget} (h : Chosen db now device rows ip r) : Resolves db now sel device (.ok r)

variable {db : Db} {now device : ℕ} {sel : FlowSelector} {rows : List TalkerRow} {ip : IpAddr}
  {r : ResolvedTarget}

/-! ### Hosts and their texts -/

/-- A host that is written reads back. -/
theorem parseHost_hostText (ip : IpAddr) : parseHost (hostText ip) = some ip := by
  cases ip with
  | v4 a => rw [parseHost, hostText, Ipv4.parseAddr_addrText]
  | v6 a =>
    rw [parseHost, hostText, parseAddr_eq_none_of_colon (Ipv6.colon_mem_addrText a),
      Ipv6.parseAddr_addrText]
    rfl

theorem hostText_injective : Function.Injective hostText := by
  intro ip ip' h
  have hread := parseHost_hostText ip
  rw [h, parseHost_hostText] at hread
  exact (Option.some.inj hread).symm

theorem fits_hostNetwork (ip : IpAddr) : (hostNetwork ip).Fits := by
  cases ip <;> exact le_rfl

/-- **The network of a host has no other address.** -/
theorem addresses_hostNetwork (ip : IpAddr) : (hostNetwork ip).addresses = {ip} := by
  cases ip with
  | v4 a => rw [hostNetwork, Network.addresses, Blocks.block_width, Set.image_singleton]
  | v6 a => rw [hostNetwork, Network.addresses, Blocks.block_width, Set.image_singleton]

/-! ### Groups -/

theorem candidates_eq : candidates rows =
    (rows.map fun row => row.key.dstAddr).dedup.map fun ip => candidate rows (hostText ip) := by
  have htexts : rows.map TalkerRow.dstAddr =
      (rows.map fun row => row.key.dstAddr).map hostText := by
    rw [List.map_map]
    rfl
  rw [candidates, htexts, List.dedup_map_of_injective hostText_injective, List.map_map]
  rfl

/-- The group of a destination. -/
theorem filter_dstAddr (rows : List TalkerRow) (ip : IpAddr) :
    rows.filter (fun row => row.dstAddr = hostText ip) = rowsTo rows ip :=
  List.filter_congr fun _ _ => decide_eq_decide.mpr hostText_injective.eq_iff

theorem mem_destinations : ip ∈ (rows.map fun row => row.key.dstAddr).dedup ↔
    rowsTo rows ip ≠ [] := by
  rw [List.mem_dedup, List.mem_map, Ne, rowsTo, List.filter_eq_nil_iff]
  simp

theorem any_owned : (owned db now device).any (fun p => cidrContainsHost p ip) = true ↔
    Announced db now device ip := by
  rw [owned, List.any_map, List.any_filter, List.any_eq_true]
  refine exists_congr fun r => and_congr_right fun _ => ?_
  rw [Bool.and_eq_true]
  exact and_congr_right fun _ => cidrContainsHost_eq_true

/-- Of a group, the target is the host. -/
theorem target_eq_some : target (owned db now device) (candidate rows (hostText ip)) = some r ↔
    Announced db now device ip ∧
      r = { cidr := (hostNetwork ip).text, isV6 := isIpv6 ip, estBytes := estBytes (rowsTo rows ip)
            estPkts := estPkts (rowsTo rows ip)
            lowConfidence := (rowsTo rows ip).any TalkerRow.lowConfidence } := by
  have hparse : parseHost (candidate rows (hostText ip)).dstAddr = some ip := parseHost_hostText ip
  rw [target, hparse, ← any_owned, ← filter_dstAddr]
  change (if _ then _ else _) = _ ↔ _
  rw [Option.ite_none_right_eq_some, Option.some.injEq, eq_comm (b := r)]
  rfl

theorem isSome_target :
    (target (owned db now device) (candidate rows (hostText ip))).isSome = true ↔
    Announced db now device ip := by
  rw [Option.isSome_iff_exists]
  constructor
  · rintro ⟨r, hr⟩
    exact (target_eq_some.mp hr).1
  · intro h
    exact ⟨_, target_eq_some.mpr ⟨h, rfl⟩⟩

theorem weight_candidate : (candidate rows (hostText ip)).estBytes = estBytes (rowsTo rows ip) :=
  congrArg estBytes (filter_dstAddr rows ip)

theorem chosen_of_first (h : Heaviest.first Candidate.estBytes candidateLimit
    (target (owned db now device)) (candidates rows) = some r) :
    ∃ ip, Chosen db now device rows ip r := by
  rw [candidates_eq] at h
  obtain ⟨c, hc, htarget, hheaviest⟩ := Heaviest.le_of_first h
  obtain ⟨ip, hip, rfl⟩ := List.mem_map.mp hc
  obtain ⟨hannounced, rfl⟩ := target_eq_some.mp htarget
  refine ⟨ip, mem_destinations.mp hip, hannounced, fun ip' h' => ?_, rfl, rfl, rfl, rfl, ?_⟩
  · by_cases hhit : rowsTo rows ip' = []
    · rw [hhit]
      exact Nat.zero_le _
    · have hle := hheaviest _ (List.mem_map_of_mem (mem_destinations.mpr hhit))
        (isSome_target.mpr h')
      rwa [weight_candidate, weight_candidate] at hle
  · exact List.any_eq_true

theorem crowded_of_first (h : Heaviest.first Candidate.estBytes candidateLimit
    (target (owned db now device)) (candidates rows) = none) (hhit : rowsTo rows ip ≠ [])
    (hannounced : Announced db now device ip) : Crowded db now device rows ip := by
  rw [candidates_eq] at h
  have hcrowd := Heaviest.crowd_of_first h (List.mem_map_of_mem (mem_destinations.mpr hhit))
    (isSome_target.mpr hannounced)
  rw [List.filter_map, List.length_map] at hcrowd
  refine ⟨_, (List.nodup_dedup _).filter _, hcrowd, fun c hc => ?_⟩
  obtain ⟨hmem, hc⟩ := List.mem_filter.mp hc
  rw [Function.comp_apply, Bool.and_eq_true, decide_eq_true_eq, weight_candidate,
    weight_candidate] at hc
  refine ⟨mem_destinations.mp hmem, fun hin => ?_, hc.2⟩
  have hsome : (target (owned db now device) (candidate rows (hostText c))).isSome :=
    isSome_target.mpr hin
  rw [Option.isNone_iff_eq_none.mp hc.1] at hsome
  cases hsome

theorem select_eq_ok {α : Type} {q : Query} {answer a : α} :
    db.select q answer = .ok a ↔ db.fails q = false ∧ answer = a := by
  unfold Db.select
  cases db.fails q <;> simp

/-- A query fails, or it is answered. -/
theorem select_cases {α : Type} (db : Db) (q : Query) (answer : α) :
    db.select q answer = .error .db ∧ db.fails q = true ∨ db.select q answer = .ok answer := by
  unfold Db.select
  cases db.fails q <;> simp

/-- What is looked at for a target, and which one is taken. -/
theorem chosen_of_ok (h : resolveFlowDstHost db now sel device = .ok r) :
    ∃ direction interface source ifIndex ip, sel.direction = some direction ∧
      sel.interfaceId = some interface ∧ db.interfaces interface = some (source, ifIndex) ∧
      Chosen db now device (matching db.talkers sel source ifIndex direction now) ip r := by
  obtain ⟨direction, hdirection, h⟩ := bind_eq_ok.mp h
  obtain ⟨interface, hinterface, h⟩ := bind_eq_ok.mp h
  obtain ⟨found, hfound, h⟩ := bind_eq_ok.mp h
  obtain ⟨-, rfl⟩ := select_eq_ok.mp hfound
  obtain ⟨⟨source, ifIndex⟩, hsource, h⟩ := bind_eq_ok.mp h
  obtain ⟨prefixes, hprefixes, h⟩ := bind_eq_ok.mp h
  obtain ⟨-, rfl⟩ := select_eq_ok.mp hprefixes
  split_ifs at h
  obtain ⟨rows, hrows, h⟩ := bind_eq_ok.mp h
  obtain ⟨-, rfl⟩ := select_eq_ok.mp hrows
  split_ifs at h
  obtain ⟨ip, hchosen⟩ := chosen_of_first (okOr_eq_ok.mp h)
  exact ⟨direction, interface, source, ifIndex, ip, okOr_eq_ok.mp hdirection,
    okOr_eq_ok.mp hinterface, okOr_eq_ok.mp hsource, hchosen⟩

/-- What comes of the rows that were read. -/
theorem resolves_rows (hrows : Searches db now sel rows) :
    Resolves db now sel device (if !rows.all TalkerRow.inRange then .error .db
      else if rows.isEmpty then .error .noFlows
      else okOr .noInPrefixTarget (Heaviest.first Candidate.estBytes candidateLimit
        (target (owned db now device)) (candidates rows))) := by
  split_ifs with hrange hempty
  · rw [Bool.not_eq_true', List.all_eq_false] at hrange
    obtain ⟨row, hrow, hrange⟩ := hrange
    exact .db hrows hrow (Bool.eq_false_iff.mpr hrange)
  · exact .noFlows (List.isEmpty_iff.mp hempty ▸ hrows)
  · cases hfirst : Heaviest.first Candidate.estBytes candidateLimit
      (target (owned db now device)) (candidates rows) with
    | none =>
      exact .noInPrefixTarget hrows (fun hnil => hempty (List.isEmpty_iff.mpr hnil))
        fun _ => crowded_of_first hfirst
    | some r =>
      obtain ⟨ip, hchosen⟩ := chosen_of_first hfirst
      exact .ok hrows hchosen

/-- **The heaviest announced destination is taken**, unless ten that are outside hide it. -/
theorem resolves (db : Db) (now : ℕ) (sel : FlowSelector) (device : ℕ) :
    Resolves db now sel device (resolveFlowDstHost db now sel device) := by
  unfold resolveFlowDstHost
  cases hdirection : sel.direction with
  | none => exact .notFlowRule (Or.inl hdirection)
  | some direction =>
    cases hinterface : sel.interfaceId with
    | none => exact .notFlowRule (Or.inr hinterface)
    | some interface =>
      simp only [okOr, ok_bind]
      -- the three selects may each fail, and only then is the answer `Db` for no row of the table
      rcases select_cases db .interface (db.interfaces interface) with ⟨hask, hfails⟩ | hask <;>
        rw [hask]
      · exact .failed hfails
      cases hsource : db.interfaces interface with
      | none => exact .unknownInterface hinterface hsource
      | some source =>
        obtain ⟨source, ifIndex⟩ := source
        have hrows : Searches db now sel (matching db.talkers sel source ifIndex direction now) :=
          ⟨direction, interface, source, ifIndex, hdirection, hinterface, hsource, rfl⟩
        simp only [ok_bind]
        generalize matching db.talkers sel source ifIndex direction now = rows at hrows ⊢
        rcases select_cases db .networks (owned db now device) with ⟨hask, hfails⟩ | hask <;>
          rw [hask]
        · exact .failed hfails
        rw [ok_bind]
        split_ifs with howned
        · refine .noOwnedPrefixes fun r hr => ?_
          rw [List.isEmpty_iff, owned, List.map_eq_nil_iff, List.filter_eq_nil_iff] at howned
          exact Bool.eq_false_iff.mpr (howned r hr)
        · rcases select_cases db .talkers rows with ⟨hask, hfails⟩ | hask <;> rw [hask]
          · exact .failed hfails
          · exact resolves_rows hrows

end Rerouter.FlowTarget
