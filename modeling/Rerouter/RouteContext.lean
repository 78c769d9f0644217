import Rerouter.Allowlist
import Rerouter.Lib.Gather
import Rerouter.Lib.Outcome
import Rerouter.Lib.Sections
import Rerouter.PolicyInventory

/-!
# The prefix list a peer sends by

`ssh/mod.rs`, `resolve_route_context`: which outbound prefix list belongs to which peer, read off
the `router bgp` section, the route maps and the prefix lists. A list may come from the neighbor
itself, from its peer group, from a route map of the neighbor or from one of its group, in this
order, and nothing is stored for a peer whose strongest source names two of them.

The lines of a section are read one by one (`Rerouter.RouteContext.policyLine`), so what is known of
the neighbors is a set. Two things are not: of the lines of one group that name a list only the last
one counts (`Rerouter.RouteContext.lastEntry`), and so of those that name a route map.

A route map is read with the clause it is in as the state (`Rerouter.RouteContext.ListScan.read`).
What comes of it is what its sections say: a map that names a list names no other one, on no line of
it (`Rerouter.RouteContext.names_iff_of_resolved`), and is not reported as ambiguous.
-/

namespace Rerouter.RouteContext

open Text Gather Sections

/-! ### The lines of the neighbors -/

/-- `is_peer_group_name`. -/
def isPeerGroupName (tok : Text) : Bool :=
  isName tok && !isIpv4 tok && !isIpv6 tok && !isCidr tok && !isCidr6 tok

/-- The words behind `neighbor`. -/
def neighborTokens (line : Text) : Option (List Text) :=
  (stripPrefix "neighbor " (trim line)).map splitWhitespace

/-- What a line says about the outbound policy of a neighbor or a group. -/
inductive PolicyLine where
  | group (peer : Ipv4.Addr) (group : Text)
  | peerList (peer : Ipv4.Addr) (name : Text)
  | groupList (group name : Text)
  | groupMap (group name : Text)
deriving DecidableEq

/-- A line of `parse_neighbor_policy`. -/
def policyLine (line : Text) : Option PolicyLine :=
  match neighborTokens line with
  | some [target, keyword, group] =>
    if keyword = ("peer-group" : Text) then
      match Ipv4.parseAddr target with
      | some peer => if isPeerGroupName group then some (.group peer group) else none
      | none => none
    else none
  | some [target, keyword, name, direction] =>
    if keyword = ("prefix-list" : Text) ∧ direction = ("out" : Text) ∧ isName name = true then
      match Ipv4.parseAddr target with
      | some peer => some (.peerList peer name)
      | none => if isPeerGroupName target then some (.groupList target name) else none
    else if keyword = ("route-map" : Text) ∧ direction = ("out" : Text) ∧ isName name = true ∧
        Ipv4.parseAddr target = none ∧ isPeerGroupName target = true then
        some (.groupMap target name)
    else none
  | _ => none

/-- `NeighborPolicy`. -/
structure NeighborPolicy where
  groups : List (Ipv4.Addr × Text)
  peerPrefixListOut : List (Ipv4.Addr × Text)
  groupPrefixListOut : List (Text × Text)
  groupRouteMapOut : List (Text × Text)

/-- `parse_neighbor_policy`. -/
def parseNeighborPolicy (config : Text) : NeighborPolicy where
  groups := (lines config).filterMap fun line =>
    match policyLine line with
    | some (.group peer group) => some (peer, group)
    | _ => none
  peerPrefixListOut := (lines config).filterMap fun line =>
    match policyLine line with
    | some (.peerList peer name) => some (peer, name)
    | _ => none
  groupPrefixListOut := (lines config).filterMap fun line =>
    match policyLine line with
    | some (.groupList group name) => some (group, name)
    | _ => none
  groupRouteMapOut := (lines config).filterMap fun line =>
    match policyLine line with
    | some (.groupMap group name) => some (group, name)
    | _ => none

/-- A line of `parse_neighbor_route_maps`: the peer, the route map and the direction. -/
def routeMapLine (line : Text) : Option (Ipv4.Addr × Text × Text) :=
  match neighborTokens line with
  | some (target :: keyword :: name :: direction :: _) =>
    if keyword = ("route-map" : Text) ∧
      (direction = ("in" : Text) ∨ direction = ("out" : Text)) then
      (Ipv4.parseAddr target).map fun peer => (peer, name, direction)
    else none
  | _ => none

/-- `parse_neighbor_route_maps`. -/
def parseNeighborRouteMaps (config : Text) : List (Ipv4.Addr × Text × Text) :=
  (lines config).filterMap routeMapLine

/-- A line of `parse_neighbor_out_routemaps`. -/
def outRoutemapLine (line : Text) : Option (Ipv4.Addr × Text) :=
  match neighborTokens line with
  | some (target :: keyword :: name :: direction :: _) =>
    if keyword = ("route-map" : Text) ∧ direction = ("out" : Text) then
      (Ipv4.parseAddr target).map fun peer => (peer, name)
    else none
  | _ => none

/-- `parse_neighbor_out_routemaps`. -/
def parseNeighborOutRoutemaps (config : Text) : List (Ipv4.Addr × Text) :=
  (lines config).filterMap outRoutemapLine

/-! ### Names -/

/-- `parse_route_map_names`: each name where it stands first. -/
def parseRouteMapNames (config : Text) : List Text :=
  (lines config).foldl (fun names line =>
    match (stripPrefix "route-map " (trim line)).bind fun rest => (splitWhitespace rest).head? with
    | some name => if name ∈ names then names else names ++ [name]
    | none => names) []

/-- A line of `parse_prefix_list_names`. -/
def prefixListLine (line : Text) : Option Text := do
  let rest ← stripPrefix "ip prefix-list " (trim line)
  let name ← (splitWhitespace rest).head?
  if name = ("sequence-number" : Text) ∨ isName name = false then none else some name

/-- `parse_prefix_list_names`: the names of the lists there are. -/
def parsePrefixListNames (config : Text) : List Text := (lines config).filterMap prefixListLine

/-! ### Route maps -/

/-- What `parse_routemap_prefix_lists` knows so far: the lists of the permitting clauses of each
map, the maps that are ambiguous, and the clause it is in, with whether it permits. -/
structure ListScan where
  permits : NameMap (Std.TreeSet Text compare) := ∅
  ambiguous : Std.TreeSet Text compare := ∅
  current : Option (Text × Bool) := none

/-- A line that opens a clause. -/
def isMapHeading (line : Text) : Bool := startsWith "route-map " (trim line)

/-- What a heading opens: the map, and whether the clause permits, if it says so. -/
def mapHeading (line : Text) : Option (Text × Option Bool) := do
  let rest ← stripPrefix "route-map " (trim line)
  match splitWhitespace rest with
  | [] => none
  | name :: action =>
    let seqOk := (action[1]?).any fun s => !s.isEmpty && s.all Char.isDigit
    if action.head? = some ("permit" : Text) ∧ seqOk = true then some (name, some true)
    else if action.head? = some ("deny" : Text) ∧ seqOk = true then some (name, some false)
    else some (name, none)

/-- The clause a heading opens. -/
def mapClause (line : Text) : Option (Text × Bool) :=
  (mapHeading line).map fun h => (h.1, h.2.getD false)

/-- The lists of a `match` line. -/
def matchLists (line : Text) : Option (List Text) :=
  (stripPrefix "match ip address prefix-list " (trim line)).map splitWhitespace

/-- A line with which a map goes on behind a clause. -/
def isContinue (line : Text) : Bool :=
  decide (trim line = ("continue" : Text)) || startsWith "continue " (trim line)

/-- A map that has a permitting clause. -/
def ListScan.permit (st : ListScan) (name : Text) : ListScan :=
  { st with permits := st.permits.alter name fun lists => some (lists.getD ∅) }

/-- A map that a permitting clause names a list of. -/
def ListScan.enter (st : ListScan) (name list : Text) : ListScan :=
  { st with permits := st.permits.alter name fun lists => some ((lists.getD ∅).insert list) }

/-- A map that nothing is inferred from. -/
def ListScan.taint (st : ListScan) (name : Text) : ListScan :=
  { st with ambiguous := st.ambiguous.insert name }

/-- A heading. -/
def ListScan.readHeading (st : ListScan) (line : Text) : ListScan :=
  let opened := match mapHeading line with
    | some (name, some true) => st.permit name
    | some (_, some false) => st
    | some (name, none) => st.taint name
    | none => st
  { opened with current := mapClause line }

/-- A line of a clause. -/
def ListScan.readBody (st : ListScan) (line : Text) : ListScan :=
  match st.current with
  | none => st
  | some (name, isPermit) =>
    if isContinue line then st.taint name
    else match matchLists line with
      | none => st
      | some [] => st
      | some [list] => if isPermit then st.enter name list else st.taint name
      | some _ => st.taint name

/-- A line. -/
def ListScan.read (st : ListScan) (line : Text) : ListScan :=
  if isMapHeading line then st.readHeading line else st.readBody line

/-- `RouteMapPrefixLists`. -/
structure RouteMapPrefixLists where
  resolved : NameMap Text
  ambiguous : Std.TreeSet Text compare

/-- What comes of a map. -/
def settleMap (out : RouteMapPrefixLists) (entry : Text × Std.TreeSet Text compare) :
    RouteMapPrefixLists :=
  if entry.1 ∈ out.ambiguous then out
  else match entry.2.toList with
    | [] => out
    | [list] => { out with resolved := out.resolved.insert entry.1 list }
    | _ => { out with ambiguous := out.ambiguous.insert entry.1 }

/-- `parse_routemap_prefix_lists`. -/
def parseRoutemapPrefixLists (config : Text) : RouteMapPrefixLists :=
  let scan := (lines config).foldl ListScan.read {}
  let out := scan.permits.toList.foldl settleMap ⟨∅, scan.ambiguous⟩
  { out with resolved := out.resolved.filter fun name _ => !out.ambiguous.contains name }

/-! ### The snapshot -/

/-- `PrefixListSource`, the stronger one first. -/
inductive PrefixListSource where
  | direct | peerGroup | routeMap | peerGroupRouteMap
deriving DecidableEq

/-- The order of the sources. -/
def PrefixListSource.rank : PrefixListSource → ℕ
  | .direct => 0
  | .peerGroup => 1
  | .routeMap => 2
  | .peerGroupRouteMap => 3

/-- A list that a source names for a peer. -/
structure Offer where
  peer : Ipv4.Addr
  source : PrefixListSource
  name : Text
deriving DecidableEq

/-- The best answer for each peer, and the peers with several. -/
structure Standing where
  best : Std.TreeMap Ipv4.Addr (PrefixListSource × Text) compare := ∅
  conflicting : Std.TreeSet Ipv4.Addr compare := ∅

/-- An answer takes the place of that of a peer. -/
def Standing.accept (st : Standing) (o : Offer) : Standing where
  best := st.best.insert o.peer (o.source, o.name)
  conflicting := st.conflicting.erase o.peer

/-- `offer`. -/
def Standing.offer (st : Standing) (o : Offer) : Standing :=
  match st.best[o.peer]? with
  | none => st.accept o
  | some (existing, existingName) =>
    if existing.rank < o.source.rank then st
    else if existing = o.source then
      if existingName ≠ o.name then { st with conflicting := st.conflicting.insert o.peer } else st
    else st.accept o

/-- What a map that is collected from entries says: the last one of a key. -/
def lastEntry (entries : List (Text × Text)) : NameMap Text :=
  entries.foldl (fun m e => put m (some e)) ∅

/-- What the sources name, the stronger ones first. -/
def offers (bgp routeMapCfg : Text) : List Offer :=
  let policy := parseNeighborPolicy bgp
  let resolved := (parseRoutemapPrefixLists routeMapCfg).resolved
  policy.peerPrefixListOut.map (fun e => ⟨e.1, .direct, e.2⟩) ++
    policy.groups.filterMap (fun e =>
      (lastEntry policy.groupPrefixListOut)[e.2]?.map fun name => ⟨e.1, .peerGroup, name⟩) ++
    (parseNeighborOutRoutemaps bgp).filterMap (fun e => resolved[e.2]?.map fun name =>
      ⟨e.1, .routeMap, name⟩) ++
    policy.groups.filterMap (fun e =>
      ((lastEntry policy.groupRouteMapOut)[e.2]?.bind fun map => resolved[map]?).map fun name =>
        ⟨e.1, .peerGroupRouteMap, name⟩)

/-- What is left, without the peers that have several answers. -/
def Standing.answers (st : Standing) : Std.TreeMap Ipv4.Addr (PrefixListSource × Text) compare :=
  st.conflicting.toList.foldl (fun best peer => best.erase peer) st.best

/-- `RouteContextSnapshot`. -/
structure RouteContextSnapshot where
  prefixLinks : List (Ipv4.Addr × Text)
  routeMaps : List Text
  neighborMaps : List (Ipv4.Addr × Text × Text)
  dangling : List (Ipv4.Addr × Text)
  ambiguousRouteMaps : List Text
  conflictingPeers : List Ipv4.Addr
deriving DecidableEq

/-- `RouteContextUnavailable`. -/
structure RouteContextUnavailable where
  event : Text
  detail : Text
deriving DecidableEq

/-- The refusal of an empty read of the route maps. -/
def routeMapInventoryEmpty (neighborMaps groupMaps : ℕ) : RouteContextUnavailable where
  event := "route_map_inventory_empty"
  detail := ("router bgp references " : Text) ++ natText neighborMaps ++
    " neighbor route-map(s) and " ++
    natText groupMaps ++ " peer-group route-map(s) but the route-map read returned no stanza"

/-- The refusal of an empty read of the prefix lists. -/
def prefixListInventoryEmpty (lists : ℕ) : RouteContextUnavailable where
  event := "prefix_list_inventory_empty"
  detail := ("config references " : Text) ++ natText lists ++
    " outbound prefix-list(s) but the `ip prefix-list` read returned no stanza"

/-- `resolve_route_context`. -/
def resolveRouteContext (bgp routeMapCfg prefixListCfg : Text) :
    Except RouteContextUnavailable RouteContextSnapshot :=
  let rmLists := parseRoutemapPrefixLists routeMapCfg
  let routeMaps := parseRouteMapNames routeMapCfg
  let neighborMaps := parseNeighborRouteMaps bgp
  let policy := parseNeighborPolicy bgp
  if routeMaps = [] ∧ (neighborMaps ≠ [] ∨ policy.groupRouteMapOut ≠ []) then
    .error (routeMapInventoryEmpty neighborMaps.length policy.groupRouteMapOut.length)
  else
    let standing := (offers bgp routeMapCfg).foldl Standing.offer {}
    let best := standing.answers
    let known := parsePrefixListNames prefixListCfg
    if known = [] ∧ (policy.peerPrefixListOut ≠ [] ∨ policy.groupPrefixListOut ≠ [] ∨
      best.isEmpty = false) then
      .error (prefixListInventoryEmpty (max best.size policy.peerPrefixListOut.length))
    else
      let answers := best.toList.map fun e => (e.1, e.2.2)
      .ok {
        prefixLinks := answers.filter fun e => e.2 ∈ known
        routeMaps
        neighborMaps
        dangling := answers.filter fun e => e.2 ∉ known
        ambiguousRouteMaps := rmLists.ambiguous.toList
        conflictingPeers := standing.conflicting.toList }

/-! ### What the sections of a route map say -/

/-- A list that a clause names, on a `match` line. -/
def ClauseNames (clause : Option (Text × Bool)) (body : List Text) (map list : Text) : Prop :=
  (∃ isPermit, clause = some (map, isPermit)) ∧ ∃ line ∈ body, ∃ lists, matchLists line =
      some lists ∧ list ∈ lists

/-- A list that a route map names. -/
def MapNames (config map list : Text) : Prop :=
  ∃ s ∈ sections isMapHeading (lines config), ClauseNames (mapClause s.1) s.2 map list

/-- A list is in the map of the permitting clauses. -/
def ListScan.Lists (st : ListScan) (map list : Text) : Prop :=
  ∃ lists, st.permits[map]? = some lists ∧ list ∈ lists

/-- A clause names a list and counts: the list is in the map, or the map is ambiguous. -/
def ListScan.Counts (st : ListScan) (map list : Text) : Prop :=
  map ∈ st.ambiguous ∨ st.Lists map list

variable {st : ListScan} {line map list : Text} {ls : List Text}

theorem ListScan.lists_permit {name : Text} :
    (st.permit name).Lists map list ↔ st.Lists map list := by
  simp only [Lists, permit, Std.TreeMap.getElem?_alter]
  by_cases hname : compare name map = .eq
  · obtain rfl := Std.LawfulEqCmp.eq_of_compare hname
    rw [if_pos hname]
    cases st.permits[name]? with
    | none => simp
    | some lists => simp
  · rw [if_neg hname]

theorem ListScan.lists_enter {name list' : Text} :
    (st.enter name list').Lists map list ↔ st.Lists map list ∨ name = map ∧ list' = list := by
  simp only [Lists, enter, Std.TreeMap.getElem?_alter]
  by_cases hname : compare name map = .eq
  · obtain rfl := Std.LawfulEqCmp.eq_of_compare hname
    rw [if_pos hname]
    cases st.permits[name]? with
    | none => simp [Std.TreeSet.mem_insert]
    | some lists => simp [Std.TreeSet.mem_insert, or_comm]
  · rw [if_neg hname]
    have hne : name ≠ map := fun heq => hname (by rw [heq]; exact Std.ReflCmp.compare_self)
    simp [hne]

/-- What is known of a map is not forgotten. -/
theorem ListScan.counts_read (h : st.Counts map list) : (st.read line).Counts map list := by
  have hpermit : ∀ name, (st.permit name).Counts map list :=
    fun name => h.imp_right lists_permit.mpr
  have htaint : ∀ name, (st.taint name).Counts map list :=
    fun name => h.imp_left fun hmem => Std.TreeSet.mem_insert.mpr (Or.inr hmem)
  have henter : ∀ name list', (st.enter name list').Counts map list :=
    fun name list' => h.imp_right fun hlists => lists_enter.mpr (Or.inl hlists)
  unfold read
  split
  · unfold readHeading
    split
    · exact hpermit _
    · exact h
    · exact htaint _
    · exact h
  · unfold readBody
    split
    · exact h
    · split
      · exact htaint _
      · split
        · exact h
        · exact h
        · split
          · exact henter _ _
          · exact htaint _
        · exact htaint _

theorem ListScan.counts_foldl (h : st.Counts map list) : (ls.foldl read st).Counts map list := by
  induction ls generalizing st with
  | nil => exact h
  | cons line ls ih => exact ih (counts_read h)

theorem ListScan.current_read_of_heading (h : isMapHeading line = true) :
    (st.read line).current = mapClause line := by
  rw [read, if_pos h]
  rfl

theorem ListScan.current_read_of_body (h : isMapHeading line = false) :
    (st.read line).current = st.current := by
  rw [read, h, if_neg (by decide)]
  unfold readBody
  split
  · rfl
  · split
    · rfl
    · split
      · rfl
      · rfl
      · split
        · rfl
        · rfl
      · rfl

/-- A line that names a list counts. -/
theorem ListScan.counts_of_names (hline : isMapHeading line = false) {isPermit : Bool}
    (hcurrent : st.current = some (map, isPermit)) {lists : List Text}
    (hlists : matchLists line = some lists)
    (hmem : list ∈ lists) : (st.read line).Counts map list := by
  have htaint : (st.taint map).Counts map list := Or.inl (Std.TreeSet.mem_insert_self)
  rw [read, hline, if_neg (by decide), readBody, hcurrent]
  dsimp only
  split
  · exact htaint
  · rw [hlists]
    cases lists with
    | nil => cases hmem
    | cons a lists =>
      cases lists with
      | nil =>
        obtain rfl := List.mem_singleton.mp hmem
        dsimp only
        split
        · exact Or.inr (lists_enter.mpr (Or.inr ⟨rfl, rfl⟩))
        · exact htaint
      | cons b lists => exact htaint

/-- **What the sections name is counted.** -/
theorem ListScan.counts_of_sections (ls : List Text) (st : ListScan)
    (h : ClauseNames st.current (preamble isMapHeading ls) map list ∨
      ∃ s ∈ sections isMapHeading ls, ClauseNames (mapClause s.1) s.2 map list) :
    (ls.foldl read st).Counts map list := by
  induction ls generalizing st with
  | nil =>
    rcases h with ⟨-, line, hline, -⟩ | ⟨s, hs, -⟩
    · cases hline
    · cases hs
  | cons line ls ih =>
    cases hline : isMapHeading line with
    -- a heading ends the clause the scan stands in and starts that of its section
    | true =>
      have hpreamble : preamble isMapHeading (line :: ls) = [] :=
        List.takeWhile_cons_of_neg (by simp [hline])
      rw [hpreamble, sections, if_pos hline] at h
      rcases h with ⟨-, line, hmem, -⟩ | ⟨s, hs, hnames⟩
      · cases hmem
      · rcases List.mem_cons.mp hs with rfl | hs
        · exact ih _ (Or.inl (by rwa [current_read_of_heading hline]))
        · exact ih _ (Or.inr ⟨s, hs, hnames⟩)
    -- a body line belongs to the clause the scan stands in
    | false =>
      have hpreamble : preamble isMapHeading (line :: ls) = line :: preamble isMapHeading ls :=
        List.takeWhile_cons_of_pos (by simp [hline])
      rw [hpreamble, sections, hline, if_neg (by decide)] at h
      rcases h with ⟨⟨isPermit, hcurrent⟩, l, hmem, lists, hlists, hlist⟩ | hs
      · rcases List.mem_cons.mp hmem with rfl | hmem
        · have hcounts := counts_of_names hline hcurrent hlists hlist
          rw [List.foldl_cons]
          exact counts_foldl hcounts
        · refine ih _ (Or.inl ⟨⟨isPermit, ?_⟩, l, hmem, lists, hlists, hlist⟩)
          rw [current_read_of_body hline, hcurrent]
      · exact ih _ (Or.inr hs)

/-- A list that is entered is named by the line. -/
theorem ListScan.lists_of_read (h : (st.read line).Lists map list) :
    st.Lists map list ∨ isMapHeading line = false ∧
    (∃ isPermit, st.current = some (map, isPermit)) ∧ ∃ lists, matchLists line = some lists ∧
      list ∈ lists := by
  unfold read at h
  split at h
  · refine Or.inl ?_
    unfold readHeading at h
    split at h
    · exact lists_permit.mp h
    · exact h
    · exact h
    · exact h
  · rename_i hline
    have hline : isMapHeading line = false := by simpa using hline
    unfold readBody at h
    split at h
    · exact Or.inl h
    · rename_i name isPermit hcurrent
      split at h
      · exact Or.inl h
      · split at h
        · exact Or.inl h
        · exact Or.inl h
        · rename_i list' hlists
          split at h
          · rcases lists_enter.mp h with h | ⟨rfl, rfl⟩
            · exact Or.inl h
            · exact Or.inr ⟨hline, ⟨isPermit, hcurrent⟩, _, hlists, List.mem_cons_self⟩
          · exact Or.inl h
        · exact Or.inl h

theorem ListScan.names_of_lists (ls : List Text) (st : ListScan)
    (h : (ls.foldl read st).Lists map list) :
    st.Lists map list ∨ ClauseNames st.current (preamble isMapHeading ls) map list ∨
      ∃ s ∈ sections isMapHeading ls, ClauseNames (mapClause s.1) s.2 map list := by
  induction ls generalizing st with
  | nil => exact Or.inl h
  | cons line ls ih =>
    have hstep := ih (st.read line) h
    cases hline : isMapHeading line with
    -- a heading enters no list
    | true =>
      rw [current_read_of_heading hline] at hstep
      rw [sections, if_pos hline]
      rcases hstep with hlists | hnames | ⟨s, hs, hnames⟩
      · rcases lists_of_read hlists with hlists | ⟨hbody, -⟩
        · exact Or.inl hlists
        · rw [hline] at hbody
          cases hbody
      · exact Or.inr (Or.inr ⟨_, List.mem_cons_self, hnames⟩)
      · exact Or.inr (Or.inr ⟨s, List.mem_cons_of_mem _ hs, hnames⟩)
    | false =>
      have hpreamble : preamble isMapHeading (line :: ls) = line :: preamble isMapHeading ls :=
        List.takeWhile_cons_of_pos (by simp [hline])
      rw [current_read_of_body hline] at hstep
      rw [hpreamble, sections, hline, if_neg (by decide)]
      rcases hstep with hlists | ⟨hclause, l, hl, hnames⟩ | hsections
      · rcases lists_of_read hlists with hlists | ⟨-, hclause, hnames⟩
        · exact Or.inl hlists
        · exact Or.inr (Or.inl ⟨hclause, line, List.mem_cons_self, hnames⟩)
      · exact Or.inr (Or.inl ⟨hclause, l, List.mem_cons_of_mem _ hl, hnames⟩)
      · exact Or.inr (Or.inr hsections)

/-- What is true of a result while the maps are settled one by one. -/
structure Settling (scan : ListScan) (out : RouteMapPrefixLists) : Prop where
  keeps : ∀ name ∈ scan.ambiguous, name ∈ out.ambiguous
  single : ∀ map list : Text, out.resolved[map]? = some list →
    ∃ lists, scan.permits[map]? = some lists ∧ lists.toList = [list]

theorem Settling.settleMap {scan : ListScan} {out : RouteMapPrefixLists} (h : Settling scan out)
    {entry : Text × Std.TreeSet Text compare} (hentry : scan.permits[entry.1]? = some entry.2) :
    Settling scan (settleMap out entry) := by
  unfold RouteContext.settleMap
  split
  · exact h
  · split
    · exact h
    · rename_i list hlist
      refine ⟨h.keeps, fun map list' hget => ?_⟩
      rw [Std.TreeMap.getElem?_insert] at hget
      split at hget
      · rename_i hname
        obtain rfl := Std.LawfulEqCmp.eq_of_compare hname
        cases hget
        exact ⟨entry.2, hentry, hlist⟩
      · exact h.single map list' hget
    · exact ⟨fun name hname => Std.TreeSet.mem_insert.mpr (Or.inr (h.keeps name hname)), h.single⟩

theorem settling_foldl {scan : ListScan} (entries : List (Text × Std.TreeSet Text compare))
    (hentries : ∀ entry ∈ entries, scan.permits[entry.1]? = some entry.2)
    {out : RouteMapPrefixLists}
    (h : Settling scan out) : Settling scan (entries.foldl settleMap out) := by
  induction entries generalizing out with
  | nil => exact h
  | cons entry entries ih =>
    exact ih (fun e he => hentries e (List.mem_cons_of_mem _ he))
      (h.settleMap (hentries entry List.mem_cons_self))

/-- **A route map that a list is read from names this list, and no other one.** -/
theorem names_iff_of_resolved {config : Text}
    (h : (parseRoutemapPrefixLists config).resolved[map]? = some list) :
    map ∉ (parseRoutemapPrefixLists config).ambiguous ∧ ∀ list', MapNames config map list' ↔
      list' = list := by
  let scan := (lines config).foldl ListScan.read {}
  have hsettling : Settling scan (scan.permits.toList.foldl settleMap ⟨∅, scan.ambiguous⟩) :=
    settling_foldl _ (fun entry hentry => Std.TreeMap.mem_toList_iff_getElem?_eq_some.mp hentry)
      ⟨fun _ hname => hname, fun _ _ hget => by simp at hget⟩
  change (Std.TreeMap.filter _ _)[map]? = some list at h
  rw [Std.TreeMap.getElem?_filter'] at h
  obtain ⟨hget, hambiguous⟩ := Option.filter_eq_some_iff.mp h
  -- an ambiguous map is filtered out of the answer
  have hclear : map ∉ (parseRoutemapPrefixLists config).ambiguous := by
    intro hmem
    have hcontains := Std.TreeSet.contains_iff_mem.mpr hmem
    change (!Std.TreeSet.contains _ map) = true at hambiguous
    rw [Bool.not_eq_true'] at hambiguous
    exact Bool.false_ne_true (hambiguous.symm.trans hcontains)
  obtain ⟨lists, hlists, hsingle⟩ := hsettling.single map list hget
  -- the settled map has a single list, the one that was read
  have hmem : ∀ list', list' ∈ lists ↔ list' = list := by
    intro list'
    rw [← Std.TreeSet.mem_toList, hsingle, List.mem_singleton]
  refine ⟨hclear, fun list' => ⟨fun hnames => ?_, ?_⟩⟩
  · rcases ListScan.counts_of_sections (lines config) {} (Or.inr hnames)
      with hamb | ⟨lists', hget', hmem'⟩
    · exact absurd (hsettling.keeps map hamb) hclear
    · obtain rfl : lists' = lists := Option.some.inj (hget'.symm.trans hlists)
      exact (hmem list').mp hmem'
  · rintro rfl
    have hfinal : scan.Lists map list' := ⟨lists, hlists, (hmem list').mpr rfl⟩
    rcases ListScan.names_of_lists (lines config) {} hfinal
      with ⟨lists', hempty, -⟩ | ⟨⟨isPermit, hnone⟩, -⟩ | hnames
    · simp at hempty
    · cases hnone
    · exact hnames

/-- A map that is reported as ambiguous names no list. -/
theorem resolved_eq_none_of_ambiguous {config : Text}
    (h : map ∈ (parseRoutemapPrefixLists config).ambiguous) :
    (parseRoutemapPrefixLists config).resolved[map]? = none := by
  by_contra hne
  obtain ⟨list, hlist⟩ := Option.ne_none_iff_exists'.mp hne
  exact (names_iff_of_resolved hlist).1 h

end Rerouter.RouteContext
