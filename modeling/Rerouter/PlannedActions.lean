import Rerouter.Projections

/-!
# Where a planned action is settled

A planner that goes through behind earlier actions has a state before its action for each of its
readers: one that an earlier action leaves, or one that was read. This file tells, planner by
planner, when all of them are settled (`Rerouter.Planned`), and what is known of the states that are
left (`Rerouter.Left`). A state that is left is taken over as it is, so it is settled.

| planner | settled where |
|---|---|
| static routes | the network is not routed through another next hop |
| route maps | the router line is spelled as the number of its AS prints |
| export policies | they are bound to the AS of the neighbor, and need what the last one needed |
| all others | always |

An export policy is the exception among the states that are left: the next action on it starts from
the attachment with the policies it needs *itself* put in the place of those the earlier one needed
(`Rerouter.planned_exportPolicy`). The two are equal when the needs are (`Rerouter.NeedsKept`).
-/

namespace Rerouter

open Text

variable {table : Show → Except Text Text} {projected : Projection}
  {lists : ProjectedLists} {device : ℕ}
  {t : Template} {r : PrepareRequest} {subst : NameMap Text} {b : PreparedDeviceAction}

/-! ### What is known of the states that are left -/

/-- What is known of a state that an action leaves, where the states before it were settled. -/
def Left (table : Show → Except Text Text) (device : ℕ) : DeviceStateSnapshot → Prop
  | .prefixList name entries consumers => Printed entries ∧ ∃ bgp routeMaps fullConfig,
      table (device, bgpSection) = .ok bgp ∧ table (device, routeMapSection) = .ok routeMaps ∧
        table (device, ("show running-config" : Text)) = .ok fullConfig ∧
          consumers = prefixListConsumers bgp routeMaps fullConfig name
  | .routeResolution cidr nextHop _ =>
    nextHop = ("Null0" : Text) ∧ ¬RoutedElsewhere table device cidr nextHop
  | .routeMapAssignment localAsn neighbor _ _ _ => ':' ∉ neighbor ∧ ∃ output family,
      table (device, bgpSection) = .ok output ∧ proveNeighborContext output neighbor =
      .ok (localAsn, family) ∧
        hasRouterLine output localAsn = true
  | .exportPolicyAttachment a =>
    ':' ∉ a.neighbor ∧ a.requiredPrefixLists.isSome ∧ a.requiredRouteMaps.isSome ∧
      (∃ read, Reads.answer table (readExportAttachment device a.neighbor) = .ok read ∧
        read.addressFamily = a.addressFamily) ∧
      ∀ bgp, table (device, bgpSection) = .ok bgp → ¬BoundElsewhere bgp a.neighbor
  | _ => True

/-- The text of a list that is left. -/
def printedList : DeviceStateSnapshot → Option Text
  | .prefixList name entries _ => some (renderPrefixListSnapshot name entries)
  | _ => none

/-- **What is kept while a list of actions is prepared**: the states that are left, each under its
own key, and the texts of the prefix lists among them. -/
structure Tracked (table : Show → Except Text Text) (lists : ProjectedLists)
    (projected : Projection) : Prop where
  left : ∀ k s, projected[k]? = some s → ∃ d, k = stateKey d s ∧ Left table d s
  printed : ∀ d name, lists.lookup (d, name) =
    (projected[stateKey d (.prefixList name [] [])]?).bind printedList

theorem tracked_empty : Tracked table [] ∅ where
  left k s h := by simp at h
  printed d name := by simp

theorem Tracked.keyed (h : Tracked table lists projected) : Keyed projected := fun k s hget => by
  obtain ⟨d, hkey, -⟩ := h.left k s hget
  exact ⟨d, hkey⟩

/-- A state that is found under the key of another has its kind and its object. -/
theorem Tracked.of_getElem? (h : Tracked table lists projected) {probe s : DeviceStateSnapshot}
    (hget : projected[stateKey device probe]? = some s) :
    s.kind = probe.kind ∧ s.object = probe.object ∧ Left table device s := by
  obtain ⟨d, hkey, hleft⟩ := h.left _ s hget
  obtain ⟨rfl, hkind, hobject⟩ := stateKey_inj.mp hkey
  exact ⟨hkind.symm, hobject.symm, hleft⟩

theorem Tracked.exportsApart (h : Tracked table lists projected) : ExportsApart projected where
  keyed := h.keyed
  colon k a hget := by
    obtain ⟨d, -, hcolon, -⟩ := h.left k _ hget
    exact hcolon
  apart d a b ha hb hname := by
    obtain ⟨-, -, -, -, -, ⟨read, hread, hfamily⟩, -⟩ := h.of_getElem? ha
    obtain ⟨-, -, -, -, -, ⟨read', hread', hfamily'⟩, -⟩ := h.of_getElem? hb
    rw [hname, hread'] at hread
    cases hread
    exact hfamily.symm.trans hfamily'

/-! ### One action -/

/-- What is known of an action that is planned: where its states before it are settled, and of what
it leaves. -/
structure Planned (table : Show → Except Text Text) (projected : Projection) (device : ℕ)
    (misread : Prop) (b : PreparedDeviceAction) : Prop where
  device_eq : b.device = device
  valid : b.validate = .ok ()
  settled : (∀ s ∈ b.before, Settled table projected device s) ↔ ¬misread
  left : (∀ s ∈ b.before, Settled table projected device s) → ∀ s ∈ b.after, Left table device s

/-- Whether a state is neither a prefix list nor an export policy. -/
def DeviceStateSnapshot.plain : DeviceStateSnapshot → Prop
  | .prefixList .. | .exportPolicyAttachment _ => False
  | _ => True

/-- The key of a route does not tell whether it is there. -/
theorem stateKey_snapshot (device : ℕ) (desired : StaticRoute) (present : Bool) :
    stateKey device { desired with present }.snapshot = stateKey device desired.snapshot := by
  obtain ⟨v6, cidr, nextHop, tag, present'⟩ := desired
  cases v6 <;> rfl

theorem left_snapshot (desired : StaticRoute) :
    Left table device desired.snapshot ∧ desired.snapshot.plain := by
  obtain ⟨v6, cidr, nextHop, tag, present⟩ := desired
  cases v6 <;> exact ⟨trivial, trivial⟩

/-- A routing entry is settled where it is not through another next hop. -/
theorem settled_routeResolution (htracked : Tracked table lists projected) {cidr : Text}
    {present : Bool} {s : DeviceStateSnapshot} (hcidr : normalizeCidr cidr = some cidr)
    (h : Sourced table projected device (.routeResolution cidr "Null0" present)
      (readRouteResolution device cidr "Null0") s) :
    Settled table projected device s ↔ ¬RoutedElsewhere table device cidr "Null0" := by
  have hkey : Reads.answer table (readRouteResolution device cidr "Null0") = .ok s →
      stateKey device s = stateKey device (.routeResolution cidr "Null0" present) := by
    intro hread
    simp only [readRouteResolution, Reads.answer_bind, answer_decided, answer_showOn, hcidr, okOr,
      ok_bind] at hread
    obtain ⟨command, -, hread⟩ := bind_eq_ok.mp hread
    obtain ⟨output, -, hread⟩ := bind_eq_ok.mp hread
    split at hread
    · cases hread
    · cases hread
      rfl
  rw [h.settled_iff htracked.keyed hkey]
  rcases h.cases with hget | ⟨hnone, hread⟩
  · -- an earlier action left the entry, and it was settled then
    obtain ⟨hkind, hobject, hleft⟩ := htracked.of_getElem? hget
    have hnot : ¬RoutedElsewhere table device cidr "Null0" := by
      cases s with
      | routeResolution cidr' nextHop' present' =>
        obtain ⟨rfl, hnot⟩ := hleft
        have heq : cidr' = cidr := List.append_cancel_right hobject
        rwa [heq] at hnot
      | _ => cases hkind
    rw [hget]
    exact iff_of_true (fun hnone => by cases hnone) hnot
  · rw [← verifies_readRouteResolution hread]
    exact ⟨fun hverifies => hverifies hnone, fun hverifies _ => hverifies⟩

theorem planned_staticRoute (htracked : Tracked table lists projected) {rtbh : ℕ → Option Text}
    (hcidr : ∀ cidr, subst[("prefix" : Text)]? = some cidr → normalizeCidr cidr = some cidr)
    (h : Reads.answer table (prepareStaticRoute rtbh t r subst projected) = .ok b) :
    Planned table projected r.device
      (∃ cidr, subst[("prefix" : Text)]? = some cidr ∧
        RoutedElsewhere table r.device cidr "Null0") b ∧
        ∀ s ∈ b.after, s.plain := by
  obtain ⟨desired, before, current, resolution, bgp, plan, inverse, hdesired, hbefore, -,
    hresolution, hbgp, -, -, h⟩ := of_prepareStaticRoute h
  -- a route is read back as it was read, so it is settled
  have hroute : Settled table projected r.device before :=
    hbefore.settled htracked.keyed fun hread => by
    refine ⟨?_, verifies_readStaticRoute hread⟩
    simp only [readStaticRoute, Reads.answer_bind, answer_decided, answer_showOn] at hread
    obtain ⟨command, -, hread⟩ := bind_eq_ok.mp hread
    obtain ⟨output, -, hread⟩ := bind_eq_ok.mp hread
    obtain ⟨presentEvidence, -, hread⟩ := bind_eq_ok.mp hread
    obtain ⟨absentEvidence, -, hread⟩ := bind_eq_ok.mp hread
    split at hread
    · cases hread
    · split at hread
      · cases hread
        exact stateKey_snapshot r.device desired true
      · split at hread
        · cases hread
          exact stateKey_snapshot r.device desired false
        · cases hread
  have hsubst := desiredRoute_cidr hdesired
  have hentry := settled_routeResolution htracked (hcidr _ hsubst) hresolution
  -- the resolution is the one state that may be misread: through another next hop
  have hmisread : (¬∃ cidr, subst[("prefix" : Text)]? = some cidr ∧
    RoutedElsewhere table r.device cidr "Null0") ↔
      ¬RoutedElsewhere table r.device desired.cidr "Null0" := by
    constructor
    · exact fun hnot helsewhere => hnot ⟨desired.cidr, hsubst, helsewhere⟩
    · rintro hnot ⟨cidr, hcidr', helsewhere⟩
      rw [hsubst] at hcidr'
      cases hcidr'
      exact hnot helsewhere
  have hbgpSettled : (∀ s ∈ bgp.1, Settled table projected r.device s) ∧
      ∀ s ∈ bgp.2, Left table r.device s ∧ s.plain := by
    rcases of_bgpRouteStates hbgp with ⟨-, rfl⟩ | ⟨tag, community, entry, -, -, hsourced, rfl⟩
    · simp
    · refine ⟨fun s hs => ?_, fun s hs => ?_⟩
      · rw [List.mem_singleton.mp hs]
        refine hsourced.settled htracked.keyed fun hread => ⟨?_, verifies_readBgpRoute hread⟩
        simp only [readBgpRoute, Reads.answer_bind, answer_showOn] at hread
        obtain ⟨output, -, hread⟩ := bind_eq_ok.mp hread
        split at hread
        · cases hread
        · split at hread
          · cases hread
          · cases hread
            rfl
      · rw [List.mem_singleton.mp hs]
        exact ⟨trivial, trivial⟩
  have hvalid := valid_of_checked h
  obtain rfl := eq_of_checked h
  have hsettled : (∀ s ∈ before :: resolution :: bgp.1, Settled table projected r.device s) ↔
      ¬RoutedElsewhere table r.device desired.cidr "Null0" := by
    rw [List.forall_mem_cons, List.forall_mem_cons, hentry]
    exact ⟨fun hall => hall.2.1, fun hnot => ⟨hroute, hnot, hbgpSettled.1⟩⟩
  refine ⟨⟨rfl, hvalid, hsettled.trans hmisread.symm, fun hall => ?_⟩, ?_⟩
  · exact List.forall_mem_cons.mpr ⟨(left_snapshot desired).1, List.forall_mem_cons.mpr
      ⟨⟨rfl, hsettled.mp hall⟩, fun s hs => (hbgpSettled.2 s hs).1⟩⟩
  · exact List.forall_mem_cons.mpr ⟨(@left_snapshot table r.device desired).2,
      List.forall_mem_cons.mpr ⟨trivial, fun s hs => (hbgpSettled.2 s hs).2⟩⟩

theorem planned_neighborShutdown (htracked : Tracked table lists projected)
    (h : Reads.answer table (prepareNeighborShutdown t r subst projected) = .ok b) :
    Planned table projected r.device False b ∧ ∀ s ∈ b.after, s.plain := by
  obtain ⟨neighbor, localAsn, before, current, session, plan, -, -, hbefore, -, hsession, -, h⟩ :=
    of_prepareNeighborShutdown h
  have hshutdown : Settled table projected r.device before :=
    hbefore.settled htracked.keyed fun hread => by
    refine ⟨?_, verifies_readNeighborShutdown hread⟩
    simp only [readNeighborShutdown, Reads.answer_bind, answer_showOn] at hread
    obtain ⟨output, -, hread⟩ := bind_eq_ok.mp hread
    split at hread
    · cases hread
    · cases hread
      rfl
  have hstate : Settled table projected r.device session :=
    hsession.settled htracked.keyed fun hread => by
    refine ⟨?_, verifies_readNeighborState hread⟩
    simp only [readNeighborState, Reads.answer_bind, answer_decided, answer_showOn] at hread
    obtain ⟨output, -, hread⟩ := bind_eq_ok.mp hread
    obtain ⟨parsed, -, hread⟩ := bind_eq_ok.mp hread
    cases hread
    rfl
  have hvalid := valid_of_checked h
  obtain rfl := eq_of_checked h
  have hall : ∀ s ∈ [before, session], Settled table projected r.device s :=
    List.forall_mem_cons.mpr ⟨hshutdown, List.forall_mem_singleton.mpr hstate⟩
  exact ⟨⟨rfl, hvalid, iff_of_true hall not_false, fun _ =>
    List.forall_mem_cons.mpr ⟨trivial, List.forall_mem_singleton.mpr trivial⟩⟩,
    List.forall_mem_cons.mpr ⟨trivial, List.forall_mem_singleton.mpr trivial⟩⟩

theorem planned_interfaceMss (htracked : Tracked table lists projected)
    (h : Reads.answer table (prepareInterfaceMss t r subst projected) = .ok b) :
    Planned table projected r.device False b ∧ ∀ s ∈ b.after, s.plain := by
  obtain ⟨interface, desired, before, current, plan, -, -, hbefore, -, -, h⟩ :=
    of_prepareInterfaceMss h
  have hmss : Settled table projected r.device before :=
    hbefore.settled htracked.keyed fun hread => by
    refine ⟨?_, verifies_readInterfaceMss hread⟩
    simp only [readInterfaceMss, Reads.answer_bind, answer_decided, answer_showOn] at hread
    obtain ⟨output, -, hread⟩ := bind_eq_ok.mp hread
    obtain ⟨⟨⟩, -, hread⟩ := bind_eq_ok.mp hread
    cases hread
    rfl
  have hvalid := valid_of_checked h
  obtain rfl := eq_of_checked h
  exact ⟨⟨rfl, hvalid, iff_of_true (List.forall_mem_singleton.mpr hmss) not_false, fun _ =>
    List.forall_mem_singleton.mpr trivial⟩, List.forall_mem_singleton.mpr trivial⟩

theorem planned_interfaceAdmin (htracked : Tracked table lists projected)
    (h : Reads.answer table (prepareInterfaceAdmin t r subst projected) = .ok b) :
    Planned table projected r.device False b ∧ ∀ s ∈ b.after, s.plain := by
  obtain ⟨interface, before, current, operational, plan, -, hbefore, -, hoperational, -, -, h⟩ :=
    of_prepareInterfaceAdmin h
  have hadmin : Settled table projected r.device before :=
    hbefore.settled htracked.keyed fun hread => by
    refine ⟨?_, verifies_readInterfaceAdmin hread⟩
    simp only [readInterfaceAdmin, Reads.answer_bind, answer_decided, answer_showOn] at hread
    obtain ⟨output, -, hread⟩ := bind_eq_ok.mp hread
    obtain ⟨⟨⟩, -, hread⟩ := bind_eq_ok.mp hread
    cases hread
    rfl
  have hdown : Settled table projected r.device operational :=
    hoperational.settled htracked.keyed fun hread => by
    refine ⟨?_, verifies_readInterfaceOperational hread⟩
    simp only [readInterfaceOperational, Reads.answer_bind, answer_showOn] at hread
    obtain ⟨output, -, hread⟩ := bind_eq_ok.mp hread
    split at hread
    · cases hread
    · cases hread
      rfl
  have hvalid := valid_of_checked h
  obtain rfl := eq_of_checked h
  have hall : ∀ s ∈ [before, operational], Settled table projected r.device s :=
    List.forall_mem_cons.mpr ⟨hadmin, List.forall_mem_singleton.mpr hdown⟩
  exact ⟨⟨rfl, hvalid, iff_of_true hall not_false, fun _ =>
    List.forall_mem_cons.mpr ⟨trivial, List.forall_mem_singleton.mpr trivial⟩⟩,
    List.forall_mem_cons.mpr ⟨trivial, List.forall_mem_singleton.mpr trivial⟩⟩

/-- A route map is settled where the router line of its AS is spelled as the number prints. -/
theorem settled_routeMap (htracked : Tracked table lists projected) {localAsn : ℕ}
    {neighbor direction family output : Text} {s : DeviceStateSnapshot} (hneighbor : ':' ∉ neighbor)
    (houtput : table (device, bgpSection) = .ok output)
    (hcontext : proveNeighborContext output neighbor = .ok (localAsn, family))
    (h : Sourced table projected device
      (.routeMapAssignment localAsn neighbor direction (some family) none)
      (decided (readRouteMap localAsn neighbor direction family output)) s) :
    Settled table projected device s ↔ hasRouterLine output localAsn = true := by
  have hkey : Reads.answer table
    (decided (readRouteMap localAsn neighbor direction family output)) = .ok s →
      stateKey device s =
        stateKey device (.routeMapAssignment localAsn neighbor direction (some family) none) := by
    intro hread
    obtain ⟨map, -, hread⟩ := bind_eq_ok.mp hread
    cases hread
    rfl
  rw [h.settled_iff htracked.keyed hkey]
  rcases h.cases with hget | ⟨hnone, hread⟩
  · obtain ⟨hkind, hobject, hleft⟩ := htracked.of_getElem? hget
    -- what an earlier action left was settled then, under the same router line
    have hline : hasRouterLine output localAsn = true := by
      cases s with
      | routeMapAssignment localAsn' neighbor' direction' addressFamily' routeMap' =>
        obtain ⟨hcolon, output', family', houtput', hcontext', hline⟩ := hleft
        simp only [DeviceStateSnapshot.object, List.append_assoc, List.cons_append] at hobject
        obtain ⟨rfl, -⟩ := append_cons_inj hcolon hneighbor hobject
        rw [houtput] at houtput'
        cases houtput'
        rw [hcontext] at hcontext'
        cases hcontext'
        exact hline
      | _ => cases hkind
    rw [hget]
    exact iff_of_true (fun hnone => by cases hnone) hline
  · rw [← verifies_readRouteMap houtput hread]
    exact ⟨fun hverifies => hverifies hnone, fun hverifies _ => hverifies⟩

theorem planned_routeMap (htracked : Tracked table lists projected)
    (hneighbor : ∀ neighbor, subst[("neighbor_ip" : Text)]? = some neighbor → ':' ∉ neighbor)
    (h : Reads.answer table (prepareRouteMapAction r subst projected) = .ok b) :
    Planned table projected r.device
      (∃ localAsn output, substNumber subst "local_asn" = .ok localAsn ∧
        table (r.device, bgpSection) = .ok output ∧ hasRouterLine output localAsn = false) b ∧
        ∀ s ∈ b.after, s.plain := by
  obtain ⟨neighbor, localAsn, direction, requested, output, family, before, current, hsubst, hasn,
    -, -, houtput, hcontext, hbefore, -, h⟩ := of_prepareRouteMapAction h
  have hcolon := hneighbor neighbor (okOr_eq_ok.mp hsubst)
  have hline := settled_routeMap htracked hcolon houtput hcontext hbefore
  -- the AS number is given, so the router line is the one thing left to miss
  have hmisread : (¬∃ localAsn output, substNumber subst "local_asn" = .ok localAsn ∧
      table (r.device, bgpSection) = .ok output ∧ hasRouterLine output localAsn = false) ↔
      hasRouterLine output localAsn = true := by
    simp only [hasn, houtput, Except.ok.injEq, exists_eq_left', exists_and_left, Bool.not_eq_false]
  simp only [routeMapAction] at h
  split at h
  · cases h
  · have hvalid := valid_of_checked h
    obtain rfl := eq_of_checked h
    have hsettled : (∀ s ∈ [before], Settled table projected r.device s) ↔
      hasRouterLine output localAsn = true := by
      rw [List.forall_mem_singleton, hline]
    exact ⟨⟨rfl, hvalid, hsettled.trans hmisread.symm, fun hall =>
      List.forall_mem_singleton.mpr ⟨hcolon, output, family, houtput, hcontext, hsettled.mp hall⟩⟩,
      List.forall_mem_singleton.mpr trivial⟩

/-- A list is settled: it is the one that is left, read back, or the one that is shown. -/
theorem settled_prefixList (htracked : Tracked table lists projected)
    {bgp routeMaps fullConfig list output : Text} {entries : List PrefixListEntry}
    (hlist : NoWs list)
    (hbgp : table (device, bgpSection) = .ok bgp)
    (hmaps : table (device, routeMapSection) = .ok routeMaps)
    (hfull : table (device, ("show running-config" : Text)) = .ok fullConfig)
    (houtput : Reads.answer table (listOutput lists device list) = .ok output)
    (hentries : parsePrefixList output list = .ok entries) :
    Settled table projected device (.prefixList list (entries.map prefixEntrySnapshot)
      (prefixListConsumers bgp routeMaps fullConfig list)) := by
  have hprinted := htracked.printed device list
  have hkind : ∀ s, projected[stateKey device (.prefixList list [] [])]? = some s → ∃ es consumers,
      s = .prefixList list es consumers := by
    intro s hget
    obtain ⟨hkind, hobject, -⟩ := htracked.of_getElem? hget
    cases s with
    | prefixList name es consumers =>
      obtain rfl : name = list := hobject
      exact ⟨es, consumers, rfl⟩
    | _ => cases hkind
  unfold listOutput at houtput
  split at houtput
  · rename_i text htext
    cases houtput
    rw [htext] at hprinted
    obtain ⟨s, hget, htext⟩ := Option.bind_eq_some_iff.mp hprinted.symm
    obtain ⟨es, consumers, rfl⟩ := hkind s hget
    obtain ⟨-, -, hes, bgp', routeMaps', fullConfig', hbgp', hmaps', hfull', rfl⟩ :=
      htracked.of_getElem? hget
    rw [hbgp] at hbgp'
    rw [hmaps] at hmaps'
    rw [hfull] at hfull'
    cases hbgp'
    cases hmaps'
    cases hfull'
    cases htext
    rw [hes.eq_of_parse hlist hentries]
    have hkey : stateKey device (.prefixList list es
      (prefixListConsumers bgp routeMaps fullConfig list)) =
        stateKey device (.prefixList list [] []) := rfl
    rw [Settled, hkey, hget]
    simp
  · rename_i hnone
    rw [answer_showOn] at houtput
    have habsent : projected[stateKey device (.prefixList list [] [])]? = none := by
      by_contra hne
      obtain ⟨s, hget⟩ := Option.ne_none_iff_exists'.mp hne
      obtain ⟨es, consumers, rfl⟩ := hkind s hget
      rw [hnone, hget] at hprinted
      cases hprinted
    have hkey : stateKey device (.prefixList list (entries.map prefixEntrySnapshot)
        (prefixListConsumers bgp routeMaps fullConfig list)) =
        stateKey device (.prefixList list [] []) := rfl
    rw [Settled, hkey, habsent]
    exact ⟨fun prior hprior => (by cases hprior), fun _ =>
      verifies_prefixList hbgp hmaps hfull houtput hentries⟩

/-- A neighbor that is needed established is settled. -/
theorem settled_establishedNeighbor (htracked : Tracked table lists projected)
    {neighbor peer : Text}
    (hneighbor : Reads.answer table (neighborOutput projected device peer) = .ok neighbor)
    (hestablished : ensureEstablished neighbor peer = .ok ()) :
    Settled table projected device (establishedNeighbor peer) := by
  unfold neighborOutput at hneighbor
  split at hneighbor
  · rename_i hnone
    rw [answer_showOn] at hneighbor
    rw [Settled, hnone]
    exact ⟨fun prior hprior => (by cases hprior),
      fun _ => verifies_establishedNeighbor hneighbor hestablished⟩
  · rename_i state hget
    split at hneighbor
    · rename_i name s
      obtain ⟨-, hobject, -⟩ := htracked.of_getElem? hget
      obtain rfl : name = peer := hobject
      split at hneighbor
      · rename_i hs
        subst hs
        rw [Settled, hget]
        simp [establishedNeighbor]
      · cases hneighbor
    · cases hneighbor

theorem planned_prefixList (htracked : Tracked table lists projected)
    (hnetwork : ∀ cidr, subst[("prefix" : Text)]? = some cidr →
      ∃ a n, cidr = Ipv4.addrText a ++ '/' :: natText n)
    (hname : ∀ list, subst[("prefix_list_name" : Text)]? = some list → NoWs list)
    (h : Reads.answer table (preparePrefixList t r subst lists projected) = .ok b) :
    Planned table projected r.device False b ∧ ∃ list left consumers advertisement established,
      b.after = [.prefixList list left consumers, advertisement, established] ∧
        advertisement.kind = .bgpAdvertisement ∧ established.kind = .bgpNeighborState := by
  obtain ⟨list, peer, bgp, routeMaps, fullConfig, neighbor, output, cidr, consumers, hlist, -, hbgp,
    hmaps, hfull, hneighbor, houtput, hcidr, hestablished, hconsumers, h⟩ := of_preparePrefixList h
  obtain ⟨entries, left, hentries, hdevice, hvalid, hbefore, hafter, hleft⟩ :=
    of_preparePrefixListAction h
  obtain rfl := ensureExclusivePrefixListConsumer_eq_ok hconsumers
  have hprinted : Printed left := by
    rcases hleft with rfl | ⟨sequence, rfl⟩
    · exact printed_of_parse hentries
    · obtain ⟨a, n, rfl⟩ := hnetwork cidr hcidr
      exact (printed_of_parse hentries).projectedEntries _ sequence a n
  refine ⟨⟨hdevice, hvalid, iff_of_true ?_ not_false, fun _ => ?_⟩, list, left, _, _, _,
    hafter, rfl, rfl⟩
  · rw [hbefore]
    exact List.forall_mem_cons.mpr
      ⟨settled_prefixList htracked (hname list hlist) hbgp hmaps hfull houtput hentries,
        List.forall_mem_singleton.mpr (settled_establishedNeighbor htracked hneighbor hestablished)⟩
  · rw [hafter]
    refine List.forall_mem_cons.mpr ⟨⟨hprinted, bgp, routeMaps, fullConfig, hbgp, hmaps,
      hfull, rfl⟩, ?_⟩
    exact List.forall_mem_cons.mpr ⟨trivial, List.forall_mem_singleton.mpr trivial⟩

/-! ### Export policies -/

/-- The policies on the exports of a neighbor: its prefix list and its route map. -/
abbrev Policies := Option Text × Option Text

/-- A change of export policy: its kind, and the policy that is wanted. -/
abbrev PolicyChange := PolicyKind × Text

/-- The policies behind a change. -/
def policiesAfter (policies : Policies) (c : PolicyChange) : Policies :=
  match c.1 with
  | .prefixList => (some c.2, policies.2)
  | .routeMap => (policies.1, some c.2)

/-- The names a change needs: what is there before it and behind it, of either kind. -/
def neededNames (policies : Policies) (c : PolicyChange) : List Text × List Text :=
  (requiredNames policies.1 (policiesAfter policies c).1,
      requiredNames policies.2 (policiesAfter policies c).2)

/-- Some changes need what the one before them needed, one after another. -/
def NeedsBehind (needed : List Text × List Text) (policies : Policies) : List PolicyChange → Prop
  | [] => True
  | c :: changes => needed = neededNames policies c ∧
      NeedsBehind (neededNames policies c) (policiesAfter policies c) changes

/-- **The changes of a neighbor need the same names**, one after another. -/
def NeedsKept (policies : Policies) : List PolicyChange → Prop
  | [] => True
  | c :: changes => NeedsBehind (neededNames policies c) (policiesAfter policies c) changes

/-- The policies of an attachment. -/
def ExportPolicyAttachment.policies (a : ExportPolicyAttachment) : Policies :=
  (a.prefixList, a.routeMap)

/-- The names an attachment that is left requires. -/
def ExportPolicyAttachment.required (a : ExportPolicyAttachment) : List Text × List Text :=
  (a.requiredPrefixLists.getD [], a.requiredRouteMaps.getD [])

/-- The next change needs what is required of the attachment that is left, if one is. -/
def NeedsLeft (left : Option DeviceStateSnapshot) (c : PolicyChange) : Prop :=
  match left with
  | some (.exportPolicyAttachment a) => a.required = neededNames a.policies c
  | _ => True

/-- The changes that remain keep the needs, behind the attachment that is left or the one that is
read. -/
def KeptBehind (table : Show → Except Text Text) (device : ℕ) (neighbor : Text)
    (left : Option DeviceStateSnapshot) (changes : List PolicyChange) : Prop :=
  match left with
  | some (.exportPolicyAttachment a) => NeedsBehind a.required a.policies changes
  | _ => ∀ read, Reads.answer table (readExportAttachment device neighbor) = .ok read →
      NeedsKept read.policies changes

@[simp] theorem needsLeft_none (c : PolicyChange) : NeedsLeft none c = True := rfl

@[simp] theorem needsLeft_some (a : ExportPolicyAttachment) (c : PolicyChange) :
    NeedsLeft (some (.exportPolicyAttachment a)) c = (a.required = neededNames a.policies c) := rfl

theorem keptBehind_nil {neighbor : Text} {left : Option DeviceStateSnapshot} :
    KeptBehind table device neighbor left [] := by
  unfold KeptBehind
  split
  · trivial
  · exact fun read hread => trivial

theorem desiredPolicies_eq (kind : PolicyKind) (name : Text) (a : ExportPolicyAttachment) :
    desiredPolicies kind name a = policiesAfter a.policies (kind, name) := by
  cases kind <;> rfl

/-- An attachment that is left has the needs of the next change already, or it has not. -/
theorem requirePolicies_eq_self {a : ExportPolicyAttachment} {desired : Policies}
    (hlists : a.requiredPrefixLists.isSome) (hmaps : a.requiredRouteMaps.isSome) :
    a = requirePolicies a desired ↔
      a.required = (requiredNames a.prefixList desired.1, requiredNames a.routeMap desired.2) := by
  obtain ⟨localAsn, neighbor, family, list, map, lists, maps, required, required'⟩ := a
  obtain ⟨names, rfl⟩ := Option.isSome_iff_exists.mp hlists
  obtain ⟨names', rfl⟩ := Option.isSome_iff_exists.mp hmaps
  simp [requirePolicies, ExportPolicyAttachment.required]

theorem kind_of_advertisementEvidence {neighbor name : Text} {kind : PolicyKind}
    {a : ExportPolicyAttachment}
    {mode : PlanMode} {evidence : List DeviceStateSnapshot × List DeviceStateSnapshot}
    (h : advertisementEvidence neighbor kind name a mode = .ok evidence) :
    ∀ s ∈ evidence.1, s.kind = .bgpAdvertisement := by
  have hproofs : ∀ prefixes present, ∀ s ∈ advertisementProofs neighbor prefixes present,
      s.kind = .bgpAdvertisement := by
    intro prefixes present s hs
    obtain ⟨c, -, rfl⟩ := List.mem_map.mp hs
    rfl
  unfold advertisementEvidence at h
  split at h
  · cases h
    exact fun s hs => absurd hs List.not_mem_nil
  · split at h
    · obtain ⟨desired, -, h⟩ := bind_eq_ok.mp h
      dsimp only at h
      split at h
      all_goals
        obtain ⟨prior, -, h⟩ := bind_eq_ok.mp h
        cases h
        exact hproofs _ _
    · obtain ⟨permitted, -, h⟩ := bind_eq_ok.mp h
      cases h
      exact hproofs _ _
    · cases h
      exact fun s hs => absurd hs List.not_mem_nil

/-- The attachment an action starts from is left, or it is read. -/
theorem of_exportAttachment {neighbor : Text} {read : ExportPolicyAttachment}
    (h : Reads.answer table (exportAttachment projected device neighbor) = .ok read) :
    projectedExportPolicy projected device neighbor = some (.exportPolicyAttachment read) ∨
      projectedExportPolicy projected device neighbor = none ∧
        Reads.answer table (readExportAttachment device neighbor) = .ok read := by
  unfold exportAttachment at h
  cases hleft : projectedExportPolicy projected device neighbor with
  | none =>
    rw [hleft] at h
    exact Or.inr ⟨rfl, h⟩
  | some s =>
    rw [hleft] at h
    cases s with
    | exportPolicyAttachment a =>
      cases h
      exact Or.inl rfl
    | _ => cases h

/-- The attachment that is read is the neighbor's. -/
theorem neighbor_of_readExportAttachment {neighbor : Text} {read : ExportPolicyAttachment}
    (h : Reads.answer table (readExportAttachment device neighbor) = .ok read) :
    read.neighbor = neighbor := by
  simp only [readExportAttachment, Reads.answer_bind, answer_decided, answer_showOn] at h
  obtain ⟨bgp, -, h⟩ := bind_eq_ok.mp h
  obtain ⟨routeMaps, -, h⟩ := bind_eq_ok.mp h
  obtain ⟨prefixLists, -, h⟩ := bind_eq_ok.mp h
  obtain ⟨-, localAsn, family, -, -, rfl⟩ := readExportPolicy_eq_ok.mp h
  rfl

/-- What an action on the exports of a neighbor starts from, and what it leaves. -/
theorem of_prepareExportPolicy {input : PrepareInput} {neighbor name : Text} {kind : PolicyKind}
    {read : ExportPolicyAttachment} {mode : PlanMode} {a : PreparedDeviceAction}
    (h : prepareExportPolicy input neighbor kind name read mode = .ok a) :
    ∃ proofs : List DeviceStateSnapshot, policyDefined kind name read = true ∧
      a.device = input.device ∧
      a.validate = .ok () ∧
      a.before = [.exportPolicyAttachment (requirePolicies read (desiredPolicies kind name read))] ∧
      a.after = .exportPolicyAttachment
        { requirePolicies read (desiredPolicies kind name read) with
          neighbor := neighbor
          prefixList := (desiredPolicies kind name read).1
          routeMap := (desiredPolicies kind name read).2 } :: proofs ∧
      ∀ s ∈ proofs, s.kind = .bgpAdvertisement := by
  simp only [prepareExportPolicy] at h
  split at h
  · cases h
  · rename_i hdefined
    obtain ⟨evidence, hevidence, h⟩ := bind_eq_ok.mp h
    have hvalid := valid_of_checked h
    obtain rfl := eq_of_checked h
    exact ⟨evidence.1, by simpa using hdefined, rfl, hvalid, rfl, rfl,
      kind_of_advertisementEvidence hevidence⟩

/-- **An action on the exports of a neighbor is settled where the section binds them to the AS of
the neighbor and its needs are those of the attachment that is left.** -/
theorem planned_exportPolicy (htracked : Tracked table lists projected) {mode : PlanMode}
    (hcolon : ∀ neighbor, subst[("neighbor_ip" : Text)]? = some neighbor → ':' ∉ neighbor)
    (h : Reads.answer table (prepareExportPolicyAction mode r subst projected) = .ok b) :
    ∃ neighbor kindName kind name attachment proofs,
      subst[("neighbor_ip" : Text)]? = some neighbor ∧
        subst[("policy_kind" : Text)]? = some kindName ∧
      policyKindNamed kindName = .ok kind ∧ subst[("policy_name" : Text)]? = some name ∧
      Planned table projected r.device
        ((∃ neighbor bgp, subst[("neighbor_ip" : Text)]? = some neighbor ∧
          table (r.device, bgpSection) = .ok bgp ∧ BoundElsewhere bgp neighbor) ∨
        ¬NeedsLeft (projectedExportPolicy projected r.device neighbor) (kind, name)) b ∧
      b.after = .exportPolicyAttachment attachment :: proofs ∧ attachment.neighbor = neighbor ∧
      (∀ s ∈ proofs, s.kind = .bgpAdvertisement) ∧
      ∀ changes, KeptBehind table r.device neighbor
        (projectedExportPolicy projected r.device neighbor)
          ((kind, name) :: changes) ↔
        NeedsLeft (projectedExportPolicy projected r.device neighbor) (kind, name) ∧
          KeptBehind table r.device neighbor (some (.exportPolicyAttachment attachment))
            changes := by
  obtain ⟨neighbor, kindName, kind, name, read, hneighbor, hkindName, hkind, hname, hread, h⟩ :=
    of_prepareExportPolicyAction h
  have hneighbor := okOr_eq_ok.mp hneighbor
  have hcolon := hcolon neighbor hneighbor
  obtain ⟨proofs, hdefined, hdevice, hvalid, hbefore, hafter, hproofs⟩ := of_prepareExportPolicy h
  have hbound : (∃ neighbor bgp, subst[("neighbor_ip" : Text)]? = some neighbor ∧
      table (r.device, bgpSection) = .ok bgp ∧ BoundElsewhere bgp neighbor) ↔
      ∃ bgp, table (r.device, bgpSection) = .ok bgp ∧ BoundElsewhere bgp neighbor := by
    constructor
    · rintro ⟨neighbor', bgp, hneighbor', hbgp⟩
      rw [hneighbor] at hneighbor'
      cases hneighbor'
      exact ⟨bgp, hbgp⟩
    · rintro ⟨bgp, hbgp⟩
      exact ⟨neighbor, bgp, hneighbor, hbgp⟩
  refine ⟨neighbor, kindName, kind, name, _, proofs, hneighbor, okOr_eq_ok.mp hkindName, hkind,
    okOr_eq_ok.mp hname, ?_, hafter, rfl, hproofs, ?_⟩
  · -- where the states before it are settled
    have hsettled : (∀ s ∈ b.before, Settled table projected r.device s) ↔
        (¬∃ bgp, table (r.device, bgpSection) = .ok bgp ∧ BoundElsewhere bgp neighbor) ∧
          NeedsLeft (projectedExportPolicy projected r.device neighbor) (kind, name) := by
      rw [hbefore, List.forall_mem_singleton]
      rcases of_exportAttachment hread with hleft | ⟨hleft, hread⟩
      · obtain ⟨a', ha', hname', hget⟩ :=
          (projectedExportPolicy_eq_some htracked.exportsApart hcolon).mp hleft
        cases ha'
        obtain ⟨-, -, -, hlists, hmaps, -, hnot⟩ := htracked.of_getElem? hget
        rw [hname'] at hnot
        have hkey : stateKey r.device
            (.exportPolicyAttachment (requirePolicies read (desiredPolicies kind name read))) =
            stateKey r.device (.exportPolicyAttachment read) := rfl
        have hfree : ¬∃ bgp, table (r.device, bgpSection) = .ok bgp ∧
          BoundElsewhere bgp neighbor := by
          rintro ⟨bgp, hbgp, hb⟩
          exact hnot bgp hbgp hb
        rw [hleft, Settled, hkey, hget, needsLeft_some, neededNames, ← desiredPolicies_eq,
          and_iff_right hfree, ExportPolicyAttachment.policies,
          ← requirePolicies_eq_self hlists hmaps]
        simp
      · have habsent : projected[stateKey r.device
            (.exportPolicyAttachment (requirePolicies read (desiredPolicies kind name read)))]? =
            none := by
          by_contra hne
          obtain ⟨s, hget⟩ := Option.ne_none_iff_exists'.mp hne
          obtain ⟨hkind', hobject, hleft'⟩ := htracked.of_getElem? hget
          cases s with
          | exportPolicyAttachment a =>
            have hcolon' : ':' ∉ read.neighbor := by rwa [neighbor_of_readExportAttachment hread]
            obtain ⟨hname', hfamily⟩ := append_cons_inj hleft'.1 hcolon' hobject
            have hself : ExportProjected projected r.device a := by
              rw [ExportProjected, stateKey_inj.mpr ⟨rfl, hkind', hobject⟩]
              exact hget
            have hsome := (projectedExportPolicy_eq_some htracked.exportsApart hcolon).mpr
              ⟨a, rfl, hname'.trans (neighbor_of_readExportAttachment hread), hself⟩
            rw [hleft] at hsome
            cases hsome
          | _ => cases hkind'
        rw [hleft, Settled, habsent, needsLeft_none, and_true, verifies_exportPolicy hread hdefined]
        simp
    refine ⟨hdevice, hvalid, ?_, fun hall => ?_⟩
    · rw [hsettled, hbound, not_or, not_not]
    · obtain ⟨hnot, -⟩ := hsettled.mp hall
      rw [hafter]
      refine List.forall_mem_cons.mpr
        ⟨⟨hcolon, rfl, rfl, ?_, fun bgp hbgp hb => hnot ⟨bgp, hbgp, hb⟩⟩, ?_⟩
      · rcases of_exportAttachment hread with hleft | ⟨-, hread⟩
        · obtain ⟨a', ha', hname', hget⟩ :=
            (projectedExportPolicy_eq_some htracked.exportsApart hcolon).mp hleft
          cases ha'
          obtain ⟨-, -, -, -, -, hbase, -⟩ := htracked.of_getElem? hget
          rw [hname'] at hbase
          exact hbase
        · exact ⟨read, hread, rfl⟩
      · intro s hs
        have hkind' := hproofs s hs
        cases s with
        | bgpAdvertisement => trivial
        | _ => cases hkind'
  · -- what it leaves needs what it needed
    intro changes
    have hbehind : KeptBehind table r.device neighbor (some (.exportPolicyAttachment
        { requirePolicies read (desiredPolicies kind name read) with
          neighbor := neighbor
          prefixList := (desiredPolicies kind name read).1
          routeMap := (desiredPolicies kind name read).2 })) changes ↔
        NeedsBehind (neededNames read.policies (kind, name)) (policiesAfter read.policies (kind,
          name)) changes := by
      rw [neededNames, ← desiredPolicies_eq]
      rfl
    rw [hbehind]
    rcases of_exportAttachment hread with hleft | ⟨hleft, hread⟩
    · rw [hleft]
      rfl
    · rw [hleft, needsLeft_none, true_and]
      constructor
      · exact fun hkept => hkept read hread
      · intro hneeds read' hread'
        rw [hread] at hread'
        cases hread'
        exact hneeds

end Rerouter
