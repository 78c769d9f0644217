import Rerouter.InheritedPolicy
import Rerouter.PlannerRuns

/-!
# What is read is verified

A preparation reads the states before an action with one set of readers, and a verification
compares them with another reading of the same output. Against one table of outputs the two agree
on all but three kinds of states, and there the outputs that part them are told exactly.

* A routing entry through another next hop only is read as absent. A verification that expects it
  to be absent finds the network and says no (`Rerouter.RoutedElsewhere`).
* A route map belongs to the AS that the section spells as a number. A verification looks for the
  router line as the number prints (`Rerouter.hasRouterLine`).
* The policies of a neighbor are bound to the last AS of the section, and its attachment to the
  first one (`Rerouter.BoundElsewhere`).

`Rerouter.verifies_before_iff` is the result for the states before any prepared action.
-/

namespace Rerouter

open Text

/-! ### Verification against a table -/

/-- A table verifies a state. -/
def Verifies (table : Show → Except Text Text) (device : ℕ) (state : DeviceStateSnapshot) : Prop :=
  Reads.answer table (verifyState device state) = .ok true

variable {table : Show → Except Text Text} {device : ℕ} {state : DeviceStateSnapshot}

@[simp] theorem verifyCurrent_nil : Reads.answer table (verifyCurrent device []) = .ok true := rfl

/-- **Some states are verified when each of them is.** -/
@[simp] theorem verifyCurrent_cons {states : List DeviceStateSnapshot} :
    Reads.answer table (verifyCurrent device (state :: states)) = .ok true ↔
      Verifies table device state ∧ Reads.answer table (verifyCurrent device states) =
        .ok true := by
  rw [verifyCurrent, Reads.answer_bind, bind_eq_ok, Verifies]
  constructor
  · rintro ⟨b, hb, h⟩
    cases b with
    | true => exact ⟨hb, h⟩
    | false => cases h
  · rintro ⟨hb, h⟩
    exact ⟨true, hb, h⟩

/-! ### Static routes -/

theorem verifyState_snapshot (r : StaticRoute) :
    verifyState device r.snapshot = verifyStaticRoute device r := by
  obtain ⟨v6, cidr, nextHop, tag, present⟩ := r
  cases v6 <;> rfl

/-- What is expected of a route does not say how it is read. -/
theorem staticConfigReadCommand_present (r : StaticRoute) (b : Bool) :
    staticConfigReadCommand { r with present := b } = staticConfigReadCommand r := rfl

theorem staticExpectedEvidence_present (output : Text) (r : StaticRoute) (b expected : Bool) :
    staticExpectedEvidence output { r with present := b } expected =
      staticExpectedEvidence output r expected :=
  rfl

theorem verifies_readStaticRoute {desired : StaticRoute}
    (h : Reads.answer table (readStaticRoute device desired) = .ok state) :
    Verifies table device state := by
  simp only [readStaticRoute, Reads.answer_bind, answer_decided, answer_showOn] at h
  obtain ⟨command, hcommand, h⟩ := bind_eq_ok.mp h
  obtain ⟨output, houtput, h⟩ := bind_eq_ok.mp h
  obtain ⟨presentEvidence, hpresent, h⟩ := bind_eq_ok.mp h
  obtain ⟨absentEvidence, habsent, h⟩ := bind_eq_ok.mp h
  have hverify : ∀ b, staticExpectedEvidence output desired b = .ok .matched →
      Verifies table device { desired with present := b }.snapshot := by
    intro b hb
    rw [Verifies, verifyState_snapshot]
    simp only [verifyStaticRoute, Reads.answer_bind, answer_decided, answer_showOn,
      staticConfigReadCommand_present, staticExpectedEvidence_present, hcommand, houtput, hb,
      ok_bind, evidenceMatches]
  split at h
  · cases h
  · split at h
    · rename_i hmatched
      cases h
      exact hverify true (hmatched ▸ hpresent)
    · split at h
      · rename_i hmatched
        cases h
        exact hverify false (hmatched ▸ habsent)
      · cases h

/-- A network that the routing table has through another next hop only. -/
def RoutedElsewhere (table : Show → Except Text Text) (device : ℕ) (cidr nextHop : Text) : Prop :=
  ∃ normalized command output, normalizeCidr cidr = some normalized ∧
      routeCommand normalized = .ok command ∧
    table (device, command) = .ok output ∧ showsRoute output normalized = true ∧
      hasExactRouteResolution output normalized nextHop = false

/-- What proves a routing entry present, and what proves it absent. -/
theorem routeResolutionEvidence_eq {output cidr nextHop : Text}
    (h : routeResolutionEvidence output cidr nextHop true ≠ .unproven) :
    evidenceMatches (routeResolutionEvidence output cidr nextHop
        (routeResolutionEvidence output cidr nextHop true = .matched)) "route-resolution" =
        .ok true ↔
      ¬(showsRoute output cidr = true ∧ hasExactRouteResolution output cidr nextHop = false) := by
  unfold routeResolutionEvidence at h ⊢
  cases hexact : hasExactRouteResolution output cidr nextHop <;>
    cases hshows : showsRoute output cidr <;>
    cases habsent : explicitAbsence output <;>
    simp_all [evidenceMatches]

theorem verifies_readRouteResolution {cidr nextHop : Text}
    (h : Reads.answer table (readRouteResolution device cidr nextHop) = .ok state) :
    Verifies table device state ↔ ¬RoutedElsewhere table device cidr nextHop := by
  simp only [readRouteResolution, Reads.answer_bind, answer_decided, answer_showOn] at h
  obtain ⟨normalized, hnormalized, h⟩ := bind_eq_ok.mp h
  have hnormalized := okOr_eq_ok.mp hnormalized
  obtain ⟨command, hcommand, h⟩ := bind_eq_ok.mp h
  obtain ⟨output, houtput, h⟩ := bind_eq_ok.mp h
  split at h
  · cases h
  · rename_i hproven
    cases h
    -- the state is verified against the very outputs it was read from
    have helsewhere : RoutedElsewhere table device cidr nextHop ↔
        showsRoute output normalized = true ∧
          hasExactRouteResolution output normalized nextHop = false := by
      constructor
      · rintro ⟨normalized', command', output', hn, hc, ho, hshows⟩
        obtain rfl := Option.some.inj (hnormalized.symm.trans hn)
        obtain rfl := Except.ok.inj (hcommand.symm.trans hc)
        obtain rfl := Except.ok.inj (houtput.symm.trans ho)
        exact hshows
      · intro hshows
        exact ⟨normalized, command, output, hnormalized, hcommand, houtput, hshows⟩
    rw [helsewhere, ← routeResolutionEvidence_eq hproven, Verifies, verifyState,
      verifyRouteResolution]
    simp only [Reads.answer_bind, answer_decided, answer_showOn,
      normalizeCidr_of_normalizeCidr hnormalized, okOr, hcommand, houtput, ok_bind]

theorem verifies_readBgpRoute {cidr community : Text}
    (h : Reads.answer table (readBgpRoute device cidr community) = .ok state) :
    Verifies table device state := by
  simp only [readBgpRoute, Reads.answer_bind, answer_showOn] at h
  obtain ⟨output, houtput, h⟩ := bind_eq_ok.mp h
  split at h
  · cases h
  · rename_i hproven
    split at h
    · cases h
    · rename_i hclassified
      cases h
      rw [Verifies, verifyState, verifyBgpRoute]
      simp only [Reads.answer_bind, answer_decided, answer_showOn, houtput, ok_bind]
      by_cases hmatched : bgpEvidence output cidr (some community) false true = .matched
      · rw [if_pos hmatched, decide_eq_true hmatched, hmatched]
        rfl
      · -- nothing of the network is shown, so its absence is
        have hcidr : hasExactCidr output cidr = false := by
          cases hc : hasExactCidr output cidr with
          | false => rfl
          | true => exact absurd ⟨hmatched, hc⟩ hclassified
        rw [if_neg hmatched, decide_eq_false hmatched]
        unfold bgpEvidence at hproven ⊢
        rw [hcidr] at hproven ⊢
        split at hproven
        · exact absurd rfl hproven
        · rename_i hnonempty
          rw [if_neg hnonempty]
          simp only [Bool.false_eq_true, if_false, Bool.false_and, Bool.false_or, Bool.not_false,
            Bool.true_and] at hproven ⊢
          split at hproven
          · rename_i habsent
            rw [if_pos habsent]
            rfl
          · exact absurd rfl hproven

/-! ### Neighbors and interfaces -/

theorem verifies_readNeighborShutdown {localAsn : ℕ} {neighbor : Text}
    (h : Reads.answer table (readNeighborShutdown device localAsn neighbor) = .ok state) :
    Verifies table device state := by
  simp only [readNeighborShutdown, Reads.answer_bind, answer_showOn] at h
  obtain ⟨output, houtput, h⟩ := bind_eq_ok.mp h
  split at h
  · cases h
  · rename_i hproven
    cases h
    have hline : hasRouterLine output localAsn = true := by
      rw [Bool.or_eq_true, not_or] at hproven
      simpa using hproven.1
    rw [Verifies, verifyState, verifyNeighborShutdown]
    simp only [Reads.answer_bind, answer_showOn, houtput, ok_bind, Reads.answer_pure, hline,
      Bool.true_and, decide_true]

theorem verifies_readNeighborState {neighbor : Text}
    (h : Reads.answer table (readNeighborState device neighbor) = .ok state) :
    Verifies table device state := by
  simp only [readNeighborState, Reads.answer_bind, answer_decided, answer_showOn] at h
  obtain ⟨output, houtput, h⟩ := bind_eq_ok.mp h
  obtain ⟨parsed, hparsed, h⟩ := bind_eq_ok.mp h
  cases h
  rw [Verifies, verifyState, verifyNeighborState]
  simp only [Reads.answer_bind, answer_decided, answer_showOn, houtput, hparsed, ok_bind,
    Reads.answer_pure, decide_true, Bool.true_and]
  cases parsed.state with
  | none => rfl
  | some s => simp

/-- An established neighbor is verified by the output that established it. -/
theorem verifies_establishedNeighbor {output peer : Text}
    (houtput : table (device, "show ip bgp neighbors " ++ peer) = .ok output)
    (h : ensureEstablished output peer = .ok ()) :
    Verifies table device (establishedNeighbor peer) := by
  obtain ⟨parsed, hparsed, h⟩ := bind_eq_ok.mp h
  split at h
  · cases h
  · rename_i hestablished
    obtain ⟨hup, hstate⟩ := not_or.mp hestablished
    rw [Verifies, establishedNeighbor, verifyState, verifyNeighborState]
    simp only [Reads.answer_bind, answer_decided, answer_showOn, houtput, hparsed, ok_bind,
      Reads.answer_pure, not_not.mp hstate, hup, decide_true, Bool.true_and, Option.all_some]

theorem verifies_readRouteMap {localAsn : ℕ} {neighbor direction family output : Text}
    (houtput : table (device, bgpSection) = .ok output)
    (h : readRouteMap localAsn neighbor direction family output = .ok state) :
    Verifies table device state ↔ hasRouterLine output localAsn = true := by
  obtain ⟨map, hmap, h⟩ := bind_eq_ok.mp h
  cases h
  rw [Verifies, verifyState, verifyRouteMap]
  simp only [Reads.answer_bind, answer_decided, answer_showOn, houtput, hmap, ok_bind,
    Reads.answer_pure, decide_true, Bool.and_true, Except.ok.injEq]

theorem verifies_readInterfaceMss {interface : Text}
    (h : Reads.answer table (readInterfaceMss device interface) = .ok state) :
    Verifies table device state := by
  simp only [readInterfaceMss, Reads.answer_bind, answer_decided, answer_showOn] at h
  obtain ⟨output, houtput, h⟩ := bind_eq_ok.mp h
  obtain ⟨⟨⟩, hstanza, h⟩ := bind_eq_ok.mp h
  cases h
  rw [Verifies, verifyState, verifyInterfaceMss]
  simp only [Reads.answer_bind, answer_decided, answer_showOn, houtput, hstanza, ok_bind,
    Reads.answer_pure, decide_true]

theorem verifies_readInterfaceAdmin {interface : Text}
    (h : Reads.answer table (readInterfaceAdmin device interface) = .ok state) :
    Verifies table device state := by
  simp only [readInterfaceAdmin, Reads.answer_bind, answer_decided, answer_showOn] at h
  obtain ⟨output, houtput, h⟩ := bind_eq_ok.mp h
  obtain ⟨⟨⟩, hstanza, h⟩ := bind_eq_ok.mp h
  cases h
  rw [Verifies, verifyState, verifyInterfaceAdmin]
  simp only [Reads.answer_bind, answer_decided, answer_showOn, houtput, hstanza, ok_bind,
    Reads.answer_pure, decide_true]

theorem verifies_readInterfaceOperational {interface : Text}
    (h : Reads.answer table (readInterfaceOperational device interface) = .ok state) :
    Verifies table device state := by
  simp only [readInterfaceOperational, Reads.answer_bind, answer_showOn] at h
  obtain ⟨output, houtput, h⟩ := bind_eq_ok.mp h
  split at h
  · cases h
  · rename_i hproven
    cases h
    have hproves : provesInterface output interface = true := by simpa using hproven
    rw [Verifies, verifyState, verifyInterfaceOperational]
    simp only [Reads.answer_bind, answer_showOn, houtput, ok_bind, Reads.answer_pure, hproves,
      Bool.true_and, decide_true]

/-! ### Prefix lists -/

theorem ensureExclusivePrefixListConsumer_eq_ok {bgp routeMaps fullConfig list peer : Text}
    {consumers : List PrefixListConsumer}
    (h : ensureExclusivePrefixListConsumer bgp routeMaps fullConfig list peer = .ok consumers) :
    consumers = prefixListConsumers bgp routeMaps fullConfig list := by
  simp only [ensureExclusivePrefixListConsumer] at h
  split at h
  · exact (Except.ok.inj h).symm
  · cases h

theorem verifies_prefixList {bgp routeMaps fullConfig output list : Text}
    {entries : List PrefixListEntry}
    (hbgp : table (device, bgpSection) = .ok bgp)
    (hmaps : table (device, routeMapSection) = .ok routeMaps)
    (hfull : table (device, ("show running-config" : Text)) = .ok fullConfig)
    (houtput : table (device, "show ip prefix-list " ++ list) = .ok output)
    (hentries : parsePrefixList output list = .ok entries) :
    Verifies table device (.prefixList list (entries.map prefixEntrySnapshot)
      (prefixListConsumers bgp routeMaps fullConfig list)) := by
  rw [Verifies, verifyState, verifyPrefixList]
  simp only [Reads.answer_bind, answer_decided, answer_showOn, hbgp, hmaps, hfull,
    houtput, hentries, ok_bind, Reads.answer_pure, and_self, decide_true]

/-! ### The export policy of a neighbor -/

/-- A neighbor with a policy on its exports, whose bindings are for another AS than its
attachment. -/
def BoundElsewhere (bgp neighbor : Text) : Prop :=
  ∃ localAsn family kind, proveNeighborContext bgp neighbor = .ok (localAsn, family) ∧
    (scanBindings bgp).asn ≠ some localAsn ∧ attachedNames bgp neighbor family kind ≠ []

section ExportPolicy

variable {bgp routeMaps prefixLists neighbor family : Text} {localAsn : ℕ} {kind : PolicyKind}
  {bindings : List PeerPolicyBinding}

theorem mem_requiredNames {current desired : Option Text} {name : Text} :
    name ∈ requiredNames current desired ↔ current = some name ∨ desired = some name := by
  rw [requiredNames, List.mem_dedup, List.mem_insertionSort, List.mem_append, Option.mem_toList,
    Option.mem_toList]

/-- A policy is matched where it is defined and the definitions are the same. -/
theorem requiredMatch_self {P : Type} [DecidableEq P] {name : P → Text} {required : List Text}
    {policies : List P} (h : ∀ n ∈ required, policies.any (fun p => name p = n) = true) :
    requiredMatch name (some required) policies policies = true := by
  refine List.all_eq_true.mpr fun n hn => ?_
  obtain ⟨p, hp, heq⟩ := List.any_eq_true.mp (h n hn)
  have hsome : (policies.find? fun p => name p = n).isSome = true :=
    List.find?_isSome.mpr ⟨p, hp, heq⟩
  rw [hsome, decide_eq_true rfl]
  rfl

/-- Every binding is for the AS that the scan of the section ends with. -/
theorem localAsn_of_mem_gathered {b : PeerPolicyBinding}
    (h : b ∈ markAmbiguous (gathered localAsn bgp)) :
    b.localAsn = localAsn := by
  obtain ⟨b', hb', rfl⟩ := List.mem_map.mp h
  have hasn : b'.localAsn = localAsn := by
    rcases List.mem_append.mp hb' with hb' | hb'
    · obtain ⟨d, -, rfl⟩ := List.mem_map.mp hb'
      rfl
    · obtain ⟨peer, group, -, p, -, rfl⟩ := mem_inheritedBindings.mp hb'
      rfl
  split
  · exact hasn
  · exact hasn

/-- Without blockers, every policy that is bound is defined. -/
theorem known_of_no_blockers (h : (parseInventory bgp routeMaps prefixLists).blockers = [])
    {b : PeerPolicyBinding} (hb : b ∈ (parseInventory bgp routeMaps prefixLists).peerBindings) :
    b.known (parseInventory bgp routeMaps prefixLists).prefixLists
      (parseInventory bgp routeMaps prefixLists).routeMaps = true := by
  by_contra hunknown
  have hmem : ("dangling_policy_" : Text) ++ b.policyName ∈
      (parseInventory bgp routeMaps prefixLists).blockers := by
    refine List.mem_append_left _
      (List.mem_append_right _ (List.mem_map_of_mem (List.mem_filter.mpr ⟨hb, ?_⟩)))
    exact (Bool.not_eq_true' _).mpr (Bool.eq_false_of_not_eq_true hunknown)
  rw [h] at hmem
  exact absurd hmem List.not_mem_nil

/-- The bindings of an attachment: those of the neighbor in its address family, if they are for its
AS. -/
theorem attachmentBindings_eq {a : ExportPolicyAttachment} {asn : ℕ}
    (hdirect : ¬NotDirect bgp a.neighbor a.addressFamily) :
    attachmentBindings a (markAmbiguous (gathered asn bgp)) =
      if asn = a.localAsn then bindingsOf a.neighbor a.addressFamily
        (markAmbiguous (gathered asn bgp))
      else [] := by
  -- every binding of the neighbor is direct, so the test of the scope filters nothing
  have hscope : ∀ b ∈ bindingsOf a.neighbor a.addressFamily (markAmbiguous (gathered asn bgp)),
      b.scope = .direct := by
    intro b hb
    by_contra hne
    exact hdirect (not_direct_iff.mp (List.any_eq_true.mpr ⟨b, hb, by simpa using hne⟩))
  split
  · rename_i hasn
    refine List.filter_congr fun b hb => ?_
    have hlocal : b.localAsn = a.localAsn := (localAsn_of_mem_gathered hb).trans hasn
    rw [Bool.eq_iff_iff]
    constructor
    · intro h
      simp only [Bool.and_eq_true, decide_eq_true_eq] at h ⊢
      exact ⟨⟨h.1.1.1.1, h.1.1.2⟩, h.1.2⟩
    · intro h
      have hdir := hscope b (List.mem_filter.mpr ⟨hb, h⟩)
      simp only [Bool.and_eq_true, decide_eq_true_eq] at h ⊢
      exact ⟨⟨⟨⟨h.1.1, hlocal⟩, h.1.2⟩, h.2⟩, hdir⟩
  · rename_i hasn
    refine List.filter_eq_nil_iff.mpr fun b hb h => hasn ?_
    simp only [Bool.and_eq_true, decide_eq_true_eq] at h
    exact (localAsn_of_mem_gathered hb).symm.trans h.1.1.1.2

/-- The policy of a kind that the bindings of a neighbor name is the one attached to it. -/
theorem boundPolicy_bindingsOf {asn : ℕ} (hdirect : ¬NotDirect bgp neighbor family) :
    boundPolicy kind (bindingsOf neighbor family (markAmbiguous (gathered asn bgp))) =
      (attachedNames bgp neighbor family kind).head? :=
  (length_names ((names_markAmbiguous neighbor family kind (gathered asn bgp)).trans
    (filter_gathered fun hi => hdirect (Or.inl hi)))).2

/-- A policy that is attached to a neighbor is defined. -/
theorem defined_of_attached (hblockers : (parseInventory bgp routeMaps prefixLists).blockers = [])
    (hdirect : ¬NotDirect bgp neighbor family) {name : Text}
    (h : (attachedNames bgp neighbor family kind).head? = some name) :
    policyDefined kind name (attachedPolicy bgp routeMaps prefixLists neighbor localAsn family) =
      true := by
  obtain ⟨asn, -, hbindings⟩ := asn_of_no_blockers hblockers
  rw [← @boundPolicy_bindingsOf bgp neighbor family kind asn hdirect, boundPolicy,
    Option.map_eq_some_iff] at h
  obtain ⟨b, hfind, rfl⟩ := h
  have hmem := List.mem_of_find?_eq_some hfind
  have hkind : b.policyKind = kind := by simpa using List.find?_some hfind
  have hknown := known_of_no_blockers hblockers (hbindings ▸ List.mem_of_mem_filter hmem)
  rw [PeerPolicyBinding.known, hkind] at hknown
  cases kind
  · exact hknown
  · exact hknown

/-- The policies an action needs are defined, of either kind. -/
theorem requiredMatch_requirePolicies {desiredName : Text}
    (hblockers : (parseInventory bgp routeMaps prefixLists).blockers = [])
    (hdirect : ¬NotDirect bgp neighbor family)
    (hdefined : policyDefined kind desiredName
      (attachedPolicy bgp routeMaps prefixLists neighbor localAsn family) = true) :
    let read := attachedPolicy bgp routeMaps prefixLists neighbor localAsn family
    let desired := desiredPolicies kind desiredName read
    requiredMatch NamedPrefixList.name (some (requiredNames read.prefixList desired.1))
    read.prefixLists
        read.prefixLists = true ∧
      requiredMatch NamedRouteMap.name (some (requiredNames read.routeMap desired.2)) read.routeMaps
        read.routeMaps = true := by
  have hattached : ∀ kind name, (attachedNames bgp neighbor family kind).head? = some name →
      policyDefined kind name (attachedPolicy bgp routeMaps prefixLists neighbor localAsn family) =
      true :=
    fun kind name h => defined_of_attached hblockers hdirect h
  refine ⟨requiredMatch_self fun n hn => ?_, requiredMatch_self fun n hn => ?_⟩
  · rcases mem_requiredNames.mp hn with hn | hn
    · exact hattached .prefixList n hn
    · cases kind with
      | prefixList =>
        cases hn
        exact hdefined
      | routeMap => exact hattached .prefixList n hn
  · rcases mem_requiredNames.mp hn with hn | hn
    · exact hattached .routeMap n hn
    · cases kind with
      | prefixList => exact hattached .routeMap n hn
      | routeMap =>
        cases hn
        exact hdefined

/-- **When the inventory shows the attachment it was read off.** -/
theorem inventoryShows_iff {desiredName : Text} {read : ExportPolicyAttachment}
    (hread : readExportPolicy bgp routeMaps prefixLists neighbor = .ok read)
    (hdefined : policyDefined kind desiredName read = true) :
    inventoryShows (parseInventory bgp routeMaps prefixLists)
        (requirePolicies read (desiredPolicies kind desiredName read)) = true ↔
      ¬BoundElsewhere bgp neighbor := by
  obtain ⟨hblockers, localAsn, family, hcontext, hdirect, rfl⟩ := readExportPolicy_eq_ok.mp hread
  obtain ⟨asn, hasn, hbindings⟩ := asn_of_no_blockers hblockers
  have hrequired := requiredMatch_requirePolicies hblockers hdirect hdefined
  -- the AS is fixed by the context, and the family with it
  have hbound : BoundElsewhere bgp neighbor ↔
      asn ≠ localAsn ∧ ∃ kind, attachedNames bgp neighbor family kind ≠ [] := by
    constructor
    · rintro ⟨localAsn', family', kind', hcontext', hne, hattached⟩
      obtain ⟨rfl, rfl⟩ := Prod.mk.inj (Except.ok.inj (hcontext.symm.trans hcontext'))
      exact ⟨fun heq => hne (heq ▸ hasn), kind', hattached⟩
    · rintro ⟨hne, kind', hattached⟩
      exact ⟨localAsn, family, kind', hcontext,
        fun heq => hne (Option.some.inj (hasn.symm.trans heq)), hattached⟩
  have hshows : inventoryShows (parseInventory bgp routeMaps prefixLists)
      (requirePolicies (attachedPolicy bgp routeMaps prefixLists neighbor localAsn family)
        (desiredPolicies kind desiredName
          (attachedPolicy bgp routeMaps prefixLists neighbor localAsn family))) = true ↔
      ∀ kind, boundPolicy kind (if asn = localAsn then
        bindingsOf neighbor family (markAmbiguous (gathered asn bgp)) else []) =
          (attachedNames bgp neighbor family kind).head? := by
    have hattachment := @attachmentBindings_eq bgp
      (requirePolicies (attachedPolicy bgp routeMaps prefixLists neighbor localAsn family)
        (desiredPolicies kind desiredName
          (attachedPolicy bgp routeMaps prefixLists neighbor localAsn family))) asn hdirect
    rw [inventoryShows, hbindings, hattachment, hblockers]
    simp only [List.isEmpty_nil, Bool.true_and, Bool.and_eq_true, decide_eq_true_eq]
    constructor
    · rintro ⟨⟨⟨hlist, hmap⟩, -⟩, -⟩ kind'
      cases kind' with
      | prefixList => exact hlist
      | routeMap => exact hmap
    · intro h
      exact ⟨⟨⟨h .prefixList, h .routeMap⟩, hrequired.1⟩, hrequired.2⟩
  rw [hshows, hbound]
  -- the inventory was taken under the AS of the context, or under another one
  by_cases heq : asn = localAsn
  · rw [if_pos heq]
    exact iff_of_true (fun kind' => boundPolicy_bindingsOf hdirect) fun h => h.1 heq
  · rw [if_neg heq]
    constructor
    · rintro h ⟨-, kind', hattached⟩
      exact hattached (List.head?_eq_none_iff.mp (h kind').symm)
    · intro h kind'
      by_contra hne
      refine h ⟨heq, kind', fun hnil => hne ?_⟩
      rw [hnil]
      rfl

/-- An action on the exports of a neighbor starts from the attachment, with the policies it
needs. -/
theorem before_prepareExportPolicy {input : PrepareInput} {desiredName : Text} {mode : PlanMode}
    {read : ExportPolicyAttachment} {a : PreparedDeviceAction}
    (h : prepareExportPolicy input neighbor kind desiredName read mode = .ok a) :
    policyDefined kind desiredName read = true ∧ a.device = input.device ∧
      a.before = [.exportPolicyAttachment
        (requirePolicies read (desiredPolicies kind desiredName read))] := by
  simp only [prepareExportPolicy] at h
  split at h
  · cases h
  · rename_i hdefined
    obtain ⟨evidence, -, h⟩ := bind_eq_ok.mp h
    obtain rfl := eq_of_checked h
    exact ⟨by simpa using hdefined, rfl, rfl⟩

theorem verifies_exportPolicy {desiredName : Text} {read : ExportPolicyAttachment}
    (hread : Reads.answer table (readExportAttachment device neighbor) = .ok read)
    (hdefined : policyDefined kind desiredName read = true) :
    Verifies table device (.exportPolicyAttachment
        (requirePolicies read (desiredPolicies kind desiredName read))) ↔
      ∀ bgp, table (device, bgpSection) = .ok bgp → ¬BoundElsewhere bgp neighbor := by
  simp only [readExportAttachment, Reads.answer_bind, answer_decided, answer_showOn] at hread
  obtain ⟨bgp, hbgp, hread⟩ := bind_eq_ok.mp hread
  obtain ⟨routeMaps, hmaps, hread⟩ := bind_eq_ok.mp hread
  obtain ⟨prefixLists, hlists, hread⟩ := bind_eq_ok.mp hread
  rw [Verifies, verifyState, verifyExportPolicy]
  simp only [Reads.answer_bind, answer_showOn, hbgp, hmaps, hlists, ok_bind, Reads.answer_pure,
    Except.ok.injEq, forall_eq']
  exact inventoryShows_iff hread hdefined

end ExportPolicy

/-! ### The states before an action -/

/-- What a preparation reads otherwise than its verification. -/
def Misread (table : Show → Except Text Text) (t : Template) (device : ℕ)
    (subst : NameMap Text) : Prop :=
  match templateKind t.name with
  | some .staticRoute =>
    ∃ cidr, subst[("prefix" : Text)]? = some cidr ∧ RoutedElsewhere table device cidr "Null0"
  | some .routeMap => ∃ localAsn output, substNumber subst "local_asn" = .ok localAsn ∧
      table (device, bgpSection) = .ok output ∧ hasRouterLine output localAsn = false
  | some .exportPolicy => ∃ neighbor bgp, subst[("neighbor_ip" : Text)]? = some neighbor ∧
      table (device, bgpSection) = .ok bgp ∧ BoundElsewhere bgp neighbor
  | _ => False

section Before

variable {t : Template} {r : PrepareRequest} {subst : NameMap Text} {a : PreparedDeviceAction}

/-- The states before an action, against the table they were read from. -/
def BeforeVerifies (table : Show → Except Text Text) (a : PreparedDeviceAction) : Prop :=
  Reads.answer table (verifyCurrent a.device a.before) = .ok true

theorem desiredRoute_cidr {desired : StaticRoute} (h : desiredRoute t subst = .ok desired) :
    subst[("prefix" : Text)]? = some desired.cidr := by
  obtain ⟨cidr, hcidr, h⟩ := bind_eq_ok.mp h
  obtain ⟨tag, -, h⟩ := bind_eq_ok.mp h
  cases h
  exact okOr_eq_ok.mp hcidr

theorem before_prepareStaticRoute {rtbh : ℕ → Option Text}
    (h : Reads.answer table (prepareStaticRoute rtbh t r subst ∅) = .ok a) :
    BeforeVerifies table a ↔ ¬∃ cidr, subst[("prefix" : Text)]? = some cidr ∧
      RoutedElsewhere table r.device cidr "Null0" := by
  obtain ⟨desired, before, current, resolution, bgp, plan, inverse, hdesired, hbefore, -,
    hresolution, hbgp, -, -, h⟩ := of_prepareStaticRoute h
  obtain rfl := eq_of_checked h
  have hbgp : Reads.answer table (verifyCurrent r.device bgp.1) = .ok true := by
    rcases of_bgpRouteStates hbgp with ⟨-, rfl⟩ | ⟨tag, community, entry, -, -, hentry, rfl⟩
    · rfl
    · exact verifyCurrent_cons.mpr ⟨verifies_readBgpRoute hentry.read, rfl⟩
  simp only [desiredRoute_cidr hdesired, Option.some.injEq, exists_eq_left']
  rw [← verifies_readRouteResolution hresolution.read]
  change Reads.answer table (verifyCurrent r.device (before :: resolution :: bgp.1)) = .ok true ↔ _
  rw [verifyCurrent_cons, verifyCurrent_cons]
  exact ⟨fun hall => hall.2.1, fun hres => ⟨verifies_readStaticRoute hbefore.read, hres, hbgp⟩⟩

theorem before_prepareNeighborShutdown
    (h : Reads.answer table (prepareNeighborShutdown t r subst ∅) = .ok a) :
    BeforeVerifies table a := by
  obtain ⟨neighbor, localAsn, before, current, session, plan, -, -, hbefore, -, hsession, -, h⟩ :=
    of_prepareNeighborShutdown h
  obtain rfl := eq_of_checked h
  exact verifyCurrent_cons.mpr ⟨verifies_readNeighborShutdown hbefore.read,
    verifyCurrent_cons.mpr ⟨verifies_readNeighborState hsession.read, rfl⟩⟩

theorem before_prepareRouteMapAction
    (h : Reads.answer table (prepareRouteMapAction r subst ∅) = .ok a) :
    BeforeVerifies table a ↔ ¬∃ localAsn output, substNumber subst "local_asn" = .ok localAsn ∧
      table (r.device, bgpSection) = .ok output ∧ hasRouterLine output localAsn = false := by
  obtain ⟨neighbor, localAsn, direction, requested, output, family, before, current, -, hasn, -,
    -, houtput, -, hbefore, -, h⟩ := of_prepareRouteMapAction h
  have hline := verifies_readRouteMap houtput hbefore.read
  simp only [hasn, houtput, Except.ok.injEq, exists_eq_left', exists_and_left, Bool.not_eq_false]
  simp only [routeMapAction] at h
  split at h
  · cases h
  · obtain rfl := eq_of_checked h
    rw [← hline]
    change Reads.answer table (verifyCurrent r.device [before]) = .ok true ↔ _
    rw [verifyCurrent_cons, and_iff_left verifyCurrent_nil]

theorem before_prepareExportPolicyAction {mode : PlanMode}
    (h : Reads.answer table (prepareExportPolicyAction mode r subst ∅) = .ok a) :
    BeforeVerifies table a ↔ ¬∃ neighbor bgp, subst[("neighbor_ip" : Text)]? = some neighbor ∧
      table (r.device, bgpSection) = .ok bgp ∧ BoundElsewhere bgp neighbor := by
  obtain ⟨neighbor, kindName, kind, desiredName, read, hneighbor, -, -, -, hread, h⟩ :=
    of_prepareExportPolicyAction h
  obtain ⟨hdefined, hdevice, hbefore⟩ := before_prepareExportPolicy h
  have hverifies := @verifies_exportPolicy table r.device neighbor kind desiredName read
    hread hdefined
  simp only [okOr_eq_ok.mp hneighbor, Option.some.injEq, exists_and_left, exists_eq_left',
    not_exists, not_and]
  rw [← hverifies, BeforeVerifies, hdevice, hbefore, verifyCurrent_cons,
    and_iff_left verifyCurrent_nil]
  rfl

theorem before_prepareInterfaceMss
    (h : Reads.answer table (prepareInterfaceMss t r subst ∅) = .ok a) :
    BeforeVerifies table a := by
  obtain ⟨interface, desired, before, current, plan, -, -, hbefore, -, -, h⟩ :=
    of_prepareInterfaceMss h
  obtain rfl := eq_of_checked h
  exact verifyCurrent_cons.mpr ⟨verifies_readInterfaceMss hbefore.read, rfl⟩

theorem before_prepareInterfaceAdmin
    (h : Reads.answer table (prepareInterfaceAdmin t r subst ∅) = .ok a) :
    BeforeVerifies table a := by
  obtain ⟨interface, before, current, operational, plan, -, hbefore, -, hoperational, -, -, h⟩ :=
    of_prepareInterfaceAdmin h
  obtain rfl := eq_of_checked h
  exact verifyCurrent_cons.mpr ⟨verifies_readInterfaceAdmin hbefore.read,
    verifyCurrent_cons.mpr ⟨verifies_readInterfaceOperational hoperational.read, rfl⟩⟩

theorem before_preparePrefixList
    (h : Reads.answer table (preparePrefixList t r subst [] ∅) = .ok a) :
    BeforeVerifies table a := by
  obtain ⟨list, peer, bgp, routeMaps, fullConfig, neighbor, output, cidr, consumers, -, -, hbgp,
    hmaps, hfull, hneighbor, houtput, -, hestablished, hconsumers, h⟩ := of_preparePrefixList h
  obtain ⟨entries, left, hentries, hdevice, -, hbefore, -, -⟩ := of_preparePrefixListAction h
  obtain rfl := ensureExclusivePrefixListConsumer_eq_ok hconsumers
  have hshown : table (r.device, "show ip bgp neighbors " ++ peer) = .ok neighbor := by
    simpa [neighborOutput] using hneighbor
  have hlist : table (r.device, "show ip prefix-list " ++ list) = .ok output := by
    simpa [listOutput] using houtput
  rw [BeforeVerifies, hdevice, hbefore]
  exact verifyCurrent_cons.mpr ⟨verifies_prefixList hbgp hmaps hfull hlist hentries,
    verifyCurrent_cons.mpr ⟨verifies_establishedNeighbor hshown hestablished, rfl⟩⟩

/-- **Against the table it was prepared from, an action is verified unless something was
misread.** -/
theorem before_plannerOf {rtbh : ℕ → Option Text} {mode : PlanMode}
    (h : Reads.answer table (plannerOf rtbh mode [] ∅ t r subst) = .ok a) :
    BeforeVerifies table a ↔ ¬Misread table t r.device subst := by
  unfold plannerOf at h
  unfold Misread
  split at h
  · rename_i hkind
    simp only [hkind, not_false_eq_true, iff_true]
    exact before_preparePrefixList h
  · rename_i hkind
    simp only [hkind]
    exact before_prepareStaticRoute h
  · rename_i hkind
    simp only [hkind, not_false_eq_true, iff_true]
    exact before_prepareNeighborShutdown h
  · rename_i hkind
    simp only [hkind]
    exact before_prepareRouteMapAction h
  · rename_i hkind
    simp only [hkind]
    exact before_prepareExportPolicyAction h
  · rename_i hkind
    simp only [hkind, not_false_eq_true, iff_true]
    exact before_prepareInterfaceMss h
  · rename_i hkind
    simp only [hkind, not_false_eq_true, iff_true]
    exact before_prepareInterfaceAdmin h
  · cases h

end Before

/-- **What is read is verified**: against the outputs an action was prepared from, the states before
it are verified when its routing entry, its router line and its bindings are read as they are
verified. -/
theorem verifies_before_iff (load : Text → Except Text Template) (rtbh : ℕ → Option Text)
    (mode : PlanMode)
    (table : Show → Except Text Text) (r : PrepareRequest) (a : PreparedDeviceAction)
    (h : Reads.answer table (prepareActions load rtbh mode [r]) = .ok [a]) :
    Reads.answer table (verifyCurrent a.device a.before) = .ok true ↔
      ∀ t subst, Loaded load r t subst → ¬Misread table t r.device subst := by
  simp only [prepareActions, prepareFrom, Reads.answer_bind, Reads.answer_pure] at h
  obtain ⟨b, hb, h⟩ := bind_eq_ok.mp h
  cases h
  obtain ⟨t, subst, c, hloaded, -, hc, rfl⟩ := of_prepareAction hb
  refine (before_plannerOf hc).trans ⟨fun hnot t' subst' hloaded' => ?_,
    fun hall => hall t subst hloaded⟩
  obtain rfl := Except.ok.inj (hloaded.load.symm.trans hloaded'.load)
  obtain rfl := Except.ok.inj (hloaded.expand.symm.trans hloaded'.expand)
  exact hnot

/-! ### A route that is misread -/

/-- A null route for a network that the router has from a BGP neighbor. -/
def nullRouteRequest : PrepareRequest :=
  { device := 1
    templateId := 1
    templateName := "null_route_prefix"
    params := (∅ : Params).insert "prefix" (.string "198.51.100.0/24")
    identified := by decide }

/-- The outputs of that router: no static route, and a routing entry through the neighbor. -/
def routedByBgp (s : Show) : Except Text Text :=
  if s.2 = ("show ip route 198.51.100.0" : Text) then
    .ok ("Routing entry for 198.51.100.0/24\n".toList ++
      "  Known via \"bgp 65000\"\n  * 192.0.2.1, from 192.0.2.1")
  else .ok []

/-- The outputs of a router that has the network from no one. -/
def routedByNone (s : Show) : Except Text Text :=
  if s.2 = ("show ip route 198.51.100.0" : Text) then .ok "% Network not in table" else .ok []

/-- Whether one action is prepared, and what its verification says. -/
def preparedAgainst (table : Show → Except Text Text) (r : PrepareRequest) :
    Option (Except Text Bool) :=
  match Reads.answer table (prepareActions loadTemplate (fun _ => none) .routing [r]) with
  | .ok [a] => some (Reads.answer table (verifyCurrent a.device a.before))
  | _ => none

theorem exists_of_preparedAgainst {r : PrepareRequest} {verdict : Except Text Bool}
    (h : preparedAgainst table r = some verdict) : ∃ a,
      Reads.answer table (prepareActions loadTemplate (fun _ => none) .routing [r]) = .ok [a] ∧
        Reads.answer table (verifyCurrent a.device a.before) = verdict := by
  unfold preparedAgainst at h
  split at h
  · rename_i a ha
    exact ⟨a, ha, Option.some.inj h⟩
  · cases h

/-- The action on a network that is routed elsewhere is prepared, and not verified. -/
theorem not_verifies_before :
    ¬∀ (load : Text → Except Text Template) (rtbh : ℕ → Option Text) (mode : PlanMode)
    (table : Show → Except Text Text) (r : PrepareRequest) (a : PreparedDeviceAction),
    Reads.answer table (prepareActions load rtbh mode [r]) = .ok [a] →
      Reads.answer table (verifyCurrent a.device a.before) = .ok true := by
  intro hall
  have hrun : preparedAgainst routedByBgp nullRouteRequest = some (.ok false) := by decide +kernel
  obtain ⟨a, ha, hverdict⟩ := exists_of_preparedAgainst hrun
  have htrue := hall loadTemplate (fun _ => none) .routing routedByBgp nullRouteRequest a ha
  rw [hverdict] at htrue
  cases htrue

theorem verifies_before_iff_routedByNone : ∃ a,
    Reads.answer routedByNone (prepareActions loadTemplate
      (fun _ => none) .routing [nullRouteRequest]) = .ok [a] ∧
      (Reads.answer routedByNone (verifyCurrent a.device a.before) = .ok true ↔
        ∀ t subst, Loaded loadTemplate nullRouteRequest t subst →
          ¬Misread routedByNone t nullRouteRequest.device subst) := by
  have hrun : preparedAgainst routedByNone nullRouteRequest = some (.ok true) := by decide +kernel
  obtain ⟨a, ha, -⟩ := exists_of_preparedAgainst hrun
  exact ⟨a, ha, verifies_before_iff loadTemplate (fun _ => none) .routing routedByNone
    nullRouteRequest a ha⟩

end Rerouter
