import Rerouter.PolicyInventory

/-!
# Export policies that come from a peer group

A peer that is a member of a peer group exports through the policies of the group. An action must
not attach a policy to such a peer: `prepare_export_policy` refuses it, when it sees a binding of
the peer that is not direct.

`Rerouter.neighborLines` is what a BGP section says, and nothing of how it is read: its neighbor
statements, each with the address family it stands in. `Rerouter.InheritsExportPolicy` is stated
on it. The scan of the section ends with the last group of each peer and the policies of each group
(`Rerouter.memberships_scan`, `Rerouter.groups_scan`), and labels what it makes of them `ipv4`, in
whatever address family the policies stand. The filter on the family of the neighbor therefore
keeps the inherited bindings of a neighbor under `address-family ipv4`, and drops those of a
neighbor that is configured without address families:
`Rerouter.prepareExportPolicyFrom_error_iff`.
-/

namespace Rerouter

open Text Ipv4 Gather

/-! ### What a section says -/

/-- The neighbor statements of some lines, each with the address family it stands in. -/
def scopedStatements : Text → List BgpLine → List (Text × List Text)
  | _, [] => []
  | _, .family v :: ls => scopedStatements (familyOf v) ls
  | _, .exitFamily :: ls => scopedStatements globalFamily ls
  | family, .neighbor words :: ls => (family, words) :: scopedStatements family ls
  | family, .router _ :: ls => scopedStatements family ls
  | family, .other :: ls => scopedStatements family ls

/-- The neighbor statements of a section. -/
def neighborLines (bgp : Text) : List (Text × List Text) :=
  scopedStatements globalFamily (bgpLines bgp)

/-- **A peer inherits an export policy**: it is a member of a group, and the group carries an
outbound prefix list or route map in the address family of the peer. -/
def InheritsExportPolicy (bgp peer : Text) : Prop :=
  ∃ family group memberFamily verb name : Text,
    (family = globalFamily ∨ family = ("ipv4" : Text)) ∧
    (memberFamily = globalFamily ∨ memberFamily = family) ∧
    (verb = ("prefix-list" : Text) ∨ verb = ("route-map" : Text)) ∧ isIpv4 group = false ∧
    (memberFamily, ([peer, "peer-group", group] : List Text)) ∈ neighborLines bgp ∧
    (family, ([group, verb, name, "out"] : List Text)) ∈ neighborLines bgp

/-- The policy of a group that a statement carries. -/
def groupPolicyOf (l : Text × List Text) : Option (Text × PolicyKind × Text) :=
  (outboundOf l.2).bind fun p =>
    if l.1 = ("unsupported" : Text) ∨ isIpv4 p.1 = true then none else some p

/-- The policy that a statement attaches to a peer. -/
def directPolicyOf (l : Text × List Text) : Option (Text × PolicyKind × Text × Text) :=
  (outboundOf l.2).bind fun p =>
    if l.1 = ("unsupported" : Text) then none
    else (parseAddr p.1).map fun ip => (addrText ip, p.2.1, p.2.2, l.1)

/-- The group of a peer, by the last statement that gives it one. -/
def lastGroup (bgp peer : Text) : Option Text :=
  (valuesOf (fun l => membershipOf l.2) peer (neighborLines bgp)).getLast?

/-- The policies of a group. -/
def groupPolicies (bgp group : Text) : List (PolicyKind × Text) :=
  valuesOf groupPolicyOf group (neighborLines bgp)

/-- The policies attached to the peers of a section. -/
def directPolicies (bgp : Text) : List (Text × PolicyKind × Text × Text) :=
  (neighborLines bgp).filterMap directPolicyOf

/-- The policies of a kind that are attached to a peer in an address family. -/
def attachedNames (bgp peer family : Text) (kind : PolicyKind) : List Text :=
  ((directPolicies bgp).filter fun d => d.1 = peer && d.2.2.2 = family && d.2.1 = kind).map fun d =>
    d.2.2.1

/-- The group a peer ends with carries a policy. -/
def LastGroupCarries (bgp peer : Text) : Prop :=
  ∃ group, lastGroup bgp peer = some group ∧ groupPolicies bgp group ≠ []

/-! ### What a scan ends with -/

theorem membershipOf_of_outboundOf {words : List Text} {p : Text × PolicyKind × Text}
    (h : outboundOf words = some p) : membershipOf words = none := by
  unfold outboundOf at h
  split at h
  · rfl
  · cases h

/-- What one outbound policy adds. -/
theorem BindingScan.outbound_spec (st : BindingScan) (words : List Text)
    (p : Text × PolicyKind × Text) (h : outboundOf words = some p) :
    (st.outbound p.1 p.2.1 p.2.2).memberships = st.memberships ∧
      (st.outbound p.1 p.2.1 p.2.2).groups = push st.groups (groupPolicyOf (st.family, words)) ∧
        (st.outbound p.1 p.2.1 p.2.2).direct =
        st.direct ++ (directPolicyOf (st.family, words)).toList ∧
          (st.outbound p.1 p.2.1 p.2.2).family = st.family := by
  rw [groupPolicyOf, directPolicyOf, h, Option.bind_some, Option.bind_some, BindingScan.outbound]
  by_cases hfamily : st.family = ("unsupported" : Text)
  · rw [if_pos hfamily, if_pos (Or.inl hfamily), if_pos hfamily]
    exact ⟨rfl, rfl, (List.append_nil _).symm, rfl⟩
  · rw [if_neg hfamily, if_neg hfamily]
    cases hip : parseAddr p.1 with
    | none =>
      have hgroup : ¬(st.family = ("unsupported" : Text) ∨ isIpv4 p.1 = true) := by
        rintro (hf | ha)
        · exact hfamily hf
        · rw [isIpv4, hip] at ha
          cases ha
      rw [if_neg hgroup]
      exact ⟨rfl, rfl, (List.append_nil _).symm, rfl⟩
    | some ip =>
      have hpeer : isIpv4 p.1 = true := by rw [isIpv4, hip]; rfl
      rw [if_pos (Or.inr hpeer)]
      exact ⟨rfl, rfl, rfl, rfl⟩

/-- What one neighbor statement adds. -/
theorem BindingScan.neighbor_spec (st : BindingScan) (words : List Text) :
    (st.neighbor words).memberships = put st.memberships (membershipOf words) ∧
      (st.neighbor words).groups = push st.groups (groupPolicyOf (st.family, words)) ∧
        (st.neighbor words).direct = st.direct ++ (directPolicyOf (st.family, words)).toList ∧
          (st.neighbor words).family = st.family := by
  rw [BindingScan.neighbor]
  cases hout : outboundOf words with
  | none =>
    rw [groupPolicyOf, directPolicyOf, hout]
    exact ⟨rfl, rfl, (List.append_nil _).symm, rfl⟩
  | some p =>
    rw [membershipOf_of_outboundOf hout]
    exact st.outbound_spec words p hout

/-- What a run of lines adds. -/
theorem foldl_bindingScan (ls : List BgpLine) (st : BindingScan) :
    (ls.foldl BindingScan.read st).memberships =
        (scopedStatements st.family ls).foldl (fun m l => put m (membershipOf l.2)) st.memberships ∧
      (ls.foldl BindingScan.read st).groups =
          (scopedStatements st.family ls).foldl (fun m l => push m (groupPolicyOf l)) st.groups ∧
        (ls.foldl BindingScan.read st).direct =
          st.direct ++ (scopedStatements st.family ls).filterMap directPolicyOf := by
  induction ls generalizing st with
  | nil => exact ⟨rfl, rfl, (List.append_nil _).symm⟩
  | cons l ls ih =>
    rw [List.foldl_cons]
    cases l with
    | router v => exact ih _
    | family v => exact ih { st with family := familyOf v }
    | exitFamily => exact ih { st with family := globalFamily }
    | other => exact ih st
    -- only a neighbor statement adds entries; the other lines move the address family at most
    | neighbor words =>
      obtain ⟨hmembers, hgroups, hdirect, hfamily⟩ := st.neighbor_spec words
      obtain ⟨ihmembers, ihgroups, ihdirect⟩ := ih (st.neighbor words)
      rw [hfamily] at ihmembers ihgroups ihdirect
      refine ⟨?_, ?_, ?_⟩
      · rw [BindingScan.read, ihmembers, hmembers]
        rfl
      · rw [BindingScan.read, ihgroups, hgroups]
        rfl
      · rw [BindingScan.read, ihdirect, hdirect, List.append_assoc, scopedStatements]
        cases hd : directPolicyOf (st.family, words) <;> simp [hd]

/-- **A scan ends with the last group of each peer.** -/
theorem memberships_scan (bgp peer : Text) :
    (scanBindings bgp).memberships[peer]? = lastGroup bgp peer := by
  rw [scanBindings, (foldl_bindingScan _ _).1, getElem?_foldl_put]
  simp [lastGroup, neighborLines]

/-- **A scan ends with the policies of each group**, in their order. -/
theorem groups_scan {bgp group : Text} {policies : List (PolicyKind × Text)} :
    (scanBindings bgp).groups[group]? = some policies ↔
      groupPolicies bgp group ≠ [] ∧ groupPolicies bgp group = policies := by
  have hgroups := (foldl_bindingScan (bgpLines bgp) ⟨none, globalFamily, [], ∅, ∅, []⟩).2.1
  rw [scanBindings, hgroups, getElem?_foldl_push]
  change (if groupPolicies bgp group = [] then _ else _) = _ ↔ _
  split
  · rename_i hnil
    constructor
    · rintro ⟨⟩
    · rintro ⟨hne, -⟩
      exact absurd hnil hne
  · rename_i hne
    change some (([] : List (PolicyKind × Text)) ++ groupPolicies bgp group) = some policies ↔ _
    rw [List.nil_append, Option.some_inj]
    exact ⟨fun h => ⟨hne, h⟩, And.right⟩

theorem direct_scan (bgp : Text) : (scanBindings bgp).direct = directPolicies bgp := by
  rw [scanBindings, (foldl_bindingScan _ _).2.2]
  rfl

/-! ### The bindings of a peer -/

/-- The bindings before the ambiguous ones are marked. -/
def gathered (localAsn : ℕ) (bgp : Text) : List PeerPolicyBinding :=
  directBindings localAsn (scanBindings bgp) ++ inheritedBindings localAsn (scanBindings bgp)

/-- Whether a binding is for a kind of policy, on the exports of a peer in an address family. -/
def PeerPolicyBinding.isFor (peer family : Text) (kind : PolicyKind)
    (b : PeerPolicyBinding) : Bool :=
  b.neighborIp = peer && b.addressFamily = family && b.direction = ("out" : Text) && b.policyKind =
    kind

variable {bgp peer family : Text} {localAsn : ℕ} {kind : PolicyKind} {b : PeerPolicyBinding}

/-- An inherited binding is for the members of the group, and says `ipv4`. -/
theorem mem_inheritedBindings : b ∈ inheritedBindings localAsn (scanBindings bgp) ↔
    ∃ peer group, lastGroup bgp peer = some group ∧ ∃ p ∈ groupPolicies bgp group,
      b = ⟨peer, localAsn, "ipv4", "out", p.1, p.2,
        if (groupPolicies bgp group).length = 1 then .inherited else .ambiguous⟩ := by
  rw [inheritedBindings, List.mem_flatMap]
  constructor
  · rintro ⟨⟨peer, group⟩, hm, hb⟩
    rw [Std.TreeMap.mem_toList_iff_getElem?_eq_some, memberships_scan] at hm
    dsimp only at hb
    cases hpolicies : (scanBindings bgp).groups[group]? with
    | none =>
      rw [hpolicies] at hb
      exact absurd hb List.not_mem_nil
    | some policies =>
      rw [hpolicies] at hb
      obtain ⟨-, rfl⟩ := groups_scan.mp hpolicies
      obtain ⟨p, hp, rfl⟩ := List.mem_map.mp hb
      exact ⟨peer, group, hm, p, hp, rfl⟩
  · rintro ⟨peer, group, hm, p, hp, rfl⟩
    refine ⟨(peer, group), ?_, ?_⟩
    · rw [Std.TreeMap.mem_toList_iff_getElem?_eq_some, memberships_scan]
      exact hm
    · have hgroups := groups_scan.mpr ⟨List.ne_nil_of_mem hp, rfl⟩
      dsimp only
      rw [hgroups]
      exact List.mem_map.mpr ⟨p, hp, rfl⟩

/-- **The exports of a peer have an inherited binding in one address family only.** -/
theorem exists_inherited_iff : (∃ b ∈ inheritedBindings localAsn (scanBindings bgp),
    b.neighborIp = peer ∧ b.addressFamily = family ∧ b.direction = ("out" : Text)) ↔
      family = ("ipv4" : Text) ∧ LastGroupCarries bgp peer := by
  constructor
  · rintro ⟨b, hb, rfl, rfl, -⟩
    obtain ⟨peer, group, hm, p, hp, rfl⟩ := mem_inheritedBindings.mp hb
    exact ⟨rfl, group, hm, List.ne_nil_of_mem hp⟩
  · rintro ⟨rfl, group, hm, hne⟩
    obtain ⟨p, hp⟩ := List.exists_mem_of_ne_nil _ hne
    exact ⟨_, mem_inheritedBindings.mpr ⟨peer, group, hm, p, hp, rfl⟩, rfl, rfl, rfl⟩

theorem scope_of_mem_inheritedBindings (h : b ∈ inheritedBindings localAsn (scanBindings bgp)) :
    b.scope ≠ .direct := by
  obtain ⟨peer, group, -, p, -, rfl⟩ := mem_inheritedBindings.mp h
  dsimp only
  split <;> decide

theorem scope_of_mem_directBindings (h : b ∈ directBindings localAsn (scanBindings bgp)) :
    b.scope = .direct := by
  obtain ⟨d, -, rfl⟩ := List.mem_map.mp h
  rfl

/-- The direct bindings of a peer are the policies attached to it. -/
theorem filter_directBindings : ((directBindings localAsn (scanBindings bgp)).filter
    (PeerPolicyBinding.isFor peer family kind)).map PeerPolicyBinding.policyName =
      attachedNames bgp peer family kind := by
  rw [directBindings, direct_scan, List.filter_map, List.map_map, attachedNames]
  congr 1
  refine List.filter_congr fun d _ => ?_
  simp [PeerPolicyBinding.isFor]

/-- Where a peer inherits nothing, the bindings of a kind are the policies attached to it. -/
theorem filter_gathered (h : ¬(family = ("ipv4" : Text) ∧ LastGroupCarries bgp peer)) :
    ((gathered localAsn bgp).filter (PeerPolicyBinding.isFor peer family kind)).map
      PeerPolicyBinding.policyName = attachedNames bgp peer family kind := by
  have hnone : (inheritedBindings localAsn (scanBindings bgp)).filter
      (PeerPolicyBinding.isFor peer family kind) = [] := by
    rw [List.filter_eq_nil_iff]
    intro b hb hfor
    simp only [PeerPolicyBinding.isFor, Bool.and_eq_true, decide_eq_true_eq] at hfor
    exact h (exists_inherited_iff.mp ⟨b, hb, hfor.1.1.1, hfor.1.1.2, hfor.1.2⟩)
  rw [gathered, List.filter_append, hnone, List.append_nil, filter_directBindings]

/-! ### Marking what is ambiguous -/

/-- A binding after the ambiguous ones are marked. -/
def marked (bindings : List PeerPolicyBinding) (b : PeerPolicyBinding) : PeerPolicyBinding :=
  if 1 < bindings.countP fun other => other.samePlace b then { b with scope := .ambiguous } else b

variable {bindings : List PeerPolicyBinding}

theorem marked_eq (b : PeerPolicyBinding) :
    marked bindings b = { b with scope := (marked bindings b).scope } := by
  rw [marked]
  split <;> rfl

/-- The names of a kind are those from before. -/
theorem names_markAmbiguous (peer family : Text) (kind : PolicyKind)
    (bindings : List PeerPolicyBinding) :
    ((bindingsOf peer family (markAmbiguous bindings)).filter fun b => b.policyKind = kind).map
      PeerPolicyBinding.policyName =
        (bindings.filter (PeerPolicyBinding.isFor peer family kind)).map
        PeerPolicyBinding.policyName := by
  have hfor : (PeerPolicyBinding.isFor peer family kind) ∘ marked bindings =
      PeerPolicyBinding.isFor peer family kind := by
    funext b
    rw [Function.comp_apply, marked_eq]
    rfl
  have hname : PeerPolicyBinding.policyName ∘ marked bindings = PeerPolicyBinding.policyName := by
    funext b
    rw [Function.comp_apply, marked_eq]
  have hfilter : (bindingsOf peer family (markAmbiguous bindings)).filter
    (fun b => b.policyKind = kind) =
      (bindings.map (marked bindings)).filter (PeerPolicyBinding.isFor peer family kind) := by
    rw [bindingsOf, List.filter_filter]
    refine List.filter_congr fun b _ => ?_
    rw [PeerPolicyBinding.isFor, Bool.and_comm]
  rw [hfilter, List.filter_map, List.map_map, hfor, hname]

/-- A place is ambiguous when it has several bindings. -/
theorem countP_samePlace (h : b.isFor peer family b.policyKind = true) :
    bindings.countP (fun other => other.samePlace b) =
      ((bindings.filter (PeerPolicyBinding.isFor peer family b.policyKind)).map
        PeerPolicyBinding.policyName).length := by
  simp only [PeerPolicyBinding.isFor, Bool.and_eq_true, decide_eq_true_eq] at h
  obtain ⟨⟨⟨hpeer, hfamily⟩, hout⟩, -⟩ := h
  rw [List.length_map, ← List.countP_eq_length_filter]
  refine List.countP_congr fun other _ => ?_
  simp [PeerPolicyBinding.samePlace, PeerPolicyBinding.isFor, hpeer, hfamily, hout]

/-- What the refusal looks for. -/
theorem any_not_direct_iff : ((bindingsOf peer family (markAmbiguous bindings)).any
    fun b => b.scope ≠ .direct) = true ↔
      ∃ b ∈ bindings, b.isFor peer family b.policyKind = true ∧
        (b.scope ≠ .direct ∨ 1 < bindings.countP fun other => other.samePlace b) := by
  -- marking changes the scope of a binding only, never its place
  have hplace : ∀ c : PeerPolicyBinding, c ∈ bindingsOf peer family (markAmbiguous bindings) ↔
      ∃ b ∈ bindings, marked bindings b = c ∧ b.isFor peer family b.policyKind = true := by
    intro c
    rw [bindingsOf, List.mem_filter, markAmbiguous, List.mem_map]
    constructor
    · rintro ⟨⟨b, hb, rfl⟩, hc⟩
      refine ⟨b, hb, rfl, ?_⟩
      change (_ : Bool) = true at hc
      rw [show (if 1 < bindings.countP fun other => other.samePlace b then
        { b with scope := .ambiguous } else b) = marked bindings b from rfl, marked_eq] at hc
      simpa [PeerPolicyBinding.isFor] using hc
    · rintro ⟨b, hb, rfl, hc⟩
      refine ⟨⟨b, hb, rfl⟩, ?_⟩
      rw [marked_eq]
      simpa [PeerPolicyBinding.isFor] using hc
  have hscope : ∀ b : PeerPolicyBinding, (marked bindings b).scope ≠ .direct ↔
      b.scope ≠ .direct ∨ 1 < bindings.countP fun other => other.samePlace b := by
    intro b
    rw [marked]
    split
    · rename_i hcount
      simp [hcount]
    · rename_i hcount
      simp [hcount]
  simp only [List.any_eq_true, decide_eq_true_eq, hplace]
  constructor
  · rintro ⟨c, ⟨b, hb, rfl, hfor⟩, hc⟩
    exact ⟨b, hb, hfor, (hscope b).mp hc⟩
  · rintro ⟨b, hb, hfor, hc⟩
    exact ⟨_, ⟨b, hb, rfl, hfor⟩, (hscope b).mpr hc⟩

/-- **What makes the exports of a peer not directly attached**: a group it inherits from, where its
address family is `ipv4`, or two policies of one kind. -/
theorem not_direct_iff : ((bindingsOf peer family (markAmbiguous (gathered localAsn bgp))).any
    fun b => b.scope ≠ .direct) = true ↔
      (family = ("ipv4" : Text) ∧ LastGroupCarries bgp peer) ∨
        ∃ kind, 1 < (attachedNames bgp peer family kind).length := by
  rw [any_not_direct_iff]
  by_cases hinherited : family = ("ipv4" : Text) ∧ LastGroupCarries bgp peer
  · refine iff_of_true ?_ (Or.inl hinherited)
    obtain ⟨b, hb, hpeer, hfamily, hout⟩ := exists_inherited_iff.mpr hinherited
    refine ⟨b, List.mem_append_right _ hb, ?_, Or.inl (scope_of_mem_inheritedBindings hb)⟩
    simp [PeerPolicyBinding.isFor, hpeer, hfamily, hout]
  · rw [or_iff_right hinherited]
    constructor
    · rintro ⟨b, hb, hfor, hcount⟩
      rw [countP_samePlace hfor, filter_gathered hinherited] at hcount
      rcases hcount with hscope | hcount
      · -- what is not direct is inherited, and this peer inherits nothing here
        rcases List.mem_append.mp hb with hb | hb
        · exact absurd (scope_of_mem_directBindings hb) hscope
        · simp only [PeerPolicyBinding.isFor, Bool.and_eq_true, decide_eq_true_eq] at hfor
          exact absurd (exists_inherited_iff.mp ⟨b, hb, hfor.1.1.1, hfor.1.1.2,
            hfor.1.2⟩) hinherited
      · exact ⟨_, hcount⟩
    · rintro ⟨kind, hcount⟩
      rw [← @filter_gathered bgp peer family localAsn kind hinherited, List.length_map] at hcount
      obtain ⟨b, hb⟩ := List.exists_mem_of_length_pos (Nat.zero_lt_of_lt hcount)
      obtain ⟨hmem, hfor⟩ := List.mem_filter.mp hb
      have hkind : b.policyKind = kind := by
        simp only [PeerPolicyBinding.isFor, Bool.and_eq_true, decide_eq_true_eq] at hfor
        exact hfor.2
      subst hkind
      refine ⟨b, hmem, hfor, Or.inr ?_⟩
      rw [countP_samePlace hfor, List.length_map]
      exact hcount

/-! ### When the export policy of a peer is read -/

/-- The scan of a section without blockers ends with an AS, and its bindings are for it. -/
theorem asn_of_no_blockers {routeMaps prefixLists : Text}
    (h : (parseInventory bgp routeMaps prefixLists).blockers = []) :
    ∃ asn, (scanBindings bgp).asn = some asn ∧
      (parseInventory bgp routeMaps prefixLists).peerBindings =
      markAmbiguous (gathered asn bgp) := by
  have hasn : (parseBindings (scanBindings bgp)).1 ≠ none := by
    intro hnone
    rw [parseInventory, if_pos hnone] at h
    exact List.append_ne_nil_of_right_ne_nil _ (List.cons_ne_nil _ _) h
  unfold parseBindings at hasn
  split at hasn
  · exact absurd rfl hasn
  · rename_i asn hscan
    refine ⟨asn, hscan, ?_⟩
    change (parseBindings (scanBindings bgp)).2 = _
    rw [parseBindings, hscan]
    rfl

/-- The policies of a kind that the bindings of a peer name. -/
theorem length_names {matching : List PeerPolicyBinding} {names : List Text}
    (h : (matching.filter fun b => b.policyKind = kind).map PeerPolicyBinding.policyName = names) :
    matching.countP (fun b => b.policyKind = kind) = names.length ∧
      boundPolicy kind matching = names.head? := by
  subst h
  refine ⟨?_, ?_⟩
  · rw [List.length_map, List.countP_eq_length_filter]
  · rw [boundPolicy, List.head?_map, List.head?_filter]

/-- The export policy of a peer that has it attached directly. -/
def attachedPolicy (bgp routeMaps prefixLists peer : Text) (localAsn : ℕ) (family : Text) :
    ExportPolicyAttachment :=
  { localAsn
    neighbor := peer
    addressFamily := family
    prefixList := (attachedNames bgp peer family .prefixList).head?
    routeMap := (attachedNames bgp peer family .routeMap).head?
    prefixLists := (parseInventory bgp routeMaps prefixLists).prefixLists
    routeMaps := (parseInventory bgp routeMaps prefixLists).routeMaps
    requiredPrefixLists := none
    requiredRouteMaps := none }

/-- A peer whose exports, in its address family, are not simply attached to it. -/
def NotDirect (bgp peer family : Text) : Prop :=
  (family = ("ipv4" : Text) ∧ LastGroupCarries bgp peer) ∨
    ∃ kind, 1 < (attachedNames bgp peer family kind).length

theorem boundAttachment_spec {routeMaps prefixLists : Text} {asn : ℕ}
    (h : (parseInventory bgp routeMaps prefixLists).blockers = []) :
    (NotDirect bgp peer family →
      ∃ e, boundAttachment (parseInventory bgp routeMaps prefixLists) peer asn
        family (bindingsOf peer family (parseInventory bgp routeMaps prefixLists).peerBindings) =
        .error e) ∧
      (¬NotDirect bgp peer family →
        boundAttachment (parseInventory bgp routeMaps prefixLists) peer asn
        family (bindingsOf peer family (parseInventory bgp routeMaps prefixLists).peerBindings) =
          .ok (attachedPolicy bgp routeMaps prefixLists peer asn family)) := by
  obtain ⟨localAsn, -, hbindings⟩ := asn_of_no_blockers h
  rw [hbindings]
  have hany := @not_direct_iff bgp peer family localAsn
  constructor
  · intro hnot
    rw [boundAttachment, if_pos (hany.mpr hnot)]
    exact ⟨_, rfl⟩
  · intro hdirect
    -- no group carries a policy for the peer, so each kind has its direct names only
    have hinherited : ¬(family = ("ipv4" : Text) ∧ LastGroupCarries bgp peer) :=
      fun hi => hdirect (Or.inl hi)
    have hnames := fun kind : PolicyKind => length_names
      ((names_markAmbiguous peer family kind (gathered localAsn bgp)).trans
        (filter_gathered hinherited))
    have hone : ∀ kind, ¬1 < (attachedNames bgp peer family kind).length := fun kind hk =>
      hdirect (Or.inr ⟨kind, hk⟩)
    rw [boundAttachment, if_neg fun ha => hdirect (hany.mp ha), (hnames .prefixList).1,
      (hnames .routeMap).1, if_neg (not_or.mpr ⟨hone .prefixList, hone .routeMap⟩),
      (hnames .prefixList).2, (hnames .routeMap).2]
    rfl

/-- **When the export policy of a peer is read off a configuration.** -/
theorem readExportPolicy_eq_ok {routeMaps prefixLists : Text} {a : ExportPolicyAttachment} :
    readExportPolicy bgp routeMaps prefixLists peer = .ok a ↔
      (parseInventory bgp routeMaps prefixLists).blockers = [] ∧
        ∃ localAsn family, proveNeighborContext bgp peer = .ok (localAsn, family) ∧
          ¬NotDirect bgp peer family ∧
            attachedPolicy bgp routeMaps prefixLists peer localAsn family = a := by
  rw [readExportPolicy]
  by_cases hblockers : (parseInventory bgp routeMaps prefixLists).blockers = []
  · rw [if_neg (not_not.mpr hblockers), bind_eq_ok, and_iff_right hblockers]
    constructor
    · rintro ⟨⟨localAsn, family⟩, hcontext, hattached⟩
      refine ⟨localAsn, family, hcontext, ?_⟩
      dsimp only at hattached
      -- a binding that is not direct was an error, so it is none here
      by_cases hnot : NotDirect bgp peer family
      · obtain ⟨e, he⟩ := (boundAttachment_spec hblockers).1 hnot
        rw [he] at hattached
        cases hattached
      · rw [(boundAttachment_spec hblockers).2 hnot] at hattached
        exact ⟨hnot, Except.ok.inj hattached⟩
    · rintro ⟨localAsn, family, hcontext, hnot, rfl⟩
      exact ⟨(localAsn, family), hcontext, (boundAttachment_spec hblockers).2 hnot⟩
  · rw [if_pos hblockers]
    constructor
    · rintro ⟨⟩
    · rintro ⟨hnone, -⟩
      exact absurd hnone hblockers

/-! ### When a policy is attached -/

/-- The prefix lists whose routes prove an action. -/
def provedLists (kind : PolicyKind) (desiredName : Text) (current : Option Text) : List Text :=
  match kind with
  | .prefixList => desiredName :: current.toList
  | .routeMap => current.toList

/-- A policy that can be attached in the place of another: it is defined, and the routes that prove
the action can be told one by one. -/
def Attachable (kind : PolicyKind) (desiredName : Text) (mode : PlanMode)
    (a : ExportPolicyAttachment) : Prop :=
  policyDefined kind desiredName a = true ∧
    (mode = .routing → ∀ name ∈ provedLists kind desiredName a.prefixList,
      ∃ prefixes, exactPermittedPrefixes name a.prefixLists = .ok prefixes)

theorem advertisementEvidence_ok_iff {neighbor desiredName : Text} {mode : PlanMode}
    {a : ExportPolicyAttachment} :
    (∃ evidence, advertisementEvidence neighbor kind desiredName a mode = .ok evidence) ↔
      (mode = .routing → ∀ name ∈ provedLists kind desiredName a.prefixList,
        ∃ prefixes, exactPermittedPrefixes name a.prefixLists = .ok prefixes) := by
  cases mode with
  | configurationOnly => simp [advertisementEvidence]
  | routing =>
    unfold advertisementEvidence
    cases kind with
    | prefixList =>
      cases hcurrent : a.prefixList with
      | none => simp [bind_eq_ok, provedLists]
      | some name => simp [bind_eq_ok, provedLists]
    | routeMap =>
      cases hcurrent : a.prefixList with
      | none => simp [provedLists]
      | some name => simp [bind_eq_ok, provedLists]

/-- An action with all its parts passes its own checks. -/
theorem finishPrepared_ok {input : PrepareInput} {effect : PreparedEffect} {commands : List Text}
    {before after verify : List DeviceStateSnapshot} {inverse : PreparedInverse}
    (hcommands : commands ≠ []) (hbefore : before ≠ []) (hafter : after ≠ [])
    (hverify : verify ≠ [])
    (hinverse : inverse.commands ≠ [] ∧ inverse.expectedCurrent ≠ [] ∧ inverse.restore ≠ [] ∧
      inverse.verify ≠ []) :
    ∃ action, finishPrepared input effect commands before after verify (some inverse) =
      .ok action := by
  obtain ⟨h1, h2, h3, h4⟩ := hinverse
  have hidentified := input.identified
  rw [finishPrepared, checked]
  cases effect with
  | change =>
    simp [PreparedDeviceAction.validate, hidentified, hcommands, hbefore, hafter, hverify, h1, h2,
      h3, h4]
  | alreadySatisfied =>
    simp [PreparedDeviceAction.validate, hidentified, hbefore, hafter, hverify]

theorem exportAttachmentCommands_ne_nil {asn : ℕ} {neighbor line : Text} :
    exportAttachmentCommands asn family neighbor line ≠ [] := List.cons_ne_nil _ _

/-- **A policy that can be attached is.** -/
theorem prepareExportPolicy_ok_iff {input : PrepareInput} {neighbor desiredName : Text}
    {read : ExportPolicyAttachment} {mode : PlanMode} :
    (∃ action, prepareExportPolicy input neighbor kind desiredName read mode = .ok action) ↔
      Attachable kind desiredName mode read := by
  rw [prepareExportPolicy, Attachable,
    ← @advertisementEvidence_ok_iff kind neighbor desiredName mode read]
  cases hdefined : policyDefined kind desiredName read with
  | false => simp
  | true =>
    simp only [Bool.not_true, Bool.false_eq_true, if_false, true_and, bind_eq_ok]
    constructor
    · rintro ⟨action, evidence, hevidence, -⟩
      exact ⟨evidence, hevidence⟩
    · rintro ⟨evidence, hevidence⟩
      refine exists_comm.mp ⟨evidence, ?_⟩
      simp only [hevidence, true_and]
      apply finishPrepared_ok exportAttachmentCommands_ne_nil
      · exact List.cons_ne_nil _ _
      · exact List.cons_ne_nil _ _
      · exact List.cons_ne_nil _ _
      · exact ⟨exportAttachmentCommands_ne_nil, List.cons_ne_nil _ _, List.cons_ne_nil _ _,
          List.cons_ne_nil _ _⟩

/-! ### Peers that inherit -/

/-- The refusals that do not depend on a projected state: the inventory is blocked, or the peer is
not proven in one address family, or there its exports are not simply attached to it, or the policy
cannot be attached. -/
def RefusableRead (bgp routeMaps prefixLists peer : Text) (kind : PolicyKind) (desiredName : Text)
    (mode : PlanMode) : Prop :=
  (parseInventory bgp routeMaps prefixLists).blockers ≠ [] ∨
    ∀ localAsn family, proveNeighborContext bgp peer = .ok (localAsn, family) →
      NotDirect bgp peer family ∨
        ¬Attachable kind desiredName mode
        (attachedPolicy bgp routeMaps prefixLists peer localAsn family)

/-- When an action is refused. An export policy that an earlier action of the same preparation
leaves stands in the place of the configuration. -/
def Refusable (bgp routeMaps prefixLists peer : Text) (kind : PolicyKind) (desiredName : Text)
    (mode : PlanMode) : Option DeviceStateSnapshot → Prop
  | none => RefusableRead bgp routeMaps prefixLists peer kind desiredName mode
  | some (.exportPolicyAttachment a) => ¬Attachable kind desiredName mode a
  | some _ => True

/-- A peer that is given one group only, and inherits from it, ends with a group that carries a
policy. -/
theorem lastGroupCarries_of_inherits (h : InheritsExportPolicy bgp peer)
    (hpeer : isIpv4 peer = true)
    (hone : ∀ l ∈ neighborLines bgp, ∀ l' ∈ neighborLines bgp, ∀ g g',
      membershipOf l.2 = some (peer, g) → membershipOf l'.2 = some (peer, g') → g = g') :
    LastGroupCarries bgp peer := by
  obtain ⟨family, group, memberFamily, verb, name, hfamily, -, hverb, hgroup, hmember, hpolicy⟩ := h
  have hmembership : membershipOf ([peer, "peer-group", group] : List Text) =
    some (peer, group) := by
    simp [membershipOf, hpeer]
  have hmem : group ∈ valuesOf (fun l : Text × List Text => membershipOf l.2) peer
    (neighborLines bgp) :=
    mem_valuesOf.mpr ⟨_, hmember, hmembership⟩
  -- with one group only, the last membership is the one it inherits from
  have hlast : lastGroup bgp peer = some group := by
    have hne := List.ne_nil_of_mem hmem
    have hlastmem := List.getLast_mem hne
    obtain ⟨l, hl, hvalue⟩ := mem_valuesOf.mp hlastmem
    rw [lastGroup, List.getLast?_eq_some_getLast hne]
    exact congrArg some (hone l hl _ hmember _ _ hvalue hmembership)
  obtain ⟨kind, hkind⟩ : ∃ kind, policyKindOf verb = some kind := by
    rcases hverb with rfl | rfl
    · exact ⟨.prefixList, by decide⟩
    · exact ⟨.routeMap, by decide⟩
  have hsupported : ¬(family = ("unsupported" : Text) ∨ isIpv4 group = true) := by
    rw [hgroup]
    rcases hfamily with rfl | rfl <;> decide
  have hcarried : groupPolicyOf (family, ([group, verb, name, "out"] : List Text)) =
      some (group, kind, name) := by
    simp only [groupPolicyOf, outboundOf, if_true, hkind, Option.map_some, Option.bind_some,
      if_neg hsupported]
  exact ⟨group, hlast, List.ne_nil_of_mem (mem_valuesOf.mpr ⟨_, hpolicy, hcarried⟩)⟩

/-- **When `prepare_export_policy` refuses an action.** -/
theorem prepareExportPolicyFrom_error_iff {input : PrepareInput} {desiredName : Text}
    {projected : Option DeviceStateSnapshot} {routeMaps prefixLists : Text} {mode : PlanMode} :
    (∃ e, prepareExportPolicyFrom input peer kind desiredName projected bgp routeMaps
      prefixLists mode =
        .error e) ↔
      Refusable bgp routeMaps prefixLists peer kind desiredName mode projected := by
  have hattach := fun a : ExportPolicyAttachment =>
    @prepareExportPolicy_ok_iff kind input peer desiredName a mode
  rw [prepareExportPolicyFrom, exists_error_iff]
  unfold exportPolicyBefore Refusable
  cases projected with
  -- the policy of before is read off the configuration
  | none =>
    simp only [bind_eq_ok, readExportPolicy_eq_ok, RefusableRead]
    constructor
    · intro hnone
      refine or_iff_not_imp_left.mpr fun hblockers localAsn family hcontext => ?_
      refine or_iff_not_imp_left.mpr fun hdirect hattachable => hnone ?_
      obtain ⟨action, haction⟩ := (hattach _).mpr hattachable
      exact ⟨action, _, ⟨not_not.mp hblockers, localAsn, family, hcontext, hdirect, rfl⟩, haction⟩
    · rintro hrefused ⟨action, a, ⟨hblockers, localAsn, family, hcontext, hdirect, rfl⟩, haction⟩
      rcases hrefused with hblocked | hrefused
      · exact hblocked hblockers
      · rcases hrefused localAsn family hcontext with hnot | hnot
        · exact hdirect hnot
        · exact hnot ((hattach _).mp ⟨action, haction⟩)
  -- it is the one an earlier action of the bundle left
  | some state =>
    cases state with
    | exportPolicyAttachment a => simp only [bind_eq_ok, Except.ok.injEq, exists_eq_left', hattach]
    | _ => simp

/-- A peer under `address-family ipv4` that is given one group only, and inherits from it, is
refused. -/
theorem refuses_of_ipv4 {input : PrepareInput} {desiredName routeMaps prefixLists : Text}
    {mode : PlanMode} (h : InheritsExportPolicy bgp peer) (hpeer : isIpv4 peer = true)
    (hone : ∀ l ∈ neighborLines bgp, ∀ l' ∈ neighborLines bgp, ∀ g g',
      membershipOf l.2 = some (peer, g) → membershipOf l'.2 = some (peer, g') → g = g')
    (hcontext : proveNeighborContext bgp peer = .ok (localAsn, "ipv4")) :
    ∃ e, prepareExportPolicyFrom input peer kind desiredName none bgp routeMaps prefixLists mode =
      .error e := by
  refine prepareExportPolicyFrom_error_iff.mpr (Or.inr ?_)
  intro asn family hfamily
  rw [hcontext] at hfamily
  cases hfamily
  exact Or.inl (Or.inl ⟨rfl, lastGroupCarries_of_inherits h hpeer hone⟩)

/-- **A peer that inherits its export policy is refused exactly when** its address family is `ipv4`
and the last group it is given carries a policy, unless something else refuses the action. An
export policy that an earlier action leaves stands in the place of the configuration. -/
theorem refuses_inherited_iff (input : PrepareInput) (peer : Text) (kind : PolicyKind)
    (desiredName : Text)
    (projected : Option DeviceStateSnapshot) (bgp routeMaps prefixLists : Text) (mode : PlanMode) :
    (InheritsExportPolicy bgp peer →
      ∃ e, prepareExportPolicyFrom input peer kind desiredName projected
        bgp routeMaps prefixLists mode = .error e) ↔
      (InheritsExportPolicy bgp peer →
        Refusable bgp routeMaps prefixLists peer kind desiredName mode projected) :=
  imp_congr_right fun _ => prepareExportPolicyFrom_error_iff

/-- A section without address families: a peer in a group that filters what its members are told. -/
def groupedSection : Text :=
  "router bgp 65000\n neighbor TRANSIT peer-group\n neighbor TRANSIT prefix-list CUSTOMERS out\n" ++
    " neighbor 192.0.2.1 remote-as 64500\n neighbor 192.0.2.1 peer-group TRANSIT\n"

/-- The prefix list of the group. -/
def groupedLists : Text := "ip prefix-list CUSTOMERS seq 5 permit 198.51.100.0/24\n"

/-- The request to attach a prefix list to that peer. -/
def groupedInput : PrepareInput :=
  ⟨1, 1, "bgp_export_policy_set", some "prefix_list", by decide⟩

theorem groupedSection_inherits : InheritsExportPolicy groupedSection "192.0.2.1" :=
  ⟨globalFamily, "TRANSIT", globalFamily, "prefix-list", "CUSTOMERS", Or.inl rfl,
      Or.inl rfl, Or.inl rfl,
    by decide +kernel, by decide +kernel, by decide +kernel⟩

/-- **A peer configured without address families is not refused**: the policy of its group is
recorded for `ipv4`, and the peer is looked up in `default_ipv4`. -/
theorem not_refuses_groupedSection : ¬∀ (input : PrepareInput) (peer : Text) (kind : PolicyKind)
    (desiredName : Text) (projected : Option DeviceStateSnapshot) (bgp routeMaps prefixLists : Text)
    (mode : PlanMode), InheritsExportPolicy bgp peer →
      ∃ e, prepareExportPolicyFrom input peer kind desiredName projected bgp routeMaps
        prefixLists mode =
        .error e := by
  intro hrefuses
  have hprepared : (prepareExportPolicyFrom groupedInput "192.0.2.1" .prefixList "CUSTOMERS" none
      groupedSection [] groupedLists .routing).toBool = true := by decide +kernel
  obtain ⟨e, he⟩ := hrefuses groupedInput "192.0.2.1" .prefixList "CUSTOMERS" none groupedSection []
    groupedLists .routing groupedSection_inherits
  rw [he] at hprepared
  cases hprepared

end Rerouter
