import Rerouter.DevicePlanners

/-!
# What a planner goes through

A planner that succeeds against a table of outputs has gone through each of its steps: its
parameters were there, each of its states was projected or read, and its action passed its own
checks. There is one theorem for each planner, which the results on preparations take their facts
from, and one for the whole of a single preparation (`Rerouter.of_prepareAction`).
-/

namespace Rerouter

open Text

section Answers

variable {table : Show → Except Text Text} {device : ℕ}

@[simp] theorem answer_decided {α : Type} (r : Except Text α) :
    Reads.answer table (decided r) = r := rfl

@[simp] theorem answer_refused {α : Type} (reason : Text) :
    Reads.answer table (refused reason : RouterReads α) = .error reason := rfl

@[simp] theorem answer_showOn (command : Text) :
    Reads.answer table (showOn device command) = table (device, command) :=
  Reads.answer_question _

end Answers

variable {table : Show → Except Text Text} {projected : Projection} {t : Template}
  {r : PrepareRequest} {subst : NameMap Text} {a : PreparedDeviceAction}

/-- A state before an action, where its key is projected or not. -/
def Sourced (table : Show → Except Text Text) (projected : Projection) (device : ℕ)
    (probe : DeviceStateSnapshot) (read : RouterReads DeviceStateSnapshot)
    (state : DeviceStateSnapshot) : Prop :=
  Reads.answer table (projectedOr projected device probe read) = .ok state

/-- **A state is projected, or it is read.** -/
theorem Sourced.cases {device : ℕ} {probe state : DeviceStateSnapshot}
    {read : RouterReads DeviceStateSnapshot} (h : Sourced table projected device probe read state) :
    projected[stateKey device probe]? = some state ∨
      projected[stateKey device probe]? = none ∧ Reads.answer table read = .ok state := by
  unfold Sourced projectedOr at h
  split at h
  · rename_i state' hstate
    cases h
    exact Or.inl hstate
  · rename_i hnone
    exact Or.inr ⟨hnone, h⟩

theorem Sourced.read {device : ℕ} {probe state : DeviceStateSnapshot}
    {read : RouterReads DeviceStateSnapshot}
    (h : Sourced table ∅ device probe read state) : Reads.answer table read = .ok state := by
  rcases h.cases with h | ⟨-, h⟩
  · simp at h
  · exact h

/-! ### One planner after another -/

theorem of_prepareStaticRoute {rtbh : ℕ → Option Text}
    (h : Reads.answer table (prepareStaticRoute rtbh t r subst projected) = .ok a) :
    ∃ desired before current resolution bgp plan inverse,
      desiredRoute t subst = .ok desired ∧
      Sourced table projected r.device desired.snapshot (readStaticRoute r.device desired) before ∧
      before.staticRoute.map StaticRoute.present = some current ∧
      Sourced table projected r.device (.routeResolution desired.cidr "Null0" desired.present)
        (readRouteResolution r.device desired.cidr "Null0") resolution ∧
      Reads.answer table (bgpRouteStates rtbh r.device projected desired) = .ok bgp ∧
      render t r.params = .ok plan ∧ staticRouteCommands desired current = .ok inverse ∧
      staticRouteAction r.input desired before current resolution bgp plan.commands inverse =
        .ok a := by
  simp only [prepareStaticRoute, Reads.answer_bind, answer_decided] at h
  obtain ⟨desired, hdesired, h⟩ := bind_eq_ok.mp h
  obtain ⟨before, hbefore, h⟩ := bind_eq_ok.mp h
  obtain ⟨current, hcurrent, h⟩ := bind_eq_ok.mp h
  obtain ⟨-, -, h⟩ := bind_eq_ok.mp h
  obtain ⟨resolution, hresolution, h⟩ := bind_eq_ok.mp h
  obtain ⟨bgp, hbgp, h⟩ := bind_eq_ok.mp h
  obtain ⟨plan, hplan, h⟩ := bind_eq_ok.mp h
  obtain ⟨inverse, hinverse, h⟩ := bind_eq_ok.mp h
  exact ⟨desired, before, current, resolution, bgp, plan, inverse, hdesired, hbefore,
    okOr_eq_ok.mp hcurrent, hresolution, hbgp, hplan, hinverse, h⟩

/-- The BGP entries of a route: none without a tag. -/
theorem of_bgpRouteStates {rtbh : ℕ → Option Text} {device : ℕ} {desired : StaticRoute}
    {bgp : List DeviceStateSnapshot × List DeviceStateSnapshot}
    (h : Reads.answer table (bgpRouteStates rtbh device projected desired) = .ok bgp) :
    (desired.tag = none ∧ bgp = ([], [])) ∨ ∃ tag community before,
      desired.tag = some tag ∧ rtbh tag = some community ∧
      Sourced table projected device (.bgpRoute desired.cidr false none)
        (readBgpRoute device desired.cidr community) before ∧
      bgp = ([before],
        [.bgpRoute desired.cidr desired.present (if desired.present then some community
          else none)]) := by
  unfold bgpRouteStates at h
  split at h
  · rename_i htag
    cases h
    exact Or.inl ⟨htag, rfl⟩
  · rename_i tag htag
    simp only [Reads.answer_bind, answer_decided] at h
    obtain ⟨community, hcommunity, h⟩ := bind_eq_ok.mp h
    obtain ⟨before, hbefore, h⟩ := bind_eq_ok.mp h
    cases h
    exact Or.inr ⟨tag, community, before, htag, okOr_eq_ok.mp hcommunity, hbefore, rfl⟩

theorem of_prepareNeighborShutdown
    (h : Reads.answer table (prepareNeighborShutdown t r subst projected) = .ok a) :
    ∃ neighbor localAsn before current session plan,
      substString subst "neighbor_ip" = .ok neighbor ∧
      substNumber subst "local_asn" = .ok localAsn ∧
      Sourced table projected r.device (.neighborShutdown localAsn neighbor t.disables)
        (readNeighborShutdown r.device localAsn neighbor) before ∧
      shutdownOf before = .ok current ∧
      Sourced table projected r.device (.bgpNeighborState neighbor current none)
        (readNeighborState r.device neighbor) session ∧
      render t r.params = .ok plan ∧
      neighborShutdownAction r.input localAsn neighbor t.disables before current session
        plan.commands = .ok a := by
  simp only [prepareNeighborShutdown, Reads.answer_bind, answer_decided] at h
  obtain ⟨neighbor, hneighbor, h⟩ := bind_eq_ok.mp h
  obtain ⟨localAsn, hasn, h⟩ := bind_eq_ok.mp h
  obtain ⟨before, hbefore, h⟩ := bind_eq_ok.mp h
  obtain ⟨current, hcurrent, h⟩ := bind_eq_ok.mp h
  obtain ⟨session, hsession, h⟩ := bind_eq_ok.mp h
  obtain ⟨plan, hplan, h⟩ := bind_eq_ok.mp h
  exact ⟨neighbor, localAsn, before, current, session, plan, hneighbor, hasn, hbefore,
    hcurrent, hsession, hplan, h⟩

theorem of_prepareRouteMapAction
    (h : Reads.answer table (prepareRouteMapAction r subst projected) = .ok a) :
    ∃ neighbor localAsn direction requested output family before current,
      substString subst "neighbor_ip" = .ok neighbor ∧
      substNumber subst "local_asn" = .ok localAsn ∧
      substString subst "direction" = .ok direction ∧
      substString subst "route_map" = .ok requested ∧
      table (r.device, bgpSection) = .ok output ∧
      proveNeighborContext output neighbor = .ok (localAsn, family) ∧
      Sourced table projected r.device
      (.routeMapAssignment localAsn neighbor direction (some family) none)
        (decided (readRouteMap localAsn neighbor direction family output)) before ∧
      assignedMap family before = .ok current ∧
      routeMapAction r.input localAsn neighbor direction requested family before current =
        .ok a := by
  simp only [prepareRouteMapAction, Reads.answer_bind, answer_decided, answer_showOn] at h
  obtain ⟨neighbor, hneighbor, h⟩ := bind_eq_ok.mp h
  obtain ⟨localAsn, hasn, h⟩ := bind_eq_ok.mp h
  obtain ⟨direction, hdirection, h⟩ := bind_eq_ok.mp h
  obtain ⟨requested, hrequested, h⟩ := bind_eq_ok.mp h
  obtain ⟨output, houtput, h⟩ := bind_eq_ok.mp h
  obtain ⟨⟨provedAsn, family⟩, hcontext, h⟩ := bind_eq_ok.mp h
  dsimp only at h
  split at h
  · cases h
  · rename_i heq
    obtain rfl := not_not.mp heq
    simp only [Reads.answer_bind, answer_decided] at h
    obtain ⟨before, hbefore, h⟩ := bind_eq_ok.mp h
    obtain ⟨current, hcurrent, h⟩ := bind_eq_ok.mp h
    exact ⟨neighbor, provedAsn, direction, requested, output, family, before, current,
      hneighbor, hasn, hdirection, hrequested, houtput, hcontext, hbefore, hcurrent, h⟩

theorem of_prepareExportPolicyAction {mode : PlanMode}
    (h : Reads.answer table (prepareExportPolicyAction mode r subst projected) = .ok a) :
    ∃ neighbor kindName kind desiredName read,
      substString subst "neighbor_ip" = .ok neighbor ∧
      substString subst "policy_kind" = .ok kindName ∧
      policyKindNamed kindName = .ok kind ∧ substString subst "policy_name" = .ok desiredName ∧
      Reads.answer table (exportAttachment projected r.device neighbor) = .ok read ∧
      prepareExportPolicy r.input neighbor kind desiredName read mode = .ok a := by
  simp only [prepareExportPolicyAction, Reads.answer_bind, answer_decided] at h
  obtain ⟨neighbor, hneighbor, h⟩ := bind_eq_ok.mp h
  obtain ⟨kindName, hkindName, h⟩ := bind_eq_ok.mp h
  obtain ⟨kind, hkind, h⟩ := bind_eq_ok.mp h
  obtain ⟨desiredName, hname, h⟩ := bind_eq_ok.mp h
  obtain ⟨read, hread, h⟩ := bind_eq_ok.mp h
  exact ⟨neighbor, kindName, kind, desiredName, read, hneighbor, hkindName, hkind, hname, hread, h⟩

theorem of_prepareInterfaceMss
    (h : Reads.answer table (prepareInterfaceMss t r subst projected) = .ok a) :
    ∃ interface desired before current plan,
      substString subst "interface" = .ok interface ∧ desiredMss t subst = .ok desired ∧
      Sourced table projected r.device (.interfaceMss interface desired)
        (readInterfaceMss r.device interface) before ∧
      mssOf before = .ok current ∧ render t r.params = .ok plan ∧
      interfaceMssAction r.input interface desired before current plan.commands = .ok a := by
  simp only [prepareInterfaceMss, Reads.answer_bind, answer_decided] at h
  obtain ⟨interface, hinterface, h⟩ := bind_eq_ok.mp h
  obtain ⟨desired, hdesired, h⟩ := bind_eq_ok.mp h
  obtain ⟨before, hbefore, h⟩ := bind_eq_ok.mp h
  obtain ⟨current, hcurrent, h⟩ := bind_eq_ok.mp h
  obtain ⟨plan, hplan, h⟩ := bind_eq_ok.mp h
  exact ⟨interface, desired, before, current, plan, hinterface, hdesired, hbefore,
    hcurrent, hplan, h⟩

theorem of_prepareInterfaceAdmin
    (h : Reads.answer table (prepareInterfaceAdmin t r subst projected) = .ok a) :
    ∃ interface before current operational plan,
      substString subst "interface" = .ok interface ∧
      Sourced table projected r.device (.interfaceAdmin interface t.shutsDown)
        (readInterfaceAdmin r.device interface) before ∧
      adminShutdownOf before = .ok current ∧
      Sourced table projected r.device (.interfaceOperational interface current)
        (readInterfaceOperational r.device interface) operational ∧
      downOf operational = .ok current ∧ render t r.params = .ok plan ∧
      interfaceAdminAction r.input interface t.shutsDown before current operational plan.commands =
        .ok a := by
  simp only [prepareInterfaceAdmin, Reads.answer_bind, answer_decided] at h
  obtain ⟨interface, hinterface, h⟩ := bind_eq_ok.mp h
  obtain ⟨before, hbefore, h⟩ := bind_eq_ok.mp h
  obtain ⟨current, hcurrent, h⟩ := bind_eq_ok.mp h
  obtain ⟨operational, hoperational, h⟩ := bind_eq_ok.mp h
  obtain ⟨down, hdown, h⟩ := bind_eq_ok.mp h
  split at h
  · cases h
  · rename_i heq
    obtain rfl := not_not.mp heq
    simp only [Reads.answer_bind, answer_decided] at h
    obtain ⟨plan, hplan, h⟩ := bind_eq_ok.mp h
    exact ⟨interface, before, down, operational, plan, hinterface, hbefore, hcurrent, hoperational,
      hdown, hplan, h⟩

/-- The commands of an edit of a prefix list, at a sequence number. -/
def sequencedCommands (t : Template) (params : Params) (sequence : ℕ) : Except Text (List Text) :=
  do
  let plan ← renderWithSequence t params sequence
  .ok plan.commands

theorem of_preparePrefixList {lists : ProjectedLists}
    (h : Reads.answer table (preparePrefixList t r subst lists projected) = .ok a) :
    ∃ list peer bgp routeMaps fullConfig neighbor output cidr consumers,
      subst[("prefix_list_name" : Text)]? = some list ∧ subst[("neighbor_ip" : Text)]? = some peer ∧
      table (r.device, bgpSection) = .ok bgp ∧ table (r.device, routeMapSection) = .ok routeMaps ∧
      table (r.device, ("show running-config" : Text)) = .ok fullConfig ∧
      Reads.answer table (neighborOutput projected r.device peer) = .ok neighbor ∧
      Reads.answer table (listOutput lists r.device list) = .ok output ∧
      subst[("prefix" : Text)]? = some cidr ∧ ensureEstablished neighbor peer = .ok () ∧
      ensureExclusivePrefixListConsumer bgp routeMaps fullConfig list peer = .ok consumers ∧
      preparePrefixListAction r.input peer list cidr consumers output
        (sequencedCommands t r.params) = .ok a := by
  simp only [preparePrefixList, Reads.answer_bind, answer_decided, answer_showOn] at h
  obtain ⟨list, hlist, h⟩ := bind_eq_ok.mp h
  obtain ⟨peer, hpeer, h⟩ := bind_eq_ok.mp h
  obtain ⟨bgp, hbgp, h⟩ := bind_eq_ok.mp h
  obtain ⟨routeMaps, hmaps, h⟩ := bind_eq_ok.mp h
  obtain ⟨fullConfig, hfull, h⟩ := bind_eq_ok.mp h
  obtain ⟨neighbor, hneighbor, h⟩ := bind_eq_ok.mp h
  obtain ⟨output, houtput, h⟩ := bind_eq_ok.mp h
  split at h
  · cases h
  · simp only [Reads.answer_bind, answer_decided] at h
    obtain ⟨cidr, hcidr, h⟩ := bind_eq_ok.mp h
    obtain ⟨⟨⟩, hestablished, h⟩ := bind_eq_ok.mp h
    obtain ⟨consumers, hconsumers, h⟩ := bind_eq_ok.mp h
    exact ⟨list, peer, bgp, routeMaps, fullConfig, neighbor, output, cidr, consumers,
      okOr_eq_ok.mp hlist, okOr_eq_ok.mp hpeer, hbgp, hmaps, hfull, hneighbor, houtput,
      okOr_eq_ok.mp hcidr, hestablished,
      hconsumers, h⟩

theorem valid_of_checked {x a : PreparedDeviceAction} (h : checked x = .ok a) :
    a.validate = .ok () := by
  obtain rfl := eq_of_checked h
  rw [checked] at h
  split at h
  · assumption
  · cases h

/-- An edit of a prefix list starts from the list that was read, and leaves it as it is or with one
entry written or deleted. -/
theorem of_preparePrefixListAction {input : PrepareInput} {peer list cidr output : Text}
    {consumers : List PrefixListConsumer} {render : ℕ → Except Text (List Text)}
    (h : preparePrefixListAction input peer list cidr consumers output render = .ok a) :
    ∃ entries left, parsePrefixList output list = .ok entries ∧ a.device = input.device ∧
      a.validate = .ok () ∧
      a.before = [.prefixList list (entries.map prefixEntrySnapshot) consumers,
        establishedNeighbor peer] ∧
      a.after = [.prefixList list left consumers, .bgpAdvertisement peer cidr input.adding none,
        establishedNeighbor peer] ∧
      (left = entries.map prefixEntrySnapshot ∨
        ∃ sequence, left = projectedEntries input.adding sequence cidr
          (entries.map prefixEntrySnapshot)) := by
  obtain ⟨entries, hentries, h⟩ := bind_eq_ok.mp h
  split at h
  · cases h
  · have hvalid := valid_of_checked h
    obtain rfl := eq_of_checked h
    exact ⟨entries, _, hentries, rfl, hvalid, rfl, rfl, Or.inl rfl⟩
  · rename_i sequence hplan
    obtain ⟨commands, -, h⟩ := bind_eq_ok.mp h
    have hvalid := valid_of_checked h
    obtain rfl := eq_of_checked h
    exact ⟨entries, _, hentries, rfl, hvalid, rfl, rfl, Or.inr ⟨sequence, rfl⟩⟩

/-! ### One preparation -/

/-- The template of a request and the values it makes of its parameters. -/
structure Loaded (load : Text → Except Text Template) (r : PrepareRequest) (t : Template)
    (subst : NameMap Text) : Prop where
  load : load r.templateName = .ok t
  name : t.name = r.templateName
  expand : validateAndExpand t.schema r.params = .ok subst

/-- **A prepared action is one a planner returns.** -/
theorem of_prepareAction {load : Text → Except Text Template} {rtbh : ℕ → Option Text}
    {mode : PlanMode} {lists : ProjectedLists}
    (h : Reads.answer table (prepareAction load rtbh mode lists projected r) = .ok a) :
    ∃ t subst b, Loaded load r t subst ∧ t.name ∈ preparedTemplateNames ∧
      Reads.answer table (plannerOf rtbh mode lists projected t r subst) = .ok b ∧
        a = b.inMode mode := by
  simp only [prepareAction, Reads.answer_bind, answer_decided] at h
  obtain ⟨t, hload, h⟩ := bind_eq_ok.mp h
  split at h
  · cases h
  · rename_i hname
    split at h
    · cases h
    · rename_i hprepared
      simp only [Reads.answer_bind, answer_decided] at h
      obtain ⟨subst, hsubst, h⟩ := bind_eq_ok.mp h
      obtain ⟨b, hb, h⟩ := bind_eq_ok.mp h
      cases h
      exact ⟨t, subst, b, ⟨hload, not_not.mp hname, hsubst⟩, not_not.mp hprepared, hb, rfl⟩

end Rerouter
