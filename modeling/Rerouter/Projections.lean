import Rerouter.Lib.Joined
import Rerouter.PreparationReads
import Rerouter.ProjectedList

/-!
# What earlier actions leave

A list of actions is prepared, and later verified, with the states its earlier actions leave put in
the place of what is read. They are kept by the key of their object (`Rerouter.stateKey`), and this
file is about that map.

* A key tells the device, the kind and the object of a state (`Rerouter.stateKey_inj`), so that
  states of different kinds never get into each other's way.
* What is put into the map is found there, and everything else stays
  (`Rerouter.getElem?_project_of_mem`, `Rerouter.getElem?_project_of_ne`).
* A state before an action agrees with the map, or else with the router (`Rerouter.Settled`); this
  is what a verification of the list asks of every one (`Rerouter.verifyBefore_eq_true`). A state
  that was taken from the map agrees with it (`Rerouter.Sourced.settled_iff`).

The export policy of a neighbor is looked up by the start of its key. Over the maps that arise it is
the one state with that start (`Rerouter.projectedExportPolicy_eq_some`).
-/

namespace Rerouter

open Text

/-! ### Keys -/

/-- The kinds of states. -/
inductive StateKind where
  | prefixList | ipv4StaticRoute | ipv6StaticRoute | routeResolution | bgpAdvertisement | bgpRoute
  | neighborShutdown | bgpNeighborState | routeMapAssignment | exportPolicyAttachment
    | interfaceAdmin
  | interfaceOperational | interfaceMss
deriving DecidableEq

/-- A kind, as a key spells it. -/
def StateKind.tag : StateKind → Text
  | prefixList => "prefix_list"
  | ipv4StaticRoute => "v4_route"
  | ipv6StaticRoute => "v6_route"
  | routeResolution => "route_resolution"
  | bgpAdvertisement => "bgp_advertisement"
  | bgpRoute => "bgp_route"
  | neighborShutdown => "neighbor"
  | bgpNeighborState => "neighbor_operational"
  | routeMapAssignment => "route_map"
  | exportPolicyAttachment => "export_policy"
  | interfaceAdmin => "interface_admin"
  | interfaceOperational => "interface_operational"
  | interfaceMss => "interface_mss"

/-- The kind of a state. -/
def DeviceStateSnapshot.kind : DeviceStateSnapshot → StateKind
  | .prefixList .. => .prefixList
  | .ipv4StaticRoute .. => .ipv4StaticRoute
  | .ipv6StaticRoute .. => .ipv6StaticRoute
  | .routeResolution .. => .routeResolution
  | .bgpAdvertisement .. => .bgpAdvertisement
  | .bgpRoute .. => .bgpRoute
  | .neighborShutdown .. => .neighborShutdown
  | .bgpNeighborState .. => .bgpNeighborState
  | .routeMapAssignment .. => .routeMapAssignment
  | .exportPolicyAttachment .. => .exportPolicyAttachment
  | .interfaceAdmin .. => .interfaceAdmin
  | .interfaceOperational .. => .interfaceOperational
  | .interfaceMss .. => .interfaceMss

/-- What a state is about, as its key spells it. -/
def DeviceStateSnapshot.object : DeviceStateSnapshot → Text
  | .prefixList name _ _ => name
  | .ipv4StaticRoute cidr nextHop tag _ =>
    cidr ++ ':' :: nextHop ++ ':' :: optionText "None" (tag.map natText)
  | .ipv6StaticRoute cidr nextHop tag _ =>
    cidr ++ ':' :: nextHop ++ ':' :: optionText "None" (tag.map natText)
  | .routeResolution cidr nextHop _ => cidr ++ ':' :: nextHop
  | .bgpAdvertisement neighbor cidr _ _ => neighbor ++ ':' :: cidr
  | .bgpRoute cidr _ _ => cidr
  | .neighborShutdown _ neighbor _ => neighbor
  | .bgpNeighborState neighbor _ _ => neighbor
  | .routeMapAssignment _ neighbor direction addressFamily _ =>
    neighbor ++ ':' :: direction ++ ':' :: optionText "None" (addressFamily.map debugText)
  | .exportPolicyAttachment a => a.neighbor ++ ':' :: a.addressFamily
  | .interfaceAdmin interface _ => interface
  | .interfaceOperational interface _ => interface
  | .interfaceMss interface _ => interface

variable {device device' : ℕ} {s s' : DeviceStateSnapshot}

theorem stateKey_eq (device : ℕ) (s : DeviceStateSnapshot) :
    stateKey device s = natText device ++ ':' :: (s.kind.tag ++ ':' :: s.object) := by
  cases s <;> rfl

theorem colon_not_mem_tag (k : StateKind) : ':' ∉ k.tag := by
  cases k <;> decide

theorem tag_injective (k k' : StateKind) (h : k.tag = k'.tag) : k = k' := by
  cases k <;> cases k' <;> first | rfl | exact absurd h (by decide)

/-- **A key tells the device, the kind and the object.** -/
theorem stateKey_inj :
    stateKey device s = stateKey device' s' ↔ device = device' ∧ s.kind = s'.kind ∧
      s.object = s'.object := by
  rw [stateKey_eq, stateKey_eq]
  constructor
  · intro h
    obtain ⟨hdevice, h⟩ := append_cons_inj (not_mem_natText (by decide) _)
      (not_mem_natText (by decide) _) h
    obtain ⟨htag, hobject⟩ := append_cons_inj (colon_not_mem_tag _) (colon_not_mem_tag _) h
    exact ⟨natText_injective hdevice, tag_injective _ _ htag, hobject⟩
  · rintro ⟨rfl, hkind, hobject⟩
    rw [hkind, hobject]

/-! ### The map -/

section Map

variable {projected : Projection} {states : List DeviceStateSnapshot} {key : Text}

theorem project_cons (device : ℕ) (projected : Projection) (s : DeviceStateSnapshot)
    (states : List DeviceStateSnapshot) :
    project device projected (s :: states) =
      project device (projected.insert (stateKey device s) s) states := rfl

theorem getElem?_insert_state (projected : Projection) (device : ℕ) (s : DeviceStateSnapshot)
    (key : Text) :
    (projected.insert (stateKey device s) s)[key]? = if stateKey device s = key then
    some s else projected[key]? := by
  rw [Std.TreeMap.getElem?_insert]
  simp only [Std.compare_eq_iff_eq]

/-- Other keys stay as they are. -/
theorem getElem?_project_of_ne (h : ∀ s ∈ states, stateKey device s ≠ key) :
    (project device projected states)[key]? = projected[key]? := by
  induction states generalizing projected with
  | nil => rfl
  | cons s states ih =>
    rw [project_cons, ih fun s' hs' => h s' (List.mem_cons_of_mem _ hs'), getElem?_insert_state,
      if_neg (h s List.mem_cons_self)]

/-- A state that is alone with its key is found under it. -/
theorem getElem?_project_of_mem (hmem : s ∈ states)
    (h : ∀ s' ∈ states, stateKey device s' = stateKey device s → s' = s) :
    (project device projected states)[stateKey device s]? = some s := by
  induction states generalizing projected with
  | nil => exact absurd hmem List.not_mem_nil
  | cons s' states ih =>
    rw [project_cons]
    by_cases htail : s ∈ states
    · exact ih htail fun s'' hs'' => h s'' (List.mem_cons_of_mem _ hs'')
    · obtain rfl : s = s' := (List.mem_cons.mp hmem).resolve_right htail
      rw [getElem?_project_of_ne, getElem?_insert_state, if_pos rfl]
      intro s' hs' heq
      exact htail (h s' (List.mem_cons_of_mem _ hs') heq ▸ hs')

/-- **What holds of every state of the map, and of those that are put in, holds behind them.** -/
theorem project_invariant {P : ℕ → DeviceStateSnapshot → Prop}
    (hold : ∀ k s, projected[k]? = some s → ∃ d, k = stateKey d s ∧ P d s)
    (hnew : ∀ s ∈ states, P device s) (k : Text) (s : DeviceStateSnapshot)
    (h : (project device projected states)[k]? = some s) : ∃ d, k = stateKey d s ∧ P d s := by
  induction states generalizing projected with
  | nil => exact hold k s h
  | cons s' states ih =>
    rw [project_cons] at h
    refine ih (fun k' t hk' => ?_) (fun t ht => hnew t (List.mem_cons_of_mem _ ht)) h
    rw [getElem?_insert_state] at hk'
    split at hk'
    · rename_i heq
      cases hk'
      exact ⟨device, heq.symm, hnew s' List.mem_cons_self⟩
    · exact hold k' t hk'

end Map

/-! ### States that agree with the map -/

section Agreement

variable {table : Show → Except Text Text} {projected : Projection}

/-- A state before an action, as an earlier action leaves it, and else as the router shows it. -/
def Settled (table : Show → Except Text Text) (projected : Projection) (device : ℕ)
    (s : DeviceStateSnapshot) : Prop :=
  (∀ priorAfter, projected[stateKey device s]? = some priorAfter → priorAfter = s) ∧
    (projected[stateKey device s]? = none → Verifies table device s)

/-- **The states before an action are verified when each is settled.** -/
theorem verifyBefore_eq_true {befores : List DeviceStateSnapshot} :
    Reads.answer table (verifyBefore device projected befores) = .ok true ↔
      ∀ s ∈ befores, Settled table projected device s := by
  induction befores with
  | nil => simp [verifyBefore]
  | cons s befores ih =>
    rw [List.forall_mem_cons, ← ih, verifyBefore, Settled]
    cases hget : projected[stateKey device s]? with
    | some priorAfter =>
      simp only [Option.some.injEq, forall_eq', reduceCtorEq, false_implies, and_true]
      by_cases heq : priorAfter = s
      · simp [heq]
      · simp [heq]
    | none =>
      simp only [reduceCtorEq, false_implies, implies_true, true_implies, true_and,
        Reads.answer_bind]
      rw [bind_eq_ok]
      constructor
      · rintro ⟨verdict, hverdict, h⟩
        cases verdict with
        | true => exact ⟨(verifyCurrent_cons.mp hverdict).1, h⟩
        | false => cases h
      · rintro ⟨hs, h⟩
        exact ⟨true, verifyCurrent_cons.mpr ⟨hs, rfl⟩, h⟩

/-- What is known of every state of a map: that it is under its own key. -/
def Keyed (projected : Projection) : Prop := ∀ k s, projected[k]? = some s → ∃ d, k = stateKey d s

/-- **A state that was taken from the map is settled, and one that was read is where it
verifies.** -/
theorem Sourced.settled_iff {probe : DeviceStateSnapshot} {read : RouterReads DeviceStateSnapshot}
    (h : Sourced table projected device probe read s) (hkeyed : Keyed projected)
    (hread : Reads.answer table read = .ok s → stateKey device s = stateKey device probe) :
    Settled table projected device s ↔
      (projected[stateKey device probe]? = none → Verifies table device s) := by
  rcases h.cases with hget | ⟨hnone, hs⟩
  · obtain ⟨d, hkey⟩ := hkeyed _ _ hget
    obtain ⟨rfl, -, -⟩ := stateKey_inj.mp hkey
    rw [Settled, ← hkey, hget]
    simp
  · rw [Settled, hread hs, hnone]
    simp

/-- A reader that verifies what it reads gives settled states only. -/
theorem Sourced.settled {probe : DeviceStateSnapshot} {read : RouterReads DeviceStateSnapshot}
    (h : Sourced table projected device probe read s) (hkeyed : Keyed projected)
    (hread : Reads.answer table read = .ok s →
      stateKey device s = stateKey device probe ∧ Verifies table device s) :
        Settled table projected device s := by
  refine (h.settled_iff hkeyed fun hs => (hread hs).1).mpr fun hnone => ?_
  rcases h.cases with hget | ⟨-, hs⟩
  · rw [hget] at hnone
    cases hnone
  · exact (hread hs).2

end Agreement

/-! ### Export policies -/

section ExportPolicies

variable {projected : Projection} {neighbor : Text}

/-- The state of the exports of a neighbor, under its key. -/
def ExportProjected (projected : Projection) (device : ℕ) (a : ExportPolicyAttachment) : Prop :=
  projected[stateKey device (.exportPolicyAttachment a)]? = some (.exportPolicyAttachment a)

theorem startsWith_append (p s : Text) : startsWith p (p ++ s) = true := by
  rw [startsWith, stripPrefix_eq_some.mpr rfl]
  rfl

theorem exists_of_startsWith {p s : Text} (h : startsWith p s = true) : ∃ rest, s = p ++ rest := by
  obtain ⟨rest, hrest⟩ := Option.isSome_iff_exists.mp h
  exact ⟨rest, stripPrefix_eq_some.mp hrest⟩

/-- The states whose key has the start of a neighbor's export policies are its export policies. -/
theorem startsWith_stateKey (hneighbor : ':' ∉ neighbor)
    (hs : ∀ a, s = .exportPolicyAttachment a → ':' ∉ a.neighbor) :
    startsWith (natText device ++ ":export_policy:" ++ neighbor ++ ":") (stateKey device' s) =
    true ↔
      device' = device ∧ ∃ a, s = .exportPolicyAttachment a ∧ a.neighbor = neighbor := by
  -- the key of an export policy has the kind between the device and the neighbor
  have hstart : ∀ rest : Text, natText device ++ ":export_policy:" ++ neighbor ++ ":" ++ rest =
      natText device ++ ':' :: (StateKind.exportPolicyAttachment.tag ++ ':' ::
        (neighbor ++ ':' :: rest)) := by
    intro rest
    have hname : (":export_policy:" : Text) =
      ':' :: (StateKind.exportPolicyAttachment.tag ++ [':']) := rfl
    have hcolon : (":" : Text) = [':'] := rfl
    rw [hname, hcolon]
    simp only [List.append_assoc, List.cons_append, List.nil_append]
  constructor
  · intro h
    obtain ⟨rest, hrest⟩ := exists_of_startsWith h
    rw [stateKey_eq, hstart] at hrest
    obtain ⟨hdevice, hrest⟩ := append_cons_inj (not_mem_natText (by decide) _)
      (not_mem_natText (by decide) _) hrest
    obtain ⟨htag, hobject⟩ := append_cons_inj (colon_not_mem_tag _) (colon_not_mem_tag _) hrest
    have hkind := tag_injective _ _ htag
    cases s with
    | exportPolicyAttachment a =>
      exact ⟨natText_injective hdevice, a, rfl, (append_cons_inj (hs a rfl) hneighbor hobject).1⟩
    | _ => cases hkind
  · rintro ⟨rfl, a, rfl, rfl⟩
    have hkey : stateKey device' (.exportPolicyAttachment a) =
        natText device' ++ ":export_policy:" ++ a.neighbor ++ ":" ++ a.addressFamily := by
      rw [stateKey_eq, hstart]
      rfl
    rw [hkey]
    exact startsWith_append _ _

/-- A map with one export policy for each neighbor, each under its own key. -/
structure ExportsApart (projected : Projection) : Prop where
  keyed : Keyed projected
  colon : ∀ (k : Text) (a : ExportPolicyAttachment),
    projected[k]? = some (.exportPolicyAttachment a) → ':' ∉ a.neighbor
  apart : ∀ d a b, ExportProjected projected d a → ExportProjected projected d b →
    a.neighbor = b.neighbor →
    a.addressFamily = b.addressFamily

/-- **The export policy that is found by the start of its key is the one of the neighbor.** -/
theorem projectedExportPolicy_eq_some (h : ExportsApart projected) (hneighbor : ':' ∉ neighbor) :
    projectedExportPolicy projected device neighbor = some s ↔
      ∃ a, s = .exportPolicyAttachment a ∧ a.neighbor = neighbor ∧
        ExportProjected projected device a := by
  have hsound : ∀ s, projectedExportPolicy projected device neighbor = some s →
      ∃ a, s = .exportPolicyAttachment a ∧ a.neighbor = neighbor ∧
        ExportProjected projected device a := by
    intro s hs
    obtain ⟨p, hp, hfound⟩ := List.exists_of_findSome?_eq_some hs
    split at hfound
    · rename_i hstart
      cases hfound
      have hget : projected[p.1]? = some p.2 := Std.TreeMap.mem_toList_iff_getElem?_eq_some.mp hp
      obtain ⟨d, hkey⟩ := h.keyed _ _ hget
      rw [hkey] at hstart hget
      obtain ⟨rfl, a, ha, hname⟩ :=
        (startsWith_stateKey hneighbor fun a ha => h.colon _ a (ha ▸ hget)).mp hstart
      rw [ha] at hget
      exact ⟨a, ha, hname, hget⟩
    · cases hfound
  constructor
  · exact hsound s
  · rintro ⟨a, rfl, rfl, ha⟩
    have hmem : (stateKey device (.exportPolicyAttachment a),
      DeviceStateSnapshot.exportPolicyAttachment a) ∈
        projected.toList := Std.TreeMap.mem_toList_iff_getElem?_eq_some.mpr ha
    have hfound : (projectedExportPolicy projected device a.neighbor).isSome := by
      rw [projectedExportPolicy, List.findSome?_isSome_iff]
      refine ⟨_, hmem, ?_⟩
      rw [if_pos]
      · rfl
      · exact (startsWith_stateKey hneighbor fun b hb => by cases hb; exact hneighbor).mpr ⟨rfl, a,
          rfl, rfl⟩
    obtain ⟨s', hs'⟩ := Option.isSome_iff_exists.mp hfound
    obtain ⟨b, rfl, hname, hb⟩ := hsound s' hs'
    -- two export policies of one neighbor have one address family, so the keys are the same
    have hfamily := h.apart device a b ha hb hname.symm
    have hkey : stateKey device (.exportPolicyAttachment a) =
      stateKey device (.exportPolicyAttachment b) := by
      rw [stateKey_inj]
      exact ⟨rfl, rfl, by
        rw [DeviceStateSnapshot.object, DeviceStateSnapshot.object, hname, hfamily]⟩
    rw [hs', ← hb, ← hkey, ha]

end ExportPolicies

end Rerouter
