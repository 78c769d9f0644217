import Mathlib.Data.List.Chain
import Rerouter.Lib.Overlay
import Rerouter.DeviceVerify

/-!
# What a set of actions is shown to do

`project_action_set` of `reroute/projection.rs`: what an operator approves is not the actions one
by one, but for each device the configuration before them, the one after them, and the one that
undoing them leads back to. The three are gathered in two walks over the actions
(`Rerouter.projectionStates`), the second one backwards, by the keys of the states
(`Rerouter.DeviceStateSnapshot.key`).

Whatever the actions are, what a key has at the end is decided by the actions about that key alone
(`Rerouter.lookup_before`, `Rerouter.lookup_after`, `Rerouter.lookup_revert`). **If the states of a
key chain, and undoing an action leaves the key as the action found it, then undoing them all leaves
it as the first one found it** (`Rerouter.projection_reverts`).
-/

namespace Rerouter

open Text Overlay

/-! ### Keys -/

/-- `key`: what a state is the state of. -/
def DeviceStateSnapshot.key : DeviceStateSnapshot → Text
  | .prefixList name _ _ => "prefix-list:" ++ name
  | .ipv4StaticRoute cidr nextHop tag _ =>
    "v4-route:" ++ cidr ++ ':' :: nextHop ++ ':' :: optionText "None" (tag.map natText)
  | .ipv6StaticRoute cidr nextHop tag _ =>
    "v6-route:" ++ cidr ++ ':' :: nextHop ++ ':' :: optionText "None" (tag.map natText)
  | .routeResolution cidr nextHop _ => "route-resolution:" ++ cidr ++ ':' :: nextHop
  | .bgpAdvertisement neighbor cidr _ _ => "advertisement:" ++ neighbor ++ ':' :: cidr
  | .bgpRoute cidr _ _ => "bgp-route:" ++ cidr
  | .neighborShutdown _ neighbor _ => "neighbor:" ++ neighbor ++ ":shutdown"
  | .bgpNeighborState neighbor _ _ => "neighbor:" ++ neighbor ++ ":operational"
  | .routeMapAssignment _ neighbor direction addressFamily _ =>
    "peer:" ++ neighbor ++ ':' :: direction ++ ':' :: optionText "None"
      (addressFamily.map debugText)
  | .exportPolicyAttachment a => "export-policy:" ++ a.neighbor ++ ':' :: a.addressFamily
  | .interfaceAdmin interface _ => "interface:" ++ interface ++ ":admin"
  | .interfaceOperational interface _ => "interface:" ++ interface ++ ":operational"
  | .interfaceMss interface _ => "interface:" ++ interface ++ ":mss"

/-! ### The two walks -/

/-- `ProjectedChange`. -/
structure ProjectedChange where
  actionIndex : ℕ
  templateName : Text
  effect : PreparedEffect
deriving DecidableEq

/-- `ProjectionState`: what is gathered for a device. -/
structure ProjectionState where
  before : List DeviceStateSnapshot
  after : List DeviceStateSnapshot
  revert : List DeviceStateSnapshot
  changes : List ProjectedChange
deriving DecidableEq

/-- What is gathered for a device no action is on. -/
def ProjectionState.empty : ProjectionState := ⟨[], [], [], []⟩

/-- The first walk, at an action on the device. -/
def ProjectionState.record (st : ProjectionState) (index : ℕ) (a : PreparedDeviceAction) :
    ProjectionState :=
  { st with
    before := a.before.foldl (insertFirst DeviceStateSnapshot.key) st.before
    after := a.after.foldl (upsert DeviceStateSnapshot.key)
      (a.before.foldl (insertFirst DeviceStateSnapshot.key) st.after)
    changes := st.changes ++ [⟨index, a.templateName, a.effect⟩] }

/-- What undoing an action leaves: what its inverse restores, or what was before it. -/
def PreparedDeviceAction.restored (a : PreparedDeviceAction) : List DeviceStateSnapshot :=
  match a.inverse with
  | some inverse => inverse.restore
  | none => a.before

/-- The second walk, at an action on the device. -/
def ProjectionState.undo (st : ProjectionState) (a : PreparedDeviceAction) : ProjectionState :=
  { st with revert := a.restored.foldl (upsert DeviceStateSnapshot.key) st.revert }

/-- What is gathered, by device. -/
abbrev ProjectionStates := Std.TreeMap ℕ ProjectionState compare

/-- The first walk, at an action. -/
def ProjectionStates.record (devices : ProjectionStates) (p : PreparedDeviceAction × ℕ) :
    ProjectionStates :=
  devices.insert p.1.device (((devices[p.1.device]?).getD .empty).record p.2 p.1)

/-- The second walk, at an action. -/
def ProjectionStates.undo (devices : ProjectionStates) (a : PreparedDeviceAction) :
    ProjectionStates :=
  devices.modify a.device fun st => st.undo a

/-- Both walks. -/
def projectionStates (actions : List PreparedDeviceAction) : ProjectionStates :=
  actions.reverse.foldl ProjectionStates.undo (actions.zipIdx.foldl ProjectionStates.record ∅)

/-! ### The text of a configuration -/

/-- The line of an entry. -/
def configuredEntry (list : Text) (sequence : ℕ) (permit : Bool) (cidr : Text)
    (ge le : Option ℕ) : Text :=
  "ip prefix-list " ++ list ++ " seq " ++ natText sequence ++ ' ' ::
    (if permit then ("permit" : Text) else "deny") ++ ' ' :: cidr ++
    (match ge with
      | some v => " ge " ++ natText v
      | none => []) ++
    match le with
      | some v => " le " ++ natText v
      | none => []

/-- The lines of a list of a policy. -/
def policyListLines (l : NamedPrefixList) : List Text :=
  l.entries.map fun e => configuredEntry l.name e.sequence (e.action = .permit) e.cidr e.ge e.le

/-- The lines of a route map. -/
def routeMapLines (m : NamedRouteMap) : List Text :=
  m.clauses.flatMap fun c =>
    ("route-map " ++ m.name ++ ' ' :: (match c.action with
      | .permit => ("permit" : Text)
      | .deny => "deny") ++ ' ' :: natText c.sequence) ::
      (c.conditions.map (fun t => (" match " : Text) ++ t.value) ++ c.sets.map fun t =>
        (" set " : Text) ++ t.value)

/-- The lines that attach the policies of a neighbor. -/
def attachmentLines (a : ExportPolicyAttachment) : List Text :=
  (a.prefixList.map fun name => "  neighbor " ++ a.neighbor ++ " prefix-list " ++ name ++
      " out").toList ++
    (a.routeMap.map fun name => "  neighbor " ++ a.neighbor ++ " route-map " ++ name ++
      " out").toList

/-- The block of an address family. -/
def familyBlock (localAsn : ℕ) (family : Text) (body : List Text) : List Text :=
  ("router bgp " ++ natText localAsn) :: (" address-family " ++ family) ::
    (body ++ ([" exit-address-family"] : List Text))

/-- A word that is there, or not. -/
def wordIf (b : Bool) (word : Text) : Text := if b then word else []

/-- `render_state`. -/
def renderState : DeviceStateSnapshot → Text
  | .prefixList name entries _ =>
    List.intercalate ("\n" : Text)
      (entries.map fun e => configuredEntry name e.sequence e.permit e.cidr e.ge e.le)
  | .routeMapAssignment localAsn neighbor direction addressFamily routeMap =>
    match addressFamily with
    | some family =>
      let line : Text :=
        match routeMap with
        | some m => "neighbor " ++ neighbor ++ " route-map " ++ m ++ ' ' :: direction
        | none => "! neighbor " ++ neighbor ++ " has no " ++ direction ++ " route-map"
      if family = globalFamily then "router bgp " ++ natText localAsn ++ "\n " ++ line
      else "router bgp " ++ natText localAsn ++ "\n address-family " ++ family ++ "\n  " ++ line ++
        "\n exit-address-family"
    | none =>
      match routeMap with
      | some m =>
        "! incomplete scope: router bgp " ++ natText localAsn ++ ", neighbor " ++ neighbor ++
          " route-map " ++ m ++ ' ' :: direction
      | none =>
        "! incomplete scope: router bgp " ++ natText localAsn ++ ", neighbor " ++ neighbor ++
          " has no " ++ direction ++ " route-map"
  | .ipv4StaticRoute cidr nextHop tag present => staticText ⟨false, cidr, nextHop, tag, present⟩
  | .ipv6StaticRoute cidr nextHop tag present => staticText ⟨true, cidr, nextHop, tag, present⟩
  | .neighborShutdown localAsn neighbor shutdown =>
    "router bgp " ++ natText localAsn ++ "\n " ++ wordIf (!shutdown) "no " ++ "neighbor " ++
      neighbor ++ " shutdown"
  | .interfaceAdmin interface shutdown =>
    "interface " ++ interface ++ "\n " ++ wordIf (!shutdown) "no " ++ "shutdown"
  | .interfaceMss interface mss =>
    match mss with
    | some v => "interface " ++ interface ++ "\n ip tcp adjust-mss " ++ natText v
    | none => "interface " ++ interface ++ "\n no ip tcp adjust-mss"
  | .bgpAdvertisement neighbor cidr present _ =>
    "! neighbor " ++ neighbor ++ ' ' :: wordIf (!present) "does not " ++ "advertises " ++ cidr
  | .bgpRoute cidr present _ =>
    "! BGP route " ++ cidr ++ ' ' :: wordIf (!present) "not " ++ "present"
  | .routeResolution cidr nextHop present =>
    "! route " ++ cidr ++ " via " ++ nextHop ++ ' ' :: wordIf (!present) "not " ++ "present"
  | .bgpNeighborState neighbor administrativelyShutdown state =>
    "! neighbor " ++ neighbor ++ ": admin_shutdown=" ++ boolText administrativelyShutdown ++
      ", state=" ++
      state.getD "unknown"
  | .interfaceOperational interface administrativelyDown =>
    "! interface " ++ interface ++ ": administratively_down=" ++ boolText administrativelyDown
  | .exportPolicyAttachment a =>
    List.intercalate ("\n" : Text)
      (familyBlock a.localAsn a.addressFamily (attachmentLines a) ++
        a.prefixLists.flatMap policyListLines ++
        a.routeMaps.flatMap routeMapLines)
where
  boolText (b : Bool) : Text := if b then "true" else "false"
  staticText (r : StaticRoute) : Text :=
    let line : Text := (staticConfigLine r).toOption.getD "! invalid static route evidence"
    if r.present then line else "! absent: " ++ line

/-- The attachments among some states. -/
def attachmentsOf (states : List DeviceStateSnapshot) : List ExportPolicyAttachment :=
  states.filterMap fun
    | .exportPolicyAttachment a => some a
    | _ => none

/-- The blocks of the attachments: one for each AS and address family, in their order. -/
def attachmentSections (attachments : List ExportPolicyAttachment) : List Text :=
  let scopes := (attachments.map fun a => (a.localAsn, a.addressFamily)).dedup.insertionSort fun a
    b =>
    a.1 < b.1 ∨ a.1 = b.1 ∧ a.2 ≤ b.2
  scopes.map fun scope =>
    let lines := (attachments.filter fun a => (a.localAsn, a.addressFamily) =
      scope).flatMap attachmentLines
    List.intercalate ("\n" : Text)
      (familyBlock scope.1 scope.2 (lines.dedup.insertionSort fun a b => a ≤ b))

/-- `render`. The lists and maps of the attachments stand behind them, once each, by name. -/
def renderStates (states : List DeviceStateSnapshot) : Text :=
  let attachments := attachmentsOf states
  let lists := (attachments.flatMap ExportPolicyAttachment.prefixLists).foldl
    (insertFirst NamedPrefixList.name) []
  let maps := (attachments.flatMap ExportPolicyAttachment.routeMaps).foldl
    (insertFirst NamedRouteMap.name) []
  List.intercalate ("\n" : Text)
    ((states.filter fun s => (attachmentsOf [s]).isEmpty).map renderState ++
      attachmentSections attachments ++
      (lists.insertionSort fun a b => a.name ≤ b.name).flatMap policyListLines ++
      (maps.insertionSort fun a b => a.name ≤ b.name).flatMap routeMapLines)

/-! ### The projection -/

/-- `DeviceProjection`. -/
structure DeviceProjection where
  device : ℕ
  beforeConfig : Text
  afterConfig : Text
  revertConfig : Text
  changes : List ProjectedChange
  completeness : Text
  blockers : List Text
deriving DecidableEq

/-- An assignment whose address family is not known. -/
def legacyScope : DeviceStateSnapshot → Bool
  | .routeMapAssignment _ _ _ none _ => true
  | _ => false

/-- What is shown of what was gathered. -/
def ProjectionState.shown (st : ProjectionState) (device : ℕ) : DeviceProjection :=
  let legacy := (st.before ++ st.after ++ st.revert).any legacyScope
  { device
    beforeConfig := renderStates st.before
    afterConfig := renderStates st.after
    revertConfig := renderStates st.revert
    changes := st.changes
    completeness := if legacy then "incomplete" else "complete"
    blockers := if legacy then ["legacy route-map assignment has no proven address-family scope"]
      else [] }

/-- `project_action_set`. -/
def projectActionSet (actions : List PreparedDeviceAction) : Except Text (List DeviceProjection) :=
  do
  actions.forM PreparedDeviceAction.validate
  .ok ((projectionStates actions).toList.map fun p => p.2.shown p.1)

/-! ### What is gathered for one device -/

/-- What is gathered for a device. -/
def projectionOf (actions : List PreparedDeviceAction) (device : ℕ) : ProjectionState :=
  ((projectionStates actions)[device]?).getD .empty

/-- The actions on a device. -/
def actionsOn (device : ℕ) (actions : List PreparedDeviceAction) : List PreparedDeviceAction :=
  actions.filter fun a => a.device = device

variable {actions actions' : List PreparedDeviceAction} {a b : PreparedDeviceAction}
  {device : ℕ} {k : Text}
  {l : List (PreparedDeviceAction × ℕ)} {st : ProjectionState} {devices : ProjectionStates}

theorem getElem?_foldl_record (l : List (PreparedDeviceAction × ℕ)) (devices : ProjectionStates)
    (device : ℕ) :
    ((l.foldl ProjectionStates.record devices)[device]?).getD .empty =
      (l.filter fun p => p.1.device = device).foldl (fun st p => st.record p.2 p.1)
        ((devices[device]?).getD .empty) := by
  induction l generalizing devices with
  | nil => rfl
  | cons p l ih =>
    rw [List.foldl_cons, ih]
    by_cases h : p.1.device = device
    · rw [List.filter_cons_of_pos (by simpa using h), List.foldl_cons]
      simp [ProjectionStates.record, h]
    · rw [List.filter_cons_of_neg (by simpa using h)]
      simp [ProjectionStates.record, Std.TreeMap.getElem?_insert, h]

theorem mem_foldl_record :
    device ∈ l.foldl ProjectionStates.record devices ↔ device ∈ devices ∨
      ∃ p ∈ l, p.1.device = device := by
  induction l generalizing devices with
  | nil => simp
  | cons p l ih =>
    rw [List.foldl_cons, ih]
    simp [ProjectionStates.record, Std.TreeMap.mem_insert, or_assoc, or_left_comm]

theorem getElem?_foldl_undo {undone : List PreparedDeviceAction} :
    (undone.foldl ProjectionStates.undo devices)[device]? =
      (devices[device]?).map fun st => (actionsOn device undone).foldl ProjectionState.undo st := by
  induction undone generalizing devices with
  | nil => simp [actionsOn]
  | cons a undone ih =>
    rw [List.foldl_cons, ih, ProjectionStates.undo, Std.TreeMap.getElem?_modify]
    by_cases h : a.device = device
    · simp [actionsOn, h, Function.comp_def]
    · simp [actionsOn, h]

/-- **What is gathered for a device**: the actions on it are walked over once, and once
backwards. -/
theorem projectionOf_eq (actions : List PreparedDeviceAction) (device : ℕ) :
    projectionOf actions device =
      (actionsOn device actions).reverse.foldl ProjectionState.undo
        ((actions.zipIdx.filter fun p => p.1.device = device).foldl
          (fun st p => st.record p.2 p.1) .empty) := by
  have hfirst := getElem?_foldl_record actions.zipIdx ∅ device
  rw [Std.TreeMap.getElem?_emptyc, Option.getD_none] at hfirst
  have hreverse : actionsOn device actions.reverse = (actionsOn device actions).reverse :=
    List.filter_reverse
  rw [projectionOf, projectionStates, getElem?_foldl_undo, hreverse, ← hfirst]
  cases hdevice : (actions.zipIdx.foldl ProjectionStates.record ∅)[device]? with
  | some st => rfl
  | none =>
    -- No action is on the device, so there is nothing to undo.
    have hnone : actionsOn device actions = [] := by
      rw [actionsOn, List.filter_eq_nil_iff]
      intro a ha hon
      have hmem : device ∈ actions.zipIdx.foldl ProjectionStates.record ∅ := by
        obtain ⟨i, hi⟩ := List.getElem?_of_mem ha
        exact mem_foldl_record.mpr (Or.inr ⟨(a, i), List.mem_zipIdx_iff_getElem?.mpr hi,
          by simpa using hon⟩)
      rw [Std.TreeMap.mem_iff_isSome_getElem?, hdevice] at hmem
      cases hmem
    rw [hnone]
    rfl

/-! ### What is gathered for one key -/

/-- The state of a key before an action. -/
def PreparedDeviceAction.beforeAt (k : Text) (a : PreparedDeviceAction) :
    Option DeviceStateSnapshot :=
  lookup DeviceStateSnapshot.key k a.before

/-- The state of a key after an action: one it only read is left as it was. -/
def PreparedDeviceAction.afterAt (k : Text) (a : PreparedDeviceAction) :
    Option DeviceStateSnapshot :=
  (latest DeviceStateSnapshot.key k a.after).or (a.beforeAt k)

/-- The state of a key once an action is undone. -/
def PreparedDeviceAction.restoredAt (k : Text) (a : PreparedDeviceAction) :
    Option DeviceStateSnapshot :=
  latest DeviceStateSnapshot.key k a.restored

/-- The state of a key after one more action. -/
def laidOver (k : Text) (state : Option DeviceStateSnapshot) (a : PreparedDeviceAction) :
    Option DeviceStateSnapshot :=
  (latest DeviceStateSnapshot.key k a.after).or (state.or (a.beforeAt k))

theorem foldl_undo_of_eq {undone : List PreparedDeviceAction} :
    (undone.foldl ProjectionState.undo st).before = st.before ∧
      (undone.foldl ProjectionState.undo st).after = st.after := by
  induction undone generalizing st with
  | nil => exact ⟨rfl, rfl⟩
  | cons a undone ih => exact ih

theorem lookup_foldl_record (st : ProjectionState) :
    lookup DeviceStateSnapshot.key k (l.foldl (fun st p => st.record p.2 p.1) st).before =
        (lookup DeviceStateSnapshot.key k st.before).or
          ((l.map Prod.fst).findSome? (PreparedDeviceAction.beforeAt k)) ∧
      lookup DeviceStateSnapshot.key k (l.foldl (fun st p => st.record p.2 p.1) st).after =
        (l.map Prod.fst).foldl (laidOver k) (lookup DeviceStateSnapshot.key k st.after) ∧
      (l.foldl (fun st p => st.record p.2 p.1) st).revert = st.revert := by
  induction l generalizing st with
  | nil => exact ⟨by simp, rfl, rfl⟩
  | cons p l ih =>
    obtain ⟨hbefore, hafter, hrevert⟩ := ih (st.record p.2 p.1)
    refine ⟨?_, ?_, hrevert⟩
    · rw [List.foldl_cons, hbefore, ProjectionState.record, lookup_foldl_insertFirst,
        Option.or_assoc]
      rw [List.map_cons, List.findSome?_cons]
      congr 1
      unfold PreparedDeviceAction.beforeAt
      cases lookup DeviceStateSnapshot.key k p.1.before <;> rfl
    · rw [List.foldl_cons, hafter, ProjectionState.record, lookup_foldl_upsert,
        lookup_foldl_insertFirst]
      rfl

theorem map_fst_filter_zipIdx (actions : List PreparedDeviceAction) (device : ℕ) :
    (actions.zipIdx.filter fun p => p.1.device = device).map Prod.fst =
    actionsOn device actions := by
  have hfilter := List.filter_map (f := Prod.fst) (l := actions.zipIdx) (p :=
    fun a => decide (a.device = device))
  rw [List.zipIdx_map_fst] at hfilter
  exact hfilter.symm

/-- **Before the actions**: the first state that one of them found. -/
theorem lookup_before (actions : List PreparedDeviceAction) (device : ℕ) (k : Text) :
    lookup DeviceStateSnapshot.key k (projectionOf actions device).before =
      (actionsOn device actions).findSome? (PreparedDeviceAction.beforeAt k) := by
  rw [projectionOf_eq, foldl_undo_of_eq.1, (lookup_foldl_record .empty).1, map_fst_filter_zipIdx]
  rfl

/-- **After the actions**: what they leave, one after another. -/
theorem lookup_after (actions : List PreparedDeviceAction) (device : ℕ) (k : Text) :
    lookup DeviceStateSnapshot.key k (projectionOf actions device).after =
      (actionsOn device actions).foldl (laidOver k) none := by
  rw [projectionOf_eq, foldl_undo_of_eq.2, (lookup_foldl_record .empty).2.1, map_fst_filter_zipIdx]
  rfl

/-- **Undone**: the first state that one of them leads back to. -/
theorem lookup_revert (actions : List PreparedDeviceAction) (device : ℕ) (k : Text) :
    lookup DeviceStateSnapshot.key k (projectionOf actions device).revert =
      (actionsOn device actions).findSome? (PreparedDeviceAction.restoredAt k) := by
  have hempty : ((actions.zipIdx.filter fun p => p.1.device = device).foldl
      (fun st p => st.record p.2 p.1) ProjectionState.empty).revert = [] :=
    (lookup_foldl_record (k := k) .empty).2.2
  rw [projectionOf_eq, List.foldl_reverse]
  generalize (actions.zipIdx.filter fun p => p.1.device = device).foldl
    (fun st p => st.record p.2 p.1) ProjectionState.empty = st at hempty
  induction actionsOn device actions with
  | nil => rw [List.foldr_nil, hempty]; rfl
  | cons a own ih =>
    rw [List.foldr_cons, ProjectionState.undo, lookup_foldl_upsert, ih, List.findSome?_cons]
    unfold PreparedDeviceAction.restoredAt
    cases latest DeviceStateSnapshot.key k a.restored <;> rfl

/-! ### Chains -/

/-- Whether an action is on a device, and has a state of a key. -/
def about (device : ℕ) (k : Text) (a : PreparedDeviceAction) : Bool :=
  decide (a.device = device) && (a.before ++ a.after ++ a.restored).any fun s => s.key = k

/-- The states of a key chain: an action about it finds what the one before it left. -/
def Chained (device : ℕ) (k : Text) (actions : List PreparedDeviceAction) : Prop :=
  (actions.filter (about device k)).IsChain fun a b => ∀ s ∈ b.beforeAt k, a.afterAt k = some s

/-- Undoing an action leaves a key as the action found it: its inverse restores the state before it,
and an action that has no inverse shows no two states before it. -/
def Restoring (device : ℕ) (k : Text) (actions : List PreparedDeviceAction) : Prop :=
  ∀ a ∈ actions, a.device = device → a.restoredAt k = a.beforeAt k

/-- An action that is not about a key has no state of it. -/
theorem of_not_about (hdevice : a.device = device) (h : about device k a = false) :
    a.beforeAt k = none ∧ a.restoredAt k = none ∧ ∀ s, laidOver k s a = s := by
  have hkey : ∀ s ∈ a.before ++ a.after ++ a.restored, s.key ≠ k := by
    intro s hs heq
    have htrue : about device k a = true := by
      rw [about, hdevice, decide_eq_true rfl, Bool.true_and]
      exact List.any_eq_true.mpr ⟨s, hs, decide_eq_true heq⟩
    rw [h] at htrue
    cases htrue
  have hbefore : a.beforeAt k = none := lookup_eq_none.mpr fun s hs => hkey s (by simp [hs])
  have hafter : latest DeviceStateSnapshot.key k a.after = none :=
    latest_eq_none.mpr fun s hs => hkey s (by simp [hs])
  refine ⟨hbefore, latest_eq_none.mpr fun s hs => hkey s (by simp [hs]), fun s => ?_⟩
  rw [laidOver, hafter, hbefore]
  simp

/-- One of the two states of an action about a key is there. -/
theorem afterAt_ne_none (ha : about device k a = true) (hrestores : a.restoredAt k = a.beforeAt k) :
    a.afterAt k ≠ none := by
  intro hnone
  obtain ⟨hafter, hbefore⟩ := Option.or_eq_none_iff.mp hnone
  rw [hbefore] at hrestores
  obtain ⟨s, hs, hkey⟩ := List.any_eq_true.mp (Bool.and_eq_true_iff.mp ha).2
  have hkey : s.key = k := of_decide_eq_true hkey
  simp only [List.mem_append] at hs
  rcases hs with (hs | hs) | hs
  · exact lookup_eq_none.mp hbefore s hs hkey
  · exact latest_eq_none.mp hafter s hs hkey
  · exact latest_eq_none.mp hrestores s hs hkey

theorem findSome?_actionsOn {f : PreparedDeviceAction → Option DeviceStateSnapshot}
    (hf : ∀ a, a.device = device → about device k a = false → f a = none)
    (actions : List PreparedDeviceAction) :
    (actionsOn device actions).findSome? f = (actions.filter (about device k)).findSome? f := by
  induction actions with
  | nil => rfl
  | cons a actions ih =>
    rw [actionsOn] at ih ⊢
    by_cases hdevice : a.device = device
    · rw [List.filter_cons_of_pos (by simpa using hdevice), List.findSome?_cons, ih]
      cases habout : about device k a with
      | false => rw [List.filter_cons_of_neg (by simp [habout]), hf a hdevice habout]
      | true => rw [List.filter_cons_of_pos habout, List.findSome?_cons]
    · have habout : about device k a = false := by simp [about, hdevice]
      rw [List.filter_cons_of_neg (by simpa using hdevice),
        List.filter_cons_of_neg (by simp [habout]), ih]

theorem foldl_laidOver_actionsOn (actions : List PreparedDeviceAction)
    (s : Option DeviceStateSnapshot) :
    (actionsOn device actions).foldl (laidOver k) s =
    (actions.filter (about device k)).foldl (laidOver k) s := by
  induction actions generalizing s with
  | nil => rfl
  | cons a actions ih =>
    rw [actionsOn] at ih ⊢
    by_cases hdevice : a.device = device
    · rw [List.filter_cons_of_pos (by simpa using hdevice), List.foldl_cons, ih]
      cases habout : about device k a with
      | false => rw [List.filter_cons_of_neg (by simp [habout]), (of_not_about hdevice habout).2.2]
      | true => rw [List.filter_cons_of_pos habout, List.foldl_cons]
    · have habout : about device k a = false := by simp [about, hdevice]
      rw [List.filter_cons_of_neg (by simpa using hdevice),
        List.filter_cons_of_neg (by simp [habout]), ih]

/-- **What a chain leaves is what its last action leaves.** -/
theorem foldl_laidOver_of_chain {own : List PreparedDeviceAction}
    (hchain : own.IsChain fun a b => ∀ s ∈ b.beforeAt k, a.afterAt k = some s)
    (hown : ∀ a ∈ own, a.afterAt k ≠ none) :
    own.foldl (laidOver k) none = own.getLast?.bind (PreparedDeviceAction.afterAt k) := by
  induction own using List.reverseRecOn with
  | nil => rfl
  | append_singleton own a ih =>
    obtain ⟨hchain, -, hlink⟩ := List.isChain_append.mp hchain
    have ih := ih hchain fun b hb => hown b (by simp [hb])
    rw [List.foldl_append, ih, List.getLast?_concat, Option.bind_some, List.foldl_cons,
      List.foldl_nil]
    have hsome := hown a (by simp)
    rw [PreparedDeviceAction.afterAt] at hsome ⊢
    rw [laidOver]
    cases hafter : latest DeviceStateSnapshot.key k a.after with
    | some s => rfl
    | none =>
      -- The action only read the key, and what it found is what was left to it.
      rw [hafter, Option.none_or] at hsome
      obtain ⟨s, hs⟩ := Option.ne_none_iff_exists'.mp hsome
      rw [hs]
      cases hlast : own.getLast? with
      | none => rfl
      | some b =>
        rw [Option.bind_some, hlink b hlast a rfl s hs]
        rfl

/-- The state before all, off the actions about the key. -/
theorem lookup_before_about (actions : List PreparedDeviceAction) (device : ℕ) (k : Text) :
    lookup DeviceStateSnapshot.key k (projectionOf actions device).before =
      (actions.filter (about device k)).findSome? (PreparedDeviceAction.beforeAt k) := by
  rw [lookup_before, findSome?_actionsOn fun a hdevice habout => (of_not_about hdevice habout).1]

theorem lookup_after_about (actions : List PreparedDeviceAction) (device : ℕ) (k : Text) :
    lookup DeviceStateSnapshot.key k (projectionOf actions device).after =
      (actions.filter (about device k)).foldl (laidOver k) none := by
  rw [lookup_after, foldl_laidOver_actionsOn]

theorem lookup_revert_about (actions : List PreparedDeviceAction) (device : ℕ) (k : Text) :
    lookup DeviceStateSnapshot.key k (projectionOf actions device).revert =
      (actions.filter (about device k)).findSome? (PreparedDeviceAction.restoredAt k) := by
  rw [lookup_revert, findSome?_actionsOn fun a hdevice habout => (of_not_about hdevice habout).2.1]

theorem on_of_about (h : about device k a = true) : a.device = device :=
  of_decide_eq_true (Bool.and_eq_true_iff.mp h).1

/-- **The states of a chain**: what its first action found, what its last action leaves, and, once
all are undone, what its first action found. -/
theorem states_of_chain (hchain : Chained device k actions)
    (hrestores : Restoring device k actions) :
    lookup DeviceStateSnapshot.key k (projectionOf actions device).before =
        (actions.filter (about device k)).findSome? (PreparedDeviceAction.beforeAt k) ∧
      lookup DeviceStateSnapshot.key k (projectionOf actions device).after =
        (actions.filter (about device k)).getLast?.bind (PreparedDeviceAction.afterAt k) ∧
      lookup DeviceStateSnapshot.key k (projectionOf actions device).revert =
        lookup DeviceStateSnapshot.key k (projectionOf actions device).before := by
  have hown : ∀ a ∈ actions.filter (about device k), a.restoredAt k = a.beforeAt k := by
    intro a ha
    obtain ⟨ha, habout⟩ := List.mem_filter.mp ha
    exact hrestores a ha (on_of_about habout)
  refine ⟨lookup_before_about actions device k, ?_, ?_⟩
  · rw [lookup_after_about]
    exact foldl_laidOver_of_chain hchain fun a ha =>
      afterAt_ne_none (List.mem_filter.mp ha).2 (hown a ha)
  · rw [lookup_revert_about, lookup_before_about, ← List.head?_filterMap, ← List.head?_filterMap,
      List.filterMap_congr hown]

/-! ### The law -/

/-- **What is shown to be approved.** Every device that an action is on has one projection, and it
is gathered key by key. Where the states of a key chain, and undoing an action leaves the key as the
action found it, the state before all is the first that an action found, the state after all is the
one the last action about the key leaves, and the state that undoing leads back to is the one before
all. And each of the three is decided by the actions about the key, in their order, whatever actions
on other keys or devices stand between them. -/
theorem projection_reverts {ps : List DeviceProjection} (h : projectActionSet actions = .ok ps) :
    (∀ a ∈ actions, ∃ p ∈ ps, p.device = a.device) ∧
    ∀ p ∈ ps, p = (projectionOf actions p.device).shown p.device ∧ ∀ k,
      let own := actions.filter (about p.device k)
      let before := lookup DeviceStateSnapshot.key k (projectionOf actions p.device).before
      let after := lookup DeviceStateSnapshot.key k (projectionOf actions p.device).after
      let revert := lookup DeviceStateSnapshot.key k (projectionOf actions p.device).revert
      (Chained p.device k actions → Restoring p.device k actions →
        before = own.findSome? (PreparedDeviceAction.beforeAt k) ∧
        after = own.getLast?.bind (PreparedDeviceAction.afterAt k) ∧
        revert = before) ∧
      ∀ actions', actions'.filter (about p.device k) = own →
        lookup DeviceStateSnapshot.key k (projectionOf actions' p.device).before = before ∧
        lookup DeviceStateSnapshot.key k (projectionOf actions' p.device).after = after ∧
        lookup DeviceStateSnapshot.key k (projectionOf actions' p.device).revert = revert := by
  obtain ⟨u, hvalid, h⟩ := bind_eq_ok.mp h
  obtain rfl := Except.ok.inj h
  constructor
  · intro a ha
    -- a device has a state as soon as one of its actions is recorded, and undoing keeps it
    obtain ⟨i, hi⟩ := List.getElem?_of_mem ha
    have hmem : a.device ∈ actions.zipIdx.foldl ProjectionStates.record ∅ :=
      mem_foldl_record.mpr (Or.inr ⟨(a, i), List.mem_zipIdx_iff_getElem?.mpr hi, rfl⟩)
    obtain ⟨st, hst⟩ := Option.isSome_iff_exists.mp (Std.TreeMap.mem_iff_isSome_getElem?.mp hmem)
    have hboth : (projectionStates actions)[a.device]? =
        some ((actionsOn a.device actions.reverse).foldl ProjectionState.undo st) := by
      rw [projectionStates, getElem?_foldl_undo, hst]
      rfl
    exact ⟨_, List.mem_map.mpr ⟨(a.device, _),
      Std.TreeMap.mem_toList_iff_getElem?_eq_some.mpr hboth, rfl⟩, rfl⟩
  intro p hp
  obtain ⟨⟨device, st⟩, hmem, rfl⟩ := List.mem_map.mp hp
  have hst : projectionOf actions device = st := by
    rw [projectionOf, Std.TreeMap.mem_toList_iff_getElem?_eq_some.mp hmem]
    rfl
  refine ⟨by rw [← hst]; rfl, fun k => ⟨fun hchain hrestores => ?_, fun actions' hown => ?_⟩⟩
  · exact states_of_chain hchain hrestores
  -- a lookup by a key depends on the actions about that key only
  · rw [lookup_before_about, lookup_after_about, lookup_revert_about, hown, lookup_before_about,
      lookup_after_about, lookup_revert_about]
    exact ⟨rfl, rfl, rfl⟩

/-- A change of the route map of the peer 192.0.2.1. -/
def mapChange (before after : Option Text) : PreparedDeviceAction :=
  let map := DeviceStateSnapshot.routeMapAssignment 64500 "192.0.2.1" "out" (some "default_ipv4")
  { device := 1
    templateId := 1
    templateName := "bgp_route_map_set"
    policyKind := none
    mode := .routing
    commands := ["configure terminal"]
    before := [map before]
    after := [map after]
    verify := [map after]
    effect := .change
    inverse := some
      { mode := .routing
        expectedCurrent := [map after]
        restore := [map before]
        commands := ["configure terminal"]
        verify := [map before] } }

/-- A reading of the MSS of an interface, which is as it is wanted. -/
def mssRead : PreparedDeviceAction :=
  { device := 1
    templateId := 2
    templateName := "iface_tcp_adjust_mss"
    policyKind := none
    mode := .routing
    commands := []
    before := [.interfaceMss "Gi0/0" (some 1452)]
    after := [.interfaceMss "Gi0/0" (some 1452)]
    verify := [.interfaceMss "Gi0/0" (some 1452)]
    effect := .alreadySatisfied
    inverse := none }

/-- Two changes of one route map, and a reading between them. -/
def twoMapChanges : List PreparedDeviceAction :=
  [mapChange none (some "A"), mssRead, mapChange (some "A") (some "B")]

/-- No route map before, `B` after, and none once both changes are undone. -/
theorem projection_reverts_twoMapChanges :
    lookup DeviceStateSnapshot.key "peer:192.0.2.1:out:Some(\"default_ipv4\")"
    (projectionOf twoMapChanges 1).before =
        some (.routeMapAssignment 64500 "192.0.2.1" "out" (some "default_ipv4") none) ∧
    lookup DeviceStateSnapshot.key "peer:192.0.2.1:out:Some(\"default_ipv4\")"
    (projectionOf twoMapChanges 1).after =
        some (.routeMapAssignment 64500 "192.0.2.1" "out" (some "default_ipv4") (some "B")) ∧
    lookup DeviceStateSnapshot.key "peer:192.0.2.1:out:Some(\"default_ipv4\")"
    (projectionOf twoMapChanges 1).revert =
        some (.routeMapAssignment 64500 "192.0.2.1" "out" (some "default_ipv4") none) := by
  have hprojected : projectActionSet twoMapChanges =
    .ok [(projectionOf twoMapChanges 1).shown 1] := by decide +kernel
  obtain ⟨-, hlaw⟩ := projection_reverts hprojected
  obtain ⟨-, hkeys⟩ := hlaw _ List.mem_cons_self
  have hchain : Chained 1 "peer:192.0.2.1:out:Some(\"default_ipv4\")" twoMapChanges := by
    unfold Chained
    decide +kernel
  have hrestores : Restoring 1 "peer:192.0.2.1:out:Some(\"default_ipv4\")" twoMapChanges := by
    unfold Restoring
    decide +kernel
  obtain ⟨hbefore, hafter, hrevert⟩ := (hkeys _).1 hchain hrestores
  have hfound := hbefore.trans (by decide +kernel : _ = some
    (DeviceStateSnapshot.routeMapAssignment 64500 "192.0.2.1" "out" (some "default_ipv4") none))
  exact ⟨hfound, hafter.trans (by decide +kernel), hrevert.trans hfound⟩

end Rerouter
