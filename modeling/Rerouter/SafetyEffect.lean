import Mathlib.Data.List.Find
import Rerouter.DevicePlan

/-!
# What a policy permits, and what an action does to it

A peer is told a route when the prefix list and the route map of its export policy both permit
it (`Rerouter.ExportPolicyAttachment.permits`), and a prefix list permits what its first
matching entry permits (`Rerouter.NamedPrefixList.permits`). The classification of an action is
right about this (`Rerouter.preparedSafetyEffect_sound`): an additive action withdraws no route,
a destructive one adds none, and one that has no effect has none.

The classification rests on the routes of a list told one by one
(`Rerouter.mem_exactPermittedPrefixes`). They are told right unless a deny entry has a `ge` below
the length of its own prefix; such an entry matches routes that are shorter than its prefix, and
the enumeration takes it to match none of them.
-/

namespace Rerouter

open Text Ipv4 FirstMatch

/-! ### Routes of a policy -/

/-- The network a text of the configuration names. -/
def routeOf (s : Text) : Option Route :=
  (parsePolicyPrefix s).bind fun p => if h : p.2 ≤ 32 then some (Route.ofAddr p.1 p.2 h) else none

namespace PolicyEntry

/-- The address and the length of an entry. -/
def parsed (e : PolicyEntry) : Addr × ℕ := (parsePolicyPrefix e.cidr).get e.valid

/-- An entry, as a prefix list is evaluated with. -/
def toEntry (e : PolicyEntry) : PrefixListEntry :=
  ⟨e.sequence, e.action = .permit, e.parsed.1, e.parsed.2, e.ge, e.le⟩

/-- An entry that matches nothing shorter than its prefix. A router accepts no other `ge`. -/
def InRange (e : PolicyEntry) : Prop := ∀ g ∈ e.ge, e.parsed.2 ≤ g

instance (e : PolicyEntry) : Decidable e.InRange := inferInstanceAs (Decidable (∀ _ ∈ _, _ ≤ _))

end PolicyEntry

/-- The first entry that matches a route decides it, and what no entry matches is denied. -/
def NamedPrefixList.permits (list : NamedPrefixList) (r : Route) : Bool :=
  Rerouter.permits (list.sorted.map PolicyEntry.toEntry) r

/-- The deny entries of a list match nothing shorter than their prefixes. -/
def NamedPrefixList.InRange (list : NamedPrefixList) : Prop :=
  ∀ e ∈ list.entries, e.action = .deny → e.InRange

instance (list : NamedPrefixList) : Decidable list.InRange :=
  inferInstanceAs (Decidable (∀ _ ∈ _, _ → _))

/-- The terms that match a route: any of those of one kind, and some of each kind. -/
def RouteMapClause.holds (term : PolicyTerm → Route → Bool) (c : RouteMapClause)
    (r : Route) : Bool :=
  c.conditions.all fun t => c.conditions.any fun u => decide (u.kind = t.kind) && term u r

/-- The first clause that matches a route decides it, and what no clause matches is denied. -/
def NamedRouteMap.permits (term : PolicyTerm → Route → Bool) (m : NamedRouteMap)
    (r : Route) : Bool :=
  (m.clauses.find? fun c => c.holds term r).any fun c => c.action = .permit

/-- What an export policy permits: a policy that is not set, or not defined, permits all. -/
def ExportPolicyAttachment.permits (term : PolicyTerm → Route → Bool) (a : ExportPolicyAttachment)
    (r : Route) : Bool :=
  (a.prefixList.all fun name =>
      (a.prefixLists.find? fun l => l.name = name).all fun l => l.permits r) &&
    a.routeMap.all fun name =>
      (a.routeMaps.find? fun m => m.name = name).all fun m => m.permits term r

/-! ### Reading a prefix -/

variable {s : Text} {a : Addr} {n : ℕ}

theorem parsePolicyPrefix_eq_some (h : parsePolicyPrefix s = some (a, n)) :
    ∃ ip len, splitOnce '/' s = some (ip, len) ∧ parseAddr ip = some a ∧
      parseUnsigned 255 len = some n ∧ n ≤ 32 := by
  obtain ⟨⟨ip, len⟩, hsplit, h⟩ := Option.bind_eq_some_iff.mp h
  obtain ⟨a', ha, h⟩ := Option.bind_eq_some_iff.mp h
  obtain ⟨n', hn, h⟩ := Option.bind_eq_some_iff.mp h
  split_ifs at h with hle
  obtain ⟨rfl, rfl⟩ := Prod.mk.inj (Option.some.inj h)
  exact ⟨ip, len, hsplit, ha, hn, hle⟩

/-- The length read off the end of a prefix is its length. -/
theorem prefixLength_of_parse (h : parsePolicyPrefix s = some (a, n)) :
    prefixLength s = some n := by
  obtain ⟨ip, len, hsplit, -, hn, -⟩ := parsePolicyPrefix_eq_some h
  have hslash : '/' ∉ len := fun hmem => by
    rcases mem_of_parseUnsigned hn hmem with hc | hc <;> exact absurd hc (by decide)
  rw [prefixLength, rsplitOnce_of_splitOnce hsplit hslash]
  exact hn

theorem parseCidrAny_of_parse (h : parsePolicyPrefix s = some (a, n)) :
    parseCidrAny s = some (networkOf a n, n) := by
  obtain ⟨ip, len, hsplit, ha, hn, hle⟩ := parsePolicyPrefix_eq_some h
  have hip : parseAddr (trim ip) = some a := by rw [trim_of_noWs (noWs_of_parseAddr ha), ha]
  have hlen : parseUnsigned 4294967295 (trim len) = some n := by
    rw [trim_of_noWs (noWs_of_parseUnsigned hn)]
    exact parseUnsigned_mono hn (by omega)
  rw [parseCidrAny, hsplit]
  simp [hip, hlen, show ¬ 32 < n by omega]

theorem routeOf_of_parse (h : parsePolicyPrefix s = some (a, n)) (hn : n ≤ 32) :
    routeOf s = some (Route.ofAddr a n hn) := by
  simp [routeOf, h, hn]

theorem PolicyEntry.parse_cidr (e : PolicyEntry) :
    parsePolicyPrefix e.cidr = some (e.parsed.1, e.parsed.2) := (Option.some_get e.valid).symm

theorem PolicyEntry.length_le (e : PolicyEntry) : e.parsed.2 ≤ 32 :=
  (parsePolicyPrefix_eq_some e.parse_cidr).choose_spec.choose_spec.2.2.2

/-! ### An entry and a candidate -/

/-- **The enumeration matches entries as the router does**, if the entry is in range. -/
theorem PolicyEntry.covers_eq (e : PolicyEntry) (he : e.InRange)
    (h : parsePolicyPrefix s = some (a, n))
    (hn : n ≤ 32) : e.covers s n = e.toEntry.matchesRoute (Route.ofAddr a n hn) := by
  have hcontains : cidrContains e.cidr s =
      (decide (e.parsed.2 ≤ n) && sameNetwork e.parsed.1
        (Route.ofAddr a n hn).network e.parsed.2) := by
    rw [cidrContains, parseCidrAny_of_parse e.parse_cidr, parseCidrAny_of_parse h]
    by_cases hlt : n < e.parsed.2
    · simp [hlt]
    · simp only [hlt, if_false, show e.parsed.2 ≤
        n by omega, decide_true, Bool.true_and, sameNetwork,
        networkOf, Route.ofAddr, mask_mask]
      rw [Bool.eq_iff_iff, decide_eq_true_eq, beq_iff_eq]
      exact eq_comm
  -- an entry in range has its lower bound above its own length
  have hlow : (e.ge.getD e.parsed.2) ≤ n → e.parsed.2 ≤ n := by
    intro hle
    rcases hge : e.ge with _ | g
    · simpa [hge] using hle
    · exact (he g hge).trans (by simpa [hge] using hle)
  rw [PolicyEntry.covers, prefixLength_of_parse e.parse_cidr, Option.getD_some, hcontains,
    PrefixListEntry.matchesRoute, Bool.eq_iff_iff, PrefixListEntry.matchesNet_iff]
  simp only [Bool.and_eq_true, decide_eq_true_eq]
  constructor
  · rintro ⟨⟨hl, hh⟩, -, hsame⟩
    exact ⟨hsame, hl, hh⟩
  · rintro ⟨hsame, hl, hh⟩
    exact ⟨⟨hl, hh⟩, hlow hl, hsame⟩

/-! ### The routes of a list -/

section List

variable {list : NamedPrefixList}

theorem mem_sorted {e : PolicyEntry} : e ∈ list.sorted ↔ e ∈ list.entries := mem_sortByKey

/-- An entry that permits its own prefix only. -/
theorem range_of_permit (hranged : list.sorted.any PolicyEntry.rangedPermit = false)
    {e : PolicyEntry}
    (he : e ∈ list.sorted) (hpermit : e.action = .permit) : e.ge = none ∧ e.le = none := by
  have h := List.any_eq_false.mp hranged e he
  simpa [PolicyEntry.rangedPermit, hpermit] using h

theorem inRange_of_mem (hlist : list.InRange)
    (hranged : list.sorted.any PolicyEntry.rangedPermit = false)
    {e : PolicyEntry} (he : e ∈ list.sorted) : e.InRange := by
  rcases haction : e.action with _ | _
  · rw [PolicyEntry.InRange, (range_of_permit hranged he haction).1]
    rintro g ⟨⟩
  · exact hlist e (mem_sorted.mp he) haction

/-- A candidate is decided as its route is. -/
theorem decides_eq (hlist : list.InRange)
    (hranged : list.sorted.any PolicyEntry.rangedPermit = false)
    (h : parsePolicyPrefix s = some (a, n)) (hn : n ≤ 32) :
    list.decides s = list.permits (Route.ofAddr a n hn) := by
  have hfind : (list.sorted.find? fun e => e.covers s n) =
      list.sorted.find? fun e => e.toEntry.matchesRoute (Route.ofAddr a n hn) := by
    exact List.find?_congr fun e he => e.covers_eq (inRange_of_mem hlist hranged he) h hn
  rw [NamedPrefixList.decides, prefixLength_of_parse h, Option.any_some, hfind,
    NamedPrefixList.permits, permits, decision, reached, firstMatch, List.find?_map,
    Function.comp_def]
  generalize list.sorted.find? (fun e => e.toEntry.matchesRoute (Route.ofAddr a n hn)) = found
  rcases found with _ | e
  · rfl
  · simp [PolicyEntry.toEntry]

theorem mem_candidates :
    s ∈ list.candidates ↔ ∃ e ∈ list.sorted, e.action = .permit ∧ e.cidr = s := by
  simp [NamedPrefixList.candidates, and_assoc]

/-- **The enumeration lists the routes the list permits.** -/
theorem mem_exactPermittedPrefixes {set : Finset Text} (hlist : list.InRange)
    (h : exactPermittedPrefixesFromList list = .ok set) (r : Route) :
    (∃ c ∈ set, routeOf c = some r) ↔ list.permits r = true := by
  rw [exactPermittedPrefixesFromList] at h
  split_ifs at h with hranged hlength
  obtain rfl := Except.ok.inj h
  rw [Bool.not_eq_true] at hranged
  constructor
  · rintro ⟨c, hc, hroute⟩
    obtain ⟨hcandidate, hdecides⟩ := Finset.mem_filter.mp hc
    obtain ⟨e, -, -, rfl⟩ := mem_candidates.mp hcandidate
    rw [routeOf_of_parse e.parse_cidr e.length_le] at hroute
    obtain rfl := Option.some.inj hroute
    rw [← decides_eq hlist hranged e.parse_cidr e.length_le]
    exact hdecides
  · intro hpermits
    -- what decides the route is an entry for its own prefix
    obtain ⟨p, hreached, hpermit⟩ := permits_iff.mp hpermits
    obtain ⟨e, he, rfl⟩ := List.mem_map.mp (mem_of_firstMatch hreached)
    have haction : e.action = .permit := by simpa [PolicyEntry.toEntry] using hpermit
    obtain ⟨hge, hle⟩ := range_of_permit hranged he haction
    obtain ⟨hmatch, -⟩ := firstMatch_eq_some_iff.mp hreached
    obtain ⟨hsame, hlow, hhigh⟩ := PrefixListEntry.matchesNet_iff.mp hmatch
    simp only [PolicyEntry.toEntry, PrefixListEntry.low, PrefixListEntry.high, hge, hle,
      Option.getD_none, Option.isSome_none, Bool.false_eq_true, if_false] at hsame hlow hhigh
    have hr : Route.ofAddr e.parsed.1 e.parsed.2 e.length_le = r := by
      refine Route.eq_of_sameNetwork (le_antisymm hlow hhigh) ?_
      have hlen : r.length = e.parsed.2 := le_antisymm hhigh hlow
      rw [hlen]
      simpa [sameNetwork, Route.ofAddr, mask_mask] using hsame
    refine ⟨e.cidr, Finset.mem_filter.mpr ⟨mem_candidates.mpr ⟨e, he, haction, rfl⟩, ?_⟩, ?_⟩
    · rw [decides_eq hlist hranged e.parse_cidr e.length_le, hr]
      exact hpermits
    · rw [routeOf_of_parse e.parse_cidr e.length_le, hr]

end List

/-! ### Route maps -/

/-- A route map that is safe permits every route. -/
theorem NamedRouteMap.permits_of_permitsAll {term : PolicyTerm → Route → Bool} {m : NamedRouteMap}
    (h : m.permitsAll = true) (r : Route) : m.permits term r = true := by
  simp only [NamedRouteMap.permitsAll, Bool.and_eq_true, Bool.not_eq_true', List.all_eq_true] at h
  rcases hclauses : m.clauses with _ | ⟨c, clauses⟩
  · simp [hclauses] at h
  · have hc := h.2 c (by simp [hclauses])
    simp only [RouteMapClause.permitsAll, Bool.and_eq_true, decide_eq_true_eq, List.isEmpty_iff]
      at hc
    obtain ⟨⟨haction, hconditions⟩, -⟩ := hc
    simp [NamedRouteMap.permits, hclauses, RouteMapClause.holds, hconditions, haction]

/-- Behind a safe route map the prefix list decides. -/
theorem permits_of_routeMapSafe {term : PolicyTerm → Route → Bool}
    {states : List DeviceStateSnapshot}
    {a : ExportPolicyAttachment} (ha : exportPolicy states = some a)
    (h : routeMapSafe states = true) (r : Route) : a.permits term r = a.prefixList.all fun name =>
      (a.prefixLists.find? fun l => l.name = name).all fun l => l.permits r := by
  have hmap : (a.routeMap.all fun name =>
      (a.routeMaps.find? fun m => m.name = name).all fun m => m.permits term r) = true := by
    rw [routeMapSafe, ha, Option.any_some] at h
    rcases hname : a.routeMap with _ | name
    · rfl
    · simp only [hname] at h
      obtain ⟨m, hm, hsafe⟩ := Option.any_eq_true _ _ |>.mp h
      simp [hm, NamedRouteMap.permits_of_permitsAll hsafe]
  rw [ExportPolicyAttachment.permits, hmap, Bool.and_true]

/-- The prefix list of an export policy is in range. -/
def ExportPolicyAttachment.InRange (a : ExportPolicyAttachment) : Prop :=
  ∀ name ∈ a.prefixList, ∀ l ∈ a.prefixLists.find? fun l => l.name = name, l.InRange

instance (a : ExportPolicyAttachment) : Decidable a.InRange :=
  inferInstanceAs (Decidable (∀ _ ∈ _, ∀ _ ∈ _, _))

/-- The routes an export policy behind a safe route map permits. -/
theorem mem_permittedPrefixes {term : PolicyTerm → Route → Bool} {states : List DeviceStateSnapshot}
    {a : ExportPolicyAttachment} {set : Finset Text} (ha : exportPolicy states = some a)
    (hsafe : routeMapSafe states = true) (hrange : a.InRange) (h : permittedPrefixes a = .ok set)
    (r : Route) :
    (∃ c ∈ set, routeOf c = some r) ↔ a.permits term r = true := by
  rw [permits_of_routeMapSafe ha hsafe]
  rw [permittedPrefixes] at h
  rcases hname : a.prefixList with _ | name
  · simp [hname] at h
  · simp only [hname] at h
    rcases hlist : a.prefixLists.find? fun l => decide (l.name = name) with _ | list
    · simp [hlist] at h
    · simp only [hlist] at h
      rw [mem_exactPermittedPrefixes (hrange name hname list hlist) h]
      simp [hlist]

/-! ### Actions -/

/-- What the peer of an action is told: by its export policy, or else by the lists and the maps
among the states. A map whose clauses are not among them is what `named` says. -/
def policyPermits (term : PolicyTerm → Route → Bool) (named : Text → Route → Bool)
    (states : List DeviceStateSnapshot) (r : Route) : Bool :=
  match exportPolicy states with
  | some a => a.permits term r
  | none =>
    states.all fun s =>
      match s with
      | .prefixList _ entries _ =>
        (entries.find? fun e => (routeOf e.cidr).any fun c =>
          (⟨e.sequence, e.permit, c.network, c.length, e.ge, e.le⟩ :
              PrefixListEntry).matchesRoute r).any
            PrefixListSnapshotEntry.permit
      | .routeMapAssignment _ _ _ _ map => map.all fun name => named name r
      | _ => true

/-- A state that says what a peer is told. -/
def DeviceStateSnapshot.isPolicy : DeviceStateSnapshot → Bool
  | .prefixList _ _ _ | .routeMapAssignment _ _ _ _ _ | .exportPolicyAttachment _ => true
  | _ => false

/-- **Where prepared actions come from**: a planner, an inverse that was kept for the action it
undoes, or the reconciliation of one. -/
inductive Prepared : PreparedDeviceAction → Prop where
  | prefixList {a : PreparedDeviceAction} {input : PrepareInput} {peer list cidr output : Text}
      {consumers : List PrefixListConsumer} {render : ℕ → Except Text (List Text)}
      (h : preparePrefixListAction input peer list cidr consumers output render = .ok a) :
      Prepared a
  | routeMap {a : PreparedDeviceAction} {input : PrepareInput} {localAsn beforeAsn : ℕ}
      {neighbor direction requested family : Text} {current : Option Text}
      (h : prepareRouteMap input localAsn neighbor direction requested family beforeAsn current =
        .ok a) :
      Prepared a
  | exportPolicy {a : PreparedDeviceAction} {input : PrepareInput} {neighbor desired : Text}
      {kind : PolicyKind} {read : ExportPolicyAttachment} {mode : PlanMode}
      (h : prepareExportPolicy input neighbor kind desired read mode = .ok a) : Prepared a
  /-- The other planners are about no policy. -/
  | other {a : PreparedDeviceAction} (h : ∀ s ∈ a.before ++ a.after, s.isPolicy = false) :
      Prepared a
  /-- An inverse has a template name of its own. -/
  | inverse {a : PreparedDeviceAction} (heffect : a.effect = .change)
      (hname : a.templateName ≠ ("bgp_export_policy_set" : Text)) : Prepared a
  /-- An inverse that finds its restored state in place. -/
  | reconciled {a : PreparedDeviceAction} (h : Prepared a) :
      Prepared { a with
        commands := []
        before := a.after
        effect := .alreadySatisfied
        inverse := none }

section Satisfied

variable {a : PreparedDeviceAction} (term : PolicyTerm → Route → Bool) (named : Text → Route → Bool)

theorem prefixList_satisfied {input : PrepareInput} {peer list cidr output : Text}
    {consumers : List PrefixListConsumer} {render : ℕ → Except Text (List Text)}
    (h : preparePrefixListAction input peer list cidr consumers output render = .ok a)
    (heffect : a.effect = .alreadySatisfied) (r : Route) :
    policyPermits term named a.before r = policyPermits term named a.after r := by
  obtain ⟨entries, -, h⟩ := bind_eq_ok.mp h
  split at h
  · cases h
  · obtain rfl := eq_of_checked h
    simp [policyPermits, Rerouter.exportPolicy, satisfiedListAction, establishedNeighbor]
  · obtain ⟨commands, -, h⟩ := bind_eq_ok.mp h
    obtain rfl := eq_of_checked h
    cases heffect

theorem routeMap_satisfied {input : PrepareInput} {localAsn beforeAsn : ℕ}
    {neighbor direction requested family : Text} {current : Option Text}
    (h : prepareRouteMap input localAsn neighbor direction requested family beforeAsn current =
      .ok a)
    (heffect : a.effect = .alreadySatisfied) (r : Route) :
    policyPermits term named a.before r = policyPermits term named a.after r := by
  simp only [prepareRouteMap, routeMapAction, effectOf, decide_eq_true_eq] at h
  generalize (if input.templateName = ("bgp_route_map_set" : Text) then some requested else none) =
    desiredMap at h
  split at h
  · cases h
  · obtain rfl := eq_of_checked h
    have hmap : current = desiredMap := by
      by_contra hne
      rw [if_neg hne] at heffect
      cases heffect
    rw [hmap]
    rfl

theorem exportPolicy_satisfied {input : PrepareInput} {neighbor desired : Text} {kind : PolicyKind}
    {read : ExportPolicyAttachment} {mode : PlanMode}
    (h : prepareExportPolicy input neighbor kind desired read mode = .ok a)
    (heffect : a.effect = .alreadySatisfied) (r : Route) :
    policyPermits term named a.before r = policyPermits term named a.after r := by
  rw [prepareExportPolicy] at h
  split at h
  · cases h
  · obtain ⟨proofs, -, h⟩ := bind_eq_ok.mp h
    obtain rfl := eq_of_checked h
    refine congrArg (fun a => ExportPolicyAttachment.permits term a r) ?_
    by_contra hne
    rw [if_neg hne] at heffect
    cases heffect

theorem Prepared.satisfied (h : Prepared a) (heffect : a.effect = .alreadySatisfied) (r : Route) :
    policyPermits term named a.before r = policyPermits term named a.after r := by
  induction h with
  | prefixList h => exact prefixList_satisfied term named h heffect r
  | routeMap h => exact routeMap_satisfied term named h heffect r
  | exportPolicy h => exact exportPolicy_satisfied term named h heffect r
  | other h =>
    -- without a policy among its states an action decides no route
    have hall : ∀ states : List DeviceStateSnapshot, (∀ s ∈ states, s.isPolicy = false) →
        policyPermits term named states r = true := by
      intro states hstates
      have hnone : Rerouter.exportPolicy states = none := by
        induction states with
        | nil => rfl
        | cons s states ih =>
          have hs := hstates s (by simp)
          cases s <;> first
            | exact ih fun t ht => hstates t (List.mem_cons_of_mem _ ht)
            | cases hs
      rw [policyPermits, hnone]
      refine List.all_eq_true.mpr fun s hs => ?_
      have hs := hstates s hs
      cases s <;> first | rfl | cases hs
    rw [hall _ fun s hs => h s (List.mem_append_left _ hs),
      hall _ fun s hs => h s (List.mem_append_right _ hs)]
  | inverse hchange _ =>
    -- an inverse always changes
    rw [heffect] at hchange
    cases hchange
  | reconciled _ _ => rfl

end Satisfied

/-! ### The classification -/

/-- The export policy among some states is in range. -/
def PoliciesInRange (states : List DeviceStateSnapshot) : Prop :=
  ∀ a ∈ Rerouter.exportPolicy states, a.InRange

instance (states : List DeviceStateSnapshot) : Decidable (PoliciesInRange states) :=
  inferInstanceAs (Decidable (∀ _ ∈ _, _))

/-- A classification by routes compares the routes of the two policies. -/
theorem preparedSafetyEffect_compare {a : PreparedDeviceAction} (heffect : a.effect = .change)
    (hproven : preparedSafetyEffect a ≠ .unproven) (hneutral : preparedSafetyEffect a ≠ .neutral) :
    ∃ before after setBefore setAfter, Rerouter.exportPolicy a.before = some before ∧
      Rerouter.exportPolicy a.after = some after ∧ routeMapSafe a.before = true ∧
        routeMapSafe a.after = true ∧ permittedPrefixes before = .ok setBefore ∧
          permittedPrefixes after = .ok setAfter ∧
            preparedSafetyEffect a = compareSets setBefore setAfter := by
  have hchange : a.effect ≠ .alreadySatisfied := by simp [heffect]
  rw [preparedSafetyEffect, if_neg hchange] at hproven hneutral ⊢
  split_ifs at hproven hneutral ⊢ with htemplate hmap hneutralMap hlist hsafe
  all_goals try contradiction
  rcases hbefore : Rerouter.exportPolicy a.before with _ | before
  · simp [hbefore] at hproven
  rcases hafter : Rerouter.exportPolicy a.after with _ | after
  · simp [hbefore, hafter] at hproven
  simp only [hbefore, hafter] at hproven ⊢
  rcases hsetBefore : permittedPrefixes before with _ | setBefore
  · simp [hsetBefore] at hproven
  rcases hsetAfter : permittedPrefixes after with _ | setAfter
  · simp [hsetBefore, hsetAfter] at hproven
  simp only [Bool.or_eq_true, Bool.not_eq_true', not_or, Bool.not_eq_false] at hsafe
  exact ⟨before, after, setBefore, setAfter, rfl, rfl, hsafe.1, hsafe.2, hsetBefore, hsetAfter, rfl⟩

theorem compareSets_subset {before after : Finset Text} :
    (compareSets before after = .additive → before ⊆ after) ∧
      (compareSets before after = .destructive → after ⊆ before) ∧
        (compareSets before after = .noop → before = after) := by
  rw [compareSets]
  split_ifs <;> simp_all

/-- **The classification of an action is right**, on policies whose deny entries match nothing
shorter than their prefixes; and there the routes a list permits are told right. -/
theorem preparedSafetyEffect_sound (term : PolicyTerm → Route → Bool)
    (named : Text → Route → Bool) :
    (∀ a, Prepared a → PoliciesInRange a.before → PoliciesInRange a.after →
      (preparedSafetyEffect a = .additive →
          ∀ r, policyPermits term named a.before r = true →
            policyPermits term named a.after r = true) ∧
        (preparedSafetyEffect a = .destructive →
          ∀ r, policyPermits term named a.after r = true →
            policyPermits term named a.before r = true) ∧
          (preparedSafetyEffect a = .noop →
            ∀ r, policyPermits term named a.before r = policyPermits term named a.after r)) ∧
      ∀ list set, list.InRange → exactPermittedPrefixesFromList list = .ok set →
        ∀ r, (∃ c ∈ set, routeOf c = some r) ↔ list.permits r = true := by
  refine ⟨fun a ha hbefore hafter => ?_,
    fun list set hlist h r => mem_exactPermittedPrefixes hlist h r⟩
  rcases heffect : a.effect with _ | _
  · -- the routes before and after, one by one
    have hroutes : preparedSafetyEffect a ≠ .unproven → preparedSafetyEffect a ≠ .neutral →
        ∃ setBefore setAfter, preparedSafetyEffect a = compareSets setBefore setAfter ∧
          (∀ r, (∃ c ∈ setBefore, routeOf c = some r) ↔
            policyPermits term named a.before r = true) ∧
            ∀ r, (∃ c ∈ setAfter, routeOf c = some r) ↔
              policyPermits term named a.after r = true := by
      intro hproven hneutral
      obtain ⟨before, after, setBefore, setAfter, hb, hf, hsafeB, hsafeA, hsb, hsa, hcompare⟩ :=
        preparedSafetyEffect_compare heffect hproven hneutral
      refine ⟨setBefore, setAfter, hcompare, fun r => ?_, fun r => ?_⟩
      · rw [mem_permittedPrefixes hb hsafeB (hbefore before hb) hsb, policyPermits, hb]
      · rw [mem_permittedPrefixes hf hsafeA (hafter after hf) hsa, policyPermits, hf]
    refine ⟨fun hclass r hr => ?_, fun hclass r hr => ?_, fun hclass r => ?_⟩
    · obtain ⟨setBefore, setAfter, hcompare, hb, hf⟩ :=
        hroutes (by simp [hclass]) (by simp [hclass])
      obtain ⟨c, hc, hroute⟩ := (hb r).mpr hr
      exact (hf r).mp ⟨c, compareSets_subset.1 (hcompare.symm.trans hclass) hc, hroute⟩
    · obtain ⟨setBefore, setAfter, hcompare, hb, hf⟩ :=
        hroutes (by simp [hclass]) (by simp [hclass])
      obtain ⟨c, hc, hroute⟩ := (hf r).mpr hr
      exact (hb r).mp ⟨c, compareSets_subset.2.1 (hcompare.symm.trans hclass) hc, hroute⟩
    · obtain ⟨setBefore, setAfter, hcompare, hb, hf⟩ :=
        hroutes (by simp [hclass]) (by simp [hclass])
      have hsame := compareSets_subset.2.2 (hcompare.symm.trans hclass)
      rw [Bool.eq_iff_iff, ← hb r, ← hf r, hsame]
  · have hnoop : preparedSafetyEffect a = .noop := if_pos heffect
    refine ⟨fun hclass => ?_, fun hclass => ?_, fun _ r => ha.satisfied term named heffect r⟩
    · rw [hnoop] at hclass
      cases hclass
    · rw [hnoop] at hclass
      cases hclass

section Runs

/-- An entry of a list, of a prefix that reads. -/
def policyEntry (sequence : ℕ) (action : PermitDeny) (cidr : Text) (ge : Option ℕ)
    (h : validPrefix cidr = true) : PolicyEntry := ⟨sequence, action, cidr, ge, none, h⟩

/-- A list with one prefix, and a list with one more. -/
def replacementLists : List NamedPrefixList :=
  [⟨"eMA1", [policyEntry 5 .permit "194.105.142.0/24" none (by decide +kernel)]⟩,
    ⟨"eMA2", [policyEntry 5 .permit "194.105.142.0/24" none (by decide +kernel),
      policyEntry 10 .permit "194.102.117.0/24" none (by decide +kernel)]⟩]

/-- A peer that is told the one prefix. -/
def replacementRead : ExportPolicyAttachment :=
  ⟨34501, "192.0.2.1", "ipv4", some "eMA1", none, replacementLists, [], none, none⟩

/-- The action that tells it the other, too. -/
def replacementPlan : PreparedDeviceAction :=
  let before := requirePolicies replacementRead (some "eMA2", none)
  let after := { before with prefixList := some "eMA2" }
  { device := 1
    templateId := 1
    templateName := "bgp_export_policy_set"
    policyKind := some "prefix_list"
    mode := .configurationOnly
    commands := exportAttachmentCommands 34501 "ipv4" "192.0.2.1"
      "neighbor 192.0.2.1 prefix-list eMA2 out"
    before := [.exportPolicyAttachment before]
    after := [.exportPolicyAttachment after]
    verify := [.exportPolicyAttachment after]
    effect := .change
    inverse := some
      { mode := .configurationOnly
        expectedCurrent := [.exportPolicyAttachment after]
        restore := [.exportPolicyAttachment before]
        commands := exportAttachmentCommands 34501 "ipv4" "192.0.2.1"
          "neighbor 192.0.2.1 prefix-list eMA1 out"
        verify := [.exportPolicyAttachment before] } }

theorem prepared_replacementPlan : Prepared replacementPlan := by
  have h : prepareExportPolicy ⟨1, 1, "bgp_export_policy_set", some "prefix_list", by decide⟩
      "192.0.2.1" .prefixList "eMA2" replacementRead .configurationOnly = .ok replacementPlan := by
    decide +kernel
  exact .exportPolicy h

/-- The replacement withdraws no route, and its second list permits what its entries say. -/
theorem replacement_sound :
    (∀ r, policyPermits (fun _ _ => false) (fun _ _ => false) replacementPlan.before r = true →
      policyPermits (fun _ _ => false) (fun _ _ => false) replacementPlan.after r = true) ∧
        ∀ r, (∃ c ∈ ({"194.105.142.0/24", "194.102.117.0/24"} : Finset String).image String.toList,
            routeOf c = some r) ↔
          (⟨"eMA2", [policyEntry 5 .permit "194.105.142.0/24" none (by decide +kernel),
            policyEntry 10 .permit "194.102.117.0/24" none (by decide +kernel)]⟩ :
              NamedPrefixList).permits r =
              true :=
  ⟨((preparedSafetyEffect_sound _ _).1 replacementPlan prepared_replacementPlan (by decide +kernel)
      (by decide +kernel)).1 (by decide +kernel),
    (preparedSafetyEffect_sound (fun _ _ => false) fun _ _ => false).2 _ _ (by decide +kernel)
      (by decide +kernel)⟩

/-- A list whose first entry denies what is shorter than its prefix. -/
def shortRangeList : NamedPrefixList :=
  ⟨"SHORT", [policyEntry 5 .deny "10.0.0.0/24" (some 8) (by decide +kernel),
    policyEntry 10 .permit "10.0.0.0/16" none (by decide +kernel)]⟩

/-- The route `10.0.0.0/16` is told to be permitted, and it is denied. -/
theorem not_exact_shortRangeList : ∃ set, exactPermittedPrefixesFromList shortRangeList = .ok set ∧
    ¬ ∀ r, (∃ c ∈ set, routeOf c = some r) ↔ shortRangeList.permits r = true := by
  refine ⟨{("10.0.0.0/16" : String).toList}, by decide +kernel, fun h => ?_⟩
  have hdenied : shortRangeList.permits (Route.ofAddr 167772160#32 16 (by decide)) = false := by
    decide +kernel
  have hpermitted := (h (Route.ofAddr 167772160#32 16 (by decide))).mp
    ⟨_, Finset.mem_singleton_self _, by decide +kernel⟩
  rw [hdenied] at hpermitted
  cases hpermitted

end Runs

end Rerouter
