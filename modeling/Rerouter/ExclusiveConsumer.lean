import Mathlib.Data.List.Dedup
import Rerouter.DeviceEvidence

/-!
# Who consumes a prefix list

`ssh/mod.rs`, `ensure_exclusive_prefix_list_consumer`: before the list of one peer is changed, the
configuration has to show that nobody else uses it. Three readings are looked at. The `router bgp`
section gives the neighbor statements that name the list, the route maps their `match` statements,
and the whole configuration everything that is neither.

A statement of the whole configuration that has the form of a neighbor's or of a `match` is left to
the other two readings, and is not looked for in them. So a list that has one consumer in the
section may have others in the configuration. **The whole configuration shows one consumer exactly
if the readings agree** (`Rerouter.oneConsumer_iff_agree`): its neighbor statements about the list
are those of the section, in the same place and each once, and it has a `match` statement only if
the route maps have one.
-/

namespace Rerouter

open Text

/-! ### The statements of a configuration -/

/-- A statement that defines the list. -/
def isDefinition (list : Text) : List Text → Bool
  | ip :: verb :: name :: _ => ip = ("ip" : Text) && verb = ("prefix-list" : Text) && name = list
  | _ => false

/-- A statement about a neighbor that names the list. -/
def isNeighborStatement (list : Text) : List Text → Bool
  | [head, _, verb, name, direction] =>
    head = ("neighbor" : Text) && verb = ("prefix-list" : Text) && name = list &&
      (direction = ("in" : Text) || direction = ("out" : Text))
  | _ => false

/-- A `match` statement that names the list. -/
def isMatchStatement (list : Text) : List Text → Bool
  | head :: ip :: address :: verb :: names =>
    head = ("match" : Text) && ip = ("ip" : Text) && address = ("address" : Text) &&
      verb = ("prefix-list" : Text) && names.contains list
  | _ => false

/-- Where a line of a configuration stands: whether in the `router bgp` section, and in which
address family of it. -/
structure Scope where
  inBgp : Bool
  family : Option Text
deriving DecidableEq

/-- Where the line behind a line stands. A line that is not indented opens a section. -/
def Scope.after (scope : Scope) (line : Text) : Scope :=
  if (line.head?).any fun c => !isWhitespace c then ⟨startsWith "router bgp " (trim line), none⟩
  else
    match stripPrefix "address-family " (trim line) with
    | some family => { scope with family := some family }
    | none =>
      if trim line = ("exit-address-family" : Text) then { scope with family := none } else scope

/-- The statements that name a list, with where they stand, without those that define it. -/
def referencesFrom (list : Text) : Scope → List Text → List (Scope × List Text)
  | _, [] => []
  | scope, line :: ls =>
    if (splitWhitespace (trim line)).contains list && !isDefinition list
      (splitWhitespace (trim line)) then
      (scope, splitWhitespace (trim line)) :: referencesFrom list (scope.after line) ls
    else referencesFrom list (scope.after line) ls

/-- The statements of a configuration that name a list. -/
def references (fullConfig list : Text) : List (Scope × List Text) :=
  referencesFrom list ⟨false, none⟩ (lines fullConfig)

/-- The statement by which a peer consumes a list. -/
def outStatement (list peer : Text) : List Text :=
  [("neighbor" : Text), peer, ("prefix-list" : Text), list, ("out" : Text)]

/-- **One consumer**: of all the statements that name the list, only one does not define it, and it
is the one of the peer, outbound, under `router bgp` and in no address family. -/
def OneConsumer (fullConfig list peer : Text) : Prop :=
  ∃ scope : Scope, references fullConfig list = [(scope, outStatement list peer)] ∧
    scope.inBgp = true ∧ scope.family = none

/-! ### The readings -/

/-- The consumers of the section. -/
def sectionConsumers (bgpConfig list : Text) : List PrefixListConsumer :=
  ((lines bgpConfig).foldl (ConsumerScan.read list) ⟨none, []⟩).consumers

/-- The consumers of the route maps. -/
def mapConsumers (routeMapConfig list : Text) : List PrefixListConsumer :=
  ((lines routeMapConfig).foldl (MatchScan.read list) ⟨none, []⟩).consumers

/-- The consumer that a neighbor statement of the configuration is, if it stands under `router
bgp`. -/
def statementConsumer (list : Text) (r : Scope × List Text) : Option PrefixListConsumer :=
  if r.1.inBgp then neighborConsumer r.1.family list r.2.tail else none

/-- The neighbor statements of the configuration that name the list. -/
def neighborStatements (fullConfig list : Text) : List (Option PrefixListConsumer) :=
  ((references fullConfig list).filter fun r => isNeighborStatement list r.2).map
    (statementConsumer list)

/-- **The readings agree**: the neighbor statements of the configuration are those of the section,
each once, and a `match` statement of the configuration is not missing from the route maps. -/
structure Agree (bgpConfig routeMapConfig fullConfig list : Text) : Prop where
  neighbors : (neighborStatements fullConfig list).Perm
    ((sectionConsumers bgpConfig list).dedup.map some)
  matches' : (∃ r ∈ references fullConfig list, isMatchStatement list r.2 = true) →
    mapConsumers routeMapConfig list ≠ []

variable {bgp routeMaps fullConfig list peer line : Text} {ls : List Text} {words : List Text}
  {c : PrefixListConsumer} {r : Scope × List Text}

/-! ### What the readers find -/

theorem mem_foldl_consumers {st : ConsumerScan}
    (h : c ∈ (ls.foldl (ConsumerScan.read list) st).consumers) :
    c ∈ st.consumers ∨ ∃ family words, neighborConsumer family list words = some c := by
  induction ls generalizing st with
  | nil => exact Or.inl h
  | cons line ls ih =>
    rcases ih h with h | h
    · unfold ConsumerScan.read at h
      split at h
      · exact Or.inl h
      · split at h
        · exact Or.inl h
        · split at h
          · rcases List.mem_append.mp h with h | h
            · exact Or.inl h
            · exact Or.inr ⟨_, _, Option.mem_toList.mp h⟩
          · exact Or.inl h
    · exact Or.inr h

theorem kind_of_mem_mapConsumers {st : MatchScan}
    (h : c ∈ (ls.foldl (MatchScan.read list) st).consumers) :
    c ∈ st.consumers ∨ c.kind = ("route_map" : Text) := by
  induction ls generalizing st with
  | nil => exact Or.inl h
  | cons line ls ih =>
    rcases ih h with h | h
    · unfold MatchScan.read at h
      split at h
      · exact Or.inl h
      · split at h
        · split at h
          · rcases List.mem_append.mp h with h | h
            · exact Or.inl h
            · rw [List.mem_singleton.mp h]
              exact Or.inr rfl
          · exact Or.inl h
        · exact Or.inl h
    · exact Or.inr h

/-- **A neighbor statement that is a global consumer** is one of an address, in no address
family. -/
theorem neighborConsumer_eq_some {family : Option Text}
    (h : neighborConsumer family list words = some c)
    (hkind : c.kind = ("neighbor" : Text)) : family = none ∧ isIpAddr c.owner = true ∧
      words = [c.owner, ("prefix-list" : Text), list, c.direction] := by
  unfold neighborConsumer at h
  split at h
  · rename_i owner verb name direction
    split at h
    · rename_i hwords
      obtain ⟨rfl, rfl, -⟩ := hwords
      cases h
      cases family with
      -- inside an address family the kind is another one
      | some family =>
        dsimp only at hkind
        rw [Option.isSome_some, if_pos rfl] at hkind
        exact absurd hkind (by decide)
      | none =>
        dsimp only [Option.isSome_none] at hkind ⊢
        rw [if_neg (by decide)] at hkind
        cases howner : isIpAddr owner with
        | true => exact ⟨rfl, rfl, rfl⟩
        -- and so it is for an owner that is no address
        | false =>
          rw [howner] at hkind
          exact absurd hkind (by decide)
    · cases h
  · cases h

theorem knownReference_eq : knownReference list words =
    (isDefinition list words || isNeighborStatement list words || isMatchStatement list words) :=
    rfl

theorem mem_referencesFrom {scope : Scope} (h : r ∈ referencesFrom list scope ls) :
    ∃ line ∈ ls, r.2 = splitWhitespace (trim line) ∧ list ∈ splitWhitespace (trim line) ∧
      isDefinition list (splitWhitespace (trim line)) = false := by
  induction ls generalizing scope with
  | nil => cases h
  | cons line ls ih =>
    rw [referencesFrom] at h
    split at h
    · rename_i hnames
      rw [Bool.and_eq_true, Bool.not_eq_true', List.contains_iff_mem] at hnames
      rcases List.mem_cons.mp h with rfl | h
      · exact ⟨line, List.mem_cons_self, rfl, hnames.1, hnames.2⟩
      · obtain ⟨l, hl, hwords⟩ := ih h
        exact ⟨l, List.mem_cons_of_mem _ hl, hwords⟩
    · obtain ⟨l, hl, hwords⟩ := ih h
      exact ⟨l, List.mem_cons_of_mem _ hl, hwords⟩

/-- **What is known where the list is found exclusive**: the section has one consumer, the route
maps have none, and every statement that names the list has a known form. -/
theorem readings_of_ok {consumers : List PrefixListConsumer}
    (h : ensureExclusivePrefixListConsumer bgp routeMaps fullConfig list peer = .ok consumers) :
    (sectionConsumers bgp list).dedup = [⟨"neighbor", peer, "out"⟩] ∧ isIpAddr peer = true ∧
      mapConsumers routeMaps list = [] ∧ ∀ r ∈ references fullConfig list,
        isNeighborStatement list r.2 = true ∨ isMatchStatement list r.2 = true := by
  -- sorting and merging keep the members, so the one entry left is the only member of all
  let all := sectionConsumers bgp list ++ mapConsumers routeMaps list ++
    unclassifiedConsumers fullConfig list
  have hfields : (prefixListConsumers bgp routeMaps fullConfig list).map
    (fun c => (c.kind, c.owner, c.direction)) =
      ([("neighbor", peer, "out")] : List (Text × Text × Text)) := by
    simp only [ensureExclusivePrefixListConsumer] at h
    split at h
    · assumption
    · cases h
  obtain ⟨c, hc, hcfields⟩ := List.map_eq_singleton_iff.mp hfields
  have hceq : c = ⟨"neighbor", peer, "out"⟩ := by
    cases c
    cases hcfields
    rfl
  rw [hceq] at hc
  have hall : ∀ c ∈ all, c = ⟨"neighbor", peer, "out"⟩ := by
    intro c hmem
    have hsorted : c ∈ prefixListConsumers bgp routeMaps fullConfig list :=
      List.mem_dedup.mpr ((List.mem_insertionSort _).mpr hmem)
    rw [hc] at hsorted
    exact List.mem_singleton.mp hsorted
  have hmem : (⟨"neighbor", peer, "out"⟩ : PrefixListConsumer) ∈ all := by
    have hsorted : (⟨"neighbor", peer, "out"⟩ : PrefixListConsumer) ∈
      prefixListConsumers bgp routeMaps fullConfig list := by
      rw [hc]
      exact List.mem_cons_self
    exact (List.mem_insertionSort _).mp (List.mem_dedup.mp hsorted)
  -- a route map and an unclassified line are of other kinds than the one entry
  have hmaps : mapConsumers routeMaps list = [] := by
    refine List.eq_nil_iff_forall_not_mem.mpr fun c hc => ?_
    have heq := hall c (List.mem_append_left _ (List.mem_append_right _ hc))
    have hne : ("neighbor" : Text) ≠ "route_map" := by decide
    rcases kind_of_mem_mapConsumers hc with hnil | hkind
    · cases hnil
    · rw [heq] at hkind
      exact absurd hkind hne
  have hunclassified : unclassifiedConsumers fullConfig list = [] := by
    refine List.eq_nil_iff_forall_not_mem.mpr fun c hc => ?_
    have heq := hall c (List.mem_append_right _ hc)
    have hne : ("unclassified" : Text) ≠ "neighbor" := by decide
    obtain ⟨line, -, rfl⟩ := List.mem_map.mp hc
    exact absurd (congrArg PrefixListConsumer.kind heq) hne
  have hsection : (⟨"neighbor", peer, "out"⟩ : PrefixListConsumer) ∈ sectionConsumers bgp list := by
    simp only [all, hmaps, hunclassified, List.append_nil] at hmem
    exact hmem
  refine ⟨?_, ?_, hmaps, fun r hr => ?_⟩
  -- the section names the peer at least once, and nothing else
  · refine List.perm_singleton.mp
      ((List.perm_ext_iff_of_nodup (List.nodup_dedup _) (List.nodup_singleton _)).mpr ?_)
    intro c
    rw [List.mem_dedup, List.mem_singleton]
    constructor
    · intro hc
      exact hall c (List.mem_append_left _ (List.mem_append_left _ hc))
    · rintro rfl
      exact hsection
  · rcases mem_foldl_consumers hsection with hnil | ⟨family, words, hconsumer⟩
    · cases hnil
    · exact (neighborConsumer_eq_some hconsumer rfl).2.1
  · obtain ⟨line, hline, hwords, hlist, hdefinition⟩ := mem_referencesFrom hr
    have hknown : knownReference list (splitWhitespace (trim line)) = true := by
      -- an unknown form would be listed as unclassified
      by_contra hunknown
      rw [unclassifiedConsumers, List.map_eq_nil_iff] at hunclassified
      refine List.filter_eq_nil_iff.mp hunclassified line hline ?_
      simp only [List.contains_iff_mem.mpr hlist, Bool.eq_false_of_not_eq_true hunknown,
        Bool.not_false, Bool.and_true]
    rw [knownReference_eq, hdefinition, Bool.false_or, Bool.or_eq_true] at hknown
    rwa [hwords]

/-! ### When the configuration shows one consumer -/

theorem statementConsumer_out (hpeer : isIpAddr peer = true) {scope : Scope}
    (hin : scope.inBgp = true)
    (hfamily : scope.family = none) : statementConsumer list (scope, outStatement list peer) =
      some ⟨"neighbor", peer, "out"⟩ := by
  rw [statementConsumer, if_pos hin, hfamily, outStatement, List.tail_cons, neighborConsumer,
    if_pos ⟨rfl, rfl, Or.inr rfl⟩, Option.isSome_none, if_neg (by decide), if_pos hpeer]

theorem eq_outStatement (h : statementConsumer list r = some ⟨"neighbor", peer, "out"⟩)
    (hform : isNeighborStatement list r.2 = true) :
    r.2 = outStatement list peer ∧ r.1.inBgp = true ∧ r.1.family = none := by
  unfold statementConsumer at h
  split at h
  · rename_i hin
    obtain ⟨hfamily, -, htail⟩ := neighborConsumer_eq_some h rfl
    refine ⟨?_, hin, hfamily⟩
    unfold isNeighborStatement at hform
    split at hform
    · rename_i head owner verb name direction hwords
      rw [hwords, List.tail_cons] at htail
      simp only [Bool.and_eq_true, decide_eq_true_eq] at hform
      rw [hwords, hform.1.1.1, htail]
      rfl
    · cases hform
  · cases h

theorem isNeighborStatement_out : isNeighborStatement list (outStatement list peer) = true := by
  simp [isNeighborStatement, outStatement]

theorem isMatchStatement_out : isMatchStatement list (outStatement list peer) = false := by
  have hne : ("neighbor" : Text) ≠ "match" := by decide
  unfold outStatement
  simp only [isMatchStatement, hne, decide_false, Bool.false_and]

/-- **Where a list is found to be exclusive, the configuration shows one consumer exactly if the
readings agree.** -/
theorem oneConsumer_iff_agree (bgp routeMaps fullConfig list peer : Text)
    (consumers : List PrefixListConsumer)
    (h : ensureExclusivePrefixListConsumer bgp routeMaps fullConfig list peer = .ok consumers) :
    OneConsumer fullConfig list peer ↔ Agree bgp routeMaps fullConfig list := by
  obtain ⟨hsection, hpeer, hmaps, hforms⟩ := readings_of_ok h
  constructor
  · rintro ⟨scope, hreferences, hin, hfamily⟩
    -- the one reference is the statement of the peer, which no match statement looks like
    have hform : ∀ r ∈ references fullConfig list, isNeighborStatement list r.2 = true := by
      intro r hr
      rw [hreferences] at hr
      rw [List.mem_singleton.mp hr]
      exact isNeighborStatement_out
    constructor
    · rw [neighborStatements, List.filter_eq_self.mpr hform, hreferences, List.map_singleton,
        statementConsumer_out hpeer hin hfamily, hsection, List.map_singleton]
    · rintro ⟨r, hr, hmatch⟩
      rw [hreferences] at hr
      rw [List.mem_singleton.mp hr, isMatchStatement_out] at hmatch
      cases hmatch
  · intro hagree
    -- no route map matches the list, so every reference is a neighbor statement
    have hneighbor : ∀ r ∈ references fullConfig list, isNeighborStatement list r.2 = true := by
      intro r hr
      refine (hforms r hr).resolve_right fun hmatch => ?_
      exact hagree.matches' ⟨r, hr, hmatch⟩ hmaps
    have hstatements : (references fullConfig list).map (statementConsumer list) =
      [some ⟨"neighbor", peer, "out"⟩] := by
      have hperm := hagree.neighbors
      rw [neighborStatements, List.filter_eq_self.mpr hneighbor, hsection, List.map_singleton]
        at hperm
      exact List.perm_singleton.mp hperm
    obtain ⟨r, hreferences, hr⟩ := List.map_eq_singleton_iff.mp hstatements
    have hmem : r ∈ references fullConfig list := by rw [hreferences]; exact List.mem_cons_self
    obtain ⟨hwords, hin, hfamily⟩ := eq_outStatement hr (hneighbor r hmem)
    obtain ⟨scope, words⟩ := r
    obtain rfl : words = outStatement list peer := hwords
    exact ⟨scope, hreferences, hin, hfamily⟩

/-- A section with one consumer. -/
def edgeSection :
    Text := ("router bgp 65000\n" : Text) ++ " neighbor 192.0.2.1 prefix-list EDGE out\n"

theorem oneConsumer_iff_agree_edge :
    OneConsumer edgeSection "EDGE" "192.0.2.1" ↔ Agree edgeSection [] edgeSection "EDGE" :=
  oneConsumer_iff_agree edgeSection [] edgeSection "EDGE" "192.0.2.1" [⟨"neighbor",
      "192.0.2.1", "out"⟩]
    (by decide +kernel)

/-- A configuration with another one, that came between the two readings. -/
def edgeConfig : Text := edgeSection ++ " neighbor 192.0.2.2 prefix-list EDGE out\n"

/-- **A list is found to be exclusive that two peers use.** -/
theorem not_oneConsumer_edgeConfig :
    ¬∀ consumers, ensureExclusivePrefixListConsumer edgeSection [] edgeConfig "EDGE" "192.0.2.1" =
      .ok consumers →
      OneConsumer edgeConfig "EDGE" "192.0.2.1" := by
  intro hall
  have hok : ensureExclusivePrefixListConsumer edgeSection [] edgeConfig "EDGE" "192.0.2.1" =
      .ok [⟨"neighbor", "192.0.2.1", "out"⟩] := by decide +kernel
  have htwo : (references edgeConfig "EDGE").length = 2 := by decide +kernel
  obtain ⟨scope, hreferences, -⟩ := hall _ hok
  rw [hreferences] at htwo
  cases htwo

end Rerouter
