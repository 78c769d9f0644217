import Rerouter.Lib.Choice
import Rerouter.RouteContext

/-!
# Whether the order of the lines matters

What the sources name for a peer is a set of lists for each of them (`Rerouter.RouteContext.Names`),
and a peer is stored with a list if its strongest source names this one only. The code enters one
offer after another; what it ends with is read off the set of the offers
(`Rerouter.RouteContext.Standing.Reads`), so their order does not matter.

What does matter is which offers there are. A group answers with the last of its lines, and which
one is last, the order of the lines decides: any choice of one line for each group comes about for
some order (`Rerouter.RouteContext.exists_rearranged`). So a peer is answered as its lines say, and
in every order alike, **exactly if the lines of its groups are settled**
(`Rerouter.RouteContext.neverGuesses_iff_settled`): if each of them has one list it can answer with,
or none, they have no other one.
-/

namespace Rerouter.RouteContext

open Text Gather Choice

/-! ### The offers -/

/-- What the strongest source of a peer offers. -/
def top (os : List Offer) (p : Ipv4.Addr) : Set Text :=
  {n | ∃ s, ⟨p, s, n⟩ ∈ os ∧ ∀ o ∈ os, o.peer = p → s.rank ≤ o.source.rank}

theorem rank_injective {s t : PrefixListSource} (h : s.rank = t.rank) : s = t := by
  cases s <;> cases t <;> first | rfl | cases h

/-- **What is held after some offers**: for each peer the first of its strongest, and that it is
torn if there is another one. -/
structure Standing.Reads (os : List Offer) (st : Standing) : Prop where
  absent : ∀ p, st.best[p]? = none → ∀ o ∈ os, o.peer ≠ p
  present : ∀ p s n, st.best[p]? = some (s, n) → ⟨p, s, n⟩ ∈ os ∧ ∀ o ∈ os, o.peer = p →
    s.rank ≤ o.source.rank
  conflicting : ∀ p, p ∈ st.conflicting ↔ ∃ s n, st.best[p]? = some (s, n) ∧ ∃ n', n' ≠ n ∧
    ⟨p, s, n'⟩ ∈ os

variable {os os' : List Offer} {st : Standing} {o : Offer} {p : Ipv4.Addr} {n : Text}

theorem Standing.getElem?_accept :
    (st.accept o).best[p]? = if o.peer = p then some (o.source, o.name) else st.best[p]? := by
  rw [accept, Std.TreeMap.getElem?_insert]
  by_cases h : o.peer = p
  · rw [if_pos h, if_pos (by rw [h]; exact Std.ReflCmp.compare_self)]
  · rw [if_neg h, if_neg fun heq => h (Std.LawfulEqCmp.eq_of_compare heq)]

theorem Standing.Reads.accept (h : st.Reads os) (hnone : st.best[o.peer]? = none) :
    (st.accept o).Reads (os ++ [o]) := by
  -- the peer had no offer so far
  have hfree := h.absent o.peer hnone
  constructor
  case absent =>
    intro p hp o' ho'
    rw [getElem?_accept] at hp
    split at hp
    · cases hp
    · rename_i hne
      rcases List.mem_append.mp ho' with ho' | ho'
      · exact h.absent p hp o' ho'
      · rwa [List.mem_singleton.mp ho']
  case present =>
    intro p s n hp
    rw [getElem?_accept] at hp
    split at hp
    · rename_i heq
      obtain rfl := heq
      cases hp
      refine ⟨by simp, fun o' ho' hpeer => ?_⟩
      rcases List.mem_append.mp ho' with ho' | ho'
      · exact absurd hpeer (hfree o' ho')
      · rw [List.mem_singleton.mp ho']
    · rename_i hne
      obtain ⟨hmem, hleast⟩ := h.present p s n hp
      refine ⟨List.mem_append_left _ hmem, fun o' ho' hpeer => ?_⟩
      rcases List.mem_append.mp ho' with ho' | ho'
      · exact hleast o' ho' hpeer
      · exact absurd (List.mem_singleton.mp ho' ▸ hpeer) hne
  case conflicting =>
    intro p
    change p ∈ st.conflicting.erase o.peer ↔ _
    rw [Std.TreeSet.mem_erase, h.conflicting p]
    -- the peer of the offer is at one with itself; the others stand as they stood
    by_cases heq : o.peer = p
    · obtain rfl := heq
      refine iff_of_false (fun hmem => hmem.1 Std.ReflCmp.compare_self) ?_
      rintro ⟨s, n, hbest, n', hne, hmem⟩
      rw [getElem?_accept, if_pos rfl] at hbest
      cases hbest
      rcases List.mem_append.mp hmem with hmem | hmem
      · exact hfree _ hmem rfl
      · exact hne (congrArg Offer.name (List.mem_singleton.mp hmem))
    · have hcompare : compare o.peer p ≠ .eq := fun hc => heq (Std.LawfulEqCmp.eq_of_compare hc)
      have hother : ∀ s n', (⟨p, s, n'⟩ : Offer) ∈ os ++ [o] ↔ ⟨p, s, n'⟩ ∈ os := by
        intro s n'
        rw [List.mem_append, List.mem_singleton]
        refine or_iff_left fun h => heq ?_
        rw [← h]
      simp only [getElem?_accept, if_neg heq, hother, ne_eq, hcompare, not_false_eq_true, true_and]

/-- An offer of no stronger source than those before. -/
theorem Standing.Reads.offer (h : st.Reads os) (hle : ∀ o' ∈ os, o'.source.rank ≤ o.source.rank) :
    (st.offer o).Reads (os ++ [o]) := by
  unfold Standing.offer
  split
  · rename_i hnone
    exact h.accept hnone
  · rename_i existing name hbest
    obtain ⟨hmem, hleast⟩ := h.present _ _ _ hbest
    have hrank : existing.rank ≤ o.source.rank := hle _ hmem
    -- What is held of every peer stays as it is, whatever becomes of the conflicts.
    have hnone : ∀ p, st.best[p]? = none → ∀ o' ∈ os ++ [o], o'.peer ≠ p := by
      intro p hp o' ho'
      rcases List.mem_append.mp ho' with ho' | ho'
      · exact h.absent p hp o' ho'
      · rw [List.mem_singleton.mp ho']
        rintro rfl
        rw [hbest] at hp
        cases hp
    have hsome : ∀ p s n, st.best[p]? = some (s, n) →
        (⟨p, s, n⟩ : Offer) ∈ os ++ [o] ∧ ∀ o' ∈ os ++ [o], o'.peer = p →
          s.rank ≤ o'.source.rank := by
      intro p s n hp
      obtain ⟨hmem, hleast⟩ := h.present p s n hp
      refine ⟨List.mem_append_left _ hmem, fun o' ho' hpeer => ?_⟩
      rcases List.mem_append.mp ho' with ho' | ho'
      · exact hleast o' ho' hpeer
      · rw [List.mem_singleton.mp ho']
        exact hle _ hmem
    have hunchanged : (existing = o.source → name = o.name) → ∀ p, p ∈ st.conflicting ↔
        ∃ s n, st.best[p]? = some (s, n) ∧ ∃ n', n' ≠ n ∧ (⟨p, s, n'⟩ : Offer) ∈ os ++ [o] := by
      intro hsame p
      rw [h.conflicting p]
      refine exists_congr fun s => exists_congr fun n => and_congr_right fun hp =>
        exists_congr fun n' =>
        and_congr_right fun hne => ?_
      rw [List.mem_append, List.mem_singleton]
      refine (or_iff_left ?_).symm
      rintro rfl
      rw [hbest] at hp
      cases hp
      exact hne (hsame rfl).symm
    split
    · rename_i hless
      exact ⟨hnone, hsome, hunchanged fun heq => absurd hless (by rw [heq]; omega)⟩
    · rename_i hless
      have heq : existing = o.source := rank_injective (by omega)
      rw [if_pos heq]
      split
      · rename_i hne
        refine ⟨hnone, hsome, fun p => ?_⟩
        change p ∈ st.conflicting.insert o.peer ↔ _
        rw [Std.TreeSet.mem_insert, h.conflicting p]
        constructor
        · rintro (hpeer | ⟨s, n, hp, n', hn', hmem'⟩)
          · obtain rfl := Std.LawfulEqCmp.eq_of_compare hpeer
            refine ⟨existing, name, hbest, o.name, Ne.symm hne, ?_⟩
            rw [heq]
            exact List.mem_append_right _ List.mem_cons_self
          · exact ⟨s, n, hp, n', hn', List.mem_append_left _ hmem'⟩
        · rintro ⟨s, n, hp, n', hn', hmem'⟩
          rcases List.mem_append.mp hmem' with hmem' | hmem'
          · exact Or.inr ⟨s, n, hp, n', hn', hmem'⟩
          · refine Or.inl ?_
            rw [← List.mem_singleton.mp hmem']
            exact Std.ReflCmp.compare_self
      · rename_i hname
        exact ⟨hnone, hsome, hunchanged fun _ => not_not.mp hname⟩

/-- **What is held after all offers**, if the stronger ones come first. -/
theorem Standing.reads_foldl (h : os.Pairwise fun a b => a.source.rank ≤ b.source.rank) :
    (os.foldl Standing.offer {}).Reads os := by
  induction os using List.reverseRecOn with
  | nil =>
    refine ⟨fun _ _ _ ho => absurd ho List.not_mem_nil, fun p s n hp => by simp at hp, fun p => ?_⟩
    exact iff_of_false (by simp) fun ⟨_, _, _, _, _, hmem⟩ => absurd hmem List.not_mem_nil
  | append_singleton os o ih =>
    obtain ⟨hos, -, hle⟩ := List.pairwise_append.mp h
    rw [List.foldl_append, List.foldl_cons, List.foldl_nil]
    exact (ih hos).offer fun o' ho' => hle o' ho' o List.mem_cons_self

theorem Standing.Reads.mem_top {s : PrefixListSource} {m : Text} (h : st.Reads os)
    (hbest : st.best[p]? = some (s, m)) :
    n ∈ top os p ↔ ⟨p, s, n⟩ ∈ os := by
  obtain ⟨hmem, hleast⟩ := h.present p s m hbest
  constructor
  · rintro ⟨t, ht, hleast'⟩
    obtain rfl : s = t := rank_injective (le_antisymm (hleast _ ht rfl) (hleast' _ hmem rfl))
    exact ht
  · intro hn
    exact ⟨s, hn, hleast⟩

/-- **A peer is torn if its strongest source is.** -/
theorem Standing.Reads.mem_conflicting (h : st.Reads os) :
    p ∈ st.conflicting ↔ Torn (top os p) := by
  rw [h.conflicting p]
  constructor
  · rintro ⟨s, n, hbest, n', hne, hmem⟩
    exact ⟨n', (h.mem_top hbest).mpr hmem, n, (h.mem_top hbest).mpr (h.present p s n hbest).1, hne⟩
  · rintro ⟨a, ha, b, hb, hab⟩
    cases hbest : st.best[p]? with
    | none =>
      obtain ⟨s, hmem, -⟩ := ha
      exact absurd rfl (h.absent p hbest _ hmem)
    | some e =>
      obtain ⟨s, n⟩ := e
      by_cases hname : a = n
      · exact ⟨s, n, rfl, b, fun hbn => hab (hname.trans hbn.symm), (h.mem_top hbest).mp hb⟩
      · exact ⟨s, n, rfl, a, hname, (h.mem_top hbest).mp ha⟩

theorem getElem?_foldl_erase (l : List Ipv4.Addr)
    (m : Std.TreeMap Ipv4.Addr (PrefixListSource × Text) compare) :
    (l.foldl (fun best peer => best.erase peer) m)[p]? = if p ∈ l then none else m[p]? := by
  induction l generalizing m with
  | nil => rfl
  | cons q l ih =>
    rw [List.foldl_cons, ih, Std.TreeMap.getElem?_erase]
    by_cases hq : q = p
    · obtain rfl := hq
      simp
    · have hcompare : compare q p ≠ .eq := fun heq => hq (Std.LawfulEqCmp.eq_of_compare heq)
      simp [hcompare, Ne.symm hq]

/-- **A peer is answered with the one list of its strongest source.** -/
theorem Standing.Reads.answers_eq_some (h : st.Reads os) :
    (∃ s, st.answers[p]? = some (s, n)) ↔ Sole (top os p) n := by
  rw [Standing.answers]
  simp only [getElem?_foldl_erase, Std.TreeSet.mem_toList]
  constructor
  · rintro ⟨s, hs⟩
    split_ifs at hs with hconflict
    rw [h.mem_conflicting] at hconflict
    exact sole_of_not_torn hconflict ((h.mem_top hs).mpr (h.present p s n hs).1)
  · intro hsole
    have hconflict : p ∉ st.conflicting := fun hmem => hsole.not_torn (h.mem_conflicting.mp hmem)
    obtain ⟨t, hmem, -⟩ := hsole.1
    cases hbest : st.best[p]? with
    | none => exact absurd rfl (h.absent p hbest _ hmem)
    | some e =>
      obtain ⟨s, m⟩ := e
      refine ⟨s, ?_⟩
      rw [if_neg hconflict, hsole.2 m ((h.mem_top hbest).mpr (h.present p s m hbest).1)]

/-! ### What the sources name, and what is heard of it -/

/-- The lists a source names for a peer. -/
def Names (bgp routeMapCfg : Text) (p : Ipv4.Addr) : PrefixListSource → Set Text
  | .direct => {n | (p, n) ∈ (parseNeighborPolicy bgp).peerPrefixListOut}
  | .peerGroup => {n | ∃ g, (p, g) ∈ (parseNeighborPolicy bgp).groups ∧
      (g, n) ∈ (parseNeighborPolicy bgp).groupPrefixListOut}
  | .routeMap => {n | ∃ m, (p, m) ∈ parseNeighborOutRoutemaps bgp ∧
      (parseRoutemapPrefixLists routeMapCfg).resolved[m]? = some n}
  | .peerGroupRouteMap => {n | ∃ g m, (p, g) ∈ (parseNeighborPolicy bgp).groups ∧
      (g, m) ∈ (parseNeighborPolicy bgp).groupRouteMapOut ∧
      (parseRoutemapPrefixLists routeMapCfg).resolved[m]? = some n}

/-- The groups of a peer that some lines are about. -/
def groupsOf (policy : NeighborPolicy) (entries : List (Text × Text)) (p : Ipv4.Addr) : Set Text :=
  {g | (p, g) ∈ policy.groups ∧ ∃ n, (g, n) ∈ entries}

/-- What the lines of a group say: each of them a list, or none if it is a route map without one. -/
def saidBy (list : Text → Option Text) (entries : List (Text × Text))
    (g : Text) : Set (Option Text) :=
  {o | ∃ n, (g, n) ∈ entries ∧ list n = o}

/-- What the last line of a group says. -/
def heardOf (list : Text → Option Text) (entries : List (Text × Text)) (g : Text) : Option Text :=
  (lastEntry entries)[g]?.bind list

/-- The list a route map stands for. -/
def listOf (routeMapCfg map : Text) : Option Text :=
  (parseRoutemapPrefixLists routeMapCfg).resolved[map]?

/-- What is heard of a source: of a group, what its last line says. -/
def Heard (bgp routeMapCfg : Text) (p : Ipv4.Addr) : PrefixListSource → Set Text
  | .direct => Names bgp routeMapCfg p .direct
  | .peerGroup =>
    Choice.answers (groupsOf (parseNeighborPolicy bgp)
      (parseNeighborPolicy bgp).groupPrefixListOut p)
      (heardOf some (parseNeighborPolicy bgp).groupPrefixListOut)
  | .routeMap => Names bgp routeMapCfg p .routeMap
  | .peerGroupRouteMap =>
    Choice.answers (groupsOf (parseNeighborPolicy bgp) (parseNeighborPolicy bgp).groupRouteMapOut p)
      (heardOf (listOf routeMapCfg) (parseNeighborPolicy bgp).groupRouteMapOut)

variable {bgp bgp' routeMapCfg prefixListCfg : Text} {policy policy' : NeighborPolicy}
  {entries entries' : List (Text × Text)} {g m : Text} {list : Text → Option Text}

theorem lastEntry_eq : (lastEntry entries)[g]? = (valuesOf some g entries).getLast? := by
  rw [lastEntry, getElem?_foldl_put]
  simp

theorem mem_of_lastEntry (h : (lastEntry entries)[g]? = some n) : (g, n) ∈ entries := by
  rw [lastEntry_eq] at h
  obtain ⟨e, he, heq⟩ := mem_valuesOf.mp (List.mem_of_getLast? h)
  cases heq
  exact he

theorem exists_lastEntry (h : (g, n) ∈ entries) : ∃ n', (lastEntry entries)[g]? = some n' := by
  have hmem : n ∈ valuesOf some g entries := mem_valuesOf.mpr ⟨(g, n), h, rfl⟩
  rw [lastEntry_eq]
  exact ⟨_, List.getLast?_eq_some_getLast (List.ne_nil_of_mem hmem)⟩

/-- **A group answers with one of its lines.** -/
theorem chosen_heardOf :
    Chosen (groupsOf policy entries p) (saidBy list entries) (heardOf list entries) := by
  rintro g ⟨-, n, hn⟩
  obtain ⟨n', hlast⟩ := exists_lastEntry hn
  refine ⟨n', mem_of_lastEntry hlast, ?_⟩
  rw [heardOf, hlast, Option.bind_some]

theorem mem_answers_heardOf :
    n ∈ Choice.answers (groupsOf policy entries p) (heardOf list entries) ↔
    ∃ g, (p, g) ∈ policy.groups ∧ heardOf list entries g = some n := by
  constructor
  · rintro ⟨g, ⟨hg, -⟩, hn⟩
    exact ⟨g, hg, hn⟩
  · rintro ⟨g, hg, hn⟩
    obtain ⟨n', hlast, -⟩ := Option.bind_eq_some_iff.mp hn
    exact ⟨g, ⟨hg, n', mem_of_lastEntry hlast⟩, hn⟩

/-- **The offers are what is heard of the sources.** -/
theorem mem_offers {s : PrefixListSource} :
    (⟨p, s, n⟩ : Offer) ∈ offers bgp routeMapCfg ↔ n ∈ Heard bgp routeMapCfg p s := by
  -- a group answers with its last list, or with the list of its last map
  have hlists : n ∈ Heard bgp routeMapCfg p .peerGroup ↔
    ∃ g, (p, g) ∈ (parseNeighborPolicy bgp).groups ∧
      (lastEntry (parseNeighborPolicy bgp).groupPrefixListOut)[g]? = some n := by
    rw [Heard, mem_answers_heardOf]
    simp [heardOf]
  have hmaps : n ∈ Heard bgp routeMapCfg p .peerGroupRouteMap ↔
    ∃ g, (p, g) ∈ (parseNeighborPolicy bgp).groups ∧
      heardOf (listOf routeMapCfg) (parseNeighborPolicy bgp).groupRouteMapOut g = some n := by
    rw [Heard, mem_answers_heardOf]
  simp only [offers, List.mem_append, List.mem_map, List.mem_filterMap, Option.map_eq_some_iff,
    Offer.mk.injEq]
  cases s with
  | direct =>
    simp only [reduceCtorEq, false_and, and_false, exists_false, or_false]
    constructor
    · rintro ⟨e, he, rfl, -, rfl⟩
      exact he
    · intro h
      exact ⟨(p, n), h, rfl, trivial, rfl⟩
  | peerGroup =>
    rw [hlists]
    simp only [reduceCtorEq, false_and, and_false, exists_false, or_false, false_or, true_and]
    constructor
    · rintro ⟨e, he, m, hm, rfl, rfl⟩
      exact ⟨e.2, he, hm⟩
    · rintro ⟨g, hg, hn⟩
      exact ⟨(p, g), hg, n, hn, rfl, rfl⟩
  | routeMap =>
    simp only [reduceCtorEq, false_and, and_false, exists_false, or_false, false_or, true_and]
    constructor
    · rintro ⟨e, he, m, hm, rfl, rfl⟩
      exact ⟨e.2, he, hm⟩
    · rintro ⟨m, hm, hn⟩
      exact ⟨(p, m), hm, n, hn, rfl, rfl⟩
  | peerGroupRouteMap =>
    rw [hmaps]
    simp only [reduceCtorEq, false_and, and_false, exists_false, false_or, true_and]
    constructor
    · rintro ⟨e, he, m, hm, rfl, rfl⟩
      exact ⟨e.2, he, hm⟩
    · rintro ⟨g, hg, hn⟩
      exact ⟨(p, g), hg, n, hn, rfl, rfl⟩

/-- The stronger offers come first. -/
theorem offers_pairwise :
    (offers bgp routeMapCfg).Pairwise fun a b => a.source.rank ≤ b.source.rank := by
  have hsame : ∀ (s : PrefixListSource) (l : List Offer), (∀ o ∈ l, o.source = s) →
      l.Pairwise fun a b => a.source.rank ≤ b.source.rank := by
    intro s l hl
    refine List.pairwise_of_forall_mem_list fun a ha b hb => ?_
    rw [hl a ha, hl b hb]
  have hmap : ∀ (s : PrefixListSource) (l : List (Ipv4.Addr × Text)) (f : Text → Option Text),
      ∀ o ∈ l.filterMap (fun e => (f e.2).map fun name => (⟨e.1, s, name⟩ : Offer)), o.source =
        s := by
    intro s l f o ho
    obtain ⟨e, -, he⟩ := List.mem_filterMap.mp ho
    obtain ⟨name, -, rfl⟩ := Option.map_eq_some_iff.mp he
    rfl
  have hdirect : ∀ o ∈ (parseNeighborPolicy bgp).peerPrefixListOut.map
      (fun e => (⟨e.1, .direct, e.2⟩ : Offer)), o.source = .direct := by
    intro o ho
    obtain ⟨e, -, rfl⟩ := List.mem_map.mp ho
    rfl
  have hgroup := hmap .peerGroup (parseNeighborPolicy bgp).groups
    fun g => (lastEntry (parseNeighborPolicy bgp).groupPrefixListOut)[g]?
  have hroute := hmap .routeMap (parseNeighborOutRoutemaps bgp)
    fun m => (parseRoutemapPrefixLists routeMapCfg).resolved[m]?
  have hlast := hmap .peerGroupRouteMap (parseNeighborPolicy bgp).groups
    fun g => (lastEntry (parseNeighborPolicy bgp).groupRouteMapOut)[g]?.bind
      fun map => (parseRoutemapPrefixLists routeMapCfg).resolved[map]?
  rw [offers]
  refine List.pairwise_append.mpr
    ⟨List.pairwise_append.mpr ⟨List.pairwise_append.mpr ⟨hsame _ _ hdirect, hsame _ _ hgroup, ?_⟩,
    hsame _ _ hroute, ?_⟩, hsame _ _ hlast, ?_⟩
  · intro a ha b hb
    rw [hdirect a ha]
    exact Nat.zero_le _
  · intro a ha b hb
    rw [hroute b hb]
    rcases List.mem_append.mp ha with ha | ha
    · rw [hdirect a ha]
      decide
    · rw [hgroup a ha]
      decide
  · intro a ha b hb
    rw [hlast b hb]
    rcases List.mem_append.mp ha with ha | ha
    · rcases List.mem_append.mp ha with ha | ha
      · rw [hdirect a ha]
        decide
      · rw [hgroup a ha]
        decide
    · rw [hroute a ha]
      decide

/-- **The strongest source is the first of which something is heard.** -/
theorem top_offers {s : PrefixListSource}
    (hs : (Heard bgp routeMapCfg p s).Nonempty ∨ s = .peerGroupRouteMap)
    (hstronger : ∀ t, t.rank < s.rank → Heard bgp routeMapCfg p t = ∅) :
    top (offers bgp routeMapCfg) p = Heard bgp routeMapCfg p s := by
  ext n
  constructor
  · rintro ⟨t, ht, hleast⟩
    have ht := mem_offers.mp ht
    have hle : s.rank ≤ t.rank := by
      by_contra hlt
      rw [hstronger t (by omega)] at ht
      exact ht.elim
    have hge : t.rank ≤ s.rank := by
      rcases hs with ⟨m, hm⟩ | rfl
      · exact hleast ⟨p, s, m⟩ (mem_offers.mpr hm) rfl
      · cases t <;> decide
    rwa [rank_injective (le_antisymm hle hge)]
  · intro hn
    refine ⟨s, mem_offers.mpr hn, fun o ho hpeer => ?_⟩
    by_contra hlt
    obtain ⟨q, t, m⟩ := o
    obtain rfl := hpeer
    have hm := mem_offers.mp ho
    rw [hstronger t (Nat.lt_of_not_le hlt)] at hm
    exact hm.elim

/-- What is heard is named. -/
theorem heard_subset {s : PrefixListSource} :
    Heard bgp routeMapCfg p s ⊆ Names bgp routeMapCfg p s := by
  intro n hn
  cases s with
  | direct => exact hn
  | peerGroup =>
    obtain ⟨g, hg, hn⟩ := mem_answers_heardOf.mp hn
    obtain ⟨m, hlast, hm⟩ := Option.bind_eq_some_iff.mp hn
    cases hm
    exact ⟨g, hg, mem_of_lastEntry hlast⟩
  | routeMap => exact hn
  | peerGroupRouteMap =>
    obtain ⟨g, hg, hn⟩ := mem_answers_heardOf.mp hn
    obtain ⟨m, hlast, hm⟩ := Option.bind_eq_some_iff.mp hn
    exact ⟨g, m, hg, mem_of_lastEntry hlast, hm⟩

/-- Of a group that names a list something is heard. -/
theorem heard_peerGroup_eq_empty :
    Heard bgp routeMapCfg p .peerGroup = ∅ ↔ Names bgp routeMapCfg p .peerGroup = ∅ := by
  constructor
  · intro h
    refine Set.eq_empty_of_forall_notMem ?_
    rintro n ⟨g, hg, hn⟩
    obtain ⟨m, hlast⟩ := exists_lastEntry hn
    have hm : m ∈ Heard bgp routeMapCfg p .peerGroup :=
      mem_answers_heardOf.mpr ⟨g, hg, by rw [heardOf, hlast]; rfl⟩
    rw [h] at hm
    exact hm.elim
  · intro h
    exact Set.subset_eq_empty heard_subset h

/-! ### Settled lines -/

/-- **The lines of the groups of a peer are settled**, where it is their turn: those that name a
list if the peer has none of its own, and those that name a route map if nothing else names a
list. -/
structure PeerSettled (bgp routeMapCfg : Text) (p : Ipv4.Addr) : Prop where
  lists : Names bgp routeMapCfg p .direct = ∅ →
    Settled (groupsOf (parseNeighborPolicy bgp) (parseNeighborPolicy bgp).groupPrefixListOut p)
      (saidBy some (parseNeighborPolicy bgp).groupPrefixListOut)
  maps : Names bgp routeMapCfg p .direct = ∅ → Names bgp routeMapCfg p .peerGroup = ∅ →
    Names bgp routeMapCfg p .routeMap = ∅ →
    Settled (groupsOf (parseNeighborPolicy bgp) (parseNeighborPolicy bgp).groupRouteMapOut p)
      (saidBy (listOf routeMapCfg) (parseNeighborPolicy bgp).groupRouteMapOut)

/-- The first source that names a list, or the last one. -/
theorem exists_first (bgp routeMapCfg : Text) (p : Ipv4.Addr) : ∃ s : PrefixListSource,
    ((Heard bgp routeMapCfg p s).Nonempty ∨ s = .peerGroupRouteMap) ∧
      (∀ t : PrefixListSource, t.rank < s.rank → Names bgp routeMapCfg p t = ∅) := by
  have hle : ∀ t s : PrefixListSource, t.rank < s.rank → t = .direct ∨ t = .peerGroup ∨
    t = .routeMap := by
    intro t s h
    cases t with
    | direct => exact Or.inl rfl
    | peerGroup => exact Or.inr (Or.inl rfl)
    | routeMap => exact Or.inr (Or.inr rfl)
    | peerGroupRouteMap => cases s <;> simp [PrefixListSource.rank] at h
  by_cases hdirect : Names bgp routeMapCfg p .direct = ∅
  · by_cases hgroup : Names bgp routeMapCfg p .peerGroup = ∅
    · by_cases hroute : Names bgp routeMapCfg p .routeMap = ∅
      · refine ⟨.peerGroupRouteMap, Or.inr rfl, fun t ht => ?_⟩
        rcases hle t _ ht with rfl | rfl | rfl
        · exact hdirect
        · exact hgroup
        · exact hroute
      · refine ⟨.routeMap, Or.inl (Set.nonempty_iff_ne_empty.mpr hroute), fun t ht => ?_⟩
        rcases hle t _ ht with rfl | rfl | rfl
        · exact hdirect
        · exact hgroup
        · exact absurd ht (lt_irrefl _)
    · refine ⟨.peerGroup, Or.inl
        (Set.nonempty_iff_ne_empty.mpr (mt heard_peerGroup_eq_empty.mp hgroup)), fun t ht => ?_⟩
      rcases hle t _ ht with rfl | rfl | rfl
      · exact hdirect
      · exact absurd ht (lt_irrefl _)
      · exact absurd ht (by decide)
  · refine ⟨.direct, Or.inl (Set.nonempty_iff_ne_empty.mpr hdirect), fun t ht => ?_⟩
    exact absurd ht (Nat.not_lt_zero _)

theorem stronger_heard {s : PrefixListSource}
    (h : ∀ t : PrefixListSource, t.rank < s.rank → Names bgp routeMapCfg p t = ∅)
    (t : PrefixListSource) (ht : t.rank < s.rank) : Heard bgp routeMapCfg p t = ∅ :=
  Set.subset_eq_empty heard_subset (h t ht)

/-- **A peer whose lines are settled is answered with the one list that its strongest source
names.** -/
theorem PeerSettled.sole (h : PeerSettled bgp routeMapCfg p)
    (hsole : Sole (top (offers bgp routeMapCfg) p) n) :
    ∃ s, Sole (Names bgp routeMapCfg p s) n ∧ ∀ t : PrefixListSource, t.rank < s.rank →
      Names bgp routeMapCfg p t = ∅ := by
  obtain ⟨s, hs, hstronger⟩ := exists_first bgp routeMapCfg p
  rw [top_offers hs (stronger_heard hstronger)] at hsole
  refine ⟨s, ⟨heard_subset hsole.1, fun m hm => hsole.2 m ?_⟩, hstronger⟩
  cases s with
  | direct => exact hm
  | peerGroup =>
    obtain ⟨g, hg, hmem⟩ := hm
    exact (h.lists (hstronger _ (by decide))).mem_answers chosen_heardOf hsole.not_torn ⟨hg, m,
      hmem⟩ ⟨m, hmem, rfl⟩
  | routeMap => exact hm
  | peerGroupRouteMap =>
    obtain ⟨g, map, hg, hmem, hlist⟩ := hm
    have hsettled := h.maps (hstronger _ (by decide)) (hstronger _ (by decide))
      (hstronger _ (by decide))
    exact hsettled.mem_answers chosen_heardOf hsole.not_torn ⟨hg, map, hmem⟩ ⟨map, hmem, hlist⟩

/-- Two sections that have the same lines, in one order or another. -/
structure SameLines (bgp bgp' : Text) : Prop where
  groups : (parseNeighborPolicy bgp').groups.Perm (parseNeighborPolicy bgp).groups
  peerPrefixListOut : (parseNeighborPolicy bgp').peerPrefixListOut.Perm
    (parseNeighborPolicy bgp).peerPrefixListOut
  groupPrefixListOut : (parseNeighborPolicy bgp').groupPrefixListOut.Perm
    (parseNeighborPolicy bgp).groupPrefixListOut
  groupRouteMapOut : (parseNeighborPolicy bgp').groupRouteMapOut.Perm
    (parseNeighborPolicy bgp).groupRouteMapOut
  outRoutemaps : (parseNeighborOutRoutemaps bgp').Perm (parseNeighborOutRoutemaps bgp)
  neighborMaps : (parseNeighborRouteMaps bgp').Perm (parseNeighborRouteMaps bgp)

theorem SameLines.names (h : SameLines bgp bgp') (s : PrefixListSource) :
    Names bgp' routeMapCfg p s = Names bgp routeMapCfg p s := by
  ext n
  cases s with
  | direct => exact h.peerPrefixListOut.mem_iff
  | peerGroup => exact exists_congr fun g => and_congr h.groups.mem_iff h.groupPrefixListOut.mem_iff
  | routeMap => exact exists_congr fun m => and_congr_left fun _ => h.outRoutemaps.mem_iff
  | peerGroupRouteMap =>
    exact exists_congr fun g => exists_congr fun m =>
      and_congr h.groups.mem_iff (and_congr_left fun _ => h.groupRouteMapOut.mem_iff)

theorem groupsOf_congr (hgroups : policy'.groups.Perm policy.groups)
    (hentries : entries'.Perm entries) :
    groupsOf policy' entries' p = groupsOf policy entries p := by
  ext g
  exact and_congr hgroups.mem_iff (exists_congr fun n => hentries.mem_iff)

theorem saidBy_congr (hentries : entries'.Perm entries) :
    saidBy list entries' = saidBy list entries := by
  funext g
  ext o
  exact exists_congr fun n => and_congr_left fun _ => hentries.mem_iff

theorem Choice.Settled.heard (h : Settled (groupsOf policy entries p) (saidBy list entries))
    (hgroups : policy'.groups.Perm policy.groups) (hentries : entries'.Perm entries) :
    (∀ n, Sole (Choice.answers (groupsOf policy entries p) (heardOf list entries)) n ↔
      Sole (Choice.answers (groupsOf policy' entries' p) (heardOf list entries')) n) ∧
    (Torn (Choice.answers (groupsOf policy entries p) (heardOf list entries)) ↔
      Torn (Choice.answers (groupsOf policy' entries' p) (heardOf list entries'))) := by
  have hchosen : Chosen (groupsOf policy' entries' p) (saidBy list entries')
    (heardOf list entries') := chosen_heardOf
  rw [groupsOf_congr hgroups hentries, saidBy_congr hentries] at hchosen
  rw [groupsOf_congr hgroups hentries]
  exact settled_iff.mp h _ _ chosen_heardOf hchosen

/-- **A peer whose lines are settled is answered alike in every order of them.** -/
theorem PeerSettled.same (h : PeerSettled bgp routeMapCfg p) (hlines : SameLines bgp bgp') :
    (∀ n, Sole (top (offers bgp routeMapCfg) p) n ↔ Sole (top (offers bgp' routeMapCfg) p) n) ∧
      (Torn (top (offers bgp routeMapCfg) p) ↔ Torn (top (offers bgp' routeMapCfg) p)) := by
  obtain ⟨s, hs, hstronger⟩ := exists_first bgp routeMapCfg p
  have hstronger' : ∀ t : PrefixListSource, t.rank < s.rank → Names bgp' routeMapCfg p t = ∅ :=
    fun t ht => (hlines.names t).trans (hstronger t ht)
  have hs' : (Heard bgp' routeMapCfg p s).Nonempty ∨ s = .peerGroupRouteMap := by
    refine (em (s = .peerGroupRouteMap)).symm.imp_left fun hne => ?_
    have hnames : (Names bgp' routeMapCfg p s).Nonempty := by
      rw [hlines.names]
      exact (hs.resolve_right hne).mono heard_subset
    cases s with
    | direct => exact hnames
    | peerGroup =>
      exact Set.nonempty_iff_ne_empty.mpr (mt heard_peerGroup_eq_empty.mp hnames.ne_empty)
    | routeMap => exact hnames
    | peerGroupRouteMap => exact absurd rfl hne
  rw [top_offers hs (stronger_heard hstronger), top_offers hs' (stronger_heard hstronger')]
  cases s with
  | direct =>
    have hsame : Names bgp' routeMapCfg p .direct = Names bgp routeMapCfg p .direct :=
      hlines.names .direct
    rw [Heard, Heard, hsame]
    exact ⟨fun _ => Iff.rfl, Iff.rfl⟩
  | peerGroup =>
    exact Choice.Settled.heard (h.lists (hstronger _ (by decide))) hlines.groups
      hlines.groupPrefixListOut
  | routeMap =>
    have hsame : Names bgp' routeMapCfg p .routeMap = Names bgp routeMapCfg p .routeMap :=
      hlines.names .routeMap
    rw [Heard, Heard, hsame]
    exact ⟨fun _ => Iff.rfl, Iff.rfl⟩
  | peerGroupRouteMap =>
    have hsettled := h.maps (hstronger _ (by decide)) (hstronger _ (by decide))
      (hstronger _ (by decide))
    exact Choice.Settled.heard hsettled hlines.groups hlines.groupRouteMapOut

/-! ### The result -/

/-- Two snapshots that differ at most in the order of the applied route maps, which are given as
they stand in the section. -/
structure Alike (a b : RouteContextSnapshot) : Prop where
  prefixLinks : a.prefixLinks = b.prefixLinks
  routeMaps : a.routeMaps = b.routeMaps
  neighborMaps : a.neighborMaps.Perm b.neighborMaps
  dangling : a.dangling = b.dangling
  ambiguousRouteMaps : a.ambiguousRouteMaps = b.ambiguousRouteMaps
  conflictingPeers : a.conflictingPeers = b.conflictingPeers

/-- Two results that are alike. -/
def SameResult : Except RouteContextUnavailable RouteContextSnapshot →
    Except RouteContextUnavailable RouteContextSnapshot → Prop
  | .ok a, .ok b => Alike a b
  | .error e, .error e' => e = e'
  | _, _ => False

/-- What is held after all offers. -/
def standing (bgp routeMapCfg : Text) : Standing := (offers bgp routeMapCfg).foldl Standing.offer {}

theorem reads_standing : (standing bgp routeMapCfg).Reads (offers bgp routeMapCfg) :=
  Standing.reads_foldl offers_pairwise

/-- The lists that are left, without their sources. -/
def leftNames (st : Standing) : Std.TreeMap Ipv4.Addr Text compare := st.answers.map fun _ e => e.2

theorem getElem?_leftNames :
    (leftNames (standing bgp routeMapCfg))[p]? = some n ↔
    Sole (top (offers bgp routeMapCfg) p) n := by
  rw [← reads_standing.answers_eq_some, leftNames, Std.TreeMap.getElem?_map, Option.map_eq_some_iff]
  constructor
  · rintro ⟨⟨s, m⟩, hget, rfl⟩
    exact ⟨s, hget⟩
  · rintro ⟨s, hget⟩
    exact ⟨(s, n), hget, rfl⟩

theorem toList_leftNames : (leftNames st).toList = st.answers.toList.map fun e => (e.1, e.2.2) :=
  Std.TreeMap.toList_map

/-- **What a snapshot says of the peers.** -/
structure Tells (bgp routeMapCfg prefixListCfg : Text) (snap : RouteContextSnapshot) : Prop where
  links : ∀ p n, (p, n) ∈ snap.prefixLinks ↔
    Sole (top (offers bgp routeMapCfg) p) n ∧ n ∈ parsePrefixListNames prefixListCfg
  dangling : ∀ p n, (p, n) ∈ snap.dangling ↔
    Sole (top (offers bgp routeMapCfg) p) n ∧ n ∉ parsePrefixListNames prefixListCfg
  conflicting : ∀ p, p ∈ snap.conflictingPeers ↔ Torn (top (offers bgp routeMapCfg) p)
  ambiguous : ∀ m, m ∈ snap.ambiguousRouteMaps ↔
    m ∈ (parseRoutemapPrefixLists routeMapCfg).ambiguous

theorem tells_of_resolve {snap : RouteContextSnapshot}
    (h : resolveRouteContext bgp routeMapCfg prefixListCfg = .ok snap) :
    Tells bgp routeMapCfg prefixListCfg snap := by
  have hanswers : ∀ p n, (p, n) ∈ ((standing bgp routeMapCfg).answers.toList.map fun e =>
    (e.1, e.2.2)) ↔
      Sole (top (offers bgp routeMapCfg) p) n := by
    intro p n
    rw [← toList_leftNames, Std.TreeMap.mem_toList_iff_getElem?_eq_some, getElem?_leftNames]
  unfold resolveRouteContext at h
  dsimp only at h
  split at h
  · cases h
  · split at h
    · cases h
    · cases h
      refine ⟨fun p n => ?_, fun p n => ?_, fun p => ?_, fun m => Std.TreeSet.mem_toList⟩
      · rw [List.mem_filter]
        exact and_congr (hanswers p n) decide_eq_true_iff
      · rw [List.mem_filter]
        exact and_congr (hanswers p n) decide_eq_true_iff
      · exact Std.TreeSet.mem_toList.trans reads_standing.mem_conflicting

/-- **With the same lines, and every peer settled, the result is the same.** -/
theorem sameResult_of_settled (h : ∀ p, PeerSettled bgp routeMapCfg p)
    (hlines : SameLines bgp bgp') :
    SameResult (resolveRouteContext bgp routeMapCfg prefixListCfg)
      (resolveRouteContext bgp' routeMapCfg prefixListCfg) := by
  have hnames : (leftNames (standing bgp routeMapCfg)).Equiv
    (leftNames (standing bgp' routeMapCfg)) := by
    refine Std.TreeMap.Equiv.of_forall_constGet?_eq fun p => ?_
    refine Option.ext fun n => ?_
    rw [getElem?_leftNames, getElem?_leftNames]
    exact ((h p).same hlines).1 n
  have hlist : (standing bgp routeMapCfg).answers.toList.map (fun e => (e.1, e.2.2)) =
      (standing bgp' routeMapCfg).answers.toList.map fun e => (e.1, e.2.2) := by
    rw [← toList_leftNames, ← toList_leftNames, hnames.toList_eq]
  have hsize : (standing bgp routeMapCfg).answers.size =
    (standing bgp' routeMapCfg).answers.size := by
    rw [← Std.TreeMap.length_toList, ← Std.TreeMap.length_toList]
    simpa using congrArg List.length hlist
  have hempty : (standing bgp routeMapCfg).answers.isEmpty =
    (standing bgp' routeMapCfg).answers.isEmpty := by
    rw [Std.TreeMap.isEmpty_eq_size_eq_zero, Std.TreeMap.isEmpty_eq_size_eq_zero, hsize]
  have hconflicting : (standing bgp routeMapCfg).conflicting.toList =
    (standing bgp' routeMapCfg).conflicting.toList := by
    refine Std.TreeSet.Equiv.toList_eq (Std.TreeSet.Equiv.of_forall_mem_iff fun p => ?_)
    rw [reads_standing.mem_conflicting, reads_standing.mem_conflicting]
    exact ((h p).same hlines).2
  have hnil : ∀ {A : Type} {l l' : List A}, l'.Perm l → (l ≠ [] ↔ l' ≠ []) := by
    intro A l l' hperm
    refine not_congr ⟨fun h => ?_, fun h => ?_⟩
    · rw [h] at hperm
      exact hperm.eq_nil
    · rw [h] at hperm
      exact hperm.symm.eq_nil
  have hfirst : (parseRouteMapNames routeMapCfg = [] ∧
      (parseNeighborRouteMaps bgp ≠ [] ∨ (parseNeighborPolicy bgp).groupRouteMapOut ≠ [])) ↔
      (parseRouteMapNames routeMapCfg = [] ∧
        (parseNeighborRouteMaps bgp' ≠ [] ∨ (parseNeighborPolicy bgp').groupRouteMapOut ≠ [])) :=
    and_congr_right fun _ => or_congr (hnil hlines.neighborMaps) (hnil hlines.groupRouteMapOut)
  have hsecond : (parsePrefixListNames prefixListCfg = [] ∧
    ((parseNeighborPolicy bgp).peerPrefixListOut ≠ [] ∨
      (parseNeighborPolicy bgp).groupPrefixListOut ≠ [] ∨
      (standing bgp routeMapCfg).answers.isEmpty = false)) ↔
      (parsePrefixListNames prefixListCfg = [] ∧
        ((parseNeighborPolicy bgp').peerPrefixListOut ≠ [] ∨
        (parseNeighborPolicy bgp').groupPrefixListOut ≠ [] ∨
        (standing bgp' routeMapCfg).answers.isEmpty = false)) := by
    rw [hempty]
    exact and_congr_right fun _ => or_congr (hnil hlines.peerPrefixListOut)
      (or_congr_left (hnil hlines.groupPrefixListOut))
  have hstanding : (offers bgp routeMapCfg).foldl Standing.offer {} = standing bgp routeMapCfg :=
    rfl
  have hstanding' : (offers bgp' routeMapCfg).foldl Standing.offer {} = standing bgp' routeMapCfg :=
    rfl
  unfold resolveRouteContext
  dsimp only
  rw [hstanding, hstanding']
  by_cases h1 : parseRouteMapNames routeMapCfg = [] ∧
      (parseNeighborRouteMaps bgp ≠ [] ∨ (parseNeighborPolicy bgp).groupRouteMapOut ≠ [])
  · rw [if_pos h1, if_pos (hfirst.mp h1), hlines.neighborMaps.length_eq,
      hlines.groupRouteMapOut.length_eq]
    rfl
  · rw [if_neg h1, if_neg (mt hfirst.mpr h1)]
    by_cases h2 : parsePrefixListNames prefixListCfg = [] ∧
      ((parseNeighborPolicy bgp).peerPrefixListOut ≠ [] ∨
        (parseNeighborPolicy bgp).groupPrefixListOut ≠ [] ∨
        (standing bgp routeMapCfg).answers.isEmpty = false)
    · rw [if_pos h2, if_pos (hsecond.mp h2), hsize, hlines.peerPrefixListOut.length_eq]
      rfl
    · rw [if_neg h2, if_neg (mt hsecond.mpr h2), hlist, hconflicting]
      exact ⟨rfl, rfl, hlines.neighborMaps.symm, rfl, rfl, rfl⟩

/-! ### Rearranging a section -/

/-- A line about a neighbor. -/
def isNeighbor (line : Text) : Bool := startsWith "neighbor " (trim line)

/-- A line that is about no neighbor. -/
def otherLine (line : Text) : Option Text := if isNeighbor line then none else some line

/-- The neighbor lines in another order, and every other line where it was. -/
structure Rearranged (ls ls' : List Text) : Prop where
  others : ls'.map otherLine = ls.map otherLine
  neighbors : (ls'.filter isNeighbor).Perm (ls.filter isNeighbor)

variable {ls ls' ns : List Text} {line : Text}

theorem neighborTokens_of_not (h : isNeighbor line = false) : neighborTokens line = none := by
  rw [isNeighbor, startsWith, Option.isSome_eq_false_iff, Option.isNone_iff_eq_none] at h
  rw [neighborTokens, h, Option.map_none]

theorem policyLine_of_not (h : isNeighbor line = false) : policyLine line = none := by
  rw [policyLine, neighborTokens_of_not h]

/-- What is read off the neighbor lines only. -/
theorem filterMap_filter_isNeighbor {A : Type} {f : Text → Option A}
    (hf : ∀ l, isNeighbor l = false → f l = none)
    (ls : List Text) : (ls.filter isNeighbor).filterMap f = ls.filterMap f := by
  induction ls with
  | nil => rfl
  | cons l ls ih =>
    cases hl : isNeighbor l with
    | true => rw [List.filter_cons_of_pos hl, List.filterMap_cons, List.filterMap_cons, ih]
    | false => rw [List.filter_cons_of_neg (by simp [hl]), ih, List.filterMap_cons_none (hf l hl)]

theorem Rearranged.filterMap {A : Type} {f : Text → Option A} (h : Rearranged ls ls')
    (hf : ∀ l, isNeighbor l = false → f l = none) : (ls'.filterMap f).Perm (ls.filterMap f) := by
  rw [← filterMap_filter_isNeighbor hf, ← filterMap_filter_isNeighbor hf ls]
  exact h.neighbors.filterMap f

/-- **A rearranged section has the same lines.** -/
theorem Rearranged.sameLines (h : Rearranged (lines bgp) (lines bgp')) : SameLines bgp bgp' where
  groups := h.filterMap fun l hl => by rw [policyLine_of_not hl]
  peerPrefixListOut := h.filterMap fun l hl => by rw [policyLine_of_not hl]
  groupPrefixListOut := h.filterMap fun l hl => by rw [policyLine_of_not hl]
  groupRouteMapOut := h.filterMap fun l hl => by rw [policyLine_of_not hl]
  outRoutemaps := h.filterMap fun l hl => by rw [outRoutemapLine, neighborTokens_of_not hl]
  neighborMaps := h.filterMap fun l hl => by rw [routeMapLine, neighborTokens_of_not hl]

/-- A section with other neighbor lines in the place of its own. -/
def refill : List Text → List Text → List Text
  | [], _ => []
  | l :: ls, [] => l :: ls
  | l :: ls, n :: ns => if isNeighbor l then n :: refill ls ns else l :: refill ls (n :: ns)

theorem refill_spec (hns : ∀ n ∈ ns, isNeighbor n = true)
    (hlength : ns.length = (ls.filter isNeighbor).length) :
    (refill ls ns).filter isNeighbor = ns ∧ (refill ls ns).map otherLine = ls.map otherLine := by
  induction ls generalizing ns with
  | nil =>
    obtain rfl := List.length_eq_zero_iff.mp hlength
    exact ⟨rfl, rfl⟩
  | cons l ls ih =>
    cases ns with
    | nil => exact ⟨List.length_eq_zero_iff.mp hlength.symm, rfl⟩
    | cons n ns =>
      rw [refill]
      cases hl : isNeighbor l with
      | true =>
        rw [List.filter_cons_of_pos hl] at hlength
        have hn := hns n List.mem_cons_self
        obtain ⟨hfilter, hmap⟩ := ih (fun m hm => hns m (List.mem_cons_of_mem _ hm))
          (Nat.succ.inj hlength)
        rw [if_pos rfl, List.filter_cons_of_pos hn, hfilter, List.map_cons, List.map_cons, hmap,
          otherLine, otherLine, if_pos hn, if_pos hl]
        exact ⟨rfl, rfl⟩
      | false =>
        have hneg : ¬isNeighbor l = true := by simp [hl]
        rw [List.filter_cons_of_neg hneg] at hlength
        obtain ⟨hfilter, hmap⟩ := ih hns hlength
        rw [if_neg (by decide), List.filter_cons_of_neg hneg, List.map_cons, List.map_cons, hmap]
        exact ⟨hfilter, rfl⟩

/-- Lines, each with its ending. -/
def joinLines (ls : List Text) : Text := ls.flatMap fun l => l ++ ['\r', '\n']

theorem lines_joinLines (h : ∀ l ∈ ls, '\n' ∉ l) : lines (joinLines ls) = ls := by
  induction ls with
  | nil => rfl
  | cons l ls ih =>
    have hl : '\n' ∉ l ++ ['\r'] := by simpa using h l List.mem_cons_self
    have hstrip : stripCr (l ++ ['\r']) = l := by simp [stripCr]
    have hjoin : joinLines (l :: ls) = (l ++ ['\r']) ++ '\n' :: joinLines ls := by simp [joinLines]
    obtain ⟨piece, pieces, hpieces⟩ :=
      List.exists_cons_of_ne_nil (List.splitOn_ne_nil '\n' (joinLines ls))
    have hrest := ih fun m hm => h m (List.mem_cons_of_mem _ hm)
    rw [lines, hpieces] at hrest
    rw [lines, hjoin, List.splitOn_append_cons_self_of_not_mem hl, hpieces]
    simpa [hstrip] using hrest

theorem not_mem_of_mem_lines {s : Text} (h : line ∈ lines s) : '\n' ∉ line := by
  obtain ⟨piece, hpiece, hpre⟩ := exists_of_mem_lines h
  intro hmem
  have hnot := (of_mem_splitOnP hpiece '\n' (hpre.subset hmem)).2
  simp at hnot

/-- **Any lines can be put behind the other ones.** -/
theorem exists_rearranged (bgp : Text) (last : Text → Bool) :
    ∃ bgp', Rearranged (lines bgp) (lines bgp') ∧
    (lines bgp').filter isNeighbor = ((lines bgp).filter isNeighbor).filter (fun l => !last l) ++
      ((lines bgp).filter isNeighbor).filter last := by
  let N := (lines bgp).filter isNeighbor
  have hperm : (N.filter (fun l => !last l) ++ N.filter last).Perm N :=
    List.perm_append_comm.trans (List.filter_append_perm last N)
  have hns : ∀ n ∈ N.filter (fun l => !last l) ++ N.filter last, isNeighbor n = true :=
    fun n hn => (List.mem_filter.mp (hperm.mem_iff.mp hn)).2
  obtain ⟨hfilter, hmap⟩ := refill_spec hns hperm.length_eq
  have hlines : lines (joinLines
    (refill (lines bgp) (N.filter (fun l => !last l) ++ N.filter last))) =
      refill (lines bgp) (N.filter (fun l => !last l) ++ N.filter last) := by
    refine lines_joinLines fun l hl => ?_
    cases hneighbor : isNeighbor l with
    | true =>
      have hmem := List.mem_filter.mpr ⟨hl, hneighbor⟩
      rw [hfilter] at hmem
      exact not_mem_of_mem_lines (List.mem_filter.mp (hperm.mem_iff.mp hmem)).1
    | false =>
      have hmem := List.mem_map_of_mem (f := otherLine) hl
      rw [hmap] at hmem
      obtain ⟨l', hl', heq⟩ := List.mem_map.mp hmem
      have hother : otherLine l = some l := if_neg (by simp [hneighbor])
      rw [hother, otherLine] at heq
      split at heq
      · cases heq
      · cases heq
        exact not_mem_of_mem_lines hl'
  refine ⟨joinLines (refill (lines bgp) (N.filter (fun l => !last l) ++ N.filter last)),
    ⟨?_, ?_⟩, ?_⟩
  · rw [hlines, hmap]
  · rw [hlines, hfilter]
    exact hperm
  · rw [hlines, hfilter]

/-! ### Every choice comes about -/

/-- The last value of a key, if the lines behind have only one. -/
theorem lastEntry_append {front back : List (Text × Text)} (hmem : (g, n) ∈ back)
    (hback : ∀ m, (g, m) ∈ back → m = n) :
    (lastEntry (front ++ back))[g]? = some n := by
  have hvalues : n ∈ valuesOf some g back := mem_valuesOf.mpr ⟨(g, n), hmem, rfl⟩
  have happend : valuesOf some g (front ++ back) = valuesOf some g front ++ valuesOf some g back :=
    List.filterMap_append
  rw [lastEntry_eq, happend, List.getLast?_append_of_ne_nil _ (List.ne_nil_of_mem hvalues)]
  have hlast := List.getLast?_eq_some_getLast (List.ne_nil_of_mem hvalues)
  obtain ⟨e, he, heq⟩ := mem_valuesOf.mp (List.mem_of_getLast? hlast)
  cases heq
  rw [hlast, hback _ he]

/-- The lines that are chosen. -/
def isChosen (lists maps : Text → Option Text) (line : Text) : Bool :=
  match policyLine line with
  | some (.groupList g n) => decide (lists g = some n)
  | some (.groupMap g m) => decide (maps g = some m)
  | _ => false

/-- **Any line of each group can be its last one.** -/
theorem exists_lastEntries (bgp : Text) (lists maps : Text → Option Text) :
    ∃ bgp', Rearranged (lines bgp) (lines bgp') ∧
      (∀ g n, (g, n) ∈ (parseNeighborPolicy bgp).groupPrefixListOut → lists g = some n →
        (lastEntry (parseNeighborPolicy bgp').groupPrefixListOut)[g]? = some n) ∧
      ∀ g m, (g, m) ∈ (parseNeighborPolicy bgp).groupRouteMapOut → maps g = some m →
        (lastEntry (parseNeighborPolicy bgp').groupRouteMapOut)[g]? = some m := by
  obtain ⟨bgp', hrearranged, hneighbors⟩ := exists_rearranged bgp (isChosen lists maps)
  -- What a reader of the lines finds is what it finds in the others, and then in the chosen ones.
  have hread : ∀ f : Text → Option (Text × Text), (∀ l, isNeighbor l = false → f l = none) →
      (lines bgp').filterMap f = (((lines bgp).filter isNeighbor).filter fun l =>
        !isChosen lists maps l).filterMap f ++
        (((lines bgp).filter isNeighbor).filter (isChosen lists maps)).filterMap f := by
    intro f hf
    rw [← filterMap_filter_isNeighbor hf, hneighbors, List.filterMap_append]
  have hchosen : ∀ (f : Text → Option (Text × Text)) (pick : Text → Option Text),
      (∀ l, isNeighbor l = false → f l = none) →
      (∀ l g n, f l = some (g, n) → (isChosen lists maps l = true ↔ pick g = some n)) →
      ∀ g n, (g, n) ∈ (lines bgp).filterMap f → pick g = some n →
        (lastEntry ((lines bgp').filterMap f))[g]? = some n := by
    intro f pick hf hpick g n hmem hgn
    rw [hread f hf]
    refine lastEntry_append ?_ fun m hm => ?_
    · obtain ⟨l, hl, hfl⟩ := List.mem_filterMap.mp hmem
      have hneighbor : isNeighbor l = true := by
        by_contra hnot
        rw [hf l (by simpa using hnot)] at hfl
        cases hfl
      refine List.mem_filterMap.mpr ⟨l,
        List.mem_filter.mpr ⟨List.mem_filter.mpr ⟨hl, hneighbor⟩, ?_⟩, hfl⟩
      exact (hpick l g n hfl).mpr hgn
    · obtain ⟨l, hl, hfl⟩ := List.mem_filterMap.mp hm
      have hgm := (hpick l g m hfl).mp (List.mem_filter.mp hl).2
      exact Option.some.inj (hgm.symm.trans hgn)
  refine ⟨bgp', hrearranged, ?_, ?_⟩
  · refine hchosen _ lists (fun l hl => by rw [policyLine_of_not hl]) fun l g n hfl => ?_
    split at hfl
    · rename_i g' n' hline
      cases hfl
      rw [isChosen, hline]
      exact decide_eq_true_iff
    · cases hfl
  · refine hchosen _ maps (fun l hl => by rw [policyLine_of_not hl]) fun l g m hfl => ?_
    split at hfl
    · rename_i g' m' hline
      cases hfl
      rw [isChosen, hline]
      exact decide_eq_true_iff
    · cases hfl

theorem answers_congr {groups : Set Text} {f f' : Text → Option Text}
    (h : ∀ g ∈ groups, f g = f' g) :
    Choice.answers groups f = Choice.answers groups f' := by
  ext n
  exact exists_congr fun g => and_congr_right fun hg => by rw [h g hg]

/-- **Every choice of the lists of the groups of a peer comes about**, for some order of the
lines. -/
theorem exists_order_lists (hdirect : Names bgp routeMapCfg p .direct = ∅)
    (hnamed : Names bgp routeMapCfg p .peerGroup ≠ ∅) {f : Text → Option Text}
    (hf : Chosen (groupsOf (parseNeighborPolicy bgp) (parseNeighborPolicy bgp).groupPrefixListOut p)
      (saidBy some (parseNeighborPolicy bgp).groupPrefixListOut) f) :
    ∃ bgp', Rearranged (lines bgp) (lines bgp') ∧ top (offers bgp' routeMapCfg) p =
      Choice.answers (groupsOf (parseNeighborPolicy bgp)
        (parseNeighborPolicy bgp).groupPrefixListOut p) f := by
  obtain ⟨bgp', hrearranged, hlists, -⟩ := exists_lastEntries bgp f fun _ => none
  have hlines := hrearranged.sameLines
  refine ⟨bgp', hrearranged, ?_⟩
  have hheard : (Heard bgp' routeMapCfg p .peerGroup).Nonempty := by
    rw [Set.nonempty_iff_ne_empty, Ne, heard_peerGroup_eq_empty, hlines.names]
    exact hnamed
  have hstronger : ∀ t : PrefixListSource, t.rank < PrefixListSource.peerGroup.rank →
    Names bgp' routeMapCfg p t = ∅ := by
    intro t ht
    obtain rfl : t = .direct := rank_injective (Nat.lt_one_iff.mp ht)
    exact (hlines.names _).trans hdirect
  rw [top_offers (Or.inl hheard) (stronger_heard hstronger), Heard,
    groupsOf_congr hlines.groups hlines.groupPrefixListOut]
  refine answers_congr fun g hg => ?_
  obtain ⟨n, hmem, hn⟩ := hf g hg
  rw [heardOf, hlists g n hmem hn.symm, Option.bind_some, hn]

/-- **And every choice of their route maps.** -/
theorem exists_order_maps
    (hnames : ∀ t : PrefixListSource, t.rank < PrefixListSource.peerGroupRouteMap.rank →
      Names bgp routeMapCfg p t = ∅) {f : Text → Option Text}
    (hf : Chosen (groupsOf (parseNeighborPolicy bgp) (parseNeighborPolicy bgp).groupRouteMapOut p)
      (saidBy (listOf routeMapCfg) (parseNeighborPolicy bgp).groupRouteMapOut) f) :
    ∃ bgp', Rearranged (lines bgp) (lines bgp') ∧ top (offers bgp' routeMapCfg) p =
      Choice.answers (groupsOf (parseNeighborPolicy bgp)
        (parseNeighborPolicy bgp).groupRouteMapOut p) f := by
  classical
  -- The route map that is chosen is one that says what is answered.
  let pick : Text → Option Text := fun g =>
    if h : ∃ m, (g, m) ∈ (parseNeighborPolicy bgp).groupRouteMapOut ∧
      listOf routeMapCfg m = f g then some h.choose else none
  obtain ⟨bgp', hrearranged, -, hmaps⟩ := exists_lastEntries bgp (fun _ => none) pick
  have hlines := hrearranged.sameLines
  refine ⟨bgp', hrearranged, ?_⟩
  have hstronger : ∀ t : PrefixListSource, t.rank < PrefixListSource.peerGroupRouteMap.rank →
      Names bgp' routeMapCfg p t = ∅ := fun t ht => (hlines.names t).trans (hnames t ht)
  rw [top_offers (Or.inr rfl) (stronger_heard hstronger), Heard,
    groupsOf_congr hlines.groups hlines.groupRouteMapOut]
  refine answers_congr fun g hg => ?_
  have hchoice := hf g hg
  have hpick : pick g = some hchoice.choose := dif_pos hchoice
  rw [heardOf, hmaps g _ hchoice.choose_spec.1 hpick, Option.bind_some, hchoice.choose_spec.2]

/-- What two results that are alike say of a peer. -/
theorem same_of_sameResult {snap : RouteContextSnapshot}
    (h : resolveRouteContext bgp routeMapCfg prefixListCfg = .ok snap)
    (hsame : SameResult (resolveRouteContext bgp routeMapCfg prefixListCfg)
      (resolveRouteContext bgp' routeMapCfg prefixListCfg)) (p : Ipv4.Addr) :
    (∀ n, Sole (top (offers bgp routeMapCfg) p) n ↔ Sole (top (offers bgp' routeMapCfg) p) n) ∧
      (Torn (top (offers bgp routeMapCfg) p) ↔ Torn (top (offers bgp' routeMapCfg) p)) := by
  rw [h] at hsame
  cases h' : resolveRouteContext bgp' routeMapCfg prefixListCfg with
  | error e =>
    rw [h'] at hsame
    exact hsame.elim
  | ok snap' =>
    rw [h'] at hsame
    have hsame : Alike snap snap' := hsame
    have hsaid := tells_of_resolve h
    have hsaid' := tells_of_resolve h'
    refine ⟨fun n => ?_, ?_⟩
    · by_cases hn : n ∈ parsePrefixListNames prefixListCfg
      · have hlinks : (p, n) ∈ snap.prefixLinks ↔
          (p, n) ∈ snap'.prefixLinks := by rw [hsame.prefixLinks]
        rw [hsaid.links, hsaid'.links] at hlinks
        simpa [hn] using hlinks
      · have hdangling : (p, n) ∈ snap.dangling ↔ (p, n) ∈ snap'.dangling := by rw [hsame.dangling]
        rw [hsaid.dangling, hsaid'.dangling] at hdangling
        simpa [hn] using hdangling
    · rw [← hsaid.conflicting, ← hsaid'.conflicting, hsame.conflictingPeers]

/-- **A peer that is answered alike in every order has settled lines.** -/
theorem peerSettled_of_order {snap : RouteContextSnapshot}
    (h : resolveRouteContext bgp routeMapCfg prefixListCfg = .ok snap)
    (horder : ∀ bgp', Rearranged (lines bgp) (lines bgp') →
      SameResult (resolveRouteContext bgp routeMapCfg prefixListCfg)
        (resolveRouteContext bgp' routeMapCfg prefixListCfg)) (p : Ipv4.Addr) :
        PeerSettled bgp routeMapCfg p := by
  -- Two choices that come about are answered as the section is, so they are answered alike.
  have htwo : ∀ {K K' : Set Text},
      (∃ bgp', Rearranged (lines bgp) (lines bgp') ∧ top (offers bgp' routeMapCfg) p = K) →
      (∃ bgp', Rearranged (lines bgp) (lines bgp') ∧ top (offers bgp' routeMapCfg) p = K') →
      (∀ n, Sole K n ↔ Sole K' n) ∧ (Torn K ↔ Torn K') := by
    rintro K K' ⟨bgp₁, hre₁, rfl⟩ ⟨bgp₂, hre₂, rfl⟩
    obtain ⟨hsole₁, htorn₁⟩ := same_of_sameResult h (horder bgp₁ hre₁) p
    obtain ⟨hsole₂, htorn₂⟩ := same_of_sameResult h (horder bgp₂ hre₂) p
    exact ⟨fun n => (hsole₁ n).symm.trans (hsole₂ n), htorn₁.symm.trans htorn₂⟩
  constructor
  · intro hdirect
    refine settled_iff.mpr fun f f' hf hf' => ?_
    by_cases hnamed : Names bgp routeMapCfg p .peerGroup = ∅
    · have hnobody : groupsOf (parseNeighborPolicy bgp)
        (parseNeighborPolicy bgp).groupPrefixListOut p = ∅ := by
        refine Set.eq_empty_of_forall_notMem ?_
        rintro g ⟨hg, n, hn⟩
        have hmem : n ∈ Names bgp routeMapCfg p .peerGroup := ⟨g, hg, hn⟩
        rw [hnamed] at hmem
        exact hmem.elim
      have hsame : Choice.answers (groupsOf (parseNeighborPolicy bgp)
        (parseNeighborPolicy bgp).groupPrefixListOut p) f =
          Choice.answers (groupsOf (parseNeighborPolicy bgp)
            (parseNeighborPolicy bgp).groupPrefixListOut p) f' := by
        refine answers_congr fun g hg => ?_
        rw [hnobody] at hg
        exact hg.elim
      rw [hsame]
      exact ⟨fun _ => Iff.rfl, Iff.rfl⟩
    · exact htwo (exists_order_lists hdirect hnamed hf) (exists_order_lists hdirect hnamed hf')
  · intro hdirect hgroup hroute
    have hnames : ∀ t : PrefixListSource, t.rank < PrefixListSource.peerGroupRouteMap.rank →
        Names bgp routeMapCfg p t = ∅ := by
      intro t ht
      cases t with
      | direct => exact hdirect
      | peerGroup => exact hgroup
      | routeMap => exact hroute
      | peerGroupRouteMap => exact absurd ht (lt_irrefl _)
    refine settled_iff.mpr fun f f' hf hf' => ?_
    exact htwo (exists_order_maps hnames hf) (exists_order_maps hnames hf')

/-! ### Nothing is guessed -/

/-- **Nothing is guessed**: what is stored for a peer is a list there is, and the only one that its
strongest source names; a peer whose strongest source names two gets nothing, and an ambiguous route
map gives nothing; and the order of the neighbor lines does not matter. -/
structure NeverGuesses (bgp routeMapCfg prefixListCfg : Text)
    (snap : RouteContextSnapshot) : Prop where
  links : ∀ p n, (p, n) ∈ snap.prefixLinks → n ∈ parsePrefixListNames prefixListCfg ∧ ∃ s,
    Sole (Names bgp routeMapCfg p s) n ∧ ∀ t : PrefixListSource, t.rank < s.rank →
      Names bgp routeMapCfg p t = ∅
  torn : ∀ p s, Torn (Names bgp routeMapCfg p s) →
    (∀ t : PrefixListSource, t.rank < s.rank → Names bgp routeMapCfg p t = ∅) →
    ∀ n, (p, n) ∉ snap.prefixLinks
  maps : ∀ m n : Text, listOf routeMapCfg m = some n → ∀ n', MapNames routeMapCfg m n' ↔ n' = n
  ambiguous : ∀ m ∈ snap.ambiguousRouteMaps, listOf routeMapCfg m = none
  order : ∀ bgp', Rearranged (lines bgp) (lines bgp') →
    SameResult (resolveRouteContext bgp routeMapCfg prefixListCfg)
      (resolveRouteContext bgp' routeMapCfg prefixListCfg)

/-- **Nothing is guessed exactly if the lines of the groups of every peer are settled.** -/
theorem neverGuesses_iff_settled (bgp routeMapCfg prefixListCfg : Text)
    (snap : RouteContextSnapshot)
    (h : resolveRouteContext bgp routeMapCfg prefixListCfg = .ok snap) :
    NeverGuesses bgp routeMapCfg prefixListCfg snap ↔ ∀ p, PeerSettled bgp routeMapCfg p := by
  constructor
  · intro hnever
    exact peerSettled_of_order h hnever.order
  · intro hsettled
    have hsaid := tells_of_resolve h
    have hlinks : ∀ p n, (p, n) ∈ snap.prefixLinks → n ∈ parsePrefixListNames prefixListCfg ∧ ∃ s,
        Sole (Names bgp routeMapCfg p s) n ∧ ∀ t : PrefixListSource, t.rank < s.rank →
          Names bgp routeMapCfg p t = ∅ := by
      intro p n hmem
      obtain ⟨hsole, hknown⟩ := (hsaid.links p n).mp hmem
      exact ⟨hknown, (hsettled p).sole hsole⟩
    constructor
    case links => exact hlinks
    case torn =>
      intro p s htorn hstronger n hmem
      obtain ⟨-, t, hsole, hstronger'⟩ := hlinks p n hmem
      have hnamed : (Names bgp routeMapCfg p s).Nonempty := ⟨_, htorn.choose_spec.1⟩
      obtain ⟨a, ha⟩ := hnamed
      -- Both are the first source that names a list.
      have hle : ¬s.rank < t.rank := by
        intro hlt
        rw [hstronger' s hlt] at ha
        exact ha.elim
      have hge : ¬t.rank < s.rank := by
        intro hlt
        have hn := hsole.1
        rw [hstronger t hlt] at hn
        exact hn.elim
      obtain rfl : s = t := rank_injective (by omega)
      exact hsole.not_torn htorn
    case maps =>
      intro m n hlist
      exact (names_iff_of_resolved hlist).2
    case ambiguous =>
      intro m hm
      exact resolved_eq_none_of_ambiguous ((hsaid.ambiguous m).mp hm)
    case order =>
      intro bgp' hrearranged
      exact sameResult_of_settled hsettled hrearranged.sameLines

/-- A group that has one list in one address family, and another one in another. -/
def twoFamilies : Text :=
  ("router bgp 65010\n neighbor UPSTREAMS peer-group\n address-family ipv4\n" : Text) ++
    "  neighbor 192.0.2.1 peer-group UPSTREAMS\n  neighbor UPSTREAMS prefix-list PL-A out\n" ++
    " exit-address-family\n address-family ipv4 multicast\n" ++
    "  neighbor UPSTREAMS prefix-list PL-B out\n"

/-- The lists there are. -/
def twoLists : Text :=
  ("ip prefix-list PL-A seq 5 permit 192.0.2.0/24\n" : Text) ++
    "ip prefix-list PL-B seq 5 deny 198.51.100.0/24\n"

theorem neverGuesses_iff_settled_twoFamilies :
    NeverGuesses twoFamilies [] twoLists ⟨[(3221225985, "PL-B")], [], [], [], [], []⟩ ↔
      ∀ p, PeerSettled twoFamilies [] p :=
  neverGuesses_iff_settled twoFamilies [] twoLists _ (by decide +kernel)

/-- **The last of two lists of a group is stored**, as if it were the only one. -/
theorem not_neverGuesses_twoFamilies :
    ¬∀ snap, resolveRouteContext twoFamilies [] twoLists = .ok snap →
    NeverGuesses twoFamilies [] twoLists snap := by
  intro hall
  let peer : Ipv4.Addr := 3221225985
  have hresolve : resolveRouteContext twoFamilies [] twoLists = .ok ⟨[(peer, "PL-B")], [], [], [],
    [], []⟩ := by
    decide +kernel
  have hnever := hall _ hresolve
  have hgroups : (parseNeighborPolicy twoFamilies).groups =
    [(peer, ("UPSTREAMS" : Text))] := by decide +kernel
  have hdirect : (parseNeighborPolicy twoFamilies).peerPrefixListOut = [] := by decide +kernel
  have hlists : (parseNeighborPolicy twoFamilies).groupPrefixListOut =
      [(("UPSTREAMS" : Text), ("PL-A" : Text)), ("UPSTREAMS", "PL-B")] := by decide +kernel
  have hnamed : ∀ n : Text, n = "PL-A" ∨ n = "PL-B" → n ∈ Names twoFamilies [] peer .peerGroup := by
    intro n hn
    refine ⟨"UPSTREAMS", by rw [hgroups]; exact List.mem_cons_self, ?_⟩
    rw [hlists]
    rcases hn with rfl | rfl
    · exact List.mem_cons_self
    · exact List.mem_cons_of_mem _ List.mem_cons_self
  have htorn : Torn (Names twoFamilies [] peer .peerGroup) :=
    ⟨"PL-A", hnamed _ (Or.inl rfl), "PL-B", hnamed _ (Or.inr rfl), by decide⟩
  refine hnever.torn peer .peerGroup htorn (fun t ht => ?_) "PL-B" List.mem_cons_self
  obtain rfl : t = .direct := rank_injective (Nat.lt_one_iff.mp ht)
  refine Set.eq_empty_of_forall_notMem fun n hn => ?_
  have hn : (peer, n) ∈ (parseNeighborPolicy twoFamilies).peerPrefixListOut := hn
  rw [hdirect] at hn
  cases hn

end Rerouter.RouteContext
