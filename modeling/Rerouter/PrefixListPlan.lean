import Rerouter.PrefixList

/-!
# Placing and removing one permit

The two planners of `reroute/prefix_list.rs`. Adding a permit has to reach the route: it is
placed strictly before the first entry that denies it, or behind the last one when nothing
matches it, at a number no entry has. Then it lets through that route and changes nothing
else (`Rerouter.planAdd_correct`).

Removing a permit has to withdraw the route, and this the planner does not look at: it
deletes the entry reached first, whatever stands behind it. The exact condition under which
the route is withdrawn is that nothing behind that entry permits it again
(`Rerouter.planRemove_withdraws_iff`).
-/

namespace Rerouter

open Text Ipv4 FirstMatch PrefixListEntry

/-! ### The planners -/

/-- What to do with the list that was just read. -/
inductive SequencePlan where
  /-- Write the command at this sequence number. -/
  | use (sequence : ℕ)
  /-- Nothing to write. The number is given when a rollback may name that entry. -/
  | alreadySatisfied (sequence : Option ℕ) (note : Text)
  /-- Fail closed, with a reason. -/
  | refuse (reason : Text)
deriving DecidableEq

/-- A number strictly between two others, if there is one. -/
def midpoint (low high : ℕ) : Option ℕ :=
  if high ≤ low + 1 then none
  else
    let mid := low + (high - low) / 2
    if low < mid ∧ mid < high then some mid else none

/-- The candidate, unless it is out of range or an entry has it. -/
def freeOrRefuse (candidate : ℕ) (entries : List PrefixListEntry) (list pfx : Text) :
    SequencePlan :=
  if ¬(minSeq ≤ candidate ∧ candidate ≤ maxSeq) then
    .refuse ("computed sequence " ++ natText candidate ++ " for " ++ pfx ++
      " is outside the range IOS accepts (" ++ natText minSeq ++ "..=" ++ natText maxSeq ++
      "); renumber prefix-list '" ++ list ++ "' on the router")
  else
    match entries.find? fun e => e.sequence = candidate with
    | some occupied =>
      .refuse ("refusing to write prefix-list '" ++ list ++ "' seq " ++ natText candidate ++
        " for " ++ pfx ++ ": that sequence is already occupied by '" ++ occupied.clause ++
        "' and IOS would REPLACE it")
    | none => .use candidate

/-- `u32::saturating_add`. -/
def saturatingAdd (a b : ℕ) : ℕ := min (a + b) 4294967295

/-- Nothing matches: append behind the last entry. -/
def planAppend (entries : List PrefixListEntry) (list pfx : Text) : SequencePlan :=
  let last := lastKey sequence entries
  let candidate := min (saturatingAdd last appendStep) maxSeq
  if candidate ≤ last then
    .refuse ("prefix-list '" ++ list ++ "' already uses sequence " ++ natText last ++
      ", the highest IOS accepts (" ++ natText maxSeq ++
      "); renumber the prefix-list before advertising " ++ pfx)
  else freeOrRefuse candidate entries list pfx

/-- A deny matches first: insert between the entry before it and it. -/
def planBefore (shadow : PrefixListEntry) (entries : List PrefixListEntry) (list pfx : Text) :
    SequencePlan :=
  let previous := lastKey sequence (entries.filter fun e => e.sequence < shadow.sequence)
  match midpoint previous shadow.sequence with
  | some candidate => freeOrRefuse candidate entries list pfx
  | none =>
    .refuse ("prefix-list '" ++ list ++ "' has no free sequence number between " ++
      natText previous ++ " and " ++ natText shadow.sequence ++ " (the entry '" ++
      shadow.clause ++ "' that would shadow " ++ pfx ++
      "), so the permit cannot be placed where it would be reached. Renumber the " ++
      "prefix-list on the router (leave a gap before seq " ++ natText shadow.sequence ++
      ") and retry; Rerouter will not renumber it or append past the deny.")

/-- `plan_add`: where to insert a permit so that it is reached. -/
def planAdd (output list pfx : Text) : SequencePlan :=
  match parsePrefixList output list with
  | .error e => .refuse e
  | .ok entries =>
    match parsePrefix pfx with
    | .error e => .refuse e
    | .ok (network, length) =>
      match entries.find? fun e => e.matchesNet network length with
      | none => planAppend entries list pfx
      | some shadow =>
        if shadow.permit then
          .alreadySatisfied
            (if shadow.isExactly network length then some shadow.sequence else none)
            (pfx ++ " is already permitted by prefix-list '" ++ list ++ "' seq " ++
              natText shadow.sequence ++ " (" ++ shadow.clause ++
              "); no configuration change was needed")
        else planBefore shadow entries list pfx

/-- `plan_remove`: which entry to delete so that the prefix is no longer advertised. -/
def planRemove (output list pfx : Text) : SequencePlan :=
  match parsePrefixList output list with
  | .error e => .refuse e
  | .ok entries =>
    match parsePrefix pfx with
    | .error e => .refuse e
    | .ok (network, length) =>
      match entries.find? fun e => e.matchesNet network length with
      | none =>
        .alreadySatisfied none ("no entry in prefix-list '" ++ list ++ "' reaches " ++ pfx ++
          ", so it is already not advertised through it; no configuration change was needed")
      | some reached =>
        if ¬reached.permit then
          -- a deny's number is never handed on: a permit written there would replace it
          .alreadySatisfied none (pfx ++ " is already denied by prefix-list '" ++ list ++
            "' seq " ++ natText reached.sequence ++ " (" ++ reached.clause ++
            "); no configuration change was needed")
        else if ¬reached.isExactly network length then
          .refuse (pfx ++ " is advertised through prefix-list '" ++ list ++
            "' by the BROADER entry seq " ++ natText reached.sequence ++ " ('" ++
            reached.clause ++ "'), not by an entry of its own. Removing that entry would " ++
            "withdraw more than " ++ pfx ++ ", so Rerouter refuses it — adjust the " ++
            "prefix-list on the router by hand if that is really the intent.")
        else .use reached.sequence

/-! ### What a single edit does to the routes let through -/

variable {entries : List PrefixListEntry} {r : Route} {n : ℕ}

theorem permits_eq_of_reached_eq {entries' : List PrefixListEntry}
    (h : reached entries' r = reached entries r) : permits entries' r = permits entries r := by
  rw [permits, decision_eq_of_reached_eq h, permits]

/-- A written permit of one route is not even looked at for another. -/
theorem reached_insertEntry_of_ne {s : Route} (hs : s ≠ r) :
    reached (insertEntry (exactPermit n r) entries) s = reached entries s := by
  refine firstMatch_insertByKey_of_not_match (Bool.eq_false_iff.mpr fun h => hs ?_)
  exact (matchesRoute_iff_of_isExactly (isExactly_exactPermit n r) s).mp h

/-- A number in range, before the entry that decides a route and behind all those before
it; behind all entries where none decides it. -/
def FreeSlot (entries : List PrefixListEntry) (r : Route) (m : ℕ) : Prop :=
  minSeq ≤ m ∧ m ≤ maxSeq ∧
    match reached entries r with
    | some shadow =>
      m < shadow.sequence ∧ ∀ e ∈ entries, e.sequence < shadow.sequence → e.sequence < m
    | none => ∀ e ∈ entries, e.sequence < m

/-- No entry has a number that is free. -/
theorem FreeSlot.sequence_ne (h : FreeSlot entries r n) : ∀ e ∈ entries, e.sequence ≠ n := by
  obtain ⟨-, -, h⟩ := h
  intro e he hn
  split at h
  · have hlt := h.2 e he
    omega
  · have hlt := h e he
    omega

/-- In a free slot a permit is reached: no entry before it matches the route. -/
theorem reached_insertEntry_of_freeSlot (hasc : Ascending sequence entries)
    (hslot : FreeSlot entries r n) :
    reached (insertEntry (exactPermit n r) entries) r = some (exactPermit n r) := by
  refine firstMatch_insertByKey_of_match
    ((matchesRoute_iff_of_isExactly (isExactly_exactPermit n r) r).mpr rfl) fun a ha hlt => ?_
  obtain ⟨-, -, hslot⟩ := hslot
  split at hslot
  · rename_i shadow hshadow
    have hlt' : a.sequence < n := hlt
    exact not_match_of_key_lt hasc hshadow ha (by omega)
  · rename_i hnone
    exact firstMatch_eq_none_iff.mp hnone a ha

theorem permits_insertEntry_of_freeSlot (hasc : Ascending sequence entries)
    (hslot : FreeSlot entries r n) : permits (insertEntry (exactPermit n r) entries) r = true :=
  permits_iff.mpr ⟨_, reached_insertEntry_of_freeSlot hasc hslot, rfl⟩

/-! ### Adding -/

theorem midpoint_eq_some {low high m : ℕ} (h : midpoint low high = some m) :
    low < m ∧ m < high := by
  simp only [midpoint] at h
  split_ifs at h with hgap hmid
  cases h
  exact hmid

theorem midpoint_eq_none {low high : ℕ} (h : midpoint low high = none) : high ≤ low + 1 := by
  simp only [midpoint] at h
  split_ifs at h with hgap hmid
  · exact hgap
  · exact absurd ⟨by omega, by omega⟩ hmid

/-- The last line of defence never refuses a free slot. -/
theorem freeOrRefuse_of_freeSlot (h : FreeSlot entries r n) (list pfx : Text) :
    freeOrRefuse n entries list pfx = .use n := by
  have hfree : entries.find? (fun e => e.sequence = n) = none :=
    List.find?_eq_none.mpr fun e he => by simpa using h.sequence_ne e he
  rw [freeOrRefuse, if_neg (not_not.mpr ⟨h.1, h.2.1⟩), hfree]

/-- What a planner may answer: a free slot, or a reason when there is none. -/
def Places (entries : List PrefixListEntry) (r : Route) : SequencePlan → Prop
  | .use n => FreeSlot entries r n
  | .alreadySatisfied _ _ => False
  | .refuse _ => ∀ m, ¬FreeSlot entries r m

theorem places_planAppend (hwf : WellFormed entries) (hnone : reached entries r = none)
    (list pfx : Text) : Places entries r (planAppend entries list pfx) := by
  have hslot : ∀ m, FreeSlot entries r m ↔
      minSeq ≤ m ∧ m ≤ maxSeq ∧ ∀ e ∈ entries, e.sequence < m := by
    simp [FreeSlot, hnone]
  have hlast : ∀ e ∈ entries, e.sequence ≤ lastKey sequence entries :=
    fun e he => key_le_lastKey hwf.ascending he
  simp only [planAppend]
  split
  -- the last number is the greatest there is: no entry can stand behind it
  · rename_i hfull
    intro m hm
    obtain ⟨hmin, hmax, hm⟩ := (hslot m).mp hm
    rcases eq_or_ne entries [] with rfl | hne
    · simp [saturatingAdd, appendStep, maxSeq, lastKey] at hfull
    · obtain ⟨e, he, hkey⟩ := exists_lastKey sequence hne
      have hlt := hm e he
      simp only [saturatingAdd, appendStep, maxSeq] at hfull hmax
      omega
  · rename_i hroom
    -- ten behind the last, or the greatest number where ten is too far
    have hfree : FreeSlot entries r (min (saturatingAdd (lastKey sequence entries) appendStep)
        maxSeq) := by
      refine (hslot _).mpr ⟨?_, min_le_right _ _, fun e he => ?_⟩
      · simp only [minSeq]
        omega
      · have hle := hlast e he
        omega
    rw [freeOrRefuse_of_freeSlot hfree]
    exact hfree

theorem places_planBefore (hwf : WellFormed entries) {shadow : PrefixListEntry}
    (hshadow : reached entries r = some shadow) (list pfx : Text) :
    Places entries r (planBefore shadow entries list pfx) := by
  have hslot : ∀ m, FreeSlot entries r m ↔ minSeq ≤ m ∧ m ≤ maxSeq ∧ m < shadow.sequence ∧
      ∀ e ∈ entries, e.sequence < shadow.sequence → e.sequence < m := by
    simp [FreeSlot, hshadow]
  have hmax : shadow.sequence ≤ maxSeq :=
    (hwf.sequence_mem shadow (mem_of_firstMatch hshadow)).2
  have hprev : ∀ e ∈ entries, e.sequence < shadow.sequence → e.sequence ≤
      lastKey sequence (entries.filter fun e => e.sequence < shadow.sequence) :=
    fun e he hlt => key_le_lastKey (hwf.ascending.filter _)
      (List.mem_filter.mpr ⟨he, by simpa using hlt⟩)
  simp only [planBefore]
  split
  · rename_i candidate hmid
    obtain ⟨hlow, hhigh⟩ := midpoint_eq_some hmid
    -- the middle of the gap in front of the shadowing entry
    have hfree : FreeSlot entries r candidate := by
      refine (hslot _).mpr ⟨?_, by omega, hhigh, fun e he hlt => ?_⟩
      · simp only [minSeq]
        omega
      · have hle := hprev e he hlt
        omega
    rw [freeOrRefuse_of_freeSlot hfree]
    exact hfree
  -- the gap is empty: any number in front of the entry is taken or out of order
  · rename_i hgap
    have hgap := midpoint_eq_none hgap
    intro m hm
    obtain ⟨hmin, -, hhigh, hm⟩ := (hslot m).mp hm
    rcases eq_or_ne (entries.filter fun e => e.sequence < shadow.sequence) [] with hnil | hne
    · simp only [hnil, lastKey, List.map_nil, List.getLast?_nil, Option.getD_none] at hgap
      simp only [minSeq] at hmin
      omega
    · obtain ⟨e, he, hkey⟩ := exists_lastKey sequence hne
      obtain ⟨he, hlt⟩ := List.mem_filter.mp he
      have hltm := hm e he (by simpa using hlt)
      omega

/-- What `planAdd` answers on a list it can read: nothing to write, or what the placing of a
permit answers. -/
theorem planAdd_of_parse {output list : Text}
    (hparse : parsePrefixList output list = .ok entries) :
    (permits entries r = true ∧ ∃ seq note, planAdd output list r.text =
      .alreadySatisfied seq note) ∨
    (permits entries r = false ∧ Places entries r (planAdd output list r.text)) := by
  have hwf := wellFormed_of_parsePrefixList hparse
  simp only [planAdd, hparse, parsePrefix_text]
  split
  · rename_i hnone
    exact Or.inr ⟨by simp [permits, decision, reached, firstMatch, matchesRoute, hnone],
      places_planAppend hwf hnone list r.text⟩
  · rename_i shadow hshadow
    have hreached : reached entries r = some shadow := hshadow
    split
    · rename_i hpermit
      exact Or.inl ⟨permits_iff.mpr ⟨shadow, hreached, hpermit⟩, _, _, rfl⟩
    · rename_i hdeny
      exact Or.inr ⟨by simpa [permits, decision, hreached] using hdeny,
        places_planBefore hwf hreached list r.text⟩

/-- **A permit is placed where it is reached, and where it changes one route only**: a number
the planner gives is free, the list with the permit written there lets the route through and
decides every other one as before; nothing is written when the route is let through already;
and the planner refuses only what it cannot read or has no room for. -/
theorem planAdd_correct (output list : Text) (r : Route) :
    match planAdd output list r.text with
    | .use n => minSeq ≤ n ∧ n ≤ maxSeq ∧ ∃ entries, parsePrefixList output list = .ok entries ∧
        (∀ e ∈ entries, e.sequence ≠ n) ∧
        permits (insertEntry (exactPermit n r) entries) r = true ∧
        ∀ s, s ≠ r → decision (insertEntry (exactPermit n r) entries) s = decision entries s
    | .alreadySatisfied _ _ => ∃ entries, parsePrefixList output list = .ok entries ∧
        permits entries r = true
    | .refuse _ => (∃ e, parsePrefixList output list = .error e) ∨
        ∃ entries, parsePrefixList output list = .ok entries ∧ permits entries r = false ∧
          ∀ m, ¬FreeSlot entries r m := by
  cases hparse : parsePrefixList output list with
  | error e =>
    simp only [planAdd, hparse]
    exact Or.inl ⟨e, rfl⟩
  | ok entries =>
    have hasc := (wellFormed_of_parsePrefixList hparse).ascending
    rcases planAdd_of_parse (r := r) hparse with ⟨hpermits, seq, note, hplan⟩ | ⟨hdenied, hplaces⟩
    · rw [hplan]
      exact ⟨entries, rfl, hpermits⟩
    · cases hplan : planAdd output list r.text with
      | use n =>
        have hslot : FreeSlot entries r n := by simpa [hplan, Places] using hplaces
        exact ⟨hslot.1, hslot.2.1, entries, rfl, hslot.sequence_ne,
          permits_insertEntry_of_freeSlot hasc hslot,
          fun s hs => decision_eq_of_reached_eq (reached_insertEntry_of_ne hs)⟩
      | alreadySatisfied seq note => simp [hplan, Places] at hplaces
      | refuse reason =>
        rw [hplan] at hplaces
        exact Or.inr ⟨entries, rfl, hdenied, hplaces⟩

/-! ### Removing -/

/-- **Deleting the entry that is exactly one route** changes the decision of no other. -/
theorem reached_deleteEntry_of_ne (hasc : Ascending sequence entries) {e : PrefixListEntry}
    (he : e ∈ entries) (hexact : e.isExactly r.network r.length = true) {s : Route} (hs : s ≠ r) :
    reached (deleteEntry e.sequence entries) s = reached entries s := by
  refine firstMatch_eraseKey_of_not_match fun a ha hkey => ?_
  obtain rfl : a = e := hasc.eq_of_key_eq ha he hkey
  exact Bool.eq_false_iff.mpr fun h => hs ((matchesRoute_iff_of_isExactly hexact s).mp h)

/-- Behind the entry that decides a route and is exactly that route, the list permits it
again. -/
def PermitsBehind (entries : List PrefixListEntry) (r : Route) : Prop :=
  ∃ pre e post, entries = pre ++ e :: post ∧ (∀ a ∈ pre, a.matchesRoute r = false) ∧
    e.permit = true ∧ e.isExactly r.network r.length = true ∧ permits post r = true

/-- Then that entry decides the route. -/
theorem PermitsBehind.reached (h : PermitsBehind entries r) : ∃ e,
    Rerouter.reached entries r = some e ∧ e.permit = true ∧
      e.isExactly r.network r.length = true := by
  obtain ⟨pre, e, post, hsplit, hpre, hpermit, hexact, -⟩ := h
  exact ⟨e, firstMatch_eq_some_iff.mpr ⟨(matchesRoute_iff_of_isExactly hexact r).mpr rfl, pre,
    post, hsplit, hpre⟩, hpermit, hexact⟩

/-- A removal withdraws: the list without the entry the planner names does not let the route
through and decides every other one as before, and nothing is named only where the route is
not let through. -/
def Withdraws (output list : Text) (r : Route) : Prop :=
  match planRemove output list r.text with
  | .use n => ∃ entries, parsePrefixList output list = .ok entries ∧
      permits (deleteEntry n entries) r = false ∧
      ∀ s, s ≠ r → decision (deleteEntry n entries) s = decision entries s
  | .alreadySatisfied _ _ => ∃ entries, parsePrefixList output list = .ok entries ∧
      permits entries r = false
  | .refuse _ => True

/-- What `planRemove` answers on a list it can read. -/
theorem planRemove_of_parse {output list : Text}
    (hparse : parsePrefixList output list = .ok entries) :
    (permits entries r = false ∧ ∃ seq note, planRemove output list r.text =
      .alreadySatisfied seq note) ∨
    (∃ e, reached entries r = some e ∧ e.permit = true ∧
      e.isExactly r.network r.length = false ∧
      ∃ reason, planRemove output list r.text = .refuse reason) ∨
    ∃ e, reached entries r = some e ∧ e.permit = true ∧
      e.isExactly r.network r.length = true ∧ planRemove output list r.text = .use e.sequence := by
  simp only [planRemove, hparse, parsePrefix_text]
  split
  · rename_i hnone
    exact Or.inl ⟨by simp [permits, decision, reached, firstMatch, matchesRoute, hnone],
      _, _, rfl⟩
  · rename_i e he
    have hreached : reached entries r = some e := he
    split_ifs with hpermit hexact
    · exact Or.inr (Or.inr ⟨e, hreached, hpermit, hexact, rfl⟩)
    · exact Or.inr (Or.inl ⟨e, hreached, hpermit, by simpa using hexact, _, rfl⟩)
    · exact Or.inl ⟨by simpa [permits, decision, hreached] using hpermit, _, _, rfl⟩

/-- The entry reached first, when it is exactly the route, is the one `PermitsBehind` speaks
of: deleting it leaves the decision to the entries behind it. -/
theorem permitsBehind_iff (hasc : Ascending sequence entries) {e : PrefixListEntry}
    (hreached : reached entries r = some e) (hpermit : e.permit = true)
    (hexact : e.isExactly r.network r.length = true) :
    PermitsBehind entries r ↔ permits (deleteEntry e.sequence entries) r = true := by
  have hdelete : ∀ pre post, entries = pre ++ e :: post →
      (∀ b ∈ pre, b.matchesRoute r = false) →
      permits (deleteEntry e.sequence entries) r = permits post r := by
    rintro pre post rfl hpre
    exact permits_eq_of_reached_eq (firstMatch_eraseKey_append hasc hpre)
  constructor
  · rintro ⟨pre, a, post, hsplit, hpre, -, hexact', hpost⟩
    have ha : reached entries r = some a := firstMatch_eq_some_iff.mpr
      ⟨(matchesRoute_iff_of_isExactly hexact' r).mpr rfl, pre, post, hsplit, hpre⟩
    obtain rfl : a = e := Option.some.inj (ha.symm.trans hreached)
    rw [hdelete pre post hsplit hpre]
    exact hpost
  · intro h
    obtain ⟨-, pre, post, hsplit, hpre⟩ := firstMatch_eq_some_iff.mp hreached
    rw [hdelete pre post hsplit hpre] at h
    exact ⟨pre, e, post, hsplit, hpre, hpermit, hexact, h⟩

/-- **A removal withdraws the route exactly when nothing behind the removed entry permits it
again.** -/
theorem planRemove_withdraws_iff (output list : Text) (r : Route) :
    Withdraws output list r ↔
      ∀ entries, parsePrefixList output list = .ok entries → ¬PermitsBehind entries r := by
  cases hparse : parsePrefixList output list with
  | error e => simp [Withdraws, planRemove, hparse]
  | ok entries =>
    have hasc := (wellFormed_of_parsePrefixList hparse).ascending
    simp only [Withdraws, hparse, Except.ok.injEq, exists_eq_left', forall_eq']
    rcases planRemove_of_parse (r := r) hparse with
      ⟨hdenied, seq, note, hplan⟩ | ⟨e, he, hpermit, hbroader, reason, hplan⟩ |
      ⟨e, he, hpermit, hexact, hplan⟩
    · rw [hplan]
      -- the route was not permitted, so nothing was withdrawn
      refine iff_of_true hdenied fun hbehind => ?_
      obtain ⟨a, ha, hpermit, -⟩ := hbehind.reached
      exact absurd (permits_iff.mpr ⟨a, ha, hpermit⟩) (by simp [hdenied])
    · rw [hplan]
      -- a broader permit is refused, which promises nothing
      refine iff_of_true trivial fun hbehind => ?_
      obtain ⟨a, ha, -, hexact⟩ := hbehind.reached
      obtain rfl : a = e := Option.some.inj (ha.symm.trans he)
      exact absurd hexact (by simp [hbroader])
    · rw [hplan]
      -- the exact permit is deleted; whether the route is gone depends on what stands behind
      have hothers : ∀ s, s ≠ r →
          decision (deleteEntry e.sequence entries) s = decision entries s := fun s hs =>
        decision_eq_of_reached_eq
          (reached_deleteEntry_of_ne hasc (mem_of_firstMatch he) hexact hs)
      rw [permitsBehind_iff hasc he hpermit hexact, Bool.not_eq_true]
      exact and_iff_left hothers

/-- A list that names a route and, behind it, all the routes of a network it lies in. -/
def nestedPermits : Text :=
  "ip prefix-list x: 2 entries\nseq 5 permit 10.1.2.0/24\nseq 10 permit 10.1.0.0/16 le 24"

/-- `10.1.2.0/24`. -/
def nestedRoute : Route := ⟨0x0A010200, 24, by decide, by decide⟩

/-- Deleting the entry of its own leaves the route to the permit of the network behind it. -/
theorem not_withdraws_nestedPermits : ¬Withdraws nestedPermits "x" nestedRoute := by
  have hplan : planRemove nestedPermits "x" nestedRoute.text = .use 5 := by decide +kernel
  have hparse : parsePrefixList nestedPermits "x" = .ok
      [⟨5, true, 0x0A010200, 24, none, none⟩, ⟨10, true, 0x0A010000, 16, none, some 24⟩] := by
    decide +kernel
  intro h
  rw [Withdraws, hplan] at h
  obtain ⟨entries, hentries, hgone, -⟩ := h
  obtain rfl := Except.ok.inj (hparse.symm.trans hentries)
  exact absurd hgone (by decide)

end Rerouter
