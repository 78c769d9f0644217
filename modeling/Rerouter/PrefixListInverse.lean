import Rerouter.PrefixListPlan
import Rerouter.PrefixListReading
import Rerouter.PrefixListRoundTrip
import Rerouter.TemplateCatalog

/-!
# An edit of a prefix list, and the edit that takes it back

A change of a prefix list is prepared with four things that are built apart from one another
(`Rerouter.preparePrefixListAction`): the commands that make it, those that take it back, and the
entries before and after. What ties them together is what a router does with a line that names a
list (`Rerouter.editList`): a permit is written in the place of the entry of its number, if there is
one, and behind `no` the entry that is spelled out is deleted.

**The entries recorded after are those the commands leave, and the commands that take the change
back leave the entries recorded before** (`Rerouter.prefix_list_action_undone`): the same numbers,
actions, networks and lengths.

A removal planned on the list that an addition leaves names the entry that was added. The other way
round the planner is free: what it names on the list that a removal leaves is a place where the list
decides every route as before, and this need not be the place the entry had
(`Rerouter.planAdd_moves`).
-/

namespace Rerouter

open Text Ipv4 FirstMatch PrefixListEntry

/-! ### What a router makes of a line -/

/-- A line that writes an entry of a list, or deletes one. -/
structure ListEdit where
  present : Bool
  list : Text
  entry : PrefixListEntry

/-- `[no] ip prefix-list NAME seq …`. -/
def listEdit (line : Text) : Option ListEdit :=
  let words := splitWhitespace line
  let present := words.head? ≠ some ("no" : Text)
  match if present then words else words.tail with
  | ip :: kind :: list :: entry =>
    if ip = ("ip" : Text) ∧ kind = ("prefix-list" : Text) then
      match parseEntry (unwords entry) with
      | .ok entry => some ⟨present, list, entry⟩
      | .error _ => none
    else none
  | _ => none

/-- The entries of a list after a line of the configuration. An entry that is written takes the
place of the one that has its number. -/
def editList (list : Text) (entries : List PrefixListEntry) (line : Text) : List PrefixListEntry :=
  match listEdit line with
  | some edit =>
    if edit.list = list then
      if edit.present then insertEntry edit.entry (deleteEntry edit.entry.sequence entries)
      else entries.filter (· ≠ edit.entry)
    else entries
  | none => entries

/-- The line of a template, or of an inverse. -/
def entryLine (no list cidr : Text) (sequence : ℕ) : Text :=
  no ++ ("ip prefix-list " ++ (list ++ (" seq " ++ (natText sequence ++ (" permit " ++ cidr)))))

/-- The lines around it. -/
def entryCommands (no peer list cidr : Text) (sequence : ℕ) : List Text :=
  ["configure terminal", entryLine no list cidr sequence, "end",
      "clear ip bgp " ++ (peer ++ " soft out")]

variable {entries after : List PrefixListEntry} {r : Route} {n : ℕ} {list peer line output : Text}

/-! ### What the lines do -/

/-- The words of an entry's line, behind those that name the list. -/
theorem entryLine_eq (n : ℕ) (list : Text) (r : Route) : entryLine [] list r.text n =
    unwords (("ip" : Text) :: ("prefix-list" : Text) :: list :: entryWords (exactPermit n r)) := by
  have hparts : ∀ ip kind seq permit pre mid post : Text, pre = ip ++ ' ' :: (kind ++ [' ']) →
      mid = ' ' :: (seq ++ [' ']) → post = ' ' :: (permit ++ [' ']) →
      pre ++ (list ++ (mid ++ (natText n ++ (post ++ r.text)))) =
        unwords [ip, kind, list, seq, natText n, permit, r.text] := by
    rintro ip kind seq permit _ _ _ rfl rfl rfl
    simp only [unwords, List.append_assoc, List.cons_append, List.nil_append]
  exact hparts _ _ _ _ _ _ _ rfl rfl rfl

theorem inRange_exactPermit (hn : minSeq ≤ n ∧ n ≤ maxSeq) : (exactPermit n r).InRange :=
  ⟨hn, r.length_le, nofun, nofun⟩

theorem parseEntry_entryWords (hn : minSeq ≤ n ∧ n ≤ maxSeq) :
    parseEntry (unwords (entryWords (exactPermit n r))) = .ok (exactPermit n r) := by
  rw [← renderEntry_eq]
  exact parseEntry_render (inRange_exactPermit hn)

theorem splitWhitespace_entryLine (hlist : IsWord list) :
    splitWhitespace (entryLine [] list r.text n) =
    ("ip" : Text) :: ("prefix-list" : Text) :: list :: entryWords (exactPermit n r) := by
  rw [entryLine_eq]
  refine splitWhitespace_unwords fun w hw => ?_
  rcases List.mem_cons.mp hw with rfl | hw
  · decide
  · rcases List.mem_cons.mp hw with rfl | hw
    · decide
    · rcases List.mem_cons.mp hw with rfl | hw
      · exact hlist
      · exact isWord_entryWords hw

/-- **The line spells out the permit**, to be written or to be deleted. -/
theorem listEdit_entryLine (hlist : IsWord list) (hn : minSeq ≤ n ∧ n ≤ maxSeq) :
    listEdit (entryLine [] list r.text n) = some ⟨true, list, exactPermit n r⟩ ∧
      listEdit (entryLine "no " list r.text n) = some ⟨false, list, exactPermit n r⟩ := by
  have hwords := splitWhitespace_entryLine (n := n) (r := r) hlist
  have hno : splitWhitespace (entryLine "no " list r.text n) =
      ("no" : Text) :: ("ip" : Text) :: ("prefix-list" : Text) :: list :: entryWords
      (exactPermit n r) := by
    have hline : entryLine "no " list r.text n = "no" ++ ' ' :: entryLine [] list r.text n := rfl
    rw [hline, splitWhitespace_append_space (by decide) (by decide), hwords]
  have hip : ¬("ip" : Text) = "no" := by decide
  constructor
  · rw [listEdit, hwords]
    simp only [List.head?_cons, ne_eq, Option.some.injEq, hip, not_false_eq_true,
      decide_true, if_true, and_self, parseEntry_entryWords hn]
  · rw [listEdit, hno]
    simp only [List.head?_cons, ne_eq, not_true_eq_false, decide_false, if_false,
      List.tail_cons, and_self, if_true, parseEntry_entryWords hn]

/-- The lines around it name no list. -/
theorem listEdit_around (peer : Text) :
    listEdit "configure terminal" = none ∧ listEdit "end" = none ∧
    listEdit ("clear ip bgp " ++ (peer ++ " soft out")) = none := by
  refine ⟨by decide, by decide, ?_⟩
  have hwords : ∃ rest, splitWhitespace ("clear ip bgp " ++ (peer ++ " soft out")) =
    ("clear" : Text) :: rest :=
    ⟨_, splitWhitespace_append_space (w :=
      "clear") (by decide) (by decide) ("ip bgp " ++ (peer ++ " soft out"))⟩
  obtain ⟨rest, hrest⟩ := hwords
  have hno : ¬("clear" : Text) = "no" := by decide
  have hip : ¬("clear" : Text) = "ip" := by decide
  rw [listEdit, hrest]
  simp only [List.head?_cons, ne_eq, Option.some.injEq, hno, not_false_eq_true,
    decide_true, if_true]
  split
  · rename_i heq
    obtain ⟨rfl, -⟩ := List.cons_eq_cons.mp heq
    rw [if_neg fun h => hip h.1]
  · rfl

/-- **What a block of commands does**: it writes its permit, or deletes it. -/
theorem foldl_entryCommands (hlist : IsWord list) (hn : minSeq ≤ n ∧ n ≤ maxSeq) :
    (entryCommands [] peer list r.text n).foldl (editList list) entries =
        insertEntry (exactPermit n r) (deleteEntry n entries) ∧
      (entryCommands "no " peer list r.text n).foldl (editList list) entries =
        entries.filter (· ≠ exactPermit n r) := by
  obtain ⟨hwrite, hdelete⟩ := listEdit_entryLine (n := n) (r := r) hlist hn
  obtain ⟨hconfigure, hend, hclear⟩ := listEdit_around peer
  constructor
  · simp only [entryCommands, List.foldl_cons, List.foldl_nil, editList, hconfigure, hwrite, hend,
      hclear, if_true]
    rfl
  · simp only [entryCommands, List.foldl_cons, List.foldl_nil, editList, hconfigure, hdelete,
      hend, hclear, if_true, Bool.false_eq_true, if_false]

/-! ### The commands of a template -/

theorem inverseEntryCommands_eq (adding : Bool) (peer list cidr : Text) (n : ℕ) :
    inverseEntryCommands adding peer list cidr n =
      entryCommands (if adding then "no " else []) peer list cidr n := by
  simp only [inverseEntryCommands, entryCommands, entryLine, List.append_assoc]

variable {t : Template} {params : Params} {subst : NameMap Text} {cidr : Text}
  {commands : List Text}

/-- The template that writes a permit, or the one that deletes it. -/
structure IsAdvertise (no : Text) (t : Template) : Prop where
  provider : t.providerType = "device_cli"
  schema : t.schema = advertiseSchema
  config : t.configMode = true
  line : t.apply =
    [no ++ ("ip prefix-list {prefix_list_name} seq {sequence} permit \x7bprefix\x7d" : Text)]
  after : t.execAfter = [("clear ip bgp {neighbor_ip} soft out" : Text)]
  no : '\x7b' ∉ no

theorem isAdvertise_add : IsAdvertise [] bgpAdvertiseAdd := ⟨rfl, rfl, rfl, rfl, rfl, by decide⟩

theorem isAdvertise_remove : IsAdvertise "no " bgpAdvertiseRemove :=
  ⟨rfl, rfl, rfl, rfl, rfl, by decide⟩

/-- The parameter of the number stands for itself: for the number that is given, if one is. -/
theorem of_expandParams_sequence {rest : List (Text × Text)}
    (h : expandParams params ([("sequence", sequenceSpec)] : Schema) = .ok rest) :
    ∃ v, rest = [(("sequence" : Text), v)] ∧
      (params[("sequence" : Text)]? = some (.string (natText n)) → v = natText n) := by
  obtain ⟨here, hhere, h⟩ := bind_eq_ok.mp h
  obtain rfl := Except.ok.inj h
  unfold expandParam at hhere
  split at hhere
  · rename_i provided hprovided
    obtain ⟨m, hm, hhere⟩ := bind_eq_ok.mp hhere
    split at hhere
    · obtain rfl := Except.ok.inj hhere
      refine ⟨natText m, rfl, fun hgiven => ?_⟩
      have htrim : trim (natText n) = natText n := trim_of_noWs (noWs_natText n)
      rw [hgiven, paramText, htrim, if_neg (natText_ne_nil n)] at hprovided
      obtain rfl := Option.some.inj hprovided
      rw [eq_of_parseUnsigned_natText (okOr_eq_ok.mp hm)]
    · cases hhere
  · rename_i hprovided
    obtain rfl := Except.ok.inj hhere
    refine ⟨deferredSequence, rfl, fun hgiven => ?_⟩
    have htrim : trim (natText n) = natText n := trim_of_noWs (noWs_natText n)
    rw [hgiven, paramText, htrim, if_neg (natText_ne_nil n)] at hprovided
    cases hprovided

/-- With a sequence number, the parameters stand for what they stood for. -/
theorem getElem?_sequenced {sequenced : NameMap Text}
    (h : validateAndExpand advertiseSchema params = .ok subst)
    (h' : validateAndExpand advertiseSchema (params.insert sequenceParam (.string (natText n))) =
      .ok sequenced) :
    sequenced[("sequence" : Text)]? = some (natText n) ∧
      ∀ key, key ≠ ("sequence" : Text) → sequenced[key]? = subst[key]? := by
  have hvalues : ∀ {params : Params} {subst : NameMap Text},
    validateAndExpand advertiseSchema params = .ok subst →
      ∃ values, expandParams params advertiseSchema = .ok values ∧ substOf values = subst := by
    intro params subst h
    unfold validateAndExpand at h
    split at h
    · cases h
    · obtain ⟨values, hvalues, h⟩ := bind_eq_ok.mp h
      obtain ⟨-, -, h⟩ := bind_eq_ok.mp h
      exact ⟨values, hvalues, Except.ok.inj h⟩
  -- the number is the last parameter, and no other depends on it
  have hschema : advertiseSchema = ([("neighbor_ip", neighborParam), ("prefix", announcedParam),
      ("prefix_list_name", prefixListParam)] : Schema) ++ ([("sequence", sequenceSpec)] : Schema) :=
      rfl
  have hothers : ∀ s ∈ ([("neighbor_ip", neighborParam), ("prefix", announcedParam),
      ("prefix_list_name", prefixListParam)] : Schema), s.1 ≠ sequenceParam := by
    decide
  obtain ⟨values, hexpand, rfl⟩ := hvalues h
  obtain ⟨values', hexpand', rfl⟩ := hvalues h'
  rw [hschema] at hexpand hexpand'
  obtain ⟨here, rest, hhere, hrest, rfl⟩ := expandParams_append hexpand
  obtain ⟨here', rest', hhere', hrest', rfl⟩ := expandParams_append hexpand'
  rw [expandParams_insert hothers, hhere] at hhere'
  obtain rfl := Except.ok.inj hhere'
  obtain ⟨v, rfl, -⟩ := of_expandParams_sequence (n := n) hrest
  obtain ⟨v', rfl, hgiven⟩ := of_expandParams_sequence hrest'
  have hget : ∀ key : Text, (params.insert key (.string (natText n)))[key]? =
    some (.string (natText n)) :=
    fun key => Std.TreeMap.getElem?_insert_self
  have hv : v' = natText n := hgiven (hget _)
  refine ⟨by rw [getElem?_substOf_concat, hv], fun key hkey => ?_⟩
  have hne : ∀ {v : Text}, ∀ x ∈ [(("sequence" : Text), v)], x.1 ≠ key := fun x hx => by
    rw [List.mem_singleton.mp hx]
    exact hkey.symm
  rw [getElem?_substOf_append hne, getElem?_substOf_append hne]

/-- **The commands of the template are those of its line**, with the values of the parameters. -/
theorem commands_of_isAdvertise {no : Text} (ht : IsAdvertise no t)
    (hsubst : validateAndExpand t.schema params = .ok subst)
    (hlist : subst[("prefix_list_name" : Text)]? = some list)
    (hpeer : subst[("neighbor_ip" : Text)]? = some peer)
    (hcidr : subst[("prefix" : Text)]? = some cidr)
    (h : sequencedCommands t params n = .ok commands) :
    commands = entryCommands no peer list cidr n := by
  obtain ⟨plan, hplan, h⟩ := bind_eq_ok.mp h
  obtain rfl := Except.ok.inj h
  obtain ⟨rendered, hrendered, hplan⟩ := bind_eq_ok.mp hplan
  split at hplan
  · cases hplan
  · obtain rfl := Except.ok.inj hplan
    rw [render, if_neg (not_not.mpr ht.provider)] at hrendered
    obtain ⟨sequenced, hsequenced, hrendered⟩ := bind_eq_ok.mp hrendered
    rw [ht.line, ht.after, ht.config, if_neg (List.cons_ne_nil _ _)] at hrendered
    obtain ⟨apply, happly, hrendered⟩ := bind_eq_ok.mp hrendered
    obtain ⟨execAfter, hafter, hrendered⟩ := bind_eq_ok.mp hrendered
    obtain ⟨verify, -, hrendered⟩ := bind_eq_ok.mp hrendered
    obtain rfl := Except.ok.inj hrendered
    rw [ht.schema] at hsubst hsequenced
    obtain ⟨hsequence, hothers⟩ := getElem?_sequenced hsubst hsequenced
    rw [← hothers _ (by decide)] at hlist hpeer hcidr
    -- the two lines of the template, parameter by parameter
    have hline : substitute (no ++
      ("ip prefix-list {prefix_list_name} seq {sequence} permit \x7bprefix\x7d" : Text))
        sequenced = .ok (entryLine no list cidr n) := by
      refine substituteFrom_append ht.no ?_
      refine substituteFrom_param "ip prefix-list " "prefix_list_name" (by decide)
        (by decide) hlist ?_
      refine substituteFrom_param " seq " "sequence" (by decide) (by decide) hsequence ?_
      have hnil : substituteFrom sequenced none [] = .ok [] := rfl
      have hlast := substituteFrom_param " permit " "prefix" (by decide) (by decide) hcidr hnil
      rw [List.append_nil] at hlast
      exact hlast
    have hclear : substitute ("clear ip bgp {neighbor_ip} soft out" : Text) sequenced =
        .ok ("clear ip bgp " ++ (peer ++ " soft out")) := by
      refine substituteFrom_param "clear ip bgp " "neighbor_ip" (by decide) (by decide) hpeer ?_
      have hnil : substituteFrom sequenced none [] = .ok [] := rfl
      have hrest : substituteFrom sequenced none ((" soft out" : Text) ++ []) =
        .ok ((" soft out" : Text) ++ []) :=
        substituteFrom_append (by decide) hnil
      rw [List.append_nil] at hrest
      exact hrest
    rw [substituteAll, hline, ok_bind, substituteAll, ok_bind] at happly
    rw [substituteAll, hclear, ok_bind, substituteAll, ok_bind] at hafter
    obtain rfl := Except.ok.inj happly
    obtain rfl := Except.ok.inj hafter
    rfl

/-! ### What the planners name -/

theorem freeSlot_of_planAdd (hparse : parsePrefixList output list = .ok entries)
    (hplan : planAdd output list r.text = .use n) : FreeSlot entries r n := by
  rcases planAdd_of_parse (r := r) hparse with ⟨-, seq, note, hother⟩ | ⟨-, hplaces⟩
  · rw [hplan] at hother
    cases hother
  · rwa [hplan] at hplaces

/-- What a removal names is the permit of the route and nothing else. -/
theorem reached_of_planRemove (hparse : parsePrefixList output list = .ok entries)
    (hplan : planRemove output list r.text = .use n) :
    reached entries r = some (exactPermit n r) := by
  rcases planRemove_of_parse (r := r) hparse
    with ⟨-, seq, note, hother⟩ | ⟨e, -, -, -, reason, hother⟩ |
    ⟨e, hreached, hpermit, hexact, huse⟩
  · rw [hplan] at hother
    cases hother
  · rw [hplan] at hother
    cases hother
  · rw [hplan] at huse
    obtain rfl := SequencePlan.use.inj huse
    rw [hreached, isExactly_iff.mp hexact, hpermit]
    rfl

/-- The entries of the list after an edit at a number. -/
def edited (adding : Bool) (n : ℕ) (r : Route) (entries : List PrefixListEntry) :
    List PrefixListEntry :=
  if adding then insertEntry (exactPermit n r) entries else deleteEntry n entries

/-- **The entries that are recorded after are those of the edited list.** -/
theorem projectedEntries_eq (adding : Bool) (hasc : Ascending sequence entries)
    (hfree : adding = true → ∀ e ∈ entries, e.sequence ≠ n) :
    projectedEntries adding n r.text (entries.map prefixEntrySnapshot) =
      (edited adding n r entries).map prefixEntrySnapshot := by
  cases adding with
  | true =>
    have hconcat : entries.map prefixEntrySnapshot ++ [⟨n, true, r.text, none, none⟩] =
        (entries ++ [exactPermit n r]).map prefixEntrySnapshot := by
      rw [List.map_append]
      rfl
    have hmap : sortByKey PrefixListSnapshotEntry.sequence
      ((entries ++ [exactPermit n r]).map prefixEntrySnapshot) =
        (sortByKey sequence (entries ++ [exactPermit n r])).map prefixEntrySnapshot :=
      (List.map_insertionSort _ _ prefixEntrySnapshot _ fun _ _ _ _ => Iff.rfl).symm
    rw [projectedEntries, if_pos rfl, hconcat, hmap, sortByKey_concat hasc (hfree rfl)]
    rfl
  | false =>
    rw [projectedEntries, if_neg (by decide), List.filter_map]
    rfl

/-! ### An edit and its inverse -/

/-- **An addition**: the permit is written behind its commands, and is gone behind those that take
it back. A removal that is planned on the list between them names it. -/
theorem undone_of_planAdd (peer : Text) (hlist : IsWord list)
    (hparse : parsePrefixList output list = .ok entries)
    (hplan : planAdd output list r.text = .use n) :
    (entryCommands [] peer list r.text n).foldl (editList list) entries = edited true n r entries ∧
      (entryCommands "no " peer list r.text n).foldl (editList list)
      (edited true n r entries) = entries ∧
      ∀ output', parsePrefixList output' list = .ok (edited true n r entries) →
        planRemove output' list r.text = .use n := by
  have hasc := (wellFormed_of_parsePrefixList hparse).ascending
  have hslot := freeSlot_of_planAdd hparse hplan
  have hfree := hslot.sequence_ne
  have hn : minSeq ≤ n ∧ n ≤ maxSeq := ⟨hslot.1, hslot.2.1⟩
  have hafter : Ascending sequence (edited true n r entries) := ascending_insertByKey hasc hfree
  have hmem : exactPermit n r ∈ edited true n r entries :=
    (List.perm_orderedInsert _ _ _).symm.subset List.mem_cons_self
  refine ⟨?_, ?_, fun output' hparse' => ?_⟩
  · rw [(foldl_entryCommands hlist hn).1, deleteEntry, eraseKey_eq_self hfree]
    rfl
  · rw [(foldl_entryCommands hlist hn).2, filter_ne_eq_eraseKey hafter hmem]
    exact eraseKey_insertByKey hasc hfree
  -- the permit is reached by its own prefix, so a removal finds it and not another
  · have hreached : reached (edited true n r entries) r = some (exactPermit n r) :=
      reached_insertEntry_of_freeSlot hasc hslot
    rcases planRemove_of_parse (r := r) hparse'
      with ⟨hdenied, -⟩ | ⟨e, he, -, hexact, -⟩ | ⟨e, he, -, -, huse⟩
    · exact absurd (permits_iff.mpr ⟨_, hreached, rfl⟩) (by simp [hdenied])
    · obtain rfl := Option.some.inj (he.symm.trans hreached)
      rw [isExactly_exactPermit] at hexact
      cases hexact
    · obtain rfl := Option.some.inj (he.symm.trans hreached)
      exact huse

/-- **A removal**: the permit is gone behind its commands, and is written where it was behind those
that take it back. Where an addition that is planned on the list between them writes it, the list
decides every route as it did before. -/
theorem undone_of_planRemove (peer : Text) (hlist : IsWord list)
    (hparse : parsePrefixList output list = .ok entries)
    (hplan : planRemove output list r.text = .use n) :
    (entryCommands "no " peer list r.text n).foldl (editList list) entries =
    edited false n r entries ∧
      (entryCommands [] peer list r.text n).foldl (editList list)
      (edited false n r entries) = entries ∧
      ∀ output' m, parsePrefixList output' list = .ok (edited false n r entries) →
        planAdd output' list r.text = .use m →
          ∀ s, decision (edited true m r (edited false n r entries)) s = decision entries s := by
  have hwf := wellFormed_of_parsePrefixList hparse
  have hreached := reached_of_planRemove hparse hplan
  have hmem : exactPermit n r ∈ entries := mem_of_firstMatch hreached
  have hn : minSeq ≤ n ∧ n ≤ maxSeq := hwf.sequence_mem _ hmem
  have hfree : ∀ e ∈ deleteEntry n entries, e.sequence ≠ n := fun e he => by
    simpa using (List.mem_filter.mp he).2
  refine ⟨?_, ?_, fun output' m hparse' hplan' s => ?_⟩
  · rw [(foldl_entryCommands hlist hn).2, filter_ne_eq_eraseKey hwf.ascending hmem]
    rfl
  · rw [(foldl_entryCommands hlist hn).1, edited, if_neg (by decide), deleteEntry,
      eraseKey_eq_self hfree]
    exact insertByKey_eraseKey hwf.ascending hmem
  · have hslot := freeSlot_of_planAdd hparse' hplan'
    have hafter := (wellFormed_of_parsePrefixList hparse').ascending
    -- the prefix itself is permitted before and after; every other reaches what it reached
    by_cases hs : s = r
    · obtain rfl := hs
      have hpermit : reached (edited true m s (edited false n s entries)) s =
        some (exactPermit m s) :=
        reached_insertEntry_of_freeSlot hafter hslot
      rw [decision, decision, hpermit, hreached]
      rfl
    · have hinsert : reached (edited true m r (edited false n r entries)) s =
        reached (edited false n r entries) s :=
        reached_insertEntry_of_ne hs
      have hdelete : reached (edited false n r entries) s = reached entries s :=
        reached_deleteEntry_of_ne hwf.ascending hmem (isExactly_exactPermit n r) hs
      exact decision_eq_of_reached_eq (hinsert.trans hdelete)

/-- An edit of either kind. -/
theorem undone_of_planEntry (peer : Text) {adding : Bool} (hlist : IsWord list)
    (hparse : parsePrefixList output list = .ok entries)
    (hplan : planEntry adding output list r.text = .use n) :
    (entryCommands (if adding then [] else "no ") peer list r.text n).foldl
    (editList list) entries =
        edited adding n r entries ∧
      (inverseEntryCommands adding peer list r.text n).foldl (editList list)
      (edited adding n r entries) = entries ∧
      (adding = true → ∀ output', parsePrefixList output' list = .ok (edited adding n r entries) →
        planRemove output' list r.text = .use n) ∧
      (adding = false → ∀ output' m, parsePrefixList output' list =
        .ok (edited adding n r entries) →
        planAdd output' list r.text = .use m →
          ∀ s, decision (insertEntry (exactPermit m r) (edited adding n r entries)) s =
            decision entries s) := by
  rw [inverseEntryCommands_eq]
  cases adding with
  | true =>
    obtain ⟨hforward, hback, hopposite⟩ := undone_of_planAdd peer hlist hparse hplan
    exact ⟨hforward, hback, fun _ => hopposite, nofun⟩
  | false =>
    obtain ⟨hforward, hback, hopposite⟩ := undone_of_planRemove peer hlist hparse hplan
    exact ⟨hforward, hback, nofun, fun _ => hopposite⟩

/-! ### A prepared action -/

/-- The network of a prefix-list action is a route. -/
theorem exists_route_of_prefix (hsubst : validateAndExpand advertiseSchema params = .ok subst)
    (hcidr : subst[("prefix" : Text)]? = some cidr) : ∃ r : Route, r.text = cidr := by
  have hmem : bgpAdvertiseAdd ∈ catalogue := by
    iterate 10 refine List.mem_cons_of_mem _ ?_
    exact List.mem_cons_self
  have hschema : bgpAdvertiseAdd.schema = advertiseSchema := rfl
  rw [← hschema] at hsubst
  obtain ⟨spec, hspec, hnetwork⟩ := exists_of_network hmem hsubst hcidr
  rcases hnetwork with ⟨-, a, n, hn, hvalue⟩ | ⟨hv6, -⟩
  · exact ⟨Route.ofAddr a n hn, hvalue.symm⟩
  · have hv4 : ∀ s ∈ advertiseSchema, s.1 = ("prefix" : Text) → s.2.type = .cidr false := by decide
    have htype : spec.type = .cidr false := hv4 _ hspec rfl
    rw [htype] at hv6
    cases hv6

variable {input : PrepareInput} {consumers : List PrefixListConsumer} {a : PreparedDeviceAction}

/-- The line of the template of an action. -/
theorem isAdvertise_of_name (ht : t = bgpAdvertiseAdd ∨ t = bgpAdvertiseRemove)
    (hname : input.templateName = t.name) : IsAdvertise (if input.adding then [] else "no ") t := by
  rcases ht with rfl | rfl
  · have hadding : input.adding = true := by
      rw [PrepareInput.adding, hname]
      decide
    rw [hadding]
    exact isAdvertise_add
  · have hadding : input.adding = false := by
      rw [PrepareInput.adding, hname]
      decide
    rw [hadding]
    exact isAdvertise_remove

/-- **A change of a prefix list and the change that takes it back cancel.** The entries that are
recorded after are those a router has behind the commands, and behind the commands of the inverse it
has the entries that are recorded before. -/
theorem prefix_list_action_undone (ht : t = bgpAdvertiseAdd ∨ t = bgpAdvertiseRemove)
    (hname : input.templateName = t.name) (hsubst : validateAndExpand t.schema params = .ok subst)
    (hlist : subst[("prefix_list_name" : Text)]? = some list)
    (hpeer : subst[("neighbor_ip" : Text)]? = some peer)
    (hcidr : subst[("prefix" : Text)]? = some cidr)
    (h : preparePrefixListAction input peer list cidr consumers output
      (sequencedCommands t params) = .ok a)
    (hplan : planEntry input.adding output list cidr = .use n) :
    ∃ r entries after inverse, r.text = cidr ∧ parsePrefixList output list = .ok entries ∧
      a.before.head? = some (.prefixList list (entries.map prefixEntrySnapshot) consumers) ∧
      a.after.head? = some (.prefixList list (after.map prefixEntrySnapshot) consumers) ∧
      a.inverse = some inverse ∧
      a.commands.foldl (editList list) entries = after ∧
      inverse.commands.foldl (editList list) after = entries ∧
      (input.adding = true → ∀ output', parsePrefixList output' list = .ok after →
        planRemove output' list cidr = .use n) ∧
      (input.adding = false → ∀ output' m, parsePrefixList output' list = .ok after →
        planAdd output' list cidr = .use m →
          ∀ s, decision (insertEntry (exactPermit m r) after) s = decision entries s) := by
  have hline := isAdvertise_of_name ht hname
  obtain ⟨r, rfl⟩ := exists_route_of_prefix (hline.schema ▸ hsubst) hcidr
  obtain ⟨entries, hparse, h⟩ := bind_eq_ok.mp h
  rw [hplan] at h
  obtain ⟨commands, hcommands, h⟩ := bind_eq_ok.mp h
  obtain rfl := eq_of_checked h
  obtain rfl := commands_of_isAdvertise hline hsubst hlist hpeer hcidr hcommands
  have hasc := (wellFormed_of_parsePrefixList hparse).ascending
  have hne : list ≠ [] := (CompleteReading.of_parsePrefixList hparse).choose_spec.name_ne_nil
  have hword : IsWord list := ⟨hne, noWs_of_validateAndExpand hsubst hlist⟩
  have hafter := projectedEntries_eq (r := r) (n := n) input.adding hasc fun hadd => by
    rw [planEntry, if_pos hadd] at hplan
    exact (freeSlot_of_planAdd hparse hplan).sequence_ne
  refine ⟨r, entries, edited input.adding n r entries, _, rfl, hparse, rfl, ?_, rfl,
    undone_of_planEntry peer hword hparse hplan⟩
  rw [← hafter]
  rfl

/-! ### An addition, and a removal that an addition does not take back -/

/-- The parameters of an action on the list `OUT`. -/
def outParams : Params :=
  ((∅ : Params).insert ("neighbor_ip" : Text) (.string "192.0.2.1")).insert ("prefix" : Text)
    (.string "10.1.2.0/24") |>.insert ("prefix_list_name" : Text) (.string "OUT")

/-- A removal that is asked for on a device. -/
def outRemoval : PrepareInput := ⟨1, 1, "bgp_advertise_remove", none, by decide⟩

/-- A list that denies everything. -/
def outDeny : Text := "ip prefix-list OUT: 1 entry\n   seq 10 deny 0.0.0.0/0 le 32"

/-- A list that permits one route in front of it. -/
def outPermit : Text :=
  "ip prefix-list OUT: 2 entries\n   seq 7 permit 10.1.2.0/24\n   seq 10 deny 0.0.0.0/0 le 32"

/-- The removal of `10.1.2.0/24` from the list `OUT`, and the restoration of its entry. -/
theorem prefix_list_action_undone_out : ∃ a inverse entries,
    preparePrefixListAction outRemoval "192.0.2.1" "OUT"
    "10.1.2.0/24" [] outPermit
      (sequencedCommands bgpAdvertiseRemove outParams) = .ok a ∧
    a.inverse = some inverse ∧ parsePrefixList outPermit "OUT" = .ok entries ∧
      inverse.commands.foldl (editList "OUT") (a.commands.foldl (editList "OUT") entries) =
        entries := by
  have hprepared : (preparePrefixListAction outRemoval "192.0.2.1" "OUT"
    "10.1.2.0/24" []
      outPermit (sequencedCommands bgpAdvertiseRemove outParams)).toOption.isSome = true := by
    decide +kernel
  have hvalues : ((validateAndExpand bgpAdvertiseRemove.schema outParams).toOption.map fun subst =>
      (subst[("prefix_list_name" : Text)]?, subst[("neighbor_ip" : Text)]?,
          subst[("prefix" : Text)]?)) =
        some (some ("OUT" : Text), some ("192.0.2.1" : Text), some ("10.1.2.0/24" : Text)) := by
    decide +kernel
  cases ha : preparePrefixListAction outRemoval "192.0.2.1" "OUT"
    "10.1.2.0/24" []
      outPermit (sequencedCommands bgpAdvertiseRemove outParams) with
  | error e =>
    rw [ha] at hprepared
    cases hprepared
  | ok a =>
    cases hs : validateAndExpand bgpAdvertiseRemove.schema outParams with
    | error e =>
      rw [hs] at hvalues
      cases hvalues
    | ok subst =>
      rw [hs] at hvalues
      obtain ⟨hlist, hpeer, hcidr⟩ := Prod.mk.inj (Option.some.inj hvalues) |>.imp_right Prod.mk.inj
      obtain ⟨r, entries, after, inverse, -, hparse, -, -, hinverse, hforward, hback, -⟩ :=
        prefix_list_action_undone (Or.inr rfl) rfl hs hlist hpeer hcidr ha (n :=
          7) (by decide +kernel)
      exact ⟨a, inverse, entries, rfl, hinverse, hparse, by rw [hforward, hback]⟩

/-- **An addition that is planned on the list a removal leaves may be placed elsewhere**: the entry
that was removed had the number 7, and the free place before the deny is the number 5. -/
theorem planAdd_moves :
    ¬∀ (output output' list : Text) (r : Route) (n : ℕ) (entries : List PrefixListEntry),
      parsePrefixList output list = .ok entries → planRemove output list r.text = .use n →
        parsePrefixList output' list = .ok (edited false n r entries) →
          planAdd output' list r.text = .use n := by
  intro hall
  have hparse : parsePrefixList outPermit "OUT" =
      .ok [exactPermit 7 nestedRoute, ⟨10, false, 0, 0, none, some 32⟩] := by
    decide +kernel
  have hplan : planRemove outPermit "OUT" nestedRoute.text = .use 7 := by
    decide +kernel
  have hafter : parsePrefixList outDeny "OUT" =
      .ok (edited false 7 nestedRoute [exactPermit 7 nestedRoute,
        ⟨10, false, 0, 0, none, some 32⟩]) := by
    decide +kernel
  exact absurd (hall outPermit outDeny "OUT" nestedRoute 7 _ hparse hplan hafter)
    (by decide +kernel)

end Rerouter
