import Rerouter.PrefixList

/-!
# A reading that was accepted is complete

`Rerouter.parsePrefixList` walks the lines of an output and keeps two things: whether the
last header it passed was one of the list, and the entries met since. What it hands on is
read off the text here, with no walk: the *section* of a list is what stands behind a header
of it and before the next header of any list, and the *entry lines* of the section are those
that start with `seq ` once they are trimmed (`Rerouter.entryLines`).

**The entries of an accepted reading are the entry lines of the section, each of them parsed,
and they are as many as its only header declares** (`Rerouter.CompleteReading.of_parsePrefixList`).
They are put in the order of their sequence numbers, which need not be the order of the lines. The
header is what makes this count: a text that lost entry lines of the section, and kept its headers,
is not accepted any more (`Rerouter.Deletes.not_accepted`).
-/

namespace Rerouter

open Text Ipv4 FirstMatch

/-! ### The section of a list -/

/-- Whether the lines behind a line are of the section: a header decides, and any other line
leaves it as it was. -/
def sectionAfter (name : Text) (inside : Bool) (line : Text) : Bool :=
  match parseHeader (trim line) with
  | some (header, _) => header = name
  | none => inside

/-- Entry lines always start with `seq`. -/
def isEntryLine (line : Text) : Bool := startsWith "seq " (trim line)

/-- The entry lines of the section of a list, trimmed. -/
def entryLines (name : Text) : Bool → List Text → List Text
  | _, [] => []
  | inside, line :: rest =>
    if sectionAfter name inside line && isEntryLine line then
      trim line :: entryLines name (sectionAfter name inside line) rest
    else entryLines name (sectionAfter name inside line) rest

/-- The number of entries a header of the list declares. -/
def declaredBy (name line : Text) : Option ℕ :=
  match parseHeader (trim line) with
  | some (header, count) => if header = name then some count else none
  | none => none

/-- The numbers that the headers of the list declare, one a header. -/
def declared (name : Text) (output : List Text) : List ℕ := output.filterMap (declaredBy name)

variable {name line output damaged : Text} {inside : Bool} {rest rest' : List Text} {n : ℕ}
  {st st' : ReadState} {entries es : List PrefixListEntry}

/-- An entry line is not a header. -/
theorem parseHeader_of_isEntryLine (h : isEntryLine line = true) :
    parseHeader (trim line) = none := by
  obtain ⟨tail, htail⟩ := Option.isSome_iff_exists.mp h
  rw [stripPrefix_eq_some.mp htail]
  rfl

/-- Nor is a header an entry line. -/
theorem isEntryLine_of_header {header : Text × ℕ} (h : parseHeader (trim line) = some header) :
    isEntryLine line = false := by
  by_contra hcon
  rw [parseHeader_of_isEntryLine (Bool.eq_true_of_not_eq_false hcon)] at h
  cases h

theorem sectionAfter_of_none (h : parseHeader (trim line) = none) :
    sectionAfter name inside line = inside := by
  rw [sectionAfter, h]

theorem declaredBy_of_none (h : parseHeader (trim line) = none) : declaredBy name line = none := by
  rw [declaredBy, h]

/-! ### What one line does -/

/-- **What a line does to a reading**: a header of the list opens its section, once; any other
header closes it; an entry line of the section is parsed, and put behind the entries before it;
and everything else is passed over. -/
theorem readLine_cases (h : readLine name st line = .ok st') :
    (∃ count, parseHeader (trim line) = some (name, count) ∧ st.expected = none ∧
      st' = { st with expected := some count, inTarget := true }) ∨
    (∃ header count, parseHeader (trim line) = some (header, count) ∧ header ≠ name ∧
      st' = { st with inTarget := false }) ∨
    (st.inTarget = true ∧ isEntryLine line = true ∧ ∃ e, parseEntry (trim line) = .ok e ∧
      st' = { st with entries := st.entries ++ [e] }) ∨
    (parseHeader (trim line) = none ∧ (st.inTarget && isEntryLine line) = false ∧ st' = st) := by
  unfold readLine readTrimmed at h
  split at h
  -- an empty line
  · rename_i hempty
    refine Or.inr (Or.inr (Or.inr ⟨by rw [hempty]; rfl, ?_, (Except.ok.inj h).symm⟩))
    rw [isEntryLine, hempty]
    exact Bool.and_false _
  · split at h
    · rename_i header count hheader
      split at h
      · rename_i hname
        split at h
        · cases h
        · rename_i hseen
          refine Or.inl ⟨count, by rw [hheader, hname], ?_, (Except.ok.inj h).symm⟩
          simpa using hseen
      · rename_i hname
        exact Or.inr (Or.inl ⟨header, count, hheader, hname, (Except.ok.inj h).symm⟩)
    · rename_i hheader
      change (if ¬isEntryLine line = true then _ else _) = _ at h
      -- inside the section an entry line, which is parsed; outside it is passed over
      by_cases hline : isEntryLine line = true
      · rw [if_neg (not_not.mpr hline)] at h
        by_cases htarget : st.inTarget = true
        · rw [if_neg (not_not.mpr htarget)] at h
          obtain ⟨e, he, h⟩ := bind_eq_ok.mp h
          split at h
          · cases h
          · exact Or.inr (Or.inr (Or.inl ⟨htarget, hline, e, he, (Except.ok.inj h).symm⟩))
        · rw [if_pos htarget] at h
          refine Or.inr (Or.inr (Or.inr ⟨hheader, ?_, (Except.ok.inj h).symm⟩))
          rw [Bool.eq_false_of_not_eq_true htarget, Bool.false_and]
      · rw [if_pos hline] at h
        refine Or.inr (Or.inr (Or.inr ⟨hheader, ?_, (Except.ok.inj h).symm⟩))
        rw [Bool.eq_false_of_not_eq_true hline, Bool.and_false]

/-! ### What a run of lines does -/

/-- What the lines of an output add to a reading: the entries of the entry lines of the section,
and the number that the header declares, which no header declared before. -/
theorem foldlM_readLine (h : rest.foldlM (readLine name) st = .ok st') :
    (∃ es, List.Forall₂ (fun line e => parseEntry line = .ok e)
      (entryLines name st.inTarget rest) es ∧
      st'.entries = st.entries ++ es) ∧
    st'.expected.toList = st.expected.toList ++ declared name rest := by
  induction rest generalizing st with
  | nil =>
    obtain rfl := Except.ok.inj h
    exact ⟨⟨[], List.Forall₂.nil, (List.append_nil _).symm⟩, (List.append_nil _).symm⟩
  | cons line rest ih =>
    obtain ⟨mid, hmid, h⟩ := bind_eq_ok.mp h
    obtain ⟨⟨es, hes, hentries⟩, hexpected⟩ := ih h
    rcases readLine_cases hmid with ⟨count, hheader, hnone, rfl⟩ | ⟨header, count,
      hheader, hne, rfl⟩ |
      ⟨htarget, hline, e, he, rfl⟩ | ⟨hheader, hpass, rfl⟩
    · have hentry := isEntryLine_of_header hheader
      -- a header of the list is no entry, and opens the section
      have hsection : sectionAfter name st.inTarget line = true := by
        rw [sectionAfter, hheader]
        exact decide_eq_true rfl
      refine ⟨⟨es, ?_, hentries⟩, ?_⟩
      · rw [entryLines, hentry, Bool.and_false, hsection]
        exact hes
      · rw [hexpected, hnone, declared, declared, List.filterMap_cons, declaredBy, hheader]
        dsimp only
        rw [if_pos rfl]
        rfl
    · have hentry := isEntryLine_of_header hheader
      -- a header of another list closes it
      have hsection : sectionAfter name st.inTarget line = false := by
        rw [sectionAfter, hheader]
        exact decide_eq_false hne
      refine ⟨⟨es, ?_, hentries⟩, ?_⟩
      · rw [entryLines, hentry, Bool.and_false, hsection]
        exact hes
      · rw [hexpected, declared, declared, List.filterMap_cons, declaredBy, hheader]
        dsimp only
        rw [if_neg hne]
    · have hheader := parseHeader_of_isEntryLine hline
      refine ⟨⟨e :: es, ?_, ?_⟩, ?_⟩
      · rw [entryLines, sectionAfter_of_none hheader, htarget, hline]
        rw [htarget] at hes
        exact List.Forall₂.cons he hes
      · rw [hentries, List.append_assoc, List.singleton_append]
      · rw [hexpected, declared, declared, List.filterMap_cons, declaredBy_of_none hheader]
    · refine ⟨⟨es, ?_, hentries⟩, ?_⟩
      · rw [entryLines, sectionAfter_of_none hheader, hpass]
        exact hes
      · rw [hexpected, declared, declared, List.filterMap_cons, declaredBy_of_none hheader]

/-! ### What is accepted -/

/-- **A complete reading**: one header, with the number of the entry lines of the section, and of
each entry line its entry, put in the order of the sequence numbers. -/
structure CompleteReading (output name : Text) (entries es : List PrefixListEntry) : Prop where
  parsed : List.Forall₂ (fun line e => parseEntry line = .ok e)
    (entryLines name false (lines output)) es
  sorted : entries = sortByKey PrefixListEntry.sequence es
  declares : declared name (lines output) = [entries.length]

/-- **What the reader accepts is a complete reading.** -/
theorem CompleteReading.of_parsePrefixList (h : parsePrefixList output name = .ok entries) :
    ∃ es, CompleteReading output name entries es := by
  unfold parsePrefixList at h
  split at h
  · cases h
  obtain ⟨st, hst, h⟩ := bind_eq_ok.mp h
  obtain ⟨⟨es, hes, hentries⟩, hexpected⟩ := foldlM_readLine hst
  rw [List.nil_append] at hentries
  split at h
  · cases h
  · rename_i expected hsome
    split_ifs at h with hcount
    obtain rfl := Except.ok.inj h
    refine ⟨es, hes, by rw [hentries], ?_⟩
    have hlength : (sortByKey PrefixListEntry.sequence st.entries).length = st.entries.length :=
      List.length_insertionSort _ _
    rw [hsome] at hexpected
    rw [hlength, ← not_not.mp hcount]
    exact hexpected.symm

theorem CompleteReading.length_eq (h : CompleteReading output name entries es) :
    (entryLines name false (lines output)).length = entries.length := by
  rw [h.parsed.length_eq, h.sorted]
  exact (List.length_insertionSort _ _).symm

/-- Where the lines show ascending numbers, the order is theirs. -/
theorem CompleteReading.eq_of_ascending (h : CompleteReading output name entries es)
    (hes : Ascending PrefixListEntry.sequence es) : entries = es := by
  rw [h.sorted]
  exact List.Pairwise.insertionSort_eq (hes.imp fun hlt => hlt.le)

/-- A header announces no list without a name. -/
theorem ne_nil_of_parseHeader {count : ℕ} (h : parseHeader line = some (name, count)) :
    name ≠ [] := by
  obtain ⟨rest, -, h⟩ := Option.bind_eq_some_iff.mp h
  obtain ⟨⟨raw, tail⟩, -, h⟩ := Option.bind_eq_some_iff.mp h
  dsimp only at h
  split at h
  · obtain ⟨number, -, h⟩ := Option.bind_eq_some_iff.mp h
    split at h
    · rename_i hname
      obtain ⟨rfl, -⟩ := Prod.mk.inj (Option.some.inj h)
      exact hname.2
    · cases h
  · cases h

theorem CompleteReading.name_ne_nil (h : CompleteReading output name entries es) : name ≠ [] := by
  have hmem : entries.length ∈ declared name (lines output) := by
    rw [h.declares]
    exact List.mem_singleton_self _
  obtain ⟨line, -, hline⟩ := List.mem_filterMap.mp hmem
  unfold declaredBy at hline
  split at hline
  · rename_i header count hheader
    split at hline
    · rename_i hname
      rw [← hname]
      exact ne_nil_of_parseHeader hheader
    · cases hline
  · cases hline

/-! ### What is lost -/

/-- Lines with some of them deleted, none of them a header: `n` counts those that were entry
lines of the section. -/
inductive Deletes (name : Text) : Bool → List Text → List Text → ℕ → Prop
  | nil {inside : Bool} : Deletes name inside [] [] 0
  | keep {inside : Bool} {line : Text} {rest rest' : List Text} {n : ℕ} :
    Deletes name (sectionAfter name inside line) rest rest' n →
      Deletes name inside (line :: rest) (line :: rest') n
  | drop {inside : Bool} {line : Text} {rest rest' : List Text} {n : ℕ} :
    parseHeader (trim line) = none → Deletes name inside rest rest' n →
      Deletes name inside (line :: rest) rest' (if inside && isEntryLine line then n + 1 else n)

/-- The headers declare what they declared. -/
theorem Deletes.declared_eq (h : Deletes name inside rest rest' n) :
    declared name rest' = declared name rest := by
  induction h with
  | nil => rfl
  | keep _ ih =>
    rw [declared, List.filterMap_cons, ← declared, ih]
    rfl
  | drop hheader _ ih =>
    rw [ih, declared, declared, List.filterMap_cons, declaredBy_of_none hheader]

/-- And the entry lines are fewer by those that were deleted. -/
theorem Deletes.length_entryLines (h : Deletes name inside rest rest' n) :
    (entryLines name inside rest).length = (entryLines name inside rest').length + n := by
  induction h with
  | nil => rfl
  | keep _ ih =>
    rw [entryLines, entryLines]
    split
    · rw [List.length_cons, List.length_cons, ih]
      omega
    · exact ih
  | drop hheader _ ih =>
    rw [entryLines, sectionAfter_of_none hheader]
    split
    · rw [List.length_cons, ih]
      rfl
    · exact ih

/-- **A text that lost entry lines of the section is not accepted.** -/
theorem Deletes.not_accepted (h : Deletes name false (lines output) (lines damaged) n) (hn : 0 < n)
    (hread : parsePrefixList output name = .ok entries) :
    ¬∃ entries', parsePrefixList damaged name = .ok entries' := by
  rintro ⟨entries', hread'⟩
  obtain ⟨es, hes⟩ := CompleteReading.of_parsePrefixList hread
  obtain ⟨es', hes'⟩ := CompleteReading.of_parsePrefixList hread'
  have hdeclared := h.declared_eq
  have hlength := h.length_entryLines
  rw [hes.declares, hes'.declares] at hdeclared
  rw [hes.length_eq, hes'.length_eq] at hlength
  have hsame : entries'.length = entries.length := List.singleton_inj.mp hdeclared
  omega

/-! ### The law of an accepted reading -/

/-- **A reading that is accepted is complete**: the text has one header of the list, the number it
declares is the number of the entries, and the entries are those of the entry lines of its
section, every one of them, in the order of the sequence numbers; and any text that is left of it
when entry lines of the section are deleted is refused. -/
theorem complete_of_accepted (h : parsePrefixList output name = .ok entries) :
    (∃ es, List.Forall₂ (fun line e => parseEntry line = .ok e)
      (entryLines name false (lines output)) es ∧
      entries.Perm es ∧ (Ascending PrefixListEntry.sequence es → entries = es)) ∧
    declared name (lines output) = [entries.length] ∧
    Ascending PrefixListEntry.sequence entries ∧
    ∀ damaged n, Deletes name false (lines output) (lines damaged) n → 0 < n →
      ¬∃ entries', parsePrefixList damaged name = .ok entries' := by
  obtain ⟨es, hes⟩ := CompleteReading.of_parsePrefixList h
  refine ⟨⟨es, hes.parsed, ?_, hes.eq_of_ascending⟩, hes.declares, ?_, fun damaged n hdel hn => ?_⟩
  · rw [hes.sorted]
    exact List.perm_insertionSort _ _
  · exact (wellFormed_of_parsePrefixList h).ascending
  · exact hdel.not_accepted hn h

/-- A list that is shown with its greater number first. -/
def shownDescending : Text :=
  "ip prefix-list L: 2 entries\n   seq 10 permit 10.0.0.0/8\n   seq 5 deny 0.0.0.0/0 le 32\n"

theorem parse_shownDescending : parsePrefixList shownDescending "L" =
    .ok [⟨5, false, ofOctets 0 0 0 0, 0, none, some 32⟩,
      ⟨10, true, ofOctets 10 0 0 0, 8, none, none⟩] := by
  decide +kernel

/-- It is accepted, with the two entries that its header declares. -/
theorem complete_shownDescending : declared "L" (lines shownDescending) = [2] :=
  (complete_of_accepted parse_shownDescending).2.1

/-- **The order of the entries need not be that of the lines.** -/
theorem shownDescending_not_in_line_order :
    ¬∀ output name entries, parsePrefixList output name = .ok entries →
      List.Forall₂ (fun line e => parseEntry line = .ok e) (entryLines name false (lines output))
        entries := by
  intro hall
  have hlines : entryLines "L" false (lines shownDescending) =
      ["seq 10 permit 10.0.0.0/8", "seq 5 deny 0.0.0.0/0 le 32"] := by
    decide +kernel
  have hread := hall _ _ _ parse_shownDescending
  rw [hlines] at hread
  have hfirst : parseEntry "seq 10 permit 10.0.0.0/8" =
      .ok ⟨5, false, ofOctets 0 0 0 0, 0, none, some 32⟩ := (List.forall₂_cons.mp hread).1
  exact absurd hfirst (by decide +kernel)

end Rerouter
