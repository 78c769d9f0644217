import Rerouter.ProjectedList

/-!
# A printed list is read back

The other half of `Rerouter.eq_of_parse_render`: not only is a list that was printed and can be
read the one that was printed, it *can* be read. What an entry needs for that is what a router
lets stand in one (`Rerouter.PrefixListEntry.InRange`); what a list needs is that its numbers
ascend; and what its name needs is what makes the header line one line that is read as one
(`Rerouter.ListName`).

**A list printed under such a name is read as it was printed** (`Rerouter.parse_render`). Two things
in a name spoil it that are easily forgotten: the header of a list without a name is no header, and
a name that holds a line feed is printed on two lines (`Rerouter.parse_render_needs_name`).
-/

namespace Rerouter

open Text Ipv4 FirstMatch

/-- An entry as a router takes it: a number it has, and no length above that of an address. -/
structure PrefixListEntry.InRange (e : PrefixListEntry) : Prop where
  sequence : minSeq ≤ e.sequence ∧ e.sequence ≤ maxSeq
  length : e.length ≤ 32
  ge : ∀ n ∈ e.ge, n ≤ 32
  le : ∀ n ∈ e.le, n ≤ 32

/-- A name with nothing around it, no colon in it, and nothing in it that says a read was
rejected. -/
structure PlainName (name : Text) : Prop where
  trimmed : trim name = name
  colon : ':' ∉ name
  denial : ∀ m ∈ deniedMarkers, contains m name = false

/-- The name of a list that is shown on a line of its own. -/
structure ListName (name : Text) : Prop extends PlainName name where
  ne_nil : name ≠ []
  line : '\n' ∉ name

variable {e : PrefixListEntry} {es : List PrefixListEntry} {name bad : Text}

/-! ### An entry -/

theorem parseNet_text {a : Addr} {n : ℕ} (hn : n ≤ 32) :
    parseNet bad (addrText a ++ '/' :: natText n) = .ok (a, n) := by
  refine bind_eq_ok.mpr ⟨_, okOr_eq_ok.mpr
    (splitOnce_append (not_mem_addrText (by decide) (by decide) a)), ?_⟩
  refine bind_eq_ok.mpr ⟨a, okOr_eq_ok.mpr (parseAddr_addrText a), ?_⟩
  refine bind_eq_ok.mpr ⟨n, okOr_eq_ok.mpr (parseUnsigned_natText (by omega)), ?_⟩
  rw [if_neg (by omega)]
  rfl

/-- The bounds are read in the order in which they are printed, `ge` first. -/
theorem parseRange_boundWords {ge le : Option ℕ} (hge : ∀ n ∈ ge, n ≤ 32) (hle : ∀ n ∈ le, n ≤ 32) :
    parseRange bad (boundWords "ge" ge ++ boundWords "le" le) none none = .ok (ge, le) := by
  have hnumber : ∀ {n : ℕ}, n ≤ 32 → okOr bad (parseUnsigned 255 (natText n)) = .ok n := fun hn =>
    okOr_eq_ok.mpr (parseUnsigned_natText (by omega))
  have hleft : ∀ seen : Option ℕ, parseRange bad (boundWords "le" le) seen none =
    .ok (seen, le) := by
    intro seen
    cases le with
    | none => rfl
    | some n =>
      have hn : n ≤ 32 := hle n rfl
      rw [boundWords, parseRange, hnumber hn, ok_bind, if_neg (by omega),
        if_neg fun hne => absurd hne.1 (by decide), if_pos ⟨rfl, rfl⟩]
      rfl
  cases ge with
  | none => exact hleft none
  | some n =>
    have hn : n ≤ 32 := hge n rfl
    rw [boundWords, List.cons_append, List.cons_append, List.nil_append, parseRange,
      hnumber hn, ok_bind, if_neg (by omega), if_pos ⟨rfl, rfl⟩]
    exact hleft (some n)

theorem parseAction_action (e : PrefixListEntry) : parseAction e.action = some e.permit := by
  obtain ⟨sequence, permit, network, length, ge, le⟩ := e
  cases permit
  · rfl
  · rfl

/-- **An entry in range is read as it was printed.** -/
theorem parseEntry_render (h : e.InRange) :
    parseEntry (renderEntry (prefixEntrySnapshot e)) = .ok e := by
  have hmax : e.sequence ≤ 4294967295 := by
    have h2 := h.sequence.2
    unfold maxSeq at h2
    omega
  rw [parseEntry, splitWhitespace_entryBody, entryWords]
  dsimp only
  rw [if_neg (not_not.mpr rfl), okOr_eq_ok.mpr (parseUnsigned_natText hmax), ok_bind,
    if_neg (not_not.mpr h.sequence), okOr_eq_ok.mpr (parseAction_action e), ok_bind,
    parseNet_text h.length,
    ok_bind]
  dsimp only
  rw [parseRange_boundWords h.ge h.le]
  rfl

/-! ### The header -/

/-- The header, cut at the colon. -/
theorem listHeader_eq (name : Text) (count : ℕ) :
    ∃ unit : Text, (unit = "entry" ∨ unit = "entries") ∧
    listHeader name count = "ip prefix-list " ++
      (name ++ ':' :: (' ' :: (natText count ++ ' ' :: unit))) := by
  have hcut : ∀ start colon unit word : Text, colon = [':', ' '] → unit = ' ' :: word →
      start ++ name ++ colon ++ natText count ++ unit =
        start ++ (name ++ ':' :: (' ' :: (natText count ++ ' ' :: word))) := by
    rintro start _ _ word rfl rfl
    simp only [List.append_assoc, List.cons_append, List.nil_append]
  unfold listHeader
  split
  · exact ⟨"entry", Or.inl rfl, hcut _ _ _ _ rfl rfl⟩
  · exact ⟨"entries", Or.inr rfl, hcut _ _ _ _ rfl rfl⟩

/-- **A list is announced under its name, with the number of its entries.** -/
theorem parseHeader_listHeader {count : ℕ} (hname : ListName name) (hcount : count ≤ maxUsize) :
    parseHeader (listHeader name count) = some (name, count) := by
  obtain ⟨unit, hunit, heq⟩ := listHeader_eq name count
  have hword : IsWord unit := by
    rcases hunit with rfl | rfl
    · decide
    · decide
  have hwords : splitWhitespace (' ' :: (natText count ++ ' ' :: unit)) =
    [natText count, unit] := by
    have htrim := splitWhitespace_trimStart (' ' :: (natText count ++ ' ' :: unit))
    have hblank : trimStart (' ' :: (natText count ++ ' ' :: unit)) =
      trimStart (natText count ++ ' ' :: unit) := by
      rfl
    rw [hblank, splitWhitespace_trimStart,
      splitWhitespace_append_space (noWs_natText _) (natText_ne_nil _),
      splitWhitespace_of_isWord hword] at htrim
    exact htrim.symm
  have hstrip : stripPrefix "ip prefix-list " (listHeader name count) =
      some (name ++ ':' :: (' ' :: (natText count ++ ' ' :: unit))) := stripPrefix_eq_some.mpr heq
  unfold parseHeader
  rw [hstrip, Option.bind_eq_bind, Option.bind_some, splitOnce_append hname.colon,
    Option.bind_eq_bind, Option.bind_some]
  dsimp only
  rw [hwords]
  dsimp only
  rw [parseUnsigned_natText hcount, Option.bind_eq_bind, Option.bind_some, hname.trimmed,
    if_pos ⟨hunit, hname.ne_nil⟩]

/-! ### No line says that the read was rejected -/

/-- What a denial starts with stands neither in a header before the name, nor behind its colon. -/
theorem contains_listHeader {count : ℕ} (hname : PlainName name) {m : Text}
    (hm : m ∈ deniedMarkers) :
    contains m (listHeader name count) = false := by
  obtain ⟨unit, hunit, heq⟩ := listHeader_eq name count
  have hcolon : ':' ∉ m := (by decide : ∀ m ∈ deniedMarkers, ':' ∉ m) m hm
  have hstart : ∃ c ∈ m.head?, c ∉ ("ip prefix-list " : Text) := by
    have hany := (by decide : ∀ m ∈ deniedMarkers,
      m.head?.any (fun c => c ∉ ("ip prefix-list " : Text)) = true) m hm
    simpa [Option.any_eq_true] using hany
  have hother : ∃ c ∈ m, c.isDigit = false ∧ c ∉ (" entriesy" : Text) := by
    have hany := (by decide : ∀ m ∈ deniedMarkers,
      m.any (fun c => c.isDigit = false ∧ c ∉ (" entriesy" : Text)) = true) m hm
    obtain ⟨c, hc, h⟩ := List.any_eq_true.mp hany
    exact ⟨c, hc, of_decide_eq_true h⟩
  by_contra hcon
  have hpart := contains_iff.mp (Bool.eq_true_of_not_eq_false hcon)
  rw [heq] at hpart
  have hpart := infix_of_infix_append hstart hpart
  rcases infix_append_cons hcolon hpart with hpart | hpart
  · exact absurd (contains_iff.mpr hpart) (by simp [hname.denial m hm])
  · -- Behind the colon there are a number and a word, and no denial is made of those.
    obtain ⟨c, hc, hdigit, hblank⟩ := hother
    have hmem := hpart.subset hc
    simp only [List.mem_cons, List.mem_append] at hmem
    rcases hmem with rfl | hmem | rfl | hmem
    · exact hblank (by decide)
    · rw [isDigit_of_mem_natText hmem] at hdigit
      cases hdigit
    · exact hblank (by decide)
    · rcases hunit with rfl | rfl
      · exact hblank ((by decide : ("entry" : Text) ⊆ (" entriesy" : Text)) hmem)
      · exact hblank ((by decide : ("entries" : Text) ⊆ (" entriesy" : Text)) hmem)

theorem contains_renderEntry {m : Text} (hm : m ∈ deniedMarkers) :
    contains m (renderEntry (prefixEntrySnapshot e)) = false := by
  have hany := (by decide : ∀ m ∈ deniedMarkers,
    m.any (fun c => c.isDigit = false ∧ c ≠ ' ' ∧ c ∉ ("seqprmitdnygl/." : Text)) = true) m hm
  obtain ⟨c, hc, h⟩ := List.any_eq_true.mp hany
  obtain ⟨hdigit, hblank, hplain⟩ := of_decide_eq_true h
  by_contra hcon
  have hpart := contains_iff.mp (Bool.eq_true_of_not_eq_false hcon)
  exact not_mem_renderEntry hdigit hblank hplain (hpart.subset hc)

theorem trim_listHeader {count : ℕ} : trim (listHeader name count) = listHeader name count := by
  refine trim_eq_self (fun c hc => ?_) fun c hc => ?_
  · have hi : (listHeader name count).head? = some 'i' := rfl
    rw [hi] at hc
    obtain rfl := Option.some.inj hc
    rfl
  · rw [getLast?_listHeader] at hc
    obtain rfl := Option.some.inj hc
    split <;> rfl

/-- **A printed list is not taken for a rejected read.** -/
theorem denied_render (hname : ListName name) :
    denied (renderPrefixListSnapshot name (es.map prefixEntrySnapshot)) = none := by
  refine List.find?_eq_none.mpr fun line hline => ?_
  rw [lines_render hname.line] at hline
  obtain ⟨raw, hraw, rfl⟩ := List.mem_map.mp hline
  rw [List.any_eq_true]
  rintro ⟨m, hm, hcontains⟩
  rcases List.mem_cons.mp hraw with rfl | hraw
  · rw [trim_listHeader, contains_listHeader hname.toPlainName hm] at hcontains
    cases hcontains
  · obtain ⟨e, -, rfl⟩ := List.mem_map.mp hraw
    rw [trim_renderEntry, contains_renderEntry hm] at hcontains
    cases hcontains

/-! ### The list -/

/-- The entries are read one behind another. -/
theorem readEntries (name : Text) (st : ReadState) (hin : st.inTarget = true)
    (hrange : ∀ e ∈ es, e.InRange)
    (hes : (st.entries ++ es).Pairwise fun a b => a.sequence ≠ b.sequence) :
    (es.map fun e => renderEntry (prefixEntrySnapshot e)).foldlM (readLine name) st =
      .ok { st with entries := st.entries ++ es } := by
  induction es generalizing st with
  | nil => rw [List.append_nil]; rfl
  | cons e es ih =>
    have hnew : ¬(st.entries.any fun a => a.sequence = e.sequence) = true := by
      rw [List.any_eq_true]
      rintro ⟨a, ha, heq⟩
      exact (List.pairwise_append.mp hes).2.2 a ha e List.mem_cons_self (by simpa using heq)
    have hone : readLine name st (renderEntry (prefixEntrySnapshot e)) =
        .ok { st with entries := st.entries ++ [e] } := by
      rw [readLine_renderEntry, if_pos hin, readEntry,
        parseEntry_render (hrange e List.mem_cons_self), ok_bind, if_neg hnew]
    rw [List.map_cons, List.foldlM_cons, hone, ok_bind]
    have hrest := @ih { st with entries := st.entries ++ [e] } hin
      (fun a ha => hrange a (List.mem_cons_of_mem e ha)) (by simpa using hes)
    rw [hrest]
    simp only [List.append_assoc, List.singleton_append]

/-- **A list that is printed under a name of a list is read as it was printed**, in the order of its
numbers: the reader accepts it, and nothing is lost. -/
theorem parse_render (hname : ListName name) (hes : Ascending PrefixListEntry.sequence es)
    (hrange : ∀ e ∈ es, e.InRange) :
    parsePrefixList (renderPrefixListSnapshot name (es.map prefixEntrySnapshot)) name = .ok es := by
  have hlength : es.length ≤ maxUsize := by
    have h := hes.length_le (m := 0) (n := maxSeq) fun e he => (hrange e he).sequence
    unfold maxSeq at h
    unfold maxUsize
    omega
  have hopen : readLine name ⟨[], none, false⟩ (listHeader name es.length) =
      .ok ⟨[], some es.length, true⟩ := by
    have hne : listHeader name es.length ≠ [] := List.cons_ne_nil _ _
    rw [readLine, trim_listHeader, readTrimmed, if_neg hne, parseHeader_listHeader hname hlength]
    dsimp only
    rw [if_pos rfl, if_neg (by simp)]
  have hread := readEntries name ⟨[], some es.length, true⟩ rfl hrange
    (by simpa using hes.imp fun h => h.ne)
  unfold parsePrefixList
  rw [denied_render hname, lines_render hname.line, List.foldlM_cons, hopen]
  dsimp only
  rw [ok_bind, hread]
  simp only [ok_bind, List.nil_append]
  rw [if_neg (not_not.mpr rfl), sortByKey, List.Pairwise.insertionSort_eq (hes.imp fun h => h.le)]

/-- The text `seq 5 permit 10.0.0.0/8 ge 16 le 24`, behind its header. -/
theorem parse_render_office : parsePrefixList (renderPrefixListSnapshot "OFFICE OUT"
    ([⟨5, true, ofOctets 10 0 0 0, 8, some 16, some 24⟩].map prefixEntrySnapshot)) "OFFICE OUT" =
      .ok [⟨5, true, ofOctets 10 0 0 0, 8, some 16, some 24⟩] :=
  parse_render ⟨⟨by decide, by decide, by decide⟩,
      by decide, by decide⟩ (List.pairwise_singleton _ _)
    fun e he => by
      obtain rfl := List.mem_singleton.mp he
      exact ⟨by decide, by decide, by decide, by decide⟩

/-- **A list has to have a name, and a name stands on one line**: the two names are plain, and the
empty list is not read back under either. -/
theorem parse_render_needs_name :
    (PlainName [] ∧ parsePrefixList (renderPrefixListSnapshot [] []) [] ≠ .ok []) ∧
      PlainName "A\nB" ∧ parsePrefixList (renderPrefixListSnapshot "A\nB" []) "A\nB" ≠ .ok [] := by
  refine ⟨⟨⟨by decide, by decide, by decide⟩, by decide +kernel⟩, ⟨by decide, by decide, by decide⟩,
    ?_⟩
  decide +kernel

end Rerouter
