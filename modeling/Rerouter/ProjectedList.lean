import Rerouter.PlannerRuns

/-!
# A prefix list that is left behind

The entries an earlier action leaves a prefix list with are handed on as text: they are printed
the way the router shows a list (`Rerouter.renderPrefixListSnapshot`), and the next action reads
that text with the reader it has for the router.

Nothing is lost on the way. An entry that was printed and can be read is the entry that was
printed (`Rerouter.eq_of_parseEntry`), and so is a list of them, in the order of their numbers
(`Rerouter.eq_of_parse_render`). The lists that arise are of this kind: what is read off a router is
printed from entries in that order, and an edit keeps it so (`Rerouter.Printed.projectedEntries`).
-/

namespace Rerouter

open Text Ipv4 FirstMatch

/-! ### An entry and its words -/

/-- The words of a bound on the lengths. -/
def boundWords (key : Text) : Option ℕ → List Text
  | some n => [key, natText n]
  | none => []

/-- The words of an entry, as the router shows it. -/
def entryWords (e : PrefixListEntry) : List Text :=
  "seq" :: natText e.sequence :: e.action :: (addrText e.network ++ '/' :: natText e.length) ::
    (boundWords "ge" e.ge ++ boundWords "le" e.le)

variable {e : PrefixListEntry} {name : Text}

/-- An entry is printed word by word. -/
theorem renderEntry_eq (e : PrefixListEntry) :
    renderEntry (prefixEntrySnapshot e) = unwords (entryWords e) := by
  have hseq : ("seq " : Text) = "seq" ++ [' '] := rfl
  have hge : (" ge " : Text) = ' ' :: ("ge" ++ [' ']) := rfl
  have hle : (" le " : Text) = ' ' :: ("le" ++ [' ']) := rfl
  have hpermit : (" permit " : Text) = ' ' :: ("permit" ++ [' ']) := rfl
  have hdeny : (" deny " : Text) = ' ' :: ("deny" ++ [' ']) := rfl
  obtain ⟨sequence, permit, network, length, ge, le⟩ := e
  simp only [renderEntry, prefixEntrySnapshot, entryWords, PrefixListEntry.action, hseq, hge, hle,
    hpermit, hdeny]
  cases permit <;> cases ge <;> cases le <;> simp [boundWords, unwords]

/-- The characters of a word of an entry. -/
theorem mem_entryWords {w : Text} (hw : w ∈ entryWords e) {c : Char} (hc : c ∈ w) :
    c.isDigit = true ∨ c ∈ ("seqprmitdnygl/." : Text) := by
  have hkey : ∀ {key : Text} {bound : Option ℕ}, key ⊆ ("seqprmitdnygl/." : Text) →
      w ∈ boundWords key bound → c.isDigit = true ∨ c ∈ ("seqprmitdnygl/." : Text) := by
    intro key bound hall hmem
    cases bound with
    | none => exact absurd hmem List.not_mem_nil
    | some n =>
      rcases List.mem_cons.mp hmem with rfl | hmem
      · exact Or.inr (hall hc)
      · rw [List.mem_singleton.mp hmem] at hc
        exact Or.inl (isDigit_of_mem_natText hc)
  simp only [entryWords, List.mem_cons, List.mem_append] at hw
  rcases hw with rfl | rfl | rfl | rfl | hw | hw
  · exact Or.inr ((by decide : ("seq" : Text) ⊆ ("seqprmitdnygl/." : Text)) hc)
  · exact Or.inl (isDigit_of_mem_natText hc)
  · rw [PrefixListEntry.action] at hc
    split at hc
    · exact Or.inr ((by decide : ("permit" : Text) ⊆ ("seqprmitdnygl/." : Text)) hc)
    · exact Or.inr ((by decide : ("deny" : Text) ⊆ ("seqprmitdnygl/." : Text)) hc)
  · rcases List.mem_append.mp hc with hc | hc
    · rcases mem_addrText hc with hd | rfl
      · exact Or.inl hd
      · exact Or.inr (by decide)
    · rcases List.mem_cons.mp hc with rfl | hc
      · exact Or.inr (by decide)
      · exact Or.inl (isDigit_of_mem_natText hc)
  · exact hkey (by decide) hw
  · exact hkey (by decide) hw

theorem isWord_entryWords {w : Text} (hw : w ∈ entryWords e) : IsWord w := by
  have hplain : ("seqprmitdnygl/." : Text).all (fun c => !isWhitespace c) = true := by decide
  refine ⟨?_, fun c hc => ?_⟩
  · rintro rfl
    obtain ⟨sequence, permit, network, length, ge, le⟩ := e
    cases permit <;> cases ge <;> cases le <;>
      simp [entryWords, boundWords, PrefixListEntry.action, (natText_ne_nil _).symm] at hw
  · rcases mem_entryWords hw hc with hd | hmem
    · exact isWhitespace_of_isDigit hd
    · simpa using List.all_eq_true.mp hplain c hmem

/-- What is in no word of an entry is not in its line. -/
theorem not_mem_renderEntry {c : Char} (hdigit : c.isDigit = false) (hblank : c ≠ ' ')
    (hplain : c ∉ ("seqprmitdnygl/." : Text)) : c ∉ renderEntry (prefixEntrySnapshot e) := by
  rw [renderEntry_eq]
  intro hc
  rcases mem_unwords hc with rfl | ⟨w, hw, hc⟩
  · exact hblank rfl
  · rcases mem_entryWords hw hc with hd | hmem
    · rw [hd] at hdigit
      cases hdigit
    · exact hplain hmem

/-! ### Reading an entry back -/

theorem eq_of_parseUnsigned_natText {max n m : ℕ} (h : parseUnsigned max (natText n) = some m) :
    m = n := by
  have hvalue : Nat.ofDigitChars 10 (natText n) 0 = n := Nat.ofDigitChars_ten_toDigits
  rw [parseUnsigned, dropPlus_natText, parseDigits] at h
  split at h
  · rw [← Option.some.inj h, hvalue]
  · cases h

theorem eq_of_parseNet {bad : Text} {a a' : Addr} {n n' : ℕ}
    (h : parseNet bad (addrText a ++ '/' :: natText n) = .ok (a', n')) : a' = a ∧ n' = n := by
  obtain ⟨⟨net, len⟩, hcut, h⟩ := bind_eq_ok.mp h
  have hcut := okOr_eq_ok.mp hcut
  rw [splitOnce_append (not_mem_addrText (by decide) (by decide) a)] at hcut
  cases hcut
  obtain ⟨b, hb, h⟩ := bind_eq_ok.mp h
  obtain ⟨m, hm, h⟩ := bind_eq_ok.mp h
  have hb := okOr_eq_ok.mp hb
  rw [parseAddr_addrText] at hb
  split at h
  · cases h
  · cases h
    exact ⟨(Option.some.inj hb).symm, eq_of_parseUnsigned_natText (okOr_eq_ok.mp hm)⟩

/-- The bounds are read back, in the order in which they are printed. -/
theorem eq_of_parseRange {bad : Text} {ge le ge' le' : Option ℕ}
    (h : parseRange bad (boundWords "ge" ge ++ boundWords "le" le) none none = .ok (ge', le')) :
    ge' = ge ∧ le' = le := by
  -- the upper bound stands last, behind a lower one or alone
  have hle : ∀ {seen : Option ℕ}, parseRange bad (boundWords "le" le) seen none = .ok (ge', le') →
      ge' = seen ∧ le' = le := by
    intro seen h
    cases le with
    | none =>
      cases h
      exact ⟨rfl, rfl⟩
    | some n =>
      rw [boundWords, parseRange] at h
      obtain ⟨m, hm, hrest⟩ := bind_eq_ok.mp h
      rw [eq_of_parseUnsigned_natText (okOr_eq_ok.mp hm)] at hrest
      split at hrest
      · cases hrest
      · rw [if_neg fun hne => absurd hne.1 (by decide), if_pos ⟨rfl, rfl⟩] at hrest
        cases hrest
        exact ⟨rfl, rfl⟩
  cases ge with
  | none => exact hle h
  | some n =>
    rw [boundWords, List.cons_append, List.cons_append, parseRange] at h
    obtain ⟨m, hm, hrest⟩ := bind_eq_ok.mp h
    rw [eq_of_parseUnsigned_natText (okOr_eq_ok.mp hm)] at hrest
    split at hrest
    · cases hrest
    · rw [if_pos ⟨rfl, rfl⟩] at hrest
      exact hle hrest

theorem eq_of_parseAction {permit : Bool} (h : parseAction e.action = some permit) :
    permit = e.permit := by
  rw [PrefixListEntry.action] at h
  split at h
  · rename_i hpermit
    rw [hpermit]
    exact (Option.some.inj h).symm
  · rename_i hdeny
    rw [Bool.eq_false_of_not_eq_true hdeny]
    exact (Option.some.inj h).symm

theorem trim_renderEntry :
    trim (renderEntry (prefixEntrySnapshot e)) = renderEntry (prefixEntrySnapshot e) := by
  rw [renderEntry_eq]
  exact trim_unwords fun w hw => isWord_entryWords hw

/-- The words of a printed entry are read back. -/
theorem splitWhitespace_entryBody :
    splitWhitespace (entryBody (renderEntry (prefixEntrySnapshot e))) = entryWords e := by
  have hbody : entryBody (renderEntry (prefixEntrySnapshot e)) =
    renderEntry (prefixEntrySnapshot e) := by
    rw [entryBody, splitOnce_eq_none (not_mem_renderEntry (by decide) (by decide) (by decide))]
  rw [hbody, renderEntry_eq, splitWhitespace_unwords fun w hw => isWord_entryWords hw]

/-- **An entry that was printed and can be read is the one that was printed.** -/
theorem eq_of_parseEntry {e' : PrefixListEntry}
    (h : parseEntry (renderEntry (prefixEntrySnapshot e)) = .ok e') : e' = e := by
  rw [parseEntry, splitWhitespace_entryBody, entryWords] at h
  dsimp only at h
  rw [if_neg (not_not.mpr rfl)] at h
  obtain ⟨sequence, hsequence, h⟩ := bind_eq_ok.mp h
  split at h
  · cases h
  · obtain ⟨permit, hpermit, h⟩ := bind_eq_ok.mp h
    obtain ⟨⟨network, length⟩, hnet, h⟩ := bind_eq_ok.mp h
    obtain ⟨⟨ge, le⟩, hrange, h⟩ := bind_eq_ok.mp h
    have hsequence := eq_of_parseUnsigned_natText (okOr_eq_ok.mp hsequence)
    have hpermit := eq_of_parseAction (okOr_eq_ok.mp hpermit)
    have hnet := eq_of_parseNet hnet
    have hrange := eq_of_parseRange hrange
    rw [← Except.ok.inj h, hsequence, hpermit, hnet.1, hnet.2, hrange.1, hrange.2]

/-! ### Reading a list back -/

variable {st st' : ReadState}

/-- A printed entry is read as one where the list is shown, and passed over elsewhere. -/
theorem readLine_renderEntry : readLine name st (renderEntry (prefixEntrySnapshot e)) =
    if st.inTarget then readEntry name st (renderEntry (prefixEntrySnapshot e)) else .ok st := by
  have hstart : ∃ rest, renderEntry (prefixEntrySnapshot e) = "seq " ++ rest := by
    exact ⟨natText e.sequence ++ (if e.permit then (" permit " : Text) else " deny ") ++
      (prefixEntrySnapshot e).cidr ++ (match e.ge with
        | some ge => " ge " ++ natText ge
        | none => []) ++ match e.le with
        | some le => " le " ++ natText le
        | none => [], by simp only [renderEntry, prefixEntrySnapshot, List.append_assoc]; rfl⟩
  obtain ⟨rest, hrest⟩ := hstart
  have hheader : parseHeader (renderEntry (prefixEntrySnapshot e)) = none := by
    rw [hrest]
    rfl
  have hseq : startsWith "seq " (renderEntry (prefixEntrySnapshot e)) = true := by
    rw [hrest, startsWith, stripPrefix_eq_some.mpr rfl]
    rfl
  have hne : renderEntry (prefixEntrySnapshot e) ≠ [] := by
    rw [hrest]
    exact List.cons_ne_nil _ _
  rw [readLine, trim_renderEntry, readTrimmed, if_neg hne, hheader]
  simp only [hseq, not_true_eq_false, if_false]
  cases st.inTarget <;> rfl

/-- Entries of another list leave the reader as it is. -/
theorem readEntries_outside {es : List PrefixListEntry} (hout : st.inTarget = false)
    (h : (es.map fun e => renderEntry (prefixEntrySnapshot e)).foldlM (readLine name) st =
      .ok st') : st' = st := by
  induction es with
  | nil => exact (Except.ok.inj h).symm
  | cons e es ih =>
    obtain ⟨st'', hst'', h⟩ := bind_eq_ok.mp h
    rw [readLine_renderEntry, hout] at hst''
    cases hst''
    exact ih h

/-- The entries of the list are put behind one another. -/
theorem readEntries_inside {es : List PrefixListEntry} (hin : st.inTarget = true)
    (h : (es.map fun e => renderEntry (prefixEntrySnapshot e)).foldlM (readLine name) st =
      .ok st') :
    st' = { st with entries := st.entries ++ es } := by
  induction es generalizing st with
  | nil =>
    obtain rfl := Except.ok.inj h
    simp
  | cons e es ih =>
    obtain ⟨st'', hst'', h⟩ := bind_eq_ok.mp h
    rw [readLine_renderEntry, hin] at hst''
    obtain ⟨e', he', hread⟩ := bind_eq_ok.mp hst''
    rw [eq_of_parseEntry he'] at hread
    split at hread
    · cases hread
    · cases hread
      rw [@ih { st with entries := st.entries ++ [e] } hin h]
      simp

/-- A first line opens the list, or is passed over. -/
theorem readLine_first {line : Text} (h : readLine name ⟨[], none, false⟩ line = .ok st) :
    st = ⟨[], none, false⟩ ∨ ∃ count, st = ⟨[], some count, true⟩ := by
  unfold readLine readTrimmed at h
  split at h
  · exact Or.inl (Except.ok.inj h).symm
  · split at h
    · rename_i header count hheader
      split at h
      · exact Or.inr ⟨count, (Except.ok.inj h).symm⟩
      · exact Or.inl (Except.ok.inj h).symm
    · split at h
      · exact Or.inl (Except.ok.inj h).symm
      · exact Or.inl (Except.ok.inj h).symm

/-- The first line of a printed list. -/
def listHeader (name : Text) (count : ℕ) : Text :=
  "ip prefix-list " ++ name ++ ": " ++ natText count ++ if count = 1 then (" entry" : Text)
    else " entries"

theorem not_mem_listHeader {count : ℕ} (hname : '\n' ∉ name) : '\n' ∉ listHeader name count := by
  have hnumber : '\n' ∉ natText count := not_mem_natText (by decide) count
  have hstart : '\n' ∉ ("ip prefix-list " : Text) := by decide
  have hcolon : '\n' ∉ (": " : Text) := by decide
  have hone : '\n' ∉ (" entry" : Text) := by decide
  have hmany : '\n' ∉ (" entries" : Text) := by decide
  unfold listHeader
  simp only [List.mem_append, not_or]
  refine ⟨⟨⟨⟨hstart, hname⟩, hcolon⟩, hnumber⟩, ?_⟩
  split
  · exact hone
  · exact hmany

theorem getLast?_listHeader {count : ℕ} :
    (listHeader name count).getLast? = some (if count = 1 then 'y' else 's') := by
  unfold listHeader
  split <;> rw [List.getLast?_append] <;> rfl

/-- A printed list, line by line. -/
theorem lines_render {es : List PrefixListEntry} (hname : '\n' ∉ name) :
    lines (renderPrefixListSnapshot name (es.map prefixEntrySnapshot)) =
      listHeader name es.length :: es.map fun e => renderEntry (prefixEntrySnapshot e) := by
  have hrender : renderPrefixListSnapshot name (es.map prefixEntrySnapshot) =
    listHeader name es.length ++
      (es.map fun e => renderEntry (prefixEntrySnapshot e)).flatMap fun b => '\n' :: b := by
    unfold renderPrefixListSnapshot listHeader
    simp only [List.flatMap_map, List.length_map]
  rw [hrender]
  refine lines_flatMap fun b hb => ?_
  rcases List.mem_cons.mp hb with rfl | hb
  · refine ⟨not_mem_listHeader hname, ?_, List.cons_ne_nil _ _⟩
    rw [getLast?_listHeader]
    split <;> decide
  · obtain ⟨e, -, rfl⟩ := List.mem_map.mp hb
    have hcr : '\r' ∉ renderEntry (prefixEntrySnapshot e) :=
      not_mem_renderEntry (by decide) (by decide) (by decide)
    refine ⟨not_mem_renderEntry (by decide) (by decide) (by decide),
      fun hlast => hcr (List.mem_of_getLast? hlast), ?_⟩
    rw [renderEntry_eq]
    exact List.cons_ne_nil _ _

/-- **A list that was printed and can be read has the entries that were printed.** -/
theorem eq_of_parse_render {es es' : List PrefixListEntry} (hname : NoWs name)
    (h : parsePrefixList (renderPrefixListSnapshot name (es.map prefixEntrySnapshot)) name =
      .ok es') :
    es' = sortByKey PrefixListEntry.sequence es := by
  unfold parsePrefixList at h
  split at h
  · cases h
  · obtain ⟨st, hst, h⟩ := bind_eq_ok.mp h
    have hline : '\n' ∉ name := fun hmem => absurd (hname _ hmem) (by decide)
    rw [lines_render hline, List.foldlM_cons] at hst
    obtain ⟨first, hfirst, hst⟩ := bind_eq_ok.mp hst
    rcases readLine_first hfirst with rfl | ⟨count, rfl⟩
    · obtain rfl := readEntries_outside rfl hst
      cases h
    · obtain rfl := readEntries_inside rfl hst
      dsimp only at h
      split at h
      · cases h
      · exact (Except.ok.inj h).symm

/-! ### The lists that are left behind -/

/-- Entries as they are printed, in the order of their numbers. -/
def Printed (entries : List PrefixListSnapshotEntry) : Prop :=
  ∃ es : List PrefixListEntry, es.Pairwise (fun a b => a.sequence ≤ b.sequence) ∧
    entries = es.map prefixEntrySnapshot

theorem printed_of_parse {output : Text} {es : List PrefixListEntry}
    (h : parsePrefixList output name = .ok es) :
    Printed (es.map prefixEntrySnapshot) :=
  ⟨es, (wellFormed_of_parsePrefixList h).ascending.imp fun hlt => hlt.le, rfl⟩

/-- **A list that is left behind is read as it was left.** -/
theorem Printed.eq_of_parse {entries : List PrefixListSnapshotEntry} {es : List PrefixListEntry}
    (hprinted : Printed entries) (hname : NoWs name)
    (h : parsePrefixList (renderPrefixListSnapshot name entries) name = .ok es) :
    es.map prefixEntrySnapshot = entries := by
  obtain ⟨es', hsorted, rfl⟩ := hprinted
  have hes := eq_of_parse_render hname h
  rw [hes, sortByKey, List.Pairwise.insertionSort_eq hsorted]

/-- An edit leaves a list in the order of its numbers. -/
theorem Printed.projectedEntries {entries : List PrefixListSnapshotEntry} (h : Printed entries)
    (adding : Bool) (sequence : ℕ) (a : Addr) (n : ℕ) :
    Printed (Rerouter.projectedEntries adding sequence (addrText a ++ '/' :: natText n)
      entries) := by
  obtain ⟨es, hsorted, rfl⟩ := h
  cases adding with
  | true =>
    have : Std.Total fun a b : PrefixListEntry => a.sequence ≤ b.sequence :=
      ⟨fun _ _ => le_total _ _⟩
    have : IsTrans PrefixListEntry fun a b => a.sequence ≤ b.sequence := ⟨fun _ _ _ => le_trans⟩
    refine ⟨sortByKey PrefixListEntry.sequence (es ++ [⟨sequence, true, a, n, none, none⟩]),
      List.pairwise_insertionSort _ _, ?_⟩
    have hmap : ∀ l : List PrefixListEntry,
      (sortByKey PrefixListEntry.sequence l).map prefixEntrySnapshot =
        sortByKey PrefixListSnapshotEntry.sequence (l.map prefixEntrySnapshot) := fun l =>
      List.map_insertionSort _ _ prefixEntrySnapshot l fun a _ b _ => Iff.rfl
    rw [hmap, List.map_append]
    rfl
  | false =>
    refine ⟨es.filter fun e => e.sequence ≠ sequence, hsorted.filter _, ?_⟩
    rw [Rerouter.projectedEntries, if_neg (by decide), List.filter_map]
    rfl

end Rerouter
