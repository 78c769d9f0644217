import Rerouter.DeviceEvidence

/-!
# What a verdict rules out

An evidence function is asked two questions of one output: whether it proves an object present, and
whether it proves it absent. **It never answers both with a match**
(`Rerouter.bgpEvidence_exclusive` and its two siblings).

That a network is not advertised is read off a table that does not show it, and a table may have
lost lines on its way. An *advertisement table* (`Rerouter.AdvertisementTable`) is a text cut at its
header and at the first footer below it, whose rows are as many as the footer declares.
**A table that lost lines and still is one has lost no row**
(`Rerouter.AdvertisementTable.rows_kept`): the footer is the one it was, rows are no footers and
there is nothing but blanks below, and so the rows left are as many as before. The absence of a
network that was in a row is therefore never read off what is left of a table.
-/

namespace Rerouter

open Text

/-! ### A network among the lines -/

/-- Whether a line shows a network. -/
def ShowsNetwork (cidr line : Text) : Prop :=
  ∃ p, bgpLinePrefix line = some p ∧ normalizeCidr cidr = some p

theorem hasExactCidr_eq_true {output cidr : Text} :
    hasExactCidr output cidr = true ↔ ∃ line ∈ lines output, ShowsNetwork cidr line := by
  rw [hasExactCidr]
  cases hcidr : normalizeCidr cidr with
  | none => simp [ShowsNetwork, hcidr]
  | some p => simp [ShowsNetwork, hcidr]

/-! ### Both questions of one output -/

variable {output damaged cidr nextHop line : Text} {community : Option Text} {advertisement : Bool}
  {r : StaticRoute}

/-- What a match for presence rests on: a line with the network. -/
theorem hasExactCidr_of_presence_matched
    (h : bgpEvidence output cidr community advertisement true = .matched) :
    hasExactCidr output cidr = true := by
  by_contra hexact
  rw [bgpEvidence, if_neg hexact] at h
  split_ifs at h
  contradiction

/-- What a match for absence rests on: no line with the network, and an output that would show
it. -/
theorem of_absence_matched (h : bgpEvidence output cidr community advertisement false = .matched) :
    hasExactCidr output cidr = false ∧
      (advertisement = true → completeAdvertisementTable output = true) := by
  have hexact : hasExactCidr output cidr = false := by
    by_contra hexact
    rw [bgpEvidence, if_pos (Bool.eq_true_of_not_eq_false hexact)] at h
    split_ifs at h
    rename_i hboth
    exact absurd hboth (by simp)
  refine ⟨hexact, ?_⟩
  rintro rfl
  by_contra hcomplete
  rw [bgpEvidence, hexact, Bool.eq_false_of_not_eq_true hcomplete] at h
  simp at h

theorem bgpEvidence_exclusive (output cidr : Text) (community : Option Text)
    (advertisement : Bool) :
    ¬(bgpEvidence output cidr community advertisement true = .matched ∧
      bgpEvidence output cidr community advertisement false = .matched) := by
  rintro ⟨hpresent, habsent⟩
  exact absurd (hasExactCidr_of_presence_matched hpresent)
    (by simp [(of_absence_matched habsent).1])

theorem routeResolutionEvidence_exclusive (output cidr nextHop : Text) :
    ¬(routeResolutionEvidence output cidr nextHop true = .matched ∧
      routeResolutionEvidence output cidr nextHop false = .matched) := by
  rintro ⟨hpresent, habsent⟩
  by_cases hexact : (hasExactRouteResolution output cidr nextHop || showsRoute output cidr) = true
  · rw [routeResolutionEvidence, if_pos hexact, Bool.false_and, if_neg Bool.false_ne_true]
      at habsent
    cases habsent
  · rw [routeResolutionEvidence, if_neg hexact, if_pos rfl] at hpresent
    split_ifs at hpresent

theorem staticExpectedEvidence_exclusive (output : Text) (r : StaticRoute) :
    ¬(staticExpectedEvidence output r true = .ok .matched ∧
      staticExpectedEvidence output r false = .ok .matched) := by
  rintro ⟨hpresent, habsent⟩
  obtain ⟨parsed, hparsed, hpresent⟩ := bind_eq_ok.mp hpresent
  obtain ⟨parsed', hparsed', habsent⟩ := bind_eq_ok.mp habsent
  obtain rfl := Except.ok.inj (hparsed.symm.trans hparsed')
  by_cases hunproven : parsed = .unproven
  · rw [if_pos hunproven, hunproven] at hpresent
    cases hpresent
  rw [if_neg hunproven] at hpresent habsent
  obtain ⟨wanted, -, hpresent⟩ := bind_eq_ok.mp hpresent
  obtain ⟨wanted', -, habsent⟩ := bind_eq_ok.mp habsent
  -- The configuration shows the very route, or it does not.
  by_cases hexact : parsed = .matched
  · simp [hexact] at habsent
  · simp [hexact] at hpresent

/-! ### Tables -/

/-- Whether a line is a row of a table. -/
def isTableRow (line : Text) : Bool := (bgpLinePrefix line).isSome

/-- A blank line. -/
def isBlank (line : Text) : Bool := (trim line).isEmpty

/-- **A complete table**: a text cut at its header and at the first footer below it, with nothing
but rows and blanks between them, as many rows as the footer declares, and blanks below. -/
structure AdvertisementTable where
  above : List Text
  header : Text
  rows : List Text
  footer : Text
  below : List Text
  not_header : ∀ line ∈ above, tableHeader line = false
  is_header : tableHeader header = true
  rows_read : ∀ line ∈ rows, isBlank line = true ∨ isTableRow line = true
  not_footer : ∀ line ∈ rows, tableFooter line = none
  declares : tableFooter footer = some (rows.countP isTableRow)
  blank_below : ∀ line ∈ below, isBlank line = true

namespace AdvertisementTable

/-- The lines of a table. -/
def lines (t : AdvertisementTable) : List Text :=
  t.above ++ t.header :: (t.rows ++ t.footer :: t.below)

/-- A text with the lines of a table, less some of its rows. -/
def DeletesRows (t : AdvertisementTable) (damaged : Text) : Prop :=
  ∃ kept, kept.Sublist t.rows ∧
      Text.lines damaged = t.above ++ t.header :: (kept ++ t.footer :: t.below)

end AdvertisementTable

variable {t t' : AdvertisementTable}

theorem tableFooter_of_isBlank (h : isBlank line = true) : tableFooter line = none := by
  rw [isBlank, List.isEmpty_iff] at h
  rw [tableFooter, h]
  rfl

theorem cutFooter_eq_some {body rows below : List Text} {declared : ℕ} :
    cutFooter body = some (rows, declared, below) ↔
      ∃ footer, body = rows ++ footer :: below ∧ tableFooter footer = some declared ∧
        ∀ line ∈ rows, tableFooter line = none := by
  induction body generalizing rows with
  | nil => simp [cutFooter]
  | cons line body ih =>
    rw [cutFooter]
    split
    -- the first footer is the one the table is cut at
    · rename_i n hn
      constructor
      · intro h
        obtain ⟨rfl, rfl, rfl⟩ : [] = rows ∧ n = declared ∧ body = below := by simpa using h
        exact ⟨line, rfl, hn, fun _ h => absurd h List.not_mem_nil⟩
      · rintro ⟨footer, heq, hfooter, hrows⟩
        cases rows with
        | nil =>
          obtain ⟨rfl, rfl⟩ := List.cons_eq_cons.mp heq
          rw [Option.some.inj (hn.symm.trans hfooter)]
        | cons row rows =>
          obtain ⟨rfl, -⟩ := List.cons_eq_cons.mp heq
          rw [hrows line List.mem_cons_self] at hn
          cases hn
    -- a row: the cut is made further down
    · rename_i hn
      rw [Option.map_eq_some_iff]
      constructor
      · rintro ⟨⟨rows', declared', below'⟩, hcut, heq⟩
        obtain ⟨rfl, rfl, rfl⟩ : line :: rows' = rows ∧ declared' = declared ∧ below' = below := by
          simpa using heq
        obtain ⟨footer, rfl, hfooter, hrows⟩ := ih.mp hcut
        exact ⟨footer, rfl, hfooter, List.forall_mem_cons.mpr ⟨hn, hrows⟩⟩
      · rintro ⟨footer, heq, hfooter, hrows⟩
        cases rows with
        | nil =>
          obtain ⟨rfl, -⟩ := List.cons_eq_cons.mp heq
          rw [hn] at hfooter
          cases hfooter
        | cons row rows =>
          obtain ⟨rfl, rfl⟩ := List.cons_eq_cons.mp heq
          exact ⟨(rows, declared, below),
            ih.mpr ⟨footer, rfl, hfooter, fun l hl => hrows l (List.mem_cons_of_mem line hl)⟩, rfl⟩

/-- **What the reader of tables accepts is a table.** -/
theorem completeAdvertisementTable_iff :
    completeAdvertisementTable output = true ↔
      ∃ t : AdvertisementTable, t.lines = lines output := by
  constructor
  · intro h
    unfold completeAdvertisementTable at h
    split at h
    · cases h
    rename_i header body hheader
    split at h
    · cases h
    rename_i rows declared below hcut
    obtain ⟨footer, rfl, hfooter, hrows⟩ := cutFooter_eq_some.mp hcut
    simp only [Bool.and_eq_true, decide_eq_true_eq, List.all_eq_true, Bool.or_eq_true] at h
    obtain ⟨⟨hread, hcount⟩, hblank⟩ := h
    -- the parts the reader went through are the fields of the table
    have habove : ∀ line ∈ (lines output).takeWhile fun l =>
      !tableHeader l, tableHeader line = false := by
      intro line hline
      simpa using List.mem_takeWhile_imp hline
    have hhead : tableHeader header = true := by
      have hfirst := List.head?_dropWhile_not (fun l => !tableHeader l) (lines output)
      rw [hheader] at hfirst
      simpa using hfirst
    have hlines := List.takeWhile_append_dropWhile (p := fun l => !tableHeader l) (l :=
      lines output)
    rw [hheader] at hlines
    exact ⟨⟨(lines output).takeWhile fun l => !tableHeader l, header, rows, footer, below, habove,
      hhead, hread, hrows, hcount ▸ hfooter, hblank⟩, hlines⟩
  · rintro ⟨t, ht⟩
    -- a table has its header first, so that is where the reader starts
    have hdrop : (lines output).dropWhile (fun l => !tableHeader l) =
      t.header :: (t.rows ++ t.footer :: t.below) := by
      rw [← ht, AdvertisementTable.lines,
        List.dropWhile_append_of_pos fun l hl =>
        by simp [t.not_header l hl], List.dropWhile_cons_of_neg (by simp [t.is_header])]
    have hcut : cutFooter (t.rows ++ t.footer :: t.below) =
      some (t.rows, t.rows.countP isTableRow, t.below) :=
      cutFooter_eq_some.mpr ⟨t.footer, rfl, t.declares, t.not_footer⟩
    rw [completeAdvertisementTable, hdrop]
    dsimp only
    rw [hcut]
    simp only [Bool.and_eq_true, decide_eq_true_eq, List.all_eq_true, Bool.or_eq_true]
    exact ⟨⟨t.rows_read, rfl⟩, t.blank_below⟩

/-! ### Lost lines -/

/-- What stands in both sequences around a member that the second has once. -/
theorem sublist_of_append_cons {A : Type} {x y : A} {l r a b : List A}
    (h : (l ++ x :: r).Sublist (a ++ y :: b)) (ha : x ∉ a) (hb : x ∉ b) : x = y ∧ l.Sublist a := by
  induction a generalizing l with
  | nil =>
    rcases List.sublist_cons_iff.mp h with h | ⟨tail, heq, h⟩
    · exact absurd (h.subset (by simp)) hb
    · cases l with
      | nil => exact ⟨(List.cons_eq_cons.mp heq).1, List.Sublist.refl []⟩
      | cons z l =>
        obtain ⟨-, rfl⟩ := List.cons_eq_cons.mp heq
        exact absurd (h.subset (by simp)) hb
  | cons z a ih =>
    have hx : x ∉ a := fun hmem => ha (List.mem_cons_of_mem z hmem)
    rcases List.sublist_cons_iff.mp h with h | ⟨tail, heq, h⟩
    · obtain ⟨hxy, hl⟩ := ih h hx
      exact ⟨hxy, hl.cons z⟩
    · cases l with
      | nil => exact absurd (by simp [(List.cons_eq_cons.mp heq).1]) ha
      | cons w l =>
        obtain ⟨rfl, rfl⟩ := List.cons_eq_cons.mp heq
        obtain ⟨hxy, hl⟩ := ih h hx
        exact ⟨hxy, hl.cons_cons w⟩

/-- What begins with a member that a prefix of the whole does not have begins behind that prefix. -/
theorem sublist_of_not_mem {A : Type} {x : A} {l a b : List A} (h : (x :: l).Sublist (a ++ b))
    (ha : x ∉ a) :
    (x :: l).Sublist b := by
  induction a with
  | nil => exact h
  | cons z a ih =>
    rcases List.sublist_cons_iff.mp h with h | ⟨tail, heq, -⟩
    · exact ih h fun hmem => ha (List.mem_cons_of_mem z hmem)
    · exact absurd (by simp [(List.cons_eq_cons.mp heq).1]) ha

/-- **A table that lost lines, and still is one, lost no row.** -/
theorem AdvertisementTable.rows_kept (h : t'.lines.Sublist t.lines) :
    t'.rows.filter isTableRow = t.rows.filter isTableRow := by
  have hheader : t'.header ∉ t.above := by
    intro hmem
    exact absurd t'.is_header (by simp [t.not_header _ hmem])
  have hfooter : ∀ line, tableFooter line = none → line ≠ t'.footer := by
    rintro line hnone rfl
    rw [t'.declares] at hnone
    cases hnone
  have hbehind := (sublist_of_not_mem ((List.sublist_append_right _ _).trans h) hheader).tail
  obtain ⟨heq, hrows⟩ := sublist_of_append_cons hbehind
    (fun hmem => hfooter _ (t.not_footer _ hmem) rfl)
    fun hmem => hfooter _ (tableFooter_of_isBlank (t.blank_below _ hmem)) rfl
  have hdeclares := t'.declares
  rw [heq, t.declares] at hdeclares
  refine (hrows.filter isTableRow).eq_of_length ?_
  rw [← List.countP_eq_length_filter, ← List.countP_eq_length_filter]
  exact (Option.some.inj hdeclares).symm

/-- A loss of lines from which a row that showed a network cannot be matched as absent. -/
theorem not_absent_of_row {row : Text} (hlost : (lines damaged).Sublist t.lines)
    (hrow : row ∈ t.rows)
    (hshows : ShowsNetwork cidr row) :
    bgpEvidence damaged cidr community true false ≠ .matched := by
  intro habsent
  obtain ⟨hexact, hcomplete⟩ := of_absence_matched habsent
  obtain ⟨t', ht'⟩ := completeAdvertisementTable_iff.mp (hcomplete rfl)
  have hkept := AdvertisementTable.rows_kept (ht' ▸ hlost)
  have hshown : isTableRow row = true := by
    obtain ⟨p, hp, -⟩ := hshows
    rw [isTableRow, hp]
    rfl
  have hmem : row ∈ t'.rows := (List.mem_filter.mp (hkept ▸ List.mem_filter.mpr ⟨hrow, hshown⟩)).1
  have hline : row ∈ lines damaged := by
    rw [← ht']
    simp [AdvertisementTable.lines, hmem]
  rw [hasExactCidr_eq_true.mpr ⟨row, hline, hshows⟩] at hexact
  cases hexact

/-- Nor is the absence of a network that was shown anywhere, when rows were deleted. -/
theorem not_absent_of_deletesRows (hdeleted : t.DeletesRows damaged) (ht : t.lines = lines output)
    (hexact : hasExactCidr output cidr = true) :
    bgpEvidence damaged cidr community true false ≠ .matched := by
  obtain ⟨kept, hkept, hdamaged⟩ := hdeleted
  obtain ⟨line, hline, hshows⟩ := hasExactCidr_eq_true.mp hexact
  by_cases hrow : line ∈ t.rows
  · have hlost : (lines damaged).Sublist t.lines := by
      rw [hdamaged, AdvertisementTable.lines]
      exact ((hkept.append_right _).cons_cons _).append_left _
    exact not_absent_of_row hlost hrow hshows
  · -- A line that is no row is still there.
    have hmem : line ∈ lines damaged := by
      rw [← ht, AdvertisementTable.lines] at hline
      rw [hdamaged]
      simp only [List.mem_append, List.mem_cons] at hline ⊢
      tauto
    intro habsent
    have hnone := (of_absence_matched habsent).1
    rw [hasExactCidr_eq_true.mpr ⟨line, hmem, hshows⟩] at hnone
    cases hnone

/-- **Verdicts are exclusive, and a truncated table proves no absence.** No output matches both
questions about an object; a network is matched as absent from what is advertised only by a complete
table none of whose rows shows it; and a table that showed the network is not matched for its
absence once rows are deleted from it, nor after any loss of lines if it was a row that showed
it. -/
theorem evidence_exclusive_and_complete :
    (∀ output cidr community advertisement,
      ¬(bgpEvidence output cidr community advertisement true = .matched ∧
        bgpEvidence output cidr community advertisement false = .matched)) ∧
    (∀ output cidr nextHop,
      ¬(routeResolutionEvidence output cidr nextHop true = .matched ∧
        routeResolutionEvidence output cidr nextHop false = .matched)) ∧
    (∀ output r,
      ¬(staticExpectedEvidence output r true = .ok .matched ∧
        staticExpectedEvidence output r false = .ok .matched)) ∧
    (∀ output cidr community, bgpEvidence output cidr community true false = .matched →
      ∃ t : AdvertisementTable, t.lines = lines output ∧ ∀ row ∈ t.rows, ¬ShowsNetwork cidr row) ∧
    (∀ (t : AdvertisementTable) output damaged cidr community, t.lines = lines output →
      (hasExactCidr output cidr = true → t.DeletesRows damaged →
        bgpEvidence damaged cidr community true false ≠ .matched) ∧
      ((∃ row ∈ t.rows, ShowsNetwork cidr row) → (lines damaged).Sublist (lines output) →
        bgpEvidence damaged cidr community true false ≠ .matched)) := by
  refine ⟨bgpEvidence_exclusive, routeResolutionEvidence_exclusive,
    staticExpectedEvidence_exclusive, fun output cidr community h =>
    ?_, fun t output damaged cidr community ht => ⟨?_, ?_⟩⟩
  -- a row that shows the network is a line of the output, where its exact prefix was looked for
  · obtain ⟨hexact, hcomplete⟩ := of_absence_matched h
    obtain ⟨t, ht⟩ := completeAdvertisementTable_iff.mp (hcomplete rfl)
    refine ⟨t, ht, fun row hrow hshows => ?_⟩
    have hline : row ∈ lines output := by
      rw [← ht]
      simp [AdvertisementTable.lines, hrow]
    rw [hasExactCidr_eq_true.mpr ⟨row, hline, hshows⟩] at hexact
    cases hexact
  · exact fun hexact hdeleted => not_absent_of_deletesRows hdeleted ht hexact
  · rintro ⟨row, hrow, hshows⟩ hlost
    exact not_absent_of_row (ht ▸ hlost) hrow hshows

/-- A table of two networks. -/
def twoAdvertised : AdvertisementTable where
  above := []
  header := "   Network          Next Hop"
  rows := [" *>  192.0.2.0/24   198.51.100.1", " *>  203.0.113.0/24 198.51.100.1"]
  footer := "Total number of prefixes 2"
  below := []
  not_header := fun _ h => absurd h List.not_mem_nil
  is_header := by decide +kernel
  rows_read := by decide +kernel
  not_footer := by decide +kernel
  declares := by decide +kernel
  blank_below := fun _ h => absurd h List.not_mem_nil

/-- The table, as a router prints it. -/
def twoAdvertisedText : Text :=
  "   Network          Next Hop\n *>  192.0.2.0/24   198.51.100.1\n" ++
    " *>  203.0.113.0/24 198.51.100.1\nTotal number of prefixes 2\n"

/-- The table, less its second row. -/
def oneLeftText : Text :=
  "   Network          Next Hop\n *>  192.0.2.0/24   198.51.100.1\nTotal number of prefixes 2\n"

/-- A network that is not in the table is matched as absent, and its second network is not when the
row has been lost. -/
theorem evidence_exclusive_and_complete_twoAdvertised :
    (∃ t : AdvertisementTable, t.lines = lines twoAdvertisedText ∧
      ∀ row ∈ t.rows, ¬ShowsNetwork "10.0.0.0/8" row) ∧
    bgpEvidence oneLeftText "203.0.113.0/24" none true false ≠ .matched := by
  obtain ⟨-, -, -, hcomplete, hdamaged⟩ := evidence_exclusive_and_complete
  refine ⟨hcomplete twoAdvertisedText "10.0.0.0/8" none (by decide +kernel), ?_⟩
  exact (hdamaged twoAdvertised twoAdvertisedText oneLeftText "203.0.113.0/24" none
    (by decide +kernel)).1
    (by decide +kernel) ⟨[" *>  192.0.2.0/24   198.51.100.1"], by decide +kernel, by decide +kernel⟩

end Rerouter
