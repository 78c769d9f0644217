import Rerouter.IosSession

/-!
# What a session reads

An answer is made of lines, and its last line is a prompt (`Rerouter.Shell.answerText`). What a
read looks at is the last line it has, so a beginning of the answer looks complete exactly if a
line of it, as far as it goes, is a prompt (`Rerouter.Shell.uncut_iff_lines`). This is asked of
the lines above the prompt one by one (`Rerouter.Shell.uncut_answerText_iff`).

What arrives are bytes (`Rerouter.Shell.Sends`), and what a read puts together are the texts of its
messages (`Rerouter.Shell.Delivers`), which are a text that was sent if it is ASCII
(`Rerouter.Shell.delivers_of_ascii`). With `Rerouter.Framing.gather_eq_iff` this decides whether the
answer is read whole for every cut (`Rerouter.Shell.readUntil_answerText_iff`). What a command is
then given are the lines between its echo and the prompt
(`Rerouter.Shell.cleanOutput_answerText`).
-/

namespace Rerouter.Shell

open Text Framing Utf8

/-! ### Arrivals that deliver a text -/

/-- What arrives in time is a piece of an answer. -/
def Arrival.piece : Arrival → Option (Piece UInt8)
  | .message (.data data) false => some ⟨data, true⟩
  | .message (.extendedData data) false => some ⟨data, false⟩
  | .message .other false => some ⟨[], false⟩
  | _ => none

/-- The pieces that arrive, if all that arrives is one in time. -/
def pieces : List Arrival → Option (List (Piece UInt8))
  | [] => some []
  | arrival :: arrivals => do
    let piece ← arrival.piece
    let rest ← pieces arrivals
    return piece :: rest

/-- What a read makes of a piece. -/
def decoded (piece : Piece UInt8) : Piece Char := ⟨fromUtf8Lossy piece.text, piece.looked⟩

/-- What arrives are some bytes, in pieces and in time. -/
def Sends (arrivals : List Arrival) (bytes : List UInt8) : Prop :=
  (pieces arrivals).map joined = some bytes

/-- What arrives is a text, in pieces and in time: each piece is made a text on its own. -/
def Delivers (arrivals : List Arrival) (text : Text) : Prop :=
  (pieces arrivals).map (fun ps => joined (ps.map decoded)) = some text

variable {done : Text → Bool} {arrivals : List Arrival}

theorem pieces_cons {arrival : Arrival} {ps : List (Piece UInt8)}
    (h : pieces (arrival :: arrivals) = some ps) :
    ∃ piece rest, arrival.piece = some piece ∧ pieces arrivals = some rest ∧
      ps = piece :: rest := by
  obtain ⟨piece, hpiece, h⟩ := Option.bind_eq_some_iff.mp h
  obtain ⟨rest, hrest, h⟩ := Option.bind_eq_some_iff.mp h
  exact ⟨piece, rest, hpiece, hrest, (Option.some.inj h).symm⟩

theorem pieces_append {front back : List Arrival} {ps qs : List (Piece UInt8)}
    (hfront : pieces front = some ps) (hback : pieces back = some qs) :
    pieces (front ++ back) = some (ps ++ qs) := by
  induction front generalizing ps with
  | nil =>
    obtain rfl := Option.some.inj hfront
    exact hback
  | cons arrival front ih =>
    obtain ⟨piece, rest, hpiece, hrest, rfl⟩ := pieces_cons hfront
    rw [List.cons_append, pieces, hpiece, ih hrest]
    rfl

/-- What is delivered behind one another is put together. -/
theorem Delivers.append {front back : List Arrival} {s t : Text} (hfront : Delivers front s)
    (hback : Delivers back t) : Delivers (front ++ back) (s ++ t) := by
  obtain ⟨ps, hps, rfl⟩ := Option.map_eq_some_iff.mp hfront
  obtain ⟨qs, hqs, rfl⟩ := Option.map_eq_some_iff.mp hback
  rw [Delivers, pieces_append hps hqs, Option.map_some, List.map_append, joined_append]

/-- **A text that is ASCII is delivered**, wherever its bytes are cut. -/
theorem delivers_of_ascii {s : Text} (hs : IsAscii s) (h : Sends arrivals (encode s)) :
    Delivers arrivals s := by
  obtain ⟨ps, hps, hjoined⟩ := Option.map_eq_some_iff.mp h
  have hbyte : ∀ b ∈ joined ps, b.toNat < 0x80 := by
    rw [hjoined]
    exact encode_of_ascii hs
  have htexts : joined (ps.map decoded) = (joined ps).map fun b => Char.ofNat b.toNat := by
    clear hps hjoined h
    induction ps with
    | nil => rfl
    | cons piece ps ih =>
      rw [joined_cons] at hbyte
      rw [List.map_cons, joined_cons, joined_cons, List.map_append,
        ih fun b hb => hbyte b (List.mem_append_right _ hb), decoded,
        fromUtf8Lossy_of_ascii fun b hb => hbyte b (List.mem_append_left _ hb)]
  rw [Delivers, hps, Option.map_some, htexts, ← fromUtf8Lossy_of_ascii hbyte, hjoined,
    fromUtf8Lossy_encode]

/-- A piece of data. -/
def dataPiece (piece : Piece UInt8) : Arrival :=
  .message (if piece.looked then .data piece.text else .extendedData piece.text) false

theorem pieces_map_dataPiece (ps : List (Piece UInt8)) : pieces (ps.map dataPiece) = some ps := by
  induction ps with
  | nil => rfl
  | cons piece ps ih =>
    have hpiece : (dataPiece piece).piece = some piece := by
      obtain ⟨text, looked⟩ := piece
      cases looked <;> rfl
    rw [List.map_cons, pieces, hpiece, ih]
    rfl

/-- **A read gathers.** -/
theorem readUntil_of_pieces (done : Text → Bool) {ps : List (Piece UInt8)}
    (h : pieces arrivals = some ps) (buf : Text) :
    ∃ left rest, pieces left = some rest ∧
      rest.map decoded = (gather done buf (ps.map decoded)).2 ∧
      readUntil done buf arrivals =
        (finishQuietRead (gather done buf (ps.map decoded)).1 done, left) := by
  induction arrivals generalizing buf ps with
  | nil =>
    obtain rfl := Option.some.inj h
    exact ⟨[], [], rfl, rfl, rfl⟩
  | cons arrival arrivals ih =>
    obtain ⟨piece, rest, hpiece, hrest, rfl⟩ := pieces_cons h
    rw [List.map_cons, gather]
    cases arrival with
    -- nothing but messages that arrive in time carries a piece
    | ended => cases hpiece
    | quiet => cases hpiece
    | message msg late =>
      cases late with
      | true => cases msg <;> cases hpiece
      | false =>
        cases msg with
        | eof => cases hpiece
        | close => cases hpiece
        | data data =>
          obtain rfl := Option.some.inj hpiece
          rw [readUntil, decoded, Bool.true_and]
          by_cases hdone : done (buf ++ fromUtf8Lossy data) = true
          · rw [if_pos hdone, if_pos hdone]
            exact ⟨arrivals, rest, hrest, rfl, by rw [finishQuietRead, if_pos hdone]⟩
          · rw [if_neg hdone, if_neg hdone, if_neg (by decide)]
            exact ih hrest _
        | extendedData data =>
          obtain rfl := Option.some.inj hpiece
          exact ih hrest _
        | other =>
          obtain rfl := Option.some.inj hpiece
          have hrest := ih hrest buf
          simpa [readUntil, decoded, fromUtf8Lossy, decode] using hrest

/-- **An answer is read, and all of it**, where no proper beginning of it looks complete. -/
theorem readUntil_of_uncut {s : Text} (hs : Uncut done s) (h : Delivers arrivals s) :
    ∃ left, Delivers left [] ∧ readUntil done [] arrivals = (finishQuietRead s done, left) := by
  obtain ⟨ps, hps, hjoined⟩ := Option.map_eq_some_iff.mp h
  obtain ⟨left, rest, hleft, hrest, hread⟩ := readUntil_of_pieces done hps []
  obtain ⟨hfst, hsnd⟩ := gather_of_uncut hs hjoined
  rw [hfst] at hread
  exact ⟨left, by rw [Delivers, hleft, Option.map_some, hrest, hsnd], hread⟩

/-- A text, in pieces. -/
def encoded (piece : Piece Char) : Piece UInt8 := ⟨encode piece.text, piece.looked⟩

theorem map_decoded_encoded (ps : List (Piece Char)) : (ps.map encoded).map decoded = ps := by
  have hpiece (piece : Piece Char) : decoded (encoded piece) = piece := by
    rw [decoded, encoded, fromUtf8Lossy_encode]
  rw [List.map_map]
  exact (List.map_congr_left fun piece _ => hpiece piece).trans (List.map_id ps)

/-- **A text is delivered** where it is cut between characters. -/
theorem delivers_of_whole {ps : List (Piece Char)} (h : pieces arrivals = some (ps.map encoded)) :
    Delivers arrivals (joined ps) := by
  rw [Delivers, h, Option.map_some, map_decoded_encoded]

theorem joined_map_encoded (ps : List (Piece Char)) :
    joined (ps.map encoded) = encode (joined ps) := by
  induction ps with
  | nil => rfl
  | cons piece ps ih => rw [List.map_cons, joined_cons, joined_cons, encode_append, ih, encoded]

/-- **A character that is cut is not read.** -/
theorem exists_not_read {s : Text} (hs : ¬IsAscii s) (done : Text → Bool) :
    ∃ arrivals, Sends arrivals (encode s) ∧ (readUntil done [] arrivals).1 ≠ .ok s := by
  obtain ⟨c, hc, hnot⟩ : ∃ c ∈ s, ¬c.toNat < 0x80 := by
    simpa only [IsAscii, not_forall, exists_prop] using hs
  obtain ⟨front, back, rfl⟩ := List.append_of_mem hc
  obtain ⟨p, q, hcut, hlonger⟩ := exists_cut (not_lt.mp hnot) front back
  -- The first piece is one that is not looked at.
  have hpieces := pieces_map_dataPiece [⟨p, false⟩, ⟨q, true⟩]
  obtain ⟨left, -, -, -, hread⟩ := readUntil_of_pieces done hpieces []
  have hall : (gather done [] (([⟨p, false⟩, ⟨q, true⟩] : List (Piece UInt8)).map decoded)).1 =
      fromUtf8Lossy p ++ fromUtf8Lossy q := by
    simp only [List.map_cons, List.map_nil, decoded, gather]
    split_ifs <;> simp_all
  refine ⟨_, by rw [Sends, hpieces, Option.map_some, ← hcut]; simp, fun hok => ?_⟩
  rw [hread, hall, finishQuietRead] at hok
  split_ifs at hok
  have hsame := congrArg List.length (Except.ok.inj hok)
  omega

/-- **The cut of an answer makes no difference to a read exactly if no proper beginning of it
looks complete, and each of its characters has one byte.** -/
theorem readUntil_eq_iff (hdone : done s = true) :
    (∀ arrivals, Sends arrivals (encode s) → (readUntil done [] arrivals).1 = .ok s) ↔
      Uncut done s ∧ IsAscii s := by
  constructor
  · intro h
    constructor
    · rw [← gather_eq_iff]
      intro ps hps
      obtain ⟨left, -, -, -, hread⟩ :=
        readUntil_of_pieces done (pieces_map_dataPiece (ps.map encoded)) []
      have hok := h ((ps.map encoded).map dataPiece) (by
        rw [Sends, pieces_map_dataPiece, Option.map_some, joined_map_encoded, hps])
      rw [hread, map_decoded_encoded, finishQuietRead] at hok
      split_ifs at hok
      exact Except.ok.inj hok
    · by_contra hs
      obtain ⟨arrivals, hsends, hnot⟩ := exists_not_read hs done
      exact hnot (h arrivals hsends)
  · rintro ⟨huncut, hascii⟩ arrivals hsends
    obtain ⟨left, -, hread⟩ := readUntil_of_uncut huncut (delivers_of_ascii hascii hsends)
    rw [hread, finishQuietRead, if_pos hdone]

/-! ### The last line -/

/-- The last line that has begun. -/
def lineOf (buf : Text) : Text := buf.rtakeWhile fun c => decide (c ≠ '\n')

/-- Whether a line, as far as it goes, is a prompt of a kind. -/
def promptHere (kind : Text → Bool) (line : Text) : Bool := isPrompt (trim line) && kind (trim line)

/-- Whether a read for a kind of prompt ends. -/
def ends (kind : Text → Bool) (buf : Text) : Bool := (tailPrompt buf).any kind

variable {kind : Text → Bool} {p line rest s : Text}

theorem lineOf_newline (p : Text) : lineOf (p ++ ['\n']) = [] :=
  List.rtakeWhile_concat_neg _ _ _ (by decide)

theorem lineOf_concat {c : Char} (hc : c ≠ '\n') : lineOf (p ++ [c]) = lineOf p ++ [c] :=
  List.rtakeWhile_concat_pos _ _ _ (by simpa using hc)

theorem lineOf_of_not_mem (h : '\n' ∉ line) : lineOf line = line :=
  List.rtakeWhile_eq_self_iff.mpr fun _ hc => decide_eq_true fun he => h (he ▸ hc)

theorem lineOf_append (p : Text) (s : Text) : lineOf (p ++ '\n' :: s) = lineOf s := by
  induction s using List.reverseRecOn with
  | nil => exact (lineOf_newline p).trans rfl
  | append_singleton s c ih =>
    have hassoc : p ++ '\n' :: (s ++ [c]) = (p ++ '\n' :: s) ++ [c] := by simp
    rw [hassoc]
    by_cases hc : c = '\n'
    · rw [hc, lineOf_newline, lineOf_newline]
    · rw [lineOf_concat hc, lineOf_concat hc, ih]

/-- A text is one line, or it has a last line. -/
theorem one_line_or (s : Text) :
    '\n' ∉ s ∨ ∃ front line, s = front ++ '\n' :: line ∧ '\n' ∉ line := by
  induction s using List.reverseRecOn with
  | nil => exact Or.inl List.not_mem_nil
  | append_singleton s c ih =>
    by_cases hc : c = '\n'
    · exact Or.inr ⟨s, [], by rw [hc], List.not_mem_nil⟩
    · rcases ih with h | ⟨front, line, rfl, h⟩
      · exact Or.inl (by simpa [h] using Ne.symm hc)
      · exact Or.inr ⟨front, line ++ [c], by simp, by simpa [h] using Ne.symm hc⟩

theorem getLast?_lines {c : Char} (hc : c ≠ '\n') :
    (lines (s ++ [c])).getLast? = some (lineOf (s ++ [c])) := by
  rcases one_line_or (s ++ [c]) with h | ⟨front, line, heq, h⟩
  · rw [lines_of_not_mem h (by simp), lineOf_of_not_mem h]
    rfl
  · have hne : line ≠ [] := by
      rintro rfl
      have hlast : c = '\n' := by simpa using congrArg List.getLast? heq
      exact hc hlast
    rw [heq, lineOf_append, lineOf_of_not_mem h, lines, List.splitOn_append_cons_self,
      List.splitOn_eq_singleton h]
    obtain ⟨d, line, rfl⟩ := List.exists_cons_of_ne_nil hne
    simp

/-- Whitespace behind a text is trimmed. -/
theorem trim_concat {c : Char} (hc : isWhitespace c = true) (s : Text) :
    trim (s ++ [c]) = trim s := by
  have htrimEnd : ∀ t : Text, trimEnd (t ++ [c]) = trimEnd t := fun t => by simp [trimEnd, hc]
  rw [trim, trim, trimStart, trimStart, List.dropWhile_append]
  split_ifs with hblank
  · rw [List.isEmpty_iff.mp hblank]
    simp [hc]
  · exact htrimEnd _

theorem trim_subset (s : Text) : trim s ⊆ s := by
  intro c hc
  have hstart := (List.dropWhile_sublist _).subset (List.mem_reverse.mp hc)
  exact (List.dropWhile_sublist _).subset (List.mem_reverse.mp hstart)

theorem isWhitespace_of_blank {c : Char} (hc : c ∈ [' ', '\r', '\n']) : isWhitespace c = true := by
  simp only [List.mem_cons, List.not_mem_nil, or_false] at hc
  rcases hc with rfl | rfl | rfl <;> rfl

theorem tailPrompt_blank {c : Char} (hc : c ∈ [' ', '\r', '\n']) (p : Text) :
    tailPrompt (p ++ [c]) = tailPrompt p := by
  rw [tailPrompt, tailPrompt, List.rdropWhile_concat_pos _ _ _ (by simpa using hc)]

theorem tailPrompt_concat {c : Char} (hc : c ∉ [' ', '\r', '\n']) (p : Text) :
    tailPrompt (p ++ [c]) = if isPrompt (trim (lineOf (p ++ [c]))) then
      some (trim (lineOf (p ++ [c]))) else none := by
  have hnewline : c ≠ '\n' := by
    rintro rfl
    exact hc (by decide)
  rw [tailPrompt, List.rdropWhile_concat_neg _ _ _ (by simpa using hc), getLast?_lines hnewline]

theorem ends_concat {c : Char} (hc : c ∉ [' ', '\r', '\n']) (p : Text) :
    ends kind (p ++ [c]) = promptHere kind (lineOf (p ++ [c])) := by
  rw [ends, tailPrompt_concat hc, promptHere]
  split_ifs with h
  · rw [h, Option.any_some, Bool.true_and]
  · rw [Bool.eq_false_of_not_eq_true h]
    rfl

/-- A line that is a prompt so far ends a read. -/
theorem ends_of_promptHere (h : promptHere kind (lineOf p) = true) : ends kind p = true := by
  induction p using List.reverseRecOn with
  | nil => cases h
  | append_singleton p c ih =>
    by_cases hc : c ∈ [' ', '\r', '\n']
    · rw [ends, tailPrompt_blank hc]
      by_cases hnewline : c = '\n'
      · rw [hnewline, lineOf_newline] at h
        cases h
      · rw [lineOf_concat hnewline, promptHere, trim_concat (isWhitespace_of_blank hc)] at h
        exact ih h
    · rw [ends_concat hc]
      exact h

/-- A read ends behind a line that is a prompt so far. -/
theorem exists_promptHere (h : ends kind p = true) :
    ∃ q, q <+: p ∧ promptHere kind (lineOf q) = true := by
  induction p using List.reverseRecOn with
  | nil => cases h
  | append_singleton p c ih =>
    by_cases hc : c ∈ [' ', '\r', '\n']
    · rw [ends, tailPrompt_blank hc] at h
      obtain ⟨q, hq, hprompt⟩ := ih h
      exact ⟨q, hq.trans (List.prefix_append p [c]), hprompt⟩
    · rw [ends_concat hc] at h
      exact ⟨p ++ [c], List.prefix_rfl, h⟩

/-- **A beginning looks complete exactly if a line of it, as far as it goes, is a prompt.** -/
theorem uncut_iff_lines (kind : Text → Bool) (s : Text) :
    Uncut (ends kind) s ↔ ∀ p, p <+: s → p ≠ s → promptHere kind (lineOf p) = false := by
  constructor
  · intro h p hp hne
    by_contra hprompt
    have hends := ends_of_promptHere (Bool.eq_true_of_not_eq_false hprompt)
    rw [h p hp hne] at hends
    cases hends
  · intro h p hp hne
    by_contra hends
    obtain ⟨q, hq, hprompt⟩ := exists_promptHere (Bool.eq_true_of_not_eq_false hends)
    rw [h q (hq.trans hp) ?_] at hprompt
    · cases hprompt
    · rintro rfl
      exact hne (hp.eq_of_length_le hq.length_le)

/-! ### Lines above a prompt -/

/-- An answer: lines, and a prompt behind them. -/
def answerText (above : List Text) (prompt : Text) : Text :=
  above.flatMap (fun line => line ++ ['\r', '\n']) ++ prompt

/-- A line that does not start with a prompt of a kind. -/
def Clear (kind : Text → Bool) (line : Text) : Prop := ∀ t, t <+: line → promptHere kind t = false

instance (kind : Text → Bool) (line : Text) : Decidable (Clear kind line) :=
  decidable_of_iff (∀ t ∈ line.inits, promptHere kind t = false) (by simp [Clear])

theorem answerText_cons (line : Text) (above : List Text) (prompt : Text) :
    answerText (line :: above) prompt = (line ++ ['\r']) ++ '\n' :: answerText above prompt := by
  simp [answerText]

theorem prefix_append_cases {a b : Text} (h : p <+: a ++ b) :
    p <+: a ∨ ∃ t, p = a ++ t ∧ t <+: b := by
  obtain ⟨u, hu⟩ := h
  rcases List.append_eq_append_iff.mp hu with ⟨t, ht, -⟩ | ⟨t, ht, hb⟩
  · exact Or.inl ⟨t, ht.symm⟩
  · exact Or.inr ⟨t, ht, ⟨u, hb.symm⟩⟩

/-- What a line and what is below it begin with. -/
theorem prefix_line_iff (hline : '\n' ∉ line) :
    (∀ p, p <+: line ++ '\n' :: rest → p ≠ line ++ '\n' :: rest →
      promptHere kind (lineOf p) = false) ↔
      Clear kind line ∧ ∀ p, p <+: rest → p ≠ rest → promptHere kind (lineOf p) = false := by
  constructor
  · intro h
    constructor
    · intro t ht
      rw [← lineOf_of_not_mem fun hmem => hline (ht.subset hmem)]
      refine h t (ht.trans (List.prefix_append _ _)) ?_
      rintro rfl
      have hlen := ht.length_le
      simp only [List.length_append, List.length_cons] at hlen
      omega
    · intro p hp hne
      rw [← lineOf_append line p]
      refine h _ ((List.prefix_append_right_inj line).mpr ((List.prefix_cons_inj '\n').mpr hp)) ?_
      intro heq
      exact hne (List.cons_eq_cons.mp (List.append_cancel_left heq)).2
  · rintro ⟨hclear, hrest⟩ p hp hne
    rcases prefix_append_cases hp with hp | ⟨t, rfl, ht⟩
    · rw [lineOf_of_not_mem fun hmem => hline (hp.subset hmem)]
      -- a part of the line, the line itself, or the line and a part of what is below
      exact hclear p hp
    · rcases List.prefix_cons_iff.mp ht with rfl | ⟨below, rfl, hbelow⟩
      · rw [List.append_nil, lineOf_of_not_mem hline]
        exact hclear line List.prefix_rfl
      · rw [lineOf_append]
        refine hrest below hbelow ?_
        rintro rfl
        exact hne rfl

/-- The carriage return behind a line does not matter to it. -/
theorem clear_cr_iff : Clear kind (line ++ ['\r']) ↔ Clear kind line := by
  constructor
  · intro h t ht
    exact h t (ht.trans (List.prefix_append line ['\r']))
  · intro h t ht
    rcases List.prefix_concat_iff.mp ht with rfl | ht
    · rw [promptHere, trim_concat rfl]
      exact h line List.prefix_rfl
    · exact h t ht

/-- **The lines above a prompt are asked one by one.** -/
theorem uncut_answerText_iff {above : List Text} {prompt : Text}
    (habove : ∀ line ∈ above, '\n' ∉ line) (hprompt : '\n' ∉ prompt) :
    Uncut (ends kind) (answerText above prompt) ↔ (∀ line ∈ above, Clear kind line) ∧
      ∀ t, t <+: prompt → t ≠ prompt → promptHere kind t = false := by
  rw [uncut_iff_lines]
  induction above with
  | nil =>
    have hself : answerText [] prompt = prompt := rfl
    rw [hself]
    constructor
    · intro h
      refine ⟨fun line hmem => absurd hmem List.not_mem_nil, fun t ht hne => ?_⟩
      rw [← lineOf_of_not_mem fun hmem => hprompt (ht.subset hmem)]
      exact h t ht hne
    · rintro ⟨-, h⟩ t ht hne
      rw [lineOf_of_not_mem fun hmem => hprompt (ht.subset hmem)]
      exact h t ht hne
  | cons line above ih =>
    have hline : '\n' ∉ line ++ ['\r'] := by
      simpa using habove line List.mem_cons_self
    rw [answerText_cons, prefix_line_iff hline, clear_cr_iff,
      ih fun l hl => habove l (List.mem_cons_of_mem _ hl), List.forall_mem_cons, and_assoc]

/-! ### The prompts of a router -/

/-- A character of a prompt, none of those that mean something in it. -/
def isPlain (special : List Char) (c : Char) : Bool := !isWhitespace c && decide (c ∉ special)

/-- The name of a router, as its prompts show it. -/
structure Host where
  text : Text
  ne_nil : text ≠ []
  plain : text.all (isPlain ['#', '>', '(']) = true

/-- The part of a prompt that shows the mode of the configuration, as in `(config-if)`. -/
structure Mode where
  text : Text
  head : text.head? = none ∨ text.head? = some '('
  plain : text.all (isPlain ['#', '>']) = true

theorem of_isPlain {special : List Char} {c : Char} (hs : s.all (isPlain special) = true)
    (hc : c ∈ s) : isWhitespace c = false ∧ c ∉ special := by
  have hplain := List.all_eq_true.mp hs c hc
  rw [isPlain, Bool.and_eq_true, Bool.not_eq_true', decide_eq_true_eq] at hplain
  exact hplain

/-- A prompt in privileged EXEC or in the configuration. -/
def promptText (host : Host) (mode : Mode) : Text := host.text ++ mode.text ++ ['#']

variable {host : Host} {mode : Mode}

theorem no_mark {c : Char} (hc : c ∈ host.text ++ mode.text) : c ∉ ['#', '>'] := by
  rcases List.mem_append.mp hc with hc | hc
  · exact fun hmark => (of_isPlain host.plain hc).2 (List.mem_append_left ['('] hmark)
  · exact (of_isPlain mode.plain hc).2

theorem noWs_promptText (host : Host) (mode : Mode) : NoWs (promptText host mode) := by
  intro c hc
  rcases List.mem_append.mp hc with hc | hc
  · rcases List.mem_append.mp hc with hc | hc
    · exact (of_isPlain host.plain hc).1
    · exact (of_isPlain mode.plain hc).1
  · rw [List.mem_singleton.mp hc]
    rfl

theorem newline_not_mem_promptText (host : Host) (mode : Mode) : '\n' ∉ promptText host mode := by
  intro hc
  have hws := noWs_promptText host mode '\n' hc
  cases hws

theorem byteLen_append (a b : Text) : byteLen (a ++ b) = byteLen a + byteLen b := by
  induction a with
  | nil => exact (Nat.zero_add _).symm
  | cons c a ih =>
    rw [List.cons_append, byteLen, List.foldr_cons]
    change c.utf8Size + byteLen (a ++ b) = c.utf8Size + byteLen a + byteLen b
    omega

theorem one_le_byteLen {a : Text} (h : a ≠ []) : 1 ≤ byteLen a := by
  obtain ⟨c, a, rfl⟩ := List.exists_cons_of_ne_nil h
  have hsize := c.utf8Size_pos
  change 1 ≤ c.utf8Size + byteLen a
  omega

theorem isPrompt_promptText (host : Host) (mode : Mode) :
    isPrompt (promptText host mode) = true := by
  have hlen : 2 ≤ byteLen (promptText host mode) := by
    have hone := one_le_byteLen host.ne_nil
    rw [promptText, byteLen_append, byteLen_append]
    have hmark : byteLen ['#'] = 1 := rfl
    omega
  have hblank : ' ' ∉ promptText host mode := by
    intro hc
    have hws := noWs_promptText host mode ' ' hc
    cases hws
  have hlast : (promptText host mode).getLast? = some '#' := List.getLast?_concat
  rw [isPrompt, hlast, decide_eq_true hlen, decide_eq_true hblank]
  rfl

theorem promptHostname_promptText (host : Host) (mode : Mode) :
    promptHostname (promptText host mode) = host.text := by
  have hhost : ∀ c ∈ host.text, decide (c ≠ '(') = true := fun c hc =>
    decide_eq_true fun he => (of_isPlain host.plain hc).2 (by simp [he])
  rw [promptHostname, promptText, List.rdropWhile_concat_pos _ _ _ (by decide),
    List.rdropWhile_eq_self_iff.mpr fun hne => by
      simpa using no_mark (List.getLast_mem hne),
    List.takeWhile_append_of_pos hhost]
  cases hmode : mode.text with
  | nil => exact List.append_nil _
  | cons c rest =>
    have hc : c = '(' := by simpa [hmode] using mode.head
    rw [hc, List.takeWhile_cons_of_neg (by decide), List.append_nil]

theorem isOf_promptText (host : Host) (mode : Mode) :
    isOf host.text (promptText host mode) = true := by
  have hne : host.text.isEmpty = false := by simpa using host.ne_nil
  rw [isOf, promptHostname_promptText, decide_eq_true rfl, hne]
  rfl

/-- A text without a mark is no prompt. -/
theorem promptHere_of_no_mark (h : ∀ c ∈ line, c ∉ ['#', '>']) : promptHere kind line = false := by
  rw [promptHere, isPrompt]
  cases hlast : (trim line).getLast? with
  | none => simp
  | some c =>
    have hc := h c (trim_subset line (List.mem_of_getLast? hlast))
    simp only [List.mem_cons, List.not_mem_nil, or_false, not_or] at hc
    simp [hc.1, hc.2]

/-- No beginning of a prompt is a prompt. -/
theorem promptHere_of_prefix {t : Text} (ht : t <+: promptText host mode)
    (hne : t ≠ promptText host mode) : promptHere kind t = false := by
  rcases List.prefix_concat_iff.mp ht with rfl | ht
  · exact absurd rfl hne
  · exact promptHere_of_no_mark fun c hc => no_mark (ht.subset hc)

theorem tailPrompt_answerText (above : List Text) (host : Host) (mode : Mode) :
    tailPrompt (answerText above (promptText host mode)) = some (promptText host mode) := by
  have hlineOf : lineOf (answerText above (promptText host mode)) = promptText host mode := by
    induction above with
    | nil => exact lineOf_of_not_mem (newline_not_mem_promptText host mode)
    | cons line above ih => rw [answerText_cons, lineOf_append, ih]
  have hconcat : answerText above (promptText host mode) =
      above.flatMap (fun line => line ++ ['\r', '\n']) ++ (host.text ++ mode.text) ++ ['#'] := by
    simp [answerText, promptText]
  rw [hconcat, tailPrompt_concat (by decide), ← hconcat, hlineOf,
    trim_of_noWs (noWs_promptText host mode), if_pos (isPrompt_promptText host mode)]

/-- No prompt stands in the echo of a command of the allowlist. -/
theorem clear_of_allowed {command : Text} (h : commandAllowed command = true) :
    Clear kind command := by
  intro t ht
  refine promptHere_of_no_mark fun c hc hmark => ?_
  rcases Allowed.spelled_of_commandAllowed h c (ht.subset hc) with hws | hfilter | rfl
  · rcases List.mem_pair.mp hmark with rfl | rfl <;> cases hws
  · rcases List.mem_pair.mp hmark with rfl | rfl <;> cases hfilter
  · simp at hmark

/-- **An answer is read whole for every cut of its bytes exactly if no line above its prompt starts
with one, and it is ASCII.** -/
theorem readUntil_answerText_iff (host : Host) (mode : Mode) {above : List Text}
    (habove : ∀ line ∈ above, '\n' ∉ line) :
    (∀ arrivals, Sends arrivals (encode (answerText above (promptText host mode))) →
      (readUntil (promptMatcher host.text) [] arrivals).1 =
        .ok (answerText above (promptText host mode))) ↔
      (∀ line ∈ above, Clear (isOf host.text) line) ∧
        IsAscii (answerText above (promptText host mode)) := by
  have hends : promptMatcher host.text (answerText above (promptText host mode)) = true := by
    rw [promptMatcher, tailPrompt_answerText, Option.any_some, isOf_promptText]
  rw [readUntil_eq_iff hends]
  refine and_congr_left' ((uncut_answerText_iff habove (newline_not_mem_promptText host
    mode)).trans ?_)
  exact and_iff_left fun t ht hne => promptHere_of_prefix ht hne

/-- A router whose answer has a line that starts with its prompt. -/
def quotedPrompt : List Text := ["show version", "edge-1# is the prompt"]

/-- The name of a router, without a mode. -/
def edge : Host := ⟨"edge-1", by decide, by decide⟩

def execMode : Mode := ⟨[], Or.inl rfl, rfl⟩

theorem not_read_whole_quotedPrompt :
    ¬∀ arrivals, Sends arrivals (encode (answerText quotedPrompt (promptText edge execMode))) →
      (readUntil (promptMatcher edge.text) [] arrivals).1 =
        .ok (answerText quotedPrompt (promptText edge execMode)) := by
  have hnewline : (quotedPrompt.all fun line => !List.elem '\n' line) = true := by decide +kernel
  have habove : ∀ line ∈ quotedPrompt, '\n' ∉ line := by simpa using hnewline
  rw [readUntil_answerText_iff edge execMode habove]
  rintro ⟨h, -⟩
  have hclear := h "edge-1# is the prompt" (by simp [quotedPrompt]) "edge-1#" (by decide +kernel)
  have hprompt : promptHere (isOf edge.text) "edge-1#" = true := by decide +kernel
  rw [hprompt] at hclear
  cases hclear

/-! ### What a command is given -/

/-- The lines of an answer, without blank lines and prompts at its end. -/
def bodyText (body : List Text) : Text :=
  trim (List.intercalate ("\n" : Text) (body.rdropWhile isTail))

theorem splitOn_answerText {above : List Text} {prompt : Text}
    (habove : ∀ line ∈ above, '\n' ∉ line) (hprompt : '\n' ∉ prompt) :
    (answerText above prompt).splitOn '\n' = above.map (· ++ ['\r']) ++ [prompt] := by
  induction above with
  | nil => exact List.splitOn_eq_singleton hprompt
  | cons line above ih =>
    rw [answerText_cons, List.splitOn_append_cons_self_of_not_mem
      (by simpa using habove line List.mem_cons_self),
      ih fun l hl => habove l (List.mem_cons_of_mem _ hl)]
    rfl

theorem stripCr_line (h : line.getLast? ≠ some '\r') :
    (line ++ ['\r']).rdropWhile (fun c => decide (c = '\r')) = line := by
  rw [List.rdropWhile_concat_pos _ _ _ (by decide), List.rdropWhile_eq_self_iff]
  intro hne hcr
  rw [List.getLast?_eq_getLast_of_ne_nil hne] at h
  exact h (congrArg some (of_decide_eq_true hcr))

/-- **A command is given the lines between its echo and the prompt.** -/
theorem cleanOutput_answerText {command : Text} {body : List Text} (host : Host) (mode : Mode)
    (h : ∀ line ∈ command :: body, '\n' ∉ line ∧ line.getLast? ≠ some '\r') :
    cleanOutput (answerText (command :: body) (promptText host mode)) command = bodyText body := by
  have hws := noWs_promptText host mode
  have hstrip : ∀ above : List Text, (∀ line ∈ above, line.getLast? ≠ some '\r') →
      (above.map (· ++ ['\r'])).map (fun l => l.rdropWhile fun c => decide (c = '\r')) = above := by
    intro above habove
    rw [List.map_map]
    exact (List.map_congr_left fun line hline => stripCr_line (habove line hline)).trans
      (List.map_id above)
  have hprompt : (promptText host mode).rdropWhile (fun c => decide (c = '\r')) =
      promptText host mode := List.rdropWhile_concat_neg _ _ _ (by decide)
  have htail : isTail (promptText host mode) = true := by
    rw [isTail, trim_of_noWs hws, isPrompt_promptText, Bool.or_true]
  rw [cleanOutput, splitOn_answerText (fun line hline => (h line hline).1)
    (newline_not_mem_promptText host mode), List.map_append,
    hstrip _ fun line hline => (h line hline).2, List.map_singleton, hprompt, List.cons_append,
    withoutEcho, if_pos rfl, List.rdropWhile_concat_pos _ _ _ htail, bodyText]

end Rerouter.Shell
