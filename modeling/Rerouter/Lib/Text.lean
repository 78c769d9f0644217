import Mathlib.Data.List.Basic
import Mathlib.Data.List.Induction
import Mathlib.Data.Nat.Digits.Defs
import Mathlib.Tactic.Common
import Rerouter.Lib.Printable

/-!
# Text, as a list of characters

The string operations a reader of command output is written with, on
`Rerouter.Text`, the list of the characters of a string. They follow the
documented behaviour of Rust's `str`: whitespace is Unicode's `White_Space`,
`Rerouter.Text.lines` ends a line at `\n` or `\r\n` and does not count a final line
ending as the start of a new line, and `Rerouter.Text.parseUnsigned` accepts one leading
`+`, then ASCII digits only, and nothing above the greatest value of the type.

The two facts everything else is read off are that cutting at a separator finds
the *first* one (`Rerouter.Text.splitOnce_append`) and that a number read back from its
decimal text is the number (`Rerouter.Text.parseUnsigned_natText`).
-/

namespace Rerouter

/-- A string, as the list of its characters. -/
abbrev Text := List Char

instance : Coe String Text := ⟨String.toList⟩

instance : LawfulBEq Text := inferInstance

namespace Text

/-! ### Whitespace -/

/-- `char::is_whitespace`: the characters with Unicode's `White_Space` property. -/
def isWhitespace (c : Char) : Bool :=
  let n := c.toNat
  (9 ≤ n && n ≤ 13) || n == 0x20 || n == 0x85 || n == 0xA0 || n == 0x1680 ||
    (0x2000 ≤ n && n ≤ 0x200A) || n == 0x2028 || n == 0x2029 || n == 0x202F ||
    n == 0x205F || n == 0x3000

/-- A text without a whitespace character: what a single token is. -/
def NoWs (s : Text) : Prop := ∀ c ∈ s, isWhitespace c = false

instance (s : Text) : Decidable (NoWs s) :=
  decidable_of_iff (s.all fun c => !isWhitespace c) (by simp [NoWs])

/-- `str::trim_start`. -/
def trimStart (s : Text) : Text := s.dropWhile isWhitespace

/-- `str::trim_end`. -/
def trimEnd (s : Text) : Text := (s.reverse.dropWhile isWhitespace).reverse

/-- `str::trim`. -/
def trim (s : Text) : Text := trimEnd (trimStart s)

/-- `str::split_whitespace`: the maximal runs of characters that are not
whitespace. -/
def splitWhitespace (s : Text) : List Text := (s.splitOnP isWhitespace).filter (· ≠ [])

theorem trimStart_of_noWs {s : Text} (h : NoWs s) : trimStart s = s := by
  cases s with
  | nil => rfl
  | cons c cs => simp [trimStart, h c (by simp)]

theorem trim_of_noWs {s : Text} (h : NoWs s) : trim s = s := by
  have hr : trimStart s.reverse = s.reverse :=
    trimStart_of_noWs fun c hc => h c (List.mem_reverse.mp hc)
  rw [trim, trimStart_of_noWs h, trimEnd]
  rw [trimStart] at hr
  rw [hr, List.reverse_reverse]

/-- A separator at the end opens one more piece. -/
theorem splitOnP_concat {p : Char → Bool} {c : Char} (hc : p c = true) (s : Text) :
    (s ++ [c]).splitOnP p = s.splitOnP p ++ [[]] := by
  induction s with
  | nil => simp [List.splitOnP_cons_eq_if_modifyHead, hc]
  | cons a s ih =>
    rw [List.cons_append, List.splitOnP_cons_eq_if_modifyHead, List.splitOnP_cons_eq_if_modifyHead,
      ih]
    split
    · rfl
    · obtain ⟨x, xs, hsplit⟩ := List.exists_cons_of_ne_nil (List.splitOnP_ne_nil p s)
      simp [hsplit]

theorem splitWhitespace_trimStart (s : Text) :
    splitWhitespace (trimStart s) = splitWhitespace s := by
  induction s with
  | nil => rfl
  | cons c s ih =>
    cases hc : isWhitespace c with
    | false => simp [trimStart, hc]
    | true =>
      have htrim : trimStart (c :: s) = trimStart s := by simp [trimStart, hc]
      have hcons : splitWhitespace (c :: s) = splitWhitespace s := by
        simp [splitWhitespace, List.splitOnP_cons_eq_if_modifyHead, hc]
      rw [htrim, hcons, ih]

theorem splitWhitespace_trimEnd (s : Text) : splitWhitespace (trimEnd s) = splitWhitespace s := by
  induction s using List.reverseRecOn with
  | nil => rfl
  | append_singleton s c ih =>
    cases hc : isWhitespace c with
    | false => simp [trimEnd, hc]
    | true =>
      have htrim : trimEnd (s ++ [c]) = trimEnd s := by simp [trimEnd, hc]
      have hconcat : splitWhitespace (s ++ [c]) = splitWhitespace s := by
        simp [splitWhitespace, splitOnP_concat hc]
      rw [htrim, hconcat, ih]

/-- What stands around a text is in no word of it. -/
@[simp] theorem splitWhitespace_trim (s : Text) : splitWhitespace (trim s) = splitWhitespace s := by
  rw [trim, splitWhitespace_trimEnd, splitWhitespace_trimStart]

/-- The first word, up to a blank. -/
theorem splitWhitespace_append_space {w : Text} (hw : NoWs w) (hne : w ≠ []) (s : Text) :
    splitWhitespace (w ++ ' ' :: s) = w :: splitWhitespace s := by
  have hsplit : (w ++ ' ' :: s).splitOnP isWhitespace = w :: s.splitOnP isWhitespace := by
    clear hne
    induction w with
    | nil => simp [List.splitOnP_cons_eq_if_modifyHead, show isWhitespace ' ' = true from rfl]
    | cons c w ih =>
      have hc : isWhitespace c = false := hw c (by simp)
      rw [List.cons_append, List.splitOnP_cons_eq_if_modifyHead, hc,
        ih fun a ha => hw a (List.mem_cons_of_mem _ ha)]
      rfl
  rw [splitWhitespace, hsplit, List.filter_cons_of_pos (by simpa using hne)]
  rfl

/-- A text that neither starts nor ends with whitespace is left as it is. -/
theorem trim_eq_self {s : Text} (hhead : ∀ c, s.head? = some c → isWhitespace c = false)
    (hlast : ∀ c, s.getLast? = some c → isWhitespace c = false) : trim s = s := by
  have hkeep : ∀ t : Text, (∀ c, t.head? = some c → isWhitespace c = false) → trimStart t = t := by
    intro t ht
    cases t with
    | nil => rfl
    | cons c t => simp [trimStart, ht c rfl]
  rw [trim, hkeep s hhead, trimEnd]
  have hreverse := hkeep s.reverse fun c hc => hlast c (by rwa [List.head?_reverse] at hc)
  rw [trimStart] at hreverse
  rw [hreverse, List.reverse_reverse]

/-! ### Words -/

/-- A word: not empty, and without whitespace. -/
def IsWord (w : Text) : Prop := w ≠ [] ∧ NoWs w

instance (w : Text) : Decidable (IsWord w) := inferInstanceAs (Decidable (w ≠ [] ∧ NoWs w))

/-- Words, with one blank between each two. -/
def unwords : List Text → Text
  | [] => []
  | [w] => w
  | w :: w' :: ws => w ++ ' ' :: unwords (w' :: ws)

theorem splitWhitespace_of_isWord {w : Text} (h : IsWord w) : splitWhitespace w = [w] := by
  have hsplit : w.splitOnP isWhitespace = [w] := by
    obtain ⟨-, hws⟩ := h
    induction w with
    | nil => rfl
    | cons c w ih =>
      rw [List.splitOnP_cons_eq_if_modifyHead, hws c (by simp),
        ih fun a ha => hws a (List.mem_cons_of_mem _ ha)]
      rfl
  rw [splitWhitespace, hsplit, List.filter_cons_of_pos (by simpa using h.1), List.filter_nil]

/-- **Words that are put into a line are read back from it.** -/
theorem splitWhitespace_unwords :
    ∀ {ws : List Text}, (∀ w ∈ ws, IsWord w) → splitWhitespace (unwords ws) = ws
  | [], _ => rfl
  | [w], h => splitWhitespace_of_isWord (h w (by simp))
  | w :: w' :: ws, h => by
    obtain ⟨hne, hws⟩ := h w (by simp)
    rw [unwords, splitWhitespace_append_space hws hne,
      splitWhitespace_unwords fun v hv => h v (List.mem_cons_of_mem _ hv)]

/-- A piece of a cut has the characters of the whole, and none it was cut at. -/
theorem of_mem_splitOnP {p : Char → Bool} {s piece : Text} (h : piece ∈ s.splitOnP p) :
    ∀ c ∈ piece, c ∈ s ∧ p c = false := by
  induction s generalizing piece with
  | nil =>
    obtain rfl : piece = [] := by simpa using h
    exact fun c hc => absurd hc List.not_mem_nil
  | cons a s ih =>
    obtain ⟨first, pieces, hsplit⟩ := List.exists_cons_of_ne_nil (List.splitOnP_ne_nil p s)
    rw [List.splitOnP_cons_eq_if_modifyHead, hsplit] at h
    rw [hsplit] at ih
    cases ha : p a with
    | true =>
      rw [ha, if_pos rfl] at h
      rcases List.mem_cons.mp h with rfl | h
      · exact fun c hc => absurd hc List.not_mem_nil
      · exact fun c hc => ⟨List.mem_cons_of_mem a (ih h c hc).1, (ih h c hc).2⟩
    | false =>
      rw [ha, if_neg (by decide), List.modifyHead_cons] at h
      rcases List.mem_cons.mp h with rfl | h
      · intro c hc
        rcases List.mem_cons.mp hc with rfl | hc
        · exact ⟨List.mem_cons_self, ha⟩
        · exact ⟨List.mem_cons_of_mem a (ih List.mem_cons_self c hc).1,
            (ih List.mem_cons_self c hc).2⟩
      · exact fun c hc => ⟨List.mem_cons_of_mem a (ih (List.mem_cons_of_mem _ h) c hc).1,
          (ih (List.mem_cons_of_mem _ h) c hc).2⟩

theorem isWord_of_mem_splitWhitespace {w s : Text} (h : w ∈ splitWhitespace s) : IsWord w := by
  obtain ⟨hmem, hne⟩ := List.mem_filter.mp h
  exact ⟨decide_eq_true_eq.mp hne, fun c hc => (of_mem_splitOnP hmem c hc).2⟩

theorem mem_of_mem_splitWhitespace {w s : Text} {c : Char} (h : w ∈ splitWhitespace s)
    (hc : c ∈ w) : c ∈ s :=
  (of_mem_splitOnP (List.mem_filter.mp h).1 c hc).1

theorem exists_piece_of_mem {p : Char → Bool} {s : Text} {c : Char} (h : c ∈ s) (hc : p c = false) :
    ∃ piece ∈ s.splitOnP p, c ∈ piece := by
  induction s with
  | nil => cases h
  | cons a s ih =>
    obtain ⟨first, pieces, hsplit⟩ := List.exists_cons_of_ne_nil (List.splitOnP_ne_nil p s)
    rw [hsplit] at ih
    rw [List.splitOnP_cons_eq_if_modifyHead, hsplit]
    rcases List.mem_cons.mp h with rfl | h
    · rw [hc, if_neg (by decide)]
      exact ⟨c :: first, List.mem_cons_self, List.mem_cons_self⟩
    · obtain ⟨piece, hpiece, hmem⟩ := ih h
      split
      · exact ⟨piece, List.mem_cons_of_mem _ hpiece, hmem⟩
      · rw [List.modifyHead_cons]
        rcases List.mem_cons.mp hpiece with rfl | hpiece
        · exact ⟨a :: piece, List.mem_cons_self, List.mem_cons_of_mem _ hmem⟩
        · exact ⟨piece, List.mem_cons_of_mem _ hpiece, hmem⟩

/-- What is not whitespace stands in a word. -/
theorem exists_word_of_mem {s : Text} {c : Char} (h : c ∈ s) (hc : isWhitespace c = false) :
    ∃ w ∈ splitWhitespace s, c ∈ w := by
  obtain ⟨piece, hpiece, hmem⟩ := exists_piece_of_mem h hc
  exact ⟨piece, List.mem_filter.mpr ⟨hpiece, decide_eq_true (List.ne_nil_of_mem hmem)⟩, hmem⟩

theorem mem_trim {s : Text} {c : Char} (h : c ∈ s) (hc : isWhitespace c = false) : c ∈ trim s := by
  obtain ⟨w, hw, hmem⟩ := exists_word_of_mem h hc
  rw [← splitWhitespace_trim] at hw
  exact mem_of_mem_splitWhitespace hw hmem

theorem not_ws_of_getLast?_trim {s : Text} {c : Char} (h : (trim s).getLast? = some c) :
    isWhitespace c = false := by
  have hhead := List.head?_dropWhile_not isWhitespace (trimStart s).reverse
  rw [trim, trimEnd, List.getLast?_reverse] at h
  rw [h] at hhead
  simpa using hhead

/-- A text that starts with a character that is not whitespace has a word. -/
theorem splitWhitespace_cons_ne_nil {c : Char} (hc : isWhitespace c = false) (s : Text) :
    splitWhitespace (c :: s) ≠ [] := by
  obtain ⟨first, pieces, hsplit⟩ := List.exists_cons_of_ne_nil (List.splitOnP_ne_nil isWhitespace s)
  rw [splitWhitespace, List.splitOnP_cons_eq_if_modifyHead, hc, hsplit]
  simp

theorem trim_eq_nil {s : Text} : trim s = [] ↔ splitWhitespace s = [] := by
  constructor
  · intro h
    rw [← splitWhitespace_trim, h]
    rfl
  · intro h
    rw [← splitWhitespace_trimStart] at h
    rw [trim]
    cases hstart : trimStart s with
    | nil => rfl
    | cons c r =>
      have hc : isWhitespace c = false := by
        have hhead := List.head?_dropWhile_not isWhitespace s
        rw [← trimStart, hstart] at hhead
        simpa using hhead
      rw [hstart] at h
      exact absurd h (splitWhitespace_cons_ne_nil hc r)

/-- Whitespace parts the words before it from those behind it. -/
theorem splitWhitespace_append_cons {c : Char} (hc : isWhitespace c = true) (a b : Text) :
    splitWhitespace (a ++ c :: b) = splitWhitespace a ++ splitWhitespace b := by
  rw [splitWhitespace, List.splitOnP_append_cons a b hc, List.filter_append]
  rfl

theorem splitWhitespace_append_of_getLast? {a : Text} {c : Char} (ha : a.getLast? = some c)
    (hc : isWhitespace c = true) (b : Text) :
    splitWhitespace (a ++ b) = splitWhitespace a ++ splitWhitespace b := by
  obtain ⟨front, rfl⟩ := List.getLast?_eq_some_iff.mp ha
  have hfront := splitWhitespace_append_cons hc front []
  have hnil : splitWhitespace [] = [] := rfl
  rw [hnil, List.append_nil] at hfront
  rw [List.append_assoc, List.singleton_append, splitWhitespace_append_cons hc, hfront]

/-- A text starts with a run that is not whitespace, and whitespace follows it if anything does. -/
theorem exists_noWs_append (s : Text) :
    ∃ w, NoWs w ∧ (s = w ∨ ∃ c rest, isWhitespace c = true ∧ s = w ++ c :: rest) := by
  induction s with
  | nil => exact ⟨[], nofun, Or.inl rfl⟩
  | cons c s ih =>
    cases hc : isWhitespace c with
    | true => exact ⟨[], nofun, Or.inr ⟨c, s, hc, rfl⟩⟩
    | false =>
      obtain ⟨w, hw, hrest⟩ := ih
      refine ⟨c :: w, fun a ha => ?_, ?_⟩
      · rcases List.mem_cons.mp ha with rfl | ha
        · exact hc
        · exact hw a ha
      · rcases hrest with rfl | ⟨d, rest, hd, rfl⟩
        · exact Or.inl rfl
        · exact Or.inr ⟨d, rest, hd, rfl⟩

/-- **What a cut inside a line does to its words**: those in front of the cut stay, and the word
that is cut leaves what stands of it in front, if anything does. -/
theorem splitWhitespace_cut {x : Char} (hx : isWhitespace x = false) (a b : Text) :
    ∃ front last first behind,
    splitWhitespace a = front ++ (if last = [] then [] else [last]) ∧
      splitWhitespace (a ++ x :: b) = front ++ (last ++ x :: first) :: behind := by
  induction hn : a.length using Nat.strong_induction_on generalizing a with
  | _ n ih =>
    obtain ⟨w, hw, rfl | ⟨c, rest, hc, rfl⟩⟩ := exists_noWs_append a
    · obtain ⟨v, hv, htail⟩ := exists_noWs_append b
      have hword : IsWord (a ++ x :: v) := by
        refine ⟨by simp, fun d hd => ?_⟩
        rcases List.mem_append.mp hd with hd | hd
        · exact hw d hd
        · rcases List.mem_cons.mp hd with rfl | hd
          · exact hx
          · exact hv d hd
      have hlast : splitWhitespace a = if a = [] then [] else [a] := by
        split
        · rename_i hnil
          rw [hnil]
          rfl
        · rename_i hne
          exact splitWhitespace_of_isWord ⟨hne, hw⟩
      rcases htail with rfl | ⟨d, tail, hd, rfl⟩
      · exact ⟨[], a, b, [], hlast, splitWhitespace_of_isWord hword⟩
      · refine ⟨[], a, v, splitWhitespace tail, hlast, ?_⟩
        have hassoc : a ++ x :: (v ++ d :: tail) = (a ++ x :: v) ++ d :: tail := by simp
        rw [hassoc, splitWhitespace_append_cons hd, splitWhitespace_of_isWord hword]
        rfl
    · have hless : rest.length < n := by
        rw [← hn, List.length_append, List.length_cons]
        omega
      obtain ⟨front, last, first, behind, hhead, hcut⟩ := ih rest.length hless rest rfl
      refine ⟨splitWhitespace w ++ front, last, first, behind, ?_, ?_⟩
      · rw [splitWhitespace_append_cons hc, hhead, List.append_assoc]
      · have hassoc : w ++ c :: rest ++ x :: b = w ++ c :: (rest ++ x :: b) := by simp
        rw [hassoc, splitWhitespace_append_cons hc, hcut, List.append_assoc]

theorem mem_unwords {c : Char} : ∀ {ws : List Text}, c ∈ unwords ws → c = ' ' ∨ ∃ w ∈ ws, c ∈ w
  | [w], h => Or.inr ⟨w, by simp, h⟩
  | w :: w' :: ws, h => by
    rw [unwords, List.mem_append, List.mem_cons] at h
    rcases h with h | rfl | h
    · exact Or.inr ⟨w, by simp, h⟩
    · exact Or.inl rfl
    · rcases mem_unwords h with rfl | ⟨v, hv, hc⟩
      · exact Or.inl rfl
      · exact Or.inr ⟨v, List.mem_cons_of_mem _ hv, hc⟩

theorem head?_unwords :
    ∀ {ws : List Text}, (∀ w ∈ ws, IsWord w) → ∀ c, (unwords ws).head? = some c →
    isWhitespace c = false
  | [w], h, c, hc => (h w (by simp)).2 c (List.mem_of_mem_head? hc)
  | w :: w' :: ws, h, c, hc => by
    obtain ⟨hne, hws⟩ := h w (by simp)
    rw [unwords, List.head?_append_of_ne_nil _ hne] at hc
    exact hws c (List.mem_of_mem_head? hc)

theorem getLast?_unwords :
    ∀ {ws : List Text}, (∀ w ∈ ws, IsWord w) → ∀ c, (unwords ws).getLast? = some c →
    isWhitespace c = false
  | [w], h, c, hc => (h w (by simp)).2 c (List.mem_of_getLast? hc)
  | w :: w' :: ws, h, c, hc => by
    have htail : ∀ v ∈ w' :: ws, IsWord v := fun v hv => h v (List.mem_cons_of_mem _ hv)
    have hne : unwords (w' :: ws) ≠ [] := by
      intro hnil
      have hsplit := splitWhitespace_unwords htail
      rw [hnil] at hsplit
      cases hsplit
    rw [unwords, List.getLast?_append_of_ne_nil _ (by simp), List.getLast?_cons_of_ne_nil hne] at hc
    exact getLast?_unwords htail c hc

/-- A line of words has no whitespace around it. -/
theorem trim_unwords {ws : List Text} (h : ∀ w ∈ ws, IsWord w) : trim (unwords ws) = unwords ws :=
  trim_eq_self (head?_unwords h) (getLast?_unwords h)

/-! ### Lines -/

/-- Drop the one `\r` that may stand before a line feed. -/
def stripCr (s : Text) : Text :=
  match s.reverse with
  | '\r' :: r => r.reverse
  | _ => s

/-- `str::lines`. -/
def lines (s : Text) : List Text :=
  let pieces := s.splitOn '\n'
  pieces.dropLast.map stripCr ++
    match pieces.getLast? with
    | some [] | none => []
    | some l => [l]

/-- The pieces of an end of a text are ends of its pieces. -/
theorem exists_suffix_of_mem_splitOn {x : Char} {s t piece : Text} (h : s <:+ t)
    (hpiece : piece ∈ s.splitOn x) :
    ∃ whole ∈ t.splitOn x, piece <:+ whole := by
  obtain ⟨front, rfl⟩ := h
  induction front with
  | nil => exact ⟨piece, hpiece, List.suffix_rfl⟩
  | cons a front ih =>
    obtain ⟨whole, hwhole, hsuffix⟩ := ih
    obtain ⟨first, pieces, hsplit⟩ :=
      List.exists_cons_of_ne_nil (List.splitOn_ne_nil x (front ++ s))
    rw [hsplit] at hwhole
    rw [List.cons_append, List.splitOn_cons_eq_if_modifyHead, hsplit]
    split
    · exact ⟨whole, List.mem_cons_of_mem _ hwhole, hsuffix⟩
    · rw [List.modifyHead_cons]
      rcases List.mem_cons.mp hwhole with rfl | hwhole
      · exact ⟨a :: whole, List.mem_cons_self, hsuffix.trans (List.suffix_cons a whole)⟩
      · exact ⟨whole, List.mem_cons_of_mem _ hwhole, hsuffix⟩

theorem stripCr_prefix (s : Text) : stripCr s <+: s := by
  unfold stripCr
  split
  · rename_i r hr
    rw [← List.reverse_reverse s, hr, List.reverse_cons]
    exact List.prefix_append _ _
  · exact List.prefix_rfl

theorem exists_of_mem_lines {s line : Text} (h : line ∈ lines s) :
    ∃ piece ∈ s.splitOn '\n', line <+: piece := by
  rcases List.mem_append.mp h with h | h
  · obtain ⟨piece, hpiece, rfl⟩ := List.mem_map.mp h
    exact ⟨piece, List.dropLast_subset _ hpiece, stripCr_prefix piece⟩
  · split at h
    · cases h
    · cases h
    · rename_i last hne hlast
      obtain rfl := List.mem_singleton.mp h
      exact ⟨line, List.mem_of_getLast? hlast, List.prefix_rfl⟩

/-- The first line, up to its line feed. -/
theorem lines_append {a : Text} (hline : '\n' ∉ a) (hcr : a.getLast? ≠ some '\r') (s : Text) :
    lines (a ++ '\n' :: s) = a :: lines s := by
  have hstrip : stripCr a = a := by
    unfold stripCr
    split
    · rename_i r hr
      rw [← List.head?_reverse, hr] at hcr
      exact absurd rfl hcr
    · rfl
  obtain ⟨piece, pieces, hpieces⟩ := List.exists_cons_of_ne_nil (List.splitOn_ne_nil '\n' s)
  rw [lines, lines, List.splitOn_append_cons_self_of_not_mem hline, hpieces]
  simp [hstrip]

/-- A text without a line feed is a line. -/
theorem lines_of_not_mem {a : Text} (hline : '\n' ∉ a) (hne : a ≠ []) : lines a = [a] := by
  rw [lines, List.splitOn_eq_singleton hline]
  obtain ⟨c, a, rfl⟩ := List.exists_cons_of_ne_nil hne
  rfl

/-- Lines that are put under one another are read back. -/
theorem lines_flatMap {a : Text} {as : List Text}
    (h : ∀ b ∈ a :: as, '\n' ∉ b ∧ b.getLast? ≠ some '\r' ∧ b ≠ []) :
    lines (a ++ as.flatMap fun b => '\n' :: b) = a :: as := by
  induction as generalizing a with
  | nil =>
    obtain ⟨hline, -, hne⟩ := h a (by simp)
    simpa using lines_of_not_mem hline hne
  | cons b as ih =>
    obtain ⟨hline, hcr, -⟩ := h a (by simp)
    rw [List.flatMap_cons, List.cons_append, lines_append hline hcr,
      ih fun c hc => h c (List.mem_cons_of_mem _ hc)]

/-! ### Prefixes and single cuts -/

/-- `str::strip_prefix`. -/
def stripPrefix : Text → Text → Option Text
  | [], s => some s
  | p :: ps, c :: s => if p = c then stripPrefix ps s else none
  | _ :: _, [] => none

theorem stripPrefix_eq_some {p s r : Text} : stripPrefix p s = some r ↔ s = p ++ r := by
  induction p generalizing s with
  | nil => simp [stripPrefix, eq_comm]
  | cons a p ih =>
    cases s with
    | nil => simp [stripPrefix]
    | cons c s =>
      by_cases h : a = c
      · subst h
        simp [stripPrefix, ih]
      · simp [stripPrefix, h, Ne.symm h]

/-- `str::split_once` at a character: what stands before its first occurrence,
and what stands after it. -/
def splitOnce (sep : Char) : Text → Option (Text × Text)
  | [] => none
  | c :: cs => if c = sep then some ([], cs) else (splitOnce sep cs).map fun p => (c :: p.1, p.2)

theorem splitOnce_append {sep : Char} {a b : Text} (h : sep ∉ a) :
    splitOnce sep (a ++ sep :: b) = some (a, b) := by
  induction a with
  | nil => simp [splitOnce]
  | cons c a ih =>
    have hc : c ≠ sep := fun he => h (by simp [he])
    simp [splitOnce, hc, ih fun hm => h (List.mem_cons_of_mem _ hm)]

theorem splitOnce_eq_none {sep : Char} {s : Text} (h : sep ∉ s) : splitOnce sep s = none := by
  induction s with
  | nil => rfl
  | cons c s ih =>
    rw [splitOnce, if_neg fun hc => h (by simp [hc]), ih fun hs => h (List.mem_cons_of_mem _ hs)]
    rfl

/-- `str::rsplit_once` at a character: what stands before its last occurrence, and what stands
after it. -/
def rsplitOnce (sep : Char) (s : Text) : Option (Text × Text) :=
  (splitOnce sep s.reverse).map fun p => (p.2.reverse, p.1.reverse)

theorem eq_of_splitOnce {sep : Char} {s a b : Text} (h : splitOnce sep s = some (a, b)) :
    s = a ++ sep :: b := by
  induction s generalizing a with
  | nil => simp [splitOnce] at h
  | cons c s ih =>
    rw [splitOnce] at h
    split_ifs at h with hc
    · obtain ⟨rfl, rfl⟩ := Prod.mk.inj (Option.some.inj h)
      simp [hc]
    · obtain ⟨⟨x, y⟩, hxy, heq⟩ := Option.map_eq_some_iff.mp h
      obtain ⟨rfl, rfl⟩ := Prod.mk.inj heq
      rw [ih hxy]
      rfl

/-- Where the separator occurs once, the first cut is the last. -/
theorem rsplitOnce_of_splitOnce {sep : Char} {s a b : Text} (h : splitOnce sep s = some (a, b))
    (hb : sep ∉ b) : rsplitOnce sep s = some (a, b) := by
  have hreverse : s.reverse = b.reverse ++ sep :: a.reverse := by simp [eq_of_splitOnce h]
  rw [rsplitOnce, hreverse, splitOnce_append (by simpa using hb)]
  simp

/-- `str::starts_with`. -/
def startsWith (p s : Text) : Bool := (stripPrefix p s).isSome

/-- `str::contains`. -/
def contains (p : Text) : Text → Bool
  | [] => p.isEmpty
  | c :: cs => startsWith p (c :: cs) || contains p cs

theorem startsWith_iff {p s : Text} : startsWith p s = true ↔ p <+: s := by
  rw [startsWith, Option.isSome_iff_exists]
  refine ⟨fun ⟨r, hr⟩ => ⟨r, (stripPrefix_eq_some.mp hr).symm⟩, fun ⟨r, hr⟩ => ⟨r, ?_⟩⟩
  exact stripPrefix_eq_some.mpr hr.symm

theorem contains_iff {p s : Text} : contains p s = true ↔ p <:+: s := by
  induction s with
  | nil => rw [contains, List.isEmpty_iff, List.infix_nil]
  | cons c s ih => rw [contains, Bool.or_eq_true, startsWith_iff, ih, List.infix_cons_iff]

/-- What is found behind a text that its first character is not in is found in the rest. -/
theorem infix_of_infix_append {p a b : Text} (hp : ∃ c ∈ p.head?, c ∉ a) (h : p <:+: a ++ b) :
    p <:+: b := by
  induction a with
  | nil => exact h
  | cons x a ih =>
    obtain ⟨c, hc, hnot⟩ := hp
    rcases List.infix_cons_iff.mp h with ⟨r, hr⟩ | h
    · obtain ⟨d, p, rfl⟩ := List.exists_cons_of_ne_nil (fun he => by simp [he] at hc : p ≠ [])
      have hdc : d = c := by simpa using hc
      have hdx : d = x := (List.cons_eq_cons.mp hr).1
      exact absurd (by simp [← hdc, hdx]) hnot
    · exact ih ⟨c, hc, fun hmem => hnot (List.mem_cons_of_mem _ hmem)⟩ h

/-- What is found around a character that it has not is found on one side of it. -/
theorem infix_append_cons {p a b : Text} {c : Char} (hc : c ∉ p) (h : p <:+: a ++ c :: b) :
    p <:+: a ∨ p <:+: b := by
  induction a with
  | nil =>
    rcases List.infix_cons_iff.mp h with ⟨r, hr⟩ | h
    · cases p with
      | nil => exact Or.inl (List.infix_refl [])
      | cons d p => exact absurd (by simp [(List.cons_eq_cons.mp hr).1]) hc
    · exact Or.inr h
  | cons x a ih =>
    rcases List.infix_cons_iff.mp h with ⟨r, hr⟩ | h
    · refine Or.inl ?_
      rcases List.append_eq_append_iff.mp (hr.trans (List.cons_append ..).symm)
        with ⟨t, ht, -⟩ | ⟨t, ht, hrest⟩
      · rw [ht]
        exact ⟨[], t, rfl⟩
      · cases t with
        | nil =>
          rw [List.append_nil] at ht
          exact ⟨[], [], by simp [ht]⟩
        | cons y t =>
          have hy : c = y := (List.cons_eq_cons.mp hrest).1
          exact absurd (by simp [ht, hy]) hc
    · rcases ih h with h | h
      · exact Or.inl (h.trans (List.suffix_cons x a).isInfix)
      · exact Or.inr h

/-- `str::trim_matches`, of a set of characters. -/
def trimMatches (set s : Text) : Text :=
  ((s.dropWhile fun c => decide (c ∈ set)).reverse.dropWhile fun c => decide (c ∈ set)).reverse

/-- `str::to_ascii_lowercase`. -/
def asciiLower (s : Text) : Text := s.map Char.toLower

/-! ### Numbers -/

/-- `format!("{}", n)` on an unsigned integer. -/
def natText (n : ℕ) : Text := Nat.toDigits 10 n

/-- The digits of a number, without the one `+` that may stand before them. -/
def dropPlus : Text → Text
  | '+' :: ds => ds
  | ds => ds

/-- The value of a digit string, unless it is empty, holds anything but ASCII digits or
exceeds `max`. -/
def parseDigits (max : ℕ) (ds : Text) : Option ℕ :=
  if ds ≠ [] ∧ ds.all Char.isDigit ∧ Nat.ofDigitChars 10 ds 0 ≤ max then
    some (Nat.ofDigitChars 10 ds 0)
  else none

/-- `str::parse` on an unsigned integer type with greatest value `max`. -/
def parseUnsigned (max : ℕ) (s : Text) : Option ℕ := parseDigits max (dropPlus s)

theorem isDigit_of_mem_natText {n : ℕ} {c : Char} (h : c ∈ natText n) : c.isDigit = true :=
  Nat.isDigit_of_mem_toDigits (by omega) (by omega) h

/-- A digit is none of the characters the grammars below give a meaning to. -/
theorem not_mem_natText {c : Char} (hc : c.isDigit = false) (n : ℕ) : c ∉ natText n := fun h => by
  rw [isDigit_of_mem_natText h] at hc
  exact absurd hc (by simp)

theorem natText_injective {n m : ℕ} (h : natText n = natText m) : n = m := by
  have hvalue : Nat.ofDigitChars 10 (natText n) 0 = Nat.ofDigitChars 10 (natText m) 0 := by rw [h]
  rwa [natText, natText, Nat.ofDigitChars_ten_toDigits, Nat.ofDigitChars_ten_toDigits] at hvalue

theorem natText_ne_nil (n : ℕ) : natText n ≠ [] := Nat.toDigits_ne_nil

theorem isWhitespace_of_isDigit {c : Char} (h : c.isDigit = true) : isWhitespace c = false := by
  simp only [Char.isDigit, Bool.and_eq_true, decide_eq_true_eq, ge_iff_le, UInt32.le_iff_toNat_le]
    at h
  have h1 : 48 ≤ c.toNat := h.1
  have h2 : c.toNat ≤ 57 := h.2
  simp only [isWhitespace, Bool.or_eq_false_iff, Bool.and_eq_false_iff, decide_eq_false_iff_not,
    beq_eq_false_iff_ne]
  omega

theorem noWs_natText (n : ℕ) : NoWs (natText n) := fun _ hc =>
  isWhitespace_of_isDigit (isDigit_of_mem_natText hc)

theorem dropPlus_natText (n : ℕ) : dropPlus (natText n) = natText n := by
  have hplus : '+' ∉ natText n := not_mem_natText (by decide) n
  unfold dropPlus
  split
  · rename_i ds heq
    exact absurd (by simp [heq]) hplus
  · rfl

theorem parseDigits_natText {n max : ℕ} (h : n ≤ max) : parseDigits max (natText n) = some n := by
  have hval : Nat.ofDigitChars 10 (natText n) 0 = n := Nat.ofDigitChars_ten_toDigits
  have hall : (natText n).all Char.isDigit = true :=
    List.all_eq_true.mpr fun c hc => isDigit_of_mem_natText hc
  rw [parseDigits, if_pos ⟨natText_ne_nil n, hall, by omega⟩, hval]

/-- **A number read back from its decimal text is the number.** -/
theorem parseUnsigned_natText {n max : ℕ} (h : n ≤ max) :
    parseUnsigned max (natText n) = some n := by
  rw [parseUnsigned, dropPlus_natText, parseDigits_natText h]

/-- One character of a quoted text. -/
def debugChar (c : Char) : Text :=
  if c = '"' then ['\\', '"']
  else if c = '\\' then ['\\', '\\']
  else if c = '\n' then ['\\', 'n']
  else if c = '\r' then ['\\', 'r']
  else if c = '\t' then ['\\', 't']
  else if c.toNat = 0 then ['\\', '0']
  else if c.toNat < 32 ∨ c.toNat = 127 ∨ 128 ≤ c.toNat ∧ isEscaped c.toNat = true then
    ['\\', 'u', '\x7b'] ++ Nat.toDigits 16 c.toNat ++ ['\x7d']
  else [c]

/-- `format!("{:?}", s)`: the text between quotes, with the quotes, the backslashes and the
characters that are not printable escaped. -/
def debugText (s : Text) : Text := '"' :: (s.flatMap debugChar ++ ['"'])

/-- What reads as a number is digits, after one `+` at most. -/
theorem mem_of_parseUnsigned {n max : ℕ} {s : Text} {c : Char} (h : parseUnsigned max s = some n)
    (hc : c ∈ s) : c.isDigit = true ∨ c = '+' := by
  rw [parseUnsigned, parseDigits] at h
  split_ifs at h with hs
  unfold dropPlus at hs
  split at hs
  · rcases List.mem_cons.mp hc with rfl | hc
    · exact Or.inr rfl
    · exact Or.inl (List.all_eq_true.mp hs.2.1 c hc)
  · exact Or.inl (List.all_eq_true.mp hs.2.1 c hc)

theorem noWs_of_parseUnsigned {n max : ℕ} {s : Text} (h : parseUnsigned max s = some n) : NoWs s :=
  fun c hc => by
    rcases mem_of_parseUnsigned h hc with hd | rfl
    · exact isWhitespace_of_isDigit hd
    · decide

/-- A number that fits is read alike by a larger type. -/
theorem parseUnsigned_mono {n max max' : ℕ} {s : Text} (h : parseUnsigned max s = some n)
    (hmax : max ≤ max') : parseUnsigned max' s = some n := by
  rw [parseUnsigned, parseDigits] at h ⊢
  split_ifs at h with hs
  rw [if_pos ⟨hs.1, hs.2.1, hs.2.2.trans hmax⟩]
  exact h

end Text

end Rerouter
