import Mathlib.Data.List.TakeWhile
import Rerouter.Lib.Text

/-!
# What a device is quoted with

Raw device output leaves the controller through `redact_device_output` of `ssh/mod.rs`
(`Rerouter.Redaction.redactDeviceOutput`). It works line by line: behind a secret keyword the
rest of the line is replaced by one marker, behind `community` one word is, and a `key-string`
opens a block of key material that is masked whole, up to its terminator.

What is secret is said here apart from the scanner, by the *outline* of a line
(`Rerouter.Redaction.outline`): its words, with nothing in the place of a secret. It goes by
the words alone – every word behind a secret keyword is secret, and every word that stands
right behind a `community` – whereas the scanner skips the value of a `community` without
looking at it, and takes a single digit behind a keyword for the type of an encryption even
where nothing follows it. The two agree exactly on the *legible* lines
(`Rerouter.Redaction.legible`), and the redaction does what it is for exactly on the texts of
such lines (`Rerouter.Redaction.redacts_iff`).
-/

namespace Rerouter.Redaction

open Text

/-! ### The scanner -/

/-- `REDACTED`. -/
def redacted : Text := "<redacted>"

/-- `SECRET_REST_OF_LINE`. -/
def secretRestOfLine : List Text :=
  ["password", "secret", "key-string", "md5", "pre-shared-key", "passphrase", "psk"]

/-- `SECRET_ONE_TOKEN`. -/
def secretOneToken : List Text := ["community"]

/-- `KEY_NOT_SECRET_NEXT`. -/
def keyNotSecretNext : List Text := ["chain", "generate", "zeroize", "config-key", "pubkey-chain"]

/-- What closes a block of key material. -/
def terminators : List Text := ["exit", "quit", "!", "end"]

def isEncryptionType (tok : Text) : Bool := tok.length == 1 && tok.all Char.isDigit

/-- A word behind which the rest of the line is secret, given the word behind it. -/
def restOfLineIsSecret (tok : Text) (next : Option Text) : Bool :=
  decide (tok ∈ secretRestOfLine) ||
    (decide (tok = "key".toList) && next.any fun n => decide (n ∉ keyNotSecretNext))

/-- What the scanner has of a line at its end. -/
structure Scan where
  kept : List Text := []
  redactedAnything : Bool := false
  inKeyBlock : Bool := false
deriving DecidableEq

/-- The digit behind a keyword, which is kept, and what stands behind it. -/
def skipType : List Text → List Text × List Text
  | ty :: rest => if isEncryptionType ty then ([ty], rest) else ([], ty :: rest)
  | [] => ([], [])

/-- What is kept from a keyword on. -/
def keepKeyword (tok : Text) (toks : List Text) : Scan where
  kept := tok :: (skipType toks).1 ++ if (skipType toks).2.isEmpty then [] else [redacted]
  redactedAnything := !(skipType toks).2.isEmpty
  inKeyBlock := decide (tok = "key-string".toList)

/-- The loop over the words of a line. -/
def scan : List Text → Scan
  | [] => {}
  | tok :: toks =>
    if restOfLineIsSecret tok toks.head? then keepKeyword tok toks
    else if tok ∈ secretOneToken then
      match toks with
      | [] => { kept := [tok] }
      | _ :: rest =>
        { scan rest with kept := tok :: redacted :: (scan rest).kept, redactedAnything := true }
    else { scan toks with kept := tok :: (scan toks).kept }

/-- The whitespace before the first word of a line. -/
def indentOf (line : Text) : Text := line.take (line.length - (trimStart line).length)

/-- A line ends a block of key material: its terminator, or the next command at the top. -/
def closesBlock (line : Text) : Bool :=
  decide (trim line ∈ terminators) || (decide (trim line ≠ []) && (indentOf line).isEmpty)

/-- A line as it is shown, and whether a block of key material is open behind it. -/
def redactLine (line : Text) (inKeyBlock : Bool) : Text × Bool :=
  if inKeyBlock && !closesBlock line then
    (if trim line = [] then line else indentOf line ++ redacted, true)
  else if inKeyBlock && decide (trim line ∈ terminators) then (line, false)
  else
    let s := scan (splitWhitespace (trim line))
    (if s.redactedAnything then indentOf line ++ unwords s.kept else line, s.inKeyBlock)

def redactLines : Bool → List Text → List Text
  | _, [] => []
  | inKeyBlock, line :: ls =>
    (redactLine line inKeyBlock).1 :: redactLines (redactLine line inKeyBlock).2 ls

def redactDeviceOutput (text : Text) : Text :=
  ['\n'].intercalate (redactLines false (text.splitOn '\n'))

/-- The last eight lines of the redaction, and of these the last 1024 characters. -/
def diagnosticExcerpt (text : Text) : Text :=
  let joined := ['\n'].intercalate ((lines (redactDeviceOutput text)).reverse.take 8).reverse
  joined.drop (joined.length - 1024)

/-! ### What is secret -/

/-- The digit between a keyword and its value, which tells how the value is encrypted. -/
def typeMarker : List Text → List Text
  | ty :: _ :: _ => if isEncryptionType ty then [ty] else []
  | _ => []

/-- The value behind a keyword. -/
def values (toks : List Text) : List Text := toks.drop (typeMarker toks).length

/-- The words of a line, with nothing in the place of a secret: what follows a secret keyword,
its type marker apart, and the word behind a `community`. The flag says that the first word
stands behind one. -/
def outline : Bool → List Text → List (Option Text)
  | _, [] => []
  | value, tok :: toks =>
    (if value then none else some tok) ::
      if restOfLineIsSecret tok toks.head? then
        (typeMarker toks).map some ++ if toks.isEmpty then [] else [none]
      else outline (decide (tok ∈ secretOneToken)) toks

/-- The words of an outline, with the marker in the place of a secret. -/
def shown (o : List (Option Text)) : List Text := o.map (·.getD redacted)

/-- A line in a block of key material that does not close it. -/
def inside (inKeyBlock : Bool) (line : Text) : Bool := inKeyBlock && !closesBlock line

/-- The outline of a line: in a block, of which all is secret, and elsewhere. -/
def lineOutline (inKeyBlock : Bool) (line : Text) : List (Option Text) :=
  if inside inKeyBlock line then
    if trim line = [] then [] else [none]
  else outline false (splitWhitespace line)

/-- A block goes on, or is opened by a `key-string` that is no value. -/
def blockAfter (inKeyBlock : Bool) (line : Text) : Bool :=
  inside inKeyBlock line || decide (some "key-string".toList ∈ lineOutline inKeyBlock line)

/-- The lines of a text, each with whether a block is open before it. -/
def withBlocks : Bool → List Text → List (Bool × Text)
  | _, [] => []
  | inKeyBlock, line :: ls => (inKeyBlock, line) :: withBlocks (blockAfter inKeyBlock line) ls

/-- The line `out` shows of a line what is not secret: its words are those of the outline, with
one marker in the place of each secret, and a line without a secret is shown as it is. -/
structure Shows (p : Bool × Text) (out : Text) : Prop where
  words : splitWhitespace out = shown (lineOutline p.1 p.2)
  verbatim : none ∉ lineOutline p.1 p.2 → out = p.2

/-- Two lists of lines differ only in what is secret. -/
def SameButSecrets : Bool → List Text → List Text → Prop
  | _, [], [] => True
  | b, line :: ls, line' :: ls' =>
    (line = line' ∨ indentOf line = indentOf line' ∧ none ∈ lineOutline b line ∧
      lineOutline b line = lineOutline b line') ∧ SameButSecrets (blockAfter b line) ls ls'
  | _, _, _ => False

/-- The redaction of a text shows nothing that is secret. -/
def Masks (text : Text) : Prop :=
  List.Forall₂ Shows (withBlocks false (text.splitOn '\n')) ((redactDeviceOutput text).splitOn '\n')

/-- What the redaction is for, of two texts. -/
structure Redacts (text text' : Text) : Prop where
  masks : Masks text ∧ Masks text'
  same : SameButSecrets false (text.splitOn '\n') (text'.splitOn '\n') →
    redactDeviceOutput text = redactDeviceOutput text'
  idempotent : redactDeviceOutput (redactDeviceOutput text) = redactDeviceOutput text
  excerpt : ∀ piece ∈ (diagnosticExcerpt text).splitOn '\n',
    ∃ line ∈ (redactDeviceOutput text).splitOn '\n', piece <:+: line

/-- The scanner sees what is secret on a line: the first keyword is not followed by a single
digit alone, and the value of a `community` is not itself a keyword, or a `community`, with
words behind it that are not masked yet. -/
def legible : List Text → Bool
  | [] => true
  | tok :: toks =>
    if restOfLineIsSecret tok toks.head? then
      match toks with
      | [ty] => !isEncryptionType ty
      | _ => true
    else if tok ∈ secretOneToken then
      match toks with
      | v :: w :: rest =>
        if restOfLineIsSecret v (some w) then decide (values (w :: rest) = [redacted])
        else (decide (v ∉ secretOneToken) || decide (w = redacted)) && legible (w :: rest)
      | _ => true
    else legible toks

/-- Every line outside the blocks of key material is legible. -/
def Legible (text : Text) : Prop :=
  ∀ p ∈ withBlocks false (text.splitOn '\n'), inside p.1 p.2 = false →
      legible (splitWhitespace p.2) = true

instance (text : Text) : Decidable (Legible text) :=
  inferInstanceAs (Decidable (∀ p ∈ withBlocks false (text.splitOn '\n'),
    inside p.1 p.2 = false → legible (splitWhitespace p.2) = true))

/-! ### The words of a line -/

variable {tok : Text} {toks : List Text}

theorem typeMarker_append_values (toks : List Text) : typeMarker toks ++ values toks = toks := by
  unfold values typeMarker
  split
  · split <;> rfl
  · rfl

theorem not_keyword_of_mem_secretOneToken (h : tok ∈ secretOneToken) (next : Option Text) :
    restOfLineIsSecret tok next = false := by
  obtain rfl := List.mem_singleton.mp h
  unfold restOfLineIsSecret
  rw [decide_eq_false (by decide), decide_eq_false (by decide)]
  rfl

theorem scan_keyword (h : restOfLineIsSecret tok toks.head? = true) :
    scan (tok :: toks) = keepKeyword tok toks := by
  unfold scan
  rw [if_pos h]

theorem scan_community_end (h : tok ∈ secretOneToken) : scan [tok] = { kept := [tok] } := by
  unfold scan
  rw [if_neg (by rw [not_keyword_of_mem_secretOneToken h]; decide), if_pos h]

theorem scan_community (h : tok ∈ secretOneToken) (v : Text) (rest : List Text) :
    scan (tok :: v :: rest) =
    { scan rest with kept := tok :: redacted :: (scan rest).kept, redactedAnything := true } := by
  conv_lhs => unfold scan
  rw [if_neg (by rw [not_keyword_of_mem_secretOneToken h]; decide), if_pos h]

theorem scan_other (hkey : restOfLineIsSecret tok toks.head? = false) (h : tok ∉ secretOneToken) :
    scan (tok :: toks) = { scan toks with kept := tok :: (scan toks).kept } := by
  conv_lhs => unfold scan
  rw [if_neg (by rw [hkey]; decide), if_neg h]

theorem redacted_not_type : isEncryptionType redacted = false := by decide

theorem skipType_of_type (h : isEncryptionType tok = true) :
    skipType (tok :: toks) = ([tok], toks) := if_pos h

theorem skipType_of_not_type (h : isEncryptionType tok = false) :
    skipType (tok :: toks) = ([], tok :: toks) :=
  if_neg (by rw [h]; decide)

theorem skipType_append (toks : List Text) : (skipType toks).1 ++ (skipType toks).2 = toks := by
  unfold skipType
  split
  · split <;> rfl
  · rfl

theorem mem_skipType {w : Text} (h : w ∈ (skipType toks).1) : w ∈ toks := by
  rw [← skipType_append toks]
  exact List.mem_append_left _ h

/-- What is masked behind a keyword is skipped as what it stands for. -/
theorem skipType_masked (toks : List Text) :
    skipType ((skipType toks).1 ++ [redacted]) = ((skipType toks).1, [redacted]) := by
  cases toks with
  | nil => exact skipType_of_not_type redacted_not_type
  | cons ty rest =>
    cases hty : isEncryptionType ty with
    | true => rw [skipType_of_type hty, List.singleton_append, skipType_of_type hty]
    | false =>
      rw [skipType_of_not_type hty, List.nil_append, skipType_of_not_type redacted_not_type]

theorem head?_masked_not_mem (toks : List Text) :
    ∃ n, ((skipType toks).1 ++ [redacted]).head? = some n ∧ n ∉ keyNotSecretNext := by
  cases toks with
  | nil => exact ⟨redacted, rfl, by decide⟩
  | cons ty rest =>
    cases hty : isEncryptionType ty with
    | true =>
      have hlong : ∀ w ∈ keyNotSecretNext, isEncryptionType w = false := by decide
      rw [skipType_of_type hty]
      exact ⟨ty, rfl, fun hmem => by rw [hlong ty hmem] at hty; cases hty⟩
    | false =>
      rw [skipType_of_not_type hty]
      exact ⟨redacted, rfl, by decide⟩

theorem restOfLineIsSecret_some {next : Option Text} (h : restOfLineIsSecret tok next = true)
    {n : Text} (hn : n ∉ keyNotSecretNext) : restOfLineIsSecret tok (some n) = true := by
  unfold restOfLineIsSecret at h ⊢
  rcases (Bool.or_eq_true _ _).mp h with h | h
  · rw [h, Bool.true_or]
  · rw [((Bool.and_eq_true _ _).mp h).1, Bool.true_and, Option.any_some, decide_eq_true hn,
      Bool.or_true]

theorem not_keyword_of_type (h : isEncryptionType tok = true) (next : Option Text) :
    restOfLineIsSecret tok next = false ∧ tok ∉ secretOneToken := by
  have hrest : ∀ w ∈ secretRestOfLine, isEncryptionType w = false := by decide
  have hone : ∀ w ∈ secretOneToken, isEncryptionType w = false := by decide
  have hkey : isEncryptionType "key" = false := by decide
  refine ⟨?_, fun hmem => by rw [hone tok hmem] at h; cases h⟩
  unfold restOfLineIsSecret
  rw [decide_eq_false (fun hmem => by rw [hrest tok hmem] at h; cases h),
    decide_eq_false (fun heq => by rw [heq, hkey] at h; cases h)]
  rfl

/-- The first word of a line is shown. -/
theorem head?_kept_scan (toks : List Text) : (scan toks).kept.head? = toks.head? := by
  induction toks using scan.induct with
  | case1 => rfl
  | case2 tok toks hkey => rw [scan_keyword hkey]; rfl
  | case3 tok hone hkey => rw [scan_community_end hone]
  | case4 tok hone v rest hkey ih => rw [scan_community hone, List.head?_cons, List.head?_cons]
  | case5 tok toks hkey hone ih =>
    rw [scan_other (Bool.eq_false_of_not_eq_true hkey) hone, List.head?_cons, List.head?_cons]

theorem exists_kept_scan_cons (tok : Text) (toks : List Text) :
    ∃ behind, (scan (tok :: toks)).kept = tok :: behind := by
  have hhead := head?_kept_scan (tok :: toks)
  cases hkept : (scan (tok :: toks)).kept with
  | nil => rw [hkept] at hhead; cases hhead
  | cons first behind =>
    rw [hkept] at hhead
    cases hhead
    exact ⟨behind, rfl⟩

/-- What nothing is masked in is kept as it is. -/
theorem kept_scan_of_not_redacted (h : (scan toks).redactedAnything = false) :
    (scan toks).kept = toks := by
  induction toks using scan.induct with
  | case1 => rfl
  | case2 tok toks hkey =>
    rw [scan_keyword hkey] at h ⊢
    have hempty : (skipType toks).2.isEmpty = true := by simpa [keepKeyword] using h
    rw [keepKeyword, hempty, if_pos rfl, List.append_nil]
    have hall := skipType_append toks
    rw [List.isEmpty_iff.mp hempty, List.append_nil] at hall
    rw [hall]
  | case3 tok hone hkey => rw [scan_community_end hone]
  | case4 tok hone v rest hkey ih => rw [scan_community hone] at h; cases h
  | case5 tok toks hkey hone ih =>
    rw [scan_other (Bool.eq_false_of_not_eq_true hkey) hone] at h ⊢
    rw [ih h]

/-- What is masked is shown to be. -/
theorem redacted_mem_kept (h : (scan toks).redactedAnything = true) :
    redacted ∈ (scan toks).kept := by
  induction toks using scan.induct with
  | case1 => cases h
  | case2 tok toks hkey =>
    rw [scan_keyword hkey] at h ⊢
    have hmore : (skipType toks).2.isEmpty = false := by simpa [keepKeyword] using h
    simp [keepKeyword, hmore]
  | case3 tok hone hkey => rw [scan_community_end hone] at h; cases h
  | case4 tok hone v rest hkey ih =>
    rw [scan_community hone]
    exact List.mem_cons_of_mem _ List.mem_cons_self
  | case5 tok toks hkey hone ih =>
    rw [scan_other (Bool.eq_false_of_not_eq_true hkey) hone] at h ⊢
    exact List.mem_cons_of_mem _ (ih h)

theorem mem_kept_scan {w : Text} (h : w ∈ (scan toks).kept) : w ∈ toks ∨ w = redacted := by
  induction toks using scan.induct with
  | case1 => cases h
  | case2 tok toks hkey =>
    rw [scan_keyword hkey, keepKeyword, List.cons_append] at h
    rcases List.mem_cons.mp h with rfl | h
    · exact .inl List.mem_cons_self
    · rcases List.mem_append.mp h with h | h
      · exact .inl (List.mem_cons_of_mem _ (mem_skipType h))
      · split at h
        · cases h
        · exact .inr (List.mem_singleton.mp h)
  | case3 tok hone hkey => rw [scan_community_end hone] at h; exact .inl h
  | case4 tok hone v rest hkey ih =>
    rw [scan_community hone] at h
    rcases List.mem_cons.mp h with rfl | h
    · exact .inl List.mem_cons_self
    · rcases List.mem_cons.mp h with rfl | h
      · exact .inr rfl
      · exact (ih h).imp_left fun h => List.mem_cons_of_mem _ (List.mem_cons_of_mem _ h)
  | case5 tok toks hkey hone ih =>
    rw [scan_other (Bool.eq_false_of_not_eq_true hkey) hone] at h
    rcases List.mem_cons.mp h with rfl | h
    · exact .inl List.mem_cons_self
    · exact (ih h).imp_left (List.mem_cons_of_mem _)

/-- **What was scanned is scanned to itself.** -/
theorem scan_kept (toks : List Text) : scan (scan toks).kept = scan toks := by
  induction toks using scan.induct with
  | case1 => rfl
  | case2 tok toks hkey =>
    cases hmore : (scan (tok :: toks)).redactedAnything with
    | false => rw [kept_scan_of_not_redacted hmore]
    | true =>
      rw [scan_keyword hkey] at hmore ⊢
      have hempty : (skipType toks).2.isEmpty = false := by simpa [keepKeyword] using hmore
      have hkept : (keepKeyword tok toks).kept = tok :: ((skipType toks).1 ++ [redacted]) := by
        rw [keepKeyword, hempty, if_neg (by decide), List.cons_append]
      obtain ⟨n, hhead, hn⟩ := head?_masked_not_mem toks
      have hkeyword : restOfLineIsSecret tok ((skipType toks).1 ++ [redacted]).head? = true := by
        rw [hhead]
        exact restOfLineIsSecret_some hkey hn
      rw [hkept, scan_keyword hkeyword, keepKeyword, keepKeyword, skipType_masked, hempty]
      rfl
  | case3 tok hone hkey => rw [scan_community_end hone, scan_community_end hone]
  | case4 tok hone v rest hkey ih => rw [scan_community hone, scan_community hone, ih]
  | case5 tok toks hkey hone ih =>
    have hsame := hkey
    rw [← head?_kept_scan toks] at hsame
    rw [scan_other (Bool.eq_false_of_not_eq_true hkey) hone,
      scan_other (Bool.eq_false_of_not_eq_true hsame) hone, ih]

/-! ### Legible lines -/

theorem outline_keyword (h : restOfLineIsSecret tok toks.head? = true) (value : Bool) :
    outline value (tok :: toks) =
    (if value then none else some tok) :: ((typeMarker toks).map some ++ if toks.isEmpty then
      [] else [none]) := by
  rw [outline, if_pos h]

theorem outline_other (h : restOfLineIsSecret tok toks.head? = false) (value : Bool) :
    outline value (tok :: toks) =
    (if value then none else some tok) :: outline (decide (tok ∈ secretOneToken)) toks := by
  rw [outline]
  exact congrArg _ (if_neg (by rw [h]; decide))

theorem outline_community (h : tok ∈ secretOneToken) (value : Bool) : outline value (tok :: toks) =
    (if value then none else some tok) :: outline true toks := by
  rw [outline_other (not_keyword_of_mem_secretOneToken h _), decide_eq_true h]

/-- What is behind the first word does not depend on what that word is taken for. -/
theorem exists_outline_cons (tok : Text) (toks : List Text) :
    ∃ behind, ∀ value, outline value (tok :: toks) = (if value then none else some tok) :: behind :=
  ⟨_, fun value => by rw [outline]⟩

theorem outline_true_singleton (v : Text) : outline true [v] = [none] := by
  cases hv : restOfLineIsSecret v [].head? with
  | true => rw [outline_keyword hv]; rfl
  | false => rw [outline_other hv]; rfl

theorem legible_keyword_alone {ty : Text} (h : restOfLineIsSecret tok (some ty) = true) :
    legible [tok, ty] = !isEncryptionType ty := by
  unfold legible
  rw [List.head?_cons, if_pos h]

theorem legible_keyword (h : restOfLineIsSecret tok toks.head? = true) (hmore : ∀ ty, toks ≠ [ty]) :
    legible (tok :: toks) = true := by
  unfold legible
  rw [if_pos h]
  split
  · exact absurd rfl (hmore _)
  · rfl

theorem legible_community (h : tok ∈ secretOneToken) (v w : Text) (rest : List Text) :
    legible (tok :: v :: w :: rest) =
    if restOfLineIsSecret v (some w) then decide (values (w :: rest) = [redacted])
    else (decide (v ∉ secretOneToken) || decide (w = redacted)) && legible (w :: rest) := by
  conv_lhs => unfold legible
  rw [if_neg (by rw [not_keyword_of_mem_secretOneToken h]; decide), if_pos h]

theorem legible_other (hkey : restOfLineIsSecret tok toks.head? = false)
    (h : tok ∉ secretOneToken) :
    legible (tok :: toks) = legible toks := by
  conv_lhs => unfold legible
  rw [if_neg (by rw [hkey]; decide), if_neg h]

theorem kept_scan_eq_redacted : (scan toks).kept = [redacted] ↔ toks = [redacted] := by
  constructor
  · intro h
    have hhead := head?_kept_scan toks
    rw [h] at hhead
    obtain ⟨rest, rfl⟩ := List.head?_eq_some_iff.mp hhead.symm
    have hkey : restOfLineIsSecret redacted rest.head? = false := by
      unfold restOfLineIsSecret
      rw [decide_eq_false (by decide), decide_eq_false (by decide)]
      rfl
    rw [scan_other hkey (by decide)] at h
    have hrest := head?_kept_scan rest
    rw [(List.cons_eq_cons.mp h).2] at hrest
    rw [List.head?_eq_none_iff.mp hrest.symm]
  · rintro rfl
    decide

/-- Behind a keyword that stands as the value of a `community`, the scanner goes on. -/
theorem kept_scan_eq_masked (w : Text) (rest : List Text) :
    (scan (w :: rest)).kept = typeMarker (w :: rest) ++ [redacted] ↔
    values (w :: rest) = [redacted] := by
  cases rest with
  | nil => exact kept_scan_eq_redacted
  | cons x rest =>
    cases hty : isEncryptionType w with
    | true =>
      obtain ⟨hkey, hone⟩ := not_keyword_of_type hty (x :: rest).head?
      rw [scan_other hkey hone, values, typeMarker, if_pos hty]
      exact List.cons_eq_cons.trans (and_iff_right rfl) |>.trans kept_scan_eq_redacted
    | false =>
      rw [values, typeMarker, if_neg (by rw [hty]; decide)]
      exact kept_scan_eq_redacted

/-- The digit behind a keyword is a type only if a value follows it. -/
theorem kept_keepKeyword_eq_shown (h : restOfLineIsSecret tok toks.head? = true) :
    (keepKeyword tok toks).kept = shown (outline false (tok :: toks)) ↔
    legible (tok :: toks) = true := by
  rw [outline_keyword h, keepKeyword]
  rcases toks with _ | ⟨ty, _ | ⟨x, rest⟩⟩
  · exact iff_of_true rfl (legible_keyword h nofun)
  · rw [legible_keyword_alone h]
    cases hty : isEncryptionType ty with
    | true =>
      rw [skipType_of_type hty]
      refine iff_of_false (fun hshown => ?_) (by decide)
      have hsame : ty = redacted := (List.cons_eq_cons.mp (List.cons_eq_cons.mp hshown).2).1
      rw [hsame, redacted_not_type] at hty
      cases hty
    | false =>
      rw [skipType_of_not_type hty]
      exact iff_of_true rfl rfl
  · rw [legible_keyword h nofun]
    refine iff_of_true ?_ rfl
    cases hty : isEncryptionType ty with
    | true =>
      rw [skipType_of_type hty, typeMarker, if_pos hty]
      rfl
    | false =>
      simp only [skipType_of_not_type hty, typeMarker, hty]
      rfl

/-- **The scanner masks what is secret on the legible lines, and on no other.** -/
theorem kept_scan_eq_shown (toks : List Text) :
    (scan toks).kept = shown (outline false toks) ↔ legible toks = true := by
  induction toks using scan.induct with
  | case1 => exact iff_of_true rfl rfl
  | case2 tok toks hkey =>
    rw [scan_keyword hkey]
    exact kept_keepKeyword_eq_shown hkey
  | case3 tok hone hkey =>
    rw [scan_community_end hone, outline_community hone]
    have hlegible : legible [tok] = true := by
      unfold legible
      rw [if_neg hkey, if_pos hone]
    exact iff_of_true rfl hlegible
  | case4 tok hone v rest hkey ih =>
    rw [scan_community hone, outline_community hone]
    cases rest with
    | nil =>
      have hlegible : legible [tok, v] = true := by
        unfold legible
        rw [if_neg hkey, if_pos hone]
      rw [outline_true_singleton]
      exact iff_of_true rfl hlegible
    | cons w rest =>
      rw [legible_community hone]
      refine (List.cons_eq_cons.trans (and_iff_right rfl)).trans ?_
      cases hv : restOfLineIsSecret v (w :: rest).head? with
      | true =>
        have hmarked : shown ((typeMarker (w :: rest)).map some) = typeMarker (w :: rest) := by
          rw [shown, List.map_map]
          exact List.map_id _
        rw [List.head?_cons] at hv
        rw [outline_keyword hv, if_pos hv, decide_eq_true_iff, ← kept_scan_eq_masked]
        refine (List.cons_eq_cons.trans (and_iff_right rfl)).trans ?_
        rw [List.map_append, ← shown, hmarked]
        rfl
      | false =>
        rw [List.head?_cons] at hv
        rw [outline_other hv, hv, if_pos rfl, if_neg (show ¬false = true by decide)]
        refine (List.cons_eq_cons.trans (and_iff_right rfl)).trans ?_
        rw [Bool.and_eq_true, ← ih]
        by_cases hcommunity : v ∈ secretOneToken
        · -- The word behind the second `community` is secret too, and it is shown.
          obtain ⟨kept, hkept⟩ := exists_kept_scan_cons w rest
          obtain ⟨behind, hbehind⟩ := exists_outline_cons w rest
          rw [hkept, decide_eq_true hcommunity, decide_eq_false (not_not_intro hcommunity),
            hbehind, hbehind, Bool.false_or, decide_eq_true_iff]
          exact List.cons_eq_cons.trans
            (and_congr_right' (List.cons_eq_cons.trans (and_iff_right rfl)).symm)
        · rw [decide_eq_false hcommunity, decide_eq_true hcommunity, Bool.true_or,
            and_iff_right rfl]
          exact Iff.rfl
  | case5 tok toks hkey hone ih =>
    have hkey := Bool.eq_false_of_not_eq_true hkey
    rw [scan_other hkey hone, outline_other hkey, legible_other hkey hone, ← ih,
      decide_eq_false hone]
    exact List.cons_eq_cons.trans (and_iff_right rfl)

theorem legible_tail (hone : tok ∈ secretOneToken) {v w : Text} {rest : List Text}
    (h : legible (tok :: v :: w :: rest) = true) :
    restOfLineIsSecret v (some w) = true ∧ values (w :: rest) = [redacted] ∨
      restOfLineIsSecret v (some w) = false ∧ (v ∈ secretOneToken → w = redacted) ∧
        legible (w :: rest) = true := by
  rw [legible_community hone] at h
  split at h
  · exact .inl ⟨‹_›, decide_eq_true_iff.mp h⟩
  · obtain ⟨hmasked, hrest⟩ := (Bool.and_eq_true _ _).mp h
    refine .inr ⟨Bool.eq_false_of_not_eq_true ‹_›, fun hv => ?_, hrest⟩
    exact decide_eq_true_iff.mp (((Bool.or_eq_true _ _).mp hmasked).resolve_left fun hno =>
      decide_eq_true_iff.mp hno hv)

theorem decide_mem_cons_of_ne {a b : Option Text} {l : List (Option Text)} (h : a ≠ b) :
    decide (a ∈ b :: l) = decide (a ∈ l) :=
  decide_eq_decide.mpr (List.mem_cons.trans (or_iff_right h))

theorem redactedAnything_scan (h : legible toks = true) :
    (scan toks).redactedAnything = decide (none ∈ outline false toks) := by
  induction toks using scan.induct with
  | case1 => rfl
  -- behind a keyword something is masked, unless the type marker stands last
  | case2 tok toks hkey =>
    rw [scan_keyword hkey, outline_keyword hkey, keepKeyword]
    rcases toks with _ | ⟨ty, _ | ⟨x, rest⟩⟩
    · rfl
    · rw [legible_keyword_alone hkey, Bool.not_eq_true'] at h
      rw [skipType_of_not_type h]
      rfl
    · have hmasked : none ∈ (if false = true then none else some tok) ::
          ((typeMarker (ty :: x :: rest)).map some ++ if (ty :: x :: rest).isEmpty then
            [] else [none]) :=
        List.mem_cons_of_mem _ (List.mem_append_right _ List.mem_cons_self)
      rw [decide_eq_true hmasked]
      cases hty : isEncryptionType ty with
      | true => rw [skipType_of_type hty]; rfl
      | false => rw [skipType_of_not_type hty]; rfl
  | case3 tok hone hkey =>
    rw [scan_community_end hone, outline_community hone]
    rfl
  -- the community itself is masked
  | case4 tok hone v rest hkey ih =>
    rw [scan_community hone, outline_community hone]
    obtain ⟨behind, hbehind⟩ := exists_outline_cons v rest
    rw [hbehind]
    exact (decide_eq_true (List.mem_cons_of_mem _ List.mem_cons_self)).symm
  | case5 tok toks hkey hone ih =>
    have hkey := Bool.eq_false_of_not_eq_true hkey
    rw [legible_other hkey hone] at h
    rw [scan_other hkey hone, outline_other hkey, decide_eq_false hone]
    exact (ih h).trans (decide_mem_cons_of_ne (Option.some_ne_none tok).symm).symm

/-- Only a `key-string` opens a block. -/
theorem mem_of_inKeyBlock_scan (h : (scan toks).inKeyBlock = true) :
    "key-string".toList ∈ toks := by
  induction toks using scan.induct with
  | case1 => cases h
  | case2 tok toks hkey =>
    rw [scan_keyword hkey] at h
    rw [← decide_eq_true_iff.mp h]
    exact List.mem_cons_self
  | case3 tok hone hkey => rw [scan_community_end hone] at h; cases h
  | case4 tok hone v rest hkey ih =>
    rw [scan_community hone] at h
    exact List.mem_cons_of_mem _ (List.mem_cons_of_mem _ (ih h))
  | case5 tok toks hkey hone ih =>
    rw [scan_other (Bool.eq_false_of_not_eq_true hkey) hone] at h
    exact List.mem_cons_of_mem _ (ih h)

theorem keyString_not_type : isEncryptionType "key-string" = false := by decide

theorem keyString_not_mem_typeMarker (toks : List Text) :
    "key-string".toList ∉ typeMarker toks := by
  unfold typeMarker
  split
  · split
    · rename_i hty
      rw [List.mem_singleton]
      rintro rfl
      rw [keyString_not_type] at hty
      cases hty
    · exact List.not_mem_nil
  · exact List.not_mem_nil

/-- No `key-string` is shown behind a keyword. -/
theorem keyString_not_mem_outline (toks : List Text) : some "key-string".toList ∉
    (typeMarker toks).map some ++ if toks.isEmpty then [] else [none] := by
  intro hmem
  rcases List.mem_append.mp hmem with hmem | hmem
  · obtain ⟨w, hw, heq⟩ := List.mem_map.mp hmem
    rw [Option.some.inj heq] at hw
    exact keyString_not_mem_typeMarker toks hw
  · split at hmem
    · cases hmem
    · cases List.mem_singleton.mp hmem

theorem inKeyBlock_scan (h : legible toks = true) :
    (scan toks).inKeyBlock = decide (some "key-string".toList ∈ outline false toks) := by
  induction toks using scan.induct with
  | case1 => rfl
  | case2 tok toks hkey =>
    rw [scan_keyword hkey, outline_keyword hkey, keepKeyword]
    refine decide_eq_decide.mpr ⟨fun heq => heq ▸ List.mem_cons_self, fun hmem => ?_⟩
    rcases List.mem_cons.mp hmem with heq | hmem
    · exact (Option.some.inj heq).symm
    · exact absurd hmem (keyString_not_mem_outline toks)
  | case3 tok hone hkey =>
    rw [scan_community_end hone, outline_community hone]
    obtain rfl := List.mem_singleton.mp hone
    decide
  | case4 tok hone v rest hkey ih =>
    rw [scan_community hone, outline_community hone]
    have htok : some "key-string".toList ≠ if false = true then none else some tok := by
      obtain rfl := List.mem_singleton.mp hone
      decide
    rw [decide_mem_cons_of_ne htok]
    cases rest with
    | nil =>
      rw [outline_true_singleton]
      rfl
    | cons w rest =>
      rcases legible_tail hone h with ⟨hv, hvalues⟩ | ⟨hv, hmasked, hrest⟩
      · -- Nothing but masked values stands behind a keyword here.
        have hwords : "key-string".toList ∉ w :: rest := by
          rw [← typeMarker_append_values (w :: rest), hvalues, List.mem_append, List.mem_singleton]
          exact not_or_intro (keyString_not_mem_typeMarker _) (by decide)
        rw [← List.head?_cons (a := w) (l := rest)] at hv
        rw [outline_keyword hv]
        have hopen : (scan (w :: rest)).inKeyBlock = false := by
          by_contra hopen
          exact hwords (mem_of_inKeyBlock_scan (Bool.eq_true_of_not_eq_false hopen))
        exact hopen.trans (decide_eq_false fun hmem =>
          (List.mem_cons.mp hmem).elim (Option.some_ne_none _) (keyString_not_mem_outline _)).symm
      · rw [outline_other hv]
        by_cases hcommunity : v ∈ secretOneToken
        · obtain rfl := hmasked hcommunity
          obtain ⟨behind, hbehind⟩ := exists_outline_cons redacted rest
          rw [decide_eq_true hcommunity, hbehind]
          have hne : some "key-string".toList ≠ if false = true then
            none else some redacted := by decide
          rw [hbehind, decide_mem_cons_of_ne hne] at ih
          exact (ih hrest).trans ((decide_mem_cons_of_ne (Option.some_ne_none _)).trans
            (decide_mem_cons_of_ne (Option.some_ne_none _))).symm
        · rw [decide_eq_false hcommunity]
          exact (ih hrest).trans (decide_mem_cons_of_ne (Option.some_ne_none _)).symm
  | case5 tok toks hkey hone ih =>
    have hkey := Bool.eq_false_of_not_eq_true hkey
    rw [legible_other hkey hone] at h
    rw [scan_other hkey hone, outline_other hkey, decide_eq_false hone]
    have hne : some "key-string".toList ≠ if false = true then none else some tok := by
      intro heq
      obtain rfl := Option.some.inj heq
      unfold restOfLineIsSecret at hkey
      rw [decide_eq_true (by decide)] at hkey
      cases hkey
    exact (ih h).trans (decide_mem_cons_of_ne hne).symm

/-! ### A line -/

variable {b : Bool} {line : Text}

theorem indentOf_eq (line : Text) : indentOf line = line.takeWhile isWhitespace := by
  have hlen := congrArg List.length (List.takeWhile_append_dropWhile (p :=
    isWhitespace) (l := line))
  rw [List.length_append] at hlen
  rw [indentOf, trimStart, show line.length - (line.dropWhile isWhitespace).length =
    (line.takeWhile isWhitespace).length by omega]
  exact List.prefix_iff_eq_take.mp (List.takeWhile_prefix _) |>.symm

theorem isWhitespace_of_mem_indentOf {c : Char} (h : c ∈ indentOf line) :
    isWhitespace c = true := by
  rw [indentOf_eq] at h
  exact List.mem_takeWhile_imp h

/-- Whitespace before a text that starts with a word. -/
theorem trimStart_append {a s : Text} (ha : ∀ c ∈ a, isWhitespace c = true)
    (hs : ∀ c, s.head? = some c → isWhitespace c = false) : trimStart (a ++ s) = s := by
  rw [trimStart, List.dropWhile_append_of_pos ha]
  cases s with
  | nil => rfl
  | cons c s => exact List.dropWhile_cons_of_neg (by rw [hs c rfl]; decide)

theorem trimStart_indent {s : Text} (hs : ∀ c, s.head? = some c → isWhitespace c = false) :
    trimStart (indentOf line ++ s) = s :=
  trimStart_append (fun _ hc => isWhitespace_of_mem_indentOf hc) hs

theorem indentOf_indent {s : Text} (hs : ∀ c, s.head? = some c → isWhitespace c = false) :
    indentOf (indentOf line ++ s) = indentOf line := by
  rw [indentOf, trimStart_indent hs, List.length_append, Nat.add_sub_cancel, List.take_left']
  rfl

theorem trim_indent {ws : List Text} (h : ∀ w ∈ ws, IsWord w) :
    trim (indentOf line ++ unwords ws) = unwords ws := by
  have htrim := trim_unwords h
  have hstart : trimStart (unwords ws) = unwords ws :=
    trimStart_append (List.forall_mem_nil _) (head?_unwords h)
  rw [trim, hstart] at htrim
  rw [trim, trimStart_indent (head?_unwords h), htrim]

theorem splitWhitespace_indent {ws : List Text} (h : ∀ w ∈ ws, IsWord w) :
    splitWhitespace (indentOf line ++ unwords ws) = ws := by
  rw [← splitWhitespace_trim, trim_indent h, splitWhitespace_unwords h]

theorem isWord_redacted : IsWord redacted := by decide

theorem isWord_of_mem_kept {w : Text} (h : w ∈ (scan (splitWhitespace line)).kept) : IsWord w := by
  rcases mem_kept_scan h with h | rfl
  · exact isWord_of_mem_splitWhitespace h
  · exact isWord_redacted

/-- The terminator of a block holds no keyword. -/
theorem scan_terminator (h : trim line ∈ terminators) :
    scan (splitWhitespace line) = { kept := splitWhitespace line } := by
  have hall : ∀ t ∈ terminators, scan (splitWhitespace t) =
    { kept := splitWhitespace t } := by decide
  rw [← splitWhitespace_trim]
  exact hall _ h

theorem redactLine_of_inside (h : inside b line = true) :
    redactLine line b = (if trim line = [] then line else indentOf line ++ redacted, true) :=
      if_pos h

theorem redactLine_of_not_inside (h : inside b line = false) : redactLine line b =
    (if (scan (splitWhitespace line)).redactedAnything then
      indentOf line ++ unwords (scan (splitWhitespace line)).kept
      else line, (scan (splitWhitespace line)).inKeyBlock) := by
  rw [redactLine, ← inside, h, if_neg (by decide), splitWhitespace_trim]
  split
  · rename_i hends
    rw [scan_terminator (decide_eq_true_iff.mp ((Bool.and_eq_true _ _).mp hends).2)]
    rfl
  · rfl

/-- The words of a line as it is shown are those the scanner kept. -/
theorem splitWhitespace_redactLine (h : inside b line = false) :
    splitWhitespace (redactLine line b).1 = (scan (splitWhitespace line)).kept := by
  rw [redactLine_of_not_inside h]
  cases hredacted : (scan (splitWhitespace line)).redactedAnything with
  | true => exact splitWhitespace_indent fun w hw => isWord_of_mem_kept hw
  | false => exact (kept_scan_of_not_redacted hredacted).symm

theorem lineOutline_of_inside (h : inside b line = true) :
    lineOutline b line = if trim line = [] then [] else [none] := if_pos h

theorem lineOutline_of_not_inside (h : inside b line = false) :
    lineOutline b line = outline false (splitWhitespace line) := if_neg (by rw [h]; decide)

theorem unwords_redacted : unwords [redacted] = redacted := rfl

/-- **A line is shown as it should be exactly if it is legible.** -/
theorem shows_redactLine_iff :
    Shows (b, line) (redactLine line b).1 ↔
      (inside b line = false → legible (splitWhitespace line) = true) := by
  cases hinside : inside b line with
  -- inside a secret block the whole line is masked, and a blank line is left
  | true =>
    refine iff_of_true ?_ nofun
    rw [redactLine_of_inside hinside]
    by_cases hblank : trim line = []
    · refine ⟨?_, fun _ => if_pos hblank⟩
      rw [if_pos hblank, lineOutline_of_inside hinside, if_pos hblank, trim_eq_nil.mp hblank]
      rfl
    · rw [if_neg hblank]
      refine ⟨?_, fun hnone => absurd ?_ hnone⟩
      · rw [lineOutline_of_inside hinside, if_neg hblank, ← unwords_redacted,
          splitWhitespace_indent (List.forall_mem_singleton.mpr isWord_redacted)]
        rfl
      · rw [lineOutline_of_inside hinside, if_neg hblank]
        exact List.mem_singleton_self none
  | false =>
    refine Iff.trans ?_ (forall_prop_of_true rfl).symm
    rw [← kept_scan_eq_shown]
    constructor
    · intro h
      rw [← splitWhitespace_redactLine hinside, h.words, lineOutline_of_not_inside hinside]
    · intro h
      refine ⟨by rw [splitWhitespace_redactLine hinside, h, lineOutline_of_not_inside hinside],
        fun hnone => ?_⟩
      rw [lineOutline_of_not_inside hinside] at hnone
      rw [redactLine_of_not_inside hinside, redactedAnything_scan ((kept_scan_eq_shown _).mp h),
        decide_eq_false hnone]
      rfl

/-- A block is open behind a legible line as its outline says. -/
theorem inKeyBlock_redactLine (h : inside b line = false → legible (splitWhitespace line) = true) :
    (redactLine line b).2 = blockAfter b line := by
  cases hinside : inside b line with
  | true => rw [redactLine_of_inside hinside, blockAfter, hinside, Bool.true_or]
  | false =>
    rw [redactLine_of_not_inside hinside, blockAfter, hinside, Bool.false_or,
      lineOutline_of_not_inside hinside, inKeyBlock_scan (h hinside)]

theorem inside_eq_true : inside b line = true ↔ b = true ∧ closesBlock line = false := by
  rw [inside, Bool.and_eq_true, Bool.not_eq_true']

theorem closesBlock_eq_false : closesBlock line = false ↔
    trim line ∉ terminators ∧ (trim line ≠ [] → (indentOf line).isEmpty = false) := by
  rw [closesBlock, Bool.or_eq_false_iff, decide_eq_false_iff_not, Bool.and_eq_false_imp,
    decide_eq_true_iff]

theorem inside_masked (h : inside b line = true) (hblank : trim line ≠ []) :
    inside b (indentOf line ++ redacted) = true := by
  obtain ⟨hb, hcloses⟩ := inside_eq_true.mp h
  have hword : ∀ w ∈ [redacted], IsWord w := List.forall_mem_singleton.mpr isWord_redacted
  rw [← unwords_redacted]
  refine inside_eq_true.mpr ⟨hb, closesBlock_eq_false.mpr ⟨?_, fun _ => ?_⟩⟩
  · rw [trim_indent hword]
    decide
  · rw [indentOf_indent (head?_unwords hword)]
    exact (closesBlock_eq_false.mp hcloses).2 hblank

theorem inside_kept (h : inside b line = false)
    (hredacted : (scan (splitWhitespace line)).redactedAnything = true) :
    inside b (indentOf line ++ unwords (scan (splitWhitespace line)).kept) = false := by
  have hwords : ∀ w ∈ (scan (splitWhitespace line)).kept, IsWord w :=
    fun w hw => isWord_of_mem_kept hw
  by_contra hinside
  obtain ⟨rfl, hcloses⟩ := inside_eq_true.mp (Bool.eq_true_of_not_eq_false hinside)
  obtain ⟨-, hindent⟩ := closesBlock_eq_false.mp hcloses
  rw [indentOf_indent (head?_unwords hwords)] at hindent
  have hkept : (scan (splitWhitespace line)).kept ≠ [] :=
    List.ne_nil_of_mem (redacted_mem_kept hredacted)
  have hindented := hindent fun hnil =>
    hkept (by rw [← splitWhitespace_indent hwords, trim_eq_nil.mp hnil])
  -- The line was not indented, or else it would have been inside.
  refine Bool.false_ne_true (h.symm.trans
    (inside_eq_true.mpr ⟨rfl, closesBlock_eq_false.mpr ⟨fun hends => ?_, fun _ => hindented⟩⟩))
  rw [scan_terminator hends] at hredacted
  cases hredacted

/-- **A line that was redacted is redacted to itself**, and leaves the same block open. -/
theorem redactLine_redactLine (line : Text) (b : Bool) :
    redactLine (redactLine line b).1 b = redactLine line b := by
  cases hinside : inside b line with
  | true =>
    by_cases hblank : trim line = []
    · have hsame : (redactLine line b).1 =
        line := by rw [redactLine_of_inside hinside, if_pos hblank]
      rw [hsame]
    · have hword : ∀ w ∈ [redacted], IsWord w := List.forall_mem_singleton.mpr isWord_redacted
      have hmarked : trim (indentOf line ++ redacted) ≠ [] := by
        rw [← unwords_redacted, trim_indent hword]
        decide
      have hindent : indentOf (indentOf line ++ redacted) = indentOf line :=
        indentOf_indent (head?_unwords hword)
      rw [redactLine_of_inside hinside, if_neg hblank]
      dsimp only
      rw [redactLine_of_inside (inside_masked hinside hblank), if_neg hmarked, hindent]
  | false =>
    cases hredacted : (scan (splitWhitespace line)).redactedAnything with
    | true =>
      have hwords : ∀ w ∈ (scan (splitWhitespace line)).kept, IsWord w :=
        fun w hw => isWord_of_mem_kept hw
      rw [redactLine_of_not_inside hinside, hredacted, if_pos rfl]
      dsimp only
      rw [redactLine_of_not_inside (inside_kept hinside hredacted), splitWhitespace_indent hwords,
        scan_kept, hredacted, if_pos rfl, indentOf_indent (head?_unwords hwords)]
    | false =>
      -- nothing was redacted, so the line is what it was
      have hsame : (redactLine line b).1 = line := by
        rw [redactLine_of_not_inside hinside, hredacted]
        rfl
      rw [hsame]

/-- What is shown of a legible line is told by its indent and its outline. -/
theorem redactLine_of_legible (h : inside b line = false → legible (splitWhitespace line) = true) :
    redactLine line b =
    (if none ∈ lineOutline b line then indentOf line ++ unwords (shown (lineOutline b line))
      else line,
      blockAfter b line) := by
  refine Prod.ext ?_ (inKeyBlock_redactLine h)
  cases hinside : inside b line with
  | true =>
    rw [redactLine_of_inside hinside, lineOutline_of_inside hinside]
    by_cases hblank : trim line = []
    · rw [if_pos hblank, if_pos hblank, if_neg List.not_mem_nil]
    · rw [if_neg hblank, if_neg hblank, if_pos (List.mem_singleton_self none)]
      rfl
  | false =>
    rw [redactLine_of_not_inside hinside, lineOutline_of_not_inside hinside,
      redactedAnything_scan (h hinside), (kept_scan_eq_shown _).mpr (h hinside)]
    dsimp only
    by_cases hnone : none ∈ outline false (splitWhitespace line)
    · rw [decide_eq_true hnone, if_pos rfl, if_pos hnone]
    · rw [decide_eq_false hnone, if_neg hnone, if_neg (by decide)]

/-- A line in a block is told by its outline. -/
theorem inside_eq_decide (h : none ∈ lineOutline b line) :
    inside b line = decide (lineOutline b line = [none]) := by
  cases hinside : inside b line with
  | true =>
    rw [lineOutline_of_inside hinside] at h ⊢
    split at h
    · cases h
    · rename_i hblank
      rw [if_neg hblank]
      rfl
  | false =>
    rw [lineOutline_of_not_inside hinside]
    cases hwords : splitWhitespace line with
    | nil => rfl
    | cons w ws =>
      obtain ⟨behind, hbehind⟩ := exists_outline_cons w ws
      rw [hbehind]
      exact (decide_eq_false fun hsame => Option.some_ne_none w (List.cons_eq_cons.mp hsame).1).symm

theorem redactLine_congr {line' : Text}
    (h : inside b line = false → legible (splitWhitespace line) = true)
    (h' : inside b line' = false → legible (splitWhitespace line') = true)
    (hindent : indentOf line = indentOf line')
    (hnone : none ∈ lineOutline b line) (hsame : lineOutline b line = lineOutline b line') :
    (redactLine line b).1 = (redactLine line' b).1 ∧ blockAfter b line = blockAfter b line' := by
  have hnone' : none ∈ lineOutline b line' := hsame ▸ hnone
  rw [redactLine_of_legible h, redactLine_of_legible h']
  dsimp only
  rw [if_pos hnone, if_pos hnone', hindent, hsame, blockAfter, blockAfter, inside_eq_decide hnone,
    inside_eq_decide hnone', hsame]
  exact ⟨rfl, rfl⟩

/-! ### A text -/

theorem newline_not_mem_redactLine (h : '\n' ∉ line) : '\n' ∉ (redactLine line b).1 := by
  have hindent : '\n' ∉ indentOf line := fun hmem => h (List.mem_of_mem_take hmem)
  have hmark : '\n' ∉ redacted := by decide
  cases hinside : inside b line with
  | true =>
    rw [redactLine_of_inside hinside]
    dsimp only
    split
    · exact h
    · exact fun hmem => (List.mem_append.mp hmem).elim hindent hmark
  | false =>
    rw [redactLine_of_not_inside hinside]
    dsimp only
    split
    · intro hmem
      rcases List.mem_append.mp hmem with hmem | hmem
      · exact hindent hmem
      · rcases mem_unwords hmem with heq | ⟨w, hw, hmem⟩
        · cases heq
        · rcases mem_kept_scan hw with hw | rfl
          · exact h (mem_of_mem_splitWhitespace hw hmem)
          · exact hmark hmem
    · exact h

theorem newline_not_mem_redactLines {ls : List Text} (h : ∀ line ∈ ls, '\n' ∉ line) :
    ∀ out ∈ redactLines b ls, '\n' ∉ out := by
  induction ls generalizing b with
  | nil => exact List.forall_mem_nil _
  | cons line ls ih =>
    obtain ⟨hline, hls⟩ := List.forall_mem_cons.mp h
    exact List.forall_mem_cons.mpr ⟨newline_not_mem_redactLine hline, ih hls⟩

theorem newline_not_mem_splitOn {text : Text} : ∀ line ∈ text.splitOn '\n', '\n' ∉ line := by
  intro line hline hmem
  rw [List.splitOn_eq_splitOnP] at hline
  have hno := (of_mem_splitOnP hline _ hmem).2
  simp at hno

/-- The lines of a redaction are those of the text, redacted. -/
theorem splitOn_redactDeviceOutput (text : Text) :
    (redactDeviceOutput text).splitOn '\n' = redactLines false (text.splitOn '\n') := by
  obtain ⟨line, ls, hsplit⟩ := List.exists_cons_of_ne_nil (List.splitOn_ne_nil '\n' text)
  refine List.splitOn_intercalate '\n' (newline_not_mem_redactLines newline_not_mem_splitOn) ?_
  rw [hsplit]
  exact List.cons_ne_nil _ _

theorem redactLines_redactLines (b : Bool) (ls : List Text) :
    redactLines b (redactLines b ls) = redactLines b ls := by
  induction ls generalizing b with
  | nil => rfl
  | cons line ls ih => rw [redactLines, redactLines, redactLine_redactLine, ih]

theorem redactDeviceOutput_redactDeviceOutput (text : Text) :
    redactDeviceOutput (redactDeviceOutput text) = redactDeviceOutput text := by
  rw [redactDeviceOutput, splitOn_redactDeviceOutput, redactLines_redactLines, ← redactDeviceOutput]

/-- **The lines of a text are shown as they should be exactly if those outside the blocks are
legible.** -/
theorem shows_redactLines_iff (b : Bool) (ls : List Text) :
    List.Forall₂ Shows (withBlocks b ls) (redactLines b ls) ↔
      ∀ p ∈ withBlocks b ls, inside p.1 p.2 = false → legible (splitWhitespace p.2) = true := by
  induction ls generalizing b with
  | nil => exact iff_of_true .nil (List.forall_mem_nil _)
  | cons line ls ih =>
    rw [withBlocks, redactLines, List.forall₂_cons, List.forall_mem_cons, shows_redactLine_iff]
    -- Up to the first line that is not legible, the scanner knows which blocks are open.
    refine and_congr_right fun hline => ?_
    rw [inKeyBlock_redactLine hline]
    exact ih _

/-- **Texts that differ only in their secrets are shown alike**, if they are legible. -/
theorem redactLines_congr {b : Bool} {ls ls' : List Text} (hsame : SameButSecrets b ls ls')
    (h : ∀ p ∈ withBlocks b ls, inside p.1 p.2 = false → legible (splitWhitespace p.2) = true)
    (h' : ∀ p ∈ withBlocks b ls', inside p.1 p.2 = false → legible (splitWhitespace p.2) = true) :
    redactLines b ls = redactLines b ls' := by
  induction ls generalizing b ls' with
  | nil =>
    cases ls' with
    | nil => rfl
    | cons => exact hsame.elim
  | cons line ls ih =>
    cases ls' with
    | nil => exact hsame.elim
    | cons line' ls' =>
      obtain ⟨hline, hls⟩ := hsame
      obtain ⟨hlegible, hrest⟩ := List.forall_mem_cons.mp h
      obtain ⟨hlegible', hrest'⟩ := List.forall_mem_cons.mp h'
      obtain ⟨hout, hblock⟩ : (redactLine line b).1 = (redactLine line' b).1 ∧
        blockAfter b line = blockAfter b line' := by
        rcases hline with rfl | ⟨hindent, hnone, houtline⟩
        · exact ⟨rfl, rfl⟩
        · exact redactLine_congr hlegible hlegible' hindent hnone houtline
      rw [← hblock] at hrest'
      rw [redactLines, redactLines, hout, inKeyBlock_redactLine hlegible,
        inKeyBlock_redactLine hlegible', ← hblock, ih hls hrest hrest']

theorem masks_iff (text : Text) : Masks text ↔ Legible text := by
  rw [Masks, splitOn_redactDeviceOutput]
  exact shows_redactLines_iff false _

/-- The excerpt shows pieces of the lines of the redaction. -/
theorem exists_of_mem_diagnosticExcerpt {text piece : Text}
    (h : piece ∈ (diagnosticExcerpt text).splitOn '\n') :
    ∃ line ∈ (redactDeviceOutput text).splitOn '\n', piece <:+: line := by
  have hline : ∀ out ∈ ((lines (redactDeviceOutput text)).reverse.take 8).reverse,
      ∃ line ∈ (redactDeviceOutput text).splitOn '\n', out <+: line := fun out hout =>
    exists_of_mem_lines (List.mem_reverse.mp (List.mem_of_mem_take (List.mem_reverse.mp hout)))
  obtain ⟨whole, hwhole, hsuffix⟩ := exists_suffix_of_mem_splitOn (List.drop_suffix _ _) h
  generalize ((lines (redactDeviceOutput text)).reverse.take 8).reverse = last at hline hwhole
  obtain ⟨first, rest, hsplit⟩ :=
    List.exists_cons_of_ne_nil (List.splitOn_ne_nil '\n' (redactDeviceOutput text))
  by_cases hnil : last = []
  · -- Nothing is shown of an empty redaction.
    subst hnil
    obtain rfl : whole = [] := by simpa using hwhole
    rw [List.suffix_nil.mp hsuffix, hsplit]
    exact ⟨first, List.mem_cons_self, List.nil_infix⟩
  · rw [List.splitOn_intercalate '\n' ?_ hnil] at hwhole
    · obtain ⟨line, hmem, hpre⟩ := hline whole hwhole
      exact ⟨line, hmem, hsuffix.isInfix.trans hpre.isInfix⟩
    · intro out hout hmem
      obtain ⟨line, hline, hpre⟩ := hline out hout
      exact newline_not_mem_splitOn line hline (hpre.subset hmem)

/-- **The redaction does what it is for exactly on the texts whose lines are legible.** -/
theorem redacts_iff (text text' : Text) : Redacts text text' ↔ Legible text ∧ Legible text' := by
  constructor
  · intro h
    exact ⟨(masks_iff text).mp h.masks.1, (masks_iff text').mp h.masks.2⟩
  · rintro ⟨h, h'⟩
    refine ⟨⟨(masks_iff text).mpr h, (masks_iff text').mpr h'⟩, fun hsame => ?_,
      redactDeviceOutput_redactDeviceOutput text, fun piece hpiece =>
      exists_of_mem_diagnosticExcerpt hpiece⟩
    rw [redactDeviceOutput, redactDeviceOutput, redactLines_congr hsame h h']

/-- A password of one digit is taken for a type, and shown. -/
def digitPassword : Text := "neighbor 192.0.2.1 password 7"

theorem not_redacts_digitPassword : ¬Redacts digitPassword digitPassword := by
  intro h
  have hlegible : ¬Legible digitPassword := by decide +kernel
  exact hlegible ((masks_iff digitPassword).mp h.masks.1)

end Rerouter.Redaction
