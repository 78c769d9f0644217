import Mathlib.Data.List.Forall2
import Rerouter.CidrAlgebra

/-!
# What a template renders to

`reroute/templates.rs`, the way from the values of a caller to the commands that are sent. A text
of a template is taken apart once, into the characters it keeps and the parameters in braces
(`Rerouter.pieces`), and nothing that is put into it is looked at again
(`Rerouter.substitute_eq_ok`): a brace in a value stays a brace.

Nobody can say more in a command than its template says. A value is a single word, and a text
whose parameters are words keeps the number of its words when they are filled in
(`Rerouter.wordStarts_fill`). What a schema asks of a value is asked of the one that is
put in: the parameters are taken in the order of their names, and a value derived from a network
(`X_net`, `X_mask`, `X_len`) stands behind the name it is derived from, so that no other parameter
writes over the value of a parameter (`Rerouter.getElem?_own`), and over a derived one only the
parameter of that name does (`Rerouter.getElem?_derived`).

`Rerouter.render_rendered` puts this together. Three things are not so: `prior_route_map` may be
given to every template, a parameter whose name has a blank in it is two words of its template, and
the parameter `X_net` of a schema takes the place of what is derived from `X`.
-/

namespace Rerouter

open Text

/-! ### The words of a text, counted from the left -/

/-- How many words start in a text, inside a word or not. -/
def wordStarts : Bool → Text → ℕ
  | _, [] => 0
  | inside, c :: s =>
    if isWhitespace c then wordStarts false s
    else (if inside then 0 else 1) + wordStarts true s

theorem wordStarts_splitOnP (s : Text) :
    wordStarts false s = ((s.splitOnP isWhitespace).filter (· ≠ [])).length ∧
      wordStarts true s = ((s.splitOnP isWhitespace).tail.filter (· ≠ [])).length := by
  induction s with
  | nil => exact ⟨rfl, rfl⟩
  | cons c s ih =>
    obtain ⟨hout, hin⟩ := ih
    obtain ⟨first, pieces, hsplit⟩ :=
      List.exists_cons_of_ne_nil (List.splitOnP_ne_nil isWhitespace s)
    rw [List.splitOnP_cons_eq_if_modifyHead]
    rw [hsplit] at hout hin ⊢
    cases hc : isWhitespace c with
    | true =>
      rw [wordStarts, wordStarts, hc, if_pos rfl, if_pos rfl, if_pos rfl, hout]
      exact ⟨rfl, rfl⟩
    | false =>
      have hne : ¬false = true := by decide
      rw [wordStarts, wordStarts, hc, if_neg hne, if_neg hne, if_neg hne, hin, List.modifyHead_cons,
        List.tail_cons, List.tail_cons, List.filter_cons_of_pos (by simp), List.length_cons]
      exact ⟨Nat.add_comm _ _, Nat.zero_add _⟩

theorem length_splitWhitespace (s : Text) : (splitWhitespace s).length = wordStarts false s :=
  (wordStarts_splitOnP s).1.symm

/-- A word starts at most one, and ends inside it. -/
theorem wordStarts_append_of_isWord {w : Text} (hw : IsWord w) (inside : Bool) (s : Text) :
    wordStarts inside (w ++ s) = (if inside then 0 else 1) + wordStarts true s := by
  obtain ⟨hne, hws⟩ := hw
  induction w generalizing inside with
  | nil => exact absurd rfl hne
  | cons c w ih =>
    have hc : ¬isWhitespace c = true := by simp [hws c List.mem_cons_self]
    rw [List.cons_append, wordStarts, if_neg hc]
    cases w with
    | nil => rfl
    | cons d w =>
      rw [ih true (by simp) fun a ha => hws a (List.mem_cons_of_mem c ha)]
      simp

/-! ### The pieces of a text -/

/-- A piece of a text of a template: a character, or a parameter in braces. -/
inductive Piece where
  | char (c : Char)
  | param (key : Text)
deriving DecidableEq

/-- What a piece is in the template. -/
def Piece.source : Piece → Text
  | .char c => [c]
  | .param key => '\x7b' :: (key ++ ['\x7d'])

/-- What is sent for a piece. -/
def Piece.filled (subst : NameMap Text) : Piece → Text
  | .char c => [c]
  | .param key => subst[key]?.getD []

/-- The pieces of a text, behind an open brace if there is a key, and else outside. -/
def piecesFrom : Option Text → Text → Option (List Piece)
  | none, [] => some []
  | some _, [] => none
  | none, c :: cs =>
    if c = '\x7b' then piecesFrom (some []) cs
    else (piecesFrom none cs).map (Piece.char c :: ·)
  | some key, c :: cs =>
    if c = '\x7d' then (piecesFrom none cs).map (Piece.param key :: ·)
    else piecesFrom (some (key ++ [c])) cs

/-- The pieces of a text of a template. -/
def pieces (text : Text) : Option (List Piece) := piecesFrom none text

/-- The parameters a text of a template has in braces. -/
def keys (text : Text) : List Text :=
  ((pieces text).getD []).filterMap fun
    | .char _ => none
    | .param key => some key

variable {schema : Schema} {params : Params} {subst : NameMap Text} {name key value text out : Text}
  {spec : ParamSpec} {ps : List Piece}

theorem mem_keys (h : pieces text = some ps) : key ∈ keys text ↔ Piece.param key ∈ ps := by
  rw [keys, h, Option.getD_some, List.mem_filterMap]
  constructor
  · rintro ⟨p, hp, heq⟩
    cases p with
    | char c => cases heq
    | param k =>
      cases heq
      exact hp
  · intro hp
    exact ⟨_, hp, rfl⟩

/-- **The pieces of a text are all of it.** -/
theorem flatMap_source {key : Option Text} (h : piecesFrom key text = some ps) :
    ps.flatMap Piece.source = (key.elim [] fun k => '\x7b' :: k) ++ text := by
  induction text generalizing key ps with
  | nil =>
    cases key with
    | none =>
      cases h
      rfl
    -- inside braces the key is gathered, and its piece is written at the closing one
    | some k => cases h
  | cons c cs ih =>
    cases key with
    | none =>
      rw [piecesFrom] at h
      split_ifs at h with hc
      · rw [ih h, hc]
        rfl
      · obtain ⟨rest, hrest, rfl⟩ := Option.map_eq_some_iff.mp h
        rw [List.flatMap_cons, ih hrest]
        rfl
    | some k =>
      rw [piecesFrom] at h
      split_ifs at h with hc
      · obtain ⟨rest, hrest, rfl⟩ := Option.map_eq_some_iff.mp h
        rw [List.flatMap_cons, ih hrest, hc]
        simp [Piece.source]
      · rw [ih h]
        simp

/-- **A text is filled in piece by piece**, each piece once, and only if every parameter in it has a
value. -/
theorem substituteFrom_eq_ok {key : Option Text} : substituteFrom subst key text = .ok out ↔
    ∃ ps, piecesFrom key text = some ps ∧
      (∀ k, Piece.param k ∈ ps → ∃ value, subst[k]? = some value) ∧
      out = ps.flatMap (Piece.filled subst) := by
  induction text generalizing key out with
  | nil =>
    cases key with
    | none =>
      constructor
      · intro h
        cases h
        exact ⟨[], rfl, fun _ hk => absurd hk List.not_mem_nil, rfl⟩
      · rintro ⟨ps, hps, -, rfl⟩
        cases hps
        rfl
    | some k =>
      constructor
      · exact nofun
      · rintro ⟨ps, hps, -⟩
        cases hps
  | cons c cs ih =>
    cases key with
    | none =>
      rw [substituteFrom, piecesFrom]
      split_ifs with hc
      · exact ih
      · constructor
        · intro h
          obtain ⟨rest, hrest, h⟩ := bind_eq_ok.mp h
          obtain ⟨ps, hps, hvalues, rfl⟩ := ih.mp hrest
          refine ⟨.char c :: ps, by rw [hps, Option.map_some], fun k hk => ?_,
            (Except.ok.inj h).symm⟩
          exact hvalues k ((List.mem_cons.mp hk).resolve_left fun h => by cases h)
        · rintro ⟨ps, hps, hvalues, rfl⟩
          obtain ⟨rest, hrest, rfl⟩ := Option.map_eq_some_iff.mp hps
          exact bind_eq_ok.mpr ⟨_, ih.mpr ⟨rest, hrest,
            fun k hk => hvalues k (List.mem_cons_of_mem _ hk), rfl⟩, rfl⟩
    -- at the closing brace the key is looked up, once
    | some key =>
      rw [substituteFrom, piecesFrom]
      split_ifs with hc
      · constructor
        · intro h
          obtain ⟨value, hvalue, h⟩ := bind_eq_ok.mp h
          obtain ⟨rest, hrest, h⟩ := bind_eq_ok.mp h
          obtain ⟨ps, hps, hvalues, rfl⟩ := ih.mp hrest
          have hvalue := okOr_eq_ok.mp hvalue
          refine ⟨.param key :: ps, by rw [hps, Option.map_some], fun k hk => ?_, ?_⟩
          · rcases List.mem_cons.mp hk with heq | hk
            · cases heq
              exact ⟨value, hvalue⟩
            · exact hvalues k hk
          · rw [← Except.ok.inj h, List.flatMap_cons, Piece.filled, hvalue]
            rfl
        · rintro ⟨ps, hps, hvalues, rfl⟩
          obtain ⟨rest, hrest, rfl⟩ := Option.map_eq_some_iff.mp hps
          obtain ⟨value, hvalue⟩ := hvalues key List.mem_cons_self
          have hrest := ih.mpr ⟨rest, hrest, fun k hk => hvalues k (List.mem_cons_of_mem _ hk), rfl⟩
          refine bind_eq_ok.mpr ⟨value, okOr_eq_ok.mpr hvalue, bind_eq_ok.mpr ⟨_, hrest, ?_⟩⟩
          rw [List.flatMap_cons, Piece.filled, hvalue]
          rfl
      · exact ih

/-- **`substitute` fills in the pieces of a text.** -/
theorem substitute_eq_ok : substitute text subst = .ok out ↔
    ∃ ps, pieces text = some ps ∧ (∀ k, Piece.param k ∈ ps → ∃ value, subst[k]? = some value) ∧
      out = ps.flatMap (Piece.filled subst) :=
  substituteFrom_eq_ok

/-- **Words in the place of words**: the number of words stays. -/
theorem wordStarts_fill (hkeys : ∀ k, Piece.param k ∈ ps → NoWs k)
    (hvalues : ∀ k, Piece.param k ∈ ps → IsWord (subst[k]?.getD [])) (inside : Bool) :
    wordStarts inside (ps.flatMap (Piece.filled subst)) =
      wordStarts inside (ps.flatMap Piece.source) := by
  induction ps generalizing inside with
  | nil => rfl
  | cons p ps ih =>
    have ih := ih (fun k hk => hkeys k (List.mem_cons_of_mem p hk)) fun k hk =>
      hvalues k (List.mem_cons_of_mem p hk)
    rw [List.flatMap_cons, List.flatMap_cons]
    cases p with
    | char c =>
      change wordStarts inside (c :: ps.flatMap (Piece.filled subst)) =
        wordStarts inside (c :: ps.flatMap Piece.source)
      rw [wordStarts, wordStarts, ih, ih]
    | param k =>
      have hsource : IsWord (Piece.param k).source := by
        refine ⟨by simp [Piece.source], fun c hc => ?_⟩
        rcases List.mem_cons.mp hc with rfl | hc
        · rfl
        · rcases List.mem_append.mp hc with hc | hc
          · exact hkeys k List.mem_cons_self c hc
          · rw [List.mem_singleton.mp hc]
            rfl
      have hfilled : IsWord ((Piece.param k).filled subst) := hvalues k List.mem_cons_self
      rw [wordStarts_append_of_isWord hfilled, wordStarts_append_of_isWord hsource, ih]

/-- What a text of a template is to what is sent for it. -/
structure Filled (subst : NameMap Text) (text out : Text) : Prop where
  /-- It is the text with each parameter replaced, once. -/
  pieces : ∃ ps, pieces text = some ps ∧ ps.flatMap Piece.source = text ∧
    out = ps.flatMap (Piece.filled subst)
  /-- Every parameter in it has a value, and the value is a word. -/
  resolved : ∀ key ∈ keys text, ∃ value, subst[key]? = some value ∧ IsWord value
  /-- It has as many words. -/
  words : (∀ key ∈ keys text, NoWs key) →
    (splitWhitespace out).length = (splitWhitespace text).length

theorem filled_of_substitute (hwords : ∀ key value : Text, subst[key]? = some value → IsWord value)
    (h : substitute text subst = .ok out) : Filled subst text out := by
  obtain ⟨ps, hps, hvalues, rfl⟩ := substitute_eq_ok.mp h
  have hsource : ps.flatMap Piece.source = text := flatMap_source hps
  refine ⟨⟨ps, hps, hsource, rfl⟩, fun key hkey => ?_, fun hkeys => ?_⟩
  · obtain ⟨value, hvalue⟩ := hvalues key ((mem_keys hps).mp hkey)
    exact ⟨value, hvalue, hwords key value hvalue⟩
  · rw [length_splitWhitespace, length_splitWhitespace]
    conv_rhs => rw [← hsource]
    refine wordStarts_fill (fun k hk => hkeys k ((mem_keys hps).mpr hk)) (fun k hk => ?_) false
    obtain ⟨value, hvalue⟩ := hvalues k hk
    rw [hvalue]
    exact hwords k value hvalue

theorem forall₂_of_substituteAll (hwords : ∀ key value : Text, subst[key]? = some value →
      IsWord value)
    {texts outs : List Text} (h : substituteAll subst texts = .ok outs) :
    List.Forall₂ (Filled subst) texts outs := by
  induction texts generalizing outs with
  | nil =>
    cases h
    exact .nil
  | cons text texts ih =>
    obtain ⟨first, hfirst, h⟩ := bind_eq_ok.mp h
    obtain ⟨rest, hrest, h⟩ := bind_eq_ok.mp h
    cases h
    exact .cons (filled_of_substitute hwords hfirst) (ih hrest)

/-! ### Which value a parameter gets -/

/-- What stands behind the name of a network, in the names of what is derived from it. -/
def derivedSuffixes : List Text := ["_net", "_mask", "_len"]

/-- What reading JSON gives: the parameters of a schema in the order of their names, defaults that
are not empty (`Rerouter.ParamSpec.default`), and numbers that print as something. -/
structure WellRead (schema : Schema) (params : Params) : Prop where
  sorted : schema.Pairwise fun a b => a.1 < b.1
  defaults : ∀ s ∈ schema, s.2.default ≠ some []
  numbers : ∀ name printed : Text, params[name]? = some (.number printed) → printed ≠ []

theorem Expands.named (h : Expands name spec key value) :
    key = name ∨ ∃ suffix ∈ derivedSuffixes, key = name ++ suffix := by
  cases h with
  | ip _ _ => exact Or.inl rfl
  | asn _ _ _ => exact Or.inl rfl
  | int _ _ _ => exact Or.inl rfl
  | seq _ _ _ => exact Or.inl rfl
  | deferred _ => exact Or.inl rfl
  | string _ _ _ _ => exact Or.inl rfl
  | cidr4 _ a n _ hmem =>
    simp only [expandV4, List.mem_cons, List.not_mem_nil, or_false, Prod.mk.injEq] at hmem
    rcases hmem with ⟨rfl, -⟩ | ⟨rfl, -⟩ | ⟨rfl, -⟩ | ⟨rfl, -⟩
    · exact Or.inl rfl
    · exact Or.inr ⟨_, by simp [derivedSuffixes], rfl⟩
    · exact Or.inr ⟨_, by simp [derivedSuffixes], rfl⟩
    · exact Or.inr ⟨_, by simp [derivedSuffixes], rfl⟩
  | cidr6 _ a n _ hmem =>
    simp only [expandV6, List.mem_cons, List.not_mem_nil, or_false, Prod.mk.injEq] at hmem
    rcases hmem with ⟨rfl, -⟩ | ⟨rfl, -⟩ | ⟨rfl, -⟩
    · exact Or.inl rfl
    · exact Or.inr ⟨_, by simp [derivedSuffixes], rfl⟩
    · exact Or.inr ⟨_, by simp [derivedSuffixes], rfl⟩

/-- A derived name says what it is derived from. -/
theorem eq_of_append_suffix {a b s t : Text} (hs : s ∈ derivedSuffixes) (ht : t ∈ derivedSuffixes)
    (h : a ++ s = b ++ t) : a = b := by
  have hne : ∀ s ∈ derivedSuffixes, s ≠ [] := by decide
  have hlast : ∀ s ∈ derivedSuffixes, ∀ t ∈ derivedSuffixes, s.getLast? = t.getLast? →
    s = t := by decide
  have hend := congrArg List.getLast? h
  rw [List.getLast?_append_of_ne_nil _ (hne s hs), List.getLast?_append_of_ne_nil _ (hne t ht)]
    at hend
  obtain rfl := hlast s hs t ht hend
  exact List.append_cancel_right h

/-- A name never stands behind one that it is the beginning of. -/
theorem not_append_lt (a s : Text) : ¬a ++ s < a := List.le_append_left

/-- The names of the values of one parameter differ. -/
theorem nodup_of_expandParam {given : Option ParamValue} {here : List (Text × Text)}
    (h : expandParam name spec given = .ok here) : (here.map Prod.fst).Nodup := by
  -- the derived names of a network differ by their suffixes
  have hsuffixes : ∀ suffixes : List Text, suffixes.Nodup → (suffixes.map (name ++ ·)).Nodup :=
    fun suffixes hnodup => hnodup.map (List.append_right_injective name)
  have hone : ([name] : List Text).Nodup := List.nodup_singleton name
  have hvalue : ∀ provided, expandValue name spec provided = .ok here →
    (here.map Prod.fst).Nodup := by
    intro provided h
    unfold expandValue at h
    split at h
    · obtain ⟨ip, -, h⟩ := bind_eq_ok.mp h
      cases h
      exact hone
    · obtain ⟨n, -, h⟩ := bind_eq_ok.mp h
      split at h
      · cases h
      · cases h
        exact hone
    · obtain ⟨n, -, h⟩ := bind_eq_ok.mp h
      cases h
      exact hone
    · obtain ⟨n, -, h⟩ := bind_eq_ok.mp h
      split at h
      · cases h
        exact hone
      · cases h
    · obtain ⟨⟨net, n⟩, -, h⟩ := bind_eq_ok.mp h
      obtain ⟨-, -, h⟩ := bind_eq_ok.mp h
      cases h
      have hkeys := hsuffixes [[], "_net".toList, "_len".toList] (by decide)
      rwa [List.map_cons, List.append_nil] at hkeys
    · obtain ⟨⟨net, n⟩, -, h⟩ := bind_eq_ok.mp h
      obtain ⟨-, -, h⟩ := bind_eq_ok.mp h
      cases h
      have hkeys := hsuffixes [[], "_net".toList, "_mask".toList, "_len".toList] (by decide)
      rwa [List.map_cons, List.append_nil] at hkeys
    · split at h
      · cases h
      · split at h
        · cases h
        · cases h
          exact hone
  unfold expandParam at h
  split at h
  · exact hvalue _ h
  · split at h
    · cases h
      exact hone
    · split at h
      · cases h
      · cases h
        exact List.nodup_nil

/-- Of the values of a map, those of one parameter stand where no later one takes their place. -/
theorem getElem?_substOf_middle {front here back : List (Text × Text)}
    (hnodup : (here.map Prod.fst).Nodup)
    (hmem : (key, value) ∈ here) (hback : ∀ v ∈ back, v.1 ≠ key) :
    (substOf (front ++ (here ++ back)))[key]? = some value := by
  obtain ⟨before, after, rfl⟩ := List.append_of_mem hmem
  have hafter : ∀ v ∈ after, v.1 ≠ key := by
    rw [List.map_append, List.map_cons, List.nodup_append] at hnodup
    obtain ⟨hnot, -⟩ := List.nodup_cons.mp hnodup.2.1
    exact fun v hv heq => hnot (List.mem_map.mpr ⟨v, hv, heq⟩)
  have hsplit : front ++ (before ++ (key, value) :: after ++ back) =
      (front ++ before) ++ [(key, value)] ++ (after ++ back) := by simp
  rw [hsplit, getElem?_substOf_append, getElem?_substOf_concat]
  intro v hv
  exact (List.mem_append.mp hv).elim (hafter v) (hback v)

/-- **The values of a parameter**, and behind them only those of parameters with a greater name. -/
theorem exists_split_of_expandParams {values : List (Text × Text)}
    (hsorted : schema.Pairwise fun a b => a.1 < b.1)
    (hmem : (name, spec) ∈ schema) (h : expandParams params schema = .ok values) :
    ∃ front here back, values = front ++ (here ++ back) ∧
      expandParam name spec params[name]? = .ok here ∧
      ∀ v ∈ back, ∃ s ∈ schema, name < s.1 ∧
        (v.1 = s.1 ∨ ∃ suffix ∈ derivedSuffixes, v.1 = s.1 ++ suffix) := by
  obtain ⟨before, after, rfl⟩ := List.append_of_mem hmem
  obtain ⟨front, rest, -, hrest, rfl⟩ := expandParams_append h
  obtain ⟨here, hhere, hrest⟩ := bind_eq_ok.mp hrest
  obtain ⟨back, hback, hrest⟩ := bind_eq_ok.mp hrest
  cases hrest
  refine ⟨front, here, back, rfl, hhere, fun v hv => ?_⟩
  obtain ⟨name', spec', hafter, here', hhere', hv⟩ := exists_spec_of_expandParams hback hv
  have hless := (List.pairwise_cons.mp (List.pairwise_append.mp hsorted).2.1).1 (name',
    spec') hafter
  refine ⟨(name', spec'), ?_, hless, (expands_of_expandParam hhere' hv).named⟩
  exact List.mem_append_right _ (List.mem_cons_of_mem _ hafter)

theorem exists_values_of_validateAndExpand (h : validateAndExpand schema params = .ok subst) :
    unknownParam schema params = none ∧
      ∃ values, expandParams params schema = .ok values ∧ checkContained subst schema = .ok () ∧
        subst = substOf values := by
  unfold validateAndExpand at h
  split at h
  · cases h
  · rename_i hknown
    obtain ⟨values, hvalues, h⟩ := bind_eq_ok.mp h
    obtain ⟨⟨⟩, hcontained, h⟩ := bind_eq_ok.mp h
    cases h
    exact ⟨hknown, values, hvalues, hcontained, rfl⟩

variable {here : List (Text × Text)}

/-- **No other parameter writes over the value of a parameter.** -/
theorem getElem?_own (hsorted : schema.Pairwise fun a b => a.1 < b.1)
    (h : validateAndExpand schema params = .ok subst)
    (hmem : (name, spec) ∈ schema) (hhere : expandParam name spec params[name]? = .ok here)
    (hvalue : (name, value) ∈ here) : subst[name]? = some value := by
  obtain ⟨-, values, hvalues, -, rfl⟩ := exists_values_of_validateAndExpand h
  obtain ⟨front, here', back, rfl, hhere', hback⟩ :=
    exists_split_of_expandParams hsorted hmem hvalues
  obtain rfl : here = here' := Except.ok.inj (hhere.symm.trans hhere')
  refine getElem?_substOf_middle (nodup_of_expandParam hhere) hvalue fun v hv heq => ?_
  obtain ⟨s, -, hless, hkey | ⟨suffix, -, hkey⟩⟩ := hback v hv
  · rw [← hkey, heq] at hless
    exact List.lt_irrefl _ hless
  · rw [← heq, hkey] at hless
    exact not_append_lt _ _ hless

/-- **Over a derived value only the parameter of its name writes.** -/
theorem getElem?_derived (hsorted : schema.Pairwise fun a b => a.1 < b.1)
    (h : validateAndExpand schema params = .ok subst) (hmem : (name, spec) ∈ schema)
    (hhere : expandParam name spec params[name]? = .ok here) {suffix : Text}
    (hsuffix : suffix ∈ derivedSuffixes)
    (hvalue : (name ++ suffix, value) ∈ here) (hfree : ∀ spec, (name ++ suffix, spec) ∉ schema) :
    subst[name ++ suffix]? = some value := by
  obtain ⟨-, values, hvalues, -, rfl⟩ := exists_values_of_validateAndExpand h
  obtain ⟨front, here', back, rfl, hhere', hback⟩ :=
    exists_split_of_expandParams hsorted hmem hvalues
  obtain rfl : here = here' := Except.ok.inj (hhere.symm.trans hhere')
  refine getElem?_substOf_middle (nodup_of_expandParam hhere) hvalue fun v hv heq => ?_
  obtain ⟨s, hs, hless, hkey | ⟨t, ht, hkey⟩⟩ := hback v hv
  · refine hfree s.2 ?_
    rwa [← heq, hkey]
  · rw [hkey] at heq
    rw [eq_of_append_suffix ht hsuffix heq] at hless
    exact List.lt_irrefl _ hless

/-! ### The values are words -/

theorem ipv4_addrText_ne_nil (a : Ipv4.Addr) : Ipv4.addrText a ≠ [] := by
  intro h
  have hparse := Ipv4.parseAddr_addrText a
  rw [h] at hparse
  cases hparse

theorem ipv6_addrText_ne_nil (a : Ipv6.Addr) : Ipv6.addrText a ≠ [] :=
  List.ne_nil_of_mem (Ipv6.colon_mem_addrText a)

theorem paramText_ne_nil {given : Option ParamValue} {provided : Text}
    (hdefault : spec.default ≠ some [])
    (hnumber : ∀ printed, given = some (.number printed) → printed ≠ [])
    (h : paramText spec given = some provided) : provided ≠ [] := by
  have hdefault' : spec.default = some provided → provided ≠ [] :=
    fun heq hnil => hdefault (hnil ▸ heq)
  unfold paramText at h
  split at h
  · split at h
    · exact hdefault' h
    · rename_i htrim
      exact Option.some.inj h ▸ htrim
  · exact Option.some.inj h ▸ hnumber _ rfl
  · exact hdefault' h

theorem ne_nil_of_expandValue {provided : Text} (hne : provided ≠ [])
    (h : expandValue name spec provided = .ok here) (hmem : (key, value) ∈ here) : value ≠ [] := by
  cases expands_of_expandValue h hmem with
  | ip _ a => exact ipv4_addrText_ne_nil a
  | asn _ n => exact natText_ne_nil n
  | int _ n => exact natText_ne_nil n
  | seq _ n => exact natText_ne_nil n
  | deferred => decide
  | string htype v _ _ =>
    simp only [expandValue, htype] at h
    split_ifs at h with hws hallowed
    cases h
    exact (Prod.mk.inj (List.mem_singleton.mp hmem)).2 ▸ hne
  | cidr4 _ a n _ hmem =>
    simp only [expandV4, List.mem_cons, List.not_mem_nil, or_false, Prod.mk.injEq] at hmem
    rcases hmem with ⟨-, rfl⟩ | ⟨-, rfl⟩ | ⟨-, rfl⟩ | ⟨-, rfl⟩
    · simp
    · exact ipv4_addrText_ne_nil _
    · exact ipv4_addrText_ne_nil _
    · exact natText_ne_nil n
  | cidr6 _ a n _ hmem =>
    simp only [expandV6, List.mem_cons, List.not_mem_nil, or_false, Prod.mk.injEq] at hmem
    rcases hmem with ⟨-, rfl⟩ | ⟨-, rfl⟩ | ⟨-, rfl⟩
    · simp
    · exact ipv6_addrText_ne_nil _
    · exact natText_ne_nil n

/-- **What is put into a command is a word.** -/
theorem isWord_of_validateAndExpand (hread : WellRead schema params)
    (h : validateAndExpand schema params = .ok subst)
    (hget : subst[key]? = some value) : IsWord value := by
  refine ⟨?_, noWs_of_validateAndExpand h hget⟩
  obtain ⟨name, spec, hmem, here, hhere, hvalue⟩ := exists_spec_of_validateAndExpand h hget
  unfold expandParam at hhere
  split at hhere
  · rename_i provided htext
    have hne := paramText_ne_nil (hread.defaults _ hmem) (hread.numbers name) htext
    exact ne_nil_of_expandValue hne hhere hvalue
  · split at hhere
    · cases hhere
      rw [(Prod.mk.inj (List.mem_singleton.mp hvalue)).2]
      decide
    · split at hhere
      · cases hhere
      · cases hhere
        exact absurd hvalue List.not_mem_nil

/-! ### Networks and what is derived from them -/

/-- The length of a network. -/
def Network.length : Network → ℕ
  | .v4 _ length => length
  | .v6 _ length => length

/-- Whether a network is of the greater family. -/
def Network.isV6 : Network → Bool
  | .v4 _ _ => false
  | .v6 _ _ => true

/-- The text of its address. -/
def Network.netText : Network → Text
  | .v4 net _ => Ipv4.addrText net
  | .v6 net _ => Ipv6.addrText net

/-- What is put in for a network parameter. -/
def Network.values (name : Text) : Network → List (Text × Text)
  | .v4 net length => expandV4 name net length
  | .v6 net length => expandV6 name net length

/-- **The values of a parameter describe one network**: its own, and each derived one whose name is
not a parameter of the schema itself. -/
structure Describes (schema : Schema) (subst : NameMap Text) (name : Text)
    (N : Network) : Prop where
  text : subst[name]? = some N.text
  net : (∀ spec, (name ++ "_net", spec) ∉ schema) → subst[name ++ "_net".toList]? = some N.netText
  mask : ∀ net length, N = .v4 net length → (∀ spec, (name ++ "_mask", spec) ∉ schema) →
    subst[name ++ "_mask".toList]? = some (Ipv4.addrText (Ipv4.mask length))
  len : (∀ spec, (name ++ "_len", spec) ∉ schema) →
    subst[name ++ "_len".toList]? = some (natText N.length)

theorem enforceMinLen_eq_ok {length : ℕ} {minLen : Option ℕ} :
    enforceMinLen name length minLen = .ok () ↔ ∀ least, minLen = some least → least ≤ length := by
  cases minLen with
  | none => exact ⟨fun _ => nofun, fun _ => rfl⟩
  | some least =>
    rw [enforceMinLen]
    split_ifs with hless
    · refine ⟨nofun, fun h => ?_⟩
      have := h least rfl
      omega
    · refine ⟨fun _ least' h => ?_, fun _ => rfl⟩
      cases h
      omega

/-- What a text given for a network parameter is read as. -/
theorem exists_network_of_expandParam {v6 : Bool} (htype : spec.type = .cidr v6)
    {given : Option ParamValue}
    {provided : Text} (htext : paramText spec given = some provided)
    (h : expandParam name spec given = .ok here) :
    ∃ N, readCidr provided = some N ∧ N.isV6 = v6 ∧
      (∀ least, spec.minLen = some least → least ≤ N.length) ∧
      here = N.cut.values name := by
  rw [expandParam, htext] at h
  cases v6 with
  | true =>
    simp only [expandValue, htype] at h
    obtain ⟨⟨net, n⟩, hnet, h⟩ := bind_eq_ok.mp h
    obtain ⟨⟨⟩, hleast, h⟩ := bind_eq_ok.mp h
    obtain ⟨a, hread, rfl⟩ := parseCidrV6_eq_ok.mp (aboutParam_eq_ok.mp hnet)
    exact ⟨.v6 a n, hread, rfl, enforceMinLen_eq_ok.mp hleast, (Except.ok.inj h).symm⟩
  | false =>
    simp only [expandValue, htype] at h
    obtain ⟨⟨net, n⟩, hnet, h⟩ := bind_eq_ok.mp h
    obtain ⟨⟨⟩, hleast, h⟩ := bind_eq_ok.mp h
    obtain ⟨a, hread, rfl⟩ := parseCidrV4_eq_ok.mp (aboutParam_eq_ok.mp hnet)
    exact ⟨.v4 a n, hread, rfl, enforceMinLen_eq_ok.mp hleast, (Except.ok.inj h).symm⟩

theorem describes_of_validateAndExpand (hsorted : schema.Pairwise fun a b => a.1 < b.1)
    (h : validateAndExpand schema params = .ok subst) (hmem : (name, spec) ∈ schema) {N : Network}
    (hhere : expandParam name spec params[name]? = .ok (N.values name)) :
    Describes schema subst name N := by
  have hderived : ∀ suffix ∈ derivedSuffixes, ∀ value, (name ++ suffix, value) ∈ N.values name →
      (∀ spec, (name ++ suffix, spec) ∉ schema) → subst[name ++ suffix]? = some value :=
    fun suffix hsuffix value hvalue hfree =>
      getElem?_derived hsorted h hmem hhere hsuffix hvalue hfree
  cases N with
  | v4 net length =>
    refine ⟨getElem?_own hsorted h hmem hhere ?_, hderived _ (by simp [derivedSuffixes]) _ ?_,
      fun net' length' heq => ?_, hderived _ (by simp [derivedSuffixes]) _ ?_⟩
    · simp [Network.values, expandV4, Network.text]
    · simp [Network.values, expandV4, Network.netText]
    · cases heq
      exact hderived _ (by simp [derivedSuffixes]) _ (by simp [Network.values, expandV4])
    · simp [Network.values, expandV4, Network.length]
  | v6 net length =>
    refine ⟨getElem?_own hsorted h hmem hhere ?_, hderived _ (by simp [derivedSuffixes]) _ ?_,
      fun _ _ heq => (by cases heq), hderived _ (by simp [derivedSuffixes]) _ ?_⟩
    · simp [Network.values, expandV6, Network.text]
    · simp [Network.values, expandV6, Network.netText]
    · simp [Network.values, expandV6, Network.length]

/-! ### What a schema asks -/

theorem contains_of_checkContained (h : checkContained subst schema = .ok ()) {s : Text × ParamSpec}
    (hs : s ∈ schema)
    {parent child par : Text} (hparent : s.2.subprefixOf = some parent)
    (hchild : subst[s.1]? = some child)
    (hpar : subst[parent]? = some par) : networkContains par child = .ok true := by
  induction schema with
  | nil => cases hs
  | cons first schema ih =>
    obtain ⟨name, spec⟩ := first
    rw [checkContained] at h
    rcases List.mem_cons.mp hs with rfl | hs
    · have hparent : spec.subprefixOf = some parent := hparent
      simp only [hparent, hchild, hpar] at h
      obtain ⟨holds, hcontains, h⟩ := bind_eq_ok.mp h
      cases holds with
      | true => exact hcontains
      | false => cases h
    · refine ih ?_ hs
      split at h
      · exact h
      · split at h
        · obtain ⟨holds, -, h⟩ := bind_eq_ok.mp h
          cases holds with
          | true => exact h
          | false => cases h
        · exact h

theorem known_of_unknownParam (h : unknownParam schema params = none) (hname : name ∈ params) :
    (∃ spec, (name, spec) ∈ schema) ∨ name = ("prior_route_map" : Text) := by
  have hfind := List.find?_eq_none.mp h name (Std.TreeMap.mem_keys.mpr hname)
  by_cases hprior : name = ("prior_route_map" : Text)
  · exact Or.inr hprior
  · simp only [hprior, ne_eq, not_false_eq_true, decide_true, Bool.and_true, Bool.not_eq_true',
      Bool.not_eq_false, List.any_eq_true, decide_eq_true_eq] at hfind
    obtain ⟨s, hs, rfl⟩ := hfind
    exact Or.inl ⟨s.2, hs⟩

/-- The texts of a verification that are filled in. -/
def Verification.texts (v : Verification) : List Text :=
  match v.command with
  | none => []
  | some command => command :: (v.expect.toList ++ v.reject.toList)

theorem exists_of_substOpt {s : Option Text} {filled : Option Text}
    (h : substOpt subst s = .ok filled) :
    ∀ text ∈ s.toList, ∃ out, substitute text subst = .ok out := by
  cases s with
  | none => exact fun _ htext => absurd htext List.not_mem_nil
  | some s =>
    obtain ⟨value, hvalue, -⟩ := bind_eq_ok.mp h
    intro text htext
    rw [Option.toList_some, List.mem_singleton] at htext
    exact ⟨value, htext ▸ hvalue⟩

theorem exists_of_renderVerification {v : Verification} {step : Option VerifyStep}
    (h : renderVerification subst v = .ok step) : ∀ text ∈ v.texts, ∃ out, substitute text subst =
      .ok out := by
  intro text htext
  unfold renderVerification at h
  unfold Verification.texts at htext
  split at h
  · rename_i hnone
    rw [hnone] at htext
    exact absurd htext List.not_mem_nil
  · rename_i command hcommand
    rw [hcommand] at htext
    obtain ⟨out, hout, h⟩ := bind_eq_ok.mp h
    split at h
    · cases h
    · obtain ⟨expect, hexpect, h⟩ := bind_eq_ok.mp h
      obtain ⟨reject, hreject, h⟩ := bind_eq_ok.mp h
      rcases List.mem_cons.mp htext with rfl | htext
      · exact ⟨out, hout⟩
      · rcases List.mem_append.mp htext with htext | htext
        · exact exists_of_substOpt hexpect text htext
        · exact exists_of_substOpt hreject text htext

/-! ### Rendering -/

/-- **What a rendered plan is**, for the values that were made of what a caller gave. -/
structure Rendered (t : Template) (params : Params) (subst : NameMap Text)
    (plan : RenderedPlan) : Prop where
  /-- The commands are the texts of the template, filled in. -/
  commands : ∃ apply execAfter, List.Forall₂ (Filled subst) t.apply apply ∧
    List.Forall₂ (Filled subst) t.execAfter execAfter ∧
    plan.commands = (if t.configMode then [("configure terminal" : Text)] else []) ++ apply ++
      (if t.configMode then [("end" : Text)] else []) ++ execAfter
  /-- The texts of the verification are filled in too. -/
  verification : ∀ text ∈ t.verification.texts, ∃ out, Filled subst text out
  /-- A value is one that a parameter of the schema stands for, and a word. -/
  validated : ∀ key value : Text, subst[key]? = some value → ∃ s ∈ t.schema, ∃ here,
    expandParam s.1 s.2 params[s.1]? = .ok here ∧ (key, value) ∈ here ∧
    Expands s.1 s.2 key value ∧ IsWord value
  /-- A parameter that stands for something has its own value. -/
  own : ∀ s ∈ t.schema, ∃ here, expandParam s.1 s.2 params[s.1]? = .ok here ∧
    ∀ value, (s.1, value) ∈ here → subst[s.1]? = some value
  /-- A network is put in as it was given, no shorter than it may be, and what is derived from it
  describes it. -/
  networks : ∀ s ∈ t.schema, ∀ v6, s.2.type = .cidr v6 → ∀ provided, paramText s.2 params[s.1]? =
    some provided →
    ∃ N, readCidr provided = some N ∧ N.isV6 = v6 ∧ Describes t.schema subst s.1 N.cut ∧
      ∀ least, s.2.minLen = some least → least ≤ N.length
  /-- A network lies in the one it has to lie in. -/
  contained : ∀ s ∈ t.schema, ∀ parent, s.2.subprefixOf = some parent → ∀ child par : Text,
    subst[s.1]? = some child → subst[parent]? = some par →
      ∃ P C, readCidr par = some P ∧ readCidr child = some C ∧ P.SameFamily C ∧
        C.addresses ⊆ P.addresses
  /-- Nothing else was given, except a route map that was there before. -/
  known : ∀ name ∈ params, (∃ spec, (name, spec) ∈ t.schema) ∨ name = ("prior_route_map" : Text)
  /-- A sequence number is still to come exactly if a command has its place in it. -/
  pending : plan.sequencePending = true ↔ ∃ c ∈ plan.commands, deferredSequence <:+: c

/-- **Nothing can be put into a template but values.** -/
theorem render_rendered (t : Template) (params : Params) (plan : RenderedPlan)
    (hread : WellRead t.schema params) (h : render t params = .ok plan) :
    ∃ subst, validateAndExpand t.schema params = .ok subst ∧ Rendered t params subst plan := by
  unfold render at h
  split at h
  · cases h
  obtain ⟨subst, hsubst, h⟩ := bind_eq_ok.mp h
  split at h
  · cases h
  obtain ⟨apply, hup, h⟩ := bind_eq_ok.mp h
  obtain ⟨execAfter, hafter, h⟩ := bind_eq_ok.mp h
  obtain ⟨verify, hverify, h⟩ := bind_eq_ok.mp h
  obtain ⟨hknown, values, hvalues, hcontained, -⟩ := exists_values_of_validateAndExpand hsubst
  -- every value is a word, so what is filled in keeps the words of the text apart
  have hwords : ∀ key value : Text, subst[key]? = some value → IsWord value :=
    fun key value hget => isWord_of_validateAndExpand hread hsubst hget
  have hhere : ∀ s ∈ t.schema, ∃ here, expandParam s.1 s.2 params[s.1]? = .ok here := by
    intro s hs
    obtain ⟨-, here, -, -, hhere, -⟩ := exists_split_of_expandParams hread.sorted hs hvalues
    exact ⟨here, hhere⟩
  refine ⟨subst, hsubst, ?_⟩
  cases h
  constructor
  case commands =>
    exact ⟨apply, execAfter, forall₂_of_substituteAll hwords hup,
      forall₂_of_substituteAll hwords hafter, rfl⟩
  case verification =>
    intro text htext
    obtain ⟨out, hout⟩ := exists_of_renderVerification hverify text htext
    exact ⟨out, filled_of_substitute hwords hout⟩
  case validated =>
    intro key value hget
    obtain ⟨name, spec, hmem, here, hhere, hvalue⟩ := exists_spec_of_validateAndExpand hsubst hget
    exact ⟨(name, spec), hmem, here, hhere, hvalue, expands_of_expandParam hhere hvalue,
      hwords key value hget⟩
  case own =>
    intro s hs
    obtain ⟨here, hhere⟩ := hhere s hs
    exact ⟨here, hhere, fun value hvalue => getElem?_own hread.sorted hsubst hs hhere hvalue⟩
  case networks =>
    intro s hs v6 htype provided htext
    obtain ⟨here, hhere⟩ := hhere s hs
    obtain ⟨N, hN, hfamily, hleast, rfl⟩ := exists_network_of_expandParam htype htext hhere
    exact ⟨N, hN, hfamily, describes_of_validateAndExpand hread.sorted hsubst hs hhere, hleast⟩
  case contained =>
    intro s hs parent hparent child par hchild hpar
    exact networkContains_eq_ok_true.mp
      (contains_of_checkContained hcontained hs hparent hchild hpar)
  case known =>
    intro name hname
    exact known_of_unknownParam hknown hname
  case pending =>
    rw [List.any_eq_true]
    exact exists_congr fun c => and_congr_right fun _ => contains_iff

/-- A template that filters a network, and says how long the entries may be. -/
def filterTemplate : Template where
  name := "filter"
  schema := [("prefix", { type := .cidr false, required := true, minLen := some 8 }),
    ("sequence", { type := .seq })]
  apply := ["ip prefix-list A seq \x7bsequence\x7d deny \x7bprefix\x7d le \x7bprefix_len\x7d"]
  verification := {}

/-- What a caller gives it. -/
def filterParams : Params := (∅ : Params).insert "prefix" (.string "10.1.2.3/16")

theorem render_rendered_filter :
    ∃ subst, validateAndExpand filterTemplate.schema filterParams = .ok subst ∧
    Rendered filterTemplate filterParams subst
      ⟨["configure terminal", "ip prefix-list A seq <auto-seq> deny 10.1.0.0/16 le 16", "end"],
        none, true⟩ := by
  refine render_rendered filterTemplate filterParams _ ⟨by decide +kernel,
    by decide, fun name printed h => ?_⟩
    (by decide +kernel)
  rw [filterParams, Std.TreeMap.getElem?_insert] at h
  split at h
  · cases h
  · simp at h

/-- A schema whose names come in each other's way. -/
def collidingTemplate : Template where
  name := "colliding"
  schema := [("p", { type := .cidr false }), ("p_len", { type := .int }),
    ("peer name", { type := .string })]
  configMode := false
  apply := ["match \x7bp\x7d \x7bp_len\x7d \x7bpeer name\x7d"]
  verification := {}

/-- What a caller gives it. -/
def collidingParams : Params :=
  ((((∅ : Params).insert "p" (.string "10.0.0.0/8")).insert "p_len" (.string "9")).insert
      "peer name"
    (.string "a")).insert "prior_route_map" (.string "X")

/-- **A value that the schema does not know is not refused, a command has fewer words than its text,
and a length is not that of its network.** -/
theorem render_colliding :
    render collidingTemplate collidingParams = .ok ⟨["match 10.0.0.0/8 9 a"], none, false⟩ ∧
      ("prior_route_map" : Text) ∈ collidingParams ∧
      (∀ s ∈ collidingTemplate.schema, s.1 ≠ ("prior_route_map" : Text)) ∧
      (splitWhitespace "match 10.0.0.0/8 9 a").length = 4 ∧
      collidingTemplate.apply.map (fun text => (splitWhitespace text).length) = [5] := by
  decide +kernel

end Rerouter
