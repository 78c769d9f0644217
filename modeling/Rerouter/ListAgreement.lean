import Rerouter.PolicyInventory

/-!
# Two readers of one line

An entry of a prefix list is read at two places. `Rerouter.parseEntry` reads what a router shows of
a list, and refuses what it cannot read in full; the reader of the policy inventory
(`Rerouter.listLine`) reads the same words behind `ip prefix-list NAME` in the running
configuration, and records a blocker.

The second is the less strict. A `ge` or `le` without a number, or with a word that is none, it
takes for no bound at all; of a bound that is given twice it keeps the last; and it knows no limits
of a sequence number. **Where it reports no blocker, it holds the entry that the first reader
returns exactly for the lines that are free of this** (`Rerouter.inventory_agrees_iff`), which
`Rerouter.CarefulEntry` says of the words of a line.
-/

namespace Rerouter

open Text Ipv4 FirstMatch Gather

/-! ### Bounds, one by one -/

/-- The qualifiers of an entry, each with the word behind it. -/
def qualifierPairs : List Text → List (Text × Option Text)
  | [] => []
  | [key] => [(key, none)]
  | key :: value :: rest => (key, some value) :: qualifierPairs rest

/-- The number that is given with a qualifier. -/
def qualifierNumber (q : Text × Option Text) : Option ℕ := q.2.bind (parseUnsigned 255)

/-- The number given with the last qualifier of a key, over the one that was seen before. -/
def lastNumber (key : Text) (seen : Option ℕ) (pairs : List (Text × Option Text)) : Option ℕ :=
  pairs.foldl (fun seen q => if q.1 = key then qualifierNumber q else seen) seen

/-- **Bounds as they should be given**: `ge` and `le`, each with a number, and each once. -/
structure Qualified (pairs : List (Text × Option Text)) : Prop where
  known : ∀ q ∈ pairs, q.1 = ("ge" : Text) ∨ q.1 = ("le" : Text)
  numbers : ∀ q ∈ pairs, (qualifierNumber q).isSome = true
  once : (pairs.map Prod.fst).Nodup

variable {toks : List Text} {ge le ge' le' : Option ℕ} {bad key : Text}
  {pairs : List (Text × Option Text)}

theorem lastNumber_of_not_mem {seen : Option ℕ} (h : key ∉ pairs.map Prod.fst) :
    lastNumber key seen pairs = seen := by
  induction pairs with
  | nil => rfl
  | cons q pairs ih =>
    rw [List.map_cons, List.mem_cons, not_or] at h
    rw [lastNumber, List.foldl_cons, if_neg (Ne.symm h.1)]
    exact ih h.2

theorem lastNumber_cons (seen : Option ℕ) (q : Text × Option Text) :
    lastNumber key seen (q :: pairs) = lastNumber key (if q.1 = key then qualifierNumber q
      else seen) pairs := rfl

theorem ge_ne_le : ¬("ge" : Text) = "le" := by decide

/-- The reader of the inventory keeps the last number of each key. -/
theorem of_listQualifiers (h : listQualifiers toks ge le = some (ge', le')) :
    (∀ q ∈ qualifierPairs toks, q.1 = ("ge" : Text) ∨ q.1 = ("le" : Text)) ∧
      ge' = lastNumber "ge" ge (qualifierPairs toks) ∧
        le' = lastNumber "le" le (qualifierPairs toks) := by
  induction toks using qualifierPairs.induct generalizing ge le with
  | case1 =>
    obtain ⟨rfl, rfl⟩ := Prod.mk.inj (Option.some.inj h)
    exact ⟨nofun, rfl, rfl⟩
  -- the last word stands alone: its key is there, without a number
  | case2 tok =>
    rw [listQualifiers] at h
    rw [qualifierPairs]
    split_ifs at h with hge hle
    · obtain ⟨rfl, rfl⟩ := Prod.mk.inj (Option.some.inj h)
      obtain rfl := hge
      refine ⟨fun q hq => Or.inl (by rw [List.mem_singleton.mp hq]), ?_, ?_⟩
      · rw [lastNumber_cons, if_pos rfl]
        rfl
      · rw [lastNumber_cons, if_neg ge_ne_le]
        rfl
    · obtain ⟨rfl, rfl⟩ := Prod.mk.inj (Option.some.inj h)
      obtain rfl := hle
      refine ⟨fun q hq => Or.inr (by rw [List.mem_singleton.mp hq]), ?_, ?_⟩
      · rw [lastNumber_cons, if_neg (Ne.symm ge_ne_le)]
        rfl
      · rw [lastNumber_cons, if_pos rfl]
        rfl
  -- a key and its number, and a later pair of the same key overrides it
  | case3 tok value rest ih =>
    rw [listQualifiers] at h
    rw [qualifierPairs]
    split_ifs at h with hge hle
    · obtain ⟨hknown, hge', hle'⟩ := ih h
      obtain rfl := hge
      refine ⟨List.forall_mem_cons.mpr ⟨Or.inl rfl, hknown⟩, ?_, ?_⟩
      · rw [lastNumber_cons, if_pos rfl]
        exact hge'
      · rw [lastNumber_cons, if_neg ge_ne_le]
        exact hle'
    · obtain ⟨hknown, hge', hle'⟩ := ih h
      obtain rfl := hle
      refine ⟨List.forall_mem_cons.mpr ⟨Or.inr rfl, hknown⟩, ?_, ?_⟩
      · rw [lastNumber_cons, if_neg (Ne.symm ge_ne_le)]
        exact hge'
      · rw [lastNumber_cons, if_pos rfl]
        exact hle'

/-- What the strict reader requires of the bounds, on the way. -/
structure Admits (ge le : Option ℕ) (pairs : List (Text × Option Text)) :
    Prop extends Qualified pairs where
  freshGe : ge.isSome = true → ("ge" : Text) ∉ pairs.map Prod.fst
  freshLe : le.isSome = true → ("le" : Text) ∉ pairs.map Prod.fst

/-- The strict reader keeps the last number of each key as well, and requires that it is the only
one. -/
theorem of_parseRange (h : parseRange bad toks ge le = .ok (ge', le')) :
    Admits ge le (qualifierPairs toks) ∧ ge' = lastNumber "ge" ge (qualifierPairs toks) ∧
      le' = lastNumber "le" le (qualifierPairs toks) := by
  induction toks using qualifierPairs.induct generalizing ge le with
  | case1 =>
    obtain ⟨rfl, rfl⟩ := Prod.mk.inj (Except.ok.inj h)
    exact ⟨⟨⟨nofun, nofun, List.nodup_nil⟩, fun _ => List.not_mem_nil, fun _ => List.not_mem_nil⟩,
      rfl, rfl⟩
  -- a key without a number is an error
  | case2 tok => cases h
  | case3 tok value rest ih =>
    rw [parseRange] at h
    obtain ⟨n, hn, h⟩ := bind_eq_ok.mp h
    have hn := okOr_eq_ok.mp hn
    rw [qualifierPairs]
    split_ifs at h with hbig hge hle
    · obtain ⟨hadmits, hge', hle'⟩ := ih h
      obtain ⟨rfl, hnone⟩ := hge
      -- a second `ge` would have met a bound that is set already
      have hfresh := hadmits.freshGe rfl
      refine ⟨⟨⟨?_, ?_, ?_⟩, ?_, ?_⟩, ?_, ?_⟩
      · exact List.forall_mem_cons.mpr ⟨Or.inl rfl, hadmits.known⟩
      · exact List.forall_mem_cons.mpr ⟨by rw [qualifierNumber, Option.bind_some, hn]; rfl,
          hadmits.numbers⟩
      · exact List.nodup_cons.mpr ⟨hfresh, hadmits.once⟩
      · intro hsome
        rw [Option.isNone_iff_eq_none.mp hnone] at hsome
        cases hsome
      · intro hsome
        rw [List.map_cons, List.mem_cons, not_or]
        exact ⟨Ne.symm ge_ne_le, hadmits.freshLe hsome⟩
      · rw [lastNumber_cons, if_pos rfl, qualifierNumber, Option.bind_some, hn]
        exact hge'
      · rw [lastNumber_cons, if_neg ge_ne_le]
        exact hle'
    · obtain ⟨hadmits, hge', hle'⟩ := ih h
      obtain ⟨rfl, hnone⟩ := hle
      -- and so would a second `le`
      have hfresh := hadmits.freshLe rfl
      refine ⟨⟨⟨?_, ?_, ?_⟩, ?_, ?_⟩, ?_, ?_⟩
      · exact List.forall_mem_cons.mpr ⟨Or.inr rfl, hadmits.known⟩
      · exact List.forall_mem_cons.mpr ⟨by rw [qualifierNumber, Option.bind_some, hn]; rfl,
          hadmits.numbers⟩
      · exact List.nodup_cons.mpr ⟨hfresh, hadmits.once⟩
      · intro hsome
        rw [List.map_cons, List.mem_cons, not_or]
        exact ⟨ge_ne_le, hadmits.freshGe hsome⟩
      · intro hsome
        rw [Option.isNone_iff_eq_none.mp hnone] at hsome
        cases hsome
      · rw [lastNumber_cons, if_neg (Ne.symm ge_ne_le)]
        exact hge'
      · rw [lastNumber_cons, if_pos rfl, qualifierNumber, Option.bind_some, hn]
        exact hle'

/-- Bounds that are given as they should be are read, if none is above the length of an address. -/
theorem parseRange_of_admits (bad : Text) (h : Admits ge le (qualifierPairs toks))
    (hge : ∀ n ∈ lastNumber "ge" ge (qualifierPairs toks), n ≤ 32)
    (hle : ∀ n ∈ lastNumber "le" le (qualifierPairs toks), n ≤ 32) :
    parseRange bad toks ge le =
      .ok (lastNumber "ge" ge (qualifierPairs toks), lastNumber "le" le (qualifierPairs toks)) := by
  induction toks using qualifierPairs.induct generalizing ge le with
  | case1 => rfl
  | case2 tok =>
    have hnumber := h.numbers _ (List.mem_singleton_self _)
    cases hnumber
  | case3 tok value rest ih =>
    rw [qualifierPairs] at h hge hle ⊢
    obtain ⟨hknown, hknown'⟩ := List.forall_mem_cons.mp h.known
    obtain ⟨hnumber, hnumbers'⟩ := List.forall_mem_cons.mp h.numbers
    obtain ⟨hout, honce'⟩ := List.nodup_cons.mp h.once
    obtain ⟨n, hn⟩ := Option.isSome_iff_exists.mp hnumber
    rw [qualifierNumber, Option.bind_some] at hn
    rw [lastNumber_cons, qualifierNumber, Option.bind_some, hn] at hge hle ⊢
    rw [lastNumber_cons, qualifierNumber, Option.bind_some, hn]
    rw [parseRange, hn, okOr_eq_ok.mpr rfl, ok_bind]
    rcases hknown with rfl | rfl
    · have hnone : ge = none := by
        cases ge with
        | none => rfl
        | some _ => exact absurd List.mem_cons_self (h.freshGe rfl)
      rw [if_pos rfl] at hge ⊢
      rw [if_neg ge_ne_le] at hle ⊢
      -- the only number of its key is the bound, which is no more than an address is long
      have hsmall : n ≤ 32 := hge n (by rw [lastNumber_of_not_mem hout]; rfl)
      rw [if_neg (by omega), if_pos ⟨rfl, by rw [hnone]; rfl⟩]
      refine ih ⟨⟨hknown', hnumbers', honce'⟩, fun _ => hout, fun hsome hmem => ?_⟩ hge hle
      exact h.freshLe hsome (List.mem_cons_of_mem _ hmem)
    · have hnone : le = none := by
        cases le with
        | none => rfl
        | some _ => exact absurd List.mem_cons_self (h.freshLe rfl)
      rw [if_pos rfl] at hle ⊢
      rw [if_neg (Ne.symm ge_ne_le)] at hge ⊢
      have hsmall : n ≤ 32 := hle n (by rw [lastNumber_of_not_mem hout]; rfl)
      rw [if_neg (by omega), if_neg fun hcon => ge_ne_le hcon.1.symm,
        if_pos ⟨rfl, by rw [hnone]; rfl⟩]
      refine ih ⟨⟨hknown', hnumbers', honce'⟩, fun hsome hmem => ?_, fun _ => hout⟩ hge hle
      exact h.freshGe hsome (List.mem_cons_of_mem _ hmem)

/-! ### One line -/

/-- An entry of the inventory is an entry of the list: the same number, action and bounds, and the
network that its text reads as. -/
structure PolicyEntry.Denotes (p : PolicyEntry) (e : PrefixListEntry) : Prop where
  sequence : p.sequence = e.sequence
  action : p.action = .permit ↔ e.permit = true
  net : parsePolicyPrefix p.cidr = some (e.network, e.length)
  ge : p.ge = e.ge
  le : p.le = e.le

/-- The qualifiers of an entry, behind `seq`, its number, its action and its network. -/
def entryQualifiers (suffix : Text) : List (Text × Option Text) :=
  qualifierPairs ((splitWhitespace suffix).drop 4)

/-- **A line that both readers read alike**: its number is one that a router has; up to a
parenthesis its bounds are given as they should be; and nothing behind a parenthesis is the last
number of a bound. -/
structure CarefulEntry (suffix : Text) : Prop where
  sequence : ∀ n ∈ ((splitWhitespace suffix)[1]?).bind (parseUnsigned maxU32), minSeq ≤ n ∧
    n ≤ maxSeq
  qualified : Qualified (entryQualifiers (entryBody suffix))
  behind : ∀ key : Text, key = "ge" ∨ key = "le" →
    lastNumber key none (entryQualifiers suffix) =
    lastNumber key none (entryQualifiers (entryBody suffix))

variable {name name' suffix line : Text} {rest : List Text} {p : PolicyEntry} {e : PrefixListEntry}

/-- What the reader of the inventory makes an entry of. -/
structure Accepts (rest : List Text) (p : PolicyEntry) (number action : Text)
    (qualifiers : List Text) : Prop where
  words : rest = number :: action :: p.cidr :: qualifiers
  sequence : parseUnsigned maxU32 number = some p.sequence
  action : permitDeny action = some p.action
  qualifiers : listQualifiers qualifiers none none = some (p.ge, p.le)
  ge_le : ∀ n ∈ p.ge, n ≤ 32
  le_le : ∀ n ∈ p.le, n ≤ 32

theorem of_listEntry (h : listEntry name ("seq" :: rest) = .entry name' p) :
    name' = name ∧ ∃ number action qualifiers, Accepts rest p number action qualifiers := by
  unfold listEntry at h
  split at h
  · rename_i seq number tail heq
    obtain ⟨rfl, rfl⟩ := List.cons_eq_cons.mp heq
    rw [if_pos rfl] at h
    split at h
    · rename_i sequence hnumber
      unfold listAction at h
      split at h
      · rename_i action haction
        obtain ⟨word, hword, haction⟩ := Option.bind_eq_some_iff.mp haction
        obtain ⟨words, rfl⟩ := List.head?_eq_some_iff.mp hword
        rw [List.tail_cons] at h
        unfold listPrefix at h
        split at h
        · cases h
        · rename_i cidr qualifiers
          split at h
          · split at h
            · rename_i ge le hqualifiers
              split at h
              · cases h
              · rename_i hsmall
                -- every other branch blocks the line
                obtain ⟨rfl, rfl⟩ := ListLine.entry.inj h
                rw [Bool.or_eq_true, not_or] at hsmall
                refine ⟨rfl, number, word, qualifiers, rfl, hnumber, haction, hqualifiers,
                  fun n hn => ?_, fun n hn => ?_⟩
                · obtain rfl : ge = some n := hn
                  simpa using hsmall.1
                · obtain rfl : le = some n := hn
                  simpa using hsmall.2
            · cases h
          · cases h
      · cases h
    · cases h
  · cases h

/-- No parenthesis stands in what reads as a number, an action or a network. -/
theorem Accepts.parenthesis {number action : Text} {qualifiers : List Text}
    (h : Accepts rest p number action qualifiers) : '(' ∉ number ∧ '(' ∉ action ∧ '(' ∉ p.cidr := by
  have hnumber : ∀ {s : Text} {max n : ℕ}, parseUnsigned max s = some n → '(' ∉ s := by
    intro s max n hs hmem
    rcases mem_of_parseUnsigned hs hmem with hdigit | hplus
    · exact absurd hdigit (by decide)
    · exact absurd hplus (by decide)
  refine ⟨hnumber h.sequence, fun hmem => ?_, fun hmem => ?_⟩
  · have haction := h.action
    unfold permitDeny at haction
    split_ifs at haction with hpermit hdeny
    · rw [hpermit] at hmem
      exact absurd hmem (by decide)
    · rw [hdeny] at hmem
      exact absurd hmem (by decide)
  · obtain ⟨net, hnet⟩ := Option.isSome_iff_exists.mp p.valid
    obtain ⟨⟨ip, len⟩, hcut, hnet⟩ := Option.bind_eq_some_iff.mp hnet
    obtain ⟨a, ha, hnet⟩ := Option.bind_eq_some_iff.mp hnet
    obtain ⟨n, hn, -⟩ := Option.bind_eq_some_iff.mp hnet
    rw [eq_of_splitOnce hcut] at hmem
    rcases List.mem_append.mp hmem with hip | hmem
    · rcases digit_or_dot_of_parseAddr ha hip with hdigit | hdot
      · exact absurd hdigit (by decide)
      · exact absurd hdot (by decide)
    · rcases List.mem_cons.mp hmem with hslash | hlen
      · exact absurd hslash (by decide)
      · exact hnumber hn hlen

/-- The words of an entry in front of a parenthesis: the first four stand in front of it. -/
theorem splitWhitespace_entryBody_of_accepts {number action : Text} {qualifiers : List Text}
    (hwords : splitWhitespace suffix = ("seq" : Text) :: rest)
    (h : Accepts rest p number action qualifiers) :
    ∃ inside, splitWhitespace (entryBody suffix) =
      ("seq" : Text) :: number :: action :: p.cidr :: inside := by
  obtain ⟨hnumber, haction, hcidr⟩ := h.parenthesis
  rw [h.words] at hwords
  unfold entryBody
  split
  · rename_i head tail hcut
    obtain ⟨front, last, first, behind, hhead, hsuffix⟩ :=
      splitWhitespace_cut (x := '(') (by decide) head tail
    have hcut : front ++ (last ++ '(' :: first) :: behind =
        [("seq" : Text), number, action, p.cidr] ++ qualifiers := by
      rw [← hsuffix, ← eq_of_splitOnce hcut, hwords]
      rfl
    -- the word that is cut holds the parenthesis, which none of the four does
    have hout : last ++ '(' :: first ∉ [("seq" : Text), number, action, p.cidr] := by
      have hmem : '(' ∈ last ++ '(' :: first := List.mem_append_right _ List.mem_cons_self
      intro hfour
      simp only [List.mem_cons, List.not_mem_nil, or_false] at hfour
      rcases hfour with heq | heq | heq | heq
      · exact absurd (heq ▸ hmem) (by decide)
      · exact hnumber (heq ▸ hmem)
      · exact haction (heq ▸ hmem)
      · exact hcidr (heq ▸ hmem)
    rw [splitWhitespace_trim, hhead]
    rcases List.append_eq_append_iff.mp hcut with ⟨some, hfour, hrest⟩ | ⟨inside, rfl, -⟩
    · cases some with
      | nil => exact ⟨_, by rw [← List.append_nil front, ← hfour]; rfl⟩
      | cons w ws =>
        obtain ⟨rfl, -⟩ := List.cons_eq_cons.mp hrest
        exact absurd (by rw [hfour]; simp) hout
    · exact ⟨_, rfl⟩
  · exact ⟨qualifiers, hwords⟩

theorem parseNet_eq_ok {tok : Text} {a : Addr} {n : ℕ} :
    parseNet bad tok = .ok (a, n) ↔ parsePolicyPrefix tok = some (a, n) := by
  constructor
  · intro h
    obtain ⟨⟨net, len⟩, hcut, h⟩ := bind_eq_ok.mp h
    obtain ⟨b, hb, h⟩ := bind_eq_ok.mp h
    obtain ⟨m, hm, h⟩ := bind_eq_ok.mp h
    split_ifs at h with hbig
    obtain ⟨rfl, rfl⟩ := Prod.mk.inj (Except.ok.inj h)
    refine Option.bind_eq_some_iff.mpr ⟨_, okOr_eq_ok.mp hcut, ?_⟩
    refine Option.bind_eq_some_iff.mpr ⟨_, okOr_eq_ok.mp hb,
      Option.bind_eq_some_iff.mpr ⟨_, okOr_eq_ok.mp hm, ?_⟩⟩
    rw [if_pos (by omega)]
  · intro h
    obtain ⟨⟨net, len⟩, hcut, h⟩ := Option.bind_eq_some_iff.mp h
    obtain ⟨b, hb, h⟩ := Option.bind_eq_some_iff.mp h
    obtain ⟨m, hm, h⟩ := Option.bind_eq_some_iff.mp h
    split_ifs at h with hsmall
    obtain ⟨rfl, rfl⟩ := Prod.mk.inj (Option.some.inj h)
    refine bind_eq_ok.mpr ⟨_, okOr_eq_ok.mpr hcut, bind_eq_ok.mpr ⟨_, okOr_eq_ok.mpr hb, ?_⟩⟩
    refine bind_eq_ok.mpr ⟨_, okOr_eq_ok.mpr hm, ?_⟩
    rw [if_neg (by omega)]
    rfl

theorem permitDeny_parseAction {word : Text} {action : PermitDeny}
    (h : permitDeny word = some action) :
    parseAction word = some (decide (action = .permit)) := by
  unfold permitDeny at h
  rw [parseAction]
  split_ifs at h ⊢ with hpermit hdeny
  · rw [← Option.some.inj h]
    rfl
  · rw [← Option.some.inj h]
    rfl

/-- What the strict reader makes of the words of an entry. -/
theorem parseEntry_eq_ok {number action cidr : Text} {inside : List Text}
    (hwords : splitWhitespace (entryBody suffix) =
      ("seq" : Text) :: number :: action :: cidr :: inside) :
    parseEntry suffix = .ok e ↔ parseUnsigned maxU32 number = some e.sequence ∧
      (minSeq ≤ e.sequence ∧ e.sequence ≤ maxSeq) ∧ parseAction action = some e.permit ∧
      parsePolicyPrefix cidr = some (e.network, e.length) ∧
      parseRange ("could not parse prefix-list entry " ++ debugText suffix) inside none none =
        .ok (e.ge, e.le) := by
  rw [parseEntry, hwords]
  dsimp only
  rw [if_neg (not_not.mpr rfl)]
  constructor
  · intro h
    obtain ⟨n, hn, h⟩ := bind_eq_ok.mp h
    split_ifs at h with hrange
    obtain ⟨permit, hpermit, h⟩ := bind_eq_ok.mp h
    obtain ⟨⟨network, length⟩, hnet, h⟩ := bind_eq_ok.mp h
    obtain ⟨⟨ge, le⟩, hbounds, h⟩ := bind_eq_ok.mp h
    obtain rfl := Except.ok.inj h
    exact ⟨okOr_eq_ok.mp hn, hrange, okOr_eq_ok.mp hpermit, parseNet_eq_ok.mp hnet, hbounds⟩
  · rintro ⟨hn, hrange, hpermit, hnet, hbounds⟩
    refine bind_eq_ok.mpr ⟨_, okOr_eq_ok.mpr hn, ?_⟩
    rw [if_neg (not_not.mpr hrange)]
    refine bind_eq_ok.mpr ⟨_, okOr_eq_ok.mpr hpermit,
      bind_eq_ok.mpr ⟨_, parseNet_eq_ok.mpr hnet, ?_⟩⟩
    exact bind_eq_ok.mpr ⟨_, hbounds, rfl⟩

/-- **Of a line that the inventory makes an entry of, the other reader makes the same entry exactly
where the line is careful.** -/
theorem parseEntry_iff_careful (hwords : splitWhitespace suffix = ("seq" : Text) :: rest)
    (h : listEntry name ("seq" :: rest) = .entry name' p) :
    (∃ e, parseEntry suffix = .ok e ∧ p.Denotes e) ↔ CarefulEntry suffix := by
  obtain ⟨rfl, number, action, qualifiers, h⟩ := of_listEntry h
  obtain ⟨inside, hinside⟩ := splitWhitespace_entryBody_of_accepts hwords h
  have hbody : entryQualifiers (entryBody suffix) = qualifierPairs inside := by
    rw [entryQualifiers, hinside]
    rfl
  have hall : entryQualifiers suffix = qualifierPairs qualifiers := by
    rw [entryQualifiers, hwords, h.words]
    rfl
  have hnumber : ((splitWhitespace suffix)[1]?).bind (parseUnsigned maxU32) = some p.sequence := by
    rw [hwords, h.words]
    exact h.sequence
  obtain ⟨-, hge, hle⟩ := of_listQualifiers h.qualifiers
  constructor
  · rintro ⟨e, he, hdenotes⟩
    obtain ⟨hn, hrange, -, -, hbounds⟩ := (parseEntry_eq_ok hinside).mp he
    obtain ⟨hadmits, hge', hle'⟩ := of_parseRange hbounds
    refine ⟨fun n hmem => ?_, ?_, ?_⟩
    · rw [hnumber] at hmem
      obtain rfl := Option.some.inj hmem
      rw [hdenotes.sequence]
      exact hrange
    · rw [hbody]
      exact hadmits.toQualified
    · rintro key (rfl | rfl)
      · rw [hall, hbody, ← hge, ← hge', hdenotes.ge]
      · rw [hall, hbody, ← hle, ← hle', hdenotes.le]
  · intro hcareful
    -- behind the parenthesis no bound was given, so both readers saw the same numbers
    have hsameGe := hcareful.behind _ (Or.inl rfl)
    have hsameLe := hcareful.behind _ (Or.inr rfl)
    rw [hall, hbody] at hsameGe hsameLe
    rw [hsameGe] at hge
    rw [hsameLe] at hle
    have hqualified := hcareful.qualified
    rw [hbody] at hqualified
    have hadmits : Admits none none (qualifierPairs inside) := ⟨hqualified, nofun, nofun⟩
    obtain ⟨⟨network, length⟩, hnet⟩ := Option.isSome_iff_exists.mp p.valid
    have hbounds := parseRange_of_admits
      ("could not parse prefix-list entry " ++ debugText suffix) hadmits
      (fun n hn => h.ge_le n (hge ▸ hn)) fun n hn => h.le_le n (hle ▸ hn)
    rw [← hge, ← hle] at hbounds
    refine ⟨⟨p.sequence, decide (p.action = .permit), network, length, p.ge, p.le⟩, ?_, ?_⟩
    · exact (parseEntry_eq_ok hinside).mpr ⟨h.sequence, hcareful.sequence _ hnumber,
        permitDeny_parseAction h.action, hnet, hbounds⟩
    · exact ⟨rfl, by simp, hnet, rfl, rfl⟩

/-! ### The lists of a configuration -/

/-- The entry that a line adds, with the name of its list. -/
def ListLine.added : ListLine → Option (Text × PolicyEntry)
  | .entry name p => some (name, p)
  | _ => none

/-- The entries of a list so far. -/
def ListScan.held (st : ListScan) (name : Text) : List PolicyEntry :=
  ((st.lists[name]?).map NamedPrefixList.entries).getD []

variable {st : ListScan} {ls : List ListLine}

/-- A line adds its entry behind those of its list. -/
theorem ListScan.held_read (l : ListLine) :
    (st.read l).held name = st.held name ++ valuesOf ListLine.added name [l] := by
  cases l with
  | skip => rw [read, valuesOf_cons_of_ne nofun, valuesOf_nil, List.append_nil]
  | blocked reason =>
    rw [read, valuesOf_cons_of_ne nofun, valuesOf_nil, List.append_nil]
    rfl
  | entry name' p =>
    by_cases hname : name' = name
    · obtain rfl := hname
      have hadded : (ListLine.entry name' p).added = some (name', p) := rfl
      rw [valuesOf_cons_of_eq hadded, valuesOf_nil, read, held, held,
        Std.TreeMap.getElem?_insert_self]
      cases st.lists[name']? <;> rfl
    · have hne : ∀ v, (ListLine.entry name' p).added ≠ some (name, v) := fun v heq =>
        hname (Prod.mk.inj (Option.some.inj heq)).1
      have hcompare : compare name' name ≠ .eq :=
        fun heq => hname (Std.LawfulEqCmp.eq_of_compare heq)
      rw [valuesOf_cons_of_ne hne, valuesOf_nil, List.append_nil, read, held, held,
        Std.TreeMap.getElem?_insert, if_neg hcompare]

/-- A list is kept under its name. -/
def ListScan.Named (st : ListScan) : Prop := ∀ (name : Text) (l : NamedPrefixList),
  st.lists[name]? = some l → l.name = name

theorem ListScan.Named.read (h : st.Named) (l : ListLine) : (st.read l).Named := by
  cases l with
  | skip => exact h
  | blocked reason => exact h
  | entry name' p =>
    intro name list hlist
    rw [ListScan.read, Std.TreeMap.getElem?_insert] at hlist
    split at hlist
    · rename_i heq
      obtain rfl := Std.LawfulEqCmp.eq_of_compare heq
      obtain rfl := Option.some.inj hlist
      cases hold : st.lists[name']? with
      | none => rfl
      | some old => exact h name' old hold
    · exact h name list hlist

/-- **The scan of the lines of a configuration**: the entries of each list, in their order, under
the name of the list, and a blocker for each line that is blocked. -/
theorem ListScan.foldl_read (ls : List ListLine) (hnamed : st.Named) :
    (ls.foldl ListScan.read st).Named ∧
      (∀ name, (ls.foldl ListScan.read st).held name =
        st.held name ++ valuesOf ListLine.added name ls) ∧
      ((ls.foldl ListScan.read st).blockers = [] → st.blockers = [] ∧
        ∀ reason, ListLine.blocked reason ∉ ls) := by
  induction ls generalizing st with
  | nil =>
    exact ⟨hnamed, fun name => (List.append_nil _).symm, fun h => ⟨h, fun _ => List.not_mem_nil⟩⟩
  | cons l ls ih =>
    obtain ⟨hnamed', hheld, hblockers⟩ := ih (hnamed.read l)
    refine ⟨hnamed', fun name => ?_, fun h => ?_⟩
    · have hcons : valuesOf ListLine.added name (l :: ls) =
          valuesOf ListLine.added name [l] ++ valuesOf ListLine.added name ls :=
        List.filterMap_append (l := [l])
      rw [List.foldl_cons, hheld, held_read, hcons, List.append_assoc]
    · obtain ⟨hnone, hall⟩ := hblockers h
      cases l with
      | skip => exact ⟨hnone, fun reason hmem => hall reason (by simpa using hmem)⟩
      | blocked reason => exact absurd hnone (by simp [read])
      | entry name p => exact ⟨hnone, fun reason hmem => hall reason (by simpa using hmem)⟩

/-- Entries in the order of their numbers with no number twice in a row have no number twice. -/
theorem ascending_of_duplicateSequence {entries : List PolicyEntry}
    (hsorted : entries.Pairwise fun a b => a.sequence ≤ b.sequence)
    (h : duplicateSequence entries = false) :
    Ascending PolicyEntry.sequence entries := by
  induction entries with
  | nil => exact List.Pairwise.nil
  | cons a entries ih =>
    obtain ⟨hhead, htail⟩ := List.pairwise_cons.mp hsorted
    cases entries with
    | nil => exact List.pairwise_singleton _ _
    | cons b entries =>
      rw [duplicateSequence, Bool.or_eq_false_iff] at h
      obtain ⟨hne, h⟩ := h
      have hrest := ih htail h
      have hab : a.sequence < b.sequence :=
        lt_of_le_of_ne (hhead b List.mem_cons_self) (by simpa using hne)
      refine List.pairwise_cons.mpr ⟨fun c hc => ?_, hrest⟩
      rcases List.mem_cons.mp hc with rfl | hc
      · exact hab
      · exact hab.trans ((List.pairwise_cons.mp hrest).1 c hc)

/-! ### The two readers of a configuration -/

/-- A line `ip prefix-list NAME seq …` of the configuration, and what stands in it from `seq` on. -/
def IsListLine (line name suffix : Text) : Prop :=
  ∃ head blank, line = head ++ suffix ∧ head.getLast? = some blank ∧ isWhitespace blank = true ∧
    splitWhitespace head = [("ip" : Text), ("prefix-list" : Text), name] ∧
    (splitWhitespace suffix).head? = some ("seq" : Text)

/-- The inventory holds an entry, and no other one under its number. -/
def HoldsEntry (inventory : RoutingPolicyInventory) (name : Text) (e : PrefixListEntry) : Prop :=
  ∃ l ∈ inventory.prefixLists, l.name = name ∧ ∃ p ∈ l.entries, p.Denotes e ∧
    ∀ q ∈ l.entries, q.sequence = p.sequence → q = p

theorem IsListLine.listLine (h : IsListLine line name suffix) :
    ∃ rest, splitWhitespace suffix = ("seq" : Text) :: rest ∧ listLine line =
      if name = ("sequence-number" : Text) then .skip else listEntry name ("seq" :: rest) := by
  obtain ⟨head, blank, rfl, hlast, hblank, hhead, hseq⟩ := h
  obtain ⟨rest, hrest⟩ := List.head?_eq_some_iff.mp hseq
  refine ⟨rest, hrest, ?_⟩
  have hip : ¬("ip" : Text) = "prefix-list" := by decide
  have hlist : listWords (("ip" : Text) :: ("prefix-list" : Text) :: name :: ("seq" :
    Text) :: rest) =
      if name = ("sequence-number" : Text) then none else some (name, ("seq" : Text) :: rest) := by
    rw [listWords, if_neg hip, listWords, if_pos rfl]
  have hwords : splitWhitespace (head ++ suffix) =
      ("ip" : Text) :: ("prefix-list" : Text) :: name :: ("seq" : Text) :: rest := by
    rw [splitWhitespace_append_of_getLast? hlast hblank, hhead, hrest]
    rfl
  rw [Rerouter.listLine, hwords, hlist]
  by_cases hname : name = ("sequence-number" : Text)
  · rw [if_pos hname, if_pos hname]
  · rw [if_neg hname, if_neg hname]

theorem listEntry_ne_skip (words : List Text) : listEntry name words ≠ .skip := by
  unfold listEntry
  split
  · split
    · unfold listAction
      split
      · unfold listPrefix
        split
        · nofun
        · split
          · split
            · split
              · nofun
              · nofun
            · nofun
          · nofun
      · nofun
    · nofun
  · nofun

/-- An entry of the inventory starts with `seq`. -/
theorem words_of_listEntry {words : List Text} (h : listEntry name words = .entry name' p) :
    ∃ rest, words = ("seq" : Text) :: rest := by
  unfold listEntry at h
  split at h
  · rename_i seq number rest
    split at h
    · rename_i sequence hnumber
      split_ifs at hnumber with hseq
      exact ⟨_, by rw [hseq]⟩
    · cases h
  · cases h

/-- No list is entered as `sequence-number`. -/
theorem name_ne_of_listLine (h : listLine line = .entry name p) :
    name ≠ ("sequence-number" : Text) := by
  have hwords : ∀ {words rest : List Text} {name : Text}, listWords words = some (name, rest) →
      name ≠ ("sequence-number" : Text) := by
    intro words
    induction words with
    | nil => nofun
    | cons w words ih =>
      intro rest name h
      cases words with
      | nil => cases h
      | cons w' words =>
        rw [listWords] at h
        split_ifs at h with hlist hname
        · obtain ⟨rfl, -⟩ := Prod.mk.inj (Option.some.inj h)
          exact hname
        · exact ih h
  unfold listLine at h
  split at h
  · rename_i listed rest hlisted
    obtain ⟨rest', rfl⟩ := words_of_listEntry h
    obtain ⟨rfl, -⟩ := of_listEntry h
    exact hwords hlisted
  · cases h

variable {bgp routeMaps prefixLists : Text}

/-- What an inventory without blockers says of the prefix lists: no line is blocked, the lists are
those of the scan, and their entries are in the order of their numbers, with none twice. -/
theorem of_parseInventory (h : (parseInventory bgp routeMaps prefixLists).blockers = []) :
    (∀ line ∈ lines prefixLists, ∀ reason, listLine line ≠ .blocked reason) ∧
      (∀ l ∈ (parseInventory bgp routeMaps prefixLists).prefixLists,
        Ascending PolicyEntry.sequence l.entries ∧ ∀ p, p ∈ l.entries ↔
          ∃ line ∈ lines prefixLists, listLine line = .entry l.name p) ∧
      ∀ line ∈ lines prefixLists, ∀ name p, listLine line = .entry name p →
        ∃ l ∈ (parseInventory bgp routeMaps prefixLists).prefixLists, l.name = name := by
  -- the blockers of the lists stand among those of the inventory
  have hlists : (parseLists prefixLists).2 = [] := by
    have hall := List.append_eq_nil_iff.mp h
    exact (List.append_eq_nil_iff.mp
      (List.append_eq_nil_iff.mp (List.append_eq_nil_iff.mp hall.1).1).1).1
  obtain ⟨hscan, hduplicate⟩ := List.append_eq_nil_iff.mp hlists
  have hempty : (⟨∅, []⟩ : ListScan).Named := fun name l hl => by simp at hl
  obtain ⟨hnamed, hheld, hblockers⟩ := ListScan.foldl_read ((lines prefixLists).map listLine) hempty
  have hadded : ∀ name p, p ∈ (((lines prefixLists).map listLine).foldl ListScan.read ⟨∅,
    []⟩).held name ↔
      ∃ line ∈ lines prefixLists, listLine line = .entry name p := by
    intro name p
    have hnone : (⟨∅, []⟩ : ListScan).held name = [] := by simp [ListScan.held]
    rw [hheld, hnone, List.nil_append, mem_valuesOf]
    constructor
    · rintro ⟨l, hl, hentry⟩
      obtain ⟨line, hline, rfl⟩ := List.mem_map.mp hl
      refine ⟨line, hline, ?_⟩
      cases hmade : listLine line with
      | skip => rw [hmade] at hentry; cases hentry
      | blocked reason => rw [hmade] at hentry; cases hentry
      | entry name' p' =>
        rw [hmade] at hentry
        obtain ⟨rfl, rfl⟩ := Prod.mk.inj (Option.some.inj hentry)
        rfl
    · rintro ⟨line, hline, hmade⟩
      exact ⟨_, List.mem_map_of_mem hline, by rw [hmade]; rfl⟩
  refine ⟨fun line hline reason hreason => ?_, fun l hl => ?_, fun line hline name p hmade => ?_⟩
  · exact (hblockers hscan).2 reason (List.mem_map.mpr ⟨line, hline, hreason⟩)
  · obtain ⟨raw, hraw, rfl⟩ := List.mem_map.mp hl
    obtain ⟨key, hkey⟩ := mem_values.mp hraw
    obtain rfl := hnamed key raw hkey
    have hsorted : (sortByKey PolicyEntry.sequence raw.entries).Pairwise fun a b =>
      a.sequence ≤ b.sequence := by
      have : Std.Total fun a b : PolicyEntry => a.sequence ≤ b.sequence := ⟨fun _ _ => le_total _ _⟩
      have : IsTrans PolicyEntry fun a b => a.sequence ≤ b.sequence := ⟨fun _ _ _ => le_trans⟩
      exact List.pairwise_insertionSort _ _
    have hone : duplicateSequence (sortByKey PolicyEntry.sequence raw.entries) = false := by
      have hfilter := List.filter_eq_nil_iff.mp (List.map_eq_nil_iff.mp hduplicate) _ hl
      simpa using hfilter
    refine ⟨ascending_of_duplicateSequence hsorted hone, fun p => ?_⟩
    rw [← hadded, mem_sortByKey, ListScan.held, hkey]
    rfl
  · have hmem := (hadded name p).mpr ⟨line, hline, hmade⟩
    unfold ListScan.held at hmem
    cases hget : (((lines prefixLists).map listLine).foldl ListScan.read ⟨∅, []⟩).lists[name]? with
    | none =>
      rw [hget] at hmem
      exact absurd hmem List.not_mem_nil
    | some raw => exact ⟨_, List.mem_map_of_mem (mem_values.mpr ⟨name, hget⟩), hnamed name raw hget⟩

/-- **The two readers agree where the inventory reports no blocker, exactly when every line of an
entry is careful**: then the inventory holds the entry that the strict reader returns. -/
theorem inventory_agrees_iff (h : (parseInventory bgp routeMaps prefixLists).blockers = []) :
    (∀ line ∈ lines prefixLists, ∀ name suffix, IsListLine line name suffix →
      ∃ e, parseEntry suffix = .ok e ∧
        HoldsEntry (parseInventory bgp routeMaps prefixLists) name e) ↔
    ∀ line ∈ lines prefixLists, ∀ name suffix, IsListLine line name suffix →
      name ≠ ("sequence-number" : Text) ∧ CarefulEntry suffix := by
  obtain ⟨hblocked, hlists, hnamed⟩ := of_parseInventory h
  refine forall_congr' fun line => forall_congr' fun hline => forall_congr' fun name =>
    forall_congr' fun suffix =>
    forall_congr' fun hentry => ?_
  obtain ⟨rest, hwords, hread⟩ := hentry.listLine
  constructor
  · rintro ⟨e, he, l, hl, rfl, p, hp, hdenotes, honly⟩
    obtain ⟨line', -, hline'⟩ := ((hlists l hl).2 p).mp hp
    have hname := name_ne_of_listLine hline'
    refine ⟨hname, ?_⟩
    rw [if_neg hname] at hread
    cases hmade : listEntry l.name ("seq" :: rest) with
    | skip => exact absurd hmade (listEntry_ne_skip _)
    | blocked reason => exact absurd (hread.trans hmade) (hblocked line hline reason)
    | entry name' q =>
      have hq : listLine line = .entry name' q := hread.trans hmade
      obtain ⟨rfl, number, action, qualifiers, haccepts⟩ := of_listEntry hmade
      obtain ⟨inside, hinside⟩ := splitWhitespace_entryBody_of_accepts hwords haccepts
      have hnumber := ((parseEntry_eq_ok hinside).mp he).1
      rw [haccepts.sequence] at hnumber
      -- the entry that the reader returns is the one this line made: no other has its number
      have hsame : q.sequence = p.sequence := (Option.some.inj hnumber).trans hdenotes.sequence.symm
      obtain rfl := honly q (((hlists l hl).2 q).mpr ⟨line, hline, hq⟩) hsame
      exact (parseEntry_iff_careful hwords hmade).mp ⟨e, he, hdenotes⟩
  · rintro ⟨hname, hcareful⟩
    rw [if_neg hname] at hread
    cases hmade : listEntry name ("seq" :: rest) with
    | skip => exact absurd hmade (listEntry_ne_skip _)
    | blocked reason => exact absurd (hread.trans hmade) (hblocked line hline reason)
    | entry name' q =>
      have hq : listLine line = .entry name' q := hread.trans hmade
      obtain ⟨e, he, hdenotes⟩ := (parseEntry_iff_careful hwords hmade).mpr hcareful
      obtain ⟨rfl, -⟩ := of_listEntry hmade
      obtain ⟨l, hl, rfl⟩ := hnamed line hline _ q hq
      refine ⟨e, he, l, hl, rfl, q, ((hlists l hl).2 q).mpr ⟨line, hline, hq⟩, hdenotes,
        fun q' hq' heq => ?_⟩
      exact (hlists l hl).1.eq_of_key_eq hq' (((hlists l hl).2 q).mpr ⟨line, hline, hq⟩) heq

/-- A BGP section that binds no policy. -/
def plainBgp : Text := "router bgp 65000"

/-- An entry that lost its last word. -/
def cutEntry : Text := "ip prefix-list OUT seq 5 permit 10.0.0.0/8 le"

theorem blockers_cutEntry : (parseInventory plainBgp [] cutEntry).blockers = [] := by
  decide +kernel

/-- The two readers on the entry that lost its last word. -/
theorem inventory_agrees_iff_cutEntry :
    (∀ line ∈ lines cutEntry, ∀ name suffix, IsListLine line name suffix →
      ∃ e, parseEntry suffix = .ok e ∧ HoldsEntry (parseInventory plainBgp [] cutEntry) name e) ↔
    ∀ line ∈ lines cutEntry, ∀ name suffix, IsListLine line name suffix →
      name ≠ ("sequence-number" : Text) ∧ CarefulEntry suffix :=
  inventory_agrees_iff blockers_cutEntry

/-- **The inventory takes a bound that lost its number for none**, and reports no blocker. -/
theorem inventory_guesses_cutEntry : (parseInventory plainBgp [] cutEntry).blockers = [] ∧
    ¬∀ line ∈ lines cutEntry, ∀ name suffix, IsListLine line name suffix →
      ∃ e, parseEntry suffix = .ok e ∧ HoldsEntry (parseInventory plainBgp [] cutEntry) name e := by
  refine ⟨blockers_cutEntry, fun hall => ?_⟩
  have hline : IsListLine cutEntry "OUT" "seq 5 permit 10.0.0.0/8 le" :=
    ⟨"ip prefix-list OUT ", ' ',
        by decide, by decide, by decide, by decide +kernel, by decide +kernel⟩
  have hlines : lines cutEntry = [cutEntry] := by decide +kernel
  obtain ⟨e, he, -⟩ := hall cutEntry (by rw [hlines]; exact List.mem_singleton_self _) _ _ hline
  have herror : (parseEntry "seq 5 permit 10.0.0.0/8 le").toOption = none := by decide +kernel
  rw [he] at herror
  cases herror

end Rerouter
