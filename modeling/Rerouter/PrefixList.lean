import Rerouter.Lib.FirstMatch
import Rerouter.Lib.Ipv4
import Rerouter.Lib.Outcome

/-!
# Reading a prefix list, and placing an entry in it

The pure half of the sequenced prefix-list edits (`reroute/prefix_list.rs`): the reader of
the output of `show ip prefix-list`, and the two planners that decide the sequence number an
edit is written at. The reader fails closed: a denied read, a list that is not shown, an
entry that does not parse in full, a sequence number shown twice and a number of entries
other than the one announced are all errors.

A list decides a route by its first entry that matches (`Rerouter.PrefixListEntry.matchesRoute`),
so it is an instance of `Rerouter.FirstMatch`, with the sequence number as the key. What the
reader hands on is strictly ascending in it, and every sequence number is one the router
accepts (`Rerouter.wellFormed_of_parsePrefixList`).
-/

namespace Rerouter

open Text Ipv4 FirstMatch

/-! ### Entries -/

/-- The least sequence number of an entry. -/
def minSeq : ℕ := 1

/-- The greatest sequence number of an entry. -/
def maxSeq : ℕ := 4294967294

/-- The gap left behind the last entry when one is appended. -/
def appendStep : ℕ := 5

/-- One `seq N permit|deny A.B.C.D/L [ge X] [le Y]` line. -/
structure PrefixListEntry where
  /-- The sequence number. -/
  sequence : ℕ
  /-- Whether the entry permits what it matches. -/
  permit : Bool
  /-- The network the first bits of a route are compared with. -/
  network : Addr
  /-- How many of them are. -/
  length : ℕ
  /-- The least length matched, if given. -/
  ge : Option ℕ
  /-- The greatest length matched, if given. -/
  le : Option ℕ
deriving DecidableEq

namespace PrefixListEntry

/-- `permit` or `deny`. -/
def action (e : PrefixListEntry) : Text := if e.permit then "permit" else "deny"

/-- The match clause of an entry, as the router prints it. -/
def clause (e : PrefixListEntry) : Text :=
  e.action ++ " " ++ addrText e.network ++ "/" ++ natText e.length ++
    (match e.ge with
      | some ge => " ge " ++ natText ge
      | none => []) ++
    match e.le with
      | some le => " le " ++ natText le
      | none => []

/-- The least length an entry matches. -/
def low (e : PrefixListEntry) : ℕ := e.ge.getD e.length

/-- The greatest length an entry matches: `ge` alone opens the range to 32. -/
def high (e : PrefixListEntry) : ℕ := e.le.getD (if e.ge.isSome then 32 else e.length)

/-- `PrefixListEntry::matches`: the first bits agree, and the length is in the range. -/
def matchesNet (e : PrefixListEntry) (network : Addr) (length : ℕ) : Bool :=
  sameNetwork e.network network e.length && e.low ≤ length && length ≤ e.high

/-- Whether an entry is exactly one route, with no range. -/
def isExactly (e : PrefixListEntry) (network : Addr) (length : ℕ) : Bool :=
  e.network = network && e.length = length && e.ge.isNone && e.le.isNone

/-- An entry against a route. -/
def matchesRoute (e : PrefixListEntry) (r : Route) : Bool := e.matchesNet r.network r.length

/-- The entry that permits one route and nothing else. -/
def exactPermit (sequence : ℕ) (r : Route) : PrefixListEntry :=
  ⟨sequence, true, r.network, r.length, none, none⟩

theorem matchesNet_iff {e : PrefixListEntry} {network : Addr} {length : ℕ} :
    e.matchesNet network length = true ↔
      sameNetwork e.network network e.length = true ∧ e.low ≤ length ∧ length ≤ e.high := by
  simp [matchesNet, and_assoc]

theorem isExactly_iff {e : PrefixListEntry} {r : Route} : e.isExactly r.network r.length = true ↔
    e = ⟨e.sequence, e.permit, r.network, r.length, none, none⟩ := by
  cases e
  simp [isExactly, and_assoc]

/-- **An entry that is exactly one route matches that route only.** -/
theorem matchesRoute_iff_of_isExactly {e : PrefixListEntry} {r : Route}
    (h : e.isExactly r.network r.length = true) (s : Route) :
    e.matchesRoute s = true ↔ s = r := by
  rw [isExactly_iff.mp h, matchesRoute, matchesNet_iff]
  simp only [low, high, Option.getD_none, Option.isSome_none, Bool.false_eq_true, if_false]
  constructor
  · rintro ⟨hnet, hlow, hhigh⟩
    have hlen : r.length = s.length := le_antisymm hlow hhigh
    exact (Route.eq_of_sameNetwork hlen (hlen ▸ hnet)).symm
  · rintro rfl
    exact ⟨sameNetwork_refl _ _, le_rfl, le_rfl⟩

theorem isExactly_exactPermit (n : ℕ) (r : Route) :
    (exactPermit n r).isExactly r.network r.length = true := by
  simp [isExactly, exactPermit]

end PrefixListEntry

/-! ### The first entry that matches -/

/-- The entry that decides a route. -/
def reached (entries : List PrefixListEntry) (r : Route) : Option PrefixListEntry :=
  firstMatch PrefixListEntry.matchesRoute entries r

/-- The decision on a route: permit, deny, or no entry that matches. -/
def decision (entries : List PrefixListEntry) (r : Route) : Option Bool :=
  (reached entries r).map PrefixListEntry.permit

/-- A list permits what its first matching entry permits, and denies the rest. -/
def permits (entries : List PrefixListEntry) (r : Route) : Bool := decision entries r = some true

/-- The list after an entry is written at a free sequence number. -/
def insertEntry (e : PrefixListEntry) (entries : List PrefixListEntry) : List PrefixListEntry :=
  insertByKey PrefixListEntry.sequence e entries

/-- The list after `no ip prefix-list NAME seq N`. -/
def deleteEntry (n : ℕ) (entries : List PrefixListEntry) : List PrefixListEntry :=
  eraseKey PrefixListEntry.sequence n entries

theorem permits_iff {entries : List PrefixListEntry} {r : Route} : permits entries r = true ↔
    ∃ e, reached entries r = some e ∧ e.permit = true := by
  simp [permits, decision]

theorem decision_eq_of_reached_eq {entries entries' : List PrefixListEntry} {r : Route}
    (h : reached entries' r = reached entries r) : decision entries' r = decision entries r := by
  rw [decision, h, decision]

/-! ### The reader -/

/-- What a router prints instead of the answer when it rejects a command. -/
def deniedMarkers : List Text :=
  ["% Invalid input", "ommand authorization failed", "not authorized", "% Incomplete command",
    "% Ambiguous command", "% Permission denied"]

/-- The line that says the read was rejected, if there is one. -/
def denied (output : Text) : Option Text :=
  ((lines output).map trim).find? fun l => deniedMarkers.any fun m => contains m l

/-- The greatest value of a 64-bit `usize`. -/
def maxUsize : ℕ := 18446744073709551615

/-- `ip prefix-list NAME: 2 entries`, as the name and the number. -/
def parseHeader (line : Text) : Option (Text × ℕ) := do
  let rest ← stripPrefix "ip prefix-list " line
  let (name, count) ← splitOnce ':' rest
  let name := trim name
  match splitWhitespace count with
  | [count, unit] =>
    let count ← parseUnsigned maxUsize count
    if (unit = ("entry" : Text) ∨ unit = ("entries" : Text)) ∧ name ≠ [] then
      some (name, count)
    else none
  | _ => none

/-- The `ge` and `le` of an entry, in either order and each at most once. -/
def parseRange (bad : Text) : List Text → Option ℕ → Option ℕ → Except Text (Option ℕ × Option ℕ)
  | [], ge, le => .ok (ge, le)
  | [_], _, _ => .error bad
  | tok :: value :: toks, ge, le => do
    let value ← okOr bad (parseUnsigned 255 value)
    if value > 32 then .error bad
    else if tok = ("ge" : Text) ∧ ge.isNone then parseRange bad toks (some value) le
    else if tok = ("le" : Text) ∧ le.isNone then parseRange bad toks ge (some value)
    else .error bad

/-- `a.b.c.d/len` in an entry, with nothing trimmed. -/
def parseNet (bad : Text) (tok : Text) : Except Text (Addr × ℕ) := do
  let (net, len) ← okOr bad (splitOnce '/' tok)
  let network ← okOr bad (parseAddr net)
  let length ← okOr bad (parseUnsigned 255 len)
  if length > 32 then .error bad
  else return (network, length)

/-- The text of an entry, without the `(hit count: 0, refcount: 0)` of the detailed form. -/
def entryBody (line : Text) : Text :=
  match splitOnce '(' line with
  | some (head, _) => trim head
  | none => line

/-- `permit` or `deny`. -/
def parseAction (tok : Text) : Option Bool :=
  if tok = ("permit" : Text) then some true
  else if tok = ("deny" : Text) then some false
  else none

/-- `seq 10 deny 0.0.0.0/0 le 32`, as an entry. -/
def parseEntry (line : Text) : Except Text PrefixListEntry :=
  let bad : Text := "could not parse prefix-list entry " ++ debugText line
  match splitWhitespace (entryBody line) with
  | seq :: sequence :: action :: net :: toks => do
    if seq ≠ ("seq" : Text) then .error bad
    else
      let sequence ← okOr bad (parseUnsigned 4294967295 sequence)
      if ¬(minSeq ≤ sequence ∧ sequence ≤ maxSeq) then .error bad
      else
        let permit ← okOr bad (parseAction action)
        let (network, length) ← parseNet bad net
        let (ge, le) ← parseRange bad toks none none
        return ⟨sequence, permit, network, length, ge, le⟩
  | _ => .error bad

/-- What the reader has seen so far. -/
structure ReadState where
  /-- The entries of the list, in the order they were shown. -/
  entries : List PrefixListEntry
  /-- The number of entries its header announced, once the header was seen. -/
  expected : Option ℕ
  /-- Whether the entries that follow are the list's. -/
  inTarget : Bool

/-- An entry line of the list. -/
def readEntry (name : Text) (st : ReadState) (line : Text) : Except Text ReadState := do
  let entry ← parseEntry line
  if st.entries.any fun e => e.sequence = entry.sequence then
    .error ("prefix-list '" ++ name ++ "' reported sequence " ++ natText entry.sequence ++
      " twice; refusing to act on an unreadable list")
  else .ok { st with entries := st.entries ++ [entry] }

/-- A line, trimmed. Anything but a header and an entry of the list is passed over. -/
def readTrimmed (name : Text) (st : ReadState) (line : Text) : Except Text ReadState :=
  if line = [] then .ok st
  else
    match parseHeader line with
    | some (header, count) =>
      if header = name then
        if st.expected.isSome then
          .error ("prefix-list '" ++ name ++
            "' was reported more than once; refusing an ambiguous read")
        else .ok { st with expected := some count, inTarget := true }
      else .ok { st with inTarget := false }
    | none =>
      if ¬startsWith "seq " line then .ok st
      else if ¬st.inTarget then .ok st
      else readEntry name st line

/-- One line of the output. -/
def readLine (name : Text) (st : ReadState) (line : Text) : Except Text ReadState :=
  readTrimmed name st (trim line)

/-- `parse_prefix_list`: the entries of the list of that name, in the order of their sequence
numbers. -/
def parsePrefixList (output name : Text) : Except Text (List PrefixListEntry) :=
  match denied output with
  | some marker => .error ("the router rejected the prefix-list read: " ++ marker)
  | none => do
    let st ← (lines output).foldlM (readLine name) ⟨[], none, false⟩
    match st.expected with
    | none =>
      .error ("the fresh read did not show prefix-list '" ++ name ++
        "' on the device; refusing to guess its contents")
    | some expected =>
      if expected ≠ st.entries.length then
        .error ("prefix-list '" ++ name ++ "' declared " ++ natText expected ++ " entr" ++
          (if expected = 1 then ("y" : Text) else "ies") ++
          " but the completed read contained " ++ natText st.entries.length ++
          "; refusing a truncated read")
      else .ok (sortByKey PrefixListEntry.sequence st.entries)

/-- `a.b.c.d/len` as a parameter of a template carries it. -/
def parsePrefix (pfx : Text) : Except Text (Addr × ℕ) := do
  let bad : Text := "invalid prefix " ++ debugText pfx
  let (net, len) ← okOr bad (splitOnce '/' pfx)
  let network ← okOr bad (parseAddr (trim net))
  let length ← okOr bad (parseUnsigned 255 (trim len))
  if length > 32 then .error bad
  else return (network, length)

/-! ### What is read is well formed -/

/-- **A list as the router keeps it**: one entry a sequence number, in their order, every
number and every length in the range the router accepts. -/
structure WellFormed (entries : List PrefixListEntry) : Prop where
  ascending : Ascending PrefixListEntry.sequence entries
  sequence_mem : ∀ e ∈ entries, minSeq ≤ e.sequence ∧ e.sequence ≤ maxSeq
  length_le : ∀ e ∈ entries, e.length ≤ 32

theorem of_parseNet {bad tok : Text} {network : Addr} {length : ℕ}
    (h : parseNet bad tok = .ok (network, length)) : length ≤ 32 := by
  obtain ⟨⟨net, len⟩, -, h⟩ := bind_eq_ok.mp h
  obtain ⟨a, -, h⟩ := bind_eq_ok.mp h
  obtain ⟨n, -, h⟩ := bind_eq_ok.mp h
  split_ifs at h with hn
  cases h
  omega

theorem of_parseEntry {line : Text} {e : PrefixListEntry} (h : parseEntry line = .ok e) :
    (minSeq ≤ e.sequence ∧ e.sequence ≤ maxSeq) ∧ e.length ≤ 32 := by
  unfold parseEntry at h
  split at h
  · split_ifs at h with hseq
    obtain ⟨n, -, h⟩ := bind_eq_ok.mp h
    split_ifs at h with hn
    obtain ⟨p, -, h⟩ := bind_eq_ok.mp h
    obtain ⟨⟨net, len⟩, hnet, h⟩ := bind_eq_ok.mp h
    obtain ⟨⟨ge, le⟩, -, h⟩ := bind_eq_ok.mp h
    cases h
    exact ⟨hn, of_parseNet hnet⟩
  · cases h

/-- What holds of the entries read so far. -/
def ReadState.Sound (st : ReadState) : Prop :=
  st.entries.Pairwise (fun a b => a.sequence ≠ b.sequence) ∧
    ∀ e ∈ st.entries, (minSeq ≤ e.sequence ∧ e.sequence ≤ maxSeq) ∧ e.length ≤ 32

theorem ReadState.Sound.readEntry {name line : Text} {st st' : ReadState} (hst : st.Sound)
    (h : Rerouter.readEntry name st line = .ok st') : st'.Sound := by
  obtain ⟨e, he, h⟩ := bind_eq_ok.mp h
  split_ifs at h with hdup
  cases h
  refine ⟨List.pairwise_append.mpr ⟨hst.1, by simp, fun a ha b hb => ?_⟩, fun a ha => ?_⟩
  · obtain rfl := List.mem_singleton.mp hb
    intro hab
    exact hdup (List.any_eq_true.mpr ⟨a, ha, by simpa using hab⟩)
  · rcases List.mem_append.mp ha with ha | ha
    · exact hst.2 a ha
    · obtain rfl := List.mem_singleton.mp ha
      exact of_parseEntry he

/-- One line keeps the entries apart and in range. -/
theorem ReadState.Sound.readLine {name line : Text} {st st' : ReadState} (hst : st.Sound)
    (h : Rerouter.readLine name st line = .ok st') : st'.Sound := by
  unfold Rerouter.readLine readTrimmed at h
  split at h
  · cases h
    exact hst
  split at h
  · split_ifs at h with hname hseen
    all_goals
      cases h
      exact hst
  · split_ifs at h with hseq htarget
    · exact hst.readEntry h
    all_goals
      cases h
      exact hst

/-- **What the reader accepts is well formed.** -/
theorem wellFormed_of_parsePrefixList {output name : Text} {entries : List PrefixListEntry}
    (h : parsePrefixList output name = .ok entries) : WellFormed entries := by
  unfold parsePrefixList at h
  split at h
  · cases h
  obtain ⟨st, hst, h⟩ := bind_eq_ok.mp h
  have hsound : st.Sound := foldlM_ok_invariant (fun s a s' hs hsnd => hsnd.readLine hs) hst
    ⟨List.Pairwise.nil, fun e he => absurd he (by simp)⟩
  split at h
  · cases h
  · split_ifs at h with hcount
    cases h
    refine ⟨ascending_sortByKey hsound.1, fun e he => ?_, fun e he => ?_⟩
    · exact (hsound.2 e (mem_sortByKey.mp he)).1
    · exact (hsound.2 e (mem_sortByKey.mp he)).2

theorem parsePrefix_text (r : Route) : parsePrefix r.text = .ok (r.network, r.length) := by
  have hnet : parseAddr (trim (addrText r.network)) = some r.network := by
    rw [trim_of_noWs (noWs_addrText _), parseAddr_addrText]
  have hle : r.length ≤ 32 := r.length_le
  have hlen : parseUnsigned 255 (trim (natText r.length)) = some r.length := by
    rw [trim_of_noWs (noWs_natText _), parseUnsigned_natText (by omega)]
  refine bind_eq_ok.mpr ⟨_, okOr_eq_ok.mpr r.splitOnce_text, ?_⟩
  refine bind_eq_ok.mpr ⟨_, okOr_eq_ok.mpr hnet, bind_eq_ok.mpr ⟨_, okOr_eq_ok.mpr hlen, ?_⟩⟩
  rw [if_neg (by omega)]
  rfl

end Rerouter
