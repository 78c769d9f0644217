import Mathlib.Data.List.TakeWhile
import Rerouter.Lib.Ipv6

/-!
# IPv6 addresses, as numbers

An address is its 128 bits (`Rerouter.Ipv6.Addr`). It is read the way `Ipv6Addr::from_str` does it
(`Rerouter.Ipv6.parseAddr`) and printed the way its `Display` does: eight groups in hexadecimal, the
first longest run of at least two zero groups written `::`, and an address that maps an IPv4
address with that address at its end (`Rerouter.Ipv6.addrText`).

What is printed reads back (`Rerouter.Ipv6.parseAddr_addrText`), and the texts that read are those
of `Rerouter.Ipv6.isAddr` (`Rerouter.Ipv6.isAddr_eq`).
-/

namespace Rerouter

namespace Ipv6

open Text

/-- An IPv6 address, as its 128 bits, most significant group first. -/
abbrev Addr := BitVec 128

/-- The address of eight groups. -/
def ofGroups (gs : List ℕ) : Addr := BitVec.ofNat 128 (gs.foldl (fun v g => v * 65536 + g) 0)

/-- The eight groups of an address. -/
def groups (x : Addr) : List ℕ :=
  [x.toNat / 65536 ^ 7, x.toNat / 65536 ^ 6 % 65536, x.toNat / 65536 ^ 5 % 65536,
    x.toNat / 65536 ^ 4 % 65536, x.toNat / 65536 ^ 3 % 65536, x.toNat / 65536 ^ 2 % 65536,
    x.toNat / 65536 % 65536, x.toNat % 65536]

/-- The network mask of a length. -/
def mask (length : ℕ) : Addr := if length = 0 then 0 else BitVec.allOnes 128 <<< (128 - length)

/-! ### Reading -/

/-- The value of a hexadecimal digit. -/
def hexDigit (c : Char) : ℕ :=
  if c.isDigit then c.toNat - 48 else if 'a' ≤ c ∧ c ≤ 'f' then c.toNat - 87 else c.toNat - 55

/-- The value of some hexadecimal digits. -/
def hexValue (ds : Text) : ℕ := ds.foldl (fun v c => v * 16 + hexDigit c) 0

/-- One group, and what is left. -/
def groupAt (s : Text) : Option (ℕ × Text) :=
  (readGroup s).map fun rest => (hexValue (s.takeWhile isHexDigit), rest)

/-- One octet of an IPv4 address, and what is left. -/
def octetAt (s : Text) : Option (ℕ × Text) :=
  (Ipv4.parseOctet (s.takeWhile Char.isDigit)).map fun n => (n, s.dropWhile Char.isDigit)

/-- An IPv4 address at the front of a text, as two groups, and what is left. -/
def ipv4At (s : Text) : Option (List ℕ × Text) := do
  let (a, s) ← octetAt s
  let (b, s) ← octetAt (← readChar '.' s)
  let (c, s) ← octetAt (← readChar '.' s)
  let (d, s) ← octetAt (← readChar '.' s)
  some ([a * 256 + b, c * 256 + d], s)

/-- `read_groups`: the groups that were read, whether the last two were an IPv4 address, and what is
left. -/
def groupsAt (first : Bool) : ℕ → Text → List ℕ × Bool × Text
  | 0, s => ([], false, s)
  | room + 1, s =>
    match if 0 < room then readSeparator ':' first s >>= ipv4At else none with
    | some (gs, rest) => (gs, true, rest)
    | none =>
      match readSeparator ':' first s >>= groupAt with
      | some (g, rest) => (g :: (groupsAt false room rest).1, (groupsAt false room rest).2)
      | none => ([], false, s)

/-- The groups of an address whose front was read. -/
def tailGroups (head : List ℕ × Bool × Text) : Option (List ℕ) :=
  if head.1.length = 8 then if head.2.2 = [] then some head.1 else none
  else if head.2.1 then none
  else
    match readChar ':' head.2.2 >>= readChar ':' with
    | some rest =>
      if (groupsAt true (8 - (head.1.length + 1)) rest).2.2 = [] then
        some (head.1 ++ List.replicate
          (8 - (head.1.length + (groupsAt true (8 - (head.1.length + 1)) rest).1.length)) 0 ++
            (groupsAt true (8 - (head.1.length + 1)) rest).1)
      else none
    | none => none

/-- `Ipv6Addr::from_str`. -/
def parseAddr (s : Text) : Option Addr := (tailGroups (groupsAt true 8 s)).map ofGroups

/-! ### Printing -/

/-- A run of zero groups: where it starts, and how long it is. -/
structure Span where
  start : ℕ
  len : ℕ
deriving DecidableEq

/-- The runs so far: the current one and the longest. -/
structure SpanScan where
  index : ℕ
  current : Span
  longest : Span

/-- A group, after those before it. -/
def SpanScan.read (st : SpanScan) (g : ℕ) : SpanScan :=
  if g = 0 then
    let current : Span := ⟨if st.current.len = 0 then st.index else st.current.start,
      st.current.len + 1⟩
    ⟨st.index + 1, current, if st.longest.len < current.len then current else st.longest⟩
  else ⟨st.index + 1, ⟨0, 0⟩, st.longest⟩

/-- The first longest run of zero groups. -/
def zeroSpan (gs : List ℕ) : Span := (gs.foldl SpanScan.read ⟨0, ⟨0, 0⟩, ⟨0, 0⟩⟩).longest

/-- A group, in hexadecimal. -/
def groupText (g : ℕ) : Text := Nat.toDigits 16 g

/-- Groups behind others. -/
def pieces (gs : List ℕ) : Text := gs.flatMap fun g => ':' :: groupText g

/-- Groups, with a colon between them. -/
def colonText : List ℕ → Text
  | [] => []
  | g :: gs => groupText g ++ pieces gs

/-- `to_ipv4_mapped`. -/
def isMapped (x : Addr) : Bool := decide ((groups x).take 6 = [0, 0, 0, 0, 0, 65535])

/-- `Ipv6Addr`'s `Display`. -/
def addrText (x : Addr) : Text :=
  if isMapped x then "::ffff:" ++ Ipv4.addrText (x.setWidth 32)
  else if 1 < (zeroSpan (groups x)).len then
    colonText ((groups x).take (zeroSpan (groups x)).start) ++ "::" ++
      colonText ((groups x).drop ((zeroSpan (groups x)).start + (zeroSpan (groups x)).len))
  else colonText (groups x)

example : addrText (ofGroups [0x2001, 0xdb8, 0, 0, 1, 0, 0, 1]) = "2001:db8::1:0:0:1" ∧
    parseAddr "::ffff:192.0.2.1" = some (ofGroups [0, 0, 0, 0, 0, 0xffff, 0xC000, 0x0201]) := by
  decide +kernel

/-! ### One group -/

theorem length_groups (x : Addr) : (groups x).length = 8 := rfl

theorem lt_of_mem_groups {x : Addr} {g : ℕ} (h : g ∈ groups x) : g < 65536 := by
  have hx : x.toNat < 65536 ^ 8 := x.isLt
  simp only [groups, List.mem_cons, List.not_mem_nil, or_false] at h
  rcases h with rfl | rfl | rfl | rfl | rfl | rfl | rfl | rfl
  · exact Nat.div_lt_of_lt_mul (by rw [← Nat.pow_succ]; exact hx)
  all_goals exact Nat.mod_lt _ (by decide)

theorem ofGroups_groups (x : Addr) : ofGroups (groups x) = x := by
  have hsum : (groups x).foldl (fun v g => v * 65536 + g) 0 = x.toNat := by
    simp only [groups, List.foldl_cons, List.foldl_nil]
    omega
  rw [ofGroups, hsum, BitVec.ofNat_toNat, BitVec.setWidth_eq]

/-- What no group reaches over: the end of a text, a colon or a slash. -/
def Closed (s : Text) : Prop := ∀ c ∈ s.head?, isHexDigit c = false ∧ c ≠ '.'

theorem closed_nil : Closed [] := by simp [Closed]

theorem closed_colon (s : Text) : Closed (':' :: s) := by
  intro c hc
  obtain rfl : ':' = c := by simpa using hc
  decide

theorem isHexDigit_digitChar : ∀ d : Fin 16, isHexDigit (Nat.digitChar d) = true ∧
    hexDigit (Nat.digitChar d) = d := by decide +kernel

/-- A digit in front of the last. -/
theorem groupText_snoc {n : ℕ} (h : 16 ≤ n) :
    groupText n = groupText (n / 16) ++ [Nat.digitChar (n % 16)] := by
  rw [groupText, groupText, Nat.toDigits_of_base_le (by decide) h]

/-- **A group is written in digits, and the digits are worth the group.** -/
theorem groupText_spec (n : ℕ) :
    (∀ c ∈ groupText n, isHexDigit c = true) ∧ hexValue (groupText n) = n := by
  induction n using Nat.strongRecOn with
  | _ n ih =>
    by_cases hn : n < 16
    · obtain ⟨hhex, hvalue⟩ := isHexDigit_digitChar ⟨n, hn⟩
      rw [groupText, Nat.toDigits_of_lt_base hn]
      constructor
      · simpa using hhex
      · simpa [hexValue] using hvalue
    · have hge : 16 ≤ n := Nat.le_of_not_lt hn
      obtain ⟨hdigits, hvalue⟩ := ih (n / 16) (Nat.div_lt_self (by omega) (by decide))
      obtain ⟨hhex, hdigit⟩ := isHexDigit_digitChar ⟨n % 16, Nat.mod_lt _ (by decide)⟩
      rw [groupText_snoc hge]
      constructor
      · intro c hc
        rcases List.mem_append.mp hc with hc | hc
        · exact hdigits c hc
        · rw [List.mem_singleton.mp hc]
          exact hhex
      · rw [hexValue, List.foldl_append]
        change (hexValue (groupText (n / 16))) * 16 + hexDigit (Nat.digitChar (n % 16)) = n
        rw [hvalue, show hexDigit (Nat.digitChar (n % 16)) = n % 16 from hdigit]
        omega

theorem length_groupText {g : ℕ} (h : g < 65536) :
    1 ≤ (groupText g).length ∧ (groupText g).length ≤ 4 :=
  ⟨Nat.length_toDigits_pos, (Nat.length_toDigits_le_iff (by decide) (by decide)).mpr h⟩

theorem takeWhile_groupText {g : ℕ} {s : Text} (hs : Closed s) :
    (groupText g ++ s).takeWhile isHexDigit = groupText g ∧
      (groupText g ++ s).dropWhile isHexDigit = s := by
  have hall := (groupText_spec g).1
  rw [List.takeWhile_append_of_pos hall, List.dropWhile_append_of_pos hall]
  cases s with
  | nil => simp
  | cons c s =>
    have hc : isHexDigit c = false := (hs c (by simp)).1
    simp [hc]

/-- **A group that is printed reads back.** -/
theorem groupAt_groupText {g : ℕ} {s : Text} (hg : g < 65536) (hs : Closed s) :
    groupAt (groupText g ++ s) = some (g, s) := by
  obtain ⟨htake, hdrop⟩ := @takeWhile_groupText g s hs
  rw [groupAt, readGroup, htake, hdrop, if_pos (length_groupText hg), (groupText_spec g).2]
  rfl

/-- A group is not the start of an IPv4 address. -/
theorem ipv4At_groupText {g : ℕ} {s : Text} (hs : Closed s) : ipv4At (groupText g ++ s) = none := by
  have hdot : ∀ t, readChar '.' ((groupText g ++ s).dropWhile Char.isDigit) ≠ some t := by
    intro t ht
    have hhead : ((groupText g ++ s).dropWhile Char.isDigit).head? = some '.' := by
      unfold readChar at ht
      split at ht
      · rename_i c r hcons
        split_ifs at ht with hc
        rw [hcons, hc]
        rfl
      · cases ht
    -- the dot would stand in the group or right behind it
    have hmem : '.' ∈ groupText g ∨ '.' ∈ s.head? := by
      have hall := (groupText_spec g).1
      by_cases hdigits : ∀ c ∈ groupText g, c.isDigit = true
      · rw [List.dropWhile_append_of_pos hdigits] at hhead
        right
        cases s with
        | nil => cases hhead
        | cons c s =>
          by_cases hc : c.isDigit = true
          · have hhex : isHexDigit c = true := by simp [isHexDigit, hc]
            rw [(hs c (by simp)).1] at hhex
            cases hhex
          · rw [List.dropWhile_cons_of_neg hc] at hhead
            exact hhead
      · left
        have hne : (groupText g).dropWhile Char.isDigit ≠ [] := by
          rw [Ne, List.dropWhile_eq_nil_iff]
          exact hdigits
        have hsplit : (groupText g ++ s).dropWhile Char.isDigit =
            (groupText g).dropWhile Char.isDigit ++ s := by
          rw [List.dropWhile_append, if_neg (by simpa using hne)]
        rw [hsplit, List.head?_append_of_ne_nil _ hne] at hhead
        exact (List.dropWhile_sublist _).mem (List.mem_of_head? hhead)
    rcases hmem with hmem | hmem
    · exact absurd ((groupText_spec g).1 _ hmem) (by decide)
    · exact (hs _ hmem).2 rfl
  unfold ipv4At
  cases hoctet : octetAt (groupText g ++ s) with
  | none => rfl
  | some p =>
    have hrest : p.2 = (groupText g ++ s).dropWhile Char.isDigit := by
      unfold octetAt at hoctet
      obtain ⟨n, -, rfl⟩ := Option.map_eq_some_iff.mp hoctet
      rfl
    cases hchar : readChar '.' p.2 with
    | none => simp [hchar]
    | some t => exact absurd (hrest ▸ hchar) (hdot t)

/-! ### Several groups -/

/-- Where a run of groups ends: at the end of the text, or at a `::`. -/
def Stops (s : Text) : Prop := s = [] ∨ ∃ rest, s = ':' :: ':' :: rest

theorem Stops.closed {s : Text} (h : Stops s) : Closed s := by
  rcases h with rfl | ⟨rest, rfl⟩
  · exact closed_nil
  · exact closed_colon _

theorem closed_pieces {gs : List ℕ} {s : Text} (hs : Closed s) : Closed (pieces gs ++ s) := by
  cases gs with
  | nil => exact hs
  | cons g gs => exact closed_colon _

/-- No group stands at a `::`, and none at the end. -/
theorem groupsAt_stop {first : Bool} {room : ℕ} {s : Text} (h : Stops s) :
    groupsAt first room s = ([], false, s) := by
  -- neither a group nor an embedded address begins with such a character
  have hnot : ∀ r, Closed r → ipv4At r = none ∧ groupAt r = none := by
    intro r hr
    have htake : r.takeWhile isHexDigit = [] ∧ r.takeWhile Char.isDigit = [] := by
      cases r with
      | nil => exact ⟨rfl, rfl⟩
      | cons c r =>
        have hc : isHexDigit c = false := (hr c (by simp)).1
        have hd : c.isDigit = false := by
          simp only [isHexDigit, Bool.or_eq_false_iff] at hc
          exact hc.1.1
        exact ⟨by simp [hc], by simp [hd]⟩
    constructor
    · have hnone : Ipv4.parseOctet ([] : Text) = none := by decide
      simp [ipv4At, octetAt, htake.2, hnone]
    · simp [groupAt, readGroup, htake.1]
  cases room with
  | zero => rfl
  | succ room =>
    obtain ⟨r, hr⟩ : ∃ r, readSeparator ':' first s = r ∧
        ∀ t, r = some t → ipv4At t = none ∧ groupAt t = none := by
      refine ⟨_, rfl, ?_⟩
      intro t ht
      rcases h with rfl | ⟨rest, rfl⟩
      · cases first with
        | true =>
          cases ht
          exact hnot [] closed_nil
        | false => cases ht
      · cases first with
        | true =>
          cases ht
          exact hnot _ (closed_colon _)
        | false =>
          cases ht
          exact hnot _ (closed_colon _)
    rw [groupsAt, hr.1]
    cases r with
    | none => simp
    | some t =>
      obtain ⟨hipv4, hgroup⟩ := hr.2 t rfl
      simp [hipv4, hgroup]

/-- One more group is read. -/
theorem groupsAt_group {first : Bool} {room g : ℕ} {s t : Text} (hg : g < 65536) (ht : Closed t)
    (hs : readSeparator ':' first s = some (groupText g ++ t)) :
    groupsAt first (room + 1) s = (g :: (groupsAt false room t).1, (groupsAt false room t).2) := by
  rw [groupsAt, hs]
  simp [ipv4At_groupText ht, groupAt_groupText hg ht]

/-- **A run of groups reads back**, up to where it stops. -/
theorem groupsAt_pieces {gs : List ℕ} {room : ℕ} {s : Text} (hgs : ∀ g ∈ gs, g < 65536)
    (hroom : gs.length ≤ room) (hs : Stops s) :
    groupsAt false room (pieces gs ++ s) = (gs, false, s) := by
  induction gs generalizing room with
  | nil => exact groupsAt_stop hs
  | cons g gs ih =>
    obtain ⟨room, rfl⟩ : ∃ r, room = r + 1 := ⟨room - 1, by simp at hroom; omega⟩
    have htail := ih (fun g hg => hgs g (List.mem_cons_of_mem _ hg)) (Nat.le_of_succ_le_succ hroom)
    rw [groupsAt_group (hgs g (by simp)) (closed_pieces hs.closed), htail]
    simp [pieces, readSeparator, readChar]

/-- And so does one at the front of a text. -/
theorem groupsAt_colonText {gs : List ℕ} {room : ℕ} {s : Text} (hgs : ∀ g ∈ gs, g < 65536)
    (hroom : gs.length ≤ room) (hs : Stops s) :
    groupsAt true room (colonText gs ++ s) = (gs, false, s) := by
  cases gs with
  | nil => exact groupsAt_stop hs
  | cons g gs =>
    obtain ⟨room, rfl⟩ : ∃ r, room = r + 1 := ⟨room - 1, by simp at hroom; omega⟩
    have htail := groupsAt_pieces (fun g hg => hgs g (List.mem_cons_of_mem _ hg))
      (Nat.le_of_succ_le_succ hroom) hs
    rw [groupsAt_group (hgs g (by simp)) (closed_pieces hs.closed), htail]
    simp [colonText, readSeparator]

/-! ### The longest run of zeros -/

/-- What a scan knows: both runs are runs of zeros in what was read. -/
structure SpanScan.Sound (read : List ℕ) (st : SpanScan) : Prop where
  index : st.index = read.length
  current : st.current.len ≠ 0 → st.current.start + st.current.len = read.length
  currentZero : ∀ i, st.current.start ≤ i → i < st.current.start + st.current.len →
    read[i]? = some 0
  bound : st.longest.start + st.longest.len ≤ read.length
  zero : ∀ i, st.longest.start ≤ i → i < st.longest.start + st.longest.len → read[i]? = some 0

theorem SpanScan.Sound.read {read : List ℕ} {st : SpanScan} (h : st.Sound read) (g : ℕ) :
    (st.read g).Sound (read ++ [g]) := by
  have hkeep : ∀ i, i < read.length → (read ++ [g])[i]? = read[i]? := fun i hi =>
    List.getElem?_append_left hi
  have hlast : (read ++ [g])[read.length]? = some g := by simp
  have hbound := h.bound
  have hlongest : ∀ i, st.longest.start ≤ i → i < st.longest.start + st.longest.len →
      (read ++ [g])[i]? = some 0 := by
    intro i hi hi'
    rw [hkeep i (by omega)]
    exact h.zero i hi hi'
  unfold SpanScan.read
  split
  · rename_i hg
    subst hg
    have hcurrent := h.current
    -- a zero lengthens the current run, or starts one here
    have hstart : ∀ start, start = (if st.current.len = 0 then st.index else st.current.start) →
        start + (st.current.len + 1) = (read ++ [0]).length ∧
          ∀ i, start ≤ i → i < start + (st.current.len + 1) → (read ++ [0])[i]? = some 0 := by
      intro start hstart
      have hindex := h.index
      constructor
      · rw [List.length_append, List.length_singleton]
        split at hstart
        · omega
        · have := hcurrent ‹_›
          omega
      · intro i hi hi'
        rcases Nat.lt_or_ge i read.length with hlt | hge
        · rw [hkeep i hlt]
          split at hstart
          · omega
          · exact h.currentZero i (by omega) (by have := hcurrent ‹_›; omega)
        · have hi : i = read.length := by
            split at hstart
            · omega
            · have := hcurrent ‹_›
              omega
          rw [hi, hlast]
    obtain ⟨hlen, hzero⟩ := hstart _ rfl
    refine ⟨by simp [h.index], fun _ => hlen, hzero, ?_, ?_⟩
    · dsimp only
      split
      · exact hlen.le
      · rw [List.length_append, List.length_singleton]
        omega
    · dsimp only
      split
      · exact hzero
      · exact hlongest
  · refine ⟨by simp [h.index], fun hne => absurd rfl hne,
      fun i hi hi' => by simp at hi', ?_, hlongest⟩
    rw [List.length_append, List.length_singleton]
    exact Nat.le_succ_of_le hbound

/-- **The run that is cut out of an address is a run of zeros.** -/
theorem zeroSpan_spec (gs : List ℕ) : (zeroSpan gs).start + (zeroSpan gs).len ≤ gs.length ∧
    gs = gs.take (zeroSpan gs).start ++ List.replicate (zeroSpan gs).len 0 ++
      gs.drop ((zeroSpan gs).start + (zeroSpan gs).len) := by
  have hrun : ∀ (rest read : List ℕ) (st : SpanScan), st.Sound read →
      (rest.foldl SpanScan.read st).Sound (read ++ rest) := by
    intro rest
    induction rest with
    | nil =>
      intro read st h
      rw [List.append_nil]
      exact h
    | cons g rest ih =>
      intro read st h
      have hnext := ih (read ++ [g]) (st.read g) (h.read g)
      rw [List.append_assoc] at hnext
      exact hnext
  have hsound := hrun gs [] ⟨0, ⟨0, 0⟩, ⟨0, 0⟩⟩
    ⟨rfl, fun hne => absurd rfl hne, fun i _ hi => absurd hi (by simp), le_rfl,
      fun i _ hi => absurd hi (by simp)⟩
  rw [List.nil_append] at hsound
  have hbound : (zeroSpan gs).start + (zeroSpan gs).len ≤ gs.length := hsound.bound
  have hzero : ∀ i, (zeroSpan gs).start ≤ i → i < (zeroSpan gs).start + (zeroSpan gs).len →
      gs[i]? = some 0 := hsound.zero
  refine ⟨hbound, List.ext_getElem? fun i => ?_⟩
  have htake : (gs.take (zeroSpan gs).start).length = (zeroSpan gs).start := by
    rw [List.length_take]
    omega
  rcases Nat.lt_or_ge i (zeroSpan gs).start with hi | hi
  · rw [List.append_assoc, List.getElem?_append_left (by omega), List.getElem?_take_of_lt hi]
  · rw [List.append_assoc, List.getElem?_append_right (by omega), htake]
    rcases Nat.lt_or_ge i ((zeroSpan gs).start + (zeroSpan gs).len) with hi' | hi'
    · rw [List.getElem?_append_left (by rw [List.length_replicate]; omega), hzero i hi hi',
        List.getElem?_replicate, if_pos (by omega)]
    · rw [List.getElem?_append_right (by rw [List.length_replicate]; omega), List.length_replicate,
        List.getElem?_drop]
      congr 1
      omega

/-! ### The round trip -/

theorem octetAt_natText {n : ℕ} {s : Text} (hn : n < 256) (hs : ∀ c ∈ s.head?, c.isDigit = false) :
    octetAt (natText n ++ s) = some (n, s) := by
  have hdigits : ∀ c ∈ natText n, c.isDigit = true := fun c hc => isDigit_of_mem_natText hc
  have hend : s.takeWhile Char.isDigit = [] ∧ s.dropWhile Char.isDigit = s := by
    cases s with
    | nil => exact ⟨rfl, rfl⟩
    | cons c s =>
      have hc : c.isDigit = false := hs c (by simp)
      simp [hc]
  rw [octetAt, List.takeWhile_append_of_pos hdigits, List.dropWhile_append_of_pos hdigits,
    hend.1, hend.2, List.append_nil, Ipv4.parseOctet_natText hn]
  rfl

/-- An IPv4 address that is printed reads back as two groups. -/
theorem ipv4At_addrText (v : Ipv4.Addr) : ipv4At (Ipv4.addrText v) =
    some ([v.toNat / 16777216 * 256 + v.toNat / 65536 % 256,
      v.toNat / 256 % 256 * 256 + v.toNat % 256], []) := by
  have hv : v.toNat < 4294967296 := v.isLt
  have hdot : ∀ s : Text, ∀ c ∈ ('.' :: s).head?, c.isDigit = false := by
    intro s c hc
    obtain rfl : '.' = c := by simpa using hc
    decide
  have hend : octetAt (natText (v.toNat % 256)) = some (v.toNat % 256, []) := by
    have hlast := @octetAt_natText (v.toNat % 256) [] (Nat.mod_lt _ (by decide)) (by simp)
    rwa [List.append_nil] at hlast
  rw [ipv4At, Ipv4.addrText, octetAt_natText (by omega) (hdot _)]
  simp only [Option.bind_eq_bind, Option.bind_some, readChar, if_true]
  rw [octetAt_natText (Nat.mod_lt _ (by decide)) (hdot _)]
  simp only [Option.bind_some, if_true]
  rw [octetAt_natText (Nat.mod_lt _ (by decide)) (hdot _)]
  simp only [Option.bind_some, if_true, hend]

theorem groupText_max : groupText 65535 = "ffff" := by decide +kernel

/-- The groups of an address that maps an IPv4 address. -/
theorem groups_of_isMapped {x : Addr} (h : isMapped x = true) : groups x =
    [0, 0, 0, 0, 0, 65535,
      (x.setWidth 32).toNat / 16777216 * 256 + (x.setWidth 32).toNat / 65536 % 256,
      (x.setWidth 32).toNat / 256 % 256 * 256 + (x.setWidth 32).toNat % 256] := by
  have htake : (groups x).take 6 = [0, 0, 0, 0, 0, 65535] := of_decide_eq_true h
  have hsplit : groups x = (groups x).take 6 ++ [x.toNat / 65536 % 65536, x.toNat % 65536] := rfl
  have hwidth : (x.setWidth 32).toNat = x.toNat % 4294967296 := BitVec.toNat_setWidth 32 x
  rw [hsplit, htake, hwidth]
  simp only [List.cons_append, List.nil_append, List.cons.injEq, and_true, true_and]
  constructor
  · omega
  · omega

theorem tailGroups_mapped (v : Ipv4.Addr) :
    tailGroups (groupsAt true 8 ("::ffff:" ++ Ipv4.addrText v)) =
    some [0, 0, 0, 0, 0, 65535, v.toNat / 16777216 * 256 + v.toNat / 65536 % 256,
      v.toNat / 256 % 256 * 256 + v.toNat % 256] := by
  have hstop : Stops ("::ffff:" ++ Ipv4.addrText v) := Or.inr ⟨"ffff:" ++ Ipv4.addrText v, rfl⟩
  have hmapped : groupsAt false 6 (':' :: Ipv4.addrText v) =
      ([v.toNat / 16777216 * 256 + v.toNat / 65536 % 256,
        v.toNat / 256 % 256 * 256 + v.toNat % 256], true, []) := by
    rw [groupsAt]
    simp [readSeparator, readChar, ipv4At_addrText]
  have hback : groupsAt true 7 ("ffff:" ++ Ipv4.addrText v) =
      ([65535, v.toNat / 16777216 * 256 + v.toNat / 65536 % 256,
        v.toNat / 256 % 256 * 256 + v.toNat % 256], true, []) := by
    have hgroup : readSeparator ':' true ("ffff:" ++ Ipv4.addrText v : Text) =
        some (groupText 65535 ++ ':' :: Ipv4.addrText v) := by
      rw [groupText_max]
      rfl
    rw [groupsAt_group (by decide) (closed_colon (Ipv4.addrText v)) hgroup, hmapped]
  have hread : readChar ':' ("::ffff:" ++ Ipv4.addrText v) >>= readChar ':' =
      some ("ffff:" ++ Ipv4.addrText v) := rfl
  rw [groupsAt_stop hstop, tailGroups]
  simp only [List.length_nil, hread]
  rw [if_neg (by decide), if_neg (by decide)]
  simp only [Nat.zero_add, Nat.reduceSub, hback, if_true]
  rfl

/-- Two runs of groups with zeros between them read back as one. -/
theorem tailGroups_span {pre post : List ℕ} (hpre : ∀ g ∈ pre, g < 65536)
    (hpost : ∀ g ∈ post, g < 65536) (hlen : pre.length + post.length < 8) :
    tailGroups (groupsAt true 8 (colonText pre ++ "::" ++ colonText post)) =
      some (pre ++ List.replicate (8 - (pre.length + post.length)) 0 ++ post) := by
  have hhead := @groupsAt_colonText pre 8 ("::" ++ colonText post) hpre (by omega)
    (Or.inr ⟨colonText post, rfl⟩)
  have htail := @groupsAt_colonText post (8 - (pre.length + 1)) [] hpost (by omega) (Or.inl rfl)
  rw [List.append_nil] at htail
  have hread : readChar ':' ("::" ++ colonText post) >>= readChar ':' = some (colonText post) := rfl
  rw [List.append_assoc, hhead, tailGroups]
  simp only [hread]
  rw [if_neg (by omega), if_neg (by decide), htail]
  simp

theorem tailGroups_colonText {gs : List ℕ} (hgs : ∀ g ∈ gs, g < 65536) (hlen : gs.length = 8) :
    tailGroups (groupsAt true 8 (colonText gs)) = some gs := by
  have hhead := @groupsAt_colonText gs 8 [] hgs hlen.le (Or.inl rfl)
  rw [List.append_nil] at hhead
  rw [hhead, tailGroups, if_pos hlen, if_pos rfl]

/-- **A printed address reads back.** -/
theorem parseAddr_addrText (x : Addr) : parseAddr (addrText x) = some x := by
  have hgroups : ∀ g ∈ groups x, g < 65536 := fun g hg => lt_of_mem_groups hg
  suffices htail : tailGroups (groupsAt true 8 (addrText x)) = some (groups x) by
    rw [parseAddr, htail, Option.map_some, ofGroups_groups]
  unfold addrText
  split
  · rename_i hmapped
    rw [groups_of_isMapped hmapped]
    exact tailGroups_mapped _
  · split
    · rename_i hspan
      obtain ⟨hbound, hsplit⟩ := zeroSpan_spec (groups x)
      rw [length_groups] at hbound
      have hpre : ((groups x).take (zeroSpan (groups x)).start).length =
        (zeroSpan (groups x)).start := by
        rw [List.length_take, length_groups]
        omega
      have hpost : ((groups x).drop
        ((zeroSpan (groups x)).start + (zeroSpan (groups x)).len)).length =
          8 - ((zeroSpan (groups x)).start + (zeroSpan (groups x)).len) := by
        rw [List.length_drop, length_groups]
      rw [tailGroups_span (fun g hg => hgroups g (List.mem_of_mem_take hg))
        (fun g hg => hgroups g (List.mem_of_mem_drop hg)) (by omega), hpre, hpost]
      -- what was cut out is as long as the gap that is filled with zeros
      have hzeros : 8 - ((zeroSpan (groups x)).start +
          (8 - ((zeroSpan (groups x)).start + (zeroSpan (groups x)).len))) =
          (zeroSpan (groups x)).len := by
        omega
      rw [hzeros, ← hsplit]
    · exact tailGroups_colonText hgroups (length_groups x)

/-! ### The characters of an address -/

theorem mem_colonText {gs : List ℕ} {c : Char} (h : c ∈ colonText gs) :
    isHexDigit c = true ∨ c = ':' := by
  have hpieces : ∀ gs : List ℕ, c ∈ pieces gs → isHexDigit c = true ∨ c = ':' := by
    intro gs hc
    obtain ⟨g, -, hg⟩ := List.mem_flatMap.mp hc
    rcases List.mem_cons.mp hg with rfl | hg
    · exact Or.inr rfl
    · exact Or.inl ((groupText_spec g).1 c hg)
  cases gs with
  | nil => exact absurd h List.not_mem_nil
  | cons g gs =>
    rcases List.mem_append.mp h with h | h
    · exact Or.inl ((groupText_spec g).1 c h)
    · exact hpieces gs h

/-- The fixed parts of a text are colons and hexadecimal digits as well. -/
theorem hexOrColon_of_all {s : Text} {c : Char}
    (hs : s.all (fun c => isHexDigit c || decide (c = ':')) = true)
    (hc : c ∈ s) : isHexDigit c = true ∨ c = ':' ∨ c = '.' := by
  have hall := List.all_eq_true.mp hs c hc
  rw [Bool.or_eq_true, decide_eq_true_eq] at hall
  exact hall.imp_right Or.inl

/-- An address is printed in hexadecimal digits, colons and dots. -/
theorem mem_addrText {x : Addr} {c : Char} (h : c ∈ addrText x) :
    isHexDigit c = true ∨ c = ':' ∨ c = '.' := by
  have hcolon : ∀ gs : List ℕ, c ∈ colonText gs → isHexDigit c = true ∨ c = ':' ∨
    c = '.' := fun gs hc =>
    (mem_colonText hc).imp_right Or.inl
  unfold addrText at h
  split at h
  · rcases List.mem_append.mp h with h | h
    · exact hexOrColon_of_all (by decide) h
    · rcases Ipv4.mem_addrText h with hd | rfl
      · exact Or.inl (by simp [isHexDigit, hd])
      · exact Or.inr (Or.inr rfl)
  · split at h
    · rcases List.mem_append.mp h with h | h
      · rcases List.mem_append.mp h with h | h
        · exact hcolon _ h
        · exact hexOrColon_of_all (by decide) h
      · exact hcolon _ h
    · exact hcolon _ h

/-- And there is a colon in it. -/
theorem colon_mem_addrText (x : Addr) : ':' ∈ addrText x := by
  unfold addrText
  split
  · exact List.mem_append_left _ (by decide)
  · split
    · exact List.mem_append_left _ (List.mem_append_right _ (by decide))
    · simp [groups, colonText, pieces]

theorem isWhitespace_of_isHexDigit {c : Char} (h : isHexDigit c = true) :
    isWhitespace c = false := by
  simp only [isHexDigit, Bool.or_eq_true, decide_eq_true_eq, Char.le_def, UInt32.le_iff_toNat_le]
    at h
  rcases h with (hd | h) | h
  · exact isWhitespace_of_isDigit hd
  all_goals
    have h1 := h.1
    have h2 := h.2
    change _ ≤ c.toNat at h1
    change c.toNat ≤ _ at h2
    simp only [isWhitespace, Bool.or_eq_false_iff, Bool.and_eq_false_iff, decide_eq_false_iff_not,
      beq_eq_false_iff_ne]
    simp at h1 h2
    omega

theorem noWs_addrText (x : Addr) : NoWs (addrText x) := fun c hc => by
  rcases mem_addrText hc with hd | rfl | rfl
  · exact isWhitespace_of_isHexDigit hd
  · decide
  · decide

theorem slash_not_mem_addrText (x : Addr) : '/' ∉ addrText x := fun h => by
  rcases mem_addrText h with hd | hd | hd
  · exact absurd hd (by decide)
  · exact absurd hd (by decide)
  · exact absurd hd (by decide)

/-! ### The texts that read -/

theorem octetAt_isSome (s : Text) : (octetAt s).map Prod.snd = readOctet s := by
  unfold octetAt readOctet
  cases Ipv4.parseOctet (s.takeWhile Char.isDigit) <;> rfl

theorem readIpv4_eq (s : Text) : readIpv4 s = (ipv4At s).map Prod.snd := by
  unfold readIpv4 ipv4At
  simp only [← octetAt_isSome]
  cases octetAt s with
  | none => rfl
  | some a =>
    simp only [Option.map_some, Option.bind_eq_bind, Option.bind_some]
    cases readChar '.' a.2 with
    | none => rfl
    | some s =>
      simp only [Option.bind_some]
      cases octetAt s with
      | none => rfl
      | some b =>
        simp only [Option.map_some, Option.bind_some]
        cases readChar '.' b.2 with
        | none => rfl
        | some s =>
          simp only [Option.bind_some]
          cases octetAt s with
          | none => rfl
          | some c =>
            simp only [Option.map_some, Option.bind_some]
            cases readChar '.' c.2 with
            | none => rfl
            | some s =>
              simp only [Option.bind_some]
              cases octetAt s <;> rfl

theorem length_ipv4At {s rest : Text} {gs : List ℕ} (h : ipv4At s = some (gs, rest)) :
    gs.length = 2 := by
  unfold ipv4At at h
  simp only [Option.bind_eq_bind, Option.bind_eq_some_iff, Option.some.injEq, Prod.mk.injEq] at h
  obtain ⟨_, _, _, _, _, _, _, _, _, _, _, _, _, _, hgs, -⟩ := h
  rw [← hgs]
  rfl

theorem readGroups_eq (first : Bool) (room : ℕ) (s : Text) : readGroups first room s =
    ((groupsAt first room s).1.length, (groupsAt first room s).2) := by
  induction room generalizing first s with
  | zero => rfl
  | succ room ih =>
    rw [readGroups, groupsAt]
    have hipv4 : (if 0 < room then readSeparator ':' first s >>= readIpv4 else none) =
        (if 0 < room then readSeparator ':' first s >>= ipv4At else none).map Prod.snd := by
      split
      · cases readSeparator ':' first s with
        | none => rfl
        | some t => exact readIpv4_eq t
      · rfl
    have hgroup : readSeparator ':' first s >>= readGroup =
        (readSeparator ':' first s >>= groupAt).map Prod.snd := by
      cases readSeparator ':' first s with
      | none => rfl
      | some t =>
        change readGroup t = (groupAt t).map Prod.snd
        rw [groupAt]
        cases readGroup t <;> rfl
    rw [hipv4, hgroup]
    cases hread : (if 0 < room then readSeparator ':' first s >>= ipv4At else none) with
    | some p =>
      obtain ⟨gs, rest⟩ := p
      have hlength : gs.length = 2 := by
        split at hread
        · obtain ⟨t, -, ht⟩ := Option.bind_eq_some_iff.mp hread
          exact length_ipv4At ht
        · cases hread
      simp [hlength]
    | none =>
      cases readSeparator ':' first s >>= groupAt with
      | none => rfl
      | some p => simp [ih]

/-- **The texts that read as an address.** -/
theorem isAddr_eq (s : Text) : isAddr s = (parseAddr s).isSome := by
  rw [isAddr, readTail, parseAddr, tailGroups, readGroups_eq]
  dsimp only
  split
  · cases (groupsAt true 8 s).2.2 <;> rfl
  · split
    · rfl
    · cases readChar ':' (groupsAt true 8 s).2.2 >>= readChar ':' with
      | none => rfl
      | some rest =>
        dsimp only
        rw [readGroups_eq]
        split
        · rename_i hnil
          rw [hnil]
          rfl
        · rename_i hne
          simpa using hne

/-! ### The characters of an address -/

/-- The characters an address may have. -/
def IsAddrChar (c : Char) : Prop := isHexDigit c = true ∨ c = ':' ∨ c = '.'

/-- A reader took characters of an address off the front of a text. -/
def Consumed (s rest : Text) : Prop := ∃ taken, s = taken ++ rest ∧ ∀ c ∈ taken, IsAddrChar c

theorem Consumed.refl (s : Text) : Consumed s s := ⟨[], rfl, fun _ h => absurd h List.not_mem_nil⟩

theorem Consumed.trans {s t u : Text} (h : Consumed s t) (h' : Consumed t u) : Consumed s u := by
  obtain ⟨a, rfl, ha⟩ := h
  obtain ⟨b, rfl, hb⟩ := h'
  refine ⟨a ++ b, (List.append_assoc a b u).symm, fun c hc => ?_⟩
  exact (List.mem_append.mp hc).elim (ha c) (hb c)

theorem consumed_of_readChar {sep : Char} (hsep : IsAddrChar sep) {s rest : Text}
    (h : readChar sep s = some rest) :
    Consumed s rest := by
  cases s with
  | nil => cases h
  | cons c s =>
    rw [readChar] at h
    split_ifs at h with hc
    obtain rfl := Option.some.inj h
    exact ⟨[c], rfl, fun d hd => List.mem_singleton.mp hd ▸ hc ▸ hsep⟩

theorem consumed_of_readSeparator {first : Bool} {s rest : Text}
    (h : readSeparator ':' first s = some rest) :
    Consumed s rest := by
  rw [readSeparator] at h
  split_ifs at h
  · exact Option.some.inj h ▸ .refl s
  · exact consumed_of_readChar (.inr (.inl rfl)) h

/-- A reader that takes all characters of a kind. -/
theorem consumed_dropWhile {kind : Char → Bool} (hkind : ∀ c, kind c = true → IsAddrChar c)
    (s : Text) :
    Consumed s (s.dropWhile kind) :=
  ⟨s.takeWhile kind, List.takeWhile_append_dropWhile.symm,
      fun c hc => hkind c (List.mem_takeWhile_imp hc)⟩

theorem consumed_of_readGroup {s rest : Text} (h : readGroup s = some rest) : Consumed s rest := by
  rw [readGroup] at h
  split_ifs at h
  exact Option.some.inj h ▸ consumed_dropWhile (fun _ => .inl) s

theorem consumed_of_readOctet {s rest : Text} (h : readOctet s = some rest) : Consumed s rest := by
  rw [readOctet] at h
  split at h
  · exact Option.some.inj h ▸ consumed_dropWhile (fun c hc => .inl (by simp [isHexDigit, hc])) s
  · cases h

theorem consumed_of_readIpv4 {s rest : Text} (h : readIpv4 s = some rest) : Consumed s rest := by
  have hdot {s rest : Text} (h : readChar '.' s = some rest) : Consumed s rest :=
    consumed_of_readChar (.inr (.inr rfl)) h
  obtain ⟨s1, h1, h⟩ := Option.bind_eq_some_iff.mp h
  obtain ⟨t1, d1, h⟩ := Option.bind_eq_some_iff.mp h
  obtain ⟨s2, h2, h⟩ := Option.bind_eq_some_iff.mp h
  obtain ⟨t2, d2, h⟩ := Option.bind_eq_some_iff.mp h
  obtain ⟨s3, h3, h⟩ := Option.bind_eq_some_iff.mp h
  obtain ⟨t3, d3, h⟩ := Option.bind_eq_some_iff.mp h
  have hfirst := (consumed_of_readOctet h1).trans (hdot d1)
  have hsecond := (consumed_of_readOctet h2).trans (hdot d2)
  have hthird := (consumed_of_readOctet h3).trans (hdot d3)
  exact ((hfirst.trans hsecond).trans hthird).trans (consumed_of_readOctet h)

theorem consumed_readGroups (first : Bool) (room : ℕ) (s : Text) :
    Consumed s (readGroups first room s).2.2 := by
  induction room generalizing first s with
  | zero => exact .refl s
  | succ room ih =>
    rw [readGroups]
    split
    · rename_i rest hread
      split_ifs at hread
      obtain ⟨t, hsep, hread⟩ := Option.bind_eq_some_iff.mp hread
      exact (consumed_of_readSeparator hsep).trans (consumed_of_readIpv4 hread)
    · split
      · rename_i rest hread
        obtain ⟨t, hsep, hread⟩ := Option.bind_eq_some_iff.mp hread
        exact ((consumed_of_readSeparator hsep).trans (consumed_of_readGroup hread)).trans
          (ih false rest)
      · exact .refl s

/-- **What reads as an address has no other characters.** -/
theorem isAddrChar_of_isAddr {s : Text} (h : isAddr s = true) {c : Char} (hc : c ∈ s) :
    IsAddrChar c := by
  -- Nothing is left over at the end, so all of it was taken.
  have hnil : Consumed s [] := by
    have hhead := consumed_readGroups true 8 s
    rw [isAddr, readTail] at h
    split_ifs at h
    · rwa [List.isEmpty_iff.mp h] at hhead
    · split at h
      · rename_i rest hread
        obtain ⟨t, hfirst, hsecond⟩ := Option.bind_eq_some_iff.mp hread
        have hcolon : IsAddrChar ':' := .inr (.inl rfl)
        have htail := consumed_readGroups true (8 - ((readGroups true 8 s).1 + 1)) rest
        rw [List.isEmpty_iff.mp h] at htail
        exact ((hhead.trans (consumed_of_readChar hcolon hfirst)).trans
          (consumed_of_readChar hcolon hsecond)).trans htail
      · cases h
  obtain ⟨taken, rfl, htaken⟩ := hnil
  rw [List.append_nil] at hc
  exact htaken c hc

theorem noWs_of_parseAddr {s : Text} {x : Addr} (h : parseAddr s = some x) : NoWs s := by
  intro c hc
  rcases isAddrChar_of_isAddr (by rw [isAddr_eq, h]; rfl) hc with hd | rfl | rfl
  · exact isWhitespace_of_isHexDigit hd
  · decide
  · decide

theorem mem_of_readChar {sep : Char} {s rest : Text} (h : readChar sep s = some rest) :
    sep ∈ s := by
  cases s with
  | nil => cases h
  | cons c s =>
    rw [readChar] at h
    split_ifs at h with hc
    exact hc ▸ List.mem_cons_self

theorem readChar_of_not_mem {sep : Char} {s : Text} (h : sep ∉ s) : readChar sep s = none := by
  rw [Option.eq_none_iff_forall_not_mem]
  exact fun rest hrest => h (mem_of_readChar hrest)

/-- Without a colon there is no group behind the first. -/
theorem readGroups_of_no_colon {s : Text} (h : ':' ∉ s) (room : ℕ) :
    (readGroups false room s).1 = 0 := by
  cases room with
  | zero => rfl
  | succ room =>
    have hsep : readSeparator ':' false s = none := readChar_of_not_mem h
    rw [readGroups, hsep]
    split <;> simp_all

/-- **An address has a colon.** -/
theorem colon_mem_of_isAddr {s : Text} (h : isAddr s = true) : ':' ∈ s := by
  by_contra hcolon
  have hrest {rest : Text} (hrest : Consumed s rest) : ':' ∉ rest := by
    obtain ⟨taken, rfl, -⟩ := hrest
    exact fun hmem => hcolon (List.mem_append_right taken hmem)
  -- At most two groups are read, and then there is no `::`.
  have hcount : (readGroups true 8 s).1 ≤ 2 := by
    rw [readGroups]
    split
    · exact le_refl 2
    · split
      · rename_i rest hread
        have hgroup := readGroups_of_no_colon (hrest (consumed_of_readGroup hread)) 7
        omega
      · exact Nat.zero_le 2
  rw [isAddr, readTail, if_neg (by omega),
    readChar_of_not_mem (hrest (consumed_readGroups true 8 s))] at h
  split_ifs at h
  cases h

theorem colon_mem_of_parseAddr {s : Text} {x : Addr} (h : parseAddr s = some x) : ':' ∈ s :=
  colon_mem_of_isAddr (by rw [isAddr_eq, h]; rfl)

end Ipv6

end Rerouter
