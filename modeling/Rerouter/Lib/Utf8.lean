import Mathlib.Data.List.Basic
import Mathlib.Tactic.Common

/-!
# Bytes of a text

A text is sent as the bytes of its characters (`Rerouter.Utf8.encode`), and bytes are made a text
again whatever they are: where they are not the bytes of a character, `U+FFFD` takes the place of
as many as could still have been the beginning of one (`Rerouter.Utf8.fromUtf8Lossy`).

The bytes of a text are made the text they are of (`Rerouter.Utf8.fromUtf8Lossy_encode`). It is
not so for pieces of them: what is made of a character that is cut is longer than the character
(`Rerouter.Utf8.exists_cut`). Only a text of ASCII characters, which have one byte each, may be cut
anywhere (`Rerouter.Utf8.fromUtf8Lossy_of_ascii`).
-/

namespace Rerouter

namespace Utf8

/-! ### Bytes -/

/-- The bytes of a text. -/
def encode (s : List Char) : List UInt8 := s.flatMap String.utf8EncodeChar

/-- `U+FFFD`. -/
def replacement : Char := '\uFFFD'

/-- A character some bytes of which are there: the bits of these, how many bytes are missing behind
the next one, and what the next one may be. -/
structure Pending where
  value : ℕ
  missing : ℕ
  low : ℕ
  high : ℕ
deriving DecidableEq

/-- What the byte behind a leading byte may be: no character has more bytes than it needs, none is
a surrogate, and none is above `U+10FFFF`. -/
def Pending.behind (lead value missing : ℕ) : Pending where
  value := value
  missing := missing
  low := if lead = 0xE0 then 0xA0 else if lead = 0xF0 then 0x90 else 0x80
  high := if lead = 0xED then 0x9F else if lead = 0xF4 then 0x8F else 0xBF

/-- A byte where a character may begin: what it adds to the text, and what it leaves pending. -/
def begin (b : ℕ) : List Char × Option Pending :=
  if b < 0x80 then ([Char.ofNat b], none)
  else if 0xC2 ≤ b ∧ b ≤ 0xDF then ([], some (.behind b (b - 0xC0) 0))
  else if 0xE0 ≤ b ∧ b ≤ 0xEF then ([], some (.behind b (b - 0xE0) 1))
  else if 0xF0 ≤ b ∧ b ≤ 0xF4 then ([], some (.behind b (b - 0xF0) 2))
  else ([replacement], none)

/-- A byte: if it is not what is missing, it is where a character may begin. -/
def next (state : Option Pending) (b : ℕ) : List Char × Option Pending :=
  match state with
  | none => begin b
  | some p =>
    if p.low ≤ b ∧ b ≤ p.high then
      match p.missing with
      | 0 => ([Char.ofNat (p.value * 64 + b % 64)], none)
      | missing + 1 => ([], some ⟨p.value * 64 + b % 64, missing, 0x80, 0xBF⟩)
    else (replacement :: (begin b).1, (begin b).2)

/-- The text of bytes, behind a character that may be pending. -/
def decode (state : Option Pending) : List UInt8 → List Char
  | [] => if state.isSome then [replacement] else []
  | b :: bytes => (next state b.toNat).1 ++ decode (next state b.toNat).2 bytes

/-- `String::from_utf8_lossy`. -/
def fromUtf8Lossy (bytes : List UInt8) : List Char := decode none bytes

variable {s : List Char} {bytes : List UInt8}

theorem encode_cons (c : Char) (s : List Char) :
    encode (c :: s) = String.utf8EncodeChar c ++ encode s := List.flatMap_cons

theorem encode_append (s t : List Char) : encode (s ++ t) = encode s ++ encode t :=
  List.flatMap_append

/-! ### One byte -/

theorem toNat_ofNat {n : ℕ} (h : n < 256) : (UInt8.ofNat n).toNat = n := by
  rw [UInt8.toNat_ofNat']
  exact Nat.mod_eq_of_lt h

theorem decode_ofNat {n : ℕ} (h : n < 256) (state : Option Pending) (bytes : List UInt8) :
    decode state (UInt8.ofNat n :: bytes) = (next state n).1 ++ decode (next state n).2 bytes := by
  rw [decode, toNat_ofNat h]

theorem begin_one {b : ℕ} (h : b < 0x80) : begin b = ([Char.ofNat b], none) := if_pos h

theorem begin_two {b : ℕ} (h : 0xC2 ≤ b ∧ b ≤ 0xDF) :
    begin b = ([], some (.behind b (b - 0xC0) 0)) := by
  rw [begin, if_neg (by omega), if_pos h]

theorem begin_three {b : ℕ} (h : 0xE0 ≤ b ∧ b ≤ 0xEF) :
    begin b = ([], some (.behind b (b - 0xE0) 1)) := by
  rw [begin, if_neg (by omega), if_neg (by omega), if_pos h]

theorem begin_four {b : ℕ} (h : 0xF0 ≤ b ∧ b ≤ 0xF4) :
    begin b = ([], some (.behind b (b - 0xF0) 2)) := by
  rw [begin, if_neg (by omega), if_neg (by omega), if_neg (by omega), if_pos h]

/-- No character begins with a byte that is behind another one in some character. -/
theorem begin_tail {b : ℕ} (h : 0x80 ≤ b ∧ b ≤ 0xBF) : begin b = ([replacement], none) := by
  rw [begin, if_neg (by omega), if_neg (by omega), if_neg (by omega), if_neg (by omega)]

theorem next_last {value low high b : ℕ} (h : low ≤ b ∧ b ≤ high) :
    next (some ⟨value, 0, low, high⟩) b = ([Char.ofNat (value * 64 + b % 64)], none) := by
  rw [next, if_pos h]

theorem next_more {value missing low high b : ℕ} (h : low ≤ b ∧ b ≤ high) :
    next (some ⟨value, missing + 1, low, high⟩) b =
      ([], some ⟨value * 64 + b % 64, missing, 0x80, 0xBF⟩) := by
  rw [next, if_pos h]

/-! ### Whole characters -/

/-- **The bytes of a character are made the character.** -/
theorem decode_utf8EncodeChar (c : Char) (bytes : List UInt8) :
    decode none (String.utf8EncodeChar c ++ bytes) = c :: decode none bytes := by
  have hvalid : c.val.toNat < 0xD800 ∨ 0xDFFF < c.val.toNat ∧ c.val.toNat < 0x110000 := c.valid
  have hself : Char.ofNat c.val.toNat = c := Char.ofNat_toNat c
  rw [String.utf8EncodeChar]
  generalize c.val.toNat = v at hvalid hself ⊢
  split_ifs with hone htwo hthree
  · rw [List.singleton_append, decode_ofNat (by omega), next, begin_one (by omega), hself]
    rfl
  · have hvalue : (v / 64 % 32 + 0xC0 - 0xC0) * 64 + (v % 64 + 0x80) % 64 = v := by omega
    rw [List.cons_append, List.singleton_append, decode_ofNat (by omega), next,
      begin_two (by omega), decode_ofNat (by omega), Pending.behind, if_neg (by omega),
      if_neg (by omega), if_neg (by omega), if_neg (by omega), next_last (by omega), hvalue, hself]
    rfl
  · have hlow : (if v / 4096 % 16 + 0xE0 = 0xE0 then 0xA0 else
        if v / 4096 % 16 + 0xE0 = 0xF0 then 0x90 else 0x80) ≤ v / 64 % 64 + 0x80 := by
      split_ifs <;> omega
    have hhigh : v / 64 % 64 + 0x80 ≤ (if v / 4096 % 16 + 0xE0 = 0xED then 0x9F else
        if v / 4096 % 16 + 0xE0 = 0xF4 then 0x8F else 0xBF) := by
      split_ifs <;> omega
    have hvalue : ((v / 4096 % 16 + 0xE0 - 0xE0) * 64 + (v / 64 % 64 + 0x80) % 64) * 64 +
        (v % 64 + 0x80) % 64 = v := by omega
    rw [List.cons_append, List.cons_append, List.singleton_append, decode_ofNat (by omega), next,
      begin_three (by omega), decode_ofNat (by omega), Pending.behind, next_more ⟨hlow, hhigh⟩,
      decode_ofNat (by omega), next_last (by omega), hvalue, hself]
    rfl
  · have hlow : (if v / 262144 % 8 + 0xF0 = 0xE0 then 0xA0 else
        if v / 262144 % 8 + 0xF0 = 0xF0 then 0x90 else 0x80) ≤ v / 4096 % 64 + 0x80 := by
      split_ifs <;> omega
    have hhigh : v / 4096 % 64 + 0x80 ≤ (if v / 262144 % 8 + 0xF0 = 0xED then 0x9F else
        if v / 262144 % 8 + 0xF0 = 0xF4 then 0x8F else 0xBF) := by
      split_ifs <;> omega
    have hvalue : (((v / 262144 % 8 + 0xF0 - 0xF0) * 64 + (v / 4096 % 64 + 0x80) % 64) * 64 +
        (v / 64 % 64 + 0x80) % 64) * 64 + (v % 64 + 0x80) % 64 = v := by omega
    rw [List.cons_append, List.cons_append, List.cons_append, List.singleton_append,
      decode_ofNat (by omega), next, begin_four (by omega), decode_ofNat (by omega),
      Pending.behind, next_more ⟨hlow, hhigh⟩, decode_ofNat (by omega), next_more (by omega),
      decode_ofNat (by omega), next_last (by omega), hvalue, hself]
    rfl

theorem decode_encode_append (s : List Char) (bytes : List UInt8) :
    decode none (encode s ++ bytes) = s ++ decode none bytes := by
  induction s with
  | nil => rfl
  | cons c s ih => rw [encode_cons, List.append_assoc, decode_utf8EncodeChar, ih, List.cons_append]

/-- **The bytes of a text are made the text.** -/
theorem fromUtf8Lossy_encode (s : List Char) : fromUtf8Lossy (encode s) = s := by
  have h := decode_encode_append s []
  rwa [List.append_nil, decode, Option.isSome_none, if_neg Bool.false_ne_true,
    List.append_nil] at h

/-! ### A character that is cut -/

/-- A character that has several bytes: a first one that leaves it pending, and others that none
begins with. -/
theorem exists_tail {c : Char} (hc : 0x80 ≤ c.toNat) :
    ∃ lead tail, String.utf8EncodeChar c = lead :: tail ∧ tail ≠ [] ∧
      (∃ p, begin lead.toNat = ([], some p)) ∧ ∀ b ∈ tail, 0x80 ≤ b.toNat ∧ b.toNat ≤ 0xBF := by
  have hvalid : c.val.toNat < 0xD800 ∨ 0xDFFF < c.val.toNat ∧ c.val.toNat < 0x110000 := c.valid
  change 0x80 ≤ c.val.toNat at hc
  rw [String.utf8EncodeChar]
  generalize c.val.toNat = v at hvalid hc ⊢
  have htail (n : ℕ) :
      0x80 ≤ (UInt8.ofNat (n % 64 + 0x80)).toNat ∧ (UInt8.ofNat (n % 64 + 0x80)).toNat ≤ 0xBF := by
    rw [toNat_ofNat (by omega)]
    omega
  split_ifs with hone htwo hthree
  · omega
  · have hlead := begin_two (b := v / 64 % 32 + 0xC0) (by omega)
    rw [← toNat_ofNat (n := v / 64 % 32 + 0xC0) (by omega)] at hlead
    exact ⟨_, _, rfl, List.cons_ne_nil _ _, ⟨_, hlead⟩, by simpa using htail v⟩
  · have hlead := begin_three (b := v / 4096 % 16 + 0xE0) (by omega)
    rw [← toNat_ofNat (n := v / 4096 % 16 + 0xE0) (by omega)] at hlead
    exact ⟨_, _, rfl, List.cons_ne_nil _ _, ⟨_, hlead⟩, by
      simpa using ⟨htail (v / 64), htail v⟩⟩
  · have hlead := begin_four (b := v / 262144 % 8 + 0xF0) (by omega)
    rw [← toNat_ofNat (n := v / 262144 % 8 + 0xF0) (by omega)] at hlead
    exact ⟨_, _, rfl, List.cons_ne_nil _ _, ⟨_, hlead⟩, by
      simpa using ⟨htail (v / 4096), htail (v / 64), htail v⟩⟩

/-- The bytes behind the first one of a character become `U+FFFD`, each of them. -/
theorem decode_tail {tail : List UInt8} (h : ∀ b ∈ tail, 0x80 ≤ b.toNat ∧ b.toNat ≤ 0xBF)
    (bytes : List UInt8) :
    decode none (tail ++ bytes) = List.replicate tail.length replacement ++ decode none bytes := by
  induction tail with
  | nil => rfl
  | cons b tail ih =>
    obtain ⟨hb, htail⟩ := List.forall_mem_cons.mp h
    rw [List.cons_append, decode, next, begin_tail hb, ih htail]
    rfl

/-- **Where a character is cut, the text grows**: what is made of the two pieces is longer than the
text that was cut. -/
theorem exists_cut {c : Char} (hc : 0x80 ≤ c.toNat) (front back : List Char) :
    ∃ p q, p ++ q = encode (front ++ c :: back) ∧
      (front ++ c :: back).length < (fromUtf8Lossy p ++ fromUtf8Lossy q).length := by
  obtain ⟨lead, tail, hbytes, hne, ⟨pending, hpending⟩, htail⟩ := exists_tail hc
  refine ⟨encode front ++ [lead], tail ++ encode back, ?_, ?_⟩
  · rw [encode_append, encode_cons, hbytes]
    simp
  · have hp : fromUtf8Lossy (encode front ++ [lead]) = front ++ [replacement] := by
      rw [fromUtf8Lossy, decode_encode_append, decode, next, hpending]
      rfl
    have hq : fromUtf8Lossy (tail ++ encode back) =
        List.replicate tail.length replacement ++ back := by
      rw [fromUtf8Lossy, decode_tail htail]
      exact congrArg _ (fromUtf8Lossy_encode back)
    have hpos : 0 < tail.length := List.length_pos_of_ne_nil hne
    rw [hp, hq]
    simp only [List.length_append, List.length_cons, List.length_nil, List.length_replicate]
    omega

/-- The bytes of `Zür`, cut within `ü`. -/
example : fromUtf8Lossy [0x5A, 0xC3] ++ fromUtf8Lossy [0xBC, 0x72] =
    ['Z', replacement, replacement, 'r'] := by decide

/-! ### ASCII -/

/-- A text whose characters have one byte each. -/
def IsAscii (s : List Char) : Prop := ∀ c ∈ s, c.toNat < 0x80

theorem encode_of_ascii (hs : IsAscii s) : ∀ b ∈ encode s, b.toNat < 0x80 := by
  intro b hb
  obtain ⟨c, hc, hmem⟩ := List.mem_flatMap.mp hb
  have hlt : c.val.toNat < 0x80 := hs c hc
  rw [String.utf8EncodeChar, if_pos (by omega), List.mem_singleton] at hmem
  rw [hmem, toNat_ofNat (by omega)]
  exact hlt

/-- **ASCII is made a text byte by byte.** -/
theorem fromUtf8Lossy_of_ascii (h : ∀ b ∈ bytes, b.toNat < 0x80) :
    fromUtf8Lossy bytes = bytes.map fun b => Char.ofNat b.toNat := by
  induction bytes with
  | nil => rfl
  | cons b bytes ih =>
    obtain ⟨hb, hbytes⟩ := List.forall_mem_cons.mp h
    rw [fromUtf8Lossy, decode, next, begin_one hb]
    exact congrArg _ (ih hbytes)

end Utf8

end Rerouter
