import Mathlib.Data.BitVec
import Rerouter.Lib.Text

/-!
# IPv4 addresses and networks

An address is its 32 bits (`Rerouter.Ipv4.Addr`), a route is a canonical network: an
address with no bit set behind its length (`Rerouter.Ipv4.Route`), so that two routes are
equal exactly when their addresses and lengths are. Addresses are read and printed in dotted
decimal, the way `std::net::Ipv4Addr` does it, and what is printed reads back
(`Rerouter.Ipv4.parseAddr_addrText`).

`Rerouter.Ipv4.sameNetwork` compares the first bits of two addresses. On canonical networks
of that length it is equality (`Rerouter.Ipv4.Route.eq_of_sameNetwork`), which is what makes
an entry that names one route match no other.
-/

namespace Rerouter

namespace Ipv4

open Text

/-- An IPv4 address, as its 32 bits, most significant octet first. -/
abbrev Addr := BitVec 32

/-! ### Dotted decimal -/

/-- The address of four octets. -/
def ofOctets (a b c d : ℕ) : Addr := BitVec.ofNat 32 (((a * 256 + b) * 256 + c) * 256 + d)

/-- `Ipv4Addr`'s `Display`. -/
def addrText (x : Addr) : Text :=
  natText (x.toNat / 16777216) ++ '.' :: (natText (x.toNat / 65536 % 256) ++
    '.' :: (natText (x.toNat / 256 % 256) ++ '.' :: natText (x.toNat % 256)))

/-- One octet: one to three digits, no leading zero, at most 255. -/
def parseOctet (s : Text) : Option ℕ :=
  if s.length ≤ 3 ∧ (s.length = 1 ∨ s.head? ≠ some '0') then parseDigits 255 s else none

/-- `Ipv4Addr::from_str`: four octets, with a dot between them. -/
def parseAddr (s : Text) : Option Addr :=
  match s.splitOn '.' with
  | [a, b, c, d] => do
    let a ← parseOctet a
    let b ← parseOctet b
    let c ← parseOctet c
    let d ← parseOctet d
    return ofOctets a b c d
  | _ => none

theorem parseOctet_natText {n : ℕ} (h : n < 256) : parseOctet (natText n) = some n := by
  have hshape : ∀ o : Fin 256, (natText o).length ≤ 3 ∧
      ((natText o).length = 1 ∨ (natText o).head? ≠ some '0') := by decide +kernel
  rw [parseOctet, if_pos (hshape ⟨n, h⟩), parseDigits_natText (by omega)]

theorem splitOn_natText (n : ℕ) (s : Text) :
    (natText n ++ '.' :: s).splitOn '.' = natText n :: s.splitOn '.' :=
  List.splitOn_append_cons_self_of_not_mem (not_mem_natText (by decide) n) s

theorem splitOn_natText_end (n : ℕ) : (natText n).splitOn '.' = [natText n] :=
  List.splitOn_eq_singleton (not_mem_natText (by decide) n)

theorem splitOn_addrText (x : Addr) : (addrText x).splitOn '.' =
    [natText (x.toNat / 16777216), natText (x.toNat / 65536 % 256),
      natText (x.toNat / 256 % 256), natText (x.toNat % 256)] := by
  rw [addrText, splitOn_natText, splitOn_natText, splitOn_natText, splitOn_natText_end]

theorem ofOctets_octets (x : Addr) : ofOctets (x.toNat / 16777216) (x.toNat / 65536 % 256)
    (x.toNat / 256 % 256) (x.toNat % 256) = x := by
  have hsum : ((x.toNat / 16777216 * 256 + x.toNat / 65536 % 256) * 256 +
      x.toNat / 256 % 256) * 256 + x.toNat % 256 = x.toNat := by omega
  rw [ofOctets, hsum, BitVec.ofNat_toNat, BitVec.setWidth_eq]

/-- **A printed address reads back.** -/
theorem parseAddr_addrText (x : Addr) : parseAddr (addrText x) = some x := by
  have hx : x.toNat < 4294967296 := x.isLt
  rw [parseAddr, splitOn_addrText]
  simp only [parseOctet_natText (show x.toNat / 16777216 < 256 by omega),
    parseOctet_natText (Nat.mod_lt _ (by omega)), Option.bind_eq_bind, Option.bind_some,
    Option.pure_def, ofOctets_octets]

/-- What reads as an address is digits and dots. -/
theorem digit_or_dot_of_parseAddr {s : Text} {x : Addr} (h : parseAddr s = some x) {ch : Char}
    (hch : ch ∈ s) : ch.isDigit = true ∨ ch = '.' := by
  have hoctet : ∀ {t : Text} {n : ℕ}, parseOctet t = some n → ch ∈ t → ch.isDigit = true ∨
    ch = '.' := by
    intro t n ht hmem
    rw [parseOctet, parseDigits] at ht
    split_ifs at ht with hshape hdigits
    exact Or.inl (List.all_eq_true.mp hdigits.2.1 ch hmem)
  rw [parseAddr] at h
  split at h
  · rename_i a b c d hsplit
    obtain ⟨a', ha, h⟩ := Option.bind_eq_some_iff.mp h
    obtain ⟨b', hb, h⟩ := Option.bind_eq_some_iff.mp h
    obtain ⟨c', hc, h⟩ := Option.bind_eq_some_iff.mp h
    obtain ⟨d', hd, -⟩ := Option.bind_eq_some_iff.mp h
    have hs : s = a ++ '.' :: (b ++ '.' :: (c ++ '.' :: d)) := by
      have hjoin : ['.'].intercalate (s.splitOn '.') = s := List.intercalate_splitOn '.'
      rw [← hjoin, hsplit]
      simp [List.intercalate]
    rw [hs] at hch
    simp only [List.mem_append, List.mem_cons] at hch
    rcases hch with hch | rfl | hch | rfl | hch | rfl | hch
    · exact hoctet ha hch
    · exact Or.inr rfl
    · exact hoctet hb hch
    · exact Or.inr rfl
    · exact hoctet hc hch
    · exact Or.inr rfl
    · exact hoctet hd hch
  · cases h

theorem noWs_of_parseAddr {s : Text} {x : Addr} (h : parseAddr s = some x) : NoWs s :=
  fun c hc => by
  rcases digit_or_dot_of_parseAddr h hc with hd | rfl
  · exact isWhitespace_of_isDigit hd
  · decide

theorem mem_addrText {x : Addr} {c : Char} (h : c ∈ addrText x) : c.isDigit = true ∨ c = '.' := by
  simp only [addrText, List.mem_append, List.mem_cons] at h
  rcases h with h | rfl | h | rfl | h | rfl | h
  all_goals first
    | exact Or.inr rfl
    | exact Or.inl (isDigit_of_mem_natText h)

theorem noWs_addrText (x : Addr) : NoWs (addrText x) := fun c hc => by
  rcases mem_addrText hc with hd | rfl
  · exact isWhitespace_of_isDigit hd
  · decide

theorem not_mem_addrText {c : Char} (hd : c.isDigit = false) (hdot : c ≠ '.') (x : Addr) :
    c ∉ addrText x := fun h => by
  rcases mem_addrText h with h | h
  · rw [h] at hd
    exact absurd hd (by simp)
  · exact hdot h

/-! ### Networks -/

/-- The network mask of a length. -/
def mask (length : ℕ) : Addr :=
  if length = 0 then 0 else BitVec.allOnes 32 <<< (32 - min length 32)

/-- Two addresses agree on their first `length` bits. -/
def sameNetwork (a b : Addr) (length : ℕ) : Bool := a &&& mask length == b &&& mask length

theorem sameNetwork_refl (a : Addr) (length : ℕ) : sameNetwork a a length = true := by
  simp [sameNetwork]

/-- **A route**: a network address and its length, with no bit set behind the length. -/
structure Route where
  /-- The network address. -/
  network : Addr
  /-- The number of bits of the address that count. -/
  length : ℕ
  length_le : length ≤ 32
  canonical : network &&& mask length = network
deriving DecidableEq

theorem mask_mask (a : Addr) (length : ℕ) :
    a &&& mask length &&& mask length = a &&& mask length := by
  rw [BitVec.and_assoc, BitVec.and_self]

namespace Route

/-- The route of an address and a length. -/
def ofAddr (a : Addr) (length : ℕ) (h : length ≤ 32) : Route :=
  ⟨a &&& mask length, length, h, mask_mask a length⟩

/-- `a.b.c.d/len`. -/
def text (r : Route) : Text := addrText r.network ++ '/' :: natText r.length

theorem ext_iff' {r s : Route} : r = s ↔ r.network = s.network ∧ r.length = s.length := by
  cases r
  cases s
  simp

/-- Routes of one length whose first bits agree are the same route. -/
theorem eq_of_sameNetwork {r s : Route} (hlen : r.length = s.length)
    (h : sameNetwork r.network s.network s.length = true) : r = s := by
  have hmask : r.network &&& mask s.length = s.network &&& mask s.length := by
    simpa [sameNetwork] using h
  rw [s.canonical, ← hlen, r.canonical] at hmask
  exact ext_iff'.mpr ⟨hmask, hlen⟩

theorem splitOnce_text (r : Route) :
    splitOnce '/' r.text = some (addrText r.network, natText r.length) :=
  splitOnce_append (not_mem_addrText (by decide) (by decide) _)

end Route

end Ipv4

end Rerouter
