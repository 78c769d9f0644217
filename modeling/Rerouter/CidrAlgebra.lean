import Rerouter.DeviceEvidence
import Rerouter.DevicePlan
import Rerouter.FlowDecode
import Rerouter.Lib.Blocks
import Rerouter.Templates

/-!
# Networks as sets of addresses

A network stands for the addresses that have its first bits (`Rerouter.Network.addresses`). The code
never enumerates them: it cuts addresses with masks and compares what is left, in functions that
were written apart and compute their masks apart.

| function | mask |
|---|---|
| `normalize_cidr`, `ipv4_network_mask` | `Rerouter.shlMask` |
| `parse_cidr_v4`, `parse_cidr_v6` | `Rerouter.checkedShlMask` |
| `network_of`, `same_network` | `Rerouter.clampedShlMask` |

The masks are the same for every length that a network may have, none of their shifts is by the
width of the address, and what is computed with them is what holds of the sets
(`Rerouter.cidr_laws`): one network contains another exactly if every address of it is an address of
the other.
-/

namespace Rerouter

open Text Blocks

/-! ### Masks -/

/-- `MAX << (w - length)`, which fails if it is no shift; the mask of length 0 is not shifted. -/
def shlMask (w length : ℕ) : Option (BitVec w) :=
  if length = 0 then some 0 else if length ≤ w then
    checkedShl (BitVec.allOnes w) (w - length) else none

/-- `MAX.checked_shl(w - length).unwrap_or(0)`. -/
def checkedShlMask (w length : ℕ) : BitVec w :=
  if length = 0 then 0 else (checkedShl (BitVec.allOnes w) (w - length)).getD 0

/-- `MAX.checked_shl(w - length.min(w)).unwrap_or(0)`. -/
def clampedShlMask (w length : ℕ) : BitVec w :=
  if length = 0 then 0 else (checkedShl (BitVec.allOnes w) (w - min length w)).getD 0

theorem shlMask_eq {w length : ℕ} (h : length ≤ w) :
    shlMask w length = some (Blocks.mask w length) := by
  unfold shlMask Blocks.mask
  split_ifs with hzero
  · rfl
  · exact checkedShl_of_lt (by omega)

theorem checkedShlMask_eq {w length : ℕ} (h : length ≤ w) :
    checkedShlMask w length = Blocks.mask w length := by
  unfold checkedShlMask Blocks.mask
  split_ifs with hzero
  · rfl
  · rw [checkedShl_of_lt (by omega), Option.getD_some]

theorem clampedShlMask_eq {w length : ℕ} (h : length ≤ w) :
    clampedShlMask w length = Blocks.mask w length := by
  unfold clampedShlMask Blocks.mask
  split_ifs with hzero
  · rfl
  · rw [Nat.min_eq_left h, checkedShl_of_lt (by omega), Option.getD_some]

theorem ipv4_mask_eq {length : ℕ} (h : length ≤ 32) : Ipv4.mask length = Blocks.mask 32 length := by
  rw [Ipv4.mask, Nat.min_eq_left h, Blocks.mask]

theorem ipv6_mask_eq (length : ℕ) : Ipv6.mask length = Blocks.mask 128 length := rfl

/-! ### Networks -/

/-- The addresses of a network: those that have its first bits. -/
def Network.addresses : Network → Set Flow.IpAddr
  | .v4 net length => Flow.IpAddr.v4 '' block length net
  | .v6 net length => Flow.IpAddr.v6 '' block length net

/-- Two networks of one family. -/
def Network.SameFamily : Network → Network → Prop
  | .v4 _ _, .v4 _ _ => True
  | .v6 _ _, .v6 _ _ => True
  | _, _ => False

/-- `network_of`. -/
def networkOfAddr : Flow.IpAddr → ℕ → Flow.IpAddr
  | .v4 a, length => .v4 (a &&& clampedShlMask 32 length)
  | .v6 a, length => .v6 (a &&& clampedShlMask 128 length)

/-- A network, with the bits behind its length cut. -/
def Network.cut : Network → Network
  | .v4 net length => .v4 (net &&& Ipv4.mask length) length
  | .v6 net length => .v6 (net &&& Ipv6.mask length) length

/-- A length that is one of its family. -/
def Network.Fits : Network → Prop
  | .v4 _ length => length ≤ 32
  | .v6 _ length => length ≤ 128

/-- The text of a network. -/
def Network.text : Network → Text
  | .v4 net length => Ipv4.addrText net ++ '/' :: natText length
  | .v6 net length => Ipv6.addrText net ++ '/' :: natText length

/-- What a text says, before anything is cut: an address and a length that is one of its family. -/
def readCidr (s : Text) : Option Network := do
  let (ip, len) ← splitOnce '/' s
  match Ipv4.parseAddr (trim ip) with
  | some a => do
    let n ← parseUnsigned maxU32 (trim len)
    if n ≤ 32 then some (.v4 a n) else none
  | none => do
    let a ← Ipv6.parseAddr (trim ip)
    let n ← parseUnsigned maxU32 (trim len)
    if n ≤ 128 then some (.v6 a n) else none

/-- `cidr_contains_host`. -/
def cidrContainsHost (cidr : Text) (ip : Flow.IpAddr) : Bool :=
  match parseNetwork cidr, ip with
  | .ok (.v4 net length), .v4 _ => networkOfAddr ip length = networkOfAddr (.v4 net) length
  | .ok (.v6 net length), .v6 _ => networkOfAddr ip length = networkOfAddr (.v6 net) length
  | _, _ => false

variable {s t p c : Text} {M N P C : Network} {ip : Flow.IpAddr}

/-- What a text says is an address and a length, of one family or the other. -/
theorem readCidr_eq_some : readCidr s = some N ↔ ∃ ip len n, splitOnce '/' s = some (ip, len) ∧
    parseUnsigned maxU32 (trim len) = some n ∧
      ((∃ a, Ipv4.parseAddr (trim ip) = some a ∧ n ≤ 32 ∧ N = .v4 a n) ∨
        (∃ a, Ipv4.parseAddr (trim ip) = none ∧ Ipv6.parseAddr (trim ip) = some a ∧ n ≤ 128 ∧
          N = .v6 a n)) := by
  constructor
  · intro h
    obtain ⟨⟨ip, len⟩, hsplit, h⟩ := Option.bind_eq_some_iff.mp h
    dsimp only at h
    split at h
    · rename_i a ha
      obtain ⟨n, hlen, h⟩ := Option.bind_eq_some_iff.mp h
      split_ifs at h with hn
      exact ⟨ip, len, n, hsplit, hlen, .inl ⟨a, ha, hn, (Option.some.inj h).symm⟩⟩
    · rename_i hnone
      obtain ⟨a, ha, h⟩ := Option.bind_eq_some_iff.mp h
      obtain ⟨n, hlen, h⟩ := Option.bind_eq_some_iff.mp h
      split_ifs at h with hn
      exact ⟨ip, len, n, hsplit, hlen, .inr ⟨a, hnone, ha, hn, (Option.some.inj h).symm⟩⟩
  · rintro ⟨ip, len, n, hsplit, hlen, ⟨a, ha, hn, rfl⟩ | ⟨a, hnone, ha, hn, rfl⟩⟩
    · rw [readCidr, hsplit, Option.bind_eq_bind, Option.bind_some]
      dsimp only
      rw [ha, hlen]
      exact if_pos hn
    · rw [readCidr, hsplit, Option.bind_eq_bind, Option.bind_some]
      dsimp only
      rw [hnone, ha, hlen]
      exact if_pos hn

theorem fits_of_readCidr (h : readCidr s = some N) : N.Fits := by
  obtain ⟨ip, len, n, -, -, ⟨a, -, hn, rfl⟩ | ⟨a, -, -, hn, rfl⟩⟩ := readCidr_eq_some.mp h
  · exact hn
  · exact hn

/-- **`parse_cidr_any` reads a network, and cuts it.** -/
theorem parseNetwork_eq_ok :
    parseNetwork s = .ok N ↔ ∃ raw, readCidr s = some raw ∧ N = raw.cut := by
  constructor
  · intro h
    obtain ⟨⟨ip, len⟩, hsplit, h⟩ := bind_eq_ok.mp h
    have hsplit := okOr_eq_ok.mp hsplit
    dsimp only at h
    split at h
    · rename_i a ha
      -- the code refuses a length that is too long, and `readCidr` asks for one that is not
      obtain ⟨n, hlen, h⟩ := bind_eq_ok.mp h
      split_ifs at h with hn
      refine ⟨.v4 a n, readCidr_eq_some.mpr ⟨ip, len, n, hsplit, okOr_eq_ok.mp hlen,
        .inl ⟨a, ha, by omega, rfl⟩⟩, ?_⟩
      exact (Except.ok.inj h).symm
    · rename_i hnone
      obtain ⟨a, ha, h⟩ := bind_eq_ok.mp h
      obtain ⟨n, hlen, h⟩ := bind_eq_ok.mp h
      split_ifs at h with hn
      refine ⟨.v6 a n, readCidr_eq_some.mpr
        ⟨ip, len, n, hsplit, okOr_eq_ok.mp hlen, .inr ⟨a, hnone, okOr_eq_ok.mp ha, by omega, rfl⟩⟩,
        ?_⟩
      exact (Except.ok.inj h).symm
  · rintro ⟨raw, hraw, rfl⟩
    obtain ⟨ip, len, n, hsplit, hlen, ⟨a, ha, hn, rfl⟩ | ⟨a, hnone, ha, hn, rfl⟩⟩ :=
      readCidr_eq_some.mp hraw
    · refine bind_eq_ok.mpr ⟨(ip, len), okOr_eq_ok.mpr hsplit, ?_⟩
      dsimp only
      rw [ha]
      exact bind_eq_ok.mpr ⟨n, okOr_eq_ok.mpr hlen, if_neg (by omega)⟩
    · refine bind_eq_ok.mpr ⟨(ip, len), okOr_eq_ok.mpr hsplit, ?_⟩
      dsimp only
      rw [hnone]
      exact bind_eq_ok.mpr ⟨a, okOr_eq_ok.mpr ha,
        bind_eq_ok.mpr ⟨n, okOr_eq_ok.mpr hlen, if_neg (by omega)⟩⟩

/-! ### Cutting -/

theorem fits_cut (h : N.Fits) : N.cut.Fits := by
  cases N <;> exact h

/-- **A network keeps its addresses when it is cut.** -/
theorem addresses_cut (h : N.Fits) : N.cut.addresses = N.addresses := by
  cases N with
  | v4 net length =>
    rw [Network.cut, Network.addresses, Network.addresses, ipv4_mask_eq h, block_and_mask h]
  | v6 net length =>
    rw [Network.cut, Network.addresses, Network.addresses, ipv6_mask_eq, block_and_mask h]

/-- **What `cidr_contains` compares says whether one set is part of the other.** -/
theorem holds_cut (hP : P.Fits) (hC : C.Fits) :
    P.cut.holds C.cut = true ↔ P.SameFamily C ∧ C.addresses ⊆ P.addresses := by
  cases P with
  | v4 pnet plen =>
    cases C with
    | v4 cnet clen =>
      have hP : plen ≤ 32 := hP
      have hC : clen ≤ 32 := hC
      simp only [Network.cut, Network.holds, Network.SameFamily, Network.addresses, true_and,
        Bool.and_eq_true, decide_eq_true_eq]
      rw [Set.image_subset_image_iff (fun _ _ => Flow.IpAddr.v4.inj), block_subset_iff hP,
        ipv4_mask_eq hP, ipv4_mask_eq hC, and_mask_eq_iff hP]
      -- cutting leaves the bits the prefix is compared by, on either side
      refine and_congr_right fun hle => ⟨fun h => ?_, fun h => ?_⟩
      · exact (((agree_and_mask hC cnet).symm.mono hle).trans h).trans (agree_and_mask hP pnet)
      · exact (((agree_and_mask hC cnet).mono hle).trans h).trans (agree_and_mask hP pnet).symm
    | v6 cnet clen => simp [Network.cut, Network.holds, Network.SameFamily]
  | v6 pnet plen =>
    cases C with
    | v4 cnet clen => simp [Network.cut, Network.holds, Network.SameFamily]
    | v6 cnet clen =>
      have hP : plen ≤ 128 := hP
      have hC : clen ≤ 128 := hC
      simp only [Network.cut, Network.holds, Network.SameFamily, Network.addresses, true_and,
        Bool.and_eq_true, decide_eq_true_eq]
      rw [Set.image_subset_image_iff (fun _ _ => Flow.IpAddr.v6.inj), block_subset_iff hP,
        ipv6_mask_eq, ipv6_mask_eq, and_mask_eq_iff hP]
      refine and_congr_right fun hle => ⟨fun h => ?_, fun h => ?_⟩
      · exact (((agree_and_mask hC cnet).symm.mono hle).trans h).trans (agree_and_mask hP pnet)
      · exact (((agree_and_mask hC cnet).mono hle).trans h).trans (agree_and_mask hP pnet).symm

/-- What `cidr_contains` answers of two texts that are networks. -/
theorem networkContains_eq (hp : readCidr p = some P) (hc : readCidr c = some C) :
    networkContains p c = .ok (P.cut.holds C.cut) := by
  have hP := parseNetwork_eq_ok.mpr ⟨P, hp, rfl⟩
  have hC := parseNetwork_eq_ok.mpr ⟨C, hc, rfl⟩
  exact bind_eq_ok.mpr ⟨P.cut, hP, bind_eq_ok.mpr ⟨C.cut, hC, rfl⟩⟩

/-- It answers with a yes exactly if both are networks, and the first holds the second. -/
theorem networkContains_eq_ok_true : networkContains p c = .ok true ↔ ∃ P C, readCidr p = some P ∧
    readCidr c = some C ∧ P.SameFamily C ∧ C.addresses ⊆ P.addresses := by
  constructor
  · intro h
    obtain ⟨P', hP, h⟩ := bind_eq_ok.mp h
    obtain ⟨C', hC, h⟩ := bind_eq_ok.mp h
    obtain ⟨P, hp, rfl⟩ := parseNetwork_eq_ok.mp hP
    obtain ⟨C, hc, rfl⟩ := parseNetwork_eq_ok.mp hC
    exact ⟨P, C, hp, hc, (holds_cut (fits_of_readCidr hp) (fits_of_readCidr hc)).mp
      (Except.ok.inj h)⟩
  · rintro ⟨P, C, hp, hc, h⟩
    rw [networkContains_eq hp hc, (holds_cut (fits_of_readCidr hp) (fits_of_readCidr hc)).mpr h]

/-- Two networks that hold each other are cut to the same one. -/
theorem cut_eq_of_addresses (hP : P.Fits) (hC : C.Fits) (hfamily : P.SameFamily C)
    (h : C.addresses = P.addresses) :
    P.cut = C.cut := by
  cases P with
  | v4 pnet plen =>
    cases C with
    | v4 cnet clen =>
      obtain ⟨rfl, hagree⟩ := (block_eq_iff hP hC).mp
        (Set.image_injective.mpr (fun _ _ => Flow.IpAddr.v4.inj) h)
      rw [Network.cut, Network.cut, ipv4_mask_eq hP, (and_mask_eq_iff hP).mpr hagree]
    | v6 cnet clen => exact hfamily.elim
  | v6 pnet plen =>
    cases C with
    | v4 cnet clen => exact hfamily.elim
    | v6 cnet clen =>
      obtain ⟨rfl, hagree⟩ := (block_eq_iff hP hC).mp
        (Set.image_injective.mpr (fun _ _ => Flow.IpAddr.v6.inj) h)
      rw [Network.cut, Network.cut, ipv6_mask_eq, (and_mask_eq_iff hP).mpr hagree]

theorem Network.SameFamily.trans (h : M.SameFamily N) (h' : N.SameFamily P) : M.SameFamily P := by
  cases M <;> cases N <;> cases P <;> trivial

/-- **`cidr_contains_host` asks for an address of the network.** -/
theorem cidrContainsHost_eq_true :
    cidrContainsHost c ip = true ↔ ∃ C, readCidr c = some C ∧ ip ∈ C.addresses := by
  constructor
  · intro h
    unfold cidrContainsHost at h
    split at h
    -- the mask of the host check is the one of the network, as the length fits
    · rename_i net length a hparse
      obtain ⟨raw, hread, hcut⟩ := parseNetwork_eq_ok.mp hparse
      have hfits := fits_of_readCidr hread
      refine ⟨raw, hread, ?_⟩
      rw [← addresses_cut hfits, ← hcut]
      have hlen : (Network.v4 net length).Fits := hcut ▸ fits_cut hfits
      have hmask := Flow.IpAddr.v4.inj (of_decide_eq_true h)
      rw [clampedShlMask_eq hlen, and_mask_eq_iff hlen] at hmask
      exact ⟨a, hmask, rfl⟩
    · rename_i net length a hparse
      obtain ⟨raw, hread, hcut⟩ := parseNetwork_eq_ok.mp hparse
      have hfits := fits_of_readCidr hread
      refine ⟨raw, hread, ?_⟩
      rw [← addresses_cut hfits, ← hcut]
      have hlen : (Network.v6 net length).Fits := hcut ▸ fits_cut hfits
      have hmask := Flow.IpAddr.v6.inj (of_decide_eq_true h)
      rw [clampedShlMask_eq hlen, and_mask_eq_iff hlen] at hmask
      exact ⟨a, hmask, rfl⟩
    · cases h
  · rintro ⟨C, hread, hmem⟩
    have hfits := fits_of_readCidr hread
    have hparse := parseNetwork_eq_ok.mpr ⟨C, hread, rfl⟩
    rw [← addresses_cut hfits] at hmem
    unfold cidrContainsHost
    cases C with
    | v4 net length =>
      obtain ⟨a, ha, rfl⟩ := hmem
      have hlen : length ≤ 32 := hfits
      rw [hparse]
      refine decide_eq_true (congrArg Flow.IpAddr.v4 ?_)
      rw [clampedShlMask_eq hlen, and_mask_eq_iff hlen]
      exact ha
    | v6 net length =>
      obtain ⟨a, ha, rfl⟩ := hmem
      have hlen : length ≤ 128 := hfits
      rw [hparse]
      refine decide_eq_true (congrArg Flow.IpAddr.v6 ?_)
      rw [clampedShlMask_eq hlen, and_mask_eq_iff hlen]
      exact ha

/-! ### The functions agree -/

/-- **What `normalize_cidr` accepts is a network**, and its normal form is the text of that network,
cut. -/
theorem readCidr_of_normalizeCidr {n : Text} (h : normalizeCidr s = some n) :
    ∃ N, readCidr s = some N ∧ n = N.cut.text := by
  obtain ⟨⟨ip, len⟩, hsplit, h⟩ := Option.bind_eq_some_iff.mp h
  dsimp only at h
  split at h
  · rename_i a ha
    obtain ⟨k, hlen, h⟩ := Option.bind_eq_some_iff.mp h
    split_ifs at h with hk
    refine ⟨.v4 a k, readCidr_eq_some.mpr ⟨ip, len, k, hsplit, ?_, .inl ⟨a, ?_, hk, rfl⟩⟩,
      (Option.some.inj h).symm⟩
    · rwa [trim_of_noWs (noWs_of_parseUnsigned hlen)]
    · rwa [trim_of_noWs (Ipv4.noWs_of_parseAddr ha)]
  · rename_i hnone
    obtain ⟨a, ha, h⟩ := Option.bind_eq_some_iff.mp h
    obtain ⟨k, hlen, h⟩ := Option.bind_eq_some_iff.mp h
    split_ifs at h with hk
    have hws := Ipv6.noWs_of_parseAddr ha
    refine ⟨.v6 a k, readCidr_eq_some.mpr ⟨ip, len, k, hsplit, ?_, .inr ⟨a, ?_, ?_, hk, rfl⟩⟩,
      (Option.some.inj h).symm⟩
    · rwa [trim_of_noWs (noWs_of_parseUnsigned hlen)]
    · rwa [trim_of_noWs hws]
    · rwa [trim_of_noWs hws]

/-- The text of a network reads back. -/
theorem readCidr_text (h : N.Fits) : readCidr N.text = some N := by
  cases N with
  | v4 a n =>
    have hn : n ≤ 32 := h
    refine readCidr_eq_some.mpr ⟨Ipv4.addrText a, natText n, n, ?_, ?_, .inl ⟨a, ?_, hn, rfl⟩⟩
    · exact splitOnce_append (Ipv4.not_mem_addrText (by decide) (by decide) a)
    · rw [trim_of_noWs (noWs_natText n)]
      exact parseUnsigned_natText (hn.trans (by decide))
    · rw [trim_of_noWs (Ipv4.noWs_addrText a), Ipv4.parseAddr_addrText]
  | v6 a n =>
    have hn : n ≤ 128 := h
    refine readCidr_eq_some.mpr ⟨Ipv6.addrText a, natText n, n, ?_, ?_, .inr ⟨a, ?_, ?_, hn, rfl⟩⟩
    · exact splitOnce_append (Ipv6.slash_not_mem_addrText a)
    · rw [trim_of_noWs (noWs_natText n)]
      exact parseUnsigned_natText (hn.trans (by decide))
    · rw [trim_of_noWs (Ipv6.noWs_addrText a),
        parseAddr_eq_none_of_colon (Ipv6.colon_mem_addrText a)]
    · rw [trim_of_noWs (Ipv6.noWs_addrText a), Ipv6.parseAddr_addrText]

/-- `parse_cidr_v4` reads a network of its family, and cuts it. -/
theorem parseCidrV4_eq_ok {net : Ipv4.Addr} {n : ℕ} : parseCidrV4 s = .ok (net, n) ↔
    ∃ a, readCidr s = some (.v4 a n) ∧ net = a &&& Ipv4.mask n := by
  constructor
  · intro h
    obtain ⟨⟨ip, len⟩, hsplit, h⟩ := bind_eq_ok.mp h
    obtain ⟨a, ha, h⟩ := bind_eq_ok.mp h
    obtain ⟨k, hlen, h⟩ := bind_eq_ok.mp h
    split_ifs at h with hk
    obtain ⟨rfl, rfl⟩ := Prod.mk.inj (Except.ok.inj h)
    exact ⟨a, readCidr_eq_some.mpr ⟨ip, len, k, okOr_eq_ok.mp hsplit, okOr_eq_ok.mp hlen,
      .inl ⟨a, okOr_eq_ok.mp ha, by omega, rfl⟩⟩, rfl⟩
  · rintro ⟨a, hread, rfl⟩
    obtain ⟨ip, len, k, hsplit, hlen, ⟨b, hb, hk, heq⟩ | ⟨b, -, -, -, heq⟩⟩ :=
      readCidr_eq_some.mp hread
    · obtain ⟨rfl, rfl⟩ := Network.v4.inj heq
      refine bind_eq_ok.mpr ⟨(ip, len), okOr_eq_ok.mpr hsplit,
        bind_eq_ok.mpr ⟨a, okOr_eq_ok.mpr hb, ?_⟩⟩
      exact bind_eq_ok.mpr ⟨n, okOr_eq_ok.mpr hlen, if_neg (by omega)⟩
    · cases heq

/-- `parse_cidr_v6` does so for the other family, of the texts that are no IPv4 network. -/
theorem parseCidrV6_eq_ok {net : Ipv6.Addr} {n : ℕ} : parseCidrV6 s = .ok (net, n) ↔
    ∃ a, readCidr s = some (.v6 a n) ∧ net = a &&& Ipv6.mask n := by
  constructor
  · intro h
    obtain ⟨⟨ip, len⟩, hsplit, h⟩ := bind_eq_ok.mp h
    obtain ⟨a, ha, h⟩ := bind_eq_ok.mp h
    obtain ⟨k, hlen, h⟩ := bind_eq_ok.mp h
    split_ifs at h with hk
    obtain ⟨rfl, rfl⟩ := Prod.mk.inj (Except.ok.inj h)
    have hread := okOr_eq_ok.mp ha
    exact ⟨a, readCidr_eq_some.mpr ⟨ip, len, k, okOr_eq_ok.mp hsplit, okOr_eq_ok.mp hlen,
      .inr ⟨a, parseAddr_eq_none_of_colon (Ipv6.colon_mem_of_parseAddr hread), hread,
        by omega, rfl⟩⟩, rfl⟩
  · rintro ⟨a, hread, rfl⟩
    obtain ⟨ip, len, k, hsplit, hlen, ⟨b, -, -, heq⟩ | ⟨b, -, hb, hk, heq⟩⟩ :=
      readCidr_eq_some.mp hread
    · cases heq
    · obtain ⟨rfl, rfl⟩ := Network.v6.inj heq
      refine bind_eq_ok.mpr ⟨(ip, len), okOr_eq_ok.mpr hsplit,
        bind_eq_ok.mpr ⟨a, okOr_eq_ok.mpr hb, ?_⟩⟩
      exact bind_eq_ok.mpr ⟨n, okOr_eq_ok.mpr hlen, if_neg (by omega)⟩

/-- What the functions make of the text of an IPv4 network. -/
structure AgreeV4 (a : Ipv4.Addr) (length : ℕ) : Prop where
  normalize : normalizeCidr (Network.v4 a length).text =
    some (Network.v4 (a &&& Blocks.mask 32 length) length).text
  parse : parseCidrV4 (Network.v4 a length).text = .ok (a &&& Blocks.mask 32 length, length)
  networkMask : ipv4NetworkMask (Network.v4 a length).text =
    .ok (Ipv4.addrText (a &&& Blocks.mask 32 length), Ipv4.addrText (Blocks.mask 32 length))
  networkOf : networkOfAddr (.v4 a) length = .v4 (a &&& Blocks.mask 32 length)
  shl : shlMask 32 length = some (Blocks.mask 32 length)
  checkedShl : checkedShlMask 32 length = Blocks.mask 32 length
  clampedShl : clampedShlMask 32 length = Blocks.mask 32 length
  /-- `same_network` compares what `cidr_contains` does. -/
  sameNetwork : ∀ b m, m ≤ 32 → networkContains (Network.v4 a length).text (Network.v4 b m).text =
    .ok (decide (length ≤ m) && Ipv4.sameNetwork a b length)

/-- The same of an IPv6 network. -/
structure AgreeV6 (a : Ipv6.Addr) (length : ℕ) : Prop where
  normalize : normalizeCidr (Network.v6 a length).text =
    some (Network.v6 (a &&& Blocks.mask 128 length) length).text
  parse : parseCidrV6 (Network.v6 a length).text = .ok (a &&& Blocks.mask 128 length, length)
  networkOf : networkOfAddr (.v6 a) length = .v6 (a &&& Blocks.mask 128 length)
  shl : shlMask 128 length = some (Blocks.mask 128 length)
  checkedShl : checkedShlMask 128 length = Blocks.mask 128 length
  clampedShl : clampedShlMask 128 length = Blocks.mask 128 length
  contains : ∀ b m, m ≤ 128 → networkContains (Network.v6 a length).text (Network.v6 b m).text =
    .ok (decide (length ≤ m ∧ a &&& Blocks.mask 128 length = b &&& Blocks.mask 128 length))

theorem agreeV4 (a : Ipv4.Addr) {length : ℕ} (h : length ≤ 32) : AgreeV4 a length where
  normalize := by rw [Network.text, Network.text, normalizeCidr_net4 a h, ipv4_mask_eq h]
  parse := by
    rw [← ipv4_mask_eq h]
    exact parseCidrV4_eq_ok.mpr ⟨a, readCidr_text h, rfl⟩
  networkMask := by
    have hsplit : splitOnce '/' (Ipv4.addrText (a &&& Ipv4.mask length) ++ '/' :: natText length) =
        some (Ipv4.addrText (a &&& Ipv4.mask length), natText length) :=
      splitOnce_append (Ipv4.not_mem_addrText (by decide) (by decide) _)
    have hcolon : ':' ∉ Ipv4.addrText (a &&& Ipv4.mask length) :=
      Ipv4.not_mem_addrText (by decide) (by decide) _
    have hlen : parseUnsigned maxU32 (natText length) = some length :=
      parseUnsigned_natText (h.trans (by decide))
    rw [ipv4NetworkMask, Network.text, normalizeCidr_net4 a h, Option.bind_some, hsplit]
    dsimp only
    rw [if_neg hcolon, hlen]
    dsimp only
    rw [ipv4_mask_eq h]
  networkOf := by rw [networkOfAddr, clampedShlMask_eq h]
  shl := shlMask_eq h
  checkedShl := checkedShlMask_eq h
  clampedShl := clampedShlMask_eq h
  sameNetwork := by
    intro b m hm
    have hfits : (Network.v4 a length).Fits := h
    have hfits' : (Network.v4 b m).Fits := hm
    rw [networkContains_eq (readCidr_text hfits) (readCidr_text hfits'), Network.cut, Network.cut,
      Network.holds, Ipv4.sameNetwork]
    by_cases hle : length ≤ m
    · -- Both lengths cut nothing that is compared.
      have hiff : b &&& Ipv4.mask m &&& Ipv4.mask length =
        a &&& Ipv4.mask length &&& Ipv4.mask length ↔
          a &&& Ipv4.mask length = b &&& Ipv4.mask length := by
        rw [Ipv4.mask_mask, ipv4_mask_eq h, ipv4_mask_eq hm, eq_comm, and_mask_eq_iff h,
          and_mask_eq_iff h]
        have hcut := (agree_and_mask hm b).mono hle
        exact ⟨fun hab => hab.trans hcut, fun hab => hab.trans hcut.symm⟩
      rw [decide_eq_true hle, Bool.true_and, Bool.true_and, decide_eq_decide.mpr hiff]
      rfl
    · rw [decide_eq_false hle, Bool.false_and, Bool.false_and]

theorem agreeV6 (a : Ipv6.Addr) {length : ℕ} (h : length ≤ 128) : AgreeV6 a length where
  normalize := by rw [Network.text, Network.text, normalizeCidr_net6 a h, ipv6_mask_eq]
  parse := by
    rw [← ipv6_mask_eq]
    exact parseCidrV6_eq_ok.mpr ⟨a, readCidr_text h, rfl⟩
  networkOf := by rw [networkOfAddr, clampedShlMask_eq h]
  shl := shlMask_eq h
  checkedShl := checkedShlMask_eq h
  clampedShl := clampedShlMask_eq h
  contains := by
    intro b m hm
    have hfits : (Network.v6 a length).Fits := h
    have hfits' : (Network.v6 b m).Fits := hm
    rw [networkContains_eq (readCidr_text hfits) (readCidr_text hfits'), Network.cut, Network.cut,
      Network.holds, ← Bool.decide_and]
    refine congrArg Except.ok (decide_eq_decide.mpr (and_congr_right fun hle => ?_))
    rw [ipv6_mask_eq, ipv6_mask_eq, eq_comm, and_mask_eq_iff h, and_mask_eq_iff h]
    have hcut := (agree_and_mask hm b).mono hle
    have hself := agree_and_mask h a
    exact ⟨fun hab => (hself.symm.trans hab).trans hcut,
      fun hab => (hself.trans hab).trans hcut.symm⟩

/-- **What the code computes of networks, and their sets of addresses.** -/
structure CidrLaws : Prop where
  /-- Of two networks there is an answer, and it is a yes exactly if one set is part of the
  other. -/
  contains : ∀ p c P C, readCidr p = some P → readCidr c = some C →
    ∃ holds, networkContains p c = .ok holds ∧
    (holds = true ↔ P.SameFamily C ∧ C.addresses ⊆ P.addresses)
  host : ∀ c ip, cidrContainsHost c ip = true ↔ ∃ C, readCidr c = some C ∧ ip ∈ C.addresses
  refl : ∀ p P, readCidr p = some P → networkContains p p = .ok true
  /-- Networks that contain each other are cut to the same network. -/
  antisymm : ∀ p c, networkContains p c = .ok true → networkContains c p = .ok true →
    parseNetwork p = parseNetwork c
  trans : ∀ p c d, networkContains p c = .ok true → networkContains c d = .ok true →
    networkContains p d = .ok true
  /-- What is read is cut, and keeps its addresses. -/
  cut : ∀ s N, parseNetwork s = .ok N → ∃ raw, readCidr s = some raw ∧ N.addresses = raw.addresses
  idempotent : ∀ s n, normalizeCidr s = some n → normalizeCidr n = some n
  /-- A normal form is that of the network that was read, and has its addresses. -/
  normalize : ∀ s n, normalizeCidr s = some n → ∃ S N, readCidr s = some S ∧ readCidr n = some N ∧
    parseNetwork s = .ok N ∧ n = N.text ∧ N.addresses = S.addresses
  agreeV4 : ∀ a length, length ≤ 32 → AgreeV4 a length
  agreeV6 : ∀ a length, length ≤ 128 → AgreeV6 a length

/-- **Networks are what their sets of addresses are.** -/
theorem cidr_laws : CidrLaws where
  contains := fun p c P C hp hc =>
    ⟨_, networkContains_eq hp hc, holds_cut (fits_of_readCidr hp) (fits_of_readCidr hc)⟩
  host := fun c ip => cidrContainsHost_eq_true
  refl := by
    intro p P hp
    have hself : P.SameFamily P := by cases P <;> trivial
    exact networkContains_eq_ok_true.mpr ⟨P, P, hp, hp, hself, subset_refl _⟩
  antisymm := by
    intro p c hpc hcp
    obtain ⟨P, C, hp, hc, hfamily, hsub⟩ := networkContains_eq_ok_true.mp hpc
    obtain ⟨C', P', hc', hp', -, hsub'⟩ := networkContains_eq_ok_true.mp hcp
    -- two sets of addresses that are part of one another are one, and then the cut networks are too
    obtain rfl : P = P' := Option.some.inj (hp.symm.trans hp')
    obtain rfl : C = C' := Option.some.inj (hc.symm.trans hc')
    have hcut := cut_eq_of_addresses (fits_of_readCidr hp) (fits_of_readCidr hc) hfamily
      (hsub.antisymm hsub')
    rw [parseNetwork_eq_ok.mpr ⟨P, hp, rfl⟩, parseNetwork_eq_ok.mpr ⟨C, hc, rfl⟩, hcut]
  trans := by
    intro p c d hpc hcd
    obtain ⟨P, C, hp, hc, hfamily, hsub⟩ := networkContains_eq_ok_true.mp hpc
    obtain ⟨C', D, hc', hd, hfamily', hsub'⟩ := networkContains_eq_ok_true.mp hcd
    obtain rfl : C = C' := Option.some.inj (hc.symm.trans hc')
    exact networkContains_eq_ok_true.mpr ⟨P, D, hp, hd, hfamily.trans hfamily', hsub'.trans hsub⟩
  cut := by
    intro s N h
    obtain ⟨raw, hread, rfl⟩ := parseNetwork_eq_ok.mp h
    exact ⟨raw, hread, addresses_cut (fits_of_readCidr hread)⟩
  idempotent := fun s n => normalizeCidr_of_normalizeCidr
  normalize := by
    intro s n h
    obtain ⟨S, hS, rfl⟩ := readCidr_of_normalizeCidr h
    have hfits := fits_of_readCidr hS
    exact ⟨S, S.cut, hS, readCidr_text (fits_cut hfits), parseNetwork_eq_ok.mpr ⟨S, hS, rfl⟩, rfl,
      addresses_cut hfits⟩
  agreeV4 := fun a length h => agreeV4 a h
  agreeV6 := fun a length h => agreeV6 a h

example : networkContains "10.0.0.0/8" "10.1.2.3/8" = .ok true ∧
    networkContains "0.0.0.0/0" "::/0" = .ok false := by
  decide +kernel

end Rerouter
