import Rerouter.Sflow
import Mathlib.Data.List.Forall2
import Mathlib.Data.List.ReduceOption
import Mathlib.Tactic.Cases

/-!
# sFlow datagrams, exactly

The wire format from the side of the exporter, without a decoder: a datagram is a header and
samples (`Rerouter.Sflow.Datagram`), a sample is a flow sample in one of two forms, one that is too
short to be one, or one of another type (`Rerouter.Sflow.Sample`), and what a sampled header says
of its packet is stated by the offsets in it (`Rerouter.Sflow.Describes`).

Every reading lemma is an equivalence: what is read is what was written, and the rest is the rest.
Put together they give **`Rerouter.Sflow.decode_eq_ok`**: a datagram is decoded when it is the
encoding of a well-formed one, and to the flows of its samples.
-/

namespace Rerouter.Sflow

open BigEndian
open Rerouter.Flow (FlowRecord IpAddr)

/-! ### The wire format -/

/-- A length, that many bytes, and zeros up to a multiple of four. -/
def encodeOpaque (s : List UInt8) : List UInt8 :=
  bytes 4 s.length ++ s ++ List.replicate ((4 - s.length % 4) % 4) 0

def encodeAddress : IpAddr → List UInt8
  | .v4 a => bytes 4 1 ++ bytes 4 a.toNat
  | .v6 a => bytes 4 2 ++ bytes 16 a.toNat

/-- A record of a flow sample. -/
structure Record where
  dataFormat : ℕ
  body : List UInt8

/-- What stands under a type and a length. -/
def encodeUnder (kind : ℕ) (body : List UInt8) : List UInt8 := bytes 4 kind ++ encodeOpaque body

/-- A type and a length that fit. -/
def FitsUnder (kind : ℕ) (body : List UInt8) : Prop := kind < 2 ^ 32 ∧ body.length < 2 ^ 32

/-- The words of a flow sample before the number of its records, in the two forms of a sample. -/
inductive Head where
  | plain (seq sourceId rate pool drops input output : ℕ)
  | expanded (seq sourceType sourceIndex rate pool drops inFormat inValue outFormat outValue : ℕ)

namespace Head

def isExpanded : Head → Bool
  | plain .. => false
  | expanded .. => true

def words : Head → List ℕ
  | plain seq sourceId rate pool drops input output =>
    [seq, sourceId, rate, pool, drops, input, output]
  | expanded seq sourceType sourceIndex rate pool drops inFormat inValue outFormat outValue =>
    [seq, sourceType, sourceIndex, rate, pool, drops, inFormat, inValue, outFormat, outValue]

def rate : Head → ℕ
  | plain _ _ rate .. => rate
  | expanded _ _ _ rate .. => rate

/-- The interface of a format and a value: only format zero names one. -/
def interface (format value : ℕ) : Option ℕ := if format = 0 ∧ value ≠ 0 then some value else none

/-- The interface the packet came in at. In the plain form the format is the upper two bits of the
word. -/
def inIf : Head → Option ℕ
  | plain _ _ _ _ _ input _ => interface (input / 2 ^ 30) (input % 2 ^ 30)
  | expanded _ _ _ _ _ _ inFormat inValue _ _ => interface inFormat inValue

/-- The interface the packet went out at. -/
def outIf : Head → Option ℕ
  | plain _ _ _ _ _ _ output => interface (output / 2 ^ 30) (output % 2 ^ 30)
  | expanded _ _ _ _ _ _ _ _ outFormat outValue => interface outFormat outValue

end Head

/-- A sample of a datagram. -/
inductive Sample where
  | flow (head : Head) (records : List Record)
  /-- A flow sample that ends before the number of its records. -/
  | cut (expanded : Bool) (body : List UInt8)
  | other (kind : ℕ) (body : List UInt8)

/-- The type of a flow sample. -/
def flowKind (expanded : Bool) : ℕ := if expanded then 3 else 1

theorem flowKind_injective {a b : Bool} (h : flowKind a = flowKind b) : a = b := by
  revert h
  revert a b
  decide

/-- The length of a flow sample up to its records. -/
def headLength (expanded : Bool) : ℕ := if expanded then 44 else 32

namespace Sample

def kind : Sample → ℕ
  | flow head _ => flowKind head.isExpanded
  | cut expanded _ => flowKind expanded
  | other kind _ => kind

def body : Sample → List UInt8
  | flow head records =>
    head.words.flatMap (bytes 4) ++ bytes 4 records.length ++
      records.flatMap fun r => encodeUnder r.dataFormat r.body
  | cut _ body => body
  | other _ body => body

def encode (s : Sample) : List UInt8 := encodeUnder s.kind s.body

/-- The numbers in a sample fit their words, and it is of the kind it says. -/
def Laid : Sample → Prop
  | flow head records =>
    (∀ w ∈ head.words, w < 2 ^ 32) ∧ records.length < 2 ^ 32 ∧
      ∀ r ∈ records, FitsUnder r.dataFormat r.body
  | cut expanded body => body.length < headLength expanded
  | other kind _ => kind ≠ 1 ∧ kind ≠ 3

def WellFormed (s : Sample) : Prop := FitsUnder s.kind s.body ∧ s.Laid

end Sample

/-- A datagram. -/
structure Datagram where
  agentAddr : IpAddr
  subAgentId : ℕ
  sequence : ℕ
  uptime : ℕ
  samples : List Sample

namespace Datagram

def encode (d : Datagram) : List UInt8 :=
  bytes 4 5 ++ encodeAddress d.agentAddr ++ bytes 4 d.subAgentId ++ bytes 4 d.sequence ++
    bytes 4 d.uptime ++
    bytes 4 d.samples.length ++ d.samples.flatMap Sample.encode

def WellFormed (d : Datagram) : Prop :=
  d.subAgentId < 2 ^ 32 ∧ d.sequence < 2 ^ 32 ∧ d.uptime < 2 ^ 32 ∧ d.samples.length < 2 ^ 32 ∧
    ∀ s ∈ d.samples, s.WellFormed

end Datagram

/-! ### What a sampled header says -/

/-- The ports at an offset: of three protocols, and only where both of them were captured. -/
def portsAt (h : List UInt8) (off protocol : ℕ) : Option ℕ × Option ℕ :=
  if protocol ∈ [6, 17, 132] ∧ off + 4 ≤ h.length then
    (some (field h off 2), some (field h (off + 2) 2))
  else (none, none)

/-- An IPv4 packet at an offset. Its ports stand behind its options, and only in the first
fragment. -/
structure Ipv4At (h : List UInt8) (off : ℕ) (t : Tuple) : Prop where
  captured : off + 20 ≤ h.length
  ihl : 5 ≤ field h off 1 % 16
  srcAddr : t.srcAddr = .v4 (BitVec.ofNat 32 (field h (off + 12) 4))
  dstAddr : t.dstAddr = .v4 (BitVec.ofNat 32 (field h (off + 16) 4))
  protocol : t.protocol = field h (off + 9) 1
  ports : (t.srcPort, t.dstPort) =
    if field h (off + 6) 2 % 2 ^ 13 = 0 then portsAt h (off + 4 * (field h off 1 % 16)) t.protocol
      else (none, none)

/-- An IPv6 packet at an offset. -/
structure Ipv6At (h : List UInt8) (off : ℕ) (t : Tuple) : Prop where
  captured : off + 40 ≤ h.length
  srcAddr : t.srcAddr = .v6 (BitVec.ofNat 128 (field h (off + 8) 16))
  dstAddr : t.dstAddr = .v6 (BitVec.ofNat 128 (field h (off + 24) 16))
  protocol : t.protocol = field h (off + 6) 1
  ports : (t.srcPort, t.dstPort) = portsAt h (off + 40) t.protocol

/-- The packet of a frame stands behind the two addresses, at most two VLAN tags and its
EtherType. -/
def Framed (h : List UInt8) (etherType off : ℕ) : Prop :=
  ∃ k ≤ 2, off = 14 + 4 * k ∧ off ≤ h.length ∧ field h (12 + 4 * k) 2 = etherType ∧
    ∀ i < k, field h (12 + 4 * i) 2 ∈ [0x8100, 0x88A8]

/-- **What a sampled header says** of its packet, by the protocol it starts with. -/
def Describes (headerProtocol : ℕ) (h : List UInt8) (t : Tuple) : Prop :=
  (headerProtocol = 1 ∧ ∃ off, Framed h 0x0800 off ∧ Ipv4At h off t) ∨
    (headerProtocol = 1 ∧ ∃ off, Framed h 0x86DD off ∧ Ipv6At h off t) ∨
    (headerProtocol = 11 ∧ Ipv4At h 0 t) ∨ (headerProtocol = 12 ∧ Ipv6At h 0 t)

/-- A record holds the header of a packet of a tuple and of a length. -/
def Record.Samples (r : Record) (t : Tuple) (frameLength : ℕ) : Prop :=
  r.dataFormat = 1 ∧ ∃ headerProtocol stripped header rest,
    headerProtocol < 2 ^ 32 ∧ frameLength < 2 ^ 32 ∧ stripped < 2 ^ 32 ∧ header.length < 2 ^ 32 ∧
      r.body = bytes 4 headerProtocol ++ bytes 4 frameLength ++ bytes 4 stripped ++
      encodeOpaque header ++ rest ∧
        Describes headerProtocol header t

/-- The packet of a flow sample: of the last of its records that hold one. -/
def Chosen (records : List Record) : Option (Tuple × ℕ) → Prop
  | some (t, frameLength) =>
    ∃ before r after, records = before ++ r :: after ∧ r.Samples t frameLength ∧
      ∀ r' ∈ after, ∀ t' l', ¬r'.Samples t' l'
  | none => ∀ r ∈ records, ∀ t l, ¬r.Samples t l

/-- The flow of a sample, if it is of one. -/
def Sample.Yields : Sample → Option FlowRecord → Prop
  | .flow head records, o =>
    ∃ c, Chosen records c ∧ o = c.map fun (t, l) => t.record l head.inIf head.outIf
  | _, o => o = none

/-- The rate of a flow sample, unless it is zero. -/
def Sample.rate? : Sample → Option ℕ
  | .flow head _ => if head.rate = 0 then none else some head.rate
  | _ => none

/-- What is said of a datagram whose samples are of some flows. -/
def Datagram.summary (d : Datagram) (flows : List (Option FlowRecord)) : Decoded where
  agentAddr := some d.agentAddr
  subAgentId := d.subAgentId
  sequence := d.sequence
  uptime := d.uptime
  records := flows.reduceOption
  reportedSampling := (d.samples.filterMap Sample.rate?).getLast?
  samplesTotal := d.samples.length
  samplesSkipped := flows.count none

/-! ### Reading back -/

variable {r r' s : List UInt8} {n v : ℕ}

theorem take_eq_ok : take n r = .ok (s, r') ↔ s.length = n ∧ r = s ++ r' := by
  rw [take]
  split_ifs with h
  · simp only [false_iff, not_and]
    rintro hlen rfl
    rw [List.length_append] at h
    omega
  · simp only [Except.ok.injEq, Prod.mk.injEq]
    constructor
    · rintro ⟨rfl, rfl⟩
      exact ⟨List.length_take_of_le (Nat.not_lt.mp h), (List.take_append_drop n r).symm⟩
    · rintro ⟨hlen, rfl⟩
      exact ⟨List.take_left' hlen, List.drop_left' hlen⟩

theorem u32_eq_ok : u32 r = .ok (v, r') ↔ v < 2 ^ 32 ∧ r = bytes 4 v ++ r' := by
  simp only [u32, bind_eq_ok, Prod.exists, take_eq_ok, pure, Except.pure, Except.ok.injEq,
    Prod.mk.injEq]
  constructor
  · rintro ⟨s, r₁, ⟨hlen, rfl⟩, hv, rfl⟩
    obtain ⟨hlt, rfl⟩ := bytes_eq_iff.mp ⟨hlen, hv⟩
    exact ⟨hlt, rfl⟩
  · rintro ⟨hlt, rfl⟩
    obtain ⟨hlen, hv⟩ := bytes_eq_iff (n := 4).mpr ⟨hlt, rfl⟩
    exact ⟨bytes 4 v, r', ⟨hlen, rfl⟩, hv, rfl⟩

theorem u32_bytes (r : List UInt8) (h : v < 2 ^ 32) : u32 (bytes 4 v ++ r) = .ok (v, r) :=
  u32_eq_ok.mpr ⟨h, rfl⟩

/-- Padding of a length that holds no other byte than zero. -/
theorem padding_eq_iff :
    (s.length = n ∧ (s.any fun byte => byte ≠ 0) = false) ↔ s = List.replicate n 0 := by
  rw [List.eq_replicate_iff, List.any_eq_false]
  simp

theorem readOpaque_eq_ok :
    readOpaque r = .ok (s, r') ↔ s.length < 2 ^ 32 ∧ r = encodeOpaque s ++ r' := by
  simp only [readOpaque, bind_eq_ok, Prod.exists, take_eq_ok, u32_eq_ok, pure, Except.pure,
    encodeOpaque]
  constructor
  · rintro ⟨len, r₁, ⟨hlt, rfl⟩, data, r₂, ⟨rfl, rfl⟩, padding, r₃, ⟨hlen, rfl⟩, h⟩
    split_ifs at h with hany
    · cases h
    · cases h
      obtain rfl := padding_eq_iff.mp ⟨hlen, Bool.eq_false_iff.mpr hany⟩
      exact ⟨hlt, by simp only [List.append_assoc]⟩
  · rintro ⟨hlt, rfl⟩
    obtain ⟨hlen, hany⟩ := padding_eq_iff.mpr (rfl :
      List.replicate ((4 - s.length % 4) % 4) (0 : UInt8) = _)
    refine ⟨s.length, _, ⟨hlt, by simp only [List.append_assoc]⟩, s, _, ⟨rfl, rfl⟩, _, r',
      ⟨hlen, rfl⟩, ?_⟩
    rw [if_neg (Bool.eq_false_iff.mp hany)]

theorem be16_eq_some {h : List UInt8} {off : ℕ} :
    be16 h off = some v ↔ off + 2 ≤ h.length ∧ v = field h off 2 := by
  rw [be16]
  split_ifs with hlen
  · simp only [false_iff]
    omega
  · simp only [Option.some.injEq, Nat.not_lt.mp hlen, true_and, eq_comm]

theorem toOption_eq_some {ε α : Type} {x : Except ε α} {a : α} :
    x.toOption = some a ↔ x = .ok a := by
  cases x <;> simp [Except.toOption]

theorem readAddress_eq_ok {a : IpAddr} :
    readAddress r = .ok (a, r') ↔ r = encodeAddress a ++ r' := by
  simp only [readAddress, bind_eq_ok, Prod.exists, u32_eq_ok]
  constructor
  · rintro ⟨kind, r₁, ⟨-, rfl⟩, h⟩
    split at h
    · simp only [bind_eq_ok, Prod.exists, take_eq_ok, pure, Except.pure, Except.ok.injEq,
        Prod.mk.injEq] at h
      obtain ⟨b, r₂, ⟨hlen, rfl⟩, rfl, rfl⟩ := h
      obtain ⟨hlt, hb⟩ := bytes_eq_iff.mp ⟨hlen, rfl⟩
      rw [encodeAddress, BitVec.toNat_ofNat, Nat.mod_eq_of_lt (show value b < 2 ^ 32 from hlt),
        ← hb, List.append_assoc]
    · simp only [bind_eq_ok, Prod.exists, take_eq_ok, pure, Except.pure, Except.ok.injEq,
        Prod.mk.injEq] at h
      obtain ⟨b, r₂, ⟨hlen, rfl⟩, rfl, rfl⟩ := h
      obtain ⟨hlt, hb⟩ := bytes_eq_iff.mp ⟨hlen, rfl⟩
      rw [encodeAddress, BitVec.toNat_ofNat, Nat.mod_eq_of_lt (show value b < 2 ^ 128 from hlt),
        ← hb, List.append_assoc]
    · cases h
  · rintro rfl
    -- each width has its own mark in front
    cases a with
    | v4 a =>
      have htake : take 4 (bytes 4 a.toNat ++ r') = .ok (bytes 4 a.toNat, r') :=
        take_eq_ok.mpr ⟨length_bytes _ _, rfl⟩
      refine ⟨1, _, ⟨by decide, by rw [encodeAddress, List.append_assoc]⟩, ?_⟩
      simp only [htake, ok_bind, pure, Except.pure]
      rw [value_bytes_of_lt (n := 4) a.isLt, BitVec.ofNat_toNat, BitVec.setWidth_eq]
    | v6 a =>
      have htake : take 16 (bytes 16 a.toNat ++ r') = .ok (bytes 16 a.toNat, r') :=
        take_eq_ok.mpr ⟨length_bytes _ _, rfl⟩
      refine ⟨2, _, ⟨by decide, by rw [encodeAddress, List.append_assoc]⟩, ?_⟩
      simp only [htake, ok_bind, pure, Except.pure]
      rw [value_bytes_of_lt (n := 16) a.isLt, BitVec.ofNat_toNat, BitVec.setWidth_eq]

/-! ### Sampled headers -/

section Headers

variable {h : List UInt8} {t : Tuple} {off protocol : ℕ}

theorem l4Ports_drop (h : List UInt8) (start off protocol : ℕ) (hstart : start ≤ h.length) :
    l4Ports (h.drop start) off protocol = portsAt h (start + off) protocol := by
  simp only [l4Ports, portsAt, be16, List.length_drop, field_drop, List.mem_cons,
    List.not_mem_nil, or_false]
  by_cases hp : protocol = 6 ∨ protocol = 17 ∨ protocol = 132
  · by_cases hlen : start + off + 4 ≤ h.length
    · rw [if_pos hp, if_neg (by omega), if_neg (by omega), if_pos ⟨hp, hlen⟩, Nat.add_assoc]
    · have hsecond : h.length - start < off + 2 + 2 := by omega
      have hnone : ¬((protocol = 6 ∨ protocol = 17 ∨ protocol = 132) ∧
        start + off + 4 ≤ h.length) :=
        fun hboth => hlen hboth.2
      rw [if_pos hp, if_pos hsecond, if_neg hnone]
      split
      · contradiction
      · rfl
  · rw [if_neg hp, if_neg (fun hboth => hp hboth.1)]

/-- The tuple of an IPv4 packet at an offset. -/
def ipv4Tuple (h : List UInt8) (off : ℕ) : Tuple :=
  let protocol := field h (off + 9) 1
  let ports := if field h (off + 6) 2 % 2 ^ 13 = 0 then
    portsAt h (off + 4 * (field h off 1 % 16)) protocol
    else (none, none)
  { srcAddr := .v4 (BitVec.ofNat 32 (field h (off + 12) 4))
    dstAddr := .v4 (BitVec.ofNat 32 (field h (off + 16) 4))
    protocol, srcPort := ports.1, dstPort := ports.2 }

theorem ipv4At_iff :
    Ipv4At h off t ↔ off + 20 ≤ h.length ∧ 5 ≤ field h off 1 % 16 ∧ t = ipv4Tuple h off := by
  constructor
  · rintro ⟨hcaptured, hihl, hsrc, hdst, hprotocol, hports⟩
    obtain ⟨src, dst, protocol, srcPort, dstPort⟩ := t
    dsimp only at hsrc hdst hprotocol hports
    subst hsrc hdst hprotocol
    refine ⟨hcaptured, hihl, ?_⟩
    rw [ipv4Tuple, ← hports]
  · rintro ⟨hcaptured, hihl, rfl⟩
    exact ⟨hcaptured, hihl, rfl, rfl, rfl, rfl⟩

theorem parseIpv4_drop (hoff : off ≤ h.length) :
    parseIpv4 (h.drop off) = some t ↔ Ipv4At h off t := by
  have hihl : ∀ x, x &&& 0x0f = x % 16 := fun x => Nat.and_two_pow_sub_one_eq_mod x 4
  have hoffset : ∀ x, x &&& 0x1fff = x % 2 ^ 13 := fun x => Nat.and_two_pow_sub_one_eq_mod x 13
  simp only [parseIpv4, List.length_drop, be16, field_drop, hihl, hoffset,
    l4Ports_drop _ _ _ _ hoff, Nat.add_zero, ipv4At_iff]
  split_ifs with hshort hsmall
  · simp only [false_iff]
    omega
  · simp only [false_iff]
    omega
  · omega
  · have hfit : off + 20 ≤ h.length ∧ 5 ≤ field h off 1 % 16 := by omega
    rw [Nat.mul_comm, Option.bind_eq_bind, Option.bind_some, Option.pure_def,
      Option.some.injEq, ← and_assoc, and_iff_right hfit, eq_comm]
    rfl

theorem parseIpv6_drop (hoff : off ≤ h.length) :
    parseIpv6 (h.drop off) = some t ↔ Ipv6At h off t := by
  simp only [parseIpv6, List.length_drop, field_drop, l4Ports_drop _ _ _ _ hoff]
  split_ifs with hshort
  · simp only [false_iff]
    intro hat
    have hcaptured := hat.captured
    omega
  · rw [Option.some.injEq]
    constructor
    · rintro rfl
      exact ⟨by omega, rfl, rfl, rfl, rfl⟩
    · rintro ⟨-, hsrc, hdst, hprotocol, hports⟩
      obtain ⟨src, dst, protocol, srcPort, dstPort⟩ := t
      dsimp only at hsrc hdst hprotocol hports
      subst hsrc hdst hprotocol
      rw [← hports]

/-- The tags of a frame are stepped over up to an EtherType that is none. -/
theorem skipTags_eq_some {n start etherType off : ℕ} (hstart : start + 2 ≤ h.length)
    (htype : etherType ∉ [0x8100, 0x88A8]) :
    skipTags h n (field h start 2) (start + 2) = some (etherType, off) ↔
      ∃ k ≤ n, off = start + 2 + 4 * k ∧ off ≤ h.length ∧ field h (start + 4 * k) 2 = etherType ∧
        ∀ i < k, field h (start + 4 * i) 2 ∈ [0x8100, 0x88A8] := by
  induction n generalizing start with
  | zero =>
    simp only [skipTags, Option.some.injEq, Prod.mk.injEq, Nat.le_zero]
    constructor
    · rintro ⟨rfl, rfl⟩
      exact ⟨0, rfl, rfl, hstart, rfl, fun i hi => absurd hi (Nat.not_lt_zero i)⟩
    · rintro ⟨k, rfl, rfl, -, hfield, -⟩
      exact ⟨hfield, rfl⟩
  | succ n ih =>
    by_cases htag : field h start 2 ∈ [0x8100, 0x88A8]
    · have hor : field h start 2 = 0x8100 ∨ field h start 2 = 0x88A8 := by simpa using htag
      have hne : field h start 2 ≠ etherType := fun heq => htype (heq ▸ htag)
      rw [skipTags, if_pos hor]
      by_cases hlen : start + 4 + 2 ≤ h.length
      · rw [be16_eq_some.mpr ⟨hlen, rfl⟩, Option.bind_eq_bind, Option.bind_some]
        refine (ih hlen).trans ?_
        -- One more tag is in front of those that the rest of the frame is behind.
        constructor
        · rintro ⟨k, hk, rfl, hoff, hfield, htags⟩
          refine ⟨k + 1, by omega, by omega, hoff, ?_, fun i hi => ?_⟩
          · rw [← hfield]
            congr 1
            omega
          · cases i with
            | zero => exact htag
            | succ i =>
              have hi' := htags i (by omega)
              rwa [show start + 4 + 4 * i = start + 4 * (i + 1) by omega] at hi'
        · rintro ⟨k, hk, rfl, hoff, hfield, htags⟩
          cases k with
          | zero => exact absurd hfield hne
          | succ k =>
            refine ⟨k, by omega, by omega, hoff, ?_, fun i hi => ?_⟩
            · rw [← hfield]
              congr 1
              omega
            · have hi' := htags (i + 1) (by omega)
              rwa [show start + 4 * (i + 1) = start + 4 + 4 * i by omega] at hi'
      · have hnone : be16 h (start + 2 + 2) = none := by rw [be16, if_pos (by omega)]
        rw [hnone]
        simp only [Option.bind_eq_bind, Option.bind_none, reduceCtorEq, false_iff]
        rintro ⟨k, -, rfl, hoff, hfield, -⟩
        cases k with
        | zero => exact hne hfield
        | succ k => omega
    · have hor : ¬(field h start 2 = 0x8100 ∨ field h start 2 = 0x88A8) := by simpa using htag
      rw [skipTags, if_neg hor, Option.some.injEq, Prod.mk.injEq]
      constructor
      · rintro ⟨rfl, rfl⟩
        exact ⟨0, by omega, rfl, hstart, rfl, fun i hi => absurd hi (Nat.not_lt_zero i)⟩
      · rintro ⟨k, -, rfl, -, hfield, htags⟩
        cases k with
        | zero => exact ⟨hfield, rfl⟩
        | succ k => exact absurd (htags 0 (by omega)) htag

theorem framed_iff {etherType : ℕ} (hlen : 14 ≤ h.length) (htype : etherType ∉ [0x8100, 0x88A8]) :
    skipTags h 2 (field h 12 2) 14 = some (etherType, off) ↔ Framed h etherType off :=
  skipTags_eq_some (show 12 + 2 ≤ h.length from hlen) htype

theorem parseEthernet_eq_some : parseEthernet h = some t ↔
    (∃ off, Framed h 0x0800 off ∧ Ipv4At h off t) ∨ ∃ off, Framed h 0x86DD off ∧
      Ipv6At h off t := by
  rw [parseEthernet]
  split_ifs with hshort
  · simp only [false_iff]
    rintro (⟨off, ⟨k, -, rfl, hoff, -⟩, -⟩ | ⟨off, ⟨k, -, rfl, hoff, -⟩, -⟩) <;> omega
  have hlen : 14 ≤ h.length := Nat.not_lt.mp hshort
  have hfour : ∀ off, Framed h 0x0800 off ↔ skipTags h 2 (field h 12 2) 14 = some (0x0800, off) :=
    fun off => (framed_iff hlen (by decide)).symm
  have hsix : ∀ off, Framed h 0x86DD off ↔ skipTags h 2 (field h 12 2) 14 = some (0x86DD, off) :=
    fun off => (framed_iff hlen (by decide)).symm
  -- a frame whose tags fit has its payload behind them
  have hbehind : ∀ {etherType off : ℕ}, Framed h etherType off →
    behind h off = some (h.drop off) := by
    rintro etherType off ⟨k, -, -, hoff, -⟩
    rw [behind, if_neg (Nat.not_lt.mpr hoff)]
  rw [be16_eq_some.mpr ⟨by omega, rfl⟩, Option.bind_eq_bind, Option.bind_some]
  simp only [Option.bind_eq_bind, Option.bind_eq_some_iff, Prod.exists]
  constructor
  · rintro ⟨etherType, off, hskip, hparse⟩
    split at hparse
    · have hframed := (hfour off).mpr hskip
      obtain ⟨rest, hrest, hparse⟩ := Option.bind_eq_some_iff.mp hparse
      cases (hbehind hframed).symm.trans hrest
      exact .inl ⟨off, hframed, (parseIpv4_drop hframed.choose_spec.2.2.1).mp hparse⟩
    · have hframed := (hsix off).mpr hskip
      obtain ⟨rest, hrest, hparse⟩ := Option.bind_eq_some_iff.mp hparse
      cases (hbehind hframed).symm.trans hrest
      exact .inr ⟨off, hframed, (parseIpv6_drop hframed.choose_spec.2.2.1).mp hparse⟩
    · cases hparse
  · rintro (⟨off, hframed, hat⟩ | ⟨off, hframed, hat⟩)
    · refine ⟨0x0800, off, (hfour off).mp hframed, ?_⟩
      simp only [hbehind hframed, Option.bind_some]
      exact (parseIpv4_drop hframed.choose_spec.2.2.1).mpr hat
    · refine ⟨0x86DD, off, (hsix off).mp hframed, ?_⟩
      simp only [hbehind hframed, Option.bind_some]
      exact (parseIpv6_drop hframed.choose_spec.2.2.1).mpr hat

/-- **A sampled header is parsed as what it says.** -/
theorem parseHeader_eq_some : parseHeader protocol h = some t ↔ Describes protocol h t := by
  unfold parseHeader Describes
  split
  · simpa using parseEthernet_eq_some
  · simpa using parseIpv4_drop (h := h) (Nat.zero_le _)
  · simpa using parseIpv6_drop (h := h) (Nat.zero_le _)
  · rename_i hone heleven htwelve
    simp only [reduceCtorEq, false_iff]
    rintro (⟨rfl, -⟩ | ⟨rfl, -⟩ | ⟨rfl, -⟩ | ⟨rfl, -⟩)
    · exact hone rfl
    · exact hone rfl
    · exact heleven rfl
    · exact htwelve rfl

end Headers

/-! ### Records -/

/-- A record of a sampled header is parsed as the flow of its packet. -/
theorem parseRawHeader_eq_some {body : List UInt8} {fr : FlowRecord} :
    parseRawHeader body = some fr ↔ ∃ t l, Record.Samples ⟨1, body⟩ t l ∧
      fr = t.record l none none := by
  simp only [parseRawHeader, Option.bind_eq_bind, Option.bind_eq_some_iff, Prod.exists,
    toOption_eq_some, u32_eq_ok, readOpaque_eq_ok, parseHeader_eq_some, Option.pure_def,
    Option.some.injEq, Record.Samples, true_and]
  constructor
  · rintro ⟨p, _, ⟨hp, rfl⟩, l, _, ⟨hl, rfl⟩, stripped, _, ⟨hstripped, rfl⟩, header, rest,
      ⟨hheader, rfl⟩, t, hdescribes, rfl⟩
    exact ⟨t, l, ⟨p, stripped, header, rest, hp, hl, hstripped, hheader,
      by simp only [List.append_assoc], hdescribes⟩, rfl⟩
  · rintro ⟨t, l, ⟨p, stripped, header, rest, hp, hl, hstripped, hheader, rfl, hdescribes⟩, rfl⟩
    exact ⟨p, _, ⟨hp, by simp only [List.append_assoc]⟩, l, _, ⟨hl, rfl⟩, stripped, _,
      ⟨hstripped, rfl⟩, header, rest, ⟨hheader, rfl⟩, t, hdescribes, rfl⟩

section Records

variable {records : List Record} {inIf outIf : Option ℕ}

/-- The record of a sample after one more of its records. -/
def Record.pick (inIf outIf : Option ℕ) (record : Option FlowRecord)
    (r : Record) : Option FlowRecord :=
  Sflow.pick inIf outIf record r.dataFormat r.body

theorem pick_of_samples {r : Record} {t : Tuple} {l : ℕ} (record : Option FlowRecord)
    (h : r.Samples t l) :
    r.pick inIf outIf record = some (t.record l inIf outIf) := by
  obtain ⟨dataFormat, body⟩ := r
  obtain rfl : dataFormat = 1 := h.1
  have hparse : parseRawHeader body = some (t.record l none none) :=
    parseRawHeader_eq_some.mpr ⟨t, l, h, rfl⟩
  simp only [Record.pick, Sflow.pick, if_true, hparse]
  rfl

theorem pick_of_not_samples {r : Record} (record : Option FlowRecord) (h : ∀ t l, ¬r.Samples t l) :
    r.pick inIf outIf record = record := by
  obtain ⟨dataFormat, body⟩ := r
  rw [Record.pick, Sflow.pick]
  split_ifs with hformat
  · obtain rfl : dataFormat = 1 := hformat
    cases hparse : parseRawHeader body with
    | none => rfl
    | some fr =>
      obtain ⟨t, l, hsamples, -⟩ := parseRawHeader_eq_some.mp hparse
      exact absurd hsamples (h t l)
  · rfl

/-- Records without a sampled header change nothing. -/
theorem foldl_pick_of_not_samples (record : Option FlowRecord)
    (h : ∀ r ∈ records, ∀ t l, ¬r.Samples t l) :
    records.foldl (Record.pick inIf outIf) record = record := by
  induction records with
  | nil => rfl
  | cons r records ih =>
    obtain ⟨hthis, hthose⟩ := List.forall_mem_cons.mp h
    rw [List.foldl_cons, pick_of_not_samples record hthis, ih hthose]

theorem foldl_pick {c : Option (Tuple × ℕ)} (h : Chosen records c) :
    records.foldl (Record.pick inIf outIf) none = c.map fun (t, l) => t.record l inIf outIf := by
  cases c with
  | none => exact foldl_pick_of_not_samples none h
  | some x =>
    obtain ⟨t, l⟩ := x
    obtain ⟨before, r, after, rfl, hsamples, hafter⟩ := h
    rw [List.foldl_append, List.foldl_cons, pick_of_samples _ hsamples,
      foldl_pick_of_not_samples _ hafter]
    rfl

theorem exists_chosen (records : List Record) : ∃ c, Chosen records c := by
  induction records with
  | nil => exact ⟨none, fun r hr => absurd hr List.not_mem_nil⟩
  | cons r records ih =>
    obtain ⟨c, hc⟩ := ih
    cases c with
    | some x =>
      obtain ⟨before, r', after, rfl, hsamples, hafter⟩ := hc
      exact ⟨some x, r :: before, r', after, rfl, hsamples, hafter⟩
    | none =>
      by_cases h : ∃ t l, r.Samples t l
      · obtain ⟨t, l, hsamples⟩ := h
        exact ⟨some (t, l), [], r, records, rfl, hsamples, hc⟩
      · refine ⟨none, List.forall_mem_cons.mpr ⟨fun t l hsamples => h ⟨t, l, hsamples⟩, hc⟩⟩

/-- One type, one length and what stands under them. -/
theorem under_eq_ok {kind : ℕ} {body r r' : List UInt8} :
    (8 ≤ r.length ∧ ∃ r₁, u32 r = .ok (kind, r₁) ∧ readOpaque r₁ = .ok (body, r')) ↔
      FitsUnder kind body ∧ r = encodeUnder kind body ++ r' := by
  simp only [u32_eq_ok, readOpaque_eq_ok, FitsUnder, encodeUnder, List.append_assoc]
  constructor
  · rintro ⟨-, r₁, ⟨hkind, rfl⟩, hlen, rfl⟩
    exact ⟨⟨hkind, hlen⟩, rfl⟩
  · rintro ⟨⟨hkind, hlen⟩, rfl⟩
    refine ⟨?_, _, ⟨hkind, rfl⟩, hlen, rfl⟩
    simp only [encodeOpaque, List.length_append, length_bytes]
    omega

/-- **The records that are walked over** are those that are written there. -/
theorem walkRecords_eq_ok {n : ℕ} {r r' : List UInt8} {record record' : Option FlowRecord} :
    walkRecords inIf outIf n r record = .ok (record', r') ↔
      ∃ records : List Record, records.length = n ∧
      (∀ x ∈ records, FitsUnder x.dataFormat x.body) ∧
        r = (records.flatMap fun x => encodeUnder x.dataFormat x.body) ++ r' ∧
          record' = records.foldl (Record.pick inIf outIf) record := by
  induction n generalizing r record with
  | zero =>
    simp only [walkRecords, Except.ok.injEq, Prod.mk.injEq, List.length_eq_zero_iff]
    constructor
    · rintro ⟨rfl, rfl⟩
      exact ⟨[], rfl, fun x hx => absurd hx List.not_mem_nil, rfl, rfl⟩
    · rintro ⟨_, rfl, -, rfl, rfl⟩
      exact ⟨rfl, rfl⟩
  | succ n ih =>
    rw [walkRecords]
    constructor
    · intro h
      split_ifs at h with hshort
      · cases h
      · simp only [bind_eq_ok, Prod.exists, ih] at h
        obtain ⟨dataFormat, r₁, hformat, body, r₂, hbody, records, rfl, hfits, rfl, rfl⟩ := h
        obtain ⟨hfit, rfl⟩ := under_eq_ok.mp ⟨Nat.not_lt.mp hshort, r₁, hformat, hbody⟩
        exact ⟨⟨dataFormat, body⟩ :: records, rfl, List.forall_mem_cons.mpr ⟨hfit, hfits⟩,
          by rw [List.flatMap_cons, List.append_assoc], rfl⟩
    · rintro ⟨_ | ⟨x, records⟩, hlen, hfits, rfl, rfl⟩
      · cases hlen
      · obtain ⟨hfit, hfits⟩ := List.forall_mem_cons.mp hfits
        rw [List.flatMap_cons, List.append_assoc]
        obtain ⟨hlong, r₁, hformat, hbody⟩ := under_eq_ok.mpr ⟨hfit, rfl⟩
        rw [if_neg (Nat.not_lt.mpr hlong)]
        simp only [hformat, ok_bind, hbody]
        exact ih.mpr ⟨records, Nat.succ.inj hlen, hfits, rfl, rfl⟩

end Records

/-! ### Samples -/

theorem iface_eq (v : ℕ) : iface v = Head.interface (v / 2 ^ 30) (v % 2 ^ 30) := by
  rw [iface, Nat.shiftRight_eq_div_pow, Nat.and_two_pow_sub_one_eq_mod v 30]
  rfl

/-- The words in front of the records are read as they were written. -/
theorem readHead_eq_ok {expanded : Bool} {rate n : ℕ} {inIf outIf : Option ℕ} :
    readHead r expanded = .ok ((rate, inIf, outIf, n), r') ↔
      ∃ head : Head, head.isExpanded = expanded ∧
      (∀ w ∈ head.words, w < 2 ^ 32) ∧ n < 2 ^ 32 ∧
      r = head.words.flatMap (bytes 4) ++ bytes 4 n ++ r' ∧
        rate = head.rate ∧ inIf = head.inIf ∧ outIf = head.outIf := by
  cases expanded with
  | false =>
    simp only [readHead, Bool.false_eq_true, if_false, bind_eq_ok, Prod.exists, u32_eq_ok,
      pure, Except.pure, Except.ok.injEq, Prod.mk.injEq]
    constructor
    · rintro ⟨seq, _, ⟨h₁, rfl⟩, source, _, ⟨h₂, rfl⟩, rate, _, ⟨h₃, rfl⟩, pool, _, ⟨h₄, rfl⟩,
        drops, _, ⟨h₅, rfl⟩, input, _, ⟨h₆, rfl⟩, output, _, ⟨h₇, rfl⟩, n, _, ⟨h₈, rfl⟩,
        ⟨rfl, rfl, rfl, rfl⟩, rfl⟩
      refine ⟨.plain seq source rate pool drops input output, rfl, ?_, h₈, ?_, rfl, iface_eq input,
        iface_eq output⟩
      · simp only [Head.words, List.forall_mem_cons]
        exact ⟨h₁, h₂, h₃, h₄, h₅, h₆, h₇, List.forall_mem_nil _⟩
      · simp only [Head.words, List.flatMap_cons, List.flatMap_nil, List.append_assoc,
          List.nil_append]
    · rintro ⟨_ | _, hkind, hwords, hn, rfl, rfl, rfl, rfl⟩
      · simp only [Head.words, List.forall_mem_cons] at hwords
        obtain ⟨h₁, h₂, h₃, h₄, h₅, h₆, h₇, -⟩ := hwords
        simp only [Head.words, List.flatMap_cons, List.flatMap_nil, List.append_assoc,
          List.nil_append]
        exact ⟨_, _, ⟨h₁, rfl⟩, _, _, ⟨h₂, rfl⟩, _, _, ⟨h₃, rfl⟩, _, _, ⟨h₄, rfl⟩, _, _, ⟨h₅, rfl⟩,
          _, _, ⟨h₆, rfl⟩, _, _, ⟨h₇, rfl⟩, _, _, ⟨hn, rfl⟩, ⟨rfl, iface_eq _, iface_eq _, rfl⟩,
          rfl⟩
      · cases hkind
  -- the same words, with the format beside each interface
  | true =>
    simp only [readHead, if_true, bind_eq_ok, Prod.exists, u32_eq_ok, pure, Except.pure,
      Except.ok.injEq, Prod.mk.injEq]
    constructor
    · rintro ⟨seq, _, ⟨h₁, rfl⟩, type, _, ⟨h₂, rfl⟩, index, _, ⟨h₃, rfl⟩, rate, _, ⟨h₄, rfl⟩, pool,
        _, ⟨h₅, rfl⟩, drops, _, ⟨h₆, rfl⟩, inFmt, _, ⟨h₇, rfl⟩, inVal, _, ⟨h₈, rfl⟩, outFmt, _,
        ⟨h₉, rfl⟩, outVal, _, ⟨h₁₀, rfl⟩,
        n, _, ⟨h₁₁, rfl⟩, ⟨rfl, rfl, rfl, rfl⟩, rfl⟩
      refine ⟨.expanded seq type index rate pool drops inFmt inVal outFmt outVal, rfl, ?_, h₁₁, ?_,
        rfl, rfl, rfl⟩
      · simp only [Head.words, List.forall_mem_cons]
        exact ⟨h₁, h₂, h₃, h₄, h₅, h₆, h₇, h₈, h₉, h₁₀, List.forall_mem_nil _⟩
      · simp only [Head.words, List.flatMap_cons, List.flatMap_nil, List.append_assoc,
          List.nil_append]
    · rintro ⟨_ | _, hkind, hwords, hn, rfl, rfl, rfl, rfl⟩
      · cases hkind
      · simp only [Head.words, List.forall_mem_cons] at hwords
        obtain ⟨h₁, h₂, h₃, h₄, h₅, h₆, h₇, h₈, h₉, h₁₀, -⟩ := hwords
        simp only [Head.words, List.flatMap_cons, List.flatMap_nil, List.append_assoc,
          List.nil_append]
        exact ⟨_, _, ⟨h₁, rfl⟩, _, _, ⟨h₂, rfl⟩, _, _, ⟨h₃, rfl⟩, _, _, ⟨h₄, rfl⟩, _, _, ⟨h₅, rfl⟩,
          _, _, ⟨h₆, rfl⟩, _, _, ⟨h₇, rfl⟩, _, _, ⟨h₈, rfl⟩, _, _, ⟨h₉, rfl⟩, _, _, ⟨h₁₀, rfl⟩, _,
          _, ⟨hn, rfl⟩, ⟨rfl, rfl, rfl, rfl⟩,
          rfl⟩

/-- Enough bytes are words. -/
theorem exists_words (n : ℕ) (h : 4 * n ≤ r.length) :
    ∃ ws : List ℕ, ∃ r', ws.length = n ∧ (∀ w ∈ ws, w < 2 ^ 32) ∧
      r = ws.flatMap (bytes 4) ++ r' := by
  induction n generalizing r with
  | zero => exact ⟨[], r, rfl, List.forall_mem_nil _, rfl⟩
  | succ n ih =>
    have htake : (r.take 4).length = 4 := List.length_take_of_le (by omega)
    obtain ⟨ws, r', hlen, hlt, hrest⟩ := ih (r := r.drop 4) (by rw [List.length_drop]; omega)
    obtain ⟨hv, hbytes⟩ := bytes_eq_iff.mp ⟨htake, rfl⟩
    refine ⟨value (r.take 4) :: ws, r', congrArg (· + 1) hlen, List.forall_mem_cons.mpr ⟨hv, hlt⟩,
      ?_⟩
    rw [List.flatMap_cons, ← hbytes, List.append_assoc, ← hrest, List.take_append_drop]

theorem length_words (head : Head) : 4 * head.words.length + 4 = headLength head.isExpanded := by
  cases head <;> rfl

theorem length_flatMap_bytes (ws : List ℕ) : (ws.flatMap (bytes 4)).length = 4 * ws.length := by
  induction ws with
  | nil => rfl
  | cons w ws ih =>
    rw [List.flatMap_cons, List.length_append, ih, length_bytes, List.length_cons]
    omega

/-- The words in front of the records cannot be read exactly where the sample is too short. -/
theorem readHead_eq_error {expanded : Bool} :
    (∃ e, readHead r expanded = .error e) ↔ r.length < headLength expanded := by
  rw [exists_error_iff, ← not_le, not_iff_not]
  constructor
  · rintro ⟨⟨⟨rate, inIf, outIf, n⟩, r'⟩, h⟩
    obtain ⟨head, rfl, -, -, rfl, -⟩ := readHead_eq_ok.mp h
    have hlen := length_words head
    simp only [List.length_append, length_flatMap_bytes, length_bytes]
    omega
  · intro hlen
    cases expanded with
    | false =>
      obtain ⟨ws, r', hlength, hlt, rfl⟩ := exists_words 8 hlen
      match ws, hlength with
      | [seq, source, rate, pool, drops, input, output, n], _ =>
        have hall : ∀ w ∈ (Head.plain seq source rate pool drops input output).words, w < 2 ^ 32 :=
          fun w hw => hlt w (List.mem_append_left [n] hw)
        exact ⟨(_, r'), readHead_eq_ok.mpr ⟨.plain seq source rate pool drops input output, rfl,
          hall, hlt n (by simp), by simp [Head.words], rfl, rfl, rfl⟩⟩
    | true =>
      obtain ⟨ws, r', hlength, hlt, rfl⟩ := exists_words 11 hlen
      match ws, hlength with
      | [seq, type, index, rate, pool, drops, inFmt, inVal, outFmt, outVal, n], _ =>
        have hall : ∀ w ∈ (Head.expanded seq type index rate pool drops inFmt inVal outFmt
          outVal).words, w < 2 ^ 32 :=
          fun w hw => hlt w (List.mem_append_left [n] hw)
        exact ⟨(_, r'), readHead_eq_ok.mpr
          ⟨.expanded seq type index rate pool drops inFmt inVal outFmt outVal, rfl, hall,
          hlt n (by simp), by simp [Head.words], rfl, rfl, rfl⟩⟩

/-- What is said after some more samples, of some flows. -/
def Decoded.after (out : Decoded) (samples : List Sample)
    (flows : List (Option FlowRecord)) : Decoded :=
  { out with
    records := out.records ++ flows.reduceOption
    reportedSampling := (samples.filterMap Sample.rate?).getLast?.or out.reportedSampling
    samplesTotal := out.samplesTotal + samples.length
    samplesSkipped := out.samplesSkipped + flows.count none }

theorem Decoded.report_eq (out : Decoded) (head : Head) (records : List Record) :
    out.report head.rate =
      { out with
        reportedSampling := (Sample.flow head records).rate?.or out.reportedSampling } := by
  rw [Decoded.report, Sample.rate?]
  by_cases h : head.rate = 0
  · rw [if_neg (by omega), if_pos h]
    rfl
  · rw [if_pos (by omega), if_neg h]
    rfl

theorem Decoded.add_eq (out : Decoded) (o : Option FlowRecord) :
    out.add o = { out with
      records := out.records ++ o.toList
      samplesSkipped := out.samplesSkipped + [o].count none } := by
  cases o with
  | none => simp [Decoded.add, Decoded.skip]
  | some fr => simp [Decoded.add]

/-- A flow sample is too short for its head, or it is a head and its records. -/
theorem parseFlowSample_eq_ok {body : List UInt8} {expanded : Bool} {out out' : Decoded} :
    parseFlowSample body expanded out = .ok out' ↔
      (body.length < headLength expanded ∧ out' = out.skip) ∨
        ∃ head records, head.isExpanded = expanded ∧ (∀ w ∈ head.words, w < 2 ^ 32) ∧
          records.length < 2 ^ 32 ∧
          (∀ x ∈ records, FitsUnder x.dataFormat x.body) ∧ body = (Sample.flow head records).body ∧
            ∃ o, (Sample.flow head records).Yields o ∧ out' = (out.report head.rate).add o := by
  have hshort : _ ↔ body.length < headLength expanded := readHead_eq_error
  rw [parseFlowSample]
  constructor
  · intro h
    split at h
    · rename_i e hhead
      cases h
      exact .inl ⟨hshort.mp ⟨e, hhead⟩, rfl⟩
    · rename_i rate inIf outIf n r hhead
      obtain ⟨head, hkind, hwords, hn, rfl, rfl, rfl, rfl⟩ := readHead_eq_ok.mp hhead
      simp only [bind_eq_ok, Prod.exists, walkRecords_eq_ok] at h
      obtain ⟨record, r', ⟨records, rfl, hfits, rfl, rfl⟩, h⟩ := h
      split_ifs at h with hrest
      · cases h
      · cases h
        obtain ⟨c, hc⟩ := exists_chosen records
        refine .inr ⟨head, records, hkind, hwords, hn, hfits, ?_, _, ⟨c, hc, rfl⟩, ?_⟩
        · rw [List.eq_nil_of_length_eq_zero (by omega : r'.length = 0), List.append_nil]
          rfl
        · rw [foldl_pick hc]
  · rintro (⟨hlen, rfl⟩ | ⟨head, records, hkind, hwords, hn, hfits, rfl, o, ⟨c, hc, rfl⟩, rfl⟩)
    · obtain ⟨e, he⟩ := hshort.mpr hlen
      rw [he]
    · have hhead : readHead (Sample.flow head records).body expanded =
        .ok ((head.rate, head.inIf, head.outIf, records.length),
          records.flatMap fun x => encodeUnder x.dataFormat x.body) :=
        readHead_eq_ok.mpr ⟨head, hkind, hwords, hn, rfl, rfl, rfl, rfl⟩
      have hwalk : walkRecords head.inIf head.outIf records.length
          (records.flatMap fun x => encodeUnder x.dataFormat x.body) none =
            .ok (records.foldl (Record.pick head.inIf head.outIf) none, []) :=
        walkRecords_eq_ok.mpr ⟨records, rfl, hfits, (List.append_nil _).symm, rfl⟩
      rw [hhead]
      simp only [hwalk, ok_bind, foldl_pick hc]
      rfl

/-- **What stands under the type of a sample** is parsed as one sample. -/
theorem parseSample_eq_ok {kind : ℕ} {body : List UInt8} {out out' : Decoded} :
    parseSample kind body out = .ok out' ↔ ∃ x : Sample, x.kind = kind ∧ x.body = body ∧ x.Laid ∧
      ∃ o, x.Yields o ∧ out' = { out with
        records := out.records ++ o.toList
        reportedSampling := x.rate?.or out.reportedSampling
        samplesSkipped := out.samplesSkipped + [o].count none } := by
  -- both kinds of flow samples are parsed alike, with their own head
  have hflow : ∀ expanded, parseFlowSample body expanded out = .ok out' ↔
      ∃ x : Sample, x.kind = flowKind expanded ∧ x.body = body ∧ x.Laid ∧ ∃ o, x.Yields o ∧
        out' = { out with
        records := out.records ++ o.toList
        reportedSampling := x.rate?.or out.reportedSampling
        samplesSkipped := out.samplesSkipped + [o].count none } := by
    intro expanded
    rw [parseFlowSample_eq_ok]
    constructor
    · rintro (⟨hlen, rfl⟩ | ⟨head, records, rfl, hwords, hn, hfits, rfl, o, hyields, rfl⟩)
      · exact ⟨.cut expanded body, rfl, rfl, hlen, none, rfl, Decoded.add_eq out none⟩
      · exact ⟨.flow head records, rfl, rfl, ⟨hwords, hn, hfits⟩, o, hyields,
          by rw [Decoded.report_eq out head records, Decoded.add_eq]⟩
    · rintro ⟨x, hkind, rfl, hlaid, o, hyields, rfl⟩
      cases x with
      | flow head records =>
        have hexpanded : head.isExpanded = expanded := flowKind_injective hkind
        obtain ⟨hwords, hn, hfits⟩ := hlaid
        exact .inr ⟨head, records, hexpanded, hwords, hn, hfits, rfl, o, hyields,
          by rw [Decoded.report_eq out head records, Decoded.add_eq]⟩
      | cut e body =>
        obtain rfl : e = expanded := flowKind_injective hkind
        obtain rfl : o = none := hyields
        exact .inl ⟨hlaid, (Decoded.add_eq out none).symm⟩
      | other kind body =>
        obtain ⟨hone, hthree⟩ := hlaid
        cases expanded
        · exact absurd hkind hone
        · exact absurd hkind hthree
  unfold parseSample
  split
  · exact hflow false
  · exact hflow true
  · rename_i hone hthree
    rw [Except.ok.injEq]
    constructor
    · rintro rfl
      exact ⟨.other kind body, rfl, rfl, ⟨hone, hthree⟩, none, rfl, Decoded.add_eq out none⟩
    · rintro ⟨x, rfl, rfl, -, o, hyields, rfl⟩
      cases x with
      | flow head records =>
        cases head
        · exact absurd rfl hone
        · exact absurd rfl hthree
      | cut e body =>
        cases e
        · exact absurd rfl hone
        · exact absurd rfl hthree
      | other kind body =>
        obtain rfl : o = none := hyields
        exact Decoded.add_eq out none

/-! ### Datagrams -/

theorem getLast?_cons_or {α : Type} (a : Option α) (l : List α) (b : Option α) :
    (a.toList ++ l).getLast?.or b = l.getLast?.or (a.or b) := by
  rw [List.getLast?_append]
  cases l.getLast? <;> cases a <;> rfl

theorem Decoded.after_cons (out : Decoded) (x : Sample) (o : Option FlowRecord)
    (samples : List Sample) (flows : List (Option FlowRecord)) :
    out.after (x :: samples) (o :: flows) =
      Decoded.after { out with
        records := out.records ++ o.toList
        reportedSampling := x.rate?.or out.reportedSampling
        samplesTotal := out.samplesTotal + 1
        samplesSkipped := out.samplesSkipped + [o].count none } samples flows := by
  have hrates : (x :: samples).filterMap Sample.rate? =
    x.rate?.toList ++ samples.filterMap Sample.rate? := by
    cases h : x.rate? <;> simp [h]
  have hflows : (o :: flows).reduceOption = o.toList ++ flows.reduceOption := by
    cases o <;> rfl
  have hcount : (o :: flows).count none = [o].count none + flows.count none :=
    show ([o] ++ flows).count none = _ from List.count_append
  rw [Decoded.after, Decoded.after, hrates, hflows, hcount, getLast?_cons_or]
  simp only [List.append_assoc, List.length_cons, Nat.add_assoc, Nat.add_comm 1]

/-- **The samples that are walked over** are those that are written there. -/
theorem walkSamples_eq_ok {n : ℕ} {out out' : Decoded} :
    walkSamples n r out = .ok (out', r') ↔ ∃ samples flows, samples.length = n ∧
      (∀ x ∈ samples, Sample.WellFormed x) ∧ List.Forall₂ Sample.Yields samples flows ∧
        r = samples.flatMap Sample.encode ++ r' ∧ out' = out.after samples flows := by
  induction n generalizing r out with
  | zero =>
    simp only [walkSamples, Except.ok.injEq, Prod.mk.injEq, List.length_eq_zero_iff]
    constructor
    · rintro ⟨rfl, rfl⟩
      exact ⟨[], [], rfl, List.forall_mem_nil _, .nil, rfl, by simp [Decoded.after]⟩
    · rintro ⟨_, flows, rfl, -, hyields, rfl, rfl⟩
      cases hyields
      exact ⟨by simp [Decoded.after], rfl⟩
  | succ n ih =>
    rw [walkSamples]
    constructor
    · intro h
      split_ifs at h with hshort
      · cases h
      · simp only [bind_eq_ok, Prod.exists, ih, parseSample_eq_ok] at h
        obtain ⟨kind, r₁, hkind, body, r₂, hbody, _, ⟨x, rfl, rfl, hlaid, o, hyield, rfl⟩, samples,
          flows, rfl, hall, hyields, rfl, rfl⟩ := h
        obtain ⟨hfit, rfl⟩ := under_eq_ok.mp ⟨Nat.not_lt.mp hshort, r₁, hkind, hbody⟩
        exact ⟨x :: samples, o :: flows, rfl, List.forall_mem_cons.mpr ⟨⟨hfit, hlaid⟩, hall⟩,
          .cons hyield hyields, by rw [List.flatMap_cons, List.append_assoc]; rfl,
          (Decoded.after_cons out x o samples flows).symm⟩
    · rintro ⟨_ | ⟨x, samples⟩, flows, hlen, hall, hyields, rfl, rfl⟩
      · cases hlen
      · obtain ⟨⟨hfit, hlaid⟩, hall⟩ := List.forall_mem_cons.mp hall
        obtain _ | ⟨hyield, hyields⟩ := hyields
        rw [List.flatMap_cons, List.append_assoc]
        obtain ⟨hlong, r₁, hkind, hbody⟩ := under_eq_ok.mpr ⟨hfit, rfl⟩
        have hparse : parseSample x.kind x.body { out with samplesTotal := out.samplesTotal + 1 } =
          .ok _ := parseSample_eq_ok.mpr
          ⟨x, rfl, rfl, hlaid, _, hyield, rfl⟩
        rw [Sample.encode, if_neg (Nat.not_lt.mpr hlong)]
        simp only [hkind, ok_bind, hbody, hparse]
        exact ih.mpr ⟨samples, _, Nat.succ.inj hlen, hall, hyields, rfl,
          Decoded.after_cons out x _ samples _⟩

/-- **A datagram is decoded exactly when it is the encoding of a well-formed one**, and to the
flows of its samples. -/
theorem decode_eq_ok {datagram : List UInt8} {out : Decoded} :
    decode datagram = .ok out ↔ ∃ d : Datagram, ∃ flows, d.WellFormed ∧
      List.Forall₂ Sample.Yields d.samples flows ∧
      datagram = d.encode ∧ out = d.summary flows := by
  simp only [decode, bind_eq_ok, Prod.exists, u32_eq_ok]
  constructor
  · rintro ⟨version, r₁, ⟨-, rfl⟩, h⟩
    split_ifs at h with hversion
    · cases h
    · simp only [bind_eq_ok, Prod.exists, u32_eq_ok, readAddress_eq_ok, walkSamples_eq_ok] at h
      obtain ⟨agentAddr, r₂, rfl, subAgentId, r₃, ⟨hsub, rfl⟩, sequence, r₄, ⟨hseq, rfl⟩, uptime,
        r₅, ⟨hup, rfl⟩, n, r₆, ⟨hn, rfl⟩, out, r₇, ⟨samples, flows, rfl, hall, hyields, rfl, rfl⟩,
        h⟩ := h
      split_ifs at h with hrest
      · cases h
      · cases h
        obtain rfl : r₇ = [] := List.eq_nil_of_length_eq_zero (by omega)
        obtain rfl : version = 5 := not_not.mp hversion
        refine ⟨⟨agentAddr, subAgentId, sequence, uptime, samples⟩, flows,
          ⟨hsub, hseq, hup, hn, hall⟩, hyields, ?_, ?_⟩
        · simp only [Datagram.encode, List.append_assoc, List.append_nil]
        · simp only [Decoded.after, Datagram.summary, List.nil_append, Nat.zero_add, Option.or_none]
  · rintro ⟨d, flows, ⟨hsub, hseq, hup, hn, hall⟩, hyields, rfl, rfl⟩
    refine ⟨5, encodeAddress d.agentAddr ++
      (bytes 4 d.subAgentId ++ (bytes 4 d.sequence ++ (bytes 4 d.uptime ++
      (bytes 4 d.samples.length ++ d.samples.flatMap Sample.encode)))), ⟨by decide, ?_⟩, ?_⟩
    · simp only [Datagram.encode, List.append_assoc]
    have haddr : ∀ r, readAddress (encodeAddress d.agentAddr ++ r) = .ok (d.agentAddr, r) :=
      fun r => readAddress_eq_ok.mpr rfl
    -- the samples are read to the end of the datagram
    have hwalk : ∀ out, walkSamples d.samples.length (d.samples.flatMap Sample.encode) out =
        .ok (out.after d.samples flows, []) :=
      fun out => walkSamples_eq_ok.mpr ⟨d.samples, flows, rfl, hall, hyields,
          (List.append_nil _).symm, rfl⟩
    rw [if_neg (by decide)]
    simp only [haddr, ok_bind, u32_bytes _ hsub, u32_bytes _ hseq, u32_bytes _ hup,
      u32_bytes _ hn, hwalk]
    simp only [Decoded.after, List.nil_append, Nat.zero_add, Option.or_none]
    rfl

theorem Sample.exists_yields (x : Sample) : ∃ o, x.Yields o := by
  cases x with
  | flow head records =>
    obtain ⟨c, hc⟩ := exists_chosen records
    exact ⟨_, c, hc, rfl⟩
  | cut expanded body => exact ⟨none, rfl⟩
  | other kind body => exact ⟨none, rfl⟩

theorem exists_flows (samples : List Sample) :
    ∃ flows, List.Forall₂ Sample.Yields samples flows := by
  induction samples with
  | nil => exact ⟨[], .nil⟩
  | cons x samples ih =>
    obtain ⟨o, ho⟩ := x.exists_yields
    obtain ⟨flows, hflows⟩ := ih
    exact ⟨o :: flows, .cons ho hflows⟩

theorem length_reduceOption_add_count {α : Type} [DecidableEq α] (l : List (Option α)) :
    l.reduceOption.length + l.count none = l.length := by
  induction l with
  | nil => rfl
  | cons o l ih =>
    cases o with
    | none =>
      rw [List.reduceOption_cons_of_none, List.count_cons_self, List.length_cons, ← ih]
      rfl
    | some a =>
      rw [List.reduceOption_cons_of_some, List.count_cons_of_ne (by simp), List.length_cons,
        List.length_cons, ← ih]
      omega

/-- **Decoding is exact**: what is decoded was a datagram, whole, and its samples are flows or
skipped; what is encoded is decoded to the flows of its samples, in their order. -/
theorem decode_exact :
    (∀ datagram out, decode datagram = .ok out → ∃ d : Datagram, ∃ flows, d.WellFormed ∧
      datagram = d.encode ∧
      List.Forall₂ Sample.Yields d.samples flows ∧ out = d.summary flows ∧
        out.samplesTotal = d.samples.length ∧
        out.samplesTotal = out.records.length + out.samplesSkipped) ∧
      (∀ d : Datagram, d.WellFormed → ∀ flows, List.Forall₂ Sample.Yields d.samples flows →
        decode d.encode = .ok (d.summary flows)) ∧
        ∀ d : Datagram, ∃ flows, List.Forall₂ Sample.Yields d.samples flows := by
  refine ⟨fun datagram out h => ?_,
    fun d hd flows hflows => decode_eq_ok.mpr ⟨d, flows, hd, hflows, rfl, rfl⟩, fun d =>
    exists_flows d.samples⟩
  obtain ⟨d, flows, hd, hflows, rfl, rfl⟩ := decode_eq_ok.mp h
  refine ⟨d, flows, hd, rfl, hflows, rfl, rfl, ?_⟩
  calc d.samples.length = flows.length := hflows.length_eq
    _ = flows.reduceOption.length + flows.count none := (length_reduceOption_add_count flows).symm

end Rerouter.Sflow
