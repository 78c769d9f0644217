import Rerouter.FlowDecode
import Rerouter.Lib.Outcome

/-!
# The sFlow decoder

An sFlow datagram needs no templates. It is a header and a number of samples, each under its type
and its length; a flow sample is a number of records in the same form, and a record of one kind
holds the first bytes of a sampled packet. `Rerouter.Sflow.decode` reads the four layers, and
makes a flow of the packet of each flow sample.
-/

namespace Rerouter.Sflow

open BigEndian
open Rerouter.Flow (FlowRecord IpAddr)

/-- `SflowError`. -/
inductive SflowError where
  | short (needed available : ℕ)
  | unsupportedVersion (version : ℕ)
  | badAddressType (kind : ℕ)
  | badPadding
  | trailingBytes (count : ℕ)
deriving DecidableEq

/-- `Decoded`. -/
structure Decoded where
  agentAddr : Option IpAddr
  subAgentId : ℕ
  sequence : ℕ
  uptime : ℕ
  records : List FlowRecord
  reportedSampling : Option ℕ
  samplesTotal : ℕ
  samplesSkipped : ℕ
deriving DecidableEq

/-! ### Reading -/

/-- `Reader::take`: the next bytes, and the rest. -/
def take (n : ℕ) (r : List UInt8) : Except SflowError (List UInt8 × List UInt8) :=
  if r.length < n then .error (.short n r.length) else .ok (r.take n, r.drop n)

/-- `Reader::u32`. -/
def u32 (r : List UInt8) : Except SflowError (ℕ × List UInt8) := do
  let (s, r) ← take 4 r
  return (value s, r)

/-- `Reader::opaque`: a length, that many bytes, and zeros up to a multiple of four. -/
def readOpaque (r : List UInt8) : Except SflowError (List UInt8 × List UInt8) := do
  let (len, r) ← u32 r
  let (data, r) ← take len r
  let (padding, r) ← take ((4 - len % 4) % 4) r
  if padding.any fun byte => byte ≠ 0 then throw .badPadding
  return (data, r)

/-- `be16`. -/
def be16 (h : List UInt8) (off : ℕ) : Option ℕ :=
  if h.length < off + 2 then none else some (field h off 2)

/-- `read_address`. -/
def readAddress (r : List UInt8) : Except SflowError (IpAddr × List UInt8) := do
  let (kind, r) ← u32 r
  match kind with
  | 1 =>
    let (b, r) ← take 4 r
    return (.v4 (BitVec.ofNat 32 (value b)), r)
  | 2 =>
    let (b, r) ← take 16 r
    return (.v6 (BitVec.ofNat 128 (value b)), r)
  | other => throw (.badAddressType other)

/-! ### Sampled headers -/

/-- `Tuple`. -/
structure Tuple where
  srcAddr : IpAddr
  dstAddr : IpAddr
  protocol : ℕ
  srcPort : Option ℕ
  dstPort : Option ℕ
deriving DecidableEq

/-- `l4_ports`. -/
def l4Ports (h : List UInt8) (l4Off protocol : ℕ) : Option ℕ × Option ℕ :=
  if protocol = 6 ∨ protocol = 17 ∨ protocol = 132 then
    match be16 h l4Off, be16 h (l4Off + 2) with
    | some sp, some dp => (some sp, some dp)
    | _, _ => (none, none)
  else (none, none)

/-- `parse_ipv4`. -/
def parseIpv4 (h : List UInt8) : Option Tuple :=
  if h.length < 20 then none
  else
    let ihl := (field h 0 1 &&& 0x0f) * 4
    if ihl < 20 then none
    else do
      let protocol := field h 9 1
      let fragment ← be16 h 6
      let ports := if fragment &&& 0x1fff = 0 then l4Ports h ihl protocol else (none, none)
      return {
        srcAddr := .v4 (BitVec.ofNat 32 (field h 12 4))
        dstAddr := .v4 (BitVec.ofNat 32 (field h 16 4))
        protocol, srcPort := ports.1, dstPort := ports.2 }

/-- `parse_ipv6`. -/
def parseIpv6 (h : List UInt8) : Option Tuple :=
  if h.length < 40 then none
  else
    let nextHeader := field h 6 1
    let ports := l4Ports h 40 nextHeader
    some {
      srcAddr := .v6 (BitVec.ofNat 128 (field h 8 16))
      dstAddr := .v6 (BitVec.ofNat 128 (field h 24 16))
      protocol := nextHeader, srcPort := ports.1, dstPort := ports.2 }

/-- The EtherType behind up to `n` VLAN tags, and where it ends. -/
def skipTags (h : List UInt8) : ℕ → ℕ → ℕ → Option (ℕ × ℕ)
  | 0, ethertype, off => some (ethertype, off)
  | n + 1, ethertype, off =>
    if ethertype = 0x8100 ∨ ethertype = 0x88A8 then do
      let ethertype ← be16 h (off + 2)
      skipTags h n ethertype (off + 4)
    else some (ethertype, off)

/-- `h.get(off..)`. -/
def behind (h : List UInt8) (off : ℕ) : Option (List UInt8) :=
  if h.length < off then none else some (h.drop off)

/-- `parse_ethernet`. -/
def parseEthernet (h : List UInt8) : Option Tuple :=
  if h.length < 14 then none
  else do
    let ethertype ← be16 h 12
    let (ethertype, off) ← skipTags h 2 ethertype 14
    match ethertype with
    | 0x0800 => parseIpv4 (← behind h off)
    | 0x86DD => parseIpv6 (← behind h off)
    | _ => none

/-- What a sampled header is parsed as, by its protocol. -/
def parseHeader (headerProtocol : ℕ) (h : List UInt8) : Option Tuple :=
  match headerProtocol with
  | 1 => parseEthernet h
  | 11 => parseIpv4 h
  | 12 => parseIpv6 h
  | _ => none

/-- The flow of one packet of a tuple and a length. -/
def Tuple.record (t : Tuple) (frameLength : ℕ) (inIf outIf : Option ℕ) : FlowRecord where
  srcAddr := t.srcAddr
  dstAddr := t.dstAddr
  srcPort := t.srcPort
  dstPort := t.dstPort
  protocol := t.protocol
  inIfIndex := inIf
  outIfIndex := outIf
  srcAs := none
  dstAs := none
  direction := none
  bytes := some frameLength
  pkts := some 1

/-- `parse_raw_header`: the interfaces are filled in by the caller. -/
def parseRawHeader (body : List UInt8) : Option FlowRecord := do
  let (headerProtocol, r) ← (u32 body).toOption
  let (frameLength, r) ← (u32 r).toOption
  let (_, r) ← (u32 r).toOption
  let (header, _) ← (readOpaque r).toOption
  let t ← parseHeader headerProtocol header
  return t.record frameLength none none

/-! ### Samples -/

/-- `iface`. -/
def iface (v : ℕ) : Option ℕ :=
  let format := v >>> 30
  let value := v &&& 0x3FFFFFFF
  if format = 0 ∧ value ≠ 0 then some value else none

/-- `iface_expanded`. -/
def ifaceExpanded (format value : ℕ) : Option ℕ :=
  if format = 0 ∧ value ≠ 0 then some value else none

/-- The fields of a flow sample up to the number of its records: the rate, the interfaces and that
number. -/
def readHead (r : List UInt8) (expanded : Bool) :
    Except SflowError ((ℕ × Option ℕ × Option ℕ × ℕ) × List UInt8) := do
  let (_, r) ← u32 r
  if expanded then
    let (_, r) ← u32 r
    let (_, r) ← u32 r
    let (samplingRate, r) ← u32 r
    let (_, r) ← u32 r
    let (_, r) ← u32 r
    let (inFmt, r) ← u32 r
    let (inVal, r) ← u32 r
    let (outFmt, r) ← u32 r
    let (outVal, r) ← u32 r
    let (numRecords, r) ← u32 r
    return ((samplingRate, ifaceExpanded inFmt inVal, ifaceExpanded outFmt outVal, numRecords), r)
  else
    let (_, r) ← u32 r
    let (samplingRate, r) ← u32 r
    let (_, r) ← u32 r
    let (_, r) ← u32 r
    let (input, r) ← u32 r
    let (output, r) ← u32 r
    let (numRecords, r) ← u32 r
    return ((samplingRate, iface input, iface output, numRecords), r)

/-- The record of a sample after one more of its records. -/
def pick (inIf outIf : Option ℕ) (record : Option FlowRecord) (dataFormat : ℕ) (body : List UInt8) :
    Option FlowRecord :=
  if dataFormat = 1 then
    match parseRawHeader body with
    | some fr => some { fr with inIfIndex := inIf, outIfIndex := outIf }
    | none => record
  else record

/-- The records of a flow sample. -/
def walkRecords (inIf outIf : Option ℕ) :
    ℕ → List UInt8 → Option FlowRecord → Except SflowError (Option FlowRecord × List UInt8)
  | 0, r, record => .ok (record, r)
  | n + 1, r, record => do
    if r.length < 8 then throw (.short 8 r.length)
    let (dataFormat, r) ← u32 r
    let (body, r) ← readOpaque r
    walkRecords inIf outIf n r (pick inIf outIf record dataFormat body)

/-- One more sample of no flow. -/
def Decoded.skip (out : Decoded) : Decoded := { out with samplesSkipped := out.samplesSkipped + 1 }

/-- One more sample, of a flow or of none. -/
def Decoded.add (out : Decoded) : Option FlowRecord → Decoded
  | some fr => { out with records := out.records ++ [fr] }
  | none => out.skip

/-- The rate of a sample, unless it is zero. -/
def Decoded.report (out : Decoded) (samplingRate : ℕ) : Decoded :=
  if 1 ≤ samplingRate then { out with reportedSampling := some samplingRate } else out

/-- `parse_flow_sample`. -/
def parseFlowSample (body : List UInt8) (expanded : Bool) (out : Decoded) :
    Except SflowError Decoded :=
  match readHead body expanded with
  | .error _ => .ok out.skip
  | .ok ((samplingRate, inIf, outIf, numRecords), r) => do
    let out := out.report samplingRate
    let (record, r) ← walkRecords inIf outIf numRecords r none
    let out := out.add record
    if r.length ≠ 0 then throw (.trailingBytes r.length)
    return out

/-- A sample by its type: a flow sample, an expanded one, or one that is ignored. -/
def parseSample (sampleType : ℕ) (body : List UInt8) (out : Decoded) : Except SflowError Decoded :=
  match sampleType with
  | 1 => parseFlowSample body false out
  | 3 => parseFlowSample body true out
  | _ => .ok out.skip

/-- The samples of a datagram. -/
def walkSamples : ℕ → List UInt8 → Decoded → Except SflowError (Decoded × List UInt8)
  | 0, r, out => .ok (out, r)
  | n + 1, r, out => do
    if r.length < 8 then throw (.short 8 r.length)
    let (sampleType, r) ← u32 r
    let (body, r) ← readOpaque r
    let out ← parseSample sampleType body { out with samplesTotal := out.samplesTotal + 1 }
    walkSamples n r out

/-- `decode`. -/
def decode (datagram : List UInt8) : Except SflowError Decoded := do
  let (version, r) ← u32 datagram
  if version ≠ 5 then throw (.unsupportedVersion version)
  let (agentAddr, r) ← readAddress r
  let (subAgentId, r) ← u32 r
  let (sequence, r) ← u32 r
  let (uptime, r) ← u32 r
  let (numSamples, r) ← u32 r
  let (out, r) ← walkSamples numSamples r
    { agentAddr := some agentAddr, subAgentId, sequence, uptime
      records := [], reportedSampling := none, samplesTotal := 0, samplesSkipped := 0 }
  if r.length ≠ 0 then throw (.trailingBytes r.length)
  return out

end Rerouter.Sflow
