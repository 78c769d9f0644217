import Rerouter.FlowTemplates
import Rerouter.Lib.BigEndian
import Rerouter.Lib.Ipv4
import Rerouter.Lib.Ipv6Addr

/-!
# The NetFlow v9 decoder

A datagram is a header and a sequence of *flowsets*: templates, options templates, and data in
the layout of a template. `Rerouter.Flow.decode` walks them in their order, learns the templates
it meets, and decodes a data flowset by the template of its id that counts at that point.

The cache is returned with every outcome, because the decoder writes to it before it can fail.
-/

namespace Rerouter.Flow

open BigEndian

/-! ### Reading -/

/-- `FlowError`. -/
inductive FlowError where
  | short (needed available : ℕ)
  | unsupportedVersion (version : ℕ)
  | badFlowsetLength (length : ℕ)
  | truncatedFlowset (declared available : ℕ)
  | unalignedFlowset (length : ℕ)
  | badPadding (length : ℕ)
  | emptyTemplate (id : ℕ)
  | zeroLengthRecord (id : ℕ)
deriving DecidableEq

/-- `Reader::take`: the next bytes, and the rest. -/
def take (n : ℕ) (r : List UInt8) : Except FlowError (List UInt8 × List UInt8) :=
  if r.length < n then .error (.short n r.length) else .ok (r.take n, r.drop n)

/-- `Reader::u16`. -/
def u16 (r : List UInt8) : Except FlowError (ℕ × List UInt8) := do
  let (s, r) ← take 2 r
  return (value s, r)

/-- `Reader::u32`. -/
def u32 (r : List UInt8) : Except FlowError (ℕ × List UInt8) := do
  let (s, r) ← take 4 r
  return (value s, r)

/-- `be_uint`: of a field that is wider, its last eight bytes. -/
def beUint (f : List UInt8) : ℕ := value (f.drop (f.length - 8))

/-- `validate_padding`. -/
def validatePadding (padding : List UInt8) : Except FlowError Unit :=
  if padding.any fun byte => byte ≠ 0 then .error (.badPadding padding.length) else .ok ()

/-! ### Templates -/

/-- The types and lengths of some fields. -/
def readFields : ℕ → List UInt8 → Except FlowError (List (ℕ × ℕ) × List UInt8)
  | 0, r => .ok ([], r)
  | n + 1, r => do
    let (ftype, r) ← u16 r
    let (flen, r) ← u16 r
    let (fields, r) ← readFields n r
    return ((ftype, flen) :: fields, r)

/-- The template with some fields. -/
def Template.ofFields (fields : List (ℕ × ℕ)) (isOptions : Bool) : Template :=
  ⟨fields, (fields.map Prod.snd).sum, isOptions⟩

/-- A template with some fields of a record that is not empty. -/
def makeTemplate (id : ℕ) (fields : List (ℕ × ℕ)) (isOptions : Bool) : Except FlowError Template :=
  let template := Template.ofFields fields isOptions
  if template.recordLen = 0 then .error (.zeroLengthRecord id) else .ok template

/-- One template of a template flowset. -/
def readTemplate (r : List UInt8) : Except FlowError (Option (ℕ × Template) × List UInt8) := do
  let (id, r) ← u16 r
  let (fieldCount, r) ← u16 r
  if fieldCount = 0 then throw (.emptyTemplate id)
  let (fields, r) ← readFields fieldCount r
  let template ← makeTemplate id fields false
  return (some (id, template), r)

/-- One template of an options template flowset, or padding. -/
def readOptionsTemplate (r : List UInt8) : Except FlowError (Option (ℕ × Template) × List UInt8) :=
  do
  let (id, r) ← u16 r
  let (scopeLen, r) ← u16 r
  let (optionLen, r) ← u16 r
  if scopeLen = 0 ∧ optionLen = 0 then return (none, r)
  let (fields, r) ← readFields (scopeLen / 4 + optionLen / 4) r
  let template ← makeTemplate id fields true
  return (some (id, template), r)

/-- The templates of a flowset, each of `least` bytes or more. -/
def learnTemplates (read : List UInt8 → Except FlowError (Option (ℕ × Template) × List UInt8))
    (least source : ℕ) :
    ℕ → List UInt8 → TemplateCache → ℕ → TemplateCache × Except FlowError ℕ
  | fuel + 1, r, cache, learned =>
    if least ≤ r.length then
      match read r with
      | .error e => (cache, .error e)
      | .ok (none, r) => (cache, (validatePadding r).map fun _ => learned)
      | .ok (some (id, template), r) =>
        learnTemplates read least source fuel r (cache.insert source id template) (learned + 1)
    else (cache, (validatePadding r).map fun _ => learned)
  | 0, _, cache, learned => (cache, .ok learned)

/-- `parse_templates`. -/
def parseTemplates (body : List UInt8) (source : ℕ) (cache : TemplateCache) :
    TemplateCache × Except FlowError ℕ :=
  learnTemplates readTemplate 4 source (body.length + 1) body cache 0

/-- `parse_options_template`. -/
def parseOptionsTemplate (body : List UInt8) (source : ℕ) (cache : TemplateCache) :
    TemplateCache × Except FlowError ℕ :=
  learnTemplates readOptionsTemplate 6 source (body.length + 1) body cache 0

/-! ### Records -/

/-- `IpAddr`. -/
inductive IpAddr where
  | v4 (addr : Ipv4.Addr)
  | v6 (addr : Ipv6.Addr)
deriving DecidableEq

/-- `FlowRecord`. -/
structure FlowRecord where
  srcAddr : IpAddr
  dstAddr : IpAddr
  srcPort : Option ℕ
  dstPort : Option ℕ
  protocol : ℕ
  inIfIndex : Option ℕ
  outIfIndex : Option ℕ
  srcAs : Option ℕ
  dstAs : Option ℕ
  direction : Option ℕ
  bytes : Option ℕ
  pkts : Option ℕ
deriving DecidableEq

/-- The fields of a record that were found so far. -/
structure Found where
  srcV4 : Option Ipv4.Addr := none
  dstV4 : Option Ipv4.Addr := none
  srcV6 : Option Ipv6.Addr := none
  dstV6 : Option Ipv6.Addr := none
  srcPort : Option ℕ := none
  dstPort : Option ℕ := none
  protocol : ℕ := 0
  inIf : Option ℕ := none
  outIf : Option ℕ := none
  srcAs : Option ℕ := none
  dstAs : Option ℕ := none
  direction : Option ℕ := none
  inBytes : Option ℕ := none
  outBytes : Option ℕ := none
  inPkts : Option ℕ := none
  outPkts : Option ℕ := none

/-- One field: an address only where it has the length of one, and nothing of other types. -/
def Found.add (x : Found) (ftype : ℕ) (f : List UInt8) : Found :=
  match ftype with
  | 1 => { x with inBytes := some (beUint f) }
  | 23 => { x with outBytes := some (beUint f) }
  | 2 => { x with inPkts := some (beUint f) }
  | 24 => { x with outPkts := some (beUint f) }
  | 4 => { x with protocol := beUint f % 2 ^ 8 }
  | 7 => { x with srcPort := some (beUint f % 2 ^ 16) }
  | 11 => { x with dstPort := some (beUint f % 2 ^ 16) }
  | 10 => { x with inIf := some (beUint f % 2 ^ 32) }
  | 14 => { x with outIf := some (beUint f % 2 ^ 32) }
  | 16 => { x with srcAs := some (beUint f % 2 ^ 32) }
  | 17 => { x with dstAs := some (beUint f % 2 ^ 32) }
  | 61 => { x with direction := some (beUint f % 2 ^ 8) }
  | 8 => if f.length = 4 then { x with srcV4 := some (BitVec.ofNat 32 (value f)) } else x
  | 12 => if f.length = 4 then { x with dstV4 := some (BitVec.ofNat 32 (value f)) } else x
  | 27 => if f.length = 16 then { x with srcV6 := some (BitVec.ofNat 128 (value f)) } else x
  | 28 => if f.length = 16 then { x with dstV6 := some (BitVec.ofNat 128 (value f)) } else x
  | _ => x

/-- The fields of a record, in the order of its template. -/
def findFields : List (ℕ × ℕ) → List UInt8 → Found → Option Found
  | [], _, x => some x
  | (ftype, flen) :: fields, r, x =>
    if r.length < flen then none else findFields fields (r.drop flen) (x.add ftype (r.take flen))

/-- The sum of two numbers of 64 bits, or the greatest one. -/
def saturatingAdd (a b : ℕ) : ℕ := min (a + b) (2 ^ 64 - 1)

/-- `sum_present`. -/
def sumPresent : Option ℕ → Option ℕ → Option ℕ
  | some a, some b => some (saturatingAdd a b)
  | some v, none | none, some v => some v
  | none, none => none

/-- The flow a record is of, if it has both addresses. -/
def Found.flow (x : Found) : Option FlowRecord :=
  let record (srcAddr dstAddr : IpAddr) : FlowRecord :=
    { srcAddr, dstAddr
      srcPort := x.srcPort
      dstPort := x.dstPort
      protocol := x.protocol
      inIfIndex := x.inIf
      outIfIndex := x.outIf
      srcAs := x.srcAs
      dstAs := x.dstAs
      direction := x.direction
      bytes := sumPresent x.inBytes x.outBytes
      pkts := sumPresent x.inPkts x.outPkts }
  match x.srcV4, x.dstV4, x.srcV6, x.dstV6 with
  | some s, some d, _, _ => some (record (.v4 s) (.v4 d))
  | _, _, some s, some d => some (record (.v6 s) (.v6 d))
  | _, _, _, _ => none

/-- `decode_one_record`. -/
def decodeOneRecord (record : List UInt8) (template : Template) : Option FlowRecord :=
  (findFields template.fields record {}).bind Found.flow

/-- `parse_data_records`. -/
def parseDataRecords (body : List UInt8) (template : Template) :
    Except FlowError (List FlowRecord) :=
  let len := template.recordLen
  if len = 0 then .ok []
  else
    let n := body.length / len
    let trailing := body.drop (n * len)
    if 3 < trailing.length then .error (.truncatedFlowset len trailing.length)
    else
      (validatePadding trailing).map fun _ =>
        (List.range n).filterMap fun i => decodeOneRecord ((body.drop (i * len)).take len) template

/-- The first sampling interval among the fields of a record. -/
def findSampling : List (ℕ × ℕ) → List UInt8 → Option ℕ
  | [], _ => none
  | (ftype, flen) :: fields, r =>
    if r.length < flen then none
    else
      let v := beUint (r.take flen) % 2 ^ 32
      if (ftype = 34 ∨ ftype = 50) ∧ 1 ≤ v then some v else findSampling fields (r.drop flen)

/-- `parse_options_data`: of its first record. -/
def parseOptionsData (body : List UInt8) (template : Template) : Option ℕ :=
  if template.recordLen = 0 ∨ body.length < template.recordLen then none
  else findSampling template.fields (body.take template.recordLen)

/-! ### Datagrams -/

/-- `Decoded`. -/
structure Decoded where
  sourceId : ℕ
  sysUptime : ℕ
  sequence : ℕ
  records : List FlowRecord := []
  reportedSampling : Option ℕ := none
  templatesLearned : ℕ := 0
  dataWithoutTemplate : ℕ := 0
  exporterRestarted : Bool
  samplingStateExpired : Bool
deriving DecidableEq

/-- One flowset. -/
def parseFlowset (id : ℕ) (body : List UInt8) (cache : TemplateCache) (out : Decoded) :
    TemplateCache × Except FlowError Decoded :=
  if id = 0 then
    let (cache, learned) := parseTemplates body out.sourceId cache
    (cache, learned.map fun n => { out with templatesLearned := out.templatesLearned + n })
  else if id = 1 then
    let (cache, learned) := parseOptionsTemplate body out.sourceId cache
    (cache, learned.map fun n => { out with templatesLearned := out.templatesLearned + n })
  else if 256 ≤ id then
    match cache.get out.sourceId id with
    | none => (cache, .ok { out with dataWithoutTemplate := out.dataWithoutTemplate + 1 })
    | some t =>
      if t.isOptions then
        (cache, .ok { out with
          reportedSampling := (parseOptionsData body t).or out.reportedSampling })
      else (cache, (parseDataRecords body t).map fun rs =>
        { out with records := out.records ++ rs })
  else (cache, .ok out)

/-- The id and the body of the next flowset, and the rest. -/
def readFlowset (r : List UInt8) : Except FlowError (ℕ × List UInt8 × List UInt8) := do
  let (id, r) ← u16 r
  let (length, r) ← u16 r
  if length < 4 then throw (.badFlowsetLength length)
  if length % 4 ≠ 0 then throw (.unalignedFlowset length)
  if r.length < length - 4 then throw (.truncatedFlowset (length - 4) r.length)
  let (body, r) ← take (length - 4) r
  return (id, body, r)

/-- The flowsets of a datagram, one after the other, and what is left behind them. -/
def walk : ℕ → List UInt8 → TemplateCache → Decoded → TemplateCache × Except FlowError Decoded
  | fuel + 1, r, cache, out =>
    if 4 ≤ r.length then
      match readFlowset r with
      | .error e => (cache, .error e)
      | .ok (id, body, r) =>
        match parseFlowset id body cache out with
        | (cache, .error e) => (cache, .error e)
        | (cache, .ok out) => walk fuel r cache out
    else (cache, (validatePadding r).map fun _ => out)
  | 0, _, cache, out => (cache, .ok out)

/-- The fields of the header. -/
structure Header where
  count : ℕ
  sysUptime : ℕ
  unixSecs : ℕ
  sequence : ℕ
  sourceId : ℕ

/-- The header of a datagram, and the rest. -/
def readHeader (datagram : List UInt8) : Except FlowError (Header × List UInt8) := do
  if datagram.length < 20 then throw (.short 20 datagram.length)
  let (version, r) ← u16 datagram
  if version ≠ 9 then throw (.unsupportedVersion version)
  let (count, r) ← u16 r
  let (sysUptime, r) ← u32 r
  let (unixSecs, r) ← u32 r
  let (sequence, r) ← u32 r
  let (sourceId, r) ← u32 r
  return (⟨count, sysUptime, unixSecs, sequence, sourceId⟩, r)

/-- `decode`. -/
def decode (datagram : List UInt8) (cache : TemplateCache) :
    TemplateCache × Except FlowError Decoded :=
  match readHeader datagram with
  | .error e => (cache, .error e)
  | .ok (h, r) =>
    let (cache, exporterRestarted, samplingStateExpired) :=
      cache.beginDatagram h.sourceId h.sysUptime h.unixSecs h.sequence
    walk datagram.length r cache
      { sourceId := h.sourceId
        sysUptime := h.sysUptime
        sequence := h.sequence
        exporterRestarted
        samplingStateExpired }

/-! ### The fields of the header, without the rest -/

/-- `u32_at`. -/
def u32At (buf : List UInt8) (offset : ℕ) : Option ℕ :=
  if offset + 4 ≤ buf.length then some (value ((buf.drop offset).take 4)) else none

/-- `Protocol`. -/
inductive Protocol where
  | netflowV9
  | sflow
deriving DecidableEq

/-- The length of the address of an sFlow agent. -/
def agentLen (buf : List UInt8) : Option ℕ :=
  (u32At buf 4).bind fun kind => if kind = 1 then some 4 else if kind = 2 then some 16 else none

/-- `wire_observation_domain`. -/
def wireObservationDomain (protocol : Protocol) (buf : List UInt8) : Option ℕ :=
  match protocol with
  | .netflowV9 => if 2 ≤ buf.length ∧ value (buf.take 2) = 9 then u32At buf 16 else none
  | .sflow =>
    if u32At buf 0 = some 5 then (agentLen buf).bind fun agentLen =>
      u32At buf (8 + agentLen) else none

/-- `wire_sequence_and_uptime`. -/
def wireSequenceAndUptime (protocol : Protocol) (buf : List UInt8) : Option (ℕ × Option ℕ) :=
  match protocol with
  | .netflowV9 => do
    let sequence ← u32At buf 12
    let uptime ← u32At buf 4
    return (sequence, some uptime)
  | .sflow => do
    let agentLen ← agentLen buf
    let sequence ← u32At buf (12 + agentLen)
    let uptime ← u32At buf (16 + agentLen)
    return (sequence, some uptime)

end Rerouter.Flow
