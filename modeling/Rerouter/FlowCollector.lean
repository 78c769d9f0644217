import Rerouter.FlowDecode

/-!
# The flow collector

The collector folds the flows of an exporter into buckets of time, one for each time its clock is
divided by their width, and a flush takes the buckets out whose time is over. A bucket counts in
four *dimensions*; what a dimension could not count, it counts as dropped, and it is complete when
nothing was.

That datagrams were lost is known only from the sequence number of a later one
(`Rerouter.Collector.Exporter.observeSequence`).
-/

namespace Rerouter.Collector

open Rerouter.Flow

/-! ### Buckets -/

/-- `Counts`. -/
structure Counts where
  pkts : ℕ := 0
  bytes : ℕ := 0
  flows : ℕ := 0
  pktsAvailable : Bool := true
  bytesAvailable : Bool := true
deriving DecidableEq

/-- `Counts::add`. -/
def Counts.add (c : Counts) (pkts bytes : Option ℕ) : Counts where
  pkts := saturatingAdd c.pkts (pkts.getD 0)
  bytes := saturatingAdd c.bytes (bytes.getD 0)
  flows := saturatingAdd c.flows 1
  pktsAvailable := c.pktsAvailable && pkts.isSome
  bytesAvailable := c.bytesAvailable && bytes.isSome

/-- The counts of two parts of a bucket. -/
def Counts.merge (c d : Counts) : Counts where
  pkts := saturatingAdd c.pkts d.pkts
  bytes := saturatingAdd c.bytes d.bytes
  flows := saturatingAdd c.flows d.flows
  pktsAvailable := c.pktsAvailable && d.pktsAvailable
  bytesAvailable := c.bytesAvailable && d.bytesAvailable

/-- One dimension of a bucket: the counts of its keys, and how much was not counted. -/
structure Dimension (K : Type) where
  counts : List (K × Counts) := []
  dropped : ℕ := 0

namespace Dimension

variable {K : Type} [DecidableEq K]

/-- The counts of a key. -/
def lookup (d : Dimension K) (key : K) : Option Counts :=
  (d.counts.find? fun p => p.1 = key).map Prod.snd

/-- `add_bounded`: a key beyond the cap is dropped. -/
def add (d : Dimension K) (cap : ℕ) (key : K) (pkts bytes : Option ℕ) : Dimension K :=
  if (d.lookup key).isSome then
    { d with counts := d.counts.map fun p => if p.1 = key then (p.1, p.2.add pkts bytes) else p }
  else if d.counts.length < cap then
    { d with counts := d.counts ++ [(key, Counts.add {} pkts bytes)] }
  else { d with dropped := saturatingAdd d.dropped 1 }

/-- Something was not counted. -/
def mark (d : Dimension K) (count : ℕ) : Dimension K :=
  { d with dropped := saturatingAdd d.dropped count }

/-- One key of `merge_counts_map`. -/
def mergeKey (cap : ℕ) (d : Dimension K) (p : K × Counts) : Dimension K :=
  if (d.lookup p.1).isSome then
    { d with counts := d.counts.map fun q => if q.1 = p.1 then (q.1, q.2.merge p.2) else q }
  else if d.counts.length < cap then { d with counts := d.counts ++ [p] }
  else { d with dropped := saturatingAdd d.dropped (max p.2.flows 1) }

/-- `merge_counts_map`. -/
def merge (cap : ℕ) (d e : Dimension K) : Dimension K :=
  e.counts.foldl (mergeKey cap) (d.mark e.dropped)

end Dimension

/-- `Direction`. -/
inductive Direction where
  | ingress
  | egress
deriving DecidableEq

/-- `PortKind`. -/
inductive PortKind where
  | src
  | dst
deriving DecidableEq

abbrev IfaceKey := ℕ × Direction
abbrev PortKey := ℕ × Direction × ℕ × PortKind × ℕ
abbrev AsKey := ℕ × Direction × PortKind × ℕ

/-- `TalkerKey`. -/
structure TalkerKey where
  ifindex : ℕ
  dir : Direction
  srcAddr : IpAddr
  dstAddr : IpAddr
  srcPort : Option ℕ
  dstPort : Option ℕ
  protocol : ℕ
deriving DecidableEq

/-- `MAX_IFACE_KEYS`. -/
def maxIfaceKeys : ℕ := 4096
/-- `MAX_PORT_KEYS`. -/
def maxPortKeys : ℕ := 65536
/-- `MAX_AS_KEYS`. -/
def maxAsKeys : ℕ := 65536
/-- `MAX_TALKER_KEYS`. -/
def maxTalkerKeys : ℕ := 65536

/-- `Accum`. -/
structure Accum where
  iface : Dimension IfaceKey := {}
  port : Dimension PortKey := {}
  asn : Dimension AsKey := {}
  talker : Dimension TalkerKey := {}
  /-- False when the generation of its exporter began after the bucket opened. -/
  baseComplete : Bool := true

/-- `FlowRecord::attribution`. -/
def attribution (fr : FlowRecord) : Direction × Option ℕ :=
  if fr.direction = some 1 then (.egress, fr.outIfIndex) else (.ingress, fr.inIfIndex)

/-- `FlowRecord::has_ports`. -/
def hasPorts (fr : FlowRecord) : Bool := fr.protocol = 6 || fr.protocol = 17 || fr.protocol = 132

namespace Accum

/-- `Accum::fold`: a flow in all dimensions it has a key in. -/
def fold (a : Accum) (fr : FlowRecord) : Accum :=
  match attribution fr with
  | (_, none) => a
  | (dir, some ifindex) =>
    let port (d : Dimension PortKey) (kind : PortKind) (port : Option ℕ) :=
      match port with
      | some p =>
        if hasPorts fr then d.add maxPortKeys (ifindex, dir, fr.protocol, kind, p) fr.pkts fr.bytes
          else d
      | none => d
    let asn (d : Dimension AsKey) (kind : PortKind) (asn : Option ℕ) :=
      match asn.filter (· ≠ 0) with
      | some n => d.add maxAsKeys (ifindex, dir, kind, n) fr.pkts fr.bytes
      | none => d
    { a with
      iface := a.iface.add maxIfaceKeys (ifindex, dir) fr.pkts fr.bytes
      port := port (port a.port .src fr.srcPort) .dst fr.dstPort
      asn := asn (asn a.asn .src fr.srcAs) .dst fr.dstAs
      talker := a.talker.add maxTalkerKeys
        ⟨ifindex, dir, fr.srcAddr, fr.dstAddr, fr.srcPort, fr.dstPort,
          fr.protocol⟩ fr.pkts fr.bytes }

/-- `Accum::mark_all_dropped`. -/
def markAllDropped (a : Accum) (count : ℕ) : Accum :=
  { a with
    iface := a.iface.mark count
    port := a.port.mark count
    asn := a.asn.mark count
    talker := a.talker.mark count }

/-- `Accum::merge_from`. -/
def mergeFrom (a b : Accum) : Accum where
  iface := a.iface.merge maxIfaceKeys b.iface
  port := a.port.merge maxPortKeys b.port
  asn := a.asn.merge maxAsKeys b.asn
  talker := a.talker.merge maxTalkerKeys b.talker
  baseComplete := a.baseComplete && b.baseComplete

end Accum

/-! ### Exporters -/

/-- `MAX_OPEN_BUCKETS`. -/
def maxOpenBuckets : ℕ := 120

/-- `SEQUENCE_REORDER_HALF_RANGE`. -/
def sequenceReorderHalfRange : ℕ := (2 ^ 32 - 1) / 2

/-- `UPTIME_REORDER_TOLERANCE_MS`. -/
def uptimeReorderToleranceMs : ℕ := 5 * 60 * 1000

/-- What the collector keeps of an exporter, `Exporter`. -/
structure Exporter where
  templates : TemplateCache := {}
  /-- The buckets that were not taken out yet, with the times they start at. -/
  buckets : List (ℕ × Accum) := []
  reportedRate : Option ℕ := none
  snmpDerivedRate : Option ℕ := none
  lastSequence : Option ℕ := none
  lastSequenceBucket : Option ℕ := none
  lastUptime : Option ℕ := none
  generationStartedAt : ℕ

namespace Exporter

/-- The bucket at a time. -/
def bucket (x : Exporter) (ts : ℕ) : Option Accum :=
  (x.buckets.find? fun b => b.1 = ts).map Prod.snd

/-- A bucket that is there, changed. -/
def modifyBucket (x : Exporter) (ts : ℕ) (f : Accum → Accum) : Exporter :=
  { x with buckets := x.buckets.map fun b => if b.1 = ts then (b.1, f b.2) else b }

/-- A bucket that is not there, made. -/
def openBucket (x : Exporter) (ts : ℕ) : Exporter :=
  { x with buckets := x.buckets ++ [(ts, { baseComplete := decide (x.generationStartedAt ≤ ts) })] }

/-- The time of the oldest bucket. -/
def oldest (x : Exporter) : Option ℕ := (x.buckets.map Prod.fst).min?

/-- `bucket_entry_bounded`, and what is done to the bucket it returns: at the cap the oldest bucket
makes room, unless the new one is older. -/
def entry (x : Exporter) (ts : ℕ) (f : Accum → Accum) : Exporter :=
  if (x.bucket ts).isSome then x.modifyBucket ts f
  else if x.buckets.length < maxOpenBuckets then (x.openBucket ts).modifyBucket ts f
  else
    match x.oldest with
    | none => (x.openBucket ts).modifyBucket ts f
    | some oldest =>
      if ts ≤ oldest then x
      else
        let x := { x with buckets := x.buckets.filter fun b => b.1 ≠ oldest }
        (x.openBucket ts).modifyBucket ts f

/-- `reset_generation`. -/
def resetGeneration (x : Exporter) (now bucketTs : ℕ) : Exporter :=
  { x with generationStartedAt := now }.modifyBucket bucketTs fun a =>
    { a with baseComplete := false }

/-- An uptime that has wrapped around since the last one. -/
def uptimeWrapped (x : Exporter) (uptime : ℕ) : Bool :=
  x.lastUptime.any fun previous =>
    decide (2 ^ 32 - 1 - uptimeReorderToleranceMs < previous) &&
      decide (uptime < uptimeReorderToleranceMs)

/-- An uptime that is another generation's. -/
def uptimeRestarted (x : Exporter) (uptime : ℕ) : Bool :=
  x.lastUptime.any fun previous =>
    !x.uptimeWrapped uptime && decide (uptimeReorderToleranceMs < previous - uptime)

/-- An uptime that falls a little. -/
def uptimeRegressed (x : Exporter) (uptime : ℕ) : Bool :=
  x.lastUptime.any fun previous => !x.uptimeWrapped uptime && decide (uptime < previous)

/-- How many datagrams are missing between the last one and this one. -/
def missing (x : Exporter) (sequence : ℕ) : ℕ :=
  match x.lastSequence with
  | none => 0
  | some previous =>
    let delta := Wrap.wrappingSub 32 sequence previous
    if 1 < delta ∧ delta < sequenceReorderHalfRange then delta - 1 else 0

/-- Whether a sequence number is ahead of the last one. -/
def advances (x : Exporter) (sequence : ℕ) : Bool :=
  match x.lastSequence with
  | none => true
  | some previous =>
    let delta := Wrap.wrappingSub 32 sequence previous
    decide (0 < delta) && decide (delta < sequenceReorderHalfRange)

/-- The datagrams that are missing are missing in the bucket of the last one, too. -/
def markPrevious (x : Exporter) (bucketTs missing : ℕ) : Exporter :=
  match x.lastSequenceBucket with
  | none => x
  | some previous =>
    if 0 < missing ∧ previous ≠ bucketTs then x.modifyBucket previous fun a =>
      a.markAllDropped missing else x

/-- `observe_sequence`. The uptime is that of a NetFlow header, which always has one. -/
def observeSequence (x : Exporter) (sequence uptime : ℕ) (explicitRestart : Bool)
    (now bucketTs : ℕ) : Exporter × ℕ :=
  if explicitRestart || x.uptimeRestarted uptime then
    ({ x.resetGeneration now bucketTs with
        lastSequence := some sequence
        lastSequenceBucket := some bucketTs
        lastUptime := some uptime }, 0)
  else
    let missing := x.missing sequence
    let ahead := x.advances sequence
    let x := if x.uptimeRegressed uptime then x.entry bucketTs fun a =>
      { a with baseComplete := false } else x
    let x := x.markPrevious bucketTs missing
    (if ahead then
        { x with
          lastSequence := some sequence, lastSequenceBucket := some bucketTs,
          lastUptime := some uptime }
      else x, missing)

/-- The rates of another generation are forgotten. -/
def forget (x : Exporter) : Exporter := { x with reportedRate := none, snmpDerivedRate := none }

/-- A datagram that was decoded. -/
def accept (x : Exporter) (d : Decoded) (now bucketTs : ℕ) : Exporter :=
  let x := if d.exporterRestarted || d.samplingStateExpired then x.forget else x
  let (y, missing) := x.observeSequence d.sequence d.sysUptime d.exporterRestarted now bucketTs
  if x.lastSequence.isSome && decide (y.lastSequence = x.lastSequence) &&
      decide (y.generationStartedAt = x.generationStartedAt) && !d.exporterRestarted then
    -- a duplicate, or a datagram that was overtaken
    y.entry bucketTs fun a => a.markAllDropped 1
  else
    let y := { y with reportedRate := d.reportedSampling.or y.reportedRate }
    if d.records ≠ [] ∨ 0 < d.dataWithoutTemplate ∨ 0 < missing then
      y.entry bucketTs fun a => d.records.foldl Accum.fold
        (a.markAllDropped (saturatingAdd d.dataWithoutTemplate missing))
    else y

/-- A datagram that could not be decoded. -/
def refuse (x : Exporter) (buf : List UInt8) (now bucketTs : ℕ) : Exporter :=
  match wireSequenceAndUptime .netflowV9 buf with
  | some (sequence, some uptime) =>
    let (y, missing) := x.observeSequence sequence uptime false now bucketTs
    y.entry bucketTs fun a => a.markAllDropped (saturatingAdd 1 missing)
  | _ => x.entry bucketTs fun a => a.markAllDropped 1

/-- `recv_loop`: what a datagram of the exporter does; `now` is the time that was read before the
state was locked. -/
def receive (x : Exporter) (width now : ℕ) (buf : List UInt8) : Exporter :=
  let bucketTs := now / width * width
  match decode buf x.templates with
  | (templates, .ok d) => { x with templates }.accept d now bucketTs
  | (templates, .error _) => { x with templates }.refuse buf now bucketTs

/-- The buckets a flush takes, and the exporter without them. -/
def takeClosed (x : Exporter) (width now : ℕ) : List (ℕ × Accum) × Exporter :=
  (x.buckets.filter fun b => decide (b.1 + width ≤ now),
    { x with buckets := x.buckets.filter fun b => !decide (b.1 + width ≤ now) })

/-- `requeue_flushes`, of one bucket. -/
def requeue (x : Exporter) (b : ℕ × Accum) : Exporter :=
  if (x.bucket b.1).isSome then x.modifyBucket b.1 fun a =>
    a.mergeFrom b.2 else x.entry b.1 fun _ => b.2

end Exporter

end Rerouter.Collector
