import Mathlib.Algebra.BigOperators.Ring.List
import Mathlib.Algebra.GroupWithZero.Nat
import Mathlib.Algebra.Order.BigOperators.Group.List
import Rerouter.FlowTarget
import Rerouter.GatheredTalkers
import Rerouter.Lib.Upserts

/-!
# The flows behind a target

The rows a target is taken from are those `write_bucket` of `telemetry/flow/collector.rs` writes: of
each bucket the heaviest tuples, each with what was counted of it. So an estimate goes back to flows
that were received, through three places where some can be lost: the cap of a bucket
(`Rerouter.Collector.maxTalkerKeys`), the tuples that are not written, and the counters that
saturate.

A bucket can also be written again. A datagram that is counted late opens it anew, and a commit
whose answer was lost is repeated. Then a row takes the new counts and loses the old ones, unless it
has no ports: `NULL` is not equal to itself, and such a row is there twice
(`Rerouter.FlowTarget.TalkerRow.clashes`).

| buckets | an estimate |
|---|---|
| any | is not above the bytes of the flows of all writes, each at the rate of its write |
| written once and reported complete | is these bytes, as far as a counter goes |

So a host that is taken did receive flows of the kind its rule is about, and where the buckets were
written once and are complete no announced host received more (**`Rerouter.FlowTarget.attacked`**).
-/

namespace Rerouter.FlowTarget

open Text Rerouter.Flow Collector

/-! ### What is written of a bucket -/

/-- A bucket that is written: what names it, and the flows that went into it. -/
structure Bucket where
  exporterId : ℕ
  deviceId : ℕ
  bucketTs : ℕ
  rate : ℕ
  highConfidence : Bool
  flows : List FlowRecord
  accum : Accum
  gathered : Gathered flows accum

/-- The talkers that are written: of those with the most bytes, the first ones. -/
def Bucket.kept (topK : ℕ) (b : Bucket) : List (TalkerKey × Counts) :=
  Heaviest.heaviest (fun p => p.2.bytes) (max topK 1) b.accum.talker.counts

/-- The row of a talker. -/
def Bucket.row (b : Bucket) (p : TalkerKey × Counts) : TalkerRow where
  exporterId := b.exporterId
  deviceId := b.deviceId
  key := p.1
  bucketTs := b.bucketTs
  pkts := p.2.pkts
  pktsAvailable := p.2.pktsAvailable
  bytes := p.2.bytes
  bytesAvailable := p.2.bytesAvailable
  effectiveSamplingRate := b.rate
  highConfidence := b.highConfidence

/-- What `write_bucket` writes to `flow_talker_buckets`. -/
def Bucket.rows (topK : ℕ) (b : Bucket) : List TalkerRow := (b.kept topK).map b.row

/-- Whether the talkers of a bucket are reported complete, in `flow_bucket_quality`. -/
def Bucket.complete (topK : ℕ) (b : Bucket) : Bool :=
  (b.accum.quality (max topK 1)).talkerComplete

/-- `uq_flow_talker_bucket`: one tuple of one bucket, if both of its ports are there. The key does
not compare rows in which a column is `NULL`, and it does not have the device. -/
def TalkerRow.clashes (new old : TalkerRow) : Bool :=
  decide (old.exporterId = new.exporterId) && decide (old.bucketTs = new.bucketTs) &&
    decide (old.key = new.key) && new.key.srcPort.isSome && new.key.dstPort.isSome

/-- `ON DUPLICATE KEY UPDATE` of `write_bucket`. The device stays. -/
def TalkerRow.merge (old new : TalkerRow) : TalkerRow :=
  { old with
    pkts := new.pkts
    pktsAvailable := new.pktsAvailable
    bytes := new.bytes
    bytesAvailable := new.bytesAvailable
    effectiveSamplingRate := new.effectiveSamplingRate
    highConfidence := new.highConfidence }

/-- `flow_talker_buckets` after some buckets were written, one after the other. -/
def written (topK : ℕ) (writes : List Bucket) : List TalkerRow :=
  Table.upserts TalkerRow.clashes TalkerRow.merge [] (writes.flatMap (Bucket.rows topK))

/-- The tables hold what the committed writes left, in any order. A bucket may be among the writes
several times; none was pruned since, or is of an exporter or a device that was deleted. -/
def Db.Holds (db : Db) (topK : ℕ) (writes : List Bucket) : Prop :=
  db.talkers.Perm (written topK writes)

/-- The tuple of a flow that has an interface. -/
def keyOf (fr : FlowRecord) : Option TalkerKey :=
  match attribution fr with
  | (_, none) => none
  | (dir, some ifindex) =>
    some ⟨ifindex, dir, fr.srcAddr, fr.dstAddr, fr.srcPort, fr.dstPort, fr.protocol⟩

/-- The bytes of some of the flows, as they were sampled. -/
def sampledBytes (wanted : TalkerKey → Bool) (flows : List FlowRecord) : ℕ :=
  ((flows.filter fun fr => (keyOf fr).any wanted).map fun fr => fr.bytes.getD 0).sum

/-- A bucket of the window that was written for a device. -/
def inWindow (writes : List Bucket) (device now exporterId bucketTs : ℕ) : Bool :=
  recent now bucketTs && writes.any fun b =>
    decide (b.deviceId = device) && decide (b.exporterId = exporterId) &&
      decide (b.bucketTs = bucketTs)

/-- The writes of such a bucket. -/
def Bucket.isIn (writes : List Bucket) (device now : ℕ) (b : Bucket) : Bool :=
  inWindow writes device now b.exporterId b.bucketTs

/-- **The bytes that were sampled**, each at the rate of its write. -/
def volume (writes : List Bucket) (device now : ℕ) (wanted : TalkerKey → Bool) : ℕ :=
  ((writes.filter (Bucket.isIn writes device now)).map fun b =>
    b.rate * sampledBytes wanted b.flows).sum

/-- The writes of two different buckets. -/
def Bucket.Apart (a b : Bucket) : Prop := ¬(a.exporterId = b.exporterId ∧ a.bucketTs = b.bucketTs)

instance : Std.Symm Bucket.Apart := ⟨fun _ _ h h' => h ⟨h'.1.symm, h'.2.symm⟩⟩

/-- **No bucket of the window was written twice**, and all are reported complete. -/
structure Settled (topK : ℕ) (writes : List Bucket) (device now : ℕ) : Prop where
  once : (writes.filter (Bucket.isIn writes device now)).Pairwise Bucket.Apart
  complete : ∀ b ∈ writes, b.isIn writes device now = true → b.complete topK = true

/-- The tuples a selector asks for, with a destination. -/
def FlowSelector.wantsTo (sel : FlowSelector) (ifIndex : ℕ) (direction : Direction) (ip : IpAddr)
    (key : TalkerKey) : Bool :=
  sel.wants ifIndex direction key && decide (key.dstAddr = ip)

/-! ### One bucket -/

variable {b : Bucket} {writes : List Bucket} {topK device now ifIndex : ℕ}
  {wanted : TalkerKey → Bool} {sel : FlowSelector} {direction : Direction} {ip : IpAddr}
  {flows : List FlowRecord} {db : Db} {r : ResolvedTarget}

theorem talkerParts_eq (fr : FlowRecord) :
    talkerParts fr = (keyOf fr).toList.map fun k => (k, partOf fr) := by
  rw [talkerParts, partsAt, keyOf]
  obtain ⟨dir, _ | ifindex⟩ := attribution fr <;> rfl

/-- What the flows contribute to the tuples that are wanted. -/
theorem contributed_eq (wanted : TalkerKey → Bool) (flows : List FlowRecord) :
    Dimension.contributed wanted (talkerAxis.contributions flows) = sampledBytes wanted flows := by
  rw [Dimension.contributed]
  induction flows with
  | nil => rfl
  | cons fr flows ih =>
    have hsplit : talkerAxis.contributions (fr :: flows) =
        talkerParts fr ++ talkerAxis.contributions flows := List.flatMap_cons
    rw [hsplit, List.filter_append, List.map_append, List.sum_append, ih, talkerParts_eq,
      sampledBytes, sampledBytes, List.filter_cons]
    cases hkey : keyOf fr with
    | none => simp
    | some key => cases hwanted : wanted key <;> simp [hwanted, partOf]

/-- The bytes that are kept of the tuples that are wanted. -/
def Bucket.keptBytes (topK : ℕ) (b : Bucket) (wanted : TalkerKey → Bool) : ℕ :=
  Dimension.tallied wanted (b.kept topK)

/-- The estimate of the rows of a bucket that are wanted. -/
theorem scaledBytes_rows (b : Bucket) (topK : ℕ) (wanted : TalkerKey → Bool) :
    (((b.rows topK).filter fun row => wanted row.key).map TalkerRow.scaledBytes).sum =
      b.rate * b.keptBytes topK wanted := by
  rw [Bucket.rows, List.filter_map, List.map_map, Bucket.keptBytes, Dimension.tallied,
    ← List.sum_map_mul_left]
  congr 1
  exact List.map_congr_left fun p _ => Nat.mul_comm _ _

/-- What is kept of a bucket is part of it, and all of it where it is not long. -/
theorem keptBytes_le (b : Bucket) (topK : ℕ) (wanted : TalkerKey → Bool) :
    b.keptBytes topK wanted ≤ Dimension.tallied wanted b.accum.talker.counts ∧
      (b.accum.talker.counts.length ≤ max topK 1 →
        b.keptBytes topK wanted = Dimension.tallied wanted b.accum.talker.counts) := by
  have hranked : (Heaviest.ranked (fun p : TalkerKey × Counts => p.2.bytes)
      b.accum.talker.counts).Perm b.accum.talker.counts := Heaviest.perm_ranked
  have hperm := hranked.filter fun p => wanted p.1
  rw [Dimension.tallied, ← (hperm.map fun p => p.2.bytes).sum_eq]
  constructor
  · exact (((List.take_sublist _ _).filter _).map _).sum_le_sum fun _ _ => Nat.zero_le _
  · intro hlength
    rw [Bucket.keptBytes, Dimension.tallied, Bucket.kept, Heaviest.heaviest, List.take_of_length_le]
    rwa [Heaviest.perm_ranked.length_eq]

/-- **The estimate of a bucket**, against the bytes of its flows. -/
theorem estimate_of_bucket (b : Bucket) (topK : ℕ) (wanted : TalkerKey → Bool) :
    b.rate * b.keptBytes topK wanted ≤ b.rate * sampledBytes wanted b.flows ∧
      (b.complete topK = true → Indistinct u64Max (b.rate * b.keptBytes topK wanted)
        (b.rate * sampledBytes wanted b.flows)) := by
  obtain ⟨hkept, hall⟩ := keptBytes_le b topK wanted
  have hstands := b.gathered.stands
  rw [← contributed_eq]
  refine ⟨Nat.mul_le_mul_left _ (hkept.trans (hstands.le wanted)), fun hcomplete => ?_⟩
  obtain ⟨hbase, hlength⟩ := talkerComplete_iff.mp hcomplete
  rw [Bool.and_eq_true, decide_eq_true_eq] at hbase
  rw [hall hlength]
  exact (hstands.same hbase.2 wanted).mul b.rate

/-- A row of a bucket goes back to a flow. -/
theorem exists_flow_of_row {row : TalkerRow} (hrow : row ∈ b.rows topK) :
    ∃ fr ∈ b.flows, keyOf fr = some row.key := by
  obtain ⟨p, hp, rfl⟩ := List.mem_map.mp hrow
  have hkey : p.1 ∈ b.accum.talker.keys :=
    List.mem_map_of_mem (Heaviest.mem_of_mem_heaviest hp)
  obtain ⟨q, hq, hqp⟩ := List.mem_map.mp (b.gathered.stands.keys _ hkey)
  obtain ⟨fr, hfr, hq⟩ := List.mem_flatMap.mp hq
  change q ∈ talkerParts fr at hq
  rw [talkerParts_eq] at hq
  obtain ⟨key, hkey, rfl⟩ := List.mem_map.mp hq
  exact ⟨fr, hfr, (Option.mem_toList.mp hkey).trans (congrArg some hqp)⟩

/-- A flow of a complete bucket is behind a row, with the counts of all flows of its tuple. -/
theorem exists_row_of_flow (hcomplete : b.complete topK = true) {fr : FlowRecord}
    (hfr : fr ∈ b.flows) {key : TalkerKey} (hkey : keyOf fr = some key) :
    ∃ row ∈ b.rows topK, row.key = key ∧ row.highConfidence = b.highConfidence ∧
      (row.pktsAvailable = true → fr.pkts.isSome) ∧
      (row.bytesAvailable = true → fr.bytes.isSome) := by
  obtain ⟨hbase, hlength⟩ := talkerComplete_iff.mp hcomplete
  rw [Bool.and_eq_true, decide_eq_true_eq] at hbase
  have hpart : (key, partOf fr) ∈ talkerAxis.contributions b.flows := by
    refine List.mem_flatMap.mpr ⟨fr, hfr, ?_⟩
    change _ ∈ talkerParts fr
    rw [talkerParts_eq, hkey]
    exact List.mem_singleton_self _
  obtain ⟨c, hc, hknows⟩ := b.gathered.stands.present hbase.2 _ hpart
  -- All talkers of the bucket are kept.
  have hkept : (key, c) ∈ b.kept topK := by
    rw [Bucket.kept, Heaviest.heaviest, List.take_of_length_le
      (by rwa [Heaviest.perm_ranked.length_eq])]
    exact Heaviest.perm_ranked.mem_iff.mpr hc
  exact ⟨b.row _, List.mem_map_of_mem hkept, rfl, rfl, hknows⟩

/-! ### All writes -/

/-- A row of the table was inserted by a write, and its tuple stayed. -/
theorem exists_write_of_row {row : TalkerRow} (hrow : row ∈ written topK writes) :
    ∃ b ∈ writes, row.exporterId = b.exporterId ∧ row.deviceId = b.deviceId ∧
      row.bucketTs = b.bucketTs ∧ ∃ new ∈ b.rows topK, new.key = row.key := by
  have hall : ∀ row ∈ Table.upserts TalkerRow.clashes TalkerRow.merge []
      (writes.flatMap (Bucket.rows topK)), ∃ b ∈ writes, row.exporterId = b.exporterId ∧
        row.deviceId = b.deviceId ∧ row.bucketTs = b.bucketTs ∧ ∃ new ∈ b.rows topK,
          new.key = row.key := by
    refine Table.forall_mem_upserts (fun a ha => (List.not_mem_nil ha).elim) (fun new hnew => ?_)
      fun a ha _ _ _ => ha
    obtain ⟨b, hb, hnew⟩ := List.mem_flatMap.mp hnew
    obtain ⟨p, -, rfl⟩ := List.mem_map.mp hnew
    exact ⟨b, hb, rfl, rfl, rfl, _, hnew, rfl⟩
  exact hall row hrow

/-- The rows of the buckets of the window with a tuple that is wanted. -/
def isPart (writes : List Bucket) (device now : ℕ) (wanted : TalkerKey → Bool) (row : TalkerRow) :
    Bool :=
  inWindow writes device now row.exporterId row.bucketTs && wanted row.key

/-- What was written of them. -/
def news (topK : ℕ) (writes : List Bucket) (device now : ℕ) (wanted : TalkerKey → Bool) :
    List TalkerRow :=
  (writes.filter (Bucket.isIn writes device now)).flatMap fun b =>
    (b.rows topK).filter fun row => wanted row.key

/-- The rows a destination is chosen for. -/
theorem rowsTo_matching (topK : ℕ) (writes : List Bucket) (sel : FlowSelector)
    (device ifIndex : ℕ) (direction : Direction) (now : ℕ) (ip : IpAddr) :
    rowsTo (matching (written topK writes) sel device ifIndex direction now) ip =
      ((written topK writes).filter
        (isPart writes device now (sel.wantsTo ifIndex direction ip))).filter fun row =>
          decide (row.deviceId = device) := by
  rw [rowsTo, matching, List.filter_filter, List.filter_filter]
  refine List.filter_congr fun row hrow => ?_
  obtain ⟨b, hb, hexporter, hdevice, hts, -⟩ := exists_write_of_row hrow
  by_cases hsource : row.deviceId = device
  · have hany : (writes.any fun b => decide (b.deviceId = device) &&
        decide (b.exporterId = row.exporterId) && decide (b.bucketTs = row.bucketTs)) = true :=
      List.any_eq_true.mpr ⟨b, hb, by simp [← hdevice, hsource, ← hexporter, ← hts]⟩
    rw [isPart, inWindow, hany, Bool.and_true, FlowSelector.wantsTo, hsource,
      decide_eq_true (Eq.refl device), Bool.true_and, Bool.true_and, Bool.and_comm, Bool.and_assoc]
  · rw [decide_eq_false hsource, Bool.false_and, Bool.false_and, Bool.and_false, Bool.false_and]

/-- The part of the table is what was written into it. -/
theorem filter_written (topK : ℕ) (writes : List Bucket) (device now : ℕ)
    (wanted : TalkerKey → Bool) :
    (written topK writes).filter (isPart writes device now wanted) =
      Table.upserts TalkerRow.clashes TalkerRow.merge [] (news topK writes device now wanted) := by
  -- the rows of one write are all of the part, or none of them is
  have hrows : ∀ l : List Bucket, (l.flatMap (Bucket.rows topK)).filter
      (isPart writes device now wanted) = (l.filter (Bucket.isIn writes device now)).flatMap
        fun b => (b.rows topK).filter fun row => wanted row.key := by
    intro l
    induction l with
    | nil => rfl
    | cons b l ih =>
      have hone : (b.rows topK).filter (isPart writes device now wanted) =
          if b.isIn writes device now then (b.rows topK).filter fun row => wanted row.key
          else [] := by
        rw [Bucket.rows, List.filter_map, List.filter_map]
        have hpart : isPart writes device now wanted ∘ b.row =
            fun p => b.isIn writes device now && wanted p.1 := rfl
        rw [hpart]
        cases b.isIn writes device now
        · simp
        · rfl
      rw [List.flatMap_cons, List.filter_append, ih, hone, List.filter_cons]
      split_ifs
      · rw [List.flatMap_cons]
      · rw [List.nil_append]
  rw [written, Table.filter_upserts, List.filter_nil, hrows, news]
  -- a clash is between rows of one bucket and one key, which are in the part together
  intro new a hclash
  simp only [TalkerRow.clashes, Bool.and_eq_true, decide_eq_true_eq] at hclash
  obtain ⟨⟨⟨⟨hexporter, hts⟩, hkey⟩, -⟩, -⟩ := hclash
  have hpart : isPart writes device now wanted a = isPart writes device now wanted new := by
    rw [isPart, isPart, hexporter, hts, hkey]
  exact ⟨hpart, hpart⟩

/-- What was written comes to the estimates of the writes. -/
theorem total_news (topK : ℕ) (writes : List Bucket) (device now : ℕ) (wanted : TalkerKey → Bool) :
    Table.total TalkerRow.scaledBytes (news topK writes device now wanted) =
      ((writes.filter (Bucket.isIn writes device now)).map fun b =>
        b.rate * b.keptBytes topK wanted).sum := by
  rw [Table.total, news, List.map_flatMap, List.flatMap_def, List.sum_flatten, List.map_map]
  congr 1
  exact List.map_congr_left fun b _ => scaledBytes_rows b topK _

/-- A bucket that was written once was written for the device. -/
theorem Settled.deviceId (h : Settled topK writes device now) (hb : b ∈ writes)
    (hin : b.isIn writes device now = true) : b.deviceId = device := by
  obtain ⟨hrecent, hany⟩ := Bool.and_eq_true_iff.mp hin
  obtain ⟨a, ha, hsame⟩ := List.any_eq_true.mp hany
  simp only [Bool.and_eq_true, decide_eq_true_eq] at hsame
  obtain ⟨⟨hdevice, hexporter⟩, hts⟩ := hsame
  have hina : a.isIn writes device now = true := by
    rw [Bucket.isIn, hexporter, hts]
    exact hin
  by_contra hother
  have hne : a ≠ b := fun heq => hother (heq ▸ hdevice)
  exact h.once.forall (List.mem_filter.mpr ⟨ha, hina⟩) (List.mem_filter.mpr ⟨hb, hin⟩) hne
    ⟨hexporter, hts⟩

/-- **Where no bucket was written twice** the rows are what was written. -/
theorem Settled.rowsTo_eq (h : Settled topK writes device now) (sel : FlowSelector) (ifIndex : ℕ)
    (direction : Direction) (ip : IpAddr) :
    rowsTo (matching (written topK writes) sel device ifIndex direction now) ip =
      news topK writes device now (sel.wantsTo ifIndex direction ip) := by
  rw [rowsTo_matching, filter_written, Table.upserts_of_pairwise, List.nil_append,
    List.filter_eq_self]
  · intro row hrow
    obtain ⟨b, hb, hrow⟩ := List.mem_flatMap.mp hrow
    obtain ⟨hb, hin⟩ := List.mem_filter.mp hb
    obtain ⟨p, -, rfl⟩ := List.mem_map.mp (List.mem_filter.mp hrow).1
    exact decide_eq_true (h.deviceId hb hin)
  · rw [List.nil_append, news, List.pairwise_flatMap]
    constructor
    · -- The tuples of one bucket differ.
      intro b _
      have hranked : (Heaviest.ranked (fun p : TalkerKey × Counts => p.2.bytes)
          b.accum.talker.counts).Perm b.accum.talker.counts := Heaviest.perm_ranked
      have hkeys : ((b.kept topK).map Prod.fst).Nodup :=
        ((List.take_sublist _ _).map Prod.fst).nodup
          ((hranked.map Prod.fst).nodup_iff.mpr b.gathered.stands.nodup)
      refine List.Pairwise.filter _ (List.pairwise_map.mpr ((List.pairwise_map.mp hkeys).imp ?_))
      intro p q hpq
      have hdiffer : decide ((b.row p).key = (b.row q).key) = false := decide_eq_false hpq
      rw [TalkerRow.clashes, hdiffer, Bool.and_false, Bool.false_and, Bool.false_and]
    · refine h.once.imp fun {a b} hab row hrow row' hrow' => ?_
      obtain ⟨p, -, rfl⟩ := List.mem_map.mp (List.mem_filter.mp hrow).1
      obtain ⟨q, -, rfl⟩ := List.mem_map.mp (List.mem_filter.mp hrow').1
      have hdiffer : (decide ((a.row p).exporterId = (b.row q).exporterId) &&
          decide ((a.row p).bucketTs = (b.row q).bucketTs)) = false :=
        Bool.eq_false_iff.mpr fun hsame => hab (by
          rw [Bool.and_eq_true, decide_eq_true_eq, decide_eq_true_eq] at hsame
          exact hsame)
      rw [TalkerRow.clashes, hdiffer, Bool.false_and, Bool.false_and, Bool.false_and]

/-- **An estimate, against the bytes that were sampled.** -/
theorem estBytes_written (topK : ℕ) (writes : List Bucket) (sel : FlowSelector)
    (device ifIndex : ℕ) (direction : Direction) (now : ℕ) (ip : IpAddr) :
    let rows := matching (written topK writes) sel device ifIndex direction now
    let sampled := volume writes device now (sel.wantsTo ifIndex direction ip)
    estBytes (rowsTo rows ip) ≤ sampled ∧
      (Settled topK writes device now → estBytes (rowsTo rows ip) = min sampled u64Max) := by
  intro rows sampled
  have hnews := total_news topK writes device now (sel.wantsTo ifIndex direction ip)
  constructor
  -- merging loses counts and saturation cuts them; neither adds any
  · calc estBytes (rowsTo rows ip)
        ≤ Table.total TalkerRow.scaledBytes (rowsTo rows ip) := Nat.min_le_left _ _
      _ ≤ Table.total TalkerRow.scaledBytes ((written topK writes).filter
            (isPart writes device now (sel.wantsTo ifIndex direction ip))) := by
          rw [rowsTo_matching]
          exact (List.filter_sublist.map _).sum_le_sum fun _ _ => Nat.zero_le _
      _ ≤ Table.total TalkerRow.scaledBytes
            (news topK writes device now (sel.wantsTo ifIndex direction ip)) := by
          rw [filter_written]
          refine (Table.total_upserts_le fun _ _ _ => ?_).trans (Nat.zero_add _).le
          exact Nat.le_refl _
      _ ≤ sampled := by
          rw [hnews]
          exact List.sum_le_sum fun b _ => (estimate_of_bucket b topK _).1
  · intro hsettled
    -- no row was merged, so nothing is lost but what the saturating sum cuts
    have hsum : ((rowsTo rows ip).map TalkerRow.scaledBytes).sum = _ :=
      (congrArg (Table.total TalkerRow.scaledBytes)
        (hsettled.rowsTo_eq sel ifIndex direction ip)).trans hnews
    rw [estBytes, hsum]
    refine indistinct_sum fun b hb => (estimate_of_bucket b topK _).2 ?_
    obtain ⟨hb, hin⟩ := List.mem_filter.mp hb
    exact hsettled.complete b hb hin

/-! ### The host that is taken -/

/-- A host did receive flows a selector asks for, in a bucket of the window. -/
def Received (writes : List Bucket) (device now : ℕ) (wanted : TalkerKey → Bool) : Prop :=
  ∃ b ∈ writes, b.deviceId = device ∧ recent now b.bucketTs = true ∧
    ∃ fr ∈ b.flows, (keyOf fr).any wanted = true

/-- The rows of a destination, in whatever order the tables hold them. -/
theorem Db.Holds.rowsTo_perm (h : db.Holds topK writes) (sel : FlowSelector) (source ifIndex : ℕ)
    (direction : Direction) (now : ℕ) (ip : IpAddr) :
    (rowsTo (matching db.talkers sel source ifIndex direction now) ip).Perm
      (rowsTo (matching (written topK writes) sel source ifIndex direction now) ip) :=
  (h.filter _).filter _

theorem estBytes_perm {rows rows' : List TalkerRow} (h : rows.Perm rows') :
    estBytes rows = estBytes rows' := by
  rw [estBytes, estBytes, (h.map TalkerRow.scaledBytes).sum_eq]

/-- **What is true of a host that is taken.** -/
structure Attacked (db : Db) (topK : ℕ) (writes : List Bucket) (now : ℕ) (sel : FlowSelector)
    (device source ifIndex : ℕ) (direction : Direction) (ip : IpAddr) (r : ResolvedTarget) :
    Prop where
  cidr : r.cidr = (hostNetwork ip).text
  announced : Announced db now device ip
  received : Received writes source now (sel.wantsTo ifIndex direction ip)
  /-- Its estimate is not above what was sampled. -/
  estimate : r.estBytes ≤ volume writes source now (sel.wantsTo ifIndex direction ip)
  /-- Where the buckets are settled it is as much, and no announced host received more. -/
  heaviest : Settled topK writes source now →
    r.estBytes = min (volume writes source now (sel.wantsTo ifIndex direction ip)) u64Max ∧
      ∀ ip', Announced db now device ip' →
        min (volume writes source now (sel.wantsTo ifIndex direction ip')) u64Max ≤ r.estBytes
  /-- Where they are and the confidence is not low, nothing about its flows is a guess. -/
  confident : Settled topK writes source now → r.lowConfidence = false →
    ∀ b ∈ writes, b.isIn writes source now = true → ∀ fr ∈ b.flows,
      (keyOf fr).any (sel.wantsTo ifIndex direction ip) = true →
        b.highConfidence = true ∧ fr.pkts.isSome ∧ fr.bytes.isSome

/-- **A host that is taken was attacked**: it received flows of the kind the rule is about, and
where nothing of them was lost no announced host received more. -/
theorem attacked (db : Db) (topK : ℕ) (writes : List Bucket) (hdb : db.Holds topK writes) (now : ℕ)
    (sel : FlowSelector) (device : ℕ) (r : ResolvedTarget)
    (h : resolveFlowDstHost db now sel device = .ok r) :
    ∃ direction interface source ifIndex ip, sel.direction = some direction ∧
      sel.interfaceId = some interface ∧ db.interfaces interface = some (source, ifIndex) ∧
      Attacked db topK writes now sel device source ifIndex direction ip r := by
  obtain ⟨direction, interface, source, ifIndex, ip, hdirection, hinterface, hsource, hchosen⟩ :=
    chosen_of_ok h
  have hperm := fun ip' => hdb.rowsTo_perm sel source ifIndex direction now ip'
  have hestimate : ∀ ip', _ := fun ip' =>
    estBytes_written topK writes sel source ifIndex direction now ip'
  refine ⟨direction, interface, source, ifIndex, ip, hdirection, hinterface, hsource, ?_⟩
  constructor
  case cidr => exact hchosen.cidr
  case announced => exact hchosen.announced
  case received =>
    -- a row of the host is there, it was written by some bucket, and the bucket counted a flow for
    -- it
    obtain ⟨row, hrow⟩ := List.exists_mem_of_ne_nil _ hchosen.hit
    obtain ⟨hmatching, hip⟩ := List.mem_filter.mp ((hperm ip).mem_iff.mp hrow)
    obtain ⟨hrow, hmatches⟩ := List.mem_filter.mp hmatching
    simp only [Bool.and_eq_true, decide_eq_true_eq] at hmatches hip
    obtain ⟨b, hb, -, hdevice, hts, new, hnew, hkey⟩ := exists_write_of_row hrow
    obtain ⟨fr, hfr, hfrkey⟩ := exists_flow_of_row hnew
    refine ⟨b, hb, hdevice ▸ hmatches.1.1, hts ▸ hmatches.1.2, fr, hfr, ?_⟩
    rw [hfrkey, hkey, Option.any_some, FlowSelector.wantsTo, hmatches.2, hip]
    exact decide_eq_true rfl
  case estimate =>
    rw [hchosen.estBytes, estBytes_perm (hperm ip)]
    exact (hestimate ip).1
  case heaviest =>
    intro hsettled
    -- the estimates are the sampled bytes, and the candidate of the greatest estimate was taken
    refine ⟨?_, fun ip' h' => ?_⟩
    · rw [hchosen.estBytes, estBytes_perm (hperm ip)]
      exact (hestimate ip).2 hsettled
    · rw [← (hestimate ip').2 hsettled, ← estBytes_perm (hperm ip')]
      exact hchosen.heaviest ip' h'
  case confident =>
    intro hsettled hconfident b hb hin fr hfr hwanted
    obtain ⟨key, hkey, hwanted⟩ := (Option.any_eq_true _ _).mp hwanted
    obtain ⟨row, hrow, hrowkey, hhigh, hpkts, hbytes⟩ :=
      exists_row_of_flow (hsettled.complete b hb hin) hfr hkey
    have hmem : row ∈ rowsTo (matching (written topK writes) sel source ifIndex direction now)
        ip := by
      rw [hsettled.rowsTo_eq, news, List.mem_flatMap]
      exact ⟨b, List.mem_filter.mpr ⟨hb, hin⟩, List.mem_filter.mpr ⟨hrow, hrowkey ▸ hwanted⟩⟩
    -- one guessed count or rate would have made the target one of low confidence
    have hlow : row.lowConfidence = false := Bool.eq_false_iff.mpr fun hlow =>
      Bool.false_ne_true (hconfident.symm.trans
        (hchosen.lowConfidence.mpr ⟨row, (hperm ip).mem_iff.mpr hmem, hlow⟩))
    rw [TalkerRow.lowConfidence, Bool.or_eq_false_iff, Bool.or_eq_false_iff,
      Bool.not_eq_false', Bool.not_eq_false', Bool.not_eq_false'] at hlow
    exact ⟨hhigh ▸ hlow.1.1, hpkts hlow.1.2, hbytes hlow.2⟩

/-- A host of the router, one that is hit harder, and one outside that is hit hardest. -/
def siege : Bucket :=
  let flow (dst : Ipv4.Addr) (bytes : ℕ) : FlowRecord :=
    { srcAddr := .v4 1#32, dstAddr := .v4 dst, srcPort := some 1234, dstPort := some 443
      protocol := 6, inIfIndex := some 3, outIfIndex := none, srcAs := none, dstAs := none
      direction := some 0, bytes := some bytes, pkts := some 2 }
  { exporterId := 5, deviceId := 7, bucketTs := 1000, rate := 100, highConfidence := true
    flows := [flow 0xCB007109#32 40, flow 0xC6336407#32 9000, flow 0xCB00712D#32 700,
      flow 0xCB007109#32 50]
    accum := Accum.folded [flow 0xCB007109#32 40, flow 0xC6336407#32 9000, flow 0xCB00712D#32 700,
      flow 0xCB007109#32 50]
    gathered := gathered_folded _ }

/-- What is known of the router. -/
def besieged : Db where
  interfaces := fun id => if id = 1 then some (7, 3) else none
  inventories := fun _ => { networks := [⟨"203.0.113.0/24", some 900⟩] }
  talkers := written 100 [siege]

theorem attacked_siege : ∃ direction interface source ifIndex ip,
    (some Direction.ingress : Option Direction) = some direction ∧ some 1 = some interface ∧
      besieged.interfaces interface = some (source, ifIndex) ∧
      Attacked besieged 100 [siege] 1100
        { interfaceId := some 1, direction := some .ingress, protocol := some 6, port := some 443 }
        9 source ifIndex direction ip ⟨"203.0.113.45/32", false, 70000, 200, false⟩ :=
  attacked besieged 100 [siege] (.refl _) 1100
    { interfaceId := some 1, direction := some .ingress, protocol := some 6, port := some 443 } 9
    ⟨"203.0.113.45/32", false, 70000, 200, false⟩ (by decide +kernel)

end Rerouter.FlowTarget
