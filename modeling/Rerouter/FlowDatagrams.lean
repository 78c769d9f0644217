import Rerouter.FlowRoundTrip
import Rerouter.Lib.Outcome

/-!
# Datagrams that decode to what was encoded

Decoding undoes the wire format (`Rerouter.Flow.decode_encode`): the flows of a datagram are
returned in their order, each by the template that the cache holds where its flowset stands, and
data without a template is counted.

What the cache holds for an id, whatever was received before, is the template that was written
last (`Rerouter.Flow.get_cacheOf`); and a template that is written is held from then on in the
datagram, as long as there is room for all (`Rerouter.Flow.TemplateCache.get_learn_of_room`).
-/

namespace Rerouter.Flow

open BigEndian

variable {source : ℕ} {cache : TemplateCache}

/-! ### Flowsets -/

/-- The layout of every template that is kept is that of its fields. -/
def TemplateCache.Lawful (c : TemplateCache) : Prop :=
  ∀ t ∈ c.templates, t.template.recordLen = (t.template.fields.map Prod.snd).sum

theorem TemplateCache.Lawful.get {c : TemplateCache} (h : c.Lawful) {id : ℕ} {t : Template}
    (ht : c.get source id = some t) : t.recordLen = (t.fields.map Prod.snd).sum := by
  rw [TemplateCache.get] at ht
  obtain ⟨clock, -, hfound⟩ := Option.bind_eq_some_iff.mp ht
  obtain ⟨cached, hcached, rfl⟩ := Option.map_eq_some_iff.mp hfound
  obtain ⟨hfind, -⟩ := Option.filter_eq_some_iff.mp hcached
  exact h cached (List.mem_of_find?_eq_some hfind)

theorem readFlowset_encode {s : FlowSet} (hid : s.id < 2 ^ 16) (hbody : 4 + s.body.length < 2 ^ 16)
    (r : List UInt8) :
    readFlowset (s.encode ++ r) = .ok (s.id, s.body, r) := by
  have haligned : (4 + s.body.length) % 4 = 0 := by
    simp only [FlowSet.body, FlowSet.zeros, List.length_append, List.length_replicate]
    omega
  simp only [readFlowset, FlowSet.encode, List.append_assoc]
  rw [u16_bytes _ hid]
  simp only [bind, Except.bind]
  rw [u16_bytes _ hbody]
  simp only [if_neg (by omega : ¬ 4 + s.body.length < 4), haligned, ne_eq, not_true_eq_false,
    if_false, pure, Except.pure, Nat.add_sub_cancel_left, List.length_append,
    if_neg (by omega : ¬ s.body.length + r.length < s.body.length)]
  rw [take_append r rfl]

/-- What a flowset adds to what was decoded. -/
structure Adds (out out' : Decoded) (records : List FlowRecord) (unknown learned : ℕ) : Prop where
  records : out'.records = out.records ++ records
  unknown : out'.dataWithoutTemplate = out.dataWithoutTemplate + unknown
  learned : out'.templatesLearned = out.templatesLearned + learned
  sourceId : out'.sourceId = out.sourceId
  sysUptime : out'.sysUptime = out.sysUptime
  sequence : out'.sequence = out.sequence

theorem Adds.refl (out : Decoded) : Adds out out [] 0 0 := ⟨by simp, rfl, rfl, rfl, rfl, rfl⟩

theorem Adds.trans {out out' out'' : Decoded} {rs rs' : List FlowRecord} {n n' m m' : ℕ}
    (h : Adds out out' rs n m)
    (h' : Adds out' out'' rs' n' m') : Adds out out'' (rs ++ rs') (n + n') (m + m') where
  records := by rw [h'.records, h.records, List.append_assoc]
  unknown := by rw [h'.unknown, h.unknown, Nat.add_assoc]
  learned := by rw [h'.learned, h.learned, Nat.add_assoc]
  sourceId := h'.sourceId.trans h.sourceId
  sysUptime := h'.sysUptime.trans h.sysUptime
  sequence := h'.sequence.trans h.sequence

theorem parseFlowset_data {id : ℕ} (hid : 256 ≤ id) (body : List UInt8) (out : Decoded) :
    parseFlowset id body cache out =
      match cache.get out.sourceId id with
      | none => (cache, .ok { out with dataWithoutTemplate := out.dataWithoutTemplate + 1 })
      | some t =>
        if t.isOptions then
          (cache, .ok { out with
            reportedSampling := (parseOptionsData body t).or out.reportedSampling })
        else (cache, (parseDataRecords body t).map fun rs =>
          { out with records := out.records ++ rs }) := by
  rw [parseFlowset, if_neg (by omega), if_neg (by omega)]
  exact if_pos hid

/-- **A flowset decodes to what was encoded.** -/
theorem parseFlowset_encode {s : FlowSet} (hlawful : cache.Lawful) (h : s.Laid (cache.get source))
    {out : Decoded} (hsource : out.sourceId = source) :
    ∃ out', parseFlowset s.id s.body cache out = (cache.learn source s.learned, .ok out') ∧
      Adds out out' (s.flows (cache.get source)) (s.unknown (cache.get source)).toNat
        s.learned.length := by
  subst hsource
  obtain ⟨hbody, hlaid⟩ := h
  cases s with
  | templates ts =>
    refine ⟨{ out with templatesLearned := out.templatesLearned + ts.length }, ?_, ?_⟩
    · simp only [parseFlowset, FlowSet.id, if_true, parseTemplates_encode hbody hlaid]
      rfl
    · exact ⟨by simp [FlowSet.flows], rfl, by simp [FlowSet.learned], rfl, rfl, rfl⟩
  | optionsTemplates ts =>
    refine ⟨{ out with templatesLearned := out.templatesLearned + ts.length }, ?_, ?_⟩
    · simp only [parseFlowset, FlowSet.id, Nat.one_ne_zero, if_false, if_true,
        parseOptionsTemplate_encode hbody hlaid]
      rfl
    · exact ⟨by simp [FlowSet.flows], rfl, by simp [FlowSet.learned], rfl, rfl, rfl⟩
  | data id records =>
    obtain ⟨hmin, hmax, hrecords⟩ := hlaid
    rw [FlowSet.id, parseFlowset_data hmin]
    simp only [FlowSet.flows, FlowSet.unknown]
    -- without its template a data flowset is counted as unknown and skipped
    rcases ht : cache.get out.sourceId id with _ | t
    · exact ⟨_, rfl, by simp, by simp, rfl, rfl, rfl, rfl⟩
    -- the records of an options template are no flows
    · rcases hoptions : t.isOptions with _ | _
      · have hdata : parseDataRecords (FlowSet.data id records).body t =
          .ok (records.filterMap flowOf) :=
          parseDataRecords_encode (hlawful.get ht) (hrecords t ht hoptions)
        simp only [hoptions, hdata, Bool.false_eq_true, if_false]
        exact ⟨_, rfl, rfl, by simp, rfl, rfl, rfl, rfl⟩
      · simp only [hoptions, if_true]
        exact ⟨_, rfl, by simp, by simp, rfl, rfl, rfl, rfl⟩

theorem length_encode_flowset (s : FlowSet) : 4 ≤ s.encode.length := by
  simp only [FlowSet.encode, List.length_append, length_bytes]
  omega

theorem id_lt_of_laid {s : FlowSet} (h : s.Laid (cache.get source)) : s.id < 2 ^ 16 := by
  cases s with
  | templates ts => exact Nat.two_pow_pos 16
  | optionsTemplates ts => exact Nat.one_lt_two_pow (by omega)
  | data id records => exact h.2.2.1

/-! ### The templates that are kept -/

theorem TemplateCache.mem_learn {ts : List (ℕ × Template)} {c : TemplateCache} {t : CachedTemplate}
    (h : t ∈ (c.learn source ts).templates) : t ∈ c.templates ∨ t.source = source ∧
    (t.id, t.template) ∈ ts := by
  induction ts generalizing c with
  | nil => exact .inl h
  | cons l ts ih =>
    rcases ih h with hmem | ⟨hsource, hts⟩
    · rcases TemplateCache.eq_of_mem_insert hmem with ⟨hold, -⟩ | rfl
      · exact .inl hold
      · exact .inr ⟨rfl, List.mem_cons_self⟩
    · exact .inr ⟨hsource, List.mem_cons_of_mem _ hts⟩

theorem TemplateCache.Lawful.learn {c : TemplateCache} (h : c.Lawful) {s : FlowSet} :
    (c.learn source s.learned).Lawful := by
  intro t ht
  rcases TemplateCache.mem_learn ht with hold | ⟨-, hnew⟩
  · exact h t hold
  · cases s with
    | templates ts =>
      obtain ⟨w, -, hw⟩ := List.mem_map.mp hnew
      rw [← (Prod.mk.inj hw).2]
      rfl
    | optionsTemplates ts =>
      obtain ⟨w, -, hw⟩ := List.mem_map.mp hnew
      rw [← (Prod.mk.inj hw).2]
      rfl
    | data id records => simp [FlowSet.learned] at hnew

/-- The cache after the flowsets of a datagram. -/
def TemplateCache.afterSets (c : TemplateCache) (source : ℕ) (sets : List FlowSet) :
    TemplateCache :=
  c.learn source (sets.flatMap FlowSet.learned)

theorem afterSets_cons (s : FlowSet) (sets : List FlowSet) :
    cache.afterSets source (s :: sets) = (cache.learn source s.learned).afterSets source sets := by
  simp [TemplateCache.afterSets, TemplateCache.learn, List.foldl_append]

/-! ### Datagrams -/

/-- **The flowsets of a datagram decode to what was encoded.** -/
theorem walk_encode {sets : List FlowSet} (hlawful : cache.Lawful) (hlaid : Laid source cache sets)
    {padding : ℕ}
    (hpadding : padding ≤ 3) {fuel : ℕ} (hfuel : sets.length < fuel) {out : Decoded}
    (hsource : out.sourceId = source) :
    ∃ out', walk fuel (sets.flatMap FlowSet.encode ++ List.replicate padding 0) cache out =
        (cache.afterSets source sets, .ok out') ∧
      Adds out out' (flows source cache sets) (unknowns source cache sets)
        (sets.flatMap FlowSet.learned).length := by
  induction sets generalizing cache fuel out with
  | nil =>
    -- at most three bytes of padding are left, too few for another header
    obtain ⟨fuel, rfl⟩ := Nat.exists_eq_add_one_of_ne_zero (Nat.ne_of_gt hfuel)
    refine ⟨out, ?_, Adds.refl out⟩
    simp only [List.flatMap_nil, List.nil_append, walk, List.length_replicate,
      if_neg (by omega : ¬ 4 ≤ padding), validatePadding_zeros]
    rfl
  | cons s sets ih =>
    obtain ⟨fuel, rfl⟩ := Nat.exists_eq_add_one_of_ne_zero (Nat.ne_of_gt (Nat.zero_lt_of_lt hfuel))
    obtain ⟨hthis, hrest⟩ := hlaid
    obtain ⟨out₁, hparse, hadds⟩ := parseFlowset_encode hlawful hthis hsource
    obtain ⟨out', hwalk, hadds'⟩ :=
      ih hlawful.learn hrest (by simpa using hfuel) (hadds.sourceId.trans hsource)
    refine ⟨out', ?_, ?_⟩
    -- a flowset is four bytes at least, so the walk reads another header
    · have hlen := length_encode_flowset s
      simp only [List.flatMap_cons, List.append_assoc, walk]
      rw [if_pos (by rw [List.length_append]; omega),
        readFlowset_encode (id_lt_of_laid hthis) hthis.1]
      simp only [hparse]
      rw [hwalk, afterSets_cons]
    · rw [List.flatMap_cons, List.length_append]
      exact hadds.trans hadds'

theorem length_encode (h : Header) (sets : List FlowSet) (padding : ℕ) :
    (encode h sets padding).length = 20 + ((sets.flatMap FlowSet.encode).length + padding) := by
  simp only [encode, List.length_append, length_bytes, List.length_replicate]
  omega

theorem readHeader_encode {h : Header} (hlaid : h.Laid) (sets : List FlowSet) (padding : ℕ) :
    readHeader (encode h sets padding) =
      .ok (h, sets.flatMap FlowSet.encode ++ List.replicate padding 0) := by
  obtain ⟨hcount, huptime, hunix, hsequence, hsource⟩ := hlaid
  have hlen := length_encode h sets padding
  rw [readHeader, if_neg (by omega)]
  simp only [encode, bind, Except.bind, pure, Except.pure]
  rw [u16_bytes _ (by omega)]
  simp only [ne_eq, not_true_eq_false, if_false]
  rw [u16_bytes _ hcount]
  simp only []
  rw [u32_bytes _ huptime]
  simp only []
  rw [u32_bytes _ hunix]
  simp only []
  rw [u32_bytes _ hsequence]
  simp only []
  rw [u32_bytes _ hsource]

/-- A number of four bytes, behind others. -/
theorem u32At_append {v offset : ℕ} {s : List UInt8} (r : List UInt8) (hs : s.length = offset)
    (hv : v < 2 ^ 32) :
    u32At (s ++ (bytes 4 v ++ r)) offset = some v := by
  subst hs
  rw [u32At, if_pos (by simp), List.drop_left, List.take_left' (length_bytes 4 v),
    value_bytes_of_lt]
  exact hv

theorem wire_encode {h : Header} (hlaid : h.Laid) (sets : List FlowSet) (padding : ℕ) :
    wireObservationDomain .netflowV9 (encode h sets padding) = some h.sourceId ∧
      wireSequenceAndUptime .netflowV9 (encode h sets padding) =
        some (h.sequence, some h.sysUptime) := by
  obtain ⟨hcount, huptime, hunix, hsequence, hsource⟩ := hlaid
  -- each field is read behind the fields that stand before it
  have hdomain : u32At (encode h sets padding) 16 = some h.sourceId := by
    simpa only [encode, List.append_assoc] using u32At_append
      (s := bytes 2 9 ++ (bytes 2 h.count ++
        (bytes 4 h.sysUptime ++ (bytes 4 h.unixSecs ++ bytes 4 h.sequence))))
      (sets.flatMap FlowSet.encode ++ List.replicate padding 0) (by simp) hsource
  have hseq : u32At (encode h sets padding) 12 = some h.sequence := by
    simpa only [encode, List.append_assoc] using u32At_append
      (s := bytes 2 9 ++ (bytes 2 h.count ++ (bytes 4 h.sysUptime ++ bytes 4 h.unixSecs)))
      (bytes 4 h.sourceId ++ (sets.flatMap FlowSet.encode ++ List.replicate padding 0))
      (by simp) hsequence
  have htime : u32At (encode h sets padding) 4 = some h.sysUptime := by
    simpa only [encode, List.append_assoc] using u32At_append (s := bytes 2 9 ++ bytes 2 h.count)
      (bytes 4 h.unixSecs ++ (bytes 4 h.sequence ++
        (bytes 4 h.sourceId ++ (sets.flatMap FlowSet.encode ++ List.replicate padding 0))))
        (by simp) huptime
  refine ⟨?_, ?_⟩
  · have hversion : value ((encode h sets padding).take 2) = 9 := by
      rw [encode, List.take_left' (length_bytes 2 9)]
      exact value_bytes_of_lt (by decide)
    have hlen := length_encode h sets padding
    rw [wireObservationDomain, if_pos ⟨by omega, hversion⟩, hdomain]
  · simp only [wireSequenceAndUptime, hseq, htime]
    rfl

/-! ### What was written before -/

/-- What is done to the cache of an exporter. -/
inductive CacheOp where
  | begin (source sysUptime unixSecs sequence : ℕ)
  | insert (source id : ℕ) (fields : List (ℕ × ℕ)) (isOptions : Bool)

/-- The cache after one operation. -/
def TemplateCache.apply (c : TemplateCache) : CacheOp → TemplateCache
  | .begin source sysUptime unixSecs sequence =>
    (c.beginDatagram source sysUptime unixSecs sequence).1
  | .insert source id fields isOptions => c.insert source id (Template.ofFields fields isOptions)

/-- The cache after some operations, in any order. -/
def cacheOf (ops : List CacheOp) : TemplateCache := ops.foldl TemplateCache.apply {}

/-- The template of an id that an operation writes. -/
def CacheOp.written (source id : ℕ) : CacheOp → Option Template
  | .insert source' id' fields isOptions =>
    if source' = source ∧ id' = id then some (Template.ofFields fields isOptions) else none
  | .begin _ _ _ _ => none

/-- The template of an id that was written last. -/
def lastWritten (ops : List CacheOp) (source id : ℕ) : Option Template :=
  (ops.filterMap (CacheOp.written source id)).getLast?

/-- What a flowset does to the cache. -/
def FlowSet.ops (source : ℕ) : FlowSet → List CacheOp
  | .templates ts => ts.map fun t => .insert source t.id t.fields false
  | .optionsTemplates ts => ts.map fun t => .insert source t.id (t.scopes ++ t.options) true
  | .data _ _ => []

theorem cacheOf_append (ops ops' : List CacheOp) :
    cacheOf (ops ++ ops') = ops'.foldl TemplateCache.apply (cacheOf ops) :=
  List.foldl_append

theorem learn_learned (c : TemplateCache) (s : FlowSet) :
    c.learn source s.learned = (s.ops source).foldl TemplateCache.apply c := by
  cases s with
  | templates ts =>
    simp only [TemplateCache.learn, FlowSet.learned, FlowSet.ops, List.foldl_map]; rfl
  | optionsTemplates ts =>
    simp only [TemplateCache.learn, FlowSet.learned, FlowSet.ops, List.foldl_map]; rfl
  | data id records => rfl

theorem afterSets_eq_foldl (c : TemplateCache) (sets : List FlowSet) :
    c.afterSets source sets = (sets.flatMap (FlowSet.ops source)).foldl TemplateCache.apply c := by
  induction sets generalizing c with
  | nil => rfl
  | cons s sets ih => rw [afterSets_cons, ih, learn_learned, List.flatMap_cons, List.foldl_append]

theorem lastWritten_concat (ops : List CacheOp) (op : CacheOp) (source id : ℕ) :
    lastWritten (ops ++ [op]) source id =
      (op.written source id).or (lastWritten ops source id) := by
  rcases h : op.written source id with _ | t <;> simp [lastWritten, List.filterMap_append, h]

/-- Every template that is kept is the last one that was written. -/
theorem lastWritten_of_mem (ops : List CacheOp) :
    ∀ t ∈ (cacheOf ops).templates, lastWritten ops t.source t.id = some t.template := by
  induction ops using List.reverseRecOn with
  | nil => simp [cacheOf]
  | append_singleton ops op ih =>
    intro t ht
    rw [cacheOf_append] at ht
    rw [lastWritten_concat]
    cases op with
    | begin source sysUptime unixSecs sequence =>
      rw [CacheOp.written, Option.none_or]
      exact ih t (TemplateCache.mem_of_mem_beginDatagram ht)
    | insert source id fields isOptions =>
      rcases TemplateCache.eq_of_mem_insert ht with ⟨hold, hkey⟩ | rfl
      · rw [CacheOp.written, if_neg fun h => hkey ⟨h.1.symm, h.2.symm⟩, Option.none_or]
        exact ih t hold
      · rw [CacheOp.written, if_pos ⟨rfl, rfl⟩, Option.some_or]

/-- **A template that is found is the one that was written last.** -/
theorem get_cacheOf {ops : List CacheOp} {id : ℕ} {t : Template}
    (h : (cacheOf ops).get source id = some t) :
    lastWritten ops source id = some t := by
  rw [TemplateCache.get] at h
  obtain ⟨clock, -, hfound⟩ := Option.bind_eq_some_iff.mp h
  obtain ⟨cached, hcached, rfl⟩ := Option.map_eq_some_iff.mp hfound
  obtain ⟨hfind, -⟩ := Option.filter_eq_some_iff.mp hcached
  have hkey := List.find?_some hfind
  simp only [decide_eq_true_eq] at hkey
  obtain ⟨rfl, rfl⟩ := hkey
  exact lastWritten_of_mem ops cached (List.mem_of_find?_eq_some hfind)

theorem lawful_cacheOf (ops : List CacheOp) : (cacheOf ops).Lawful := by
  intro t ht
  have hlast := lastWritten_of_mem ops t ht
  obtain ⟨op, -, hop⟩ := List.mem_filterMap.mp (List.mem_of_getLast? hlast)
  cases op with
  | begin source sysUptime unixSecs sequence => cases hop
  | insert source id fields isOptions =>
    rw [CacheOp.written] at hop
    split_ifs at hop
    rw [← Option.some.inj hop]
    rfl

/-! ### Room for all templates -/

namespace TemplateCache

variable {c : TemplateCache} {id : ℕ}

/-- Whether a template has a key. -/
def hasKey (source id : ℕ) (t : CachedTemplate) : Bool := decide (t.source = source ∧ t.id = id)

/-- A template of another key is found among those of other keys, and none of this one. -/
theorem find?_filter_key (l : List CachedTemplate) (source' id' : ℕ) :
    (l.filter fun t => !(decide (t.source = source) && decide (t.id = id))).find?
    (hasKey source' id') =
      if source' = source ∧ id' = id then none else l.find? (hasKey source' id') := by
  rw [List.find?_filter]
  split_ifs with hkey
  · obtain ⟨rfl, rfl⟩ := hkey
    rw [List.find?_eq_none]
    intro t _ ht
    simp [hasKey] at ht
    omega
  · refine congrArg (fun p => l.find? p) (funext fun t => ?_)
    by_cases ht : t.source = source' ∧ t.id = id'
    · obtain ⟨rfl, rfl⟩ := ht
      rw [not_and_or] at hkey
      simpa [hasKey] using hkey
    · simp [hasKey, ht]

theorem get_eq (c : TemplateCache) (source id : ℕ) :
    c.get source id = (c.exporters source).bind fun clock =>
    ((c.templates.find? (hasKey source id)).filter fun t =>
      decide (clock.unixSecs - t.refreshed ≤ templateTtlSeconds)).map CachedTemplate.template := rfl

/-- A template that was written is found. -/
theorem get_insert_self {clock : ExporterClock} (h : c.exporters source = some clock)
    (template : Template) :
    (c.insert source id template).get source id = some template := by
  rw [get_eq, exporters_insert, h, insert]
  simp only [List.find?_append, find?_filter_key, and_self, if_true, Option.none_or, h]
  simp [hasKey, Option.filter]

/-- An insertion leaves the other templates, as long as there is room. -/
theorem get_insert_of_ne {source' id' : ℕ} (hne : ¬ (source' = source ∧ id' = id))
    (hroom : c.templates.length < maxTemplates)
    (template : Template) : (c.insert source id template).get source' id' = c.get source' id' := by
  have hfull : decide (maxTemplates ≤ c.templates.length) = false := by simpa using hroom
  rw [get_eq, get_eq, exporters_insert, insert]
  simp only [hfull, Bool.and_false, Bool.false_eq_true, if_false, List.find?_append,
    find?_filter_key, if_neg hne]
  have hnew : [CachedTemplate.mk source id template ((c.tick + 1) % 2 ^ 64)
      (((c.exporters source).map ExporterClock.unixSecs).getD 0)].find? (hasKey source' id') =
      none := by
    rw [List.find?_eq_none]
    intro t ht hkey
    obtain rfl := List.mem_singleton.mp ht
    simp only [hasKey, decide_eq_true_eq] at hkey
    exact hne ⟨hkey.1.symm, hkey.2.symm⟩
  rw [hnew, Option.or_none]

theorem length_insert_le (c : TemplateCache) (source id : ℕ) (template : Template) :
    (c.insert source id template).templates.length ≤ c.templates.length + 1 := by
  have hevict : (evict c.templates).length ≤ c.templates.length := by
    rw [evict]
    split
    · exact le_rfl
    · exact List.length_filter_le _ _
  rw [insert]
  simp only [List.length_append, List.length_singleton]
  refine Nat.succ_le_succ (Nat.le_trans (List.length_filter_le _ _) ?_)
  split
  · exact hevict
  · exact le_rfl

/-- The last template of an id, if there is one. -/
def lastOf (ts : List (ℕ × Template)) (id : ℕ) : Option Template :=
  ((ts.filter fun t => t.1 = id).getLast?).map Prod.snd

theorem lastOf_cons (t : ℕ × Template) (ts : List (ℕ × Template)) (id : ℕ) :
    lastOf (t :: ts) id = (lastOf ts id).or (if t.1 = id then some t.2 else none) := by
  rw [lastOf, lastOf, List.filter_cons]
  by_cases ht : t.1 = id
  · rcases hlast : (ts.filter fun t => t.1 = id).getLast? with _ | l
      <;> simp [ht, List.getLast?_cons, hlast]
  · simp [ht]

/-- **Where there is room, every template that is written is held.** -/
theorem get_learn_of_room {clock : ExporterClock} (hclock : c.exporters source = some clock)
    {ts : List (ℕ × Template)} (hroom : c.templates.length + ts.length ≤ maxTemplates) (id : ℕ) :
    (c.learn source ts).get source id = (lastOf ts id).or (c.get source id) := by
  induction ts generalizing c with
  | nil => rfl
  | cons t ts ih =>
    rw [List.length_cons] at hroom
    have hlen := length_insert_le c source t.1 t.2
    rw [learn, List.foldl_cons, lastOf_cons, Option.or_assoc]
    refine (ih (c := c.insert source t.1 t.2) hclock (by omega)).trans (congrArg _ ?_)
    by_cases ht : t.1 = id
    · subst ht
      rw [get_insert_self hclock, if_pos rfl, Option.some_or]
    · rw [if_neg ht, Option.none_or]
      exact get_insert_of_ne (fun h => ht h.2.symm) (by omega) _

end TemplateCache

/-! ### Decoding -/

theorem exists_clock_begin (c : TemplateCache) (source sysUptime unixSecs sequence : ℕ) :
    ∃ clock, (c.beginDatagram source sysUptime unixSecs sequence).1.exporters source =
      some clock := by
  rw [TemplateCache.exporters_beginDatagram_self]
  split_ifs with hadvances
  · exact ⟨_, rfl⟩
  · simp only [TemplateCache.advances, Bool.or_eq_true, not_or] at hadvances
    rcases hclock : c.exporters source with _ | clock
    · simp [hclock] at hadvances
    · exact ⟨clock, rfl⟩

/-- The cache at the first flowset of a datagram. -/
def cacheAt (ops : List CacheOp) (h : Header) : TemplateCache :=
  ((cacheOf ops).beginDatagram h.sourceId h.sysUptime h.unixSecs h.sequence).1

/-- What decoding a datagram yields. -/
structure Undone (ops : List CacheOp) (h : Header) (sets : List FlowSet) (buf : List UInt8)
    (d : Decoded) : Prop where
  /-- The flows in their order, each by the template that is found for it. -/
  records : d.records = flows h.sourceId (cacheAt ops h) sets
  /-- Data flowsets without a template are counted. -/
  unknown : d.dataWithoutTemplate = unknowns h.sourceId (cacheAt ops h) sets
  learned : d.templatesLearned = (sets.flatMap FlowSet.learned).length
  sourceId : d.sourceId = h.sourceId ∧ wireObservationDomain .netflowV9 buf = some h.sourceId
  sequence : d.sequence = h.sequence ∧ d.sysUptime = h.sysUptime ∧
    wireSequenceAndUptime .netflowV9 buf = some (h.sequence, some h.sysUptime)
  /-- A template that is found is the last one that was written before, in this datagram or in
  another one. -/
  latest : ∀ before after, sets = before ++ after → ∀ id t,
    ((cacheAt ops h).afterSets h.sourceId before).get h.sourceId id = some t →
      lastWritten (ops ++ .begin h.sourceId h.sysUptime h.unixSecs h.sequence :: before.flatMap
        (FlowSet.ops h.sourceId))
        h.sourceId id = some t
  /-- A template that was written in this datagram, or was there at its start, is found, as long as
  there is room. -/
  found : ∀ before after, sets = before ++ after →
    (cacheAt ops h).templates.length + (before.flatMap FlowSet.learned).length ≤ maxTemplates →
    ∀ id,
      ((cacheAt ops h).afterSets h.sourceId before).get h.sourceId id =
        (TemplateCache.lastOf (before.flatMap FlowSet.learned) id).or
        ((cacheAt ops h).get h.sourceId id)

/-- **Decoding undoes the wire format**, whatever was received before. -/
theorem decode_encode (ops : List CacheOp) (h : Header) (sets : List FlowSet) (padding : ℕ)
    (hheader : h.Laid) (hpadding : padding ≤ 3) (hlaid : Laid h.sourceId (cacheAt ops h) sets) :
    ∃ d, decode (encode h sets padding) (cacheOf ops) =
      ((cacheAt ops h).afterSets h.sourceId sets, .ok d) ∧
      Undone ops h sets (encode h sets padding) d := by
  have hcache : cacheAt ops h =
    cacheOf (ops ++ [.begin h.sourceId h.sysUptime h.unixSecs h.sequence]) := by
    rw [cacheOf_append]
    rfl
  -- the cache is one that operations built, the clock of this datagram among them
  have hlawful : (cacheAt ops h).Lawful := hcache ▸ lawful_cacheOf _
  -- the walk has as many steps as there are bytes, and every flowset takes four
  have hfuel : sets.length < (encode h sets padding).length := by
    have hsets := length_le_flatMap fun s (_ : s ∈ sets) =>
      Nat.le_trans (by omega) (length_encode_flowset s)
    have hlen := length_encode h sets padding
    omega
  obtain ⟨clock, hclock⟩ := exists_clock_begin (cacheOf ops) h.sourceId h.sysUptime
    h.unixSecs h.sequence
  let out : Decoded :=
    { sourceId := h.sourceId
      sysUptime := h.sysUptime
      sequence := h.sequence
      exporterRestarted := ((cacheOf ops).beginDatagram h.sourceId h.sysUptime h.unixSecs
        h.sequence).2.1
      samplingStateExpired := ((cacheOf ops).beginDatagram h.sourceId h.sysUptime h.unixSecs
        h.sequence).2.2 }
  obtain ⟨d, hwalk, hadds⟩ := walk_encode hlawful hlaid hpadding hfuel (show out.sourceId =
    h.sourceId from rfl)
  refine ⟨d, ?_, ?_⟩
  · rw [decode, readHeader_encode hheader]
    exact hwalk
  · obtain ⟨hdomain, hsequence⟩ := wire_encode hheader sets padding
    refine ⟨hadds.records, ?_, ?_, ⟨hadds.sourceId, hdomain⟩,
      ⟨hadds.sequence, hadds.sysUptime, hsequence⟩, ?_, ?_⟩
    · exact hadds.unknown.trans (Nat.zero_add _)
    · exact hadds.learned.trans (Nat.zero_add _)
    · rintro before after - id t hget
      refine get_cacheOf ?_
      rwa [cacheOf_append, List.foldl_cons, ← afterSets_eq_foldl]
    · rintro before after - hroom id
      exact TemplateCache.get_learn_of_room hclock hroom id

/-- A template, a record in its layout, and a record of a template that was not sent. -/
def sampleSets : List FlowSet :=
  [.templates [⟨256, [(8, 4), (12, 4), (1, 3)]⟩],
      .data 256 [[⟨8, 4, 1⟩, ⟨12, 4, 2⟩, ⟨1, 3, 2 ^ 24 + 7⟩]],
    .data 300 [[⟨1, 4, 1⟩]]]

def sampleHeader : Header := ⟨3, 123456, 1700000000, 1, 42⟩

theorem laid_sampleSets : Laid 42 (cacheAt [] sampleHeader) sampleSets := by
  have hfound : ((cacheAt [] sampleHeader).learn 42 [(256,
    Template.ofFields [(8, 4), (12, 4), (1, 3)] false)]).get 42 256 =
      some (Template.ofFields [(8, 4), (12, 4), (1, 3)] false) := by decide +kernel
  have hnone : ((cacheAt [] sampleHeader).learn 42 [(256,
    Template.ofFields [(8, 4), (12, 4), (1, 3)] false)]).get 42 300 =
      none := by decide +kernel
  refine ⟨⟨by decide, fun t ht => ?_⟩, ⟨by decide, by decide, by decide, fun t ht _ r hr => ?_⟩,
    ⟨by decide, by decide, by decide, fun t ht => ?_⟩, trivial⟩
  · obtain rfl := List.mem_singleton.mp ht
    exact ⟨by decide, by simp [FieldsLaid]⟩
  · obtain rfl := List.mem_singleton.mp hr
    obtain rfl := Option.some.inj (hfound.symm.trans ht)
    exact ⟨rfl, by decide⟩
  · exact absurd (hnone.symm.trans ht) (by simp)

/-- The one flow of a datagram, its counter truncated to three bytes. -/
theorem decode_encode_sample :
    (∃ d, decode (encode sampleHeader sampleSets 1) (cacheOf []) =
        ((cacheAt [] sampleHeader).afterSets 42 sampleSets, .ok d) ∧
      Undone [] sampleHeader sampleSets (encode sampleHeader sampleSets 1) d) ∧
    flows 42 (cacheAt [] sampleHeader) sampleSets =
      [⟨.v4 1, .v4 2, none, none, 0, none, none, none, none, none, some 7, none⟩] :=
  ⟨decode_encode [] sampleHeader sampleSets 1 (by simp [Header.Laid, sampleHeader])
      (by decide) laid_sampleSets, by decide +kernel⟩

end Rerouter.Flow
