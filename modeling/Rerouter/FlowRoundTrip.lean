import Rerouter.FlowDecode
import Rerouter.Lib.Outcome

/-!
# Datagrams that decode to what was encoded

The wire format, written from the side of the exporter: a record is a list of fields with their
numbers, a flowset is templates, options templates or records, padded with zeros to a multiple of
four bytes. What is written this way reads back: templates, options templates
(`Rerouter.Flow.learnTemplates_padded`) and the records of a flowset
(`Rerouter.Flow.parseDataRecords_encode`).
-/

namespace Rerouter.Flow

open BigEndian

/-! ### The wire format -/

/-- A field of a record, with its number. -/
structure WireField where
  ftype : ℕ
  len : ℕ
  value : ℕ

/-- The types and lengths of the fields of a record. -/
def layout (r : List WireField) : List (ℕ × ℕ) := r.map fun f => (f.ftype, f.len)

/-- The bytes of a record. -/
def encodeRecord (r : List WireField) : List UInt8 := r.flatMap fun f => bytes f.len f.value

/-- The bytes of the fields of a template. -/
def encodeFields (fields : List (ℕ × ℕ)) : List UInt8 :=
  fields.flatMap fun f => bytes 2 f.1 ++ bytes 2 f.2

/-- A template of a template flowset. -/
structure WireTemplate where
  id : ℕ
  fields : List (ℕ × ℕ)

/-- A template of an options template flowset. -/
structure WireOptions where
  id : ℕ
  scopes : List (ℕ × ℕ)
  options : List (ℕ × ℕ)

/-- A flowset. -/
inductive FlowSet where
  | templates (ts : List WireTemplate)
  | optionsTemplates (ts : List WireOptions)
  | data (id : ℕ) (records : List (List WireField))

namespace WireTemplate

def template (t : WireTemplate) : ℕ × Template := (t.id, Template.ofFields t.fields false)

def encode (t : WireTemplate) : List UInt8 :=
  bytes 2 t.id ++ (bytes 2 t.fields.length ++ encodeFields t.fields)

end WireTemplate

namespace WireOptions

def template (t : WireOptions) : ℕ × Template :=
  (t.id, Template.ofFields (t.scopes ++ t.options) true)

def encode (t : WireOptions) : List UInt8 :=
  bytes 2 t.id ++ (bytes 2 (4 * t.scopes.length) ++ (bytes 2 (4 * t.options.length) ++
    encodeFields (t.scopes ++ t.options)))

end WireOptions

namespace FlowSet

/-- The id in the header of a flowset. -/
def id : FlowSet → ℕ
  | templates _ => 0
  | optionsTemplates _ => 1
  | data id _ => id

/-- What a flowset contains, without the padding. -/
def contents : FlowSet → List UInt8
  | templates ts => ts.flatMap WireTemplate.encode
  | optionsTemplates ts => ts.flatMap WireOptions.encode
  | data _ records => records.flatMap encodeRecord

/-- The zeros up to the next multiple of four bytes. -/
def zeros (n : ℕ) : List UInt8 := List.replicate ((4 - n % 4) % 4) 0

def body (s : FlowSet) : List UInt8 := s.contents ++ zeros s.contents.length

def encode (s : FlowSet) : List UInt8 := bytes 2 s.id ++ (bytes 2 (4 + s.body.length) ++ s.body)

/-- The templates of a flowset. -/
def learned : FlowSet → List (ℕ × Template)
  | templates ts => ts.map WireTemplate.template
  | optionsTemplates ts => ts.map WireOptions.template
  | data _ _ => []

end FlowSet

/-- The bytes of a datagram, with up to three zeros behind the last flowset. -/
def encode (h : Header) (sets : List FlowSet) (padding : ℕ) : List UInt8 :=
  bytes 2 9 ++ (bytes 2 h.count ++
      (bytes 4 h.sysUptime ++ (bytes 4 h.unixSecs ++ (bytes 4 h.sequence ++
    (bytes 4 h.sourceId ++ (sets.flatMap FlowSet.encode ++ List.replicate padding 0))))))

/-! ### What is encoded -/

/-- The number of the last field of a type, truncated to the width of the field and to `width`
bytes. -/
def number (ftype width : ℕ) (r : List WireField) : Option ℕ :=
  ((r.filter fun f => f.ftype = ftype).getLast?).map fun f => f.value % 256 ^ min f.len width

/-- The address in the last field of a type and of the length of an address. -/
def address (ftype len : ℕ) (r : List WireField) : Option (BitVec (8 * len)) :=
  ((r.filter fun f => f.ftype = ftype ∧ f.len = len).getLast?).map fun f =>
    BitVec.ofNat (8 * len) f.value

/-- The two addresses of a record. -/
def addresses (r : List WireField) : Option (IpAddr × IpAddr) :=
  match address 8 4 r, address 12 4 r, address 27 16 r, address 28 16 r with
  | some s, some d, _, _ => some (.v4 s, .v4 d)
  | _, _, some s, some d => some (.v6 s, .v6 d)
  | _, _, _, _ => none

/-- The sum of two counters, up to the greatest number of 64 bits; absent when both are. -/
def total (a b : Option ℕ) : Option ℕ :=
  if a = none ∧ b = none then none else some (min (a.getD 0 + b.getD 0) (2 ^ 64 - 1))

/-- The flow of a record that has two addresses. -/
def flowOf (r : List WireField) : Option FlowRecord :=
  (addresses r).map fun (srcAddr, dstAddr) =>
    { srcAddr, dstAddr
      srcPort := number 7 2 r
      dstPort := number 11 2 r
      protocol := (number 4 1 r).getD 0
      inIfIndex := number 10 4 r
      outIfIndex := number 14 4 r
      srcAs := number 16 4 r
      dstAs := number 17 4 r
      direction := number 61 1 r
      bytes := total (number 1 8 r) (number 23 8 r)
      pkts := total (number 2 8 r) (number 24 8 r) }

/-- The cache after some templates of a source. -/
def TemplateCache.learn (c : TemplateCache) (source : ℕ) (ts : List (ℕ × Template)) :
    TemplateCache :=
  ts.foldl (fun c t => c.insert source t.1 t.2) c

/-- The flows of a flowset, by the template of its id. -/
def FlowSet.flows (template : ℕ → Option Template) : FlowSet → List FlowRecord
  | .data id records =>
    match template id with
    | some t => if t.isOptions then [] else records.filterMap flowOf
    | none => []
  | _ => []

/-- Whether a flowset is data without a template. -/
def FlowSet.unknown (template : ℕ → Option Template) : FlowSet → Bool
  | .data id _ => (template id).isNone
  | _ => false

/-- The flows of a datagram, each by the template that counts where it stands. -/
def flows (source : ℕ) : TemplateCache → List FlowSet → List FlowRecord
  | _, [] => []
  | c, s :: sets => s.flows (c.get source) ++ flows source (c.learn source s.learned) sets

/-- The data flowsets of a datagram without a template. -/
def unknowns (source : ℕ) : TemplateCache → List FlowSet → ℕ
  | _, [] => 0
  | c, s :: sets =>
    (s.unknown (c.get source)).toNat + unknowns source (c.learn source s.learned) sets

/-! ### What is well laid out -/

/-- The fields of a template fit, and make a record of four bytes or more. -/
def FieldsLaid (fields : List (ℕ × ℕ)) : Prop :=
  (∀ f ∈ fields, f.1 < 2 ^ 16 ∧ f.2 < 2 ^ 16) ∧ 4 ≤ (fields.map Prod.snd).sum

/-- What a flowset has to meet where the templates of its source are known. -/
def FlowSet.Laid (template : ℕ → Option Template) (s : FlowSet) : Prop :=
  4 + s.body.length < 2 ^ 16 ∧
    match s with
    | .templates ts => ∀ t ∈ ts, t.id < 2 ^ 16 ∧ FieldsLaid t.fields
    | .optionsTemplates ts => ∀ t ∈ ts, t.id < 2 ^ 16 ∧ FieldsLaid (t.scopes ++ t.options)
    | .data id records => 256 ≤ id ∧ id < 2 ^ 16 ∧ ∀ t ∈ template id, t.isOptions = false →
        ∀ r ∈ records, layout r = t.fields ∧ 4 ≤ (r.map WireField.len).sum

/-- Every flowset is laid out well where it stands. -/
def Laid (source : ℕ) : TemplateCache → List FlowSet → Prop
  | _, [] => True
  | c, s :: sets => s.Laid (c.get source) ∧ Laid source (c.learn source s.learned) sets

/-- The fields of a header fit. -/
def Header.Laid (h : Header) : Prop :=
  h.count < 2 ^ 16 ∧ h.sysUptime < 2 ^ 32 ∧ h.unixSecs < 2 ^ 32 ∧ h.sequence < 2 ^ 32 ∧
    h.sourceId < 2 ^ 32

/-! ### Reading what was written -/

theorem take_append {n : ℕ} {s : List UInt8} (r : List UInt8) (h : s.length = n) :
    take n (s ++ r) = .ok (s, r) := by
  subst h
  simp [take]

theorem u16_bytes {v : ℕ} (r : List UInt8) (h : v < 2 ^ 16) :
    u16 (bytes 2 v ++ r) = .ok (v, r) := by
  rw [u16, take_append r (length_bytes 2 v)]
  simp [bind, Except.bind, pure, Except.pure, value_bytes_of_lt (n := 2) h]

theorem u32_bytes {v : ℕ} (r : List UInt8) (h : v < 2 ^ 32) :
    u32 (bytes 4 v ++ r) = .ok (v, r) := by
  rw [u32, take_append r (length_bytes 4 v)]
  simp [bind, Except.bind, pure, Except.pure, value_bytes_of_lt (n := 4) h]

section Reading

variable {r r' s : List UInt8} {n v : ℕ}

theorem take_eq_ok : take n r = .ok (s, r') ↔ s.length = n ∧ r = s ++ r' := by
  constructor
  · intro h
    rw [take] at h
    split_ifs at h with hlen
    · cases h
      exact ⟨List.length_take_of_le (Nat.not_lt.mp hlen), (List.take_append_drop n r).symm⟩
  · rintro ⟨hlen, rfl⟩
    exact take_append r' hlen

/-- A word that was read is the first two bytes. -/
theorem u16_eq_ok : u16 r = .ok (v, r') ↔ v < 2 ^ 16 ∧ r = bytes 2 v ++ r' := by
  simp only [u16, bind_eq_ok, Prod.exists, take_eq_ok, pure, Except.pure, Except.ok.injEq,
    Prod.mk.injEq]
  constructor
  · rintro ⟨s, r₁, ⟨hlen, rfl⟩, hv, rfl⟩
    obtain ⟨hlt, rfl⟩ := bytes_eq_iff.mp ⟨hlen, hv⟩
    exact ⟨hlt, rfl⟩
  · rintro ⟨hlt, rfl⟩
    obtain ⟨hlen, hv⟩ := bytes_eq_iff (n := 2).mpr ⟨hlt, rfl⟩
    exact ⟨bytes 2 v, r', ⟨hlen, rfl⟩, hv, rfl⟩

/-- A double word that was read is the first four bytes. -/
theorem u32_eq_ok : u32 r = .ok (v, r') ↔ v < 2 ^ 32 ∧ r = bytes 4 v ++ r' := by
  simp only [u32, bind_eq_ok, Prod.exists, take_eq_ok, pure, Except.pure, Except.ok.injEq,
    Prod.mk.injEq]
  constructor
  · rintro ⟨s, r₁, ⟨hlen, rfl⟩, hv, rfl⟩
    obtain ⟨hlt, rfl⟩ := bytes_eq_iff.mp ⟨hlen, hv⟩
    exact ⟨hlt, rfl⟩
  · rintro ⟨hlt, rfl⟩
    obtain ⟨hlen, hv⟩ := bytes_eq_iff (n := 4).mpr ⟨hlt, rfl⟩
    exact ⟨bytes 4 v, r', ⟨hlen, rfl⟩, hv, rfl⟩

end Reading

theorem validatePadding_zeros (n : ℕ) : validatePadding (List.replicate n 0) = .ok () := by
  rw [validatePadding, if_neg]
  simp [List.any_replicate]

theorem readFields_encodeFields {fields : List (ℕ × ℕ)}
    (h : ∀ f ∈ fields, f.1 < 2 ^ 16 ∧ f.2 < 2 ^ 16)
    (r : List UInt8) : readFields fields.length (encodeFields fields ++ r) = .ok (fields, r) := by
  induction fields with
  | nil => rfl
  | cons f fields ih =>
    obtain ⟨⟨htype, hlen⟩, hrest⟩ := List.forall_mem_cons.mp h
    simp only [encodeFields, List.flatMap_cons, List.append_assoc, List.length_cons, readFields]
      at ih ⊢
    rw [u16_bytes _ htype]
    simp only [bind, Except.bind]
    rw [u16_bytes _ hlen]
    simp only [ih hrest, pure, Except.pure]

theorem makeTemplate_of_laid {fields : List (ℕ × ℕ)} (id : ℕ) (isOptions : Bool)
    (h : FieldsLaid fields) :
    makeTemplate id fields isOptions = .ok (Template.ofFields fields isOptions) := by
  have hlen := h.2
  rw [makeTemplate, if_neg]
  simp only [Template.ofFields]
  omega

theorem length_encodeFields (fields : List (ℕ × ℕ)) :
    (encodeFields fields).length = 4 * fields.length := by
  induction fields with
  | nil => rfl
  | cons f fields ih =>
    simp only [encodeFields, List.flatMap_cons, List.length_append, length_bytes, List.length_cons]
      at ih ⊢
    omega

theorem readTemplate_encode {t : WireTemplate} (hid : t.id < 2 ^ 16)
    (hcount : t.fields.length < 2 ^ 16) (h : FieldsLaid t.fields) (r : List UInt8) :
    readTemplate (t.encode ++ r) = .ok (some t.template, r) := by
  have hne : t.fields.length ≠ 0 := by
    intro hnil
    have hlen := h.2
    rw [List.length_eq_zero_iff.mp hnil] at hlen
    simp at hlen
  simp only [readTemplate, WireTemplate.encode, List.append_assoc]
  rw [u16_bytes _ hid]
  simp only [bind, Except.bind]
  rw [u16_bytes _ hcount]
  simp only [if_neg hne, pure, Except.pure]
  rw [readFields_encodeFields h.1]
  simp only [makeTemplate_of_laid _ _ h]
  rfl

theorem readOptionsTemplate_encode {t : WireOptions} (hid : t.id < 2 ^ 16)
    (hcount : 4 * (t.scopes ++ t.options).length < 2 ^ 16) (h : FieldsLaid (t.scopes ++ t.options))
    (r : List UInt8) :
    readOptionsTemplate (t.encode ++ r) = .ok (some t.template, r) := by
  rw [List.length_append] at hcount
  have hne : ¬ (4 * t.scopes.length = 0 ∧ 4 * t.options.length = 0) := by
    rintro ⟨hscopes, hoptions⟩
    have hlen := h.2
    rw [List.length_eq_zero_iff.mp (by omega : t.scopes.length = 0),
      List.length_eq_zero_iff.mp (by omega : t.options.length = 0)] at hlen
    simp at hlen
  have hfields : 4 * t.scopes.length / 4 + 4 * t.options.length / 4 =
    (t.scopes ++ t.options).length := by
    rw [List.length_append]
    omega
  simp only [readOptionsTemplate, WireOptions.encode, List.append_assoc]
  rw [u16_bytes _ hid]
  simp only [bind, Except.bind]
  rw [u16_bytes _ (by omega)]
  simp only []
  rw [u16_bytes _ (by omega)]
  simp only [if_neg hne, hfields, pure, Except.pure]
  rw [readFields_encodeFields h.1]
  simp only [makeTemplate_of_laid _ _ h]
  rfl

section Learn

variable {α : Type} {read : List UInt8 → Except FlowError (Option (ℕ × Template) × List UInt8)}
  {least source : ℕ} {write : α → List UInt8} {template : α → ℕ × Template}

/-- Templates that are read back one by one are learned one by one. -/
theorem learnTemplates_flatMap {ts : List α}
    (hread : ∀ t ∈ ts, ∀ r, read (write t ++ r) = .ok (some (template t), r))
    (hleast : ∀ t ∈ ts, least ≤ (write t).length) {padding : ℕ}
    (hpadding : padding < least) {fuel : ℕ}
    (hfuel : ts.length < fuel) (cache : TemplateCache) (n : ℕ) :
    learnTemplates read least source fuel (ts.flatMap write ++ List.replicate padding 0) cache n =
      (cache.learn source (ts.map template), .ok (n + ts.length)) := by
  induction ts generalizing fuel cache n with
  | nil =>
    obtain ⟨fuel, rfl⟩ := Nat.exists_eq_add_one_of_ne_zero (Nat.ne_of_gt hfuel)
    simp only [List.flatMap_nil, List.nil_append, learnTemplates, List.length_replicate,
      if_neg (Nat.not_le.mpr hpadding), validatePadding_zeros]
    rfl
  | cons t ts ih =>
    obtain ⟨fuel, rfl⟩ := Nat.exists_eq_add_one_of_ne_zero (Nat.ne_of_gt (Nat.zero_lt_of_lt hfuel))
    obtain ⟨hthis, hthose⟩ := List.forall_mem_cons.mp hread
    obtain ⟨hmin, hmins⟩ := List.forall_mem_cons.mp hleast
    simp only [List.flatMap_cons, List.append_assoc, learnTemplates]
    rw [if_pos (by rw [List.length_append]; omega), hthis]
    simp only []
    rw [ih hthose hmins (by simpa using hfuel)]
    simp only [TemplateCache.learn, List.map_cons, List.foldl_cons, List.length_cons]
    rw [Nat.add_assoc, Nat.add_comm 1]

theorem length_write_le {t : α} {ts : List α} (h : t ∈ ts) :
    (write t).length ≤ (ts.flatMap write).length :=
  (List.sublist_flatten_of_mem (List.mem_map_of_mem h)).length_le

theorem length_le_flatMap {ts : List α} (h : ∀ t ∈ ts, 1 ≤ (write t).length) :
    ts.length ≤ (ts.flatMap write).length := by
  induction ts with
  | nil => simp
  | cons t ts ih =>
    obtain ⟨hthis, hthose⟩ := List.forall_mem_cons.mp h
    have hrest := ih hthose
    simp only [List.length_cons, List.flatMap_cons, List.length_append]
    omega

/-- The templates of a flowset, with its padding. -/
theorem learnTemplates_padded {ts : List α}
    (hread : ∀ t ∈ ts, ∀ r, read (write t ++ r) = .ok (some (template t), r))
    (hleast : ∀ t ∈ ts, least ≤ (write t).length) (hfour : 4 ≤ least) (cache : TemplateCache) :
    learnTemplates read least source
    ((ts.flatMap write ++ FlowSet.zeros (ts.flatMap write).length).length + 1)
        (ts.flatMap write ++ FlowSet.zeros (ts.flatMap write).length) cache 0 =
      (cache.learn source (ts.map template), .ok ts.length) := by
  have hcount := length_le_flatMap fun t ht => Nat.le_trans (by omega) (hleast t ht)
  have hpadding : (4 - (ts.flatMap write).length % 4) % 4 < least := by omega
  have hfuel : ts.length < (ts.flatMap write ++ FlowSet.zeros (ts.flatMap write).length).length +
    1 := by
    rw [List.length_append]
    omega
  exact (learnTemplates_flatMap hread hleast hpadding hfuel cache 0).trans (by rw [Nat.zero_add])

end Learn

/-! ### Flowsets of templates -/

theorem length_encode_template (t : WireTemplate) : t.encode.length = 4 + 4 * t.fields.length := by
  simp only [WireTemplate.encode, List.length_append, length_bytes, length_encodeFields]
  omega

theorem length_encode_options (t : WireOptions) :
    t.encode.length = 6 + 4 * (t.scopes ++ t.options).length := by
  simp only [WireOptions.encode, List.length_append, length_bytes, length_encodeFields]
  omega

variable {source : ℕ} {cache : TemplateCache}

theorem parseTemplates_encode {ts : List WireTemplate}
    (hbody : 4 + (FlowSet.templates ts).body.length < 2 ^ 16)
    (hlaid : ∀ t ∈ ts, t.id < 2 ^ 16 ∧ FieldsLaid t.fields) :
    parseTemplates (FlowSet.templates ts).body source cache =
      (cache.learn source (ts.map WireTemplate.template), .ok ts.length) := by
  refine learnTemplates_padded (fun t ht r => ?_) (fun t _ => ?_) le_rfl cache
  · obtain ⟨hid, hfields⟩ := hlaid t ht
    have hthis : t.encode.length ≤ (ts.flatMap WireTemplate.encode).length := length_write_le ht
    rw [length_encode_template] at hthis
    simp only [FlowSet.body, FlowSet.contents, List.length_append] at hbody
    exact readTemplate_encode hid (by omega) hfields r
  · rw [length_encode_template]
    omega

theorem parseOptionsTemplate_encode {ts : List WireOptions}
    (hbody : 4 + (FlowSet.optionsTemplates ts).body.length < 2 ^ 16)
    (hlaid : ∀ t ∈ ts, t.id < 2 ^ 16 ∧ FieldsLaid (t.scopes ++ t.options)) :
    parseOptionsTemplate (FlowSet.optionsTemplates ts).body source cache =
      (cache.learn source (ts.map WireOptions.template), .ok ts.length) := by
  refine learnTemplates_padded (fun t ht r => ?_) (fun t _ => ?_) (by omega) cache
  · obtain ⟨hid, hfields⟩ := hlaid t ht
    have hthis : t.encode.length ≤ (ts.flatMap WireOptions.encode).length := length_write_le ht
    rw [length_encode_options] at hthis
    simp only [FlowSet.body, FlowSet.contents, List.length_append] at hbody hthis
    exact readOptionsTemplate_encode hid (by rw [List.length_append]; omega) hfields r
  · rw [length_encode_options]
    omega

/-! ### Records -/

theorem mod_pow_mod_pow (v a b : ℕ) : v % 256 ^ a % 256 ^ b = v % 256 ^ min a b := by
  rcases Nat.le_total a b with h | h
  · rw [Nat.min_eq_left h, Nat.mod_eq_of_lt]
    exact Nat.lt_of_lt_of_le (Nat.mod_lt _ (Nat.pow_pos (by omega)))
      (Nat.pow_le_pow_right (by omega) h)
  · rw [Nat.min_eq_right h, Nat.mod_mod_of_dvd]
    exact Nat.pow_dvd_pow 256 h

theorem beUint_bytes (n v : ℕ) : beUint (bytes n v) = v % 256 ^ min n 8 := by
  rw [beUint, length_bytes]
  rcases Nat.le_total n 8 with h | h
  · rw [Nat.sub_eq_zero_of_le h, List.drop_zero, value_bytes, Nat.min_eq_left h]
  · obtain ⟨k, rfl⟩ := Nat.exists_eq_add_of_le' h
    rw [Nat.add_sub_cancel, drop_bytes, value_bytes, Nat.min_eq_right h]

/-- A field of a record, found behind those before it. -/
def Found.addField (x : Found) (f : WireField) : Found := x.add f.ftype (bytes f.len f.value)

theorem findFields_encodeRecord (r : List WireField) (x : Found) :
    findFields (layout r) (encodeRecord r) x = some (r.foldl Found.addField x) := by
  induction r generalizing x with
  | nil => rfl
  | cons f r ih =>
    simp only [layout, List.map_cons, encodeRecord, List.flatMap_cons, findFields,
      List.length_append, length_bytes, List.foldl_cons] at ih ⊢
    rw [if_neg (by omega), List.drop_left' (length_bytes _ _), List.take_left' (length_bytes _ _)]
    exact ih _

theorem number_concat (ftype width : ℕ) (r : List WireField) (f : WireField) :
    number ftype width (r ++ [f]) =
      if f.ftype = ftype then some (f.value % 256 ^ min f.len width) else number ftype width r := by
  by_cases h : f.ftype = ftype <;> simp [number, List.filter_append, h]

theorem address_concat (ftype len : ℕ) (r : List WireField) (f : WireField) :
    address ftype len (r ++ [f]) =
      if f.ftype = ftype ∧ f.len = len then some (BitVec.ofNat (8 * len) f.value)
        else address ftype len r := by
  by_cases h : f.ftype = ftype ∧ f.len = len
  · simp [address, List.filter_append, h]
  · simp only [address, List.filter_append, if_neg h]
    simp [h]

/-- What is found in a record: of each type the last field. -/
def foundIn (r : List WireField) : Found where
  srcV4 := address 8 4 r
  dstV4 := address 12 4 r
  srcV6 := address 27 16 r
  dstV6 := address 28 16 r
  srcPort := number 7 2 r
  dstPort := number 11 2 r
  protocol := (number 4 1 r).getD 0
  inIf := number 10 4 r
  outIf := number 14 4 r
  srcAs := number 16 4 r
  dstAs := number 17 4 r
  direction := number 61 1 r
  inBytes := number 1 8 r
  outBytes := number 23 8 r
  inPkts := number 2 8 r
  outPkts := number 24 8 r

theorem beUint_bytes_mod {w : ℕ} (n v : ℕ) (h : w ≤ 8) :
    beUint (bytes n v) % 256 ^ w = v % 256 ^ min n w := by
  rw [beUint_bytes, mod_pow_mod_pow, Nat.min_assoc, Nat.min_eq_right h]

theorem ofNat_value_bytes (len v : ℕ) :
    BitVec.ofNat (8 * len) (value (bytes len v)) = BitVec.ofNat (8 * len) v := by
  have hpow : 256 ^ len = 2 ^ (8 * len) := by rw [Nat.pow_mul]
  refine BitVec.eq_of_toNat_eq ?_
  rw [value_bytes, BitVec.toNat_ofNat, BitVec.toNat_ofNat, hpow, Nat.mod_mod]

theorem foundIn_concat (r : List WireField) (f : WireField) :
    foundIn (r ++ [f]) = (foundIn r).addField f := by
  unfold Found.addField Found.add
  -- the counters, the other numbers, the addresses, and the types that are not read
  split
  case h_1 h | h_2 h | h_3 h | h_4 h =>
    simp only [foundIn, number_concat, address_concat, h, beUint_bytes, Nat.reduceEqDiff, if_true,
      if_false, false_and]
  case h_5 h | h_12 h =>
    have hbyte := beUint_bytes_mod (w := 1) f.len f.value (by omega)
    simp only [foundIn, number_concat, address_concat, h, Nat.reduceEqDiff, if_true, if_false,
      false_and, ← hbyte, Option.getD_some, Nat.reducePow]
  case h_6 h | h_7 h =>
    have hshort := beUint_bytes_mod (w := 2) f.len f.value (by omega)
    simp only [foundIn, number_concat, address_concat, h, Nat.reduceEqDiff, if_true, if_false,
      false_and, ← hshort, Nat.reducePow]
  case h_8 h | h_9 h | h_10 h | h_11 h =>
    have hlong := beUint_bytes_mod (w := 4) f.len f.value (by omega)
    simp only [foundIn, number_concat, address_concat, h, Nat.reduceEqDiff, if_true, if_false,
      false_and, ← hlong, Nat.reducePow]
  case h_13 h | h_14 h =>
    have hvalue := ofNat_value_bytes 4 f.value
    rw [length_bytes]
    by_cases hlen : f.len = 4
    · simp only [foundIn, number_concat, address_concat, h, hlen, Nat.reduceEqDiff, if_true,
        if_false, false_and, and_self, ← hvalue]
    · simp only [foundIn, number_concat, address_concat, h, hlen, Nat.reduceEqDiff, if_false,
        false_and, and_false]
  case h_15 h | h_16 h =>
    have hvalue := ofNat_value_bytes 16 f.value
    rw [length_bytes]
    by_cases hlen : f.len = 16
    · simp only [foundIn, number_concat, address_concat, h, hlen, Nat.reduceEqDiff, if_true,
        if_false, false_and, and_self, ← hvalue]
    · simp only [foundIn, number_concat, address_concat, h, hlen, Nat.reduceEqDiff, if_false,
        false_and, and_false]
  case h_17 h1 h2 h3 h4 h5 h6 h7 h8 h9 h10 h11 h12 h13 h14 h15 h16 =>
    simp only [foundIn, number_concat, address_concat, if_neg h1, if_neg h2, if_neg h3, if_neg h4,
      if_neg h5, if_neg h6, if_neg h7, if_neg h8, if_neg h9, if_neg h10, if_neg h11, if_neg h12,
      if_neg fun h => h13 (And.left h),
      if_neg fun h => h14 (And.left h), if_neg fun h => h15 (And.left h), if_neg fun h =>
      h16 (And.left h)]

theorem foldl_addField (r : List WireField) : r.foldl Found.addField {} = foundIn r := by
  induction r using List.reverseRecOn with
  | nil => rfl
  | append_singleton r f ih =>
    rw [List.foldl_append, ih, foundIn_concat, List.foldl_cons, List.foldl_nil]

/-! ### Flows -/

/-- Two counters, none of them above the greatest number of 64 bits. -/
theorem sumPresent_eq_total {a b : Option ℕ} (ha : ∀ v ∈ a, v < 2 ^ 64) (hb : ∀ v ∈ b, v < 2 ^ 64) :
    sumPresent a b = total a b := by
  rcases a with _ | a <;> rcases b with _ | b
  · rfl
  · have hlt := hb b rfl
    simp only [sumPresent, total, reduceCtorEq, and_false, if_false, Option.getD_none,
      Option.getD_some, Option.some.injEq]
    omega
  · have hlt := ha a rfl
    simp only [sumPresent, total, reduceCtorEq, false_and, if_false, Option.getD_none,
      Option.getD_some, Option.some.injEq]
    omega
  · rfl

theorem number_lt {ftype : ℕ} {r : List WireField} : ∀ v ∈ number ftype 8 r, v < 2 ^ 64 := by
  intro v hv
  obtain ⟨f, -, rfl⟩ := Option.map_eq_some_iff.mp hv
  refine Nat.lt_of_lt_of_le (Nat.mod_lt _ (Nat.pow_pos (by omega))) ?_
  calc 256 ^ min f.len 8 ≤ 256 ^ 8 := Nat.pow_le_pow_right (by omega) (Nat.min_le_right _ _)
    _ = 2 ^ 64 := by norm_num

theorem flow_foundIn (r : List WireField) : (foundIn r).flow = flowOf r := by
  have hbytes : sumPresent (number 1 8 r) (number 23 8 r) = total (number 1 8 r) (number 23 8 r) :=
    sumPresent_eq_total number_lt number_lt
  have hpkts : sumPresent (number 2 8 r) (number 24 8 r) = total (number 2 8 r) (number 24 8 r) :=
    sumPresent_eq_total number_lt number_lt
  simp only [Found.flow, foundIn, flowOf, addresses, hbytes, hpkts]
  rcases address 8 4 r with _ | s4 <;> rcases address 12 4 r with _ | d4 <;> rcases address 27 16 r
    with _ | s6 <;>
    rcases address 28 16 r with _ | d6 <;> rfl

theorem decodeOneRecord_encode {r : List WireField} {t : Template} (h : layout r = t.fields) :
    decodeOneRecord (encodeRecord r) t = flowOf r := by
  rw [decodeOneRecord, ← h, findFields_encodeRecord, foldl_addField, Option.bind_some, flow_foundIn]

theorem length_encodeRecord (r : List WireField) :
    (encodeRecord r).length = (r.map WireField.len).sum := by
  induction r with
  | nil => rfl
  | cons f r ih =>
    simp only [encodeRecord, List.flatMap_cons, List.length_append, length_bytes, List.map_cons,
      List.sum_cons] at ih ⊢
    rw [ih]

/-- The records of a body, one after the other. -/
theorem filterMap_range_chunks {β : Type} {f : List UInt8 → Option β} {len : ℕ}
    {rs : List (List UInt8)} (h : ∀ r ∈ rs, r.length = len) (rest : List UInt8) :
    ((List.range rs.length).filterMap fun i => f (((rs.flatten ++ rest).drop (i * len)).take len)) =
    rs.filterMap f := by
  induction rs with
  | nil => rfl
  | cons r rs ih =>
    obtain ⟨hthis, hthose⟩ := List.forall_mem_cons.mp h
    have hnext : ∀ i, ((r :: rs).flatten ++ rest).drop ((i + 1) * len) =
      (rs.flatten ++ rest).drop (i * len) := by
      intro i
      rw [List.flatten_cons, List.append_assoc, Nat.succ_mul, Nat.add_comm, ← List.drop_drop,
        List.drop_left' hthis]
    have hfirst : ((r :: rs).flatten ++ rest).take len = r := by
      rw [List.flatten_cons, List.append_assoc, List.take_left' hthis]
    rw [List.length_cons, List.range_succ_eq_map, List.filterMap_cons, List.filterMap_map]
    simp only [Nat.zero_mul, List.drop_zero, hfirst, Function.comp_def, Nat.succ_eq_add_one,
      hnext, ih hthose, List.filterMap_cons]

theorem parseDataRecords_encode {id : ℕ} {records : List (List WireField)} {t : Template}
    (ht : t.recordLen = (t.fields.map Prod.snd).sum)
    (h : ∀ r ∈ records, layout r = t.fields ∧ 4 ≤ (r.map WireField.len).sum) :
    parseDataRecords (FlowSet.data id records).body t = .ok (records.filterMap flowOf) := by
  have hlen : ∀ r ∈ records, (encodeRecord r).length = t.recordLen := by
    intro r hr
    rw [length_encodeRecord, ht, ← (h r hr).1, layout, List.map_map]
    rfl
  have hchunks : ∀ r ∈ records.map encodeRecord, r.length = t.recordLen := by
    intro r hr
    obtain ⟨r, hmem, rfl⟩ := List.mem_map.mp hr
    exact hlen r hmem
  have hcontents : (records.flatMap encodeRecord).length = records.length * t.recordLen := by
    rw [List.length_flatMap, List.map_congr_left hlen, List.map_const', List.sum_replicate_nat]
  have hpad := Nat.mod_lt (4 - (records.flatMap encodeRecord).length % 4) (by omega : 0 < 4)
  rw [parseDataRecords]
  rcases Nat.eq_zero_or_pos t.recordLen with hzero | hpos
  · -- a record has four bytes, so there is none
    rw [if_pos hzero]
    rcases records with _ | ⟨r, records⟩
    · rfl
    · have hfour := (h r (List.mem_cons_self)).2
      rw [← length_encodeRecord, hlen r List.mem_cons_self] at hfour
      omega
  · rw [if_neg (Nat.ne_of_gt hpos)]
    have hshort : (4 - (records.flatMap encodeRecord).length % 4) % 4 < t.recordLen := by
      rcases records with _ | ⟨r, records⟩
      · simpa using hpos
      · have hfour := (h r (List.mem_cons_self)).2
        rw [← length_encodeRecord, hlen r List.mem_cons_self] at hfour
        omega
    have hcount : (FlowSet.data id records).body.length / t.recordLen = records.length := by
      rw [FlowSet.body, FlowSet.contents, List.length_append, FlowSet.zeros, List.length_replicate]
      rw [hcontents] at hshort ⊢
      rw [Nat.add_comm, Nat.add_mul_div_right _ _ hpos, Nat.div_eq_of_lt hshort, Nat.zero_add]
    have htrailing : (FlowSet.data id records).body.drop (records.length * t.recordLen) =
        FlowSet.zeros (records.flatMap encodeRecord).length := List.drop_left' hcontents
    simp only [hcount, htrailing, FlowSet.zeros, List.length_replicate, validatePadding_zeros]
    rw [if_neg (by omega)]
    refine congrArg Except.ok ?_
    have hall := filterMap_range_chunks (f := fun r => decodeOneRecord r t) hchunks
      (FlowSet.zeros (records.flatMap encodeRecord).length)
    rw [List.length_map, List.filterMap_map] at hall
    refine hall.trans (List.filterMap_congr fun r hr => ?_)
    exact decodeOneRecord_encode (h r hr).1

end Rerouter.Flow
