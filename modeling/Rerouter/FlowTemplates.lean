import Mathlib.Data.List.MinMax
import Mathlib.Logic.Function.Basic
import Rerouter.Lib.Wrap

/-!
# The templates of a flow exporter

A NetFlow v9 exporter describes the layout of its data in templates and repeats them from time
to time; the decoder keeps the last one of each id (`Rerouter.Flow.TemplateCache`), with the
time it was refreshed. A template counts for `Rerouter.Flow.templateTtlSeconds` of the
exporter's own time, and only for the *generation* of the exporter it comes from: an exporter
that restarts may use its ids for other layouts.

A datagram does not say of which generation it is. It has a wall time, a sequence number, and an
uptime in milliseconds that wraps around after seven weeks, and
`Rerouter.Flow.TemplateCache.beginDatagram` takes a restart from an uptime that falls while the
wall time does not.
-/

namespace Rerouter.Flow

open Wrap

/-! ### The cache -/

/-- `TEMPLATE_TTL_SECONDS`. -/
def templateTtlSeconds : ℕ := 30 * 60

/-- `REORDER_UPTIME_TOLERANCE_MS`. -/
def reorderUptimeToleranceMs : ℕ := 60000

/-- `MAX_TEMPLATES`. -/
def maxTemplates : ℕ := 1024

/-- `u32::MAX`. -/
def u32Max : ℕ := 2 ^ 32 - 1

/-- The layout of a data record: the types and lengths of its fields. -/
structure Template where
  fields : List (ℕ × ℕ)
  recordLen : ℕ
  isOptions : Bool
deriving DecidableEq

/-- A template that is kept, with the tick and the exporter's time of its last refresh. -/
structure CachedTemplate where
  source : ℕ
  id : ℕ
  template : Template
  tick : ℕ
  refreshed : ℕ
deriving DecidableEq

/-- What is known of the clock of an exporter. -/
structure ExporterClock where
  sysUptime : ℕ
  unixSecs : ℕ
  sequence : ℕ
deriving DecidableEq

/-- The templates of one exporter, and the clock of each of its sources. -/
structure TemplateCache where
  templates : List CachedTemplate := []
  exporters : ℕ → Option ExporterClock := fun _ => none
  tick : ℕ := 0

namespace TemplateCache

/-- A template of a source that was not refreshed in time. -/
def expiredAt (source referenceTime : ℕ) (t : CachedTemplate) : Bool :=
  decide (t.source = source) && decide (templateTtlSeconds < referenceTime - t.refreshed)

/-- The template of an id, if it counts. -/
def get (c : TemplateCache) (source id : ℕ) : Option Template :=
  (c.exporters source).bind fun clock =>
    ((c.templates.find? fun t => t.source = source ∧ t.id = id).filter fun t =>
      decide (clock.unixSecs - t.refreshed ≤ templateTtlSeconds)).map CachedTemplate.template

/-- The templates with one place left for a new one: the one written longest ago is evicted. -/
def evict (templates : List CachedTemplate) : List CachedTemplate :=
  match templates.argmin CachedTemplate.tick with
  | none => templates
  | some victim =>
    templates.filter fun t => !(decide (t.source = victim.source) && decide (t.id = victim.id))

/-- `insert`. -/
def insert (c : TemplateCache) (source id : ℕ) (template : Template) : TemplateCache :=
  let tick := (c.tick + 1) % 2 ^ 64
  let known := c.templates.any fun t => decide (t.source = source) && decide (t.id = id)
  let templates := if !known && decide (maxTemplates ≤ c.templates.length) then evict c.templates
    else c.templates
  let refreshed := ((c.exporters source).map ExporterClock.unixSecs).getD 0
  { c with
    tick
    templates := (templates.filter fun t => !(decide (t.source = source) && decide (t.id = id))) ++
      [⟨source, id, template, tick, refreshed⟩] }

/-- An uptime that is taken to have wrapped around. -/
def wrapped (p : ExporterClock) (sysUptime : ℕ) : Bool :=
  decide (u32Max - reorderUptimeToleranceMs < p.sysUptime) &&
    decide (sysUptime < reorderUptimeToleranceMs)

/-- An uptime that is taken to be another generation's. -/
def restarted (p : ExporterClock) (sysUptime unixSecs : ℕ) : Bool :=
  !wrapped p sysUptime && decide (reorderUptimeToleranceMs < p.sysUptime - sysUptime) &&
    decide (p.unixSecs ≤ unixSecs)

/-- A datagram that is not known to be older than the clock. -/
def newer (p : ExporterClock) (sysUptime unixSecs sequence : ℕ) : Bool :=
  decide (p.unixSecs < unixSecs) || decide (p.sysUptime ≤ sysUptime) ||
    decide (wrappingSub 32 sequence p.sequence < u32Max / 2)

/-- The time templates are judged at: the newest wall time of the source. -/
def referenceTime (c : TemplateCache) (source unixSecs : ℕ) : ℕ :=
  ((c.exporters source).map fun p => max p.unixSecs unixSecs).getD unixSecs

/-- Whether a datagram is taken to be another generation's than the clock. -/
def recognises (c : TemplateCache) (source sysUptime unixSecs : ℕ) : Bool :=
  (c.exporters source).any fun p => restarted p sysUptime unixSecs

/-- `should_advance`: whether a datagram sets the clock. -/
def advances (c : TemplateCache) (source sysUptime unixSecs sequence : ℕ) : Bool :=
  c.recognises source sysUptime unixSecs || (c.exporters source).isNone ||
    (c.exporters source).any fun p => newer p sysUptime unixSecs sequence

/-- `begin_datagram`: the cache, whether a restart was recognised, and whether a template of the
source expired. -/
def beginDatagram (c : TemplateCache) (source sysUptime unixSecs sequence : ℕ) :
    TemplateCache × Bool × Bool :=
  let now := c.referenceTime source unixSecs
  let kept := c.templates.filter fun t => !expiredAt source now t
  let restarted := c.recognises source sysUptime unixSecs
  ({ c with
      templates := if restarted then kept.filter fun t => decide (t.source ≠ source) else kept
      exporters :=
        if c.advances source sysUptime unixSecs sequence then
          Function.update c.exporters source (some ⟨sysUptime, now, sequence⟩)
        else c.exporters },
    restarted, decide (kept.length ≠ c.templates.length))

end TemplateCache

/-! ### Exporters -/

/-- An exporter and all it ever sends, numbered in the order it is sent. -/
structure Exporter where
  /-- The source id of a datagram. -/
  source : ℕ → ℕ
  /-- The time a datagram is sent, in milliseconds. -/
  time : ℕ → ℕ
  /-- How often the exporter had restarted by then. -/
  generation : ℕ → ℕ
  /-- The time a generation started. -/
  boot : ℕ → ℕ
  /-- The wall time in a datagram, in seconds. -/
  unix : ℕ → ℕ
  sequence : ℕ → ℕ
  /-- The templates in a datagram. -/
  learned : ℕ → List (ℕ × Template)
  time_mono : Monotone time
  generation_mono : Monotone generation
  unix_mono : Monotone unix
  boot_le : ∀ i, boot (generation i) ≤ time i
  le_boot : ∀ i j, generation i < generation j → time i ≤ boot (generation j)

namespace Exporter

variable (e : Exporter)

/-- The milliseconds since the last start. -/
def elapsed (i : ℕ) : ℕ := e.time i - e.boot (e.generation i)

/-- The uptime in a datagram. -/
def uptime (i : ℕ) : ℕ := shown 32 (e.elapsed i)

/-- The cache when a datagram begins, and whether a restart was recognised. -/
def begin (c : TemplateCache) (i : ℕ) : TemplateCache × Bool × Bool :=
  c.beginDatagram (e.source i) (e.uptime i) (e.unix i) (e.sequence i)

/-- The cache after a datagram. -/
def receive (c : TemplateCache) (i : ℕ) : TemplateCache :=
  (e.learned i).foldl (fun c t => c.insert (e.source i) t.1 t.2) (e.begin c i).1

/-- The datagrams that arrive, in the order they arrive: any number of them is lost, any number
comes twice, and none is overtaken by one that was sent more than the tolerance later. -/
def Delivered (run : List ℕ) : Prop :=
  run.Pairwise fun i j => e.time i ≤ e.time j + reorderUptimeToleranceMs

/-- The cache after the datagrams that arrived, and the datagram each clock was set by. -/
def track (s : TemplateCache × (ℕ → Option ℕ)) (i : ℕ) : TemplateCache × (ℕ → Option ℕ) :=
  (e.receive s.1 i,
    if s.1.advances (e.source i) (e.uptime i) (e.unix i) (e.sequence i) then
      Function.update s.2 (e.source i) (some i)
    else s.2)

/-- The cache after the datagrams that arrived. -/
def cache (run : List ℕ) : TemplateCache := run.foldl e.receive {}

/-- The datagram the clock of a source was last set by. -/
def holder (run : List ℕ) : ℕ → Option ℕ := (run.foldl e.track ({}, fun _ => none)).2

/-- The first datagram to arrive of a source that was restarted since. -/
def Restarts (earlier : List ℕ) (i : ℕ) : Prop :=
  (∃ j ∈ earlier, e.source j = e.source i) ∧
    ∀ j ∈ earlier, e.source j = e.source i → e.generation j < e.generation i

/-- A template that a datagram had refreshed within the time to live. -/
def Refreshed (earlier : List ℕ) (i : ℕ) (t : CachedTemplate) : Prop :=
  ∃ j ∈ earlier, e.source j = t.source ∧ t.id ∈ (e.learned j).map Prod.fst ∧
    e.unix i ≤ e.unix j + templateTtlSeconds

/-- **No datagram is mistaken for another generation's**: a restart is reported of the first
datagram after it at most, and no other datagram drops a template that was refreshed in time. -/
def NeverMistaken (run : List ℕ) : Prop :=
  ∀ earlier i later, run = earlier ++ i :: later → ¬ e.Restarts earlier i →
    (e.begin (e.cache earlier) i).2.1 = false ∧
      ∀ t ∈ (e.cache earlier).templates, (t.source = e.source i → e.Refreshed earlier i t) →
        t ∈ (e.begin (e.cache earlier) i).1.templates

/-- A datagram of a later generation than another, or sent after a later wrap of the uptime. -/
def Crosses (j i : ℕ) : Prop :=
  e.generation j < e.generation i ∨
    (e.generation j = e.generation i ∧ epoch 32 (e.elapsed j) < epoch 32 (e.elapsed i))

/-- A crossing that shows no fall of the uptime, or one close to the wrap, or is late. -/
def Seamless (earlier : List ℕ) (j i : ℕ) : Prop :=
  e.uptime j ≤ e.uptime i + reorderUptimeToleranceMs ∨
    (u32Max - reorderUptimeToleranceMs < e.uptime j ∧ e.uptime i < reorderUptimeToleranceMs) ∨
    ∃ k ∈ earlier, e.source k = e.source i ∧ e.unix i < e.unix k

/-- Every crossing from the datagram that set the clock is seamless, the first datagram after a
restart apart. -/
def CrossesSeamlessly (run : List ℕ) : Prop :=
  ∀ earlier i later, run = earlier ++ i :: later → ¬ e.Restarts earlier i →
    ∀ j, e.holder earlier (e.source i) = some j → e.Crosses j i → e.Seamless earlier j i

end Exporter

/-! ### What a datagram does to the cache -/

namespace TemplateCache

section Steps

variable {c : TemplateCache} {source sysUptime unixSecs sequence : ℕ}

theorem restarted_eq_true {p : ExporterClock} : restarted p sysUptime unixSecs = true ↔
    ¬ (u32Max - reorderUptimeToleranceMs < p.sysUptime ∧ sysUptime < reorderUptimeToleranceMs) ∧
      sysUptime + reorderUptimeToleranceMs < p.sysUptime ∧ p.unixSecs ≤ unixSecs := by
  simp only [restarted, wrapped, Bool.and_eq_true, Bool.not_eq_true', decide_eq_true_eq,
    Bool.and_eq_false_iff, decide_eq_false_iff_not, not_and_or, Nat.lt_sub_iff_add_lt, and_assoc]
  rw [Nat.add_comm sysUptime]

theorem exporters_insert {id : ℕ} {template : Template} :
    (c.insert source id template).exporters = c.exporters := rfl

theorem mem_of_mem_evict {ts : List CachedTemplate} {t : CachedTemplate} (h : t ∈ evict ts) :
    t ∈ ts := by
  rw [evict] at h
  split at h
  · exact h
  · exact (List.mem_filter.mp h).1

/-- What an insertion leaves: the other templates, and the new one. -/
theorem eq_of_mem_insert {id : ℕ} {template : Template} {t : CachedTemplate}
    (h : t ∈ (c.insert source id template).templates) :
    (t ∈ c.templates ∧ ¬ (t.source = source ∧ t.id = id)) ∨
      t = ⟨source, id, template, (c.tick + 1) % 2 ^ 64,
        ((c.exporters source).map ExporterClock.unixSecs).getD 0⟩ := by
  rw [insert] at h
  rcases List.mem_append.mp h with hold | hnew
  · obtain ⟨hmem, hkey⟩ := List.mem_filter.mp hold
    simp only [Bool.not_eq_true', Bool.and_eq_false_iff, decide_eq_false_iff_not] at hkey
    refine Or.inl ⟨?_, not_and_or.mpr hkey⟩
    split at hmem
    · exact mem_of_mem_evict hmem
    · exact hmem
  · exact Or.inr (List.mem_singleton.mp hnew)

/-- What an insertion leaves: the other templates, and the new one, refreshed now. -/
theorem mem_insert {id : ℕ} {template : Template} {t : CachedTemplate}
    (h : t ∈ (c.insert source id template).templates) :
    (t ∈ c.templates ∧ ¬ (t.source = source ∧ t.id = id)) ∨
      (t.source = source ∧ t.id = id ∧
        t.refreshed = ((c.exporters source).map ExporterClock.unixSecs).getD 0) := by
  rcases eq_of_mem_insert h with hold | rfl
  · exact Or.inl hold
  · exact Or.inr ⟨rfl, rfl, rfl⟩

theorem exporters_foldl_insert (ts : List (ℕ × Template)) (c : TemplateCache) :
    (ts.foldl (fun c t => c.insert source t.1 t.2) c).exporters = c.exporters := by
  induction ts generalizing c with
  | nil => rfl
  | cons t ts ih => exact (ih _).trans exporters_insert

theorem mem_foldl_insert (ts : List (ℕ × Template)) {c : TemplateCache} {t : CachedTemplate}
    (h : t ∈ (ts.foldl (fun c t => c.insert source t.1 t.2) c).templates) :
    (t ∈ c.templates ∧ ¬ (t.source = source ∧ t.id ∈ ts.map Prod.fst)) ∨
      (t.source = source ∧ t.refreshed =
        ((c.exporters source).map ExporterClock.unixSecs).getD 0) := by
  induction ts generalizing c with
  | nil => exact Or.inl ⟨h, by simp⟩
  | cons l ts ih =>
    rcases ih h with ⟨hmem, hother⟩ | ⟨hsource, hrefreshed⟩
    · rcases mem_insert hmem with ⟨hold, hkey⟩ | ⟨hsource, -, hrefreshed⟩
      · refine Or.inl ⟨hold, ?_⟩
        rintro ⟨hsource, hid⟩
        rcases List.mem_cons.mp hid with hid | hid
        · exact hkey ⟨hsource, hid⟩
        · exact hother ⟨hsource, hid⟩
      · exact Or.inr ⟨hsource, hrefreshed⟩
    · exact Or.inr ⟨hsource, hrefreshed⟩

/-- The clock after a datagram of its source. -/
theorem exporters_beginDatagram_self :
    (c.beginDatagram source sysUptime unixSecs sequence).1.exporters source =
      if c.advances source sysUptime unixSecs sequence then
        some ⟨sysUptime, c.referenceTime source unixSecs, sequence⟩
      else c.exporters source := by
  rw [beginDatagram]
  dsimp only
  split
  · rw [Function.update_self]
  · rfl

theorem exporters_beginDatagram_of_ne {s : ℕ} (h : s ≠ source) :
    (c.beginDatagram source sysUptime unixSecs sequence).1.exporters s = c.exporters s := by
  rw [beginDatagram]
  dsimp only
  split
  · rw [Function.update_of_ne h]
  · rfl

/-- The templates a datagram leaves when no restart is recognised. -/
theorem mem_beginDatagram (h : c.recognises source sysUptime unixSecs = false)
    {t : CachedTemplate} :
    t ∈ (c.beginDatagram source sysUptime unixSecs sequence).1.templates ↔
      t ∈ c.templates ∧ (t.source = source →
        c.referenceTime source unixSecs ≤ t.refreshed + templateTtlSeconds) := by
  simp [beginDatagram, h, expiredAt, imp_iff_not_or, Nat.add_comm]

theorem mem_of_mem_beginDatagram {t : CachedTemplate}
    (h : t ∈ (c.beginDatagram source sysUptime unixSecs sequence).1.templates) :
    t ∈ c.templates := by
  rw [beginDatagram] at h
  dsimp only at h
  split at h
  · exact (List.mem_filter.mp (List.mem_filter.mp h).1).1
  · exact (List.mem_filter.mp h).1

end Steps

end TemplateCache

/-! ### The clock of a source -/

namespace Exporter

open TemplateCache

variable {e : Exporter}

theorem cache_concat (run : List ℕ) (i : ℕ) : e.cache (run ++ [i]) = e.receive (e.cache run) i := by
  rw [cache, List.foldl_append]
  rfl

theorem track_fst (run : List ℕ) (s : TemplateCache × (ℕ → Option ℕ)) :
    (run.foldl e.track s).1 = run.foldl e.receive s.1 := by
  induction run generalizing s with
  | nil => rfl
  | cons i run ih => exact ih _

theorem holder_concat (run : List ℕ) (i : ℕ) :
    e.holder (run ++ [i]) =
      if (e.cache run).advances (e.source i) (e.uptime i) (e.unix i) (e.sequence i) then
        Function.update (e.holder run) (e.source i) (some i)
      else e.holder run := by
  have hfst : (run.foldl e.track ({}, fun _ => none)).1 = e.cache run := track_fst run _
  rw [holder, List.foldl_append, List.foldl_cons, List.foldl_nil, track, hfst]
  rfl

theorem exporters_receive (c : TemplateCache) (i : ℕ) :
    (e.receive c i).exporters = (e.begin c i).1.exporters :=
  exporters_foldl_insert _ _

/-- What the clock of a source shows: the uptime of the datagram it was set by, and the newest
wall time of the source. -/
def Shows (e : Exporter) (run : List ℕ) (s : ℕ) (p : ExporterClock) : Prop :=
  (∃ j ∈ run, e.holder run s = some j ∧ e.source j = s ∧ p.sysUptime = e.uptime j) ∧
    (∀ k ∈ run, e.source k = s → e.unix k ≤ p.unixSecs) ∧
      ∃ k ∈ run, e.source k = s ∧ e.unix k = p.unixSecs

/-- The clocks and the stamps of the templates follow the datagrams that arrived. -/
structure Clocked (e : Exporter) (run : List ℕ) : Prop where
  unknown : ∀ s, (e.cache run).exporters s = none → e.holder run s = none ∧
    ∀ j ∈ run, e.source j ≠ s
  clocks : ∀ s p, (e.cache run).exporters s = some p → e.Shows run s p
  stamped : ∀ t ∈ (e.cache run).templates, ∀ j ∈ run, e.source j = t.source →
    t.id ∈ (e.learned j).map Prod.fst → e.unix j ≤ t.refreshed
  fresh : ∀ t ∈ (e.cache run).templates, ∀ p, (e.cache run).exporters t.source = some p →
    p.unixSecs ≤ t.refreshed + templateTtlSeconds

theorem clocked_nil : Clocked e [] where
  unknown _ _ := ⟨rfl, by simp⟩
  clocks s p h := by cases h
  stamped t ht := by cases ht
  fresh t ht := by cases ht

section Step

variable {run : List ℕ} {i : ℕ}

/-- A datagram that does not set the clock is not newer than it. -/
theorem exists_clock_of_not_advances
    (h : (e.cache run).advances (e.source i) (e.uptime i) (e.unix i) (e.sequence i) = false) :
    ∃ p, (e.cache run).exporters (e.source i) = some p ∧ e.unix i ≤ p.unixSecs := by
  simp only [advances, Bool.or_eq_false_iff] at h
  obtain ⟨⟨-, hsome⟩, hnewer⟩ := h
  rcases hclock : (e.cache run).exporters (e.source i) with _ | p
  · simp [hclock] at hsome
  · refine ⟨p, rfl, ?_⟩
    simp only [hclock, Option.any_some, newer, Bool.or_eq_false_iff, decide_eq_false_iff_not]
      at hnewer
    omega

/-- The newest wall time of the source of a datagram. -/
theorem Clocked.referenceTime (h : Clocked e run) :
    (∀ k ∈ run ++ [i], e.source k = e.source i →
      e.unix k ≤ (e.cache run).referenceTime (e.source i) (e.unix i)) ∧
      ∃ k ∈ run ++ [i], e.source k = e.source i ∧
        e.unix k = (e.cache run).referenceTime (e.source i) (e.unix i) := by
  rw [TemplateCache.referenceTime]
  rcases hclock : (e.cache run).exporters (e.source i) with _ | p
  · refine ⟨fun k hk hsource => ?_, i, by simp, rfl, rfl⟩
    rcases List.mem_append.mp hk with hk | hk
    · exact absurd hsource ((h.unknown _ hclock).2 k hk)
    · rw [List.mem_singleton.mp hk]
      rfl
  · obtain ⟨-, hbound, k, hk, hsource, hnewest⟩ := h.clocks _ _ hclock
    refine ⟨fun k hk hsource => ?_, ?_⟩
    · rcases List.mem_append.mp hk with hk | hk
      · exact le_max_of_le_left (hbound k hk hsource)
      · rw [List.mem_singleton.mp hk]
        exact le_max_right _ _
    · rcases le_total p.unixSecs (e.unix i) with hle | hle
      · exact ⟨i, by simp, rfl, (max_eq_right hle).symm⟩
      · exact ⟨k, List.mem_append_left _ hk, hsource, hnewest.trans (max_eq_left hle).symm⟩

/-- The clock of the source of a datagram, once it arrived. -/
theorem Clocked.shows_self (h : Clocked e run) :
    ∃ p, (e.begin (e.cache run) i).1.exporters (e.source i) = some p ∧
      e.Shows (run ++ [i]) (e.source i) p := by
  have hmem : i ∈ run ++ [i] := by simp
  rcases hadvances : (e.cache run).advances (e.source i) (e.uptime i) (e.unix i) (e.sequence i)
    with _ | _
  · -- the datagram is late: the clock stays, and it shows the newest wall time already
    obtain ⟨p, hclock, hunix⟩ := exists_clock_of_not_advances hadvances
    obtain ⟨⟨j, hj, hholder, hsource, huptime⟩, hbound, k, hk, hk'⟩ := h.clocks _ _ hclock
    refine ⟨p, ?_, ⟨j, List.mem_append_left _ hj, ?_, hsource, huptime⟩, fun k hk hsource => ?_, k,
      List.mem_append_left _ hk, hk'⟩
    · rw [Exporter.begin, exporters_beginDatagram_self, hadvances]
      exact hclock
    · rw [holder_concat, hadvances]
      exact hholder
    · rcases List.mem_append.mp hk with hk | hk
      · exact hbound k hk hsource
      · rwa [List.mem_singleton.mp hk]
  · obtain ⟨hbound, hnewest⟩ := h.referenceTime (i := i)
    refine ⟨⟨e.uptime i, (e.cache run).referenceTime (e.source i) (e.unix i), e.sequence i⟩, ?_,
      ⟨i, hmem, ?_, rfl, rfl⟩, hbound, hnewest⟩
    · rw [Exporter.begin, exporters_beginDatagram_self, hadvances]
      rfl
    · rw [holder_concat, hadvances, if_pos rfl, Function.update_self]

theorem holder_concat_of_ne {s : ℕ} (hs : s ≠ e.source i) :
    e.holder (run ++ [i]) s = e.holder run s := by
  rw [holder_concat]
  split
  · rw [Function.update_of_ne hs]
  · rfl

theorem exporters_concat_of_ne {s : ℕ} (hs : s ≠ e.source i) :
    (e.cache (run ++ [i])).exporters s = (e.cache run).exporters s := by
  rw [cache_concat, exporters_receive, Exporter.begin, exporters_beginDatagram_of_ne hs]

/-- A datagram of another source says nothing of a clock. -/
theorem Shows.concat_of_ne {s : ℕ} {p : ExporterClock} (h : e.Shows run s p) (hs : s ≠ e.source i) :
    e.Shows (run ++ [i]) s p := by
  obtain ⟨⟨j, hj, hholder, hsource, huptime⟩, hbound, k, hk, hk'⟩ := h
  refine ⟨⟨j, List.mem_append_left _ hj, ?_, hsource, huptime⟩, fun k hk hsource => ?_, k,
    List.mem_append_left _ hk, hk'⟩
  · rw [holder_concat_of_ne hs, hholder]
  · rcases List.mem_append.mp hk with hk | hk
    · exact hbound k hk hsource
    · exact absurd (List.mem_singleton.mp hk ▸ hsource).symm hs

/-- A template that a datagram leaves was refreshed within the time to live. -/
theorem Clocked.fresh_begin (h : Clocked e run) {t : CachedTemplate}
    (ht : t ∈ (e.begin (e.cache run) i).1.templates) {p : ExporterClock}
    (hp : (e.begin (e.cache run) i).1.exporters t.source = some p) :
    p.unixSecs ≤ t.refreshed + templateTtlSeconds := by
  have hmem : t ∈ (e.cache run).templates := mem_of_mem_beginDatagram ht
  rcases eq_or_ne t.source (e.source i) with hsource | hsource
  · rw [hsource, Exporter.begin, exporters_beginDatagram_self] at hp
    split at hp
    · obtain rfl := Option.some.inj hp
      rcases hrestart : (e.cache run).recognises (e.source i) (e.uptime i) (e.unix i) with _ | _
      · exact ((mem_beginDatagram hrestart).mp ht).2 hsource
      · simp [Exporter.begin, beginDatagram, hrestart, hsource] at ht
    · exact h.fresh t hmem p (hsource ▸ hp)
  · rw [Exporter.begin, exporters_beginDatagram_of_ne hsource] at hp
    exact h.fresh t hmem p hp

/-- **A datagram keeps the clocks and the stamps.** -/
theorem Clocked.concat (h : Clocked e run) : Clocked e (run ++ [i]) := by
  obtain ⟨p, hclock, hshows⟩ := h.shows_self (i := i)
  have hself : (e.cache (run ++ [i])).exporters (e.source i) = some p := by
    rw [cache_concat, exporters_receive, hclock]
  -- a template kept is one of before, or one that this datagram stamped with its clock
  have htemplate : ∀ t ∈ (e.cache (run ++ [i])).templates,
      (t ∈ (e.begin (e.cache run) i).1.templates ∧
        ¬ (t.source = e.source i ∧ t.id ∈ (e.learned i).map Prod.fst)) ∨
      (t.source = e.source i ∧ t.refreshed = p.unixSecs) := by
    intro t ht
    rw [cache_concat] at ht
    rcases mem_foldl_insert _ ht with hold | ⟨hsource, hrefreshed⟩
    · exact Or.inl hold
    · rw [hclock] at hrefreshed
      exact Or.inr ⟨hsource, hrefreshed⟩
  constructor
  · intro s hnone
    rcases eq_or_ne s (e.source i) with rfl | hs
    · rw [hself] at hnone
      cases hnone
    · rw [exporters_concat_of_ne hs] at hnone
      obtain ⟨hholder, hj⟩ := h.unknown s hnone
      refine ⟨(holder_concat_of_ne hs).trans hholder, fun j hmem => ?_⟩
      rcases List.mem_append.mp hmem with hmem | hmem
      · exact hj j hmem
      · rw [List.mem_singleton.mp hmem]
        exact hs.symm
  · intro s p' hp'
    rcases eq_or_ne s (e.source i) with rfl | hs
    · obtain rfl : p = p' := Option.some.inj (hself.symm.trans hp')
      exact hshows
    · rw [exporters_concat_of_ne hs] at hp'
      exact (h.clocks s p' hp').concat_of_ne hs
  -- a template of before carries an id this datagram did not learn
  · intro t ht j hj hsource hid
    rcases htemplate t ht with ⟨hbegin, hother⟩ | ⟨ht', hrefreshed⟩
    · rcases List.mem_append.mp hj with hj | hj
      · exact h.stamped t (mem_of_mem_beginDatagram hbegin) j hj hsource hid
      · obtain rfl := List.mem_singleton.mp hj
        exact absurd ⟨hsource.symm, hid⟩ hother
    · rw [hrefreshed]
      exact hshows.2.1 j hj (hsource.trans ht')
  · intro t ht p' hp'
    rw [cache_concat, exporters_receive] at hp'
    rcases htemplate t ht with ⟨hbegin, -⟩ | ⟨hsource, hrefreshed⟩
    · exact h.fresh_begin hbegin hp'
    · rw [hsource, hclock] at hp'
      obtain rfl : p = p' := Option.some.inj hp'
      omega

theorem clocked (run : List ℕ) : Clocked e run := by
  induction run using List.reverseRecOn with
  | nil => exact clocked_nil
  | append_singleton run i ih => exact ih.concat

end Step

/-! ### Restarts -/

section Restarts

variable {earlier : List ℕ} {i j : ℕ}

/-- **Within a generation, between two wraps, an uptime does not fall beyond the tolerance**; and
what is left of the old generation is as old as the new one at most. -/
theorem uptime_le_of_not_crosses (htime : e.time j ≤ e.time i + reorderUptimeToleranceMs)
    (h : ¬ e.Crosses j i) : e.uptime j ≤ e.uptime i + reorderUptimeToleranceMs := by
  obtain ⟨hgeneration, hepoch⟩ := not_or.mp h
  have hboot := e.boot_le j
  have hboot' := e.boot_le i
  rcases (not_lt.mp hgeneration).lt_or_eq with hlt | heq
  · -- the clock is of a later generation, and that generation is younger than the tolerance
    have hstart := e.le_boot i j hlt
    have helapsed : e.elapsed j ≤ reorderUptimeToleranceMs := by
      rw [elapsed]
      omega
    have hshown : e.uptime j ≤ e.elapsed j := Nat.mod_le _ _
    omega
  · have helapsed : e.elapsed j ≤ e.elapsed i + reorderUptimeToleranceMs := by
      rw [elapsed, elapsed, heq]
      rw [heq] at hboot'
      omega
    rcases (not_lt.mp fun hlt => hepoch ⟨heq.symm, hlt⟩).lt_or_eq with hlt | hsame
    · have hshown : e.uptime j < reorderUptimeToleranceMs := shown_lt_of_epoch_lt hlt helapsed
      omega
    · exact shown_le_of_epoch_eq hsame.symm helapsed

/-- A restart is recognised exactly when the clock was set across a seam. -/
theorem recognises_eq_false_iff
    (htime : ∀ j ∈ earlier, e.time j ≤ e.time i + reorderUptimeToleranceMs) :
    (e.cache earlier).recognises (e.source i) (e.uptime i) (e.unix i) = false ↔
      ∀ j, e.holder earlier (e.source i) = some j → e.Crosses j i → e.Seamless earlier j i := by
  have hclocked : Clocked e earlier := clocked earlier
  rcases hclock : (e.cache earlier).exporters (e.source i) with _ | p
  · obtain ⟨hholder, -⟩ := hclocked.unknown _ hclock
    refine ⟨fun _ j hj => ?_, fun _ => ?_⟩
    -- nothing was received from the source: there is no clock to fall behind
    · rw [hholder] at hj
      cases hj
    · rw [recognises, hclock]
      rfl
  · obtain ⟨⟨j, hj, hholder, -, huptime⟩, hbound, k, hk, hsource, hnewest⟩ :=
      hclocked.clocks _ _ hclock
    have hrecognises : (e.cache earlier).recognises (e.source i) (e.uptime i) (e.unix i) =
        restarted p (e.uptime i) (e.unix i) := by
      rw [recognises, hclock]
      rfl
    rw [hrecognises, ← Bool.not_eq_true, restarted_eq_true, huptime]
    constructor
    · intro hnot j' hj' _
      obtain rfl : j = j' := Option.some.inj (hholder.symm.trans hj')
      -- the uptime wrapped around, fell behind an unsettled clock, or never fell far enough
      -- without a restart the uptime wrapped around, fell less than the tolerance, or the clock
      -- fell too
      by_cases hwrap : u32Max - reorderUptimeToleranceMs < e.uptime j ∧
        e.uptime i < reorderUptimeToleranceMs
      · exact Or.inr (Or.inl hwrap)
      by_cases hfall : e.uptime i + reorderUptimeToleranceMs < e.uptime j
      · have hlate : ¬ p.unixSecs ≤ e.unix i := fun hle => hnot ⟨hwrap, hfall, hle⟩
        exact Or.inr (Or.inr ⟨k, hk, hsource, by omega⟩)
      · exact Or.inl (not_lt.mp hfall)
    · rintro hseamless ⟨hwrap, hfall, hunix⟩
      by_cases hcrosses : e.Crosses j i
      · rcases hseamless j hholder hcrosses with hle | hclose | ⟨k', hk', hsource', hlate⟩
        · omega
        · exact hwrap hclose
        · have hle := hbound k' hk' hsource'
          omega
      -- within one boot the uptime grows with the time
      · have hle := uptime_le_of_not_crosses (htime j hj) hcrosses
        omega

/-- Where no restart is recognised, a template that was refreshed in time stays. -/
theorem mem_begin_of_refreshed
    (h : (e.cache earlier).recognises (e.source i) (e.uptime i) (e.unix i) = false)
    {t : CachedTemplate}
    (ht : t ∈ (e.cache earlier).templates)
    (hrefreshed : t.source = e.source i → e.Refreshed earlier i t) :
    t ∈ (e.begin (e.cache earlier) i).1.templates := by
  refine (mem_beginDatagram h).mpr ⟨ht, fun hsource => ?_⟩
  obtain ⟨j, hj, hjsource, hid, hunix⟩ := hrefreshed hsource
  have hclocked : Clocked e earlier := clocked earlier
  have hstamp := hclocked.stamped t ht j hj hjsource hid
  rw [TemplateCache.referenceTime]
  rcases hclock : (e.cache earlier).exporters (e.source i) with _ | p
  · exact absurd (hjsource.trans hsource) ((hclocked.unknown _ hclock).2 j hj)
  · have hfresh := hclocked.fresh t ht p (hsource ▸ hclock)
    change max p.unixSecs (e.unix i) ≤ _
    exact max_le hfresh (by omega)

/-- **When a running exporter is not mistaken for a restarted one.** No datagram is taken to be
another generation's, and no template that was refreshed in time is dropped by it, if and only
if every datagram that crosses a wrap of the uptime, or a restart that was recognised before,
does so without a seam. -/
theorem neverMistaken_iff {run : List ℕ} (hrun : e.Delivered run) :
    e.NeverMistaken run ↔ e.CrossesSeamlessly run := by
  have htime : ∀ earlier i later, run = earlier ++ i :: later →
      ∀ j ∈ earlier, e.time j ≤ e.time i + reorderUptimeToleranceMs := by
    rintro earlier i later rfl j hj
    exact (List.pairwise_append.mp hrun).2.2 j hj i List.mem_cons_self
  constructor
  · intro hnever earlier i later hsplit hrestarts
    exact (recognises_eq_false_iff (htime earlier i later hsplit)).mp
      (hnever earlier i later hsplit hrestarts).1
  · intro hseamless earlier i later hsplit hrestarts
    have hrecognises := (recognises_eq_false_iff (htime earlier i later hsplit)).mpr
      (hseamless earlier i later hsplit hrestarts)
    exact ⟨hrecognises, fun t ht hrefreshed => mem_begin_of_refreshed hrecognises ht hrefreshed⟩

/-- A wrap that is crossed within the tolerance is seamless. -/
theorem seamless_of_close (hgeneration : e.generation j = e.generation i)
    (htime : e.time i ≤ e.time j + reorderUptimeToleranceMs) (hcrosses : e.Crosses j i) :
    e.Seamless earlier j i := by
  have hepoch : epoch 32 (e.elapsed j) < epoch 32 (e.elapsed i) := by
    rcases hcrosses with hlt | ⟨-, hlt⟩
    · omega
    · exact hlt
  have helapsed : e.elapsed i ≤ e.elapsed j + reorderUptimeToleranceMs := by
    have hboot := e.boot_le i
    rw [elapsed, elapsed, hgeneration]
    omega
  have hi := epoch_mul_add_shown 32 (e.elapsed i)
  have hj := epoch_mul_add_shown 32 (e.elapsed j)
  have hshown : shown 32 (e.elapsed i) < reorderUptimeToleranceMs :=
    shown_lt_of_epoch_lt hepoch helapsed
  refine Or.inr (Or.inl ⟨?_, hshown⟩)
  have hlast : u32Max - reorderUptimeToleranceMs < shown 32 (e.elapsed j) := by
    have htolerance : reorderUptimeToleranceMs = 60000 := rfl
    rw [u32Max]
    omega
  exact hlast

end Restarts

/-- An exporter that never restarts, and sends a datagram every `step` milliseconds. -/
def steady (start step : ℕ) : Exporter where
  source _ := 0
  time i := start + i * step
  generation _ := 0
  boot _ := 0
  unix i := (start + i * step) / 1000
  sequence i := i
  learned _ := []
  time_mono _ _ h := Nat.add_le_add_left (Nat.mul_le_mul_right _ h) _
  generation_mono _ _ _ := le_rfl
  unix_mono _ _ h := Nat.div_le_div_right (Nat.add_le_add_left (Nat.mul_le_mul_right _ h) _)
  boot_le _ := Nat.zero_le _
  le_boot _ _ h := absurd h (lt_irrefl _)

/-- An exporter that sends a datagram a second, and restarts before its third one. -/
def restartedOnce : Exporter where
  source _ := 0
  time i := 10000000 + i * 1000
  generation i := min 1 (i / 2)
  boot g := g * 10001500
  unix i := 10000 + i
  sequence i := i
  learned _ := []
  time_mono _ _ h := Nat.add_le_add_left (Nat.mul_le_mul_right _ h) _
  generation_mono _ _ h := min_le_min_left _ (Nat.div_le_div_right h)
  unix_mono _ _ h := Nat.add_le_add_left h _
  boot_le i := by omega
  le_boot i j h := by omega

/-- A wrap that is crossed by two datagrams less than a minute apart. -/
theorem neverMistaken_steady : (steady (2 ^ 32 - 10000) 40000).NeverMistaken [0, 1] := by
  refine (neverMistaken_iff (by unfold Delivered; decide)).mpr ?_
  intro earlier i later hsplit _ j hj hcrosses
  rcases earlier with _ | ⟨k, _ | ⟨k', earlier⟩⟩
  · cases hj
  · obtain ⟨rfl, rfl, -⟩ : k = 0 ∧ i = 1 ∧ later = [] := by simpa [eq_comm] using hsplit
    obtain rfl : 0 = j := Option.some.inj hj
    exact seamless_of_close rfl (by decide) hcrosses
  · have hlength := congrArg List.length hsplit
    simp only [List.length_cons, List.length_append, List.length_nil] at hlength
    omega

/-- A running exporter that was silent for four minutes around the wrap is taken for a restarted
one; and so is a restarted one again, when a datagram it sent before comes late. -/
theorem not_neverMistaken :
    ((steady (2 ^ 32 - 120000) 240000).Delivered [0, 1] ∧
        ¬ (steady (2 ^ 32 - 120000) 240000).NeverMistaken [0, 1]) ∧
      (restartedOnce.Delivered [0, 2, 1, 3] ∧ ¬ restartedOnce.NeverMistaken [0, 2, 1, 3]) := by
  refine ⟨⟨by unfold Delivered; decide, fun h => ?_⟩, by unfold Delivered; decide, fun h => ?_⟩
  · have hrestarts : ¬ (steady (2 ^ 32 - 120000) 240000).Restarts [0] 1 := fun hr =>
      lt_irrefl 0 (hr.2 0 (by decide) rfl)
    have hnot := (h [0] 1 [] rfl hrestarts).1
    revert hnot
    decide +kernel
  · have hrestarts : ¬ restartedOnce.Restarts [0, 2, 1] 3 := fun hr =>
      absurd (hr.2 2 (by decide) rfl) (by decide)
    have hnot := (h [0, 2, 1] 3 [] rfl hrestarts).1
    revert hnot
    decide +kernel

end Exporter

end Rerouter.Flow
