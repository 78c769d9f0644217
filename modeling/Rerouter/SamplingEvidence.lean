import Rerouter.FlowCollector
import Rerouter.Lib.Run

/-!
# The sampling of an exporter

What an exporter counts is a sample, and the collector multiplies it by a rate: the one the
exporter reports, or one that a flush derives from a bucket and the counters of the interface.
Both belong to a generation of the exporter. `Rerouter.Flow.TemplateCache.beginDatagram`
recognises that a generation is over, from a datagram that restarts the uptime or from the
sampling templates that expired, and a rate that is used later has to be learned later.

`Rerouter.Collector.Evidence` keeps with each rate the generation it was learned in, and with each
bucket the one it was opened in; nothing the collector does reads them. The rates are current
along a run exactly if each of its steps is sound
(`Rerouter.Collector.Evidence.current_iff_sound`), and there are three ways of not being it: a
datagram that is recognised and then cannot be decoded, a flush that writes when its generation is
over, and a rate derived from a bucket that was opened before.
-/

namespace Rerouter.Collector

open Rerouter.Flow

/-! ### The rates of an exporter -/

namespace Exporter

variable (x : Exporter) (ts : ℕ) (f : Accum → Accum)

/-- The two rates that are learned. -/
def rates : Option ℕ × Option ℕ := (x.reportedRate, x.snmpDerivedRate)

@[simp] theorem rates_modifyBucket : (x.modifyBucket ts f).rates = x.rates := rfl

@[simp] theorem rates_openBucket : (x.openBucket ts).rates = x.rates := rfl

@[simp] theorem rates_entry : (x.entry ts f).rates = x.rates := by
  unfold entry
  split_ifs
  · rfl
  · rfl
  · split
    · rfl
    · split_ifs <;> rfl

@[simp] theorem rates_markPrevious (missing : ℕ) : (x.markPrevious ts missing).rates = x.rates := by
  unfold markPrevious
  split
  · rfl
  · split_ifs <;> rfl

@[simp] theorem rates_observeSequence (sequence uptime : ℕ) (restart : Bool) (now : ℕ) :
    (x.observeSequence sequence uptime restart now ts).1.rates = x.rates := by
  unfold observeSequence
  split
  · rfl
  · have h : ∀ (b : Bool) (y z : Exporter), y.rates = x.rates → z.rates = x.rates →
        (if b then y else z).rates = x.rates := by
      intro b y z hy hz
      cases b
      · exact hz
      · exact hy
    dsimp only
    have hmarked := (rates_markPrevious (if x.uptimeRegressed uptime then
      x.entry ts fun a => { a with baseComplete := false } else x) ts (x.missing sequence)).trans
        (h _ _ _ (rates_entry ..) rfl)
    exact h _ _ _ hmarked hmarked

@[simp] theorem rates_refuse (buf : List UInt8) (now : ℕ) :
    (x.refuse buf now ts).rates = x.rates := by
  unfold refuse
  split
  · exact (rates_entry ..).trans (rates_observeSequence ..)
  · exact rates_entry ..

@[simp] theorem rates_takeClosed (width now : ℕ) : (x.takeClosed width now).2.rates = x.rates := rfl

@[simp] theorem rates_requeue (b : ℕ × Accum) : (x.requeue b).rates = x.rates := by
  unfold requeue
  split_ifs
  · rfl
  · exact rates_entry ..

/-- A datagram that is not counted: a duplicate, or one that was overtaken. -/
def overtaken (d : Decoded) (now bucketTs : ℕ) : Bool :=
  let y := (x.observeSequence d.sequence d.sysUptime d.exporterRestarted now bucketTs).1
  x.lastSequence.isSome && decide (y.lastSequence = x.lastSequence) &&
    decide (y.generationStartedAt = x.generationStartedAt) && !d.exporterRestarted

/-- Whether the generation of the rates is over with a datagram. -/
def recognises (buf : List UInt8) : Bool :=
  match readHeader buf with
  | .error _ => false
  | .ok (h, _) =>
    let (_, restarted, expired) :=
      x.templates.beginDatagram h.sourceId h.sysUptime h.unixSecs h.sequence
    restarted || expired

/-- The rate that is learned from a datagram. -/
def learns (width now : ℕ) (buf : List UInt8) : Option ℕ :=
  match decode buf x.templates with
  | (templates, .ok d) =>
    let y : Exporter := { x with templates }
    let y := if d.exporterRestarted || d.samplingStateExpired then y.forget else y
    if y.overtaken d now (now / width * width) then none else d.reportedSampling
  | (_, .error _) => none

end Exporter

/-! ### What is recognised is reported -/

/-- What is known of the generation of a datagram, and its place in it, are known from its
header. -/
structure SameFlags (out out' : Decoded) : Prop where
  restarted : out'.exporterRestarted = out.exporterRestarted
  expired : out'.samplingStateExpired = out.samplingStateExpired
  sysUptime : out'.sysUptime = out.sysUptime
  sequence : out'.sequence = out.sequence

theorem sameFlags_parseFlowset {id : ℕ} {body : List UInt8} {cache cache' : TemplateCache}
    {out out' : Decoded}
    (h : parseFlowset id body cache out = (cache', .ok out')) : SameFlags out out' := by
  have hmap : ∀ {α : Type} {r : Except FlowError α} {g : α → Decoded},
      r.map g = .ok out' → (∀ a, SameFlags out (g a)) → SameFlags out out' := by
    intro α r g hr hg
    cases r with
    | error e => cases hr
    | ok a =>
      obtain rfl : g a = out' := Except.ok.inj hr
      exact hg a
  unfold parseFlowset at h
  split_ifs at h
  · exact hmap (Prod.ext_iff.mp h).2 fun _ => ⟨rfl, rfl, rfl, rfl⟩
  · exact hmap (Prod.ext_iff.mp h).2 fun _ => ⟨rfl, rfl, rfl, rfl⟩
  · split at h
    · obtain rfl := Except.ok.inj (Prod.ext_iff.mp h).2
      exact ⟨rfl, rfl, rfl, rfl⟩
    · split_ifs at h
      · obtain rfl := Except.ok.inj (Prod.ext_iff.mp h).2
        exact ⟨rfl, rfl, rfl, rfl⟩
      · exact hmap (Prod.ext_iff.mp h).2 fun _ => ⟨rfl, rfl, rfl, rfl⟩
  · obtain rfl := Except.ok.inj (Prod.ext_iff.mp h).2
    exact ⟨rfl, rfl, rfl, rfl⟩

theorem sameFlags_walk {fuel : ℕ} {r : List UInt8} {cache cache' : TemplateCache}
    {out out' : Decoded} (h : walk fuel r cache out = (cache', .ok out')) : SameFlags out out' := by
  induction fuel generalizing r cache out with
  | zero =>
    obtain rfl := Except.ok.inj (Prod.ext_iff.mp h).2
    exact ⟨rfl, rfl, rfl, rfl⟩
  | succ fuel ih =>
    unfold walk at h
    split_ifs at h
    · cases hread : readFlowset r with
      | error e =>
        rw [hread] at h
        cases (Prod.ext_iff.mp h).2
      | ok s =>
        obtain ⟨id, body, rest⟩ := s
        cases hparse : parseFlowset id body cache out with
        | mk cache₁ parsed =>
          rw [hread] at h
          dsimp only at h
          rw [hparse] at h
          cases parsed with
          | error e => cases (Prod.ext_iff.mp h).2
          | ok out₁ =>
            -- a flowset that decodes keeps the flags, and so does the rest of the walk
            have h₁ := sameFlags_parseFlowset hparse
            have h₂ := ih h
            exact ⟨h₂.restarted.trans h₁.restarted, h₂.expired.trans h₁.expired,
              h₂.sysUptime.trans h₁.sysUptime, h₂.sequence.trans h₁.sequence⟩
    · have hpadding := (Prod.ext_iff.mp h).2
      cases hv : validatePadding r with
      | error e =>
        rw [hv] at hpadding
        cases hpadding
      | ok u =>
        rw [hv] at hpadding
        obtain rfl := Except.ok.inj hpadding
        exact ⟨rfl, rfl, rfl, rfl⟩

/-- A datagram that is decoded reports whether it was recognised. -/
theorem flags_decode {x : Exporter} {buf : List UInt8} {cache : TemplateCache} {d : Decoded}
    (h : decode buf x.templates = (cache, .ok d)) :
    (d.exporterRestarted || d.samplingStateExpired) = x.recognises buf := by
  unfold decode at h
  unfold Exporter.recognises
  cases hheader : readHeader buf with
  | error e =>
    rw [hheader] at h
    cases (Prod.ext_iff.mp h).2
  | ok p =>
    rw [hheader] at h
    have hflags := sameFlags_walk h
    rw [hflags.restarted, hflags.expired]
    rfl

/-! ### The rates after a datagram -/

namespace Exporter

variable (x : Exporter)

theorem rates_accept (d : Decoded) (now ts : ℕ) :
    (x.accept d now ts).rates =
      let y := if d.exporterRestarted || d.samplingStateExpired then x.forget else x
      ((if y.overtaken d now ts then none else d.reportedSampling).or y.reportedRate,
        y.snmpDerivedRate) := by
  generalize hy : (if d.exporterRestarted || d.samplingStateExpired then x.forget else x) = y
  have hrates := rates_observeSequence y ts d.sequence d.sysUptime d.exporterRestarted now
  unfold accept overtaken
  rw [hy]
  dsimp only
  split_ifs
  · rw [rates_entry, hrates]
    rfl
  · rw [rates_entry]
    exact Prod.ext (congrArg (d.reportedSampling.or ·) (Prod.ext_iff.mp hrates).1)
      (Prod.ext_iff.mp hrates).2
  · exact Prod.ext (congrArg (d.reportedSampling.or ·) (Prod.ext_iff.mp hrates).1)
      (Prod.ext_iff.mp hrates).2

/-- **The rates after a datagram that is decoded**: those of a generation that is over are
forgotten. -/
theorem rates_receive_of_ok (width now : ℕ) {buf : List UInt8} {cache : TemplateCache} {d : Decoded}
    (h : decode buf x.templates = (cache, .ok d)) :
    (x.receive width now buf).rates =
      ((x.learns width now buf).or (if x.recognises buf then none else x.reportedRate),
        if x.recognises buf then none else x.snmpDerivedRate) := by
  unfold receive learns
  rw [h]
  dsimp only
  rw [rates_accept, flags_decode h]
  cases x.recognises buf <;> rfl

/-- **The rates after a datagram that is not decoded** are those before. -/
theorem rates_receive_of_error (width now : ℕ) {buf : List UInt8} {cache : TemplateCache}
    {e : FlowError} (h : decode buf x.templates = (cache, .error e)) :
    (x.receive width now buf).rates = x.rates ∧ x.learns width now buf = none := by
  unfold receive learns
  rw [h]
  exact ⟨rates_refuse .., rfl⟩

end Exporter

/-! ### Flushes -/

/-- What a flush took of the exporter, `ExporterFlush`: each rate with the generation it was learned
in, each bucket with the one it was opened in. -/
structure Flush where
  /-- The generation the buckets were taken in. -/
  startedIn : ℕ
  reported : Option (ℕ × ℕ)
  snmpDerived : Option (ℕ × ℕ)
  /-- The buckets that were not written yet, the newest first. -/
  closed : List ((ℕ × Accum) × ℕ)
  /-- No bucket was written yet. -/
  newest : Bool := true
  /-- The rate it derived from a bucket. -/
  derived : Option (ℕ × ℕ) := none

/-- The rate a flush ends with. -/
def Flush.carried (f : Flush) : Option (ℕ × ℕ) := f.derived.or f.snmpDerived

/-- One bucket is written. Only the newest is compared with the counters of the interface, and only
where the exporter reports no rate; `derived` is what the comparison finds, none with a rate that
is configured. -/
def Flush.write (f : Flush) (derived : Option ℕ) : Flush :=
  match f.closed with
  | [] => f
  | b :: closed =>
    { f with
      closed
      newest := false
      derived := if f.newest && f.reported.isNone then derived.map (·, b.2) else f.derived }

/-- An exporter, with the generations that its rates were learned in and its buckets were opened
in, and the flush that is under way. -/
structure Evidence where
  exporter : Exporter
  /-- How often it was recognised that a generation was over. -/
  generation : ℕ := 0
  reportedIn : ℕ := 0
  derivedIn : ℕ := 0
  openedIn : ℕ → ℕ := fun _ => 0
  flush : Option Flush := none

/-- What happens to an exporter. -/
inductive EvidenceEvent where
  | receive (now : ℕ) (buf : List UInt8)
  | flushStart (now : ℕ)
  | writeBucket (derived : Option ℕ)
  | flushDone
  | flushFail

namespace Evidence

-- the buckets have a width, and only those of an exporter of a device are written
variable (width : ℕ) (mapped : Bool)

/-- The rate the exporter reports. -/
def reported (s : Evidence) : Option (ℕ × ℕ) := s.exporter.reportedRate.map (·, s.reportedIn)

/-- The rate that was derived. -/
def snmpDerived (s : Evidence) : Option (ℕ × ℕ) := s.exporter.snmpDerivedRate.map (·, s.derivedIn)

/-- The flush that writes its next bucket. -/
def writing (s : Evidence) : Option Flush := s.flush.filter fun f => mapped && !f.closed.isEmpty

/-- The flush that has no more to write. -/
def finishing (s : Evidence) : Option Flush := s.flush.filter fun f => !mapped || f.closed.isEmpty

/-- A datagram. -/
def receive (s : Evidence) (now : ℕ) (buf : List UInt8) : Evidence :=
  let generation := if s.exporter.recognises buf then s.generation + 1 else s.generation
  { s with
    exporter := s.exporter.receive width now buf
    generation
    reportedIn := if (s.exporter.learns width now buf).isSome then generation else s.reportedIn
    openedIn := fun ts => if (s.exporter.bucket ts).isSome then s.openedIn ts else generation }

/-- A flush takes the buckets whose time is over. -/
def flushStart (s : Evidence) (now : ℕ) : Evidence :=
  match s.flush with
  | some _ => s
  | none =>
    let (closed, exporter) := s.exporter.takeClosed width now
    { s with
      exporter
      flush := some
        { startedIn := s.generation
          reported := s.reported
          snmpDerived := s.snmpDerived
          closed := (closed.insertionSort fun b c => c.1 ≤ b.1).map fun b => (b, s.openedIn b.1) } }

/-- A bucket of a flush that failed goes back. -/
def requeue (s : Evidence) (b : (ℕ × Accum) × ℕ) : Evidence :=
  { s with
    exporter := s.exporter.requeue b.1
    openedIn := Function.update s.openedIn b.1.1
      (if (s.exporter.bucket b.1.1).isSome then min (s.openedIn b.1.1) b.2 else b.2) }

/-- A flush that is done writes back the rate it carries. -/
def flushDone (s : Evidence) : Evidence :=
  match s.finishing mapped with
  | none => s
  | some f =>
    match f.carried with
    | none => { s with flush := none }
    | some r =>
      { s with
        exporter := { s.exporter with snmpDerivedRate := some r.1 }, derivedIn := r.2,
        flush := none }

/-- What an event does. -/
def step (s : Evidence) : EvidenceEvent → Evidence
  | .receive now buf => s.receive width now buf
  | .flushStart now => s.flushStart width now
  | .writeBucket derived =>
    match s.writing mapped with
    | none => s
    | some f => { s with flush := some (f.write derived) }
  | .flushDone => s.flushDone mapped
  | .flushFail =>
    match s.flush with
    | none => s
    | some f => { f.closed.reverse.foldl requeue s with flush := none }

/-- The rates that the next flush takes. -/
def held (s : Evidence) : List (ℕ × ℕ) := s.reported.toList ++ s.snmpDerived.toList

/-- The rates that are used in a step: the buckets are multiplied by those that the flush took, and
those it ends with are stored. -/
def uses (s : Evidence) : EvidenceEvent → List (ℕ × ℕ)
  | .writeBucket _ => (s.writing mapped).elim [] fun f => f.reported.toList ++ f.snmpDerived.toList
  | .flushDone => (s.finishing mapped).elim [] fun f => f.reported.toList ++ f.carried.toList
  | _ => []

/-- **The rates are current** in a step and after it: all that are used were learned after the last
generation was over. -/
def Current (s : Evidence) (e : EvidenceEvent) : Prop :=
  (∀ r ∈ s.uses mapped e, r.2 = s.generation) ∧
    ∀ r ∈ (s.step width mapped e).held, r.2 = (s.step width mapped e).generation

/-- **A step is sound**: a datagram that is recognised is decoded, unless there is no rate to
forget; a flush writes in the generation it started in, unless it has no rate; and it writes back no
rate that it derived from a bucket of an earlier one. -/
def Sound (s : Evidence) : EvidenceEvent → Prop
  | .receive _ buf =>
    s.exporter.recognises buf = true → (decode buf s.exporter.templates).2.isOk = true ∨
      s.exporter.rates = (none, none)
  | .writeBucket _ =>
    ∀ f ∈ s.writing mapped, f.startedIn = s.generation ∨ f.reported = none ∧ f.snmpDerived = none
  | .flushDone =>
    ∀ f ∈ s.finishing mapped,
      (f.startedIn = s.generation ∨ f.reported = none ∧ (f.snmpDerived = none ∨ f.derived.isSome)) ∧
        ∀ r ∈ f.derived, r.2 = s.generation
  | _ => True

/-! ### Soundness -/

variable {width mapped} {s : Evidence}

/-- The rates that are held are current if each is that there is. -/
theorem held_current_iff (s : Evidence) (g : ℕ) :
    (∀ r ∈ s.held, r.2 = g) ↔
      (s.exporter.reportedRate.isSome → s.reportedIn = g) ∧
      (s.exporter.snmpDerivedRate.isSome → s.derivedIn = g) := by
  unfold held reported snmpDerived
  cases s.exporter.reportedRate <;> cases s.exporter.snmpDerivedRate <;> simp

/-- A flush took rates that were current when it started. -/
structure Took (f : Flush) : Prop where
  reported : ∀ r ∈ f.reported, r.2 = f.startedIn
  snmpDerived : ∀ r ∈ f.snmpDerived, r.2 = f.startedIn

/-- **What is known of the generations**: the rates that are held are current, and those of a flush
were current when it started. -/
structure Learned (s : Evidence) : Prop where
  held : ∀ r ∈ s.held, r.2 = s.generation
  took : ∀ f ∈ s.flush, Took f

/-- The rates that a flush took are current exactly if it started in the generation, or took
none. -/
theorem taken_current_iff {rate : Option (ℕ × ℕ)} {startedIn g : ℕ}
    (h : ∀ r ∈ rate, r.2 = startedIn) :
    (∀ r ∈ rate, r.2 = g) ↔ startedIn = g ∨ rate = none := by
  cases rate with
  | none => simp
  | some r =>
    have hr : r.2 = startedIn := h r rfl
    simp [hr]

theorem forall_mem_both {a b : Option (ℕ × ℕ)} {p : ℕ × ℕ → Prop} :
    (∀ r ∈ a.toList ++ b.toList, p r) ↔ (∀ r ∈ a, p r) ∧ ∀ r ∈ b, p r := by
  simp [or_imp, forall_and]

/-- The rates a flush ends with are current exactly if the one it derived is, or else those it took
are. -/
theorem carried_current_iff {f : Flush} {g : ℕ} (hf : Took f) :
    ((∀ r ∈ f.reported, r.2 = g) ∧ ∀ r ∈ f.carried, r.2 = g) ↔
      (f.startedIn = g ∨ f.reported = none ∧ (f.snmpDerived = none ∨ f.derived.isSome)) ∧
      ∀ r ∈ f.derived, r.2 = g := by
  rw [taken_current_iff hf.reported]
  unfold Flush.carried
  cases hd : f.derived with
  | none =>
    rw [Option.none_or, taken_current_iff hf.snmpDerived, ← or_and_left]
    simp
  | some r => simp

/-- A datagram leaves the rates current exactly if it is sound. -/
theorem receive_current_iff (width : ℕ) (hs : s.Learned) (now : ℕ) (buf : List UInt8) :
    (∀ r ∈ (s.receive width now buf).held, r.2 = (s.receive width now buf).generation) ↔
      s.Sound mapped (.receive now buf) := by
  obtain ⟨hreported, hderived⟩ := (held_current_iff s _).mp hs.held
  rw [held_current_iff]
  unfold receive Sound
  dsimp only
  cases hd : decode buf s.exporter.templates with
  | mk cache out =>
    cases out with
    | error e =>
      obtain ⟨hrates, hlearns⟩ := s.exporter.rates_receive_of_error width now hd
      obtain ⟨hr, hx⟩ := Prod.ext_iff.mp hrates
      dsimp only [Exporter.rates] at hr hx
      rw [hr, hx, hlearns]
      cases hrec : s.exporter.recognises buf with
      | false => simpa using ⟨fun h => hreported h, fun h => hderived h⟩
      | true =>
        -- nothing was forgotten, and nothing that there is was learned since
        simp only [Option.isSome_none, Bool.false_eq_true, if_false, if_true, Exporter.rates]
        constructor
        · rintro ⟨hr', hd'⟩ -
          refine Or.inr (Prod.ext ?_ ?_)
          · refine Option.not_isSome_iff_eq_none.mp fun h => ?_
            have := hr' h
            have := hreported h
            omega
          · refine Option.not_isSome_iff_eq_none.mp fun h => ?_
            have := hd' h
            have := hderived h
            omega
        · intro h
          rcases h trivial with h | h
          · cases h
          · obtain ⟨h₁, h₂⟩ := Prod.ext_iff.mp h
            dsimp only at h₁ h₂
            rw [h₁, h₂]
            exact ⟨nofun, nofun⟩
    | ok d =>
      obtain ⟨hr, hx⟩ := Prod.ext_iff.mp (s.exporter.rates_receive_of_ok width now hd)
      dsimp only [Exporter.rates] at hr hx
      rw [hr, hx]
      refine iff_of_true ⟨?_, ?_⟩ fun _ => Or.inl rfl
      · cases s.exporter.learns width now buf with
        | some rate => simp
        | none =>
          cases s.exporter.recognises buf with
          | true => simp
          | false => simpa using hreported
      · cases s.exporter.recognises buf with
        | true => simp
        | false => simpa using hderived

/-- What is held, and what is known of it, does not depend on the buckets. -/
theorem held_congr {t : Evidence} (hrates : t.exporter.rates = s.exporter.rates)
    (hreported : t.reportedIn = s.reportedIn)
    (hderived : t.derivedIn = s.derivedIn) : t.held = s.held := by
  obtain ⟨h₁, h₂⟩ := Prod.ext_iff.mp hrates
  dsimp only [Exporter.rates] at h₁ h₂
  unfold held reported snmpDerived
  rw [h₁, h₂, hreported, hderived]

/-- What going back leaves alone: all but the buckets. -/
theorem requeue_frame (closed : List ((ℕ × Accum) × ℕ)) (s : Evidence) :
    (closed.foldl requeue s).held = s.held ∧ (closed.foldl requeue s).generation =
    s.generation := by
  induction closed generalizing s with
  | nil => exact ⟨rfl, rfl⟩
  | cons b closed ih =>
    obtain ⟨hheld, hgeneration⟩ := ih (s.requeue b)
    exact ⟨hheld.trans (held_congr (Exporter.rates_requeue ..) rfl rfl), hgeneration⟩

/-- What a flush that is done leaves. -/
theorem flushDone_cases (mapped : Bool) (s : Evidence) :
    (s.finishing mapped = none ∧ s.flushDone mapped = s) ∨
      ∃ f, s.finishing mapped = some f ∧ (s.flushDone mapped).flush = none ∧
        (s.flushDone mapped).generation = s.generation ∧
        (s.flushDone mapped).held = s.reported.toList ++ (f.carried.or s.snmpDerived).toList := by
  unfold flushDone
  cases hf : s.finishing mapped with
  | none => exact Or.inl ⟨rfl, rfl⟩
  | some f =>
    refine Or.inr ⟨f, rfl, ?_⟩
    dsimp only
    cases f.carried with
    | none => exact ⟨rfl, rfl, rfl⟩
    | some r => exact ⟨rfl, rfl, rfl⟩

/-- **The rates are current in a step exactly if it is sound.** -/
theorem current_iff (width : ℕ) (hs : s.Learned) (e : EvidenceEvent) :
    s.Current width mapped e ↔ s.Sound mapped e := by
  cases e with
  | receive now buf =>
    rw [← receive_current_iff width hs now buf]
    exact ⟨fun h => h.2, fun h => ⟨nofun, h⟩⟩
  | flushStart now =>
    refine iff_of_true ⟨nofun, ?_⟩ trivial
    rw [show s.step width mapped (.flushStart now) = s.flushStart width now from rfl]
    unfold flushStart
    split
    · exact hs.held
    · exact hs.held
  -- what is written are the rates the flush took, of the generation it took them in
  | writeBucket derived =>
    have hheld : (s.step width mapped (.writeBucket derived)).held = s.held ∧
        (s.step width mapped (.writeBucket derived)).generation = s.generation := by
      simp only [step]
      split <;> exact ⟨rfl, rfl⟩
    unfold Current Sound
    rw [hheld.1, hheld.2, and_iff_left hs.held]
    cases hw : s.writing mapped with
    | none => simp [uses, hw]
    | some f =>
      have hf : Took f := hs.took f (Option.filter_eq_some_iff.mp hw).1
      simp only [uses, hw, Option.elim_some, Option.mem_some_iff, forall_eq']
      rw [forall_mem_both, taken_current_iff hf.reported, taken_current_iff hf.snmpDerived,
        ← or_and_left]
  | flushDone =>
    unfold Current Sound
    rw [show s.step width mapped .flushDone = s.flushDone mapped from rfl]
    rcases flushDone_cases mapped s with ⟨hnone, heq⟩ | ⟨f, hsome, -, hgeneration, hheld⟩
    · rw [heq]
      simpa [uses, hnone] using hs.held
    · have hf : Took f := hs.took f (Option.filter_eq_some_iff.mp hsome).1
      -- behind the flush the held rates are those it carried, or those received meanwhile
      have hafter : (∀ r ∈ f.carried, r.2 = s.generation) →
          ∀ r ∈ (s.flushDone mapped).held, r.2 = (s.flushDone mapped).generation := by
        intro h
        rw [hgeneration, hheld, forall_mem_both]
        refine ⟨(forall_mem_both.mp hs.held).1, fun r hr => ?_⟩
        rcases Option.or_eq_some_iff.mp hr with hc | ⟨-, hold⟩
        · exact h r hc
        · exact (forall_mem_both.mp hs.held).2 r hold
      simp only [uses, hsome, Option.elim_some, Option.mem_some_iff, forall_eq']
      rw [forall_mem_both, ← carried_current_iff hf]
      exact and_iff_left_of_imp fun h => hafter h.2
  | flushFail =>
    refine iff_of_true ⟨nofun, ?_⟩ trivial
    simp only [step]
    split
    · exact hs.held
    · rename_i f hf
      obtain ⟨hheld, hgeneration⟩ := requeue_frame f.closed.reverse s
      intro r hr
      exact (hs.held r (hheld ▸ hr)).trans hgeneration.symm

/-- A flush that goes on keeps the rates it took. -/
theorem Took.write {f : Flush} (hf : Took f) (derived : Option ℕ) : Took (f.write derived) := by
  unfold Flush.write
  split
  · exact hf
  · exact ⟨hf.reported, hf.snmpDerived⟩

/-- A flush that starts takes what is current. -/
theorem took_flushStart (hs : s.Learned) (now : ℕ) :
    ∀ f ∈ (s.flushStart width now).flush, Took f := by
  intro f hf
  unfold flushStart at hf
  split at hf
  · exact hs.took f hf
  · obtain rfl := Option.some.inj hf
    obtain ⟨hreported, hderived⟩ := forall_mem_both.mp hs.held
    exact ⟨hreported, hderived⟩

/-- A sound step keeps what is known of the generations. -/
theorem learned_step (hs : s.Learned) (e : EvidenceEvent) (he : s.Sound mapped e) :
    (s.step width mapped e).Learned := by
  refine ⟨((current_iff width hs e).mpr he).2, ?_⟩
  cases e with
  | receive now buf => exact hs.took
  | flushStart now => exact took_flushStart hs now
  | writeBucket derived =>
    simp only [step]
    split
    · exact hs.took
    · rename_i f hf
      rintro g ⟨rfl⟩
      exact (hs.took f (Option.filter_eq_some_iff.mp hf).1).write derived
  | flushDone =>
    rw [show s.step width mapped .flushDone = s.flushDone mapped from rfl]
    rcases flushDone_cases mapped s with ⟨-, heq⟩ | ⟨f, -, hnone, -⟩
    · rw [heq]
      exact hs.took
    · rw [hnone]
      nofun
  | flushFail =>
    simp only [step]
    split
    · exact hs.took
    · nofun

/-- An exporter that nothing was received from. -/
def new (now : ℕ) : Evidence := { exporter := { generationStartedAt := now } }

theorem learned_new (now : ℕ) : (new now).Learned where
  held := nofun
  took := nofun

/-- **The rates are current along a run exactly if its steps are sound.** -/
theorem current_iff_sound (width : ℕ) (mapped : Bool) (now : ℕ) (es : List EvidenceEvent) :
    Run.Meets (step width mapped) (Current width mapped) (new now) es ↔
      Run.Meets (step width mapped) (Sound mapped) (new now) es :=
  Run.meets_congr (fun _ e hs => current_iff width hs e) (fun _ e hs he => learned_step hs e he)
    (learned_new now)

instance (s : Evidence) (e : EvidenceEvent) : Decidable (s.Current width mapped e) :=
  inferInstanceAs (Decidable (_ ∧ _))

/-- A datagram that reports the rate 1000, in the layout of a template it carries. -/
def reportingDatagram : List UInt8 :=
  [0, 9, 0, 2, 0, 1, 134, 160, 0, 0, 3, 232, 0, 0, 0, 1, 0, 0, 0, 0,
    0, 1, 0, 20, 1, 0, 0, 4, 0, 4, 0, 1, 0, 4, 0, 34, 0, 4, 0, 0,
    1, 0, 0, 12, 0, 0, 0, 0, 0, 0, 3, 232]

/-- One that comes a second later from an exporter that started a second ago, with a flowset that
is too short. -/
def restartedDatagram : List UInt8 :=
  [0, 9, 0, 1, 0, 0, 3, 232, 0, 0, 3, 233, 0, 0, 0, 2, 0, 0, 0, 0, 0, 0, 0, 2]

/-- The restart is recognised, and the rate of the generation before multiplies the buckets of the
next flush. -/
def staleRun : List EvidenceEvent :=
  [.receive 1000 reportingDatagram, .receive 1001 restartedDatagram, .flushStart 2000,
      .writeBucket none]

/-- **A datagram that is recognised and cannot be decoded leaves the rates of the generation that is
over.** -/
theorem not_current_staleRun :
    ¬ Run.Meets (step 60 true) (Current 60 true) (new 900) staleRun ∧
      (Run.run (step 60 true) (new 900) (staleRun.take 3)).uses true (.writeBucket none) =
      [(1000, 0)] ∧
      (Run.run (step 60 true) (new 900) (staleRun.take 3)).generation = 1 := by
  decide +kernel

end Evidence

end Rerouter.Collector
