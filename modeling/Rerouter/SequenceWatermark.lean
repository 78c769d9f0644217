import Rerouter.FlowDatagrams
import Rerouter.SamplingEvidence
import Rerouter.SflowExact

/-!
# What the sequence watermark refuses

A datagram that does not move the watermark of its exporter is not counted: it is taken for a
duplicate, or for one that was overtaken. Here an exporter sends datagrams in generations, each
with its number in its generation (`Rerouter.Collector.Sent`), and the collector sees of it the
sequence number, modulo `2 ^ 32`, and the uptime.

A datagram that is refused need not be late
(`Rerouter.Collector.Watched.not_onlyLate_earlyRestart`): an exporter that restarts within the
first minutes of its uptime is not seen to restart, and its numbers look old until they are back
where they were. **`Rerouter.Collector.Watched.refused_late`** says what is left: against the
datagram that moved the watermark last, one that is refused is late, or half the range of the
numbers ahead, or of another generation and its uptime gives no sign of a restart.
-/

namespace Rerouter.Collector

open Rerouter.Flow BigEndian

/-! ### The two wire protocols -/

namespace Exporter

variable (x : Exporter)

/-- A datagram of sFlow that was decoded; it never says that its exporter restarted. -/
def acceptSflow (d : Sflow.Decoded) (now bucketTs : ℕ) : Exporter :=
  let (y, missing) := x.observeSequence d.sequence d.uptime false now bucketTs
  if x.lastSequence.isSome && decide (y.lastSequence = x.lastSequence) &&
      decide (y.generationStartedAt = x.generationStartedAt) then
    y.entry bucketTs fun a => a.markAllDropped 1
  else
    let y := { y with reportedRate := d.reportedSampling.or y.reportedRate }
    if d.records ≠ [] ∨ 0 < missing then
      y.entry bucketTs fun a => d.records.foldl Accum.fold (a.markAllDropped missing)
    else y

/-- A datagram of sFlow that could not be decoded. -/
def refuseSflow (buf : List UInt8) (now bucketTs : ℕ) : Exporter :=
  match wireSequenceAndUptime .sflow buf with
  | some (sequence, some uptime) =>
    let (y, missing) := x.observeSequence sequence uptime false now bucketTs
    y.entry bucketTs fun a => a.markAllDropped (Flow.saturatingAdd 1 missing)
  | _ => x.entry bucketTs fun a => a.markAllDropped 1

/-- `recv_loop`, of an exporter of sFlow. -/
def receiveSflow (width now : ℕ) (buf : List UInt8) : Exporter :=
  let bucketTs := now / width * width
  match Sflow.decode buf with
  | .ok d => x.acceptSflow d now bucketTs
  | .error _ => x.refuseSflow buf now bucketTs

/-- `recv_loop`, by the wire protocol of the exporter. -/
def receiveBy : Protocol → ℕ → ℕ → List UInt8 → Exporter
  | .netflowV9 => x.receive
  | .sflow => x.receiveSflow

/-- The comparison a datagram is refused by, before the bucket is marked. -/
def refusesDecoded (sequence uptime : ℕ) (restarted : Bool) (now bucketTs : ℕ) : Bool :=
  let y := (x.observeSequence sequence uptime restarted now bucketTs).1
  x.lastSequence.isSome && decide (y.lastSequence = x.lastSequence) &&
    decide (y.generationStartedAt = x.generationStartedAt) && !restarted

end Exporter

/-- What becomes of a datagram. -/
inductive Outcome where
  | accepted
  | refused
  | undecodable
deriving DecidableEq

namespace Exporter

variable (x : Exporter)

/-- What becomes of a datagram, in the branches of `recv_loop`. -/
def outcome (protocol : Protocol) (width now : ℕ) (buf : List UInt8) : Outcome :=
  let bucketTs := now / width * width
  match protocol with
  | .netflowV9 =>
    match decode buf x.templates with
    | (templates, .ok d) =>
      let y : Exporter := { x with templates }
      let y := if d.exporterRestarted || d.samplingStateExpired then y.forget else y
      if y.overtaken d now bucketTs then .refused else .accepted
    | (_, .error _) => .undecodable
  | .sflow =>
    match Sflow.decode buf with
    | .ok d =>
      if x.refusesDecoded d.sequence d.uptime false now bucketTs then .refused else .accepted
    | .error _ => .undecodable

/-- Whether a datagram says itself that its exporter restarted. -/
def restartOf (protocol : Protocol) (buf : List UInt8) : Bool :=
  match protocol with
  | .netflowV9 =>
    match decode buf x.templates with
    | (_, .ok d) => d.exporterRestarted
    | (_, .error _) => false
  | .sflow => false

/-- Whether a datagram moves the watermark. -/
def moves (protocol : Protocol) (buf : List UInt8) : Bool :=
  match wireSequenceAndUptime protocol buf with
  | some (sequence, some uptime) =>
    x.restartOf protocol buf || x.uptimeRestarted uptime || x.advances sequence
  | _ => false

/-- The watermark: a sequence number and an uptime. -/
def watermark : Option ℕ × Option ℕ := (x.lastSequence, x.lastUptime)

end Exporter

/-! ### The watermark -/

section Watermark

variable (x : Exporter) (ts : ℕ) (f : Accum → Accum)

namespace Exporter

/-- The watermark and the time of the generation. -/
def standing : (Option ℕ × Option ℕ) × ℕ := (x.watermark, x.generationStartedAt)

@[simp] theorem standing_modifyBucket : (x.modifyBucket ts f).standing = x.standing := rfl

@[simp] theorem standing_entry : (x.entry ts f).standing = x.standing := by
  unfold entry
  split_ifs
  · rfl
  · rfl
  · split
    · rfl
    · split_ifs <;> rfl

@[simp] theorem standing_markPrevious (missing : ℕ) :
    (x.markPrevious ts missing).standing = x.standing := by
  unfold markPrevious
  split
  · rfl
  · split_ifs <;> rfl

/-- **What a sequence number does to the watermark**: a restart and a number that is ahead set it,
and a restart begins a generation. -/
theorem standing_observeSequence (sequence uptime : ℕ) (restart : Bool) (now : ℕ) :
    (x.observeSequence sequence uptime restart now ts).1.standing =
      (if restart || x.uptimeRestarted uptime || x.advances sequence then
        (some sequence, some uptime) else x.watermark,
        if restart || x.uptimeRestarted uptime then now else x.generationStartedAt) := by
  unfold observeSequence
  by_cases hrestart : (restart || x.uptimeRestarted uptime) = true
  · rw [if_pos hrestart, if_pos hrestart, if_pos (by rw [hrestart, Bool.true_or])]
    rfl
  · rw [if_neg hrestart, if_neg hrestart, Bool.eq_false_iff.mpr hrestart, Bool.false_or]
    dsimp only
    generalize hy : (if x.uptimeRegressed uptime then
      x.entry ts fun a => { a with baseComplete := false } else x) = y
    have hsame : y.standing = x.standing := by
      rw [← hy]
      split_ifs
      · exact standing_entry ..
      · rfl
    have hmarked := (standing_markPrevious y ts (x.missing sequence)).trans hsame
    by_cases hahead : x.advances sequence = true
    · rw [if_pos hahead, if_pos hahead]
      exact Prod.ext rfl (Prod.ext_iff.mp hmarked).2
    · rw [if_neg hahead, if_neg hahead]
      exact hmarked

theorem standing_refuse (buf : List UInt8) (now : ℕ) :
    (x.refuse buf now ts).standing = match wireSequenceAndUptime .netflowV9 buf with
      | some (sequence, some uptime) => (x.observeSequence sequence uptime false now ts).1.standing
      | _ => x.standing := by
  unfold refuse
  generalize wireSequenceAndUptime .netflowV9 buf = header
  obtain _ | ⟨sequence, _ | uptime⟩ := header
  · exact standing_entry ..
  · exact standing_entry ..
  · exact standing_entry ..

theorem standing_refuseSflow (buf : List UInt8) (now : ℕ) :
    (x.refuseSflow buf now ts).standing = match wireSequenceAndUptime .sflow buf with
      | some (sequence, some uptime) => (x.observeSequence sequence uptime false now ts).1.standing
      | _ => x.standing := by
  unfold refuseSflow
  generalize wireSequenceAndUptime .sflow buf = header
  obtain _ | ⟨sequence, _ | uptime⟩ := header
  · exact standing_entry ..
  · exact standing_entry ..
  · exact standing_entry ..

/-- Forgetting the rates leaves the watermark. -/
theorem standing_accept (d : Decoded) (now : ℕ) :
    (x.accept d now ts).standing =
      (x.observeSequence d.sequence d.sysUptime d.exporterRestarted now ts).1.standing := by
  have hforget : ∀ b : Bool,
      ((if b then x.forget else x).observeSequence d.sequence d.sysUptime d.exporterRestarted now
        ts).1.standing =
        (x.observeSequence d.sequence d.sysUptime d.exporterRestarted now ts).1.standing := by
    intro b
    rw [standing_observeSequence, standing_observeSequence]
    cases b <;> rfl
  rw [← hforget (d.exporterRestarted || d.samplingStateExpired)]
  unfold accept
  generalize (if d.exporterRestarted || d.samplingStateExpired then x.forget else x) = y
  dsimp only
  split_ifs
  · exact standing_entry ..
  · exact standing_entry ..
  · rfl

theorem standing_acceptSflow (d : Sflow.Decoded) (now : ℕ) :
    (x.acceptSflow d now ts).standing =
    (x.observeSequence d.sequence d.uptime false now ts).1.standing := by
  unfold acceptSflow
  dsimp only
  split_ifs
  · exact standing_entry ..
  · exact standing_entry ..
  · rfl

end Exporter

end Watermark

/-! ### A datagram and its header -/

/-- A header that was read stands at the offsets it is looked for at. -/
theorem wire_of_readHeader {buf rest : List UInt8} {h : Header}
    (hread : readHeader buf = .ok (h, rest)) :
    wireSequenceAndUptime .netflowV9 buf = some (h.sequence, some h.sysUptime) := by
  simp only [readHeader] at hread
  split_ifs at hread with hshort
  · cases hread
  simp only [bind_eq_ok, Prod.exists, u16_eq_ok] at hread
  obtain ⟨version, r₁, ⟨-, rfl⟩, hread⟩ := hread
  split_ifs at hread with hversion
  · cases hread
  simp only [bind_eq_ok, Prod.exists, u16_eq_ok, u32_eq_ok] at hread
  obtain ⟨count, r₂, ⟨hcount, rfl⟩, uptime, r₃, ⟨huptime, rfl⟩, unix, r₄, ⟨hunix, rfl⟩, sequence,
    r₅, ⟨hsequence, rfl⟩, source, r₆, ⟨hsource, rfl⟩, heq⟩ := hread
  cases heq
  have hseq := u32At_append (s :=
    bytes 2 version ++ (bytes 2 count ++ (bytes 4 uptime ++ bytes 4 unix)))
    (bytes 4 source ++ rest) (show _ = 12 by simp) hsequence
  have htime := u32At_append (s := bytes 2 version ++ bytes 2 count)
    (bytes 4 unix ++ (bytes 4 sequence ++ (bytes 4 source ++ rest))) (show _ = 4 by simp) huptime
  simp only [List.append_assoc] at hseq htime
  simp only [wireSequenceAndUptime, hseq, htime]
  rfl

/-- A datagram that is decoded has the sequence number and the uptime of its header. -/
theorem wire_of_decode {x : Exporter} {buf : List UInt8} {cache : TemplateCache} {d : Decoded}
    (h : decode buf x.templates = (cache, .ok d)) :
    wireSequenceAndUptime .netflowV9 buf = some (d.sequence, some d.sysUptime) := by
  unfold decode at h
  cases hheader : readHeader buf with
  | error e =>
    rw [hheader] at h
    cases (Prod.ext_iff.mp h).2
  | ok p =>
    obtain ⟨header, rest⟩ := p
    rw [hheader] at h
    have hflags := sameFlags_walk h
    rw [wire_of_readHeader hheader, hflags.sequence, hflags.sysUptime]

theorem wire_of_decodeSflow {buf : List UInt8} {d : Sflow.Decoded} (h : Sflow.decode buf = .ok d) :
    wireSequenceAndUptime .sflow buf = some (d.sequence, some d.uptime) := by
  obtain ⟨dg, flows, ⟨hsub, hseq, huptime, -⟩, -, rfl, rfl⟩ := Sflow.decode_eq_ok.mp h
  -- The sequence number stands twelve bytes behind the address of the agent, and its length is
  -- known by its kind.
  have hwire : ∀ (kind len : ℕ) (addr : List UInt8), kind < 2 ^ 32 → addr.length = len →
      (if kind = 1 then some 4 else if kind = 2 then some 16 else none) = some len →
      Sflow.encodeAddress dg.agentAddr = bytes 4 kind ++ addr →
      wireSequenceAndUptime .sflow dg.encode = some (dg.sequence, some dg.uptime) := by
    intro kind len addr hkind hlen hagent haddr
    generalize hrest : bytes 4 dg.samples.length ++ dg.samples.flatMap Sflow.Sample.encode = rest
    have hfour := u32At_append (s := bytes 4 5) (addr ++ (bytes 4 dg.subAgentId ++
      (bytes 4 dg.sequence ++ (bytes 4 dg.uptime ++ rest)))) (show _ = 4 by simp) hkind
    have hsequence := u32At_append (s :=
      bytes 4 5 ++ (bytes 4 kind ++ (addr ++ bytes 4 dg.subAgentId)))
      (bytes 4 dg.uptime ++ rest)
      (show _ = 12 + len by simp only [List.length_append, length_bytes, hlen]; omega) hseq
    have htime := u32At_append (s :=
      bytes 4 5 ++ (bytes 4 kind ++ (addr ++ (bytes 4 dg.subAgentId ++
      bytes 4 dg.sequence)))) rest
      (show _ = 16 + len by simp only [List.length_append, length_bytes, hlen]; omega) huptime
    simp only [List.append_assoc] at hfour hsequence htime
    have hencode : dg.encode = bytes 4 5 ++ (bytes 4 kind ++ (addr ++ (bytes 4 dg.subAgentId ++
        (bytes 4 dg.sequence ++ (bytes 4 dg.uptime ++ rest))))) := by
      rw [Sflow.Datagram.encode, haddr, ← hrest]
      simp only [List.append_assoc]
    rw [hencode]
    simp only [wireSequenceAndUptime, agentLen, hfour, Option.bind_some, hagent]
    simp only [Option.bind_eq_bind, Option.bind_some, hsequence, htime]
    rfl
  cases haddr : dg.agentAddr with
  | v4 a =>
    exact hwire 1 4 (bytes 4 a.toNat) (by decide) (length_bytes _ _) rfl (by rw [haddr]; rfl)
  | v6 a =>
    exact hwire 2 16 (bytes 16 a.toNat) (by decide) (length_bytes _ _) rfl (by rw [haddr]; rfl)

/-! ### Exporters that restart -/

/-- A datagram as its exporter sent it: in a generation, and with its number there. -/
structure Sent (protocol : Protocol) where
  buf : List UInt8
  generation : ℕ
  number : ℕ
  stamped : ∀ h ∈ wireSequenceAndUptime protocol buf, h.1 = Wrap.shown 32 number

namespace Sent

variable {protocol : Protocol}

/-- The uptime in a datagram. -/
def uptime (d : Sent protocol) : Option ℕ := (wireSequenceAndUptime protocol d.buf).bind Prod.snd

end Sent

/-- An exporter as the collector has it, the datagrams that arrived and what became of them, and the
one that moved the watermark last. -/
structure Watched (protocol : Protocol) where
  exporter : Exporter
  history : List (Sent protocol × Outcome) := []
  mark : Option (Sent protocol) := none

namespace Watched

variable {protocol : Protocol} (width : ℕ)

/-- A datagram arrives, and the clock is read. -/
def receive (s : Watched protocol) (e : ℕ × Sent protocol) : Watched protocol where
  exporter := s.exporter.receiveBy protocol width e.1 e.2.buf
  history := s.history ++ [(e.2, s.exporter.outcome protocol width e.1 e.2.buf)]
  mark := if s.exporter.moves protocol e.2.buf then some e.2 else s.mark

/-- An exporter that nothing was received from. -/
def new (now : ℕ) : Watched protocol where exporter := { generationStartedAt := now }

/-- A datagram is refused only if one of its generation with its number or a later one was
accepted. -/
def OnlyLate (s : Watched protocol) (e : ℕ × Sent protocol) : Prop :=
  s.exporter.outcome protocol width e.1 e.2.buf = .refused →
    ∃ a ∈ s.history, a.2 = .accepted ∧ a.1.generation = e.2.generation ∧ e.2.number ≤ a.1.number

instance (s : Watched protocol) (e : ℕ × Sent protocol) : Decidable (s.OnlyLate width e) :=
  inferInstanceAs (Decidable (_ → _))

/-- A restart shows itself by the uptime in the second in which the generation before began, with
the sequence number of the watermark. -/
def Instant (s : Watched protocol) (e : ℕ × Sent protocol) : Prop :=
  ∃ h ∈ wireSequenceAndUptime protocol e.2.buf, ∃ uptime ∈ h.2,
    s.exporter.uptimeRestarted uptime = true ∧ s.exporter.lastSequence = some h.1 ∧
      s.exporter.generationStartedAt = e.1

instance (s : Watched protocol) (e : ℕ × Sent protocol) : Decidable (s.Instant e) :=
  inferInstanceAs (Decidable (∃ _ ∈ _, _))

/-- **What is true of a datagram that is refused**: of the datagram that moved the watermark last it
is an equal or an earlier one of the same generation, or it is half the range of the numbers ahead
of it, or that one is of another generation and its uptime gives no sign of a restart. -/
def Explained (s : Watched protocol) (e : ℕ × Sent protocol) : Prop :=
  s.exporter.outcome protocol width e.1 e.2.buf = .refused →
    ∃ w ∈ s.mark, ∃ o, (w, o) ∈ s.history ∧ o ≠ .refused ∧
      ((w.generation = e.2.generation ∧ e.2.number ≤ w.number) ∨
        (w.generation = e.2.generation ∧ w.number + sequenceReorderHalfRange ≤ e.2.number) ∨
        (w.generation ≠ e.2.generation ∧ ∃ previous ∈ w.uptime, ∃ current ∈ e.2.uptime,
          previous ≤ current + uptimeReorderToleranceMs ∨
            (2 ^ 32 - 1 - uptimeReorderToleranceMs < previous ∧
              current < uptimeReorderToleranceMs)))

end Watched

/-! ### What one datagram does -/

section Step

variable (x : Exporter) {protocol : Protocol} {width now : ℕ} {buf : List UInt8}
  {sequence uptime : ℕ}

namespace Exporter

/-- Only the watermark and the time of the generation decide. -/
theorem standing_observeSequence_congr {y : Exporter} (h : y.standing = x.standing)
    (restart : Bool) (ts : ℕ) :
    (y.observeSequence sequence uptime restart now ts).1.standing =
      (x.observeSequence sequence uptime restart now ts).1.standing := by
  obtain ⟨⟨hsequence, huptime⟩, hgeneration⟩ :
      (y.lastSequence = x.lastSequence ∧ y.lastUptime = x.lastUptime) ∧
      y.generationStartedAt = x.generationStartedAt :=
    ⟨Prod.ext_iff.mp (Prod.ext_iff.mp h).1, (Prod.ext_iff.mp h).2⟩
  have hrestarted : y.uptimeRestarted uptime = x.uptimeRestarted uptime := by
    unfold uptimeRestarted uptimeWrapped
    rw [huptime]
  have hadvances : y.advances sequence = x.advances sequence := by
    unfold advances
    rw [hsequence]
  rw [standing_observeSequence, standing_observeSequence, hrestarted, hadvances, watermark,
    watermark, hsequence, huptime, hgeneration]

theorem refusesDecoded_congr {y : Exporter} (h : y.standing = x.standing)
    (restart : Bool) (ts : ℕ) :
    y.refusesDecoded sequence uptime restart now ts =
      x.refusesDecoded sequence uptime restart now ts := by
  have hstanding : (y.observeSequence sequence uptime restart now ts).1.standing = _ :=
    standing_observeSequence_congr x h restart ts
  have hsequence : y.lastSequence = x.lastSequence := congrArg (fun t => t.1.1) h
  have hgeneration : y.generationStartedAt = x.generationStartedAt := congrArg Prod.snd h
  have hlast : (y.observeSequence sequence uptime restart now ts).1.lastSequence =
      (x.observeSequence sequence uptime restart now ts).1.lastSequence :=
      congrArg (fun t => t.1.1) hstanding
  have hstarted : (y.observeSequence sequence uptime restart now ts).1.generationStartedAt =
      (x.observeSequence sequence uptime restart now ts).1.generationStartedAt :=
      congrArg Prod.snd hstanding
  simp only [refusesDecoded, hlast, hstarted, hsequence, hgeneration]

/-- The number of the watermark is not ahead of it. -/
theorem advances_self (h : x.lastSequence = some sequence) : x.advances sequence = false := by
  have hzero : Wrap.wrappingSub 32 sequence sequence = 0 := by
    unfold Wrap.wrappingSub
    omega
  unfold advances
  rw [h]
  simp only [hzero, Nat.lt_irrefl, decide_false, Bool.false_and]

/-- A datagram that is refused leaves the watermark's number and the generation as they are. -/
theorem refusesDecoded_iff (restart : Bool) (ts : ℕ) :
    x.refusesDecoded sequence uptime restart now ts = true ↔ x.lastSequence.isSome ∧
    restart = false ∧
      ((x.uptimeRestarted uptime = false ∧ x.advances sequence = false) ∨
        (x.uptimeRestarted uptime = true ∧ x.lastSequence = some sequence ∧
          x.generationStartedAt = now)) := by
  have hstanding := standing_observeSequence x ts sequence uptime restart now
  -- the number moves where a restart is seen or the number advances, the time at a restart only
  have hlast : (x.observeSequence sequence uptime restart now ts).1.lastSequence =
      if restart || x.uptimeRestarted uptime || x.advances sequence then some sequence
        else x.lastSequence :=
    (congrArg (fun t => t.1.1) hstanding).trans (by dsimp only; split_ifs <;> rfl)
  have hstarted : (x.observeSequence sequence uptime restart now ts).1.generationStartedAt =
      if restart || x.uptimeRestarted uptime then now else x.generationStartedAt :=
    congrArg (fun t => t.2) hstanding
  simp only [refusesDecoded, hlast, hstarted, Bool.and_eq_true, decide_eq_true_eq,
    Bool.not_eq_true']
  cases restart with
  | true => simp
  | false =>
    cases hrestarted : x.uptimeRestarted uptime with
    | true =>
      simp only [Bool.false_or, Bool.true_or, if_true, Bool.true_eq_false, false_and, false_or,
        true_and, and_true, eq_comm (a := some sequence), eq_comm (a := now), and_assoc]
    | false =>
      cases hadvances : x.advances sequence with
      | false => simp
      | true =>
        have hne : ¬some sequence = x.lastSequence := by
          intro heq
          rw [x.advances_self heq.symm] at hadvances
          cases hadvances
        simp [hne]

/-- What a datagram that arrives does to the watermark. -/
theorem standing_receiveBy : (x.receiveBy protocol width now buf).standing =
    match wireSequenceAndUptime protocol buf with
    | some (sequence, some uptime) =>
      (x.observeSequence sequence uptime (x.restartOf protocol buf) now
          (now / width * width)).1.standing
    | _ => x.standing := by
  cases protocol with
  | netflowV9 =>
    simp only [receiveBy, receive, restartOf]
    cases hdecode : decode buf x.templates with
    | mk templates result =>
      cases result with
      | ok d =>
        dsimp only
        rw [wire_of_decode hdecode]
        exact (standing_accept ..).trans (standing_observeSequence_congr x (y :=
          { x with templates }) rfl _ _)
      -- a datagram that does not decode still has its header read
      | error e =>
        refine (standing_refuse ..).trans ?_
        generalize wireSequenceAndUptime .netflowV9 buf = header
        obtain _ | ⟨sequence, _ | uptime⟩ := header
        · rfl
        · rfl
        · dsimp only
          exact standing_observeSequence_congr x (y := { x with templates }) rfl _ _
  | sflow =>
    simp only [receiveBy, receiveSflow, restartOf]
    cases hdecode : Sflow.decode buf with
    | ok d =>
      dsimp only
      rw [wire_of_decodeSflow hdecode]
      exact standing_acceptSflow ..
    | error e => exact standing_refuseSflow ..

/-- What a datagram that is refused was compared by. -/
theorem refuses_of_outcome (h : x.outcome protocol width now buf = .refused) :
    ∃ sequence uptime, wireSequenceAndUptime protocol buf = some (sequence, some uptime) ∧
      x.refusesDecoded sequence uptime (x.restartOf protocol buf) now (now / width * width) =
        true := by
  cases protocol with
  | netflowV9 =>
    simp only [outcome] at h
    cases hdecode : decode buf x.templates with
    | mk templates result =>
      rw [hdecode] at h
      cases result with
      | error e => cases h
      | ok d =>
        dsimp only at h
        split_ifs at h with hforget hrefused hrefused
        · refine ⟨d.sequence, d.sysUptime, wire_of_decode hdecode, ?_⟩
          rw [show x.restartOf .netflowV9 buf =
            d.exporterRestarted by simp only [restartOf, hdecode]]
          exact (refusesDecoded_congr x (y :=
            Exporter.forget { x with templates }) rfl _ _).symm.trans hrefused
        · refine ⟨d.sequence, d.sysUptime, wire_of_decode hdecode, ?_⟩
          rw [show x.restartOf .netflowV9 buf =
            d.exporterRestarted by simp only [restartOf, hdecode]]
          exact (refusesDecoded_congr x (y := { x with templates }) rfl _ _).symm.trans hrefused
  | sflow =>
    simp only [outcome] at h
    cases hdecode : Sflow.decode buf with
    | error e =>
      rw [hdecode] at h
      cases h
    | ok d =>
      rw [hdecode] at h
      dsimp only at h
      split_ifs at h with hrefused
      exact ⟨d.sequence, d.uptime, wire_of_decodeSflow hdecode, hrefused⟩

end Exporter

end Step

/-! ### Runs -/

namespace Watched

variable {protocol : Protocol} {width : ℕ}

/-- The watermark is that of the datagram that moved it last, which was not refused. -/
structure Marked (s : Watched protocol) : Prop where
  unset : s.mark = none → s.exporter.lastSequence = none
  held : ∀ w ∈ s.mark, (∃ o, (w, o) ∈ s.history ∧ o ≠ .refused) ∧ ∃ u, w.uptime = some u ∧
    s.exporter.watermark = (some (Wrap.shown 32 w.number), some u)

/-- The header of a datagram shows its number. -/
theorem shown_of_wire {d : Sent protocol} {sequence : ℕ} {uptime : Option ℕ}
    (h : wireSequenceAndUptime protocol d.buf = some (sequence, uptime)) :
    sequence = Wrap.shown 32 d.number :=
  d.stamped (sequence, uptime) h

/-- A datagram that moves the watermark is not refused. -/
theorem not_refused_of_moves {s : Watched protocol} {e : ℕ × Sent protocol} (he : ¬s.Instant e)
    (hmoves : s.exporter.moves protocol e.2.buf = true) :
    s.exporter.outcome protocol width e.1 e.2.buf ≠ .refused := by
  intro hrefused
  obtain ⟨sequence, uptime, hwire, hrefuses⟩ := Exporter.refuses_of_outcome _ hrefused
  obtain ⟨-, hrestart, ⟨huptime, hadvances⟩ | ⟨huptime, hlast, hstarted⟩⟩ :=
    (Exporter.refusesDecoded_iff _ _ _).mp hrefuses
  · rw [Exporter.moves, hwire] at hmoves
    simp only [hrestart, huptime, hadvances, Bool.or_false, Bool.false_eq_true] at hmoves
  · exact he ⟨(sequence, some uptime), hwire, uptime, rfl, huptime, hlast, hstarted⟩

/-- The watermark after a datagram is that datagram's, or as it was. -/
theorem watermark_receive (s : Watched protocol) (e : ℕ × Sent protocol) :
    if s.exporter.moves protocol e.2.buf then
      ∃ u, e.2.uptime = some u ∧
        (s.receive width e).exporter.watermark = (some (Wrap.shown 32 e.2.number), some u)
    else (s.receive width e).exporter.watermark = s.exporter.watermark := by
  have hstanding : (s.exporter.receiveBy protocol width e.1 e.2.buf).standing = _ :=
    s.exporter.standing_receiveBy
  cases hwire : wireSequenceAndUptime protocol e.2.buf with
  | none =>
    rw [hwire] at hstanding
    simp only [Exporter.moves, hwire, Bool.false_eq_true, if_false]
    exact congrArg Prod.fst hstanding
  | some header =>
    obtain ⟨sequence, _ | uptime⟩ := header
    · rw [hwire] at hstanding
      simp only [Exporter.moves, hwire, Bool.false_eq_true, if_false]
      exact congrArg Prod.fst hstanding
    · rw [hwire] at hstanding
      dsimp only at hstanding
      rw [Exporter.standing_observeSequence] at hstanding
      have hmark := congrArg Prod.fst hstanding
      dsimp only at hmark
      have huptime : e.2.uptime = some uptime := by rw [Sent.uptime, hwire]; rfl
      have hmoves : s.exporter.moves protocol e.2.buf = (s.exporter.restartOf protocol e.2.buf ||
          s.exporter.uptimeRestarted uptime ||
            s.exporter.advances sequence) := by rw [Exporter.moves, hwire]
      rw [hmoves]
      -- the mark moves at a restart and behind an advance, and only then
      split_ifs with h
      · rw [if_pos h] at hmark
        exact ⟨uptime, huptime, hmark.trans (by rw [shown_of_wire hwire])⟩
      · rw [if_neg h] at hmark
        exact hmark

theorem marked_receive {s : Watched protocol} (hs : s.Marked) {e : ℕ × Sent protocol}
    (he : ¬s.Instant e) :
    (s.receive width e).Marked := by
  have hwatermark := @watermark_receive protocol width s e
  by_cases hmoves : s.exporter.moves protocol e.2.buf = true
  · have hmark : (s.receive width e).mark = some e.2 := if_pos hmoves
    rw [if_pos hmoves] at hwatermark
    constructor
    · intro hnone
      rw [hmark] at hnone
      cases hnone
    · intro w hw
      rw [hmark] at hw
      obtain rfl := Option.some.inj hw
      exact ⟨⟨_, List.mem_append_right _ (List.mem_singleton.mpr rfl),
        not_refused_of_moves he hmoves⟩, hwatermark⟩
  · have hmark : (s.receive width e).mark = s.mark := if_neg hmoves
    rw [if_neg hmoves] at hwatermark
    constructor
    · intro hnone
      exact (congrArg Prod.fst hwatermark).trans (hs.unset (hmark.symm.trans hnone))
    · intro w hw
      rw [hmark] at hw
      obtain ⟨⟨o, ho, hne⟩, u, huptime, hheld⟩ := hs.held w hw
      exact ⟨⟨o, List.mem_append_left _ ho, hne⟩, u, huptime, hwatermark.trans hheld⟩

/-- Numbers that are not ahead are late, or far ahead. -/
theorem late_or_far {x : Exporter} {m n : ℕ} (hlast : x.lastSequence = some (Wrap.shown 32 m))
    (h : x.advances (Wrap.shown 32 n) = false) : n ≤ m ∨ m + sequenceReorderHalfRange ≤ n := by
  simp only [Exporter.advances, hlast, Wrap.wrappingSub, Wrap.shown, sequenceReorderHalfRange]
    at h ⊢
  by_contra hcon
  rcases Bool.and_eq_false_iff.mp h with h | h
  · have hzero := of_decide_eq_false h
    omega
  · have hhalf := of_decide_eq_false h
    omega

theorem explained_of_marked {s : Watched protocol} (hs : s.Marked) {e : ℕ × Sent protocol}
    (he : ¬s.Instant e) :
    s.Explained width e := by
  intro hrefused
  obtain ⟨sequence, uptime, hwire, hrefuses⟩ := Exporter.refuses_of_outcome _ hrefused
  obtain ⟨hsome, -, ⟨hcurrent, hadvances⟩ | ⟨hcurrent, hlast, hstarted⟩⟩ :=
    (Exporter.refusesDecoded_iff _ _ _).mp hrefuses
  · cases hmark : s.mark with
    | none =>
      rw [hs.unset hmark] at hsome
      cases hsome
    | some w =>
      obtain ⟨⟨o, ho, hne⟩, previous, hprevious, hwatermark⟩ := hs.held w hmark
      have hlast : s.exporter.lastSequence = some (Wrap.shown 32 w.number) :=
        congrArg Prod.fst hwatermark
      have htime : s.exporter.lastUptime = some previous := congrArg Prod.snd hwatermark
      rw [shown_of_wire hwire] at hadvances
      refine ⟨w, rfl, o, ho, hne, ?_⟩
      -- within a generation the number is late or half the range away
      by_cases hgeneration : w.generation = e.2.generation
      · rcases late_or_far hlast hadvances with hlate | hfar
        · exact .inl ⟨hgeneration, hlate⟩
        · exact .inr (.inl ⟨hgeneration, hfar⟩)
      · refine .inr (.inr ⟨hgeneration, previous, hprevious, uptime,
          by rw [Sent.uptime, hwire]; rfl, ?_⟩)
        simp only [Exporter.uptimeRestarted, Exporter.uptimeWrapped, htime, Option.any_some,
          Bool.and_eq_false_iff, Bool.not_eq_false', Bool.and_eq_true, decide_eq_true_eq,
          decide_eq_false_iff_not] at hcurrent
        omega
  · exact absurd ⟨(sequence, some uptime), hwire, uptime, rfl, hcurrent, hlast, hstarted⟩ he

/-- **What is refused, along every run** in which no restart shows itself in the second in which the
generation before began. -/
theorem refused_late (now : ℕ) (run : List (ℕ × Sent protocol))
    (h : Run.Meets (receive width) (fun s e => ¬s.Instant e) (new now) run) :
    Run.Meets (receive width) (Explained width) (new now) run := by
  have hmarked : (new now : Watched protocol).Marked :=
    ⟨fun _ => rfl, fun w hw => absurd hw (Option.not_mem_none w)⟩
  generalize (new now : Watched protocol) = s at h hmarked
  induction run generalizing s with
  | nil => trivial
  | cons e run ih => exact ⟨explained_of_marked hmarked h.1, ih _ h.2 (marked_receive hmarked h.1)⟩

/-- The thousandth datagram of an exporter that has been up for 200 seconds. -/
def beforeRestart : Sent .sflow where
  buf := [0, 0, 0, 5, 0, 0, 0, 1, 192, 0, 2, 1, 0, 0, 0, 0, 0, 0, 3, 232, 0, 3, 13, 64, 0, 0, 0, 0]
  generation := 0
  number := 1000
  stamped := by decide +kernel

/-- The first datagram after it restarted, ten seconds up. -/
def afterRestart : Sent .sflow where
  buf := [0, 0, 0, 5, 0, 0, 0, 1, 192, 0, 2, 1, 0, 0, 0, 0, 0, 0, 0, 1, 0, 0, 39, 16, 0, 0, 0, 0]
  generation := 1
  number := 1
  stamped := by decide +kernel

/-- **The first datagram of an exporter that restarts early is refused**, and it is not late. -/
theorem not_onlyLate_earlyRestart :
    ¬Run.Meets (receive 60) (OnlyLate 60) (new 900) [(1000, beforeRestart),
      (1015, afterRestart)] := by
  decide +kernel

/-- The run of the early restart, explained. -/
theorem explained_earlyRestart :
    Run.Meets (receive 60) (Explained 60) (new 900) [(1000, beforeRestart), (1015, afterRestart)] :=
  refused_late 900 _ (by decide +kernel)

end Watched

end Rerouter.Collector
