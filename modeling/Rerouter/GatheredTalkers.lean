import Rerouter.BucketTally
import Rerouter.SequenceWatermark

/-!
# The flows behind a bucket

The collector makes a bucket of the flows of datagrams, of marks for what it did not count, and,
where a flush failed, of another bucket that was begun meanwhile. `Rerouter.Collector.Gathered` is a
bucket with all the flows that went into it, in whatever way, and all the collector keeps of an
exporter is gathered (`Rerouter.Collector.Kept.gathered`).

A dimension takes in the counts of another one, or of a single flow, key by key
(`Rerouter.Collector.Dimension.Takes`). So what its counts say of the flows is one statement for all
these ways (**`Rerouter.Collector.Gathered.stands`**): they are never above what was sampled, and
where nothing was dropped they are as much, as far as a counter goes.
-/

namespace Rerouter.Collector

open Rerouter.Flow

/-! ### Counters -/

section Counters

variable {m x y z w : ℕ}

/-- Two numbers that a counter shows alike. -/
def Indistinct (m x y : ℕ) : Prop := min x m = min y m

theorem Indistinct.refl (m x : ℕ) : Indistinct m x x := rfl

theorem Indistinct.trans (h : Indistinct m x y) (h' : Indistinct m y z) : Indistinct m x z :=
  Eq.trans h h'

theorem Indistinct.add (h : Indistinct m x y) (h' : Indistinct m z w) :
    Indistinct m (x + z) (y + w) := by
  rw [Indistinct] at *
  omega

theorem Indistinct.mul (h : Indistinct m x y) (r : ℕ) : Indistinct m (r * x) (r * y) := by
  induction r with
  | zero => rw [Nat.zero_mul, Nat.zero_mul]; exact .refl m 0
  | succ r ih =>
    rw [Nat.succ_mul, Nat.succ_mul]
    exact ih.add h

theorem indistinct_sum {α : Type*} {l : List α} {f g : α → ℕ}
    (h : ∀ a ∈ l, Indistinct m (f a) (g a)) : Indistinct m (l.map f).sum (l.map g).sum := by
  induction l with
  | nil => exact .refl m 0
  | cons a l ih =>
    rw [List.map_cons, List.map_cons, List.sum_cons, List.sum_cons]
    exact (h a List.mem_cons_self).add (ih fun b hb => h b (List.mem_cons_of_mem a hb))

end Counters

/-! ### Counts that are taken in -/

/-- What is known of a count was known of another one. -/
structure Counts.Within (c c' : Counts) : Prop where
  pkts : c.pktsAvailable = true → c'.pktsAvailable = true
  bytes : c.bytesAvailable = true → c'.bytesAvailable = true

theorem Counts.Within.trans {c c' c'' : Counts} (h : c.Within c') (h' : c'.Within c'') :
    c.Within c'' :=
  ⟨fun hc => h'.pkts (h.pkts hc), fun hc => h'.bytes (h.bytes hc)⟩

theorem Counts.within_merge_left (c c' : Counts) : (c.merge c').Within c :=
  ⟨fun h => (Bool.and_eq_true_iff.mp h).1, fun h => (Bool.and_eq_true_iff.mp h).1⟩

theorem Counts.within_merge_right (c c' : Counts) : (c.merge c').Within c' :=
  ⟨fun h => (Bool.and_eq_true_iff.mp h).2, fun h => (Bool.and_eq_true_iff.mp h).2⟩

namespace Dimension

variable {K : Type}

/-- The bytes of the keys that are wanted. -/
def tallied (wanted : K → Bool) (m : List (K × Counts)) : ℕ :=
  ((m.filter fun p => wanted p.1).map fun p => p.2.bytes).sum

theorem tallied_cons (wanted : K → Bool) (p : K × Counts) (m : List (K × Counts)) :
    tallied wanted (p :: m) = (if wanted p.1 then p.2.bytes else 0) + tallied wanted m := by
  rw [tallied, List.filter_cons]
  split_ifs
  · rw [List.map_cons, List.sum_cons, tallied]
  · rw [Nat.zero_add, tallied]

theorem tallied_append (wanted : K → Bool) (m m' : List (K × Counts)) :
    tallied wanted (m ++ m') = tallied wanted m + tallied wanted m' := by
  rw [tallied, List.filter_append, List.map_append, List.sum_append]
  rfl

variable [DecidableEq K] {cap : ℕ} {d d' d'' e : Dimension K} {m m' : List (K × Counts)}
  {ps qs : List (K × Part)}

/-- **Counts are taken in**: a dimension, and what it is after the counts of some keys came to
it. -/
structure Takes (d d' : Dimension K) (m : List (K × Counts)) : Prop where
  nodup : d'.keys.Nodup
  keys : ∀ k ∈ d'.keys, k ∈ d.keys ∨ k ∈ m.map Prod.fst
  le : ∀ wanted, tallied wanted d'.counts ≤ tallied wanted d.counts + tallied wanted m
  dropped : d'.dropped = 0 → d.dropped = 0
  /-- Where nothing was dropped, all of it is there. -/
  same : d'.dropped = 0 → ∀ wanted, Indistinct u64Max (tallied wanted d'.counts)
    (tallied wanted d.counts + tallied wanted m)
  present : d'.dropped = 0 → ∀ p ∈ d.counts ++ m, ∃ c, (p.1, c) ∈ d'.counts ∧ c.Within p.2

omit [DecidableEq K] in
theorem Takes.trans (h : Takes d d' m) (h' : Takes d' d'' m') : Takes d d'' (m ++ m') := by
  constructor
  case nodup => exact h'.nodup
  case keys =>
    intro k hk
    rw [List.map_append, List.mem_append, ← or_assoc]
    exact (h'.keys k hk).imp_left (h.keys k)
  case le =>
    intro wanted
    have hle := h.le wanted
    have hle' := h'.le wanted
    rw [tallied_append]
    omega
  case dropped => exact fun hzero => h.dropped (h'.dropped hzero)
  case same =>
    intro hzero wanted
    rw [tallied_append, ← Nat.add_assoc]
    exact (h'.same hzero wanted).trans ((h.same (h'.dropped hzero) wanted).add (.refl _ _))
  case present =>
    intro hzero p hp
    rw [← List.append_assoc, List.mem_append] at hp
    rcases hp with hp | hp
    · obtain ⟨c, hc, hwithin⟩ := h.present (h'.dropped hzero) p hp
      obtain ⟨c', hc', hwithin'⟩ := h'.present hzero (p.1, c) (List.mem_append_left _ hc)
      exact ⟨c', hc', hwithin'.trans hwithin⟩
    · exact h'.present hzero p (List.mem_append_right _ hp)

/-- A key that is there takes in a count. -/
theorem tallied_mergeKey {k : K} {c : Counts} (hnodup : (m.map Prod.fst).Nodup)
    (hk : k ∈ m.map Prod.fst) (wanted : K → Bool) :
    let m' := m.map fun q => if q.1 = k then (q.1, q.2.merge c) else q
    tallied wanted m' ≤ tallied wanted m + tallied wanted [(k, c)] ∧
      Indistinct u64Max (tallied wanted m') (tallied wanted m + tallied wanted [(k, c)]) := by
  induction m with
  | nil => cases hk
  | cons q m ih =>
    rw [List.map_cons, List.nodup_cons] at hnodup
    dsimp only at ih ⊢
    rw [List.map_cons, tallied_cons, tallied_cons, tallied_cons]
    by_cases hq : q.1 = k
    · -- The key stands nowhere else.
      have hrest : (m.map fun q => if q.1 = k then (q.1, q.2.merge c) else q) = m := by
        conv_rhs => rw [← List.map_id m]
        refine List.map_congr_left fun r hr => if_neg fun heq => hnodup.1 ?_
        rw [hq, ← heq]
        exact List.mem_map_of_mem hr
      have hmerge : (q.2.merge c).bytes = min (q.2.bytes + c.bytes) u64Max := rfl
      have hnil : tallied wanted ([] : List (K × Counts)) = 0 := rfl
      rw [if_pos hq, hrest, hq, hnil, Indistinct]
      dsimp only
      split_ifs
      · rw [hmerge]
        omega
      · omega
    · have hmem : k ∈ m.map Prod.fst := (List.mem_cons.mp hk).resolve_left fun heq => hq heq.symm
      obtain ⟨hle, hsame⟩ := ih hnodup.2 hmem
      rw [tallied_cons] at hle hsame
      rw [if_neg hq, Nat.add_assoc]
      exact ⟨Nat.add_le_add_left hle _, (Indistinct.refl _ _).add hsame⟩

theorem takes_mergeKey (hnodup : d.keys.Nodup) (p : K × Counts) :
    Takes d (mergeKey cap d p) [p] := by
  have hkeys : (mergeKey cap d p).keys = _ :=
    (congrArg (List.map Prod.fst) (counts_mergeKey p)).trans Capped.keys_put
  have hnodup' : (mergeKey cap d p).keys.Nodup := by
    rw [keys, counts_mergeKey]
    exact Capped.nodup_put hnodup
  have hmem : ∀ k ∈ (mergeKey cap d p).keys, k ∈ d.keys ∨ k ∈ [p].map Prod.fst := by
    intro k hk
    rw [hkeys] at hk
    refine (List.mem_append.mp hk).imp_right fun hk => ?_
    split_ifs at hk
    · cases hk
    · exact hk
  unfold mergeKey at hnodup' hmem ⊢
  split_ifs at hnodup' hmem ⊢ with hthere hroom
  · have hk : p.1 ∈ d.keys := Capped.isSome_get.mp (lookup_eq d p.1 ▸ hthere)
    have htallied := fun wanted => tallied_mergeKey (c := p.2) hnodup hk wanted
    refine ⟨hnodup', hmem, fun wanted => (htallied wanted).1, id, fun _ wanted =>
      (htallied wanted).2, fun _ q hq => ?_⟩
    have hput : ∀ r ∈ d.counts, (r.1, if r.1 = p.1 then r.2.merge p.2 else r.2) ∈
        d.counts.map fun q => if q.1 = p.1 then (q.1, q.2.merge p.2) else q := by
      intro r hr
      refine List.mem_map.mpr ⟨r, hr, ?_⟩
      split_ifs <;> rfl
    rcases List.mem_append.mp hq with hq | hq
    · refine ⟨_, hput q hq, ?_⟩
      split_ifs
      · exact Counts.within_merge_left _ _
      · exact ⟨id, id⟩
    · obtain rfl := List.mem_singleton.mp hq
      obtain ⟨r, hr, heq⟩ := List.mem_map.mp hk
      have hin := hput r hr
      rw [if_pos heq, heq] at hin
      exact ⟨_, hin, Counts.within_merge_right _ _⟩
  · have hsplit := fun wanted => tallied_append wanted d.counts [p]
    exact ⟨hnodup', hmem, fun wanted => (hsplit wanted).le, id, fun _ wanted =>
      congrArg (min · u64Max) (hsplit wanted), fun _ q hq => ⟨q.2, hq, id, id⟩⟩
  · -- The key is refused, and something is dropped.
    have hfull : Flow.saturatingAdd d.dropped (max p.2.flows 1) ≠ 0 := by
      have hmax : 0 < u64Max := by decide
      rw [saturatingAdd_eq]
      omega
    exact ⟨hnodup', hmem, fun wanted => Nat.le_add_right _ _, fun h => absurd h hfull,
      fun h => absurd h hfull, fun h => absurd h hfull⟩

omit [DecidableEq K] in
theorem takes_mark (hnodup : d.keys.Nodup) (n : ℕ) : Takes d (d.mark n) [] := by
  refine ⟨hnodup, fun k hk => .inl hk, fun wanted => Nat.le_refl _, fun h => ?_,
    fun _ wanted => .refl _ _, fun _ p hp => ?_⟩
  · have hmax : 0 < u64Max := by decide
    rw [mark, saturatingAdd_eq] at h
    dsimp only at h
    omega
  · exact ⟨p.2, List.append_nil d.counts ▸ hp, id, id⟩

/-- **A merge takes in** all counts of the other dimension. -/
theorem takes_merge (hnodup : d.keys.Nodup) (e : Dimension K) :
    Takes d (merge cap d e) e.counts := by
  have hfold : ∀ (m : List (K × Counts)) (d' : Dimension K), d'.keys.Nodup →
      Takes d' (m.foldl (mergeKey cap) d') m := by
    intro m
    induction m with
    | nil => exact fun d' h => ⟨h, fun k hk => .inl hk, fun _ => Nat.le_refl _, id,
        fun _ _ => .refl _ _, fun _ p hp => ⟨p.2, List.append_nil d'.counts ▸ hp, id, id⟩⟩
    | cons p m ih =>
      intro d' h
      have hkey : Takes d' (mergeKey cap d' p) [p] := takes_mergeKey h p
      exact hkey.trans (ih _ hkey.nodup)
  have hmark := takes_mark hnodup e.dropped
  exact hmark.trans (hfold e.counts _ hmark.nodup)

/-! ### What the counts stand for -/

/-- The bytes that were contributed to the keys that are wanted. -/
def contributed (wanted : K → Bool) (ps : List (K × Part)) : ℕ :=
  ((ps.filter fun p => wanted p.1).map fun p => p.2.2.getD 0).sum

/-- **What the counts of a dimension say** of all that was contributed to it. -/
structure Stands (d : Dimension K) (ps : List (K × Part)) : Prop where
  nodup : d.keys.Nodup
  keys : ∀ k ∈ d.keys, k ∈ ps.map Prod.fst
  le : ∀ wanted, tallied wanted d.counts ≤ contributed wanted ps
  /-- Where nothing was dropped, nothing is missing, as far as a counter goes. -/
  same : d.dropped = 0 →
    ∀ wanted, Indistinct u64Max (tallied wanted d.counts) (contributed wanted ps)
  present : d.dropped = 0 → ∀ p ∈ ps, ∃ c, (p.1, c) ∈ d.counts ∧
    (c.pktsAvailable = true → p.2.1.isSome) ∧ (c.bytesAvailable = true → p.2.2.isSome)

omit [DecidableEq K] in
theorem stands_nil : Stands ({} : Dimension K) [] :=
  ⟨List.nodup_nil, fun _ hk => hk, fun _ => Nat.le_refl _, fun _ _ => .refl _ _,
    fun _ _ hp => absurd hp List.not_mem_nil⟩

omit [DecidableEq K] in
/-- The count of a single contribution. -/
theorem stands_first (p : K × Part) :
    Stands ({ counts := [(p.1, first p.2)] } : Dimension K) [p] := by
  have hbytes : ∀ wanted, tallied wanted [(p.1, first p.2)] =
      min (contributed wanted [p]) u64Max := by
    intro wanted
    have hfirst : (first p.2).bytes = min (p.2.2.getD 0) u64Max := by
      change Flow.saturatingAdd 0 _ = _
      rw [saturatingAdd_eq, Nat.zero_add]
    rw [tallied, contributed, List.filter_cons, List.filter_cons]
    dsimp only
    split_ifs
    · simpa using hfirst
    · rfl
  refine ⟨List.nodup_singleton _, fun k hk => hk, fun wanted => ?_, fun _ wanted => ?_,
    fun _ q hq => ?_⟩
  · rw [hbytes]
    exact Nat.min_le_left _ _
  · rw [hbytes, Indistinct]
    omega
  · obtain rfl := List.mem_singleton.mp hq
    exact ⟨first q.2, List.mem_singleton_self _, fun h => h, fun h => h⟩

omit [DecidableEq K] in
/-- **What is taken in** stands for more contributions. -/
theorem Stands.take (h : Stands d ps) (he : Stands e qs) (htakes : Takes d d' e.counts)
    (hdropped : d'.dropped = 0 → e.dropped = 0) : Stands d' (ps ++ qs) := by
  have hsplit : ∀ wanted, contributed wanted (ps ++ qs) =
      contributed wanted ps + contributed wanted qs := by
    intro wanted
    rw [contributed, List.filter_append, List.map_append, List.sum_append]
    rfl
  constructor
  case nodup => exact htakes.nodup
  case keys =>
    intro k hk
    rw [List.map_append, List.mem_append]
    exact (htakes.keys k hk).imp (h.keys k) (he.keys k)
  case le =>
    intro wanted
    rw [hsplit]
    exact (htakes.le wanted).trans (Nat.add_le_add (h.le wanted) (he.le wanted))
  case same =>
    intro hzero wanted
    rw [hsplit]
    exact (htakes.same hzero wanted).trans
      ((h.same (htakes.dropped hzero) wanted).add (he.same (hdropped hzero) wanted))
  case present =>
    intro hzero p hp
    have hkept : ∃ c, (p.1, c) ∈ d.counts ++ e.counts ∧
        (c.pktsAvailable = true → p.2.1.isSome) ∧ (c.bytesAvailable = true → p.2.2.isSome) := by
      rcases List.mem_append.mp hp with hp | hp
      · obtain ⟨c, hc, hknows⟩ := h.present (htakes.dropped hzero) p hp
        exact ⟨c, List.mem_append_left _ hc, hknows⟩
      · obtain ⟨c, hc, hknows⟩ := he.present (hdropped hzero) p hp
        exact ⟨c, List.mem_append_right _ hc, hknows⟩
    obtain ⟨c, hc, hpkts, hbytes⟩ := hkept
    obtain ⟨c', hc', hwithin⟩ := htakes.present hzero (p.1, c) hc
    exact ⟨c', hc', fun h => hpkts (hwithin.pkts h), fun h => hbytes (hwithin.bytes h)⟩

/-- A contribution is a count of its own that is merged. -/
theorem addPart_eq (d : Dimension K) (p : K × Part) :
    addPart cap d p = mergeKey cap d (p.1, first p.2) := by
  have hadd : ∀ c : Counts, c.add p.2.1 p.2.2 = c.merge (first p.2) := by
    intro c
    rw [Counts.add, Counts.merge, first, Counts.add]
    simp only [saturatingAdd_eq, Counts.mk.injEq]
    refine ⟨?_, ?_, ?_, rfl, rfl⟩ <;> omega
  have hmap : (fun q : K × Counts => if q.1 = p.1 then (q.1, q.2.add p.2.1 p.2.2) else q) =
      fun q => if q.1 = p.1 then (q.1, q.2.merge (first p.2)) else q := by
    funext q
    rw [hadd]
  have hflows : max (first p.2).flows 1 = 1 := by
    change max (Flow.saturatingAdd 0 1) 1 = 1
    decide
  rw [addPart, add, mergeKey, hmap, hflows]
  rfl

theorem Stands.add (h : Stands d ps) (p : K × Part) : Stands (d.addPart cap p) (ps ++ [p]) := by
  rw [addPart_eq]
  exact h.take (stands_first p) (takes_mergeKey h.nodup _) fun _ => rfl

omit [DecidableEq K] in
theorem Stands.mark (h : Stands d ps) (n : ℕ) : Stands (d.mark n) ps := by
  rw [← List.append_nil ps]
  exact h.take stands_nil (takes_mark h.nodup n) fun _ => rfl

theorem Stands.merge (h : Stands d ps) (he : Stands e qs) :
    Stands (Dimension.merge cap d e) (ps ++ qs) :=
  h.take he (takes_merge h.nodup e) fun hzero => (losses_of_dropped_merge hzero).2.1

omit [DecidableEq K] in
theorem Stands.shuffle (h : Stands d ps) (hs : Shuffled e d) : Stands e ps := by
  have htallied : ∀ wanted, tallied wanted e.counts = tallied wanted d.counts := fun wanted =>
    ((hs.perm.filter _).map _).sum_eq
  refine ⟨hs.nodup h.nodup, fun k hk => h.keys k ((hs.perm.map Prod.fst).mem_iff.mp hk),
    fun wanted => htallied wanted ▸ h.le wanted, fun hzero wanted => ?_, fun hzero p hp => ?_⟩
  · rw [htallied]
    exact h.same (hs.dropped ▸ hzero) wanted
  · obtain ⟨c, hc, hknows⟩ := h.present (hs.dropped ▸ hzero) p hp
    exact ⟨c, hs.perm.mem_iff.mpr hc, hknows⟩

end Dimension

/-! ### Buckets -/

/-- **A bucket and the flows that went into it.** -/
inductive Gathered : List FlowRecord → Accum → Prop
  | opened (complete : Bool) : Gathered [] { baseComplete := complete }
  | fold {flows : List FlowRecord} {a : Accum} (h : Gathered flows a) (fr : FlowRecord) :
    Gathered (flows ++ [fr]) (a.fold fr)
  | mark {flows : List FlowRecord} {a : Accum} (h : Gathered flows a) (n : ℕ) :
    Gathered flows (a.markAllDropped n)
  /-- The generation of its exporter is over. -/
  | incomplete {flows : List FlowRecord} {a : Accum} (h : Gathered flows a) :
    Gathered flows { a with baseComplete := false }
  | merge {flows flows' : List FlowRecord} {a b : Accum} (h : Gathered flows a)
      (h' : Gathered flows' b) : Gathered (flows ++ flows') (a.mergeFrom b)
  /-- Its maps go in any order. -/
  | shuffle {flows : List FlowRecord} {a b : Accum} (h : Gathered flows a) (hs : b.Shuffled a) :
    Gathered flows b

/-- **What the talkers of a bucket say** of the flows that went into it. -/
theorem Gathered.stands {flows : List FlowRecord} {a : Accum} (h : Gathered flows a) :
    a.talker.Stands (talkerAxis.contributions flows) := by
  induction h with
  | opened complete => exact Dimension.stands_nil
  | @fold flows a h fr ih =>
    have hfold : (a.fold fr).talker =
        (talkerParts fr).foldl (Dimension.addPart maxTalkerKeys) a.talker :=
      talkerAxis.get_fold a fr
    have hall : ∀ (ps qs : List (TalkerKey × Part)) (d : Dimension TalkerKey), d.Stands qs →
        (ps.foldl (Dimension.addPart maxTalkerKeys) d).Stands (qs ++ ps) := by
      intro ps
      induction ps with
      | nil => exact fun qs d h => (List.append_nil qs).symm ▸ h
      | cons p ps ih =>
        intro qs d h
        rw [List.foldl_cons, ← List.singleton_append, ← List.append_assoc]
        exact ih (qs ++ [p]) _ (h.add p)
    have hparts : talkerAxis.contributions [fr] = talkerParts fr := List.append_nil _
    rw [hfold, talkerAxis.contributions_append, hparts]
    exact hall _ _ _ ih
  | mark h n ih => exact ih.mark n
  | incomplete h ih => exact ih
  | merge h h' ih ih' =>
    rw [talkerAxis.contributions_append]
    exact ih.merge ih'
  | shuffle h hs ih => exact ih.shuffle hs.talker

/-- A bucket that is made of flows alone. -/
theorem gathered_folded (flows : List FlowRecord) : Gathered flows (Accum.folded flows) := by
  induction flows using List.reverseRecOn with
  | nil => exact .opened true
  | append_singleton flows fr ih =>
    rw [Accum.folded, List.foldl_append]
    exact ih.fold fr

/-! ### What an exporter keeps -/

/-- Some flows went into a bucket. -/
def Accum.IsGathered (a : Accum) : Prop := ∃ flows, Gathered flows a

theorem Accum.IsGathered.mark {a : Accum} (h : a.IsGathered) (n : ℕ) :
    (a.markAllDropped n).IsGathered :=
  h.imp fun _ h => h.mark n

theorem Accum.IsGathered.incomplete {a : Accum} (h : a.IsGathered) :
    Accum.IsGathered { a with baseComplete := false } :=
  h.imp fun _ h => h.incomplete

theorem Accum.IsGathered.folds {a : Accum} (h : a.IsGathered) (flows : List FlowRecord) :
    (flows.foldl Accum.fold a).IsGathered := by
  induction flows generalizing a with
  | nil => exact h
  | cons fr flows ih => exact ih (h.elim fun _ h => ⟨_, h.fold fr⟩)

namespace Exporter

/-- All buckets of an exporter are gathered. -/
def Gathers (x : Exporter) : Prop := ∀ b ∈ x.buckets, b.2.IsGathered

variable {x : Exporter} {ts now bucketTs : ℕ} {f : Accum → Accum}

theorem Gathers.modifyBucket (h : x.Gathers) (hf : ∀ a : Accum, a.IsGathered → (f a).IsGathered) :
    (x.modifyBucket ts f).Gathers := by
  intro b hb
  obtain ⟨c, hc, rfl⟩ := List.mem_map.mp hb
  split_ifs
  · exact hf _ (h c hc)
  · exact h c hc

theorem Gathers.openBucket (h : x.Gathers) : (x.openBucket ts).Gathers := by
  intro b hb
  rcases List.mem_append.mp hb with hb | hb
  · exact h b hb
  · obtain rfl := List.mem_singleton.mp hb
    exact ⟨_, .opened _⟩

theorem Gathers.entry (h : x.Gathers) (hf : ∀ a : Accum, a.IsGathered → (f a).IsGathered) :
    (x.entry ts f).Gathers := by
  unfold Exporter.entry
  split_ifs
  · exact h.modifyBucket hf
  · exact h.openBucket.modifyBucket hf
  · split
    · exact h.openBucket.modifyBucket hf
    · split_ifs
      · exact h
      · rename_i oldest _ _
        have hrest : Gathers { x with buckets := x.buckets.filter fun b => b.1 ≠ oldest } :=
          fun b hb => h b (List.mem_filter.mp hb).1
        exact hrest.openBucket.modifyBucket hf

theorem Gathers.markPrevious (h : x.Gathers) (missing : ℕ) :
    (x.markPrevious bucketTs missing).Gathers := by
  unfold Exporter.markPrevious
  split
  · exact h
  · split_ifs
    · exact h.modifyBucket fun a ha => ha.mark missing
    · exact h

theorem Gathers.observeSequence (h : x.Gathers) (sequence uptime : ℕ) (restart : Bool) :
    (x.observeSequence sequence uptime restart now bucketTs).1.Gathers := by
  unfold Exporter.observeSequence
  split_ifs with hrestart
  · have hkept : Gathers { x with generationStartedAt := now } := h
    have hreset : (x.resetGeneration now bucketTs).Gathers :=
      hkept.modifyBucket fun a ha => ha.incomplete
    exact hreset
  all_goals dsimp only
  all_goals split_ifs
  all_goals first
    | exact (h.entry fun a ha => ha.incomplete).markPrevious _
    | exact h.markPrevious _

theorem Gathers.accept (h : x.Gathers) (d : Decoded) : (x.accept d now bucketTs).Gathers := by
  unfold Exporter.accept
  have hforget :
      Gathers (if d.exporterRestarted || d.samplingStateExpired then x.forget else x) := by
    split_ifs <;> exact h
  generalize (if d.exporterRestarted || d.samplingStateExpired then x.forget else x) = x at *
  have hobserved : (x.observeSequence d.sequence d.sysUptime d.exporterRestarted now
      bucketTs).1.Gathers := hforget.observeSequence _ _ _
  dsimp only
  generalize x.observeSequence d.sequence d.sysUptime d.exporterRestarted now bucketTs = out at *
  obtain ⟨y, missing⟩ := out
  dsimp only at hobserved ⊢
  have hrate : Gathers { y with reportedRate := d.reportedSampling.or y.reportedRate } := hobserved
  split_ifs
  · exact hobserved.entry fun a ha => ha.mark 1
  · exact hrate.entry fun a ha => (ha.mark _).folds _
  · exact hrate

theorem Gathers.refuse (h : x.Gathers) (buf : List UInt8) :
    (x.refuse buf now bucketTs).Gathers := by
  unfold Exporter.refuse
  split
  · exact (h.observeSequence _ _ _).entry fun a ha => ha.mark _
  · exact h.entry fun a ha => ha.mark 1

theorem Gathers.receive (h : x.Gathers) (width now : ℕ) (buf : List UInt8) :
    (x.receive width now buf).Gathers := by
  have htemplates : ∀ templates, Gathers { x with templates } := fun _ => h
  unfold Exporter.receive
  dsimp only
  split
  · exact (htemplates _).accept _
  · exact (htemplates _).refuse _

theorem Gathers.acceptSflow (h : x.Gathers) (d : Sflow.Decoded) :
    (x.acceptSflow d now bucketTs).Gathers := by
  unfold Exporter.acceptSflow
  have hobserved : (x.observeSequence d.sequence d.uptime false now bucketTs).1.Gathers :=
    h.observeSequence _ _ _
  generalize x.observeSequence d.sequence d.uptime false now bucketTs = out at *
  obtain ⟨y, missing⟩ := out
  dsimp only at hobserved ⊢
  have hrate : Gathers { y with reportedRate := d.reportedSampling.or y.reportedRate } := hobserved
  split_ifs
  · exact hobserved.entry fun a ha => ha.mark 1
  · exact hrate.entry fun a ha => (ha.mark _).folds _
  · exact hrate

theorem Gathers.refuseSflow (h : x.Gathers) (buf : List UInt8) :
    (x.refuseSflow buf now bucketTs).Gathers := by
  unfold Exporter.refuseSflow
  split
  · exact (h.observeSequence _ _ _).entry fun a ha => ha.mark _
  · exact h.entry fun a ha => ha.mark 1

theorem Gathers.receiveSflow (h : x.Gathers) (width now : ℕ) (buf : List UInt8) :
    (x.receiveSflow width now buf).Gathers := by
  unfold Exporter.receiveSflow
  dsimp only
  split
  · exact h.acceptSflow _
  · exact h.refuseSflow _

theorem Gathers.requeue (h : x.Gathers) {b : ℕ × Accum} (hb : b.2.IsGathered) :
    (x.requeue b).Gathers := by
  unfold Exporter.requeue
  split_ifs
  · refine h.modifyBucket fun a ha => ?_
    obtain ⟨flows, ha⟩ := ha
    obtain ⟨flows', hb⟩ := hb
    exact ⟨_, ha.merge hb⟩
  · exact h.entry fun _ _ => hb

end Exporter

/-- **An exporter over time**, with the buckets that were taken out to be written. -/
inductive Kept : Exporter → List (ℕ × Accum) → Prop
  | new (now : ℕ) : Kept { generationStartedAt := now } []
  | receive {x : Exporter} {taken : List (ℕ × Accum)} (h : Kept x taken) (protocol : Protocol)
      (width now : ℕ) (buf : List UInt8) : Kept (x.receiveBy protocol width now buf) taken
  | take {x : Exporter} {taken : List (ℕ × Accum)} (h : Kept x taken) (width now : ℕ) :
    Kept (x.takeClosed width now).2 (taken ++ (x.takeClosed width now).1)
  | requeue {x : Exporter} {taken : List (ℕ × Accum)} (h : Kept x taken) {b : ℕ × Accum}
      (hb : b ∈ taken) : Kept (x.requeue b) taken
  /-- A flush writes back the rate it derived. -/
  | derive {x : Exporter} {taken : List (ℕ × Accum)} (h : Kept x taken) (rate : Option ℕ) :
    Kept { x with snmpDerivedRate := rate } taken

/-- **What is taken out to be written is gathered**, and so is what is still open. -/
theorem Kept.gathered {x : Exporter} {taken : List (ℕ × Accum)} (h : Kept x taken) :
    x.Gathers ∧ ∀ b ∈ taken, b.2.IsGathered := by
  induction h with
  | new now =>
    exact ⟨fun b hb => (List.not_mem_nil hb).elim, fun b hb => (List.not_mem_nil hb).elim⟩
  | receive h protocol width now buf ih =>
    refine ⟨?_, ih.2⟩
    cases protocol with
    | netflowV9 => exact ih.1.receive width now buf
    | sflow => exact ih.1.receiveSflow width now buf
  | take h width now ih =>
    refine ⟨fun b hb => ih.1 b (List.mem_filter.mp hb).1, fun b hb => ?_⟩
    rcases List.mem_append.mp hb with hb | hb
    · exact ih.2 b hb
    · exact ih.1 b (List.mem_filter.mp hb).1
  | requeue h hb ih => exact ⟨ih.1.requeue (ih.2 _ hb), ih.2⟩
  | derive h rate ih => exact ih

end Rerouter.Collector
