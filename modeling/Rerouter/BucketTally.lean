import Rerouter.FlowCollector
import Rerouter.Lib.Capped
import Mathlib.Algebra.Order.BigOperators.Group.List

/-!
# What a bucket holds

Each dimension of a bucket is a map with a cap (`Rerouter.Capped`), and each flow *contributes* to
it a number of times, under a number of keys: `Rerouter.Collector.Axis` is a dimension with its
cap and its contributions, and there are four of them. What is true of a dimension after any list
of flows, and after two buckets are merged, is true of all four for one reason
(**`Rerouter.Collector.bucket_aggregation`**).
-/

namespace Rerouter.Collector

open Rerouter.Flow

/-! ### Completeness -/

/-- `BucketQuality`. -/
structure BucketQuality where
  ifaceComplete : Bool
  portComplete : Bool
  asnComplete : Bool
  talkerComplete : Bool
  ifaceDropped : ℕ
  portDropped : ℕ
  asnDropped : ℕ
  talkerDropped : ℕ
deriving DecidableEq

/-- `Accum::quality`: of the talkers only the first `topK` are written. -/
def Accum.quality (a : Accum) (topK : ℕ) : BucketQuality :=
  let talkerTail := a.talker.counts.length - topK
  let talkerDropped := saturatingAdd a.talker.dropped talkerTail
  { ifaceComplete := a.baseComplete && decide (a.iface.dropped = 0)
    portComplete := a.baseComplete && decide (a.port.dropped = 0)
    asnComplete := a.baseComplete && decide (a.asn.dropped = 0)
    talkerComplete := a.baseComplete && decide (talkerDropped = 0)
    ifaceDropped := a.iface.dropped
    portDropped := a.port.dropped
    asnDropped := a.asn.dropped
    talkerDropped }

/-! ### Sums of contributions -/

/-- The packets and the bytes of a contribution. -/
abbrev Part := Option ℕ × Option ℕ

/-- `u64::MAX`. -/
def u64Max : ℕ := 2 ^ 64 - 1

def pktsOf (vs : List Part) : ℕ := (vs.map fun v => v.1.getD 0).sum

def bytesOf (vs : List Part) : ℕ := (vs.map fun v => v.2.getD 0).sum

/-- The counts of some contributions, as far as a counter goes. -/
def tally (vs : List Part) : Counts where
  pkts := min (pktsOf vs) u64Max
  bytes := min (bytesOf vs) u64Max
  flows := min vs.length u64Max
  pktsAvailable := vs.all fun v => v.1.isSome
  bytesAvailable := vs.all fun v => v.2.isSome

/-- Counts that are exactly those of some contributions. -/
structure Exact (c : Counts) (vs : List Part) : Prop where
  pkts : c.pkts = pktsOf vs
  bytes : c.bytes = bytesOf vs
  flows : c.flows = vs.length
  pktsAvailable : c.pktsAvailable = false ↔ ∃ v ∈ vs, v.1 = none
  bytesAvailable : c.bytesAvailable = false ↔ ∃ v ∈ vs, v.2 = none

/-- The counters of some contributions do not saturate. -/
def Unsaturated (vs : List Part) : Prop :=
  pktsOf vs ≤ u64Max ∧ bytesOf vs ≤ u64Max ∧ vs.length ≤ u64Max

instance (vs : List Part) : Decidable (Unsaturated vs) :=
  inferInstanceAs (Decidable (_ ∧ _ ∧ _))

theorem saturatingAdd_eq (a b : ℕ) : saturatingAdd a b = min (a + b) u64Max := rfl

theorem saturatingAdd_min (a b : ℕ) :
    saturatingAdd (min a u64Max) (min b u64Max) = min (a + b) u64Max := by
  rw [saturatingAdd_eq]
  omega

theorem saturatingAdd_min_left (a b : ℕ) : saturatingAdd (min a u64Max) b = min (a + b) u64Max := by
  rw [saturatingAdd_eq]
  omega

theorem tally_concat (vs : List Part) (v : Part) : (tally vs).add v.1 v.2 = tally (vs ++ [v]) := by
  simp only [tally, Counts.add, saturatingAdd_min_left, pktsOf, bytesOf, List.map_append,
    List.sum_append, List.map_cons, List.map_nil, List.sum_cons, List.sum_nil, List.length_append,
    List.length_singleton,
    List.all_append, List.all_cons, List.all_nil, Bool.and_true, Nat.add_zero]

theorem tally_nil : tally [] = {} := by decide

theorem merge_tally (vs ws : List Part) : (tally vs).merge (tally ws) = tally (vs ++ ws) := by
  simp only [tally, Counts.merge, saturatingAdd_min, pktsOf, bytesOf, List.map_append,
    List.sum_append, List.length_append, List.all_append]

theorem exact_tally {vs : List Part} (h : Unsaturated vs) : Exact (tally vs) vs where
  pkts := Nat.min_eq_left h.1
  bytes := Nat.min_eq_left h.2.1
  flows := Nat.min_eq_left h.2.2
  pktsAvailable := by simp [tally]
  bytesAvailable := by simp [tally]

theorem Unsaturated.left {vs ws : List Part} (h : Unsaturated (vs ++ ws)) : Unsaturated vs := by
  obtain ⟨hpkts, hbytes, hlen⟩ := h
  simp only [pktsOf, bytesOf, List.map_append, List.sum_append, List.length_append]
    at hpkts hbytes hlen
  exact ⟨by rw [pktsOf]; omega, by rw [bytesOf]; omega, by omega⟩

theorem Unsaturated.right {vs ws : List Part} (h : Unsaturated (vs ++ ws)) : Unsaturated ws := by
  obtain ⟨hpkts, hbytes, hlen⟩ := h
  simp only [pktsOf, bytesOf, List.map_append, List.sum_append, List.length_append]
    at hpkts hbytes hlen
  exact ⟨by rw [pktsOf]; omega, by rw [bytesOf]; omega, by omega⟩

/-! ### A dimension -/

namespace Dimension

variable {K : Type} [DecidableEq K] {cap : ℕ} {d e : Dimension K} {k : K} {c : Counts}
  {ps qs : List (K × Part)}

/-- The counts of a first contribution. -/
def first (v : Part) : Counts := Counts.add {} v.1 v.2

/-- The counts with a further contribution. -/
def next (c : Counts) (v : Part) : Counts := c.add v.1 v.2

/-- One contribution. -/
def addPart (cap : ℕ) (d : Dimension K) (p : K × Part) : Dimension K := d.add cap p.1 p.2.1 p.2.2

/-- A dimension after some contributions. -/
def folded (cap : ℕ) (ps : List (K × Part)) : Dimension K := ps.foldl (addPart cap) {}

def keys (d : Dimension K) : List K := d.counts.map Prod.fst

theorem lookup_eq (d : Dimension K) (k : K) : d.lookup k = Capped.get d.counts k := rfl

theorem counts_addPart (p : K × Part) :
    (d.addPart cap p).counts = Capped.put first next cap d.counts p := by
  unfold addPart add Capped.put
  rw [lookup_eq]
  split_ifs <;> rfl

theorem dropped_addPart (p : K × Part) : (d.addPart cap p).dropped =
    if Capped.refused cap d.counts p.1 then saturatingAdd d.dropped 1 else d.dropped := by
  unfold addPart add
  rw [lookup_eq, Capped.refused]
  cases hget : Capped.get d.counts p.1 with
  | some c => rfl
  | none =>
    by_cases hlen : d.counts.length < cap
    · simp [hlen]
    · simp [hlen, Nat.not_lt.mp hlen]

theorem counts_foldl_addPart (d : Dimension K) :
    (ps.foldl (addPart cap) d).counts = Capped.puts first next cap d.counts ps := by
  induction ps generalizing d with
  | nil => rfl
  | cons p ps ih =>
    rw [List.foldl_cons, ih, counts_addPart]
    rfl

theorem dropped_foldl_addPart (d : Dimension K) (n : ℕ) (h : d.dropped = min n u64Max) :
    (ps.foldl (addPart cap) d).dropped =
    min (n + (Capped.losses first next cap d.counts ps).length) u64Max := by
  induction ps generalizing d n with
  | nil => exact h
  | cons p ps ih =>
    rw [List.foldl_cons, Capped.losses, List.length_append, ← counts_addPart]
    by_cases hrefused : Capped.refused cap d.counts p.1 = true
    · rw [if_pos hrefused, ih (d.addPart cap p) (n + 1)]
      · rw [List.length_singleton, Nat.add_assoc]
      · rw [dropped_addPart, if_pos hrefused, h, saturatingAdd_min_left]
    · rw [if_neg hrefused, ih (d.addPart cap p) n]
      · rw [List.length_nil, Nat.zero_add]
      · rw [dropped_addPart, if_neg hrefused, h]

theorem counts_folded : (folded cap ps).counts = Capped.puts first next cap [] ps :=
  counts_foldl_addPart {}

theorem collect_tally (vs ws : List Part) :
    Capped.collect first next (some (tally vs)) ws = some (tally (vs ++ ws)) := by
  induction ws generalizing vs with
  | nil => rw [List.append_nil]; rfl
  | cons w ws ih =>
    have hstep : Capped.collect first next (some (tally vs)) (w :: ws) =
        Capped.collect first next (some (tally (vs ++ [w]))) ws := by
      rw [← tally_concat]
      rfl
    rw [hstep, ih, List.append_assoc]
    rfl

theorem collect_none (vs : List Part) :
    Capped.collect first next none vs = if vs = [] then none else some (tally vs) := by
  cases vs with
  | nil => rfl
  | cons v vs =>
    have hstep : Capped.collect first next none (v :: vs) =
      Capped.collect first next (some (tally [v])) vs := by
      rw [← List.nil_append [v], ← tally_concat, tally_nil]
      rfl
    rw [hstep, collect_tally, if_neg (List.cons_ne_nil v vs)]
    rfl

theorem nodup_folded (cap : ℕ) (ps : List (K × Part)) : (folded cap ps).keys.Nodup := by
  rw [keys, counts_folded]
  exact Capped.nodup_puts List.nodup_nil

theorem length_folded (cap : ℕ) (ps : List (K × Part)) : (folded cap ps).counts.length ≤ cap := by
  rw [counts_folded]
  exact Capped.length_puts (Nat.zero_le cap)

/-- The contributions that were not counted. -/
def lost (d : Dimension K) (ps : List (K × Part)) : ℕ :=
  (ps.filter fun p => decide (p.1 ∉ d.keys)).length

theorem dropped_folded (cap : ℕ) (ps : List (K × Part)) :
    (folded cap ps).dropped = min ((folded cap ps).lost ps) u64Max := by
  have h : (ps.foldl (addPart cap) {}).dropped = _ := dropped_foldl_addPart {} 0 rfl
  rw [Nat.zero_add] at h
  rw [folded, h, Capped.losses_eq, lost, keys, ← folded, counts_folded]

/-- A key that is there has the counts of all its contributions. -/
theorem lookup_folded (h : k ∈ (folded cap ps).keys) :
    (folded cap ps).lookup k = some (tally (Capped.values k ps)) := by
  rw [keys, counts_folded] at h
  have hget := Capped.get_puts h
  rw [Capped.get_nil, collect_none] at hget
  rw [lookup_eq, counts_folded, hget, if_neg]
  intro hnil
  rw [if_pos hnil] at hget
  exact Capped.get_eq_none.mp hget h

theorem mem_keys_of_lookup (h : d.lookup k = some c) : k ∈ d.keys :=
  List.mem_map_of_mem (f := Prod.fst) (Capped.mem_of_get h)

theorem losses_folded (h : (folded cap ps).dropped = 0) :
    Capped.losses first next cap [] ps = [] := by
  rw [dropped_folded] at h
  have hzero : (folded cap ps).lost ps = 0 := by
    have hpos : 0 < u64Max := by decide
    omega
  rw [Capped.losses_eq, ← List.length_eq_zero_iff, ← counts_folded]
  exact hzero

/-- Where nothing was dropped, every key has the counts of all its contributions. -/
theorem lookup_folded_of_dropped (h : (folded cap ps).dropped = 0) (k : K) :
    (folded cap ps).lookup k = if Capped.values k ps = [] then
    none else some (tally (Capped.values k ps)) := by
  rw [lookup_eq, counts_folded, Capped.get_puts_of_losses (losses_folded h), Capped.get_nil,
    collect_none]

/-- Something that is said of each key with its counts, summed up. -/
theorem sum_counts_eq {f : Counts → ℕ} {g : K → ℕ} (hnodup : d.keys.Nodup)
    (h : ∀ k c, d.lookup k = some c → f c = g k) :
    (d.counts.map fun p => f p.2).sum = (d.keys.map g).sum := by
  rw [keys, List.map_map]
  congr 1
  exact List.map_congr_left fun p hp => h p.1 p.2 (Capped.get_of_mem hnodup hp)

/-- The flows over all keys. -/
def flows (d : Dimension K) : ℕ := (d.counts.map fun p => p.2.flows).sum

/-- **Every contribution is counted or dropped.** -/
theorem flows_add_dropped (hsat : ∀ k, Unsaturated (Capped.values k ps))
    (hlost : (folded cap ps).lost ps ≤ u64Max) :
    (folded cap ps).flows + (folded cap ps).dropped = ps.length := by
  have hnodup := nodup_folded cap ps
  have hflows : (folded cap ps).flows =
      ((folded cap ps).keys.map fun k => ((Capped.values k ps).map fun _ => 1).sum).sum := by
    refine sum_counts_eq hnodup fun k c hc => ?_
    rw [lookup_folded (mem_keys_of_lookup hc)] at hc
    obtain rfl := Option.some.inj hc
    simpa using (exact_tally (hsat k)).flows
  have hsum := Capped.sum_values_add_losses (fun _ : Part => 1) hnodup ps
  rw [hflows, dropped_folded, Nat.min_eq_left hlost, lost]
  simpa using hsum

/-! ### Two dimensions -/

theorem counts_mergeKey (p : K × Counts) :
    (d.mergeKey cap p).counts = Capped.put id Counts.merge cap d.counts p := by
  unfold mergeKey Capped.put
  rw [lookup_eq]
  split_ifs <;> rfl

theorem dropped_mergeKey (p : K × Counts) : (mergeKey cap d p).dropped =
    if Capped.refused cap d.counts p.1 then saturatingAdd d.dropped (max p.2.flows 1)
      else d.dropped := by
  unfold mergeKey
  rw [lookup_eq, Capped.refused]
  cases hget : Capped.get d.counts p.1 with
  | some c => rfl
  | none =>
    by_cases hlen : d.counts.length < cap
    · simp [hlen]
    · simp [hlen, Nat.not_lt.mp hlen]

theorem counts_merge (d e : Dimension K) :
    (merge cap d e).counts = Capped.puts id Counts.merge cap d.counts e.counts := by
  have h : ∀ (l : List (K × Counts)) (d : Dimension K),
      (l.foldl (mergeKey cap) d).counts = Capped.puts id Counts.merge cap d.counts l := by
    intro l
    induction l with
    | nil => exact fun _ => rfl
    | cons p l ih =>
      intro d
      rw [List.foldl_cons, ih, counts_mergeKey]
      rfl
  exact h e.counts (d.mark e.dropped)

/-- What is dropped: what both had dropped, and the flows of the keys that are refused. -/
theorem dropped_merge (n m : ℕ) (hd : d.dropped = min n u64Max) (he : e.dropped = min m u64Max) :
    (merge cap d e).dropped = min (n + m +
      ((Capped.losses id Counts.merge cap d.counts e.counts).map fun p => max p.2.flows 1).sum)
      u64Max := by
  have h : ∀ (l : List (K × Counts)) (d : Dimension K) (n : ℕ), d.dropped = min n u64Max →
      (l.foldl (mergeKey cap) d).dropped =
        min (n + ((Capped.losses id Counts.merge cap d.counts l).map fun p => max p.2.flows 1).sum)
          u64Max := by
    intro l
    induction l with
    | nil => exact fun _ _ h => h
    | cons p l ih =>
      intro d n hn
      rw [List.foldl_cons, Capped.losses, List.map_append, List.sum_append, ← counts_mergeKey]
      by_cases hrefused : Capped.refused cap d.counts p.1 = true
      · rw [if_pos hrefused, ih (mergeKey cap d p) (n + max p.2.flows 1)]
        · rw [List.map_singleton, List.sum_singleton, Nat.add_assoc]
        · rw [dropped_mergeKey, if_pos hrefused, hn, saturatingAdd_min_left]
      · rw [if_neg hrefused, ih (mergeKey cap d p) n]
        · rw [List.map_nil, List.sum_nil, Nat.zero_add]
        · rw [dropped_mergeKey, if_neg hrefused, hn]
  exact h e.counts (d.mark e.dropped) (n + m) (by
    rw [mark, hd, he, saturatingAdd_min])

/-- The same map: of each key the same, and as much dropped. -/
structure Same (d e : Dimension K) : Prop where
  lookup : ∀ k, d.lookup k = e.lookup k
  dropped : d.dropped = e.dropped

/-- The same map in another order. -/
structure Shuffled (d e : Dimension K) : Prop where
  perm : d.counts.Perm e.counts
  dropped : d.dropped = e.dropped

omit [DecidableEq K] in
theorem Shuffled.nodup (h : Shuffled d e) (hnodup : e.keys.Nodup) : d.keys.Nodup :=
  (h.perm.map Prod.fst).nodup_iff.mpr hnodup

theorem Shuffled.lookup (h : Shuffled d e) (hnodup : e.keys.Nodup) (k : K) :
    d.lookup k = e.lookup k :=
  Capped.get_perm (h.nodup hnodup) h.perm

/-- **Where no cap is hit, merging is folding**: what two parts hold together is what one bucket of
all their contributions holds. -/
theorem merge_same (he : Shuffled e (folded cap qs)) (hfits : (folded cap (ps ++ qs)).dropped = 0) :
    Same (merge cap (folded cap ps) e) (folded cap (ps ++ qs)) := by
  have hnodup := he.nodup (nodup_folded cap qs)
  have hlength : (folded cap (ps ++ qs)).keys.length ≤ cap := by
    rw [keys, List.length_map]
    exact length_folded cap (ps ++ qs)
  have hall : (ps ++ qs).map Prod.fst ⊆ (folded cap (ps ++ qs)).keys := by
    intro k hk
    have hlookup := lookup_folded_of_dropped hfits k
    rw [if_neg fun hnil => Capped.values_eq_nil.mp hnil hk] at hlookup
    exact mem_keys_of_lookup hlookup
  rw [List.map_append, List.append_subset] at hall
  have hkeys : ∀ {rs : List (K × Part)}, (folded cap rs).keys ⊆ rs.map Prod.fst := by
    intro rs k hk
    rw [keys, counts_folded] at hk
    exact (Capped.mem_of_mem_puts hk).resolve_left List.not_mem_nil
  -- The keys of all three folds, and of the merge, fit under the cap.
  have hlossesP : (folded cap ps).dropped = 0 := by
    rw [dropped_folded, lost, keys, counts_folded, ← Capped.losses_eq,
      Capped.losses_of_fits (m := []) hlength List.nodup_nil (List.nil_subset _) hall.1]
    rfl
  have hlossesQ : (folded cap qs).dropped = 0 := by
    rw [dropped_folded, lost, keys, counts_folded, ← Capped.losses_eq,
      Capped.losses_of_fits (m := []) hlength List.nodup_nil (List.nil_subset _) hall.2]
    rfl
  have hlosses : Capped.losses id Counts.merge cap (folded cap ps).counts e.counts = [] :=
    Capped.losses_of_fits hlength (nodup_folded cap ps) (fun k hk => hall.1 (hkeys hk))
      fun k hk => hall.2 (hkeys ((he.perm.map Prod.fst).mem_iff.mp hk))
  constructor
  · intro k
    rw [lookup_eq, counts_merge, Capped.get_puts_of_losses hlosses,
      Capped.values_eq_toList hnodup, ← lookup_eq, ← lookup_eq, he.lookup (nodup_folded cap qs),
      lookup_folded_of_dropped hlossesP, lookup_folded_of_dropped hlossesQ,
      lookup_folded_of_dropped hfits, Capped.values_append]
    by_cases hp : Capped.values k ps = []
    · by_cases hq : Capped.values k qs = []
      · simp [hp, hq, Capped.collect]
      · simp [hp, hq, Capped.collect]
    · by_cases hq : Capped.values k qs = []
      · simp [hp, hq, Capped.collect]
      · simp [hp, hq, Capped.collect, merge_tally]
  · rw [dropped_merge 0 0 (by rw [hlossesP]; rfl) (by rw [he.dropped, hlossesQ]; rfl),
      hlosses, hfits]
    rfl

/-- The contributions that were not counted after a merge: what both had not counted, and the flows
of the keys that were refused. -/
def lostMerging (d e m : Dimension K) (ps qs : List (K × Part)) : ℕ :=
  d.lost ps + e.lost qs + ((e.counts.filter fun p => decide (p.1 ∉ m.keys)).map fun p =>
      p.2.flows).sum

/-- The flows of a key after a merge. -/
theorem flows_lookup_merge (he : Shuffled e (folded cap qs))
    (hsat : ∀ k, Unsaturated (Capped.values k (ps ++ qs)))
    (h : (merge cap (folded cap ps) e).lookup k = some c) :
    c.flows = ((Capped.values k (folded cap ps).counts).map Counts.flows).sum +
      ((Capped.values k e.counts).map Counts.flows).sum := by
  -- the key is in one of the two dimensions, since a merge makes no keys
  have hmem := mem_keys_of_lookup h
  rw [keys, counts_merge] at hmem
  rw [lookup_eq, counts_merge, Capped.get_puts hmem,
    Capped.values_eq_toList (he.nodup (nodup_folded cap qs))] at h
  rw [Capped.values_eq_toList (nodup_folded cap ps),
    Capped.values_eq_toList (he.nodup (nodup_folded cap qs))]
  have hfirst : ∀ c, (folded cap ps).lookup k = some c →
    c.flows = min (Capped.values k ps).length u64Max := by
    intro c hc
    rw [lookup_folded (mem_keys_of_lookup hc)] at hc
    rw [← Option.some.inj hc, tally]
  have hsecond : ∀ c, e.lookup k = some c → c.flows = min (Capped.values k qs).length u64Max := by
    intro c hc
    rw [he.lookup (nodup_folded cap qs)] at hc
    rw [lookup_folded (mem_keys_of_lookup hc)] at hc
    rw [← Option.some.inj hc, tally]
  -- the sum is below the maximum, so neither minimum nor the saturating addition cuts anything
  have hlen := (hsat k).2.2
  rw [Capped.values_append, List.length_append] at hlen
  rw [← lookup_eq, ← lookup_eq] at h ⊢
  cases hd : (folded cap ps).lookup k with
  | none =>
    cases hq : e.lookup k with
    | none =>
      rw [hd, hq] at h
      cases h
    | some b =>
      rw [hd, hq] at h
      obtain rfl := Option.some.inj h
      simp
  | some a =>
    cases hq : e.lookup k with
    | none =>
      rw [hd, hq] at h
      obtain rfl := Option.some.inj h
      simp
    | some b =>
      rw [hd, hq] at h
      obtain rfl := Option.some.inj h
      have ha := hfirst a hd
      have hb := hsecond b hq
      simp only [Option.elim_some, Counts.merge, saturatingAdd_eq, Option.toList_some,
        List.map_cons, List.map_nil, List.sum_cons, List.sum_nil, Nat.add_zero]
      omega

/-- A key that is there has a flow. -/
theorem one_le_flows (he : Shuffled e (folded cap qs)) {p : K × Counts} (hp : p ∈ e.counts) :
    1 ≤ p.2.flows := by
  have hmem : p ∈ (folded cap qs).counts := he.perm.mem_iff.mp hp
  have hkey : p.1 ∈ (folded cap qs).keys := List.mem_map_of_mem hmem
  have hlookup := lookup_folded hkey
  rw [lookup_eq, Capped.get_of_mem (nodup_folded cap qs) hmem] at hlookup
  rw [Option.some.inj hlookup, tally]
  have hvalues : Capped.values p.1 qs ≠ [] := by
    rw [keys, counts_folded] at hkey
    exact fun hnil => Capped.values_eq_nil.mp hnil
      ((Capped.mem_of_mem_puts hkey).resolve_left List.not_mem_nil)
  have hpos := List.length_pos_of_ne_nil hvalues
  have hmax : 1 ≤ u64Max := by decide
  exact le_min hpos hmax

/-- **Merging loses no contribution**: each is counted or dropped. -/
theorem flows_add_dropped_merge (he : Shuffled e (folded cap qs))
    (hsat : ∀ k, Unsaturated (Capped.values k (ps ++ qs)))
    (hlost : lostMerging (folded cap ps) e (merge cap (folded cap ps) e) ps qs ≤ u64Max) :
    (merge cap (folded cap ps) e).flows + (merge cap (folded cap ps) e).dropped =
    ps.length + qs.length := by
  have hnodupE := he.nodup (nodup_folded cap qs)
  generalize hm : merge cap (folded cap ps) e = m at hlost
  have hcounts : m.counts = Capped.puts id Counts.merge cap
    (folded cap ps).counts e.counts := by rw [← hm, counts_merge]
  have hnodup : m.keys.Nodup := by
    rw [keys, hcounts]
    exact Capped.nodup_puts (nodup_folded cap ps)
  have hlostE : e.lost qs = (folded cap qs).lost qs := by
    rw [lost, lost]
    congr 1
    exact List.filter_congr fun p _ =>
      decide_eq_decide.mpr (not_congr (he.perm.map Prod.fst).mem_iff)
  -- The flows of the merge are those of both, without those of the keys that were refused.
  have hflows : m.flows =
      (m.keys.map fun k => ((Capped.values k (folded cap ps).counts).map Counts.flows).sum).sum +
        (m.keys.map fun k => ((Capped.values k e.counts).map Counts.flows).sum).sum := by
    rw [← List.sum_map_add]
    exact sum_counts_eq hnodup fun k c hc => flows_lookup_merge he hsat (by rw [hm]; exact hc)
  have hfirst := Capped.sum_values_add_losses Counts.flows hnodup (folded cap ps).counts
  have hsecond := Capped.sum_values_add_losses Counts.flows hnodup e.counts
  have hnone : ((folded cap ps).counts.filter fun p => decide (p.1 ∉ m.keys)) = [] := by
    rw [List.filter_eq_nil_iff]
    intro p hp
    have hin : p.1 ∈ m.keys := by
      rw [keys, hcounts]
      exact Capped.mem_keys_puts (List.mem_map_of_mem hp)
    simpa using hin
  rw [hnone, List.map_nil, List.sum_nil, Nat.add_zero] at hfirst
  have hrefused : (Capped.losses id Counts.merge cap (folded cap ps).counts e.counts).map
    (fun p => max p.2.flows 1) =
      (e.counts.filter fun p => decide (p.1 ∉ m.keys)).map fun p => p.2.flows := by
    rw [Capped.losses_eq, ← hcounts, ← keys]
    refine List.map_congr_left fun p hp => ?_
    have hone := one_le_flows he (List.mem_filter.mp hp).1
    omega
  have hdropped : (merge cap (folded cap ps) e).dropped = _ :=
    dropped_merge ((folded cap ps).lost ps) (e.lost qs) (dropped_folded cap ps)
    (by rw [he.dropped, dropped_folded, hlostE])
  rw [hm, hrefused, ← lostMerging, Nat.min_eq_left hlost, lostMerging] at hdropped
  have hps : (folded cap ps).flows + (folded cap ps).dropped = ps.length :=
    flows_add_dropped (fun k => Unsaturated.left (Capped.values_append ps qs ▸ hsat k))
    (by rw [lostMerging] at hlost; omega)
  have hqs : (folded cap qs).flows + (folded cap qs).dropped = qs.length :=
    flows_add_dropped (fun k => Unsaturated.right (Capped.values_append ps qs ▸ hsat k))
    (by rw [lostMerging, hlostE] at hlost; omega)
  have hpsLost : (folded cap ps).dropped = (folded cap ps).lost ps := by
    rw [dropped_folded, Nat.min_eq_left (by rw [lostMerging] at hlost; omega)]
  have hqsLost : (folded cap qs).dropped = (folded cap qs).lost qs := by
    rw [dropped_folded, Nat.min_eq_left (by rw [lostMerging, hlostE] at hlost; omega)]
  have hflowsE : (e.counts.map fun p => p.2.flows).sum = (folded cap qs).flows :=
    (he.perm.map _).sum_eq
  have hflowsD : ((folded cap ps).counts.map fun p => p.2.flows).sum = (folded cap ps).flows := rfl
  omega

/-- Where nothing was dropped, no key was refused. -/
theorem losses_of_dropped_merge (h : (merge cap d e).dropped = 0) :
    d.dropped = 0 ∧ e.dropped = 0 ∧ Capped.losses id Counts.merge cap d.counts e.counts = [] := by
  have hadd : ∀ {a b : ℕ}, saturatingAdd a b = 0 → a = 0 ∧ b = 0 := by
    intro a b hab
    rw [saturatingAdd_eq] at hab
    have hmax : 0 < u64Max := by decide
    omega
  have hfold : ∀ (l : List (K × Counts)) (d : Dimension K), (l.foldl (mergeKey cap) d).dropped = 0 →
      d.dropped = 0 ∧ Capped.losses id Counts.merge cap d.counts l = [] := by
    intro l
    induction l with
    | nil => exact fun d hd => ⟨hd, rfl⟩
    | cons p l ih =>
      intro d hd
      obtain ⟨hkey, hrest⟩ := ih (mergeKey cap d p) hd
      rw [dropped_mergeKey] at hkey
      rw [counts_mergeKey] at hrest
      rw [Capped.losses, hrest, List.append_nil]
      split_ifs at hkey ⊢ with hrefused
      · have hone := (hadd hkey).2
        omega
      · exact ⟨hkey, rfl⟩
  obtain ⟨hmark, hlosses⟩ := hfold e.counts (d.mark e.dropped) h
  exact ⟨(hadd hmark).1, (hadd hmark).2, hlosses⟩

end Dimension

/-! ### The four dimensions -/

/-- A dimension of a bucket, with its cap and what each flow contributes to it. -/
structure Axis (K : Type) [DecidableEq K] where
  get : Accum → Dimension K
  cap : ℕ
  parts : FlowRecord → List (K × Part)
  /-- Whether a bucket is reported complete in the dimension. -/
  complete : Accum → ℕ → Bool
  get_empty : get {} = {}
  get_fold : ∀ a fr, get (a.fold fr) = (parts fr).foldl (Dimension.addPart cap) (get a)
  get_merge : ∀ a b, get (a.mergeFrom b) = (get a).merge cap (get b)
  complete_dropped : ∀ a topK, complete a topK = true → a.baseComplete = true ∧ (get a).dropped = 0
  /-- A merge is complete only where both parts are. -/
  complete_merge : ∀ a b topK, (get b).keys.Nodup → complete (a.mergeFrom b) topK = true →
    complete a topK = true ∧ complete b topK = true

/-- What a flow contributes under a key. -/
def partOf (fr : FlowRecord) : Part := (fr.pkts, fr.bytes)

/-- What a flow contributes, if it has an interface. -/
def partsAt {K : Type} (fr : FlowRecord) (keys : ℕ → Direction → List K) : List (K × Part) :=
  match attribution fr with
  | (_, none) => []
  | (dir, some ifindex) => (keys ifindex dir).map fun k => (k, partOf fr)

/-- One contribution, to its interface. -/
def ifaceParts (fr : FlowRecord) : List (IfaceKey × Part) :=
  partsAt fr fun ifindex dir => [(ifindex, dir)]

/-- One contribution for each of the two ports it has, of a protocol that has ports. -/
def portParts (fr : FlowRecord) : List (PortKey × Part) :=
  partsAt fr fun ifindex dir =>
    if hasPorts fr then
      (fr.srcPort.toList.map fun p => (ifindex, dir, fr.protocol, .src, p)) ++
        fr.dstPort.toList.map fun p => (ifindex, dir, fr.protocol, .dst, p)
    else []

/-- One contribution for each of the two systems that is known. -/
def asnParts (fr : FlowRecord) : List (AsKey × Part) :=
  partsAt fr fun ifindex dir =>
    ((fr.srcAs.filter (· ≠ 0)).toList.map fun n => (ifindex, dir, .src, n)) ++
      (fr.dstAs.filter (· ≠ 0)).toList.map fun n => (ifindex, dir, .dst, n)

/-- One contribution, to its tuple. -/
def talkerParts (fr : FlowRecord) : List (TalkerKey × Part) :=
  partsAt fr fun ifindex dir =>
    [⟨ifindex, dir, fr.srcAddr, fr.dstAddr, fr.srcPort, fr.dstPort, fr.protocol⟩]

section Merge

variable {K : Type} [DecidableEq K] {a b : Accum}

/-- A dimension that is complete when nothing was dropped in it. -/
theorem complete_mergeFrom (get : Accum → Dimension K) {cap : ℕ}
    (hmerge : ∀ a b, get (a.mergeFrom b) = (get a).merge cap (get b))
    (h : ((a.mergeFrom b).baseComplete && decide ((get (a.mergeFrom b)).dropped = 0)) = true) :
    (a.baseComplete && decide ((get a).dropped = 0)) = true ∧
    (b.baseComplete && decide ((get b).dropped = 0)) = true := by
  rw [hmerge, Bool.and_eq_true, decide_eq_true_eq] at h
  obtain ⟨hbase, hdropped⟩ := h
  obtain ⟨ha, hb⟩ : a.baseComplete = true ∧ b.baseComplete = true := (Bool.and_eq_true _ _).mp hbase
  have hboth := Dimension.losses_of_dropped_merge hdropped
  rw [ha, hb, hboth.1, hboth.2.1]
  exact ⟨rfl, rfl⟩

end Merge

def ifaceAxis : Axis IfaceKey where
  get := Accum.iface
  cap := maxIfaceKeys
  parts := ifaceParts
  complete a topK := (a.quality topK).ifaceComplete
  get_empty := rfl
  get_fold a fr := by
    unfold Accum.fold ifaceParts partsAt
    generalize attribution fr = at'
    obtain ⟨dir, _ | ifindex⟩ := at' <;> rfl
  get_merge _ _ := rfl
  complete_dropped a topK h := by simpa [Accum.quality] using h
  complete_merge a b topK _ h := complete_mergeFrom Accum.iface (fun _ _ => rfl) h

def portAxis : Axis PortKey where
  get := Accum.port
  cap := maxPortKeys
  parts := portParts
  complete a topK := (a.quality topK).portComplete
  get_empty := rfl
  get_fold a fr := by
    unfold Accum.fold portParts partsAt
    generalize attribution fr = at'
    obtain ⟨dir, _ | ifindex⟩ := at'
    · rfl
    · cases fr.srcPort <;> cases fr.dstPort <;> cases hasPorts fr <;> rfl
  get_merge _ _ := rfl
  complete_dropped a topK h := by simpa [Accum.quality] using h
  complete_merge a b topK _ h := complete_mergeFrom Accum.port (fun _ _ => rfl) h

def asnAxis : Axis AsKey where
  get := Accum.asn
  cap := maxAsKeys
  parts := asnParts
  complete a topK := (a.quality topK).asnComplete
  get_empty := rfl
  get_fold a fr := by
    unfold Accum.fold asnParts partsAt
    generalize attribution fr = at'
    obtain ⟨dir, _ | ifindex⟩ := at'
    · rfl
    · dsimp only
      generalize fr.srcAs.filter (· ≠ 0) = src
      generalize fr.dstAs.filter (· ≠ 0) = dst
      cases src <;> cases dst <;> rfl
  get_merge _ _ := rfl
  complete_dropped a topK h := by simpa [Accum.quality] using h
  complete_merge a b topK _ h := complete_mergeFrom Accum.asn (fun _ _ => rfl) h

/-- Of the talkers those beyond the first ones are not written, which is a loss, too. -/
theorem talkerComplete_iff {a : Accum} {topK : ℕ} : (a.quality topK).talkerComplete = true ↔
    (a.baseComplete && decide (a.talker.dropped = 0)) = true ∧ a.talker.counts.length ≤ topK := by
  have hquality : (a.quality topK).talkerComplete =
      (a.baseComplete && decide (saturatingAdd a.talker.dropped (a.talker.counts.length - topK) =
        0)) := rfl
  have hzero : saturatingAdd a.talker.dropped (a.talker.counts.length - topK) = 0 ↔
      a.talker.dropped = 0 ∧ a.talker.counts.length ≤ topK := by
    have hmax : 0 < u64Max := by decide
    rw [saturatingAdd_eq]
    omega
  rw [hquality, Bool.and_eq_true, Bool.and_eq_true, decide_eq_true_eq, decide_eq_true_eq,
    hzero, and_assoc]

def talkerAxis : Axis TalkerKey where
  get := Accum.talker
  cap := maxTalkerKeys
  parts := talkerParts
  complete a topK := (a.quality topK).talkerComplete
  get_empty := rfl
  get_fold a fr := by
    unfold Accum.fold talkerParts partsAt
    generalize attribution fr = at'
    obtain ⟨dir, _ | ifindex⟩ := at' <;> rfl
  get_merge _ _ := rfl
  complete_dropped a topK h := by simpa using (talkerComplete_iff.mp h).1
  complete_merge a b topK hnodup h := by
    obtain ⟨hcomplete, hlen⟩ := talkerComplete_iff.mp h
    obtain ⟨ha, hb⟩ := complete_mergeFrom Accum.talker (fun _ _ => rfl) hcomplete
    have hdropped : (a.talker.merge maxTalkerKeys b.talker).dropped = 0 :=
      decide_eq_true_eq.mp ((Bool.and_eq_true _ _).mp hcomplete).2
    have hlosses := (Dimension.losses_of_dropped_merge hdropped).2.2
    -- No talker of either part is missing in the merge.
    have hcounts : (a.mergeFrom b).talker.counts =
        Capped.puts id Counts.merge maxTalkerKeys a.talker.counts b.talker.counts :=
          Dimension.counts_merge ..
    have hkeysA : a.talker.counts.length ≤ (a.mergeFrom b).talker.counts.length := by
      rw [hcounts]
      exact Capped.length_le_puts
    have hkeysB : b.talker.counts.length ≤ (a.mergeFrom b).talker.counts.length := by
      rw [hcounts]
      exact Capped.length_le_of_losses hnodup hlosses
    exact ⟨talkerComplete_iff.mpr ⟨ha, hkeysA.trans hlen⟩,
      talkerComplete_iff.mpr ⟨hb, hkeysB.trans hlen⟩⟩

/-! ### The laws of a bucket -/

/-- A bucket after some flows. -/
def Accum.folded (rs : List FlowRecord) : Accum := rs.foldl Accum.fold {}

/-- The same bucket, its maps in any order. -/
structure Accum.Shuffled (a b : Accum) : Prop where
  iface : a.iface.Shuffled b.iface
  port : a.port.Shuffled b.port
  asn : a.asn.Shuffled b.asn
  talker : a.talker.Shuffled b.talker
  baseComplete : a.baseComplete = b.baseComplete

theorem Accum.Shuffled.refl (a : Accum) : a.Shuffled a :=
  ⟨⟨.refl _, rfl⟩, ⟨.refl _, rfl⟩, ⟨.refl _, rfl⟩, ⟨.refl _, rfl⟩, rfl⟩

namespace Axis

variable {K : Type} [DecidableEq K] (x : Axis K)

/-- What some flows contribute. -/
def contributions (rs : List FlowRecord) : List (K × Part) := rs.flatMap x.parts

/-- What some flows contribute to a key. -/
def partsOf (rs : List FlowRecord) (k : K) : List Part := Capped.values k (x.contributions rs)

theorem get_folded (rs : List FlowRecord) :
    x.get (Accum.folded rs) = Dimension.folded x.cap (x.contributions rs) := by
  have h : ∀ a, x.get (rs.foldl Accum.fold a) =
    (rs.flatMap x.parts).foldl (Dimension.addPart x.cap) (x.get a) := by
    induction rs with
    | nil => exact fun _ => rfl
    | cons fr rs ih =>
      intro a
      rw [List.foldl_cons, ih, x.get_fold, List.flatMap_cons, List.foldl_append]
  exact (h {}).trans (by rw [x.get_empty]; rfl)

theorem get_fold_congr {a b : Accum} (h : x.get a = x.get b) (fr : FlowRecord) :
    x.get (a.fold fr) = x.get (b.fold fr) := by
  rw [x.get_fold, x.get_fold, h]

/-- The counters of a dimension do not saturate: those of its keys, and the one of what is
dropped. -/
def Unsaturated (rs : List FlowRecord) : Prop :=
  (∀ k, Collector.Unsaturated (x.partsOf rs k)) ∧
    (x.get (Accum.folded rs)).lost (x.contributions rs) ≤ u64Max

/-- The counters of a dimension do not saturate when it is merged. -/
def UnsaturatedMerge (rs rs' : List FlowRecord) (b : Accum) : Prop :=
  (∀ k, Collector.Unsaturated (x.partsOf (rs ++ rs') k)) ∧
    (x.get (Accum.folded rs)).lostMerging (x.get b) (x.get ((Accum.folded rs).mergeFrom b))
    (x.contributions rs)
      (x.contributions rs') ≤ u64Max

/-- **The laws of a dimension.** -/
structure Laws (x : Axis K) : Prop where
  /-- The keys are below the cap. -/
  length_le : ∀ rs, (x.get (Accum.folded rs)).counts.length ≤ x.cap
  /-- Each contribution is counted or dropped. -/
  conserved : ∀ rs, x.Unsaturated rs →
    (x.get (Accum.folded rs)).flows + (x.get (Accum.folded rs)).dropped =
    (x.contributions rs).length
  /-- A key has the sums of all its contributions. -/
  exact : ∀ rs, x.Unsaturated rs → ∀ k c, (x.get (Accum.folded rs)).lookup k = some c →
    Exact c (x.partsOf rs k)
  /-- A dimension that is reported complete has every key. -/
  complete : ∀ rs topK, x.Unsaturated rs → x.complete (Accum.folded rs) topK = true → ∀ k,
    match (x.get (Accum.folded rs)).lookup k with
    | some c => Exact c (x.partsOf rs k)
    | none => x.partsOf rs k = []
  /-- Merging two buckets is folding their flows. -/
  merge_same : ∀ rs rs' b, b.Shuffled (Accum.folded rs') →
    (x.get (Accum.folded (rs ++ rs'))).dropped = 0 →
    (x.get ((Accum.folded rs).mergeFrom b)).Same (x.get (Accum.folded (rs ++ rs')))
  /-- Merging loses no contribution. -/
  merge_conserved : ∀ rs rs' b, b.Shuffled (Accum.folded rs') → x.UnsaturatedMerge rs rs' b →
    (x.get ((Accum.folded rs).mergeFrom b)).flows +
    (x.get ((Accum.folded rs).mergeFrom b)).dropped =
      (x.contributions rs).length + (x.contributions rs').length
  /-- Merging completes nothing. -/
  merge_complete : ∀ a b topK, (x.get b).keys.Nodup → x.complete (a.mergeFrom b) topK = true →
    x.complete a topK = true ∧ x.complete b topK = true

variable {x}

/-- Where the sums over all contributions fit their counters, those of each key do. -/
theorem unsaturated_partsOf {rs : List FlowRecord}
    (h : Collector.Unsaturated ((x.contributions rs).map Prod.snd)) (k : K) :
    Collector.Unsaturated (x.partsOf rs k) := by
  obtain ⟨hpkts, hbytes, hlen⟩ := h
  have hsub : (x.partsOf rs k).Sublist ((x.contributions rs).map Prod.snd) :=
    List.filter_sublist.map Prod.snd
  refine ⟨le_trans ?_ hpkts, le_trans ?_ hbytes, hsub.length_le.trans hlen⟩
  · exact (hsub.map fun v => v.1.getD 0).sum_le_sum fun _ _ => Nat.zero_le _
  · exact (hsub.map fun v => v.2.getD 0).sum_le_sum fun _ _ => Nat.zero_le _

theorem contributions_append (rs rs' : List FlowRecord) :
    x.contributions (rs ++ rs') = x.contributions rs ++ x.contributions rs' := List.flatMap_append

theorem laws (hshuffled : ∀ a b : Accum, a.Shuffled b → (x.get a).Shuffled (x.get b)) : x.Laws where
  length_le rs := by
    rw [x.get_folded]
    exact Dimension.length_folded ..
  conserved rs h := by
    obtain ⟨hsat, hlost⟩ := h
    rw [x.get_folded] at hlost ⊢
    exact Dimension.flows_add_dropped hsat hlost
  exact rs h k c hc := by
    rw [x.get_folded] at hc
    rw [Dimension.lookup_folded (Dimension.mem_keys_of_lookup hc)] at hc
    obtain rfl := Option.some.inj hc
    exact exact_tally (h.1 k)
  complete rs topK h hcomplete k := by
    -- a dimension that is reported complete has refused no key
    have hdropped := (x.complete_dropped _ _ hcomplete).2
    rw [x.get_folded] at hdropped ⊢
    rw [Dimension.lookup_folded_of_dropped hdropped]
    by_cases hnil : Capped.values k (x.contributions rs) = []
    · rw [if_pos hnil]
      exact hnil
    · rw [if_neg hnil]
      exact exact_tally (h.1 k)
  merge_same rs rs' b hb hdropped := by
    have he := hshuffled _ _ hb
    rw [x.get_folded, contributions_append] at hdropped ⊢
    rw [x.get_folded] at he
    rw [x.get_merge, x.get_folded]
    exact Dimension.merge_same he hdropped
  merge_conserved rs rs' b hb h := by
    have he := hshuffled _ _ hb
    obtain ⟨hsat, hlost⟩ := h
    simp only [partsOf, contributions_append] at hsat
    rw [x.get_merge, x.get_folded] at hlost ⊢
    rw [x.get_folded] at he
    exact Dimension.flows_add_dropped_merge he hsat hlost
  merge_complete := x.complete_merge

end Axis

/-- The other dimensions of two buckets are the same, and are reported the same. -/
structure Accum.AgreeApart (a b : Accum) : Prop where
  iface : a.iface = b.iface
  port : a.port = b.port
  asn : a.asn = b.asn
  baseComplete : a.baseComplete = b.baseComplete

theorem Accum.AgreeApart.quality {a b : Accum} (h : a.AgreeApart b) (topK topK' : ℕ) :
    (a.quality topK).ifaceComplete = (b.quality topK').ifaceComplete ∧
      (a.quality topK).portComplete = (b.quality topK').portComplete ∧
      (a.quality topK).asnComplete = (b.quality topK').asnComplete ∧
      (a.quality topK).ifaceDropped = (b.quality topK').ifaceDropped ∧
      (a.quality topK).portDropped = (b.quality topK').portDropped ∧
      (a.quality topK).asnDropped = (b.quality topK').asnDropped := by
  simp only [Accum.quality, h.iface, h.port, h.asn, h.baseComplete, and_self]

theorem Accum.baseComplete_fold (a : Accum) (fr : FlowRecord) :
    (a.fold fr).baseComplete = a.baseComplete := by
  unfold Accum.fold
  split <;> rfl

theorem Accum.baseComplete_folded (rs : List FlowRecord) :
    (Accum.folded rs).baseComplete = true := by
  have h : ∀ a : Accum, (rs.foldl Accum.fold a).baseComplete = a.baseComplete := by
    induction rs with
    | nil => exact fun _ => rfl
    | cons fr rs ih => exact fun a => (ih _).trans (a.baseComplete_fold fr)
  exact h {}

theorem Accum.AgreeApart.fold {a b : Accum} (h : a.AgreeApart b) (fr : FlowRecord) :
    (a.fold fr).AgreeApart (b.fold fr) := by
  constructor
  · exact ifaceAxis.get_fold_congr h.iface fr
  · exact portAxis.get_fold_congr h.port fr
  · exact asnAxis.get_fold_congr h.asn fr
  · rw [baseComplete_fold, baseComplete_fold, h.baseComplete]

theorem Accum.AgreeApart.mergeFrom {a a' b b' : Accum} (h : a.AgreeApart a')
    (h' : b.AgreeApart b') :
    (a.mergeFrom b).AgreeApart (a'.mergeFrom b') where
  iface := by rw [Accum.mergeFrom, Accum.mergeFrom, h.iface, h'.iface]
  port := by rw [Accum.mergeFrom, Accum.mergeFrom, h.port, h'.port]
  asn := by rw [Accum.mergeFrom, Accum.mergeFrom, h.asn, h'.asn]
  baseComplete := by rw [Accum.mergeFrom, Accum.mergeFrom, h.baseComplete, h'.baseComplete]

/-- The talkers of a bucket, whatever became of them, are of no consequence for the rest of it. -/
structure TalkersApart : Prop where
  fold : ∀ (a b : Accum) (rs : List FlowRecord), a.AgreeApart b →
    (rs.foldl Accum.fold a).AgreeApart (rs.foldl Accum.fold b)
  merge : ∀ a a' b b' : Accum, a.AgreeApart a' → b.AgreeApart b' →
    (a.mergeFrom b).AgreeApart (a'.mergeFrom b')
  quality : ∀ (a b : Accum) topK topK', a.AgreeApart b →
    (a.quality topK).ifaceComplete = (b.quality topK').ifaceComplete ∧
      (a.quality topK).portComplete = (b.quality topK').portComplete ∧
      (a.quality topK).asnComplete = (b.quality topK').asnComplete ∧
      (a.quality topK).ifaceDropped = (b.quality topK').ifaceDropped ∧
      (a.quality topK).portDropped = (b.quality topK').portDropped ∧
      (a.quality topK).asnDropped = (b.quality topK').asnDropped

/-- **Aggregation conserves and merges**, in each of the four dimensions, and the talkers affect no
other one. -/
theorem bucket_aggregation :
    ifaceAxis.Laws ∧ portAxis.Laws ∧ asnAxis.Laws ∧ talkerAxis.Laws ∧ TalkersApart ∧
    ∀ rs rs' b, b.Shuffled (Accum.folded rs') →
      ((Accum.folded rs).mergeFrom b).baseComplete = (Accum.folded (rs ++ rs')).baseComplete := by
  refine ⟨Axis.laws fun _ _ h => h.iface, Axis.laws fun _ _ h => h.port,
    Axis.laws fun _ _ h => h.asn, Axis.laws fun _ _ h => h.talker,
    ⟨fun a b rs h => ?_, fun _ _ _ _ h h' => h.mergeFrom h',
      fun _ _ topK topK' h => h.quality topK topK'⟩, fun rs rs' b hb => ?_⟩
  · induction rs generalizing a b with
    | nil => exact h
    | cons fr rs ih => exact ih _ _ (h.fold fr)
  · rw [Accum.mergeFrom, Accum.baseComplete_folded, Accum.baseComplete_folded, hb.baseComplete,
      Accum.baseComplete_folded, Bool.and_true]

/-- A flow out of interface 7, from 10.0.0.1 to a host of the same network. -/
def probe (host : ℕ) (bytes : Option ℕ) : FlowRecord where
  srcAddr := .v4 0x0a000001
  dstAddr := .v4 (0x0a000000 + host)
  srcPort := none
  dstPort := none
  protocol := 1
  inIfIndex := none
  outIfIndex := some 7
  srcAs := none
  dstAs := none
  direction := some 1
  bytes := bytes
  pkts := some 2

/-- Two flows to one host, one of them of an unknown number of bytes. -/
def probes : List FlowRecord := [probe 2 (some 100), probe 2 none]

/-- No counter saturates in the talkers of three flows, and no cap is hit: they are counted exactly,
and merging the buckets of two and of one is folding all three. -/
theorem bucket_aggregation_probes :
    (talkerAxis.get (Accum.folded probes)).flows +
        (talkerAxis.get (Accum.folded probes)).dropped = 2 ∧
      (∀ k c, (talkerAxis.get (Accum.folded probes)).lookup k = some c →
        Exact c (talkerAxis.partsOf probes k)) ∧
      (talkerAxis.get ((Accum.folded probes).mergeFrom (Accum.folded [probe 3 none]))).Same
        (talkerAxis.get (Accum.folded (probes ++ [probe 3 none]))) ∧
      (talkerAxis.get ((Accum.folded probes).mergeFrom (Accum.folded [probe 3 none]))).flows +
        (talkerAxis.get ((Accum.folded probes).mergeFrom (Accum.folded [probe 3 none]))).dropped =
          3 := by
  obtain ⟨-, -, -, hlaws, -, -⟩ := bucket_aggregation
  have hfits : talkerAxis.Unsaturated probes :=
    ⟨Axis.unsaturated_partsOf (by decide +kernel), by decide +kernel⟩
  have hfitsMerged : talkerAxis.UnsaturatedMerge probes [probe 3 none]
      (Accum.folded [probe 3 none]) :=
    ⟨Axis.unsaturated_partsOf (by decide +kernel), by decide +kernel⟩
  have hshuffled := Accum.Shuffled.refl (Accum.folded [probe 3 none])
  have htwo : (talkerAxis.contributions probes).length = 2 := by decide
  have hone : (talkerAxis.contributions [probe 3 none]).length = 1 := by decide
  refine ⟨?_, hlaws.exact probes hfits, hlaws.merge_same _ _ _ hshuffled (by decide +kernel), ?_⟩
  · rw [hlaws.conserved probes hfits, htwo]
  · rw [hlaws.merge_conserved _ _ _ hshuffled hfitsMerged, htwo, hone]

end Rerouter.Collector
