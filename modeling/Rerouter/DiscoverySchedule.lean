import Mathlib.Algebra.Group.Nat.Defs
import Mathlib.Data.Finset.Card
import Mathlib.Data.Prod.Lex
import Rerouter.Lib.Ahead

/-!
# The schedule of discovery runs

The routing inventory of a router is discovered once an hour, and every router has a slot of its own
in the hour. A rescan reads which devices are enabled, and queues the ones whose deadline has
passed; a device that is started leaves the queue and runs, and when it is done its deadline is
moved into the future. Only a few run at once, and only so many wait.

Rescans, starts and completions come in any order (`Rerouter.Discovery.run`), and with any devices:
one may be disabled and enabled again while it waits or runs.

* The four collections of the schedule agree (`Rerouter.Discovery.Orderly`), so that starting never
  fails (`Rerouter.Discovery.exists_run`).
* A device whose deadline has passed waits, runs, or is counted as deferred
  (`Rerouter.Discovery.card_overdue`).
* From the moment a device is due until it is started, every other one is started at most once
  (`Rerouter.Discovery.fair_run`).

The last one follows a device that waits: any other one is *behind* it as soon as it runs
(`Rerouter.Discovery.Behind`), because its next deadline will be the later one, and nobody who is
behind is started first. No rescan has to come at any time, and nothing is asked of the clock but
that the deadline has passed.
-/

namespace Rerouter.Discovery

/-! ### The schedule -/

/-- A second, in nanoseconds. -/
def second : ℕ := 1000000000

/-- `PREFIX_DISCOVERY_INTERVAL`. -/
def discoveryInterval : ℕ := 3600 * second

/-- `PREFIX_DISCOVERY_DEVICE_JITTER`, in seconds. -/
def deviceJitterSeconds : ℕ := 300

/-- `PREFIX_DISCOVERY_CONCURRENCY`. -/
def discoveryConcurrency : ℕ := 2

/-- `PREFIX_DISCOVERY_BACKLOG_CAPACITY`. -/
def backlogCapacity : ℕ := 256

/-- `stable_discovery_stagger`. -/
def stableDiscoveryStagger (device : ℕ) : ℕ :=
  device * 2654435761 % 2 ^ 64 % (deviceJitterSeconds + 1) * second

/-- A map from devices to their deadlines. -/
abbrev Deadlines := Std.TreeMap ℕ ℕ compare

/-- `DiscoverySchedule`. -/
structure DiscoverySchedule where
  anchor : ℕ
  nextDue : Deadlines
  queued : Finset ℕ
  active : Finset ℕ
  backlog : List ℕ

namespace DiscoverySchedule

/-- `DiscoverySchedule::new`. -/
def new (anchor : ℕ) : DiscoverySchedule := ⟨anchor, ∅, ∅, ∅, []⟩

variable (s : DiscoverySchedule)

/-- The devices that are enabled stay, and each of them has a deadline. -/
def retain (enabled : List ℕ) : DiscoverySchedule :=
  { s with
    nextDue := enabled.foldl (fun deadlines id =>
      deadlines.insertIfNew id (s.anchor + stableDiscoveryStagger id))
      (s.nextDue.filter fun id _ => enabled.contains id)
    backlog := s.backlog.filter fun id => enabled.contains id
    queued := s.queued.filter fun id => id ∈ enabled }

/-- The devices whose deadline has passed, and which neither wait nor run, by their deadlines. -/
def due (now : ℕ) : List (ℕ × ℕ) :=
  (s.nextDue.toList.filter fun e => e.2 ≤ now && e.1 ∉ s.queued && e.1 ∉ s.active).insertionSort
    fun a b => toLex (a.2, a.1) ≤ toLex (b.2, b.1)

/-- How many more may wait. -/
def available : ℕ := backlogCapacity - s.backlog.length

/-- As many as there is room for join the queue. -/
def enqueue (now : ℕ) : DiscoverySchedule :=
  let admitted := ((s.due now).take s.available).map Prod.fst
  { s with
    backlog := s.backlog ++ admitted
    queued := s.queued ∪ admitted.toFinset }

/-- `reconcile`: the schedule, and how many are deferred. -/
def reconcile (enabled : List ℕ) (now : ℕ) : DiscoverySchedule × ℕ :=
  ((s.retain enabled).enqueue now,
      ((s.retain enabled).due now).length - (s.retain enabled).available)

/-- Some turns of `start_ready`. It fails where a device that waits has no deadline. -/
def startTurns : ℕ → DiscoverySchedule → Option (DiscoverySchedule × List (ℕ × ℕ))
  | 0, s => some (s, [])
  | turns + 1, s =>
    match s.backlog with
    | [] => startTurns turns s
    | id :: backlog => do
      let deadline ← s.nextDue[id]?
      let (t, started) ← startTurns turns
        { s with backlog, queued := s.queued.erase id, active := insert id s.active }
      some (t, (id, deadline) :: started)

/-- `start_ready`: the schedule, and what is started with its deadline. -/
def startReady : Option (DiscoverySchedule × List (ℕ × ℕ)) :=
  startTurns (discoveryConcurrency - s.active.card) s

/-- The first slot after a time. -/
def advance (now deadline : ℕ) : ℕ :=
  if deadline ≤ now then advance now (deadline + discoveryInterval) else deadline
termination_by now + 1 - deadline
decreasing_by
  have : 0 < discoveryInterval := by decide
  omega

/-- `complete`. -/
def complete (id now : ℕ) : DiscoverySchedule :=
  { s with
    active := s.active.erase id
    nextDue := s.nextDue.modify id (advance now) }

end DiscoverySchedule

/-! ### Runs -/

/-- What happens to the schedule, and when. -/
inductive Event where
  | reconcile (enabled : List ℕ) (now : ℕ)
  | startReady (now : ℕ)
  | complete (id now : ℕ)
deriving DecidableEq

/-- The time of an event. -/
def Event.now : Event → ℕ
  | .reconcile _ now => now
  | .startReady now => now
  | .complete _ now => now

/-- An event: the schedule after it, and the devices it starts. -/
def step (s : DiscoverySchedule) : Event → Option (DiscoverySchedule × List ℕ)
  | .reconcile enabled now => some ((s.reconcile enabled now).1, [])
  | .startReady _ => s.startReady.map fun r => (r.1, r.2.map Prod.fst)
  | .complete id now => some (s.complete id now, [])

/-- Some events, and the devices they start in their order. -/
def run : DiscoverySchedule → List Event → Option (DiscoverySchedule × List ℕ)
  | s, [] => some (s, [])
  | s, e :: es => do
    let (t, here) ← step s e
    let (u, later) ← run t es
    some (u, here ++ later)

/-- Only a device that is active is completed. -/
def Permitted : DiscoverySchedule → List Event → Prop
  | _, [] => True
  | s, e :: es => (∀ id now, e = .complete id now → id ∈ s.active) ∧
      ∀ t here, step s e = some (t, here) → Permitted t es

/-! ### Deadlines -/

section Deadlines

variable {s : DiscoverySchedule} {enabled : List ℕ} {now id d : ℕ}

theorem getElem?_foldl_insertIfNew {f : ℕ → ℕ} {l : List ℕ} {m : Deadlines} :
    (l.foldl (fun m id => m.insertIfNew id (f id)) m)[id]? =
    m[id]?.or (if id ∈ l then some (f id) else none) := by
  induction l generalizing m with
  | nil => simp
  | cons a l ih =>
    rw [List.foldl_cons, ih, Std.TreeMap.getElem?_insertIfNew]
    by_cases ha : a = id
    · subst ha
      by_cases hm : a ∈ m
      · simp [hm]
      · simp [hm]
    · have hcompare : compare a id ≠ .eq := fun h => ha (Std.LawfulEqCmp.eq_of_compare h)
      have hid : id ≠ a := fun h => ha h.symm
      simp [hcompare, hid]

theorem getElem?_retained {f : ℕ → ℕ} {m : Deadlines} :
    (enabled.foldl (fun m id => m.insertIfNew id (f id)) (m.filter fun id _ =>
      enabled.contains id))[id]? =
      if id ∈ enabled then m[id]?.or (some (f id)) else none := by
  rw [getElem?_foldl_insertIfNew, Std.TreeMap.getElem?_filter']
  by_cases hid : id ∈ enabled
  · cases m[id]? <;> simp [hid, Option.filter_some]
  · simp [hid]

theorem nextDue_retain : (s.retain enabled).nextDue =
    enabled.foldl (fun m id => m.insertIfNew id (s.anchor + stableDiscoveryStagger id))
      (s.nextDue.filter fun id _ => enabled.contains id) := rfl

/-- **An enabled device keeps its deadline**, or is given one. -/
theorem getElem?_retain : (s.retain enabled).nextDue[id]? =
    if id ∈ enabled then s.nextDue[id]?.or (some (s.anchor + stableDiscoveryStagger id))
      else none := by
  rw [nextDue_retain, getElem?_retained]

theorem getElem?_complete {a : ℕ} : (s.complete a now).nextDue[id]? =
    if a = id then s.nextDue[id]?.map (DiscoverySchedule.advance now) else s.nextDue[id]? := by
  unfold DiscoverySchedule.complete
  rw [Std.TreeMap.getElem?_modify]
  by_cases ha : a = id
  · subst ha
    simp
  · have hcompare : compare a id ≠ .eq := fun h => ha (Std.LawfulEqCmp.eq_of_compare h)
    simp [hcompare, ha]

/-- A deadline is moved into the future. -/
theorem lt_advance (now deadline : ℕ) : now < DiscoverySchedule.advance now deadline := by
  induction deadline using DiscoverySchedule.advance.induct now with
  | case1 deadline h ih =>
    rw [DiscoverySchedule.advance, if_pos h]
    exact ih
  | case2 deadline h =>
    rw [DiscoverySchedule.advance, if_neg h]
    omega

theorem mem_due :
    (id, d) ∈ s.due now ↔ s.nextDue[id]? = some d ∧ d ≤ now ∧ id ∉ s.queued ∧ id ∉ s.active := by
  rw [DiscoverySchedule.due, List.mem_insertionSort, List.mem_filter,
    Std.TreeMap.mem_toList_iff_getElem?_eq_some]
  simp [and_assoc]

/-- A device is due once. -/
theorem nodup_due : ((s.due now).map Prod.fst).Nodup := by
  have hperm := (List.perm_insertionSort (fun a b : ℕ × ℕ => toLex (a.2, a.1) ≤ toLex (b.2, b.1))
    (s.nextDue.toList.filter fun e => e.2 ≤ now && e.1 ∉ s.queued && e.1 ∉ s.active)).map Prod.fst
  rw [DiscoverySchedule.due, hperm.nodup_iff]
  refine List.Nodup.sublist (List.filter_sublist.map Prod.fst) ?_
  have hdistinct := s.nextDue.distinct_keys_toList
  rw [List.Nodup, List.pairwise_map]
  exact hdistinct.imp fun h heq => h (by rw [heq]; exact Std.ReflCmp.compare_self)

/-- Who is due stands in the order of the deadlines. -/
theorem sorted_due : (s.due now).Pairwise fun a b => toLex (a.2, a.1) ≤ toLex (b.2, b.1) :=
  List.pairwise_insertionSort _ _

end Deadlines

/-! ### The order of a schedule -/

/-- **The collections of a schedule agree.** -/
structure Orderly (s : DiscoverySchedule) : Prop where
  nodup : s.backlog.Nodup
  queued : ∀ id, id ∈ s.queued ↔ id ∈ s.backlog
  disjoint : ∀ id ∈ s.queued, id ∉ s.active
  concurrency : s.active.card ≤ discoveryConcurrency
  capacity : s.queued.card ≤ backlogCapacity
  dated : ∀ id ∈ s.queued, ∃ deadline, s.nextDue[id]? = some deadline

section Order

variable {s t : DiscoverySchedule} {enabled : List ℕ} {now id d : ℕ}

theorem orderly_new (anchor : ℕ) : Orderly (.new anchor) where
  nodup := List.nodup_nil
  queued _ := by simp [DiscoverySchedule.new]
  disjoint _ h := absurd h (Finset.notMem_empty _)
  concurrency := Nat.zero_le _
  capacity := Nat.zero_le _
  dated _ h := absurd h (Finset.notMem_empty _)

theorem Orderly.length_backlog (h : Orderly s) : s.backlog.length = s.queued.card := by
  have hset : s.queued = s.backlog.toFinset := by
    ext id
    rw [List.mem_toFinset, h.queued]
  rw [hset, List.toFinset_card_of_nodup h.nodup]

theorem orderly_retain (h : Orderly s) (enabled : List ℕ) : Orderly (s.retain enabled) where
  nodup := h.nodup.filter _
  queued id := by
    simp [DiscoverySchedule.retain, h.queued]
  disjoint id hid := h.disjoint id (Finset.mem_of_mem_filter id hid)
  concurrency := h.concurrency
  capacity := (Finset.card_filter_le _ _).trans h.capacity
  dated id hid := by
    obtain ⟨hqueued, hen⟩ := Finset.mem_filter.mp hid
    obtain ⟨deadline, hdeadline⟩ := h.dated id hqueued
    exact ⟨deadline, by rw [getElem?_retain, if_pos hen, hdeadline]; rfl⟩

/-- Who is admitted was due. -/
theorem exists_due_of_mem_admitted {n : ℕ} (h : id ∈ ((s.due now).take n).map Prod.fst) :
    ∃ d, (id, d) ∈ s.due now := by
  obtain ⟨e, he, rfl⟩ := List.mem_map.mp h
  exact ⟨e.2, List.mem_of_mem_take he⟩

theorem orderly_enqueue (h : Orderly s) (now : ℕ) : Orderly (s.enqueue now) where
  nodup := by
    refine List.nodup_append.mpr ⟨h.nodup, ?_, ?_⟩
    -- two admitted ids differ because the due ones do
    · have hdue : ((s.due now).map Prod.fst).Nodup := nodup_due
      exact hdue.sublist ((List.take_sublist _ _).map Prod.fst)
    · rintro a ha b hb rfl
      -- what is due is not queued
      obtain ⟨d, hd⟩ := exists_due_of_mem_admitted hb
      exact (mem_due.mp hd).2.2.1 ((h.queued a).mpr ha)
  queued id := by
    simp only [DiscoverySchedule.enqueue, Finset.mem_union, List.mem_append,
      List.mem_toFinset, h.queued]
  disjoint id hid := by
    rcases Finset.mem_union.mp hid with hid | hid
    · exact h.disjoint id hid
    -- and is not active
    · obtain ⟨d, hd⟩ := exists_due_of_mem_admitted (List.mem_toFinset.mp hid)
      exact (mem_due.mp hd).2.2.2
  concurrency := h.concurrency
  capacity := by
    have hunion := Finset.card_union_le s.queued
      (((s.due now).take s.available).map Prod.fst).toFinset
    have hnew := List.toFinset_card_le (((s.due now).take s.available).map Prod.fst)
    rw [List.length_map, List.length_take] at hnew
    -- admission takes no more than the backlog has room for
    have hroom : s.available = backlogCapacity -
      s.queued.card := by rw [DiscoverySchedule.available, h.length_backlog]
    have hcapacity := h.capacity
    change (s.queued ∪ (((s.due now).take s.available).map Prod.fst).toFinset).card ≤
      backlogCapacity
    omega
  dated id hid := by
    rcases Finset.mem_union.mp hid with hid | hid
    · exact h.dated id hid
    · obtain ⟨d, hd⟩ := exists_due_of_mem_admitted (List.mem_toFinset.mp hid)
      exact ⟨d, (mem_due.mp hd).1⟩

/-- The schedule after its front is started. -/
def front (s : DiscoverySchedule) (id : ℕ) (rest : List ℕ) : DiscoverySchedule :=
  { s with backlog := rest, queued := s.queued.erase id, active := insert id s.active }

theorem orderly_front (h : Orderly s) {rest : List ℕ} (hbacklog : s.backlog = id :: rest)
    (hroom : s.active.card < discoveryConcurrency) : Orderly (front s id rest) where
  nodup := (List.nodup_cons.mp (hbacklog ▸ h.nodup)).2
  queued a := by
    have hnot := (List.nodup_cons.mp (hbacklog ▸ h.nodup)).1
    have ha := h.queued a
    rw [hbacklog, List.mem_cons] at ha
    rw [front, Finset.mem_erase, ha]
    constructor
    · rintro ⟨hne, hmem⟩
      exact hmem.resolve_left hne
    · intro hmem
      exact ⟨fun heq => hnot (heq ▸ hmem), Or.inr hmem⟩
  disjoint a ha := by
    obtain ⟨hne, ha⟩ := Finset.mem_erase.mp ha
    rw [front, Finset.mem_insert, not_or]
    exact ⟨hne, h.disjoint a ha⟩
  concurrency := by
    have hcard := Finset.card_insert_le id s.active
    change (insert id s.active).card ≤ _
    omega
  capacity := (Finset.card_le_card (Finset.erase_subset _ _)).trans h.capacity
  dated a ha := h.dated a (Finset.mem_of_mem_erase ha)

theorem startTurns_cons {rest : List ℕ} {turns : ℕ} (hbacklog : s.backlog = id :: rest)
    (hd : s.nextDue[id]? = some d) :
    DiscoverySchedule.startTurns (turns + 1) s =
      (DiscoverySchedule.startTurns turns (front s id rest)).map fun r =>
      (r.1, (id, d) :: r.2) := by
  rw [DiscoverySchedule.startTurns, hbacklog]
  simp only [hd, Option.bind_eq_bind, Option.bind_some]
  cases h : DiscoverySchedule.startTurns turns (front s id rest) with
  | none =>
    rw [front] at h
    rw [h]
    rfl
  | some r =>
    rw [front] at h
    rw [h]
    rfl

/-- **Starting never fails.** -/
theorem exists_startTurns {turns : ℕ} (h : Orderly s)
    (hroom : s.active.card + turns ≤ discoveryConcurrency) :
    ∃ t started, DiscoverySchedule.startTurns turns s = some (t, started) ∧ Orderly t := by
  induction turns generalizing s with
  | zero => exact ⟨s, [], rfl, h⟩
  | succ turns ih =>
    cases hbacklog : s.backlog with
    | nil =>
      rw [DiscoverySchedule.startTurns, hbacklog]
      exact ih h (by omega)
    | cons id rest =>
      obtain ⟨d, hd⟩ := h.dated id ((h.queued id).mpr (by rw [hbacklog]; exact List.mem_cons_self))
      have hcard := Finset.card_insert_le id s.active
      obtain ⟨t, started, hstarted, ht⟩ :=
        ih (orderly_front h hbacklog (by omega))
        (by change (insert id s.active).card + turns ≤ _; omega)
      exact ⟨t, (id, d) :: started, by rw [startTurns_cons hbacklog hd, hstarted]; rfl, ht⟩

theorem exists_startReady (h : Orderly s) :
    ∃ t started, s.startReady = some (t, started) ∧ Orderly t := by
  have hconcurrency := h.concurrency
  exact exists_startTurns h (by omega)

theorem orderly_complete (h : Orderly s) (id now : ℕ) : Orderly (s.complete id now) where
  nodup := h.nodup
  queued := h.queued
  disjoint a ha hactive := h.disjoint a ha (Finset.mem_of_mem_erase hactive)
  concurrency := (Finset.card_le_card (Finset.erase_subset _ _)).trans h.concurrency
  capacity := h.capacity
  dated a ha := by
    obtain ⟨deadline, hdeadline⟩ := h.dated a ha
    rw [getElem?_complete, hdeadline]
    split
    · exact ⟨_, rfl⟩
    · exact ⟨_, rfl⟩

/-- **Every event succeeds and keeps the order.** -/
theorem exists_step (h : Orderly s) (e : Event) :
    ∃ t here, step s e = some (t, here) ∧ Orderly t := by
  cases e with
  | reconcile enabled now => exact ⟨_, [], rfl, orderly_enqueue (orderly_retain h enabled) now⟩
  | startReady now =>
    obtain ⟨t, started, hstarted, ht⟩ := exists_startReady h
    exact ⟨t, started.map Prod.fst, by rw [step, hstarted]; rfl, ht⟩
  | complete id now => exact ⟨_, [], rfl, orderly_complete h id now⟩

theorem orderly_step (h : Orderly s) {e : Event} {here : List ℕ}
    (hstep : step s e = some (t, here)) : Orderly t := by
  obtain ⟨t', here', hstep', ht⟩ := exists_step h e
  cases hstep.symm.trans hstep'
  exact ht

/-- **Every run succeeds and keeps the order.** -/
theorem exists_run (h : Orderly s) (es : List Event) :
    ∃ t started, run s es = some (t, started) ∧ Orderly t := by
  induction es generalizing s with
  | nil => exact ⟨s, [], rfl, h⟩
  | cons e es ih =>
    obtain ⟨t, here, hstep, ht⟩ := exists_step h e
    obtain ⟨u, later, hrun, hu⟩ := ih ht
    exact ⟨u, here ++ later, by rw [run, hstep]; simp [hrun], hu⟩

end Order

/-! ### Nobody is forgotten -/

/-- The enabled devices whose deadline has passed, and which neither wait nor run. -/
def overdue (s : DiscoverySchedule) (enabled : List ℕ) (now : ℕ) : Finset ℕ :=
  enabled.toFinset.filter fun id => (s.nextDue[id]?).any (fun d => d ≤ now) = true ∧ id ∉ s.queued ∧
    id ∉ s.active

/-- **Who neither waits nor runs after a rescan is counted as deferred.** -/
theorem card_overdue (s : DiscoverySchedule) (enabled : List ℕ) (now : ℕ) :
    (overdue (s.reconcile enabled now).1 enabled now).card = (s.reconcile enabled now).2 := by
  set r := s.retain enabled with hr
  set names := (r.due now).map Prod.fst with hnames
  have hnodup : names.Nodup := nodup_due
  -- the first of the due devices are admitted, and the others are overdue
  have hset : overdue (r.enqueue now) enabled now = (names.drop r.available).toFinset := by
    ext id
    have hmem : id ∈ names ↔ id ∈ enabled ∧ (r.nextDue[id]?).any (fun d => d ≤ now) = true ∧
      id ∉ r.queued ∧ id ∉ r.active := by
      rw [hnames, List.mem_map]
      constructor
      · rintro ⟨e, he, rfl⟩
        obtain ⟨hdeadline, hpassed, hqueued, hactive⟩ := mem_due.mp he
        refine ⟨?_, by rw [hdeadline]; simpa using hpassed, hqueued, hactive⟩
        by_contra hnot
        rw [hr, getElem?_retain, if_neg hnot] at hdeadline
        cases hdeadline
      · rintro ⟨-, hany, hqueued, hactive⟩
        obtain ⟨d, hdeadline, hpassed⟩ := (Option.any_eq_true _ _).mp hany
        exact ⟨(id, d), mem_due.mpr ⟨hdeadline, of_decide_eq_true hpassed, hqueued, hactive⟩, rfl⟩
    have hsplit : id ∈ names ↔ id ∈ names.take r.available ∨ id ∈ names.drop r.available := by
      rw [← List.mem_append, List.take_append_drop]
    have hdisjoint : id ∈ names.drop r.available → id ∉ names.take r.available := by
      intro hdrop htake
      rw [← List.take_append_drop r.available names] at hnodup
      exact (List.nodup_append.mp hnodup).2.2 id htake id hdrop rfl
    have hqueued : id ∈ (r.enqueue now).queued ↔ id ∈ r.queued ∨ id ∈ names.take r.available := by
      rw [DiscoverySchedule.enqueue, Finset.mem_union, List.mem_toFinset, ← List.map_take]
    rw [overdue, Finset.mem_filter, List.mem_toFinset, List.mem_toFinset, hqueued]
    change id ∈ enabled ∧ (r.nextDue[id]?).any (fun d => d ≤ now) = true ∧
      ¬(id ∈ r.queued ∨ id ∈ names.take r.available) ∧
      id ∉ r.active ↔ _
    constructor
    · rintro ⟨hen, hany, hnot, hactive⟩
      obtain ⟨hq, ht⟩ := not_or.mp hnot
      exact (hsplit.mp (hmem.mpr ⟨hen, hany, hq, hactive⟩)).resolve_left ht
    · intro hdrop
      obtain ⟨hen, hany, hq, hactive⟩ := hmem.mp (hsplit.mpr (Or.inr hdrop))
      exact ⟨hen, hany, not_or.mpr ⟨hq, hdisjoint hdrop⟩, hactive⟩
  change (overdue (r.enqueue now) enabled now).card = (r.due now).length - r.available
  rw [hset, List.toFinset_card_of_nodup (hnodup.sublist (List.drop_sublist _ _)), List.length_drop,
    hnames, List.length_map]

/-! ### Nobody is overtaken twice -/

section Window

variable {s t : DiscoverySchedule} {enabled : List ℕ} {now id x y d : ℕ}

/-- A device is due since a time, and has not been started. -/
structure Waits (x d : ℕ) (s : DiscoverySchedule) : Prop where
  deadline : s.nextDue[x]? = some d
  inactive : x ∉ s.active

/-- A device cannot be started before one that waits: it is running, or its deadline is later, or it
stands behind in the queue. -/
def Behind (x d y : ℕ) (s : DiscoverySchedule) : Prop :=
  y ∈ s.active ∨ (y ∉ s.backlog ∧ ∀ d', s.nextDue[y]? = some d' → d < d') ∨ Ahead x y s.backlog

/-- The enabled devices are the ones with a deadline. -/
def Unchanged (enabled : List ℕ) (s : DiscoverySchedule) : Prop :=
  ∀ id : ℕ, id ∈ enabled ↔ ∃ deadline, s.nextDue[id]? = some deadline

/-- After a rescan they are the ones that it read. -/
theorem unchanged_reconcile : Unchanged enabled (s.reconcile enabled now).1 := by
  intro id
  change _ ↔ ∃ deadline, (s.retain enabled).nextDue[id]? = some deadline
  rw [getElem?_retain]
  constructor
  · intro hid
    rw [if_pos hid]
    cases s.nextDue[id]? with
    | none => exact ⟨_, rfl⟩
    | some deadline => exact ⟨deadline, rfl⟩
  · rintro ⟨deadline, hdeadline⟩
    by_contra hid
    rw [if_neg hid] at hdeadline
    cases hdeadline

/-- Where nobody is enabled or disabled, a rescan keeps all that waits. -/
theorem retain_unchanged (hs : Orderly s) (hen : Unchanged enabled s) :
    (s.retain enabled).backlog = s.backlog ∧ (s.retain enabled).queued = s.queued ∧
      ∀ id : ℕ, (s.retain enabled).nextDue[id]? = s.nextDue[id]? := by
  have hqueued : ∀ id ∈ s.queued, id ∈ enabled := fun id hid => (hen id).mpr (hs.dated id hid)
  refine ⟨?_, ?_, fun id => ?_⟩
  · refine List.filter_eq_self.mpr fun id hid => ?_
    simpa using hqueued id ((hs.queued id).mpr hid)
  · exact Finset.filter_eq_self.mpr hqueued
  · rw [getElem?_retain]
    split
    · rename_i hid
      obtain ⟨deadline, hdeadline⟩ := (hen id).mp hid
      rw [hdeadline]
      rfl
    · rename_i hid
      cases hget : s.nextDue[id]? with
      | none => rfl
      | some deadline => exact absurd ((hen id).mpr ⟨deadline, hget⟩) hid

theorem waits_reconcile (hs : Orderly s) (hen : Unchanged enabled s) (hwaits : Waits x d s) :
    Waits x d (s.reconcile enabled now).1 :=
  ⟨((retain_unchanged hs hen).2.2 x).trans hwaits.deadline, hwaits.inactive⟩

/-- **A rescan admits the one that waits first.** -/
theorem behind_reconcile (hs : Orderly s) (hen : Unchanged enabled s) (hwaits : Waits x d s)
    (hnow : d ≤ now) (h : Behind x d y s) : Behind x d y (s.reconcile enabled now).1 := by
  obtain ⟨hbacklog, hqueued, hdeadlines⟩ := retain_unchanged hs hen
  set r := s.retain enabled with hr
  have hjoined : (s.reconcile enabled now).1.backlog =
    s.backlog ++ ((r.due now).take r.available).map Prod.fst := by
    rw [← hbacklog]
    rfl
  rcases h with hactive | ⟨hnot, hlater⟩ | hahead
  · exact Or.inl hactive
  · by_cases hy : y ∈ ((r.due now).take r.available).map Prod.fst
    · refine Or.inr (Or.inr ?_)
      rw [hjoined]
      by_cases hx : x ∈ s.backlog
      · exact (ahead_of_not_mem hx hnot).append
      · -- both are due, and the deadline of `x` is the earlier one
        obtain ⟨⟨y', d'⟩, hmem, rfl⟩ := List.mem_map.mp hy
        have hdue := mem_due.mp (List.mem_of_mem_take hmem)
        have hless : d < d' := hlater d' ((hdeadlines _).symm.trans hdue.1)
        have hxdue : (x, d) ∈ r.due now :=
          mem_due.mpr ⟨(hdeadlines x).trans hwaits.deadline, hnow,
              by rw [hqueued, hs.queued]; exact hx, hwaits.inactive⟩
        have hkey : toLex (d, x) < toLex (d', y') := Prod.Lex.toLex_lt_toLex.mpr (Or.inl hless)
        have hahead : Ahead (x, d) (y', d') ((r.due now).take r.available) :=
          ahead_take sorted_due hxdue hkey hmem
        have hown : ∀ e' : ℕ × ℕ, e' ∈ r.due now → ∀ e ∈ (r.due now).take r.available, e.1 = e'.1 →
          e = e' := by
          intro e' he' e he heq
          have hget := (mem_due.mp (List.mem_of_mem_take he)).1
          rw [heq, (mem_due.mp he').1] at hget
          exact Prod.ext heq (Option.some.inj hget).symm
        exact Ahead.append_left hnot
          (hahead.map (hown (x, d) hxdue) (hown (y', d') (List.mem_of_mem_take hmem)))
    · refine Or.inr (Or.inl ⟨?_, fun d' hd' => hlater d' ((hdeadlines y).symm.trans hd')⟩)
      rw [hjoined]
      exact fun hmem => (List.mem_append.mp hmem).elim hnot hy
  · refine Or.inr (Or.inr ?_)
    rw [hjoined]
    exact hahead.append

theorem waits_front {rest : List ℕ} (hne : id ≠ x) (h : Waits x d s) :
    Waits x d (front s id rest) :=
  ⟨h.deadline, fun hmem => (Finset.mem_insert.mp hmem).elim (fun heq => hne heq.symm) h.inactive⟩

/-- Whoever is started runs, and so is behind. -/
theorem behind_started {rest : List ℕ} : Behind x d y (front s y rest) :=
  Or.inl (Finset.mem_insert_self y _)

theorem behind_front {rest : List ℕ} (hs : Orderly s) (hbacklog : s.backlog = id :: rest)
    (hne : id ≠ x) (h : Behind x d y s) : id ≠ y ∧ Behind x d y (front s id rest) := by
  have hid : id ∈ s.queued := (hs.queued id).mpr (by rw [hbacklog]; exact List.mem_cons_self)
  rcases h with hactive | ⟨hnot, hlater⟩ | hahead
  · exact ⟨fun heq => hs.disjoint id hid (heq ▸ hactive), Or.inl (Finset.mem_insert_of_mem hactive)⟩
  · rw [hbacklog, List.mem_cons, not_or] at hnot
    exact ⟨fun heq => hnot.1 heq.symm, Or.inr (Or.inl ⟨hnot.2, hlater⟩)⟩
  · rw [hbacklog] at hahead
    obtain ⟨-, hidy, hrest⟩ := (ahead_cons.mp hahead).resolve_left hne
    exact ⟨hidy, Or.inr (Or.inr hrest)⟩

/-- What is started before a device that waits. -/
def before (x : ℕ) (started : List ℕ) : List ℕ := started.takeWhile (· ≠ x)

theorem before_cons (hne : id ≠ x) {started : List ℕ} :
    before x (id :: started) = id :: before x started := by
  simp [before, hne]

theorem before_cons_self {started : List ℕ} : before x (x :: started) = [] := by
  simp [before]

theorem before_append {here later : List ℕ} :
    before x (here ++ later) = if x ∈ here then before x here else here ++ before x later := by
  induction here with
  | nil => simp
  | cons id here ih =>
    by_cases hid : id = x
    · subst hid
      rw [List.cons_append, before_cons_self, before_cons_self, if_pos List.mem_cons_self]
    · have hx : x ≠ id := fun h => hid h.symm
      rw [List.cons_append, before_cons hid, ih, before_cons hid]
      simp only [List.mem_cons, hx, false_or]
      split <;> simp

/-- What a stretch of starts means to a device that waits: one that is behind is not started before
it, and any other one at most once, and is behind then. -/
structure Fair (x d y : ℕ) (s t : DiscoverySchedule) (started : List ℕ) : Prop where
  waits : x ∉ started → Waits x d t
  behind : Behind x d y s → y ∉ before x started ∧ (x ∉ started → Behind x d y t)
  once : (before x started).count y ≤ 1
  then_behind : x ∉ started → y ∈ started → Behind x d y t

theorem fair_startTurns {turns : ℕ} {started : List (ℕ × ℕ)} (hne : y ≠ x) (hs : Orderly s)
    (hroom : s.active.card + turns ≤ discoveryConcurrency) (hwaits : Waits x d s)
    (h : DiscoverySchedule.startTurns turns s = some (t, started)) :
    Fair x d y s t (started.map Prod.fst) := by
  induction turns generalizing s started with
  | zero =>
    obtain ⟨rfl, rfl⟩ := Prod.mk.inj (Option.some.inj h)
    exact ⟨fun _ => hwaits, fun hbehind => ⟨List.not_mem_nil, fun _ => hbehind⟩, Nat.zero_le _,
      fun _ hmem => absurd hmem List.not_mem_nil⟩
  | succ turns ih =>
    cases hbacklog : s.backlog with
    | nil =>
      rw [DiscoverySchedule.startTurns, hbacklog] at h
      exact ih hs (by omega) hwaits h
    | cons id rest =>
      obtain ⟨deadline, hdeadline⟩ :=
        hs.dated id ((hs.queued id).mpr (by rw [hbacklog]; exact List.mem_cons_self))
      rw [startTurns_cons hbacklog hdeadline] at h
      obtain ⟨⟨u, others⟩, hothers, heq⟩ := Option.map_eq_some_iff.mp h
      obtain ⟨rfl, rfl⟩ := Prod.mk.inj heq
      rw [List.map_cons]
      by_cases hid : id = x
      -- the device itself starts: nothing stands before it any more
      · subst hid
        exact ⟨fun hnot => absurd List.mem_cons_self hnot,
          fun _ => ⟨by rw [before_cons_self]; exact List.not_mem_nil,
            fun hnot => absurd List.mem_cons_self hnot⟩,
          by rw [before_cons_self]; exact Nat.zero_le _, fun hnot => absurd List.mem_cons_self hnot⟩
      -- another one starts, and the waiting device moves one place up
      · have hcard := Finset.card_insert_le id s.active
        have hrest := ih (orderly_front hs hbacklog (by omega))
          (by change (insert id s.active).card + turns ≤ _; omega) (waits_front hid hwaits) hothers
        have hx : ∀ {l : List ℕ}, x ∉ id :: l ↔ x ∉ l := fun {l} => by
          rw [List.mem_cons, not_or]
          exact and_iff_right fun heq => hid heq.symm
        rw [show (id, deadline).1 = id from rfl]
        refine ⟨fun hnot => hrest.waits (hx.mp hnot), fun hbehind => ?_, ?_, fun hnot hmem => ?_⟩
        · obtain ⟨hidy, hnext⟩ := behind_front hs hbacklog hid hbehind
          obtain ⟨hnone, hlast⟩ := hrest.behind hnext
          rw [before_cons hid, List.mem_cons, not_or]
          exact ⟨⟨fun heq => hidy heq.symm, hnone⟩, fun hnot => hlast (hx.mp hnot)⟩
        · rw [before_cons hid]
          by_cases hidy : id = y
          · subst hidy
            rw [List.count_cons_self, List.count_eq_zero_of_not_mem (hrest.behind behind_started).1]
          · rw [List.count_cons_of_ne hidy]
            exact hrest.once
        · rcases List.mem_cons.mp hmem with rfl | hmem
          · exact (hrest.behind behind_started).2 (hx.mp hnot)
          · exact hrest.then_behind (hx.mp hnot) hmem

theorem Fair.trans {u : DiscoverySchedule} {here later : List ℕ} (hhere : Fair x d y s t here)
    (hlater : x ∉ here → Fair x d y t u later) : Fair x d y s u (here ++ later) := by
  by_cases hx : x ∈ here
  · have hnot : ¬x ∉ here ++ later := fun h => h (List.mem_append_left _ hx)
    refine ⟨fun h => absurd h hnot, fun hbehind => ⟨?_, fun h => absurd h hnot⟩, ?_,
      fun h => absurd h hnot⟩
    · rw [before_append, if_pos hx]
      exact (hhere.behind hbehind).1
    · rw [before_append, if_pos hx]
      exact hhere.once
  · have hrest := hlater hx
    have hnot : x ∉ here ++ later → x ∉ later := fun h hmem => h (List.mem_append_right _ hmem)
    have hall : before x here = here := List.takeWhile_eq_self_iff.mpr fun id hid => by
      simpa using fun heq : id = x => hx (heq ▸ hid)
    refine ⟨fun h => hrest.waits (hnot h), fun hbehind => ?_, ?_, fun h hmem => ?_⟩
    · obtain ⟨hnone, hnext⟩ := hhere.behind hbehind
      obtain ⟨hnone', hlast⟩ := hrest.behind (hnext hx)
      rw [hall] at hnone
      rw [before_append, if_neg hx]
      exact ⟨fun hmem => (List.mem_append.mp hmem).elim hnone hnone', fun h => hlast (hnot h)⟩
    · rw [before_append, if_neg hx, List.count_append]
      by_cases hy : y ∈ here
      · -- it was started before, so it is behind and not started again
        have hnone := (hrest.behind (hhere.then_behind hx hy)).1
        have honce := hhere.once
        rw [hall] at honce
        rw [List.count_eq_zero_of_not_mem hnone]
        omega
      · rw [List.count_eq_zero_of_not_mem hy, Nat.zero_add]
        exact hrest.once
    · rcases List.mem_append.mp hmem with hmem | hmem
      · exact (hrest.behind (hhere.then_behind hx hmem)).2 (hnot h)
      · exact hrest.then_behind (hnot h) hmem

/-- Where nothing is started, the two phases are kept. -/
theorem fair_nil (hwaits : Waits x d t) (hbehind : Behind x d y s → Behind x d y t) :
    Fair x d y s t [] :=
  ⟨fun _ => hwaits, fun h => ⟨List.not_mem_nil, fun _ => hbehind h⟩, Nat.zero_le _,
    fun _ h => absurd h List.not_mem_nil⟩

theorem waits_complete (hid : id ∈ s.active) (h : Waits x d s) : Waits x d (s.complete id now) := by
  have hne : id ≠ x := fun heq => h.inactive (heq ▸ hid)
  refine ⟨?_, fun hmem => h.inactive (Finset.mem_of_mem_erase hmem)⟩
  rw [getElem?_complete, if_neg hne]
  exact h.deadline

/-- **A device that is done has its next deadline in the future.** -/
theorem behind_complete (hs : Orderly s) (hnow : d ≤ now) (h : Behind x d y s) :
    Behind x d y (s.complete id now) := by
  have hlater : id = y → ∀ d', (s.complete id now).nextDue[y]? = some d' → d < d' := by
    intro heq d' hd'
    rw [getElem?_complete, if_pos heq] at hd'
    obtain ⟨old, -, rfl⟩ := Option.map_eq_some_iff.mp hd'
    exact hnow.trans_lt (lt_advance now old)
  rcases h with hactive | ⟨hnot, hdeadline⟩ | hahead
  · by_cases heq : id = y
    · refine Or.inr (Or.inl ⟨fun hmem => ?_, hlater heq⟩)
      exact hs.disjoint y ((hs.queued y).mpr hmem) hactive
    · exact Or.inl (Finset.mem_erase.mpr ⟨fun h => heq h.symm, hactive⟩)
  · refine Or.inr (Or.inl ⟨hnot, fun d' hd' => ?_⟩)
    by_cases heq : id = y
    · exact hlater heq d' hd'
    · rw [getElem?_complete, if_neg heq] at hd'
      exact hdeadline d' hd'
  · exact Or.inr (Or.inr hahead)

theorem fair_step {e : Event} {here : List ℕ} (hne : y ≠ x) (hs : Orderly s) (hwaits : Waits x d s)
    (hnow : d ≤ e.now) (hpermitted : ∀ id now, e = .complete id now → id ∈ s.active)
    (hen : ∀ enabled now, e = .reconcile enabled now → Unchanged enabled s)
    (h : step s e = some (t, here)) :
    Fair x d y s t here := by
  cases e with
  | reconcile enabled now =>
    obtain ⟨rfl, rfl⟩ := Prod.mk.inj (Option.some.inj h)
    have hsame := hen enabled now rfl
    exact fair_nil (waits_reconcile hs hsame hwaits) (behind_reconcile hs hsame hwaits hnow)
  | startReady now =>
    obtain ⟨⟨u, started⟩, hstarted, heq⟩ := Option.map_eq_some_iff.mp h
    obtain ⟨rfl, rfl⟩ := Prod.mk.inj heq
    have hconcurrency := hs.concurrency
    exact fair_startTurns hne hs (by omega) hwaits hstarted
  | complete id now =>
    obtain ⟨rfl, rfl⟩ := Prod.mk.inj (Option.some.inj h)
    exact fair_nil (waits_complete (hpermitted id now rfl) hwaits) (behind_complete hs hnow)

theorem nextDue_startTurns {turns : ℕ} {started : List (ℕ × ℕ)}
    (h : DiscoverySchedule.startTurns turns s = some (t, started)) :
    t.nextDue = s.nextDue := by
  induction turns generalizing s started with
  | zero =>
    obtain ⟨rfl, -⟩ := Prod.mk.inj (Option.some.inj h)
    rfl
  | succ turns ih =>
    rw [DiscoverySchedule.startTurns] at h
    split at h
    · exact ih h
    · obtain ⟨deadline, -, h⟩ := Option.bind_eq_some_iff.mp h
      obtain ⟨⟨u, others⟩, hothers, h⟩ := Option.bind_eq_some_iff.mp h
      obtain ⟨rfl, -⟩ := Prod.mk.inj (Option.some.inj h)
      exact (ih hothers).trans rfl

/-- While nobody is enabled or disabled, the same devices have deadlines. -/
theorem unchanged_step {e : Event} {here : List ℕ} {others : List ℕ} (hs : Orderly s)
    (hen : ∀ enabled now, e = .reconcile enabled now → Unchanged enabled s)
    (h : step s e = some (t, here)) (hothers : Unchanged others s) : Unchanged others t := by
  intro id
  rw [hothers id]
  cases e with
  | reconcile enabled now =>
    obtain ⟨rfl, -⟩ := Prod.mk.inj (Option.some.inj h)
    have hkept := (retain_unchanged hs (hen enabled now rfl)).2.2 id
    exact exists_congr fun deadline => by rw [← hkept]; rfl
  | startReady now =>
    obtain ⟨⟨u, started⟩, hstarted, heq⟩ := Option.map_eq_some_iff.mp h
    obtain ⟨rfl, -⟩ := Prod.mk.inj heq
    rw [nextDue_startTurns hstarted]
  | complete a now =>
    obtain ⟨rfl, -⟩ := Prod.mk.inj (Option.some.inj h)
    rw [getElem?_complete]
    split
    · constructor
      · rintro ⟨deadline, hdeadline⟩
        exact ⟨_, by rw [hdeadline]; rfl⟩
      · rintro ⟨deadline, hdeadline⟩
        obtain ⟨old, hold, -⟩ := Option.map_eq_some_iff.mp hdeadline
        exact ⟨old, hold⟩
    · exact Iff.rfl

/-- **From the moment a device is due** no other one is started twice before it. -/
theorem fair_run {es : List Event} {started : List ℕ} (hne : y ≠ x) (hs : Orderly s)
    (hwaits : Waits x d s) (hnow : ∀ e ∈ es, d ≤ e.now) (hpermitted : Permitted s es)
    (hen : ∀ enabled now, .reconcile enabled now ∈ es → Unchanged enabled s)
    (h : run s es = some (t, started)) :
    Fair x d y s t started := by
  induction es generalizing s started with
  | nil =>
    obtain ⟨rfl, rfl⟩ := Prod.mk.inj (Option.some.inj h)
    exact fair_nil hwaits id
  | cons e es ih =>
    obtain ⟨⟨u, here⟩, hstep, h⟩ := Option.bind_eq_some_iff.mp h
    obtain ⟨⟨v, later⟩, hrun, h⟩ := Option.bind_eq_some_iff.mp h
    obtain ⟨rfl, rfl⟩ := Prod.mk.inj (Option.some.inj h)
    have hen' : ∀ enabled now, e = .reconcile enabled now → Unchanged enabled s :=
      fun enabled now heq => hen enabled now (heq ▸ List.mem_cons_self)
    have hfair := fair_step hne hs hwaits (hnow e List.mem_cons_self) hpermitted.1 hen' hstep
    refine hfair.trans fun hx => ?_
    exact ih (orderly_step hs hstep) (hfair.waits hx)
      (fun e' he' => hnow e' (List.mem_cons_of_mem e he')) (hpermitted.2 u here hstep)
      (fun enabled now hmem => unchanged_step hs hen' hstep
        (hen enabled now (List.mem_cons_of_mem e hmem))) hrun

end Window

/-! ### The schedule as a whole -/

/-- **The schedule never overlaps, forgets or starves.** After any events its collections agree,
what is ready can be started, and a rescan counts every device that is due and neither waits nor
runs. From there on, while the same devices are enabled, a device `x` that is due sees any other one
started at most once before it. -/
theorem discovery_schedule (anchor : ℕ) (es : List Event) :
    ∃ s started, run (.new anchor) es = some (s, started) ∧ Orderly s ∧
      (∃ r, s.startReady = some r) ∧
      (∀ enabled now, (overdue (s.reconcile enabled now).1 enabled now).card =
        (s.reconcile enabled now).2) ∧
      ∀ window t later x d, Permitted s window → run s window = some (t, later) → Waits x d s →
        (∀ e ∈ window, d ≤ e.now) → (∀ enabled now, .reconcile enabled now ∈ window →
          Unchanged enabled s) →
        ∀ y, y ≠ x → (before x later).count y ≤ 1 := by
  obtain ⟨s, started, hrun, hs⟩ := exists_run (orderly_new anchor) es
  obtain ⟨t, ready, hready, -⟩ := exists_startReady hs
  refine ⟨s, started, hrun, hs, ⟨_, hready⟩, card_overdue s, ?_⟩
  intro window t later x d hpermitted hwindow hwaits hnow hen y hne
  exact (fair_run hne hs hwaits hnow hpermitted hen hwindow).once

/-- Two devices are due, and the first of them is started before the second. -/
theorem discovery_schedule_two :
    ∃ s t later, run (.new 0) [.reconcile [0, 1] (300 * second)] = some (s, []) ∧
      run s [.reconcile [0, 1] (301 * second), .startReady (301 * second)] = some (t, later) ∧
      0 ∈ before 1 later ∧ (before 1 later).count 0 ≤ 1 := by
  obtain ⟨s, started, hrun, hs, -, -, hfair⟩ :=
    discovery_schedule 0 [.reconcile [0, 1] (300 * second)]
  obtain ⟨rfl, rfl⟩ := Prod.mk.inj (Option.some.inj hrun)
  obtain ⟨t, later, hwindow, -⟩ :=
    exists_run hs [.reconcile [0, 1] (301 * second), .startReady (301 * second)]
  have hlater : later = [0, 1] := by
    have hsame : (run ((DiscoverySchedule.new 0).reconcile [0, 1] (300 * second)).1
        [.reconcile [0, 1] (301 * second), .startReady (301 * second)]).map Prod.snd =
        some [0, 1] := by
      decide +kernel
    rw [hwindow] at hsame
    exact Option.some.inj hsame
  refine ⟨_, t, later, rfl, hwindow, by rw [hlater]; decide, ?_⟩
  refine hfair _ t later 1 (stableDiscoveryStagger 1) ?_ hwindow ⟨by decide +kernel,
    by decide +kernel⟩ ?_ ?_ 0 (by decide)
  · exact ⟨nofun, fun _ _ _ => ⟨nofun, fun _ _ _ => trivial⟩⟩
  · decide +kernel
  · intro enabled now hmem
    obtain ⟨rfl, -⟩ : enabled = [0, 1] ∧ now = 301 * second := by simpa using hmem
    exact unchanged_reconcile

end Rerouter.Discovery
