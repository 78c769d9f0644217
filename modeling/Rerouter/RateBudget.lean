import Mathlib.Logic.Function.Basic
import Rerouter.Guard
import Rerouter.Lib.Run

/-!
# The global rate budget, over runs

Workers reserve for their bundles, spend what was reserved one sibling at a time, and finish; other
actions reserve for themselves; rollbacks are written without asking. All of it interleaves,
and the clock runs on. What the two halves of a check and its write share is the advisory
lock `20:reroute:rate-global`: an admission or a reservation enters it, counts, and leaves it
with its write, while everything that does not take the lock goes on in between.

The budget is an invariant: the rows of the window, the outstanding reservations and what the
holder of the lock is about to write stay within the limit (`Rerouter.BudgetInv`). It holds in
every run in which no count is taken while a bundle older than the window still holds an
unspent reservation (`Rerouter.withinLimit_of_counts_young`). Such a bundle is not counted, and
spends its reservation all the same.
-/

namespace Rerouter

open Table

/-! ### The system -/

/-- Where the worker of a bundle is. It asks for admission once, before its first sibling. -/
inductive WorkerPhase where
  | fresh | admitting | admitted | refused
deriving DecidableEq

/-- What the holder of the lock is about to write. -/
inductive Critical where
  | admission (bundle size : ℕ)
  | reserve (bundle : Option ℕ) (device : ℕ) (trigger : TriggerType)
deriving DecidableEq

/-- The database, the clock, the workers and the lock. -/
structure RateState where
  now : ℕ
  db : Db := {}
  phase : ℕ → WorkerPhase := fun _ => .fresh
  /-- The holder of `20:reroute:rate-global`. -/
  holder : Option Critical := none

/-- What may happen. -/
inductive RateEvent where
  /-- Time passes. -/
  | tick (seconds : ℕ)
  /-- A bundle is written down, in state `planned`. -/
  | createBundle (id : ℕ) (mode : VerificationMode)
  /-- `persist_actions`: its intended siblings are. -/
  | persistActions (rows : List BundleActionRow)
  /-- `admit_bundle` takes the lock and counts. -/
  | enterAdmit (bundle size : ℕ) (fault : Bool)
  /-- `admit_bundle` writes the reservation, if it can, and releases the lock. -/
  | leaveAdmit (fault : Bool)
  /-- The bundle runs its siblings. -/
  | start (bundle : ℕ)
  /-- The bundle compensates. -/
  | compensate (bundle : ℕ)
  /-- `reserve_and_persist` takes the lock and counts, for a trigger that is no rollback. -/
  | enterReserve (bundle : Option ℕ) (device : ℕ) (trigger : TriggerType) (fault : Bool)
  /-- `reserve_slot` passes or refuses, the row is inserted, and the lock is released. -/
  | leaveReserve (slot : Bool)
  /-- `reserve_and_persist` for a rollback, without the lock. -/
  | rollback (bundle : Option ℕ) (device : ℕ) (mode : VerificationMode) (original : Option ℕ)
  /-- The bundle ends, and its reservation with it. -/
  | finish (bundle : ℕ) (state : BundleState)
  /-- A bundle that was not admitted is failed. -/
  | refuse (bundle : ℕ)

/-- A row of an action that is just reserved. -/
def RateState.newRow (s : RateState) (bundle : Option ℕ) (device : ℕ) (trigger : TriggerType)
    (mode : VerificationMode) (original : Option ℕ) : RerouteRow :=
  { id := s.db.reroutes.length, device, bundle, rollbackOf := original, trigger, mode,
    createdAt := s.now }

/-- A worker goes on. -/
def RateState.setPhase (s : RateState) (bundle : ℕ) (phase : WorkerPhase) : RateState :=
  { s with phase := Function.update s.phase bundle phase }

/-- Insert a row, spending a unit of its bundle where there is a limit to spend it from. -/
def RateState.insert (s : RateState) (row : RerouteRow) (consume : Bool) : RateState :=
  match insertReroute s.db row consume with
  | .ok db => { s with db }
  | .error _ => s

/-- `admit_bundle`, up to its write where it has taken the lock. A configuration test has its own
locks, and meets no other action in them. -/
def enterAdmit (cfg : SafetyConfig) (s : RateState) (bundle size : ℕ) (fault : Bool) : RateState :=
  match bundleRateScope cfg s.db bundle with
  | .error _ => s.setPhase bundle .refused
  | .ok scope =>
    match scope with
    | .routing limit window =>
      if limit = 0 then s.setPhase bundle .admitted
      else if s.holder.isSome then s
      else
        match admitRouting s.db s.now limit window bundle size fault with
        | .error _ => s.setPhase bundle .refused
        | .ok () => { s.setPhase bundle .admitting with holder := some (.admission bundle size) }
    | .configurationOnly devices =>
      match admitCheck s.db s.now bundle size fault (.configurationOnly devices) with
      | .error _ => s.setPhase bundle .refused
      | .ok () =>
        if (RateScope.configurationOnly devices).limited then
          match admitWrite s.db bundle size with
          | .ok db => { s.setPhase bundle .admitted with db }
          | .error _ => s.setPhase bundle .refused
        else s.setPhase bundle .admitted

/-- `reserve_and_persist`, up to its insertion where it has taken the lock. -/
def enterReserve (cfg : SafetyConfig) (s : RateState) (bundle : Option ℕ) (device : ℕ)
    (trigger : TriggerType) (fault : Bool) : RateState :=
  match bundle.elim (.ok (.routing cfg.limit cfg.window)) (bundleRateScope cfg s.db) with
  | .error _ => s
  | .ok (.routing limit window) =>
    if limit = 0 then s.insert (s.newRow bundle device trigger .routing none) false
    else if s.holder.isSome then s
    else
      match reserveRate s.db s.now limit window bundle fault with
      | .error _ => s
      | .ok () => { s with holder := some (.reserve bundle device trigger) }
  | .ok (.configurationOnly devices) =>
    match devices.find? fun d => d.device = device with
    | none => s
    | some rate =>
      s.insert (s.newRow bundle device trigger .configurationOnly none) (decide (0 < rate.limit))

/-- One event. An event that is not enabled leaves the state as it is. -/
def rateStep (cfg : SafetyConfig) (s : RateState) : RateEvent → RateState
  | .tick seconds => { s with now := s.now + seconds }
  | .createBundle id mode =>
    if (s.db.bundle id).isSome then s
    else
      { s with
        db := { s.db with bundles := s.db.bundles ++ [{ id, mode, createdAt := s.now }] } }
  | .persistActions rows => { s with db := { s.db with actions := s.db.actions ++ rows } }
  | .enterAdmit bundle size fault =>
    if s.phase bundle = .fresh then enterAdmit cfg s bundle size fault else s
  | .leaveAdmit fault =>
    match s.holder with
    | some (.admission bundle size) =>
      let s := { s with holder := none }
      match if fault then .error (.persistFailed "") else admitWrite s.db bundle size with
      | .ok db => { s.setPhase bundle .admitted with db }
      | .error _ => s.setPhase bundle .refused
    | _ => s
  | .start bundle =>
    { s with db := s.db.updateBundle bundle (fun b => b.state = .planned) fun b =>
      { b with state := .running } }
  | .compensate bundle =>
    { s with db := s.db.updateBundle bundle (fun b => b.state = .running) fun b =>
      { b with state := .compensating } }
  | .enterReserve bundle device trigger fault =>
    if trigger ≠ .rollback ∧ bundle.all fun b => s.phase b = .admitted then
      enterReserve cfg s bundle device trigger fault
    else s
  | .leaveReserve slot =>
    match s.holder with
    | some (.reserve bundle device trigger) =>
      let s := { s with holder := none }
      if slot then s.insert (s.newRow bundle device trigger .routing none) true else s
    | _ => s
  | .rollback bundle device mode original =>
    s.insert (s.newRow bundle device .rollback mode original) false
  | .finish bundle state =>
    if state.active then s
    else
      { s with db := s.db.updateBundle bundle (fun b => b.state.active) fun b =>
        { b with state, rateReserved := 0 } }
  | .refuse bundle =>
    if s.phase bundle = .fresh ∨ s.phase bundle = .refused then
      { s.setPhase bundle .refused with
        db := s.db.updateBundle bundle (fun b => b.state = .planned) fun b =>
          { b with state := .failed } }
    else s

/-! ### The budget -/

/-- A row the limit is about. -/
def RerouteRow.counted (r : RerouteRow) : Bool :=
  decide (r.trigger ≠ .rollback) && decide (r.mode ≠ .configurationOnly)

/-- The rows created in the window that ends at `t`. -/
def usedAt (db : Db) (window t : ℕ) : ℕ :=
  count (fun r => r.counted && inWindow t window r.createdAt && decide (r.createdAt ≤ t))
    db.reroutes

/-- What a bundle that may still act has reserved and not spent. -/
def BundleRow.outstanding (b : BundleRow) : ℕ :=
  if b.state.active && decide (b.mode ≠ .configurationOnly) then b.rateReserved else 0

theorem BundleRow.outstanding_le (b : BundleRow) : b.outstanding ≤ b.rateReserved := by
  unfold BundleRow.outstanding
  split_ifs
  · exact le_rfl
  · exact Nat.zero_le _

theorem BundleRow.of_outstanding_pos {b : BundleRow} (h : 0 < b.outstanding) :
    b.state.active = true ∧ b.mode ≠ .configurationOnly := by
  unfold BundleRow.outstanding at h
  split_ifs at h with hactive
  · simpa using hactive
  · exact absurd h (lt_irrefl _)

/-- What all of them have, of whatever age. -/
def outstanding (db : Db) : ℕ := total BundleRow.outstanding db.bundles

/-- What the holder of the lock has counted for itself. -/
def Critical.claim : Critical → ℕ
  | .admission _ size => size
  | .reserve none _ _ => 1
  | .reserve (some _) _ _ => 0

/-- **The limit**: no window of the configured length holds more rows than it. -/
def WithinLimit (cfg : SafetyConfig) (s : RateState) : Prop :=
  ∀ t, usedAt s.db cfg.window t ≤ cfg.limit

/-- The invariant of the budget. -/
structure BudgetInv (cfg : SafetyConfig) (s : RateState) : Prop where
  keyed : Keyed BundleRow.id s.db.bundles
  past : ∀ r ∈ s.db.reroutes, r.createdAt ≤ s.now
  /-- Before its admission a bundle has written nothing the limit is about. -/
  untouched : ∀ b, s.phase b = .fresh ∨ s.phase b = .admitting →
    ∀ r ∈ s.db.reroutes, r.counted = true → r.bundle ≠ some b
  /-- And has reserved nothing. -/
  unreserved : ∀ b ∈ s.db.bundles, s.phase b.id = .fresh ∨ s.phase b.id = .admitting →
    b.rateReserved = 0
  /-- What an admitted bundle can still spend is outstanding. -/
  spender : ∀ b ∈ s.db.bundles, s.phase b.id = .admitted → 0 < b.rateReserved →
    b.state.active = true
  holder_admission : ∀ b size, s.holder = some (.admission b size) → s.phase b = .admitting
  holder_reserve : ∀ b device trigger, s.holder = some (.reserve (some b) device trigger) →
    s.phase b = .admitted ∧ (∃ a ∈ s.db.bundles, a.id = b) ∧
      ∀ a ∈ s.db.bundles, a.id = b → a.mode ≠ .configurationOnly
  budget : usedAt s.db cfg.window s.now + outstanding s.db + (s.holder.elim 0 Critical.claim) ≤
    cfg.limit
  within : WithinLimit cfg s

/-- The events that compare a count with the limit. -/
def RateEvent.counts : RateEvent → Bool
  | .enterAdmit _ _ _ | .enterReserve none _ _ _ => true
  | _ => false

/-- When a budget is counted, no bundle older than the window holds an unspent reservation. -/
def CountsYoung (cfg : SafetyConfig) (s : RateState) (e : RateEvent) : Prop :=
  e.counts = true →
    ∀ b ∈ s.db.bundles, 0 < b.outstanding → inWindow s.now cfg.window b.createdAt = true

instance (cfg : SafetyConfig) (s : RateState) (e : RateEvent) : Decidable (CountsYoung cfg s e) :=
  inferInstanceAs (Decidable (_ → _))

variable {cfg : SafetyConfig} {s : RateState}

/-- Later windows hold no row that the present one does not. -/
theorem usedAt_le_of_past {db : Db} {window now t : ℕ}
    (hpast : ∀ r ∈ db.reroutes, r.createdAt ≤ now)
    (ht : now ≤ t) : usedAt db window t ≤ usedAt db window now := by
  refine count_le_of_imp fun r hr h => ?_
  have hr := hpast r hr
  simp only [inWindow, Bool.and_eq_true, decide_eq_true_eq] at h ⊢
  exact ⟨⟨h.1.1, by omega⟩, hr⟩

theorem usedAt_addReroute (db : Db) (row : RerouteRow) (window t : ℕ) :
    usedAt (db.addReroute row) window t = usedAt db window t +
      count (fun r => r.counted && inWindow t window r.createdAt && decide (r.createdAt ≤ t))
        [row] := count_append _ _

theorem usedAt_addReroute_of_not_counted {db : Db} {row : RerouteRow} (h : row.counted = false)
    (window t : ℕ) :
    usedAt (db.addReroute row) window t = usedAt db window t := by
  rw [usedAt_addReroute]
  simp [count, h]

theorem usedAt_addReroute_le (db : Db) (row : RerouteRow) (window t : ℕ) :
    usedAt (db.addReroute row) window t ≤ usedAt db window t + 1 := by
  rw [usedAt_addReroute]
  have : ∀ p : RerouteRow → Bool, count p [row] ≤ 1 := fun p => List.countP_le_length
  exact Nat.add_le_add_left (this _) _

theorem usedAt_addReroute_of_lt {db : Db} {row : RerouteRow} {window t : ℕ}
    (h : t < row.createdAt) :
    usedAt (db.addReroute row) window t = usedAt db window t := by
  rw [usedAt_addReroute]
  simp [count, h]

/-! ### What keeps the budget -/

/-- Time passes. -/
theorem BudgetInv.tick (h : BudgetInv cfg s) (seconds : ℕ) :
    BudgetInv cfg { s with now := s.now + seconds } := by
  have hle : usedAt s.db cfg.window (s.now + seconds) ≤ usedAt s.db cfg.window s.now :=
    usedAt_le_of_past h.past (by omega)
  have hbudget := h.budget
  exact { h with
    past := fun r hr => le_trans (h.past r hr) (Nat.le_add_right _ _)
    budget := by
      simp only at hbudget ⊢
      omega }

/-- The holder of the lock gives it up. -/
theorem BudgetInv.release (h : BudgetInv cfg s) : BudgetInv cfg { s with holder := none } := by
  have hbudget := h.budget
  exact { h with
    holder_admission := fun b size hb => by simp at hb
    holder_reserve := fun b device trigger hb => by simp at hb
    budget := by
      simp only [Option.elim_none] at hbudget ⊢
      omega }

/-- A bundle is updated, within the limit. -/
theorem BudgetInv.updateBundle (h : BudgetInv cfg s) {id : ℕ} {p : BundleRow → Bool}
    {f : BundleRow → BundleRow} (hid : ∀ b, (f b).id = b.id) (hmode : ∀ b, (f b).mode = b.mode)
    (hres : ∀ b ∈ s.db.bundles, b.id = id → p b = true →
      s.phase id = .fresh ∨ s.phase id = .admitting → (f b).rateReserved = 0)
    (hspend : ∀ b ∈ s.db.bundles, b.id = id → p b = true → s.phase id = .admitted →
      0 < (f b).rateReserved → (f b).state.active = true)
    (hfit : usedAt s.db cfg.window s.now + outstanding (s.db.updateBundle id p f) +
      s.holder.elim 0 Critical.claim ≤ cfg.limit) :
    BudgetInv cfg { s with db := s.db.updateBundle id p f } := by
  refine { h with
    keyed := h.keyed.update hid
    unreserved := forall_mem_update (fun b hb _ => h.unreserved b hb) fun b hb hp hphase => ?_
    spender := forall_mem_update (fun b hb _ => h.spender b hb) fun b hb hp hphase => ?_
    holder_reserve := fun b device trigger hb => ?_
    budget := hfit }
  · simp only [Bool.and_eq_true, decide_eq_true_eq] at hp
    exact hres b hb hp.1 hp.2 (by rwa [hid, hp.1] at hphase)
  · simp only [Bool.and_eq_true, decide_eq_true_eq] at hp
    exact hspend b hb hp.1 hp.2 (by rwa [hid, hp.1] at hphase)
  · obtain ⟨hphase, ⟨a, ha, hab⟩, hall⟩ := h.holder_reserve b device trigger hb
    refine ⟨hphase, ⟨_, mem_update.mpr ⟨a, ha, rfl⟩, ?_⟩,
      forall_mem_update (fun a ha _ => hall a ha) fun a ha _ hab => ?_⟩
    · split
      · rw [hid, hab]
      · exact hab
    · rw [hmode]
      exact hall a ha (by rwa [hid] at hab)

/-- A bundle is updated without gaining anything it could spend. -/
theorem BudgetInv.lowerBundle (h : BudgetInv cfg s) {id : ℕ} {p : BundleRow → Bool}
    {f : BundleRow → BundleRow} (hid : ∀ b, (f b).id = b.id) (hmode : ∀ b, (f b).mode = b.mode)
    (hres : ∀ b, p b = true → (f b).rateReserved ≤ b.rateReserved)
    (hout : ∀ b, p b = true → (f b).outstanding ≤ b.outstanding)
    (hspend : ∀ b ∈ s.db.bundles, b.id = id → p b = true → s.phase id = .admitted →
      0 < (f b).rateReserved → (f b).state.active = true) :
    BudgetInv cfg { s with db := s.db.updateBundle id p f } := by
  have hle : outstanding (s.db.updateBundle id p f) ≤ outstanding s.db :=
    total_update_le fun b _ hb => hout b (by simp only [Bool.and_eq_true] at hb; exact hb.2)
  have hbudget := h.budget
  refine h.updateBundle hid hmode (fun b hb hbid hp hphase => ?_) hspend (by omega)
  have hzero := h.unreserved b hb (by rwa [hbid])
  have := hres b hp
  omega

/-- A row is inserted that the budget has room for. -/
theorem BudgetInv.addReroute (h : BudgetInv cfg s) {row : RerouteRow} (hnow : row.createdAt = s.now)
    (hbundle : ∀ b, row.counted = true → row.bundle = some b → s.phase b = .admitted)
    (hfit : usedAt (s.db.addReroute row) cfg.window s.now +
      outstanding s.db + s.holder.elim 0 Critical.claim ≤ cfg.limit) :
    BudgetInv cfg { s with db := s.db.addReroute row } := by
  have hpast : ∀ r ∈ s.db.reroutes ++ [row], r.createdAt ≤ s.now := fun r hr => by
    rcases List.mem_append.mp hr with hr | hr
    · exact h.past r hr
    · rw [List.mem_singleton.mp hr, hnow]
  refine { h with
    past := hpast
    untouched := fun b hb r hr hcounted hrb => ?_
    budget := hfit
    within := fun t => ?_ }
  · rcases List.mem_append.mp hr with hr | hr
    · exact h.untouched b hb r hr hcounted hrb
    · obtain rfl := List.mem_singleton.mp hr
      rw [hbundle b hcounted hrb] at hb
      exact absurd hb (by simp)
  · by_cases ht : t < s.now
    · rw [usedAt_addReroute_of_lt (by omega)]
      exact h.within t
    · have hlast : usedAt (s.db.addReroute row) cfg.window t ≤
          usedAt (s.db.addReroute row) cfg.window s.now :=
        usedAt_le_of_past hpast (Nat.le_of_not_lt ht)
      simp only
      omega

/-- A worker that holds nothing goes on, having nothing to spend yet. -/
theorem BudgetInv.setPhase (h : BudgetInv cfg s) {b : ℕ} {phase : WorkerPhase}
    (hadmission : ∀ n, s.holder ≠ some (.admission b n))
    (hreserve : ∀ device trigger, s.holder ≠ some (.reserve (some b) device trigger))
    (hnew : phase = .refused ∨ s.phase b = .fresh ∨ s.phase b = .admitting) :
    BudgetInv cfg (s.setPhase b phase) := by
  have hself : (s.setPhase b phase).phase b = phase := by simp [RateState.setPhase]
  have hother : ∀ c, c ≠ b → (s.setPhase b phase).phase c = s.phase c := fun c hc => by
    simp [RateState.setPhase, hc]
  have hearly : ∀ c, (s.setPhase b phase).phase c = .fresh ∨
      (s.setPhase b phase).phase c = .admitting → s.phase c = .fresh ∨ s.phase c = .admitting := by
    intro c hc
    by_cases hcb : c = b
    · subst hcb
      rcases hnew with rfl | hnew
      · simp [hself] at hc
      · exact hnew
    · rwa [hother c hcb] at hc
  refine { h with
    untouched := fun c hc => h.untouched c (hearly c hc)
    unreserved := fun a ha hphase => h.unreserved a ha (hearly a.id hphase)
    spender := fun a ha hphase hpos => ?_
    holder_admission := fun c n hc => ?_
    holder_reserve := fun c device trigger hc => ?_ }
  · by_cases hab : a.id = b
    · rw [hab, hself] at hphase
      have hzero := h.unreserved a ha (by
        rw [hab]
        exact hnew.resolve_left (by simp [hphase]))
      exact absurd hpos (by simp [hzero])
    · exact h.spender a ha (by rwa [hother _ hab] at hphase) hpos
  · have hcb : c ≠ b := by
      rintro rfl
      exact hadmission n hc
    rw [hother c hcb]
    exact h.holder_admission c n hc
  · have hcb : c ≠ b := by
      rintro rfl
      exact hreserve device trigger hc
    rw [hother c hcb]
    exact h.holder_reserve c device trigger hc

/-- What `admitWrite` does to the bundles: the reservation of the one bundle is set, where it is
planned and has none. -/
theorem admitWrite_cases {db db' : Db} {b size : ℕ} (hw : admitWrite db b size = .ok db') :
    (∃ a ∈ db.bundles, a.id = b ∧ a.unadmitted = true ∧
      db' = db.updateBundle b BundleRow.unadmitted (BundleRow.reserve size)) ∨ db' = db := by
  simp only [admitWrite] at hw
  split_ifs at hw with hfresh hsize
  · obtain ⟨a, ha, hp⟩ := (Option.any_eq_true _ _).mp hfresh
    obtain ⟨hmem, hid⟩ := mem_of_find ha
    exact Or.inl ⟨a, hmem, hid, hp, (Except.ok.inj hw).symm⟩
  · exact Or.inr (Except.ok.inj hw).symm

/-- An update of a bundle trades what was outstanding of it. -/
theorem outstanding_updateBundle {db : Db} (hk : Keyed BundleRow.id db.bundles) {a : BundleRow}
    (ha : a ∈ db.bundles) {p : BundleRow → Bool} (hp : p a = true) (f : BundleRow → BundleRow) :
    outstanding (db.updateBundle a.id p f) + a.outstanding =
      outstanding db + (f a).outstanding := by
  refine total_update_single hk ha (by simp [hp]) fun c _ hc => ?_
  simp only [Bool.and_eq_true, decide_eq_true_eq] at hc
  exact hc.1

/-- What a written reservation adds to the outstanding ones: nothing for a configuration
test. -/
theorem outstanding_admitWrite {db db' : Db} {b size : ℕ} (hk : Keyed BundleRow.id db.bundles)
    (hw : admitWrite db b size = .ok db') :
    outstanding db' ≤ outstanding db + size ∧
      ((∀ a ∈ db.bundles, a.id = b → a.mode = .configurationOnly) →
        outstanding db' = outstanding db) := by
  rcases admitWrite_cases hw with ⟨a, ha, rfl, hp, rfl⟩ | rfl
  · have htrade := outstanding_updateBundle hk ha hp (BundleRow.reserve size)
    have hnew : (a.reserve size).outstanding ≤ size := BundleRow.outstanding_le _
    refine ⟨by omega, fun hall => ?_⟩
    have hmode := hall a ha rfl
    have hold : a.outstanding = 0 := by simp [BundleRow.outstanding, hmode]
    have hnew : (a.reserve size).outstanding = 0 := by
      simp [BundleRow.outstanding, BundleRow.reserve, hmode]
    omega
  · exact ⟨Nat.le_add_right _ _, fun _ => rfl⟩

/-- The reservation of an admitted bundle is written. -/
theorem BudgetInv.admitWrite (h : BudgetInv cfg s) {b size : ℕ} {db : Db}
    (hw : Rerouter.admitWrite s.db b size = .ok db) (hphase : s.phase b = .admitted)
    (hfit : usedAt s.db cfg.window s.now + outstanding db + s.holder.elim 0 Critical.claim ≤
      cfg.limit) :
    BudgetInv cfg { s with db } := by
  rcases admitWrite_cases hw with ⟨a, ha, rfl, hp, rfl⟩ | rfl
  · refine h.updateBundle (fun _ => rfl) (fun _ => rfl) (fun c _ _ _ hc => ?_)
      (fun c _ _ hc _ _ => ?_) hfit
    · simp [hphase] at hc
    · simp only [BundleRow.unadmitted, Bool.and_eq_true, decide_eq_true_eq] at hc
      rw [BundleRow.reserve, hc.1]
      rfl
  · exact h

/-- What the insertion of a row does: a unit of the bundle's reservation is spent, where it is
to be spent and there is one. -/
theorem insert_cases (s : RateState) (row : RerouteRow) (consume : Bool) :
    s.insert row consume = s ∨
    (s.insert row consume = { s with db := s.db.addReroute row } ∧
      (consume = true → row.bundle = none)) ∨
    ∃ a ∈ s.db.bundles, row.bundle = some a.id ∧ 0 < a.rateReserved ∧ s.insert row consume =
      { s with db :=
        (s.db.updateBundle a.id BundleRow.unspent BundleRow.spendOne).addReroute row } := by
  simp only [RateState.insert, insertReroute]
  cases hb : if consume then row.bundle else none with
  | none =>
    refine Or.inr (Or.inl ⟨rfl, fun hc => ?_⟩)
    rwa [hc, if_pos rfl] at hb
  | some b =>
    have hbundle : row.bundle = some b := by
      split_ifs at hb with hc
      exact hb
    by_cases hany : (s.db.bundle b).any BundleRow.unspent = true
    · obtain ⟨a, ha, hpos⟩ := (Option.any_eq_true _ _).mp hany
      obtain ⟨hmem, rfl⟩ := mem_of_find ha
      refine Or.inr (Or.inr ⟨a, hmem, hbundle, by simpa [BundleRow.unspent] using hpos, ?_⟩)
      simp only [hany, if_true]
    · simp only [hany, Bool.false_eq_true, if_false, true_or]

/-- Spending a unit gains nothing. -/
theorem BudgetInv.spendOne (h : BudgetInv cfg s) (id : ℕ) :
    BudgetInv cfg { s with db := s.db.updateBundle id BundleRow.unspent BundleRow.spendOne } := by
  refine h.lowerBundle (fun _ => rfl) (fun _ => rfl) (fun b _ => Nat.sub_le _ _) (fun b _ => ?_)
    fun b hb hid hp hphase _ => ?_
  · unfold BundleRow.outstanding BundleRow.spendOne
    split_ifs
    · exact Nat.sub_le _ _
    · exact le_rfl
  · exact h.spender b hb (by rw [hid, hphase]) (by simpa [BundleRow.unspent] using hp)

/-- **A unit of a reservation is turned into a row.** -/
theorem BudgetInv.spend (h : BudgetInv cfg s) {row : RerouteRow} (hnow : row.createdAt = s.now)
    {b : ℕ} (hrow : row.bundle = some b) (hphase : s.phase b = .admitted)
    (hmode : ∀ a ∈ s.db.bundles, a.id = b → a.mode ≠ .configurationOnly) :
    BudgetInv cfg (s.insert row true) := by
  rcases insert_cases s row true with heq | ⟨-, hnone⟩ | ⟨a, ha, hbundle, hpos, heq⟩
  · rw [heq]
    exact h
  · rw [hnone rfl] at hrow
    cases hrow
  · obtain rfl : b = a.id := Option.some.inj (hrow.symm.trans hbundle)
    rw [heq]
    refine BudgetInv.addReroute (h.spendOne a.id) hnow (fun c _ hc => ?_) ?_
    · obtain rfl : a.id = c := Option.some.inj (hbundle.symm.trans hc)
      exact hphase
    · -- the unit the bundle held is the row that is written
      have hactive := h.spender a ha hphase hpos
      have htrade := outstanding_updateBundle h.keyed ha (p := BundleRow.unspent)
        (by simpa [BundleRow.unspent] using hpos) BundleRow.spendOne
      have hold : a.outstanding = a.rateReserved := by
        simp [BundleRow.outstanding, hactive, hmode a ha rfl]
      have hnew : a.spendOne.outstanding = a.rateReserved - 1 := by
        simp [BundleRow.outstanding, BundleRow.spendOne, hactive, hmode a ha rfl]
      have hused := usedAt_addReroute_le
        (s.db.updateBundle a.id BundleRow.unspent BundleRow.spendOne) row cfg.window s.now
      have hkeep : usedAt (s.db.updateBundle a.id BundleRow.unspent BundleRow.spendOne)
        cfg.window s.now = usedAt s.db cfg.window s.now := rfl
      have hbudget := h.budget
      simp only
      omega

/-- A row that is not counted takes no budget. -/
theorem BudgetInv.insert_of_not_counted (h : BudgetInv cfg s) {row : RerouteRow}
    (hrow : row.counted = false) (hnow : row.createdAt = s.now) (consume : Bool) :
    BudgetInv cfg (s.insert row consume) := by
  have hadd : ∀ {s : RateState}, BudgetInv cfg s → row.createdAt = s.now →
      BudgetInv cfg { s with db := s.db.addReroute row } := fun h hnow => by
    refine h.addReroute hnow (fun c hc _ => absurd hc (by simp [hrow])) ?_
    rw [usedAt_addReroute_of_not_counted hrow]
    exact h.budget
  rcases insert_cases s row consume with heq | ⟨heq, -⟩ | ⟨a, ha, -, -, heq⟩
  · rw [heq]
    exact h
  · rw [heq]
    exact hadd h hnow
  · rw [heq]
    exact hadd (h.spendOne a.id) hnow

/-! ### What the counts say -/

/-- The scope of a bundle of routing changes. -/
theorem bundleRateScope_eq_routing {db : Db} {b limit window : ℕ}
    (h : bundleRateScope cfg db b = .ok (.routing limit window)) :
    limit = cfg.limit ∧ window = cfg.window ∧ ∃ a ∈ db.bundles, a.id = b ∧ a.mode = .routing := by
  unfold bundleRateScope at h
  split at h
  · cases h
  · rename_i a ha
    obtain ⟨hmem, hid⟩ := mem_of_find ha
    split at h
    · split_ifs at h
      cases h
    · rename_i hmode
      split_ifs at h
      cases h
      exact ⟨rfl, rfl, a, hmem, hid, hmode⟩
    · cases h

theorem bundleRateScope_eq_configurationOnly {db : Db} {b : ℕ} {devices : List ConfigurationRate}
    (h : bundleRateScope cfg db b = .ok (.configurationOnly devices)) :
    ∃ a ∈ db.bundles, a.id = b ∧ a.mode = .configurationOnly := by
  unfold bundleRateScope at h
  split at h
  · cases h
  · rename_i a ha
    obtain ⟨hmem, hid⟩ := mem_of_find ha
    split at h
    · rename_i hmode
      exact ⟨a, hmem, hid, hmode⟩
    · split_ifs at h
      cases h
    · cases h

/-- The outstanding reservations of the other bundles are all counted, when none is older than
the window. -/
theorem outstanding_le_scoped (exclude : Option ℕ)
    (hyoung : ∀ b ∈ s.db.bundles, 0 < b.outstanding → inWindow s.now cfg.window b.createdAt = true)
    (hself : ∀ b ∈ s.db.bundles, some b.id = exclude → b.rateReserved = 0) :
    outstanding s.db ≤ scopedOutstandingBundleActions s.db s.now cfg.window exclude := by
  refine total_le_total fun b hb => ?_
  rcases Nat.eq_zero_or_pos b.outstanding with hzero | hpos
  · rw [hzero]
    exact Nat.zero_le _
  · have hle := b.outstanding_le
    have hin := hyoung b hb hpos
    have hne : some b.id ≠ exclude := fun he => by
      have := hself b hb he
      omega
    obtain ⟨hactive, hmode⟩ := BundleRow.of_outstanding_pos hpos
    rw [if_pos (by simp [hactive, hne, hin, hmode])]
    exact b.outstanding_le

/-- The rows of the window are all counted, when the excluded bundle has none. -/
theorem usedAt_le_scoped (cfg : SafetyConfig) (exclude : Option ℕ)
    (hself : ∀ r ∈ s.db.reroutes, r.counted = true → exclude.isSome → r.bundle ≠ exclude) :
    usedAt s.db cfg.window s.now ≤
      scopedRecentRerouteCount s.db s.now cfg.window exclude none := by
  refine count_le_of_imp fun r hr h => ?_
  simp only [Bool.and_eq_true] at h
  have hmode : r.mode ≠ .configurationOnly := by
    have := h.1.1
    simp only [RerouteRow.counted, Bool.and_eq_true, decide_eq_true_eq] at this
    exact this.2
  have hexclude : (exclude = none ∨ r.bundle = none) ∨ ¬r.bundle = exclude := by
    cases exclude with
    | none => exact Or.inl (Or.inl rfl)
    | some b => exact Or.inr (hself r hr h.1.1 rfl)
  simp [h.1.2, hexclude, hmode]

/-- An admission that passes the count fits. -/
theorem admitRouting_fits {db : Db} {now limit window b size : ℕ} {fault : Bool}
    (hlt : limit < 4294967296)
    (h : admitRouting db now limit window b size fault = .ok ()) :
    scopedRecentRerouteCount db now window (some b) none +
      scopedOutstandingBundleActions db now window (some b) + size ≤ limit := by
  simp only [admitRouting] at h
  split_ifs at h with hfull
  cases fault
  · simp only [countOrMax, saturatingAddI64, i64Max, Bool.false_eq_true, if_false] at hfull
    omega
  · simp only [countOrMax, saturatingAddI64, i64Max, if_true] at hfull
    omega

/-- A reservation of no bundle that passes the count fits. -/
theorem reserveRate_fits {db : Db} {now limit window : ℕ} {fault : Bool}
    (hlt : limit < 4294967296) (h : reserveRate db now limit window none fault = .ok ()) :
    scopedRecentRerouteCount db now window none none +
      scopedOutstandingBundleActions db now window none + 1 ≤ limit := by
  simp only [reserveRate] at h
  split_ifs at h with hfull
  simp only [Option.isSome_none, Bool.false_eq_true, false_and, Option.isNone_none, true_and,
    false_or, not_le] at hfull
  cases fault
  · simp only [countOrMax, saturatingAddI64, i64Max, Bool.false_eq_true, if_false] at hfull
    omega
  · simp only [countOrMax, saturatingAddI64, i64Max, if_true] at hfull
    omega

/-- The lock is free, and is taken with a claim that fits. -/
theorem BudgetInv.acquire (h : BudgetInv cfg s) {c : Critical}
    (hadmission : ∀ b size, c = .admission b size → s.phase b = .admitting)
    (hreserve : ∀ b device trigger, c = .reserve (some b) device trigger →
      s.phase b = .admitted ∧ (∃ a ∈ s.db.bundles, a.id = b) ∧
        ∀ a ∈ s.db.bundles, a.id = b → a.mode ≠ .configurationOnly)
    (hfit : usedAt s.db cfg.window s.now + outstanding s.db + c.claim ≤ cfg.limit) :
    BudgetInv cfg { s with holder := some c } :=
  { h with
    holder_admission := fun b size hb => hadmission b size (Option.some.inj hb)
    holder_reserve := fun b device trigger hb => hreserve b device trigger (Option.some.inj hb)
    budget := hfit }

/-- The worker of a bundle asks for admission. -/
theorem BudgetInv.enterAdmit (hlimit : 0 < cfg.limit) (h : BudgetInv cfg s) {b size : ℕ}
    {fault : Bool} (hphase : s.phase b = .fresh)
    (hyoung : CountsYoung cfg s (.enterAdmit b size fault)) :
    BudgetInv cfg (Rerouter.enterAdmit cfg s b size fault) := by
  have hadmission : ∀ n, s.holder ≠ some (.admission b n) := fun n hn => by
    have := h.holder_admission b n hn
    simp [hphase] at this
  have hreserve : ∀ device trigger, s.holder ≠ some (.reserve (some b) device trigger) := by
    intro device trigger hn
    have := (h.holder_reserve b device trigger hn).1
    simp [hphase] at this
  have hgo : ∀ phase, BudgetInv cfg (s.setPhase b phase) := fun phase =>
    h.setPhase hadmission hreserve (Or.inr (Or.inl hphase))
  unfold Rerouter.enterAdmit
  split
  · exact hgo .refused
  rename_i scope hscope
  split
  · rename_i limit window
    obtain ⟨rfl, rfl, -⟩ := bundleRateScope_eq_routing hscope
    rw [if_neg (by omega)]
    split_ifs with hholder
    · exact h
    split
    · exact hgo .refused
    · rename_i hfits
      have hself : ∀ a ∈ s.db.bundles, some a.id = some b → a.rateReserved = 0 := fun a ha hab =>
        h.unreserved a ha (Or.inl (by rw [Option.some.inj hab, hphase]))
      have hcount := admitRouting_fits cfg.limit_lt hfits
      have hout := outstanding_le_scoped _ (hyoung rfl) hself
      have hused := usedAt_le_scoped cfg (some b)
        fun r hr hcounted _ => h.untouched b (Or.inl hphase) r hr hcounted
      refine (hgo .admitting).acquire (fun c n hc => ?_) (fun c device trigger hc => ?_) ?_
      · cases hc
        simp [RateState.setPhase]
      · cases hc
      · show usedAt s.db cfg.window s.now + outstanding s.db + size ≤ cfg.limit
        omega
  · rename_i devices
    obtain ⟨a, ha, hid, hmode⟩ := bundleRateScope_eq_configurationOnly hscope
    have hall : ∀ c ∈ s.db.bundles, c.id = b → c.mode = .configurationOnly := fun c hc hcb => by
      rw [h.keyed.eq_of_key_eq hc ha (hcb.trans hid.symm), hmode]
    split
    · exact hgo .refused
    split_ifs with hlimited
    · split
      · rename_i db hw
        refine BudgetInv.admitWrite (hgo .admitted) hw (by simp [RateState.setPhase]) ?_
        rw [(outstanding_admitWrite h.keyed hw).2 hall]
        exact h.budget
      · exact hgo .refused
    · exact hgo .admitted

/-- The holder of the lock writes its admission. -/
theorem BudgetInv.leaveAdmit (h : BudgetInv cfg s) (fault : Bool) :
    BudgetInv cfg (rateStep cfg s (.leaveAdmit fault)) := by
  simp only [rateStep]
  split
  · rename_i b size hholder
    have hphase := h.holder_admission b size hholder
    have hgo : ∀ phase, BudgetInv cfg (RateState.setPhase { s with holder := none } b phase) :=
      fun phase => h.release.setPhase (by simp) (by simp) (Or.inr (Or.inr hphase))
    split
    · rename_i db hw
      split_ifs at hw
      refine BudgetInv.admitWrite (hgo .admitted) hw (by simp [RateState.setPhase]) ?_
      have hbudget := h.budget
      have hout := (outstanding_admitWrite h.keyed hw).1
      rw [hholder] at hbudget
      show usedAt s.db cfg.window s.now + outstanding db + 0 ≤ cfg.limit
      simp only [Option.elim_some, Critical.claim] at hbudget
      omega
    · exact hgo .refused
  · exact h

/-- An action that is no bundle's takes a unit of the free budget. -/
theorem BudgetInv.enterReserve_none (hlimit : 0 < cfg.limit) (h : BudgetInv cfg s) {device : ℕ}
    {trigger : TriggerType} {fault : Bool}
    (hyoung : CountsYoung cfg s (.enterReserve none device trigger fault)) :
    BudgetInv cfg (enterReserve cfg s none device trigger fault) := by
  simp only [enterReserve, Option.elim_none]
  rw [if_neg (by omega)]
  split_ifs
  · exact h
  split
  · exact h
  · rename_i hfits
    have hcount := reserveRate_fits cfg.limit_lt hfits
    have hout := outstanding_le_scoped none (hyoung rfl) fun b _ hb => by cases hb
    have hused : usedAt s.db cfg.window s.now ≤ _ := usedAt_le_scoped cfg none fun r _ _ hn => by
      cases hn
    refine h.acquire (fun b size hc => by cases hc) (fun b device trigger hc => by cases hc) ?_
    show usedAt s.db cfg.window s.now + outstanding s.db + 1 ≤ cfg.limit
    omega

/-- A sibling takes a unit of its bundle's reservation. -/
theorem BudgetInv.enterReserve_some (hlimit : 0 < cfg.limit) (h : BudgetInv cfg s) {b device : ℕ}
    {trigger : TriggerType} {fault : Bool} (hphase : s.phase b = .admitted) :
    BudgetInv cfg (enterReserve cfg s (some b) device trigger fault) := by
  simp only [enterReserve, Option.elim_some]
  split
  · exact h
  · rename_i limit window hscope
    obtain ⟨rfl, rfl, a, ha, hid, hmode⟩ := bundleRateScope_eq_routing hscope
    rw [if_neg (by omega)]
    split_ifs
    · exact h
    split
    · exact h
    · have hbudget := h.budget
      refine h.acquire (fun c size hc => by cases hc) (fun c device trigger hc => ?_) ?_
      · cases hc
        refine ⟨hphase, ⟨a, ha, hid⟩, fun d hd hdb => ?_⟩
        rw [h.keyed.eq_of_key_eq hd ha (hdb.trans hid.symm), hmode]
        decide
      · show usedAt s.db cfg.window s.now + outstanding s.db + 0 ≤ cfg.limit
        omega
  · rename_i devices hscope
    split
    · exact h
    · exact h.insert_of_not_counted (by simp [RateState.newRow, RerouteRow.counted]) rfl _

/-- The holder of the lock writes its row. -/
theorem BudgetInv.leaveReserve (h : BudgetInv cfg s) (slot : Bool) :
    BudgetInv cfg (rateStep cfg s (.leaveReserve slot)) := by
  simp only [rateStep]
  split
  · rename_i bundle device trigger hholder
    split_ifs with hslot
    · cases bundle with
      | some b =>
        obtain ⟨hphase, -, hmode⟩ := h.holder_reserve b device trigger hholder
        exact h.release.spend rfl rfl hphase hmode
      | none =>
        have hbudget := h.budget
        rw [hholder] at hbudget
        simp only [Option.elim_some, Critical.claim] at hbudget
        rcases insert_cases { s with holder := none }
          (RateState.newRow { s with holder := none } none device trigger .routing none) true with
          heq | ⟨heq, -⟩ | ⟨a, -, hbundle, -⟩
        · rw [heq]
          exact h.release
        · rw [heq]
          refine h.release.addReroute rfl (fun b _ hb => by cases hb) ?_
          have hused := usedAt_addReroute_le s.db
            (RateState.newRow { s with holder := none } none device trigger .routing none)
            cfg.window s.now
          simp only [Option.elim_none]
          omega
        · cases hbundle
    · exact h.release
  · exact h

/-- A new bundle has reserved nothing. -/
theorem BudgetInv.createBundle (h : BudgetInv cfg s) {id : ℕ} (mode : VerificationMode)
    (hnew : s.db.bundle id = none) :
    BudgetInv cfg { s with db :=
      { s.db with bundles := s.db.bundles ++ [{ id, mode, createdAt := s.now }] } } := by
  have hids : ∀ a ∈ s.db.bundles, a.id ≠ id := find_eq_none.mp hnew
  have hout : outstanding { s.db with bundles :=
      s.db.bundles ++ [{ id, mode, createdAt := s.now }] } = outstanding s.db := by
    rw [outstanding, total_append, total_singleton]
    simp [BundleRow.outstanding, outstanding]
  have hmem : ∀ {P : BundleRow → Prop}, (∀ a ∈ s.db.bundles, P a) →
      P { id, mode, createdAt := s.now } →
      ∀ a ∈ s.db.bundles ++ [{ id, mode, createdAt := s.now }], P a := fun hold hrow a ha => by
    rcases List.mem_append.mp ha with ha | ha
    · exact hold a ha
    · rwa [List.mem_singleton.mp ha]
  refine { h with
    keyed := h.keyed.append hids
    unreserved := hmem h.unreserved fun _ => rfl
    spender := hmem h.spender fun _ hpos => absurd hpos (lt_irrefl _)
    holder_reserve := fun b device trigger hb => ?_
    budget := by rw [hout]; exact h.budget }
  obtain ⟨hphase, ⟨a, ha, hab⟩, hall⟩ := h.holder_reserve b device trigger hb
  exact ⟨hphase, ⟨a, List.mem_append_left _ ha, hab⟩,
    hmem hall fun hid => absurd (hab.trans hid.symm) (hids a ha)⟩

/-- A bundle that was not admitted is failed. -/
theorem BudgetInv.refuse (h : BudgetInv cfg s) {b : ℕ}
    (hphase : s.phase b = .fresh ∨ s.phase b = .refused) :
    BudgetInv cfg { s.setPhase b .refused with
      db := s.db.updateBundle b (fun b => b.state = .planned) fun b =>
        { b with state := .failed } } := by
  have hgo : BudgetInv cfg (s.setPhase b .refused) := by
    refine h.setPhase (fun n hn => ?_) (fun device trigger hn => ?_) (Or.inl rfl)
    · have := h.holder_admission b n hn
      rcases hphase with hp | hp <;> simp [hp] at this
    · have := (h.holder_reserve b device trigger hn).1
      rcases hphase with hp | hp <;> simp [hp] at this
  refine hgo.lowerBundle (fun _ => rfl) (fun _ => rfl) (fun _ _ => le_rfl) (fun c _ => ?_)
    fun c _ _ _ hc _ => ?_
  · simp [BundleRow.outstanding, BundleState.active]
  · simp [RateState.setPhase] at hc

/-- **One event keeps the budget.** -/
theorem BudgetInv.step (hlimit : 0 < cfg.limit) (h : BudgetInv cfg s) (e : RateEvent)
    (hyoung : CountsYoung cfg s e) : BudgetInv cfg (rateStep cfg s e) := by
  cases e with
  | tick seconds => exact h.tick seconds
  | createBundle id mode =>
    simp only [rateStep]
    split_ifs with hexists
    · exact h
    · exact h.createBundle mode (by simpa using hexists)
  | persistActions rows => exact { h with }
  | enterAdmit b size fault =>
    simp only [rateStep]
    split_ifs with hphase
    · exact h.enterAdmit hlimit hphase hyoung
    · exact h
  | leaveAdmit fault => exact h.leaveAdmit fault
  | start b =>
    refine h.lowerBundle (fun _ => rfl) (fun _ => rfl) (fun _ _ => le_rfl) (fun c hc => ?_)
      fun _ _ _ _ _ _ => rfl
    simp only [decide_eq_true_eq] at hc
    simp [BundleRow.outstanding, hc, BundleState.active]
  | compensate b =>
    refine h.lowerBundle (fun _ => rfl) (fun _ => rfl) (fun _ _ => le_rfl) (fun c hc => ?_)
      fun _ _ _ _ _ _ => rfl
    simp only [decide_eq_true_eq] at hc
    simp [BundleRow.outstanding, hc, BundleState.active]
  | enterReserve bundle device trigger fault =>
    simp only [rateStep]
    split_ifs with henabled
    · cases bundle with
      | none => exact h.enterReserve_none hlimit hyoung
      | some b => exact h.enterReserve_some hlimit (by simpa using henabled.2)
    · exact h
  | leaveReserve slot => exact h.leaveReserve slot
  | rollback bundle device mode original =>
    show BudgetInv cfg (s.insert (s.newRow bundle device .rollback mode original) false)
    exact h.insert_of_not_counted rfl rfl false
  | finish b state =>
    simp only [rateStep]
    split_ifs with hactive
    · exact h
    refine h.lowerBundle (fun _ => rfl) (fun _ => rfl) (fun _ _ => Nat.zero_le _) (fun c hc => ?_)
      fun c hc _ _ _ hpos => absurd hpos (lt_irrefl _)
    simp [BundleRow.outstanding, hactive]
  | refuse b =>
    simp only [rateStep]
    split_ifs with hphase
    · exact h.refuse hphase
    · exact h

/-! ### Runs -/

/-- Nothing has happened yet. -/
def RateState.init (now : ℕ) : RateState := { now }

theorem BudgetInv.init (cfg : SafetyConfig) (now : ℕ) : BudgetInv cfg (RateState.init now) where
  keyed := List.nodup_nil
  past := by simp [RateState.init]
  untouched := by simp [RateState.init]
  unreserved := by simp [RateState.init]
  spender := by simp [RateState.init]
  holder_admission := by simp [RateState.init]
  holder_reserve := by simp [RateState.init]
  budget := Nat.zero_le _
  within := fun _ => Nat.zero_le _

/-- **No window ever holds more than the limit**, in a run in which no count is taken while a
bundle older than the window still holds an unspent reservation: the rows of the present window
and the outstanding reservations stay within it together. -/
theorem withinLimit_of_counts_young (cfg : SafetyConfig) (hlimit : 0 < cfg.limit) (now : ℕ)
    (es : List RateEvent)
    (hyoung : Run.Meets (rateStep cfg) (CountsYoung cfg) (RateState.init now) es) :
    let s := Run.run (rateStep cfg) (RateState.init now) es
    WithinLimit cfg s ∧ usedAt s.db cfg.window s.now + outstanding s.db ≤ cfg.limit := by
  have hinv : BudgetInv cfg (Run.run (rateStep cfg) (RateState.init now) es) :=
    Run.invariant_of_meets (I := BudgetInv cfg) (fun _ e h hC => h.step hlimit e hC)
      (BudgetInv.init cfg now) hyoung
  exact ⟨hinv.within, le_trans (Nat.le_add_right _ _) hinv.budget⟩

/-- Three actions in ten minutes. -/
def threeInTen : SafetyConfig := { limit := 3, limit_lt := by decide, window := 600 }

/-- A bundle of two siblings and an action of its own, within the limit. -/
def withinRun : List RateEvent :=
  [.createBundle 1 .routing, .enterAdmit 1 2 false, .leaveAdmit false, .start 1,
    .enterReserve none 9 .manual false, .leaveReserve true, .tick 30,
    .enterReserve (some 1) 7 .automatic false, .leaveReserve true,
    .enterReserve (some 1) 8 .automatic false, .leaveReserve true, .finish 1 .succeeded]

/-- All three rows are written, and the limit is kept. -/
theorem withinRun_withinLimit :
    usedAt (Run.run (rateStep threeInTen) (RateState.init 0) withinRun).db 600 30 = 3 ∧
      WithinLimit threeInTen (Run.run (rateStep threeInTen) (RateState.init 0) withinRun) :=
  ⟨by decide +kernel,
    (withinLimit_of_counts_young threeInTen (by decide) 0 withinRun (by decide +kernel)).1⟩

/-- A bundle is admitted, and outlives the window before its first sibling. The next bundle is
admitted against a budget that looks free, and both spend. -/
def outlivedRun : List RateEvent :=
  [.createBundle 1 .routing, .enterAdmit 1 3 false, .leaveAdmit false, .start 1, .tick 600,
    .createBundle 2 .routing, .enterAdmit 2 3 false, .leaveAdmit false, .start 2,
    .enterReserve (some 1) 7 .automatic false, .leaveReserve true,
    .enterReserve (some 1) 8 .automatic false, .leaveReserve true,
    .enterReserve (some 1) 9 .automatic false, .leaveReserve true,
    .enterReserve (some 2) 7 .automatic false, .leaveReserve true,
    .enterReserve (some 2) 8 .automatic false, .leaveReserve true,
    .enterReserve (some 2) 9 .automatic false, .leaveReserve true]

/-- Six rows in one window, where the limit is three. -/
theorem outlivedRun_not_withinLimit :
    ¬WithinLimit threeInTen (Run.run (rateStep threeInTen) (RateState.init 0) outlivedRun) := by
  have hused : usedAt (Run.run (rateStep threeInTen) (RateState.init 0) outlivedRun).db 600 600 =
      6 := by decide +kernel
  intro h
  have hle := h 600
  rw [show threeInTen.window = 600 from rfl, hused] at hle
  exact absurd hle (by decide)

end Rerouter
