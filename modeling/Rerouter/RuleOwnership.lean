import Rerouter.ExecutorRows
import Rerouter.Persistence
import Rerouter.Recovery

/-!
# What a rule that is clear may still own

A rule, the automatic activation it started, and the workers that carry it out and undo it, one
statement at a time in any order. An evaluation counts what the rule owns
(`Rerouter.ruleOwnedChanges`), and later publishes the state it concludes from the counts; the
activation has the authority of each sibling checked, writes it down, and carries it out.

What is counted are mutations. A sibling that is authorised or under way is none yet, so a rule
may become clear over its head, and own a change the next moment
(`Rerouter.not_nothingOwned_overtaken`). Where every count is taken while no sibling is on its
way, none is authorised between a count and its publication, and nothing takes back a mutation
that was counted as undone, a rule that is clear owns nothing
(`Rerouter.nothingOwned_of_careful`).
-/

namespace Rerouter

open Table

/-! ### The system -/

/-- The counts an evaluation has taken. -/
structure OwnedCounts where
  owned : Option ℕ := none
  allOwned : Option ℕ := none
  eligible : Option ℕ := none
  remaining : Option ℕ := none
deriving DecidableEq

/-- What an evaluation counts for. -/
inductive CountOf where
  | owned | allOwned | eligible | remaining
deriving DecidableEq

/-- The executor, and a rule with what belongs to it. -/
structure RuleWorld where
  exec : ExecState
  rule : RuleSystem
  /-- The reroutes of the rule, by `reroutes.rule_id`. -/
  ofRule : List ℕ
  /-- Those of its automatic activations. -/
  automatic : List ℕ
  /-- The siblings whose authority is checked, and that are not written down yet: their bundles. -/
  authorised : List ℕ
  /-- The counts of the evaluation under way. -/
  counts : OwnedCounts

/-- What may happen. -/
inductive OwnershipEvent (F : Type) where
  /-- An event of the executor; a reservation is one of an inverse, or of another rule. -/
  | exec (e : ExecEvent)
  /-- `validate_execution_authorization` passes a sibling of an activation of the rule, where
  what it checks beside the state of the rule and of the bundle holds. -/
  | authorise (bundle : ℕ) (qualified : Bool)
  /-- A gate behind it refuses the sibling. -/
  | refuse (bundle : ℕ)
  /-- The sibling is written down. -/
  | activate (device : ℕ) (owner : Option OwnerToken) (bundle : ℕ) (mode : VerificationMode)
      (createdAt : ℕ) (consume : Bool) (reply : Reply)
  /-- An operator applies the rule by hand. -/
  | apply (device : ℕ) (owner : Option OwnerToken) (bundle : Option ℕ) (mode : VerificationMode)
      (createdAt : ℕ) (consume : Bool) (reply : Reply)
  /-- An evaluation counts. -/
  | count (which : CountOf)
  /-- An evaluation publishes what it concludes. -/
  | evaluate (e : Evaluation F)

/-- `rule_owned_changes`. -/
def ruleOwnedChanges (db : Db) (ofRule : List ℕ) (eligibleOnly : Bool) : ℕ :=
  count (fun r => decide (r.id ∈ ofRule) && r.rollbackOf.isNone && r.mutated &&
    (!eligibleOnly || (decide (r.trigger = .automatic) &&
      (r.bundle.bind db.bundle).all fun b => !b.cancelled)) && !inverted db r.id) db.reroutes

/-- A count is taken. -/
def OwnedCounts.take (c : OwnedCounts) (db : Db) (ofRule : List ℕ) : CountOf → OwnedCounts
  | .owned => { c with owned := some (ruleOwnedChanges db ofRule false) }
  | .allOwned => { c with allOwned := some (ruleOwnedChanges db ofRule false) }
  | .eligible => { c with eligible := some (ruleOwnedChanges db ofRule true) }
  | .remaining => { c with remaining := some (ruleOwnedChanges db ofRule false) }

/-- An evaluation with the counts it has taken. One it has no use for is not taken, and stands
for something that is owned. -/
def OwnedCounts.fill {F : Type} (c : OwnedCounts) (e : Evaluation F) : Evaluation F :=
  { e with
    owned := c.owned.getD 1
    recovery := ⟨c.allOwned.getD 1, c.eligible.getD 1, e.recovery.attempt, c.remaining.getD 1⟩ }

/-- A count was taken, and it found nothing. -/
def OwnedCounts.zero (c : OwnedCounts) : Bool :=
  decide (c.owned = some 0) || decide (c.allOwned = some 0) || decide (c.remaining = some 0)

namespace RuleWorld

variable (w : RuleWorld)

/-- An event of the executor. What the process knew is lost with it. -/
def execute (requireVerification : Bool) (e : ExecEvent) : RuleWorld :=
  match e with
  | .crash =>
    { w with exec := execStep requireVerification w.exec .crash, authorised := [], counts := {} }
  | e => { w with exec := execStep requireVerification w.exec e }

/-- A row of the rule is inserted, if it is. -/
def insertRow (exec : ExecState) (automatic : Bool) : RuleWorld :=
  if w.exec.db.reroutes.length < exec.db.reroutes.length then
    { w with
      exec
      ofRule := w.exec.db.reroutes.length :: w.ofRule
      automatic := if automatic then w.exec.db.reroutes.length :: w.automatic else w.automatic }
  else { w with exec }

/-- The authority check of an automatic activation. -/
def authorise (bundle : ℕ) (qualified : Bool) : RuleWorld :=
  if qualified ∧ w.rule.row.currentState = some .firing ∧
      (w.exec.db.bundle bundle).any (fun b => b.state = .planned || b.state = .running) then
    { w with authorised := bundle :: w.authorised }
  else w

/-- The sibling is not pending any more. -/
def refuse (bundle : ℕ) : RuleWorld := { w with authorised := w.authorised.erase bundle }

/-- A sibling whose authority was checked is written down. -/
def activate (requireVerification : Bool) (req : SlotRequest) (bundle : ℕ) (mode : VerificationMode)
    (createdAt : ℕ) (consume : Bool) (reply : Reply) : RuleWorld :=
  if bundle ∈ w.authorised then
    (w.insertRow (execStep requireVerification w.exec
      (.serve (.reserve req (some bundle) .automatic mode createdAt consume reply))) true).refuse
      bundle
  else w

end RuleWorld

section Step

variable {F : Type} [Reading F]

/-- One event. -/
def ownershipStep (requireVerification : Bool) (cfg : DetectionConfig) (rule : InterfaceRule F)
    (w : RuleWorld) : OwnershipEvent F → RuleWorld
  | .exec e => w.execute requireVerification e
  | .authorise bundle qualified => w.authorise bundle qualified
  | .refuse bundle => w.refuse bundle
  | .activate device owner bundle mode createdAt consume reply =>
    w.activate requireVerification ⟨device, owner, none⟩ bundle mode createdAt consume reply
  | .apply device owner bundle mode createdAt consume reply =>
    w.insertRow (execStep requireVerification w.exec
      (.serve (.reserve ⟨device, owner, none⟩ bundle .manual mode createdAt consume reply))) false
  | .count which => { w with counts := w.counts.take w.exec.db w.ofRule which }
  | .evaluate e =>
    { w with rule := ruleStep cfg rule w.rule (.evaluate (w.counts.fill e)), counts := {} }

/-- A rule of a new database. -/
def newRule (target : Target) : RuleWorld := ⟨{}, ⟨target, {}⟩, [], [], [], {}⟩

end Step

/-! ### What is claimed of a rule that is clear -/

namespace RuleWorld

variable (w : RuleWorld)

/-- No automatic reroute of the rule is authorised or on its way, and every one that changed its
router, or may have, has a succeeded inverse. -/
def NothingOwned : Prop :=
  w.authorised = [] ∧ ∀ r ∈ w.exec.db.reroutes, r.id ∈ w.automatic →
    r.state.inFlight = false ∧
      (r.mutated = true → ∃ i ∈ w.exec.db.reroutes, i.rollbackOf = some r.id ∧ i.state = .succeeded)

/-- An automatic reroute of the rule is authorised or on its way. -/
def busy : Bool :=
  !w.authorised.isEmpty ||
    w.exec.db.reroutes.any fun r => decide (r.id ∈ w.automatic) && r.state.inFlight

/-- The rule is clear, or becomes matching, or an evaluation is about to make it so. -/
def settling : Bool :=
  decide (w.rule.row.state = .clear) || decide (w.rule.row.state = .matching) || w.counts.zero

/-- What is taken back is no inverse of an automatic reroute of the rule. -/
def sparesInverses (applied : List ℕ) : Bool :=
  w.exec.db.reroutes.all fun i =>
    decide (i.id ∉ applied) || i.rollbackOf.all fun original => decide (original ∉ w.automatic)

/-- What is reconciled is no automatic reroute of the rule that is taken to have done nothing. -/
def sparesIdle (id : ℕ) : Bool :=
  w.exec.db.reroutes.all fun r => decide (r.id ≠ id) || decide (r.id ∉ w.automatic) || r.mutated

end RuleWorld

/-- What keeps a count that finds nothing true until it is published: nothing of the activation
is on its way when it is taken, nothing more is authorised in between, and nothing that was
counted as undone, or as never done, turns out otherwise. -/
def careful {F : Type} (w : RuleWorld) : OwnershipEvent F → Bool
  | .count _ => decide (ruleOwnedChanges w.exec.db w.ofRule false ≠ 0) || !w.busy
  | .authorise _ _ => !w.counts.zero
  | .exec (.serve (.quarantineChanged applied)) => !w.settling || w.sparesInverses applied
  | .exec (.serve (.reconcile id .changed)) => !w.settling || w.sparesIdle id
  | _ => true

/-! ### The invariant -/

/-- **The invariant of the rule.** -/
structure OwnershipInv (w : RuleWorld) : Prop where
  exec : ExecInv w.exec
  known : ∀ id ∈ w.automatic, id < w.exec.db.reroutes.length
  ofRule : ∀ id ∈ w.automatic, id ∈ w.ofRule
  root : ∀ r ∈ w.exec.db.reroutes, r.id ∈ w.automatic → r.rollbackOf = none
  settled : w.settling = true → w.NothingOwned

variable {w : RuleWorld}

theorem ownershipInv_newRule (target : Target) : OwnershipInv (newRule target) where
  exec := ExecInv.init
  known := by simp [newRule]
  ofRule := by simp [newRule]
  root := by simp [newRule]
  settled := fun _ => ⟨rfl, by simp [newRule]⟩

/-- What `rule_owned_changes` does not find is not owned. -/
theorem inverse_of_ruleOwnedChanges {db : Db} {ofRule : List ℕ}
    (hzero : ruleOwnedChanges db ofRule false = 0) {r : RerouteRow} (hr : r ∈ db.reroutes)
    (hrule : r.id ∈ ofRule) (hroot : r.rollbackOf = none) (hmutated : r.mutated = true) :
    ∃ i ∈ db.reroutes, i.rollbackOf = some r.id ∧ i.state = .succeeded := by
  by_contra hnone
  have hinverted : inverted db r.id = false := by
    refine List.any_eq_false.mpr fun i hi hrestores => hnone ⟨i, hi, ?_⟩
    simp only [RerouteRow.restores, Bool.and_eq_true, decide_eq_true_eq] at hrestores
    exact hrestores.1
  have hcounted := List.countP_eq_zero.mp hzero r hr
  simp [hrule, hroot, hmutated, hinverted] at hcounted

/-- A count that finds nothing, while nothing is on its way. -/
theorem OwnershipInv.nothingOwned_of_zero (h : OwnershipInv w) (hbusy : w.busy = false)
    (hzero : ruleOwnedChanges w.exec.db w.ofRule false = 0) : w.NothingOwned := by
  simp only [RuleWorld.busy, Bool.or_eq_false_iff, Bool.not_eq_false', List.isEmpty_iff,
    List.any_eq_false, Bool.and_eq_true, decide_eq_true_eq, not_and, Bool.not_eq_true] at hbusy
  refine ⟨hbusy.1, fun r hr hautomatic => ⟨hbusy.2 r hr hautomatic, fun hmutated => ?_⟩⟩
  exact inverse_of_ruleOwnedChanges hzero hr (h.ofRule r.id hautomatic) (h.root r hr hautomatic)
    hmutated

/-! ### The executor -/

theorem mutated_of_changed {r : RerouteRow} (h : r.changed = true) : r.mutated = true := by
  simp only [RerouteRow.changed, Bool.and_eq_true, decide_eq_true_eq] at h
  simp [RerouteRow.mutated, h.2]

/-- A succeeded inverse stays one, unless it is taken back. -/
theorem RowMoves.succeeded {e : ExecEvent} {i i' : RerouteRow} (h : RowMoves e i i')
    (hstate : i.state = .succeeded)
    (hspared : ∀ applied, e = .serve (.quarantineChanged applied) → i.id ∉ applied) : i' = i := by
  unfold RowMoves at h
  split at h
  next applied =>
    rcases h with rfl | ⟨happlied, -, -⟩
    · rfl
    · exact absurd happlied (hspared applied rfl)
  next id result =>
    rcases h with rfl | ⟨-, hreconcilable, -⟩
    · rfl
    · simp [RerouteRow.reconcilable, hstate] at hreconcilable
  · rcases h.2.2 with rfl | hflight
    · rfl
    · simp [hstate, RerouteState.inFlight] at hflight

/-- A row that is not on its way stays where it is, and no effect appears that it did not have,
unless it is reconciled. -/
theorem RowMoves.settledRow {e : ExecEvent} {r r' : RerouteRow} (h : RowMoves e r r')
    (hflight : r.state.inFlight = false)
    (hspared : ∀ id, e = .serve (.reconcile id .changed) → r.id = id → r.mutated = true) :
    r'.state.inFlight = false ∧ (r'.mutated = true → r.mutated = true) := by
  unfold RowMoves at h
  split at h
  next applied =>
    rcases h with rfl | ⟨-, hchanged, rfl⟩
    · exact ⟨hflight, id⟩
    · exact ⟨rfl, fun _ => mutated_of_changed hchanged⟩
  next id result =>
    rcases h with rfl | ⟨hid, -, outcome, houtcome, rfl⟩
    · exact ⟨hflight, fun hmutated => hmutated⟩
    · cases result with
      | changed =>
        cases houtcome
        exact ⟨rfl, fun _ => hspared id rfl hid⟩
      | notApplied =>
        cases houtcome
        exact ⟨rfl, fun hmutated => by simp [RerouteRow.mutated, RerouteRow.settle] at hmutated⟩
      | conflict => cases houtcome
  · rcases h.2.2 with rfl | hflies
    · exact ⟨hflight, fun hmutated => hmutated⟩
    · rw [hflight] at hflies
      cases hflies

/-- What an event of the executor may not do while the rule is settling. -/
def Spares (w : RuleWorld) (e : ExecEvent) : Prop :=
  (∀ applied, e = .serve (.quarantineChanged applied) → w.sparesInverses applied = true) ∧
    ∀ id, e = .serve (.reconcile id .changed) → w.sparesIdle id = true

theorem spares_of_careful {F : Type} {e : ExecEvent}
    (h : careful w (.exec e : OwnershipEvent F) = true) (hsettling : w.settling = true) :
    Spares w e := by
  constructor
  · rintro applied rfl
    simpa [careful, hsettling] using h
  · rintro id rfl
    simpa [careful, hsettling] using h

/-- The rows of the rule after an event of the executor. -/
theorem OwnershipInv.rows_step (h : OwnershipInv w) {e : ExecEvent} {rows : List RerouteRow}
    (hstep : RowsStep e w.exec.db.reroutes rows) :
    w.exec.db.reroutes.length ≤ rows.length ∧
      (∀ r ∈ rows, r.id ∈ w.automatic → r.rollbackOf = none) ∧
      (w.NothingOwned → Spares w e → ∀ r ∈ rows, r.id ∈ w.automatic → r.state.inFlight = false ∧
        (r.mutated = true → ∃ i ∈ rows, i.rollbackOf = some r.id ∧ i.state = .succeeded)) := by
  rcases hstep with hmoved | ⟨req, bundle, trigger, mode, createdAt, consume, reply, -, rfl⟩
  · refine ⟨?_, fun r' hr' hautomatic => ?_, fun hnothing hspares r' hr' hautomatic => ?_⟩
    · obtain ⟨g, rfl, -⟩ := hmoved
      simp
    · obtain ⟨r, hr, hmoves⟩ := hmoved.exists_of_mem hr'
      rw [hmoves.keeps.2]
      exact h.root r hr (hmoves.keeps.1 ▸ hautomatic)
    · obtain ⟨r, hr, hmoves⟩ := hmoved.exists_of_mem hr'
      rw [hmoves.keeps.1] at hautomatic ⊢
      obtain ⟨hflight, hinverse⟩ := hnothing.2 r hr hautomatic
      have hidle : ∀ id, e = .serve (.reconcile id .changed) → r.id = id → r.mutated = true := by
        intro id he hid
        have hall := List.all_eq_true.mp (hspares.2 id he) r hr
        simpa [hid ▸ hautomatic, hid] using hall
      obtain ⟨hflight', hmutated⟩ := hmoves.settledRow hflight hidle
      refine ⟨hflight', fun hm => ?_⟩
      obtain ⟨i, hi, hof, hsucceeded⟩ := hinverse (hmutated hm)
      have hspared : ∀ applied, e = .serve (.quarantineChanged applied) → i.id ∉ applied := by
        intro applied he happlied
        have hall := List.all_eq_true.mp (hspares.1 applied he) i hi
        simp [happlied, hof, hautomatic] at hall
      obtain ⟨i', hi', hmovesi⟩ := hmoved.exists_mem hi
      obtain rfl := hmovesi.succeeded hsucceeded hspared
      exact ⟨i', hi', hof, hsucceeded⟩
  -- The row that is inserted is none of the rule's yet.
  · have hnew : ∀ r : RerouteRow, r ∈ w.exec.db.reroutes ++
        [{ id := w.exec.db.reroutes.length, device := req.device, bundle,
           rollbackOf := req.rollbackOf, trigger, mode, createdAt }] →
        r.id ∈ w.automatic → r ∈ w.exec.db.reroutes := by
      intro r hr hautomatic
      rcases List.mem_append.mp hr with hr | hr
      · exact hr
      · rw [List.mem_singleton.mp hr] at hautomatic
        exact absurd (h.known _ hautomatic) (lt_irrefl _)
    refine ⟨by simp, fun r hr hautomatic => h.root r (hnew r hr hautomatic) hautomatic,
      fun hnothing _ r hr hautomatic => ?_⟩
    obtain ⟨hflight, hinverse⟩ := hnothing.2 r (hnew r hr hautomatic) hautomatic
    refine ⟨hflight, fun hmutated => ?_⟩
    obtain ⟨i, hi, hof⟩ := hinverse hmutated
    exact ⟨i, List.mem_append_left _ hi, hof⟩

/-- The executor goes on, and the rule does not. -/
theorem OwnershipInv.withExec (h : OwnershipInv w) (requireVerification : Bool) (e : ExecEvent)
    (hspares : w.settling = true → Spares w e) :
    OwnershipInv { w with exec := execStep requireVerification w.exec e } := by
  obtain ⟨hlength, hroot, hnothing⟩ :=
    h.rows_step (execStep_rows requireVerification h.exec.keyed e)
  exact
    { exec := h.exec.step requireVerification e
      known := fun id hid => (h.known id hid).trans_le hlength
      ofRule := h.ofRule
      root := hroot
      settled := fun hsettling =>
        ⟨(h.settled hsettling).1, hnothing (h.settled hsettling) (hspares hsettling)⟩ }

/-- The process ends, and what it knew of the rule with it. -/
theorem OwnershipInv.forget (h : OwnershipInv w) :
    OwnershipInv { w with authorised := [], counts := {} } where
  exec := h.exec
  known := h.known
  ofRule := h.ofRule
  root := h.root
  settled := by
    intro hsettling
    have hbefore : w.settling = true := by
      simp only [RuleWorld.settling, OwnedCounts.zero, Bool.or_eq_true, decide_eq_true_eq]
        at hsettling ⊢
      rcases hsettling with hstate | hzero
      · exact .inl hstate
      · simp at hzero
    exact ⟨rfl, (h.settled hbefore).2⟩

theorem OwnershipInv.execute (h : OwnershipInv w) (requireVerification : Bool) (e : ExecEvent)
    (hspares : w.settling = true → Spares w e) :
    OwnershipInv (w.execute requireVerification e) := by
  have hexec := h.withExec requireVerification e hspares
  unfold RuleWorld.execute
  split
  · exact hexec.forget
  · exact hexec

/-- A row of the rule is inserted by hand. -/
theorem OwnershipInv.insertRow (h : OwnershipInv w) (exec : ExecState)
    (hexec : OwnershipInv { w with exec }) : OwnershipInv (w.insertRow exec false) := by
  unfold RuleWorld.insertRow
  split
  · exact
      { hexec with
        ofRule := fun id hid => List.mem_cons_of_mem _ (h.ofRule id hid) }
  · exact hexec

/-- While the rule is settling, no sibling is authorised. -/
theorem OwnershipInv.not_settling (h : OwnershipInv w) {bundle : ℕ}
    (hbundle : bundle ∈ w.authorised) :
    w.settling = false := by
  by_contra hsettling
  have hnone := (h.settled (Bool.eq_true_of_not_eq_false hsettling)).1
  simp [hnone] at hbundle

theorem OwnershipInv.refuse (h : OwnershipInv w) (bundle : ℕ) : OwnershipInv (w.refuse bundle) where
  exec := h.exec
  known := h.known
  ofRule := h.ofRule
  root := h.root
  settled := by
    intro hsettling
    obtain ⟨hnone, hrows⟩ := h.settled hsettling
    exact ⟨by simp [RuleWorld.refuse, hnone], hrows⟩

/-- A reservation that inserts a row inserts the row of its request. -/
theorem rows_of_reserve (requireVerification : Bool) (h : ExecInv w.exec) {req : SlotRequest}
    {bundle : Option ℕ} {trigger : TriggerType} {mode : VerificationMode} {createdAt : ℕ}
    {consume : Bool} {reply : Reply}
    (hlonger : w.exec.db.reroutes.length < (execStep requireVerification w.exec
      (.serve (.reserve req bundle trigger mode createdAt consume reply))).db.reroutes.length) :
    ∃ row : RerouteRow, row.id = w.exec.db.reroutes.length ∧ row.rollbackOf = req.rollbackOf ∧
      (execStep requireVerification w.exec
        (.serve (.reserve req bundle trigger mode createdAt consume reply))).db.reroutes =
        w.exec.db.reroutes ++ [row] := by
  rcases execStep_rows requireVerification h.keyed
    (.serve (.reserve req bundle trigger mode createdAt consume reply)) with
    ⟨g, hrows, -⟩ | ⟨req', bundle', trigger', mode', createdAt', consume', reply', he, hrows⟩
  · rw [hrows, List.length_map] at hlonger
    exact absurd hlonger (lt_irrefl _)
  · cases he
    exact ⟨_, rfl, rfl, hrows⟩

/-- A sibling of an activation is written down: not while the rule is settling. -/
theorem OwnershipInv.activate (h : OwnershipInv w) (requireVerification : Bool) (device : ℕ)
    (owner : Option OwnerToken) (bundle : ℕ) (mode : VerificationMode) (createdAt : ℕ)
    (consume : Bool) (reply : Reply) :
    OwnershipInv (w.activate requireVerification ⟨device, owner, none⟩ bundle mode createdAt consume
      reply) := by
  unfold RuleWorld.activate
  split_ifs with hbundle
  · have hsettling := h.not_settling hbundle
    have hexec := h.withExec requireVerification
      (.serve (.reserve ⟨device, owner,
        none⟩ (some bundle) .automatic mode createdAt consume reply))
      fun hs => by simp [hsettling] at hs
    refine OwnershipInv.refuse ?_ bundle
    unfold RuleWorld.insertRow
    split
    next hlonger =>
      obtain ⟨row, hid, hof, hrows⟩ := rows_of_reserve requireVerification h.exec hlonger
      refine
        { exec := hexec.exec
          known := ?_
          ofRule := ?_
          root := ?_
          settled := fun hs => absurd (hsettling.symm.trans hs) Bool.false_ne_true }
      · intro id hid
        rcases List.mem_cons.mp hid with rfl | hid
        · exact hlonger
        · exact (h.known id hid).trans hlonger
      · intro id hid
        rcases List.mem_cons.mp hid with rfl | hid
        · exact List.mem_cons_self
        · exact List.mem_cons_of_mem _ (h.ofRule id hid)
      · intro r hr hid
        rcases List.mem_cons.mp hid with hnew | hid
        · rcases List.mem_append.mp (hrows ▸ hr) with hold | hrow
          · exact absurd (h.exec.known r hold) (by rw [hnew]; exact lt_irrefl _)
          · rw [List.mem_singleton.mp hrow, hof]
        · exact hexec.root r hr hid
    · exact hexec
  · exact h

theorem OwnershipInv.authorise (h : OwnershipInv w) (bundle : ℕ) (qualified : Bool)
    (hcounts : w.counts.zero = false) : OwnershipInv (w.authorise bundle qualified) := by
  unfold RuleWorld.authorise
  split_ifs with hqualified
  · -- The rule fires, and no evaluation has counted: it is not settling.
    have hsettling : w.settling = false := by
      simp [RuleWorld.settling, RuleStateRow.state, hqualified.2.1, hcounts]
    exact
      { exec := h.exec
        known := h.known
        ofRule := h.ofRule
        root := h.root
        settled := fun hs => absurd (hsettling.symm.trans hs) Bool.false_ne_true }
  · exact h

theorem OwnershipInv.count (h : OwnershipInv w) (which : CountOf)
    (hbusy : ruleOwnedChanges w.exec.db w.ofRule false = 0 → w.busy = false) :
    OwnershipInv { w with counts := w.counts.take w.exec.db w.ofRule which } where
  exec := h.exec
  known := h.known
  ofRule := h.ofRule
  root := h.root
  settled := by
    intro hsettling
    by_cases hzero : ruleOwnedChanges w.exec.db w.ofRule false = 0
    · exact h.nothingOwned_of_zero (hbusy hzero) hzero
    -- A count that finds something leaves what the others have found.
    · refine h.settled ?_
      simp only [RuleWorld.settling, OwnedCounts.zero, Bool.or_eq_true, decide_eq_true_eq]
        at hsettling ⊢
      rcases hsettling with hstate | hcounts
      · exact .inl hstate
      · refine .inr ?_
        cases which <;> simp_all [OwnedCounts.take] <;> tauto

/-! ### The evaluation -/

/-- The state of a rule that owns nothing: it is clear, or it matches. -/
def RuleState.settled : RuleState → Bool
  | .clear | .matching => true
  | _ => false

section Evaluation

variable {F : Type} [Reading F] {cfg : DetectionConfig} {rule : InterfaceRule F} {op : Op}
  {obs : Observation F} {now : ℤ} {prev : RuleStateRow} {e : Evaluation F}

omit [Reading F] in
/-- A recovery that ends in the clear has counted nothing. -/
theorem recoverAndClear_settled (hprev : prev.state.settled = false)
    (h : (recoverAndClear cfg rule obs prev e).row.state.settled = true) :
    e.recovery.allOwned = 0 ∨ e.recovery.remaining = 0 := by
  unfold recoverAndClear at h
  split at h
  · split at h
    next hzero => exact .inl hzero
    · cases h
  split at h
  · cases h
  split at h
  · cases h
  split at h
  · simp [hprev] at h
  · split at h
    · simp [hprev] at h
    split at h
    · simp [hprev] at h
    next hremaining => exact .inr (Nat.eq_zero_of_not_pos hremaining)
  · split at h
    · cases h
    split at h
    · cases h
    next hremaining => exact .inr (Nat.eq_zero_of_not_pos hremaining)

theorem advanceFiring_settled (hprev : prev.state.settled = false)
    (h : (advanceFiring cfg rule op obs now prev e).row.state.settled = true) :
    e.recovery.allOwned = 0 ∨ e.recovery.remaining = 0 := by
  unfold advanceFiring at h
  split at h
  · cases h
  split at h
  · split at h
    · exact recoverAndClear_settled hprev h
    · cases h
  split at h
  · exact recoverAndClear_settled hprev h
  · cases h

theorem advanceRow_settled (hprev : prev.state.settled = false)
    (h : (advanceRow cfg rule op obs now prev e).row.state.settled = true) :
    e.owned = 0 ∨ e.recovery.allOwned = 0 ∨ e.recovery.remaining = 0 := by
  by_cases howned : e.owned = 0
  · exact .inl howned
  refine .inr ?_
  have hrearm : rearm e.owned prev = prev := if_neg fun hstate => howned hstate.2
  unfold advanceRow at h
  rw [hrearm] at h
  split at h
  · simp [hprev] at h
  split at h
  · unfold advanceMatched at h
    split at h
    · cases h
    split at h
    · cases h
    split at h
    · cases h
    next hawaiting _ hfiring =>
      cases hstate : prev.state <;> simp_all [RuleState.settled]
  · unfold advanceUnmatched at h
    split at h
    · exact advanceFiring_settled hprev h
    split at h
    · cases h
    next hfiring hawaiting =>
      cases hstate : prev.state <;> simp_all [RuleState.settled]

theorem settled_resetUnprovenStreak {row : RuleStateRow} (h : row.state.settled = false) :
    (resetUnprovenStreak row).state.settled = false := by
  have hmatching : row.currentState ≠ some .matching := by
    intro hstate
    simp [RuleStateRow.state, hstate, RuleState.settled] at h
  simpa [resetUnprovenStreak, RuleStateRow.state, hmatching] using h

/-- **A rule becomes clear, or matching, only on a count that finds nothing.** -/
theorem evaluateRule_settled {target : Target} {row : RuleStateRow}
    (hrow : row.state.settled = false)
    (h : (evaluateRule cfg rule target row e).row.state.settled = true) :
    e.owned = 0 ∨ e.recovery.allOwned = 0 ∨ e.recovery.remaining = 0 := by
  unfold evaluateRule at h
  split at h
  · simp [hrow] at h
  · simp [hrow] at h
  · rw [settled_resetUnprovenStreak hrow] at h
    cases h
  next gap _ =>
    refine advanceRow_settled ?_ h
    split_ifs
    · exact settled_resetUnprovenStreak hrow
    · exact hrow

theorem settling_iff :
    w.settling = true ↔ w.rule.row.state.settled = true ∨ w.counts.zero = true := by
  unfold RuleWorld.settling RuleState.settled
  cases w.rule.row.state <;> simp

theorem OwnershipInv.evaluate (h : OwnershipInv w) (cfg : DetectionConfig) (rule : InterfaceRule F)
    (e : Evaluation F) :
    OwnershipInv
      { w with rule := ruleStep cfg rule w.rule (.evaluate (w.counts.fill e)), counts := {} }
    where
  exec := h.exec
  known := h.known
  ofRule := h.ofRule
  root := h.root
  settled := by
    intro hsettling
    refine h.settled (settling_iff.mpr ?_)
    rcases settling_iff.mp hsettling with hstate | hzero
    · cases hbefore : w.rule.row.state.settled with
      | true => exact .inl rfl
      | false =>
        refine .inr ?_
        have hcounts := evaluateRule_settled hbefore hstate
        simp only [OwnedCounts.fill, Option.getD_eq_iff, one_ne_zero, and_false, or_false]
          at hcounts
        simp only [OwnedCounts.zero, Bool.or_eq_true, decide_eq_true_eq, or_assoc]
        exact hcounts
    · simp [OwnedCounts.zero] at hzero

/-! ### Runs -/

/-- Every careful event keeps the invariant. -/
theorem OwnershipInv.step (h : OwnershipInv w) (requireVerification : Bool) (cfg : DetectionConfig)
    (rule : InterfaceRule F) (event : OwnershipEvent F) (hcareful : careful w event = true) :
    OwnershipInv (ownershipStep requireVerification cfg rule w event) := by
  cases event with
  | exec e => exact h.execute requireVerification e (spares_of_careful hcareful)
  | authorise bundle qualified =>
    exact h.authorise bundle qualified (by simpa [careful] using hcareful)
  | refuse bundle => exact h.refuse bundle
  | activate device owner bundle mode createdAt consume reply =>
    exact h.activate requireVerification device owner bundle mode createdAt consume reply
  | apply device owner bundle mode createdAt consume reply =>
    refine h.insertRow _ (h.withExec requireVerification _ fun _ => ⟨?_, ?_⟩)
    · rintro applied ⟨⟩
    · rintro id ⟨⟩
  | count which =>
    refine h.count which fun hzero => ?_
    simpa [careful, hzero] using hcareful
  | evaluate e => exact h.evaluate cfg rule e

/-- **A rule that is clear owns nothing**, in every run whose steps are careful: nothing of its
activations is authorised or on its way, and whatever one of them changed is undone. -/
theorem nothingOwned_of_careful (requireVerification : Bool) (cfg : DetectionConfig)
    (rule : InterfaceRule F) (target : Target) (events : List (OwnershipEvent F))
    (hcareful : Run.Meets (ownershipStep requireVerification cfg rule)
      (fun w event => careful w event = true) (newRule target) events) :
    let w := Run.run (ownershipStep requireVerification cfg rule) (newRule target) events
    w.rule.row.state = .clear → w.NothingOwned := by
  intro w hclear
  have hinv : OwnershipInv w :=
    Run.invariant_of_meets (fun w event h hc => h.step requireVerification cfg rule event hc)
      (ownershipInv_newRule target) hcareful
  exact hinv.settled (settling_iff.mpr (.inl (by rw [hclear]; rfl)))

end Evaluation

/-! ### A rule that becomes clear too early -/

/-- A worker carries out a reroute from its reservation to its terminal transaction. -/
def carriedOut (id : ℕ) : List (OwnershipEvent ℤ) :=
  [.exec (.serve (.toPending id .done)), .exec (.serve (.toRunning id .done)),
    .exec (.serve (.send id)), .exec (.serve (.portReturns id .pushed true)),
    .exec (.serve (.verify id .done .pass true)), .exec (.serve (.finalize id .done))]

/-- The rule fires, and a sibling of its activation is written down. -/
def activated : List (OwnershipEvent ℤ) :=
  [.exec (.serve (.elsewhere
      [{ id := 5, mode := .routing, createdAt := 0, state := .running, rateReserved := 1 }]
      [] [] false)),
    .evaluate (polled 10 200), .evaluate (polled 20 200), .evaluate (polled 30 200),
    .authorise 5 true, .activate 7 none 5 .routing 0 true .done]

/-- And it recovers. -/
def quieted : List (OwnershipEvent ℤ) :=
  [.evaluate (polled 40 0), .evaluate (polled 50 0), .count .allOwned, .evaluate (polled 60 0)]

/-- The inverse of the sibling. -/
def inverted7 : List (OwnershipEvent ℤ) :=
  .exec (.serve (.reserve ⟨7, none, some 0⟩ none .rollback .routing 0 false .done)) :: carriedOut 1

/-- The sibling is carried out and undone before the rule recovers. -/
theorem nothingOwned_undone :
    let w := Run.run (ownershipStep true pollConfig saturated) (newRule (.single (some 1)))
      (activated ++ carriedOut 0 ++ inverted7 ++ quieted)
    w.rule.row.state = .clear ∧ w.NothingOwned :=
  ⟨by decide +kernel,
    nothingOwned_of_careful true pollConfig saturated (.single (some 1))
      (activated ++ carriedOut 0 ++ inverted7 ++ quieted) (by decide +kernel) (by decide +kernel)⟩

/-- The rule recovers while the sibling is on its way, and the sibling is carried out then. -/
theorem not_nothingOwned_overtaken :
    ¬ ∀ events : List (OwnershipEvent ℤ),
      (Run.run (ownershipStep true pollConfig saturated)
        (newRule (.single (some 1))) events).rule.row.state =
          .clear →
        (Run.run (ownershipStep true pollConfig saturated) (newRule (.single (some 1)))
          events).NothingOwned := by
  intro h
  obtain ⟨-, hrows⟩ := h (activated ++ quieted ++ carriedOut 0) (by decide +kernel)
  obtain ⟨i, hi, hof, -⟩ := (hrows ⟨0, 7, some 5, none, .automatic, .routing, 0,
    .succeeded, .changed, none⟩ (by decide +kernel) (by decide +kernel)).2 rfl
  have hnone : ∀ i ∈ (Run.run (ownershipStep true pollConfig saturated) (newRule (.single (some 1)))
      (activated ++ quieted ++ carriedOut 0)).exec.db.reroutes, i.rollbackOf ≠ some 0 := by
    decide +kernel
  exact hnone i hi hof

end Rerouter
