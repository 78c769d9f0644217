import Rerouter.CrashSafety
import Rerouter.DevicePlan

/-!
# Actions with nothing to do

An action prepared as already satisfied owns no commands and no inverse, and what it leaves is
nobody's to undo. The system of `Rerouter.execStep` with the plan of each reroute beside it: a
plan decides what the port call of its action returns (`Rerouter.portResult`), and its
snapshots decide what a reconciliation concludes from what it reads
(`Rerouter.reconciliationResult`).

The executor never writes `changed` for such an action, whatever fails or crashes. A
reconciliation does, where the snapshots before and after differ, as those of a prefix list do:
the plan of a satisfied action is safe exactly when they do not
(`Rerouter.satisfied_unowned_iff`).
-/

namespace Rerouter

open Table

/-! ### Plans and what follows from them -/

/-- What `execute_prepared` returned, as `run_state_machine` looks at it. -/
inductive PortAnswer where
  | ok
  /-- An error that proves that there was no effect. -/
  | provenNoEffect
  /-- Any other error. -/
  | unproven
deriving DecidableEq

/-- The outcome of the port call of a prepared action. -/
def portResult (plan : PreparedDeviceAction) : PortAnswer → PortResult
  | .ok => if plan.effect = .alreadySatisfied then .skipped else .pushed
  | .provenNoEffect => .refused
  | .unproven => .ambiguous

/-- The classification of `reconcile_uncertain`. -/
def reconciliationResult (matchesAfter matchesBefore same : Bool) : ReconciliationResult :=
  match matchesAfter, matchesBefore, same with
  | true, _, false => .changed
  | _, true, _ => .notApplied
  | _, _, _ => .conflict

/-- What `reconcile_uncertain` concludes from its reads of the persisted snapshots; a read that
fails is no answer. -/
def reconcileReads (plan : PreparedDeviceAction) (read : List DeviceStateSnapshot → Option Bool) :
    Option ReconciliationResult :=
  if plan.before = [] ∨ plan.after = [] then none
  else do
    let matchesAfter ← read plan.after
    let matchesBefore ← if plan.before = plan.after then some matchesAfter else read plan.before
    pure (reconciliationResult matchesAfter matchesBefore (decide (plan.before = plan.after)))

/-- What may happen, with the plans of the reroutes. -/
inductive PlanEvent where
  /-- An event the plans have no part in. -/
  | other (e : ExecEvent)
  | portAnswers (id : ℕ) (answer : PortAnswer) (persisted : Bool)
  | reconcile (id : ℕ) (read : List DeviceStateSnapshot → Option Bool)

/-- An event whose outcome a plan decides. -/
def ExecEvent.planned : ExecEvent → Bool
  | .serve (.portReturns _ _ _) => true
  | .serve (.reconcile _ _) => true
  | _ => false

variable (requireVerification : Bool) (plans : ℕ → PreparedDeviceAction)

/-- One event. -/
def planStep (s : ExecState) : PlanEvent → ExecState
  | .other e => if e.planned then s else execStep requireVerification s e
  | .portAnswers id answer persisted =>
    execStep requireVerification s
      (.serve (.portReturns id (portResult (plans id) answer) persisted))
  | .reconcile id read =>
    match reconcileReads (plans id) read with
    | none => s
    | some result => execStep requireVerification s (.serve (.reconcile id result))

/-! ### Nobody owns what was not done -/

/-- The plan of a reroute had nothing to do, and its snapshots are the same. -/
def Idle (plans : ℕ → PreparedDeviceAction) (id : ℕ) : Prop :=
  (plans id).effect = .alreadySatisfied ∧ (plans id).before = (plans id).after

/-- No row of an idle plan is `changed`. -/
def RowsUnowned (plans : ℕ → PreparedDeviceAction) (db : Db) : Prop :=
  ∀ r ∈ db.reroutes, Idle plans r.id → r.effect ≠ .changed

/-- And no worker is about to write it. -/
structure Unowned (plans : ℕ → PreparedDeviceAction) (s : ExecState) : Prop where
  rows : RowsUnowned plans s.db
  applied : ∀ id device result persisted, s.workers id = some ⟨device, .applied result persisted⟩ →
    Idle plans id → result = .skipped ∨ result = .ambiguous
  settled : ∀ id device state effect, s.workers id = some ⟨device, .settled state effect⟩ →
    Idle plans id → effect ≠ .changed

variable {requireVerification plans} {s : ExecState} {db : Db} {id device : ℕ}

/-- A statement that writes `changed` to no idle row. -/
theorem RowsUnowned.updateReroute (h : RowsUnowned plans db) {p : RerouteRow → Bool}
    {f : RerouteRow → RerouteRow} (hid : ∀ r, (f r).id = r.id)
    (heffect : Idle plans id → ∀ r, (f r).effect = .changed → r.effect = .changed) :
    RowsUnowned plans (db.updateReroute id p f) := by
  refine forall_mem_update (fun r hr _ => h r hr) fun r hr hp hidle hchanged => ?_
  rw [hid] at hidle
  have hrow : r.id = id := by
    simp only [Bool.and_eq_true, decide_eq_true_eq] at hp
    exact hp.1
  exact h r hr hidle (heffect (hrow ▸ hidle) r hchanged)

theorem RowsUnowned.settle (h : RowsUnowned plans db) {p : RerouteRow → Bool}
    {state : RerouteState} {effect : MutationEffect} (heffect : Idle plans id → effect ≠ .changed) :
    RowsUnowned plans (db.updateReroute id p (.settle state effect)) :=
  h.updateReroute (fun _ => rfl) fun hidle _ hchanged => absurd hchanged (heffect hidle)

theorem RowsUnowned.enter (h : RowsUnowned plans db) {p : RerouteState → Bool}
    {state : RerouteState} : RowsUnowned plans (transition db id p (.enter state)) :=
  h.updateReroute (fun _ => rfl) fun _ _ hchanged => hchanged

theorem RowsUnowned.quarantine (h : RowsUnowned plans db) {p : RerouteState → Bool} :
    RowsUnowned plans (transition db id p (.settle .uncertain .unknown)) :=
  h.settle fun _ => by simp

theorem RowsUnowned.quarantineInterrupted (h : RowsUnowned plans db) (row : RerouteRow) :
    RowsUnowned plans (quarantineInterrupted db row) := by
  unfold Rerouter.quarantineInterrupted
  simp only
  split
  · exact h.quarantine
  · exact h.quarantine

theorem RowsUnowned.quarantineChanged (h : RowsUnowned plans db) {next : Db}
    (hnext : quarantineChanged db id = some next) : RowsUnowned plans next := by
  simp only [Rerouter.quarantineChanged] at hnext
  split at hnext
  · cases hnext
  · split_ifs at hnext
    obtain rfl := Option.some.inj hnext
    have hrows : RowsUnowned plans
        (transition db id (· = .succeeded) (.settle .uncertain .unknown)) := h.quarantine
    exact hrows

theorem RowsUnowned.recoverStep (h : RowsUnowned plans db) (reply : ℕ → Reply) (failures : ℕ)
    (row : RerouteRow) : RowsUnowned plans (recoverStep reply (db, failures) row).1 := by
  rw [Rerouter.recoverStep, recoverOne]
  split
  · exact h
  · rename_i next hnext
    split_ifs at hnext
    obtain rfl := Option.some.inj hnext
    simp only
    split
    · exact h.quarantine
    · exact h

theorem RowsUnowned.recoverOnStartup (h : RowsUnowned plans db) (reply : ℕ → Reply) :
    RowsUnowned plans (recoverOnStartup reply db).1 := by
  have hfold : ∀ (rows : List RerouteRow) (acc : Db × ℕ), RowsUnowned plans acc.1 →
      RowsUnowned plans (rows.foldl (Rerouter.recoverStep reply) acc).1 := by
    intro rows
    induction rows with
    | nil => exact fun _ hacc => hacc
    | cons row rows ih => exact fun acc hacc => ih _ (hacc.recoverStep reply acc.2 row)
  exact hfold _ (db, 0) h

theorem RowsUnowned.insertReroute (h : RowsUnowned plans db) {row : RerouteRow} {consume : Bool}
    {next : Db} (hrow : row.effect ≠ .changed) (hnext : insertReroute db row consume = .ok next) :
    RowsUnowned plans next := by
  intro r hr hidle
  rw [(insertReroute_tables hnext).1] at hr
  rcases List.mem_append.mp hr with hr | hr
  · exact h r hr hidle
  · rw [List.mem_singleton.mp hr]
    exact hrow

/-! ### The workers -/

theorem Unowned.setDb (h : Unowned plans s) (hdb : RowsUnowned plans db) :
    Unowned plans { s with db } :=
  { h with rows := hdb }

theorem Unowned.write (h : Unowned plans s) (hdb : RowsUnowned plans db) (reply : Reply) :
    Unowned plans (s.write reply db) := by
  rw [ExecState.write]
  split
  · exact h.setDb hdb
  · exact h

theorem Unowned.endWorker (h : Unowned plans s) (id : ℕ) : Unowned plans (s.endWorker id) := by
  refine ⟨h.rows, fun i d result persisted hw => ?_, fun i d state effect hw => ?_⟩
  · by_cases hi : i = id
    · subst hi
      simp [ExecState.endWorker] at hw
    · exact h.applied i d result persisted (by simpa [ExecState.endWorker, hi] using hw)
  · by_cases hi : i = id
    · subst hi
      simp [ExecState.endWorker] at hw
    · exact h.settled i d state effect (by simpa [ExecState.endWorker, hi] using hw)

/-- A worker goes on to a stage in which it owns nothing that an idle plan did. -/
theorem Unowned.setStage (h : Unowned plans s) {stage : Stage}
    (happlied : ∀ result persisted, stage = .applied result persisted → Idle plans id →
      result = .skipped ∨ result = .ambiguous)
    (hsettled : ∀ state effect, stage = .settled state effect → Idle plans id →
      effect ≠ .changed) : Unowned plans (s.setStage id device stage) := by
  refine ⟨h.rows, fun i d result persisted hw => ?_, fun i d state effect hw => ?_⟩
  · by_cases hi : i = id
    · subst hi
      have hstage : device = d ∧ stage = .applied result persisted := by
        simpa [ExecState.setStage] using hw
      exact happlied result persisted hstage.2
    · exact h.applied i d result persisted (by simpa [ExecState.setStage, hi] using hw)
  · by_cases hi : i = id
    · subst hi
      have hstage : device = d ∧ stage = .settled state effect := by
        simpa [ExecState.setStage] using hw
      exact hsettled state effect hstage.2
    · exact h.settled i d state effect (by simpa [ExecState.setStage, hi] using hw)

theorem Unowned.advance (h : Unowned plans s) {reply : Reply} {source target : RerouteState}
    {stage : Stage} (hstage : stage = .pending ∨ stage = .running) :
    Unowned plans (s.advance id device reply source target stage) := by
  refine (h.write h.rows.enter reply).setStage ?_ ?_
  · intro result persisted heq
    split at heq <;> rcases hstage with rfl | rfl <;> cases heq
  · intro state effect heq
    split at heq <;> rcases hstage with rfl | rfl <;> cases heq

/-- What is settled after a port call that pushed nothing. -/
theorem runOutcome_ne_changed {result : PortResult}
    (hresult : result = .skipped ∨ result = .ambiguous) (persisted : Bool) (verdict : Verdict) :
    (runOutcome result persisted verdict requireVerification).2 ≠ .changed := by
  rcases hresult with rfl | rfl <;> cases persisted <;> simp [runOutcome, PortResult.appliedOk]

/-- A port call of an idle plan pushes nothing. -/
theorem portResult_of_idle {plan : PreparedDeviceAction} (h : plan.effect = .alreadySatisfied)
    (answer : PortAnswer) (hanswer : portResult plan answer ≠ .refused) :
    portResult plan answer = .skipped ∨ portResult plan answer = .ambiguous := by
  cases answer with
  | ok => exact Or.inl (by simp [portResult, h])
  | provenNoEffect => exact absurd rfl hanswer
  | unproven => exact Or.inr rfl

/-- The port call of a plan returns. -/
theorem Unowned.portAnswers (h : Unowned plans s) (answer : PortAnswer) (persisted : Bool) :
    Unowned plans (serveStep requireVerification s
      (.portReturns id (portResult (plans id) answer) persisted)) := by
  simp only [serveStep]
  split
  · split
    · refine h.setStage (fun _ _ heq => by cases heq) fun state effect heq _ => ?_
      obtain ⟨-, rfl⟩ := Stage.settled.inj heq
      cases persisted <;> simp [refusalOutcome]
    · rename_i hrefused
      refine h.setStage (fun result persisted heq hidle => ?_) fun _ _ heq => by cases heq
      obtain ⟨rfl, -⟩ := Stage.applied.inj heq
      exact portResult_of_idle hidle.1 answer hrefused
  · exact h

/-- **A reconciliation of an idle plan concludes that nothing was applied**, if anything. -/
theorem reconcileReads_ne_changed {plan : PreparedDeviceAction} (hsame : plan.before = plan.after)
    (read : List DeviceStateSnapshot → Option Bool) :
    reconcileReads plan read ≠ some .changed := by
  unfold reconcileReads
  split
  · simp
  · rcases read plan.after with _ | _ | _ <;> simp [hsame, reconciliationResult]

theorem Unowned.reconcile (h : Unowned plans s) {result : ReconciliationResult}
    (hresult : Idle plans id → result ≠ .changed) : Unowned plans (s.reconcile id result) := by
  rw [ExecState.reconcile]
  split
  · exact h
  · rename_i db hdb
    have hrows : RowsUnowned plans db := by
      simp only [reconcileUncertain] at hdb
      split at hdb
      · cases hdb
      split_ifs at hdb
      split at hdb
      · obtain rfl := Option.some.inj hdb
        exact h.rows
      · rename_i state effect action hsome
        obtain rfl := Option.some.inj hdb
        refine RowsUnowned.settle (p := RerouteRow.reconcilable) h.rows fun hidle => ?_
        have hne := hresult hidle
        cases result with
        | changed => exact absurd rfl hne
        | notApplied =>
          simp only [ReconciliationResult.outcome, Option.some.injEq, Prod.mk.injEq] at hsome
          rw [← hsome.2.1]
          simp
        | conflict => cases hsome
    exact ⟨hrows, h.applied, h.settled⟩

/-! ### Runs -/

/-- An event of a serving controller that no plan decides. -/
theorem Unowned.serve (h : Unowned plans s) (e : ServeEvent)
    (he : (ExecEvent.serve e).planned = false) :
    Unowned plans (serveStep requireVerification s e) := by
  cases e with
  | reserve req bundle trigger mode createdAt consume reply =>
    simp only [serveStep, ExecState.reserve]
    split
    · exact h
    split
    · exact h
    · rename_i db hdb
      have hrows : RowsUnowned plans db := h.rows.insertReroute (by simp [newReroute]) hdb
      split
      · exact (h.setDb hrows).setStage (fun _ _ heq => by cases heq) fun _ _ heq => by cases heq
      · exact h.write hrows reply
  | abortReserved id reply =>
    simp only [serveStep]
    split
    · exact (h.write (h.rows.settle fun _ => by simp) reply).endWorker id
    · exact h
  | toPending id reply =>
    simp only [serveStep]
    split
    · exact h.advance (Or.inl rfl)
    · exact h
  | toRunning id reply =>
    simp only [serveStep]
    split
    · exact h.advance (Or.inr rfl)
    · exact h
  | abort id reply =>
    simp only [serveStep]
    split
    · exact (h.write (h.rows.settle fun _ => by simp) reply).endWorker id
    · exact h
  | send id =>
    simp only [serveStep]
    split
    · exact ⟨h.rows, h.applied, h.settled⟩
    · exact h
  -- what a plan decides is not among these events
  | portReturns id result persisted => cases he
  -- an idle result is never classified as a change
  | verify id reply verdict persisted =>
    simp only [serveStep]
    split
    · rename_i device result applied hw
      refine (h.write h.rows.enter reply).setStage (fun _ _ heq => by cases heq)
        fun state effect heq hidle => ?_
      obtain ⟨-, rfl⟩ := Stage.settled.inj heq
      exact runOutcome_ne_changed (h.applied id _ result applied hw hidle) _ _
    · exact h
  | finalize id reply =>
    simp only [serveStep]
    split
    · rename_i device state effect hw
      rw [ExecState.finalize]
      split
      · exact h.endWorker id
      · rename_i db hdb
        split
        · have hrows : RowsUnowned plans db := by
            simp only [Rerouter.finalize] at hdb
            split_ifs at hdb <;> obtain rfl := Option.some.inj hdb <;>
              exact h.rows.settle (h.settled id device state effect hw)
          have hended := h.endWorker id
          exact ⟨hrows, hended.applied, hended.settled⟩
        · exact h.endWorker id
    · exact h
  | workerEnds id => exact h.endWorker id
  | cancel id => exact h.setDb h.rows.enter
  | quarantineInterrupted bundle =>
    have hfold : ∀ (rows : List RerouteRow) (db : Db), RowsUnowned plans db →
        RowsUnowned plans (rows.foldl Rerouter.quarantineInterrupted db) := by
      intro rows
      induction rows with
      | nil => exact fun _ hdb => hdb
      | cons row rows ih => exact fun db hdb => ih _ (hdb.quarantineInterrupted row)
    exact h.setDb (hfold _ s.db h.rows)
  | quarantineChanged applied =>
    simp only [serveStep]
    rcases hdb : Rerouter.quarantineChangedActions s.db applied with _ | db
    · exact h
    · exact h.setDb (Run.foldlM_invariant
        (fun _ _ _ _ hinv hstep => RowsUnowned.quarantineChanged hinv hstep) h.rows hdb)
  | reconcile id result => cases he
  | lockGlobal => exact h.setDb h.rows
  | clearGlobal => exact h.setDb h.rows
  | elsewhere bundles actions windows maintenance => exact h.setDb h.rows

/-- **One event leaves what an idle plan did to nobody.** -/
theorem Unowned.step (h : Unowned plans s) (e : PlanEvent) :
    Unowned plans (planStep requireVerification plans s e) := by
  cases e with
  | other e =>
    simp only [planStep]
    split
    · exact h
    · rename_i hplanned
      have hplanned := Bool.eq_false_iff.mpr hplanned
      cases e with
      | serve e =>
        simp only [execStep]
        split
        · exact h.serve e hplanned
        · exact h
      -- a crash takes the workers with it
      | crash =>
        constructor
        case rows => exact h.rows
        case applied =>
          intro _ _ _ _ hw
          cases hw
        case settled =>
          intro _ _ _ _ hw
          cases hw
      | restart reply =>
        have hrows := h.rows.recoverOnStartup reply
        simp only [execStep]
        split_ifs
        · exact h
        · exact ⟨hrows, h.applied, h.settled⟩
        · exact ⟨hrows, h.applied, h.settled⟩
  | portAnswers id answer persisted =>
    simp only [planStep, execStep]
    split
    · exact h.portAnswers answer persisted
    · exact h
  | reconcile id read =>
    simp only [planStep]
    split
    · exact h
    · rename_i result hresult
      simp only [execStep]
      split
      · refine h.reconcile fun hidle hchanged => ?_
        exact reconcileReads_ne_changed hidle.2 read (hchanged ▸ hresult)
      · exact h

theorem Unowned.init : Unowned plans {} where
  rows := by
    intro r hr
    cases hr
  applied _ _ _ _ hw := by cases hw
  settled _ _ _ _ hw := by cases hw

/-- A satisfied action whose plan is idle is never `changed`. -/
theorem effect_ne_changed_of_idle (es : List PlanEvent) {r : RerouteRow}
    (hr : r ∈ (Run.run (planStep requireVerification plans) {} es).db.reroutes)
    (hidle : Idle plans r.id) : r.effect ≠ .changed := by
  have h : Unowned plans (Run.run (planStep requireVerification plans) {} es) :=
    Run.invariant (fun _ e hinv => hinv.step e) es Unowned.init
  exact h.rows r hr hidle

/-- The process stops while it verifies a satisfied action on device 7; an operator reconciles
it, and the router is as the plan says it is left. -/
def reconciledRun : List PlanEvent :=
  [.other (.serve (.reserve ⟨7, none, none⟩ none .manual .routing 0 false .done)),
    .other (.serve (.toPending 0 .done)), .other (.serve (.toRunning 0 .done)), .other .crash,
    .other (.restart fun _ => .done), .reconcile 0 fun _ => some true]

/-- The row it leaves. -/
def reconciledRow : RerouteRow :=
  ⟨0, 7, none, none, .manual, .routing, 0, .succeeded, .changed, none⟩

/-- A plan with two different snapshots is taken for a change. -/
theorem mem_reconciledRun {plan : PreparedDeviceAction} (hvalid : plan.validate = .ok ())
    (hsatisfied : plan.effect = .alreadySatisfied) (hne : plan.before ≠ plan.after) :
    reconciledRow ∈ (Run.run (planStep requireVerification fun _ => plan)
      {} reconciledRun).db.reroutes := by
  have hsnapshots : ¬(plan.before = [] ∨ plan.after = []) := by
    rw [PreparedDeviceAction.validate] at hvalid
    split_ifs at hvalid with _ _ _ howned
    rintro (hbefore | hafter)
    · exact howned ⟨hsatisfied, Or.inr (Or.inr (Or.inl hbefore))⟩
    · exact howned ⟨hsatisfied, Or.inr (Or.inr (Or.inr (Or.inl hafter)))⟩
  have hreads : reconcileReads plan (fun _ => some true) = some .changed := by
    simp [reconcileReads, hsnapshots, hne, reconciliationResult]
  simp only [reconciledRun, Run.run_cons, Run.run_nil, planStep, hreads]
  cases requireVerification <;> decide +kernel

/-- **A satisfied action is never owned** exactly when its snapshots before and after are the
same: then no run, with whatever crashes, answers and reconciliations, leaves its row `changed`,
and else one does. -/
theorem satisfied_unowned_iff (requireVerification : Bool) (plan : PreparedDeviceAction)
    (hvalid : plan.validate = .ok ()) (hsatisfied : plan.effect = .alreadySatisfied) :
    (∀ (plans : ℕ → PreparedDeviceAction) (es : List PlanEvent),
      ∀ r ∈ (Run.run (planStep requireVerification plans) {} es).db.reroutes,
        plans r.id = plan → r.effect ≠ .changed) ↔ plan.before = plan.after := by
  constructor
  · intro h
    by_contra hne
    exact h (fun _ => plan) reconciledRun reconciledRow
      (mem_reconciledRun hvalid hsatisfied hne) rfl rfl
  · intro hsame plans es r hr hplan
    refine effect_ne_changed_of_idle es hr ⟨?_, ?_⟩
    · rw [hplan, hsatisfied]
    · rw [hplan, hsame]

/-- An interface that is to be on, and is. -/
def interfaceOn : PreparedDeviceAction :=
  { device := 7
    templateId := 1
    templateName := "iface_no_shutdown"
    policyKind := none
    mode := .configurationOnly
    commands := []
    before := [.interfaceAdmin "Gi0/0" false]
    after := [.interfaceAdmin "Gi0/0" false]
    verify := [.interfaceAdmin "Gi0/0" false]
    effect := .alreadySatisfied
    inverse := none }

/-- Nobody owns an interface that was on. -/
theorem interfaceOn_unowned : interfaceOn.validate = .ok () ∧
    ∀ (plans : ℕ → PreparedDeviceAction) (es : List PlanEvent),
      ∀ r ∈ (Run.run (planStep true plans) {} es).db.reroutes,
        plans r.id = interfaceOn → r.effect ≠ .changed :=
  ⟨by decide +kernel, (satisfied_unowned_iff true interfaceOn (by decide +kernel) rfl).mpr rfl⟩

/-- A prefix that its list permits. -/
def permittedOutput : Text := "ip prefix-list eMA1: 1 entries\n   seq 5 permit 10.0.0.0/24"

/-- The plan of its advertisement, with nothing to do. -/
def permittedPlan : PreparedDeviceAction :=
  satisfiedListAction ⟨7, 1, "bgp_advertise_add", none, by decide⟩ "192.0.2.1"
    (.prefixList "eMA1" [⟨5, true, "10.0.0.0/24", none, none⟩] [])
    (.bgpAdvertisement "192.0.2.1" "10.0.0.0/24" true none)

/-- The planner prepares it, and a run of it ends with its row `changed`. -/
theorem not_unowned_permittedPlan :
    preparePrefixListAction ⟨7, 1, "bgp_advertise_add", none, by decide⟩ "192.0.2.1" "eMA1"
      "10.0.0.0/24" []
        permittedOutput (fun _ => .ok []) = .ok permittedPlan ∧
      ∃ r ∈ (Run.run (planStep true fun _ => permittedPlan) {} reconciledRun).db.reroutes,
        r.effect = .changed :=
  ⟨by decide +kernel, by decide +kernel⟩

end Rerouter
