import Mathlib.Logic.Function.Basic
import Rerouter.Executor
import Rerouter.Lib.Run

/-!
# Crash safety of a reroute

Workers carry out reroutes, one statement or port call at a time, while operators cancel and
reconcile, bundles lose their projected state, and supervisors settle workers that ended early.
A statement may fail, or be committed without the worker learning of it, and between any two
steps the process may stop; `Rerouter.recoverOnStartup` then runs before anything else does,
and may itself stop halfway.

What a worker has sent is kept in a log beside the tables, with the state its row was in. A
reroute that was sent, whose terminal transaction did not commit and that nobody reconciled, is
still in flight or it is uncertain and its device locked (`Rerouter.ExecState.Accounted`); a
completed recovery leaves the second. Either way no new action is reserved on the device
(`Rerouter.crashSafe`).
-/

namespace Rerouter

open Table

/-! ### The system -/

/-- Where the worker of a reroute is. -/
inductive Stage where
  /-- The row is written. -/
  | reserved
  | pending
  /-- A transition was refused or not acknowledged. -/
  | aborting
  /-- The port call of the action is under way. -/
  | running
  /-- The port call has returned. -/
  | applied (result : PortResult) (persisted : Bool)
  /-- The terminal state is decided. -/
  | settled (state : FinalState) (effect : MutationEffect)
deriving DecidableEq

/-- The stages behind the transition to `running`. -/
def Stage.begun : Stage → Bool
  | running | applied _ _ | settled _ _ => true
  | _ => false

/-- The worker of a reroute, with the device of its request. -/
structure Worker where
  device : ℕ
  stage : Stage
deriving DecidableEq

/-- The tables, the process, and what happened. -/
structure ExecState where
  db : Db := {}
  /-- Startup recovery has run, and the controller serves. -/
  up : Bool := true
  /-- The workers by their reroutes. -/
  workers : ℕ → Option Worker := fun _ => none
  /-- The commands sent: the reroute, and the state its row was in. -/
  sent : List (ℕ × Option RerouteState) := []
  /-- The reroutes whose terminal transaction committed. -/
  committed : List ℕ := []
  /-- The reroutes a reconciliation settled. -/
  reconciled : List ℕ := []
  /-- The reroutes that were written down before a recovery that completed. -/
  recovered : List ℕ := []

/-- What may happen while the controller serves. -/
inductive ServeEvent where
  /-- `reserve_slot` passes and inserts the row. -/
  | reserve (req : SlotRequest) (bundle : Option ℕ) (trigger : TriggerType)
      (mode : VerificationMode) (createdAt : ℕ) (consume : Bool) (reply : Reply)
  /-- `abort_reserved`. -/
  | abortReserved (id : ℕ) (reply : Reply)
  | toPending (id : ℕ) (reply : Reply)
  | toRunning (id : ℕ) (reply : Reply)
  /-- The error path of the state machine. -/
  | abort (id : ℕ) (reply : Reply)
  /-- One command goes out. -/
  | send (id : ℕ)
  | portReturns (id : ℕ) (result : PortResult) (persisted : Bool)
  /-- The transition to `verifying`, and the verification. -/
  | verify (id : ℕ) (reply : Reply) (verdict : Verdict) (persisted : Bool)
  | finalize (id : ℕ) (reply : Reply)
  /-- The worker ends where it is. -/
  | workerEnds (id : ℕ)
  | cancel (id : ℕ)
  | quarantineInterrupted (bundle : ℕ)
  | quarantineChanged (applied : List ℕ)
  | reconcile (id : ℕ) (result : ReconciliationResult)
  | lockGlobal
  | clearGlobal
  /-- A statement on the other tables, whatever it does. -/
  | elsewhere (bundles : List BundleRow) (actions : List BundleActionRow)
      (windows : List ChangeWindowRow) (maintenance : Bool)

/-- What may happen. -/
inductive ExecEvent where
  | serve (e : ServeEvent)
  /-- The process stops. -/
  | crash
  /-- It starts again, with the replies to the transactions of its recovery. -/
  | restart (reply : ℕ → Reply)

/-- A row of an action that is just reserved. -/
def newReroute (db : Db) (req : SlotRequest) (bundle : Option ℕ) (trigger : TriggerType)
    (mode : VerificationMode) (createdAt : ℕ) : RerouteRow :=
  { id := db.reroutes.length, device := req.device, bundle, rollbackOf := req.rollbackOf,
    trigger, mode, createdAt }

namespace ExecState

variable (s : ExecState)

/-- The tables a statement leaves, if it took effect. -/
def write (reply : Reply) (db : Db) : ExecState := if reply.committed then { s with db } else s

/-- The worker of a reroute goes on. -/
def setStage (id device : ℕ) (stage : Stage) : ExecState :=
  { s with workers := Function.update s.workers id (some ⟨device, stage⟩) }

/-- The worker of a reroute ends. -/
def endWorker (id : ℕ) : ExecState := { s with workers := Function.update s.workers id none }

/-- A transition of `run_state_machine` that has to succeed: the worker aborts where it does not
find its row, or learns of no success. -/
def advance (id device : ℕ) (reply : Reply) (source target : RerouteState) (stage : Stage) :
    ExecState :=
  (s.write reply (transition s.db id (· = source) (.enter target))).setStage id device
    (if reply = .done ∧ finds s.db id (· = source) then stage else .aborting)

/-- `reserve_slot` with its insertion. -/
def reserve (req : SlotRequest) (row : RerouteRow) (consume : Bool) (reply : Reply) : ExecState :=
  match reserveSlot s.db req with
  | .error _ => s
  | .ok () =>
    match insertReroute s.db row consume with
    | .error _ => s
    | .ok db =>
      if reply = .done then { s with db }.setStage row.id row.device .reserved else s.write reply db

/-- The transition to `verifying`, the verification, and the terminal state they decide. -/
def verify (requireVerification : Bool) (id device : ℕ) (result : PortResult)
    (persisted verificationPersisted : Bool) (reply : Reply) (verdict : Verdict) : ExecState :=
  let entered := decide (reply = .done) && finds s.db id (· = .running)
  let outcome := runOutcome result (persisted && entered && verificationPersisted) verdict
    requireVerification
  (s.write reply (transition s.db id (· = .running) (.enter .verifying))).setStage id device
    (.settled outcome.1 outcome.2)

/-- The terminal transaction. -/
def finalize (id device : ℕ) (state : FinalState) (effect : MutationEffect) (reply : Reply) :
    ExecState :=
  match Rerouter.finalize s.db id device state effect with
  | none => s.endWorker id
  | some db =>
    if reply.committed then
      { s.endWorker id with db, committed := id :: s.committed }
    else s.endWorker id

/-- A reconciliation, which settles the reroute unless its read was in conflict. -/
def reconcile (id : ℕ) (result : ReconciliationResult) : ExecState :=
  match reconcileUncertain s.db id result with
  | none => s
  | some db =>
    { s with db, reconciled := if result = .conflict then s.reconciled else id :: s.reconciled }

end ExecState

/-- One event while the controller serves. An event that is not enabled leaves the state as it
is. -/
def serveStep (requireVerification : Bool) (s : ExecState) : ServeEvent → ExecState
  | .reserve req bundle trigger mode createdAt consume reply =>
    s.reserve req (newReroute s.db req bundle trigger mode createdAt) consume reply
  | .abortReserved id reply =>
    match s.workers id with
    | some ⟨_, .reserved⟩ => (s.write reply (abortReserved s.db id)).endWorker id
    | _ => s
  | .toPending id reply =>
    match s.workers id with
    | some ⟨device, .reserved⟩ => s.advance id device reply .planned .pending .pending
    | _ => s
  | .toRunning id reply =>
    match s.workers id with
    | some ⟨device, .pending⟩ => s.advance id device reply .pending .running .running
    | _ => s
  | .abort id reply =>
    match s.workers id with
    | some ⟨_, .aborting⟩ => (s.write reply (abortBeforeExecution s.db id)).endWorker id
    | _ => s
  | .send id =>
    match s.workers id with
    | some ⟨_, .running⟩ =>
      { s with sent := (id, (s.db.reroute id).map RerouteRow.state) :: s.sent }
    | _ => s
  | .portReturns id result persisted =>
    match s.workers id with
    | some ⟨device, .running⟩ =>
      if result = .refused then
        s.setStage id device (.settled (refusalOutcome persisted).1 (refusalOutcome persisted).2)
      else s.setStage id device (.applied result persisted)
    | _ => s
  | .verify id reply verdict persisted =>
    match s.workers id with
    | some ⟨device, .applied result applied⟩ =>
      s.verify requireVerification id device result applied persisted reply verdict
    | _ => s
  | .finalize id reply =>
    match s.workers id with
    | some ⟨device, .settled state effect⟩ => s.finalize id device state effect reply
    | _ => s
  | .workerEnds id => s.endWorker id
  | .cancel id => { s with db := cancelReroute s.db id }
  | .quarantineInterrupted bundle => { s with db := quarantineInterruptedWorkerBundle s.db bundle }
  | .quarantineChanged applied => { s with db := (quarantineChangedActions s.db applied).getD s.db }
  | .reconcile id result => s.reconcile id result
  | .lockGlobal => { s with db := s.db.addLock ⟨.global, none, .manual, false⟩ }
  | .clearGlobal => { s with db := s.db.clearLocks fun l => l.scope = .global }
  | .elsewhere bundles actions windows maintenance =>
    { s with db := { s.db with bundles, actions, windows, maintenance } }

/-- One event. -/
def execStep (requireVerification : Bool) (s : ExecState) : ExecEvent → ExecState
  | .serve e => if s.up then serveStep requireVerification s e else s
  | .crash => { s with up := false, workers := fun _ => none }
  | .restart reply =>
    if s.up then s
    else
      let outcome := recoverOnStartup reply s.db
      if outcome.2 = 0 then
        { s with db := outcome.1, up := true, recovered := s.db.reroutes.map RerouteRow.id }
      else { s with db := outcome.1 }

/-! ### The invariant -/

/-- A command of the reroute was sent. -/
def ExecState.Sent (s : ExecState) (id : ℕ) : Prop := ∃ c ∈ s.sent, c.1 = id

/-- The device of a row carries a lock that the row's outcome made. -/
def Locked (db : Db) (r : RerouteRow) : Prop :=
  ∃ l ∈ db.locks, l.reroute = some r.id ∧ l.scope = .device r.device ∧ l.cleared = false

/-- The outcome of a row is open, or known to be unknown. -/
def RerouteRow.Unproven (r : RerouteRow) : Prop :=
  r.state.acting = true ∨ (r.state = .uncertain ∧ r.effect = .unknown)

/-- A row whose outcome was committed or reconciled, or is not proved. -/
def ExecState.Accounted (s : ExecState) (r : RerouteRow) : Prop :=
  r.id ∈ s.committed ∨ r.id ∈ s.reconciled ∨ r.Unproven

theorem ExecState.Accounted.commit {s : ExecState} {r : RerouteRow} {id : ℕ} {workers}
    (h : s.Accounted r) : ExecState.Accounted
    { s with workers, committed := id :: s.committed } r := by
  rcases h with hcom | hrec | hun
  · exact Or.inl (List.mem_cons_of_mem _ hcom)
  · exact Or.inr (Or.inl hrec)
  · exact Or.inr (Or.inr hun)

theorem ExecState.Accounted.reconcile {s : ExecState} {r : RerouteRow} {id : ℕ}
    (h : s.Accounted r) : ExecState.Accounted { s with reconciled := id :: s.reconciled } r := by
  rcases h with hcom | hrec | hun
  · exact Or.inl hcom
  · exact Or.inr (Or.inl (List.mem_cons_of_mem _ hrec))
  · exact Or.inr (Or.inr hun)

/-- **The invariant of the executor.** -/
structure ExecInv (s : ExecState) : Prop where
  keyed : Keyed RerouteRow.id s.db.reroutes
  known : ∀ r ∈ s.db.reroutes, r.id < s.db.reroutes.length
  /-- A worker behind the transition to `running` has a row that is. -/
  worker : ∀ id w, s.workers id = some w → ∃ r ∈ s.db.reroutes, r.id = id ∧ r.device = w.device ∧
    (w.stage.begun = true → r.state.early = false ∧ s.Accounted r)
  sent : ∀ id, s.Sent id → ∃ r ∈ s.db.reroutes, r.id = id ∧ r.state.early = false ∧ s.Accounted r
  lock : ∀ l ∈ s.db.locks, ∀ id, l.reroute = some id →
    ∃ r ∈ s.db.reroutes, r.id = id ∧ l.scope = .device r.device
  recovered : ∀ id ∈ s.recovered, ∃ r ∈ s.db.reroutes, r.id = id ∧ r.state.inFlight = false
  locked : ∀ r ∈ s.db.reroutes, r.state = .uncertain → Locked s.db r
  log : ∀ c ∈ s.sent, c.2 ≠ some .planned ∧ c.2 ≠ some .pending

/-- A row goes on: no statement takes a reroute back to where no command may have been sent, or
to where it is in flight. -/
structure Advances (r r' : RerouteRow) : Prop where
  id : r'.id = r.id
  device : r'.device = r.device
  early : r'.state.early = true → r.state.early = true
  inFlight : r'.state.inFlight = true → r.state.inFlight = true

theorem Advances.refl (r : RerouteRow) : Advances r r := ⟨rfl, rfl, fun h => h, fun h => h⟩

theorem Advances.not_early {r r' : RerouteRow} (h : Advances r r') (hr : r.state.early = false) :
    r'.state.early = false :=
  Bool.eq_false_iff.mpr fun h' => absurd (h.early h') (by simp [hr])

theorem Advances.not_inFlight {r r' : RerouteRow} (h : Advances r r')
    (hr : r.state.inFlight = false) : r'.state.inFlight = false :=
  Bool.eq_false_iff.mpr fun h' => absurd (h.inFlight h') (by simp [hr])

/-- A row that leaves flight advances. -/
theorem Advances.settle (r : RerouteRow) {state : RerouteState} {effect : MutationEffect}
    (hstate : state.early = false ∧ state.inFlight = false) :
    Advances r (r.settle state effect) where
  id := rfl
  device := rfl
  early h := absurd (hstate.1.symm.trans h) Bool.false_ne_true
  inFlight h := absurd (hstate.2.symm.trans h) Bool.false_ne_true

variable {s : ExecState} {id device : ℕ}

/-- The row of an id. -/
theorem ExecInv.eq_of_id (h : ExecInv s) {r r' : RerouteRow} (hr : r ∈ s.db.reroutes)
    (hr' : r' ∈ s.db.reroutes) (hid : r.id = r'.id) : r = r' := h.keyed.eq_of_key_eq hr hr' hid

/-! ### What keeps it -/

/-- Other tables change. -/
theorem ExecInv.congr (h : ExecInv s) {db : Db} (hreroutes : db.reroutes = s.db.reroutes)
    (hlocks : db.locks = s.db.locks) : ExecInv { s with db } := by
  obtain ⟨hkeyed, hknown, hworker, hsent, hlock, hrecovered, hlocked, hlog⟩ := h
  constructor <;> simp only [Locked, hreroutes, hlocks] <;> assumption

/-- The rows of a reroute are updated. -/
theorem ExecInv.updateReroute (h : ExecInv s) {p : RerouteRow → Bool} {f : RerouteRow → RerouteRow}
    (hadv : ∀ r, p r = true → Advances r (f r))
    (hout : ∀ r, p r = true → r.Unproven → (f r).Unproven ∨ id ∈ s.committed ∨ id ∈ s.reconciled)
    (hlocked : ∀ r ∈ s.db.reroutes, r.id = id → p r = true → (f r).state = .uncertain →
      Locked s.db r) :
    ExecInv { s with db := s.db.updateReroute id p f } := by
  have hid : ∀ r : RerouteRow, (decide (r.id = id) && p r) = true → r.id = id ∧
    p r = true := by simp
  -- an update moves a row along its states and never makes an accounted row unaccounted
  have himage : ∀ r ∈ s.db.reroutes, ∃ r' ∈ (s.db.updateReroute id p f).reroutes,
      Advances r r' ∧ (s.Accounted r → s.Accounted r') := by
    intro r hr
    refine ⟨_, mem_update.mpr ⟨r, hr, rfl⟩, ?_⟩
    split
    · rename_i hp
      obtain ⟨rfl, hpr⟩ := hid r hp
      refine ⟨hadv r hpr, fun hacc => ?_⟩
      rw [ExecState.Accounted, (hadv r hpr).id]
      rcases hacc with hcom | hrec | hun
      · exact Or.inl hcom
      · exact Or.inr (Or.inl hrec)
      · rcases hout r hpr hun with hun | hcom | hrec
        · exact Or.inr (Or.inr hun)
        · exact Or.inl hcom
        · exact Or.inr (Or.inl hrec)
    · exact ⟨Advances.refl r, fun hacc => hacc⟩
  have hkept : ∀ (i : ℕ) (P : RerouteRow → Prop),
      (∀ r r', Advances r r' → (s.Accounted r → s.Accounted r') → P r → P r') →
      (∃ r ∈ s.db.reroutes, r.id = i ∧ P r) →
      ∃ r ∈ (s.db.updateReroute id p f).reroutes, r.id = i ∧ P r := by
    rintro i P hP ⟨r, hr, rfl, hPr⟩
    obtain ⟨r', hr', hadv', hacc⟩ := himage r hr
    exact ⟨r', hr', hadv'.id, hP r r' hadv' hacc hPr⟩
  have hmap : (s.db.updateReroute id p f).reroutes.map RerouteRow.id =
    s.db.reroutes.map RerouteRow.id :=
    map_key_update_of_mem fun r _ hp => (hadv r (hid r hp).2).id
  constructor
  · show ((s.db.updateReroute id p f).reroutes.map RerouteRow.id).Nodup
    rw [hmap]
    exact h.keyed
  · intro r hr
    have hmem : r.id ∈ s.db.reroutes.map RerouteRow.id := hmap ▸ List.mem_map_of_mem hr
    obtain ⟨a, ha, hra⟩ := List.mem_map.mp hmem
    show r.id < (update _ _ s.db.reroutes).length
    rw [length_update, ← hra]
    exact h.known a ha
  · intro i w hw
    refine hkept i (fun r => r.device = w.device ∧
      (w.stage.begun = true → r.state.early = false ∧ s.Accounted r)) ?_ (h.worker i w hw)
    rintro r r' hr hacc ⟨hdevice, hbegun⟩
    exact ⟨hr.device.trans hdevice, fun hb => ⟨hr.not_early (hbegun hb).1, hacc (hbegun hb).2⟩⟩
  · intro i hi
    refine hkept i (fun r => r.state.early = false ∧ s.Accounted r) ?_ (h.sent i hi)
    rintro r r' hr hacc ⟨hearly, hracc⟩
    exact ⟨hr.not_early hearly, hacc hracc⟩
  · intro l hl i hi
    exact hkept i (fun r => l.scope = .device r.device)
      (fun r r' hr _ hP => by rw [hr.device]; exact hP) (h.lock l hl i hi)
  · intro i hi
    exact hkept i (fun r => r.state.inFlight = false) (fun r r' hr _ hP => hr.not_inFlight hP)
      (h.recovered i hi)
  · refine forall_mem_update (fun r hr _ hunc => h.locked r hr hunc) fun r hr hp hunc => ?_
    obtain ⟨hrid, hp⟩ := hid r hp
    have hold := hlocked r hr hrid hp hunc
    rw [Locked, (hadv r hp).id, (hadv r hp).device]
    exact hold
  · exact h.log

/-- A row is inserted. -/
theorem ExecInv.insert (h : ExecInv s) {db : Db} {row : RerouteRow}
    (hreroutes : db.reroutes = s.db.reroutes ++ [row]) (hlocks : db.locks = s.db.locks)
    (hid : row.id = s.db.reroutes.length) (hstate : row.state = .planned) :
    ExecInv { s with db } := by
  have hkept : ∀ (i : ℕ) (P : RerouteRow → Prop), (∃ r ∈ s.db.reroutes, r.id = i ∧ P r) →
      ∃ r ∈ db.reroutes, r.id = i ∧ P r := by
    rintro i P ⟨r, hr, hP⟩
    exact ⟨r, hreroutes ▸ List.mem_append_left _ hr, hP⟩
  constructor
  · show Keyed RerouteRow.id db.reroutes
    rw [hreroutes]
    -- the new id is the length of the table, above every id in use
    refine h.keyed.append fun r hr heq => ?_
    have hlt := h.known r hr
    omega
  · intro r hr
    have hlen : db.reroutes.length = s.db.reroutes.length + 1 := by simp [hreroutes]
    show r.id < db.reroutes.length
    rcases List.mem_append.mp (hreroutes ▸ hr : r ∈ s.db.reroutes ++ [row]) with hr | hr
    · have hlt := h.known r hr
      omega
    · rw [List.mem_singleton.mp hr]
      omega
  · exact fun i w hw => hkept i _ (h.worker i w hw)
  · exact fun i hi => hkept i _ (h.sent i hi)
  · exact fun l hl i hi => hkept i _ (h.lock l (hlocks ▸ hl) i hi)
  · exact fun i hi => hkept i _ (h.recovered i hi)
  · intro r hr hunc
    rcases List.mem_append.mp (hreroutes ▸ hr : r ∈ s.db.reroutes ++ [row]) with hr | hr
    · rw [Locked, hlocks]
      exact h.locked r hr hunc
    · rw [List.mem_singleton.mp hr, hstate] at hunc
      cases hunc
  · exact h.log

/-- A worker is at a stage that its row allows. -/
theorem ExecInv.setStage (h : ExecInv s) {stage : Stage}
    (hrow : ∃ r ∈ s.db.reroutes, r.id = id ∧ r.device = device ∧
      (stage.begun = true → r.state.early = false ∧ s.Accounted r)) :
    ExecInv (s.setStage id device stage) := by
  refine { h with worker := fun i w hw => ?_ }
  by_cases hi : i = id
  · subst hi
    obtain rfl : ⟨device, stage⟩ = w := by simpa [ExecState.setStage] using hw
    exact hrow
  · exact h.worker i w (by simpa [ExecState.setStage, hi] using hw)

/-- A worker ends. -/
theorem ExecInv.endWorker (h : ExecInv s) (id : ℕ) : ExecInv (s.endWorker id) := by
  refine { h with worker := fun i w hw => ?_ }
  by_cases hi : i = id
  · subst hi
    simp [ExecState.endWorker] at hw
  · exact h.worker i w (by simpa [ExecState.endWorker, hi] using hw)

/-- The outcome of a row locks its device. -/
theorem ExecInv.addLock (h : ExecInv s) {row : LockRow}
    (hrow : ∀ id, row.reroute = some id →
      ∃ r ∈ s.db.reroutes, r.id = id ∧ row.scope = .device r.device) :
    ExecInv { s with db := s.db.addLock row } := by
  refine { h with lock := fun l hl i hi => ?_, locked := fun r hr hunc => ?_ }
  · rcases List.mem_append.mp hl with hl | hl
    · exact h.lock l hl i hi
    · obtain rfl := List.mem_singleton.mp hl
      exact hrow i hi
  · obtain ⟨l, hl, hlock⟩ := h.locked r hr hunc
    exact ⟨l, List.mem_append_left _ hl, hlock⟩

/-- Locks are cleared, and none of an uncertain row. -/
theorem ExecInv.clearLocks (h : ExecInv s) {p : LockRow → Bool}
    (hp : ∀ r ∈ s.db.reroutes, r.state = .uncertain → ∀ l ∈ s.db.locks, l.reroute = some r.id →
      l.scope = .device r.device → p l = false) : ExecInv { s with db := s.db.clearLocks p } := by
  refine { h with lock := ?_, locked := fun r hr hunc => ?_ }
  · refine forall_mem_update (fun l hl _ => h.lock l hl) fun l hl _ => ?_
    exact h.lock l hl
  · obtain ⟨l, hl, hid, hscope, hcleared⟩ := h.locked r hr hunc
    refine ⟨l, mem_update.mpr ⟨l, hl, ?_⟩, hid, hscope, hcleared⟩
    rw [hp r hr hunc l hl hid hscope]
    simp

/-- A row is put under quarantine: it is uncertain, its effect unknown, and its device locked. -/
theorem ExecInv.quarantine (h : ExecInv s) {p : RerouteState → Bool} {kind : LockKind}
    (hrow : ∃ r ∈ s.db.reroutes, r.id = id ∧ r.device = device) :
    ExecInv { s with
      db := (transition s.db id p (.settle .uncertain .unknown)).addLock
        (outcomeLock device id kind) } := by
  obtain ⟨r, hr, rfl, rfl⟩ := hrow
  have hlock : ExecInv { s with db := s.db.addLock (outcomeLock r.device r.id kind) } := by
    refine h.addLock fun i hi => ⟨r, hr, ?_, rfl⟩
    simpa [outcomeLock] using hi
  refine hlock.updateReroute (fun a _ => Advances.settle a ⟨rfl, rfl⟩)
    (fun a _ _ => Or.inl (Or.inr ⟨rfl, rfl⟩)) fun a ha haid _ _ => ?_
  obtain rfl := h.eq_of_id ha hr haid
  exact ⟨_, List.mem_append_right _ (List.mem_singleton.mpr rfl), rfl, rfl, rfl⟩

/-! ### The statements of the executor -/

theorem finds_iff {db : Db} {p : RerouteState → Bool} (h : Keyed RerouteRow.id db.reroutes) :
    finds db id p = true ↔ ∃ r ∈ db.reroutes, r.id = id ∧ p r.state = true := by
  rw [finds, Option.any_eq_true]
  constructor
  · rintro ⟨r, hr, hp⟩
    exact ⟨r, (mem_of_find hr).1, (mem_of_find hr).2, hp⟩
  · rintro ⟨r, hr, rfl, hp⟩
    exact ⟨r, find_eq_some h hr, hp⟩

theorem ExecState.write_workers (reply : Reply) (db : Db) :
    (s.write reply db).workers = s.workers := by
  rw [ExecState.write]
  split <;> rfl

theorem ExecInv.write (h : ExecInv s) {reply : Reply} {db : Db}
    (hdb : ExecInv { s with db }) : ExecInv (s.write reply db) := by
  rw [ExecState.write]
  split
  · exact hdb
  · exact h

/-- An action that has not started fails. -/
theorem ExecInv.failEarly (h : ExecInv s) {p : RerouteState → Bool} {f : RerouteRow → RerouteRow}
    (hp : ∀ st, p st = true → st.early = true) (hid : ∀ r, (f r).id = r.id)
    (hdevice : ∀ r, (f r).device = r.device) (hstate : ∀ r, (f r).state = .failed) :
    ExecInv { s with db := transition s.db id p f } := by
  refine h.updateReroute (fun r _ => ⟨hid r, hdevice r, ?_, ?_⟩) (fun r hpr hun => ?_) ?_
  · simp [hstate, RerouteState.early]
  · simp [hstate, RerouteState.inFlight]
  · have hearly := hp _ hpr
    rcases hun with hact | ⟨hunc, -⟩
    · cases hr : r.state <;> simp [hr, RerouteState.early, RerouteState.acting] at hearly hact
    · simp [hunc, RerouteState.early] at hearly
  · intro r _ _ _ hunc
    rw [hstate] at hunc
    cases hunc

/-- A transition of the state machine up to `running`. -/
theorem ExecInv.advance (h : ExecInv s) {reply : Reply} {source target : RerouteState}
    {stage before : Stage} (hw : s.workers id = some ⟨device, before⟩)
    (hsource : source.early = true) (htarget : target = .pending ∨ target = .running)
    (hstage : stage.begun = true → target = .running) :
    ExecInv (s.advance id device reply source target stage) := by
  have hinFlight : source.inFlight = true := by cases source <;> first | rfl | cases hsource
  have hwritten : ExecInv { s with db := transition s.db id (· = source) (.enter target) } := by
    refine h.updateReroute (fun r hp => ?_) (fun r hp hun => ?_) (fun r _ _ _ hunc => ?_)
    · obtain rfl : r.state = source := by simpa using hp
      exact ⟨rfl, rfl, fun _ => hsource, fun _ => hinFlight⟩
    · obtain rfl : r.state = source := by simpa using hp
      rcases hun with hact | ⟨hunc, -⟩
      · cases hr : r.state <;> simp [hr, RerouteState.early, RerouteState.acting] at hsource hact
      · simp [hunc, RerouteState.early] at hsource
    · have hunc : target = .uncertain := hunc
      rcases htarget with rfl | rfl <;> cases hunc
  refine (h.write hwritten).setStage ?_
  split
  · rename_i hdone
    obtain ⟨rfl, hfinds⟩ := hdone
    obtain ⟨r, hr, rfl, hst⟩ := (finds_iff h.keyed).mp hfinds
    obtain ⟨a, ha, haid, hdevice, -⟩ := h.worker _ _ hw
    obtain rfl := h.eq_of_id ha hr haid
    refine ⟨_, mem_update.mpr ⟨a, ha, if_pos (by simpa using hst)⟩, rfl, hdevice, fun hbegun => ?_⟩
    obtain rfl := hstage hbegun
    exact ⟨rfl, Or.inr (Or.inr (Or.inl rfl))⟩
  · obtain ⟨r, hr, hid, hdevice, -⟩ := (h.write hwritten).worker id _
      ((congrFun (ExecState.write_workers reply _) id).trans hw)
    exact ⟨r, hr, hid, hdevice, fun hbegun => absurd hbegun (by simp [Stage.begun])⟩

/-- One command goes out. -/
theorem ExecInv.send (h : ExecInv s) (hw : s.workers id = some ⟨device, .running⟩) :
    ExecInv { s with sent := (id, (s.db.reroute id).map RerouteRow.state) :: s.sent } := by
  obtain ⟨r, hr, rfl, -, hbegun⟩ := h.worker id _ hw
  obtain ⟨hearly, hacc⟩ := hbegun rfl
  refine { h with sent := fun i hi => ?_, log := fun c hc => ?_ }
  · obtain ⟨c, hc, rfl⟩ := hi
    rcases List.mem_cons.mp hc with rfl | hc
    · exact ⟨r, hr, rfl, hearly, hacc⟩
    · exact h.sent _ ⟨c, hc, rfl⟩
  · rcases List.mem_cons.mp hc with rfl | hc
    · have hfind : s.db.reroute r.id = some r := find_eq_some h.keyed hr
      simp only [hfind, Option.map_some]
      constructor <;> intro heq <;> simp [Option.some.inj heq, RerouteState.early] at hearly
    · exact h.log c hc

/-- The verification, and the terminal state it decides. -/
theorem ExecInv.verify (h : ExecInv s) {before : Stage} (hw : s.workers id = some ⟨device, before⟩)
    (hbegun : before.begun = true) (requireVerification : Bool) (result : PortResult)
    (persisted verificationPersisted : Bool) (reply : Reply) (verdict : Verdict) :
    ExecInv (s.verify requireVerification id device result persisted verificationPersisted reply
      verdict) := by
  have hwritten : ExecInv
      { s with db := transition s.db id (· = .running) (.enter .verifying) } := by
    refine h.updateReroute (fun r hp => ?_) (fun r hp hun => ?_) (fun r _ _ _ hunc => ?_)
    · have hst : r.state = .running := by simpa using hp
      exact ⟨rfl, rfl, fun hearly => Bool.noConfusion hearly, fun _ => hst ▸ rfl⟩
    · exact Or.inl (Or.inl rfl)
    · cases hunc
  have hnow : ExecInv (s.write reply _) := h.write hwritten
  refine hnow.setStage ?_
  obtain ⟨r, hr, hid, hdevice, hallowed⟩ := hnow.worker id _
    ((congrFun (ExecState.write_workers reply _) id).trans hw)
  exact ⟨r, hr, hid, hdevice, fun _ => hallowed hbegun⟩

theorem FinalState.not_inFlight (st : FinalState) : st.state.inFlight = false := by cases st <;> rfl

theorem FinalState.not_early (st : FinalState) : st.state.early = false := by cases st <;> rfl

/-- A row takes a terminal state that was committed or reconciled. -/
theorem ExecInv.settle (h : ExecInv s) {p : RerouteRow → Bool} {st : FinalState}
    {effect : MutationEffect} (hknown : id ∈ s.committed ∨ id ∈ s.reconciled)
    (hlocked : ∀ r ∈ s.db.reroutes, r.id = id → st = .uncertain → Locked s.db r) :
    ExecInv { s with db := s.db.updateReroute id p (.settle st.state effect) } := by
  refine h.updateReroute (fun r _ => Advances.settle r ⟨st.not_early, st.not_inFlight⟩)
    (fun _ _ _ => Or.inr hknown) fun r hr hid _ hunc => hlocked r hr hid ?_
  cases st <;> first | rfl | cases hunc

/-- The terminal transaction. -/
theorem ExecInv.finalize (h : ExecInv s) {before : Stage}
    (hw : s.workers id = some ⟨device, before⟩) (st : FinalState) (effect : MutationEffect)
    (reply : Reply) : ExecInv (s.finalize id device st effect reply) := by
  obtain ⟨r, hr, rfl, rfl, -⟩ := h.worker id _ hw
  rw [ExecState.finalize]
  split
  · exact h.endWorker _
  · rename_i db hdb
    split
    · have hcommitted : ExecInv { s.endWorker r.id with committed := r.id :: s.committed } := by
        have hended := h.endWorker r.id
        refine { hended with worker := fun i w hi => ?_, sent := fun i hi => ?_ }
        · obtain ⟨a, ha, hid, hdevice, hbegun⟩ := hended.worker i w hi
          exact ⟨a, ha, hid, hdevice, fun hb => ⟨(hbegun hb).1, (hbegun hb).2.commit⟩⟩
        · obtain ⟨a, ha, hid, hearly, hacc⟩ := hended.sent i hi
          exact ⟨a, ha, hid, hearly, hacc.commit⟩
      have hmem : r.id ∈ r.id :: s.committed := List.mem_cons_self
      simp only [Rerouter.finalize] at hdb
      split_ifs at hdb with hfinds hunc <;> obtain rfl := Option.some.inj hdb
      · have hlock : ExecInv { { s.endWorker r.id with committed := r.id :: s.committed } with
            db := s.db.addLock (outcomeLock r.device r.id .autoUncertain) } :=
          hcommitted.addLock fun i hi => ⟨r, hr, by simpa [outcomeLock] using hi, rfl⟩
        refine hlock.settle (Or.inl hmem) fun a ha haid _ => ?_
        obtain rfl := h.eq_of_id ha hr haid
        exact ⟨_, List.mem_append_right _ (List.mem_singleton.mpr rfl), rfl, rfl, rfl⟩
      · exact hcommitted.settle (Or.inl hmem) fun _ _ _ hst => absurd hst hunc
    · exact h.endWorker _

/-- `reserve_slot` with its insertion. -/
theorem ExecInv.reserve (h : ExecInv s) (req : SlotRequest) {row : RerouteRow} (consume : Bool)
    (reply : Reply) (hid : row.id = s.db.reroutes.length) (hstate : row.state = .planned) :
    ExecInv (s.reserve req row consume reply) := by
  rw [ExecState.reserve]
  split
  · exact h
  split
  · exact h
  · rename_i db hdb
    obtain ⟨hreroutes, hlocks⟩ := insertReroute_tables hdb
    have hinserted : ExecInv { s with db } := h.insert hreroutes hlocks hid hstate
    split
    · refine hinserted.setStage ⟨row, ?_, rfl, rfl, fun hbegun => by cases hbegun⟩
      rw [hreroutes]
      exact List.mem_append_right _ (List.mem_singleton.mpr rfl)
    · exact h.write hinserted

/-- A worker goes on behind the transition to `running`. -/
theorem ExecInv.proceed (h : ExecInv s) {before stage : Stage}
    (hw : s.workers id = some ⟨device, before⟩) (hbegun : before.begun = true) :
    ExecInv (s.setStage id device stage) := by
  obtain ⟨r, hr, hid, hdevice, hallowed⟩ := h.worker id _ hw
  exact h.setStage ⟨r, hr, hid, hdevice, fun _ => hallowed hbegun⟩

/-! ### The other parties -/

/-- The rows a list was read from are still there. -/
def Holds (db : Db) (rows : List RerouteRow) : Prop :=
  ∀ row ∈ rows, ∃ r ∈ db.reroutes, r.id = row.id ∧ r.device = row.device

theorem Holds.transition {db : Db} {rows : List RerouteRow} (h : Holds db rows) (id : ℕ)
    (p : RerouteState → Bool) (st : RerouteState) (effect : MutationEffect) :
    Holds (transition db id p (.settle st effect)) rows := by
  intro row hrow
  obtain ⟨r, hr, hid, hdevice⟩ := h row hrow
  refine ⟨_, mem_update.mpr ⟨r, hr, rfl⟩, ?_⟩
  split
  · exact ⟨hid, hdevice⟩
  · exact ⟨hid, hdevice⟩

/-- A supervisor settles a row that its worker left in flight. -/
theorem ExecInv.quarantineInterrupted (h : ExecInv s) {row : RerouteRow}
    (hrow : ∃ r ∈ s.db.reroutes, r.id = row.id ∧ r.device = row.device) :
    ExecInv { s with db := quarantineInterrupted s.db row } := by
  rw [Rerouter.quarantineInterrupted]
  split
  · rename_i hany
    obtain ⟨l, hl, hlock⟩ := List.any_eq_true.mp hany
    simp only [Bool.and_eq_true, decide_eq_true_eq, Bool.not_eq_true'] at hlock
    refine h.updateReroute (fun r _ => Advances.settle r ⟨rfl, rfl⟩)
      (fun r _ _ => Or.inl (Or.inr ⟨rfl, rfl⟩)) fun r hr hid _ _ => ?_
    -- the lock it finds is the device's own, whatever made it
    obtain ⟨a, ha, haid, hscope⟩ := h.lock l hl row.id hlock.1
    obtain rfl := h.eq_of_id ha hr (haid.trans hid.symm)
    exact ⟨l, hl, by rw [hlock.1, haid], hscope, hlock.2⟩
  · exact h.quarantine hrow

theorem ExecInv.foldl_quarantineInterrupted (rows : List RerouteRow) (h : ExecInv s)
    (hrows : Holds s.db rows) :
    ExecInv { s with db := rows.foldl Rerouter.quarantineInterrupted s.db } := by
  induction rows generalizing s with
  | nil => exact h
  | cons row rows ih =>
    have hrow := h.quarantineInterrupted (hrows row (by simp))
    refine ih hrow ?_
    have hrest : Holds s.db rows := fun a ha => hrows a (List.mem_cons_of_mem _ ha)
    have hsettled := hrest.transition row.id RerouteState.inFlight .uncertain .unknown
    simp only [Rerouter.quarantineInterrupted]
    split
    · exact hsettled
    · exact hsettled

theorem ExecInv.quarantineChanged (h : ExecInv s) {db : Db}
    (hdb : quarantineChanged s.db id = some db) : ExecInv { s with db } := by
  simp only [Rerouter.quarantineChanged] at hdb
  split at hdb
  · cases hdb
  · rename_i row hrow
    split_ifs at hdb
    obtain rfl := Option.some.inj hdb
    have hlocked : ExecInv { s with
        db := (transition s.db id (· = .succeeded) (.settle .uncertain .unknown)).addLock
          (outcomeLock row.device id .autoUncertain) } :=
      h.quarantine ⟨row, (mem_of_find hrow).1, (mem_of_find hrow).2, rfl⟩
    exact hlocked.congr rfl rfl

theorem ExecInv.quarantineChangedActions (h : ExecInv s) (applied : List ℕ) {db : Db}
    (hdb : quarantineChangedActions s.db applied = some db) : ExecInv { s with db } := by
  induction applied generalizing s with
  | nil =>
    obtain rfl : s.db = db := by simpa [Rerouter.quarantineChangedActions] using hdb
    exact h
  | cons id applied ih =>
    simp only [Rerouter.quarantineChangedActions, List.foldlM_cons, Option.bind_eq_bind,
      Option.bind_eq_some_iff] at hdb
    obtain ⟨next, hnext, hrest⟩ := hdb
    have hone : ExecInv { s with db := next } := h.quarantineChanged hnext
    exact ih (s := { s with db := next }) hone hrest

/-- An operator reconciles a reroute. -/
theorem ExecInv.reconcile (h : ExecInv s) (result : ReconciliationResult) :
    ExecInv (s.reconcile id result) := by
  rw [ExecState.reconcile]
  split
  · exact h
  rename_i db hdb
  simp only [reconcileUncertain] at hdb
  split at hdb
  · cases hdb
  rename_i row hrow
  obtain ⟨hmem, rfl⟩ := mem_of_find hrow
  split_ifs at hdb with hready
  split at hdb
  · rename_i hnone
    obtain rfl := Option.some.inj hdb
    cases result <;> first | exact h | cases hnone
  · rename_i st effect action hsome
    obtain rfl := Option.some.inj hdb
    have hst : st ≠ .uncertain := by
      cases result <;> simp [ReconciliationResult.outcome] at hsome <;> simp [← hsome.1]
    have hconflict : result ≠ .conflict := by
      rintro rfl
      cases hsome
    simp only [hconflict, if_false]
    have hreconciled : ExecInv { s with reconciled := row.id :: s.reconciled } := by
      refine { h with worker := fun i w hi => ?_, sent := fun i hi => ?_ }
      · obtain ⟨a, ha, hid, hdevice, hbegun⟩ := h.worker i w hi
        exact ⟨a, ha, hid, hdevice, fun hb => ⟨(hbegun hb).1, (hbegun hb).2.reconcile⟩⟩
      · obtain ⟨a, ha, hid, hearly, hacc⟩ := h.sent i hi
        exact ⟨a, ha, hid, hearly, hacc.reconcile⟩
    have hsettled : ExecInv { { s with reconciled := row.id :: s.reconciled } with
        db := (s.db.updateReroute row.id RerouteRow.reconcilable
          (.settle st.state effect)).updateAction
          row.id action effect } :=
      (hreconciled.settle (Or.inr List.mem_cons_self) fun _ _ _ hunc =>
          absurd hunc hst).congr rfl rfl
    refine hsettled.clearLocks fun r hr hunc l hl hlr _ => ?_
    -- only the locks of the reconciled row are cleared, and it is not uncertain any more
    simp only [Bool.and_eq_false_imp, decide_eq_true_eq]
    intro hlrow
    have hrow' : r.id = row.id := Option.some.inj (hlr.symm.trans hlrow)
    have hself : row.settle st.state effect ∈
        (s.db.updateReroute row.id RerouteRow.reconcilable (.settle st.state effect)).reroutes :=
      mem_update.mpr ⟨row, hmem, if_pos (by simp [hready])⟩
    obtain rfl := hsettled.eq_of_id hr hself hrow'
    cases st <;> first | exact absurd rfl hst | cases hunc

/-! ### Startup -/

/-- One transaction of the recovery. -/
theorem ExecInv.recoverStep (h : ExecInv s) (reply : ℕ → Reply) (failures : ℕ) {row : RerouteRow}
    (hrow : ∃ r ∈ s.db.reroutes, r.id = row.id ∧ r.device = row.device) :
    ExecInv { s with db := (recoverStep reply (s.db, failures) row).1 } := by
  rw [Rerouter.recoverStep, recoverOne]
  split
  · exact h
  · rename_i db hdb
    split_ifs at hdb
    obtain rfl := Option.some.inj hdb
    simp only
    split
    · exact h.quarantine hrow
    · exact h

theorem Holds.recoverStep {db : Db} {rows : List RerouteRow} (h : Holds db rows) (reply : ℕ → Reply)
    (failures : ℕ) (row : RerouteRow) : Holds (recoverStep reply (db, failures) row).1 rows := by
  rw [Rerouter.recoverStep, recoverOne]
  split
  · exact h
  · rename_i next hnext
    split_ifs at hnext
    obtain rfl := Option.some.inj hnext
    simp only
    split
    · exact h.transition row.id RerouteState.inFlight .uncertain .unknown
    · exact h

theorem ExecInv.foldl_recoverStep (reply : ℕ → Reply) (rows : List RerouteRow) (failures : ℕ)
    (h : ExecInv s) (hrows : Holds s.db rows) :
    ExecInv { s with db := (rows.foldl (Rerouter.recoverStep reply) (s.db, failures)).1 } := by
  induction rows generalizing s failures with
  | nil => exact h
  | cons row rows ih =>
    have hrow := h.recoverStep reply failures (hrows row (by simp))
    have hrest : Holds s.db rows := fun a ha => hrows a (List.mem_cons_of_mem _ ha)
    exact ih (s := { s with db := (Rerouter.recoverStep reply (s.db, failures) row).1 }) _ hrow
      (hrest.recoverStep reply failures row)

/-- A round of the recovery takes no failure back. -/
theorem le_foldl_recoverStep (reply : ℕ → Reply) (rows : List RerouteRow) (acc : Db × ℕ) :
    acc.2 ≤ (rows.foldl (recoverStep reply) acc).2 := by
  induction rows generalizing acc with
  | nil => exact le_rfl
  | cons row rows ih =>
    refine le_trans ?_ (ih _)
    rw [recoverStep]
    split
    · exact Nat.le_succ _
    · simp only
      split <;> omega

/-- A round that does not fail leaves its row out of flight. -/
theorem recoverStep_done {reply : ℕ → Reply} {db : Db} {failures : ℕ} {row : RerouteRow}
    (h : (recoverStep reply (db, failures) row).2 ≤ failures) :
    (recoverStep reply (db, failures) row).1.reroutes =
      (transition db row.id RerouteState.inFlight (.settle .uncertain .unknown)).reroutes := by
  rw [recoverStep] at h ⊢
  split
  · rename_i hnone
    simp only [hnone] at h
    omega
  · rename_i next hnext
    simp only [hnext] at h
    have hdone : reply row.id = .done := by
      by_contra hne
      simp only [hne, if_false] at h
      omega
    rw [recoverOne] at hnext
    split_ifs at hnext
    obtain rfl := Option.some.inj hnext
    simp [hdone, Reply.committed, Db.addLock]

/-- **A recovery without a failure leaves nothing in flight.** -/
theorem foldl_recoverStep_done {reply : ℕ → Reply} (rows : List RerouteRow) {db : Db} {failures : ℕ}
    (hcover : ∀ r ∈ db.reroutes, r.state.inFlight = true → ∃ row ∈ rows, row.id = r.id)
    (h : (rows.foldl (recoverStep reply) (db, failures)).2 ≤ failures) :
    ∀ r ∈ (rows.foldl (recoverStep reply) (db, failures)).1.reroutes, r.state.inFlight = false := by
  induction rows generalizing db failures with
  | nil =>
    intro r hr
    refine Bool.eq_false_iff.mpr fun hflight => ?_
    obtain ⟨row, hrow, -⟩ := hcover r hr hflight
    simp at hrow
  | cons row rows ih =>
    -- failures only grow, so no row of the pass failed, this one included
    have hone : (recoverStep reply (db, failures) row).2 ≤ failures :=
      le_trans (le_foldl_recoverStep reply rows _) h
    have hmono : failures ≤ (recoverStep reply (db, failures) row).2 :=
      le_foldl_recoverStep reply [row] (db, failures)
    have hreroutes := recoverStep_done hone
    rw [List.foldl_cons] at h ⊢
    rcases hstep : recoverStep reply (db, failures) row with ⟨next, n⟩
    rw [hstep] at h hone hmono hreroutes
    refine ih (fun r hr hflight => ?_) (le_trans h hmono)
    rw [hreroutes] at hr
    obtain ⟨a, ha, rfl⟩ := mem_update.mp hr
    -- the row of this step is settled; any other is one the rest of the pass still meets
    split at hflight
    · cases hflight
    · rename_i hother
      obtain ⟨b, hb, hid⟩ := hcover a ha hflight
      rw [if_neg hother]
      rcases List.mem_cons.mp hb with rfl | hb
      · exact absurd (by simp [hid, hflight]) hother
      · exact ⟨b, hb, hid⟩

/-- `recover_on_startup` keeps the invariant, whether it completes or not. -/
theorem ExecInv.recoverOnStartup (h : ExecInv s) (reply : ℕ → Reply) :
    ExecInv { s with db := (recoverOnStartup reply s.db).1 } :=
  h.foldl_recoverStep reply _ 0 fun row hrow => ⟨row, (List.mem_filter.mp hrow).1, rfl, rfl⟩

/-- It keeps the rows. -/
theorem holds_recoverOnStartup (reply : ℕ → Reply) (db : Db) :
    Holds (recoverOnStartup reply db).1 db.reroutes := by
  have hfold : ∀ (rows : List RerouteRow) (acc : Db × ℕ), Holds acc.1 db.reroutes →
      Holds (rows.foldl (recoverStep reply) acc).1 db.reroutes := by
    intro rows
    induction rows with
    | nil => exact fun _ h => h
    | cons row rows ih => exact fun acc h => ih _ (h.recoverStep reply acc.2 row)
  exact hfold _ (db, 0) fun r hr => ⟨r, hr, rfl, rfl⟩

theorem recoverOnStartup_done {reply : ℕ → Reply} {db : Db}
    (h : (recoverOnStartup reply db).2 = 0) :
    ∀ r ∈ (recoverOnStartup reply db).1.reroutes, r.state.inFlight = false :=
  foldl_recoverStep_done _ (fun r hr hflight => ⟨r, List.mem_filter.mpr ⟨hr, hflight⟩, rfl⟩)
    (le_of_eq h)

/-! ### Runs -/

/-- One event of a serving controller keeps the invariant. -/
theorem ExecInv.serve (requireVerification : Bool) (h : ExecInv s) (e : ServeEvent) :
    ExecInv (serveStep requireVerification s e) := by
  cases e with
  | reserve req bundle trigger mode createdAt consume reply =>
    exact h.reserve req consume reply rfl rfl
  | abortReserved id reply =>
    simp only [serveStep]
    split
    · refine (h.write (h.failEarly (f := .settle .failed .noop) (fun st hst => ?_) (fun _ => rfl)
        (fun _ => rfl) fun _ => rfl)).endWorker id
      rw [decide_eq_true_eq.mp hst]
      rfl
    · exact h
  | toPending id reply =>
    simp only [serveStep]
    split
    · rename_i hw
      exact h.advance hw rfl (Or.inl rfl) fun hbegun => by cases hbegun
    · exact h
  | toRunning id reply =>
    simp only [serveStep]
    split
    · rename_i hw
      exact h.advance hw rfl (Or.inr rfl) fun _ => rfl
    · exact h
  | abort id reply =>
    simp only [serveStep]
    split
    · exact (h.write (h.failEarly (f := .settle .failed .noop) (fun _ hst => hst) (fun _ => rfl)
        (fun _ => rfl) fun _ => rfl)).endWorker id
    · exact h
  | send id =>
    simp only [serveStep]
    split
    · rename_i hw
      exact h.send hw
    · exact h
  | portReturns id result persisted =>
    simp only [serveStep]
    split
    · rename_i hw
      split
      · exact h.proceed hw rfl
      · exact h.proceed hw rfl
    · exact h
  | verify id reply verdict persisted =>
    simp only [serveStep]
    split
    · rename_i hw
      exact h.verify hw rfl requireVerification _ _ _ _ _
    · exact h
  | finalize id reply =>
    simp only [serveStep]
    split
    · rename_i hw
      exact h.finalize hw _ _ reply
    · exact h
  | workerEnds id => exact h.endWorker id
  | cancel id =>
    exact h.failEarly (f := .enter .failed) (fun _ hst => hst) (fun _ => rfl) (fun _ => rfl)
      fun _ => rfl
  | quarantineInterrupted bundle =>
    have hrows := h.foldl_quarantineInterrupted
      (s.db.reroutes.filter fun r => decide (r.bundle = some bundle) && r.state.inFlight)
      fun row hrow => ⟨row, (List.mem_filter.mp hrow).1, rfl, rfl⟩
    exact hrows.congr rfl rfl
  | quarantineChanged applied =>
    simp only [serveStep]
    rcases hdb : Rerouter.quarantineChangedActions s.db applied with _ | db
    · exact h
    · exact h.quarantineChangedActions applied hdb
  | reconcile id result => exact h.reconcile result
  | lockGlobal => exact h.addLock fun id hid => by cases hid
  | clearGlobal => exact h.clearLocks fun r _ _ l _ _ hscope => by simp [hscope]
  | elsewhere bundles actions windows maintenance => exact h.congr rfl rfl

/-- **One event keeps the invariant.** -/
theorem ExecInv.step (requireVerification : Bool) (h : ExecInv s) (e : ExecEvent) :
    ExecInv (execStep requireVerification s e) := by
  cases e with
  | serve e =>
    simp only [execStep]
    split
    · exact h.serve requireVerification e
    · exact h
  | crash => exact { h with worker := fun id w hw => by cases hw }
  | restart reply =>
    have hrecovered := h.recoverOnStartup reply
    simp only [execStep]
    split_ifs with hup hdone
    · exact h
    · refine { hrecovered with recovered := fun i hi => ?_ }
      obtain ⟨r, hr, rfl⟩ := List.mem_map.mp hi
      obtain ⟨r', hr', hid, -⟩ := holds_recoverOnStartup reply s.db r hr
      exact ⟨r', hr', hid, recoverOnStartup_done hdone r' hr'⟩
    · exact hrecovered

theorem ExecInv.init : ExecInv {} where
  keyed := List.nodup_nil
  known r hr := by cases hr
  worker id w hw := by cases hw
  sent id hid := by
    obtain ⟨c, hc, -⟩ := hid
    cases hc
  lock l hl := by cases hl
  recovered id hid := by cases hid
  locked r hr := by cases hr
  log c hc := by cases hc

/-- No action is reserved on a device while a reroute on it is not proved. -/
theorem ExecInv.reserveSlot_error (h : ExecInv s) {r : RerouteRow} (hr : r ∈ s.db.reroutes)
    (hun : r.Unproven) {req : SlotRequest} (hreq : req.device = r.device) :
    ∃ reason, reserveSlot s.db req = .error reason := by
  rcases hun with hact | ⟨hunc, -⟩
  · refine reserveSlot_of_running (List.any_eq_true.mpr ⟨r, hr, ?_⟩)
    have hflight : r.state.inFlight = true := by
      cases hst : r.state <;> simp [hst, RerouteState.acting, RerouteState.inFlight] at hact ⊢
    simp [hreq, hflight]
  · obtain ⟨l, hl, -, hscope, hcleared⟩ := h.locked r hr hunc
    refine reserveSlot_of_blocked (List.any_eq_true.mpr ⟨l, hl, ?_⟩)
    simp [hreq, hscope, hcleared]

/-- **Crash safety.** In every state of every run, with the process stopping anywhere and any
statement failing or going unacknowledged: no command was sent while its row was `planned` or
`pending`; and a reroute of which a command was sent, whose terminal transaction did not commit
and which was not reconciled, lets no action be reserved on its device, and after a startup
recovery is uncertain, of unknown effect, and its device locked. -/
theorem crashSafe (requireVerification : Bool) (es : List ExecEvent) :
    let s := Run.run (execStep requireVerification) {} es
    (∀ c ∈ s.sent, c.2 ≠ some .planned ∧ c.2 ≠ some .pending) ∧
      ∀ r ∈ s.db.reroutes, s.Sent r.id → r.id ∉ s.committed → r.id ∉ s.reconciled →
        (∀ req : SlotRequest, req.device = r.device →
          ∃ reason, reserveSlot s.db req = .error reason) ∧
          (r.id ∈ s.recovered → r.state = .uncertain ∧ r.effect = .unknown ∧ Locked s.db r) := by
  intro s
  have h : ExecInv s := Run.invariant (fun _ e hinv => hinv.step requireVerification e)
    es ExecInv.init
  refine ⟨h.log, fun r hr hsent hcom hrec => ?_⟩
  obtain ⟨a, ha, hid, -, hacc⟩ := h.sent r.id hsent
  obtain rfl := h.eq_of_id ha hr hid
  have hun : a.Unproven := (hacc.resolve_left hcom).resolve_left hrec
  refine ⟨fun req hreq => h.reserveSlot_error hr hun hreq, fun hrecovered => ?_⟩
  obtain ⟨b, hb, hbid, hflight⟩ := h.recovered a.id hrecovered
  obtain rfl := h.eq_of_id hb hr hbid
  rcases hun with hact | hunc
  · cases hst : b.state <;> simp [hst, RerouteState.acting, RerouteState.inFlight] at hact hflight
  · exact ⟨hunc.1, hunc.2, h.locked b hr hunc.1⟩

/-- The process stops behind the first command of an action on device 7, and starts again. -/
def crashRun : List ExecEvent :=
  [.serve (.reserve ⟨7, none, none⟩ none .manual .routing 0 false .done),
    .serve (.toPending 0 .done), .serve (.toRunning 0 .done), .serve (.send 0), .crash,
    .restart fun _ => .done]

/-- The device admits nothing then. -/
theorem crashRun_crashSafe :
    (Run.run (execStep true) {} crashRun).sent = [(0, some .running)] ∧
      ∃ reason, reserveSlot (Run.run (execStep true) {} crashRun).db ⟨7, none, none⟩ =
        .error reason :=
  ⟨by decide +kernel, ((crashSafe true crashRun).2
    ⟨0, 7, none, none, .manual, .routing, 0, .uncertain, .unknown, none⟩ (by decide +kernel)
    ⟨(0, some .running), by decide +kernel, rfl⟩ (by decide +kernel) (by decide +kernel)).1
      ⟨7, none, none⟩ rfl⟩

end Rerouter
