import Rerouter.ExecutorRows

/-!
# One action in flight a device

`reserve_slot` is not one statement. It reads six gates of its device, each in a statement of its
own, and inserts a row where none refuses, while operators, supervisors, workers and the other
reservations go on. What holds it together is an advisory lock of the device, which
`reserve_and_persist` takes before the first read and gives back behind the last write, and which
the database takes back where the connection of the lock ends.

| Step | Source |
|---|---|
| `acquire` | `advisory::acquire("30:reroute:device:N")` |
| `check` | one read of `reserve_slot` |
| `insert` | the transaction of `insert_reroute` |
| `release`, `vanish` | the lock given back, or its connection gone |
| `serve`, `crash`, `restart` | the executor, as `Rerouter.execStep` has it |

The reads are those of `Rerouter.reserveSlot` (`Rerouter.Slots.reserveSlot_eq`), which looks at them
all at once. Read one by one they are good enough: no two actions of a device are ever in flight at
once, and of the inverses of an action at most one is in flight or stands
(`Rerouter.Slots.one_in_flight`).
-/

namespace Rerouter

open Table

namespace Slots

/-! ### The gates -/

/-- The reads of `reserve_slot`. -/
inductive Gate where
  | maintenance | locks | window | running | uncertain | inverse
deriving DecidableEq

/-- Their order. -/
def slotGates : List Gate := [.maintenance, .locks, .window, .running, .uncertain, .inverse]

namespace Gate

/-- What a gate finds against an action. -/
def refuses (db : Db) (req : SlotRequest) : Gate → Bool
  | maintenance => db.maintenance
  | locks => deviceBlocked db req.device
  | window => db.windows.any fun w => w.device = req.device && req.owner ≠ some w.owner
  | running => runningOnDevice db req.device
  | uncertain => hasUncertain db req.device
  | inverse => req.rollbackOf.any (inverseExists db)

/-- The refusal of a gate. -/
def reason : Gate → BlockReason
  | maintenance => .maintenanceLock
  | locks => .deviceLocked
  | window => .deviceLocked
  | running => .alreadyRunning
  | uncertain => .unresolvedUncertain
  | inverse => .alreadyRunning

/-- The refusal of a gate that could not be read. The counts of `running_on_device`,
`has_uncertain` and of the inverses are one then. -/
def faultReason (error : String) : Gate → BlockReason
  | running => .alreadyRunning
  | uncertain => .unresolvedUncertain
  | inverse => .alreadyRunning
  | _ => .gateReadFailed error

/-- One read. -/
def check (db : Db) (req : SlotRequest) (fault : Option String) (g : Gate) : Option BlockReason :=
  match fault with
  | some error => some (g.faultReason error)
  | none => if g.refuses db req then some g.reason else none

theorem refuses_of_check {db : Db} {req : SlotRequest} {fault : Option String} {g : Gate}
    (h : g.check db req fault = none) : g.refuses db req = false := by
  unfold check at h
  cases fault with
  | some error => cases h
  | none =>
    simp only at h
    split_ifs at h with hrefuses
    exact Bool.eq_false_iff.mpr hrefuses

end Gate

/-- **`reserve_slot` reads the gates in their order.** -/
theorem reserveSlot_eq (db : Db) (req : SlotRequest) :
    reserveSlot db req =
      match slotGates.findSome? (Gate.check db req none) with
      | none => .ok ()
      | some reason => .error reason := by
  simp only [slotGates, List.findSome?_cons, List.findSome?_nil, Gate.check, Gate.refuses,
    Gate.reason, reserveSlot]
  split_ifs <;> simp only [*, if_true, if_false, Bool.false_eq_true]

/-! ### The system -/

/-- How far a reservation is. -/
inductive Phase where
  /-- The gates it has not read yet. -/
  | checking (left : List Gate)
  /-- It is refused or done, and still has the lock. -/
  | leaving (outcome : Except BlockReason ℕ)

/-- A reservation under the lock of its device. -/
structure Reservation where
  req : SlotRequest
  phase : Phase

/-- The executor, the locks and the reservations. -/
structure State where
  exec : ExecState := {}
  /-- The reservation that has the lock of a device. -/
  holder : ℕ → Option ℕ := fun _ => none
  reservations : ℕ → Option Reservation := fun _ => none

/-- What may happen. -/
inductive Event where
  | acquire (i : ℕ) (req : SlotRequest)
  | check (i : ℕ) (fault : Option String)
  | insert (i : ℕ) (bundle : Option ℕ) (trigger : TriggerType) (mode : VerificationMode)
      (createdAt : ℕ) (consume : Bool) (reply : Reply) (error : String)
  | release (i : ℕ)
  /-- The reservation ends where it is, and the connection of its lock with it. That the connection
  alone ends, and the reservation goes on without its lock, is no event. -/
  | vanish (i : ℕ)
  | serve (e : ServeEvent)
  | crash
  | restart (reply : ℕ → Reply)

/-- The step of the executor that makes a reservation of one piece. -/
def reserves : ServeEvent → Bool
  | .reserve .. => true
  | _ => false

/-- `insert_reroute`, and what its caller makes of the reply, or of its `error`. -/
def insertRow (s : ExecState) (row : RerouteRow) (consume : Bool) (reply : Reply)
    (error : String) : ExecState × Except BlockReason ℕ :=
  match insertReroute s.db row consume with
  | .error reason => (s, .error reason)
  | .ok db =>
    if reply = .done then ({ s with db }.setStage row.id row.device .reserved, .ok row.id)
    else (s.write reply db, .error (.persistFailed error))

namespace State

variable (s : State)

/-- A reservation goes on. -/
def enter (i : ℕ) (req : SlotRequest) (phase : Phase) : State :=
  { s with reservations := Function.update s.reservations i (some ⟨req, phase⟩) }

/-- It gets the lock of a device. -/
def grant (i device : ℕ) : State := { s with holder := Function.update s.holder device (some i) }

/-- A reservation ends, and its lock is free. -/
def leave (i device : ℕ) : State :=
  { s with
    holder := Function.update s.holder device none
    reservations := Function.update s.reservations i none }

variable {s} {i j device : ℕ} {req : SlotRequest} {phase : Phase}

@[simp] theorem reservations_enter_self :
    (s.enter i req phase).reservations i = some ⟨req, phase⟩ := Function.update_self _ _ _

theorem reservations_enter_of_ne (h : j ≠ i) :
    (s.enter i req phase).reservations j = s.reservations j := Function.update_of_ne h _ _

@[simp] theorem reservations_leave_self : (s.leave i device).reservations i = none :=
  Function.update_self _ _ _

theorem reservations_leave_of_ne (h : j ≠ i) :
    (s.leave i device).reservations j = s.reservations j := Function.update_of_ne h _ _

end State

/-- One event. An event that is not enabled leaves the state as it is. -/
def step (requireVerification : Bool) (s : State) : Event → State
  | .acquire i req =>
    if s.exec.up ∧ (s.reservations i).isNone ∧ (s.holder req.device).isNone then
      (s.enter i req (.checking slotGates)).grant i req.device
    else s
  | .check i fault =>
    match s.reservations i with
    | some ⟨req, .checking (g :: left)⟩ =>
      s.enter i req (match g.check s.exec.db req fault with
        | none => .checking left
        | some reason => .leaving (.error reason))
    | _ => s
  | .insert i bundle trigger mode createdAt consume reply error =>
    match s.reservations i with
    | some ⟨req, .checking []⟩ =>
      let row := newReroute s.exec.db req bundle trigger mode createdAt
      { s.enter i req (.leaving (insertRow s.exec row consume reply error).2) with
        exec := (insertRow s.exec row consume reply error).1 }
    | _ => s
  | .release i =>
    match s.reservations i with
    | some ⟨req, .leaving _⟩ => s.leave i req.device
    | _ => s
  | .vanish i =>
    match s.reservations i with
    | some r => s.leave i r.req.device
    | none => s
  | .serve e =>
    if reserves e then s
    else { s with exec := execStep requireVerification s.exec (.serve e) }
  | .crash => { exec := execStep requireVerification s.exec .crash }
  | .restart reply => { s with exec := execStep requireVerification s.exec (.restart reply) }

/-! ### What the executor does to a row -/

/-- The row of an action that is in flight or has succeeded, and not by a reconciliation. -/
def Standing (s : ExecState) (r : RerouteRow) : Prop :=
  (r.state.inFlight = true ∨ r.state = .succeeded) ∧ r.id ∉ s.reconciled

/-- A row goes on. -/
structure Carried (s s' : ExecState) (r r' : RerouteRow) : Prop where
  device : r'.device = r.device
  rollbackOf : r'.rollbackOf = r.rollbackOf
  inFlight : r'.state.inFlight = true → r.state.inFlight = true
  standing : Standing s' r' → Standing s r

section Devices

/-- The devices of the rows. -/
def devices (db : Db) : List ℕ := db.reroutes.map RerouteRow.device

variable {s : ExecState} {db : Db} {id : ℕ}

@[simp] theorem devices_updateReroute {p : RerouteRow → Bool} {f : RerouteRow → RerouteRow}
    (hf : ∀ r, (f r).device = r.device) : devices (db.updateReroute id p f) = devices db :=
  map_key_update hf

@[simp] theorem devices_settle {p : RerouteState → Bool} {state : RerouteState}
    {effect : MutationEffect} : devices (transition db id p (.settle state effect)) = devices db :=
  devices_updateReroute fun _ => rfl

@[simp] theorem devices_enter {p : RerouteState → Bool} {state : RerouteState} :
    devices (transition db id p (.enter state)) = devices db :=
  devices_updateReroute fun _ => rfl

theorem devices_write {reply : Reply} (h : devices db = devices s.db) :
    devices (s.write reply db).db = devices s.db := by
  rw [ExecState.write]
  split_ifs
  · exact h
  · rfl

/-- A loop of statements none of which moves a row to another device. -/
theorem devices_foldl {α β : Type} {f : β → α → β} {tables : β → Db}
    (hf : ∀ b a, devices (tables (f b a)) = devices (tables b)) (l : List α) (b : β) :
    devices (tables (l.foldl f b)) = devices (tables b) := by
  induction l generalizing b with
  | nil => rfl
  | cons a l ih => exact (ih (f b a)).trans (hf b a)

theorem devices_finalize {device : ℕ} {state : FinalState} {effect : MutationEffect} {next : Db}
    (h : finalize db id device state effect = some next) : devices next = devices db := by
  unfold finalize at h
  split_ifs at h <;> obtain rfl := Option.some.inj h <;> exact devices_settle

theorem devices_quarantineInterrupted (row : RerouteRow) :
    devices (quarantineInterrupted db row) = devices db := by
  unfold quarantineInterrupted
  dsimp only
  split_ifs <;> exact devices_settle

theorem devices_quarantineChanged {next : Db} (h : quarantineChanged db id = some next) :
    devices next = devices db := by
  unfold quarantineChanged at h
  split at h
  · cases h
  · split_ifs at h
    obtain rfl := Option.some.inj h
    change devices (transition db id (· = .succeeded) (.settle .uncertain .unknown)) = _
    exact devices_settle

theorem devices_quarantineChangedActions {applied : List ℕ} {next : Db}
    (h : quarantineChangedActions db applied = some next) : devices next = devices db := by
  induction applied generalizing db with
  | nil =>
    obtain rfl : db = next := by simpa [quarantineChangedActions] using h
    rfl
  | cons id applied ih =>
    simp only [quarantineChangedActions, List.foldlM_cons, Option.bind_eq_bind,
      Option.bind_eq_some_iff] at h
    obtain ⟨mid, hmid, hrest⟩ := h
    exact (ih hrest).trans (devices_quarantineChanged hmid)

theorem devices_reconcile {result : ReconciliationResult} :
    devices (s.reconcile id result).db = devices s.db := by
  unfold ExecState.reconcile
  split
  · rfl
  next next hnext =>
    show devices next = _
    unfold reconcileUncertain at hnext
    split at hnext
    · cases hnext
    split_ifs at hnext
    split at hnext
    · obtain rfl := Option.some.inj hnext
      rfl
    · obtain rfl := Option.some.inj hnext
      exact devices_updateReroute fun _ => rfl

theorem devices_recoverStep (reply : ℕ → Reply) (acc : Db × ℕ) (row : RerouteRow) :
    devices (recoverStep reply acc row).1 = devices acc.1 := by
  unfold recoverStep
  split
  · rfl
  next next hnext =>
    have hdevices : devices next = devices acc.1 := by
      unfold recoverOne at hnext
      split_ifs at hnext
      obtain rfl := Option.some.inj hnext
      exact devices_settle
    dsimp only
    split_ifs
    · exact hdevices
    · rfl

variable (requireVerification : Bool)

theorem devices_serve (e : ServeEvent) (he : reserves e = false) :
    devices (serveStep requireVerification s e).db = devices s.db := by
  cases e with
  | reserve => cases he
  | abortReserved id reply =>
    simp only [serveStep]
    split
    · exact devices_write devices_settle
    · rfl
  | toPending id reply =>
    simp only [serveStep]
    split
    · exact devices_write devices_enter
    · rfl
  | toRunning id reply =>
    simp only [serveStep]
    split
    · exact devices_write devices_enter
    · rfl
  | abort id reply =>
    simp only [serveStep]
    split
    · exact devices_write devices_settle
    · rfl
  -- what the worker does outside the database takes no reservation
  | send id =>
    simp only [serveStep]
    split <;> rfl
  | portReturns id result persisted =>
    simp only [serveStep]
    split
    · split_ifs <;> rfl
    · rfl
  | verify id reply verdict persisted =>
    simp only [serveStep]
    split
    · exact devices_write devices_enter
    · rfl
  | finalize id reply =>
    simp only [serveStep]
    split
    · unfold ExecState.finalize
      split
      · rfl
      next next hnext =>
        split_ifs
        · exact devices_finalize hnext
        · rfl
    · rfl
  | workerEnds id => rfl
  | cancel id => exact devices_enter
  | quarantineInterrupted bundle =>
    exact @devices_foldl RerouteRow Db quarantineInterrupted id
      (fun _ row => devices_quarantineInterrupted row) _ _
  | quarantineChanged applied =>
    simp only [serveStep]
    cases hnext : quarantineChangedActions s.db applied with
    | none => rfl
    | some next => exact devices_quarantineChangedActions hnext
  | reconcile id result => exact devices_reconcile
  | lockGlobal => rfl
  | clearGlobal => rfl
  | elsewhere => rfl

/-- No step of the executor moves a row to another device. -/
theorem devices_execStep (e : ExecEvent) (he : ∀ e', e = .serve e' → reserves e' = false) :
    devices (execStep requireVerification s e).db = devices s.db := by
  cases e with
  | serve e =>
    simp only [execStep]
    split_ifs
    · exact devices_serve requireVerification e (he e rfl)
    · rfl
  | crash => rfl
  | restart reply =>
    have hrecovered : devices (recoverOnStartup reply s.db).1 = devices s.db :=
      @devices_foldl RerouteRow (Db × ℕ) (recoverStep reply) Prod.fst
        (devices_recoverStep reply) _ _
    simp only [execStep]
    split_ifs
    · rfl
    · exact hrecovered
    · exact hrecovered

end Devices

section Carried

variable {s s' : ExecState} {r r' : RerouteRow} {id : ℕ}

/-- A row that stays as it is. -/
theorem Carried.refl (hrec : s.reconciled ⊆ s'.reconciled) (r : RerouteRow) : Carried s s' r r where
  device := rfl
  rollbackOf := rfl
  inFlight h := h
  standing h := ⟨h.1, fun hin => h.2 (hrec hin)⟩

/-- A row that comes to rest and does not stand. -/
theorem Carried.rest (hkeeps : r'.device = r.device ∧ r'.rollbackOf = r.rollbackOf)
    (hrest : r'.state.inFlight = false) (hfalls : ¬Standing s' r') : Carried s s' r r' where
  device := hkeeps.1
  rollbackOf := hkeeps.2
  inFlight h := absurd (hrest.symm.trans h) Bool.false_ne_true
  standing h := absurd h hfalls

theorem Carried.of_flies (hrec : s.reconciled ⊆ s'.reconciled) (hdevice : r'.device = r.device)
    (h : RowFlies r r') : Carried s s' r r' := by
  obtain ⟨hid, hof, rfl | hflies⟩ := h
  · exact .refl hrec r'
  · refine ⟨hdevice, hof, fun _ => hflies, fun hstands => ⟨.inl hflies, fun hin => hstands.2 ?_⟩⟩
    rw [hid]
    exact hrec hin

theorem Carried.of_withdrawn {applied : List ℕ} (hrec : s.reconciled ⊆ s'.reconciled)
    (h : RowWithdrawn applied r r') : Carried s s' r r' := by
  rcases h with rfl | ⟨-, -, rfl⟩
  · exact .refl hrec r'
  · refine .rest ⟨rfl, rfl⟩ rfl fun hstands => ?_
    rcases hstands.1 with h | h <;> cases h

/-- An operator's proof settles a row, which does not stand for it. -/
theorem carried_reconcile {result : ReconciliationResult} :
    Rewritten (Carried s (s.reconcile id result)) s.db.reroutes
      (s.reconcile id result).db.reroutes := by
  unfold ExecState.reconcile
  cases hnext : reconcileUncertain s.db id result with
  | none => exact Rewritten.refl (Carried.refl (List.Subset.refl _)) _
  | some next =>
    change Rewritten _ s.db.reroutes next.reroutes
    dsimp only
    unfold reconcileUncertain at hnext
    split at hnext
    · cases hnext
    split_ifs at hnext
    split at hnext
    next hconflict =>
      obtain rfl := Option.some.inj hnext
      refine Rewritten.refl (Carried.refl ?_) _
      dsimp only
      split_ifs
      · exact List.Subset.refl _
      · exact List.subset_cons_self _ _
    next state effect action houtcome =>
      obtain rfl := Option.some.inj hnext
      have hresult : result ≠ .conflict := by
        rintro rfl
        cases houtcome
      rw [if_neg hresult]
      refine rewritten_update (Carried.refl (List.subset_cons_self _ _)) fun r _ hfound => ?_
      obtain ⟨rfl, -⟩ : r.id = id ∧ r.reconcilable = true := by simpa using hfound
      exact .rest ⟨rfl, rfl⟩ state.not_inFlight fun hstands => hstands.2 List.mem_cons_self

theorem reconciled_write {reply : Reply} {db : Db} :
    (s.write reply db).reconciled = s.reconciled := by
  rw [ExecState.write]
  split_ifs <;> rfl

theorem reconciled_serve (requireVerification : Bool) (e : ServeEvent)
    (he : ∀ id result, e ≠ .reconcile id result) :
    (serveStep requireVerification s e).reconciled = s.reconciled := by
  cases e with
  | reconcile id result => exact absurd rfl (he id result)
  | reserve =>
    simp only [serveStep, ExecState.reserve]
    split
    · rfl
    split
    · rfl
    split_ifs
    · rfl
    · exact reconciled_write
  | finalize id reply =>
    simp only [serveStep, ExecState.finalize]
    split
    · split
      · rfl
      split_ifs <;> rfl
    · rfl
  | portReturns =>
    simp only [serveStep]
    split
    · split_ifs <;> rfl
    · rfl
  | _ =>
    first
    | rfl
    | simp only [serveStep]
      split
      · first
        | exact reconciled_write
        | rfl
      · rfl

/-- Only a reconciliation reconciles. -/
theorem reconciled_execStep (requireVerification : Bool) (e : ExecEvent)
    (he : ∀ id result, e ≠ .serve (.reconcile id result)) :
    (execStep requireVerification s e).reconciled = s.reconciled := by
  cases e with
  | crash => rfl
  | restart reply =>
    simp only [execStep]
    split_ifs <;> rfl
  | serve e =>
    simp only [execStep]
    split_ifs
    · exact reconciled_serve requireVerification e fun id result h => he id result (h ▸ rfl)
    · rfl

/-- **What the executor does to a row**, where it reserves nothing. -/
theorem carried_execStep (requireVerification : Bool) (hkeyed : Keyed RerouteRow.id s.db.reroutes)
    (e : ExecEvent) (he : ∀ e', e = .serve e' → reserves e' = false) :
    Rewritten (Carried s (execStep requireVerification s e)) s.db.reroutes
      (execStep requireVerification s e).db.reroutes := by
  by_cases hreconcile : ∃ id result, e = .serve (.reconcile id result)
  · obtain ⟨id, result, rfl⟩ := hreconcile
    simp only [execStep]
    split_ifs
    · exact carried_reconcile
    · exact Rewritten.refl (Carried.refl (List.Subset.refl _)) _
  · have hrec : s.reconciled ⊆ (execStep requireVerification s e).reconciled := by
      rw [reconciled_execStep requireVerification e fun id result h => hreconcile ⟨id, result, h⟩]
      exact List.Subset.refl _
    have hdevices := devices_execStep requireVerification e he (s := s)
    rcases execStep_rows requireVerification hkeyed e with ⟨g, hrows, hg⟩ | hreserve
    · refine ⟨g, hrows, fun r hr => ?_⟩
      rw [devices, devices, hrows, List.map_map] at hdevices
      have hdevice : (g r).device = r.device := List.map_inj_left.mp hdevices r hr
      have hmoves := hg r hr
      unfold RowMoves at hmoves
      split at hmoves
      · exact .of_withdrawn hrec hmoves
      · exact absurd ⟨_, _, rfl⟩ hreconcile
      · exact .of_flies hrec hdevice hmoves
    · obtain ⟨req, bundle, trigger, mode, createdAt, consume, reply, rfl, -⟩ := hreserve
      cases he _ rfl

end Carried

/-! ### The invariant -/

/-- What the gates that a reservation has passed say of the rows, now as then. -/
structure Cleared (s : ExecState) (req : SlotRequest) (left : List Gate) : Prop where
  running : Gate.running ∉ left → ∀ r ∈ s.db.reroutes, r.device = req.device →
    r.state.inFlight = false
  inverse : Gate.inverse ∉ left → ∀ original, req.rollbackOf = some original →
    ∀ r ∈ s.db.reroutes, r.rollbackOf = some original → r.device = req.device → ¬Standing s r

/-- No two actions of a device are in flight, and no two of its inverses of an action stand. -/
structure Alone (s : ExecState) : Prop where
  inFlight : ∀ r ∈ s.db.reroutes, ∀ r' ∈ s.db.reroutes, r.device = r'.device →
    r.state.inFlight = true → r'.state.inFlight = true → r = r'
  inverse : ∀ original, ∀ r ∈ s.db.reroutes, ∀ r' ∈ s.db.reroutes, r.device = r'.device →
    r.rollbackOf = some original → r'.rollbackOf = some original → Standing s r → Standing s r' →
      r = r'

/-- **The invariant**: a reservation has the lock of its device, and while it has, what it read
stays true. -/
structure Inv (s : State) : Prop where
  exec : ExecInv s.exec
  alone : Alone s.exec
  held : ∀ i res, s.reservations i = some res → s.holder res.req.device = some i
  cleared : ∀ i req left, s.reservations i = some ⟨req, .checking left⟩ → Cleared s.exec req left

section Rows

variable {s s' : ExecState} {req : SlotRequest} {left : List Gate} {row : RerouteRow}

theorem Cleared.carry (h : Cleared s req left)
    (hrows : Rewritten (Carried s s') s.db.reroutes s'.db.reroutes) : Cleared s' req left where
  running hleft r' hr' hdevice := by
    obtain ⟨r, hr, hcarried⟩ := hrows.exists_of_mem hr'
    have hrest := h.running hleft r hr (hcarried.device.symm.trans hdevice)
    exact Bool.eq_false_iff.mpr fun hflies =>
      Bool.false_ne_true (hrest.symm.trans (hcarried.inFlight hflies))
  inverse hleft original horiginal r' hr' hof hdevice hstands := by
    obtain ⟨r, hr, hcarried⟩ := hrows.exists_of_mem hr'
    exact h.inverse hleft original horiginal r hr (hcarried.rollbackOf.symm.trans hof)
      (hcarried.device.symm.trans hdevice) (hcarried.standing hstands)

theorem Alone.carry (h : Alone s)
    (hrows : Rewritten (Carried s s') s.db.reroutes s'.db.reroutes) : Alone s' := by
  obtain ⟨g, hrows, hg⟩ := hrows
  constructor
  · intro a ha b hb hdevice hflies hflies'
    rw [hrows] at ha hb
    obtain ⟨r, hr, rfl⟩ := List.mem_map.mp ha
    obtain ⟨r', hr', rfl⟩ := List.mem_map.mp hb
    have hsame : r.device = r'.device :=
      (hg r hr).device.symm.trans (hdevice.trans (hg r' hr').device)
    rw [h.inFlight r hr r' hr' hsame ((hg r hr).inFlight hflies) ((hg r' hr').inFlight hflies')]
  · intro original a ha b hb hdevice hof hof' hstands hstands'
    rw [hrows] at ha hb
    obtain ⟨r, hr, rfl⟩ := List.mem_map.mp ha
    obtain ⟨r', hr', rfl⟩ := List.mem_map.mp hb
    have hsame : r.device = r'.device :=
      (hg r hr).device.symm.trans (hdevice.trans (hg r' hr').device)
    rw [h.inverse original r hr r' hr' hsame ((hg r hr).rollbackOf.symm.trans hof)
      ((hg r' hr').rollbackOf.symm.trans hof') ((hg r hr).standing hstands)
      ((hg r' hr').standing hstands')]

/-- A row is added. -/
structure Added (s s' : ExecState) (row : RerouteRow) : Prop where
  rows : s'.db.reroutes = s.db.reroutes ++ [row]
  reconciled : s'.reconciled = s.reconciled

theorem Added.standing (h : Added s s' row) {r : RerouteRow} (hstands : Standing s' r) :
    Standing s r := by
  rwa [Standing, h.reconciled] at hstands

theorem Added.mem (h : Added s s' row) {r : RerouteRow} (hr : r ∈ s'.db.reroutes) :
    r ∈ s.db.reroutes ∨ r = row := by
  rw [h.rows, List.mem_append, List.mem_singleton] at hr
  exact hr

/-- The row that a cleared reservation writes is the only one of its kind. -/
theorem Alone.add (h : Alone s) (hcleared : Cleared s req []) (hadded : Added s s' row)
    (hdevice : row.device = req.device) (hof : row.rollbackOf = req.rollbackOf) : Alone s' := by
  constructor
  · intro a ha b hb hsame hflies hflies'
    rcases hadded.mem ha with ha | rfl <;> rcases hadded.mem hb with hb | rfl
    · exact h.inFlight a ha b hb hsame hflies hflies'
    · have hrest := hcleared.running List.not_mem_nil a ha (hsame.trans hdevice)
      exact absurd (hrest.symm.trans hflies) Bool.false_ne_true
    · have hrest := hcleared.running List.not_mem_nil b hb (hsame.symm.trans hdevice)
      exact absurd (hrest.symm.trans hflies') Bool.false_ne_true
    · rfl
  · intro original a ha b hb hsame hofa hofb hstands hstands'
    rcases hadded.mem ha with ha | rfl <;> rcases hadded.mem hb with hb | rfl
    · exact h.inverse original a ha b hb hsame hofa hofb (hadded.standing hstands)
        (hadded.standing hstands')
    · exact absurd (hadded.standing hstands) (hcleared.inverse List.not_mem_nil original
        (hof.symm.trans hofb) a ha hofa (hsame.trans hdevice))
    · exact absurd (hadded.standing hstands') (hcleared.inverse List.not_mem_nil original
        (hof.symm.trans hofa) b hb hofb (hsame.symm.trans hdevice))
    · rfl

/-- And it is none of another device's. -/
theorem Cleared.add (h : Cleared s req left) (hadded : Added s s' row)
    (hdevice : row.device ≠ req.device) : Cleared s' req left where
  running hleft r hr hsame := by
    rcases hadded.mem hr with hr | rfl
    · exact h.running hleft r hr hsame
    · exact absurd hsame hdevice
  inverse hleft original horiginal r hr hof hsame hstands := by
    rcases hadded.mem hr with hr | rfl
    · exact h.inverse hleft original horiginal r hr hof hsame (hadded.standing hstands)
    · exact absurd hsame hdevice

/-- A gate that is passed. -/
theorem Cleared.pass {g : Gate} (h : Cleared s req (g :: left))
    (hpass : g.refuses s.db req = false) : Cleared s req left where
  running hleft r hr hdevice := by
    by_cases hg : g = .running
    · subst hg
      have hnone := List.any_eq_false.mp hpass r hr
      simpa [hdevice] using hnone
    · exact h.running (List.not_mem_cons_of_ne_of_not_mem (Ne.symm hg) hleft) r hr hdevice
  inverse hleft original horiginal r hr hof hdevice := by
    by_cases hg : g = .inverse
    · subst hg
      rw [Gate.refuses, horiginal, Option.any_some] at hpass
      have hnone := List.any_eq_false.mp hpass r hr
      rintro ⟨hstands, -⟩
      simp [hof, hstands] at hnone
    · exact h.inverse (List.not_mem_cons_of_ne_of_not_mem (Ne.symm hg) hleft) original horiginal r
        hr hof hdevice

/-- What the transaction of an insertion leaves. -/
theorem insertRow_added (consume : Bool) (reply : Reply) (error : String) :
    Added s (insertRow s row consume reply error).1 row ∨
      (insertRow s row consume reply error).1 = s := by
  unfold insertRow
  split
  · exact .inr rfl
  next db hdb =>
    obtain ⟨hrows, -⟩ := insertReroute_tables hdb
    split_ifs
    · exact .inl ⟨hrows, rfl⟩
    · unfold ExecState.write
      split_ifs
      · exact .inl ⟨hrows, rfl⟩
      · exact .inr rfl

theorem insertRow_inv (h : ExecInv s) (consume : Bool) (reply : Reply) (error : String)
    (hid : row.id = s.db.reroutes.length) (hstate : row.state = .planned) :
    ExecInv (insertRow s row consume reply error).1 := by
  unfold insertRow
  split
  · exact h
  next db hdb =>
    obtain ⟨hrows, hlocks⟩ := insertReroute_tables hdb
    have hinserted : ExecInv { s with db } := h.insert hrows hlocks hid hstate
    split_ifs
    · refine hinserted.setStage ⟨row, ?_, rfl, rfl, fun hbegun => by cases hbegun⟩
      rw [hrows]
      exact List.mem_append_right _ (List.mem_singleton.mpr rfl)
    · exact h.write hinserted

end Rows

/-! ### The steps -/

variable {s : State} {i : ℕ} {req : SlotRequest}

theorem Inv.init : Inv {} where
  exec := .init
  alone := ⟨fun r hr => (List.not_mem_nil hr).elim, fun _ r hr => (List.not_mem_nil hr).elim⟩
  held i res h := by cases h
  cleared i req left h := by cases h

theorem Inv.acquire (h : Inv s) (hfree : s.holder req.device = none) :
    Inv ((s.enter i req (.checking slotGates)).grant i req.device) where
  exec := h.exec
  alone := h.alone
  held j res (hj : (s.enter i req _).reservations j = some res) := by
    rcases eq_or_ne j i with rfl | hne
    · obtain rfl := Option.some.inj (State.reservations_enter_self.symm.trans hj)
      exact Function.update_self _ _ _
    · have hheld := h.held j res ((State.reservations_enter_of_ne hne).symm.trans hj)
      have hother : res.req.device ≠ req.device := by
        intro hsame
        rw [hsame, hfree] at hheld
        cases hheld
      exact (Function.update_of_ne hother _ _).trans hheld
  cleared j req' left (hj : (s.enter i req _).reservations j = some ⟨req', .checking left⟩) := by
    rcases eq_or_ne j i with rfl | hne
    · obtain ⟨rfl, rfl⟩ : req = req' ∧ slotGates = left := by simpa using hj
      exact ⟨fun hnot => absurd (by decide) hnot, fun hnot => absurd (by decide) hnot⟩
    · exact h.cleared j req' left ((State.reservations_enter_of_ne hne).symm.trans hj)

/-- A reservation goes on, and what it has passed holds. -/
theorem Inv.enter (h : Inv s) {phase phase' : Phase} (hres : s.reservations i = some ⟨req, phase⟩)
    (hcleared : ∀ left, phase' = .checking left → Cleared s.exec req left) :
    Inv (s.enter i req phase') where
  exec := h.exec
  alone := h.alone
  held j res hj := by
    rcases eq_or_ne j i with rfl | hne
    · obtain rfl := Option.some.inj (State.reservations_enter_self.symm.trans hj)
      exact h.held j ⟨req, phase⟩ hres
    · exact h.held j res ((State.reservations_enter_of_ne hne).symm.trans hj)
  cleared j req' left hj := by
    rcases eq_or_ne j i with rfl | hne
    · obtain ⟨rfl, rfl⟩ : req = req' ∧ phase' = .checking left := by simpa using hj
      exact hcleared left rfl
    · exact h.cleared j req' left ((State.reservations_enter_of_ne hne).symm.trans hj)

/-- A reservation ends. -/
theorem Inv.leave (h : Inv s) {res : Reservation} (hres : s.reservations i = some res) :
    Inv (s.leave i res.req.device) where
  exec := h.exec
  alone := h.alone
  held j res' hj := by
    rcases eq_or_ne j i with rfl | hne
    · cases State.reservations_leave_self.symm.trans hj
    · have hheld := h.held j res' ((State.reservations_leave_of_ne hne).symm.trans hj)
      have hother : res'.req.device ≠ res.req.device := by
        intro hsame
        rw [hsame, h.held i res hres] at hheld
        exact hne (Option.some.inj hheld).symm
      exact (Function.update_of_ne hother _ _).trans hheld
  cleared j req' left hj := by
    rcases eq_or_ne j i with rfl | hne
    · cases State.reservations_leave_self.symm.trans hj
    · exact h.cleared j req' left ((State.reservations_leave_of_ne hne).symm.trans hj)

/-- A reservation that has passed every gate writes its row. -/
theorem Inv.insert (h : Inv s) (hres : s.reservations i = some ⟨req, .checking []⟩)
    {row : RerouteRow} (hid : row.id = s.exec.db.reroutes.length) (hstate : row.state = .planned)
    (hdevice : row.device = req.device) (hof : row.rollbackOf = req.rollbackOf) (consume : Bool)
    (reply : Reply) (error : String) :
    Inv { s.enter i req (.leaving (insertRow s.exec row consume reply error).2) with
      exec := (insertRow s.exec row consume reply error).1 } := by
  have hleft : Inv (s.enter i req (.leaving (insertRow s.exec row consume reply error).2)) :=
    h.enter hres fun left hleft => by cases hleft
  have hexec := insertRow_inv h.exec consume reply error hid hstate
  rcases insertRow_added consume reply error with hadded | hsame
  · refine ⟨hexec, h.alone.add (h.cleared i req [] hres) hadded hdevice hof, hleft.held, ?_⟩
    intro j req' left hj
    refine (hleft.cleared j req' left hj).add hadded fun hsame => ?_
    -- The lock of a device is that of one reservation.
    have hholder := hleft.held j _ hj
    have hown : s.holder req.device = some i := h.held i _ hres
    have hji : j = i := by
      rw [← hsame, hdevice] at hholder
      exact Option.some.inj (hholder.symm.trans hown)
    subst hji
    cases State.reservations_enter_self.symm.trans hj
  · rw [hsame]
    exact hleft

/-- The executor goes on, and inserts no row. -/
theorem Inv.carry (h : Inv s) {exec : ExecState} (hexec : ExecInv exec)
    (hrows : Rewritten (Carried s.exec exec) s.exec.db.reroutes exec.db.reroutes) :
    Inv { s with exec } where
  exec := hexec
  alone := h.alone.carry hrows
  held := h.held
  cleared j req left hj := (h.cleared j req left hj).carry hrows

/-- **Every step keeps the invariant.** -/
theorem Inv.step (requireVerification : Bool) (h : Inv s) (e : Event) :
    Inv (step requireVerification s e) := by
  cases e with
  | acquire i req =>
    simp only [Slots.step]
    split_ifs with hfree
    · exact h.acquire (Option.isNone_iff_eq_none.mp hfree.2.2)
    · exact h
  | check i fault =>
    simp only [Slots.step]
    split
    next req g left hres =>
      refine h.enter hres fun left' hleft => ?_
      split at hleft
      · next hpass =>
        obtain rfl := Phase.checking.inj hleft
        exact (h.cleared i req _ hres).pass (Gate.refuses_of_check hpass)
      · cases hleft
    · exact h
  | insert i bundle trigger mode createdAt consume reply error =>
    simp only [Slots.step]
    split
    next req hres => exact h.insert hres rfl rfl rfl rfl consume reply error
    · exact h
  | release i =>
    simp only [Slots.step]
    split
    next req outcome hres => exact h.leave hres
    · exact h
  | vanish i =>
    simp only [Slots.step]
    split
    next res hres => exact h.leave hres
    · exact h
  | serve e =>
    simp only [Slots.step]
    split_ifs with he
    · exact h
    · refine h.carry (h.exec.step requireVerification _)
        (carried_execStep requireVerification h.exec.keyed _ fun e' heq => ?_)
      obtain rfl := ExecEvent.serve.inj heq
      exact Bool.eq_false_iff.mpr he
  | crash =>
    have hcarried := h.carry (h.exec.step requireVerification .crash)
      (carried_execStep requireVerification h.exec.keyed .crash fun e' heq => by cases heq)
    exact ⟨hcarried.exec, hcarried.alone, (fun i res hres => by cases hres),
      (fun i req left hres => by cases hres)⟩
  | restart reply =>
    exact h.carry (h.exec.step requireVerification _)
      (carried_execStep requireVerification h.exec.keyed _ fun e' heq => by cases heq)

/-- **One action in flight a device.** In every run of reservations that read their gates one by
one, with the executor, operators, supervisors and crashes in between: no two actions of a device
are in flight, and no two inverses of an action on one device are in flight or have succeeded,
unless an operator's reconciliation made one of them so. -/
theorem one_in_flight (requireVerification : Bool) (es : List Event) :
    let s := (Run.run (step requireVerification) {} es).exec
    (∀ r ∈ s.db.reroutes, ∀ r' ∈ s.db.reroutes, r.device = r'.device →
      r.state.inFlight = true → r'.state.inFlight = true → r = r') ∧
      ∀ original, ∀ r ∈ s.db.reroutes, ∀ r' ∈ s.db.reroutes, r.device = r'.device →
        r.rollbackOf = some original → r'.rollbackOf = some original →
        Standing s r → Standing s r' → r = r' := by
  have h : Inv (Run.run (step requireVerification) {} es) :=
    Run.invariant (fun _ e hinv => hinv.step requireVerification e) es .init
  exact ⟨h.alone.inFlight, h.alone.inverse⟩

end Slots

end Rerouter
