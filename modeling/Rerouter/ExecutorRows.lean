import Rerouter.CrashSafety

/-!
# What a step does to the rows

The row of a reroute that is on its way may be moved by its worker, by a supervisor or by the
recovery of a crash. A row that is not is touched by two parties only: a bundle that lost its
projected state takes back what it changed, and an operator reconciles what is uncertain
(`Rerouter.RowMoves`). That is all a step of the executor does to the rows that are there
(`Rerouter.execStep_rows`).
-/

namespace Rerouter

open Table

/-! ### The relations -/

/-- A row on its way, or one that is left alone. -/
def RowFlies (r r' : RerouteRow) : Prop :=
  r'.id = r.id ∧ r'.rollbackOf = r.rollbackOf ∧ (r' = r ∨ r.state.inFlight = true)

/-- A row of `applied` that is taken back. -/
def RowWithdrawn (applied : List ℕ) (r r' : RerouteRow) : Prop :=
  r' = r ∨ (r.id ∈ applied ∧ r.changed = true ∧ r' = r.settle .uncertain .unknown)

/-- The row of `id` is reconciled. -/
def RowReconciled (id : ℕ) (result : ReconciliationResult) (r r' : RerouteRow) : Prop :=
  r' = r ∨ (r.id = id ∧ r.reconcilable = true ∧
    ∃ outcome, result.outcome = some outcome ∧ r' = r.settle outcome.1.state outcome.2.1)

/-- What an event does to a row. -/
def RowMoves : ExecEvent → RerouteRow → RerouteRow → Prop
  | .serve (.quarantineChanged applied) => RowWithdrawn applied
  | .serve (.reconcile id result) => RowReconciled id result
  | _ => RowFlies

theorem RowFlies.refl (r : RerouteRow) : RowFlies r r := ⟨rfl, rfl, .inl rfl⟩

theorem RowFlies.trans {r a b : RerouteRow} (h : RowFlies r a) (h' : RowFlies a b) :
    RowFlies r b := by
  obtain ⟨hid, hof, rfl | hflies⟩ := h
  · exact h'
  · exact ⟨h'.1.trans hid, h'.2.1.trans hof, .inr hflies⟩

/-- No statement moves a row to another place. -/
theorem RowMoves.keeps {e : ExecEvent} {r r' : RerouteRow} (h : RowMoves e r r') :
    r'.id = r.id ∧ r'.rollbackOf = r.rollbackOf := by
  unfold RowMoves at h
  split at h
  · rcases h with rfl | ⟨-, -, rfl⟩
    · exact ⟨rfl, rfl⟩
    · exact ⟨rfl, rfl⟩
  · rcases h with rfl | ⟨-, -, _, -, rfl⟩
    · exact ⟨rfl, rfl⟩
    · exact ⟨rfl, rfl⟩
  · exact ⟨h.1, h.2.1⟩

/-! ### The statements -/

variable {s : ExecState} {db : Db} {id device : ℕ}

theorem rewritten_refl (rows : List RerouteRow) : Rewritten RowFlies rows rows :=
  Rewritten.refl RowFlies.refl rows

/-- A statement on rows that are on their way. -/
theorem rewritten_updateReroute {p : RerouteRow → Bool} {f : RerouteRow → RerouteRow}
    (hp : ∀ r, p r = true → r.state.inFlight = true)
    (hf : ∀ r, (f r).id = r.id ∧ (f r).rollbackOf = r.rollbackOf) :
    Rewritten RowFlies db.reroutes (db.updateReroute id p f).reroutes := by
  refine rewritten_update RowFlies.refl fun r _ hfound => ?_
  obtain ⟨-, hpr⟩ : decide (r.id = id) = true ∧ p r = true := by simpa using hfound
  exact ⟨(hf r).1, (hf r).2, .inr (hp r hpr)⟩

theorem RerouteState.inFlight_of_early {state : RerouteState} (h : state.early = true) :
    state.inFlight = true := by
  cases state <;> simp_all [RerouteState.early, RerouteState.inFlight]

theorem RerouteState.inFlight_of_acting {state : RerouteState} (h : state.acting = true) :
    state.inFlight = true := by
  cases state <;> simp_all [RerouteState.acting, RerouteState.inFlight]

/-- A transition out of states that are on their way. -/
theorem rewritten_transition {p : RerouteState → Bool} {f : RerouteRow → RerouteRow}
    (hp : ∀ state, p state = true → state.inFlight = true)
    (hf : ∀ r, (f r).id = r.id ∧ (f r).rollbackOf = r.rollbackOf) :
    Rewritten RowFlies db.reroutes (transition db id p f).reroutes :=
  rewritten_updateReroute (fun r => hp r.state) hf

theorem enter_keeps (state : RerouteState) (r : RerouteRow) :
    (r.enter state).id = r.id ∧ (r.enter state).rollbackOf = r.rollbackOf := ⟨rfl, rfl⟩

theorem settle_keeps (state : RerouteState) (effect : MutationEffect) (r : RerouteRow) :
    (r.settle state effect).id = r.id ∧ (r.settle state effect).rollbackOf = r.rollbackOf :=
    ⟨rfl, rfl⟩

/-- A statement that may not take effect. -/
theorem rewritten_write {rows : List RerouteRow} (reply : Reply)
    (hdb : Rewritten RowFlies s.db.reroutes db.reroutes) (hrows : rows = s.db.reroutes) :
    Rewritten RowFlies rows (s.write reply db).db.reroutes := by
  subst hrows
  unfold ExecState.write
  split
  · exact hdb
  · exact rewritten_refl _

theorem rewritten_quarantineInterrupted (row : RerouteRow) :
    Rewritten RowFlies db.reroutes (quarantineInterrupted db row).reroutes := by
  have hsettled : Rewritten RowFlies db.reroutes
      (transition db row.id RerouteState.inFlight (.settle .uncertain .unknown)).reroutes :=
    rewritten_transition (fun _ h => h) (settle_keeps _ _)
  unfold quarantineInterrupted
  simp only
  split
  · exact hsettled
  · exact hsettled

/-- A loop of statements, each of which rewrites rows on their way. -/
theorem rewritten_foldl {α β : Type} {step : β → α → β} {tables : β → Db}
    (hstep : ∀ b a, Rewritten RowFlies (tables b).reroutes (tables (step b a)).reroutes)
    (l : List α)
    (b : β) : Rewritten RowFlies (tables b).reroutes (tables (l.foldl step b)).reroutes := by
  induction l generalizing b with
  | nil => exact rewritten_refl _
  | cons a l ih => exact (hstep b a).trans (ih (step b a)) fun _ _ _ => RowFlies.trans

theorem rewritten_recoverStep (reply : ℕ → Reply) (acc : Db × ℕ) (row : RerouteRow) :
    Rewritten RowFlies acc.1.reroutes (recoverStep reply acc row).1.reroutes := by
  unfold recoverStep
  cases hone : recoverOne acc.1 row with
  | none => exact rewritten_refl _
  | some next =>
    have hnext : Rewritten RowFlies acc.1.reroutes next.reroutes := by
      unfold recoverOne at hone
      split at hone
      · obtain rfl := Option.some.inj hone
        exact rewritten_transition (fun _ h => h) (settle_keeps _ _)
      · cases hone
    simp only
    split
    · exact hnext
    · exact rewritten_refl _

theorem rewritten_finalize {state : FinalState} {effect : MutationEffect} {next : Db}
    (h : finalize db id device state effect = some next) :
    Rewritten RowFlies db.reroutes next.reroutes := by
  have hsettled : Rewritten RowFlies db.reroutes
      (transition db id RerouteState.acting (.settle state.state effect)).reroutes :=
    rewritten_transition (fun _ => RerouteState.inFlight_of_acting) (settle_keeps _ _)
  unfold finalize at h
  split_ifs at h
  · obtain rfl := Option.some.inj h
    exact hsettled
  · obtain rfl := Option.some.inj h
    exact hsettled

/-- What was taken back once is not taken back again. -/
theorem RowWithdrawn.trans {applied applied' : List ℕ} {r a b : RerouteRow}
    (h : RowWithdrawn applied r a) (h' : RowWithdrawn applied' a b) :
    RowWithdrawn (applied ++ applied') r b := by
  rcases h with rfl | ⟨hid, hchanged, rfl⟩
  · rcases h' with rfl | ⟨hid, hchanged, rfl⟩
    · exact .inl rfl
    · exact .inr ⟨List.mem_append_right _ hid, hchanged, rfl⟩
  · rcases h' with rfl | ⟨-, hagain, -⟩
    · exact .inr ⟨List.mem_append_left _ hid, hchanged, rfl⟩
    · simp [RerouteRow.changed, RerouteRow.settle] at hagain

theorem keyed_of_rewritten {rel : RerouteRow → RerouteRow → Prop} {rows rows' : List RerouteRow}
    (h : Rewritten rel rows rows') (hrel : ∀ r r', rel r r' → r'.id = r.id)
    (hkeyed : Keyed RerouteRow.id rows) : Keyed RerouteRow.id rows' := by
  obtain ⟨g, rfl, hg⟩ := h
  have hmap : (rows.map g).map RerouteRow.id = rows.map RerouteRow.id := by
    rw [List.map_map]
    exact List.map_congr_left fun r hr => hrel r (g r) (hg r hr)
  show ((rows.map g).map RerouteRow.id).Nodup
  rw [hmap]
  exact hkeyed

theorem rewritten_quarantineChanged (hkeyed : Keyed RerouteRow.id db.reroutes) {next : Db}
    (h : quarantineChanged db id = some next) :
    Rewritten (RowWithdrawn [id]) db.reroutes next.reroutes := by
  unfold quarantineChanged at h
  cases hrow : db.reroute id with
  | none => simp [hrow] at h
  | some row =>
    simp only [hrow] at h
    split_ifs at h with hchanged
    obtain rfl := Option.some.inj h
    obtain ⟨hmem, hid⟩ := mem_of_find hrow
    refine rewritten_update (fun r => .inl rfl) fun r hr hfound => ?_
    obtain ⟨hrid, -⟩ : r.id = id ∧ r.state = .succeeded := by simpa using hfound
    obtain rfl := hkeyed.eq_of_key_eq hr hmem (hrid.trans hid.symm)
    exact .inr ⟨by simp [hrid], hchanged, rfl⟩

theorem rewritten_quarantineChangedActions (applied : List ℕ)
    (hkeyed : Keyed RerouteRow.id db.reroutes) {next : Db}
    (h : quarantineChangedActions db applied = some next) :
    Rewritten (RowWithdrawn applied) db.reroutes next.reroutes := by
  induction applied generalizing db with
  | nil =>
    obtain rfl : db = next := by simpa [quarantineChangedActions] using h
    exact Rewritten.refl (fun r => .inl rfl) _
  | cons id applied ih =>
    simp only [quarantineChangedActions, List.foldlM_cons, Option.bind_eq_bind,
      Option.bind_eq_some_iff] at h
    obtain ⟨mid, hmid, hrest⟩ := h
    have hone := rewritten_quarantineChanged hkeyed hmid
    have hkeyed' : Keyed RerouteRow.id mid.reroutes := by
      refine keyed_of_rewritten hone (fun r r' hr => ?_) hkeyed
      rcases hr with rfl | ⟨-, -, rfl⟩
      · rfl
      · rfl
    exact hone.trans (ih hkeyed' hrest) fun _ _ _ => RowWithdrawn.trans

theorem rewritten_reconcile (result : ReconciliationResult) :
    Rewritten (RowReconciled id result) s.db.reroutes (s.reconcile id result).db.reroutes := by
  have hrefl : ∀ rows, Rewritten (RowReconciled id result) rows rows :=
    Rewritten.refl fun r => .inl rfl
  unfold ExecState.reconcile
  cases hnext : reconcileUncertain s.db id result with
  | none => exact hrefl _
  | some next =>
    show Rewritten _ s.db.reroutes next.reroutes
    unfold reconcileUncertain at hnext
    split at hnext
    · cases hnext
    split_ifs at hnext
    split at hnext
    · obtain rfl := Option.some.inj hnext
      exact hrefl _
    next state effect action houtcome =>
      obtain rfl := Option.some.inj hnext
      refine rewritten_update (fun r => .inl rfl) fun r _ hfound => ?_
      obtain ⟨hid, hreconcilable⟩ : r.id = id ∧ r.reconcilable = true := by simpa using hfound
      exact .inr ⟨hid, hreconcilable, _, houtcome, rfl⟩

/-! ### A step -/

/-- The rows after a step: those that were there, moved, and one more after a reservation. -/
def RowsStep (e : ExecEvent) (rows rows' : List RerouteRow) : Prop :=
  Rewritten (RowMoves e) rows rows' ∨
    ∃ req bundle trigger mode createdAt consume reply,
      e = .serve (.reserve req bundle trigger mode createdAt consume reply) ∧
        rows' = rows ++
          [{ id := rows.length, device := req.device, bundle, rollbackOf := req.rollbackOf,
             trigger, mode, createdAt }]

theorem rewritten_advance {reply : Reply} {source target : RerouteState} {stage : Stage}
    (hsource : source.inFlight = true) :
    Rewritten RowFlies s.db.reroutes
      (s.advance id device reply source target stage).db.reroutes := by
  refine rewritten_write reply (rewritten_transition (fun state h => ?_) (enter_keeps _)) rfl
  rw [of_decide_eq_true h]
  exact hsource

theorem rewritten_verify (requireVerification : Bool) {result : PortResult}
    {persisted verificationPersisted : Bool} {reply : Reply} {verdict : Verdict} :
    Rewritten RowFlies s.db.reroutes
      (s.verify requireVerification id device result persisted verificationPersisted reply
        verdict).db.reroutes := by
  refine rewritten_write reply (rewritten_transition (fun state h => ?_) (enter_keeps _)) rfl
  rw [of_decide_eq_true h]
  rfl

theorem rewritten_finalizeStep {state : FinalState} {effect : MutationEffect} {reply : Reply} :
    Rewritten RowFlies s.db.reroutes (s.finalize id device state effect reply).db.reroutes := by
  unfold ExecState.finalize
  cases hnext : Rerouter.finalize s.db id device state effect with
  | none => exact rewritten_refl _
  | some next =>
    simp only
    split
    · exact rewritten_finalize hnext
    · exact rewritten_refl _

theorem rowsStep_reserve {req : SlotRequest} {bundle : Option ℕ} {trigger : TriggerType}
    {mode : VerificationMode} {createdAt : ℕ} {consume : Bool} {reply : Reply} :
    RowsStep (.serve (.reserve req bundle trigger mode createdAt consume reply)) s.db.reroutes
      (s.reserve req (newReroute s.db req bundle trigger mode createdAt) consume
        reply).db.reroutes := by
  unfold ExecState.reserve
  split
  · exact .inl (rewritten_refl _)
  split
  · exact .inl (rewritten_refl _)
  next next hnext =>
    obtain ⟨hrows, -⟩ := insertReroute_tables hnext
    have hinserted : RowsStep (.serve (.reserve req bundle trigger mode createdAt consume reply))
        s.db.reroutes next.reroutes := .inr ⟨_, _, _, _, _, _, _, rfl, hrows⟩
    split
    · exact hinserted
    · unfold ExecState.write
      split
      · exact hinserted
      · exact .inl (rewritten_refl _)

/-- What the worker of a stage does to the rows. -/
theorem rewritten_serve (requireVerification : Bool) (hkeyed : Keyed RerouteRow.id s.db.reroutes)
    (e : ServeEvent) :
    RowsStep (.serve e) s.db.reroutes (serveStep requireVerification s e).db.reroutes := by
  cases e with
  -- a reservation is the one event that appends a row; the others rewrite rows in place
  | reserve => exact rowsStep_reserve
  | abortReserved id reply =>
    refine .inl ?_
    simp only [serveStep]
    split
    · refine rewritten_write reply (rewritten_transition (fun state h => ?_) (settle_keeps _ _)) rfl
      rw [of_decide_eq_true h]
      rfl
    · exact rewritten_refl _
  | toPending id reply =>
    refine .inl ?_
    simp only [serveStep]
    split
    · exact rewritten_advance rfl
    · exact rewritten_refl _
  | toRunning id reply =>
    refine .inl ?_
    simp only [serveStep]
    split
    · exact rewritten_advance rfl
    · exact rewritten_refl _
  | abort id reply =>
    refine .inl ?_
    simp only [serveStep]
    split
    · exact rewritten_write reply
        (rewritten_transition (fun _ => RerouteState.inFlight_of_early) (settle_keeps _ _)) rfl
    · exact rewritten_refl _
  -- what goes to the device changes no row
  | send id =>
    refine .inl ?_
    simp only [serveStep]
    split <;> exact rewritten_refl _
  -- nor does its answer, which the worker keeps to itself until it verifies
  | portReturns id result persisted =>
    refine .inl ?_
    simp only [serveStep]
    split
    · split <;> exact rewritten_refl _
    · exact rewritten_refl _
  | verify id reply verdict persisted =>
    refine .inl ?_
    simp only [serveStep]
    split
    · exact rewritten_verify requireVerification
    · exact rewritten_refl _
  | finalize id reply =>
    refine .inl ?_
    simp only [serveStep]
    split
    · exact rewritten_finalizeStep
    · exact rewritten_refl _
  | workerEnds id => exact .inl (rewritten_refl _)
  | cancel id =>
    exact .inl (rewritten_transition (fun _ => RerouteState.inFlight_of_early) (enter_keeps _))
  | quarantineInterrupted bundle =>
    refine .inl ?_
    exact @rewritten_foldl RerouteRow Db quarantineInterrupted id
      (fun db row => rewritten_quarantineInterrupted row) _ _
  | quarantineChanged applied =>
    refine .inl ?_
    show Rewritten (RowWithdrawn applied) _ _
    simp only [serveStep]
    cases hnext : quarantineChangedActions s.db applied with
    | none => exact Rewritten.refl (fun r => .inl rfl) _
    | some next => exact rewritten_quarantineChangedActions applied hkeyed hnext
  | reconcile id result => exact .inl (rewritten_reconcile result)
  | lockGlobal => exact .inl (rewritten_refl _)
  | clearGlobal => exact .inl (rewritten_refl _)
  | elsewhere => exact .inl (rewritten_refl _)

/-- **What a step of the executor does to the rows of reroutes.** -/
theorem execStep_rows (requireVerification : Bool) (hkeyed : Keyed RerouteRow.id s.db.reroutes)
    (e : ExecEvent) :
    RowsStep e s.db.reroutes (execStep requireVerification s e).db.reroutes := by
  have hsame : RowsStep e s.db.reroutes s.db.reroutes := by
    refine .inl (Rewritten.refl (fun r => ?_) _)
    unfold RowMoves
    split
    · exact .inl rfl
    · exact .inl rfl
    · exact RowFlies.refl r
  cases e with
  | serve e =>
    simp only [execStep]
    split
    · exact rewritten_serve requireVerification hkeyed e
    · exact hsame
  -- a crash ends the workers and leaves the rows to the next start
  | crash => exact hsame
  | restart reply =>
    have hrecovered : Rewritten RowFlies s.db.reroutes (recoverOnStartup reply s.db).1.reroutes :=
      @rewritten_foldl RerouteRow (Db × ℕ) (recoverStep reply) Prod.fst
        (rewritten_recoverStep reply) _ (s.db, 0)
    simp only [execStep]
    split
    · exact hsame
    split
    · exact .inl hrecovered
    · exact .inl hrecovered

end Rerouter
