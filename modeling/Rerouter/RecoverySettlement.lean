import Rerouter.Recovery

/-!
# Settlement of a recovery

What `Rerouter.finalizeRecoveryChild` writes: the rows of the sources
(`Rerouter.settled_bundle_source`), their associations (`Rerouter.settled_mappings`) and their
devices (`Rerouter.foldl_settleSource_devices`).

A settlement that is in order (`Rerouter.InOrder`) changes nothing when it is repeated
(`Rerouter.finalizeRecoveryChild_repeated`): the plan of the child is known from its ledger and
not from its being `planned`, nothing it has settled is taken back beside a source that is not,
and the windows of its sources stand apart.
-/

namespace Rerouter

open Table

/-! ### Associations -/

/-- The invariant of the associations. -/
structure AttemptInv (db : Db) : Prop where
  keyed : Keyed BundleRow.id db.bundles
  /-- `PRIMARY KEY (recovery_bundle_id, source_bundle_id)`. -/
  unique : (db.attempts.map fun m => (m.child, m.source)).Nodup
  /-- A token names its child. -/
  token : ∀ m ∈ db.attempts, ∀ m' ∈ db.attempts, m.token = m'.token → m.child = m'.child
  legacy : ∀ m ∈ db.attempts, ∀ child, m.token = .legacy child → m.child = child
  other : ∀ m ∈ db.attempts, m.child ≠ m.source

/-! ### What a settlement writes -/

variable {db : Db} {child source : ℕ} {v : AttemptRow × Settlement}
  {V : List (AttemptRow × Settlement)}

/-- The row of a bundle after one settlement. -/
def settleRow (b : BundleRow) (v : AttemptRow × Settlement) : BundleRow :=
  if decide (b.id = v.1.source) && decide (b.claim = some v.1.token) then b.settleSource v.2 else b

/-- An association after one settlement. -/
def settleAttempt (child : ℕ) (m : AttemptRow) (v : AttemptRow × Settlement) : AttemptRow :=
  if decide (m.child = child) && decide (m.source = v.1.source) then
    { m with settlement := v.2 } else m

@[simp] theorem settleSource_id (b : BundleRow) (s : Settlement) :
    (b.settleSource s).id = b.id := by
  cases s <;> rfl

@[simp] theorem settleSource_total (b : BundleRow) (s : Settlement) :
    (b.settleSource s).total = b.total := by cases s <;> rfl

theorem settleSource_active (b : BundleRow) (s : Settlement) :
    (b.settleSource s).state.active = b.state.active := by
  cases s <;> try rfl
  show (if b.state = .aborted ∨ b.state = .compensationBlocked then BundleState.compensated
    else b.state).active = _
  split
  · rename_i h
    rcases h with h | h <;> rw [h] <;> rfl
  · rfl

/-- Settlements of the devices touch neither actions, nor bundles, nor associations. -/
theorem settleDevices_frame (child source : ℕ) (s : Settlement) (db : Db) :
    (settleDevices child source s db).reroutes = db.reroutes ∧
      (settleDevices child source s db).actions = db.actions ∧
      (settleDevices child source s db).bundles = db.bundles ∧
      (settleDevices child source s db).attempts = db.attempts := by
  cases s <;> exact ⟨rfl, rfl, rfl, rfl⟩

theorem settleSource_bundles :
    (settleSource child db v).bundles = db.bundles.map fun b => settleRow b v :=
  (settleDevices_frame _ _ _ _).2.2.1

theorem settleSource_attempts :
    (settleSource child db v).attempts = db.attempts.map fun m => settleAttempt child m v :=
  (settleDevices_frame _ _ _ _).2.2.2

/-- Settlements leave the actions. -/
theorem foldl_settleSource_frame (db : Db) :
    (V.foldl (settleSource child) db).reroutes = db.reroutes ∧
      (V.foldl (settleSource child) db).actions = db.actions := by
  induction V generalizing db with
  | nil => exact ⟨rfl, rfl⟩
  | cons v V ih =>
    obtain ⟨hreroutes, hactions⟩ := ih (settleSource child db v)
    obtain ⟨hr, ha, -, -⟩ := settleDevices_frame child v.1.source v.2
      ((db.updateAttempts (fun m => decide (m.child = child) && decide (m.source = v.1.source))
        fun m => { m with settlement := v.2 }).updateBundle v.1.source
          (fun b => b.claim = some v.1.token) (.settleSource v.2))
    exact ⟨hreroutes.trans hr, hactions.trans ha⟩

theorem foldl_settleSource_bundles (db : Db) :
    (V.foldl (settleSource child) db).bundles = db.bundles.map fun b => V.foldl settleRow b := by
  induction V generalizing db with
  | nil => simp
  | cons v V ih => rw [List.foldl_cons, ih, settleSource_bundles, List.map_map]; rfl

theorem foldl_settleSource_attempts (db : Db) :
    (V.foldl (settleSource child) db).attempts =
      db.attempts.map fun m => V.foldl (settleAttempt child) m := by
  induction V generalizing db with
  | nil => simp
  | cons v V ih => rw [List.foldl_cons, ih, settleSource_attempts, List.map_map]; rfl

@[simp] theorem settleRow_id (b : BundleRow) (v : AttemptRow × Settlement) :
    (settleRow b v).id = b.id := by
  rw [settleRow]
  split
  · exact settleSource_id b v.2
  · rfl

/-- A bundle that is no source keeps its row. -/
theorem foldl_settleRow_of_ne (b : BundleRow) (h : ∀ v ∈ V, v.1.source ≠ b.id) :
    V.foldl settleRow b = b := by
  induction V with
  | nil => rfl
  | cons v V ih =>
    have hv : settleRow b v = b := if_neg (by simp [Ne.symm (h v (by simp))])
    rw [List.foldl_cons, hv]
    exact ih fun u hu => h u (List.mem_cons_of_mem _ hu)

/-- **A source is settled once.** -/
theorem foldl_settleRow_of_mem (hV : (V.map fun v => v.1.source).Nodup) (b : BundleRow) (hv : v ∈ V)
    (hid : v.1.source = b.id) : V.foldl settleRow b = settleRow b v := by
  induction V with
  | nil => cases hv
  | cons u V ih =>
    obtain ⟨hnotin, hnodup⟩ := List.nodup_cons.mp hV
    rw [List.foldl_cons]
    rcases List.mem_cons.mp hv with rfl | hv
    · refine foldl_settleRow_of_ne _ fun w hw heq => hnotin ?_
      rw [settleRow_id] at heq
      exact List.mem_map.mpr ⟨w, hw, heq.trans hid.symm⟩
    · have hu : settleRow b u = b := by
        refine if_neg ?_
        simp only [Bool.and_eq_true, decide_eq_true_eq, not_and]
        intro heq
        exact absurd (List.mem_map.mpr ⟨v, hv, hid.trans heq⟩) hnotin
      rw [hu]
      exact ih hnodup hv

/-- An association of another child, or of no source that is settled, is kept. -/
theorem foldl_settleAttempt_of_ne (m : AttemptRow)
    (h : ∀ v ∈ V, m.child = child → v.1.source ≠ m.source) :
    V.foldl (settleAttempt child) m = m := by
  induction V with
  | nil => rfl
  | cons v V ih =>
    have hv : settleAttempt child m v = m := by
      refine if_neg ?_
      simp only [Bool.and_eq_true, decide_eq_true_eq, not_and]
      exact fun hchild heq => h v (by simp) hchild heq.symm
    rw [List.foldl_cons, hv]
    exact ih fun u hu => h u (List.mem_cons_of_mem _ hu)

theorem foldl_settleAttempt_of_mem (hV : (V.map fun v => v.1.source).Nodup) (m : AttemptRow)
    (hv : v ∈ V) (hchild : m.child = child) (hsource : v.1.source = m.source) :
    V.foldl (settleAttempt child) m = { m with settlement := v.2 } := by
  induction V with
  | nil => cases hv
  | cons u V ih =>
    obtain ⟨hnotin, hnodup⟩ := List.nodup_cons.mp hV
    rw [List.foldl_cons]
    rcases List.mem_cons.mp hv with rfl | hv
    · have hself : settleAttempt child m v = { m with settlement := v.2 } :=
        if_pos (by simp [hchild, hsource])
      rw [hself]
      exact foldl_settleAttempt_of_ne _ fun w hw _ heq =>
        hnotin (List.mem_map.mpr ⟨w, hw, heq.trans hsource.symm⟩)
    · have hu : settleAttempt child m u = m := by
        refine if_neg ?_
        simp only [Bool.and_eq_true, decide_eq_true_eq, not_and]
        exact fun _ heq => hnotin (List.mem_map.mpr ⟨v, hv, hsource.trans heq⟩)
      rw [hu]
      exact ih hnodup hv

/-! ### Devices -/

/-- What holds of the devices of a source that is settled. The sources `V` settles together do
not keep one another's windows. -/
structure DevicesSettled (child : ℕ) (V : List (AttemptRow × Settlement)) (db : Db)
    (v : AttemptRow × Settlement) : Prop where
  memberships : v.2 = .knownNoWrite → ∀ p ∈ db.memberships, p.releasable child v.1.source = false
  sources : v.2 = .restored → ∀ m ∈ db.sources, m.source ≠ v.1.source
  windows : v.2 = .restored → ∀ w ∈ db.windows, w.bundle = some v.1.source →
    ∃ m ∈ db.sources, m.device = w.device ∧ ∀ u ∈ V, u.1.source ≠ m.source

/-- A settlement takes quarantines of its own source away, and no other. -/
theorem mem_settleSource_sources {m : WindowSourceRow} :
    (m ∈ (settleSource child db v).sources → m ∈ db.sources) ∧
      (m ∈ db.sources → m.source ≠ v.1.source → m ∈ (settleSource child db v).sources) := by
  obtain ⟨a, s⟩ := v
  cases s with
  | restored =>
    refine ⟨fun hm => (mem_delete.mp hm).1, fun hm hne => mem_delete.mpr ⟨hm, ?_⟩⟩
    simpa using hne
  | knownNoWrite =>
    refine ⟨fun hm => (mem_delete.mp hm).1, fun hm hne => mem_delete.mpr ⟨hm, ?_⟩⟩
    simp [show m.source ≠ a.source from hne]
  | active => exact ⟨fun hm => hm, fun hm _ => hm⟩
  | blocked => exact ⟨fun hm => hm, fun hm _ => hm⟩

theorem mem_settleSource_windows {w : ChangeWindowRow}
    (hw : w ∈ (settleSource child db v).windows) :
    w ∈ db.windows := by
  obtain ⟨a, s⟩ := v
  cases s with
  | restored => exact (mem_delete.mp hw).1
  | knownNoWrite => exact hw
  | active => exact hw
  | blocked => exact hw

/-- Settlements release quarantines, and take none up. -/
theorem releasable_settleSource {p : MembershipRow} (hp : p ∈ (settleSource child db v).memberships)
    (hrel : p.releasable child source = true) :
    ∃ q ∈ db.memberships, q.releasable child source = true := by
  obtain ⟨a, s⟩ := v
  cases s with
  | knownNoWrite =>
    obtain ⟨q, hq, rfl⟩ := mem_update.mp hp
    refine ⟨q, hq, ?_⟩
    split at hrel
    · simp [MembershipRow.releasable] at hrel
    · exact hrel
  | restored => exact ⟨p, hp, hrel⟩
  | active => exact ⟨p, hp, hrel⟩
  | blocked => exact ⟨p, hp, hrel⟩

/-- A settlement settles the devices of its own source. -/
theorem DevicesSettled.self
    (halone : v.2 = .restored → ∀ w ∈ db.windows, w.bundle = some v.1.source → ∀ m ∈ db.sources,
      m.device = w.device → ∀ u ∈ V, u.1.source = m.source → m.source = v.1.source) :
    DevicesSettled child V (settleSource child db v) v := by
  obtain ⟨a, s⟩ := v
  constructor
  · rintro rfl p hp
    obtain ⟨q, -, rfl⟩ := mem_update.mp hp
    split
    · simp [MembershipRow.releasable]
    · rename_i hq
      simp only [Bool.and_eq_true, decide_eq_true_eq, not_and, Bool.not_eq_true] at hq
      refine Bool.eq_false_iff.mpr fun hrel => ?_
      simp only [MembershipRow.releasable, Bool.and_eq_true, decide_eq_true_eq] at hrel
      exact absurd hrel.1.2 (by simp [hq hrel.1.1])
  · rintro rfl m hm
    simpa using (mem_delete.mp hm).2
  · rintro rfl w hw hbundle
    obtain ⟨hwdb, hkept⟩ := mem_delete.mp hw
    simp only [hbundle, decide_true, Bool.true_and, Bool.not_eq_false', Db.quarantined] at hkept
    obtain ⟨m, hm, hdevice⟩ := List.any_eq_true.mp hkept
    obtain ⟨hmdb, hother⟩ := mem_delete.mp hm
    refine ⟨m, hm, by simpa using hdevice, fun u hu heq => ?_⟩
    exact absurd (halone rfl w hwdb hbundle m hmdb (by simpa using hdevice) u hu heq)
      (by simpa using hother)

/-- A settlement keeps the devices of the others settled. -/
theorem DevicesSettled.other {u : AttemptRow × Settlement} (h : DevicesSettled child V db v)
    (hu : u ∈ V) :
    DevicesSettled child V (settleSource child db u) v := by
  constructor
  · intro hv p hp
    refine Bool.eq_false_iff.mpr fun hrel => ?_
    obtain ⟨q, hq, hqrel⟩ := releasable_settleSource hp hrel
    exact absurd hqrel (by simp [h.memberships hv q hq])
  · exact fun hv m hm => h.sources hv m (mem_settleSource_sources.1 hm)
  · intro hv w hw hbundle
    obtain ⟨m, hm, hdevice, hforeign⟩ := h.windows hv w (mem_settleSource_windows hw) hbundle
    exact ⟨m, mem_settleSource_sources.2 hm (hforeign u hu).symm, hdevice, hforeign⟩

/-- The windows of the sources that are settled together stand apart: none is on a device that
another of them quarantines. -/
def WindowsApart (db : Db) (sources : List ℕ) : Prop :=
  ∀ w ∈ db.windows, ∀ s ∈ sources, w.bundle = some s → ∀ m ∈ db.sources, m.device = w.device →
    m.source ∈ sources → m.source = s

instance (db : Db) (sources : List ℕ) : Decidable (WindowsApart db sources) :=
  inferInstanceAs (Decidable (∀ _ ∈ _, ∀ _ ∈ _, _ → ∀ _ ∈ _, _ → _ → _))

/-- **The devices after all settlements.** -/
theorem foldl_settleSource_devices (U : List (AttemptRow × Settlement)) (hU : ∀ u ∈ U, u ∈ V)
    (hapart : WindowsApart db (V.map fun v => v.1.source)) :
    (∀ v ∈ U, DevicesSettled child V (U.foldl (settleSource child) db) v) ∧
      ∀ v ∈ V, DevicesSettled child V db v →
        DevicesSettled child V (U.foldl (settleSource child) db) v := by
  induction U generalizing db with
  | nil => exact ⟨fun v hv => absurd hv List.not_mem_nil, fun _ _ h => h⟩
  | cons u U ih =>
    have huV := hU u (by simp)
    have hnext : WindowsApart (settleSource child db u) (V.map fun v => v.1.source) := by
      intro w hw s hs hbundle m hm
      exact hapart w (mem_settleSource_windows hw) s hs hbundle m (mem_settleSource_sources.1 hm)
    obtain ⟨hrest, hkept⟩ := ih (fun w hw => hU w (List.mem_cons_of_mem _ hw)) hnext
    refine ⟨fun v hv => ?_, fun v hv h => hkept v hv (h.other huV)⟩
    rcases List.mem_cons.mp hv with rfl | hv
    · refine hkept v huV (DevicesSettled.self fun _ w hw hbundle m hm hdevice x hx heq => ?_)
      exact hapart w hw _ (List.mem_map_of_mem huV) hbundle m hm hdevice
        (heq ▸ List.mem_map_of_mem hx)
    · exact hrest v hv

/-! ### One settlement -/

variable {row : BundleRow} {terminal : BundleState} {owner : OwnerToken}

/-- The settlements of the sources of a child. -/
def settlements (db : Db) (row : BundleRow) (terminal : BundleState) :
    List (AttemptRow × Settlement) :=
  verdicts (adoptLegacy db row.id) row terminal (mappings db row.id)

/-- The tables after the settlement of a child. -/
def settled (db : Db) (row : BundleRow) (terminal : BundleState) (owner : OwnerToken) : Db :=
  writeVerdicts row.id terminal owner (settlements db row terminal) (adoptLegacy db row.id)

/-- A settlement that is written. -/
theorem finalizeRecoveryChild_eq_some {db' : Db} :
    finalizeRecoveryChild db child terminal owner = some db' ↔
      ∃ row, db.bundle child = some row ∧ terminal.recoveryTerminal = true ∧
        mappings db child ≠ [] ∧
        (∀ m ∈ mappings db child, (sourceProof (adoptLegacy db child) m.source).isSome = true) ∧
          settled db row terminal owner = db' := by
  rw [finalizeRecoveryChild]
  rcases hrow : db.bundle child with _ | row
  · simp
  obtain ⟨-, rfl⟩ := mem_of_find hrow
  by_cases hterminal : terminal.recoveryTerminal = true
  · simp only [hterminal, Bool.not_true, Bool.false_eq_true, if_false, true_and]
    constructor
    · intro h
      split_ifs at h with hbad
      push Not at hbad
      exact ⟨row, rfl, hbad.1, List.all_eq_true.mp hbad.2, Option.some.inj h⟩
    · rintro ⟨r, hr, hne, hproofs, rfl⟩
      obtain rfl := Option.some.inj hr
      rw [if_neg]
      · rfl
      · rintro (h | h)
        · exact hne h
        · exact h (List.all_eq_true.mpr hproofs)
  · simp [hterminal]

theorem mem_mappings {m : AttemptRow} :
    m ∈ mappings db child ↔ m ∈ db.attempts ∧ m.child = child := by
  rw [mappings, List.mem_insertionSort, List.mem_filter, decide_eq_true_eq]

theorem mem_settlements : v ∈ settlements db row terminal ↔ v.1 ∈ mappings db row.id ∧
    v.2 = settlementOf (adoptLegacy db row.id)
      (freezeAll (adoptLegacy db row.id) row (mappings db row.id)) terminal v.1 := by
  rw [settlements, verdicts, List.mem_map]
  constructor
  · rintro ⟨m, hm, rfl⟩
    exact ⟨hm, rfl⟩
  · rintro ⟨hm, hv⟩
    exact ⟨v.1, hm, Prod.ext rfl hv.symm⟩

theorem settlements_sources :
    ((settlements db row terminal).map fun v => v.1.source) =
    (mappings db row.id).map AttemptRow.source := by
  rw [settlements, verdicts, List.map_map]
  rfl

/-- The sources of a child are different. -/
theorem AttemptInv.nodup_sources (h : AttemptInv db) (child : ℕ) :
    ((mappings db child).map AttemptRow.source).Nodup := by
  have hfilter : (((db.attempts.filter fun m => decide (m.child = child))).map
    AttemptRow.source).Nodup := by
    refine List.Nodup.map_on (fun a ha b hb heq => ?_)
      ((List.Nodup.of_map _ h.unique).filter _)
    obtain ⟨ha, hac⟩ := List.mem_filter.mp ha
    obtain ⟨hb, hbc⟩ := List.mem_filter.mp hb
    simp only [decide_eq_true_eq] at hac hbc
    exact List.inj_on_of_nodup_map h.unique ha hb (Prod.ext (hac.trans hbc.symm) heq)
  exact (((List.perm_insertionSort _ _).map _).nodup_iff).mpr hfilter

/-- The row of a bundle with its legacy claim. -/
def adoptRow (db : Db) (child : ℕ) (b : BundleRow) : BundleRow :=
  if b.claim.isNone && (legacyAttempt db child b.id).isSome then
    b.adopt child ((legacyAttempt db child b.id).map AttemptRow.token)
  else b

/-- The row of a child that ends. -/
def closeRow (child : ℕ) (state : BundleState) (b : BundleRow) : BundleRow :=
  if decide (b.id = child) && decide (b.state ≠ .compensated) then
    { b with state, rateReserved := 0 } else b

@[simp] theorem adoptRow_id (b : BundleRow) : (adoptRow db child b).id = b.id := by
  rw [adoptRow]
  split <;> rfl

@[simp] theorem closeRow_id (b : BundleRow) (state : BundleState) :
    (closeRow child state b).id = b.id := by
  rw [closeRow]
  split <;> rfl

@[simp] theorem foldl_settleRow_id (b : BundleRow) : (V.foldl settleRow b).id = b.id := by
  induction V generalizing b with
  | nil => rfl
  | cons v V ih => rw [List.foldl_cons, ih, settleRow_id]

theorem closeRow_of_ne {b : BundleRow} {state : BundleState} (h : b.id ≠ child) :
    closeRow child state b = b := if_neg (by simp [h])

/-- The windows of the child: what is done to them touches no other table. -/
theorem settleWindows_frame (child : ℕ) (owner : OwnerToken) (l : List Settlement) (db : Db) :
    (settleWindows child owner l db).reroutes = db.reroutes ∧
      (settleWindows child owner l db).actions = db.actions ∧
      (settleWindows child owner l db).bundles = db.bundles ∧
      (settleWindows child owner l db).attempts = db.attempts ∧
      (settleWindows child owner l db).sources = db.sources ∧
      (settleWindows child owner l db).memberships = db.memberships := by
  rw [settleWindows]
  split_ifs <;> exact ⟨rfl, rfl, rfl, rfl, rfl, rfl⟩

theorem mem_settleWindows {l : List Settlement} {w : ChangeWindowRow}
    (hw : w ∈ (settleWindows child owner l db).windows) : w ∈ db.windows ∨ w.bundle = none := by
  have hupdate : ∀ (p : ChangeWindowRow → Bool) (phase : WindowPhase),
      w ∈ update p (ChangeWindowRow.quarantine phase) db.windows → w ∈ db.windows ∨
        w.bundle = none := by
    intro p phase hw
    obtain ⟨a, ha, rfl⟩ := mem_update.mp hw
    split
    · exact Or.inr rfl
    · exact Or.inl ha
  rw [settleWindows] at hw
  split_ifs at hw
  · exact hupdate _ _ hw
  · exact hupdate _ _ (mem_delete.mp hw).1
  · exact Or.inl (mem_delete.mp hw).1

theorem settled_reroutes : (settled db row terminal owner).reroutes = db.reroutes :=
  (settleWindows_frame _ _ _ _).1.trans (foldl_settleSource_frame _).1

theorem settled_actions : (settled db row terminal owner).actions = db.actions :=
  (settleWindows_frame _ _ _ _).2.1.trans (foldl_settleSource_frame _).2

/-- The state a child ends in. -/
def endState (db : Db) (row : BundleRow) (terminal : BundleState) : BundleState :=
  finalState ((settlements db row terminal).map Prod.snd) terminal

theorem settled_bundles : (settled db row terminal owner).bundles =
    db.bundles.map fun b => closeRow row.id (endState db row terminal)
      ((settlements db row terminal).foldl settleRow (adoptRow db row.id b)) := by
  refine (settleWindows_frame _ _ _ _).2.2.1.trans ?_
  show update _ _ (List.foldl (settleSource row.id) _ _).bundles = _
  rw [foldl_settleSource_bundles, update, List.map_map]
  show List.map _ (update _ _ db.bundles) = _
  rw [update, List.map_map]
  rfl

theorem settled_attempts : (settled db row terminal owner).attempts =
    db.attempts.map fun m => (settlements db row terminal).foldl (settleAttempt row.id) m :=
  (settleWindows_frame _ _ _ _).2.2.2.1.trans (foldl_settleSource_attempts _)

theorem settled_sources : (settled db row terminal owner).sources =
    ((settlements db row terminal).foldl (settleSource row.id) (adoptLegacy db row.id)).sources :=
  (settleWindows_frame _ _ _ _).2.2.2.2.1

theorem settled_memberships : (settled db row terminal owner).memberships =
    ((settlements db row terminal).foldl (settleSource row.id)
      (adoptLegacy db row.id)).memberships :=
  (settleWindows_frame _ _ _ _).2.2.2.2.2

theorem adoptLegacy_bundle (db : Db) (child id : ℕ) :
    (adoptLegacy db child).bundle id = (db.bundle id).map (adoptRow db child) :=
  find_map fun b => adoptRow_id b

/-- The row of a source after the settlement. -/
theorem settled_bundle_source (hinv : AttemptInv db) (hv : v ∈ settlements db row terminal) :
    (settled db row terminal owner).bundle v.1.source =
      ((adoptLegacy db row.id).bundle v.1.source).map fun b => settleRow b v := by
  have hm := (mem_settlements.mp hv).1
  have hne : v.1.source ≠ row.id := by
    obtain ⟨hattempt, hchild⟩ := mem_mappings.mp hm
    exact fun h => hinv.other _ hattempt (hchild.trans h.symm)
  have hnodup : ((settlements db row terminal).map fun u => u.1.source).Nodup := by
    rw [settlements_sources]
    exact hinv.nodup_sources row.id
  rw [Db.bundle, settled_bundles, find_map (by simp), adoptLegacy_bundle, Option.map_map]
  rcases hb : find BundleRow.id v.1.source db.bundles with _ | b
  · simp [Db.bundle, hb]
  · obtain ⟨-, hid⟩ := mem_of_find hb
    have hsource : v.1.source = (adoptRow db row.id b).id := by rw [adoptRow_id, hid]
    simp only [Db.bundle, hb, Option.map_some, Function.comp_apply]
    rw [closeRow_of_ne (by simpa [hid] using hne), foldl_settleRow_of_mem hnodup _ hv hsource]

/-! ### Settlements in order -/

/-- Whether the settlement of a child blocks all of its sources. -/
def frozen (db : Db) (row : BundleRow) : Bool :=
  freezeAll (adoptLegacy db row.id) row (mappings db row.id)

/-- The child is said to have succeeded, and the source still owns a mutation. -/
def unfinished (db : Db) (terminal : BundleState) (m : AttemptRow) : Bool :=
  decide (terminal = .succeeded) && decide (0 < (remainingOriginals db m.source).length)

/-- That the plan of the child is complete is known from its ledger, which stays, and not from
its being `planned`; or it does not matter. -/
def PlanKept (db : Db) (row : BundleRow) : Prop :=
  completePlan (adoptLegacy db row.id) row = true →
    ledgerComplete (adoptLegacy db row.id) row = true ∨
      evidenceFreezes (adoptLegacy db row.id) row.id (mappings db row.id) = true

/-- A source that was settled is not blocked again beside others that are not; and where all are,
it is not adopted by a legacy claim after it. -/
def SettledKept (db : Db) (row : BundleRow) (terminal : BundleState) : Prop :=
  ∀ m ∈ mappings db row.id, m.settlement.settled = true →
    (frozen db row = false → unfinished db terminal m = false) ∧
      (frozen db row = true → m.token.isLegacy = true →
        ∀ b ∈ db.bundles, b.id = m.source → b.claim ≠ none)

instance (db : Db) (row : BundleRow) : Decidable (PlanKept db row) :=
  inferInstanceAs (Decidable (_ → _))

instance (db : Db) (row : BundleRow) (terminal : BundleState) :
    Decidable (SettledKept db row terminal) := by
  unfold SettledKept
  infer_instance

/-- `remaining_mutations` of a source that is not blocked is right, or it is set: the source is
restored, under its claim. -/
def MutationsCounted (db : Db) (row : BundleRow) (terminal : BundleState) : Prop :=
  ∀ m ∈ mappings db row.id, frozen db row = false → unfinished db terminal m = false →
    ∀ b ∈ db.bundles, b.id = m.source →
      b.remaining = (remainingOriginals db m.source).length ∨
        ((remainingOriginals db m.source).length = 0 ∧ 0 < (originals db m.source).length ∧
          claimMatches (adoptLegacy db row.id) m = true)

instance (db : Db) (row : BundleRow) (terminal : BundleState) :
    Decidable (MutationsCounted db row terminal) := by
  unfold MutationsCounted
  infer_instance

/-- A settlement that is in order. -/
def InOrder (db : Db) (row : BundleRow) (terminal : BundleState) : Prop :=
  PlanKept db row ∧ SettledKept db row terminal ∧ MutationsCounted db row terminal ∧
    (frozen db row = false → WindowsApart db ((mappings db row.id).map AttemptRow.source))

instance (db : Db) (row : BundleRow) (terminal : BundleState) :
    Decidable (InOrder db row terminal) :=
  inferInstanceAs (Decidable (_ ∧ _ ∧ _ ∧ (_ → _)))

/-! ### What a settlement reads, read again -/

section Congr

variable {db' : Db}

theorem originals_congr (h : db'.reroutes = db.reroutes) (source : ℕ) :
    originals db' source = originals db source := by simp only [originals, h]

theorem remainingOriginals_congr (h : db'.reroutes = db.reroutes) (source : ℕ) :
    remainingOriginals db' source = remainingOriginals db source := by
  simp only [remainingOriginals, originals_congr h, inverted, h]

theorem dangerous_congr (h : db'.reroutes = db.reroutes) (child : ℕ) :
    dangerous db' child = dangerous db child := by simp only [dangerous, h]

/-- Whether a source may be recovered depends on its actions, its ledger, and whether it is
terminal. -/
theorem recoverable_congr (hreroutes : db'.reroutes = db.reroutes)
    (hactions : db'.actions = db.actions)
    {g : BundleRow → BundleRow} (hrow : db'.bundle source = (db.bundle source).map g)
    (hg : ∀ b, (g b).id = b.id ∧ (g b).total = b.total ∧ (g b).state.active = b.state.active) :
    recoverable db' source = recoverable db source := by
  have hslot : linkedSlot db' = linkedSlot db := funext fun a => by
    simp only [linkedSlot, originals_congr hreroutes]
  have hambiguous : ∀ r, ambiguousEffect db' r = ambiguousEffect db r := fun r => by
    simp only [ambiguousEffect, hreroutes]
  simp only [recoverable, sourceProof, hrow, Option.map_map, Option.any_map]
  rcases db.bundle source with _ | b
  · rfl
  · obtain ⟨hid, htotal, hactive⟩ := hg b
    simp only [Option.any_some, Function.comp_apply, activationCoverage, hid, htotal, hactive,
      originals_congr hreroutes, bundleLedger, hactions, hslot, funext hambiguous]
    rfl

end Congr

theorem settleRow_total (b : BundleRow) (v : AttemptRow × Settlement) :
    (settleRow b v).total = b.total := by
  rw [settleRow]
  split
  · exact settleSource_total b v.2
  · rfl

theorem settleRow_active (b : BundleRow) (v : AttemptRow × Settlement) :
    (settleRow b v).state.active = b.state.active := by
  rw [settleRow]
  split
  · exact settleSource_active b v.2
  · rfl

/-- A source may be recovered after the settlement where it might before. -/
theorem settled_recoverable (hinv : AttemptInv db) (hv : v ∈ settlements db row terminal) :
    recoverable (settled db row terminal owner) v.1.source =
      recoverable (adoptLegacy db row.id) v.1.source :=
  recoverable_congr settled_reroutes settled_actions (settled_bundle_source hinv hv) fun b =>
    ⟨settleRow_id b v, settleRow_total b v, settleRow_active b v⟩

/-- A source that is settled has lost the claim of the child. -/
theorem settled_claim_settled (hinv : AttemptInv db) (hv : v ∈ settlements db row terminal)
    (hs : v.2.settled = true) : claimMatches (settled db row terminal owner) v.1 = false := by
  rw [claimMatches, settled_bundle_source hinv hv, Option.any_map]
  rcases hb : (adoptLegacy db row.id).bundle v.1.source with _ | b
  · rfl
  · obtain ⟨-, hid⟩ := mem_of_find hb
    simp only [Option.any_some, settleRow, hid, decide_true, Bool.true_and]
    by_cases hclaim : b.claim = some v.1.token
    · rcases hs' : v.2 <;> simp_all [Settlement.settled, BundleRow.settleSource, BundleRow.restore,
        BundleRow.release]
    · simp [hclaim]

/-- A source that is not settled keeps its claim. -/
theorem settled_claim_kept (hinv : AttemptInv db) (hv : v ∈ settlements db row terminal)
    (hs : v.2.settled = false) :
    claimMatches (settled db row terminal owner) v.1 =
      claimMatches (adoptLegacy db row.id) v.1 := by
  rw [claimMatches, settled_bundle_source hinv hv, Option.any_map, claimMatches]
  rcases hb : (adoptLegacy db row.id).bundle v.1.source with _ | b
  · rfl
  · have hclaim : (settleRow b v).claim = b.claim := by
      rw [settleRow]
      split
      · rcases hs' : v.2 <;> first | rfl | simp [hs', Settlement.settled] at hs
      · rfl
    simp [hclaim]

/-- The association of a source after its settlement. -/
def settledAttempt (v : AttemptRow × Settlement) : AttemptRow := { v.1 with settlement := v.2 }

theorem foldl_settleAttempt_child (m : AttemptRow) :
    (V.foldl (settleAttempt child) m).child = m.child ∧
      (V.foldl (settleAttempt child) m).source = m.source ∧
        (V.foldl (settleAttempt child) m).token = m.token := by
  induction V generalizing m with
  | nil => exact ⟨rfl, rfl, rfl⟩
  | cons v V ih =>
    obtain ⟨hchild, hsource, htoken⟩ := ih (settleAttempt child m v)
    have hv : (settleAttempt child m v).child = m.child ∧
      (settleAttempt child m v).source = m.source ∧
        (settleAttempt child m v).token = m.token := by
      rw [settleAttempt]
      split <;> exact ⟨rfl, rfl, rfl⟩
    exact ⟨hchild.trans hv.1, hsource.trans hv.2.1, htoken.trans hv.2.2⟩

/-- The associations of the child after the settlement. -/
theorem settled_mappings (hinv : AttemptInv db) :
    mappings (settled db row terminal owner) row.id =
      (settlements db row terminal).map settledAttempt := by
  have hnodup : ((settlements db row terminal).map fun u => u.1.source).Nodup := by
    rw [settlements_sources]
    exact hinv.nodup_sources row.id
  have hchild : (fun m : AttemptRow => decide (m.child = row.id)) ∘
      (fun m => (settlements db row terminal).foldl (settleAttempt row.id) m) =
        fun m : AttemptRow => decide (m.child = row.id) := by
    funext m
    simp [(foldl_settleAttempt_child m).1]
  rw [mappings, settled_attempts, List.filter_map, hchild, ← List.map_insertionSort
    (fun a b : AttemptRow => a.source ≤ b.source) (fun a b : AttemptRow => a.source ≤ b.source)]
  · show List.map _ (mappings db row.id) = List.map _ (List.map _ (mappings db row.id))
    rw [List.map_map]
    refine List.map_congr_left fun m hm => ?_
    obtain ⟨-, hmchild⟩ := mem_mappings.mp hm
    exact foldl_settleAttempt_of_mem hnodup m (mem_settlements.mpr ⟨hm, rfl⟩) hmchild rfl
  · intro a _ b _
    simp [(foldl_settleAttempt_child a).2.1, (foldl_settleAttempt_child b).2.1]

/-! ### A settlement repeated -/

/-- A settlement of a child is written for each of its sources. -/
theorem exists_verdict (terminal : BundleState) {m : AttemptRow} (hm : m ∈ mappings db row.id) :
    ∃ v ∈ settlements db row terminal, v.1 = m :=
  ⟨(m, settlementOf (adoptLegacy db row.id) (frozen db row) terminal m),
    mem_settlements.mpr ⟨hm, rfl⟩, rfl⟩

/-- What blocks a source. -/
theorem settlementOf_eq_blocked {freeze : Bool} {m : AttemptRow} :
    settlementOf db freeze terminal m = .blocked ↔
      freeze = true ∨ (m.settlement.settled = false ∧ claimMatches db m = false) ∨
        unfinished db terminal m = true := by
  rw [settlementOf, unfinished]
  split_ifs with h1 h2
  · simp only [Bool.or_eq_true, Bool.not_eq_true', Bool.or_eq_false_iff] at h1
    simpa [or_assoc] using h1
  all_goals
    simp only [false_iff]
    simp only [Bool.or_eq_true, Bool.not_eq_true', Bool.or_eq_false_iff] at h1
    simpa [or_assoc] using h1

theorem settlementOf_settled {freeze : Bool} {m : AttemptRow} :
    (settlementOf db freeze terminal m).settled = false ↔
    settlementOf db freeze terminal m = .blocked := by
  rw [settlementOf]
  split_ifs <;> simp [Settlement.settled]

/-- Where not all sources are blocked, the child holds those it has not settled. -/
theorem claimMatches_of_not_frozen (h : frozen db row = false) {m : AttemptRow}
    (hm : m ∈ mappings db row.id) (hs : m.settlement.settled = false) :
    claimMatches (adoptLegacy db row.id) m = true := by
  simp only [frozen, freezeAll, evidenceFreezes, Bool.or_eq_false_iff] at h
  have hstale := List.any_eq_false.mp h.1.1.1 m hm
  simpa [hs] using hstale

/-- And so a source is blocked only where the child says it succeeded, and it did not. -/
theorem verdict_of_not_frozen (h : frozen db row = false) (hv : v ∈ settlements db row terminal) :
    v.2.settled = false ↔ unfinished db terminal v.1 = true := by
  obtain ⟨hm, hverdict⟩ := mem_settlements.mp hv
  rw [hverdict, settlementOf_settled, settlementOf_eq_blocked]
  constructor
  · rintro (hfrozen | ⟨hs, hclaim⟩ | hun)
    · exact absurd (h.symm.trans hfrozen) (by simp)
    · exact absurd (claimMatches_of_not_frozen h hm hs) (by simp [hclaim])
    · exact hun
  · exact fun hun => Or.inr (Or.inr hun)

theorem verdict_of_frozen (h : frozen db row = true) (hv : v ∈ settlements db row terminal) :
    v.2 = .blocked := by
  rw [(mem_settlements.mp hv).2]
  exact settlementOf_eq_blocked.mpr (Or.inl h)

theorem any_settled_mappings (hinv : AttemptInv db) (p : AttemptRow → Bool) :
    (mappings (settled db row terminal owner) row.id).any p =
      (settlements db row terminal).any fun v => p (settledAttempt v) := by
  rw [settled_mappings hinv, List.any_map]
  rfl

theorem settled_keyed (hinv : AttemptInv db) :
    Keyed BundleRow.id (settled db row terminal owner).bundles := by
  have hids : ((settled db row terminal owner).bundles.map BundleRow.id) =
    db.bundles.map BundleRow.id := by
    rw [settled_bundles, List.map_map]
    exact List.map_congr_left fun b _ => by simp
  rw [Keyed, hids]
  exact hinv.keyed

/-- No legacy claim is adopted after a settlement in order. -/
theorem adoptLegacy_settled (hinv : AttemptInv db) (hkept : SettledKept db row terminal) :
    adoptLegacy (settled db row terminal owner) row.id = settled db row terminal owner := by
  have hnone : ∀ b ∈ (settled db row terminal owner).bundles,
      (b.claim.isNone && (legacyAttempt (settled db row terminal owner) row.id b.id).isSome) =
      true →
        False := by
    intro b hb hadopt
    simp only [Bool.and_eq_true, Option.isNone_iff_eq_none] at hadopt
    obtain ⟨hclaim, hlegacy⟩ := hadopt
    obtain ⟨m', hm'⟩ := Option.isSome_iff_exists.mp hlegacy
    have hmem := List.mem_of_find?_eq_some hm'
    have hspec := List.find?_some hm'
    simp only [Bool.and_eq_true, decide_eq_true_eq, Bool.not_eq_true'] at hspec
    obtain ⟨⟨⟨hchild, hsource⟩, hsettled⟩, htoken⟩ := hspec
    have hmap : m' ∈ (settlements db row terminal).map settledAttempt := by
      rw [← settled_mappings hinv]
      exact mem_mappings.mpr ⟨hmem, hchild⟩
    obtain ⟨v, hv, rfl⟩ := List.mem_map.mp hmap
    have hm := (mem_settlements.mp hv).1
    -- the row of the source was not settled, so its claim is what it was
    have hrow : (settled db row terminal owner).bundle v.1.source = _ :=
      settled_bundle_source hinv hv
    have hfind : (settled db row terminal owner).bundle v.1.source = some b := by
      rw [show v.1.source = b.id from hsource]
      refine find_eq_some ?_ hb
      exact settled_keyed hinv
    rw [hfind, adoptLegacy_bundle, Option.map_map] at hrow
    obtain ⟨a, ha, hab⟩ := Option.map_eq_some_iff.mp hrow.symm
    obtain ⟨hamem, haid⟩ := mem_of_find ha
    have hsettled : v.2.settled = false := hsettled
    have hclaim' : (adoptRow db row.id a).claim = none := by
      rw [← hclaim, ← hab, Function.comp_apply, settleRow]
      split
      · rcases hs : v.2 <;> first | rfl | simp [hs, Settlement.settled] at hsettled
      · rfl
    have hnoclaim : a.claim = none := by
      rw [adoptRow] at hclaim'
      split at hclaim'
      · rename_i hadopted
        simp only [Bool.and_eq_true, Option.isNone_iff_eq_none] at hadopted
        exact hadopted.1
      · exact hclaim'
    by_cases hprior : v.1.settlement.settled = true
    · obtain ⟨hthaw, hfreeze⟩ := hkept v.1 hm hprior
      by_cases hfrozen : frozen db row = true
      · exact hfreeze hfrozen htoken a hamem haid hnoclaim
      · rw [Bool.not_eq_true] at hfrozen
        have hun := (verdict_of_not_frozen hfrozen hv).mp hsettled
        rw [hthaw hfrozen] at hun
        cases hun
    · -- it was not settled before either, and the child would have adopted it then
      rw [Bool.not_eq_true] at hprior
      obtain ⟨hattempt, hmchild⟩ := mem_mappings.mp hm
      have hsome : (legacyAttempt db row.id a.id).isSome = true := by
        refine List.find?_isSome.mpr ⟨v.1, hattempt, ?_⟩
        simp [hmchild, haid, hprior, show v.1.token.isLegacy = true from htoken]
      obtain ⟨c, hc⟩ := Option.isSome_iff_exists.mp hsome
      rw [adoptRow, if_pos (by simp [hnoclaim, hsome])] at hclaim'
      simp [BundleRow.adopt, hc] at hclaim'
  have hbundles : (adoptLegacy (settled db row terminal owner) row.id).bundles =
      (settled db row terminal owner).bundles :=
    update_eq_self fun b hb hadopt => (hnone b hb hadopt).elim
  rw [adoptLegacy] at hbundles ⊢
  exact congrArg (fun bundles => { settled db row terminal owner with bundles }) hbundles

/-- The row of the child after the settlement. -/
def closedRow (db : Db) (row : BundleRow) (terminal : BundleState) : BundleRow :=
  closeRow row.id (endState db row terminal)
    ((settlements db row terminal).foldl settleRow (adoptRow db row.id row))

theorem settled_bundle_child (hrow : db.bundle row.id = some row) :
    (settled db row terminal owner).bundle row.id = some (closedRow db row terminal) := by
  rw [Db.bundle, settled_bundles, find_map (by simp), ← Db.bundle, hrow]
  rfl

/-- A child is no source of its own. -/
theorem source_ne_child (hinv : AttemptInv db) (hv : v ∈ settlements db row terminal) :
    v.1.source ≠ row.id := by
  obtain ⟨hattempt, hchild⟩ := mem_mappings.mp (mem_settlements.mp hv).1
  exact fun h => hinv.other _ hattempt (hchild.trans h.symm)

theorem closedRow_eq (hinv : AttemptInv db) :
    closedRow db row terminal = closeRow row.id (endState db row terminal)
      (adoptRow db row.id row) := by
  rw [closedRow, foldl_settleRow_of_ne]
  intro v hv
  simpa using source_ne_child hinv hv

theorem closeRow_total (b : BundleRow) (state : BundleState) :
    (closeRow child state b).total = b.total ∧ (closeRow child state b).consumedPlan =
    b.consumedPlan := by
  rw [closeRow]
  split <;> exact ⟨rfl, rfl⟩

theorem adoptRow_total (b : BundleRow) :
    (adoptRow db child b).total = b.total ∧ (adoptRow db child b).state = b.state := by
  rw [adoptRow]
  split <;> exact ⟨rfl, rfl⟩

/-- A child that is settled is not `planned` any more. -/
theorem finalState_ne_planned {l : List Settlement} (hterminal : terminal.recoveryTerminal = true) :
    finalState l terminal ≠ .planned := by
  rw [finalState]
  split_ifs
  · simp
  · simp
  · simp
  · rintro rfl
    cases hterminal

theorem closedRow_not_planned (hinv : AttemptInv db)
    (hterminal : terminal.recoveryTerminal = true) :
    (closedRow db row terminal).state ≠ .planned := by
  rw [closedRow_eq hinv, closeRow]
  split
  · exact finalState_ne_planned hterminal
  · rename_i hcompensated
    simp only [adoptRow_id, decide_true, Bool.true_and, decide_eq_true_eq, not_not] at hcompensated
    simp [hcompensated]

/-- Every source is frozen again, or none is. -/
theorem frozen_settled (hinv : AttemptInv db) (hterminal : terminal.recoveryTerminal = true)
    (hkept : SettledKept db row terminal) (hplan : PlanKept db row) :
    frozen (settled db row terminal owner) (closedRow db row terminal) = frozen db row := by
  have hid : (closedRow db row terminal).id = row.id := by rw [closedRow_eq hinv]; simp
  have htotal : (closedRow db row terminal).total = row.total := by
    rw [closedRow_eq hinv, (closeRow_total _ _).1, (adoptRow_total _).1]
  have hledger : ledgerComplete (settled db row terminal owner) (closedRow db row terminal) =
      ledgerComplete (adoptLegacy db row.id) row := by
    simp only [ledgerComplete, bundleLedger, hid, htotal, settled_actions]
    rfl
  have hcomplete : completePlan (settled db row terminal owner) (closedRow db row terminal) =
      ledgerComplete (adoptLegacy db row.id) row := by
    rw [completePlan, hledger]
    simp [closedRow_not_planned hinv hterminal]
  have hdangerous : dangerous (settled db row terminal owner) row.id =
      dangerous (adoptLegacy db row.id) row.id := dangerous_congr settled_reroutes row.id
  have hrecoverable : ((mappings (settled db row terminal owner) row.id).any fun m =>
      !recoverable (settled db row terminal owner) m.source) =
        (mappings db row.id).any fun m => !recoverable (adoptLegacy db row.id) m.source := by
    rw [any_settled_mappings hinv, settlements, verdicts, List.any_map, Bool.eq_iff_iff,
      List.any_eq_true, List.any_eq_true]
    refine exists_congr fun m => and_congr_right fun hm => ?_
    have hsame : recoverable (settled db row terminal owner) m.source =
        recoverable (adoptLegacy db row.id) m.source := by
      obtain ⟨v, hv, rfl⟩ := exists_verdict terminal hm
      exact settled_recoverable hinv hv
    simp [settledAttempt, hsame]
  rw [frozen, hid, adoptLegacy_settled hinv hkept, freezeAll, evidenceFreezes, hid, hdangerous,
    hrecoverable, hcomplete]
  by_cases hfrozen : frozen db row = true
  · rw [hfrozen]
    have hcause := hfrozen
    simp only [frozen, freezeAll, evidenceFreezes, Bool.or_eq_true, Bool.not_eq_true'] at hcause
    simp only [Bool.or_eq_true, Bool.not_eq_true']
    rcases hcause with ((hstale | hdanger) | hlost) | hplanless
    · -- a source that another holds stays in its hands, and unsettled
      refine Or.inl (Or.inl (Or.inl ?_))
      rw [staleClaims, any_settled_mappings hinv]
      obtain ⟨m, hm, hmstale⟩ := List.any_eq_true.mp hstale
      obtain ⟨v, hv, rfl⟩ := exists_verdict terminal hm
      have hblocked : v.2.settled = false := by rw [verdict_of_frozen hfrozen hv]; rfl
      have hclaim : claimMatches (settled db row terminal owner) v.1 = _ :=
        settled_claim_kept hinv hv hblocked
      simp only [Bool.and_eq_true, Bool.not_eq_true'] at hmstale
      refine List.any_eq_true.mpr ⟨v, hv, ?_⟩
      simp only [settledAttempt, hblocked, Bool.not_false, Bool.true_and, Bool.not_eq_true']
      exact hclaim.trans hmstale.2
    · exact Or.inl (Or.inl (Or.inr hdanger))
    · exact Or.inl (Or.inr hlost)
    · refine Or.inr (Bool.eq_false_iff.mpr fun hledger => ?_)
      rw [completePlan, hledger] at hplanless
      cases hplanless
  · rw [Bool.not_eq_true] at hfrozen
    rw [hfrozen]
    have hcause := hfrozen
    simp only [frozen, freezeAll, evidenceFreezes, Bool.or_eq_false_iff, Bool.not_eq_false']
      at hcause
    simp only [Bool.or_eq_false_iff, Bool.not_eq_false']
    obtain ⟨⟨⟨hstale, hdanger⟩, hlost⟩, hplanned⟩ := hcause
    refine ⟨⟨⟨?_, hdanger⟩, hlost⟩, ?_⟩
    · rw [staleClaims, any_settled_mappings hinv]
      refine List.any_eq_false.mpr fun v hv => ?_
      simp only [settledAttempt, Bool.and_eq_true, Bool.not_eq_true', not_and, Bool.not_eq_false]
      intro hs
      have hun := (verdict_of_not_frozen hfrozen hv).mp hs
      have hm := (mem_settlements.mp hv).1
      have hprior : v.1.settlement.settled = false := Bool.eq_false_iff.mpr fun hprior => by
        rw [(hkept v.1 hm hprior).1 hfrozen] at hun
        cases hun
      exact (settled_claim_kept hinv hv hs).trans (claimMatches_of_not_frozen hfrozen hm hprior)
    · rcases hplan hplanned with hledger | hevidence
      · exact hledger
      · rw [evidenceFreezes, hstale, hdanger, hlost] at hevidence
        cases hevidence

/-- A source gets the same settlement again. -/
theorem settlementOf_settled_again (hinv : AttemptInv db) (hkept : SettledKept db row terminal)
    (hv : v ∈ settlements db row terminal) :
    settlementOf (settled db row terminal owner) (frozen db row) terminal (settledAttempt v) =
      v.2 := by
  obtain ⟨hm, hverdict⟩ := mem_settlements.mp hv
  by_cases hfrozen : frozen db row = true
  · rw [verdict_of_frozen hfrozen hv]
    exact settlementOf_eq_blocked.mpr (Or.inl hfrozen)
  rw [Bool.not_eq_true] at hfrozen
  have hheld : (v.1.settlement.settled || claimMatches (adoptLegacy db row.id) v.1) = true := by
    by_cases hprior : v.1.settlement.settled = true
    · simp [hprior]
    · rw [Bool.not_eq_true] at hprior
      simp [claimMatches_of_not_frozen hfrozen hm hprior]
  have hagain : ((settledAttempt v).settlement.settled ||
      claimMatches (settled db row terminal owner) (settledAttempt v)) = true := by
    by_cases hs : v.2.settled = true
    · simp [settledAttempt, hs]
    · -- it was blocked for what it still owns, and so was not settled before
      rw [Bool.not_eq_true] at hs
      have hun := (verdict_of_not_frozen hfrozen hv).mp hs
      have hprior : v.1.settlement.settled = false := Bool.eq_false_iff.mpr fun hprior => by
        rw [(hkept v.1 hm hprior).1 hfrozen] at hun
        cases hun
      have hclaim : claimMatches (settled db row terminal owner) v.1 = true :=
        (settled_claim_kept hinv hv hs).trans (claimMatches_of_not_frozen hfrozen hm hprior)
      rw [Bool.or_eq_true]
      exact Or.inr hclaim
  have hremaining : ∀ source, remainingOriginals (settled db row terminal owner) source =
      remainingOriginals (adoptLegacy db row.id) source := remainingOriginals_congr settled_reroutes
  have horiginals : ∀ source, originals (settled db row terminal owner) source =
      originals (adoptLegacy db row.id) source := originals_congr settled_reroutes
  rw [hverdict, settlementOf, settlementOf, hagain, hheld, hremaining, horiginals]
  rfl

/-- The same settlements are written again. -/
theorem settlements_settled (hinv : AttemptInv db) (hterminal : terminal.recoveryTerminal = true)
    (hkept : SettledKept db row terminal) (hplan : PlanKept db row) :
    settlements (settled db row terminal owner) (closedRow db row terminal) terminal =
      (settlements db row terminal).map fun v => (settledAttempt v, v.2) := by
  have hid : (closedRow db row terminal).id = row.id := by rw [closedRow_eq hinv]; simp
  have hfrozen : freezeAll (adoptLegacy (settled db row terminal owner)
    (closedRow db row terminal).id)
      (closedRow db row terminal) (mappings (settled db row terminal owner)
        (closedRow db row terminal).id) =
        frozen db row := frozen_settled hinv hterminal hkept hplan
  rw [settlements, verdicts, hfrozen, hid, adoptLegacy_settled hinv hkept, settled_mappings hinv,
    List.map_map]
  exact List.map_congr_left fun v hv =>
    Prod.ext rfl (settlementOf_settled_again hinv hkept hv)

/-- The windows of a settled child are settled. -/
theorem settleWindows_settleWindows (l : List Settlement) :
    settleWindows child owner l (settleWindows child owner l db) =
      settleWindows child owner l db := by
  by_cases hblocked : Settlement.blocked ∈ l
  · simp only [settleWindows, hblocked, if_true]
    have hnone : ∀ w ∈ (db.updateWindows (fun w => decide (w.bundle = some child))
        (.quarantine .uncertain)).windows, decide (w.bundle = some child) = true →
          ChangeWindowRow.quarantine .uncertain w = w := by
      intro w hw hbundle
      obtain ⟨a, -, rfl⟩ := mem_update.mp hw
      split at hbundle
      · simp [ChangeWindowRow.quarantine] at hbundle
      · rename_i hother
        exact absurd hbundle hother
    rw [Db.updateWindows, update_eq_self hnone]
  by_cases hretry : Settlement.knownNoWrite ∈ l
  · simp only [settleWindows, hblocked, hretry, if_false, if_true]
    generalize hresult : (db.updateWindows (fun w => decide (w.bundle = some child) &&
      decide (w.owner = owner) && db.quarantined w.device) (.quarantine .prepared)).deleteWindows
        (fun w => decide (w.bundle = some child) && decide (w.owner = owner) &&
          !db.quarantined w.device) = after
    -- no window of the child under its owner is left
    have hnone : ∀ w ∈ after.windows, (decide (w.bundle = some child) && decide (w.owner = owner)) =
      false := by
      intro w hw
      rw [← hresult] at hw
      obtain ⟨hw, hkeep⟩ := mem_delete.mp hw
      obtain ⟨a, -, rfl⟩ := mem_update.mp hw
      split at hkeep
      · rename_i hp
        simp [hp, ChangeWindowRow.quarantine]
      · rename_i hp
        rw [if_neg hp]
        cases hq : db.quarantined a.device <;> simp_all
    have hupdate : after.updateWindows (fun w => decide (w.bundle = some child) &&
        decide (w.owner = owner) && after.quarantined w.device) (.quarantine .prepared) =
          after := by
      rw [Db.updateWindows, update_eq_self]
      intro w hw hp
      rw [hnone w hw] at hp
      cases hp
    rw [hupdate, Db.deleteWindows, delete_eq_self]
    intro w hw
    rw [hnone w hw]
    rfl
  · simp only [settleWindows, hblocked, hretry, if_false]
    rw [Db.deleteWindows, delete_eq_self]
    exact fun w hw => (mem_delete.mp hw).2

theorem settlements_nodup (hinv : AttemptInv db) :
    ((settlements db row terminal).map fun u => u.1.source).Nodup := by
  rw [settlements_sources]
  exact hinv.nodup_sources row.id

theorem settledAttempt_source : (settledAttempt v).source = v.1.source := rfl

/-- The associations are written as they stand. -/
theorem updateAttempts_settled (hinv : AttemptInv db) (hv : v ∈ settlements db row terminal) :
    (settled db row terminal owner).updateAttempts
      (fun m => decide (m.child = row.id) && decide (m.source = v.1.source))
      (fun m => { m with settlement := v.2 }) = settled db row terminal owner := by
  rw [Db.updateAttempts, update_eq_self]
  intro m hm hp
  simp only [Bool.and_eq_true, decide_eq_true_eq] at hp
  obtain ⟨hchild, hsource⟩ := hp
  have hmap : m ∈ mappings (settled db row terminal owner) row.id := mem_mappings.mpr ⟨hm, hchild⟩
  rw [settled_mappings hinv] at hmap
  obtain ⟨u, hu, rfl⟩ := List.mem_map.mp hmap
  obtain rfl : u = v := List.inj_on_of_nodup_map (settlements_nodup hinv) hu hv hsource
  rfl

/-- The rows of the sources are written as they stand: a source that is settled has lost its claim,
and one that is blocked is blocked. -/
theorem updateBundle_settled (hinv : AttemptInv db) (hv : v ∈ settlements db row terminal) :
    (settled db row terminal owner).updateBundle v.1.source
      (fun b => b.claim = some v.1.token) (.settleSource v.2) = settled db row terminal owner := by
  rw [Db.updateBundle, update_eq_self]
  intro b hb hp
  simp only [Bool.and_eq_true, decide_eq_true_eq] at hp
  obtain ⟨hid, hclaim⟩ := hp
  have hfind : (settled db row terminal owner).bundle v.1.source = some b := by
    rw [← hid]
    exact find_eq_some (settled_keyed hinv) hb
  have hmatch : claimMatches (settled db row terminal owner) v.1 = true := by
    rw [claimMatches, hfind]
    simpa using hclaim
  -- the claim is still there, so the source was not settled but blocked
  have hblocked : v.2.settled = false := by
    refine Bool.eq_false_iff.mpr fun hs => ?_
    rw [settled_claim_settled hinv hv hs] at hmatch
    cases hmatch
  have hsettle : ∀ a : BundleRow, a.settleSource v.2 = a.block := by
    intro a
    rcases hs : v.2 <;> first | rfl | simp [hs, Settlement.settled] at hblocked
  have hrow : (settled db row terminal owner).bundle v.1.source = _ := settled_bundle_source hinv hv
  rw [hfind] at hrow
  obtain ⟨a, ha, rfl⟩ := Option.map_eq_some_iff.mp hrow.symm
  have haclaim : a.claim = some v.1.token := by
    rw [← hclaim, settleRow]
    split
    · rw [hsettle]
      rfl
    · rfl
  obtain ⟨-, haid⟩ := mem_of_find ha
  rw [settleRow, if_pos (by simp [haid, haclaim]), hsettle, hsettle]
  rfl

/-- Devices that are settled are settled again without a change. -/
theorem DevicesSettled.settleDevices_eq (h : DevicesSettled child V db v) :
    settleDevices child v.1.source v.2 db = db := by
  -- only a restored and a partial source release devices
  rcases hs : v.2 with _ | _ | _ | _
  · rfl
  · have hsources : db.deleteSources (fun m => m.source = v.1.source) = db := by
      rw [Db.deleteSources, delete_eq_self]
      intro m hm
      simpa using h.sources hs m hm
    simp only [settleDevices, hsources]
    rw [Db.deleteWindows, delete_eq_self]
    intro w hw
    by_cases hbundle : w.bundle = some v.1.source
    · obtain ⟨m, hm, hdevice, -⟩ := h.windows hs w hw hbundle
      have hquarantined : db.quarantined w.device = true :=
        List.any_eq_true.mpr ⟨m, hm, by simpa using hdevice⟩
      simp [hquarantined]
    · simp [hbundle]
  · have hsources : db.deleteSources (fun m => decide (m.source = v.1.source) &&
        db.memberships.any fun p => p.releasable child v.1.source && decide (p.device = m.device)) =
          db := by
      rw [Db.deleteSources, delete_eq_self]
      intro m _
      have hnone : (db.memberships.any fun p =>
          p.releasable child v.1.source && decide (p.device = m.device)) = false := by
        refine List.any_eq_false.mpr fun p hp => ?_
        simp [h.memberships hs p hp]
      simp [hnone]
    simp only [settleDevices, hsources]
    rw [Db.updateMemberships, update_eq_self]
    intro p hp hmine
    have hreleased := h.memberships hs p hp
    rw [MembershipRow.releasable, hmine, Bool.true_and, Bool.not_eq_false'] at hreleased
    rw [← hreleased]
  · rfl

/-- The devices of the sources stand settled. -/
theorem settleDevices_settled (horder : InOrder db row terminal)
    (hv : v ∈ settlements db row terminal) :
    settleDevices row.id v.1.source v.2 (settled db row terminal owner) =
      settled db row terminal owner := by
  by_cases hfrozen : frozen db row = true
  · rw [verdict_of_frozen hfrozen hv]
    rfl
  rw [Bool.not_eq_true] at hfrozen
  have hapart : WindowsApart (adoptLegacy db row.id)
      ((settlements db row terminal).map fun v => v.1.source) := by
    rw [settlements_sources]
    exact horder.2.2.2 hfrozen
  have hfold : DevicesSettled row.id (settlements db row terminal)
      ((settlements db row terminal).foldl (settleSource row.id) (adoptLegacy db row.id)) v :=
    (foldl_settleSource_devices (settlements db row terminal) (fun _ h => h) hapart).1 v hv
  refine DevicesSettled.settleDevices_eq (V := settlements db row terminal) ⟨?_, ?_, ?_⟩
  · rw [settled_memberships]
    exact hfold.memberships
  · rw [settled_sources]
    exact hfold.sources
  · rw [settled_sources]
    intro hs w hw hbundle
    -- the windows of the child that are kept belong to no bundle
    rcases mem_settleWindows hw with hw | hnone
    · exact hfold.windows hs w hw hbundle
    · rw [hnone] at hbundle
      cases hbundle

/-- A settlement of one source, written again. -/
theorem settleSource_settled (hinv : AttemptInv db) (horder : InOrder db row terminal)
    (hv : v ∈ settlements db row terminal) :
    settleSource row.id (settled db row terminal owner) (settledAttempt v, v.2) =
      settled db row terminal owner := by
  show settleDevices row.id v.1.source v.2
    (((settled db row terminal owner).updateAttempts _ _).updateBundle
    v.1.source (fun b => b.claim = some v.1.token) (.settleSource v.2)) = _
  rw [settledAttempt_source, updateAttempts_settled hinv hv, updateBundle_settled hinv hv,
    settleDevices_settled horder hv]

theorem foldl_eq_self {A B : Type*} {f : A → B → A} {a : A} {l : List B} (h : ∀ b ∈ l, f a b = a) :
    l.foldl f a = a := by
  induction l with
  | nil => rfl
  | cons b l ih =>
    rw [List.foldl_cons, h b (by simp)]
    exact ih fun c hc => h c (List.mem_cons_of_mem _ hc)

/-- The end of the child, written again. -/
theorem closeChild_settled (hinv : AttemptInv db) (hrow : db.bundle row.id = some row) :
    closeChild row.id (endState db row terminal) (settled db row terminal owner) =
      settled db row terminal owner := by
  rw [closeChild, Db.updateBundle, update_eq_self]
  intro b hb hp
  simp only [Bool.and_eq_true, decide_eq_true_eq] at hp
  have hfind : (settled db row terminal owner).bundle row.id = some b := by
    rw [← hp.1]
    exact find_eq_some (settled_keyed hinv) hb
  rw [settled_bundle_child hrow, closedRow_eq hinv] at hfind
  obtain rfl := Option.some.inj hfind
  by_cases hcompensated : row.state = .compensated
  · -- a source that was restored stays `compensated`
    have hstate : (closeRow row.id (endState db row terminal) (adoptRow db row.id row)).state =
        .compensated := by
      rw [closeRow, if_neg (by simp [(adoptRow_total row).2, hcompensated]), (adoptRow_total row).2,
        hcompensated]
    exact absurd hstate hp.2
  · rw [closeRow, if_pos (by simp [(adoptRow_total row).2, hcompensated])]

/-- **A settlement in order, repeated, changes nothing.** -/
theorem finalizeRecoveryChild_repeated {db' : Db} (hinv : AttemptInv db)
    (horder : ∀ row ∈ db.bundles, row.id = child → InOrder db row terminal)
    (h : finalizeRecoveryChild db child terminal owner = some db') :
    finalizeRecoveryChild db' child terminal owner = some db' := by
  obtain ⟨row, hrow, hterminal, hne, hproofs, rfl⟩ := finalizeRecoveryChild_eq_some.mp h
  obtain ⟨hmem, rfl⟩ := mem_of_find hrow
  have horder := horder row hmem rfl
  obtain ⟨hplan, hkept, -, -⟩ := id horder
  have hid : (closedRow db row terminal).id = row.id := by rw [closedRow_eq hinv]; simp
  -- no legacy association is left to adopt
  have hagain : adoptLegacy (settled db row terminal owner) row.id =
    settled db row terminal owner :=
    adoptLegacy_settled hinv hkept
  refine finalizeRecoveryChild_eq_some.mpr
    ⟨closedRow db row terminal, settled_bundle_child hrow, hterminal, ?_, ?_, ?_⟩
  · rw [settled_mappings hinv]
    intro hnil
    have hnone := List.map_eq_nil_iff.mp hnil
    rw [settlements, verdicts] at hnone
    exact hne (List.map_eq_nil_iff.mp hnone)
  · intro m hm
    rw [settled_mappings hinv] at hm
    obtain ⟨v, hv, rfl⟩ := List.mem_map.mp hm
    have hproof := hproofs v.1 (mem_settlements.mp hv).1
    have hsource : (settled db row terminal owner).bundle v.1.source = _ :=
      settled_bundle_source hinv hv
    simp only [sourceProof, Option.isSome_map] at hproof ⊢
    rw [hagain, settledAttempt_source, hsource, Option.isSome_map]
    exact hproof
  -- the same sources are settled, with the same verdicts
  · have hlist : settlements (settled db row terminal owner) (closedRow db row terminal) terminal =
      _ :=
      settlements_settled hinv hterminal hkept hplan
    rw [settled, hid, hagain, hlist, writeVerdicts]
    have hsnd : (((settlements db row terminal).map fun v => (settledAttempt v,
      v.2)).map Prod.snd) =
        (settlements db row terminal).map Prod.snd := by
      rw [List.map_map]
      rfl
    rw [hsnd, foldl_eq_self]
    · show settleWindows _ _ _ (closeChild row.id (endState db row terminal) _) = _
      rw [closeChild_settled hinv hrow]
      exact settleWindows_settleWindows _
    · intro u hu
      obtain ⟨v, hv, rfl⟩ := List.mem_map.mp hu
      exact settleSource_settled hinv horder hv

end Rerouter
