import Mathlib.Data.List.MinMax
import Mathlib.Data.Prod.Lex
import Rerouter.RecoveryRuns

/-!
# Scheduled recoveries

An activation may carry a timer. When its deadline has passed, the background scheduler is to
recover it without an operator: it takes the due activation with the earliest deadline, proves
what that one still owns, publishes a child for the inverses and claims the source for it
(`Rerouter.admitOneDueWithFailure`); a worker then prepares the inverses
(`Rerouter.prepareRollbacks`) and writes them down as the ledger of the child
(`Rerouter.persistActions`).

The choice is made before the proof. A due activation whose proof fails is refused and stays
scheduled, so that it is chosen again at the next pass: the activations behind it are recovered
only if the first one may be (`Rerouter.admits_iff`).
-/

namespace Rerouter

open Table

/-! ### The timer -/

/-- A timer that may run: a whole number of seconds, from a minute to a week. -/
def BundleRow.validTimer (b : BundleRow) : Bool :=
  b.revertAfter.any fun s => decide (60 ≤ s) && decide (s ≤ 604800)

/-- A run whose recovery is due: scheduled, the deadline passed, neither claimed nor cancelled. -/
def BundleRow.due (now : ℕ) (b : BundleRow) : Bool :=
  decide (b.lifecycle = .recoveryScheduled) && (b.deadline.any fun t => decide (t ≤ now)) &&
    b.claim.isNone &&
    b.validTimer && decide (b.mode ≠ .configurationOnly) && !b.cancelled

/-- `ORDER BY recovery_deadline, id`. -/
def BundleRow.deadlineKey (b : BundleRow) : ℕ ×ₗ ℕ := toLex (b.deadline.getD 0, b.id)

/-- The due run with the earliest deadline. -/
def candidate (db : Db) (now : ℕ) : Option BundleRow :=
  (db.bundles.filter (BundleRow.due now)).argmin BundleRow.deadlineKey

/-! ### Admission -/

/-- The recovery child, as it is published. -/
def recoveryChild (child source now : ℕ) (originals : List ℕ) : BundleRow :=
  { id := child, mode := .routing, createdAt := now, total := originals.length,
    parent := some source
    published := true, sourceOriginals := originals }

/-- `admit_one_due_with_failure`: the child and the database it is published in, or nothing
where no run is due. A refusal rolls the transaction back. -/
def admitOneDueWithFailure (db : Db) (enforce automaticActionsEnabled : Bool) (now child : ℕ)
    (token : ClaimToken) (failBeforeCommit : Bool) : Option (Option (ℕ × Db)) :=
  if !enforce || !automaticActionsEnabled then some none
  else
    match candidate db now with
    | none => some none
    | some source =>
      match ownershipForSources db [source.id] with
      | none => none
      | some (_, originals) =>
        if originals = [] then none
        else
          match claimSourcesForChild (db.addBundle (recoveryChild child source.id now originals))
            child
            [source.id] originals token false with
          | none => none
          | some next => if failBeforeCommit then none else some (some (child, next))

/-! ### The worker -/

/-- An inverse that a recovery is to run. -/
structure RollbackAction where
  device : ℕ
  mode : VerificationMode
  position : ℕ
  /-- `original_reroute_id`. -/
  original : ℕ
deriving DecidableEq

/-- An inverse of the original is active, uncertain or verified. -/
def hasRollback (db : Db) (original : ℕ) : Bool :=
  db.reroutes.any fun r => decide (r.rollbackOf = some original) &&
    (r.state.inFlight || decide (r.state = .uncertain) || decide (r.state = .succeeded))

/-- `prepare_rollbacks` for one original: what changed nothing is left out. `inverse` is the
verification mode of the stored inverse of an original, where it has one. -/
def prepareRollback (db : Db) (inverse : ℕ → Option VerificationMode)
    (actions : List RollbackAction) (original : ℕ) : Option (List RollbackAction) :=
  match db.reroute original with
  | none => none
  | some row =>
    if row.rollbackOf.isSome then none
    else if row.effect = .noop then some actions
    else if ¬ (row.effect = .changed ∧ (row.state = .succeeded ∨ row.state = .failed)) then none
    else if hasRollback db original then none
    else (inverse original).map fun mode =>
      actions ++ [⟨row.device, mode, actions.length, original⟩]

/-- `prepare_rollbacks`. -/
def prepareRollbacks (db : Db) (inverse : ℕ → Option VerificationMode) (originals : List ℕ) :
    Option (List RollbackAction) :=
  originals.foldlM (prepareRollback db inverse) []

/-- The sibling of a bundle that is to run an inverse. -/
def RollbackAction.slot (bundle : ℕ) (a : RollbackAction) : BundleActionRow :=
  { bundle, position := a.position, device := a.device, mode := a.mode,
    original := some a.original }

/-- `persist_actions`: a ledger that is there already is kept, if it has as many actions. -/
def persistActions (db : Db) (bundle : ℕ) (actions : List RollbackAction) : Option Db :=
  if actions = [] then none
  else if bundleLedger db bundle ≠ [] then
    if (bundleLedger db bundle).length = actions.length then some db else none
  else some { db with actions := db.actions ++ actions.map (RollbackAction.slot bundle) }

/-! ### What is to hold -/

/-- A run whose ownership is proved, and that owns a mutation. -/
def admissible (db : Db) (source : ℕ) : Bool :=
  (ownershipForSources db [source]).any fun ownership => decide (ownership.2 ≠ [])

/-- Where a due run may be recovered, the scheduler recovers one. -/
def Unblocked (db : Db) (now child : ℕ) (token : ClaimToken) : Prop :=
  (∃ b ∈ db.bundles, b.due now = true ∧ admissible db b.id = true) →
    ∃ admitted, admitOneDueWithFailure db true true now child token false = some (some admitted)

/-- A child is for a due run and for all that run owns, newest first; and so is its ledger, once
the worker has written it. -/
def LedgerOwned (db : Db) (now child : ℕ) (token : ClaimToken) : Prop :=
  ∀ recovery next, admitOneDueWithFailure db true true now child token false =
      some (some (recovery, next)) →
    ∃ source ∈ db.bundles, source.due now = true ∧ ∃ row, next.bundle recovery = some row ∧
      row.parent = some source.id ∧ row.total = row.sourceOriginals.length ∧
      row.sourceOriginals.Pairwise (· > ·) ∧
      (∀ id, id ∈ row.sourceOriginals ↔ id ∈ ownedOriginals db source.id) ∧
      ∀ inverse actions, prepareRollbacks next inverse row.sourceOriginals = some actions →
        ∃ final, persistActions next recovery actions = some final ∧
          (bundleLedger final recovery).map BundleActionRow.original =
          row.sourceOriginals.map some ∧
          (bundleLedger final recovery).map BundleActionRow.position = List.range row.total

/-- The due run with the earliest deadline may be recovered, if any due run may. -/
def FirstAdmissible (db : Db) (now : ℕ) : Prop :=
  ∀ b ∈ db.bundles, b.due now = true →
    (∀ b' ∈ db.bundles, b'.due now = true → b.deadlineKey ≤ b'.deadlineKey) →
    (∃ b' ∈ db.bundles, b'.due now = true ∧ admissible db b'.id = true) → admissible db b.id = true

/-! ### The choice -/

section Choice

variable {db : Db} {now : ℕ} {b : BundleRow}

theorem candidate_eq_some (h : candidate db now = some b) :
    b ∈ db.bundles ∧ b.due now = true ∧
      ∀ b' ∈ db.bundles, b'.due now = true → b.deadlineKey ≤ b'.deadlineKey := by
  have hmem : b ∈ (db.bundles.filter (BundleRow.due now)).argmin BundleRow.deadlineKey := h
  obtain ⟨hb, hdue⟩ := List.mem_filter.mp (List.argmin_mem hmem)
  exact ⟨hb, hdue, fun b' hb' hdue' =>
    List.le_of_mem_argmin (List.mem_filter.mpr ⟨hb', hdue'⟩) hmem⟩

theorem exists_candidate (hb : b ∈ db.bundles) (hdue : b.due now = true) :
    ∃ source, candidate db now = some source := by
  refine Option.ne_none_iff_exists'.mp fun hnone => ?_
  have hempty : db.bundles.filter (BundleRow.due now) = [] := List.argmin_eq_none.mp hnone
  exact List.ne_nil_of_mem (List.mem_filter.mpr ⟨hb, hdue⟩) hempty

/-- No two runs have the same deadline and the same key. -/
theorem deadlineKey_inj (hkeyed : Keyed BundleRow.id db.bundles) {b' : BundleRow}
    (hb : b ∈ db.bundles) (hb' : b' ∈ db.bundles) (h : b.deadlineKey = b'.deadlineKey) : b = b' :=
  hkeyed.eq_of_key_eq hb hb' (congrArg Prod.snd (toLex.injective h))

end Choice

/-! ### Ownership -/

section Ownership

variable {db next : Db} {source : ℕ}

theorem ownershipForSources_singleton (db : Db) (source : ℕ) :
    ownershipForSources db [source] =
      if recoverable db source then
        some ([source], (ownedOriginals db source).insertionSort (· ≥ ·)) else none := by
  have hsort : ([source].insertionSort (· ≤ ·)).dedup = [source] := rfl
  simp only [ownershipForSources, hsort, List.all_cons, List.all_nil, Bool.and_true,
    List.flatMap_cons, List.flatMap_nil, List.append_nil, List.cons_ne_nil, false_or]
  by_cases h : recoverable db source = true <;> simp [h]

theorem admissible_iff : admissible db source = true ↔
    recoverable db source = true ∧ ownedOriginals db source ≠ [] := by
  have hnil : (ownedOriginals db source).insertionSort (· ≥ ·) = [] ↔
    ownedOriginals db source = [] := by
    rw [← List.length_eq_zero_iff, List.length_insertionSort, List.length_eq_zero_iff]
  rw [admissible, ownershipForSources_singleton]
  by_cases h : recoverable db source = true <;> simp [h, hnil]

theorem ownedOriginals_congr (h : next.reroutes = db.reroutes) (source : ℕ) :
    ownedOriginals next source = ownedOriginals db source := by
  simp only [ownedOriginals, inverted, originals_congr h, h]

end Ownership

/-! ### The child -/

/-- The primary keys, and the foreign keys of an id that was not given out yet. -/
structure NewBundle (db : Db) (child : ℕ) : Prop where
  bundles : Keyed BundleRow.id db.bundles
  reroutes : Keyed RerouteRow.id db.reroutes
  bundle : ∀ b ∈ db.bundles, b.id ≠ child
  attempt : ∀ m ∈ db.attempts, m.child ≠ child
  slot : ∀ a ∈ db.actions, a.bundle ≠ child

section Child

variable {db : Db} {child now : ℕ} {token : ClaimToken} {source : BundleRow} {owned : List ℕ}

/-- What the publication of a child leaves as it was. -/
theorem addBundle_bundle {row : BundleRow} (h : source ∈ db.bundles)
    (hkeyed : Keyed BundleRow.id db.bundles) :
    (db.addBundle row).bundle source.id = some source := by
  rw [Db.bundle, Db.addBundle, find, List.find?_append]
  have hfind : db.bundles.find? (fun b => decide (b.id = source.id)) = some source :=
    find_eq_some hkeyed h
  rw [hfind]
  rfl

theorem addBundle_bundle_child {row : BundleRow} (h : ∀ b ∈ db.bundles, b.id ≠ row.id) :
    (db.addBundle row).bundle row.id = some row := by
  rw [Db.bundle, Db.addBundle, find, List.find?_append]
  have hfind : db.bundles.find? (fun b => decide (b.id = row.id)) = none := find_eq_none.mpr h
  rw [hfind]
  simp

theorem ownershipForSources_addBundle {row : BundleRow} (h : source ∈ db.bundles)
    (hkeyed : Keyed BundleRow.id db.bundles) :
    ownershipForSources (db.addBundle row) [source.id] = ownershipForSources db [source.id] := by
  have hrow : (db.addBundle row).bundle source.id = (db.bundle source.id).map id := by
    rw [Option.map_id, id, addBundle_bundle h hkeyed]
    exact (find_eq_some hkeyed h).symm
  have hrecoverable : recoverable (db.addBundle row) source.id = recoverable db source.id :=
    recoverable_congr rfl rfl hrow fun b => ⟨rfl, rfl, rfl⟩
  have howned : ownedOriginals (db.addBundle row) source.id = ownedOriginals db source.id :=
    ownedOriginals_congr rfl source.id
  rw [ownershipForSources_singleton, ownershipForSources_singleton, hrecoverable, howned]

theorem claimMembership_ledgers (child : ℕ) (db : Db) (original : ℕ) :
    (claimMembership child db original).reroutes = db.reroutes ∧
      (claimMembership child db original).actions = db.actions := by
  have hadd : ∀ r, (db.addSource r).reroutes = db.reroutes ∧
    (db.addSource r).actions = db.actions := by
    intro r
    rw [Db.addSource]
    split <;> exact ⟨rfl, rfl⟩
  rw [claimMembership]
  rcases db.reroute original with _ | r
  · exact ⟨rfl, rfl⟩
  rcases hbundle : r.bundle with _ | source
  · simp [hbundle]
  simp only [hbundle]
  split_ifs <;> exact hadd _

theorem foldl_claimMembership_ledgers (child : ℕ) (owned : List ℕ) (db : Db) :
    (owned.foldl (claimMembership child) db).reroutes = db.reroutes ∧
      (owned.foldl (claimMembership child) db).actions = db.actions := by
  induction owned generalizing db with
  | nil => exact ⟨rfl, rfl⟩
  | cons o owned ih =>
    obtain ⟨hreroutes, hactions⟩ := ih (claimMembership child db o)
    obtain ⟨hr, ha⟩ := claimMembership_ledgers child db o
    exact ⟨hreroutes.trans hr, hactions.trans ha⟩

/-- A due run is neither claimed nor cancelled. -/
theorem claimable_of_due (h : source.due now = true) : source.claimable token false = true := by
  simp only [BundleRow.due, Bool.and_eq_true, Bool.not_eq_true'] at h
  simp [BundleRow.claimable, h.1.1.1.2, h.2]

/-- **The claim of a due run whose ownership is proved succeeds**, and publishes the child. -/
theorem claim_recoveryChild (hnew : NewBundle db child) (hsource : source ∈ db.bundles)
    (hdue : source.due now = true) (hrecoverable : recoverable db source.id = true)
    (howned : (ownedOriginals db source.id).insertionSort (· ≥ ·) = owned) :
    ∃ next, claimSourcesForChild (db.addBundle (recoveryChild child source.id now owned))
      child [source.id]
        owned token false = some next ∧
      next.reroutes = db.reroutes ∧ next.actions = db.actions ∧
      next.bundle child = some (recoveryChild child source.id now owned) := by
  set published := db.addBundle (recoveryChild child source.id now owned) with hpublished
  have hownership : ownershipForSources published [source.id] = some ([source.id], owned) := by
    rw [ownershipForSources_addBundle hsource hnew.bundles, ownershipForSources_singleton,
      if_pos hrecoverable, howned]
  have hsorted : owned.insertionSort (· ≥ ·) = owned := by
    rw [← howned]
    exact (List.pairwise_insertionSort _ _).insertionSort_eq
  have hrow : published.bundle source.id = some source := addBundle_bundle hsource hnew.bundles
  have hother : published.bundle child = some (recoveryChild child source.id now owned) :=
    @addBundle_bundle_child db (recoveryChild child source.id now owned) hnew.bundle
  have hattempt :
      (published.attempts.any fun m =>
        decide (m.child = child) && decide (m.source = source.id)) = false := by
    refine List.any_eq_false.mpr fun m hm => ?_
    simp [hnew.attempt m hm]
  -- the source is claimed and mapped to the child; neither touches the child's own row
  set claimed : Db :=
    { published.updateBundle source.id (BundleRow.claimable token false)
        (.claimFor child token false) with
      attempts := published.attempts ++ [⟨child, source.id, token, .active⟩] } with hclaimed
  have hclaim : claimSource child token false published source.id = some claimed := by
    rw [claimSource, hrow]
    simp only [Option.any_some, claimable_of_due hdue, not_true_eq_false, if_false]
    simp only [hattempt, Bool.false_eq_true, if_false]
    rfl
  refine ⟨owned.foldl (claimMembership child) claimed, ?_, ?_, ?_, ?_⟩
  · rw [claimSourcesForChild, hownership]
    simp only [hsorted, ne_eq, not_true_eq_false, if_false, List.foldlM_cons,
      List.foldlM_nil, hclaim]
    rfl
  · exact (foldl_claimMembership_ledgers child owned claimed).1
  · exact (foldl_claimMembership_ledgers child owned claimed).2
  · have hbundles : (owned.foldl (claimMembership child) claimed).bundles = claimed.bundles :=
      (foldl_claimMembership_frame child owned claimed).1
    have hne : child ≠ source.id := (hnew.bundle source hsource).symm
    have hid : ∀ b : BundleRow, (if decide (b.id = source.id) && b.claimable token false
        then b.claimFor child token false else b).id = b.id := by
      intro b
      split <;> rfl
    rw [Db.bundle, hbundles]
    change find BundleRow.id child (update _ _ published.bundles) = _
    rw [update, find_map hid]
    change (published.bundle child).map _ = _
    rw [hother, Option.map_some]
    simp [recoveryChild, hne]

end Child

/-! ### The ledger -/

section Ledger

variable {db : Db} {inverse : ℕ → Option VerificationMode} {originals : List ℕ}

theorem prepareRollback_eq_some {acc actions : List RollbackAction} {original : ℕ}
    (hchanged : ∀ row, db.reroute original = some row → row.effect = .changed)
    (h : prepareRollback db inverse acc original = some actions) :
    ∃ device mode, actions = acc ++ [⟨device, mode, acc.length, original⟩] := by
  rw [prepareRollback] at h
  rcases hrow : db.reroute original with _ | row
  · simp [hrow] at h
  simp only [hrow, hchanged row hrow, reduceCtorEq, if_false, true_and] at h
  split_ifs at h
  obtain ⟨mode, -, rfl⟩ := Option.map_eq_some_iff.mp h
  exact ⟨row.device, mode, rfl⟩

/-- The inverses of originals that all changed something are in the order of the originals, and
numbered in it. -/
theorem foldlM_prepareRollback
    (hchanged : ∀ o ∈ originals, ∀ row, db.reroute o = some row → row.effect = .changed)
    {acc actions : List RollbackAction}
    (hacc : acc.map RollbackAction.position = List.range acc.length)
    (h : originals.foldlM (prepareRollback db inverse) acc = some actions) :
    actions.map RollbackAction.original = acc.map RollbackAction.original ++ originals ∧
      actions.map RollbackAction.position = List.range actions.length := by
  induction originals generalizing acc with
  | nil =>
    obtain rfl : acc = actions := Option.some.inj h
    exact ⟨(List.append_nil _).symm, hacc⟩
  | cons o originals ih =>
    rw [List.foldlM_cons] at h
    obtain ⟨acc', hstep, hrest⟩ := Option.bind_eq_some_iff.mp h
    obtain ⟨device, mode, rfl⟩ := prepareRollback_eq_some (hchanged o List.mem_cons_self) hstep
    set action : RollbackAction := ⟨device, mode, acc.length, o⟩ with haction
    have hacc' : (acc ++ [action]).map RollbackAction.position =
      List.range (acc ++ [action]).length := by
      rw [List.map_append, hacc, List.length_append, List.length_singleton, List.range_succ]
      rfl
    obtain ⟨horiginal, hposition⟩ :=
      ih (fun o' ho' => hchanged o' (List.mem_cons_of_mem _ ho')) hacc' hrest
    refine ⟨?_, hposition⟩
    rw [horiginal, List.map_append, List.append_assoc]
    rfl

theorem effect_of_mem_ownedOriginals (hkeyed : Keyed RerouteRow.id db.reroutes) {source o : ℕ}
    (ho : o ∈ ownedOriginals db source) {row : RerouteRow} (hrow : db.reroute o = some row) :
    row.effect = .changed := by
  obtain ⟨r, hr, rfl⟩ := List.mem_map.mp ho
  obtain ⟨hroot, howned⟩ := List.mem_filter.mp hr
  have hfind : db.reroute r.id = some r := find_eq_some hkeyed (List.mem_filter.mp hroot).1
  obtain rfl : r = row := Option.some.inj (hfind.symm.trans hrow)
  simp only [Bool.and_eq_true, decide_eq_true_eq] at howned
  exact howned.1.2

theorem nodup_ownedOriginals (hkeyed : Keyed RerouteRow.id db.reroutes) (source : ℕ) :
    (ownedOriginals db source).Nodup := by
  have hsub : (ownedOriginals db source).Sublist (db.reroutes.map RerouteRow.id) :=
    ((List.filter_sublist (p := _)).trans (List.filter_sublist (p := _))).map _
  exact hkeyed.sublist hsub

/-- Newest first, each once. -/
theorem pairwise_owned (hkeyed : Keyed RerouteRow.id db.reroutes) (source : ℕ) :
    ((ownedOriginals db source).insertionSort (· ≥ ·)).Pairwise (· > ·) := by
  have hnodup : ((ownedOriginals db source).insertionSort (· ≥ ·)).Nodup :=
    (List.perm_insertionSort _ _).nodup_iff.mpr (nodup_ownedOriginals hkeyed source)
  exact ((List.pairwise_insertionSort (· ≥ ·) (ownedOriginals db source)).and hnodup).imp
    fun h => lt_of_le_of_ne h.1 h.2.symm

/-- The ledger of a child that has none yet. -/
theorem persistActions_new {bundle : ℕ} {actions : List RollbackAction}
    (hslot : ∀ a ∈ db.actions, a.bundle ≠ bundle) (hne : actions ≠ []) :
    ∃ final, persistActions db bundle actions = some final ∧
      bundleLedger final bundle = actions.map (RollbackAction.slot bundle) := by
  have hempty : bundleLedger db bundle = [] :=
    List.filter_eq_nil_iff.mpr fun a ha => by simpa using hslot a ha
  refine ⟨{ db with actions := db.actions ++ actions.map (RollbackAction.slot bundle) }, ?_, ?_⟩
  · simp [persistActions, hne, hempty]
  · have hkept : (actions.map (RollbackAction.slot bundle)).filter
      (fun a => decide (a.bundle = bundle)) =
        actions.map (RollbackAction.slot bundle) := by
      refine List.filter_eq_self.mpr fun a ha => ?_
      obtain ⟨action, -, rfl⟩ := List.mem_map.mp ha
      simp [RollbackAction.slot]
    change (db.actions ++ _).filter _ = _
    rw [List.filter_append, hkept]
    change bundleLedger db bundle ++ _ = _
    rw [hempty, List.nil_append]

end Ledger

/-! ### Which runs are recovered -/

section Admission

variable {db : Db} {now child : ℕ} {token : ClaimToken} {source : BundleRow}

/-- **What an admission is.** The due run with the earliest deadline may be recovered, and its
child holds what it owns. -/
theorem admitOneDue_of_candidate (hnew : NewBundle db child)
    (hcandidate : candidate db now = some source) (hadmissible : admissible db source.id = true) :
    ∃ next, admitOneDueWithFailure db true true now child token false = some (some (child, next)) ∧
      next.reroutes = db.reroutes ∧ next.actions = db.actions ∧
      next.bundle child = some (recoveryChild child source.id now
        ((ownedOriginals db source.id).insertionSort (· ≥ ·))) := by
  obtain ⟨hsource, hdue, -⟩ := candidate_eq_some hcandidate
  obtain ⟨hrecoverable, howned⟩ := admissible_iff.mp hadmissible
  obtain ⟨next, hclaim, hreroutes, hactions, hrow⟩ :=
    @claim_recoveryChild db child now token source _ hnew hsource hdue hrecoverable rfl
  have hne : (ownedOriginals db source.id).insertionSort (· ≥ ·) ≠ [] := by
    rwa [ne_eq, ← List.length_eq_zero_iff, List.length_insertionSort, List.length_eq_zero_iff]
  refine ⟨next, ?_, hreroutes, hactions, hrow⟩
  rw [admitOneDueWithFailure]
  simp only [Bool.not_true, Bool.or_false, Bool.false_eq_true, if_false, hcandidate,
    ownershipForSources_singleton, if_pos hrecoverable, if_neg hne, hclaim]

theorem candidate_of_admitOneDue {admitted : ℕ × Db}
    (h : admitOneDueWithFailure db true true now child token false = some (some admitted)) :
    ∃ source, candidate db now = some source ∧ admissible db source.id = true := by
  rw [admitOneDueWithFailure] at h
  simp only [Bool.not_true, Bool.or_false, Bool.false_eq_true, if_false] at h
  rcases hcandidate : candidate db now with _ | source
  · simp [hcandidate] at h
  rcases howned : ownershipForSources db [source.id] with _ | ⟨sources, originals⟩
  · simp [hcandidate, howned] at h
  simp only [hcandidate, howned] at h
  split_ifs at h with hempty
  exact ⟨source, rfl, by simp [admissible, howned, hempty]⟩

/-- **What is admitted is exactly what is owned.** -/
theorem ledgerOwned (hnew : NewBundle db child) : LedgerOwned db now child token := by
  intro recovery next hadmitted
  obtain ⟨source, hcandidate, hadmissible⟩ := candidate_of_admitOneDue hadmitted
  obtain ⟨next', hadmitted', hreroutes, hactions, hrow⟩ :=
    admitOneDue_of_candidate hnew hcandidate hadmissible
  obtain ⟨rfl, rfl⟩ := Prod.mk.inj
    (Option.some.inj (Option.some.inj (hadmitted'.symm.trans hadmitted)))
  obtain ⟨hsource, hdue, -⟩ := candidate_eq_some hcandidate
  refine ⟨source, hsource, hdue, _, hrow, rfl, rfl, pairwise_owned hnew.reroutes _,
    fun id => List.mem_insertionSort _, fun inverse actions hactions' => ?_⟩
  -- each owned original has changed the device, so each gets an inverse
  have hchanged : ∀ o ∈ (ownedOriginals db source.id).insertionSort (· ≥ ·), ∀ row,
      next'.reroute o = some row → row.effect = .changed := by
    intro o ho row hrow'
    rw [Db.reroute, hreroutes] at hrow'
    exact effect_of_mem_ownedOriginals hnew.reroutes ((List.mem_insertionSort _).mp ho) hrow'
  obtain ⟨horiginal, hposition⟩ := foldlM_prepareRollback hchanged rfl hactions'
  have hne : actions ≠ [] := by
    rintro rfl
    have hlength := congrArg List.length horiginal
    simp only [List.map_nil, List.nil_append, List.length_nil, List.length_insertionSort] at hlength
    exact (admissible_iff.mp hadmissible).2 (List.length_eq_zero_iff.mp hlength.symm)
  -- no action stands in the slots of the new bundle yet
  have hslot : ∀ a ∈ next'.actions, a.bundle ≠ child := by
    rw [hactions]
    exact hnew.slot
  obtain ⟨final, hfinal, hledger⟩ := persistActions_new hslot hne
  have hlength : actions.length = ((ownedOriginals db source.id).insertionSort (· ≥ ·)).length := by
    have := congrArg List.length horiginal
    simpa using this
  refine ⟨final, hfinal, ?_, ?_⟩
  · rw [hledger, List.map_map]
    change actions.map (some ∘ RollbackAction.original) = _
    rw [← List.map_map, horiginal]
    rfl
  · rw [hledger, List.map_map]
    change actions.map RollbackAction.position = _
    rw [hposition, hlength]
    rfl

/-- **One stuck run blocks the others.** The scheduler recovers a due run whenever one may be
recovered, and always for all it owns, if and only if the due run with the earliest deadline is
among those that may be. -/
theorem admits_iff (hnew : NewBundle db child) :
    (Unblocked db now child token ∧ LedgerOwned db now child token) ↔ FirstAdmissible db now := by
  constructor
  · rintro ⟨hunblocked, -⟩ b hb hdue hfirst hexists
    obtain ⟨admitted, hadmitted⟩ := hunblocked hexists
    obtain ⟨source, hcandidate, hadmissible⟩ := candidate_of_admitOneDue hadmitted
    obtain ⟨hsource, hsourceDue, hleast⟩ := candidate_eq_some hcandidate
    obtain rfl : source = b := deadlineKey_inj hnew.bundles hsource hb
      (le_antisymm (hleast b hb hdue) (hfirst source hsource hsourceDue))
    exact hadmissible
  · intro hfirst
    refine ⟨fun hexists => ?_, ledgerOwned hnew⟩
    obtain ⟨source, hcandidate⟩ : ∃ source, candidate db now = some source := by
      obtain ⟨b, hb, hdue, -⟩ := hexists
      exact exists_candidate hb hdue
    obtain ⟨hsource, hsourceDue, hleast⟩ := candidate_eq_some hcandidate
    obtain ⟨next, hadmitted, -⟩ :=
      @admitOneDue_of_candidate db now child token source hnew hcandidate
      (hfirst source hsource hsourceDue hleast hexists)
    exact ⟨(child, next), hadmitted⟩

/-- A succeeded run whose timer has run out. -/
def timedRun (id deadline : ℕ) : BundleRow :=
  { id, mode := .routing, createdAt := 0, state := .succeeded, total := 1,
    lifecycle := .recoveryScheduled, remaining := 1, deadline := some deadline,
    revertAfter := some 60 }

/-- The one action of a run. -/
def timedAction (id : ℕ) : RerouteRow :=
  { id, device := id, bundle := some id, rollbackOf := none, trigger := .manual, mode := .routing
    createdAt := 0, state := .succeeded, effect := .changed, position := some 0 }

/-- Two runs that are due, with the inverses in `inverses`. -/
def timedRuns (inverses : List RerouteRow) : Db :=
  { reroutes := [timedAction 1, timedAction 2] ++ inverses
    bundles := [timedRun 1 10, timedRun 2 20]
    actions := [1, 2].map fun id =>
      { bundle := id, position := 0, device := id, mode := .routing, state := .succeeded,
        effect := .changed, reroute := some id } }

/-- An inverse of the first run's action whose outcome is not known. -/
def openInverse : RerouteRow :=
  { id := 3, device := 1, bundle := none, rollbackOf := some 1, trigger := .rollback,
    mode := .routing, createdAt := 1, state := .uncertain, effect := .unknown }

/-- Nothing keeps the two runs from being recovered. -/
theorem admits_timedRuns :
    Unblocked (timedRuns []) 30 3 (.minted 0) ∧ LedgerOwned (timedRuns []) 30 3 (.minted 0) := by
  have hnew : NewBundle (timedRuns []) 3 :=
    ⟨by unfold Keyed; decide, by unfold Keyed; decide, by decide, by decide, by decide⟩
  refine (admits_iff hnew).mpr ?_
  unfold FirstAdmissible
  decide +kernel

/-- The first run is not recoverable, the second one is, and none is recovered. -/
theorem not_unblocked_openInverse :
    NewBundle (timedRuns [openInverse]) 3 ∧
      ¬ Unblocked (timedRuns [openInverse]) 30 3 (.minted 0) := by
  refine ⟨⟨by unfold Keyed; decide, by unfold Keyed; decide, by decide, by decide, by decide⟩,
    fun h => ?_⟩
  obtain ⟨admitted, hadmitted⟩ := h ⟨timedRun 2 20, by decide, by decide, by decide⟩
  have hrefused : admitOneDueWithFailure (timedRuns [openInverse]) true true 30 3
    (.minted 0) false = none := by
    rfl
  rw [hrefused] at hadmitted
  cases hadmitted

end Admission

end Rerouter
