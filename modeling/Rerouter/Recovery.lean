import Mathlib.Data.List.Dedup
import Mathlib.Data.List.Sort
import Rerouter.Executor

/-!
# Recovery of an activation

A recovery is a bundle of inverses, the child; the activations whose actions it inverts are its
sources. `reroute/recovery.rs` decides what a source still owns
(`Rerouter.ownershipForSources`), lets a child claim it (`Rerouter.claimSourcesForChild`), and
settles all sources of a child at once when the child ends
(`Rerouter.finalizeRecoveryChild`).

A source is restored, or it is known that nothing was written and the recovery may be retried,
or the outcome is not proved and the source stays blocked. What is known about one source
binds the others: one doubt about the child freezes them all.
-/

namespace Rerouter

open Table

/-! ### What a source owns -/

/-- The actions of a bundle that invert nothing. -/
def originals (db : Db) (bundle : ℕ) : List RerouteRow :=
  db.reroutes.filter fun r => decide (r.bundle = some bundle) && r.rollbackOf.isNone

/-- `mutation_effect IN ('changed','unknown')`. -/
def RerouteRow.mutated (r : RerouteRow) : Bool :=
  decide (r.effect = .changed) || decide (r.effect = .unknown)

/-- A succeeded inverse: `state = 'succeeded' AND mutation_effect IN ('changed','noop')`. -/
def RerouteRow.restores (r : RerouteRow) (original : ℕ) : Bool :=
  decide (r.rollbackOf = some original) && decide (r.state = .succeeded) &&
    (decide (r.effect = .changed) || decide (r.effect = .noop))

/-- Whether an action has a succeeded inverse. -/
def inverted (db : Db) (original : ℕ) : Bool := db.reroutes.any fun r => r.restores original

/-- The actions of a bundle that changed its device, or may have, and were not inverted. -/
def remainingOriginals (db : Db) (bundle : ℕ) : List RerouteRow :=
  (originals db bundle).filter fun r => r.mutated && !inverted db r.id

/-- An inverse whose outcome is open. -/
def RerouteRow.openInverse (r : RerouteRow) (original : ℕ) : Bool :=
  decide (r.rollbackOf = some original) &&
    (r.state.inFlight || decide (r.state = .uncertain) ||
      ((decide (r.effect = .pending) || decide (r.effect = .unknown) || decide (r.effect =
        .changed)) &&
        decide (r.state ≠ .succeeded)))

/-- An action whose effect is not known, or whose inverse's is not. -/
def ambiguousEffect (db : Db) (r : RerouteRow) : Bool :=
  r.state.inFlight || decide (r.state = .uncertain) || decide (r.effect = .pending) ||
    decide (r.effect = .unknown) || db.reroutes.any fun i => i.openInverse r.id

/-- A sibling that is linked to the action that carried it out. -/
def linkedSlot (db : Db) (a : BundleActionRow) : Bool :=
  (originals db a.bundle).any fun r =>
    decide (a.reroute = some r.id) && decide (r.position = some a.position)

/-- A sibling that nothing carried out. -/
def BundleActionRow.unwritten (a : BundleActionRow) : Bool :=
  a.reroute.isNone &&
    (decide (a.state = .queued) || decide (a.state = .noop) || decide (a.state = .failed) ||
      decide (a.state = .compensated)) &&
    (decide (a.effect = .pending) || decide (a.effect = .noop))

/-- `SourceProof`. -/
structure SourceProof where
  rootOriginals : ℕ
  completeActivationCoverage : Bool
  ambiguousEffects : ℕ

/-- Whether the ledger of a terminal bundle accounts for all of its actions. -/
def activationCoverage (db : Db) (row : BundleRow) : Bool :=
  let roots := (originals db row.id).length
  let slots := bundleLedger db row.id
  if row.total = 0 then !row.state.active && decide (0 < roots)
  else
    !row.state.active &&
      ((decide (slots.length = row.total) &&
          (slots.all fun a => decide (a.position < row.total) &&
            (linkedSlot db a || a.unwritten)) &&
          decide ((slots.filter (linkedSlot db)).length = roots)) ||
        (slots.isEmpty && decide (roots = row.total)))

/-- `source_proof_on`. -/
def sourceProof (db : Db) (source : ℕ) : Option SourceProof :=
  (db.bundle source).map fun row =>
    ⟨(originals db source).length, activationCoverage db row,
      ((originals db source).filter (ambiguousEffect db)).length⟩

/-- A source that may be recovered: its ledger is complete, and no effect is ambiguous. -/
def recoverable (db : Db) (source : ℕ) : Bool :=
  (sourceProof db source).any fun proof =>
    proof.completeActivationCoverage && decide (proof.ambiguousEffects = 0)

/-- The mutations of a source that are to be inverted. -/
def ownedOriginals (db : Db) (source : ℕ) : List ℕ :=
  ((originals db source).filter fun r =>
    (decide (r.state = .succeeded) || decide (r.state = .failed)) && decide (r.effect = .changed) &&
      !inverted db r.id).map RerouteRow.id

/-- `ownership_for_sources_on`: the sources, in order, and all they own, newest first. -/
def ownershipForSources (db : Db) (sources : List ℕ) : Option (List ℕ × List ℕ) :=
  let sources := (sources.insertionSort (· ≤ ·)).dedup
  if sources = [] ∨ ¬ sources.all (recoverable db) then none
  else some (sources, (sources.flatMap (ownedOriginals db)).insertionSort (· ≥ ·))

/-! ### The claim -/

/-- A source that a claim may take: nobody holds it, or this very claim does. -/
def BundleRow.claimable (token : ClaimToken) (manual : Bool) (b : BundleRow) : Bool :=
  (b.claim.isNone || decide (b.claim = some token)) && (manual || !b.cancelled)

/-- A source that is claimed. -/
def BundleRow.claimFor (child : ℕ) (token : ClaimToken) (manual : Bool)
    (b : BundleRow) : BundleRow :=
  { b with
    claim := some token
    recoveryBundle := if manual then b.recoveryBundle else some child
    lifecycle := .recoveryClaimed }

/-- The claim of one source, and its association with the child. -/
def claimSource (child : ℕ) (token : ClaimToken) (manual : Bool) (db : Db)
    (source : ℕ) : Option Db :=
  if ¬ (db.bundle source).any (BundleRow.claimable token manual) then none
  else if db.attempts.any fun m => m.child = child && m.source = source then none
  else
    some
      { db.updateBundle source (BundleRow.claimable token manual)
          (.claimFor child token manual) with
        attempts := db.attempts ++ [⟨child, source, token, .active⟩] }

/-- The quarantine that the claim of an original puts on its device, with its provenance. -/
def claimMembership (child : ℕ) (db : Db) (original : ℕ) : Db :=
  match db.reroute original with
  | none => db
  | some row =>
    match row.bundle with
    | none => db
    | some source =>
      let created := decide ((⟨row.device, source⟩ : WindowSourceRow) ∉ db.sources)
      let same := fun m : MembershipRow =>
        decide (m.child = child) && decide (m.source = source) && decide (m.device = row.device)
      let db := db.addSource ⟨row.device, source⟩
      if db.memberships.any same then
        db.updateMemberships same fun m =>
          { m with createdByAttempt := m.createdByAttempt || created }
      else
        { db with
          memberships := db.memberships ++ [⟨child, source, row.device, created, false⟩] }

/-- `claim_sources_for_child_on`. -/
def claimSourcesForChild (db : Db) (child : ℕ) (sources expected : List ℕ) (token : ClaimToken)
    (manual : Bool) : Option Db :=
  match ownershipForSources db sources with
  | none => none
  | some (sources, owned) =>
    if owned ≠ expected.insertionSort (· ≥ ·) then none
    else (sources.foldlM (claimSource child token manual) db).map fun db =>
      owned.foldl (claimMembership child) db

/-- `repair_legacy_associations`, for one child and one source. -/
def repairLegacyAssociation (db : Db) (child source : ℕ) : Db :=
  if db.attempts.any fun m => m.child = child && m.source = source then db
  else { db with attempts := db.attempts ++ [⟨child, source, .legacy child, .active⟩] }

/-! ### Settlement -/

/-- `settlement IN ('restored','known_no_write')`. -/
def Settlement.settled : Settlement → Bool
  | restored | knownNoWrite => true
  | _ => false

/-- `claim_token LIKE 'legacy:child:%'`. -/
def ClaimToken.isLegacy : ClaimToken → Bool
  | legacy _ => true
  | minted _ => false

/-- The association through which a child still holds a source of a legacy claim. -/
def legacyAttempt (db : Db) (child source : ℕ) : Option AttemptRow :=
  db.attempts.find? fun m => decide (m.child = child) && decide (m.source = source) &&
    !m.settlement.settled && m.token.isLegacy

/-- The sources of a child, in order. -/
def mappings (db : Db) (child : ℕ) : List AttemptRow :=
  (db.attempts.filter fun m => m.child = child).insertionSort fun a b => a.source ≤ b.source

/-- A source whose claim is taken by a legacy association. -/
def BundleRow.adopt (child : ℕ) (token : Option ClaimToken) (b : BundleRow) : BundleRow :=
  { b with claim := token, recoveryBundle := some child }

/-- A legacy association takes the claim of a source that nobody holds. -/
def adoptLegacy (db : Db) (child : ℕ) : Db :=
  { db with
    bundles := update (fun b => b.claim.isNone && (legacyAttempt db child b.id).isSome)
      (fun b => b.adopt child ((legacyAttempt db child b.id).map AttemptRow.token)) db.bundles }

/-- Whether a source is still claimed by the association. -/
def claimMatches (db : Db) (m : AttemptRow) : Bool :=
  (db.bundle m.source).any fun b => b.claim = some m.token

/-- `stale_claims`: a source that is not settled is claimed by another child, or by none. -/
def staleClaims (db : Db) (maps : List AttemptRow) : Bool :=
  maps.any fun m => !m.settlement.settled && !claimMatches db m

/-- `dangerous`: an inverse of the child is on its way, or its outcome is not known. -/
def dangerous (db : Db) (child : ℕ) : Bool :=
  db.reroutes.any fun r => decide (r.bundle = some child) &&
    (decide (r.state = .pending) || decide (r.state = .running) || decide (r.state = .verifying) ||
      decide (r.state = .uncertain) || decide (r.effect = .pending) ||
        decide (r.effect = .unknown) ||
      (decide (r.state = .failed) && decide (r.effect = .changed)))

/-- `published_prewrite_marker`: the child was published, and has written nothing. -/
def prewriteMarker (db : Db) (row : BundleRow) : Bool :=
  decide (row.state = .planned) && row.published &&
    !db.reroutes.any fun r => r.bundle = some row.id

/-- The ledger of the child holds all of its actions. -/
def ledgerComplete (db : Db) (row : BundleRow) : Bool :=
  decide ((bundleLedger db row.id).length = row.total)

/-- `complete_plan`: the ledger is complete, or the child has not started, and its plan is known. -/
def completePlan (db : Db) (row : BundleRow) : Bool :=
  ledgerComplete db row ||
    (decide (row.state = .planned) &&
      (decide (row.consumedPlan = some row.total) || prewriteMarker db row))

/-- What freezes every source of a child apart from an incomplete plan. -/
def evidenceFreezes (db : Db) (child : ℕ) (maps : List AttemptRow) : Bool :=
  staleClaims db maps || dangerous db child || maps.any fun m => !recoverable db m.source

/-- `freeze_all`. -/
def freezeAll (db : Db) (row : BundleRow) (maps : List AttemptRow) : Bool :=
  evidenceFreezes db row.id maps || !completePlan db row

/-- The settlement of one source. -/
def settlementOf (db : Db) (freeze : Bool) (terminal : BundleState) (m : AttemptRow) : Settlement :=
  if freeze || !(m.settlement.settled || claimMatches db m) ||
      (decide (terminal = .succeeded) && decide (0 < (remainingOriginals db m.source).length)) then
    .blocked
  else if (remainingOriginals db m.source).length = 0 ∧ 0 < (originals db m.source).length then
    .restored
  else .knownNoWrite

/-- A source that is restored. -/
def BundleRow.restore (b : BundleRow) : BundleRow :=
  { b with
    state := if b.state = .aborted ∨ b.state = .compensationBlocked then .compensated else b.state
    lifecycle := .inactive
    remaining := 0
    claim := none
    recoveryBundle := none }

/-- A source whose recovery may be retried. -/
def BundleRow.release (b : BundleRow) : BundleRow :=
  { b with
    lifecycle := if 0 < b.remaining then .active else .inactive
    claim := none
    recoveryBundle := none }

/-- A source whose recovery is not proved. -/
def BundleRow.block (b : BundleRow) : BundleRow := { b with lifecycle := .recoveryBlocked }

/-- The update of a source by its settlement, under its claim. -/
def BundleRow.settleSource : Settlement → BundleRow → BundleRow
  | .restored => BundleRow.restore
  | .knownNoWrite => BundleRow.release
  | _ => BundleRow.block

/-- A quarantine that the child put on a device for a source, and still has to release. -/
def MembershipRow.releasable (child source : ℕ) (p : MembershipRow) : Bool :=
  decide (p.child = child) && decide (p.source = source) && p.createdByAttempt && !p.released

/-- The windows and quarantines of a source by its settlement. -/
def settleDevices (child source : ℕ) (settlement : Settlement) (db : Db) : Db :=
  match settlement with
  | .restored =>
    let db := db.deleteSources fun m => m.source = source
    db.deleteWindows fun w => decide (w.bundle = some source) && !db.quarantined w.device
  | .knownNoWrite =>
    (db.deleteSources fun m => decide (m.source = source) &&
        db.memberships.any fun p => p.releasable child source && decide (p.device =
          m.device)).updateMemberships
      (fun p => decide (p.child = child) && decide (p.source = source) && p.createdByAttempt)
      fun p => { p with released := true }
  | _ => db

/-- The settlement of one source of a child, written. -/
def settleSource (child : ℕ) (db : Db) (verdict : AttemptRow × Settlement) : Db :=
  settleDevices child verdict.1.source verdict.2
    ((db.updateAttempts (fun m => decide (m.child = child) && decide (m.source = verdict.1.source))
        fun m => { m with settlement := verdict.2 }).updateBundle verdict.1.source
      (fun b => b.claim = some verdict.1.token) (.settleSource verdict.2))

/-- The state of a child whose sources are settled. -/
def finalState (settlements : List Settlement) (terminal : BundleState) : BundleState :=
  if Settlement.blocked ∈ settlements then .compensationBlocked
  else if settlements.all (· = .restored) then .succeeded
  else if Settlement.knownNoWrite ∈ settlements then .failed
  else terminal

/-- The end of a child. -/
def closeChild (child : ℕ) (state : BundleState) (db : Db) : Db :=
  db.updateBundle child (fun b => b.state ≠ .compensated) fun b =>
    { b with state, rateReserved := 0 }

/-- A window that is kept without an owner. -/
def ChangeWindowRow.quarantine (phase : WindowPhase) (w : ChangeWindowRow) : ChangeWindowRow :=
  { w with bundle := none, owner := .quarantine w.device, phase }

/-- The windows of a child whose sources are settled: given back where all are restored, kept for
the sources that quarantine the device where some may be retried, all kept where one is blocked. -/
def settleWindows (child : ℕ) (owner : OwnerToken) (settlements : List Settlement) (db : Db) : Db :=
  if Settlement.blocked ∈ settlements then
    db.updateWindows (fun w => w.bundle = some child) (.quarantine .uncertain)
  else if Settlement.knownNoWrite ∈ settlements then
    (db.updateWindows (fun w => decide (w.bundle = some child) && decide (w.owner = owner) &&
        db.quarantined w.device) (.quarantine .prepared)).deleteWindows
      fun w => decide (w.bundle = some child) && decide (w.owner = owner) &&
      !db.quarantined w.device
  else
    db.deleteWindows fun w => !db.quarantined w.device &&
      (decide (w.bundle = some child) ||
        (w.bundle.isNone && decide (w.owner = .quarantine w.device))) &&
      (bundleLedger db child).any fun a => a.device = w.device

/-- The terminal states a recovery may end in. -/
def BundleState.recoveryTerminal : BundleState → Bool
  | succeeded | failed | aborted | compensationBlocked => true
  | _ => false

/-- The settlements of the sources of a child. -/
def verdicts (db : Db) (row : BundleRow) (terminal : BundleState) (maps : List AttemptRow) :
    List (AttemptRow × Settlement) :=
  maps.map fun m => (m, settlementOf db (freezeAll db row maps) terminal m)

/-- What a settlement writes. -/
def writeVerdicts (child : ℕ) (terminal : BundleState) (owner : OwnerToken)
    (verdicts : List (AttemptRow × Settlement)) (db : Db) : Db :=
  settleWindows child owner (verdicts.map Prod.snd)
    (closeChild child (finalState (verdicts.map Prod.snd) terminal)
      (verdicts.foldl (settleSource child) db))

/-- `finalize_recovery_child`. -/
def finalizeRecoveryChild (db : Db) (child : ℕ) (terminal : BundleState) (owner : OwnerToken) :
    Option Db :=
  if !terminal.recoveryTerminal then none
  else
    match db.bundle child with
    | none => none
    | some row =>
      let adopted := adoptLegacy db child
      let maps := mappings db child
      if maps = [] ∨ ¬ maps.all fun m => (sourceProof adopted m.source).isSome then none
      else some (writeVerdicts child terminal owner (verdicts adopted row terminal maps) adopted)

end Rerouter
