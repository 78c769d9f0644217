import Rerouter.Lib.Run
import Rerouter.RecoverySettlement

/-!
# Recoveries, over runs

Recoveries claim their sources, run, and are settled by `Rerouter.finalizeRecoveryChild`, as
often as somebody asks for it; everything else the program does goes on in between.

A claim is cleared for the child that holds it, and a source becomes restored when everything
it changed is inverted, whatever happens. That a repeated settlement changes nothing, and that
`remaining_mutations` is right after it, holds where the settlement is in order
(`Rerouter.Orderly`); two runs show that it does not hold in every case.
-/

namespace Rerouter

open Table

/-! ### The system -/

/-- What may happen. -/
inductive RecoveryEvent where
  /-- A child claims its sources, under a token made for it. -/
  | claim (child : ℕ) (sources expected : List ℕ) (token : ClaimToken) (manual : Bool)
  /-- Startup associates a child of before the associations were kept. -/
  | repairLegacy (child source : ℕ)
  | finalize (child : ℕ) (terminal : BundleState) (owner : OwnerToken)
  /-- Any other statement of the program: it may write what it likes, but no claim, and no
  association. -/
  | elsewhere (db : Db)

/-- A token is made for one child. -/
def tokenFresh (db : Db) (child : ℕ) (token : ClaimToken) : Bool :=
  !token.isLegacy && db.attempts.all fun m => decide (m.token = token → m.child = child)

/-- The claims and associations of `db` are those of `old`; new bundles are claimed by nobody. -/
def keepsClaims (old db : Db) : Bool :=
  decide (db.attempts = old.attempts) && decide ((db.bundles.map BundleRow.id).Nodup) &&
    decide ((db.bundles.map fun b => (b.id, b.claim)).take old.bundles.length =
      old.bundles.map fun b => (b.id, b.claim)) &&
    (db.bundles.drop old.bundles.length).all fun b => b.claim.isNone

/-- One event. An event that is not enabled leaves the state as it is. -/
def recoveryStep (db : Db) : RecoveryEvent → Db
  | .claim child sources expected token manual =>
    if tokenFresh db child token ∧ child ∉ sources then
      (claimSourcesForChild db child sources expected token manual).getD db
    else db
  | .repairLegacy child source =>
    if child = source then db else repairLegacyAssociation db child source
  | .finalize child terminal owner => (finalizeRecoveryChild db child terminal owner).getD db
  | .elsewhere next => if keepsClaims db next then next else db

/-- Settlements are in order. -/
def Orderly (db : Db) : RecoveryEvent → Prop
  | .finalize child terminal _ => ∀ row ∈ db.bundles, row.id = child → InOrder db row terminal
  | _ => True

instance (db : Db) (e : RecoveryEvent) : Decidable (Orderly db e) :=
  match e with
  | .finalize child terminal _ =>
    inferInstanceAs (Decidable (∀ row ∈ db.bundles, row.id = child → InOrder db row terminal))
  | .claim _ _ _ _ _ | .repairLegacy _ _ | .elsewhere _ => isTrue trivial


/-! ### What is kept -/

/-- A claim is cleared for the child that holds it, which no other child does. -/
def ClearedByHolder (db : Db) (e : RecoveryEvent) : Prop :=
  ∀ b ∈ db.bundles, ∀ b' ∈ (recoveryStep db e).bundles, b'.id = b.id → ∀ token,
    b.claim = some token → b'.claim ≠ some token →
      b'.claim = none ∧ ∃ child terminal owner, e = .finalize child terminal owner ∧
        ∃ m ∈ db.attempts, m.child = child ∧ m.source = b.id ∧ m.token = token ∧
          ∀ m' ∈ db.attempts, m'.token = token → m'.child = child

/-- A source becomes restored where all it changed is inverted. -/
def RestoredProved (db : Db) (e : RecoveryEvent) : Prop :=
  ∀ m ∈ (recoveryStep db e).attempts, m.settlement = .restored →
    m ∈ db.attempts ∨ ∀ r ∈ originals db m.source, r.effect = .changed → inverted db r.id = true

/-- A settlement repeated changes nothing. -/
def RepeatedIdle (db : Db) : RecoveryEvent → Prop
  | .finalize child terminal owner =>
    recoveryStep (recoveryStep db (.finalize child terminal owner))
      (.finalize child terminal owner) =
      recoveryStep db (.finalize child terminal owner)
  | _ => True

/-- The mutations of a source that have no succeeded inverse. -/
def uninverted (db : Db) (source : ℕ) : List RerouteRow :=
  (originals db source).filter fun r => decide (r.effect = .changed) && !inverted db r.id

/-- After a settlement, the mutations of a source that is not blocked are counted. -/
def Counted (db : Db) : RecoveryEvent → Prop
  | .finalize child terminal owner =>
    ∀ db', finalizeRecoveryChild db child terminal owner = some db' →
      ∀ m ∈ db'.attempts, m.child = child → m.settlement ≠ .blocked →
        ∀ b ∈ db'.bundles, b.id = m.source → b.remaining = (uninverted db' m.source).length
  | _ => True

/-! ### Claims -/

variable {db old : Db} {child source : ℕ} {token : ClaimToken} {manual : Bool}
  {terminal : BundleState} {owner : OwnerToken} {row : BundleRow} {v : AttemptRow × Settlement}

/-- What a claim has done so far. -/
structure ClaimedFrom (old : Db) (child : ℕ) (token : ClaimToken) (db : Db) : Prop where
  inv : AttemptInv db
  fresh : ∀ m ∈ db.attempts, m.token = token → m.child = child
  attempts : ∀ m ∈ db.attempts, m ∈ old.attempts ∨ m.settlement = .active
  held : ∀ b ∈ old.bundles, ∀ b' ∈ db.bundles, b'.id = b.id → b.claim.isSome = true →
    b'.claim = b.claim

/-- A new association of a child and a source it had none with. -/
theorem AttemptInv.append (hinv : AttemptInv db) {m : AttemptRow} {next : Db}
    (hattempts : next.attempts = db.attempts ++ [m])
    (hbundles : next.bundles.map BundleRow.id = db.bundles.map BundleRow.id)
    (hnew : ∀ a ∈ db.attempts, ¬ (a.child = m.child ∧ a.source = m.source))
    (hfresh : ∀ a ∈ db.attempts, a.token = m.token → a.child = m.child)
    (hlegacy : ∀ c, m.token = .legacy c → m.child = c) (hother : m.child ≠ m.source) :
    AttemptInv next := by
  have hmem : ∀ a ∈ next.attempts, a ∈ db.attempts ∨ a = m := fun a ha => by
    simpa [hattempts] using ha
  constructor
  · rw [Keyed, hbundles]
    exact hinv.keyed
  · rw [hattempts, List.map_append, List.nodup_append]
    refine ⟨hinv.unique, by simp, ?_⟩
    -- the pair is new, so its key is
    rintro p hp q hq rfl
    obtain ⟨a, ha, rfl⟩ := List.mem_map.mp hp
    simp only [List.map_cons, List.map_nil, List.mem_singleton, Prod.mk.injEq] at hq
    exact hnew a ha hq
  · intro a ha b hb htoken
    rcases hmem a ha with ha | rfl <;> rcases hmem b hb with hb | rfl
    · exact hinv.token a ha b hb htoken
    · exact hfresh a ha htoken
    · exact (hfresh b hb htoken.symm).symm
    · rfl
  · intro a ha c hc
    rcases hmem a ha with ha | rfl
    · exact hinv.legacy a ha c hc
    · exact hlegacy c hc
  · intro a ha
    rcases hmem a ha with ha | rfl
    · exact hinv.other a ha
    · exact hother

theorem AttemptInv.congr (hinv : AttemptInv db) {next : Db}
    (hattempts : next.attempts = db.attempts)
    (hbundles : Keyed BundleRow.id next.bundles) : AttemptInv next := by
  constructor
  · exact hbundles
  all_goals rw [hattempts]
  · exact hinv.unique
  · exact hinv.token
  · exact hinv.legacy
  · exact hinv.other

/-- The claim of one source keeps the claims there are. -/
theorem ClaimedFrom.claimSource {next : Db} (h : ClaimedFrom old child token db)
    (hminted : token.isLegacy = false) (hother : child ≠ source)
    (hclaim : claimSource child token manual db source = some next) :
    ClaimedFrom old child token next := by
  rw [Rerouter.claimSource] at hclaim
  split_ifs at hclaim with hclaimable hassociated
  obtain rfl := Option.some.inj hclaim
  have hbundles : (update (fun b => decide (b.id = source) && b.claimable token manual)
      (BundleRow.claimFor child token manual) db.bundles).map BundleRow.id =
      db.bundles.map BundleRow.id :=
    map_key_update fun _ => rfl
  have hmem : ∀ m ∈ db.attempts ++ [⟨child, source, token, .active⟩],
      m ∈ db.attempts ∨ m = ⟨child, source, token, .active⟩ := fun m hm => by simpa using hm
  refine ⟨h.inv.append rfl hbundles ?_ h.fresh ?_ hother, ?_, ?_, ?_⟩
  · rintro a ha ⟨hc, hs⟩
    exact hassociated (List.any_eq_true.mpr ⟨a, ha, by simp_all⟩)
  · rintro c rfl
    cases hminted
  · intro m hm htoken
    rcases hmem m hm with hm | rfl
    · exact h.fresh m hm htoken
    · rfl
  · intro m hm
    rcases hmem m hm with hm | rfl
    · exact h.attempts m hm
    · exact Or.inr rfl
  · intro b hb b' hb' hid hsome
    obtain ⟨a, ha, rfl⟩ := mem_update.mp hb'
    have hkeep : a.claim = b.claim := by
      refine h.held b hb a ha ?_ hsome
      rw [← hid]
      split <;> rfl
    split
    · -- a source that is claimed is claimable for this very claim only
      rename_i hp
      simp only [Bool.and_eq_true, BundleRow.claimable, Bool.or_eq_true, decide_eq_true_eq] at hp
      rcases hp.2.1 with hnone | hsame
      · rw [hkeep] at hnone
        rw [Option.isNone_iff_eq_none.mp hnone] at hsome
        cases hsome
      · exact hsame.symm.trans hkeep
    · exact hkeep

theorem claimMembership_frame (child : ℕ) (db : Db) (original : ℕ) :
    (claimMembership child db original).bundles = db.bundles ∧
      (claimMembership child db original).attempts = db.attempts := by
  have hadd : ∀ r, (db.addSource r).bundles = db.bundles ∧
    (db.addSource r).attempts = db.attempts := by
    intro r
    rw [Db.addSource]
    split <;> exact ⟨rfl, rfl⟩
  rw [claimMembership]
  rcases db.reroute original with _ | r
  · exact ⟨rfl, rfl⟩
  rcases hbundle : r.bundle with _ | source
  · simp [hbundle]
  simp only [hbundle]
  split_ifs <;> exact hadd _

theorem foldl_claimMembership_frame (child : ℕ) (owned : List ℕ) (db : Db) :
    (owned.foldl (claimMembership child) db).bundles = db.bundles ∧
      (owned.foldl (claimMembership child) db).attempts = db.attempts := by
  induction owned generalizing db with
  | nil => exact ⟨rfl, rfl⟩
  | cons o owned ih =>
    obtain ⟨hbundles, hattempts⟩ := ih (claimMembership child db o)
    obtain ⟨hb, ha⟩ := claimMembership_frame child db o
    exact ⟨hbundles.trans hb, hattempts.trans ha⟩

/-- **A claim takes no claim away.** -/
theorem claimSourcesForChild_claimedFrom {sources expected : List ℕ} {next : Db}
    (hinv : AttemptInv db) (hfresh : tokenFresh db child token = true) (hother : child ∉ sources)
    (h : claimSourcesForChild db child sources expected token manual = some next) :
    ClaimedFrom db child token next := by
  simp only [tokenFresh, Bool.and_eq_true, Bool.not_eq_true', List.all_eq_true, decide_eq_true_eq]
    at hfresh
  have hstart : ClaimedFrom db child token db := by
    refine ⟨hinv, hfresh.2, fun m hm => Or.inl hm, fun b hb b' hb' hid _ => ?_⟩
    rw [hinv.keyed.eq_of_key_eq hb' hb hid]
  rw [claimSourcesForChild] at h
  rcases howned : ownershipForSources db sources with _ | ⟨claimed, owned⟩
  · simp [howned] at h
  simp only [howned] at h
  split_ifs at h
  obtain ⟨mid, hmid, rfl⟩ := Option.map_eq_some_iff.mp h
  -- the child is none of its sources
  have hclaimed : ∀ s ∈ claimed, child ≠ s := by
    rw [ownershipForSources] at howned
    split_ifs at howned
    obtain ⟨rfl, -⟩ := Prod.mk.inj (Option.some.inj howned)
    rintro s hs rfl
    rw [List.mem_dedup, List.mem_insertionSort] at hs
    exact hother hs
  have hmidFrom : ClaimedFrom db child token mid :=
    Run.foldlM_invariant (fun s source hsource s' hs hstep =>
      hs.claimSource hfresh.1 (hclaimed source hsource) hstep) hstart hmid
  obtain ⟨hbundles, hattempts⟩ := foldl_claimMembership_frame child owned mid
  refine ⟨hmidFrom.inv.congr hattempts ?_, ?_, ?_, ?_⟩
  · rw [hbundles]
    exact hmidFrom.inv.keyed
  · rw [hattempts]
    exact hmidFrom.fresh
  · rw [hattempts]
    exact hmidFrom.attempts
  · rw [hbundles]
    exact hmidFrom.held

/-! ### The invariant -/

theorem repairLegacyAssociation_inv (hinv : AttemptInv db) (hother : child ≠ source) :
    AttemptInv (repairLegacyAssociation db child source) := by
  rw [repairLegacyAssociation]
  split_ifs with hassociated
  · exact hinv
  · refine hinv.append (m := ⟨child, source, .legacy child, .active⟩) rfl rfl ?_ ?_ ?_ hother
    · rintro a ha ⟨hc, hs⟩
      exact hassociated (List.any_eq_true.mpr ⟨a, ha, by simp_all⟩)
    · exact fun a ha htoken => hinv.legacy a ha child htoken
    · rintro c hc
      exact ClaimToken.legacy.inj hc

/-- An association after the settlement of a child. -/
theorem mem_settled_attempts (hinv : AttemptInv db) {m : AttemptRow}
    (hm : m ∈ (settled db row terminal owner).attempts) :
    m ∈ db.attempts ∨ ∃ v ∈ settlements db row terminal, m = settledAttempt v := by
  rw [settled_attempts] at hm
  obtain ⟨a, ha, rfl⟩ := List.mem_map.mp hm
  by_cases hchild : a.child = row.id
  · obtain ⟨v, hv, rfl⟩ := exists_verdict terminal (mem_mappings.mpr ⟨ha, hchild⟩)
    exact Or.inr ⟨v, hv, foldl_settleAttempt_of_mem (settlements_nodup hinv) _ hv hchild rfl⟩
  · rw [foldl_settleAttempt_of_ne _ fun _ _ h => absurd h hchild]
    exact Or.inl ha

theorem settled_inv (hinv : AttemptInv db) : AttemptInv (settled db row terminal owner) := by
  -- a settlement keeps who is associated with whom, and under which token
  have hmem : ∀ m ∈ (settled db row terminal owner).attempts,
      ∃ a ∈ db.attempts, m.child = a.child ∧ m.source = a.source ∧ m.token = a.token := by
    intro m hm
    rw [settled_attempts] at hm
    obtain ⟨a, ha, rfl⟩ := List.mem_map.mp hm
    exact ⟨a, ha, foldl_settleAttempt_child a⟩
  constructor
  · exact settled_keyed hinv
  · have hpairs : ((settled db row terminal owner).attempts.map fun m => (m.child, m.source)) =
        db.attempts.map fun m => (m.child, m.source) := by
      rw [settled_attempts, List.map_map]
      refine List.map_congr_left fun a _ => ?_
      have hsame : ((settlements db row terminal).foldl (settleAttempt row.id) a).child = a.child ∧
        _ :=
        foldl_settleAttempt_child a
      simp [hsame.1, hsame.2.1]
    rw [hpairs]
    exact hinv.unique
  · intro m hm m' hm' htoken
    obtain ⟨a, ha, hc, -, ht⟩ := hmem m hm
    obtain ⟨a', ha', hc', -, ht'⟩ := hmem m' hm'
    rw [hc, hc']
    exact hinv.token a ha a' ha' (by rw [← ht, ← ht', htoken])
  · intro m hm c htoken
    obtain ⟨a, ha, hc, -, ht⟩ := hmem m hm
    rw [hc]
    exact hinv.legacy a ha c (ht.symm.trans htoken)
  · intro m hm
    obtain ⟨a, ha, hc, hs, -⟩ := hmem m hm
    rw [hc, hs]
    exact hinv.other a ha

/-- The step of a settlement: nothing, or what it writes. -/
theorem recoveryStep_finalize (db : Db) (child : ℕ) (terminal : BundleState) (owner : OwnerToken) :
    recoveryStep db (.finalize child terminal owner) = db ∨
      ∃ row ∈ db.bundles, row.id = child ∧ db.bundle child = some row ∧
        finalizeRecoveryChild db child terminal owner = some (settled db row terminal owner) ∧
          recoveryStep db (.finalize child terminal owner) = settled db row terminal owner := by
  rcases h : finalizeRecoveryChild db child terminal owner with _ | db'
  · exact Or.inl (by simp [recoveryStep, h])
  · obtain ⟨row, hrow, -, -, -, rfl⟩ := finalizeRecoveryChild_eq_some.mp h
    obtain ⟨hmem, hid⟩ := mem_of_find hrow
    exact Or.inr ⟨row, hmem, hid, hrow, rfl, by simp [recoveryStep, h]⟩

theorem recoveryStep_inv (db : Db) (e : RecoveryEvent) (hinv : AttemptInv db) :
    AttemptInv (recoveryStep db e) := by
  cases e with
  | claim child sources expected token manual =>
    simp only [recoveryStep]
    split_ifs with hfresh
    · rcases h : claimSourcesForChild db child sources expected token manual with _ | next
      · exact hinv
      · exact (claimSourcesForChild_claimedFrom hinv hfresh.1 hfresh.2 h).inv
    · exact hinv
  | repairLegacy child source =>
    simp only [recoveryStep]
    split_ifs with hother
    · exact hinv
    · exact repairLegacyAssociation_inv hinv hother
  | finalize child terminal owner =>
    rcases recoveryStep_finalize db child terminal owner with h | ⟨row, -, -, -, -, h⟩
    · rw [h]
      exact hinv
    · rw [h]
      exact settled_inv hinv
  -- the rest of the controller keeps the associations
  | elsewhere next =>
    simp only [recoveryStep]
    split_ifs with hkeeps
    · simp only [keepsClaims, Bool.and_eq_true, decide_eq_true_eq] at hkeeps
      exact hinv.congr hkeeps.1.1.1 hkeeps.1.1.2
    · exact hinv

theorem attemptInv_empty : AttemptInv {} := by
  constructor
  · exact List.nodup_nil
  · exact List.nodup_nil
  · intro m hm
    cases hm
  · intro m hm
    cases hm
  · intro m hm
    cases hm

theorem run_attemptInv (es : List RecoveryEvent) : AttemptInv (Run.run recoveryStep {} es) :=
  Run.invariant recoveryStep_inv es attemptInv_empty

/-! ### What a step keeps -/

/-- The claim of a bundle after the settlement of a child. -/
theorem settled_claim (hinv : AttemptInv db) {b b' : BundleRow} (hb : b ∈ db.bundles)
    (hb' : b' ∈ (settled db row terminal owner).bundles) (hid : b'.id = b.id)
    (hclaim : b.claim = some token) (hlost : b'.claim ≠ some token) :
    b'.claim = none ∧ ∃ m ∈ db.attempts, m.child = row.id ∧ m.source = b.id ∧ m.token = token := by
  rw [settled_bundles] at hb'
  obtain ⟨a, ha, rfl⟩ := List.mem_map.mp hb'
  have hab : a = b := hinv.keyed.eq_of_key_eq ha hb (by simpa using hid)
  subst hab
  have hadopt : adoptRow db row.id a = a := if_neg (by simp [hclaim])
  have hclose : ∀ c : BundleRow, (closeRow row.id (endState db row terminal) c).claim =
    c.claim := by
    intro c
    rw [closeRow]
    split <;> rfl
  rw [hclose, hadopt] at hlost ⊢
  by_cases hsource : ∃ v ∈ settlements db row terminal, v.1.source = a.id
  · obtain ⟨v, hv, hvid⟩ := hsource
    rw [foldl_settleRow_of_mem (settlements_nodup hinv) a hv hvid] at hlost ⊢
    obtain ⟨hattempt, hchild⟩ := mem_mappings.mp (mem_settlements.mp hv).1
    rw [settleRow] at hlost ⊢
    split at hlost
    · -- the source is claimed under the token of the association
      rename_i hp
      rw [if_pos hp]
      simp only [Bool.and_eq_true, decide_eq_true_eq] at hp
      refine ⟨?_, v.1, hattempt, hchild, hvid, Option.some.inj (hp.2.symm.trans hclaim)⟩
      rcases hs : v.2 with _ | _ | _ | _ <;> rw [hs] at hlost
      · exact absurd hclaim hlost
      · rfl
      · rfl
      · exact absurd hclaim hlost
    · exact absurd hclaim hlost
  · rw [foldl_settleRow_of_ne a fun v hv hvid => hsource ⟨v, hv, hvid⟩] at hlost
    exact absurd hclaim hlost

/-- **A claim is cleared for the child that holds it.** -/
theorem clearedByHolder (hinv : AttemptInv db) (e : RecoveryEvent) : ClearedByHolder db e := by
  intro b hb b' hb' hid token hclaim hlost
  -- the state as it is keeps the claim
  have hsame : b' ∉ db.bundles := fun hmem => by
    rw [hinv.keyed.eq_of_key_eq hmem hb hid] at hlost
    exact hlost hclaim
  cases e with
  | claim child sources expected minted manual =>
    simp only [recoveryStep] at hb'
    split_ifs at hb' with hfresh
    · rcases h : claimSourcesForChild db child sources expected minted manual with _ | next
      · rw [h] at hb'
        exact absurd hb' hsame
      · rw [h] at hb'
        have hheld := (claimSourcesForChild_claimedFrom hinv hfresh.1 hfresh.2 h).held b
          hb b' hb' hid
          (by simp [hclaim])
        exact absurd (hheld.trans hclaim) hlost
    · exact absurd hb' hsame
  | repairLegacy child source =>
    have hbundles : (recoveryStep db (.repairLegacy child source)).bundles = db.bundles := by
      simp only [recoveryStep, repairLegacyAssociation]
      split_ifs <;> rfl
    rw [hbundles] at hb'
    exact absurd hb' hsame
  | finalize child terminal owner =>
    rcases recoveryStep_finalize db child terminal owner with h | ⟨row, -, rfl, -, -, h⟩
    · rw [h] at hb'
      exact absurd hb' hsame
    · rw [h] at hb'
      obtain ⟨hnone, m, hm, hchild, hsource, htoken⟩ := settled_claim hinv hb hb' hid hclaim hlost
      refine ⟨hnone, row.id, terminal, owner, rfl, m, hm, hchild, hsource, htoken,
        fun m' hm' ht => ?_⟩
      exact (hinv.token m' hm' m hm (ht.trans htoken.symm)).trans hchild
  | elsewhere next =>
    simp only [recoveryStep] at hb'
    split_ifs at hb' with hkeeps
    · -- the claims are a prefix of the claims there are now
      simp only [keepsClaims, Bool.and_eq_true, decide_eq_true_eq] at hkeeps
      obtain ⟨⟨⟨-, hnodup⟩, htaken⟩, -⟩ := hkeeps
      have hpair : (b.id, b.claim) ∈ next.bundles.map fun b => (b.id, b.claim) := by
        refine List.mem_of_mem_take (i := db.bundles.length) ?_
        rw [htaken]
        exact List.mem_map.mpr ⟨b, hb, rfl⟩
      obtain ⟨c, hc, hcb⟩ := List.mem_map.mp hpair
      obtain ⟨hcid, hcclaim⟩ := Prod.mk.inj hcb
      rw [List.inj_on_of_nodup_map hnodup hb' hc (hid.trans hcid.symm), hcclaim] at hlost
      exact absurd hclaim hlost
    · exact absurd hb' hsame

/-- Where a source is restored, it owns nothing any more. -/
theorem inverted_of_remaining (h : (remainingOriginals db source).length = 0) :
    ∀ r ∈ originals db source, r.effect = .changed → inverted db r.id = true := by
  intro r hr heffect
  have hnone := List.filter_eq_nil_iff.mp (List.length_eq_zero_iff.mp h) r hr
  simpa [RerouteRow.mutated, heffect] using hnone

/-- **A source becomes restored where all it changed is inverted.** -/
theorem restoredProved (hinv : AttemptInv db) (e : RecoveryEvent) : RestoredProved db e := by
  intro m hm hrestored
  cases e with
  | claim child sources expected minted manual =>
    simp only [recoveryStep] at hm
    split_ifs at hm with hfresh
    · rcases h : claimSourcesForChild db child sources expected minted manual with _ | next
      · rw [h] at hm
        exact Or.inl hm
      · rw [h] at hm
        rcases (claimSourcesForChild_claimedFrom hinv hfresh.1 hfresh.2 h).attempts m hm
          with hm | hactive
        · exact Or.inl hm
        · rw [hrestored] at hactive
          cases hactive
    · exact Or.inl hm
  | repairLegacy child source =>
    simp only [recoveryStep, repairLegacyAssociation] at hm
    split_ifs at hm
    · exact Or.inl hm
    · exact Or.inl hm
    · rcases List.mem_append.mp hm with hm | hm
      · exact Or.inl hm
      · rw [List.mem_singleton.mp hm] at hrestored
        cases hrestored
  -- the only event that writes `restored`, and it counted what remained
  | finalize child terminal owner =>
    rcases recoveryStep_finalize db child terminal owner with h | ⟨row, -, rfl, -, -, h⟩
    · rw [h] at hm
      exact Or.inl hm
    · rw [h] at hm
      rcases mem_settled_attempts hinv hm with hm | ⟨v, hv, rfl⟩
      · exact Or.inl hm
      · refine Or.inr (inverted_of_remaining ?_)
        have hverdict := (mem_settlements.mp hv).2
        rw [show v.2 = .restored from hrestored, settlementOf] at hverdict
        split_ifs at hverdict with hblocked hdone
        exact hdone.1
  | elsewhere next =>
    simp only [recoveryStep] at hm
    split_ifs at hm with hkeeps
    · simp only [keepsClaims, Bool.and_eq_true, decide_eq_true_eq] at hkeeps
      exact Or.inl (hkeeps.1.1.1 ▸ hm)
    · exact Or.inl hm

/-- Where no effect is ambiguous, a source owns what it changed. -/
theorem remainingOriginals_of_recoverable (h : recoverable db source = true) :
    remainingOriginals db source = uninverted db source := by
  rw [recoverable, sourceProof, Option.any_map] at h
  rcases hb : db.bundle source with _ | b
  · simp [hb] at h
  simp only [hb, Option.any_some, Bool.and_eq_true, decide_eq_true_eq] at h
  have hnone := List.filter_eq_nil_iff.mp (List.length_eq_zero_iff.mp h.2)
  refine List.filter_congr fun r hr => ?_
  have hknown : decide (r.effect = .unknown) = false := by
    have hr := hnone r hr
    simp only [ambiguousEffect, Bool.or_eq_true, not_or] at hr
    simpa using hr.1.2
  rw [RerouteRow.mutated, hknown, Bool.or_false]

theorem uninverted_congr {next : Db} (h : next.reroutes = db.reroutes) (source : ℕ) :
    uninverted next source = uninverted db source := by
  simp only [uninverted, originals_congr h, inverted, h]

/-- **After a settlement the mutations of a source are counted.** -/
theorem counted (hinv : AttemptInv db)
    (horder : ∀ row ∈ db.bundles, row.id = child → MutationsCounted db row terminal) :
    Counted db (.finalize child terminal owner) := by
  intro db' h m hm hchild hblocked b hb hid
  obtain ⟨row, hrow, -, -, -, rfl⟩ := finalizeRecoveryChild_eq_some.mp h
  obtain ⟨hmem, rfl⟩ := mem_of_find hrow
  have hmap : m ∈ mappings (settled db row terminal owner) row.id := mem_mappings.mpr ⟨hm, hchild⟩
  rw [settled_mappings hinv] at hmap
  obtain ⟨v, hv, rfl⟩ := List.mem_map.mp hmap
  rw [settledAttempt_source] at hid ⊢
  have hblocked : v.2 ≠ .blocked := hblocked
  obtain ⟨hvm, hverdict⟩ := mem_settlements.mp hv
  have hfrozen : frozen db row = false :=
    Bool.eq_false_iff.mpr fun hfrozen => hblocked (verdict_of_frozen hfrozen hv)
  have hdone : unfinished db terminal v.1 = false :=
    Bool.eq_false_iff.mpr fun hun =>
      hblocked (hverdict.trans (settlementOf_eq_blocked.mpr (Or.inr (Or.inr hun))))
  have hrecoverable : recoverable (adoptLegacy db row.id) v.1.source = true := by
    have hcause := hfrozen
    simp only [frozen, freezeAll, evidenceFreezes, Bool.or_eq_false_iff] at hcause
    simpa using List.any_eq_false.mp hcause.1.2 v.1 hvm
  have howned : (remainingOriginals db v.1.source).length =
      (uninverted (settled db row terminal owner) v.1.source).length := by
    have hadopted : remainingOriginals (adoptLegacy db row.id) v.1.source =
        uninverted (adoptLegacy db row.id) v.1.source :=
          remainingOriginals_of_recoverable hrecoverable
    rw [uninverted_congr settled_reroutes]
    exact congrArg List.length hadopted
  rw [← howned]
  -- the row of the source before the settlement
  have hfind : (settled db row terminal owner).bundle v.1.source = some b := by
    rw [← hid]
    exact find_eq_some (settled_keyed hinv) hb
  have hsource : (settled db row terminal owner).bundle v.1.source = _ :=
    settled_bundle_source hinv hv
  rw [hfind, adoptLegacy_bundle, Option.map_map] at hsource
  obtain ⟨a, ha, rfl⟩ := Option.map_eq_some_iff.mp hsource.symm
  obtain ⟨hamem, haid⟩ := mem_of_find ha
  have hadopt : (adoptRow db row.id a).remaining = a.remaining := by
    rw [adoptRow]
    split <;> rfl
  have hcount := horder row hmem rfl v.1 hvm hfrozen hdone a hamem haid
  have hunblocked : ¬ (frozen db row ||
    !(v.1.settlement.settled || claimMatches (adoptLegacy db row.id) v.1) ||
      unfinished db terminal v.1) = true := fun hcause => by
    have hor : frozen db row = true ∨ (v.1.settlement.settled = false ∧
        claimMatches (adoptLegacy db row.id) v.1 = false) ∨ unfinished db terminal v.1 = true := by
      simpa [or_assoc] using hcause
    exact hblocked (hverdict.trans (settlementOf_eq_blocked.mpr hor))
  have hsettlement : v.2 = if (remainingOriginals db v.1.source).length = 0 ∧
      0 < (originals db v.1.source).length then .restored else .knownNoWrite :=
    hverdict.trans (if_neg hunblocked)
  simp only [Function.comp_apply, settleRow, adoptRow_id, haid, decide_true, Bool.true_and]
  split_ifs at hsettlement with hrestored
  · rw [hsettlement]
    split
    · exact hrestored.1.symm
    · -- it is restored, but the claim is not the child's
      rename_i hclaim
      rw [hadopt]
      rcases hcount with hcount | ⟨-, -, hmatch⟩
      · exact hcount
      · rw [claimMatches, adoptLegacy_bundle, ha] at hmatch
        exact absurd hmatch hclaim
  · rw [hsettlement]
    have hcount : a.remaining = (remainingOriginals db v.1.source).length := by
      rcases hcount with hcount | ⟨hzero, hsome, -⟩
      · exact hcount
      · exact absurd ⟨hzero, hsome⟩ hrestored
    split
    · exact hadopt.trans hcount
    · exact hadopt.trans hcount

theorem repeatedIdle (hinv : AttemptInv db)
    (horder : ∀ row ∈ db.bundles, row.id = child → InOrder db row terminal) :
    RepeatedIdle db (.finalize child terminal owner) := by
  show recoveryStep (recoveryStep db _) _ = recoveryStep db _
  rcases h : finalizeRecoveryChild db child terminal owner with _ | db'
  · simp [recoveryStep, h]
  · simp [recoveryStep, h, finalizeRecoveryChild_repeated hinv horder h]

/-- **Recoveries settle.** In every run a claim is cleared for the child that holds it, and a source
becomes restored where all it changed is inverted. In a run whose settlements are in order, a
settlement repeated changes nothing, and leaves the mutations of its sources counted. -/
theorem recovery_settles (es : List RecoveryEvent) (e : RecoveryEvent) :
    ClearedByHolder (Run.run recoveryStep {} es) e ∧ RestoredProved (Run.run recoveryStep {} es) e ∧
      (Orderly (Run.run recoveryStep {} es) e →
        RepeatedIdle (Run.run recoveryStep {} es) e ∧ Counted (Run.run recoveryStep {} es) e) := by
  have hinv := run_attemptInv es
  refine ⟨clearedByHolder hinv e, restoredProved hinv e, fun horder => ?_⟩
  cases e with
  | finalize child terminal owner =>
    exact ⟨repeatedIdle hinv horder, counted hinv fun row hrow hid => (horder row hrow hid).2.2.1⟩
  | claim child sources expected token manual => exact ⟨trivial, trivial⟩
  | repairLegacy child source => exact ⟨trivial, trivial⟩
  | elsewhere next => exact ⟨trivial, trivial⟩

/-! ### Runs -/

section Runs

/-- An activation that changed the devices 1 and 2. -/
def activation : BundleRow :=
  { id := 1, mode := .routing, createdAt := 0, state := .succeeded, total := 2,
    lifecycle := .active, remaining := 2 }

/-- An action of the activation. -/
def activationAction (id position : ℕ) : RerouteRow :=
  { id, device := id, bundle := some 1, rollbackOf := none, trigger := .manual, mode := .routing
    createdAt := 0, state := .succeeded, effect := .changed, position := some position }

def activationSlot (id position : ℕ) : BundleActionRow :=
  { bundle := 1, position, device := id, mode := .routing, state := .succeeded, effect := .changed
    reroute := some id }

/-- Bundle 2 is to recover the activation. -/
def recovery (published : Bool) (slots : List BundleActionRow) : Db :=
  { reroutes := [activationAction 1 0, activationAction 2 1]
    bundles := [activation, { id := 2, mode := .routing, createdAt := 1, total := 2, published }]
    actions := [activationSlot 1 0, activationSlot 2 1] ++ slots }

/-- The inverses of the child, newest original first. -/
def inverseSlots : List BundleActionRow :=
  [{ bundle := 2, position := 0, device := 2, mode := .routing, original := some 2 },
    { bundle := 2, position := 1, device := 1, mode := .routing, original := some 1 }]

def claimActivation : RecoveryEvent := .claim 2 [1] [1, 2] (.minted 0) false

/-- An inverse that ran. -/
def ranInverse (id original : ℕ) (state : RerouteState) (effect : MutationEffect) : RerouteRow :=
  { id, device := original, bundle := some 2, rollbackOf := some original, trigger := .rollback
    mode := .routing, createdAt := 1, state, effect }

/-- The child claims the activation, and runs. -/
def recoveryRun (inverses : List RerouteRow) : List RecoveryEvent :=
  let claimed := Run.run recoveryStep {} [.elsewhere (recovery false inverseSlots), claimActivation]
  [.elsewhere (recovery false inverseSlots), claimActivation,
    .elsewhere { claimed with reroutes := claimed.reroutes ++ inverses }]

/-- A child that inverted all is settled in order. -/
theorem restoredRun_settles :
    RepeatedIdle
        (Run.run recoveryStep {} (recoveryRun [ranInverse 3 2 .succeeded .changed,
          ranInverse 4 1 .succeeded .changed]))
        (.finalize 2 .succeeded (.recovery 2)) ∧
      Counted
        (Run.run recoveryStep {} (recoveryRun [ranInverse 3 2 .succeeded .changed,
          ranInverse 4 1 .succeeded .changed]))
        (.finalize 2 .succeeded (.recovery 2)) :=
  (recovery_settles _ _).2.2 (by decide +kernel)

/-- A child that was published and failed before its ledger was written, settled twice; and a
child that inverted one mutation of two. -/
theorem not_repeatedIdle_not_counted :
    ¬ RepeatedIdle (Run.run recoveryStep {} [.elsewhere (recovery true []), claimActivation])
        (.finalize 2 .failed (.recovery 2)) ∧
      ¬ Counted
        (Run.run recoveryStep {} (recoveryRun [ranInverse 3 2 .succeeded .changed,
          ranInverse 4 1 .failed .noop]))
        (.finalize 2 .compensationBlocked (.recovery 2)) := by
  constructor
  · intro h
    have hbundles := congrArg Db.bundles h
    revert hbundles
    decide +kernel
  · intro h
    have hcount : ∀ db' ∈ finalizeRecoveryChild (Run.run recoveryStep {} (recoveryRun
        [ranInverse 3 2 .succeeded .changed, ranInverse 4 1 .failed .noop])) 2 .compensationBlocked
          (.recovery 2), ∀ m ∈ db'.attempts, m.child = 2 → m.settlement ≠ .blocked →
            ∀ b ∈ db'.bundles, b.id = m.source → b.remaining = (uninverted db' m.source).length := h
    revert hcount
    decide +kernel

end Runs

end Rerouter
